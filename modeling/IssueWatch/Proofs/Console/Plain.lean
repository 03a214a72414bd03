import IssueWatch.Archive
import IssueWatch.Console.Markup
import IssueWatch.Proofs.Action
import IssueWatch.Proofs.Console.Escape
import IssueWatch.Proofs.Decimal.Digits

/-!
# Plain texts are shown

A text in which no tag can start is shown as it is.  Numbers are such texts, so that a line or a table of plain
texts and numbers never stops an action.
-/
namespace IssueWatch

namespace Console

/-- A text without the characters that a tag, or what keeps a tag from acting, starts with. -/
def IsPlain (text : String) : Prop :=
  ∀ c ∈ text.toList, c ≠ '\\' ∧ c ≠ '['

instance : DecidablePred IsPlain := fun text =>
  List.decidableBAll (fun c => c ≠ '\\' ∧ c ≠ '[') text.toList

theorem IsPlain.append {first second : String} (firstPlain : IsPlain first)
    (secondPlain : IsPlain second) : IsPlain (first ++ second) := by
  intro c member
  rw [String.toList_append, List.mem_append] at member
  rcases member with member | member
  · exact firstPlain c member
  · exact secondPlain c member

theorem isPlain_of_digits {text : String} (digits : ∀ c ∈ text.toList, Decimal.isDigit c = true) :
    IsPlain text := by
  intro c member
  have digit := digits c member
  constructor <;>
    · rintro rfl
      revert digit
      decide

theorem isPlain_toString (value : Nat) : IsPlain (toString value) := by
  apply isPlain_of_digits
  rw [Nat.toString_eq_ofList_toDigits, String.toList_ofList]
  exact fun c => Decimal.isDigit_of_mem_toDigits

theorem isPlain_padded (width value : Nat) : IsPlain (Decimal.padded width value) :=
  isPlain_of_digits fun _ => Decimal.isDigit_of_mem_padded

theorem IsPlain.exists_resolve {text : String} (plain : IsPlain text) :
    ∃ shown, resolve text = .ok shown := by
  have resolved := resolveFrom_append plain [] []
  rw [List.append_nil] at resolved
  rw [resolve, resolved]
  exact ⟨_, rfl⟩

theorem mapM_eq_ok_iff {ε α β : Type} {step : α → Except ε β} {inputs : List α} {outputs : List β} :
    inputs.mapM step = .ok outputs ↔
      List.Forall₂ (fun input output => step input = .ok output) inputs outputs := by
  induction inputs generalizing outputs with
  | nil =>
      rw [List.mapM_nil, List.forall₂_nil_left_iff]
      constructor
      · rintro ⟨⟩
        rfl
      · rintro rfl
        rfl
  | cons input rest induction =>
      rw [List.mapM_cons, List.forall₂_cons_left_iff]
      cases first : step input with
      | error error =>
          refine ⟨nofun, ?_⟩
          rintro ⟨_, _, stepped, _⟩
          cases stepped
      | ok output =>
          cases others : rest.mapM step with
          | error error =>
              refine ⟨nofun, ?_⟩
              rintro ⟨_, restOutputs, _, stepped, _⟩
              rw [← induction, others] at stepped
              cases stepped
          | ok restOutputs =>
              constructor
              · rintro ⟨⟩
                exact ⟨output, restOutputs, rfl, induction.mp others, rfl⟩
              · rintro ⟨_, _, ⟨⟩, stepped, rfl⟩
                rw [← induction, others] at stepped
                cases stepped
                rfl

theorem exists_mapM_ok {α β : Type} {step : α → Except MarkupError β} {inputs : List α}
    (each : ∀ input ∈ inputs, ∃ output, step input = .ok output) :
    ∃ outputs, inputs.mapM step = .ok outputs := by
  induction inputs with
  | nil => exact ⟨[], rfl⟩
  | cons input rest induction =>
      rw [List.forall_mem_cons] at each
      obtain ⟨output, first⟩ := each.1
      obtain ⟨outputs, others⟩ := induction each.2
      rw [List.mapM_cons, first, others]
      exact ⟨output :: outputs, rfl⟩

theorem exists_show_table {title : String} {columns : List String} {rows : List (List String)}
    (titlePlain : IsPlain title) (columnsPlain : ∀ column ∈ columns, IsPlain column)
    (rowsPlain : ∀ row ∈ rows, ∀ cell ∈ row, IsPlain cell) :
    ∃ shown, (Entry.table title columns rows).show = .ok shown := by
  obtain ⟨shownTitle, titleResolved⟩ := titlePlain.exists_resolve
  obtain ⟨shownColumns, columnsResolved⟩ :=
    exists_mapM_ok fun column member => (columnsPlain column member).exists_resolve
  obtain ⟨shownRows, rowsResolved⟩ := exists_mapM_ok fun row member =>
    exists_mapM_ok fun cell inRow => (rowsPlain row member cell inRow).exists_resolve
  rw [Entry.show, titleResolved, columnsResolved, rowsResolved]
  exact ⟨_, rfl⟩

end Console

theorem Archive.Statistics.isPlain_sizeText (statistics : Statistics) :
    Console.IsPlain statistics.sizeText := by
  refine ((Console.isPlain_toString _).append (by decide)).append ?_
  split
  · exact Console.isPlain_toString _
  · exact Console.isPlain_padded 2 _

namespace Action

theorem perform_print_ok {entry : Console.Entry} {shown : Console.Printed}
    (showing : entry.show = .ok shown) (world : World) :
    perform (print entry) world = (.ok (), { world with printed := world.printed ++ [shown] }) := by
  rw [print, showing]
  rfl

/-- Entries that are shown stand behind what was printed before, and the others come behind them. -/
theorem perform_printAll_append {α : Type} {write : α → Console.Entry} {shown : α → Console.Printed}
    {inputs : List α} (each : ∀ input ∈ inputs, (write input).show = .ok (shown input))
    (rest : List Console.Entry) (world : World) :
    perform (printAll (inputs.map write ++ rest)) world =
      perform (printAll rest) { world with printed := world.printed ++ inputs.map shown } := by
  induction inputs generalizing world with
  | nil => simp
  | cons input inputs induction =>
      rw [List.forall_mem_cons] at each
      rw [List.map_cons, List.cons_append, printAll, perform_bind_ok (perform_print_ok each.1 world),
        induction each.2]
      simp

theorem perform_print_error {entry : Console.Entry} {error : Console.MarkupError}
    (failing : entry.show = .error error) (world : World) :
    perform (print entry) world = (.error (.markup error), world) := by
  rw [print, failing]
  rfl

/-- Printing puts at most the entry behind what was printed before. -/
theorem printed_print (entry : Console.Entry) (world : World) :
    (perform (print entry) world).2.printed = world.printed ++ entry.show.toOption.toList := by
  cases showing : entry.show with
  | ok shown => rw [perform_print_ok showing]; rfl
  | error error => rw [perform_print_error showing]; exact (List.append_nil _).symm

theorem exists_perform_say {text : String} (plain : Console.IsPlain text) (world : World) :
    ∃ printed, perform (say text) world = (.ok (), { world with printed }) := by
  obtain ⟨shown, resolved⟩ := plain.exists_resolve
  exact ⟨_, perform_say_ok resolved world⟩

theorem exists_perform_printAll {lines : List String} (plain : ∀ line ∈ lines, Console.IsPlain line)
    (world : World) :
    ∃ printed, perform (printAll (lines.map .line)) world = (.ok (), { world with printed }) := by
  induction lines generalizing world with
  | nil => exact ⟨world.printed, rfl⟩
  | cons line rest induction =>
      rw [List.forall_mem_cons] at plain
      obtain ⟨printed, said⟩ := exists_perform_say plain.1 world
      obtain ⟨morePrinted, others⟩ := induction plain.2 { world with printed }
      exact ⟨morePrinted, (perform_bind_ok said _).trans others⟩

end Action
end IssueWatch
