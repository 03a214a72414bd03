import IssueWatch.Proofs.Console.Escape
import IssueWatch.Proofs.Decimal.Digits
import Mathlib.Data.List.Infix

/-!
# Texts that are shown verbatim

An escaped text is shown as it is if its backslashes are kept and all its characters are printed.  A text without
backslashes that is not escaped is shown as it is exactly if it holds no tag: the characters of a tag that acts are
taken away, and one that cannot act keeps the whole text from being shown.
-/
namespace IssueWatch.Console

/-- A text that is shown as it is once it is escaped. -/
structure SurvivesEscape (text : List Char) : Prop extends KeepsBackslashes text where
  printed : ∀ c ∈ text, isSilent c = false

/-- A text without backslashes and characters that are never printed. -/
def IsLegible (text : List Char) : Prop :=
  ∀ c ∈ text, c ≠ '\\' ∧ isSilent c = false

instance : DecidablePred IsLegible := fun text =>
  List.decidableBAll (fun c => c ≠ '\\' ∧ isSilent c = false) text

theorem IsLegible.noBackslash {text : List Char} (legible : IsLegible text) : '\\' ∉ text :=
  fun member => (legible _ member).1 rfl

theorem IsLegible.append {first second : List Char} (firstLegible : IsLegible first)
    (secondLegible : IsLegible second) : IsLegible (first ++ second) :=
  List.forall_mem_append.mpr ⟨firstLegible, secondLegible⟩

theorem IsLegible.survivesEscape {text : List Char} (legible : IsLegible text) :
    SurvivesEscape text :=
  ⟨keepsBackslashes_of_not_mem legible.noBackslash, fun c member => (legible c member).2⟩

theorem survivesEscape_nil : SurvivesEscape [] :=
  IsLegible.survivesEscape (List.forall_mem_nil _)

theorem SurvivesEscape.append {first second : List Char} (firstSurvives : SurvivesEscape first)
    (secondSurvives : SurvivesEscape second) : SurvivesEscape (first ++ second) where
  toKeepsBackslashes := firstSurvives.toKeepsBackslashes.append secondSurvives.toKeepsBackslashes
  printed := List.forall_mem_append.mpr ⟨firstSurvives.printed, secondSurvives.printed⟩

theorem resolve_eq_ok {markup text : String} (resolved : resolveFrom 0 [] markup.toList = .ok text.toList)
    (printed : ∀ c ∈ text.toList, isSilent c = false) : resolve markup = .ok text := by
  have kept : (text.toList.filter fun c => !isSilent c) = text.toList := by
    rw [List.filter_eq_self]
    intro c member
    rw [printed c member]
    rfl
  rw [resolve, resolved, Except.map, kept, String.ofList_toList]

theorem resolve_escape {text : String} (survives : SurvivesEscape text.toList) :
    resolve (escape text) = .ok text := by
  refine resolve_eq_ok ?_ survives.printed
  have opens : ¬ Closes [] := nofun
  have resolved := resolveFrom_escape survives.toKeepsBackslashes opens []
  rw [List.append_nil] at resolved
  rw [resolved, resolveFrom]
  exact congrArg Except.ok (List.append_nil _)

/-- A tag without backslashes acts, unless it closes what is not open. -/
theorem resolveFrom_tag {body : List Char} (isBody : IsTagBody body) (opened : List OpenTag)
    (rest : List Char) :
    resolveFrom 0 opened (Tag.chars ⟨0, body⟩ ++ rest) =
      (act opened body).bind fun inside => resolveFrom 0 inside rest := by
  have found : tagAt? (Tag.chars ⟨0, body⟩ ++ rest) = some ⟨0, body⟩ := tagAt?_chars isBody rest
  obtain ⟨c, tail, charsEq, tailLength⟩ := Tag.exists_chars_eq_cons ⟨0, body⟩
  rw [charsEq, List.cons_append] at found ⊢
  have unguarded : ¬ 0 % 2 = 1 := by decide
  rw [resolveFrom, found]
  simp only [if_neg unguarded, ← tailLength, resolveFrom_passed]
  cases act opened body with
  | error error => rfl
  | ok inside =>
      change (resolveFrom 0 inside rest).map _ = resolveFrom 0 inside rest
      cases resolveFrom 0 inside rest <;> rfl

/-! ## Texts that are not escaped -/

/-- Somewhere in a text a tag stands. -/
def HoldsTag (text : List Char) : Prop :=
  ∃ rest ∈ text.tails, (tagAt? rest).isSome = true

instance : DecidablePred HoldsTag := fun text =>
  inferInstanceAs (Decidable (∃ rest ∈ text.tails, (tagAt? rest).isSome = true))

theorem not_holdsTag_nil : ¬ HoldsTag [] := by
  decide

theorem holdsTag_cons {c : Char} {rest : List Char} :
    HoldsTag (c :: rest) ↔ (tagAt? (c :: rest)).isSome = true ∨ HoldsTag rest := by
  simp [HoldsTag]

theorem not_holdsTag_of_not_mem {text : List Char} (noOpen : '[' ∉ text) : ¬ HoldsTag text := by
  rintro ⟨rest, isRest, found⟩
  obtain ⟨tag, found⟩ := Option.isSome_iff_exists.mp found
  obtain ⟨_, behind, rfl⟩ := chars_of_tagAt? found
  apply noOpen
  apply ((List.mem_tails _ _).mp isRest).subset
  simp [Tag.chars]

theorem resolveFrom_of_not_holdsTag {text : List Char} (noBackslash : '\\' ∉ text)
    (noTag : ¬ HoldsTag text) (opened : List OpenTag) : resolveFrom 0 opened text = .ok text := by
  induction text with
  | nil => rfl
  | cons c rest induction =>
      rw [List.mem_cons, not_or] at noBackslash
      rw [holdsTag_cons, not_or, Option.not_isSome_iff_eq_none] at noTag
      rw [resolveFrom_plain noTag.1, if_neg fun hides => noBackslash.1 hides.1.symm,
        induction noBackslash.2 noTag.2]
      rfl

/-- Of a text without backslashes nothing is added when it is shown, and a tag is taken away. -/
theorem length_of_resolveFrom {text shown : List Char} (noBackslash : '\\' ∉ text)
    {opened : List OpenTag} (resolved : resolveFrom 0 opened text = .ok shown) :
    shown.length ≤ text.length ∧ (HoldsTag text → shown.length < text.length) := by
  induction text using inductionOnTags generalizing shown opened with
  | nil =>
      cases resolved
      exact ⟨le_rfl, fun holds => absurd holds not_holdsTag_nil⟩
  | tag tag rest isBody induction =>
      obtain ⟨backslashes, body⟩ := tag
      have restPlain : '\\' ∉ rest := fun member => noBackslash (List.mem_append_right _ member)
      have unguarded : backslashes = 0 := by
        by_contra guarded
        exact noBackslash (by simp [Tag.chars, guarded])
      subst unguarded
      rw [resolveFrom_tag isBody] at resolved
      cases acts : act opened body with
      | error error =>
          rw [acts] at resolved
          cases resolved
      | ok inside =>
          rw [acts] at resolved
          have shorter := (induction restPlain resolved).1
          have length := Tag.length_chars ⟨0, body⟩
          rw [Tag.length] at length
          rw [List.length_append]
          exact ⟨by omega, fun _ => by omega⟩
  | plain c rest noTag induction =>
      rw [List.mem_cons, not_or] at noBackslash
      rw [resolveFrom_plain noTag, if_neg fun hides => noBackslash.1 hides.1.symm] at resolved
      rw [holdsTag_cons, noTag, Option.isSome_none]
      cases others : resolveFrom 0 opened rest with
      | error error =>
          rw [others] at resolved
          cases resolved
      | ok restShown =>
          rw [others] at resolved
          cases resolved
          have shorter := induction noBackslash.2 others
          simp only [List.length_cons, Bool.false_eq_true, false_or]
          exact ⟨Nat.succ_le_succ shorter.1, fun holds => Nat.succ_lt_succ (shorter.2 holds)⟩

/-- A text that is not escaped is shown as it is exactly if it holds no tag. -/
theorem resolve_eq_self_iff {text : String} (legible : IsLegible text.toList) :
    resolve text = .ok text ↔ ¬ HoldsTag text.toList := by
  constructor
  · intro resolved holds
    rw [resolve] at resolved
    cases shownFrom : resolveFrom 0 [] text.toList with
    | error error =>
        rw [shownFrom] at resolved
        cases resolved
    | ok shown =>
        rw [shownFrom] at resolved
        have shorter := (length_of_resolveFrom legible.noBackslash shownFrom).2 holds
        have same : String.ofList (shown.filter fun c => !isSilent c) = text := Except.ok.inj resolved
        have lengths := congrArg (fun text => text.toList.length) same
        have filtered := List.length_filter_le (fun c => !isSilent c) shown
        rw [String.toList_ofList] at lengths
        omega
  · intro noTag
    exact resolve_eq_ok (resolveFrom_of_not_holdsTag legible.noBackslash noTag []) fun c member =>
      (legible c member).2

theorem isLegible_of_digits {text : List Char} (digits : ∀ c ∈ text, c = '-' ∨ Decimal.isDigit c = true) :
    IsLegible text ∧ '[' ∉ text := by
  refine ⟨fun c member => ?_, fun member => ?_⟩
  · rcases digits c member with rfl | digit
    · decide
    · rw [Decimal.isDigit, Bool.and_eq_true, decide_eq_true_eq, decide_eq_true_eq] at digit
      refine ⟨?_, ?_⟩
      · rintro rfl
        revert digit
        decide
      · simp only [isSilent, Bool.or_eq_false_iff, beq_eq_false_iff_ne]
        omega
  · have digit := digits '[' member
    revert digit
    decide

/-- A number behind a text in which no tag starts is shown as it is. -/
theorem resolve_append_number {front : String} (frontLegible : IsLegible front.toList)
    (noOpen : '[' ∉ front.toList) (number : Int) :
    resolve (front ++ toString number) = .ok (front ++ toString number) := by
  obtain ⟨legible, noOpenBehind⟩ : IsLegible (toString number).toList ∧ '[' ∉ (toString number).toList :=
    isLegible_of_digits fun _ => Decimal.eq_minus_or_isDigit_of_mem_toString
  have bothLegible : IsLegible (front ++ toString number).toList := by
    rw [String.toList_append]
    exact frontLegible.append legible
  rw [resolve_eq_self_iff bothLegible, String.toList_append]
  apply not_holdsTag_of_not_mem
  rw [List.mem_append, not_or]
  exact ⟨noOpen, noOpenBehind⟩

end IssueWatch.Console
