import IssueWatch.Proofs.Console.Plain
import IssueWatch.Proofs.Console.Verbatim

/-!
# Templates with an escaped value

A line that is put together from markup, an escaped value and more markup shows the value as it is between what the
markup shows.  The markup in front of it may open styles, and that behind it may close no bracket before it
opens one, with which an unfinished tag of the value would be complete.
-/
namespace IssueWatch.Console

/-- A text without brackets, backslashes and characters that are never printed. -/
def IsInert (text : List Char) : Prop :=
  ∀ c ∈ text, c ≠ '\\' ∧ isSilent c = false ∧ c ≠ '[' ∧ c ≠ ']'

instance : DecidablePred IsInert := fun text =>
  List.decidableBAll (fun c => c ≠ '\\' ∧ isSilent c = false ∧ c ≠ '[' ∧ c ≠ ']') text

namespace IsInert

variable {text first second : List Char}

theorem append (firstInert : IsInert first) (secondInert : IsInert second) : IsInert (first ++ second) :=
  List.forall_mem_append.mpr ⟨firstInert, secondInert⟩

theorem of_digits (digits : ∀ c ∈ text, c = '-' ∨ Decimal.isDigit c = true) : IsInert text := by
  obtain ⟨legible, noOpen⟩ := isLegible_of_digits digits
  refine fun c member => ⟨(legible c member).1, (legible c member).2, ?_, ?_⟩
  · rintro rfl
    exact noOpen member
  · rintro rfl
    have digit := digits ']' member
    revert digit
    decide

theorem toString_nat (value : Nat) : IsInert (toString value).toList := by
  refine of_digits fun c member => .inr ?_
  rw [Nat.toString_eq_ofList_toDigits, String.toList_ofList] at member
  exact Decimal.isDigit_of_mem_toDigits member

theorem toString_int (value : Int) : IsInert (toString value).toList :=
  of_digits fun _ => Decimal.eq_minus_or_isDigit_of_mem_toString

theorem printed (inert : IsInert text) : ∀ c ∈ text, isSilent c = false :=
  fun c member => (inert c member).2.1

theorem plain (inert : IsInert text) : ∀ c ∈ text, c ≠ '\\' ∧ c ≠ '[' :=
  fun c member => ⟨(inert c member).1, (inert c member).2.2.1⟩

theorem not_closes (inert : IsInert text) : ¬ Closes text := by
  intro closes
  exact (inert ']' ((List.dropWhile_suffix _).subset (List.mem_of_mem_head? closes))).2.2.2 rfl

theorem resolveFrom_eq (inert : IsInert text) (opened : List OpenTag) : resolveFrom 0 opened text = .ok text := by
  have shown := resolveFrom_append inert.plain opened []
  rwa [List.append_nil, resolveFrom, Except.map, List.append_nil] at shown

end IsInert

theorem resolve_inert {text : String} (inert : IsInert text.toList) : resolve text = .ok text :=
  resolve_eq_ok (inert.resolveFrom_eq []) inert.printed

/-- In front of any text, some markup shows a text of its own and leads from some open tags to others. -/
def Leads (markup : List Char) (outside inside : List OpenTag) (shown : List Char) : Prop :=
  ∀ rest, resolveFrom 0 outside (markup ++ rest) = (resolveFrom 0 inside rest).map (shown ++ ·)

theorem leads_plain {text : List Char} (plain : ∀ c ∈ text, c ≠ '\\' ∧ c ≠ '[') (opened : List OpenTag) :
    Leads text opened opened text :=
  resolveFrom_append plain opened

theorem leads_tag {body : List Char} (isBody : IsTagBody body) {outside inside : List OpenTag}
    (acts : act outside body = .ok inside) : Leads (Tag.chars ⟨0, body⟩) outside inside [] := by
  intro rest
  rw [resolveFrom_tag isBody, acts, Except.bind]
  cases resolveFrom 0 inside rest <;> rfl

theorem Leads.append {first second shown more : List Char} {outside between inside : List OpenTag}
    (leads : Leads first outside between shown) (onward : Leads second between inside more) :
    Leads (first ++ second) outside inside (shown ++ more) := by
  intro rest
  rw [List.append_assoc, leads, onward, map_append_map]

/-- An escaped value is shown as it is in front of markup that closes no bracket of it. -/
theorem resolve_filled {front behind value shown last : String} {inside : List OpenTag}
    (leads : Leads front.toList [] inside shown.toList) (legible : IsLegible value.toList)
    (opens : ¬ Closes behind.toList) (closes : resolveFrom 0 inside behind.toList = .ok last.toList)
    (printed : ∀ c ∈ shown.toList ++ last.toList, isSilent c = false) :
    resolve (front ++ escape value ++ behind) = .ok (shown ++ value ++ last) := by
  rw [List.forall_mem_append] at printed
  refine resolve_eq_ok ?_ ?_
  · rw [String.toList_append, String.toList_append, List.append_assoc, leads,
      resolveFrom_escape legible.survivesEscape.toKeepsBackslashes opens, closes]
    simp [Except.map]
  · simp only [String.toList_append, List.forall_mem_append]
    exact ⟨⟨printed.1, fun c member => (legible c member).2⟩, printed.2⟩

/-- Between inert texts an escaped value is shown as it is. -/
theorem resolve_between {front behind value : String} (legible : IsLegible value.toList)
    (frontInert : IsInert front.toList) (behindInert : IsInert behind.toList) :
    resolve (front ++ escape value ++ behind) = .ok (front ++ value ++ behind) :=
  resolve_filled (resolveFrom_append frontInert.plain []) legible behindInert.not_closes
    (behindInert.resolveFrom_eq []) (List.forall_mem_append.mpr ⟨frontInert.printed, behindInert.printed⟩)

/-- Behind an inert text an escaped value is shown as it is. -/
theorem resolve_behind {front value : String} (legible : IsLegible value.toList)
    (frontInert : IsInert front.toList) : resolve (front ++ escape value) = .ok (front ++ value) := by
  have resolved := resolve_between legible frontInert (show IsInert "".toList by decide)
  rwa [String.append_empty, String.append_empty] at resolved

/-- A tag in front of a label opens a style for an escaped value, and the closing tag behind the value ends it. -/
theorem resolve_styled {opening closing front label value : String} {style : List Char} {inside : List OpenTag}
    (openingEq : opening.toList = front.toList ++ (Tag.chars ⟨0, style⟩ ++ label.toList))
    (closingEq : closing.toList = Tag.chars ⟨0, '/' :: style⟩) (isBody : tagBody? (style ++ [']']) = some style)
    (isClosingBody : tagBody? ('/' :: style ++ [']']) = some ('/' :: style)) (acts : act [] style = .ok inside)
    (ends : act inside ('/' :: style) = .ok []) (legible : IsLegible value.toList)
    (frontInert : IsInert front.toList) (labelInert : IsInert label.toList) :
    resolve (opening ++ escape value ++ closing) = .ok (front ++ label ++ value) := by
  have leads : Leads opening.toList [] inside (front ++ label).toList := by
    rw [openingEq, String.toList_append]
    exact (leads_plain frontInert.plain []).append
      ((leads_tag (isTagBody_of_tagBody? isBody).1 acts).append (leads_plain labelInert.plain inside))
  have opens : ¬ Closes closing.toList := by
    rw [closingEq, ← List.append_nil (Tag.chars _)]
    exact not_closes_chars _ []
  have closes : resolveFrom 0 inside closing.toList = .ok "".toList := by
    have ended := leads_tag (isTagBody_of_tagBody? isClosingBody).1 ends []
    rw [List.append_nil] at ended
    rw [closingEq, ended]
    rfl
  have printed : ∀ c ∈ (front ++ label).toList ++ "".toList, isSilent c = false := by
    rw [String.toList_empty, List.append_nil, String.toList_append]
    exact (frontInert.append labelInert).printed
  have resolved := resolve_filled leads legible opens closes printed
  rwa [String.append_empty] at resolved

end IssueWatch.Console
