import IssueWatch.Json.Schema
import IssueWatch.Json.Value
import IssueWatch.Text.Integer
import Mathlib.Algebra.Group.Nat.Defs
import Mathlib.Data.List.Induction
import Mathlib.Data.List.Nodup
import Mathlib.Data.List.TakeWhile
import Mathlib.Tactic.SplitIfs

/-!
# Plain values

The values that a text keeps as they are: no floating-point number, no integer with too many digits to be
read, and no key twice in an object.
-/
namespace IssueWatch.Json

/-- Whether an integer is written with few enough digits to be read. -/
def IsShort (value : Int) : Prop :=
  value.natAbs < 10 ^ Text.maxDigits

instance : DecidablePred IsShort := fun value =>
  inferInstanceAs (Decidable (value.natAbs < 10 ^ Text.maxDigits))

inductive Plain : Json → Prop where
  | null : Plain .null
  | bool (value : Bool) : Plain (.bool value)
  | int {value : Int} (short : IsShort value) : Plain (.int value)
  | string (value : String) : Plain (.string value)
  | array {items : List Json} (plainItems : ∀ item ∈ items, Plain item) : Plain (.array items)
  | object {fields : Fields} (distinct : (fields.map Prod.fst).Nodup)
      (plainValues : ∀ entry ∈ fields, Plain entry.2) : Plain (.object fields)

/-! ## Setting fields -/

theorem setField_of_notMem {key : String} {fields : Fields} (new : key ∉ fields.map Prod.fst)
    (value : Json) : setField key value fields = fields ++ [(key, value)] := by
  induction fields with
  | nil => rfl
  | cons entry rest induction =>
    obtain ⟨name, old⟩ := entry
    rw [List.map_cons, List.mem_cons, not_or] at new
    rw [setField, if_neg (Ne.symm new.1), induction new.2, List.cons_append]

theorem map_fst_setField_of_mem {key : String} {fields : Fields} (present : key ∈ fields.map Prod.fst)
    (value : Json) : (setField key value fields).map Prod.fst = fields.map Prod.fst := by
  induction fields with
  | nil => cases present
  | cons entry rest induction =>
    obtain ⟨name, old⟩ := entry
    by_cases same : name = key
    · rw [setField, if_pos same, List.map_cons, List.map_cons]
    · have later : key ∈ rest.map Prod.fst := by
        rcases List.mem_cons.mp present with here | later
        · exact absurd here.symm same
        · exact later
      rw [setField, if_neg same, List.map_cons, List.map_cons, induction later]

theorem nodup_setField {fields : Fields} (distinct : (fields.map Prod.fst).Nodup) (key : String)
    (value : Json) : ((setField key value fields).map Prod.fst).Nodup := by
  by_cases present : key ∈ fields.map Prod.fst
  · rwa [map_fst_setField_of_mem present]
  · rw [setField_of_notMem present, List.map_append, List.nodup_append]
    refine ⟨distinct, List.nodup_singleton key, ?_⟩
    rintro name member other isKey rfl
    rw [List.mem_singleton.mp isKey] at member
    exact present member

theorem mem_setField {key : String} {value : Json} {fields : Fields} {entry : String × Json}
    (member : entry ∈ setField key value fields) : entry = (key, value) ∨ entry ∈ fields := by
  induction fields with
  | nil => simpa [setField] using member
  | cons first rest induction =>
    obtain ⟨name, old⟩ := first
    by_cases same : name = key
    · rw [setField, if_pos same, same] at member
      exact (List.mem_cons.mp member).imp_right (List.mem_cons_of_mem _)
    · rw [setField, if_neg same] at member
      rcases List.mem_cons.mp member with here | later
      · exact .inr (List.mem_cons.mpr (.inl here))
      · exact (induction later).imp_right (List.mem_cons_of_mem _)

theorem Plain.setField {fields : Fields} {value : Json} (plain : Plain (.object fields))
    (plainValue : Plain value) (key : String) : Plain (.object (setField key value fields)) := by
  cases plain with
  | object distinct plainValues =>
      refine .object (nodup_setField distinct key value) fun entry member => ?_
      rcases mem_setField member with rfl | present
      · exact plainValue
      · exact plainValues entry present

end IssueWatch.Json

/-!
## Sizes of integers that are read

An integer that is read from anything but an integer has few enough digits to be stored: texts are short, and
floating-point numbers count as integers only if they are small.
-/
namespace IssueWatch

namespace Decimal

theorem ofDigits_append_singleton (digits : List Char) (c : Char) :
    ofDigits (digits ++ [c]) = 10 * ofDigits digits + digitValue c := by
  simp [ofDigits]

theorem digitValue_lt_ten {c : Char} (digit : isDigit c = true) : digitValue c < 10 := by
  simp only [isDigit, Bool.and_eq_true, decide_eq_true_eq] at digit
  rw [digitValue]
  omega

theorem ofDigits_lt {digits : List Char} (each : ∀ c ∈ digits, isDigit c = true) :
    ofDigits digits < 10 ^ digits.length := by
  induction digits using List.reverseRecOn with
  | nil => decide
  | append_singleton digits c induction =>
      have front := induction fun other member => each other (List.mem_append_left _ member)
      have last := digitValue_lt_ten (each c (List.mem_append_right _ (List.mem_singleton.mpr rfl)))
      rw [ofDigits_append_singleton, List.length_append, List.length_singleton, Nat.pow_succ]
      omega

end Decimal

namespace Json

theorem isShort_neg {value : Int} (short : IsShort value) : IsShort (-value) := by
  rwa [IsShort, Int.natAbs_neg]

theorem isShort_ofDigits {digits : List Char} (each : ∀ c ∈ digits, Decimal.isDigit c = true)
    (few : digits.length ≤ maxIntegerLength) : IsShort (Decimal.ofDigits digits) := by
  rw [IsShort, Int.natAbs_natCast]
  exact Nat.lt_of_lt_of_le (Decimal.ofDigits_lt each) (Nat.pow_le_pow_right (by decide) few)

theorem isShort_of_lt_wordBound {value : Int} (above : -wordBound < value) (below : value < wordBound) :
    IsShort value := by
  have room : (0x8000000000000000 : Nat) ≤ 10 ^ Text.maxDigits :=
    Nat.le_trans (by decide : 0x8000000000000000 ≤ 10 ^ 19) (Nat.pow_le_pow_right (by decide) (by decide))
  have size : value.natAbs < 0x8000000000000000 := by
    rw [wordBound] at above below
    omega
  exact Nat.lt_of_lt_of_le size room

theorem isShort_of_readPlainInteger {text : List Char} {value : Int}
    (read : readPlainInteger text = .ok value) : IsShort value := by
  unfold readPlainInteger at read
  split at read
  dsimp only at read
  split at read
  · cases read
  · split_ifs at read
    cases read
    decide +kernel
  · split_ifs at read with long loose sign
    all_goals cases read
    · refine isShort_neg (isShort_ofDigits (fun c => List.mem_takeWhile_imp) ?_)
      omega
    · refine isShort_ofDigits (fun c => List.mem_takeWhile_imp) ?_
      omega

theorem isShort_of_readIntegerText {text : List Char} {value : Int}
    (read : readIntegerText text = .ok value) : IsShort value := by
  rw [readIntegerText] at read
  split at read
  · split at read
    · exact isShort_of_readPlainInteger read
    · cases read
  · exact isShort_of_readPlainInteger read

/-- What is read from a value that is no integer itself is short. -/
theorem isShort_of_readInteger {found : Json} {value : Int} (read : readInteger found = .ok value)
    (short : ∀ number, found = .int number → IsShort number) : IsShort value := by
  cases found with
  | int number =>
      cases read
      exact short _ rfl
  | bool given =>
      cases read
      cases given <;> decide +kernel
  | float given =>
      simp only [readInteger] at read
      split at read
      · split at read
        · split_ifs at read with small
          · cases read
            exact isShort_of_lt_wordBound small.1 small.2
          · cases read
        · cases read
      · cases read
  | string text =>
      simp only [readInteger] at read
      split at read
      · cases read
        exact isShort_of_readIntegerText ‹_›
      · cases read
      · cases read
  | null | array | object => cases read

end Json
end IssueWatch
