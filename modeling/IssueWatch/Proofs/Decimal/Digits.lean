import IssueWatch.Decimal
import Mathlib.Data.String.Basic

/-!
# Written numbers

The digits of a number stand for the number, also behind zeros.  Numbers that are written with the same number
of digits are ordered like their texts: the texts are compared from the front, so that the last digit
decides only where all others agree.
-/
namespace IssueWatch

namespace Text

theorem append_lt_append_iff {first second : List Char} (sameLength : first.length = second.length)
    (rest others : List Char) :
    first ++ rest < second ++ others ↔ first < second ∨ first = second ∧ rest < others := by
  induction first generalizing second with
  | nil =>
      obtain rfl := List.length_eq_zero_iff.mp sameLength.symm
      simp
  | cons c first induction =>
      obtain ⟨other, second, rfl⟩ := List.exists_cons_of_length_eq_add_one sameLength.symm
      have shorter : first.length = second.length := by simpa using sameLength
      rw [List.cons_append, List.cons_append, List.cons_lt_cons_iff, List.cons_lt_cons_iff,
        induction shorter, List.cons.injEq]
      tauto

theorem append_lt_append_left_iff (front rest others : List Char) :
    front ++ rest < front ++ others ↔ rest < others := by
  rw [append_lt_append_iff rfl]
  simp

end Text

namespace Decimal

theorem isDigit_of_mem_toDigits {value : Nat} {c : Char} (member : c ∈ Nat.toDigits 10 value) :
    isDigit c = true := by
  have digit := Nat.isDigit_of_mem_toDigits (by decide) le_rfl member
  simpa [Char.isDigit, isDigit, UInt32.le_iff_toNat_le] using digit

theorem ofDigits_toDigits (value : Nat) : ofDigits (Nat.toDigits 10 value) = value := by
  calc
    ofDigits (Nat.toDigits 10 value) = Nat.ofDigitChars 10 (Nat.toDigits 10 value) 0 :=
      Nat.ofDigitChars_eq_foldl.symm
    _ = value := Nat.ofDigitChars_ten_toDigits

theorem toList_toString_int (value : Int) :
    (toString value).toList =
      (if value < 0 then ['-'] else []) ++ Nat.toDigits 10 value.natAbs := by
  rw [Int.toString_eq_repr, Int.repr_eq_if]
  by_cases negative : value < 0
  · have size : (-value).toNat = value.natAbs := by omega
    rw [if_neg (by omega), if_pos negative, size, Nat.repr_eq_ofList_toDigits]
    simp
  · have size : value.toNat = value.natAbs := by omega
    rw [if_pos (by omega), if_neg negative, size, Nat.repr_eq_ofList_toDigits]
    simp

theorem eq_minus_or_isDigit_of_mem_toString {value : Int} {c : Char} (member : c ∈ (toString value).toList) :
    c = '-' ∨ isDigit c = true := by
  rw [toList_toString_int, List.mem_append] at member
  rcases member with sign | digit
  · split_ifs at sign
    · exact .inl (List.mem_singleton.mp sign)
    · cases sign
  · exact .inr (isDigit_of_mem_toDigits digit)

theorem digitChar_lt_iff {m n : Nat} (mSmall : m < 10) (nSmall : n < 10) :
    m.digitChar < n.digitChar ↔ m < n := by
  have each : ∀ m < 10, ∀ n < 10, m.digitChar < n.digitChar ↔ m < n := by decide
  exact each m mSmall n nSmall

/-! ## Numbers behind zeros -/

theorem toList_padded (width value : Nat) :
    (padded width value).toList =
      List.replicate (width - (Nat.toDigits 10 value).length) '0' ++ Nat.toDigits 10 value := by
  rw [padded, Nat.toString_eq_ofList_toDigits]
  simp

theorem ofDigits_padded (width value : Nat) : ofDigits (padded width value).toList = value := by
  have zeros (count : Nat) (digits : List Char) :
      ofDigits (List.replicate count '0' ++ digits) = ofDigits digits := by
    induction count with
    | zero => rfl
    | succ count induction => exact induction
  rw [toList_padded, zeros, ofDigits_toDigits]

theorem toList_padded_inj {width m n : Nat} :
    (padded width m).toList = (padded width n).toList ↔ m = n := by
  constructor
  · intro same
    rw [← ofDigits_padded width m, same, ofDigits_padded]
  · rintro rfl
    rfl

theorem isDigit_of_mem_padded {width value : Nat} {c : Char} (member : c ∈ (padded width value).toList) :
    isDigit c = true := by
  rw [toList_padded, List.mem_append] at member
  rcases member with zero | digit
  · rw [List.eq_of_mem_replicate zero]
    decide
  · exact isDigit_of_mem_toDigits digit

theorem length_padded {width value : Nat} (positive : 0 < width) (small : value < 10 ^ width) :
    (padded width value).toList.length = width := by
  have fits := (Nat.length_toDigits_le_iff (by decide) positive).mpr small
  rw [toList_padded, List.length_append, List.length_replicate]
  omega

theorem toList_padded_one {digit : Nat} (small : digit < 10) :
    (padded 1 digit).toList = [digit.digitChar] := by
  rw [toList_padded, Nat.toDigits_of_lt_base small]
  rfl

/-- The last digit stands behind the other digits, which are those of the tens. -/
theorem toList_padded_add_two (width value : Nat) :
    (padded (width + 2) value).toList =
      (padded (width + 1) (value / 10)).toList ++ [(value % 10).digitChar] := by
  rw [toList_padded, toList_padded]
  rcases Nat.lt_or_ge value 10 with small | large
  · have noTens : Nat.toDigits 10 (value / 10) = ['0'] := by
      rw [Nat.div_eq_of_lt small]
      rfl
    rw [noTens, Nat.toDigits_of_lt_base small, Nat.mod_eq_of_lt small]
    exact congrArg (· ++ [value.digitChar]) List.replicate_succ'
  · rw [Nat.toDigits_of_base_le (by decide) large, List.length_append, List.length_singleton,
      ← List.append_assoc, Nat.add_sub_add_right width.succ 1]

theorem padded_lt_padded_iff {width m n : Nat} (mSmall : m < 10 ^ (width + 1))
    (nSmall : n < 10 ^ (width + 1)) :
    (padded (width + 1) m).toList < (padded (width + 1) n).toList ↔ m < n := by
  -- The tens are compared by induction, and the last digits only if the tens are equal.
  induction width generalizing m n with
  | zero =>
      rw [toList_padded_one mSmall, toList_padded_one nSmall, List.cons_lt_cons_iff,
        digitChar_lt_iff mSmall nSmall]
      simp
  | succ width induction =>
      have mTens : m / 10 < 10 ^ (width + 1) := Nat.div_lt_of_lt_mul (by rwa [← pow_succ'])
      have nTens : n / 10 < 10 ^ (width + 1) := Nat.div_lt_of_lt_mul (by rwa [← pow_succ'])
      have sameLength := (length_padded (by omega) mTens).trans (length_padded (by omega) nTens).symm
      have lastDigit : [(m % 10).digitChar] < [(n % 10).digitChar] ↔ m % 10 < n % 10 := by
        rw [List.cons_lt_cons_iff, digitChar_lt_iff (Nat.mod_lt m (by decide)) (Nat.mod_lt n (by decide))]
        simp
      rw [toList_padded_add_two, toList_padded_add_two, Text.append_lt_append_iff sameLength,
        induction mTens nTens, toList_padded_inj, lastDigit]
      omega

/-- Behind numbers of one width, what follows decides only if the numbers are equal. -/
theorem padded_append_lt_iff {width m n : Nat} (mSmall : m < 10 ^ (width + 1))
    (nSmall : n < 10 ^ (width + 1)) (rest others : List Char) :
    (padded (width + 1) m).toList ++ rest < (padded (width + 1) n).toList ++ others ↔
      m < n ∨ m = n ∧ rest < others := by
  have sameLength := (length_padded (by omega) mSmall).trans (length_padded (by omega) nSmall).symm
  rw [Text.append_lt_append_iff sameLength, padded_lt_padded_iff mSmall nSmall, toList_padded_inj]

/-- A number with all its digits is written without zeros in front. -/
theorem padded_of_le {width value : Nat} (positive : 0 < width) (large : 10 ^ width ≤ value) :
    padded (width + 1) value = toString value := by
  have long := (Nat.length_toDigits_le_iff (by decide) positive).not.mpr (Nat.not_lt.mpr large)
  rw [← String.toList_inj, toList_padded, Nat.toString_eq_ofList_toDigits, String.toList_ofList,
    show width + 1 - (Nat.toDigits 10 value).length = 0 by omega]
  rfl

end Decimal
end IssueWatch
