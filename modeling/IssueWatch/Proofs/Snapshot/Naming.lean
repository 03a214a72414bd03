import IssueWatch.Archive
import IssueWatch.Proofs.Decimal.Digits

/-!
# Names of snapshot files

In years of four digits every part of a time has a fixed number of digits in the name of its file.  So the names
are ordered like the minutes on the clock, and two times have the same name only in the same minute.
-/
namespace IssueWatch

namespace Timestamp

/-- The minute that calendar and clock show, from the year on. -/
def minuteOnClock (time : Timestamp) : List Nat :=
  [time.year, time.month, time.day, time.hour, time.minute]

/-- A time that calendar and clock show in a year of four digits, at any second and with any offset. -/
structure HasFourDigitYear (time : Timestamp) : Prop where
  year : 1000 ≤ time.year ∧ time.year ≤ 9999
  month : 1 ≤ time.month ∧ time.month ≤ 12
  day : 1 ≤ time.day ∧ time.day ≤ 31
  hour : time.hour < 24
  minute : time.minute < 60

theorem HasFourDigitYear.widths {time : Timestamp} (four : time.HasFourDigitYear) :
    time.year < 10 ^ 4 ∧ time.month < 10 ^ 2 ∧ time.day < 10 ^ 2 ∧ time.hour < 10 ^ 2 ∧
      time.minute < 10 ^ 2 := by
  have year := four.year
  have month := four.month
  have day := four.day
  have hour := four.hour
  have minute := four.minute
  omega

end Timestamp

namespace Archive

open Decimal

variable {first second time : Timestamp}

theorem toList_fileName (four : time.HasFourDigitYear) :
    (fileName time).toList =
      "Issues_".toList ++ ((padded 4 time.year).toList ++ ("-".toList ++ ((padded 2 time.month).toList ++
        ("-".toList ++ ((padded 2 time.day).toList ++ ("@".toList ++ ((padded 2 time.hour).toList ++
          ("-".toList ++ ((padded 2 time.minute).toList ++ ".json".toList))))))))) := by
  rw [padded_of_le (by decide) four.year.1]
  delta fileName
  simp only [String.toList_append, List.append_assoc]

theorem fileName_lt_fileName_iff (firstFour : first.HasFourDigitYear)
    (secondFour : second.HasFourDigitYear) :
    fileName first < fileName second ↔ first.minuteOnClock < second.minuteOnClock := by
  obtain ⟨year, month, day, hour, minute⟩ := firstFour.widths
  obtain ⟨otherYear, otherMonth, otherDay, otherHour, otherMinute⟩ := secondFour.widths
  rw [String.lt_iff_toList_lt, toList_fileName firstFour, toList_fileName secondFour,
    Text.append_lt_append_left_iff, padded_append_lt_iff year otherYear,
    Text.append_lt_append_left_iff, padded_append_lt_iff month otherMonth,
    Text.append_lt_append_left_iff, padded_append_lt_iff day otherDay,
    Text.append_lt_append_left_iff, padded_append_lt_iff hour otherHour,
    Text.append_lt_append_left_iff, padded_append_lt_iff minute otherMinute]
  simp only [Timestamp.minuteOnClock, List.cons_lt_cons_iff]
  simp

theorem fileName_eq_fileName_iff (firstFour : first.HasFourDigitYear)
    (secondFour : second.HasFourDigitYear) :
    fileName first = fileName second ↔ first.minuteOnClock = second.minuteOnClock := by
  constructor
  · intro same
    have notLess := (fileName_lt_fileName_iff firstFour secondFour).not.mp (by simp [same])
    have notGreater := (fileName_lt_fileName_iff secondFour firstFour).not.mp (by simp [same])
    exact le_antisymm (not_lt.mp notGreater) (not_lt.mp notLess)
  · intro same
    simp only [Timestamp.minuteOnClock, List.cons.injEq] at same
    obtain ⟨year, month, day, hour, minute, _⟩ := same
    rw [← String.toList_inj, toList_fileName firstFour, toList_fileName secondFour, year, month, day,
      hour, minute]

theorem length_fileName (four : time.HasFourDigitYear) : (fileName time).toList.length = 28 := by
  obtain ⟨year, month, day, hour, minute⟩ := four.widths
  rw [toList_fileName four]
  simp only [List.length_append, length_padded (by decide) year, length_padded (by decide) month,
    length_padded (by decide) day, length_padded (by decide) hour, length_padded (by decide) minute]
  rfl

theorem isSnapshotName_fileName (four : time.HasFourDigitYear) : isSnapshotName (fileName time) = true := by
  have front : "Issues_".toList <+: (fileName time).toList := by
    rw [toList_fileName four]
    exact List.prefix_append _ _
  have behind : ".json".toList <:+ (fileName time).toList := by
    rw [toList_fileName four]
    simp only [← List.append_assoc]
    exact List.suffix_append _ _
  have long : "Issues_.json".length ≤ (fileName time).length := by
    rw [← String.length_toList (s := fileName time), length_fileName four]
    decide
  rw [isSnapshotName, List.isPrefixOf_iff_prefix.mpr front, List.isSuffixOf_iff_suffix.mpr behind,
    decide_eq_true long]
  rfl

/-! ## Room for a name -/

theorem fileName_ne_parent (four : time.HasFourDigitYear) : fileName time ≠ ".." := by
  intro same
  have length := length_fileName four
  rw [same] at length
  revert length
  decide

theorem isDigit_or_mem_of_mem_fileName (four : time.HasFourDigitYear) {c : Char}
    (member : c ∈ (fileName time).toList) : isDigit c = true ∨ c ∈ "Issues_-@.json".toList := by
  have front : ∀ c ∈ "Issues_".toList, c ∈ "Issues_-@.json".toList := by simp
  have between : ∀ c ∈ "-".toList ++ "@".toList, c ∈ "Issues_-@.json".toList := by simp
  have behind : ∀ c ∈ ".json".toList, c ∈ "Issues_-@.json".toList := by simp
  have hyphen (member : c ∈ "-".toList) := between c (List.mem_append_left _ member)
  have atSign (member : c ∈ "@".toList) := between c (List.mem_append_right _ member)
  rw [toList_fileName four] at member
  simp only [List.mem_append] at member
  rcases member with word | year | mark | month | mark | day | mark | hour | mark | minute | ending
  · exact .inr (front c word)
  · exact .inl (isDigit_of_mem_padded year)
  · exact .inr (hyphen mark)
  · exact .inl (isDigit_of_mem_padded month)
  · exact .inr (hyphen mark)
  · exact .inl (isDigit_of_mem_padded day)
  · exact .inr (atSign mark)
  · exact .inl (isDigit_of_mem_padded hour)
  · exact .inr (hyphen mark)
  · exact .inl (isDigit_of_mem_padded minute)
  · exact .inr (behind c ending)

theorem null_notMem_fileName (four : time.HasFourDigitYear) : '\x00' ∉ (fileName time).toList := by
  intro member
  have known := isDigit_or_mem_of_mem_fileName four member
  revert known
  decide

theorem utf8Size_of_mem_fileName (four : time.HasFourDigitYear) {c : Char}
    (member : c ∈ (fileName time).toList) : c.utf8Size = 1 := by
  rw [Char.utf8Size_eq_one_iff, UInt32.le_iff_toNat_le]
  rcases isDigit_or_mem_of_mem_fileName four member with digit | known
  · rw [isDigit, Bool.and_eq_true, decide_eq_true_eq, decide_eq_true_eq] at digit
    exact digit.2.trans (by decide)
  · have each : ∀ c ∈ "Issues_-@.json".toList, c.val.toNat ≤ (127 : UInt32).toNat := by simp
    exact each c known

theorem utf8ByteSize_fileName (four : time.HasFourDigitYear) : (fileName time).utf8ByteSize = 28 := by
  have oneByte {chars : List Char} (each : ∀ c ∈ chars, c.utf8Size = 1) :
      String.utf8Len chars = chars.length := by
    induction chars with
    | nil => rfl
    | cons c rest induction =>
        rw [List.forall_mem_cons] at each
        rw [String.utf8Len_cons, induction each.2, each.1, List.length_cons]
  rw [← String.utf8Len_toList, oneByte fun c => utf8Size_of_mem_fileName four, length_fileName four]

end Archive
end IssueWatch
