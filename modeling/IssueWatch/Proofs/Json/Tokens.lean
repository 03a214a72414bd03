import IssueWatch.Json.Reader
import IssueWatch.Json.Writer
import IssueWatch.Proofs.Decimal.Digits
import IssueWatch.Proofs.Json.Plain
import IssueWatch.Proofs.Text.Lines

/-!
# Written tokens are read back

What the writer puts down for a string, a word or an integer is one token, which stands for the same
value.  A string ends at its own closing quote, whatever it holds and whatever stands behind it.  An integer
needs an end: behind it nothing may stand that would go on with the number.
-/
namespace IssueWatch.Json

namespace Token

theorem readCodes_plain {c : Char} (notQuote : c ≠ '"') (notBackslash : c ≠ '\\')
    (notControl : 0x20 ≤ c.toNat) (rest : List Char) :
    readCodes (c :: rest) = (readCodes rest).map (addCode c.toNat 1) := by
  rw [readCodes]
  · rw [if_neg (by simp [notBackslash, notControl])]
  · simpa using notQuote
  · simp_all
  · simp_all

theorem readCodes_escape {letter c : Char} (notUnit : letter ≠ 'u') (stands : escaped? letter = some c)
    (rest : List Char) :
    readCodes ('\\' :: letter :: rest) = (readCodes rest).map (addCode c.toNat 2) := by
  rw [readCodes]
  · rw [stands]
  · simp [notUnit]

theorem readCodes_unit {a b c d : Char} {code : Nat} (stands : unit? a b c d = some code)
    (rest : List Char) :
    readCodes ('\\' :: 'u' :: a :: b :: c :: d :: rest) = (readCodes rest).map (addCode code 6) := by
  rw [readCodes, stands]

theorem unit?_control {code : Nat} (control : code < 0x20) :
    unit? '0' '0' (Text.lowerHexDigit (code / 16)) (Text.lowerHexDigit (code % 16)) = some code := by
  have zero : Text.hexValue? '0' = some 0 := by decide
  have high := Text.hexValue?_lowerHexDigit (code / 16) (by omega)
  have low := Text.hexValue?_lowerHexDigit (code % 16) (by omega)
  simp only [unit?, zero, high, low, Option.bind_eq_bind, Option.bind_some, Option.pure_def,
    Option.some.injEq]
  omega

/-- Every character is read back from what is written for it. -/
theorem readCodes_escapeChar (c : Char) (rest : List Char) :
    readCodes (escapeChar c ++ rest) =
      (readCodes rest).map (addCode c.toNat (escapeChar c).length) := by
  unfold escapeChar
  split
  case isTrue quote =>
    subst quote
    exact readCodes_escape (by decide) rfl rest
  split
  case isTrue backslash =>
    subst backslash
    exact readCodes_escape (by decide) rfl rest
  split
  case isTrue newline =>
    subst newline
    exact readCodes_escape (by decide) rfl rest
  split
  case isTrue carriageReturn =>
    subst carriageReturn
    exact readCodes_escape (by decide) rfl rest
  split
  case isTrue tab =>
    subst tab
    exact readCodes_escape (by decide) rfl rest
  split
  case isTrue backspace =>
    rw [backspace]
    exact readCodes_escape (show 'b' ≠ 'u' by decide) rfl rest
  split
  case isTrue formFeed =>
    rw [formFeed]
    exact readCodes_escape (show 'f' ≠ 'u' by decide) rfl rest
  split
  case isTrue control => exact readCodes_unit (unit?_control control) rest
  case isFalse notQuote notBackslash _ _ _ _ _ notControl =>
    exact readCodes_plain notQuote notBackslash (by omega) rest

theorem readCodes_escaped (chars rest : List Char) :
    readCodes (chars.flatMap escapeChar ++ '"' :: rest) =
      some (chars.map Char.toNat, (chars.flatMap escapeChar).length + 1) := by
  induction chars with
  | nil => rfl
  | cons c others induction =>
      rw [List.flatMap_cons, List.append_assoc, readCodes_escapeChar, induction, Option.map_some,
        addCode, List.map_cons, List.length_append]
      congr 2
      omega

/-- No character has the code of a surrogate. -/
theorem not_isSurrogate (c : Char) :
    isHighSurrogate c.toNat = false ∧ isLowSurrogate c.toNat = false := by
  have valid : c.toNat < 0xD800 ∨ 0xDFFF < c.toNat ∧ c.toNat < 0x110000 := c.valid
  simp only [isHighSurrogate, isLowSurrogate, Bool.and_eq_false_iff, decide_eq_false_iff_not]
  omega

theorem ofCode?_toNat (c : Char) : ofCode? c.toNat = some c := by
  obtain ⟨notHigh, notLow⟩ := not_isSurrogate c
  simp [ofCode?, notHigh, notLow, Char.ofNat_toNat]

theorem ofCodes_map_toNat (chars : List Char) : ofCodes (chars.map Char.toNat) = chars.map some := by
  induction chars with
  | nil => rfl
  | cons c others induction =>
      cases others with
      | nil => rw [List.map_cons, List.map_nil, ofCodes, ofCode?_toNat, List.map_cons, List.map_nil]
      | cons next others =>
          rw [List.map_cons, List.map_cons, ofCodes, ← List.map_cons, induction, ofCode?_toNat]
          simp [not_isSurrogate c]

/-- The codes of the characters of a text make up a string that is whole. -/
theorem ofString_map_toNat (text : String) : ofString (text.toList.map Char.toNat) = .text text false := by
  rw [ofString, ofCodes_map_toNat]
  simp [Function.comp_def]

theorem read_stringChars (text : String) (rest : List Char) :
    read (stringChars text ++ rest) = .ok (.text text false, (stringChars text).length) := by
  have split : stringChars text ++ rest =
      '"' :: (text.toList.flatMap escapeChar ++ '"' :: rest) := by
    simp [stringChars]
  rw [split, read, readCodes_escaped]
  simp [ofString_map_toNat, stringChars]

/-! ## Numbers -/

/-- What stands behind an integer ends it: no digit, no point and no mark of an exponent. -/
def EndsInteger (rest : List Char) : Prop :=
  ∀ c ∈ rest.head?, Decimal.isDigit c = false ∧ c ≠ '.' ∧ c ≠ 'e' ∧ c ≠ 'E'

theorem exists_toDigits_eq_cons (value : Nat) :
    ∃ c others, Nat.toDigits 10 value = c :: others ∧ Decimal.isDigit c = true := by
  cases digits : Nat.toDigits 10 value with
  | nil => exact absurd digits Nat.toDigits_ne_nil
  | cons c others =>
      refine ⟨c, others, rfl, ?_⟩
      apply Decimal.isDigit_of_mem_toDigits
      rw [digits]
      exact List.mem_cons_self

theorem head_toDigits {value : Nat} (positive : 0 < value) :
    ∀ c ∈ (Nat.toDigits 10 value).head?, c ≠ '0' := by
  induction value using Nat.strong_induction_on with
  | h value induction =>
      by_cases small : value < 10
      · have oneDigit : ∀ digit < 10, 0 < digit → digit.digitChar ≠ '0' := by decide
        rw [Nat.toDigits_of_lt_base small]
        rintro c ⟨⟩
        exact oneDigit value small positive
      · rw [Nat.toDigits_of_base_le (by decide) (by omega)]
        have front := induction (value / 10) (by omega) (by omega)
        cases digits : Nat.toDigits 10 (value / 10) with
        | nil => exact absurd digits Nat.toDigits_ne_nil
        | cons first others =>
            rw [digits] at front
            exact front

theorem wholeDigits_toDigits (value : Nat) {rest : List Char} (ends : EndsInteger rest) :
    wholeDigits (Nat.toDigits 10 value ++ rest) = Nat.toDigits 10 value := by
  rcases Nat.eq_zero_or_pos value with zero | positive
  · rw [zero]
    rfl
  · have front := head_toDigits positive
    have whole : (Nat.toDigits 10 value ++ rest).takeWhile Decimal.isDigit =
        Nat.toDigits 10 value :=
      Text.takeWhile_append_of_boundary (fun c => Decimal.isDigit_of_mem_toDigits)
        (fun c first => (ends c first).1)
    cases digits : Nat.toDigits 10 value with
    | nil => exact absurd digits Nat.toDigits_ne_nil
    | cons c others =>
        rw [digits] at front whole
        rw [List.cons_append] at whole ⊢
        rw [wholeDigits, whole]
        rintro others ⟨⟩
        exact front '0' rfl rfl

theorem fractionDigits_of_endsInteger {rest : List Char} (ends : EndsInteger rest) :
    fractionDigits rest = [] := by
  cases rest with
  | nil => rfl
  | cons c others =>
      have notPoint := (ends c rfl).2.1
      simp [fractionDigits, notPoint]

theorem exponent?_of_endsInteger {rest : List Char} (ends : EndsInteger rest) :
    exponent? rest = none := by
  cases rest with
  | nil => rfl
  | cons c others =>
      obtain ⟨_, _, notSmall, notCapital⟩ := ends c rfl
      simp [exponent?, notSmall, notCapital]

theorem readMagnitude_toDigits (negative : Bool) {value : Nat} (short : value < 10 ^ Text.maxDigits)
    {rest : List Char} (ends : EndsInteger rest) :
    readMagnitude negative (Nat.toDigits 10 value ++ rest) =
      .ok (.int (if negative then -value else value), (Nat.toDigits 10 value).length) := by
  have few : (Nat.toDigits 10 value).length ≤ Text.maxDigits :=
    (Nat.length_toDigits_le_iff (by decide) (by decide)).mpr short
  have notEmpty : (Nat.toDigits 10 value).isEmpty = false := by
    simp [Nat.toDigits_ne_nil]
  simp only [readMagnitude, wholeDigits_toDigits value ends, notEmpty, List.drop_left,
    fractionDigits_of_endsInteger ends, List.isEmpty_nil, ite_true, Nat.add_zero,
    exponent?_of_endsInteger ends, Option.isNone_none, Bool.and_self, if_neg (Nat.not_lt.mpr few),
    Decimal.ofDigits_toDigits, Bool.false_eq_true, if_false]

theorem forall_ne_of_isDigit {c : Char} (digit : Decimal.isDigit c = true) {others : List Char}
    (noDigits : (others.all fun other => !Decimal.isDigit other) = true) :
    ∀ other ∈ others, other ≠ c := by
  rintro other member rfl
  have noDigit := List.all_eq_true.mp noDigits other member
  rw [digit] at noDigit
  cases noDigit

theorem read_scalar {c : Char} (starts : Decimal.isDigit c = true ∨ c = '-') (rest : List Char) :
    read (c :: rest) =
      (readScalar (c :: rest)).map fun (value, length) => (.scalar value, length) := by
  rcases starts with digit | rfl
  · rw [read] <;> rintro _ ⟨⟩ <;> cases digit
  · rw [read] <;> nofun

theorem readScalar_digits {c : Char} (digit : Decimal.isDigit c = true) (rest : List Char) :
    readScalar (c :: rest) = readMagnitude false (c :: rest) := by
  have noFront : ∀ front ∈ ['n', 't', 'f', 'N', 'I', '-'], front ≠ c :=
    forall_ne_of_isDigit digit rfl
  have noWord : words.find? (fun entry => entry.1.isPrefixOf (c :: rest)) = none := by
    simp only [List.forall_mem_cons] at noFront
    simp [words, noFront]
  rw [readScalar, noWord]
  rintro _ ⟨⟩
  cases digit

theorem readScalar_minus {c : Char} (digit : Decimal.isDigit c = true) (rest : List Char) :
    readScalar ('-' :: c :: rest) =
      (readMagnitude true (c :: rest)).map fun (value, length) => (value, length + 1) := by
  have notInfinity : 'I' ≠ c := by
    rintro rfl
    cases digit
  have noWord : words.find? (fun entry => entry.1.isPrefixOf ('-' :: c :: rest)) = none := by
    simp [words, notInfinity]
  rw [readScalar, noWord]

theorem read_int {value : Int} (short : IsShort value) {rest : List Char} (ends : EndsInteger rest) :
    read ((toString value).toList ++ rest) =
      .ok (.scalar (.int value), (toString value).toList.length) := by
  rw [Decimal.toList_toString_int]
  have magnitude (negative : Bool) := readMagnitude_toDigits negative short ends
  obtain ⟨c, others, digits, digit⟩ := exists_toDigits_eq_cons value.natAbs
  rw [digits, List.cons_append] at magnitude
  rw [digits]
  by_cases negative : value < 0
  · rw [if_pos negative, List.singleton_append, List.cons_append, List.cons_append,
      read_scalar (.inr rfl), readScalar_minus digit, magnitude, if_pos rfl,
      show -(value.natAbs : Int) = value by omega]
    rfl
  · rw [if_neg negative, List.nil_append, List.cons_append, read_scalar (.inl digit),
      readScalar_digits digit, magnitude, if_neg Bool.false_ne_true,
      show (value.natAbs : Int) = value by omega]
    rfl

theorem starts_toString_int (value : Int) :
    ∃ c ∈ (toString value).toList.head?, isSpace c = false := by
  rw [Decimal.toList_toString_int]
  by_cases negative : value < 0
  · rw [if_pos negative]
    exact ⟨'-', rfl, rfl⟩
  · rw [if_neg negative, List.nil_append]
    obtain ⟨c, others, digits, digit⟩ := exists_toDigits_eq_cons value.natAbs
    rw [digits]
    refine ⟨c, rfl, ?_⟩
    rw [Bool.eq_false_iff]
    intro space
    simp only [isSpace, Bool.or_eq_true, beq_iff_eq] at space
    rcases space with ((rfl | rfl) | rfl) | rfl <;> cases digit

/-! ## Words -/

theorem read_null (rest : List Char) : read ("null".toList ++ rest) = .ok (.scalar .null, 4) :=
  rfl

theorem read_bool (value : Bool) (rest : List Char) :
    read ((if value then "true" else "false").toList ++ rest) =
      .ok (.scalar (.bool value), (if value then "true" else "false").toList.length) := by
  cases value <;> rfl

end Token
end IssueWatch.Json
