import IssueWatch.Decimal
import IssueWatch.Text.Character
import IssueWatch.Text.Integer

/-!
# JSON values

Values of the data format that snapshots are stored in. Integers are unbounded and differ from
floating-point numbers; the fields of an object keep their order.
-/
namespace IssueWatch

inductive Json where
  | null
  | bool (value : Bool)
  | int (value : Int)
  | float (value : Float)
  | string (value : String)
  | array (items : List Json)
  | object (fields : List (String × Json))
  deriving Inhabited

namespace Json

/-- One step on the way to a value inside another. -/
inductive Step where
  | key (name : String)
  | index (position : Nat)
  deriving DecidableEq, Repr

/-- The way to a value inside another, from the outside in. -/
abbrev Location := List Step

/-- The fields of an object, each with its value. -/
abbrev Fields := List (String × Json)

def lookup (key : String) : Fields → Option Json
  | [] => none
  | (name, value) :: rest => if name = key then some value else lookup key rest

/-- Sets a field. A field that is present keeps its place; a new field goes to the end. -/
def setField (key : String) (value : Json) : Fields → Fields
  | [] => [(key, value)]
  | (name, old) :: rest =>
    if name = key then (name, value) :: rest else (name, old) :: setField key value rest

/-- The value of a field of an object. Other values have no fields. -/
def field? (key : String) : Json → Option Json
  | .object fields => lookup key fields
  | _ => none

@[simp] theorem lookup_setField_self (key : String) (value : Json) (fields : Fields) :
    lookup key (setField key value fields) = some value := by
  induction fields with
  | nil => simp [setField, lookup]
  | cons entry rest induction =>
    obtain ⟨name, old⟩ := entry
    by_cases same : name = key <;> simp [setField, lookup, same, induction]

theorem lookup_setField_of_ne {key other : String} (different : other ≠ key) (value : Json)
    (fields : Fields) : lookup other (setField key value fields) = lookup other fields := by
  induction fields with
  | nil => simp [setField, lookup, Ne.symm different]
  | cons entry rest induction =>
    obtain ⟨name, old⟩ := entry
    by_cases same : name = key
    · subst same; simp [setField, lookup, Ne.symm different]
    · by_cases here : name = other <;> simp_all [setField, lookup]

end Json
end IssueWatch

/-!
## Floating-point numbers in JSON text

A floating-point number is written with the fewest digits that read back as it. The notation is
positional while the decimal point stands at most sixteen places behind the first digit and at most
three zeros follow the point, and scientific otherwise, with an exponent of at least two digits. A
positional number always shows a digit behind the point.
-/
namespace IssueWatch.Json

/-- Where the notation of a floating-point number changes. -/
structure NumberFormat where
  /-- The point stands at most this many places behind the front of the digits. -/
  maxPoint : Int := 16
  /-- The point stands more than this many places behind the front of the digits. -/
  minPoint : Int := -4
  /-- The least number of digits of an exponent. -/
  exponentWidth : Nat := 2

/-- The format of this library's files. -/
def numberFormat : NumberFormat := {}

/-- A decimal in scientific notation; the point stands behind the first digit. -/
def scientificText (digits : List Char) (point : Int) : String :=
  let exponent := point - 1
  let mantissa := match digits with
    | [] => []
    | [single] => [single]
    | first :: rest => first :: '.' :: rest
  String.ofList mantissa ++ "e" ++ (if exponent < 0 then "-" else "+") ++
    Decimal.padded numberFormat.exponentWidth exponent.natAbs

/-- A decimal in positional notation; the point stands behind the given number of digits. -/
def positionalText (digits : List Char) (point : Int) : String :=
  if point ≤ 0 then "0." ++ String.ofList (List.replicate (-point).toNat '0' ++ digits)
  else
    let whole := digits.take point.toNat
    let zeros := List.replicate (point.toNat - digits.length) '0'
    let fraction := digits.drop point.toNat
    String.ofList (whole ++ zeros) ++ "." ++
      (if fraction.isEmpty then "0" else String.ofList fraction)

/-- The text of a positive decimal. -/
def decimalText (decimal : Decimal.Scientific) : String :=
  let digits := (toString decimal.digits).toList
  let point := decimal.exponent + digits.length
  if numberFormat.minPoint < point && point ≤ numberFormat.maxPoint then positionalText digits point
  else scientificText digits point

/-- The fields of a floating-point number of 64 bits: its sign, eleven bits for the exponent and 52 bits
for the mantissa. -/
structure FloatFields where
  negative : Bool
  exponent : Nat
  mantissa : Nat
  deriving DecidableEq, Repr

namespace FloatFields

def ofFloat (value : Float) : FloatFields :=
  let bits := value.toBits.toNat
  { negative := bits / 0x8000000000000000 == 1
    exponent := bits / 0x10000000000000 % 0x800
    mantissa := bits % 0x10000000000000 }

def isFinite (fields : FloatFields) : Bool :=
  fields.exponent != 0x7FF

/-- The whole number that a finite number is a multiple of, by a power of two. Numbers with the least
exponent have no leading one in front of their mantissa. -/
def significand (fields : FloatFields) : Nat :=
  if fields.exponent = 0 then fields.mantissa else 0x10000000000000 + fields.mantissa

/-- The exponent of that power of two, raised by 1075 to be a natural number. -/
def raisedPower (fields : FloatFields) : Nat :=
  if fields.exponent = 0 then 1 else fields.exponent

/-- Whether the numbers right below a number lie closer together than those above it. -/
def isNarrowBelow (fields : FloatFields) : Bool :=
  fields.mantissa == 0 && 1 < fields.exponent

def magnitudeText (fields : FloatFields) : String :=
  if !fields.isFinite then if fields.mantissa = 0 then "Infinity" else "NaN"
  else if fields.significand = 0 then "0.0"
  else
    decimalText (Decimal.shortest fields.significand ((fields.raisedPower : Int) - 1075)
      fields.isNarrowBelow)

def text (fields : FloatFields) : String :=
  let magnitude := fields.magnitudeText
  if fields.negative ∧ magnitude ≠ "NaN" then "-" ++ magnitude else magnitude

/-- The integer that a finite number is equal to, if it has no fraction. -/
def wholeValue? (fields : FloatFields) : Option Int :=
  let raising := Nat.pow 2 (fields.raisedPower - 1075)
  let lowering := Nat.pow 2 (1075 - fields.raisedPower)
  if fields.significand % lowering = 0 then
    let magnitude := fields.significand / lowering * raising
    some (if fields.negative then -(magnitude : Int) else magnitude)
  else none

end FloatFields

def floatText (value : Float) : String :=
  (FloatFields.ofFloat value).text

def isFinite (value : Float) : Bool :=
  (FloatFields.ofFloat value).isFinite

/-- The integer that a finite floating-point number is equal to, if it has no fraction. -/
def wholeValue? (value : Float) : Option Int :=
  (FloatFields.ofFloat value).wholeValue?

/-- The floating-point number nearest to `mantissa · 10 ^ exponent`. Beyond the range of the format
this is zero or infinity. -/
def floatOfDecimal (mantissa : Nat) (exponent : Int) : Float :=
  let size := exponent + (toString mantissa).length
  if mantissa = 0 ∨ size < -400 then 0.0
  else if size > 400 then 1.0 / 0.0
  else if 0 ≤ exponent then Float.ofScientific mantissa false exponent.toNat
  else Float.ofScientific mantissa true (-exponent).toNat

/-!
## Integers in JSON strings

A string counts as an integer if it is one in plain notation, or becomes one when it is tidied up: white
space around it, a plus sign, a point with zeros behind it, leading zeros and grouping underscores are
taken away. The number of its characters is limited.
-/

/-- How a string fails to be an integer. -/
inductive IntegerTextFault where
  | malformed
  | tooLong
  deriving DecidableEq, Repr

/-- The most characters of an integer in plain notation. -/
def maxIntegerLength : Nat := 4300

/-- Reads an integer in plain notation: digits without a leading zero, behind a minus sign if there is
one. The length is judged before anything behind the digits. -/
def readPlainInteger (text : List Char) : Except IntegerTextFault Int :=
  let (negative, unsigned) := match text with
    | '-' :: rest => (true, rest)
    | _ => (false, text)
  let digits := unsigned.takeWhile Decimal.isDigit
  match digits with
  | [] => .error .malformed
  | '0' :: _ => if unsigned = ['0'] then .ok 0 else .error .malformed
  | _ =>
    if maxIntegerLength < digits.length + (text.length - unsigned.length) then .error .tooLong
    else if digits.length < unsigned.length then .error .malformed
    else
      let magnitude : Int := Decimal.ofDigits digits
      .ok (if negative then -magnitude else magnitude)

/-- Takes away the white space at both ends of a text. -/
def withoutWhiteSpace (text : List Char) : List Char :=
  ((text.dropWhile Text.isWhiteSpace).reverse.dropWhile Text.isWhiteSpace).reverse

/-- Takes away the first point of a text if zeros, at least one, and nothing else stand behind it. -/
def withoutZeroFraction (text : List Char) : List Char :=
  let whole := text.takeWhile (· != '.')
  match text.drop whole.length with
  | _ :: zero :: zeros => if (zero :: zeros).all (· == '0') then whole else text
  | _ => text

/-- Takes away the leading zeros of a number with the underscores among them. What is left starts with
another digit or with a minus sign; of zeros and underscores alone, the last is left. -/
def withoutLeadingZeros? (text : List Char) : Option (List Char) :=
  let startsNumber (c : Char) : Bool := Decimal.isDigit c || c == '-'
  match text with
  | '0' :: rest =>
    match rest.dropWhile fun c => c == '0' || c == '_' with
    | [] => text.getLast?.map ([·])
    | c :: others => if startsNumber c then some (c :: others) else none
  | c :: _ => if startsNumber c then some text else none
  | [] => none

/-- Takes away the underscores of a text if they group well. -/
def withoutGrouping (text : List Char) : List Char :=
  if Text.isWellGrouped text then Text.ungrouped text else text

/-- A string in plain notation, as far as it can be tidied up. -/
def tidied? (text : List Char) : Option (List Char) :=
  match withoutZeroFraction (withoutWhiteSpace text) with
  | '+' :: '-' :: _ => none
  | '+' :: rest => (withoutLeadingZeros? rest).map withoutGrouping
  | '-' :: rest => (withoutLeadingZeros? rest).map fun kept => '-' :: withoutGrouping kept
  | rest => (withoutLeadingZeros? rest).map withoutGrouping

/-- Reads an integer from a string. -/
def readIntegerText (text : List Char) : Except IntegerTextFault Int :=
  match readPlainInteger text with
  | .error .malformed =>
    match tidied? text with
    | some plain => readPlainInteger plain
    | none => .error .malformed
  | result => result

end IssueWatch.Json
