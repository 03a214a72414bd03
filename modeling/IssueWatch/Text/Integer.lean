import IssueWatch.Text.Character
import IssueWatch.Text.Quoted

/-!
# Integers in texts

The integer that a text of any origin stands for, if it stands for one.
-/
namespace IssueWatch.Text

/-!
## Decimal digits of all scripts

The characters with the Unicode property of a decimal digit come in runs of ten, from zero to nine.
-/

/-- The codes of the zeros of all scripts. -/
def zeroCodes : List Nat :=
  [0x0030, 0x0660, 0x06F0, 0x07C0, 0x0966, 0x09E6, 0x0A66, 0x0AE6, 0x0B66, 0x0BE6, 0x0C66,
    0x0CE6, 0x0D66, 0x0DE6, 0x0E50, 0x0ED0, 0x0F20, 0x1040, 0x1090, 0x17E0, 0x1810, 0x1946,
    0x19D0, 0x1A80, 0x1A90, 0x1B50, 0x1BB0, 0x1C40, 0x1C50, 0xA620, 0xA8D0, 0xA900, 0xA9D0,
    0xA9F0, 0xAA50, 0xABF0, 0xFF10, 0x104A0, 0x10D30, 0x11066, 0x110F0, 0x11136, 0x111D0,
    0x112F0, 0x11450, 0x114D0, 0x11650, 0x116C0, 0x11730, 0x118E0, 0x11950, 0x11C50, 0x11D50,
    0x11DA0, 0x16A60, 0x16AC0, 0x16B50, 0x1D7CE, 0x1D7D8, 0x1D7E2, 0x1D7EC, 0x1D7F6,
    0x1E140, 0x1E2F0, 0x1E950, 0x1FBF0]

/-- The value of a decimal digit of any script. -/
def decimalValue? (c : Char) : Option Nat :=
  (zeroCodes.find? fun start => start ≤ c.toNat && c.toNat < start + 10).map (c.toNat - ·)

def ofDecimalDigits (digits : List Char) : Nat :=
  (digits.filterMap decimalValue?).foldl (fun total digit => 10 * total + digit) 0

/-!
## Grouped digits

Underscores may group the digits of a number. One stands between two digits and never next to another.
-/

/-- Whether a text holds two underscores in a row. -/
def hasDoubleUnderscore : List Char → Bool
  | '_' :: '_' :: _ => true
  | _ :: rest => hasDoubleUnderscore rest
  | [] => false

/-- Whether no underscore of a text stands at its front, at its end or next to another one. -/
def isWellGrouped (text : List Char) : Bool :=
  text.head? != some '_' && text.getLast? != some '_' && !hasDoubleUnderscore text

def ungrouped (text : List Char) : List Char :=
  text.filter (· != '_')

/-!
## Integers in free text

An integer is written with digits of any script, which underscores may group, behind a sign if there is
one. White space may surround it. The number of its digits is limited.
-/

/-- How a text fails to be an integer. -/
inductive IntegerFault where
  | malformed (text : String)
  | tooLong (digits : Nat)
  deriving DecidableEq, Repr

/-- The text of a fault. One that shows the faulty text shows at most its first two hundred characters. -/
def IntegerFault.message : IntegerFault → String
  | .malformed text =>
    "invalid literal for int() with base 10: " ++ String.ofList ((quoted text).toList.take 200)
  | .tooLong digits =>
    "Exceeds the limit (4300 digits) for integer string conversion: value has " ++ toString digits ++
      " digits; use sys.set_int_max_str_digits() to increase the limit"

/-- The most digits that an integer is written with. -/
def maxDigits : Nat := 4300

/-- Whether a character belongs to a number: a digit of any script or an underscore. -/
def isNumeral (c : Char) : Bool :=
  c == '_' || (decimalValue? c).isSome

/-- Reads an integer. The digits are counted before anything behind them is looked at. -/
def readInteger (text : String) : Except IntegerFault Int :=
  let (negative, unsigned) := match text.toList.dropWhile isWhiteSpace with
    | '-' :: rest => (true, rest)
    | '+' :: rest => (false, rest)
    | rest => (false, rest)
  let numeral := unsigned.takeWhile isNumeral
  let digits := ungrouped numeral
  if !isWellGrouped numeral then .error (.malformed text)
  else if maxDigits < digits.length then .error (.tooLong digits.length)
  else if digits.isEmpty || !(unsigned.drop numeral.length).all isWhiteSpace then
    .error (.malformed text)
  else
    let magnitude : Int := ofDecimalDigits digits
    .ok (if negative then -magnitude else magnitude)

end IssueWatch.Text
