/-!
# Decimals

Numbers in decimal notation: whole numbers with the ten ASCII digits, and floating-point numbers as the
shortest decimals that read back as them.
-/
namespace IssueWatch.Decimal

/-!
## Decimal digits

Reading and writing natural numbers and integers with the ten ASCII digits.
-/

def isDigit (c : Char) : Bool :=
  0x30 ≤ c.toNat && c.toNat ≤ 0x39

def digitValue (c : Char) : Nat :=
  c.toNat - 0x30

def ofDigits (digits : List Char) : Nat :=
  digits.foldl (fun total c => 10 * total + digitValue c) 0

/-- A number with at least the given number of digits. -/
def padded (width : Nat) (value : Nat) : String :=
  let digits := toString value
  String.ofList (List.replicate (width - digits.length) '0') ++ digits

/-!
## Shortest decimals

The shortest decimal that reads back as a given floating-point number. A finite number is
`significand · 2 ^ power`; it stands for the interval of the reals that round to it, which contains
its ends when the significand is even. Among the decimals with the fewest digits in that interval
the nearest to the number is taken. All arithmetic is exact, on natural numbers.
-/

/-- A positive decimal `digits · 10 ^ exponent`. -/
structure Scientific where
  digits : Nat
  exponent : Int
  deriving DecidableEq, Repr

/-- A fraction of natural numbers with a positive denominator. -/
structure Ratio where
  numerator : Nat
  denominator : Nat
  deriving Repr

/-- The positive number `numerator / 4 · 2 ^ power`, where the quarter leaves room for the ends of an
interval. -/
def Ratio.ofQuarters (numerator : Nat) (power : Int) : Ratio :=
  if 0 ≤ power then ⟨numerator * Nat.pow 2 power.toNat, 4⟩
  else ⟨numerator, 4 * Nat.pow 2 (-power).toNat⟩

def Ratio.scaleDown (ratio : Ratio) (exponent : Int) : Ratio :=
  if 0 ≤ exponent then ⟨ratio.numerator, ratio.denominator * Nat.pow 10 exponent.toNat⟩
  else ⟨ratio.numerator * Nat.pow 10 (-exponent).toNat, ratio.denominator⟩

/-- The interval of a floating-point number, as fractions with one denominator. -/
structure Interval where
  lower : Nat
  value : Nat
  upper : Nat
  denominator : Nat
  closed : Bool
  deriving Repr

/-- The interval of `significand · 2 ^ power`. Below a power of two the numbers lie twice as close, so
the lower half is half as wide there; `narrow` says that the significand is such a power. -/
def Interval.ofFloat (significand : Nat) (power : Int) (narrow : Bool) : Interval :=
  let lower := Ratio.ofQuarters (4 * significand - if narrow then 1 else 2) power
  let value := Ratio.ofQuarters (4 * significand) power
  let upper := Ratio.ofQuarters (4 * significand + 2) power
  ⟨lower.numerator, value.numerator, upper.numerator, value.denominator,
    significand % 2 == 0⟩

def Interval.contains (interval : Interval) (digits : Nat) (exponent : Int) : Bool :=
  let scaled := if 0 ≤ exponent then digits * Nat.pow 10 exponent.toNat * interval.denominator
    else digits * interval.denominator
  let scale := if 0 ≤ exponent then 1 else Nat.pow 10 (-exponent).toNat
  if interval.closed then interval.lower * scale ≤ scaled && scaled ≤ interval.upper * scale
  else interval.lower * scale < scaled && scaled < interval.upper * scale

/-- The decimal with the given exponent that lies in an interval and is nearest to its value: one of
the two neighbours of the value among the multiples of the power of ten. -/
def Interval.nearest? (interval : Interval) (exponent : Int) : Option Scientific :=
  let scaled := Ratio.scaleDown ⟨interval.value, interval.denominator⟩ exponent
  let below := scaled.numerator / scaled.denominator
  let above := below + 1
  let remainder := scaled.numerator % scaled.denominator
  let belowFirst := 2 * remainder < scaled.denominator ||
    (2 * remainder == scaled.denominator && below % 2 == 0)
  match interval.contains below exponent, interval.contains above exponent with
  | true, true => some ⟨if belowFirst then below else above, exponent⟩
  | true, false => some ⟨below, exponent⟩
  | false, true => some ⟨above, exponent⟩
  | false, false => none

/-- The first decimal that is found when the exponent goes down from a start. -/
def Interval.search (interval : Interval) (exponent : Int) : Nat → Option Scientific
  | 0 => none
  | fuel + 1 =>
    match interval.nearest? exponent with
    | some found => if found.digits = 0 then interval.search (exponent - 1) fuel else some found
    | none => interval.search (exponent - 1) fuel

def Scientific.strip (decimal : Scientific) : Nat → Scientific
  | 0 => decimal
  | fuel + 1 =>
    if decimal.digits % 10 == 0 && decimal.digits != 0 then
      Scientific.strip ⟨decimal.digits / 10, decimal.exponent + 1⟩ fuel
    else decimal

/-- The shortest decimal for `significand · 2 ^ power` with a positive significand. The search starts
above the largest number of the format and ends below the smallest. -/
def shortest (significand : Nat) (power : Int) (narrow : Bool) : Scientific :=
  match (Interval.ofFloat significand power narrow).search 310 640 with
  | some found => found.strip 20
  | none => ⟨0, 0⟩

end IssueWatch.Decimal
