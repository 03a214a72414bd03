import IssueWatch.Text.Character
import IssueWatch.Text.Integer

/-!
# Lexemes of literals

The parts that the text of a literal consists of: numbers, quoted texts, a few words, signs and brackets.
Blanks and comments separate them.
-/
namespace IssueWatch.Console.Literal

/-- A part of the text of a literal. A newline says whether the line behind it is indented, and so does a
backslash in front of a newline. -/
inductive Lexeme where
  | number (isImaginary : Bool)
  | quoted (isBytes : Bool)
  | constant
  | emptySet
  | sign
  | openRound
  | closeRound
  | openCurly
  | closeCurly
  | comma
  | colon
  | newline (isIndented : Bool)
  | continuation (isIndented : Bool)
  deriving DecidableEq, Repr

/-! ## Numbers -/

/-- The digits and underscores at the front of an input, by a class of digits. -/
def digitRun (isDigit : Char → Bool) (input : List Char) : List Char :=
  input.takeWhile fun c => c == '_' || isDigit c

/-- Whether a number ends in front of an input. -/
def endsNumber (input : List Char) : Bool :=
  match input with
  | [] => true
  | c :: _ => !Text.isWordCharacter c && c.toNat < 0x80

/-- The digits of the bases that are marked by a letter. -/
def markedDigits? (mark : Char) : Option (Char → Bool) :=
  match mark with
  | 'x' | 'X' => some fun c => (Text.hexValue? c).isSome
  | 'o' | 'O' => some fun c => '0' ≤ c && c ≤ '7'
  | 'b' | 'B' => some fun c => c == '0' || c == '1'
  | _ => none

/-- The length of the exponent at the front of an input, zero without one; none if it lacks digits. -/
def exponentLength? (input : List Char) : Option Nat :=
  match input with
  | mark :: rest =>
    if mark = 'e' ∨ mark = 'E' then
      let signed := match rest with
        | '+' :: _ | '-' :: _ => 1
        | _ => 0
      let run := digitRun Decimal.isDigit (rest.drop signed)
      if !run.isEmpty && Text.isWellGrouped run then some (1 + signed + run.length) else none
    else some 0
  | [] => some 0

/-- The run of digits and underscores behind a point at the front of an input; none without a point. -/
def fractionRun? (input : List Char) : Option (List Char) :=
  match input with
  | '.' :: rest => some (digitRun Decimal.isDigit rest)
  | _ => none

/-- Whether digits may stand alone as an integer: leading zeros stand in front of zeros only, and the
number of digits is limited. -/
def isInteger (digits : List Char) : Bool :=
  digits.all (· == '0') || (digits.head? != some '0' && digits.length ≤ Text.maxDigits)

/-- Reads a number in base ten. The answer says whether it is imaginary, and its length. -/
def decimalNumber? (input : List Char) : Option (Bool × Nat) := do
  let whole := digitRun Decimal.isDigit input
  let fraction := fractionRun? (input.drop whole.length)
  let pointLength := (fraction.map fun run => run.length + 1).getD 0
  let exponentLength ← exponentLength? (input.drop (whole.length + pointLength))
  let length := whole.length + pointLength + exponentLength
  let isImaginary := match input.drop length with
    | 'j' :: _ | 'J' :: _ => true
    | _ => false
  let total := if isImaginary then length + 1 else length
  let hasDigits := !whole.isEmpty || !(fraction.getD []).isEmpty
  let isPlain := fraction.isNone && exponentLength == 0 && !isImaginary
  if hasDigits && Text.isWellGrouped whole && Text.isWellGrouped (fraction.getD []) &&
      endsNumber (input.drop total) && (!isPlain || isInteger (Text.ungrouped whole)) then
    return (isImaginary, total)
  else none

/-- Reads a number. -/
def number? (input : List Char) : Option (Bool × Nat) :=
  match input with
  | '0' :: mark :: rest =>
    match markedDigits? mark with
    | some isDigit =>
      let run := digitRun isDigit rest
      if !run.isEmpty && Text.isWellGrouped ('0' :: run) && endsNumber (rest.drop run.length) then
        some (false, run.length + 2)
      else none
    | none => decimalNumber? input
  | _ => decimalNumber? input

/-! ## Quoted texts -/

/-- The number of characters up to the end of a text between single marks, its closing mark included. A
backslash keeps the character behind it from ending the text. -/
def singleLength? (mark : Char) : List Char → Option Nat
  | [] => none
  | [c] => if c = mark then some 1 else none
  | c :: d :: rest =>
    if c = mark then some 1
    else if c = '\n' then none
    else if c = '\\' then (singleLength? mark rest).map (· + 2)
    else (singleLength? mark (d :: rest)).map (· + 1)

/-- The number of characters up to the end of a text between triple marks. -/
def tripleLength? (mark : Char) : List Char → Option Nat
  | [] => none
  | [_] => none
  | [_, _] => none
  | c :: d :: e :: rest =>
    if c = mark ∧ d = mark ∧ e = mark then some 3
    else if c = '\\' then (tripleLength? mark (e :: rest)).map (· + 2)
    else (tripleLength? mark (d :: e :: rest)).map (· + 1)

/-- The content of a quoted text at the front of an input, and the length of the text with its marks. -/
def quotedContent? (input : List Char) : Option (List Char × Nat) :=
  match input with
  | a :: b :: c :: rest =>
    if a = b ∧ b = c then
      (tripleLength? a rest).map fun length => (rest.take (length - 3), length + 3)
    else
      (singleLength? a (b :: c :: rest)).map fun length =>
        ((b :: c :: rest).take (length - 1), length + 1)
  | [a, b] => if a = b then some ([], 2) else none
  | _ => none

/-- Whether a number of hexadecimal digits stands at the front of an input and denotes a code. -/
def hasCode (width : Nat) (input : List Char) : Bool :=
  let digits := (input.take width).filterMap Text.hexValue?
  digits.length == width && digits.foldl (fun total digit => 16 * total + digit) 0 ≤ 0x10FFFF

/-- Whether a name in curly brackets stands at the front of an input. -/
def hasName (input : List Char) : Bool :=
  match input with
  | '\x7b' :: rest =>
    let name := rest.takeWhile (· != '\x7d')
    !name.isEmpty && name.length < rest.length
  | _ => false

/-- Whether every escape of a quoted text is complete. Those with a letter for a character of any script
count in texts only. -/
def hasValidEscapes (isBytes : Bool) : List Char → Bool
  | [] => true
  | [_] => true
  | c :: d :: rest =>
    if c = '\\' then
      let complete :=
        if d = 'x' then hasCode 2 rest
        else if isBytes then true
        else if d = 'u' then hasCode 4 rest
        else if d = 'U' then hasCode 8 rest
        else if d = 'N' then hasName rest
        else true
      complete && hasValidEscapes isBytes rest
    else hasValidEscapes isBytes (d :: rest)

/-- Whether the letters in front of a quoted text make it bytes and whether they keep its backslashes. -/
def quotedKind? (letters : String) : Option (Bool × Bool) :=
  match letters with
  | "" | "u" => some (false, false)
  | "r" => some (false, true)
  | "b" => some (true, false)
  | "br" | "rb" => some (true, true)
  | _ => none

/-- Reads a quoted text behind some letters. The answer says whether it is bytes, and its length without
the letters. -/
def quoted? (letters input : List Char) : Option (Bool × Nat) := do
  let (isBytes, isRaw) ← quotedKind? (String.ofList (letters.map Char.toLower))
  let (content, length) ← quotedContent? input
  if isBytes && !content.all (·.toNat < 0x80) then none
  else if isRaw || hasValidEscapes isBytes content then return (isBytes, length)
  else none

/-! ## All lexemes -/

/-- Reads a word, or a quoted text with letters in front of it. -/
def word? (input : List Char) : Option (Lexeme × Nat) :=
  let name := input.takeWhile Text.isWordCharacter
  match (input.drop name.length).head? with
  | some '\'' | some '"' =>
    (quoted? name (input.drop name.length)).map fun (isBytes, length) =>
      (.quoted isBytes, name.length + length)
  | _ =>
    match String.ofList name with
    | "None" | "True" | "False" => some (.constant, name.length)
    | "set" => some (.emptySet, name.length)
    | _ => none

/-- The lexeme that a single character is. -/
def mark? (c : Char) : Option Lexeme :=
  match c with
  | '+' | '-' => some .sign
  | '(' => some .openRound
  | ')' => some .closeRound
  | '\x7b' => some .openCurly
  | '\x7d' => some .closeCurly
  | ',' => some .comma
  | ':' => some .colon
  | _ => none

/-- Whether the line at the front of an input is indented. -/
def isIndented (input : List Char) : Bool :=
  input.head? == some ' ' || input.head? == some '\t'

/-- Reads what stands at the front of an input: a lexeme, or a blank or a comment that is none. The answer
holds the length as well. -/
def lexeme? (input : List Char) : Option (Option Lexeme × Nat) :=
  match input with
  | [] => none
  | ' ' :: _ | '\t' :: _ | '\x0c' :: _ => some (none, 1)
  | '\\' :: '\n' :: rest => some (some (.continuation (isIndented rest)), 2)
  | '#' :: rest => some (none, (rest.takeWhile (· != '\n')).length + 1)
  | '\n' :: rest => some (some (.newline (isIndented rest)), 1)
  | '.' :: '.' :: '.' :: _ => some (some .constant, 3)
  | c :: _ =>
    match mark? c with
    | some lexeme => some (some lexeme, 1)
    | none =>
      if Decimal.isDigit c || c == '.' then
        (number? input).map fun (isImaginary, length) => (some (.number isImaginary), length)
      else if c == '\'' || c == '"' then
        (quoted? [] input).map fun (isBytes, length) => (some (.quoted isBytes), length)
      else (word? input).map fun (lexeme, length) => (some lexeme, length)

/-- The lexemes of an input. The first argument counts the characters that are passed over. -/
def lexemesFrom? : Nat → List Char → Option (List Lexeme)
  | _, [] => some []
  | pending + 1, _ :: rest => lexemesFrom? pending rest
  | 0, c :: rest =>
    match lexeme? (c :: rest) with
    | none => none
    | some (found, length) => (lexemesFrom? (length - 1) rest).map (found.toList ++ ·)

end IssueWatch.Console.Literal
