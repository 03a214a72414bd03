import IssueWatch.Decimal
import IssueWatch.Json.Value
import IssueWatch.Text.Character
import IssueWatch.Text.Integer

/-!
# Reading JSON

A text is cut into tokens, and the tokens are put together by a machine that keeps the arrays and
objects that are still open. Three words for numbers without a decimal form are accepted besides the
standard ones. A repeated key keeps its first place and takes its last value. An integer has at most
4300 digits; a longer one is an error of its own where a value is expected.

A string may name half of a character that is written in two parts, without the other half. Such a string is
torn. It is no text, so that another character stands for the half in its value, and reading says where it was.
-/
namespace IssueWatch.Json

/-- A text is no JSON value, or holds an integer with too many digits. -/
inductive ReadError where
  | malformed
  | tooManyDigits (count : Nat)
  deriving DecidableEq, Repr

/-- A lexical unit of JSON text. -/
inductive Token where
  | openBrace
  | closeBrace
  | openBracket
  | closeBracket
  | colon
  | comma
  | text (value : String) (torn : Bool)
  | scalar (value : Json)

namespace Token

/-- Whether a token is a torn string. -/
def isTorn : Token → Bool
  | .text _ torn => torn
  | _ => false

def isSpace (c : Char) : Bool :=
  c == ' ' || c == '\t' || c == '\n' || c == '\r'

/-- The code unit that four hexadecimal digits denote. -/
def unit? (a b c d : Char) : Option Nat := do
  let first ← Text.hexValue? a
  let second ← Text.hexValue? b
  let third ← Text.hexValue? c
  let fourth ← Text.hexValue? d
  return ((first * 16 + second) * 16 + third) * 16 + fourth

/-- The character that a backslash and another character stand for. -/
def escaped? (c : Char) : Option Char :=
  match c with
  | '"' => some '"'
  | '\\' => some '\\'
  | '/' => some '/'
  | 'b' => some '\x08'
  | 'f' => some '\x0c'
  | 'n' => some '\n'
  | 'r' => some '\r'
  | 't' => some '\t'
  | _ => none

/-- Puts a code that was written with some number of characters before a text and its length. -/
def addCode (code : Nat) (written : Nat) (rest : List Nat × Nat) : List Nat × Nat :=
  (code :: rest.1, rest.2 + written)

/-- Reads a string behind its opening quote. The answer is its codes and the number of characters up
to the closing quote, which counts as well. -/
def readCodes : List Char → Option (List Nat × Nat)
  | [] => none
  | '"' :: _ => some ([], 1)
  | '\\' :: 'u' :: a :: b :: c :: d :: rest =>
    match unit? a b c d with
    | none => none
    | some unit => (readCodes rest).map (addCode unit 6)
  | '\\' :: c :: rest =>
    match escaped? c with
    | none => none
    | some character => (readCodes rest).map (addCode character.toNat 2)
  | c :: rest =>
    if c = '\\' ∨ c.toNat < 0x20 then none else (readCodes rest).map (addCode c.toNat 1)

def isHighSurrogate (code : Nat) : Bool :=
  0xD800 ≤ code && code < 0xDC00

def isLowSurrogate (code : Nat) : Bool :=
  0xDC00 ≤ code && code < 0xE000

/-- The character of a code, which half of a character is not. -/
def ofCode? (code : Nat) : Option Char :=
  if isHighSurrogate code || isLowSurrogate code then none else some (Char.ofNat code)

/-- The characters of a list of codes, with nothing for the half of one. Two halves in a row are one
character. -/
def ofCodes : List Nat → List (Option Char)
  | [] => []
  | [code] => [ofCode? code]
  | first :: second :: rest =>
    if isHighSurrogate first && isLowSurrogate second then
      some (Char.ofNat (0x10000 + (first - 0xD800) * 0x400 + (second - 0xDC00))) :: ofCodes rest
    else ofCode? first :: ofCodes (second :: rest)

/-- The character that stands for half of one. No command line and no document can hold it, so that no query
names a torn string. -/
def standIn : Char := '\x00'

/-- The text of a string with these codes. -/
def ofString (codes : List Nat) : Token :=
  let characters := ofCodes codes
  .text (String.ofList (characters.map fun character => character.getD standIn)) (characters.contains none)

/-- The digits behind a decimal point at the start of an input; empty if there is no such point. -/
def fractionDigits : List Char → List Char
  | '.' :: rest => rest.takeWhile Decimal.isDigit
  | _ => []

/-- The value of an exponent at the start of an input and its length; none if there is no exponent. -/
def exponent? : List Char → Option (Int × Nat)
  | mark :: rest =>
    if mark = 'e' ∨ mark = 'E' then
      let (negative, signed, digits) := match rest with
        | '-' :: others => (true, 1, others.takeWhile Decimal.isDigit)
        | '+' :: others => (false, 1, others.takeWhile Decimal.isDigit)
        | others => (false, 0, others.takeWhile Decimal.isDigit)
      if digits.isEmpty then none
      else
        let value : Int := Decimal.ofDigits digits
        some (if negative then -value else value, 1 + signed + digits.length)
    else none
  | [] => none

/-- The digits of the whole part of a number: a single zero, or digits that start with none. -/
def wholeDigits (input : List Char) : List Char :=
  match input with
  | '0' :: _ => ['0']
  | _ => input.takeWhile Decimal.isDigit

/-- Reads a number without its sign. The answer is the value and the length. -/
def readMagnitude (negative : Bool) (input : List Char) : Except ReadError (Json × Nat) :=
  let whole := wholeDigits input
  if whole.isEmpty then .error .malformed
  else
    let fraction := fractionDigits (input.drop whole.length)
    let fractionLength := if fraction.isEmpty then 0 else fraction.length + 1
    let power := exponent? (input.drop (whole.length + fractionLength))
    if fraction.isEmpty && power.isNone then
      if Text.maxDigits < whole.length then .error (.tooManyDigits whole.length)
      else
        let value : Int := Decimal.ofDigits whole
        .ok (.int (if negative then -value else value), whole.length)
    else
      let shift : Int := (power.map Prod.fst).getD 0
      let value :=
        floatOfDecimal (Decimal.ofDigits (whole ++ fraction)) (shift - fraction.length)
      .ok (.float (if negative then -value else value),
        whole.length + fractionLength + (power.map Prod.snd).getD 0)

/-- The words that stand for values. -/
def words : List (List Char × Json) :=
  [("null".toList, .null), ("true".toList, .bool true), ("false".toList, .bool false),
    ("NaN".toList, .float (0.0 / 0.0)), ("Infinity".toList, .float (1.0 / 0.0)),
    ("-Infinity".toList, .float (-1.0 / 0.0))]

/-- Reads a word or a number. -/
def readScalar (input : List Char) : Except ReadError (Json × Nat) :=
  match words.find? (fun entry => entry.1.isPrefixOf input) with
  | some (word, value) => .ok (value, word.length)
  | none =>
    match input with
    | '-' :: rest => (readMagnitude true rest).map (fun (value, length) => (value, length + 1))
    | _ => readMagnitude false input

/-- Reads the token at the start of an input, which is no space, and says how long it is. -/
def read (input : List Char) : Except ReadError (Token × Nat) :=
  match input with
  | '\x7b' :: _ => .ok (.openBrace, 1)
  | '\x7d' :: _ => .ok (.closeBrace, 1)
  | '[' :: _ => .ok (.openBracket, 1)
  | ']' :: _ => .ok (.closeBracket, 1)
  | ':' :: _ => .ok (.colon, 1)
  | ',' :: _ => .ok (.comma, 1)
  | '"' :: rest =>
    match readCodes rest with
    | none => .error .malformed
    | some (codes, length) => .ok (ofString codes, length + 1)
  | _ => (readScalar input).map (fun (value, length) => (.scalar value, length))

end Token

/-- An array or object that is still open, its last member first; an object waits for the value of a
key. -/
inductive Frame where
  | array (items : List Json)
  | object (fields : Fields) (key : String)

/-- The step to the member that comes next. -/
def Frame.step : Frame → Step
  | .array items => .index items.length
  | .object _ key => .key key

/-- The way to the value that comes next inside some arrays and objects. -/
def locationIn (frames : List Frame) : Location :=
  (frames.map Frame.step).reverse

/-- What is known of a value after some of its tokens. -/
inductive Progress where
  | value (frames : List Frame)
  | itemOrClose (frames : List Frame)
  | key (fields : Fields) (frames : List Frame)
  | keyOrClose (frames : List Frame)
  | colon (fields : Fields) (key : String) (frames : List Frame)
  | complete (value : Json) (frames : List Frame)

namespace Progress

/-- Takes the first token of a value. -/
def beginValue (frames : List Frame) : Token → Option Progress
  | .scalar found => some (.complete found frames)
  | .text found _ => some (.complete (.string found) frames)
  | .openBracket => some (.itemOrClose frames)
  | .openBrace => some (.keyOrClose frames)
  | .closeBracket | .closeBrace | .colon | .comma => none

def expectsValue : Progress → Bool
  | .value _ | .itemOrClose _ => true
  | .key _ _ | .keyOrClose _ | .colon _ _ _ | .complete _ _ => false

def step : Progress → Token → Option Progress
  | .value frames, token => beginValue frames token
  | .itemOrClose frames, .closeBracket => some (.complete (.array []) frames)
  | .itemOrClose frames, token => beginValue (.array [] :: frames) token
  | .keyOrClose frames, .closeBrace => some (.complete (.object []) frames)
  | .keyOrClose frames, .text name _ => some (.colon [] name frames)
  | .key fields frames, .text name _ => some (.colon fields name frames)
  | .colon fields name frames, .colon => some (.value (.object fields name :: frames))
  | .complete last (.array items :: frames), .comma => some (.value (.array (last :: items) :: frames))
  | .complete last (.array items :: frames), .closeBracket =>
    some (.complete (.array (last :: items).reverse) frames)
  | .complete last (.object fields name :: frames), .comma =>
    some (.key (setField name last fields) frames)
  | .complete last (.object fields name :: frames), .closeBrace =>
    some (.complete (.object (setField name last fields)) frames)
  | _, _ => none

/-- Where torn strings were found, after one more token. The next value of a key takes the place of an earlier
one, and of all that was found in it. -/
def tornBehind (torn : List Location) : Progress → Token → List Location
  | .value frames, token => if token.isTorn then locationIn frames :: torn else torn
  | .itemOrClose frames, token => if token.isTorn then locationIn (.array [] :: frames) :: torn else torn
  | .colon fields name frames, _ =>
    torn.filter fun location => !(locationIn (.object fields name :: frames)).isPrefixOf location
  | .key _ _, _ | .keyOrClose _, _ | .complete _ _, _ => torn

end Progress

/-- Reads the rest of a text. The first argument counts the characters that belong to the token read
last and are passed over, and the third one says where torn strings were found. -/
def readFrom (pending : Nat) (progress : Progress) (torn : List Location) :
    List Char → Except ReadError (Json × List Location)
  | [] =>
    match progress with
    | .complete value [] => .ok (value, torn)
    | _ => .error .malformed
  | c :: rest =>
    match pending with
    | left + 1 => readFrom left progress torn rest
    | 0 =>
      if Token.isSpace c then readFrom 0 progress torn rest
      else
        match Token.read (c :: rest) with
        | .error error => .error (if progress.expectsValue then error else .malformed)
        | .ok (token, length) =>
          match progress.step token with
          | none => .error .malformed
          | some next => readFrom (length - 1) next (progress.tornBehind torn token) rest

/-- Reads a value. The answer says as well where strings in it are torn. -/
def read (text : String) : Except ReadError (Json × List Location) :=
  readFrom 0 (.value []) [] text.toList

end IssueWatch.Json
