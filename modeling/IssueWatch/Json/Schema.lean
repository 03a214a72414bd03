import IssueWatch.Json.Value
import IssueWatch.Text.Lines
import IssueWatch.Text.Quoted

/-!
# Reading records from JSON

Readers turn a JSON value into a value of the domain or list everything in it that does not fit, each
with the path to the place. A record reads its fields in their declared order and goes on after a
failure, so that one reading finds every mismatch. Integers and truth values are also accepted in
other spellings; strings are not.
-/
namespace IssueWatch.Json

/-- How a value fails to fit. -/
inductive MismatchKind where
  | missing
  | recordExpected (record : String)
  | stringExpected
  | stringTorn
  | integerExpected
  | integerUnreadable
  | integerTooLarge
  | integerFraction
  | numberNotFinite
  | boolExpected
  | boolUnreadable
  | tupleExpected
  | listExpected
  | objectExpected
  deriving DecidableEq, Repr

namespace MismatchKind

def code : MismatchKind → String
  | .missing => "missing"
  | .recordExpected _ => "model_type"
  | .stringExpected => "string_type"
  | .stringTorn => "string_unicode"
  | .integerExpected => "int_type"
  | .integerUnreadable => "int_parsing"
  | .integerTooLarge => "int_parsing_size"
  | .integerFraction => "int_from_float"
  | .numberNotFinite => "finite_number"
  | .boolExpected => "bool_type"
  | .boolUnreadable => "bool_parsing"
  | .tupleExpected => "tuple_type"
  | .listExpected => "list_type"
  | .objectExpected => "dict_type"

def message : MismatchKind → String
  | .missing => "Field required"
  | .recordExpected record => "Input should be a valid dictionary or instance of " ++ record
  | .stringExpected => "Input should be a valid string"
  | .stringTorn => "Input should be a valid string, unable to parse raw data as a unicode string"
  | .integerExpected => "Input should be a valid integer"
  | .integerUnreadable =>
    "Input should be a valid integer, unable to parse string as an integer"
  | .integerTooLarge => "Unable to parse input string as an integer, exceeded maximum size"
  | .integerFraction => "Input should be a valid integer, got a number with a fractional part"
  | .numberNotFinite => "Input should be a finite number"
  | .boolExpected => "Input should be a valid boolean"
  | .boolUnreadable => "Input should be a valid boolean, unable to interpret input"
  | .tupleExpected => "Input should be a valid tuple"
  | .listExpected => "Input should be a valid list"
  | .objectExpected => "Input should be a valid dictionary"

end MismatchKind

/-- A value that does not fit, and the way to it from the outside in. For a missing field the value is
the record that lacks it. -/
structure Mismatch where
  kind : MismatchKind
  location : Location
  found : Json

/-- What does not fit when a text cannot be looked into, because it is torn. -/
def Mismatch.inTorn (torn : List Location) (mismatch : Mismatch) : Mismatch :=
  match mismatch.kind with
  | .integerUnreadable | .integerTooLarge | .boolUnreadable =>
    if torn.contains mismatch.location then { mismatch with kind := .stringTorn } else mismatch
  | _ => mismatch

/-- The outcome of reading: a value, or all mismatches in the order found. -/
abbrev Checked (α : Type) := Except (List Mismatch) α

namespace Checked

def of {α : Type} (value : α) : Checked α :=
  .ok value

/-- Applies a function under construction to the next field; the mismatches of both sides are kept. -/
def apply {α β : Type} (function : Checked (α → β)) (argument : Checked α) : Checked β :=
  match function, argument with
  | .ok f, .ok a => .ok (f a)
  | .ok _, .error mismatches => .error mismatches
  | .error mismatches, .ok _ => .error mismatches
  | .error first, .error second => .error (first ++ second)

/-- Records that a value was reached by a step. -/
def within {α : Type} (step : Step) (checked : Checked α) : Checked α :=
  match checked with
  | .ok value => .ok value
  | .error mismatches =>
    .error (mismatches.map fun mismatch => { mismatch with location := step :: mismatch.location })

end Checked

/-- A single mismatch of a value itself. -/
def mismatch {α : Type} (kind : MismatchKind) (found : Json) : Checked α :=
  .error [⟨kind, [], found⟩]

/-- Reads the fields of a record. -/
def readRecord (record : String) : Json → Checked Fields
  | .object fields => .ok fields
  | found => mismatch (.recordExpected record) found

/-- Reads a field that must be present. -/
def readRequired {α : Type} (key : String) (reader : Json → Checked α) (fields : Fields) : Checked α :=
  match lookup key fields with
  | none => .error [⟨.missing, [.key key], .object fields⟩]
  | some value => (reader value).within (.key key)

/-- Reads a field that may be absent. -/
def readOptional {α : Type} (key : String) (absent : α) (reader : Json → Checked α)
    (fields : Fields) : Checked α :=
  match lookup key fields with
  | none => .ok absent
  | some value => (reader value).within (.key key)

/-- Reads null as nothing. -/
def readNullable {α : Type} (reader : Json → Checked α) : Json → Checked (Option α)
  | .null => .ok none
  | value => (reader value).map some

/-- Reads the items of a list, which stand from a position on. -/
def readItems {α : Type} (reader : Json → Checked α) (position : Nat) : List Json → Checked (List α)
  | [] => .ok []
  | item :: rest =>
    Checked.apply ((Checked.within (.index position) (reader item)).map List.cons)
      (readItems reader (position + 1) rest)

/-- Reads a list, where another value is a mismatch of the given kind. -/
def readList {α : Type} (otherwise : MismatchKind) (reader : Json → Checked α) :
    Json → Checked (List α)
  | .array items => readItems reader 0 items
  | found => mismatch otherwise found

def readText : Json → Checked String
  | .string value => .ok value
  | found => mismatch .stringExpected found

def readObject : Json → Checked Fields
  | .object fields => .ok fields
  | found => mismatch .objectExpected found

/-- The numbers with 64 bits are smaller than this in size. -/
def wordBound : Int := 0x8000000000000000

/-- Reads an integer. A truth value counts as zero or one, and a floating-point number without
fraction as the integer that it is equal to. -/
def readInteger (found : Json) : Checked Int :=
  match found with
  | .int value => .ok value
  | .bool value => .ok (if value then 1 else 0)
  | .float value =>
    if isFinite value then
      match wholeValue? value with
      | some whole =>
        if -wordBound < whole ∧ whole < wordBound then .ok whole
        else mismatch .integerTooLarge found
      | none => mismatch .integerFraction found
    else mismatch .numberNotFinite found
  | .string value =>
    match readIntegerText value.toList with
    | .ok whole => .ok whole
    | .error .malformed => mismatch .integerUnreadable found
    | .error .tooLong => mismatch .integerTooLarge found
  | .null | .array _ | .object _ => mismatch .integerExpected found

/-- The words for a truth value. -/
def boolOfWord? (word : List Char) : Option Bool :=
  let lower := String.ofList (word.map Char.toLower)
  if ["1", "true", "t", "yes", "y", "on"].contains lower then some true
  else if ["0", "false", "f", "no", "n", "off"].contains lower then some false
  else none

/-- Reads a truth value. The numbers zero and one, and some words in any letter case, count too. -/
def readBool (found : Json) : Checked Bool :=
  match found with
  | .bool value => .ok value
  | .int value =>
    if value = 0 then .ok false
    else if value = 1 then .ok true
    else if -wordBound ≤ value ∧ value < wordBound then mismatch .boolUnreadable found
    else mismatch .boolExpected found
  | .float value =>
    match if isFinite value then wholeValue? value else none with
    | some whole =>
      if whole = 0 then .ok false
      else if whole = 1 then .ok true
      else if -wordBound < whole ∧ whole < wordBound then mismatch .boolUnreadable found
      else mismatch .boolExpected found
    | none => mismatch .boolExpected found
  | .string value =>
    match boolOfWord? value.toList with
    | some truth => .ok truth
    | none => mismatch .boolUnreadable found
  | .null | .array _ | .object _ => mismatch .boolExpected found

/-!
## Reports about mismatches

The text that lists the mismatches of a record for a reader. Every mismatch has two lines below its
place and shows the value that was found, on one line and shortened in its middle.
-/

mutual
/-- A value on one line. -/
def inspect : Json → String
  | .null => "None"
  | .bool value => if value then "True" else "False"
  | .int value => toString value
  | .float value =>
    if isFinite value then floatText value
    else if value.isNaN then "nan"
    else if value < 0 then "-inf"
    else "inf"
  | .string value => Text.quoted value
  | .array items => "[" ++ Text.join ", " (inspectItems items) ++ "]"
  | .object fields => "\x7b" ++ Text.join ", " (inspectFields fields) ++ "\x7d"

def inspectItems : List Json → List String
  | [] => []
  | item :: rest => inspect item :: inspectItems rest

def inspectFields : List (String × Json) → List String
  | [] => []
  | (key, value) :: rest => (Text.quoted key ++ ": " ++ inspect value) :: inspectFields rest
end

def typeName : Json → String
  | .null => "NoneType"
  | .bool _ => "bool"
  | .int _ => "int"
  | .float _ => "float"
  | .string _ => "str"
  | .array _ => "list"
  | .object _ => "dict"

/-- The longest part at the front of a text that takes at most a number of bytes. -/
def frontBytes : Nat → List Char → List Char
  | _, [] => []
  | room, c :: rest => if c.utf8Size ≤ room then c :: frontBytes (room - c.utf8Size) rest else []

/-- Shortens a text of more than fifty bytes in its middle. -/
def shorten (text : String) : String :=
  if text.utf8ByteSize ≤ 50 then text
  else
    String.ofList (frontBytes 25 text.toList) ++ "..." ++
      String.ofList (frontBytes 24 text.toList.reverse).reverse

def Step.text : Step → String
  | .key name => name
  | .index position => toString position

def Mismatch.lines (mismatch : Mismatch) : List String :=
  (if mismatch.location.isEmpty then [] else [Text.join "." (mismatch.location.map Step.text)]) ++
    ["  " ++ mismatch.kind.message ++ " [type=" ++ mismatch.kind.code ++ ", input_value=" ++
      shorten (inspect mismatch.found) ++ ", input_type=" ++ typeName mismatch.found ++ "]",
    "    For further information visit https://errors.pydantic.dev/2.14/v/" ++ mismatch.kind.code]

/-- The report about the mismatches of a record. -/
def report (record : String) (mismatches : List Mismatch) : String :=
  let count := mismatches.length
  let head := toString count ++ (if count = 1 then " validation error for " else " validation errors for ")
    ++ record
  Text.joinLines (head :: mismatches.flatMap Mismatch.lines)

end IssueWatch.Json
