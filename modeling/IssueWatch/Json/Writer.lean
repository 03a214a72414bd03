import IssueWatch.Json.Value
import IssueWatch.Text.Character

/-!
# Writing JSON

The text of a JSON value. Every item of an array and every field of an object stands on a line of its
own, indented by two spaces for each level; empty arrays and objects have no line break. Only quotes,
backslashes and control characters are escaped.
-/
namespace IssueWatch.Json

/-- A character inside a string. -/
def escapeChar (c : Char) : List Char :=
  if c = '"' then ['\\', '"']
  else if c = '\\' then ['\\', '\\']
  else if c = '\n' then ['\\', 'n']
  else if c = '\r' then ['\\', 'r']
  else if c = '\t' then ['\\', 't']
  else if c.toNat = 0x08 then ['\\', 'b']
  else if c.toNat = 0x0C then ['\\', 'f']
  else if c.toNat < 0x20 then
    ['\\', 'u', '0', '0', Text.lowerHexDigit (c.toNat / 16), Text.lowerHexDigit (c.toNat % 16)]
  else [c]

def stringChars (text : String) : List Char :=
  '"' :: text.toList.flatMap escapeChar ++ ['"']

/-- A new line at a level of indentation. -/
def lineBreak (depth : Nat) : List Char :=
  '\n' :: List.replicate (2 * depth) ' '

mutual
/-- The text of a value whose first line stands at a level of indentation. -/
def writeChars (depth : Nat) : Json → List Char
  | .null => "null".toList
  | .bool value => (if value then "true" else "false").toList
  | .int value => (toString value).toList
  | .float value => (floatText value).toList
  | .string value => stringChars value
  | .array [] => "[]".toList
  | .array items => '[' :: lineBreak (depth + 1) ++ writeItems (depth + 1) items ++ lineBreak depth ++ [']']
  | .object [] => "\x7b\x7d".toList
  | .object fields =>
    '\x7b' :: lineBreak (depth + 1) ++ writeFields (depth + 1) fields ++ lineBreak depth ++ ['\x7d']

def writeItems (depth : Nat) : List Json → List Char
  | [] => []
  | [item] => writeChars depth item
  | item :: rest => writeChars depth item ++ ',' :: lineBreak depth ++ writeItems depth rest

def writeFields (depth : Nat) : List (String × Json) → List Char
  | [] => []
  | [(key, value)] => stringChars key ++ ':' :: ' ' :: writeChars depth value
  | (key, value) :: rest =>
    stringChars key ++ ':' :: ' ' :: writeChars depth value ++ ',' :: lineBreak depth ++
      writeFields depth rest
end

section Lines

variable (depth : Nat)

theorem writeChars_array_cons (item : Json) (others : List Json) :
    writeChars depth (.array (item :: others)) =
      '[' :: lineBreak (depth + 1) ++ writeItems (depth + 1) (item :: others) ++ lineBreak depth ++
        [']'] :=
  rfl

theorem writeChars_object_cons (entry : String × Json) (others : Fields) :
    writeChars depth (.object (entry :: others)) =
      '\x7b' :: lineBreak (depth + 1) ++ writeFields (depth + 1) (entry :: others) ++ lineBreak depth ++
        ['\x7d'] :=
  rfl

theorem writeItems_singleton (item : Json) : writeItems depth [item] = writeChars depth item :=
  rfl

theorem writeItems_cons_cons (item next : Json) (others : List Json) :
    writeItems depth (item :: next :: others) =
      writeChars depth item ++ ',' :: lineBreak depth ++ writeItems depth (next :: others) :=
  rfl

theorem writeFields_singleton (name : String) (value : Json) :
    writeFields depth [(name, value)] = stringChars name ++ ':' :: ' ' :: writeChars depth value :=
  rfl

theorem writeFields_cons_cons (name : String) (value : Json) (next : String × Json)
    (others : Fields) :
    writeFields depth ((name, value) :: next :: others) =
      stringChars name ++ ':' :: ' ' :: writeChars depth value ++ ',' :: lineBreak depth ++
        writeFields depth (next :: others) :=
  rfl

end Lines

def write (value : Json) : String :=
  String.ofList (writeChars 0 value)

end IssueWatch.Json
