import IssueWatch.Decimal
import IssueWatch.Text.Character
import IssueWatch.Xml.Element

/-!
# Markup of XML documents

A document is cut into tags, character data, references and parts without content, such as comments.
Every function answers with nothing if the text at hand is malformed. The line breaks of the text are
newlines already. The values of attributes are cut out of a tag as they are written.
-/
namespace IssueWatch.Xml

/-- A part of a document. -/
inductive Markup where
  | openTag (name : List Char) (attributes : List (List Char × List Char)) (closed : Bool)
  | closeTag (name : List Char)
  | data (text : List Char)
  | literal (text : List Char)
  | reference (entity : List Char)
  | nothing
  deriving Repr

/-- What a reference stands for: a character, or an entity that the document declares. -/
inductive Referent where
  | character (c : Char)
  | entity (name : List Char)
  deriving DecidableEq, Repr

namespace Markup

def hexNumber? : List Char → Option Nat
  | [] => none
  | digits => digits.foldl (fun total c => do return 16 * (← total) + (← Text.hexValue? c)) (some 0)

def decimalNumber? (digits : List Char) : Option Nat :=
  if digits.isEmpty || !digits.all Decimal.isDigit then none else some (Decimal.ofDigits digits)

/-- The character of a code, if a document may hold it. -/
def charOfCode? (code : Nat) : Option Char :=
  if code.isValidChar && isXmlChar (Char.ofNat code) then some (Char.ofNat code) else none

/-- The character of a name that is known in every document. -/
def predefined? : List Char → Option Char
  | ['a', 'm', 'p'] => some '&'
  | ['l', 't'] => some '<'
  | ['g', 't'] => some '>'
  | ['q', 'u', 'o', 't'] => some '"'
  | ['a', 'p', 'o', 's'] => some '\''
  | _ => none

/-- What a reference stands for, given what is between its ampersand and semicolon. -/
def referent? : List Char → Option Referent
  | '#' :: 'x' :: digits => ((hexNumber? digits).bind charOfCode?).map .character
  | '#' :: digits => ((decimalNumber? digits).bind charOfCode?).map .character
  | name =>
    match predefined? name with
    | some c => some (.character c)
    | none => if isPlainName name then some (.entity name) else none

/-- Reads a reference behind its ampersand. The answer is what it stands for and the length of the
reference with its semicolon. -/
def readReference (input : List Char) : Option (Referent × Nat) :=
  let body := input.takeWhile (· != ';')
  if body.length < input.length then (referent? body).map (·, body.length + 1) else none

/-- The value of an attribute, given those of the entities in it. White space becomes a space, unless it
comes from a reference to a character. The number counts the characters of a reference that are passed
over. -/
def attributeValue (expand : List Char → Option (List Char)) : Nat → List Char → Option (List Char)
  | _, [] => some []
  | pending + 1, _ :: rest => attributeValue expand pending rest
  | 0, c :: rest =>
    if c = '<' then none
    else if c = '&' then
      match readReference rest with
      | none => none
      | some (.character character, length) =>
        (attributeValue expand length rest).map (character :: ·)
      | some (.entity name, length) => do
        let value ← expand name
        return value ++ (← attributeValue expand length rest)
    else if isXmlSpace c then (attributeValue expand 0 rest).map (' ' :: ·)
    else (attributeValue expand 0 rest).map (c :: ·)

/-- A part of a start tag. -/
inductive Piece where
  | space
  | equals
  | word (name : List Char)
  | quoted (value : List Char)
  | slash
  | close
  deriving Repr

/-- Reads the part at the start of an input and says how long it is. -/
def readPiece : List Char → Option (Piece × Nat)
  | [] => none
  | c :: rest =>
    if isXmlSpace c then some (.space, (rest.takeWhile isXmlSpace).length + 1)
    else if c = '=' then some (.equals, 1)
    else if c = '/' then some (.slash, 1)
    else if c = '>' then some (.close, 1)
    else if c = '"' || c = '\'' then
      let value := rest.takeWhile (· != c)
      if value.length < rest.length then some (.quoted value, value.length + 2) else none
    else
      let name := (c :: rest).takeWhile fun other => isNameChar other || other == ':'
      if isQualifiedName name then some (.word name, name.length) else none

/-- Reads the parts of a tag up to its closing bracket, and says how long they are. The first argument
counts the characters of the part read last that are passed over. -/
def readPieces : Nat → List Char → Option (List Piece × Nat)
  | _, [] => none
  | pending + 1, _ :: rest => (readPieces pending rest).map fun (parts, length) => (parts, length + 1)
  | 0, c :: rest =>
    if c = '>' then some ([.close], 1)
    else
      match readPiece (c :: rest) with
      | none => none
      | some (part, size) =>
        (readPieces (size - 1) rest).map fun (parts, length) => (part :: parts, length + 1)

/-- The attributes of a start tag, and whether it closes its element at once. White space stands in
front of every attribute and may stand around the equals sign and in front of the end. -/
def attributes : List Piece → Option (List (List Char × List Char) × Bool)
  | [.close] | [.space, .close] => some ([], false)
  | [.slash, .close] | [.space, .slash, .close] => some ([], true)
  | .space :: .word name :: .equals :: .quoted value :: rest
  | .space :: .word name :: .space :: .equals :: .quoted value :: rest
  | .space :: .word name :: .equals :: .space :: .quoted value :: rest
  | .space :: .word name :: .space :: .equals :: .space :: .quoted value :: rest =>
    (attributes rest).map fun (others, closed) => ((name, value) :: others, closed)
  | _ => none

def readOpenTag (input : List Char) : Option (Markup × Nat) :=
  match readPieces 0 input with
  | some (.word name :: parts, length) =>
    (attributes parts).map fun (found, closed) => (.openTag name found closed, length)
  | _ => none

/-- Reads an end tag behind its opening bracket and slash. -/
def readCloseTag (input : List Char) : Option (Markup × Nat) :=
  match readPieces 0 input with
  | some ([.word name, .close], length) | some ([.word name, .space, .close], length) =>
    some (.closeTag name, length)
  | _ => none

/-- How many characters stand in front of the first occurrence of a word, if there is one. -/
def offsetOf? (word : List Char) : List Char → Option Nat
  | [] => if word.isEmpty then some 0 else none
  | c :: rest =>
    if word.isPrefixOf (c :: rest) then some 0 else (offsetOf? word rest).map (· + 1)

/-- Reads a comment behind its opening. Two dashes in a row can only end it. -/
def readComment (input : List Char) : Option (Markup × Nat) :=
  match offsetOf? "--".toList input with
  | none => none
  | some length =>
    if (input.drop (length + 2)).head? = some '>' then some (.nothing, length + 3) else none

/-- Reads a section of character data behind its opening. -/
def readSection (input : List Char) : Option (Markup × Nat) :=
  (offsetOf? "]]>".toList input).map fun length => (.literal (input.take length), length + 3)

/-- Whether a word is the name of the declaration, in any letter case. -/
def isDeclarationName (word : List Char) : Bool :=
  word.map Char.toLower == "xml".toList

/-- Reads a processing instruction behind its opening. White space ends its name. -/
def readInstruction (input : List Char) : Option (Markup × Nat) :=
  let name := input.takeWhile isNameChar
  if isPlainName name && !isDeclarationName name then
    match offsetOf? "?>".toList (input.drop name.length) with
    | none => none
    | some length =>
      if length = 0 || ((input.drop name.length).head?.map isXmlSpace).getD false then
        some (.nothing, name.length + length + 2)
      else none
  else none

/-- Makes room for the opening of a part that was read behind it. -/
def behind (opening : Nat) (part : Option (Markup × Nat)) : Option (Markup × Nat) :=
  part.map fun (markup, length) => (markup, opening + length)

/-- Reads the part at the start of an input that is not empty, and says how long it is. -/
def read (input : List Char) : Option (Markup × Nat) :=
  match input with
  | '<' :: '!' :: '-' :: '-' :: rest => behind 4 (readComment rest)
  | '<' :: '!' :: '[' :: 'C' :: 'D' :: 'A' :: 'T' :: 'A' :: '[' :: rest => behind 9 (readSection rest)
  | '<' :: '?' :: rest => behind 2 (readInstruction rest)
  | '<' :: '/' :: rest => behind 2 (readCloseTag rest)
  | '<' :: rest => behind 1 (readOpenTag rest)
  | '&' :: rest =>
    behind 1 ((readReference rest).map fun
      | (.character character, length) => (.literal [character], length)
      | (.entity name, length) => (.reference name, length))
  | _ =>
    let text := input.takeWhile fun c => c != '<' && c != '&'
    if (offsetOf? "]]>".toList text).isSome then none else some (.data text, text.length)

end Markup
end IssueWatch.Xml
