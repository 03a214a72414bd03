import IssueWatch.Console.Literal
import IssueWatch.Console.Style
import IssueWatch.Text.Character

/-!
# Console markup

What is printed may hold tags in square brackets that switch styles on and off. Resolving a text
removes the tags; a closing tag must match an open one of the same normal form. Backslashes in front of a
tag stand for half their number, and with an odd one the tag is shown instead of acting. Escaping writes
a text so that no tag in it acts.
-/
namespace IssueWatch.Console

/-- Why a text cannot be resolved: a closing tag has no open tag that it could close, the parameters of a
closed tag are no literal, or a component of a colour is no number. -/
inductive MarkupError where
  | unmatched
  | parameters
  | component (fault : Text.IntegerFault)
  deriving DecidableEq, Repr

/-- The characters that a tag can start with, behind its bracket. -/
def isTagStart (c : Char) : Bool :=
  ('a' ≤ c && c ≤ 'z') || c == '#' || c == '/' || c == '@'

/-- The text of a tag behind its opening bracket, up to the first closing one. It holds no other
opening bracket. -/
def tagBody? : List Char → Option (List Char)
  | [] => none
  | c :: rest =>
    if isTagStart c then
      let tail := rest.takeWhile fun other => other != ']' && other != '['
      if (rest.drop tail.length).head? = some ']' then some (c :: tail) else none
    else none

/-- A tag and the number of backslashes in front of it. -/
structure Tag where
  backslashes : Nat
  body : List Char
  deriving DecidableEq, Repr

/-- The number of characters of a tag with its backslashes and brackets. -/
def Tag.length (tag : Tag) : Nat :=
  tag.backslashes + tag.body.length + 2

/-- The tag at the start of an input, behind any number of backslashes. -/
def tagAt? (input : List Char) : Option Tag :=
  let backslashes := (input.takeWhile (· == '\\')).length
  match input.drop backslashes with
  | '[' :: rest => (tagBody? rest).map fun body => ⟨backslashes, body⟩
  | _ => none

/-- A tag that was not closed yet: its normal form and what stands behind its equals sign. -/
structure OpenTag where
  name : String
  parameters : Option (List Char)
  deriving DecidableEq, Repr

/-- The data that parameters give. A name in front of round brackets, or alone, takes the data of its
brackets, of which it has an empty pair if it has none. -/
def parameterData (parameters : List Char) : List Char :=
  let trimmed := Text.trimEnd (Text.trimStart parameters)
  let rest := trimmed.dropWhile fun c => Text.isWordCharacter c || c == '.'
  if rest.isEmpty then "()".toList
  else if rest.head? = some '(' ∧ rest.getLast? = some ')' ∧ '\n' ∉ rest then rest
  else trimmed

/-- Closes a tag. Parameters are looked at only if the name of the tag starts with an at sign. -/
def OpenTag.close (tag : OpenTag) : Except MarkupError Unit :=
  match tag.parameters with
  | none | some [] => .ok ()
  | some parameters =>
    if tag.name.toList.head? = some '@' ∧ !isLiteral (parameterData parameters) then
      .error .parameters
    else .ok ()

/-- The innermost of several open tags that has a name, and the others. -/
def takeNamed (name : String) : List OpenTag → Option (OpenTag × List OpenTag)
  | [] => none
  | innermost :: outer =>
    if innermost.name = name then some (innermost, outer)
    else (takeNamed name outer).map fun (tag, others) => (tag, innermost :: others)

/-- The innermost of several open tags, and the others. -/
def takeInnermost : List OpenTag → Option (OpenTag × List OpenTag)
  | [] => none
  | innermost :: outer => some (innermost, outer)

/-- The open tags after one of them was closed. -/
def closeTaken : Option (OpenTag × List OpenTag) → Except MarkupError (List OpenTag)
  | none => .error .unmatched
  | some (tag, others) => tag.close.map fun _ => others

/-- The normal form of the name of a tag. -/
def tagName (name : List Char) : Except MarkupError String :=
  (Style.normalText name).mapError .component

/-- The open tags after a tag, the innermost first. A closing tag without name closes the innermost. -/
def act (opened : List OpenTag) (body : List Char) : Except MarkupError (List OpenTag) :=
  let name := body.takeWhile (· != '=')
  match name with
  | '/' :: closed =>
    if (Text.trimStart closed).isEmpty then closeTaken (takeInnermost opened)
    else do closeTaken (takeNamed (← tagName closed) opened)
  | _ => do
    let parameters := if name.length < body.length then some (body.drop (name.length + 1)) else none
    return ⟨← tagName name, parameters⟩ :: opened

/-- The characters that are never printed. -/
def isSilent (c : Char) : Bool :=
  let code := c.toNat
  code == 0x07 || code == 0x08 || code == 0x0B || code == 0x0C || code == 0x0D

/-- Resolves the tags of a text inside some open tags. The first argument counts the characters that
are passed over. -/
def resolveFrom : Nat → List OpenTag → List Char → Except MarkupError (List Char)
  | _, _, [] => .ok []
  | pending + 1, opened, _ :: rest => resolveFrom pending opened rest
  | 0, opened, c :: rest =>
    match tagAt? (c :: rest) with
    | some tag =>
      let shown := List.replicate (tag.backslashes / 2) '\\'
      if tag.backslashes % 2 = 1 then
        (resolveFrom (tag.length - 1) opened rest).map (shown ++ '[' :: tag.body ++ ']' :: ·)
      else
        match act opened tag.body with
        | .error error => .error error
        | .ok inside => (resolveFrom (tag.length - 1) inside rest).map (shown ++ ·)
    | none =>
      if c = '\\' ∧ rest.head? = some '[' then (resolveFrom 1 opened rest).map ('[' :: ·)
      else (resolveFrom 0 opened rest).map (c :: ·)

def resolve (markup : String) : Except MarkupError String :=
  (resolveFrom 0 [] markup.toList).map fun text => String.ofList (text.filter fun c => !isSilent c)

def escapeFrom : Nat → List Char → List Char
  | _, [] => []
  | pending + 1, _ :: rest => escapeFrom pending rest
  | 0, c :: rest =>
    match tagAt? (c :: rest) with
    | some tag =>
      List.replicate (2 * tag.backslashes + 1) '\\' ++ '[' :: tag.body ++
        ']' :: escapeFrom (tag.length - 1) rest
    | none => c :: escapeFrom 0 rest

/-- Doubles a single backslash at the end of a text. -/
def guardEnd (text : List Char) : List Char :=
  match text.reverse with
  | '\\' :: '\\' :: _ => text
  | '\\' :: _ => text ++ ['\\']
  | _ => text

/-- A text whose tags are shown instead of acting. -/
def escape (text : String) : String :=
  String.ofList (guardEnd (escapeFrom 0 text.toList))

/-!
## The screen

What commands print: lines of text and tables. All texts are written with markup; what is shown has its
tags resolved. A screen may show a picture for some words between colons. Which words these are is left open:
they stay as they are here.
-/

/-- Something to print, written with markup. -/
inductive Entry where
  | line (markup : String)
  | table (title : String) (columns : List String) (rows : List (List String))
  deriving DecidableEq, Repr

/-- Something that was printed. -/
inductive Printed where
  | line (text : String)
  | table (title : String) (columns : List String) (rows : List (List String))
  deriving DecidableEq, Repr

/-- What is shown for an entry. A table is shown only if all its cells can be resolved. -/
def Entry.show : Entry → Except MarkupError Printed
  | .line markup => (resolve markup).map .line
  | .table title columns rows => do
    return .table (← resolve title) (← columns.mapM resolve) (← rows.mapM (·.mapM resolve))

/-- The words between colons in a text, from the word on that is read at the moment, if there is one. The colon
behind a word opens no other one, and no word has a blank. -/
def wordsFrom : Option (List Char) → List Char → List (List Char)
  | _, [] => []
  | none, c :: rest => wordsFrom (if c = ':' then some [] else none) rest
  | some word, c :: rest =>
    if c = ':' then word.reverse :: wordsFrom none rest
    else wordsFrom (if Text.isBlank c then none else some (c :: word)) rest

/-- Whether a screen shows a picture in place of some part of a text, given the words that have one. -/
def hasPicture (isPicture : List Char → Bool) (text : String) : Bool :=
  (wordsFrom none text.toList).any isPicture

end IssueWatch.Console
