import IssueWatch.Xml.Markup

/-!
# Document types

A document may declare its type in front of its root. Of the declarations, those of entities and of the
attributes of elements matter to what the document says; the others only have to be well-formed. Parameter
entities and declarations outside the document are not read. What they could have declared is unknown then,
and so are the declarations behind a reference to a parameter entity, unless the document stands alone.
-/
namespace IssueWatch.Xml

/-- What is declared about an attribute of the elements of a name: whether its value is a list of tokens, and
the value that it has where none is written. -/
structure AttributeRule where
  element : List Char
  name : List Char
  isTokenized : Bool
  default? : Option (List Char)
  deriving DecidableEq, Repr

/-- The declarations of a document: the entities with their texts, unless those are outside the document, and
the rules for attributes. -/
structure Doctype where
  standsAlone : Bool := false
  isExternal : Bool := false
  hasReference : Bool := false
  entities : List (List Char × Option (List Char)) := []
  rules : List AttributeRule := []
  deriving DecidableEq, Repr

namespace Doctype

/-- Whether there may be declarations that are not read. -/
def isIncomplete (doctype : Doctype) : Bool :=
  !doctype.standsAlone && (doctype.isExternal || doctype.hasReference)

/-- Whether declarations still count. -/
def isOpen (doctype : Doctype) : Bool :=
  doctype.standsAlone || !doctype.hasReference

/-- The text of an entity, if it is declared; none if that is outside the document. -/
def entity? (doctype : Doctype) (name : List Char) : Option (Option (List Char)) :=
  (doctype.entities.find? fun entry => entry.1 = name).map Prod.snd

/-- The rule for an attribute of an element. -/
def rule? (doctype : Doctype) (element name : List Char) : Option AttributeRule :=
  doctype.rules.find? fun rule => rule.element = element && rule.name = name

/-- Declares an entity. Only its first declaration counts. -/
def addEntity (doctype : Doctype) (name : List Char) (text? : Option (List Char)) : Doctype :=
  if !doctype.isOpen || (Markup.predefined? name).isSome || (doctype.entity? name).isSome then doctype
  else { doctype with entities := doctype.entities ++ [(name, text?)] }

/-- Adds a rule for an attribute. Only the first one counts. -/
def addRule (doctype : Doctype) (rule : AttributeRule) : Doctype :=
  if !doctype.isOpen || (doctype.rule? rule.element rule.name).isSome then doctype
  else { doctype with rules := doctype.rules ++ [rule] }

/-! ## Values of attributes -/

/-- The value of an entity inside the value of an attribute. An entity that may be declared elsewhere has
none. The number bounds how deep entities refer to others. -/
def valueOf (doctype : Doctype) : Nat → List Char → Option (List Char)
  | 0, _ => none
  | depth + 1, name =>
    match doctype.entity? name with
    | none => if doctype.isIncomplete then some [] else none
    | some none => none
    | some (some text) => Markup.attributeValue (doctype.valueOf depth) 0 text

/-- Tokens with a single space between them. -/
def tokens (value : List Char) : List Char :=
  let words := (value.splitOnP (· == ' ')).filter fun word => !word.isEmpty
  (words.intersperse [' ']).flatten

/-- The value of an attribute as it is meant. No entity refers to itself, so that a chain of them is no
longer than their number. -/
def attributeValue (doctype : Doctype) (isTokenized : Bool) (written : List Char) : Option (List Char) :=
  (Markup.attributeValue (doctype.valueOf (doctype.entities.length + 1)) 0 written).map fun value =>
    if isTokenized then tokens value else value

/-- The attributes of an element, given those that are written, with the declared ones behind them. -/
def attributesOf? (doctype : Doctype) (element : List Char) (written : List (List Char × List Char)) :
    Option (List (List Char × List Char)) := do
  let meant ← written.mapM fun (name, value) =>
    let isTokenized := ((doctype.rule? element name).map AttributeRule.isTokenized).getD false
    (doctype.attributeValue isTokenized value).map (name, ·)
  let missing := doctype.rules.filter fun rule =>
    rule.element = element && !(written.map Prod.fst).contains rule.name
  return meant ++ missing.filterMap fun rule => rule.default?.map (rule.name, ·)

end Doctype

/-! ## Parts of declarations -/

/-- A part of a declaration. A word in the content of an element, or a group, may have a mark for how often it
occurs. -/
inductive DeclarationPart where
  | word (text : List Char)
  | counted (text : List Char)
  | keyword (text : List Char)
  | literal (text : List Char)
  | percent
  | openGroup
  | closeGroup (mark? : Option Char)
  | bar
  | comma
  | openSubset
  | close
  deriving DecidableEq, Repr

namespace DeclarationPart

/-- Whether a word is a name with or without a prefix. Any character of a name may start the part behind the
prefix. -/
def isName (word : List Char) : Bool :=
  let first := word.takeWhile (· != ':')
  isPlainName first &&
    match word.drop first.length with
    | [] => true
    | _ :: second => !second.isEmpty && second.all isNameChar

/-- Whether a text can stand behind a part: nothing that goes on with it. -/
def endsBefore (marks : List Char) : List Char → Bool
  | [] => false
  | c :: _ => isXmlSpace c || marks.contains c

/-- Reads a word. -/
def readWord (input : List Char) : Option (DeclarationPart × Nat) :=
  let word := input.takeWhile fun c => isNameChar c || c == ':'
  let behind := input.drop word.length
  if word.isEmpty then none
  else if endsBefore ['>', ')', ',', '|', '[', '%'] behind then some (.word word, word.length)
  else if isName word && (behind.head?.map ['?', '*', '+'].contains).getD false then
    some (.counted word, word.length + 1)
  else none

/-- Reads a text in quotes behind the first of them. -/
def readLiteral (quote : Char) (input : List Char) : Option (DeclarationPart × Nat) :=
  let text := input.takeWhile (· != quote)
  if endsBefore ['>', '%', '['] (input.drop (text.length + 1)) then some (.literal text, text.length + 2)
  else none

/-- Reads a keyword behind its mark. -/
def readKeyword (input : List Char) : Option (DeclarationPart × Nat) :=
  let word := input.takeWhile isNameChar
  if isPlainName word && endsBefore ['>', ')', '|', '%'] (input.drop word.length) then
    some (.keyword word, word.length + 1)
  else none

/-- Reads the end of a group behind its parenthesis. -/
def readGroupEnd (input : List Char) : Option (DeclarationPart × Nat) :=
  match input with
  | '?' :: _ | '*' :: _ | '+' :: _ => some (.closeGroup input.head?, 2)
  | _ => if endsBefore ['>', ',', '|', ')'] input then some (.closeGroup none, 1) else none

/-- Reads the part at the start of an input, which is no white space, and says how long it is. -/
def read (input : List Char) : Option (DeclarationPart × Nat) :=
  match input with
  | '"' :: rest => readLiteral '"' rest
  | '\'' :: rest => readLiteral '\'' rest
  | '#' :: rest => readKeyword rest
  | '%' :: rest => if (rest.head?.map isXmlSpace).getD false then some (.percent, 1) else none
  | '(' :: _ => some (.openGroup, 1)
  | ')' :: rest => readGroupEnd rest
  | '|' :: _ => some (.bar, 1)
  | ',' :: _ => some (.comma, 1)
  | '[' :: _ => some (.openSubset, 1)
  | '>' :: _ => some (.close, 1)
  | _ => readWord input

/-- Reads the parts up to the end of a declaration or the declarations inside it, and says how long they
are. The number counts the characters of the part read last that are passed over. -/
def readAll : Nat → List Char → Option (List DeclarationPart × Nat)
  | _, [] => none
  | pending + 1, _ :: rest => (readAll pending rest).map fun (parts, length) => (parts, length + 1)
  | 0, c :: rest =>
    if isXmlSpace c then (readAll 0 rest).map fun (parts, length) => (parts, length + 1)
    else
      match read (c :: rest) with
      | none => none
      | some (.close, _) => some ([.close], 1)
      | some (.openSubset, _) => some ([.openSubset], 1)
      | some (part, size) =>
        (readAll (size - 1) rest).map fun (parts, length) => (part :: parts, length + 1)

end DeclarationPart

/-! ## Declarations -/

namespace Doctype

/-- Whether a character may stand in a public identifier. -/
def isPublicChar (c : Char) : Bool :=
  c.isAlphanum || c == ' ' || c == '\n' || "-'()+,./:=?;!*#@$_%".toList.contains c

/-- Passes over the identifier of something outside the document. -/
def behindIdentifier? : List DeclarationPart → Option (List DeclarationPart)
  | .word key :: .literal first :: rest =>
    if key = "SYSTEM".toList then some rest
    else if key = "PUBLIC".toList && first.all isPublicChar then
      match rest with
      | .literal _ :: others => some others
      | _ => none
    else none
  | _ => none

/-- The text of an entity, given how it is written: references to characters are resolved, and those to
entities stay. The number counts the characters that are passed over. -/
def entityText : Nat → List Char → Option (List Char)
  | _, [] => some []
  | pending + 1, _ :: rest => entityText pending rest
  | 0, c :: rest =>
    if c = '%' then none
    else if c = '&' then
      match rest.head?, Markup.readReference rest with
      | some '#', some (.character character, length) => (entityText length rest).map (character :: ·)
      | some _, some _ => (entityText 0 rest).map (c :: ·)
      | _, _ => none
    else (entityText 0 rest).map (c :: ·)

/-- Declares an entity whose text is written in the document. -/
def declareText (doctype : Doctype) (declare : Doctype → Option (List Char) → Doctype)
    (written : List Char) : Option Doctype :=
  if doctype.isOpen then (entityText 0 written).map fun text => declare doctype (some text)
  else some doctype

/-- Declares an entity, or a parameter entity, which is never read. -/
def declareEntity (doctype : Doctype) (parts : List DeclarationPart) : Option Doctype :=
  match parts with
  | .percent :: .word name :: [.literal written, .close] =>
    if isPlainName name then doctype.declareText (fun same _ => same) written else none
  | .percent :: .word name :: rest =>
    if isPlainName name && behindIdentifier? rest = some [.close] then some doctype else none
  | .word name :: [.literal written, .close] =>
    if isPlainName name then
      doctype.declareText (fun known text? => known.addEntity name text?) written
    else none
  | .word name :: rest =>
    if isPlainName name then
      match behindIdentifier? rest with
      | some [.close] => some (doctype.addEntity name none)
      | some [.word key, .word format, .close] =>
        if key = "NDATA".toList && isPlainName format then some (doctype.addEntity name none) else none
      | _ => none
    else none
  | _ => none

/-- Checks the declaration of a notation. -/
def isNotation (parts : List DeclarationPart) : Bool :=
  match parts with
  | .word name :: rest =>
    isPlainName name &&
      (behindIdentifier? rest = some [.close] ||
        match rest with
        | [.word key, .literal identifier, .close] =>
          key = "PUBLIC".toList && identifier.all isPublicChar
        | _ => false)
  | _ => false

/-- What is expected next in the rules for the attributes of an element: the name of an attribute or the end;
its type; the first or a further member of the group of its values; a bar or the end of the group; its
default; or the value of a fixed one. -/
inductive RuleState where
  | nameOrEnd
  | type (name : List Char)
  | group (name : List Char)
  | member (name : List Char) (isNotation : Bool)
  | behindMember (name : List Char) (isNotation : Bool)
  | default (name : List Char) (isTokenized : Bool)
  | fixed (name : List Char) (isTokenized : Bool)
  deriving DecidableEq, Repr

/-- The types of attributes whose values are lists of tokens. -/
def tokenTypes : List (List Char) :=
  ["ID", "IDREF", "IDREFS", "ENTITY", "ENTITIES", "NMTOKEN", "NMTOKENS"].map String.toList

/-- Adds a rule with a default. -/
def addDefault (doctype : Doctype) (element name : List Char) (isTokenized : Bool)
    (written : List Char) : Option Doctype :=
  if doctype.isOpen then
    (doctype.attributeValue isTokenized written).map fun value =>
      doctype.addRule ⟨element, name, isTokenized, some value⟩
  else some doctype

/-- Takes the next part of the rules for the attributes of an element. -/
def ruleStep (element : List Char) :
    Doctype × RuleState → DeclarationPart → Option (Doctype × RuleState)
  | (doctype, .nameOrEnd), .word name =>
    if DeclarationPart.isName name then some (doctype, .type name) else none
  | (doctype, .type name), .word key =>
    if key = "CDATA".toList then some (doctype, .default name false)
    else if tokenTypes.contains key then some (doctype, .default name true)
    else if key = "NOTATION".toList then some (doctype, .group name)
    else none
  | (doctype, .type name), .openGroup => some (doctype, .member name false)
  | (doctype, .group name), .openGroup => some (doctype, .member name true)
  | (doctype, .member name isNotation), .word value =>
    if isNotation && !isPlainName value then none else some (doctype, .behindMember name isNotation)
  | (doctype, .behindMember name isNotation), .bar => some (doctype, .member name isNotation)
  | (doctype, .behindMember name _), .closeGroup none => some (doctype, .default name true)
  | (doctype, .default name isTokenized), .keyword key =>
    if key = "IMPLIED".toList || key = "REQUIRED".toList then
      some (doctype.addRule ⟨element, name, isTokenized, none⟩, .nameOrEnd)
    else if key = "FIXED".toList then some (doctype, .fixed name isTokenized)
    else none
  | (doctype, .default name isTokenized), .literal written
  | (doctype, .fixed name isTokenized), .literal written =>
    (doctype.addDefault element name isTokenized written).map (·, .nameOrEnd)
  | _, _ => none

/-- Declares the rules for the attributes of an element. -/
def declareRules (doctype : Doctype) (parts : List DeclarationPart) : Option Doctype :=
  match parts with
  | .word element :: rest =>
    if DeclarationPart.isName element && rest.getLast? = some .close then
      match rest.dropLast.foldlM (ruleStep element) (doctype, .nameOrEnd) with
      | some (known, .nameOrEnd) => some known
      | _ => none
    else none
  | _ => none

/-- What is expected next in the content of an element: a keyword or a group; what stands first in the group;
what stands behind the keyword for text in it, or behind a bar or a name there; a member of a group, or what
stands behind it, with the connectors of the groups that are open; or nothing. -/
inductive ContentState where
  | start
  | first
  | behindText
  | mixedName
  | behindMixedName
  | member (connectors : List (Option DeclarationPart))
  | behindMember (connectors : List (Option DeclarationPart))
  | done
  deriving DecidableEq, Repr

/-- Takes the next part of the content of an element. -/
def contentStep : ContentState → DeclarationPart → Option ContentState
  | .start, .word key => if key = "EMPTY".toList || key = "ANY".toList then some .done else none
  | .start, .openGroup => some .first
  | .first, .keyword key => if key = "PCDATA".toList then some .behindText else none
  | .first, .openGroup => some (.member [none, none])
  | .first, .word name => if DeclarationPart.isName name then some (.behindMember [none]) else none
  | .first, .counted _ => some (.behindMember [none])
  | .behindText, .closeGroup mark? => if mark? = none || mark? = some '*' then some .done else none
  | .behindText, .bar => some .mixedName
  | .mixedName, .word name => if DeclarationPart.isName name then some .behindMixedName else none
  | .behindMixedName, .bar => some .mixedName
  | .behindMixedName, .closeGroup mark? => if mark? = some '*' then some .done else none
  | .member connectors, .openGroup => some (.member (none :: connectors))
  | .member connectors, .word name =>
    if DeclarationPart.isName name then some (.behindMember connectors) else none
  | .member connectors, .counted _ => some (.behindMember connectors)
  | .behindMember (connector? :: outer), part =>
    match part with
    | .closeGroup _ => some (if outer.isEmpty then .done else .behindMember outer)
    | .bar | .comma =>
      if connector?.all (· = part) then some (.member (some part :: outer)) else none
    | _ => none
  | _, _ => none

/-- Checks the declaration of the content of an element. -/
def isElement (parts : List DeclarationPart) : Bool :=
  match parts with
  | .word name :: rest =>
    DeclarationPart.isName name && rest.getLast? = some .close &&
      rest.dropLast.foldlM contentStep .start = some .done
  | _ => false

/-- Takes a declaration. -/
def declare (doctype : Doctype) (key : List Char) (parts : List DeclarationPart) : Option Doctype :=
  if key = "ENTITY".toList then doctype.declareEntity parts
  else if key = "ATTLIST".toList then doctype.declareRules parts
  else if key = "ELEMENT".toList then if isElement parts then some doctype else none
  else if key = "NOTATION".toList then if isNotation parts then some doctype else none
  else none

/-- Reads the reference to a parameter entity behind its mark. -/
def readParameter (input : List Char) : Option Nat :=
  let name := input.takeWhile isNameChar
  if isPlainName name && (input.drop name.length).head? = some ';' then some (name.length + 1) else none

/-- Reads a declaration behind its opening. -/
def readDeclaration (doctype : Doctype) (input : List Char) : Option (Doctype × Nat) :=
  let key := input.takeWhile Char.isAlpha
  let behind := input.drop key.length
  if (behind.head?.map isXmlSpace).getD false then do
    let (parts, length) ← DeclarationPart.readAll 0 behind
    return (← doctype.declare key parts, key.length + length)
  else none

/-- Reads the part at the start of the declarations inside a document type. -/
def readPart (doctype : Doctype) (input : List Char) : Option (Doctype × Nat) :=
  match input with
  | '<' :: '!' :: '-' :: '-' :: _ | '<' :: '?' :: _ => (Markup.read input).map fun (_, size) => (doctype, size)
  | '<' :: '!' :: rest => (doctype.readDeclaration rest).map fun (known, size) => (known, size + 2)
  | '%' :: rest => (readParameter rest).map fun size => ({ doctype with hasReference := true }, size + 1)
  | c :: _ => if isXmlSpace c then some (doctype, 1) else none
  | [] => none

/-- Reads the declarations inside a document type with the end of the type behind them, and says how long they
are. The number counts the characters that are passed over. -/
def readSubset (doctype : Doctype) : Nat → List Char → Option (Doctype × Nat)
  | _, [] => none
  | pending + 1, _ :: rest => (readSubset doctype pending rest).map fun (known, length) => (known, length + 1)
  | 0, c :: rest =>
    if c = ']' then
      let space := rest.takeWhile isXmlSpace
      if (rest.drop space.length).head? = some '>' then some (doctype, space.length + 2) else none
    else
      match doctype.readPart (c :: rest) with
      | none => none
      | some (known, size) => (readSubset known (size - 1) rest).map fun (all, length) => (all, length + 1)

/-- Reads a document type behind its opening, and says how long it is. -/
def read (standsAlone : Bool) (input : List Char) : Option (Doctype × Nat) := do
  let (parts, length) ← DeclarationPart.readAll 0 input
  let (name, rest) ← match parts with
    | .word name :: rest => some (name, rest)
    | _ => none
  let (isExternal, ending) :=
    match behindIdentifier? rest with
    | some others => (true, others)
    | none => (false, rest)
  let doctype : Doctype := { standsAlone, isExternal }
  if !DeclarationPart.isName name || !(input.head?.map isXmlSpace).getD false then none
  else
    match ending with
    | [.close] => some (doctype, length)
    | [.openSubset] =>
      (doctype.readSubset 0 (input.drop length)).map fun (known, size) => (known, length + size)
    | _ => none

end Doctype
end IssueWatch.Xml
