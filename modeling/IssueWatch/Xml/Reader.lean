import IssueWatch.Text.Lines
import IssueWatch.Xml.Codec
import IssueWatch.Xml.Doctype
import IssueWatch.Xml.Element

/-!
# Reading XML documents

The parts of a document are put together by a machine that keeps the elements that are still open and
the namespaces that their prefixes stand for. A document has a single root element, around which only white
space, comments, processing instructions and, in front of it, a document type may stand. What an entity
stands for is read in its place: it closes all elements that it opens, and no other.
-/
namespace IssueWatch.Xml

/-- What prefixes stand for; the empty prefix belongs to element names without prefix. -/
abbrev Bindings := List (List Char × List Char)

/-- The namespace of the prefix that is bound from the start. -/
def xmlSpace : List Char :=
  "http://www.w3.org/XML/1998/namespace".toList

/-- The namespace that no prefix may stand for. -/
def bindingSpace : List Char :=
  "http://www.w3.org/2000/xmlns/".toList

/-- The bindings around the root element. -/
def initialBindings : Bindings :=
  [("xml".toList, xmlSpace)]

/-- The prefix that an attribute binds, if it is a binding. -/
def boundPrefix? (name : List Char) : Option (List Char) :=
  match splitName name with
  | ([], part) => if part = "xmlns".toList then some [] else none
  | (head, part) => if head = "xmlns".toList then some part else none

/-- Whether a prefix may be bound to a namespace. Only the prefix of the namespace of XML itself stands
for that, only the empty prefix can be freed, and a namespace holds no closing brace. -/
def mayBind (head space : List Char) : Bool :=
  (head.isEmpty || !space.isEmpty) && head != "xmlns".toList &&
    ((head == "xml".toList) == (space == xmlSpace)) && space != bindingSpace && !space.contains '\x7d'

/-- The bindings inside an element with the given attributes. -/
def bind (outer : Bindings) : List (List Char × List Char) → Option Bindings
  | [] => some outer
  | (name, value) :: rest =>
    match boundPrefix? name with
    | none => bind outer rest
    | some head => if mayBind head value then bind ((head, value) :: outer) rest else none

/-- The namespace of a prefix. The empty prefix has none unless it is bound to one. -/
def spaceOf? (bindings : Bindings) (head : List Char) : Option (Option String) :=
  match bindings.find? fun entry => entry.1 = head with
  | some (_, []) => some none
  | some (_, space) => some (some (String.ofList space))
  | none => if head.isEmpty then some none else none

/-- The name of an element. -/
def elementName? (bindings : Bindings) (word : List Char) : Option Name :=
  (spaceOf? bindings (splitName word).1).map (⟨·, String.ofList (splitName word).2⟩)

/-- The name of an attribute, which has a namespace only through a prefix. -/
def attributeName? (bindings : Bindings) (word : List Char) : Option Name :=
  match splitName word with
  | ([], part) => some ⟨none, String.ofList part⟩
  | (head, part) => (spaceOf? bindings head).map (⟨·, String.ofList part⟩)

/-- The attributes that bind no prefix, with their full names. -/
def namedAttributes? (bindings : Bindings) :
    List (List Char × List Char) → Option (List (Name × String))
  | [] => some []
  | (word, value) :: rest =>
    if (boundPrefix? word).isSome then namedAttributes? bindings rest
    else
      match attributeName? bindings word, namedAttributes? bindings rest with
      | some name, some others => some ((name, String.ofList value) :: others)
      | _, _ => none

/-- An element that is still open, its children last first and its text in the parts read. -/
structure OpenElement where
  word : List Char
  bindings : Bindings
  name : Name
  attributes : List (Name × String)
  text : List Char := []
  children : List Element := []

namespace OpenElement

/-- Opens an element. No two attributes may have the same name, before or after prefixes are resolved. -/
def ofTag? (doctype : Doctype) (outer : Bindings) (word : List Char)
    (written : List (List Char × List Char)) : Option OpenElement := do
  if ¬ (written.map Prod.fst).Nodup then none
  else
    let meant ← doctype.attributesOf? word written
    let bindings ← bind outer meant
    let name ← elementName? bindings word
    let attributes ← namedAttributes? bindings meant
    if (attributes.map Prod.fst).Nodup then some { word, bindings, name, attributes } else none

def close (element : OpenElement) : Element :=
  ⟨element.name, element.attributes, String.ofList element.text, element.children.reverse⟩

/-- Adds character data, which is kept in front of the first child only. -/
def addText (element : OpenElement) (text : List Char) : OpenElement :=
  if element.children.isEmpty then { element with text := element.text ++ text } else element

def addChild (element : OpenElement) (child : Element) : OpenElement :=
  { element with children := child :: element.children }

end OpenElement

/-- How far a document has been read: before its root, inside some open elements with the innermost
first, or behind its root. -/
inductive Progress where
  | before
  | inside (innermost : OpenElement) (outer : List OpenElement)
  | behind (root : Element)

namespace Progress

/-- Goes on after an element is complete. -/
def complete (element : Element) : List OpenElement → Progress
  | [] => .behind element
  | parent :: outer => .inside (parent.addChild element) outer

/-- Takes the next part of a document, given its type and what entities add to an element. -/
def step (doctype : Doctype) (expand : List Char → OpenElement → Option OpenElement) :
    Progress → Markup → Option Progress
  | progress, .nothing => some progress
  | .before, .data text => if text.all isXmlSpace then some .before else none
  | .behind root, .data text => if text.all isXmlSpace then some (.behind root) else none
  | .inside innermost outer, .data text => some (.inside (innermost.addText text) outer)
  | .inside innermost outer, .literal text => some (.inside (innermost.addText text) outer)
  | .inside innermost outer, .reference entity =>
    (expand entity innermost).map fun extended => .inside extended outer
  | .before, .openTag word attributes closed =>
    (OpenElement.ofTag? doctype initialBindings word attributes).map fun element =>
      if closed then .behind element.close else .inside element []
  | .inside innermost outer, .openTag word attributes closed =>
    (OpenElement.ofTag? doctype innermost.bindings word attributes).map fun element =>
      if closed then complete element.close (innermost :: outer)
      else .inside element (innermost :: outer)
  | .inside innermost outer, .closeTag word =>
    if innermost.word = word then some (complete innermost.close outer) else none
  | .before, .literal _ | .before, .reference _ | .before, .closeTag _ => none
  | .behind _, .literal _ | .behind _, .reference _ | .behind _, .openTag .. | .behind _, .closeTag _ => none

end Progress

/-- Reads parts of a document, given its type and what entities add to an element. The number counts the
characters of the part read last that are passed over. -/
def readFrom (doctype : Doctype) (expand : List Char → OpenElement → Option OpenElement) (pending : Nat)
    (progress : Progress) : List Char → Option Progress
  | [] => some progress
  | c :: rest =>
    match pending with
    | left + 1 => readFrom doctype expand left progress rest
    | 0 =>
      match Markup.read (c :: rest) with
      | none => none
      | some (markup, length) =>
        match progress.step doctype expand markup with
        | none => none
        | some next => readFrom doctype expand (length - 1) next rest

/-- Adds what an entity stands for to an element. The number bounds how deep entities refer to others. -/
def expandEntity (doctype : Doctype) : Nat → List Char → OpenElement → Option OpenElement
  | 0, _, _ => none
  | depth + 1, name, element => do
    let text ← (doctype.entity? name).join
    match readFrom doctype (expandEntity doctype depth) 0 (.inside element []) text with
    | some (.inside extended []) => some extended
    | _ => none

/-- Reads the root of a document and what is behind it. No entity refers to itself, so that a chain of them is
no longer than their number. -/
def readRoot (doctype : Doctype) (input : List Char) : Option Element :=
  match readFrom doctype (expandEntity doctype (doctype.entities.length + 1)) 0 .before input with
  | some (.behind root) => some root
  | _ => none

/-- Reads a document behind its declaration, up to its root as long as no document type was found. The number
counts the characters that are passed over. -/
def readProlog (standsAlone : Bool) (doctype? : Option Doctype) : Nat → List Char → Option Element
  | _, [] => none
  | pending + 1, _ :: rest => readProlog standsAlone doctype? pending rest
  | 0, c :: rest =>
    if isXmlSpace c then readProlog standsAlone doctype? 0 rest
    else
      match c :: rest with
      | '<' :: '!' :: 'D' :: 'O' :: 'C' :: 'T' :: 'Y' :: 'P' :: 'E' :: behind =>
        if doctype?.isSome then none
        else
          match Doctype.read standsAlone behind with
          | some (doctype, length) => readProlog standsAlone (some doctype) (length + 8) rest
          | none => none
      | '<' :: '!' :: _ | '<' :: '?' :: _ =>
        match Markup.read (c :: rest) with
        | some (.nothing, length) => readProlog standsAlone doctype? (length - 1) rest
        | _ => none
      | input => readRoot (doctype?.getD {}) input

/-- Whether a character may stand in a value of the declaration. -/
def isDeclarationChar (c : Char) : Bool :=
  c.isAlphanum || c == '.' || c == '-' || c == '_'

/-- The entries of a declaration between its name and its end: words with values in quotes, each
behind white space. The first argument counts the characters that are passed over. -/
def declarationEntries : Nat → List Char → Option (List (List Char × List Char))
  | _, [] => some []
  | pending + 1, _ :: rest => declarationEntries pending rest
  | 0, c :: rest =>
    if isXmlSpace c then
      let space := rest.takeWhile isXmlSpace
      let entry := rest.drop space.length
      if entry.isEmpty then some []
      else
        let name := entry.takeWhile fun other => !isXmlSpace other && other != '='
        let gap := (entry.drop name.length).takeWhile isXmlSpace
        let afterName := entry.drop (name.length + gap.length)
        match afterName with
        | '=' :: afterEquals =>
          let space' := afterEquals.takeWhile isXmlSpace
          match afterEquals.drop space'.length with
          | quote :: body =>
            let value := body.takeWhile isDeclarationChar
            if name.isEmpty || (quote != '"' && quote != '\'') ||
                (body.drop value.length).head? != some quote then none
            else
              let length := space.length + name.length + gap.length + 1 + space'.length + 1 +
                value.length + 1
              (declarationEntries length rest).map ((name, value) :: ·)
          | [] => none
        | _ => none
    else none

/-- What the declaration in front of a document says about it: the name of its character set, if there is
one, and whether it stands alone. -/
structure Declaration where
  encoding? : Option (List Char) := none
  standsAlone : Bool := false
  deriving DecidableEq, Repr

/-- Reads the entries of a declaration: a version, then an encoding if any, then whether the document stands
alone if that is said. -/
def Declaration.ofEntries? (entries : List (List Char × List Char)) : Option Declaration :=
  match entries with
  | (version, _) :: rest =>
    let (encoding?, afterEncoding) := match rest with
      | (name, value) :: others =>
        if name = "encoding".toList && (value.head?.map Char.isAlpha).getD false then (some value, others)
        else (none, rest)
      | [] => (none, [])
    if version = "version".toList then
      match afterEncoding with
      | [] => some { encoding? }
      | [(name, value)] =>
        if name = "standalone".toList && (value = "yes".toList || value = "no".toList) then
          some { encoding?, standsAlone := value = "yes".toList }
        else none
      | _ => none
    else none
  | [] => none

/-- Reads the declaration at the front of a document, if there is one. The answer holds what is behind it. -/
def splitDeclaration (input : List Char) : Option (Declaration × List Char) :=
  match input with
  | '<' :: '?' :: 'x' :: 'm' :: 'l' :: rest =>
    if (rest.head?.map isNameChar).getD false then some ({}, input)
    else do
      let length ← Markup.offsetOf? "?>".toList rest
      let entries ← declarationEntries 0 (rest.take length)
      return (← Declaration.ofEntries? entries, rest.drop (length + 2))
  | _ => some ({}, input)

/-- Removes a byte order mark from the front of a document. -/
def skipMark : List Char → List Char
  | c :: rest => if c = '\uFEFF' then rest else c :: rest
  | [] => []

/-- Why a text is not read as a document: it is malformed, or it names a character set in which it cannot be
read. -/
inductive ReadFault where
  | malformed
  | encoding (fault : EncodingFault)
  deriving DecidableEq, Repr

/-- The characters behind the declaration of a document: its bytes in the character set that it names. -/
def decode (declaration : Declaration) (rest : List Char) : Except ReadFault (List Char) :=
  match declaration.encoding?.bind Codec.ofName with
  | none => .ok rest
  | some .foreign => .error .malformed
  | some (.faulty fault) => .error (.encoding fault)
  | some (.bytes upper lacking) =>
    match (rest.flatMap String.utf8EncodeChar).mapM (Codec.characterOf? upper.toList lacking) with
    | some decoded => .ok decoded
    | none => .error .malformed

/-- Reads a document. The answer is its root element. -/
def read (text : String) : Except ReadFault Element :=
  match splitDeclaration (Text.unifyBreaks (skipMark text.toList)) with
  | none => .error .malformed
  | some (declaration, rest) => do
    let input ← decode declaration rest
    match if input.all isXmlChar then readProlog declaration.standsAlone none 0 input else none with
    | some root => .ok root
    | none => .error .malformed

end IssueWatch.Xml
