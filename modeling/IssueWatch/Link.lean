import IssueWatch.Query.Expr
import IssueWatch.Query.Meaning
import IssueWatch.Query.Token
import IssueWatch.Text.Character

/-!
# Searches and links to them

The search box of an issue tracker: the texts that it takes, how it reads them, and the addresses under
which it is found filled in.
-/
namespace IssueWatch

/-!
## Search fragments

A search is a flat list of qualifiers, joined by conjunction, some of which may be negated by a dash. Only
expressions of that form are written as one. A value runs to the next blank unless it starts with a quote; a
quoted value hides quotes and backslashes behind a backslash.
-/

/-- A qualifier with or without a negating dash. -/
structure SignedQualifier where
  negated : Bool
  qualifier : Qualifier
  deriving DecidableEq, Repr

namespace SignedQualifier

/-- A value as it is written behind the colon of a search qualifier. -/
def formatValue (value : List Char) : List Char :=
  if value.head? == some '"' || value.any Text.isBlank then Text.inQuotes value else value

/-- A signed qualifier as it is written in a search. -/
def formatChars (signed : SignedQualifier) : List Char :=
  (if signed.negated then ['-'] else []) ++ signed.qualifier.key.text.toList ++ ':' ::
    formatValue signed.qualifier.value.toList

end SignedQualifier

namespace Expr

mutual
/-- The signed qualifiers whose conjunction an expression is, if it has this form: no disjunction,
and negation only directly over a name. -/
def signedLeaves? : Expr → Option (List SignedQualifier)
  | .and children => signedLeavesOfList? children
  | .or _ => none
  | .not (.leaf qualifier) => if qualifier.isNamed then some [⟨true, qualifier⟩] else none
  | .not _ => none
  | .leaf qualifier => some [⟨false, qualifier⟩]

def signedLeavesOfList? : List Expr → Option (List SignedQualifier)
  | [] => some []
  | child :: rest =>
    match signedLeaves? child, signedLeavesOfList? rest with
    | some first, some others => some (first ++ others)
    | _, _ => none
end

/-- Writes signed qualifiers with one space between each two. -/
def formatSearch : List SignedQualifier → List Char
  | [] => []
  | [single] => single.formatChars
  | first :: rest => first.formatChars ++ ' ' :: formatSearch rest

/-- The search fragment of an expression, if a search can express it. -/
def searchFragment? (expression : Expr) : Option String :=
  expression.signedLeaves?.map (fun leaves => String.ofList (formatSearch leaves))

end Expr

/-!
## Reading searches

How a search box reads its text: qualifiers with one space between each two, each with a dash in front
if it is negated. A value that starts with a quote ends at the next quote that no backslash hides; any
other value runs to the next blank and is taken letter by letter. And which expressions are conjunctions
of such qualifiers, and which qualifiers these are.
-/

namespace Expr

/-- No part is a disjunction, and a negation stands only directly over a name. -/
structure Flat (expression : Expr) : Prop where
  noDisjunction : ∀ children : List Expr, ¬ Within (.or children) expression
  negatedName : ∀ child : Expr, Within (.not child) expression →
    ∃ qualifier : Qualifier, child = .leaf qualifier ∧ qualifier.isNamed = true

mutual
/-- The qualifiers of a tree from left to right, each with its sign: negated under an odd number of
negations, counted from the sign of the tree itself. -/
def signs (negated : Bool) : Expr → List SignedQualifier
  | .and children => signsOfList negated children
  | .or children => signsOfList negated children
  | .not child => signs (!negated) child
  | .leaf qualifier => [⟨negated, qualifier⟩]

def signsOfList (negated : Bool) : List Expr → List SignedQualifier
  | [] => []
  | child :: rest => signs negated child ++ signsOfList negated rest
end

end Expr

namespace SignedQualifier

/-- Reads the value behind the colon of a search qualifier. The answer is the value and how many
characters it takes. -/
def readValue? : List Char → Option (List Char × Nat)
  | '"' :: rest => (Token.readQuoted rest).map fun (value, length) => (value, length + 1)
  | input =>
    let value := input.takeWhile fun c => !Text.isBlank c
    some (value, value.length)

/-- Reads a qualifier without a dash. -/
def readPlain? (input : List Char) : Option (Qualifier × Nat) :=
  let name := input.takeWhile (· != ':')
  match Qualifier.Key.ofWord? name, input.drop name.length with
  | some key, _ :: rest =>
    match readValue? rest with
    | some (value, length) =>
      (Qualifier.ofKeyValue? key value).map (·, name.length + 1 + length)
    | none => none
  | _, _ => none

/-- Reads the qualifier at the start of a search and says how many characters it takes. -/
def read? : List Char → Option (SignedQualifier × Nat)
  | '-' :: rest => (readPlain? rest).map fun (qualifier, length) => (⟨true, qualifier⟩, length + 1)
  | input => (readPlain? input).map fun (qualifier, length) => (⟨false, qualifier⟩, length)

/-- Reads the qualifiers of a search. The first argument counts the characters that are passed over. -/
def readAllFrom? : Nat → List Char → Option (List SignedQualifier)
  | _, [] => none
  | pending + 1, _ :: rest => readAllFrom? pending rest
  | 0, c :: rest =>
    match read? (c :: rest) with
    | none => none
    | some (signed, length) =>
      match (c :: rest).drop length with
      | [] => some [signed]
      | ' ' :: _ => (readAllFrom? length rest).map (signed :: ·)
      | _ :: _ => none

/-- Reads a search. The empty search has no qualifiers. -/
def readAll? (search : String) : Option (List SignedQualifier) :=
  if search = "" then some [] else readAllFrom? 0 search.toList

/-- Whether a signed qualifier holds of an issue. -/
def holds (issue : Issue) (signed : SignedQualifier) : Bool :=
  signed.qualifier.holds issue != signed.negated

end SignedQualifier
end IssueWatch

/-!
## Form encoding

How a text is written as a value in the query part of a link, and how it is read back. Letters, digits and four marks stand
for themselves, a space becomes a plus sign, and every other byte of the UTF-8 form becomes a percent
sign with two hexadecimal digits.
-/
namespace IssueWatch.FormEncoding

/-- The bytes that stand for themselves. -/
def isPlain (byte : UInt8) : Bool :=
  let code := byte.toNat
  (0x41 ≤ code && code ≤ 0x5A) || (0x61 ≤ code && code ≤ 0x7A) || (0x30 ≤ code && code ≤ 0x39) ||
    code == 0x5F || code == 0x2E || code == 0x2D || code == 0x7E

def encodeByte (byte : UInt8) : List Char :=
  if isPlain byte then [Char.ofNat byte.toNat]
  else if byte = 0x20 then ['+']
  else ['%', Text.upperHexDigit (byte.toNat / 16), Text.upperHexDigit (byte.toNat % 16)]

def encodeBytes (bytes : List UInt8) : List Char :=
  bytes.flatMap encodeByte

def encode (text : String) : String :=
  String.ofList (encodeBytes text.toUTF8.toList)

def decodeBytes? : List Char → Option (List UInt8)
  | [] => some []
  | '%' :: high :: low :: rest =>
    match Text.hexValue? high, Text.hexValue? low with
    | some sixteens, some ones =>
      (decodeBytes? rest).map (UInt8.ofNat (16 * sixteens + ones) :: ·)
    | _, _ => none
  | '+' :: rest => (decodeBytes? rest).map (0x20 :: ·)
  | c :: rest =>
    if c = '%' ∨ 0x80 ≤ c.toNat then none
    else (decodeBytes? rest).map (UInt8.ofNat c.toNat :: ·)

def decode? (value : String) : Option String :=
  (decodeBytes? value.toList).bind fun bytes => String.fromUTF8? bytes.toByteArray

end IssueWatch.FormEncoding

/-!
## Links to issue lists

The address of a repository's issue list under a search.
-/
namespace IssueWatch

/-- A repository and the organization that owns it. -/
structure Repository where
  org : String
  repo : String
  deriving DecidableEq, Repr

namespace Repository

/-- The organization and the repository with a slash between them. -/
def path (repository : Repository) : String :=
  repository.org ++ "/" ++ repository.repo

/-- The address of the issue list under a search. Only the search is encoded. -/
def issuesUrl (repository : Repository) (search : String) : String :=
  "https://github.com/" ++ repository.path ++ "/issues?q=" ++ FormEncoding.encode search

/-- The address of the issue list of a query, if a search can express it. -/
def queryUrl? (repository : Repository) (query : Expr) : Option String :=
  query.searchFragment?.map repository.issuesUrl

end Repository
end IssueWatch
