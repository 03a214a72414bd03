import IssueWatch.Query.Expr
import IssueWatch.Text.Character

/-!
# Tokens of queries

A query text is cut into parentheses, keywords and qualifiers. A word ends at a blank or at a
closing parenthesis; a keyword ends at an opening one too. The value of a qualifier is a bare word
or stands in double quotes, where a backslash hides a quote or another backslash.
-/
namespace IssueWatch

/-!
## Syntax errors of queries

Why a query text is rejected and at which character. Positions count characters from zero.
-/

/-- The reason for which a query text is rejected. -/
inductive SyntaxFault where
  | unexpectedTerm (word : String)
  | unknownPredicate (key : String)
  | unknownQualifier (value : String)
  | missingValue
  | emptyQuotedValue
  | unterminatedQuotedValue
  | operandExpected
  | unmatchedClose
  | unmatchedOpen
  | unexpectedText
  deriving DecidableEq, Repr

def SyntaxFault.message : SyntaxFault → String
  | .unexpectedTerm word => "Unexpected term '" ++ word ++ "'"
  | .unknownPredicate key => "Unknown predicate '" ++ key ++ ":'"
  | .unknownQualifier value => "Unknown qualifier 'is:" ++ value ++ "'"
  | .missingValue => "Missing value after ':'"
  | .emptyQuotedValue => "Empty quoted value"
  | .unterminatedQuotedValue => "Unterminated quoted value"
  | .operandExpected => "Expected a predicate or '('"
  | .unmatchedClose => "Unmatched ')'"
  | .unmatchedOpen => "Unmatched '('"
  | .unexpectedText => "Unexpected text after end of query"

/-- A fault and the offset of the character that it is found at. -/
structure SyntaxError where
  fault : SyntaxFault
  position : Nat
  deriving DecidableEq, Repr

namespace SyntaxError

/-- The text of an error names the fault and the offset. -/
def message (error : SyntaxError) : String :=
  error.fault.message ++ " (at position " ++ toString error.position ++ ")"

end SyntaxError

/-! ## Tokens -/

/-- The words that join expressions. -/
inductive Keyword where
  | and
  | or
  | not
  deriving DecidableEq, Repr

namespace Keyword

def text : Keyword → String
  | .and => "AND"
  | .or => "OR"
  | .not => "NOT"

/-- Reads a keyword in any letter case. Only ASCII letters fold to the letters of a keyword. -/
def ofWord? (word : List Char) : Option Keyword :=
  match word.map Char.toUpper with
  | ['A', 'N', 'D'] => some .and
  | ['O', 'R'] => some .or
  | ['N', 'O', 'T'] => some .not
  | _ => none

end Keyword

/-- A lexical unit of a query. -/
inductive Token where
  | openParen
  | closeParen
  | keyword (word : Keyword)
  | qualifier (test : Qualifier)
  deriving DecidableEq, Repr

namespace Token

/-- A token and the offset of its first character. -/
structure Located where
  token : Token
  position : Nat
  deriving DecidableEq, Repr

/-- A bare word runs up to the next blank or closing parenthesis. -/
def isWordChar (c : Char) : Bool :=
  !Text.isBlank c && c != ')'

/-- Puts a character that was written with some number of characters before a body and its length. -/
def addQuoted (c : Char) (written : Nat) (rest : List Char × Nat) : List Char × Nat :=
  (c :: rest.1, rest.2 + written)

/-- Reads a quoted value behind its opening quote. The answer is the value and the number of
characters up to the closing quote, which counts as well; there is none if no quote closes. -/
def readQuoted : List Char → Option (List Char × Nat)
  | [] => none
  | '"' :: _ => some ([], 1)
  | '\\' :: '"' :: rest => (readQuoted rest).map (addQuoted '"' 2)
  | '\\' :: '\\' :: rest => (readQuoted rest).map (addQuoted '\\' 2)
  | c :: rest => (readQuoted rest).map (addQuoted c 1)

/-- Reads the value behind the colon of a qualifier and says how many characters it takes. -/
def readValue : List Char → Except SyntaxFault (List Char × Nat)
  | '"' :: rest =>
    match readQuoted rest with
    | none => .error .unterminatedQuotedValue
    | some ([], _) => .error .emptyQuotedValue
    | some (value, length) => .ok (value, length + 1)
  | input =>
    match input.takeWhile isWordChar with
    | [] => .error .missingValue
    | word => .ok (word, word.length)

/-- Reads the qualifier whose key stands in front of the first colon of the input. -/
def readQualifier (position : Nat) (input : List Char) : Except SyntaxError (Token × Nat) :=
  let name := input.takeWhile (· != ':')
  match Qualifier.Key.ofWord? name with
  | none => .error ⟨.unknownPredicate (String.ofList name), position⟩
  | some key =>
    match readValue (input.drop (name.length + 1)) with
    | .error fault => .error ⟨fault, position + name.length + 1⟩
    | .ok (value, length) =>
      match Qualifier.ofKeyValue? key value with
      | none => .error ⟨.unknownQualifier (String.ofList value), position⟩
      | some test => .ok (.qualifier test, name.length + 1 + length)

/-- Reads the token at the start of an input that does not start with a blank. The answer is the
token and the number of characters that it takes. -/
def read (position : Nat) (input : List Char) : Except SyntaxError (Token × Nat) :=
  match input with
  | '(' :: _ => .ok (.openParen, 1)
  | ')' :: _ => .ok (.closeParen, 1)
  | _ =>
    let word := input.takeWhile isWordChar
    let head := word.takeWhile (· != '(')
    match Keyword.ofWord? head with
    | some found => .ok (.keyword found, head.length)
    | none =>
      if word.contains ':' && word.head? != some '"' then readQualifier position input
      else .error ⟨.unexpectedTerm (String.ofList word), position⟩

/-- Cuts a text into tokens. The first argument counts the characters that belong to the token read
last and are passed over. -/
def scanFrom : Nat → Nat → List Char → Except SyntaxError (List Located)
  | _, _, [] => .ok []
  | pending + 1, position, _ :: rest => scanFrom pending (position + 1) rest
  | 0, position, c :: rest =>
    if Text.isBlank c then scanFrom 0 (position + 1) rest
    else
      match read position (c :: rest) with
      | .error error => .error error
      | .ok (token, length) =>
        (scanFrom (length - 1) (position + 1) rest).map (⟨token, position⟩ :: ·)

def scan (text : List Char) : Except SyntaxError (List Located) :=
  scanFrom 0 0 text

end Token
end IssueWatch
