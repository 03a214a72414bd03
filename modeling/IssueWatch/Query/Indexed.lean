import IssueWatch.Query.Expr
import IssueWatch.Query.Token

/-!
# Reading queries by index

The reading of a query that goes through the text and then through its tokens by index.  It asks for what may
not be there: a character or a token at an index, the test that a word stands for, a node with certain
children, and an index behind the last one.  Each of these has a failure of its own beside the rejection of
a malformed query.
-/
namespace IssueWatch.Indexed

/-- Why a reading ends without an expression: the query is malformed, or the reading itself fails. -/
inductive Failure where
  | malformed (error : SyntaxError)
  | noCharacter (index : Nat)
  | noPiece (index : Nat)
  | unknownWord (word : List Char)
  | tooFewChildren (error : Expr.ArityError)
  | stuck (index : Nat)
  deriving DecidableEq, Repr

def reject {α : Type} (fault : SyntaxFault) (position : Nat) : Except Failure α :=
  .error (.malformed ⟨fault, position⟩)

/-! ## Pieces of a text -/

/-- A token as it is cut from a text, before the test of a qualifier is looked up. -/
inductive Piece where
  | openParen
  | closeParen
  | keyword (word : Keyword)
  | predicate (key : Qualifier.Key) (value : List Char)
  deriving DecidableEq, Repr

/-- A piece and the offset of its first character. -/
structure Placed where
  piece : Piece
  position : Nat
  deriving DecidableEq, Repr

/-- The tests for kinds and states, each with the word for it. -/
def wordTests : List (List Char × Qualifier) :=
  [("issue".toList, .isIssue), ("pr".toList, .isPullRequest), ("open".toList, .isOpen),
    ("closed".toList, .isClosed)]

/-- The test that a word stands for in any letter case. -/
def wordTest? (word : List Char) : Option Qualifier :=
  wordTests.lookup (word.map Char.toLower)

def characterAt (text : List Char) (index : Nat) : Except Failure Char :=
  match text[index]? with
  | some c => .ok c
  | none => .error (.noCharacter index)

/-- The first index from a given one on at which there is no character with a property. -/
def pass (property : Char → Bool) (text : List Char) (index : Nat) : Except Failure Nat :=
  if index < text.length then
    match characterAt text index with
    | .error failure => .error failure
    | .ok c => if property c then pass property text (index + 1) else .ok index
  else .ok index
termination_by text.length - index

/-- The characters from an index up to another one. -/
def slice (text : List Char) (start stop : Nat) : List Char :=
  (text.drop start).take (stop - start)

/-- Reads a quoted value from an index on, behind a part of it that was read.  The answer holds the index
behind the closing quote. -/
def readQuoted (text : List Char) (quote : Nat) (value : List Char) (index : Nat) :
    Except Failure (List Char × Nat) :=
  if index < text.length then
    match characterAt text index with
    | .error failure => .error failure
    | .ok c =>
      if c = '"' then
        if value.isEmpty then reject .emptyQuotedValue quote else .ok (value, index + 1)
      else if c = '\\' ∧ slice text (index + 1) (index + 2) ∈ [['"'], ['\\']] then
        match characterAt text (index + 1) with
        | .error failure => .error failure
        | .ok hidden => readQuoted text quote (value ++ [hidden]) (index + 2)
      else readQuoted text quote (value ++ [c]) (index + 1)
  else reject .unterminatedQuotedValue quote
termination_by text.length - index

/-- Whether there is a certain character at an index. -/
def isAt (c : Char) (text : List Char) (index : Nat) : Except Failure Bool :=
  if index < text.length then (characterAt text index).map (· == c) else .ok false

def readValue (text : List Char) (start : Nat) : Except Failure (List Char × Nat) := do
  if ← isAt '"' text start then readQuoted text start [] (start + 1)
  else
    let stop ← pass Token.isWordChar text start
    if stop = start then reject .missingValue start else return (slice text start stop, stop)

/-- Reads the qualifier that a word starts.  A word for a kind or state is checked, but not yet turned into
its test. -/
def readQualifier (text : List Char) (start : Nat) (word : List Char) :
    Except Failure (Piece × Nat) := do
  let name := word.takeWhile (· != ':')
  match Qualifier.Key.ofWord? name with
  | none => reject (.unknownPredicate (String.ofList name)) start
  | some key =>
    let (value, next) ← readValue text (start + name.length + 1)
    if key = .is ∧ wordTest? value = none then
      reject (.unknownQualifier (String.ofList value)) start
    else return (.predicate key value, next)

/-- Reads a keyword or a qualifier. -/
def readWord (text : List Char) (start : Nat) : Except Failure (Piece × Nat) := do
  let stop ← pass Token.isWordChar text start
  let word := slice text start stop
  let head := word.takeWhile (· != '(')
  match Keyword.ofWord? head with
  | some found => return (.keyword found, start + head.length)
  | none =>
    if word.contains ':' && word.head? != some '"' then readQualifier text start word
    else reject (.unexpectedTerm (String.ofList word)) start

def readPiece (text : List Char) (start : Nat) : Except Failure (Piece × Nat) := do
  match ← characterAt text start with
  | '(' => return (.openParen, start + 1)
  | ')' => return (.closeParen, start + 1)
  | _ => readWord text start

/-- Cuts a text into pieces from an index on. -/
def piecesFrom (text : List Char) (index : Nat) : Except Failure (List Placed) :=
  match pass Text.isBlank text index with
  | .error failure => .error failure
  | .ok start =>
    if start < text.length then
      match readPiece text start with
      | .error failure => .error failure
      | .ok (piece, next) =>
        if index < next ∧ next ≤ text.length then
          (piecesFrom text next).map (⟨piece, start⟩ :: ·)
        else .error (.stuck next)
    else .ok []
termination_by text.length - index

/-! ## Expressions -/

def pieceAt (pieces : List Placed) (index : Nat) : Except Failure Placed :=
  match pieces[index]? with
  | some placed => .ok placed
  | none => .error (.noPiece index)

/-- The piece at an index, unless that is behind the last one. -/
def peek (pieces : List Placed) (index : Nat) : Except Failure (Option Placed) :=
  if index < pieces.length then (pieceAt pieces index).map some else .ok none

/-- The test of a qualifier. -/
def test (key : Qualifier.Key) (value : List Char) : Except Failure Qualifier :=
  match key with
  | .label => .ok (.label (String.ofList value))
  | .milestone => .ok (.milestone (String.ofList value))
  | .assignee => .ok (.assignee (String.ofList value))
  | .is =>
    match wordTest? value with
    | some test => .ok test
    | none => .error (.unknownWord value)

/-- The single member of a list, or a node for all of them if there are enough. -/
def join (node? : List Expr → Except Expr.ArityError Expr) : List Expr → Except Failure Expr
  | [single] => .ok single
  | members => (node? members).mapError .tooFewChildren

theorem lt_of_peek {pieces : List Placed} {index : Nat} {placed : Placed}
    (found : peek pieces index = .ok (some placed)) : index < pieces.length := by
  rw [peek] at found
  split at found
  · assumption
  · cases found

/-- The index of the next operand of a conjunction, if it goes on. -/
def nextOperand? (pieces : List Placed) (index : Nat) : Except Failure (Option Nat) :=
  (peek pieces index).map fun
    | some ⟨.keyword .and, _⟩ => some (index + 1)
    | some ⟨.openParen, _⟩ | some ⟨.predicate _ _, _⟩ | some ⟨.keyword .not, _⟩ => some index
    | some ⟨.closeParen, _⟩ | some ⟨.keyword .or, _⟩ | none => none

/-- The index of the next alternative of a disjunction, if it goes on. -/
def nextAlternative? (pieces : List Placed) (index : Nat) : Except Failure (Option Nat) :=
  (peek pieces index).map fun
    | some ⟨.keyword .or, _⟩ => some (index + 1)
    | _ => none

mutual
/-- Reads an atom.  The length of the text is where an error at its end is found. -/
def readAtom (length : Nat) (pieces : List Placed) (index : Nat) : Except Failure (Expr × Nat) :=
  match found : peek pieces index with
  | .error failure => .error failure
  | .ok none => reject .operandExpected length
  | .ok (some ⟨.openParen, position⟩) =>
    match readDisjunction length pieces (index + 1) with
    | .error failure => .error failure
    | .ok (inner, next) =>
      match peek pieces next with
      | .error failure => .error failure
      | .ok (some ⟨.closeParen, _⟩) => .ok (inner, next + 1)
      | .ok _ => reject .unmatchedOpen position
  | .ok (some ⟨.predicate key value, _⟩) => (test key value).map fun test => (.leaf test, index + 1)
  | .ok (some ⟨.closeParen, position⟩) | .ok (some ⟨.keyword _, position⟩) =>
    reject .operandExpected position
termination_by 5 * (pieces.length - index)
decreasing_by
  have inside := lt_of_peek found
  omega

def readNegation (length : Nat) (pieces : List Placed) (index : Nat) : Except Failure (Expr × Nat) :=
  match found : peek pieces index with
  | .error failure => .error failure
  | .ok (some ⟨.keyword .not, _⟩) =>
    (readNegation length pieces (index + 1)).map fun (inner, next) => (.not inner, next)
  | .ok _ => readAtom length pieces index
termination_by 5 * (pieces.length - index) + 1
decreasing_by
  · have inside := lt_of_peek found
    omega
  · omega

/-- Reads the operands behind the first one of a conjunction. -/
def readOperands (length : Nat) (pieces : List Placed) (index : Nat) :
    Except Failure (List Expr × Nat) :=
  match nextOperand? pieces index with
  | .error failure => .error failure
  | .ok none => .ok ([], index)
  | .ok (some behind) =>
    if index ≤ behind then
      match readNegation length pieces behind with
      | .error failure => .error failure
      | .ok (operand, next) =>
        if index < next ∧ next ≤ pieces.length then
          (readOperands length pieces next).map fun (others, last) => (operand :: others, last)
        else .error (.stuck next)
    else .error (.stuck behind)
termination_by 5 * (pieces.length - index) + 2

def readConjunction (length : Nat) (pieces : List Placed) (index : Nat) :
    Except Failure (Expr × Nat) :=
  match readNegation length pieces index with
  | .error failure => .error failure
  | .ok (operand, next) =>
    if index < next then
      match readOperands length pieces next with
      | .error failure => .error failure
      | .ok (others, last) => (join Expr.all? (operand :: others)).map fun node => (node, last)
    else .error (.stuck next)
termination_by 5 * (pieces.length - index) + 3

/-- Reads the alternatives behind the first one of a disjunction. -/
def readAlternatives (length : Nat) (pieces : List Placed) (index : Nat) :
    Except Failure (List Expr × Nat) :=
  match nextAlternative? pieces index with
  | .error failure => .error failure
  | .ok none => .ok ([], index)
  | .ok (some behind) =>
    if index < behind ∧ behind ≤ pieces.length then
      match readConjunction length pieces behind with
      | .error failure => .error failure
      | .ok (alternative, next) =>
        if index < next ∧ next ≤ pieces.length then
          (readAlternatives length pieces next).map fun (others, last) => (alternative :: others, last)
        else .error (.stuck next)
    else .error (.stuck behind)
termination_by 5 * (pieces.length - index)

def readDisjunction (length : Nat) (pieces : List Placed) (index : Nat) :
    Except Failure (Expr × Nat) :=
  match readConjunction length pieces index with
  | .error failure => .error failure
  | .ok (alternative, next) =>
    if index < next then
      match readAlternatives length pieces next with
      | .error failure => .error failure
      | .ok (others, last) => (join Expr.any? (alternative :: others)).map fun node => (node, last)
    else .error (.stuck next)
termination_by 5 * (pieces.length - index) + 4
end

/-- Reads all pieces of a text as a query. -/
def read (length : Nat) (pieces : List Placed) : Except Failure Expr :=
  match readDisjunction length pieces 0 with
  | .error failure => .error failure
  | .ok (expression, next) =>
    match peek pieces next with
    | .error failure => .error failure
    | .ok none => .ok expression
    | .ok (some ⟨.closeParen, position⟩) => reject .unmatchedClose position
    | .ok (some ⟨_, position⟩) => reject .unexpectedText position

def parse (text : String) : Except Failure Expr :=
  match piecesFrom text.toList 0 with
  | .error failure => .error failure
  | .ok pieces => read text.toList.length pieces

end IssueWatch.Indexed
