import IssueWatch.Query.Expr
import IssueWatch.Query.Token

/-!
# Reading queries

How an expression is read from the tokens of a query: token by token, and by descent along the levels of the
grammar.
-/
namespace IssueWatch

/-!
## Expressions under construction

A draft is what has been understood of a query after some of its tokens. It holds the parts of the
innermost open group, the groups around it, and whether an operand has to come next. Disjunction
binds weakest, then conjunction, whose keyword may be left out between two operands, then negation.
A pair of parentheses adds no node of its own and is never merged with what stands around it.
-/

namespace Draft

/-- The parts of a group that is still open, each list with its last member first. -/
structure Group where
  alternatives : List Expr := []
  operands : List Expr := []
  negations : Nat := 0
  deriving Repr

/-- The single member of a list, or a node that joins all of them. -/
def join (node : List Expr → Expr) : List Expr → Expr
  | [single] => single
  | members => node members

namespace Group

def negate : Nat → Expr → Expr
  | 0, inner => inner
  | count + 1, inner => .not (negate count inner)

/-- Adds an operand, with the negations in front of it. -/
def addOperand (group : Group) (operand : Expr) : Group :=
  { group with operands := negate group.negations operand :: group.operands, negations := 0 }

/-- The conjunction of the operands since the last alternative. -/
def conjunction (group : Group) : Expr :=
  join .and group.operands.reverse

/-- Closes the current alternative. -/
def addAlternative (group : Group) : Group :=
  { group with alternatives := group.conjunction :: group.alternatives, operands := [] }

/-- The expression of a complete group. -/
def close (group : Group) : Expr :=
  join .or (group.conjunction :: group.alternatives).reverse

end Group
end Draft

/-- What is known of a query after some of its tokens. -/
structure Draft where
  current : Draft.Group := {}
  enclosing : List (Nat × Draft.Group) := []
  operandExpected : Bool := true
  deriving Repr

namespace Draft

/-- Takes a token that can start an operand. -/
def beginOperand (draft : Draft) (located : Token.Located) : Except SyntaxError Draft :=
  match located.token with
  | .openParen =>
    .ok {
      current := {}, enclosing := (located.position, draft.current) :: draft.enclosing,
      operandExpected := true }
  | .qualifier test =>
    .ok { draft with current := draft.current.addOperand (.leaf test), operandExpected := false }
  | .keyword .not =>
    .ok {
      draft with
      current := { draft.current with negations := draft.current.negations + 1 },
      operandExpected := true }
  | .closeParen | .keyword .and | .keyword .or => .error ⟨.operandExpected, located.position⟩

def step (draft : Draft) (located : Token.Located) : Except SyntaxError Draft :=
  if draft.operandExpected then draft.beginOperand located
  else
    match located.token with
    | .keyword .and => .ok { draft with operandExpected := true }
    | .keyword .or =>
      .ok { draft with current := draft.current.addAlternative, operandExpected := true }
    | .closeParen =>
      match draft.enclosing with
      | [] => .error ⟨.unmatchedClose, located.position⟩
      | (_, outer) :: enclosing =>
        .ok {
          current := outer.addOperand draft.current.close, enclosing,
          operandExpected := false }
    | .openParen | .qualifier _ | .keyword .not => draft.beginOperand located

def run (draft : Draft) : List Token.Located → Except SyntaxError Draft
  | [] => .ok draft
  | located :: rest =>
    match draft.step located with
    | .error error => .error error
    | .ok next => next.run rest

/-- The expression of a draft after the last token of a text of the given length. -/
def finish (draft : Draft) (length : Nat) : Except SyntaxError Expr :=
  if draft.operandExpected then .error ⟨.operandExpected, length⟩
  else
    match draft.enclosing with
    | (position, _) :: _ => .error ⟨.unmatchedOpen, position⟩
    | [] => .ok draft.current.close

end Draft

namespace Expr

/-- The expression of a list of tokens from a text of the given length. -/
def ofTokens (length : Nat) (tokens : List Token.Located) : Except SyntaxError Expr :=
  match Draft.run {} tokens with
  | .error error => .error error
  | .ok draft => draft.finish length

def parse (text : String) : Except SyntaxError Expr :=
  match Token.scan text.toList with
  | .error error => .error error
  | .ok tokens => ofTokens text.toList.length tokens

end Expr
end IssueWatch

/-!
## Reading queries by descent

The reading of a query that follows the levels of its grammar: a disjunction reads conjunctions, these read
negations, and an atom in parentheses reads a disjunction again.  Each level stops in front of the first
token that it cannot use.
-/
namespace IssueWatch.Descent

open Token (Located)

/-- The expression at the front of some tokens, and the tokens behind it. -/
structure Front (tokens : List Located) where
  expression : Expr
  rest : List Located
  shorter : rest.length < tokens.length

/-- Further expressions at the front of some tokens, and the tokens behind them. -/
structure More (tokens : List Located) where
  expressions : List Expr
  rest : List Located
  noLonger : rest.length ≤ tokens.length

/-- Whether an operand starts at the front of some tokens. -/
def startsOperand : List Located → Bool
  | ⟨.openParen, _⟩ :: _ | ⟨.qualifier _, _⟩ :: _ | ⟨.keyword .not, _⟩ :: _ => true
  | ⟨.closeParen, _⟩ :: _ | ⟨.keyword .and, _⟩ :: _ | ⟨.keyword .or, _⟩ :: _ | [] => false

/-- The tokens from the next operand of a conjunction on, if it goes on. -/
def nextOperand? (tokens : List Located) : Option { behind : List Located // behind.length ≤ tokens.length } :=
  match tokens with
  | ⟨.keyword .and, _⟩ :: behind => some ⟨behind, by simp⟩
  | tokens => if startsOperand tokens then some ⟨tokens, Nat.le_refl _⟩ else none

/-- The tokens from the next alternative of a disjunction on, if it goes on. -/
def nextAlternative? (tokens : List Located) :
    Option { behind : List Located // behind.length < tokens.length } :=
  match tokens with
  | ⟨.keyword .or, _⟩ :: behind => some ⟨behind, by simp⟩
  | _ => none

mutual
/-- Reads an atom. The length of the text is where an error at its end is found. -/
def readAtom (length : Nat) (tokens : List Located) : Except SyntaxError (Front tokens) :=
  match tokens with
  | [] => .error ⟨.operandExpected, length⟩
  | ⟨.openParen, position⟩ :: behind =>
    match readDisjunction length behind with
    | .error error => .error error
    | .ok ⟨inner, ⟨.closeParen, _⟩ :: rest, shorter⟩ =>
      .ok ⟨inner, rest, by simp only [List.length_cons] at shorter ⊢; omega⟩
    | .ok _ => .error ⟨.unmatchedOpen, position⟩
  | ⟨.qualifier test, _⟩ :: behind => .ok ⟨.leaf test, behind, by simp⟩
  | ⟨.closeParen, position⟩ :: _ | ⟨.keyword _, position⟩ :: _ =>
    .error ⟨.operandExpected, position⟩
termination_by 5 * tokens.length

def readNegation (length : Nat) (tokens : List Located) : Except SyntaxError (Front tokens) :=
  match tokens with
  | ⟨.keyword .not, _⟩ :: behind =>
    match readNegation length behind with
    | .error error => .error error
    | .ok inner =>
      .ok ⟨.not inner.expression, inner.rest, Nat.lt_succ_of_lt inner.shorter⟩
  | tokens => readAtom length tokens
termination_by 5 * tokens.length + 1

/-- Reads the operands behind the first one of a conjunction. -/
def readOperands (length : Nat) (tokens : List Located) : Except SyntaxError (More tokens) :=
  match nextOperand? tokens with
  | none => .ok ⟨[], tokens, Nat.le_refl _⟩
  | some ⟨behind, noLonger⟩ =>
    match readNegation length behind with
    | .error error => .error error
    | .ok ⟨next, rest, shorter⟩ =>
      match readOperands length rest with
      | .error error => .error error
      | .ok ⟨others, last, _⟩ => .ok ⟨next :: others, last, by omega⟩
termination_by 5 * tokens.length + 2

def readConjunction (length : Nat) (tokens : List Located) : Except SyntaxError (Front tokens) :=
  match readNegation length tokens with
  | .error error => .error error
  | .ok ⟨first, rest, shorter⟩ =>
    match readOperands length rest with
    | .error error => .error error
    | .ok ⟨others, last, _⟩ => .ok ⟨Draft.join .and (first :: others), last, by omega⟩
termination_by 5 * tokens.length + 3

/-- Reads the alternatives behind the first one of a disjunction. -/
def readAlternatives (length : Nat) (tokens : List Located) : Except SyntaxError (More tokens) :=
  match nextAlternative? tokens with
  | none => .ok ⟨[], tokens, Nat.le_refl _⟩
  | some ⟨behind, noLonger⟩ =>
    match readConjunction length behind with
    | .error error => .error error
    | .ok ⟨next, rest, shorter⟩ =>
      match readAlternatives length rest with
      | .error error => .error error
      | .ok ⟨others, last, _⟩ => .ok ⟨next :: others, last, by omega⟩
termination_by 5 * tokens.length

def readDisjunction (length : Nat) (tokens : List Located) : Except SyntaxError (Front tokens) :=
  match readConjunction length tokens with
  | .error error => .error error
  | .ok ⟨first, rest, shorter⟩ =>
    match readAlternatives length rest with
    | .error error => .error error
    | .ok ⟨others, last, _⟩ => .ok ⟨Draft.join .or (first :: others), last, by omega⟩
termination_by 5 * tokens.length + 4
end

/-- Reads all tokens of a text as a query. -/
def read (length : Nat) (tokens : List Located) : Except SyntaxError Expr :=
  match readDisjunction length tokens with
  | .error error => .error error
  | .ok ⟨expression, [], _⟩ => .ok expression
  | .ok ⟨_, ⟨.closeParen, position⟩ :: _, _⟩ => .error ⟨.unmatchedClose, position⟩
  | .ok ⟨_, ⟨_, position⟩ :: _, _⟩ => .error ⟨.unexpectedText, position⟩

def parse (text : String) : Except SyntaxError Expr :=
  match Token.scan text.toList with
  | .error error => .error error
  | .ok tokens => read text.toList.length tokens

end IssueWatch.Descent
