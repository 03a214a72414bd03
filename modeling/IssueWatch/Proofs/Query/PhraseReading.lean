import IssueWatch.Query.Grammar
import IssueWatch.Query.Parser

/-!
# Reading the tokens of a phrase

A run of drafts follows a derivation of the grammar: reading the tokens of a phrase adds its members to
the innermost open group, leaves the groups around it alone and ends where no operand is expected. The
induction is on the derivation; each phrase says which groups it can be read into.
-/
namespace IssueWatch

/-!
## Building derivations from left to right

The grammar adds the members of a run in front, while a reader of tokens meets them in order and adds
them behind. Runs of operands and of alternatives also grow at their end, a run collapses to the expression
it stands for, and negations in front of an atom accumulate.
-/

open Draft

namespace Phrase.Derives

/-- The tokens between two neighbouring operands: the keyword of a conjunction or nothing. -/
def JoinsOperands (separator : List Token) : Prop :=
  separator = [] ∨ separator = [.keyword .and]

theorem operands_cons {tokens separator more : List Token} {member : Expr} {members : List Expr}
    (joins : JoinsOperands separator) (part : Derives tokens (.negation member))
    (run : Derives more (.operands members)) :
    Derives (tokens ++ separator ++ more) (.operands (member :: members)) := by
  rcases joins with rfl | rfl
  · simpa using adjacentOperand part run
  · simpa using joinedOperand part run

/-- A run of operands grows at its end. -/
theorem operands_concat {tokens separator more : List Token} {members : List Expr} {member : Expr}
    (run : Derives tokens (.operands members)) (joins : JoinsOperands separator)
    (part : Derives more (.negation member)) :
    Derives (tokens ++ separator ++ more) (.operands (members ++ [member])) := by
  generalize phraseEq : Phrase.operands members = phrase at run
  induction run generalizing members with
  | @lastOperand tokens first firstPart =>
      cases phraseEq
      exact operands_cons joins firstPart (lastOperand part)
  | @joinedOperand tokens between first rest firstPart restRun _ induction =>
      cases phraseEq
      have grown := joinedOperand firstPart (induction rfl)
      simpa using grown
  | @adjacentOperand tokens between first rest firstPart restRun _ induction =>
      cases phraseEq
      have grown := adjacentOperand firstPart (induction rfl)
      simpa using grown
  | _ => cases phraseEq

theorem alternatives_concat {tokens more : List Token} {members : List Expr} {member : Expr}
    (run : Derives tokens (.alternatives members)) (part : Derives more (.conjunction member)) :
    Derives (tokens ++ .keyword .or :: more) (.alternatives (members ++ [member])) := by
  generalize phraseEq : Phrase.alternatives members = phrase at run
  induction run generalizing members with
  | @lastAlternative tokens first firstPart =>
      cases phraseEq
      exact nextAlternative firstPart (lastAlternative part)
  | @nextAlternative tokens between first rest firstPart restRun _ induction =>
      cases phraseEq
      have grown := nextAlternative firstPart (induction rfl)
      simpa using grown
  | _ => cases phraseEq

theorem conjunction_of_operands {tokens : List Token} {members : List Expr}
    (run : Derives tokens (.operands members)) :
    Derives tokens (.conjunction (join .and members)) := by
  match members with
  | [] => exact absurd rfl run.operands_ne_nil
  | [member] => exact onlyOperand run
  | first :: second :: rest => exact severalOperands run (by simp)

theorem disjunction_of_alternatives {tokens : List Token} {members : List Expr}
    (run : Derives tokens (.alternatives members)) :
    Derives tokens (.disjunction (join .or members)) := by
  match members with
  | [] => exact absurd rfl run.alternatives_ne_nil
  | [member] => exact onlyAlternative run
  | first :: second :: rest => exact severalAlternatives run (by simp)

theorem conjunction_of_negation {tokens : List Token} {expression : Expr}
    (part : Derives tokens (.negation expression)) : Derives tokens (.conjunction expression) :=
  onlyOperand (lastOperand part)

theorem disjunction_of_conjunction {tokens : List Token} {expression : Expr}
    (part : Derives tokens (.conjunction expression)) : Derives tokens (.disjunction expression) :=
  onlyAlternative (lastAlternative part)

/-- Negations in front of an atom are nodes around it. -/
theorem negation_of_atom {tokens : List Token} {expression : Expr}
    (part : Derives tokens (.atom expression)) (count : Nat) :
    Derives (List.replicate count (.keyword .not) ++ tokens)
      (.negation (Group.negate count expression)) := by
  induction count with
  | zero => exact plain part
  | succ count induction => exact negated induction

end Phrase.Derives

theorem Draft.Group.negate_not (count : Nat) (inner : Expr) :
    negate count (.not inner) = .not (negate count inner) := by
  induction count with
  | zero => rfl
  | succ count induction => rw [negate, negate, induction]

end IssueWatch

/-! ## Reading phrases -/
namespace IssueWatch

open Phrase (Derives)

namespace Draft

theorem Group.addOperand_of_negations_eq_zero {group : Group} {operand : Expr}
    (noNegation : group.negations = 0) :
    group.addOperand operand = { group with operands := operand :: group.operands } := by
  cases group with
  | mk alternatives operands negations =>
      cases noNegation
      rfl

@[simp]
theorem run_nil (draft : Draft) : draft.run [] = .ok draft :=
  rfl

theorem run_cons (draft : Draft) (located : Token.Located) (rest : List Token.Located) :
    draft.run (located :: rest) =
      match draft.step located with
      | .error error => .error error
      | .ok next => next.run rest :=
  rfl

theorem run_append {draft middle : Draft} {first : List Token.Located}
    (taken : draft.run first = .ok middle) (second : List Token.Located) :
    draft.run (first ++ second) = middle.run second := by
  induction first generalizing draft with
  | nil =>
      cases taken
      rfl
  | cons located first induction =>
      rw [List.cons_append, run_cons]
      rw [run_cons] at taken
      cases step : draft.step located with
      | error error => simp [step] at taken
      | ok next =>
          simp only [step] at taken ⊢
          exact induction taken

theorem step_openParen (draft : Draft) (position : Nat) :
    draft.step ⟨.openParen, position⟩ =
      .ok ⟨{}, (position, draft.current) :: draft.enclosing, true⟩ := by
  cases expected : draft.operandExpected <;> simp [step, beginOperand, expected]

theorem step_qualifier (draft : Draft) (test : Qualifier) (position : Nat) :
    draft.step ⟨.qualifier test, position⟩ =
      .ok ⟨draft.current.addOperand (.leaf test), draft.enclosing, false⟩ := by
  cases expected : draft.operandExpected <;> simp [step, beginOperand, expected]

theorem step_not (draft : Draft) (position : Nat) :
    draft.step ⟨.keyword .not, position⟩ =
      .ok ⟨{ draft.current with negations := draft.current.negations + 1 }, draft.enclosing, true⟩ := by
  cases expected : draft.operandExpected <;> simp [step, beginOperand, expected]

end Draft

namespace Phrase

open Draft

/-- The groups that a phrase can be read into: an operand fits anywhere, a run of operands starts behind
no negation, a conjunction or a run of alternatives starts a new alternative, and a query a new group. -/
def Fits : Phrase → Group → Prop
  | .atom _, _ | .negation _, _ => True
  | .operands _, group => group.negations = 0
  | .conjunction _, group | .alternatives _, group => group.operands = [] ∧ group.negations = 0
  | .disjunction _, group => group = {}

/-- What reading a phrase adds to a group. -/
def Adds : Phrase → Group → Group → Prop
  | .atom expression, before, group | .negation expression, before, group =>
      group = before.addOperand expression
  | .operands members, before, group =>
      group = { before with operands := members.reverse ++ before.operands }
  | .conjunction expression, before, group =>
      group.alternatives = before.alternatives ∧ group.conjunction = expression ∧ group.negations = 0
  | .alternatives members, before, group =>
      group.conjunction :: group.alternatives = members.reverse ++ before.alternatives
  | .disjunction expression, _, group => group.close = expression

/-- From any draft whose innermost group the phrase fits, the tokens are taken, the phrase is added to
that group and no operand is expected. -/
def ReadFrom (phrase : Phrase) (located : List Token.Located) : Prop :=
  ∀ start : Draft, phrase.Fits start.current → ∃ group,
    start.run located = .ok ⟨group, start.enclosing, false⟩ ∧ phrase.Adds start.current group

theorem ReadFrom.negated {located : List Token.Located} {inner : Expr} {position : Nat}
    (read : (Phrase.negation inner).ReadFrom located) :
    (Phrase.negation (.not inner)).ReadFrom (⟨.keyword .not, position⟩ :: located) := by
  intro start _
  obtain ⟨group, taken, added⟩ := read
    ⟨{ start.current with negations := start.current.negations + 1 }, start.enclosing, true⟩ trivial
  refine ⟨group, ?_, ?_⟩
  · rw [run_cons, step_not]
    exact taken
  · rw [Adds] at added ⊢
    rw [added]
    simp [Group.addOperand, Group.negate, Group.negate_not]

theorem ReadFrom.group {located : List Token.Located} {inner : Expr} {first last : Nat}
    (read : (Phrase.disjunction inner).ReadFrom located) :
    (Phrase.atom inner).ReadFrom
      (⟨.openParen, first⟩ :: located ++ [⟨.closeParen, last⟩]) := by
  intro start _
  obtain ⟨group, taken, closed⟩ :=
    read ⟨{}, (first, start.current) :: start.enclosing, true⟩ rfl
  refine ⟨start.current.addOperand inner, ?_, rfl⟩
  have opened : start.run (⟨.openParen, first⟩ :: located) =
      .ok ⟨group, (first, start.current) :: start.enclosing, false⟩ := by
    rw [run_cons, step_openParen]
    exact taken
  rw [run_append opened, run_cons]
  have closedEq : group.close = inner := closed
  simp [step, closedEq]

theorem ReadFrom.operands_cons {first second : List Token.Located} {separator : List Token.Located}
    {member : Expr} {members : List Expr}
    (joins : separator = [] ∨ ∃ position, separator = [⟨.keyword .and, position⟩])
    (part : (Phrase.negation member).ReadFrom first)
    (run : (Phrase.operands members).ReadFrom second) :
    (Phrase.operands (member :: members)).ReadFrom (first ++ separator ++ second) := by
  intro start clear
  obtain ⟨middle, partTaken, partAdded⟩ := part start trivial
  have noNegation : start.current.negations = 0 := clear
  have middleEq : middle = { start.current with operands := member :: start.current.operands } := by
    rw [← Group.addOperand_of_negations_eq_zero noNegation]
    exact partAdded
  obtain ⟨expected, separated⟩ : ∃ expected,
      start.run (first ++ separator) = .ok ⟨middle, start.enclosing, expected⟩ := by
    rcases joins with rfl | ⟨position, rfl⟩
    · exact ⟨false, by simpa using partTaken⟩
    · refine ⟨true, ?_⟩
      rw [run_append partTaken, run_cons]
      simp [step]
  obtain ⟨group, runTaken, runAdded⟩ :=
    run ⟨middle, start.enclosing, expected⟩ (by rw [middleEq]; exact noNegation)
  refine ⟨group, ?_, ?_⟩
  · rw [run_append separated]
    exact runTaken
  · rw [Adds] at runAdded ⊢
    rw [runAdded, middleEq]
    simp

theorem ReadFrom.conjunction {located : List Token.Located} {members : List Expr}
    (read : (Phrase.operands members).ReadFrom located) :
    (Phrase.conjunction (join .and members)).ReadFrom located := by
  intro start clear
  obtain ⟨noOperands, noNegation⟩ := clear
  obtain ⟨group, taken, added⟩ := read start noNegation
  refine ⟨group, taken, ?_⟩
  rw [Adds] at added
  rw [added]
  exact ⟨rfl, by simp [Group.conjunction, noOperands], noNegation⟩

theorem ReadFrom.lastAlternative {located : List Token.Located} {member : Expr}
    (read : (Phrase.conjunction member).ReadFrom located) :
    (Phrase.alternatives [member]).ReadFrom located := by
  intro start clear
  obtain ⟨group, taken, sameAlternatives, conjunctionEq, _⟩ := read start clear
  refine ⟨group, taken, ?_⟩
  simp [Adds, sameAlternatives, conjunctionEq]

theorem ReadFrom.alternatives_cons {first second : List Token.Located} {position : Nat}
    {member : Expr} {members : List Expr}
    (part : (Phrase.conjunction member).ReadFrom first)
    (run : (Phrase.alternatives members).ReadFrom second) :
    (Phrase.alternatives (member :: members)).ReadFrom
      (first ++ ⟨.keyword .or, position⟩ :: second) := by
  intro start clear
  obtain ⟨middle, partTaken, sameAlternatives, conjunctionEq, noNegation⟩ := part start clear
  obtain ⟨group, runTaken, runAdded⟩ :=
    run ⟨middle.addAlternative, start.enclosing, true⟩ ⟨rfl, noNegation⟩
  refine ⟨group, ?_, ?_⟩
  · rw [run_append partTaken, run_cons]
    simpa [step] using runTaken
  · rw [Adds] at runAdded ⊢
    rw [runAdded]
    simp [Group.addAlternative, conjunctionEq, sameAlternatives]

theorem ReadFrom.disjunction {located : List Token.Located} {members : List Expr}
    (read : (Phrase.alternatives members).ReadFrom located) :
    (Phrase.disjunction (join .or members)).ReadFrom located := by
  intro start empty
  have startEq : start.current = {} := empty
  obtain ⟨group, taken, added⟩ := read start (by simp [Fits, startEq])
  have addedEq : group.conjunction :: group.alternatives =
      members.reverse ++ start.current.alternatives := added
  refine ⟨group, taken, ?_⟩
  change group.close = join .or members
  rw [Group.close, addedEq]
  simp [startEq]

/-- Tokens that form a phrase are read as this phrase. -/
theorem Derives.readFrom {tokens : List Token} {phrase : Phrase} (derivation : Derives tokens phrase) :
    ∀ located : List Token.Located, located.map Token.Located.token = tokens →
      phrase.ReadFrom located := by
  induction derivation with
  | onlyAlternative _ induction =>
      intro located tokensEq
      exact (induction located tokensEq).disjunction
  | @severalAlternatives _ members _ several induction =>
      intro located tokensEq
      have read := (induction located tokensEq).disjunction
      match members, several with
      | first :: second :: rest, _ => exact read
  | lastAlternative _ induction =>
      intro located tokensEq
      exact (induction located tokensEq).lastAlternative
  | nextAlternative _ _ partInduction runInduction =>
      intro located tokensEq
      obtain ⟨first, behind, rfl, firstEq, behindEq⟩ := List.map_eq_append_iff.mp tokensEq
      obtain ⟨⟨_, position⟩, second, rfl, rfl, secondEq⟩ := List.map_eq_cons_iff.mp behindEq
      exact (partInduction first firstEq).alternatives_cons (runInduction second secondEq)
  | onlyOperand _ induction =>
      intro located tokensEq
      exact (induction located tokensEq).conjunction
  | @severalOperands _ members _ several induction =>
      intro located tokensEq
      have read := (induction located tokensEq).conjunction
      match members, several with
      | first :: second :: rest, _ => exact read
  | lastOperand _ induction =>
      intro located tokensEq start clear
      obtain ⟨group, taken, added⟩ := induction located tokensEq start trivial
      have noNegation : start.current.negations = 0 := clear
      have groupEq : group = start.current.addOperand _ := added
      refine ⟨group, taken, ?_⟩
      rw [groupEq, Group.addOperand_of_negations_eq_zero noNegation]
      rfl
  | joinedOperand _ _ partInduction runInduction =>
      intro located tokensEq
      obtain ⟨first, behind, rfl, firstEq, behindEq⟩ := List.map_eq_append_iff.mp tokensEq
      obtain ⟨⟨_, position⟩, second, rfl, rfl, secondEq⟩ := List.map_eq_cons_iff.mp behindEq
      have read := ReadFrom.operands_cons (.inr ⟨position, rfl⟩)
        (partInduction first firstEq) (runInduction second secondEq)
      simpa using read
  | adjacentOperand _ _ partInduction runInduction =>
      intro located tokensEq
      obtain ⟨first, second, rfl, firstEq, secondEq⟩ := List.map_eq_append_iff.mp tokensEq
      have read := ReadFrom.operands_cons (.inl rfl)
        (partInduction first firstEq) (runInduction second secondEq)
      simpa using read
  | negated _ induction =>
      intro located tokensEq
      obtain ⟨⟨_, position⟩, rest, rfl, rfl, restEq⟩ := List.map_eq_cons_iff.mp tokensEq
      exact (induction rest restEq).negated
  | plain _ induction =>
      intro located tokensEq
      exact induction located tokensEq
  | qualifier test =>
      intro located tokensEq start _
      obtain ⟨⟨_, position⟩, rest, rfl, rfl, restEq⟩ := List.map_eq_cons_iff.mp tokensEq
      obtain rfl := List.map_eq_nil_iff.mp restEq
      refine ⟨start.current.addOperand (.leaf test), ?_, rfl⟩
      rw [run_cons, step_qualifier]
      rfl
  | group _ induction =>
      intro located tokensEq
      obtain ⟨front, last, rfl, frontEq, lastEq⟩ := List.map_eq_append_iff.mp tokensEq
      obtain ⟨⟨_, firstPosition⟩, inner, rfl, rfl, innerEq⟩ := List.map_eq_cons_iff.mp frontEq
      obtain ⟨⟨_, lastPosition⟩, rest, rfl, rfl, restEq⟩ := List.map_eq_cons_iff.mp lastEq
      obtain rfl := List.map_eq_nil_iff.mp restEq
      exact (induction inner innerEq).group

end Phrase
end IssueWatch
