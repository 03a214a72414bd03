import IssueWatch.Proofs.Query.PhraseReading

/-!
# Reading tokens is deriving an expression

Tokens are read to an expression exactly if the grammar derives the expression from them, so no tokens
have two readings. The invariant of a run is that its draft explains the tokens taken so far: each group
around the innermost one is a piece of a derivation that lacks one operand, and the innermost group lacks
an operand or nothing.
-/
namespace IssueWatch

open Phrase (Derives)

namespace Draft

namespace Group

/-- The tokens of the closed alternatives of a group, each with the keyword behind it. -/
inductive Closed : List Token → List Expr → Prop where
  | none : Closed [] []
  | some {tokens : List Token} {alternatives : List Expr}
      (run : Derives tokens (.alternatives alternatives.reverse)) :
      Closed (tokens ++ [.keyword .or]) alternatives

/-- The tokens of a group whose last token ends an operand. -/
inductive Settled : List Token → Group → Prop where
  | intro {front tokens : List Token} {alternatives operands : List Expr}
      (closed : Closed front alternatives) (run : Derives tokens (.operands operands.reverse)) :
      Settled (front ++ tokens) ⟨alternatives, operands, 0⟩

/-- The tokens of a group that an operand can follow. -/
inductive Open : List Token → Group → Prop where
  | first {tokens : List Token} {alternatives : List Expr} (closed : Closed tokens alternatives)
      (count : Nat) :
      Open (tokens ++ List.replicate count (.keyword .not)) ⟨alternatives, [], count⟩
  | next {tokens separator : List Token} {alternatives operands : List Expr}
      (settled : Settled tokens ⟨alternatives, operands, 0⟩)
      (joins : Derives.JoinsOperands separator) (count : Nat) :
      Open (tokens ++ separator ++ List.replicate count (.keyword .not))
        ⟨alternatives, operands, count⟩

theorem Settled.negations_eq_zero {tokens : List Token} {group : Group}
    (settled : Settled tokens group) : group.negations = 0 := by
  cases settled
  rfl

theorem Settled.next {tokens separator : List Token} {group : Group}
    (settled : Settled tokens group) (joins : Derives.JoinsOperands separator) :
    Open (tokens ++ separator) group := by
  cases settled with
  | intro closed run =>
      simpa using Open.next (Settled.intro closed run) joins 0

theorem Settled.adjacent {tokens : List Token} {group : Group} (settled : Settled tokens group) :
    Open tokens group := by
  simpa using settled.next (.inl rfl)

/-- The alternatives of a settled group, the current one included. -/
theorem Settled.alternatives {tokens : List Token} {group : Group} (settled : Settled tokens group) :
    Derives tokens (.alternatives (group.conjunction :: group.alternatives).reverse) := by
  cases settled with
  | @intro front part alternatives operands closed run =>
      have conjunction : Derives part (.conjunction (join .and operands.reverse)) :=
        Derives.conjunction_of_operands run
      cases closed with
      | none => exact .lastAlternative conjunction
      | some closedRun =>
          have grown := Derives.alternatives_concat closedRun conjunction
          simpa [Group.conjunction] using grown

theorem Settled.addAlternative {tokens : List Token} {group : Group}
    (settled : Settled tokens group) :
    Open (tokens ++ [.keyword .or]) group.addAlternative := by
  have noNegation := settled.negations_eq_zero
  have opened := Open.first (Closed.some settled.alternatives) 0
  simpa [Group.addAlternative, noNegation] using opened

theorem Settled.close {tokens : List Token} {group : Group} (settled : Settled tokens group) :
    Derives tokens (.disjunction group.close) :=
  Derives.disjunction_of_alternatives settled.alternatives

theorem Open.addNegation {tokens : List Token} {group : Group} (opened : Open tokens group) :
    Open (tokens ++ [.keyword .not]) { group with negations := group.negations + 1 } := by
  cases opened with
  | first closed count =>
      have longer := Open.first closed (count + 1)
      simpa [List.replicate_succ'] using longer
  | next settled joins count =>
      have longer := Open.next settled joins (count + 1)
      simpa [List.replicate_succ'] using longer

theorem Open.addOperand {tokens part : List Token} {group : Group} {operand : Expr}
    (opened : Open tokens group) (atom : Derives part (.atom operand)) :
    Settled (tokens ++ part) (group.addOperand operand) := by
  have negation := Derives.negation_of_atom atom group.negations
  cases opened with
  | @first _ alternatives closed count =>
      have settled : Settled _ ⟨alternatives, [negate count operand], 0⟩ :=
        .intro closed (.lastOperand negation)
      simpa [Group.addOperand] using settled
  | @next _ _ alternatives operands settled joins count =>
      cases settled with
      | intro closed run =>
          have grown := Derives.operands_concat run joins negation
          have settled : Settled _ ⟨alternatives, negate count operand :: operands, 0⟩ :=
            .intro closed (by simpa using grown)
          simpa [Group.addOperand] using settled

end Group

/-- The tokens in front of the innermost group, with the groups that are open around it. -/
inductive Framed : List Token → List (Nat × Group) → Prop where
  | outermost : Framed [] []
  | inside {front tokens : List Token} {enclosing : List (Nat × Group)} {group : Group}
      (framed : Framed front enclosing) (opened : group.Open tokens) (position : Nat) :
      Framed (front ++ tokens ++ [.openParen]) ((position, group) :: enclosing)

/-- A draft explains the tokens taken so far. -/
inductive Explains : Draft → List Token → Prop where
  | expecting {front tokens : List Token} {group : Group} {enclosing : List (Nat × Group)}
      (framed : Framed front enclosing) (opened : group.Open tokens) :
      Explains ⟨group, enclosing, true⟩ (front ++ tokens)
  | settled {front tokens : List Token} {group : Group} {enclosing : List (Nat × Group)}
      (framed : Framed front enclosing) (settled : group.Settled tokens) :
      Explains ⟨group, enclosing, false⟩ (front ++ tokens)

theorem explains_empty : Explains {} [] :=
  .expecting .outermost (.first .none 0)

/-- An operand can follow the tokens of any draft in its innermost group. -/
theorem Explains.open {draft : Draft} {tokens : List Token} (explains : draft.Explains tokens) :
    ∃ front part, tokens = front ++ part ∧ Framed front draft.enclosing ∧
      draft.current.Open part := by
  cases explains with
  | expecting framed opened => exact ⟨_, _, rfl, framed, opened⟩
  | settled framed settled => exact ⟨_, _, rfl, framed, settled.adjacent⟩

theorem Explains.beginOperand {draft next : Draft} {tokens : List Token} {located : Token.Located}
    (explains : draft.Explains tokens) (taken : draft.beginOperand located = .ok next) :
    next.Explains (tokens ++ [located.token]) := by
  obtain ⟨front, part, rfl, framed, opened⟩ := explains.open
  obtain ⟨token, position⟩ := located
  cases token with
  | openParen =>
      cases taken
      have inner := Explains.expecting (framed.inside opened position) (.first .none 0)
      simpa using inner
  | qualifier test =>
      cases taken
      have added := opened.addOperand (.qualifier test)
      simpa using Explains.settled framed added
  | closeParen => cases taken
  | keyword word =>
      cases word with
      | not =>
          cases taken
          simpa using Explains.expecting framed opened.addNegation
      | and => cases taken
      | or => cases taken

/-- Taking a token keeps the tokens explained. -/
theorem Explains.step {draft next : Draft} {tokens : List Token} {located : Token.Located}
    (explains : draft.Explains tokens) (taken : draft.step located = .ok next) :
    next.Explains (tokens ++ [located.token]) := by
  cases explains with
  | expecting framed opened =>
      exact (Explains.expecting framed opened).beginOperand taken
  | @settled front part group enclosing framed settled =>
      obtain ⟨token, position⟩ := located
      have begins (began : Draft.beginOperand _ ⟨token, position⟩ = .ok next) :=
        (Explains.settled framed settled).beginOperand began
      cases token with
      | openParen => exact begins taken
      | qualifier test => exact begins taken
      | closeParen =>
          cases framed with
          | outermost => simp [Draft.step] at taken
          | @inside outerFront outerTokens outerEnclosing outer framed opened outerPosition =>
              simp only [Draft.step, Bool.false_eq_true, ↓reduceIte, Except.ok.injEq] at taken
              subst taken
              have atom : Derives (.openParen :: part ++ [.closeParen]) (.atom group.close) :=
                .group settled.close
              have added := opened.addOperand atom
              simpa using Explains.settled framed added
      | keyword word =>
          cases word with
          | not => exact begins taken
          | and =>
              cases taken
              simpa using Explains.expecting framed (settled.next (.inr rfl))
          | or =>
              cases taken
              simpa using Explains.expecting framed settled.addAlternative

theorem Explains.run {draft final : Draft} {tokens : List Token} {located : List Token.Located}
    (explains : draft.Explains tokens) (taken : draft.run located = .ok final) :
    final.Explains (tokens ++ located.map Token.Located.token) := by
  induction located generalizing draft tokens with
  | nil =>
      cases taken
      simpa using explains
  | cons first rest induction =>
      rw [run_cons] at taken
      cases step : draft.step first with
      | error error => simp [step] at taken
      | ok next =>
          simp only [step] at taken
          have explained := induction (explains.step step) taken
          simpa using explained

/-- A finished draft has derived its expression from the tokens taken. -/
theorem Explains.finish {draft : Draft} {tokens : List Token} {length : Nat} {expression : Expr}
    (explains : draft.Explains tokens) (finished : draft.finish length = .ok expression) :
    expression.Denoted tokens := by
  cases explains with
  | expecting framed opened => simp [Draft.finish] at finished
  | settled framed settled =>
      cases framed with
      | outermost =>
          cases finished
          exact settled.close
      | inside framed opened position => simp [Draft.finish] at finished

end Draft

namespace Expr

theorem denoted_of_ofTokens {length : Nat} {located : List Token.Located} {expression : Expr}
    (read : ofTokens length located = .ok expression) :
    expression.Denoted (located.map Token.Located.token) := by
  rw [ofTokens] at read
  cases taken : Draft.run {} located with
  | error error => simp [taken] at read
  | ok draft =>
      simp only [taken] at read
      have explains := Draft.explains_empty.run taken
      exact explains.finish read

theorem ofTokens_of_denoted {located : List Token.Located} {expression : Expr}
    (denoted : expression.Denoted (located.map Token.Located.token)) (length : Nat) :
    ofTokens length located = .ok expression := by
  obtain ⟨group, taken, closed⟩ := Phrase.Derives.readFrom denoted located rfl {} rfl
  have closedEq : group.close = expression := closed
  rw [ofTokens, taken]
  simp [Draft.finish, closedEq]

theorem Denoted.unique {tokens : List Token} {first second : Expr}
    (firstDenoted : first.Denoted tokens) (secondDenoted : second.Denoted tokens) :
    first = second := by
  let located : List Token.Located := tokens.map fun token => ⟨token, 0⟩
  have tokensEq : located.map Token.Located.token = tokens := by
    simp [located, Function.comp_def]
  have firstRead : ofTokens 0 located = .ok first :=
    ofTokens_of_denoted (by rwa [tokensEq]) 0
  have secondRead : ofTokens 0 located = .ok second :=
    ofTokens_of_denoted (by rwa [tokensEq]) 0
  rw [firstRead] at secondRead
  exact Except.ok.inj secondRead

end Expr
end IssueWatch
