import IssueWatch.Proofs.Query.Parsing
import IssueWatch.Proofs.Query.PhraseReading
import IssueWatch.Query.Parser

/-!
# Reading by descent and reading token by token

A reading by descent and a draft that takes the same tokens one by one come to the same expression or to the
same error at the same place.  What each level stops in front of is decisive: behind a disjunction there is
nothing or a closing parenthesis.
-/
namespace IssueWatch

open Token (Located)

namespace Draft

/-- What a draft comes to with the rest of the tokens of a text. -/
def outcome (draft : Draft) (length : Nat) (tokens : List Located) : Except SyntaxError Expr :=
  match draft.run tokens with
  | .error error => .error error
  | .ok last => last.finish length

theorem outcome_of_step {draft next : Draft} {located : Located}
    (taken : draft.step located = .ok next) (length : Nat) (rest : List Located) :
    draft.outcome length (located :: rest) = next.outcome length rest := by
  rw [outcome, run, taken]
  rfl

theorem outcome_of_step_error {draft : Draft} {located : Located} {error : SyntaxError}
    (stuck : draft.step located = .error error) (length : Nat) (rest : List Located) :
    draft.outcome length (located :: rest) = .error error := by
  rw [outcome, run, stuck]

end Draft

namespace Descent

open Draft (Group)

theorem outcome_of_startsOperand {tokens : List Located} (starts : startsOperand tokens = true)
    (length : Nat) (draft : Draft) (expected : Bool) :
    Draft.outcome { draft with operandExpected := expected } length tokens =
      Draft.outcome { draft with operandExpected := true } length tokens := by
  cases expected with
  | true => rfl
  | false =>
      unfold startsOperand at starts
      split at starts
      · rfl
      · rfl
      · rfl
      all_goals cases starts

theorem outcome_of_nextOperand? {tokens behind : List Located}
    {noLonger : behind.length ≤ tokens.length}
    (next : nextOperand? tokens = some ⟨behind, noLonger⟩) (length : Nat) (draft : Draft)
    (settled : draft.operandExpected = false) :
    draft.outcome length tokens =
      Draft.outcome { draft with operandExpected := true } length behind := by
  obtain ⟨current, enclosing, expected⟩ := draft
  cases settled
  unfold nextOperand? at next
  split at next
  · cases next
    exact Draft.outcome_of_step rfl length _
  · split at next
    · rename_i starts
      cases next
      exact outcome_of_startsOperand starts length ⟨current, enclosing, false⟩ false
    · cases next

theorem outcome_of_nextAlternative? {tokens behind : List Located}
    {shorter : behind.length < tokens.length}
    (next : nextAlternative? tokens = some ⟨behind, shorter⟩) (length : Nat) (draft : Draft)
    (settled : draft.operandExpected = false) :
    draft.outcome length tokens =
      Draft.outcome { draft with
        current := draft.current.addAlternative, operandExpected := true } length behind := by
  obtain ⟨current, enclosing, expected⟩ := draft
  cases settled
  unfold nextAlternative? at next
  split at next
  · cases next
    exact Draft.outcome_of_step rfl length _
  · cases next

/-- Behind a disjunction there is nothing, or a parenthesis closes. -/
theorem eq_nil_or_close {tokens : List Located} (noOperand : nextOperand? tokens = none)
    (noAlternative : nextAlternative? tokens = none) :
    tokens = [] ∨ ∃ position rest, tokens = ⟨.closeParen, position⟩ :: rest := by
  cases tokens with
  | nil => exact .inl rfl
  | cons located rest =>
      obtain ⟨token, position⟩ := located
      cases token with
      | closeParen => exact .inr ⟨position, rest, rfl⟩
      | openParen | qualifier => simp [nextOperand?, startsOperand] at noOperand
      | keyword word =>
          cases word with
          | and | not => simp [nextOperand?, startsOperand] at noOperand
          | or => simp [nextAlternative?] at noAlternative

/-- A reading of an operand is what any draft does that expects one. -/
def ReadsOperand (length : Nat) (tokens : List Located) (reading : Except SyntaxError (Front tokens)) :
    Prop :=
  ∀ draft : Draft, draft.operandExpected = true →
    match reading with
    | .error error => draft.outcome length tokens = .error error
    | .ok front => draft.outcome length tokens =
      Draft.outcome { draft with
        current := draft.current.addOperand front.expression, operandExpected := false }
        length front.rest

/-- A reading of further operands is what a draft does behind an operand. -/
def ReadsOperands (length : Nat) (tokens : List Located) (reading : Except SyntaxError (More tokens)) :
    Prop :=
  ∀ draft : Draft, draft.operandExpected = false → draft.current.negations = 0 →
    match reading with
    | .error error => draft.outcome length tokens = .error error
    | .ok more => nextOperand? more.rest = none ∧ draft.outcome length tokens =
      Draft.outcome { draft with
        current := { draft.current with
          operands := more.expressions.reverse ++ draft.current.operands } } length more.rest

/-- A reading of a conjunction is what a draft does that has no operand yet. -/
def ReadsConjunction (length : Nat) (tokens : List Located)
    (reading : Except SyntaxError (Front tokens)) : Prop :=
  ∀ draft : Draft, draft.operandExpected = true → draft.current.operands = [] →
    draft.current.negations = 0 →
    match reading with
    | .error error => draft.outcome length tokens = .error error
    | .ok front => nextOperand? front.rest = none ∧ ∃ operands,
      Draft.join .and operands.reverse = front.expression ∧
      draft.outcome length tokens =
        Draft.outcome { draft with
          current := { draft.current with operands }, operandExpected := false } length front.rest

/-- A reading of further alternatives is what a draft does behind a conjunction. -/
def ReadsAlternatives (length : Nat) (tokens : List Located)
    (reading : Except SyntaxError (More tokens)) : Prop :=
  ∀ draft : Draft, draft.operandExpected = false → draft.current.negations = 0 →
    nextOperand? tokens = none →
    match reading with
    | .error error => draft.outcome length tokens = .error error
    | .ok more => nextOperand? more.rest = none ∧ nextAlternative? more.rest = none ∧
      ∃ group : Group,
        (group.conjunction :: group.alternatives).reverse =
          (draft.current.conjunction :: draft.current.alternatives).reverse ++ more.expressions ∧
        draft.outcome length tokens =
          Draft.outcome { draft with current := group } length more.rest

/-- A reading of a disjunction is what a draft does at the start of a group. -/
def ReadsDisjunction (length : Nat) (tokens : List Located)
    (reading : Except SyntaxError (Front tokens)) : Prop :=
  ∀ enclosing : List (Nat × Group),
    match reading with
    | .error error => Draft.outcome { enclosing } length tokens = .error error
    | .ok front => nextOperand? front.rest = none ∧ nextAlternative? front.rest = none ∧
      ∃ group : Group, group.close = front.expression ∧
        Draft.outcome { enclosing } length tokens =
          Draft.outcome { current := group, enclosing, operandExpected := false } length front.rest

variable {length : Nat} {tokens : List Located}

theorem readsOperand_atom
    (noNot : ∀ position behind, tokens ≠ ⟨.keyword .not, position⟩ :: behind)
    (inner : ∀ behind : List Located, behind.length < tokens.length →
      ReadsDisjunction length behind (readDisjunction length behind)) :
    ReadsOperand length tokens (readAtom length tokens) := by
  rintro ⟨current, enclosing, _⟩ ⟨⟩
  cases tokens with
  | nil =>
      rw [readAtom]
      rfl
  | cons located behind =>
      obtain ⟨token, position⟩ := located
      cases token with
      | qualifier test =>
          rw [readAtom]
          exact Draft.outcome_of_step rfl length behind
      | closeParen =>
          rw [readAtom]
          exact Draft.outcome_of_step_error rfl length behind
      | keyword word =>
          rw [readAtom]
          cases word with
          | and | or => exact Draft.outcome_of_step_error rfl length behind
          | not => exact absurd rfl (noNot position behind)
      | openParen =>
          have opened := Draft.outcome_of_step
            (show Draft.step ⟨current, enclosing, true⟩ ⟨.openParen, position⟩ =
              .ok ⟨{}, (position, current) :: enclosing, true⟩ from rfl) length behind
          have read := inner behind (Nat.lt_succ_self _) ((position, current) :: enclosing)
          rw [readAtom]
          cases reading : readDisjunction length behind with
          | error error =>
              rw [reading] at read
              exact opened.trans read
          | ok front =>
              obtain ⟨expression, rest, shorter⟩ := front
              rw [reading] at read
              obtain ⟨noOperand, noAlternative, group, rfl, taken⟩ := read
              rcases eq_nil_or_close noOperand noAlternative with rfl | ⟨last, others, rfl⟩
              · exact opened.trans (taken.trans rfl)
              · exact opened.trans (taken.trans (Draft.outcome_of_step rfl length others))

theorem readsOperand_negation
    (inner : ∀ behind : List Located, behind.length < tokens.length →
      ReadsOperand length behind (readNegation length behind))
    (atom : (∀ position behind, tokens ≠ ⟨.keyword .not, position⟩ :: behind) →
      ReadsOperand length tokens (readAtom length tokens)) :
    ReadsOperand length tokens (readNegation length tokens) := by
  by_cases negated : ∃ position behind, tokens = ⟨.keyword .not, position⟩ :: behind
  · obtain ⟨position, behind, rfl⟩ := negated
    rintro ⟨current, enclosing, _⟩ ⟨⟩
    have taken := Draft.outcome_of_step
      (show Draft.step ⟨current, enclosing, true⟩ ⟨.keyword .not, position⟩ =
        .ok ⟨{ current with negations := current.negations + 1 }, enclosing, true⟩ from rfl)
      length behind
    have read := inner behind (Nat.lt_succ_self _)
      ⟨{ current with negations := current.negations + 1 }, enclosing, true⟩ rfl
    rw [readNegation]
    cases reading : readNegation length behind with
    | error error =>
        rw [reading] at read
        exact taken.trans read
    | ok front =>
        rw [reading] at read
        refine taken.trans (read.trans ?_)
        simp only [Group.addOperand, Group.negate, Group.negate_not]
  · have noNot : ∀ position behind, tokens ≠ ⟨.keyword .not, position⟩ :: behind :=
      fun position behind isNot => negated ⟨position, behind, isNot⟩
    rw [readNegation]
    · exact atom noNot
    · exact noNot

theorem readsOperands
    (operand : ∀ behind : List Located, behind.length ≤ tokens.length →
      ReadsOperand length behind (readNegation length behind))
    (more : ∀ rest : List Located, rest.length < tokens.length →
      ReadsOperands length rest (readOperands length rest)) :
    ReadsOperands length tokens (readOperands length tokens) := by
  rintro ⟨⟨alternatives, operands, _⟩, enclosing, _⟩ ⟨⟩ ⟨⟩
  let current : Group := ⟨alternatives, operands, 0⟩
  rw [readOperands]
  cases next : nextOperand? tokens with
  | none => exact ⟨next, rfl⟩
  | some found =>
      obtain ⟨behind, noLonger⟩ := found
      have begun := outcome_of_nextOperand? next length ⟨current, enclosing, false⟩ rfl
      have read := operand behind noLonger ⟨current, enclosing, true⟩ rfl
      simp only
      cases reading : readNegation length behind with
      | error error =>
          rw [reading] at read
          exact begun.trans read
      | ok front =>
          obtain ⟨expression, rest, shorter⟩ := front
          rw [reading] at read
          have others := more rest (Nat.lt_of_lt_of_le shorter noLonger)
            ⟨current.addOperand expression, enclosing, false⟩ rfl rfl
          simp only
          cases othersReading : readOperands length rest with
          | error error =>
              rw [othersReading] at others
              exact begun.trans (read.trans others)
          | ok last =>
              rw [othersReading] at others
              obtain ⟨noOperand, taken⟩ := others
              refine ⟨noOperand, begun.trans (read.trans (taken.trans ?_))⟩
              simp [current, Group.addOperand, Group.negate]

theorem readsConjunction
    (operand : ReadsOperand length tokens (readNegation length tokens))
    (more : ∀ rest : List Located, rest.length < tokens.length →
      ReadsOperands length rest (readOperands length rest)) :
    ReadsConjunction length tokens (readConjunction length tokens) := by
  rintro ⟨⟨alternatives, _, _⟩, enclosing, _⟩ ⟨⟩ ⟨⟩ ⟨⟩
  let current : Group := ⟨alternatives, [], 0⟩
  have read := operand ⟨current, enclosing, true⟩ rfl
  rw [readConjunction]
  cases reading : readNegation length tokens with
  | error error =>
      rw [reading] at read
      exact read
  | ok front =>
      obtain ⟨first, rest, shorter⟩ := front
      rw [reading] at read
      have others := more rest shorter ⟨current.addOperand first, enclosing, false⟩ rfl rfl
      simp only
      cases othersReading : readOperands length rest with
      | error error =>
          rw [othersReading] at others
          exact read.trans others
      | ok more =>
          rw [othersReading] at others
          obtain ⟨noOperand, taken⟩ := others
          refine ⟨noOperand, more.expressions.reverse ++ [first], by simp, read.trans (taken.trans ?_)⟩
          simp [current, Group.addOperand, Group.negate]

theorem readsAlternatives
    (conjunction : ∀ behind : List Located, behind.length < tokens.length →
      ReadsConjunction length behind (readConjunction length behind))
    (more : ∀ rest : List Located, rest.length < tokens.length →
      ReadsAlternatives length rest (readAlternatives length rest)) :
    ReadsAlternatives length tokens (readAlternatives length tokens) := by
  rintro ⟨current, enclosing, _⟩ ⟨⟩ noNegations noOperand
  rw [readAlternatives]
  cases next : nextAlternative? tokens with
  | none => exact ⟨noOperand, next, current, (List.append_nil _).symm, rfl⟩
  | some found =>
      obtain ⟨behind, noLonger⟩ := found
      have begun := outcome_of_nextAlternative? next length ⟨current, enclosing, false⟩ rfl
      have read := conjunction behind noLonger ⟨current.addAlternative, enclosing, true⟩ rfl rfl
        noNegations
      simp only
      cases reading : readConjunction length behind with
      | error error =>
          rw [reading] at read
          exact begun.trans read
      | ok front =>
          obtain ⟨expression, rest, shorter⟩ := front
          rw [reading] at read
          obtain ⟨endsOperands, operands, joined, taken⟩ := read
          have others := more rest (Nat.lt_trans shorter noLonger)
            ⟨{ current.addAlternative with operands }, enclosing, false⟩ rfl noNegations endsOperands
          simp only
          cases othersReading : readAlternatives length rest with
          | error error =>
              rw [othersReading] at others
              exact begun.trans (taken.trans others)
          | ok last =>
              rw [othersReading] at others
              obtain ⟨endsOperands, endsAlternatives, group, members, lastTaken⟩ := others
              refine ⟨endsOperands, endsAlternatives, group, members.trans ?_,
                begun.trans (taken.trans lastTaken)⟩
              simp [Group.addAlternative, Group.conjunction, joined]

theorem readsDisjunction
    (conjunction : ReadsConjunction length tokens (readConjunction length tokens))
    (more : ∀ rest : List Located, rest.length < tokens.length →
      ReadsAlternatives length rest (readAlternatives length rest)) :
    ReadsDisjunction length tokens (readDisjunction length tokens) := by
  intro enclosing
  have read := conjunction { enclosing } rfl rfl rfl
  rw [readDisjunction]
  cases reading : readConjunction length tokens with
  | error error =>
      rw [reading] at read
      exact read
  | ok front =>
      obtain ⟨first, rest, shorter⟩ := front
      rw [reading] at read
      obtain ⟨endsOperands, operands, joined, taken⟩ := read
      have others := more rest shorter ⟨{ operands }, enclosing, false⟩ rfl rfl endsOperands
      simp only
      cases othersReading : readAlternatives length rest with
      | error error =>
          rw [othersReading] at others
          exact taken.trans others
      | ok last =>
          rw [othersReading] at others
          obtain ⟨endsOperands, endsAlternatives, group, members, lastTaken⟩ := others
          refine ⟨endsOperands, endsAlternatives, group, ?_, taken.trans lastTaken⟩
          rw [Group.close, members]
          simp [Group.conjunction, joined]

/-- What every level of the reading does with some tokens. -/
structure ReadsAll (length : Nat) (tokens : List Located) : Prop where
  operand : ReadsOperand length tokens (readNegation length tokens)
  operands : ReadsOperands length tokens (readOperands length tokens)
  conjunction : ReadsConjunction length tokens (readConjunction length tokens)
  alternatives : ReadsAlternatives length tokens (readAlternatives length tokens)
  disjunction : ReadsDisjunction length tokens (readDisjunction length tokens)

/-- The levels call each other on fewer tokens, or a deeper one on the same tokens. -/
theorem readsAll (length : Nat) (tokens : List Located) : ReadsAll length tokens := by
  induction shorter : tokens.length using Nat.strongRecOn generalizing tokens with
  | ind count induction =>
      subst shorter
      have inner (behind : List Located) (shorter : behind.length < tokens.length) :
          ReadsAll length behind := induction behind.length shorter behind rfl
      -- An operand without a keyword in front starts at the very tokens that the operands are read from.
      have operand (behind : List Located) (noLonger : behind.length ≤ tokens.length) :
          ReadsOperand length behind (readNegation length behind) :=
        readsOperand_negation
          (fun rest shorter => (inner rest (Nat.lt_of_lt_of_le shorter noLonger)).operand)
          fun noNot => readsOperand_atom noNot fun rest shorter =>
            (inner rest (Nat.lt_of_lt_of_le shorter noLonger)).disjunction
      have operands : ReadsOperands length tokens (readOperands length tokens) :=
        readsOperands operand fun rest shorter => (inner rest shorter).operands
      have conjunction : ReadsConjunction length tokens (readConjunction length tokens) :=
        readsConjunction (operand tokens (Nat.le_refl _))
          fun rest shorter => (inner rest shorter).operands
      have alternatives : ReadsAlternatives length tokens (readAlternatives length tokens) :=
        readsAlternatives (fun behind shorter => (inner behind shorter).conjunction)
          fun rest shorter => (inner rest shorter).alternatives
      have disjunction : ReadsDisjunction length tokens (readDisjunction length tokens) :=
        readsDisjunction conjunction fun rest shorter => (inner rest shorter).alternatives
      exact ⟨operand tokens (Nat.le_refl _), operands, conjunction, alternatives, disjunction⟩

/-- Reading by descent and reading token by token come to the same. -/
theorem read_eq_ofTokens (length : Nat) (tokens : List Located) :
    read length tokens = Expr.ofTokens length tokens := by
  have taken := (readsAll length tokens).disjunction []
  change read length tokens = Draft.outcome {} length tokens
  rw [read]
  cases reading : readDisjunction length tokens with
  | error error =>
      rw [reading] at taken
      exact taken.symm
  | ok front =>
      obtain ⟨expression, rest, shorter⟩ := front
      rw [reading] at taken
      obtain ⟨noOperand, noAlternative, group, rfl, taken⟩ := taken
      -- The reading for any other token is never reached.
      rcases eq_nil_or_close noOperand noAlternative with rfl | ⟨position, others, rfl⟩
      · exact taken.symm
      · exact (taken.trans (Draft.outcome_of_step_error rfl length others)).symm

theorem parse_eq (text : String) : parse text = Expr.parse text := by
  rw [parse, Expr.parse]
  cases Token.scan text.toList with
  | error error => rfl
  | ok tokens => exact read_eq_ofTokens text.toList.length tokens

end Descent

namespace Expr

/-- Reading token by token and reading by descent both succeed with exactly the expressions that the grammar
derives from the tokens, wherever the tokens stand, and the grammar derives at most one. -/
theorem ofTokens_eq_ok_iff_denoted (length : Nat) (located : List Token.Located)
    (expression : Expr) :
    (ofTokens length located = .ok expression ↔
        expression.Denoted (located.map Token.Located.token)) ∧
      (Descent.read length located = .ok expression ↔
        expression.Denoted (located.map Token.Located.token)) ∧
      ∀ (tokens : List Token) (first second : Expr),
        first.Denoted tokens → second.Denoted tokens → first = second := by
  have accepts : ofTokens length located = .ok expression ↔
      expression.Denoted (located.map Token.Located.token) :=
    ⟨denoted_of_ofTokens, fun denoted => ofTokens_of_denoted denoted length⟩
  refine ⟨accepts, ?_, fun tokens first second => Denoted.unique⟩
  rw [Descent.read_eq_ofTokens]
  exact accepts

/-- In `NOT is:open (label:a is:pr) OR is:issue` the negation binds first, the group keeps its own node
and the neighbours are joined before the alternatives. -/
theorem denoted_group_beside_negation :
    let tokens : List Token :=
      [.keyword .not, .qualifier .isOpen, .openParen, .qualifier (.label "a"),
        .qualifier .isPullRequest, .closeParen, .keyword .or, .qualifier .isIssue]
    let expression : Expr :=
      .or [.and [.not (.leaf .isOpen), .and [.leaf (.label "a"), .leaf .isPullRequest]],
        .leaf .isIssue]
    expression.Denoted tokens ∧ ∀ other : Expr, other.Denoted tokens → other = expression := by
  intro tokens expression
  let located : List Token.Located := tokens.map fun token => ⟨token, 0⟩
  have denoted : expression.Denoted tokens :=
    (ofTokens_eq_ok_iff_denoted 0 located expression).1.mp rfl
  exact ⟨denoted, fun other otherDenoted =>
    (ofTokens_eq_ok_iff_denoted 0 located expression).2.2 tokens other expression otherDenoted denoted⟩

end Expr
end IssueWatch
