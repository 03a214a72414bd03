import IssueWatch.Proofs.Query.Descent
import IssueWatch.Proofs.Query.Misfits
import IssueWatch.Proofs.Query.Parsing
import IssueWatch.Query.Grammar
import Mathlib.Data.List.Basic
import Mathlib.Data.List.Induction

/-!
# Errors of rejected queries

A run of drafts goes on as long as the tokens taken are the start of a query: every draft can be
completed, and every start of a query is taken.  So the token at which a run stops is the first one behind
which no query can follow.  At the end of the tokens the groups that are still open are those whose
parentheses have no partner, with the last one innermost.
-/
namespace IssueWatch

open Token (Located Completable Balanced AwaitsOperand)

namespace Draft

/-! ## Runs that stop -/

theorem run_concat {draft middle : Draft} {located : List Located}
    (taken : draft.run located = .ok middle) (next : Located) :
    draft.run (located ++ [next]) = middle.step next := by
  rw [run_append taken, run_cons]
  cases middle.step next <;> rfl

/-- A run fails at the first token that the draft in front of it does not take. -/
theorem run_eq_error_iff {draft : Draft} {located : List Located} {error : SyntaxError} :
    draft.run located = .error error ↔
      ∃ before stray after middle, located = before ++ stray :: after ∧
        draft.run before = .ok middle ∧ middle.step stray = .error error := by
  constructor
  · intro failed
    induction located generalizing draft with
    | nil => cases failed
    | cons first rest induction =>
        rw [run_cons] at failed
        cases step : draft.step first with
        | error found =>
            rw [step] at failed
            cases failed
            exact ⟨[], first, rest, draft, rfl, rfl, step⟩
        | ok next =>
            rw [step] at failed
            obtain ⟨before, stray, after, middle, rfl, taken, stepped⟩ := induction failed
            refine ⟨first :: before, stray, after, middle, rfl, ?_, stepped⟩
            rw [run_cons, step]
            exact taken
  · rintro ⟨before, stray, after, middle, rfl, taken, stepped⟩
    rw [run_append taken, run_cons, stepped]

theorem exists_run_of_run_append {draft final : Draft} {first second : List Located}
    (taken : draft.run (first ++ second) = .ok final) :
    ∃ middle, draft.run first = .ok middle := by
  cases run : draft.run first with
  | ok middle => exact ⟨middle, rfl⟩
  | error error =>
      obtain ⟨before, stray, after, middle, rfl, beforeTaken, stepped⟩ := run_eq_error_iff.mp run
      have failed : draft.run (before ++ stray :: after ++ second) = .error error :=
        run_eq_error_iff.mpr
          ⟨before, stray, after ++ second, middle, by simp, beforeTaken, stepped⟩
      rw [failed] at taken
      cases taken

/-- A token is refused if an operand has to come first, or if it closes a group that was not opened. -/
theorem step_eq_error {draft : Draft} {located : Located} {error : SyntaxError}
    (failed : draft.step located = .error error) :
    (draft.operandExpected = true ∧ error = ⟨.operandExpected, located.position⟩) ∨
      (draft.operandExpected = false ∧ draft.enclosing = [] ∧
        error = ⟨.unmatchedClose, located.position⟩) := by
  obtain ⟨token, position⟩ := located
  obtain ⟨current, enclosing, expected⟩ := draft
  cases expected with
  | true =>
      left
      refine ⟨rfl, ?_⟩
      match token with
      | .openParen | .qualifier _ | .keyword .not => cases failed
      | .closeParen | .keyword .and | .keyword .or =>
          cases failed
          rfl
  | false =>
      right
      match token, enclosing with
      | .openParen, _ | .qualifier _, _ | .keyword .not, _ | .keyword .and, _ | .keyword .or, _ =>
          cases failed
      | .closeParen, _ :: _ => cases failed
      | .closeParen, [] =>
          cases failed
          exact ⟨rfl, rfl, rfl⟩

/-! ## Starts of queries -/

/-- Closing parentheses close all groups of a draft. -/
theorem run_closeParens (group : Group) (enclosing : List (Nat × Group)) :
    ∃ final, Draft.run ⟨group, enclosing, false⟩
      (List.replicate enclosing.length ⟨.closeParen, 0⟩) = .ok ⟨final, [], false⟩ := by
  induction enclosing generalizing group with
  | nil => exact ⟨group, rfl⟩
  | cons innermost enclosing induction =>
      obtain ⟨position, outer⟩ := innermost
      obtain ⟨final, taken⟩ := induction (outer.addOperand group.close)
      exact ⟨final, taken⟩

/-- Every draft can be completed: an operand follows where one is expected, and closing parentheses
follow that. -/
theorem exists_completion (draft : Draft) :
    ∃ more final, draft.run more = .ok ⟨final, [], false⟩ := by
  obtain ⟨group, enclosing, expected⟩ := draft
  cases expected with
  | false =>
      obtain ⟨final, taken⟩ := run_closeParens group enclosing
      exact ⟨_, final, taken⟩
  | true =>
      obtain ⟨final, taken⟩ := run_closeParens (group.addOperand (.leaf .isOpen)) enclosing
      refine ⟨⟨.qualifier .isOpen, 0⟩ :: List.replicate enclosing.length ⟨.closeParen, 0⟩, final, ?_⟩
      rw [run_cons, step_qualifier]
      exact taken

/-- The tokens that a run takes are exactly the starts of queries. -/
theorem completable_iff_run {located : List Located} :
    Completable (located.map Located.token) ↔ ∃ draft, Draft.run {} located = .ok draft := by
  constructor
  · rintro ⟨more, expression, denoted⟩
    let behind : List Located := more.map fun token => ⟨token, 0⟩
    have tokensEq : (located ++ behind).map Located.token = located.map Located.token ++ more := by
      simp [behind, Function.comp_def]
    rw [← tokensEq] at denoted
    have read := Expr.ofTokens_of_denoted denoted 0
    cases taken : Draft.run {} (located ++ behind) with
    | error error =>
        rw [Expr.ofTokens, taken] at read
        cases read
    | ok final => exact exists_run_of_run_append taken
  · rintro ⟨draft, taken⟩
    obtain ⟨more, final, completed⟩ := draft.exists_completion
    have read : Expr.ofTokens 0 (located ++ more) = .ok final.close := by
      rw [Expr.ofTokens, run_append taken, completed]
      rfl
    have denoted := Expr.denoted_of_ofTokens read
    rw [List.map_append] at denoted
    exact ⟨_, _, denoted⟩

/-- The tokens of a draft are a query exactly if nothing is expected and no group is open. -/
theorem exists_denoted_iff {located : List Located} {draft : Draft}
    (taken : Draft.run {} located = .ok draft) :
    (∃ expression : Expr, expression.Denoted (located.map Located.token)) ↔
      draft.operandExpected = false ∧ draft.enclosing = [] := by
  constructor
  · rintro ⟨expression, denoted⟩
    have read := Expr.ofTokens_of_denoted denoted 0
    rw [Expr.ofTokens, taken] at read
    obtain ⟨current, enclosing, expected⟩ := draft
    cases expected with
    | true => cases read
    | false =>
        cases enclosing with
        | nil => exact ⟨rfl, rfl⟩
        | cons innermost outer => cases read
  · rintro ⟨settled, outermost⟩
    have read : Expr.ofTokens 0 located = .ok draft.current.close := by
      rw [Expr.ofTokens, taken]
      simp [finish, settled, outermost]
    exact ⟨_, Expr.denoted_of_ofTokens read⟩

/-! ## Where an operand is expected -/

theorem operandExpected_of_step {draft next : Draft} {located : Located}
    (taken : draft.step located = .ok next) :
    next.operandExpected = true ↔
      located.token = .openParen ∨ ∃ word, located.token = .keyword word := by
  obtain ⟨token, position⟩ := located
  match token with
  | .openParen =>
      rw [step_openParen] at taken
      cases taken
      simp
  | .qualifier test =>
      rw [step_qualifier] at taken
      cases taken
      simp
  | .keyword .not =>
      rw [step_not] at taken
      cases taken
      simp
  | .keyword .and | .keyword .or =>
      cases expected : draft.operandExpected <;>
        simp only [step, beginOperand, expected, Bool.false_eq_true, ↓reduceIte] at taken <;>
        cases taken
      simp
  | .closeParen =>
      cases expected : draft.operandExpected <;>
        simp only [step, beginOperand, expected, Bool.false_eq_true, ↓reduceIte] at taken
      · split at taken <;> cases taken
        simp
      · cases taken

theorem awaitsOperand_iff {located : List Located} {draft : Draft}
    (taken : Draft.run {} located = .ok draft) :
    AwaitsOperand (located.map Located.token) ↔ draft.operandExpected = true := by
  rcases located.eq_nil_or_concat' with rfl | ⟨front, last, rfl⟩
  · cases taken
    simp [AwaitsOperand]
  · obtain ⟨middle, frontTaken⟩ := exists_run_of_run_append taken
    rw [run_concat frontTaken] at taken
    rw [operandExpected_of_step taken]
    simp [AwaitsOperand]

/-! ## Open groups -/

end Draft

theorem Token.Balanced.append {first second : List Token} (firstBalanced : Balanced first)
    (secondBalanced : Balanced second) : Balanced (first ++ second) := by
  induction firstBalanced with
  | nil => exact secondBalanced
  | plain noOpen noClose _ induction => exact .plain noOpen noClose induction
  | group closed _ _ induction => simpa using Balanced.group closed induction

namespace Draft

/-- The open groups around some tokens are those whose parenthesis has no partner among them. -/
inductive Nested : List (Nat × Group) → List Located → Prop where
  | outermost {located : List Located} (closed : Balanced (located.map Located.token)) :
      Nested [] located
  | inside {enclosing : List (Nat × Group)} {group : Group} {before after : List Located}
      {position : Nat} (around : Nested enclosing before)
      (closed : Balanced (after.map Located.token)) :
      Nested ((position, group) :: enclosing) (before ++ ⟨.openParen, position⟩ :: after)

theorem Nested.append {enclosing : List (Nat × Group)} {located more : List Located}
    (nested : Nested enclosing located) (balanced : Balanced (more.map Located.token)) :
    Nested enclosing (located ++ more) := by
  cases nested with
  | outermost closed =>
      refine .outermost ?_
      rw [List.map_append]
      exact closed.append balanced
  | @inside enclosing group before after position around closed =>
      have grown : Nested ((position, group) :: enclosing)
          (before ++ ⟨.openParen, position⟩ :: (after ++ more)) := by
        refine .inside around ?_
        rw [List.map_append]
        exact closed.append balanced
      simpa using grown

/-- A token that is no parenthesis leaves the open groups alone. -/
theorem enclosing_of_step {draft next : Draft} {located : Located}
    (noOpen : located.token ≠ .openParen) (noClose : located.token ≠ .closeParen)
    (taken : draft.step located = .ok next) : next.enclosing = draft.enclosing := by
  obtain ⟨token, position⟩ := located
  match token with
  | .openParen => exact absurd rfl noOpen
  | .closeParen => exact absurd rfl noClose
  | .qualifier test =>
      rw [step_qualifier] at taken
      cases taken
      rfl
  | .keyword .not =>
      rw [step_not] at taken
      cases taken
      rfl
  | .keyword .and | .keyword .or =>
      cases expected : draft.operandExpected <;>
        simp only [step, beginOperand, expected, Bool.false_eq_true, ↓reduceIte] at taken <;>
        cases taken
      rfl

theorem step_closeParen {draft next : Draft} {position : Nat}
    (taken : draft.step ⟨.closeParen, position⟩ = .ok next) :
    ∃ innermost, draft.enclosing = innermost :: next.enclosing := by
  cases expected : draft.operandExpected <;>
    simp only [step, beginOperand, expected, Bool.false_eq_true, ↓reduceIte] at taken
  · split at taken
    · cases taken
    · rename_i outerPosition outer enclosing enclosingEq
      cases taken
      exact ⟨(outerPosition, outer), enclosingEq⟩
  · cases taken

theorem Nested.step {draft next : Draft} {located : List Located} {last : Located}
    (nested : Nested draft.enclosing located) (taken : draft.step last = .ok next) :
    Nested next.enclosing (located ++ [last]) := by
  obtain ⟨token, position⟩ := last
  by_cases isOpen : token = .openParen
  · subst isOpen
    rw [step_openParen] at taken
    cases taken
    exact .inside nested .nil
  by_cases isClose : token = .closeParen
  · subst isClose
    obtain ⟨innermost, enclosingEq⟩ := step_closeParen taken
    rw [enclosingEq] at nested
    cases nested with
    | @inside _ group before after outerPosition around closed =>
        have pair : Balanced
            ((⟨.openParen, outerPosition⟩ :: after ++ [⟨.closeParen, position⟩] : List Located).map
              Located.token) := by
          simpa using Balanced.group closed .nil
        simpa using around.append pair
  · rw [enclosing_of_step isOpen isClose taken]
    exact nested.append (.plain isOpen isClose .nil)

theorem nested_of_run {located : List Located} {draft : Draft}
    (taken : Draft.run {} located = .ok draft) : Nested draft.enclosing located := by
  induction located using List.reverseRecOn generalizing draft with
  | nil =>
      cases taken
      exact .outermost .nil
  | append_singleton front last induction =>
      obtain ⟨middle, frontTaken⟩ := exists_run_of_run_append taken
      rw [run_concat frontTaken] at taken
      exact (induction frontTaken).step taken

/-- Balanced tokens leave the open groups as they were. -/
theorem enclosing_of_run_balanced {tokens : List Token} (balanced : Balanced tokens)
    {located : List Located} (tokensEq : located.map Located.token = tokens) {draft final : Draft}
    (taken : draft.run located = .ok final) : final.enclosing = draft.enclosing := by
  induction balanced generalizing located draft final with
  | nil =>
      obtain rfl := List.map_eq_nil_iff.mp tokensEq
      cases taken
      rfl
  | plain noOpen noClose _ induction =>
      obtain ⟨first, rest, rfl, rfl, restEq⟩ := List.map_eq_cons_iff.mp tokensEq
      rw [run_cons] at taken
      cases step : draft.step first with
      | error error => simp [step] at taken
      | ok next =>
          rw [step] at taken
          rw [induction restEq taken, enclosing_of_step noOpen noClose step]
  | group _ _ innerInduction moreInduction =>
      rw [List.cons_append] at tokensEq
      obtain ⟨⟨_, first⟩, rest, rfl, rfl, restEq⟩ := List.map_eq_cons_iff.mp tokensEq
      obtain ⟨inner, behind, rfl, innerEq, behindEq⟩ := List.map_eq_append_iff.mp restEq
      obtain ⟨⟨_, last⟩, more, rfl, rfl, moreEq⟩ := List.map_eq_cons_iff.mp behindEq
      rw [run_cons, step_openParen] at taken
      simp only at taken
      obtain ⟨middle, innerTaken⟩ := exists_run_of_run_append taken
      have innerEnclosing := innerInduction innerEq innerTaken
      rw [run_append innerTaken, run_cons] at taken
      cases step : middle.step ⟨.closeParen, last⟩ with
      | error error => simp [step] at taken
      | ok next =>
          rw [step] at taken
          obtain ⟨innermost, enclosingEq⟩ := step_closeParen step
          rw [innerEnclosing] at enclosingEq
          rw [moreInduction moreEq taken]
          exact (List.cons.inj enclosingEq).2.symm

/-- The innermost open group starts at the last parenthesis without partner. -/
theorem enclosing_of_unclosed {before after : List Located} {position : Nat} {draft : Draft}
    (taken : Draft.run {} (before ++ ⟨.openParen, position⟩ :: after) = .ok draft)
    (closed : Balanced (after.map Located.token)) :
    ∃ group outer, draft.enclosing = (position, group) :: outer := by
  obtain ⟨middle, beforeTaken⟩ := exists_run_of_run_append taken
  rw [run_append beforeTaken, run_cons, step_openParen] at taken
  exact ⟨_, _, enclosing_of_run_balanced closed rfl taken⟩

theorem exists_unclosed {located : List Located} {draft : Draft} {position : Nat} {group : Group}
    {outer : List (Nat × Group)} (taken : Draft.run {} located = .ok draft)
    (enclosingEq : draft.enclosing = (position, group) :: outer) :
    ∃ before after, located = before ++ ⟨.openParen, position⟩ :: after ∧
      Balanced (after.map Located.token) := by
  have nested := nested_of_run taken
  rw [enclosingEq] at nested
  cases nested with
  | inside _ closed => exact ⟨_, _, rfl, closed⟩

end Draft

/-! ## The errors of a text -/

theorem Text.append_ne_of_getElem? {front other : String} (index : Nat)
    (inside : index < front.toList.length) (apart : other.toList[index]? ≠ front.toList[index]?)
    (word behind : String) : front ++ word ++ behind ≠ other := by
  rintro rfl
  rw [String.toList_append, String.toList_append, List.append_assoc,
    List.getElem?_append_left inside] at apart
  exact apart rfl

theorem SyntaxFault.message_ne_unexpectedText {fault : SyntaxFault} (other : fault ≠ .unexpectedText) :
    fault.message ≠ SyntaxFault.unexpectedText.message := by
  cases fault with
  | unexpectedTerm word =>
      exact Text.append_ne_of_getElem? 13 (by decide) (by decide) word _
  | unknownPredicate key =>
      exact Text.append_ne_of_getElem? 2 (by decide) (by decide) key _
  | unknownQualifier value =>
      exact Text.append_ne_of_getElem? 2 (by decide) (by decide) value _
  | missingValue | emptyQuotedValue | unterminatedQuotedValue => decide
  | operandExpected | unmatchedClose | unmatchedOpen => decide
  | unexpectedText => exact absurd rfl other

theorem Token.Misfit.ne_unexpectedText {text : List Char} {fault : SyntaxFault} {offset : Nat}
    (misfit : Misfit text fault offset) : fault ≠ .unexpectedText := by
  cases misfit <;> exact SyntaxFault.noConfusion

namespace Expr

open Draft

theorem rejects_of_run_error {text : List Char} {row : List Token.Occurrence} {error : SyntaxError}
    (cut : Token.Row 0 text row [])
    (failed : Draft.run {} (row.map Token.Occurrence.toLocated) = .error error) :
    Rejects text error := by
  obtain ⟨before, stray, after, middle, split, taken, stepped⟩ := run_eq_error_iff.mp failed
  have viable : Completable (before.map Located.token) := completable_iff_run.mpr ⟨middle, taken⟩
  have stuck : ¬ Completable ((before ++ [stray]).map Located.token) := by
    rw [completable_iff_run, run_concat taken, stepped]
    rintro ⟨_, impossible⟩
    cases impossible
  have complete := exists_denoted_iff taken
  rcases step_eq_error stepped with ⟨expected, rfl⟩ | ⟨settled, outermost, rfl⟩
  · refine .misplaced cut split viable (fun expression denoted => ?_) stuck
    have notExpected := (complete.mp ⟨expression, denoted⟩).1
    rw [expected] at notExpected
    cases notExpected
  · obtain ⟨expression, denoted⟩ := complete.mpr ⟨settled, outermost⟩
    exact .strayClose cut split denoted stuck

theorem rejects_of_finish_error {text : List Char} {row : List Token.Occurrence} {draft : Draft}
    {error : SyntaxError} (cut : Token.Row 0 text row [])
    (taken : Draft.run {} (row.map Token.Occurrence.toLocated) = .ok draft)
    (failed : draft.finish text.length = .error error) : Rejects text error := by
  have viable := completable_iff_run.mpr ⟨draft, taken⟩
  have complete := exists_denoted_iff taken
  have awaits := awaitsOperand_iff taken
  unfold finish at failed
  split at failed
  · rename_i expected
    cases failed
    refine .unfinished cut rfl viable (fun expression denoted => ?_) (awaits.mpr expected)
    rw [(complete.mp ⟨expression, denoted⟩).1] at expected
    cases expected
  · rename_i settled
    split at failed
    · rename_i position group outer enclosingEq
      cases failed
      obtain ⟨before, after, split, closed⟩ := exists_unclosed taken enclosingEq
      rw [split] at viable complete awaits
      refine .unclosed cut split viable (fun expression denoted => ?_)
        (fun awaited => settled (awaits.mp awaited)) closed
      rw [(complete.mp ⟨expression, denoted⟩).2] at enclosingEq
      cases enclosingEq
    · cases failed

theorem rejects_of_parse {text : String} {error : SyntaxError} (failed : parse text = .error error) :
    Rejects text.toList error := by
  unfold parse at failed
  split at failed
  · rename_i found scanned
    cases failed
    obtain ⟨front, rest, row, fault, offset, textEq, cut, misfit, rfl⟩ :=
      Token.scan_eq_error_iff.mp scanned
    exact .misfit textEq cut misfit
  · rename_i tokens scanned
    obtain ⟨row, cut, rfl⟩ := Token.row_of_scanFrom scanned
    unfold ofTokens at failed
    split at failed
    · rename_i found stopped
      cases failed
      exact rejects_of_run_error cut stopped
    · rename_i draft taken
      exact rejects_of_finish_error cut taken failed

theorem parse_of_row {text : String} {row : List Token.Occurrence}
    (cut : Token.Row 0 text.toList row []) :
    parse text = ofTokens text.toList.length (row.map Token.Occurrence.toLocated) := by
  rw [parse, Token.scan, Token.scanFrom_of_row cut]

/-- A token that cannot follow a start of a query is where reading stops. -/
theorem ofTokens_of_stuck {before : List Located} {stray : Located}
    (viable : Completable (before.map Located.token))
    (stuck : ¬ Completable ((before ++ [stray]).map Located.token)) (after : List Located)
    (length : Nat) :
    ∃ middle error, Draft.run {} before = .ok middle ∧ middle.step stray = .error error ∧
      ofTokens length (before ++ stray :: after) = .error error := by
  obtain ⟨middle, taken⟩ := completable_iff_run.mp viable
  cases stepped : middle.step stray with
  | ok next =>
      rw [completable_iff_run, run_concat taken, stepped] at stuck
      exact absurd ⟨next, rfl⟩ stuck
  | error error =>
      refine ⟨middle, error, taken, stepped, ?_⟩
      have failed : Draft.run {} (before ++ stray :: after) = .error error :=
        run_eq_error_iff.mpr ⟨before, stray, after, middle, rfl, taken, stepped⟩
      rw [ofTokens, failed]

theorem parse_of_rejects {text : String} {error : SyntaxError}
    (rejects : Rejects text.toList error) : parse text = .error error := by
  cases rejects with
  | misfit textEq cut wrong =>
      have failed := Token.scan_eq_error_iff.mpr ⟨_, _, _, _, _, textEq, cut, wrong, rfl⟩
      rw [parse, failed]
  | @strayClose row before after stray expression cut split complete stuck =>
      have viable : Completable (before.map Located.token) := ⟨[], expression, by simpa using complete⟩
      obtain ⟨middle, error, taken, stepped, failed⟩ :=
        ofTokens_of_stuck viable stuck after text.toList.length
      have settled := ((exists_denoted_iff taken).mp ⟨expression, complete⟩).1
      rw [parse_of_row cut, split, failed]
      rcases step_eq_error stepped with ⟨expected, rfl⟩ | ⟨_, _, rfl⟩
      · rw [settled] at expected
        cases expected
      · rfl
  | @misplaced row before after stray cut split viable incomplete stuck =>
      obtain ⟨middle, error, taken, stepped, failed⟩ :=
        ofTokens_of_stuck viable stuck after text.toList.length
      rw [parse_of_row cut, split, failed]
      rcases step_eq_error stepped with ⟨_, rfl⟩ | ⟨settled, outermost, _⟩
      · rfl
      · obtain ⟨expression, denoted⟩ := (exists_denoted_iff taken).mpr ⟨settled, outermost⟩
        exact absurd denoted (incomplete expression)
  | unfinished cut tokensEq viable _ awaits =>
      obtain ⟨draft, taken⟩ := completable_iff_run.mp viable
      have expected := (awaitsOperand_iff taken).mp awaits
      rw [parse_of_row cut, tokensEq, ofTokens, taken]
      simp [finish, expected]
  | unclosed cut split viable _ settled closed =>
      obtain ⟨draft, taken⟩ := completable_iff_run.mp viable
      have notExpected : ¬ draft.operandExpected = true :=
        fun expected => settled ((awaitsOperand_iff taken).mpr expected)
      obtain ⟨group, outer, enclosingEq⟩ := enclosing_of_unclosed taken closed
      rw [parse_of_row cut, split, ofTokens, taken]
      simp [finish, notExpected, enclosingEq]

theorem Rejects.ne_unexpectedText {text : List Char} {error : SyntaxError}
    (rejects : Rejects text error) : error.fault ≠ .unexpectedText := by
  cases rejects with
  | misfit _ _ wrong => exact wrong.ne_unexpectedText
  | strayClose | misplaced | unfinished | unclosed => exact SyntaxFault.noConfusion

/-- A text has exactly the error that says why it is rejected.  Reading by descent has the same errors, and
behind a complete query it never finds a token other than a closing parenthesis. -/
theorem parse_eq_error_iff (text : String) (error : SyntaxError) :
    (parse text = .error error ↔ Rejects text.toList error) ∧
      Descent.parse text = parse text ∧
      (Descent.parse text = .error error →
        error.fault.message ≠ SyntaxFault.unexpectedText.message) := by
  refine ⟨⟨rejects_of_parse, parse_of_rejects⟩, Descent.parse_eq text, fun failed => ?_⟩
  rw [Descent.parse_eq] at failed
  exact SyntaxFault.message_ne_unexpectedText (rejects_of_parse failed).ne_unexpectedText

/-- A bare word is reported although a parenthesis in front of it closes nothing, and of two open
parentheses the last one without partner is reported. -/
theorem rejects_word_behind_stray_close :
    let wordError : SyntaxError := ⟨.unexpectedTerm "crash", 12⟩
    let openError : SyntaxError := ⟨.unmatchedOpen, 9⟩
    Rejects "label:a) OR crash".toList wordError ∧
      Rejects "(label:a (NOT (is:open) is:pr".toList openError ∧
      wordError.fault.message ≠ SyntaxFault.unexpectedText.message := by
  intro wordError openError
  have wordRead : parse "label:a) OR crash" = .error wordError := rfl
  have openRead : parse "(label:a (NOT (is:open) is:pr" = .error openError := rfl
  obtain ⟨wordRejects, descent, expectedEnd⟩ := parse_eq_error_iff "label:a) OR crash" wordError
  have openRejects := (parse_eq_error_iff "(label:a (NOT (is:open) is:pr" openError).1
  exact ⟨wordRejects.mp wordRead, openRejects.mp openRead, expectedEnd (descent.trans wordRead)⟩

end Expr
end IssueWatch
