import IssueWatch.Proofs.Console.Verbatim
import IssueWatch.Proofs.Query.Rejection

/-!
# What messages cite

The message about a rejected text cites at most a part of the text: a word, the name in front of a colon or a
value without the backslashes that hide characters.
-/
namespace IssueWatch

/-- The part of a rejected text that the message about a fault cites. -/
def SyntaxFault.cited : SyntaxFault → List Char
  | .unexpectedTerm word => word.toList
  | .unknownPredicate key => key.toList
  | .unknownQualifier value => value.toList
  | .missingValue | .emptyQuotedValue | .unterminatedQuotedValue | .operandExpected | .unmatchedClose
  | .unmatchedOpen | .unexpectedText => []

theorem Text.QuotedBody.subset {body value : List Char} (reads : QuotedBody body value) : value ⊆ body := by
  induction reads with
  | nothing => exact List.nil_subset []
  | @hidden c body value special more induction =>
      exact List.Subset.trans (List.cons_subset_cons c induction) (List.subset_cons_self _ _)
  | @shown c body value ordinary more induction => exact List.cons_subset_cons c induction
  | @backslash c body value ordinary more induction => exact List.cons_subset_cons '\\' induction

theorem Text.Value.subset {written value rest : List Char} (reads : Value written value rest) :
    value ⊆ written := by
  cases reads with
  | bare => exact List.Subset.refl _
  | quoted present reads =>
      exact fun c member => List.mem_append_left _ (List.mem_cons_of_mem _ (reads.subset member))

theorem Token.StartsWith.subset {word text : List Char} (starts : StartsWith word text) : word ⊆ text := by
  obtain ⟨rest, rfl, _⟩ := starts.ends
  exact List.subset_append_left _ _

theorem Token.Misfit.cited_subset {text : List Char} {fault : SyntaxFault} {offset : Nat}
    (misfit : Misfit text fault offset) : fault.cited ⊆ text := by
  cases misfit with
  | noColon starts | startsQuoted starts =>
      rw [SyntaxFault.cited, String.toList_ofList]
      exact starts.subset
  | unknownKey starts _ joined =>
      rw [SyntaxFault.cited, String.toList_ofList]
      refine List.Subset.trans ?_ starts.subset
      rw [joined]
      exact List.subset_append_left _ _
  | noValue | emptyValue | openValue => exact List.nil_subset _
  | @unknownValue name written value rest spelled joined reads unknown =>
      rw [SyntaxFault.cited, String.toList_ofList, joined]
      refine fun c member => List.mem_append_left _ ?_
      exact List.mem_append_right _ (List.mem_cons_of_mem _ (reads.subset member))

theorem Expr.Rejects.cited_subset {text : List Char} {error : SyntaxError} (rejects : Rejects text error) :
    error.fault.cited ⊆ text := by
  cases rejects with
  | misfit textEq cut wrong =>
      rw [textEq]
      exact fun c member => List.mem_append_right _ (wrong.cited_subset member)
  | strayClose | misplaced | unfinished | unclosed => exact List.nil_subset _

open Console (IsLegible)

theorem SyntaxFault.isLegible_message {fault : SyntaxFault} (legible : IsLegible fault.cited) :
    IsLegible fault.message.toList := by
  have cites {front behind : String} {cited : String} (frontLegible : IsLegible front.toList)
      (behindLegible : IsLegible behind.toList) (citedLegible : IsLegible cited.toList) :
      IsLegible (front ++ cited ++ behind).toList := by
    rw [String.toList_append, String.toList_append]
    exact (frontLegible.append citedLegible).append behindLegible
  cases fault with
  | unexpectedTerm word => exact cites (by decide +kernel) (by decide +kernel) legible
  | unknownPredicate key => exact cites (by decide +kernel) (by decide +kernel) legible
  | unknownQualifier value => exact cites (by decide +kernel) (by decide +kernel) legible
  | missingValue | emptyQuotedValue | unterminatedQuotedValue | operandExpected | unmatchedClose
  | unmatchedOpen | unexpectedText => decide +kernel

/-- The message about a legible text that is rejected is legible. -/
theorem Expr.isLegible_message_of_parse {text : String} {error : SyntaxError} (failed : parse text = .error error)
    (legible : IsLegible text.toList) : IsLegible error.fault.message.toList :=
  SyntaxFault.isLegible_message fun c member => legible c ((rejects_of_parse failed).cited_subset member)

end IssueWatch
