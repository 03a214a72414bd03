import IssueWatch.Proofs.Command.Loading
import IssueWatch.Proofs.Query.Parentheses
import Mathlib.Data.List.Perm.Basic

/-!
# Kinds and the qualifiers for them

A snapshot can be restricted to the entries of a kind when it is loaded, or the query can ask for the kind.  Both
ways select the same issues, and the restricted collection knows fewer names, so that there are more warnings about
it.  The issues and the pull requests of a snapshot share out its numbers and its names.
-/
namespace IssueWatch

/-- The qualifier that asks for the entries of a kind, unless that is all of them. -/
def Kind.qualifier? : Kind → Option Qualifier
  | .all => none
  | .issue => some .isIssue
  | .pullRequest => some .isPullRequest

theorem Kind.admits_eq_holds {kind : Kind} {qualifier : Qualifier} (asks : kind.qualifier? = some qualifier)
    (issue : Issue) : kind.admits issue = qualifier.holds issue := by
  cases kind <;> cases asks <;> rfl

namespace Collection

/-! ## Parts of a collection -/

/-- The issues of a collection are those of two others, which have no number in common. -/
structure Splits (whole first second : Collection) : Prop where
  apart : first.numbers.Disjoint second.numbers
  numbers : ∀ number, number ∈ whole.numbers ↔ number ∈ first.numbers ∨ number ∈ second.numbers
  labels : ∀ name, name ∈ whole.labels ↔ name ∈ first.labels ∨ name ∈ second.labels
  milestones : ∀ title, title ∈ whole.milestones ↔ title ∈ first.milestones ∨ title ∈ second.milestones
  assignees : ∀ login, login ∈ whole.assignees ↔ login ∈ first.assignees ∨ login ∈ second.assignees

variable {whole part first second : Collection}

theorem splits_of_perm (shared : (first.issues ++ second.issues).Perm whole.issues) :
    Splits whole first second := by
  have numbers : (first.numbers ++ second.numbers).Perm whole.numbers := by
    simpa [Collection.numbers] using shared.map Issue.number
  have labels : (first.labels ++ second.labels).Perm whole.labels := by
    simpa [Collection.labels] using shared.flatMap_right Issue.labels
  have milestones : (first.milestones ++ second.milestones).Perm whole.milestones := by
    simpa [Collection.milestones] using shared.filterMap Issue.milestone
  have assignees : (first.assignees ++ second.assignees).Perm whole.assignees := by
    simpa [Collection.assignees] using shared.filterMap Issue.assigneeLogin
  refine ⟨?_, fun number => ?_, fun name => ?_, fun title => ?_, fun login => ?_⟩
  · exact List.disjoint_of_nodup_append (numbers.nodup_iff.mpr whole.distinct)
  · rw [← numbers.mem_iff, List.mem_append]
  · rw [← labels.mem_iff, List.mem_append]
  · rw [← milestones.mem_iff, List.mem_append]
  · rw [← assignees.mem_iff, List.mem_append]

/-- A name that is missing from a list is missing from a part of it. -/
theorem missing_of_subset {names others : List String} (smaller : names ⊆ others) {name : String}
    {found unknown : UnknownName} (missing : (if others.contains name then none else some found) = some unknown) :
    (if names.contains name then none else some found) = some unknown := by
  simp only [List.contains_iff_mem] at missing ⊢
  by_cases member : name ∈ others
  · rw [if_pos member] at missing
    cases missing
  · rw [if_neg member] at missing
    rw [if_neg fun inPart => member (smaller inPart), missing]

/-- A part of a collection has no name that the collection does not have. -/
theorem unknownName?_of_subset (smaller : part.issues ⊆ whole.issues) {qualifier : Qualifier}
    {unknown : UnknownName} (unmatched : qualifier.unknownName? whole = some unknown) :
    qualifier.unknownName? part = some unknown := by
  cases qualifier with
  | label name =>
      refine missing_of_subset (fun label member => ?_) unmatched
      obtain ⟨issue, inPart, carries⟩ := mem_labels.mp member
      exact mem_labels.mpr ⟨issue, smaller inPart, carries⟩
  | milestone title => exact missing_of_subset (List.filterMap_subset _ smaller) unmatched
  | assignee login => exact missing_of_subset (List.filterMap_subset _ smaller) unmatched
  | isIssue | isPullRequest | isOpen | isClosed => cases unmatched

end Collection

namespace Expr

open Token (Scans)

/-- A qualifier behind an accepted text in parentheses narrows the query of the text. -/
theorem parse_narrowed {text : String} {expression : Expr} (read : parse text = .ok expression)
    {qualifier : Qualifier} (present : qualifier.value ≠ "") :
    parse ("(" ++ text ++ ") " ++ (Expr.leaf qualifier).format) =
      .ok (.and [expression, .leaf qualifier]) := by
  obtain ⟨tokens, scanned, denoted⟩ := exists_scan_of_parse read
  have joins : Phrase.Derives.JoinsOperands [] := .inl rfl
  have last : Phrase.Derives [.qualifier qualifier] (.negation (.leaf qualifier)) := .plain (.qualifier qualifier)
  have group := Token.scans_inParens scanned 0 ([' '] ++ (formatQualifier qualifier ++ []))
  have front := group.append (Token.scans_space _ (formatQualifier qualifier ++ []))
  have written := @scans_formatQualifier qualifier (0 + ('(' :: text.toList ++ [')'] ++ [' ']).length) [] trivial
  have noEmptyName : [(0 + ('(' :: text.toList ++ [')'] ++ [' ']).length, qualifier)].filterMap emptyNameOffset? =
      [] := by
    simp [emptyNameOffset?, present]
  rw [noEmptyName] at written
  have scans := front.append written
  rw [← parse_eq_ok scans (Denoted.and_pair joins denoted.grouped last)]
  congr 1
  simp [← String.toList_inj, format, formatChars]

theorem select_and_leaf (expression : Expr) (qualifier : Qualifier) (issues : List Issue) :
    (Expr.and [expression, .leaf qualifier]).select issues =
      expression.select (issues.filter qualifier.holds) := by
  rw [select, select, List.filter_filter]
  simp

theorem select_comm (expression : Expr) (kind : Kind) (issues : List Issue) :
    kind.select (expression.select issues) = expression.select (kind.select issues) :=
  List.filter_comm _ _ _

theorem unknownNames_sublist (expression : Expr) {part whole : Collection}
    (smaller : part.issues ⊆ whole.issues) :
    (expression.unknownNames whole).Sublist (expression.unknownNames part) := by
  rw [unknownNames, unknownNames]
  induction expression.leaves with
  | nil => exact .slnil
  | cons qualifier rest induction =>
      cases unmatched : qualifier.unknownName? whole with
      | some unknown =>
          have missing := Collection.unknownName?_of_subset smaller unmatched
          rw [List.filterMap_cons_some unmatched, List.filterMap_cons_some missing]
          exact induction.cons_cons unknown
      | none =>
          rw [List.filterMap_cons_none unmatched, List.filterMap_cons]
          split
          · exact induction
          · exact induction.cons _

end Expr

namespace Command

/-- What an accepted text selects in the entries of a kind is what it selects in all entries when it is narrowed
to the kind, and what is left of its answer for all entries. -/
structure AnswersNarrowed (text : String) (expression : Expr) (kind : Kind) (kindText : String)
    (whole part : Collection) : Prop where
  narrowed : ∃ narrower, Expr.parse ("(" ++ text ++ ") is:" ++ kindText) = .ok narrower ∧
    narrower.select whole.issues = expression.select part.issues ∧
    (narrower.unknownNames whole).Sublist (expression.unknownNames part)
  restricted : kind.select (expression.select whole.issues) = expression.select part.issues

theorem answersNarrowed {text : String} {expression : Expr} (read : Expr.parse text = .ok expression)
    {kind : Kind} {kindText : String} {qualifier : Qualifier} (asks : kind.qualifier? = some qualifier)
    (written : (Expr.leaf qualifier).format = "is:" ++ kindText) {whole part : Collection}
    (restricts : part.issues = kind.select whole.issues) :
    AnswersNarrowed text expression kind kindText whole part where
  narrowed := by
    have present : qualifier.value ≠ "" := by
      cases kind <;> cases asks <;> decide
    have narrowedRead := Expr.parse_narrowed read present
    have together : "(" ++ text ++ ") " ++ ("is:" ++ kindText) = "(" ++ text ++ ") is:" ++ kindText := by
      simp [← String.toList_inj]
    rw [written, together] at narrowedRead
    refine ⟨_, narrowedRead, ?_, ?_⟩
    · rw [Expr.select_and_leaf, restricts, Kind.select, funext (Kind.admits_eq_holds asks)]
    · have namesNothing : (Expr.and [expression, .leaf qualifier]).unknownNames whole =
          expression.unknownNames whole := by
        cases kind <;> cases asks <;> simp [Expr.unknownNames, Expr.leaves, Expr.leavesOfList, Qualifier.unknownName?]
      rw [namesNothing]
      refine expression.unknownNames_sublist ?_
      rw [restricts]
      exact List.filter_subset_self _
  restricted := by
    rw [Expr.select_comm, restricts]

theorem collection_eq_ok {snapshot : Snapshot} (distinct : (snapshot.issues.map Issue.number).Nodup) (kind : Kind) :
    ∃ collection, snapshot.collection kind = .ok collection ∧ collection.issues = kind.select snapshot.issues := by
  have kindDistinct : ((kind.select snapshot.issues).map Issue.number).Nodup :=
    distinct.sublist (List.filter_sublist.map _)
  refine ⟨⟨_, kindDistinct⟩, ?_, rfl⟩
  rw [Snapshot.collection, Collection.ofIssues, dif_pos kindDistinct]

/-- A snapshot with distinct numbers can be loaded whole, without its pull requests and with nothing else.  A
query that is accepted selects the same issues in the same order in a part and, narrowed to its kind, in the whole,
and it warns about more names in the part.  The two parts share out the numbers, and together they have the
names of the whole. -/
theorem kinds_share_out_snapshot {snapshot : Snapshot} (distinct : (snapshot.issues.map Issue.number).Nodup) :
    ∃ whole issues pullRequests : Collection,
      (∀ workspace file, Snapshot.load workspace file = .ok snapshot →
        Loads workspace file "all" snapshot whole ∧
        Loads workspace file "issue" snapshot issues ∧
        Loads workspace file "pr" snapshot pullRequests) ∧
      whole.issues = snapshot.issues ∧
      Collection.Splits whole issues pullRequests ∧
      ∀ text expression, Expr.parse text = .ok expression →
        AnswersNarrowed text expression .issue "issue" whole issues ∧
        AnswersNarrowed text expression .pullRequest "pr" whole pullRequests := by
  obtain ⟨whole, wholeCollected, wholeIssues⟩ := collection_eq_ok distinct .all
  obtain ⟨issues, issuesCollected, issuesEq⟩ := collection_eq_ok distinct .issue
  obtain ⟨pullRequests, pullRequestsCollected, pullRequestsEq⟩ := collection_eq_ok distinct .pullRequest
  have wholeEq : whole.issues = snapshot.issues := by
    rw [wholeIssues]
    exact List.filter_eq_self.mpr fun _ _ => rfl
  rw [← wholeEq] at issuesEq pullRequestsEq
  refine ⟨whole, issues, pullRequests, fun workspace file loaded => ?_, wholeEq, Collection.splits_of_perm ?_,
    fun text expression read => ⟨?_, ?_⟩⟩
  · exact ⟨⟨loaded, .all, rfl, wholeCollected⟩, ⟨loaded, .issue, rfl, issuesCollected⟩,
      ⟨loaded, .pullRequest, rfl, pullRequestsCollected⟩⟩
  · rw [issuesEq, pullRequestsEq]
    refine List.perm_append_comm.trans ?_
    exact List.filter_append_perm (·.isPullRequest) whole.issues
  · exact answersNarrowed read rfl (by decide) issuesEq
  · exact answersNarrowed read rfl (by decide) pullRequestsEq

/-- An issue and a pull request with a label in common, of which only the pull request is assigned. -/
def issueBesidePullRequest : Snapshot where
  org := "o"
  repo := "r"
  issues := [
    ⟨1, "A", "", "open", false, ["bug"], some "v1", none⟩,
    ⟨2, "B", "", "open", true, ["bug"], none, some ⟨"ann", ""⟩⟩]

/-- The login of the pull request is unknown among the issues, so that only the query for issues alone warns about
it. -/
theorem kinds_share_out_issueBesidePullRequest :
    let workspace : Workspace := { files := [(["s.json"], issueBesidePullRequest.toJson.write)] }
    let expression : Expr := .or [.leaf (.label "bug"), .leaf (.assignee "ann")]
    ∃ whole issues pullRequests : Collection,
      Loads workspace (.ofText "s.json") "issue" issueBesidePullRequest issues ∧
      Collection.Splits whole issues pullRequests ∧
      expression.unknownNames issues = [.assignee "ann"] ∧
      ∃ narrower, Expr.parse "(label:bug OR assignee:ann) is:issue" = .ok narrower ∧
        narrower.select whole.issues = expression.select issues.issues ∧
        narrower.unknownNames whole = [] := by
  intro workspace expression
  obtain ⟨whole, issues, pullRequests, loads, wholeEq, splits, answers⟩ :=
    @kinds_share_out_snapshot issueBesidePullRequest (by decide)
  have loaded : Snapshot.load workspace (.ofText "s.json") = .ok issueBesidePullRequest :=
    Snapshot.load_of_read_write rfl (by decide +kernel) (.object List.nodup_nil nofun) rfl
  have loadsIssues := (loads _ _ loaded).2.1
  obtain ⟨kind, kindRead, issuesEq⟩ := loadsIssues.issues_eq
  obtain ⟨⟨narrower, read, selected, _⟩, _⟩ :=
    (answers "label:bug OR assignee:ann" expression (by decide +kernel)).1
  have narrowerEq : Expr.parse "(label:bug OR assignee:ann) is:issue" =
      .ok (.and [expression, .leaf .isIssue]) := by decide +kernel
  refine ⟨whole, issues, pullRequests, loadsIssues, splits, ?_, narrower, read, selected, ?_⟩
  · cases issues
    cases kindRead
    cases issuesEq
    rfl
  · cases narrowerEq.symm.trans read
    cases whole
    cases wholeEq
    rfl

end Command
end IssueWatch
