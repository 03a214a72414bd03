import IssueWatch.Proofs.Json.Plain
import IssueWatch.Query.Meaning
import IssueWatch.Tracker
import Mathlib.Data.List.Nodup

/-!
# Fetched issues

What is fetched from the tracker are the issues that its entries report, those of a state and in the order of
their numbers.  A query holds of an issue exactly if the entry that reports the issue satisfies it.
-/
namespace IssueWatch.Tracker

/-!
## What the tracker serves

The data that an entry of the tracker reports, which entries have a state or are of a kind, and which
satisfy a query.  All of it is said of the values of an entry themselves, before any issue is made of them.
-/

namespace Entry

/-- An entry reports the data of an issue, each of its own type. -/
structure Reports (entry : Entry) (issue : Issue) : Prop where
  number : entry.number = .int issue.number
  title : entry.title = .string issue.title
  url : entry.url = .string issue.url
  state : entry.state = .string issue.state
  isPullRequest : entry.isPullRequest = issue.isPullRequest
  labels : entry.labels = issue.labels.map .string
  milestone : entry.milestone = issue.milestone.map .string
  assignee : entry.assignee =
    issue.assignee.map fun account => (.string account.login, .string account.profileUrl)

/-- An entry has a state; the word for all states asks for none. -/
def HasState (entry : Entry) (state : String) : Prop :=
  state = "all" ∨ entry.state = .string state

def HasKind (entry : Entry) : Kind → Prop
  | .all => True
  | .issue => entry.isPullRequest = false
  | .pullRequest => entry.isPullRequest = true

def Shows (entry : Entry) : Qualifier → Prop
  | .label name => .string name ∈ entry.labels
  | .milestone title => entry.milestone = some (.string title)
  | .assignee login => ∃ url, entry.assignee = some (.string login, url)
  | .isIssue => entry.isPullRequest = false
  | .isPullRequest => entry.isPullRequest = true
  | .isOpen => entry.state = .string "open"
  | .isClosed => entry.state ≠ .string "open"

mutual
/-- An entry satisfies a query. -/
def Satisfies (entry : Entry) : Expr → Prop
  | .and children => SatisfiesAll entry children
  | .or children => SatisfiesAny entry children
  | .not child => ¬ Satisfies entry child
  | .leaf qualifier => entry.Shows qualifier

def SatisfiesAll (entry : Entry) : List Expr → Prop
  | [] => True
  | child :: rest => Satisfies entry child ∧ SatisfiesAll entry rest

def SatisfiesAny (entry : Entry) : List Expr → Prop
  | [] => False
  | child :: rest => Satisfies entry child ∨ SatisfiesAny entry rest
end

theorem satisfiesAll_iff (entry : Entry) (children : List Expr) :
    entry.SatisfiesAll children ↔ ∀ child ∈ children, entry.Satisfies child := by
  induction children with
  | nil => simp [SatisfiesAll]
  | cons child rest induction => simp [SatisfiesAll, induction]

theorem satisfiesAny_iff (entry : Entry) (children : List Expr) :
    entry.SatisfiesAny children ↔ ∃ child ∈ children, entry.Satisfies child := by
  induction children with
  | nil => simp [SatisfiesAny]
  | cons child rest induction => simp [SatisfiesAny, induction]

end Entry

/-- The tracker serves these entries for a repository: each reports an issue, and no two have the same
number.  Numbers and their count have few enough digits to be stored. -/
structure Serves (service : Service) (repository : Repository) (entries : List Entry) : Prop where
  served : service.entries repository = .ok entries
  typed : ∀ entry ∈ entries, ∃ issue, entry.Reports issue
  distinct : (entries.map Entry.number).Nodup
  short : ∀ entry ∈ entries, ∀ number, entry.number = .int number → Json.IsShort number
  countable : Json.IsShort entries.length

/-! ## What is fetched -/

open Json

namespace Entry.Reports

variable {entry : Entry} {issue : Issue}

theorem labels_eq (reports : entry.Reports issue) : entry.labels.mapM label = .ok issue.labels := by
  rw [reports.labels]
  induction issue.labels with
  | nil => rfl
  | cons name rest induction =>
      rw [List.map_cons, List.mapM_cons, induction]
      rfl

theorem milestoneTitle?_eq (reports : entry.Reports issue) :
    entry.milestoneTitle? = .ok issue.milestone := by
  rw [milestoneTitle?, reports.milestone]
  cases issue.milestone <;> rfl

theorem account?_eq (reports : entry.Reports issue) : entry.account? = .ok issue.assignee := by
  rw [account?, reports.assignee]
  cases issue.assignee <;> rfl

theorem issue_eq (reports : entry.Reports issue) : entry.issue = .ok issue := by
  rw [Entry.issue, reports.labels_eq, reports.milestoneTitle?_eq, reports.account?_eq, reports.number,
    reports.title, reports.url, reports.state, reports.isPullRequest]
  rfl

theorem unique (reports : entry.Reports issue) {other : Issue} (otherReports : entry.Reports other) :
    other = issue :=
  Except.ok.inj (otherReports.issue_eq.symm.trans reports.issue_eq)

theorem hasState_iff (reports : entry.Reports issue) (state : String) :
    entry.hasState state = true ↔ entry.HasState state := by
  rw [hasState, HasState, reports.state]
  simp

theorem admits_iff (reports : entry.Reports issue) (kind : Kind) :
    kind.admits issue = true ↔ entry.HasKind kind := by
  cases kind <;> simp [Kind.admits, HasKind, reports.isPullRequest]

theorem shows_iff (reports : entry.Reports issue) (qualifier : Qualifier) :
    entry.Shows qualifier ↔ qualifier.holds issue = true := by
  cases qualifier with
  | label name => simp [Shows, Qualifier.holds, reports.labels]
  | milestone title => simp [Shows, Qualifier.holds, reports.milestone]
  | assignee login => simp [Shows, Qualifier.holds, Issue.assigneeLogin, reports.assignee]
  | isIssue | isPullRequest => simp [Shows, Qualifier.holds, reports.isPullRequest]
  | isOpen | isClosed => simp [Shows, Qualifier.holds, Issue.isOpen, reports.state]

theorem satisfies_iff (reports : entry.Reports issue) (query : Expr) :
    entry.Satisfies query ↔ query.holds issue = true := by
  induction query using Expr.inductionOnChildren with
  | and children each =>
      rw [Satisfies, satisfiesAll_iff, Expr.holds_and, List.all_eq_true]
      exact forall₂_congr each
  | or children each =>
      rw [Satisfies, satisfiesAny_iff, Expr.holds_or, List.any_eq_true]
      exact exists_congr fun child => and_congr_right (each child)
  | not child inside => simp [Satisfies, inside]
  | leaf qualifier => rw [Satisfies, Expr.holds_leaf, reports.shows_iff]

end Entry.Reports

theorem readEntries_eq {entries : List Entry} {reported : Entry → Issue}
    (reports : ∀ entry ∈ entries, entry.Reports (reported entry)) :
    readEntries entries = (entries.length, .ok (entries.map reported)) := by
  induction entries with
  | nil => rfl
  | cons entry rest induction =>
      rw [List.forall_mem_cons] at reports
      rw [readEntries, reports.1.issue_eq, induction reports.2]
      rfl

theorem pairwise_inOrder {issues : List Issue} (distinct : (issues.map Issue.number).Nodup) :
    ((inOrder issues).map Issue.number).Pairwise (· < ·) := by
  have permuted : (inOrder issues).Perm issues := List.mergeSort_perm _ _
  have ordered : (inOrder issues).Pairwise fun first second => first.number ≤ second.number := by
    have sorted : (inOrder issues).Pairwise fun first second =>
        decide (first.number ≤ second.number) = true := by
      apply List.pairwise_mergeSort
      · intro first second third
        simp only [decide_eq_true_eq]
        omega
      · intro first second
        simp only [Bool.or_eq_true, decide_eq_true_eq]
        omega
    simpa only [decide_eq_true_eq] using sorted
  have apart := List.pairwise_map.mp ((permuted.map Issue.number).nodup_iff.mpr distinct)
  exact List.pairwise_map.mpr
    (ordered.imp₂ (fun _ _ atMost differs => Int.lt_iff_le_and_ne.mpr ⟨atMost, differs⟩) apart)

/-- What is fetched are the issues that entries of a state report, in the order of their numbers. -/
structure Fetched (entries : List Entry) (state : String) (issues : List Issue) : Prop where
  ordered : (issues.map Issue.number).Pairwise (· < ·)
  reported : ∀ issue, issue ∈ issues ↔
    ∃ entry ∈ entries, entry.Reports issue ∧ entry.HasState state
  short : ∀ issue ∈ issues, IsShort issue.number
  countable : IsShort issues.length

theorem Serves.fetched {service : Service} {repository : Repository} {entries : List Entry}
    (serves : Serves service repository entries) (state : String) :
    ∃ messages issues, fetch service repository state = (messages, .ok issues) ∧
      Fetched entries state issues := by
  have inhabited : Nonempty Issue := ⟨⟨0, "", "", "", false, [], none, none⟩⟩
  choose! reported reports using serves.typed
  let chosen := entries.filter (Entry.hasState state)
  have reportsChosen : ∀ entry ∈ chosen, entry.Reports (reported entry) := fun entry member =>
    reports entry (List.mem_of_mem_filter member)
  have fetchEq : fetch service repository state =
      (progress chosen.length, .ok (inOrder (chosen.map reported))) := by
    rw [fetch, serves.served]
    simp only [chosen, readEntries_eq reportsChosen]
    rfl
  have permuted : (inOrder (chosen.map reported)).Perm (chosen.map reported) :=
    List.mergeSort_perm _ _
  have distinct : ((chosen.map reported).map Issue.number).Nodup := by
    have numbers : chosen.map Entry.number = ((chosen.map reported).map Issue.number).map .int := by
      rw [List.map_map, List.map_map]
      exact List.map_congr_left fun entry member => (reportsChosen entry member).number
    have apart := serves.distinct.sublist ((List.filter_sublist (p := Entry.hasState state)).map _)
    rw [numbers] at apart
    exact apart.of_map _
  refine ⟨_, _, fetchEq, pairwise_inOrder distinct, fun issue => ?_, fun issue member => ?_, ?_⟩
  · rw [permuted.mem_iff, List.mem_map]
    constructor
    · rintro ⟨entry, member, rfl⟩
      obtain ⟨served, state⟩ := List.mem_filter.mp member
      exact ⟨entry, served, reports entry served, ((reports entry served).hasState_iff _).mp state⟩
    · rintro ⟨entry, served, reportsIssue, state⟩
      exact ⟨entry, List.mem_filter.mpr ⟨served, (reportsIssue.hasState_iff _).mpr state⟩,
        reportsIssue.unique (reports entry served)⟩
  · obtain ⟨entry, entryMember, rfl⟩ := List.mem_map.mp (permuted.mem_iff.mp member)
    exact serves.short entry (List.mem_of_mem_filter entryMember) _ (reportsChosen entry entryMember).number
  · have fewer : chosen.length ≤ entries.length := List.length_filter_le _ _
    have countable := serves.countable
    rw [IsShort, Int.natAbs_natCast] at countable ⊢
    rw [permuted.length_eq, List.length_map]
    exact Nat.lt_of_le_of_lt fewer countable

end IssueWatch.Tracker
