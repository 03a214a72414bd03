import IssueWatch.Issue
import IssueWatch.Proofs.Alert.History

/-!
# What alerts tell apart

Queries tell two issues apart exactly if the issues differ in something that queries look at.  One direction
is an induction on the query; for the other one, each way to differ has a single qualifier that shows it.
Since alerts compare issues by their numbers, the same holds of two collections with the same numbers: no
alert reports anything as long as issues of one number look alike, and any other difference is reported for
some query.
-/
namespace IssueWatch

theorem Qualifier.holds_eq_of_alike {first second : Issue} (alike : first.Alike second)
    (qualifier : Qualifier) : qualifier.holds first = qualifier.holds second := by
  cases qualifier with
  | label name =>
      rw [Bool.eq_iff_iff, Qualifier.holds, Qualifier.holds, List.contains_iff_mem,
        List.contains_iff_mem]
      exact alike.labels name
  | milestone title => simp only [Qualifier.holds, alike.milestone]
  | assignee login => simp only [Qualifier.holds, alike.assigneeLogin]
  | isIssue | isPullRequest => simp only [Qualifier.holds, alike.isPullRequest]
  | isOpen | isClosed => simp only [Qualifier.holds, alike.isOpen]

/-- Two optional values are equal if they equal the same values: an absent one equals none. -/
theorem eq_of_beq_some_eq {α : Type} [DecidableEq α] {first second : Option α}
    (same : ∀ value, (first == some value) = (second == some value)) : first = second := by
  ext value
  have sameValue := same value
  rw [Bool.eq_iff_iff, beq_iff_eq, beq_iff_eq] at sameValue
  exact sameValue

namespace Issue

/-- The single qualifiers suffice to tell that two issues differ. -/
theorem alike_of_forall_qualifier {first second : Issue}
    (same : ∀ qualifier : Qualifier, qualifier.holds first = qualifier.holds second) :
    first.Alike second where
  labels name := by
    have sameLabel := same (.label name)
    rw [Bool.eq_iff_iff, Qualifier.holds, Qualifier.holds, List.contains_iff_mem,
      List.contains_iff_mem] at sameLabel
    exact sameLabel
  milestone := eq_of_beq_some_eq fun title => same (.milestone title)
  assigneeLogin := eq_of_beq_some_eq fun login => same (.assignee login)
  isPullRequest := same .isPullRequest
  isOpen := same .isOpen

theorem exists_qualifier_of_not_alike {first second : Issue} (unlike : ¬ first.Alike second) :
    ∃ qualifier : Qualifier, qualifier.holds first ≠ qualifier.holds second := by
  by_contra noQualifier
  push Not at noQualifier
  exact unlike (alike_of_forall_qualifier noQualifier)

/-- New titles and addresses, other spellings of the same set of labels, and moves between states that are
not open leave an issue as queries see it. -/
theorem alike_of_edit (issue : Issue) (title url state : String) (labels : List String)
    (profileUrl : String) (sameLabels : ∀ name, name ∈ labels ↔ name ∈ issue.labels)
    (sameOpen : state = "open" ↔ issue.state = "open") :
    issue.Alike { issue with
      title, url, state, labels, assignee := issue.assignee.map ({ · with profileUrl }) } where
  labels name := (sameLabels name).symm
  milestone := rfl
  assigneeLogin := by
    simp only [assigneeLogin, Option.map_map]
    rfl
  isPullRequest := rfl
  isOpen := by
    rw [Bool.eq_iff_iff, isOpen, isOpen, beq_iff_eq, beq_iff_eq]
    exact sameOpen.symm

end Issue

namespace Expr

theorem holds_eq_of_alike {first second : Issue} (alike : first.Alike second) (query : Expr) :
    query.holds first = query.holds second := by
  induction query using inductionOnChildren with
  | and children same =>
      rw [holds_and, holds_and, Bool.eq_iff_iff, List.all_eq_true, List.all_eq_true]
      exact forall₂_congr fun child member => by rw [same child member]
  | or children same =>
      rw [holds_or, holds_or, Bool.eq_iff_iff, List.any_eq_true, List.any_eq_true]
      exact exists_congr fun child => and_congr_right fun member => by rw [same child member]
  | not child same => rw [holds_not, holds_not, same]
  | leaf qualifier => rw [holds_leaf, holds_leaf, Qualifier.holds_eq_of_alike alike]

theorem alike_of_forall_holds_eq {first second : Issue}
    (same : ∀ query : Expr, query.WellFormed → query.holds first = query.holds second) :
    first.Alike second := by
  apply Issue.alike_of_forall_qualifier
  intro qualifier
  simpa using same (.leaf qualifier) (.leaf qualifier)

end Expr

/-- Issues of one number in two collections look alike. -/
def Collection.AlikeByNumber (start finish : Collection) : Prop :=
  ∀ first ∈ start.issues, ∀ second ∈ finish.issues,
    first.number = second.number → first.Alike second

namespace Alert

theorem number_mem_matched_iff {alert : Alert} {collection : Collection} {issue : Issue}
    (member : issue ∈ collection.issues) :
    issue.number ∈ alert.matched collection ↔ alert.query.holds issue = true := by
  rw [mem_matched]
  constructor
  · rintro ⟨other, otherMember, holds, sameNumber⟩
    have same : other = issue :=
      List.inj_on_of_nodup_map collection.distinct otherMember member sameNumber
    rwa [← same]
  · intro holds
    exact ⟨issue, member, holds, rfl⟩

theorem number_mem_reported_iff {alert : Alert} {start finish : Collection} {first second : Issue}
    (firstMember : first ∈ start.issues) (secondMember : second ∈ finish.issues)
    (sameNumber : first.number = second.number) :
    first.number ∈ (alert.change start finish).reported ↔
      alert.query.holds first ≠ alert.query.holds second := by
  have atStart : first.number ∈ alert.matched start ↔ alert.query.holds first = true :=
    number_mem_matched_iff firstMember
  have atFinish : first.number ∈ alert.matched finish ↔ alert.query.holds second = true := by
    rw [sameNumber]
    exact number_mem_matched_iff secondMember
  rw [reported_change, Finset.mem_symmDiff, atStart, atFinish]
  cases alert.query.holds first <;> cases alert.query.holds second <;> simp

theorem matched_subset_of_alike {start finish : Collection} (alert : Alert)
    (sameNumbers : numbers start.issues ⊆ numbers finish.issues)
    (alike : start.AlikeByNumber finish) : alert.matched start ⊆ alert.matched finish := by
  intro number matched
  obtain ⟨first, firstMember, holds, rfl⟩ := mem_matched.mp matched
  obtain ⟨second, secondMember, sameNumber⟩ :=
    mem_numbers.mp (sameNumbers (mem_numbers.mpr ⟨first, firstMember, rfl⟩))
  have same := alike first firstMember second secondMember sameNumber.symm
  rw [← sameNumber, number_mem_matched_iff secondMember, ← Expr.holds_eq_of_alike same]
  exact holds

theorem isChange_of_alikeByNumber {start finish : Collection} (alert : Alert)
    (sameNumbers : numbers start.issues = numbers finish.issues)
    (alike : start.AlikeByNumber finish) : (alert.change start finish).isChange = false := by
  have alikeBack : finish.AlikeByNumber start := fun second secondMember first firstMember sameNumber =>
    (alike first firstMember second secondMember sameNumber.symm).symm
  rw [isChange_eq_false_iff]
  exact (alert.matched_subset_of_alike sameNumbers.subset alike).antisymm
    (alert.matched_subset_of_alike sameNumbers.superset alikeBack)

theorem exists_query_reporting {start finish : Collection} {first second : Issue}
    (firstMember : first ∈ start.issues) (secondMember : second ∈ finish.issues)
    (sameNumber : first.number = second.number) (unlike : ¬ first.Alike second) :
    ∃ query : Expr, query.WellFormed ∧
      ∀ alert : Alert, alert.query = query →
        first.number ∈ (alert.change start finish).reported := by
  obtain ⟨qualifier, differs⟩ := Issue.exists_qualifier_of_not_alike unlike
  refine ⟨.leaf qualifier, .leaf qualifier, fun alert asks => ?_⟩
  rw [number_mem_reported_iff firstMember secondMember sameNumber, asks]
  simpa using differs

/-- Two issues look alike if every well-formed query answers the same for both, and then every query does.  Between two collections with the
same numbers no alert reports a change as long as issues of one number look alike, which edits of what
queries do not look at leave them; if two of one number do not, some query reports that number. -/
theorem tells_apart_iff_not_alike :
    (∀ first second : Issue,
      ((∀ query : Expr, query.WellFormed → query.holds first = query.holds second) → first.Alike second) ∧
        (first.Alike second → ∀ query : Expr, query.holds first = query.holds second)) ∧
    (∀ (issue : Issue) (title url state : String) (labels : List String) (profileUrl : String),
      (∀ name, name ∈ labels ↔ name ∈ issue.labels) → (state = "open" ↔ issue.state = "open") →
      issue.Alike { issue with
        title, url, state, labels, assignee := issue.assignee.map ({ · with profileUrl }) }) ∧
    ∀ start finish : Collection, numbers start.issues = numbers finish.issues →
      (start.AlikeByNumber finish →
        ∀ alert : Alert, (alert.change start finish).isChange = false) ∧
      ∀ first ∈ start.issues, ∀ second ∈ finish.issues, first.number = second.number →
        ¬ first.Alike second →
        ∃ query : Expr, query.WellFormed ∧
          ∀ alert : Alert, alert.query = query →
            first.number ∈ (alert.change start finish).reported := by
  refine ⟨fun first second => ⟨Expr.alike_of_forall_holds_eq, Expr.holds_eq_of_alike⟩, Issue.alike_of_edit, ?_⟩
  intro start finish sameNumbers
  constructor
  · intro alike alert
    exact alert.isChange_of_alikeByNumber sameNumbers alike
  · intro first firstMember second secondMember sameNumber unlike
    exact exists_query_reporting firstMember secondMember sameNumber unlike

/-- An empty milestone title is not the same as no milestone, whatever else agrees.  Repeated labels in
another order, a new title and another state that is not open go unseen. -/
theorem tells_apart_empty_milestone :
    let issue : Issue := {
      number := 7, title := "Crash", url := "", state := "closed", labels := ["bug", "ui"],
      milestone := some "", assignee := some { login := "ann" } }
    let start : Collection := ⟨[issue], by decide⟩
    let edited : Collection := ⟨[{ issue with
      title := "Crash again", state := "merged", labels := ["ui", "bug", "ui"] }], by decide⟩
    let cleared : Collection := ⟨[{ issue with milestone := none }], by decide⟩
    (∀ alert : Alert, (alert.change start edited).isChange = false) ∧
      ∃ query : Expr, query.WellFormed ∧
        ∀ alert : Alert, alert.query = query → 7 ∈ (alert.change start cleared).reported := by
  intro issue start edited cleared
  obtain ⟨_, unseen, between⟩ := tells_apart_iff_not_alike
  have alike : start.AlikeByNumber edited := by
    intro first firstMember second secondMember _
    rw [List.mem_singleton.mp firstMember, List.mem_singleton.mp secondMember]
    refine unseen issue "Crash again" "" "merged" ["ui", "bug", "ui"] "" (fun name => ?_) (by decide)
    simp only [issue, List.mem_cons, List.not_mem_nil, or_false]
    tauto
  have unlike : ¬ issue.Alike { issue with milestone := none } := by
    intro alike
    cases alike.milestone
  constructor
  · exact (between start edited rfl).1 alike
  · exact (between start cleared rfl).2 issue (List.mem_singleton_self _) { issue with milestone := none }
      (List.mem_singleton_self _) rfl unlike

end Alert
end IssueWatch
