/-!
# Issues and their collections

Issues as queries and reports look at them, alone and in collections.
-/
namespace IssueWatch

/-!
## Issues

An issue or pull request of a repository, as far as queries and reports look at it.
-/

/-- A user account, with the address of its profile page, which may be empty. -/
structure Account where
  login : String
  profileUrl : String := ""
  deriving DecidableEq, Repr

structure Issue where
  number : Int
  title : String
  url : String
  state : String
  isPullRequest : Bool := false
  labels : List String := []
  milestone : Option String := none
  assignee : Option Account := none
  deriving DecidableEq, Repr

namespace Issue

/-- Only the state `open` counts as open. -/
def isOpen (issue : Issue) : Bool :=
  issue.state == "open"

def assigneeLogin (issue : Issue) : Option String :=
  issue.assignee.map Account.login

end Issue

/-- A choice of entries: issues, pull requests or both. -/
inductive Kind where
  | all
  | issue
  | pullRequest
  deriving DecidableEq, Repr

namespace Kind

def ofText? (text : String) : Option Kind :=
  if text = "all" then some .all
  else if text = "issue" then some .issue
  else if text = "pr" then some .pullRequest
  else none

def admits : Kind → Issue → Bool
  | .all, _ => true
  | .issue, entry => !entry.isPullRequest
  | .pullRequest, entry => entry.isPullRequest

def select (kind : Kind) (issues : List Issue) : List Issue :=
  issues.filter kind.admits

end Kind
end IssueWatch

/-!
## Issues that look alike

What queries look at of an issue: the set of its labels, its milestone, the login of its assignee, whether
it is a pull request, and whether it is open. Number, title, addresses and the order and repetition of
labels make no difference to a query, nor do different states that are not open.
-/
namespace IssueWatch.Issue

/-- Two issues agree in everything that queries look at. -/
structure Alike (first second : Issue) : Prop where
  labels : ∀ name, name ∈ first.labels ↔ name ∈ second.labels
  milestone : first.milestone = second.milestone
  assigneeLogin : first.assigneeLogin = second.assigneeLogin
  isPullRequest : first.isPullRequest = second.isPullRequest
  isOpen : first.isOpen = second.isOpen

namespace Alike

theorem refl (issue : Issue) : Alike issue issue :=
  ⟨fun _ => Iff.rfl, rfl, rfl, rfl, rfl⟩

theorem symm {first second : Issue} (alike : Alike first second) : Alike second first :=
  ⟨fun name => (alike.labels name).symm, alike.milestone.symm, alike.assigneeLogin.symm,
    alike.isPullRequest.symm, alike.isOpen.symm⟩

theorem trans {first second third : Issue} (alike : Alike first second)
    (next : Alike second third) : Alike first third :=
  ⟨fun name => (alike.labels name).trans (next.labels name),
    alike.milestone.trans next.milestone, alike.assigneeLogin.trans next.assigneeLogin,
    alike.isPullRequest.trans next.isPullRequest, alike.isOpen.trans next.isOpen⟩

end Alike
end IssueWatch.Issue

/-!
## Issue collections

A list of issues with pairwise distinct numbers, together with the names that its issues carry.
-/
namespace IssueWatch

/-- Issues in snapshot order, no two of which have the same number. -/
structure Collection where
  issues : List Issue
  distinct : (issues.map Issue.number).Nodup

namespace Collection

/-- Two issues of a list have the same number. -/
structure DuplicateNumber where
  deriving DecidableEq, Repr

def DuplicateNumber.message (_ : DuplicateNumber) : String :=
  "Issue numbers must be unique within a collection"

/-- The collection of a list of issues, if their numbers differ. -/
def ofIssues (issues : List Issue) : Except DuplicateNumber Collection :=
  if distinct : (issues.map Issue.number).Nodup then .ok ⟨issues, distinct⟩ else .error {}

def size (collection : Collection) : Nat :=
  collection.issues.length

def numbers (collection : Collection) : List Int :=
  collection.issues.map Issue.number

def get? (collection : Collection) (number : Int) : Option Issue :=
  collection.issues.find? (·.number == number)

def contains (collection : Collection) (number : Int) : Bool :=
  collection.issues.any (·.number == number)

/-- The label names that the issues carry, with repetitions. -/
def labels (collection : Collection) : List String :=
  collection.issues.flatMap Issue.labels

/-- The milestone titles that the issues carry, with repetitions. -/
def milestones (collection : Collection) : List String :=
  collection.issues.filterMap Issue.milestone

/-- The logins that issues are assigned to, with repetitions. -/
def assignees (collection : Collection) : List String :=
  collection.issues.filterMap Issue.assigneeLogin

def hasLabel (collection : Collection) (name : String) : Bool :=
  collection.labels.contains name

def hasMilestone (collection : Collection) (title : String) : Bool :=
  collection.milestones.contains title

def hasAssignee (collection : Collection) (login : String) : Bool :=
  collection.assignees.contains login

theorem mem_labels {collection : Collection} {name : String} :
    name ∈ collection.labels ↔ ∃ issue ∈ collection.issues, name ∈ issue.labels := by
  simp [labels]

theorem mem_milestones {collection : Collection} {title : String} :
    title ∈ collection.milestones ↔ ∃ issue ∈ collection.issues, issue.milestone = some title := by
  simp [milestones]

theorem mem_assignees {collection : Collection} {login : String} :
    login ∈ collection.assignees ↔
      ∃ issue ∈ collection.issues, issue.assigneeLogin = some login := by
  simp [assignees]

end Collection

/-- The members of a list of names without repetitions, in the order of their code points. -/
def sortedNames (names : List String) : List String :=
  (names.mergeSort (fun first second => decide (first ≤ second))).eraseDups

end IssueWatch
