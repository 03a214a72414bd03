import IssueWatch.Issue
import IssueWatch.Query.Expr

/-!
# The meaning of queries

When a query holds of an issue, which issues of a list it selects, and which of its names no issue
of a collection carries.
-/
namespace IssueWatch

namespace Qualifier

/-- Whether a qualifier holds of an issue. Names are compared exactly. -/
def holds (issue : Issue) : Qualifier → Bool
  | .label name => issue.labels.contains name
  | .milestone title => issue.milestone == some title
  | .assignee login => issue.assigneeLogin == some login
  | .isIssue => !issue.isPullRequest
  | .isPullRequest => issue.isPullRequest
  | .isOpen => issue.isOpen
  | .isClosed => !issue.isOpen

end Qualifier

namespace Expr

mutual
/-- Whether an expression holds of an issue. -/
def holds (issue : Issue) : Expr → Bool
  | .and children => allHold issue children
  | .or children => anyHolds issue children
  | .not child => !holds issue child
  | .leaf qualifier => qualifier.holds issue

def allHold (issue : Issue) : List Expr → Bool
  | [] => true
  | child :: rest => holds issue child && allHold issue rest

def anyHolds (issue : Issue) : List Expr → Bool
  | [] => false
  | child :: rest => holds issue child || anyHolds issue rest
end

/-- The issues that an expression holds of, in the given order. -/
def select (expression : Expr) (issues : List Issue) : List Issue :=
  issues.filter (expression.holds ·)

theorem allHold_eq_all (issue : Issue) (children : List Expr) :
    allHold issue children = children.all (holds issue) := by
  induction children with
  | nil => rfl
  | cons child rest induction => simp [allHold, induction]

theorem anyHolds_eq_any (issue : Issue) (children : List Expr) :
    anyHolds issue children = children.any (holds issue) := by
  induction children with
  | nil => rfl
  | cons child rest induction => simp [anyHolds, induction]

@[simp] theorem holds_and (issue : Issue) (children : List Expr) :
    holds issue (.and children) = children.all (holds issue) := by
  rw [holds, allHold_eq_all]

@[simp] theorem holds_or (issue : Issue) (children : List Expr) :
    holds issue (.or children) = children.any (holds issue) := by
  rw [holds, anyHolds_eq_any]

@[simp] theorem holds_not (issue : Issue) (child : Expr) :
    holds issue (.not child) = !holds issue child := by
  rw [holds]

@[simp] theorem holds_leaf (issue : Issue) (qualifier : Qualifier) :
    holds issue (.leaf qualifier) = qualifier.holds issue := by
  rw [holds]

end Expr

/-- A name in a query that no issue of a collection carries. -/
inductive UnknownName where
  | label (name : String)
  | milestone (title : String)
  | assignee (login : String)
  deriving DecidableEq, Repr

namespace UnknownName

def kindText : UnknownName → String
  | .label _ => "label"
  | .milestone _ => "milestone"
  | .assignee _ => "assignee"

def name : UnknownName → String
  | .label name => name
  | .milestone title => title
  | .assignee login => login

def message : UnknownName → String
  | .label name => "Label does not exist: " ++ name
  | .milestone title => "Milestone does not exist: " ++ title
  | .assignee login => "Assignee does not exist: " ++ login

end UnknownName

namespace Qualifier

/-- The warning about a qualifier whose name no issue of a collection carries. -/
def unknownName? (collection : Collection) : Qualifier → Option UnknownName
  | .label name => if collection.hasLabel name then none else some (.label name)
  | .milestone title => if collection.hasMilestone title then none else some (.milestone title)
  | .assignee login => if collection.hasAssignee login then none else some (.assignee login)
  | .isIssue | .isPullRequest | .isOpen | .isClosed => none

end Qualifier

/-- The names in an expression that no issue of a collection carries, from left to right. -/
def Expr.unknownNames (expression : Expr) (collection : Collection) : List UnknownName :=
  expression.leaves.filterMap (Qualifier.unknownName? collection)

/-!
## Checks of names

A tree is visited from left to right, and every name that no issue of a collection carries is collected. A
listener may be told each of them at once. It can do anything, also stop the check.
-/

variable {m : Type → Type} [Monad m]

/-- Tells an unknown name to the listener, if there is one. -/
def UnknownName.tell (listener? : Option (UnknownName → m Unit)) (unknown : UnknownName) : m Unit :=
  match listener? with
  | some listener => listener unknown
  | none => pure ()

/-- Puts an unknown name behind those found before and tells it to the listener. -/
def UnknownName.report (listener? : Option (UnknownName → m Unit)) (unknown : UnknownName) :
    StateT (List UnknownName) m Unit := do
  modify (· ++ [unknown])
  (unknown.tell listener? : m Unit)

namespace Expr

mutual
/-- Reports the unknown names of a tree from left to right. -/
def reportNames (collection : Collection) (listener? : Option (UnknownName → m Unit)) :
    Expr → StateT (List UnknownName) m Unit
  | .and children => reportNamesOfList collection listener? children
  | .or children => reportNamesOfList collection listener? children
  | .not child => reportNames collection listener? child
  | .leaf qualifier =>
    match qualifier.unknownName? collection with
    | some unknown => unknown.report listener?
    | none => pure ()

def reportNamesOfList (collection : Collection) (listener? : Option (UnknownName → m Unit)) :
    List Expr → StateT (List UnknownName) m Unit
  | [] => pure ()
  | child :: rest => do
    reportNames collection listener? child
    reportNamesOfList collection listener? rest
end

/-- Checks the names of a query against a collection. The answer holds the unknown ones. -/
def checkNames (expression : Expr) (collection : Collection)
    (listener? : Option (UnknownName → m Unit)) : m (List UnknownName) := do
  let ((), found) ← (expression.reportNames collection listener?).run []
  return found

end Expr
end IssueWatch
