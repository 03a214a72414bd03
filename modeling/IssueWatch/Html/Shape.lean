import IssueWatch.Alert
import IssueWatch.Report

/-!
# What pages show

What a reader can tell from a table of issues and what its tags depend on.
-/
namespace IssueWatch.Html

/-!
## What a row shows

The fields of an issue that its row in a table shows. Labels are shown as one text, and an absent
milestone like one with an empty title.
-/

/-- The fields of a row. -/
structure RowContent where
  number : Int
  url : String
  title : String
  labels : Option String
  assignee : Option Account
  milestone : String
  deriving DecidableEq, Repr

/-- What the row of an issue shows. -/
def rowContent (issue : Issue) : RowContent where
  number := issue.number
  url := issue.url
  title := issue.title
  labels := if issue.labels.isEmpty then none else some (Text.join ", " issue.labels)
  assignee := issue.assignee
  milestone := issue.milestone.getD ""

/-!
## Shapes of pages

What the tags of a page depend on: how many sections and rows there are and which of their optional
parts are present, but none of the texts in them.
-/

/-- The characters that delimit tags and attributes. -/
def isMark (c : Char) : Bool :=
  c == '<' || c == '>' || c == '"' || c == '\''

def marks (page : String) : List Char :=
  page.toList.filter isMark

/-- What stands in the cell for the assignee. -/
inductive AssigneeShape where
  | absent
  | plain
  | linked
  deriving DecidableEq, Repr

def assigneeShape : Option Account → AssigneeShape
  | none => .absent
  | some account => if account.profileUrl = "" then .plain else .linked

/-- The optional parts of a row. -/
structure RowShape where
  hasLabels : Bool
  assignee : AssigneeShape
  deriving DecidableEq, Repr

def rowShape (issue : Issue) : RowShape where
  hasLabels := !issue.labels.isEmpty
  assignee := assigneeShape issue.assignee

/-- The shape of the section of a query: whether it has a link, and its rows. -/
structure SectionShape where
  hasLink : Bool
  rows : List RowShape
  deriving DecidableEq, Repr

def sectionShape (repository : Repository) (collection : Collection) (named : NamedQuery) :
    SectionShape where
  hasLink := (Report.searchLink? repository named.query).isSome
  rows := (named.query.select collection.issues).map rowShape

/-- The shape of the message about a change: whether it has a link, and the rows of its tables. -/
structure ChangeShape where
  hasLink : Bool
  entered : List RowShape
  left : List RowShape
  deriving DecidableEq, Repr

def changeShape (repository : Repository) (change : Alert.Change) : ChangeShape where
  hasLink := (Report.searchLink? repository change.alert.query).isSome
  entered := change.entered.map rowShape
  left := change.left.map rowShape

/-- An escaped text has no marks. -/
theorem marks_escape (text : String) : marks (escape text) = [] := by
  simp only [marks, escape, String.toList_ofList, List.filter_flatMap, List.flatMap_eq_nil_iff]
  intro c _
  unfold escapeChar
  split <;> simp_all [isMark]

end IssueWatch.Html
