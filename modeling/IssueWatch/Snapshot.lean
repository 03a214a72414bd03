import IssueWatch.Issue
import IssueWatch.Json.Schema

/-!
# Snapshots

All issues of a repository at one time, with free data about how they were collected, and the form
in which they are stored.
-/
namespace IssueWatch

open Json

namespace Account

def ofJson (value : Json) : Checked Account := do
  let fields ← readRecord "GitHubUser" value
  Checked.of Account.mk
    |>.apply (readRequired "login" readText fields)
    |>.apply (readOptional "html_url" "" readText fields)

def toJson (account : Account) : Json :=
  .object [("login", .string account.login), ("html_url", .string account.profileUrl)]

end Account

namespace Issue

def labelOfJson (value : Json) : Checked String := do
  readRequired "name" readText (← readRecord "GitHubLabel" value)

def milestoneOfJson (value : Json) : Checked String := do
  readRequired "title" readText (← readRecord "GitHubMilestone" value)

def ofJson (value : Json) : Checked Issue := do
  let fields ← readRecord "GitHubIssue" value
  Checked.of Issue.mk
    |>.apply (readRequired "number" readInteger fields)
    |>.apply (readRequired "title" readText fields)
    |>.apply (readRequired "html_url" readText fields)
    |>.apply (readRequired "state" readText fields)
    |>.apply (readOptional "pull_request" false readBool fields)
    |>.apply (readOptional "labels" [] (readList .tupleExpected labelOfJson) fields)
    |>.apply (readOptional "milestone" none (readNullable milestoneOfJson) fields)
    |>.apply (readOptional "assignee" none (readNullable Account.ofJson) fields)

def toJson (issue : Issue) : Json :=
  .object [
    ("number", .int issue.number),
    ("title", .string issue.title),
    ("html_url", .string issue.url),
    ("state", .string issue.state),
    ("pull_request", .bool issue.isPullRequest),
    ("labels", .array (issue.labels.map fun name => .object [("name", .string name)])),
    ("milestone",
      match issue.milestone with
      | none => .null
      | some title => .object [("title", .string title)]),
    ("assignee",
      match issue.assignee with
      | none => .null
      | some account => account.toJson)]

/-- Whether a location in a snapshot is that of a text that is shown of the issue at a position. -/
def isShownAt (position : Nat) : Location → Bool
  | .key "issues" :: .index found :: inside =>
    found == position &&
      match inside with
      | [.key "title"] | [.key "html_url"] | [.key "labels", .index _, .key "name"]
      | [.key "milestone", .key "title"] | [.key "assignee", .key "login"]
      | [.key "assignee", .key "html_url"] => true
      | _ => false
  | _ => false

end Issue

/-- Where a snapshot has torn strings: in the names of its repository, and in what is shown of some issues. -/
structure Tears where
  inRepository : Bool := false
  issues : List Issue := []
  deriving DecidableEq, Repr

/-- All issues of a repository at one time. -/
structure Snapshot where
  org : String
  repo : String
  issues : List Issue := []
  metadata : Fields := []
  tears : Tears := {}

namespace Json

mutual
/-- Replaces the numbers that are infinite or undefined by null. -/
def finiteOnly : Json → Json
  | .float value => if isFinite value then .float value else .null
  | .array items => .array (finiteItems items)
  | .object fields => .object (finiteFields fields)
  | .null => .null
  | .bool value => .bool value
  | .int value => .int value
  | .string value => .string value

def finiteItems : List Json → List Json
  | [] => []
  | item :: rest => finiteOnly item :: finiteItems rest

def finiteFields : List (String × Json) → List (String × Json)
  | [] => []
  | (key, value) :: rest => (key, finiteOnly value) :: finiteFields rest
end

end Json

namespace Snapshot

def ofJson (value : Json) : Checked Snapshot := do
  let fields ← readRecord "IssueSnapshot" value
  Checked.of (fun org repo issues metadata => { org, repo, issues, metadata })
    |>.apply (readRequired "org" readText fields)
    |>.apply (readRequired "repo" readText fields)
    |>.apply (readOptional "issues" [] (readList .listExpected Issue.ofJson) fields)
    |>.apply (readOptional "metadata" [] readObject fields)

/-- The tears of a snapshot whose value has torn strings at some locations. -/
def tearsAt (snapshot : Snapshot) (torn : List Location) : Tears where
  inRepository := torn.contains [.key "org"] || torn.contains [.key "repo"]
  issues := snapshot.issues.zipIdx.filterMap fun (issue, position) =>
    if torn.any (Issue.isShownAt position) then some issue else none

/-- The stored form of a snapshot, in which every number is finite. -/
def toJson (snapshot : Snapshot) : Json :=
  .object [
    ("org", .string snapshot.org),
    ("repo", .string snapshot.repo),
    ("issues", .array (snapshot.issues.map Issue.toJson)),
    ("metadata", .object (finiteFields snapshot.metadata))]

def collection (snapshot : Snapshot) (kind : Kind) : Except Collection.DuplicateNumber Collection :=
  Collection.ofIssues (kind.select snapshot.issues)

end Snapshot
end IssueWatch
