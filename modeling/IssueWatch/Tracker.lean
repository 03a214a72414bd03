import IssueWatch.Json.Schema
import IssueWatch.Link
import IssueWatch.Snapshot
import IssueWatch.Workspace

/-!
# The issue tracker

The tracker serves the issues of repositories to whoever has a token. What it serves is checked like
the data of a file, part by part.
-/
namespace IssueWatch.Tracker

/-- An issue as the tracker serves it. Its values may be of any type. -/
structure Entry where
  number : Json
  title : Json
  url : Json
  state : Json
  isPullRequest : Bool
  labels : List Json
  milestone : Option Json
  assignee : Option (Json × Json)

/-- The repositories of the tracker, each with its entries. -/
structure Service where
  repositories : List (String × List Entry) := []

/-- The reason for which no issues are fetched. -/
inductive FetchError where
  | noToken
  | unknownRepository (path : String)
  | invalid (record : String) (mismatches : List Json.Mismatch)

open Json

/-- Names the record that mismatches were found in. -/
def inRecord {α : Type} (record : String) (checked : Checked α) : Except FetchError α :=
  match checked with
  | .ok value => .ok value
  | .error mismatches => .error (.invalid record mismatches)

/-- Reads a value as the field of a record. -/
def asField {α : Type} (key : String) (reader : Json → Checked α) (value : Json) : Checked α :=
  (reader value).within (.key key)

namespace Entry

/-- The name of a label. -/
def label (name : Json) : Except FetchError String :=
  inRecord "GitHubLabel" (asField "name" readText name)

/-- The milestone of an entry. -/
def milestoneTitle? (entry : Entry) : Except FetchError (Option String) :=
  match entry.milestone with
  | none => .ok none
  | some title => (inRecord "GitHubMilestone" (asField "title" readText title)).map some

/-- The assignee of an entry. -/
def account? (entry : Entry) : Except FetchError (Option Account) :=
  match entry.assignee with
  | none => .ok none
  | some (login, url) =>
    (inRecord "GitHubUser" (Checked.of Account.mk
      |>.apply (asField "login" readText login)
      |>.apply (asField "html_url" readText url))).map some

/-- The issue of an entry. Labels, milestone and assignee are read before it. -/
def issue (entry : Entry) : Except FetchError Issue := do
  let labels ← entry.labels.mapM label
  let milestone ← entry.milestoneTitle?
  let assignee ← entry.account?
  inRecord "GitHubIssue" (Checked.of (fun number title url state =>
      ({ number, title, url, state, isPullRequest := entry.isPullRequest, labels, milestone,
         assignee } : Issue))
    |>.apply (asField "number" readInteger entry.number)
    |>.apply (asField "title" readText entry.title)
    |>.apply (asField "html_url" readText entry.url)
    |>.apply (asField "state" readText entry.state))

/-- Whether an entry is served for a state; all entries are for the word `all`. -/
def hasState (state : String) (entry : Entry) : Bool :=
  state == "all" ||
    match entry.state with
    | .string value => value == state
    | _ => false

end Entry

/-- The token to use: the given one, or else the one of the environment. It must not be empty. -/
def token (given : Option String) (environment : Environment) : Except FetchError String :=
  match (Environment.filled given).or (Environment.filled (environment.get? "GITHUB_TOKEN")) with
  | some token => .ok token
  | none => .error .noToken

def Service.entries (service : Service) (repository : Repository) : Except FetchError (List Entry) :=
  match service.repositories.find? fun served => served.1 = repository.path with
  | some (_, entries) => .ok entries
  | none => .error (.unknownRepository repository.path)

/-- Reads entries up to the first that is invalid. The answer holds how many were read before it. -/
def readEntries : List Entry → Nat × Except FetchError (List Issue)
  | [] => (0, .ok [])
  | entry :: rest =>
    match entry.issue with
    | .error error => (0, .error error)
    | .ok issue =>
      let (count, issues) := readEntries rest
      (count + 1, issues.map (issue :: ·))

/-- The messages about progress, one for every hundred issues. -/
def progress (count : Nat) : List String :=
  (List.range (count / 100)).map fun index => "Fetched " ++ toString (100 * (index + 1)) ++ " issues..."

/-- Issues in the order of their numbers. -/
def inOrder (issues : List Issue) : List Issue :=
  issues.mergeSort fun first second => decide (first.number ≤ second.number)

/-- Fetches the issues of a repository that have a state, in the order of their numbers. The answer
holds the messages that were shown on the way as well. -/
def fetch (service : Service) (repository : Repository) (state : String) :
    List String × Except FetchError (List Issue) :=
  match service.entries repository with
  | .error error => ([], .error error)
  | .ok entries =>
    let (count, issues) := readEntries (entries.filter (Entry.hasState state))
    (progress count, issues.map inOrder)

end IssueWatch.Tracker
