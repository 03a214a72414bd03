import IssueWatch.Action
import IssueWatch.Alert
import IssueWatch.Archive
import IssueWatch.Config
import IssueWatch.Json.Schema
import IssueWatch.Report
import IssueWatch.Text.Lines
import IssueWatch.Tracker

/-!
# Commands

What each command does with its arguments, as an action.
-/
namespace IssueWatch

/-!
## Loading snapshots for commands

Commands give up with a message when a snapshot cannot be loaded or a kind of entries is unknown.
-/

/-- The text of an error, given the complaint of the reader. -/
def Json.ReadError.message (complaint : String) : Json.ReadError → String
  | .malformed => complaint
  | .tooManyDigits count => (Text.IntegerFault.tooLong count).message

def Snapshot.LoadError.message (complaints : Complaints) : Snapshot.LoadError → String
  | .file error => error.message
  | .text error written => error.message (complaints.json written)
  | .mismatch mismatches => Json.report "IssueSnapshot" mismatches

namespace Command

/-- Stores a snapshot of some issues and says where. -/
def store (archive : Archive) (org repo : String) (issues : List Issue) (time : Timestamp)
    (metadata : Json.Fields) : Action Path := do
  let snapshot := Archive.stamped (org, repo) issues time metadata
  Action.change fun workspace => archive.store workspace snapshot time
  let path := archive.filePath time
  Action.say ("Saved " ++ toString issues.length ++ " issues to " ++ path.text)
  return path

/-- Loads a snapshot and the collection of its entries of a kind. -/
def loadSnapshot (path : Path) (kindText : String) : Action (Snapshot × Collection) := do
  match Kind.ofText? kindText with
  | none => Action.giveUp ("❌ Error: invalid kind '" ++ kindText ++ "'")
  | some kind =>
    let workspace := (← get).workspace
    match Snapshot.load workspace path with
    | .error error =>
      Action.giveUp
        ("❌ Error loading snapshot " ++ path.text ++ ": " ++ error.message workspace.complaints)
    | .ok snapshot =>
      match snapshot.collection kind with
      | .error error => throw (.duplicateNumber error)
      | .ok collection => return (snapshot, collection)

end Command
end IssueWatch

/-!
## Commands on one snapshot

One command lists the issues that a query selects; another one writes the report of a file of named
queries. Both check the kind of entries and the snapshot before anything else.
-/
namespace IssueWatch.Command

open Console (Entry)

/-- The lines about a query that cannot be read: the error, the line that holds it, and a mark below
the place. -/
def syntaxErrorLines (text : String) (error : SyntaxError) : List Entry :=
  let chars := text.toList
  let column := Text.column chars error.position
  [.line ("❌ Invalid query: " ++ Console.escape error.fault.message ++ " (line " ++
      toString (Text.lineNumber chars error.position) ++ ", column " ++ toString (column + 1) ++ ")"),
    .line ("   " ++ Console.escape (String.ofList (Text.lineAt chars error.position))),
    .line ("   " ++ String.ofList (List.replicate column ' ') ++ "^")]

def assigneeCell (issue : Issue) : String :=
  match Environment.filled issue.assigneeLogin with
  | some login => "@" ++ login
  | none => ""

def issueCells (issue : Issue) : List String :=
  ["#" ++ toString issue.number, Console.escape issue.title, assigneeCell issue,
    Console.escape (issue.milestone.getD "")]

def resultTable (query : Expr) (issues : List Issue) : Entry :=
  .table (Console.escape query.format) ["Issue #", "Title", "Assigned To", "Milestone"]
    (issues.map issueCells)

def linkLine : Option String → Entry
  | some url => .line ("View on GitHub: " ++ url)
  | none => .line "[dim]Query cannot be expressed as a GitHub search[/dim]"

/-- What is printed for a query: warnings, table, count and link. -/
def answer (repository : Repository) (collection : Collection) (query : Expr) : List Entry :=
  let issues := query.select collection.issues
  (query.unknownNames collection).map Alert.warningLine ++
    [resultTable query issues, .line ("Count: " ++ toString issues.length),
      linkLine (repository.queryUrl? query)]

def query (snapshotFile : Path) (text kind : String) : Action Unit := do
  let (snapshot, collection) ← loadSnapshot snapshotFile kind
  match Expr.parse text with
  | .error error =>
    Action.printAll (syntaxErrorLines text error)
    throw (.exit 1)
  | .ok expression =>
    Action.printAll (answer ⟨snapshot.org, snapshot.repo⟩ collection expression)

/-- Writes a page. A torn string cannot be written, but that shows only after the file was emptied. -/
def writePage (output : Path) (page : String) (hasTear : Bool) : Action Unit := do
  if hasTear then
    Action.change fun workspace => workspace.write output ""
    throw .tornText
  else Action.change fun workspace => workspace.write output page

def report (snapshotFile queriesFile output : Path) (kind : String) : Action Unit := do
  let (snapshot, collection) ← loadSnapshot snapshotFile kind
  match NamedQuery.load (← get).workspace queriesFile with
  | .error (.escaped fault) => throw (.config fault)
  | .error (.rejected error) =>
    Action.giveUp ("❌ Invalid configuration: " ++ Console.escape error.message)
  | .ok queries =>
    let repository : Repository := ⟨snapshot.org, snapshot.repo⟩
    writePage output (Report.page repository collection queries)
      (queries.any fun named => Report.hasTear snapshot.tears repository collection named.query)
    Action.printAll ((Report.warnings collection queries).map Alert.warningLine)
    Action.say ("✅ Wrote " ++ toString queries.length ++ " queries to " ++ output.text)

end IssueWatch.Command

/-!
## The command on two snapshots

It sums up what changed for every alert of a file, and mails the changes unless it is told not to. The
file of alerts is read before the snapshots.
-/
namespace IssueWatch.Command

/-- The lines about a configuration file that cannot be used. The error that led to this one has a line of its
own. -/
def configErrorLines (error : ConfigError) : List Console.Entry :=
  .line ("❌ Invalid configuration: " ++ Console.escape error.message) ::
    match error.cause? with
    | some cause => [.line ("   " ++ Console.escape cause)]
    | none => []

def mailSettings (environment : Environment) :
    Except Mail.SettingsError (Mail.Settings × String) := do
  let settings ← Mail.Settings.ofEnvironment environment
  return (settings, ← settings.requireSender)

/-- Sums up changes and mails them, unless there are none or nothing shall be mailed. -/
def notify (environment : Environment) (server : Mail.Server) (dryRun : Bool)
    (repository : Repository) (changes : List Alert.Change) : Action Unit := do
  Action.printAll (Alert.summary changes)
  let changed := (changes.filter Alert.Change.isChange).length
  Action.say (toString changed ++ " of " ++ toString changes.length ++ " alerts changed")
  if dryRun || changed == 0 then return
  match mailSettings environment with
  | .error error => Action.giveUp ("❌ Error: " ++ error.message)
  | .ok (settings, sender) =>
    let failed ← Alert.mailAll server settings sender repository changes
    if failed.isEmpty then return else throw (.exit 1)

/-- Sums up the changes of alerts between two snapshots and mails them. -/
def alerts (environment : Environment) (server : Mail.Server) (startFile endFile alertsFile : Path)
    (dryRun : Bool) (kind : String) : Action Unit := do
  match Alert.load (← get).workspace alertsFile with
  | .error (.escaped fault) => throw (.config fault)
  | .error (.rejected error) =>
    Action.printAll (configErrorLines error)
    throw (.exit 1)
  | .ok alerts =>
    let (first, start) ← loadSnapshot startFile kind
    let (second, finish) ← loadSnapshot endFile kind
    let repository : Repository := ⟨second.org, second.repo⟩
    notify environment server dryRun repository
      (alerts.map fun alert => (alert.change start finish).markTears first.tears second.tears repository)

end IssueWatch.Command

/-!
## The command that takes snapshots

It fetches the issues of a repository and stores them in an archive.
-/
namespace IssueWatch

def Tracker.FetchError.message : Tracker.FetchError → String
  | .noToken => "GitHub token is required. Set GITHUB_TOKEN environment variable."
  | .unknownRepository path => "Repository " ++ path ++ " not found"
  | .invalid record mismatches => Json.report record mismatches

namespace Command

/-- Fetches issues with a token. The messages of the tracker are printed on the way. -/
def fetchIssues (environment : Environment) (service : Tracker.Service) (given : Option String)
    (repository : Repository) (state : String) : Action (Except Tracker.FetchError (List Issue)) := do
  match Tracker.token given environment with
  | .error error => return .error error
  | .ok _ =>
    let (messages, issues) := Tracker.fetch service repository state
    Action.printAll (messages.map .line)
    return issues

/-- The full name of a path, given that of the working folder. -/
def fullName (home : String) (path : Path) : String :=
  if path.start ≠ .working then path.text
  else if path.steps.isEmpty then home
  else home ++ "/" ++ path.text

def storageTable (home : String) (archive : Archive) (file : Path) (count : Nat)
    (workspace : Workspace) : Console.Entry :=
  let statistics := archive.statistics workspace
  .table "Snapshot Storage" ["Metric", "Value"] [
    ["Snapshot", file.name],
    ["Issues", toString count],
    ["Total Snapshots", toString statistics.count],
    ["Storage Size", statistics.sizeText ++ " MB"],
    ["Storage Path", fullName home archive.folder]]

/-- Takes a snapshot of the issues of a repository that have a state. -/
def cache (environment : Environment) (service : Tracker.Service) (now : Timestamp) (home : String)
    (repository : Repository) (state : String) (given : Option String) (folder : Path) :
    Action Unit := do
  if state ∉ ["open", "closed", "all"] then
    Action.giveUp ("❌ Error: invalid state '" ++ state ++ "'")
  Action.say ("🔍 Caching " ++ state ++ " issues from " ++ repository.path)
  match ← fetchIssues environment service given repository state with
  | .error error => Action.giveUp ("❌ Error: " ++ error.message)
  | .ok issues =>
    let archive : Archive := ⟨folder⟩
    Action.change fun workspace => workspace.makeFolder folder
    let file ← store archive repository.org repository.repo issues now []
    Action.print (storageTable home archive file issues.length (← get).workspace)

end Command
end IssueWatch
