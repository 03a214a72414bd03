import IssueWatch.Action
import IssueWatch.Config
import IssueWatch.Query.Meaning
import IssueWatch.Report

/-!
# Alerts between two snapshots

What changed for an alert, and how its users are told.
-/
namespace IssueWatch.Alert

/-!
## Changes of alerts

What changed between two collections in the issues that an alert selects, and the message about it.
Issues are compared by their numbers alone.
-/

/-- What changed for an alert. The message about it may hold part of a torn string. -/
structure Change where
  alert : Alert
  left : List Issue
  entered : List Issue
  unknown : List UnknownName
  isTorn : Bool := false

/-- The issues of a list whose numbers do not occur in another list. -/
def missingFrom (others issues : List Issue) : List Issue :=
  issues.filter fun issue => !others.any (·.number == issue.number)

/-- The change of an alert from one collection to another. Names are checked against the later one. -/
def change (alert : Alert) (start finish : Collection) : Change :=
  let before := alert.query.select start.issues
  let after := alert.query.select finish.issues
  { alert
    left := missingFrom after before
    entered := missingFrom before after
    unknown := alert.query.unknownNames finish }

namespace Change

def isChange (change : Change) : Bool :=
  !change.left.isEmpty || !change.entered.isEmpty

def subject (change : Change) : String :=
  "[gh-report] Alert: " ++ change.alert.name

def issueLines (heading : String) (issues : List Issue) : List String :=
  if issues.isEmpty then []
  else
    ["<h3>" ++ heading ++ " (" ++ toString issues.length ++ ")</h3>", Html.issueTable issues]

def body (change : Change) (repository : Repository) : String :=
  Text.joinLines (
    ["<html>", "<head>", Html.pageStyle, "</head>", "<body>",
      "<h2>Alert: " ++ Html.escape change.alert.name ++ "</h2>",
      "<p>Query: <code>" ++ Html.escape change.alert.queryText ++ "</code></p>"] ++
    (match Report.searchLink? repository change.alert.query with
      | some url => ["<p>" ++ Html.link url "View current results on GitHub" ++ "</p>"]
      | none => []) ++
    issueLines "New issues matching the query" change.entered ++
    issueLines "Issues no longer matching the query" change.left ++
    ["</body></html>"])

/-- Marks a change if part of a torn string is in the message about it: in its link, or in a table of issues that are
torn in their snapshot. -/
def markTears (change : Change) (start finish : Tears) (repository : Repository) : Change :=
  { change with isTorn :=
      (finish.inRepository && (Report.searchLink? repository change.alert.query).isSome) ||
        change.left.any start.issues.contains || change.entered.any finish.issues.contains }

end Change

/-!
## Notices about changes

How the changes of alerts are summed up on the screen and mailed to the users of the alerts. A message
goes out for every change, in order. One that the server does not take keeps no other from being sent;
one that cannot be sent whatever the server says stops everything.
-/

open Console (Entry)

def warningLine (unknown : UnknownName) : Entry :=
  .line ("[yellow]WARNING: " ++ Console.escape unknown.message ++ "[/yellow]")

namespace Change

def userLine (user : User) : Entry :=
  .line ("        " ++ user.name ++ " - " ++ user.emailAddress)

def issueLine (issue : Issue) : Entry :=
  .line ("    #" ++ toString issue.number ++ " - " ++ Console.escape issue.title)

def issueEntries (heading : String) (issues : List Issue) : List Entry :=
  if issues.isEmpty then [] else .line heading :: issues.map issueLine

def indentedWarning (unknown : UnknownName) : Entry :=
  .line ("  [yellow]WARNING: " ++ Console.escape unknown.message ++ "[/yellow]")

def summary (change : Change) : List Entry :=
  [.line ("[bold]Alert " ++ Console.escape change.alert.name ++ "[/bold]"), .line "    Owners:"] ++
    change.alert.owners.map userLine ++ [.line "    CC:"] ++ change.alert.copies.map userLine ++
    change.unknown.map indentedWarning ++
    issueEntries "  only start:" change.left ++ issueEntries "  only end:" change.entered

def message (change : Change) (repository : Repository) : Mail.Message where
  recipients := change.alert.owners.map User.emailAddress
  copies := change.alert.copies.map User.emailAddress
  subject := change.subject
  body := change.body repository
  isTorn := change.isTorn

end Change

def summary (changes : List Change) : List Entry :=
  changes.flatMap Change.summary

/-- Mails a message for every change. The answer names the alerts whose message failed. -/
def mailAll (server : Mail.Server) (settings : Mail.Settings) (sender : String)
    (repository : Repository) : List Change → Action (List String)
  | [] => pure []
  | change :: rest => do
    if change.isChange then
      let name := Console.escape change.alert.name
      match ← Action.send server settings sender (change.message repository) with
      | none =>
        Action.say ("📧 Sent alert '" ++ name ++ "'")
        mailAll server settings sender repository rest
      | some (.refused text) | some (.rejected text) =>
        Action.say ("❌ Failed to send alert '" ++ name ++ "': " ++ text)
        return change.alert.name :: (← mailAll server settings sender repository rest)
      | some (.unsendable fault) => throw (.unsendable fault)
    else mailAll server settings sender repository rest

end IssueWatch.Alert
