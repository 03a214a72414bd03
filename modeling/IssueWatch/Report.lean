import IssueWatch.Config
import IssueWatch.Issue
import IssueWatch.Link
import IssueWatch.Query.Meaning
import IssueWatch.Snapshot
import IssueWatch.Text.Lines

/-!
# Reports in HTML

How issues and texts are shown in HTML, and the page that reports the issues of named queries.
-/
namespace IssueWatch.Html

/-!
## Text in HTML

How a text is written inside an HTML page. The characters that could start or end a tag, an attribute
or an entity are written as entities.
-/

def escapeChar (c : Char) : List Char :=
  match c with
  | '&' => "&amp;".toList
  | '<' => "&lt;".toList
  | '>' => "&gt;".toList
  | '"' => "&quot;".toList
  | '\'' => "&#x27;".toList
  | _ => [c]

def escape (text : String) : String :=
  String.ofList (text.toList.flatMap escapeChar)

/-- A link with a text that is written as it stands. -/
def link (url text : String) : String :=
  "<a href=\"" ++ escape url ++ "\">" ++ text ++ "</a>"

/-!
## Tables of issues

The HTML table that lists issues with their titles, labels, assignees and milestones.
-/

def pageStyle : String :=
  Text.joinLines [
    "<style>",
    "    table \x7b border: 1px solid black; \x7d",
    "    table td, table th \x7b border: 1px solid black; padding: 2px 6px; \x7d",
    "    div.labels \x7b color: #808080; font-style: italic; margin-left: 1cm; \x7d",
    "</style>"]

def issueLink (issue : Issue) : String :=
  link issue.url ("#" ++ toString issue.number)

/-- The assignee of an issue, with a link to the profile if its address is known. -/
def assigneeCell : Option Account → String
  | none => "&nbsp;"
  | some account =>
    let login := "@" ++ escape account.login
    if account.profileUrl = "" then login else link account.profileUrl login

/-- The line with the labels of an issue, if it has any. -/
def labelLines (labels : List String) : List String :=
  if labels.isEmpty then []
  else
    ["      <br/><div class=\"labels\">Labels: " ++ Text.join ", " (labels.map escape) ++ "</div>"]

def issueRow (issue : Issue) : List String :=
  ["  <tr>",
    "    <td>" ++ issueLink issue ++ "</td>",
    "    <td>",
    "      " ++ escape issue.title] ++ labelLines issue.labels ++
  ["    </td>",
    "    <td>" ++ assigneeCell issue.assignee ++ "</td>",
    "    <td>" ++ escape (issue.milestone.getD "") ++ "</td>",
    "  </tr>"]

def issueTable (issues : List Issue) : String :=
  Text.joinLines ([
    "<table border=\"1\">",
    "  <tr>",
    "    <th>Issue #</th>",
    "    <th>Title</th>",
    "    <th>Assigned To</th>",
    "    <th>Milestone</th>",
    "  </tr>"] ++ issues.flatMap issueRow ++ ["</table>"])

end IssueWatch.Html

/-!
## Query reports

A page with one section for each named query: its canonical text, how many issues it selects, with a
link to the same search if there is one, and their table.
-/
namespace IssueWatch.Report

/-- The link to the issues of a query. There is none without the names of organization and repository,
or if a search cannot express the query. -/
def searchLink? (repository : Repository) (query : Expr) : Option String :=
  if repository.org = "" ∨ repository.repo = "" then none else repository.queryUrl? query

/-- The number of issues that a query selects, with a link to them if there is one. -/
def countText (link? : Option String) (count : Nat) : String :=
  match link? with
  | some url => Html.link url (toString count)
  | none => toString count

/-- The section of a named query. -/
def querySection (repository : Repository) (collection : Collection) (named : NamedQuery) : String :=
  let issues := named.query.select collection.issues
  Text.joinLines [
    "<h2>Query: " ++ Html.escape named.name ++ "</h2>",
    "<p>" ++ Html.escape named.query.format ++ "</p>",
    "Count: " ++ countText (searchLink? repository named.query) issues.length ++ "<br/>",
    Html.issueTable issues]

def page (repository : Repository) (collection : Collection) (queries : List NamedQuery) : String :=
  Text.joinLines (["<html>", "<head>", Html.pageStyle, "</head>", "<body>"] ++
    queries.map (querySection repository collection) ++ ["</body></html>"])

/-- Whether part of a torn string is in the section of a query: in its link, or in its table. -/
def hasTear (tears : Tears) (repository : Repository) (collection : Collection) (query : Expr) : Bool :=
  (tears.inRepository && (searchLink? repository query).isSome) ||
    (query.select collection.issues).any tears.issues.contains

/-- The names in the queries that no issue carries, query by query. -/
def warnings (collection : Collection) (queries : List NamedQuery) : List UnknownName :=
  queries.flatMap fun named => named.query.unknownNames collection

end IssueWatch.Report
