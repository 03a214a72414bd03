import IssueWatch.Command
import IssueWatch.Proofs.Command.Loading
import IssueWatch.Proofs.Query.Trimming

/-!
# The commands on one snapshot agree

A query on the command line and a file with a single query come to the same findings: the same warnings,
issues, number of issues, canonical text and link.  The commands differ only in how they lay the findings
out.  The text of the file is trimmed first, which makes no difference to a query.
-/
namespace IssueWatch

/-- What a query finds in a collection, before any of it is laid out. -/
structure Finding where
  unknown : List UnknownName
  issues : List Issue
  count : Nat
  canonical : String
  link? : Option String

namespace Finding

def ofQuery (repository : Repository) (collection : Collection) (query : Expr) : Finding where
  unknown := query.unknownNames collection
  issues := query.select collection.issues
  count := (query.select collection.issues).length
  canonical := query.format
  link? := repository.queryUrl? query

/-- Findings as the command on a query prints them. -/
def entries (finding : Finding) : List Console.Entry :=
  finding.unknown.map Alert.warningLine ++ [
    .table (Console.escape finding.canonical) ["Issue #", "Title", "Assigned To", "Milestone"]
      (finding.issues.map Command.issueCells),
    .line ("Count: " ++ toString finding.count),
    Command.linkLine finding.link?]

/-- Findings as a report with nothing else shows them under a name. -/
def page (finding : Finding) (name : String) : String :=
  Text.joinLines ["<html>", "<head>", Html.pageStyle, "</head>", "<body>",
    Text.joinLines [
      "<h2>Query: " ++ Html.escape name ++ "</h2>",
      "<p>" ++ Html.escape finding.canonical ++ "</p>",
      "Count: " ++ Report.countText finding.link? finding.count ++ "<br/>",
      Html.issueTable finding.issues],
    "</body></html>"]

/-- Writes the report of findings and prints their warnings. The page may hold part of a torn string. -/
def report (finding : Finding) (name : String) (output : Path) (hasTear : Bool) : Action Unit := do
  Command.writePage output (finding.page name) hasTear
  Action.printAll (finding.unknown.map Alert.warningLine)
  Action.say ("✅ Wrote 1 queries to " ++ output.text)

theorem entries_ofQuery (repository : Repository) (collection : Collection) (query : Expr) :
    (ofQuery repository collection query).entries = Command.answer repository collection query :=
  rfl

theorem page_ofQuery {repository : Repository} (org : repository.org ≠ "")
    (repo : repository.repo ≠ "") (collection : Collection) (named : NamedQuery) :
    (ofQuery repository collection named.query).page named.name =
      Report.page repository collection [named] := by
  have linked : Report.searchLink? repository named.query = repository.queryUrl? named.query := by
    rw [Report.searchLink?, if_neg (not_or.mpr ⟨org, repo⟩)]
  rw [Report.page, List.map_singleton, Report.querySection, linked]
  rfl

end Finding

namespace NamedQuery

theorem load_of_single {workspace : Workspace} {file : Path} {root element : Xml.Element}
    (configured : readConfig workspace file = .ok root) (single : root.named "query" = [element]) :
    load workspace file = ((ofElement element).map fun named => [named]).mapError .rejected := by
  rw [load, configured]
  change (ofDocument root).mapError ConfigFailure.rejected = _
  rw [ofDocument, single, List.mapM_cons]
  cases ofElement element <;> rfl

theorem ofElement_of_ok {element : Xml.Element} {query : Expr}
    (read : Expr.parse element.text = .ok query) :
    ∃ named, ofElement element = .ok named ∧ named.query = query := by
  have trimmedRead := (Expr.parse_trim_eq_ok_iff element.text query).mpr read
  rw [ofElement]
  simp only [trimmedRead]
  exact ⟨_, rfl, rfl⟩

theorem ofElement_of_error {element : Xml.Element} {error : SyntaxError}
    (rejected : Expr.parse element.text = .error error) :
    ∃ error, ofElement element = .error error := by
  rw [ofElement]
  cases trimmedRead : Expr.parse (Text.trim element.text) with
  | error trimmedError => exact ⟨_, rfl⟩
  | ok query =>
      rw [(Expr.parse_trim_eq_ok_iff element.text query).mp trimmedRead] at rejected
      cases rejected

end NamedQuery

namespace Command

/-- The command on a query gives up because its text is no query. -/
def RejectsText (world : World) (snapshotFile : Path) (text kindText : String) : Prop :=
  ∃ error, Expr.parse text = .error error ∧
    (query snapshotFile text kindText).perform world =
      Action.perform (do Action.printAll (syntaxErrorLines text error); throw (.exit 1)) world

/-- The report command gives up because of its file of queries. -/
def RejectsFile (world : World) (snapshotFile queriesFile output : Path) (kindText : String) : Prop :=
  ∃ error, NamedQuery.load world.workspace queriesFile = .error (.rejected error) ∧
    (report snapshotFile queriesFile output kindText).perform world =
      Action.perform
        (Action.giveUp ("❌ Invalid configuration: " ++ Console.escape error.message)) world

section

variable {world : World} {snapshotFile queriesFile output : Path} {kindText text : String}
  {snapshot : Snapshot} {collection : Collection}

theorem perform_query_of_error (loads : Loads world.workspace snapshotFile kindText snapshot collection)
    {error : SyntaxError} (rejected : Expr.parse text = .error error) :
    (query snapshotFile text kindText).perform world =
      Action.perform (do Action.printAll (syntaxErrorLines text error); throw (.exit 1)) world := by
  rw [query, Action.perform_bind_ok loads.perform_eq]
  simp only [rejected]

theorem perform_query_of_ok (loads : Loads world.workspace snapshotFile kindText snapshot collection)
    {expression : Expr} (read : Expr.parse text = .ok expression) :
    (query snapshotFile text kindText).perform world =
      Action.perform (Action.printAll
        (Finding.ofQuery ⟨snapshot.org, snapshot.repo⟩ collection expression).entries) world := by
  rw [query, Action.perform_bind_ok loads.perform_eq]
  simp only [read, Finding.entries_ofQuery]

theorem perform_report_of_error (loads : Loads world.workspace snapshotFile kindText snapshot collection)
    {error : ConfigError}
    (rejected : NamedQuery.load world.workspace queriesFile = .error (.rejected error)) :
    (report snapshotFile queriesFile output kindText).perform world =
      Action.perform
        (Action.giveUp ("❌ Invalid configuration: " ++ Console.escape error.message)) world := by
  rw [report, Action.perform_bind_ok loads.perform_eq]
  simp only [Action.perform_bind_ok (Action.perform_get world), rejected]

theorem perform_report_of_single
    (loads : Loads world.workspace snapshotFile kindText snapshot collection)
    (org : snapshot.org ≠ "") (repo : snapshot.repo ≠ "") {named : NamedQuery}
    (single : NamedQuery.load world.workspace queriesFile = .ok [named]) :
    (report snapshotFile queriesFile output kindText).perform world =
      Action.perform ((Finding.ofQuery ⟨snapshot.org, snapshot.repo⟩ collection named.query).report
        named.name output (Report.hasTear snapshot.tears ⟨snapshot.org, snapshot.repo⟩ collection named.query))
        world := by
  rw [report, Action.perform_bind_ok loads.perform_eq]
  simp only [Action.perform_bind_ok (Action.perform_get world), single]
  rw [Finding.report, Finding.page_ofQuery org repo]
  have warnings : Report.warnings collection [named] = named.query.unknownNames collection := by
    simp [Report.warnings]
  have wrote : "✅ Wrote " ++ toString [named].length ++ " queries to " = "✅ Wrote 1 queries to " := by
    rw [List.length_singleton]
    decide
  rw [warnings, wrote, Finding.ofQuery, List.any_cons, List.any_nil, Bool.or_false]

end

/-- A text given to the command on a query and a file with this text as its only query are rejected together;
otherwise both commands show the same findings, each in its own layout. -/
theorem findings_agree {world : World} {snapshotFile queriesFile output : Path} {kindText : String}
    {kind : Kind} {snapshot : Snapshot} {root element : Xml.Element}
    (loaded : Snapshot.load world.workspace snapshotFile = .ok snapshot)
    (distinct : (snapshot.issues.map Issue.number).Nodup)
    (org : snapshot.org ≠ "") (repo : snapshot.repo ≠ "")
    (valid : Kind.ofText? kindText = some kind)
    (configured : readConfig world.workspace queriesFile = .ok root)
    (single : root.named "query" = [element]) :
    (RejectsText world snapshotFile element.text kindText ↔
      RejectsFile world snapshotFile queriesFile output kindText) ∧
    ∀ expression, Expr.parse element.text = .ok expression →
      ∃ (collection : Collection) (finding : Finding) (name : String),
        collection.issues = kind.select snapshot.issues ∧
        finding = .ofQuery ⟨snapshot.org, snapshot.repo⟩ collection expression ∧
        (query snapshotFile element.text kindText).perform world =
          (Action.printAll finding.entries).perform world ∧
        (report snapshotFile queriesFile output kindText).perform world =
          (finding.report name output
            (Report.hasTear snapshot.tears ⟨snapshot.org, snapshot.repo⟩ collection expression)).perform world := by
  have chosen : ((kind.select snapshot.issues).map Issue.number).Nodup :=
    distinct.sublist (List.filter_sublist.map _)
  let collection : Collection := ⟨kind.select snapshot.issues, chosen⟩
  have loads : Loads world.workspace snapshotFile kindText snapshot collection := by
    refine ⟨loaded, kind, valid, ?_⟩
    rw [Snapshot.collection, Collection.ofIssues, dif_pos chosen]
  have fileRead := NamedQuery.load_of_single configured single
  have accepted {expression : Expr} (read : Expr.parse element.text = .ok expression) :
      ∃ named : NamedQuery, NamedQuery.load world.workspace queriesFile = .ok [named] ∧
        named.query = expression := by
    obtain ⟨named, elementRead, rfl⟩ := NamedQuery.ofElement_of_ok read
    rw [elementRead] at fileRead
    exact ⟨named, fileRead, rfl⟩
  refine ⟨⟨?_, ?_⟩, ?_⟩
  · rintro ⟨error, rejected, _⟩
    obtain ⟨configError, elementRejected⟩ := NamedQuery.ofElement_of_error rejected
    rw [elementRejected] at fileRead
    exact ⟨configError, fileRead, perform_report_of_error loads fileRead⟩
  · rintro ⟨configError, fileRejected, _⟩
    cases read : Expr.parse element.text with
    | error error => exact ⟨error, read, perform_query_of_error loads read⟩
    | ok expression =>
        obtain ⟨named, fileAccepted, _⟩ := accepted read
        rw [fileAccepted] at fileRejected
        cases fileRejected
  · intro expression read
    obtain ⟨named, fileAccepted, rfl⟩ := accepted read
    exact ⟨collection, _, named.name, rfl, rfl, perform_query_of_ok loads read,
      perform_report_of_single loads org repo fileAccepted⟩

/-- A folder with a snapshot of a single issue, and with a single query that has blanks of several kinds
around it. -/
def filesWithQuery : Workspace where
  files := [
    (["s.json"], "\x7b\"org\":\"o\",\"repo\":\"r\",\"issues\":[\x7b\"number\":3,\"title\":\"T\"," ++
      "\"html_url\":\"u\",\"state\":\"open\",\"labels\":[\x7b\"name\":\"bug\"\x7d]\x7d]\x7d"),
    (["q.xml"], "<c><query>\u3000label:\"bug \" or\tis:open\n</query></c>")]

theorem load_filesWithQuery :
    Snapshot.load filesWithQuery (.ofText "s.json") =
      .ok ⟨"o", "r", [⟨3, "T", "u", "open", false, ["bug"], none, none⟩], [], {}⟩ := by
  rfl

theorem readConfig_filesWithQuery :
    readConfig filesWithQuery (.ofText "q.xml") =
      .ok ⟨⟨none, "c"⟩, [], "",
        [⟨⟨none, "query"⟩, [], "\u3000label:\"bug \" or\tis:open\n", []⟩]⟩ := by
  rfl

/-- Blanks that only trimming takes away, a quoted name with a blank at its end and a keyword in small letters
make no difference. -/
theorem findings_agree_between_blanks :
    let text := "\u3000label:\"bug \" or\tis:open\n"
    ∃ (finding : Finding) (name : String),
      finding.unknown = [.label "bug "] ∧ finding.count = 1 ∧
      finding.canonical = "label:\"bug \" OR is:open" ∧ finding.link? = none ∧
      (query (.ofText "s.json") text "issue").perform ⟨filesWithQuery, [], []⟩ =
        (Action.printAll finding.entries).perform ⟨filesWithQuery, [], []⟩ ∧
      (report (.ofText "s.json") (.ofText "q.xml") (.ofText "out.html") "issue").perform
          ⟨filesWithQuery, [], []⟩ =
        (finding.report name (.ofText "out.html") false).perform ⟨filesWithQuery, [], []⟩ := by
  intro text
  have read : Expr.parse text = .ok (.or [.leaf (.label "bug "), .leaf .isOpen]) := by
    decide +kernel
  obtain ⟨collection, finding, name, issues, rfl, queried, reported⟩ :=
    (@findings_agree ⟨filesWithQuery, [], []⟩ (.ofText "s.json") (.ofText "q.xml") (.ofText "out.html")
      "issue" .issue _ _ _ load_filesWithQuery (by decide) (by decide) (by decide) rfl
      readConfig_filesWithQuery rfl).2 _ read
  have collectionEq : collection = ⟨[⟨3, "T", "u", "open", false, ["bug"], none, none⟩], by decide⟩ := by
    cases collection
    cases issues
    rfl
  subst collectionEq
  exact ⟨_, name, by decide +kernel, by decide +kernel, by decide +kernel, rfl, queried, reported⟩

end Command
end IssueWatch
