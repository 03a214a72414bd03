import IssueWatch.Proofs.Alert.Summary
import IssueWatch.Proofs.Command.Agreement
import IssueWatch.Proofs.Console.Verbatim
import IssueWatch.Proofs.Snapshot.Storing

/-!
# The table of a query

The command on a query lists the selected issues in a table, in the order of the snapshot and with their number
below it.  Titles and milestones are escaped, so that the table shows them as they are stored, and so is the canonical
text of the query above it.  Logins are not: one that holds a tag is cut, or it keeps the table from being shown.
-/
namespace IssueWatch

/-! ## The title -/

namespace Expr

open Console (IsLegible SurvivesEscape)

theorem survivesEscape_escapeQuotes {name : List Char} (legible : IsLegible name) :
    SurvivesEscape (Text.escapeQuotes name) := by
  induction name with
  | nil => exact Console.survivesEscape_nil
  | cons c rest induction =>
      obtain ⟨first, others⟩ := List.forall_mem_cons.mp legible
      have quote : SurvivesEscape ['\\', '"'] :=
        ⟨⟨by decide, by decide⟩, by simp [Console.isSilent]⟩
      rw [Text.escapeQuotes]
      split
      · rename_i special
        obtain rfl : c = '"' := special.resolve_right first.1
        exact quote.append (induction others)
      · have single : IsLegible [c] := List.forall_mem_singleton.mpr first
        exact single.survivesEscape.append (induction others)

theorem survivesEscape_formatName {name : List Char} (legible : IsLegible name) :
    SurvivesEscape (formatName name) := by
  have quote : IsLegible ['"'] := by decide
  rw [formatName]
  split
  · exact quote.survivesEscape.append
      ((survivesEscape_escapeQuotes legible).append quote.survivesEscape)
  · exact legible.survivesEscape

theorem survivesEscape_formatQualifier {qualifier : Qualifier}
    (legible : IsLegible qualifier.value.toList) : SurvivesEscape (formatQualifier qualifier) := by
  have keyLegible (key : Qualifier.Key) : IsLegible (key.text.toList ++ [':']) := by
    cases key <;> decide
  rw [formatQualifier, List.append_cons]
  refine (keyLegible _).survivesEscape.append ?_
  split
  · exact survivesEscape_formatName legible
  · exact legible.survivesEscape

theorem survivesEscape_wrap {text : List Char} (compound : Bool) (survives : SurvivesEscape text) :
    SurvivesEscape (wrap compound text) := by
  have opening : IsLegible ['('] := by decide
  have closing : IsLegible [')'] := by decide
  rw [wrap]
  split
  · exact opening.survivesEscape.append (survives.append closing.survivesEscape)
  · exact survives

theorem survivesEscape_formatJoined {separator : List Char} (separatorLegible : IsLegible separator)
    {children : List Expr} (each : ∀ child ∈ children, SurvivesEscape child.formatChars) :
    SurvivesEscape (formatJoined separator children) := by
  induction children with
  | nil => exact Console.survivesEscape_nil
  | cons child rest induction =>
      obtain ⟨first, others⟩ := List.forall_mem_cons.mp each
      rw [formatJoined]
      refine (survivesEscape_wrap _ first).append ?_
      by_cases isLast : rest.isEmpty = true
      · rw [if_pos isLast]
        exact Console.survivesEscape_nil
      · rw [if_neg isLast]
        exact separatorLegible.survivesEscape.append (induction others)

/-- In the canonical text of a query all backslashes stand in front of quotes if its names have none. -/
theorem survivesEscape_formatChars (expression : Expr)
    (names : ∀ qualifier ∈ expression.leaves, IsLegible qualifier.value.toList) :
    SurvivesEscape expression.formatChars := by
  induction expression using inductionOnChildren with
  | and children induction | or children induction =>
      rw [leaves, leavesOfList_eq_flatMap] at names
      refine survivesEscape_formatJoined (by decide) fun child member => ?_
      exact induction child member fun qualifier inChild =>
        names qualifier (List.mem_flatMap_of_mem member inChild)
  | not child induction =>
      have negation : IsLegible "NOT ".toList := by decide
      exact negation.survivesEscape.append (survivesEscape_wrap _ (induction names))
  | leaf qualifier => exact survivesEscape_formatQualifier (names qualifier List.mem_cons_self)

theorem resolve_escape_format {expression : Expr}
    (names : ∀ qualifier ∈ expression.leaves, IsLegible qualifier.value.toList) :
    Console.resolve (Console.escape expression.format) = .ok expression.format := by
  apply Console.resolve_escape
  rw [format, String.toList_ofList]
  exact survivesEscape_formatChars expression names

end Expr

namespace Command

open Console (IsLegible HoldsTag)

/-! ## The cells -/

/-- The login of the assignee behind an at sign, or nothing if there is none or it is empty. -/
def assigneeText (issue : Issue) : String :=
  let login := issue.assigneeLogin.getD ""
  if login = "" then "" else "@" ++ login

/-- A row of the table with a cell for the assignee, and the other cells as they are stored. -/
def rowWith (issue : Issue) (assignee : String) : List String :=
  ["#" ++ toString issue.number, issue.title, assignee, issue.milestone.getD ""]

/-- The row of an issue as it is stored. -/
def storedRow (issue : Issue) : List String :=
  rowWith issue (assigneeText issue)

/-- The row of an issue as it is shown: the tags of the login are resolved. -/
def shownRow (issue : Issue) : Except Console.MarkupError (List String) :=
  (Console.resolve (assigneeText issue)).map (rowWith issue)

/-- The title, the login and the milestone of an issue have neither backslashes nor characters that are never
printed. -/
structure HasLegibleTexts (issue : Issue) : Prop where
  title : IsLegible issue.title.toList
  login : IsLegible (issue.assigneeLogin.getD "").toList
  milestone : IsLegible (issue.milestone.getD "").toList

theorem assigneeCell_eq (issue : Issue) : assigneeCell issue = assigneeText issue := by
  rw [assigneeCell, assigneeText]
  cases issue.assigneeLogin with
  | none => rfl
  | some login =>
      by_cases empty : login = ""
      · rw [empty]
        rfl
      · have filled : Environment.filled (some login) = some login := by
          unfold Environment.filled
          split <;> simp_all
        simp [filled, empty]

theorem toList_assigneeText (issue : Issue) :
    (assigneeText issue).toList = [] ∧ issue.assigneeLogin.getD "" = "" ∨
      (assigneeText issue).toList = '@' :: (issue.assigneeLogin.getD "").toList := by
  simp only [assigneeText]
  split
  · rename_i empty
    exact .inl ⟨rfl, empty⟩
  · exact .inr (String.toList_append ..)

theorem resolve_assigneeText_iff {issue : Issue} (legible : HasLegibleTexts issue) :
    Console.resolve (assigneeText issue) = .ok (assigneeText issue) ↔
      ¬ HoldsTag (issue.assigneeLogin.getD "").toList := by
  obtain ⟨textEq, loginEq⟩ | textEq := toList_assigneeText issue
  · have empty : IsLegible (assigneeText issue).toList := by
      rw [textEq]
      exact nofun
    rw [Console.resolve_eq_self_iff empty, textEq, loginEq]
    rfl
  · have behindSign : IsLegible (assigneeText issue).toList := by
      rw [textEq]
      exact List.forall_mem_cons.mpr ⟨by decide, legible.login⟩
    have noTag : Console.tagAt? ('@' :: (issue.assigneeLogin.getD "").toList) = none :=
      Console.tagAt?_plain (by decide) (by decide) _
    rw [Console.resolve_eq_self_iff behindSign, textEq, Console.holdsTag_cons, noTag]
    simp

theorem mapM_issueCells {issue : Issue} (legible : HasLegibleTexts issue) :
    (issueCells issue).mapM Console.resolve = shownRow issue := by
  have title := Console.resolve_escape legible.title.survivesEscape
  have milestone := Console.resolve_escape legible.milestone.survivesEscape
  have number : Console.resolve ("#" ++ toString issue.number) = .ok ("#" ++ toString issue.number) :=
    Console.resolve_append_number (by decide) (by decide) issue.number
  rw [issueCells, assigneeCell_eq, shownRow]
  simp only [List.mapM_cons, List.mapM_nil, number, title, milestone]
  cases Console.resolve (assigneeText issue) <;> rfl

theorem mapM_rows {issues : List Issue} (legible : ∀ issue ∈ issues, HasLegibleTexts issue) :
    ((issues.map issueCells).mapM fun row => row.mapM Console.resolve) = issues.mapM shownRow := by
  induction issues with
  | nil => rfl
  | cons issue rest induction =>
      obtain ⟨first, others⟩ := List.forall_mem_cons.mp legible
      rw [List.map_cons, List.mapM_cons, List.mapM_cons, mapM_issueCells first, induction others]

/-- A row is shown as it is stored exactly if the login of its assignee holds no tag. -/
theorem shownRow_eq_ok_iff {issue : Issue} (legible : HasLegibleTexts issue) :
    shownRow issue = .ok (storedRow issue) ↔ ¬ HoldsTag (issue.assigneeLogin.getD "").toList := by
  rw [← resolve_assigneeText_iff legible, shownRow]
  cases Console.resolve (assigneeText issue) with
  | error error => exact ⟨nofun, nofun⟩
  | ok assignee => simp [Except.map, storedRow, rowWith]

/-! ## What is printed -/

def columns : List String :=
  ["Issue #", "Title", "Assigned To", "Milestone"]

/-- The warnings of a query, as they are shown. -/
def shownWarnings (expression : Expr) (collection : Collection) : List Console.Printed :=
  (expression.unknownNames collection).map fun unknown => .line ("WARNING: " ++ unknown.message)

/-- A table under the canonical text of a query, and the number of its rows. -/
def shownTable (expression : Expr) (rows : List (List String)) : List Console.Printed :=
  [.table expression.format columns rows, .line ("Count: " ++ toString rows.length)]

theorem exists_leaf_of_mem_unknownNames {expression : Expr} {collection : Collection}
    {unknown : UnknownName} (member : unknown ∈ expression.unknownNames collection) :
    ∃ qualifier ∈ expression.leaves, qualifier.value = unknown.name := by
  obtain ⟨qualifier, isLeaf, found⟩ := List.mem_filterMap.mp member
  refine ⟨qualifier, isLeaf, ?_⟩
  cases qualifier with
  | label | milestone | assignee =>
      rw [Qualifier.unknownName?] at found
      split at found
      · cases found
      · cases found
        rfl
  | _ => cases found

theorem isLegible_message {unknown : UnknownName} (legible : IsLegible unknown.name.toList) :
    IsLegible unknown.message.toList := by
  obtain ⟨front, messageEq, frontLegible⟩ :
      ∃ front, unknown.message = front ++ unknown.name ∧ IsLegible front.toList := by
    cases unknown <;> exact ⟨_, rfl, by decide +kernel⟩
  rw [messageEq, String.toList_append]
  exact frontLegible.append legible

theorem show_resultTable {expression : Expr} {issues : List Issue}
    (names : ∀ qualifier ∈ expression.leaves, IsLegible qualifier.value.toList)
    (legible : ∀ issue ∈ issues, HasLegibleTexts issue) :
    (resultTable expression issues).show =
      (issues.mapM shownRow).map (.table expression.format columns) := by
  have columnsShown : columns.mapM Console.resolve = .ok columns := by
    decide +kernel
  rw [resultTable, Console.Entry.show, Expr.resolve_escape_format names, mapM_rows legible]
  change (do
    let shownColumns ← columns.mapM Console.resolve
    let rows ← issues.mapM shownRow
    return Console.Printed.table expression.format shownColumns rows) = _
  rw [columnsShown]
  cases issues.mapM shownRow <;> rfl

section

variable {workspace : Workspace} {world : World} {file : Path} {text kindText : String} {snapshot : Snapshot}
  {collection : Collection} {expression : Expr}

/-- The warnings of a query come first.  Then there is a table with the rows of the issues, its number of rows and a
line about the link, or a login that cannot be shown stops the command. -/
theorem perform_query_eq (loads : Loads world.workspace file kindText snapshot collection)
    (read : Expr.parse text = .ok expression)
    (names : ∀ qualifier ∈ expression.leaves, IsLegible qualifier.value.toList)
    (legible : ∀ issue ∈ expression.select collection.issues, HasLegibleTexts issue) :
    let warned := { world with printed := world.printed ++ shownWarnings expression collection }
    (query file text kindText).perform world =
      match (expression.select collection.issues).mapM shownRow with
      | .error error => (.error (.markup error), warned)
      | .ok rows =>
        (Action.print (linkLine (Repository.queryUrl? ⟨snapshot.org, snapshot.repo⟩ expression))).perform
          { warned with printed := warned.printed ++ shownTable expression rows } := by
  intro warned
  have warnings : ∀ unknown ∈ expression.unknownNames collection,
      (Alert.warningLine unknown).show = .ok (.line ("WARNING: " ++ unknown.message)) := by
    intro unknown member
    obtain ⟨qualifier, isLeaf, valueEq⟩ := exists_leaf_of_mem_unknownNames member
    apply Alert.show_warningLine
    apply isLegible_message
    rw [← valueEq]
    exact names qualifier isLeaf
  rw [perform_query_of_ok loads read, Finding.entries_ofQuery, answer,
    Action.perform_printAll_append warnings]
  have table := show_resultTable names legible
  cases shown : (expression.select collection.issues).mapM shownRow with
  | error error =>
      rw [shown] at table
      exact Action.perform_bind_error (Action.perform_print_error table _) _
  | ok rows =>
      rw [shown, Except.map] at table
      have lengthEq := (Console.mapM_eq_ok_iff.mp shown).length_eq
      have number : (Console.Entry.line
          ("Count: " ++ toString (expression.select collection.issues).length)).show =
            .ok (.line ("Count: " ++ toString rows.length)) := by
        have resolved : Console.resolve ("Count: " ++ toString (rows.length : Int)) = _ :=
          Console.resolve_append_number (by decide +kernel) (by decide +kernel) rows.length
        rw [lengthEq, Console.Entry.show]
        exact congrArg (Except.map Console.Printed.line) resolved
      simp only [Action.printAll]
      rw [Action.perform_bind_ok (Action.perform_print_ok table _),
        Action.perform_bind_ok (Action.perform_print_ok number _), bind_pure_unit]
      simp only [List.append_assoc, List.singleton_append]
      rw [← List.append_assoc]
      rfl

/-- The entries of a kind that a query selects, in the order of the snapshot. -/
def selected (kind : Kind) (snapshot : Snapshot) (expression : Expr) : List Issue :=
  snapshot.issues.filter fun issue => kind.admits issue && expression.holds issue

theorem select_eq_selected {kind : Kind} (loads : Loads workspace file kindText snapshot collection)
    (valid : Kind.ofText? kindText = some kind) (expression : Expr) :
    expression.select collection.issues = selected kind snapshot expression := by
  obtain ⟨other, known, issuesEq⟩ := loads.issues_eq
  rw [valid] at known
  cases known
  rw [Expr.select, issuesEq, Kind.select, List.filter_filter, selected]
  simp only [Bool.and_comm]

/-- The table with the stored rows of some issues stands behind the warnings of a query, and the number of its rows
below it. -/
def ListsStoredRows (world after : World) (expression : Expr) (collection : Collection)
    (issues : List Issue) : Prop :=
  ∃ behind, after.printed = world.printed ++ shownWarnings expression collection ++
    (shownTable expression (issues.map storedRow) ++ behind)

theorem listsStoredRows_iff_of_rows {world after : World} {issues : List Issue} {rows : List (List String)}
    {behind : List Console.Printed}
    (printed : after.printed = world.printed ++ shownWarnings expression collection ++
      (shownTable expression rows ++ behind)) :
    ListsStoredRows world after expression collection issues ↔ rows = issues.map storedRow := by
  constructor
  · rintro ⟨others, printedStored⟩
    rw [printed, List.append_cancel_left_eq, shownTable, shownTable, List.cons_append,
      List.cons_append] at printedStored
    exact (Console.Printed.table.inj (List.cons.inj printedStored).1).2.2
  · rintro rfl
    exact ⟨behind, printed⟩

theorem not_listsStoredRows {world after : World} {issues : List Issue}
    (printed : after.printed = world.printed ++ shownWarnings expression collection) :
    ¬ ListsStoredRows world after expression collection issues := by
  rintro ⟨behind, printedStored⟩
  rw [printed, List.self_eq_append_right] at printedStored
  cases printedStored

/-- All rows are shown as they are stored exactly if no login holds a tag. -/
theorem mapM_shownRow_eq_ok_iff {issues : List Issue} (legible : ∀ issue ∈ issues, HasLegibleTexts issue) :
    issues.mapM shownRow = .ok (issues.map storedRow) ↔
      ∀ issue ∈ issues, ¬ HoldsTag (issue.assigneeLogin.getD "").toList := by
  rw [Console.mapM_eq_ok_iff, List.forall₂_map_right_iff, List.forall₂_same]
  exact forall₂_congr fun issue member => shownRow_eq_ok_iff (legible issue member)

/-- The names of a query are legible, and the screen shows no picture for them or for the canonical text, in which a name
may stand behind a colon. -/
structure HasLegibleForm (isPicture : List Char → Bool) (expression : Expr) : Prop where
  names : ∀ qualifier ∈ expression.leaves, IsLegible qualifier.value.toList
  noPictures : ∀ qualifier ∈ expression.leaves, Console.hasPicture isPicture qualifier.value = false
  title : Console.hasPicture isPicture expression.format = false

/-- The texts of an issue are legible, and the screen shows no picture for a part of its row. -/
structure HasLegibleRow (isPicture : List Char → Bool) (issue : Issue) : Prop where
  texts : HasLegibleTexts issue
  noPictures : ∀ cell ∈ storedRow issue, Console.hasPicture isPicture cell = false

/-- The command on a query shows the selected entries of the snapshot in its order, one in a row, with their number.
All cells show the stored values exactly if no login holds a tag.  Otherwise the logins are shown without their tags,
or the first one that cannot be shown stops the command in front of the table. -/
theorem lists_stored_rows_iff {kind : Kind} {isPicture : List Char → Bool}
    (loads : Loads world.workspace file kindText snapshot collection)
    (valid : Kind.ofText? kindText = some kind) (read : Expr.parse text = .ok expression)
    (form : HasLegibleForm isPicture expression)
    (rows : ∀ issue ∈ selected kind snapshot expression, HasLegibleRow isPicture issue) :
    let issues := selected kind snapshot expression
    let run := (query file text kindText).perform world
    let warned := { world with printed := world.printed ++ shownWarnings expression collection }
    (run = match issues.mapM shownRow with
      | .error error => (.error (.markup error), warned)
      | .ok rows =>
        (Action.print (linkLine (Repository.queryUrl? ⟨snapshot.org, snapshot.repo⟩ expression))).perform
          { warned with printed := warned.printed ++ shownTable expression rows }) ∧
    (ListsStoredRows world run.2 expression collection issues ↔
      ∀ issue ∈ issues, ¬ HoldsTag (issue.assigneeLogin.getD "").toList) := by
  intro issues run warned
  have legible : ∀ issue ∈ issues, HasLegibleTexts issue := fun issue member => (rows issue member).texts
  have selectEq := select_eq_selected loads valid expression
  have runEq := perform_query_eq loads read form.names (selectEq ▸ legible)
  rw [selectEq] at runEq
  refine ⟨runEq, ?_⟩
  rw [← mapM_shownRow_eq_ok_iff legible]
  change run = _ at runEq
  cases shown : issues.mapM shownRow with
  | error error =>
      simp only [issues] at shown
      simp only [shown] at runEq
      rw [runEq]
      exact ⟨fun lists => absurd lists (not_listsStoredRows rfl), nofun⟩
  | ok rows =>
      simp only [issues] at shown
      simp only [shown] at runEq
      rw [runEq, Except.ok.injEq]
      exact listsStoredRows_iff_of_rows ((Action.printed_print _ _).trans (List.append_assoc ..))

end

/-- A snapshot of three issues whose texts hold brackets.  The login of the first one holds no tag. -/
def withBrackets : Snapshot where
  org := "o"
  repo := "r"
  issues := [
    ⟨3, "[bug] [/x]", "", "open", false, [], some "v1 [final]", some ⟨"ann[1]", ""⟩⟩,
    ⟨4, "T", "", "", false, [], none, some ⟨"dependabot[bot]", ""⟩⟩,
    ⟨5, "U", "", "", false, [], none, some ⟨"[/x]", ""⟩⟩]

/-- The collection of all these issues. -/
def collectionWithBrackets : Collection where
  issues := withBrackets.issues
  distinct := by decide

/-- A folder in which the snapshot is stored. -/
def filesWithBrackets : World where
  workspace := { files := [(["s.json"], withBrackets.toJson.write)] }

theorem loads_withBrackets :
    Loads filesWithBrackets.workspace (.ofText "s.json") "all" withBrackets collectionWithBrackets where
  loaded := Snapshot.load_of_read_write rfl (by decide +kernel) (.object List.nodup_nil nofun) rfl
  collected := ⟨.all, rfl, rfl⟩

theorem hasLegibleTexts_withBrackets : ∀ issue ∈ withBrackets.issues, HasLegibleTexts issue := by
  simp only [withBrackets, List.forall_mem_cons]
  refine ⟨?_, ?_, ?_, nofun⟩ <;> exact ⟨by decide +kernel, by decide +kernel, by decide +kernel⟩

/-- Two words that have a picture. -/
def isBugOrSmile (word : List Char) : Bool :=
  ["bug".toList, "smile".toList].contains word

theorem hasLegibleRow_withBrackets : ∀ issue ∈ withBrackets.issues, HasLegibleRow isBugOrSmile issue := by
  intro issue member
  refine ⟨hasLegibleTexts_withBrackets issue member, ?_⟩
  revert issue
  simp only [withBrackets, List.forall_mem_cons]
  exact ⟨by decide +kernel, by decide +kernel, by decide +kernel, nofun⟩

/-- Brackets in a title, a milestone, a login and the text of the query are shown as they are written. -/
theorem lists_texts_with_brackets :
    let text := "is:open OR label:\"[b] \\\"c\\\"\""
    let run := (query (.ofText "s.json") text "all").perform filesWithBrackets
    ∃ expression, Expr.parse text = .ok expression ∧ expression.format = text ∧
      ListsStoredRows filesWithBrackets run.2 expression collectionWithBrackets
        (selected .all withBrackets expression) ∧
      (selected .all withBrackets expression).map storedRow = [["#3", "[bug] [/x]", "@ann[1]", "v1 [final]"]] := by
  intro text run
  have read : Expr.parse text = .ok (.or [.leaf .isOpen, .leaf (.label "[b] \"c\"")]) := by
    decide +kernel
  refine ⟨_, read, by decide +kernel, ?_, by decide +kernel⟩
  have form : HasLegibleForm isBugOrSmile (.or [.leaf .isOpen, .leaf (.label "[b] \"c\"")]) :=
    ⟨by decide +kernel, by decide +kernel, by decide +kernel⟩
  refine (lists_stored_rows_iff loads_withBrackets rfl read form fun issue member => ?_).2.mpr ?_
  · exact hasLegibleRow_withBrackets issue (List.mem_of_mem_filter member)
  · decide +kernel

/-- The login of a bot is cut, and one that is written like a closing tag keeps the table from being shown. -/
theorem logins_with_tags_not_listed :
    let run (text : String) := (query (.ofText "s.json") text "all").perform filesWithBrackets
    let bot : Expr := .leaf (.assignee "dependabot[bot]")
    Loads filesWithBrackets.workspace (.ofText "s.json") "all" withBrackets collectionWithBrackets ∧
    (∀ issue ∈ withBrackets.issues, HasLegibleRow isBugOrSmile issue) ∧
    Expr.parse "assignee:dependabot[bot]" = .ok bot ∧
    ¬ ListsStoredRows filesWithBrackets (run "assignee:dependabot[bot]").2 bot collectionWithBrackets
      (selected .all withBrackets bot) ∧
    (selected .all withBrackets bot).map storedRow = [["#4", "T", "@dependabot[bot]", ""]] ∧
    (run "assignee:dependabot[bot]").2.printed = [
      .table "assignee:dependabot[bot]" columns [["#4", "T", "@dependabot", ""]], .line "Count: 1",
      .line "View on GitHub: https://github.com/o/r/issues?q=assignee%3Adependabot%5Bbot%5D"] ∧
    run "assignee:[/x]" = (.error (.markup .unmatched), filesWithBrackets) := by
  intro run bot
  have botRead : Expr.parse "assignee:dependabot[bot]" = .ok (.leaf (.assignee "dependabot[bot]")) := by
    decide +kernel
  have runEq {text : String} {name : String} (read : Expr.parse text = .ok (.leaf (.assignee name)))
      (legible : IsLegible name.toList) :=
    perform_query_eq loads_withBrackets read (List.forall_mem_singleton.mpr legible) fun issue member =>
      hasLegibleTexts_withBrackets issue (List.mem_of_mem_filter member)
  have botRun := runEq botRead (by decide +kernel)
  have botRows : ((Expr.leaf (.assignee "dependabot[bot]")).select collectionWithBrackets.issues).mapM shownRow =
      .ok [["#4", "T", "@dependabot", ""]] := by
    decide +kernel
  have closingRead : Expr.parse "assignee:[/x]" = .ok (.leaf (.assignee "[/x]")) := by
    decide +kernel
  have closingRun := runEq closingRead (by decide +kernel)
  have closingRows : ((Expr.leaf (.assignee "[/x]")).select collectionWithBrackets.issues).mapM shownRow =
      .error .unmatched := by
    decide +kernel
  have noWarnings : shownWarnings (.leaf (.assignee "[/x]")) collectionWithBrackets = [] := by
    decide +kernel
  simp only [botRows] at botRun
  simp only [closingRows, noWarnings] at closingRun
  change run "assignee:dependabot[bot]" = _ at botRun
  refine ⟨loads_withBrackets, hasLegibleRow_withBrackets, botRead, fun lists => ?_, by decide +kernel, ?_,
    closingRun⟩
  · rw [botRun] at lists
    have rowsEq := (listsStoredRows_iff_of_rows
      ((Action.printed_print _ _).trans (List.append_assoc ..))).mp lists
    revert rowsEq
    decide +kernel
  · rw [botRun, Action.printed_print]
    decide +kernel

end Command
end IssueWatch
