import IssueWatch.Html.Shape
import IssueWatch.Proofs.Decimal.Digits

/-!
# The marks of a page

The marks of a page are those of its shape.  Every text from a snapshot, a query or a file is written
without marks, so that it can neither end the tag or attribute that it stands in nor start one of its own.
-/
namespace IssueWatch.Html

/-! ## Skeletons -/

/-- The marks of a link whose text has none. -/
def linkMarks : List Char :=
  marks "<a href=\"\"></a>"

def assigneeMarks : AssigneeShape → List Char
  | .absent | .plain => []
  | .linked => linkMarks

def labelMarks (hasLabels : Bool) : List Char :=
  if hasLabels then marks "<br/><div class=\"labels\"></div>" else []

/-- The marks of the row of an issue. -/
def rowMarks (shape : RowShape) : List Char :=
  marks "<tr><td>" ++ linkMarks ++ marks "</td><td>" ++ labelMarks shape.hasLabels ++
    marks "</td><td>" ++ assigneeMarks shape.assignee ++ marks "</td><td></td></tr>"

/-- The marks of a table, the first row of which names the columns. -/
def tableMarks (rows : List RowShape) : List Char :=
  marks "<table border=\"1\"><tr><th></th><th></th><th></th><th></th></tr>" ++
    rows.flatMap rowMarks ++ marks "</table>"

def optionalLinkMarks (hasLink : Bool) : List Char :=
  if hasLink then linkMarks else []

/-- The marks of the section of a query. -/
def sectionMarks (shape : SectionShape) : List Char :=
  marks "<h2></h2><p></p>" ++ optionalLinkMarks shape.hasLink ++ marks "<br/>" ++ tableMarks shape.rows

/-- The marks in front of the first section of a page or the first heading of a message. -/
def openingMarks : List Char :=
  marks "<html><head><style></style></head><body>"

def closingMarks : List Char :=
  marks "</body></html>"

/-- The marks of a page. -/
def pageMarks (sections : List SectionShape) : List Char :=
  openingMarks ++ sections.flatMap sectionMarks ++ closingMarks

/-- The marks of a table with a heading, which is left out if it would have no rows. -/
def headedMarks (rows : List RowShape) : List Char :=
  if rows.isEmpty then [] else marks "<h3></h3>" ++ tableMarks rows

/-- The marks of the message about a change. -/
def messageMarks (shape : ChangeShape) : List Char :=
  openingMarks ++ marks "<h2></h2><p><code></code></p>" ++
    (if shape.hasLink then marks "<p>" ++ linkMarks ++ marks "</p>" else []) ++
    headedMarks shape.entered ++ headedMarks shape.left ++ closingMarks

/-! ## Texts without marks -/

@[simp]
theorem marks_append (first second : String) : marks (first ++ second) = marks first ++ marks second := by
  simp [marks]

theorem marks_join {separator : String} (unmarked : marks separator = []) (texts : List String) :
    marks (Text.join separator texts) = texts.flatMap marks := by
  induction texts with
  | nil => rfl
  | cons text rest induction =>
      cases rest with
      | nil => simp
      | cons second others =>
          rw [Text.join_cons _ _ (List.cons_ne_nil second others), marks_append, marks_append, unmarked,
            induction, List.append_nil]
          rfl

@[simp]
theorem marks_joinLines (lines : List String) : marks (Text.joinLines lines) = lines.flatMap marks :=
  marks_join rfl lines

theorem marks_eq_nil_of_digits {text : String}
    (digits : ∀ c ∈ text.toList, c = '-' ∨ Decimal.isDigit c = true) : marks text = [] := by
  rw [marks, List.filter_eq_nil_iff]
  intro c member mark
  have isMark : c = '<' ∨ c = '>' ∨ c = '"' ∨ c = '\'' := by
    simpa [isMark, or_assoc] using mark
  have digit := digits c member
  rcases isMark with rfl | rfl | rfl | rfl <;> revert digit <;> decide

@[simp]
theorem marks_toString_int (value : Int) : marks (toString value) = [] :=
  marks_eq_nil_of_digits fun _ => Decimal.eq_minus_or_isDigit_of_mem_toString

@[simp]
theorem marks_toString_nat (value : Nat) : marks (toString value) = [] :=
  marks_toString_int value

theorem marks_link (url : String) {text : String} (unmarked : marks text = []) :
    marks (link url text) = linkMarks := by
  rw [link, marks_append, marks_append, marks_append, marks_append, unmarked, marks_escape]
  rfl

/-! ## Parts of pages -/

theorem marks_issueLink (issue : Issue) : marks (issueLink issue) = linkMarks :=
  marks_link _ (by rw [marks_append, marks_toString_int]; rfl)

theorem marks_assigneeCell (assignee : Option Account) :
    marks (assigneeCell assignee) = assigneeMarks (assigneeShape assignee) := by
  cases assignee with
  | none => rfl
  | some account =>
      have login : marks ("@" ++ escape account.login) = [] := by
        rw [marks_append, marks_escape]
        rfl
      by_cases unlinked : account.profileUrl = ""
      · simpa [assigneeCell, assigneeShape, unlinked, assigneeMarks] using login
      · simpa [assigneeCell, assigneeShape, unlinked, assigneeMarks] using marks_link _ login

theorem marks_labelLines (labels : List String) :
    (labelLines labels).flatMap marks = labelMarks (!labels.isEmpty) := by
  by_cases empty : labels.isEmpty = true
  · simp [labelLines, empty, labelMarks]
  · have names : marks (Text.join ", " (labels.map escape)) = [] := by
      rw [marks_join rfl, List.flatMap_map, List.flatMap_eq_nil_iff]
      exact fun label _ => marks_escape label
    simp only [labelLines, empty, Bool.false_eq_true, if_false, List.flatMap_singleton, marks_append,
      names, Bool.not_false, labelMarks, if_true]
    rfl

theorem marks_issueRow (issue : Issue) :
    (issueRow issue).flatMap marks = rowMarks (rowShape issue) := by
  simp only [issueRow, List.flatMap_append, List.flatMap_cons, List.flatMap_nil, marks_append,
    marks_issueLink, marks_escape, marks_labelLines, marks_assigneeCell, rowMarks, rowShape,
    List.append_assoc, List.append_nil]
  simp [marks, isMark]

theorem marks_issueTable (issues : List Issue) :
    marks (issueTable issues) = tableMarks (issues.map rowShape) := by
  have rows : (issues.flatMap issueRow).flatMap marks = (issues.map rowShape).flatMap rowMarks := by
    rw [List.flatMap_assoc, List.flatMap_map]
    exact List.flatMap_congr fun issue _ => marks_issueRow issue
  rw [issueTable, marks_joinLines, List.flatMap_append, List.flatMap_append, rows]
  simp [tableMarks, marks, isMark]

theorem marks_countText (link? : Option String) (count : Nat) :
    marks (Report.countText link? count) = optionalLinkMarks link?.isSome := by
  cases link? with
  | none => exact marks_toString_nat count
  | some url => exact marks_link url (marks_toString_nat count)

theorem marks_querySection (repository : Repository) (collection : Collection) (named : NamedQuery) :
    marks (Report.querySection repository collection named) =
      sectionMarks (sectionShape repository collection named) := by
  simp only [Report.querySection, marks_joinLines, List.flatMap_cons, List.flatMap_nil, marks_append,
    marks_escape, marks_countText, marks_issueTable, sectionMarks, sectionShape, List.append_assoc,
    List.append_nil]
  simp [marks, isMark]

theorem marks_opening :
    ["<html>", "<head>", pageStyle, "</head>", "<body>"].flatMap marks = openingMarks := by
  have style : marks pageStyle = marks "<style></style>" := by
    rw [pageStyle, marks_joinLines]
    simp [marks, isMark]
  simp only [List.flatMap_cons, List.flatMap_nil, style, openingMarks]
  simp [marks, isMark]

theorem marks_page (repository : Repository) (collection : Collection) (queries : List NamedQuery) :
    marks (Report.page repository collection queries) =
      pageMarks (queries.map (sectionShape repository collection)) := by
  have sections : (queries.map (Report.querySection repository collection)).flatMap marks =
      (queries.map (sectionShape repository collection)).flatMap sectionMarks := by
    rw [List.flatMap_map, List.flatMap_map]
    exact List.flatMap_congr fun named _ => marks_querySection repository collection named
  rw [Report.page, marks_joinLines, List.flatMap_append, List.flatMap_append, sections, marks_opening]
  rfl

theorem marks_issueLines (heading : String) (unmarked : marks heading = []) (issues : List Issue) :
    (Alert.Change.issueLines heading issues).flatMap marks = headedMarks (issues.map rowShape) := by
  by_cases empty : issues.isEmpty = true
  · simp [Alert.Change.issueLines, empty, headedMarks]
  · simp only [Alert.Change.issueLines, empty, Bool.false_eq_true, if_false, List.flatMap_cons,
      List.flatMap_nil, marks_append, unmarked, marks_toString_nat, marks_issueTable, headedMarks,
      List.isEmpty_map, List.append_nil]
    rfl

/-- The lines of a message about a link, if there is one. -/
def linkLines : Option String → List String
  | some url => ["<p>" ++ link url "View current results on GitHub" ++ "</p>"]
  | none => []

theorem marks_linkLines (link? : Option String) :
    (linkLines link?).flatMap marks =
      if link?.isSome then marks "<p>" ++ linkMarks ++ marks "</p>" else [] := by
  cases link? with
  | none => rfl
  | some url =>
      rw [linkLines, List.flatMap_singleton, marks_append, marks_append, marks_link url rfl]
      rfl

theorem marks_body (repository : Repository) (change : Alert.Change) :
    marks (change.body repository) = messageMarks (changeShape repository change) := by
  let link? := Report.searchLink? repository change.alert.query
  have heading : ["<h2>Alert: " ++ escape change.alert.name ++ "</h2>",
      "<p>Query: <code>" ++ escape change.alert.queryText ++ "</code></p>"].flatMap marks =
        marks "<h2></h2><p><code></code></p>" := by
    simp only [List.flatMap_cons, List.flatMap_nil, marks_append, marks_escape, List.append_nil]
    rfl
  have linked := marks_linkLines link?
  have entered := marks_issueLines "New issues matching the query" rfl change.entered
  have left := marks_issueLines "Issues no longer matching the query" rfl change.left
  calc
    marks (change.body repository) =
        openingMarks ++ marks "<h2></h2><p><code></code></p>" ++
          (if link?.isSome then marks "<p>" ++ linkMarks ++ marks "</p>" else []) ++
          headedMarks (change.entered.map rowShape) ++ headedMarks (change.left.map rowShape) ++
          ["</body></html>"].flatMap marks := by
      rw [← marks_opening, ← heading, ← linked, ← entered, ← left, Alert.Change.body, marks_joinLines]
      simp only [← List.flatMap_append]
      rfl
    _ = messageMarks (changeShape repository change) := rfl

/-- The marks of a report and of a message about a change are those of their shapes.  Two reports of one shape
have the same marks, and so have two messages, whatever their texts hold. -/
theorem marks_determined_by_shape :
    (∀ (repository : Repository) (collection : Collection) (queries : List NamedQuery),
      marks (Report.page repository collection queries) =
        pageMarks (queries.map (sectionShape repository collection))) ∧
    (∀ (repository : Repository) (change : Alert.Change),
      marks (change.body repository) = messageMarks (changeShape repository change)) ∧
    (∀ (repository other : Repository) (collection otherCollection : Collection)
        (queries otherQueries : List NamedQuery),
      queries.map (sectionShape repository collection) =
          otherQueries.map (sectionShape other otherCollection) →
        marks (Report.page repository collection queries) =
          marks (Report.page other otherCollection otherQueries)) ∧
    ∀ (repository other : Repository) (change otherChange : Alert.Change),
      changeShape repository change = changeShape other otherChange →
        marks (change.body repository) = marks (otherChange.body other) := by
  refine ⟨marks_page, marks_body, ?_, ?_⟩
  · intro repository other collection otherCollection queries otherQueries sameShape
    rw [marks_page, marks_page, sameShape]
  · intro repository other change otherChange sameShape
    rw [marks_body, marks_body, sameShape]

/-- An issue whose texts imitate the parts of a page. -/
def imitatingIssue : Issue where
  number := -7
  title := "</td></tr></table><script>'"
  url := "\" onclick='"
  state := "open"
  labels := ["<b>", "\">"]
  milestone := some "</td>"
  assignee := some ⟨"<i>", "'>"⟩

/-- An issue of the same shape. -/
def blandIssue : Issue where
  number := 12
  title := "Title"
  url := "u"
  state := "closed"
  labels := ["bug"]
  assignee := some ⟨"ann", "p"⟩

def imitatingAlert : Alert where
  name := "</h2>"
  query := .leaf (.label "\">")
  queryText := "label:\"\\\">\""
  owners := []

def blandAlert : Alert where
  name := "Closed"
  query := .leaf .isClosed
  queryText := "is:closed"
  owners := []

/-- Texts that imitate tags and quotes leave the marks of the page and of the message as they are. -/
theorem marks_of_imitating_texts :
    marks (Report.page ⟨"\"><b>", "'"⟩ ⟨[imitatingIssue], by simp⟩
        [⟨"</h2>", .leaf (.label "\">"), ""⟩]) =
      marks (Report.page ⟨"o", "r"⟩ ⟨[blandIssue], by simp⟩ [⟨"Bugs", .leaf (.label "bug"), ""⟩]) ∧
    marks (Alert.Change.body ⟨imitatingAlert, [], [imitatingIssue], [], false⟩ ⟨"\"><b>", "'"⟩) =
      marks (Alert.Change.body ⟨blandAlert, [], [blandIssue], [], false⟩ ⟨"o", "r"⟩) :=
  ⟨marks_determined_by_shape.2.2.1 _ _ _ _ _ _ (by decide +kernel),
    marks_determined_by_shape.2.2.2 _ _ _ _ (by decide +kernel)⟩

end IssueWatch.Html
