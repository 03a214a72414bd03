import IssueWatch.Html.Shape
import IssueWatch.Proofs.Html.Shape

/-!
# Tables determine their rows

The text of a table is read back row by row.  Every text from an issue stands in front of a mark that cannot
occur in it, so that the text ends at the first such mark, and what stands behind the mark tells which optional
part follows.  Hence no text can imitate the end of its cell, another field or a further row.
-/
namespace IssueWatch.Html

/-! ## Texts that show where they end -/

/-- Whatever stands behind a written value, the text determines the value and what stands behind it. -/
def SelfDelimiting {Value : Type} (write : Value → List Char) : Prop :=
  ∀ ⦃first second : Value⦄ ⦃rest others : List Char⦄,
    write first ++ rest = write second ++ others → first = second ∧ rest = others

/-- Values that are written one behind the other are determined together, if no value starts like what closes
the list. -/
theorem SelfDelimiting.flatMap_append_inj {Value : Type} {write : Value → List Char} {closing : List Char}
    (delimited : SelfDelimiting write) (apart : ∀ value rest, write value ++ rest ≠ closing)
    {values others : List Value}
    (same : values.flatMap write ++ closing = others.flatMap write ++ closing) : values = others := by
  induction values generalizing others with
  | nil =>
      cases others with
      | nil => rfl
      | cons other rest =>
          rw [List.flatMap_cons, List.append_assoc] at same
          exact absurd same.symm (apart other _)
  | cons value values induction =>
      cases others with
      | nil =>
          rw [List.flatMap_cons, List.append_assoc] at same
          exact absurd same (apart value _)
      | cons other rest =>
          rw [List.flatMap_cons, List.flatMap_cons, List.append_assoc, List.append_assoc] at same
          obtain ⟨rfl, behind⟩ := delimited same
          rw [induction behind]

/-- A text ends at the first mark, if it holds no such mark. -/
theorem append_mark_inj {mark : Char} {first second rest others : List Char} (firstUnmarked : mark ∉ first)
    (secondUnmarked : mark ∉ second) (same : first ++ mark :: rest = second ++ mark :: others) :
    first = second ∧ rest = others := by
  induction first generalizing second with
  | nil =>
      cases second with
      | nil => exact ⟨rfl, (List.cons.inj same).2⟩
      | cons c second =>
          have isMark := (List.cons.inj same).1
          exact absurd List.mem_cons_self (isMark ▸ secondUnmarked)
  | cons c first induction =>
      cases second with
      | nil =>
          have isMark := (List.cons.inj same).1
          exact absurd List.mem_cons_self (isMark ▸ firstUnmarked)
      | cons d second =>
          obtain ⟨rfl, behind⟩ := List.cons.inj same
          obtain ⟨rfl, restEq⟩ := induction (List.not_mem_of_not_mem_cons firstUnmarked)
            (List.not_mem_of_not_mem_cons secondUnmarked) behind
          exact ⟨rfl, restEq⟩

/-! ## Escaped texts -/

theorem selfDelimiting_escapeChar : SelfDelimiting escapeChar := by
  intro c d rest others same
  unfold escapeChar at same
  split at same <;> split at same <;> simp_all [eq_comm]

theorem escapeChar_append_ne_nil (c : Char) (rest : List Char) : escapeChar c ++ rest ≠ [] := by
  unfold escapeChar
  split <;> simp

theorem escape_injective : Function.Injective escape := by
  intro text other same
  have chars : text.toList.flatMap escapeChar ++ [] = other.toList.flatMap escapeChar ++ [] := by
    rw [List.append_nil, List.append_nil]
    exact String.ofList_injective same
  exact String.toList_inj.mp (selfDelimiting_escapeChar.flatMap_append_inj escapeChar_append_ne_nil chars)

theorem notMem_escape {mark : Char} (isMark : isMark mark = true) (text : String) :
    mark ∉ (escape text).toList := by
  intro member
  have kept : mark ∈ marks (escape text) := List.mem_filter.mpr ⟨member, isMark⟩
  rw [marks_escape] at kept
  cases kept

/-- An escaped text in front of a mark is determined, and so is what stands behind the markup from there. -/
theorem escape_mark_inj {mark : Char} (marked : isMark mark = true) {text other : String}
    {markup rest others : List Char}
    (same : (escape text).toList ++ mark :: (markup ++ rest) =
      (escape other).toList ++ mark :: (markup ++ others)) : text = other ∧ rest = others := by
  obtain ⟨sameText, behind⟩ := append_mark_inj (notMem_escape marked text) (notMem_escape marked other) same
  exact ⟨escape_injective (String.toList_inj.mp sameText), List.append_cancel_left behind⟩

theorem escape_append (first second : String) : escape (first ++ second) = escape first ++ escape second := by
  simp [escape]

theorem join_map_escape (labels : List String) :
    Text.join ", " (labels.map escape) = escape (Text.join ", " labels) := by
  induction labels with
  | nil => rfl
  | cons label rest induction =>
      cases rest with
      | nil => rfl
      | cons second others =>
          rw [List.map_cons, Text.join_cons _ _ (by simp), induction,
            Text.join_cons _ _ (List.cons_ne_nil second others), escape_append, escape_append]
          rfl

theorem toString_int_injective : Function.Injective (toString : Int → String) := by
  intro number other same
  have chars := congrArg String.toList same
  rw [Decimal.toList_toString_int, Decimal.toList_toString_int] at chars
  have unsigned (value : Nat) : '-' ∉ Nat.toDigits 10 value := by
    intro member
    have digit := Decimal.isDigit_of_mem_toDigits member
    revert digit
    decide
  have magnitude {m n : Nat} (digits : Nat.toDigits 10 m = Nat.toDigits 10 n) : m = n := by
    rw [← Decimal.ofDigits_toDigits m, digits, Decimal.ofDigits_toDigits]
  by_cases negative : number < 0 <;> by_cases otherNegative : other < 0
  · rw [if_pos negative, if_pos otherNegative] at chars
    have sameSize := magnitude (List.append_cancel_left chars)
    omega
  · rw [if_pos negative, if_neg otherNegative, List.nil_append] at chars
    exact absurd (chars ▸ List.mem_append_left _ (List.mem_singleton_self _)) (unsigned other.natAbs)
  · rw [if_neg negative, if_pos otherNegative, List.nil_append] at chars
    exact absurd (chars ▸ List.mem_append_left _ (List.mem_singleton_self _)) (unsigned number.natAbs)
  · rw [if_neg negative, if_neg otherNegative] at chars
    have sameSize := magnitude (List.append_cancel_left chars)
    omega

theorem number_mark_inj {number other : Int} {markup rest others : List Char}
    (same : (toString number).toList ++ '<' :: (markup ++ rest) =
      (toString other).toList ++ '<' :: (markup ++ others)) : number = other ∧ rest = others := by
  have unmarked (value : Int) : '<' ∉ (toString value).toList := by
    intro member
    have digit := Decimal.eq_minus_or_isDigit_of_mem_toString member
    revert digit
    decide
  obtain ⟨sameText, behind⟩ := append_mark_inj (unmarked number) (unmarked other) same
  exact ⟨toString_int_injective (String.toList_inj.mp sameText), List.append_cancel_left behind⟩

/-! ## The cells of a row -/

/-- The cell with the number and the link, with the ends of the lines around it. -/
def linkCell (url : String) (number : Int) : List Char :=
  "  <tr>\n    <td><a href=\"".toList ++ (escape url).toList ++ '"' :: ">#".toList ++
    (toString number).toList ++ '<' :: "/a></td>\n    <td>\n      ".toList

/-- What follows the title up to the next tag. -/
def titleEnd : Option String → List Char
  | none => "\n    ".toList
  | some _ => "\n      ".toList

/-- The labels and the end of the cell, up to the start of the next cell, behind the start of a tag. -/
def behindTitle : Option String → List Char
  | none => '/' :: "td>\n    <td>".toList
  | some labels => 'b' :: "r/><div class=\"labels\">Labels: ".toList ++ (escape labels).toList ++
      '<' :: "/div>\n    </td>\n    <td>".toList

/-- The cell with the title and the labels. -/
def titleCell (title : String) (labels : Option String) : List Char :=
  (escape title).toList ++ titleEnd labels ++ '<' :: behindTitle labels

/-- The first character of the cell for the assignee. -/
def ownerMark : AssigneeShape → Char
  | .absent => '&'
  | .plain => '@'
  | .linked => '<'

def ownerText : Option Account → List Char
  | none => "nbsp;</td>\n    <td>".toList
  | some account =>
    if account.profileUrl = "" then (escape account.login).toList ++ '<' :: "/td>\n    <td>".toList
    else
      "a href=\"".toList ++ (escape account.profileUrl).toList ++ '"' :: ">@".toList ++
        (escape account.login).toList ++ '<' :: "/a></td>\n    <td>".toList

/-- The assignee and the end of the cell, up to the start of the next cell. -/
def ownerCell (assignee : Option Account) : List Char :=
  ownerMark (assigneeShape assignee) :: ownerText assignee

def milestoneCell (title : String) : List Char :=
  (escape title).toList ++ '<' :: "/td>\n  </tr>\n".toList

/-- The row that shows some fields. -/
def rowChars (content : RowContent) : List Char :=
  linkCell content.url content.number ++ titleCell content.title content.labels ++
    ownerCell content.assignee ++ milestoneCell content.milestone

theorem linkCell_append_inj {url otherUrl : String} {number other : Int} {rest others : List Char}
    (same : linkCell url number ++ rest = linkCell otherUrl other ++ others) :
    (url = otherUrl ∧ number = other) ∧ rest = others := by
  unfold linkCell at same
  simp only [List.append_assoc, List.cons_append] at same
  rw [List.append_cancel_left_eq] at same
  obtain ⟨sameUrl, same⟩ := escape_mark_inj rfl same
  obtain ⟨sameNumber, same⟩ := number_mark_inj same
  exact ⟨⟨sameUrl, sameNumber⟩, same⟩

theorem behindTitle_append_inj {labels otherLabels : Option String} {rest others : List Char}
    (same : behindTitle labels ++ rest = behindTitle otherLabels ++ others) :
    labels = otherLabels ∧ rest = others := by
  unfold behindTitle at same
  cases labels with
  | none =>
      cases otherLabels with
      | none => exact ⟨rfl, List.append_cancel_left same⟩
      | some other => exact absurd (List.cons.inj same).1 (by decide)
  | some text =>
      cases otherLabels with
      | none => exact absurd (List.cons.inj same).1 (by decide)
      | some other =>
          simp only [List.append_assoc, List.cons_append, List.cons.injEq, true_and] at same
          rw [List.append_cancel_left_eq] at same
          obtain ⟨sameText, same⟩ := escape_mark_inj rfl same
          exact ⟨congrArg some sameText, same⟩

theorem titleCell_append_inj {title otherTitle : String} {labels otherLabels : Option String}
    {rest others : List Char}
    (same : titleCell title labels ++ rest = titleCell otherTitle otherLabels ++ others) :
    (title = otherTitle ∧ labels = otherLabels) ∧ rest = others := by
  have unmarked (text : String) (labels : Option String) : '<' ∉ (escape text).toList ++ titleEnd labels := by
    rw [List.mem_append, not_or]
    refine ⟨notMem_escape rfl text, ?_⟩
    cases labels with
    | none => exact (by decide : '<' ∉ "\n    ".toList)
    | some labels => exact (by decide : '<' ∉ "\n      ".toList)
  unfold titleCell at same
  rw [List.append_assoc _ _ rest, List.append_assoc _ _ others, List.cons_append, List.cons_append] at same
  obtain ⟨sameTitle, same⟩ := append_mark_inj (unmarked title labels) (unmarked otherTitle otherLabels) same
  obtain ⟨rfl, sameRest⟩ := behindTitle_append_inj same
  have sameChars := List.append_cancel_right sameTitle
  exact ⟨⟨escape_injective (String.toList_inj.mp sameChars), rfl⟩, sameRest⟩

theorem ownerMark_injective : Function.Injective ownerMark := by
  intro shape other same
  cases shape <;> cases other <;> simp_all [ownerMark]

theorem assigneeShape_some_ne_absent (account : Account) : assigneeShape (some account) ≠ .absent := by
  rw [assigneeShape]
  split <;> simp

theorem unlinked_iff_of_assigneeShape {account other : Account}
    (sameShape : assigneeShape (some account) = assigneeShape (some other)) :
    account.profileUrl = "" ↔ other.profileUrl = "" := by
  by_cases unlinked : account.profileUrl = "" <;> by_cases otherUnlinked : other.profileUrl = "" <;>
    simp_all [assigneeShape]

theorem ownerText_append_inj {account other : Account} {rest others : List Char}
    (sameShape : assigneeShape (some account) = assigneeShape (some other))
    (same : ownerText (some account) ++ rest = ownerText (some other) ++ others) :
    account = other ∧ rest = others := by
  have unlinkedIff := unlinked_iff_of_assigneeShape sameShape
  obtain ⟨login, url⟩ := account
  obtain ⟨otherLogin, otherUrl⟩ := other
  unfold ownerText at same
  by_cases unlinked : url = ""
  · obtain rfl : otherUrl = "" := unlinkedIff.mp unlinked
    subst unlinked
    simp only [if_true, List.append_assoc, List.cons_append] at same
    obtain ⟨sameLogin, same⟩ := escape_mark_inj rfl same
    exact ⟨by rw [sameLogin], same⟩
  · have otherLinked : ¬ otherUrl = "" := fun isEmpty => unlinked (unlinkedIff.mpr isEmpty)
    simp only [if_neg unlinked, if_neg otherLinked, List.append_assoc, List.cons_append] at same
    rw [List.append_cancel_left_eq] at same
    obtain ⟨sameUrl, same⟩ := escape_mark_inj rfl same
    obtain ⟨sameLogin, same⟩ := escape_mark_inj rfl same
    exact ⟨by rw [sameLogin, sameUrl], same⟩

theorem ownerCell_append_inj {assignee other : Option Account} {rest others : List Char}
    (same : ownerCell assignee ++ rest = ownerCell other ++ others) :
    assignee = other ∧ rest = others := by
  obtain ⟨sameMark, same⟩ := List.cons.inj same
  have sameShape := ownerMark_injective sameMark
  cases assignee with
  | none =>
      cases other with
      | none => exact ⟨rfl, List.append_cancel_left same⟩
      | some second => exact absurd sameShape.symm (assigneeShape_some_ne_absent second)
  | some first =>
      cases other with
      | none => exact absurd sameShape (assigneeShape_some_ne_absent first)
      | some second =>
          obtain ⟨sameAccount, sameRest⟩ := ownerText_append_inj sameShape same
          exact ⟨congrArg some sameAccount, sameRest⟩

theorem milestoneCell_append_inj {title other : String} {rest others : List Char}
    (same : milestoneCell title ++ rest = milestoneCell other ++ others) :
    title = other ∧ rest = others := by
  unfold milestoneCell at same
  simp only [List.append_assoc, List.cons_append] at same
  exact escape_mark_inj rfl same

theorem selfDelimiting_rowChars : SelfDelimiting rowChars := by
  intro first second rest others same
  simp only [rowChars, List.append_assoc] at same
  obtain ⟨⟨sameUrl, sameNumber⟩, same⟩ := linkCell_append_inj same
  obtain ⟨⟨sameTitle, sameLabels⟩, same⟩ := titleCell_append_inj same
  obtain ⟨sameAssignee, same⟩ := ownerCell_append_inj same
  obtain ⟨sameMilestone, same⟩ := milestoneCell_append_inj same
  refine ⟨?_, same⟩
  cases first
  cases second
  simp_all

/-! ## Tables -/

/-- The characters of a line and its end. -/
def lineChars (line : String) : List Char :=
  line.toList ++ ['\n']

theorem toList_joinLines {lines : List String} (notEmpty : lines ≠ []) :
    (Text.joinLines lines).toList ++ ['\n'] = lines.flatMap lineChars := by
  induction lines with
  | nil => exact absurd rfl notEmpty
  | cons line rest induction =>
      cases rest with
      | nil => simp [Text.joinLines, lineChars]
      | cons second others =>
          have more : second :: others ≠ [] := List.cons_ne_nil second others
          rw [List.flatMap_cons, ← induction more, Text.joinLines, Text.join_cons _ _ more,
            String.toList_append, String.toList_append, lineChars, List.append_assoc]
          rfl

theorem ownerCell_eq (assignee : Option Account) :
    ownerCell assignee = (assigneeCell assignee).toList ++ "</td>\n    <td>".toList := by
  unfold ownerCell ownerText assigneeCell
  cases assignee with
  | none => rfl
  | some account =>
      by_cases unlinked : account.profileUrl = ""
      · simp [assigneeShape, ownerMark, unlinked]
      · simp [assigneeShape, ownerMark, unlinked, link]

/-- A row shows the fields of its issue. -/
theorem flatMap_lineChars_issueRow (issue : Issue) :
    (issueRow issue).flatMap lineChars = rowChars (rowContent issue) := by
  unfold issueRow issueLink link labelLines rowChars linkCell titleCell titleEnd behindTitle milestoneCell
  by_cases empty : issue.labels.isEmpty = true
  · simp [empty, lineChars, rowContent, ownerCell_eq]
  · simp [empty, lineChars, rowContent, ownerCell_eq, join_map_escape]

/-- The lines in front of the rows. -/
def tableOpening : List Char :=
  ["<table border=\"1\">", "  <tr>", "    <th>Issue #</th>", "    <th>Title</th>",
    "    <th>Assigned To</th>", "    <th>Milestone</th>", "  </tr>"].flatMap lineChars

theorem toList_issueTable (issues : List Issue) :
    (issueTable issues).toList ++ ['\n'] =
      tableOpening ++ ((issues.map rowContent).flatMap rowChars ++ lineChars "</table>") := by
  have rows : (issues.flatMap issueRow).flatMap lineChars = (issues.map rowContent).flatMap rowChars := by
    rw [List.flatMap_assoc, List.flatMap_map]
    exact List.flatMap_congr fun issue _ => flatMap_lineChars_issueRow issue
  rw [issueTable, toList_joinLines (by simp), List.flatMap_append, List.flatMap_append, rows, List.append_assoc,
    List.flatMap_singleton]
  rfl

theorem rowChars_append_ne (content : RowContent) (rest : List Char) :
    rowChars content ++ rest ≠ lineChars "</table>" := by
  intro same
  exact absurd (List.cons.inj same).1 (by decide)

/-- Two tables are the same text exactly if they have the same number of rows and each row shows the same fields:
number, address, title, whether there are labels and their names in one text, the assignee with the address
of the profile, and the title of the milestone. -/
theorem issueTable_eq_iff (issues others : List Issue) :
    issueTable issues = issueTable others ↔ issues.map rowContent = others.map rowContent := by
  constructor
  · intro same
    have chars := toList_issueTable issues
    rw [same, toList_issueTable] at chars
    exact (selfDelimiting_rowChars.flatMap_append_inj rowChars_append_ne (List.append_cancel_left chars)).symm
  · intro same
    have chars : (issueTable issues).toList ++ ['\n'] = (issueTable others).toList ++ ['\n'] := by
      rw [toList_issueTable, toList_issueTable, same]
    exact String.toList_inj.mp (List.append_cancel_right chars)

end IssueWatch.Html
