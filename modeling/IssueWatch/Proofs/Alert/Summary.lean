import IssueWatch.Alert
import IssueWatch.Proofs.Console.Filling

/-!
# What summaries show

The warnings, the heading and the lines about issues in the summary of a change show their texts as they are.
The lines about users are not escaped, and they may show anything.
-/
namespace IssueWatch.Alert

open Console (Entry IsInert IsLegible Printed Tag)

theorem show_line {markup text : String} (resolved : Console.resolve markup = .ok text) :
    (Entry.line markup).show = .ok (.line text) := by
  rw [Entry.show, resolved]
  rfl

/-- A warning is shown without the tags around it, behind what stands in front of them. -/
theorem resolve_styledWarning {opening message : String} (front : String)
    (openingEq : opening.toList = front.toList ++ (Tag.chars ⟨0, "yellow".toList⟩ ++ "WARNING: ".toList))
    (frontInert : IsInert front.toList) (legible : IsLegible message.toList) :
    Console.resolve (opening ++ Console.escape message ++ "[/yellow]") = .ok (front ++ "WARNING: " ++ message) := by
  have acts : Console.act [] "yellow".toList = .ok [⟨"yellow", none⟩] := by decide +kernel
  have ends : Console.act [⟨"yellow", none⟩] ('/' :: "yellow".toList) = .ok [] := by decide +kernel
  have closing : "[/yellow]".toList = Tag.chars ⟨0, '/' :: "yellow".toList⟩ := by decide +kernel
  exact Console.resolve_styled openingEq closing (by decide +kernel) (by decide +kernel) acts ends
    legible frontInert (by decide)

theorem resolve_warning {message : String} (legible : IsLegible message.toList) :
    Console.resolve ("[yellow]WARNING: " ++ Console.escape message ++ "[/yellow]") = .ok ("WARNING: " ++ message) := by
  have opens : "[yellow]WARNING: ".toList = "".toList ++ (Tag.chars ⟨0, "yellow".toList⟩ ++ "WARNING: ".toList) := by
    decide +kernel
  have resolved := resolve_styledWarning "" opens (by decide) legible
  rwa [String.empty_append] at resolved

theorem show_warningLine {unknown : UnknownName} (legible : IsLegible unknown.message.toList) :
    (warningLine unknown).show = .ok (.line ("WARNING: " ++ unknown.message)) :=
  show_line (resolve_warning legible)

namespace Change

theorem resolve_indentedWarning {message : String} (legible : IsLegible message.toList) :
    Console.resolve ("  [yellow]WARNING: " ++ Console.escape message ++ "[/yellow]") =
      .ok ("  WARNING: " ++ message) := by
  have opens : "  [yellow]WARNING: ".toList =
      "  ".toList ++ (Tag.chars ⟨0, "yellow".toList⟩ ++ "WARNING: ".toList) := by
    decide +kernel
  exact resolve_styledWarning "  " opens (by decide) legible

theorem resolve_heading {name : String} (legible : IsLegible name.toList) :
    Console.resolve ("[bold]Alert " ++ Console.escape name ++ "[/bold]") = .ok ("Alert " ++ name) := by
  have acts : Console.act [] "bold".toList = .ok [⟨"bold", none⟩] := by decide +kernel
  have ends : Console.act [⟨"bold", none⟩] ('/' :: "bold".toList) = .ok [] := by decide +kernel
  have opening : "[bold]Alert ".toList = "".toList ++ (Tag.chars ⟨0, "bold".toList⟩ ++ "Alert ".toList) := by
    decide +kernel
  have closing : "[/bold]".toList = Tag.chars ⟨0, '/' :: "bold".toList⟩ := by decide +kernel
  have resolved := Console.resolve_styled opening closing (by decide +kernel) (by decide +kernel) acts ends
    legible (by decide) (by decide)
  rwa [String.empty_append] at resolved

/-- The line about an issue, as it is shown. -/
def shownIssue (issue : Issue) : Printed :=
  .line ("    #" ++ toString issue.number ++ " - " ++ issue.title)

def shownIssues (heading : String) (issues : List Issue) : List Printed :=
  if issues.isEmpty then [] else .line heading :: issues.map shownIssue

theorem resolve_issueLine {title : String} (legible : IsLegible title.toList) (number : Int) :
    Console.resolve ("    #" ++ toString number ++ " - " ++ Console.escape title) =
      .ok ("    #" ++ toString number ++ " - " ++ title) := by
  have frontInert : IsInert ("    #" ++ toString number ++ " - ").toList := by
    rw [String.toList_append, String.toList_append]
    exact (IsInert.append (by decide) (IsInert.toString_int number)).append (by decide)
  exact Console.resolve_behind legible frontInert

theorem map_show_issueEntries (heading : String) {issues : List Issue} (headingInert : IsInert heading.toList)
    (legible : ∀ issue ∈ issues, IsLegible issue.title.toList) :
    (issueEntries heading issues).map Entry.show = (shownIssues heading issues).map .ok := by
  have lines : issues.map (fun issue => (issueLine issue).show) = issues.map fun issue => .ok (shownIssue issue) :=
    List.map_congr_left fun issue member => show_line (resolve_issueLine (legible issue member) issue.number)
  rw [issueEntries, shownIssues]
  split
  · rfl
  · rw [List.map_cons, List.map_cons, List.map_map, List.map_map, Function.comp_def, lines, Function.comp_def,
      show_line (Console.resolve_inert headingInert)]

/-- The texts that a summary shows escaped have neither backslashes nor characters that are never printed. -/
structure HasLegibleTexts (change : Change) : Prop where
  name : IsLegible change.alert.name.toList
  warnings : ∀ unknown ∈ change.unknown, IsLegible unknown.message.toList
  left : ∀ issue ∈ change.left, IsLegible issue.title.toList
  entered : ∀ issue ∈ change.entered, IsLegible issue.title.toList

/-- The summary of a change as it is shown, with the lines about users as they come out. -/
def shownSummary (change : Change) : List (Except Console.MarkupError Printed) :=
  [.ok (.line ("Alert " ++ change.alert.name)), .ok (.line "    Owners:")] ++
    change.alert.owners.map (fun user => (userLine user).show) ++ [.ok (.line "    CC:")] ++
    change.alert.copies.map (fun user => (userLine user).show) ++
    change.unknown.map (fun unknown => .ok (.line ("  WARNING: " ++ unknown.message))) ++
    (shownIssues "  only start:" change.left ++ shownIssues "  only end:" change.entered).map .ok

theorem map_show_summary {change : Change} (legible : change.HasLegibleTexts) :
    change.summary.map Entry.show = change.shownSummary := by
  have warnings : change.unknown.map (fun unknown => (indentedWarning unknown).show) =
      change.unknown.map fun unknown => .ok (.line ("  WARNING: " ++ unknown.message)) :=
    List.map_congr_left fun unknown member => show_line (resolve_indentedWarning (legible.warnings unknown member))
  have owners : (Entry.line "    Owners:").show = .ok (.line "    Owners:") :=
    show_line (Console.resolve_inert (by decide))
  have copies : (Entry.line "    CC:").show = .ok (.line "    CC:") :=
    show_line (Console.resolve_inert (by decide))
  have left := map_show_issueEntries "  only start:" (by decide) legible.left
  have entered := map_show_issueEntries "  only end:" (by decide) legible.entered
  simp only [summary, shownSummary, List.map_append, List.map_cons, List.map_nil, List.map_map, Function.comp_def,
    show_line (resolve_heading legible.name), owners, copies, warnings, left, entered, List.append_assoc]

end Change
end IssueWatch.Alert
