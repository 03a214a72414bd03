import IssueWatch.Proofs.Alert.Summary
import IssueWatch.Proofs.Command.Agreement
import IssueWatch.Proofs.Query.Citation
import IssueWatch.Proofs.Text.Lines

/-!
# Escaped values on the screen

Wherever a command escapes a value, a value without backslashes and characters that are never printed is shown as
it is, whatever brackets it holds.  So the mark below a rejected query stands under the character that the error is
found at.
-/
namespace IssueWatch

open Console (Entry IsInert IsLegible Printed)

theorem Action.perform_printAll_eq {entries : List Entry} {shown : List Printed}
    (each : List.Forall₂ (fun entry printed => Entry.show entry = .ok printed) entries shown) (world : World) :
    perform (printAll entries) world = (.ok (), { world with printed := world.printed ++ shown }) := by
  induction each generalizing world with
  | nil => simp [printAll]
  | cons showing others induction =>
      rw [printAll, perform_bind_ok (perform_print_ok showing world), induction]
      simp

namespace Command

open Alert (show_line)

/-! ## Rejected queries -/

/-- The lines about a query that cannot be read, as they are shown: the error, the line that holds it, and a mark. -/
def shownSyntaxError (text : String) (error : SyntaxError) : List Printed :=
  let chars := text.toList
  let column := Text.column chars error.position
  [.line ("❌ Invalid query: " ++ error.fault.message ++ " (line " ++
      toString (Text.lineNumber chars error.position) ++ ", column " ++ toString (column + 1) ++ ")"),
    .line ("   " ++ String.ofList (Text.lineAt chars error.position)),
    .line (String.ofList (List.replicate (3 + column) ' ' ++ ['^']))]

theorem show_syntaxErrorLines {text : String} {error : SyntaxError} (rejected : Expr.parse text = .error error)
    (legible : IsLegible text.toList) :
    List.Forall₂ (fun entry printed => Entry.show entry = .ok printed) (syntaxErrorLines text error)
      (shownSyntaxError text error) := by
  have message := Expr.isLegible_message_of_parse rejected legible
  have line : IsLegible (String.ofList (Text.lineAt text.toList error.position)).toList := by
    rw [String.toList_ofList]
    exact fun c member => legible c (Text.mem_of_mem_lineAt member)
  have place (number column : Nat) :
      IsInert (" (line " ++ toString number ++ ", column " ++ toString column ++ ")").toList := by
    simp only [String.toList_append]
    refine (((IsInert.append ?_ (.toString_nat number)).append ?_).append (.toString_nat column)).append ?_
    all_goals decide
  have mark (column : Nat) : "   " ++ String.ofList (List.replicate column ' ') ++ "^" =
      String.ofList (List.replicate (3 + column) ' ' ++ ['^']) := by
    rw [← String.toList_inj]
    simp [List.replicate_add]
  have markInert (column : Nat) : IsInert (List.replicate (3 + column) ' ' ++ ['^']) := by
    refine .append (fun c member => ?_) (by decide)
    rw [List.eq_of_mem_replicate member]
    decide
  refine .cons ?_ (.cons ?_ (.cons ?_ .nil))
  · have resolved := Console.resolve_between message (show IsInert "❌ Invalid query: ".toList by decide +kernel)
      (place (Text.lineNumber text.toList error.position) (Text.column text.toList error.position + 1))
    simp only [← String.append_assoc] at resolved
    exact show_line resolved
  · exact show_line (Console.resolve_behind line (by decide))
  · rw [mark]
    exact show_line (Console.resolve_inert (by rw [String.toList_ofList]; exact markInert _))

theorem perform_query_rejected {world : World} {file : Path} {text kindText : String} {snapshot : Snapshot}
    {collection : Collection} {error : SyntaxError} (loads : Loads world.workspace file kindText snapshot collection)
    (rejected : Expr.parse text = .error error) (legible : IsLegible text.toList) :
    (query file text kindText).perform world =
      (.error (.exit 1), { world with printed := world.printed ++ shownSyntaxError text error }) := by
  rw [perform_query_of_error loads rejected,
    Action.perform_bind_ok (Action.perform_printAll_eq (show_syntaxErrorLines rejected legible) world),
    Action.perform_throw]

/-- The line above the mark has at its place the character at the offset of the error, if the line has one there. -/
theorem getElem?_above_mark (text : String) (error : SyntaxError) :
    let column := Text.column text.toList error.position
    ("   " ++ String.ofList (Text.lineAt text.toList error.position)).toList[3 + column]? =
      text.toList[error.position]?.filter (· != '\n') := by
  intro column
  have behindIndent : 3 + column - "   ".toList.length = column := Nat.add_sub_cancel_left 3 column
  simp only [String.toList_append, String.toList_ofList]
  rw [List.getElem?_append_right (Nat.le_add_right 3 column),
    behindIndent, Text.getElem?_lineAt]

/-! ## Configuration files -/

/-- The lines about a configuration file that cannot be used, as they are shown. -/
def shownConfigError (error : ConfigError) : List Printed :=
  .line ("❌ Invalid configuration: " ++ error.message) ::
    match error.cause? with
    | some cause => [.line ("   " ++ cause)]
    | none => []

/-- The texts that are shown about an error have neither backslashes nor characters that are never printed. -/
structure HasLegibleMessages (error : ConfigError) : Prop where
  message : IsLegible error.message.toList
  cause : ∀ cause, error.cause? = some cause → IsLegible cause.toList

theorem resolve_invalidConfiguration {message : String} (legible : IsLegible message.toList) :
    Console.resolve ("❌ Invalid configuration: " ++ Console.escape message) =
      .ok ("❌ Invalid configuration: " ++ message) :=
  Console.resolve_behind legible (by decide +kernel)

theorem resolve_cause {cause : String} (legible : IsLegible cause.toList) :
    Console.resolve ("   " ++ Console.escape cause) = .ok ("   " ++ cause) :=
  Console.resolve_behind legible (by decide)

theorem show_configErrorLines {error : ConfigError} (legible : HasLegibleMessages error) :
    List.Forall₂ (fun entry printed => Entry.show entry = .ok printed) (configErrorLines error)
      (shownConfigError error) := by
  refine .cons (show_line (resolve_invalidConfiguration legible.message)) ?_
  cases found : error.cause? with
  | none => exact .nil
  | some cause => exact .cons (show_line (resolve_cause (legible.cause cause found))) .nil

theorem perform_alerts_rejected {world : World} {alertsFile : Path} {error : ConfigError}
    (rejected : Alert.load world.workspace alertsFile = .error (.rejected error))
    (legible : HasLegibleMessages error)
    (environment : Environment) (server : Mail.Server) (startFile endFile : Path) (dryRun : Bool) (kindText : String) :
    (alerts environment server startFile endFile alertsFile dryRun kindText).perform world =
      (.error (.exit 1), { world with printed := world.printed ++ shownConfigError error }) := by
  rw [alerts, Action.perform_bind_ok (Action.perform_get world), rejected]
  exact Action.perform_bind_ok (Action.perform_printAll_eq (show_configErrorLines legible) world) _

theorem perform_report_rejected {world : World} {file queriesFile : Path} {kindText : String} {snapshot : Snapshot}
    {collection : Collection} {error : ConfigError} (loads : Loads world.workspace file kindText snapshot collection)
    (rejected : NamedQuery.load world.workspace queriesFile = .error (.rejected error))
    (legible : IsLegible error.message.toList) (output : Path) :
    (report file queriesFile output kindText).perform world =
      (.error (.exit 1),
        { world with printed := world.printed ++ [.line ("❌ Invalid configuration: " ++ error.message)] }) := by
  rw [perform_report_of_error loads rejected]
  exact Action.perform_giveUp_ok (resolve_invalidConfiguration legible) world

/-! ## All templates -/

/-- Whatever a command prints around an escaped value, it is shown with the value as it is: alone in a cell, as a
warning, as the heading or an issue of a summary, and on both lines about an invalid configuration. -/
structure IsShownVerbatim (value : String) : Prop where
  cell : Console.resolve (Console.escape value) = .ok value
  warning : Console.resolve ("[yellow]WARNING: " ++ Console.escape value ++ "[/yellow]") = .ok ("WARNING: " ++ value)
  indentedWarning : Console.resolve ("  [yellow]WARNING: " ++ Console.escape value ++ "[/yellow]") =
    .ok ("  WARNING: " ++ value)
  heading : Console.resolve ("[bold]Alert " ++ Console.escape value ++ "[/bold]") = .ok ("Alert " ++ value)
  issue (number : Int) : Console.resolve ("    #" ++ toString number ++ " - " ++ Console.escape value) =
    .ok ("    #" ++ toString number ++ " - " ++ value)
  configuration : Console.resolve ("❌ Invalid configuration: " ++ Console.escape value) =
    .ok ("❌ Invalid configuration: " ++ value)
  cause : Console.resolve ("   " ++ Console.escape value) = .ok ("   " ++ value)

theorem isShownVerbatim_of_isLegible {value : String} (legible : IsLegible value.toList) : IsShownVerbatim value where
  cell := Console.resolve_escape legible.survivesEscape
  warning := Alert.resolve_warning legible
  indentedWarning := Alert.Change.resolve_indentedWarning legible
  heading := Alert.Change.resolve_heading legible
  issue := Alert.Change.resolve_issueLine legible
  configuration := resolve_invalidConfiguration legible
  cause := resolve_cause legible

/-- What commands print around a value that they escape is shown with the value as it is, if that has no backslash and
no character that is never printed.  So are the warnings and the summaries of changes, both lines about an invalid
configuration, whatever error they are about, and those about a rejected query.  The mark below a rejected query
stands under the character at the offset of the error, if there is one on the line. -/
theorem escaped_values_shown_verbatim :
    (∀ unknown : UnknownName, IsLegible unknown.message.toList →
      (Alert.warningLine unknown).show = .ok (.line ("WARNING: " ++ unknown.message))) ∧
    (∀ change : Alert.Change, change.HasLegibleTexts → change.summary.map Entry.show = change.shownSummary) ∧
    (∀ value : String, IsLegible value.toList → IsShownVerbatim value) ∧
    (∀ (world : World) (alertsFile : Path) (error : ConfigError),
      Alert.load world.workspace alertsFile = .error (.rejected error) → HasLegibleMessages error →
      ∀ environment server startFile endFile dryRun kindText,
        (alerts environment server startFile endFile alertsFile dryRun kindText).perform world =
          (.error (.exit 1), { world with printed := world.printed ++ shownConfigError error })) ∧
    ∀ (world : World) (file : Path) (kindText : String) (snapshot : Snapshot) (collection : Collection),
      Loads world.workspace file kindText snapshot collection →
      (∀ queriesFile output error, NamedQuery.load world.workspace queriesFile = .error (.rejected error) →
        IsLegible error.message.toList →
        (report file queriesFile output kindText).perform world = (.error (.exit 1), { world with
          printed := world.printed ++ [.line ("❌ Invalid configuration: " ++ error.message)] })) ∧
      ∀ text error, Expr.parse text = .error error → IsLegible text.toList →
        (query file text kindText).perform world =
          (.error (.exit 1), { world with printed := world.printed ++ shownSyntaxError text error }) ∧
        ("   " ++ String.ofList (Text.lineAt text.toList error.position)).toList[
            3 + Text.column text.toList error.position]? = text.toList[error.position]?.filter (· != '\n') := by
  refine ⟨fun unknown legible => Alert.show_warningLine legible,
    fun change legible => Alert.Change.map_show_summary legible,
    fun value legible => isShownVerbatim_of_isLegible legible,
    fun world alertsFile error rejected legible => perform_alerts_rejected rejected legible,
    fun world file kindText snapshot collection loads => ⟨?_, ?_⟩⟩
  · exact fun queriesFile output error rejected legible => perform_report_rejected loads rejected legible output
  · exact fun text error rejected legible =>
      ⟨perform_query_rejected loads rejected legible, getElem?_above_mark text error⟩

/-- A closing bracket in a name and an unfinished tag at the end of a query are shown, and the mark stands under the
bracket that opens the tag. -/
theorem rejected_query_with_brackets_shown :
    let text := "label:\"]x[/y]\" [b"
    let world := filesWithRepeatedNumber
    (query (.ofText "s.json") text "all").perform world = (.error (.exit 1), { world with printed := [
      .line "❌ Invalid query: Unexpected term '[b' (line 1, column 16)",
      .line "   label:\"]x[/y]\" [b",
      .line "                  ^"] }) ∧
    (text.toList)[15]? = some '[' := by
  intro text world
  have rejected : Expr.parse text = .error ⟨.unexpectedTerm "[b", 15⟩ := by decide +kernel
  have legible : IsLegible text.toList := by decide +kernel
  have shown := ((escaped_values_shown_verbatim.2.2.2.2 world (.ofText "s.json") "all" _ _ loads_withoutIssues).2 text _
    rejected legible).1
  have lines : shownSyntaxError text ⟨.unexpectedTerm "[b", 15⟩ = [
      .line "❌ Invalid query: Unexpected term '[b' (line 1, column 16)",
      .line "   label:\"]x[/y]\" [b",
      .line "                  ^"] := by
    decide +kernel
  rw [lines] at shown
  exact ⟨shown, by decide +kernel⟩

end Command
end IssueWatch
