import IssueWatch.Proofs.Alert.History
import IssueWatch.Proofs.Alert.Mailing
import IssueWatch.Proofs.Command.Loading

/-!
# What the command on two snapshots mails

A run that mails anything tells of changed alerts only, in the order of their file and in one session for
each.  It ends with the exit code of success only if every message that is due was delivered.
-/
namespace IssueWatch

namespace Command

/-- The two snapshots that a run compares, each with the collection of its entries of a kind. -/
structure Comparison where
  first : Snapshot
  start : Collection
  second : Snapshot
  finish : Collection

namespace Comparison

/-- Messages link to the repository of the later snapshot. -/
def repository (comparison : Comparison) : Repository :=
  ⟨comparison.second.org, comparison.second.repo⟩

/-- The change of an alert, with a mark if torn strings are in the message about it. -/
def change (comparison : Comparison) (alert : Alert) : Alert.Change :=
  (alert.change comparison.start comparison.finish).markTears comparison.first.tears comparison.second.tears
    comparison.repository

/-- An alert matches other numbers in the later collection. -/
def Changed (comparison : Comparison) (alert : Alert) : Prop :=
  alert.matched comparison.start ≠ alert.matched comparison.finish

instance (comparison : Comparison) : DecidablePred comparison.Changed := fun alert =>
  inferInstanceAs (Decidable (alert.matched comparison.start ≠ alert.matched comparison.finish))

end Comparison

/-- Files hold alerts and the two collections to compare. -/
structure Loaded (workspace : Workspace) (startFile endFile alertsFile : Path) (kind : String)
    (alerts : List Alert) (comparison : Comparison) : Prop where
  alertsLoaded : Alert.load workspace alertsFile = .ok alerts
  startLoaded : Loads workspace startFile kind comparison.first comparison.start
  finishLoaded : Loads workspace endFile kind comparison.second comparison.finish

/-- Sessions about changed alerts behind earlier steps, each with its alert and its failure if it has one,
and the steps of all of them. -/
inductive Notices (environment : Environment) (server : Mail.Server) (comparison : Comparison) :
    List Mail.Event → List (Alert × Option Mail.Failure) → List Mail.Event → Prop where
  | nothing {earlier : List Mail.Event} :
      Notices environment server comparison earlier [] []
  | notice {earlier steps rest : List Mail.Event} {alert : Alert} {failure? : Option Mail.Failure}
      {sessions : List (Alert × Option Mail.Failure)} {settings : Mail.Settings} {sender : String}
      {message : Mail.Message}
      (configured : mailSettings environment = .ok (settings, sender))
      (changed : comparison.Changed alert)
      (written : message = (comparison.change alert).message comparison.repository)
      (addressed : message.recipients ++ message.copies =
        alert.owners.map User.emailAddress ++ alert.copies.map User.emailAddress)
      (session : Mail.IsSession server settings sender message earlier steps failure?)
      (more : Notices environment server comparison (earlier ++ steps) sessions rest) :
      Notices environment server comparison earlier ((alert, failure?) :: sessions)
        (steps ++ rest)

/-- The alerts that match other numbers in the later collection. -/
def changedAlerts (comparison : Comparison) (alerts : List Alert) : List Alert :=
  alerts.filter fun alert => comparison.Changed alert

/-- There is no address to send from: neither a sender nor a user is named. -/
def LacksSender (environment : Environment) : Prop :=
  Environment.filled (environment.get? "GH_REPORT_SMTP_FROM") = none ∧
    Environment.filled (environment.get? "GH_REPORT_SMTP_USER") = none

end Command

namespace Alert

variable {environment : Environment} {server : Mail.Server} {settings : Mail.Settings}
  {sender : String} {comparison : Comparison}

open Command

/-- What mailing the changes of alerts comes to, with the sessions that were held. -/
structure Mailed (environment : Environment) (server : Mail.Server) (comparison : Comparison)
    (alerts : List Alert) (world : World)
    (sessions : List (Alert × Option Mail.Failure)) (result : Except Stop (List String) × World) :
    Prop where
  trace : ∃ steps, result.2.mail = world.mail ++ steps ∧
    Notices environment server comparison world.mail sessions steps
  order : (sessions.map Prod.fst).Sublist (changedAlerts comparison alerts)
  complete : ∀ failed, result.1 = .ok failed →
    sessions.map Prod.fst = changedAlerts comparison alerts ∧
      (failed = [] → ∀ session ∈ sessions, session.2 = none)
  fails : ∀ stop, result.1 = .error stop → stop ≠ .exit 0

theorem changedAlerts_cons_of_ne {alert : Alert} (rest : List Alert)
    (changed : comparison.Changed alert) :
    changedAlerts comparison (alert :: rest) = alert :: changedAlerts comparison rest :=
  List.filter_cons_of_pos (by simpa using changed)

/-- A session behind which the command stops. -/
theorem Mailed.stopped {alert : Alert} (rest : List Alert) {world after : World}
    {failure? : Option Mail.Failure} {steps : List Mail.Event} {stop : Stop}
    (configured : mailSettings environment = .ok (settings, sender))
    (changed : comparison.Changed alert)
    (session : Mail.IsSession server settings sender ((comparison.change alert).message comparison.repository)
      world.mail steps failure?)
    (sent : after.mail = world.mail ++ steps) (failure : stop ≠ .exit 0) :
    Mailed environment server comparison (alert :: rest) world [(alert, failure?)]
      (.error stop, after) where
  trace := by
    refine ⟨steps ++ [], by rw [sent, List.append_nil], ?_⟩
    exact .notice configured changed rfl rfl session .nothing
  order := by
    rw [changedAlerts_cons_of_ne rest changed]
    exact (List.nil_sublist _).cons_cons alert
  complete failed completed := by cases completed
  fails found foundEq := by
    cases foundEq
    exact failure

/-- A session in front of others. The names of failed alerts may grow, and do so if it failed. -/
theorem Mailed.behind {alert : Alert} {rest : List Alert} {world between : World}
    {failure? : Option Mail.Failure} {sessions : List (Alert × Option Mail.Failure)}
    {steps : List Mail.Event} {result : Except Stop (List String) × World}
    (configured : mailSettings environment = .ok (settings, sender))
    (changed : comparison.Changed alert)
    (session : Mail.IsSession server settings sender ((comparison.change alert).message comparison.repository)
      world.mail steps failure?)
    (sent : between.mail = world.mail ++ steps)
    (more : Mailed environment server comparison rest between sessions result)
    (extend : List String → List String)
    (named : ∀ failed, extend failed = [] → failed = [] ∧ failure? = none) :
    Mailed environment server comparison (alert :: rest) world
      ((alert, failure?) :: sessions) (result.1.map extend, result.2) where
  trace := by
    obtain ⟨others, mail, notices⟩ := more.trace
    refine ⟨steps ++ others, by rw [mail, sent, List.append_assoc], ?_⟩
    rw [sent] at notices
    exact .notice configured changed rfl rfl session notices
  order := by
    rw [changedAlerts_cons_of_ne rest changed]
    exact more.order.cons_cons alert
  complete failed completed := by
    obtain ⟨_ | others, after⟩ := result
    · cases completed
    obtain ⟨all, noneFailed⟩ := more.complete others rfl
    rw [changedAlerts_cons_of_ne rest changed, List.map_cons, all]
    refine ⟨rfl, fun empty => ?_⟩
    cases completed
    obtain ⟨othersEmpty, delivered⟩ := named others empty
    intro other member
    rcases List.mem_cons.mp member with rfl | inRest
    · exact delivered
    · exact noneFailed othersEmpty other inRest
  fails stop stopped := by
    obtain ⟨_ | _, after⟩ := result
    · cases stopped
      exact more.fails stop rfl
    · cases stopped

end Alert

namespace Command

variable {environment : Environment} {server : Mail.Server} {comparison : Comparison}

/-- What has been mailed in the end, with the sessions that were held. -/
structure Notified (environment : Environment) (server : Mail.Server) (comparison : Comparison) (dryRun : Bool)
    (alerts : List Alert)
    (sessions : List (Alert × Option Mail.Failure)) (result : Except Stop Unit × World) : Prop where
  trace : Notices environment server comparison [] sessions result.2.mail
  order : (sessions.map Prod.fst).Sublist alerts
  silent : dryRun = true ∨ changedAlerts comparison alerts = [] ∨ LacksSender environment →
    result.2.mail = []
  complete : result.1 = .ok () → dryRun = false →
    sessions = (changedAlerts comparison alerts).map fun alert => (alert, none)
  fails : result.1 ≠ .error (.exit 0)

theorem Notified.ofNothing {dryRun : Bool} {alerts : List Alert} {result : Except Stop Unit × World}
    (nothing : result.2.mail = []) (fails : result.1 ≠ .error (.exit 0))
    (due : result.1 = .ok () → dryRun = false → changedAlerts comparison alerts = []) :
    Notified environment server comparison dryRun alerts [] result where
  trace := by
    rw [nothing]
    exact .nothing
  order := List.nil_sublist _
  silent _ := nothing
  complete success mailing := by
    rw [due success mailing]
    rfl
  fails := fails

/-- A quiet action in front changes nothing about what is mailed. -/
theorem Notified.behind {dryRun : Bool} {alerts : List Alert} {action : Action Unit}
    {next : Unit → Action Unit} {world : World} (quiet : action.Quiet) (fresh : world.mail = [])
    (notified : ∀ after, after.mail = [] → ∃ sessions, Notified environment server comparison dryRun alerts sessions (Action.perform (next ()) after)) :
    ∃ sessions, Notified environment server comparison dryRun alerts sessions
      (Action.perform (action >>= next) world) := by
  obtain ⟨_, after, done, mail, _⟩ | ⟨stop, after, stopped, mail, failure⟩ :=
    quiet.goes_on_or_stops world
  · rw [Action.perform_bind_ok done]
    exact notified after (mail.trans fresh)
  · rw [Action.perform_bind_error stopped]
    refine ⟨[], .ofNothing (mail.trans fresh) ?_ nofun⟩
    intro stopEq
    cases stopEq
    exact failure rfl

theorem Loaded.unique {workspace : Workspace} {startFile endFile alertsFile : Path} {kind : String}
    {alerts otherAlerts : List Alert} {other : Comparison}
    (loaded : Loaded workspace startFile endFile alertsFile kind alerts comparison)
    (again : Loaded workspace startFile endFile alertsFile kind otherAlerts other) :
    otherAlerts = alerts ∧ other = comparison := by
  obtain ⟨first, start, second, finish⟩ := comparison
  obtain ⟨otherFirst, otherStart, otherSecond, otherFinish⟩ := other
  obtain ⟨alertsEq, startLoaded, finishLoaded⟩ := loaded
  obtain ⟨otherAlertsEq, otherStartLoaded, otherFinishLoaded⟩ := again
  rw [alertsEq] at otherAlertsEq
  cases otherAlertsEq
  obtain ⟨rfl, rfl⟩ := startLoaded.unique otherStartLoaded
  obtain ⟨rfl, rfl⟩ := finishLoaded.unique otherFinishLoaded
  exact ⟨rfl, rfl⟩

end Command
end IssueWatch
