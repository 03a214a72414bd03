import IssueWatch.Proofs.Action
import IssueWatch.Proofs.Mail.Session

/-!
# Mailing changes one after the other

Mailing holds a session for each change in turn and says on the screen how it ended.  It stops behind the
first session of which that cannot be shown, or whose message cannot be sent whatever the server says.
-/
namespace IssueWatch

/-- What the server says about a failure. -/
def Mail.Failure.text? : Mail.Failure → Option String
  | .refused text | .rejected text => some text
  | .unsendable _ => none

namespace Alert

namespace Change

/-- The line about a change whose message was sent. -/
def sentLine (change : Change) : String :=
  "📧 Sent alert '" ++ Console.escape change.alert.name ++ "'"

/-- The line about a change whose message the server did not take. -/
def failureLine (change : Change) (text : String) : String :=
  "❌ Failed to send alert '" ++ Console.escape change.alert.name ++ "': " ++ text

/-- The line about how the session for a change ended.  There is none if the message cannot be sent
whatever the server says. -/
def sessionLine? (change : Change) : Option Mail.Failure → Option String
  | none => some change.sentLine
  | some failure => failure.text?.map change.failureLine

/-- Puts the alert of a change in front of the failed ones if its message failed. -/
def addFailed (change : Change) (failure? : Option Mail.Failure) (names : List String) : List String :=
  match failure? with
  | none => names
  | some _ => change.alert.name :: names

end Change

/-- Mailing changes behind earlier steps: the steps of the sessions for them, and the names of the alerts
whose message failed unless it stops. -/
inductive Mailing (server : Mail.Server) (settings : Mail.Settings) (sender : String)
    (repository : Repository) :
    List Mail.Event → List Change → List Mail.Event → Except Stop (List String) → Prop where
  | nothing {earlier : List Mail.Event} :
      Mailing server settings sender repository earlier [] [] (.ok [])
  | shown {earlier steps rest : List Mail.Event} {change : Change} {changes : List Change}
      {failure? : Option Mail.Failure} {line : String} {text : String}
      {result : Except Stop (List String)}
      (session : Mail.IsSession server settings sender (change.message repository) earlier steps failure?)
      (isLine : change.sessionLine? failure? = some line) (resolved : Console.resolve line = .ok text)
      (more : Mailing server settings sender repository (earlier ++ steps) changes rest result) :
      Mailing server settings sender repository earlier (change :: changes) (steps ++ rest)
        (result.map (change.addFailed failure?))
  | unshown {earlier steps : List Mail.Event} {change : Change} {changes : List Change}
      {failure? : Option Mail.Failure} {line : String} {error : Console.MarkupError}
      (session : Mail.IsSession server settings sender (change.message repository) earlier steps failure?)
      (isLine : change.sessionLine? failure? = some line)
      (unresolved : Console.resolve line = .error error) :
      Mailing server settings sender repository earlier (change :: changes) steps
        (.error (.markup error))
  | unsendable {earlier steps : List Mail.Event} {change : Change} {changes : List Change}
      {fault : Mail.SendFault}
      (session : Mail.IsSession server settings sender (change.message repository) earlier steps
        (some (.unsendable fault))) :
      Mailing server settings sender repository earlier (change :: changes) steps
        (.error (.unsendable fault))

/-- An action mails changes from any world on. -/
def Mails (server : Mail.Server) (settings : Mail.Settings) (sender : String) (repository : Repository)
    (changes : List Change) (action : Action (List String)) : Prop :=
  ∀ world : World, ∃ steps,
    Mailing server settings sender repository world.mail changes steps (action.perform world).1 ∧
      (action.perform world).2.mail = world.mail ++ steps

variable {server : Mail.Server} {settings : Mail.Settings} {sender : String} {repository : Repository}

/-- Sending a message holds a session for it, and tells only how that ended. -/
theorem exists_perform_send (server : Mail.Server) (settings : Mail.Settings) (sender : String)
    (message : Mail.Message) (world : World) :
    ∃ steps failure? after, Mail.IsSession server settings sender message world.mail steps failure? ∧
      Action.perform (Action.send server settings sender message) world = (.ok failure?, after) ∧
      after.mail = world.mail ++ steps := by
  obtain ⟨steps, sent, session⟩ :=
    Mail.isSession_deliver server settings sender message world.mail
  exact ⟨steps, _, _, session, Action.perform_send server settings sender message world, sent⟩

/-- Behind a session the line about it is shown, and other changes are mailed. -/
theorem exists_mailing_said {world after : World} {change : Change} {changes : List Change}
    {failure? : Option Mail.Failure} {steps : List Mail.Event} {line : String}
    {action : Action (List String)}
    (session : Mail.IsSession server settings sender (change.message repository) world.mail steps failure?)
    (sent : after.mail = world.mail ++ steps) (isLine : change.sessionLine? failure? = some line)
    (others : Mails server settings sender repository changes action) :
    let said : Action (List String) := do
      Action.say line
      return change.addFailed failure? (← action)
    ∃ all, Mailing server settings sender repository world.mail (change :: changes) all
        (said.perform after).1 ∧ (said.perform after).2.mail = world.mail ++ all := by
  intro said
  cases resolved : Console.resolve line with
  | ok shown =>
      obtain ⟨later, performed, laterMail⟩ : ∃ later,
          Action.perform (Action.say line) after = (.ok (), later) ∧
            later.mail = world.mail ++ steps :=
        ⟨_, Action.perform_say_ok resolved after, sent⟩
      obtain ⟨rest, more, mail⟩ := others later
      rw [laterMail] at more mail
      rw [Action.perform_bind_ok performed, Action.perform_map]
      exact ⟨_, .shown session isLine resolved more, by rw [mail, List.append_assoc]⟩
  | error error =>
      rw [Action.perform_bind_error (Action.perform_say_error resolved _)]
      exact ⟨_, .unshown session isLine resolved, sent⟩

theorem mails_mailAll (server : Mail.Server) (settings : Mail.Settings) (sender : String)
    (repository : Repository) (changes : List Change) :
    Mails server settings sender repository (changes.filter Change.isChange)
      (mailAll server settings sender repository changes) := by
  induction changes with
  | nil => exact fun world => ⟨[], .nothing, (List.append_nil _).symm⟩
  | cons change rest induction =>
      intro world
      rw [mailAll]
      cases isChange : change.isChange with
      | false =>
          rw [List.filter_cons_of_neg (by simp [isChange])]
          exact induction world
      | true =>
          rw [List.filter_cons_of_pos isChange]
          obtain ⟨steps, failure?, after, session, performed, sent⟩ :=
            exists_perform_send server settings sender (change.message repository) world
          simp only [↓reduceIte]
          rw [Action.perform_bind_ok performed]
          have said {line : String} (isLine : change.sessionLine? failure? = some line) :=
            exists_mailing_said session sent isLine induction
          rcases failure? with _ | text | text | fault
          · have sentSaid := said rfl
            unfold Change.sentLine at sentSaid
            simpa only [Change.addFailed, bind_pure] using sentSaid
          · have failureSaid := said rfl
            unfold Change.failureLine at failureSaid
            simpa only [Change.addFailed] using failureSaid
          · have failureSaid := said rfl
            unfold Change.failureLine at failureSaid
            simpa only [Change.addFailed] using failureSaid
          · exact ⟨_, .unsendable session, sent⟩

end Alert
end IssueWatch
