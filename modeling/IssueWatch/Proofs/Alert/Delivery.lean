import IssueWatch.Proofs.Alert.Mailing
import IssueWatch.Proofs.Console.Escape

/-!
# Mailing goes on behind failures

A message that the server does not take keeps no later one from being sent, as long as what the server
says can be shown: its text is printed as markup.  The first failure whose line cannot be shown stops the
mailing behind its session.
-/
namespace IssueWatch

namespace Alert

/-- A session for each of some changes in turn behind earlier steps, with its failure if it has one, and
the steps of all of them. -/
inductive Attempts (server : Mail.Server) (settings : Mail.Settings) (sender : String)
    (repository : Repository) :
    List Mail.Event → List (Change × Option Mail.Failure) → List Mail.Event → Prop where
  | nothing {earlier : List Mail.Event} : Attempts server settings sender repository earlier [] []
  | attempt {earlier steps rest : List Mail.Event} {change : Change} {failure? : Option Mail.Failure}
      {attempts : List (Change × Option Mail.Failure)}
      (session : Mail.IsSession server settings sender (change.message repository) earlier steps failure?)
      (more : Attempts server settings sender repository (earlier ++ steps) attempts rest) :
      Attempts server settings sender repository earlier ((change, failure?) :: attempts) (steps ++ rest)

/-- The names of the alerts whose message failed. -/
def failedNames (attempts : List (Change × Option Mail.Failure)) : List String :=
  (attempts.filter fun attempt => attempt.2.isSome).map fun attempt => attempt.1.alert.name

theorem failedNames_cons (change : Change) (failure? : Option Mail.Failure)
    (attempts : List (Change × Option Mail.Failure)) :
    failedNames ((change, failure?) :: attempts) =
      change.addFailed failure? (failedNames attempts) := by
  cases failure? <;> rfl

/-- The line about a failure can be shown, if there was one. -/
def Told (attempt : Change × Option Mail.Failure) : Prop :=
  ∀ failure ∈ attempt.2, ∀ text ∈ failure.text?,
    ∃ shown, Console.resolve (attempt.1.failureLine text) = .ok shown

/-- The message about a change holds whole characters, its headers can be written, and its addresses are in ASCII, as
the commands to a mail server are. -/
structure Sendable (sender : String) (repository : Repository) (change : Change) : Prop where
  whole : change.isTorn = false
  headers : (change.message repository).check sender = .ok ()
  addresses : ∀ address ∈ sender :: (change.message repository).everyone, Mail.isAscii address = true

variable {server : Mail.Server} {settings : Mail.Settings} {sender : String} {repository : Repository}

/-- Mailing holds all sessions and names the alerts whose message failed. -/
structure Completes (world : World) (attempts : List (Change × Option Mail.Failure))
    (steps : List Mail.Event) (result : Except Stop (List String) × World) : Prop where
  told : ∀ attempt ∈ attempts, Told attempt
  named : result.1 = .ok (failedNames attempts)
  sent : result.2.mail = world.mail ++ steps

/-- Mailing stops behind the session of the first attempt that cannot be told. -/
structure StopsBehind (server : Mail.Server) (settings : Mail.Settings) (sender : String)
    (repository : Repository) (world : World) (before : List (Change × Option Mail.Failure))
    (attempt : Change × Option Mail.Failure) (result : Except Stop (List String) × World) : Prop where
  told : ∀ other ∈ before, Told other
  untold : ¬ Told attempt
  fails : ∃ error, result.1 = .error (.markup error)
  sent : ∃ steps, result.2.mail = world.mail ++ steps ∧
    Attempts server settings sender repository world.mail (before ++ [attempt]) steps

/-- Mailing some changes completes an attempt for each of them, or stops behind one. -/
def MailsTo (server : Mail.Server) (settings : Mail.Settings) (sender : String)
    (repository : Repository) (world : World) (changes : List Change)
    (result : Except Stop (List String) × World) : Prop :=
  ∃ attempts steps, Attempts server settings sender repository world.mail attempts steps ∧
    attempts.map Prod.fst = changes ∧
    (Completes world attempts steps result ∨
      ∃ before attempt after, attempts = before ++ attempt :: after ∧
        StopsBehind server settings sender repository world before attempt result)

theorem exists_attempts (server : Mail.Server) (settings : Mail.Settings) (sender : String)
    (repository : Repository) (changes : List Change) (earlier : List Mail.Event) :
    ∃ attempts steps, Attempts server settings sender repository earlier attempts steps ∧
      attempts.map Prod.fst = changes := by
  induction changes generalizing earlier with
  | nil => exact ⟨[], [], .nothing, rfl⟩
  | cons change rest induction =>
      obtain ⟨steps, _, session⟩ :=
        Mail.isSession_deliver server settings sender (change.message repository) earlier
      obtain ⟨attempts, others, attempted, changesEq⟩ := induction (earlier ++ steps)
      exact ⟨_, _, .attempt session attempted, by rw [List.map_cons, changesEq]⟩

variable {world after : World} {change : Change} {changes : List Change}
  {failure? : Option Mail.Failure} {steps : List Mail.Event}

/-- An attempt that cannot be told keeps the others from being made. -/
theorem MailsTo.stopped
    (session : Mail.IsSession server settings sender (change.message repository) world.mail steps failure?)
    (sent : after.mail = world.mail ++ steps) (untold : ¬ Told (change, failure?))
    (error : Console.MarkupError) :
    MailsTo server settings sender repository world (change :: changes)
      (.error (.markup error), after) := by
  obtain ⟨attempts, others, attempted, changesEq⟩ :=
    exists_attempts server settings sender repository changes (world.mail ++ steps)
  refine ⟨_, _, .attempt session attempted, by rw [List.map_cons, changesEq],
    .inr ⟨[], _, attempts, rfl, ?_⟩⟩
  refine ⟨nofun, untold, ⟨error, rfl⟩, steps ++ [], by rw [sent, List.append_nil], ?_⟩
  exact .attempt session .nothing

/-- An attempt that can be told in front of others. -/
theorem MailsTo.behind
    (session : Mail.IsSession server settings sender (change.message repository) world.mail steps failure?)
    (sent : after.mail = world.mail ++ steps) (told : Told (change, failure?))
    {result : Except Stop (List String) × World}
    (more : MailsTo server settings sender repository after changes result) :
    MailsTo server settings sender repository world (change :: changes)
      (result.1.map (change.addFailed failure?), result.2) := by
  obtain ⟨attempts, others, attempted, changesEq, outcome⟩ := more
  rw [sent] at attempted
  refine ⟨_, _, .attempt session attempted, by rw [List.map_cons, changesEq], ?_⟩
  rcases outcome with completes | ⟨before, attempt, behind, rfl, stops⟩
  · left
    refine ⟨List.forall_mem_cons.mpr ⟨told, completes.told⟩, ?_, ?_⟩
    · rw [completes.named, failedNames_cons]
      rfl
    · rw [completes.sent, sent, List.append_assoc]
  · right
    obtain ⟨error, failed⟩ := stops.fails
    obtain ⟨done, mail, attemptedBefore⟩ := stops.sent
    rw [sent] at mail attemptedBefore
    refine ⟨_ :: before, attempt, behind, rfl,
      List.forall_mem_cons.mpr ⟨told, stops.told⟩, stops.untold, ⟨error, by rw [failed]; rfl⟩,
      steps ++ done, by rw [mail, List.append_assoc], ?_⟩
    exact .attempt session attemptedBefore

/-- The line about a message that was sent can be shown, whatever the name of its alert. -/
theorem exists_resolve_sentLine (change : Change) :
    ∃ shown, Console.resolve change.sentLine = .ok shown := by
  apply Console.exists_resolve_escape
  · simp
  · simp

theorem told_iff_of_sessionLine? {line : String} (isLine : change.sessionLine? failure? = some line) :
    Told (change, failure?) ↔ ∃ shown, Console.resolve line = .ok shown := by
  cases failure? with
  | none =>
      cases isLine
      exact ⟨fun _ => exists_resolve_sentLine change, fun _ => nofun⟩
  | some failure =>
      obtain ⟨text, isText, rfl⟩ := Option.map_eq_some_iff.mp isLine
      constructor
      · exact fun told => told failure rfl text isText
      · rintro resolves _ ⟨⟩ other isOther
        rw [isText] at isOther
        cases isOther
        exact resolves

theorem Sendable.not_unsendable {fault : Mail.SendFault} (sendable : Sendable sender repository change)
    {earlier : List Mail.Event} :
    ¬ Mail.IsSession server settings sender (change.message repository) earlier steps
      (some (.unsendable fault)) := by
  intro session
  cases session with
  | torn torn => exact Bool.noConfusion (sendable.whole.symm.trans torn)
  | unwritten _ faulty =>
      rw [sendable.headers] at faulty
      cases faulty
  | unaddressed _ _ uncarried =>
      obtain ⟨address, isAddress, refused⟩ := uncarried
      rw [Mail.Server.carries, sendable.addresses address isAddress] at refused
      cases refused

theorem MailsTo.ofMailing {earlier : List Mail.Event} {result : Except Stop (List String)}
    (mailing : Mailing server settings sender repository earlier changes steps result)
    (sendable : ∀ change ∈ changes, Sendable sender repository change) (start : world.mail = earlier)
    (sent : after.mail = earlier ++ steps) :
    MailsTo server settings sender repository world changes (result, after) := by
  induction mailing generalizing world with
  | nothing =>
      rw [List.append_nil, ← start] at sent
      exact ⟨[], [], .nothing, rfl, .inl ⟨nofun, rfl, sent.trans (List.append_nil _).symm⟩⟩
  | @shown earlier steps rest change changes failure? line text result session isLine resolved _
      induction =>
      subst start
      rw [← List.append_assoc] at sent
      let between : World := { world with mail := world.mail ++ steps }
      have others : MailsTo server settings sender repository between changes (result, after) :=
        induction (List.forall_mem_cons.mp sendable).2 rfl sent
      exact others.behind session rfl ((told_iff_of_sessionLine? isLine).mpr ⟨text, resolved⟩)
  | unshown session isLine unresolved =>
      subst start
      refine .stopped session sent (fun told => ?_) _
      obtain ⟨shown, resolved⟩ := (told_iff_of_sessionLine? isLine).mp told
      rw [unresolved] at resolved
      cases resolved
  | unsendable session =>
      exact absurd session (List.forall_mem_cons.mp sendable).1.not_unsendable

theorem mailsTo_mailAll (server : Mail.Server) (settings : Mail.Settings) (changes : List Change)
    (world : World)
    (sendable : ∀ change ∈ changes, change.isChange = true → Sendable sender repository change) :
    MailsTo server settings sender repository world (changes.filter Change.isChange)
      (Action.perform (mailAll server settings sender repository changes) world) := by
  obtain ⟨steps, mailing, sent⟩ := mails_mailAll server settings sender repository changes world
  refine .ofMailing mailing (fun change member => ?_) rfl sent
  obtain ⟨inChanges, isChange⟩ := List.mem_filter.mp member
  exact sendable change inChanges isChange

/-- A text without brackets and backslashes. -/
def PlainText (text : String) : Prop :=
  ∀ c ∈ text.toList, c ≠ '\\' ∧ c ≠ '[' ∧ c ≠ ']'

/-- Everything that a server says is plain. -/
structure SpeaksPlainly (server : Mail.Server) : Prop where
  refusal : ∀ trace, ∀ text ∈ server.refuses trace, PlainText text
  rejection : ∀ trace recipients, ∀ text ∈ server.rejects trace recipients, PlainText text

theorem told_of_plainText {change : Change} {failure : Mail.Failure}
    (plain : ∀ text ∈ failure.text?, PlainText text) : Told (change, some failure) := by
  rintro _ ⟨⟩ text isText
  have frontPlain : ∀ c ∈ "❌ Failed to send alert '".toList, c ≠ '\\' ∧ c ≠ '[' := by simp
  have templatePlain : PlainText "': " := by simp [PlainText]
  have behindPlain : ∀ c ∈ ("': " ++ text).toList, c ≠ '\\' ∧ c ≠ '[' ∧ c ≠ ']' := by
    intro c member
    rw [String.toList_append, List.mem_append] at member
    exact member.elim (templatePlain c) (plain text isText c)
  have resolved := Console.exists_resolve_escape change.alert.name frontPlain behindPlain
  rw [← String.append_assoc] at resolved
  exact resolved

theorem told_of_speaksPlainly (plainly : SpeaksPlainly server) {earlier steps : List Mail.Event}
    {attempts : List (Change × Option Mail.Failure)}
    (attempted : Attempts server settings sender repository earlier attempts steps) :
    ∀ attempt ∈ attempts, Told attempt := by
  induction attempted with
  | nothing => exact List.forall_mem_nil _
  | attempt session _ induction =>
      refine List.forall_mem_cons.mpr ⟨?_, induction⟩
      cases session with
      | refused _ refuses =>
          refine told_of_plainText ?_
          rintro _ ⟨⟩
          exact plainly.refusal _ _ refuses
      | rejected _ _ rejects =>
          refine told_of_plainText ?_
          rintro _ ⟨⟩
          exact plainly.rejection _ _ _ rejects
      | torn | unwritten | unaddressed => exact told_of_plainText nofun
      | delivered => exact nofun

/-- Mailing attempts a message for every change in order, passes over the alerts without changes and names
the alerts whose message failed, if and only if the line about each failure can be shown.  Otherwise it
stops behind the first attempt whose line cannot. -/
theorem mailAll_completes_iff_told (server : Mail.Server) (settings : Mail.Settings) (sender : String)
    (repository : Repository) (changes : List Change) (world : World)
    (sendable : ∀ change ∈ changes, change.isChange = true → Sendable sender repository change) :
    let result := Action.perform (mailAll server settings sender repository changes) world
    ∃ attempts steps, Attempts server settings sender repository world.mail attempts steps ∧
      attempts.map Prod.fst = changes.filter Change.isChange ∧
      ((result.1 = .ok (failedNames attempts) ∧ result.2.mail = world.mail ++ steps) ↔
        ∀ attempt ∈ attempts, Told attempt) ∧
      ((∃ attempt ∈ attempts, ¬ Told attempt) →
        ∃ before attempt after, attempts = before ++ attempt :: after ∧
          StopsBehind server settings sender repository world before attempt result) := by
  intro result
  obtain ⟨attempts, steps, attempted, changesEq, completes | ⟨before, attempt, after, split, stops⟩⟩ :=
    mailsTo_mailAll server settings changes world sendable
  · refine ⟨attempts, steps, attempted, changesEq, ⟨fun _ => completes.told, fun _ =>
      ⟨completes.named, completes.sent⟩⟩, ?_⟩
    rintro ⟨attempt, member, untold⟩
    exact absurd (completes.told attempt member) untold
  · obtain ⟨error, failed⟩ := stops.fails
    refine ⟨attempts, steps, attempted, changesEq, ⟨fun done => ?_, fun told => ?_⟩, fun _ =>
      ⟨before, attempt, after, split, stops⟩⟩
    · exact absurd (failed.symm.trans done.1) nofun
    · exact absurd (told attempt (by simp [split])) stops.untold

/-- An alert on open issues, of which there is a new one. -/
def openedChange (name : String) : Change where
  alert := {
    name
    query := .leaf .isOpen
    queryText := "is:open"
    owners := [⟨"n", "n@x", none, "g"⟩] }
  left := []
  entered := [⟨1, "t", "u", "open", false, [], none, none⟩]
  unknown := []

/-- Two changes and an alert without changes between them. -/
def twoOpened : List Change :=
  [openedChange "One", { openedChange "Same" with entered := [] }, openedChange "Two"]

/-- Mailing these to a server that refuses every connection. -/
def mailToRefusing (text : String) : Except Stop (List String) × World :=
  Action.perform (mailAll { refuses := fun _ => some text } ⟨"h", 25, none, none, none, false⟩ "f@x"
    ⟨"o", "r"⟩ twoOpened) {}

theorem sendable_twoOpened :
    ∀ change ∈ twoOpened, change.isChange = true → Sendable "f@x" ⟨"o", "r"⟩ change := by
  have accepted : ∀ change ∈ twoOpened,
      change.isTorn = false ∧ ((change.message ⟨"o", "r"⟩).check "f@x").isOk = true ∧
        ∀ address ∈ "f@x" :: (change.message ⟨"o", "r"⟩).everyone, Mail.isAscii address = true := by
    decide +kernel
  intro change member _
  obtain ⟨whole, headers, addresses⟩ := accepted change member
  refine ⟨whole, ?_, addresses⟩
  cases checked : (change.message ⟨"o", "r"⟩).check "f@x" with
  | error fault =>
      rw [checked] at headers
      cases headers
  | ok _ => rfl

/-- A plain refusal of the first message does not keep the second one from being attempted. -/
theorem mailing_goes_on_behind_refusal :
    (∀ change ∈ twoOpened, change.isChange = true → Sendable "f@x" ⟨"o", "r"⟩ change) ∧
      ∃ attempts steps,
        Attempts { refuses := fun _ => some "down" } ⟨"h", 25, none, none, none, false⟩ "f@x"
          ⟨"o", "r"⟩ [] attempts steps ∧
        attempts.map Prod.fst = twoOpened.filter Change.isChange ∧
        (mailToRefusing "down").1 = .ok (failedNames attempts) ∧
        (mailToRefusing "down").2.mail = steps ∧
        (mailToRefusing "down").1 = .ok ["One", "Two"] ∧
        steps = [.connect "h" 25, .connect "h" 25] := by
  have names : (mailToRefusing "down").1 = .ok ["One", "Two"] := by decide +kernel
  have connections : (mailToRefusing "down").2.mail = [.connect "h" 25, .connect "h" 25] := by
    decide +kernel
  have plainly : SpeaksPlainly { refuses := fun _ => some "down" } := by
    refine ⟨?_, nofun⟩
    rintro _ _ ⟨⟩
    simp [PlainText]
  unfold mailToRefusing at names connections ⊢
  obtain ⟨attempts, steps, attempted, changesEq, completes, _⟩ :=
    mailAll_completes_iff_told { refuses := fun _ => some "down" } ⟨"h", 25, none, none, none, false⟩
      "f@x" ⟨"o", "r"⟩ twoOpened {} sendable_twoOpened
  obtain ⟨named, sent⟩ := completes.mpr (told_of_speaksPlainly plainly attempted)
  rw [List.nil_append] at sent
  exact ⟨sendable_twoOpened, attempts, steps, attempted, changesEq, named, sent, names,
    sent.symm.trans connections⟩

/-- A refusal that is written like a closing tag stops the mailing: nobody hears of the second change. -/
theorem mailing_stopped_by_refusal :
    (∀ change ∈ twoOpened, change.isChange = true → Sendable "f@x" ⟨"o", "r"⟩ change) ∧
      (twoOpened.filter Change.isChange).map (fun change => change.alert.name) = ["One", "Two"] ∧
      (mailToRefusing "[/x]").1 = .error (.markup .unmatched) ∧
      (mailToRefusing "[/x]").2.mail = [.connect "h" 25] :=
  ⟨sendable_twoOpened, by decide +kernel, by decide +kernel, by decide +kernel⟩

end Alert
end IssueWatch
