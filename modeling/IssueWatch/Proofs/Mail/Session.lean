import IssueWatch.Mail

/-!
# Delivering a message is one session

What is done to deliver a message are the steps of a session for it, behind all earlier steps.
-/
namespace IssueWatch.Mail

/-!
## Traces of mail sessions

The steps that a session for a message consists of, and how it ends.  The server is asked for encryption
before anyone logs in, and the message goes to all recipients at once.
-/

/-- The account that is used: one with a name and a password, neither of which is empty. -/
def Settings.account? (settings : Settings) : Option (String × String) :=
  match settings.user, settings.password with
  | some user, some password => if user ≠ "" ∧ password ≠ "" then some (user, password) else none
  | _, _ => none

/-- The steps in front of the message: the connection, encryption and login. -/
def Settings.opening (settings : Settings) : List Event :=
  [.connect settings.host settings.port] ++ (if settings.startTls then [.startTls] else []) ++
    (settings.account?.map fun (user, password) => Event.login user password).toList

/-- The server is asked for a connection for a message, and grants it. -/
structure Connects (server : Server) (settings : Settings) (message : Message) (earlier : List Event) : Prop where
  whole : message.isTorn = false
  accepts : server.refuses (earlier ++ [.connect settings.host settings.port]) = none

/-- The steps of the session for a message behind earlier steps, and its failure if it has one.  For a torn body
there is no step, a refused connection has no other step, and a message with a header that cannot be written is not
sent. -/
inductive IsSession (server : Server) (settings : Settings) (sender : String) (message : Message)
    (earlier : List Event) : List Event → Option Failure → Prop where
  | torn (torn : message.isTorn = true) :
      IsSession server settings sender message earlier [] (some (.unsendable .body))
  | refused {text : String}
      (whole : message.isTorn = false)
      (refuses : server.refuses (earlier ++ [.connect settings.host settings.port]) = some text) :
      IsSession server settings sender message earlier [.connect settings.host settings.port]
        (some (.refused text))
  | unwritten {fault : HeaderFault}
      (connects : Connects server settings message earlier)
      (faulty : message.check sender = .error fault) :
      IsSession server settings sender message earlier (settings.opening ++ [.close])
        (some (.unsendable (.header fault)))
  | rejected {text : String}
      (connects : Connects server settings message earlier)
      (written : message.check sender = .ok ())
      (rejects : server.rejects
        (earlier ++ settings.opening ++ [.send sender message.everyone (message.letter sender)])
        message.everyone = some text) :
      IsSession server settings sender message earlier
        (settings.opening ++ [.send sender message.everyone (message.letter sender), .close])
        (some (.rejected text))
  | unaddressed
      (connects : Connects server settings message earlier)
      (written : message.check sender = .ok ())
      (uncarried : ∃ address ∈ sender :: message.everyone, server.carries address = false) :
      IsSession server settings sender message earlier
        (settings.opening ++ [.send sender message.everyone (message.letter sender), .close])
        (some (.unsendable .address))
  | delivered
      (connects : Connects server settings message earlier)
      (written : message.check sender = .ok ())
      (takes : server.rejects
        (earlier ++ settings.opening ++ [.send sender message.everyone (message.letter sender)])
        message.everyone = none)
      (carried : ∀ address ∈ sender :: message.everyone, server.carries address = true) :
      IsSession server settings sender message earlier
        (settings.opening ++ [.send sender message.everyone (message.letter sender), .close]) none

/-! ## Deliveries -/

theorem preparation_eq (settings : Settings) :
    .connect settings.host settings.port :: preparation settings = settings.opening := by
  obtain ⟨host, port, user, password, sender, startTls⟩ := settings
  cases user with
  | none => rfl
  | some user =>
      by_cases noUser : user = ""
      · subst noUser
        cases password <;> rfl
      cases password with
      | none => simp [preparation, Settings.opening, Settings.account?, Environment.filled]
      | some password =>
          by_cases noPassword : password = ""
          · subst noPassword
            simp [preparation, Settings.opening, Settings.account?, Environment.filled]
          · simp [preparation, Settings.opening, Settings.account?, Environment.filled, noUser,
              noPassword]

/-- Behind a connection that is accepted, a message that can be written is sent in a session, however that ends. -/
theorem isSession_handOver {server : Server} {settings : Settings} {sender : String} {message : Message}
    {earlier : List Event}
    (connects : Connects server settings message earlier) (written : message.check sender = .ok ()) :
    IsSession server settings sender message earlier
      (settings.opening ++ [.send sender message.everyone (message.letter sender), .close])
      (handOver server sender message
        (earlier ++ settings.opening ++ [.send sender message.everyone (message.letter sender)])) := by
  unfold handOver
  cases answer : server.rejects
      (earlier ++ settings.opening ++ [.send sender message.everyone (message.letter sender)])
      message.everyone with
  | some text => exact .rejected connects written answer
  | none =>
      cases carried : (sender :: message.everyone).all server.carries with
      | true => exact .delivered connects written answer (List.all_eq_true.mp carried)
      | false =>
          refine .unaddressed connects written ?_
          simpa only [List.all_eq_false, Bool.not_eq_true] using carried

/-- Delivering a message adds the steps of a session for it and tells how the session ended. -/
theorem isSession_deliver (server : Server) (settings : Settings) (sender : String)
    (message : Message) (earlier : List Event) :
    ∃ steps, (deliver server settings sender message earlier).1 = earlier ++ steps ∧
      IsSession server settings sender message earlier steps
        (deliver server settings sender message earlier).2 := by
  have opened : earlier ++ [.connect settings.host settings.port] ++ preparation settings =
      earlier ++ settings.opening := by
    rw [← preparation_eq]
    simp
  cases torn : message.isTorn with
  | true => exact ⟨[], by simp [deliver, torn], by simpa [deliver, torn] using .torn torn⟩
  | false =>
      have notTorn : ¬ message.isTorn = true := by simp [torn]
      cases connected : server.refuses (earlier ++ [.connect settings.host settings.port]) with
      | some text =>
          refine ⟨[.connect settings.host settings.port], ?_⟩
          simp only [deliver, if_neg notTorn, connected]
          exact ⟨trivial, .refused torn connected⟩
      | none =>
          cases checked : message.check sender with
          | error fault =>
              refine ⟨settings.opening ++ [.close], ?_⟩
              simp only [deliver, if_neg notTorn, connected, checked, opened]
              exact ⟨by simp, .unwritten ⟨torn, connected⟩ checked⟩
          | ok _ =>
              refine ⟨settings.opening ++ [.send sender message.everyone (message.letter sender), .close], ?_⟩
              simp only [deliver, if_neg notTorn, connected, checked, opened]
              exact ⟨by simp, isSession_handOver ⟨torn, connected⟩ checked⟩

end IssueWatch.Mail
