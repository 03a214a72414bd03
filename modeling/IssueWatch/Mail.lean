import IssueWatch.Text.Character
import IssueWatch.Text.Integer
import IssueWatch.Text.Lines
import IssueWatch.Workspace

/-!
# Mail

The settings, the headers and the sessions by which messages are sent.
-/
namespace IssueWatch

/-!
## Mail settings

How mail is sent, as the environment says it: the server, the account and the sender.
-/

namespace Mail

/-- The reason for which mail cannot be sent at all. -/
inductive SettingsError where
  | port (fault : Text.IntegerFault)
  | noSender
  deriving DecidableEq, Repr

def SettingsError.message : SettingsError → String
  | .port fault => fault.message
  | .noSender =>
    "GH_REPORT_SMTP_FROM (or GH_REPORT_SMTP_USER) environment variable " ++
      "is required for sending alert emails"

/-- How mail is sent. -/
structure Settings where
  host : String
  port : Int
  user : Option String
  password : Option String
  sender : Option String
  startTls : Bool
  deriving DecidableEq, Repr

namespace Settings

/-- Reads the number of a port. -/
def readPort (text : String) : Except SettingsError Int :=
  (Text.readInteger text).mapError .port

/-- Whether a word switches encryption on. -/
def isYes (word : String) : Bool :=
  ["1", "true", "yes"].contains (word.map Char.toLower)

/-- Reads the settings. The user is the sender unless another one is named. -/
def ofEnvironment (environment : Environment) : Except SettingsError Settings := do
  let user := environment.get? "GH_REPORT_SMTP_USER"
  let port ← readPort ((environment.get? "GH_REPORT_SMTP_PORT").getD "25")
  return {
    host := (environment.get? "GH_REPORT_SMTP_HOST").getD "localhost"
    port
    user
    password := environment.get? "GH_REPORT_SMTP_PASSWORD"
    sender := (Environment.filled (environment.get? "GH_REPORT_SMTP_FROM")).or user
    startTls := isYes ((environment.get? "GH_REPORT_SMTP_STARTTLS").getD "false") }

/-- The sender, which must be named. -/
def requireSender (settings : Settings) : Except SettingsError String :=
  match Environment.filled settings.sender with
  | some sender => .ok sender
  | none => .error .noSender

end Settings
end Mail
end IssueWatch

/-!
## Headers

A header travels in lines. The lines of one in ASCII stand as they are, and every line but the first must
start with a space or a tab; any other header travels in encoded words, which are always in order. Whether
the text of a header has encoded words of its own does not matter: it is written as it is.
-/
namespace IssueWatch.Mail

/-- Why a header cannot be written: a line of it could be taken for another header or for the body. -/
inductive HeaderFault where
  | embeddedHeader
  | strayLine
  deriving DecidableEq, Repr

/-- Whether a text consists of ASCII characters. -/
def isAscii (text : String) : Bool :=
  text.toList.all fun c => c.toNat < 0x80

/-- Whether a character is a space or a tab, with which a header goes on in the next line. -/
def isFolding (c : Char) : Bool :=
  c == ' ' || c == '\t'

namespace Header

/-- A line without a single space at its end. More space is kept. -/
def withoutLastSpace (line : List Char) : List Char :=
  match line.reverse with
  | ' ' :: c :: _ => if isFolding c then line else line.dropLast
  | [' '] => []
  | _ => line

/-- Puts the lines behind the first one to it. Empty lines are dropped, and blank ones belong to the line
in front of them. -/
def foldFrom (line : List Char) : List (List Char) → List (List Char)
  | [] => [line]
  | next :: rest =>
    if next.all Text.isBlank then foldFrom (line ++ next) rest else line :: foldFrom next rest

/-- The lines in which a header in ASCII is written. -/
def writtenLines (text : List Char) : List (List Char) :=
  match Text.brokenLines text with
  | [] => [[]]
  | [line] => [line]
  | first :: rest => foldFrom (withoutLastSpace first) (rest.map withoutLastSpace)

/-- Whether lines start with the name of a header: a colon stands behind characters of which none is a
space or a tab. -/
def startsWithName (lines : List (List Char)) : Bool :=
  let text := (lines.intersperse ['\n']).flatten
  ((text.takeWhile fun c => !isFolding c).drop 1).contains ':'

/-- Whether some line and those behind it start with the name of a header. -/
def embedsHeader : List (List Char) → Bool
  | [] => false
  | line :: rest => startsWithName (line :: rest) || embedsHeader rest

/-- Whether a line goes on with the one in front of it. -/
def isContinuation (line : List Char) : Bool :=
  (line.head?.map isFolding).getD false

/-- Checks that a header can be written. -/
def check (text : String) : Except HeaderFault Unit :=
  let lines := if isAscii text then (writtenLines text.toList).tail else []
  if embedsHeader lines then .error .embeddedHeader
  else if lines.all isContinuation then .ok ()
  else .error .strayLine

end Header

/-!
## Mail sessions

Sending a message is one session with the mail server: a connection, encryption and login as the
settings say, one message, and the end of the session. The server may refuse the connection or the
message, and a message with a header that cannot be written or an address that cannot be named ends the
session as well. For a body with part of a torn string there is no session at all.
-/

/-- An HTML message to some recipients, with copies to others. Its body may hold part of a torn string. -/
structure Message where
  recipients : List String
  copies : List String := []
  subject : String
  body : String
  isTorn : Bool := false
  deriving DecidableEq, Repr

/-- A message as it is written for the server: its headers and its body. -/
structure Letter where
  subject : String
  sender : String
  recipients : String
  copies : Option String
  body : String
  deriving DecidableEq, Repr

namespace Message

/-- Everyone whom a message is sent to. -/
def everyone (message : Message) : List String :=
  message.recipients ++ message.copies

def addressLine (addresses : List String) : String :=
  Text.join ", " addresses

/-- The header with the addresses that get copies. A message without copies has none. -/
def copyLine? (message : Message) : Option String :=
  if message.copies.isEmpty then none else some (addressLine message.copies)

def letter (message : Message) (sender : String) : Letter where
  subject := message.subject
  sender := sender
  recipients := addressLine message.recipients
  copies := message.copyLine?
  body := message.body

/-- Checks that all headers of a message can be written. -/
def check (message : Message) (sender : String) : Except HeaderFault Unit :=
  ([message.subject, sender, addressLine message.recipients] ++ message.copyLine?.toList).forM Header.check

end Message

/-- A step of a session. -/
inductive Event where
  | connect (host : String) (port : Int)
  | startTls
  | login (user password : String)
  | send (sender : String) (recipients : List String) (letter : Letter)
  | close
  deriving DecidableEq, Repr

/-- Why a message cannot be sent, whatever the server says: its body or a header cannot be written, or an address
cannot stand in the commands to the server. -/
inductive SendFault where
  | body
  | header (fault : HeaderFault)
  | address
  deriving DecidableEq, Repr

/-- A failure of a session: the server gives a text to say so, or the message cannot be sent. -/
inductive Failure where
  | refused (text : String)
  | rejected (text : String)
  | unsendable (fault : SendFault)
  deriving DecidableEq, Repr

/-- How a server answers, given all steps so far: whether it refuses a connection, and whether it
rejects a message to some recipients. And which addresses outside ASCII can stand in the commands to it. -/
structure Server where
  refuses : List Event → Option String := fun _ => none
  rejects : List Event → List String → Option String := fun _ _ => none
  carriesBeyondAscii : String → Bool := fun _ => false

/-- Whether an address can stand in the commands to a server. One in ASCII always can. -/
def Server.carries (server : Server) (address : String) : Bool :=
  isAscii address || server.carriesBeyondAscii address

/-- The steps between the connection and the message. -/
def preparation (settings : Settings) : List Event :=
  (if settings.startTls then [.startTls] else []) ++
    match Environment.filled settings.user, Environment.filled settings.password with
    | some user, some password => [.login user password]
    | _, _ => []

/-- How sending a message ends once it is handed over. -/
def handOver (server : Server) (sender : String) (message : Message) (sent : List Event) : Option Failure :=
  match server.rejects sent message.everyone with
  | some text => some (.rejected text)
  | none => if (sender :: message.everyone).all server.carries then none else some (.unsendable .address)

/-- Sends a message in a session of its own. The answer is the steps so far with those of the session
behind them, and the failure if there was one. -/
def deliver (server : Server) (settings : Settings) (sender : String) (message : Message)
    (trace : List Event) : List Event × Option Failure :=
  if message.isTorn then (trace, some (.unsendable .body))
  else
    let connected := trace ++ [.connect settings.host settings.port]
    match server.refuses connected with
    | some text => (connected, some (.refused text))
    | none =>
      let prepared := connected ++ preparation settings
      match message.check sender with
      | .error fault => (prepared ++ [.close], some (.unsendable (.header fault)))
      | .ok () =>
        let sent := prepared ++ [.send sender message.everyone (message.letter sender)]
        (sent ++ [.close], handOver server sender message sent)

end IssueWatch.Mail
