import IssueWatch.Config
import IssueWatch.Console.Markup
import IssueWatch.Issue
import IssueWatch.Mail

/-!
# Actions

What commands do: they print, change files and send mail, step by step, until they end or stop. What
was done before a stop stays done.
-/
namespace IssueWatch

/-- Everything that actions change. -/
structure World where
  workspace : Workspace := {}
  printed : List Console.Printed := []
  mail : List Mail.Event := []

/-- The reason for which actions stop before their end: a command gives up with an exit code, or it
fails. -/
inductive Stop where
  | exit (code : Nat)
  | markup (error : Console.MarkupError)
  | duplicateNumber (error : Collection.DuplicateNumber)
  | file (error : FileError)
  | config (fault : ConfigFault)
  | tornText
  | unsendable (fault : Mail.SendFault)
  deriving DecidableEq

/-- Steps that change the world and may stop. -/
abbrev Action (α : Type) := ExceptT Stop (StateM World) α

namespace Action

def print (entry : Console.Entry) : Action Unit :=
  match entry.show with
  | .ok shown => modify fun world => { world with printed := world.printed ++ [shown] }
  | .error error => throw (.markup error)

def say (markup : String) : Action Unit :=
  print (.line markup)

def printAll : List Console.Entry → Action Unit
  | [] => pure ()
  | entry :: rest => do
    print entry
    printAll rest

def giveUp {α : Type} (markup : String) : Action α := do
  say markup
  throw (.exit 1)

def change (step : Workspace → Except FileError Workspace) : Action Unit := do
  match step (← get).workspace with
  | .ok workspace => modify fun world => { world with workspace }
  | .error error => throw (.file error)

/-- Sends a message in a session of its own. The answer is the failure, if there was one. -/
def send (server : Mail.Server) (settings : Mail.Settings) (sender : String)
    (message : Mail.Message) : Action (Option Mail.Failure) := do
  let (trace, failure) := Mail.deliver server settings sender message (← get).mail
  modify fun world => { world with mail := trace }
  return failure

end Action
end IssueWatch
