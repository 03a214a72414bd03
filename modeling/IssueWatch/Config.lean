import IssueWatch.Query.Parser
import IssueWatch.Query.Token
import IssueWatch.Text.Character
import IssueWatch.Workspace
import IssueWatch.Xml.Codec
import IssueWatch.Xml.Element
import IssueWatch.Xml.Reader

/-!
# Configuration

Alerts and named queries, the files in which they stand, and the users whom alerts name.
-/
namespace IssueWatch

/-!
## Errors in configuration files

Why a file of alerts or of named queries cannot be used. Not everything that can be wrong with a file is
reported as an error in it.
-/

/-- The reason for which a configuration file is rejected. -/
inductive ConfigError where
  | malformed (file complaint : String)
  | unreadable (file : String) (error : FileError)
  | missingAttribute (element key : String)
  | invalidNamedQuery (name text : String) (error : SyntaxError)
  | loginWithoutAt (login : String)
  | aliasWithAt (emailAlias : String)
  | duplicateLogin (login : String)
  | duplicateAlias (emailAlias : String)
  | noEmailServer (user : String)
  | noQuery (alert : String)
  | invalidAlertQuery (alert text : String) (error : SyntaxError)
  | noOwner (alert : String)
  | unknownUser (identifier : String)
  deriving DecidableEq, Repr

namespace ConfigError

def message : ConfigError → String
  | .malformed file complaint => "Malformed XML in " ++ file ++ ": " ++ complaint
  | .unreadable file error => "Cannot read config file " ++ file ++ ": " ++ error.message
  | .missingAttribute element key =>
    "<" ++ element ++ "> is missing required attribute '" ++ key ++ "'"
  | .invalidNamedQuery name _ error => "Invalid query '" ++ name ++ "': " ++ error.message
  | .loginWithoutAt login => "GitHub login expected to start with @: " ++ login
  | .aliasWithAt emailAlias => "Alias cannot start with @: " ++ emailAlias
  | .duplicateLogin login => "Duplicate user defined with GitHub login: " ++ login
  | .duplicateAlias emailAlias => "Duplicate user defined with alias: " ++ emailAlias
  | .noEmailServer user =>
    "User " ++ user ++ " has no email server: set default-email-server " ++
      "or use a full email address as alias"
  | .noQuery alert => "Alert " ++ alert ++ " has no <query>"
  | .invalidAlertQuery alert _ _ => "Invalid query in alert: " ++ alert
  | .noOwner alert => "Alert " ++ alert ++ " has no <owner>"
  | .unknownUser identifier => "Cannot find user: " ++ identifier

/-- The text and the syntax error of a query that makes a file unusable. -/
def queryError? : ConfigError → Option (String × SyntaxError)
  | .invalidNamedQuery _ text error | .invalidAlertQuery _ text error => some (text, error)
  | _ => none

/-- The text of the error that led to this one, if there is such an error. -/
def cause? : ConfigError → Option String
  | .malformed _ complaint => some complaint
  | .unreadable _ error => some error.message
  | .invalidNamedQuery _ _ error | .invalidAlertQuery _ _ error => some error.message
  | _ => none

end ConfigError

/-- A fault that is not reported as an error in a file: the path cannot be that of a file, or the file cannot be
read in the character set that it names. -/
inductive ConfigFault where
  | path (error : FileError)
  | encoding (fault : Xml.EncodingFault)
  deriving DecidableEq, Repr

/-- Why a configuration file is not loaded: it is rejected with an error, or a fault escapes. -/
inductive ConfigFailure where
  | rejected (error : ConfigError)
  | escaped (fault : ConfigFault)
  deriving DecidableEq, Repr

namespace ConfigFailure

variable {Value : Type} {outcome : Except ConfigError Value}

@[simp] theorem mapError_rejected_eq_ok_iff {value : Value} :
    outcome.mapError rejected = .ok value ↔ outcome = .ok value := by
  cases outcome with
  | ok given =>
      constructor
      · rintro ⟨⟩
        rfl
      · rintro ⟨⟩
        rfl
  | error error => exact ⟨nofun, nofun⟩

theorem mapError_rejected_eq_error_iff {failure : ConfigFailure} :
    outcome.mapError rejected = .error failure ↔ ∃ error, failure = .rejected error ∧ outcome = .error error := by
  cases outcome with
  | ok given => exact ⟨nofun, fun ⟨_, _, failed⟩ => nomatch failed⟩
  | error error =>
      constructor
      · rintro ⟨⟩
        exact ⟨error, rfl, rfl⟩
      · rintro ⟨_, rfl, ⟨⟩⟩
        rfl

/-- What an outcome shows, if it shows anything, is what its value shows. -/
theorem exists_of_map_toOption {Error Shown : Type} {outcome : Except Error Value} {view : Value → Shown}
    {shown : Shown} (seen : outcome.toOption.map view = some shown) :
    ∃ value, outcome = .ok value ∧ view value = shown := by
  cases outcome with
  | error error => cases seen
  | ok value => exact ⟨value, rfl, Option.some.inj seen⟩

end ConfigFailure

/-!
## Users

People who can be told about alerts, and the identifiers that refer to them.
-/

/-- A person who owns alerts or gets copies of them. -/
structure User where
  name : String
  emailAddress : String
  emailAlias : Option String
  login : String
  deriving DecidableEq, Repr

namespace User

/-- Whether an identifier refers to a user: by login behind an at sign, else by email address or by
email alias. -/
def answersTo (user : User) (identifier : String) : Bool :=
  match identifier.toList with
  | '@' :: login => String.ofList login == user.login
  | _ => user.emailAlias == some identifier || user.emailAddress == identifier

end User

/-- The users declared so far, in the order of their declaration. -/
structure Roster where
  users : List User := []
  deriving DecidableEq, Repr

namespace Roster

def find? (roster : Roster) (identifier : String) : Option User :=
  roster.users.find? (·.answersTo identifier)

def add (roster : Roster) (user : User) : Roster :=
  ⟨roster.users ++ [user]⟩

end Roster

/-!
## Named queries

Queries that stand in a file under names, each for one section of a report.
-/

/-- A query with a name and the text that it was read from. -/
structure NamedQuery where
  name : String
  query : Expr
  text : String

namespace NamedQuery

/-- Reads a named query. Its text is the query, and the name as well unless another one is given. -/
def ofElement (element : Xml.Element) : Except ConfigError NamedQuery :=
  let text := Text.trim element.text
  let name := match element.value? "name" with
    | none | some "" => text
    | some given => given
  match Expr.parse text with
  | .ok query => .ok ⟨name, query, text⟩
  | .error error => .error (.invalidNamedQuery name text error)

/-- Reads all named queries of a document, at any depth and in document order. -/
def ofDocument (root : Xml.Element) : Except ConfigError (List NamedQuery) :=
  (root.named "query").mapM ofElement

end NamedQuery

/-!
## Alerts

An alert watches the issues that a query selects and names the users to tell about changes. A document
holds alerts and declarations of users. All declarations of users are read before any alert; each of them is
checked against those before it, and stays declared when a later part of the document is rejected.
-/

/-- A query whose changes are mailed to its owners, with copies to others. -/
structure Alert where
  name : String
  query : Expr
  queryText : String
  owners : List User
  copies : List User := []

/-- The value of an attribute that must be present. -/
def Xml.Element.required (element : Xml.Element) (key : String) : Except ConfigError String :=
  match element.value? key with
  | some value => .ok value
  | none => .error (.missingAttribute element.name.part key)

def Xml.Element.trimmedText (element : Xml.Element) : String :=
  Text.trim element.text

namespace Roster

/-- The server that email aliases of a group of users belong to, with an at sign in front. -/
def emailServer? (group : Xml.Element) : Option String :=
  (group.value? "default-email-server").map fun server =>
    if server.toList.head? = some '@' then server else "@" ++ server

/-- The email address of an alias and the alias itself, unless it is a full address. -/
def address (name emailAlias : String) (server? : Option String) :
    Except ConfigError (String × Option String) :=
  if emailAlias.toList.contains '@' then .ok (emailAlias, none)
  else
    match server? with
    | some server => .ok (emailAlias ++ server, some emailAlias)
    | none => .error (.noEmailServer name)

/-- Declares a user. The login is written with an at sign and the alias without one, and neither may
refer to a user who is declared already. -/
def declare (roster : Roster) (server? : Option String) (element : Xml.Element) :
    Except ConfigError Roster := do
  let name ← element.required "name"
  let emailAlias ← element.required "alias"
  let written ← element.required "github"
  match written.toList with
  | '@' :: login =>
    if emailAlias.toList.head? = some '@' then .error (.aliasWithAt emailAlias)
    else if (roster.find? written).isSome then .error (.duplicateLogin written)
    else if (roster.find? emailAlias).isSome then .error (.duplicateAlias emailAlias)
    else
      let (emailAddress, shortAlias) ← address name emailAlias server?
      .ok (roster.add ⟨name, emailAddress, shortAlias, String.ofList login⟩)
  | _ => .error (.loginWithoutAt written)

/-- Declares users up to the first error. The answer holds those declared before it. -/
def declareAll (roster : Roster) : List (Option String × Xml.Element) → Roster × Option ConfigError
  | [] => (roster, none)
  | (server?, element) :: rest =>
    match roster.declare server? element with
    | .ok larger => larger.declareAll rest
    | .error error => (roster, some error)

/-- The declarations of users in a document, each with the email server of its group. -/
def declarations (root : Xml.Element) : List (Option String × Xml.Element) :=
  (root.named "users").flatMap fun group =>
    (group.named "user").map fun element => (emailServer? group, element)

def find (roster : Roster) (identifier : String) : Except ConfigError User :=
  match roster.find? identifier with
  | some user => .ok user
  | none => .error (.unknownUser identifier)

end Roster

namespace Alert

def users (roster : Roster) (element : Xml.Element) (part : String) :
    Except ConfigError (List User) :=
  (element.named part).mapM fun member => roster.find member.trimmedText

/-- Reads an alert: its name, its first query, its owners, of whom there is at least one, and those
who get copies. -/
def ofElement (roster : Roster) (element : Xml.Element) : Except ConfigError Alert := do
  let name ← element.required "name"
  match element.named "query" with
  | [] => .error (.noQuery name)
  | queryElement :: _ =>
    let queryText := queryElement.trimmedText
    match Expr.parse queryText with
    | .error error => .error (.invalidAlertQuery name queryText error)
    | .ok query =>
      let owners ← users roster element "owner"
      if owners.isEmpty then .error (.noOwner name)
      else
        let copies ← users roster element "cc"
        .ok { name, query, queryText, owners, copies }

/-- The elements of alerts in a document. One that stands inside several lists of alerts is found once
for each of them. -/
def elements (root : Xml.Element) : List Xml.Element :=
  (root.named "alerts").flatMap (·.named "alert")

/-- Reads the users and the alerts of a document. The answer holds the roster after the users. -/
def ofDocument (roster : Roster) (root : Xml.Element) : Roster × Except ConfigError (List Alert) :=
  match roster.declareAll (Roster.declarations root) with
  | (known, some error) => (known, .error error)
  | (known, none) => (known, (elements root).mapM (ofElement known))

end Alert

/-!
## Configuration files

Reading alerts and named queries from the files of a workspace. A file that is missing or malformed is
rejected, but a character set that it names may be one in which it cannot be read.
-/

def readConfig (workspace : Workspace) (path : Path) : Except ConfigFailure Xml.Element :=
  match workspace.read path with
  | .error error =>
    if error.fault = .nullCharacter then .error (.escaped (.path error))
    else .error (.rejected (.unreadable path.text error))
  | .ok text =>
    match Xml.read text with
    | .error .malformed => .error (.rejected (.malformed path.text (workspace.complaints.xml text)))
    | .error (.encoding fault) => .error (.escaped (.encoding fault))
    | .ok root => .ok root

def NamedQuery.load (workspace : Workspace) (path : Path) : Except ConfigFailure (List NamedQuery) := do
  (ofDocument (← readConfig workspace path)).mapError .rejected

/-- Reads the users and the alerts of a file. The answer holds the roster after the users. -/
def Alert.loadInto (roster : Roster) (workspace : Workspace) (path : Path) :
    Roster × Except ConfigFailure (List Alert) :=
  match readConfig workspace path with
  | .error failure => (roster, .error failure)
  | .ok root =>
    let (known, alerts) := ofDocument roster root
    (known, alerts.mapError .rejected)

def Alert.load (workspace : Workspace) (path : Path) : Except ConfigFailure (List Alert) :=
  (loadInto {} workspace path).2

end IssueWatch
