import IssueWatch.Config
import IssueWatch.Xml.Element

/-!
# Violations in documents of alerts

Everything that is wrong with the declaration of a user or with an alert, in the order in which the rules
are checked. A document is rejected for the first violation that is found in it, and one without
violations holds an alert for each of its elements.
-/
namespace IssueWatch

/-- The attribute of an element that must be present and is not. -/
def Xml.Element.missing (element : Xml.Element) (key : String) : List ConfigError :=
  if (element.value? key).isSome then [] else [.missingAttribute element.name.part key]

/-- The user that a declaration describes. An attribute that is missing counts as empty. -/
def User.ofDeclaration (server? : Option String) (element : Xml.Element) : User :=
  let name := (element.value? "name").getD ""
  let emailAlias := (element.value? "alias").getD ""
  let login := String.ofList ((element.value? "github").getD "").toList.tail
  if '@' ∈ emailAlias.toList then ⟨name, emailAlias, none, login⟩
  else ⟨name, emailAlias ++ server?.getD "", some emailAlias, login⟩

namespace Roster

/-- What is wrong with the declaration of a user, given the users declared before it. -/
def violations (roster : Roster) (server? : Option String) (element : Xml.Element) :
    List ConfigError :=
  let name := (element.value? "name").getD ""
  let emailAlias := (element.value? "alias").getD ""
  let login := (element.value? "github").getD ""
  element.missing "name" ++ element.missing "alias" ++ element.missing "github" ++
    (if login.toList.head? = some '@' then [] else [.loginWithoutAt login]) ++
    (if emailAlias.toList.head? = some '@' then [.aliasWithAt emailAlias] else []) ++
    (if roster.users.any (·.answersTo login) then [.duplicateLogin login] else []) ++
    (if roster.users.any (·.answersTo emailAlias) then [.duplicateAlias emailAlias] else []) ++
    (if '@' ∈ emailAlias.toList ∨ server?.isSome then [] else [.noEmailServer name])

/-- What is wrong with declarations, each given the users of those before it. -/
def violationsOfAll (roster : Roster) : List (Option String × Xml.Element) → List ConfigError
  | [] => []
  | (server?, element) :: rest =>
    roster.violations server? element ++
      (roster.add (.ofDeclaration server? element)).violationsOfAll rest

/-- A roster with the users of some declarations behind its own. -/
def withDeclared (roster : Roster) (declarations : List (Option String × Xml.Element)) : Roster :=
  ⟨roster.users ++ declarations.map fun (server?, element) => .ofDeclaration server? element⟩

end Roster

namespace Alert

def strangers (roster : Roster) (element : Xml.Element) (part : String) : List ConfigError :=
  ((element.named part).map Xml.Element.trimmedText).filterMap fun identifier =>
    if roster.users.any (·.answersTo identifier) then none else some (.unknownUser identifier)

/-- What is wrong with the query of an alert. -/
def queryViolations (name : String) : List Xml.Element → List ConfigError
  | [] => [.noQuery name]
  | queryElement :: _ =>
    match Expr.parse queryElement.trimmedText with
    | .error error => [.invalidAlertQuery name queryElement.trimmedText error]
    | .ok _ => []

/-- What is wrong with an alert, given the users of its document. -/
def violations (roster : Roster) (element : Xml.Element) : List ConfigError :=
  let name := (element.value? "name").getD ""
  element.missing "name" ++ queryViolations name (element.named "query") ++
    strangers roster element "owner" ++
    (if (element.named "owner").isEmpty then [.noOwner name] else []) ++
    strangers roster element "cc"

/-- What is wrong with a document, given the users declared before it: first with its declarations of
users, then with its alerts. -/
def documentViolations (roster : Roster) (root : Xml.Element) : List ConfigError :=
  let declarations := Roster.declarations root
  roster.violationsOfAll declarations ++
    (root.namedInside "alerts" "alert").flatMap (violations (roster.withDeclared declarations))

/-- The members of a name in an element refer to some known users, one after the other. -/
structure RefersTo (known : Roster) (element : Xml.Element) (part : String) (users : List User) : Prop where
  found : (element.named part).map (fun member => known.find? member.trimmedText) = users.map some
  known : ∀ user ∈ users, user ∈ known.users

/-- An element describes an alert, given the users of its document. -/
structure Describes (known : Roster) (element : Xml.Element) (alert : Alert) : Prop where
  name : element.value? "name" = some alert.name
  queryText : (element.named "query").head?.map Xml.Element.trimmedText = some alert.queryText
  query : Expr.parse alert.queryText = .ok alert.query
  owners : RefersTo known element "owner" alert.owners
  owned : alert.owners ≠ []
  copies : RefersTo known element "cc" alert.copies

/-- An error blames the syntax of the query of an alert. -/
structure BlamesQuery (element : Xml.Element) (queryText : String) (syntaxError : SyntaxError)
    (error : ConfigError) : Prop where
  written : (element.named "query").head?.map Xml.Element.trimmedText = some queryText
  rejected : Expr.parse queryText = .error syntaxError
  reported : ∃ name, element.value? "name" = some name ∧
    error = .invalidAlertQuery name queryText syntaxError

end Alert
end IssueWatch
