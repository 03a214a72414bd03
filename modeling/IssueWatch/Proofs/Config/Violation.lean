import IssueWatch.Config
import IssueWatch.Config.Violation
import IssueWatch.Proofs.Config.Roster
import IssueWatch.Proofs.Xml.Nesting

/-!
# The first violation of a document

Reading stops at the first error, and that is the first of the violations of the document, listed in the order
in which its parts are checked.  A document without violations is read completely, and every alert is the one
that its element describes.
-/
namespace IssueWatch

namespace ConfigError

variable {Value Answer Input : Type}

/-- An outcome is the first of some violations or, if there are none, a value that meets a condition. -/
inductive Answers (meets : Value → Prop) : List ConfigError → Except ConfigError Value → Prop where
  | value {value : Value} (met : meets value) : Answers meets [] (.ok value)
  | violation (error : ConfigError) (others : List ConfigError) :
      Answers meets (error :: others) (.error error)

variable {meets : Value → Prop} {violations others : List ConfigError}
  {outcome : Except ConfigError Value}

theorem Answers.eq_error_iff (answers : Answers meets violations outcome) {error : ConfigError} :
    outcome = .error error ↔ violations.head? = some error := by
  cases answers with
  | value met => simp
  | violation error others => simp

theorem Answers.of_ok {value : Value} (answers : Answers meets violations (.ok value)) :
    violations = [] ∧ meets value := by
  cases answers with
  | value met => exact ⟨rfl, met⟩

theorem Answers.bind {meetsNext : Answer → Prop} {next : Value → Except ConfigError Answer}
    (answers : Answers meets violations outcome)
    (nextAnswers : ∀ value, meets value → Answers meetsNext others (next value)) :
    Answers meetsNext (violations ++ others) (outcome >>= next) := by
  cases answers with
  | value met => exact nextAnswers _ met
  | violation error behind => exact .violation error (behind ++ others)

theorem Answers.imp {implied : Value → Prop} (answers : Answers meets violations outcome)
    (each : ∀ value, meets value → implied value) : Answers implied violations outcome := by
  cases answers with
  | value met => exact .value (each _ met)
  | violation error others => exact .violation error others

theorem Answers.map {meetsNext : Answer → Prop} {next : Value → Answer}
    (answers : Answers meets violations outcome)
    (nextMeets : ∀ value, meets value → meetsNext (next value)) :
    Answers meetsNext violations (outcome >>= fun value => .ok (next value)) := by
  rw [← List.append_nil violations]
  exact answers.bind fun value met => .value (nextMeets value met)

/-- A check that stands in front of others. -/
theorem Answers.check {condition : Prop} [Decidable condition] {error : ConfigError}
    (answers : ¬ condition → Answers meets others outcome) :
    Answers meets ((if condition then [error] else []) ++ others)
      (if condition then .error error else outcome) := by
  by_cases holds : condition
  · rw [if_pos holds, if_pos holds]
    exact .violation error others
  · rw [if_neg holds, if_neg holds]
    exact answers holds

theorem Answers.mapM {step : Input → Except ConfigError Value} {violations : Input → List ConfigError}
    {meets : Input → Value → Prop} (inputs : List Input)
    (each : ∀ input, Answers (meets input) (violations input) (step input)) :
    Answers (List.Forall₂ meets inputs) (inputs.flatMap violations) (inputs.mapM step) := by
  induction inputs with
  | nil => exact .value .nil
  | cons input rest induction =>
      rw [List.mapM_cons, List.flatMap_cons]
      exact (each input).bind fun value met => induction.map fun values others => .cons met others

end ConfigError

open ConfigError (Answers)

theorem Xml.Element.answers_required (element : Element) (key : String) :
    Answers (fun value => element.value? key = some value) (element.missing key)
      (element.required key) := by
  rw [missing, required]
  cases found : element.value? key with
  | none => exact .violation _ []
  | some value => exact .value rfl

namespace Roster

variable {roster : Roster}

/-! ## Declarations -/

theorem find?_isSome_iff (identifier : String) :
    (roster.find? identifier).isSome = true ↔ roster.users.any (·.answersTo identifier) = true := by
  rw [find?, List.find?_isSome, List.any_eq_true]

/-- The address of an alias and its short form, if the address can be made up. -/
theorem answers_address (name emailAlias : String) (server? : Option String) :
    Answers
      (· = if '@' ∈ emailAlias.toList then (emailAlias, none)
        else (emailAlias ++ server?.getD "", some emailAlias))
      (if '@' ∈ emailAlias.toList ∨ server?.isSome then [] else [.noEmailServer name])
      (address name emailAlias server?) := by
  unfold address
  simp only [List.contains_iff_mem]
  by_cases full : '@' ∈ emailAlias.toList
  · simp only [full, true_or, if_true]
    exact .value rfl
  · cases server? with
    | none =>
        simp only [full, Option.isSome_none, Bool.false_eq_true, or_self, if_false]
        exact .violation _ []
    | some server =>
        simp only [full, Option.isSome_some, or_true, if_true, if_false]
        exact .value rfl

/-- A login is read behind its at sign. -/
theorem answers_login {Value : Type} {meets : Value → Prop} {others : List ConfigError}
    {next : List Char → Except ConfigError Value} (written : String)
    (answers : ∀ login, written.toList = '@' :: login → Answers meets others (next login)) :
    Answers meets
      ((if written.toList.head? = some '@' then [] else [.loginWithoutAt written]) ++ others)
      (match written.toList with
        | '@' :: login => next login
        | _ => .error (.loginWithoutAt written)) := by
  by_cases isAt : written.toList.head? = some '@'
  · obtain ⟨login, characters⟩ := List.head?_eq_some_iff.mp isAt
    rw [if_pos isAt, List.nil_append, characters]
    exact answers login characters
  · rw [if_neg isAt]
    split
    · rename_i login characters
      rw [characters] at isAt
      exact absurd rfl isAt
    · exact .violation _ others

/-- A declaration is rejected for its first violation, or the user that it describes is added. -/
theorem answers_declare (server? : Option String) (element : Xml.Element) :
    Answers (· = roster.add (.ofDeclaration server? element)) (roster.violations server? element)
      (roster.declare server? element) := by
  rw [violations, declare]
  simp only [List.append_assoc, find?_isSome_iff]
  refine (element.answers_required "name").bind fun name nameRead => ?_
  refine (element.answers_required "alias").bind fun emailAlias aliasRead => ?_
  refine (element.answers_required "github").bind fun written loginRead => ?_
  simp only [nameRead, aliasRead, loginRead, Option.getD_some]
  refine answers_login written fun login characters => ?_
  refine .check fun _ => .check fun _ => .check fun _ => ?_
  refine (answers_address name emailAlias server?).map fun addressed isAddress => ?_
  simp only [User.ofDeclaration, nameRead, aliasRead, loginRead, Option.getD_some, characters,
    List.tail_cons, isAddress]
  split <;> rfl

/-- Declarations are read up to the first violation, or all the users that they describe are added. -/
theorem declareAll_eq (declarations : List (Option String × Xml.Element)) :
    (roster.declareAll declarations).2 = (roster.violationsOfAll declarations).head? ∧
      ((roster.declareAll declarations).2 = none →
        (roster.declareAll declarations).1 = roster.withDeclared declarations) := by
  induction declarations generalizing roster with
  | nil => simp [declareAll, violationsOfAll, withDeclared]
  | cons entry rest induction =>
      obtain ⟨server?, element⟩ := entry
      have answers := roster.answers_declare server? element
      rw [declareAll, violationsOfAll, List.head?_append]
      cases declared : roster.declare server? element with
      | error error =>
          rw [answers.eq_error_iff.mp declared]
          refine ⟨rfl, fun complete => ?_⟩
          cases complete
      | ok larger =>
          rw [declared] at answers
          obtain ⟨noViolation, rfl⟩ := answers.of_ok
          obtain ⟨outcome, added⟩ := @induction (roster.add (.ofDeclaration server? element))
          rw [noViolation, List.head?_nil, Option.none_or]
          refine ⟨outcome, fun complete => ?_⟩
          rw [added complete]
          simp [withDeclared, add]

end Roster

namespace Alert

variable (known : Roster)

/-! ## Alerts -/

theorem answers_find (identifier : String) :
    Answers (known.find? identifier = some ·)
      (if known.users.any (·.answersTo identifier) then [] else [.unknownUser identifier])
      (known.find identifier) := by
  rw [Roster.find]
  cases found : known.find? identifier with
  | none =>
      rw [if_neg (by rw [← Roster.find?_isSome_iff, found]; exact Bool.false_ne_true)]
      exact .violation _ []
  | some user =>
      rw [if_pos (by rw [← Roster.find?_isSome_iff, found]; rfl)]
      exact .value rfl

theorem found_of_forall₂ {members : List Xml.Element} {users : List User}
    (each : List.Forall₂ (fun member user => known.find? member.trimmedText = some user) members users) :
    members.map (fun member => known.find? member.trimmedText) = users.map some ∧
      ∀ user ∈ users, user ∈ known.users := by
  induction each with
  | nil => exact ⟨rfl, nofun⟩
  | cons found _ induction =>
      rw [List.map_cons, List.map_cons, found, induction.1]
      exact ⟨rfl, List.forall_mem_cons.mpr ⟨List.mem_of_find?_eq_some found, induction.2⟩⟩

theorem answers_users (element : Xml.Element) (part : String) :
    Answers (RefersTo known element part) (strangers known element part)
      (users known element part) := by
  have flat : strangers known element part = (element.named part).flatMap fun member =>
      if known.users.any (·.answersTo member.trimmedText) then []
      else [.unknownUser member.trimmedText] := by
    rw [strangers, List.filterMap_map, List.filterMap_eq_flatMap_toList]
    refine List.flatMap_congr fun member _ => ?_
    simp only [Function.comp_apply]
    split <;> rfl
  rw [flat, users]
  have answers := Answers.mapM (element.named part) fun member =>
    answers_find known member.trimmedText
  exact answers.imp fun users each => ⟨(found_of_forall₂ known each).1, (found_of_forall₂ known each).2⟩

theorem answers_ofElement (element : Xml.Element) :
    Answers (Describes known element) (violations known element) (ofElement known element) := by
  rw [violations, ofElement]
  simp only [List.append_assoc]
  refine (element.answers_required "name").bind fun name nameRead => ?_
  rw [nameRead, Option.getD_some]
  cases queries : element.named "query" with
  | nil => exact .violation _ _
  | cons queryElement others =>
      cases parsed : Expr.parse queryElement.trimmedText with
      | error error =>
          simp only [queryViolations, parsed]
          exact .violation _ _
      | ok query =>
          simp only [queryViolations, parsed, List.nil_append]
          refine (answers_users known element "owner").bind fun owners ownersFound => ?_
          have sameEmpty : (element.named "owner").isEmpty = owners.isEmpty := by
            simpa using congrArg List.isEmpty ownersFound.found
          rw [sameEmpty]
          refine .check fun owned => (answers_users known element "cc").map fun copies copiesFound => ?_
          exact {
            name := nameRead
            queryText := by rw [queries]; rfl
            query := parsed
            owners := ownersFound
            owned := by simpa using owned
            copies := copiesFound }

/-! ## Documents -/

theorem head?_violations_elements (root : Xml.Element) :
    ((elements root).flatMap (violations known)).head? =
      ((root.namedInside "alerts" "alert").flatMap (violations known)).head? := by
  rw [elements, List.head?_flatMap, List.head?_flatMap, Xml.Element.findSome?_namedInside]

/-- A document is rejected for its first violation, or its users are added and its alerts are those that their
elements describe. -/
theorem ofDocument_outcome (roster : Roster) (root : Xml.Element) :
    (∀ error, (ofDocument roster root).2 = .error error ↔
      (documentViolations roster root).head? = some error) ∧
    ∀ known alerts, ofDocument roster root = (known, .ok alerts) →
      known = roster.withDeclared (Roster.declarations root) ∧
        List.Forall₂ (Describes known) (elements root) alerts := by
  obtain ⟨outcome, added⟩ := roster.declareAll_eq (Roster.declarations root)
  rw [ofDocument, documentViolations, List.head?_append, ← outcome]
  rcases declared : roster.declareAll (Roster.declarations root) with ⟨known, _ | rejected⟩
  · rw [declared] at added
    have isKnown : known = roster.withDeclared (Roster.declarations root) := added rfl
    have answers := Answers.mapM (elements root) (answers_ofElement known)
    rw [← isKnown, ← head?_violations_elements]
    refine ⟨fun error => answers.eq_error_iff, fun other alerts read => ?_⟩
    obtain ⟨rfl, accepted⟩ := Prod.mk.inj read
    rw [accepted] at answers
    exact ⟨rfl, answers.of_ok.2⟩
  · simp

/-! ## Causes -/

theorem queryError?_violations (roster : Roster) (server? : Option String) (element : Xml.Element) :
    ∀ error ∈ roster.violations server? element, error.queryError? = none := by
  intro error member
  simp only [Roster.violations, Xml.Element.missing, List.mem_append, List.mem_ite_nil_left,
    List.mem_ite_nil_right, List.mem_singleton] at member
  obtain ((((((member | member) | member) | member) | member) | member) | member) | member := member
  all_goals
    obtain ⟨_, rfl⟩ := member
    rfl

theorem queryError?_violationsOfAll (roster : Roster) (declarations : List (Option String × Xml.Element)) :
    ∀ error ∈ roster.violationsOfAll declarations, error.queryError? = none := by
  induction declarations generalizing roster with
  | nil => nofun
  | cons entry rest induction =>
      rw [Roster.violationsOfAll, List.forall_mem_append]
      exact ⟨queryError?_violations roster entry.1 entry.2, induction _⟩

theorem queryError?_strangers (element : Xml.Element) (part : String) :
    ∀ error ∈ strangers known element part, error.queryError? = none := by
  intro error member
  obtain ⟨identifier, _, isUnknown⟩ := List.mem_filterMap.mp member
  split at isUnknown
  · cases isUnknown
  · cases isUnknown
    rfl

theorem blamesQuery_of_first {element : Xml.Element} {error : ConfigError} {queryText : String}
    {syntaxError : SyntaxError} (first : (violations known element).head? = some error)
    (cause : error.queryError? = some (queryText, syntaxError)) :
    BlamesQuery element queryText syntaxError error := by
  simp only [violations, Xml.Element.missing, List.append_assoc] at first
  cases named : element.value? "name" with
  | none =>
      rw [named] at first
      cases first
      cases cause
  | some name =>
      simp only [named, Option.isSome_some, if_true, Option.getD_some, List.nil_append] at first
      cases queries : element.named "query" with
      | nil =>
          rw [queries] at first
          cases first
          cases cause
      | cons queryElement others =>
          simp only [queries, queryViolations] at first
          cases parsed : Expr.parse queryElement.trimmedText with
          | error syntaxError =>
              rw [parsed] at first
              cases first
              cases cause
              exact ⟨by rw [queries]; rfl, parsed, name, named, rfl⟩
          -- Nothing behind the query has to do with syntax.
          | ok query =>
              rw [parsed] at first
              have behind := List.mem_of_head? first
              simp only [List.nil_append, List.mem_append, List.mem_ite_nil_right,
                List.mem_singleton] at behind
              obtain owner | ⟨_, rfl⟩ | copy := behind
              · rw [queryError?_strangers known element "owner" error owner] at cause
                cases cause
              · cases cause
              · rw [queryError?_strangers known element "cc" error copy] at cause
                cases cause

theorem queryError?_eq_some_iff {roster : Roster} {root : Xml.Element} {error : ConfigError}
    (first : (documentViolations roster root).head? = some error) (queryText : String)
    (syntaxError : SyntaxError) :
    error.queryError? = some (queryText, syntaxError) ↔
      ∃ element ∈ root.namedInside "alerts" "alert", BlamesQuery element queryText syntaxError error := by
  constructor
  · intro cause
    rw [documentViolations, List.head?_append, Option.or_eq_some_iff] at first
    obtain ofUser | ⟨_, ofAlert⟩ := first
    · rw [queryError?_violationsOfAll _ _ error (List.mem_of_head? ofUser)] at cause
      cases cause
    · rw [List.head?_flatMap] at ofAlert
      obtain ⟨element, member, found⟩ := List.exists_of_findSome?_eq_some ofAlert
      exact ⟨element, member, blamesQuery_of_first _ found cause⟩
  · rintro ⟨element, _, _, _, name, _, rfl⟩
    rfl

/-! ## Files -/

theorem loadInto_of_readConfig {roster : Roster} {workspace : Workspace} {path : Path} {root : Xml.Element}
    (read : readConfig workspace path = .ok root) :
    loadInto roster workspace path =
      ((ofDocument roster root).1, (ofDocument roster root).2.mapError .rejected) := by
  rw [loadInto, read]

theorem loadInto_eq_ok_iff {roster known : Roster} {workspace : Workspace} {path : Path} {root : Xml.Element}
    {alerts : List Alert} (read : readConfig workspace path = .ok root) :
    loadInto roster workspace path = (known, .ok alerts) ↔ ofDocument roster root = (known, .ok alerts) := by
  rw [loadInto_of_readConfig read, Prod.mk.injEq, ConfigFailure.mapError_rejected_eq_ok_iff, Prod.ext_iff]

theorem readConfig_of_read {workspace : Workspace} {path : Path} {text : String} {root : Xml.Element}
    (stored : workspace.read path = .ok text) (read : Xml.read text = .ok root) :
    readConfig workspace path = .ok root := by
  simp only [readConfig, stored, read]

/-- A file that cannot be opened is unreadable, and one whose text is no document is malformed, which are errors
in it.  A path that is none, and a file that names a character set in which it cannot be read, make loading fail
with no error in the file.  Any other is rejected for the first violation of its document, with a syntax error as the cause exactly if the query
of an alert is to blame, or it is accepted, and each of its alerts is the one that its element describes, given the
users known then. -/
theorem loaded_described_or_first_violation (roster : Roster) (workspace : Workspace) (path : Path) :
    (∀ error, workspace.read path = .error error → loadInto roster workspace path =
      (roster, .error (if error.fault = .nullCharacter then .escaped (.path error)
        else .rejected (.unreadable path.text error)))) ∧
    ∀ text, workspace.read path = .ok text →
      (∀ fault, Xml.read text = .error (.encoding fault) →
        loadInto roster workspace path = (roster, .error (.escaped (.encoding fault)))) ∧
      (Xml.read text = .error .malformed → loadInto roster workspace path =
        (roster, .error (.rejected (.malformed path.text (workspace.complaints.xml text))))) ∧
      ∀ root, Xml.read text = .ok root →
        (∀ failure, (loadInto roster workspace path).2 = .error failure ↔
          ∃ error, failure = .rejected error ∧ (documentViolations roster root).head? = some error) ∧
        (∀ error, (loadInto roster workspace path).2 = .error (.rejected error) → ∀ queryText syntaxError,
          (error.queryError? = some (queryText, syntaxError) ↔
            ∃ element ∈ root.namedInside "alerts" "alert",
              BlamesQuery element queryText syntaxError error)) ∧
        ∀ known alerts, loadInto roster workspace path = (known, .ok alerts) →
          known = roster.withDeclared (Roster.declarations root) ∧
            List.Forall₂ (Describes known) (elements root) alerts := by
  refine ⟨fun error unread => ?_, fun text stored => ⟨fun fault unusable => ?_, fun malformed => ?_, ?_⟩⟩
  · by_cases isNull : error.fault = .nullCharacter
    · simp only [loadInto, readConfig, unread, if_pos isNull]
    · simp only [loadInto, readConfig, unread, if_neg isNull]
  · simp only [loadInto, readConfig, stored, unusable]
  · simp only [loadInto, readConfig, stored, malformed]
  · intro root read
    have stands := readConfig_of_read stored read
    obtain ⟨rejects, accepts⟩ := ofDocument_outcome roster root
    refine ⟨fun failure => ?_, fun error failed => ?_, fun known alerts loaded => ?_⟩
    · simp only [loadInto_of_readConfig stands, ConfigFailure.mapError_rejected_eq_error_iff, rejects]
    · rw [loadInto_of_readConfig stands] at failed
      obtain ⟨_, sameError, rejected⟩ := ConfigFailure.mapError_rejected_eq_error_iff.mp failed
      cases sameError
      exact queryError?_eq_some_iff ((rejects error).mp rejected)
    · exact accepts known alerts ((loadInto_eq_ok_iff stands).mp loaded)

/-- An alert with several violations, around another with more. -/
def faultyAlerts : String :=
  "<c><alerts><alert name='Late'><query>is:</query><owner>@x</owner>" ++
    "<alerts><alert/></alerts></alert></alerts></c>"

/-- An alert that has the query and the owner of the alert inside. -/
def nestedAlerts : String :=
  "<c><alerts><alert name='Outer'><alert name='Inner'><query> is:open </query><owner>@a</owner></alert>" ++
    "<cc>ann@x</cc></alert></alerts><users><user name='Ann' alias='ann@x' github='@a'/></users></c>"

/-- A document in a character set that does not exist. -/
def alertsInUnknownCharacters : String :=
  "<?xml version=\"1.0\" encoding=\"xxx\"?><c/>"

def filesOfAlerts : Workspace where
  files := [(["faulty.xml"], faultyAlerts), (["nested.xml"], nestedAlerts),
    (["unknown.xml"], alertsInUnknownCharacters)]

/-- The syntax of the query is blamed before the unknown owner and before the alert inside, and the nested
alerts are accepted although their user is declared behind them. -/
theorem faulty_blamed_and_nested_described :
    (filesOfAlerts.read (.ofText "faulty.xml") = .ok faultyAlerts ∧
      ∃ root, Xml.read faultyAlerts = .ok root ∧
        (documentViolations {} root).tail = [.unknownUser "@x", .missingAttribute "alert" "name", .noQuery "",
          .noOwner ""] ∧
        (loadInto {} filesOfAlerts (.ofText "faulty.xml")).2 =
          .error (.rejected (.invalidAlertQuery "Late" "is:" ⟨.missingValue, 3⟩))) ∧
    filesOfAlerts.read (.ofText "nested.xml") = .ok nestedAlerts ∧
      ∃ root known alerts, Xml.read nestedAlerts = .ok root ∧
        loadInto {} filesOfAlerts (.ofText "nested.xml") = (known, .ok alerts) ∧
        alerts.map Alert.name = ["Outer", "Inner"] ∧
        List.Forall₂ (Describes known) (elements root) alerts := by
  have faultyStored : filesOfAlerts.read (.ofText "faulty.xml") = .ok faultyAlerts := by
    decide +kernel
  have nestedStored : filesOfAlerts.read (.ofText "nested.xml") = .ok nestedAlerts := by
    decide +kernel
  have faulty : (Xml.read faultyAlerts).toOption.map (documentViolations {}) =
      some [.invalidAlertQuery "Late" "is:" ⟨.missingValue, 3⟩, .unknownUser "@x",
        .missingAttribute "alert" "name", .noQuery "", .noOwner ""] := by
    decide +kernel
  have nested : (loadInto {} filesOfAlerts (.ofText "nested.xml")).2.toOption.map (List.map Alert.name) =
      some ["Outer", "Inner"] := by
    decide +kernel
  constructor
  · obtain ⟨root, read, violationsEq⟩ := ConfigFailure.exists_of_map_toOption faulty
    obtain ⟨rejected, _, _⟩ := ((loaded_described_or_first_violation {} filesOfAlerts (.ofText "faulty.xml")).2
      faultyAlerts faultyStored).2.2 root read
    refine ⟨faultyStored, root, read, ?_, (rejected _).mpr ⟨_, rfl, ?_⟩⟩
    · rw [violationsEq]
      rfl
    · rw [violationsEq]
      rfl
  · obtain ⟨unusable, malformed, ofRoot⟩ := (loaded_described_or_first_violation {} filesOfAlerts
      (.ofText "nested.xml")).2 nestedAlerts nestedStored
    rcases result : loadInto {} filesOfAlerts (.ofText "nested.xml") with ⟨known, outcome⟩
    rw [result] at nested unusable malformed ofRoot
    obtain ⟨alerts, ⟨⟩, named⟩ := ConfigFailure.exists_of_map_toOption nested
    cases read : Xml.read nestedAlerts with
    | error fault =>
        cases fault with
        | malformed => cases malformed read
        | encoding fault => cases unusable fault read
    | ok root =>
        obtain ⟨_, _, accepted⟩ := ofRoot root read
        exact ⟨nestedStored, root, known, alerts, rfl, rfl, named, (accepted known alerts rfl).2⟩

/-- A file that names a character set that does not exist makes loading fail, and not with an error in the file. -/
theorem unknown_characters_escape :
    filesOfAlerts.read (.ofText "unknown.xml") = .ok alertsInUnknownCharacters ∧
    Alert.load filesOfAlerts (.ofText "unknown.xml") = .error (.escaped (.encoding .unknown)) ∧
    ¬ ∃ error, Alert.load filesOfAlerts (.ofText "unknown.xml") = .error (.rejected error) := by
  have declared : Xml.splitDeclaration (Text.unifyBreaks (Xml.skipMark alertsInUnknownCharacters.toList)) =
      some ({ encoding? := some "xxx".toList }, "<c/>".toList) := by
    decide +kernel
  have undecoded : Xml.decode { encoding? := some "xxx".toList } "<c/>".toList = .error (.encoding .unknown) := by
    decide +kernel
  have unknown : Xml.read alertsInUnknownCharacters = .error (.encoding .unknown) := by
    rw [Xml.read, declared]
    simp only [undecoded, bind, Except.bind]
  have stored : filesOfAlerts.read (.ofText "unknown.xml") = .ok alertsInUnknownCharacters := by
    decide +kernel
  have escapes : Alert.load filesOfAlerts (.ofText "unknown.xml") = .error (.escaped (.encoding .unknown)) := by
    simp only [Alert.load, loadInto, readConfig, stored, unknown]
  refine ⟨stored, escapes, ?_⟩
  rintro ⟨error, rejected⟩
  rw [escapes] at rejected
  cases rejected

end Alert
end IssueWatch
