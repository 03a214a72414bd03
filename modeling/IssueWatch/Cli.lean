import IssueWatch.Command

/-!
# Command lines

From the words of a command line to the action that it asks for and the exit code it ends with.
-/
namespace IssueWatch.Cli

/-!
## Words of a command line

Which words of a command line are options, with which values, and which are arguments. An option is
written long, behind two dashes, with its value behind an equals sign or as the next word, or short,
behind one dash, with its value directly behind it or as the next word. Short options without value may
share a dash. A word of two dashes makes all words after it arguments.
-/

/-- An option that a command knows. -/
structure OptionSpec where
  long : String
  short : Option Char := none
  takesValue : Bool := true
  deriving Repr

/-- Why a command line is not carried out: it makes no sense, or a word that names a file holds a null
character. -/
inductive UsageError where
  | meaningless
  | nullCharacter (word : String)
  deriving DecidableEq, Repr

/-- The options that a word or several words give, each with its value, and the arguments. -/
structure Words where
  options : List (String × String) := []
  arguments : List String := []
  deriving Repr

namespace Words

def withOptions (options : List (String × String)) (words : Words) : Words :=
  { words with options := options ++ words.options }

def withArgument (argument : String) (words : Words) : Words :=
  { words with arguments := argument :: words.arguments }

def last? (words : Words) (long : String) : Option String :=
  ((words.options.filter fun entry => entry.1 = long).getLast?).map Prod.snd

def has (words : Words) (long : String) : Bool :=
  words.options.any fun entry => entry.1 = long

end Words

/-- Whether a word is an option: it starts with a dash and goes on behind it. -/
def isOption (word : List Char) : Bool :=
  match word with
  | '-' :: _ :: _ => true
  | _ => false

/-- Reads short options that share a dash. The answer is the options with their values, and the one
that takes the next word as its value, if there is one. -/
def readShort (specs : List OptionSpec) :
    List Char → Except UsageError (List (String × String) × Option String)
  | [] => .ok ([], none)
  | c :: rest =>
    match specs.find? fun spec => spec.short = some c with
    | none => .error .meaningless
    | some spec =>
      if spec.takesValue then
        if rest.isEmpty then .ok ([], some spec.long)
        else .ok ([(spec.long, String.ofList rest)], none)
      else (readShort specs rest).map fun (options, waiting) => ((spec.long, "") :: options, waiting)

/-- Reads a word that is an option. -/
def readOption (specs : List OptionSpec) (word : List Char) :
    Except UsageError (List (String × String) × Option String) :=
  let name := word.takeWhile (· != '=')
  match specs.find? fun spec => spec.long = String.ofList name with
  | some spec =>
    match word.drop name.length with
    | [] => if spec.takesValue then .ok ([], some spec.long) else .ok ([(spec.long, "")], none)
    | _ :: value =>
      if spec.takesValue then .ok ([(spec.long, String.ofList value)], none) else .error .meaningless
  | none =>
    match word with
    | '-' :: '-' :: _ => .error .meaningless
    | _ => readShort specs word.tail

/-- Reads the words of a command. An option may wait for its value. -/
def readWords (specs : List OptionSpec) : Option String → List String → Except UsageError Words
  | none, [] => .ok {}
  | some _, [] => .error .meaningless
  | some long, value :: rest => (readWords specs none rest).map (.withOptions [(long, value)])
  | none, word :: rest =>
    if word = "--" then .ok { arguments := rest }
    else if isOption word.toList then
      match readOption specs word.toList with
      | .error error => .error error
      | .ok (options, waiting) => (readWords specs waiting rest).map (.withOptions options)
    else (readWords specs none rest).map (.withArgument word)

/-- Reads the options in front of the first argument; that one and all words after it are arguments. -/
def readLeading (specs : List OptionSpec) : Option String → List String → Except UsageError Words
  | none, [] => .ok {}
  | some _, [] => .error .meaningless
  | some long, value :: rest => (readLeading specs none rest).map (.withOptions [(long, value)])
  | none, word :: rest =>
    if word = "--" then .ok { arguments := rest }
    else if isOption word.toList then
      match readOption specs word.toList with
      | .error error => .error error
      | .ok (options, waiting) => (readLeading specs waiting rest).map (.withOptions options)
    else .ok { arguments := word :: rest }

/-!
## Requests

What a command line asks for.
-/

/-- What a command line asks for. -/
inductive Request where
  | help
  | version
  | cache (org repo state : String) (token : Option String) (folder : String)
  | query (snapshotFile text kind : String)
  | report (snapshotFile queriesFile output kind : String)
  | alerts (startFile endFile alertsFile : String) (dryRun : Bool) (kind : String)
  deriving DecidableEq, Repr

def helpOption : OptionSpec := { long := "--help", short := some 'h', takesValue := false }

def kindOption : OptionSpec := { long := "--kind", short := some 'k' }

def leadingOptions : List OptionSpec :=
  [{ long := "--verbose", short := some 'v', takesValue := false }, helpOption]

def cacheOptions : List OptionSpec :=
  [{ long := "--org", short := some 'o' }, { long := "--repo", short := some 'r' },
    { long := "--state", short := some 's' }, { long := "--token" }, { long := "--data-dir" },
    helpOption]

def alertsOptions : List OptionSpec :=
  [{ long := "--dry-run", short := some 'd', takesValue := false }, kindOption, helpOption]

/-- The kind of entries that a command is asked to look at. -/
def kindText (words : Words) : String :=
  (words.last? "--kind").getD "all"

def cacheRequest (words : Words) : Except UsageError Request :=
  match words.arguments, words.last? "--org", words.last? "--repo" with
  | [], some org, some repo =>
    .ok (.cache org repo ((words.last? "--state").getD "all") (words.last? "--token")
      ((words.last? "--data-dir").getD "data/snapshots"))
  | _, _, _ => .error .meaningless

/-- Checks the first arguments of a command, which name files, before they are counted. -/
def checkFileNames (count : Nat) (words : Words) : Except UsageError Unit :=
  match (words.arguments.take count).find? fun word => word.toList.contains '\x00' with
  | some word => .error (.nullCharacter word)
  | none => .ok ()

def queryRequest (words : Words) : Except UsageError Request := do
  checkFileNames 1 words
  match words.arguments with
  | [snapshotFile, text] => .ok (.query snapshotFile text (kindText words))
  | _ => .error .meaningless

def reportRequest (words : Words) : Except UsageError Request := do
  checkFileNames 3 words
  match words.arguments with
  | [snapshotFile, queriesFile, output] =>
    .ok (.report snapshotFile queriesFile output (kindText words))
  | _ => .error .meaningless

def alertsRequest (words : Words) : Except UsageError Request := do
  checkFileNames 3 words
  match words.arguments with
  | [startFile, endFile, alertsFile] =>
    .ok (.alerts startFile endFile alertsFile (words.has "--dry-run") (kindText words))
  | _ => .error .meaningless

def versionRequest (words : Words) : Except UsageError Request :=
  if words.arguments.isEmpty then .ok .version else .error .meaningless

/-- The request of a command with the words behind it. Asking for help goes before everything but an
option that makes no sense. -/
def commandRequest (specs : List OptionSpec) (request : Words → Except UsageError Request)
    (words : List String) : Except UsageError Request := do
  let found ← readWords specs none words
  if found.has "--help" then return .help else request found

/-- What is done when no command has a name: a name that could be an option may still ask for help. -/
def unknownCommand (words : List String) : Except UsageError Request := do
  let found ← readLeading leadingOptions none words
  if found.has "--help" then return .help else .error .meaningless

def Request.ofWords (words : List String) : Except UsageError Request := do
  let leading ← readLeading leadingOptions none words
  if leading.has "--help" then return .help
  match leading.arguments with
  | [] => .error .meaningless
  | name :: rest =>
    match name with
    | "cache" => commandRequest cacheOptions cacheRequest rest
    | "query" => commandRequest [kindOption, helpOption] queryRequest rest
    | "report" => commandRequest [kindOption, helpOption] reportRequest rest
    | "alerts" => commandRequest alertsOptions alertsRequest rest
    | "version" => commandRequest [helpOption] versionRequest rest
    | _ => unknownCommand (name :: rest)

/-!
## Running command lines

The action of a command line, and the exit code that it ends with.
-/

/-- What commands use besides the files: variables, the tracker, the mail server, the clock and the
full name of the working folder. -/
structure Services where
  environment : Environment := {}
  tracker : Tracker.Service := {}
  mailServer : Mail.Server := {}
  now : Timestamp
  home : String

/-- The action of a request. Help texts are not part of this library. -/
def Request.action (services : Services) : Request → Action Unit
  | .help => pure ()
  | .version => Action.say ("GitHub Report v" ++ toolVersion)
  | .cache org repo state token folder =>
    Command.cache services.environment services.tracker services.now services.home ⟨org, repo⟩ state
      token (.ofText folder)
  | .query snapshotFile text kind => Command.query (.ofText snapshotFile) text kind
  | .report snapshotFile queriesFile output kind =>
    Command.report (.ofText snapshotFile) (.ofText queriesFile) (.ofText output) kind
  | .alerts startFile endFile alertsFile dryRun kind =>
    Command.alerts services.environment services.mailServer (.ofText startFile) (.ofText endFile)
      (.ofText alertsFile) dryRun kind

/-- How a command line ended: its exit code, the failure that ended it early if it was one, and what it
left behind. -/
structure Outcome where
  code : Nat
  failure : Option Stop := none
  world : World

def Outcome.ofAction (action : Action Unit) (world : World) : Outcome :=
  match action.run.run world with
  | (.ok (), after) => { code := 0, world := after }
  | (.error (.exit code), after) => { code, world := after }
  | (.error stop, after) => { code := 1, failure := some stop, world := after }

def run (services : Services) (words : List String) (workspace : Workspace) : Outcome :=
  match Request.ofWords words with
  | .error .meaningless => { code := 2, world := { workspace } }
  | .error (.nullCharacter word) =>
    { code := 1, failure := some (.file ⟨.nullCharacter, .ofText word⟩), world := { workspace } }
  | .ok request => .ofAction (request.action services) { workspace }

end IssueWatch.Cli
