import IssueWatch.Cli

/-!
# The program

Carries out a command line on the files that it names. All decisions are made by `Cli.run`; this module
only reads the variables and files that a command can look at, shows what the command printed and writes
the files that it changed. The program works offline: its tracker has no repositories, and its mail
server refuses every connection.
-/
namespace IssueWatch.Cli

def variableNames : List String :=
  ["GITHUB_TOKEN", "GH_REPORT_SMTP_HOST", "GH_REPORT_SMTP_PORT", "GH_REPORT_SMTP_USER",
    "GH_REPORT_SMTP_PASSWORD", "GH_REPORT_SMTP_FROM", "GH_REPORT_SMTP_STARTTLS"]

def readEnvironment : IO Environment := do
  let bindings ← variableNames.filterMapM fun name => do
    return (← IO.getEnv name).map (name, ·)
  return { bindings }

/-- The name that the system knows a place by. -/
def systemName : Place → String
  | "/" :: steps => "/" ++ Text.join "/" steps
  | steps => Text.join "/" ("." :: steps)

/-- The text of the file at a place, if there is one. -/
def readText? (place : Place) : IO (Option String) := do
  try
    return some (← IO.FS.readFile (systemName place))
  catch _ => return none

/-- Whether there is a folder at a place. -/
def isFolder (place : Place) : IO Bool := do
  ((← IO.currentDir) / systemName place).isDir

/-- The files and folders on the ways that the words of a command line name. -/
def readWorkspace (words : List String) : IO Workspace := do
  let places := words.map fun word => (Path.ofText word).place
  let ways := places.flatMap fun place => (List.range (place.length + 1)).map place.take
  let files ← places.eraseDups.filterMapM fun place => do
    return (← readText? place).map (place, ·)
  let folders ← ways.eraseDups.filterM isFolder
  return { files, folders }

/-- Shows what was printed. The cells of a row stand next to each other. -/
def display : Console.Printed → IO Unit
  | .line text => IO.println text
  | .table title columns rows => do
    IO.println title
    (columns :: rows).forM fun cells => IO.println (Text.join " | " cells)

/-- Makes the folders and writes the files in which a workspace differs from the one before. -/
def writeChanges (before after : Workspace) : IO Unit := do
  after.folders.forM fun place => do
    if !before.isFolder place then IO.FS.createDirAll (systemName place)
  after.files.forM fun (place, text) => do
    if before.file? place ≠ some text then IO.FS.writeFile (systemName place) text

/-- The services of a program that works offline. -/
def offlineServices (environment : Environment) (home : String) : Services where
  environment := environment
  mailServer := { refuses := fun _ => some "Connection refused" }
  now := { year := 1970, month := 1, day := 1 }
  home := home

/-- The message about a failure that ended a command early. -/
def failureText : Stop → String
  | .exit code => "exit code " ++ toString code
  | .markup (.component fault) => fault.message
  | .markup .parameters => "the parameters of a tag cannot be read"
  | .markup .unmatched => "a closing tag has no open tag to close"
  | .duplicateNumber error => error.message
  | .file error | .config (.path error) => error.message
  | .config (.encoding .unknown) => "a file names a character set that is not known"
  | .config (.encoding .wide) => "a file names a character set with several bytes for a character"
  | .config (.encoding _) => "a file cannot be read in the character set that it names"
  | .tornText | .unsendable .body => "a text holds half of a character"
  | .unsendable (.header _) => "a header of a message cannot be written"
  | .unsendable .address => "an address of a message is not in ASCII"

def carryOut (words : List String) : IO Nat := do
  let workspace ← readWorkspace words
  let services := offlineServices (← readEnvironment) (← IO.currentDir).toString
  let outcome := run services words workspace
  outcome.world.printed.forM display
  writeChanges workspace outcome.world.workspace
  if let some stop := outcome.failure then IO.eprintln (failureText stop)
  return outcome.code

end IssueWatch.Cli

def main (words : List String) : IO UInt32 := do
  return (← IssueWatch.Cli.carryOut words).toUInt32
