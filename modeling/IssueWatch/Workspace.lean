import IssueWatch.Text.Lines
import IssueWatch.Text.Quoted

/-!
# The surroundings of a run

The environment that settings come from, and the files that commands work on.
-/
namespace IssueWatch

/-!
## The environment

Variables that settings come from.
-/

/-- The variables of the environment, each with its value. -/
structure Environment where
  bindings : List (String × String) := []
  deriving Repr

namespace Environment

def get? (environment : Environment) (name : String) : Option String :=
  (environment.bindings.find? fun entry => entry.1 = name).map Prod.snd

/-- A value that is not empty; an empty one counts as none. -/
def filled : Option String → Option String
  | some "" | none => none
  | some text => some text

end Environment

/-!
## Paths

Names of files and folders. A path keeps the steps to the parent folder that it was written with, and
drops empty steps and steps that stay where they are.
-/

/-- Where a path starts: at the working folder or at the root, which two slashes denote as well as one. -/
inductive Path.Start where
  | working
  | root
  | doubleRoot
  deriving DecidableEq, Repr

def Path.Start.text : Path.Start → String
  | .working => ""
  | .root => "/"
  | .doubleRoot => "//"

/-- A way to a file or folder. -/
structure Path where
  start : Path.Start := .working
  steps : List String
  deriving DecidableEq, Repr

namespace Path

/-- Cuts a text at its slashes. -/
def splitSlashes (step : List Char) : List Char → List String
  | [] => [String.ofList step.reverse]
  | '/' :: rest => String.ofList step.reverse :: splitSlashes [] rest
  | c :: rest => splitSlashes (c :: step) rest

/-- Where a path starts by its slashes in front. Three or more are like one. -/
def startOf (text : List Char) : Start :=
  match (text.takeWhile (· == '/')).length with
  | 0 => .working
  | 2 => .doubleRoot
  | _ => .root

def ofText (text : String) : Path where
  start := startOf text.toList
  steps := (splitSlashes [] text.toList).filter fun step => step != "" && step != "."

/-- The text of a path; the working folder is a single point. -/
def text (path : Path) : String :=
  if path.start = .working ∧ path.steps.isEmpty then "."
  else path.start.text ++ Text.join "/" path.steps

/-- The path of a file in a folder. -/
def child (path : Path) (name : String) : Path :=
  { path with steps := path.steps ++ [name] }

def name (path : Path) : String :=
  path.steps.getLast?.getD ""

end Path

/-- The place of a file or folder: the folders on the way to it from the working folder, and its own
name at the end. A place outside the working folder starts with a slash or with a step to the parent. -/
abbrev Place := List String

namespace Path

/-- Goes one step from a place. -/
def walk (place : Place) (step : String) : Place :=
  if step = ".." then
    match place.getLast? with
    | none | some ".." => place ++ [step]
    | some "/" => place
    | some _ => place.dropLast
  else place ++ [step]

/-- The place where the steps of a path start. -/
def origin (path : Path) : Place :=
  if path.start = .working then [] else ["/"]

/-- The place that a path leads to if all folders on the way exist. -/
def place (path : Path) : Place :=
  path.steps.foldl walk path.origin

end Path

/-!
## Workspaces

The files and folders that a command works on. A file lies in a folder that exists, and the way to it
leads through folders only.
-/

/-- What the readers of the two formats of files say about a text that they cannot read. -/
structure Complaints where
  json : String → String := fun _ => "malformed text"
  xml : String → String := fun _ => "malformed text"

/-- The texts of the files at some places, the folders that were made, and the readers of the files. -/
structure Workspace where
  files : List (Place × String) := []
  folders : List Place := []
  complaints : Complaints := {}

/-- The reason for which a file or folder cannot be used. -/
inductive FileFault where
  | notFound
  | isFolder
  | notFolder
  | exists
  | nameTooLong
  | nullCharacter
  deriving DecidableEq, Repr

/-- A fault and the path that it was met at. -/
structure FileError where
  fault : FileFault
  path : Path
  deriving DecidableEq, Repr

/-- The text of an error names the fault, with its number, and the path. A null character is named alone. -/
def FileError.message (error : FileError) : String :=
  let place := Text.quoted error.path.text
  match error.fault with
  | .notFound => "[Errno 2] No such file or directory: " ++ place
  | .isFolder => "[Errno 21] Is a directory: " ++ place
  | .notFolder => "[Errno 20] Not a directory: " ++ place
  | .exists => "[Errno 17] File exists: " ++ place
  | .nameTooLong => "[Errno 36] File name too long: " ++ place
  | .nullCharacter => "embedded null byte"

/-- The most bytes of a name. -/
def maxNameBytes : Nat := 255

/-- The most bytes of a path. -/
def maxPathBytes : Nat := 4095

/-- What is wrong with a path wherever it leads. -/
def Path.fault? (path : Path) : Option FileFault :=
  if path.text.toList.contains '\x00' then some .nullCharacter
  else if maxPathBytes < path.text.utf8ByteSize then some .nameTooLong
  else none

namespace Workspace

def file? (workspace : Workspace) (place : Place) : Option String :=
  (workspace.files.find? fun entry => entry.1 = place).map Prod.snd

/-- Whether a place is a folder: one that was made, or one with a file somewhere inside. -/
def isFolder (workspace : Workspace) (place : Place) : Bool :=
  place.isEmpty || workspace.folders.contains place ||
    (workspace.folders ++ workspace.files.map Prod.fst).any fun inner =>
      place.isPrefixOf inner && place != inner

/-- Goes one step from a place that is a folder. -/
def step (place : Place) (name : String) : Except FileFault Place :=
  if maxNameBytes < name.utf8ByteSize then .error .nameTooLong else .ok (Path.walk place name)

/-- Follows the steps of a path through folders, all but the last. -/
def follow (workspace : Workspace) (place : Place) : List String → Except FileFault Place
  | [] => .ok place
  | [name] => step place name
  | name :: rest => do
    let next ← step place name
    if workspace.isFolder next then workspace.follow next rest
    else if (workspace.file? next).isSome then .error .notFolder
    else .error .notFound

/-- The place of a path whose last step may be missing. -/
def locate (workspace : Workspace) (path : Path) : Except FileError Place :=
  match path.fault? with
  | some fault => .error ⟨fault, path⟩
  | none => (workspace.follow path.origin path.steps).mapError fun fault => ⟨fault, path⟩

def read (workspace : Workspace) (path : Path) : Except FileError String := do
  let place ← workspace.locate path
  if workspace.isFolder place then .error ⟨.isFolder, path⟩
  else
    match workspace.file? place with
    | some text => .ok text
    | none => .error ⟨.notFound, path⟩

/-- Puts a text into the file at a place; a new file goes behind the others. -/
def put (place : Place) (text : String) : List (Place × String) → List (Place × String)
  | [] => [(place, text)]
  | (other, old) :: rest =>
    if other = place then (place, text) :: rest else (other, old) :: put place text rest

def write (workspace : Workspace) (path : Path) (text : String) : Except FileError Workspace := do
  let place ← workspace.locate path
  if workspace.isFolder place then .error ⟨.isFolder, path⟩
  else .ok { workspace with files := put place text workspace.files }

/-- Makes the folders on a way that do not exist yet. -/
def makeFolders (workspace : Workspace) (place : Place) : List String → Except FileFault Workspace
  | [] => .ok workspace
  | name :: rest => do
    let next ← step place name
    if workspace.isFolder next then workspace.makeFolders next rest
    else if (workspace.file? next).isSome then
      .error (if rest.isEmpty then .exists else .notFolder)
    else makeFolders { workspace with folders := workspace.folders ++ [next] } next rest

def makeFolder (workspace : Workspace) (path : Path) : Except FileError Workspace :=
  match path.fault? with
  | some fault => .error ⟨fault, path⟩
  | none => (workspace.makeFolders path.origin path.steps).mapError fun fault => ⟨fault, path⟩

/-- What lies under a name in a folder. -/
inductive Item where
  | file (text : String)
  | folder
  deriving DecidableEq, Repr

/-- The size of a folder itself, without what it holds. -/
def folderSize : Nat := 4096

/-- The number of bytes that an item takes. -/
def Item.byteSize : Item → Nat
  | .file text => text.utf8ByteSize
  | .folder => folderSize

/-- The name that leads from a folder towards a place inside it. -/
def nameTowards (folder place : Place) : Option String :=
  if folder.isPrefixOf place then (place.drop folder.length).head? else none

/-- The names directly inside a folder, in the order of their code points. -/
def namesIn (workspace : Workspace) (folder : Place) : List String :=
  ((workspace.folders ++ workspace.files.map Prod.fst).filterMap (nameTowards folder)).eraseDups.mergeSort
    fun first second => decide (first ≤ second)

/-- What lies directly inside a folder, in the order of the names. -/
def itemsIn (workspace : Workspace) (folder : Place) : List (String × Item) :=
  (workspace.namesIn folder).map fun name =>
    (name, match workspace.file? (folder ++ [name]) with
      | some text => .file text
      | none => .folder)

end Workspace
end IssueWatch
