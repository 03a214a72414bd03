import IssueWatch.Decimal
import IssueWatch.Json.Reader
import IssueWatch.Json.Writer
import IssueWatch.Snapshot
import IssueWatch.Workspace

/-!
# Archives of snapshots

A folder with snapshot files. A file is named for the minute that its snapshot was taken in, so that a
later snapshot of the same minute takes its place and the names sort like the times, among years of
four digits.
-/
namespace IssueWatch

/-!
## Timestamps

A time of a calendar day on a clock on the wall, with or without the distance of that clock from
universal time.
-/

/-- A time on a clock. The offset counts minutes ahead of universal time. -/
structure Timestamp where
  year : Nat
  month : Nat
  day : Nat
  hour : Nat := 0
  minute : Nat := 0
  second : Nat := 0
  microsecond : Nat := 0
  offset : Option Int := none
  deriving DecidableEq, Repr

namespace Timestamp

open Decimal

def dateText (time : Timestamp) : String :=
  padded 4 time.year ++ "-" ++ padded 2 time.month ++ "-" ++ padded 2 time.day

/-- The distance from universal time in hours and minutes. -/
def offsetText (offset : Int) : String :=
  (if offset < 0 then "-" else "+") ++ padded 2 (offset.natAbs / 60) ++ ":" ++
    padded 2 (offset.natAbs % 60)

/-- The standard form of a timestamp. Microseconds are written unless they are zero. -/
def isoText (time : Timestamp) : String :=
  time.dateText ++ "T" ++ padded 2 time.hour ++ ":" ++ padded 2 time.minute ++ ":" ++
    padded 2 time.second ++
    (if time.microsecond = 0 then "" else "." ++ padded 6 time.microsecond) ++
    (time.offset.map offsetText).getD ""

end Timestamp

/-! ## Folders of snapshots -/

def toolVersion : String := "0.1.0"

/-- The folder that holds snapshot files. -/
structure Archive where
  folder : Path
  deriving DecidableEq, Repr

namespace Archive

/-- The name of the file for a time. The year has as many digits as it needs. -/
def fileName (time : Timestamp) : String :=
  "Issues_" ++ toString time.year ++ "-" ++ Decimal.padded 2 time.month ++ "-" ++
    Decimal.padded 2 time.day ++ "@" ++ Decimal.padded 2 time.hour ++ "-" ++
    Decimal.padded 2 time.minute ++ ".json"

def isSnapshotName (name : String) : Bool :=
  "Issues_".toList.isPrefixOf name.toList && ".json".toList.isSuffixOf name.toList &&
    "Issues_.json".length ≤ name.length

/-- The data stored with a snapshot: the given fields, and on top of them the time, the version and the
number of issues. -/
def stampedMetadata (metadata : Json.Fields) (time : Timestamp) (count : Nat) : Json.Fields :=
  Json.setField "issue_count" (.int count) <|
    Json.setField "tool_version" (.string toolVersion) <|
      Json.setField "collection_timestamp" (.string time.isoText) metadata

def stamped (repository : String × String) (issues : List Issue) (time : Timestamp)
    (metadata : Json.Fields) : Snapshot where
  org := repository.1
  repo := repository.2
  issues := issues
  metadata := stampedMetadata metadata time issues.length

def filePath (archive : Archive) (time : Timestamp) : Path :=
  archive.folder.child (fileName time)

def store (archive : Archive) (workspace : Workspace) (snapshot : Snapshot) (time : Timestamp) :
    Except FileError Workspace :=
  workspace.write (archive.filePath time) snapshot.toJson.write

/-- What has the name of a snapshot file in an archive, in the order of the names. -/
def snapshots (archive : Archive) (workspace : Workspace) : List (String × Workspace.Item) :=
  (workspace.itemsIn archive.folder.place).filter fun entry => isSnapshotName entry.1

/-- How much an archive holds. -/
structure Statistics where
  count : Nat
  latest : Option String
  byteSize : Nat
  deriving DecidableEq, Repr

def statistics (archive : Archive) (workspace : Workspace) : Statistics :=
  let found := archive.snapshots workspace
  { count := found.length
    latest := found.getLast?.map Prod.fst
    byteSize := found.foldl (fun total entry => total + entry.2.byteSize) 0 }

/-- The size in hundredths of a binary megabyte; a half goes to the even neighbour. -/
def Statistics.hundredths (statistics : Statistics) : Nat :=
  let unit := 0x100000
  let whole := statistics.byteSize * 100 / unit
  let rest := statistics.byteSize * 100 % unit
  if 2 * rest > unit ∨ (2 * rest = unit ∧ whole % 2 = 1) then whole + 1 else whole

/-- The size in binary megabytes, with at least one and at most two places. -/
def Statistics.sizeText (statistics : Statistics) : String :=
  let hundredths := statistics.hundredths
  toString (hundredths / 100) ++ "." ++
    (if hundredths % 10 = 0 then toString (hundredths / 10 % 10)
      else Decimal.padded 2 (hundredths % 100))

end Archive

namespace Snapshot

/-- The reason for which a file does not hold a snapshot. -/
inductive LoadError where
  | file (error : FileError)
  | text (error : Json.ReadError) (written : String)
  | mismatch (mismatches : List Json.Mismatch)

def ofText (text : String) : Except LoadError Snapshot :=
  match Json.read text with
  | .error error => .error (.text error text)
  | .ok (value, torn) =>
    match ofJson value with
    | .error mismatches => .error (.mismatch (mismatches.map (Json.Mismatch.inTorn torn)))
    | .ok snapshot => .ok { snapshot with tears := snapshot.tearsAt torn }

def load (workspace : Workspace) (path : Path) : Except LoadError Snapshot :=
  match workspace.read path with
  | .error error => .error (.file error)
  | .ok text => ofText text

end Snapshot
end IssueWatch
