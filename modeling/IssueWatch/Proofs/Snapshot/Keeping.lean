import IssueWatch.Proofs.Action
import IssueWatch.Proofs.Snapshot.Naming
import IssueWatch.Proofs.Snapshot.Storing
import IssueWatch.Proofs.Workspace.Folders
import IssueWatch.Proofs.Workspace.Listing
import Mathlib.Algebra.GroupWithZero.Nat

/-!
# What an archive keeps

However many snapshots are saved in an archive, and in whichever order of their times, it keeps one file for each
minute: that of the last save in the minute.  The names of the files are ordered like the minutes.
-/
namespace IssueWatch

/-- What one snapshot is saved from. -/
structure Save where
  org : String
  repo : String
  issues : List Issue
  time : Timestamp
  metadata : Json.Fields

namespace Save

def snapshot (save : Save) : Snapshot :=
  Archive.stamped (save.org, save.repo) save.issues save.time save.metadata

def text (save : Save) : String :=
  save.snapshot.toJson.write

def name (save : Save) : String :=
  Archive.fileName save.time

def minute (save : Save) : List Nat :=
  save.time.minuteOnClock

/-- A save in a year of four digits, of data that a text keeps as they are. -/
structure IsOrdinary (save : Save) : Prop where
  four : save.time.HasFourDigitYear
  plain : Json.Plain (.object save.metadata)
  short : ∀ issue ∈ save.issues, Json.IsShort issue.number
  countable : Json.IsShort save.issues.length

theorem IsOrdinary.ofText_text {save : Save} (ordinary : save.IsOrdinary) :
    Snapshot.ofText save.text = .ok save.snapshot :=
  Snapshot.ofText_write ordinary.short (Archive.plain_stampedMetadata ordinary.plain _ ordinary.countable) rfl

theorem IsOrdinary.name_eq_iff {save other : Save} (ordinary : save.IsOrdinary)
    (otherOrdinary : other.IsOrdinary) : save.name = other.name ↔ save.minute = other.minute :=
  Archive.fileName_eq_fileName_iff ordinary.four otherOrdinary.four

/-- The last of some saves under a name. -/
def last? (saves : List Save) (name : String) : Option Save :=
  saves.reverse.find? fun save => save.name = name

theorem last?_eq_some_iff {saves : List Save} {name : String} {save : Save} :
    last? saves name = some save ↔
      save.name = name ∧ ∃ before later, saves = before ++ save :: later ∧
        ∀ other ∈ later, other.name ≠ name := by
  rw [last?, List.find?_eq_some_iff_append]
  simp only [decide_eq_true_eq, Bool.not_eq_true', decide_eq_false_iff_not]
  refine and_congr_right fun _ => ⟨?_, ?_⟩
  · rintro ⟨later, before, reversed, noneLater⟩
    refine ⟨before.reverse, later.reverse, ?_, by simpa using noneLater⟩
    rw [← List.reverse_reverse saves, reversed]
    simp
  · rintro ⟨before, later, rfl, noneLater⟩
    exact ⟨later.reverse, before.reverse, by simp, by simpa using noneLater⟩

theorem last?_concat (saves : List Save) (save : Save) (name : String) :
    last? (saves ++ [save]) name = if save.name = name then some save else last? saves name := by
  rw [last?, List.reverse_concat, List.find?_cons]
  by_cases same : save.name = name <;> simp [same, last?]

theorem last?_eq_none_iff {saves : List Save} {name : String} :
    last? saves name = none ↔ ∀ save ∈ saves, save.name ≠ name := by
  simp [last?]

/-- Saves in the order of their minutes are determined by which they are. -/
theorem eq_of_pairwise_minute {saves others : List Save}
    (ordered : (saves.map minute).Pairwise (· < ·)) (othersOrdered : (others.map minute).Pairwise (· < ·))
    (same : ∀ save, save ∈ saves ↔ save ∈ others) : saves = others := by
  have distinct {list : List Save} (increasing : (list.map minute).Pairwise (· < ·)) : list.Nodup :=
    List.Nodup.of_map _ (increasing.imp ne_of_lt)
  have permuted := (List.perm_ext_iff_of_nodup (distinct ordered) (distinct othersOrdered)).mpr same
  exact permuted.eq_of_pairwise (fun _ _ _ _ less greater => absurd greater (lt_asymm less))
    (List.pairwise_map.mp ordered) (List.pairwise_map.mp othersOrdered)

end Save

namespace Archive

/-- The world behind a save, whether or not its message can be shown. -/
def behindSave (archive : Archive) (world : World) (save : Save) : World :=
  ((Command.store archive save.org save.repo save.issues save.time save.metadata).perform world).2

def behindSaves (archive : Archive) (world : World) (saves : List Save) : World :=
  saves.foldl archive.behindSave world

variable {archive : Archive} {workspace : Workspace} {world : World} {save : Save} {saves : List Save}

theorem workspace_behindSave {later : Workspace}
    (stored : archive.store world.workspace save.snapshot save.time = .ok later) :
    (archive.behindSave world save).workspace = later := by
  have changed := Action.perform_change
    (fun workspace => archive.store workspace save.snapshot save.time) world
  simp only [stored] at changed
  -- The file is written before the message is printed, and printing changes no file even if it fails.
  have saying : Action.Quiet (do
      Action.say ("Saved " ++ toString save.issues.length ++ " issues to " ++ (archive.filePath save.time).text)
      return archive.filePath save.time) :=
    (Action.quiet_say _).bind fun _ => .pure _
  have performed := Action.perform_bind_ok changed fun _ => do
    Action.say ("Saved " ++ toString save.issues.length ++ " issues to " ++ (archive.filePath save.time).text)
    return archive.filePath save.time
  exact (congrArg (fun result => result.2.workspace) performed).trans (saying.workspace _)

/-- An archive whose folder can be written to, and holds nothing but files. -/
structure Ready (archive : Archive) (workspace : Workspace) : Prop where
  located : ∀ time : Timestamp, time.HasFourDigitYear →
    workspace.locate (archive.filePath time) = .ok (archive.folder.place ++ [fileName time])
  filesOnly : workspace.HoldsFilesOnly archive.folder.place

namespace Ready

theorem of_makeFolder {earlier : Workspace} (made : earlier.makeFolder archive.folder = .ok workspace)
    (empty : workspace.namesIn archive.folder.place = [])
    (room : archive.folder.text.utf8ByteSize + 29 ≤ maxPathBytes) : Ready archive workspace where
  located time four := by
    have size := utf8ByteSize_fileName four
    refine Workspace.locate_child_of_makeFolder made (null_notMem_fileName four) ?_ ?_
      (fileName_ne_parent four)
    · omega
    · rw [size]
      decide
  filesOnly := .of_namesIn_eq_nil empty

theorem put (ready : Ready archive workspace) (name text : String) :
    Ready archive { workspace with
      files := Workspace.put (archive.folder.place ++ [name]) text workspace.files } where
  located time four := by
    refine Workspace.locate_mono (fun place isFolder => ?_) (ready.located time four)
    rw [Workspace.isFolder_put, isFolder, Bool.true_or]
  filesOnly := ready.filesOnly.put name text

theorem workspace_behindSave (ready : Ready archive world.workspace) (ordinary : save.IsOrdinary) :
    (archive.behindSave world save).workspace = { world.workspace with
      files := Workspace.put (archive.folder.place ++ [save.name]) save.text world.workspace.files } := by
  apply Archive.workspace_behindSave
  exact Workspace.write_of_locate (ready.located save.time ordinary.four)
    (ready.filesOnly.isFolder_eq_false _) _

end Ready

/-- The last save of each name that is listed, in the order of the names. -/
def kept (archive : Archive) (workspace : Workspace) (saves : List Save) : List Save :=
  (workspace.namesIn archive.folder.place).filterMap (Save.last? saves)

/-- Behind some saves the archive holds, under each name, the text of the last one. -/
structure Keeps (archive : Archive) (workspace : Workspace) (saves : List Save) : Prop where
  ready : Ready archive workspace
  text : ∀ name, workspace.file? (archive.folder.place ++ [name]) = (Save.last? saves name).map Save.text

namespace Keeps

theorem nothing (ready : Ready archive workspace)
    (empty : workspace.namesIn archive.folder.place = []) : Keeps archive workspace [] where
  ready := ready
  text name := by
    by_contra present
    have listed := ready.filesOnly.mem_namesIn_iff_file.mpr present
    rw [empty] at listed
    cases listed

theorem behindSave (keeps : Keeps archive world.workspace saves) (ordinary : save.IsOrdinary) :
    Keeps archive (archive.behindSave world save).workspace (saves ++ [save]) := by
  rw [keeps.ready.workspace_behindSave ordinary]
  refine ⟨keeps.ready.put save.name save.text, fun name => ?_⟩
  rw [Save.last?_concat]
  by_cases same : save.name = name
  · rw [if_pos same, ← same, Workspace.file?_put]
    rfl
  · have apart : archive.folder.place ++ [save.name] ≠ archive.folder.place ++ [name] := by
      simpa using same
    rw [if_neg same, Workspace.file?_put_of_ne apart, keeps.text]

theorem behindSaves {earlier later : List Save} (keeps : Keeps archive world.workspace earlier)
    (ordinary : ∀ save ∈ later, save.IsOrdinary) :
    Keeps archive (archive.behindSaves world later).workspace (earlier ++ later) := by
  -- Each save moves from the later ones to the end of the earlier ones, which the archive keeps already.
  induction later generalizing world earlier with
  | nil =>
      rw [List.append_nil]
      exact keeps
  | cons save rest induction =>
      rw [List.forall_mem_cons] at ordinary
      rw [Archive.behindSaves, List.foldl_cons, List.append_cons]
      exact induction (keeps.behindSave ordinary.1) ordinary.2

/-! ## What is listed -/

theorem exists_last?_of_mem (keeps : Keeps archive workspace saves) {name : String}
    (member : name ∈ workspace.namesIn archive.folder.place) :
    ∃ save, Save.last? saves name = some save ∧ save.name = name := by
  rw [keeps.ready.filesOnly.mem_namesIn_iff_file, keeps.text, ne_eq, Option.map_eq_none_iff] at member
  obtain ⟨save, last⟩ := Option.ne_none_iff_exists'.mp member
  exact ⟨save, last, (Save.last?_eq_some_iff.mp last).1⟩

theorem mem_kept_iff (keeps : Keeps archive workspace saves) :
    save ∈ archive.kept workspace saves ↔ Save.last? saves save.name = some save := by
  rw [kept, List.mem_filterMap]
  constructor
  · rintro ⟨name, _, last⟩
    rwa [(Save.last?_eq_some_iff.mp last).1]
  · intro last
    refine ⟨save.name, ?_, last⟩
    rw [keeps.ready.filesOnly.mem_namesIn_iff_file, keeps.text, last]
    nofun

theorem mem_of_mem_kept (keeps : Keeps archive workspace saves)
    (member : save ∈ archive.kept workspace saves) : save ∈ saves := by
  obtain ⟨_, _, _, rfl, _⟩ := Save.last?_eq_some_iff.mp (keeps.mem_kept_iff.mp member)
  simp

theorem map_kept (keeps : Keeps archive workspace saves) {α : Type} {form : Save → α} {item : String → α}
    (agree : ∀ name save, Save.last? saves name = some save → form save = item name) :
    (archive.kept workspace saves).map form = (workspace.namesIn archive.folder.place).map item := by
  rw [kept, List.map_filterMap, ← List.filterMap_eq_map]
  refine List.filterMap_congr fun name member => ?_
  obtain ⟨save, last, _⟩ := keeps.exists_last?_of_mem member
  rw [last, Option.map_some, agree name save last]
  rfl

theorem map_name_kept (keeps : Keeps archive workspace saves) :
    (archive.kept workspace saves).map Save.name = workspace.namesIn archive.folder.place := by
  have same : (archive.kept workspace saves).map Save.name =
      (workspace.namesIn archive.folder.place).map id :=
    keeps.map_kept fun name save last => (Save.last?_eq_some_iff.mp last).1
  rwa [List.map_id] at same

theorem pairwise_minute_kept (keeps : Keeps archive workspace saves)
    (ordinary : ∀ save ∈ saves, save.IsOrdinary) :
    ((archive.kept workspace saves).map Save.minute).Pairwise (· < ·) := by
  have ordered := Workspace.pairwise_namesIn workspace archive.folder.place
  rw [← keeps.map_name_kept, List.pairwise_map] at ordered
  rw [List.pairwise_map]
  refine ordered.imp_of_mem fun {first second} firstMember secondMember less => ?_
  exact (fileName_lt_fileName_iff (ordinary first (keeps.mem_of_mem_kept firstMember)).four
    (ordinary second (keeps.mem_of_mem_kept secondMember)).four).mp less

theorem snapshots_eq (keeps : Keeps archive workspace saves)
    (ordinary : ∀ save ∈ saves, save.IsOrdinary) :
    archive.snapshots workspace =
      (archive.kept workspace saves).map fun save => (save.name, .file save.text) := by
  have items : workspace.itemsIn archive.folder.place =
      (archive.kept workspace saves).map fun save => (save.name, .file save.text) := by
    rw [Workspace.itemsIn]
    refine (keeps.map_kept fun name save last => ?_).symm
    rw [keeps.text, last, (Save.last?_eq_some_iff.mp last).1]
    rfl
  rw [snapshots, items, List.filter_eq_self]
  intro entry member
  obtain ⟨save, kept, rfl⟩ := List.mem_map.mp member
  exact isSnapshotName_fileName (ordinary save (keeps.mem_of_mem_kept kept)).four

theorem load_eq (keeps : Keeps archive workspace saves) (ordinary : save.IsOrdinary)
    (kept : save ∈ archive.kept workspace saves) :
    Snapshot.load workspace (archive.filePath save.time) = .ok save.snapshot := by
  have read : workspace.read (archive.filePath save.time) = .ok save.text := by
    have text := keeps.text save.name
    rw [keeps.mem_kept_iff.mp kept, Option.map_some, Save.name] at text
    rw [Workspace.read, keeps.ready.located save.time ordinary.four]
    change (if workspace.isFolder _ = true then _ else _) = _
    rw [keeps.ready.filesOnly.isFolder_eq_false, if_neg Bool.false_ne_true, text]
  rw [Snapshot.load, read]
  exact ordinary.ofText_text

theorem statistics_eq (keeps : Keeps archive workspace saves)
    (ordinary : ∀ save ∈ saves, save.IsOrdinary) :
    archive.statistics workspace = {
      count := (archive.kept workspace saves).length
      latest := (archive.kept workspace saves).getLast?.map Save.name
      byteSize := ((archive.kept workspace saves).map fun save => save.text.utf8ByteSize).sum } := by
  rw [statistics, keeps.snapshots_eq ordinary]
  simp only [List.length_map, List.getLast?_map, Option.map_map, List.foldl_map, List.sum_eq_foldl,
    Workspace.Item.byteSize]
  rfl

theorem mem_kept_iff_last (keeps : Keeps archive workspace saves)
    (ordinary : ∀ save ∈ saves, save.IsOrdinary) :
    save ∈ archive.kept workspace saves ↔
      ∃ before later, saves = before ++ save :: later ∧ ∀ other ∈ later, other.minute ≠ save.minute := by
  have sameAs {before later : List Save} (split : saves = before ++ save :: later) :
      (∀ other ∈ later, other.name ≠ save.name) ↔ ∀ other ∈ later, other.minute ≠ save.minute := by
    subst split
    refine forall₂_congr fun other member => not_congr ?_
    exact (ordinary other (by simp [member])).name_eq_iff (ordinary save (by simp))
  rw [keeps.mem_kept_iff, Save.last?_eq_some_iff]
  constructor
  · rintro ⟨_, before, later, split, noneLater⟩
    exact ⟨before, later, split, (sameAs split).mp noneLater⟩
  · rintro ⟨before, later, split, noneLater⟩
    exact ⟨rfl, before, later, split, (sameAs split).mpr noneLater⟩

theorem mem_map_minute_kept_iff (keeps : Keeps archive workspace saves)
    (ordinary : ∀ save ∈ saves, save.IsOrdinary) {minute : List Nat} :
    minute ∈ (archive.kept workspace saves).map Save.minute ↔ minute ∈ saves.map Save.minute := by
  constructor
  · intro member
    obtain ⟨save, kept, rfl⟩ := List.mem_map.mp member
    exact List.mem_map_of_mem (keeps.mem_of_mem_kept kept)
  · intro member
    obtain ⟨save, saved, rfl⟩ := List.mem_map.mp member
    cases last : Save.last? saves save.name with
    | none => exact absurd rfl (Save.last?_eq_none_iff.mp last save saved)
    | some other =>
        have sameName := (Save.last?_eq_some_iff.mp last).1
        have kept : other ∈ archive.kept workspace saves := by
          rw [keeps.mem_kept_iff, sameName, last]
        rw [← ((ordinary other (keeps.mem_of_mem_kept kept)).name_eq_iff (ordinary save saved)).mp sameName]
        exact List.mem_map_of_mem kept

end Keeps

/-- An archive that starts empty, with room for a name behind the path of its folder, lists one file for each
minute of its saves, in the order of the minutes.  The file is loaded as the last save in the minute, and the
statistics count these files. -/
theorem keeps_last_of_each_minute {archive : Archive} {earlier : Workspace} {world : World}
    {saves : List Save} (made : earlier.makeFolder archive.folder = .ok world.workspace)
    (empty : world.workspace.namesIn archive.folder.place = [])
    (room : archive.folder.text.utf8ByteSize + 29 ≤ maxPathBytes)
    (ordinary : ∀ save ∈ saves, save.IsOrdinary) :
    ∃ kept : List Save,
      (kept.map Save.minute).Pairwise (· < ·) ∧
      (∀ minute, minute ∈ kept.map Save.minute ↔ minute ∈ saves.map Save.minute) ∧
      (∀ save, save ∈ kept ↔ ∃ before later, saves = before ++ save :: later ∧
        ∀ other ∈ later, other.minute ≠ save.minute) ∧
      archive.snapshots (archive.behindSaves world saves).workspace =
        kept.map (fun save => (save.name, .file save.text)) ∧
      (∀ save ∈ kept, Snapshot.load (archive.behindSaves world saves).workspace
        (archive.filePath save.time) = .ok save.snapshot) ∧
      archive.statistics (archive.behindSaves world saves).workspace = {
        count := kept.length
        latest := kept.getLast?.map Save.name
        byteSize := (kept.map fun save => save.text.utf8ByteSize).sum } := by
  have ready : Ready archive world.workspace := .of_makeFolder made empty room
  have keeps : Keeps archive (archive.behindSaves world saves).workspace saves :=
    (Keeps.nothing ready empty).behindSaves ordinary
  refine ⟨archive.kept (archive.behindSaves world saves).workspace saves,
    keeps.pairwise_minute_kept ordinary, fun _ => keeps.mem_map_minute_kept_iff ordinary,
    fun _ => keeps.mem_kept_iff_last ordinary, keeps.snapshots_eq ordinary, fun save member => ?_,
    keeps.statistics_eq ordinary⟩
  exact keeps.load_eq (ordinary save (keeps.mem_of_mem_kept member)) member

def outdatedSave : Save :=
  ⟨"o", "r", [], ⟨2024, 10, 1, 9, 5, 59, 999999, none⟩, []⟩

/-- A save in the same minute, on a clock with an offset. -/
def renewedSave : Save :=
  ⟨"o", "r", [⟨1, "T", "u", "open", false, [], none, none⟩], ⟨2024, 10, 1, 9, 5, 0, 0, some 60⟩,
    [("note", .null)]⟩

def olderSave : Save :=
  ⟨"p", "q", [], ⟨2023, 12, 31, 23, 59, 0, 0, none⟩, []⟩

theorem isOrdinary_threeSaves : ∀ save ∈ [outdatedSave, renewedSave, olderSave], save.IsOrdinary := by
  have noFields : Json.Plain (.object []) := .object List.nodup_nil nofun
  have note : Json.Plain (.object [("note", .null)]) :=
    .object (List.nodup_singleton _) (List.forall_mem_singleton.mpr .null)
  have one : Json.IsShort 1 := by decide +kernel
  have zero : Json.IsShort 0 := by decide +kernel
  simp only [List.forall_mem_cons]
  exact ⟨⟨⟨by decide, by decide, by decide, by decide, by decide⟩, noFields, nofun, zero⟩,
    ⟨⟨by decide, by decide, by decide, by decide, by decide⟩, note, List.forall_mem_singleton.mpr one, one⟩,
    ⟨⟨by decide, by decide, by decide, by decide, by decide⟩, noFields, nofun, zero⟩, nofun⟩

theorem mem_last_of_threeSaves_iff (save : Save) :
    (∃ before later, [outdatedSave, renewedSave, olderSave] = before ++ save :: later ∧
      ∀ other ∈ later, other.minute ≠ save.minute) ↔ save ∈ [olderSave, renewedSave] := by
  constructor
  · rintro ⟨before, later, split, noneLater⟩
    -- The first of the three has a later one in its minute; nothing stands in front of a fourth.
    rcases before with _ | ⟨_, _ | ⟨_, _ | ⟨_, _⟩⟩⟩
    · cases split
      exact absurd rfl (noneLater renewedSave (by simp))
    · cases split
      simp
    · cases split
      simp
    · simp at split
  · intro member
    rcases List.mem_pair.mp member with rfl | rfl
    · exact ⟨[outdatedSave, renewedSave], [], rfl, nofun⟩
    · exact ⟨[outdatedSave], [olderSave], rfl, List.forall_mem_singleton.mpr (by decide)⟩

/-- Of the two saves in one minute the second is kept, with its issue; the file of the earlier year is listed
in front of it. -/
theorem keeps_last_of_two_minutes :
    let archive : Archive := ⟨.ofText "data"⟩
    let after := (archive.behindSaves ⟨{ folders := [["data"]] }, [], []⟩
      [outdatedSave, renewedSave, olderSave]).workspace
    (archive.snapshots after).map Prod.fst =
        ["Issues_2023-12-31@23-59.json", "Issues_2024-10-01@09-05.json"] ∧
      (archive.statistics after).count = 2 ∧
      (archive.statistics after).latest = some "Issues_2024-10-01@09-05.json" ∧
      Snapshot.load after (.ofText "data/Issues_2024-10-01@09-05.json") = .ok renewedSave.snapshot := by
  intro archive after
  have made : ({} : Workspace).makeFolder (.ofText "data") = .ok { folders := [["data"]] } := rfl
  obtain ⟨kept, ordered, _, member, listed, loaded, statistics⟩ :=
    @keeps_last_of_each_minute archive {} ⟨{ folders := [["data"]] }, [], []⟩ [outdatedSave, renewedSave, olderSave]
      made (by decide +kernel) (by decide +kernel) isOrdinary_threeSaves
  obtain rfl : kept = [olderSave, renewedSave] :=
    Save.eq_of_pairwise_minute ordered (by decide) fun save =>
      (member save).trans (mem_last_of_threeSaves_iff save)
  have olderName : olderSave.name = "Issues_2023-12-31@23-59.json" := by decide +kernel
  have renewedName : renewedSave.name = "Issues_2024-10-01@09-05.json" := by decide +kernel
  have path : Path.ofText "data/Issues_2024-10-01@09-05.json" = archive.filePath renewedSave.time := by
    decide +kernel
  rw [listed, statistics, path]
  refine ⟨?_, rfl, congrArg some renewedName, loaded renewedSave (by simp)⟩
  rw [← olderName, ← renewedName]
  rfl

end Archive
end IssueWatch
