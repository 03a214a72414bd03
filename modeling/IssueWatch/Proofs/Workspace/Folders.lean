import IssueWatch.Workspace
import Mathlib.Data.List.Basic

/-!
# Made folders

Behind the making of a folder every step on the way to it leads on, so that names in the folder are found at its
place.  A path is too long or has a null character only if its folder or its name brings that about.
-/
namespace IssueWatch.Workspace

/-!
## Written files are read back

Writing a file takes no folder away and makes none of its place, so that the same path leads to it again.
-/

theorem any_map_fst_put (place : Place) (text : String) (files : List (Place × String))
    (property : Place → Bool) :
    ((put place text files).map Prod.fst).any property =
      (property place || (files.map Prod.fst).any property) := by
  induction files with
  | nil => rfl
  | cons entry rest induction =>
      obtain ⟨other, old⟩ := entry
      by_cases same : other = place
      · subst same
        rw [put, if_pos rfl]
        simp
      · rw [put, if_neg same, List.map_cons, List.any_cons, induction, List.map_cons, List.any_cons,
          Bool.or_left_comm]

theorem file?_put (workspace : Workspace) (place : Place) (text : String) :
    file? { workspace with files := put place text workspace.files } place = some text := by
  obtain ⟨files, folders⟩ := workspace
  rw [file?]
  simp only
  induction files with
  | nil => simp [put]
  | cons entry rest induction =>
      obtain ⟨other, old⟩ := entry
      by_cases same : other = place
      · rw [put, if_pos same]
        simp
      · rw [put, if_neg same, List.find?_cons_of_neg (by simpa using same)]
        exact induction

theorem isFolder_put (workspace : Workspace) (place other : Place) (text : String) :
    isFolder { workspace with files := put place text workspace.files } other =
      (workspace.isFolder other || (other.isPrefixOf place && other != place)) := by
  simp only [isFolder, List.any_append, any_map_fst_put]
  cases (other.isPrefixOf place && other != place) <;> simp

theorem follow_eq_ok_iff {workspace : Workspace} {place target : Place} {name next : String}
    {others : List String} :
    workspace.follow place (name :: next :: others) = .ok target ↔
      ∃ inner, step place name = .ok inner ∧ workspace.isFolder inner = true ∧
        workspace.follow inner (next :: others) = .ok target := by
  rw [follow]
  · cases step place name with
    | error fault => exact ⟨nofun, nofun⟩
    | ok inner =>
        change (if workspace.isFolder inner = true then _ else _) = _ ↔ _
        by_cases folder : workspace.isFolder inner = true
        · simp [folder]
        · rw [if_neg folder]
          constructor
          · intro faulty
            split at faulty <;> cases faulty
          · rintro ⟨_, ⟨⟩, isFolder, _⟩
            exact absurd isFolder folder
  · nofun

/-- A way through folders stays one when there are more folders. -/
theorem follow_mono {workspace later : Workspace}
    (more : ∀ place, workspace.isFolder place = true → later.isFolder place = true)
    {steps : List String} {place target : Place} (leads : workspace.follow place steps = .ok target) :
    later.follow place steps = .ok target := by
  induction steps generalizing place with
  | nil => exact leads
  | cons name rest induction =>
      cases rest with
      | nil => exact leads
      | cons next others =>
          obtain ⟨inner, stepped, folder, onward⟩ := follow_eq_ok_iff.mp leads
          exact follow_eq_ok_iff.mpr ⟨inner, stepped, more inner folder, induction onward⟩

theorem locate_mono {workspace later : Workspace}
    (more : ∀ place, workspace.isFolder place = true → later.isFolder place = true)
    {path : Path} {place : Place} (located : workspace.locate path = .ok place) :
    later.locate path = .ok place := by
  rw [locate] at located ⊢
  cases faulty : path.fault? with
  | some fault =>
      rw [faulty] at located
      cases located
  | none =>
      rw [faulty] at located
      cases led : workspace.follow path.origin path.steps with
      | error fault =>
          rw [led] at located
          cases located
      | ok target =>
          rw [led] at located
          cases located
          rw [follow_mono more led]
          rfl

theorem write_of_locate {workspace : Workspace} {path : Path} {place : Place}
    (located : workspace.locate path = .ok place) (vacant : workspace.isFolder place = false)
    (text : String) :
    workspace.write path text = .ok { workspace with files := put place text workspace.files } := by
  rw [write, located]
  exact if_neg (by rw [vacant]; exact Bool.false_ne_true)

/-- What was written to a path is read from it. -/
theorem read_of_write {workspace later : Workspace} {path : Path} {text : String}
    (written : workspace.write path text = .ok later) : later.read path = .ok text := by
  rw [write] at written
  cases located : workspace.locate path with
  | error error =>
      rw [located] at written
      cases written
  | ok place =>
      rw [located] at written
      change (if workspace.isFolder place = true then _ else _) = _ at written
      by_cases folder : workspace.isFolder place = true
      · rw [if_pos folder] at written
        cases written
      · rw [if_neg folder] at written
        cases written
        have again : locate { workspace with files := put place text workspace.files } path =
            .ok place := by
          refine locate_mono (fun other isFolder => ?_) located
          rw [isFolder_put, isFolder, Bool.true_or]
        have noFolder : isFolder { workspace with files := put place text workspace.files } place =
            false := by
          rw [isFolder_put]
          simpa using folder
        rw [read, again]
        change (if isFolder _ place = true then _ else _) = _
        rw [noFolder, if_neg Bool.false_ne_true, file?_put]

end IssueWatch.Workspace

/-! ## Ways to made folders -/
namespace IssueWatch

namespace Path

theorem text_child_of_steps {folder : Path} (name : String) (steps : folder.steps ≠ []) :
    (folder.child name).text = folder.text ++ "/" ++ name := by
  rw [text, if_neg (by simp [child]), text, if_neg (by simp [steps]), child,
    Text.join_append_singleton _ _ steps]
  simp only [String.append_assoc]

theorem text_child_of_no_steps {folder : Path} (name : String) (noSteps : folder.steps = []) :
    (folder.child name).text = folder.start.text ++ name := by
  rw [text, if_neg (by simp [child]), child, noSteps]
  rfl

theorem fault?_eq_none_iff {path : Path} :
    path.fault? = none ↔ '\x00' ∉ path.text.toList ∧ path.text.utf8ByteSize ≤ maxPathBytes := by
  rw [fault?]
  simp only [List.contains_iff_mem]
  split_ifs with null long
  · simp [null]
  · simp [Nat.not_le.mpr long]
  · simp [null, Nat.not_lt.mp long]

theorem fault?_child {folder : Path} {name : String} (sound : folder.fault? = none)
    (noNull : '\x00' ∉ name.toList)
    (room : folder.text.utf8ByteSize + 1 + name.utf8ByteSize ≤ maxPathBytes) :
    (folder.child name).fault? = none := by
  rw [fault?_eq_none_iff] at sound ⊢
  by_cases noSteps : folder.steps = []
  · have startNoNull : '\x00' ∉ folder.start.text.toList := by
      cases folder.start <;> decide
    have shorter : folder.start.text.utf8ByteSize ≤ folder.text.utf8ByteSize + 1 := by
      rw [text, noSteps]
      cases folder.start <;> decide
    rw [text_child_of_no_steps name noSteps, String.toList_append, List.mem_append, not_or,
      String.utf8ByteSize_append]
    exact ⟨⟨startNoNull, noNull⟩, by omega⟩
  · have slashNoNull : '\x00' ∉ "/".toList := by decide
    have slashSize : "/".utf8ByteSize = 1 := by decide
    rw [text_child_of_steps name noSteps, String.toList_append, String.toList_append, List.mem_append,
      List.mem_append, not_or, not_or, String.utf8ByteSize_append, String.utf8ByteSize_append, slashSize]
    exact ⟨⟨⟨sound.1, slashNoNull⟩, noNull⟩, room⟩

end Path

namespace Workspace

theorem isFolder_makeFolder {workspace : Workspace} {place : Place}
    (folder : workspace.isFolder place = true) (made : Place) :
    isFolder { workspace with folders := workspace.folders ++ [made] } place = true := by
  simp only [isFolder, Bool.or_eq_true, List.contains_iff_mem, List.any_append] at folder ⊢
  rcases folder with (empty | wasMade) | inside | holds
  · exact .inl (.inl empty)
  · exact .inl (.inr (List.mem_append_left _ wasMade))
  · exact .inr (.inl (.inl inside))
  · exact .inr (.inr holds)

theorem isFolder_made (workspace : Workspace) (made : Place) :
    isFolder { workspace with folders := workspace.folders ++ [made] } made = true := by
  simp [isFolder]

theorem step_eq_ok {place : Place} {name : String} {next : Place} (stepped : step place name = .ok next) :
    next = Path.walk place name := by
  rw [step] at stepped
  split at stepped
  · cases stepped
  · exact (Except.ok.inj stepped).symm

/-- Making folders goes on from each of them, whether it was there before or is new. -/
theorem makeFolders_cons {workspace later : Workspace} {place : Place} {name : String} {rest : List String}
    (made : workspace.makeFolders place (name :: rest) = .ok later) :
    ∃ next, step place name = .ok next ∧ ∃ between : Workspace,
      between.makeFolders next rest = .ok later ∧ between.isFolder next = true ∧
      ∀ other, workspace.isFolder other = true → between.isFolder other = true := by
  rw [makeFolders] at made
  cases stepped : step place name with
  | error fault =>
      rw [stepped] at made
      cases made
  | ok next =>
      rw [stepped] at made
      change (if workspace.isFolder next = true then _ else _) = _ at made
      refine ⟨next, rfl, ?_⟩
      split_ifs at made with folder file
      · exact ⟨workspace, made, folder, fun _ => id⟩
      · exact ⟨_, made, isFolder_made workspace next, fun _ isFolder => isFolder_makeFolder isFolder next⟩

theorem isFolder_of_makeFolders {workspace later : Workspace} {place : Place} {steps : List String}
    (made : workspace.makeFolders place steps = .ok later) {other : Place}
    (folder : workspace.isFolder other = true) : later.isFolder other = true := by
  induction steps generalizing workspace place with
  | nil =>
      cases made
      exact folder
  | cons name rest induction =>
      obtain ⟨next, _, between, onward, _, kept⟩ := makeFolders_cons made
      exact induction onward (kept other folder)

theorem follow_of_makeFolders {workspace later : Workspace} {place target : Place} {steps : List String}
    (made : workspace.makeFolders place steps = .ok later) {name : String}
    (stepped : step (steps.foldl Path.walk place) name = .ok target) :
    later.follow place (steps ++ [name]) = .ok target := by
  -- Folders that were made stay folders while more are made, so each step still leads on at the end.
  induction steps generalizing workspace place with
  | nil => exact stepped
  | cons first rest induction =>
      obtain ⟨next, firstStep, between, onward, folder, _⟩ := makeFolders_cons made
      rw [List.foldl_cons, ← step_eq_ok firstStep] at stepped
      have followed := induction onward stepped
      obtain ⟨second, others, restEq⟩ := List.exists_cons_of_ne_nil (List.append_ne_nil_of_right_ne_nil rest
        (List.cons_ne_nil name []))
      rw [List.cons_append, restEq]
      rw [restEq] at followed
      exact follow_eq_ok_iff.mpr ⟨next, firstStep, isFolder_of_makeFolders onward folder, followed⟩

/-- In a folder that was made, a name is found at its place. -/
theorem locate_child_of_makeFolder {workspace later : Workspace} {folder : Path} {name : String}
    (made : workspace.makeFolder folder = .ok later) (noNull : '\x00' ∉ name.toList)
    (room : folder.text.utf8ByteSize + 1 + name.utf8ByteSize ≤ maxPathBytes)
    (fits : name.utf8ByteSize ≤ maxNameBytes) (down : name ≠ "..") :
    later.locate (folder.child name) = .ok (folder.place ++ [name]) := by
  rw [makeFolder] at made
  cases sound : folder.fault? with
  | some fault =>
      rw [sound] at made
      cases made
  | none =>
      rw [sound] at made
      cases foldersMade : workspace.makeFolders folder.origin folder.steps with
      | error fault =>
          rw [foldersMade] at made
          cases made
      | ok found =>
          rw [foldersMade] at made
          cases made
          have stepped : step folder.place name = .ok (folder.place ++ [name]) := by
            rw [step, if_neg (Nat.not_lt.mpr fits), Path.walk, if_neg down]
          have followed : later.follow (folder.child name).origin (folder.child name).steps =
              .ok (folder.place ++ [name]) :=
            follow_of_makeFolders foldersMade stepped
          rw [locate, Path.fault?_child sound noNull room]
          simp only [followed]
          rfl

end Workspace
end IssueWatch
