import IssueWatch.Proofs.Workspace.Folders
import Mathlib.Data.List.Nodup
import Mathlib.Data.List.Sort
import Mathlib.Data.String.Basic

/-!
# What a folder lists

The names in a folder are listed in strict order.  As long as a folder holds files only, directly inside it,
the names are those of its files; writing one more file keeps it so and changes no other file.
-/
namespace IssueWatch.Workspace

theorem nodup_eraseDups {α : Type} [BEq α] [LawfulBEq α] (values : List α) : values.eraseDups.Nodup := by
  induction length : values.length using Nat.strong_induction_on generalizing values with
  | h length induction =>
      cases values with
      | nil => exact List.nodup_nil
      | cons value rest =>
          have shorter := List.length_filter_le (fun other => !other == value) rest
          rw [List.eraseDups_cons, List.nodup_cons]
          refine ⟨by simp, induction _ ?_ _ rfl⟩
          rw [List.length_cons] at length
          omega

theorem pairwise_namesIn (workspace : Workspace) (folder : Place) :
    (workspace.namesIn folder).Pairwise (· < ·) := by
  have permuted := List.mergeSort_perm
    ((workspace.folders ++ workspace.files.map Prod.fst).filterMap (nameTowards folder)).eraseDups
    fun first second => decide (first ≤ second)
  have distinct : (workspace.namesIn folder).Nodup := permuted.nodup_iff.mpr (nodup_eraseDups _)
  have ordered : (workspace.namesIn folder).Pairwise fun first second => decide (first ≤ second) = true := by
    apply List.pairwise_mergeSort
    · intro first second third
      simpa only [decide_eq_true_eq] using le_trans
    · intro first second
      simpa only [Bool.or_eq_true, decide_eq_true_eq] using le_total first second
  exact ordered.imp₂ (fun _ _ atMost differs => lt_of_le_of_ne (of_decide_eq_true atMost) differs) distinct

theorem nameTowards_eq_some_iff {folder inner : Place} {name : String} :
    nameTowards folder inner = some name ↔ ∃ rest, inner = folder ++ name :: rest := by
  rw [nameTowards]
  constructor
  · intro found
    split_ifs at found with front
    obtain ⟨behind, rfl⟩ := List.isPrefixOf_iff_prefix.mp front
    rw [List.drop_left] at found
    obtain ⟨rest, rfl⟩ := List.head?_eq_some_iff.mp found
    exact ⟨rest, rfl⟩
  · rintro ⟨rest, rfl⟩
    rw [if_pos (List.isPrefixOf_iff_prefix.mpr (List.prefix_append _ _)), List.drop_left, List.head?_cons]

theorem mem_namesIn_iff {workspace : Workspace} {folder : Place} {name : String} :
    name ∈ workspace.namesIn folder ↔
      ∃ inner ∈ workspace.folders ++ workspace.files.map Prod.fst, ∃ rest, inner = folder ++ name :: rest := by
  rw [namesIn, (List.mergeSort_perm _ _).mem_iff, List.mem_eraseDups, List.mem_filterMap]
  simp only [nameTowards_eq_some_iff]

/-! ## Files -/

theorem file?_put_of_ne {place other : Place} (apart : place ≠ other) (workspace : Workspace)
    (text : String) :
    file? { workspace with files := put place text workspace.files } other = workspace.file? other := by
  obtain ⟨files, folders⟩ := workspace
  rw [file?, file?]
  simp only
  induction files with
  | nil => simp [put, apart]
  | cons entry rest induction =>
      obtain ⟨found, old⟩ := entry
      by_cases same : found = place
      · subst same
        rw [put, if_pos rfl, List.find?_cons_of_neg (by simpa using apart),
          List.find?_cons_of_neg (by simpa using apart)]
      · rw [put, if_neg same]
        by_cases here : found = other
        · rw [List.find?_cons_of_pos (by simpa using here), List.find?_cons_of_pos (by simpa using here)]
        · rw [List.find?_cons_of_neg (by simpa using here), List.find?_cons_of_neg (by simpa using here)]
          exact induction

theorem mem_map_fst_put {place other : Place} {text : String} {files : List (Place × String)} :
    other ∈ (put place text files).map Prod.fst ↔ other = place ∨ other ∈ files.map Prod.fst := by
  have any := any_map_fst_put place text files (fun found => found == other)
  rw [Bool.eq_iff_iff, Bool.or_eq_true, List.any_eq_true, List.any_eq_true] at any
  simp only [beq_iff_eq, exists_eq_right] at any
  rw [any]
  exact or_congr_left eq_comm

theorem file?_eq_none_iff {workspace : Workspace} {place : Place} :
    workspace.file? place = none ↔ place ∉ workspace.files.map Prod.fst := by
  rw [file?, Option.map_eq_none_iff, List.find?_eq_none]
  simp only [decide_eq_true_eq, List.mem_map, not_exists, not_and]

/-! ## Folders of files -/

/-- A folder holds nothing but files, directly inside it. -/
structure HoldsFilesOnly (workspace : Workspace) (folder : Place) : Prop where
  noFolder : ∀ inner ∈ workspace.folders, ∀ name rest, inner ≠ folder ++ name :: rest
  direct : ∀ inner ∈ workspace.files.map Prod.fst, ∀ name rest, inner = folder ++ name :: rest → rest = []

namespace HoldsFilesOnly

variable {workspace : Workspace} {folder : Place}

theorem of_namesIn_eq_nil (empty : workspace.namesIn folder = []) : HoldsFilesOnly workspace folder := by
  have nothing (inner : Place) (member : inner ∈ workspace.folders ++ workspace.files.map Prod.fst)
      (name : String) (rest : Place) : inner ≠ folder ++ name :: rest := by
    intro inside
    have listed := mem_namesIn_iff.mpr ⟨inner, member, rest, inside⟩
    rw [empty] at listed
    cases listed
  exact ⟨fun inner member => nothing inner (List.mem_append_left _ member),
    fun inner member name rest inside =>
      absurd inside (nothing inner (List.mem_append_right _ member) name rest)⟩

theorem isFolder_eq_false (holds : HoldsFilesOnly workspace folder) (name : String) :
    workspace.isFolder (folder ++ [name]) = false := by
  rw [Bool.eq_false_iff, isFolder]
  simp only [ne_eq, Bool.or_eq_true, List.isEmpty_iff, List.contains_iff_mem, List.any_eq_true,
    Bool.and_eq_true, List.isPrefixOf_iff_prefix, bne_iff_ne, List.mem_append, not_or]
  refine ⟨⟨by simp, fun member => holds.noFolder _ member name [] rfl⟩, ?_⟩
  -- Something below the name would be no file directly inside the folder.
  rintro ⟨inner, member, ⟨behind, rfl⟩, differs⟩
  rw [List.append_assoc, List.singleton_append] at member differs
  rcases member with isFolder | isFile
  · exact holds.noFolder _ isFolder name behind rfl
  · exact differs (by rw [holds.direct _ isFile name behind rfl])

theorem put (holds : HoldsFilesOnly workspace folder) (name text : String) :
    HoldsFilesOnly { workspace with files := put (folder ++ [name]) text workspace.files } folder where
  noFolder := holds.noFolder
  direct inner member other rest inside := by
    rcases mem_map_fst_put.mp member with rfl | isFile
    · have same := List.append_cancel_left inside
      exact (List.cons.inj same).2.symm
    · exact holds.direct inner isFile other rest inside

theorem mem_namesIn_iff_file (holds : HoldsFilesOnly workspace folder) {name : String} :
    name ∈ workspace.namesIn folder ↔ workspace.file? (folder ++ [name]) ≠ none := by
  rw [mem_namesIn_iff, ne_eq, file?_eq_none_iff, not_not]
  constructor
  · rintro ⟨inner, member, rest, rfl⟩
    rcases List.mem_append.mp member with isFolder | isFile
    · exact absurd rfl (holds.noFolder _ isFolder name rest)
    · rwa [holds.direct _ isFile name rest rfl] at isFile
  · intro isFile
    exact ⟨_, List.mem_append_right _ isFile, [], rfl⟩

end HoldsFilesOnly

/-!
## What writing changes

Writing a file changes that file alone, and making folders changes none.
-/

variable {workspace later : Workspace} {path : Path} {text : String}

end IssueWatch.Workspace
