import IssueWatch.Archive
import IssueWatch.Proofs.Json.Reading
import IssueWatch.Proofs.Workspace.Folders
import Mathlib.Algebra.Group.Int.Defs

/-!
# Stored snapshots are loaded back

The stored form of a snapshot names every field of its issues, so that the checks of loading find each value
as it was.
-/
namespace IssueWatch

namespace Json

theorem finiteItems_eq {items : List Json} (finite : ∀ item ∈ items, finiteOnly item = item) :
    finiteItems items = items := by
  induction items with
  | nil => rfl
  | cons item rest induction =>
      rw [finiteItems, finite item List.mem_cons_self,
        induction fun other member => finite other (.tail item member)]

theorem finiteFields_eq {fields : Fields} (finite : ∀ entry ∈ fields, finiteOnly entry.2 = entry.2) :
    finiteFields fields = fields := by
  induction fields with
  | nil => rfl
  | cons entry rest induction =>
      obtain ⟨key, value⟩ := entry
      rw [finiteFields, finite (key, value) List.mem_cons_self,
        induction fun other member => finite other (.tail _ member)]

/-- A plain value has no number that is infinite or undefined. -/
theorem Plain.finiteOnly_eq {value : Json} (plain : Plain value) : finiteOnly value = value := by
  induction plain with
  | null | bool | int | string => rfl
  | array _ finite => rw [finiteOnly, finiteItems_eq finite]
  | object _ _ finite => rw [finiteOnly, finiteFields_eq finite]

theorem Plain.finiteFields_eq {fields : Fields} (plain : Plain (.object fields)) :
    finiteFields fields = fields := by
  have whole := plain.finiteOnly_eq
  rw [finiteOnly] at whole
  exact Json.object.inj whole

theorem readItems_map {α : Type} {reader : Json → Checked α} {form : α → Json}
    (reads : ∀ item, reader (form item) = .ok item) (position : Nat) (items : List α) :
    readItems reader position (items.map form) = .ok items := by
  induction items generalizing position with
  | nil => rfl
  | cons item rest induction =>
      rw [List.map_cons, readItems, reads, induction]
      rfl

theorem readOptional_of_lookup {α : Type} {key : String} {absent result : α}
    {reader : Json → Checked α} {fields : Fields} {value : Json}
    (found : lookup key fields = some value) (reads : reader value = .ok result) :
    readOptional key absent reader fields = .ok result := by
  rw [readOptional, found]
  simp only [reads, Checked.within]

end Json

open Json

namespace Issue

theorem milestoneOfJson_eq (milestone : Option String) :
    readNullable milestoneOfJson
        (match milestone with
          | none => .null
          | some title => .object [("title", .string title)]) = .ok milestone := by
  cases milestone <;> rfl

theorem assigneeOfJson_eq (assignee : Option Account) :
    readNullable Account.ofJson
        (match assignee with
          | none => .null
          | some account => account.toJson) = .ok assignee := by
  cases assignee <;> rfl

theorem labelOfJson_form (name : String) :
    labelOfJson (.object [("name", .string name)]) = .ok name :=
  rfl

theorem ofJson_toJson (issue : Issue) : ofJson issue.toJson = .ok issue := by
  have labels := readItems_map labelOfJson_form 0 issue.labels
  have milestone := milestoneOfJson_eq issue.milestone
  have assignee := assigneeOfJson_eq issue.assignee
  change ((Checked.of (Issue.mk issue.number issue.title issue.url issue.state issue.isPullRequest)
    |>.apply (readOptional "labels" [] (readList .tupleExpected labelOfJson) _)
    |>.apply (readOptional "milestone" none (readNullable milestoneOfJson) _)
    |>.apply (readOptional "assignee" none (readNullable Account.ofJson) _))) = .ok issue
  rw [readOptional_of_lookup rfl labels, readOptional_of_lookup rfl milestone,
    readOptional_of_lookup rfl assignee]
  rfl

theorem plain_milestone (milestone : Option String) :
    Plain (match milestone with
      | none => .null
      | some title => .object [("title", .string title)]) := by
  cases milestone with
  | none => exact .null
  | some title =>
      exact .object (List.nodup_singleton _) (List.forall_mem_singleton.mpr (.string title))

theorem plain_assignee (assignee : Option Account) :
    Plain (match assignee with
      | none => .null
      | some account => account.toJson) := by
  cases assignee with
  | none => exact .null
  | some account =>
      refine .object (show ["login", "html_url"].Nodup by decide) ?_
      simp only [List.forall_mem_cons]
      exact ⟨.string _, .string _, nofun⟩

theorem plain_toJson {issue : Issue} (short : IsShort issue.number) : Plain issue.toJson := by
  have labels : Plain (.array (issue.labels.map fun name => .object [("name", .string name)])) := by
    refine .array fun item member => ?_
    obtain ⟨name, _, rfl⟩ := List.mem_map.mp member
    exact .object (List.nodup_singleton _) (List.forall_mem_singleton.mpr (.string name))
  refine .object (show ["number", "title", "html_url", "state", "pull_request", "labels",
    "milestone", "assignee"].Nodup by decide) ?_
  simp only [List.forall_mem_cons]
  exact ⟨.int short, .string _, .string _, .string _, .bool _, labels,
    plain_milestone issue.milestone, plain_assignee issue.assignee, nofun⟩

end Issue

namespace Snapshot

theorem tearsAt_nil (snapshot : Snapshot) : snapshot.tearsAt [] = {} := by
  simp [tearsAt]

theorem ofJson_toJson {snapshot : Snapshot} (plain : Plain (.object snapshot.metadata))
    (whole : snapshot.tears = {}) : ofJson snapshot.toJson = .ok snapshot := by
  have issues := readItems_map Issue.ofJson_toJson 0 snapshot.issues
  rw [toJson, plain.finiteFields_eq]
  change ((Checked.of (fun issues metadata => (Snapshot.mk snapshot.org snapshot.repo issues metadata {}))
    |>.apply (readOptional "issues" [] (readList .listExpected Issue.ofJson) _)
    |>.apply (readOptional "metadata" [] readObject _))) = .ok snapshot
  rw [readOptional_of_lookup rfl issues, ← whole]
  rfl

theorem plain_toJson {snapshot : Snapshot} (short : ∀ issue ∈ snapshot.issues, IsShort issue.number)
    (plain : Plain (.object snapshot.metadata)) : Plain snapshot.toJson := by
  have issues : Plain (.array (snapshot.issues.map Issue.toJson)) := by
    refine .array fun item member => ?_
    obtain ⟨issue, present, rfl⟩ := List.mem_map.mp member
    exact Issue.plain_toJson (short issue present)
  have metadata : Plain (.object (finiteFields snapshot.metadata)) := by
    rwa [plain.finiteFields_eq]
  refine .object (show ["org", "repo", "issues", "metadata"].Nodup by decide) ?_
  simp only [List.forall_mem_cons]
  exact ⟨.string _, .string _, issues, metadata, nofun⟩

/-- Reading the text of a snapshot without torn strings gives the snapshot. -/
theorem ofText_write {snapshot : Snapshot} (short : ∀ issue ∈ snapshot.issues, IsShort issue.number)
    (plain : Plain (.object snapshot.metadata)) (whole : snapshot.tears = {}) :
    ofText snapshot.toJson.write = .ok snapshot := by
  rw [ofText, read_write (plain_toJson short plain)]
  simp only [ofJson_toJson plain whole, tearsAt_nil]
  rw [← whole]

theorem load_of_read_write {workspace : Workspace} {path : Path} {snapshot : Snapshot}
    (stored : workspace.read path = .ok snapshot.toJson.write)
    (short : ∀ issue ∈ snapshot.issues, IsShort issue.number)
    (plain : Plain (.object snapshot.metadata)) (whole : snapshot.tears = {}) :
    load workspace path = .ok snapshot := by
  rw [load, stored]
  exact ofText_write short plain whole

end Snapshot

namespace Archive

theorem plain_stampedMetadata {metadata : Fields} (plain : Plain (.object metadata)) (time : Timestamp)
    {count : Nat} (short : IsShort count) :
    Plain (.object (stampedMetadata metadata time count)) :=
  ((plain.setField (.string _) _).setField (.string _) _).setField (.int short) _

theorem lookup_stampedMetadata (metadata : Fields) (time : Timestamp) (count : Nat) {key : String}
    (notTime : key ≠ "collection_timestamp") (notVersion : key ≠ "tool_version")
    (notCount : key ≠ "issue_count") :
    lookup key (stampedMetadata metadata time count) = lookup key metadata := by
  rw [stampedMetadata, lookup_setField_of_ne notCount, lookup_setField_of_ne notVersion,
    lookup_setField_of_ne notTime]

/-- A stored snapshot is loaded with the same issues and the same data, apart from the three fields that
storing sets. -/
theorem load_stored (archive : Archive) (org repo : String) (issues : List Issue) (time : Timestamp)
    (metadata : Fields) (short : ∀ issue ∈ issues, IsShort issue.number)
    (countable : IsShort issues.length) (plain : Plain (.object metadata)) :
    ∃ loaded : Snapshot,
      Snapshot.ofText (stamped (org, repo) issues time metadata).toJson.write = .ok loaded ∧
      (∀ workspace later,
        archive.store workspace (stamped (org, repo) issues time metadata) time = .ok later →
        Snapshot.load later (archive.filePath time) = .ok loaded) ∧
      loaded.org = org ∧ loaded.repo = repo ∧ loaded.issues = issues ∧
      lookup "collection_timestamp" loaded.metadata = some (.string time.isoText) ∧
      lookup "tool_version" loaded.metadata = some (.string toolVersion) ∧
      lookup "issue_count" loaded.metadata = some (.int issues.length) ∧
      ∀ key, key ≠ "collection_timestamp" → key ≠ "tool_version" → key ≠ "issue_count" →
        lookup key loaded.metadata = lookup key metadata := by
  have read : Snapshot.ofText (stamped (org, repo) issues time metadata).toJson.write =
      .ok (stamped (org, repo) issues time metadata) :=
    Snapshot.ofText_write short (plain_stampedMetadata plain time countable) rfl
  refine ⟨stamped (org, repo) issues time metadata, read, ?_, rfl, rfl, rfl, ?_, ?_, ?_, ?_⟩
  · intro workspace later stored
    rw [Snapshot.load, Workspace.read_of_write stored]
    exact read
  · rw [stamped, stampedMetadata, lookup_setField_of_ne (by decide),
      lookup_setField_of_ne (by decide), lookup_setField_self]
  · rw [stamped, stampedMetadata, lookup_setField_of_ne (by decide), lookup_setField_self]
  · rw [stamped, stampedMetadata, lookup_setField_self]
  · intro key notTime notVersion notCount
    exact lookup_stampedMetadata metadata time issues.length notTime notVersion notCount

theorem load_stored_control_characters :
    let issue : Issue := {
      number := 2 ^ 70, title := "\x00\x1f\"\\😀", url := "", state := "open",
      milestone := some "", assignee := some { login := "\n" } }
    let metadata : Fields := [("issue_count", .null), ("\t", .array [.int (-1), .object []])]
    ∃ loaded : Snapshot,
      Snapshot.ofText (stamped ("o", "r") [issue] ⟨2024, 2, 29, 9, 5, 0, 0, none⟩
        metadata).toJson.write = .ok loaded ∧
      loaded.issues = [issue] ∧
      lookup "issue_count" loaded.metadata = some (.int 1) ∧
      lookup "\t" loaded.metadata = some (.array [.int (-1), .object []]) := by
  intro issue metadata
  have plain : Plain (.object metadata) := by
    refine .object (show ["issue_count", "\t"].Nodup by decide) ?_
    simp only [metadata, List.forall_mem_cons]
    refine ⟨.null, .array ?_, nofun⟩
    simp only [List.forall_mem_cons]
    exact ⟨.int (by decide +kernel), .object List.nodup_nil nofun, nofun⟩
  obtain ⟨loaded, read, _, _, _, issues, _, _, count, others⟩ :=
    load_stored ⟨.ofText "."⟩ "o" "r" [issue] ⟨2024, 2, 29, 9, 5, 0, 0, none⟩ metadata
      (List.forall_mem_singleton.mpr (show IsShort (2 ^ 70) by decide +kernel))
      (show IsShort 1 by decide +kernel) plain
  refine ⟨loaded, read, issues, count, ?_⟩
  rw [others "\t" (by decide) (by decide) (by decide)]
  rfl

end Archive
end IssueWatch
