import IssueWatch.Proofs.Json.Plain
import IssueWatch.Tracker
import Mathlib.Data.List.Forall2

/-!
# Numbers of fetched issues

The numbers of the issues that are fetched can be stored if the integers that are served can be.
-/
namespace IssueWatch.Tracker

open Json

/-- The integers that are served for a repository have few enough digits to be stored, and so has the count of its
entries. -/
structure Storable (service : Service) (repository : Repository) : Prop where
  short : ∀ entries, service.entries repository = .ok entries →
    ∀ entry ∈ entries, ∀ number, entry.number = .int number → IsShort number
  countable : ∀ entries, service.entries repository = .ok entries → IsShort entries.length

theorem exists_of_apply {α β : Type} {function : Checked (α → β)} {argument : Checked α} {result : β}
    (applied : function.apply argument = .ok result) :
    ∃ f value, function = .ok f ∧ argument = .ok value ∧ f value = result := by
  cases function with
  | error mismatches => cases argument <;> cases applied
  | ok f =>
      cases argument with
      | error mismatches => cases applied
      | ok value => exact ⟨f, value, rfl, rfl, Except.ok.inj applied⟩

theorem eq_ok_of_inRecord {α : Type} {record : String} {checked : Checked α} {value : α}
    (read : inRecord record checked = .ok value) : checked = .ok value := by
  cases checked with
  | error mismatches => cases read
  | ok found =>
      cases read
      rfl

theorem eq_ok_of_asField {α : Type} {key : String} {reader : Json → Checked α} {found : Json} {value : α}
    (read : asField key reader found = .ok value) : reader found = .ok value := by
  rw [asField] at read
  cases result : reader found with
  | error mismatches =>
      rw [result] at read
      cases read
  | ok found =>
      rw [result] at read
      cases read
      rfl

/-- The number of an issue is read from that of its entry. -/
theorem Entry.readInteger_number {entry : Entry} {issue : Issue} (read : entry.issue = .ok issue) :
    readInteger entry.number = .ok issue.number := by
  rw [Entry.issue] at read
  simp only [bind, Except.bind] at read
  split at read
  · cases read
  split at read
  · cases read
  split at read
  · cases read
  obtain ⟨withUrl, state, urlRead, stateRead, rfl⟩ := exists_of_apply (eq_ok_of_inRecord read)
  obtain ⟨withTitle, url, titleRead, _, rfl⟩ := exists_of_apply urlRead
  obtain ⟨withNumber, title, numberRead, _, rfl⟩ := exists_of_apply titleRead
  obtain ⟨construct, number, constructed, isNumber, rfl⟩ := exists_of_apply numberRead
  cases constructed
  exact eq_ok_of_asField isNumber

theorem forall₂_of_readEntries {entries : List Entry} {issues : List Issue}
    (read : (readEntries entries).2 = .ok issues) :
    List.Forall₂ (fun entry issue => Entry.issue entry = .ok issue) entries issues := by
  induction entries generalizing issues with
  | nil =>
      cases read
      exact .nil
  | cons entry rest induction =>
      rw [readEntries] at read
      cases first : entry.issue with
      | error error =>
          rw [first] at read
          cases read
      | ok issue =>
          simp only [first] at read
          cases others : (readEntries rest).2 with
          | error error =>
              rw [others] at read
              cases read
          | ok issues =>
              rw [others] at read
              cases read
              exact .cons first (induction others)

theorem Storable.fetched {service : Service} {repository : Repository} (storable : Storable service repository)
    {state : String} {issues : List Issue} (fetched : (fetch service repository state).2 = .ok issues) :
    (∀ issue ∈ issues, IsShort issue.number) ∧ IsShort issues.length := by
  rw [fetch] at fetched
  cases served : service.entries repository with
  | error error =>
      rw [served] at fetched
      cases fetched
  | ok entries =>
      simp only [served] at fetched
      cases read : (readEntries (entries.filter (Entry.hasState state))).2 with
      | error error =>
          rw [read] at fetched
          cases fetched
      | ok found =>
          rw [read] at fetched
          cases fetched
          have each := forall₂_of_readEntries read
          have permuted : (inOrder found).Perm found := List.mergeSort_perm _ _
          refine ⟨fun issue member => ?_, ?_⟩
          · obtain ⟨index, inside, rfl⟩ := List.mem_iff_getElem.mp (permuted.mem_iff.mp member)
            have entryInside : index < (entries.filter (Entry.hasState state)).length := by
              rwa [each.length_eq]
            have entryRead := Entry.readInteger_number (each.get entryInside inside)
            exact isShort_of_readInteger entryRead fun number =>
              storable.short entries served _ (List.mem_of_mem_filter (List.getElem_mem entryInside)) number
          · have countable := storable.countable entries served
            have fewer : (entries.filter (Entry.hasState state)).length ≤ entries.length :=
              List.length_filter_le _ _
            rw [IsShort, Int.natAbs_natCast] at countable ⊢
            rw [permuted.length_eq, ← each.length_eq]
            exact Nat.lt_of_le_of_lt fewer countable

end IssueWatch.Tracker
