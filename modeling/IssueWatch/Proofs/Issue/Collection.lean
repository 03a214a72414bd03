import IssueWatch.Issue
import Mathlib.Data.Finset.Card
import Mathlib.Data.List.AList

/-!
# Collections and their look-ups

An index by number is filled issue by issue, and an issue takes the place of an earlier one with its number.  So
the index has one entry for each number, it is shorter than the list exactly if a number is repeated, and if none
is, it finds for a number the one issue that has it.
-/
namespace IssueWatch.Collection

variable {issues : List Issue}

/-- Two issues of a list have the same number. -/
def SharesNumber (issues : List Issue) : Prop :=
  ∃ (first second : Nat) (_ : first < second) (_ : second < issues.length),
    issues[first].number = issues[second].number

/-- The issues of a list under their numbers, the last one of each number. -/
def byNumber (issues : List Issue) : AList fun _ : Int => Issue :=
  issues.foldl (fun index issue => index.insert issue.number issue) ∅

/-- A collection has the issues of a list in their order, and whatever it is asked about them it answers as the
list does. -/
structure Shows (collection : Collection) (issues : List Issue) : Prop where
  order : collection.issues = issues
  size : collection.size = issues.length
  sizeOfNumbers : collection.size = collection.numbers.toFinset.card
  found : ∀ number issue, collection.get? number = some issue ↔ issue ∈ issues ∧ issue.number = number
  indexed : ∀ number, (byNumber issues).lookup number = collection.get? number
  contained : ∀ number, collection.contains number = true ↔ (collection.get? number).isSome = true
  numbered : ∀ number, number ∈ collection.numbers ↔ (collection.get? number).isSome = true
  labelled : ∀ name, collection.hasLabel name = true ↔ ∃ issue ∈ issues, name ∈ issue.labels
  planned : ∀ title, collection.hasMilestone title = true ↔ ∃ issue ∈ issues, issue.milestone = some title
  assigned : ∀ login, collection.hasAssignee login = true ↔
    ∃ issue ∈ issues, ∃ account, issue.assignee = some account ∧ account.login = login

theorem sharesNumber_iff : SharesNumber issues ↔ ¬ (issues.map Issue.number).Nodup := by
  rw [List.Nodup, List.pairwise_map, List.pairwise_iff_getElem]
  push Not
  constructor
  · rintro ⟨first, second, before, inside, same⟩
    exact ⟨first, second, before.trans inside, inside, before, same⟩
  · rintro ⟨first, second, _, inside, before, same⟩
    exact ⟨first, second, before, inside, same⟩

/-! ## The index -/

theorem byNumber_concat (issues : List Issue) (issue : Issue) :
    byNumber (issues ++ [issue]) = (byNumber issues).insert issue.number issue :=
  List.foldl_concat ..

theorem mem_keys_byNumber (issues : List Issue) (number : Int) :
    number ∈ (byNumber issues).keys ↔ number ∈ issues.map Issue.number := by
  induction issues using List.reverseRecOn with
  | nil => rfl
  | append_singleton issues issue induction =>
      rw [byNumber_concat, ← AList.mem_keys, AList.mem_insert, AList.mem_keys, induction]
      simp [or_comm]

/-- The index finds the issue of a number that was put in last. -/
theorem lookup_byNumber (issues : List Issue) (number : Int) :
    (byNumber issues).lookup number = issues.reverse.find? (·.number == number) := by
  induction issues using List.reverseRecOn with
  | nil => rfl
  | append_singleton issues issue induction =>
      rw [byNumber_concat, List.reverse_concat, List.find?_cons]
      by_cases same : issue.number = number
      · subst same
        simp
      · rw [AList.lookup_insert_ne (Ne.symm same), induction, beq_false_of_ne same]

theorem length_keys_byNumber (issues : List Issue) :
    (byNumber issues).keys.length = (issues.map Issue.number).toFinset.card := by
  rw [← List.toFinset_card_of_nodup (byNumber issues).keys_nodup]
  congr 1
  ext number
  rw [List.mem_toFinset, List.mem_toFinset, mem_keys_byNumber]

/-- The index is as long as the list only if no entry took the place of another one. -/
theorem length_keys_byNumber_eq_iff :
    (byNumber issues).keys.length = issues.length ↔ (issues.map Issue.number).Nodup := by
  rw [length_keys_byNumber, ← List.length_map Issue.number]
  exact Multiset.toFinset_card_eq_card_iff_nodup (m := (issues.map Issue.number : Multiset Int))

/-! ## Look-ups -/

theorem find?_number_eq_some_iff (distinct : (issues.map Issue.number).Nodup) (number : Int) (issue : Issue) :
    issues.find? (·.number == number) = some issue ↔ issue ∈ issues ∧ issue.number = number := by
  constructor
  · intro found
    exact ⟨List.mem_of_find?_eq_some found, by simpa using List.find?_some found⟩
  · rintro ⟨member, rfl⟩
    obtain ⟨other, found⟩ := Option.isSome_iff_exists.mp
      (List.find?_isSome (p := (·.number == issue.number)) |>.mpr ⟨issue, member, beq_self_eq_true _⟩)
    have sameNumber : other.number = issue.number := by simpa using List.find?_some found
    rw [found, List.inj_on_of_nodup_map distinct (List.mem_of_find?_eq_some found) member sameNumber]

theorem get?_eq_some_iff {collection : Collection} {number : Int} {issue : Issue} :
    collection.get? number = some issue ↔ issue ∈ collection.issues ∧ issue.number = number :=
  find?_number_eq_some_iff collection.distinct number issue

/-- With distinct numbers it makes no difference from which end the list is searched. -/
theorem lookup_byNumber_eq_get? (collection : Collection) (number : Int) :
    (byNumber collection.issues).lookup number = collection.get? number := by
  have distinct : (collection.issues.reverse.map Issue.number).Nodup := by
    rw [List.map_reverse, List.nodup_reverse]
    exact collection.distinct
  ext issue
  rw [lookup_byNumber, find?_number_eq_some_iff distinct, get?_eq_some_iff, List.mem_reverse]

theorem isSome_get?_iff {collection : Collection} {number : Int} :
    (collection.get? number).isSome = true ↔ ∃ issue ∈ collection.issues, issue.number = number := by
  rw [get?, List.find?_isSome]
  simp

/-- What a collection tells about its issues. -/
theorem shows (collection : Collection) : collection.Shows collection.issues where
  order := rfl
  size := rfl
  sizeOfNumbers := by
    rw [numbers, List.toFinset_card_of_nodup collection.distinct, List.length_map, Collection.size]
  found _ _ := get?_eq_some_iff
  indexed := lookup_byNumber_eq_get? collection
  contained number := by
    rw [isSome_get?_iff, contains]
    simp
  numbered number := by
    rw [isSome_get?_iff, numbers, List.mem_map]
  labelled name := by
    rw [hasLabel, List.contains_iff_mem, mem_labels]
  planned title := by
    rw [hasMilestone, List.contains_iff_mem, mem_milestones]
  assigned login := by
    rw [hasAssignee, List.contains_iff_mem, mem_assignees]
    simp [Issue.assigneeLogin]

/-- A list of issues forms a collection unless two of them have the same number, which the length of the index
tells.  The collection keeps their order, and all its look-ups agree with the list. -/
theorem ofIssues_refuses_or_shows (issues : List Issue) :
    (ofIssues issues = .error {} ↔ SharesNumber issues) ∧
      ((byNumber issues).keys.length ≠ issues.length ↔ SharesNumber issues) ∧
      (¬ SharesNumber issues → ∃ collection, ofIssues issues = .ok collection ∧ collection.Shows issues) := by
  have shorter : (byNumber issues).keys.length ≠ issues.length ↔ SharesNumber issues := by
    rw [Ne, length_keys_byNumber_eq_iff, sharesNumber_iff]
  by_cases distinct : (issues.map Issue.number).Nodup
  · have accepted : ofIssues issues = .ok ⟨issues, distinct⟩ := by rw [ofIssues, dif_pos distinct]
    have apart : ¬ SharesNumber issues := by rwa [sharesNumber_iff, not_not]
    refine ⟨iff_of_false ?_ apart, shorter, fun _ => ⟨_, accepted, shows _⟩⟩
    rw [accepted]
    exact nofun
  · have shared : SharesNumber issues := sharesNumber_iff.mpr distinct
    refine ⟨iff_of_true ?_ shared, shorter, absurd shared⟩
    rw [ofIssues, dif_neg distinct]

/-- Empty names are names, and a repeated label is one label.  A second issue with the number of the first one is
refused. -/
theorem ofIssues_with_empty_names :
    let planned : Issue := ⟨3, "A", "u", "open", false, ["bug", "bug"], some "", none⟩
    let assigned : Issue := ⟨-1, "B", "u", "closed", true, ["", "bug"], none, some ⟨"", ""⟩⟩
    ¬ SharesNumber [planned, assigned] ∧
      (∃ collection, ofIssues [planned, assigned] = .ok collection ∧ collection.Shows [planned, assigned] ∧
        collection.get? (-1) = some assigned ∧ collection.hasLabel "" = true ∧
        collection.hasMilestone "" = true ∧ collection.hasAssignee "" = true) ∧
      ofIssues [planned, assigned, { assigned with number := 3 }] = .error {} := by
  intro planned assigned
  have apart : ¬ SharesNumber [planned, assigned] := by
    rw [sharesNumber_iff, not_not]
    decide
  obtain ⟨collection, built, shown⟩ := (ofIssues_refuses_or_shows [planned, assigned]).2.2 apart
  refine ⟨apart, ⟨collection, built, shown, ?_, ?_, ?_, ?_⟩, ?_⟩
  · exact (shown.found _ _).mpr ⟨by decide, rfl⟩
  · exact (shown.labelled _).mpr ⟨assigned, by decide, by decide⟩
  · exact (shown.planned _).mpr ⟨planned, by decide, rfl⟩
  · exact (shown.assigned _).mpr ⟨assigned, by decide, _, rfl, rfl⟩
  · exact (ofIssues_refuses_or_shows _).1.mpr ⟨0, 2, by decide, by decide, rfl⟩

end IssueWatch.Collection
