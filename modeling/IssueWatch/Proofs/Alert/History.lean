import IssueWatch.Alert
import Mathlib.Algebra.Ring.Parity
import Mathlib.Data.Finset.Card
import Mathlib.Data.Finset.SymmDiff

/-!
# Changes along a history

An alert compares the numbers that its query selects in two collections.  The change between them is the
symmetric difference of these sets of numbers, cut into the numbers that left and those that entered.
Along a history of collections, symmetric differences add up modulo two: a number is reported between the
ends exactly if an odd number of the steps report it.
-/
namespace IssueWatch.Alert

/-- The numbers of some issues, as a set. -/
def numbers (issues : List Issue) : Finset Int :=
  (issues.map Issue.number).toFinset

/-- The numbers of the issues of a collection that the query of an alert holds of. -/
def matched (alert : Alert) (collection : Collection) : Finset Int :=
  numbers (collection.issues.filter fun issue => alert.query.holds issue)

/-- The numbers that a change lists, on either side. -/
def Change.reported (change : Change) : Finset Int :=
  numbers change.left ∪ numbers change.entered

@[simp]
theorem mem_numbers {issues : List Issue} {number : Int} :
    number ∈ numbers issues ↔ ∃ issue ∈ issues, issue.number = number := by
  simp [numbers]

theorem numbers_eq_empty_iff {issues : List Issue} :
    numbers issues = ∅ ↔ issues = [] := by
  simp [numbers]

theorem mem_matched {alert : Alert} {collection : Collection} {number : Int} :
    number ∈ alert.matched collection ↔
      ∃ issue ∈ collection.issues, alert.query.holds issue = true ∧ issue.number = number := by
  simp [matched, and_assoc]

theorem missingFrom_sublist (others issues : List Issue) :
    (missingFrom others issues).Sublist issues :=
  List.filter_sublist

theorem numbers_missingFrom (others issues : List Issue) :
    numbers (missingFrom others issues) = numbers issues \ numbers others := by
  ext number
  simp only [mem_numbers, Finset.mem_sdiff, missingFrom, List.mem_filter, Bool.not_eq_true',
    List.any_eq_false, beq_iff_eq]
  constructor
  · rintro ⟨issue, ⟨member, missing⟩, rfl⟩
    refine ⟨⟨issue, member, rfl⟩, ?_⟩
    rintro ⟨other, otherMember, sameNumber⟩
    exact missing other otherMember sameNumber
  · rintro ⟨⟨issue, member, rfl⟩, missing⟩
    exact ⟨issue, ⟨member, fun other otherMember sameNumber =>
      missing ⟨other, otherMember, sameNumber⟩⟩, rfl⟩

theorem numbers_left (alert : Alert) (start finish : Collection) :
    numbers (alert.change start finish).left = alert.matched start \ alert.matched finish :=
  numbers_missingFrom _ _

theorem numbers_entered (alert : Alert) (start finish : Collection) :
    numbers (alert.change start finish).entered = alert.matched finish \ alert.matched start :=
  numbers_missingFrom _ _

theorem reported_change (alert : Alert) (start finish : Collection) :
    (alert.change start finish).reported =
      symmDiff (alert.matched start) (alert.matched finish) := by
  rw [Change.reported, numbers_left, numbers_entered]
  rfl

theorem missingFrom_select_sublist (others : List Issue) (query : Expr) (collection : Collection) :
    (missingFrom others (query.select collection.issues)).Sublist collection.issues :=
  (missingFrom_sublist _ _).trans List.filter_sublist

theorem isChange_eq_false_iff (alert : Alert) (start finish : Collection) :
    (alert.change start finish).isChange = false ↔ alert.matched start = alert.matched finish := by
  have noneReported : (alert.change start finish).isChange = false ↔
      (alert.change start finish).reported = ∅ := by
    rw [Change.isChange, Change.reported, Finset.union_eq_empty, numbers_eq_empty_iff,
      numbers_eq_empty_iff]
    simp
  rw [noneReported, reported_change]
  exact symmDiff_eq_bot

/-- A change lists exactly how the numbers that an alert matches in one collection turn into those that it
matches in another, each number once and in the order of its collection. -/
structure Change.Exact (change : Change) (alert : Alert) (start finish : Collection) : Prop where
  leftOnce : (change.left.map Issue.number).Nodup
  enteredOnce : (change.entered.map Issue.number).Nodup
  apart : Disjoint (numbers change.left) (numbers change.entered)
  leftOrder : change.left.Sublist start.issues
  enteredOrder : change.entered.Sublist finish.issues
  turns : alert.matched finish =
    (alert.matched start \ numbers change.left) ∪ numbers change.entered
  unchanged : change.isChange = false ↔ alert.matched start = alert.matched finish

theorem change_exact (alert : Alert) (start finish : Collection) :
    (alert.change start finish).Exact alert start finish where
  leftOnce := start.distinct.sublist ((missingFrom_select_sublist _ _ _).map _)
  enteredOnce := finish.distinct.sublist ((missingFrom_select_sublist _ _ _).map _)
  apart := by
    rw [numbers_left, numbers_entered]
    exact disjoint_sdiff_sdiff
  leftOrder := missingFrom_select_sublist _ _ _
  enteredOrder := missingFrom_select_sublist _ _ _
  turns := by
    rw [numbers_left, numbers_entered]
    ext number
    simp only [Finset.mem_union, Finset.mem_sdiff]
    tauto
  unchanged := isChange_eq_false_iff alert start finish

/-- The steps of a history whose change lists a number. -/
def reportingSteps (alert : Alert) (history : Nat → Collection) (length : Nat) (number : Int) :
    Finset Nat :=
  (Finset.range length).filter fun index =>
    number ∈ (alert.change (history index) (history (index + 1))).reported

theorem card_reportingSteps_succ (alert : Alert) (history : Nat → Collection) (length : Nat)
    (number : Int) :
    (alert.reportingSteps history (length + 1) number).card =
      (alert.reportingSteps history length number).card +
        if number ∈ (alert.change (history length) (history (length + 1))).reported then 1 else 0 := by
  rw [reportingSteps, Finset.range_add_one, Finset.filter_insert]
  split
  · rw [Finset.card_insert_of_notMem (by simp)]
    rfl
  · rfl

/-- A number is matched at just one end of a history exactly if an odd number of steps report it: each
step that reports it changes whether it is matched, and no other step does. -/
theorem odd_card_reportingSteps_iff (alert : Alert) (history : Nat → Collection) (length : Nat)
    (number : Int) :
    Odd (alert.reportingSteps history length number).card ↔
      number ∈ (alert.change (history 0) (history length)).reported := by
  rw [reported_change]
  induction length with
  | zero => simp [reportingSteps]
  | succ length induction =>
      have flips := reported_change alert (history length) (history (length + 1))
      rw [card_reportingSteps_succ]
      rw [Finset.mem_symmDiff] at induction ⊢
      by_cases reported :
          number ∈ (alert.change (history length) (history (length + 1))).reported
      · rw [if_pos reported, Nat.odd_add_one, induction]
        rw [flips, Finset.mem_symmDiff] at reported
        tauto
      · rw [if_neg reported, Nat.add_zero, induction]
        rw [flips, Finset.mem_symmDiff] at reported
        tauto

/-- Every step of a history is listed exactly.  Between its ends a number is reported if an odd number of
steps report it, as one that left if it was matched at the start and as one that entered otherwise. -/
theorem changes_along_history (alert : Alert) (history : Nat → Collection) :
    (∀ index : Nat,
      (alert.change (history index) (history (index + 1))).Exact alert (history index)
        (history (index + 1))) ∧
    ∀ (length : Nat) (number : Int),
      let change := alert.change (history 0) (history length)
      let steps := alert.reportingSteps history length number
      (number ∈ change.reported ↔ Odd steps.card) ∧
        (number ∈ numbers change.left ↔ Odd steps.card ∧ number ∈ alert.matched (history 0)) ∧
        (number ∈ numbers change.entered ↔
          Odd steps.card ∧ number ∉ alert.matched (history 0)) := by
  constructor
  · intro index
    exact change_exact alert (history index) (history (index + 1))
  · intro length number change steps
    have reported : number ∈ change.reported ↔ Odd steps.card :=
      (odd_card_reportingSteps_iff alert history length number).symm
    have differs : number ∈ change.reported ↔
        number ∈ symmDiff (alert.matched (history 0)) (alert.matched (history length)) := by
      rw [reported_change]
    rw [Finset.mem_symmDiff] at differs
    refine ⟨reported, ?_, ?_⟩
    · rw [← reported, differs, numbers_left, Finset.mem_sdiff]
      tauto
    · rw [← reported, differs, numbers_entered, Finset.mem_sdiff]
      tauto

end IssueWatch.Alert
