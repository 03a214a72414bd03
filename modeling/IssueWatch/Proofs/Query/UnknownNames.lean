import IssueWatch.Query.Meaning
import Mathlib.Data.List.Basic

/-!
# Unknown names match nothing

A query is warned about exactly those of its names that no issue of the collection satisfies.  The check looks
a name up among all names of the collection, and the evaluation looks at one issue at a time; both agree on
every qualifier.  A listener hears what the answer holds, in the same order.
-/
namespace IssueWatch

/-- The kind and the name that a warning shows. -/
def UnknownName.entry (unknown : UnknownName) : String × String :=
  (unknown.kindText, unknown.name)

namespace Qualifier

/-- The word and the value that a qualifier is written with. -/
def entry (qualifier : Qualifier) : String × String :=
  (qualifier.key.text, qualifier.value)

/-- A label, milestone or assignee that no issue of a collection has. -/
def Unmatched (collection : Collection) (qualifier : Qualifier) : Prop :=
  qualifier.isNamed = true ∧ ∀ issue ∈ collection.issues, (Expr.leaf qualifier).holds issue = false

instance (collection : Collection) : DecidablePred (Unmatched collection) :=
  fun _ => inferInstanceAs (Decidable (_ ∧ ∀ issue ∈ _, _))

variable {collection : Collection}

/-! ## One qualifier -/

/-- A warning is due exactly if no issue matches, where the names of a kind are those that issues match. -/
theorem map_entry_of_listed {qualifier : Qualifier} {unknown : UnknownName} {listed : Bool}
    (named : qualifier.isNamed = true) (sameEntry : unknown.entry = qualifier.entry)
    (listedIff : listed = true ↔ ∃ issue ∈ collection.issues, qualifier.holds issue = true) :
    (if listed then none else some unknown).map UnknownName.entry =
      if qualifier.Unmatched collection then some qualifier.entry else none := by
  have unmatchedIff : qualifier.Unmatched collection ↔ ¬ listed = true := by
    rw [listedIff, Unmatched]
    simp [named]
  by_cases isListed : listed = true
  · rw [if_pos isListed, if_neg (by rwa [unmatchedIff, not_not])]
    rfl
  · rw [if_neg isListed, if_pos (unmatchedIff.mpr isListed), ← sameEntry]
    rfl

theorem map_entry_unknownName? (qualifier : Qualifier) :
    (qualifier.unknownName? collection).map UnknownName.entry =
      if qualifier.Unmatched collection then some qualifier.entry else none := by
  cases qualifier with
  | label name =>
      refine map_entry_of_listed rfl rfl ?_
      simp [Collection.hasLabel, Collection.mem_labels, holds]
  | milestone title =>
      refine map_entry_of_listed rfl rfl ?_
      simp [Collection.hasMilestone, Collection.mem_milestones, holds]
  | assignee login =>
      refine map_entry_of_listed rfl rfl ?_
      simp [Collection.hasAssignee, Collection.mem_assignees, holds]
  | isIssue | isPullRequest | isOpen | isClosed => rfl

end Qualifier

namespace Expr

variable {collection : Collection}

theorem map_entry_unknownNames (expression : Expr) (collection : Collection) :
    (expression.unknownNames collection).map UnknownName.entry =
      (expression.leaves.filter (Qualifier.Unmatched collection)).map Qualifier.entry := by
  rw [unknownNames, List.map_filterMap, ← List.filterMap_eq_map, List.filterMap_filter]
  refine List.filterMap_congr fun qualifier _ => ?_
  rw [Qualifier.map_entry_unknownName?]
  simp

/-! ## Listeners -/

section Listening

variable {m : Type → Type} [Monad m] [LawfulMonad m]
  {listener? : Option (UnknownName → m Unit)}

theorem reportNamesOfList_eq_forM {children : List Expr}
    (each : ∀ child ∈ children, child.reportNames collection listener? =
      forM (child.unknownNames collection) (UnknownName.report listener?)) :
    reportNamesOfList collection listener? children =
      forM ((leavesOfList children).filterMap (Qualifier.unknownName? collection))
        (UnknownName.report listener?) := by
  induction children with
  | nil => rfl
  | cons child rest induction =>
      have first := each child List.mem_cons_self
      have others := induction fun other member => each other (List.mem_cons_of_mem child member)
      rw [reportNamesOfList, first, others, leavesOfList, List.filterMap_append, List.forM_append]
      rfl

/-- The visit reports the unknown names one after the other. -/
theorem reportNames_eq_forM (expression : Expr) :
    expression.reportNames collection listener? =
      forM (expression.unknownNames collection) (UnknownName.report listener?) := by
  induction expression using inductionOnChildren with
  | and children induction | or children induction =>
      rw [reportNames, unknownNames, leaves]
      exact reportNamesOfList_eq_forM induction
  | not child induction => exact induction
  | leaf qualifier =>
      rw [reportNames, unknownNames, leaves]
      cases found : qualifier.unknownName? collection with
      | none => simp [found]
      | some unknown => simp [found]

/-- Reporting collects what it tells. -/
theorem run_forM_report (unknown found : List UnknownName) :
    (forM unknown (UnknownName.report listener?)).run found = do
      forM unknown (UnknownName.tell listener?)
      return ((), found ++ unknown) := by
  induction unknown generalizing found with
  | nil => simp
  | cons first rest induction => simp [UnknownName.report, induction]

theorem checkNames_eq (expression : Expr) :
    expression.checkNames collection listener? = do
      forM (expression.unknownNames collection) (UnknownName.tell listener?)
      return expression.unknownNames collection := by
  rw [checkNames, reportNames_eq_forM, run_forM_report]
  simp

theorem forM_tell_none (unknown : List UnknownName) :
    forM unknown (UnknownName.tell (none : Option (UnknownName → m Unit))) = pure () := by
  induction unknown with
  | nil => rfl
  | cons first rest induction => simp [UnknownName.tell, induction]

end Listening

/-- The warnings name, from left to right and with repetitions, exactly the names in a query that no issue of the
collection matches, whether or not a listener is told.  The listener is told the same warnings in the same
order, whatever it does, and every other name is matched by some issue. -/
theorem warnings_name_unmatched_leaves (expression : Expr) (collection : Collection) :
    (expression.unknownNames collection).map UnknownName.entry =
        (expression.leaves.filter (Qualifier.Unmatched collection)).map Qualifier.entry ∧
      (∀ {m : Type → Type} [Monad m] [LawfulMonad m],
        expression.checkNames collection (m := m) none = pure (expression.unknownNames collection)) ∧
      (∀ {m : Type → Type} [Monad m] [LawfulMonad m] (listener : UnknownName → m Unit),
        expression.checkNames collection (some listener) = do
          forM (expression.unknownNames collection) listener
          return expression.unknownNames collection) ∧
      ∀ qualifier ∈ expression.leaves, qualifier.isNamed = true →
        qualifier.entry ∉ (expression.unknownNames collection).map UnknownName.entry →
          ∃ issue ∈ collection.issues, (Expr.leaf qualifier).holds issue = true := by
  have entries := expression.map_entry_unknownNames collection
  refine ⟨entries, ?_, ?_, ?_⟩
  · intro m _ _
    rw [checkNames_eq, forM_tell_none]
    simp
  · intro m _ _ listener
    exact checkNames_eq expression
  · intro qualifier member named known
    rw [entries] at known
    by_contra unmatched
    refine known (List.mem_map_of_mem (List.mem_filter.mpr ⟨member, ?_⟩))
    simpa [Qualifier.Unmatched, named] using unmatched

/-- A milestone with an empty title is a name like others, and an unassigned issue carries no empty login.  A
listener that refuses the first warning stops the check. -/
theorem warnings_beside_empty_milestone :
    let issue : Issue := ⟨1, "A", "u", "open", false, ["bug", "bug"], some "", none⟩
    let collection : Collection := ⟨[issue], by simp⟩
    let expression : Expr :=
      .and [.leaf (.label "nope"), .not (.leaf (.milestone "")),
        .or [.leaf (.assignee ""), .leaf (.label "bug"), .leaf (.label "nope")], .leaf .isClosed]
    (expression.unknownNames collection).map UnknownName.entry =
        [("label", "nope"), ("assignee", ""), ("label", "nope")] ∧
      expression.checkNames collection (some fun unknown => Except.error unknown.message) =
        .error "Label does not exist: nope" ∧
      ∃ issue ∈ collection.issues, (Expr.leaf (.milestone "")).holds issue = true := by
  intro issue collection expression
  obtain ⟨entries, _, told, matched⟩ := warnings_name_unmatched_leaves expression collection
  have warned : (expression.unknownNames collection).map UnknownName.entry =
      [("label", "nope"), ("assignee", ""), ("label", "nope")] := by
    rw [entries]
    decide
  have stopped := told fun unknown => (Except.error unknown.message : Except String Unit)
  refine ⟨warned, stopped.trans (by rfl), matched (.milestone "") (by decide) rfl ?_⟩
  rw [warned]
  decide

end Expr
end IssueWatch
