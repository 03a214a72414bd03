import IssueWatch.Proofs.Config.Violation
import Mathlib.Data.List.Forall2

/-!
# How often an alert is loaded

An accepted file gives an alert for every list of alerts around an element that describes one.  No such element is
skipped, but one inside two lists is found with each of them, so that its alert is loaded twice, and the alerts are
in document order only if no lists with alerts are nested.
-/
namespace IssueWatch.Alert

variable {roster known : Roster} {workspace : Workspace} {path : Path} {alerts : List Alert}

/-- What describes some values in order describes, in part, some of them in order. -/
theorem sublistForall₂_of_sublist {α β : Type} {meets : α → β → Prop} {part whole : List α} {values : List β}
    (inOrder : part.Sublist whole) (each : List.Forall₂ meets whole values) :
    List.SublistForall₂ meets part values := by
  induction inOrder generalizing values with
  | slnil => exact .nil
  | cons _ _ induction =>
      cases each with
      | cons _ others => exact .cons_right (induction others)
  | cons_cons _ _ induction =>
      cases each with
      | cons first others => exact .cons first (induction others)

/-- An accepted file is a document, and its alerts are those that its elements describe. -/
theorem exists_elements_of_loadInto (accepted : loadInto roster workspace path = (known, .ok alerts)) :
    ∃ root, readConfig workspace path = .ok root ∧ List.Forall₂ (Describes known) (elements root) alerts := by
  cases read : readConfig workspace path with
  | error failure =>
      rw [loadInto, read] at accepted
      cases accepted
  | ok root =>
      exact ⟨root, rfl, ((ofDocument_outcome roster root).2 known alerts ((loadInto_eq_ok_iff read).mp accepted)).2⟩

/-- Each element of an alert in an accepted file is loaded as often as lists of alerts are around it.  So there is at
least one alert for each, in document order, and exactly one for each if and only if none is inside two lists. -/
theorem loaded_once_iff (accepted : loadInto roster workspace path = (known, .ok alerts)) :
    ∃ root, readConfig workspace path = .ok root ∧
      (∃ rearranged : List Alert, rearranged.Perm alerts ∧
        List.Forall₂ (Describes known) (Xml.Element.repeated (root.enclosed "alerts" "alert")) rearranged) ∧
      List.SublistForall₂ (Describes known) (root.namedInside "alerts" "alert") alerts ∧
      (List.Forall₂ (Describes known) (root.namedInside "alerts" "alert") alerts ↔
        ∀ entry ∈ root.enclosed "alerts" "alert", entry.2 ≤ 1) := by
  obtain ⟨root, read, described⟩ := exists_elements_of_loadInto accepted
  have counted := root.flatMap_named_perm "alerts" "alert"
  have inOrder := root.namedInside_sublist "alerts" "alert"
  have once := root.length_namedInside_eq_iff "alerts" "alert"
  obtain ⟨rearranged, each, permuted⟩ := List.perm_comp_forall₂ counted.symm described
  refine ⟨root, read, ⟨rearranged, permuted, each⟩, sublistForall₂_of_sublist inOrder described, ?_⟩
  rw [← once]
  constructor
  · intro describedOnce
    exact describedOnce.length_eq.trans described.length_eq.symm
  · intro sameLength
    rw [inOrder.eq_of_length sameLength]
    exact described

/-- A file with some lists of alerts, behind the user who owns all of them. -/
def fileOfLists (lists : String) : Workspace where
  files := [(["a.xml"],
    "<c><users><user name='J' alias='j@x' github='@j'/></users>" ++ lists ++ "</c>")]

def alertNamed (name inside : String) : String :=
  "<alert name='" ++ name ++ "'><query>is:pr</query><owner>@j</owner>" ++ inside ++ "</alert>"

/-- What a file of alerts shows: the names of the alerts that are loaded, and for each element of an alert its name and
the number of lists around it. -/
def overview (workspace : Workspace) : Option (Option (List String) × List (Option String × Nat)) :=
  (readConfig workspace (.ofText "a.xml")).toOption.map fun root =>
    ((ofDocument {} root).2.toOption.map (List.map Alert.name),
      (root.enclosed "alerts" "alert").map fun entry => (entry.1.value? "name", entry.2))

theorem exists_of_overview {names : List String} {counts : List (Option String × Nat)}
    (seen : overview workspace = some (some names, counts)) :
    ∃ known alerts root, loadInto {} workspace (.ofText "a.xml") = (known, .ok alerts) ∧
      alerts.map Alert.name = names ∧ readConfig workspace (.ofText "a.xml") = .ok root ∧
      (root.enclosed "alerts" "alert").map (fun entry => (entry.1.value? "name", entry.2)) = counts := by
  obtain ⟨root, read, both⟩ := ConfigFailure.exists_of_map_toOption seen
  obtain ⟨loaded, counted⟩ := Prod.mk.inj both
  obtain ⟨alerts, accepted, named⟩ := ConfigFailure.exists_of_map_toOption loaded
  exact ⟨(ofDocument {} root).1, alerts, root, (loadInto_eq_ok_iff read).mpr (Prod.ext rfl accepted), named, read,
    counted⟩

/-- An alert inside another one is loaded once. -/
theorem loaded_once_inside_other :
    let workspace := fileOfLists ("<alerts>" ++ alertNamed "A" (alertNamed "B" "") ++ "</alerts>")
    ∃ known alerts root, loadInto {} workspace (.ofText "a.xml") = (known, .ok alerts) ∧
      alerts.map Alert.name = ["A", "B"] ∧
      readConfig workspace (.ofText "a.xml") = .ok root ∧
      (root.enclosed "alerts" "alert").map (fun entry => (entry.1.value? "name", entry.2)) =
        [(some "A", 1), (some "B", 1)] ∧
      List.Forall₂ (Describes known) (root.namedInside "alerts" "alert") alerts := by
  intro workspace
  have seen : overview workspace = some (some ["A", "B"], [(some "A", 1), (some "B", 1)]) := by decide +kernel
  obtain ⟨known, alerts, root, accepted, names, read, counts⟩ := exists_of_overview seen
  obtain ⟨found, readAgain, _, _, once⟩ := loaded_once_iff accepted
  cases read.symm.trans readAgain
  refine ⟨known, alerts, root, accepted, names, read, counts, once.mpr fun entry member => ?_⟩
  have count := List.mem_map_of_mem (f := fun entry => (entry.1.value? "name", entry.2)) member
  rw [counts] at count
  simp only [List.mem_cons, Prod.mk.injEq, List.not_mem_nil, or_false] at count
  omega

/-- An alert in a list inside another list is loaded twice, the second time behind an alert that follows it. -/
theorem loaded_twice_inside_lists :
    let workspace := fileOfLists ("<alerts><alerts>" ++ alertNamed "B" "" ++ "</alerts>" ++ alertNamed "C" "" ++
      "</alerts>")
    ∃ known alerts root, loadInto {} workspace (.ofText "a.xml") = (known, .ok alerts) ∧
      alerts.map Alert.name = ["B", "C", "B"] ∧
      readConfig workspace (.ofText "a.xml") = .ok root ∧
      (root.enclosed "alerts" "alert").map (fun entry => (entry.1.value? "name", entry.2)) =
        [(some "B", 2), (some "C", 1)] ∧
      ¬ List.Forall₂ (Describes known) (root.namedInside "alerts" "alert") alerts := by
  intro workspace
  have seen : overview workspace = some (some ["B", "C", "B"], [(some "B", 2), (some "C", 1)]) := by decide +kernel
  obtain ⟨known, alerts, root, accepted, names, read, counts⟩ := exists_of_overview seen
  refine ⟨known, alerts, root, accepted, names, read, counts, fun described => ?_⟩
  have twoElements := congrArg List.length counts
  have threeAlerts := congrArg List.length names
  rw [List.length_map] at twoElements threeAlerts
  have noMore := List.length_filter_le (fun entry => decide (0 < entry.2)) (root.enclosed "alerts" "alert")
  rw [twoElements, ← List.length_map Prod.fst, ← Xml.Element.namedInside_eq, described.length_eq,
    threeAlerts] at noMore
  exact absurd noMore (by decide)

end IssueWatch.Alert
