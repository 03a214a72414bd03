import IssueWatch.Xml.Element
import Mathlib.Data.List.Flatten
import Mathlib.Data.List.Perm.Basic

/-!
# Searching among nested elements

The elements of a name that lie inside an element of an outer name can be listed once each, or once for every
outer element around them.  An inner element found again was found before, so that a search for the first with a
property ends at the same element in both lists.  The lists are the same exactly if no inner element has two outer
ones around it.
-/
namespace IssueWatch.Xml.Element

variable {outer inner : String}

/-- Induction over the children of every element. -/
@[elab_as_elim]
theorem inductionOnChildren {motive : Element → Prop}
    (step : ∀ (name : Name) (attributes : List (Name × String)) (text : String) (children : List Element),
      (∀ child ∈ children, motive child) → motive ⟨name, attributes, text, children⟩)
    (element : Element) : motive element := by
  match element with
  | ⟨name, attributes, text, children⟩ =>
    exact step name attributes text children fun child _ => inductionOnChildren step child

theorem familyOfList_eq_flatMap (elements : List Element) :
    familyOfList elements = elements.flatMap family := by
  induction elements with
  | nil => rfl
  | cons element rest induction => rw [familyOfList, induction, List.flatMap_cons]

theorem insideList_eq_flatMap (within : Bool) (elements : List Element) :
    insideList outer inner within elements = elements.flatMap (inside outer inner within) := by
  induction elements with
  | nil => rfl
  | cons element rest induction => rw [insideList, induction, List.flatMap_cons]

theorem family_eq (element : Element) :
    element.family = element :: element.children.flatMap family := by
  rcases element with ⟨name, attributes, text, children⟩
  rw [family, familyOfList_eq_flatMap]

theorem named_eq (element : Element) (part : String) :
    element.named part =
      (if element.isNamed part then [element] else []) ++ element.children.flatMap (·.named part) := by
  rw [named, family_eq, List.filter_cons, List.filter_flatMap]
  by_cases isNamed : element.name = ⟨none, part⟩
  · simp [isNamed, Element.isNamed, named]
  · simp [isNamed, Element.isNamed, named]

theorem inside_eq (within : Bool) (element : Element) :
    inside outer inner within element =
      (if (within || element.isNamed outer) && element.isNamed inner then [element] else []) ++
        element.children.flatMap (inside outer inner (within || element.isNamed outer)) := by
  rcases element with ⟨name, attributes, text, children⟩
  rw [inside, insideList_eq_flatMap]

/-- Inside an element of the outer name there is nothing more to ask. -/
theorem inside_true (element : Element) : inside outer inner true element = element.named inner := by
  induction element using inductionOnChildren with
  | step name attributes text children induction =>
      rw [inside_eq, named_eq, Bool.true_or, Bool.true_and, List.flatMap_congr induction]

/-! ## Below -/

theorem family_subset {element other : Element} (below : other ∈ element.family) :
    other.family ⊆ element.family := by
  induction element using inductionOnChildren with
  | step name attributes text children induction =>
      intro last inside
      rw [family_eq] at below ⊢
      rcases List.mem_cons.mp below with rfl | belowChild
      · rwa [family_eq] at inside
      · obtain ⟨child, member, inChild⟩ := List.mem_flatMap.mp belowChild
        exact List.mem_cons_of_mem _ (List.mem_flatMap_of_mem member (induction child member inChild inside))

theorem named_subset {element other : Element} (below : other ∈ element.named outer) :
    other.named inner ⊆ element.named inner := by
  intro last inside
  obtain ⟨inFamily, isNamed⟩ := List.mem_filter.mp inside
  exact List.mem_filter.mpr ⟨family_subset (List.mem_filter.mp below).1 inFamily, isNamed⟩

/-! ## Searching -/

variable {Answer : Type} (answer? : Element → Option Answer)

theorem findSome?_flatMap_congr {α : Type} {list : List α} {first second : α → List Element}
    (each : ∀ entry ∈ list, (first entry).findSome? answer? = (second entry).findSome? answer?) :
    (list.flatMap first).findSome? answer? = (list.flatMap second).findSome? answer? := by
  induction list with
  | nil => rfl
  | cons entry rest induction =>
      obtain ⟨here, others⟩ := List.forall_mem_cons.mp each
      rw [List.flatMap_cons, List.flatMap_cons, List.findSome?_append, List.findSome?_append, here,
        induction others]

/-- What is searched again behind a list that holds it decides nothing. -/
theorem findSome?_append_of_subset {list again : List Element} (found : again ⊆ list) :
    (list ++ again).findSome? answer? = list.findSome? answer? := by
  rw [List.findSome?_append]
  cases searched : list.findSome? answer? with
  | some answer => rfl
  | none =>
      rw [List.findSome?_eq_none_iff] at searched
      rw [Option.none_or, List.findSome?_eq_none_iff]
      exact fun element member => searched element (found member)

/-- A search through the inner elements of every outer element ends where one through all of them ends. -/
theorem findSome?_namedInside (root : Element) (outer inner : String) :
    ((root.named outer).flatMap (·.named inner)).findSome? answer? =
      (root.namedInside outer inner).findSome? answer? := by
  rw [namedInside]
  induction root using inductionOnChildren with
  | step name attributes text children induction =>
      let root : Element := ⟨name, attributes, text, children⟩
      have apart : (root.named outer).flatMap (·.named inner) =
          (if root.isNamed outer then root.named inner else []) ++
            (children.flatMap (·.named outer)).flatMap (·.named inner) := by
        rw [named_eq, List.flatMap_append]
        split <;> simp [root]
      by_cases isOuter : root.isNamed outer = true
      -- Everything below is searched with the element itself.
      · have allInside : inside outer inner false root = root.named inner := by
          rw [← inside_true, inside_eq, inside_eq, isOuter]
          rfl
        rw [apart, if_pos isOuter, allInside]
        refine findSome?_append_of_subset answer? fun last member => ?_
        obtain ⟨middle, below, inMiddle⟩ := List.mem_flatMap.mp member
        have inRoot : middle ∈ root.named outer := by
          rw [named_eq]
          exact List.mem_append_right _ below
        exact named_subset inRoot inMiddle
      · have passed : inside outer inner false root =
            children.flatMap (inside outer inner false) := by
          rw [inside_eq, Bool.false_or, Bool.eq_false_iff.mpr isOuter]
          rfl
        rw [apart, if_neg isOuter, passed, List.nil_append, List.flatMap_assoc]
        exact findSome?_flatMap_congr answer? induction

/-! ## Counting -/

theorem enclosedFromList_eq_flatMap (around : Nat) (elements : List Element) :
    enclosedFromList outer inner around elements = elements.flatMap (enclosedFrom outer inner around) := by
  induction elements with
  | nil => rfl
  | cons element rest induction => rw [enclosedFromList, induction, List.flatMap_cons]

theorem enclosedFrom_eq (around : Nat) (element : Element) :
    enclosedFrom outer inner around element =
      (if element.isNamed inner then [(element, if element.isNamed outer then around + 1 else around)]
        else []) ++
      element.children.flatMap
        (enclosedFrom outer inner (if element.isNamed outer then around + 1 else around)) := by
  rcases element with ⟨name, attributes, text, children⟩
  rw [enclosedFrom, enclosedFromList_eq_flatMap]

theorem map_fst_enclosedFrom (around : Nat) (element : Element) :
    (enclosedFrom outer inner around element).map Prod.fst = element.named inner := by
  induction element using inductionOnChildren generalizing around with
  | step name attributes text children induction =>
      rw [enclosedFrom_eq, named_eq, List.map_append, List.map_flatMap]
      congr 1
      · split <;> rfl
      · exact List.flatMap_congr fun child member => induction child member _

/-- One more element around a place is one more around everything there. -/
theorem enclosedFrom_succ (around : Nat) (element : Element) :
    enclosedFrom outer inner (around + 1) element =
      (enclosedFrom outer inner around element).map fun entry => (entry.1, entry.2 + 1) := by
  induction element using inductionOnChildren generalizing around with
  | step name attributes text children induction =>
      rw [enclosedFrom_eq, enclosedFrom_eq around, List.map_append, List.map_flatMap]
      have further : (if isNamed ⟨name, attributes, text, children⟩ outer then around + 1 + 1 else around + 1) =
          (if isNamed ⟨name, attributes, text, children⟩ outer then around + 1 else around) + 1 := by
        split <;> rfl
      rw [further]
      congr 1
      · split <;> rfl
      · exact List.flatMap_congr fun child member => induction child member _

/-- The elements inside an outer one are those with at least one around them. -/
theorem inside_eq_enclosedFrom (around : Nat) (element : Element) :
    inside outer inner (decide (0 < around)) element =
      ((enclosedFrom outer inner around element).filter fun entry => decide (0 < entry.2)).map Prod.fst := by
  induction element using inductionOnChildren generalizing around with
  | step name attributes text children induction =>
      have within : (decide (0 < around) || isNamed ⟨name, attributes, text, children⟩ outer) =
          decide (0 < if isNamed ⟨name, attributes, text, children⟩ outer then around + 1 else around) := by
        split <;> simp_all
      rw [inside_eq, enclosedFrom_eq, within, List.filter_append, List.map_append, List.filter_flatMap,
        List.map_flatMap]
      congr 1
      · by_cases isInner : isNamed ⟨name, attributes, text, children⟩ inner = true
        · rw [isInner, Bool.and_true, if_pos rfl, List.filter_singleton]
          simp only
          cases decide (0 < _) <;> rfl
        · simp [isInner]
      · exact List.flatMap_congr fun child member => induction child member _

theorem namedInside_eq (root : Element) :
    root.namedInside outer inner =
      ((root.enclosed outer inner).filter fun entry => decide (0 < entry.2)).map Prod.fst :=
  inside_eq_enclosedFrom 0 root

theorem repeated_append (counted others : List (Element × Nat)) :
    repeated (counted ++ others) = repeated counted ++ repeated others :=
  List.flatMap_append

theorem repeated_flatMap {α : Type} (list : List α) (counted : α → List (Element × Nat)) :
    repeated (list.flatMap counted) = list.flatMap fun entry => repeated (counted entry) :=
  List.flatMap_assoc

/-- Counting once more repeats everything once more. -/
theorem repeated_map_succ_perm (counted : List (Element × Nat)) :
    (repeated (counted.map fun entry => (entry.1, entry.2 + 1))).Perm
      (counted.map Prod.fst ++ repeated counted) := by
  induction counted with
  | nil => exact .refl _
  | cons entry rest induction =>
      obtain ⟨element, count⟩ := entry
      have behind : (List.replicate count element ++ repeated (rest.map fun entry => (entry.1, entry.2 + 1))).Perm
          (rest.map Prod.fst ++ (List.replicate count element ++ repeated rest)) :=
        (induction.append_left _).trans (by
          rw [← List.append_assoc, ← List.append_assoc]
          exact List.perm_append_comm.append_right _)
      exact behind.cons element

/-- A search through the inner elements of every outer element finds each as often as outer elements are around
it. -/
theorem flatMap_named_perm (root : Element) (outer inner : String) :
    ((root.named outer).flatMap (·.named inner)).Perm (repeated (root.enclosed outer inner)) := by
  rw [enclosed]
  induction root using inductionOnChildren with
  | step name attributes text children induction =>
      let root : Element := ⟨name, attributes, text, children⟩
      let here : List (Element × Nat) := if root.isNamed inner then [(root, 0)] else []
      have below : ((children.flatMap (·.named outer)).flatMap (·.named inner)).Perm
          (repeated (here ++ children.flatMap (enclosedFrom outer inner 0))) := by
        have nothing : repeated here = [] := by
          simp only [here]
          split <;> rfl
        rw [List.flatMap_assoc, repeated_append, nothing, List.nil_append, repeated_flatMap]
        exact List.Perm.flatMap_left children induction
      by_cases isOuter : root.isNamed outer = true
      · have counted : enclosedFrom outer inner 0 root =
            (here ++ children.flatMap (enclosedFrom outer inner 0)).map fun entry => (entry.1, entry.2 + 1) := by
          rw [enclosedFrom_eq, if_pos isOuter, List.map_append, List.map_flatMap]
          congr 1
          · simp only [here]
            split <;> rfl
          · exact List.flatMap_congr fun child _ => enclosedFrom_succ 0 child
        have all : (here ++ children.flatMap (enclosedFrom outer inner 0)).map Prod.fst = root.named inner := by
          have elements : (enclosedFrom outer inner 0 root).map Prod.fst = root.named inner :=
            map_fst_enclosedFrom 0 root
          rw [← elements, counted, List.map_map]
          rfl
        rw [named_eq, if_pos isOuter, List.singleton_append, List.flatMap_cons, counted]
        refine .trans ?_ (repeated_map_succ_perm _).symm
        rw [all]
        exact below.append_left _
      · have counted : enclosedFrom outer inner 0 root =
            here ++ children.flatMap (enclosedFrom outer inner 0) := by
          rw [enclosedFrom_eq, if_neg isOuter]
        rw [named_eq, if_neg isOuter, List.nil_append, counted]
        exact below

/-- The same search finds every inner element at least once, in document order. -/
theorem namedInside_sublist (root : Element) (outer inner : String) :
    (root.namedInside outer inner).Sublist ((root.named outer).flatMap (·.named inner)) := by
  rw [namedInside]
  induction root using inductionOnChildren with
  | step name attributes text children induction =>
      let root : Element := ⟨name, attributes, text, children⟩
      rw [named_eq, List.flatMap_append]
      by_cases isOuter : root.isNamed outer = true
      · have allInside : inside outer inner false root = root.named inner := by
          rw [← inside_true, inside_eq, inside_eq, isOuter]
          rfl
        rw [allInside, if_pos isOuter, List.flatMap_singleton]
        exact List.sublist_append_left _ _
      · have passed : inside outer inner false root = children.flatMap (inside outer inner false) := by
          rw [inside_eq, Bool.false_or, Bool.eq_false_iff.mpr isOuter]
          rfl
        rw [passed, if_neg isOuter, List.flatMap_nil, List.nil_append, List.flatMap_assoc]
        exact List.Sublist.flatMap_right children induction

theorem length_repeated_cons (element : Element) (count : Nat) (rest : List (Element × Nat)) :
    (repeated ((element, count) :: rest)).length = count + (repeated rest).length := by
  rw [repeated, List.flatMap_cons, List.length_append, List.length_replicate, repeated]

theorem length_filter_cons (element : Element) (count : Nat) (rest : List (Element × Nat)) :
    (((element, count) :: rest).filter fun entry => decide (0 < entry.2)).length =
      min count 1 + (rest.filter fun entry => decide (0 < entry.2)).length := by
  rw [List.filter_cons]
  split
  · rename_i positive
    rw [decide_eq_true_eq] at positive
    rw [List.length_cons]
    simp only at positive
    omega
  · rename_i zero
    rw [decide_eq_true_eq] at zero
    simp only at zero
    omega

theorem length_filter_le_repeated (counted : List (Element × Nat)) :
    (counted.filter fun entry => decide (0 < entry.2)).length ≤ (repeated counted).length := by
  induction counted with
  | nil => exact Nat.le_refl 0
  | cons entry rest induction =>
      obtain ⟨element, count⟩ := entry
      rw [length_filter_cons, length_repeated_cons]
      omega

theorem length_filter_eq_repeated_iff (counted : List (Element × Nat)) :
    (counted.filter fun entry => decide (0 < entry.2)).length = (repeated counted).length ↔
      ∀ entry ∈ counted, entry.2 ≤ 1 := by
  induction counted with
  | nil => simp [repeated]
  | cons entry rest induction =>
      obtain ⟨element, count⟩ := entry
      have atMost := length_filter_le_repeated rest
      rw [length_filter_cons, length_repeated_cons, List.forall_mem_cons, ← induction]
      simp only
      omega

/-- The search finds every inner element once exactly if none has two outer elements around it. -/
theorem length_namedInside_eq_iff (root : Element) (outer inner : String) :
    (root.namedInside outer inner).length = ((root.named outer).flatMap (·.named inner)).length ↔
      ∀ entry ∈ root.enclosed outer inner, entry.2 ≤ 1 := by
  rw [namedInside_eq, List.length_map, (root.flatMap_named_perm outer inner).length_eq, length_filter_eq_repeated_iff]

end IssueWatch.Xml.Element
