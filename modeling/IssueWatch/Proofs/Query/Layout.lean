import IssueWatch.Query.Expr
import Mathlib.Data.List.Basic

/-!
# Where qualifiers stand in canonical text

Every offset of a layout is that of the qualifier it belongs to, and each qualifier stands behind the end
of those in front of it.
-/
namespace IssueWatch.Expr

/-!
## The layout of canonical text

Where the qualifiers of an expression stand in its canonical text. The text of a child stands behind
those of the children in front of it and the separators between them, and one character further on if
it stands in parentheses.
-/

mutual
/-- The qualifiers of an expression whose canonical text starts at an offset, each with the offset that
it is written at. -/
def layout (start : Nat) : Expr → List (Nat × Qualifier)
  | .and children => layoutJoined " AND ".toList start children
  | .or children => layoutJoined " OR ".toList start children
  | .not child => layout (start + "NOT ".length + if child.isCompound then 1 else 0) child
  | .leaf qualifier => [(start, qualifier)]

/-- The qualifiers of several children with a separator between each two. -/
def layoutJoined (separator : List Char) (start : Nat) : List Expr → List (Nat × Qualifier)
  | [] => []
  | child :: rest =>
    layout (start + if child.isCompound then 1 else 0) child ++
      layoutJoined separator
        (start + (wrap child.isCompound child.formatChars).length + separator.length) rest
end

/-- The offset of the opening quote of an empty name in a qualifier that is written at an offset. -/
def emptyNameOffset? (entry : Nat × Qualifier) : Option Nat :=
  if entry.2.value = "" then some (entry.1 + entry.2.key.text.length + 1) else none

/-- The offsets of the opening quotes of the empty names in the canonical text of an expression. -/
def emptyNameOffsets (expression : Expr) : List Nat :=
  (expression.layout 0).filterMap emptyNameOffset?

mutual
/-- The layout of an expression holds its qualifiers from left to right. -/
theorem map_snd_layout (start : Nat) (expression : Expr) :
    (expression.layout start).map Prod.snd = expression.leaves := by
  match expression with
  | .and children => simpa [layout, leaves] using map_snd_layoutJoined " AND ".toList start children
  | .or children => simpa [layout, leaves] using map_snd_layoutJoined " OR ".toList start children
  | .not child => simpa [layout, leaves] using map_snd_layout _ child
  | .leaf qualifier => simp [layout, leaves]

theorem map_snd_layoutJoined (separator : List Char) (start : Nat) (children : List Expr) :
    (layoutJoined separator start children).map Prod.snd = leavesOfList children := by
  match children with
  | [] => simp [layoutJoined, leavesOfList]
  | child :: rest =>
    simp [layoutJoined, leavesOfList, map_snd_layout _ child, map_snd_layoutJoined separator _ rest]
end

/-! ## Offsets of qualifiers -/

/-- A text that starts at an offset holds a written qualifier at its offset. -/
def Occurs (text : List Char) (start : Nat) (entry : Nat × Qualifier) : Prop :=
  ∃ front behind, text = front ++ formatQualifier entry.2 ++ behind ∧ entry.1 = start + front.length

theorem Occurs.inside {text : List Char} {start : Nat} {entry : Nat × Qualifier}
    (before after : List Char) (occurs : Occurs text (start + before.length) entry) :
    Occurs (before ++ text ++ after) start entry := by
  obtain ⟨front, behind, rfl, offsetEq⟩ := occurs
  refine ⟨before ++ front, behind ++ after, by simp, ?_⟩
  rw [offsetEq, List.length_append]
  omega

theorem Occurs.bounds {text : List Char} {start : Nat} {entry : Nat × Qualifier}
    (occurs : Occurs text start entry) :
    start ≤ entry.1 ∧ entry.1 + (formatQualifier entry.2).length ≤ start + text.length := by
  obtain ⟨front, behind, rfl, offsetEq⟩ := occurs
  rw [List.length_append, List.length_append]
  omega

theorem occurs_wrap {text : List Char} {start : Nat} {entry : Nat × Qualifier} {compound : Bool}
    (occurs : Occurs text (start + if compound then 1 else 0) entry) :
    Occurs (wrap compound text) start entry := by
  cases compound with
  | false => exact occurs
  | true => exact occurs.inside ['('] [')']

theorem occurs_of_mem_layoutJoined (separator : List Char) {children : List Expr} {start : Nat}
    {entry : Nat × Qualifier}
    (each : ∀ child ∈ children, ∀ start, ∀ entry ∈ child.layout start,
      Occurs child.formatChars start entry)
    (member : entry ∈ layoutJoined separator start children) :
    Occurs (formatJoined separator children) start entry := by
  induction children generalizing start with
  | nil => cases member
  | cons child rest induction =>
      rw [layoutJoined, List.mem_append] at member
      rw [formatJoined]
      rcases member with member | member
      · have inChild := occurs_wrap (each child List.mem_cons_self _ entry member)
        exact inChild.inside [] _
      · cases rest with
        | nil => cases member
        | cons next rest =>
            have inRest := induction (fun other inside => each other (List.mem_cons_of_mem child inside))
              member
            rw [Nat.add_assoc, ← List.length_append] at inRest
            have whole := inRest.inside _ []
            simpa using whole

theorem occurs_of_mem_layout {expression : Expr} {start : Nat} {entry : Nat × Qualifier}
    (member : entry ∈ expression.layout start) :
    Occurs expression.formatChars start entry := by
  induction expression using inductionOnChildren generalizing start entry with
  | and children induction | or children induction =>
      rw [layout] at member
      rw [formatChars]
      exact occurs_of_mem_layoutJoined _ (fun child inside _ _ => induction child inside) member
  | not child induction =>
      rw [layout] at member
      rw [formatChars]
      have inChild := occurs_wrap (induction member)
      have whole := inChild.inside "NOT ".toList []
      simpa using whole
  | leaf qualifier =>
      rw [layout, List.mem_singleton] at member
      subst member
      exact ⟨[], [], by simp [formatChars], rfl⟩

/-- A qualifier ends in front of another. -/
def EndsBefore (first second : Nat × Qualifier) : Prop :=
  first.1 + (formatQualifier first.2).length ≤ second.1

theorem layoutJoined_sorted (separator : List Char) {children : List Expr} {start : Nat}
    (each : ∀ child ∈ children, ∀ start, (child.layout start).Pairwise EndsBefore) :
    (layoutJoined separator start children).Pairwise EndsBefore := by
  induction children generalizing start with
  | nil => exact .nil
  | cons child rest induction =>
      rw [layoutJoined, List.pairwise_append]
      refine ⟨each child List.mem_cons_self _,
        induction fun other inside => each other (List.mem_cons_of_mem child inside), ?_⟩
      intro first firstMember second secondMember
      have firstBounds := (occurs_wrap (occurs_of_mem_layout firstMember)).bounds
      have secondBounds := (occurs_of_mem_layoutJoined separator
        (fun _ _ _ _ => occurs_of_mem_layout) secondMember).bounds
      rw [EndsBefore]
      omega

/-- The qualifiers of a layout stand from left to right without overlap. -/
theorem layout_sorted (expression : Expr) (start : Nat) :
    (expression.layout start).Pairwise EndsBefore := by
  induction expression using inductionOnChildren generalizing start with
  | and children induction | or children induction =>
      rw [layout]
      exact layoutJoined_sorted _ induction
  | not child induction =>
      rw [layout]
      exact induction _
  | leaf qualifier =>
      rw [layout]
      exact List.pairwise_singleton _ _

end IssueWatch.Expr
