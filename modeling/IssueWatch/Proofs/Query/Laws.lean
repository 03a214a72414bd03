import IssueWatch.Query.Expr
import IssueWatch.Query.Meaning
import IssueWatch.Query.Parser
import Mathlib.Data.List.Perm.Basic

/-!
# Forms of a query

The laws change the form of a query and not its meaning.  A conjunction holds if all its members hold, a
disjunction if one of them does, so order and repetition make no difference: only the set of members counts.
One use of a law anywhere in an expression keeps what holds of an issue, by induction on where it is used, and
so does every chain of uses, forward and backward.
-/
namespace IssueWatch.Expr

/-!
## Laws of query expressions

The laws by which a query may be put in another form: the order, repetition and grouping of the members
of a conjunction or disjunction, double negation, and negation of a conjunction or disjunction. They
apply at any depth, any number of times and in both directions.
-/

/-- One use of a law somewhere in an expression. -/
inductive Step : Expr → Expr → Prop where
  | permuteAnd {children others : List Expr} (same : children.Perm others) :
      Step (.and children) (.and others)
  | permuteOr {children others : List Expr} (same : children.Perm others) :
      Step (.or children) (.or others)
  | dropRepeatedAnd {before after : List Expr} {child : Expr} (kept : child ∈ before ++ after) :
      Step (.and (before ++ child :: after)) (.and (before ++ after))
  | dropRepeatedOr {before after : List Expr} {child : Expr} (kept : child ∈ before ++ after) :
      Step (.or (before ++ child :: after)) (.or (before ++ after))
  | spliceAnd (before inner after : List Expr) :
      Step (.and (before ++ .and inner :: after)) (.and (before ++ inner ++ after))
  | spliceOr (before inner after : List Expr) :
      Step (.or (before ++ .or inner :: after)) (.or (before ++ inner ++ after))
  | doubleNegation (inner : Expr) : Step (.not (.not inner)) inner
  | negatedAnd (children : List Expr) : Step (.not (.and children)) (.or (children.map .not))
  | negatedOr (children : List Expr) : Step (.not (.or children)) (.and (children.map .not))
  | insideAnd {before after : List Expr} {child other : Expr} (step : Step child other) :
      Step (.and (before ++ child :: after)) (.and (before ++ other :: after))
  | insideOr {before after : List Expr} {child other : Expr} (step : Step child other) :
      Step (.or (before ++ child :: after)) (.or (before ++ other :: after))
  | insideNot {child other : Expr} (step : Step child other) : Step (.not child) (.not other)

/-- Two expressions are forms of each other by the laws. -/
inductive SameByLaws : Expr → Expr → Prop where
  | refl (expression : Expr) : SameByLaws expression expression
  | forward {first second third : Expr} (known : SameByLaws first second) (step : Step second third) :
      SameByLaws first third
  | backward {first second third : Expr} (known : SameByLaws first second) (step : Step third second) :
      SameByLaws first third

variable {first second : Expr} {children others : List Expr}

/-! ## Members -/

/-- Which members a conjunction has decides whether it holds: not their order, and not how often they occur. -/
theorem all_eq_of_sameMembers (issue : Issue) (same : ∀ child, child ∈ children ↔ child ∈ others) :
    children.all (holds issue) = others.all (holds issue) := by
  rw [Bool.eq_iff_iff, List.all_eq_true, List.all_eq_true]
  exact forall_congr' fun child => by rw [same child]

theorem any_eq_of_sameMembers (issue : Issue) (same : ∀ child, child ∈ children ↔ child ∈ others) :
    children.any (holds issue) = others.any (holds issue) := by
  rw [Bool.eq_iff_iff, List.any_eq_true, List.any_eq_true]
  exact exists_congr fun child => by rw [same child]

theorem mem_dropRepeated {before after : List Expr} {repeated : Expr} (kept : repeated ∈ before ++ after)
    (child : Expr) : child ∈ before ++ repeated :: after ↔ child ∈ before ++ after := by
  rw [List.mem_append, List.mem_cons, or_left_comm, ← List.mem_append]
  constructor
  · rintro (rfl | member)
    · exact kept
    · exact member
  · exact .inr

/-! ## Uses of the laws -/

/-- One use of a law keeps what holds of an issue. -/
theorem Step.holds_eq (step : Step first second) (issue : Issue) : first.holds issue = second.holds issue := by
  induction step with
  | permuteAnd same =>
      rw [holds_and, holds_and]
      exact all_eq_of_sameMembers issue fun _ => same.mem_iff
  | permuteOr same =>
      rw [holds_or, holds_or]
      exact any_eq_of_sameMembers issue fun _ => same.mem_iff
  | dropRepeatedAnd kept =>
      rw [holds_and, holds_and]
      exact all_eq_of_sameMembers issue (mem_dropRepeated kept)
  | dropRepeatedOr kept =>
      rw [holds_or, holds_or]
      exact any_eq_of_sameMembers issue (mem_dropRepeated kept)
  | spliceAnd before inner after => simp
  | spliceOr before inner after => simp
  | doubleNegation inner => rw [holds_not, holds_not, Bool.not_not]
  | negatedAnd children =>
      rw [holds_not, holds_and, holds_or, List.not_all_eq_any_not, List.any_map]
      exact congrArg children.any (funext fun child => (holds_not issue child).symm)
  | negatedOr children =>
      rw [holds_not, holds_or, holds_and, List.not_any_eq_all_not, List.all_map]
      exact congrArg children.all (funext fun child => (holds_not issue child).symm)
  | insideAnd _ induction =>
      rw [holds_and, holds_and, List.all_append, List.all_append, List.all_cons, List.all_cons, induction]
  | insideOr _ induction =>
      rw [holds_or, holds_or, List.any_append, List.any_append, List.any_cons, List.any_cons, induction]
  | insideNot _ induction => rw [holds_not, holds_not, induction]

/-- So does any chain of uses, in both directions. -/
theorem SameByLaws.holds_eq (same : SameByLaws first second) (issue : Issue) :
    first.holds issue = second.holds issue := by
  induction same with
  | refl => rfl
  | forward _ step known => exact known.trans (step.holds_eq issue)
  | backward _ step known => exact known.trans (step.holds_eq issue).symm

theorem SameByLaws.select_eq (same : SameByLaws first second) (issues : List Issue) :
    first.select issues = second.select issues :=
  List.filter_congr fun issue _ => same.holds_eq issue

/-- Forms of one expression hold of the same issues, whether or not the trees between them are well-formed.  Texts
that are read to such forms select the same issues of every collection, in the same order. -/
theorem forms_select_same {first second : Expr} (same : SameByLaws first second) :
    (∀ issue : Issue, first.holds issue = second.holds issue) ∧
      ∀ text other : String, parse text = .ok first → parse other = .ok second →
        ∀ collection : Collection,
          (parse text).map (·.select collection.issues) = (parse other).map (·.select collection.issues) := by
  refine ⟨same.holds_eq, ?_⟩
  intro text other read otherRead collection
  rw [read, otherRead]
  exact congrArg Except.ok (same.select_eq collection.issues)

/-- A negated disjunction with a repeated name, and a conjunction of negations one of which is written three
times. -/
theorem forms_select_same_negations :
    let bug : Expr := .leaf (.label "bug")
    let isOpen : Expr := .leaf .isOpen
    let text := "NOT (label:bug OR (is:open OR label:bug))"
    let other := "NOT NOT NOT is:open NOT label:bug"
    let first : Expr := .not (.or [bug, .or [isOpen, bug]])
    let second : Expr := .and [.not (.not (.not isOpen)), .not bug]
    SameByLaws first second ∧ parse text = .ok first ∧ parse other = .ok second ∧
      (∀ issue : Issue, first.holds issue = second.holds issue) ∧
      ∀ collection : Collection,
        (parse text).map (·.select collection.issues) = (parse other).map (·.select collection.issues) := by
  intro bug isOpen text other first second
  have spliced : SameByLaws first (.not (.or [bug, isOpen, bug])) :=
    (SameByLaws.refl first).forward (.insideNot (.spliceOr [bug] [isOpen, bug] []))
  have dropped : SameByLaws first (.not (.or [isOpen, bug])) :=
    spliced.forward (.insideNot (@Step.dropRepeatedOr [] [isOpen, bug] bug (by simp)))
  have negated : SameByLaws first (.and [.not isOpen, .not bug]) := dropped.forward (.negatedOr [isOpen, bug])
  have same : SameByLaws first second :=
    negated.backward (@Step.insideAnd [] [.not bug] _ _ (.doubleNegation (.not isOpen)))
  have read : parse text = .ok first := by decide +kernel
  have otherRead : parse other = .ok second := by decide +kernel
  obtain ⟨agree, selected⟩ := forms_select_same same
  exact ⟨same, read, otherRead, agree, selected text other read otherRead⟩

end IssueWatch.Expr
