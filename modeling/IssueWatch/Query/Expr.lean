import IssueWatch.Text.Character

/-!
# Queries

Queries as trees of qualifiers, and the text by which each tree is written.
-/
namespace IssueWatch

/-!
## Qualifiers

A qualifier is one test that a query can make of an issue. It names a label, a milestone or an
assignee, or asks what kind of entry the issue is or whether it is open.
-/

/-- One test on one property of an issue. -/
inductive Qualifier where
  | label (name : String)
  | milestone (title : String)
  | assignee (login : String)
  | isIssue
  | isPullRequest
  | isOpen
  | isClosed
  deriving DecidableEq, Repr

namespace Qualifier

/-- The words before the colon of a qualifier. -/
inductive Key where
  | label
  | milestone
  | assignee
  | is
  deriving DecidableEq, Repr

def Key.text : Key → String
  | .label => "label"
  | .milestone => "milestone"
  | .assignee => "assignee"
  | .is => "is"

/-- Reads a key in any letter case. Only ASCII letters fold to the letters of a key. -/
def Key.ofWord? (word : List Char) : Option Key :=
  match word.map Char.toLower with
  | ['l', 'a', 'b', 'e', 'l'] => some .label
  | ['m', 'i', 'l', 'e', 's', 't', 'o', 'n', 'e'] => some .milestone
  | ['a', 's', 's', 'i', 'g', 'n', 'e', 'e'] => some .assignee
  | ['i', 's'] => some .is
  | _ => none

/-- The key that a qualifier is written with. -/
def key : Qualifier → Key
  | .label _ => .label
  | .milestone _ => .milestone
  | .assignee _ => .assignee
  | .isIssue | .isPullRequest | .isOpen | .isClosed => .is

/-- The text of a qualifier behind its colon, before any quoting. -/
def value : Qualifier → String
  | .label name => name
  | .milestone title => title
  | .assignee login => login
  | .isIssue => "issue"
  | .isPullRequest => "pr"
  | .isOpen => "open"
  | .isClosed => "closed"

/-- The qualifier of a key and a value. A name is taken as it stands; the value of `is` must be one
of four words, in any letter case. -/
def ofKeyValue? (key : Key) (value : List Char) : Option Qualifier :=
  match key with
  | .label => some (.label (String.ofList value))
  | .milestone => some (.milestone (String.ofList value))
  | .assignee => some (.assignee (String.ofList value))
  | .is =>
    match value.map Char.toLower with
    | ['i', 's', 's', 'u', 'e'] => some .isIssue
    | ['p', 'r'] => some .isPullRequest
    | ['o', 'p', 'e', 'n'] => some .isOpen
    | ['c', 'l', 'o', 's', 'e', 'd'] => some .isClosed
    | _ => none

/-- A qualifier that compares with a name of the user's choice. -/
def isNamed : Qualifier → Bool
  | .label _ | .milestone _ | .assignee _ => true
  | .isIssue | .isPullRequest | .isOpen | .isClosed => false

/-- A key and the value written for it determine the qualifier. -/
theorem ofKeyValue?_key_value (qualifier : Qualifier) :
    ofKeyValue? qualifier.key qualifier.value.toList = some qualifier := by
  cases qualifier with
  | label name => simp [key, value, ofKeyValue?]
  | milestone title => simp [key, value, ofKeyValue?]
  | assignee login => simp [key, value, ofKeyValue?]
  | isIssue | isPullRequest | isOpen | isClosed => rfl

end Qualifier

/-!
## Query expressions

A query is a tree of qualifiers joined by conjunction, disjunction and negation. A well-formed tree
joins at least two children at every conjunction and disjunction.
-/

/-- The expression that a query denotes. -/
inductive Expr where
  | and (children : List Expr)
  | or (children : List Expr)
  | not (child : Expr)
  | leaf (qualifier : Qualifier)
  deriving Repr

namespace Expr

/-- A tree was asked for with too few children. -/
inductive ArityError where
  | and
  | or
  deriving DecidableEq, Repr

def ArityError.message : ArityError → String
  | .and => "And requires at least two children"
  | .or => "Or requires at least two children"

def all? (children : List Expr) : Except ArityError Expr :=
  if children.length < 2 then .error .and else .ok (.and children)

def any? (children : List Expr) : Except ArityError Expr :=
  if children.length < 2 then .error .or else .ok (.or children)

mutual
/-- The qualifiers of a tree from left to right, with repetitions. -/
def leaves : Expr → List Qualifier
  | .and children => leavesOfList children
  | .or children => leavesOfList children
  | .not child => leaves child
  | .leaf qualifier => [qualifier]

def leavesOfList : List Expr → List Qualifier
  | [] => []
  | child :: rest => leaves child ++ leavesOfList rest
end

theorem leavesOfList_eq_flatMap (children : List Expr) :
    leavesOfList children = children.flatMap leaves := by
  induction children with
  | nil => rfl
  | cons child rest induction => simp [leavesOfList, induction]

/-- Induction over the children of every node. -/
@[elab_as_elim]
theorem inductionOnChildren {motive : Expr → Prop}
    (and : ∀ children : List Expr, (∀ child ∈ children, motive child) → motive (.and children))
    (or : ∀ children : List Expr, (∀ child ∈ children, motive child) → motive (.or children))
    (not : ∀ child : Expr, motive child → motive (.not child))
    (leaf : ∀ qualifier : Qualifier, motive (.leaf qualifier)) (expression : Expr) :
    motive expression := by
  match expression with
  | .and children =>
    exact and children fun child _ => inductionOnChildren and or not leaf child
  | .or children =>
    exact or children fun child _ => inductionOnChildren and or not leaf child
  | .not child => exact not child (inductionOnChildren and or not leaf child)
  | .leaf qualifier => exact leaf qualifier

/-- An expression is a part of another: that expression itself or a part of one of its children. -/
inductive Within : Expr → Expr → Prop where
  | here (expression : Expr) : Within expression expression
  | and {part child : Expr} {children : List Expr} (member : child ∈ children)
      (inside : Within part child) : Within part (.and children)
  | or {part child : Expr} {children : List Expr} (member : child ∈ children)
      (inside : Within part child) : Within part (.or children)
  | not {part child : Expr} (inside : Within part child) : Within part (.not child)

/-- Every conjunction and disjunction has at least two children. -/
inductive WellFormed : Expr → Prop where
  | and {children : List Expr} (wide : 2 ≤ children.length)
      (each : ∀ child ∈ children, WellFormed child) : WellFormed (.and children)
  | or {children : List Expr} (wide : 2 ≤ children.length)
      (each : ∀ child ∈ children, WellFormed child) : WellFormed (.or children)
  | not {child : Expr} (inner : WellFormed child) : WellFormed (.not child)
  | leaf (qualifier : Qualifier) : WellFormed (.leaf qualifier)

mutual
def decEq : (first second : Expr) → Decidable (first = second)
  | .and children, .and others =>
    match decEqList children others with
    | isTrue h => isTrue (by rw [h])
    | isFalse h => isFalse (by intro same; injection same; contradiction)
  | .or children, .or others =>
    match decEqList children others with
    | isTrue h => isTrue (by rw [h])
    | isFalse h => isFalse (by intro same; injection same; contradiction)
  | .not child, .not other =>
    match decEq child other with
    | isTrue h => isTrue (by rw [h])
    | isFalse h => isFalse (by intro same; injection same; contradiction)
  | .leaf qualifier, .leaf other =>
    if h : qualifier = other then isTrue (by rw [h])
    else isFalse (by intro same; injection same; contradiction)
  | .and _, .or _ | .and _, .not _ | .and _, .leaf _ => isFalse nofun
  | .or _, .and _ | .or _, .not _ | .or _, .leaf _ => isFalse nofun
  | .not _, .and _ | .not _, .or _ | .not _, .leaf _ => isFalse nofun
  | .leaf _, .and _ | .leaf _, .or _ | .leaf _, .not _ => isFalse nofun

def decEqList : (first second : List Expr) → Decidable (first = second)
  | [], [] => isTrue rfl
  | child :: rest, other :: others =>
    match decEq child other, decEqList rest others with
    | isTrue h, isTrue hs => isTrue (by rw [h, hs])
    | isFalse h, _ => isFalse (by intro same; injection same; contradiction)
    | _, isFalse h => isFalse (by intro same; injection same; contradiction)
  | [], _ :: _ => isFalse nofun
  | _ :: _, [] => isFalse nofun
end

instance : DecidableEq Expr := decEq

end Expr

/-!
## Canonical query text

How an expression is written as a query. A name with blanks, parentheses, quotes or backslashes, and
the empty name, stand in double quotes. A conjunction or disjunction inside another node stands in
parentheses.
-/

namespace Text

/-- Writes a backslash in front of every quote and backslash. -/
def escapeQuotes : List Char → List Char
  | [] => []
  | c :: rest =>
    if c = '"' ∨ c = '\\' then '\\' :: c :: escapeQuotes rest else c :: escapeQuotes rest

def inQuotes (text : List Char) : List Char :=
  '"' :: escapeQuotes text ++ ['"']

end Text

namespace Expr

/-- A character that keeps a name from being written bare. -/
def needsQuotes (c : Char) : Bool :=
  Text.isBlank c || c == '(' || c == ')' || c == '"' || c == '\\'

def formatName (name : List Char) : List Char :=
  if name.isEmpty || name.any needsQuotes then Text.inQuotes name else name

def formatQualifier (qualifier : Qualifier) : List Char :=
  qualifier.key.text.toList ++ ':' ::
    (if qualifier.isNamed then formatName qualifier.value.toList else qualifier.value.toList)

/-- Conjunctions and disjunctions stand in parentheses inside another node. -/
def isCompound : Expr → Bool
  | .and _ | .or _ => true
  | .not _ | .leaf _ => false

/-- Puts the text of a compound expression in parentheses. -/
def wrap (compound : Bool) (text : List Char) : List Char :=
  if compound then '(' :: text ++ [')'] else text

mutual
/-- The characters of the canonical text of an expression. -/
def formatChars : Expr → List Char
  | .and children => formatJoined " AND ".toList children
  | .or children => formatJoined " OR ".toList children
  | .not child => "NOT ".toList ++ wrap child.isCompound (formatChars child)
  | .leaf qualifier => formatQualifier qualifier

def formatJoined (separator : List Char) : List Expr → List Char
  | [] => []
  | child :: rest =>
    wrap child.isCompound (formatChars child) ++
      if rest.isEmpty then [] else separator ++ formatJoined separator rest
end

/-- The canonical text of an expression. -/
def format (expression : Expr) : String :=
  String.ofList expression.formatChars

end Expr
end IssueWatch
