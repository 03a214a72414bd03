import IssueWatch.Console.Literal.Lexeme
import IssueWatch.Text.Lines

/-!
# Literals

The parameters of some tags are data that are written out: numbers, quoted texts, the words for truth and
nothing, and tuples, sets and dictionaries of such data. What may be a member of a set or the key of a
dictionary holds no set or dictionary itself. The text of a literal is read in one pass by a machine that
keeps the brackets that are still open.
-/
namespace IssueWatch.Console.Literal

/-- What a literal is, as far as it matters to what stands around it. -/
inductive Value where
  | real
  | signedReal
  | imaginary
  | quoted (isBytes : Bool)
  | other (isFrozen : Bool)
  deriving DecidableEq, Repr

def Value.isFrozen : Value → Bool
  | .other isFrozen => isFrozen
  | .real | .signedReal | .imaginary | .quoted _ => true

/-- A value inside round brackets of its own. No quoted text continues it. -/
def Value.enclosed : Value → Value
  | .quoted _ => .other true
  | value => value

/-- A value that is being written: nothing yet, a sign in front of a number, a value, a real number with
a sign behind it, or the word for an empty set, which waits for its brackets. -/
inductive Draft where
  | empty
  | sign
  | value (value : Value)
  | sum
  | emptySet
  deriving DecidableEq, Repr

/-- Puts a value behind what there is. A sign stands in front of a number only, and what is added to a
real number is imaginary. Quoted texts of one kind run together. -/
def Draft.add (draft : Draft) (next : Value) : Option Draft :=
  match draft, next with
  | .empty, _ => some (.value next)
  | .sign, .real => some (.value .signedReal)
  | .sign, .imaginary => some (.value (.other true))
  | .sum, .imaginary => some (.value (.other true))
  | .value (.quoted first), .quoted second => if first = second then some draft else none
  | _, _ => none

def Draft.addSign : Draft → Option Draft
  | .empty => some .sign
  | .value .real | .value .signedReal => some .sum
  | _ => none

/-- What brackets hold so far: at most one value, several values, or keys with their values. -/
inductive Members where
  | single
  | several
  | pairs
  deriving DecidableEq, Repr

/-- Brackets that are open. The outermost text counts as round brackets. -/
structure Group where
  isCurly : Bool := false
  isEmptySet : Bool := false
  members : Members := .single
  isFrozen : Bool := true
  isBehindColon : Bool := false
  draft : Draft := .empty
  deriving DecidableEq, Repr

namespace Group

/-- Ends a member of round brackets. -/
def endItem (group : Group) : Option Group :=
  match group.draft with
  | .value value =>
    some { group with members := .several, isFrozen := group.isFrozen && value.isFrozen, draft := .empty }
  | _ => none

/-- Ends a member of curly brackets. -/
def endMember (group : Group) : Option Group :=
  match group.draft, group.members, group.isBehindColon with
  | .value _, .pairs, true => some { group with isBehindColon := false, draft := .empty }
  | .value value, .single, false | .value value, .several, false =>
    if value.isFrozen then some { group with members := .several, draft := .empty } else none
  | _, _, _ => none

def addComma (group : Group) : Option Group :=
  if group.isEmptySet then none
  else if group.isCurly then group.endMember
  else group.endItem

def addColon (group : Group) : Option Group :=
  match group.draft with
  | .value key =>
    if group.isCurly && !group.isBehindColon && group.members != .several && key.isFrozen then
      some { group with members := .pairs, isBehindColon := true, draft := .empty }
    else none
  | _ => none

/-- What round brackets are to the text around them. Around the word for an empty set they change
nothing. -/
def closeRound (group : Group) : Option Draft :=
  if group.isEmptySet then
    if group.draft = .empty then some (.value (.other false)) else none
  else
    match group.members, group.draft with
    | .single, .empty => some (.value (.other true))
    | .single, .value value => some (.value value.enclosed)
    | .single, .emptySet => some .emptySet
    | .several, .empty => some (.value (.other group.isFrozen))
    | .several, .value value => some (.value (.other (group.isFrozen && value.isFrozen)))
    | _, _ => none

/-- What curly brackets are to the text around them. -/
def closeCurly (group : Group) : Option Draft :=
  let whole := some (.value (.other false))
  if group.draft = .empty ∧ !group.isBehindColon then whole
  else if group.endMember.isSome then whole
  else none

def addDraft (group : Group) (inner : Draft) : Option Group :=
  match inner with
  | .value value => (group.draft.add value).map fun draft => { group with draft }
  | .emptySet => if group.draft = .empty then some { group with draft := .emptySet } else none
  | _ => none

end Group

/-- Where the reading of a text stands: in front of everything, inside, or behind the last line that may
hold something. -/
inductive Phase where
  | before (isIndented : Bool)
  | inside
  | behind
  deriving DecidableEq, Repr

/-- The innermost open brackets, those around them, and where the reading stands. -/
structure State where
  current : Group := {}
  outer : List Group := []
  phase : Phase := .before false
  deriving DecidableEq, Repr

/-- The most brackets that may be open. -/
def maxDepth : Nat := 200

namespace State

def openGroup (state : State) (isCurly : Bool) : Option State :=
  if maxDepth ≤ state.outer.length then none
  else
    match state.current.draft with
    | .value _ => none
    | .emptySet =>
      if isCurly then none
      else
        some { state with
          current := { isEmptySet := true }, outer := { state.current with draft := .empty } :: state.outer }
    | _ => some { state with current := { isCurly }, outer := state.current :: state.outer }

def closeGroup (state : State) (isCurly : Bool) : Option State :=
  match state.outer with
  | [] => none
  | group :: outer => do
    if state.current.isCurly != isCurly then none
    else
      let inner ← if isCurly then state.current.closeCurly else state.current.closeRound
      let current ← group.addDraft inner
      return { state with current, outer }

def withCurrent (state : State) (current : Option Group) : Option State :=
  current.map fun group => { state with current := group }

def addValue (state : State) (value : Value) : Option State :=
  state.withCurrent ((state.current.draft.add value).map fun draft => { state.current with draft })

/-- Takes a lexeme for which lines do not matter. -/
def add (state : State) : Lexeme → Option State
  | .number isImaginary => state.addValue (if isImaginary then .imaginary else .real)
  | .quoted isBytes => state.addValue (.quoted isBytes)
  | .constant => state.addValue (.other true)
  | .emptySet => state.withCurrent (state.current.addDraft .emptySet)
  | .sign => state.withCurrent (state.current.draft.addSign.map fun draft => { state.current with draft })
  | .openRound => state.openGroup false
  | .openCurly => state.openGroup true
  | .closeRound => state.closeGroup false
  | .closeCurly => state.closeGroup true
  | .comma => state.withCurrent state.current.addComma
  | .colon => state.withCurrent state.current.addColon
  | .newline _ | .continuation _ => some state

/-- Takes a lexeme. Newlines matter outside brackets only: the literal ends at one, and its line is not
indented. -/
def step (state : State) (lexeme : Lexeme) : Option State :=
  match lexeme, state.phase with
  | .newline isIndented, .before _ => some { state with phase := .before isIndented }
  | .newline _, .inside => some (if state.outer.isEmpty then { state with phase := .behind } else state)
  | .newline _, .behind => some state
  | .continuation isIndented, .before wasIndented =>
    some { state with phase := .before (wasIndented || isIndented) }
  | _, .before true => none
  | _, .before false => { state with phase := .inside }.add lexeme
  | _, .inside => state.add lexeme
  | _, .behind => none

def isComplete (state : State) : Bool :=
  state.outer.isEmpty &&
    match state.current.members, state.current.draft with
    | .single, .value _ => true
    | .several, .empty | .several, .value _ => true
    | _, _ => false

def run (state : State) : List Lexeme → Option State
  | [] => some state
  | lexeme :: rest => (state.step lexeme).bind fun next => next.run rest

end State

end Literal

def isLiteral (text : List Char) : Bool :=
  !text.contains '\x00' &&
    match (Literal.lexemesFrom? 0 (Text.unifyBreaks text)).bind (Literal.State.run {}) with
    | some state => state.isComplete
    | none => false

end IssueWatch.Console
