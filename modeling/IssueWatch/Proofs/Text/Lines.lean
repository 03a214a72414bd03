import IssueWatch.Text.Lines
import Mathlib.Algebra.GroupWithZero.Nat
import Mathlib.Data.List.DropRight
import Mathlib.Data.List.TakeWhile

/-!
# Places in lines

The line that holds an offset shows at its column the character at the offset, unless that is the newline that ends
the line or the text ends there.  Number, column and line come from a count and two searches that do not know of each
other.  They agree because a text that is cut at an offset is a text whose lines are cut there: the last piece in
front of the cut and the first piece behind it make up the line of the offset, and all other pieces stay whole.
-/
namespace IssueWatch.Text

/-!
## Leading parts of texts

A reader that takes characters of a class takes the whole of a part in the class when a character outside
it stands behind the part, or none.
-/

theorem takeWhile_append_of_boundary {property : Char → Bool} {body rest : List Char}
    (inside : ∀ c ∈ body, property c = true) (boundary : ∀ c ∈ rest.head?, property c = false) :
    (body ++ rest).takeWhile property = body := by
  rw [List.takeWhile_append_of_pos inside]
  cases rest with
  | nil => simp
  | cons c rest =>
      have stops : property c = false := boundary c rfl
      simp [stops]

theorem boundary_of_takeWhile {property : Char → Bool} {text rest : List Char}
    (split : text = text.takeWhile property ++ rest) : ∀ c ∈ rest.head?, property c = false := by
  intro c first
  have restEq : rest = text.dropWhile property := by
    have both : text.takeWhile property ++ rest =
        text.takeWhile property ++ text.dropWhile property := by
      rw [← split, List.takeWhile_append_dropWhile]
    exact List.append_cancel_left both
  have headNot := List.head?_dropWhile_not property text
  rw [← restEq] at headNot
  rw [Option.mem_def] at first
  rw [first] at headNot
  simpa using headNot

theorem takeWhile_ne_of_first {stop : Char} {front : List Char} (apart : ∀ c ∈ front, c ≠ stop)
    (rest : List Char) : (front ++ stop :: rest).takeWhile (· != stop) = front := by
  apply takeWhile_append_of_boundary
  · intro c member
    simpa using apart c member
  · simp

/-! ## Lines -/

variable {text : List Char} {position : Nat}

theorem getElem?_lineAt (text : List Char) (position : Nat) :
    (lineAt text position)[column text position]? = text[position]?.filter (· != '\n') := by
  have front : ((text.take position).reverse.takeWhile (· != '\n')).reverse.length = column text position := by
    rw [column, List.length_reverse]
  rw [lineAt, List.getElem?_append_right front.le, front, Nat.sub_self, ← List.head?_eq_getElem?,
    List.head?_takeWhile, List.head?_drop]

theorem mem_of_mem_lineAt {text : List Char} {position : Nat} {c : Char} (member : c ∈ lineAt text position) :
    c ∈ text := by
  rw [lineAt, List.mem_append, List.mem_reverse] at member
  rcases member with before | behind
  · exact List.mem_of_mem_take (List.mem_reverse.mp ((List.takeWhile_subset _) before))
  · exact List.mem_of_mem_drop ((List.takeWhile_subset _) behind)

/-! ## Pieces -/

theorem lines_eq_splitOn (text : List Char) : lines text = text.splitOn '\n' := by
  induction text with
  | nil => rfl
  | cons c rest induction =>
      rw [List.splitOn_cons_eq_if_modifyHead, ← induction]
      by_cases newline : c = '\n'
      · simp [newline]
      · simp [newline, lines_of_ne]

theorem length_lines (text : List Char) : (lines text).length = text.count '\n' + 1 := by
  induction text with
  | nil => rfl
  | cons c rest induction =>
      by_cases newline : c = '\n'
      · simp [newline, induction]
      · simp [newline, lines_of_ne, induction]

/-- Each piece stands in the text with one newline behind it, except the last one. -/
theorem sum_lines (text : List Char) : ((lines text).map fun line => line.length + 1).sum = text.length + 1 := by
  induction text with
  | nil => rfl
  | cons c rest induction =>
      by_cases newline : c = '\n'
      · simp [newline, induction, Nat.add_comm]
      · cases found : lines rest with
        | nil => exact absurd found (lines_ne_nil rest)
        | cons first others =>
            rw [found, List.map_cons, List.sum_cons] at induction
            rw [lines_of_ne newline, found, List.modifyHead_cons, List.map_cons, List.sum_cons, List.length_cons,
              List.length_cons]
            omega

theorem lines_eq_cons (text : List Char) : lines text = text.takeWhile (· != '\n') :: (lines text).tail := by
  induction text with
  | nil => rfl
  | cons c rest induction =>
      by_cases newline : c = '\n'
      · simp [newline]
      · rw [lines_of_ne newline, induction]
        simp [newline]

/-- Where a text is cut in two, the last piece in front and the first piece behind are one piece. -/
theorem lines_append (before after : List Char) :
    lines (before ++ after) = (lines before).dropLast ++
      (before.rtakeWhile (· != '\n') ++ after.takeWhile (· != '\n')) :: (lines after).tail := by
  induction before using List.reverseRecOn generalizing after with
  | nil => exact lines_eq_cons after
  | append_singleton before c induction =>
      by_cases newline : c = '\n'
      · rw [List.append_assoc, induction, induction]
        simp [newline, ← lines_eq_cons]
      · rw [List.append_assoc, induction, induction]
        simp [newline, lines_of_ne]

/-- In the lines of a text, the pieces in front of a position, without the last of them, come before the line of the
position. -/
theorem lines_eq_around (text : List Char) (position : Nat) :
    lines text = (lines (text.take position)).dropLast ++
      lineAt text position :: (lines (text.drop position)).tail := by
  conv_lhs => rw [← List.take_append_drop position text, lines_append]
  rfl

theorem length_dropLast_lines (text : List Char) (position : Nat) :
    (lines (text.take position)).dropLast.length = lineNumber text position - 1 := by
  rw [List.length_dropLast, length_lines, lineNumber]

theorem getElem?_lines (text : List Char) (position : Nat) :
    (lines text)[lineNumber text position - 1]? = some (lineAt text position) := by
  rw [lines_eq_around text position, ← length_dropLast_lines, List.getElem?_append_right (Nat.le_refl _),
    Nat.sub_self]
  rfl

theorem take_lines (text : List Char) (position : Nat) :
    (lines text).take (lineNumber text position - 1) = (lines (text.take position)).dropLast := by
  rw [lines_eq_around text position, ← length_dropLast_lines, List.take_left]

theorem column_eq (text : List Char) (position : Nat) :
    column text position = ((text.take position).rtakeWhile (· != '\n')).length := by
  rw [column, List.rtakeWhile, List.length_reverse]

theorem sum_dropLast_lines (inside : position ≤ text.length) :
    ((lines (text.take position)).dropLast.map fun line => line.length + 1).sum + column text position = position := by
  have split : lines (text.take position) =
      (lines (text.take position)).dropLast ++ [(text.take position).rtakeWhile (· != '\n')] := by
    conv_lhs => rw [← List.append_nil (text.take position), lines_append]
    simp
  have whole := sum_lines (text.take position)
  rw [split, List.map_append, List.sum_append, List.map_singleton, List.sum_singleton,
    List.length_take_of_le inside] at whole
  rw [column_eq]
  omega

theorem newline_notMem_lineAt (text : List Char) (position : Nat) : '\n' ∉ lineAt text position := by
  intro member
  rw [lineAt, List.mem_append, List.mem_reverse] at member
  rcases member with before | behind
  · simpa using List.mem_takeWhile_imp before
  · simpa using List.mem_takeWhile_imp behind

/-! ## From one position to the next -/

theorem lineNumber_succ {c : Char} (found : text[position]? = some c) :
    lineNumber text (position + 1) = lineNumber text position + if c = '\n' then 1 else 0 := by
  rw [lineNumber, lineNumber, List.take_add_one, found, Option.toList_some, List.count_append, List.count_singleton]
  simp only [beq_iff_eq]
  omega

theorem column_succ {c : Char} (found : text[position]? = some c) :
    column text (position + 1) = if c = '\n' then 0 else column text position + 1 := by
  rw [column_eq, column_eq, List.take_add_one, found, Option.toList_some, List.rtakeWhile_concat]
  by_cases newline : c = '\n' <;> simp [newline]

/-! ## Searches -/

theorem lineStart_succ {c : Char} (found : text[position]? = some c) :
    lineStart text (position + 1) = if c = '\n' then position + 1 else lineStart text position := by
  rw [lineStart, newlineBefore?, found]
  by_cases newline : c = '\n' <;> simp [newline, lineStart]

/-- The line starts as many characters in front of a position as its column says. -/
theorem lineStart_add_column (inside : position ≤ text.length) :
    lineStart text position + column text position = position := by
  induction position with
  | zero => simp [lineStart, newlineBefore?, column]
  | succ position induction =>
      have found : text[position]? = some text[position] := List.getElem?_eq_getElem inside
      have before := induction (Nat.le_of_succ_le inside)
      rw [lineStart_succ found, column_succ found]
      split <;> omega

theorem lineEnd_eq (inside : position ≤ text.length) :
    lineEnd text position = position + ((text.drop position).takeWhile (· != '\n')).length := by
  have upToNewline : ((text.drop position).takeWhile (· != '\n')).length =
      (text.drop position).findIdx (· == '\n') := by
    rw [List.takeWhile_eq_take_findIdx_not, List.length_take_of_le List.findIdx_le_length]
    simp [bne]
  rw [upToNewline, List.findIdx_eq_getD_findIdx?, lineEnd, newlineFrom?]
  cases (text.drop position).findIdx? (· == '\n') with
  | none => simp [inside]
  | some ahead => rfl

theorem length_lineAt (inside : position ≤ text.length) :
    (lineAt text position).length = lineEnd text position - lineStart text position := by
  have start := lineStart_add_column inside
  rw [lineEnd_eq inside, lineAt, List.length_append, List.length_reverse, ← column]
  omega

/-- What stands in front of the line of a position is as long as the start of the line says. -/
theorem length_rdropWhile_take (inside : position ≤ text.length) :
    ((text.take position).rdropWhile (· != '\n')).length = lineStart text position := by
  have start := lineStart_add_column inside
  have whole := congrArg List.length
    (List.rdropWhile_append_rtakeWhile (p := (· != '\n')) (l := text.take position))
  rw [List.length_append, ← column_eq, List.length_take_of_le inside] at whole
  omega

theorem drop_lineStart (inside : position ≤ text.length) :
    text.drop (lineStart text position) = lineAt text position ++ (text.drop position).dropWhile (· != '\n') := by
  have around : text = (text.take position).rdropWhile (· != '\n') ++
      ((text.take position).rtakeWhile (· != '\n') ++ text.drop position) := by
    rw [← List.append_assoc, List.rdropWhile_append_rtakeWhile, List.take_append_drop]
  calc text.drop (lineStart text position)
    _ = (text.take position).rtakeWhile (· != '\n') ++ text.drop position := by
        conv_lhs => rw [← length_rdropWhile_take inside]; enter [2]; rw [around]
        rw [List.drop_left]
    _ = lineAt text position ++ (text.drop position).dropWhile (· != '\n') := by
        rw [lineAt, ← List.rtakeWhile, List.append_assoc, List.takeWhile_append_dropWhile]

/-- The line lies between the newlines that the two searches find. -/
theorem lineAt_eq_extract (inside : position ≤ text.length) :
    lineAt text position = text.extract (lineStart text position) (lineEnd text position) := by
  rw [List.extract_eq_take_drop, drop_lineStart inside, ← length_lineAt inside, List.take_left]

/-! ## Places -/

/-- Number, column and line tell where a position stands: the line is the piece with that number, and the pieces in
front of it, each with its newline, and the column are as long as the text in front of the position.  The searches
for newlines lead to the same column and line, and a newline stands at the end of a line, in front of the next. -/
structure Placed (text : List Char) (position : Nat) : Prop where
  numbered : 1 ≤ lineNumber text position ∧ lineNumber text position ≤ (lines text).length
  isPiece : (lines text)[lineNumber text position - 1]? = some (lineAt text position)
  noNewline : '\n' ∉ lineAt text position
  within : column text position ≤ (lineAt text position).length
  counted : (((lines text).take (lineNumber text position - 1)).map fun line => line.length + 1).sum +
    column text position = position
  columnFound : column text position = position - lineStart text position
  lineFound : lineAt text position = text.extract (lineStart text position) (lineEnd text position)
  newlineEnds : text[position]? = some '\n' → column text position = (lineAt text position).length ∧
    lineNumber text (position + 1) = lineNumber text position + 1 ∧ column text (position + 1) = 0

theorem column_of_newline (found : text[position]? = some '\n') :
    column text position = (lineAt text position).length := by
  rw [column, lineAt, List.length_append, List.length_reverse, List.drop_eq_getElem?_toList_append, found]
  simp

theorem placed (inside : position ≤ text.length) : Placed text position where
  numbered := by
    have atMost := (List.take_sublist position text).count_le '\n'
    rw [length_lines, lineNumber]
    omega
  isPiece := getElem?_lines text position
  noNewline := newline_notMem_lineAt text position
  within := by
    rw [column, lineAt, List.length_append, List.length_reverse]
    exact Nat.le_add_right _ _
  counted := by
    rw [take_lines]
    exact sum_dropLast_lines inside
  columnFound := by
    have start := lineStart_add_column inside
    omega
  lineFound := lineAt_eq_extract inside
  newlineEnds found := by
    refine ⟨column_of_newline found, ?_, ?_⟩
    · rw [lineNumber_succ found, if_pos rfl]
    · rw [column_succ found, if_pos rfl]

/-- Every position of a text, the one at its end included, has its place in the pieces between the newlines, and
different positions have different places. -/
theorem positions_placed_apart (text : List Char) :
    lines text = text.splitOn '\n' ∧ (∀ position ≤ text.length, Placed text position) ∧
      ∀ position ≤ text.length, ∀ other ≤ text.length, position ≠ other →
        (lineNumber text position, column text position) ≠ (lineNumber text other, column text other) := by
  refine ⟨lines_eq_splitOn text, fun position inside => placed inside, ?_⟩
  intro position inside other otherInside apart samePlace
  obtain ⟨sameNumber, sameColumn⟩ := Prod.mk.inj samePlace
  have counted := (placed inside).counted
  rw [sameNumber, sameColumn, (placed otherInside).counted] at counted
  exact apart counted.symm

/-- The newline behind an empty line stands on that line, and the end of a text behind a word on the line of the
word. -/
theorem placed_on_empty_line :
    let text := "is:open\n\nlabel:".toList
    8 ≤ text.length ∧ 15 ≤ text.length ∧
      (lineNumber text 8, column text 8, lineAt text 8) = (2, 0, []) ∧
      (lineNumber text 15, column text 15, lineAt text 15) = (3, 6, "label:".toList) ∧
      Placed text 8 ∧ Placed text 15 ∧
      (lineNumber text 8, column text 8) ≠ (lineNumber text 15, column text 15) := by
  intro text
  obtain ⟨_, places, apart⟩ := positions_placed_apart text
  exact ⟨by decide, by decide, by decide, by decide, places 8 (by decide), places 15 (by decide),
    apart 8 (by decide) 15 (by decide) (by decide)⟩

end IssueWatch.Text
