/-!
# Parts of texts

Texts put together from several and taken apart into lines.
-/
namespace IssueWatch.Text

/-!
## Joined texts

Several texts in one, with the same separator between each two.
-/

/-- Texts with a separator between each two. -/
def join (separator : String) : List String → String
  | [] => ""
  | [text] => text
  | text :: rest => text ++ separator ++ join separator rest

def joinLines (lines : List String) : String :=
  join "\n" lines

@[simp] theorem join_nil (separator : String) : join separator [] = "" := rfl

@[simp] theorem join_singleton (separator text : String) : join separator [text] = text := rfl

theorem join_cons (separator text : String) {rest : List String} (more : rest ≠ []) :
    join separator (text :: rest) = text ++ separator ++ join separator rest := by
  cases rest with
  | nil => exact absurd rfl more
  | cons second others => rfl

theorem join_append_singleton (separator text : String) {texts : List String} (notEmpty : texts ≠ []) :
    join separator (texts ++ [text]) = join separator texts ++ separator ++ text := by
  induction texts with
  | nil => exact absurd rfl notEmpty
  | cons first rest induction =>
    cases rest with
    | nil => rfl
    | cons second others =>
      have more : second :: others ≠ [] := List.cons_ne_nil _ _
      have moreText : second :: others ++ [text] ≠ [] := List.cons_ne_nil _ _
      rw [List.cons_append, join_cons separator first moreText, induction more,
        join_cons separator first more]
      simp only [String.append_assoc]

/-!
## Line breaks

The characters that end a line in texts of any origin, and the lines between them. A carriage return and
a newline in a row are one line break.
-/

/-- Whether a character ends a line: a line, page or paragraph break, or one of three separators of
information. -/
def isLineBreak (c : Char) : Bool :=
  let code := c.toNat
  (0x0A ≤ code && code ≤ 0x0D) || (0x1C ≤ code && code ≤ 0x1E) || code == 0x85 || code == 0x2028 ||
    code == 0x2029

/-- The lines of a text, where the first argument is the start of a line, reversed. A line break at the
end has no line behind it. -/
def brokenLinesFrom (line : List Char) : List Char → List (List Char)
  | [] => if line.isEmpty then [] else [line.reverse]
  | '\r' :: '\n' :: rest => line.reverse :: brokenLinesFrom [] rest
  | c :: rest =>
    if isLineBreak c then line.reverse :: brokenLinesFrom [] rest else brokenLinesFrom (c :: line) rest

/-- The lines of a text, without their line breaks. -/
def brokenLines (text : List Char) : List (List Char) :=
  brokenLinesFrom [] text

/-- Turns carriage returns, alone or with a newline behind them, into newlines. -/
def unifyBreaks : List Char → List Char
  | [] => []
  | '\r' :: '\n' :: rest => '\n' :: unifyBreaks rest
  | '\r' :: rest => '\n' :: unifyBreaks rest
  | c :: rest => c :: unifyBreaks rest

/-!
## Lines of a text

The lines of a text are its parts between newlines, and no other character ends a line. An offset
counts characters from zero; a newline belongs to the line that it ends.
-/

/-- The parts of a text between its newlines, of which there is at least one. -/
def lines : List Char → List (List Char)
  | [] => [[]]
  | c :: rest =>
    if c = '\n' then [] :: lines rest
    else
      match lines rest with
      | [] => [[c]]
      | first :: others => (c :: first) :: others

/-- The number of the line that holds an offset; the first line has number one. -/
def lineNumber (text : List Char) (position : Nat) : Nat :=
  (text.take position).count '\n' + 1

/-- How many characters of its line stand before an offset. -/
def column (text : List Char) (position : Nat) : Nat :=
  ((text.take position).reverse.takeWhile (· != '\n')).length

/-- The line that holds an offset, without its newline. -/
def lineAt (text : List Char) (position : Nat) : List Char :=
  ((text.take position).reverse.takeWhile (· != '\n')).reverse ++
    (text.drop position).takeWhile (· != '\n')

/-! The start and the end of a line are found by searches for newlines, backwards and forwards from an offset. -/

/-- The last newline before an offset. -/
def newlineBefore? (text : List Char) : Nat → Option Nat
  | 0 => none
  | position + 1 => if text[position]? = some '\n' then some position else newlineBefore? text position

/-- The first newline at an offset or behind it. -/
def newlineFrom? (text : List Char) (position : Nat) : Option Nat :=
  ((text.drop position).findIdx? (· == '\n')).map (position + ·)

def lineStart (text : List Char) (position : Nat) : Nat :=
  match newlineBefore? text position with
  | some newline => newline + 1
  | none => 0

def lineEnd (text : List Char) (position : Nat) : Nat :=
  (newlineFrom? text position).getD text.length

@[simp] theorem lines_nil : lines [] = [[]] := rfl

theorem lines_ne_nil (text : List Char) : lines text ≠ [] := by
  cases text with
  | nil => simp [lines]
  | cons c rest =>
    by_cases newline : c = '\n'
    · simp [lines, newline]
    · cases found : lines rest <;> simp [lines, newline, found]

@[simp] theorem lines_newline (rest : List Char) : lines ('\n' :: rest) = [] :: lines rest := by
  simp [lines]

theorem lines_of_ne {c : Char} (ordinary : c ≠ '\n') (rest : List Char) :
    lines (c :: rest) = (lines rest).modifyHead (c :: ·) := by
  rw [lines, if_neg ordinary]
  cases found : lines rest with
  | nil => exact absurd found (lines_ne_nil rest)
  | cons first others => rfl

end IssueWatch.Text
