import IssueWatch.Proofs.Query.Descent
import IssueWatch.Proofs.Query.Misfits
import IssueWatch.Query.Indexed
import Mathlib.Data.List.Forall2

/-!
# Reading by index and reading what is left

A reading by index agrees with the reading that passes on what is left to read: what is left is the text, or
the tokens, from the index on.  So no index is outside the text or the tokens, every word of a kind or state
has its test, every node has enough children, and every loop moves on.
-/
namespace IssueWatch.Indexed

section
variable {α : Type} {whole rest : List α} {member : α} {index : Nat}

theorem lt_length_of_drop (left : whole.drop index = member :: rest) : index < whole.length := by
  have lengths := congrArg List.length left
  rw [List.length_drop, List.length_cons] at lengths
  omega

theorem getElem?_of_drop (left : whole.drop index = member :: rest) : whole[index]? = some member := by
  rw [← List.head?_drop, left, List.head?_cons]

theorem drop_succ_of_drop (left : whole.drop index = member :: rest) :
    whole.drop (index + 1) = rest := by
  rw [← List.tail_drop, left, List.tail_cons]

theorem drop_add_of_drop {front : List α} (left : whole.drop index = front ++ rest) :
    whole.drop (index + front.length) = rest := by
  rw [← List.drop_drop, left, List.drop_left]

end

/-! ## Pieces of a text -/

variable {text rest : List Char} {index : Nat} {c : Char}

theorem characterAt_of_drop (left : text.drop index = c :: rest) :
    characterAt text index = .ok c := by
  rw [characterAt, getElem?_of_drop left]

theorem pass_eq (property : Char → Bool) (left : text.drop index = rest) :
    pass property text index = .ok (index + (rest.takeWhile property).length) := by
  induction rest generalizing index with
  | nil =>
      have atEnd : ¬ index < text.length := by
        rw [List.drop_eq_nil_iff] at left
        omega
      rw [pass, if_neg atEnd]
      rfl
  | cons c rest induction =>
      rw [pass, if_pos (lt_length_of_drop left), characterAt_of_drop left]
      cases passes : property c with
      | false => simp [passes]
      | true =>
          simp only [List.takeWhile_cons_of_pos passes, List.length_cons]
          rw [if_pos passes, induction (drop_succ_of_drop left), Nat.add_assoc, Nat.add_comm 1]

theorem slice_takeWhile (property : Char → Bool) (left : text.drop index = rest) :
    slice text index (index + (rest.takeWhile property).length) = rest.takeWhile property := by
  rw [slice, left, Nat.add_sub_cancel_left]
  exact (List.prefix_iff_eq_take.mp (List.takeWhile_prefix property)).symm

theorem slice_succ (left : text.drop index = rest) : slice text index (index + 1) = rest.take 1 := by
  rw [slice, left, Nat.add_sub_cancel_left]

/-- What a quoted value comes to behind a part of it that was read. -/
def quotedOutcome (quote : Nat) (value : List Char) (index : Nat) :
    Option (List Char × Nat) → Except Failure (List Char × Nat)
  | none => reject .unterminatedQuotedValue quote
  | some (more, length) =>
    if value ++ more = [] then reject .emptyQuotedValue quote else .ok (value ++ more, index + length)

theorem quotedOutcome_addQuoted (quote : Nat) (value : List Char) (index : Nat) (c : Char)
    (written : Nat) (reading : Option (List Char × Nat)) :
    quotedOutcome quote (value ++ [c]) (index + written) reading =
      quotedOutcome quote value index (reading.map (Token.addQuoted c written)) := by
  cases reading with
  | none => rfl
  | some answer =>
      simp [quotedOutcome, Token.addQuoted]
      omega

theorem readQuoted_eq (quote : Nat) (value : List Char) (left : text.drop index = rest) :
    readQuoted text quote value index = quotedOutcome quote value index (Token.readQuoted rest) := by
  induction rest using Token.readQuoted.induct generalizing index value with
  | case1 =>
      have atEnd : ¬ index < text.length := by
        rw [List.drop_eq_nil_iff] at left
        omega
      rw [readQuoted, if_neg atEnd]
      rfl
  | case2 rest =>
      rw [readQuoted, if_pos (lt_length_of_drop left), characterAt_of_drop left]
      simp [Token.readQuoted, quotedOutcome]
  | case3 rest induction =>
      have behind := drop_succ_of_drop left
      rw [readQuoted, if_pos (lt_length_of_drop left), characterAt_of_drop left]
      simp only [slice_succ behind]
      simp only [List.take_succ_cons, List.take_zero, List.mem_cons, characterAt_of_drop behind]
      rw [Token.readQuoted, ← quotedOutcome_addQuoted, ← induction _ (drop_succ_of_drop behind)]
      simp
  | case4 rest induction =>
      have behind := drop_succ_of_drop left
      rw [readQuoted, if_pos (lt_length_of_drop left), characterAt_of_drop left]
      simp only [slice_succ behind]
      simp only [List.take_succ_cons, List.take_zero, List.mem_cons, characterAt_of_drop behind]
      rw [Token.readQuoted, ← quotedOutcome_addQuoted, ← induction _ (drop_succ_of_drop behind)]
      simp
  | case5 c rest noQuote noHiddenQuote noHiddenBackslash induction =>
      have behind := drop_succ_of_drop left
      have shown : ¬ (c = '\\' ∧ slice text (index + 1) (index + 2) ∈ [['"'], ['\\']]) := by
        rintro ⟨rfl, hides⟩
        rw [slice_succ behind] at hides
        cases rest with
        | nil => simp at hides
        | cons d rest =>
            simp at hides
            rcases hides with rfl | rfl
            · exact noHiddenQuote rest rfl rfl
            · exact noHiddenBackslash rest rfl rfl
      have apart : c ≠ '"' := fun quoted => noQuote quoted
      rw [readQuoted, if_pos (lt_length_of_drop left), characterAt_of_drop left]
      simp only [if_neg apart, if_neg shown]
      rw [induction _ behind, Token.readQuoted, quotedOutcome_addQuoted]
      · exact noQuote
      · exact noHiddenQuote
      · exact noHiddenBackslash

theorem isAt_of_drop (d : Char) (left : text.drop index = c :: rest) :
    isAt d text index = .ok (c == d) := by
  rw [isAt, if_pos (lt_length_of_drop left), characterAt_of_drop left]
  rfl

theorem isAt_end (d : Char) (left : text.drop index = []) : isAt d text index = .ok false := by
  rw [isAt, if_neg (by simpa using left)]

/-- What a reading of a value comes to at an index. -/
def valueOutcome (start : Nat) :
    Except SyntaxFault (List Char × Nat) → Except Failure (List Char × Nat)
  | .error fault => reject fault start
  | .ok (value, length) => .ok (value, start + length)

theorem readValue_eq (left : text.drop index = rest) :
    readValue text index = valueOutcome index (Token.readValue rest) := by
  unfold Token.readValue
  split
  · rename_i quoted
    rw [readValue, isAt_of_drop '"' left]
    have read := readQuoted_eq index [] (drop_succ_of_drop left)
    change readQuoted text index [] (index + 1) = _
    rw [read]
    rcases Token.readQuoted quoted with _ | ⟨_ | ⟨c, value⟩, length⟩
    · rfl
    · rfl
    · simp [quotedOutcome, valueOutcome]
      omega
  · rename_i noQuote
    have unquoted : isAt '"' text index = .ok false := by
      cases rest with
      | nil => exact isAt_end '"' left
      | cons c rest =>
          have apart : c ≠ '"' := by
            rintro rfl
            exact noQuote rest rfl
          rw [isAt_of_drop '"' left, beq_false_of_ne apart]
    have word := slice_takeWhile Token.isWordChar left
    simp only [readValue, unquoted, pass_eq Token.isWordChar left, bind, Except.bind]
    generalize rest.takeWhile Token.isWordChar = found at word ⊢
    cases found with
    | nil => simp [valueOutcome]
    | cons c found => simpa [valueOutcome, pure, Except.pure] using word

theorem wordTest?_eq (value : List Char) : wordTest? value = Qualifier.ofKeyValue? .is value := by
  rw [wordTest?, Qualifier.ofKeyValue?]
  generalize value.map Char.toLower = word
  split
  · rfl
  · rfl
  · rfl
  · rfl
  · rename_i noIssue noPullRequest noOpen noClosed
    simp [wordTests, List.lookup_cons, beq_false_of_ne noIssue, beq_false_of_ne noPullRequest,
      beq_false_of_ne noOpen, beq_false_of_ne noClosed]

/-- The tokens that pieces stand for.  The word of a qualifier has a test. -/
inductive Piece.StandsFor : Piece → Token → Prop where
  | openParen : StandsFor .openParen .openParen
  | closeParen : StandsFor .closeParen .closeParen
  | keyword (word : Keyword) : StandsFor (.keyword word) (.keyword word)
  | predicate {key : Qualifier.Key} {value : List Char} {found : Qualifier}
      (known : Qualifier.ofKeyValue? key value = some found) :
      StandsFor (.predicate key value) (.qualifier found)

theorem test_eq_ok {key : Qualifier.Key} {value : List Char} {found : Qualifier}
    (known : Qualifier.ofKeyValue? key value = some found) : test key value = .ok found := by
  cases key with
  | label | milestone | assignee =>
      cases known
      rfl
  | is => rw [test, wordTest?_eq, known]

/-- A reading by index ends as another reading does: with the same error, or with an answer that agrees with
that of the other one. -/
inductive EndsAs {α β : Type} (agrees : α → β → Prop) :
    Except SyntaxError α → Except Failure β → Prop where
  | error (error : SyntaxError) : EndsAs agrees (.error error) (.error (.malformed error))
  | ok {answer : α} {indexed : β} (agreement : agrees answer indexed) :
      EndsAs agrees (.ok answer) (.ok indexed)

/-- A cut at an index yields the piece of a token that is read there, or its error. -/
def CutsAs (start : Nat) : Except SyntaxError (Token × Nat) → Except Failure (Piece × Nat) → Prop :=
  EndsAs fun read cut => cut.1.StandsFor read.1 ∧ cut.2 = start + read.2

/-- A colon in the first word of a text is the first one in the text. -/
theorem takeWhile_ne_colon_word {input : List Char} (joined : ':' ∈ input.takeWhile Token.isWordChar) :
    (input.takeWhile Token.isWordChar).takeWhile (· != ':') = input.takeWhile (· != ':') := by
  obtain ⟨behind, split⟩ := List.takeWhile_prefix Token.isWordChar (l := input)
  obtain ⟨name, word, wordEq, first⟩ := List.eq_append_cons_of_mem joined
  have apart : ∀ d ∈ name, d ≠ ':' := by
    rintro d member rfl
    exact first member
  rw [wordEq] at split ⊢
  rw [Text.takeWhile_ne_of_first apart, ← split, List.append_assoc, List.cons_append,
    Text.takeWhile_ne_of_first apart]

theorem cutsAs_readQualifier {word : List Char} (left : text.drop index = rest)
    (same : word.takeWhile (· != ':') = rest.takeWhile (· != ':')) :
    CutsAs index (Token.readQualifier index rest) (readQualifier text index word) := by
  simp only [readQualifier, Token.readQualifier, same]
  generalize nameEq : rest.takeWhile (· != ':') = name
  cases keyRead : Qualifier.Key.ofWord? name with
  | none => exact .error _
  | some key =>
      have behind : text.drop (index + name.length + 1) = rest.drop (name.length + 1) := by
        rw [Nat.add_assoc, ← List.drop_drop, left]
      simp only [readValue_eq behind, bind, Except.bind]
      cases valueRead : Token.readValue (rest.drop (name.length + 1)) with
      | error fault => exact .error _
      | ok answer =>
          obtain ⟨value, length⟩ := answer
          simp only [valueOutcome, wordTest?_eq]
          cases known : Qualifier.ofKeyValue? key value with
          | none =>
              obtain rfl := Token.key_eq_is_of_ofKeyValue?_eq_none known
              simp only [known, and_self, ↓reduceIte]
              exact .error _
          | some found =>
              have checked : ¬ (key = .is ∧ Qualifier.ofKeyValue? .is value = none) := by
                rintro ⟨rfl, unknown⟩
                rw [known] at unknown
                cases unknown
              rw [if_neg checked]
              refine .ok ⟨.predicate known, ?_⟩
              simp only [Nat.add_assoc]

theorem cutsAs_readWord (left : text.drop index = c :: rest) (apart : c ≠ '(' ∧ c ≠ ')') :
    CutsAs index (Token.read index (c :: rest)) (readWord text index) := by
  have word := slice_takeWhile Token.isWordChar left
  rw [Token.read_cons apart]
  simp only [readWord, pass_eq Token.isWordChar left, bind, Except.bind, word,
    Token.takeWhile_takeWhile_isWordChar]
  cases Keyword.ofWord? ((c :: rest).takeWhile fun c => Token.isWordChar c && c != '(') with
  | some found => exact .ok ⟨.keyword found, rfl⟩
  | none =>
      simp only
      split
      · rename_i joined
        have colon : ':' ∈ (c :: rest).takeWhile Token.isWordChar := by
          simp only [Bool.and_eq_true, List.contains_iff_mem] at joined
          exact joined.1
        exact cutsAs_readQualifier left (takeWhile_ne_colon_word colon)
      · exact .error _

theorem cutsAs_readPiece (left : text.drop index = c :: rest) :
    CutsAs index (Token.read index (c :: rest)) (readPiece text index) := by
  simp only [readPiece, characterAt_of_drop left, bind, Except.bind]
  split
  · exact .ok ⟨.openParen, rfl⟩
  · exact .ok ⟨.closeParen, rfl⟩
  · rename_i noOpen noClose
    exact cutsAs_readWord left ⟨noOpen, noClose⟩

/-- A piece stands for a token at the same place. -/
structure Names (placed : Placed) (located : Token.Located) : Prop where
  stands : placed.piece.StandsFor located.token
  position : placed.position = located.position

/-- A cut of a text from an index on has a piece for each token that is scanned there, or the same error. -/
def CutsAllAs : Except SyntaxError (List Token.Located) → Except Failure (List Placed) → Prop :=
  EndsAs fun tokens pieces => List.Forall₂ Names pieces tokens

theorem scanFrom_dropWhile_isBlank (position : Nat) (input : List Char) :
    Token.scanFrom 0 position input =
      Token.scanFrom 0 (position + (input.takeWhile Text.isBlank).length)
        (input.dropWhile Text.isBlank) := by
  induction input generalizing position with
  | nil => rfl
  | cons c input induction =>
      cases blank : Text.isBlank c with
      | false => simp [blank]
      | true =>
          rw [Token.scanFrom_blank blank, induction]
          simp only [List.takeWhile_cons_of_pos blank, List.dropWhile_cons_of_pos blank,
            List.length_cons]
          congr 1
          omega

theorem cutsAllAs_token {start : Nat} (passed : pass Text.isBlank text index = .ok start)
    (forward : index ≤ start) (left : text.drop start = c :: rest) (notBlank : Text.isBlank c = false)
    (more : ∀ (behind : List Char) (next : Nat), behind.length < (c :: rest).length →
      text.drop next = behind → CutsAllAs (Token.scanFrom 0 next behind) (piecesFrom text next)) :
    CutsAllAs (Token.scanFrom 0 start (c :: rest)) (piecesFrom text index) := by
  have cuts := cutsAs_readPiece left
  rw [piecesFrom, passed]
  simp only [if_pos (lt_length_of_drop left)]
  -- Both readings take a piece here, and one relation says how both of them end.
  generalize taken : Token.read start (c :: rest) = reading at cuts
  generalize readPiece text start = cut at cuts
  cases cuts with
  | error error =>
      simp only [Token.scanFrom, notBlank, taken]
      exact .error _
  | @ok answer indexed agreement =>
      obtain ⟨token, length⟩ := answer
      obtain ⟨piece, next⟩ := indexed
      obtain ⟨stands, rfl⟩ := agreement
      obtain ⟨word, behind, textEq, rfl, lexeme⟩ := Token.lexeme_of_read taken
      have lengths := congrArg List.length (left.trans textEq)
      rw [List.length_drop, List.length_append] at lengths
      obtain ⟨d, tail, wordEq, _⟩ := lexeme.head
      have present : 0 < word.length := by simp [wordEq]
      have inside := lt_length_of_drop left
      -- The index moves on and stays inside the text, so the loop is never stuck.
      have moves : index < start + word.length ∧ start + word.length ≤ text.length := by omega
      have shorter : behind.length < (c :: rest).length := by
        rw [textEq, List.length_append]
        omega
      have others := more behind (start + word.length) shorter
        (drop_add_of_drop (left.trans textEq))
      rw [textEq, Token.scanFrom_lexeme lexeme]
      simp only [if_pos moves]
      generalize Token.scanFrom 0 (start + word.length) behind = scanned at others ⊢
      generalize piecesFrom text (start + word.length) = pieces at others ⊢
      cases others with
      | error error => exact .error error
      | ok named => exact .ok (.cons ⟨stands, rfl⟩ named)

/-- The induction is on what is left of the text, since both readings go on behind a whole token. -/
theorem cutsAllAs_piecesFrom (left : text.drop index = rest) :
    CutsAllAs (Token.scanFrom 0 index rest) (piecesFrom text index) := by
  induction lengthEq : rest.length using Nat.strongRecOn generalizing index rest with
  | ind length induction =>
      subst lengthEq
      have passed := pass_eq Text.isBlank left
      have split : rest.takeWhile Text.isBlank ++ rest.dropWhile Text.isBlank = rest :=
        List.takeWhile_append_dropWhile
      have startLeft := drop_add_of_drop (left.trans split.symm)
      have noLonger := List.length_dropWhile_le Text.isBlank rest
      have boundary := Text.boundary_of_takeWhile split.symm
      rw [scanFrom_dropWhile_isBlank]
      cases behindBlanks : rest.dropWhile Text.isBlank with
      | nil =>
          rw [behindBlanks, List.drop_eq_nil_iff] at startLeft
          rw [piecesFrom, passed]
          simp only [if_neg (Nat.not_lt.mpr startLeft)]
          exact .ok .nil
      | cons c word =>
          rw [behindBlanks] at startLeft noLonger boundary
          exact cutsAllAs_token passed (Nat.le_add_right index _) startLeft (boundary c rfl)
            fun behind next shorter left =>
              induction behind.length (Nat.lt_of_lt_of_le shorter noLonger) left rfl

/-! ## Expressions -/

/-- Some tokens are those that the pieces of a text stand for from an index on. -/
structure Left (pieces : List Placed) (index : Nat) (tokens : List Token.Located) : Prop where
  named : List.Forall₂ Names (pieces.drop index) tokens
  inside : index + tokens.length = pieces.length

section
variable {pieces : List Placed} {tokens behind : List Token.Located} {located : Token.Located}
  {length : Nat}

theorem Left.peek_nil (left : Left pieces index []) : peek pieces index = .ok none := by
  have atEnd := left.inside
  rw [List.length_nil, Nat.add_zero] at atEnd
  rw [peek, atEnd, if_neg (Nat.lt_irrefl _)]

theorem Left.tail (left : Left pieces index (located :: behind)) : Left pieces (index + 1) behind := by
  have named := left.named
  have inside := left.inside
  rw [List.length_cons] at inside
  cases whole : pieces.drop index with
  | nil =>
      rw [whole] at named
      cases named
  | cons placed rest =>
      rw [whole] at named
      cases named with
      | cons _ others => exact ⟨by rwa [drop_succ_of_drop whole], by omega⟩

theorem Left.peek_cons (left : Left pieces index (located :: behind)) :
    ∃ piece : Piece, piece.StandsFor located.token ∧
      peek pieces index = .ok (some ⟨piece, located.position⟩) := by
  have named := left.named
  cases whole : pieces.drop index with
  | nil =>
      rw [whole] at named
      cases named
  | cons placed rest =>
      rw [whole] at named
      cases named with
      | cons names _ =>
          refine ⟨placed.piece, names.stands, ?_⟩
          rw [peek, if_pos (lt_length_of_drop whole), pieceAt, getElem?_of_drop whole,
            ← names.position]
          rfl

/-- Reading an expression by index comes to the same expression or the same error. -/
def ReadsAs (pieces : List Placed) :
    Except SyntaxError (Descent.Front tokens) → Except Failure (Expr × Nat) → Prop :=
  EndsAs fun front found => found.1 = front.expression ∧ Left pieces found.2 front.rest

def ReadsMoreAs (pieces : List Placed) :
    Except SyntaxError (Descent.More tokens) → Except Failure (List Expr × Nat) → Prop :=
  EndsAs fun more found => found.1 = more.expressions ∧ Left pieces found.2 more.rest

theorem Left.nextOperand? (left : Left pieces index tokens) :
    match Descent.nextOperand? tokens with
    | none => nextOperand? pieces index = .ok none
    | some ⟨behind, _⟩ =>
      ∃ next, nextOperand? pieces index = .ok (some next) ∧ Left pieces next behind := by
  cases tokens with
  | nil =>
      rw [Indexed.nextOperand?, left.peek_nil]
      rfl
  | cons located behind =>
      obtain ⟨piece, stands, found⟩ := left.peek_cons
      obtain ⟨token, position⟩ := located
      rw [Indexed.nextOperand?, found]
      cases stands with
      | openParen | predicate => exact ⟨index, rfl, left⟩
      | closeParen => rfl
      | keyword word =>
          cases word with
          | and => exact ⟨index + 1, rfl, left.tail⟩
          | or => rfl
          | not => exact ⟨index, rfl, left⟩

theorem Left.nextAlternative? (left : Left pieces index tokens) :
    match Descent.nextAlternative? tokens with
    | none => nextAlternative? pieces index = .ok none
    | some ⟨behind, _⟩ =>
      ∃ next, nextAlternative? pieces index = .ok (some next) ∧ Left pieces next behind := by
  cases tokens with
  | nil =>
      rw [Indexed.nextAlternative?, left.peek_nil]
      rfl
  | cons located behind =>
      obtain ⟨piece, stands, found⟩ := left.peek_cons
      obtain ⟨token, position⟩ := located
      rw [Indexed.nextAlternative?, found]
      cases stands with
      | openParen | predicate | closeParen => rfl
      | keyword word =>
          cases word with
          | and | not => rfl
          | or => exact ⟨index + 1, rfl, left.tail⟩

theorem readsAs_atom (left : Left pieces index tokens)
    (inner : ∀ (next : Nat) (behind : List Token.Located), behind.length < tokens.length →
      Left pieces next behind →
      ReadsAs pieces (Descent.readDisjunction length behind) (readDisjunction length pieces next)) :
    ReadsAs pieces (Descent.readAtom length tokens) (readAtom length pieces index) := by
  cases tokens with
  | nil =>
      rw [Descent.readAtom, readAtom]
      split <;> rename_i same <;> rw [left.peek_nil] at same <;> cases same
      exact .error _
  | cons located behind =>
      obtain ⟨piece, stands, found⟩ := left.peek_cons
      obtain ⟨token, position⟩ := located
      rw [readAtom]
      split <;> rename_i same <;> rw [found] at same <;> cases same <;> cases stands <;>
        rw [Descent.readAtom]
      · have read := inner (index + 1) behind (Nat.lt_succ_self _) left.tail
        generalize Descent.readDisjunction length behind = reading at read ⊢
        generalize readDisjunction length pieces (index + 1) = indexed at read ⊢
        cases read with
        | error error => exact .error error
        | @ok front found agreement =>
            obtain ⟨expression, rest, shorter⟩ := front
            obtain ⟨inner, next⟩ := found
            obtain ⟨rfl, behindLeft⟩ := agreement
            cases rest with
            | nil =>
                simp only [behindLeft.peek_nil]
                exact .error _
            | cons closing others =>
                obtain ⟨closer, closes, closingFound⟩ := behindLeft.peek_cons
                obtain ⟨closingToken, closingPosition⟩ := closing
                simp only [closingFound]
                cases closes with
                | closeParen => exact .ok ⟨rfl, behindLeft.tail⟩
                | openParen | keyword | predicate => exact .error _
      · rename_i known
        simp only [test_eq_ok known]
        exact .ok ⟨rfl, left.tail⟩
      · exact .error _
      · exact .error _

theorem readsAs_negation (left : Left pieces index tokens)
    (inner : ∀ (next : Nat) (behind : List Token.Located), behind.length < tokens.length →
      Left pieces next behind →
      ReadsAs pieces (Descent.readNegation length behind) (readNegation length pieces next))
    (atom : ReadsAs pieces (Descent.readAtom length tokens) (readAtom length pieces index)) :
    ReadsAs pieces (Descent.readNegation length tokens) (readNegation length pieces index) := by
  cases tokens with
  | nil =>
      rw [readNegation]
      split <;> rename_i same <;> rw [left.peek_nil] at same <;> cases same
      rw [Descent.readNegation]
      · exact atom
      · intro position behind named
        cases named
  | cons located behind =>
      obtain ⟨piece, stands, found⟩ := left.peek_cons
      obtain ⟨token, position⟩ := located
      rw [readNegation]
      split <;> rename_i same <;> rw [found] at same <;> cases same
      · cases stands
        have read := inner (index + 1) behind (Nat.lt_succ_self _) left.tail
        rw [Descent.readNegation]
        generalize Descent.readNegation length behind = reading at read ⊢
        generalize readNegation length pieces (index + 1) = indexed at read ⊢
        cases read with
        | error error => exact .error error
        | ok agreement => exact .ok ⟨congrArg Expr.not agreement.1, agreement.2⟩
      · rename_i noNot
        rw [Descent.readNegation]
        · exact atom
        · intro position behind named
          cases named
          cases stands
          exact noNot _ rfl

/-- A part and what follows it are read as a run of such parts. -/
theorem readsMoreAs_cons {reading : Except SyntaxError (Descent.Front behind)}
    {indexed : Except Failure (Expr × Nat)}
    {readOthers : (rest : List Token.Located) → Except SyntaxError (Descent.More rest)}
    {indexedOthers : Nat → Except Failure (List Expr × Nat)}
    (left : Left pieces index tokens) (noLonger : behind.length ≤ tokens.length)
    (others : ∀ (next : Nat) (rest : List Token.Located), rest.length < tokens.length →
      Left pieces next rest → ReadsMoreAs pieces (readOthers rest) (indexedOthers next)) :
    ReadsAs pieces reading indexed →
    ReadsMoreAs pieces
      (match reading with
      | .error error => .error error
      | .ok ⟨part, rest, shorter⟩ =>
        match readOthers rest with
        | .error error => .error error
        | .ok ⟨others, last, behindRest⟩ =>
          .ok ⟨part :: others, last,
            Nat.le_trans behindRest (Nat.le_of_lt (Nat.lt_of_lt_of_le shorter noLonger))⟩ :
          Except SyntaxError (Descent.More tokens))
      (match indexed with
      | .error failure => .error failure
      | .ok (part, next) =>
        if index < next ∧ next ≤ pieces.length then
          (indexedOthers next).map fun (others, last) => (part :: others, last)
        else .error (.stuck next)) := by
  intro part
  cases part with
  | error error => exact .error error
  | @ok front found agreement =>
      obtain ⟨expression, rest, shorter⟩ := front
      obtain ⟨part, next⟩ := found
      obtain ⟨rfl, restLeft⟩ := agreement
      have read := others next rest (Nat.lt_of_lt_of_le shorter noLonger) restLeft
      have inside := left.inside
      have restInside : next + rest.length = pieces.length := restLeft.inside
      have moves : index < next ∧ next ≤ pieces.length := by omega
      simp only [if_pos moves]
      generalize readOthers rest = reading at read ⊢
      generalize indexedOthers next = indexed at read ⊢
      cases read with
      | error error => exact .error error
      | ok agreement => exact .ok ⟨congrArg (_ :: ·) agreement.1, agreement.2⟩

theorem readsMoreAs_operands (left : Left pieces index tokens)
    (operand : ∀ (next : Nat) (behind : List Token.Located), behind.length ≤ tokens.length →
      Left pieces next behind →
      ReadsAs pieces (Descent.readNegation length behind) (readNegation length pieces next))
    (more : ∀ (next : Nat) (behind : List Token.Located), behind.length < tokens.length →
      Left pieces next behind →
      ReadsMoreAs pieces (Descent.readOperands length behind) (readOperands length pieces next)) :
    ReadsMoreAs pieces (Descent.readOperands length tokens) (readOperands length pieces index) := by
  have goesOn := left.nextOperand?
  rw [Descent.readOperands, readOperands]
  cases starts : Descent.nextOperand? tokens with
  | none =>
      rw [starts] at goesOn
      simp only [show nextOperand? pieces index = .ok none from goesOn]
      exact .ok ⟨rfl, left⟩
  | some found =>
      obtain ⟨behind, noLonger⟩ := found
      rw [starts] at goesOn
      obtain ⟨start, startFound, behindLeft⟩ := goesOn
      have inside := left.inside
      have behindInside := behindLeft.inside
      have notBack : index ≤ start := by omega
      simp only [startFound, if_pos notBack]
      exact readsMoreAs_cons left noLonger more (operand start behind noLonger behindLeft)

theorem readsMoreAs_alternatives (left : Left pieces index tokens)
    (conjunction : ∀ (next : Nat) (behind : List Token.Located), behind.length < tokens.length →
      Left pieces next behind →
      ReadsAs pieces (Descent.readConjunction length behind) (readConjunction length pieces next))
    (more : ∀ (next : Nat) (behind : List Token.Located), behind.length < tokens.length →
      Left pieces next behind →
      ReadsMoreAs pieces (Descent.readAlternatives length behind)
        (readAlternatives length pieces next)) :
    ReadsMoreAs pieces (Descent.readAlternatives length tokens)
      (readAlternatives length pieces index) := by
  have goesOn := left.nextAlternative?
  rw [Descent.readAlternatives, readAlternatives]
  cases starts : Descent.nextAlternative? tokens with
  | none =>
      rw [starts] at goesOn
      simp only [show nextAlternative? pieces index = .ok none from goesOn]
      exact .ok ⟨rfl, left⟩
  | some found =>
      obtain ⟨behind, shorter⟩ := found
      rw [starts] at goesOn
      obtain ⟨start, startFound, behindLeft⟩ := goesOn
      have inside := left.inside
      have behindInside := behindLeft.inside
      have moves : index < start ∧ start ≤ pieces.length := by omega
      simp only [startFound, if_pos moves]
      exact readsMoreAs_cons left (Nat.le_of_lt shorter) more
        (conjunction start behind shorter behindLeft)

theorem all?_of_two (first second : Expr) (others : List Expr) :
    Expr.all? (first :: second :: others) = .ok (.and (first :: second :: others)) :=
  rfl

theorem any?_of_two (first second : Expr) (others : List Expr) :
    Expr.any? (first :: second :: others) = .ok (.or (first :: second :: others)) :=
  rfl

/-- Joining a part to others finds enough children for a node. -/
theorem join_eq {node : List Expr → Expr} {node? : List Expr → Except Expr.ArityError Expr}
    (wide : ∀ (first second : Expr) (others : List Expr),
      node? (first :: second :: others) = .ok (node (first :: second :: others)))
    (first : Expr) (others : List Expr) :
    join node? (first :: others) = .ok (Draft.join node (first :: others)) := by
  cases others with
  | nil => rfl
  | cons second others =>
      rw [join, wide]
      · rfl
      · intro single same
        cases same

/-- A first part and the others are joined to one expression, for which there are enough of them. -/
theorem readsAs_join {node : List Expr → Expr} {node? : List Expr → Except Expr.ArityError Expr}
    (wide : ∀ (first second : Expr) (others : List Expr),
      node? (first :: second :: others) = .ok (node (first :: second :: others)))
    {reading : Except SyntaxError (Descent.Front tokens)} {indexed : Except Failure (Expr × Nat)}
    {readOthers : (rest : List Token.Located) → Except SyntaxError (Descent.More rest)}
    {indexedOthers : Nat → Except Failure (List Expr × Nat)}
    (left : Left pieces index tokens)
    (others : ∀ (next : Nat) (rest : List Token.Located), rest.length < tokens.length →
      Left pieces next rest → ReadsMoreAs pieces (readOthers rest) (indexedOthers next)) :
    ReadsAs pieces reading indexed →
    ReadsAs pieces
      (match reading with
      | .error error => .error error
      | .ok ⟨first, rest, shorter⟩ =>
        match readOthers rest with
        | .error error => .error error
        | .ok ⟨others, last, behindRest⟩ =>
          .ok ⟨Draft.join node (first :: others), last, Nat.lt_of_le_of_lt behindRest shorter⟩ :
          Except SyntaxError (Descent.Front tokens))
      (match indexed with
      | .error failure => .error failure
      | .ok (first, next) =>
        if index < next then
          match indexedOthers next with
          | .error failure => .error failure
          | .ok (others, last) => (join node? (first :: others)).map fun node => (node, last)
        else .error (.stuck next)) := by
  intro first
  cases first with
  | error error => exact .error error
  | @ok front found agreement =>
      obtain ⟨expression, rest, shorter⟩ := front
      obtain ⟨first, next⟩ := found
      obtain ⟨rfl, restLeft⟩ := agreement
      have read := others next rest shorter restLeft
      have inside := left.inside
      have restInside : next + rest.length = pieces.length := restLeft.inside
      have moves : index < next := by omega
      simp only [if_pos moves]
      generalize readOthers rest = reading at read ⊢
      generalize indexedOthers next = indexed at read ⊢
      cases read with
      | error error => exact .error error
      | @ok more found agreement =>
          obtain ⟨expressions, last, _⟩ := more
          obtain ⟨others, stop⟩ := found
          obtain ⟨rfl, lastLeft⟩ := agreement
          simp only [join_eq wide]
          exact .ok ⟨rfl, lastLeft⟩

theorem readsAs_conjunction (left : Left pieces index tokens)
    (operand : ReadsAs pieces (Descent.readNegation length tokens) (readNegation length pieces index))
    (more : ∀ (next : Nat) (behind : List Token.Located), behind.length < tokens.length →
      Left pieces next behind →
      ReadsMoreAs pieces (Descent.readOperands length behind) (readOperands length pieces next)) :
    ReadsAs pieces (Descent.readConjunction length tokens) (readConjunction length pieces index) := by
  rw [Descent.readConjunction, readConjunction]
  exact readsAs_join all?_of_two left more operand

theorem readsAs_disjunction (left : Left pieces index tokens)
    (conjunction : ReadsAs pieces (Descent.readConjunction length tokens)
      (readConjunction length pieces index))
    (more : ∀ (next : Nat) (behind : List Token.Located), behind.length < tokens.length →
      Left pieces next behind →
      ReadsMoreAs pieces (Descent.readAlternatives length behind)
        (readAlternatives length pieces next)) :
    ReadsAs pieces (Descent.readDisjunction length tokens) (readDisjunction length pieces index) := by
  rw [Descent.readDisjunction, readDisjunction]
  exact readsAs_join any?_of_two left more conjunction

/-- What every level of the reading by index does from an index on. -/
structure ReadsAllAs (length : Nat) (pieces : List Placed) (index : Nat) (tokens : List Token.Located) :
    Prop where
  operand : ReadsAs pieces (Descent.readNegation length tokens) (readNegation length pieces index)
  operands : ReadsMoreAs pieces (Descent.readOperands length tokens) (readOperands length pieces index)
  conjunction :
    ReadsAs pieces (Descent.readConjunction length tokens) (readConjunction length pieces index)
  alternatives :
    ReadsMoreAs pieces (Descent.readAlternatives length tokens) (readAlternatives length pieces index)
  disjunction :
    ReadsAs pieces (Descent.readDisjunction length tokens) (readDisjunction length pieces index)

/-- The induction is that of the reading by descent: on the number of tokens, and for one number from the
inner levels to the outer ones. -/
theorem readsAllAs (left : Left pieces index tokens) : ReadsAllAs length pieces index tokens := by
  induction shorter : tokens.length using Nat.strongRecOn generalizing index tokens with
  | ind count induction =>
      subst shorter
      have inner (next : Nat) (behind : List Token.Located) (shorter : behind.length < tokens.length)
          (left : Left pieces next behind) : ReadsAllAs length pieces next behind :=
        induction behind.length shorter left rfl
      have operand (next : Nat) (behind : List Token.Located)
          (noLonger : behind.length ≤ tokens.length) (left : Left pieces next behind) :
          ReadsAs pieces (Descent.readNegation length behind) (readNegation length pieces next) :=
        readsAs_negation left
          (fun further rest shorter left =>
            (inner further rest (Nat.lt_of_lt_of_le shorter noLonger) left).operand)
          (readsAs_atom left fun further rest shorter left =>
            (inner further rest (Nat.lt_of_lt_of_le shorter noLonger) left).disjunction)
      have operands := readsMoreAs_operands left operand
        fun next behind shorter left => (inner next behind shorter left).operands
      have conjunction := readsAs_conjunction left (operand index tokens (Nat.le_refl _) left)
        fun next behind shorter left => (inner next behind shorter left).operands
      have alternatives := readsMoreAs_alternatives left
        (fun next behind shorter left => (inner next behind shorter left).conjunction)
        fun next behind shorter left => (inner next behind shorter left).alternatives
      have disjunction := readsAs_disjunction left conjunction
        fun next behind shorter left => (inner next behind shorter left).alternatives
      exact ⟨operand index tokens (Nat.le_refl _) left, operands, conjunction, alternatives, disjunction⟩

theorem read_eq (left : Left pieces 0 tokens) :
    read length pieces = (Descent.read length tokens).mapError .malformed := by
  have all : ReadsAllAs length pieces 0 tokens := readsAllAs left
  have taken := all.disjunction
  rw [read, Descent.read]
  generalize Descent.readDisjunction length tokens = reading at taken ⊢
  generalize readDisjunction length pieces 0 = indexed at taken ⊢
  cases taken with
  | error error => rfl
  | @ok front found agreement =>
      obtain ⟨expression, rest, shorter⟩ := front
      obtain ⟨whole, next⟩ := found
      obtain ⟨rfl, restLeft⟩ := agreement
      cases rest with
      | nil =>
          simp only [restLeft.peek_nil]
          rfl
      | cons located behind =>
          obtain ⟨piece, stands, found⟩ := restLeft.peek_cons
          obtain ⟨token, position⟩ := located
          simp only [found]
          cases stands <;> rfl

/-- A reading by index comes to the expression of a text or to its error, and never to a failure of its
own. -/
theorem parse_eq (text : String) : parse text = (Expr.parse text).mapError .malformed := by
  have cut := cutsAllAs_piecesFrom (List.drop_zero (l := text.toList))
  rw [← Descent.parse_eq, parse, Descent.parse, Token.scan]
  generalize Token.scanFrom 0 0 text.toList = scanned at cut ⊢
  generalize piecesFrom text.toList 0 = indexed at cut ⊢
  cases cut with
  | error error => rfl
  | ok named => exact read_eq ⟨named, by rw [named.length_eq]; simp⟩

end

end IssueWatch.Indexed
