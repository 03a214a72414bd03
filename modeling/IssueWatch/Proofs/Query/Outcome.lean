import IssueWatch.Proofs.Query.Indexed
import IssueWatch.Proofs.Query.Rejection
import IssueWatch.Proofs.Query.RoundTrip

/-!
# What a reading comes to

Every text is either rejected at a place in it or read to a sound expression: no node has too few children
and no name is empty.  Both come from the grammar and the lexemes: a node is derived from several parts, and a
leaf is the test of a lexeme, whose value is not empty.  So the canonical text of the expression is read back
to it.
-/
namespace IssueWatch

namespace Phrase

/-- The expressions that a phrase consists of. -/
def members : Phrase → List Expr
  | .disjunction expression | .conjunction expression | .negation expression | .atom expression =>
    [expression]
  | .alternatives members | .operands members => members

/-- The grammar derives well-formed expressions only. -/
theorem Derives.wellFormed {tokens : List Token} {phrase : Phrase} (derivation : Derives tokens phrase) :
    ∀ expression ∈ phrase.members, expression.WellFormed := by
  induction derivation with
  | onlyAlternative _ induction | onlyOperand _ induction | lastAlternative _ induction
  | lastOperand _ induction | plain _ induction | group _ induction => exact induction
  | severalAlternatives _ several induction =>
      exact List.forall_mem_singleton.mpr (.or several induction)
  | severalOperands _ several induction =>
      exact List.forall_mem_singleton.mpr (.and several induction)
  -- A run of parts has members of its own: whether they are enough is asked where they become one node.
  | nextAlternative _ _ first others | joinedOperand _ _ first others
  | adjacentOperand _ _ first others =>
      exact List.forall_mem_cons.mpr ⟨List.forall_mem_singleton.mp first, others⟩
  | negated _ induction =>
      exact List.forall_mem_singleton.mpr (.not (List.forall_mem_singleton.mp induction))
  | qualifier test => exact List.forall_mem_singleton.mpr (.leaf test)

end Phrase

/-- The test of a qualifier. -/
def Token.test? : Token → Option Qualifier
  | .qualifier test => some test
  | .openParen | .closeParen | .keyword _ => none

/-- The leaves of derived expressions are the tests of the tokens, in their order. -/
theorem Phrase.Derives.leaves_eq {tokens : List Token} {phrase : Phrase}
    (derivation : Derives tokens phrase) :
    phrase.members.flatMap Expr.leaves = tokens.filterMap Token.test? := by
  induction derivation with
  | onlyAlternative _ induction | onlyOperand _ induction | lastAlternative _ induction
  | lastOperand _ induction | plain _ induction => exact induction
  | severalAlternatives _ several induction | severalOperands _ several induction =>
      simpa [members, Expr.leaves, Expr.leavesOfList_eq_flatMap] using induction
  | nextAlternative _ _ first others | joinedOperand _ _ first others
  | adjacentOperand _ _ first others =>
      simpa [members, List.filterMap_cons, Token.test?] using congrArg₂ (· ++ ·) first others
  | negated _ induction =>
      simpa [members, Expr.leaves, List.filterMap_cons, Token.test?] using induction
  | qualifier test => rfl
  | group _ induction => simpa [members, List.filterMap_cons, Token.test?] using induction

namespace Token

theorem value_ne_empty_of_written {test : Qualifier} {value : List Char} (written : test.Written value)
    (present : value ≠ []) (named : test.isNamed = true) : test.value ≠ "" := by
  rw [Qualifier.Written, if_pos named] at written
  intro empty
  rw [empty] at written
  exact present written

/-- No lexeme is that of a test for an empty name. -/
theorem Lexeme.value_ne_empty {word rest : List Char} {test : Qualifier}
    (lexeme : Lexeme word (.qualifier test) rest) (named : test.isNamed = true) : test.value ≠ "" := by
  cases lexeme with
  | qualifier spelled reads fits =>
      cases reads with
      | bare present | quoted present => exact value_ne_empty_of_written fits present named

/-- The lexemes of a row stand inside the text. -/
theorem Row.position_lt {position : Nat} {text rest : List Char} {row : List Occurrence}
    (cut : Row position text row rest) :
    ∀ occurrence ∈ row, occurrence.position < position + text.length := by
  induction cut with
  | stop => exact List.forall_mem_nil _
  | blank _ _ induction =>
      intro occurrence member
      have inside := induction occurrence member
      rw [List.length_cons]
      omega
  | @lexeme position word text rest token row spelled _ induction =>
      obtain ⟨c, tail, rfl, _⟩ := spelled.head
      rw [List.length_append, List.length_cons]
      refine List.forall_mem_cons.mpr ⟨by simp only; omega, fun occurrence member => ?_⟩
      have inside := induction occurrence member
      rw [List.length_cons] at inside
      omega

theorem Row.value_ne_empty {position : Nat} {text rest : List Char} {row : List Occurrence}
    (cut : Row position text row rest) :
    ∀ occurrence ∈ row, ∀ test ∈ occurrence.token.test?, test.isNamed = true → test.value ≠ "" := by
  induction cut with
  | stop => exact List.forall_mem_nil _
  | blank _ _ induction => exact induction
  | lexeme spelled _ induction =>
      refine List.forall_mem_cons.mpr ⟨fun test found named => ?_, induction⟩
      rename_i token _ _
      cases token with
      | qualifier other =>
          cases found
          exact spelled.value_ne_empty named
      | openParen | closeParen | keyword => cases found

theorem Row.position_le_of_split {text : List Char} {row : List Occurrence} {before after : List Located}
    {located : Located} (cut : Row 0 text row [])
    (split : row.map Occurrence.toLocated = before ++ located :: after) :
    located.position ≤ text.length := by
  have member : located ∈ row.map Occurrence.toLocated := by simp [split]
  obtain ⟨occurrence, inRow, rfl⟩ := List.mem_map.mp member
  have inside := cut.position_lt occurrence inRow
  omega

/-- What is wrong with a text is wrong inside it or at its end. -/
theorem Misfit.offset_le {text : List Char} {fault : SyntaxFault} {offset : Nat}
    (wrong : Misfit text fault offset) : offset ≤ text.length := by
  cases wrong with
  | noColon | startsQuoted | unknownKey | unknownValue => exact Nat.zero_le _
  | noValue _ joined | emptyValue _ joined | openValue _ joined =>
      rw [joined, List.length_append, List.length_cons]
      omega

end Token

namespace Expr

/-- A text is rejected at one of its characters or at its end. -/
theorem Rejects.position_le {text : List Char} {error : SyntaxError} (rejects : Rejects text error) :
    error.position ≤ text.length := by
  cases rejects with
  | misfit textEq _ wrong =>
      rw [textEq, List.length_append]
      exact Nat.add_le_add_left wrong.offset_le _
  | strayClose cut split | misplaced cut split => exact cut.position_le_of_split split
  | unclosed cut split =>
      have inside := cut.position_le_of_split split
      exact inside
  | unfinished => exact Nat.le_refl _

/-- A text is read to a well-formed expression without empty names. -/
theorem sound_of_parse {text : String} {expression : Expr} (read : parse text = .ok expression) :
    expression.WellFormed ∧
      ∀ qualifier ∈ expression.leaves, qualifier.isNamed = true → qualifier.value ≠ "" := by
  obtain ⟨tokens, scanned, denoted⟩ := exists_scan_of_parse read
  obtain ⟨row, cut, rfl⟩ := Token.row_of_scanFrom scanned
  refine ⟨List.forall_mem_singleton.mp denoted.wellFormed, fun qualifier member named => ?_⟩
  have leaves := denoted.leaves_eq
  rw [Phrase.members, List.flatMap_singleton, List.map_map] at leaves
  rw [leaves, List.filterMap_map] at member
  obtain ⟨occurrence, inRow, found⟩ := List.mem_filterMap.mp member
  exact cut.value_ne_empty occurrence inRow qualifier found named

/-- The canonical text of an expression that a text was read to is read to it again. -/
theorem parse_format_of_sound {expression : Expr} (wellFormed : expression.WellFormed)
    (named : ∀ qualifier ∈ expression.leaves, qualifier.isNamed = true → qualifier.value ≠ "") :
    parse expression.format = .ok expression := by
  have scans : Token.Scans 0 expression.formatChars [] expression.tokens expression.emptyNameOffsets :=
    scans_formatChars expression 0 trivial
  rw [(emptyNameOffsets_eq_nil_iff expression).mpr named] at scans
  exact parse_eq_ok scans (denoted_tokens wellFormed).1

/-- Reading a text by index ends in one of two ways: it finds an error of the text, at one of its characters
or at its end, or an expression.  The expression is that of the text, no node of it has too few children, no
name in it is empty, and its canonical text is read to it again. -/
theorem parse_rejects_or_sound (text : String) :
    (∃ error : SyntaxError, Indexed.parse text = .error (.malformed error) ∧
      parse text = .error error ∧ error.position ≤ text.length) ∨
    ∃ expression : Expr, Indexed.parse text = .ok expression ∧ parse text = .ok expression ∧
      expression.WellFormed ∧
      (∀ qualifier ∈ expression.leaves, qualifier.isNamed = true → qualifier.value ≠ "") ∧
      parse expression.format = .ok expression := by
  rw [Indexed.parse_eq]
  cases read : parse text with
  | error error =>
      have inside := (rejects_of_parse read).position_le
      rw [String.length_toList] at inside
      exact .inl ⟨error, rfl, rfl, inside⟩
  | ok expression =>
      obtain ⟨wellFormed, named⟩ := sound_of_parse read
      exact .inr ⟨expression, rfl, rfl, wellFormed, named, parse_format_of_sound wellFormed named⟩

end Expr
end IssueWatch
