import IssueWatch.Proofs.Query.Misfits
import IssueWatch.Proofs.Query.RoundTrip

/-!
# Queries in parentheses

An accepted query is read in parentheses as it is read alone.  Its lexemes stay what they are in front of
anything that ends a word, so its tokens only move, and whatever keyword touches the parentheses is a lexeme
of its own.
-/
namespace IssueWatch

open Phrase (Derives)

namespace Text

theorem EndsWord.append {text rest : List Char} (ends : EndsWord text) (behind : EndsWord rest) :
    EndsWord (text ++ rest) := by
  cases text with
  | nil => exact behind
  | cons c text => exact ends

theorem EndsKeyword.append {text rest : List Char} (ends : EndsKeyword text) (behind : EndsWord rest) :
    EndsKeyword (text ++ rest) := by
  cases text with
  | cons c text => exact ends
  | nil =>
      cases rest with
      | nil => trivial
      | cons c rest => exact behind.imp_right .inr

theorem Value.append {written value text rest : List Char} (reads : Value written value text)
    (behind : EndsWord rest) : Value written value (text ++ rest) := by
  cases reads with
  | bare present unquoted whole ends => exact .bare present unquoted whole (ends.append behind)
  | quoted present reads => exact .quoted present reads

end Text

namespace Token

/-- A token that stands further on in a text. -/
def Located.moved (distance : Nat) (located : Located) : Located :=
  { located with position := located.position + distance }

def Occurrence.moved (distance : Nat) (occurrence : Occurrence) : Occurrence :=
  { occurrence with position := occurrence.position + distance }

/-- A lexeme stays one when the text behind it grows by something that ends a word. -/
theorem Lexeme.append {word text rest : List Char} {token : Token} (lexeme : Lexeme word token text)
    (behind : Text.EndsWord rest) : Lexeme word token (text ++ rest) := by
  cases lexeme with
  | openParen => exact .openParen _
  | closeParen => exact .closeParen _
  | keyword spelled ends => exact .keyword spelled (ends.append behind)
  | qualifier spelled reads fits => exact .qualifier spelled (reads.append behind) fits

/-- A text that is cut into lexemes is cut into the same ones further on and in front of anything that ends
a word. -/
theorem Row.moved {position : Nat} {text rest : List Char} {row : List Occurrence}
    (cut : Row position text row []) (distance : Nat) (behind : Text.EndsWord rest) :
    Row (position + distance) (text ++ rest) (row.map (Occurrence.moved distance)) rest := by
  -- The induction keeps the end of the row, at which there is nothing left of the text.
  generalize endEq : ([] : List Char) = last at cut
  induction cut with
  | stop position last =>
      subst endEq
      exact .stop _ rest
  | @blank position c text last row separates _ induction =>
      have more := induction endEq
      rw [Nat.add_right_comm] at more
      exact .blank separates more
  | @lexeme position word text last token row spelled _ induction =>
      have more := induction endEq
      rw [Nat.add_right_comm] at more
      rw [List.append_assoc]
      exact .lexeme (spelled.append behind) more

theorem scanFrom_moved {text rest : List Char} {tokens : List Located} (scanned : scan text = .ok tokens)
    (position : Nat) (behind : Text.EndsWord rest) :
    scanFrom 0 position (text ++ rest) =
      (scanFrom 0 (position + text.length) rest).map (tokens.map (Located.moved position) ++ ·) := by
  obtain ⟨row, cut, rfl⟩ := row_of_scanFrom scanned
  have moved := cut.moved position behind
  rw [Nat.zero_add] at moved
  obtain ⟨front, split, scannedOn⟩ := scanFrom_row moved
  obtain rfl : text = front := List.append_cancel_right split
  rw [scannedOn, List.map_map, List.map_map]
  rfl

/-- An accepted text has the same tokens in parentheses, one character further on. -/
theorem scan_inParens {text : List Char} {tokens : List Located} (scanned : scan text = .ok tokens) :
    scan ('(' :: text ++ [')']) =
      .ok (⟨.openParen, 0⟩ :: tokens.map (Located.moved 1) ++ [⟨.closeParen, text.length + 1⟩]) := by
  have opened := scanFrom_lexeme (.openParen (text ++ [')'])) 0
  have closing : Text.EndsWord [')'] := .inr rfl
  have inside := scanFrom_moved scanned 1 closing
  have closed := scanFrom_lexeme (.closeParen []) (1 + text.length)
  rw [List.append_nil] at closed
  rw [List.singleton_append, List.length_singleton, Nat.zero_add, inside, closed] at opened
  rw [scan, List.cons_append, opened, Nat.add_comm 1]
  simp [scanFrom, Except.map]

theorem scans_of_scan {text rest : List Char} {tokens : List Located} (scanned : scan text = .ok tokens)
    (position : Nat) (behind : Text.EndsWord rest) :
    Scans position text rest (tokens.map Located.token) [] := by
  refine ⟨tokens.map (Located.moved position), ?_, scanFrom_moved scanned position behind⟩
  rw [List.map_map]
  rfl

theorem scans_inParens {text : List Char} {tokens : List Located} (scanned : scan text = .ok tokens)
    (position : Nat) (rest : List Char) :
    Scans position ('(' :: text ++ [')']) rest
      (.openParen :: tokens.map Located.token ++ [.closeParen]) [] :=
  .group (scans_of_scan scanned (position + 1) (.inr rfl))

end Token

namespace Expr

open Token (Scans)

/-- The tokens of an expression in parentheses form an operand. -/
theorem Denoted.grouped {expression : Expr} {tokens : List Token} (denoted : expression.Denoted tokens) :
    Derives (.openParen :: tokens ++ [.closeParen]) (.negation expression) :=
  .plain (.group denoted)

theorem denoted_of_negation {tokens : List Token} {expression : Expr}
    (part : Derives tokens (.negation expression)) : expression.Denoted tokens :=
  part.conjunction_of_negation.disjunction_of_conjunction

/-- What a text in front of an opening parenthesis is scanned to. -/
def LeadsToGroup (between : String) (joint : List Token) : Prop :=
  ∀ (position : Nat) (rest : List Char), Scans position between.toList ('(' :: rest) joint []

/-- Two accepted texts in parentheses denote what their expressions denote with the tokens between them. -/
theorem parse_joined {first second between : String} {left right whole : Expr} {joint : List Token}
    (firstRead : parse first = .ok left) (secondRead : parse second = .ok right)
    (leads : LeadsToGroup between joint)
    (denotes : ∀ {tokens more : List Token}, Derives tokens (.negation left) →
      Derives more (.negation right) → whole.Denoted (tokens ++ joint ++ more)) :
    parse ("(" ++ first ++ ")" ++ between ++ "(" ++ second ++ ")") = .ok whole := by
  obtain ⟨tokens, firstScanned, firstDenoted⟩ := exists_scan_of_parse firstRead
  obtain ⟨more, secondScanned, secondDenoted⟩ := exists_scan_of_parse secondRead
  have front := (Token.scans_inParens firstScanned 0 _).append
    (leads _ (second.toList ++ [')'] ++ []))
  have scans := front.append (Token.scans_inParens secondScanned _ [])
  rw [← parse_eq_ok scans (denotes firstDenoted.grouped secondDenoted.grouped)]
  congr 1
  simp [← String.toList_inj]

theorem parse_negated {text between : String} {expression : Expr} (read : parse text = .ok expression)
    (leads : LeadsToGroup between [.keyword .not]) :
    parse (between ++ "(" ++ text ++ ")") = .ok (.not expression) := by
  obtain ⟨tokens, scanned, denoted⟩ := exists_scan_of_parse read
  have scans := (leads 0 (text.toList ++ [')'] ++ [])).append
    (Token.scans_inParens scanned _ [])
  rw [← parse_eq_ok scans (denoted_of_negation (.negated denoted.grouped))]
  congr 1
  simp [← String.toList_inj]

/-- Two operands are joined with or without the keyword, wherever blanks stand. -/
theorem Denoted.and_pair {tokens separator more : List Token} {left right : Expr}
    (joins : Derives.JoinsOperands separator) (first : Derives tokens (.negation left))
    (second : Derives more (.negation right)) :
    Denoted (.and [left, right]) (tokens ++ separator ++ more) :=
  (Derives.severalOperands (.operands_cons joins first (.lastOperand second))
    (Nat.le_refl 2)).disjunction_of_conjunction

theorem Denoted.or_pair {tokens more : List Token} {left right : Expr}
    (first : Derives tokens (.negation left)) (second : Derives more (.negation right)) :
    Denoted (.or [left, right]) (tokens ++ [.keyword .or] ++ more) := by
  have run := Derives.nextAlternative first.conjunction_of_negation
    (.lastAlternative second.conjunction_of_negation)
  rw [List.append_assoc]
  exact .severalAlternatives run (Nat.le_refl 2)

theorem leadsToGroup_keyword (keyword : Keyword) :
    LeadsToGroup keyword.text [.keyword keyword] := by
  intro position rest
  have ends : Text.EndsKeyword ('(' :: rest) := .inr (.inl rfl)
  exact Token.Lexeme.scans (.keyword keyword.spelled_text ends) position

theorem leadsToGroup_keyword_space (keyword : Keyword) :
    LeadsToGroup (keyword.text ++ " ") [.keyword keyword] := by
  intro position rest
  rw [String.toList_append]
  exact Token.scans_keyword keyword position _

theorem leadsToGroup_separator (keyword : Keyword) :
    LeadsToGroup (" " ++ keyword.text ++ " ") [.keyword keyword] := by
  intro position rest
  rw [String.toList_append, String.toList_append]
  exact Token.scans_separator keyword position _

theorem leadsToGroup_space : LeadsToGroup " " [] :=
  fun position _ => Token.scans_space position _

theorem leadsToGroup_empty : LeadsToGroup "" [] :=
  fun position _ => Token.scans_nil position _

/-- In parentheses an accepted text has the same tokens, one character further on, and the same expression.
There it can be negated and joined with another one, with or without blanks around the keywords. -/
theorem parse_in_parentheses {first second : String} {left right : Expr}
    (firstRead : parse first = .ok left) (secondRead : parse second = .ok right) :
    (∃ tokens, Token.scan first.toList = .ok tokens ∧
      Token.scan ("(" ++ first ++ ")").toList =
        .ok (⟨.openParen, 0⟩ :: tokens.map (Token.Located.moved 1) ++
          [⟨.closeParen, first.toList.length + 1⟩])) ∧
    parse ("(" ++ first ++ ")") = .ok left ∧
    parse ("NOT (" ++ first ++ ")") = .ok (.not left) ∧
    parse ("NOT(" ++ first ++ ")") = .ok (.not left) ∧
    parse ("(" ++ first ++ ") AND (" ++ second ++ ")") = .ok (.and [left, right]) ∧
    parse ("(" ++ first ++ ")AND(" ++ second ++ ")") = .ok (.and [left, right]) ∧
    parse ("(" ++ first ++ ") (" ++ second ++ ")") = .ok (.and [left, right]) ∧
    parse ("(" ++ first ++ ")(" ++ second ++ ")") = .ok (.and [left, right]) ∧
    parse ("(" ++ first ++ ") OR (" ++ second ++ ")") = .ok (.or [left, right]) ∧
    parse ("(" ++ first ++ ")OR(" ++ second ++ ")") = .ok (.or [left, right]) := by
  obtain ⟨tokens, scanned, denoted⟩ := exists_scan_of_parse firstRead
  have inParens : ("(" ++ first ++ ")").toList = '(' :: first.toList ++ [')'] := by simp
  have sameText {written whole : String} {expression : Expr}
      (read : parse written = .ok expression) (same : whole.toList = written.toList) :
      parse whole = .ok expression := by
    rwa [String.toList_inj.mp same]
  have negated {between : String} (leads : LeadsToGroup between [.keyword .not]) :=
    parse_negated firstRead leads
  have conjoined {between : String} {joint : List Token} (leads : LeadsToGroup between joint)
      (joins : Derives.JoinsOperands joint) :=
    parse_joined firstRead secondRead leads (Denoted.and_pair joins)
  have disjoined {between : String} (leads : LeadsToGroup between [.keyword .or]) :=
    parse_joined firstRead secondRead leads Denoted.or_pair
  refine ⟨⟨tokens, scanned, ?_⟩, ?_, ?_, ?_, ?_, ?_, ?_, ?_, ?_, ?_⟩
  · rw [inParens]
    exact Token.scan_inParens scanned
  · have read := parse_eq_ok (Token.scans_inParens scanned 0 []) (denoted_of_negation denoted.grouped)
    exact sameText read (by simp)
  · exact sameText (negated (leadsToGroup_keyword_space .not)) (by simp [Keyword.text])
  · exact sameText (negated (leadsToGroup_keyword .not)) (by simp [Keyword.text])
  · exact sameText (conjoined (leadsToGroup_separator .and) (.inr rfl)) (by simp [Keyword.text])
  · exact sameText (conjoined (leadsToGroup_keyword .and) (.inr rfl)) (by simp [Keyword.text])
  · exact sameText (conjoined leadsToGroup_space (.inl rfl)) (by simp)
  · exact sameText (conjoined leadsToGroup_empty (.inl rfl)) (by simp)
  · exact sameText (disjoined (leadsToGroup_separator .or)) (by simp [Keyword.text])
  · exact sameText (disjoined (leadsToGroup_keyword .or)) (by simp [Keyword.text])

/-- A bare value that ends with an opening parenthesis and one with a quote inside still end in front of the
parentheses around them. -/
theorem parse_in_parentheses_bare_values :
    let first := "label:a OR milestone:b("
    let second := "NOT assignee:\"c) d\"label:e\"f"
    let left : Expr := .or [.leaf (.label "a"), .leaf (.milestone "b(")]
    let right : Expr := .and [.not (.leaf (.assignee "c) d")), .leaf (.label "e\"f")]
    parse first = .ok left ∧ parse second = .ok right ∧
      parse "NOT(label:a OR milestone:b()" = .ok (.not left) ∧
      parse "(label:a OR milestone:b()AND(NOT assignee:\"c) d\"label:e\"f)" =
        .ok (.and [left, right]) ∧
      parse "(label:a OR milestone:b()(NOT assignee:\"c) d\"label:e\"f)" = .ok (.and [left, right]) := by
  intro first second left right
  have firstRead : parse first = .ok left := by decide +kernel
  have secondRead : parse second = .ok right := by decide +kernel
  obtain ⟨_, _, _, negated, _, joined, _, adjacent, _⟩ := parse_in_parentheses firstRead secondRead
  exact ⟨firstRead, secondRead, negated, joined, adjacent⟩

end Expr
end IssueWatch
