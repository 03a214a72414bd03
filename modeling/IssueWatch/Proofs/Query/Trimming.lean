import IssueWatch.Proofs.Query.Parentheses

/-!
# Blanks around queries

Trimming a text changes neither whether it is a query nor which one.  Blanks in front move the lexemes.
Blanks behind are no part of any lexeme, since the last character of a lexeme is never blank, and they end
a word just as the end of the text does.
-/
namespace IssueWatch

namespace Text

theorem exists_around_trim (text : String) :
    ∃ lead trail, (∀ c ∈ lead, isBlank c = true) ∧ (∀ c ∈ trail, isBlank c = true) ∧
      text.toList = lead ++ (trim text).toList ++ trail := by
  let start := text.toList.dropWhile isBlank
  refine ⟨text.toList.takeWhile isBlank, (start.reverse.takeWhile isBlank).reverse, ?_, ?_, ?_⟩
  · intro c member
    exact List.mem_takeWhile_imp member
  · intro c member
    exact List.mem_takeWhile_imp (List.mem_reverse.mp member)
  · have cutEnd : start = (start.reverse.dropWhile isBlank).reverse ++
        (start.reverse.takeWhile isBlank).reverse := by
      rw [← List.reverse_append, List.takeWhile_append_dropWhile, List.reverse_reverse]
    rw [trim, String.toList_ofList, trimEnd, trimStart, List.append_assoc, ← cutEnd,
      List.takeWhile_append_dropWhile]

theorem endsWord_of_blanks {blanks : List Char} (each : ∀ c ∈ blanks, isBlank c = true) :
    EndsWord blanks := by
  cases blanks with
  | nil => trivial
  | cons c blanks => exact .inl (each c List.mem_cons_self)

theorem EndsWord.of_append {text rest : List Char} (ends : EndsWord (text ++ rest)) : EndsWord text := by
  cases text with
  | nil => trivial
  | cons c text => exact ends

theorem EndsKeyword.of_append {text rest : List Char} (ends : EndsKeyword (text ++ rest)) :
    EndsKeyword text := by
  cases text with
  | nil => trivial
  | cons c text => exact ends

theorem Value.of_append {written value text rest : List Char}
    (reads : Value written value (text ++ rest)) : Value written value text := by
  cases reads with
  | bare present unquoted whole ends => exact .bare present unquoted whole ends.of_append
  | quoted present reads => exact .quoted present reads

theorem Value.exists_last {written value rest : List Char} (reads : Value written value rest) :
    ∃ front c, written = front ++ [c] ∧ isBlank c = false := by
  cases reads with
  | bare present _ whole _ =>
      obtain rfl | ⟨front, c, rfl⟩ := List.eq_nil_or_concat' written
      · exact absurd rfl present
      · have wordChar := whole c (List.mem_append_right front (List.mem_singleton_self c))
        simp only [Token.isWordChar, Bool.and_eq_true, Bool.not_eq_true'] at wordChar
        exact ⟨front, c, rfl, wordChar.1⟩
  | @quoted body => exact ⟨'"' :: body, '"', rfl, rfl⟩

end Text

namespace Token

open Text (EndsWord)

theorem Lexeme.of_append {word text rest : List Char} {token : Token}
    (lexeme : Lexeme word token (text ++ rest)) : Lexeme word token text := by
  cases lexeme with
  | openParen => exact .openParen _
  | closeParen => exact .closeParen _
  | keyword spelled ends => exact .keyword spelled ends.of_append
  | qualifier spelled reads fits => exact .qualifier spelled reads.of_append fits

/-- The last character of a lexeme is not blank. -/
theorem Lexeme.exists_last {word rest : List Char} {token : Token} (lexeme : Lexeme word token rest) :
    ∃ front c, word = front ++ [c] ∧ Text.isBlank c = false := by
  cases lexeme with
  | openParen => exact ⟨[], '(', rfl, rfl⟩
  | closeParen => exact ⟨[], ')', rfl, rfl⟩
  | keyword spelled ends =>
      obtain rfl | ⟨front, c, rfl⟩ := List.eq_nil_or_concat' word
      · obtain ⟨_, _, absent, _⟩ := spelled.head
        cases absent
      · have letter := spelled.isAlpha c (List.mem_append_right front (List.mem_singleton_self c))
        exact ⟨front, c, rfl, Text.isBlank_of_isAlpha letter⟩
  | @qualifier name written _ _ _ _ reads _ =>
      obtain ⟨front, c, rfl, notBlank⟩ := reads.exists_last
      exact ⟨name ++ ':' :: front, c, by simp, notBlank⟩

/-- A lexeme in front of a text that ends with blanks does not reach into them. -/
theorem Lexeme.append_eq_append {word text core blanks : List Char} {token : Token}
    (lexeme : Lexeme word token text) (each : ∀ c ∈ blanks, Text.isBlank c = true)
    (same : word ++ text = core ++ blanks) :
    ∃ behind, core = word ++ behind ∧ text = behind ++ blanks := by
  rcases List.append_eq_append_iff.mp same with ⟨behind, coreEq, textEq⟩ | ⟨inside, wordEq, blanksEq⟩
  · exact ⟨behind, coreEq, textEq⟩
  · obtain rfl | ⟨inner, c, rfl⟩ := List.eq_nil_or_concat' inside
    · exact ⟨[], by simpa using wordEq.symm, by simpa using blanksEq.symm⟩
    · -- The part of the word among the blanks would end with the last character of the word.
      obtain ⟨front, last, lastEq, notBlank⟩ := lexeme.exists_last
      have lastSame : c = last := by
        rw [lastEq, ← List.append_assoc] at wordEq
        exact (List.append_inj_right' wordEq rfl |> List.singleton_inj.mp).symm
      have blank := each c (by simp [blanksEq])
      rw [lastSame, notBlank] at blank
      cases blank

/-- A text that is cut into lexemes is cut into the same ones without the blanks at its end. -/
theorem Row.of_append_blanks {position : Nat} {text blanks : List Char} {row : List Occurrence}
    (cut : Row position (text ++ blanks) row []) (each : ∀ c ∈ blanks, Text.isBlank c = true) :
    Row position text row [] := by
  generalize wholeEq : text ++ blanks = whole at cut
  generalize endEq : ([] : List Char) = last at cut ⊢
  induction cut generalizing text blanks with
  | stop position last =>
      subst endEq
      rw [(List.append_eq_nil_iff.mp wholeEq).1]
      exact .stop position []
  | @blank position c rest last row separates _ induction =>
      cases text with
      | nil =>
          -- Only blanks are left, so that the row is empty.
          rw [List.nil_append] at wholeEq
          subst wholeEq
          have eachLater : ∀ d ∈ rest, Text.isBlank d = true := fun d member => each d (.tail c member)
          have more : Row (position + 1) [] row last := induction eachLater rfl endEq
          generalize nothing : ([] : List Char) = text at more
          cases more with
          | stop => exact .stop position _
          | blank => cases nothing
          | lexeme spelled =>
              obtain ⟨_, _, rfl, _⟩ := spelled.head
              cases nothing
      | cons d text =>
          cases wholeEq
          exact .blank separates (induction each rfl endEq)
  | @lexeme position word rest last token row spelled _ induction =>
      obtain ⟨behind, rfl, rfl⟩ := spelled.append_eq_append each wholeEq.symm
      exact .lexeme spelled.of_append (induction each rfl endEq)

/-- Where a text stands makes no difference to whether it is cut into lexemes. -/
theorem Row.exists_at {position : Nat} {text rest : List Char} {row : List Occurrence}
    (cut : Row position text row rest) (other : Nat) : ∃ found, Row other text found rest := by
  induction cut generalizing other with
  | stop position rest => exact ⟨[], .stop other rest⟩
  | blank separates _ induction =>
      obtain ⟨found, more⟩ := induction (other + 1)
      exact ⟨found, .blank separates more⟩
  | @lexeme _ word _ _ _ _ spelled _ induction =>
      obtain ⟨found, more⟩ := induction (other + word.length)
      exact ⟨_, .lexeme spelled more⟩

theorem scanFrom_blanks {blanks : List Char} (each : ∀ c ∈ blanks, Text.isBlank c = true)
    (rest : List Char) (position : Nat) :
    scanFrom 0 position (blanks ++ rest) = scanFrom 0 (position + blanks.length) rest := by
  induction blanks generalizing position with
  | nil => rfl
  | cons c blanks induction =>
      have eachLater : ∀ d ∈ blanks, Text.isBlank d = true := fun d member => each d (.tail c member)
      rw [List.cons_append, scanFrom_blank (each c List.mem_cons_self), induction eachLater,
        List.length_cons, Nat.add_assoc, Nat.add_comm 1]

/-- A text scans exactly if it does with blanks around it, and then to the same tokens further on. -/
theorem scan_between_blanks {lead core trail : List Char} (leads : ∀ c ∈ lead, Text.isBlank c = true)
    (trails : ∀ c ∈ trail, Text.isBlank c = true) (found : List Located) :
    scan (lead ++ core ++ trail) = .ok found ↔
      ∃ tokens, scan core = .ok tokens ∧ found = tokens.map (Located.moved lead.length) := by
  have inFront : scan (lead ++ core ++ trail) = scanFrom 0 lead.length (core ++ trail) := by
    rw [scan, List.append_assoc, scanFrom_blanks leads, Nat.zero_add]
  have atEnd (position : Nat) : scanFrom 0 position trail = .ok [] := by
    simpa [scanFrom] using scanFrom_blanks trails [] position
  have moves {tokens : List Located} (scanned : scan core = .ok tokens) :
      scan (lead ++ core ++ trail) = .ok (tokens.map (Located.moved lead.length)) := by
    rw [inFront, scanFrom_moved scanned lead.length (Text.endsWord_of_blanks trails), atEnd]
    simp [Except.map]
  constructor
  · intro scanned
    obtain ⟨_, cut, _⟩ := row_of_scanFrom (inFront ▸ scanned)
    obtain ⟨row, coreCut⟩ := (cut.of_append_blanks trails).exists_at 0
    have coreScanned := scanFrom_of_row coreCut
    exact ⟨_, coreScanned, Except.ok.inj (scanned.symm.trans (moves coreScanned))⟩
  · rintro ⟨tokens, scanned, rfl⟩
    exact moves scanned

end Token

namespace Expr

theorem parse_eq_ok_iff {text : String} {query : Expr} :
    parse text = .ok query ↔
      ∃ tokens, Token.scan text.toList = .ok tokens ∧
        query.Denoted (tokens.map Token.Located.token) := by
  constructor
  · exact exists_scan_of_parse
  · rintro ⟨tokens, scanned, denoted⟩
    rw [parse, scanned]
    exact ofTokens_of_denoted denoted _

/-- A text is read as a query exactly if it is without the blanks around it, and as the same one. -/
theorem parse_trim_eq_ok_iff (text : String) (query : Expr) :
    parse (Text.trim text) = .ok query ↔ parse text = .ok query := by
  obtain ⟨lead, trail, leads, trails, textEq⟩ := Text.exists_around_trim text
  have sameTokens (tokens : List Token.Located) :
      (tokens.map (Token.Located.moved lead.length)).map Token.Located.token =
        tokens.map Token.Located.token := by
    rw [List.map_map]
    rfl
  rw [parse_eq_ok_iff, parse_eq_ok_iff, textEq]
  constructor
  · rintro ⟨tokens, scanned, denoted⟩
    refine ⟨_, (Token.scan_between_blanks leads trails _).mpr ⟨tokens, scanned, rfl⟩, ?_⟩
    rwa [sameTokens]
  · rintro ⟨found, scanned, denoted⟩
    obtain ⟨tokens, coreScanned, rfl⟩ := (Token.scan_between_blanks leads trails found).mp scanned
    rw [sameTokens] at denoted
    exact ⟨tokens, coreScanned, denoted⟩

end Expr
end IssueWatch
