import IssueWatch.Proofs.Query.Spelling

/-!
# Scanning a text is cutting it into lexemes

A text scans to tokens exactly if it is a row of lexemes with these tokens, and there is only one way to
cut it. A word of the scanner may end behind, at or in front of the end of the lexeme that it starts: it
runs over an opening parenthesis, where a keyword ends, and stops at a blank, which a quoted value may
hold. So each kind of lexeme is compared with what is read at its first character.
-/
namespace IssueWatch.Token

open Text (EndsKeyword)

theorem takeWhile_takeWhile_isWordChar (input : List Char) :
    (input.takeWhile isWordChar).takeWhile (· != '(') =
      input.takeWhile fun c => isWordChar c && c != '(' := by
  induction input with
  | nil => rfl
  | cons c rest induction =>
      cases wordChar : isWordChar c with
      | false => simp [wordChar]
      | true =>
          by_cases paren : c = '('
          · subst paren
            simp [wordChar]
          · simp [wordChar, paren, induction]

theorem read_cons {position : Nat} {c : Char} {rest : List Char} (apart : c ≠ '(' ∧ c ≠ ')') :
    read position (c :: rest) =
      match Keyword.ofWord? ((c :: rest).takeWhile fun c => isWordChar c && c != '(') with
      | some found =>
          .ok (.keyword found, ((c :: rest).takeWhile fun c => isWordChar c && c != '(').length)
      | none =>
          if ((c :: rest).takeWhile isWordChar).contains ':' &&
              ((c :: rest).takeWhile isWordChar).head? != some '"' then
            readQualifier position (c :: rest)
          else .error ⟨.unexpectedTerm (String.ofList ((c :: rest).takeWhile isWordChar)), position⟩ := by
  rw [← takeWhile_takeWhile_isWordChar]
  unfold read
  split
  · rename_i tail headEq
    exact absurd (List.cons.inj headEq).1 apart.1
  · rename_i tail headEq
    exact absurd (List.cons.inj headEq).1 apart.2
  · rfl

theorem read_keyword {word rest : List Char} {found : Keyword} (spelled : found.Spelled word)
    (ends : EndsKeyword rest) (position : Nat) :
    read position (word ++ rest) = .ok (.keyword found, word.length) := by
  have inside : ∀ c ∈ word, (isWordChar c && c != '(') = true := by
    intro c member
    have letter := spelled.isAlpha c member
    have notOpen : c ≠ '(' := Text.ne_of_isAlpha letter rfl
    simp [Text.isWordChar_of_isAlpha letter, notOpen]
  have longest : (word ++ rest).takeWhile (fun c => isWordChar c && c != '(') = word :=
    Text.takeWhile_append_of_boundary inside (Text.endsKeyword_iff.mp ends)
  obtain ⟨c, tail, rfl, letter⟩ := spelled.head
  have apart : c ≠ '(' ∧ c ≠ ')' :=
    ⟨Text.ne_of_isAlpha letter rfl, Text.ne_of_isAlpha letter rfl⟩
  rw [List.cons_append] at longest ⊢
  rw [read_cons apart, longest, Keyword.ofWord?_eq_some_iff.mpr spelled]

theorem ofWord?_eq_none_of_colon {word : List Char} (colon : ':' ∈ word) :
    Keyword.ofWord? word = none := by
  cases read : Keyword.ofWord? word with
  | none => rfl
  | some found =>
      have letter := (Keyword.ofWord?_eq_some_iff.mp read).isAlpha ':' colon
      exact absurd letter (by decide)

/-- A key and a colon are read as the start of a qualifier, whatever stands behind them. -/
theorem read_eq_readQualifier {key : Qualifier.Key} {name : List Char} (spelled : key.Spelled name)
    (rest : List Char) (position : Nat) :
    read position (name ++ ':' :: rest) = readQualifier position (name ++ ':' :: rest) := by
  have colonInside {property : Char → Bool} (letters : ∀ c, c.isAlpha = true → property c = true)
      (colon : property ':' = true) : ':' ∈ (name ++ ':' :: rest).takeWhile property := by
    rw [List.takeWhile_append_of_pos fun c member => letters c (spelled.isAlpha c member)]
    simp [colon]
  have wordColon : ':' ∈ (name ++ ':' :: rest).takeWhile isWordChar :=
    colonInside (fun c letter => Text.isWordChar_of_isAlpha letter) rfl
  have headColon : ':' ∈ (name ++ ':' :: rest).takeWhile fun c => isWordChar c && c != '(' := by
    refine colonInside (fun c letter => ?_) rfl
    have notOpen : c ≠ '(' := Text.ne_of_isAlpha letter rfl
    simp [Text.isWordChar_of_isAlpha letter, notOpen]
  obtain ⟨c, tail, rfl, letter⟩ := spelled.head
  have apart : c ≠ '(' ∧ c ≠ ')' :=
    ⟨Text.ne_of_isAlpha letter rfl, Text.ne_of_isAlpha letter rfl⟩
  have noQuote : c ≠ '"' := Text.ne_of_isAlpha letter rfl
  rw [List.cons_append] at wordColon headColon ⊢
  rw [read_cons apart, ofWord?_eq_none_of_colon headColon]
  have wordHead : ((c :: (tail ++ ':' :: rest)).takeWhile isWordChar).head? = some c := by
    simp [Text.isWordChar_of_isAlpha letter]
  simp [wordColon, wordHead, noQuote]

theorem read_key {key : Qualifier.Key} {name : List Char} (spelled : key.Spelled name)
    (rest : List Char) (position : Nat) :
    read position (name ++ ':' :: rest) =
      match readValue rest with
      | .error fault => .error ⟨fault, position + name.length + 1⟩
      | .ok (value, length) =>
          match Qualifier.ofKeyValue? key value with
          | none => .error ⟨.unknownQualifier (String.ofList value), position⟩
          | some test => .ok (.qualifier test, name.length + 1 + length) := by
  have keyRead := Qualifier.Key.ofWord?_eq_some_iff.mpr spelled
  have valueText : (name ++ ':' :: rest).drop (name.length + 1) = rest := by
    simp [List.drop_append]
  rw [read_eq_readQualifier spelled, readQualifier, spelled.takeWhile_ne_colon]
  cases valueRead : readValue rest with
  | error fault => simp [keyRead, valueText, valueRead]
  | ok answer =>
      cases testRead : Qualifier.ofKeyValue? key answer.1 with
      | none => simp [keyRead, valueText, valueRead, testRead]
      | some test => simp [keyRead, valueText, valueRead, testRead]

/-- A lexeme is read as its token, to its last character, in front of any text that may follow it. -/
theorem read_of_lexeme {word rest : List Char} {token : Token} (lexeme : Lexeme word token rest)
    (position : Nat) : read position (word ++ rest) = .ok (token, word.length) := by
  cases lexeme with
  | openParen => rfl
  | closeParen => rfl
  | keyword spelled ends => exact read_keyword spelled ends position
  | @qualifier name written value _ test spelled reads fits =>
      have valueRead := readValue_of_value reads
      have testRead := Qualifier.ofKeyValue?_eq_some_iff.mpr ⟨rfl, fits⟩
      rw [List.append_assoc, List.cons_append, read_key spelled, valueRead]
      simp only [testRead]
      simp
      omega

theorem lexeme_of_readQualifier {position length : Nat} {input : List Char} {token : Token}
    (colon : ':' ∈ input) (read : readQualifier position input = .ok (token, length)) :
    ∃ word rest, input = word ++ rest ∧ length = word.length ∧ Lexeme word token rest := by
  obtain ⟨name, behind, rfl, noColon⟩ := List.eq_append_cons_of_mem colon
  have nameFirst : (name ++ ':' :: behind).takeWhile (· != ':') = name := by
    refine Text.takeWhile_ne_of_first ?_ behind
    rintro c member rfl
    exact noColon member
  have valueText : (name ++ ':' :: behind).drop (name.length + 1) = behind := by
    simp [List.drop_append]
  rw [readQualifier] at read
  simp only [nameFirst, valueText] at read
  split at read
  · cases read
  · rename_i key keyRead
    split at read
    · cases read
    · rename_i value taken valueRead
      split at read
      · cases read
      · rename_i test testRead
        cases read
        obtain ⟨written, rest, rfl, rfl, reads⟩ := value_of_readValue valueRead
        obtain ⟨rfl, fits⟩ := Qualifier.ofKeyValue?_eq_some_iff.mp testRead
        refine ⟨name ++ ':' :: written, rest, by simp, ?_, ?_⟩
        · simp
          omega
        · exact .qualifier (Qualifier.Key.ofWord?_eq_some_iff.mp keyRead) reads fits

theorem lexeme_of_read {position length : Nat} {input : List Char} {token : Token}
    (taken : read position input = .ok (token, length)) :
    ∃ word rest, input = word ++ rest ∧ length = word.length ∧ Lexeme word token rest := by
  cases input with
  | nil => simp [read, Keyword.ofWord?] at taken
  | cons c rest =>
      by_cases isOpen : c = '('
      · subst isOpen
        cases taken
        exact ⟨['('], rest, rfl, rfl, .openParen rest⟩
      by_cases isClose : c = ')'
      · subst isClose
        cases taken
        exact ⟨[')'], rest, rfl, rfl, .closeParen rest⟩
      rw [read_cons ⟨isOpen, isClose⟩] at taken
      split at taken
      · rename_i found foundRead
        cases taken
        refine ⟨_, _, List.takeWhile_append_dropWhile.symm, rfl,
          .keyword (Keyword.ofWord?_eq_some_iff.mp foundRead) ?_⟩
        rw [Text.endsKeyword_iff]
        exact Text.boundary_of_takeWhile List.takeWhile_append_dropWhile.symm
      · split at taken
        · rename_i joined
          have colon : ':' ∈ (c :: rest).takeWhile isWordChar := by
            simp only [Bool.and_eq_true, List.contains_iff_mem] at joined
            exact joined.1
          exact lexeme_of_readQualifier ((List.takeWhile_prefix _).subset colon) taken
        · cases taken

theorem Lexeme.head {word rest : List Char} {token : Token} (lexeme : Lexeme word token rest) :
    ∃ c tail, word = c :: tail ∧ Text.isBlank c = false := by
  cases lexeme with
  | openParen => exact ⟨'(', [], rfl, rfl⟩
  | closeParen => exact ⟨')', [], rfl, rfl⟩
  | keyword spelled ends =>
      obtain ⟨c, tail, rfl, letter⟩ := spelled.head
      exact ⟨c, tail, rfl, Text.isBlank_of_isAlpha letter⟩
  | @qualifier name written _ _ _ spelled _ _ =>
      obtain ⟨c, tail, rfl, letter⟩ := spelled.head
      exact ⟨c, tail ++ ':' :: written, rfl, Text.isBlank_of_isAlpha letter⟩

/-- Where a lexeme stands, the text does not start with a blank. -/
theorem Lexeme.not_blank {word rest text : List Char} {token : Token} {c : Char}
    (lexeme : Lexeme word token rest) (same : word ++ rest = c :: text) :
    Text.isBlank c = false := by
  obtain ⟨d, tail, rfl, notBlank⟩ := lexeme.head
  cases same
  exact notBlank

theorem Lexeme.unique {word otherWord rest otherRest : List Char} {token otherToken : Token}
    (lexeme : Lexeme word token rest) (other : Lexeme otherWord otherToken otherRest)
    (same : word ++ rest = otherWord ++ otherRest) :
    word = otherWord ∧ token = otherToken ∧ rest = otherRest := by
  have taken := read_of_lexeme lexeme 0
  rw [same, read_of_lexeme other 0] at taken
  simp only [Except.ok.injEq, Prod.mk.injEq] at taken
  obtain ⟨rfl, lengthEq⟩ := taken
  obtain ⟨rfl, rfl⟩ := List.append_inj same lengthEq.symm
  exact ⟨rfl, rfl, rfl⟩

/-! ## Whole texts -/

theorem scanFrom_append (word rest : List Char) (position : Nat) :
    scanFrom word.length position (word ++ rest) = scanFrom 0 (position + word.length) rest := by
  induction word generalizing position with
  | nil => rfl
  | cons c word induction =>
      rw [List.length_cons, List.cons_append, scanFrom, induction]
      congr 1
      omega

theorem scanFrom_blank {c : Char} (blank : Text.isBlank c = true) (rest : List Char)
    (position : Nat) : scanFrom 0 position (c :: rest) = scanFrom 0 (position + 1) rest := by
  rw [scanFrom, if_pos blank]

/-- A lexeme is scanned as its token in front of what is scanned behind it. -/
theorem scanFrom_lexeme {word rest : List Char} {token : Token} (lexeme : Lexeme word token rest)
    (position : Nat) :
    scanFrom 0 position (word ++ rest) =
      (scanFrom 0 (position + word.length) rest).map (⟨token, position⟩ :: ·) := by
  have taken := read_of_lexeme lexeme position
  obtain ⟨c, tail, rfl, notBlank⟩ := lexeme.head
  rw [List.cons_append] at taken ⊢
  rw [scanFrom, if_neg (by simp [notBlank]), taken]
  simp only [List.length_cons, Nat.add_sub_cancel]
  rw [scanFrom_append, Nat.add_assoc, Nat.add_comm 1]

theorem scanFrom_of_row {position : Nat} {text : List Char} {row : List Occurrence}
    (cut : Row position text row []) :
    scanFrom 0 position text = .ok (row.map Occurrence.toLocated) := by
  generalize restEq : ([] : List Char) = rest at cut
  induction cut with
  | stop position rest =>
      subst restEq
      rfl
  | blank separates _ induction => rw [scanFrom_blank separates, induction restEq]
  | lexeme spelled _ induction =>
      rw [scanFrom_lexeme spelled, induction restEq]
      rfl

/-- What is scanned is a row of lexemes. The induction is on the length of the text, since the scan goes
on behind a whole lexeme. -/
theorem row_of_scanFrom {position : Nat} {text : List Char} {tokens : List Located}
    (scanned : scanFrom 0 position text = .ok tokens) :
    ∃ row, Row position text row [] ∧ row.map Occurrence.toLocated = tokens := by
  generalize lengthEq : text.length = length
  induction length using Nat.strong_induction_on generalizing position text tokens with
  | _ length induction =>
      cases text with
      | nil =>
          cases scanned
          exact ⟨[], .stop position [], rfl⟩
      | cons c rest =>
          cases blank : Text.isBlank c with
          | true =>
              rw [scanFrom_blank blank] at scanned
              obtain ⟨row, cut, rowEq⟩ :=
                induction rest.length (by simp [← lengthEq]) scanned rfl
              exact ⟨row, .blank blank cut, rowEq⟩
          | false =>
              cases taken : read position (c :: rest) with
              | error error => simp [scanFrom, blank, taken] at scanned
              | ok answer =>
                  obtain ⟨token, length⟩ := answer
                  obtain ⟨word, behind, textEq, rfl, lexeme⟩ := lexeme_of_read taken
                  obtain ⟨d, tail, rfl, _⟩ := lexeme.head
                  rw [textEq] at scanned lengthEq ⊢
                  rw [scanFrom_lexeme lexeme] at scanned
                  cases behindScanned :
                      scanFrom 0 (position + (d :: tail).length) behind with
                  | error error =>
                      rw [behindScanned] at scanned
                      cases scanned
                  | ok others =>
                      rw [behindScanned] at scanned
                      cases scanned
                      have shorter : behind.length < length := by
                        simp at lengthEq
                        omega
                      obtain ⟨row, cut, rfl⟩ :=
                        induction behind.length shorter behindScanned rfl
                      exact ⟨_, .lexeme lexeme cut, rfl⟩

theorem Row.unique {position : Nat} {text : List Char} {first second : List Occurrence}
    (firstCut : Row position text first []) (secondCut : Row position text second []) :
    first = second := by
  generalize restEq : ([] : List Char) = rest at firstCut
  induction firstCut generalizing second with
  | stop position rest =>
      subst restEq
      generalize textEq : ([] : List Char) = text at secondCut
      cases secondCut with
      | stop => rfl
      | blank => cases textEq
      | lexeme spelled _ =>
          obtain ⟨c, tail, rfl, _⟩ := spelled.head
          cases textEq
  | @blank position c text rest row separates _ induction =>
      generalize textEq : c :: text = whole at secondCut
      cases secondCut with
      | stop => cases textEq
      | blank _ more =>
          cases textEq
          exact induction more restEq
      | lexeme spelled _ =>
          have notBlank := spelled.not_blank textEq.symm
          rw [separates] at notBlank
          cases notBlank
  | @lexeme position word text rest token row spelled _ induction =>
      generalize textEq : word ++ text = whole at secondCut
      cases secondCut with
      | stop =>
          obtain ⟨d, tail, rfl, _⟩ := spelled.head
          cases textEq
      | blank separates _ =>
          have notBlank := spelled.not_blank textEq
          rw [separates] at notBlank
          cases notBlank
      | lexeme otherSpelled more =>
          obtain ⟨rfl, rfl, rfl⟩ := spelled.unique otherSpelled textEq
          rw [induction more restEq]

/-- A text scans to the tokens of its cut into lexemes, if it has one, and it has at most one. -/
theorem scan_eq_ok_iff_row (text : List Char) (tokens : List Located) :
    (scan text = .ok tokens ↔
        ∃ row, Row 0 text row [] ∧ row.map Occurrence.toLocated = tokens) ∧
      ∀ first second : List Occurrence,
        Row 0 text first [] → Row 0 text second [] → first = second := by
  constructor
  · constructor
    · exact row_of_scanFrom
    · rintro ⟨row, cut, rfl⟩
      exact scanFrom_of_row cut
  · intro first second firstCut secondCut
    exact firstCut.unique secondCut

/-- In `Not(LABEL:"a\") b"is:OPEN)label:c(d:"e` a keyword ends at a parenthesis, a quoted value holds
a hidden quote and a parenthesis, nothing separates it from the next key, and a bare value holds the
characters that would be special elsewhere. -/
theorem row_glued_lexemes :
    let text := "Not(LABEL:\"a\\\") b\"is:OPEN)label:c(d:\"e".toList
    ∃ row : List Occurrence, Row 0 text row [] ∧
      row.map Occurrence.toLocated =
        [⟨.keyword .not, 0⟩, ⟨.openParen, 3⟩, ⟨.qualifier (.label "a\") b"), 4⟩,
          ⟨.qualifier .isOpen, 18⟩, ⟨.closeParen, 25⟩, ⟨.qualifier (.label "c(d:\"e"), 26⟩] ∧
      ∀ other : List Occurrence, Row 0 text other [] → other = row := by
  intro text
  obtain ⟨row, cut, tokensEq⟩ := (scan_eq_ok_iff_row text _).1.mp rfl
  exact ⟨row, cut, tokensEq, fun other otherCut =>
    (scan_eq_ok_iff_row text []).2 other row otherCut cut⟩

end IssueWatch.Token
