import IssueWatch.Proofs.Query.Scanning

/-!
# Where a scan fails

A text that is no row of lexemes is one up to some place where no lexeme stands, and the scan reports
what is wrong there.  The faults of a value are told apart first, then those of a word, then the scan is
followed along the lexemes in front of the place.
-/
namespace IssueWatch.Token

open Text (EndsWord)

/-! ## Values -/

/-- Why no value stands at the start of a text. -/
inductive NoValue : List Char → SyntaxFault → Prop where
  | missing {text : List Char} (ends : EndsWord text) : NoValue text .missingValue
  | empty (rest : List Char) : NoValue ('"' :: '"' :: rest) .emptyQuotedValue
  | unclosed {rest : List Char}
      (unclosed : ∀ body value behind, rest = body ++ '"' :: behind → ¬ Text.QuotedBody body value) :
      NoValue ('"' :: rest) .unterminatedQuotedValue

theorem readQuoted_eq_none_iff {rest : List Char} :
    readQuoted rest = none ↔
      ∀ body value behind, rest = body ++ '"' :: behind → ¬ Text.QuotedBody body value := by
  constructor
  · rintro failed body value behind rfl reads
    rw [Text.readQuoted_of_quotedBody reads] at failed
    cases failed
  · intro unclosed
    cases read : readQuoted rest with
    | none => rfl
    | some answer =>
        obtain ⟨body, behind, restEq, _, reads⟩ := Text.quotedBody_of_readQuoted read
        exact absurd reads (unclosed body answer.1 behind restEq)

theorem eq_nil_of_quotedBody_nil {body : List Char} (reads : Text.QuotedBody body []) :
    body = [] := by
  cases reads
  rfl

theorem readValue_eq_error_iff {text : List Char} {fault : SyntaxFault} :
    readValue text = .error fault ↔ NoValue text fault := by
  constructor
  · intro failed
    unfold readValue at failed
    split at failed
    · rename_i rest
      split at failed
      · rename_i noQuote
        cases failed
        exact .unclosed (readQuoted_eq_none_iff.mp noQuote)
      · rename_i length read
        cases failed
        obtain ⟨body, behind, rfl, _, reads⟩ := Text.quotedBody_of_readQuoted read
        obtain rfl := eq_nil_of_quotedBody_nil reads
        exact .empty behind
      · cases failed
    · split at failed
      · rename_i wordEq
        cases failed
        refine .missing (Text.endsWord_iff.mpr ?_)
        apply Text.boundary_of_takeWhile
        rw [wordEq, List.nil_append]
      · cases failed
  · intro noValue
    cases noValue with
    | missing ends =>
        cases text with
        | nil => rfl
        | cons c rest =>
            have stops : isWordChar c = false := Text.endsWord_iff.mp ends c rfl
            have noQuote : c ≠ '"' := by
              rintro rfl
              cases stops
            rw [readValue]
            · rw [List.takeWhile_cons_of_neg (by simp [stops])]
            · intro rest headEq
              exact absurd (List.cons.inj headEq).1 noQuote
    | empty rest => rfl
    | unclosed unclosed =>
        rw [readValue, readQuoted_eq_none_iff.mpr unclosed]

/-! ## Words -/

theorem StartsWith.takeWhile_isWordChar {word text : List Char} (starts : StartsWith word text) :
    text.takeWhile isWordChar = word := by
  obtain ⟨rest, rfl, ends⟩ := starts.ends
  exact Text.takeWhile_append_of_boundary starts.whole (Text.endsWord_iff.mp ends)

theorem StartsWith.ofWord?_eq_none {word text : List Char} (starts : StartsWith word text) :
    Keyword.ofWord? (text.takeWhile fun c => isWordChar c && c != '(') = none := by
  rw [← takeWhile_takeWhile_isWordChar, starts.takeWhile_isWordChar]
  cases read : Keyword.ofWord? (word.takeWhile (· != '(')) with
  | none => rfl
  | some keyword =>
      have spelled := Keyword.ofWord?_eq_some_iff.mp read
      have split : word = word.takeWhile (· != '(') ++ word.dropWhile (· != '(') :=
        List.takeWhile_append_dropWhile.symm
      have boundary := Text.boundary_of_takeWhile split
      refine absurd spelled (starts.noKeyword _ _ keyword split ?_)
      cases rest : word.dropWhile (· != '(') with
      | nil => exact .inl rfl
      | cons c others =>
          have paren : (c != '(') = false := boundary c (by rw [rest]; rfl)
          exact .inr (by simpa using paren)

theorem StartsWith.exists_cons {word text : List Char} (starts : StartsWith word text) :
    ∃ c rest, text = c :: rest ∧ word.head? = some c ∧ Text.isBlank c = false ∧
      c ≠ '(' ∧ c ≠ ')' := by
  obtain ⟨behind, rfl, _⟩ := starts.ends
  cases word with
  | nil => exact absurd rfl starts.present
  | cons c word =>
      have wordChar := starts.whole c List.mem_cons_self
      simp only [isWordChar, Bool.and_eq_true, Bool.not_eq_true', bne_iff_ne] at wordChar
      have notOpen : c ≠ '(' := by
        rintro rfl
        exact starts.apart rfl
      exact ⟨c, word ++ behind, rfl, rfl, wordChar.1, notOpen, wordChar.2⟩

/-- The longest word at a place where neither a blank nor a parenthesis nor a keyword stands. -/
theorem startsWith_takeWhile {c : Char} {rest : List Char} (notBlank : Text.isBlank c = false)
    (apart : c ≠ '(' ∧ c ≠ ')')
    (noKeyword : Keyword.ofWord? ((c :: rest).takeWhile fun c => isWordChar c && c != '(') = none) :
    StartsWith ((c :: rest).takeWhile isWordChar) (c :: rest) := by
  have wordChar : isWordChar c = true := by simp [isWordChar, notBlank, apart.2]
  refine ⟨?_, ?_, fun d member => List.mem_takeWhile_imp member, ?_, ?_⟩
  · simp [wordChar]
  · simpa [wordChar] using apart.1
  · refine ⟨(c :: rest).dropWhile isWordChar, List.takeWhile_append_dropWhile.symm, ?_⟩
    rw [Text.endsWord_iff]
    exact Text.boundary_of_takeWhile List.takeWhile_append_dropWhile.symm
  · intro head tail keyword wordEq boundary spelled
    -- The letters of a keyword are no parentheses, so it would be the part in front of the first one.
    have headEq : (head ++ tail).takeWhile (· != '(') = head := by
      apply Text.takeWhile_append_of_boundary
      · intro d member
        have notOpen : d ≠ '(' := Text.ne_of_isAlpha (spelled.isAlpha d member) rfl
        simp [notOpen]
      · intro d first
        rcases boundary with rfl | paren
        · cases first
        · rw [paren] at first
          cases first
          rfl
    rw [← takeWhile_takeWhile_isWordChar, wordEq, headEq,
      Keyword.ofWord?_eq_some_iff.mpr spelled] at noKeyword
    cases noKeyword

theorem StartsWith.read_eq {word text : List Char} (starts : StartsWith word text) (position : Nat) :
    read position text =
      if word.contains ':' && word.head? != some '"' then readQualifier position text
      else .error ⟨.unexpectedTerm (String.ofList word), position⟩ := by
  have wordEq := starts.takeWhile_isWordChar
  have noKeyword := starts.ofWord?_eq_none
  obtain ⟨c, rest, rfl, _, _, apart⟩ := starts.exists_cons
  rw [read_cons apart, noKeyword, wordEq]

theorem readQualifier_unknownKey {position : Nat} {name rest : List Char} (first : ':' ∉ name)
    (unknown : ∀ key : Qualifier.Key, ¬ key.Spelled name) :
    readQualifier position (name ++ ':' :: rest) =
      .error ⟨.unknownPredicate (String.ofList name), position⟩ := by
  have nameFirst : (name ++ ':' :: rest).takeWhile (· != ':') = name := by
    refine Text.takeWhile_ne_of_first ?_ rest
    rintro c member rfl
    exact first member
  have noKey : Qualifier.Key.ofWord? name = none := by
    cases keyRead : Qualifier.Key.ofWord? name with
    | none => rfl
    | some key => exact absurd (Qualifier.Key.ofWord?_eq_some_iff.mp keyRead) (unknown key)
  simp [readQualifier, nameFirst, noKey]

theorem ofKeyValue?_eq_none_iff {key : Qualifier.Key} {value : List Char} :
    Qualifier.ofKeyValue? key value = none ↔
      ∀ test : Qualifier, test.key = key → ¬ test.Written value := by
  rw [Option.eq_none_iff_forall_ne_some]
  constructor
  · intro unread test sameKey written
    exact unread test (Qualifier.ofKeyValue?_eq_some_iff.mpr ⟨sameKey, written⟩)
  · intro unknown test read
    obtain ⟨sameKey, written⟩ := Qualifier.ofKeyValue?_eq_some_iff.mp read
    exact unknown test sameKey written

theorem key_eq_is_of_ofKeyValue?_eq_none {key : Qualifier.Key} {value : List Char}
    (unread : Qualifier.ofKeyValue? key value = none) : key = .is := by
  cases key with
  | label | milestone | assignee => cases unread
  | is => rfl

/-- A faulty value behind a key is reported at its first character. -/
theorem read_noValue {key : Qualifier.Key} {name rest : List Char} {fault : SyntaxFault}
    (spelled : key.Spelled name) (noValue : NoValue rest fault) (position : Nat) :
    read position (name ++ ':' :: rest) = .error ⟨fault, position + (name.length + 1)⟩ := by
  rw [read_key spelled, readValue_eq_error_iff.mpr noValue]
  rfl

/-- What is wrong at a place is what reading there reports. -/
theorem read_of_misfit {text : List Char} {fault : SyntaxFault} {offset : Nat}
    (misfit : Misfit text fault offset) (position : Nat) :
    read position text = .error ⟨fault, position + offset⟩ := by
  cases misfit with
  | noColon starts unjoined =>
      rw [starts.read_eq, if_neg (by simp [unjoined])]
      rfl
  | startsQuoted starts quote =>
      rw [starts.read_eq, if_neg (by simp [quote])]
      rfl
  | @unknownKey name rest word starts unquoted joined first unknown =>
      have colon : ':' ∈ word := by simp [joined]
      rw [starts.read_eq, if_pos (by simp [colon, unquoted])]
      obtain ⟨behind, rfl, _⟩ := starts.ends
      rw [joined, List.append_assoc, List.cons_append]
      exact readQualifier_unknownKey first unknown
  | noValue spelled joined ends =>
      rw [joined]
      exact read_noValue spelled (.missing ends) position
  | emptyValue spelled joined =>
      rw [joined]
      exact read_noValue spelled (.empty _) position
  | openValue spelled joined unclosed =>
      rw [joined]
      exact read_noValue spelled (.unclosed unclosed) position
  | unknownValue spelled joined reads unknown =>
      rw [joined, List.append_assoc, List.cons_append, read_key spelled, readValue_of_value reads]
      simp only [ofKeyValue?_eq_none_iff.mpr unknown]
      rfl

theorem Misfit.ofNoValue {key : Qualifier.Key} {name rest : List Char} {fault : SyntaxFault}
    (spelled : key.Spelled name) (noValue : NoValue rest fault) :
    Misfit (name ++ ':' :: rest) fault (name.length + 1) := by
  cases noValue with
  | missing ends => exact .noValue spelled rfl ends
  | empty rest => exact .emptyValue spelled rfl
  | unclosed unclosed => exact .openValue spelled rfl unclosed

/-- A word with a key in front of its first colon fails because of its value. -/
theorem misfit_of_read_key {key : Qualifier.Key} {name rest : List Char} {position : Nat}
    {error : SyntaxError} (spelled : key.Spelled name)
    (failed : read position (name ++ ':' :: rest) = .error error) :
    ∃ fault offset, Misfit (name ++ ':' :: rest) fault offset ∧
      error = ⟨fault, position + offset⟩ := by
  rw [read_key spelled] at failed
  split at failed
  · rename_i fault valueRead
    cases failed
    exact ⟨_, _, .ofNoValue spelled (readValue_eq_error_iff.mp valueRead), rfl⟩
  · rename_i value length valueRead
    split at failed
    · rename_i unread
      cases failed
      obtain rfl := key_eq_is_of_ofKeyValue?_eq_none unread
      obtain ⟨written, behind, rfl, _, reads⟩ := value_of_readValue valueRead
      have joined : name ++ ':' :: (written ++ behind) = name ++ ':' :: written ++ behind := by simp
      exact ⟨_, 0, .unknownValue spelled joined reads (ofKeyValue?_eq_none_iff.mp unread), rfl⟩
    · cases failed

/-- Where reading fails, something is wrong, and it is reported where it is. -/
theorem misfit_of_read {c : Char} {rest : List Char} {position : Nat} {error : SyntaxError}
    (notBlank : Text.isBlank c = false) (failed : read position (c :: rest) = .error error) :
    ∃ fault offset, Misfit (c :: rest) fault offset ∧ error = ⟨fault, position + offset⟩ := by
  by_cases isOpen : c = '('
  · subst isOpen
    cases failed
  by_cases isClose : c = ')'
  · subst isClose
    cases failed
  have apart : c ≠ '(' ∧ c ≠ ')' := ⟨isOpen, isClose⟩
  cases keywordRead :
      Keyword.ofWord? ((c :: rest).takeWhile fun c => isWordChar c && c != '(') with
  | some found =>
      rw [read_cons apart, keywordRead] at failed
      cases failed
  | none =>
      have starts := startsWith_takeWhile notBlank apart keywordRead
      generalize (c :: rest).takeWhile isWordChar = word at starts
      by_cases quote : word.head? = some '"'
      · rw [starts.read_eq, if_neg (by simp [quote])] at failed
        cases failed
        exact ⟨_, 0, .startsQuoted starts quote, rfl⟩
      by_cases colon : ':' ∈ word
      · have qualifies : (word.contains ':' && word.head? != some '"') = true := by
          simp [colon, quote]
        obtain ⟨name, tail, rfl, first⟩ := List.eq_append_cons_of_mem colon
        obtain ⟨behind, textEq, _⟩ := id starts.ends
        rw [List.append_assoc, List.cons_append] at textEq
        by_cases known : ∃ key : Qualifier.Key, key.Spelled name
        · obtain ⟨key, spelled⟩ := known
          rw [textEq] at failed ⊢
          exact misfit_of_read_key spelled failed
        · have unknown : ∀ key : Qualifier.Key, ¬ key.Spelled name := not_exists.mp known
          rw [starts.read_eq, if_pos qualifies, textEq,
            readQualifier_unknownKey first unknown] at failed
          cases failed
          exact ⟨_, 0, .unknownKey starts quote rfl first unknown, rfl⟩
      · rw [starts.read_eq, if_neg (by simp [colon])] at failed
        cases failed
        exact ⟨_, 0, .noColon starts colon, rfl⟩

/-! ## Whole texts -/

theorem Misfit.exists_cons {text : List Char} {fault : SyntaxFault} {offset : Nat}
    (misfit : Misfit text fault offset) :
    ∃ c rest, text = c :: rest ∧ Text.isBlank c = false := by
  have ofKey {key : Qualifier.Key} {name behind : List Char} (spelled : key.Spelled name) :
      ∃ c rest, name ++ ':' :: behind = c :: rest ∧ Text.isBlank c = false := by
    obtain ⟨c, tail, rfl, letter⟩ := spelled.head
    exact ⟨c, tail ++ ':' :: behind, rfl, Text.isBlank_of_isAlpha letter⟩
  have ofWord {word : List Char} (starts : StartsWith word text) :
      ∃ c rest, text = c :: rest ∧ Text.isBlank c = false := by
    obtain ⟨c, rest, textEq, _, notBlank, _⟩ := starts.exists_cons
    exact ⟨c, rest, textEq, notBlank⟩
  cases misfit with
  | noColon starts _ => exact ofWord starts
  | startsQuoted starts _ => exact ofWord starts
  | unknownKey starts _ _ _ _ => exact ofWord starts
  | noValue spelled joined _ =>
      rw [joined]
      exact ofKey spelled
  | emptyValue spelled joined =>
      rw [joined]
      exact ofKey spelled
  | openValue spelled joined _ =>
      rw [joined]
      exact ofKey spelled
  | unknownValue spelled joined _ _ =>
      rw [joined, List.append_assoc, List.cons_append]
      exact ofKey spelled

/-- The scan of a text goes along the lexemes at its start and then on behind them. -/
theorem scanFrom_row {position : Nat} {text rest : List Char} {row : List Occurrence}
    (cut : Row position text row rest) :
    ∃ front, text = front ++ rest ∧
      scanFrom 0 position text =
        (scanFrom 0 (position + front.length) rest).map (row.map Occurrence.toLocated ++ ·) := by
  induction cut with
  | stop position rest =>
      refine ⟨[], rfl, ?_⟩
      cases scanFrom 0 position rest <;> simp [Except.map]
  | @blank position c text rest row separates _ induction =>
      obtain ⟨front, rfl, scanned⟩ := induction
      refine ⟨c :: front, rfl, ?_⟩
      rw [scanFrom_blank separates, scanned, List.length_cons]
      congr 2
      omega
  | @lexeme position word text rest token row spelled _ induction =>
      obtain ⟨front, rfl, scanned⟩ := induction
      refine ⟨word ++ front, by simp, ?_⟩
      rw [scanFrom_lexeme spelled, scanned, List.length_append, ← Nat.add_assoc]
      cases scanFrom 0 (position + word.length + front.length) rest <;> rfl

theorem scanFrom_of_misfit {text : List Char} {fault : SyntaxFault} {offset : Nat}
    (misfit : Misfit text fault offset) (position : Nat) :
    scanFrom 0 position text = .error ⟨fault, position + offset⟩ := by
  have failed := read_of_misfit misfit position
  obtain ⟨c, rest, rfl, notBlank⟩ := misfit.exists_cons
  rw [scanFrom, if_neg (by simp [notBlank]), failed]

/-- A scan that fails has gone along lexemes up to a place where something is wrong.  The induction is on
the length of the text, as for a scan that succeeds. -/
theorem misfit_of_scanFrom {position : Nat} {text : List Char} {error : SyntaxError}
    (failed : scanFrom 0 position text = .error error) :
    ∃ front rest row fault offset, text = front ++ rest ∧ Row position text row rest ∧
      Misfit rest fault offset ∧ error = ⟨fault, position + front.length + offset⟩ := by
  generalize lengthEq : text.length = length
  induction length using Nat.strong_induction_on generalizing position text with
  | _ length induction =>
      cases text with
      | nil => cases failed
      | cons c text =>
          cases blank : Text.isBlank c with
          | true =>
              rw [scanFrom_blank blank] at failed
              obtain ⟨front, rest, row, fault, offset, rfl, cut, misfit, rfl⟩ :=
                induction text.length (by simp [← lengthEq]) failed rfl
              refine ⟨c :: front, rest, row, fault, offset, rfl, .blank blank cut, misfit, ?_⟩
              rw [List.length_cons]
              congr 1
              omega
          | false =>
              cases taken : read position (c :: text) with
              | error found =>
                  rw [scanFrom, if_neg (by simp [blank]), taken] at failed
                  cases failed
                  obtain ⟨fault, offset, misfit, rfl⟩ := misfit_of_read blank taken
                  exact ⟨[], _, [], fault, offset, rfl, .stop _ _, misfit, rfl⟩
              | ok answer =>
                  obtain ⟨token, length⟩ := answer
                  obtain ⟨word, behind, textEq, rfl, lexeme⟩ := lexeme_of_read taken
                  rw [textEq] at failed lengthEq ⊢
                  rw [scanFrom_lexeme lexeme] at failed
                  have shorter : behind.length < length := by
                    obtain ⟨d, tail, rfl, _⟩ := lexeme.head
                    simp at lengthEq
                    omega
                  cases behindScanned : scanFrom 0 (position + word.length) behind with
                  | ok others =>
                      rw [behindScanned] at failed
                      cases failed
                  | error found =>
                      rw [behindScanned] at failed
                      cases failed
                      obtain ⟨front, rest, row, fault, offset, rfl, cut, misfit, rfl⟩ :=
                        induction behind.length shorter behindScanned rfl
                      refine ⟨word ++ front, rest, _, fault, offset, by simp,
                        .lexeme lexeme cut, misfit, ?_⟩
                      rw [List.length_append, ← Nat.add_assoc]

/-- A scan fails exactly if the text is a row of lexemes up to a place where something is wrong, and it
reports what is wrong there. -/
theorem scan_eq_error_iff {text : List Char} {error : SyntaxError} :
    scan text = .error error ↔
      ∃ front rest row fault offset, text = front ++ rest ∧ Row 0 text row rest ∧
        Misfit rest fault offset ∧ error = ⟨fault, front.length + offset⟩ := by
  constructor
  · intro failed
    obtain ⟨front, rest, row, fault, offset, textEq, cut, misfit, errorEq⟩ :=
      misfit_of_scanFrom failed
    exact ⟨front, rest, row, fault, offset, textEq, cut, misfit, by simpa using errorEq⟩
  · rintro ⟨front, rest, row, fault, offset, textEq, cut, misfit, rfl⟩
    obtain ⟨along, alongEq, scanned⟩ := scanFrom_row cut
    obtain rfl : front = along := List.append_cancel_right (textEq.symm.trans alongEq)
    rw [scan, scanned, scanFrom_of_misfit misfit, Nat.zero_add]
    rfl

end IssueWatch.Token
