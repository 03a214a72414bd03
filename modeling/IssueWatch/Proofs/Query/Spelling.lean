import IssueWatch.Proofs.Text.Lines
import IssueWatch.Query.Expr
import IssueWatch.Query.Grammar

/-!
# The parts of a lexeme

Keys, keywords and values are read exactly from their spellings. Quoted bodies are the delicate part: a
reader of single characters has to find the first quote that no backslash hides, whatever stands behind
it.
-/
namespace IssueWatch

namespace Text

theorem endsWord_iff {text : List Char} :
    EndsWord text ↔ ∀ c ∈ text.head?, Token.isWordChar c = false := by
  cases text with
  | nil => simp [EndsWord]
  | cons c rest =>
      cases blank : isBlank c <;> simp [EndsWord, Token.isWordChar, blank]

theorem endsKeyword_iff {text : List Char} :
    EndsKeyword text ↔ ∀ c ∈ text.head?, (Token.isWordChar c && c != '(') = false := by
  cases text with
  | nil => simp [EndsKeyword]
  | cons c rest =>
      by_cases paren : c = '('
      · simp [EndsKeyword, paren]
      · cases blank : isBlank c <;> simp [EndsKeyword, Token.isWordChar, blank, paren]

theorem ne_of_isAlpha {c d : Char} (letter : c.isAlpha = true) (other : d.isAlpha = false) :
    c ≠ d := by
  rintro rfl
  rw [letter] at other
  cases other

theorem isAlpha_iff {c : Char} :
    c.isAlpha = true ↔ (65 ≤ c.toNat ∧ c.toNat ≤ 90) ∨ (97 ≤ c.toNat ∧ c.toNat ≤ 122) := by
  have upper : c.isUpper = true ↔ 65 ≤ c.toNat ∧ c.toNat ≤ 90 := decide_eq_true_iff
  have lower : c.isLower = true ↔ 97 ≤ c.toNat ∧ c.toNat ≤ 122 := by
    change (decide ('a'.val ≤ c.val) && decide (c.val ≤ 'z'.val)) = true ↔ _
    rw [Bool.and_eq_true, decide_eq_true_iff, decide_eq_true_iff]
    rfl
  rw [← upper, ← lower]
  exact Bool.or_eq_true_iff

theorem isBlank_of_isAlpha {c : Char} (letter : c.isAlpha = true) : isBlank c = false := by
  have bounds := isAlpha_iff.mp letter
  simp only [isBlank, Bool.or_eq_false_iff, Bool.and_eq_false_iff, decide_eq_false_iff_not,
    beq_eq_false_iff_ne]
  omega

theorem isWordChar_of_isAlpha {c : Char} (letter : c.isAlpha = true) :
    Token.isWordChar c = true := by
  have notBlank := isBlank_of_isAlpha letter
  have notClose : c ≠ ')' := ne_of_isAlpha letter rfl
  simp [Token.isWordChar, notBlank, notClose]

theorem isAlpha_of_isAlpha_toLower {c : Char} (letter : c.toLower.isAlpha = true) :
    c.isAlpha = true := by
  by_cases upper : 65 ≤ c.toNat ∧ c.toNat ≤ 90
  · exact isAlpha_iff.mpr (.inl upper)
  · have same : c.toLower = c := dif_neg upper
    rwa [same] at letter

theorem isAlpha_of_isAlpha_toUpper {c : Char} (letter : c.toUpper.isAlpha = true) :
    c.isAlpha = true := by
  by_cases lower : 97 ≤ c.toNat ∧ c.toNat ≤ 122
  · exact isAlpha_iff.mpr (.inr lower)
  · have same : c.toUpper = c := dif_neg lower
    rwa [same] at letter

/-! ## Quoted bodies -/

theorem readQuoted_cons {c : Char} {rest : List Char} (ordinary : c ≠ '"' ∧ c ≠ '\\') :
    Token.readQuoted (c :: rest) = (Token.readQuoted rest).map (Token.addQuoted c 1) := by
  rw [Token.readQuoted]
  all_goals grind

theorem readQuoted_backslash {c : Char} {rest : List Char} (ordinary : c ≠ '"' ∧ c ≠ '\\') :
    Token.readQuoted ('\\' :: c :: rest) =
      (Token.readQuoted (c :: rest)).map (Token.addQuoted '\\' 1) := by
  rw [Token.readQuoted]
  all_goals grind

/-- A body in front of a quote is read to the value that it stands for, up to that quote. -/
theorem readQuoted_of_quotedBody {body value : List Char} (reads : QuotedBody body value)
    (rest : List Char) :
    Token.readQuoted (body ++ '"' :: rest) = some (value, body.length + 1) := by
  induction reads with
  | nothing => rfl
  | @hidden c body value special _ induction =>
      rcases special with rfl | rfl
      · simp [Token.readQuoted, induction, Token.addQuoted]
      · simp [Token.readQuoted, induction, Token.addQuoted]
  | @shown c body value ordinary _ induction =>
      rw [List.cons_append, readQuoted_cons ordinary, induction]
      simp [Token.addQuoted]
  | @backslash c body value ordinary _ induction =>
      rw [List.cons_append, List.cons_append, readQuoted_backslash ordinary, ← List.cons_append,
        induction]
      simp [Token.addQuoted]

theorem quotedBody_escapeQuotes (value : List Char) : QuotedBody (escapeQuotes value) value := by
  induction value with
  | nil => exact .nothing
  | cons c value induction =>
      rw [escapeQuotes]
      by_cases special : c = '"' ∨ c = '\\'
      · rw [if_pos special]
        exact .hidden special induction
      · rw [if_neg special]
        exact .shown (not_or.mp special) induction

theorem quotedBody_of_readQuoted {input value : List Char} {length : Nat}
    (read : Token.readQuoted input = some (value, length)) :
    ∃ body rest, input = body ++ '"' :: rest ∧ length = body.length + 1 ∧
      QuotedBody body value := by
  fun_induction Token.readQuoted input generalizing value length with
  | case1 => cases read
  | case2 rest =>
      cases read
      exact ⟨[], rest, rfl, rfl, .nothing⟩
  | case3 rest induction =>
      obtain ⟨⟨inner, written⟩, innerRead, added⟩ := Option.map_eq_some_iff.mp read
      obtain ⟨body, behind, rfl, rfl, reads⟩ := induction innerRead
      cases added
      exact ⟨'\\' :: '"' :: body, behind, rfl, by simp, .hidden (.inl rfl) reads⟩
  | case4 rest induction =>
      obtain ⟨⟨inner, written⟩, innerRead, added⟩ := Option.map_eq_some_iff.mp read
      obtain ⟨body, behind, rfl, rfl, reads⟩ := induction innerRead
      cases added
      exact ⟨'\\' :: '\\' :: body, behind, rfl, by simp, .hidden (.inr rfl) reads⟩
  | case5 c rest noQuote noHiddenQuote noHiddenBackslash induction =>
      obtain ⟨⟨inner, written⟩, innerRead, added⟩ := Option.map_eq_some_iff.mp read
      obtain ⟨body, behind, rfl, rfl, reads⟩ := induction innerRead
      cases added
      refine ⟨c :: body, behind, rfl, by simp, ?_⟩
      by_cases escape : c = '\\'
      · subst escape
        -- A backslash shows itself only in front of a character that it cannot hide.
        cases body with
        | nil => exact (noHiddenQuote behind rfl rfl).elim
        | cons d body =>
            have ordinary : d ≠ '"' ∧ d ≠ '\\' := by
              constructor
              · rintro rfl
                exact noHiddenQuote _ rfl rfl
              · rintro rfl
                exact noHiddenBackslash _ rfl rfl
            exact .backslash ordinary reads
      · exact .shown ⟨noQuote, escape⟩ reads

end Text

/-! ## Values -/

namespace Token

/-- A value in front of any text that may follow it is read, to its last character. -/
theorem readValue_of_value {written value rest : List Char} (reads : Text.Value written value rest) :
    readValue (written ++ rest) = .ok (value, written.length) := by
  cases reads with
  | bare present unquoted whole ends =>
      have longest : (written ++ rest).takeWhile isWordChar = written :=
        Text.takeWhile_append_of_boundary whole (Text.endsWord_iff.mp ends)
      cases written with
      | nil => exact absurd rfl present
      | cons c word =>
          have noQuote : c ≠ '"' := by simpa using unquoted
          rw [List.cons_append] at longest ⊢
          rw [readValue]
          · rw [longest]
          · intro rest headEq
            exact absurd (List.cons.inj headEq).1 noQuote
  | @quoted body value rest present bodyReads =>
      have read := Text.readQuoted_of_quotedBody bodyReads rest
      cases value with
      | nil => exact absurd rfl present
      | cons c value =>
          simp [readValue, read]

theorem value_of_readValue {input value : List Char} {length : Nat}
    (read : readValue input = .ok (value, length)) :
    ∃ written rest, input = written ++ rest ∧ length = written.length ∧
      Text.Value written value rest := by
  unfold readValue at read
  split at read
  · rename_i rest
    split at read
    · cases read
    · cases read
    · rename_i found counted notEmpty readEq
      cases read
      obtain ⟨body, behind, rfl, rfl, reads⟩ := Text.quotedBody_of_readQuoted readEq
      refine ⟨'"' :: body ++ ['"'], behind, by simp, by simp, .quoted ?_ reads⟩
      exact fun empty => notEmpty empty
  · rename_i notQuoted
    split at read
    · cases read
    · rename_i notEmpty
      cases read
      refine ⟨input.takeWhile isWordChar, input.dropWhile isWordChar,
        List.takeWhile_append_dropWhile.symm, rfl, .bare notEmpty ?_ ?_ ?_⟩
      · intro first
        cases input with
        | nil => simp at first
        | cons c rest =>
            have quote : c = '"' := by
              cases wordChar : isWordChar c <;> simp_all
            exact notQuoted rest (by rw [quote])
      · intro c member
        exact List.mem_takeWhile_imp member
      · rw [Text.endsWord_iff]
        exact Text.boundary_of_takeWhile List.takeWhile_append_dropWhile.symm

end Token

/-! ## Keys and keywords -/

theorem Keyword.spelled_text (keyword : Keyword) : keyword.Spelled keyword.text.toList := by
  cases keyword <;> rfl

theorem Qualifier.Key.spelled_text (key : Key) : key.Spelled key.text.toList := by
  cases key <;> rfl

theorem Keyword.Spelled.isAlpha {keyword : Keyword} {word : List Char}
    (spelled : keyword.Spelled word) : ∀ c ∈ word, c.isAlpha = true := by
  intro c member
  have raised : c.toUpper ∈ keyword.text.toList := by
    rw [← spelled]
    exact List.mem_map_of_mem member
  have letters : keyword.text.toList.all Char.isAlpha = true := by
    cases keyword <;> rfl
  exact Text.isAlpha_of_isAlpha_toUpper (List.all_eq_true.mp letters _ raised)

theorem Qualifier.Key.Spelled.isAlpha {key : Key} {name : List Char} (spelled : key.Spelled name) :
    ∀ c ∈ name, c.isAlpha = true := by
  intro c member
  have lowered : c.toLower ∈ key.text.toList := by
    rw [← spelled]
    exact List.mem_map_of_mem member
  have letters : key.text.toList.all Char.isAlpha = true := by
    cases key <;> rfl
  exact Text.isAlpha_of_isAlpha_toLower (List.all_eq_true.mp letters _ lowered)

theorem Keyword.Spelled.head {keyword : Keyword} {word : List Char}
    (spelled : keyword.Spelled word) : ∃ c tail, word = c :: tail ∧ c.isAlpha = true := by
  cases word with
  | nil => cases keyword <;> cases spelled
  | cons c tail => exact ⟨c, tail, rfl, spelled.isAlpha c List.mem_cons_self⟩

theorem Qualifier.Key.Spelled.head {key : Key} {name : List Char} (spelled : key.Spelled name) :
    ∃ c tail, name = c :: tail ∧ c.isAlpha = true := by
  cases name with
  | nil => cases key <;> cases spelled
  | cons c tail => exact ⟨c, tail, rfl, spelled.isAlpha c List.mem_cons_self⟩

theorem Qualifier.Key.Spelled.takeWhile_ne_colon {key : Key} {name : List Char}
    (spelled : key.Spelled name) (rest : List Char) :
    (name ++ ':' :: rest).takeWhile (· != ':') = name :=
  Text.takeWhile_ne_of_first (fun c member => Text.ne_of_isAlpha (spelled.isAlpha c member) rfl) rest

theorem Keyword.ofWord?_eq_some_iff {word : List Char} {keyword : Keyword} :
    ofWord? word = some keyword ↔ keyword.Spelled word := by
  unfold ofWord? Spelled
  constructor
  · intro read
    split at read <;> cases read
    all_goals
      rename_i spelled
      exact spelled
  · intro spelled
    rw [spelled]
    cases keyword <;> rfl

theorem Qualifier.Key.ofWord?_eq_some_iff {word : List Char} {key : Key} :
    ofWord? word = some key ↔ key.Spelled word := by
  unfold ofWord? Spelled
  constructor
  · intro read
    split at read <;> cases read
    all_goals
      rename_i spelled
      exact spelled
  · intro spelled
    rw [spelled]
    cases key <;> rfl

/-- The qualifier of a key and a value is the one with this key that the value is written for. -/
theorem Qualifier.ofKeyValue?_eq_some_iff {key : Key} {value : List Char} {test : Qualifier} :
    ofKeyValue? key value = some test ↔ test.key = key ∧ test.Written value := by
  have ofListEq (name : String) : String.ofList value = name ↔ value = name.toList := by
    constructor
    · rintro rfl
      exact String.toList_ofList.symm
    · rintro rfl
      exact String.ofList_toList
  cases key with
  | label | milestone | assignee =>
      cases test <;> simp [ofKeyValue?, Qualifier.key, Written, isNamed, Qualifier.value, ofListEq]
  | is =>
      simp only [ofKeyValue?]
      constructor
      · intro read
        split at read <;> cases read
        all_goals
          rename_i spelled
          exact ⟨rfl, spelled⟩
      · rintro ⟨sameKey, written⟩
        cases test with
        | label name => cases sameKey
        | milestone title => cases sameKey
        | assignee login => cases sameKey
        | isIssue | isPullRequest | isOpen | isClosed =>
            have spelled : value.map Char.toLower = _ := written
            rw [spelled]
            rfl

end IssueWatch
