import IssueWatch.Proofs.Query.Layout
import IssueWatch.Proofs.Query.Parsing
import IssueWatch.Proofs.Query.Scanning

/-!
# Canonical text reads back

The canonical text of an expression is read back to the expression, unless a name in it is empty: then
reading stops at the quotes of the first such name. The tokens of canonical text are stated apart, so
that one induction shows that they derive the expression and another that its text scans to them.
-/
namespace IssueWatch

open Phrase (Derives)

namespace Expr

/-! ## The tokens of canonical text -/

/-- Puts the tokens of a compound expression in parentheses. -/
def wrapTokens (compound : Bool) (tokens : List Token) : List Token :=
  if compound then .openParen :: tokens ++ [.closeParen] else tokens

mutual
/-- The tokens of the canonical text of an expression. -/
def tokens : Expr → List Token
  | .and children => tokensJoined .and children
  | .or children => tokensJoined .or children
  | .not child => .keyword .not :: wrapTokens child.isCompound (tokens child)
  | .leaf qualifier => [.qualifier qualifier]

/-- The tokens of several children with a keyword between each two. -/
def tokensJoined (separator : Keyword) : List Expr → List Token
  | [] => []
  | child :: rest =>
      wrapTokens child.isCompound (tokens child) ++
        if rest.isEmpty then [] else .keyword separator :: tokensJoined separator rest
end

theorem derives_tokensJoined {separator : Keyword} {phrase : List Expr → Phrase}
    (last : ∀ {tokens : List Token} {child : Expr},
      Derives tokens (.negation child) → Derives tokens (phrase [child]))
    (next : ∀ {tokens others : List Token} {child : Expr} {rest : List Expr},
      Derives tokens (.negation child) → Derives others (phrase rest) →
        Derives (tokens ++ .keyword separator :: others) (phrase (child :: rest)))
    {children : List Expr} (present : children ≠ [])
    (each : ∀ child ∈ children,
      Derives (wrapTokens child.isCompound child.tokens) (.negation child)) :
    Derives (tokensJoined separator children) (phrase children) := by
  induction children with
  | nil => exact absurd rfl present
  | cons child rest induction =>
      have first := each child List.mem_cons_self
      rw [tokensJoined]
      cases rest with
      | nil => simpa using last first
      | cons other rest =>
          have others := induction (List.cons_ne_nil other rest)
            fun inner member => each inner (List.mem_cons_of_mem child member)
          exact next first others

theorem ne_nil_of_wide {children : List Expr} (wide : 2 ≤ children.length) : children ≠ [] := by
  rintro rfl
  cases wide

/-- The canonical tokens of a well-formed expression denote it, and in parentheses where it is compound
they form an operand. -/
theorem denoted_tokens {expression : Expr} (wellFormed : expression.WellFormed) :
    expression.Denoted expression.tokens ∧
      Derives (wrapTokens expression.isCompound expression.tokens) (.negation expression) := by
  induction wellFormed with
  | @and children wide _ induction =>
      have run := derives_tokensJoined .lastOperand .joinedOperand (ne_nil_of_wide wide)
        fun child member => (induction child member).2
      have denoted : Denoted (.and children) (tokens (.and children)) :=
        (Derives.severalOperands run wide).disjunction_of_conjunction
      exact ⟨denoted, .plain (.group denoted)⟩
  | @or children wide _ induction =>
      have run := derives_tokensJoined (fun only => .lastAlternative only.conjunction_of_negation)
        (fun first => .nextAlternative first.conjunction_of_negation) (ne_nil_of_wide wide)
        fun child member => (induction child member).2
      have denoted : Denoted (.or children) (tokens (.or children)) :=
        Derives.severalAlternatives run wide
      exact ⟨denoted, .plain (.group denoted)⟩
  | @not child _ induction =>
      have negation : Derives (tokens (.not child)) (.negation (.not child)) := .negated induction.2
      exact ⟨negation.conjunction_of_negation.disjunction_of_conjunction, negation⟩
  | leaf qualifier =>
      have negation : Derives (tokens (.leaf qualifier)) (.negation (.leaf qualifier)) :=
        .plain (.qualifier qualifier)
      exact ⟨negation.conjunction_of_negation.disjunction_of_conjunction, negation⟩

end Expr

namespace Token

/-! ## Scanning canonical text -/

/-- From an offset on and in front of a rest, a text is scanned to tokens, or up to the first of the
offsets of its empty names. -/
def Scans (position : Nat) (text rest : List Char) (tokens : List Token) (offsets : List Nat) : Prop :=
  match offsets with
  | [] => ∃ located : List Located, located.map Located.token = tokens ∧
      scanFrom 0 position (text ++ rest) =
        (scanFrom 0 (position + text.length) rest).map (located ++ ·)
  | offset :: _ => scanFrom 0 position (text ++ rest) = .error ⟨.emptyQuotedValue, offset⟩

private theorem map_nil_append {Value : Type*} (result : Except SyntaxError (List Value)) :
    result.map ([] ++ ·) = result := by
  cases result <;> rfl

theorem scans_nil (position : Nat) (rest : List Char) : Scans position [] rest [] [] :=
  ⟨[], rfl, (map_nil_append _).symm⟩

theorem Scans.append {position : Nat} {first second rest : List Char} {tokens more : List Token}
    {offsets others : List Nat}
    (firstScans : Scans position first (second ++ rest) tokens offsets)
    (secondScans : Scans (position + first.length) second rest more others) :
    Scans position (first ++ second) rest (tokens ++ more) (offsets ++ others) := by
  cases offsets with
  | cons offset offsets =>
      have failed : scanFrom 0 position (first ++ (second ++ rest)) =
          .error ⟨.emptyQuotedValue, offset⟩ := firstScans
      change scanFrom 0 position (first ++ second ++ rest) = _
      rw [List.append_assoc]
      exact failed
  | nil =>
      obtain ⟨located, rfl, firstEq⟩ := firstScans
      cases others with
      | cons offset others =>
          have failed : scanFrom 0 (position + first.length) (second ++ rest) =
              .error ⟨.emptyQuotedValue, offset⟩ := secondScans
          change scanFrom 0 position (first ++ second ++ rest) = _
          rw [List.append_assoc, firstEq, failed]
          rfl
      | nil =>
          obtain ⟨behind, rfl, secondEq⟩ := secondScans
          refine ⟨located ++ behind, List.map_append, ?_⟩
          rw [List.append_assoc, firstEq, secondEq, List.length_append, ← Nat.add_assoc]
          cases scanFrom 0 (position + first.length + second.length) rest with
          | error error => rfl
          | ok final => simp [Except.map]

theorem Lexeme.scans {word rest : List Char} {token : Token} (lexeme : Lexeme word token rest)
    (position : Nat) : Scans position word rest [token] [] :=
  ⟨[⟨token, position⟩], rfl, scanFrom_lexeme lexeme position⟩

theorem scans_space (position : Nat) (rest : List Char) : Scans position [' '] rest [] [] := by
  refine ⟨[], rfl, ?_⟩
  rw [List.singleton_append, scanFrom_blank Text.isBlank_space, map_nil_append]
  rfl

theorem scans_keyword (keyword : Keyword) (position : Nat) (rest : List Char) :
    Scans position (keyword.text.toList ++ [' ']) rest [.keyword keyword] [] := by
  have lexeme : Lexeme keyword.text.toList (.keyword keyword) ([' '] ++ rest) :=
    .keyword keyword.spelled_text (.inl Text.isBlank_space)
  exact (lexeme.scans position).append (scans_space _ rest)

theorem scans_separator (keyword : Keyword) (position : Nat) (rest : List Char) :
    Scans position (' ' :: keyword.text.toList ++ [' ']) rest [.keyword keyword] [] := by
  have scans := (scans_space position _).append (scans_keyword keyword (position + 1) rest)
  simpa using scans

theorem Scans.group {position : Nat} {text rest : List Char} {tokens : List Token}
    {offsets : List Nat} (inner : Scans (position + 1) text (')' :: rest) tokens offsets) :
    Scans position ('(' :: text ++ [')']) rest (.openParen :: tokens ++ [.closeParen]) offsets := by
  have opened := (Lexeme.openParen (text ++ [')'] ++ rest)).scans position
  have closed := (Lexeme.closeParen rest).scans (position + 1 + text.length)
  have body := inner.append closed
  rw [List.append_nil] at body
  have whole := opened.append body
  simpa using whole

theorem Scans.wrap {position : Nat} {text rest : List Char} {tokens : List Token}
    {offsets : List Nat} {compound : Bool}
    (inner : ∀ rest : List Char, Text.EndsWord rest →
      Scans (position + if compound then 1 else 0) text rest tokens offsets)
    (ends : Text.EndsWord rest) :
    Scans position (Expr.wrap compound text) rest (Expr.wrapTokens compound tokens) offsets := by
  cases compound with
  | false => exact inner rest ends
  | true => exact .group (inner (')' :: rest) (.inr rfl))

end Token

namespace Expr

open Token (Scans)

theorem value_formatName {name rest : List Char} (present : name ≠ []) (ends : Text.EndsWord rest) :
    Text.Value (formatName name) name rest := by
  rw [formatName]
  split
  · exact .quoted present (Text.quotedBody_escapeQuotes name)
  · rename_i bare
    have plain : ∀ c ∈ name, needsQuotes c = false := by
      simp only [Bool.or_eq_true, not_or, List.any_eq_true, not_exists, not_and,
        Bool.not_eq_true] at bare
      exact bare.2
    refine .bare present ?_ ?_ ends
    · intro quote
      have inside : '"' ∈ name := List.mem_of_head? quote
      exact absurd (plain '"' inside) (by decide)
    · intro c member
      have unquoted := plain c member
      simp only [needsQuotes, Bool.or_eq_false_iff, beq_eq_false_iff_ne] at unquoted
      simp [Token.isWordChar, unquoted]

theorem isNamed_of_value_eq_empty {qualifier : Qualifier} (empty : qualifier.value = "") :
    qualifier.isNamed = true := by
  cases qualifier with
  | label name => rfl
  | milestone title => rfl
  | assignee login => rfl
  | isIssue | isPullRequest | isOpen | isClosed => exact absurd empty (by decide)

theorem value_of_not_isNamed {qualifier : Qualifier} (unnamed : qualifier.isNamed = false)
    {rest : List Char} (ends : Text.EndsWord rest) :
    Text.Value qualifier.value.toList qualifier.value.toList rest ∧
      qualifier.Written qualifier.value.toList := by
  cases qualifier with
  | label name => cases unnamed
  | milestone title => cases unnamed
  | assignee login => cases unnamed
  | isIssue | isPullRequest | isOpen | isClosed =>
      exact ⟨.bare (by decide) (by decide) (List.all_eq_true.mp rfl) ends, rfl⟩

/-- At an empty name scanning stops, at the quotes behind the colon. -/
theorem scanFrom_emptyName {key : Qualifier.Key} {name : List Char} (spelled : key.Spelled name)
    (position : Nat) (rest : List Char) :
    Token.scanFrom 0 position (name ++ ':' :: '"' :: '"' :: rest) =
      .error ⟨.emptyQuotedValue, position + name.length + 1⟩ := by
  have stopped : Token.read position (name ++ ':' :: '"' :: '"' :: rest) =
      .error ⟨.emptyQuotedValue, position + name.length + 1⟩ := by
    rw [Token.read_key spelled]
    rfl
  obtain ⟨c, tail, rfl, letter⟩ := spelled.head
  rw [List.cons_append] at stopped ⊢
  rw [Token.scanFrom, Text.isBlank_of_isAlpha letter, stopped]
  rfl

/-- A written qualifier is scanned to its token, or up to its quotes if its name is empty. -/
theorem scans_formatQualifier (qualifier : Qualifier) (position : Nat) {rest : List Char}
    (ends : Text.EndsWord rest) :
    Scans position (formatQualifier qualifier) rest [.qualifier qualifier]
      ([(position, qualifier)].filterMap emptyNameOffset?) := by
  have spelled := qualifier.key.spelled_text
  by_cases empty : qualifier.value = ""
  · have written : formatQualifier qualifier =
        qualifier.key.text.toList ++ [':', '"', '"'] := by
      rw [formatQualifier, isNamed_of_value_eq_empty empty, empty]
      rfl
    have offsets : [(position, qualifier)].filterMap emptyNameOffset? =
        [position + qualifier.key.text.toList.length + 1] := by
      simp [emptyNameOffset?, empty, String.length_toList]
    rw [written, offsets]
    change Token.scanFrom 0 position (_ ++ rest) = _
    rw [List.append_assoc]
    exact scanFrom_emptyName spelled position rest
  · have offsets : [(position, qualifier)].filterMap emptyNameOffset? = [] := by
      simp [emptyNameOffset?, empty]
    rw [offsets, formatQualifier]
    apply Token.Lexeme.scans
    cases named : qualifier.isNamed with
    | true =>
        have present : qualifier.value.toList ≠ [] := by
          simpa using empty
        have fits : qualifier.Written qualifier.value.toList := by
          rw [Qualifier.Written, named]
          rfl
        exact .qualifier spelled (value_formatName present ends) fits
    | false =>
        obtain ⟨reads, fits⟩ := value_of_not_isNamed named ends
        exact .qualifier spelled reads fits

theorem scans_formatJoined (separator : Keyword) {children : List Expr} {position : Nat}
    {rest : List Char} (ends : Text.EndsWord rest)
    (each : ∀ child ∈ children, ∀ (position : Nat) (rest : List Char), Text.EndsWord rest →
      Scans position child.formatChars rest child.tokens
        ((child.layout position).filterMap emptyNameOffset?)) :
    Scans position (formatJoined (' ' :: separator.text.toList ++ [' ']) children) rest
      (tokensJoined separator children)
      ((layoutJoined (' ' :: separator.text.toList ++ [' ']) position children).filterMap
        emptyNameOffset?) := by
  induction children generalizing position with
  | nil => exact Token.scans_nil position rest
  | cons child others induction =>
      rw [formatJoined, tokensJoined, layoutJoined, List.filterMap_append]
      have own (rest : List Char) (ends : Text.EndsWord rest) :=
        each child List.mem_cons_self (position + if child.isCompound then 1 else 0) rest ends
      have wrapped {rest : List Char} (ends : Text.EndsWord rest) :
          Scans position (wrap child.isCompound child.formatChars) rest _ _ :=
        .wrap own ends
      cases others with
      | nil => simpa [layoutJoined] using (wrapped ends).append (Token.scans_nil _ rest)
      | cons next others =>
          have behind (position : Nat) := @induction position
            fun other member => each other (List.mem_cons_of_mem child member)
          have separated (position : Nat) :=
            (Token.scans_separator separator position _).append (behind _)
          refine (wrapped ?_).append (separated _)
          exact Or.inl Text.isBlank_space

/-- Canonical text is scanned to its tokens, or up to its first empty name. -/
theorem scans_formatChars (expression : Expr) (position : Nat) {rest : List Char}
    (ends : Text.EndsWord rest) :
    Scans position expression.formatChars rest expression.tokens
      ((expression.layout position).filterMap emptyNameOffset?) := by
  induction expression using inductionOnChildren generalizing position rest with
  | and children induction =>
      exact scans_formatJoined .and ends fun child member position _ => induction child member position
  | or children induction =>
      exact scans_formatJoined .or ends fun child member position _ => induction child member position
  | not child induction =>
      rw [formatChars, tokens, layout]
      have inner : Scans (position + "NOT ".length) (wrap child.isCompound child.formatChars) rest _ _ :=
        .wrap (fun _ ends => induction _ ends) ends
      exact (Token.scans_keyword .not position _).append inner
  | leaf qualifier => exact scans_formatQualifier qualifier position ends

/-- The tokens of an accepted text denote its expression. -/
theorem exists_scan_of_parse {text : String} {expression : Expr} (read : parse text = .ok expression) :
    ∃ tokens, Token.scan text.toList = .ok tokens ∧
      expression.Denoted (tokens.map Token.Located.token) := by
  rw [parse] at read
  cases scanned : Token.scan text.toList with
  | error error => simp [scanned] at read
  | ok tokens =>
      simp only [scanned] at read
      exact ⟨tokens, rfl, denoted_of_ofTokens read⟩

theorem parse_eq_ok {text : List Char} {tokens : List Token} {expression : Expr}
    (scans : Scans 0 text [] tokens []) (denoted : expression.Denoted tokens) :
    parse (String.ofList text) = .ok expression := by
  obtain ⟨located, rfl, scanned⟩ := scans
  have scanEq : Token.scan text = .ok located := by
    rw [Token.scan]
    simpa [Token.scanFrom, Except.map] using scanned
  rw [parse, String.toList_ofList, scanEq]
  exact ofTokens_of_denoted denoted text.length

theorem parse_eq_error {text : List Char} {tokens : List Token} {offset : Nat} {offsets : List Nat}
    (scans : Scans 0 text [] tokens (offset :: offsets)) :
    parse (String.ofList text) = .error ⟨.emptyQuotedValue, offset⟩ := by
  have scanEq : Token.scan text = .error ⟨.emptyQuotedValue, offset⟩ := by
    have failed : Token.scanFrom 0 0 (text ++ []) = .error ⟨.emptyQuotedValue, offset⟩ := scans
    rwa [List.append_nil] at failed
  rw [parse, String.toList_ofList, scanEq]

theorem emptyNameOffsets_eq_nil_iff (expression : Expr) :
    expression.emptyNameOffsets = [] ↔
      ∀ qualifier ∈ expression.leaves, qualifier.isNamed = true → qualifier.value ≠ "" := by
  rw [emptyNameOffsets, List.filterMap_eq_nil_iff, ← map_snd_layout 0 expression]
  constructor
  · intro none qualifier member _ empty
    obtain ⟨entry, inLayout, rfl⟩ := List.mem_map.mp member
    have noOffset := none entry inLayout
    simp [emptyNameOffset?, empty] at noOffset
  · intro present entry member
    rw [emptyNameOffset?, if_neg]
    intro empty
    exact present entry.2 (List.mem_map_of_mem member) (isNamed_of_value_eq_empty empty) empty

theorem quotes_of_mem_emptyNameOffsets {expression : Expr} {offset : Nat}
    (member : offset ∈ expression.emptyNameOffsets) :
    ∃ front behind, expression.formatChars = front ++ '"' :: '"' :: behind ∧
      front.length = offset := by
  obtain ⟨entry, inLayout, offsetEq⟩ := List.mem_filterMap.mp member
  obtain ⟨front, behind, textEq, entryEq⟩ := occurs_of_mem_layout inLayout
  rw [emptyNameOffset?] at offsetEq
  split at offsetEq
  · rename_i empty
    cases offsetEq
    refine ⟨front ++ entry.2.key.text.toList ++ [':'], behind, ?_, ?_⟩
    · rw [textEq, formatQualifier, isNamed_of_value_eq_empty empty, empty]
      simp [formatName, Text.inQuotes, Text.escapeQuotes]
    · simp [entryEq, String.length_toList]
      omega
  · cases offsetEq

/-- The offsets of the empty names grow from left to right. The keys are of different lengths, so this
needs that the qualifiers do not overlap. -/
theorem emptyNameOffsets_sorted (expression : Expr) :
    expression.emptyNameOffsets.Pairwise (· < ·) := by
  rw [emptyNameOffsets, List.pairwise_filterMap]
  apply (layout_sorted expression 0).imp
  intro first second endsBefore firstOffset firstEq secondOffset secondEq
  have keyFits : first.2.key.text.length < (formatQualifier first.2).length := by
    rw [formatQualifier, List.length_append, List.length_cons, String.length_toList]
    omega
  rw [emptyNameOffset?] at firstEq secondEq
  rw [EndsBefore] at endsBefore
  split at firstEq
  · split at secondEq
    · cases firstEq
      cases secondEq
      omega
    · cases secondEq
  · cases firstEq

/-- The canonical text of a well-formed expression is read to the expression itself, unless a name in it
is empty. Then it is rejected at the opening quote of the leftmost empty name. -/
theorem parse_format (expression : Expr) (wellFormed : expression.WellFormed) :
    (parse expression.format = .ok expression ↔
        ∀ qualifier ∈ expression.leaves, qualifier.isNamed = true → qualifier.value ≠ "") ∧
      ((∃ qualifier ∈ expression.leaves, qualifier.isNamed = true ∧ qualifier.value = "") →
        ∃ offset : Nat, expression.emptyNameOffsets.head? = some offset ∧
          (∀ other ∈ expression.emptyNameOffsets, offset ≤ other) ∧
          (∃ front behind, expression.format.toList = front ++ '"' :: '"' :: behind ∧
            front.length = offset) ∧
          parse expression.format = .error ⟨.emptyQuotedValue, offset⟩ ∧
          SyntaxFault.message .emptyQuotedValue = "Empty quoted value") := by
  have scans : Scans 0 expression.formatChars [] expression.tokens expression.emptyNameOffsets :=
    scans_formatChars expression 0 trivial
  constructor
  · rw [← emptyNameOffsets_eq_nil_iff]
    constructor
    · intro read
      cases offsetsEq : expression.emptyNameOffsets with
      | nil => rfl
      | cons offset offsets =>
          rw [offsetsEq] at scans
          rw [format, parse_eq_error scans] at read
          cases read
    · intro noOffsets
      rw [noOffsets] at scans
      exact parse_eq_ok scans (denoted_tokens wellFormed).1
  · rintro ⟨qualifier, member, named, empty⟩
    have sorted := emptyNameOffsets_sorted expression
    cases offsetsEq : expression.emptyNameOffsets with
    | nil => exact absurd empty ((emptyNameOffsets_eq_nil_iff expression).mp offsetsEq qualifier member named)
    | cons offset offsets =>
        rw [offsetsEq] at scans sorted
        have first : offset ∈ expression.emptyNameOffsets := by
          rw [offsetsEq]
          exact List.mem_cons_self
        refine ⟨offset, rfl, ?_, ?_, parse_eq_error scans, rfl⟩
        · intro other otherMember
          rcases List.mem_cons.mp otherMember with rfl | later
          · exact Nat.le_refl _
          · exact Nat.le_of_lt (List.rel_of_pairwise_cons sorted later)
        · rw [format, String.toList_ofList]
          exact quotes_of_mem_emptyNameOffsets first

/-- The second of two empty names does not matter, nor do quotes inside a name in front of both. -/
theorem parse_format_two_empty_names :
    let expression : Expr :=
      .or [.and [.leaf (.label "\"\""), .not (.leaf (.milestone ""))], .not (.leaf (.assignee ""))]
    expression.format = "(label:\"\\\"\\\"\" AND NOT milestone:\"\") OR NOT assignee:\"\"" ∧
      parse expression.format = .error ⟨.emptyQuotedValue, 32⟩ := by
  intro expression
  have wellFormed : expression.WellFormed := by
    refine .or (by decide) fun child member => ?_
    simp only [List.mem_cons, List.not_mem_nil, or_false] at member
    rcases member with rfl | rfl
    · refine .and (by decide) fun child member => ?_
      simp only [List.mem_cons, List.not_mem_nil, or_false] at member
      rcases member with rfl | rfl
      · exact .leaf _
      · exact .not (.leaf _)
    · exact .not (.leaf _)
  refine ⟨by decide, ?_⟩
  obtain ⟨offset, firstEq, _, _, rejected, _⟩ := (parse_format expression wellFormed).2
    ⟨.milestone "", by decide, rfl, rfl⟩
  have offsetEq : some 32 = some offset := firstEq
  cases offsetEq
  exact rejected

end Expr
end IssueWatch
