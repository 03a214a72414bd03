import IssueWatch.Link
import IssueWatch.Proofs.Query.Spelling
import Mathlib.Data.List.Basic

/-!
# Searches mean what their queries mean

An expression has a search fragment exactly if it is flat, and the fragment reads back as its signed
qualifiers from left to right. Quoting depends on the value: a quote or backslash is hidden in quotes and
stands for itself in a bare value, so the reader has to take the same decision from the first character
that the writer takes from the whole value.
-/
namespace IssueWatch

namespace Expr

/-! ## Which expressions are flat -/

theorem flat_leaf (qualifier : Qualifier) : Flat (.leaf qualifier) where
  noDisjunction children within := by cases within
  negatedName child within := by cases within

theorem not_flat_or (children : List Expr) : ¬ Flat (.or children) :=
  fun flat => flat.noDisjunction children (.here _)

theorem flat_not_iff (child : Expr) :
    Flat (.not child) ↔ ∃ qualifier : Qualifier, child = .leaf qualifier ∧ qualifier.isNamed = true := by
  constructor
  · intro flat
    exact flat.negatedName child (.here _)
  · rintro ⟨qualifier, rfl, named⟩
    constructor
    · intro children within
      cases within with
      | not inside => cases inside
    · intro child within
      cases within with
      | here => exact ⟨qualifier, rfl, named⟩
      | not inside => cases inside

theorem flat_and_iff (children : List Expr) :
    Flat (.and children) ↔ ∀ child ∈ children, Flat child := by
  constructor
  · intro flat child member
    exact ⟨fun others within => flat.noDisjunction others (.and member within),
      fun inner within => flat.negatedName inner (.and member within)⟩
  · intro flat
    constructor
    · intro others within
      cases within with
      | and member inside => exact (flat _ member).noDisjunction others inside
    · intro inner within
      cases within with
      | and member inside => exact (flat _ member).negatedName inner inside

/-! ## Signed qualifiers -/

theorem signsOfList_eq_flatMap (negated : Bool) (children : List Expr) :
    signsOfList negated children = children.flatMap (signs negated) := by
  induction children with
  | nil => rfl
  | cons child rest induction => simp [signsOfList, induction]

theorem map_qualifier_signs (expression : Expr) (negated : Bool) :
    (expression.signs negated).map SignedQualifier.qualifier = expression.leaves := by
  induction expression using inductionOnChildren generalizing negated with
  | and children induction | or children induction =>
      rw [signs, leaves, signsOfList_eq_flatMap, leavesOfList_eq_flatMap, List.map_flatMap]
      exact List.flatMap_congr fun child member => induction child member negated
  | not child induction => exact induction (!negated)
  | leaf qualifier => rfl

theorem signedLeavesOfList?_of_forall {children : List Expr}
    (each : ∀ child ∈ children, child.signedLeaves? = some (child.signs false)) :
    signedLeavesOfList? children = some (signsOfList false children) := by
  induction children with
  | nil => rfl
  | cons child rest induction =>
      have first := each child List.mem_cons_self
      have others := induction fun other member => each other (List.mem_cons_of_mem child member)
      rw [signedLeavesOfList?, first, others]
      rfl

theorem exists_of_signedLeavesOfList? {children : List Expr} {found : List SignedQualifier}
    (foundEq : signedLeavesOfList? children = some found) :
    ∀ child ∈ children, ∃ own, child.signedLeaves? = some own := by
  induction children generalizing found with
  | nil => simp
  | cons child rest induction =>
      rw [signedLeavesOfList?] at foundEq
      split at foundEq
      · rename_i first others firstEq othersEq
        intro other member
        rcases List.mem_cons.mp member with rfl | member
        · exact ⟨first, firstEq⟩
        · exact induction othersEq other member
      · cases foundEq

theorem signedLeaves?_of_flat {expression : Expr} (flat : expression.Flat) :
    expression.signedLeaves? = some (expression.signs false) := by
  induction expression using inductionOnChildren with
  | and children induction =>
      have each := (flat_and_iff children).mp flat
      exact signedLeavesOfList?_of_forall fun child member => induction child member (each child member)
  | or children => exact absurd flat (not_flat_or children)
  | not child =>
      obtain ⟨qualifier, rfl, named⟩ := (flat_not_iff child).mp flat
      rw [signedLeaves?, if_pos named]
      rfl
  | leaf qualifier => rfl

theorem flat_of_signedLeaves? {expression : Expr} {found : List SignedQualifier}
    (foundEq : expression.signedLeaves? = some found) : expression.Flat := by
  induction expression using inductionOnChildren generalizing found with
  | and children induction =>
      rw [flat_and_iff]
      intro child member
      obtain ⟨own, ownEq⟩ := exists_of_signedLeavesOfList? foundEq child member
      exact induction child member ownEq
  | or children => cases foundEq
  | not child =>
      rw [flat_not_iff]
      cases child with
      | leaf qualifier =>
          rw [signedLeaves?] at foundEq
          split at foundEq
          · rename_i named
            exact ⟨qualifier, rfl, named⟩
          · cases foundEq
      | and children => cases foundEq
      | or children => cases foundEq
      | not inner => cases foundEq
  | leaf qualifier => exact flat_leaf qualifier

theorem holds_eq_all_signs {expression : Expr} (flat : expression.Flat) (issue : Issue) :
    expression.holds issue = (expression.signs false).all (SignedQualifier.holds issue) := by
  induction expression using inductionOnChildren with
  | and children induction =>
      have each := (flat_and_iff children).mp flat
      rw [holds_and, signs, signsOfList_eq_flatMap, List.all_flatMap]
      rw [Bool.eq_iff_iff, List.all_eq_true, List.all_eq_true]
      constructor
      · intro all child member
        rw [← induction child member (each child member)]
        exact all child member
      · intro all child member
        rw [induction child member (each child member)]
        exact all child member
  | or children => exact absurd flat (not_flat_or children)
  | not child =>
      obtain ⟨qualifier, rfl, _⟩ := (flat_not_iff child).mp flat
      simp [signs, SignedQualifier.holds]
  | leaf qualifier => simp [signs, SignedQualifier.holds]

end Expr

namespace SignedQualifier

/-! ## Reading back -/

/-- A text ends or goes on with a space. -/
def EndsQualifier (text : List Char) : Prop :=
  ∀ c ∈ text.head?, c = ' '

/-- A written value is read back in front of any text that may follow it. -/
theorem readValue?_formatValue (value : List Char) {rest : List Char} (ends : EndsQualifier rest) :
    readValue? (formatValue value ++ rest) = some (value, (formatValue value).length) := by
  rw [formatValue]
  split
  · have read := Text.readQuoted_of_quotedBody (Text.quotedBody_escapeQuotes value) rest
    simp [Text.inQuotes, readValue?, read]
  · rename_i bare
    simp only [Bool.or_eq_true, beq_iff_eq, not_or, List.any_eq_true, not_exists, not_and,
      Bool.not_eq_true] at bare
    obtain ⟨noQuote, noBlank⟩ := bare
    have longest : (value ++ rest).takeWhile (fun c => !Text.isBlank c) = value := by
      apply Text.takeWhile_append_of_boundary
      · intro c member
        simp [noBlank c member]
      · intro c first
        rw [ends c first]
        rfl
    rw [readValue?]
    · simp only [longest]
    · intro tail startEq
      cases value with
      | nil =>
          have first : '"' ∈ rest.head? := by
            rw [List.nil_append] at startEq
            rw [startEq]
            rfl
          exact absurd (ends '"' first) (by decide)
      | cons c value =>
          have quote : c = '"' := (List.cons.inj startEq).1
          exact noQuote (by rw [quote]; rfl)

theorem readPlain?_format (qualifier : Qualifier) {rest : List Char} (ends : EndsQualifier rest) :
    readPlain?
        (qualifier.key.text.toList ++ ':' :: formatValue qualifier.value.toList ++ rest) =
      some (qualifier, qualifier.key.text.toList.length + 1 +
        (formatValue qualifier.value.toList).length) := by
  have spelled := qualifier.key.spelled_text
  have valueRead := readValue?_formatValue qualifier.value.toList ends
  rw [List.append_assoc, List.cons_append, readPlain?]
  simp only [spelled.takeWhile_ne_colon, Qualifier.Key.ofWord?_eq_some_iff.mpr spelled, List.drop_left, valueRead,
    Qualifier.ofKeyValue?_key_value, Option.map_some]

theorem read?_formatChars (signed : SignedQualifier) {rest : List Char}
    (ends : EndsQualifier rest) :
    read? (signed.formatChars ++ rest) = some (signed, signed.formatChars.length) := by
  obtain ⟨negated, qualifier⟩ := signed
  have plain := readPlain?_format qualifier ends
  cases negated with
  | true =>
      rw [formatChars, if_pos rfl, List.singleton_append, List.cons_append, List.cons_append, read?,
        plain]
      simp
      omega
  | false =>
      have noDash : ∀ tail : List Char, qualifier.key.text.toList ++
          ':' :: formatValue qualifier.value.toList ++ rest = '-' :: tail → False := by
        intro tail startEq
        cases keyEq : qualifier.key <;> rw [keyEq] at startEq <;>
          exact absurd (List.cons.inj startEq).1 (by decide)
      rw [formatChars, if_neg Bool.false_ne_true, List.nil_append, read?, plain]
      · simp
        omega
      · exact noDash

theorem readAllFrom?_append (word rest : List Char) :
    readAllFrom? word.length (word ++ rest) = readAllFrom? 0 rest := by
  induction word with
  | nil => rfl
  | cons c word induction => rw [List.length_cons, List.cons_append, readAllFrom?, induction]

theorem formatChars_ne_nil (signed : SignedQualifier) : signed.formatChars ≠ [] := by
  simp [formatChars]

theorem readAllFrom?_last (signed : SignedQualifier) :
    readAllFrom? 0 signed.formatChars = some [signed] := by
  have ends : EndsQualifier [] := by simp [EndsQualifier]
  have read := read?_formatChars signed ends
  rw [List.append_nil] at read
  obtain ⟨c, tail, written⟩ := List.exists_cons_of_ne_nil signed.formatChars_ne_nil
  rw [written] at read ⊢
  rw [readAllFrom?, read]
  simp

theorem readAllFrom?_next (signed : SignedQualifier) (rest : List Char) :
    readAllFrom? 0 (signed.formatChars ++ ' ' :: rest) =
      (readAllFrom? 0 rest).map (signed :: ·) := by
  have ends : EndsQualifier (' ' :: rest) := by simp [EndsQualifier]
  have read := read?_formatChars signed ends
  obtain ⟨c, tail, written⟩ := List.exists_cons_of_ne_nil signed.formatChars_ne_nil
  rw [written] at read ⊢
  rw [List.cons_append] at read ⊢
  -- The separating space is passed over together with the qualifier's own characters.
  have passed : readAllFrom? (tail.length + 1) (tail ++ ' ' :: rest) = readAllFrom? 0 rest := by
    simpa using readAllFrom?_append (tail ++ [' ']) rest
  rw [readAllFrom?, read]
  simp [passed]

theorem readAllFrom?_formatSearch (first : SignedQualifier) (others : List SignedQualifier) :
    readAllFrom? 0 (Expr.formatSearch (first :: others)) = some (first :: others) := by
  induction others generalizing first with
  | nil => exact readAllFrom?_last first
  | cons second others induction =>
      have behind := induction second
      rw [Expr.formatSearch, readAllFrom?_next, behind]
      · rfl
      · intro same
        cases same

theorem readAll?_formatSearch (search : List SignedQualifier) :
    readAll? (String.ofList (Expr.formatSearch search)) = some search := by
  cases search with
  | nil => rfl
  | cons first others =>
      have read := readAllFrom?_formatSearch first others
      have present : String.ofList (Expr.formatSearch (first :: others)) ≠ "" := by
        intro empty
        have noChars : Expr.formatSearch (first :: others) = [] := by
          have chars := congrArg String.toList empty
          simpa using chars
        rw [noChars] at read
        cases read
      rw [readAll?, if_neg present, String.toList_ofList]
      exact read

end SignedQualifier

namespace Expr

/-- An expression has a search fragment exactly if it is flat, and the fragment reads back as its
signed qualifiers from left to right, all of which hold of an issue exactly if the expression does. -/
theorem searchFragment?_reads_back (expression : Expr) :
    (expression.searchFragment?.isSome = true ↔ expression.Flat) ∧
      ∀ fragment : String, expression.searchFragment? = some fragment →
        SignedQualifier.readAll? fragment = some (expression.signs false) ∧
          (expression.signs false).map SignedQualifier.qualifier = expression.leaves ∧
          ∀ issue : Issue,
            expression.holds issue = (expression.signs false).all (SignedQualifier.holds issue) := by
  constructor
  · constructor
    · intro present
      rw [searchFragment?, Option.isSome_map] at present
      obtain ⟨found, foundEq⟩ := Option.isSome_iff_exists.mp present
      exact flat_of_signedLeaves? foundEq
    · intro flat
      rw [searchFragment?, signedLeaves?_of_flat flat]
      rfl
  · intro fragment fragmentEq
    obtain ⟨found, foundEq, rfl⟩ := Option.map_eq_some_iff.mp fragmentEq
    have flat := flat_of_signedLeaves? foundEq
    rw [signedLeaves?_of_flat flat] at foundEq
    cases foundEq
    exact ⟨SignedQualifier.readAll?_formatSearch _, map_qualifier_signs expression false,
      holds_eq_all_signs flat⟩

/-- A blank puts a name in quotes, where its quote and backslash are hidden; without one they stand for
themselves, and a dash or an empty name needs nothing. -/
theorem readAll?_mixed_names :
    let expression : Expr :=
      .and [.leaf (.label "a \"b\\"), .and [.not (.leaf (.assignee "-c\"\\")), .leaf (.milestone "")],
        .leaf .isPullRequest]
    let fragment := "label:\"a \\\"b\\\\\" -assignee:-c\"\\ milestone: is:pr"
    expression.searchFragment? = some fragment ∧
      SignedQualifier.readAll? fragment =
        some [⟨false, .label "a \"b\\"⟩, ⟨true, .assignee "-c\"\\"⟩, ⟨false, .milestone ""⟩,
          ⟨false, .isPullRequest⟩] := by
  intro expression fragment
  have fragmentEq : expression.searchFragment? = some fragment := by decide
  exact ⟨fragmentEq, ((searchFragment?_reads_back expression).2 fragment fragmentEq).1⟩

end Expr
end IssueWatch
