import IssueWatch.Console.Markup
import Mathlib.Data.List.Chain
import Mathlib.Data.List.TakeWhile

/-!
# Escaped texts are shown

No tag of an escaped text acts, whatever stands in front of it, and no bracket of it starts a tag together
with what stands behind it, unless that closes a bracket before it opens one.  Behind a backslash at the end
of the text no bracket may follow.
-/
namespace IssueWatch.Console

/-! ## Tags -/

/-- The first bracket of a text is a closing one. -/
def Closes (text : List Char) : Prop :=
  (text.dropWhile fun c => c != ']' && c != '[').head? = some ']'

instance : DecidablePred Closes :=
  fun text => inferInstanceAs (Decidable ((text.dropWhile _).head? = some ']'))

theorem closes_cons {c : Char} {rest : List Char} :
    Closes (c :: rest) ↔ c = ']' ∨ c ≠ '[' ∧ Closes rest := by
  by_cases isClose : c = ']'
  · simp [Closes, isClose]
  · by_cases isOpen : c = '['
    · simp [Closes, isOpen]
    · simp [Closes, isClose, isOpen]

theorem not_closes_open {front : List Char} (plain : ∀ c ∈ front, c ≠ ']' ∧ c ≠ '[')
    (rest : List Char) : ¬ Closes (front ++ '[' :: rest) := by
  have inside : ∀ c ∈ front, (c != ']' && c != '[') = true := by simpa using plain
  rw [Closes, List.dropWhile_append_of_pos inside]
  simp

/-- A text that can stand between the brackets of a tag. -/
inductive IsTagBody : List Char → Prop where
  | intro {c : Char} {tail : List Char} (starts : isTagStart c = true)
      (inside : ∀ d ∈ tail, d ≠ ']' ∧ d ≠ '[') : IsTagBody (c :: tail)

theorem drop_length_takeWhile {property : Char → Bool} (text : List Char) :
    text.drop (text.takeWhile property).length = text.dropWhile property := by
  calc
    text.drop (text.takeWhile property).length =
        (text.takeWhile property ++ text.dropWhile property).drop
          (text.takeWhile property).length := by rw [List.takeWhile_append_dropWhile]
    _ = text.dropWhile property := List.drop_left

theorem tagBody?_cons (c : Char) (rest : List Char) :
    tagBody? (c :: rest) =
      if isTagStart c = true ∧ Closes rest then
        some (c :: rest.takeWhile fun other => other != ']' && other != '[')
      else none := by
  simp only [tagBody?, drop_length_takeWhile]
  by_cases starts : isTagStart c = true
  · simp [starts, Closes]
  · simp [starts]

theorem tagBody?_append {body : List Char} (isBody : IsTagBody body) (rest : List Char) :
    tagBody? (body ++ ']' :: rest) = some body := by
  cases isBody with
  | @intro c tail starts inside =>
      have plain : ∀ d ∈ tail, (d != ']' && d != '[') = true := by simpa using inside
      have closes : Closes (tail ++ ']' :: rest) := by
        rw [Closes, List.dropWhile_append_of_pos plain]
        simp
      rw [List.cons_append, tagBody?_cons, if_pos ⟨starts, closes⟩,
        List.takeWhile_append_of_pos plain]
      simp

theorem isTagBody_of_tagBody? {input body : List Char} (found : tagBody? input = some body) :
    IsTagBody body ∧ ∃ behind, input = body ++ ']' :: behind := by
  cases input with
  | nil => cases found
  | cons c rest =>
      rw [tagBody?_cons] at found
      split at found
      · rename_i closes
        cases found
        refine ⟨.intro closes.1 fun d member => ?_, ?_⟩
        · simpa using List.mem_takeWhile_imp member
        · obtain ⟨behind, closing⟩ := List.head?_eq_some_iff.mp closes.2
          refine ⟨behind, ?_⟩
          rw [List.cons_append, ← closing, List.takeWhile_append_dropWhile]
      · cases found

theorem ne_open_of_isTagStart {c : Char} (starts : isTagStart c = true) : c ≠ '[' := by
  rintro rfl
  cases starts

theorem tagBody?_eq_none_of_not_closes {text : List Char} (opens : ¬ Closes text) :
    tagBody? text = none := by
  cases text with
  | nil => rfl
  | cons c rest =>
      rw [tagBody?_cons, if_neg]
      rintro ⟨starts, closes⟩
      exact opens (closes_cons.mpr (.inr ⟨ne_open_of_isTagStart starts, closes⟩))

theorem tagAt?_eq (input : List Char) :
    tagAt? input =
      match input.dropWhile (· == '\\') with
      | '[' :: rest => (tagBody? rest).map fun body => ⟨(input.takeWhile (· == '\\')).length, body⟩
      | _ => none := by
  rw [← drop_length_takeWhile]
  rfl

theorem tagAt?_backslash (rest : List Char) :
    tagAt? ('\\' :: rest) =
      (tagAt? rest).map fun tag => { tag with backslashes := tag.backslashes + 1 } := by
  rw [tagAt?_eq, tagAt?_eq]
  simp only [List.dropWhile_cons, List.takeWhile_cons, beq_self_eq_true, ↓reduceIte, List.length_cons]
  split
  · simp [Function.comp_def]
  · rfl

theorem tagAt?_plain {c : Char} (noBackslash : c ≠ '\\') (noOpen : c ≠ '[') (rest : List Char) :
    tagAt? (c :: rest) = none := by
  rw [tagAt?_eq]
  simp only [List.dropWhile_cons, beq_false_of_ne noBackslash, Bool.false_eq_true, ↓reduceIte]
  split
  · rename_i same
    cases same
    exact absurd rfl noOpen
  · rfl

theorem tagAt?_open (rest : List Char) :
    tagAt? ('[' :: rest) = (tagBody? rest).map fun body => ⟨0, body⟩ :=
  rfl

namespace Tag

/-- The characters of a tag with its backslashes and brackets. -/
def chars (tag : Tag) : List Char :=
  List.replicate tag.backslashes '\\' ++ '[' :: tag.body ++ [']']

theorem length_chars (tag : Tag) : tag.chars.length = tag.length := by
  simp [chars, Tag.length]
  omega

theorem exists_chars_eq_cons (tag : Tag) :
    ∃ c tail, tag.chars = c :: tail ∧ tail.length = tag.length - 1 := by
  have lengths := tag.length_chars
  cases charsEq : tag.chars with
  | nil => simp [chars] at charsEq
  | cons c tail =>
      rw [charsEq, List.length_cons] at lengths
      exact ⟨c, tail, rfl, by omega⟩

/-- The tag that shows a tag, with more backslashes. -/
def shown (tag : Tag) : Tag where
  backslashes := 2 * tag.backslashes + 1
  body := tag.body

end Tag

theorem tagAt?_chars {tag : Tag} (isBody : IsTagBody tag.body) (rest : List Char) :
    tagAt? (tag.chars ++ rest) = some tag := by
  obtain ⟨count, body⟩ := tag
  rw [Tag.chars, List.append_assoc, List.append_assoc]
  induction count with
  | zero =>
      change (tagBody? (body ++ ']' :: rest)).map _ = _
      rw [tagBody?_append isBody]
      rfl
  | succ count induction =>
      rw [List.replicate_succ, List.cons_append, tagAt?_backslash, induction isBody]
      rfl

theorem chars_of_tagAt? {input : List Char} {tag : Tag} (found : tagAt? input = some tag) :
    IsTagBody tag.body ∧ ∃ behind, input = tag.chars ++ behind := by
  induction input generalizing tag with
  | nil => cases found
  | cons c rest induction =>
      by_cases isBackslash : c = '\\'
      · subst isBackslash
        rw [tagAt?_backslash] at found
        obtain ⟨inner, innerFound, rfl⟩ := Option.map_eq_some_iff.mp found
        obtain ⟨isBody, behind, rfl⟩ := induction innerFound
        exact ⟨isBody, behind, by simp [Tag.chars, List.replicate_succ]⟩
      · by_cases isOpen : c = '['
        · subst isOpen
          rw [tagAt?_open] at found
          obtain ⟨body, bodyFound, rfl⟩ := Option.map_eq_some_iff.mp found
          obtain ⟨isBody, behind, rfl⟩ := isTagBody_of_tagBody? bodyFound
          exact ⟨isBody, behind, by simp [Tag.chars]⟩
        · rw [tagAt?_plain isBackslash isOpen] at found
          cases found

/-- Induction over the tags of a text and the characters at which no tag stands. -/
@[elab_as_elim]
theorem inductionOnTags {motive : List Char → Prop} (nil : motive [])
    (tag : ∀ (tag : Tag) (rest : List Char), IsTagBody tag.body → motive rest →
      motive (tag.chars ++ rest))
    (plain : ∀ (c : Char) (rest : List Char), tagAt? (c :: rest) = none → motive rest →
      motive (c :: rest)) (text : List Char) : motive text := by
  induction lengthEq : text.length using Nat.strongRecOn generalizing text with
  | ind length induction =>
      subst lengthEq
      cases text with
      | nil => exact nil
      | cons c rest =>
          cases found : tagAt? (c :: rest) with
          | none => exact plain c rest found (induction rest.length (Nat.lt_succ_self _) rest rfl)
          | some foundTag =>
              obtain ⟨isBody, behind, textEq⟩ := chars_of_tagAt? found
              have shorter : behind.length < (c :: rest).length := by
                rw [textEq, List.length_append, foundTag.length_chars, Tag.length]
                omega
              rw [textEq]
              exact tag foundTag behind isBody (induction behind.length shorter behind rfl)

/-! ## Escaping -/

theorem escapeFrom_passed (word rest : List Char) :
    escapeFrom word.length (word ++ rest) = escapeFrom 0 rest := by
  induction word with
  | nil => rfl
  | cons c word induction => exact induction

theorem escapeFrom_plain {c : Char} {rest : List Char} (noTag : tagAt? (c :: rest) = none) :
    escapeFrom 0 (c :: rest) = c :: escapeFrom 0 rest := by
  rw [escapeFrom, noTag]

theorem escapeFrom_chars {tag : Tag} (isBody : IsTagBody tag.body) (rest : List Char) :
    escapeFrom 0 (tag.chars ++ rest) = tag.shown.chars ++ escapeFrom 0 rest := by
  have found := tagAt?_chars isBody rest
  obtain ⟨c, tail, charsEq, tailLength⟩ := tag.exists_chars_eq_cons
  rw [charsEq, List.cons_append] at found ⊢
  rw [escapeFrom, found]
  simp only
  rw [← tailLength, escapeFrom_passed]
  simp [Tag.chars, Tag.shown]

/-- Escaping leaves the last character as it is. -/
theorem getLast?_escapeFrom (text : List Char) : (escapeFrom 0 text).getLast? = text.getLast? := by
  induction text using inductionOnTags with
  | nil => rfl
  | tag tag rest isBody induction =>
      rw [escapeFrom_chars isBody]
      simp [Tag.chars, List.getLast?_append, List.getLast?_cons, induction]
  | plain c rest noTag induction =>
      rw [escapeFrom_plain noTag, List.getLast?_cons, List.getLast?_cons, induction]

theorem not_closes_chars (tag : Tag) (rest : List Char) : ¬ Closes (tag.chars ++ rest) := by
  rw [Tag.chars, List.append_assoc, List.append_assoc]
  refine not_closes_open (fun c member => ?_) _
  rw [List.eq_of_mem_replicate member]
  decide

/-- What closes no bracket closes none after it is escaped, in front of what closes none. -/
theorem not_closes_escapeFrom {text rest : List Char} (textOpens : ¬ Closes text)
    (restOpens : ¬ Closes rest) : ¬ Closes (escapeFrom 0 text ++ rest) := by
  induction text using inductionOnTags with
  | nil => exact restOpens
  | tag tag others isBody induction =>
      rw [escapeFrom_chars isBody, List.append_assoc]
      exact not_closes_chars tag.shown _
  | plain c others noTag induction =>
      rw [escapeFrom_plain noTag, List.cons_append]
      rw [closes_cons, not_or, not_and] at textOpens ⊢
      exact ⟨textOpens.1, fun noOpen => induction (textOpens.2 noOpen)⟩

/-- Behind a backslash at the end of a text no opening bracket follows, nor behind further backslashes. -/
def Apart (text rest : List Char) : Prop :=
  text.getLast? = some '\\' → (rest.dropWhile (· == '\\')).head? ≠ some '['

theorem Apart.behind (front : List Char) {text rest : List Char} (apart : Apart (front ++ text) rest) :
    Apart text rest := by
  intro ends
  apply apart
  rw [List.getLast?_append, ends]
  rfl

theorem tagAt?_of_apart {rest : List Char} (apart : (rest.dropWhile (· == '\\')).head? ≠ some '[') :
    tagAt? rest = none := by
  rw [tagAt?_eq]
  split
  · rename_i same
    rw [same] at apart
    exact absurd rfl apart
  · rfl

theorem tagBody?_escapeFrom {text rest : List Char} (noBody : tagBody? text = none)
    (restOpens : ¬ Closes rest) : tagBody? (escapeFrom 0 text ++ rest) = none := by
  cases text with
  | nil => exact tagBody?_eq_none_of_not_closes restOpens
  | cons c others =>
      cases found : tagAt? (c :: others) with
      | some tag =>
          obtain ⟨isBody, behind, textEq⟩ := chars_of_tagAt? found
          rw [textEq, escapeFrom_chars isBody, List.append_assoc]
          exact tagBody?_eq_none_of_not_closes (not_closes_chars tag.shown _)
      | none =>
          rw [tagBody?_cons] at noBody
          rw [escapeFrom_plain found, List.cons_append, tagBody?_cons, if_neg]
          rintro ⟨starts, closes⟩
          have othersOpen : ¬ Closes others := fun othersClose => by
            rw [if_pos ⟨starts, othersClose⟩] at noBody
            cases noBody
          exact not_closes_escapeFrom othersOpen restOpens closes

/-- Where no tag stands in a text, none stands after it is escaped. -/
theorem tagAt?_escapeFrom {text rest : List Char} (present : text ≠ []) (noTag : tagAt? text = none)
    (restOpens : ¬ Closes rest) (apart : Apart text rest) :
    tagAt? (escapeFrom 0 text ++ rest) = none := by
  induction text with
  | nil => exact absurd rfl present
  | cons c others induction =>
      rw [escapeFrom_plain noTag, List.cons_append]
      by_cases isBackslash : c = '\\'
      · subst isBackslash
        rw [tagAt?_backslash, Option.map_eq_none_iff] at noTag ⊢
        cases others with
        | nil => exact tagAt?_of_apart (apart rfl)
        | cons d others =>
            exact induction (List.cons_ne_nil d others) noTag (.behind ['\\'] apart)
      · by_cases isOpen : c = '['
        · subst isOpen
          rw [tagAt?_open, Option.map_eq_none_iff] at noTag ⊢
          exact tagBody?_escapeFrom noTag restOpens
        · exact tagAt?_plain isBackslash isOpen _

/-! ## Backslashes that are kept -/

/-- No backslash of a text stands at its end or in front of an opening bracket, which it would be taken to
guard. -/
structure KeepsBackslashes (text : List Char) : Prop where
  inside : text.IsChain fun c next => c = '\\' → next ≠ '['
  atEnd : text.getLast? ≠ some '\\'

theorem keepsBackslashes_of_not_mem {text : List Char} (noBackslash : '\\' ∉ text) :
    KeepsBackslashes text where
  inside := by
    induction text with
    | nil => exact .nil
    | cons c rest induction =>
        rw [List.mem_cons, not_or] at noBackslash
        rw [List.isChain_cons]
        exact ⟨fun _ _ isBackslash => absurd isBackslash.symm noBackslash.1, induction noBackslash.2⟩
  atEnd ends := noBackslash (List.mem_of_getLast? ends)

namespace KeepsBackslashes

theorem append {first second : List Char} (firstKeeps : KeepsBackslashes first)
    (secondKeeps : KeepsBackslashes second) : KeepsBackslashes (first ++ second) where
  inside := by
    rw [List.isChain_append]
    refine ⟨firstKeeps.inside, secondKeeps.inside, fun c last _ _ isBackslash => ?_⟩
    rw [isBackslash] at last
    exact absurd last firstKeeps.atEnd
  atEnd := by
    rw [List.getLast?_append, ne_eq, Option.or_eq_some_iff]
    rintro (ends | ⟨_, ends⟩)
    · exact secondKeeps.atEnd ends
    · exact firstKeeps.atEnd ends

theorem behind (front : List Char) {text : List Char} (keeps : KeepsBackslashes (front ++ text)) :
    KeepsBackslashes text where
  inside := (List.isChain_append.mp keeps.inside).2.1
  atEnd ends := by
    apply keeps.atEnd
    rw [List.getLast?_append, ends]
    rfl

theorem exists_next {rest : List Char} (keeps : KeepsBackslashes ('\\' :: rest)) :
    ∃ c others, rest = c :: others ∧ c ≠ '[' := by
  cases rest with
  | nil => exact absurd rfl keeps.atEnd
  | cons c others =>
      have next := (List.isChain_cons.mp keeps.inside).1 c rfl
      exact ⟨c, others, rfl, next rfl⟩

theorem apart {text : List Char} (keeps : KeepsBackslashes text) (rest : List Char) :
    Apart text rest :=
  fun ends => absurd ends keeps.atEnd

end KeepsBackslashes

/-- An escaped text starts with a bracket only if the text does. -/
theorem head?_escapeFrom_append {c : Char} (noOpen : c ≠ '[') (others rest : List Char) :
    (escapeFrom 0 (c :: others) ++ rest).head? ≠ some '[' := by
  cases found : tagAt? (c :: others) with
  | none =>
      rw [escapeFrom_plain found]
      simpa using noOpen
  | some tag =>
      obtain ⟨isBody, behind, textEq⟩ := chars_of_tagAt? found
      rw [textEq, escapeFrom_chars isBody]
      simp [Tag.chars, Tag.shown, List.replicate_succ]

/-! ## Resolving -/

theorem resolveFrom_passed (word rest : List Char) (opened : List OpenTag) :
    resolveFrom word.length opened (word ++ rest) = resolveFrom 0 opened rest := by
  induction word with
  | nil => rfl
  | cons c word induction => exact induction

theorem resolveFrom_chars_shown {tag : Tag} (isBody : IsTagBody tag.body) (opened : List OpenTag)
    (rest : List Char) :
    resolveFrom 0 opened (tag.shown.chars ++ rest) =
      (resolveFrom 0 opened rest).map (tag.chars ++ ·) := by
  have found : tagAt? (tag.shown.chars ++ rest) = some tag.shown :=
    tagAt?_chars (show IsTagBody tag.shown.body from isBody) rest
  obtain ⟨c, tail, charsEq, tailLength⟩ := tag.shown.exists_chars_eq_cons
  have odd : tag.shown.backslashes % 2 = 1 := by
    simp only [Tag.shown]
    omega
  have half : tag.shown.backslashes / 2 = tag.backslashes := by
    simp only [Tag.shown]
    omega
  rw [charsEq, List.cons_append] at found ⊢
  rw [resolveFrom, found]
  simp only [if_pos odd, half]
  rw [← tailLength, resolveFrom_passed]
  simp [Tag.chars, Tag.shown]

/-- A character at which no tag stands is shown.  A backslash in front of a bracket is not. -/
theorem resolveFrom_plain {c : Char} {rest : List Char} (noTag : tagAt? (c :: rest) = none)
    (opened : List OpenTag) :
    resolveFrom 0 opened (c :: rest) =
      if c = '\\' ∧ rest.head? = some '[' then resolveFrom 0 opened rest
      else (resolveFrom 0 opened rest).map (c :: ·) := by
  rw [resolveFrom, noTag]
  simp only
  split
  · rename_i hides
    obtain ⟨rfl, first⟩ := hides
    obtain ⟨others, rfl⟩ := List.head?_eq_some_iff.mp first
    rw [tagAt?_backslash, Option.map_eq_none_iff] at noTag
    have bracketShown : resolveFrom 0 opened ('[' :: others) =
        (resolveFrom 0 opened others).map ('[' :: ·) := by
      rw [resolveFrom, noTag]
      simp
    rw [bracketShown]
    rfl
  · rfl

theorem map_append_map (first second : List Char) (result : Except MarkupError (List Char)) :
    (result.map (second ++ ·)).map (first ++ ·) = result.map (first ++ second ++ ·) := by
  cases result with
  | error error => rfl
  | ok text => simp [Except.map]

/-- What is shown of an escaped text: the text itself if its backslashes are kept. -/
theorem exists_shown_escapeFrom {text rest : List Char} (restOpens : ¬ Closes rest)
    (apart : Apart text rest) :
    ∃ shown, (KeepsBackslashes text → shown = text) ∧ ∀ opened : List OpenTag,
      resolveFrom 0 opened (escapeFrom 0 text ++ rest) =
        (resolveFrom 0 opened rest).map (shown ++ ·) := by
  induction text using inductionOnTags with
  | nil =>
      refine ⟨[], fun _ => rfl, fun opened => ?_⟩
      rw [escapeFrom, List.nil_append]
      cases resolveFrom 0 opened rest <;> rfl
  | tag tag others isBody induction =>
      obtain ⟨shown, verbatim, resolved⟩ := induction (.behind tag.chars apart)
      refine ⟨tag.chars ++ shown, fun keeps => ?_, fun opened => ?_⟩
      · rw [verbatim (.behind tag.chars keeps)]
      · rw [escapeFrom_chars isBody, List.append_assoc, resolveFrom_chars_shown isBody, resolved,
          map_append_map]
  | plain c others noTag induction =>
      obtain ⟨shown, verbatim, resolved⟩ := induction (.behind [c] apart)
      have stillNone := tagAt?_escapeFrom (List.cons_ne_nil c others) noTag restOpens apart
      rw [escapeFrom_plain noTag, List.cons_append] at stillNone ⊢
      -- A backslash in front of a bracket is lost, though no tag stands there.
      by_cases hides : c = '\\' ∧ (escapeFrom 0 others ++ rest).head? = some '['
      · refine ⟨shown, fun keeps => ?_, fun opened => ?_⟩
        · rw [hides.1] at keeps
          obtain ⟨next, behind, rfl, noOpen⟩ := keeps.exists_next
          exact absurd hides.2 (head?_escapeFrom_append noOpen behind rest)
        · rw [resolveFrom_plain stillNone, if_pos hides, resolved]
      · refine ⟨c :: shown, fun keeps => ?_, fun opened => ?_⟩
        · rw [verbatim (.behind [c] keeps)]
        · rw [resolveFrom_plain stillNone, if_neg hides, resolved]
          exact map_append_map [c] shown _

theorem guardEnd_eq (text : List Char) :
    guardEnd text = text ∨ text.getLast? = some '\\' ∧ guardEnd text = text ++ ['\\'] := by
  unfold guardEnd
  split
  · exact .inl rfl
  · rename_i others _ reversed
    right
    rw [← List.head?_reverse, reversed]
    exact ⟨rfl, rfl⟩
  · exact .inl rfl

/-- An escaped text is shown inside any tags, whatever it holds. -/
theorem exists_shown_escape (text : String) {rest : List Char} (restOpens : ¬ Closes rest)
    (apart : Apart text.toList rest) :
    ∃ shown, (KeepsBackslashes text.toList → shown = text.toList) ∧ ∀ opened : List OpenTag,
      resolveFrom 0 opened ((escape text).toList ++ rest) =
        (resolveFrom 0 opened rest).map (shown ++ ·) := by
  rw [escape, String.toList_ofList]
  obtain guarded | ⟨ends, guarded⟩ := guardEnd_eq (escapeFrom 0 text.toList)
  · rw [guarded]
    exact exists_shown_escapeFrom restOpens apart
  -- The doubled backslash goes to the text behind, which still neither closes nor opens a tag.
  · rw [getLast?_escapeFrom] at ends
    have noOpen := apart ends
    have guardOpens : ¬ Closes ('\\' :: rest) := by
      rw [closes_cons]
      simpa using restOpens
    have guardApart : Apart text.toList ('\\' :: rest) := fun _ => noOpen
    obtain ⟨shown, _, resolved⟩ := exists_shown_escapeFrom guardOpens guardApart
    refine ⟨shown ++ ['\\'], fun keeps => absurd ends keeps.atEnd, fun opened => ?_⟩
    have noTag : tagAt? ('\\' :: rest) = none := tagAt?_of_apart noOpen
    have unhidden : ¬ ('\\' = '\\' ∧ rest.head? = some '[') := by
      rintro ⟨-, first⟩
      obtain ⟨others, rfl⟩ := List.head?_eq_some_iff.mp first
      exact noOpen rfl
    rw [guarded, List.append_assoc, List.singleton_append, resolved, resolveFrom_plain noTag,
      if_neg unhidden]
    exact map_append_map shown ['\\'] _

/-- An escaped text whose backslashes are kept is shown as it is inside any tags. -/
theorem resolveFrom_escape {text : String} (keeps : KeepsBackslashes text.toList) {rest : List Char}
    (restOpens : ¬ Closes rest) (opened : List OpenTag) :
    resolveFrom 0 opened ((escape text).toList ++ rest) =
      (resolveFrom 0 opened rest).map (text.toList ++ ·) := by
  obtain ⟨shown, verbatim, resolved⟩ := exists_shown_escape text restOpens (keeps.apart rest)
  rw [resolved, verbatim keeps]

/-- Text without opening brackets and backslashes is shown as it is. -/
theorem resolveFrom_append {front : List Char} (plain : ∀ c ∈ front, c ≠ '\\' ∧ c ≠ '[')
    (opened : List OpenTag) (rest : List Char) :
    resolveFrom 0 opened (front ++ rest) = (resolveFrom 0 opened rest).map (front ++ ·) := by
  induction front with
  | nil =>
      rw [List.nil_append]
      cases resolveFrom 0 opened rest <;> rfl
  | cons c front induction =>
      obtain ⟨⟨noBackslash, noOpen⟩, others⟩ := List.forall_mem_cons.mp plain
      rw [List.cons_append, resolveFrom_plain (tagAt?_plain noBackslash noOpen _),
        if_neg fun hides => noBackslash hides.1, induction others]
      exact map_append_map [c] front _

/-- An escaped text between plain ones can be resolved. -/
theorem exists_resolve_escape (text : String) {front behind : String}
    (frontPlain : ∀ c ∈ front.toList, c ≠ '\\' ∧ c ≠ '[')
    (behindPlain : ∀ c ∈ behind.toList, c ≠ '\\' ∧ c ≠ '[' ∧ c ≠ ']') :
    ∃ shown, resolve (front ++ escape text ++ behind) = .ok shown := by
  have behindOpens : ¬ Closes behind.toList := fun closes =>
    (behindPlain ']' ((List.dropWhile_suffix _).subset (List.mem_of_mem_head? closes))).2.2 rfl
  have apart : Apart text.toList behind.toList := fun _ first =>
    (behindPlain '[' ((List.dropWhile_suffix _).subset (List.mem_of_mem_head? first))).2.1 rfl
  obtain ⟨shown, _, resolved⟩ := exists_shown_escape text behindOpens apart
  have behindShown := resolveFrom_append (fun c member => ⟨(behindPlain c member).1,
    (behindPlain c member).2.1⟩) [] []
  rw [List.append_nil] at behindShown
  rw [resolve, String.toList_append, String.toList_append, List.append_assoc,
    resolveFrom_append frontPlain, resolved, behindShown]
  exact ⟨_, rfl⟩

end IssueWatch.Console
