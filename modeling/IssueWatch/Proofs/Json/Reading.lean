import IssueWatch.Proofs.Json.Tokens

/-!
# Written values are read back

Behind the text of a plain value the machine holds the value and has the same arrays and objects open as in
front of it.  So the text of a value is read as that value, at any depth and with any layout behind it.
-/
namespace IssueWatch.Json

open Progress (step beginValue)

theorem readFrom_passed (progress : Progress) (torn : List Location) (passed rest : List Char) :
    readFrom passed.length progress torn (passed ++ rest) = readFrom 0 progress torn rest := by
  induction passed with
  | nil => rfl
  | cons c passed induction => exact induction

/-- Where no string was torn, none is behind a token that is no torn string. -/
theorem tornBehind_nil {token : Token} (whole : token.isTorn = false) (progress : Progress) :
    progress.tornBehind [] token = [] := by
  cases progress <;> simp [Progress.tornBehind, whole]

theorem readFrom_token {progress next : Progress} {token : Token} {written rest : List Char}
    (found : Token.read (written ++ rest) = .ok (token, written.length))
    (starts : ∃ c ∈ written.head?, Token.isSpace c = false) (whole : token.isTorn = false)
    (goes : progress.step token = some next) :
    readFrom 0 progress [] (written ++ rest) = readFrom 0 next [] rest := by
  cases written with
  | nil => simp at starts
  | cons c written =>
      obtain ⟨front, ⟨⟩, notSpace⟩ := starts
      rw [List.cons_append] at found ⊢
      rw [readFrom, notSpace, found]
      simp only [Bool.false_eq_true, if_false, goes, List.length_cons, Nat.add_sub_cancel,
        tornBehind_nil whole]
      exact readFrom_passed next [] written rest

theorem readFrom_space {c : Char} (space : Token.isSpace c = true) (progress : Progress)
    (rest : List Char) : readFrom 0 progress [] (c :: rest) = readFrom 0 progress [] rest := by
  rw [readFrom, space, if_pos rfl]

theorem readFrom_lineBreak (depth : Nat) (progress : Progress) (rest : List Char) :
    readFrom 0 progress [] (lineBreak depth ++ rest) = readFrom 0 progress [] rest := by
  rw [lineBreak, List.cons_append, readFrom_space rfl]
  induction 2 * depth with
  | zero => rfl
  | succ spaces induction =>
      rw [List.replicate_succ, List.cons_append, readFrom_space rfl, induction]

/-- The machine takes the first token of a value into some open arrays and objects. Only a bracket may
close an array instead. -/
def Progress.Awaits (progress : Progress) (frames : List Frame) : Prop :=
  ∀ token, token ≠ .closeBracket → progress.step token = beginValue frames token

theorem awaits_value (frames : List Frame) : (Progress.value frames).Awaits frames := by
  intro token _
  cases token <;> rfl

theorem awaits_firstItem (frames : List Frame) :
    (Progress.itemOrClose frames).Awaits (.array [] :: frames) := by
  intro token notClose
  cases token with
  | closeBracket => exact absurd rfl notClose
  | _ => rfl

/-- A value is read from its text wherever a value may stand. -/
def Reads (value : Json) : Prop :=
  ∀ (depth : Nat) (progress : Progress) (frames : List Frame) (rest : List Char),
    progress.Awaits frames → Token.EndsInteger rest →
      readFrom 0 progress [] (writeChars depth value ++ rest) = readFrom 0 (.complete value frames) [] rest

theorem Reads.ofToken {value : Json} {token : Token}
    (found : ∀ depth rest, Token.EndsInteger rest →
      Token.read (writeChars depth value ++ rest) = .ok (token, (writeChars depth value).length))
    (starts : ∀ depth, ∃ c ∈ (writeChars depth value).head?, Token.isSpace c = false)
    (whole : token.isTorn = false)
    (complete : ∀ frames, beginValue frames token = some (.complete value frames)) :
    Reads value := by
  intro depth progress frames rest awaits ends
  have notClose : token ≠ .closeBracket := by
    rintro rfl
    cases complete []
  refine readFrom_token (found depth rest ends) (starts depth) whole ?_
  rw [awaits token notClose, complete]

theorem reads_null : Reads .null :=
  .ofToken (fun _ rest _ => Token.read_null rest)
    (fun _ => ⟨'n', rfl, rfl⟩) rfl fun _ => rfl

theorem reads_bool (value : Bool) : Reads (.bool value) :=
  .ofToken (fun _ rest _ => Token.read_bool value rest)
    (fun _ => by cases value <;> exact ⟨_, rfl, rfl⟩) rfl fun _ => rfl

theorem reads_int {value : Int} (short : IsShort value) : Reads (.int value) :=
  .ofToken (fun _ _ ends => Token.read_int short ends)
    (fun _ => Token.starts_toString_int value) rfl fun _ => rfl

theorem reads_string (value : String) : Reads (.string value) :=
  .ofToken (fun _ rest _ => Token.read_stringChars value rest)
    (fun _ => ⟨'"', rfl, rfl⟩) rfl fun _ => rfl

/-! ## Marks -/

theorem endsInteger_comma (rest : List Char) : Token.EndsInteger (',' :: rest) := by
  rintro c ⟨⟩
  decide

theorem endsInteger_lineBreak (depth : Nat) (rest : List Char) :
    Token.EndsInteger (lineBreak depth ++ rest) := by
  rintro c ⟨⟩
  decide

theorem readFrom_mark {progress next : Progress} {token : Token} {c : Char}
    (rest : List Char) (found : Token.read (c :: rest) = .ok (token, 1))
    (notSpace : Token.isSpace c = false) (whole : token.isTorn = false)
    (goes : progress.step token = some next) :
    readFrom 0 progress [] (c :: rest) = readFrom 0 next [] rest :=
  readFrom_token (show Token.read ([c] ++ rest) = .ok (token, [c].length) from found)
    ⟨c, rfl, notSpace⟩ whole goes

/-! ## Arrays -/

/-- Items are read into an open array up to its closing bracket. -/
theorem readFrom_writeItems (item : Json) (others : List Json)
    (reads : ∀ found ∈ item :: others, Reads found) (inner outer : Nat) (items : List Json)
    {progress : Progress} {frames : List Frame} (awaits : progress.Awaits (.array items :: frames))
    (rest : List Char) :
    readFrom 0 progress [] (writeItems inner (item :: others) ++ (lineBreak outer ++ ']' :: rest)) =
      readFrom 0 (.complete (.array (items.reverse ++ item :: others)) frames) [] rest := by
  induction others generalizing item items progress with
  | nil =>
      have closes : step (.complete item (.array items :: frames)) .closeBracket =
          some (.complete (.array (items.reverse ++ [item])) frames) := by
        simp [step]
      rw [writeItems_singleton, reads item List.mem_cons_self inner progress _ _ awaits
        (endsInteger_lineBreak outer _), readFrom_lineBreak, readFrom_mark rest rfl rfl rfl closes]
  | cons next others induction =>
      have continues : step (.complete item (.array items :: frames)) .comma =
          some (.value (.array (item :: items) :: frames)) :=
        rfl
      have more := induction next (fun found member => reads found (.tail item member))
        (item :: items) (awaits_value _)
      rw [writeItems_cons_cons, List.append_assoc, List.append_assoc, List.cons_append,
        reads item List.mem_cons_self inner progress _ _ awaits (endsInteger_comma _),
        readFrom_mark _ rfl rfl rfl continues, readFrom_lineBreak, more]
      simp

theorem reads_array {items : List Json} (reads : ∀ item ∈ items, Reads item) :
    Reads (.array items) := by
  intro depth progress frames rest awaits _
  have opens : progress.step .openBracket = some (.itemOrClose frames) := by
    rw [awaits .openBracket nofun]
    rfl
  cases items with
  | nil =>
      have closes : step (.itemOrClose frames) .closeBracket = some (.complete (.array []) frames) :=
        rfl
      exact (readFrom_mark _ rfl rfl rfl opens).trans (readFrom_mark rest rfl rfl rfl closes)
  | cons item others =>
      have body := readFrom_writeItems item others reads (depth + 1) depth []
        (awaits_firstItem frames) rest
      rw [writeChars_array_cons]
      simp only [List.cons_append, List.append_assoc, List.nil_append]
      rw [readFrom_mark _ rfl rfl rfl opens, readFrom_lineBreak, body]
      rfl

/-! ## Objects -/

/-- A key and its value are read into an open object. -/
theorem readFrom_field (name : String) {value : Json} (reads : Reads value) (depth : Nat)
    {fields : Fields} {progress : Progress} {frames : List Frame}
    (expectsKey : progress.step (.text name false) = some (.colon fields name frames))
    {rest : List Char} (ends : Token.EndsInteger rest) :
    readFrom 0 progress [] (stringChars name ++ ':' :: ' ' :: (writeChars depth value ++ rest)) =
      readFrom 0 (.complete value (.object fields name :: frames)) [] rest := by
  have colon : step (.colon fields name frames) .colon =
      some (.value (.object fields name :: frames)) :=
    rfl
  rw [readFrom_token (Token.read_stringChars name _) ⟨'"', rfl, rfl⟩ rfl expectsKey,
    readFrom_mark _ rfl rfl rfl colon, readFrom_space rfl,
    reads depth _ _ rest (awaits_value _) ends]

theorem notMem_of_nodup {name : String} {value : Json} {fields others : Fields}
    (distinct : ((fields ++ (name, value) :: others).map Prod.fst).Nodup) :
    name ∉ fields.map Prod.fst := by
  rw [List.map_append, List.nodup_append] at distinct
  intro present
  exact distinct.2.2 name present name List.mem_cons_self rfl

/-- Fields are read into an open object up to its closing brace. -/
theorem readFrom_writeFields (name : String) (value : Json) (others fields : Fields)
    (reads : ∀ entry ∈ (name, value) :: others, Reads entry.2)
    (distinct : ((fields ++ (name, value) :: others).map Prod.fst).Nodup) (inner outer : Nat)
    {progress : Progress} {frames : List Frame}
    (expectsKey : progress.step (.text name false) = some (.colon fields name frames))
    (rest : List Char) :
    readFrom 0 progress []
        (writeFields inner ((name, value) :: others) ++ (lineBreak outer ++ '\x7d' :: rest)) =
      readFrom 0 (.complete (.object (fields ++ (name, value) :: others)) frames) [] rest := by
  induction others generalizing name value fields progress with
  | nil =>
      have closes : step (.complete value (.object fields name :: frames)) .closeBrace =
          some (.complete (.object (fields ++ [(name, value)])) frames) := by
        rw [step, setField_of_notMem (notMem_of_nodup distinct)]
      have field := readFrom_field name (reads (name, value) List.mem_cons_self) inner expectsKey
        (endsInteger_lineBreak outer ('\x7d' :: rest))
      rw [writeFields_singleton, List.append_assoc, List.cons_append, List.cons_append, field,
        readFrom_lineBreak, readFrom_mark rest rfl rfl rfl closes]
  | cons next others induction =>
      obtain ⟨nextName, nextValue⟩ := next
      have continues : step (.complete value (.object fields name :: frames)) .comma =
          some (.key (fields ++ [(name, value)]) frames) := by
        rw [step, setField_of_notMem (notMem_of_nodup distinct)]
      have field := readFrom_field name (reads (name, value) List.mem_cons_self) inner expectsKey
        (endsInteger_comma (lineBreak inner ++
          (writeFields inner ((nextName, nextValue) :: others) ++ (lineBreak outer ++ '\x7d' :: rest))))
      have more := induction nextName nextValue (fields ++ [(name, value)])
        (fun entry member => reads entry (.tail _ member)) (by simpa using distinct)
        (show step (.key (fields ++ [(name, value)]) frames) (.text nextName false) = _ from rfl)
      rw [writeFields_cons_cons]
      simp only [List.append_assoc, List.cons_append]
      rw [field, readFrom_mark _ rfl rfl rfl continues, readFrom_lineBreak, more]
      simp

theorem reads_object {fields : Fields} (distinct : (fields.map Prod.fst).Nodup)
    (reads : ∀ entry ∈ fields, Reads entry.2) : Reads (.object fields) := by
  intro depth progress frames rest awaits _
  have opens : progress.step .openBrace = some (.keyOrClose frames) := by
    rw [awaits .openBrace nofun]
    rfl
  cases fields with
  | nil =>
      have closes : step (.keyOrClose frames) .closeBrace = some (.complete (.object []) frames) :=
        rfl
      exact (readFrom_mark _ rfl rfl rfl opens).trans (readFrom_mark rest rfl rfl rfl closes)
  | cons entry others =>
      obtain ⟨name, value⟩ := entry
      have body := readFrom_writeFields name value others [] reads distinct (depth + 1) depth
        (show step (.keyOrClose frames) (.text name false) = _ from rfl) rest
      rw [writeChars_object_cons]
      simp only [List.cons_append, List.append_assoc, List.nil_append]
      rw [readFrom_mark _ rfl rfl rfl opens, readFrom_lineBreak, body, List.nil_append]

/-! ## Values -/

theorem Plain.reads {value : Json} (plain : Plain value) : Reads value := by
  induction plain with
  | null => exact reads_null
  | bool value => exact reads_bool value
  | int short => exact reads_int short
  | string value => exact reads_string value
  | array _ itemReads => exact reads_array itemReads
  | object distinct _ valueReads => exact reads_object distinct valueReads

/-- Reading undoes writing, and finds no torn string. -/
theorem read_write {value : Json} (plain : Plain value) : read value.write = .ok (value, []) := by
  have reads := plain.reads 0 (.value []) [] [] (awaits_value []) nofun
  rw [List.append_nil] at reads
  rw [read, write, String.toList_ofList, reads]
  rfl

end IssueWatch.Json
