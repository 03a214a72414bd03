import IssueWatch.Link
import IssueWatch.Proofs.Query.Searching

/-!
# Links determine searches

The search behind a link is written with characters that need no further encoding, and it is read back byte by
byte.  Two encodings are undone one after the other: the form value gives the fragment, and the fragment gives
the signed qualifiers of the query.
-/
namespace IssueWatch

namespace FormEncoding

/-! ## The characters of a form value -/

/-- A letter or digit, or one of four marks. -/
def isUnreserved (c : Char) : Bool :=
  c.isAlphanum || ['_', '.', '-', '~'].contains c

def isUpperHexDigit (c : Char) : Bool :=
  c.isDigit || ['A', 'B', 'C', 'D', 'E', 'F'].contains c

/-- A text of unreserved characters, plus signs, and percent signs with two upper-case hexadecimal digits. -/
inductive IsValue : List Char → Prop where
  | nil : IsValue []
  | unreserved {c : Char} {rest : List Char} (plain : isUnreserved c = true) (value : IsValue rest) :
      IsValue (c :: rest)
  | plus {rest : List Char} (value : IsValue rest) : IsValue ('+' :: rest)
  | percent {high low : Char} {rest : List Char} (highDigit : isUpperHexDigit high = true)
      (lowDigit : isUpperHexDigit low = true) (value : IsValue rest) :
      IsValue ('%' :: high :: low :: rest)

theorem isUpperHexDigit_upperHexDigit :
    ∀ value < 16, isUpperHexDigit (Text.upperHexDigit value) = true := by
  decide

/-- The character of a byte that stands for itself. -/
theorem plainByte : ∀ code < 256, isPlain (UInt8.ofNat code) = true →
    isUnreserved (Char.ofNat code) = true ∧ (Char.ofNat code).toNat = code ∧ code < 0x80 := by
  decide +kernel

theorem IsValue.encodeByte_append (byte : UInt8) {rest : List Char} (value : IsValue rest) :
    IsValue (encodeByte byte ++ rest) := by
  have small := byte.toNat_lt
  rw [encodeByte]
  split_ifs with plain space
  · exact .unreserved (plainByte byte.toNat small (by rwa [UInt8.ofNat_toNat])).1 value
  · exact .plus value
  · exact .percent (isUpperHexDigit_upperHexDigit _ (by omega))
      (isUpperHexDigit_upperHexDigit _ (by omega)) value

theorem isValue_encodeBytes (bytes : List UInt8) : IsValue (encodeBytes bytes) := by
  induction bytes with
  | nil => exact .nil
  | cons byte rest induction => exact induction.encodeByte_append byte

/-! ## Reading back -/

theorem decodeBytes?_unreserved {c : Char} (unreserved : isUnreserved c = true) (ascii : c.toNat < 0x80)
    (rest : List Char) :
    decodeBytes? (c :: rest) = (decodeBytes? rest).map (UInt8.ofNat c.toNat :: ·) := by
  have notPercent : c ≠ '%' := by
    rintro rfl
    exact absurd unreserved (by decide)
  have notPlus : c ≠ '+' := by
    rintro rfl
    exact absurd unreserved (by decide)
  rw [decodeBytes?.eq_def]
  simp [notPercent, Nat.not_le.mpr ascii]

/-- A written byte is read back in front of any text. -/
theorem decodeBytes?_encodeByte_append (byte : UInt8) (rest : List Char) :
    decodeBytes? (encodeByte byte ++ rest) = (decodeBytes? rest).map (byte :: ·) := by
  have small := byte.toNat_lt
  rw [encodeByte]
  split_ifs with plain space
  · obtain ⟨unreserved, code, ascii⟩ := plainByte byte.toNat small (by rwa [UInt8.ofNat_toNat])
    rw [List.singleton_append, decodeBytes?_unreserved unreserved (by rwa [code]), code, UInt8.ofNat_toNat]
  · rw [space]
    rfl
  · have sum : 16 * (byte.toNat / 16) + byte.toNat % 16 = byte.toNat := Nat.div_add_mod _ _
    simp only [List.cons_append, List.nil_append, decodeBytes?,
      Text.hexValue?_upperHexDigit _ (show byte.toNat / 16 < 16 by omega),
      Text.hexValue?_upperHexDigit _ (show byte.toNat % 16 < 16 by omega), sum, UInt8.ofNat_toNat]

theorem decodeBytes?_encodeBytes (bytes : List UInt8) : decodeBytes? (encodeBytes bytes) = some bytes := by
  induction bytes with
  | nil => rfl
  | cons byte rest induction =>
      rw [encodeBytes, List.flatMap_cons, decodeBytes?_encodeByte_append, ← encodeBytes, induction]
      rfl

theorem toList_loop (bytes : ByteArray) (position : Nat) (read : List UInt8) :
    ByteArray.toList.loop bytes position read = read.reverse ++ bytes.data.toList.drop position := by
  fun_induction ByteArray.toList.loop bytes position read with
  | case1 position read inside induction =>
      have inList : position < bytes.data.toList.length := by simpa using inside
      have byte : bytes.get! position = bytes.data[position]! := by
        cases bytes
        rfl
      rw [induction, byte, getElem!_pos bytes.data position inside, List.drop_eq_getElem_cons inList,
        List.reverse_cons, List.append_assoc]
      rfl
  | case2 position read outside =>
      have behind : bytes.data.toList.length ≤ position := by simpa using outside
      rw [List.drop_eq_nil_of_le behind, List.append_nil]

theorem toByteArray_toList (bytes : ByteArray) : bytes.toList.toByteArray = bytes := by
  apply ByteArray.ext
  rw [ByteArray.toList, toList_loop, List.data_toByteArray]
  simp

theorem decode?_encode (text : String) : decode? (encode text) = some text := by
  rw [decode?, encode, String.toList_ofList, decodeBytes?_encodeBytes, Option.bind_some, toByteArray_toList,
    String.toUTF8_eq_toByteArray, String.fromUTF8?, dif_pos text.isValidUTF8]
  rfl

theorem encode_inj {text other : String} : encode text = encode other ↔ text = other := by
  constructor
  · intro same
    have read := decode?_encode text
    rw [same, decode?_encode] at read
    exact (Option.some.inj read).symm
  · rintro rfl
    rfl

end FormEncoding

namespace Expr

/-- The fragments of queries that a search can express are equal exactly if the signed qualifiers are. -/
theorem searchFragment?_eq_iff {first second : Expr} (firstFlat : first.Flat) (secondFlat : second.Flat) :
    first.searchFragment? = second.searchFragment? ↔ first.signs false = second.signs false := by
  rw [searchFragment?, searchFragment?, signedLeaves?_of_flat firstFlat, signedLeaves?_of_flat secondFlat,
    Option.map_some, Option.map_some, Option.some_inj]
  constructor
  · intro same
    have read := SignedQualifier.readAll?_formatSearch (first.signs false)
    rw [same, SignedQualifier.readAll?_formatSearch] at read
    exact (Option.some.inj read).symm
  · intro same
    rw [same]

theorem flat_of_searchFragment? {expression : Expr} {fragment : String}
    (written : expression.searchFragment? = some fragment) : expression.Flat := by
  obtain ⟨found, foundEq, _⟩ := Option.map_eq_some_iff.mp written
  exact flat_of_signedLeaves? foundEq

end Expr

namespace Repository

theorem issuesUrl_eq (repository : Repository) (search : String) :
    repository.issuesUrl search = "https://github.com/" ++ repository.org ++ "/" ++ repository.repo ++
      "/issues?q=" ++ FormEncoding.encode search := by
  unfold issuesUrl path
  simp only [String.append_assoc]

theorem issuesUrl_inj {repository : Repository} {search other : String} :
    repository.issuesUrl search = repository.issuesUrl other ↔ search = other := by
  rw [issuesUrl_eq, issuesUrl_eq, String.append_right_inj, FormEncoding.encode_inj]

/-- A query has a link exactly if a search can express it.  The link is the address of the issue list with a form value
that reads back as the fragment, so that links into one repository are equal exactly if the fragments are, which is
the case exactly if the signed qualifiers are the same from left to right. -/
theorem queryUrl?_reads_back (repository : Repository) (query : Expr) :
    (repository.queryUrl? query = none ↔ query.searchFragment? = none) ∧
      (∀ fragment : String, query.searchFragment? = some fragment →
        ∃ value : String,
          repository.queryUrl? query = some ("https://github.com/" ++ repository.org ++ "/" ++
            repository.repo ++ "/issues?q=" ++ value) ∧
          FormEncoding.IsValue value.toList ∧ FormEncoding.decode? value = some fragment) ∧
      ∀ (other : Expr) (fragment otherFragment : String), query.searchFragment? = some fragment →
        other.searchFragment? = some otherFragment →
          (repository.queryUrl? query = repository.queryUrl? other ↔ fragment = otherFragment) ∧
          (fragment = otherFragment ↔ query.signs false = other.signs false) := by
  refine ⟨Option.map_eq_none_iff, ?_, ?_⟩
  · intro fragment written
    refine ⟨FormEncoding.encode fragment, ?_, ?_, FormEncoding.decode?_encode fragment⟩
    · rw [queryUrl?, written, Option.map_some, issuesUrl_eq]
    · rw [FormEncoding.encode, String.toList_ofList]
      exact FormEncoding.isValue_encodeBytes _
  · intro other fragment otherFragment written otherWritten
    constructor
    · rw [queryUrl?, queryUrl?, written, otherWritten, Option.map_some, Option.map_some, Option.some_inj,
        issuesUrl_inj]
    · rw [← Expr.searchFragment?_eq_iff (Expr.flat_of_searchFragment? written)
        (Expr.flat_of_searchFragment? otherWritten), written, otherWritten, Option.some_inj]

/-- Characters that mean something in a link are encoded, behind the quoting of the search.  The nesting of
conjunctions does not show. -/
theorem queryUrl?_of_reserved_characters :
    let repository : Repository := ⟨"o", "r"⟩
    let label : Expr := .leaf (.label "a +%&#é")
    let milestone : Expr := .not (.leaf (.milestone "\"\\"))
    let query : Expr := .and [label, .and [milestone, .leaf .isOpen]]
    let other : Expr := .and [.and [label, milestone], .leaf .isOpen]
    let fragment := "label:\"a +%&#é\" -milestone:\"\\\"\\\\\" is:open"
    (query.searchFragment? = some fragment ∧ other.searchFragment? = some fragment) ∧
      (∃ value : String,
        repository.queryUrl? query = some ("https://github.com/" ++ "o" ++ "/" ++ "r" ++ "/issues?q=" ++ value) ∧
          FormEncoding.IsValue value.toList ∧ FormEncoding.decode? value = some fragment) ∧
      repository.queryUrl? query = repository.queryUrl? other := by
  intro repository label milestone query other fragment
  have written : query.searchFragment? = some fragment ∧ other.searchFragment? = some fragment := by decide
  obtain ⟨_, reads, sameLinks⟩ := queryUrl?_reads_back repository query
  exact ⟨written, reads fragment written.1, (sameLinks other fragment fragment written.1 written.2).1.mpr rfl⟩

end Repository
end IssueWatch
