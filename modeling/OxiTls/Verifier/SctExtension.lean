import OxiTls.Verifier.SctCursor
import OxiTls.Verifier.SctWire

/-!
# Decoding the SCT extension

Stripping the octet string and parsing the list undoes the RFC 6962 encoding of a list, as long as
the encoded list is shorter than 64 KiB.  What is accepted begins with an encoding at every level.
-/

namespace OxiTls

/-! ## Encoded lists decode -/

/-- One entry of an encoded list. -/
def encodeEntry (sct : ParsedSct) : Bytes := BigEndian.encode 2 sct.encode.length ++ sct.encode

/-- The entries of a list, one after the other. -/
def encodeEntries (scts : List ParsedSct) : Bytes := scts.flatMap encodeEntry

/-- The RFC 6962 `SignedCertificateTimestampList`. -/
def encodeSctList (scts : List ParsedSct) : Bytes :=
  BigEndian.encode 2 (encodeEntries scts).length ++ encodeEntries scts

/-- A list of version-1 SCTs whose fields, entries and total fit their 16-bit lengths. -/
structure EncodableList (scts : List ParsedSct) : Prop where
  representable : ∀ sct ∈ scts, sct.Representable
  entries : ∀ sct ∈ scts, sct.encode.length < 2 ^ 16
  total : (encodeEntries scts).length < 2 ^ 16

theorem entriesOf_encodeEntries {scts : List ParsedSct}
    (representable : ∀ sct ∈ scts, sct.Representable)
    (entries : ∀ sct ∈ scts, sct.encode.length < 2 ^ 16) : EntriesOf scts (encodeEntries scts) := by
  induction scts with
  | nil => exact .nil (by decide)
  | cons sct scts induction =>
      rw [List.forall_mem_cons] at representable entries
      rw [encodeEntries, List.flatMap_cons, encodeEntry, List.append_assoc]
      exact .cons representable.1 entries.1 (List.prefix_refl _)
        (induction representable.2 entries.2)

theorem parseSctList_encodeSctList {scts : List ParsedSct} (encodable : EncodableList scts) :
    parseSctList (encodeSctList scts) = .ok scts := by
  rw [parseSctList_eq_ok_iff]
  exact .inr ⟨encodeEntries scts, encodable.total,
    entriesOf_encodeEntries encodable.representable encodable.entries, List.prefix_refl _⟩

/-- Below 64 KiB the shortest form of a length is understood. -/
theorem lengthForm_lengthField {length : Nat} (short : length < 2 ^ 16) :
    LengthForm (Der.lengthField length) length := by
  rw [Der.lengthField]
  split_ifs with small
  · exact .inl ⟨small, rfl⟩
  · right
    have positive : length ≠ 0 := by omega
    by_cases oneByte : length < 256
    · have count : Der.byteCount length = 1 :=
        (Der.byteCount_eq_iff positive).mpr ⟨by omega, by omega⟩
      rw [count]
      exact ⟨1, .inl rfl, oneByte, rfl⟩
    · have count : Der.byteCount length = 2 :=
        (Der.byteCount_eq_iff positive).mpr ⟨by omega, by omega⟩
      rw [count]
      exact ⟨2, .inr rfl, short, rfl⟩

theorem stripSctOctetString_octetString {content : Bytes} (short : content.length < 2 ^ 16) :
    stripSctOctetString (Der.octetString content) = some content := by
  rw [stripSctOctetString_eq_some_iff]
  exact ⟨_, lengthForm_lengthField short, List.prefix_refl _⟩

/-- From 64 KiB on the length needs three bytes, and the wrapper is refused. -/
theorem stripSctOctetString_octetString_of_le {content : Bytes} (long : 2 ^ 16 ≤ content.length)
    (bounded : content.length < 2 ^ 24) : stripSctOctetString (Der.octetString content) = none := by
  have count : Der.byteCount content.length = 3 :=
    (Der.byteCount_eq_iff (by omega)).mpr ⟨long, bounded⟩
  have form : (UInt8.ofNat (128 + 3)).toNat = 128 + 3 := rfl
  rw [Der.octetString, Der.lengthField, if_neg (by omega), count, List.cons_append,
    stripSctOctetString_of_high form, if_pos (by omega)]

/-- An encoded list is read back, in order and with every field, exactly when it is shorter than
64 KiB. -/
theorem sctExtension_decodes_iff {scts : List ParsedSct} (encodable : EncodableList scts) :
    (stripSctOctetString (Der.octetString (encodeSctList scts))).map parseSctList =
        some (.ok scts) ↔
      (encodeSctList scts).length < 2 ^ 16 := by
  constructor
  · intro decoded
    by_contra long
    have total := encodable.total
    have bounded : (encodeSctList scts).length < 2 ^ 24 := by
      rw [encodeSctList, List.length_append, BigEndian.length_encode]
      omega
    rw [stripSctOctetString_octetString_of_le (Nat.not_lt.mp long) bounded] at decoded
    contradiction
  · intro short
    rw [stripSctOctetString_octetString short, Option.map_some,
      parseSctList_encodeSctList encodable]

/-- An SCT with a signature of the given length. -/
def signedSct (length : Nat) : ParsedSct where
  sctVersion := 0
  logId := Vector.replicate 32 1
  timestampMs := 1700000000000
  extensions := []
  hashAlg := 4
  sigAlg := 3
  signature := List.replicate length 0

theorem encodableList_signedSct {length : Nat} (fits : length < 65487) :
    EncodableList [signedSct length] ∧
      (encodeSctList [signedSct length]).length = 51 + length := by
  have encoded : (signedSct length).encode.length = 47 + length := by
    rw [ParsedSct.length_encode]
    simp [signedSct]
  have region : (encodeEntries [signedSct length]).length = 49 + length := by
    simp only [encodeEntries, List.flatMap_singleton, encodeEntry, List.length_append,
      BigEndian.length_encode, encoded]
    omega
  refine ⟨⟨?_, ?_, ?_⟩, ?_⟩
  · intro sct listed
    obtain rfl := List.mem_singleton.mp listed
    refine ⟨rfl, ?_, ?_⟩
    · simp only [signedSct, List.length_nil]
      omega
    · simp only [signedSct, List.length_replicate]
      omega
  · intro sct listed
    obtain rfl := List.mem_singleton.mp listed
    omega
  · omega
  · rw [encodeSctList, List.length_append, BigEndian.length_encode, region]
    omega

/-- Two SCTs of different logs, with extensions and signatures. -/
def twoScts : List ParsedSct :=
  [{ signedSct 3 with extensions := [5, 6] },
    { signedSct 2 with logId := Vector.replicate 32 2, extensions := [7], sigAlg := 1 }]

/-- A list of two SCTs is read back. -/
theorem sctExtension_decodes_twoScts :
    (stripSctOctetString (Der.octetString (encodeSctList twoScts))).map parseSctList =
      some (.ok twoScts) := by
  have encodable : EncodableList twoScts := by
    refine ⟨?_, ?_, by decide⟩
    · intro sct listed
      simp only [twoScts, List.mem_cons, List.not_mem_nil, or_false] at listed
      rcases listed with rfl | rfl <;> exact ⟨rfl, by decide, by decide⟩
    · intro sct listed
      simp only [twoScts, List.mem_cons, List.not_mem_nil, or_false] at listed
      rcases listed with rfl | rfl <;> decide
  exact (sctExtension_decodes_iff encodable).mpr (by decide)

/-- A list that fits its 16-bit length but takes 65536 bytes with it is not read back. -/
theorem sctExtension_not_decoded :
    EncodableList [signedSct 65485] ∧
      stripSctOctetString (Der.octetString (encodeSctList [signedSct 65485])) = none ∧
      (stripSctOctetString (Der.octetString (encodeSctList [signedSct 65485]))).map parseSctList ≠
        some (.ok [signedSct 65485]) := by
  obtain ⟨encodable, length_eq⟩ := encodableList_signedSct (show 65485 < 65487 by omega)
  have refused : stripSctOctetString (Der.octetString (encodeSctList [signedSct 65485])) = none :=
    stripSctOctetString_octetString_of_le (by omega) (by omega)
  refine ⟨encodable, refused, ?_⟩
  rw [refused]
  exact Option.some_ne_none _ ∘ Eq.symm

/-! ## What is accepted -/

/-- What decodes to a list of SCTs: an octet string of the content, which is too short to have a
length or begins with the length of a region of entries and the region. -/
structure BeginsWithList (bytes content : Bytes) (scts : List ParsedSct) : Prop where
  octetString : ∃ field, LengthForm field content.length ∧ 0x04 :: (field ++ content) <+: bytes
  list : content.length < 2 ∧ scts = [] ∨
    ∃ region, region.length < 2 ^ 16 ∧ EntriesOf scts region ∧
      BigEndian.encode 2 region.length ++ region <+: content

/-- Accepted bytes begin with an encoding of the result, and no reader panics on any bytes. -/
theorem sctExtension_accepts (bytes : Bytes) :
    (∀ content scts, stripSctOctetString bytes = some content →
        parseSctList content = .ok scts → BeginsWithList bytes content scts) ∧
      readSctOctetString bytes = .ok (stripSctOctetString bytes) ∧
      readSctList bytes = Fault.calm (parseSctList bytes) ∧
      readSctOctetString bytes ≠ .error .panic ∧ readSctList bytes ≠ .error .panic := by
  refine ⟨fun content scts stripped parsed => ?_, readSctOctetString_eq bytes, readSctList_eq bytes,
    ?_, ?_⟩
  · exact ⟨stripSctOctetString_eq_some_iff.mp stripped, parseSctList_eq_ok_iff.mp parsed⟩
  · rw [readSctOctetString_eq]
    simp
  · rw [readSctList_eq]
    cases parseSctList bytes <;> simp

/-- Bytes that are read as the empty list and are not its encoding. -/
def ReadAsEmpty (bytes : Bytes) : Prop :=
  (stripSctOctetString bytes).map parseSctList = some (.ok []) ∧
    bytes ≠ Der.octetString (encodeSctList [])

/-- No content, a byte after the octet string, after the list and inside it, and a longer form of
the length. -/
theorem sctExtension_accepts_slack :
    ReadAsEmpty [0x04, 0x00] ∧ ReadAsEmpty [0x04, 0x02, 0x00, 0x00, 0x09] ∧
      ReadAsEmpty [0x04, 0x03, 0x00, 0x00, 0x09] ∧ ReadAsEmpty [0x04, 0x03, 0x00, 0x01, 0x09] ∧
      ReadAsEmpty [0x04, 0x81, 0x02, 0x00, 0x00] := by
  unfold ReadAsEmpty
  decide

end OxiTls
