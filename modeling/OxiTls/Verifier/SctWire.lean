import OxiTls.Library.Der
import OxiTls.Library.Slices
import OxiTls.Verifier.Sct

/-!
# The wire format of an SCT list

The RFC 6962 encoding of an SCT list in a DER OCTET STRING, and what `strip_sct_octet_string` and
`parse_sct_list` accept.  At every level they read the encoding and ignore what follows it.
-/

namespace OxiTls

/-! ## Encoding -/

namespace ParsedSct

/-- The RFC 6962 encoding of an SCT. -/
def encode (sct : ParsedSct) : Bytes :=
  [sct.sctVersion] ++ sct.logId.toList ++ BigEndian.encode 8 sct.timestampMs.toNat ++
    BigEndian.encode 2 sct.extensions.length ++ sct.extensions ++ [sct.hashAlg] ++ [sct.sigAlg] ++
    BigEndian.encode 2 sct.signature.length ++ sct.signature

/-- A version-1 SCT whose variable fields fit their 16-bit lengths. -/
structure Representable (sct : ParsedSct) : Prop where
  version : sct.sctVersion = 0
  extensions : sct.extensions.length < 2 ^ 16
  signature : sct.signature.length < 2 ^ 16

theorem length_encode (sct : ParsedSct) :
    sct.encode.length = 47 + sct.extensions.length + sct.signature.length := by
  simp only [encode, List.length_append, List.length_singleton, Vector.length_toList,
    BigEndian.length_encode]
  omega

end ParsedSct

/-! ## One entry -/

/-- The slices of an entry that starts with an encoded SCT are its fields. -/
structure EntrySlices (sct : ParsedSct) (bytes : Bytes) : Prop where
  version : bytes.extract 0 1 = [sct.sctVersion]
  logId : bytes.extract 1 33 = sct.logId.toList
  timestampMs : bytes.extract 33 41 = BigEndian.encode 8 sct.timestampMs.toNat
  extLen : bytes.extract 41 43 = BigEndian.encode 2 sct.extensions.length
  extensions : bytes.extract 43 (43 + sct.extensions.length) = sct.extensions
  hashAlg : bytes.extract (43 + sct.extensions.length) (43 + sct.extensions.length + 1) =
    [sct.hashAlg]
  sigAlg : bytes.extract (43 + sct.extensions.length + 1) (43 + sct.extensions.length + 1 + 1) =
    [sct.sigAlg]
  sigLen : bytes.extract (43 + sct.extensions.length + 2) (43 + sct.extensions.length + 4) =
    BigEndian.encode 2 sct.signature.length
  signature : bytes.extract (43 + sct.extensions.length + 4)
    (43 + sct.extensions.length + 4 + sct.signature.length) = sct.signature

theorem entrySlices_encode_append (sct : ParsedSct) (trailing : Bytes) :
    EntrySlices sct (sct.encode ++ trailing) := by
  have logId_length := sct.logId.length_toList
  have timestamp_length := BigEndian.length_encode 8 sct.timestampMs.toNat
  have extLen_length := BigEndian.length_encode 2 sct.extensions.length
  have sigLen_length := BigEndian.length_encode 2 sct.signature.length
  let start := [sct.sctVersion] ++ sct.logId.toList ++ BigEndian.encode 8 sct.timestampMs.toNat
  let middle := start ++ BigEndian.encode 2 sct.extensions.length ++ sct.extensions
  have start_length : start.length = 41 := by
    simp only [start, List.length_append, List.length_singleton]
    omega
  have middle_length : middle.length = 43 + sct.extensions.length := by
    simp only [middle, List.length_append, start_length]
    omega
  constructor
  · rfl
  · refine Slices.extract_of_append_prefix [sct.sctVersion] _ rfl ?_ ?_
    · omega
    · simp [ParsedSct.encode]
  · refine Slices.extract_of_append_prefix ([sct.sctVersion] ++ sct.logId.toList) _ ?_ ?_ ?_
    · simp
    · omega
    · simp [ParsedSct.encode]
  · refine Slices.extract_of_append_prefix start _ start_length ?_ ?_
    · omega
    · simp [ParsedSct.encode, start]
  · refine Slices.extract_of_append_prefix (start ++ BigEndian.encode 2 sct.extensions.length) _
      ?_ rfl ?_
    · simp [start_length]
    · simp [ParsedSct.encode, start]
  · refine Slices.extract_of_append_prefix middle [sct.hashAlg] middle_length rfl ?_
    simp [ParsedSct.encode, middle, start]
  · refine Slices.extract_of_append_prefix (middle ++ [sct.hashAlg]) [sct.sigAlg] ?_ rfl ?_
    · simp [middle_length]
    · simp [ParsedSct.encode, middle, start]
  · refine Slices.extract_of_append_prefix (middle ++ [sct.hashAlg] ++ [sct.sigAlg]) _ ?_ ?_ ?_
    · simp [middle_length]
    · omega
    · simp [ParsedSct.encode, middle, start]
  · refine Slices.extract_of_append_prefix
      (middle ++ [sct.hashAlg] ++ [sct.sigAlg] ++ BigEndian.encode 2 sct.signature.length) _
      ?_ rfl ?_
    · simp [middle_length]
    · simp [ParsedSct.encode, middle, start]

/-- Consecutive slices make up the start of the entry. -/
theorem EntrySlices.encode_prefix {sct : ParsedSct} {bytes : Bytes}
    (slices : EntrySlices sct bytes) : sct.encode <+: bytes := by
  let extEnd := 43 + sct.extensions.length
  have version : [sct.sctVersion] = bytes.take 1 := slices.version.symm
  have encode_eq : sct.encode = bytes.take (extEnd + 4 + sct.signature.length) := by
    calc sct.encode
      _ = bytes.take 1 ++ bytes.extract 1 33 ++ bytes.extract 33 41 ++ bytes.extract 41 43 ++
            bytes.extract 43 extEnd ++ bytes.extract extEnd (extEnd + 1) ++
            bytes.extract (extEnd + 1) (extEnd + 1 + 1) ++
            bytes.extract (extEnd + 2) (extEnd + 4) ++
            bytes.extract (extEnd + 4) (extEnd + 4 + sct.signature.length) := by
          rw [ParsedSct.encode, version, slices.logId, slices.timestampMs, slices.extLen,
            slices.extensions, slices.hashAlg, slices.sigAlg, slices.sigLen, slices.signature]
      _ = bytes.take (extEnd + 4 + sct.signature.length) := by
          rw [Slices.take_append_extract (by omega), Slices.take_append_extract (by omega),
            Slices.take_append_extract (by omega), Slices.take_append_extract (by omega),
            Slices.take_append_extract (by omega), Slices.take_append_extract (by omega),
            Slices.take_append_extract (by omega), Slices.take_append_extract (by omega)]
  rw [encode_eq]
  exact List.take_prefix _ _

/-- The numbers and bytes the parser reads are those of the slices. -/
theorem parseSctEntry_of_entrySlices {sct : ParsedSct} {bytes : Bytes}
    (representable : sct.Representable) (slices : EntrySlices sct bytes)
    (complete : sct.encode.length ≤ bytes.length) : parseSctEntry bytes = .ok sct := by
  rw [ParsedSct.length_encode] at complete
  have version : bytes.getD 0 0 = sct.sctVersion := Slices.getD_of_extract_succ 0 slices.version
  have logId : (Vector.ofFn fun i : Fin 32 => bytes.getD (1 + i) 0) = sct.logId :=
    Vector.toList_inj.mp ((Slices.toList_ofFn_getD 0 (by omega)).trans slices.logId)
  have timestampMs : UInt64.ofNat (BigEndian.decode (bytes.extract 33 41)) = sct.timestampMs := by
    rw [slices.timestampMs, BigEndian.decode_encode_of_lt sct.timestampMs.toNat_lt,
      UInt64.ofNat_toNat]
  have extLen : BigEndian.decode (bytes.extract 41 43) = sct.extensions.length := by
    rw [slices.extLen, BigEndian.decode_encode_of_lt representable.extensions]
  have hashAlg : bytes.getD (43 + sct.extensions.length) 0 = sct.hashAlg :=
    Slices.getD_of_extract_succ 0 slices.hashAlg
  have sigAlg : bytes.getD (43 + sct.extensions.length + 1) 0 = sct.sigAlg :=
    Slices.getD_of_extract_succ 0 slices.sigAlg
  have sigLen : BigEndian.decode (bytes.extract (43 + sct.extensions.length + 2)
      (43 + sct.extensions.length + 4)) = sct.signature.length := by
    rw [slices.sigLen, BigEndian.decode_encode_of_lt representable.signature]
  have isVersion : ¬ bytes.getD 0 0 ≠ 0 := by
    rw [version, representable.version]
    exact not_not.mpr rfl
  simp only [parseSctEntry, extLen, sigLen, if_neg isVersion]
  rw [if_neg (by omega), if_neg (by omega), if_neg (by omega), if_neg (by omega), version, logId,
    timestampMs, slices.extensions, hashAlg, sigAlg, slices.signature]

/-- What the parser has checked of an entry, and the SCT it has read. -/
theorem parseSctEntry_inv {sct : ParsedSct} {bytes : Bytes}
    (parsed : parseSctEntry bytes = .ok sct) :
    ∃ extLen sigLen, BigEndian.decode (bytes.extract 41 43) = extLen ∧
      BigEndian.decode (bytes.extract (43 + extLen + 2) (43 + extLen + 4)) = sigLen ∧
      43 + extLen + 4 + sigLen ≤ bytes.length ∧ bytes.getD 0 0 = 0 ∧
      sct =
        { sctVersion := bytes.getD 0 0
          logId := Vector.ofFn fun i => bytes.getD (1 + i) 0
          timestampMs := UInt64.ofNat (BigEndian.decode (bytes.extract 33 41))
          extensions := bytes.extract 43 (43 + extLen)
          hashAlg := bytes.getD (43 + extLen) 0
          sigAlg := bytes.getD (43 + extLen + 1) 0
          signature := bytes.extract (43 + extLen + 4) (43 + extLen + 4 + sigLen) } := by
  rw [parseSctEntry] at parsed
  split at parsed
  · contradiction
  dsimp only at parsed
  split at parsed
  · contradiction
  rename_i isVersion
  split at parsed
  · contradiction
  split at parsed
  · contradiction
  split at parsed
  · contradiction
  rename_i signatureFits
  exact ⟨_, _, rfl, rfl, Nat.not_lt.mp signatureFits, not_not.mp isVersion,
    (Except.ok.inj parsed).symm⟩

/-- A parsed entry consists of the slices of its SCT, and all of them are there. -/
theorem entrySlices_of_parseSctEntry {sct : ParsedSct} {bytes : Bytes}
    (parsed : parseSctEntry bytes = .ok sct) :
    sct.Representable ∧ EntrySlices sct bytes := by
  obtain ⟨extLen, sigLen, extLen_eq, sigLen_eq, complete, isVersion, rfl⟩ :=
    parseSctEntry_inv parsed
  obtain ⟨timestamp_field, timestamp_lt⟩ : bytes.extract 33 41 = BigEndian.encode 8 _ ∧ _ :=
    BigEndian.eq_encode_of_decode (Slices.length_extract (by omega)) rfl
  obtain ⟨extLen_field, extLen_lt⟩ : bytes.extract 41 43 = BigEndian.encode 2 _ ∧ _ :=
    BigEndian.eq_encode_of_decode (Slices.length_extract (by omega)) extLen_eq
  have sigLen_length : (bytes.extract (43 + extLen + 2) (43 + extLen + 4)).length = 2 := by
    rw [Slices.length_extract (by omega)]
    omega
  obtain ⟨sigLen_field, sigLen_lt⟩ := BigEndian.eq_encode_of_decode sigLen_length sigLen_eq
  have ext_length : (bytes.extract 43 (43 + extLen)).length = extLen := by
    rw [Slices.length_extract (by omega), Nat.add_sub_cancel_left]
  have sig_length :
      (bytes.extract (43 + extLen + 4) (43 + extLen + 4 + sigLen)).length = sigLen := by
    rw [Slices.length_extract complete, Nat.add_sub_cancel_left]
  refine ⟨⟨isVersion, ?_, ?_⟩, ?_⟩
  · rw [ext_length]
    exact extLen_lt
  · rw [sig_length]
    exact sigLen_lt
  · constructor
    · exact Slices.extract_succ 0 (by omega)
    · have inRange : 1 + 32 ≤ bytes.length := by omega
      exact (Slices.toList_ofFn_getD 0 inRange).symm
    · rw [UInt64.toNat_ofNat_of_lt' timestamp_lt]
      exact timestamp_field
    · rw [ext_length]
      exact extLen_field
    · rw [ext_length]
    · rw [ext_length]
      exact Slices.extract_succ 0 (by omega)
    · rw [ext_length]
      exact Slices.extract_succ 0 (by omega)
    · rw [ext_length, sig_length]
      exact sigLen_field
    · rw [ext_length, sig_length]

/-- An entry parses exactly when it begins with the encoding of the SCT. -/
theorem parseSctEntry_eq_ok_iff {bytes : Bytes} {sct : ParsedSct} :
    parseSctEntry bytes = .ok sct ↔ sct.Representable ∧ sct.encode <+: bytes := by
  constructor
  · intro parsed
    obtain ⟨representable, slices⟩ := entrySlices_of_parseSctEntry parsed
    exact ⟨representable, slices.encode_prefix⟩
  · rintro ⟨representable, trailing, rfl⟩
    refine parseSctEntry_of_entrySlices representable (entrySlices_encode_append sct trailing) ?_
    rw [List.length_append]
    omega

/-! ## All entries -/

/-- A region that holds the entries of a list of SCTs, each after its length, and at most one more
byte.  An entry begins with the encoding of its SCT. -/
inductive EntriesOf : List ParsedSct → Bytes → Prop
  | nil {slack : Bytes} (short : slack.length < 2) : EntriesOf [] slack
  | cons {sct : ParsedSct} {scts : List ParsedSct} {body rest : Bytes}
      (representable : sct.Representable) (fits : body.length < 2 ^ 16)
      (begins : sct.encode <+: body) (later : EntriesOf scts rest) :
      EntriesOf (sct :: scts) (BigEndian.encode 2 body.length ++ (body ++ rest))

/-- A region too short for a length has no entry. -/
theorem entriesOf_iff_of_short {scts : List ParsedSct} {region : Bytes}
    (short : region.length < 2) : EntriesOf scts region ↔ scts = [] := by
  constructor
  · intro entries
    cases entries with
    | nil _ => rfl
    | cons _ _ _ _ =>
        rw [List.length_append, BigEndian.length_encode] at short
        omega
  · rintro rfl
    exact .nil short

/-- The first entry of a longer region has the length its first two bytes give. -/
theorem entriesOf_iff_of_long {scts : List ParsedSct} {region : Bytes}
    (long : ¬ region.length < 2) :
    EntriesOf scts region ↔
      BigEndian.decode (region.take 2) ≤ (region.drop 2).length ∧
        ∃ sct later, scts = sct :: later ∧
          parseSctEntry ((region.drop 2).take (BigEndian.decode (region.take 2))) = .ok sct ∧
          EntriesOf later ((region.drop 2).drop (BigEndian.decode (region.take 2))) := by
  constructor
  · intro entries
    cases entries with
    | nil short => exact absurd short long
    | @cons sct later body rest representable fits begins entries =>
        have inTwoBytes : body.length < 256 ^ 2 := fits
        obtain ⟨length_eq, body_eq, rest_eq⟩ :=
          BigEndian.read_encode_length_append inTwoBytes rest
        rw [length_eq, body_eq, rest_eq]
        refine ⟨?_, sct, later, rfl, parseSctEntry_eq_ok_iff.mpr ⟨representable, begins⟩, entries⟩
        rw [List.drop_left' (BigEndian.length_encode 2 body.length), List.length_append]
        omega
  · rintro ⟨holds, sct, later, rfl, parsed, entries⟩
    obtain ⟨representable, begins⟩ := parseSctEntry_eq_ok_iff.mp parsed
    obtain ⟨fits, region_eq⟩ := BigEndian.eq_encode_length_append (by omega) holds
    rw [region_eq]
    exact .cons representable fits begins entries

/-- The loop accepts exactly the regions of entries. -/
theorem parseSctEntries_eq_ok_iff {fuel : Nat} {region : Bytes} (enough : region.length ≤ fuel)
    {scts : List ParsedSct} :
    parseSctEntries fuel region = .ok scts ↔ EntriesOf scts region := by
  induction fuel generalizing region scts with
  | zero =>
      rw [parseSctEntries, entriesOf_iff_of_short (by omega), Except.ok.injEq]
      exact eq_comm
  | succ fuel induction =>
      rw [parseSctEntries]
      by_cases short : region.length < 2
      · rw [if_pos short, entriesOf_iff_of_short short, Except.ok.injEq]
        exact eq_comm
      · rw [if_neg short, entriesOf_iff_of_long short]
        by_cases overflow : BigEndian.decode (region.take 2) > (region.drop 2).length
        · simp only [if_pos overflow, reduceCtorEq, false_iff, not_and]
          omega
        · have shorter :
              ((region.drop 2).drop (BigEndian.decode (region.take 2))).length ≤ fuel := by
            rw [List.length_drop, List.length_drop]
            omega
          simp only [if_neg overflow, Except.bind_eq_ok_iff, Except.pure_eq_ok_iff,
            induction shorter, Nat.not_lt.mp overflow, true_and]
          constructor
          · rintro ⟨sct, parsed, later, entries, rfl⟩
            exact ⟨sct, later, rfl, parsed, entries⟩
          · rintro ⟨sct, later, rfl, parsed, entries⟩
            exact ⟨sct, parsed, later, entries, rfl⟩

/-! ## The list -/

/-- A list parses when it is too short to have a length, and otherwise when it begins with the
length of a region of entries and the region. -/
theorem parseSctList_eq_ok_iff {bytes : Bytes} {scts : List ParsedSct} :
    parseSctList bytes = .ok scts ↔
      bytes.length < 2 ∧ scts = [] ∨
        ∃ region, region.length < 2 ^ 16 ∧ EntriesOf scts region ∧
          BigEndian.encode 2 region.length ++ region <+: bytes := by
  rw [parseSctList]
  constructor
  · intro parsed
    split at parsed
    · rename_i short
      exact .inl ⟨short, (Except.ok.inj parsed).symm⟩
    · dsimp only at parsed
      split at parsed
      · contradiction
      · rename_i long overflow
        have holds : BigEndian.decode (bytes.take 2) ≤ (bytes.drop 2).length := by
          rw [List.length_drop]
          omega
        rw [List.extract_eq_take_drop, Nat.add_sub_cancel_left,
          parseSctEntries_eq_ok_iff (List.length_take_le _ _)] at parsed
        obtain ⟨fits, bytes_eq⟩ := BigEndian.eq_encode_length_append (by omega) holds
        refine .inr ⟨_, fits, parsed, (bytes.drop 2).drop (BigEndian.decode (bytes.take 2)), ?_⟩
        rw [List.append_assoc]
        exact bytes_eq.symm
  · rintro (⟨short, rfl⟩ | ⟨region, fits, entries, trailing, rfl⟩)
    · rw [if_pos short]
    · have inTwoBytes : region.length < 256 ^ 2 := fits
      obtain ⟨length_eq, region_eq, _⟩ :=
        BigEndian.read_encode_length_append inTwoBytes trailing
      rw [List.append_assoc, length_eq]
      dsimp only
      rw [List.extract_eq_take_drop, Nat.add_sub_cancel_left, region_eq, List.length_append,
        List.length_append, BigEndian.length_encode, if_neg (by omega), if_neg (by omega)]
      exact (parseSctEntries_eq_ok_iff (Nat.le_refl _)).mpr entries

theorem EntriesOf.representable {scts : List ParsedSct} {region : Bytes}
    (entries : EntriesOf scts region) : ∀ sct ∈ scts, sct.Representable := by
  induction entries with
  | nil _ => exact fun sct listed => absurd listed List.not_mem_nil
  | cons representable _ _ _ induction => exact List.forall_mem_cons.mpr ⟨representable, induction⟩

/-- Parsed SCTs have version 1, and fields that fit their lengths. -/
theorem representable_of_parseSctList {bytes : Bytes} {scts : List ParsedSct}
    (parsed : parseSctList bytes = .ok scts) : ∀ sct ∈ scts, sct.Representable := by
  rcases parseSctList_eq_ok_iff.mp parsed with ⟨_, rfl⟩ | ⟨region, _, entries, _⟩
  · exact fun sct listed => absurd listed List.not_mem_nil
  · exact entries.representable

/-! ## The octet string -/

/-- The forms of a length that are understood: a byte below 128, or one or two bytes after their
count. -/
def LengthForm (field : Bytes) (length : Nat) : Prop :=
  length < 128 ∧ field = [UInt8.ofNat length] ∨
    ∃ width, (width = 1 ∨ width = 2) ∧ length < 256 ^ width ∧
      field = UInt8.ofNat (128 + width) :: BigEndian.encode width length

/-- The low bits of a byte of at least 128. -/
theorem toNat_and_eq_sub {byte : UInt8} (high : ¬ byte < 0x80) :
    (byte &&& 0x7f).toNat = byte.toNat - 128 := by
  have bound := byte.toNat_lt
  have masked : byte.toNat &&& 127 = byte.toNat % 128 := Nat.and_two_pow_sub_one_eq_mod _ 7
  have large : 128 ≤ byte.toNat := by
    rw [UInt8.lt_iff_toNat_lt] at high
    exact Nat.not_lt.mp high
  rw [UInt8.toNat_and]
  change byte.toNat &&& 127 = _
  omega

theorem stripSctOctetString_of_low {lenByte : UInt8} (low : lenByte < 0x80) (rest : Bytes) :
    stripSctOctetString (0x04 :: lenByte :: rest) =
      if rest.length < lenByte.toNat then none else some (rest.take lenByte.toNat) := by
  simp only [stripSctOctetString, ne_eq, not_true_eq_false, if_false, if_pos low]

theorem stripSctOctetString_of_high {lenByte : UInt8} {width : Nat}
    (form : lenByte.toNat = 128 + width) (rest : Bytes) :
    stripSctOctetString (0x04 :: lenByte :: rest) =
      if width = 0 ∨ width > 2 ∨ rest.length < width then none
      else if (rest.drop width).length < BigEndian.decode (rest.take width) then none
      else some ((rest.drop width).take (BigEndian.decode (rest.take width))) := by
  have high : ¬ lenByte < 0x80 := by
    rw [UInt8.lt_iff_toNat_lt]
    change ¬ lenByte.toNat < 128
    omega
  have width_eq : (lenByte &&& 0x7f).toNat = width := by
    rw [toNat_and_eq_sub high]
    omega
  simp only [stripSctOctetString, ne_eq, not_true_eq_false, if_false, if_neg high, width_eq]
  by_cases malformed : width = 0 ∨ width > 2 ∨ rest.length < width
  · rw [if_pos malformed, if_pos malformed]
  · rw [if_neg malformed, if_neg malformed]

/-- An octet string in one of the forms is stripped, whatever follows it. -/
theorem stripSctOctetString_of_lengthForm {field content : Bytes}
    (form : LengthForm field content.length) (trailing : Bytes) :
    stripSctOctetString (0x04 :: (field ++ content) ++ trailing) = some content := by
  rcases form with ⟨small, rfl⟩ | ⟨width, known, fits, rfl⟩
  · have length_eq : (UInt8.ofNat content.length).toNat = content.length :=
      UInt8.toNat_ofNat_of_lt' (small.trans (by decide))
    have low : UInt8.ofNat content.length < 0x80 := by
      rw [UInt8.lt_iff_toNat_lt, length_eq]
      exact small
    have stripped := stripSctOctetString_of_low low (content ++ trailing)
    rw [length_eq, List.length_append, if_neg (by omega), List.take_left] at stripped
    exact stripped
  · obtain ⟨length_eq, content_eq, _⟩ := BigEndian.read_encode_length_append fits trailing
    have count : (UInt8.ofNat (128 + width)).toNat = 128 + width :=
      UInt8.toNat_ofNat_of_lt' (by simp only [UInt8.size]; omega)
    have stripped := stripSctOctetString_of_high count
      (BigEndian.encode width content.length ++ (content ++ trailing))
    rw [length_eq, content_eq, List.drop_left' (BigEndian.length_encode _ _), List.length_append,
      List.length_append, BigEndian.length_encode, if_neg (by omega), if_neg (by omega)]
      at stripped
    simpa only [List.cons_append, List.append_assoc] using stripped

/-- The length byte decides between the forms. -/
theorem exists_lengthForm_of_stripSctOctetString {lenByte : UInt8} {rest content : Bytes}
    (stripped : stripSctOctetString (0x04 :: lenByte :: rest) = some content) :
    ∃ field, LengthForm field content.length ∧ field ++ content <+: lenByte :: rest := by
  by_cases low : lenByte < 0x80
  · rw [stripSctOctetString_of_low low] at stripped
    split_ifs at stripped with overflow
    obtain rfl := Option.some.inj stripped
    have length_eq : (rest.take lenByte.toNat).length = lenByte.toNat :=
      List.length_take_of_le (by omega)
    refine ⟨[lenByte], .inl ⟨?_, ?_⟩, ?_⟩
    · rw [length_eq]
      exact UInt8.lt_iff_toNat_lt.mp low
    · rw [length_eq, UInt8.ofNat_toNat]
    · exact (List.prefix_cons_inj _).mpr (List.take_prefix _ _)
  · obtain ⟨width, count⟩ : ∃ width, lenByte.toNat = 128 + width :=
      Nat.exists_eq_add_of_le (Nat.not_lt.mp (UInt8.lt_iff_toNat_lt.not.mp low))
    rw [stripSctOctetString_of_high count] at stripped
    split_ifs at stripped with malformed overflow
    obtain ⟨fits, rest_eq⟩ := BigEndian.eq_encode_length_append (by omega)
      (Nat.not_lt.mp overflow)
    rw [Option.some.inj stripped] at fits rest_eq
    refine ⟨lenByte :: BigEndian.encode width content.length,
      .inr ⟨width, by omega, fits, ?_⟩, ?_⟩
    · rw [← count, UInt8.ofNat_toNat]
    · refine (List.prefix_cons_inj _).mpr ?_
      rw [rest_eq, ← List.append_assoc]
      exact List.prefix_append _ _

/-- The wrapper is stripped exactly from what begins with an octet string in one of the forms. -/
theorem stripSctOctetString_eq_some_iff {bytes content : Bytes} :
    stripSctOctetString bytes = some content ↔
      ∃ field, LengthForm field content.length ∧ 0x04 :: (field ++ content) <+: bytes := by
  constructor
  · intro stripped
    match bytes with
    | [] | [_] => contradiction
    | tag :: lenByte :: rest =>
        by_cases tagged : tag = 0x04
        · subst tagged
          obtain ⟨field, form, begins⟩ := exists_lengthForm_of_stripSctOctetString stripped
          exact ⟨field, form, (List.prefix_cons_inj _).mpr begins⟩
        · simp [stripSctOctetString, tagged] at stripped
  · rintro ⟨field, form, trailing, rfl⟩
    exact stripSctOctetString_of_lengthForm form trailing

end OxiTls
