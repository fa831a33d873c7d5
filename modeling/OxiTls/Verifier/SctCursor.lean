import OxiTls.Library.Panics
import OxiTls.Library.Slices
import OxiTls.Verifier.Sct

/-!
# Reading an SCT list with positions

The readers of the SCT extension as the source writes them: over one buffer, with a position that
moves on, and with indices and slices that would panic out of range.  They never do, and they give
the results of the parsers over lists.
-/

namespace OxiTls

/-- `u16::from_be_bytes` of the two bytes at a position. -/
def u16At (bytes : Bytes) (pos : Nat) : Except (Fault SctParseError) Nat := do
  let high ← Fault.index bytes pos
  let low ← Fault.index bytes (pos + 1)
  pure (BigEndian.decode [high, low])

/-- The body of the loop of `parse_sct_list`, from the slice of one entry on. -/
def readSctEntry (sctBytes : Bytes) : Except (Fault SctParseError) ParsedSct :=
  if sctBytes.length < 43 then .error (.failed .entryTooShort)
  else do
    let version ← Fault.index sctBytes 0
    if version ≠ 0x00 then .error (.failed (.unknownVersion version))
    else
      let logId ← Fault.slice sctBytes 1 33 >>= Fault.copyFromSlice 32
      let timestamp ← Fault.slice sctBytes 33 41
      if timestamp.length ≠ 8 then .error (.failed .entryTooShort)
      else
        let innerPos := 41
        if innerPos + 2 > sctBytes.length then .error (.failed .entryTooShort)
        else
          let extLen ← u16At sctBytes innerPos
          let innerPos := innerPos + 2
          if innerPos + extLen > sctBytes.length then .error (.failed .entryTooShort)
          else
            let extensions ← Fault.slice sctBytes innerPos (innerPos + extLen)
            let innerPos := innerPos + extLen
            if innerPos + 4 > sctBytes.length then .error (.failed .entryTooShort)
            else
              let hashAlg ← Fault.index sctBytes innerPos
              let sigAlg ← Fault.index sctBytes (innerPos + 1)
              let sigLen ← u16At sctBytes (innerPos + 2)
              let innerPos := innerPos + 4
              if innerPos + sigLen > sctBytes.length then .error (.failed .entryTooShort)
              else
                let signature ← Fault.slice sctBytes innerPos (innerPos + sigLen)
                pure
                  { sctVersion := version
                    logId := logId
                    timestampMs := UInt64.ofNat (BigEndian.decode timestamp)
                    extensions := extensions
                    hashAlg := hashAlg
                    sigAlg := sigAlg
                    signature := signature }

/-- The loop of `parse_sct_list` up to the position `stop`. -/
def readSctEntries (bytes : Bytes) (stop : Nat) :
    (fuel pos : Nat) → (out : List ParsedSct) → Except (Fault SctParseError) (List ParsedSct)
  | 0, _, out => .ok out
  | fuel + 1, pos, out =>
      if pos + 2 ≤ stop then do
        let sctLen ← u16At bytes pos
        let pos := pos + 2
        if pos + sctLen > stop then .error (.failed .entryLenOverflow)
        else
          let sctBytes ← Fault.slice bytes pos (pos + sctLen)
          let sct ← readSctEntry sctBytes
          readSctEntries bytes stop fuel (pos + sctLen) (out ++ [sct])
      else .ok out

/-- `parse_sct_list`. -/
def readSctList (bytes : Bytes) : Except (Fault SctParseError) (List ParsedSct) :=
  if bytes.length < 2 then .ok []
  else do
    let listLen ← u16At bytes 0
    let pos := 2
    let stop := pos + listLen
    if stop > bytes.length then .error (.failed .listLenOverflow)
    else readSctEntries bytes stop listLen pos []

/-- The content of an octet string, when there is as much of it as its length says. -/
def readContent (contentLen : Nat) (rest : Bytes) : Except (Fault SctParseError) (Option Bytes) :=
  if rest.length < contentLen then .ok none
  else some <$> Fault.slice rest 0 contentLen

/-- `strip_sct_octet_string`. -/
def readSctOctetString : Bytes → Except (Fault SctParseError) (Option Bytes)
  | tag :: lenByte :: rest =>
      if tag ≠ 0x04 then .ok none
      else if lenByte < 0x80 then readContent lenByte.toNat rest
      else
        let numBytes := (lenByte &&& 0x7f).toNat
        if numBytes = 0 ∨ numBytes > 2 ∨ rest.length < numBytes then .ok none
        else do
          let lenBytes ← Fault.slice rest 0 numBytes
          let len := lenBytes.foldl (fun (len : Nat) (b : UInt8) => (len <<< 8) ||| b.toNat) 0
          let rest ← Fault.slice rest numBytes rest.length
          readContent len rest
  | _ => .ok none

/-! ## The readers do not panic -/

theorem u16At_of_le {bytes : Bytes} {pos : Nat} (inRange : pos + 2 ≤ bytes.length) :
    u16At bytes pos = .ok (BigEndian.decode (bytes.extract pos (pos + 2))) := by
  rw [Slices.extract_add_two 0 (by omega)]
  simp only [u16At, Fault.index_of_lt 0 (show pos < bytes.length by omega),
    Fault.index_of_lt 0 (show pos + 1 < bytes.length by omega), Fault.ok_bind]
  rfl

theorem slice_copyFromSlice {sctBytes : Bytes} (start size : Nat)
    (inRange : start + size ≤ sctBytes.length) :
    (Fault.slice sctBytes start (start + size) >>= Fault.copyFromSlice size :
        Except (Fault SctParseError) (Vector UInt8 size)) =
      .ok (Vector.ofFn fun i => sctBytes.getD (start + i) 0) := by
  rw [Fault.slice_of_le (by omega) inRange, Fault.ok_bind, ← Slices.toList_ofFn_getD 0 inRange,
    Fault.copyFromSlice_toList]

theorem readSctEntry_eq (sctBytes : Bytes) :
    readSctEntry sctBytes = Fault.calm (parseSctEntry sctBytes) := by
  rw [readSctEntry, parseSctEntry]
  by_cases short : sctBytes.length < 43
  · rw [if_pos short, if_pos short, Fault.calm_error]
  rw [if_neg short, if_neg short, Fault.index_of_lt 0 (by omega), Fault.ok_bind]
  dsimp only
  by_cases unknown : sctBytes.getD 0 0 ≠ 0
  · rw [if_pos unknown, if_pos unknown, Fault.calm_error]
  have logId := slice_copyFromSlice 1 32 (show 1 + 32 ≤ sctBytes.length by omega)
  have timestamp_length : (sctBytes.extract 33 41).length = 8 := Slices.length_extract (by omega)
  rw [if_neg unknown, if_neg unknown, logId, Fault.ok_bind,
    Fault.slice_of_le (by decide) (by omega), Fault.ok_bind, if_neg (not_not.mpr timestamp_length),
    if_neg (by omega), u16At_of_le (by omega), Fault.ok_bind]
  generalize BigEndian.decode (sctBytes.extract 41 43) = extLen
  by_cases overlong : 43 + extLen > sctBytes.length
  · rw [if_pos overlong, if_pos overlong, Fault.calm_error]
  rw [if_neg overlong, if_neg overlong, Fault.slice_of_le (by omega) (by omega), Fault.ok_bind]
  by_cases unsigned : 43 + extLen + 4 > sctBytes.length
  · rw [if_pos unsigned, if_pos unsigned, Fault.calm_error]
  rw [if_neg unsigned, if_neg unsigned, Fault.index_of_lt 0 (by omega), Fault.ok_bind,
    Fault.index_of_lt 0 (by omega), Fault.ok_bind, u16At_of_le (by omega), Fault.ok_bind]
  generalize BigEndian.decode (sctBytes.extract (43 + extLen + 2) (43 + extLen + 2 + 2)) = sigLen
  by_cases truncated : 43 + extLen + 4 + sigLen > sctBytes.length
  · rw [if_pos truncated, if_pos truncated, Fault.calm_error]
  rw [if_neg truncated, if_neg truncated, Fault.slice_of_le (by omega) (by omega), Fault.ok_bind]
  rfl

/-- The position moves through the region of the entries, and what has been read is kept. -/
theorem readSctEntries_eq {bytes : Bytes} {stop : Nat} (inRange : stop ≤ bytes.length)
    (fuel pos : Nat) (out : List ParsedSct) :
    readSctEntries bytes stop fuel pos out =
      Fault.calm ((out ++ ·) <$> parseSctEntries fuel (bytes.extract pos stop)) := by
  induction fuel generalizing pos out with
  | zero =>
      rw [readSctEntries, parseSctEntries]
      exact congrArg Except.ok (List.append_nil out).symm
  | succ fuel induction =>
      rw [readSctEntries, parseSctEntries]
      have region_length : (bytes.extract pos stop).length = stop - pos :=
        Slices.length_extract inRange
      by_cases more : pos + 2 ≤ stop
      · rw [if_pos more, if_neg (by omega), u16At_of_le (by omega), Fault.ok_bind]
        dsimp only
        rw [Slices.take_extract more, Slices.drop_extract]
        generalize BigEndian.decode (bytes.extract pos (pos + 2)) = sctLen
        have rest_length : (bytes.extract (pos + 2) stop).length = stop - (pos + 2) :=
          Slices.length_extract inRange
        by_cases overflow : pos + 2 + sctLen > stop
        · rw [if_pos overflow, if_pos (by omega)]
          rfl
        · rw [if_neg overflow, if_neg (by omega), Fault.slice_of_le (by omega) (by omega),
            Fault.ok_bind, Slices.take_extract (by omega), Slices.drop_extract, readSctEntry_eq]
          cases parseSctEntry (bytes.extract (pos + 2) (pos + 2 + sctLen)) with
          | error e => rfl
          | ok sct =>
              rw [Fault.calm_ok, Fault.ok_bind, induction]
              cases parseSctEntries fuel (bytes.extract (pos + 2 + sctLen) stop) with
              | error e => rfl
              | ok later => exact congrArg Except.ok (List.append_cons out sct later).symm
      · rw [if_neg more, if_pos (by omega)]
        exact congrArg Except.ok (List.append_nil out).symm

theorem readSctList_eq (bytes : Bytes) : readSctList bytes = Fault.calm (parseSctList bytes) := by
  rw [readSctList, parseSctList]
  by_cases short : bytes.length < 2
  · rw [if_pos short, if_pos short, Fault.calm_ok]
  rw [if_neg short, if_neg short, u16At_of_le (by omega), Fault.ok_bind]
  have field : bytes.extract 0 (0 + 2) = bytes.take 2 := rfl
  rw [field]
  dsimp only
  by_cases overflow : 2 + BigEndian.decode (bytes.take 2) > bytes.length
  · rw [if_pos overflow, if_pos overflow, Fault.calm_error]
  · rw [if_neg overflow, if_neg overflow, readSctEntries_eq (by omega)]
    cases parseSctEntries _ _ <;> rfl

theorem readContent_eq (contentLen : Nat) (rest : Bytes) :
    readContent contentLen rest =
      .ok (if rest.length < contentLen then none else some (rest.take contentLen)) := by
  rw [readContent]
  by_cases short : rest.length < contentLen
  · rw [if_pos short, if_pos short]
  · rw [if_neg short, if_neg short, Fault.slice_of_le (by omega) (by omega)]
    rfl

/-- Shifting a byte in is appending a digit. -/
theorem foldl_shiftLeft_or_eq_decode (bytes : Bytes) :
    bytes.foldl (fun (len : Nat) (b : UInt8) => (len <<< 8) ||| b.toNat) 0 =
      BigEndian.decode bytes := by
  have shifted : (fun (len : Nat) (b : UInt8) => (len <<< 8) ||| b.toNat) =
      fun (len : Nat) (b : UInt8) => len * 256 + b.toNat := by
    funext len b
    rw [← Nat.shiftLeft_add_eq_or_of_lt b.toNat_lt, Nat.shiftLeft_eq]
  rw [shifted, BigEndian.decode]

theorem readSctOctetString_eq (bytes : Bytes) :
    readSctOctetString bytes = .ok (stripSctOctetString bytes) := by
  match bytes with
  | [] | [_] => rfl
  | tag :: lenByte :: rest =>
      rw [readSctOctetString, stripSctOctetString]
      by_cases tagged : tag ≠ 0x04
      · rw [if_pos tagged, if_pos tagged]
      rw [if_neg tagged, if_neg tagged]
      dsimp only
      by_cases low : lenByte < 0x80
      · rw [if_pos low, if_pos low, readContent_eq]
      rw [if_neg low, if_neg low]
      generalize (lenByte &&& 0x7f).toNat = numBytes
      by_cases malformed : numBytes = 0 ∨ numBytes > 2 ∨ rest.length < numBytes
      · rw [if_pos malformed, if_pos malformed]
      · rw [if_neg malformed, if_neg malformed, Fault.slice_of_le (by omega) (by omega),
          Fault.ok_bind, Fault.slice_of_le (by omega) (by omega), Fault.ok_bind, readContent_eq,
          foldl_shiftLeft_or_eq_decode]
        have lenBytes : rest.extract 0 numBytes = rest.take numBytes := rfl
        have following : rest.extract numBytes rest.length = rest.drop numBytes :=
          List.drop_eq_extract.symm
        rw [lenBytes, following]

end OxiTls
