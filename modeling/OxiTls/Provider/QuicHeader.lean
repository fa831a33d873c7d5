import OxiTls.Library.BigEndian
import OxiTls.Library.ByteMask
import OxiTls.Library.Panics
import OxiTls.Library.Slices
import OxiTls.Rustls

/-!
# QUIC header protection

`HeaderProtectionKey` of `quic.rs`: a mask is derived from a sample of the ciphertext and combined
with the first byte and the packet number.  The block ciphers and the stream cipher are parameters.
-/

namespace OxiTls

/-- `SAMPLE_LEN`. -/
def sampleLen : Nat := 16

/-- `MAX_PN_LEN`. -/
def maxPnLen : Nat := 4

/-- `MASK_LEN`. -/
def maskLen : Nat := 5

/-! ## The crates -/

/-- The `chacha20` crate.  Seeking to the offset of a block puts a stream at its start.  From there
it gives out the blocks before the last one, and it panics when it is asked for more. -/
structure ChaCha20Crate where
  Stream : Type
  /-- The keystream of a key and a nonce, by byte position. -/
  keystream : Vector UInt8 32 → Vector UInt8 12 → (position : Nat) → UInt8
  new : Vector UInt8 32 → Vector UInt8 12 → Stream
  trySeek : Stream → (offset : UInt64) → Option Stream
  /-- `apply_keystream`; `none` is a panic. -/
  applyKeystream : Stream → {size : Nat} → Vector UInt8 size → Option (Vector UInt8 size)
  AtBlock : Stream → Vector UInt8 32 → Vector UInt8 12 → (number : Nat) → Prop
  trySeek_block : ∀ key nonce number, number < 2 ^ 32 →
    ∃ stream, trySeek (new key nonce) (UInt64.ofNat (number * 64)) = some stream ∧
      AtBlock stream key nonce number
  apply_remaining : ∀ {stream key nonce number size}, AtBlock stream key nonce number →
    size ≤ (2 ^ 32 - 1 - number) * 64 → ∀ data : Vector UInt8 size,
      applyKeystream stream data =
        some (Vector.ofFn fun i => data[i] ^^^ keystream key nonce (number * 64 + i))
  apply_exhausted : ∀ {stream key nonce number size}, AtBlock stream key nonce number →
    (2 ^ 32 - 1 - number) * 64 < size → ∀ data : Vector UInt8 size,
      applyKeystream stream data = none

/-- The crates header protection calls. -/
structure HeaderCrates where
  /-- `Aes128::encrypt_block`. -/
  aes128 : (key block : Vector UInt8 16) → Vector UInt8 16
  /-- `Aes256::encrypt_block`. -/
  aes256 : (key : Vector UInt8 32) → (block : Vector UInt8 16) → Vector UInt8 16
  chacha20 : ChaCha20Crate

/-! ## Deriving the mask -/

inductive HeaderCipher
  | aes128
  | aes256
  | chaCha20
  deriving DecidableEq, Repr

/-- `Err(Error::General(..))`. -/
def generalError {α : Type} (message : String) : Except (Fault RustlsError) α :=
  .error (.failed (.general message))

/-- `try_into` an array, with the error for another length. -/
def intoArray (size : Nat) (bytes : Bytes) (message : String) :
    Except (Fault RustlsError) (Vector UInt8 size) :=
  match FixedLength.ofList? size bytes with
  | some array => .ok array
  | none => generalError message

/-- The mask of an AES variant: the start of the encrypted sample. -/
def aesMask (keyLen : Nat) (encryptBlock : Vector UInt8 keyLen → Vector UInt8 16 → Vector UInt8 16)
    (keyMessage : String) (key sample : Bytes) : Except (Fault RustlsError) (Vector UInt8 5) :=
  if key.length < keyLen then generalError keyMessage
  else do
    let key ← Fault.slice key 0 keyLen >>= Fault.copyFromSlice keyLen
    let block ← Fault.copyFromSlice 16 sample
    let mask ← Fault.slice (encryptBlock key block).toList 0 maskLen
    intoArray 5 mask "invariant: AES block >= 5 bytes"

/-- `u32::from_le_bytes`. -/
def u32FromLeBytes (bytes : Bytes) : Nat := BigEndian.decode bytes.reverse

/-- The mask of ChaCha20: the start of the keystream block that the sample numbers. -/
def chaCha20Mask (chacha20 : ChaCha20Crate) (key sample : Bytes) :
    Except (Fault RustlsError) (Vector UInt8 5) := do
  let counterBytes ← Fault.slice sample 0 4
  let counterBytes ← intoArray 4 counterBytes "invariant: sample >= 4 bytes"
  let counter := u32FromLeBytes counterBytes.toList
  let nonceBytes ← Fault.slice sample 4 16
  let nonce ← intoArray 12 nonceBytes "invariant: sample[4..16] is 12 bytes"
  if key.length < 32 then generalError "QUIC header protection: ChaCha20 key must be 32 bytes"
  else
    let keyBytes ← Fault.slice key 0 32
    let key ← intoArray 32 keyBytes "invariant: key >= 32 bytes"
    if 2 ^ 64 ≤ counter * 64 then generalError "QUIC header protection: counter overflow"
    else
      match chacha20.trySeek (chacha20.new key nonce) (UInt64.ofNat (counter * 64)) with
      | none => generalError "QUIC header protection: seek failed"
      | some stream => Fault.expect (chacha20.applyKeystream stream (Vector.replicate 5 0))

structure HeaderProtectionKey where
  key : Bytes
  cipher : HeaderCipher
  deriving DecidableEq, Repr

namespace HeaderProtectionKey

variable (crates : HeaderCrates) (protection : HeaderProtectionKey)

/-- `derive_mask`. -/
def deriveMask (sample : Bytes) : Except (Fault RustlsError) (Vector UInt8 5) :=
  if sample.length ≠ sampleLen then generalError "QUIC header protection: sample must be 16 bytes"
  else
    match protection.cipher with
    | .aes128 => aesMask 16 crates.aes128 "QUIC header protection: AES-128 key must be 16 bytes"
        protection.key sample
    | .aes256 => aesMask 32 crates.aes256 "QUIC header protection: AES-256 key must be 32 bytes"
        protection.key sample
    | .chaCha20 => chaCha20Mask crates.chacha20 protection.key sample

end HeaderProtectionKey

/-! ## Applying the mask -/

/-- The two parts of a packet that header protection changes. -/
structure HeaderBytes where
  first : UInt8
  packetNumber : Bytes
  deriving DecidableEq, Repr

/-- The bits of the first byte that are masked: four for a long header, five for a short one. -/
def maskedBits (first : UInt8) : UInt8 := if first &&& 0x80 = 0x80 then 0x0f else 0x1f

/-- The length of the packet number, as an unprotected first byte tells it. -/
def pnLen (firstPlain : UInt8) : Nat := (firstPlain &&& 0x03).toNat + 1

/-- The first byte with its masked bits changed. -/
def maskFirst (mask : Vector UInt8 5) (first : UInt8) : UInt8 :=
  first ^^^ (mask[0] &&& maskedBits first)

/-- `xor_in_place`: the result and what the two parts have become. -/
def xorInPlace (mask : Vector UInt8 5) (header : HeaderBytes) (masked : Bool) :
    Except (Fault RustlsError) Unit × HeaderBytes :=
  if header.packetNumber.length > maxPnLen then
    (generalError "QUIC header protection: packet number too long", header)
  else
    let firstPlain := if masked then maskFirst mask header.first else header.first
    (.ok (),
      { first := maskFirst mask header.first
        packetNumber := ByteMask.xorFirst (pnLen firstPlain) mask.toList.tail header.packetNumber })

namespace HeaderProtectionKey

variable (crates : HeaderCrates) (protection : HeaderProtectionKey) (sample : Bytes)
  (header : HeaderBytes)

/-- `encrypt_in_place` and `decrypt_in_place`. -/
def applyMask (masked : Bool) : Except (Fault RustlsError) Unit × HeaderBytes :=
  match protection.deriveMask crates sample with
  | .ok mask => xorInPlace mask header masked
  | .error fault => (.error fault, header)

/-- `encrypt_in_place`. -/
def encryptInPlace : Except (Fault RustlsError) Unit × HeaderBytes :=
  protection.applyMask crates sample header false

/-- `decrypt_in_place`. -/
def decryptInPlace : Except (Fault RustlsError) Unit × HeaderBytes :=
  protection.applyMask crates sample header true

end HeaderProtectionKey

/-! ## Removing the mask -/

theorem maskFirst_and {first kept : UInt8} (mask : Vector UInt8 5)
    (disjoint : maskedBits first &&& kept = 0) : maskFirst mask first &&& kept = first &&& kept :=
  ByteMask.xor_and_of_and_eq_zero disjoint

/-- Masking does not change the form of the header. -/
theorem maskedBits_maskFirst (mask : Vector UInt8 5) (first : UInt8) :
    maskedBits (maskFirst mask first) = maskedBits first := by
  have disjoint : maskedBits first &&& 0x80 = 0 := by
    rw [maskedBits]
    split_ifs <;> rfl
  have form := maskFirst_and mask disjoint
  rw [maskedBits, form, maskedBits]

@[simp]
theorem maskFirst_maskFirst (mask : Vector UInt8 5) (first : UInt8) :
    maskFirst mask (maskFirst mask first) = first := by
  rw [maskFirst, maskedBits_maskFirst, maskFirst, ByteMask.xor_xor_cancel]

/-- A step leaves alone the other bits of the first byte and the bytes behind the packet number. -/
structure Spares (before after : HeaderBytes) (firstPlain : UInt8) : Prop where
  longHeader : before.first &&& 0x80 = 0x80 → after.first &&& ~~~ 0x0f = before.first &&& ~~~ 0x0f
  shortHeader : before.first &&& 0x80 ≠ 0x80 → after.first &&& ~~~ 0x1f = before.first &&& ~~~ 0x1f
  packetNumber : after.packetNumber.drop ((firstPlain &&& 0x03).toNat + 1) =
    before.packetNumber.drop ((firstPlain &&& 0x03).toNat + 1)
  length : after.packetNumber.length = before.packetNumber.length

theorem xorInPlace_of_le {header : HeaderBytes} (mask : Vector UInt8 5) (masked : Bool)
    (short : header.packetNumber.length ≤ 4) :
    xorInPlace mask header masked =
      (.ok (), ⟨maskFirst mask header.first, ByteMask.xorFirst
        (pnLen (if masked then maskFirst mask header.first else header.first)) mask.toList.tail
          header.packetNumber⟩) :=
  if_neg (Nat.not_lt.mpr short)

theorem spares_xorInPlace {header : HeaderBytes} (mask : Vector UInt8 5) (masked : Bool)
    (short : header.packetNumber.length ≤ 4) :
    Spares header (xorInPlace mask header masked).2
      (if masked then maskFirst mask header.first else header.first) := by
  have spared := maskFirst_and mask (UInt8.and_not_self (a := maskedBits header.first))
  rw [xorInPlace_of_le mask masked short]
  refine ⟨fun long => ?_, fun brief => ?_, ?_, ?_⟩
  · rwa [maskedBits, if_pos long] at spared
  · rwa [maskedBits, if_neg brief] at spared
  · exact ByteMask.drop_xorFirst _ _ _
  · exact ByteMask.length_xorFirst _ _ _

/-- A failed step changes nothing. -/
theorem HeaderProtectionKey.applyMask_eq_error {crates : HeaderCrates}
    {protection : HeaderProtectionKey} {sample : Bytes} {header : HeaderBytes} {masked : Bool}
    {fault : Fault RustlsError}
    (failed : (protection.applyMask crates sample header masked).1 = .error fault) :
    (protection.applyMask crates sample header masked).2 = header := by
  unfold applyMask at *
  split at failed
  · unfold xorInPlace at *
    split at failed
    · rename_i derived long
      rw [if_pos long]
    · contradiction
  · rfl

/-- The receiver's slice may go on behind the sender's: the sender's bytes come back, and the others
are left alone when the sender's slice held the whole packet number. -/
theorem xorInPlace_longer {header : HeaderBytes} (mask : Vector UInt8 5) {extra : Bytes}
    (short : header.packetNumber.length + extra.length ≤ 4) :
    ∃ rest, xorInPlace mask ⟨maskFirst mask header.first,
          ByteMask.xorFirst (pnLen header.first) mask.toList.tail header.packetNumber ++ extra⟩
        true = (.ok (), ⟨header.first, header.packetNumber ++ rest⟩) ∧
      rest.length = extra.length ∧
      (pnLen header.first ≤ header.packetNumber.length → rest = extra) := by
  refine ⟨ByteMask.xorFirst (pnLen header.first - header.packetNumber.length)
    (mask.toList.tail.drop header.packetNumber.length) extra, ?_, ?_, ?_⟩
  · rw [xorInPlace_of_le]
    · simp only [if_true, maskFirst_maskFirst]
      rw [ByteMask.xorFirst_append, ByteMask.xorFirst_xorFirst, ByteMask.length_xorFirst]
    · rw [List.length_append, ByteMask.length_xorFirst]
      exact short
  · exact ByteMask.length_xorFirst _ _ _
  · intro whole
    rw [Nat.sub_eq_zero_of_le whole, ByteMask.xorFirst]

/-- Removing the mask undoes applying it. -/
theorem xorInPlace_xorInPlace {header : HeaderBytes} (mask : Vector UInt8 5)
    (short : header.packetNumber.length ≤ 4) :
    xorInPlace mask (xorInPlace mask header false).2 true = (.ok (), header) := by
  have unextended : header.packetNumber.length + ([] : Bytes).length ≤ 4 := short
  obtain ⟨rest, restored, nothing, _⟩ := xorInPlace_longer mask unextended
  rw [List.length_eq_zero_iff.mp nothing, List.append_nil, List.append_nil] at restored
  rw [xorInPlace_of_le mask false short]
  exact restored

/-- With one key and one sample, decrypting a header gives back what was encrypted. -/
theorem HeaderProtectionKey.decryptInPlace_encryptInPlace {crates : HeaderCrates}
    {protection : HeaderProtectionKey} {sample : Bytes} {header shielded : HeaderBytes}
    (protects : protection.encryptInPlace crates sample header = (.ok (), shielded)) :
    protection.decryptInPlace crates sample shielded = (.ok (), header) := by
  rw [encryptInPlace, applyMask] at protects
  rw [decryptInPlace, applyMask]
  cases derived : protection.deriveMask crates sample with
  | error fault =>
      rw [derived] at protects
      exact absurd (congrArg Prod.fst protects) (by simp)
  | ok mask =>
      rw [derived] at protects
      change xorInPlace mask header false = (.ok (), shielded) at protects
      have short : header.packetNumber.length ≤ 4 := by
        by_contra long
        have refused : xorInPlace mask header false =
            (generalError "QUIC header protection: packet number too long", header) :=
          if_pos (Nat.not_le.mp long)
        exact absurd (congrArg Prod.fst (refused.symm.trans protects)) (by simp [generalError])
      have restored := xorInPlace_xorInPlace mask short
      rw [protects] at restored
      exact restored

/-- The receiver undoes what the sender did, also when its slice is longer, and neither touches
anything else.  A call that fails changes nothing. -/
theorem headerProtection_inverts (mask : Vector UInt8 5) (header : HeaderBytes) :
    (header.packetNumber.length ≤ 4 →
      ∃ shielded, xorInPlace mask header false = (.ok (), shielded) ∧
        shielded.first = header.first ^^^
          (mask[0] &&& if header.first &&& 0x80 = 0x80 then 0x0f else 0x1f) ∧
        Spares header shielded header.first ∧
        xorInPlace mask shielded true = (.ok (), header) ∧
        pnLen header.first = (header.first &&& 0x03).toNat + 1 ∧
        pnLen (maskFirst mask shielded.first) = (header.first &&& 0x03).toNat + 1 ∧
        ∀ extra : Bytes, header.packetNumber.length + extra.length ≤ 4 →
          ∃ rest, xorInPlace mask ⟨shielded.first, shielded.packetNumber ++ extra⟩ true =
              (.ok (), ⟨header.first, header.packetNumber ++ rest⟩) ∧
            rest.length = extra.length ∧
            ((header.first &&& 0x03).toNat + 1 ≤ header.packetNumber.length → rest = extra)) ∧
      (∀ received : HeaderBytes, received.packetNumber.length ≤ 4 →
        ∃ plain, xorInPlace mask received true = (.ok (), plain) ∧
          plain.first = received.first ^^^
            (mask[0] &&& if received.first &&& 0x80 = 0x80 then 0x0f else 0x1f) ∧
          Spares received plain plain.first) ∧
      ∀ (crates : HeaderCrates) (protection : HeaderProtectionKey) (sample : Bytes),
        (∀ shielded, protection.encryptInPlace crates sample header = (.ok (), shielded) →
          protection.decryptInPlace crates sample shielded = (.ok (), header)) ∧
        ∀ fault,
          ((protection.encryptInPlace crates sample header).1 = .error fault →
            (protection.encryptInPlace crates sample header).2 = header) ∧
          ((protection.decryptInPlace crates sample header).1 = .error fault →
            (protection.decryptInPlace crates sample header).2 = header) := by
  refine ⟨fun short => ?_, fun received short => ?_, fun crates protection sample => ⟨?_, ?_⟩⟩
  · have protects := xorInPlace_of_le mask false short
    have spares := spares_xorInPlace mask false short
    rw [protects] at spares
    have restored := xorInPlace_xorInPlace mask short
    rw [protects] at restored
    refine ⟨_, protects, rfl, spares, restored, rfl, ?_, fun extra roomy =>
      xorInPlace_longer mask roomy⟩
    rw [maskFirst_maskFirst, pnLen]
  · have unmasked := xorInPlace_of_le mask true short
    have spares := spares_xorInPlace mask true short
    rw [unmasked] at spares
    exact ⟨_, unmasked, rfl, spares⟩
  · intro shielded protects
    exact HeaderProtectionKey.decryptInPlace_encryptInPlace protects
  · intro fault
    exact ⟨HeaderProtectionKey.applyMask_eq_error, HeaderProtectionKey.applyMask_eq_error⟩

/-! ## Total derivation of the mask -/

/-- A slice that has the length of the array becomes the array. -/
theorem intoArray_toList {size : Nat} (array : Vector UInt8 size) (message : String) :
    intoArray size array.toList message = .ok array := by
  rw [intoArray, FixedLength.ofList?_toList]

/-- The block number of a sample: its first four bytes, least significant first. -/
def blockNumber (sample : Vector UInt8 16) : Nat := u32FromLeBytes (sample.toList.take 4)

/-- The nonce of a sample: its other twelve bytes. -/
def sampleNonce (sample : Vector UInt8 16) : Vector UInt8 12 := sample.drop 4

theorem blockNumber_lt (sample : Vector UInt8 16) : blockNumber sample < 2 ^ 32 := by
  have bound := BigEndian.decode_lt (sample.toList.take 4).reverse
  rwa [List.length_reverse, List.length_take, Vector.length_toList] at bound

/-- The mask is the start of the keystream at the numbered block, as long as the crate gives it
out. -/
theorem exists_chaCha20Mask_eq (chacha20 : ChaCha20Crate) (key : Vector UInt8 32)
    (sample : Vector UInt8 16) :
    ∃ stream, chacha20.AtBlock stream key (sampleNonce sample) (blockNumber sample) ∧
      chaCha20Mask chacha20 key.toList sample.toList =
        Fault.expect (chacha20.applyKeystream stream (Vector.replicate 5 0)) := by
  obtain ⟨stream, sought, atBlock⟩ := chacha20.trySeek_block key (sampleNonce sample)
    (blockNumber sample) (blockNumber_lt sample)
  refine ⟨stream, atBlock, ?_⟩
  let counterBytes : Vector UInt8 4 := sample.take 4
  have counter_slice : sample.toList.extract 0 4 = counterBytes.toList :=
    Vector.toList_take.symm
  have nonce_slice : sample.toList.extract 4 16 = (sampleNonce sample).toList := by
    rw [sampleNonce, Vector.toList_drop, List.extract_eq_take_drop]
    exact List.take_of_length_le (by simp)
  have key_slice : key.toList.extract 0 32 = key.toList :=
    List.take_of_length_le (by simp)
  have counter_eq : u32FromLeBytes counterBytes.toList = blockNumber sample :=
    congrArg u32FromLeBytes Vector.toList_take
  have bound := blockNumber_lt sample
  rw [chaCha20Mask, Fault.slice_of_le (by decide) (by simp), Fault.ok_bind, counter_slice,
    intoArray_toList, Fault.ok_bind]
  dsimp only
  rw [Fault.slice_of_le (by decide) (by simp), Fault.ok_bind, nonce_slice, intoArray_toList,
    Fault.ok_bind, if_neg (by simp), Fault.slice_of_le (by decide) (by simp), Fault.ok_bind,
    key_slice, intoArray_toList, Fault.ok_bind, counter_eq, if_neg (by omega), sought]

/-- Every block but the last is given out. -/
theorem chaCha20Mask_eq_ok (chacha20 : ChaCha20Crate) (key : Vector UInt8 32)
    {sample : Vector UInt8 16} (earlier : blockNumber sample ≠ 2 ^ 32 - 1) :
    chaCha20Mask chacha20 key.toList sample.toList =
      .ok (Vector.ofFn fun i =>
        chacha20.keystream key (sampleNonce sample) (blockNumber sample * 64 + i)) := by
  obtain ⟨stream, atBlock, mask_eq⟩ := exists_chaCha20Mask_eq chacha20 key sample
  have bound := blockNumber_lt sample
  rw [mask_eq, chacha20.apply_remaining atBlock (by omega), Fault.expect]
  congr
  funext i
  rw [Fin.getElem_fin, Vector.getElem_replicate, UInt8.zero_xor]

/-- The last block is refused with a panic. -/
theorem chaCha20Mask_eq_panic (chacha20 : ChaCha20Crate) (key : Vector UInt8 32)
    {sample : Vector UInt8 16} (last : blockNumber sample = 2 ^ 32 - 1) :
    chaCha20Mask chacha20 key.toList sample.toList = .error .panic := by
  obtain ⟨stream, atBlock, mask_eq⟩ := exists_chaCha20Mask_eq chacha20 key sample
  rw [mask_eq, chacha20.apply_exhausted atBlock (by omega), Fault.expect]

theorem exists_aesMask_eq_ok {keyLen : Nat}
    (encryptBlock : Vector UInt8 keyLen → Vector UInt8 16 → Vector UInt8 16) (message : String)
    {key : Bytes} (long : keyLen ≤ key.length) (sample : Vector UInt8 16) :
    ∃ mask, aesMask keyLen encryptBlock message key sample.toList = .ok mask := by
  obtain ⟨used, used_eq⟩ : ∃ used : Vector UInt8 keyLen, used.toList = key.extract 0 keyLen :=
    FixedLength.exists_toList (Slices.length_extract long)
  have complete : 5 ≤ (encryptBlock used sample).toList.length := by simp
  obtain ⟨mask, mask_eq⟩ :
      ∃ mask : Vector UInt8 5, mask.toList = (encryptBlock used sample).toList.extract 0 5 :=
    FixedLength.exists_toList (Slices.length_extract complete)
  refine ⟨mask, ?_⟩
  rw [aesMask, if_neg (by omega), Fault.slice_of_le (Nat.zero_le _) long, Fault.ok_bind, ← used_eq,
    Fault.copyFromSlice_toList, Fault.ok_bind, Fault.copyFromSlice_toList, Fault.ok_bind, maskLen,
    Fault.slice_of_le (Nat.zero_le _) complete, Fault.ok_bind, ← mask_eq, intoArray_toList]

/-- The mask of a sample is derived, and for ChaCha20 it is the start of the numbered keystream
block. -/
def DerivesMask (crates : HeaderCrates) (cipher : HeaderCipher) (key : Vector UInt8 32)
    (sample : Vector UInt8 16) : Prop :=
  ∃ mask, HeaderProtectionKey.deriveMask crates ⟨key.toList, cipher⟩ sample.toList = .ok mask ∧
    (cipher = .chaCha20 → mask = Vector.ofFn fun i =>
      crates.chacha20.keystream key (sampleNonce sample) (blockNumber sample * 64 + i))

/-- Only the last block of ChaCha20 has no mask. -/
theorem derivesMask_iff (crates : HeaderCrates) (cipher : HeaderCipher) (key : Vector UInt8 32)
    (sample : Vector UInt8 16) :
    DerivesMask crates cipher key sample ↔
      ¬ (cipher = .chaCha20 ∧ blockNumber sample = 2 ^ 32 - 1) := by
  have whole : ¬ sample.toList.length ≠ sampleLen := not_not.mpr sample.length_toList
  have long : 32 ≤ key.toList.length := Nat.le_of_eq key.length_toList.symm
  rw [DerivesMask, HeaderProtectionKey.deriveMask, if_neg whole]
  cases cipher with
  | aes128 =>
      obtain ⟨mask, derived⟩ := exists_aesMask_eq_ok crates.aes128
        "QUIC header protection: AES-128 key must be 16 bytes"
        (show 16 ≤ key.toList.length by omega) sample
      exact ⟨fun _ => by simp, fun _ => ⟨mask, derived, by simp⟩⟩
  | aes256 =>
      obtain ⟨mask, derived⟩ := exists_aesMask_eq_ok crates.aes256
        "QUIC header protection: AES-256 key must be 32 bytes" long sample
      exact ⟨fun _ => by simp, fun _ => ⟨mask, derived, by simp⟩⟩
  | chaCha20 =>
      constructor
      · rintro ⟨mask, derived, _⟩ ⟨_, last⟩
        rw [chaCha20Mask_eq_panic crates.chacha20 key last] at derived
        contradiction
      · intro earlier
        have derived := chaCha20Mask_eq_ok crates.chacha20 key fun last => earlier ⟨rfl, last⟩
        exact ⟨_, derived, fun _ => rfl⟩

/-- A stream cipher with a constant keystream that counts its blocks. -/
def countingChaCha20 : ChaCha20Crate where
  Stream := Nat
  keystream _ _ _ := 0
  new _ _ := 0
  trySeek _ offset := some (offset.toNat / 64)
  applyKeystream number size data := if size ≤ (2 ^ 32 - 1 - number) * 64 then some data else none
  AtBlock stream _ _ number := stream = number
  trySeek_block _ _ number inRange := by
    refine ⟨_, rfl, ?_⟩
    rw [UInt64.toNat_ofNat_of_lt' (by simp only [UInt64.size]; omega)]
    omega
  apply_remaining := by
    rintro stream key nonce number size rfl remaining data
    rw [if_pos remaining]
    congr
    apply Vector.ext
    intro i inRange
    simp
  apply_exhausted := by
    rintro stream key nonce number size rfl exhausted data
    rw [if_neg (by omega)]

/-- The sample of sixteen bytes 0xff is in the last block, and deriving its mask panics. -/
theorem deriveMask_panics :
    HeaderProtectionKey.deriveMask ⟨fun _ block => block, fun _ block => block, countingChaCha20⟩
        ⟨(Vector.replicate 32 0).toList, .chaCha20⟩ (Vector.replicate 16 0xff).toList =
          .error .panic ∧
      ¬ DerivesMask ⟨fun _ block => block, fun _ block => block, countingChaCha20⟩ .chaCha20
        (Vector.replicate 32 0) (Vector.replicate 16 0xff) := by
  have last : blockNumber (Vector.replicate 16 0xff) = 2 ^ 32 - 1 := by decide
  have panics := chaCha20Mask_eq_panic countingChaCha20 (Vector.replicate 32 0) last
  refine ⟨panics, ?_⟩
  rintro ⟨mask, derived, _⟩
  exact absurd (derived.symm.trans panics) (by simp)

end OxiTls
