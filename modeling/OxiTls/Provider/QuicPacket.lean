import OxiTls.Provider.QuicHeader
import OxiTls.Provider.Records

/-!
# QUIC packet protection

`PacketKey` and `KeyBuilder` of `quic.rs`.  Whatever suite a builder is for, its packet keys use
ChaCha20-Poly1305, and the decrypter copies the shortened plaintext over the longer packet.
-/

namespace OxiTls

/-! ## Packet keys -/

/-- `PacketKey` over a cipher; the cipher is identified with its key. -/
structure PacketKey (cipher : DetachedAead) where
  iv : Iv
  crypto : Bytes
  fits : crypto.length = cipher.keySize

namespace PacketKey

variable {cipher : DetachedAead}

/-- `PacketKey::new`. -/
def new (cipher : DetachedAead) (key : Bytes) (iv : Iv) :
    Except (Fault RecordError) (PacketKey cipher) :=
  if fits : key.length = cipher.keySize then .ok ⟨iv, key, fits⟩ else .error .panic

variable (packetKey : PacketKey cipher) (packetNumber : UInt64) (aad payload : Bytes)

/-- `tag_len`. -/
def tagLen (_ : PacketKey cipher) : Nat := cipher.tagSize

/-- `encrypt_in_place`: the tag, and what the payload has become. -/
def encryptInPlace : Except (Fault RecordError) Bytes × Bytes :=
  let nonce := nonceNew packetKey.iv packetNumber
  match cipher.encrypt packetKey.crypto nonce aad payload with
  | some (ciphertext, tag) => (.ok tag, ciphertext)
  | none => (.error (.failed .encryptError), payload)

/-- `decrypt_in_place`: the plaintext, and what the payload has become. -/
def decryptInPlace : Except (Fault RecordError) Bytes × Bytes :=
  let payloadLen := payload.length
  let nonce := nonceNew packetKey.iv packetNumber
  match cipher.decryptInPlace packetKey.crypto nonce aad payload with
  | none => (.error (.failed .decryptError), payload)
  | some payload_ =>
      -- `copy_from_slice` wants the two lengths to agree
      if payload.length = payload_.length then
        (Fault.slice payload_ 0 (payloadLen - packetKey.tagLen), payload_)
      else (.error .panic, payload)

end PacketKey

/-! ## Key builders -/

/-- `KeyBuilder`. -/
structure KeyBuilder where
  cipher : HeaderCipher
  deriving DecidableEq, Repr

namespace KeyBuilder

/-- `KeyBuilder::new_chacha20`. -/
def newChacha20 : KeyBuilder := ⟨.chaCha20⟩

/-- `KeyBuilder::new_aes128`. -/
def newAes128 : KeyBuilder := ⟨.aes128⟩

/-- `KeyBuilder::new_aes256`. -/
def newAes256 : KeyBuilder := ⟨.aes256⟩

variable (ciphers : RustCrypto) (builder : KeyBuilder)

/-- `packet_key`. -/
def packetKey (_ : KeyBuilder) (key : Bytes) (iv : Iv) :
    Except (Fault RecordError) (PacketKey ciphers.chacha20Poly1305) :=
  PacketKey.new ciphers.chacha20Poly1305 key iv

/-- `header_protection_key`. -/
def headerProtectionKey (key : Bytes) : HeaderProtectionKey := ⟨key, builder.cipher⟩

/-- `aead_key_len`. -/
def aeadKeyLen (_ : KeyBuilder) : Nat := ciphers.chacha20Poly1305.keySize

end KeyBuilder

/-! ## The round trip -/

namespace PacketKey

variable {cipher : DetachedAead} (packetKey : PacketKey cipher) (packetNumber : UInt64)
  (aad : Bytes)

/-- A protected payload followed by its tag. -/
def IsProtection (payload packet : Bytes) : Prop :=
  ∃ ciphertext tag, packetKey.encryptInPlace packetNumber aad payload = (.ok tag, ciphertext) ∧
    packet = ciphertext ++ tag

/-- The payload is protected, and unprotecting the packet gives it back. -/
def RoundTrips (payload : Bytes) : Prop :=
  ∃ packet, packetKey.IsProtection packetNumber aad payload packet ∧
    (packetKey.decryptInPlace packetNumber aad packet).1 = .ok payload

variable {packetKey packetNumber aad} {payload packet : Bytes}

theorem encryptInPlace_eq_ok_iff {ciphertext tag : Bytes} :
    packetKey.encryptInPlace packetNumber aad payload = (.ok tag, ciphertext) ↔
      cipher.encrypt packetKey.crypto (nonceNew packetKey.iv packetNumber) aad payload =
        some (ciphertext, tag) := by
  simp only [encryptInPlace]
  cases cipher.encrypt packetKey.crypto (nonceNew packetKey.iv packetNumber) aad payload with
  | none => simp
  | some sealed =>
      obtain ⟨ciphertext', tag'⟩ := sealed
      simp only [Prod.mk.injEq, Except.ok.injEq, Option.some.injEq]
      exact and_comm

theorem isProtection_iff :
    packetKey.IsProtection packetNumber aad payload packet ↔
      cipher.encryptInPlace packetKey.crypto (nonceNew packetKey.iv packetNumber) aad payload =
        some packet := by
  constructor
  · rintro ⟨ciphertext, tag, encrypted, rfl⟩
    rw [DetachedAead.encryptInPlace, encryptInPlace_eq_ok_iff.mp encrypted]
    rfl
  · intro encrypted
    obtain ⟨ciphertext, tag, detached, rfl⟩ := DetachedAead.encryptInPlace_eq_some encrypted
    exact ⟨ciphertext, tag, encryptInPlace_eq_ok_iff.mpr detached, rfl⟩

/-- Unprotecting a protected packet panics: the plaintext is shorter than the packet. -/
theorem decryptInPlace_eq_panic (tagged : 0 < cipher.tagSize)
    (protection : packetKey.IsProtection packetNumber aad payload packet) :
    packetKey.decryptInPlace packetNumber aad packet = (.error .panic, packet) := by
  have encrypted := isProtection_iff.mp protection
  have longer := DetachedAead.length_encryptInPlace encrypted
  simp only [decryptInPlace, DetachedAead.decryptInPlace_encryptInPlace encrypted]
  rw [if_neg (by omega)]

/-- Any other packet is refused and stays as it is. -/
theorem decryptInPlace_eq_decryptError (tidy : cipher.Tidy)
    (unprotected : ∀ payload, ¬ packetKey.IsProtection packetNumber aad payload packet) :
    packetKey.decryptInPlace packetNumber aad packet =
      (.error (.failed .decryptError), packet) := by
  simp only [decryptInPlace]
  cases decrypted : cipher.decryptInPlace packetKey.crypto (nonceNew packetKey.iv packetNumber)
      aad packet with
  | none => rfl
  | some payload =>
      have encrypted := DetachedAead.encryptInPlace_of_decryptInPlace tidy decrypted
      exact absurd (isProtection_iff.mpr encrypted) (unprotected payload)

variable (packetKey packetNumber aad)

/-- No payload survives the round trip.  Payloads are protected, but unprotecting a protected packet
panics; only the other packets are treated as they should be. -/
theorem never_roundTrips (documented : Documented cipher 32) (tidy : cipher.Tidy) :
    (∀ payload, ¬ packetKey.RoundTrips packetNumber aad payload) ∧
      (∀ payload, aad.length ≤ 2 ^ 36 → payload.length ≤ 2 ^ 36 →
        ∃ packet, packetKey.IsProtection packetNumber aad payload packet) ∧
      (∀ payload packet, packetKey.IsProtection packetNumber aad payload packet →
        packetKey.decryptInPlace packetNumber aad packet = (.error .panic, packet)) ∧
      ∀ packet, (∀ payload, ¬ packetKey.IsProtection packetNumber aad payload packet) →
        packetKey.decryptInPlace packetNumber aad packet =
          (.error (.failed .decryptError), packet) := by
  have tagged : 0 < cipher.tagSize := by
    rw [documented.tagSize_eq]
    decide
  refine ⟨?_, ?_, fun payload packet => decryptInPlace_eq_panic tagged,
    fun packet => decryptInPlace_eq_decryptError tidy⟩
  · rintro payload ⟨packet, protection, decrypted⟩
    rw [decryptInPlace_eq_panic tagged protection] at decrypted
    contradiction
  · intro payload aadFits payloadFits
    have nonceFits : (nonceNew packetKey.iv packetNumber).length = cipher.nonceSize := by
      rw [documented.nonceSize_eq]
      simp [nonceNew]
    obtain ⟨packet, encrypted⟩ := DetachedAead.exists_encryptInPlace packetKey.fits nonceFits
      (aadFits.trans documented.limit_ge) (payloadFits.trans documented.limit_ge)
    exact ⟨packet, isProtection_iff.mpr encrypted⟩

end PacketKey

theorem miniatureCipher_tidy (keySize : Nat) : (miniatureCipher keySize).Tidy := by
  intro key nonce aad message ciphertext tag decrypted
  simp only [miniatureCipher] at decrypted ⊢
  split_ifs at decrypted with genuine
  obtain rfl := Option.some.inj decrypted
  rw [genuine, List.map_map]
  refine congrArg some (Prod.ext ?_ rfl)
  refine (List.map_congr_left fun byte _ => ?_).trans (List.map_id ciphertext)
  exact ByteMask.xor_xor_cancel byte _

/-- A packet key of the miniature cipher. -/
def samplePacketKey : PacketKey (miniatureCipher 32) :=
  ⟨Vector.replicate 12 0, List.replicate 32 7, List.length_replicate⟩

/-- Three bytes are protected, and unprotecting them panics. -/
theorem samplePacketKey_panics :
    ¬ samplePacketKey.RoundTrips 5 [0x40] [1, 2, 3] ∧
      ∃ packet, samplePacketKey.IsProtection 5 [0x40] [1, 2, 3] packet ∧
        samplePacketKey.decryptInPlace 5 [0x40] packet = (.error .panic, packet) := by
  have protection : ∃ packet, samplePacketKey.IsProtection 5 [0x40] [1, 2, 3] packet :=
    ⟨_, _, _, rfl, rfl⟩
  constructor
  · rintro ⟨packet, protection, decrypted⟩
    rw [PacketKey.decryptInPlace_eq_panic (by decide) protection] at decrypted
    contradiction
  · obtain ⟨packet, protection⟩ := protection
    exact ⟨packet, protection, PacketKey.decryptInPlace_eq_panic (by decide) protection⟩

theorem samplePacketKey_never_roundTrips :
    ¬ samplePacketKey.RoundTrips 5 [0x40] [1, 2, 3] ∧
      samplePacketKey.decryptInPlace 5 [0x40] [9, 9] =
        (.error (.failed .decryptError), [9, 9]) := by
  obtain ⟨never, _, _, others⟩ := PacketKey.never_roundTrips samplePacketKey 5 [0x40]
    (miniatureCipher_documented 32) (miniatureCipher_tidy 32)
  refine ⟨never [1, 2, 3], others [9, 9] fun payload protection => ?_⟩
  have longer := DetachedAead.length_encryptInPlace (PacketKey.isProtection_iff.mp protection)
  change 2 = payload.length + 16 at longer
  omega

/-! ## The cipher of the suite -/

/-- The cipher RFC 9001 gives to a suite. -/
def RustCrypto.suiteAead (ciphers : RustCrypto) : HeaderCipher → DetachedAead
  | .aes128 => ciphers.aes128Gcm
  | .aes256 => ciphers.aes256Gcm
  | .chaCha20 => ciphers.chacha20Poly1305

namespace KeyBuilder

variable (ciphers : RustCrypto)

/-- The key length and the protection of a payload are those of the suite's own cipher, under the
exclusive or of the IV and the packet number, and the packet key is made without a panic. -/
def UsesSuiteAead (builder : KeyBuilder) (key : Bytes) (iv : Iv) (packetNumber : UInt64)
    (aad payload : Bytes) : Prop :=
  builder.aeadKeyLen ciphers = (ciphers.suiteAead builder.cipher).keySize ∧
    ∃ packetKey, builder.packetKey ciphers key iv = .ok packetKey ∧
      ∀ ciphertext tag, packetKey.encryptInPlace packetNumber aad payload = (.ok tag, ciphertext) ↔
        (ciphers.suiteAead builder.cipher).encrypt key (nonceNew iv packetNumber) aad payload =
          some (ciphertext, tag)

/-- The two ciphers with 32-byte keys protect a payload alike. -/
def Agree (key : Bytes) (iv : Iv) (packetNumber : UInt64) (aad payload : Bytes) : Prop :=
  ciphers.aes256Gcm.encrypt key (nonceNew iv packetNumber) aad payload =
    ciphers.chacha20Poly1305.encrypt key (nonceNew iv packetNumber) aad payload

variable {ciphers}

/-- Packet keys are made from keys of ChaCha20-Poly1305 and encrypt with it. -/
theorem usesSuiteAead_iff_of_keySize {builder : KeyBuilder} {key : Bytes}
    (fits : key.length = ciphers.chacha20Poly1305.keySize) (iv : Iv) (packetNumber : UInt64)
    (aad payload : Bytes) :
    builder.UsesSuiteAead ciphers key iv packetNumber aad payload ↔
      ciphers.chacha20Poly1305.keySize = (ciphers.suiteAead builder.cipher).keySize ∧
        (ciphers.suiteAead builder.cipher).encrypt key (nonceNew iv packetNumber) aad payload =
          ciphers.chacha20Poly1305.encrypt key (nonceNew iv packetNumber) aad payload := by
  have made : builder.packetKey ciphers key iv = .ok ⟨iv, key, fits⟩ := dif_pos fits
  refine and_congr_right fun _ => ?_
  constructor
  · rintro ⟨packetKey, made', uses⟩
    obtain rfl := Except.ok.inj (made.symm.trans made')
    refine Option.ext fun ⟨ciphertext, tag⟩ => ?_
    exact (uses ciphertext tag).symm.trans PacketKey.encryptInPlace_eq_ok_iff
  · intro agree
    refine ⟨_, made, fun ciphertext tag => ?_⟩
    rw [PacketKey.encryptInPlace_eq_ok_iff, agree]

/-- A key of another length than ChaCha20-Poly1305's makes the constructor panic. -/
theorem packetKey_eq_panic (builder : KeyBuilder) {key : Bytes}
    (misfits : key.length ≠ ciphers.chacha20Poly1305.keySize) (iv : Iv) :
    builder.packetKey ciphers key iv = .error .panic := dif_neg misfits

theorem not_usesSuiteAead_of_keySize (builder : KeyBuilder) {key : Bytes}
    (misfits : key.length ≠ ciphers.chacha20Poly1305.keySize) (iv : Iv) (packetNumber : UInt64)
    (aad payload : Bytes) :
    ¬ builder.UsesSuiteAead ciphers key iv packetNumber aad payload := by
  rintro ⟨_, packetKey, made, _⟩
  rw [packetKey_eq_panic builder misfits] at made
  contradiction

/-- On keys of the suite's length, what each builder does on one payload. -/
theorem usesSuiteAead_iff_agree (documented : ciphers.Documented) {builder : KeyBuilder}
    {key : Bytes} (fits : key.length = (ciphers.suiteAead builder.cipher).keySize) (iv : Iv)
    (packetNumber : UInt64) (aad payload : Bytes) :
    builder.UsesSuiteAead ciphers key iv packetNumber aad payload ↔
      builder = newChacha20 ∨
        builder = newAes256 ∧ Agree ciphers key iv packetNumber aad payload := by
  have chacha := documented.chacha20Poly1305.keySize_eq
  obtain ⟨cipher⟩ := builder
  cases cipher with
  | aes128 =>
      have short : key.length = 16 := fits.trans documented.aes128Gcm.keySize_eq
      have misfits : key.length ≠ ciphers.chacha20Poly1305.keySize := by omega
      have unused := not_usesSuiteAead_of_keySize newAes128 misfits iv packetNumber aad payload
      exact ⟨fun uses => absurd uses unused, by simp [newChacha20, newAes256]⟩
  | aes256 =>
      have keySizes : ciphers.chacha20Poly1305.keySize = ciphers.aes256Gcm.keySize :=
        chacha.trans documented.aes256Gcm.keySize_eq.symm
      rw [usesSuiteAead_iff_of_keySize (fits.trans keySizes.symm)]
      constructor
      · rintro ⟨_, agree⟩
        exact .inr ⟨rfl, agree⟩
      · rintro (chacha20 | ⟨_, agree⟩)
        · contradiction
        · exact ⟨keySizes, agree⟩
  | chaCha20 =>
      rw [usesSuiteAead_iff_of_keySize fits]
      exact ⟨fun _ => .inl rfl, fun _ => ⟨rfl, rfl⟩⟩

variable (ciphers)

/-- Only the ChaCha20 builder uses the cipher of its suite.  The AES-128 builder panics on every key
of its suite, and the AES-256 builder uses ChaCha20-Poly1305 in place of its own cipher. -/
theorem usesSuiteAead_iff (documented : ciphers.Documented)
    (different : ∃ key iv packetNumber aad payload, key.length = 32 ∧
      ¬ Agree ciphers key iv packetNumber aad payload) (builder : KeyBuilder) :
    (∀ key iv packetNumber aad payload,
      key.length = (ciphers.suiteAead builder.cipher).keySize →
        (builder.UsesSuiteAead ciphers key iv packetNumber aad payload ↔
          builder = newChacha20 ∨
            builder = newAes256 ∧ Agree ciphers key iv packetNumber aad payload)) ∧
      ((∀ key iv packetNumber aad payload,
        key.length = (ciphers.suiteAead builder.cipher).keySize →
          builder.UsesSuiteAead ciphers key iv packetNumber aad payload) ↔
        builder = newChacha20) := by
  have each : ∀ key iv packetNumber aad payload,
      key.length = (ciphers.suiteAead builder.cipher).keySize →
        (builder.UsesSuiteAead ciphers key iv packetNumber aad payload ↔
          builder = newChacha20 ∨
            builder = newAes256 ∧ Agree ciphers key iv packetNumber aad payload) :=
    fun key iv packetNumber aad payload fits =>
      usesSuiteAead_iff_agree documented fits iv packetNumber aad payload
  refine ⟨each, fun uses => ?_, ?_⟩
  · by_contra other
    have agrees (key iv packetNumber aad payload)
        (fits : key.length = (ciphers.suiteAead builder.cipher).keySize) :
        builder = newAes256 ∧ Agree ciphers key iv packetNumber aad payload :=
      ((each key iv packetNumber aad payload fits).mp
        (uses key iv packetNumber aad payload fits)).resolve_left other
    obtain ⟨isAes256, _⟩ := agrees (List.replicate (ciphers.suiteAead builder.cipher).keySize 0)
      (Vector.replicate 12 0) 0 [] [] List.length_replicate
    subst isAes256
    obtain ⟨key, iv, packetNumber, aad, payload, length_eq, disagree⟩ := different
    have fits : key.length = ciphers.aes256Gcm.keySize :=
      length_eq.trans documented.aes256Gcm.keySize_eq.symm
    exact disagree (agrees key iv packetNumber aad payload fits).2
  · rintro rfl key iv packetNumber aad payload fits
    exact (each key iv packetNumber aad payload fits).mpr (.inl rfl)

/-- A cipher that leaves the message as it is and has a constant tag. -/
def transparentCipher (keySize : Nat) : DetachedAead where
  keySize := keySize
  nonceSize := 12
  tagSize := 16
  limit := 2 ^ 36
  encrypt _ _ _ message := some (message, List.replicate 16 0)
  decrypt _ _ _ ciphertext tag := if tag = List.replicate 16 0 then some ciphertext else none
  encrypts _ _ _ _ := ⟨_, _, rfl⟩
  length_ciphertext encrypted := by
    obtain ⟨rfl, -⟩ := Prod.mk.inj (Option.some.inj encrypted)
    rfl
  length_tag encrypted := by
    obtain ⟨-, rfl⟩ := Prod.mk.inj (Option.some.inj encrypted)
    exact List.length_replicate
  decrypts encrypted := by
    obtain ⟨rfl, rfl⟩ := Prod.mk.inj (Option.some.inj encrypted)
    exact if_pos rfl

/-- Three ciphers, of which the two with 32-byte keys differ. -/
def sampleCiphers : RustCrypto where
  aes128Gcm := transparentCipher 16
  aes256Gcm := transparentCipher 32
  chacha20Poly1305 := miniatureCipher 32

/-- The AES-128 builder announces 32-byte keys, and panics on a key of its suite. -/
theorem newAes128_panics :
    newAes128.aeadKeyLen sampleCiphers = 32 ∧
      newAes128.packetKey sampleCiphers (List.replicate 16 7) (Vector.replicate 12 0) =
        .error .panic ∧
      ¬ newAes128.UsesSuiteAead sampleCiphers (List.replicate 16 7) (Vector.replicate 12 0) 5 [0x40]
        [1, 2, 3] := by
  have misfits : (List.replicate 16 (7 : UInt8)).length ≠
      sampleCiphers.chacha20Poly1305.keySize := by decide
  exact ⟨rfl, packetKey_eq_panic newAes128 misfits _,
    not_usesSuiteAead_of_keySize newAes128 misfits _ _ _ _⟩

/-- With these ciphers the AES-256 builder does not use the cipher of its suite. -/
theorem usesSuiteAead_iff_sample :
    ¬ ∀ key iv packetNumber aad payload, key.length = 32 →
      newAes256.UsesSuiteAead sampleCiphers key iv packetNumber aad payload := by
  have documented : sampleCiphers.Documented :=
    ⟨⟨rfl, rfl, rfl, Nat.le_refl _⟩, ⟨rfl, rfl, rfl, Nat.le_refl _⟩, miniatureCipher_documented 32⟩
  have different : ∃ key iv packetNumber aad payload, key.length = 32 ∧
      ¬ Agree sampleCiphers key iv packetNumber aad payload :=
    ⟨List.replicate 32 7, Vector.replicate 12 0, 5, [], [1], rfl, by unfold Agree; decide⟩
  intro uses
  have chacha20 := (usesSuiteAead_iff sampleCiphers documented different newAes256).2.mp uses
  contradiction

end KeyBuilder

end OxiTls
