import OxiTls.Provider.Records
import OxiTls.Rustls

/-!
# HPKE suites and contexts

The `hpke` module of the adapter, RFC 9180 in base mode: the labeled key derivation, the key
schedule, the two AEADs, the one-shot functions and the stateful contexts.  HKDF, the KEM and the
ciphers are parameters.  A method that changes its context returns the changed context with its
answer.
-/

namespace OxiTls

/-- The `hkdf` crate over SHA-256.  Up to 255 blocks can be expanded. -/
structure Hkdf where
  extract : (salt ikm : Bytes) → Digest
  expand : (prk info : Bytes) → (length : Nat) → Option (Vector UInt8 length)
  expands : ∀ prk info length, 32 ≤ prk.length → length ≤ 255 * 32 →
    (expand prk info length).isSome

/-- `DhKem`; encapsulation draws randomness. -/
structure DhKem where
  kemId : UInt16
  encap : (random pkR : Bytes) → Except RustlsError (Digest × Bytes)
  decap : (skR enc : Bytes) → Except RustlsError Digest

/-- Decapsulation under the secret key agrees with encapsulation to the public key. -/
def DhKem.Agrees (kem : DhKem) (publicKey secretKey : Bytes) : Prop :=
  ∀ random sharedSecret enc, kem.encap random publicKey = .ok (sharedSecret, enc) →
    kem.decap secretKey enc = .ok sharedSecret

/-- The bytes of an ASCII text. -/
def ascii (text : String) : Bytes := text.toList.map fun letter => UInt8.ofNat letter.toNat

/-! ## Key derivation -/

section Kdf

variable (hkdf : Hkdf) (suiteId : Bytes)

/-- `HPKE_V1`. -/
def hpkeV1 : Bytes := ascii "HPKE-v1"

/-- `labeled_extract`. -/
def labeledExtract (salt label ikm : Bytes) : Digest :=
  hkdf.extract salt (hpkeV1 ++ suiteId ++ label ++ ikm)

/-- `MAX_L`. -/
def maxL : Nat := 255 * 32

/-- `labeled_expand_checked`. -/
def labeledExpandChecked (prk label info : Bytes) (l : Nat) :
    Except RustlsError (Vector UInt8 l) :=
  if l > maxL then
    .error (.general ("HPKE Export: requested length " ++ toString l ++ " exceeds maximum " ++
      toString maxL ++ " bytes"))
  else if l ≥ 2 ^ 16 then .error (.general "HPKE Export: length does not fit in u16")
  else if prk.length < 32 then
    .error (.general "HPKE Export: invalid PRK (must be at least 32 bytes)")
  else
    match hkdf.expand prk (BigEndian.encode 2 l ++ hpkeV1 ++ suiteId ++ label ++ info) l with
    | some okm => .ok okm
    | none => .error (.general "HPKE Export: HKDF expand failed")

/-- `labeled_expand`. -/
def labeledExpand : (prk label info : Bytes) → (l : Nat) → Except RustlsError (Vector UInt8 l) :=
  labeledExpandChecked hkdf suiteId

/-- `HpkeKeyMaterial`. -/
structure HpkeKeyMaterial where
  key : Bytes
  baseNonce : Vector UInt8 12
  exporterSecret : Digest
  deriving DecidableEq, Repr

/-- `key_schedule_base`. -/
def keyScheduleBase (sharedSecret info : Bytes) (nk : Nat) :
    Except RustlsError HpkeKeyMaterial := do
  let pskIdHash := labeledExtract hkdf suiteId [] (ascii "psk_id_hash") []
  let infoHash := labeledExtract hkdf suiteId [] (ascii "info_hash") info
  let ksContext := (0 : UInt8) :: (pskIdHash.toList ++ infoHash.toList)
  let secret := labeledExtract hkdf suiteId sharedSecret (ascii "secret") []
  let key ← labeledExpand hkdf suiteId secret.toList (ascii "key") ksContext nk
  let baseNonce ← labeledExpand hkdf suiteId secret.toList (ascii "base_nonce") ksContext 12
  let exporterSecret ← labeledExpand hkdf suiteId secret.toList (ascii "exp") ksContext 32
  pure ⟨key.toList, baseNonce, exporterSecret⟩

end Kdf

/-! ## The AEADs -/

/-- `AeadSuite`, with its `seal` and `open`. -/
structure AeadSuite where
  aeadId : UInt16
  nk : Nat
  sealPlaintext : (key nonce aad pt : Bytes) → Except RustlsError Bytes
  openCiphertext : (key nonce aad ct : Bytes) → Except RustlsError Bytes

namespace AeadSuite

/-- One of the two AEADs, which differ in their numbers, their cipher and the name in their
errors. -/
def ofCipher (aeadId : UInt16) (nk : Nat) (cipher : DetachedAead) (name : String) :
    AeadSuite where
  aeadId := aeadId
  nk := nk
  sealPlaintext key nonce aad pt :=
    match newFromSlice cipher key with
    | none => .error (.general ("HPKE " ++ name ++ ": invalid key length"))
    | some key =>
        match cipher.encryptInPlace key nonce aad pt with
        | some ct => .ok ct
        | none => .error (.general ("HPKE " ++ name ++ ": encryption failed"))
  openCiphertext key nonce aad ct :=
    match newFromSlice cipher key with
    | none => .error (.general ("HPKE " ++ name ++ ": invalid key length"))
    | some key =>
        match cipher.decryptInPlace key nonce aad ct with
        | some pt => .ok pt
        | none =>
            .error (.general ("HPKE " ++ name ++ ": decryption failed (bad tag or data)"))

/-- `AeadAes128Gcm`. -/
def aes128Gcm (ciphers : RustCrypto) : AeadSuite :=
  ofCipher 0x0001 16 ciphers.aes128Gcm "AES-128-GCM"

/-- `AeadChacha20`. -/
def chacha20 (ciphers : RustCrypto) : AeadSuite :=
  ofCipher 0x0003 32 ciphers.chacha20Poly1305 "ChaCha20Poly1305"

end AeadSuite

/-- The AEADs of the four suites. -/
inductive HpkeAead
  | aes128Gcm
  | chacha20
  deriving DecidableEq, Repr

/-- The AEAD suite of a name. -/
def HpkeAead.suite (ciphers : RustCrypto) : HpkeAead → AeadSuite
  | .aes128Gcm => .aes128Gcm ciphers
  | .chacha20 => .chacha20 ciphers

/-! ## Contexts -/

/-- `compute_nonce`: the last 8 bytes are combined with the sequence number. -/
def computeNonce (baseNonce : Vector UInt8 12) (seq : UInt64) : Bytes :=
  counterNonce baseNonce.toList seq

/-- `HpkeSealerCtx` and `HpkeOpenerCtx`, which have the same fields. -/
structure HpkeCtx where
  key : Bytes
  baseNonce : Vector UInt8 12
  seq : UInt64
  suiteId : Bytes
  exporterSecret : Digest
  deriving DecidableEq, Repr

/-- `u64::checked_add(1)`. -/
def checkedSucc (seq : UInt64) : Option UInt64 :=
  if seq.toNat + 1 < 2 ^ 64 then some (seq + 1) else none

namespace HpkeCtx

/-- The error of a sequence number that would overflow. -/
def limitReached : RustlsError := .general "HPKE: message sequence number limit reached"

/-- One use of a context: run the AEAD under the nonce of the sequence number, then advance the
sequence number.  The answer of the AEAD is dropped when the sequence number cannot advance. -/
def use (ctx : HpkeCtx) (aead : (key nonce : Bytes) → Except RustlsError Bytes) :
    Except RustlsError Bytes × HpkeCtx :=
  match aead ctx.key (computeNonce ctx.baseNonce ctx.seq) with
  | .error failure => (.error failure, ctx)
  | .ok answer =>
      match checkedSucc ctx.seq with
      | none => (.error limitReached, ctx)
      | some seq => (.ok answer, { ctx with seq })

/-- `HpkeSealerCtx::seal`. -/
def sealPlaintext (suite : AeadSuite) (ctx : HpkeCtx) (aad plaintext : Bytes) :
    Except RustlsError Bytes × HpkeCtx :=
  ctx.use fun key nonce => suite.sealPlaintext key nonce aad plaintext

/-- `HpkeOpenerCtx::open`. -/
def openCiphertext (suite : AeadSuite) (ctx : HpkeCtx) (aad ciphertext : Bytes) :
    Except RustlsError Bytes × HpkeCtx :=
  ctx.use fun key nonce => suite.openCiphertext key nonce aad ciphertext

/-- `export` of both contexts. -/
def exportSecret (hkdf : Hkdf) (ctx : HpkeCtx) (exporterContext : Bytes) (len : Nat) :
    Except RustlsError Bytes :=
  (labeledExpandChecked hkdf ctx.suiteId ctx.exporterSecret.toList (ascii "sec") exporterContext
    len).map Vector.toList

end HpkeCtx

/-! ## The suite -/

/-- `HpkeSuiteImpl`: a KEM and an AEAD, over HKDF. -/
structure HpkeSuiteImpl where
  hkdf : Hkdf
  kem : DhKem
  aead : AeadSuite

namespace HpkeSuiteImpl

variable (suite : HpkeSuiteImpl)

/-- `hpke_suite_id`. -/
def suiteId : Bytes :=
  ascii "HPKE" ++ BigEndian.encode 2 suite.kem.kemId.toNat ++ BigEndian.encode 2 0x0001 ++
    BigEndian.encode 2 suite.aead.aeadId.toNat

/-- `setup_sender`, with the randomness of the encapsulation. -/
def setupSender (random info pubKey : Bytes) : Except RustlsError (Bytes × HpkeCtx) := do
  let (sharedSecret, enc) ← suite.kem.encap random pubKey
  let km ← keyScheduleBase suite.hkdf suite.suiteId sharedSecret.toList info suite.aead.nk
  pure (enc, ⟨km.key, km.baseNonce, 0, suite.suiteId, km.exporterSecret⟩)

/-- `setup_receiver`. -/
def setupReceiver (enc info secretKey : Bytes) : Except RustlsError HpkeCtx := do
  let sharedSecret ← suite.kem.decap secretKey enc
  let km ← keyScheduleBase suite.hkdf suite.suiteId sharedSecret.toList info suite.aead.nk
  pure ⟨km.key, km.baseNonce, 0, suite.suiteId, km.exporterSecret⟩

/-- `Hpke::seal`. -/
def sealPlaintext (random info aad plaintext pubKey : Bytes) :
    Except RustlsError (Bytes × Bytes) := do
  let (sharedSecret, enc) ← suite.kem.encap random pubKey
  let km ← keyScheduleBase suite.hkdf suite.suiteId sharedSecret.toList info suite.aead.nk
  let nonce := computeNonce km.baseNonce 0
  let ct ← suite.aead.sealPlaintext km.key nonce aad plaintext
  pure (enc, ct)

/-- `Hpke::open`. -/
def openCiphertext (enc info aad ciphertext secretKey : Bytes) : Except RustlsError Bytes := do
  let sharedSecret ← suite.kem.decap secretKey enc
  let km ← keyScheduleBase suite.hkdf suite.suiteId sharedSecret.toList info suite.aead.nk
  let nonce := computeNonce km.baseNonce 0
  suite.aead.openCiphertext km.key nonce aad ciphertext

end HpkeSuiteImpl

/-! ## What the operations do -/

section Kdf

variable {hkdf : Hkdf} {suiteId prk label info : Bytes} {l : Nat}

/-- Expansion succeeds up to the limit of HKDF. -/
theorem labeledExpandChecked_eq_ok (strong : 32 ≤ prk.length) (small : l ≤ maxL) :
    ∃ okm, labeledExpandChecked hkdf suiteId prk label info l = .ok okm := by
  have fits : ¬ l ≥ 2 ^ 16 := by
    have limit : maxL = 8160 := rfl
    omega
  obtain ⟨okm, expanded⟩ := Option.isSome_iff_exists.mp (hkdf.expands prk
    (BigEndian.encode 2 l ++ hpkeV1 ++ suiteId ++ label ++ info) l strong small)
  refine ⟨okm, ?_⟩
  rw [labeledExpandChecked, if_neg (Nat.not_lt.mpr small), if_neg fits,
    if_neg (Nat.not_lt.mpr strong), expanded]

/-- Expansion hands the length, the version, the suite id, the label and the info to HKDF. -/
theorem labeledExpandChecked_eq_ok_iff {okm : Vector UInt8 l} :
    labeledExpandChecked hkdf suiteId prk label info l = .ok okm ↔
      l ≤ maxL ∧ 32 ≤ prk.length ∧
        hkdf.expand prk (BigEndian.encode 2 l ++ hpkeV1 ++ suiteId ++ label ++ info) l =
          some okm := by
  have limit : maxL = 8160 := rfl
  unfold labeledExpandChecked
  split_ifs with large wide weak
  · exact iff_of_false nofun fun ⟨small, _⟩ => Nat.not_lt.mpr small large
  · exact iff_of_false nofun fun ⟨small, _⟩ => by omega
  · exact iff_of_false nofun fun ⟨_, strong, _⟩ => Nat.not_lt.mpr strong weak
  · rw [and_iff_right (Nat.not_lt.mp large), and_iff_right (Nat.not_lt.mp weak)]
    split
    next expanded => rw [expanded, Except.ok.injEq, Option.some.injEq]
    next refused =>
      rw [refused]
      exact iff_of_false nofun nofun

theorem labeledExpandChecked_eq_error (large : l > maxL) :
    ∃ failure, labeledExpandChecked hkdf suiteId prk label info l = .error failure :=
  ⟨_, if_pos large⟩

end Kdf

namespace AeadSuite

/-- What was sealed opens to its plaintext under the same key, nonce and associated data. -/
def Inverts (suite : AeadSuite) : Prop :=
  ∀ key nonce aad pt ct, suite.sealPlaintext key nonce aad pt = .ok ct →
    suite.openCiphertext key nonce aad ct = .ok pt

theorem ofCipher_inverts (aeadId : UInt16) (nk : Nat) (cipher : DetachedAead) (name : String) :
    (ofCipher aeadId nk cipher name).Inverts := by
  intro key nonce aad pt ct sealed
  simp only [ofCipher] at sealed ⊢
  cases created : newFromSlice cipher key with
  | none =>
      rw [created] at sealed
      contradiction
  | some cipherKey =>
      rw [created] at sealed
      cases encrypted : cipher.encryptInPlace cipherKey nonce aad pt with
      | none =>
          simp only [encrypted] at sealed
          contradiction
      | some bytes =>
          simp only [encrypted, Except.ok.injEq] at sealed
          subst sealed
          simp only [DetachedAead.decryptInPlace_encryptInPlace encrypted]

end AeadSuite

theorem HpkeAead.suite_inverts (ciphers : RustCrypto) (aead : HpkeAead) :
    (aead.suite ciphers).Inverts := by
  cases aead with
  | aes128Gcm => exact AeadSuite.ofCipher_inverts _ _ _ _
  | chacha20 => exact AeadSuite.ofCipher_inverts _ _ _ _

namespace HpkeCtx

variable {ctx : HpkeCtx} {aead : (key nonce : Bytes) → Except RustlsError Bytes}

/-- A use fails with the AEAD, fails because the sequence number is the last one, or succeeds and
advances the sequence number. -/
theorem use_cases (ctx : HpkeCtx) (aead : (key nonce : Bytes) → Except RustlsError Bytes) :
    (∃ failure, aead ctx.key (computeNonce ctx.baseNonce ctx.seq) = .error failure ∧
        ctx.use aead = (.error failure, ctx)) ∨
      (∃ answer, aead ctx.key (computeNonce ctx.baseNonce ctx.seq) = .ok answer ∧
        ctx.seq.toNat + 1 = 2 ^ 64 ∧ ctx.use aead = (.error limitReached, ctx)) ∨
      ∃ answer, aead ctx.key (computeNonce ctx.baseNonce ctx.seq) = .ok answer ∧
        ctx.seq.toNat + 1 < 2 ^ 64 ∧
        ctx.use aead = (.ok answer, { ctx with seq := ctx.seq + 1 }) := by
  rw [use]
  cases ran : aead ctx.key (computeNonce ctx.baseNonce ctx.seq) with
  | error failure => exact .inl ⟨failure, rfl, rfl⟩
  | ok answer =>
      by_cases advances : ctx.seq.toNat + 1 < 2 ^ 64
      · refine .inr (.inr ⟨answer, rfl, advances, ?_⟩)
        simp only [checkedSucc, if_pos advances]
      · have last : ctx.seq.toNat + 1 = 2 ^ 64 := by
          have bound := ctx.seq.toNat_lt
          omega
        refine .inr (.inl ⟨answer, rfl, last, ?_⟩)
        simp only [checkedSucc, if_neg advances]

/-- A use that fails leaves the context unchanged. -/
theorem use_unchanged {failure : RustlsError} (failed : (ctx.use aead).1 = .error failure) :
    (ctx.use aead).2 = ctx := by
  rcases ctx.use_cases aead with ⟨_, -, used⟩ | ⟨_, -, -, used⟩ | ⟨_, -, -, used⟩
  · rw [used]
  · rw [used]
  · rw [used] at failed
    contradiction

end HpkeCtx

end OxiTls
