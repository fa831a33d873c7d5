import OxiTls.Library.Panics
import OxiTls.Provider.Records

/-!
# Exported traffic secrets

`extract_keys` of the record ciphers: the key and the IV of a connection for a consumer, such as
kTLS, that protects the records in place of the encrypter.  The two macros for AES-GCM are
instantiated for both key sizes, and each names one of them.
-/

namespace OxiTls

/-- `rustls::ConnectionTrafficSecrets`. -/
inductive ConnectionTrafficSecrets
  | aes128Gcm (key : Bytes) (iv : Iv)
  | aes256Gcm (key : Bytes) (iv : Iv)
  | chacha20Poly1305 (key : Bytes) (iv : Iv)
  deriving DecidableEq, Repr

namespace ConnectionTrafficSecrets

/-- The cipher that a variant names. -/
def cipher : ConnectionTrafficSecrets → SuiteCipher
  | .aes128Gcm .. => .aes128Gcm
  | .aes256Gcm .. => .aes256Gcm
  | .chacha20Poly1305 .. => .chacha20Poly1305

def key : ConnectionTrafficSecrets → Bytes
  | .aes128Gcm key _ | .aes256Gcm key _ | .chacha20Poly1305 key _ => key

def iv : ConnectionTrafficSecrets → Iv
  | .aes128Gcm _ iv | .aes256Gcm _ iv | .chacha20Poly1305 _ iv => iv

end ConnectionTrafficSecrets

/-- `rustls::crypto::cipher::UnsupportedOperationError`. -/
inductive UnsupportedOperationError
  | unsupportedOperation
  deriving DecidableEq, Repr

/-- The result of `extract_keys`, which can panic. -/
abbrev ExtractedKeys := Except (Fault UnsupportedOperationError) ConnectionTrafficSecrets

/-- `extract_keys` of `impl_gcm_tls13`. -/
def tls13GcmExtractKeys (key : Bytes) (iv : Iv) : ExtractedKeys := .ok (.aes256Gcm key iv)

/-- `extract_keys` of `Chacha20Poly1305` as a TLS 1.3 algorithm. -/
def tls13ChachaExtractKeys (key : Bytes) (iv : Iv) : ExtractedKeys :=
  .ok (.chacha20Poly1305 key iv)

/-- `extract_keys` of `impl_gcm_tls12`. -/
def tls12GcmExtractKeys (key iv _explicit : Bytes) : ExtractedKeys := do
  let iv ← Fault.expect (FixedLength.ofList? 12 iv)
  .ok (.aes128Gcm key iv)

/-- `extract_keys` of `Chacha20Poly1305` as a TLS 1.2 algorithm. -/
def tls12ChachaExtractKeys (key iv _explicit : Bytes) : ExtractedKeys := do
  let iv ← Fault.expect (FixedLength.ofList? 12 iv)
  .ok (.chacha20Poly1305 key iv)

/-- `Tls13AeadAlgorithm::extract_keys` of a suite. -/
def tls13ExtractKeys : SuiteCipher → (key : Bytes) → Iv → ExtractedKeys
  | .aes128Gcm => tls13GcmExtractKeys
  | .aes256Gcm => tls13GcmExtractKeys
  | .chacha20Poly1305 => tls13ChachaExtractKeys

/-- `Tls12AeadAlgorithm::extract_keys` of a suite. -/
def tls12ExtractKeys : SuiteCipher → (key iv explicit : Bytes) → ExtractedKeys
  | .aes128Gcm => tls12GcmExtractKeys
  | .aes256Gcm => tls12GcmExtractKeys
  | .chacha20Poly1305 => tls12ChachaExtractKeys

/-! ## The encrypters, with what they hold -/

/-- The structs of the provider that implement `MessageEncrypter`: a cipher under its key, and the
IV to combine with the sequence number. -/
structure RecordEncrypter where
  cipher : SuiteCipher
  key : Bytes
  iv : Iv
  deriving DecidableEq, Repr

namespace RecordEncrypter

/-- The nonce under which a record is encrypted. -/
def nonce (encrypter : RecordEncrypter) (seq : UInt64) : Bytes := nonceNew encrypter.iv seq

variable (ciphers : RustCrypto)

/-- `encrypter` of the TLS 1.3 algorithms. -/
def tls13 (suite : SuiteCipher) (key : Bytes) (iv : Iv) : Option RecordEncrypter := do
  let key ← newFromSlice (ciphers.ofSuite suite) key
  pure ⟨suite, key, iv⟩

/-- `encrypter` of the TLS 1.2 algorithms. -/
def tls12 (suite : SuiteCipher) (key iv explicit : Bytes) : Option RecordEncrypter :=
  match suite with
  | .aes128Gcm | .aes256Gcm => do
      let key ← newFromSlice (ciphers.ofSuite suite) key
      let writeIv ← FixedLength.ofList? 4 iv
      let explicit ← FixedLength.ofList? 8 explicit
      pure ⟨suite, key, writeIv ++ explicit⟩
  | .chacha20Poly1305 => do
      let key ← newFromSlice ciphers.chacha20Poly1305 key
      let iv ← FixedLength.ofList? 12 iv
      pure ⟨suite, key, iv⟩

/-- The TLS 1.3 encrypter of `Records` that a struct stands for. -/
def tls13MessageEncrypter (encrypter : RecordEncrypter) : MessageEncrypter :=
  ⟨tls13Encrypt (ciphers.ofSuite encrypter.cipher) 16 encrypter.key encrypter.iv,
    tls13EncryptedPayloadLen 16⟩

/-- The TLS 1.2 encrypter of `Records` that a struct stands for. -/
def tls12MessageEncrypter (encrypter : RecordEncrypter) : MessageEncrypter :=
  match encrypter.cipher with
  | .aes128Gcm => ⟨tls12GcmEncrypt ciphers.aes128Gcm encrypter.key encrypter.iv,
      tls12GcmEncryptedPayloadLen ciphers.aes128Gcm⟩
  | .aes256Gcm => ⟨tls12GcmEncrypt ciphers.aes256Gcm encrypter.key encrypter.iv,
      tls12GcmEncryptedPayloadLen ciphers.aes256Gcm⟩
  | .chacha20Poly1305 => ⟨tls12ChachaEncrypt ciphers.chacha20Poly1305 encrypter.key encrypter.iv,
      tls12ChachaEncryptedPayloadLen⟩

variable {ciphers}

theorem tls13_messageEncrypter (suite : SuiteCipher) (key : Bytes) (iv : Iv) :
    (tls13Of ciphers suite).encrypter key iv =
      (tls13 ciphers suite key iv).map (tls13MessageEncrypter ciphers) := by
  cases suite
  all_goals
    simp only [tls13Of, tls13Aes128Gcm, tls13Aes256Gcm, tls13Chacha20Poly1305, tls13Algorithm,
      tls13, RustCrypto.ofSuite]
  · cases newFromSlice ciphers.aes128Gcm key <;> rfl
  · cases newFromSlice ciphers.aes256Gcm key <;> rfl
  · cases newFromSlice ciphers.chacha20Poly1305 key <;> rfl

theorem tls12_messageEncrypter (suite : SuiteCipher) (key iv explicit : Bytes) :
    (tls12Of ciphers suite).encrypter key iv explicit =
      (tls12 ciphers suite key iv explicit).map (tls12MessageEncrypter ciphers) := by
  cases suite
  all_goals
    simp only [tls12Of, tls12Aes128Gcm, tls12Aes256Gcm, tls12Chacha20Poly1305, tls12GcmAlgorithm,
      tls12ChachaAlgorithm, tls12, RustCrypto.ofSuite, Option.bind_eq_bind, Option.map_bind,
      Function.comp_def]
    rfl

end RecordEncrypter

/-- The extracted secrets are those of the encrypter: they name its cipher, they hold its key and
its IV, and nonces built from them are the nonces of the encrypter. -/
def ExportsSecretsOf (extracted : ExtractedKeys) (encrypter : RecordEncrypter) : Prop :=
  ∃ secrets, extracted = .ok secrets ∧ secrets.cipher = encrypter.cipher ∧
    secrets.key = encrypter.key ∧ secrets.iv = encrypter.iv ∧
    ∀ seq, nonceNew secrets.iv seq = encrypter.nonce seq

theorem exportsSecretsOf_ok_iff {secrets : ConnectionTrafficSecrets} {encrypter : RecordEncrypter} :
    ExportsSecretsOf (.ok secrets) encrypter ↔ secrets.cipher = encrypter.cipher ∧
      secrets.key = encrypter.key ∧ secrets.iv = encrypter.iv := by
  constructor
  · rintro ⟨_, extracted, cipher, key, iv, -⟩
    obtain rfl := Except.ok.inj extracted
    exact ⟨cipher, key, iv⟩
  · rintro ⟨cipher, key, iv⟩
    exact ⟨secrets, rfl, cipher, key, iv, fun seq => by rw [RecordEncrypter.nonce, iv]⟩

theorem not_exportsSecretsOf_error {failure : Fault UnsupportedOperationError}
    {encrypter : RecordEncrypter} : ¬ ExportsSecretsOf (.error failure) encrypter := by
  rintro ⟨secrets, extracted, -⟩
  contradiction

section Extraction

variable {ciphers : RustCrypto} {key iv explicit : Bytes}

/-- In TLS 1.3 the IV is right for every cipher, and the name for all but AES-128-GCM. -/
theorem tls13_exportsSecretsOf_iff {suite : SuiteCipher} {iv : Iv} :
    ExportsSecretsOf (tls13ExtractKeys suite key iv) ⟨suite, key, iv⟩ ↔ suite ≠ .aes128Gcm := by
  cases suite
  all_goals
    simp only [tls13ExtractKeys, tls13GcmExtractKeys, tls13ChachaExtractKeys,
      exportsSecretsOf_ok_iff, ConnectionTrafficSecrets.cipher, ConnectionTrafficSecrets.key,
      ConnectionTrafficSecrets.iv]
    decide

/-- No fixed IV of a TLS 1.2 GCM suite is as long as `extract_keys` expects. -/
theorem tls12GcmExtractKeys_of_fixed (explicit : Bytes) (four : iv.length = 4) :
    tls12GcmExtractKeys key iv explicit = .error .panic := by
  have short : iv.length ≠ 12 := by omega
  rw [tls12GcmExtractKeys, FixedLength.ofList?_of_length_ne short]
  rfl

theorem tls12ChachaExtractKeys_eq (array : Iv) :
    tls12ChachaExtractKeys key array.toList explicit = .ok (.chacha20Poly1305 key array) := by
  rw [tls12ChachaExtractKeys, FixedLength.ofList?_toList]
  rfl

/-- A TLS 1.2 GCM algorithm builds an encrypter and then panics over its secrets. -/
theorem tls12_gcm_exports_iff {suite : SuiteCipher} (gcm : suite ≠ .chacha20Poly1305)
    (keyFits : key.length = (ciphers.ofSuite suite).keySize) (four : iv.length = 4)
    (eight : explicit.length = 8) :
    ∃ encrypter, RecordEncrypter.tls12 ciphers suite key iv explicit = some encrypter ∧
      (ExportsSecretsOf (tls12ExtractKeys suite key iv explicit) encrypter ↔
        suite = .chacha20Poly1305) := by
  have panics : tls12ExtractKeys suite key iv explicit = .error .panic := by
    cases suite with
    | aes128Gcm => exact tls12GcmExtractKeys_of_fixed explicit four
    | aes256Gcm => exact tls12GcmExtractKeys_of_fixed explicit four
    | chacha20Poly1305 => contradiction
  obtain ⟨fixedArray, rfl⟩ := FixedLength.exists_toList four
  obtain ⟨explicitArray, rfl⟩ := FixedLength.exists_toList eight
  refine ⟨⟨suite, key, fixedArray ++ explicitArray⟩, ?_, ?_⟩
  · cases suite with
    | chacha20Poly1305 => contradiction
    | _ =>
        simp only [RecordEncrypter.tls12, newFromSlice_eq_some keyFits, FixedLength.ofList?_toList]
        rfl
  · rw [panics]
    exact iff_of_false not_exportsSecretsOf_error gcm

/-- The TLS 1.2 ChaCha algorithm has one IV for both. -/
theorem tls12_chacha_exports (explicit : Bytes)
    (keyFits : key.length = ciphers.chacha20Poly1305.keySize) (twelve : iv.length = 12) :
    ∃ encrypter, RecordEncrypter.tls12 ciphers .chacha20Poly1305 key iv explicit = some encrypter ∧
      ExportsSecretsOf (tls12ExtractKeys .chacha20Poly1305 key iv explicit) encrypter := by
  obtain ⟨array, rfl⟩ := FixedLength.exists_toList twelve
  refine ⟨⟨.chacha20Poly1305, key, array⟩, ?_, ?_⟩
  · simp only [RecordEncrypter.tls12, newFromSlice_eq_some keyFits, FixedLength.ofList?_toList]
    rfl
  · rw [tls12ExtractKeys, tls12ChachaExtractKeys_eq, exportsSecretsOf_ok_iff]
    exact ⟨rfl, rfl, rfl⟩

end Extraction

/-- The exported secrets are those of the encrypter for every key, IV and explicit nonce when the
algorithm is AES-256-GCM of TLS 1.3 or ChaCha20-Poly1305 of either version, and for none of them
when it is another one. -/
theorem extractKeys_exports_iff (ciphers : RustCrypto) (documented : ciphers.Documented) :
    (∀ (suite : SuiteCipher) (key : Bytes) (iv : Iv),
      key.length = (tls13Of ciphers suite).keyLen →
      ∃ encrypter, RecordEncrypter.tls13 ciphers suite key iv = some encrypter ∧
        (ExportsSecretsOf (tls13ExtractKeys suite key iv) encrypter ↔ suite ≠ .aes128Gcm)) ∧
      ∀ (suite : SuiteCipher) (key iv explicit : Bytes),
        key.length = (tls12Of ciphers suite).keyBlockShape.encKeyLen →
        iv.length = (tls12Of ciphers suite).keyBlockShape.fixedIvLen →
        explicit.length = (tls12Of ciphers suite).keyBlockShape.explicitNonceLen →
        ∃ encrypter, RecordEncrypter.tls12 ciphers suite key iv explicit = some encrypter ∧
          (ExportsSecretsOf (tls12ExtractKeys suite key iv explicit) encrypter ↔
            suite = .chacha20Poly1305) := by
  constructor
  · intro suite key iv keyFits
    have created : newFromSlice (ciphers.ofSuite suite) key = some key := by
      cases suite <;> exact newFromSlice_eq_some keyFits
    refine ⟨⟨suite, key, iv⟩, ?_, tls13_exportsSecretsOf_iff⟩
    rw [RecordEncrypter.tls13, created]
    rfl
  · intro suite key iv explicit keyFits ivFits explicitFits
    cases suite with
    | aes128Gcm => exact tls12_gcm_exports_iff (by decide) keyFits ivFits explicitFits
    | aes256Gcm => exact tls12_gcm_exports_iff (by decide) keyFits ivFits explicitFits
    | chacha20Poly1305 =>
        obtain ⟨encrypter, created, exports⟩ := tls12_chacha_exports explicit
          (keyFits.trans documented.chacha20Poly1305.keySize_eq.symm) ivFits
        exact ⟨encrypter, created, iff_of_true exports rfl⟩

/-- The secrets of an AES-256-GCM connection. -/
theorem extractKeys_exports_iff_aes256 :
    ∃ encrypter, RecordEncrypter.tls13 miniatureCiphers .aes256Gcm (List.replicate 32 7)
        (Vector.replicate 12 1) = some encrypter ∧
      ExportsSecretsOf (tls13ExtractKeys .aes256Gcm (List.replicate 32 7) (Vector.replicate 12 1))
        encrypter := by
  obtain ⟨encrypter, created, exports⟩ :=
    (extractKeys_exports_iff miniatureCiphers miniatureCiphers_documented).1 .aes256Gcm
      (List.replicate 32 7) (Vector.replicate 12 1) rfl
  exact ⟨encrypter, created, exports.mpr (by decide)⟩

/-- The secrets of an AES-128-GCM connection of TLS 1.3 come under the name of the other cipher, and
asking for those of an AES-256-GCM connection of TLS 1.2 panics. -/
theorem extractKeys_aes128_not_exports :
    ¬ ExportsSecretsOf
        (tls13ExtractKeys .aes128Gcm (List.replicate 16 7) (Vector.replicate 12 1))
        ⟨.aes128Gcm, List.replicate 16 7, Vector.replicate 12 1⟩ ∧
      RecordEncrypter.tls13 miniatureCiphers .aes128Gcm (List.replicate 16 7)
        (Vector.replicate 12 1) = some ⟨.aes128Gcm, List.replicate 16 7, Vector.replicate 12 1⟩ ∧
      tls12ExtractKeys .aes256Gcm (List.replicate 32 7) [1, 2, 3, 4] (List.replicate 8 5) =
        .error .panic := by
  refine ⟨fun exports => ?_, rfl, rfl⟩
  exact tls13_exportsSecretsOf_iff.mp exports rfl

end OxiTls
