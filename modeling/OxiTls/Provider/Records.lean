import Mathlib.Data.List.Rotate
import OxiTls.Library.CounterNonce
import OxiTls.Library.DetachedAead
import OxiTls.Library.Fallible
import OxiTls.Library.FixedLength
import OxiTls.Pki

/-!
# Record protection

`aead/gcm.rs` and `aead/chacha20.rs` of the provider: the record ciphers of TLS 1.2 and TLS 1.3,
with the part of rustls they call.  The ciphers themselves are parameters.  Encrypter and decrypter
compute the nonce, the associated data and the offsets in the payload independently of each other.
-/

namespace OxiTls

/-! ## The record types of rustls -/

/-- `rustls::ContentType`; `Unknown` is for the codes that have no name. -/
inductive ContentType
  | changeCipherSpec
  | alert
  | handshake
  | applicationData
  | heartbeat
  | unknown (code : UInt8) (unnamed : code ≠ 0x14 ∧ code ≠ 0x15 ∧ code ≠ 0x16 ∧ code ≠ 0x17 ∧
      code ≠ 0x18)
  deriving DecidableEq, Repr

namespace ContentType

/-- `u8::from(ContentType)`. -/
def code : ContentType → UInt8
  | changeCipherSpec => 0x14
  | alert => 0x15
  | handshake => 0x16
  | applicationData => 0x17
  | heartbeat => 0x18
  | unknown code _ => code

/-- `ContentType::from(u8)`. -/
def ofCode (code : UInt8) : ContentType :=
  if isChangeCipherSpec : code = 0x14 then .changeCipherSpec
  else if isAlert : code = 0x15 then .alert
  else if isHandshake : code = 0x16 then .handshake
  else if isApplicationData : code = 0x17 then .applicationData
  else if isHeartbeat : code = 0x18 then .heartbeat
  else .unknown code ⟨isChangeCipherSpec, isAlert, isHandshake, isApplicationData, isHeartbeat⟩

@[simp]
theorem ofCode_code (typ : ContentType) : ofCode typ.code = typ := by
  cases typ with
  | unknown code unnamed =>
      obtain ⟨first, second, third, fourth, fifth⟩ := unnamed
      rw [ContentType.code, ofCode, dif_neg first, dif_neg second, dif_neg third, dif_neg fourth,
        dif_neg fifth]
  | _ => rfl

end ContentType

/-- `rustls::ProtocolVersion`, as the number on the wire. -/
structure WireVersion where
  code : UInt16
  deriving DecidableEq, Repr

/-- `ProtocolVersion::TLSv1_2`. -/
def WireVersion.tls12 : WireVersion := ⟨0x0303⟩

/-- `ProtocolVersion::TLSv1_3`. -/
def WireVersion.tls13 : WireVersion := ⟨0x0304⟩

/-- `OutboundPlainMessage` and `InboundPlainMessage`. -/
structure PlainMessage where
  typ : ContentType
  version : WireVersion
  payload : Bytes
  deriving DecidableEq, Repr

/-- `OutboundOpaqueMessage` and `InboundOpaqueMessage`. -/
structure OpaqueMessage where
  typ : ContentType
  version : WireVersion
  payload : Bytes
  deriving DecidableEq, Repr

/-- The `rustls::Error` variants that record protection raises. -/
inductive RecordError
  | encryptError
  | decryptError
  | peerSentOversizedRecord
  /-- `PeerMisbehaved(IllegalTlsInnerPlaintext)`. -/
  | illegalTlsInnerPlaintext
  deriving DecidableEq, Repr

/-- `cipher::Iv`. -/
abbrev Iv := Vector UInt8 12

/-- `cipher::Nonce::new`: the exclusive or of the IV and the sequence number as a 96-bit number. -/
def nonceNew (iv : Iv) (seq : UInt64) : Bytes :=
  iv.toList.zipWith (· ^^^ ·) (BigEndian.encode 12 seq.toNat)

/-- `cipher::make_tls13_aad`. -/
def makeTls13Aad (payloadLen : Nat) : Bytes :=
  ContentType.applicationData.code :: BigEndian.encode 2 WireVersion.tls12.code.toNat ++
    BigEndian.encode 2 payloadLen

/-- `cipher::make_tls12_aad`. -/
def makeTls12Aad (seq : UInt64) (typ : ContentType) (version : WireVersion) (len : Nat) : Bytes :=
  BigEndian.encode 8 seq.toNat ++ typ.code :: BigEndian.encode 2 version.code.toNat ++
    BigEndian.encode 2 len

/-- `MAX_FRAGMENT_LEN`. -/
def maxFragmentLen : Nat := 16384

/-- The loop of `unpad_tls13_payload`, over the payload read from its end. -/
def unpadReversed : Bytes → ContentType × Bytes
  | [] => (.ofCode 0, [])
  | byte :: rest => if byte = 0 then unpadReversed rest else (.ofCode byte, rest.reverse)

namespace OpaqueMessage

variable (message : OpaqueMessage)

/-- `InboundOpaqueMessage::into_plain_message`. -/
def intoPlainMessage : PlainMessage := ⟨message.typ, message.version, message.payload⟩

/-- `InboundOpaqueMessage::into_tls13_unpadded_message`. -/
def intoTls13UnpaddedMessage : Except RecordError PlainMessage :=
  if message.payload.length > maxFragmentLen + 1 then .error .peerSentOversizedRecord
  else
    let (typ, payload) := unpadReversed message.payload.reverse
    if typ = .ofCode 0 then .error .illegalTlsInnerPlaintext
    else if payload.length > maxFragmentLen then .error .peerSentOversizedRecord
    else .ok ⟨typ, .tls13, payload⟩

end OpaqueMessage

/-- `MessageEncrypter`. -/
structure MessageEncrypter where
  encrypt : PlainMessage → (seq : UInt64) → Except RecordError OpaqueMessage
  encryptedPayloadLen : Nat → Nat

/-- `MessageDecrypter`. -/
structure MessageDecrypter where
  decrypt : OpaqueMessage → (seq : UInt64) → Except RecordError PlainMessage

/-- `Tls13AeadAlgorithm`; a constructor that panics is `none`. -/
structure Tls13AeadAlgorithm where
  encrypter : (key : Bytes) → Iv → Option MessageEncrypter
  decrypter : (key : Bytes) → Iv → Option MessageDecrypter
  keyLen : Nat

/-- `KeyBlockShape`. -/
structure KeyBlockShape where
  encKeyLen : Nat
  fixedIvLen : Nat
  explicitNonceLen : Nat
  deriving DecidableEq, Repr

/-- `Tls12AeadAlgorithm`; a constructor that panics is `none`. -/
structure Tls12AeadAlgorithm where
  encrypter : (key iv explicit : Bytes) → Option MessageEncrypter
  decrypter : (key iv : Bytes) → Option MessageDecrypter
  keyBlockShape : KeyBlockShape

/-! ## The ciphers of the provider -/

/-- `KeyInit::new_from_slice`; a cipher is identified with its key. -/
def newFromSlice (cipher : DetachedAead) (key : Bytes) : Option Bytes :=
  if key.length = cipher.keySize then some key else none

/-- The answer of a cipher as a `Result` with the given error. -/
def orError (answer : Option Bytes) (error : RecordError) : Except RecordError Bytes :=
  match answer with
  | some bytes => .ok bytes
  | none => .error error

section Tls13

variable (cipher : DetachedAead) (overhead : Nat)

/-- `encrypted_payload_len` of the TLS 1.3 ciphers. -/
def tls13EncryptedPayloadLen (payloadLen : Nat) : Nat := payloadLen + 1 + overhead

/-- `encrypt` of the TLS 1.3 ciphers. -/
def tls13Encrypt (key : Bytes) (iv : Iv) (message : PlainMessage) (seq : UInt64) :
    Except RecordError OpaqueMessage := do
  let totalLen := tls13EncryptedPayloadLen overhead message.payload.length
  let nonce := nonceNew iv seq
  let aad := makeTls13Aad totalLen
  let payload := message.payload ++ [message.typ.code]
  let payload ← orError (cipher.encryptInPlace key nonce aad payload) .encryptError
  pure ⟨.applicationData, .tls12, payload⟩

/-- `decrypt` of the TLS 1.3 ciphers. -/
def tls13Decrypt (key : Bytes) (iv : Iv) (message : OpaqueMessage) (seq : UInt64) :
    Except RecordError PlainMessage := do
  let nonce := nonceNew iv seq
  let aad := makeTls13Aad message.payload.length
  let payload ← orError (cipher.decryptInPlace key nonce aad message.payload) .decryptError
  { message with payload }.intoTls13UnpaddedMessage

/-- A TLS 1.3 algorithm over a cipher. -/
def tls13Algorithm : Tls13AeadAlgorithm where
  encrypter key iv := (newFromSlice cipher key).map fun key =>
    ⟨tls13Encrypt cipher overhead key iv, tls13EncryptedPayloadLen overhead⟩
  decrypter key iv := (newFromSlice cipher key).map fun key => ⟨tls13Decrypt cipher key iv⟩
  keyLen := cipher.keySize

end Tls13

section Tls12Gcm

/-- `TLS12_GCM_EXPLICIT_NONCE_LEN`. -/
def tls12GcmExplicitNonceLen : Nat := 8

/-- `TLS12_GCM_OVERHEAD`. -/
def tls12GcmOverhead : Nat := tls12GcmExplicitNonceLen + 16

variable (cipher : DetachedAead)

/-- `encrypted_payload_len` of the TLS 1.2 GCM ciphers. -/
def tls12GcmEncryptedPayloadLen (payloadLen : Nat) : Nat :=
  payloadLen + tls12GcmExplicitNonceLen + cipher.tagSize

/-- `encrypt` of the TLS 1.2 GCM ciphers: the payload behind the explicit nonce is encrypted in
place and the tag is appended. -/
def tls12GcmEncrypt (key : Bytes) (iv : Iv) (message : PlainMessage) (seq : UInt64) :
    Except RecordError OpaqueMessage :=
  let nonce := nonceNew iv seq
  let aad := makeTls12Aad seq message.typ message.version message.payload.length
  let payload := nonce.drop 4 ++ message.payload
  match cipher.encrypt key nonce aad (payload.drop tls12GcmExplicitNonceLen) with
  | some (ciphertext, tag) =>
      let payload := payload.take tls12GcmExplicitNonceLen ++ ciphertext ++ tag
      .ok ⟨message.typ, message.version, payload⟩
  | none => .error .encryptError

/-- `decrypt` of the TLS 1.2 GCM ciphers.  The message is decrypted where it stands, between the
explicit nonce and the tag; then the nonce is rotated to the end and cut off with the tag. -/
def tls12GcmDecrypt (key : Bytes) (decIv : Vector UInt8 4) (message : OpaqueMessage)
    (seq : UInt64) : Except RecordError PlainMessage :=
  let payload := message.payload
  if payload.length < tls12GcmOverhead then .error .decryptError
  else
    let nonce := decIv.toList ++ payload.take tls12GcmExplicitNonceLen
    let aad := makeTls12Aad seq message.typ message.version (payload.length - tls12GcmOverhead)
    let body := payload.drop tls12GcmExplicitNonceLen
    let tagPos := body.length - cipher.tagSize
    match cipher.decrypt key nonce aad (body.take tagPos) (body.drop tagPos) with
    | some plaintext =>
        let payload := payload.take tls12GcmExplicitNonceLen ++ plaintext ++ body.drop tagPos
        let payload := payload.rotate tls12GcmExplicitNonceLen
        let payload := payload.take tagPos
        .ok { message with payload }.intoPlainMessage
    | none => .error .decryptError

/-- A TLS 1.2 GCM algorithm over a cipher. -/
def tls12GcmAlgorithm : Tls12AeadAlgorithm where
  encrypter key writeIv explicit := do
    let key ← newFromSlice cipher key
    let writeIv ← FixedLength.ofList? 4 writeIv
    let explicit ← FixedLength.ofList? 8 explicit
    let iv : Iv := writeIv ++ explicit
    pure ⟨tls12GcmEncrypt cipher key iv, tls12GcmEncryptedPayloadLen cipher⟩
  decrypter decKey decIv := do
    let key ← newFromSlice cipher decKey
    let decIv ← FixedLength.ofList? 4 decIv
    pure ⟨tls12GcmDecrypt cipher key decIv⟩
  keyBlockShape :=
    { encKeyLen := cipher.keySize
      fixedIvLen := 4
      explicitNonceLen := 8 }

end Tls12Gcm

section Chacha20

/-- `CHACHAPOLY1305_OVERHEAD`. -/
def chachaPoly1305Overhead : Nat := 16

variable (cipher : DetachedAead)

/-- `encrypted_payload_len` of the TLS 1.2 ChaCha cipher. -/
def tls12ChachaEncryptedPayloadLen (payloadLen : Nat) : Nat := payloadLen + chachaPoly1305Overhead

/-- `encrypt` of the TLS 1.2 ChaCha cipher. -/
def tls12ChachaEncrypt (key : Bytes) (iv : Iv) (message : PlainMessage) (seq : UInt64) :
    Except RecordError OpaqueMessage := do
  let nonce := nonceNew iv seq
  let aad := makeTls12Aad seq message.typ message.version message.payload.length
  let payload ← orError (cipher.encryptInPlace key nonce aad message.payload) .encryptError
  pure ⟨message.typ, message.version, payload⟩

/-- `decrypt` of the TLS 1.2 ChaCha cipher.  The subtraction is of type `usize` and wraps. -/
def tls12ChachaDecrypt (key : Bytes) (iv : Iv) (message : OpaqueMessage) (seq : UInt64) :
    Except RecordError PlainMessage := do
  let nonce := nonceNew iv seq
  let len := (message.payload.length + 2 ^ 64 - chachaPoly1305Overhead) % 2 ^ 64
  let aad := makeTls12Aad seq message.typ message.version len
  let payload ← orError (cipher.decryptInPlace key nonce aad message.payload) .decryptError
  pure { message with payload }.intoPlainMessage

/-- The TLS 1.2 ChaCha algorithm over a cipher. -/
def tls12ChachaAlgorithm : Tls12AeadAlgorithm where
  encrypter key iv _ := do
    let key ← newFromSlice cipher key
    let iv ← FixedLength.ofList? 12 iv
    pure ⟨tls12ChachaEncrypt cipher key iv, tls12ChachaEncryptedPayloadLen⟩
  decrypter key iv := do
    let key ← newFromSlice cipher key
    let iv ← FixedLength.ofList? 12 iv
    pure ⟨tls12ChachaDecrypt cipher key iv⟩
  keyBlockShape :=
    { encKeyLen := 32
      fixedIvLen := 12
      explicitNonceLen := 0 }

end Chacha20

/-! ## The six algorithms -/

/-- The ciphers of RustCrypto. -/
structure RustCrypto where
  aes128Gcm : DetachedAead
  aes256Gcm : DetachedAead
  chacha20Poly1305 : DetachedAead

/-- What the documentation of a cipher says: its key length, 12-byte nonces, 16-byte tags and
messages of up to 64 GiB. -/
structure Documented (cipher : DetachedAead) (keySize : Nat) : Prop where
  keySize_eq : cipher.keySize = keySize
  nonceSize_eq : cipher.nonceSize = 12
  tagSize_eq : cipher.tagSize = 16
  limit_ge : 2 ^ 36 ≤ cipher.limit

/-- The three ciphers are as documented. -/
structure RustCrypto.Documented (ciphers : RustCrypto) : Prop where
  aes128Gcm : OxiTls.Documented ciphers.aes128Gcm 16
  aes256Gcm : OxiTls.Documented ciphers.aes256Gcm 32
  chacha20Poly1305 : OxiTls.Documented ciphers.chacha20Poly1305 32

/-- The cipher of a suite. -/
inductive SuiteCipher
  | aes128Gcm
  | aes256Gcm
  | chacha20Poly1305
  deriving DecidableEq, Repr

/-- The cipher under its name. -/
def RustCrypto.ofSuite (ciphers : RustCrypto) : SuiteCipher → DetachedAead
  | .aes128Gcm => ciphers.aes128Gcm
  | .aes256Gcm => ciphers.aes256Gcm
  | .chacha20Poly1305 => ciphers.chacha20Poly1305

section Algorithms

variable (ciphers : RustCrypto)

/-- `Tls13Aes128Gcm`. -/
def tls13Aes128Gcm : Tls13AeadAlgorithm := tls13Algorithm ciphers.aes128Gcm 16

/-- `Tls13Aes256Gcm`. -/
def tls13Aes256Gcm : Tls13AeadAlgorithm := tls13Algorithm ciphers.aes256Gcm 16

/-- `Chacha20Poly1305` as a TLS 1.3 algorithm. -/
def tls13Chacha20Poly1305 : Tls13AeadAlgorithm :=
  tls13Algorithm ciphers.chacha20Poly1305 chachaPoly1305Overhead

/-- `Tls12Aes128Gcm`. -/
def tls12Aes128Gcm : Tls12AeadAlgorithm := tls12GcmAlgorithm ciphers.aes128Gcm

/-- `Tls12Aes256Gcm`. -/
def tls12Aes256Gcm : Tls12AeadAlgorithm := tls12GcmAlgorithm ciphers.aes256Gcm

/-- `Chacha20Poly1305` as a TLS 1.2 algorithm. -/
def tls12Chacha20Poly1305 : Tls12AeadAlgorithm := tls12ChachaAlgorithm ciphers.chacha20Poly1305

/-- The TLS 1.3 algorithm of a suite. -/
def tls13Of : SuiteCipher → Tls13AeadAlgorithm
  | .aes128Gcm => tls13Aes128Gcm ciphers
  | .aes256Gcm => tls13Aes256Gcm ciphers
  | .chacha20Poly1305 => tls13Chacha20Poly1305 ciphers

/-- The TLS 1.2 algorithm of a suite. -/
def tls12Of : SuiteCipher → Tls12AeadAlgorithm
  | .aes128Gcm => tls12Aes128Gcm ciphers
  | .aes256Gcm => tls12Aes256Gcm ciphers
  | .chacha20Poly1305 => tls12Chacha20Poly1305 ciphers

end Algorithms

/-- With every key of the right length and every IV, a message encrypts to the announced length and
decrypts to its payload and content type, whatever type and version the record claims. -/
def Tls13AeadAlgorithm.RoundTrips (algorithm : Tls13AeadAlgorithm) (message : PlainMessage)
    (seq : UInt64) : Prop :=
  ∀ key iv, key.length = algorithm.keyLen →
    ∃ encrypter decrypter record,
      algorithm.encrypter key iv = some encrypter ∧ algorithm.decrypter key iv = some decrypter ∧
      encrypter.encrypt message seq = .ok record ∧
      record.payload.length = encrypter.encryptedPayloadLen message.payload.length ∧
      ∀ typ version, decrypter.decrypt ⟨typ, version, record.payload⟩ seq =
        .ok ⟨message.typ, .tls13, message.payload⟩

/-- With every key, IV and explicit nonce of the right lengths, a message encrypts to the announced
length and decrypts to itself. -/
def Tls12AeadAlgorithm.RoundTrips (algorithm : Tls12AeadAlgorithm) (message : PlainMessage)
    (seq : UInt64) : Prop :=
  ∀ key iv explicit, key.length = algorithm.keyBlockShape.encKeyLen →
    iv.length = algorithm.keyBlockShape.fixedIvLen →
    explicit.length = algorithm.keyBlockShape.explicitNonceLen →
    ∃ encrypter decrypter record,
      algorithm.encrypter key iv explicit = some encrypter ∧
      algorithm.decrypter key iv = some decrypter ∧
      encrypter.encrypt message seq = .ok record ∧
      record.payload.length = encrypter.encryptedPayloadLen message.payload.length ∧
      decrypter.decrypt ⟨message.typ, message.version, record.payload⟩ seq = .ok message

/-! ## Nonces, associated data and padding -/

theorem nonceNew_eq_counterNonce (iv : Iv) (seq : UInt64) :
    nonceNew iv seq = counterNonce iv.toList seq :=
  CounterNonce.zipWith_xor_encode iv.length_toList seq

theorem length_nonceNew (iv : Iv) (seq : UInt64) : (nonceNew iv seq).length = 12 := by
  rw [nonceNew_eq_counterNonce]
  exact CounterNonce.length_counterNonce iv.length_toList seq

/-- The fixed part of the IV and the explicit part of the nonce make up the nonce. -/
theorem nonceNew_append (fixed : Vector UInt8 4) (explicit : Vector UInt8 8) (seq : UInt64) :
    fixed.toList ++ (nonceNew (fixed ++ explicit) seq).drop 4 =
      nonceNew (fixed ++ explicit) seq := by
  have front : (nonceNew (fixed ++ explicit) seq).take 4 = fixed.toList := by
    rw [nonceNew_eq_counterNonce, CounterNonce.take_counterNonce (Vector.length_toList),
      Vector.toList_append, FixedLength.take_append]
  nth_rewrite 1 [← front]
  exact List.take_append_drop 4 _

theorem length_makeTls13Aad (payloadLen : Nat) : (makeTls13Aad payloadLen).length = 5 := by
  rw [makeTls13Aad, List.length_append, List.length_cons, BigEndian.length_encode,
    BigEndian.length_encode]

theorem length_makeTls12Aad (seq : UInt64) (typ : ContentType) (version : WireVersion) (len : Nat) :
    (makeTls12Aad seq typ version len).length = 13 := by
  rw [makeTls12Aad, List.length_append, List.length_append, List.length_cons,
    BigEndian.length_encode, BigEndian.length_encode, BigEndian.length_encode]

/-- Unpadding takes the content type off again. -/
theorem unpadReversed_append (payload : Bytes) {typ : ContentType} (nonzero : typ.code ≠ 0) :
    unpadReversed (payload ++ [typ.code]).reverse = (typ, payload) := by
  rw [List.reverse_append, List.reverse_singleton, List.singleton_append, unpadReversed,
    if_neg nonzero, ContentType.ofCode_code, List.reverse_reverse]

theorem intoTls13UnpaddedMessage_append {message : OpaqueMessage} {payload : Bytes}
    {typ : ContentType} (nonzero : typ.code ≠ 0) (bounded : payload.length ≤ maxFragmentLen)
    (padded : message.payload = payload ++ [typ.code]) :
    message.intoTls13UnpaddedMessage = .ok ⟨typ, .tls13, payload⟩ := by
  have short : ¬ message.payload.length > maxFragmentLen + 1 := by
    rw [padded, List.length_append, List.length_singleton]
    omega
  have typed : typ ≠ .ofCode 0 := by
    rintro rfl
    exact nonzero (by decide)
  rw [OpaqueMessage.intoTls13UnpaddedMessage, if_neg short, padded, unpadReversed_append _ nonzero]
  simp only [if_neg typed, if_neg (Nat.not_lt.mpr bounded)]

/-! ## Round trips -/

section RoundTrip

variable {cipher : DetachedAead} {keySize : Nat} {key : Bytes} {message : PlainMessage}

theorem fits_limit (documented : Documented cipher keySize) {length : Nat}
    (small : length ≤ maxFragmentLen + 1) : length ≤ cipher.limit := by
  have limit := documented.limit_ge
  have fragment : maxFragmentLen = 16384 := rfl
  omega

theorem makeTls12Aad_fits (documented : Documented cipher keySize) (seq : UInt64)
    (typ : ContentType) (version : WireVersion) (len : Nat) :
    (makeTls12Aad seq typ version len).length ≤ cipher.limit := by
  rw [length_makeTls12Aad]
  exact fits_limit documented (by decide)

theorem tls13_decrypt_encrypt (documented : Documented cipher keySize)
    (keyFits : key.length = cipher.keySize) (iv : Iv) (nonzero : message.typ.code ≠ 0)
    (bounded : message.payload.length ≤ maxFragmentLen) (seq : UInt64) :
    ∃ record, tls13Encrypt cipher 16 key iv message seq = .ok record ∧
      record.payload.length = tls13EncryptedPayloadLen 16 message.payload.length ∧
      ∀ typ version, tls13Decrypt cipher key iv ⟨typ, version, record.payload⟩ seq =
        .ok ⟨message.typ, .tls13, message.payload⟩ := by
  have inner : (message.payload ++ [message.typ.code]).length = message.payload.length + 1 := by
    rw [List.length_append, List.length_singleton]
  have aadFits (len : Nat) : (makeTls13Aad len).length ≤ cipher.limit := by
    rw [length_makeTls13Aad]
    exact fits_limit documented (by decide)
  have innerFits : (message.payload ++ [message.typ.code]).length ≤ cipher.limit := by
    rw [inner]
    exact fits_limit documented (by omega)
  obtain ⟨sealed, encrypted⟩ := DetachedAead.exists_encryptInPlace keyFits
    ((length_nonceNew iv seq).trans documented.nonceSize_eq.symm)
    (aadFits (tls13EncryptedPayloadLen 16 message.payload.length)) innerFits
  have length : sealed.length = tls13EncryptedPayloadLen 16 message.payload.length := by
    rw [DetachedAead.length_encryptInPlace encrypted, inner, documented.tagSize_eq,
      tls13EncryptedPayloadLen]
  refine ⟨⟨.applicationData, .tls12, sealed⟩, ?_, length, fun typ version => ?_⟩
  · simp only [tls13Encrypt, encrypted, orError]
    rfl
  · simp only [tls13Decrypt, length, DetachedAead.decryptInPlace_encryptInPlace encrypted, orError]
    exact intoTls13UnpaddedMessage_append nonzero bounded rfl

theorem tls12Chacha_decrypt_encrypt (documented : Documented cipher keySize)
    (keyFits : key.length = cipher.keySize) (iv : Iv)
    (bounded : message.payload.length ≤ maxFragmentLen) (seq : UInt64) :
    ∃ payload, tls12ChachaEncrypt cipher key iv message seq =
        .ok ⟨message.typ, message.version, payload⟩ ∧
      payload.length = tls12ChachaEncryptedPayloadLen message.payload.length ∧
      tls12ChachaDecrypt cipher key iv ⟨message.typ, message.version, payload⟩ seq =
        .ok message := by
  have payloadFits : message.payload.length ≤ cipher.limit := fits_limit documented (by omega)
  obtain ⟨sealed, encrypted⟩ := DetachedAead.exists_encryptInPlace keyFits
    ((length_nonceNew iv seq).trans documented.nonceSize_eq.symm)
    (makeTls12Aad_fits documented seq message.typ message.version message.payload.length)
    payloadFits
  have length : sealed.length = message.payload.length + 16 := by
    rw [DetachedAead.length_encryptInPlace encrypted, documented.tagSize_eq]
  have difference : (sealed.length + 2 ^ 64 - chachaPoly1305Overhead) % 2 ^ 64 =
      message.payload.length := by
    have fragment : maxFragmentLen = 16384 := rfl
    rw [length, chachaPoly1305Overhead]
    omega
  refine ⟨sealed, ?_, length, ?_⟩
  · simp only [tls12ChachaEncrypt, encrypted, orError]
    rfl
  · simp only [tls12ChachaDecrypt, difference,
      DetachedAead.decryptInPlace_encryptInPlace encrypted, orError]
    rfl

/-- The GCM record is the explicit nonce, the ciphertext and the tag. -/
theorem tls12GcmEncrypt_eq {iv : Iv} {seq : UInt64} {ciphertext tag : Bytes}
    (encrypted : cipher.encrypt key (nonceNew iv seq)
      (makeTls12Aad seq message.typ message.version message.payload.length) message.payload =
        some (ciphertext, tag)) :
    tls12GcmEncrypt cipher key iv message seq =
      .ok ⟨message.typ, message.version, (nonceNew iv seq).drop 4 ++ (ciphertext ++ tag)⟩ := by
  have eight : ((nonceNew iv seq).drop 4).length = tls12GcmExplicitNonceLen := by
    rw [List.length_drop, length_nonceNew]
    rfl
  simp only [tls12GcmEncrypt, List.drop_left' eight, List.take_left' eight, encrypted,
    List.append_assoc]

/-- The GCM decrypter finds the nonce, the ciphertext and the tag in such a record, and leaves the
plaintext after rotating and truncating. -/
theorem tls12GcmDecrypt_eq (documented : Documented cipher keySize) {fixed : Vector UInt8 4}
    {explicit nonce ciphertext tag : Bytes} {seq : UInt64}
    (eight : explicit.length = tls12GcmExplicitNonceLen)
    (rebuilt : fixed.toList ++ explicit = nonce)
    (encrypted : cipher.encrypt key nonce
      (makeTls12Aad seq message.typ message.version message.payload.length) message.payload =
        some (ciphertext, tag)) :
    tls12GcmDecrypt cipher key fixed
      ⟨message.typ, message.version, explicit ++ (ciphertext ++ tag)⟩ seq = .ok message := by
  have length : (explicit ++ (ciphertext ++ tag)).length =
      message.payload.length + tls12GcmOverhead := by
    rw [List.length_append, List.length_append, eight, cipher.length_ciphertext encrypted,
      cipher.length_tag encrypted, documented.tagSize_eq, tls12GcmOverhead]
    omega
  obtain ⟨tagPos, taken, dropped⟩ := DetachedAead.take_drop_ciphertext encrypted
  have longEnough : ¬ (explicit ++ (ciphertext ++ tag)).length < tls12GcmOverhead := by
    rw [length]
    omega
  have aadLength : (explicit ++ (ciphertext ++ tag)).length - tls12GcmOverhead =
      message.payload.length := by
    rw [length, Nat.add_sub_cancel]
  have rotated : (explicit ++ message.payload ++ tag).rotate tls12GcmExplicitNonceLen =
      message.payload ++ (tag ++ explicit) := by
    rw [← eight, List.append_assoc, List.rotate_append_length_eq, List.append_assoc]
  simp only [tls12GcmDecrypt, if_neg longEnough, aadLength, List.take_left' eight,
    List.drop_left' eight, tagPos, taken, dropped, rebuilt, cipher.decrypts encrypted, rotated,
    List.take_left' rfl]
  rfl

/-- From the record the decrypter computes the nonce and the length of the plaintext that the
encrypter used, and it returns the message. -/
theorem tls12Gcm_decrypt_encrypt (documented : Documented cipher keySize)
    (keyFits : key.length = cipher.keySize) (fixed : Vector UInt8 4) (explicit : Vector UInt8 8)
    (bounded : message.payload.length ≤ maxFragmentLen) (seq : UInt64) :
    ∃ payload, tls12GcmEncrypt cipher key (fixed ++ explicit) message seq =
        .ok ⟨message.typ, message.version, payload⟩ ∧
      payload.length = tls12GcmEncryptedPayloadLen cipher message.payload.length ∧
      fixed.toList ++ payload.take 8 = nonceNew (fixed ++ explicit) seq ∧
      payload.length - tls12GcmOverhead = message.payload.length ∧
      tls12GcmDecrypt cipher key fixed ⟨message.typ, message.version, payload⟩ seq =
        .ok message := by
  have payloadFits : message.payload.length ≤ cipher.limit := fits_limit documented (by omega)
  obtain ⟨ciphertext, tag, encrypted⟩ := cipher.encrypts keyFits
    ((length_nonceNew (fixed ++ explicit) seq).trans documented.nonceSize_eq.symm)
    (makeTls12Aad_fits documented seq message.typ message.version message.payload.length)
    payloadFits
  have eight : ((nonceNew (fixed ++ explicit) seq).drop 4).length = 8 := by
    rw [List.length_drop, length_nonceNew]
  have rebuilt := nonceNew_append fixed explicit seq
  have length : ((nonceNew (fixed ++ explicit) seq).drop 4 ++ (ciphertext ++ tag)).length =
      message.payload.length + 8 + 16 := by
    rw [List.length_append, List.length_append, eight, cipher.length_ciphertext encrypted,
      cipher.length_tag encrypted, documented.tagSize_eq]
    omega
  refine ⟨_, tls12GcmEncrypt_eq encrypted, ?_, ?_, ?_,
    tls12GcmDecrypt_eq documented eight rebuilt encrypted⟩
  · rw [length, tls12GcmEncryptedPayloadLen, documented.tagSize_eq]
    rfl
  · rw [List.take_left' eight, rebuilt]
  · rw [length, tls12GcmOverhead, tls12GcmExplicitNonceLen, Nat.add_assoc, Nat.add_sub_cancel]

theorem newFromSlice_eq_some (keyFits : key.length = cipher.keySize) :
    newFromSlice cipher key = some key := if_pos keyFits

theorem tls13Algorithm_roundTrips (documented : Documented cipher keySize)
    (nonzero : message.typ.code ≠ 0) (bounded : message.payload.length ≤ maxFragmentLen)
    (seq : UInt64) : (tls13Algorithm cipher 16).RoundTrips message seq := by
  intro key iv keyFits
  obtain ⟨record, encrypted, length, decrypted⟩ :=
    tls13_decrypt_encrypt documented keyFits iv nonzero bounded seq
  refine ⟨⟨tls13Encrypt cipher 16 key iv, tls13EncryptedPayloadLen 16⟩,
    ⟨tls13Decrypt cipher key iv⟩, record, ?_, ?_, encrypted, length, decrypted⟩
  · simp only [tls13Algorithm, newFromSlice_eq_some keyFits]
    rfl
  · simp only [tls13Algorithm, newFromSlice_eq_some keyFits]
    rfl

theorem tls12GcmAlgorithm_roundTrips (documented : Documented cipher keySize)
    (bounded : message.payload.length ≤ maxFragmentLen) (seq : UInt64) :
    (tls12GcmAlgorithm cipher).RoundTrips message seq := by
  intro key iv explicit keyFits (ivFits : iv.length = 4) (explicitFits : explicit.length = 8)
  obtain ⟨iv, rfl⟩ := FixedLength.exists_toList ivFits
  obtain ⟨explicit, rfl⟩ := FixedLength.exists_toList explicitFits
  obtain ⟨payload, encrypted, length, -, -, decrypted⟩ :=
    tls12Gcm_decrypt_encrypt documented keyFits iv explicit bounded seq
  refine ⟨⟨tls12GcmEncrypt cipher key (iv ++ explicit), tls12GcmEncryptedPayloadLen cipher⟩,
    ⟨tls12GcmDecrypt cipher key iv⟩, _, ?_, ?_, encrypted, length, decrypted⟩
  · simp only [tls12GcmAlgorithm, newFromSlice_eq_some keyFits, FixedLength.ofList?_toList]
    rfl
  · simp only [tls12GcmAlgorithm, newFromSlice_eq_some keyFits, FixedLength.ofList?_toList]
    rfl

theorem tls12ChachaAlgorithm_roundTrips (documented : Documented cipher 32)
    (bounded : message.payload.length ≤ maxFragmentLen) (seq : UInt64) :
    (tls12ChachaAlgorithm cipher).RoundTrips message seq := by
  intro key iv explicit keyFits (ivFits : iv.length = 12) _
  have keyFits : key.length = cipher.keySize := keyFits.trans documented.keySize_eq.symm
  obtain ⟨iv, rfl⟩ := FixedLength.exists_toList ivFits
  obtain ⟨payload, encrypted, length, decrypted⟩ :=
    tls12Chacha_decrypt_encrypt documented keyFits iv bounded seq
  refine ⟨⟨tls12ChachaEncrypt cipher key iv, tls12ChachaEncryptedPayloadLen⟩,
    ⟨tls12ChachaDecrypt cipher key iv⟩, _, ?_, ?_, encrypted, length, decrypted⟩
  · simp only [tls12ChachaAlgorithm, newFromSlice_eq_some keyFits, FixedLength.ofList?_toList]
    rfl
  · simp only [tls12ChachaAlgorithm, newFromSlice_eq_some keyFits, FixedLength.ofList?_toList]
    rfl

end RoundTrip

/-- Each of the six algorithms gives back what it protected.  In a TLS 1.2 GCM record the decrypter
finds the nonce and the plaintext length that the encrypter used. -/
theorem records_round_trip (ciphers : RustCrypto) (documented : ciphers.Documented)
    (message : PlainMessage) (nonzero : message.typ.code ≠ 0)
    (bounded : message.payload.length ≤ maxFragmentLen) (seq : UInt64) :
    (∀ suite, (tls13Of ciphers suite).RoundTrips message seq) ∧
      (∀ suite, (tls12Of ciphers suite).RoundTrips message seq) ∧
      ∀ cipher ∈ [ciphers.aes128Gcm, ciphers.aes256Gcm],
        ∀ (key : Bytes) (fixed : Vector UInt8 4) (explicit : Vector UInt8 8),
          key.length = cipher.keySize →
          ∃ payload, tls12GcmEncrypt cipher key (fixed ++ explicit) message seq =
              .ok ⟨message.typ, message.version, payload⟩ ∧
            fixed.toList ++ payload.take 8 = nonceNew (fixed ++ explicit) seq ∧
            payload.length - tls12GcmOverhead = message.payload.length := by
  refine ⟨fun suite => ?_, fun suite => ?_, fun cipher member key fixed explicit keyFits => ?_⟩
  · cases suite with
    | aes128Gcm => exact tls13Algorithm_roundTrips documented.aes128Gcm nonzero bounded seq
    | aes256Gcm => exact tls13Algorithm_roundTrips documented.aes256Gcm nonzero bounded seq
    | chacha20Poly1305 =>
        exact tls13Algorithm_roundTrips documented.chacha20Poly1305 nonzero bounded seq
  · cases suite with
    | aes128Gcm => exact tls12GcmAlgorithm_roundTrips documented.aes128Gcm bounded seq
    | aes256Gcm => exact tls12GcmAlgorithm_roundTrips documented.aes256Gcm bounded seq
    | chacha20Poly1305 =>
        exact tls12ChachaAlgorithm_roundTrips documented.chacha20Poly1305 bounded seq
  · have gcm : ∃ keySize, Documented cipher keySize := by
      rcases List.mem_pair.mp member with rfl | rfl
      · exact ⟨16, documented.aes128Gcm⟩
      · exact ⟨32, documented.aes256Gcm⟩
    obtain ⟨keySize, documented⟩ := gcm
    obtain ⟨payload, encrypted, -, nonce, length, -⟩ :=
      tls12Gcm_decrypt_encrypt documented keyFits fixed explicit bounded seq
    exact ⟨payload, encrypted, nonce, length⟩

/-- The pad of a miniature cipher: the sum of the bytes of the key, the nonce and the associated
data. -/
def miniaturePad (key nonce aad : Bytes) : UInt8 := (key ++ nonce ++ aad).foldl (· + ·) 0

/-- A cipher that adds its pad to every byte and repeats it as the tag. -/
def miniatureCipher (keySize : Nat) : DetachedAead where
  keySize := keySize
  nonceSize := 12
  tagSize := 16
  limit := 2 ^ 36
  encrypt key nonce aad message :=
    some (message.map (· ^^^ miniaturePad key nonce aad),
      List.replicate 16 (miniaturePad key nonce aad))
  decrypt key nonce aad ciphertext tag :=
    if tag = List.replicate 16 (miniaturePad key nonce aad) then
      some (ciphertext.map (· ^^^ miniaturePad key nonce aad))
    else none
  encrypts _ _ _ _ := ⟨_, _, rfl⟩
  length_ciphertext encrypted := by
    obtain ⟨rfl, -⟩ := Prod.mk.inj (Option.some.inj encrypted)
    exact List.length_map _
  length_tag encrypted := by
    obtain ⟨-, rfl⟩ := Prod.mk.inj (Option.some.inj encrypted)
    exact List.length_replicate
  decrypts encrypted := by
    obtain ⟨rfl, rfl⟩ := Prod.mk.inj (Option.some.inj encrypted)
    rw [if_pos rfl, List.map_map]
    refine congrArg some ((List.map_congr_left fun byte _ => ?_).trans (List.map_id _))
    rw [Function.comp_apply, UInt8.xor_assoc, UInt8.xor_self, UInt8.xor_zero, id]

theorem miniatureCipher_documented (keySize : Nat) :
    Documented (miniatureCipher keySize) keySize :=
  ⟨rfl, rfl, rfl, Nat.le_refl _⟩

/-- The miniature ciphers as the ciphers of the provider. -/
def miniatureCiphers : RustCrypto := ⟨miniatureCipher 16, miniatureCipher 32, miniatureCipher 32⟩

theorem miniatureCiphers_documented : miniatureCiphers.Documented :=
  ⟨miniatureCipher_documented 16, miniatureCipher_documented 32, miniatureCipher_documented 32⟩

theorem records_round_trip_miniature :
    (tls12Of ⟨miniatureCipher 16, miniatureCipher 32, miniatureCipher 32⟩ .aes128Gcm).RoundTrips
      ⟨.handshake, .tls12, [1, 0, 0]⟩ 5 :=
  (records_round_trip ⟨miniatureCipher 16, miniatureCipher 32, miniatureCipher 32⟩
    ⟨miniatureCipher_documented 16, miniatureCipher_documented 32, miniatureCipher_documented 32⟩
    ⟨.handshake, .tls12, [1, 0, 0]⟩ (by decide) (by decide) 5).2.1 .aes128Gcm

end OxiTls
