import Mathlib.Algebra.Group.Nat.Defs
import OxiTls.Library.SequencedChannel
import OxiTls.Provider.Records

/-!
# Streams of records

The record ciphers under the sequence numbers of a connection: rustls encrypts the `n`-th message of
a direction with sequence number `n` and decrypts with the number of messages it has read.  The
network is free to drop, repeat, reorder and invent records.  TLS 1.3 and ChaCha20 bind a record to
its position by the nonce; the TLS 1.2 GCM decrypter takes the nonce from the record, and only the
associated data tells it the position.
-/

namespace OxiTls

open SequencedChannel

/-- `SEQ_HARD_LIMIT`: rustls refuses to encrypt with this sequence number. -/
def seqHardLimit : Nat := 2 ^ 64 - 2

/-- A message that rustls hands to an encrypter: a fragment with a content type. -/
def PlainMessage.Fragment (message : PlainMessage) : Prop :=
  message.typ.code ≠ 0 ∧ message.payload.length ≤ maxFragmentLen

instance (message : PlainMessage) : Decidable message.Fragment := by
  unfold PlainMessage.Fragment
  infer_instance

theorem PlainMessage.eq_of_parts {left right : PlainMessage} (typ : left.typ = right.typ)
    (version : left.version = right.version) (payload : left.payload = right.payload) :
    left = right := by
  cases left
  cases right
  simp only at typ version payload
  rw [typ, version, payload]

/-- The stream that an encrypter and a decrypter make. -/
def recordStream (encrypter : MessageEncrypter) (decrypter : MessageDecrypter)
    (view : PlainMessage → PlainMessage) : Protection PlainMessage PlainMessage OpaqueMessage where
  protect message position :=
    if message.Fragment then (encrypter.encrypt message (.ofNat position)).toOption else none
  unprotect record position := (decrypter.decrypt record (.ofNat position)).toOption
  view := view
  limit := seqHardLimit

/-- The input of one use of a cipher. -/
structure CipherInput where
  nonce : Bytes
  aad : Bytes
  plaintext : Bytes
  deriving DecidableEq, Repr

/-! ## What the ciphers are asked -/

section Asked

variable (cipher : DetachedAead) (key : Bytes)

/-- What `encrypt` of the TLS 1.3 ciphers asks of the cipher. -/
def tls13Sealing (overhead : Nat) (iv : Iv) (message : PlainMessage) (seq : UInt64) :
    CipherInput where
  nonce := nonceNew iv seq
  aad := makeTls13Aad (tls13EncryptedPayloadLen overhead message.payload.length)
  plaintext := message.payload ++ [message.typ.code]

/-- What `decrypt` of the TLS 1.3 ciphers gets out of the cipher. -/
def tls13Opened (iv : Iv) (record : OpaqueMessage) (seq : UInt64) : Option CipherInput :=
  let nonce := nonceNew iv seq
  let aad := makeTls13Aad record.payload.length
  (cipher.decryptInPlace key nonce aad record.payload).map (⟨nonce, aad, ·⟩)

/-- What `encrypt` of the TLS 1.2 ciphers asks of the cipher. -/
def tls12Sealing (iv : Iv) (message : PlainMessage) (seq : UInt64) : CipherInput where
  nonce := nonceNew iv seq
  aad := makeTls12Aad seq message.typ message.version message.payload.length
  plaintext := message.payload

/-- What `decrypt` of the TLS 1.2 ChaCha cipher gets out of the cipher. -/
def tls12ChachaOpened (iv : Iv) (record : OpaqueMessage) (seq : UInt64) : Option CipherInput :=
  let nonce := nonceNew iv seq
  let len := (record.payload.length + 2 ^ 64 - chachaPoly1305Overhead) % 2 ^ 64
  let aad := makeTls12Aad seq record.typ record.version len
  (cipher.decryptInPlace key nonce aad record.payload).map (⟨nonce, aad, ·⟩)

/-- What `decrypt` of the TLS 1.2 GCM ciphers gets out of the cipher. -/
def tls12GcmOpened (decIv : Vector UInt8 4) (record : OpaqueMessage) (seq : UInt64) :
    Option CipherInput :=
  if record.payload.length < tls12GcmOverhead then none
  else
    let nonce := decIv.toList ++ record.payload.take tls12GcmExplicitNonceLen
    let aad :=
      makeTls12Aad seq record.typ record.version (record.payload.length - tls12GcmOverhead)
    let body := record.payload.drop tls12GcmExplicitNonceLen
    let tagPos := body.length - cipher.tagSize
    (cipher.decrypt key nonce aad (body.take tagPos) (body.drop tagPos)).map (⟨nonce, aad, ·⟩)

variable {cipher key}

theorem orError_eq_ok_iff {answer : Option Bytes} {error : RecordError} {bytes : Bytes} :
    orError answer error = .ok bytes ↔ answer = some bytes := by
  cases answer <;> simp [orError]

/-- The cipher has encrypted this input. -/
def CipherInput.Encrypted (input : CipherInput) (cipher : DetachedAead) (key : Bytes) : Prop :=
  ∃ ciphertext tag,
    cipher.encrypt key input.nonce input.aad input.plaintext = some (ciphertext, tag)

theorem tls13Sealing_encrypted {overhead : Nat} {iv : Iv} {message : PlainMessage} {seq : UInt64}
    {record : OpaqueMessage} (ran : tls13Encrypt cipher overhead key iv message seq = .ok record) :
    (tls13Sealing overhead iv message seq).Encrypted cipher key := by
  simp only [tls13Encrypt, Except.bind_eq_ok_iff, orError_eq_ok_iff] at ran
  obtain ⟨payload, encrypted, -⟩ := ran
  obtain ⟨ciphertext, tag, encrypted, -⟩ := DetachedAead.encryptInPlace_eq_some encrypted
  exact ⟨ciphertext, tag, encrypted⟩

theorem tls12Chacha_sealing_encrypted {iv : Iv} {message : PlainMessage} {seq : UInt64}
    {record : OpaqueMessage} (ran : tls12ChachaEncrypt cipher key iv message seq = .ok record) :
    (tls12Sealing iv message seq).Encrypted cipher key := by
  simp only [tls12ChachaEncrypt, Except.bind_eq_ok_iff, orError_eq_ok_iff] at ran
  obtain ⟨payload, encrypted, -⟩ := ran
  obtain ⟨ciphertext, tag, encrypted, -⟩ := DetachedAead.encryptInPlace_eq_some encrypted
  exact ⟨ciphertext, tag, encrypted⟩

theorem tls12Gcm_sealing_encrypted {iv : Iv} {message : PlainMessage} {seq : UInt64}
    {record : OpaqueMessage} (ran : tls12GcmEncrypt cipher key iv message seq = .ok record) :
    (tls12Sealing iv message seq).Encrypted cipher key := by
  have eight : ((nonceNew iv seq).drop 4).length = tls12GcmExplicitNonceLen := by
    rw [List.length_drop, length_nonceNew]
    rfl
  simp only [tls12GcmEncrypt, List.drop_left' eight] at ran
  split at ran
  · next ciphertext tag encrypted => exact ⟨ciphertext, tag, encrypted⟩
  · cases ran

/-- The TLS 1.3 decrypter unpads what the cipher has opened. -/
theorem tls13Decrypt_eq_ok {iv : Iv} {record : OpaqueMessage} {seq : UInt64}
    {message : PlainMessage} (ran : tls13Decrypt cipher key iv record seq = .ok message) :
    ∃ plaintext, tls13Opened cipher key iv record seq =
        some ⟨nonceNew iv seq, makeTls13Aad record.payload.length, plaintext⟩ ∧
      { record with payload := plaintext }.intoTls13UnpaddedMessage = .ok message := by
  simp only [tls13Decrypt, Except.bind_eq_ok_iff, orError_eq_ok_iff] at ran
  obtain ⟨plaintext, decrypted, unpadded⟩ := ran
  exact ⟨plaintext, by rw [tls13Opened, decrypted, Option.map_some], unpadded⟩

theorem tls12ChachaDecrypt_eq_ok {iv : Iv} {record : OpaqueMessage} {seq : UInt64}
    {message : PlainMessage} (ran : tls12ChachaDecrypt cipher key iv record seq = .ok message) :
    ∃ len, tls12ChachaOpened cipher key iv record seq =
        some ⟨nonceNew iv seq, makeTls12Aad seq record.typ record.version len, message.payload⟩ ∧
      message.typ = record.typ ∧ message.version = record.version := by
  simp only [tls12ChachaDecrypt, Except.bind_eq_ok_iff, orError_eq_ok_iff,
    Except.pure_eq_ok_iff] at ran
  obtain ⟨plaintext, decrypted, rfl⟩ := ran
  exact ⟨_, by rw [tls12ChachaOpened, decrypted, Option.map_some]; rfl, rfl, rfl⟩

/-- Rotating a prefix to the end and cutting leaves what stood between prefix and suffix. -/
theorem take_rotate_append {front middle back : Bytes} {start length : Nat}
    (starts : front.length = start) (lasts : middle.length = length) :
    ((front ++ middle ++ back).rotate start).take length = middle := by
  rw [← starts, List.append_assoc, List.rotate_append_length_eq, List.append_assoc,
    List.take_left' lasts]

/-- The rotation and the cut of the TLS 1.2 GCM decrypter leave the plaintext. -/
theorem tls12GcmDecrypt_eq_ok (inPlace : cipher.InPlace) {decIv : Vector UInt8 4}
    {record : OpaqueMessage} {seq : UInt64} {message : PlainMessage}
    (ran : tls12GcmDecrypt cipher key decIv record seq = .ok message) :
    ∃ nonce len, tls12GcmOpened cipher key decIv record seq =
        some ⟨nonce, makeTls12Aad seq record.typ record.version len, message.payload⟩ ∧
      message.typ = record.typ ∧ message.version = record.version := by
  simp only [tls12GcmDecrypt] at ran
  split_ifs at ran with short
  split at ran
  case h_1 plaintext decrypted =>
    obtain rfl := Except.ok.inj ran
    have eight : (record.payload.take tls12GcmExplicitNonceLen).length =
        tls12GcmExplicitNonceLen := by
      rw [List.length_take, Nat.min_eq_left]
      have overhead : tls12GcmOverhead = tls12GcmExplicitNonceLen + 16 := rfl
      omega
    have length := inPlace decrypted
    rw [List.length_take, Nat.min_eq_left (Nat.sub_le _ _)] at length
    refine ⟨decIv.toList ++ record.payload.take tls12GcmExplicitNonceLen,
      record.payload.length - tls12GcmOverhead, ?_, rfl, rfl⟩
    simp only [tls12GcmOpened, if_neg short, decrypted, Option.map_some,
      OpaqueMessage.intoPlainMessage, take_rotate_append eight length]
  case h_2 => cases ran

end Asked

/-! ## Positions -/

theorem ContentType.code_injective {left right : ContentType} (same : left.code = right.code) :
    left = right := by
  rw [← ofCode_code left, same, ofCode_code]

/-- Sequence numbers below the hard limit are their positions. -/
theorem ofNat_injective {left right : Nat} (leftFits : left ≤ seqHardLimit)
    (rightFits : right ≤ seqHardLimit) (same : UInt64.ofNat left = UInt64.ofNat right) :
    left = right := by
  have limit : seqHardLimit < UInt64.size := by decide
  have values := congrArg UInt64.toNat same
  rwa [UInt64.toNat_ofNat_of_lt' (Nat.lt_of_le_of_lt leftFits limit),
    UInt64.toNat_ofNat_of_lt' (Nat.lt_of_le_of_lt rightFits limit)] at values

theorem nonceNew_injective {iv : Iv} {left right : UInt64}
    (same : nonceNew iv left = nonceNew iv right) : left = right := by
  rw [nonceNew_eq_counterNonce, nonceNew_eq_counterNonce] at same
  exact CounterNonce.counterNonce_injective iv.length_toList same

/-- The associated data of TLS 1.2 tells the sequence number, the type and the version. -/
theorem makeTls12Aad_injective {seq seq' : UInt64} {typ typ' : ContentType}
    {version version' : WireVersion} {len len' : Nat}
    (same : makeTls12Aad seq typ version len = makeTls12Aad seq' typ' version' len') :
    seq = seq' ∧ typ = typ' ∧ version = version' := by
  simp only [makeTls12Aad, List.append_assoc, List.cons_append] at same
  obtain ⟨numbers, same⟩ := List.append_inj same (by rw [BigEndian.length_encode,
    BigEndian.length_encode])
  obtain ⟨codes, same⟩ := List.cons.inj same
  obtain ⟨versions, -⟩ := List.append_inj same (by rw [BigEndian.length_encode,
    BigEndian.length_encode])
  have versionCodes :=
    BigEndian.encode_injective version.code.toNat_lt version'.code.toNat_lt versions
  refine ⟨UInt64.toNat.inj (BigEndian.encode_injective (CounterNonce.toNat_lt_pow seq)
    (CounterNonce.toNat_lt_pow seq') numbers), ContentType.code_injective codes, ?_⟩
  cases version
  cases version'
  exact congrArg WireVersion.mk (UInt16.toNat.inj versionCodes)

/-! ## Streams -/

section Streams

variable {cipher : DetachedAead} {keySize : Nat} {key : Bytes}

/-- The reader of a TLS 1.3 stream sees version 1.3. -/
def tls13View (message : PlainMessage) : PlainMessage := { message with version := .tls13 }

/-- The stream of a TLS 1.3 cipher. -/
def tls13Stream (cipher : DetachedAead) (key : Bytes) (iv : Iv) :
    Protection PlainMessage PlainMessage OpaqueMessage :=
  recordStream ⟨tls13Encrypt cipher 16 key iv, tls13EncryptedPayloadLen 16⟩
    ⟨tls13Decrypt cipher key iv⟩ tls13View

/-- The stream of a TLS 1.2 GCM cipher. -/
def tls12GcmStream (cipher : DetachedAead) (key : Bytes) (fixed : Vector UInt8 4)
    (explicit : Vector UInt8 8) : Protection PlainMessage PlainMessage OpaqueMessage :=
  recordStream ⟨tls12GcmEncrypt cipher key (fixed ++ explicit), tls12GcmEncryptedPayloadLen cipher⟩
    ⟨tls12GcmDecrypt cipher key fixed⟩ id

/-- The stream of the TLS 1.2 ChaCha cipher. -/
def tls12ChachaStream (cipher : DetachedAead) (key : Bytes) (iv : Iv) :
    Protection PlainMessage PlainMessage OpaqueMessage :=
  recordStream ⟨tls12ChachaEncrypt cipher key iv, tls12ChachaEncryptedPayloadLen⟩
    ⟨tls12ChachaDecrypt cipher key iv⟩ id

/-- Only fragments are protected. -/
theorem recordStream_protect_eq_some_iff {encrypter : MessageEncrypter}
    {decrypter : MessageDecrypter} {view : PlainMessage → PlainMessage} {message : PlainMessage}
    {position : Nat} {record : OpaqueMessage} :
    (recordStream encrypter decrypter view).protect message position = some record ↔
      message.Fragment ∧ encrypter.encrypt message (.ofNat position) = .ok record := by
  unfold recordStream
  dsimp only
  split_ifs with fragment
  · simp [fragment]
  · simp [fragment]

theorem recordStream_unprotect_eq_some_iff {encrypter : MessageEncrypter}
    {decrypter : MessageDecrypter} {view : PlainMessage → PlainMessage} {message : PlainMessage}
    {position : Nat} {record : OpaqueMessage} :
    (recordStream encrypter decrypter view).unprotect record position = some message ↔
      decrypter.decrypt record (.ofNat position) = .ok message :=
  Except.toOption_eq_some_iff

/-- In TLS 1.3 the nonce tells the position. -/
def tls13CipherUse (cipher : DetachedAead) (key : Bytes) (iv : Iv) :
    (tls13Stream cipher key iv).CipherUse CipherInput where
  sealing message position := tls13Sealing 16 iv message (.ofNat position)
  opened record position := tls13Opened cipher key iv record (.ofNat position)
  opens unprotected := by
    obtain ⟨plaintext, opened, -⟩ :=
      tls13Decrypt_eq_ok (recordStream_unprotect_eq_some_iff.mp unprotected)
    exact ⟨_, opened⟩
  binds {sent index genuine record position message} below within isProtected opened
      unprotected := by
    obtain ⟨⟨nonzero, bounded⟩, -⟩ := recordStream_protect_eq_some_iff.mp isProtected
    obtain ⟨plaintext, opened', unpadded⟩ :=
      tls13Decrypt_eq_ok (recordStream_unprotect_eq_some_iff.mp unprotected)
    have input := Option.some.inj (opened'.symm.trans opened)
    simp only [tls13Sealing, CipherInput.mk.injEq] at input
    obtain ⟨nonces, -, rfl⟩ := input
    rw [intoTls13UnpaddedMessage_append nonzero bounded rfl] at unpadded
    exact ⟨ofNat_injective below.le within (nonceNew_injective nonces).symm,
      (Except.ok.inj unpadded).symm⟩

/-- With ChaCha20 the nonce tells the position, and the associated data the type and the version. -/
def tls12ChachaCipherUse (cipher : DetachedAead) (key : Bytes) (iv : Iv) :
    (tls12ChachaStream cipher key iv).CipherUse CipherInput where
  sealing message position := tls12Sealing iv message (.ofNat position)
  opened record position := tls12ChachaOpened cipher key iv record (.ofNat position)
  opens unprotected := by
    obtain ⟨len, opened, -⟩ :=
      tls12ChachaDecrypt_eq_ok (recordStream_unprotect_eq_some_iff.mp unprotected)
    exact ⟨_, opened⟩
  binds {sent index genuine record position message} below within _ opened unprotected := by
    obtain ⟨len, opened', sameType, sameVersion⟩ :=
      tls12ChachaDecrypt_eq_ok (recordStream_unprotect_eq_some_iff.mp unprotected)
    have input := Option.some.inj (opened'.symm.trans opened)
    simp only [tls12Sealing, CipherInput.mk.injEq] at input
    obtain ⟨nonces, aads, payloads⟩ := input
    obtain ⟨-, types, versions⟩ := makeTls12Aad_injective aads
    refine ⟨ofNat_injective below.le within (nonceNew_injective nonces).symm, ?_⟩
    exact PlainMessage.eq_of_parts (sameType.trans types) (sameVersion.trans versions) payloads

/-- With GCM the record brings its own nonce, and the associated data tells the position. -/
def tls12GcmCipherUse (inPlace : cipher.InPlace) (key : Bytes) (fixed : Vector UInt8 4)
    (explicit : Vector UInt8 8) :
    (tls12GcmStream cipher key fixed explicit).CipherUse CipherInput where
  sealing message position := tls12Sealing (fixed ++ explicit) message (.ofNat position)
  opened record position := tls12GcmOpened cipher key fixed record (.ofNat position)
  opens unprotected := by
    obtain ⟨nonce, len, opened, -⟩ :=
      tls12GcmDecrypt_eq_ok inPlace (recordStream_unprotect_eq_some_iff.mp unprotected)
    exact ⟨_, opened⟩
  binds {sent index genuine record position message} below within _ opened unprotected := by
    obtain ⟨nonce, len, opened', sameType, sameVersion⟩ :=
      tls12GcmDecrypt_eq_ok inPlace (recordStream_unprotect_eq_some_iff.mp unprotected)
    have input := Option.some.inj (opened'.symm.trans opened)
    simp only [tls12Sealing, CipherInput.mk.injEq] at input
    obtain ⟨-, aads, payloads⟩ := input
    obtain ⟨positions, types, versions⟩ := makeTls12Aad_injective aads
    refine ⟨ofNat_injective below.le within positions.symm, ?_⟩
    exact PlainMessage.eq_of_parts (sameType.trans types) (sameVersion.trans versions) payloads

/-- In every run in which the cipher opens only what was sealed, the messages read are the first of
those written, the cipher has encrypted exactly the sealed inputs and never two under one nonce, and
the reader accepts the record that comes next. -/
def DeliversInOrder (cipher : DetachedAead) (key : Bytes)
    {protection : Protection PlainMessage PlainMessage OpaqueMessage}
    (use : protection.CipherUse CipherInput) : Prop :=
  ∀ events state, Execution.run protection.step initial events = some state →
    Execution.Meets protection.step use.Unforged initial events →
    state.read <+: state.written.map protection.view ∧
      (∀ input ∈ use.sealed state, input.Encrypted cipher key) ∧
      ((use.sealed state).map CipherInput.nonce).Nodup ∧
      ∀ message record, state.sent[state.read.length]? = some (message, record) →
        protection.step state (.deliver record) =
          some { state with read := state.read ++ [protection.view message] }

theorem deliversInOrder {protection : Protection PlainMessage PlainMessage OpaqueMessage}
    (use : protection.CipherUse CipherInput) (iv : Iv) (hard : protection.limit = seqHardLimit)
    (nonces : ∀ message position,
      (use.sealing message position).nonce = nonceNew iv (.ofNat position))
    (seals : ∀ {message position record}, protection.protect message position = some record →
      (use.sealing message position).Encrypted cipher key)
    (inverts : ∀ {message position record}, protection.protect message position = some record →
      protection.unprotect record position = some (protection.view message)) :
    DeliversInOrder cipher key use := by
  intro events state ran unforged
  have consistent := Protection.consistent_of_run unforged ran
  refine ⟨consistent.delivered, Protection.forall_mem_sealed consistent seals,
    Protection.nodup_sealed consistent CipherInput.nonce ?_,
    fun message record found => Protection.step_deliver_next consistent inverts found⟩
  intro left right index position first second same
  rw [nonces, nonces] at same
  rw [hard] at first second
  exact ofNat_injective first.le second.le (nonceNew_injective same)

theorem tls13Stream_deliversInOrder (documented : Documented cipher keySize)
    (keyFits : key.length = cipher.keySize) (iv : Iv) :
    DeliversInOrder cipher key (tls13CipherUse cipher key iv) := by
  refine deliversInOrder _ iv rfl (fun _ _ => rfl) (fun written => ?_)
    fun {message position record} written => ?_
  · exact tls13Sealing_encrypted (recordStream_protect_eq_some_iff.mp written).2
  · obtain ⟨⟨nonzero, bounded⟩, encrypted⟩ := recordStream_protect_eq_some_iff.mp written
    obtain ⟨genuine, encrypted', -, decrypted⟩ :=
      tls13_decrypt_encrypt documented keyFits iv nonzero bounded (.ofNat position)
    obtain rfl := Except.ok_unique encrypted encrypted'
    exact recordStream_unprotect_eq_some_iff.mpr (decrypted record.typ record.version)

theorem tls12GcmStream_deliversInOrder (documented : Documented cipher keySize)
    (inPlace : cipher.InPlace) (keyFits : key.length = cipher.keySize) (fixed : Vector UInt8 4)
    (explicit : Vector UInt8 8) :
    DeliversInOrder cipher key (tls12GcmCipherUse inPlace key fixed explicit) := by
  refine deliversInOrder _ (fixed ++ explicit) rfl (fun _ _ => rfl) (fun written => ?_)
    fun {message position record} written => ?_
  · exact tls12Gcm_sealing_encrypted (recordStream_protect_eq_some_iff.mp written).2
  · obtain ⟨⟨-, bounded⟩, encrypted⟩ := recordStream_protect_eq_some_iff.mp written
    obtain ⟨payload, encrypted', -, -, -, decrypted⟩ :=
      tls12Gcm_decrypt_encrypt documented keyFits fixed explicit bounded (.ofNat position)
    obtain rfl := Except.ok_unique encrypted encrypted'
    exact recordStream_unprotect_eq_some_iff.mpr decrypted

theorem tls12ChachaStream_deliversInOrder (documented : Documented cipher keySize)
    (keyFits : key.length = cipher.keySize) (iv : Iv) :
    DeliversInOrder cipher key (tls12ChachaCipherUse cipher key iv) := by
  refine deliversInOrder _ iv rfl (fun _ _ => rfl) (fun written => ?_)
    fun {message position record} written => ?_
  · exact tls12Chacha_sealing_encrypted (recordStream_protect_eq_some_iff.mp written).2
  · obtain ⟨⟨-, bounded⟩, encrypted⟩ := recordStream_protect_eq_some_iff.mp written
    obtain ⟨payload, encrypted', -, decrypted⟩ :=
      tls12Chacha_decrypt_encrypt documented keyFits iv bounded (.ofNat position)
    obtain rfl := Except.ok_unique encrypted encrypted'
    exact recordStream_unprotect_eq_some_iff.mpr decrypted

/-- The stream of a TLS 1.3 algorithm, when its constructors accept the key. -/
def Tls13AeadAlgorithm.stream (algorithm : Tls13AeadAlgorithm) (key : Bytes) (iv : Iv) :
    Option (Protection PlainMessage PlainMessage OpaqueMessage) := do
  let encrypter ← algorithm.encrypter key iv
  let decrypter ← algorithm.decrypter key iv
  pure (recordStream encrypter decrypter tls13View)

/-- The stream of a TLS 1.2 algorithm, when its constructors accept the key block. -/
def Tls12AeadAlgorithm.stream (algorithm : Tls12AeadAlgorithm) (key iv explicit : Bytes) :
    Option (Protection PlainMessage PlainMessage OpaqueMessage) := do
  let encrypter ← algorithm.encrypter key iv explicit
  let decrypter ← algorithm.decrypter key iv
  pure (recordStream encrypter decrypter id)

theorem tls13Algorithm_stream (keyFits : key.length = cipher.keySize) (iv : Iv) :
    (tls13Algorithm cipher 16).stream key iv = some (tls13Stream cipher key iv) := by
  simp only [Tls13AeadAlgorithm.stream, tls13Algorithm, newFromSlice_eq_some keyFits]
  rfl

theorem tls12GcmAlgorithm_stream (keyFits : key.length = cipher.keySize) (fixed : Vector UInt8 4)
    (explicit : Vector UInt8 8) :
    (tls12GcmAlgorithm cipher).stream key fixed.toList explicit.toList =
      some (tls12GcmStream cipher key fixed explicit) := by
  simp only [Tls12AeadAlgorithm.stream, tls12GcmAlgorithm, newFromSlice_eq_some keyFits,
    FixedLength.ofList?_toList]
  rfl

theorem tls12ChachaAlgorithm_stream (keyFits : key.length = cipher.keySize) (iv : Iv)
    (explicit : Bytes) :
    (tls12ChachaAlgorithm cipher).stream key iv.toList explicit =
      some (tls12ChachaStream cipher key iv) := by
  simp only [Tls12AeadAlgorithm.stream, tls12ChachaAlgorithm, newFromSlice_eq_some keyFits,
    FixedLength.ofList?_toList]
  rfl

end Streams

/-- Each of the six algorithms makes a stream that delivers in order whatever the network does. -/
theorem records_delivered_in_order (ciphers : RustCrypto) (documented : ciphers.Documented)
    (inPlace128 : ciphers.aes128Gcm.InPlace) (inPlace256 : ciphers.aes256Gcm.InPlace)
    (key : Bytes) :
    (∀ suite (iv : Iv), key.length = (tls13Of ciphers suite).keyLen →
      (tls13Of ciphers suite).stream key iv = some (tls13Stream (ciphers.ofSuite suite) key iv) ∧
        DeliversInOrder (ciphers.ofSuite suite) key
          (tls13CipherUse (ciphers.ofSuite suite) key iv)) ∧
      (∀ (fixed : Vector UInt8 4) (explicit : Vector UInt8 8), key.length = 16 →
        (tls12Of ciphers .aes128Gcm).stream key fixed.toList explicit.toList =
            some (tls12GcmStream ciphers.aes128Gcm key fixed explicit) ∧
          DeliversInOrder ciphers.aes128Gcm key (tls12GcmCipherUse inPlace128 key fixed explicit)) ∧
      (∀ (fixed : Vector UInt8 4) (explicit : Vector UInt8 8), key.length = 32 →
        (tls12Of ciphers .aes256Gcm).stream key fixed.toList explicit.toList =
            some (tls12GcmStream ciphers.aes256Gcm key fixed explicit) ∧
          DeliversInOrder ciphers.aes256Gcm key (tls12GcmCipherUse inPlace256 key fixed explicit)) ∧
      ∀ (iv : Iv) (explicit : Bytes), key.length = 32 →
        (tls12Of ciphers .chacha20Poly1305).stream key iv.toList explicit =
            some (tls12ChachaStream ciphers.chacha20Poly1305 key iv) ∧
          DeliversInOrder ciphers.chacha20Poly1305 key
            (tls12ChachaCipherUse ciphers.chacha20Poly1305 key iv) := by
  refine ⟨fun suite iv keyFits => ?_, fun fixed explicit keyFits => ?_,
    fun fixed explicit keyFits => ?_, fun iv explicit keyFits => ?_⟩
  · cases suite with
    | aes128Gcm =>
        exact ⟨tls13Algorithm_stream keyFits iv,
          tls13Stream_deliversInOrder documented.aes128Gcm keyFits iv⟩
    | aes256Gcm =>
        exact ⟨tls13Algorithm_stream keyFits iv,
          tls13Stream_deliversInOrder documented.aes256Gcm keyFits iv⟩
    | chacha20Poly1305 =>
        exact ⟨tls13Algorithm_stream keyFits iv,
          tls13Stream_deliversInOrder documented.chacha20Poly1305 keyFits iv⟩
  · have keyFits := keyFits.trans documented.aes128Gcm.keySize_eq.symm
    exact ⟨tls12GcmAlgorithm_stream keyFits fixed explicit,
      tls12GcmStream_deliversInOrder documented.aes128Gcm inPlace128 keyFits fixed explicit⟩
  · have keyFits := keyFits.trans documented.aes256Gcm.keySize_eq.symm
    exact ⟨tls12GcmAlgorithm_stream keyFits fixed explicit,
      tls12GcmStream_deliversInOrder documented.aes256Gcm inPlace256 keyFits fixed explicit⟩
  · have keyFits := keyFits.trans documented.chacha20Poly1305.keySize_eq.symm
    exact ⟨tls12ChachaAlgorithm_stream keyFits iv explicit,
      tls12ChachaStream_deliversInOrder documented.chacha20Poly1305 keyFits iv⟩

theorem miniatureCipher_inPlace (keySize : Nat) : (miniatureCipher keySize).InPlace := by
  intro key nonce aad message ciphertext tag decrypted
  simp only [miniatureCipher] at decrypted
  split_ifs at decrypted
  rw [← Option.some.inj decrypted, List.length_map]

/-- A stream of the miniature cipher. -/
def miniatureStream : Protection PlainMessage PlainMessage OpaqueMessage :=
  tls12GcmStream (miniatureCipher 16) (List.replicate 16 7) (Vector.replicate 4 1)
    (Vector.replicate 8 2)

/-- A handshake message. -/
def miniatureMessage : PlainMessage := ⟨.handshake, .tls12, [1, 0, 0]⟩

/-- Its record at position 0. -/
def miniatureRecord : OpaqueMessage :=
  ⟨.handshake, .tls12, List.replicate 8 2 ++ [162, 163, 163] ++ List.replicate 16 163⟩

/-- The message is written; the network delivers an invented record and the genuine one. -/
def miniatureDelivery : List (Event PlainMessage OpaqueMessage) :=
  [.write miniatureMessage, .deliver ⟨.handshake, .tls12, List.replicate 30 9⟩,
    .deliver miniatureRecord]

theorem miniatureDelivery_unforged :
    Execution.Meets miniatureStream.step
      (tls12GcmCipherUse (miniatureCipher_inPlace 16) (List.replicate 16 7) (Vector.replicate 4 1)
        (Vector.replicate 8 2)).Unforged initial miniatureDelivery := by
  have written : miniatureStream.step initial (.write miniatureMessage) =
      some ⟨[(miniatureMessage, miniatureRecord)], []⟩ := rfl
  have refused : miniatureStream.step ⟨[(miniatureMessage, miniatureRecord)], []⟩
      (.deliver ⟨.handshake, .tls12, List.replicate 30 9⟩) =
        some ⟨[(miniatureMessage, miniatureRecord)], []⟩ := rfl
  refine ⟨trivial, fun next stepped => ⟨fun input opened => ?_, fun later stepped' =>
    ⟨fun input opened => ?_, fun _ _ => trivial⟩⟩⟩
  · obtain rfl := Option.some.inj (written.symm.trans stepped)
    have nothing : tls12GcmOpened (miniatureCipher 16) (List.replicate 16 7) (Vector.replicate 4 1)
      ⟨.handshake, .tls12, List.replicate 30 9⟩ (.ofNat 0) = none := rfl
    cases nothing.symm.trans opened
  · obtain rfl := Option.some.inj (written.symm.trans stepped)
    obtain rfl := Option.some.inj (refused.symm.trans stepped')
    have genuine : tls12GcmOpened (miniatureCipher 16) (List.replicate 16 7) (Vector.replicate 4 1)
      miniatureRecord (.ofNat 0) = some (tls12Sealing
        ((Vector.replicate 4 1 : Vector UInt8 4) ++ (Vector.replicate 8 2 : Vector UInt8 8))
        miniatureMessage (.ofNat 0)) := rfl
    obtain rfl := Option.some.inj (genuine.symm.trans opened)
    exact List.mem_singleton.mpr rfl

theorem records_delivered_in_order_miniature :
    ∃ state, Execution.run miniatureStream.step initial miniatureDelivery = some state ∧
      state.read = [miniatureMessage] ∧ state.read <+: state.written.map id := by
  have ran : Execution.run miniatureStream.step initial miniatureDelivery =
      some ⟨[(miniatureMessage, miniatureRecord)], [miniatureMessage]⟩ := rfl
  exact ⟨_, ran, rfl, (((records_delivered_in_order miniatureCiphers miniatureCiphers_documented
    (miniatureCipher_inPlace 16) (miniatureCipher_inPlace 32) (List.replicate 16 7)).2.1
      (Vector.replicate 4 1) (Vector.replicate 8 2) rfl).2 miniatureDelivery _ ran
        miniatureDelivery_unforged).1⟩

end OxiTls
