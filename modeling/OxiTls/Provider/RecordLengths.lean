import OxiTls.Library.Panics
import OxiTls.Provider.Records

/-!
# Records of any length

The record decrypters once more, with every operation that has a range: subtraction of lengths,
slices, splits and conversions to arrays.  Where these stay in range the decrypters are the ones of
`Records`.  The TLS 1.2 ChaCha decrypter subtracts the length of the tag before anything has looked
at the length of the record.
-/

namespace OxiTls

/-- The AES-GCM ciphers. -/
inductive GcmCipher
  | aes128Gcm
  | aes256Gcm
  deriving DecidableEq, Repr

/-- The AES-GCM cipher of a key size. -/
def RustCrypto.gcm (ciphers : RustCrypto) : GcmCipher → DetachedAead
  | .aes128Gcm => ciphers.aes128Gcm
  | .aes256Gcm => ciphers.aes256Gcm

section Checked

variable (cipher : DetachedAead) (key : Bytes)

/-- `decrypt` of the TLS 1.3 ciphers: none of its operations has a range. -/
def tls13DecryptChecked (iv : Iv) (message : OpaqueMessage) (seq : UInt64) :
    Except (Fault RecordError) PlainMessage := do
  let nonce := nonceNew iv seq
  let aad := makeTls13Aad message.payload.length
  let payload ← Fault.calm
    (orError (cipher.decryptInPlace key nonce aad message.payload) .decryptError)
  Fault.calm { message with payload }.intoTls13UnpaddedMessage

/-- `decrypt` of the TLS 1.2 GCM ciphers. -/
def tls12GcmDecryptChecked (decIv : Vector UInt8 4) (message : OpaqueMessage) (seq : UInt64) :
    Except (Fault RecordError) PlainMessage :=
  let payload := message.payload
  if payload.length < tls12GcmOverhead then .error (.failed .decryptError)
  else do
    let explicit ← Fault.slice payload 0 tls12GcmExplicitNonceLen
    let explicit ← Fault.copyFromSlice 8 explicit
    let nonce := decIv.toList ++ explicit.toList
    let len ← Fault.sub payload.length tls12GcmOverhead
    let aad := makeTls12Aad seq message.typ message.version len
    let body ← Fault.slice payload tls12GcmExplicitNonceLen payload.length
    let tagPos ← Fault.sub body.length cipher.tagSize
    let (msg, tag) ← Fault.splitAt body tagPos
    let tag ← Fault.copyFromSlice cipher.tagSize tag
    match cipher.decrypt key nonce aad msg tag.toList with
    | none => .error (.failed .decryptError)
    | some plaintext =>
        let payload := payload.take tls12GcmExplicitNonceLen ++ plaintext ++ tag.toList
        let payload ← Fault.rotateLeft payload tls12GcmExplicitNonceLen
        let payload := payload.take tagPos
        .ok { message with payload }.intoPlainMessage

/-- `decrypt` of the TLS 1.2 ChaCha cipher. -/
def tls12ChachaDecryptChecked (iv : Iv) (message : OpaqueMessage) (seq : UInt64) :
    Except (Fault RecordError) PlainMessage := do
  let nonce := nonceNew iv seq
  let len ← Fault.sub message.payload.length chachaPoly1305Overhead
  let aad := makeTls12Aad seq message.typ message.version len
  let payload ← Fault.calm
    (orError (cipher.decryptInPlace key nonce aad message.payload) .decryptError)
  .ok { message with payload }.intoPlainMessage

end Checked

/-- The structs of the provider that implement `MessageDecrypter`. -/
inductive RecordDecrypter
  | tls13 (suite : SuiteCipher) (key : Bytes) (iv : Iv)
  | tls12Gcm (suite : GcmCipher) (key : Bytes) (decIv : Vector UInt8 4)
  | tls12Chacha20Poly1305 (key : Bytes) (iv : Iv)
  deriving DecidableEq

namespace RecordDecrypter

variable (ciphers : RustCrypto)

/-- `MessageDecrypter::decrypt`. -/
def decrypt : RecordDecrypter → OpaqueMessage → UInt64 → Except (Fault RecordError) PlainMessage
  | .tls13 suite key iv => tls13DecryptChecked (ciphers.ofSuite suite) key iv
  | .tls12Gcm suite key decIv => tls12GcmDecryptChecked (ciphers.gcm suite) key decIv
  | .tls12Chacha20Poly1305 key iv => tls12ChachaDecryptChecked ciphers.chacha20Poly1305 key iv

/-- How much longer a record is than what it protects, apart from padding. -/
def overhead : RecordDecrypter → Nat
  | .tls13 .. => 16
  | .tls12Gcm .. => tls12GcmOverhead
  | .tls12Chacha20Poly1305 .. => chachaPoly1305Overhead

/-- The decrypter of `Records` that a struct stands for. -/
def messageDecrypter : RecordDecrypter → MessageDecrypter
  | .tls13 suite key iv => ⟨tls13Decrypt (ciphers.ofSuite suite) key iv⟩
  | .tls12Gcm suite key decIv => ⟨tls12GcmDecrypt (ciphers.gcm suite) key decIv⟩
  | .tls12Chacha20Poly1305 key iv => ⟨tls12ChachaDecrypt ciphers.chacha20Poly1305 key iv⟩

/-- A record of any length is decrypted or refused: the answer is a message, `DecryptError` or, in
TLS 1.3, the error of rustls that the padding is wrong; and a record shorter than the overhead is
refused. -/
structure HandlesRecord (decrypter : RecordDecrypter) (message : OpaqueMessage) (seq : UInt64) :
    Prop where
  answers : (∃ plain, decrypter.decrypt ciphers message seq = .ok plain) ∨
    decrypter.decrypt ciphers message seq = .error (.failed .decryptError) ∨
    ∃ suite key iv payload failure, decrypter = .tls13 suite key iv ∧
      { message with payload }.intoTls13UnpaddedMessage = .error failure ∧
      decrypter.decrypt ciphers message seq = .error (.failed failure)
  refuses_short : message.payload.length < decrypter.overhead →
    ∃ failure, decrypter.decrypt ciphers message seq = .error (.failed failure)

/-- The record is shorter than the tag that the TLS 1.2 ChaCha decrypter takes for granted. -/
def Underflows : RecordDecrypter → OpaqueMessage → Prop
  | .tls12Chacha20Poly1305 .., message => message.payload.length < chachaPoly1305Overhead
  | .tls13 .., _ | .tls12Gcm .., _ => False

end RecordDecrypter

/-! ## In range, the decrypters are those of `Records` -/

section Agreement

variable {cipher : DetachedAead} {key : Bytes} {message : OpaqueMessage} {seq : UInt64}

theorem tls13DecryptChecked_eq {iv : Iv} :
    tls13DecryptChecked cipher key iv message seq =
      Fault.calm (tls13Decrypt cipher key iv message seq) := by
  simp only [tls13DecryptChecked, tls13Decrypt]
  cases cipher.decryptInPlace key (nonceNew iv seq) (makeTls13Aad message.payload.length)
      message.payload with
  | none => rfl
  | some payload => rfl

/-- The guard of the GCM decrypter keeps everything behind it in range. -/
theorem tls12GcmDecryptChecked_eq (sixteen : cipher.tagSize = 16) {decIv : Vector UInt8 4} :
    tls12GcmDecryptChecked cipher key decIv message seq =
      Fault.calm (tls12GcmDecrypt cipher key decIv message seq) := by
  obtain ⟨typ, version, payload⟩ := message
  by_cases short : payload.length < tls12GcmOverhead
  · simp only [tls12GcmDecryptChecked, tls12GcmDecrypt, if_pos short, Fault.calm_error]
  · have long : 24 ≤ payload.length := Nat.not_lt.mp short
    have nonceInside : tls12GcmExplicitNonceLen ≤ payload.length := Nat.le_trans (by decide) long
    have overheadInside : tls12GcmOverhead ≤ payload.length := long
    have bodyLength : (payload.drop tls12GcmExplicitNonceLen).length = payload.length - 8 :=
      List.length_drop
    have tagInside : cipher.tagSize ≤ (payload.drop tls12GcmExplicitNonceLen).length := by
      rw [bodyLength, sixteen]
      omega
    have tagFits : ((payload.drop tls12GcmExplicitNonceLen).drop
        ((payload.drop tls12GcmExplicitNonceLen).length - cipher.tagSize)).length =
          cipher.tagSize := by
      rw [List.length_drop]
      omega
    have rotates (plaintext tag : Bytes) : tls12GcmExplicitNonceLen ≤
        (payload.take tls12GcmExplicitNonceLen ++ plaintext ++ tag).length := by
      rw [List.length_append, List.length_append, List.length_take_of_le nonceInside]
      omega
    have explicitFits : (payload.take tls12GcmExplicitNonceLen).length = 8 :=
      List.length_take_of_le nonceInside
    obtain ⟨explicit, explicit_eq, explicitCopied⟩ :=
      Fault.copyFromSlice_of_length (ε := RecordError) explicitFits
    obtain ⟨tag, tag_eq, tagCopied⟩ := Fault.copyFromSlice_of_length (ε := RecordError) tagFits
    simp only [tls12GcmDecryptChecked, tls12GcmDecrypt, if_neg short]
    rw [Fault.slice_zero nonceInside, Fault.ok_bind, explicitCopied, Fault.ok_bind,
      Fault.sub_of_le overheadInside, Fault.ok_bind, Fault.slice_length nonceInside, Fault.ok_bind,
      Fault.sub_of_le tagInside, Fault.ok_bind, Fault.splitAt_of_le (Nat.sub_le _ _),
      Fault.ok_bind, tagCopied, Fault.ok_bind, explicit_eq, tag_eq]
    cases cipher.decrypt key _ _ _ _ with
    | none => rfl
    | some plaintext =>
        simp only [Fault.rotateLeft_of_le (rotates plaintext _), Fault.ok_bind, Fault.calm_ok]

/-- Two bytes of the length are authenticated. -/
theorem makeTls12Aad_of_mod_eq {typ : ContentType} {version : WireVersion} {left right : Nat}
    (same : left % 256 ^ 2 = right % 256 ^ 2) :
    makeTls12Aad seq typ version left = makeTls12Aad seq typ version right := by
  have fields : BigEndian.encode 2 left = BigEndian.encode 2 right := by
    rw [← BigEndian.encode_mod 2 left, same, BigEndian.encode_mod]
  rw [makeTls12Aad, makeTls12Aad, fields]

/-- A record at least as long as its tag is decrypted alike whether subtraction wraps or not. -/
theorem tls12ChachaDecryptChecked_eq {iv : Iv}
    (long : chachaPoly1305Overhead ≤ message.payload.length) :
    tls12ChachaDecryptChecked cipher key iv message seq =
      Fault.calm (tls12ChachaDecrypt cipher key iv message seq) := by
  have sixteen : chachaPoly1305Overhead = 16 := rfl
  have sameAad : makeTls12Aad seq message.typ message.version
      ((message.payload.length + 2 ^ 64 - chachaPoly1305Overhead) % 2 ^ 64) =
        makeTls12Aad seq message.typ message.version
          (message.payload.length - chachaPoly1305Overhead) :=
    makeTls12Aad_of_mod_eq (by omega)
  simp only [tls12ChachaDecryptChecked, tls12ChachaDecrypt, Fault.sub_of_le long, Fault.ok_bind,
    sameAad]
  cases cipher.decryptInPlace key (nonceNew iv seq) (makeTls12Aad seq message.typ message.version
      (message.payload.length - chachaPoly1305Overhead)) message.payload with
  | none => rfl
  | some payload => rfl

theorem tls12ChachaDecryptChecked_of_short {iv : Iv}
    (short : message.payload.length < chachaPoly1305Overhead) :
    tls12ChachaDecryptChecked cipher key iv message seq = .error .panic := by
  rw [tls12ChachaDecryptChecked, Fault.sub_of_lt short]
  rfl

/-- Where subtraction wraps, the cipher refuses such a record. -/
theorem tls12ChachaDecrypt_of_short {iv : Iv}
    (short : message.payload.length < cipher.tagSize) :
    tls12ChachaDecrypt cipher key iv message seq = .error .decryptError := by
  rw [tls12ChachaDecrypt, DetachedAead.decryptInPlace, if_pos short]
  rfl

end Agreement

namespace RecordDecrypter

variable {ciphers : RustCrypto}

theorem tagSize_ofSuite (documented : ciphers.Documented) (suite : SuiteCipher) :
    (ciphers.ofSuite suite).tagSize = 16 := by
  cases suite with
  | aes128Gcm => exact documented.aes128Gcm.tagSize_eq
  | aes256Gcm => exact documented.aes256Gcm.tagSize_eq
  | chacha20Poly1305 => exact documented.chacha20Poly1305.tagSize_eq

theorem tagSize_gcm (documented : ciphers.Documented) (suite : GcmCipher) :
    (ciphers.gcm suite).tagSize = 16 := by
  cases suite with
  | aes128Gcm => exact documented.aes128Gcm.tagSize_eq
  | aes256Gcm => exact documented.aes256Gcm.tagSize_eq

/-- Unless the length underflows, decryption is that of `Records`. -/
theorem decrypt_eq (documented : ciphers.Documented) {decrypter : RecordDecrypter}
    {message : OpaqueMessage} (inRange : ¬ decrypter.Underflows message) (seq : UInt64) :
    decrypter.decrypt ciphers message seq =
      Fault.calm ((decrypter.messageDecrypter ciphers).decrypt message seq) := by
  cases decrypter with
  | tls13 suite key iv => exact tls13DecryptChecked_eq
  | tls12Gcm suite key decIv => exact tls12GcmDecryptChecked_eq (tagSize_gcm documented suite)
  | tls12Chacha20Poly1305 key iv => exact tls12ChachaDecryptChecked_eq (Nat.not_lt.mp inRange)

theorem decrypt_of_underflows {decrypter : RecordDecrypter} {message : OpaqueMessage}
    (underflows : decrypter.Underflows message) (seq : UInt64) :
    decrypter.decrypt ciphers message seq = .error .panic := by
  cases decrypter with
  | tls13 suite key iv => contradiction
  | tls12Gcm suite key decIv => contradiction
  | tls12Chacha20Poly1305 key iv => exact tls12ChachaDecryptChecked_of_short underflows

/-- The structs are what the TLS 1.3 algorithms build. -/
theorem messageDecrypter_of_tls13 {suite : SuiteCipher} {key : Bytes} {iv : Iv}
    {built : MessageDecrypter} (builds : (tls13Of ciphers suite).decrypter key iv = some built) :
    ∃ decrypter, messageDecrypter ciphers decrypter = built := by
  cases suite
  all_goals
    simp only [tls13Of, tls13Aes128Gcm, tls13Aes256Gcm, tls13Chacha20Poly1305, tls13Algorithm,
      Option.map_eq_some_iff] at builds
    obtain ⟨key, -, rfl⟩ := builds
  · exact ⟨.tls13 .aes128Gcm key iv, rfl⟩
  · exact ⟨.tls13 .aes256Gcm key iv, rfl⟩
  · exact ⟨.tls13 .chacha20Poly1305 key iv, rfl⟩

/-- The structs are what the TLS 1.2 algorithms build. -/
theorem messageDecrypter_of_tls12 {suite : SuiteCipher} {key iv : Bytes} {built : MessageDecrypter}
    (builds : (tls12Of ciphers suite).decrypter key iv = some built) :
    ∃ decrypter, messageDecrypter ciphers decrypter = built := by
  cases suite
  all_goals
    simp only [tls12Of, tls12Aes128Gcm, tls12Aes256Gcm, OxiTls.tls12Chacha20Poly1305,
      tls12GcmAlgorithm, tls12ChachaAlgorithm, Option.bind_eq_bind, Option.bind_eq_some_iff,
      Option.pure_def, Option.some.injEq] at builds
    obtain ⟨key, -, iv, -, rfl⟩ := builds
  · exact ⟨.tls12Gcm .aes128Gcm key iv, rfl⟩
  · exact ⟨.tls12Gcm .aes256Gcm key iv, rfl⟩
  · exact ⟨.tls12Chacha20Poly1305 key iv, rfl⟩

/-- The answers of the TLS 1.3 decrypters. -/
theorem tls13_handlesRecord (documented : ciphers.Documented) (suite : SuiteCipher) (key : Bytes)
    (iv : Iv) (message : OpaqueMessage) (seq : UInt64) :
    HandlesRecord ciphers (.tls13 suite key iv) message seq := by
  have decrypted : decrypt ciphers (.tls13 suite key iv) message seq =
      tls13DecryptChecked (ciphers.ofSuite suite) key iv message seq := rfl
  rw [tls13DecryptChecked] at decrypted
  constructor
  · cases opened : (ciphers.ofSuite suite).decryptInPlace key (nonceNew iv seq)
        (makeTls13Aad message.payload.length) message.payload with
    | none =>
        rw [opened] at decrypted
        exact .inr (.inl decrypted)
    | some payload =>
        rw [opened] at decrypted
        cases unpadded : { message with payload }.intoTls13UnpaddedMessage with
        | ok plain => exact .inl ⟨plain, decrypted.trans (congrArg Fault.calm unpadded)⟩
        | error failure =>
            exact .inr (.inr ⟨suite, key, iv, payload, failure, rfl, unpadded,
              decrypted.trans (congrArg Fault.calm unpadded)⟩)
  · intro short
    rw [overhead, ← tagSize_ofSuite documented suite] at short
    rw [DetachedAead.decryptInPlace, if_pos short] at decrypted
    exact ⟨_, decrypted⟩

/-- The answers of the TLS 1.2 GCM decrypters. -/
theorem tls12Gcm_handlesRecord (documented : ciphers.Documented) (suite : GcmCipher) (key : Bytes)
    (decIv : Vector UInt8 4) (message : OpaqueMessage) (seq : UInt64) :
    HandlesRecord ciphers (.tls12Gcm suite key decIv) message seq := by
  have decrypted : decrypt ciphers (.tls12Gcm suite key decIv) message seq =
      Fault.calm (tls12GcmDecrypt (ciphers.gcm suite) key decIv message seq) :=
    tls12GcmDecryptChecked_eq (tagSize_gcm documented suite)
  by_cases short : message.payload.length < tls12GcmOverhead
  · rw [tls12GcmDecrypt, if_pos short, Fault.calm_error] at decrypted
    exact ⟨.inr (.inl decrypted), fun _ => ⟨_, decrypted⟩⟩
  · refine ⟨?_, fun refused => absurd refused short⟩
    simp only [tls12GcmDecrypt, if_neg short] at decrypted
    split at decrypted
    · exact .inl ⟨_, decrypted⟩
    · exact .inr (.inl decrypted)

/-- The answers of the TLS 1.2 ChaCha decrypter to a record that has room for its tag. -/
theorem tls12Chacha_handlesRecord {key : Bytes} {iv : Iv} {message : OpaqueMessage} {seq : UInt64}
    (long : chachaPoly1305Overhead ≤ message.payload.length) :
    HandlesRecord ciphers (.tls12Chacha20Poly1305 key iv) message seq := by
  refine ⟨?_, fun refused => absurd long (Nat.not_le.mpr refused)⟩
  have decrypted : decrypt ciphers (.tls12Chacha20Poly1305 key iv) message seq =
      Fault.calm (tls12ChachaDecrypt ciphers.chacha20Poly1305 key iv message seq) :=
    tls12ChachaDecryptChecked_eq long
  rw [tls12ChachaDecrypt] at decrypted
  cases opened : ciphers.chacha20Poly1305.decryptInPlace key (nonceNew iv seq)
      (makeTls12Aad seq message.typ message.version
        ((message.payload.length + 2 ^ 64 - chachaPoly1305Overhead) % 2 ^ 64)) message.payload with
  | none =>
      rw [opened] at decrypted
      exact .inr (.inl decrypted)
  | some payload =>
      rw [opened] at decrypted
      exact .inl ⟨_, decrypted⟩

/-- A record whose length underflows ends in a panic and not in an answer. -/
theorem not_handlesRecord_of_underflows {decrypter : RecordDecrypter} {message : OpaqueMessage}
    {seq : UInt64} (underflows : decrypter.Underflows message) :
    ¬ decrypter.HandlesRecord ciphers message seq := by
  intro handles
  have answers := handles.answers
  rw [decrypt_of_underflows underflows seq] at answers
  rcases answers with ⟨_, answered⟩ | answered | ⟨_, _, _, _, _, -, -, answered⟩
  · cases answered
  · cases answered
  · cases answered

/-- Every decrypter handles every record, except that the length of a TLS 1.2 ChaCha record that is
shorter than its tag underflows. -/
theorem handlesRecord_iff (ciphers : RustCrypto) (documented : ciphers.Documented)
    (decrypter : RecordDecrypter) (message : OpaqueMessage) (seq : UInt64) :
    decrypter.HandlesRecord ciphers message seq ↔ ¬ decrypter.Underflows message := by
  constructor
  · intro handles underflows
    exact not_handlesRecord_of_underflows underflows handles
  · intro inRange
    cases decrypter with
    | tls13 suite key iv => exact tls13_handlesRecord documented suite key iv message seq
    | tls12Gcm suite key decIv =>
        exact tls12Gcm_handlesRecord documented suite key decIv message seq
    | tls12Chacha20Poly1305 key iv => exact tls12Chacha_handlesRecord (Nat.not_lt.mp inRange)

/-- The other five decrypters refuse an empty record. -/
theorem handlesRecord_iff_empty :
    (RecordDecrypter.tls12Gcm .aes128Gcm (List.replicate 16 7) (Vector.replicate 4 1)).HandlesRecord
      miniatureCiphers ⟨.applicationData, .tls12, []⟩ 3 :=
  (handlesRecord_iff miniatureCiphers miniatureCiphers_documented _ _ 3).mpr id

/-- One byte from the peer makes the length of a TLS 1.2 ChaCha record underflow. -/
theorem one_byte_not_handlesRecord :
    ¬ (RecordDecrypter.tls12Chacha20Poly1305 (List.replicate 32 7)
      (Vector.replicate 12 1)).HandlesRecord miniatureCiphers ⟨.applicationData, .tls12, [0]⟩ 3 :=
  not_handlesRecord_of_underflows (Nat.le_of_ble_eq_true rfl)

end RecordDecrypter

end OxiTls
