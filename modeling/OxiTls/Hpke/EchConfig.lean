import OxiTls.Hpke.Labels
import OxiTls.Library.WireFormat

/-!
# ECH configurations

`hpke/ech_config.rs`: the `ECHConfigList` of one configuration, written field by field, and the
format of draft-ietf-tls-esni-18 that it is in.  rustls reads the list back before it is handed out;
its parser is a parameter.
-/

namespace OxiTls

/-! ## Encoding -/

/-- `SuiteIds`: the numbers of a suite. -/
structure SuiteIds where
  kemId : UInt16
  kdfId : UInt16
  aeadId : UInt16
  deriving DecidableEq, Repr

/-- `u8::try_from` and `u16::try_from` of a length, big endian. -/
def lengthField (width : Nat) (field : Bytes) (text : String) : Except RustlsError Bytes :=
  if field.length < 256 ^ width then .ok (BigEndian.encode width field.length)
  else .error (.general text)

theorem lengthField_eq_ok_iff {width : Nat} {field : Bytes} {text : String} {length : Bytes} :
    lengthField width field text = .ok length ↔
      field.length < 256 ^ width ∧ BigEndian.encode width field.length = length := by
  rw [lengthField]
  split_ifs with fits <;> simp [fits]

/-- `encode_contents`. -/
def encodeContents (ids : SuiteIds) (configId : UInt8) (pkBytes publicNameBytes : Bytes)
    (maximumNameLength : UInt8) : Except RustlsError Bytes := do
  let contents := [configId] ++ BigEndian.encode 2 ids.kemId.toNat
  let pkLen ← lengthField 2 pkBytes "ECHConfig: public key length exceeds u16"
  let contents := contents ++ pkLen ++ pkBytes ++ BigEndian.encode 2 4 ++
    BigEndian.encode 2 ids.kdfId.toNat ++ BigEndian.encode 2 ids.aeadId.toNat ++
    [maximumNameLength]
  let pnLen ← lengthField 1 publicNameBytes "ECHConfig: public_name length exceeds u8"
  pure (contents ++ pnLen ++ publicNameBytes ++ BigEndian.encode 2 0)

/-- The version of draft-ietf-tls-esni-18. -/
def draft18Version : UInt16 := 0xfe0d

/-- `wrap_config_list`. -/
def wrapConfigList (contents : Bytes) : Except RustlsError Bytes := do
  let contentsLen ← lengthField 2 contents "ECHConfig: contents length exceeds u16"
  let echConfig := BigEndian.encode 2 draft18Version.toNat ++ contentsLen ++ contents
  let listLen ← lengthField 2 echConfig "ECHConfigList: total length exceeds u16"
  pure (listLen ++ echConfig)

/-! ## Generation -/

/-- What `generate_ech_config_list` uses of the trait `Hpke`. -/
structure Hpke where
  /-- `generate_key_pair`: the public and the secret key. -/
  generateKeyPair : (random : Bytes) → Except RustlsError (Bytes × Bytes)
  suite : SuiteIds

/-- `HpkeSuiteImpl::generate_key_pair` and `HpkeSuiteImpl::suite` of the four suites. -/
def pureHpkeSuite (crates : KemCrates) (kem : HpkeKem) (aead : HpkeAead) : Hpke where
  generateKeyPair :=
    match kem with
    | .x25519 => KemX25519.generate crates
    | .p256 => KemP256.generate crates
  suite := ⟨kem.constants.kemId, 0x0001, aead.id⟩

/-- `GeneratedEchConfig`. -/
structure GeneratedEchConfig where
  configList : Bytes
  privateKey : Bytes
  publicKey : Bytes
  configId : UInt8
  deriving DecidableEq, Repr

/-- `generate_ech_config_list`, with `EchConfig::new` of rustls over `pure_hpke_suites`, which gives
the text of its error. -/
def generateEchConfigList (echConfigNew : Bytes → Except String Unit) (suite : Hpke)
    (random : Bytes) (configId : UInt8) (publicName : String) (maximumNameLength : UInt8) :
    Except RustlsError GeneratedEchConfig := do
  let (pkBytes, privateKeyBytes) ← suite.generateKeyPair random
  let contents ← encodeContents suite.suite configId pkBytes publicName.toUTF8.data.toList
    maximumNameLength
  let configList ← wrapConfigList contents
  (echConfigNew configList).mapError fun failure =>
    .general ("ECHConfig: self-validation failed (encoding bug): " ++ failure)
  pure ⟨configList, privateKeyBytes, pkBytes, configId⟩

/-! ## The format -/

/-- `HpkeSymmetricCipherSuite` of the draft. -/
structure HpkeSymmetricCipherSuite where
  kdfId : UInt16
  aeadId : UInt16
  deriving DecidableEq, Repr

/-- `HpkeKeyConfig` of the draft. -/
structure HpkeKeyConfig where
  configId : UInt8
  kemId : UInt16
  publicKey : Bytes
  cipherSuites : List HpkeSymmetricCipherSuite
  deriving DecidableEq, Repr

/-- `ECHConfigExtension` of the draft. -/
structure EchConfigExtension where
  extensionType : UInt16
  extensionData : Bytes
  deriving DecidableEq, Repr

/-- `ECHConfigContents` of the draft. -/
structure EchConfigContents where
  keyConfig : HpkeKeyConfig
  maximumNameLength : UInt8
  publicName : Bytes
  extensions : List EchConfigExtension
  deriving DecidableEq, Repr

/-- `ECHConfig` of the draft: the contents of a configuration of another version are not read. -/
inductive EchConfig
  | draft18 (contents : EchConfigContents)
  | other (version : UInt16) (different : version ≠ draft18Version) (contents : Bytes)
  deriving DecidableEq, Repr

/-- The version field. -/
def EchConfig.version : EchConfig → UInt16
  | .draft18 _ => draft18Version
  | .other version _ _ => version

namespace EchFormat

open WireFormat

/-- The format of a cipher suite. -/
def cipherSuite : WireFormat HpkeSymmetricCipherSuite :=
  (pair uint16 uint16).ofEquiv {
    toFun := fun fields => ⟨fields.1, fields.2⟩
    invFun := fun suite => (suite.kdfId, suite.aeadId) }

theorem cipherSuite_nonempty (suite : HpkeSymmetricCipherSuite) :
    cipherSuite.encode suite ≠ [] := by
  simp [cipherSuite, ofEquiv, pair, uint16, BigEndian.encode]

/-- The format of a key configuration. -/
def keyConfig : WireFormat HpkeKeyConfig :=
  (pair byte (pair uint16 (pair (sized 2) (list 2 cipherSuite cipherSuite_nonempty)))).ofEquiv {
    toFun := fun fields => ⟨fields.1, fields.2.1, fields.2.2.1, fields.2.2.2⟩
    invFun := fun config =>
      (config.configId, config.kemId, config.publicKey, config.cipherSuites) }

/-- The format of an extension. -/
def extension : WireFormat EchConfigExtension :=
  (pair uint16 (sized 2)).ofEquiv {
    toFun := fun fields => ⟨fields.1, fields.2⟩
    invFun := fun extension => (extension.extensionType, extension.extensionData) }

theorem extension_nonempty (value : EchConfigExtension) : extension.encode value ≠ [] := by
  simp [extension, ofEquiv, pair, uint16, BigEndian.encode]

/-- The format of the contents of a configuration. -/
def contents : WireFormat EchConfigContents :=
  (pair keyConfig (pair byte (pair (sized 1) (list 2 extension extension_nonempty)))).ofEquiv {
    toFun := fun fields => ⟨fields.1, fields.2.1, fields.2.2.1, fields.2.2.2⟩
    invFun := fun contents =>
      (contents.keyConfig, contents.maximumNameLength, contents.publicName, contents.extensions) }

/-- The contents of a configuration of the draft's version. -/
def viewDraft18 : EchConfig → Option EchConfigContents
  | .draft18 contents => some contents
  | .other _ _ _ => none

/-- The contents of a configuration of another version. -/
def viewOther (label : UInt16) : EchConfig → Option Bytes
  | .draft18 _ => none
  | .other version _ contents => if version = label then some contents else none

theorem viewDraft18_eq_some_iff {value : EchConfigContents} {config : EchConfig} :
    viewDraft18 config = some value ↔ .draft18 value = config := by
  cases config <;> simp [viewDraft18, eq_comm]

theorem viewOther_eq_some_iff {label : UInt16} {known : label ≠ draft18Version} {value : Bytes}
    {config : EchConfig} :
    viewOther label config = some value ↔ .other label known value = config := by
  cases config <;> simp [viewOther, eq_comm]

/-- What follows the version of a configuration. -/
def body (label : UInt16) : WireFormat EchConfig :=
  if known : label = draft18Version then
    (framed 2 contents.whole).via .draft18 viewDraft18 viewDraft18_eq_some_iff
  else
    (sized 2).via (.other label known) (viewOther label) viewOther_eq_some_iff

theorem version_of_valid {label : UInt16} {config : EchConfig}
    (valid : (body label).Valid config) : config.version = label := by
  rw [body] at valid
  split_ifs at valid with known
  · obtain ⟨value, viewed, -⟩ := valid
    obtain rfl := viewDraft18_eq_some_iff.mp viewed
    exact known.symm
  · obtain ⟨value, viewed, -⟩ := valid
    obtain rfl := (@viewOther_eq_some_iff _ known _ _).mp viewed
    rfl

/-- The format of a configuration. -/
def config : WireFormat EchConfig := tagged uint16 EchConfig.version body version_of_valid

theorem config_nonempty (value : EchConfig) : config.encode value ≠ [] := by
  simp [config, tagged, uint16, BigEndian.encode]

/-- `ECHConfigList` of the draft. -/
def configList : WireFormat (List EchConfig) := list 2 config config_nonempty

theorem valid_keyConfig (config : HpkeKeyConfig) :
    keyConfig.Valid config ↔ config.publicKey.length < 256 ^ 2 ∧
      (cipherSuite.encodeMany config.cipherSuites).length < 256 ^ 2 := by
  constructor
  · rintro ⟨-, -, key, -, suites⟩
    exact ⟨key, suites⟩
  · rintro ⟨key, suites⟩
    exact ⟨trivial, trivial, key, fun _ _ => ⟨trivial, trivial⟩, suites⟩

theorem valid_contents (value : EchConfigContents) :
    contents.Valid value ↔ keyConfig.Valid value.keyConfig ∧ value.publicName.length < 256 ^ 1 ∧
      (∀ other ∈ value.extensions, extension.Valid other) ∧
        (extension.encodeMany value.extensions).length < 256 ^ 2 := by
  constructor
  · rintro ⟨key, -, rest⟩
    exact ⟨key, rest⟩
  · rintro ⟨key, rest⟩
    exact ⟨key, trivial, rest⟩

/-- The format of a configuration of the draft's version. -/
theorem encode_draft18 (value : EchConfigContents) :
    config.encode (.draft18 value) = BigEndian.encode 2 draft18Version.toNat ++
      (BigEndian.encode 2 (contents.encode value).length ++ contents.encode value) := rfl

theorem length_encode_draft18 (value : EchConfigContents) :
    (config.encode (.draft18 value)).length = (contents.encode value).length + 4 := by
  rw [encode_draft18]
  simp only [List.length_append, BigEndian.length_encode]
  omega

theorem valid_draft18 (value : EchConfigContents) :
    config.Valid (.draft18 value) ↔
      contents.Valid value ∧ (contents.encode value).length < 256 ^ 2 := by
  have body_eq : body draft18Version =
      (framed 2 contents.whole).via .draft18 viewDraft18 viewDraft18_eq_some_iff := dif_pos rfl
  have viewed : viewDraft18 (.draft18 value) = some value := rfl
  change True ∧ (body draft18Version).Valid (.draft18 value) ↔ _
  rw [body_eq, valid_via viewed, true_and]
  rfl

/-- The format of a list of one configuration of the draft's version. -/
theorem encode_singleton_draft18 (value : EchConfigContents) :
    configList.encode [.draft18 value] =
      BigEndian.encode 2 (config.encode (.draft18 value)).length ++
        config.encode (.draft18 value) := by
  have many : config.encodeMany [.draft18 value] = config.encode (.draft18 value) :=
    List.append_nil _
  change BigEndian.encode 2 (config.encodeMany [.draft18 value]).length ++
    config.encodeMany [.draft18 value] = _
  rw [many]

theorem valid_singleton (value : EchConfig) :
    configList.Valid [value] ↔ config.Valid value ∧ (config.encode value).length < 256 ^ 2 := by
  have many : config.encodeMany [value] = config.encode value := List.append_nil _
  change (∀ other ∈ [value], config.Valid other) ∧ (config.encodeMany [value]).length < 256 ^ 2 ↔ _
  rw [many, List.forall_mem_singleton]

end EchFormat

/-! ## The encoding is in the format -/

/-- The contents that are minted: one cipher suite and no extension. -/
def mintedContents (ids : SuiteIds) (configId : UInt8) (pkBytes publicNameBytes : Bytes)
    (maximumNameLength : UInt8) : EchConfigContents where
  keyConfig := ⟨configId, ids.kemId, pkBytes, [⟨ids.kdfId, ids.aeadId⟩]⟩
  maximumNameLength := maximumNameLength
  publicName := publicNameBytes
  extensions := []

section Minted

variable (ids : SuiteIds) (configId : UInt8) (pkBytes publicNameBytes : Bytes)
  (maximumNameLength : UInt8)

theorem encode_mintedContents :
    EchFormat.contents.encode
        (mintedContents ids configId pkBytes publicNameBytes maximumNameLength) =
      [configId] ++ BigEndian.encode 2 ids.kemId.toNat ++
        BigEndian.encode 2 pkBytes.length ++ pkBytes ++ BigEndian.encode 2 4 ++
        BigEndian.encode 2 ids.kdfId.toNat ++ BigEndian.encode 2 ids.aeadId.toNat ++
        [maximumNameLength] ++ BigEndian.encode 1 publicNameBytes.length ++ publicNameBytes ++
        BigEndian.encode 2 0 := by
  have suites : EchFormat.cipherSuite.encodeMany [⟨ids.kdfId, ids.aeadId⟩] =
      BigEndian.encode 2 ids.kdfId.toNat ++ BigEndian.encode 2 ids.aeadId.toNat :=
    List.append_nil _
  have written : EchFormat.contents.encode
        (mintedContents ids configId pkBytes publicNameBytes maximumNameLength) =
      ([configId] ++ (BigEndian.encode 2 ids.kemId.toNat ++
        ((BigEndian.encode 2 pkBytes.length ++ pkBytes) ++
        (BigEndian.encode 2 (EchFormat.cipherSuite.encodeMany
            [⟨ids.kdfId, ids.aeadId⟩]).length ++
          EchFormat.cipherSuite.encodeMany [⟨ids.kdfId, ids.aeadId⟩])))) ++
        ([maximumNameLength] ++ ((BigEndian.encode 1 publicNameBytes.length ++ publicNameBytes) ++
          (BigEndian.encode 2 0 ++ []))) := rfl
  rw [written, suites, List.length_append, BigEndian.length_encode, BigEndian.length_encode]
  simp only [List.append_assoc, List.append_nil]

theorem length_encode_mintedContents :
    (EchFormat.contents.encode
        (mintedContents ids configId pkBytes publicNameBytes maximumNameLength)).length =
      15 + pkBytes.length + publicNameBytes.length := by
  rw [encode_mintedContents]
  simp only [List.length_append, List.length_singleton, BigEndian.length_encode]
  omega

theorem valid_mintedContents :
    EchFormat.contents.Valid
        (mintedContents ids configId pkBytes publicNameBytes maximumNameLength) ↔
      pkBytes.length < 256 ^ 2 ∧ publicNameBytes.length < 256 ^ 1 := by
  have suites : (EchFormat.cipherSuite.encodeMany
      [⟨ids.kdfId, ids.aeadId⟩]).length < 256 ^ 2 := by
    change 4 < 256 ^ 2
    omega
  rw [EchFormat.valid_contents, EchFormat.valid_keyConfig, mintedContents]
  constructor
  · rintro ⟨⟨key, -⟩, name, -⟩
    exact ⟨key, name⟩
  · rintro ⟨key, name⟩
    exact ⟨⟨key, suites⟩, name, by simp, by simp [WireFormat.encodeMany]⟩

variable {ids configId pkBytes publicNameBytes maximumNameLength} {contents configList : Bytes}

/-- The contents are written whenever the key and the name fit their lengths. -/
theorem encodeContents_eq_ok_iff :
    encodeContents ids configId pkBytes publicNameBytes maximumNameLength = .ok contents ↔
      (pkBytes.length < 256 ^ 2 ∧ publicNameBytes.length < 256 ^ 1) ∧
      EchFormat.contents.encode
        (mintedContents ids configId pkBytes publicNameBytes maximumNameLength) = contents := by
  simp only [encodeContents, Except.bind_eq_ok_iff, lengthField_eq_ok_iff, Except.pure_eq_ok_iff,
    encode_mintedContents]
  constructor
  · rintro ⟨_, ⟨key, rfl⟩, _, ⟨name, rfl⟩, written⟩
    exact ⟨⟨key, name⟩, written⟩
  · rintro ⟨⟨key, name⟩, written⟩
    exact ⟨_, ⟨key, rfl⟩, _, ⟨name, rfl⟩, written⟩

/-- A list is written around contents whenever both lengths around them fit. -/
theorem wrapConfigList_eq_ok_iff (value : EchConfigContents) :
    wrapConfigList (EchFormat.contents.encode value) = .ok configList ↔
      (EchFormat.contents.encode value).length + 4 < 256 ^ 2 ∧
        EchFormat.configList.encode [.draft18 value] = configList := by
  have wrapped := EchFormat.length_encode_draft18 value
  simp only [wrapConfigList, Except.bind_eq_ok_iff, lengthField_eq_ok_iff, Except.pure_eq_ok_iff,
    List.append_assoc]
  constructor
  · rintro ⟨_, ⟨-, rfl⟩, _, ⟨fits, rfl⟩, written⟩
    rw [← EchFormat.encode_draft18] at fits written
    exact ⟨wrapped ▸ fits, (EchFormat.encode_singleton_draft18 value).trans written⟩
  · rintro ⟨fits, written⟩
    rw [EchFormat.encode_singleton_draft18] at written
    refine ⟨_, ⟨by omega, rfl⟩, _, ⟨?_, rfl⟩, ?_⟩
    · rw [← EchFormat.encode_draft18, wrapped]
      exact fits
    · rw [← EchFormat.encode_draft18]
      exact written

/-- Contents and list are written whenever every length fits. -/
theorem encoded_eq_ok_iff :
    (encodeContents ids configId pkBytes publicNameBytes maximumNameLength >>=
        wrapConfigList) = .ok configList ↔
      (publicNameBytes.length < 256 ∧ 19 + pkBytes.length + publicNameBytes.length < 65536) ∧
      EchFormat.configList.encode [.draft18
        (mintedContents ids configId pkBytes publicNameBytes maximumNameLength)] = configList := by
  simp only [Except.bind_eq_ok_iff, encodeContents_eq_ok_iff]
  constructor
  · rintro ⟨_, ⟨⟨-, name⟩, rfl⟩, wrapped⟩
    obtain ⟨fits, written⟩ := (wrapConfigList_eq_ok_iff _).mp wrapped
    rw [length_encode_mintedContents] at fits
    exact ⟨⟨by omega, by omega⟩, written⟩
  · rintro ⟨⟨name, fits⟩, written⟩
    refine ⟨_, ⟨⟨by omega, by omega⟩, rfl⟩, (wrapConfigList_eq_ok_iff _).mpr ⟨?_, written⟩⟩
    rw [length_encode_mintedContents]
    omega

/-- What is written is read back. -/
theorem decodeAll_of_encoded
    (encoded : (encodeContents ids configId pkBytes publicNameBytes maximumNameLength >>=
        wrapConfigList) = .ok configList) :
    EchFormat.configList.decodeAll configList = some [.draft18
      (mintedContents ids configId pkBytes publicNameBytes maximumNameLength)] := by
  obtain ⟨⟨name, fits⟩, rfl⟩ := encoded_eq_ok_iff.mp encoded
  apply (WireFormat.decodeAll_eq_some_iff _).mpr
  refine ⟨?_, rfl⟩
  rw [EchFormat.valid_singleton, EchFormat.valid_draft18, valid_mintedContents,
    EchFormat.length_encode_draft18, length_encode_mintedContents]
  omega

variable (ids configId pkBytes publicNameBytes maximumNameLength)

/-- The encoding succeeds exactly when every length fits, and is then read back as the one
configuration that was encoded. -/
theorem encodeContents_wrapConfigList_exact :
    ((∃ configList, (encodeContents ids configId pkBytes publicNameBytes maximumNameLength >>=
        wrapConfigList) = .ok configList) ↔
      publicNameBytes.length ≤ 255 ∧ 19 + pkBytes.length + publicNameBytes.length ≤ 65535) ∧
    ∀ configList, (encodeContents ids configId pkBytes publicNameBytes maximumNameLength >>=
        wrapConfigList) = .ok configList →
      EchFormat.configList.decodeAll configList = some [.draft18 {
        keyConfig := {
          configId := configId
          kemId := ids.kemId
          publicKey := pkBytes
          cipherSuites := [⟨ids.kdfId, ids.aeadId⟩] }
        maximumNameLength := maximumNameLength
        publicName := publicNameBytes
        extensions := [] }] := by
  constructor
  · constructor
    · rintro ⟨configList, encoded⟩
      have fits := (encoded_eq_ok_iff.mp encoded).1
      omega
    · intro fits
      exact ⟨_, encoded_eq_ok_iff.mpr ⟨by omega, rfl⟩⟩
  · intro configList encoded
    exact decodeAll_of_encoded encoded

end Minted

/-! ## Generated configurations -/

/-- A generated list holds the generated public key, and is read back as one configuration. -/
theorem decodeAll_of_generated {echConfigNew : Bytes → Except String Unit} {suite : Hpke}
    {random : Bytes} {configId : UInt8} {publicName : String} {maximumNameLength : UInt8}
    {generated : GeneratedEchConfig}
    (accepted : generateEchConfigList echConfigNew suite random configId publicName
      maximumNameLength = .ok generated) :
    suite.generateKeyPair random = .ok (generated.publicKey, generated.privateKey) ∧
    generated.configId = configId ∧
    EchFormat.configList.decodeAll generated.configList = some [.draft18
      (mintedContents suite.suite configId generated.publicKey publicName.toUTF8.data.toList
        maximumNameLength)] := by
  simp only [generateEchConfigList, Except.bind_eq_ok_iff, Except.mapError_eq_ok_iff,
    Except.pure_eq_ok_iff] at accepted
  obtain ⟨⟨publicKey, privateKey⟩, keys, contents, encoded, configList, wrapped, -, -, rfl⟩ :=
    accepted
  refine ⟨keys, rfl, decodeAll_of_encoded ?_⟩
  exact Except.bind_eq_ok_iff.mpr ⟨contents, encoded, wrapped⟩

/-- The keys of the four suites are short. -/
theorem length_publicKey_le {crates : KemCrates} {kem : HpkeKem} {aead : HpkeAead}
    {random publicKey privateKey : Bytes}
    (generated : (pureHpkeSuite crates kem aead).generateKeyPair random =
      .ok (publicKey, privateKey)) : publicKey.length ≤ 65 := by
  cases kem with
  | x25519 =>
      simp only [pureHpkeSuite, KemX25519.generate, Except.bind_eq_ok_iff,
        Except.pure_eq_ok_iff] at generated
      obtain ⟨⟨secret, rest⟩, -, keys⟩ := generated
      obtain ⟨rfl, -⟩ := Prod.mk.inj keys
      rw [Vector.length_toList]
      omega
  | p256 =>
      simp only [pureHpkeSuite, KemP256.generate, Except.bind_eq_ok_iff,
        Except.pure_eq_ok_iff] at generated
      obtain ⟨secret, -, keys⟩ := generated
      obtain ⟨rfl, -⟩ := Prod.mk.inj keys
      rw [Vector.length_toList]

/-- With the keys of the four suites only the public name decides whether the encoding succeeds. -/
theorem pure_encoded_iff {crates : KemCrates} {kem : HpkeKem} {aead : HpkeAead}
    {random publicKey privateKey : Bytes}
    (generated : (pureHpkeSuite crates kem aead).generateKeyPair random =
      .ok (publicKey, privateKey)) (configId : UInt8) (publicNameBytes : Bytes)
    (maximumNameLength : UInt8) :
    (∃ configList, (encodeContents (pureHpkeSuite crates kem aead).suite configId publicKey
        publicNameBytes maximumNameLength >>= wrapConfigList) = .ok configList) ↔
      publicNameBytes.length ≤ 255 := by
  have short := length_publicKey_le generated
  constructor
  · rintro ⟨configList, encoded⟩
    have fits := (encoded_eq_ok_iff.mp encoded).1.1
    omega
  · intro fits
    exact ⟨_, encoded_eq_ok_iff.mpr ⟨by omega, rfl⟩⟩

end OxiTls
