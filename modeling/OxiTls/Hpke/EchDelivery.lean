import OxiTls.Hpke.Contexts
import OxiTls.Hpke.EchConfig

/-!
# From a minted configuration to an opened message

`generate_ech_config_list` publishes a list and keeps a private key.  A client that reads the list
strictly finds one of the four suites in it and seals to its public key; what it seals is opened
with the private key.
-/

namespace OxiTls

/-- `ALL_SUITES`, the suites of `pure_hpke_suites`, by their KEM and AEAD. -/
def pureHpkeSuites : List (HpkeKem × HpkeAead) :=
  [(.x25519, .aes128Gcm), (.x25519, .chacha20), (.p256, .aes128Gcm), (.p256, .chacha20)]

/-- The configuration names the suite: its KEM is that of the public key, and its KDF and AEAD are
listed. -/
def EchConfigContents.names (contents : EchConfigContents) (suite : HpkeKem × HpkeAead) : Bool :=
  contents.keyConfig.kemId = suite.1.constants.kemId ∧
    ⟨0x0001, suite.2.id⟩ ∈ contents.keyConfig.cipherSuites

/-- Minted contents name the suite that minted them and no other. -/
theorem filter_names_minted (crates : KemCrates) (kem : HpkeKem) (aead : HpkeAead)
    (configId : UInt8) (publicKey publicName : Bytes) (maximumNameLength : UInt8) :
    pureHpkeSuites.filter (mintedContents (pureHpkeSuite crates kem aead).suite configId publicKey
      publicName maximumNameLength).names = [(kem, aead)] := by
  cases kem <;> cases aead <;> rfl

/-- The keys that the four suites generate agree. -/
theorem generateKeyPair_agrees {crates : KemCrates} (commutes : crates.x25519.Commutative)
    (correct : crates.p256.Correct) {kem : HpkeKem} {aead : HpkeAead}
    {random publicKey privateKey : Bytes}
    (generated : (pureHpkeSuite crates kem aead).generateKeyPair random =
      .ok (publicKey, privateKey)) :
    ((kem.impl crates).kem crates.hkdf).Agrees publicKey privateKey := by
  cases kem with
  | x25519 => exact KemX25519.generate_agrees commutes generated
  | p256 => exact KemP256.generate_agrees correct generated

/-- What is sealed to a public key opens with a private key that agrees with it. -/
theorem HpkeSuiteImpl.openCiphertext_of_sealPlaintext {suite : HpkeSuiteImpl}
    (inverts : suite.aead.Inverts) {publicKey privateKey : Bytes}
    (agrees : suite.kem.Agrees publicKey privateKey) {random info aad plaintext enc ct : Bytes}
    (sealed : suite.sealPlaintext random info aad plaintext publicKey = .ok (enc, ct)) :
    suite.openCiphertext enc info aad ct privateKey = .ok plaintext := by
  simp only [sealPlaintext, Except.bind_eq_ok_iff, Except.pure_eq_ok_iff] at sealed
  obtain ⟨⟨sharedSecret, enc'⟩, encapsulated, km, scheduled, ct', encrypted, same⟩ := sealed
  obtain ⟨rfl, rfl⟩ := Prod.mk.inj same
  simp only [openCiphertext, Except.bind_eq_ok_iff]
  exact ⟨sharedSecret, agrees random sharedSecret enc' encapsulated, km, scheduled,
    inverts _ _ _ _ _ encrypted⟩

/-- The list that is published and the private key that is kept belong together: the strict reader
finds one configuration, which names the suite that minted it and no other of the four; what a
client seals to the public key in it, in one shot or in a run of calls on a context, the private key
opens. -/
theorem ech_minted_list_reaches_private_key (crates : KemCrates)
    (commutes : crates.x25519.Commutative) (correct : crates.p256.Correct) (ciphers : RustCrypto)
    (echConfigNew : Bytes → Except String Unit) (kem : HpkeKem) (aead : HpkeAead) (random : Bytes)
    (configId : UInt8) (publicName : String) (maximumNameLength : UInt8)
    (generated : GeneratedEchConfig)
    (minted : generateEchConfigList echConfigNew (pureHpkeSuite crates kem aead) random configId
      publicName maximumNameLength = .ok generated) :
    ∃ contents, EchFormat.configList.decodeAll generated.configList = some [.draft18 contents] ∧
      pureHpkeSuites.filter contents.names = [(kem, aead)] ∧
      ∀ suite ∈ pureHpkeSuites, contents.names suite →
        let client := hpkeSuite crates ciphers suite.1 suite.2
        let server := hpkeSuite crates ciphers kem aead
        (∀ random info aad plaintext enc ct,
          client.sealPlaintext random info aad plaintext contents.keyConfig.publicKey =
              .ok (enc, ct) →
            server.openCiphertext enc info aad ct generated.privateKey = .ok plaintext) ∧
        ∀ random info enc sealer,
          client.setupSender random info contents.keyConfig.publicKey = .ok (enc, sealer) →
            ∃ opener, server.setupReceiver enc info generated.privateKey = .ok opener ∧
              ∀ calls final,
                Execution.Meets (HpkeExchange.step server.aead)
                  (HpkeExchange.Authentic server.aead) (.start sealer opener) calls →
                Execution.run (HpkeExchange.step server.aead) (.start sealer opener) calls =
                  some final →
                server.Synchronized sealer.key final := by
  obtain ⟨keys, -, decoded⟩ := decodeAll_of_generated minted
  have agrees := generateKeyPair_agrees commutes correct keys
  have named := filter_names_minted crates kem aead configId generated.publicKey
    publicName.toUTF8.data.toList maximumNameLength
  refine ⟨_, decoded, named, fun suite member names => ?_⟩
  obtain rfl : suite = (kem, aead) := by
    rw [← List.mem_singleton, ← named]
    exact List.mem_filter.mpr ⟨member, names⟩
  have inverts : (hpkeSuite crates ciphers kem aead).aead.Inverts := aead.suite_inverts ciphers
  refine ⟨fun _ _ _ _ _ _ sealed => HpkeSuiteImpl.openCiphertext_of_sealPlaintext inverts agrees
    sealed, fun _ _ _ _ setUp => ?_⟩
  obtain ⟨received, fresh⟩ := HpkeSuiteImpl.setupReceiver_of_setupSender agrees setUp
  exact ⟨_, received, fun calls final authentic executed =>
    HpkeSuiteImpl.synchronized_of_inStep inverts (HpkeExchange.InStep.of_run inverts
      (HpkeExchange.InStep.start fresh) authentic executed)⟩

/-- A configuration minted with the summing curve. -/
def summingEchConfig : GeneratedEchConfig where
  configList := [0, 60, 0xfe, 0x0d, 0, 56, 9, 0, 0x20, 0, 32] ++ List.replicate 32 7 ++
    [0, 4, 0, 1, 0, 1, 0, 9] ++ ascii "a.example" ++ [0, 0]
  privateKey := List.replicate 32 7
  publicKey := List.replicate 32 7
  configId := 9

theorem summingEchConfig_minted :
    generateEchConfigList (fun _ => .ok ()) (pureHpkeSuite summingCrates .x25519 .aes128Gcm)
      (List.replicate 32 7) 9 "a.example" 0 = .ok summingEchConfig := by
  decide +kernel

theorem ech_minted_list_reaches_private_key_summing :
    (hpkeSuite summingCrates miniatureCiphers .x25519 .aes128Gcm).openCiphertext
      (List.replicate 32 5) [1] [2] ([229, 226] ++ List.replicate 16 230)
        summingEchConfig.privateKey = .ok [3, 4] := by
  obtain ⟨contents, decoded, -, opens⟩ := ech_minted_list_reaches_private_key summingCrates
    summingX25519_commutative summingP256_correct miniatureCiphers (fun _ => .ok ()) .x25519
    .aes128Gcm (List.replicate 32 7) 9 "a.example" 0 summingEchConfig summingEchConfig_minted
  have read := (decodeAll_of_generated summingEchConfig_minted).2.2
  obtain ⟨rfl⟩ :=
    EchConfig.draft18.inj (List.cons.inj (Option.some.inj (decoded.symm.trans read))).1
  have sealed : (hpkeSuite summingCrates miniatureCiphers .x25519 .aes128Gcm).sealPlaintext
      (List.replicate 32 5) [1] [2] [3, 4] summingEchConfig.publicKey =
        .ok (List.replicate 32 5, [229, 226] ++ List.replicate 16 230) := by
    decide +kernel
  exact (opens (.x25519, .aes128Gcm) (by decide) rfl).1 _ _ _ _ _ _ sealed

end OxiTls
