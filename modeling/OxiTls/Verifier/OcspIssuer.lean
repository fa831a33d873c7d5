import OxiTls.Verifier.OcspAcceptance

/-!
# The issuer a staple is bound to

A required staple is checked against the first certificate the peer presents.  Nothing in the check
ties that certificate to the end entity, so the staple vouches for the end entity exactly when the
presented chain happens to be genuine.
-/

namespace OxiTls

namespace Crates

variable (crates : Crates)

/-- A certificate that really issued another: the names chain and the signature verifies. -/
def Issued (issuer endEntity : Certificate) : Prop :=
  issuer.tbsCertificate.subject = endEntity.tbsCertificate.issuer ∧
    crates.SignedBy endEntity issuer

/-- The data of a response in which a certificate, as its own responder, calls one serial good. -/
def goodResponse (issuer : Certificate) (nameDer serial : Bytes) (now : Nat) : ResponseData where
  version := 0
  responderId := .byName issuer.tbsCertificate.subject
  producedAt := now
  responses :=
    [{ certId :=
        { hashAlgorithm := ⟨oidSha256, none⟩
          issuerNameHash := (crates.sha256 nameDer).toList
          issuerKeyHash := (crates.sha256
            issuer.tbsCertificate.subjectPublicKeyInfo.subjectPublicKey).toList
          serialNumber := serial }
       certStatus := .good
       thisUpdate := now
       nextUpdate := none
       singleExtensions := none }]
  responseExtensions := none

/-- What the holder of a certificate's key can do: encode its name and key, sign a good response
for a serial under some algorithm, and wrap it as a staple. -/
def CanStaple (issuer : Certificate) (serial : Bytes) : Prop :=
  ∃ nameDer spki now tbsDer algorithm signature respBytes staple,
    crates.nameToDer issuer.tbsCertificate.subject = .ok nameDer ∧
      crates.spkiToDer issuer.tbsCertificate.subjectPublicKeyInfo = .ok spki ∧
      crates.responseDataToDer (crates.goodResponse issuer nameDer serial now) = .ok tbsDer ∧
      crates.verifyOcspSignature spki tbsDer algorithm.oid signature = .ok () ∧
      crates.basicOcspResponseFromDer respBytes.response =
        .ok ⟨crates.goodResponse issuer nameDer serial now, algorithm, signature, none⟩ ∧
      crates.ocspResponseFromDer staple = .ok ⟨.successful, some respBytes⟩ ∧
      staple ≠ []

/-- A certificate that can staple makes the check good for any end entity with that serial,
whether or not it issued it. -/
theorem stapleGood_of_canStaple {issuerDer endEntityDer : Bytes} {issuer endEntity : Certificate}
    (issuer_parses : crates.certificateFromDer issuerDer = .ok issuer)
    (endEntity_parses : crates.certificateFromDer endEntityDer = .ok endEntity)
    (can : crates.CanStaple issuer endEntity.tbsCertificate.serialNumber) :
    ∃ staple now, crates.StapleGood staple endEntityDer (some issuerDer) now := by
  obtain ⟨nameDer, spki, now, tbsDer, algorithm, signature, respBytes, staple, name_encodes,
    key_encodes, data_encodes, signs, basic_decodes, envelope, nonempty⟩ := can
  refine ⟨staple, now, _, issuer, endEntity,
    ⟨⟨issuerDer, rfl, issuer_parses⟩, endEntity_parses,
      ⟨tbsDer, spki, ⟨nonempty, ⟨_, respBytes, envelope, rfl, rfl, basic_decodes⟩, data_encodes⟩,
        ?_, signs⟩⟩, ?_, ?_⟩
  · simpa [SignerKey] using key_encodes
  · refine ⟨_, List.mem_singleton_self _, ⟨rfl, nameDer, name_encodes, ?_, ?_⟩, rfl,
      Nat.le_refl _, ?_⟩
    · simp [ocspDigest, oidSha1, oidSha256]
    · simp [ocspDigest, oidSha1, oidSha256]
    · simp
  · intro sr member _
    obtain rfl := List.mem_singleton.mp member
    rfl

end Crates

namespace OcspClientVerifier

variable (crates : Crates)

/-- The required staple of a chain is bound to the real issuer: whatever the staple, the time and
the inner verifier, acceptance means that the certificate used as the issuer issued the end
entity. -/
def BoundToIssuer (endEntity : Bytes) (intermediates : List Bytes) : Prop :=
  ∀ (inner : ServerCertVerifier) (serverName : String) (staple : Bytes) (now : Nat),
    (toVerifier crates ⟨inner, .hardRequire⟩).Accepts
        ⟨endEntity, intermediates, serverName, staple, now⟩ →
      ∃ der issuer leaf, issuerDer crates endEntity intermediates = some der ∧
        crates.certificateFromDer der = .ok issuer ∧
        crates.certificateFromDer endEntity = .ok leaf ∧ crates.Issued issuer leaf

/-- The certificate the code takes as the issuer issued the end entity, if there is one and both
parse. -/
def GenuineIssuer (endEntity : Bytes) (intermediates : List Bytes) : Prop :=
  ∀ der issuer leaf, issuerDer crates endEntity intermediates = some der →
    crates.certificateFromDer der = .ok issuer → crates.certificateFromDer endEntity = .ok leaf →
      crates.Issued issuer leaf

theorem boundToIssuer_of_genuineIssuer {endEntity : Bytes} {intermediates : List Bytes}
    (genuine : GenuineIssuer crates endEntity intermediates) :
    BoundToIssuer crates endEntity intermediates := by
  intro inner serverName staple now accepted
  rw [accepts_iff_refusal_eq_none crates inner (by simp), refusal_hardRequire_eq_none_iff,
    crates.checkOcspStaple_eq_good_iff] at accepted
  obtain ⟨_, basic, issuer, leaf, ⟨⟨der, resolved, issuer_parses⟩, leaf_parses, _⟩, _, _⟩ :=
    accepted
  exact ⟨der, issuer, leaf, resolved, issuer_parses, leaf_parses,
    genuine der issuer leaf resolved issuer_parses leaf_parses⟩

/-- When the certificate taken as the issuer can staple, the binding holds exactly for genuine
chains: a chain headed by any other certificate has a staple that is accepted. -/
theorem boundToIssuer_iff_genuineIssuer (endEntity : Bytes) (intermediates : List Bytes)
    (can : ∀ der issuer leaf, issuerDer crates endEntity intermediates = some der →
      crates.certificateFromDer der = .ok issuer → crates.certificateFromDer endEntity = .ok leaf →
        crates.CanStaple issuer leaf.tbsCertificate.serialNumber) :
    BoundToIssuer crates endEntity intermediates ↔
      GenuineIssuer crates endEntity intermediates := by
  refine ⟨?_, boundToIssuer_of_genuineIssuer crates⟩
  intro bound der issuer leaf resolved issuer_parses leaf_parses
  obtain ⟨staple, now, good⟩ := crates.stapleGood_of_canStaple issuer_parses leaf_parses
    (can der issuer leaf resolved issuer_parses leaf_parses)
  have accepted : (toVerifier crates ⟨.acceptAll, .hardRequire⟩).Accepts
      ⟨endEntity, intermediates, "", staple, now⟩ := by
    rw [accepts_iff_refusal_eq_none crates _ (by simp), refusal_hardRequire_eq_none_iff,
      crates.checkOcspStaple_eq_good_iff]
    exact ⟨rfl, resolved ▸ good⟩
  obtain ⟨der', issuer', leaf', resolved', issuer_parses', leaf_parses', issued⟩ :=
    bound _ _ _ _ accepted
  obtain rfl := Option.some.inj (resolved.symm.trans resolved')
  obtain rfl := Except.ok.inj (issuer_parses.symm.trans issuer_parses')
  obtain rfl := Except.ok.inj (leaf_parses.symm.trans leaf_parses')
  exact issued

/-! ## A rogue first intermediate -/

/-- A name with a single attribute. -/
def sampleName (value : UInt8) : Name := ⟨[(⟨[2, 5, 4, 3]⟩, [value])]⟩

/-- A certificate over one-byte names and keys. -/
def sampleCertificate (serial issuer subject key : UInt8) (signature : Bytes) : Certificate where
  tbsCertificate :=
    { version := 2
      serialNumber := [serial]
      signature := ⟨oidEcdsaWithSha256, none⟩
      issuer := sampleName issuer
      notBefore := 0
      notAfter := 1000
      subject := sampleName subject
      subjectPublicKeyInfo := ⟨⟨oidEcdsaWithSha256, none⟩, [key]⟩
      issuerUniqueId := none
      subjectUniqueId := none
      extensions := none }
  signatureAlgorithm := ⟨oidEcdsaWithSha256, none⟩
  signature := signature

/-- Leaf 7, issued by the authority 1 and signed with its key 11. -/
def sampleLeaf : Certificate := sampleCertificate 7 1 2 12 [11, 7]

/-- The authority that issued the leaf. -/
def sampleAuthority : Certificate := sampleCertificate 1 1 1 11 [11, 1]

/-- An unrelated certificate 3 of the peer, with its own key 13. -/
def sampleRogue : Certificate := sampleCertificate 3 3 3 13 [13, 3]

/-- Crates over these three certificates, whose DER is one byte each.  A signature is the key
followed by the message. -/
def rogueCrates : Crates :=
  { Crates.inert with
    certificateFromDer := fun der =>
      if der = [1] then .ok sampleLeaf
      else if der = [2] then .ok sampleRogue
      else if der = [3] then .ok sampleAuthority
      else .error "malformed certificate"
    tbsCertificateToDer := fun tbs => .ok tbs.serialNumber
    nameToDer := fun name => .ok (name.attributes.flatMap Prod.snd)
    spkiToDer := fun spki => .ok spki.subjectPublicKey
    responseDataToDer := fun data => .ok (data.responses.flatMap (·.certId.serialNumber))
    ocspResponseFromDer := fun der =>
      if der = [20] then .ok ⟨.successful, some ⟨⟨[1, 3, 6, 1, 5, 5, 7, 48, 1, 1]⟩, [21]⟩⟩
      else .error "malformed response"
    basicOcspResponseFromDer := fun der =>
      if der = [21] then
        .ok ⟨Crates.inert.goodResponse sampleRogue [3] [7] 100, ⟨oidEcdsaWithSha256, none⟩,
          [13, 7], none⟩
      else .error "malformed response"
    spkiRefRawBytes := .ok
    p256 :=
      { verifyingKey := .ok
        signature := .ok
        verify := fun key message signature => signature == key ++ message } }

/-- An inner verifier that, like webpki, finds the authority and ignores the rest of the chain. -/
def pathBuilder : ServerCertVerifier where
  verifyServerCert presented :=
    if [3] ∈ presented.intermediates then .accept
    else .refuse (.invalidCertificate (.other "UnknownIssuer"))

/-- The chain and the staple of a peer that puts its own certificate first. -/
def rogueHandshake : Presented := ⟨[1], [[2], [3]], "leaf.example", [20], 100⟩

/-- The peer's own certificate vouches for the leaf: the handshake is accepted although the
certificate the staple was checked with did not issue the leaf. -/
theorem rogueHandshake_accepted :
    (toVerifier rogueCrates ⟨pathBuilder, .hardRequire⟩).Accepts rogueHandshake ∧
      ¬ BoundToIssuer rogueCrates rogueHandshake.endEntity rogueHandshake.intermediates := by
  have accepted :
      (toVerifier rogueCrates ⟨pathBuilder, .hardRequire⟩).Accepts rogueHandshake := rfl
  refine ⟨accepted, fun bound => ?_⟩
  obtain ⟨der, issuer, leaf, resolved, issuer_parses, leaf_parses, names, _⟩ :=
    bound _ _ _ _ accepted
  obtain rfl : [2] = der := Option.some.inj resolved
  obtain rfl : sampleRogue = issuer := Except.ok.inj issuer_parses
  obtain rfl : sampleLeaf = leaf := Except.ok.inj leaf_parses
  exact absurd names (by decide)

theorem sampleRogue_canStaple : rogueCrates.CanStaple sampleRogue [7] :=
  ⟨[3], [13], 100, [7], ⟨oidEcdsaWithSha256, none⟩, [13, 7],
    ⟨⟨[1, 3, 6, 1, 5, 5, 7, 48, 1, 1]⟩, [21]⟩, [20], rfl, rfl, rfl, rfl, rfl, rfl, by simp⟩

/-- The rogue chain meets the hypothesis of the equivalence, so both of its sides fail. -/
theorem boundToIssuer_iff_genuineIssuer_rogue :
    BoundToIssuer rogueCrates [1] [[2], [3]] ↔ GenuineIssuer rogueCrates [1] [[2], [3]] := by
  apply boundToIssuer_iff_genuineIssuer
  intro der issuer leaf resolved issuer_parses leaf_parses
  obtain rfl : [2] = der := Option.some.inj resolved
  obtain rfl : sampleRogue = issuer := Except.ok.inj issuer_parses
  obtain rfl : sampleLeaf = leaf := Except.ok.inj leaf_parses
  exact sampleRogue_canStaple

end OcspClientVerifier

end OxiTls
