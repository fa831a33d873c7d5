import OxiTls.Verifier.OcspResponses

/-!
# Genuine staples that are called forged

`determine_signer_spki` settles on one key before anything is verified: the issuer's if the
responder has the issuer's name or the response carries no certificate, and otherwise that of the
first certificate.  A staple that another authorised key signed is then reported as forged.
-/

namespace OxiTls

namespace Crates

variable (crates : Crates)

/-! ## Authorised keys -/

/-- The signature of a response verifies under the key of a certificate. -/
def VerifiesUnder (cert : Certificate) (basic : BasicOcspResponse) (tbsDer : Bytes) : Prop :=
  ∃ spki, crates.spkiToDer cert.tbsCertificate.subjectPublicKeyInfo = .ok spki ∧
    crates.verifyOcspSignature spki tbsDer basic.signatureAlgorithm.oid basic.signature = .ok ()

/-- The signature verifies under the key of the issuer, or under that of a certificate of the
response to which the issuer delegated OCSP signing. -/
def AuthorisedSignature (basic : BasicOcspResponse) (issuer : Certificate) (tbsDer : Bytes) :
    Prop :=
  crates.VerifiesUnder issuer basic tbsDer ∨
    ∃ cert ∈ basic.certs.getD [],
      crates.Delegated issuer cert ∧ crates.VerifiesUnder cert basic tbsDer

/-- A staple that an authorised key signed is not reported as forged. -/
def NeverCalledForged (staple endEntityDer : Bytes) (issuerCertDer : Option Bytes) (now : Nat) :
    Prop :=
  ∀ basic tbsDer issuer, crates.StapleDecodes staple basic tbsDer →
    crates.parseIssuer issuerCertDer = some issuer →
    crates.AuthorisedSignature basic issuer tbsDer →
      ∀ message, crates.checkOcspStaple staple endEntityDer issuerCertDer now ≠
        .badSignature message

/-! ## The signer that is settled on -/

/-- A certificate that cannot be judged: it cannot be encoded, its encoding does not parse, or its
to-be-signed part cannot be encoded. -/
def Unreadable (cert : Certificate) : Prop :=
  (∃ e, crates.certificateToDer cert = .error e) ∨
    ∃ der, crates.certificateToDer cert = .ok der ∧
      ((∃ e, crates.x509CertificateFromDer der = .error e) ∨
        crates.verifyEkuOcspSigning der = .ok () ∧
          ∃ e, crates.tbsCertificateToDer cert.tbsCertificate = .error e)

/-- The signature is that of the signer the response points to: of the issuer, when the responder
has its name, and otherwise of the first certificate, if there is one.  A first certificate that
cannot be judged does not count. -/
def PointsToSigner (basic : BasicOcspResponse) (issuer : Certificate) (tbsDer : Bytes) : Prop :=
  if basic.tbsResponseData.responderId = .byName issuer.tbsCertificate.subject then
    crates.VerifiesUnder issuer basic tbsDer
  else
    ∀ first, (basic.certs.getD []).head? = some first →
      crates.Delegated issuer first ∧ crates.VerifiesUnder first basic tbsDer ∨
        crates.Unreadable first

section Signer

variable {crates} {basic : BasicOcspResponse} {issuer : Certificate} {tbsDer : Bytes}

/-- Whichever authorised key signed, the key of the issuer can be encoded. -/
theorem AuthorisedSignature.exists_issuerSpki
    (authorised : crates.AuthorisedSignature basic issuer tbsDer) :
    ∃ spki, crates.spkiToDer issuer.tbsCertificate.subjectPublicKeyInfo = .ok spki := by
  rcases authorised with ⟨spki, encoded, _⟩ | ⟨_, _, ⟨_, spki, _, encoded, _⟩, _⟩
  · exact ⟨spki, encoded⟩
  · exact ⟨spki, encoded⟩

/-- With an issuer whose key can be encoded, it does not matter for a certificate to be read. -/
theorem unreadableUnder_iff {spki : Bytes} (cert : Certificate)
    (encoded : crates.spkiToDer issuer.tbsCertificate.subjectPublicKeyInfo = .ok spki) :
    crates.UnreadableUnder (some issuer) cert ↔ crates.Unreadable cert := by
  simp [UnreadableUnder, Unreadable, encoded]

/-! ## The verdict on an authorised staple -/

/-- When no certificate is listed, only the issuer can have signed. -/
theorem AuthorisedSignature.verifiesUnder_of_certs_eq_nil
    (authorised : crates.AuthorisedSignature basic issuer tbsDer)
    (unlisted : basic.certs.getD [] = []) :
    crates.VerifiesUnder issuer basic tbsDer := by
  rcases authorised with issued | ⟨cert, listed, _⟩
  · exact issued
  · rw [unlisted] at listed
    contradiction

/-- The signature of an authorised key passes exactly when it is that of the signer the response
points to. -/
theorem AuthorisedSignature.checked_iff_pointsToSigner
    (authorised : crates.AuthorisedSignature basic issuer tbsDer) :
    ((∃ spki, crates.CheckedUnder basic (some issuer) spki ∧
        crates.verifyOcspSignature spki tbsDer basic.signatureAlgorithm.oid basic.signature =
          .ok ()) ∨
        crates.SignerUntold basic (some issuer)) ↔
      crates.PointsToSigner basic issuer tbsDer := by
  obtain ⟨issuerSpki, encoded⟩ := authorised.exists_issuerSpki
  by_cases named : basic.tbsResponseData.responderId = .byName issuer.tbsCertificate.subject
  · simp [CheckedUnder, SignerKey, SignerUntold, PointsToSigner, VerifiesUnder, named]
  · cases listed : basic.certs.getD [] with
    | nil =>
        have issued := authorised.verifiesUnder_of_certs_eq_nil listed
        have checked : ∃ spki, crates.CheckedUnder basic (some issuer) spki ∧
            crates.verifyOcspSignature spki tbsDer basic.signatureAlgorithm.oid basic.signature =
              .ok () := by
          simpa [CheckedUnder, SignerKey, listed, VerifiesUnder] using issued
        have points : crates.PointsToSigner basic issuer tbsDer := by
          simp [PointsToSigner, named, listed]
        exact ⟨fun _ => points, fun _ => .inl checked⟩
    | cons first rest =>
        have untold : crates.SignerUntold basic (some issuer) ↔ crates.Unreadable first := by
          simpa [SignerUntold, named, listed] using unreadableUnder_iff first encoded
        rw [untold]
        simp [CheckedUnder, SignerKey, PointsToSigner, VerifiesUnder, named, listed, and_assoc]

/-- A staple that an authorised key signed escapes the verdict exactly when that signature is the
signer's it points to. -/
theorem pointsToSigner_iff_ne_badSignature {staple : Bytes} (endEntityDer : Bytes)
    {issuerCertDer : Option Bytes} (now : Nat)
    (decodes : crates.StapleDecodes staple basic tbsDer)
    (parsed : crates.parseIssuer issuerCertDer = some issuer)
    (authorised : crates.AuthorisedSignature basic issuer tbsDer) :
    (∀ message, crates.checkOcspStaple staple endEntityDer issuerCertDer now ≠
        .badSignature message) ↔
      crates.PointsToSigner basic issuer tbsDer := by
  rw [crates.checkOcspStaple_ne_badSignature_iff endEntityDer issuerCertDer now decodes, parsed]
  exact authorised.checked_iff_pointsToSigner

end Signer

/-- Genuine staples escape the verdict exactly when every one of them was signed by the signer it
points to. -/
theorem neverCalledForged_iff_pointsToSigner (staple endEntityDer : Bytes)
    (issuerCertDer : Option Bytes) (now : Nat) :
    crates.NeverCalledForged staple endEntityDer issuerCertDer now ↔
      ∀ basic tbsDer issuer, crates.StapleDecodes staple basic tbsDer →
        crates.parseIssuer issuerCertDer = some issuer →
        crates.AuthorisedSignature basic issuer tbsDer →
          crates.PointsToSigner basic issuer tbsDer := by
  constructor
  · intro never basic tbsDer issuer decodes parsed authorised
    rw [← pointsToSigner_iff_ne_badSignature endEntityDer now decodes parsed authorised]
    exact never basic tbsDer issuer decodes parsed authorised
  · intro points basic tbsDer issuer decodes parsed authorised
    rw [pointsToSigner_iff_ne_badSignature endEntityDer now decodes parsed authorised]
    exact points basic tbsDer issuer decodes parsed authorised

end Crates

namespace OcspClientVerifier

/-- A response the authority signed itself.  It names its key and, as a courtesy, carries its own
certificate. -/
def sampleDirectResponse : BasicOcspResponse where
  tbsResponseData :=
    { version := 0
      responderId := .byKey [11]
      producedAt := 100
      responses := [sampleResponse .good 7]
      responseExtensions := none }
  signatureAlgorithm := ⟨oidEcdsaWithSha256, none⟩
  signature := [11, 7]
  certs := some [sampleAuthority]

/-- The sample crates with that response as the staple. -/
def directCrates : Crates :=
  { rogueCrates with
    certificateToDer := fun cert => .ok cert.tbsCertificate.serialNumber
    x509CertificateFromDer := fun der => .ok ⟨[], der⟩
    basicOcspResponseFromDer := fun der =>
      if der = [21] then .ok sampleDirectResponse else .error "malformed response" }

/-- The authority's signature verifies under the authority's key, and the staple is called forged:
the authority's own certificate lacks the key usage of a delegate. -/
theorem sampleDirectResponse_called_forged :
    directCrates.AuthorisedSignature sampleDirectResponse sampleAuthority [7] ∧
      directCrates.checkOcspStaple [20] [1] (some [3]) 100 =
        .badSignature OcspVerifyError.missingOcspSigningEku.toText ∧
      ¬ directCrates.NeverCalledForged [20] [1] (some [3]) 100 := by
  have authorised : directCrates.AuthorisedSignature sampleDirectResponse sampleAuthority [7] :=
    .inl ⟨[11], rfl, rfl⟩
  have decodes : directCrates.StapleDecodes [20] sampleDirectResponse [7] :=
    (directCrates.decodeStaple_eq_ok_iff _ _ _).mp rfl
  have forged : directCrates.checkOcspStaple [20] [1] (some [3]) 100 =
      .badSignature OcspVerifyError.missingOcspSigningEku.toText := rfl
  refine ⟨authorised, forged, fun never => ?_⟩
  exact never sampleDirectResponse [7] sampleAuthority decodes rfl authorised _ forged

end OcspClientVerifier

end OxiTls
