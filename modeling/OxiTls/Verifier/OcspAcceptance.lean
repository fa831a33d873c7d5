import OxiTls.Verifier.OcspClient

/-!
# What the OCSP verifier accepts

The staple check passes through four functions with a dozen early returns.  This file states the
conditions they implement in their own terms — a staple that decodes, a signer that is entitled to
speak for the issuer, a response that covers the certificate — and proves that each verdict is
reached exactly under its condition.
-/

namespace OxiTls

namespace CertStatus

/-- The status is a revocation, whatever its time and reason. -/
def isRevoked : CertStatus → Bool
  | .revoked _ _ => true
  | .good | .unknown => false

end CertStatus

namespace Crates

variable (crates : Crates)

/-! ## Responses -/

/-- A response for the certificate that reports it revoked, fresh or stale. -/
def coversRevoked (issuer : Certificate) (serial : Bytes) (sr : SingleResponse) : Bool :=
  crates.certIdMatches sr.certId issuer serial && sr.certStatus.isRevoked

/-- A response for the certificate that is inside its window and reports the given status. -/
def coversCurrent (issuer : Certificate) (serial : Bytes) (now : Nat) (status : CertStatus)
    (sr : SingleResponse) : Bool :=
  crates.certIdMatches sr.certId issuer serial && decide (sr.certStatus = status) &&
    singleResponseIsCurrent sr now

theorem singleResponseIsCurrent_iff (sr : SingleResponse) (now : Nat) :
    singleResponseIsCurrent sr now = true ↔
      sr.thisUpdate ≤ now ∧ ∀ next, sr.nextUpdate = some next → now ≤ next := by
  unfold singleResponseIsCurrent
  cases window : sr.nextUpdate with
  | none => simp
  | some next =>
    by_cases early : now < sr.thisUpdate
    · have notStarted : ¬ sr.thisUpdate ≤ now := Nat.not_le.mpr early
      simp [early, notStarted]
    · have started : sr.thisUpdate ≤ now := Nat.not_lt.mp early
      simp [early, started]

/-- The scan stops at a matching revocation and otherwise only accumulates. -/
theorem scanResponses_eq (issuer : Certificate) (serial : Bytes) (now : Nat) (scan : ResponseScan)
    (responses : List SingleResponse) :
    crates.scanResponses issuer serial now scan responses =
      if responses.any (crates.coversRevoked issuer serial) then none
      else some
        { matchedAny := scan.matchedAny ||
            responses.any fun sr => crates.certIdMatches sr.certId issuer serial
          hasUnknown := scan.hasUnknown ||
            responses.any (crates.coversCurrent issuer serial now .unknown)
          goodCurrent := scan.goodCurrent ||
            responses.any (crates.coversCurrent issuer serial now .good) } := by
  induction responses generalizing scan with
  | nil => simp [scanResponses]
  | cons sr rest induction =>
      cases bound : crates.certIdMatches sr.certId issuer serial with
      | false => simp [scanResponses, coversRevoked, coversCurrent, bound, induction]
      | true =>
          cases status : sr.certStatus <;> cases current : singleResponseIsCurrent sr now <;>
            simp [scanResponses, coversRevoked, coversCurrent, CertStatus.isRevoked, bound,
              status, current, induction]

/-- For a parsed certificate and issuer, the verdict depends only on which kinds of matching
response occur: a revocation first, then a current good, then a current unknown. -/
theorem evaluateResponses_eq {endEntityDer : Bytes} {endEntity : Certificate}
    (parsed : crates.certificateFromDer endEntityDer = .ok endEntity) (issuer : Certificate)
    (responses : List SingleResponse) (now : Nat) :
    crates.evaluateResponses responses endEntityDer (some issuer) now =
      let serial := endEntity.tbsCertificate.serialNumber
      if responses.any (crates.coversRevoked issuer serial) then .revoked
      else if responses.any (crates.coversCurrent issuer serial now .good) then .good
      else if responses.any (crates.coversCurrent issuer serial now .unknown) then .unknown
      else .unparseable := by
  have matched_of_current (status : CertStatus)
      (current : responses.any (crates.coversCurrent issuer endEntity.tbsCertificate.serialNumber
        now status) = true) :
      (responses.any fun sr =>
        crates.certIdMatches sr.certId issuer endEntity.tbsCertificate.serialNumber) = true := by
    obtain ⟨sr, member, covers⟩ := List.any_eq_true.mp current
    simp only [coversCurrent, Bool.and_eq_true] at covers
    exact List.any_eq_true.mpr ⟨sr, member, covers.1.1⟩
  simp only [evaluateResponses, parsed, scanResponses_eq, Bool.false_or]
  split
  · simp_all
  · rename_i scan_eq
    split at scan_eq
    · simp at scan_eq
    · rename_i unrevoked
      obtain rfl := Option.some.inj scan_eq
      simp only [unrevoked, Bool.false_eq_true, ↓reduceIte]
      have good := matched_of_current .good
      have unknown := matched_of_current .unknown
      grind

/-! ## Decoding -/

/-- A non-empty staple that decodes to a successful basic response with re-encodable data. -/
structure StapleDecodes (staple : Bytes) (basic : BasicOcspResponse) (tbsDer : Bytes) : Prop where
  nonempty : staple ≠ []
  envelope : ∃ parsed respBytes,
    crates.ocspResponseFromDer staple = .ok parsed ∧
      parsed.responseStatus = .successful ∧
      parsed.responseBytes = some respBytes ∧
      crates.basicOcspResponseFromDer respBytes.response = .ok basic
  signedBytes : crates.responseDataToDer basic.tbsResponseData = .ok tbsDer

theorem decodeStaple_eq_ok_iff (staple : Bytes) (basic : BasicOcspResponse) (tbsDer : Bytes) :
    crates.decodeStaple staple = .ok (basic, tbsDer) ↔
      crates.StapleDecodes staple basic tbsDer := by
  unfold decodeStaple
  constructor
  · intro decoded
    split at decoded
    · simp at decoded
    · rename_i nonempty
      simp only [Except.bind_eq_ok_iff, Except.mapError_eq_ok_iff] at decoded
      obtain ⟨parsed, envelope, decoded⟩ := decoded
      split at decoded
      · simp at decoded
      · rename_i successful
        split at decoded
        · simp at decoded
        · rename_i respBytes carried
          simp only [Except.bind_eq_ok_iff, Except.mapError_eq_ok_iff, Except.pure_eq_ok_iff,
            Prod.mk.injEq] at decoded
          obtain ⟨_, inner, _, signed, rfl, rfl⟩ := decoded
          exact ⟨by simpa using nonempty,
            ⟨parsed, respBytes, envelope, by simpa using successful, carried, inner⟩, signed⟩
  · rintro ⟨nonempty, ⟨parsed, respBytes, envelope, successful, carried, inner⟩, signed⟩
    simp [nonempty, envelope, successful, carried, inner, signed, Except.mapError, Functor.map,
      Except.map]

/-- A staple that does not decode counts as absent or unparseable, nothing else. -/
theorem decodeStaple_eq_error {staple : Bytes} {verdict : OcspCheckResult}
    (failed : crates.decodeStaple staple = .error verdict) :
    verdict = .absent ∨ verdict = .unparseable := by
  unfold decodeStaple at failed
  split at failed
  · simp_all
  · cases envelope : crates.ocspResponseFromDer staple with
    | error _ => simp_all [Except.mapError, Bind.bind, Except.bind]
    | ok parsed =>
        simp only [envelope, Except.mapError, Bind.bind, Except.bind] at failed
        split at failed
        · simp_all
        · split at failed
          · simp_all
          · rename_i respBytes _
            cases inner : crates.basicOcspResponseFromDer respBytes.response with
            | error _ => simp_all
            | ok basic =>
                cases signed : crates.responseDataToDer basic.tbsResponseData <;>
                  simp_all [Pure.pure, Except.pure]

/-! ## Signers -/

theorem requireSpki_eq_ok_iff (cert : Certificate) (message : String) (spki : Bytes) :
    crates.requireSpki cert message = .ok spki ↔
      crates.spkiToDer cert.tbsCertificate.subjectPublicKeyInfo = .ok spki := by
  unfold requireSpki spkiDerFromCert
  cases crates.spkiToDer cert.tbsCertificate.subjectPublicKeyInfo <;> simp [Except.toOption]

/-- The to-be-signed part of a certificate verifies under the key of another. -/
def SignedBy (cert issuer : Certificate) : Prop :=
  ∃ issuerSpki tbsDer,
    crates.spkiToDer issuer.tbsCertificate.subjectPublicKeyInfo = .ok issuerSpki ∧
      crates.tbsCertificateToDer cert.tbsCertificate = .ok tbsDer ∧
      crates.verifyOcspSignature issuerSpki tbsDer cert.signatureAlgorithm.oid cert.signature =
        .ok ()

theorem verifyDelegation_eq_ok_iff (issuer signerCert : Certificate) :
    crates.verifyDelegation issuer signerCert = .ok () ↔ crates.SignedBy signerCert issuer := by
  simp only [verifyDelegation, Except.bind_eq_ok_iff, requireSpki_eq_ok_iff,
    Except.mapError_eq_ok_iff, SignedBy]
  constructor
  · rintro ⟨spki, encoded, tbs, signed, verified⟩
    exact ⟨spki, tbs, encoded, signed, verified⟩
  · rintro ⟨spki, tbs, encoded, signed, verified⟩
    exact ⟨spki, encoded, tbs, signed, verified⟩

/-- The certificate carries the OCSP-signing key usage. -/
def MarkedForOcsp (signerCert : Certificate) : Prop :=
  ∃ der, crates.certificateToDer signerCert = .ok der ∧ crates.verifyEkuOcspSigning der = .ok ()

/-- A certificate that may sign OCSP responses for the issuer: it carries the OCSP-signing key
usage and the issuer signed it. -/
def Delegated (issuer signerCert : Certificate) : Prop :=
  crates.MarkedForOcsp signerCert ∧ crates.SignedBy signerCert issuer

/-- The signer key of a response: the issuer's own when the responder is named as the issuer or
the response carries no certificate, and otherwise that of its first certificate, delegated by the
issuer. -/
def SignerKey (basic : BasicOcspResponse) (issuer : Certificate) (spki : Bytes) : Prop :=
  if basic.tbsResponseData.responderId = .byName issuer.tbsCertificate.subject ∨
      basic.certs.getD [] = [] then
    crates.spkiToDer issuer.tbsCertificate.subjectPublicKeyInfo = .ok spki
  else
    ∃ signerCert, (basic.certs.getD []).head? = some signerCert ∧
      crates.Delegated issuer signerCert ∧
      crates.spkiToDer signerCert.tbsCertificate.subjectPublicKeyInfo = .ok spki

/-- The key under which a response is checked.  Without an issuer the first certificate of the
response is held to its key usage alone. -/
def CheckedUnder (basic : BasicOcspResponse) (issuer : Option Certificate) (spki : Bytes) : Prop :=
  match issuer with
  | some issuer => crates.SignerKey basic issuer spki
  | none =>
      ∃ signerCert, (basic.certs.getD []).head? = some signerCert ∧
        crates.MarkedForOcsp signerCert ∧
        crates.spkiToDer signerCert.tbsCertificate.subjectPublicKeyInfo = .ok spki

/-- A certificate that cannot be judged: it cannot be encoded, its encoding does not parse, or its
to-be-signed part cannot be encoded for the check against the key of the issuer. -/
def UnreadableUnder (issuer : Option Certificate) (cert : Certificate) : Prop :=
  (∃ e, crates.certificateToDer cert = .error e) ∨
    ∃ der, crates.certificateToDer cert = .ok der ∧
      ((∃ e, crates.x509CertificateFromDer der = .error e) ∨
        crates.verifyEkuOcspSigning der = .ok () ∧
          (∃ issuerCert spki, issuer = some issuerCert ∧
            crates.spkiToDer issuerCert.tbsCertificate.subjectPublicKeyInfo = .ok spki) ∧
          ∃ e, crates.tbsCertificateToDer cert.tbsCertificate = .error e)

/-- The signer of a response cannot be told: it is not the issuer, and the response lists no
certificate or begins with one that cannot be judged. -/
def SignerUntold (basic : BasicOcspResponse) (issuer : Option Certificate) : Prop :=
  (∀ issuerCert, issuer = some issuerCert →
      basic.tbsResponseData.responderId ≠ .byName issuerCert.tbsCertificate.subject ∧
        basic.certs.getD [] ≠ []) ∧
    ∀ first, (basic.certs.getD []).head? = some first → crates.UnreadableUnder issuer first

theorem responderIsIssuer_iff (responderId : ResponderId) (issuer : Certificate) :
    responderIsIssuer responderId issuer = true ↔
      responderId = .byName issuer.tbsCertificate.subject := by
  cases responderId <;> simp [responderIsIssuer]

/-- A delegated signer is marked, and the issuer signed its certificate if there is an issuer. -/
theorem delegatedSignerSpki_eq_ok_iff (signerCert : Certificate) (issuer : Option Certificate)
    (spki : Bytes) :
    crates.delegatedSignerSpki signerCert issuer = .ok spki ↔
      crates.MarkedForOcsp signerCert ∧
        (∀ issuerCert, issuer = some issuerCert → crates.SignedBy signerCert issuerCert) ∧
        crates.spkiToDer signerCert.tbsCertificate.subjectPublicKeyInfo = .ok spki := by
  have marked : crates.MarkedForOcsp signerCert ↔
      ∃ der, crates.certToDer signerCert = .ok der ∧ crates.verifyEkuOcspSigning der = .ok () := by
    simp only [certToDer, Except.mapError_eq_ok_iff, MarkedForOcsp]
  cases issuer with
  | none =>
      simp only [delegatedSignerSpki, Except.bind_eq_ok_iff, requireSpki_eq_ok_iff, marked]
      constructor
      · rintro ⟨der, encoded, _, usage, key⟩
        exact ⟨⟨der, encoded, usage⟩, by simp, key⟩
      · rintro ⟨⟨der, encoded, usage⟩, -, key⟩
        exact ⟨der, encoded, (), usage, key⟩
  | some issuerCert =>
      simp only [delegatedSignerSpki, Except.bind_eq_ok_iff, requireSpki_eq_ok_iff, marked,
        ← verifyDelegation_eq_ok_iff, Option.some.injEq, forall_eq']
      constructor
      · rintro ⟨der, encoded, _, usage, _, signed, key⟩
        exact ⟨⟨der, encoded, usage⟩, signed, key⟩
      · rintro ⟨⟨der, encoded, usage⟩, signed, key⟩
        exact ⟨der, encoded, (), usage, (), signed, key⟩

/-- The signer is resolved from the parsed issuer and the first certificate of the response. -/
theorem determineSignerSpki_eq (basic : BasicOcspResponse) (issuerCertDer : Option Bytes) :
    crates.determineSignerSpki basic issuerCertDer =
      match crates.parseIssuer issuerCertDer, (basic.certs.getD []).head? with
      | some issuer, some first =>
          if basic.tbsResponseData.responderId = .byName issuer.tbsCertificate.subject then
            crates.requireSpki issuer "issuer SPKI re-encode failed"
          else crates.delegatedSignerSpki first (some issuer)
      | some issuer, none => crates.requireSpki issuer "issuer SPKI re-encode failed"
      | none, some first => crates.delegatedSignerSpki first none
      | none, none => .error (.responseUnparseable
          "no issuer cert provided and no delegated signer in OCSP response") := by
  have head : basic.certs.bind List.head? = (basic.certs.getD []).head? := by
    cases basic.certs <;> rfl
  rw [determineSignerSpki, head]
  cases crates.parseIssuer issuerCertDer with
  | none => cases (basic.certs.getD []).head? <;> rfl
  | some issuer =>
      by_cases named : basic.tbsResponseData.responderId = .byName issuer.tbsCertificate.subject
      · have direct := (responderIsIssuer_iff _ _).mpr named
        rw [Option.filter_some_pos direct]
        cases (basic.certs.getD []).head? <;> simp [named]
      · have indirect := (responderIsIssuer_iff _ _).not.mpr named
        rw [Option.filter_some_neg (by simpa using indirect)]
        cases (basic.certs.getD []).head? <;> simp [named]

/-- The resolved signer key is exactly the specified one. -/
theorem determineSignerSpki_eq_ok_iff_checkedUnder (basic : BasicOcspResponse)
    (issuerCertDer : Option Bytes) (spki : Bytes) :
    crates.determineSignerSpki basic issuerCertDer = .ok spki ↔
      crates.CheckedUnder basic (crates.parseIssuer issuerCertDer) spki := by
  rw [determineSignerSpki_eq]
  cases crates.parseIssuer issuerCertDer with
  | none =>
      cases listed : (basic.certs.getD []).head? with
      | none => simp [CheckedUnder, listed]
      | some first =>
          simpa [CheckedUnder, listed] using crates.delegatedSignerSpki_eq_ok_iff first none spki
  | some issuer =>
      by_cases named : basic.tbsResponseData.responderId = .byName issuer.tbsCertificate.subject
      · cases (basic.certs.getD []).head? <;>
          simpa [CheckedUnder, SignerKey, named] using crates.requireSpki_eq_ok_iff issuer _ spki
      · cases listed : basic.certs.getD [] with
        | nil =>
            simpa [CheckedUnder, SignerKey, listed] using
              crates.requireSpki_eq_ok_iff issuer _ spki
        | cons first rest =>
            simpa [CheckedUnder, SignerKey, Delegated, named, listed, and_assoc] using
              crates.delegatedSignerSpki_eq_ok_iff first (some issuer) spki

/-- With a parsed issuer the resolved signer key is exactly the specified one. -/
theorem determineSignerSpki_eq_ok_iff {issuerCertDer : Option Bytes} {issuer : Certificate}
    (parsed : crates.parseIssuer issuerCertDer = some issuer) (basic : BasicOcspResponse)
    (spki : Bytes) :
    crates.determineSignerSpki basic issuerCertDer = .ok spki ↔
      crates.SignerKey basic issuer spki := by
  rw [determineSignerSpki_eq_ok_iff_checkedUnder, parsed]
  exact Iff.rfl

theorem requireSpki_ne_unparseable (cert : Certificate) (message reason : String) :
    crates.requireSpki cert message ≠ .error (.responseUnparseable reason) := by
  rw [requireSpki]
  cases crates.spkiDerFromCert cert <;> simp

theorem verifyEkuOcspSigning_eq_unparseable_iff (der : Bytes) :
    (∃ message, crates.verifyEkuOcspSigning der = .error (.responseUnparseable message)) ↔
      ∃ e, crates.x509CertificateFromDer der = .error e := by
  constructor
  · rintro ⟨message, failed⟩
    rcases Except.bind_eq_error_iff.mp failed with unparsed | ⟨cert, _, checked⟩
    · obtain ⟨e, unparsed, _⟩ := Except.mapError_eq_error_iff.mp unparsed
      exact ⟨e, unparsed⟩
    · split at checked
      · split_ifs at checked
        · contradiction
        · cases checked
      · cases checked
  · rintro ⟨e, unparsed⟩
    refine ⟨"failed to parse delegated cert: " ++ e, Except.bind_eq_error_iff.mpr (.inl ?_)⟩
    exact Except.mapError_eq_error_iff.mpr ⟨e, unparsed, rfl⟩

/-- With an issuer whose key can be encoded, only the encoding of the certificate can be at
fault. -/
theorem verifyDelegation_eq_unparseable_iff (issuer cert : Certificate) :
    (∃ message, crates.verifyDelegation issuer cert = .error (.responseUnparseable message)) ↔
      (∃ spki, crates.spkiToDer issuer.tbsCertificate.subjectPublicKeyInfo = .ok spki) ∧
        ∃ e, crates.tbsCertificateToDer cert.tbsCertificate = .error e := by
  cases encoded : crates.spkiToDer issuer.tbsCertificate.subjectPublicKeyInfo with
  | error e =>
      have unkeyed : crates.requireSpki issuer "issuer SPKI re-encode failed" =
          .error (.spkiParse "issuer SPKI re-encode failed") := by
        simp [requireSpki, spkiDerFromCert, encoded, Except.toOption]
      simp [verifyDelegation, unkeyed, Except.bind_eq_error_iff]
  | ok spki =>
      have key := (crates.requireSpki_eq_ok_iff issuer "issuer SPKI re-encode failed" spki).mpr
        encoded
      simp only [verifyDelegation, key, Except.bind_eq_error_iff, Except.mapError_eq_error_iff]
      simp

/-- The key of a certificate is unresolved exactly when the certificate cannot be judged. -/
theorem delegatedSignerSpki_eq_unparseable_iff (cert : Certificate) (issuer : Option Certificate) :
    (∃ message, crates.delegatedSignerSpki cert issuer = .error (.responseUnparseable message)) ↔
      crates.UnreadableUnder issuer cert := by
  constructor
  · rintro ⟨message, failed⟩
    rcases Except.bind_eq_error_iff.mp failed with unencoded | ⟨der, reencoded, failed⟩
    · obtain ⟨e, unencoded, _⟩ := Except.mapError_eq_error_iff.mp unencoded
      exact .inl ⟨e, unencoded⟩
    · have reencoded := Except.mapError_eq_ok_iff.mp reencoded
      refine .inr ⟨der, reencoded, ?_⟩
      rcases Except.bind_eq_error_iff.mp failed with unusable | ⟨_, usage, failed⟩
      · exact .inl ((crates.verifyEkuOcspSigning_eq_unparseable_iff der).mp ⟨message, unusable⟩)
      · cases issuer with
        | none => exact absurd failed (crates.requireSpki_ne_unparseable cert _ message)
        | some issuerCert =>
            rcases Except.bind_eq_error_iff.mp failed with untrusted | ⟨_, _, failed⟩
            · obtain ⟨⟨spki, key⟩, unencoded⟩ :=
                (crates.verifyDelegation_eq_unparseable_iff issuerCert cert).mp ⟨message, untrusted⟩
              exact .inr ⟨usage, ⟨issuerCert, spki, rfl, key⟩, unencoded⟩
            · exact absurd failed (crates.requireSpki_ne_unparseable cert _ message)
  · rintro (⟨e, unencoded⟩ | ⟨der, reencoded, unparsed | ⟨usage, ⟨issuerCert, key⟩, unencoded⟩⟩)
    · refine ⟨"re-encode cert DER: " ++ e, Except.bind_eq_error_iff.mpr (.inl ?_)⟩
      exact Except.mapError_eq_error_iff.mpr ⟨e, unencoded, rfl⟩
    · obtain ⟨message, unusable⟩ :=
        (crates.verifyEkuOcspSigning_eq_unparseable_iff der).mpr unparsed
      refine ⟨message, Except.bind_eq_error_iff.mpr (.inr ⟨der, ?_, ?_⟩)⟩
      · exact Except.mapError_eq_ok_iff.mpr reencoded
      · exact Except.bind_eq_error_iff.mpr (.inl unusable)
    · obtain ⟨spki, rfl, key⟩ := key
      obtain ⟨message, untrusted⟩ :=
        (crates.verifyDelegation_eq_unparseable_iff issuerCert cert).mpr ⟨⟨spki, key⟩, unencoded⟩
      refine ⟨message, Except.bind_eq_error_iff.mpr (.inr ⟨der, ?_, ?_⟩)⟩
      · exact Except.mapError_eq_ok_iff.mpr reencoded
      · refine Except.bind_eq_error_iff.mpr (.inr ⟨(), usage, ?_⟩)
        exact Except.bind_eq_error_iff.mpr (.inl untrusted)

/-- No key is resolved, and no one is blamed for it, exactly when the signer cannot be told. -/
theorem determineSignerSpki_eq_unparseable_iff (basic : BasicOcspResponse)
    (issuerCertDer : Option Bytes) :
    (∃ message, crates.determineSignerSpki basic issuerCertDer =
        .error (.responseUnparseable message)) ↔
      crates.SignerUntold basic (crates.parseIssuer issuerCertDer) := by
  rw [determineSignerSpki_eq]
  cases crates.parseIssuer issuerCertDer with
  | none =>
      cases listed : (basic.certs.getD []).head? with
      | none => simp [SignerUntold, listed]
      | some first =>
          simpa [SignerUntold, listed] using
            crates.delegatedSignerSpki_eq_unparseable_iff first none
  | some issuer =>
      have told := crates.requireSpki_ne_unparseable issuer "issuer SPKI re-encode failed"
      by_cases named : basic.tbsResponseData.responderId = .byName issuer.tbsCertificate.subject
      · cases (basic.certs.getD []).head? <;> simp [SignerUntold, named, told]
      · cases listed : basic.certs.getD [] with
        | nil => simp [SignerUntold, listed, told]
        | cons first rest =>
            simpa [SignerUntold, named, listed] using
              crates.delegatedSignerSpki_eq_unparseable_iff first (some issuer)

theorem parseIssuer_eq_some_iff (issuerCertDer : Option Bytes) (issuer : Certificate) :
    crates.parseIssuer issuerCertDer = some issuer ↔
      ∃ der, issuerCertDer = some der ∧ crates.certificateFromDer der = .ok issuer := by
  cases issuerCertDer with
  | none => simp [parseIssuer]
  | some der => cases parsed : crates.certificateFromDer der <;>
      simp [parseIssuer, parsed, Except.toOption]

/-! ## Verdicts -/

/-- A `CertID` about a serial under an issuer: the serial agrees, and so do the two hashes when
recomputed under the hash algorithm the `CertID` names. -/
def CertIdBinds (certId : CertId) (issuer : Certificate) (serial : Bytes) : Prop :=
  certId.serialNumber = serial ∧
    ∃ nameDer, crates.nameToDer issuer.tbsCertificate.subject = .ok nameDer ∧
      crates.ocspDigest certId.hashAlgorithm.oid nameDer = some certId.issuerNameHash ∧
      crates.ocspDigest certId.hashAlgorithm.oid
        issuer.tbsCertificate.subjectPublicKeyInfo.subjectPublicKey = some certId.issuerKeyHash

theorem certIdMatches_iff (certId : CertId) (issuer : Certificate) (serial : Bytes) :
    crates.certIdMatches certId issuer serial = true ↔ crates.CertIdBinds certId issuer serial := by
  unfold certIdMatches CertIdBinds
  by_cases same : certId.serialNumber = serial
  · cases named : crates.nameToDer issuer.tbsCertificate.subject with
    | error _ => simp [same]
    | ok nameDer =>
        cases nameHash : crates.ocspDigest certId.hashAlgorithm.oid nameDer <;>
          cases keyHash : crates.ocspDigest certId.hashAlgorithm.oid
            issuer.tbsCertificate.subjectPublicKeyInfo.subjectPublicKey <;>
          simp [same, nameHash, keyHash, @eq_comm _ certId.issuerNameHash,
            @eq_comm _ certId.issuerKeyHash]
  · simp [same]

/-- A staple whose signature was checked with the key of an entitled signer, for an issuer and an
end entity that both parse. -/
structure VerifiedStaple (staple endEntityDer : Bytes) (issuerCertDer : Option Bytes)
    (basic : BasicOcspResponse) (issuer endEntity : Certificate) : Prop where
  issuer_parses : ∃ der, issuerCertDer = some der ∧ crates.certificateFromDer der = .ok issuer
  endEntity_parses : crates.certificateFromDer endEntityDer = .ok endEntity
  signed : ∃ tbsDer spki,
    crates.StapleDecodes staple basic tbsDer ∧
      crates.SignerKey basic issuer spki ∧
      crates.verifyOcspSignature spki tbsDer basic.signatureAlgorithm.oid basic.signature = .ok ()

/-- A verified staple with a current good response for the end entity and no revocation of it. -/
def StapleGood (staple endEntityDer : Bytes) (issuerCertDer : Option Bytes) (now : Nat) : Prop :=
  ∃ basic issuer endEntity,
    crates.VerifiedStaple staple endEntityDer issuerCertDer basic issuer endEntity ∧
      (∃ sr ∈ basic.tbsResponseData.responses,
        crates.CertIdBinds sr.certId issuer endEntity.tbsCertificate.serialNumber ∧
          sr.certStatus = .good ∧ sr.thisUpdate ≤ now ∧
          ∀ next, sr.nextUpdate = some next → now ≤ next) ∧
      ∀ sr ∈ basic.tbsResponseData.responses,
        crates.CertIdBinds sr.certId issuer endEntity.tbsCertificate.serialNumber →
          sr.certStatus.isRevoked = false

/-- A verified staple that reports the end entity revoked. -/
def StapleRevoked (staple endEntityDer : Bytes) (issuerCertDer : Option Bytes) : Prop :=
  ∃ basic issuer endEntity,
    crates.VerifiedStaple staple endEntityDer issuerCertDer basic issuer endEntity ∧
      ∃ sr ∈ basic.tbsResponseData.responses,
        crates.CertIdBinds sr.certId issuer endEntity.tbsCertificate.serialNumber ∧
          sr.certStatus.isRevoked = true

/-- A staple that decodes but is not signed by its signer: the signer can be told, and the
signature verifies under no key of a signer that is entitled to sign. -/
def StapleForged (staple : Bytes) (issuerCertDer : Option Bytes) : Prop :=
  ∃ basic tbsDer, crates.StapleDecodes staple basic tbsDer ∧
    ¬ crates.SignerUntold basic (crates.parseIssuer issuerCertDer) ∧
    ∀ spki, crates.CheckedUnder basic (crates.parseIssuer issuerCertDer) spki →
      crates.verifyOcspSignature spki tbsDer basic.signatureAlgorithm.oid basic.signature ≠ .ok ()

/-- A staple that passes the signature check reaches the evaluation of its responses. -/
theorem checkOcspStaple_of_signed {staple endEntityDer : Bytes} {issuerCertDer : Option Bytes}
    {basic : BasicOcspResponse} {tbsDer spki : Bytes} (now : Nat)
    (decodes : crates.StapleDecodes staple basic tbsDer)
    (signer : crates.determineSignerSpki basic issuerCertDer = .ok spki)
    (verified : crates.verifyOcspSignature spki tbsDer basic.signatureAlgorithm.oid
      basic.signature = .ok ()) :
    crates.checkOcspStaple staple endEntityDer issuerCertDer now =
      crates.evaluateResponses basic.tbsResponseData.responses endEntityDer
        (crates.parseIssuer issuerCertDer) now := by
  have decoded := (crates.decodeStaple_eq_ok_iff staple basic tbsDer).mpr decodes
  simp [checkOcspStaple, decoded, signer, verified]

/-- Every verdict other than the ones for unusable or forged staples comes from the responses of a
signed staple. -/
theorem signed_of_checkOcspStaple {staple endEntityDer : Bytes} {issuerCertDer : Option Bytes}
    {now : Nat} {verdict : OcspCheckResult}
    (check : crates.checkOcspStaple staple endEntityDer issuerCertDer now = verdict)
    (usable : verdict = .good ∨ verdict = .revoked) :
    ∃ basic tbsDer spki, crates.StapleDecodes staple basic tbsDer ∧
      crates.determineSignerSpki basic issuerCertDer = .ok spki ∧
      crates.verifyOcspSignature spki tbsDer basic.signatureAlgorithm.oid basic.signature =
        .ok () ∧
      crates.evaluateResponses basic.tbsResponseData.responses endEntityDer
        (crates.parseIssuer issuerCertDer) now = verdict := by
  subst check
  unfold checkOcspStaple at usable ⊢
  cases decoded : crates.decodeStaple staple with
  | error verdict =>
      have unusable := crates.decodeStaple_eq_error decoded
      simp only [decoded] at usable
      rcases unusable with rfl | rfl <;> simp at usable
  | ok decodes =>
      obtain ⟨basic, tbsDer⟩ := decodes
      cases signer : crates.determineSignerSpki basic issuerCertDer with
      | error e => cases e <;> simp [decoded, signer] at usable
      | ok spki =>
          cases verified : crates.verifyOcspSignature spki tbsDer basic.signatureAlgorithm.oid
              basic.signature with
          | error e => simp [decoded, signer, verified] at usable
          | ok _ =>
              exact ⟨basic, tbsDer, spki, (crates.decodeStaple_eq_ok_iff _ _ _).mp decoded,
                signer, verified, by simp [signer, verified]⟩

/-- The evaluation cannot vouch for anything unless both certificates parse. -/
theorem parsed_of_evaluateResponses {responses : List SingleResponse} {endEntityDer : Bytes}
    {issuer : Option Certificate} {now : Nat} {verdict : OcspCheckResult}
    (evaluated : crates.evaluateResponses responses endEntityDer issuer now = verdict)
    (usable : verdict ≠ .unparseable) :
    ∃ endEntity issuerCert, crates.certificateFromDer endEntityDer = .ok endEntity ∧
      issuer = some issuerCert := by
  subst evaluated
  unfold evaluateResponses at usable
  cases parsed : crates.certificateFromDer endEntityDer with
  | error _ => simp [parsed] at usable
  | ok endEntity =>
      cases issuer with
      | none => simp [parsed] at usable
      | some issuerCert => exact ⟨endEntity, issuerCert, rfl, rfl⟩

/-- A good or revoked verdict is the evaluation of a verified staple. -/
theorem verified_of_checkOcspStaple {staple endEntityDer : Bytes} {issuerCertDer : Option Bytes}
    {now : Nat} {verdict : OcspCheckResult}
    (check : crates.checkOcspStaple staple endEntityDer issuerCertDer now = verdict)
    (usable : verdict = .good ∨ verdict = .revoked) :
    ∃ basic issuer endEntity,
      crates.VerifiedStaple staple endEntityDer issuerCertDer basic issuer endEntity ∧
        crates.evaluateResponses basic.tbsResponseData.responses endEntityDer (some issuer) now =
          verdict := by
  obtain ⟨basic, tbsDer, spki, decodes, signer, verified, evaluated⟩ :=
    crates.signed_of_checkOcspStaple check usable
  have parseable : verdict ≠ .unparseable := by rcases usable with rfl | rfl <;> simp
  obtain ⟨endEntity, issuer, endEntity_parses, issuer_eq⟩ :=
    crates.parsed_of_evaluateResponses evaluated parseable
  have key := (crates.determineSignerSpki_eq_ok_iff issuer_eq basic spki).mp signer
  exact ⟨basic, issuer, endEntity,
    ⟨(crates.parseIssuer_eq_some_iff _ _).mp issuer_eq, endEntity_parses,
      ⟨tbsDer, spki, decodes, key, verified⟩⟩,
    issuer_eq ▸ evaluated⟩

/-- A verified staple is judged by its responses alone. -/
theorem checkOcspStaple_of_verified {staple endEntityDer : Bytes} {issuerCertDer : Option Bytes}
    {basic : BasicOcspResponse} {issuer endEntity : Certificate} (now : Nat)
    (verified : crates.VerifiedStaple staple endEntityDer issuerCertDer basic issuer endEntity) :
    crates.checkOcspStaple staple endEntityDer issuerCertDer now =
      crates.evaluateResponses basic.tbsResponseData.responses endEntityDer (some issuer) now := by
  obtain ⟨issuer_parses, _, tbsDer, spki, decodes, key, signature⟩ := verified
  have issuer_eq := (crates.parseIssuer_eq_some_iff _ _).mpr issuer_parses
  have signer := (crates.determineSignerSpki_eq_ok_iff issuer_eq basic spki).mpr key
  rw [crates.checkOcspStaple_of_signed now decodes signer signature, issuer_eq]

theorem any_coversRevoked_iff (issuer : Certificate) (serial : Bytes)
    (responses : List SingleResponse) :
    responses.any (crates.coversRevoked issuer serial) = true ↔
      ∃ sr ∈ responses, crates.CertIdBinds sr.certId issuer serial ∧
        sr.certStatus.isRevoked = true := by
  simp [List.any_eq_true, coversRevoked, certIdMatches_iff]

theorem any_coversCurrent_iff (issuer : Certificate) (serial : Bytes) (now : Nat)
    (status : CertStatus) (responses : List SingleResponse) :
    responses.any (crates.coversCurrent issuer serial now status) = true ↔
      ∃ sr ∈ responses, crates.CertIdBinds sr.certId issuer serial ∧
        sr.certStatus = status ∧ sr.thisUpdate ≤ now ∧
        ∀ next, sr.nextUpdate = some next → now ≤ next := by
  simp [List.any_eq_true, coversCurrent, certIdMatches_iff, singleResponseIsCurrent_iff,
    and_assoc]

theorem checkOcspStaple_eq_revoked_iff (staple endEntityDer : Bytes)
    (issuerCertDer : Option Bytes) (now : Nat) :
    crates.checkOcspStaple staple endEntityDer issuerCertDer now = .revoked ↔
      crates.StapleRevoked staple endEntityDer issuerCertDer := by
  constructor
  · intro check
    obtain ⟨basic, issuer, endEntity, verified, evaluated⟩ :=
      crates.verified_of_checkOcspStaple check (.inr rfl)
    rw [crates.evaluateResponses_eq verified.endEntity_parses] at evaluated
    refine ⟨basic, issuer, endEntity, verified, ?_⟩
    rw [← any_coversRevoked_iff]
    grind
  · rintro ⟨basic, issuer, endEntity, verified, revoked⟩
    rw [← any_coversRevoked_iff] at revoked
    rw [crates.checkOcspStaple_of_verified now verified,
      crates.evaluateResponses_eq verified.endEntity_parses]
    simp [revoked]

theorem checkOcspStaple_eq_good_iff (staple endEntityDer : Bytes)
    (issuerCertDer : Option Bytes) (now : Nat) :
    crates.checkOcspStaple staple endEntityDer issuerCertDer now = .good ↔
      crates.StapleGood staple endEntityDer issuerCertDer now := by
  have unrevoked_iff (issuer : Certificate) (serial : Bytes) (responses : List SingleResponse) :
      responses.any (crates.coversRevoked issuer serial) = false ↔
        ∀ sr ∈ responses, crates.CertIdBinds sr.certId issuer serial →
          sr.certStatus.isRevoked = false := by
    simp [coversRevoked, ← certIdMatches_iff]
  constructor
  · intro check
    obtain ⟨basic, issuer, endEntity, verified, evaluated⟩ :=
      crates.verified_of_checkOcspStaple check (.inl rfl)
    rw [crates.evaluateResponses_eq verified.endEntity_parses] at evaluated
    refine ⟨basic, issuer, endEntity, verified, ?_⟩
    rw [← any_coversCurrent_iff, ← unrevoked_iff]
    grind
  · rintro ⟨basic, issuer, endEntity, verified, good, unrevoked⟩
    rw [← any_coversCurrent_iff] at good
    rw [← unrevoked_iff] at unrevoked
    rw [crates.checkOcspStaple_of_verified now verified,
      crates.evaluateResponses_eq verified.endEntity_parses]
    simp [good, unrevoked]

theorem evaluateResponses_ne_badSignature (responses : List SingleResponse) (endEntityDer : Bytes)
    (issuer : Option Certificate) (now : Nat) (message : String) :
    crates.evaluateResponses responses endEntityDer issuer now ≠ .badSignature message := by
  intro evaluated
  obtain ⟨endEntity, issuerCert, parsed, rfl⟩ :=
    crates.parsed_of_evaluateResponses evaluated (by simp)
  rw [crates.evaluateResponses_eq parsed] at evaluated
  grind

/-- A decoded staple gets another verdict than a bad signature exactly when its signature verifies
under the key it is checked under, or its signer cannot be told. -/
theorem checkOcspStaple_ne_badSignature_iff {staple : Bytes} {basic : BasicOcspResponse}
    {tbsDer : Bytes} (endEntityDer : Bytes) (issuerCertDer : Option Bytes) (now : Nat)
    (decodes : crates.StapleDecodes staple basic tbsDer) :
    (∀ message, crates.checkOcspStaple staple endEntityDer issuerCertDer now ≠
        .badSignature message) ↔
      (∃ spki, crates.CheckedUnder basic (crates.parseIssuer issuerCertDer) spki ∧
        crates.verifyOcspSignature spki tbsDer basic.signatureAlgorithm.oid basic.signature =
          .ok ()) ∨
        crates.SignerUntold basic (crates.parseIssuer issuerCertDer) := by
  have decoded := (crates.decodeStaple_eq_ok_iff staple basic tbsDer).mpr decodes
  simp only [← determineSignerSpki_eq_ok_iff_checkedUnder,
    ← determineSignerSpki_eq_unparseable_iff, checkOcspStaple, decoded]
  cases signer : crates.determineSignerSpki basic issuerCertDer with
  | error e => cases e <;> simp
  | ok spki =>
      cases verified : crates.verifyOcspSignature spki tbsDer basic.signatureAlgorithm.oid
          basic.signature with
      | error e => simp [verified]
      | ok _ => simp [verified, evaluateResponses_ne_badSignature]

/-- The verdict is a bad signature exactly for forged staples. -/
theorem checkOcspStaple_eq_badSignature_iff (staple endEntityDer : Bytes)
    (issuerCertDer : Option Bytes) (now : Nat) :
    (∃ message, crates.checkOcspStaple staple endEntityDer issuerCertDer now =
        .badSignature message) ↔
      crates.StapleForged staple issuerCertDer := by
  constructor
  · rintro ⟨message, check⟩
    cases decoded : crates.decodeStaple staple with
    | error verdict =>
        have unusable := crates.decodeStaple_eq_error decoded
        simp only [checkOcspStaple, decoded] at check
        rcases unusable with rfl | rfl <;> simp at check
    | ok decodes =>
        obtain ⟨basic, tbsDer⟩ := decodes
        have decodes := (crates.decodeStaple_eq_ok_iff _ _ _).mp decoded
        have blamed := (crates.checkOcspStaple_ne_badSignature_iff endEntityDer issuerCertDer now
          decodes).not.mp fun spared => spared message check
        obtain ⟨unverified, told⟩ := not_or.mp blamed
        exact ⟨basic, tbsDer, decodes, told, fun spki key verified =>
          unverified ⟨spki, key, verified⟩⟩
  · rintro ⟨basic, tbsDer, decodes, told, unverified⟩
    by_contra spared
    rcases (crates.checkOcspStaple_ne_badSignature_iff endEntityDer issuerCertDer now decodes).mp
      (not_exists.mp spared) with ⟨spki, key, verified⟩ | untold
    · exact unverified spki key verified
    · exact told untold

end Crates

/-! ## Policies -/

namespace OcspClientVerifier

variable (crates : Crates)

/-- Every policy but `Disabled` puts its reading of the verdict in front of the inner verifier. -/
theorem accepts_iff_refusal_eq_none (inner : ServerCertVerifier) {policy : OcspClientPolicy}
    (enabled : policy ≠ .disabled) (presented : Presented) :
    (toVerifier crates ⟨inner, policy⟩).Accepts presented ↔
      inner.Accepts presented ∧
        refusal policy (crates.checkOcspStaple presented.ocspResponse presented.endEntity
          (issuerDer crates presented.endEntity presented.intermediates) presented.now) = none := by
  simp only [ServerCertVerifier.Accepts, toVerifier, verifyServerCert, enabled, ↓reduceIte]
  cases refusal policy (crates.checkOcspStaple presented.ocspResponse presented.endEntity
      (issuerDer crates presented.endEntity presented.intermediates) presented.now) <;> simp

theorem refusal_hardRequire_eq_none_iff (verdict : OcspCheckResult) :
    refusal .hardRequire verdict = none ↔ verdict = .good := by
  cases verdict <;> simp [refusal]

theorem refusal_softFail_eq_none_iff (verdict : OcspCheckResult) :
    refusal .softFail verdict = none ↔
      verdict ≠ .revoked ∧ ∀ message, verdict ≠ .badSignature message := by
  cases verdict <;> simp [refusal]

/-- The issuer is the first intermediate, and without one the end entity if it names itself. -/
theorem issuerDer_eq (endEntity : Bytes) (intermediates : List Bytes) :
    issuerDer crates endEntity intermediates =
      match intermediates, crates.certificateFromDer endEntity with
      | first :: _, _ => some first
      | [], .ok cert =>
          if cert.tbsCertificate.subject = cert.tbsCertificate.issuer then some endEntity else none
      | [], .error _ => none := by
  cases intermediates with
  | cons first rest => rfl
  | nil => cases parsed : crates.certificateFromDer endEntity <;>
      simp [issuerDer, Crates.endEntityIsSelfSigned, parsed]

/-- The exact acceptance condition under each policy: `HardRequire` needs a good staple,
`SoftFail` only refuses forged staples and revocations, and `Disabled` looks at nothing. -/
theorem accepts_iff_stapleGood (inner : ServerCertVerifier) (presented : Presented) :
    let issuer :=
      match presented.intermediates, crates.certificateFromDer presented.endEntity with
      | first :: _, _ => some first
      | [], .ok cert =>
          if cert.tbsCertificate.subject = cert.tbsCertificate.issuer
          then some presented.endEntity else none
      | [], .error _ => none
    ((toVerifier crates ⟨inner, .hardRequire⟩).Accepts presented ↔
        inner.Accepts presented ∧
          crates.StapleGood presented.ocspResponse presented.endEntity issuer presented.now) ∧
      ((toVerifier crates ⟨inner, .softFail⟩).Accepts presented ↔
        inner.Accepts presented ∧
          ¬ crates.StapleForged presented.ocspResponse issuer ∧
          ¬ crates.StapleRevoked presented.ocspResponse presented.endEntity issuer) ∧
      ((toVerifier crates ⟨inner, .disabled⟩).Accepts presented ↔ inner.Accepts presented) := by
  intro issuer
  have issuer_eq : issuer = issuerDer crates presented.endEntity presented.intermediates :=
    (issuerDer_eq crates _ _).symm
  rw [issuer_eq]
  refine ⟨?_, ?_, ?_⟩
  · rw [accepts_iff_refusal_eq_none crates inner (by simp), refusal_hardRequire_eq_none_iff,
      crates.checkOcspStaple_eq_good_iff]
  · rw [accepts_iff_refusal_eq_none crates inner (by simp), refusal_softFail_eq_none_iff,
      ← crates.checkOcspStaple_eq_badSignature_iff presented.ocspResponse presented.endEntity
        (issuerDer crates presented.endEntity presented.intermediates) presented.now,
      ← crates.checkOcspStaple_eq_revoked_iff presented.ocspResponse presented.endEntity
        (issuerDer crates presented.endEntity presented.intermediates) presented.now]
    simp only [not_exists, ne_eq]
    exact and_congr_right fun _ => and_comm
  · simp [ServerCertVerifier.Accepts, toVerifier, verifyServerCert]

end OcspClientVerifier

end OxiTls
