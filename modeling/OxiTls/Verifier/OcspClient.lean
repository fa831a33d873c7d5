import OxiTls.Rustls
import OxiTls.Verifier.OcspCrypto

/-!
# Client-side OCSP staple verification

`ocsp_client.rs`: an `OcspClientVerifier` checks the staple of a handshake and then delegates to an
inner verifier.  The certificate taken as the issuer is the first one the peer presents; it selects
the signer key, vouches for a delegated signer and binds each `CertID`.
-/

namespace OxiTls

/-! ## CertID digests -/

/-- id-sha1. -/
def oidSha1 : ObjectIdentifier := ⟨[1, 3, 14, 3, 2, 26]⟩

/-- id-sha256. -/
def oidSha256 : ObjectIdentifier := ⟨[2, 16, 840, 1, 101, 3, 4, 2, 1]⟩

/-- id-sha384. -/
def oidSha384 : ObjectIdentifier := ⟨[2, 16, 840, 1, 101, 3, 4, 2, 2]⟩

/-- id-sha512. -/
def oidSha512 : ObjectIdentifier := ⟨[2, 16, 840, 1, 101, 3, 4, 2, 3]⟩

/-- How a missing or unusable staple is treated. -/
inductive OcspClientPolicy
  | disabled
  | softFail
  | hardRequire
  deriving DecidableEq, Repr

/-- The verdict on one staple. -/
inductive OcspCheckResult
  | absent
  | unparseable
  | revoked
  | unknown
  | badSignature (message : String)
  | good
  deriving DecidableEq, Repr

namespace Crates

variable (crates : Crates)

/-- Digest under the algorithm a `CertID` names; `none` for an unrecognised one. -/
def ocspDigest (hashOid : ObjectIdentifier) (data : Bytes) : Option Bytes :=
  if hashOid = oidSha1 then some (crates.sha1 data)
  else if hashOid = oidSha256 then some (crates.sha256 data).toList
  else if hashOid = oidSha384 then some (crates.sha384 data)
  else if hashOid = oidSha512 then some (crates.sha512 data)
  else none

/-! ## Signer selection -/

/-- DER of a certificate's SubjectPublicKeyInfo. -/
def spkiDerFromCert (cert : Certificate) : Option Bytes :=
  (crates.spkiToDer cert.tbsCertificate.subjectPublicKeyInfo).toOption

/-- Whether the responder names itself as the issuer.  A key hash never counts as a match. -/
def responderIsIssuer (responderId : ResponderId) (issuer : Certificate) : Bool :=
  match responderId with
  | .byName name => name == issuer.tbsCertificate.subject
  | .byKey _ => false

/-- Whether the subject and the issuer of a certificate are the same name. -/
def endEntityIsSelfSigned (endEntityDer : Bytes) : Bool :=
  match crates.certificateFromDer endEntityDer with
  | .ok cert => cert.tbsCertificate.subject == cert.tbsCertificate.issuer
  | .error _ => false

def certToDer (cert : Certificate) : Except OcspVerifyError Bytes :=
  (crates.certificateToDer cert).mapError
    fun e => .responseUnparseable ("re-encode cert DER: " ++ e)

/-- The SPKI of a certificate, or the given failure when it cannot be re-encoded. -/
def requireSpki (cert : Certificate) (message : String) : Except OcspVerifyError Bytes :=
  match crates.spkiDerFromCert cert with
  | some spki => .ok spki
  | none => .error (.spkiParse message)

/-- The issuer's signature on a delegated signer certificate. -/
def verifyDelegation (issuer signerCert : Certificate) : Except OcspVerifyError Unit := do
  let issuerSpki ← crates.requireSpki issuer "issuer SPKI re-encode failed"
  let signerTbsDer ← (crates.tbsCertificateToDer signerCert.tbsCertificate).mapError
    fun e => .responseUnparseable ("re-encode signer TBS: " ++ e)
  (crates.verifyOcspSignature issuerSpki signerTbsDer signerCert.signatureAlgorithm.oid
      signerCert.signature).mapError
    fun e => .delegatedSignerNotTrusted
      ("issuer did not sign the delegated OCSP cert: " ++ e.toText)

/-- The key of a delegated signer, checked against the issuer when there is one. -/
def delegatedSignerSpki (signerCert : Certificate) (issuerOpt : Option Certificate) :
    Except OcspVerifyError Bytes := do
  let signerCertDer ← crates.certToDer signerCert
  crates.verifyEkuOcspSigning signerCertDer
  match issuerOpt with
  | some issuer => crates.verifyDelegation issuer signerCert
  | none => pure ()
  crates.requireSpki signerCert "signer cert SPKI encode failed"

/-- The issuer certificate, when it is given and parses. -/
def parseIssuer (issuerCertDer : Option Bytes) : Option Certificate :=
  issuerCertDer.bind fun der => (crates.certificateFromDer der).toOption

/-- Resolve the key that must have signed a response. -/
def determineSignerSpki (basic : BasicOcspResponse) (issuerCertDer : Option Bytes) :
    Except OcspVerifyError Bytes :=
  let issuerOpt := crates.parseIssuer issuerCertDer
  match issuerOpt.filter (responderIsIssuer basic.tbsResponseData.responderId) with
  | some issuer => crates.requireSpki issuer "issuer SPKI re-encode failed"
  | none =>
      match basic.certs.bind List.head? with
      | some signerCert => crates.delegatedSignerSpki signerCert issuerOpt
      | none =>
          match issuerOpt with
          | some issuer => crates.requireSpki issuer "issuer SPKI re-encode failed"
          | none => .error (.responseUnparseable
              "no issuer cert provided and no delegated signer in OCSP response")

/-! ## Binding responses to the certificate -/

/-- Whether a `CertID` is about the certificate with the given serial under the given issuer. -/
def certIdMatches (certId : CertId) (issuer : Certificate) (endEntitySerial : Bytes) : Bool :=
  if certId.serialNumber ≠ endEntitySerial then false
  else
    let hashOid := certId.hashAlgorithm.oid
    match crates.nameToDer issuer.tbsCertificate.subject with
    | .error _ => false
    | .ok issuerNameDer =>
        let issuerKeyBytes := issuer.tbsCertificate.subjectPublicKeyInfo.subjectPublicKey
        match crates.ocspDigest hashOid issuerNameDer, crates.ocspDigest hashOid issuerKeyBytes with
        | some expectedNameHash, some expectedKeyHash =>
            certId.issuerNameHash == expectedNameHash && certId.issuerKeyHash == expectedKeyHash
        | _, _ => false

/-- Whether `now` is inside the validity window of a response. -/
def singleResponseIsCurrent (sr : SingleResponse) (now : Nat) : Bool :=
  if now < sr.thisUpdate then false
  else
    match sr.nextUpdate with
    | some next => !decide (now > next)
    | none => true

/-- The flags the scan over the responses accumulates. -/
structure ResponseScan where
  matchedAny : Bool
  hasUnknown : Bool
  goodCurrent : Bool
  deriving DecidableEq, Repr

/-- Scan the responses in order; `none` is the early return on a matching revoked entry. -/
def scanResponses (issuer : Certificate) (eeSerial : Bytes) (now : Nat) :
    ResponseScan → List SingleResponse → Option ResponseScan
  | scan, [] => some scan
  | scan, sr :: rest =>
      if crates.certIdMatches sr.certId issuer eeSerial then
        let scan := { scan with matchedAny := true }
        match sr.certStatus with
        | .revoked _ _ => none
        | .unknown =>
            if singleResponseIsCurrent sr now then
              scanResponses issuer eeSerial now { scan with hasUnknown := true } rest
            else scanResponses issuer eeSerial now scan rest
        | .good =>
            if singleResponseIsCurrent sr now then
              scanResponses issuer eeSerial now { scan with goodCurrent := true } rest
            else scanResponses issuer eeSerial now scan rest
      else scanResponses issuer eeSerial now scan rest

/-- Evaluate the responses that cover the certificate being verified. -/
def evaluateResponses (responses : List SingleResponse) (endEntityDer : Bytes)
    (issuer : Option Certificate) (now : Nat) : OcspCheckResult :=
  match crates.certificateFromDer endEntityDer with
  | .error _ => .unparseable
  | .ok endEntity =>
      match issuer with
      | none => .unparseable
      | some issuer =>
          match crates.scanResponses issuer endEntity.tbsCertificate.serialNumber now
              ⟨false, false, false⟩ responses with
          | none => .revoked
          | some scan =>
              if !scan.matchedAny then .unparseable
              else if scan.goodCurrent then .good
              else if scan.hasUnknown then .unknown
              else .unparseable

/-! ## The staple check -/

/-- Decode a staple down to the basic response and the bytes that were signed, or report the
verdict at the stage that fails. -/
def decodeStaple (ocspResponse : Bytes) : Except OcspCheckResult (BasicOcspResponse × Bytes) :=
  if ocspResponse.isEmpty then .error .absent
  else do
    let parsed ← (crates.ocspResponseFromDer ocspResponse).mapError fun _ => .unparseable
    if parsed.responseStatus ≠ .successful then .error .absent
    else
      match parsed.responseBytes with
      | none => .error .unparseable
      | some respBytes =>
          let basic ← (crates.basicOcspResponseFromDer respBytes.response).mapError
            fun _ => .unparseable
          let tbsDer ← (crates.responseDataToDer basic.tbsResponseData).mapError
            fun _ => .unparseable
          pure (basic, tbsDer)

/-- Parse a staple, verify its signature and evaluate its responses. -/
def checkOcspStaple (ocspResponse endEntityDer : Bytes) (issuerCertDer : Option Bytes)
    (now : Nat) : OcspCheckResult :=
  match crates.decodeStaple ocspResponse with
  | .error verdict => verdict
  | .ok (basic, tbsDer) =>
      match crates.determineSignerSpki basic issuerCertDer with
      | .error (.responseUnparseable _) => .unparseable
      | .error e => .badSignature e.toText
      | .ok spkiDer =>
          match crates.verifyOcspSignature spkiDer tbsDer basic.signatureAlgorithm.oid
              basic.signature with
          | .error e => .badSignature e.toText
          | .ok () =>
              crates.evaluateResponses basic.tbsResponseData.responses endEntityDer
                (crates.parseIssuer issuerCertDer) now

end Crates

/-! ## The verifier -/

/-- `OcspClientVerifier`. -/
structure OcspClientVerifier where
  inner : ServerCertVerifier
  policy : OcspClientPolicy

namespace OcspClientVerifier

variable (crates : Crates) (verifier : OcspClientVerifier)

/-- The certificate the verifier takes as the issuer of the end entity. -/
def issuerDer (endEntity : Bytes) (intermediates : List Bytes) : Option Bytes :=
  match intermediates.head? with
  | some first => some first
  | none => if crates.endEntityIsSelfSigned endEntity then some endEntity else none

/-- What the policy makes of a verdict: an error, or `none` to go on to the inner verifier. -/
def refusal (policy : OcspClientPolicy) : OcspCheckResult → Option RustlsError
  | .revoked => some (.invalidCertificate .revoked)
  | .badSignature message =>
      some (.general ("OCSP response cryptographic signature invalid: " ++ message))
  | .unknown =>
      match policy with
      | .disabled | .softFail => none
      | .hardRequire => some (.general "OCSP CertStatus::Unknown with HardRequire policy")
  | .absent | .unparseable =>
      match policy with
      | .disabled | .softFail => none
      | .hardRequire => some (.general "OCSP staple required but absent or unparseable")
  | .good => none

def verifyServerCert (presented : Presented) : Verification :=
  if verifier.policy = .disabled then
    verifier.inner.verifyServerCert presented
  else
    let verdict := crates.checkOcspStaple presented.ocspResponse presented.endEntity
      (issuerDer crates presented.endEntity presented.intermediates) presented.now
    match refusal verifier.policy verdict with
    | some error => .refuse error
    | none => verifier.inner.verifyServerCert presented

/-- The verifier as rustls sees it. -/
def toVerifier : ServerCertVerifier where
  verifyServerCert := verifier.verifyServerCert crates
  signatureCheck := verifier.inner.signatureCheck

end OcspClientVerifier

end OxiTls
