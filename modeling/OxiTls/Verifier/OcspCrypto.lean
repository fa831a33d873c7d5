import OxiTls.Library.BigEndian
import OxiTls.Pki

/-!
# OCSP signature verification

`ocsp_crypto.rs`: the dispatch over the signature algorithm of an OCSP response, and the extended
key usage check of a delegated signer.
-/

namespace OxiTls

/-! ## Algorithm identifiers -/

/-- sha256WithRSAEncryption. -/
def oidSha256WithRsa : ObjectIdentifier := ⟨[1, 2, 840, 113549, 1, 1, 11]⟩

/-- ecdsaWithSHA256. -/
def oidEcdsaWithSha256 : ObjectIdentifier := ⟨[1, 2, 840, 10045, 4, 3, 2]⟩

/-- ecdsaWithSHA384. -/
def oidEcdsaWithSha384 : ObjectIdentifier := ⟨[1, 2, 840, 10045, 4, 3, 3]⟩

/-- id-Ed25519. -/
def oidEd25519 : ObjectIdentifier := ⟨[1, 3, 101, 112]⟩

/-- The extended key usage extension. -/
def oidExtKeyUsage : ObjectIdentifier := ⟨[2, 5, 29, 37]⟩

/-- id-kp-OCSPSigning. -/
def oidOcspSigning : ObjectIdentifier := ⟨[1, 3, 6, 1, 5, 5, 7, 3, 9]⟩

/-! ## Errors -/

/-- Errors of the OCSP verification helpers. -/
inductive OcspVerifyError
  | unsupportedAlgorithm (oid : String)
  | signatureInvalid
  | delegatedSignerNotTrusted (reason : String)
  | missingOcspSigningEku
  | spkiParse (message : String)
  | responseUnparseable (message : String)
  deriving DecidableEq, Repr

/-- The displayed text of an error. -/
def OcspVerifyError.toText : OcspVerifyError → String
  | .unsupportedAlgorithm oid => "OCSP signer algorithm OID " ++ oid ++ " is not supported"
  | .signatureInvalid => "OCSP response signature verification failed"
  | .delegatedSignerNotTrusted reason => "delegated OCSP signer not trusted: " ++ reason
  | .missingOcspSigningEku => "delegated OCSP signer certificate missing id-kp-OCSPSigning EKU"
  | .spkiParse message => "failed to parse SubjectPublicKeyInfo: " ++ message
  | .responseUnparseable message => "OCSP response could not be decoded: " ++ message

namespace Crates

variable (crates : Crates)

/-! ## Signature primitives -/

/-- Raw public key bytes of a DER-encoded SubjectPublicKeyInfo. -/
def spkiRawBytes (spkiDer : Bytes) : Except OcspVerifyError Bytes :=
  (crates.spkiRefRawBytes spkiDer).mapError .spkiParse

/-- Decode a signature, then check it: both failures are an invalid signature. -/
def checkSignature (decode : Bytes → Except String Bytes) (verify : Bytes → Bool)
    (sigBytes : Bytes) : Except OcspVerifyError Unit := do
  let signature ← (decode sigBytes).mapError fun _ => .signatureInvalid
  if verify signature then pure () else throw .signatureInvalid

def verifyRsaPkcs1Sha256 (spkiDer tbsDer sigBytes : Bytes) : Except OcspVerifyError Unit := do
  let innerBytes ← crates.spkiRawBytes spkiDer
  let (modulus, exponent) ← (crates.rsaPublicKeyFromDer innerBytes).mapError
    fun e => .spkiParse ("RSAPublicKey parse: " ++ e)
  let n := BigEndian.decode modulus
  let e := BigEndian.decode exponent
  (crates.rsaPublicKeyNew n e).mapError fun e => .spkiParse ("RsaPublicKey::new: " ++ e)
  checkSignature crates.rsaSignature (crates.rsaVerify n e tbsDer) sigBytes

/-- The two ECDSA helpers differ only in their curve crate. -/
def verifyEcdsa (curve : SignatureCrate) (spkiDer tbsDer sigBytes : Bytes) :
    Except OcspVerifyError Unit := do
  let raw ← crates.spkiRawBytes spkiDer
  let key ← (curve.verifyingKey raw).mapError .spkiParse
  checkSignature curve.signature (curve.verify key tbsDer) sigBytes

def verifyEcdsaP256Sha256 (spkiDer tbsDer sigBytes : Bytes) : Except OcspVerifyError Unit :=
  crates.verifyEcdsa crates.p256 spkiDer tbsDer sigBytes

def verifyEcdsaP384Sha384 (spkiDer tbsDer sigBytes : Bytes) : Except OcspVerifyError Unit :=
  crates.verifyEcdsa crates.p384 spkiDer tbsDer sigBytes

def verifyEd25519 (spkiDer tbsDer sigBytes : Bytes) : Except OcspVerifyError Unit := do
  let rawBytes ← crates.spkiRawBytes spkiDer
  if rawBytes.length ≠ 32 then
    throw (.spkiParse "Ed25519 public key must be 32 bytes")
  let key ← (crates.ed25519.verifyingKey rawBytes).mapError .spkiParse
  checkSignature crates.ed25519.signature (crates.ed25519.verify key tbsDer) sigBytes

/-- Verify a signature under the algorithm its object identifier names. -/
def verifyOcspSignature (spkiDer tbsDer : Bytes) (algOid : ObjectIdentifier) (sigBytes : Bytes) :
    Except OcspVerifyError Unit :=
  if algOid = oidSha256WithRsa then
    crates.verifyRsaPkcs1Sha256 spkiDer tbsDer sigBytes
  else if algOid = oidEcdsaWithSha256 then
    crates.verifyEcdsaP256Sha256 spkiDer tbsDer sigBytes
  else if algOid = oidEcdsaWithSha384 then
    crates.verifyEcdsaP384Sha384 spkiDer tbsDer sigBytes
  else if algOid = oidEd25519 then
    crates.verifyEd25519 spkiDer tbsDer sigBytes
  else
    .error (.unsupportedAlgorithm algOid.toText)

/-! ## Extended key usage -/

/-- Whether a parsed extension is an extended key usage that allows OCSP signing. -/
def allowsOcspSigning : ParsedExtension → Bool
  | .extendedKeyUsage any ocspSigning other =>
      any || other.any (· == oidOcspSigning) || ocspSigning
  | .unparsed => false

/-- Check the OCSP-signing key usage of a delegated signer certificate.  Only the first extended
key usage extension counts. -/
def verifyEkuOcspSigning (certDer : Bytes) : Except OcspVerifyError Unit := do
  let cert ← (crates.x509CertificateFromDer certDer).mapError
    fun e => .responseUnparseable ("failed to parse delegated cert: " ++ e)
  match cert.extensions.find? fun ext => ext.oid == oidExtKeyUsage with
  | some ext =>
      if allowsOcspSigning ext.parsedExtension then pure () else throw .missingOcspSigningEku
  | none => throw .missingOcspSigningEku

end Crates

end OxiTls
