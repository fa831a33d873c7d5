import OxiTls.Library.Fallible

/-!
# Certificates, OCSP responses and the crates that decode them

The decoded forms of the X.509 and OCSP structures the verifiers read, and the third-party crates
they call.  DER decoding, DER encoding, digests and the signature primitives are functions of a
`Crates` value: the text of a failure is the text its crate displays.
-/

namespace OxiTls

/-- A byte string, `&[u8]` or `Vec<u8>` in the source. -/
abbrev Bytes := List UInt8

/-- A SHA-256 digest, `[u8; 32]` in the source. -/
abbrev Digest := Vector UInt8 32

/-- Membership among byte strings is decided through this one law. -/
instance lawfulBEqBytes : LawfulBEq Bytes := inferInstance

/-- Membership among digests is decided through this one law. -/
instance lawfulBEqDigest : LawfulBEq Digest := inferInstance

/-- An ASN.1 object identifier, as its arcs. -/
structure ObjectIdentifier where
  arcs : List Nat
  deriving DecidableEq, Repr

/-- The dotted text of an object identifier. -/
def ObjectIdentifier.toText (oid : ObjectIdentifier) : String :=
  ".".intercalate (oid.arcs.map toString)

/-- `AlgorithmIdentifier`: an algorithm and its raw parameters. -/
structure AlgorithmIdentifier where
  oid : ObjectIdentifier
  parameters : Option Bytes
  deriving DecidableEq, Repr

/-- A distinguished name: its attribute types and values, in order. -/
structure Name where
  attributes : List (ObjectIdentifier × Bytes)
  deriving DecidableEq, Repr

/-- `SubjectPublicKeyInfo`; the key is the content of its BIT STRING. -/
structure SubjectPublicKeyInfo where
  algorithm : AlgorithmIdentifier
  subjectPublicKey : Bytes
  deriving DecidableEq, Repr

/-- One X.509 extension as `x509-cert` decodes it. -/
structure Extension where
  extnId : ObjectIdentifier
  critical : Bool
  extnValue : Bytes
  deriving DecidableEq, Repr

/-- `TBSCertificate` as `x509-cert` decodes it. -/
structure TbsCertificate where
  version : Nat
  serialNumber : Bytes
  signature : AlgorithmIdentifier
  issuer : Name
  notBefore : Nat
  notAfter : Nat
  subject : Name
  subjectPublicKeyInfo : SubjectPublicKeyInfo
  issuerUniqueId : Option Bytes
  subjectUniqueId : Option Bytes
  extensions : Option (List Extension)
  deriving DecidableEq, Repr

/-- `Certificate` as `x509-cert` decodes it. -/
structure Certificate where
  tbsCertificate : TbsCertificate
  signatureAlgorithm : AlgorithmIdentifier
  signature : Bytes
  deriving DecidableEq, Repr

/-! ## OCSP -/

/-- `OcspResponseStatus` of RFC 6960. -/
inductive OcspResponseStatus
  | successful
  | malformedRequest
  | internalError
  | tryLater
  | sigRequired
  | unauthorized
  deriving DecidableEq, Repr

/-- `ResponseBytes`: the response type and the DER of the response. -/
structure ResponseBytes where
  responseType : ObjectIdentifier
  response : Bytes
  deriving DecidableEq, Repr

/-- The outer `OcspResponse` envelope. -/
structure OcspResponse where
  responseStatus : OcspResponseStatus
  responseBytes : Option ResponseBytes
  deriving DecidableEq, Repr

/-- `ResponderID`: the responder's name or the SHA-1 hash of its key. -/
inductive ResponderId
  | byName (name : Name)
  | byKey (keyHash : Bytes)
  deriving DecidableEq, Repr

/-- `CertID`: which certificate a single response is about. -/
structure CertId where
  hashAlgorithm : AlgorithmIdentifier
  issuerNameHash : Bytes
  issuerKeyHash : Bytes
  serialNumber : Bytes
  deriving DecidableEq, Repr

/-- `CertStatus`; a revoked status carries the revocation time and the optional reason code. -/
inductive CertStatus
  | good
  | revoked (revocationTime : Nat) (reason : Option Nat)
  | unknown
  deriving DecidableEq, Repr

/-- `SingleResponse`; the two times are in seconds since the Unix epoch. -/
structure SingleResponse where
  certId : CertId
  certStatus : CertStatus
  thisUpdate : Nat
  nextUpdate : Option Nat
  singleExtensions : Option (List Extension)
  deriving DecidableEq, Repr

/-- `ResponseData`, the signed part of a basic response. -/
structure ResponseData where
  version : Nat
  responderId : ResponderId
  producedAt : Nat
  responses : List SingleResponse
  responseExtensions : Option (List Extension)
  deriving DecidableEq, Repr

/-- `BasicOCSPResponse`. -/
structure BasicOcspResponse where
  tbsResponseData : ResponseData
  signatureAlgorithm : AlgorithmIdentifier
  signature : Bytes
  certs : Option (List Certificate)
  deriving DecidableEq, Repr

/-! ## The view of `x509-parser` -/

/-- `x509-parser`'s reading of an extension value, for the one extension the code inspects. -/
inductive ParsedExtension
  | extendedKeyUsage (any ocspSigning : Bool) (other : List ObjectIdentifier)
  | unparsed
  deriving DecidableEq, Repr

/-- One extension of an `x509-parser` certificate. -/
structure X509Extension where
  oid : ObjectIdentifier
  value : Bytes
  parsedExtension : ParsedExtension
  deriving DecidableEq, Repr

/-- An `x509-parser` certificate: its extensions and the raw DER of its public key info. -/
structure X509Certificate where
  extensions : List X509Extension
  publicKeyRaw : Bytes
  deriving DecidableEq, Repr

/-! ## Crates -/

/-- A signature crate: decoding a verifying key, decoding a signature, and checking one. -/
structure SignatureCrate where
  verifyingKey : Bytes → Except String Bytes
  signature : Bytes → Except String Bytes
  verify : (key message signature : Bytes) → Bool

/-- The third-party code the verifiers call. -/
structure Crates where
  /-- `x509_cert::Certificate::from_der`. -/
  certificateFromDer : Bytes → Except String Certificate
  /-- `Certificate::to_der`. -/
  certificateToDer : Certificate → Except String Bytes
  /-- `TbsCertificate::to_der`. -/
  tbsCertificateToDer : TbsCertificate → Except String Bytes
  /-- `Name::to_der`. -/
  nameToDer : Name → Except String Bytes
  /-- `SubjectPublicKeyInfo::to_der`. -/
  spkiToDer : SubjectPublicKeyInfo → Except String Bytes
  /-- `x509_ocsp::OcspResponse::from_der`. -/
  ocspResponseFromDer : Bytes → Except String OcspResponse
  /-- `BasicOcspResponse::from_der`. -/
  basicOcspResponseFromDer : Bytes → Except String BasicOcspResponse
  /-- `ResponseData::to_der`. -/
  responseDataToDer : ResponseData → Except String Bytes
  /-- `x509_parser::X509Certificate::from_der`, without the unread remainder. -/
  x509CertificateFromDer : Bytes → Except String X509Certificate
  sha1 : Bytes → Bytes
  sha256 : Bytes → Digest
  sha384 : Bytes → Bytes
  sha512 : Bytes → Bytes
  /-- `spki::SubjectPublicKeyInfoRef::try_from`, then `subject_public_key.raw_bytes()`. -/
  spkiRefRawBytes : Bytes → Except String Bytes
  /-- `rsa::pkcs1::RsaPublicKey::from_der`: the modulus and exponent bytes. -/
  rsaPublicKeyFromDer : Bytes → Except String (Bytes × Bytes)
  /-- `rsa::RsaPublicKey::new` on a modulus and an exponent. -/
  rsaPublicKeyNew : Nat → Nat → Except String Unit
  /-- `rsa::pkcs1v15::Signature::try_from`. -/
  rsaSignature : Bytes → Except String Bytes
  /-- `VerifyingKey::<Sha256>::verify` of `rsa::pkcs1v15`. -/
  rsaVerify : (modulus exponent : Nat) → (message signature : Bytes) → Bool
  p256 : SignatureCrate
  p384 : SignatureCrate
  /-- `ed25519-dalek`, with the strict check `verify_strict`. -/
  ed25519 : SignatureCrate

/-- A signature crate that decodes nothing. -/
def SignatureCrate.inert : SignatureCrate where
  verifyingKey _ := .error "malformed key"
  signature _ := .error "malformed signature"
  verify _ _ _ := false

/-- Crates that decode nothing, and whose digests are the first bytes of the data.  Concrete
instances override the functions they exercise. -/
def Crates.inert : Crates where
  certificateFromDer _ := .error "malformed certificate"
  certificateToDer _ := .error "unencodable certificate"
  tbsCertificateToDer _ := .error "unencodable certificate"
  nameToDer _ := .error "unencodable name"
  spkiToDer _ := .error "unencodable key"
  ocspResponseFromDer _ := .error "malformed response"
  basicOcspResponseFromDer _ := .error "malformed response"
  responseDataToDer _ := .error "unencodable response"
  x509CertificateFromDer _ := .error "malformed certificate"
  sha1 data := data.take 20
  sha256 data := Vector.ofFn fun i => data.getD i 0
  sha384 data := data.take 48
  sha512 data := data.take 64
  spkiRefRawBytes _ := .error "malformed key"
  rsaPublicKeyFromDer _ := .error "malformed key"
  rsaPublicKeyNew _ _ := .error "malformed key"
  rsaSignature _ := .error "malformed signature"
  rsaVerify _ _ _ _ := false
  p256 := .inert
  p384 := .inert
  ed25519 := .inert

end OxiTls
