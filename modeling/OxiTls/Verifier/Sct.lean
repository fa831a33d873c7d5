import OxiTls.Library.BigEndian
import OxiTls.Rustls

/-!
# Certificate Transparency verification

`sct.rs`: an `SctVerifier` reads the SCT list embedded in the end entity, checks each SCT against
the list of trusted logs, and applies a policy to the number of distinct logs that vouch for it.
-/

namespace OxiTls

/-- The embedded SCT list extension. -/
def sctListOid : ObjectIdentifier := ⟨[1, 3, 6, 1, 4, 1, 11129, 2, 4, 2]⟩

/-- One entry of an SCT list. -/
structure ParsedSct where
  sctVersion : UInt8
  logId : Digest
  timestampMs : UInt64
  extensions : Bytes
  hashAlg : UInt8
  sigAlg : UInt8
  signature : Bytes
  deriving DecidableEq

/-- Why an SCT list failed to parse. -/
inductive SctParseError
  | listLenOverflow
  | entryLenOverflow
  | entryTooShort
  | unknownVersion (version : UInt8)
  deriving DecidableEq, Repr

/-- The two lowercase hexadecimal digits of a byte. -/
def hexByte (byte : UInt8) : String :=
  String.ofList [Nat.digitChar (byte.toNat / 16), Nat.digitChar (byte.toNat % 16)]

/-- The displayed text of a parse error. -/
def SctParseError.toText : SctParseError → String
  | .listLenOverflow => "SCT list length exceeds available bytes"
  | .entryLenOverflow => "SCT entry length exceeds remaining list bytes"
  | .entryTooShort => "SCT entry is too short"
  | .unknownVersion version => "unknown SCT version 0x" ++ hexByte version

/-- Why an SCT signature failed to verify. -/
inductive SctVerifyError
  | unsupportedKeyAlg
  | signatureInvalid
  | keyDecode (message : String)
  | sigDecode (message : String)
  | parseError (message : String)
  deriving DecidableEq, Repr

/-- Key algorithm of a CT log. -/
inductive CtKeyAlg
  | ecdsaP256Sha256
  | ed25519
  deriving DecidableEq, Repr

/-- A trusted log: its identifier, its DER-encoded key and the algorithm of that key. -/
structure CtLog where
  id : Digest
  publicKeyDer : Bytes
  keyAlg : CtKeyAlg
  deriving DecidableEq

/-- How the number of vouching logs is treated. -/
inductive SctPolicy
  | disabled
  | permissive (minDistinctLogs : UInt8)
  | strict (minDistinctLogs : UInt8)
  deriving DecidableEq, Repr

/-! ## Parsing -/

/-- Parse the body of one entry. -/
def parseSctEntry (sctBytes : Bytes) : Except SctParseError ParsedSct :=
  if sctBytes.length < 43 then .error .entryTooShort
  else
    let version := sctBytes.getD 0 0
    if version ≠ 0 then .error (.unknownVersion version)
    else
      let logId : Digest := Vector.ofFn fun i => sctBytes.getD (1 + i) 0
      let timestampMs := UInt64.ofNat (BigEndian.decode (sctBytes.extract 33 41))
      let extLen := BigEndian.decode (sctBytes.extract 41 43)
      if 43 + extLen > sctBytes.length then .error .entryTooShort
      else
        let extensions := sctBytes.extract 43 (43 + extLen)
        let innerPos := 43 + extLen
        if innerPos + 4 > sctBytes.length then .error .entryTooShort
        else
          let hashAlg := sctBytes.getD innerPos 0
          let sigAlg := sctBytes.getD (innerPos + 1) 0
          let sigLen := BigEndian.decode (sctBytes.extract (innerPos + 2) (innerPos + 4))
          let innerPos := innerPos + 4
          if innerPos + sigLen > sctBytes.length then .error .entryTooShort
          else
            let signature := sctBytes.extract innerPos (innerPos + sigLen)
            .ok { sctVersion := version, logId, timestampMs, extensions, hashAlg, sigAlg,
                  signature }

/-- Parse length-prefixed entries until fewer than two bytes remain.  The fuel bounds the number of
entries; the length of the region is always enough. -/
def parseSctEntries : (fuel : Nat) → (region : Bytes) → Except SctParseError (List ParsedSct)
  | 0, _ => .ok []
  | fuel + 1, region =>
      if region.length < 2 then .ok []
      else
        let sctLen := BigEndian.decode (region.take 2)
        let rest := region.drop 2
        if sctLen > rest.length then .error .entryLenOverflow
        else do
          let sct ← parseSctEntry (rest.take sctLen)
          let later ← parseSctEntries fuel (rest.drop sctLen)
          pure (sct :: later)

/-- Parse the raw value of the SCT list extension. -/
def parseSctList (bytes : Bytes) : Except SctParseError (List ParsedSct) :=
  if bytes.length < 2 then .ok []
  else
    let listLen := BigEndian.decode (bytes.take 2)
    if 2 + listLen > bytes.length then .error .listLenOverflow
    else parseSctEntries listLen (bytes.extract 2 (2 + listLen))

/-- Strip the DER OCTET STRING around the TLS-encoded list. -/
def stripSctOctetString : Bytes → Option Bytes
  | tag :: lenByte :: rest =>
      if tag ≠ 0x04 then none
      else
        let header : Option (Nat × Bytes) :=
          if lenByte < 0x80 then some (lenByte.toNat, rest)
          else
            let numBytes := (lenByte &&& 0x7f).toNat
            if numBytes = 0 ∨ numBytes > 2 ∨ rest.length < numBytes then none
            else some (BigEndian.decode (rest.take numBytes), rest.drop numBytes)
        match header with
        | none => none
        | some (contentLen, rest) =>
            if rest.length < contentLen then none else some (rest.take contentLen)
  | _ => none

/-! ## Signed data -/

/-- The signed input of an `x509_entry`, for SCTs delivered outside the certificate. -/
def buildSctSignedData (sct : ParsedSct) (certDer : Bytes) : Bytes :=
  [0x00, 0x00] ++ BigEndian.encode 8 sct.timestampMs.toNat ++ [0x00, 0x00] ++
    BigEndian.encode 3 certDer.length ++ certDer ++
    BigEndian.encode 2 sct.extensions.length ++ sct.extensions

/-- The signed input of a `precert_entry`, for embedded SCTs. -/
def buildSctSignedDataPrecert (sct : ParsedSct) (tbsNoSct : Bytes) (issuerKeyHash : Digest) :
    Bytes :=
  [sct.sctVersion, 0x00] ++ BigEndian.encode 8 sct.timestampMs.toNat ++ [0x00, 0x01] ++
    issuerKeyHash.toList ++
    BigEndian.encode 3 tbsNoSct.length ++ tbsNoSct ++
    BigEndian.encode 2 sct.extensions.length ++ sct.extensions

/-- A to-be-signed certificate without its SCT list extension. -/
def TbsCertificate.withoutSctList (tbs : TbsCertificate) : TbsCertificate :=
  { tbs with extensions := tbs.extensions.map fun exts =>
      exts.filter fun ext => ext.extnId != sctListOid }

namespace Crates

variable (crates : Crates)

/-- Reconstruct the issuer key hash and the to-be-signed bytes an embedded SCT covers. -/
def precertTbsAndIssuerHash (leafDer issuerDer : Bytes) :
    Except SctVerifyError (Digest × Bytes) := do
  let issuerParsed ← (crates.x509CertificateFromDer issuerDer).mapError
    fun e => .parseError ("issuer cert parse: " ++ e)
  let issuerKeyHash := crates.sha256 issuerParsed.publicKeyRaw
  let leafCert ← (crates.certificateFromDer leafDer).mapError
    fun e => .parseError ("leaf cert parse: " ++ e)
  let tbsBytes ← (crates.tbsCertificateToDer leafCert.tbsCertificate.withoutSctList).mapError
    fun e => .parseError ("tbs re-encode: " ++ e)
  pure (issuerKeyHash, tbsBytes)

/-- Verify an SCT signature under the key of a log. -/
def verifySctSignature (log : CtLog) (signedData : Bytes) (sct : ParsedSct) :
    Except SctVerifyError Unit := do
  let raw ← (crates.spkiRefRawBytes log.publicKeyDer).mapError .keyDecode
  let (key, scheme) ←
    match log.keyAlg with
    | .ecdsaP256Sha256 => do
        let key ← (crates.p256.verifyingKey raw).mapError .keyDecode
        pure (key, crates.p256)
    | .ed25519 =>
        if raw.length ≠ 32 then .error (.keyDecode "Ed25519 key must be 32 bytes")
        else do
          let key ← (crates.ed25519.verifyingKey raw).mapError .keyDecode
          pure (key, crates.ed25519)
  let signature ← (scheme.signature sct.signature).mapError .sigDecode
  if scheme.verify key signedData signature then pure () else throw .signatureInvalid

/-! ## Counting -/

/-- The distinct log identifiers with a verified SCT, collected in order. -/
def seenLogs (logs : List CtLog) (signedData : ParsedSct → Bytes) :
    (seen : List Digest) → List ParsedSct → List Digest
  | seen, [] => seen
  | seen, sct :: rest =>
      if sct.logId ∈ seen then seenLogs logs signedData seen rest
      else
        match logs.find? fun log => log.id == sct.logId with
        | none => seenLogs logs signedData seen rest
        | some log =>
            match crates.verifySctSignature log (signedData sct) sct with
            | .ok () => seenLogs logs signedData (sct.logId :: seen) rest
            | .error _ => seenLogs logs signedData seen rest

/-- The precert inputs of a handshake, when there is an issuer and they can be reconstructed. -/
def precertInputs (leafDer : Bytes) (issuerDer : Option Bytes) : Option (Digest × Bytes) :=
  issuerDer.bind fun issuer => (crates.precertTbsAndIssuerHash leafDer issuer).toOption

/-- The bytes an SCT is checked against.  Without precert inputs this is the `x509_entry` of the
whole certificate. -/
def sctSignedData (leafDer : Bytes) (inputs : Option (Digest × Bytes)) (sct : ParsedSct) : Bytes :=
  match inputs with
  | some (issuerKeyHash, tbsNoSct) => buildSctSignedDataPrecert sct tbsNoSct issuerKeyHash
  | none => buildSctSignedData sct leafDer

/-- Count the distinct trusted logs with a verified SCT, saturating at 255. -/
def countTrustedVerified (scts : List ParsedSct) (logs : List CtLog) (leafDer : Bytes)
    (issuerDer : Option Bytes) : UInt8 :=
  let inputs := crates.precertInputs leafDer issuerDer
  let seen := crates.seenLogs logs (sctSignedData leafDer inputs) [] scts
  UInt8.ofNat (min seen.length 255)

/-- The raw SCT list embedded in a certificate. -/
def extractSctExtension (certDer : Bytes) : Option Bytes :=
  match crates.x509CertificateFromDer certDer with
  | .error _ => none
  | .ok cert =>
      match cert.extensions.find? fun ext => ext.oid == sctListOid with
      | none => none
      | some ext => stripSctOctetString ext.value

end Crates

/-! ## The verifier -/

/-- `SctVerifier`. -/
structure SctVerifier where
  inner : ServerCertVerifier
  policy : SctPolicy
  logs : List CtLog

namespace SctPolicy

/-- Whether the policy is `Strict`. -/
def isStrict : SctPolicy → Bool
  | .strict _ => true
  | .disabled | .permissive _ => false

/-- The number of distinct logs the policy asks for. -/
def minDistinctLogs : SctPolicy → UInt8
  | .disabled => 0
  | .permissive min | .strict min => min

end SctPolicy

namespace SctVerifier

variable (crates : Crates) (verifier : SctVerifier)

/-- What an enabled policy finds wrong with the embedded SCTs of a handshake. -/
def complaint (presented : Presented) : Option String :=
  match crates.extractSctExtension presented.endEntity with
  | none => some "No SCT extension found in leaf certificate (strict SCT policy)"
  | some value =>
      match parseSctList value with
      | .error e => some ("failed to parse SCT list: " ++ e.toText)
      | .ok scts =>
          let minLogs := verifier.policy.minDistinctLogs
          let distinct := crates.countTrustedVerified scts verifier.logs presented.endEntity
            presented.intermediates.head?
          if distinct < minLogs then
            some ("SCT policy requires " ++ toString minLogs ++
              " distinct trusted log(s) with valid signatures, found " ++ toString distinct)
          else none

def verifyServerCert (presented : Presented) : Verification :=
  if verifier.policy = .disabled then verifier.inner.verifyServerCert presented
  else
    match verifier.complaint crates presented with
    | some message =>
        if verifier.policy.isStrict then .refuse (.general message)
        else verifier.inner.verifyServerCert presented
    | none => verifier.inner.verifyServerCert presented

/-- The verifier as rustls sees it. -/
def toVerifier : ServerCertVerifier where
  verifyServerCert := verifier.verifyServerCert crates
  signatureCheck := verifier.inner.signatureCheck

end SctVerifier

end OxiTls
