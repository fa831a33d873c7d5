import OxiTls.Library.BigEndian
import OxiTls.Library.OrderedMap
import OxiTls.Library.Panics
import OxiTls.Rcgen.Issuance

/-!
# Signing requests

`csr.rs` of `oxitls-rcgen`: a certificate for the subject of a certificate signing request.  The
request is what `x509-parser` reads; rcgen writes the certificate.  The key of the certificate is
the key of the request, but its algorithm is taken from the signature of the request, and the
subject passes through a map from attribute types to values.
-/

namespace OxiTls.Csr

/-! ## Requests -/

/-- One attribute of a relative distinguished name: the type, unless its arcs do not fit in 64 bits,
and the value as text, or why it is none. -/
structure AttributeTypeAndValue where
  attrType : Option ObjectIdentifier
  asStr : Except String String

/-- The `GeneralName` variants the code tells apart. -/
inductive GeneralName
  | dnsName (name : String)
  | rfc822Name (name : String)
  | uri (name : String)
  | ipAddress (octets : Bytes)
  | other
  deriving DecidableEq, Repr

/-- The `ParsedExtension` variants the code tells apart. -/
inductive ParsedExtension
  | subjectAlternativeName (generalNames : List GeneralName)
  | other
  deriving DecidableEq, Repr

/-- The fields of a `SubjectPublicKeyInfo`; the key is the content of its BIT STRING. -/
structure PublicKeyInfo where
  algorithm : AlgorithmIdentifier
  unusedBits : UInt8
  data : Bytes
  deriving DecidableEq, Repr

/-- `X509CertificationRequest`. -/
structure CertificationRequest where
  /-- The relative distinguished names of the subject. -/
  subject : List (List AttributeTypeAndValue)
  subjectPki : PublicKeyInfo
  /-- The DER of the `SubjectPublicKeyInfo`. -/
  subjectPkiRaw : Bytes
  signatureAlgorithm : Option ObjectIdentifier
  requestedExtensions : Option (List ParsedExtension)

/-! ## rcgen -/

/-- The `rcgen::SignatureAlgorithm` statics of the code. -/
inductive SignatureAlgorithm
  | pkcsEd25519
  | pkcsEcdsaP256Sha256
  | pkcsEcdsaP384Sha384
  | pkcsRsaSha256
  deriving DecidableEq, Repr

/-- The algorithm identifier that rcgen writes for a public key of an algorithm: the curve of an
elliptic curve key is a parameter, and the parameter of an RSA key is NULL. -/
def SignatureAlgorithm.keyIdentifier : SignatureAlgorithm → AlgorithmIdentifier
  | .pkcsEd25519 => ⟨⟨[1, 3, 101, 112]⟩, none⟩
  | .pkcsEcdsaP256Sha256 => ⟨⟨[1, 2, 840, 10045, 2, 1]⟩,
      some [0x06, 0x08, 0x2a, 0x86, 0x48, 0xce, 0x3d, 0x03, 0x01, 0x07]⟩
  | .pkcsEcdsaP384Sha384 => ⟨⟨[1, 2, 840, 10045, 2, 1]⟩,
      some [0x06, 0x05, 0x2b, 0x81, 0x04, 0x00, 0x22]⟩
  | .pkcsRsaSha256 => ⟨⟨[1, 2, 840, 113549, 1, 1, 1]⟩, some [0x05, 0x00]⟩

/-- The object identifier of the signatures of an algorithm. -/
def SignatureAlgorithm.signatureOid : SignatureAlgorithm → ObjectIdentifier
  | .pkcsEd25519 => ⟨[1, 3, 101, 112]⟩
  | .pkcsEcdsaP256Sha256 => ⟨[1, 2, 840, 10045, 4, 3, 2]⟩
  | .pkcsEcdsaP384Sha384 => ⟨[1, 2, 840, 10045, 4, 3, 3]⟩
  | .pkcsRsaSha256 => ⟨[1, 2, 840, 113549, 1, 1, 11]⟩

/-- `rcgen::DnType`. -/
inductive DnType
  | countryName
  | localityName
  | stateOrProvinceName
  | organizationName
  | organizationalUnitName
  | commonName
  | customDnType (oid : ObjectIdentifier)
  deriving DecidableEq, Repr

namespace DnType

/-- `DnType::from_oid`. -/
def fromOid (oid : ObjectIdentifier) : DnType :=
  if oid = ⟨[2, 5, 4, 6]⟩ then countryName
  else if oid = ⟨[2, 5, 4, 7]⟩ then localityName
  else if oid = ⟨[2, 5, 4, 8]⟩ then stateOrProvinceName
  else if oid = ⟨[2, 5, 4, 10]⟩ then organizationName
  else if oid = ⟨[2, 5, 4, 11]⟩ then organizationalUnitName
  else if oid = ⟨[2, 5, 4, 3]⟩ then commonName
  else customDnType oid

/-- `DnType::to_oid`. -/
def toOid : DnType → ObjectIdentifier
  | countryName => ⟨[2, 5, 4, 6]⟩
  | localityName => ⟨[2, 5, 4, 7]⟩
  | stateOrProvinceName => ⟨[2, 5, 4, 8]⟩
  | organizationName => ⟨[2, 5, 4, 10]⟩
  | organizationalUnitName => ⟨[2, 5, 4, 11]⟩
  | commonName => ⟨[2, 5, 4, 3]⟩
  | customDnType oid => oid

@[simp]
theorem toOid_fromOid (oid : ObjectIdentifier) : (fromOid oid).toOid = oid := by
  rw [fromOid]
  split_ifs with country locality state organization unit common
  · exact country.symm
  · exact locality.symm
  · exact state.symm
  · exact organization.symm
  · exact unit.symm
  · exact common.symm
  · rfl

theorem fromOid_injective : Function.Injective fromOid :=
  Function.LeftInverse.injective toOid_fromOid

end DnType

/-- `rcgen::DistinguishedName`: one value for an attribute type, in the order of the types. -/
abbrev DistinguishedName := OrderedMap DnType String

/-- The `rcgen::SanType` variants that requests ask for. -/
inductive SanType
  | dnsName (name : String)
  | rfc822Name (name : String)
  | uri (name : String)
  | ipAddress (octets : Bytes)
  deriving DecidableEq, Repr

/-- The fields of `rcgen::CertificateParams` that `sign_csr` sets, and `is_ca`, which it leaves at
its default.  Times are in nanoseconds since the epoch. -/
structure Params where
  distinguishedName : DistinguishedName
  subjectAltNames : List SanType
  /-- `KeyIdMethod::PreSpecified`. -/
  keyIdentifier : Bytes
  serialNumber : Nat
  notBefore : Int
  notAfter : Int
  isCa : IsCa := .noCa

/-- `CsrPublicKey`. -/
structure CsrPublicKey where
  raw : Bytes
  alg : SignatureAlgorithm
  deriving DecidableEq, Repr

/-- What is read from an issued certificate. -/
structure IssuedCertificate where
  /-- The attribute types and values of the subject, in order. -/
  subject : List (ObjectIdentifier × String)
  subjectPki : PublicKeyInfo
  subjectKeyIdentifier : Option Bytes
  deriving DecidableEq, Repr

/-- rcgen and x509-parser, as far as requests are concerned. -/
structure CsrCrates where
  rcgen : Rcgen
  /-- `X509CertificationRequest::from_der`, or the debug text of its error. -/
  parseRequest : Bytes → Except String CertificationRequest
  /-- `CertificateParams::signed_by`, with the parameters and the key of the issuer: DER and PEM. -/
  signedBy : Params → CsrPublicKey → CertificateParams → rcgen.Key →
    Except String (Bytes × String)
  /-- Reading the certificate back. -/
  readCertificate : Bytes → Option IssuedCertificate
  /-- Whether a certificate with this `is_ca` gets a subject key identifier extension.  In rcgen
  0.14 one with `NoCa` gets none. -/
  writesKeyIdentifier : IsCa → Bool

/-- The certificate that rcgen writes: the subject from the distinguished name, the key from the
algorithm and the bytes of `PublicKeyData`, and a pre-specified key identifier as it is. -/
def certificateOf (writesKeyIdentifier : IsCa → Bool) (params : Params) (key : CsrPublicKey) :
    IssuedCertificate where
  subject := params.distinguishedName.entries.map (Prod.map DnType.toOid id)
  subjectPki := ⟨key.alg.keyIdentifier, 0, key.raw⟩
  subjectKeyIdentifier :=
    if writesKeyIdentifier params.isCa then some params.keyIdentifier else none

/-- rcgen writes certificates as documented. -/
def CsrCrates.Documented (crates : CsrCrates) : Prop :=
  ∀ params key caParams issuer der pem,
    crates.signedBy params key caParams issuer = .ok (der, pem) →
      crates.readCertificate der = some (certificateOf crates.writesKeyIdentifier params key)

/-! ## Parsing -/

/-- A value that must be there, or an error with a text. -/
def orInvalidConfig {α : Type} (value : Option α) (text : String) : Except TlsError α :=
  match value with
  | some value => .ok value
  | none => .error (.invalidConfig text)

theorem orInvalidConfig_eq_ok_iff {α : Type} {value : Option α} {text : String} {found : α} :
    orInvalidConfig value text = .ok found ↔ value = some found := by
  cases value <;> simp [orInvalidConfig]

/-- `signature_algorithm_from_oid`. -/
def signatureAlgorithmFromOid (oid : ObjectIdentifier) : Except TlsError SignatureAlgorithm :=
  if oid.arcs = [1, 3, 101, 112] then .ok .pkcsEd25519
  else if oid.arcs = [1, 2, 840, 10045, 4, 3, 2] then .ok .pkcsEcdsaP256Sha256
  else if oid.arcs = [1, 2, 840, 10045, 4, 3, 3] then .ok .pkcsEcdsaP384Sha384
  else if oid.arcs = [1, 2, 840, 113549, 1, 1, 11] then .ok .pkcsRsaSha256
  else .error (.invalidConfig ("unsupported CSR signature algorithm OID: " ++ toString oid.arcs))

/-- The body of the inner loop of `dn_from_x509_name`. -/
def pushAttribute (dn : DistinguishedName) (attr : AttributeTypeAndValue) :
    Except TlsError DistinguishedName := do
  let rawOid ← orInvalidConfig attr.attrType "DN attribute OID missing"
  let dnType := DnType.fromOid rawOid
  let value ← attr.asStr.mapError fun failure =>
    .invalidConfig ("DN attribute value: " ++ failure)
  pure (dn.put dnType value)

/-- `dn_from_x509_name`. -/
def dnFromX509Name (name : List (List AttributeTypeAndValue)) :
    Except TlsError DistinguishedName :=
  name.foldlM (fun dn rdn => rdn.foldlM pushAttribute dn) OrderedMap.empty

/-- `parse_ip_octets`. -/
def parseIpOctets (octets : Bytes) : Option Bytes :=
  if octets.length = 4 ∨ octets.length = 16 then some octets else none

/-- `san_from_general_name`. -/
def sanFromGeneralName (rcgen : Rcgen) : GeneralName → Option SanType
  | .dnsName name => (rcgen.ia5String name).toOption.map .dnsName
  | .rfc822Name name => (rcgen.ia5String name).toOption.map .rfc822Name
  | .uri name => (rcgen.ia5String name).toOption.map .uri
  | .ipAddress octets => (parseIpOctets octets).map .ipAddress
  | .other => none

/-- The subject alternative names of one extension. -/
def sansOfExtension (rcgen : Rcgen) : ParsedExtension → List SanType
  | .subjectAlternativeName generalNames => generalNames.filterMap (sanFromGeneralName rcgen)
  | .other => []

/-- `ParsedCsr`. -/
structure ParsedCsr where
  subjectDn : DistinguishedName
  sans : List SanType
  publicKeyBitString : Bytes
  spkiFull : Bytes
  algorithm : SignatureAlgorithm

/-- What `parse_csr_components` takes from a request. -/
def components (rcgen : Rcgen) (csr : CertificationRequest) : Except TlsError ParsedCsr := do
  let algOid ← orInvalidConfig csr.signatureAlgorithm "CSR signature algorithm OID is missing"
  let algorithm ← signatureAlgorithmFromOid algOid
  let subjectDn ← dnFromX509Name csr.subject
  let sans := (csr.requestedExtensions.getD []).flatMap (sansOfExtension rcgen)
  pure ⟨subjectDn, sans, csr.subjectPki.data, csr.subjectPkiRaw, algorithm⟩

/-- `parse_csr_components`. -/
def parseCsrComponents (crates : CsrCrates) (csrDer : Bytes) : Except TlsError ParsedCsr := do
  let csr ← (crates.parseRequest csrDer).mapError fun failure =>
    .invalidConfig ("parse CSR DER: " ++ failure)
  components crates.rcgen csr

/-! ## Signing -/

/-- `OffsetDateTime` arithmetic panics outside the years from -9999 to 9999. -/
def offsetDateTime (nanoseconds : Int) : Except (Fault TlsError) Int :=
  if -377705116800 * 1000000000 ≤ nanoseconds ∧ nanoseconds < 253402300800 * 1000000000 then
    .ok nanoseconds
  else .error .panic

/-- `SignedCertificate`. -/
structure SignedCertificate where
  certDer : Bytes
  certPem : String
  deriving DecidableEq, Repr

/-- `sign_with_issuer`. -/
def signWithIssuer (crates : CsrCrates) (params : Params) (csrPub : CsrPublicKey)
    (caParams : CertificateParams) (caKey : crates.rcgen.Key) :
    Except TlsError (Bytes × String) :=
  (crates.signedBy params csrPub caParams caKey).mapError fun failure =>
    .invalidConfig ("sign CSR: " ++ failure)

/-- `sign_csr` at a time; the arms of its match differ in the type of the CA's key only. -/
def signCsr (crates : CsrCrates) (now : Int) (csrDer : Bytes)
    (ca : Rcgen.CaCertifiedKey crates.rcgen.Key) (validityDays : UInt32) :
    Except (Fault TlsError) SignedCertificate := do
  let parsed ← Fault.calm (parseCsrComponents crates csrDer)
  let kid := (crates.rcgen.sha256 parsed.spkiFull).toList
  let notBefore ← offsetDateTime (now - 5 * 60 * 1000000000)
  let notAfter ← offsetDateTime (now + validityDays.toNat * 86400 * 1000000000)
  let params : Params :=
    { distinguishedName := parsed.subjectDn
      subjectAltNames := parsed.sans
      keyIdentifier := kid
      serialNumber := 1
      notBefore := notBefore
      notAfter := notAfter }
  let csrPub : CsrPublicKey := ⟨parsed.publicKeyBitString, parsed.algorithm⟩
  let (certDer, certPem) ← Fault.calm
    (signWithIssuer crates params csrPub ca.caParams ca.signer.2)
  pure ⟨certDer, certPem⟩

/-! ## A concrete rcgen -/

/-- A parser that knows one request, and an rcgen that writes one certificate. -/
def issuing (writes : IsCa → Bool) (request : CertificationRequest)
    (certificate : IssuedCertificate) : CsrCrates where
  rcgen := Rcgen.unfailing
  parseRequest _ := .ok request
  signedBy params key _ _ :=
    if certificateOf writes params key = certificate then .ok ([0x30, 0x00], "")
    else .error "unknown certificate"
  readCertificate _ := some certificate
  writesKeyIdentifier := writes

theorem issuing_documented (writes : IsCa → Bool) (request : CertificationRequest)
    (certificate : IssuedCertificate) : (issuing writes request certificate).Documented := by
  intro params key caParams issuer der pem signed
  change (if certificateOf writes params key = certificate then _ else _) = _ at signed
  split_ifs at signed with same
  exact congrArg some same.symm

/-- A CA over `Rcgen.unfailing`. -/
def issuingCa : Rcgen.CaCertifiedKey Bytes where
  certifiedKey := ⟨[], [], "", Rcgen.buildCaParams Rcgen.unfailing "CA" [] none⟩
  caParams := Rcgen.buildCaParams Rcgen.unfailing "CA" [] none
  signer := (.ecdsaP256, [])

/-- The generator of P-384 as a compressed point. -/
def p384Generator : Bytes :=
  0x03 :: (BigEndian.encode 24 0xaa87ca22be8b05378eb1c71ef320ad746e1d3b628ba79b98 ++
    BigEndian.encode 24 0x59f741e082542a385502f25dbf55296c3a545e3872760ab7)

/-- The DER of a P-384 key. -/
def p384Raw : Bytes :=
  [0x30, 0x46, 0x30, 0x10, 0x06, 0x07, 0x2a, 0x86, 0x48, 0xce, 0x3d, 0x02, 0x01, 0x06, 0x05, 0x2b,
    0x81, 0x04, 0x00, 0x22, 0x03, 0x32, 0x00] ++ p384Generator

/-- A request for a P-384 key, with the object identifier of its signature and its subject. -/
def p384Request (signature : ObjectIdentifier) (subject : List (List AttributeTypeAndValue)) :
    CertificationRequest where
  subject := subject
  subjectPki := ⟨SignatureAlgorithm.pkcsEcdsaP384Sha384.keyIdentifier, 0, p384Generator⟩
  subjectPkiRaw := p384Raw
  signatureAlgorithm := some signature
  requestedExtensions := none

/-- The certificate that is written for a P-384 key under an algorithm. -/
def p384Certificate (writes : Bool) (algorithm : SignatureAlgorithm)
    (subject : List (ObjectIdentifier × String)) : IssuedCertificate where
  subject := subject
  subjectPki := ⟨algorithm.keyIdentifier, 0, p384Generator⟩
  subjectKeyIdentifier :=
    if writes then some (Rcgen.unfailing.sha256 p384Raw).toList else none

/-- The crates that read the request and write the certificate. -/
def p384Crates (writes : Bool) (algorithm : SignatureAlgorithm)
    (subject : List (List AttributeTypeAndValue)) (written : List (ObjectIdentifier × String)) :
    CsrCrates :=
  issuing (fun _ => writes) (p384Request algorithm.signatureOid subject)
    (p384Certificate writes algorithm written)

/-- A subject of one common name. -/
def leafSubject : List (List AttributeTypeAndValue) :=
  [[⟨some ⟨[2, 5, 4, 3]⟩, .ok "leaf.example"⟩]]

/-- What is written for it. -/
def leafWritten : List (ObjectIdentifier × String) := [(⟨[2, 5, 4, 3]⟩, "leaf.example")]

/-- A subject of two organizational units. -/
def unitsSubject : List (List AttributeTypeAndValue) :=
  [[⟨some ⟨[2, 5, 4, 11]⟩, .ok "Engineering"⟩], [⟨some ⟨[2, 5, 4, 11]⟩, .ok "Security"⟩]]

/-- A request that is read is signed. -/
theorem signCsr_issuing {writes : IsCa → Bool} {request : CertificationRequest}
    {certificate : IssuedCertificate} {parts : ParsedCsr}
    (parsed : components Rcgen.unfailing request = .ok parts)
    (written : certificateOf writes
      ⟨parts.subjectDn, parts.sans, (Rcgen.unfailing.sha256 parts.spkiFull).toList, 1,
        0 - 5 * 60 * 1000000000, 0 + (365 : UInt32).toNat * 86400 * 1000000000, .noCa⟩
      ⟨parts.publicKeyBitString, parts.algorithm⟩ = certificate) :
    signCsr (issuing writes request certificate) 0 [] issuingCa 365 =
      .ok ⟨[0x30, 0x00], ""⟩ := by
  have signed : (issuing writes request certificate).signedBy
      ⟨parts.subjectDn, parts.sans, (Rcgen.unfailing.sha256 parts.spkiFull).toList, 1,
        0 - 5 * 60 * 1000000000, 0 + (365 : UInt32).toNat * 86400 * 1000000000, .noCa⟩
      ⟨parts.publicKeyBitString, parts.algorithm⟩ issuingCa.caParams issuingCa.signer.2 =
        .ok ([0x30, 0x00], "") := if_pos written
  have components : Fault.calm (parseCsrComponents (issuing writes request certificate) []) =
      .ok parts := congrArg Fault.calm parsed
  have start : offsetDateTime (0 - 5 * 60 * 1000000000) = .ok (0 - 5 * 60 * 1000000000) :=
    if_pos (by decide)
  have stop : offsetDateTime (0 + (365 : UInt32).toNat * 86400 * 1000000000) =
      .ok (0 + (365 : UInt32).toNat * 86400 * 1000000000) := if_pos (by decide)
  apply Except.bind_eq_ok_iff.mpr
  refine ⟨parts, components, Except.bind_eq_ok_iff.mpr ⟨_, start, Except.bind_eq_ok_iff.mpr
    ⟨_, stop, Except.bind_eq_ok_iff.mpr ⟨([0x30, 0x00], ""), ?_, rfl⟩⟩⟩⟩
  exact Except.mapError_eq_ok_iff.mpr (Except.mapError_eq_ok_iff.mpr signed)

/-! ## What is issued -/

/-- The attribute has this type and this text. -/
def AttributeTypeAndValue.Is (attr : AttributeTypeAndValue) (pair : ObjectIdentifier × String) :
    Prop :=
  attr.attrType = some pair.1 ∧ attr.asStr = .ok pair.2

theorem pushAttribute_eq_ok_iff {dn result : DistinguishedName} {attr : AttributeTypeAndValue} :
    pushAttribute dn attr = .ok result ↔
      ∃ pair, attr.Is pair ∧ dn.put (DnType.fromOid pair.1) pair.2 = result := by
  simp only [pushAttribute, Except.bind_eq_ok_iff, orInvalidConfig_eq_ok_iff,
    Except.mapError_eq_ok_iff, Except.pure_eq_ok_iff]
  constructor
  · rintro ⟨oid, known, value, text, pushed⟩
    exact ⟨(oid, value), ⟨known, text⟩, pushed⟩
  · rintro ⟨⟨oid, value⟩, ⟨known, text⟩, pushed⟩
    exact ⟨oid, known, value, text, pushed⟩

/-- Attributes in sequence are put into the name in their order. -/
theorem foldlM_pushAttribute_eq_ok_iff {attrs : List AttributeTypeAndValue}
    {dn result : DistinguishedName} :
    attrs.foldlM pushAttribute dn = .ok result ↔
      ∃ pairs, List.Forall₂ AttributeTypeAndValue.Is attrs pairs ∧
        dn.putAll (pairs.map (Prod.map DnType.fromOid id)) = result := by
  induction attrs generalizing dn with
  | nil =>
      rw [List.foldlM_nil, Except.pure_eq_ok_iff]
      constructor
      · intro same
        exact ⟨[], List.Forall₂.nil, same⟩
      · rintro ⟨pairs, attributes, same⟩
        obtain rfl := List.forall₂_nil_left_iff.mp attributes
        exact same
  | cons attr attrs ih =>
      rw [List.foldlM_cons, Except.bind_eq_ok_iff]
      constructor
      · rintro ⟨middle, pushed, rest⟩
        obtain ⟨pair, is, rfl⟩ := pushAttribute_eq_ok_iff.mp pushed
        obtain ⟨pairs, attributes, rfl⟩ := ih.mp rest
        exact ⟨pair :: pairs, attributes.cons is, rfl⟩
      · rintro ⟨pairs, attributes, rfl⟩
        obtain ⟨pair, others, is, rest, rfl⟩ := List.forall₂_cons_left_iff.mp attributes
        exact ⟨_, pushAttribute_eq_ok_iff.mpr ⟨pair, is, rfl⟩, ih.mpr ⟨others, rest, rfl⟩⟩

/-- The two loops over a name are one loop over its attributes. -/
theorem dnFromX509Name_eq (name : List (List AttributeTypeAndValue)) :
    dnFromX509Name name = name.flatten.foldlM pushAttribute OrderedMap.empty := by
  have loops : ∀ dn : DistinguishedName,
      name.foldlM (fun dn rdn => rdn.foldlM pushAttribute dn) dn =
        name.flatten.foldlM pushAttribute dn := by
    induction name with
    | nil => exact fun _ => rfl
    | cons rdn name ih =>
        intro dn
        rw [List.foldlM_cons, List.flatten_cons, List.foldlM_append]
        congr 1
        funext middle
        exact ih middle
  exact loops OrderedMap.empty

/-- The subject that rcgen writes for a name is the map of its attributes. -/
theorem subject_of_dnFromX509Name {name : List (List AttributeTypeAndValue)}
    {dn : DistinguishedName} (parsed : dnFromX509Name name = .ok dn) :
    ∃ pairs, List.Forall₂ AttributeTypeAndValue.Is name.flatten pairs ∧
      dn.entries.map (Prod.map DnType.toOid id) =
        ((OrderedMap.empty : OrderedMap ObjectIdentifier String).putAll pairs).entries := by
  rw [dnFromX509Name_eq] at parsed
  obtain ⟨pairs, attributes, rfl⟩ := foldlM_pushAttribute_eq_ok_iff.mp parsed
  refine ⟨pairs, attributes, ?_⟩
  have renamed := OrderedMap.mapKeys_putAll DnType.fromOid_injective
    (OrderedMap.empty : OrderedMap ObjectIdentifier String) pairs
  have back : Prod.map DnType.toOid id ∘ Prod.map DnType.fromOid (id : String → String) = id := by
    funext pair
    exact Prod.ext (DnType.toOid_fromOid pair.1) rfl
  have start : (OrderedMap.empty : DistinguishedName) =
      (OrderedMap.empty : OrderedMap ObjectIdentifier String).mapKeys DnType.fromOid_injective :=
    rfl
  rw [start, renamed, OrderedMap.mapKeys, List.map_map, back, List.map_id]

section Issued

variable {crates : CsrCrates} {now : Int} {csrDer : Bytes}
  {ca : Rcgen.CaCertifiedKey crates.rcgen.Key} {validityDays : UInt32}
  {request : CertificationRequest} {issued : SignedCertificate}

theorem components_eq_ok {rcgen : Rcgen} {parts : ParsedCsr}
    (parsed : components rcgen request = .ok parts) :
    (∃ oid, request.signatureAlgorithm = some oid ∧
      signatureAlgorithmFromOid oid = .ok parts.algorithm) ∧
    dnFromX509Name request.subject = .ok parts.subjectDn ∧
    parts.publicKeyBitString = request.subjectPki.data ∧
    parts.spkiFull = request.subjectPkiRaw := by
  simp only [components, Except.bind_eq_ok_iff, orInvalidConfig_eq_ok_iff,
    Except.pure_eq_ok_iff] at parsed
  obtain ⟨oid, known, algorithm, supported, subjectDn, named, rfl⟩ := parsed
  exact ⟨⟨oid, known, supported⟩, named, rfl, rfl⟩

/-- The certificate that is issued for an accepted request. -/
theorem readCertificate_of_signCsr (documented : crates.Documented)
    (parsed : crates.parseRequest csrDer = .ok request)
    (accepted : signCsr crates now csrDer ca validityDays = .ok issued) :
    ∃ oid algorithm subjectDn, request.signatureAlgorithm = some oid ∧
      signatureAlgorithmFromOid oid = .ok algorithm ∧
      dnFromX509Name request.subject = .ok subjectDn ∧
      crates.readCertificate issued.certDer = some {
        subject := subjectDn.entries.map (Prod.map DnType.toOid id)
        subjectPki := ⟨algorithm.keyIdentifier, 0, request.subjectPki.data⟩
        subjectKeyIdentifier :=
          if crates.writesKeyIdentifier .noCa then
            some (crates.rcgen.sha256 request.subjectPkiRaw).toList
          else none } := by
  simp only [signCsr, Fault.calm, parseCsrComponents, signWithIssuer, parsed,
    Except.bind_eq_ok_iff, Except.mapError_eq_ok_iff, Except.pure_eq_ok_iff] at accepted
  obtain ⟨parts, ⟨_, same, components⟩, notBefore, -, notAfter, -, ⟨der, pem⟩, signed, rfl⟩ :=
    accepted
  obtain rfl := Except.ok.inj same
  obtain ⟨⟨oid, known, supported⟩, named, key, raw⟩ := components_eq_ok components
  refine ⟨oid, parts.algorithm, parts.subjectDn, known, supported, named, ?_⟩
  rw [documented _ _ _ _ _ _ signed, certificateOf, key, raw]

/-- The certificate carries the public key of the request, and its key identifier is the digest of
the request's `SubjectPublicKeyInfo`. -/
def KeepsKey (crates : CsrCrates) (request : CertificationRequest) (issued : SignedCertificate) :
    Prop :=
  ∃ cert, crates.readCertificate issued.certDer = some cert ∧
    cert.subjectPki = request.subjectPki ∧
    cert.subjectKeyIdentifier = some (crates.rcgen.sha256 request.subjectPkiRaw).toList

/-- The key of the request is of the algorithm that its signature names: it has the algorithm
identifier that rcgen writes for the algorithm, and whole bytes. -/
def CertificationRequest.KeyMatchesSignature (request : CertificationRequest) : Prop :=
  ∃ oid algorithm, request.signatureAlgorithm = some oid ∧
    signatureAlgorithmFromOid oid = .ok algorithm ∧
    request.subjectPki.algorithm = algorithm.keyIdentifier ∧ request.subjectPki.unusedBits = 0

/-- The certificate for an accepted request keeps its key exactly when the key is of the algorithm
that the signature names and rcgen writes key identifiers for certificates that are no CA. -/
theorem keepsKey_iff (documented : crates.Documented)
    (parsed : crates.parseRequest csrDer = .ok request)
    (accepted : signCsr crates now csrDer ca validityDays = .ok issued) :
    KeepsKey crates request issued ↔
      request.KeyMatchesSignature ∧ crates.writesKeyIdentifier .noCa = true := by
  obtain ⟨oid, algorithm, subjectDn, known, supported, -, read⟩ :=
    readCertificate_of_signCsr documented parsed accepted
  constructor
  · rintro ⟨cert, readAgain, key, identifier⟩
    obtain rfl := Option.some.inj (read.symm.trans readAgain)
    refine ⟨⟨oid, algorithm, known, supported, ?_, ?_⟩, ?_⟩
    · rw [← key]
    · rw [← key]
    · by_contra unwritten
      rw [if_neg unwritten] at identifier
      contradiction
  · rintro ⟨⟨_, _, sameOid, sameAlgorithm, key, whole⟩, writes⟩
    obtain rfl := Option.some.inj (known.symm.trans sameOid)
    obtain rfl := Except.ok_unique supported sameAlgorithm
    refine ⟨_, read, ?_, if_pos writes⟩
    rw [← key, ← whole]

/-- A P-384 key whose owner signs requests with SHA-384, under an rcgen that writes key identifiers
for leaves and under one that, as rcgen 0.14 does, writes none. -/
theorem keepsKey_iff_p384_sha384 :
    KeepsKey (p384Crates true .pkcsEcdsaP384Sha384 leafSubject leafWritten)
      (p384Request ⟨[1, 2, 840, 10045, 4, 3, 3]⟩ leafSubject) ⟨[0x30, 0x00], ""⟩ ∧
    ¬KeepsKey (p384Crates false .pkcsEcdsaP384Sha384 leafSubject leafWritten)
      (p384Request ⟨[1, 2, 840, 10045, 4, 3, 3]⟩ leafSubject) ⟨[0x30, 0x00], ""⟩ := by
  constructor
  · apply (keepsKey_iff (issuing_documented _ _ _) rfl (signCsr_issuing (by rfl) (by rfl))).mpr
    exact ⟨⟨_, .pkcsEcdsaP384Sha384, rfl, rfl, rfl, rfl⟩, rfl⟩
  · apply mt (keepsKey_iff (issuing_documented _ _ _) rfl (signCsr_issuing (by rfl) (by rfl))).mp
    exact fun kept => Bool.false_ne_true kept.2

/-- A P-384 key whose owner signs requests with SHA-256 is issued as a P-256 key. -/
theorem p384_sha256_not_keepsKey :
    (p384Crates false .pkcsEcdsaP256Sha256 leafSubject leafWritten).Documented ∧
    (p384Crates false .pkcsEcdsaP256Sha256 leafSubject leafWritten).parseRequest [] =
      .ok (p384Request ⟨[1, 2, 840, 10045, 4, 3, 2]⟩ leafSubject) ∧
    signCsr (p384Crates false .pkcsEcdsaP256Sha256 leafSubject leafWritten) 0 [] issuingCa 365 =
      .ok ⟨[0x30, 0x00], ""⟩ ∧
    (p384Certificate false .pkcsEcdsaP256Sha256 leafWritten).subjectPki ≠
      (p384Request ⟨[1, 2, 840, 10045, 4, 3, 2]⟩ leafSubject).subjectPki ∧
    ¬KeepsKey (p384Crates false .pkcsEcdsaP256Sha256 leafSubject leafWritten)
      (p384Request ⟨[1, 2, 840, 10045, 4, 3, 2]⟩ leafSubject) ⟨[0x30, 0x00], ""⟩ := by
  have different : SignatureAlgorithm.pkcsEcdsaP256Sha256.keyIdentifier ≠
      SignatureAlgorithm.pkcsEcdsaP384Sha384.keyIdentifier := by decide
  refine ⟨issuing_documented _ _ _, rfl, signCsr_issuing (by rfl) (by rfl), ?_, ?_⟩
  · exact fun same => different (congrArg PublicKeyInfo.algorithm same)
  · rintro ⟨cert, read, key, -⟩
    obtain rfl := Option.some.inj read
    exact different (congrArg PublicKeyInfo.algorithm key)

/-- The subject of the certificate has the attributes of the request's subject, in their order. -/
def KeepsSubject (crates : CsrCrates) (request : CertificationRequest)
    (issued : SignedCertificate) : Prop :=
  ∃ cert, crates.readCertificate issued.certDer = some cert ∧
    List.Forall₂ AttributeTypeAndValue.Is request.subject.flatten cert.subject

/-- Attributes have one type and one text each. -/
theorem pairs_unique {attrs : List AttributeTypeAndValue}
    {pairs others : List (ObjectIdentifier × String)}
    (attributes : List.Forall₂ AttributeTypeAndValue.Is attrs pairs)
    (again : List.Forall₂ AttributeTypeAndValue.Is attrs others) : pairs = others := by
  induction attributes generalizing others with
  | nil => exact (List.forall₂_nil_left_iff.mp again).symm
  | cons is rest ih =>
      obtain ⟨other, tail, isOther, restOther, rfl⟩ := List.forall₂_cons_left_iff.mp again
      have type := Option.some.inj (is.1.symm.trans isOther.1)
      have text := Except.ok.inj (is.2.symm.trans isOther.2)
      rw [ih restOther, Prod.ext type text]

theorem map_attrType {attrs : List AttributeTypeAndValue}
    {pairs : List (ObjectIdentifier × String)}
    (attributes : List.Forall₂ AttributeTypeAndValue.Is attrs pairs) :
    attrs.map AttributeTypeAndValue.attrType = (pairs.map Prod.fst).map some := by
  induction attributes with
  | nil => rfl
  | cons is _ ih => rw [List.map_cons, List.map_cons, List.map_cons, ih, is.1]

/-- The certificate for an accepted request keeps its subject exactly when no attribute type comes
twice in it. -/
theorem keepsSubject_iff (documented : crates.Documented)
    (parsed : crates.parseRequest csrDer = .ok request)
    (accepted : signCsr crates now csrDer ca validityDays = .ok issued) :
    KeepsSubject crates request issued ↔
      (request.subject.flatten.map AttributeTypeAndValue.attrType).Nodup := by
  obtain ⟨oid, algorithm, subjectDn, -, -, named, read⟩ :=
    readCertificate_of_signCsr documented parsed accepted
  obtain ⟨pairs, attributes, written⟩ := subject_of_dnFromX509Name named
  rw [map_attrType attributes, List.nodup_map_iff (fun _ _ => Option.some.inj),
    ← OrderedMap.entries_putAll_empty_iff, ← written]
  constructor
  · rintro ⟨cert, readAgain, kept⟩
    obtain rfl := Option.some.inj (read.symm.trans readAgain)
    exact pairs_unique kept attributes
  · intro same
    refine ⟨_, read, ?_⟩
    change List.Forall₂ _ _ (subjectDn.entries.map (Prod.map DnType.toOid id))
    rw [same]
    exact attributes

/-- A subject of one common name. -/
theorem keepsSubject_iff_leafSubject :
    KeepsSubject (p384Crates false .pkcsEcdsaP384Sha384 leafSubject leafWritten)
      (p384Request ⟨[1, 2, 840, 10045, 4, 3, 3]⟩ leafSubject) ⟨[0x30, 0x00], ""⟩ := by
  apply (keepsSubject_iff (issuing_documented _ _ _) rfl (signCsr_issuing (by rfl) (by rfl))).mpr
  decide

/-- Of two organizational units only the second is in the certificate. -/
theorem two_units_not_keepsSubject :
    (p384Crates false .pkcsEcdsaP384Sha384 unitsSubject
      [(⟨[2, 5, 4, 11]⟩, "Security")]).Documented ∧
    (p384Crates false .pkcsEcdsaP384Sha384 unitsSubject
      [(⟨[2, 5, 4, 11]⟩, "Security")]).parseRequest [] =
        .ok (p384Request ⟨[1, 2, 840, 10045, 4, 3, 3]⟩ unitsSubject) ∧
    signCsr (p384Crates false .pkcsEcdsaP384Sha384 unitsSubject [(⟨[2, 5, 4, 11]⟩, "Security")]) 0
      [] issuingCa 365 = .ok ⟨[0x30, 0x00], ""⟩ ∧
    ¬KeepsSubject
      (p384Crates false .pkcsEcdsaP384Sha384 unitsSubject [(⟨[2, 5, 4, 11]⟩, "Security")])
      (p384Request ⟨[1, 2, 840, 10045, 4, 3, 3]⟩ unitsSubject) ⟨[0x30, 0x00], ""⟩ := by
  refine ⟨issuing_documented _ _ _, rfl, signCsr_issuing (by rfl) (by rfl), ?_⟩
  rintro ⟨cert, read, kept⟩
  obtain rfl := Option.some.inj read
  exact absurd kept.length_eq (by decide)

end Issued

/-! ## Requests of this crate -/

theorem signatureAlgorithmFromOid_signatureOid (algorithm : SignatureAlgorithm) :
    signatureAlgorithmFromOid algorithm.signatureOid = .ok algorithm := by
  cases algorithm <;> rfl

/-- `PublicKeyData::algorithm` of the keys of the bridge. -/
def keyAlgorithm : SigningAlgorithm → SignatureAlgorithm
  | .ed25519 => .pkcsEd25519
  | .ecdsaP256 => .pkcsEcdsaP256Sha256
  | .ecdsaP384 => .pkcsEcdsaP384Sha384
  | .rsa2048 | .rsa4096 => .pkcsRsaSha256

/-- How rcgen writes requests for the keys of the bridge. -/
structure RequestWriter (crates : CsrCrates) where
  /-- `PublicKeyData::der_bytes`. -/
  derBytes : crates.rcgen.Key → Bytes
  /-- `CertificateParams::serialize_request` for a common name and a subject alternative name, with
  the algorithm of the key: DER, and PEM unless writing it fails. -/
  serializeRequest : (subjectCn : String) → SanType → SignatureAlgorithm → crates.rcgen.Key →
    Except String (Bytes × Except String String)

/-- A request is read back with the common name as its subject, the key, and a signature of the
algorithm of the key. -/
def RequestWriter.Documented {crates : CsrCrates} (writer : RequestWriter crates) : Prop :=
  ∀ subjectCn san algorithm key der pem,
    writer.serializeRequest subjectCn san algorithm key = .ok (der, pem) →
      ∃ request, crates.parseRequest der = .ok request ∧
        request.subject = [[⟨some DnType.commonName.toOid, .ok subjectCn⟩]] ∧
        request.subjectPki = ⟨algorithm.keyIdentifier, 0, writer.derBytes key⟩ ∧
        request.signatureAlgorithm = some algorithm.signatureOid

/-- `CsrBytes`. -/
structure CsrBytes where
  der : Bytes
  pem : String
  deriving DecidableEq, Repr

section Generation

variable {crates : CsrCrates} (writer : RequestWriter crates)

/-- `build_csr_with_key`. -/
def buildCsrWithKey (subjectCn : String) (algorithm : SignatureAlgorithm)
    (key : crates.rcgen.Key) : Except TlsError CsrBytes := do
  let san ← ((crates.rcgen.ia5String subjectCn).map SanType.dnsName).mapError .invalidConfig
  let (der, pem) ← (writer.serializeRequest subjectCn san algorithm key).mapError fun failure =>
    .invalidConfig ("CSR serialize: " ++ failure)
  let pem ← pem.mapError fun failure => .invalidConfig ("CSR pem: " ++ failure)
  pure ⟨der, pem⟩

/-- `generate_csr`; the arms of its match differ in the type of the key only. -/
def generateCsr (subjectCn : String) (alg : SigningAlgorithm) (random : Bytes) :
    Except TlsError (CsrBytes × Bytes) := do
  let key ← crates.rcgen.generate alg random
  let csr ← buildCsrWithKey writer subjectCn (keyAlgorithm alg) key
  pure (csr, crates.rcgen.pkcs8Der key)

variable {writer}

/-- What is read from a generated request. -/
theorem parseRequest_of_generateCsr (documented : writer.Documented) {subjectCn : String}
    {alg : SigningAlgorithm} {random pkcs8 : Bytes} {csr : CsrBytes}
    (generated : generateCsr writer subjectCn alg random = .ok (csr, pkcs8)) :
    ∃ key request, crates.rcgen.generate alg random = .ok key ∧
      crates.parseRequest csr.der = .ok request ∧
      request.subject = [[⟨some DnType.commonName.toOid, .ok subjectCn⟩]] ∧
      request.subjectPki = ⟨(keyAlgorithm alg).keyIdentifier, 0, writer.derBytes key⟩ ∧
      request.signatureAlgorithm = some (keyAlgorithm alg).signatureOid := by
  simp only [generateCsr, buildCsrWithKey, Except.bind_eq_ok_iff, Except.mapError_eq_ok_iff,
    Except.pure_eq_ok_iff] at generated
  obtain ⟨key, drawn, _, ⟨san, -, ⟨der, pem⟩, written, text, -, rfl⟩, pair⟩ := generated
  obtain ⟨rfl, -⟩ := Prod.mk.inj pair
  obtain ⟨request, parsed, rest⟩ := documented _ _ _ _ _ _ written
  exact ⟨key, request, drawn, parsed, rest⟩

/-- A certificate that is signed for a request of this crate carries the key and the common name
that the request was generated for. -/
theorem readCertificate_of_generateCsr (written : writer.Documented)
    (documented : crates.Documented) {subjectCn : String} {alg : SigningAlgorithm}
    {random pkcs8 : Bytes} {csr : CsrBytes} {now : Int}
    {ca : Rcgen.CaCertifiedKey crates.rcgen.Key} {validityDays : UInt32}
    {issued : SignedCertificate}
    (generated : generateCsr writer subjectCn alg random = .ok (csr, pkcs8))
    (accepted : signCsr crates now csr.der ca validityDays = .ok issued) :
    ∃ key cert, crates.rcgen.generate alg random = .ok key ∧
      crates.readCertificate issued.certDer = some cert ∧
      cert.subject = [(DnType.commonName.toOid, subjectCn)] ∧
      cert.subjectPki = ⟨(keyAlgorithm alg).keyIdentifier, 0, writer.derBytes key⟩ := by
  obtain ⟨key, request, drawn, parsed, named, keyed, signed⟩ :=
    parseRequest_of_generateCsr written generated
  obtain ⟨oid, algorithm, dn, known, supported, subject, read⟩ :=
    readCertificate_of_signCsr documented parsed accepted
  obtain rfl := Option.some.inj (signed.symm.trans known)
  obtain rfl := Except.ok_unique (signatureAlgorithmFromOid_signatureOid _) supported
  rw [named] at subject
  obtain rfl := Except.ok.inj subject
  refine ⟨key, _, drawn, read, rfl, ?_⟩
  rw [keyed]

end Generation

end OxiTls.Csr
