import OxiTls.Library.Setters
import OxiTls.Rcgen.Extensions
import OxiTls.Rcgen.Issuance

/-!
# The parameters builder

`CertificateParamsBuilder`: every call touches one option, some options keep the last value, some
collect, and the two lists of usages can be replaced.  `build_with_spki` turns the options into
parameters; the authority key identifier comes from explicit bytes or from the issuer, never from
both.
-/

namespace OxiTls

namespace Rcgen

/-- `rcgen::KeyUsagePurpose`. -/
inductive UsagePurpose
  | digitalSignature
  | contentCommitment
  | keyEncipherment
  | dataEncipherment
  | keyAgreement
  | keyCertSign
  | crlSign
  | encipherOnly
  | decipherOnly
  deriving DecidableEq, Repr

/-- `rcgen::ExtendedKeyUsagePurpose`. -/
inductive ExtendedPurpose
  | any
  | serverAuth
  | clientAuth
  | codeSigning
  | emailProtection
  | timeStamping
  | ocspSigning
  | other (arcs : List Nat)
  deriving DecidableEq, Repr

/-- `rcgen::GeneralSubtree`; a directory name by its attributes and a subnet by its octets. -/
inductive GeneralSubtree
  | rfc822Name (name : String)
  | dnsName (name : String)
  | directoryName (attributes : List (String × String))
  | ipAddress (subnet : Bytes)
  deriving DecidableEq, Repr

/-- `rcgen::NameConstraints`. -/
structure NameConstraints where
  permittedSubtrees : List GeneralSubtree
  excludedSubtrees : List GeneralSubtree
  deriving DecidableEq, Repr

/-- `CertificateParamsBuilder`; the defaults are those of `new`.  Times are seconds. -/
structure CertificateParamsBuilder where
  commonName : Option String := none
  dnsNames : List String := []
  ipAddresses : List Bytes := []
  isCa : IsCa := .noCa
  keyUsages : List UsagePurpose := []
  extendedKeyUsages : List ExtendedPurpose := []
  serialNumber : Option UInt64 := none
  /-- `not_before` and `not_after`, which one call sets. -/
  validity : Option (Int × Int) := none
  nameConstraints : Option NameConstraints := none
  subjectKeyId : Option Bytes := none
  authorityKeyId : Option Bytes := none
  enableAkiFromIssuer : Bool := false
  crlDistributionPoints : List String := []
  ocspResponderUrl : Option String := none
  deriving DecidableEq, Repr

/-- The calls of the builder. -/
inductive ParamsCall
  | withCommonName (cn : String)
  | withDnsNames (names : List String)
  | withIpAddresses (addrs : List String)
  | withCa
  | withCaPathLength (pathLen : UInt8)
  | withServerAuth
  | withClientAuth
  | withDigitalSignature
  | withKeyCertSign
  | withCrlSign
  | withKeyUsages (usages : List UsagePurpose)
  | withSerialNumber (serial : UInt64)
  | withValidity (notBefore notAfter : Int)
  | withNameConstraints (permitted excluded : List GeneralSubtree)
  | withSubjectKeyId (bytes : Bytes)
  | withAuthorityKeyId (bytes : Bytes)
  | withAuthorityKeyIdFromIssuer
  | withCrlDistributionPoint (uri : String)
  | withOcspResponderUrl (url : String)
  | withCodeSigning
  | withEmailProtection
  | withOcspSigning
  | withExtendedKeyUsages (usages : List ExtendedPurpose)
  deriving DecidableEq, Repr

section Building

variable (rcgen : Rcgen)

namespace CertificateParamsBuilder

/-- The calls that add one extended key usage. -/
def pushExtended (builder : CertificateParamsBuilder) (purpose : ExtendedPurpose) :
    CertificateParamsBuilder :=
  { builder with extendedKeyUsages := builder.extendedKeyUsages ++ [purpose] }

/-- The calls that add one key usage. -/
def pushUsage (builder : CertificateParamsBuilder) (purpose : UsagePurpose) :
    CertificateParamsBuilder :=
  { builder with keyUsages := builder.keyUsages ++ [purpose] }

/-- One call.  An address that does not parse is skipped. -/
def apply (builder : CertificateParamsBuilder) : ParamsCall → CertificateParamsBuilder
  | .withCommonName cn => { builder with commonName := some cn }
  | .withDnsNames names => { builder with dnsNames := builder.dnsNames ++ names }
  | .withIpAddresses addrs =>
      { builder with ipAddresses := builder.ipAddresses ++ addrs.filterMap rcgen.parseIpAddr }
  | .withCa => { builder with isCa := .ca .unconstrained }
  | .withCaPathLength pathLen => { builder with isCa := .ca (.constrained pathLen) }
  | .withServerAuth => builder.pushExtended .serverAuth
  | .withClientAuth => builder.pushExtended .clientAuth
  | .withDigitalSignature => builder.pushUsage .digitalSignature
  | .withKeyCertSign => builder.pushUsage .keyCertSign
  | .withCrlSign => builder.pushUsage .crlSign
  | .withKeyUsages usages => { builder with keyUsages := usages }
  | .withSerialNumber serial => { builder with serialNumber := some serial }
  | .withValidity notBefore notAfter => { builder with validity := some (notBefore, notAfter) }
  | .withNameConstraints permitted excluded =>
      { builder with nameConstraints := some ⟨permitted, excluded⟩ }
  | .withSubjectKeyId bytes => { builder with subjectKeyId := some bytes }
  | .withAuthorityKeyId bytes => { builder with authorityKeyId := some bytes }
  | .withAuthorityKeyIdFromIssuer => { builder with enableAkiFromIssuer := true }
  | .withCrlDistributionPoint uri =>
      { builder with crlDistributionPoints := builder.crlDistributionPoints ++ [uri] }
  | .withOcspResponderUrl url => { builder with ocspResponderUrl := some url }
  | .withCodeSigning => builder.pushExtended .codeSigning
  | .withEmailProtection => builder.pushExtended .emailProtection
  | .withOcspSigning => builder.pushExtended .ocspSigning
  | .withExtendedKeyUsages usages => { builder with extendedKeyUsages := usages }

end CertificateParamsBuilder

/-- `rcgen::CustomExtension`. -/
structure CustomExtension where
  oid : List Nat
  content : Bytes
  deriving DecidableEq, Repr

/-- `rcgen::CertificateParams`, as the builder leaves it; `none` and `[]` are its defaults. -/
structure BuiltParams where
  subjectAltNames : List SanType
  /-- The one attribute that the distinguished name may have. -/
  commonName : Option String
  isCa : IsCa
  /-- `KeyIdMethod::PreSpecified`. -/
  keyIdentifier : Bytes
  keyUsages : List UsagePurpose
  extendedKeyUsages : List ExtendedPurpose
  serialNumber : UInt64
  validity : Option (Int × Int)
  nameConstraints : Option NameConstraints
  customExtensions : List CustomExtension
  useAuthorityKeyIdentifierExtension : Bool
  /-- One distribution point for each URI. -/
  crlDistributionPoints : List (List String)
  deriving DecidableEq, Repr

/-- The OID of the authority key identifier. -/
def akiOid : List Nat := [2, 5, 29, 35]

/-- The OID of the authority information access. -/
def aiaOid : List Nat := [1, 3, 6, 1, 5, 5, 7, 1, 1]

/-- `build_with_spki`. -/
def CertificateParamsBuilder.buildWithSpki (builder : CertificateParamsBuilder)
    (spkiForKid : Bytes) : Except TlsError BuiltParams := do
  let names ← builder.dnsNames.mapM fun name =>
    (SanType.dnsName <$> rcgen.ia5String name).mapError .invalidConfig
  let sans := names ++ builder.ipAddresses.map .ipAddress
  if sans.isEmpty ∧ builder.isCa = .noCa then
    .error (.invalidConfig "at least one SAN is required for leaf certificates")
  else
    let aki := builder.authorityKeyId.map fun bytes =>
      CustomExtension.mk akiOid (encodeAuthorityKeyIdentifier bytes)
    let aia := builder.ocspResponderUrl.map fun url =>
      CustomExtension.mk aiaOid (encodeAiaOcsp url)
    .ok
      { subjectAltNames := sans
        commonName := builder.commonName.or builder.dnsNames.head?
        isCa := builder.isCa
        keyIdentifier := builder.subjectKeyId.getD (rcgen.sha256 spkiForKid).toList
        keyUsages := builder.keyUsages
        extendedKeyUsages := builder.extendedKeyUsages
        serialNumber := builder.serialNumber.getD 1
        validity := builder.validity
        nameConstraints := builder.nameConstraints
        customExtensions := aki.toList ++ aia.toList
        useAuthorityKeyIdentifierExtension :=
          builder.authorityKeyId.isNone && builder.enableAkiFromIssuer
        crlDistributionPoints := builder.crlDistributionPoints.map fun uri => [uri] }

/-- `build`. -/
def CertificateParamsBuilder.build (builder : CertificateParamsBuilder) :
    Except TlsError BuiltParams :=
  builder.buildWithSpki rcgen []

end Building

/-! ## One option per call -/

/-- The options. -/
inductive ParamsField
  | commonName
  | dnsNames
  | ipAddresses
  | isCa
  | keyUsages
  | extendedKeyUsages
  | serialNumber
  | validity
  | nameConstraints
  | subjectKeyId
  | authorityKeyId
  | enableAkiFromIssuer
  | crlDistributionPoints
  | ocspResponderUrl
  deriving DecidableEq, Repr

/-- The values of an option. -/
def ParamsField.Value : ParamsField → Type
  | .commonName | .ocspResponderUrl => Option String
  | .dnsNames | .crlDistributionPoints => List String
  | .ipAddresses => List Bytes
  | .isCa => IsCa
  | .keyUsages => List UsagePurpose
  | .extendedKeyUsages => List ExtendedPurpose
  | .serialNumber => Option UInt64
  | .validity => Option (Int × Int)
  | .nameConstraints => Option NameConstraints
  | .subjectKeyId | .authorityKeyId => Option Bytes
  | .enableAkiFromIssuer => Bool

/-- The value of an option. -/
def CertificateParamsBuilder.view :
    (field : ParamsField) → CertificateParamsBuilder → field.Value
  | .commonName, builder => builder.commonName
  | .dnsNames, builder => builder.dnsNames
  | .ipAddresses, builder => builder.ipAddresses
  | .isCa, builder => builder.isCa
  | .keyUsages, builder => builder.keyUsages
  | .extendedKeyUsages, builder => builder.extendedKeyUsages
  | .serialNumber, builder => builder.serialNumber
  | .validity, builder => builder.validity
  | .nameConstraints, builder => builder.nameConstraints
  | .subjectKeyId, builder => builder.subjectKeyId
  | .authorityKeyId, builder => builder.authorityKeyId
  | .enableAkiFromIssuer, builder => builder.enableAkiFromIssuer
  | .crlDistributionPoints, builder => builder.crlDistributionPoints
  | .ocspResponderUrl, builder => builder.ocspResponderUrl

/-- The option that a call touches. -/
def ParamsCall.field : ParamsCall → ParamsField
  | .withCommonName _ => .commonName
  | .withDnsNames _ => .dnsNames
  | .withIpAddresses _ => .ipAddresses
  | .withCa | .withCaPathLength _ => .isCa
  | .withDigitalSignature | .withKeyCertSign | .withCrlSign | .withKeyUsages _ => .keyUsages
  | .withServerAuth | .withClientAuth | .withCodeSigning | .withEmailProtection
  | .withOcspSigning | .withExtendedKeyUsages _ => .extendedKeyUsages
  | .withSerialNumber _ => .serialNumber
  | .withValidity _ _ => .validity
  | .withNameConstraints _ _ => .nameConstraints
  | .withSubjectKeyId _ => .subjectKeyId
  | .withAuthorityKeyId _ => .authorityKeyId
  | .withAuthorityKeyIdFromIssuer => .enableAkiFromIssuer
  | .withCrlDistributionPoint _ => .crlDistributionPoints
  | .withOcspResponderUrl _ => .ocspResponderUrl

namespace CertificateParamsBuilder

variable (rcgen : Rcgen)

theorem ext_view {builder builder' : CertificateParamsBuilder}
    (same : ∀ field, view field builder = view field builder') : builder = builder' := by
  cases builder
  cases builder'
  rw [mk.injEq]
  exact ⟨same .commonName, same .dnsNames, same .ipAddresses, same .isCa, same .keyUsages,
    same .extendedKeyUsages, same .serialNumber, same .validity, same .nameConstraints,
    same .subjectKeyId, same .authorityKeyId, same .enableAkiFromIssuer,
    same .crlDistributionPoints, same .ocspResponderUrl⟩

/-- A call as one that could fail. -/
def attempt (builder : CertificateParamsBuilder) (call : ParamsCall) :
    Except TlsError CertificateParamsBuilder :=
  .ok (apply rcgen builder call)

theorem independent : Setters.Independent (attempt rcgen) ParamsCall.field view where
  other {builder call next} applied field different := by
    obtain rfl := Except.ok.inj applied
    cases call <;> cases field <;> first | rfl | exact absurd rfl different
  own {builder call next} applied builder' same := by
    obtain rfl := Except.ok.inj applied
    refine ⟨_, rfl, ?_⟩
    cases call <;> first | rfl | exact congrArg (· ++ _) same
  ext := ext_view

/-- The builder after calls on a new one. -/
def configure (calls : List ParamsCall) : CertificateParamsBuilder := calls.foldl (apply rcgen) {}

end CertificateParamsBuilder

/-! ## What a call asks for -/

namespace ParamsCall

def commonName : ParamsCall → Option String
  | .withCommonName cn => some cn
  | _ => none

def dnsNames : ParamsCall → List String
  | .withDnsNames names => names
  | _ => []

def ipAddresses (rcgen : Rcgen) : ParamsCall → List Bytes
  | .withIpAddresses addrs => addrs.filterMap rcgen.parseIpAddr
  | _ => []

def isCa : ParamsCall → Option BasicConstraints
  | .withCa => some .unconstrained
  | .withCaPathLength pathLen => some (.constrained pathLen)
  | _ => none

def serialNumber : ParamsCall → Option UInt64
  | .withSerialNumber serial => some serial
  | _ => none

def validity : ParamsCall → Option (Int × Int)
  | .withValidity notBefore notAfter => some (notBefore, notAfter)
  | _ => none

def nameConstraints : ParamsCall → Option NameConstraints
  | .withNameConstraints permitted excluded => some ⟨permitted, excluded⟩
  | _ => none

def subjectKeyId : ParamsCall → Option Bytes
  | .withSubjectKeyId bytes => some bytes
  | _ => none

def authorityKeyId : ParamsCall → Option Bytes
  | .withAuthorityKeyId bytes => some bytes
  | _ => none

def ocspResponderUrl : ParamsCall → Option String
  | .withOcspResponderUrl url => some url
  | _ => none

def crlDistributionPoints : ParamsCall → List String
  | .withCrlDistributionPoint uri => [uri]
  | _ => []

/-- The key usage that a call adds. -/
def usage : ParamsCall → List UsagePurpose
  | .withDigitalSignature => [.digitalSignature]
  | .withKeyCertSign => [.keyCertSign]
  | .withCrlSign => [.crlSign]
  | _ => []

/-- The key usages that a call replaces the others by. -/
def usages : ParamsCall → Option (List UsagePurpose)
  | .withKeyUsages usages => some usages
  | _ => none

/-- The extended key usage that a call adds. -/
def extendedUsage : ParamsCall → List ExtendedPurpose
  | .withServerAuth => [.serverAuth]
  | .withClientAuth => [.clientAuth]
  | .withCodeSigning => [.codeSigning]
  | .withEmailProtection => [.emailProtection]
  | .withOcspSigning => [.ocspSigning]
  | _ => []

/-- The extended key usages that a call replaces the others by. -/
def extendedUsages : ParamsCall → Option (List ExtendedPurpose)
  | .withExtendedKeyUsages usages => some usages
  | _ => none

end ParamsCall

namespace CertificateParamsBuilder

section Configured

variable (rcgen : Rcgen) (calls : List ParamsCall)

/-- An option that the last call on it decides. -/
theorem configure_overwrite {α : Type} {get : CertificateParamsBuilder → Option α}
    {asks : ParamsCall → Option α} (unset : get {} = none)
    (overwritten : ∀ builder call, get (apply rcgen builder call) = (asks call).or (get builder)) :
    get (configure rcgen calls) = Setters.last asks calls := by
  rw [configure, Setters.foldl_overwrite get asks overwritten, unset, Option.or_none]

theorem configure_commonName :
    (configure rcgen calls).commonName = Setters.last ParamsCall.commonName calls := 
  configure_overwrite rcgen calls rfl fun _ call => by cases call <;> rfl

theorem configure_serialNumber :
    (configure rcgen calls).serialNumber = Setters.last ParamsCall.serialNumber calls := 
  configure_overwrite rcgen calls rfl fun _ call => by cases call <;> rfl

theorem configure_validity :
    (configure rcgen calls).validity = Setters.last ParamsCall.validity calls := 
  configure_overwrite rcgen calls rfl fun _ call => by cases call <;> rfl

theorem configure_nameConstraints :
    (configure rcgen calls).nameConstraints = Setters.last ParamsCall.nameConstraints calls := 
  configure_overwrite rcgen calls rfl fun _ call => by cases call <;> rfl

theorem configure_subjectKeyId :
    (configure rcgen calls).subjectKeyId = Setters.last ParamsCall.subjectKeyId calls := 
  configure_overwrite rcgen calls rfl fun _ call => by cases call <;> rfl

theorem configure_authorityKeyId :
    (configure rcgen calls).authorityKeyId = Setters.last ParamsCall.authorityKeyId calls := 
  configure_overwrite rcgen calls rfl fun _ call => by cases call <;> rfl

theorem configure_ocspResponderUrl :
    (configure rcgen calls).ocspResponderUrl = Setters.last ParamsCall.ocspResponderUrl calls := 
  configure_overwrite rcgen calls rfl fun _ call => by cases call <;> rfl

/-- The constraints of a CA. -/
def caConstraints (builder : CertificateParamsBuilder) : Option BasicConstraints :=
  match builder.isCa with
  | .noCa => none
  | .ca constraints => some constraints

theorem configure_caConstraints :
    (configure rcgen calls).caConstraints = Setters.last ParamsCall.isCa calls := by
  rw [configure, Setters.foldl_overwrite caConstraints ParamsCall.isCa]
  · exact Option.or_none
  · intro builder call
    cases call <;> rfl

theorem configure_dnsNames :
    (configure rcgen calls).dnsNames = calls.flatMap ParamsCall.dnsNames := by
  refine (Setters.foldl_extend dnsNames ParamsCall.dnsNames ?_ _).trans (List.nil_append _)
  intro call _ builder
  cases call <;> first | rfl | exact (List.append_nil _).symm

theorem configure_ipAddresses :
    (configure rcgen calls).ipAddresses = calls.flatMap (ParamsCall.ipAddresses rcgen) := by
  refine (Setters.foldl_extend ipAddresses (ParamsCall.ipAddresses rcgen) ?_ _).trans
    (List.nil_append _)
  intro call _ builder
  cases call <;> first | rfl | exact (List.append_nil _).symm

theorem configure_crlDistributionPoints :
    (configure rcgen calls).crlDistributionPoints =
      calls.flatMap ParamsCall.crlDistributionPoints := by
  refine (Setters.foldl_extend crlDistributionPoints ParamsCall.crlDistributionPoints ?_ _).trans
    (List.nil_append _)
  intro call _ builder
  cases call <;> first | rfl | exact (List.append_nil _).symm

theorem configure_enableAkiFromIssuer :
    (configure rcgen calls).enableAkiFromIssuer = true ↔
      .withAuthorityKeyIdFromIssuer ∈ calls := by
  suffices ∀ builder : CertificateParamsBuilder,
      (calls.foldl (apply rcgen) builder).enableAkiFromIssuer = true ↔
        builder.enableAkiFromIssuer = true ∨ .withAuthorityKeyIdFromIssuer ∈ calls by
    simpa [configure] using this {}
  induction calls with
  | nil => simp
  | cons call calls induction =>
      intro builder
      rw [List.foldl_cons, induction, List.mem_cons]
      cases call <;> simp [apply, pushExtended, pushUsage]

theorem keyUsages_apply (builder : CertificateParamsBuilder) (call : ParamsCall) :
    (apply rcgen builder call).keyUsages = call.usages.getD (builder.keyUsages ++ call.usage) := by
  cases call <;> first | rfl | exact (List.append_nil _).symm

theorem extendedKeyUsages_apply (builder : CertificateParamsBuilder) (call : ParamsCall) :
    (apply rcgen builder call).extendedKeyUsages =
      call.extendedUsages.getD (builder.extendedKeyUsages ++ call.extendedUsage) := by
  cases call <;> first | rfl | exact (List.append_nil _).symm

end Configured

/-! ## The parameters that are built -/

/-- What the parameters owe to the calls.  A usage list is what was added, or the last replacement
with what was added after it. -/
structure FollowsCalls (rcgen : Rcgen) (calls : List ParamsCall) (spkiForKid : Bytes)
    (params : BuiltParams) : Prop where
  names : ∃ texts, (calls.flatMap ParamsCall.dnsNames).mapM rcgen.ia5String = .ok texts ∧
    params.subjectAltNames = texts.map .dnsName ++
      (calls.flatMap (ParamsCall.ipAddresses rcgen)).map .ipAddress
  commonName : params.commonName =
    (Setters.last ParamsCall.commonName calls).or (calls.flatMap ParamsCall.dnsNames).head?
  isCa : params.isCa = (Setters.last ParamsCall.isCa calls).elim .noCa .ca
  keyIdentifier : params.keyIdentifier =
    (Setters.last ParamsCall.subjectKeyId calls).getD (rcgen.sha256 spkiForKid).toList
  serialNumber : params.serialNumber = (Setters.last ParamsCall.serialNumber calls).getD 1
  validity : params.validity = Setters.last ParamsCall.validity calls
  nameConstraints : params.nameConstraints = Setters.last ParamsCall.nameConstraints calls
  oids : (params.customExtensions.map (·.oid)).Nodup
  explicitAki : ∀ bytes, Setters.last ParamsCall.authorityKeyId calls = some bytes →
    params.useAuthorityKeyIdentifierExtension = false ∧
      (bytes.length ≤ 65531 → ∃ extension ∈ params.customExtensions, extension.oid = akiOid ∧
        readAuthorityKeyIdentifier extension.content = some bytes)
  issuerAki : Setters.last ParamsCall.authorityKeyId calls = none →
    (∀ extension ∈ params.customExtensions, extension.oid ≠ akiOid) ∧
      (params.useAuthorityKeyIdentifierExtension = true ↔ .withAuthorityKeyIdFromIssuer ∈ calls)
  aia : ∀ url, Setters.last ParamsCall.ocspResponderUrl calls = some url →
    (urlBytes url).length ≤ 65517 →
    ∃ extension ∈ params.customExtensions, extension.oid = aiaOid ∧
      readAiaOcsp extension.content = some (⟨[1, 3, 6, 1, 5, 5, 7, 48, 1]⟩, urlBytes url)
  noAia : Setters.last ParamsCall.ocspResponderUrl calls = none →
    ∀ extension ∈ params.customExtensions, extension.oid ≠ aiaOid
  crl : params.crlDistributionPoints =
    (calls.flatMap ParamsCall.crlDistributionPoints).map fun uri => [uri]
  keyUsages : ∀ earlier usages later, calls = earlier ++ .withKeyUsages usages :: later →
    (∀ call ∈ later, call.usages = none) →
    params.keyUsages = usages ++ later.flatMap ParamsCall.usage
  addedKeyUsages : (∀ call ∈ calls, call.usages = none) →
    params.keyUsages = calls.flatMap ParamsCall.usage
  extendedKeyUsages : ∀ earlier usages later,
    calls = earlier ++ .withExtendedKeyUsages usages :: later →
    (∀ call ∈ later, call.extendedUsages = none) →
    params.extendedKeyUsages = usages ++ later.flatMap ParamsCall.extendedUsage
  addedExtendedKeyUsages : (∀ call ∈ calls, call.extendedUsages = none) →
    params.extendedKeyUsages = calls.flatMap ParamsCall.extendedUsage

section Build

variable {rcgen : Rcgen} {builder : CertificateParamsBuilder} {calls : List ParamsCall}
  {spkiForKid : Bytes} {params : BuiltParams}

theorem isCa_eq_elim (builder : CertificateParamsBuilder) :
    builder.isCa = builder.caConstraints.elim .noCa .ca := by
  unfold caConstraints
  cases builder.isCa <;> rfl

/-- The custom extensions that `build_with_spki` writes. -/
def customExtensions (builder : CertificateParamsBuilder) : List CustomExtension :=
  (builder.authorityKeyId.map fun bytes =>
      CustomExtension.mk akiOid (encodeAuthorityKeyIdentifier bytes)).toList ++
    (builder.ocspResponderUrl.map fun url =>
      CustomExtension.mk aiaOid (encodeAiaOcsp url)).toList

theorem nodup_oid_customExtensions (builder : CertificateParamsBuilder) :
    (builder.customExtensions.map (·.oid)).Nodup := by
  unfold customExtensions
  cases builder.authorityKeyId <;> cases builder.ocspResponderUrl <;> simp [akiOid, aiaOid]

theorem buildWithSpki_eq_ok_iff :
    builder.buildWithSpki rcgen spkiForKid = .ok params ↔
      ∃ texts, builder.dnsNames.mapM rcgen.ia5String = .ok texts ∧
        ¬ (texts = [] ∧ builder.ipAddresses = [] ∧ builder.isCa = .noCa) ∧
        { subjectAltNames := texts.map .dnsName ++ builder.ipAddresses.map .ipAddress
          commonName := builder.commonName.or builder.dnsNames.head?
          isCa := builder.isCa
          keyIdentifier := builder.subjectKeyId.getD (rcgen.sha256 spkiForKid).toList
          keyUsages := builder.keyUsages
          extendedKeyUsages := builder.extendedKeyUsages
          serialNumber := builder.serialNumber.getD 1
          validity := builder.validity
          nameConstraints := builder.nameConstraints
          customExtensions := builder.customExtensions
          useAuthorityKeyIdentifierExtension :=
            builder.authorityKeyId.isNone && builder.enableAkiFromIssuer
          crlDistributionPoints :=
            builder.crlDistributionPoints.map fun uri => [uri] : BuiltParams } = params := by
  simp only [buildWithSpki, Except.bind_eq_ok_iff, Except.mapM_mapError_map_eq_ok_iff]
  constructor
  · rintro ⟨_, ⟨texts, converted, rfl⟩, built⟩
    split at built
    · cases built
    · next named =>
      refine ⟨texts, converted, ?_, Except.ok.inj built⟩
      rintro ⟨rfl, addresses, leaf⟩
      exact named ⟨by simp [addresses], leaf⟩
  · rintro ⟨texts, converted, named, built⟩
    refine ⟨_, ⟨texts, converted, rfl⟩, ?_⟩
    rw [if_neg]
    · exact congrArg Except.ok built
    · rintro ⟨empty, leaf⟩
      simp only [List.isEmpty_iff, List.append_eq_nil_iff, List.map_eq_nil_iff] at empty
      exact named ⟨empty.1, empty.2, leaf⟩

theorem isCa_configure_eq_noCa_iff :
    (configure rcgen calls).isCa = .noCa ↔ ∀ call ∈ calls, call.field ≠ .isCa := by
  have asks (call : ParamsCall) : call.isCa = none ↔ call.field ≠ .isCa := by
    cases call <;> simp [ParamsCall.isCa, ParamsCall.field]
  simp only [← asks]
  rw [← Setters.last_eq_none_iff, ← configure_caConstraints rcgen, isCa_eq_elim]
  cases (configure rcgen calls).caConstraints <;> simp

theorem followsCalls_of_build
    (built : (configure rcgen calls).buildWithSpki rcgen spkiForKid = .ok params) :
    FollowsCalls rcgen calls spkiForKid params := by
  obtain ⟨texts, converted, named, rfl⟩ := buildWithSpki_eq_ok_iff.mp built
  have aki := configure_authorityKeyId rcgen calls
  have aia := configure_ocspResponderUrl rcgen calls
  refine
    { names := ⟨texts, by rwa [← configure_dnsNames], by rw [configure_ipAddresses]⟩
      commonName := by rw [configure_commonName, configure_dnsNames]
      isCa := by rw [isCa_eq_elim, configure_caConstraints]
      keyIdentifier := by rw [configure_subjectKeyId]
      serialNumber := by rw [configure_serialNumber]
      validity := configure_validity rcgen calls
      nameConstraints := configure_nameConstraints rcgen calls
      oids := nodup_oid_customExtensions _
      explicitAki := fun bytes last => ⟨?_, fun bounded => ?_⟩
      issuerAki := fun last => ⟨?_, ?_⟩
      aia := fun url last bounded => ?_
      noAia := fun last extension mem => ?_
      crl := by rw [configure_crlDistributionPoints]
      keyUsages := ?_
      addedKeyUsages := ?_
      extendedKeyUsages := ?_
      addedExtendedKeyUsages := ?_ }
  · rw [aki, last]
    rfl
  · refine ⟨⟨akiOid, encodeAuthorityKeyIdentifier bytes⟩, ?_, rfl,
      readAuthorityKeyIdentifier_encode (keyIdFits_of_length_le bounded)⟩
    simp [customExtensions, aki, last]
  · intro extension mem
    simp only [customExtensions, aki, last, Option.map_none, Option.toList_none, List.nil_append,
      Option.mem_toList, Option.map_eq_some_iff] at mem
    obtain ⟨url, -, rfl⟩ := mem
    exact fun same => absurd same (by decide : aiaOid ≠ akiOid)
  · rw [aki, last, ← configure_enableAkiFromIssuer rcgen]
    rfl
  · refine ⟨⟨aiaOid, encodeAiaOcsp url⟩, ?_, rfl,
      readAiaOcsp_encode (urlFits_of_length_le bounded)⟩
    simp [customExtensions, aia, last]
  · simp only [customExtensions, aia, last, Option.map_none, Option.toList_none, List.append_nil,
      Option.mem_toList, Option.map_eq_some_iff] at mem
    obtain ⟨bytes, -, rfl⟩ := mem
    exact fun same => absurd same (by decide : akiOid ≠ aiaOid)
  · rintro earlier usages later rfl kept
    exact Setters.foldl_replace _ _ _ (keyUsages_apply rcgen) rfl kept earlier {}
  · exact fun kept => Setters.foldl_extend_unreplaced _ _ _ (keyUsages_apply rcgen) kept {}
  · rintro earlier usages later rfl kept
    exact Setters.foldl_replace _ _ _ (extendedKeyUsages_apply rcgen) rfl kept earlier {}
  · exact fun kept => Setters.foldl_extend_unreplaced _ _ _ (extendedKeyUsages_apply rcgen) kept {}

end Build

/-- The order of calls matters only within an option.  The build succeeds exactly when every DNS
name converts and the certificate has a name or is a CA, and the parameters then follow the
calls. -/
theorem built_params_follow_calls (rcgen : Rcgen) (calls : List ParamsCall) (spkiForKid : Bytes) :
    (∀ calls' : List ParamsCall,
      (∀ field, calls'.filter (·.field = field) = calls.filter (·.field = field)) →
      (configure rcgen calls').buildWithSpki rcgen spkiForKid =
        (configure rcgen calls).buildWithSpki rcgen spkiForKid) ∧
    ((∃ params, (configure rcgen calls).buildWithSpki rcgen spkiForKid = .ok params) ↔
      (∀ name ∈ calls.flatMap ParamsCall.dnsNames, ∃ text, rcgen.ia5String name = .ok text) ∧
      (calls.flatMap ParamsCall.dnsNames ≠ [] ∨
        calls.flatMap (ParamsCall.ipAddresses rcgen) ≠ [] ∨
        ∃ call ∈ calls, call.field = .isCa)) ∧
    ∀ params, (configure rcgen calls).buildWithSpki rcgen spkiForKid = .ok params →
      FollowsCalls rcgen calls spkiForKid params := by
  refine ⟨?_, ?_, fun params => followsCalls_of_build⟩
  · intro calls' agree
    have ran (calls : List ParamsCall) :
        calls.foldlM (attempt rcgen) {} = .ok (configure rcgen calls) := List.foldlM_pure
    have same := ((independent rcgen).foldlM_eq_ok_iff agree).mp (ran calls')
    rw [Except.ok_unique same (ran calls)]
  · simp only [buildWithSpki_eq_ok_iff, configure_dnsNames, configure_ipAddresses,
      isCa_configure_eq_noCa_iff]
    constructor
    · rintro ⟨_, texts, converted, named, -⟩
      obtain ⟨converts, length⟩ := Except.forall_exists_of_mapM_eq_ok converted
      refine ⟨converts, ?_⟩
      by_contra nameless
      simp only [not_or, not_exists, not_and, ne_eq, not_not] at nameless
      obtain ⟨names, addresses, leaf⟩ := nameless
      rw [names] at length
      exact named ⟨List.length_eq_zero_iff.mp length, addresses, leaf⟩
    · rintro ⟨converts, named⟩
      obtain ⟨texts, converted, length⟩ := Except.exists_mapM_eq_ok converts
      refine ⟨_, texts, converted, ?_, rfl⟩
      rintro ⟨rfl, addresses, leaf⟩
      obtain names | addressed | ⟨call, mem, ca⟩ := named
      · exact names (List.length_eq_zero_iff.mp length.symm)
      · exact addressed addresses
      · exact leaf call mem ca

end CertificateParamsBuilder

end Rcgen

end OxiTls
