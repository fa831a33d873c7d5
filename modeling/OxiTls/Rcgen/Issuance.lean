import OxiTls.Library.Execution
import OxiTls.Library.Fallible
import OxiTls.Rustls

/-!
# Issuing certificates

`cert.rs` of `oxitls-rcgen`: root CAs, intermediate CAs and CA-signed leaves.  Keys, signatures and
DER come from rcgen and the key bridge, which are the functions of a `Rcgen` value.  Issuance is a
state machine: every call may use any CA produced earlier as the parent.
-/

namespace OxiTls

/-- `SigningAlgorithm`. -/
inductive SigningAlgorithm
  | ed25519
  | ecdsaP256
  | ecdsaP384
  | rsa2048
  | rsa4096
  deriving DecidableEq, Repr

/-- `rcgen::BasicConstraints`. -/
inductive BasicConstraints
  | unconstrained
  | constrained (pathLength : UInt8)
  deriving DecidableEq, Repr

/-- The `rcgen::IsCa` variants the functions set. -/
inductive IsCa
  | noCa
  | ca (constraints : BasicConstraints)
  deriving DecidableEq, Repr

/-- The `rcgen::KeyUsagePurpose` variants the functions set. -/
inductive KeyUsagePurpose
  | digitalSignature
  | keyCertSign
  | crlSign
  deriving DecidableEq, Repr

/-- The `rcgen::ExtendedKeyUsagePurpose` variants the functions set. -/
inductive ExtendedKeyUsagePurpose
  | serverAuth
  | clientAuth
  deriving DecidableEq, Repr

/-- The `rcgen::SanType` variants the functions set. -/
inductive SanType
  | dnsName (name : String)
  | ipAddress (octets : Bytes)
  deriving DecidableEq, Repr

/-- The fields of `rcgen::CertificateParams` the functions set. -/
structure CertificateParams where
  subjectAltNames : List SanType
  /-- The one attribute of the distinguished name. -/
  commonName : String
  isCa : IsCa
  keyUsages : List KeyUsagePurpose
  extendedKeyUsages : List ExtendedKeyUsagePurpose
  /-- `KeyIdMethod::PreSpecified`. -/
  keyIdentifier : Digest
  serialNumber : Option Nat
  deriving DecidableEq, Repr

/-- rcgen, the key bridge and the digests, over the keys of the bridge. -/
structure Rcgen where
  Key : Type
  /-- `generate` of the key type of an algorithm, as a function of the random bytes it draws. -/
  generate : SigningAlgorithm → (random : Bytes) → Except TlsError Key
  subjectPublicKeyInfo : Key → Bytes
  pkcs8Der : Key → Bytes
  /-- `str::parse::<IpAddr>`. -/
  parseIpAddr : String → Option Bytes
  /-- Conversion of a name to an IA5 string. -/
  ia5String : String → Except String String
  /-- `CertificateParams::self_signed`: DER and PEM. -/
  selfSigned : CertificateParams → Key → Except String (Bytes × String)
  /-- `CertificateParams::signed_by`, with the parameters and the key of the issuer. -/
  signedBy : CertificateParams → (child : Key) → CertificateParams → (issuer : Key) →
    Except String (Bytes × String)
  sha256 : Bytes → Digest

namespace Rcgen

/-- `CertifiedKey` of `oxitls-rcgen`, with the parameters that its DER encodes. -/
structure CertifiedKey where
  certDer : Bytes
  pkcs8Der : Bytes
  certPem : String
  params : CertificateParams
  deriving DecidableEq, Repr

/-- `CaCertifiedKey`; the signer is the algorithm, which is the variant of `CaSignerInner`, and its
key. -/
structure CaCertifiedKey (Key : Type) where
  certifiedKey : CertifiedKey
  caParams : CertificateParams
  signer : SigningAlgorithm × Key

section Generation

variable (rcgen : Rcgen)

/-- One name of the SAN extension. -/
def sanType (name : String) : Except TlsError SanType :=
  match rcgen.parseIpAddr name with
  | some octets => .ok (.ipAddress octets)
  | none => ((rcgen.ia5String name).map .dnsName).mapError .invalidConfig

/-- The parameters of a leaf.  Server and client leaves differ in the common name of a certificate
without names, in the purpose and in the serial number. -/
def buildLeafParams (fallback : String) (purpose : ExtendedKeyUsagePurpose) (serial : Nat)
    (subjectAltNames : List String) (spkiForKid : Bytes) : Except TlsError CertificateParams := do
  let sans ← subjectAltNames.mapM (sanType rcgen)
  if sans.isEmpty then
    throw (.invalidConfig "at least one SAN is required")
  pure
    { subjectAltNames := sans
      commonName := subjectAltNames.head?.getD fallback
      isCa := .noCa
      keyUsages := [.digitalSignature]
      extendedKeyUsages := [purpose]
      keyIdentifier := rcgen.sha256 spkiForKid
      serialNumber := some serial }

/-- `build_params`. -/
def buildParams : List String → Bytes → Except TlsError CertificateParams :=
  buildLeafParams rcgen "localhost" .serverAuth 1

/-- `build_client_params`. -/
def buildClientParams : List String → Bytes → Except TlsError CertificateParams :=
  buildLeafParams rcgen "client" .clientAuth 2

/-- `build_ca_params`. -/
def buildCaParams (subjectCn : String) (spkiForKid : Bytes) (pathLength : Option UInt8) :
    CertificateParams where
  subjectAltNames := []
  commonName := subjectCn
  isCa := match pathLength with
    | some length => .ca (.constrained length)
    | none => .ca .unconstrained
  keyUsages := [.keyCertSign, .crlSign, .digitalSignature]
  extendedKeyUsages := []
  keyIdentifier := rcgen.sha256 spkiForKid
  serialNumber := some 1

/-- `CaCertifiedKey::sign_child`; the arms of its match differ in the type of the key only. -/
def signChild (ca : CaCertifiedKey rcgen.Key) (childParams : CertificateParams)
    (childKey : rcgen.Key) : Except TlsError (Bytes × String) :=
  (rcgen.signedBy childParams childKey ca.caParams ca.signer.2).mapError .invalidConfig

/-- `generate_ca`. -/
def generateCa (subjectCn : String) (alg : SigningAlgorithm) (random : Bytes) :
    Except TlsError (CaCertifiedKey rcgen.Key) := do
  let key ← rcgen.generate alg random
  let spki := rcgen.subjectPublicKeyInfo key
  let params := buildCaParams rcgen subjectCn spki none
  let cert ← (rcgen.selfSigned params key).mapError .invalidConfig
  pure ⟨⟨cert.1, rcgen.pkcs8Der key, cert.2, params⟩, params, (alg, key)⟩

/-- `generate_intermediate_ca`. -/
def generateIntermediateCa (subjectCn : String) (alg : SigningAlgorithm) (random : Bytes)
    (parent : CaCertifiedKey rcgen.Key) : Except TlsError (CaCertifiedKey rcgen.Key) := do
  let key ← rcgen.generate alg random
  let spki := rcgen.subjectPublicKeyInfo key
  let params := buildCaParams rcgen subjectCn spki (some 0)
  let cert ← signChild rcgen parent params key
  pure ⟨⟨cert.1, rcgen.pkcs8Der key, cert.2, params⟩, params, (alg, key)⟩

/-- A leaf under a CA, given how its parameters are built. -/
def generateSignedLeaf (build : List String → Bytes → Except TlsError CertificateParams)
    (subjectAltNames : List String) (alg : SigningAlgorithm) (random : Bytes)
    (ca : CaCertifiedKey rcgen.Key) : Except TlsError CertifiedKey := do
  let key ← rcgen.generate alg random
  let spki := rcgen.subjectPublicKeyInfo key
  let params ← build subjectAltNames spki
  let cert ← signChild rcgen ca params key
  pure ⟨cert.1, rcgen.pkcs8Der key, cert.2, params⟩

/-- `generate_ca_signed_leaf`. -/
def generateCaSignedLeaf : List String → SigningAlgorithm → Bytes → CaCertifiedKey rcgen.Key →
    Except TlsError CertifiedKey :=
  generateSignedLeaf rcgen (buildParams rcgen)

/-- `generate_ca_signed_client_cert`. -/
def generateCaSignedClientCert : List String → SigningAlgorithm → Bytes →
    CaCertifiedKey rcgen.Key → Except TlsError CertifiedKey :=
  generateSignedLeaf rcgen (buildClientParams rcgen)

end Generation

/-! ## Issuance as a state machine -/

/-- A certificate that was issued, the CA it is for when it is one, and the certificates above it,
its issuer first and its root last. -/
structure Issued (Key : Type) where
  certificate : CertifiedKey
  authority : Option (CaCertifiedKey Key)
  issuers : List CertifiedKey

/-- The chain from a certificate up to its root. -/
def Issued.chain {Key : Type} (issued : Issued Key) : List CertifiedKey :=
  issued.certificate :: issued.issuers

/-- A call; a parent is the position of a certificate issued earlier. -/
inductive IssueCall
  | ca (subjectCn : String) (alg : SigningAlgorithm) (random : Bytes)
  | intermediateCa (subjectCn : String) (alg : SigningAlgorithm) (random : Bytes) (parent : Nat)
  | signedLeaf (subjectAltNames : List String) (alg : SigningAlgorithm) (random : Bytes)
      (parent : Nat)
  | signedClientCert (subjectAltNames : List String) (alg : SigningAlgorithm) (random : Bytes)
      (parent : Nat)
  deriving DecidableEq, Repr

section Machine

variable (rcgen : Rcgen)

/-- A certificate produced earlier that is a CA. -/
def parentOf (state : List (Issued rcgen.Key)) (parent : Nat) :
    Option (Issued rcgen.Key × CaCertifiedKey rcgen.Key) := do
  let issued ← state[parent]?
  let authority ← issued.authority
  pure (issued, authority)

/-- One call; `none` when its parent is not a CA or the call returns an error. -/
def issue (state : List (Issued rcgen.Key)) : IssueCall → Option (List (Issued rcgen.Key))
  | .ca subjectCn alg random => do
      let ca ← (generateCa rcgen subjectCn alg random).toOption
      pure (state ++ [⟨ca.certifiedKey, some ca, []⟩])
  | .intermediateCa subjectCn alg random parent => do
      let (issuer, authority) ← parentOf rcgen state parent
      let ca ← (generateIntermediateCa rcgen subjectCn alg random authority).toOption
      pure (state ++ [⟨ca.certifiedKey, some ca, issuer.chain⟩])
  | .signedLeaf subjectAltNames alg random parent => do
      let (issuer, authority) ← parentOf rcgen state parent
      let leaf ← (generateCaSignedLeaf rcgen subjectAltNames alg random authority).toOption
      pure (state ++ [⟨leaf, none, issuer.chain⟩])
  | .signedClientCert subjectAltNames alg random parent => do
      let (issuer, authority) ← parentOf rcgen state parent
      let leaf ← (generateCaSignedClientCert rcgen subjectAltNames alg random authority).toOption
      pure (state ++ [⟨leaf, none, issuer.chain⟩])

end Machine

/-- The certificate is a CA certificate. -/
def CertifiedKey.isCa (cert : CertifiedKey) : Bool :=
  match cert.params.isCa with
  | .ca _ => true
  | .noCa => false

/-- Every CA of a chain has at most as many CA certificates below it as its path length says. -/
def RespectsPathLength (chain : List CertifiedKey) : Prop :=
  ∀ (below : List CertifiedKey) (ca : CertifiedKey) (above : List CertifiedKey),
    chain = below ++ ca :: above → ∀ pathLength, ca.params.isCa = .ca (.constrained pathLength) →
      below.countP CertifiedKey.isCa ≤ pathLength.toNat

/-- The call does not ask a CA with a path length for another CA. -/
def IssueCall.KeepsPathLength {rcgen : Rcgen} (state : List (Issued rcgen.Key)) :
    IssueCall → Prop
  | .intermediateCa _ _ _ parent => ∀ issuer authority,
      parentOf rcgen state parent = some (issuer, authority) →
        authority.caParams.isCa = .ca .unconstrained
  | .ca .. | .signedLeaf .. | .signedClientCert .. => True

/-- An rcgen that never fails: a key is the random bytes it was drawn from, and a certificate is the
key of its subject. -/
def unfailing : Rcgen where
  Key := Bytes
  generate _ random := .ok random
  subjectPublicKeyInfo key := key
  pkcs8Der key := key
  parseIpAddr _ := none
  ia5String name := .ok name
  selfSigned params key := .ok (key, params.commonName)
  signedBy params child _ _ := .ok (child, params.commonName)
  sha256 data := Vector.ofFn fun i => data.getD i 0

/-! ## Path lengths along a chain -/

section PathLength

variable {cert : CertifiedKey} {chain : List CertifiedKey}

/-- A certificate that is no CA puts no constraint on the chain it joins and does not count. -/
theorem respectsPathLength_cons_of_not_isCa (leaf : cert.params.isCa = .noCa) :
    RespectsPathLength (cert :: chain) ↔ RespectsPathLength chain := by
  have uncounted : cert.isCa = false := by rw [CertifiedKey.isCa, leaf]
  constructor
  · intro respects below ca above split pathLength constrained
    have counted := respects (cert :: below) ca above (by rw [split]; rfl) pathLength constrained
    rwa [List.countP_cons_of_neg (by simp [uncounted])] at counted
  · intro respects below ca above split pathLength constrained
    cases below with
    | nil =>
        obtain ⟨rfl, rfl⟩ := List.cons.inj split
        rw [leaf] at constrained
        contradiction
    | cons first below =>
        obtain ⟨rfl, rfl⟩ := List.cons.inj split
        rw [List.countP_cons_of_neg (by simp [uncounted])]
        exact respects below ca above rfl pathLength constrained

theorem respectsPathLength_root : RespectsPathLength [cert] := by
  intro below ca above split pathLength _
  cases below with
  | nil => exact Nat.zero_le _
  | cons first below =>
      have empty := (List.cons.inj split).2
      simp at empty

/-- Directly below an unconstrained root there may be a CA. -/
theorem respectsPathLength_below_root {root : CertifiedKey}
    (unconstrained : root.params.isCa = .ca .unconstrained) :
    RespectsPathLength [cert, root] := by
  intro below ca above split pathLength constrained
  cases below with
  | nil => exact Nat.zero_le _
  | cons first below =>
      cases below with
      | nil =>
          obtain ⟨rfl, -⟩ := List.cons.inj (List.cons.inj split).2
          rw [unconstrained] at constrained
          exact BasicConstraints.noConfusion (IsCa.ca.inj constrained)
      | cons second below =>
          have empty := (List.cons.inj (List.cons.inj split).2).2
          simp at empty

/-- Directly below a CA with path length 0 there may be no CA. -/
theorem not_respectsPathLength_below_zero {parent : CertifiedKey}
    (zero : parent.params.isCa = .ca (.constrained 0)) (counted : cert.isCa = true) :
    ¬ RespectsPathLength (cert :: parent :: chain) := by
  intro respects
  have bound := respects [cert] parent chain rfl 0 zero
  rw [List.countP_cons_of_pos counted] at bound
  exact Nat.not_succ_le_zero _ bound

end PathLength

/-! ## What one call issues -/

variable {rcgen : Rcgen}

/-- What an issued certificate is: a leaf, an unconstrained root, or an intermediate CA of path
length 0 below something. -/
inductive Issued.Shape (issued : Issued rcgen.Key) : Prop
  | leaf (none : issued.authority = none)
  | root (ca : CaCertifiedKey rcgen.Key) (authority : issued.authority = some ca)
      (params : ca.caParams = issued.certificate.params)
      (unconstrained : ca.caParams.isCa = .ca .unconstrained) (top : issued.issuers = [])
  | intermediate (ca : CaCertifiedKey rcgen.Key) (authority : issued.authority = some ca)
      (params : ca.caParams = issued.certificate.params)
      (constrained : ca.caParams.isCa = .ca (.constrained 0))

theorem generateCa_eq_ok {subjectCn : String} {alg : SigningAlgorithm} {random : Bytes}
    {ca : CaCertifiedKey rcgen.Key} (generated : generateCa rcgen subjectCn alg random = .ok ca) :
    ca.caParams = ca.certifiedKey.params ∧ ca.caParams.isCa = .ca .unconstrained := by
  simp only [generateCa, Except.bind_eq_ok_iff, Except.pure_eq_ok_iff] at generated
  obtain ⟨key, -, cert, -, rfl⟩ := generated
  exact ⟨rfl, rfl⟩

theorem generateIntermediateCa_eq_ok {subjectCn : String} {alg : SigningAlgorithm} {random : Bytes}
    {parent ca : CaCertifiedKey rcgen.Key}
    (generated : generateIntermediateCa rcgen subjectCn alg random parent = .ok ca) :
    ca.caParams = ca.certifiedKey.params ∧ ca.caParams.isCa = .ca (.constrained 0) := by
  simp only [generateIntermediateCa, Except.bind_eq_ok_iff, Except.pure_eq_ok_iff] at generated
  obtain ⟨key, -, cert, -, rfl⟩ := generated
  exact ⟨rfl, rfl⟩

theorem buildLeafParams_eq_ok {fallback : String} {purpose : ExtendedKeyUsagePurpose}
    {serial : Nat} {names : List String} {spki : Bytes} {params : CertificateParams}
    (built : buildLeafParams rcgen fallback purpose serial names spki = .ok params) :
    params.isCa = .noCa := by
  simp only [buildLeafParams, Except.bind_eq_ok_iff] at built
  obtain ⟨sans, -, built⟩ := built
  split_ifs at built
  · simp at built
  · obtain rfl := Except.pure_eq_ok_iff.mp built
    rfl

theorem generateSignedLeaf_eq_ok
    {build : List String → Bytes → Except TlsError CertificateParams}
    (noCa : ∀ names spki params, build names spki = .ok params → params.isCa = .noCa)
    {names : List String} {alg : SigningAlgorithm} {random : Bytes}
    {ca : CaCertifiedKey rcgen.Key} {leaf : CertifiedKey}
    (generated : generateSignedLeaf rcgen build names alg random ca = .ok leaf) :
    leaf.params.isCa = .noCa := by
  simp only [generateSignedLeaf, Except.bind_eq_ok_iff, Except.pure_eq_ok_iff] at generated
  obtain ⟨key, -, params, built, cert, -, rfl⟩ := generated
  exact noCa names _ params built

variable {state next final : List (Issued rcgen.Key)} {call : IssueCall} {parent : Nat}
  {issuer : Issued rcgen.Key} {authority : CaCertifiedKey rcgen.Key}

theorem parentOf_eq_some (found : parentOf rcgen state parent = some (issuer, authority)) :
    issuer ∈ state ∧ issuer.authority = some authority := by
  simp only [parentOf, Option.bind_eq_bind, Option.pure_def, Option.bind_eq_some_iff] at found
  obtain ⟨issued, located, ca, isAuthority, same⟩ := found
  obtain ⟨rfl, rfl⟩ := Prod.mk.inj (Option.some.inj same)
  exact ⟨List.mem_of_getElem? located, isAuthority⟩

/-- A call adds one certificate: a root, an intermediate CA below the parent, or a leaf below the
parent. -/
theorem issue_eq_some (issued : issue rcgen state call = some next) :
    ∃ new : Issued rcgen.Key, next = state ++ [new] ∧
      ((∃ ca, (∃ subjectCn alg random, call = .ca subjectCn alg random) ∧
          new = ⟨ca.certifiedKey, some ca, []⟩ ∧
          ca.caParams = ca.certifiedKey.params ∧ ca.caParams.isCa = .ca .unconstrained) ∨
        (∃ ca issuer authority parent,
          (∃ subjectCn alg random, call = .intermediateCa subjectCn alg random parent) ∧
          parentOf rcgen state parent = some (issuer, authority) ∧
          new = ⟨ca.certifiedKey, some ca, issuer.chain⟩ ∧
          ca.caParams = ca.certifiedKey.params ∧ ca.caParams.isCa = .ca (.constrained 0)) ∨
        ∃ leaf issuer, issuer ∈ state ∧ call.KeepsPathLength state ∧
          new = ⟨leaf, none, issuer.chain⟩ ∧ leaf.params.isCa = .noCa) := by
  cases call with
  | ca subjectCn alg random =>
      simp only [issue, Option.bind_eq_bind, Option.pure_def, Option.bind_eq_some_iff,
        Except.toOption_eq_some_iff, Option.some.injEq] at issued
      obtain ⟨ca, generated, rfl⟩ := issued
      obtain ⟨params, unconstrained⟩ := generateCa_eq_ok generated
      exact ⟨_, rfl, .inl ⟨ca, ⟨subjectCn, alg, random, rfl⟩, rfl, params, unconstrained⟩⟩
  | intermediateCa subjectCn alg random parent =>
      simp only [issue, Option.bind_eq_bind, Option.pure_def, Option.bind_eq_some_iff,
        Except.toOption_eq_some_iff, Option.some.injEq] at issued
      obtain ⟨⟨issuer, authority⟩, found, ca, generated, rfl⟩ := issued
      obtain ⟨params, constrained⟩ := generateIntermediateCa_eq_ok generated
      exact ⟨_, rfl, .inr (.inl ⟨ca, issuer, authority, parent, ⟨subjectCn, alg, random, rfl⟩,
        found, rfl, params, constrained⟩)⟩
  | signedLeaf names alg random parent | signedClientCert names alg random parent =>
      simp only [issue, Option.bind_eq_bind, Option.pure_def, Option.bind_eq_some_iff,
        Except.toOption_eq_some_iff, Option.some.injEq] at issued
      obtain ⟨⟨issuer, authority⟩, found, leaf, generated, rfl⟩ := issued
      have noCa := generateSignedLeaf_eq_ok (fun _ _ _ => buildLeafParams_eq_ok) generated
      exact ⟨_, rfl, .inr (.inr ⟨leaf, issuer, (parentOf_eq_some found).1, trivial, rfl, noCa⟩)⟩

theorem shape_of_issue (shaped : ∀ issued ∈ state, issued.Shape)
    (issued : issue rcgen state call = some next) : ∀ issued ∈ next, issued.Shape := by
  obtain ⟨new, rfl, kind⟩ := issue_eq_some issued
  intro certificate member
  rcases List.mem_append.mp member with earlier | latest
  · exact shaped certificate earlier
  · obtain rfl := List.mem_singleton.mp latest
    rcases kind with ⟨ca, -, rfl, params, unconstrained⟩ |
      ⟨ca, issuer, authority, parent, -, -, rfl, params, constrained⟩ | ⟨leaf, issuer, -, -, rfl, -⟩
    · exact .root ca rfl params unconstrained rfl
    · exact .intermediate ca rfl params constrained
    · exact .leaf rfl

/-- The chain of a new intermediate CA respects the path lengths exactly when its parent has no path
length. -/
theorem respectsPathLength_intermediate {cert : CertifiedKey} (isCa : cert.isCa = true)
    (shape : issuer.Shape) (isAuthority : issuer.authority = some authority) :
    RespectsPathLength (cert :: issuer.chain) ↔ authority.caParams.isCa = .ca .unconstrained := by
  cases shape with
  | leaf none =>
      rw [none] at isAuthority
      contradiction
  | root ca same params unconstrained top =>
      obtain rfl : ca = authority := Option.some.inj (same.symm.trans isAuthority)
      refine iff_of_true ?_ unconstrained
      rw [Issued.chain, top]
      exact respectsPathLength_below_root (params ▸ unconstrained)
  | intermediate ca same params constrained =>
      obtain rfl : ca = authority := Option.some.inj (same.symm.trans isAuthority)
      refine iff_of_false ?_ ?_
      · exact not_respectsPathLength_below_zero (params ▸ constrained) isCa
      · intro unconstrained
        rw [constrained] at unconstrained
        exact BasicConstraints.noConfusion (IsCa.ca.inj unconstrained)

/-- A call keeps all chains within their path lengths exactly when it does not ask a CA with a path
length for another CA. -/
theorem respects_of_issue_iff (shaped : ∀ issued ∈ state, issued.Shape)
    (issued : issue rcgen state call = some next) :
    (∀ issued ∈ next, RespectsPathLength issued.chain) ↔
      (∀ issued ∈ state, RespectsPathLength issued.chain) ∧ call.KeepsPathLength state := by
  obtain ⟨new, rfl, kind⟩ := issue_eq_some issued
  rw [List.forall_mem_append, List.forall_mem_singleton]
  refine and_congr_right fun respects => ?_
  rcases kind with ⟨ca, ⟨subjectCn, alg, random, rfl⟩, rfl, params, unconstrained⟩ |
    ⟨ca, issuer, authority, parent, ⟨subjectCn, alg, random, rfl⟩, found, rfl, params,
      constrained⟩ |
    ⟨leaf, issuer, member, keeps, rfl, noCa⟩
  · exact iff_of_true respectsPathLength_root trivial
  · obtain ⟨member, isAuthority⟩ := parentOf_eq_some found
    have isCa : ca.certifiedKey.isCa = true := by
      rw [CertifiedKey.isCa, ← params, constrained]
    rw [Issued.chain, respectsPathLength_intermediate isCa (shaped issuer member) isAuthority]
    constructor
    · intro unconstrained issuer' authority' found'
      obtain ⟨rfl, rfl⟩ := Prod.mk.inj (Option.some.inj (found.symm.trans found'))
      exact unconstrained
    · intro keeps
      exact keeps issuer authority found
  · refine iff_of_true ?_ keeps
    rw [Issued.chain, respectsPathLength_cons_of_not_isCa noCa]
    exact respects issuer member

/-! ## Whole runs -/

/-- The chains of a run from any state respect the path lengths exactly when those of the state do
and no call of the run asks a CA with a path length for another CA. -/
theorem respects_of_run_iff {calls : List IssueCall} (shaped : ∀ issued ∈ state, issued.Shape)
    (executed : Execution.run (issue rcgen) state calls = some final) :
    (∀ issued ∈ final, RespectsPathLength issued.chain) ↔
      (∀ issued ∈ state, RespectsPathLength issued.chain) ∧
        Execution.Meets (issue rcgen) (fun state call => call.KeepsPathLength state) state
          calls := by
  induction calls generalizing state with
  | nil =>
      obtain rfl := Option.some.inj executed
      exact (and_iff_left trivial).symm
  | cons call calls induction =>
      obtain ⟨next, issued, later⟩ := Execution.run_cons_eq_some_iff.mp executed
      rw [induction (shape_of_issue shaped issued) later, respects_of_issue_iff shaped issued,
        and_assoc]
      refine and_congr_right fun _ => and_congr_right fun _ => ?_
      constructor
      · intro meets next' issued'
        obtain rfl := Option.some.inj (issued.symm.trans issued')
        exact meets
      · intro meets
        exact meets next issued

/-- After any sequence of successful calls, every chain respects the path lengths of its CAs exactly
when no intermediate CA was asked for another intermediate CA. -/
theorem chains_respect_iff (rcgen : Rcgen) (calls : List IssueCall)
    (final : List (Issued rcgen.Key))
    (executed : Execution.run (issue rcgen) [] calls = some final) :
    (∀ issued ∈ final, RespectsPathLength issued.chain) ↔
      Execution.Meets (issue rcgen) (fun state call => call.KeepsPathLength state) [] calls := by
  rw [respects_of_run_iff (fun _ member => absurd member List.not_mem_nil) executed]
  exact and_iff_right fun _ member => absurd member List.not_mem_nil

/-- A root, an intermediate CA below it and a leaf below that. -/
def threeLevels : List IssueCall :=
  [.ca "Root" .ed25519 [], .intermediateCa "Intermediate" .ed25519 [] 0,
    .signedLeaf ["localhost"] .ed25519 [] 1]

theorem chains_respect_iff_threeLevels :
    ∃ final, Execution.run (issue unfailing) [] threeLevels = some final ∧
      ∀ issued ∈ final, RespectsPathLength issued.chain := by
  refine ⟨_, rfl, (chains_respect_iff unfailing threeLevels _ rfl).mpr ?_⟩
  refine ⟨trivial, fun first issued => ⟨?_, fun _ _ => ⟨trivial, fun _ _ => trivial⟩⟩⟩
  obtain rfl := Option.some.inj issued
  intro issuer authority found
  obtain ⟨rfl, rfl⟩ := Prod.mk.inj (Option.some.inj found)
  rfl

/-- An intermediate CA of path length 0 signs another intermediate CA. -/
theorem nested_intermediate_not_respected :
    ∃ final, Execution.run (issue unfailing) []
        [.ca "Root" .ed25519 [], .intermediateCa "Intermediate" .ed25519 [] 0,
          .intermediateCa "Nested" .ed25519 [] 1] = some final ∧
      ¬ ∀ issued ∈ final, RespectsPathLength issued.chain := by
  refine ⟨_, rfl, ?_⟩
  intro respects
  have nested := respects _ (List.mem_of_getElem? (i := 2) rfl)
  exact not_respectsPathLength_below_zero rfl rfl nested

end Rcgen

end OxiTls
