import OxiTls.Rcgen.Issuance

/-!
# Chains of issued certificates

The leaves of an issuance under `cert.rs` of `oxitls-rcgen`, seen by a peer that holds the root as a
trust anchor: it reads every certificate, follows the names and the signatures up to the root, and
checks the CAs on the way and the purpose and the name of the leaf.
-/

namespace OxiTls.Rcgen

/-! ## Path validation -/

/-- What the path validation of a peer reads from a certificate. -/
structure Certificate where
  /-- The common name of the issuer. -/
  issuer : String
  /-- The common name of the subject. -/
  subject : String
  subjectPki : Bytes
  isCa : IsCa
  /-- Whether the bit of `keyCertSign` is set. -/
  keyCertSign : Bool
  extendedKeyUsages : List ExtendedKeyUsagePurpose
  subjectAltNames : List SanType
  deriving DecidableEq, Repr

/-- What parameters leave in a certificate for path validation. -/
def Certificate.ofParams (issuer : String) (params : CertificateParams) (subjectPki : Bytes) :
    Certificate where
  issuer := issuer
  subject := params.commonName
  subjectPki := subjectPki
  isCa := params.isCa
  keyCertSign := params.keyUsages.contains .keyCertSign
  extendedKeyUsages := params.extendedKeyUsages
  subjectAltNames := params.subjectAltNames

/-- How a peer reads certificates. -/
structure CertificateReader where
  read : Bytes → Option Certificate
  /-- Whether the signature of a certificate is one of the key. -/
  verifies : (subjectPki : Bytes) → (certDer : Bytes) → Bool
  /-- Whether a CA certificate counts towards the path length of the CAs above it.  RFC 5280 does
  not count self-issued ones, webpki counts them all. -/
  counts : Certificate → Bool

namespace CertificateReader

variable (reader : CertificateReader)

/-- The certificate names the issuer and carries its signature. -/
def signed (certDer : Bytes) (issuer : Certificate) : Bool :=
  match reader.read certDer with
  | some cert => cert.issuer == issuer.subject && reader.verifies issuer.subjectPki certDer
  | none => false

/-- Whether a certificate may issue another one above a number of CA certificates. -/
def mayIssue (ca : Certificate) (below : Nat) : Bool :=
  match ca.isCa with
  | .ca .unconstrained => ca.keyCertSign
  | .ca (.constrained length) => decide (below ≤ length.toNat) && ca.keyCertSign
  | .noCa => false

/-- The path from a certificate to the anchor, with the number of CA certificates that count below
the issuer of the certificate. -/
def path (anchor : Certificate) : Nat → Bytes → List Bytes → Bool
  | _, certDer, [] => reader.signed certDer anchor
  | below, certDer, issuer :: issuers =>
      match reader.read issuer with
      | some ca =>
          reader.signed certDer ca && mayIssue ca below &&
            path anchor (if reader.counts ca then below + 1 else below) issuer issuers
      | none => false

/-- Whether a peer that trusts the anchor takes the leaf for a purpose and a name. -/
def accepts (anchor : Bytes) (purpose : ExtendedKeyUsagePurpose) (name : SanType) (leaf : Bytes)
    (intermediates : List Bytes) : Bool :=
  match reader.read anchor, reader.read leaf with
  | some root, some cert =>
      cert.extendedKeyUsages.contains purpose && cert.subjectAltNames.contains name &&
        reader.path root 0 leaf intermediates
  | _, _ => false

/-- The certificate binds what validation needs of the parameters to the key, under the name and the
signature of an issuer. -/
structure Certifies (rcgen : Rcgen) (certDer : Bytes) (params : CertificateParams)
    (key : rcgen.Key) (issuer : String) (signer : rcgen.Key) : Prop where
  read : reader.read certDer =
    some (Certificate.ofParams issuer params (rcgen.subjectPublicKeyInfo key))
  verifies : reader.verifies (rcgen.subjectPublicKeyInfo signer) certDer = true

/-- rcgen writes certificates as documented. -/
structure Documented (rcgen : Rcgen) : Prop where
  selfSigned : ∀ {params key certDer certPem},
    rcgen.selfSigned params key = .ok (certDer, certPem) →
      reader.Certifies rcgen certDer params key params.commonName key
  signedBy : ∀ {params child caParams issuer certDer certPem},
    rcgen.signedBy params child caParams issuer = .ok (certDer, certPem) →
      reader.Certifies rcgen certDer params child caParams.commonName issuer

end CertificateReader

/-! ## What a call is answered with -/

/-- What a call for a leaf asks for. -/
structure LeafRequest where
  subjectAltNames : List String
  alg : SigningAlgorithm
  random : Bytes
  purpose : ExtendedKeyUsagePurpose

/-- The leaf that a call asks for. -/
def IssueCall.leafRequest : IssueCall → Option LeafRequest
  | .signedLeaf subjectAltNames alg random _ => some ⟨subjectAltNames, alg, random, .serverAuth⟩
  | .signedClientCert subjectAltNames alg random _ =>
      some ⟨subjectAltNames, alg, random, .clientAuth⟩
  | .ca .. | .intermediateCa .. => none

section Issuing

variable (reader : CertificateReader) (rcgen : Rcgen)

/-- A CA whose certificate is signed by the CA above it, up to a root. -/
inductive Anchored : CaCertifiedKey rcgen.Key → List CertifiedKey → Prop
  | root {ca : CaCertifiedKey rcgen.Key}
      (certified : reader.Certifies rcgen ca.certifiedKey.certDer ca.caParams ca.signer.2
        ca.caParams.commonName ca.signer.2) : Anchored ca []
  | intermediate {ca parent : CaCertifiedKey rcgen.Key} {above : List CertifiedKey}
      (certified : reader.Certifies rcgen ca.certifiedKey.certDer ca.caParams ca.signer.2
        parent.caParams.commonName parent.signer.2)
      (constrained : ca.caParams.isCa = .ca (.constrained 0))
      (usage : .keyCertSign ∈ ca.caParams.keyUsages)
      (anchored : Anchored parent above) : Anchored ca (parent.certifiedKey :: above)

/-- A leaf for a request: a fresh key and its certificate for the names and the purpose. -/
def LeafFor (request : LeafRequest) (leaf : CertifiedKey) (ca : CaCertifiedKey rcgen.Key) : Prop :=
  ∃ key params, rcgen.generate request.alg request.random = .ok key ∧
    leaf.pkcs8Der = rcgen.pkcs8Der key ∧
    reader.Certifies rcgen leaf.certDer params key ca.caParams.commonName ca.signer.2 ∧
    request.subjectAltNames.mapM (sanType rcgen) = .ok params.subjectAltNames ∧
    params.extendedKeyUsages = [request.purpose]

/-- What a call is answered with. -/
inductive Answers : IssueCall → Issued rcgen.Key → Prop
  | authority {call : IssueCall} {ca : CaCertifiedKey rcgen.Key} {above : List CertifiedKey}
      (unasked : call.leafRequest = none) (anchored : Anchored reader rcgen ca above) :
      Answers call ⟨ca.certifiedKey, some ca, above⟩
  | leaf {call : IssueCall} {request : LeafRequest} {leaf : CertifiedKey}
      {ca : CaCertifiedKey rcgen.Key} {above : List CertifiedKey}
      (asked : call.leafRequest = some request) (anchored : Anchored reader rcgen ca above)
      (issued : LeafFor reader rcgen request leaf ca) :
      Answers call ⟨leaf, none, ca.certifiedKey :: above⟩

end Issuing

variable {reader : CertificateReader} {rcgen : Rcgen}

theorem anchored_of_generateCa (documented : reader.Documented rcgen) {subjectCn : String}
    {alg : SigningAlgorithm} {random : Bytes} {ca : CaCertifiedKey rcgen.Key}
    (generated : generateCa rcgen subjectCn alg random = .ok ca) :
    Anchored reader rcgen ca [] := by
  simp only [generateCa, Except.bind_eq_ok_iff, Except.mapError_eq_ok_iff,
    Except.pure_eq_ok_iff] at generated
  obtain ⟨key, -, ⟨certDer, certPem⟩, signed, rfl⟩ := generated
  exact .root (documented.selfSigned signed)

theorem anchored_of_generateIntermediateCa (documented : reader.Documented rcgen)
    {subjectCn : String} {alg : SigningAlgorithm} {random : Bytes}
    {ca parent : CaCertifiedKey rcgen.Key} {above : List CertifiedKey}
    (anchored : Anchored reader rcgen parent above)
    (generated : generateIntermediateCa rcgen subjectCn alg random parent = .ok ca) :
    Anchored reader rcgen ca (parent.certifiedKey :: above) := by
  simp only [generateIntermediateCa, signChild, Except.bind_eq_ok_iff, Except.mapError_eq_ok_iff,
    Except.pure_eq_ok_iff] at generated
  obtain ⟨key, -, ⟨certDer, certPem⟩, signed, rfl⟩ := generated
  exact .intermediate (documented.signedBy signed) rfl List.mem_cons_self anchored

theorem leafFor_of_generateSignedLeaf (documented : reader.Documented rcgen) {fallback : String}
    {purpose : ExtendedKeyUsagePurpose} {serial : Nat} {names : List String}
    {alg : SigningAlgorithm} {random : Bytes} {ca : CaCertifiedKey rcgen.Key}
    {leaf : CertifiedKey}
    (generated : generateSignedLeaf rcgen (buildLeafParams rcgen fallback purpose serial) names alg
      random ca = .ok leaf) :
    LeafFor reader rcgen ⟨names, alg, random, purpose⟩ leaf ca := by
  simp only [generateSignedLeaf, signChild, Except.bind_eq_ok_iff, Except.mapError_eq_ok_iff,
    Except.pure_eq_ok_iff] at generated
  obtain ⟨key, drawn, params, built, ⟨certDer, certPem⟩, signed, rfl⟩ := generated
  simp only [buildLeafParams, Except.bind_eq_ok_iff] at built
  obtain ⟨sans, named, built⟩ := built
  split_ifs at built
  · simp at built
  · obtain rfl := Except.pure_eq_ok_iff.mp built
    exact ⟨key, _, drawn, rfl, documented.signedBy signed, named, rfl⟩

/-- An authority that answered an earlier call is anchored by the certificates above it. -/
theorem anchored_of_parentOf {state : List (Issued rcgen.Key)} {parent : Nat}
    {issuer : Issued rcgen.Key} {authority : CaCertifiedKey rcgen.Key}
    (answered : ∀ issued ∈ state, ∃ call, Answers reader rcgen call issued)
    (found : parentOf rcgen state parent = some (issuer, authority)) :
    issuer.certificate = authority.certifiedKey ∧
      Anchored reader rcgen authority issuer.issuers := by
  obtain ⟨member, isAuthority⟩ := parentOf_eq_some found
  obtain ⟨call, answer⟩ := answered issuer member
  cases answer with
  | authority unasked anchored =>
      obtain rfl := Option.some.inj isAuthority
      exact ⟨rfl, anchored⟩
  | leaf asked anchored issued => contradiction

theorem answers_of_issue (documented : reader.Documented rcgen)
    {state next : List (Issued rcgen.Key)} {call : IssueCall}
    (answered : ∀ issued ∈ state, ∃ call, Answers reader rcgen call issued)
    (issued : issue rcgen state call = some next) :
    ∃ new, next = state ++ [new] ∧ Answers reader rcgen call new := by
  cases call with
  | ca subjectCn alg random =>
      simp only [issue, Option.bind_eq_bind, Option.pure_def, Option.bind_eq_some_iff,
        Except.toOption_eq_some_iff, Option.some.injEq] at issued
      obtain ⟨ca, generated, rfl⟩ := issued
      exact ⟨_, rfl, .authority rfl (anchored_of_generateCa documented generated)⟩
  | intermediateCa subjectCn alg random parent =>
      simp only [issue, Option.bind_eq_bind, Option.pure_def, Option.bind_eq_some_iff,
        Except.toOption_eq_some_iff, Option.some.injEq] at issued
      obtain ⟨⟨issuer, authority⟩, found, ca, generated, rfl⟩ := issued
      obtain ⟨same, anchored⟩ := anchored_of_parentOf answered found
      refine ⟨_, rfl, ?_⟩
      rw [Issued.chain, same]
      exact .authority rfl (anchored_of_generateIntermediateCa documented anchored generated)
  | signedLeaf names alg random parent | signedClientCert names alg random parent =>
      simp only [issue, Option.bind_eq_bind, Option.pure_def, Option.bind_eq_some_iff,
        Except.toOption_eq_some_iff, Option.some.injEq] at issued
      obtain ⟨⟨issuer, authority⟩, found, leaf, generated, rfl⟩ := issued
      obtain ⟨same, anchored⟩ := anchored_of_parentOf answered found
      refine ⟨_, rfl, ?_⟩
      rw [Issued.chain, same]
      exact .leaf rfl anchored (leafFor_of_generateSignedLeaf documented generated)

/-! ## What a leaf is good for -/

theorem CertificateReader.Certifies.signed {certDer : Bytes} {params caParams : CertificateParams}
    {key signer : rcgen.Key}
    (certified : reader.Certifies rcgen certDer params key caParams.commonName signer)
    (above : String) :
    reader.signed certDer (.ofParams above caParams (rcgen.subjectPublicKeyInfo signer)) =
      true := by
  simp [CertificateReader.signed, certified.read, certified.verifies,
    Certificate.ofParams]

variable {ca : CaCertifiedKey rcgen.Key} {above : List CertifiedKey} {leaf root : CertifiedKey}

theorem Anchored.exists_read (anchored : Anchored reader rcgen ca above) :
    ∃ issuer, reader.read ca.certifiedKey.certDer =
      some (.ofParams issuer ca.caParams (rcgen.subjectPublicKeyInfo ca.signer.2)) := by
  cases anchored with
  | root certified => exact ⟨_, certified.read⟩
  | intermediate certified _ _ _ => exact ⟨_, certified.read⟩

/-- Every chain ends in a root that can be read. -/
theorem Anchored.exists_root (anchored : Anchored reader rcgen ca above) :
    ∃ root anchor, (ca.certifiedKey :: above).getLast? = some root ∧
      reader.read root.certDer = some anchor := by
  induction anchored with
  | root certified => exact ⟨_, _, rfl, certified.read⟩
  | intermediate _ _ _ _ induction =>
      obtain ⟨root, anchor, last, read⟩ := induction
      exact ⟨root, anchor, by rw [List.getLast?_cons_cons, last], read⟩

/-- The certificates of a chain name and sign each other. -/
theorem Anchored.isChain (anchored : Anchored reader rcgen ca above) :
    List.IsChain (fun child issuer => ∃ cert, reader.read issuer.certDer = some cert ∧
      reader.signed child.certDer cert = true) (ca.certifiedKey :: above) := by
  induction anchored with
  | root certified => exact .singleton _
  | intermediate certified _ _ anchored induction =>
      obtain ⟨issuer, read⟩ := anchored.exists_read
      exact List.isChain_cons_cons.mpr ⟨⟨_, read, certified.signed issuer⟩, induction⟩

/-- A certificate that no path length counts. -/
def CertificateReader.Uncounted (reader : CertificateReader) (certificate : CertifiedKey) : Prop :=
  ∃ cert, reader.read certificate.certDer = some cert ∧ reader.counts cert = false

/-- The path from a certificate to its root is valid unless a CA that counts stands below another
intermediate CA: all of them have path length 0. -/
theorem Anchored.path_iff {certDer : Bytes} {params : CertificateParams} {key : rcgen.Key}
    {anchor : Certificate} (anchored : Anchored reader rcgen ca above)
    (certified : reader.Certifies rcgen certDer params key ca.caParams.commonName ca.signer.2)
    (top : (ca.certifiedKey :: above).getLast? = some root)
    (read : reader.read root.certDer = some anchor) :
    reader.path anchor 0 certDer
        ((ca.certifiedKey :: above).dropLast.map CertifiedKey.certDer) = true ↔
      ∀ lower ∈ (ca.certifiedKey :: above).dropLast.dropLast, reader.Uncounted lower := by
  induction anchored generalizing certDer params key with
  | root self =>
      obtain rfl := Option.some.inj top
      obtain rfl := Option.some.inj (self.read.symm.trans read)
      exact iff_of_true (certified.signed _) nofun
  | @intermediate ca parent above self constrained usage parental induction =>
      have permitted : CertificateReader.mayIssue (.ofParams parent.caParams.commonName
          ca.caParams (rcgen.subjectPublicKeyInfo ca.signer.2)) 0 = true := by
        simp [CertificateReader.mayIssue, Certificate.ofParams, constrained, usage]
      have following := induction self (List.getLast?_cons_cons.symm.trans top)
      simp only [List.dropLast_cons_cons, List.map_cons, CertificateReader.path, self.read,
        certified.signed, permitted, Bool.true_and]
      cases parental with
      | root selfParent =>
          obtain rfl := Option.some.inj top
          obtain rfl := Option.some.inj (selfParent.read.symm.trans read)
          exact iff_of_true (self.signed _) nofun
      | @intermediate _ grandparent above selfParent constrainedParent _ _ =>
          rw [List.dropLast_cons_cons, List.dropLast_cons_cons, List.forall_mem_cons]
          cases counted : reader.counts (.ofParams parent.caParams.commonName ca.caParams
              (rcgen.subjectPublicKeyInfo ca.signer.2)) with
          | true =>
              -- A CA that counts stands below the parent, whose path length is 0.
              have refused : CertificateReader.mayIssue (.ofParams
                  grandparent.caParams.commonName parent.caParams
                  (rcgen.subjectPublicKeyInfo parent.signer.2)) 1 = false := by
                simp [CertificateReader.mayIssue, Certificate.ofParams, constrainedParent]
              refine iff_of_false ?_ ?_
              · simp [CertificateReader.path, selfParent.read, refused]
              · rintro ⟨⟨cert, readCa, uncounted⟩, -⟩
                obtain rfl := Option.some.inj (self.read.symm.trans readCa)
                rw [counted] at uncounted
                contradiction
          | false =>
              rw [and_iff_right ⟨_, self.read, counted⟩]
              exact following

/-- What a leaf is good for. -/
structure Issued.Serves (reader : CertificateReader) (rcgen : Rcgen) (request : LeafRequest)
    (issued : Issued rcgen.Key) : Prop where
  /-- The private key is the one that was drawn, and the certificate is for it. -/
  keyed : ∃ key cert, rcgen.generate request.alg request.random = .ok key ∧
    issued.certificate.pkcs8Der = rcgen.pkcs8Der key ∧
    reader.read issued.certificate.certDer = some cert ∧
    cert.subjectPki = rcgen.subjectPublicKeyInfo key
  /-- The certificates up to the root name and sign each other. -/
  linked : List.IsChain (fun child issuer => ∃ cert, reader.read issuer.certDer = some cert ∧
    reader.signed child.certDer cert = true) issued.chain
  /-- A peer that trusts the root takes the leaf for the names and the purpose of the call, unless a
  CA that counts stands below another intermediate CA. -/
  accepted : ∃ root sans, issued.issuers.getLast? = some root ∧
    request.subjectAltNames.mapM (sanType rcgen) = .ok sans ∧
    ∀ purpose name, reader.accepts root.certDer purpose name issued.certificate.certDer
        (issued.issuers.dropLast.map CertifiedKey.certDer) = true ↔
      purpose = request.purpose ∧ name ∈ sans ∧
        ∀ lower ∈ issued.issuers.dropLast.dropLast, reader.Uncounted lower
  /-- Where every CA counts, that is more than one intermediate CA. -/
  counted : (∀ cert, reader.counts cert = true) →
    ((∀ lower ∈ issued.issuers.dropLast.dropLast, reader.Uncounted lower) ↔
      issued.issuers.length ≤ 2)

theorem uncounted_iff_length_le (counted : ∀ cert, reader.counts cert = true)
    (issuers : List CertifiedKey) :
    (∀ lower ∈ issuers.dropLast.dropLast, reader.Uncounted lower) ↔ issuers.length ≤ 2 := by
  have never (lower : CertifiedKey) : ¬ reader.Uncounted lower := by
    rintro ⟨cert, -, uncounted⟩
    rw [counted] at uncounted
    contradiction
  constructor
  · intro uncounted
    have empty := List.eq_nil_iff_forall_not_mem.mpr fun lower mem =>
      never lower (uncounted lower mem)
    have short := congrArg List.length empty
    simp only [List.length_dropLast, List.length_nil] at short
    omega
  · intro short lower mem
    have nonempty := List.length_pos_of_mem mem
    simp only [List.length_dropLast] at nonempty
    omega

theorem serves_of_leafFor {request : LeafRequest} (anchored : Anchored reader rcgen ca above)
    (issued : LeafFor reader rcgen request leaf ca) :
    Issued.Serves reader rcgen request ⟨leaf, none, ca.certifiedKey :: above⟩ := by
  obtain ⟨key, params, drawn, pkcs8, certified, named, purposed⟩ := issued
  obtain ⟨issuer, readCa⟩ := anchored.exists_read
  obtain ⟨root, anchor, top, read⟩ := anchored.exists_root
  refine ⟨⟨key, _, drawn, pkcs8, certified.read, rfl⟩, ?_, ⟨root, _, top, named, ?_⟩,
    fun counted => uncounted_iff_length_le counted _⟩
  · exact List.isChain_cons_cons.mpr ⟨⟨_, readCa, certified.signed issuer⟩, anchored.isChain⟩
  · intro purpose name
    have valid := anchored.path_iff certified top read
    simp only [CertificateReader.accepts, read, certified.read, Certificate.ofParams,
      purposed, Bool.and_eq_true, List.contains_iff_mem, List.mem_singleton, valid, and_assoc]

/-- In every issuance, a leaf is accepted by those who trust its root for exactly the names and the
purpose that its call asked for, unless a CA that counts towards path lengths stands below another
intermediate CA. -/
theorem issued_leaves_validate (documented : reader.Documented rcgen) {calls : List IssueCall}
    {final : List (Issued rcgen.Key)} {call : IssueCall} {issued : Issued rcgen.Key}
    {request : LeafRequest} (executed : Execution.run (issue rcgen) [] calls = some final)
    (called : (call, issued) ∈ calls.zip final) (asked : call.leafRequest = some request) :
    issued.Serves reader rcgen request := by
  have answered : List.Forall₂ (Answers reader rcgen) ([] ++ calls) final :=
    Execution.forall₂_of_run (fun _ _ _ => answers_of_issue documented) .nil executed
  cases List.forall₂_zip answered called with
  | authority unasked _ =>
      rw [unasked] at asked
      contradiction
  | leaf requested anchored leafFor =>
      obtain rfl := Option.some.inj (requested.symm.trans asked)
      exact serves_of_leafFor anchored leafFor

/-- Certificates of a table, each with the key that signs it; a certificate is its position. -/
def written (table : List (Certificate × Bytes)) (entry : Certificate × Bytes) :
    Except String (Bytes × String) :=
  match table.findIdx? (· = entry) with
  | some position => .ok (List.replicate position 0, "")
  | none => .error "unknown certificate"

/-- An rcgen that writes the certificates of a table. -/
def tabled (table : List (Certificate × Bytes)) : Rcgen where
  Key := Bytes
  generate _ random := .ok random
  subjectPublicKeyInfo key := key
  pkcs8Der key := key
  parseIpAddr _ := none
  ia5String name := .ok name
  selfSigned params key := written table (.ofParams params.commonName params key, key)
  signedBy params child caParams issuer :=
    written table (.ofParams caParams.commonName params child, issuer)
  sha256 := unfailing.sha256

/-- A reader of the certificates of a table. -/
def tableReader (table : List (Certificate × Bytes)) : CertificateReader where
  read certDer := table[certDer.length]?.map Prod.fst
  verifies subjectPki certDer := table[certDer.length]?.map Prod.snd == some subjectPki
  counts _ := true

theorem tableReader_documented (table : List (Certificate × Bytes)) :
    (tableReader table).Documented (tabled table) := by
  have found : ∀ {entry certDer certPem}, written table entry = .ok (certDer, certPem) →
      table[certDer.length]? = some entry := by
    intro entry certDer certPem wrote
    unfold written at wrote
    split at wrote
    · next position located =>
        obtain ⟨rfl, -⟩ := Prod.mk.inj (Except.ok.inj wrote)
        obtain ⟨bound, same, -⟩ := List.findIdx?_eq_some_iff_getElem.mp located
        simpa [List.getElem?_eq_getElem bound] using same
    · contradiction
  constructor
  · intro params key certDer certPem signed
    constructor <;> simp [tableReader, tabled, found signed]
  · intro params child caParams issuer certDer certPem signed
    constructor <;> simp [tableReader, tabled, found signed]

/-- The certificates of a root, an intermediate CA below it and a leaf below that. -/
def threeCertificates : List (Certificate × Bytes) :=
  [(⟨"Root", "Root", [1], .ca .unconstrained, true, [], []⟩, [1]),
    (⟨"Root", "Intermediate", [2], .ca (.constrained 0), true, [], []⟩, [1]),
    (⟨"Intermediate", "localhost", [3], .noCa, false, [.serverAuth], [.dnsName "localhost"]⟩, [2])]

/-- The calls for these certificates. -/
def threeCalls : List IssueCall :=
  [.ca "Root" .ed25519 [1], .intermediateCa "Intermediate" .ed25519 [2] 0,
    .signedLeaf ["localhost"] .ed25519 [3] 1]

theorem issued_leaves_validate_threeCertificates :
    ∃ root intermediate leaf,
      Execution.run (issue (tabled threeCertificates)) [] threeCalls =
        some [root, intermediate, leaf] ∧
      (tableReader threeCertificates).accepts root.certificate.certDer .serverAuth
        (.dnsName "localhost") leaf.certificate.certDer [intermediate.certificate.certDer] =
          true := by
  refine ⟨_, _, _, rfl, ?_⟩
  have asked : (IssueCall.signedLeaf ["localhost"] .ed25519 [3] 1).leafRequest =
      some ⟨["localhost"], .ed25519, [3], .serverAuth⟩ := rfl
  have serves := issued_leaves_validate (tableReader_documented threeCertificates)
    (show Execution.run _ [] threeCalls = some [_, _, _] from rfl)
    (.tail _ (.tail _ (.head _))) asked
  obtain ⟨root, sans, top, named, accepted⟩ := serves.accepted
  obtain rfl := Option.some.inj top
  obtain rfl := Except.ok.inj named
  exact (accepted _ _).mpr ⟨rfl, List.mem_cons_self, nofun⟩

end OxiTls.Rcgen
