import OxiTls.Verifier.SctWire

/-!
# Soundness of the strict SCT policy

A log vouches for a certificate when its key verifies an embedded SCT over the RFC 6962
`precert_entry`.  The verifier counts such logs as long as the precert inputs can be reconstructed;
when they cannot, it checks the SCTs over the `x509_entry` of the whole certificate instead, and the
count is sound only if no embedded SCT happens to verify over that.
-/

namespace OxiTls

namespace Crates

variable (crates : Crates)

/-! ## Counted logs -/

/-- The first trusted log with the SCT's identifier verifies its signature. -/
def TrustedVerifies (logs : List CtLog) (signedData : ParsedSct → Bytes) (sct : ParsedSct) : Prop :=
  ∃ log, logs.find? (fun log => log.id == sct.logId) = some log ∧
    crates.verifySctSignature log (signedData sct) sct = .ok ()

theorem mem_seenLogs_iff (logs : List CtLog) (signedData : ParsedSct → Bytes)
    (seen : List Digest) (scts : List ParsedSct) (id : Digest) :
    id ∈ crates.seenLogs logs signedData seen scts ↔
      id ∈ seen ∨ ∃ sct ∈ scts, sct.logId = id ∧ crates.TrustedVerifies logs signedData sct := by
  induction scts generalizing seen with
  | nil => simp [seenLogs]
  | cons sct rest induction =>
      simp only [seenLogs, List.mem_cons, exists_eq_or_imp]
      split
      · rename_i counted
        rw [induction]
        grind
      · cases found : logs.find? fun log => log.id == sct.logId with
        | none =>
            have unverified : ¬ crates.TrustedVerifies logs signedData sct := by
              simp [TrustedVerifies, found]
            simp [induction, unverified]
        | some log =>
            cases checked : crates.verifySctSignature log (signedData sct) sct with
            | error e =>
                have unverified : ¬ crates.TrustedVerifies logs signedData sct := by
                  simp [TrustedVerifies, found, checked]
                simp [checked, induction, unverified]
            | ok _ =>
                have verified : crates.TrustedVerifies logs signedData sct :=
                  ⟨log, found, checked⟩
                have counted := induction (sct.logId :: seen)
                grind

theorem nodup_seenLogs (logs : List CtLog) (signedData : ParsedSct → Bytes) (seen : List Digest)
    (scts : List ParsedSct) (distinct : seen.Nodup) :
    (crates.seenLogs logs signedData seen scts).Nodup := by
  induction scts generalizing seen with
  | nil => exact distinct
  | cons sct rest induction =>
      simp only [seenLogs]
      split
      · exact induction seen distinct
      · rename_i uncounted
        split
        · exact induction seen distinct
        · split
          · exact induction _ (List.nodup_cons.mpr ⟨uncounted, distinct⟩)
          · exact induction seen distinct

theorem toNat_countTrustedVerified (scts : List ParsedSct) (logs : List CtLog) (leafDer : Bytes)
    (issuerDer : Option Bytes) :
    (crates.countTrustedVerified scts logs leafDer issuerDer).toNat =
      min (crates.seenLogs logs
        (sctSignedData leafDer (crates.precertInputs leafDer issuerDer)) [] scts).length 255 := by
  simp only [countTrustedVerified]
  refine UInt8.toNat_ofNat_of_lt' ?_
  simp only [UInt8.size]
  omega

/-! ## The precert entry -/

/-- The RFC 6962 signed input of a version-1 `precert_entry`. -/
def precertEntry (timestampMs : UInt64) (issuerKeyHash : Digest) (tbs extensions : Bytes) :
    Bytes :=
  [0x00, 0x00] ++ BigEndian.encode 8 timestampMs.toNat ++ [0x00, 0x01] ++
    issuerKeyHash.toList ++ BigEndian.encode 3 tbs.length ++ tbs ++
    BigEndian.encode 2 extensions.length ++ extensions

/-- The precert inputs of a leaf under an issuer: the hash of the issuer's key and the leaf's
to-be-signed part without its SCT list. -/
def PrecertInputs (leafDer issuerDer : Bytes) (issuerKeyHash : Digest) (tbs : Bytes) : Prop :=
  ∃ issuer leaf, crates.x509CertificateFromDer issuerDer = .ok issuer ∧
    issuerKeyHash = crates.sha256 issuer.publicKeyRaw ∧
    crates.certificateFromDer leafDer = .ok leaf ∧
    crates.tbsCertificateToDer leaf.tbsCertificate.withoutSctList = .ok tbs

theorem precertTbsAndIssuerHash_eq_ok_iff (leafDer issuerDer : Bytes) (issuerKeyHash : Digest)
    (tbs : Bytes) :
    crates.precertTbsAndIssuerHash leafDer issuerDer = .ok (issuerKeyHash, tbs) ↔
      crates.PrecertInputs leafDer issuerDer issuerKeyHash tbs := by
  simp only [precertTbsAndIssuerHash, Except.bind_eq_ok_iff, Except.mapError_eq_ok_iff,
    Except.pure_eq_ok_iff, Prod.mk.injEq, PrecertInputs]
  constructor
  · rintro ⟨issuer, issuer_parses, leaf, leaf_parses, _, encoded, rfl, rfl⟩
    exact ⟨issuer, leaf, issuer_parses, rfl, leaf_parses, encoded⟩
  · rintro ⟨issuer, leaf, issuer_parses, rfl, leaf_parses, encoded⟩
    exact ⟨issuer, issuer_parses, leaf, leaf_parses, tbs, encoded, rfl, rfl⟩

theorem precertInputs_eq_some_iff (leafDer : Bytes) (issuerDer : Option Bytes)
    (issuerKeyHash : Digest) (tbs : Bytes) :
    crates.precertInputs leafDer issuerDer = some (issuerKeyHash, tbs) ↔
      ∃ issuer, issuerDer = some issuer ∧
        crates.PrecertInputs leafDer issuer issuerKeyHash tbs := by
  cases issuerDer with
  | none => simp [precertInputs]
  | some issuer =>
      simp only [precertInputs, Option.bind_some, Option.some.injEq, exists_eq_left',
        ← precertTbsAndIssuerHash_eq_ok_iff]
      cases crates.precertTbsAndIssuerHash leafDer issuer <;> simp [Except.toOption]

end Crates

/-! ## Strict acceptance -/

namespace Crates

variable (crates : Crates)

/-- The SCTs embedded in a certificate, when the extension is present and parses. -/
def embeddedScts (leafDer : Bytes) : Option (List ParsedSct) :=
  (crates.extractSctExtension leafDer).bind fun value => (parseSctList value).toOption

theorem sctVersion_of_embeddedScts {leafDer : Bytes} {scts : List ParsedSct}
    (embedded : crates.embeddedScts leafDer = some scts) : ∀ sct ∈ scts, sct.sctVersion = 0 := by
  obtain ⟨value, _, parsed⟩ := Option.bind_eq_some_iff.mp embedded
  cases outcome : parseSctList value with
  | error e => simp [outcome, Except.toOption] at parsed
  | ok list =>
      obtain rfl : list = scts := by simpa [outcome, Except.toOption] using parsed
      exact fun sct listed => (representable_of_parseSctList outcome sct listed).version

/-- The precert inputs of a chain can be reconstructed from its first intermediate. -/
def Reconstructible (leafDer : Bytes) (intermediates : List Bytes) : Prop :=
  ∃ issuer issuerKeyHash tbs, intermediates.head? = some issuer ∧
    crates.PrecertInputs leafDer issuer issuerKeyHash tbs

/-- A trusted log vouches for a chain: it verifies an embedded SCT of its own over the
`precert_entry` of the leaf under the first intermediate. -/
def Vouches (logs : List CtLog) (leafDer : Bytes) (intermediates : List Bytes) (id : Digest) :
    Prop :=
  ∃ log ∈ logs, log.id = id ∧
    ∃ scts sct issuer issuerKeyHash tbs, crates.embeddedScts leafDer = some scts ∧
      sct ∈ scts ∧ sct.logId = id ∧
      intermediates.head? = some issuer ∧
      crates.PrecertInputs leafDer issuer issuerKeyHash tbs ∧
      crates.verifySctSignature log
        (precertEntry sct.timestampMs issuerKeyHash tbs sct.extensions) sct = .ok ()

/-- At least `count` distinct logs vouch for a chain. -/
def VouchedBy (logs : List CtLog) (leafDer : Bytes) (intermediates : List Bytes) (count : Nat) :
    Prop :=
  ∃ ids : List Digest, ids.Nodup ∧ count ≤ ids.length ∧
    ∀ id ∈ ids, crates.Vouches logs leafDer intermediates id

/-- No embedded SCT of a trusted log verifies over the `x509_entry` of the whole certificate. -/
def NoX509Entry (logs : List CtLog) (leafDer : Bytes) : Prop :=
  ∀ scts, crates.embeddedScts leafDer = some scts → ∀ sct ∈ scts,
    ¬ crates.TrustedVerifies logs (fun sct => buildSctSignedData sct leafDer) sct

/-- With reconstructed inputs, the bytes a parsed SCT is checked against are its precert entry. -/
theorem sctSignedData_eq_precertEntry {leafDer : Bytes} {issuerKeyHash : Digest} {tbs : Bytes}
    {sct : ParsedSct} (version : sct.sctVersion = 0) :
    sctSignedData leafDer (some (issuerKeyHash, tbs)) sct =
      precertEntry sct.timestampMs issuerKeyHash tbs sct.extensions := by
  simp [sctSignedData, buildSctSignedDataPrecert, precertEntry, version]

theorem precertInputs_eq_none {leafDer : Bytes} {intermediates : List Bytes}
    (lost : ¬ crates.Reconstructible leafDer intermediates) :
    crates.precertInputs leafDer intermediates.head? = none := by
  by_contra found
  obtain ⟨⟨issuerKeyHash, tbs⟩, inputs⟩ := Option.ne_none_iff_exists'.mp found
  obtain ⟨issuer, first, inputs⟩ := (crates.precertInputs_eq_some_iff _ _ _ _).mp inputs
  exact lost ⟨issuer, issuerKeyHash, tbs, first, inputs⟩

/-- Every log counted with reconstructed inputs vouches for the chain. -/
theorem vouches_of_mem_seenLogs {logs : List CtLog} {leafDer : Bytes} {intermediates : List Bytes}
    {scts : List ParsedSct} {id : Digest}
    (reconstructible : crates.Reconstructible leafDer intermediates)
    (embedded : crates.embeddedScts leafDer = some scts)
    (counted : id ∈ crates.seenLogs logs
      (sctSignedData leafDer (crates.precertInputs leafDer intermediates.head?)) [] scts) :
    crates.Vouches logs leafDer intermediates id := by
  obtain ⟨issuer, issuerKeyHash, tbs, first, inputs⟩ := reconstructible
  have found := (crates.precertInputs_eq_some_iff leafDer intermediates.head? _ _).mpr
    ⟨issuer, first, inputs⟩
  rw [crates.mem_seenLogs_iff, found] at counted
  obtain ⟨sct, member, rfl, log, trusted, verified⟩ := counted.resolve_left (by simp)
  rw [sctSignedData_eq_precertEntry (crates.sctVersion_of_embeddedScts embedded sct member)]
    at verified
  exact ⟨log, List.mem_of_find?_eq_some trusted, by simpa using List.find?_some trusted,
    scts, sct, issuer, issuerKeyHash, tbs, embedded, member, rfl, first, inputs, verified⟩

/-- Without precert inputs a log is counted exactly when it verifies an `x509_entry`. -/
theorem mem_seenLogs_of_lost {leafDer : Bytes} {intermediates : List Bytes}
    (lost : ¬ crates.Reconstructible leafDer intermediates) (logs : List CtLog)
    (scts : List ParsedSct) (id : Digest) :
    id ∈ crates.seenLogs logs
        (sctSignedData leafDer (crates.precertInputs leafDer intermediates.head?)) [] scts ↔
      ∃ sct ∈ scts, sct.logId = id ∧
        crates.TrustedVerifies logs (fun sct => buildSctSignedData sct leafDer) sct := by
  rw [crates.precertInputs_eq_none lost, crates.mem_seenLogs_iff]
  simp only [List.not_mem_nil, false_or]
  rfl

end Crates

namespace SctVerifier

variable (crates : Crates)

/-- A strict verifier accepts exactly when the embedded SCTs parse, enough distinct logs are
counted and the inner verifier accepts. -/
theorem strict_accepts_iff_counted (inner : ServerCertVerifier) (logs : List CtLog) (min : UInt8)
    (presented : Presented) :
    (toVerifier crates ⟨inner, .strict min, logs⟩).Accepts presented ↔
      inner.Accepts presented ∧ ∃ scts, crates.embeddedScts presented.endEntity = some scts ∧
        min.toNat ≤ (crates.seenLogs logs (Crates.sctSignedData presented.endEntity
          (crates.precertInputs presented.endEntity presented.intermediates.head?)) []
          scts).length := by
  have enough (scts : List ParsedSct) :
      min.toNat ≤ (crates.seenLogs logs (Crates.sctSignedData presented.endEntity
          (crates.precertInputs presented.endEntity presented.intermediates.head?)) []
          scts).length ↔
        ¬ crates.countTrustedVerified scts logs presented.endEntity
          presented.intermediates.head? < min := by
    have small := min.toNat_lt
    rw [UInt8.lt_iff_toNat_lt, crates.toNat_countTrustedVerified]
    omega
  simp only [ServerCertVerifier.Accepts, toVerifier, verifyServerCert, complaint,
    SctPolicy.isStrict, SctPolicy.minDistinctLogs, Crates.embeddedScts, reduceCtorEq, ↓reduceIte]
  cases crates.extractSctExtension presented.endEntity with
  | none => simp
  | some value =>
      cases parsed : parseSctList value with
      | error e => simp [Except.toOption, parsed]
      | ok scts =>
          simp only [Option.bind_some, parsed, Except.toOption, Option.some.injEq,
            exists_eq_left', enough]
          by_cases short : crates.countTrustedVerified scts logs presented.endEntity
              presented.intermediates.head? < min <;> simp [short]

/-- The strict policy fails closed on a chain: acceptance means that enough distinct logs vouch for
it, and nothing is counted when the precert inputs cannot be reconstructed. -/
def FailsClosed (logs : List CtLog) (leaf : Bytes) (intermediates : List Bytes) : Prop :=
  (∀ (inner : ServerCertVerifier) (min : UInt8) (serverName : String) (staple : Bytes) (now : Nat),
      (toVerifier crates ⟨inner, .strict min, logs⟩).Accepts
          ⟨leaf, intermediates, serverName, staple, now⟩ →
        inner.Accepts ⟨leaf, intermediates, serverName, staple, now⟩ ∧
          crates.VouchedBy logs leaf intermediates min.toNat) ∧
    (¬ crates.Reconstructible leaf intermediates →
      ∀ scts, crates.embeddedScts leaf = some scts →
        crates.countTrustedVerified scts logs leaf intermediates.head? = 0)

/-- The strict policy fails closed exactly when the precert inputs can be reconstructed or no
embedded SCT verifies as an `x509_entry`. -/
theorem failsClosed_iff (logs : List CtLog) (leaf : Bytes) (intermediates : List Bytes) :
    FailsClosed crates logs leaf intermediates ↔
      crates.Reconstructible leaf intermediates ∨ crates.NoX509Entry logs leaf := by
  constructor
  · rintro ⟨sound, _⟩
    by_contra neither
    obtain ⟨lost, exposed⟩ := not_or.mp neither
    simp only [Crates.NoX509Entry, not_forall, not_not] at exposed
    obtain ⟨scts, embedded, sct, member, verified⟩ := exposed
    have counted := (crates.mem_seenLogs_of_lost lost logs scts sct.logId).mpr
      ⟨sct, member, rfl, verified⟩
    have accepted := (strict_accepts_iff_counted crates .acceptAll logs 1
      ⟨leaf, intermediates, "", [], 0⟩).mpr
      ⟨rfl, scts, embedded, List.length_pos_of_mem counted⟩
    obtain ⟨_, ids, _, enough, vouched⟩ := sound _ _ _ _ _ accepted
    obtain ⟨id, member⟩ := List.exists_mem_of_length_pos (Nat.lt_of_lt_of_le Nat.one_pos enough)
    obtain ⟨_, _, _, _, _, issuer, issuerKeyHash, tbs, _, _, _, first, inputs, _⟩ :=
      vouched id member
    exact lost ⟨issuer, issuerKeyHash, tbs, first, inputs⟩
  · intro closed
    refine ⟨?_, ?_⟩
    · intro inner min serverName staple now accepted
      obtain ⟨inner_accepts, scts, embedded, enough⟩ :=
        (strict_accepts_iff_counted crates inner logs min _).mp accepted
      refine ⟨inner_accepts, _, crates.nodup_seenLogs logs _ [] scts List.nodup_nil, enough, ?_⟩
      intro id counted
      by_cases reconstructible : crates.Reconstructible leaf intermediates
      · exact crates.vouches_of_mem_seenLogs reconstructible embedded counted
      · obtain ⟨sct, member, _, verified⟩ :=
          (crates.mem_seenLogs_of_lost reconstructible logs scts id).mp counted
        exact absurd verified
          (closed.resolve_left reconstructible scts embedded sct member)
    · intro lost scts embedded
      have uncounted : crates.seenLogs logs (Crates.sctSignedData leaf
          (crates.precertInputs leaf intermediates.head?)) [] scts = [] := by
        refine List.eq_nil_iff_forall_not_mem.mpr fun id counted => ?_
        obtain ⟨sct, member, _, verified⟩ :=
          (crates.mem_seenLogs_of_lost lost logs scts id).mp counted
        exact closed.resolve_left lost scts embedded sct member verified
      simp [Crates.countTrustedVerified, uncounted]

/-! ## A leaf-only chain -/

/-- A log with the one-byte key 9. -/
def sampleLog : CtLog := ⟨Crates.inert.sha256 [9], [9], .ecdsaP256Sha256⟩

/-- An SCT of the sample log at time 0, signed over the `x509_entry` of the certificate `[1]`. -/
def x509Sct : Bytes :=
  [0] ++ sampleLog.id.toList ++ [0, 0, 0, 0, 0, 0, 0, 0] ++ [0, 0] ++ [4, 3] ++ [0, 19] ++
    [9, 0, 0, 0, 0, 0, 0, 0, 0, 0, 0, 0, 0, 0, 0, 1, 1, 0, 0]

/-- Crates that read the SCT from the certificate `[1]`.  A signature is the key followed by the
message. -/
def x509EntryCrates : Crates :=
  { Crates.inert with
    x509CertificateFromDer := fun der =>
      if der = [1] then
        .ok ⟨[⟨sctListOid, [4, 70, 0, 68, 0, 66] ++ x509Sct, .unparsed⟩], [12]⟩
      else .error "malformed certificate"
    spkiRefRawBytes := .ok
    p256 :=
      { verifyingKey := .ok
        signature := .ok
        verify := fun key message signature => signature == key ++ message } }

/-- A peer that presents the certificate without any intermediate. -/
def leafOnlyHandshake : Presented := ⟨[1], [], "leaf.example", [], 0⟩

/-- Without an intermediate the `x509_entry` signature is counted and the strict policy accepts. -/
theorem leafOnlyHandshake_accepted :
    (toVerifier x509EntryCrates ⟨.acceptAll, .strict 1, [sampleLog]⟩).Accepts leafOnlyHandshake ∧
      ¬ FailsClosed x509EntryCrates [sampleLog] leafOnlyHandshake.endEntity
        leafOnlyHandshake.intermediates := by
  have accepted : (toVerifier x509EntryCrates ⟨.acceptAll, .strict 1, [sampleLog]⟩).Accepts
      leafOnlyHandshake := by rfl
  refine ⟨accepted, fun closed => ?_⟩
  obtain ⟨_, ids, _, enough, vouched⟩ := closed.1 _ _ _ _ _ accepted
  obtain ⟨id, member⟩ := List.exists_mem_of_length_pos (Nat.lt_of_lt_of_le Nat.one_pos enough)
  obtain ⟨_, _, _, _, _, issuer, _, _, _, _, _, first, _⟩ := vouched id member
  simp [leafOnlyHandshake] at first

end SctVerifier

end OxiTls
