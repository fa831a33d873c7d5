import Mathlib.Data.List.Nodup
import OxiTls.Hpke.Suite
import OxiTls.Library.Execution

/-!
# Sealer and opener in step

Runs of a sealer context and of an opener context set up from one encapsulation.  Anything may be
offered to the opener; the only assumption is on the AEAD, that what opens under the key and a nonce
was sealed under them.  The two sequence numbers count the successful calls, so the message that
opens next is the next one that was sealed.
-/

namespace OxiTls

/-- One run of the AEAD by a sealer. -/
structure HpkeSealed where
  nonce : Bytes
  aad : Bytes
  plaintext : Bytes
  ciphertext : Bytes
  deriving DecidableEq, Repr

/-- The two contexts, what the AEAD has sealed, what the sealer has returned and what the opener has
returned. -/
structure HpkeExchange where
  sealer : HpkeCtx
  opener : HpkeCtx
  sealed : List HpkeSealed
  sent : List HpkeSealed
  opened : List Bytes
  deriving DecidableEq, Repr

/-- A call on one of the contexts. -/
inductive HpkeCall
  | sealPlaintext (aad plaintext : Bytes)
  | openCiphertext (aad ciphertext : Bytes)
  deriving DecidableEq, Repr

namespace HpkeExchange

variable (suite : AeadSuite)

/-- The contexts before any call. -/
def start (sealer opener : HpkeCtx) : HpkeExchange := ⟨sealer, opener, [], [], []⟩

/-- What a call to the sealer makes the AEAD seal. -/
def sealing (state : HpkeExchange) (aad plaintext : Bytes) : List HpkeSealed :=
  let nonce := computeNonce state.sealer.baseNonce state.sealer.seq
  match suite.sealPlaintext state.sealer.key nonce aad plaintext with
  | .ok ciphertext => [⟨nonce, aad, plaintext, ciphertext⟩]
  | .error _ => []

/-- One call; it is always possible. -/
def step (state : HpkeExchange) : HpkeCall → Option HpkeExchange
  | .sealPlaintext aad plaintext =>
      let nonce := computeNonce state.sealer.baseNonce state.sealer.seq
      let sealed := state.sealed ++ state.sealing suite aad plaintext
      match state.sealer.sealPlaintext suite aad plaintext with
      | (.ok ciphertext, sealer) =>
          some { state with
            sealer, sealed, sent := state.sent ++ [⟨nonce, aad, plaintext, ciphertext⟩] }
      | (.error _, sealer) => some { state with sealer, sealed }
  | .openCiphertext aad ciphertext =>
      match state.opener.openCiphertext suite aad ciphertext with
      | (.ok plaintext, opener) =>
          some { state with opener, opened := state.opened ++ [plaintext] }
      | (.error _, opener) => some { state with opener }

/-- What opens now was sealed under the same nonce and with the same associated data. -/
def Authentic (state : HpkeExchange) : HpkeCall → Prop
  | .sealPlaintext .. => True
  | .openCiphertext aad ciphertext => ∀ plaintext,
      let nonce := computeNonce state.opener.baseNonce state.opener.seq
      suite.openCiphertext state.opener.key nonce aad ciphertext = .ok plaintext →
        ∃ sealed ∈ state.sealed, sealed.nonce = nonce ∧ sealed.aad = aad ∧
          sealed.ciphertext = ciphertext

/-! ## What one call does -/

variable {suite} {state next : HpkeExchange} {aad plaintext ciphertext : Bytes}

/-- A call to the sealer fails without sealing, seals under the last nonce and fails, or seals and
returns the ciphertext. -/
theorem step_seal_cases (stepped : state.step suite (.sealPlaintext aad plaintext) = some next) :
    next = state ∨
      ∃ ciphertext, suite.sealPlaintext state.sealer.key
          (computeNonce state.sealer.baseNonce state.sealer.seq) aad plaintext = .ok ciphertext ∧
        let sealed : HpkeSealed :=
          ⟨computeNonce state.sealer.baseNonce state.sealer.seq, aad, plaintext, ciphertext⟩
        (state.sealer.seq.toNat + 1 = 2 ^ 64 ∧
            next = { state with sealed := state.sealed ++ [sealed] }) ∨
          state.sealer.seq.toNat + 1 < 2 ^ 64 ∧
            next = { state with
              sealer := { state.sealer with seq := state.sealer.seq + 1 }
              sealed := state.sealed ++ [sealed]
              sent := state.sent ++ [sealed] } := by
  simp only [step, sealing, HpkeCtx.sealPlaintext] at stepped
  rcases state.sealer.use_cases fun key nonce => suite.sealPlaintext key nonce aad plaintext with
    ⟨failure, ran, used⟩ | ⟨ciphertext, ran, last, used⟩ | ⟨ciphertext, ran, advances, used⟩
  · simp only [ran, used, List.append_nil, Option.some.injEq] at stepped
    exact .inl stepped.symm
  · simp only [ran, used, Option.some.injEq] at stepped
    exact .inr ⟨ciphertext, ran, .inl ⟨last, stepped.symm⟩⟩
  · simp only [ran, used, Option.some.injEq] at stepped
    exact .inr ⟨ciphertext, ran, .inr ⟨advances, stepped.symm⟩⟩

/-- A call to the opener fails, or opens and returns the plaintext. -/
theorem step_open_cases (stepped : state.step suite (.openCiphertext aad ciphertext) = some next) :
    next = state ∨
      ∃ plaintext, suite.openCiphertext state.opener.key
          (computeNonce state.opener.baseNonce state.opener.seq) aad ciphertext = .ok plaintext ∧
        state.opener.seq.toNat + 1 < 2 ^ 64 ∧
        next = { state with
          opener := { state.opener with seq := state.opener.seq + 1 }
          opened := state.opened ++ [plaintext] } := by
  simp only [step, HpkeCtx.openCiphertext] at stepped
  rcases state.opener.use_cases fun key nonce =>
      suite.openCiphertext key nonce aad ciphertext with
    ⟨failure, -, used⟩ | ⟨plaintext, -, -, used⟩ | ⟨plaintext, ran, advances, used⟩
  · simp only [used, Option.some.injEq] at stepped
    exact .inl stepped.symm
  · simp only [used, Option.some.injEq] at stepped
    exact .inl stepped.symm
  · simp only [used, Option.some.injEq] at stepped
    exact .inr ⟨plaintext, ran, advances, stepped.symm⟩

/-! ## The invariant -/

/-- The nonce of the message at a position. -/
def nonceAt (baseNonce : Vector UInt8 12) (index : Nat) : Bytes :=
  computeNonce baseNonce (UInt64.ofNat index)

/-- The nonce after which a context stops. -/
def lastNonce (baseNonce : Vector UInt8 12) : Bytes := nonceAt baseNonce (2 ^ 64 - 1)

/-- What ties the two contexts together: they share all but the sequence number, their sequence
numbers count what they have returned, the messages sent carry the nonces of their positions, and
the opener has returned the first of their plaintexts. -/
structure InStep (suite : AeadSuite) (key : Bytes) (baseNonce : Vector UInt8 12)
    (state : HpkeExchange) : Prop where
  sealer_key : state.sealer.key = key
  opener_key : state.opener.key = key
  sealer_baseNonce : state.sealer.baseNonce = baseNonce
  opener_baseNonce : state.opener.baseNonce = baseNonce
  suiteId_eq : state.opener.suiteId = state.sealer.suiteId
  exporterSecret_eq : state.opener.exporterSecret = state.sealer.exporterSecret
  sealer_seq : state.sealer.seq.toNat = state.sent.length
  opener_seq : state.opener.seq.toNat = state.opened.length
  nonces : state.sent.map HpkeSealed.nonce = (List.range state.sent.length).map (nonceAt baseNonce)
  genuine : ∀ sealed ∈ state.sent,
    suite.sealPlaintext key sealed.nonce sealed.aad sealed.plaintext = .ok sealed.ciphertext
  escaped : ∀ sealed ∈ state.sealed, sealed ∈ state.sent ∨ sealed.nonce = lastNonce baseNonce
  opened : state.opened <+: state.sent.map HpkeSealed.plaintext

theorem nonceAt_injective {baseNonce : Vector UInt8 12} {left right : Nat}
    (leftFits : left < 2 ^ 64) (rightFits : right < 2 ^ 64)
    (same : nonceAt baseNonce left = nonceAt baseNonce right) : left = right := by
  have counters := CounterNonce.counterNonce_injective baseNonce.length_toList same
  have numbers := congrArg UInt64.toNat counters
  rwa [UInt64.toNat_ofNat_of_lt' leftFits, UInt64.toNat_ofNat_of_lt' rightFits] at numbers

theorem computeNonce_eq_nonceAt (baseNonce : Vector UInt8 12) (seq : UInt64) :
    computeNonce baseNonce seq = nonceAt baseNonce seq.toNat := by
  rw [nonceAt, UInt64.ofNat_toNat]

theorem toNat_succ {seq : UInt64} (advances : seq.toNat + 1 < 2 ^ 64) :
    (seq + 1).toNat = seq.toNat + 1 := by
  rw [UInt64.toNat_add]
  exact Nat.mod_eq_of_lt advances

/-- A prefix grows by the element that follows it. -/
theorem prefix_concat {α : Type*} {former whole : List α} {item : α} (initial : former <+: whole)
    (follows : whole[former.length]? = some item) : former ++ [item] <+: whole := by
  obtain ⟨rest, rfl⟩ := initial
  rw [List.getElem?_append_right (Nat.le_refl _), Nat.sub_self] at follows
  cases rest with
  | nil => contradiction
  | cons first rest =>
      obtain rfl : first = item := Option.some.inj follows
      exact ⟨rest, by rw [List.append_assoc, List.singleton_append]⟩

variable {key : Bytes} {baseNonce : Vector UInt8 12}

namespace InStep

theorem opener_nonce (inStep : InStep suite key baseNonce state) :
    computeNonce state.opener.baseNonce state.opener.seq =
      nonceAt baseNonce state.opened.length := by
  rw [computeNonce_eq_nonceAt, inStep.opener_baseNonce, inStep.opener_seq]

theorem sealer_nonce (inStep : InStep suite key baseNonce state) :
    computeNonce state.sealer.baseNonce state.sealer.seq = nonceAt baseNonce state.sent.length := by
  rw [computeNonce_eq_nonceAt, inStep.sealer_baseNonce, inStep.sealer_seq]

theorem length_sent_lt (inStep : InStep suite key baseNonce state) :
    state.sent.length < 2 ^ 64 := by
  rw [← inStep.sealer_seq]
  exact state.sealer.seq.toNat_lt

theorem length_opened_lt (inStep : InStep suite key baseNonce state) :
    state.opened.length < 2 ^ 64 := by
  rw [← inStep.opener_seq]
  exact state.opener.seq.toNat_lt

theorem nonce_of_sent (inStep : InStep suite key baseNonce state) {index : Nat}
    {sealed : HpkeSealed} (located : state.sent[index]? = some sealed) :
    sealed.nonce = nonceAt baseNonce index := by
  obtain ⟨inside, -⟩ := List.getElem?_eq_some_iff.mp located
  have nonces := congrArg (fun list : List Bytes => list[index]?) inStep.nonces
  simp only [List.getElem?_map, located, List.getElem?_range inside, Option.map_some,
    Option.some.injEq] at nonces
  exact nonces

/-- What opens below the last nonce is the message that is next in order. -/
theorem next_of_opens (inStep : InStep suite key baseNonce state) (inverts : suite.Inverts)
    (opens : suite.openCiphertext state.opener.key
      (computeNonce state.opener.baseNonce state.opener.seq) aad ciphertext = .ok plaintext)
    (advances : state.opener.seq.toNat + 1 < 2 ^ 64)
    (authentic : state.Authentic suite (.openCiphertext aad ciphertext)) :
    ∃ sealed, state.sent[state.opened.length]? = some sealed ∧ sealed.plaintext = plaintext := by
  obtain ⟨sealed, member, nonce, rfl, rfl⟩ := authentic plaintext opens
  rw [inStep.opener_nonce] at nonce
  rcases inStep.escaped sealed member with sent | last
  · obtain ⟨index, located⟩ := List.mem_iff_getElem?.mp sent
    obtain ⟨inside, -⟩ := List.getElem?_eq_some_iff.mp located
    have position : index = state.opened.length :=
      nonceAt_injective (Nat.lt_trans inside inStep.length_sent_lt) inStep.length_opened_lt
        ((inStep.nonce_of_sent located).symm.trans nonce)
    have reopened := inverts _ _ _ _ _ (inStep.genuine sealed sent)
    rw [inStep.opener_nonce, inStep.opener_key, ← nonce, reopened] at opens
    exact ⟨sealed, position ▸ located, Except.ok.inj opens⟩
  · have limit : state.opened.length = 2 ^ 64 - 1 :=
      nonceAt_injective inStep.length_opened_lt (by decide) (nonce.symm.trans last)
    rw [inStep.opener_seq, limit] at advances
    contradiction

theorem step_seal (inStep : InStep suite key baseNonce state)
    (stepped : state.step suite (.sealPlaintext aad plaintext) = some next) :
    InStep suite key baseNonce next := by
  rcases step_seal_cases stepped with rfl | ⟨ciphertext, sealed, ⟨last, rfl⟩ | ⟨advances, rfl⟩⟩
  · exact inStep
  · refine { inStep with escaped := ?_ }
    intro sealed member
    rcases List.mem_append.mp member with earlier | latest
    · exact inStep.escaped sealed earlier
    · obtain rfl := List.mem_singleton.mp latest
      right
      have limit : state.sent.length = 2 ^ 64 - 1 := by
        rw [← inStep.sealer_seq]
        omega
      rw [lastNonce, ← limit]
      exact inStep.sealer_nonce
  · refine { inStep with
      sealer_seq := ?_, nonces := ?_, genuine := ?_, escaped := ?_, opened := ?_ }
    · rw [toNat_succ advances, inStep.sealer_seq, List.length_append, List.length_singleton]
    · rw [List.map_append, inStep.nonces, List.length_append, List.length_singleton,
        List.range_succ, List.map_append, List.map_singleton, List.map_singleton,
        inStep.sealer_nonce]
    · intro other member
      rcases List.mem_append.mp member with earlier | latest
      · exact inStep.genuine other earlier
      · obtain rfl := List.mem_singleton.mp latest
        rwa [inStep.sealer_key] at sealed
    · intro other member
      rcases List.mem_append.mp member with earlier | latest
      · exact (inStep.escaped other earlier).imp_left fun sent => List.mem_append_left _ sent
      · exact .inl (List.mem_append_right _ latest)
    · rw [List.map_append]
      exact inStep.opened.trans (List.prefix_append _ _)

theorem step_open (inStep : InStep suite key baseNonce state) (inverts : suite.Inverts)
    (authentic : state.Authentic suite (.openCiphertext aad ciphertext))
    (stepped : state.step suite (.openCiphertext aad ciphertext) = some next) :
    InStep suite key baseNonce next := by
  rcases step_open_cases stepped with rfl | ⟨plaintext, opens, advances, rfl⟩
  · exact inStep
  · obtain ⟨sealed, located, rfl⟩ := inStep.next_of_opens inverts opens advances authentic
    refine { inStep with opener_seq := ?_, opened := ?_ }
    · rw [toNat_succ advances, inStep.opener_seq, List.length_append, List.length_singleton]
    · refine prefix_concat inStep.opened ?_
      rw [List.getElem?_map, located]
      rfl

/-- The next message in order opens to its plaintext. -/
theorem opens_next (inStep : InStep suite key baseNonce state) (inverts : suite.Inverts)
    {sealed : HpkeSealed} (located : state.sent[state.opened.length]? = some sealed) :
    state.opener.openCiphertext suite sealed.aad sealed.ciphertext =
      (.ok sealed.plaintext, { state.opener with seq := state.opener.seq + 1 }) := by
  obtain ⟨inside, -⟩ := List.getElem?_eq_some_iff.mp located
  have opens : suite.openCiphertext state.opener.key
      (computeNonce state.opener.baseNonce state.opener.seq) sealed.aad sealed.ciphertext =
        .ok sealed.plaintext := by
    rw [inStep.opener_nonce, inStep.opener_key, ← inStep.nonce_of_sent located]
    exact inverts _ _ _ _ _ (inStep.genuine sealed (List.mem_of_getElem? located))
  have advances : state.opener.seq.toNat + 1 < 2 ^ 64 := by
    have bound := inStep.length_sent_lt
    rw [inStep.opener_seq]
    omega
  rcases state.opener.use_cases fun key nonce =>
      suite.openCiphertext key nonce sealed.aad sealed.ciphertext with
    ⟨failure, ran, -⟩ | ⟨plaintext, -, last, -⟩ | ⟨plaintext, ran, -, used⟩
  · rw [opens] at ran
    contradiction
  · omega
  · rw [opens] at ran
    rw [HpkeCtx.openCiphertext, used, Except.ok.inj ran]

theorem nodup_nonces (inStep : InStep suite key baseNonce state) :
    (state.sent.map HpkeSealed.nonce).Nodup := by
  rw [inStep.nonces]
  refine List.nodup_range.map_on fun left leftInside right rightInside same => ?_
  have bound := inStep.length_sent_lt
  exact nonceAt_injective (Nat.lt_trans (List.mem_range.mp leftInside) bound)
    (Nat.lt_trans (List.mem_range.mp rightInside) bound) same

theorem exportSecret_eq (inStep : InStep suite key baseNonce state) (hkdf : Hkdf)
    (exporterContext : Bytes) (len : Nat) :
    state.opener.exportSecret hkdf exporterContext len =
      state.sealer.exportSecret hkdf exporterContext len := by
  rw [HpkeCtx.exportSecret, HpkeCtx.exportSecret, inStep.suiteId_eq, inStep.exporterSecret_eq]

/-- Contexts with the same fields are in step before any call. -/
theorem start {ctx : HpkeCtx} (fresh : ctx.seq = 0) :
    InStep suite ctx.key ctx.baseNonce (HpkeExchange.start ctx ctx) where
  sealer_key := rfl
  opener_key := rfl
  sealer_baseNonce := rfl
  opener_baseNonce := rfl
  suiteId_eq := rfl
  exporterSecret_eq := rfl
  sealer_seq := congrArg UInt64.toNat fresh
  opener_seq := congrArg UInt64.toNat fresh
  nonces := rfl
  genuine _ member := absurd member List.not_mem_nil
  escaped _ member := absurd member List.not_mem_nil
  opened := List.nil_prefix

theorem of_run (inverts : suite.Inverts) {calls : List HpkeCall}
    (initial : InStep suite key baseNonce state)
    (authentic : Execution.Meets (step suite) (Authentic suite) state calls)
    (executed : Execution.run (step suite) state calls = some next) :
    InStep suite key baseNonce next := by
  refine Execution.invariant_of_meets (fun state call next inStep authentic stepped => ?_) initial
    authentic executed
  cases call with
  | sealPlaintext aad plaintext => exact inStep.step_seal stepped
  | openCiphertext aad ciphertext => exact inStep.step_open inverts authentic stepped

end InStep

end HpkeExchange

/-! ## Setting up and exporting -/

namespace HpkeCtx

/-- The first use of a context is the AEAD under the nonce of sequence number 0. -/
theorem use_fresh (key : Bytes) (baseNonce : Vector UInt8 12) (suiteId : Bytes)
    (exporterSecret : Digest) (aead : (key nonce : Bytes) → Except RustlsError Bytes) :
    ((⟨key, baseNonce, 0, suiteId, exporterSecret⟩ : HpkeCtx).use aead).1 =
      aead key (computeNonce baseNonce 0) := by
  rcases use_cases ⟨key, baseNonce, 0, suiteId, exporterSecret⟩ aead with
    ⟨failure, ran, used⟩ | ⟨answer, -, last, -⟩ | ⟨answer, ran, -, used⟩
  · rw [used, ← ran]
  · have last : (0 : UInt64).toNat + 1 = 2 ^ 64 := last
    exact absurd last (by decide)
  · rw [used, ← ran]

variable {hkdf : Hkdf} {ctx : HpkeCtx} {exporterContext : Bytes} {len : Nat}

theorem exportSecret_eq_ok (small : len ≤ maxL) :
    ∃ okm, okm.length = len ∧ ctx.exportSecret hkdf exporterContext len = .ok okm := by
  have expands : ∃ okm, labeledExpandChecked hkdf ctx.suiteId ctx.exporterSecret.toList
      (ascii "sec") exporterContext len = .ok okm :=
    labeledExpandChecked_eq_ok (Nat.le_of_eq ctx.exporterSecret.length_toList.symm) small
  obtain ⟨okm, expanded⟩ := expands
  exact ⟨okm.toList, okm.length_toList, by rw [exportSecret, expanded]; rfl⟩

theorem exportSecret_eq_error (large : len > maxL) :
    ∃ failure, ctx.exportSecret hkdf exporterContext len = .error failure := by
  obtain ⟨failure, refused⟩ := labeledExpandChecked_eq_error large
  exact ⟨failure, by rw [exportSecret, refused]; rfl⟩

end HpkeCtx

namespace HpkeSuiteImpl

variable {suite : HpkeSuiteImpl} {random info publicKey secretKey enc : Bytes} {sealer : HpkeCtx}

/-- The receiver sets up the context the sender has set up. -/
theorem setupReceiver_of_setupSender (agrees : suite.kem.Agrees publicKey secretKey)
    (setUp : suite.setupSender random info publicKey = .ok (enc, sealer)) :
    suite.setupReceiver enc info secretKey = .ok sealer ∧ sealer.seq = 0 := by
  simp only [setupSender, Except.bind_eq_ok_iff, Except.pure_eq_ok_iff] at setUp
  obtain ⟨⟨sharedSecret, enc'⟩, encapsulated, km, scheduled, same⟩ := setUp
  obtain ⟨rfl, rfl⟩ := Prod.mk.inj same
  refine ⟨?_, rfl⟩
  simp only [setupReceiver, Except.bind_eq_ok_iff, Except.pure_eq_ok_iff]
  exact ⟨sharedSecret, agrees random sharedSecret enc' encapsulated, km, scheduled, rfl⟩

/-- The one-shot `seal` is the first `seal` of a context. -/
theorem sealPlaintext_eq (random info aad plaintext publicKey : Bytes) :
    suite.sealPlaintext random info aad plaintext publicKey = (do
      let (enc, ctx) ← suite.setupSender random info publicKey
      let ct ← (ctx.sealPlaintext suite.aead aad plaintext).1
      pure (enc, ct)) := by
  simp only [sealPlaintext, setupSender, HpkeCtx.sealPlaintext, bind_assoc, pure_bind,
    HpkeCtx.use_fresh]

/-- The one-shot `open` is the first `open` of a context. -/
theorem openCiphertext_eq (enc info aad ciphertext secretKey : Bytes) :
    suite.openCiphertext enc info aad ciphertext secretKey = (do
      let ctx ← suite.setupReceiver enc info secretKey
      (ctx.openCiphertext suite.aead aad ciphertext).1) := by
  simp only [openCiphertext, setupReceiver, HpkeCtx.openCiphertext, bind_assoc, pure_bind,
    HpkeCtx.use_fresh]

/-- What is true of two contexts after any calls. -/
structure Synchronized (suite : HpkeSuiteImpl) (key : Bytes) (final : HpkeExchange) : Prop where
  /-- The sequence numbers count the successful calls. -/
  sealer_seq : final.sealer.seq.toNat = final.sent.length
  opener_seq : final.opener.seq.toNat = final.opened.length
  /-- The opener has returned the first plaintexts, and the next message opens. -/
  opened_eq : final.opened = (final.sent.take final.opened.length).map HpkeSealed.plaintext
  next_opens (sealed : HpkeSealed) : final.sent[final.opened.length]? = some sealed →
    (final.opener.openCiphertext suite.aead sealed.aad sealed.ciphertext).1 = .ok sealed.plaintext
  /-- A failing call changes nothing. -/
  seal_unchanged (aad plaintext : Bytes) (failure : RustlsError) :
    (final.sealer.sealPlaintext suite.aead aad plaintext).1 = .error failure →
      (final.sealer.sealPlaintext suite.aead aad plaintext).2 = final.sealer
  open_unchanged (aad ciphertext : Bytes) (failure : RustlsError) :
    (final.opener.openCiphertext suite.aead aad ciphertext).1 = .error failure →
      (final.opener.openCiphertext suite.aead aad ciphertext).2 = final.opener
  /-- The returned ciphertexts were sealed under different nonces. -/
  sealed_under (sealed : HpkeSealed) : sealed ∈ final.sent → suite.aead.sealPlaintext key
    sealed.nonce sealed.aad sealed.plaintext = .ok sealed.ciphertext
  nonces_differ : (final.sent.map HpkeSealed.nonce).Nodup
  /-- Both contexts export the same secrets. -/
  exports (exporterContext : Bytes) (len : Nat) : len ≤ 8160 → ∃ okm, okm.length = len ∧
    final.sealer.exportSecret suite.hkdf exporterContext len = .ok okm ∧
    final.opener.exportSecret suite.hkdf exporterContext len = .ok okm
  export_fails (exporterContext : Bytes) (len : Nat) : 8160 < len →
    (∃ failure, final.sealer.exportSecret suite.hkdf exporterContext len = .error failure) ∧
      ∃ failure, final.opener.exportSecret suite.hkdf exporterContext len = .error failure

theorem synchronized_of_inStep {key : Bytes} {baseNonce : Vector UInt8 12} {final : HpkeExchange}
    (inverts : suite.aead.Inverts)
    (inStep : HpkeExchange.InStep suite.aead key baseNonce final) :
    suite.Synchronized key final where
  sealer_seq := inStep.sealer_seq
  opener_seq := inStep.opener_seq
  opened_eq := by
    rw [List.map_take]
    exact List.prefix_iff_eq_take.mp inStep.opened
  next_opens sealed located := by rw [inStep.opens_next inverts located]
  seal_unchanged _ _ _ failed := HpkeCtx.use_unchanged failed
  open_unchanged _ _ _ failed := HpkeCtx.use_unchanged failed
  sealed_under := inStep.genuine
  nonces_differ := inStep.nodup_nonces
  exports exporterContext len small := by
    obtain ⟨okm, length, exported⟩ := HpkeCtx.exportSecret_eq_ok small
    exact ⟨okm, length, exported, (inStep.exportSecret_eq _ _ _).trans exported⟩
  export_fails exporterContext len large :=
    ⟨HpkeCtx.exportSecret_eq_error large, HpkeCtx.exportSecret_eq_error large⟩

/-- For every suite and key pair: the one-shot functions are the first calls of fresh contexts, and
a sealer and the opener set up from its encapsulation stay synchronized in every run of calls. -/
theorem contexts_synchronized (hkdf : Hkdf) (kem : DhKem) (ciphers : RustCrypto) (aead : HpkeAead)
    (publicKey secretKey : Bytes) (agrees : kem.Agrees publicKey secretKey) :
    let suite : HpkeSuiteImpl := ⟨hkdf, kem, aead.suite ciphers⟩
    (∀ random info aad plaintext,
        suite.sealPlaintext random info aad plaintext publicKey = (do
          let (enc, ctx) ← suite.setupSender random info publicKey
          let ct ← (ctx.sealPlaintext suite.aead aad plaintext).1
          pure (enc, ct))) ∧
      (∀ enc info aad ciphertext,
        suite.openCiphertext enc info aad ciphertext secretKey = (do
          let ctx ← suite.setupReceiver enc info secretKey
          (ctx.openCiphertext suite.aead aad ciphertext).1)) ∧
      ∀ random info enc sealer, suite.setupSender random info publicKey = .ok (enc, sealer) →
        ∃ opener, suite.setupReceiver enc info secretKey = .ok opener ∧
          ∀ calls final,
            Execution.Meets (HpkeExchange.step suite.aead) (HpkeExchange.Authentic suite.aead)
              (.start sealer opener) calls →
            Execution.run (HpkeExchange.step suite.aead) (.start sealer opener) calls =
              some final →
            suite.Synchronized sealer.key final := by
  intro suite
  have inverts : suite.aead.Inverts := aead.suite_inverts ciphers
  refine ⟨fun random info aad plaintext => sealPlaintext_eq .., fun enc info aad ciphertext =>
    openCiphertext_eq .., fun random info enc sealer setUp => ?_⟩
  obtain ⟨received, fresh⟩ := setupReceiver_of_setupSender agrees setUp
  refine ⟨sealer, received, fun calls final authentic executed => ?_⟩
  exact synchronized_of_inStep inverts
    (HpkeExchange.InStep.of_run inverts (HpkeExchange.InStep.start fresh) authentic executed)

/-- An HKDF that repeats the first byte of the salt or of the key. -/
def miniatureHkdf : Hkdf where
  extract salt _ := Vector.replicate 32 (salt.headD 0)
  expand prk _ length := some (Vector.replicate length (prk.headD 0))
  expands _ _ _ _ _ := rfl

/-- A KEM whose encapsulation is the randomness and whose secret adds the first byte of the key. -/
def miniatureKem : DhKem where
  kemId := 0x0020
  encap random pkR := .ok (Vector.replicate 32 (random.headD 0 + pkR.headD 0), random)
  decap skR enc := .ok (Vector.replicate 32 (enc.headD 0 + skR.headD 0))

/-- A suite over the miniatures. -/
def miniatureSuite : HpkeSuiteImpl where
  hkdf := miniatureHkdf
  kem := miniatureKem
  aead := HpkeAead.aes128Gcm.suite ⟨miniatureCipher 16, miniatureCipher 32, miniatureCipher 32⟩

/-- Its context for one key pair and one encapsulation. -/
def miniatureContext : HpkeCtx where
  key := List.replicate 16 12
  baseNonce := Vector.replicate 12 12
  seq := 0
  suiteId := miniatureSuite.suiteId
  exporterSecret := Vector.replicate 32 12

/-- A message sealed in the context. -/
def miniatureSealed : HpkeSealed :=
  ⟨List.replicate 12 12, [1], [2, 3], [83, 82] ++ List.replicate 16 81⟩

/-- The contexts after the message was sealed. -/
def miniatureExchange : HpkeExchange where
  sealer := { miniatureContext with seq := 1 }
  opener := miniatureContext
  sealed := [miniatureSealed]
  sent := [miniatureSealed]
  opened := []

/-- The message is sealed; a forgery and then the message are offered to the opener. -/
theorem contexts_synchronized_miniature :
    ∃ final, Execution.run (HpkeExchange.step miniatureSuite.aead)
        (.start miniatureContext miniatureContext)
        [.sealPlaintext [1] [2, 3], .openCiphertext [1] [4],
          .openCiphertext [1] miniatureSealed.ciphertext] = some final ∧
      final.opened = [[2, 3]] ∧ miniatureSuite.Synchronized miniatureContext.key final := by
  obtain ⟨-, -, runs⟩ := contexts_synchronized miniatureHkdf miniatureKem
    ⟨miniatureCipher 16, miniatureCipher 32, miniatureCipher 32⟩ .aes128Gcm [7] [7]
    fun random sharedSecret enc encapsulated => by
      obtain ⟨rfl, rfl⟩ := Prod.mk.inj (Except.ok.inj encapsulated)
      rfl
  obtain ⟨opener, received, synchronized⟩ := runs [5] [] [5] miniatureContext rfl
  obtain rfl : miniatureContext = opener := Except.ok.inj received
  have first : HpkeExchange.step miniatureSuite.aead (.start miniatureContext miniatureContext)
      (.sealPlaintext [1] [2, 3]) = some miniatureExchange := by decide +kernel
  have second : HpkeExchange.step miniatureSuite.aead miniatureExchange (.openCiphertext [1] [4]) =
      some miniatureExchange := by decide +kernel
  have third : HpkeExchange.step miniatureSuite.aead miniatureExchange
      (.openCiphertext [1] miniatureSealed.ciphertext) =
      some { miniatureExchange with
        opener := { miniatureContext with seq := 1 }
        opened := [[2, 3]] } := by decide +kernel
  have executed := Execution.run_cons_eq_some_iff.mpr ⟨_, first,
    Execution.run_cons_eq_some_iff.mpr ⟨_, second,
      Execution.run_cons_eq_some_iff.mpr ⟨_, third, Execution.run_nil _⟩⟩⟩
  refine ⟨_, executed, rfl, synchronized _ _ ?_ executed⟩
  refine ⟨trivial, fun next stepped => ?_⟩
  obtain rfl := Option.some.inj (first.symm.trans stepped)
  refine ⟨fun plaintext opens => by contradiction, fun next stepped => ?_⟩
  obtain rfl := Option.some.inj (second.symm.trans stepped)
  refine ⟨fun plaintext _ => ⟨miniatureSealed, ?_, ?_, rfl, rfl⟩, fun _ _ => trivial⟩
  · exact List.mem_singleton.mpr rfl
  · decide +kernel

end HpkeSuiteImpl

end OxiTls
