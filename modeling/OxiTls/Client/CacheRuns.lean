import OxiTls.Client.Options
import OxiTls.Roots.IntermediateCache

/-!
# What clients put into a shared cache

Several clients may share one intermediate cache, which other code may use as well.  The checks of a
client run before its chain reaches the cache, so a handshake that is refused for any reason leaves
the cache alone, and whatever the cache holds was vouched for by a whole stack of checks or was
inserted directly.
-/

namespace OxiTls

open IntermediateCertCache (Operation Run runOf)

namespace RustcryptoClientConfigBuilder

variable {platform : Platform} {builder : RustcryptoClientConfigBuilder}

/-- The base verifiers record nothing. -/
theorem baseVerifier_recorded {base : ServerCertVerifier}
    (built : builder.baseVerifier platform = .ok base) (presented : Presented) :
    (base.verifyServerCert presented).recorded = [] := by
  unfold baseVerifier at built
  split_ifs at built
  · simp only [Except.bind_eq_ok_iff, Except.mapError_eq_ok_iff, Platform.buildWebpki_eq_ok_iff,
      Except.pure_eq_ok_iff] at built
    obtain ⟨_, ⟨_, _, rfl⟩, rfl⟩ := built
    simp only [CertPinVerifier.toVerifier, CertPinVerifier.verifyServerCert]
    split_ifs <;> rfl
  · simp only [Platform.crlAwareServerVerifier, Except.mapError_eq_ok_iff,
      Platform.buildWebpki_eq_ok_iff] at built
    obtain ⟨_, _, rfl⟩ := built
    rfl
  · simp only [Except.mapError_eq_ok_iff, Platform.buildWebpki_eq_ok_iff] at built
    obtain ⟨_, _, rfl⟩ := built
    rfl

/-- A wrapper refuses by itself, recording nothing, or leaves the handshake to the one inside. -/
def RefusesOrDelegates (outer inner : ServerCertVerifier) (presented : Presented) : Prop :=
  (∃ error, outer.verifyServerCert presented = .refuse error) ∨
    outer.verifyServerCert presented = inner.verifyServerCert presented

variable (platform builder) in
theorem ocspVerifier_refusesOrDelegates (inner : ServerCertVerifier) (presented : Presented) :
    RefusesOrDelegates (builder.ocspVerifier platform inner) inner presented := by
  unfold ocspVerifier
  split
  · split_ifs
    · simp only [RefusesOrDelegates, OcspClientVerifier.toVerifier,
        OcspClientVerifier.verifyServerCert]
      split_ifs
      · exact .inr rfl
      · split
        · next error _ => exact .inl ⟨error, rfl⟩
        · exact .inr rfl
    · exact .inr rfl
  · exact .inr rfl

variable (platform builder) in
theorem sctVerifier_refusesOrDelegates (inner : ServerCertVerifier) (presented : Presented) :
    RefusesOrDelegates (builder.sctVerifier platform inner) inner presented := by
  unfold sctVerifier
  split
  · exact .inr rfl
  · exact .inr rfl
  · simp only [RefusesOrDelegates, SctVerifier.toVerifier, SctVerifier.verifyServerCert]
    split_ifs
    · exact .inr rfl
    · split
      · exact .inl ⟨_, rfl⟩
      · exact .inr rfl
    · split
      · exact .inr rfl
      · exact .inr rfl

/-- What a verifier records of a handshake: the chain that it accepts, for its cache, and nothing
otherwise. -/
inductive Records (verifier : ServerCertVerifier) (cache : Option CacheHandle)
    (presented : Presented) : Prop
  | chain {handle : CacheHandle} (accepts : verifier.Accepts presented)
      (configured : cache = some handle)
      (recorded : (verifier.verifyServerCert presented).recorded =
        presented.intermediates.map (handle, ·))
  | refused (refuses : ¬ verifier.Accepts presented)
      (recorded : (verifier.verifyServerCert presented).recorded = [])
  | uncached (unset : cache = none)
      (recorded : (verifier.verifyServerCert presented).recorded = [])

/-- A wrapper that refuses by itself or delegates records what the one inside records. -/
theorem Records.of_refusesOrDelegates {outer inner : ServerCertVerifier}
    {cache : Option CacheHandle} {presented : Presented}
    (wraps : RefusesOrDelegates outer inner presented) (records : Records inner cache presented) :
    Records outer cache presented := by
  rcases wraps with ⟨error, refused⟩ | delegated
  · refine .refused ?_ (by rw [refused]; rfl)
    simp [ServerCertVerifier.Accepts, refused]
  · have accepts : outer.Accepts presented ↔ inner.Accepts presented := by
      rw [ServerCertVerifier.Accepts, delegated]
      rfl
    cases records with
    | chain accepted configured recorded =>
        exact .chain (accepts.mpr accepted) configured (delegated ▸ recorded)
    | refused refuses recorded => exact .refused (accepts.not.mpr refuses) (delegated ▸ recorded)
    | uncached unset recorded => exact .uncached unset (delegated ▸ recorded)

theorem records_stack {base : ServerCertVerifier}
    (built : builder.baseVerifier platform = .ok base) (presented : Presented) :
    Records (builder.stack platform base) builder.intermediateCache presented := by
  refine .of_refusesOrDelegates (sctVerifier_refusesOrDelegates platform builder _ presented)
    (.of_refusesOrDelegates (ocspVerifier_refusesOrDelegates platform builder _ presented) ?_)
  have silent := baseVerifier_recorded built presented
  cases cached : builder.intermediateCache with
  | none =>
      rw [cacheVerifier, cached]
      exact .uncached rfl silent
  | some handle =>
      rw [cacheVerifier, cached]
      cases answer : (base.verifyServerCert presented).result with
      | error error =>
          refine .refused ?_ ?_
          · rw [CachingVerifier.accepts_iff, ServerCertVerifier.Accepts, answer]
            simp
          · simp [CachingVerifier.toVerifier, CachingVerifier.verifyServerCert, answer, silent]
      | ok =>
          refine .chain ?_ rfl ?_
          · rw [CachingVerifier.accepts_iff]
            exact answer
          · simp [CachingVerifier.toVerifier, CachingVerifier.verifyServerCert, answer, silent]

end RustcryptoClientConfigBuilder

open RustcryptoClientConfigBuilder (Records)

/-! ## Clients -/

/-- A client with the builder that its configuration was built by: the builder of `oxitls`, or the
builder of the adapter directly. -/
inductive BuiltClient (platform : Platform)
  | client (builder : ClientBuilder) (config : ClientConfig)
      (built : builder.build platform = .ok config)
  | adapter (builder : RustcryptoClientConfigBuilder) (config : ClientConfig)
      (built : builder.build platform = .ok config)

namespace BuiltClient

variable {platform : Platform}

def config : BuiltClient platform → ClientConfig
  | .client _ config _ => config
  | .adapter _ config _ => config

/-- The cache that the builder was given. -/
def intermediateCache : BuiltClient platform → Option CacheHandle
  | .client builder _ _ => builder.intermediateCache
  | .adapter builder _ _ => builder.intermediateCache

/-- The client verifies servers with the stack of the adapter. -/
def TakesAdapter : BuiltClient platform → Prop
  | .client builder _ _ => builder.TakesAdapter
  | .adapter _ _ _ => True

variable (client : BuiltClient platform)

/-- The client accepts the server. -/
def Accepts (presented : Presented) : Prop := client.config.verifier.Accepts presented

/-- What the client's verifier offers to caches in a handshake. -/
def recorded (presented : Presented) : List (CacheHandle × Bytes) :=
  (client.config.verifier.verifyServerCert presented).recorded

/-- A client records nothing, or it verifies servers with the stack of the adapter. -/
theorem recorded_eq_nil_or_records (presented : Presented) :
    (¬ client.TakesAdapter ∧ client.recorded presented = []) ∨
      Records client.config.verifier client.intermediateCache presented := by
  cases client with
  | adapter builder config built =>
      obtain ⟨base, based, -, rfl⟩ :=
        (RustcryptoClientConfigBuilder.build_eq_ok_iff platform builder).mp built
      exact .inr (RustcryptoClientConfigBuilder.records_stack based presented)
  | client builder config built =>
      unfold recorded TakesAdapter
      cases ClientBuilder.built_of_build built with
      | rawPublicKeys keys =>
          refine .inl ⟨fun taken => by simp [taken.1] at keys, ?_⟩
          simp only [BuiltClient.config, ClientBuilder.assembled,
            RawPublicKeyServerVerifier.toVerifier, RawPublicKeyServerVerifier.verifyServerCert]
          split_ifs <;> rfl
      | dangerCerts keys flag => exact .inl ⟨fun taken => by simp [taken.2.1] at flag, rfl⟩
      | dangerHostnames keys checked flag rooted =>
          refine .inl ⟨fun taken => by simp [taken.2.2.1] at flag, ?_⟩
          simp only [BuiltClient.config, ClientBuilder.finished, ClientBuilder.assembled,
            DangerHostnameIgnoreVerifier.toVerifier,
            DangerHostnameIgnoreVerifier.verifyServerCert]
          split
          · rfl
          · split_ifs <;> rfl
      | adapter keys checked named used rooted based =>
          exact .inr (RustcryptoClientConfigBuilder.records_stack based presented)
      | plain keys checked named unused rooted =>
          exact .inl ⟨fun taken => by simp [taken.2.2.2] at unused, rfl⟩

/-- A client records the chain of an accepted handshake, for its cache, or nothing. -/
theorem recorded_cases (presented : Presented) :
    client.recorded presented = [] ∨
      client.Accepts presented ∧ ∃ cache, client.intermediateCache = some cache ∧
        client.recorded presented = presented.intermediates.map (cache, ·) := by
  rcases client.recorded_eq_nil_or_records presented with ⟨-, nothing⟩ | records
  · exact .inl nothing
  · cases records with
    | chain accepts configured recorded => exact .inr ⟨accepts, _, configured, recorded⟩
    | refused _ nothing => exact .inl nothing
    | uncached _ nothing => exact .inl nothing

/-- A client that takes the adapter path records the whole chain of every accepted handshake. -/
theorem recorded_of_accepts (adapted : client.TakesAdapter) {cache : CacheHandle}
    (configured : client.intermediateCache = some cache) {presented : Presented}
    (accepts : client.Accepts presented) :
    client.recorded presented = presented.intermediates.map (cache, ·) := by
  rcases client.recorded_eq_nil_or_records presented with ⟨untaken, -⟩ | records
  · exact absurd adapted untaken
  · cases records with
    | chain _ other recorded =>
        obtain rfl := Option.some.inj (configured.symm.trans other)
        exact recorded
    | refused refuses _ => exact absurd accepts refuses
    | uncached unset _ => exact nomatch configured.symm.trans unset

end BuiltClient

/-! ## Runs of a shared cache -/

namespace IntermediateCertCache

variable {sha256 : Bytes → Digest}

/-- Every cached certificate was inserted. -/
theorem inserted_of_mem {capacity : NonZeroUsize} {operations : List Operation}
    {entry : Digest × Bytes}
    (member : entry ∈ (runOf sha256 capacity operations).cache.inner.entries) :
    .insert entry.2 ∈ operations := by
  let Kept (run : Run) : Prop := run.cache.poisoned = false ∧
    ∀ entry ∈ run.cache.inner.entries, .insert entry.2 ∈ operations
  suffices kept : Kept (runOf sha256 capacity operations) from kept.2 entry member
  rw [runOf, Run.performAll]
  refine List.foldlRecOn operations (Run.perform sha256) ⟨rfl, fun _ found => ?_⟩ ?_
  · cases found
  rintro run ⟨unpoisoned, inserted⟩ operation performed
  rw [Run.perform]
  rcases call_cases sha256 unpoisoned operation with
    ⟨cert, rfl, called⟩ | ⟨fingerprint, cert, rfl, found, called⟩ | ⟨rfl, called⟩ |
      ⟨answer, -, called, -⟩
  · rw [called]
    refine ⟨unpoisoned, fun entry stored => ?_⟩
    rcases Lru.mem_put stored with rfl | earlier
    · exact performed
    · exact inserted entry earlier
  · rw [called]
    refine ⟨unpoisoned, fun entry stored => ?_⟩
    rcases Lru.mem_put stored with rfl | earlier
    · exact inserted _ (Lru.mem_of_peek found)
    · exact inserted entry earlier
  · rw [called]
    refine ⟨unpoisoned, fun entry stored => ?_⟩
    cases stored
  · rw [called]
    exact ⟨unpoisoned, inserted⟩

/-- Inserting certificates in turn uses their fingerprints in turn. -/
theorem recency_inserts {run : Run} (unpoisoned : run.cache.poisoned = false)
    (certs : List Bytes) :
    recency sha256 (run.performAll sha256 (certs.map .insert)).history =
      (certs.map sha256).foldl Recency.use (recency sha256 run.history) := by
  induction certs generalizing run with
  | nil => rfl
  | cons cert certs induction =>
      have performed : run.perform sha256 (.insert cert) =
          ⟨{ run.cache with inner := run.cache.inner.put (sha256 cert) cert },
            run.history ++ [⟨.insert cert, .ok (.fingerprint (sha256 cert))⟩]⟩ := by
        rw [Run.perform, call, insert, lock_eq_ok unpoisoned]
        rfl
      have used : recency sha256
          (run.history ++ [⟨.insert cert, .ok (.fingerprint (sha256 cert))⟩]) =
            Recency.use (recency sha256 run.history) (sha256 cert) :=
        recency_append_used rfl rfl
      rw [List.map_cons, List.map_cons, List.foldl_cons, Run.performAll, List.foldl_cons,
        ← Run.performAll, performed, ← used]
      exact induction unpoisoned

/-- Certificates that fit into the cache are all there right after they were inserted. -/
theorem contains_of_inserts {capacity : NonZeroUsize} (operations : List Operation)
    {certs : List Bytes} (fits : certs.length ≤ capacity.1) {cert : Bytes} (member : cert ∈ certs) :
    (runOf sha256 capacity (operations ++ certs.map .insert)).cache.contains (sha256 cert) =
      .ok true := by
  have faithful : Faithful sha256 capacity.1 _ :=
    faithful_runOf capacity (operations ++ certs.map .insert)
  have before : Faithful sha256 capacity.1 _ := faithful_runOf capacity operations
  have history : recency sha256
      (runOf sha256 capacity (operations ++ certs.map .insert)).history =
        (certs.map sha256).foldl Recency.use
          (recency sha256 (runOf sha256 capacity operations).history) := by
    rw [← recency_inserts before.unpoisoned certs]
    simp only [runOf, Run.performAll, List.foldl_append]
  have recent := Recency.mem_take_foldl_use
    (recency sha256 (runOf sha256 capacity operations).history)
    (List.mem_map_of_mem (f := sha256) member)
  rw [contains_eq_ok faithful.unpoisoned, Lru.isSome_peek_iff.mpr]
  change sha256 cert ∈ fingerprints _
  rw [faithful.fingerprints_eq, history]
  rw [List.length_map] at recent
  exact (List.take_subset_take_left _ fits) recent

end IntermediateCertCache

/-- What happens to a cache: a client that shares it verifies a server, or a method is called. -/
inductive CacheEvent (platform : Platform)
  | handshake (client : BuiltClient platform) (presented : Presented)
  | operation (call : Operation)

variable {platform : Platform}

/-- The calls that an event makes on the cache of a handle; a client ignores what they return. -/
def CacheEvent.operations (handle : CacheHandle) : CacheEvent platform → List Operation
  | .handshake client presented =>
      ((client.recorded presented).filter (·.1 = handle)).map fun entry => .insert entry.2
  | .operation call => [call]

/-- The cache after the events, starting from a new one. -/
def cacheAfter (sha256 : Bytes → Digest) (handle : CacheHandle) (capacity : NonZeroUsize)
    (events : List (CacheEvent platform)) : IntermediateCertCache :=
  (runOf sha256 capacity (events.flatMap (CacheEvent.operations handle))).cache

/-- A handshake inserts the certificates of a chain that its client has accepted. -/
theorem CacheEvent.insert_mem_operations {handle : CacheHandle} {client : BuiltClient platform}
    {presented : Presented} {cert : Bytes}
    (inserts : .insert cert ∈ (CacheEvent.handshake client presented).operations handle) :
    client.Accepts presented ∧ client.intermediateCache = some handle ∧
      cert ∈ presented.intermediates := by
  simp only [operations, List.mem_map, List.mem_filter, decide_eq_true_eq] at inserts
  obtain ⟨⟨_, _⟩, ⟨offered, rfl⟩, ⟨⟩⟩ := inserts
  rcases client.recorded_cases presented with nothing | ⟨accepts, cache, configured, all⟩
  · rw [nothing] at offered
    cases offered
  · rw [all, List.mem_map] at offered
    obtain ⟨cert, member, ⟨⟩⟩ := offered
    exact ⟨accepts, configured, member⟩

/-- After any interleaving of handshakes of clients that share a cache with calls on it: a cached
certificate was inserted by a call, or is an intermediate of a chain that a client of the cache has
accepted; a refused handshake leaves the cache as it was; and the chain of a handshake that a client
of the adapter path has just accepted is cached, if it fits. -/
theorem cache_holds_accepted_chains (sha256 : Bytes → Digest) (handle : CacheHandle)
    (capacity : NonZeroUsize) (events : List (CacheEvent platform)) :
    (∀ fingerprint cert,
      (cacheAfter sha256 handle capacity events).get fingerprint = .ok (some cert) →
        sha256 cert = fingerprint ∧ (.operation (.insert cert) ∈ events ∨
          ∃ client presented, .handshake client presented ∈ events ∧ client.Accepts presented ∧
            client.intermediateCache = some handle ∧ cert ∈ presented.intermediates)) ∧
      ∀ client presented,
        (¬client.Accepts presented →
          cacheAfter sha256 handle capacity (events ++ [.handshake client presented]) =
            cacheAfter sha256 handle capacity events) ∧
        (client.Accepts presented → client.TakesAdapter →
          client.intermediateCache = some handle →
          presented.intermediates.length ≤ capacity.1 →
          ∀ cert ∈ presented.intermediates,
            (cacheAfter sha256 handle capacity (events ++ [.handshake client presented])).contains
              (sha256 cert) = .ok true) := by
  refine ⟨fun fingerprint cert found => ?_, fun client presented => ⟨fun refuses => ?_, ?_⟩⟩
  · have faithful : IntermediateCertCache.Faithful sha256 capacity.1 _ :=
      IntermediateCertCache.faithful_runOf capacity
        (events.flatMap (CacheEvent.operations handle))
    rw [cacheAfter, IntermediateCertCache.get_eq_ok faithful.unpoisoned] at found
    have found := Except.ok.inj found
    refine ⟨faithful.sha256_of_peek found, ?_⟩
    obtain ⟨event, happened, inserts⟩ := List.mem_flatMap.mp
      (IntermediateCertCache.inserted_of_mem (Lru.mem_of_peek found))
    cases event with
    | operation call =>
        obtain rfl := List.mem_singleton.mp inserts
        exact .inl happened
    | handshake client presented =>
        exact .inr ⟨client, presented, happened, CacheEvent.insert_mem_operations inserts⟩
  · have nothing : client.recorded presented = [] := by
      rcases client.recorded_cases presented with nothing | ⟨accepts, -⟩
      · exact nothing
      · exact absurd accepts refuses
    simp [cacheAfter, CacheEvent.operations, nothing]
  · intro accepts adapted configured fits cert member
    have all := client.recorded_of_accepts adapted configured accepts
    have inserts : (CacheEvent.handshake client presented).operations handle =
        presented.intermediates.map .insert := by
      rw [CacheEvent.operations, all, List.filter_eq_self.mpr (by simp), List.map_map]
      rfl
    rw [cacheAfter, List.flatMap_append, List.flatMap_singleton, inserts]
    exact IntermediateCertCache.contains_of_inserts _ fits member

end OxiTls
