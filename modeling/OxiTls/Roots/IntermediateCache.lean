import OxiTls.Library.Lru
import OxiTls.Rustls

/-!
# The intermediate certificate cache

`intermediate_cache.rs`: an LRU cache of certificates under the SHA-256 of their DER, behind a
lock.  Every method takes the lock for its whole body, so a run of the cache is a sequence of
operations.  What the cache holds is a function of the answers it has given: the most recently used
fingerprints since the last `clear`.
-/

namespace OxiTls

/-- `NonZeroUsize`. -/
abbrev NonZeroUsize := { count : Nat // 0 < count }

/-- `IntermediateCertCache`: the LRU cache and whether its lock is poisoned. -/
structure IntermediateCertCache where
  inner : Lru Digest Bytes
  poisoned : Bool

namespace IntermediateCertCache

/-- `IntermediateCertCache::new`. -/
def new (capacity : NonZeroUsize) : IntermediateCertCache := ⟨.empty capacity.1 capacity.2, false⟩

section Operations

variable (sha256 : Bytes → Digest) (cache : IntermediateCertCache)

/-- `RwLock::read` and `RwLock::write`, with the failure of a poisoned lock translated. -/
def lock : Except TlsError (Lru Digest Bytes) :=
  if cache.poisoned then
    .error (.other ("intermediate cache lock poisoned: " ++
      "poisoned lock: another task failed inside"))
  else .ok cache.inner

/-- `IntermediateCertCache::insert`. -/
def insert (cert : Bytes) : Except TlsError (Digest × IntermediateCertCache) := do
  let fingerprint := sha256 cert
  let guard ← cache.lock
  pure (fingerprint, { cache with inner := guard.put fingerprint cert })

/-- `IntermediateCertCache::get`. -/
def get (fingerprint : Digest) : Except TlsError (Option Bytes) := do
  let guard ← cache.lock
  pure (guard.peek fingerprint)

/-- `IntermediateCertCache::touch`. -/
def touch (fingerprint : Digest) : Except TlsError (Option Bytes × IntermediateCertCache) := do
  let guard ← cache.lock
  let (found, inner) := guard.get fingerprint
  pure (found, { cache with inner })

/-- `IntermediateCertCache::len`. -/
def len : Except TlsError Nat := do
  let guard ← cache.lock
  pure guard.entries.length

/-- `IntermediateCertCache::is_empty`. -/
def isEmpty : Except TlsError Bool := do
  let count ← cache.len
  pure (count = 0)

/-- `IntermediateCertCache::capacity`. -/
def capacity : Except TlsError NonZeroUsize := do
  let guard ← cache.lock
  pure ⟨guard.capacity, guard.positive⟩

/-- `IntermediateCertCache::contains`. -/
def contains (fingerprint : Digest) : Except TlsError Bool := do
  let guard ← cache.lock
  pure (guard.peek fingerprint).isSome

/-- `IntermediateCertCache::clear`. -/
def clear : Except TlsError IntermediateCertCache := do
  let guard ← cache.lock
  pure { cache with inner := guard.clear }

end Operations

/-- A call of a method. -/
inductive Operation
  | insert (cert : Bytes)
  | get (fingerprint : Digest)
  | touch (fingerprint : Digest)
  | contains (fingerprint : Digest)
  | clear
  | len
  | isEmpty
  | capacity

/-- What a call returned. -/
inductive Answer
  | fingerprint (fingerprint : Digest)
  | certificate (found : Option Bytes)
  | present (found : Bool)
  | count (count : Nat)
  | capacity (count : NonZeroUsize)
  | done

section Runs

variable (sha256 : Bytes → Digest)

/-- One call: its answer and the cache after it. -/
def call (cache : IntermediateCertCache) :
    Operation → Except TlsError (Answer × IntermediateCertCache)
  | .insert cert => do
      let (fingerprint, cache) ← cache.insert sha256 cert
      pure (.fingerprint fingerprint, cache)
  | .get fingerprint => do
      let found ← cache.get fingerprint
      pure (.certificate found, cache)
  | .touch fingerprint => do
      let (found, cache) ← cache.touch fingerprint
      pure (.certificate found, cache)
  | .contains fingerprint => do
      let found ← cache.contains fingerprint
      pure (.present found, cache)
  | .clear => do
      let cache ← cache.clear
      pure (.done, cache)
  | .len => do
      let count ← cache.len
      pure (.count count, cache)
  | .isEmpty => do
      let empty ← cache.isEmpty
      pure (.present empty, cache)
  | .capacity => do
      let capacity ← cache.capacity
      pure (.capacity capacity, cache)

/-- A call and what it returned. -/
structure Event where
  operation : Operation
  answer : Except TlsError Answer

/-- The cache and the calls made on it, in order. -/
structure Run where
  cache : IntermediateCertCache
  history : List Event

/-- Make one call; a call that fails leaves the cache alone. -/
def Run.perform (run : Run) (operation : Operation) : Run :=
  match run.cache.call sha256 operation with
  | .ok (answer, cache) => ⟨cache, run.history ++ [⟨operation, .ok answer⟩]⟩
  | .error failure => ⟨run.cache, run.history ++ [⟨operation, .error failure⟩]⟩

/-- Make calls one after the other. -/
def Run.performAll (run : Run) (operations : List Operation) : Run :=
  operations.foldl (Run.perform sha256) run

/-- The calls on a new cache. -/
def runOf (capacity : NonZeroUsize) (operations : List Operation) : Run :=
  Run.performAll sha256 ⟨new capacity, []⟩ operations

/-! ## What a history says -/

/-- The fingerprint that an event makes the most recent one: `insert` and a `touch` that hits. -/
def Event.used : Event → Option Digest
  | ⟨.insert cert, .ok _⟩ => some (sha256 cert)
  | ⟨.touch fingerprint, .ok (.certificate (some _))⟩ => some fingerprint
  | _ => none

/-- The fingerprint that an event inserts. -/
def Event.inserted : Event → Option Digest
  | ⟨.insert cert, .ok _⟩ => some (sha256 cert)
  | _ => none

/-- The event empties the cache. -/
def Event.clears : Event → Bool
  | ⟨.clear, .ok _⟩ => true
  | _ => false

/-- The events after the last `clear`. -/
def sinceClear (history : List Event) : List Event :=
  history.foldl (fun kept event => if event.clears then [] else kept ++ [event]) []

/-- The fingerprints inserted since the last `clear`. -/
def insertedSinceClear (history : List Event) : List Digest :=
  (sinceClear history).filterMap (Event.inserted sha256)

/-- The fingerprints used since the last `clear`, without repetition, the most recently used one
first. -/
def recency (history : List Event) : List Digest :=
  ((sinceClear history).filterMap (Event.used sha256)).foldl Recency.use []

/-- The calls that could follow and what they would return. -/
def observations (cache : IntermediateCertCache) (later : List Operation) : List Event :=
  (Run.performAll sha256 ⟨cache, []⟩ later).history

/-- The calls that only look: `get`, `contains` and the counters, and a `touch` that misses. -/
def Operation.Looks (cache : IntermediateCertCache) : Operation → Prop
  | .insert _ | .clear => False
  | .touch fingerprint => cache.get fingerprint = .ok none
  | .get _ | .contains _ | .len | .isEmpty | .capacity => True

end Runs

/-- The cached fingerprints, most recently used first. -/
def fingerprints (cache : IntermediateCertCache) : List Digest := cache.inner.keys

section Proofs

variable {sha256 : Bytes → Digest} {history : List Event} {event : Event}

theorem sinceClear_append :
    sinceClear (history ++ [event]) =
      if event.clears then [] else sinceClear history ++ [event] := by
  rw [sinceClear, List.foldl_append, List.foldl_cons, List.foldl_nil, ← sinceClear]

/-! ## How one event changes the recency -/

theorem recency_append_clear (clears : event.clears = true) :
    recency sha256 (history ++ [event]) = [] := by
  rw [recency, sinceClear_append, if_pos clears, List.filterMap_nil, List.foldl_nil]

theorem recency_append_used (clears : event.clears = false) {fingerprint : Digest}
    (used : event.used sha256 = some fingerprint) :
    recency sha256 (history ++ [event]) = Recency.use (recency sha256 history) fingerprint := by
  rw [recency, sinceClear_append, if_neg (by simp [clears]), List.filterMap_append,
    List.foldl_append, ← recency, List.filterMap_cons_some used, List.filterMap_nil,
    List.foldl_cons, List.foldl_nil]

theorem recency_append_unused (clears : event.clears = false) (used : event.used sha256 = none) :
    recency sha256 (history ++ [event]) = recency sha256 history := by
  rw [recency, sinceClear_append, if_neg (by simp [clears]), List.filterMap_append,
    List.foldl_append, ← recency, List.filterMap_cons_none used, List.filterMap_nil, List.foldl_nil]

theorem mem_insertedSinceClear_append {fingerprint : Digest} :
    fingerprint ∈ insertedSinceClear sha256 (history ++ [event]) ↔
      event.clears = false ∧ (fingerprint ∈ insertedSinceClear sha256 history ∨
        event.inserted sha256 = some fingerprint) := by
  rw [insertedSinceClear, sinceClear_append]
  cases clears : event.clears with
  | false => simp [insertedSinceClear, List.mem_filterMap]
  | true => simp

/-! ## How one call changes the cache -/

variable {cache : IntermediateCertCache} {run : Run}

theorem lock_eq_ok (unpoisoned : cache.poisoned = false) : cache.lock = .ok cache.inner := by
  rw [lock, if_neg (by simp [unpoisoned])]

theorem get_eq_ok (unpoisoned : cache.poisoned = false) (fingerprint : Digest) :
    cache.get fingerprint = .ok (cache.inner.peek fingerprint) := by
  rw [get, lock_eq_ok unpoisoned]
  rfl

theorem touch_eq_ok (unpoisoned : cache.poisoned = false) (fingerprint : Digest) :
    cache.touch fingerprint = .ok ((cache.inner.get fingerprint).1,
      { cache with inner := (cache.inner.get fingerprint).2 }) := by
  rw [touch, lock_eq_ok unpoisoned]
  rfl

theorem contains_eq_ok (unpoisoned : cache.poisoned = false) (fingerprint : Digest) :
    cache.contains fingerprint = .ok (cache.inner.peek fingerprint).isSome := by
  rw [contains, lock_eq_ok unpoisoned]
  rfl

theorem len_eq_ok (unpoisoned : cache.poisoned = false) :
    cache.len = .ok cache.fingerprints.length := by
  rw [len, lock_eq_ok unpoisoned, fingerprints, Lru.keys, List.length_map]
  rfl

/-- The calls of a cache whose lock is not poisoned succeed.  Only `insert`, a `touch` that hits and
`clear` change the cache. -/
theorem call_cases (sha256 : Bytes → Digest) (unpoisoned : cache.poisoned = false)
    (operation : Operation) :
    (∃ cert, operation = .insert cert ∧
        cache.call sha256 operation = .ok (.fingerprint (sha256 cert),
          { cache with inner := cache.inner.put (sha256 cert) cert })) ∨
      (∃ fingerprint cert, operation = .touch fingerprint ∧
        cache.inner.peek fingerprint = some cert ∧
        cache.call sha256 operation = .ok (.certificate (some cert),
          { cache with inner := cache.inner.put fingerprint cert })) ∨
      (operation = .clear ∧ cache.call sha256 operation = .ok (.done,
          { cache with inner := cache.inner.clear })) ∨
      ∃ answer, operation.Looks cache ∧ cache.call sha256 operation = .ok (answer, cache) ∧
        (Event.mk operation (.ok answer)).used sha256 = none ∧
        (Event.mk operation (.ok answer)).inserted sha256 = none ∧
        (Event.mk operation (.ok answer)).clears = false := by
  cases operation with
  | insert cert =>
      refine .inl ⟨cert, rfl, ?_⟩
      rw [call, insert, lock_eq_ok unpoisoned]
      rfl
  | touch fingerprint =>
      cases found : cache.inner.peek fingerprint with
      | some cert =>
          refine .inr (.inl ⟨fingerprint, cert, rfl, found, ?_⟩)
          rw [call, touch_eq_ok unpoisoned, Lru.get_of_peek_some found]
          rfl
      | none =>
          refine .inr (.inr (.inr ⟨.certificate none, ?_, ?_, rfl, rfl, rfl⟩))
          · rw [Operation.Looks, get_eq_ok unpoisoned, found]
          · rw [call, touch_eq_ok unpoisoned, Lru.get_of_peek_none found]
            rfl
  | clear =>
      refine .inr (.inr (.inl ⟨rfl, ?_⟩))
      rw [call, clear, lock_eq_ok unpoisoned]
      rfl
  | get fingerprint =>
      refine .inr (.inr (.inr ⟨.certificate (cache.inner.peek fingerprint), trivial, ?_, ?_⟩))
      · rw [call, get_eq_ok unpoisoned]
        rfl
      · exact ⟨rfl, rfl, rfl⟩
  | contains fingerprint =>
      refine .inr (.inr (.inr ⟨.present (cache.inner.peek fingerprint).isSome, trivial, ?_, ?_⟩))
      · rw [call, contains_eq_ok unpoisoned]
        rfl
      · exact ⟨rfl, rfl, rfl⟩
  | len =>
      refine .inr (.inr (.inr ⟨.count cache.fingerprints.length, trivial, ?_, rfl, rfl, rfl⟩))
      rw [call, len_eq_ok unpoisoned]
      rfl
  | isEmpty =>
      refine .inr (.inr (.inr ⟨.present (cache.fingerprints.length = 0), trivial, ?_, ?_⟩))
      · rw [call, isEmpty, len_eq_ok unpoisoned]
        rfl
      · exact ⟨rfl, rfl, rfl⟩
  | capacity =>
      refine .inr (.inr (.inr ⟨.capacity ⟨cache.inner.capacity, cache.inner.positive⟩, trivial, ?_,
        rfl, rfl, rfl⟩))
      rw [call, capacity, lock_eq_ok unpoisoned]
      rfl

/-! ## Whole runs -/

/-- What holds of a cache after any calls: it holds the most recent fingerprints of its history,
each over a certificate that hashes to it. -/
structure Faithful (sha256 : Bytes → Digest) (capacity : Nat) (run : Run) : Prop where
  unpoisoned : run.cache.poisoned = false
  capacity_eq : run.cache.inner.capacity = capacity
  fingerprints_eq : run.cache.fingerprints = (recency sha256 run.history).take capacity
  distinct : (recency sha256 run.history).Nodup
  mem_recency (fingerprint : Digest) : fingerprint ∈ recency sha256 run.history ↔
    fingerprint ∈ insertedSinceClear sha256 run.history
  hashed : ∀ entry ∈ run.cache.inner.entries, sha256 entry.2 = entry.1

variable {capacity : Nat}

/-- Storing a certificate under its fingerprint keeps the cache faithful to a history that ends by
using the fingerprint. -/
theorem Faithful.put (faithful : Faithful sha256 capacity run) {fingerprint : Digest} {cert : Bytes}
    (hashes : sha256 cert = fingerprint) (clears : event.clears = false)
    (used : event.used sha256 = some fingerprint)
    (inserted : event.inserted sha256 = some fingerprint ∨
      event.inserted sha256 = none ∧ fingerprint ∈ recency sha256 run.history) :
    Faithful sha256 capacity
      ⟨{ run.cache with inner := run.cache.inner.put fingerprint cert },
        run.history ++ [event]⟩ where
  unpoisoned := faithful.unpoisoned
  capacity_eq := faithful.capacity_eq
  fingerprints_eq := by
    have positive : 0 < capacity := faithful.capacity_eq ▸ run.cache.inner.positive
    rw [recency_append_used clears used, fingerprints, Lru.keys_put, ← fingerprints,
      faithful.fingerprints_eq, faithful.capacity_eq, Recency.take_use_take faithful.distinct _
        positive]
  distinct := by
    rw [recency_append_used clears used]
    exact Recency.nodup_use faithful.distinct fingerprint
  mem_recency other := by
    rw [recency_append_used clears used, Recency.mem_use, mem_insertedSinceClear_append,
      ← faithful.mem_recency]
    rcases inserted with inserted | ⟨inserted, member⟩
    · rw [inserted, Option.some.injEq, eq_comm, or_comm]
      exact (and_iff_right clears).symm
    · rw [inserted]
      constructor
      · rintro (rfl | earlier)
        · exact ⟨clears, .inl member⟩
        · exact ⟨clears, .inl earlier⟩
      · rintro ⟨-, earlier | impossible⟩
        · exact .inr earlier
        · contradiction
  hashed entry member := by
    rcases Lru.mem_put member with rfl | earlier
    · exact hashes
    · exact faithful.hashed entry earlier

theorem Faithful.mem_recency_of_peek (faithful : Faithful sha256 capacity run)
    {fingerprint : Digest} {cert : Bytes}
    (found : run.cache.inner.peek fingerprint = some cert) :
    fingerprint ∈ recency sha256 run.history := by
  have cached : fingerprint ∈ run.cache.fingerprints :=
    Lru.isSome_peek_iff.mp (by rw [found]; rfl)
  rw [faithful.fingerprints_eq] at cached
  exact List.mem_of_mem_take cached

theorem Faithful.sha256_of_peek (faithful : Faithful sha256 capacity run)
    {fingerprint : Digest} {cert : Bytes}
    (found : run.cache.inner.peek fingerprint = some cert) : sha256 cert = fingerprint :=
  faithful.hashed (fingerprint, cert) (Lru.mem_of_peek found)

/-- Every call keeps the cache faithful. -/
theorem Faithful.perform (faithful : Faithful sha256 capacity run) (operation : Operation) :
    Faithful sha256 capacity (run.perform sha256 operation) := by
  rw [Run.perform]
  rcases call_cases sha256 faithful.unpoisoned operation with
    ⟨cert, rfl, called⟩ | ⟨fingerprint, cert, rfl, found, called⟩ | ⟨rfl, called⟩ |
      ⟨answer, -, called, used, inserted, clears⟩
  · rw [called]
    exact faithful.put rfl rfl rfl (.inl rfl)
  · rw [called]
    exact faithful.put (faithful.sha256_of_peek found) rfl rfl
      (.inr ⟨rfl, faithful.mem_recency_of_peek found⟩)
  · rw [called]
    have forgotten : recency sha256 (run.history ++ [⟨.clear, .ok .done⟩]) = [] :=
      recency_append_clear rfl
    constructor
    case unpoisoned => exact faithful.unpoisoned
    case capacity_eq => exact faithful.capacity_eq
    case fingerprints_eq => rw [forgotten, List.take_nil]; rfl
    case distinct => rw [forgotten]; exact List.nodup_nil
    case mem_recency =>
      intro fingerprint
      rw [forgotten, mem_insertedSinceClear_append]
      simp [Event.clears]
    case hashed =>
      intro entry member
      contradiction
  · rw [called]
    constructor
    case unpoisoned => exact faithful.unpoisoned
    case capacity_eq => exact faithful.capacity_eq
    case fingerprints_eq =>
      rw [recency_append_unused clears used]
      exact faithful.fingerprints_eq
    case distinct =>
      rw [recency_append_unused clears used]
      exact faithful.distinct
    case mem_recency =>
      intro fingerprint
      rw [recency_append_unused clears used, mem_insertedSinceClear_append,
        faithful.mem_recency, inserted]
      simp [clears]
    case hashed => exact faithful.hashed

theorem faithful_runOf (capacity : NonZeroUsize) (operations : List Operation) :
    Faithful sha256 capacity.1 (runOf sha256 capacity operations) := by
  rw [runOf, Run.performAll]
  refine List.foldlRecOn operations (Run.perform sha256) ?_ fun run faithful operation _ =>
    faithful.perform operation
  constructor
  case unpoisoned => rfl
  case capacity_eq => rfl
  case fingerprints_eq => exact List.take_nil.symm
  case distinct => exact List.nodup_nil
  case mem_recency => exact fun _ => Iff.rfl
  case hashed =>
    intro entry member
    contradiction

theorem Run.cache_perform_of_looks (unpoisoned : run.cache.poisoned = false)
    {operation : Operation} (looks : operation.Looks run.cache) :
    (run.perform sha256 operation).cache = run.cache := by
  rw [Run.perform]
  rcases call_cases sha256 unpoisoned operation with
    ⟨cert, rfl, -⟩ | ⟨fingerprint, cert, rfl, found, -⟩ | ⟨rfl, -⟩ | ⟨answer, -, called, -⟩
  · exact looks.elim
  · rw [Operation.Looks, get_eq_ok unpoisoned, found] at looks
    exact (Option.some_ne_none cert (Except.ok.inj looks)).elim
  · exact looks.elim
  · rw [called]

/-- After any calls on a new cache, the cached fingerprints are the most recently used ones among
those inserted since the last `clear`.  The lookups answer from these, a certificate found hashes to
its fingerprint, and calls that only look leave every later answer as it was. -/
theorem runOf_is_lru (sha256 : Bytes → Digest) (capacity : NonZeroUsize)
    (operations : List Operation) :
    let run := runOf sha256 capacity operations
    run.cache.fingerprints = (recency sha256 run.history).take capacity.1 ∧
      (recency sha256 run.history).Nodup ∧
      (∀ fingerprint, fingerprint ∈ recency sha256 run.history ↔
        fingerprint ∈ insertedSinceClear sha256 run.history) ∧
      (∃ count ≤ capacity.1, run.cache.len = .ok count) ∧
      (∀ fingerprint, ∃ found,
        run.cache.get fingerprint = .ok found ∧
        (∃ touched, run.cache.touch fingerprint = .ok (found, touched)) ∧
        run.cache.contains fingerprint = .ok found.isSome ∧
        (found.isSome = true ↔ fingerprint ∈ run.cache.fingerprints) ∧
        ∀ cert, found = some cert → sha256 cert = fingerprint) ∧
      ∀ operation, operation.Looks run.cache → ∀ later,
        observations sha256 (run.perform sha256 operation).cache later =
          observations sha256 run.cache later := by
  intro run
  have faithful : Faithful sha256 capacity.1 run := faithful_runOf capacity operations
  have unpoisoned := faithful.unpoisoned
  refine ⟨faithful.fingerprints_eq, faithful.distinct, faithful.mem_recency, ?_, ?_, ?_⟩
  · refine ⟨run.cache.fingerprints.length, ?_, len_eq_ok unpoisoned⟩
    rw [← faithful.capacity_eq]
    exact Lru.length_keys_le _
  · intro fingerprint
    refine ⟨run.cache.inner.peek fingerprint, get_eq_ok unpoisoned fingerprint, ?_,
      contains_eq_ok unpoisoned fingerprint, Lru.isSome_peek_iff, ?_⟩
    · rw [touch_eq_ok unpoisoned]
      cases found : run.cache.inner.peek fingerprint with
      | some cert => exact ⟨_, by rw [Lru.get_of_peek_some found]⟩
      | none => exact ⟨_, by rw [Lru.get_of_peek_none found]⟩
    · intro cert found
      exact faithful.sha256_of_peek found
  · intro operation looks later
    rw [Run.cache_perform_of_looks unpoisoned looks]

end Proofs

end IntermediateCertCache

end OxiTls
