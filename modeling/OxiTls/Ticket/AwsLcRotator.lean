import Mathlib.Algebra.Group.Nat.Defs
import OxiTls.Ticket.Rotation

/-!
# Rotating tickets

`ticketer.rs` of the aws-lc adapter: the task of an `AwsLcTicketRotator` rotates the keys at every
multiple of an interval.  It ignores a rotation for which the generator has no key, and goes on at
the next tick.  Tickets age with the rotations that succeed, so that failures only prolong them, and
`generation` counts these rotations.  Times are in nanoseconds since the rotator was made.
-/

namespace OxiTls

/-- `std::time::Duration`. -/
structure Duration where
  secs : Nat
  nanos : Nat
  secs_lt : secs < 2 ^ 64
  nanos_lt : nanos < 1000000000
  deriving DecidableEq

/-- `Duration::from_secs`. -/
def Duration.fromSecs (secs : Nat) (fits : secs < 2 ^ 64) : Duration := ⟨secs, 0, fits, by decide⟩

/-- `as_secs`, which drops the fraction. -/
def Duration.asSecs (duration : Duration) : Nat := duration.secs

/-- `as_nanos`. -/
def Duration.asNanos (duration : Duration) : Nat := 1000000000 * duration.secs + duration.nanos

/-- `u64::saturating_mul`. -/
def saturatingMul (left right : Nat) : Nat := min (left * right) (2 ^ 64 - 1)

/-- `u64::saturating_add`. -/
def saturatingAdd (left right : Nat) : Nat := min (left + right) (2 ^ 64 - 1)

/-- `random_key`, given what the generator answers. -/
def randomKey (entropy : Except String (Vector UInt8 32)) : Except TlsError TicketKey :=
  match entropy with
  | .ok bytes => .ok ⟨bytes⟩
  | .error e => .error (.other ("rng error: " ++ e))

/-- `RotatorState`. -/
structure RotatorState where
  currentKey : TicketKey
  previousKey : Option TicketKey
  generation : Nat
  deriving DecidableEq

/-- `RotatorState::generate`. -/
def RotatorState.generate (entropy : Except String (Vector UInt8 32)) :
    Except TlsError RotatorState := do
  let currentKey ← randomKey entropy
  pure ⟨currentKey, none, 0⟩

/-- `RotatorState::rotate`: its result and the state afterwards. -/
def RotatorState.rotate (state : RotatorState) (entropy : Except String (Vector UInt8 32)) :
    Except TlsError Unit × RotatorState :=
  match randomKey entropy with
  | .error error => (.error error, state)
  | .ok newKey => (.ok (), ⟨newKey, some state.currentKey, saturatingAdd state.generation 1⟩)

/-- `encrypt_ticket`, given the cipher and the nonce the generator answers.  The ticket comes with
the sealing it was made from. -/
def encryptTicket (cipher : Aead TicketKey 16) (key : TicketKey)
    (entropy : Except String (Vector UInt8 12)) (plain : Bytes) :
    Option (Bytes × Sealing TicketKey) := do
  let nonce ← entropy.toOption
  let (ciphertext, tag) ← cipher.encrypt key nonce.toList [] plain
  some (nonce.toList ++ (ciphertext ++ tag), ⟨key, nonce.toList, [], plain, ciphertext, tag⟩)

/-- `decrypt_ticket`, given the sealings made so far; the tag is the end of the ciphertext. -/
def decryptTicket (sealed : List (Sealing TicketKey)) (key : TicketKey) (ticket : Bytes) :
    Option Bytes :=
  if ticket.length < 12 + 16 then none
  else
    let nonce := ticket.take 12
    let ct := ticket.drop 12
    Sealing.openSealed sealed key nonce [] (ct.take (ct.length - 16)) (ct.drop (ct.length - 16))

/-- `AwsLcTicketRotator`: the state under its lock, its interval and the lifetime it advertises. -/
structure AwsLcTicketRotator where
  state : RotatorState
  rotationInterval : Duration
  lifetimeSecs : Nat
  deriving DecidableEq

namespace AwsLcTicketRotator

/-- The lifetime that `new` computes; the last conversion is to 32 bits. -/
def lifetimeOf (rotationInterval : Duration) : Nat :=
  let intervalSecs := max rotationInterval.asSecs 1
  let lifetimeSecs := min (saturatingMul 2 intervalSecs) (2 ^ 32 - 1) % 2 ^ 32
  max lifetimeSecs 1

/-- `AwsLcTicketRotator::new`. -/
def new (rotationInterval : Duration) (entropy : Except String (Vector UInt8 32)) :
    Except TlsError AwsLcTicketRotator := do
  let state ← RotatorState.generate entropy
  pure ⟨state, rotationInterval, lifetimeOf rotationInterval⟩

variable (rotator : AwsLcTicketRotator)

/-- `lifetime`, in seconds. -/
def lifetime : Nat := rotator.lifetimeSecs

/-- `generation`. -/
def generation : Nat := rotator.state.generation

/-- `encrypt`. -/
def encrypt (cipher : Aead TicketKey 16) (entropy : Except String (Vector UInt8 12))
    (plain : Bytes) : Option (Bytes × Sealing TicketKey) :=
  encryptTicket cipher rotator.state.currentKey entropy plain

/-- `decrypt`: the current key first, then the previous one. -/
def decrypt (sealed : List (Sealing TicketKey)) (ticket : Bytes) : Option Bytes :=
  KeySlots.lookup (decryptTicket sealed · ticket) rotator.state.currentKey rotator.state.previousKey

/-- What `new` makes of the answer of the generator. -/
theorem new_eq_ok {interval : Duration} {entropy : Except String (Vector UInt8 32)}
    {rotator : AwsLcTicketRotator} (made : new interval entropy = .ok rotator) :
    ∃ key, rotator = ⟨⟨key, none, 0⟩, interval, lifetimeOf interval⟩ := by
  cases entropy with
  | error e => contradiction
  | ok bytes => exact ⟨⟨bytes⟩, (Except.ok.inj made).symm⟩

end AwsLcTicketRotator

/-! ## The wire format -/

/-- A sealing whose ticket can be taken apart again. -/
structure RotatorShaped (sealing : Sealing TicketKey) : Prop where
  aad : sealing.aad = []
  length_nonce : sealing.nonce.length = 12
  length_tag : sealing.tag.length = 16

/-- The ticket of a sealing. -/
def rotatorWire (sealing : Sealing TicketKey) : Bytes :=
  sealing.nonce ++ (sealing.ciphertext ++ sealing.tag)

/-- Encryption returns the ticket of a well-shaped sealing under the given key. -/
theorem encryptTicket_eq_some {cipher : Aead TicketKey 16} {key : TicketKey}
    {entropy : Except String (Vector UInt8 12)} {plain ticket : Bytes}
    {sealing : Sealing TicketKey}
    (encrypted : encryptTicket cipher key entropy plain = some (ticket, sealing)) :
    ticket = rotatorWire sealing ∧ RotatorShaped sealing ∧ sealing.key = key := by
  simp only [encryptTicket, Option.bind_eq_bind, Option.bind_eq_some_iff, Option.some.injEq,
    Prod.mk.injEq] at encrypted
  obtain ⟨nonce, _, ⟨ciphertext, tag⟩, made, rfl, rfl⟩ := encrypted
  exact ⟨rfl, ⟨rfl, by simp, cipher.length_tag made⟩, rfl⟩

/-- Decryption of a ticket looks up exactly the parts it was made from. -/
theorem decryptTicket_rotatorWire {sealing : Sealing TicketKey} (shaped : RotatorShaped sealing)
    (sealed : List (Sealing TicketKey)) (key : TicketKey) :
    decryptTicket sealed key (rotatorWire sealing) =
      Sealing.openSealed sealed key sealing.nonce sealing.aad sealing.ciphertext sealing.tag := by
  obtain ⟨aad, length_nonce, length_tag⟩ := shaped
  have long : ¬ (rotatorWire sealing).length < 12 + 16 := by
    simp only [rotatorWire, List.length_append, length_nonce, length_tag]
    omega
  rw [decryptTicket, if_neg long]
  simp only [rotatorWire, List.take_left' length_nonce, List.drop_left' length_nonce,
    List.length_append, length_tag, Nat.add_sub_cancel, List.take_left, List.drop_left, aad]

/-- A ticket that decrypts is the ticket of a sealing under that key. -/
theorem mem_of_decryptTicket {sealed : List (Sealing TicketKey)} {key : TicketKey}
    {ticket plain : Bytes} (decrypted : decryptTicket sealed key ticket = some plain) :
    ∃ sealing ∈ sealed, rotatorWire sealing = ticket := by
  simp only [decryptTicket] at decrypted
  split_ifs at decrypted with short
  refine ⟨_, Sealing.mem_of_openSealed decrypted, ?_⟩
  rw [rotatorWire, List.take_append_drop, List.take_append_drop]

/-! ## Runs of a rotator -/

/-- A rotator in operation: the clock, the next tick of its task, every key it has generated
(newest first) and every ticket it has issued. -/
structure RotatorService where
  clock : Nat
  nextTick : Nat
  rotator : AwsLcTicketRotator
  generated : List TicketKey
  issued : List Issuance
  deriving DecidableEq

/-- What happens to a rotator, with the answers of a generator that may fail at every call. -/
inductive RotatorEvent
  | pass (elapsed : Nat)
  | tick (entropy : Except String (Vector UInt8 32))
  | encrypt (entropy : Except String (Vector UInt8 12)) (plain : Bytes)
  | decrypt (ticket : Bytes)

/-- Whether an event is a rotation that succeeds. -/
def RotatorEvent.promotes : RotatorEvent → Bool
  | .tick (.ok _) => true
  | _ => false

namespace RotatorService

/-- A new rotator; the first tick of the task, at once, is skipped. -/
def start (rotator : AwsLcTicketRotator) : RotatorService where
  clock := 0
  nextTick := rotator.rotationInterval.asNanos
  rotator := rotator
  generated := [rotator.state.currentKey]
  issued := []

variable (cipher : Aead TicketKey 16) (state : RotatorService)

/-- The sealings made so far. -/
def sealed : List (Sealing TicketKey) := state.issued.map Issuance.sealing

/-- The number of rotations since a ticket was issued. -/
def age (issuance : Issuance) : Nat := state.generated.length - issuance.generation

/-- `encrypt`: its answer and the service afterwards. -/
def encrypt (entropy : Except String (Vector UInt8 12)) (plain : Bytes) :
    Option Bytes × RotatorService :=
  match state.rotator.encrypt cipher entropy plain with
  | none => (none, state)
  | some (ticket, sealing) =>
      let issuance : Issuance := ⟨ticket, sealing, state.generated.length, state.clock⟩
      (some ticket, { state with issued := state.issued ++ [issuance] })

/-- `decrypt`. -/
def decrypt (ticket : Bytes) : Option Bytes := state.rotator.decrypt state.sealed ticket

/-- A tick of the task, which tries to rotate the keys and waits for the next multiple of the
interval.  The result of the rotation is ignored. -/
def tick (entropy : Except String (Vector UInt8 32)) : RotatorService :=
  let (result, rotated) := state.rotator.state.rotate entropy
  { state with
    nextTick := state.nextTick + state.rotator.rotationInterval.asNanos
    rotator := { state.rotator with state := rotated }
    generated :=
      match result with
      | .ok () => rotated.currentKey :: state.generated
      | .error _ => state.generated }

/-- One event.  The task ticks on time: no time passes beyond a tick that is due, and nothing else
happens at its instant before it. -/
def step : RotatorEvent → Option RotatorService
  | .pass elapsed =>
      if state.clock + elapsed ≤ state.nextTick then
        some { state with clock := state.clock + elapsed }
      else none
  | .tick entropy => if state.clock = state.nextTick then some (state.tick entropy) else none
  | .encrypt entropy plain =>
      if state.clock < state.nextTick then some (state.encrypt cipher entropy plain).2 else none
  | .decrypt _ => if state.clock < state.nextTick then some state else none

variable {cipher state}

theorem clock_tick (bytes : Vector UInt8 32) : (state.tick (.ok bytes)).clock = state.clock := rfl

theorem nextTick_tick (bytes : Vector UInt8 32) :
    (state.tick (.ok bytes)).nextTick =
      state.nextTick + state.rotator.rotationInterval.asNanos := rfl

theorem length_generated_tick (bytes : Vector UInt8 32) :
    (state.tick (.ok bytes)).generated.length = state.generated.length + 1 := rfl

/-- Without a key only the time of the next tick changes. -/
theorem tick_error (message : String) :
    state.tick (.error message) =
      { state with nextTick := state.nextTick + state.rotator.rotationInterval.asNanos } := rfl

/-- An event passes time up to the next tick, is that tick with or without a key, issues a ticket
before it, or changes nothing. -/
theorem step_cases {next : RotatorService} {event : RotatorEvent}
    (stepped : state.step cipher event = some next) :
    (∃ bytes, event = .tick (.ok bytes) ∧ state.clock = state.nextTick ∧
      next = state.tick (.ok bytes)) ∨
    event.promotes = false ∧
      ((∃ elapsed, state.clock + elapsed ≤ state.nextTick ∧
          next = { state with clock := state.clock + elapsed }) ∨
        (∃ message, event = .tick (.error message) ∧ state.clock = state.nextTick ∧ next =
          { state with nextTick := state.nextTick + state.rotator.rotationInterval.asNanos }) ∨
        (∃ entropy plain ticket sealing, state.clock < state.nextTick ∧
          state.rotator.encrypt cipher entropy plain = some (ticket, sealing) ∧
          next = { state with issued :=
            state.issued ++ [⟨ticket, sealing, state.generated.length, state.clock⟩] }) ∨
        next = state) := by
  cases event with
  | pass elapsed =>
      obtain ⟨reaches, passed⟩ := Option.ite_none_right_eq_some.mp stepped
      exact .inr ⟨rfl, .inl ⟨elapsed, reaches, (Option.some.inj passed).symm⟩⟩
  | tick entropy =>
      obtain ⟨due, ticked⟩ := Option.ite_none_right_eq_some.mp stepped
      rw [Option.some.injEq] at ticked
      cases entropy with
      | ok bytes => exact .inl ⟨bytes, rfl, due, ticked.symm⟩
      | error message =>
          rw [tick_error] at ticked
          exact .inr ⟨rfl, .inr (.inl ⟨message, rfl, due, ticked.symm⟩)⟩
  | encrypt entropy plain =>
      obtain ⟨early, encrypted⟩ := Option.ite_none_right_eq_some.mp stepped
      rw [Option.some.injEq, encrypt] at encrypted
      split at encrypted
      next => exact .inr ⟨rfl, .inr (.inr (.inr encrypted.symm))⟩
      next ticket sealing made =>
        exact .inr ⟨rfl, .inr (.inr (.inl
          ⟨entropy, plain, ticket, sealing, early, made, encrypted.symm⟩))⟩
  | decrypt ticket =>
      obtain ⟨_, same⟩ := Option.ite_none_right_eq_some.mp stepped
      exact .inr ⟨rfl, .inr (.inr (.inr (Option.some.inj same).symm))⟩

/-! ## The invariant -/

/-- A ticket is the ticket of its sealing, its key is at the position of its age, and a tick has
passed for every rotation that has aged it. -/
structure Traced (state : RotatorService) (interval : Duration) (issuance : Issuance) : Prop where
  ticket : issuance.ticket = rotatorWire issuance.sealing
  shaped : RotatorShaped issuance.sealing
  generation : issuance.generation ≤ state.generated.length
  key : state.generated[state.age issuance]? = some issuance.sealing.key
  aged : issuance.issuedAt + state.age issuance * interval.asNanos < state.nextTick

/-- The slots hold the newest keys, whose number is the generation, and the next tick is at most an
interval away. -/
structure Counted (interval : Duration) (state : RotatorService) : Prop where
  configured : state.rotator.rotationInterval = interval
  lifetime : state.rotator.lifetime = AwsLcTicketRotator.lifetimeOf interval
  newest : KeySlots.Newest state.generated state.rotator.state.currentKey
    state.rotator.state.previousKey
  generation : state.rotator.generation = min (state.generated.length - 1) (2 ^ 64 - 1)
  started : state.nextTick ≤ state.clock + interval.asNanos
  traced : ∀ issuance ∈ state.issued, state.Traced interval issuance

theorem counted_start {interval : Duration} {entropy : Except String (Vector UInt8 32)}
    {rotator : AwsLcTicketRotator} (made : AwsLcTicketRotator.new interval entropy = .ok rotator) :
    (start rotator).Counted interval := by
  obtain ⟨key, rfl⟩ := AwsLcTicketRotator.new_eq_ok made
  exact ⟨rfl, rfl, ⟨rfl, rfl⟩, rfl, Nat.le_add_left _ _, by simp [start]⟩

/-- Without a rotation a ticket keeps its age. -/
theorem Traced.of_generated_eq {interval : Duration} {issuance : Issuance} {next : RotatorService}
    (traced : state.Traced interval issuance) (same : next.generated = state.generated)
    (later : state.nextTick ≤ next.nextTick) : next.Traced interval issuance := by
  have age_eq : next.age issuance = state.age issuance := by rw [age, age, same]
  constructor
  · exact traced.ticket
  · exact traced.shaped
  · exact same ▸ traced.generation
  · rw [age_eq, same]
    exact traced.key
  · rw [age_eq]
    exact Nat.lt_of_lt_of_le traced.aged later

section Steps

variable {interval : Duration} (counted : state.Counted interval)
include counted

/-- A rotation ages every ticket by one, a full interval after the tick before. -/
theorem Counted.tick (due : state.clock = state.nextTick) (bytes : Vector UInt8 32) :
    (state.tick (.ok bytes)).Counted interval := by
  have nonempty : 0 < state.generated.length :=
    List.length_pos_of_ne_nil fun empty => by simpa [empty] using counted.newest.current
  constructor
  · exact counted.configured
  · exact counted.lifetime
  · exact counted.newest.rotate _
  · have generation := counted.generation
    change saturatingAdd state.rotator.generation 1 =
      min ((state.generated.length + 1) - 1) (2 ^ 64 - 1)
    rw [saturatingAdd, generation]
    omega
  · exact Nat.le_of_eq (by rw [nextTick_tick, clock_tick, counted.configured, due])
  · intro issuance member
    have traced := counted.traced issuance member
    have older : (state.tick (.ok bytes)).age issuance = state.age issuance + 1 := by
      have bound := traced.generation
      rw [age, age, length_generated_tick]
      omega
    constructor
    · exact traced.ticket
    · exact traced.shaped
    · exact Nat.le_succ_of_le traced.generation
    · rw [older]
      exact traced.key
    · have aged := traced.aged
      rw [older, nextTick_tick, counted.configured, Nat.add_mul]
      omega

theorem Counted.issue {entropy : Except String (Vector UInt8 12)} {plain ticket : Bytes}
    {sealing : Sealing TicketKey} (early : state.clock < state.nextTick)
    (made : state.rotator.encrypt cipher entropy plain = some (ticket, sealing)) :
    Counted interval { state with issued :=
      state.issued ++ [⟨ticket, sealing, state.generated.length, state.clock⟩] } where
  configured := counted.configured
  lifetime := counted.lifetime
  newest := counted.newest
  generation := counted.generation
  started := counted.started
  traced issuance member := by
    rcases List.mem_append.mp member with earlier | last
    · exact (counted.traced issuance earlier).of_generated_eq rfl (Nat.le_refl _)
    · obtain rfl := List.mem_singleton.mp last
      obtain ⟨wired, shaped, sealedUnder⟩ := encryptTicket_eq_some made
      refine ⟨wired, shaped, Nat.le_refl _, ?_, ?_⟩
      · simpa [age, sealedUnder] using counted.newest.current
      · simpa [age] using early

theorem Counted.step {next : RotatorService} {event : RotatorEvent}
    (stepped : state.step cipher event = some next) : next.Counted interval := by
  rcases step_cases stepped with
    ⟨bytes, -, due, rfl⟩ | ⟨-, ⟨elapsed, -, rfl⟩ | ⟨message, -, due, rfl⟩ |
      ⟨entropy, plain, ticket, sealing, early, made, rfl⟩ | rfl⟩
  · exact counted.tick due bytes
  · refine ⟨counted.configured, counted.lifetime, counted.newest, counted.generation, ?_,
      fun issuance member => ?_⟩
    · have := counted.started
      simp only
      omega
    · exact (counted.traced issuance member).of_generated_eq rfl (Nat.le_refl _)
  · refine ⟨counted.configured, counted.lifetime, counted.newest, counted.generation, ?_,
      fun issuance member => ?_⟩
    · exact Nat.le_of_eq (by rw [due, counted.configured])
    · exact (counted.traced issuance member).of_generated_eq rfl (Nat.le_add_right _ _)
  · exact counted.issue early made
  · exact counted

end Steps

/-! ## Runs -/

/-- There is one key more than there were rotations that succeeded. -/
theorem length_generated_of_run {final : RotatorService} {events : List RotatorEvent}
    (executed : Execution.run (step cipher) state events = some final) :
    final.generated.length = state.generated.length + events.countP RotatorEvent.promotes := by
  induction events generalizing state with
  | nil =>
      obtain rfl := Option.some.inj executed
      rfl
  | cons event events induction =>
      obtain ⟨next, stepped, continued⟩ := Execution.run_cons_eq_some_iff.mp executed
      rw [induction continued]
      rcases step_cases stepped with
        ⟨bytes, rfl, -, rfl⟩ | ⟨idle, ⟨elapsed, -, rfl⟩ | ⟨message, -, -, rfl⟩ |
          ⟨entropy, plain, ticket, sealing, -, -, rfl⟩ | rfl⟩
      · rw [List.countP_cons_of_pos rfl]
        change state.generated.length + 1 + _ = _
        omega
      all_goals rw [List.countP_cons_of_neg (by simp [idle])]

section Decryption

variable {interval : Duration} (counted : state.Counted interval)
include counted

/-- A ticket has aged by two only after a full interval. -/
theorem Counted.age_le {issuance : Issuance} (member : issuance ∈ state.issued)
    (recent : state.clock ≤ issuance.issuedAt + interval.asNanos) : state.age issuance ≤ 1 := by
  have aged := (counted.traced issuance member).aged
  have started := counted.started
  by_contra old
  have twice : 2 * interval.asNanos ≤ state.age issuance * interval.asNanos :=
    Nat.mul_le_mul_right _ (by omega)
  omega

/-- With distinct keys, an issued ticket decrypts exactly while its age is at most one. -/
theorem Counted.decrypt_issued (committing : Sealing.Committing state.sealed)
    (distinct : state.generated.Nodup) {issuance : Issuance} (member : issuance ∈ state.issued) :
    state.decrypt issuance.ticket =
      if state.age issuance ≤ 1 then some issuance.sealing.plaintext else none := by
  have traced := counted.traced issuance member
  have sealed : issuance.sealing ∈ state.sealed := List.mem_map_of_mem member
  have fits (key : TicketKey) : decryptTicket state.sealed key issuance.ticket =
      if key = issuance.sealing.key then some issuance.sealing.plaintext else none := by
    rw [traced.ticket, decryptTicket_rotatorWire traced.shaped,
      Sealing.openSealed_eq committing sealed]
  exact counted.newest.lookup_eq fits traced.key distinct

theorem Counted.issued_of_decrypt {ticket plain : Bytes}
    (decrypted : state.decrypt ticket = some plain) :
    ∃ issuance ∈ state.issued, issuance.ticket = ticket := by
  rw [decrypt, AwsLcTicketRotator.decrypt] at decrypted
  obtain ⟨_, key, _, _, opened⟩ := counted.newest.of_lookup decrypted
  obtain ⟨sealing, sealed, wired⟩ := mem_of_decryptTicket opened
  obtain ⟨issuance, member, rfl⟩ := List.mem_map.mp sealed
  exact ⟨issuance, member, (counted.traced issuance member).ticket.trans wired⟩

end Decryption

/-- Over every run in which rotations may fail, with distinct keys and committing sealings: a ticket
decrypts exactly until the second rotation that succeeds after its issue, and so at least for one
interval; nothing else decrypts; and `generation` is the number of rotations that succeeded, up to
`u64::MAX`. -/
theorem failures_prolong_tickets {interval : Duration} {entropy : Except String (Vector UInt8 32)}
    {rotator : AwsLcTicketRotator} {events : List RotatorEvent}
    (made : AwsLcTicketRotator.new interval entropy = .ok rotator)
    (executed : Execution.run (step cipher) (start rotator) events = some state)
    (distinct : state.generated.Nodup) (committing : Sealing.Committing state.sealed) :
    (∀ issuance ∈ state.issued,
      (state.decrypt issuance.ticket =
        if state.age issuance ≤ 1 then some issuance.sealing.plaintext else none) ∧
      (state.clock ≤ issuance.issuedAt + interval.asNanos →
        state.decrypt issuance.ticket = some issuance.sealing.plaintext)) ∧
    (∀ ticket plain, state.decrypt ticket = some plain →
      ∃ issuance ∈ state.issued, issuance.ticket = ticket) ∧
    state.generated.length = 1 + events.countP RotatorEvent.promotes ∧
    state.rotator.generation =
      min (events.countP RotatorEvent.promotes) (2 ^ 64 - 1) := by
  have counted : state.Counted interval :=
    Execution.invariant_of_run (fun _ _ _ counted stepped => counted.step stepped)
      (counted_start made) executed
  have length : state.generated.length = 1 + events.countP RotatorEvent.promotes :=
    length_generated_of_run executed
  refine ⟨fun issuance member => ⟨counted.decrypt_issued committing distinct member, ?_⟩,
    fun ticket plain => counted.issued_of_decrypt, length, ?_⟩
  · intro recent
    rw [counted.decrypt_issued committing distinct member, if_pos (counted.age_le member recent)]
  · rw [counted.generation, length, Nat.add_sub_cancel_left]

/-- One minute. -/
def minute : Duration := .fromSecs 60 (by decide)

/-- A ticket, and two ticks of which the first finds no key. -/
def failingEvents : List RotatorEvent :=
  [.encrypt (.ok (Vector.replicate 12 0)) [5], .pass minute.asNanos, .tick (.error "empty"),
    .pass minute.asNanos, .tick (.ok (Vector.replicate 32 2))]

theorem failures_prolong_tickets_failingEvents :
    ∃ rotator state issuance,
      AwsLcTicketRotator.new minute (.ok (Vector.replicate 32 1)) = .ok rotator ∧
      Execution.run (step Service.plainCipher) (start rotator) failingEvents =
        some state ∧
      issuance ∈ state.issued ∧ state.decrypt issuance.ticket = some [5] ∧
      state.rotator.generation = 1 := by
  obtain ⟨rotator, state, issuance, made, executed, member, plain, young, distinct, sealed⟩ :
      ∃ rotator state issuance,
        AwsLcTicketRotator.new minute (.ok (Vector.replicate 32 1)) = .ok rotator ∧
        Execution.run (step Service.plainCipher) (start rotator) failingEvents =
          some state ∧
        issuance ∈ state.issued ∧ issuance.sealing.plaintext = [5] ∧ state.age issuance ≤ 1 ∧
        state.generated.Nodup ∧ state.sealed = [issuance.sealing] :=
    ⟨_, _, _, rfl, rfl, List.mem_singleton.mpr rfl, rfl, by decide, by decide, rfl⟩
  have prolonged := failures_prolong_tickets made executed distinct
    (sealed ▸ Sealing.committing_singleton _)
  refine ⟨rotator, state, issuance, made, executed, member, ?_, prolonged.2.2.2⟩
  rw [(prolonged.1 issuance member).1, if_pos young, plain]

end RotatorService

end OxiTls
