import OxiTls.Ticket.AwsLcRotator

/-!
# Lifetime of rotating tickets

An `AwsLcTicketRotator` advertises twice its interval, in whole seconds that fit into 32 bits, as
the lifetime of a ticket.  While no rotation fails, a ticket decrypts for at least one interval and
for at most two.
-/

namespace OxiTls

/-- The lifetime is twice the interval, clamped; no step of its computation overflows. -/
theorem AwsLcTicketRotator.lifetimeOf_eq (interval : Duration) :
    lifetimeOf interval = min (2 * max interval.asSecs 1) (2 ^ 32 - 1) := by
  simp only [lifetimeOf, saturatingMul]
  omega

/-- A duration of less than a second or of whole seconds, twice which is at most `u32::MAX`
seconds. -/
def Duration.Advertisable (duration : Duration) : Prop :=
  (duration.secs = 0 ∨ duration.nanos = 0) ∧ 2 * duration.secs ≤ 2 ^ 32 - 1

/-- Two intervals pass within an advertised lifetime. -/
theorem Duration.Advertisable.twice_le {interval : Duration} (fits : interval.Advertisable) :
    2 * interval.asNanos ≤ AwsLcTicketRotator.lifetimeOf interval * 1000000000 := by
  obtain ⟨fraction, bounded⟩ := fits
  have := interval.nanos_lt
  rw [AwsLcTicketRotator.lifetimeOf_eq, asNanos, asSecs]
  omega

/-- Whether an event is a rotation that finds no key. -/
def RotatorEvent.fails : RotatorEvent → Bool
  | .tick (.error _) => true
  | _ => false

namespace RotatorService

variable {cipher : Aead TicketKey 16} {state : RotatorService}

/-! ## The schedule -/

/-- The keys have been rotated at every multiple of the interval up to now, and every ticket was
issued after the rotation to its key. -/
structure OnSchedule (interval : Duration) (state : RotatorService) : Prop
    extends state.Counted interval where
  rotated : state.nextTick = state.generated.length * interval.asNanos
  issuedAfter : ∀ issuance ∈ state.issued,
    issuance.generation * interval.asNanos ≤ issuance.issuedAt + interval.asNanos

theorem onSchedule_start {interval : Duration} {entropy : Except String (Vector UInt8 32)}
    {rotator : AwsLcTicketRotator} (made : AwsLcTicketRotator.new interval entropy = .ok rotator) :
    (start rotator).OnSchedule interval := by
  have counted := counted_start made
  have first : (start rotator).nextTick = interval.asNanos :=
    congrArg Duration.asNanos counted.configured
  refine ⟨counted, ?_, by simp [start]⟩
  rw [first]
  exact (Nat.one_mul _).symm

theorem OnSchedule.step {interval : Duration} {next : RotatorService} {event : RotatorEvent}
    (scheduled : state.OnSchedule interval) (rotates : event.fails = false)
    (stepped : state.step cipher event = some next) : next.OnSchedule interval := by
  have counted := scheduled.toCounted.step stepped
  rcases step_cases stepped with
    ⟨bytes, -, due, rfl⟩ | ⟨-, ⟨elapsed, -, rfl⟩ | ⟨message, rfl, -, -⟩ |
      ⟨entropy, plain, ticket, sealing, -, -, rfl⟩ | rfl⟩
  · refine ⟨counted, ?_, scheduled.issuedAfter⟩
    rw [nextTick_tick, scheduled.configured, scheduled.rotated, length_generated_tick,
      Nat.succ_mul]
  · exact ⟨counted, scheduled.rotated, scheduled.issuedAfter⟩
  · contradiction
  · refine ⟨counted, scheduled.rotated, fun issuance member => ?_⟩
    rcases List.mem_append.mp member with earlier | last
    · exact scheduled.issuedAfter issuance earlier
    · obtain rfl := List.mem_singleton.mp last
      exact scheduled.rotated ▸ scheduled.started
  · exact scheduled

/-- A run of a new rotator in which no rotation fails is on schedule. -/
theorem onSchedule_of_run {interval : Duration} {entropy : Except String (Vector UInt8 32)}
    {rotator : AwsLcTicketRotator} {events : List RotatorEvent}
    (made : AwsLcTicketRotator.new interval entropy = .ok rotator)
    (rotates : ∀ event ∈ events, event.fails = false)
    (executed : Execution.run (step cipher) (start rotator) events = some state) :
    state.OnSchedule interval := by
  have met : Execution.Meets (step cipher) (fun _ event => event.fails = false) (start rotator)
      events :=
    Execution.meets_of_forall_mem (fun event member _ => rotates event member) _
  exact Execution.invariant_of_meets
    (fun _ _ _ scheduled rotates stepped => scheduled.step rotates stepped)
    (onSchedule_start made) met executed

/-! ## How long a ticket decrypts -/

/-- Before the second rotation, less than two intervals have passed. -/
theorem OnSchedule.clock_lt {interval : Duration} (scheduled : state.OnSchedule interval)
    {issuance : Issuance} (member : issuance ∈ state.issued)
    (ticked : state.clock < state.nextTick) (young : state.age issuance ≤ 1) :
    state.clock < issuance.issuedAt + 2 * interval.asNanos := by
  have rotated : state.generated.length ≤ issuance.generation + 1 := by
    unfold age at young
    omega
  have ticks := Nat.mul_le_mul_right interval.asNanos rotated
  have after := scheduled.issuedAfter issuance member
  rw [← scheduled.rotated, Nat.add_mul] at ticks
  omega

/-- Over every run in which no rotation fails, with distinct keys and committing sealings, a ticket
decrypts at every time up to one interval after its issue, and at no time later than two intervals
after it, which is within the lifetime if twice the interval can be advertised; nothing else
decrypts; and the lifetime is twice the seconds of the interval, clamped, without overflow. -/
theorem lifetime_contract {interval : Duration} {entropy : Except String (Vector UInt8 32)}
    {rotator : AwsLcTicketRotator} {events : List RotatorEvent}
    (made : AwsLcTicketRotator.new interval entropy = .ok rotator)
    (rotates : ∀ event ∈ events, event.fails = false)
    (executed : Execution.run (step cipher) (start rotator) events = some state)
    (ticked : state.clock < state.nextTick) (distinct : state.generated.Nodup)
    (committing : Sealing.Committing state.sealed) :
    (∀ issuance ∈ state.issued,
      (state.clock ≤ issuance.issuedAt + interval.asNanos →
        state.decrypt issuance.ticket = some issuance.sealing.plaintext) ∧
      (state.decrypt issuance.ticket ≠ none →
        state.clock ≤ issuance.issuedAt + 2 * interval.asNanos ∧
        (interval.Advertisable →
          state.clock ≤ issuance.issuedAt + state.rotator.lifetime * 1000000000))) ∧
    (∀ ticket plain, state.decrypt ticket = some plain →
      ∃ issuance ∈ state.issued, issuance.ticket = ticket) ∧
    state.rotator.lifetime = min (2 * max interval.asSecs 1) (2 ^ 32 - 1) := by
  have scheduled := onSchedule_of_run made rotates executed
  refine ⟨fun issuance member => ⟨fun recent => ?_, fun decrypted => ?_⟩,
    fun ticket plain decrypted => scheduled.issued_of_decrypt decrypted, ?_⟩
  · rw [scheduled.decrypt_issued committing distinct member,
      if_pos (scheduled.age_le member recent)]
  · rw [scheduled.decrypt_issued committing distinct member, ite_ne_right_iff] at decrypted
    have within := scheduled.clock_lt member ticked decrypted.1
    refine ⟨Nat.le_of_lt within, fun fits => ?_⟩
    have advertised := fits.twice_le
    rw [scheduled.lifetime]
    omega
  · rw [scheduled.lifetime, AwsLcTicketRotator.lifetimeOf_eq]

/-- A ticket at the start, one rotation, and all the time until the next. -/
def twoPeriodEvents (interval : Duration) : List RotatorEvent :=
  [.encrypt (.ok (Vector.replicate 12 0)) [5], .pass interval.asNanos,
    .tick (.ok (Vector.replicate 32 2)), .pass (interval.asNanos - 1)]

theorem lifetime_contract_minute :
    ∃ rotator state issuance,
      AwsLcTicketRotator.new minute (.ok (Vector.replicate 32 1)) = .ok rotator ∧
      Execution.run (step Service.plainCipher) (start rotator) (twoPeriodEvents minute) =
        some state ∧
      issuance ∈ state.issued ∧ state.decrypt issuance.ticket = some [5] ∧
      state.clock ≤ issuance.issuedAt + state.rotator.lifetime * 1000000000 := by
  obtain ⟨rotator, state, issuance, made, executed, member, decrypted, ticked, distinct, sealed⟩ :
      ∃ rotator state issuance,
        AwsLcTicketRotator.new minute (.ok (Vector.replicate 32 1)) = .ok rotator ∧
        Execution.run (step Service.plainCipher) (start rotator) (twoPeriodEvents minute) =
          some state ∧
        issuance ∈ state.issued ∧ state.decrypt issuance.ticket = some [5] ∧
        state.clock < state.nextTick ∧ state.generated.Nodup ∧
        state.sealed = [issuance.sealing] :=
    ⟨_, _, _, rfl, rfl, List.mem_singleton.mpr rfl, rfl, by decide, by decide, rfl⟩
  have contract := lifetime_contract made (by decide) executed ticked distinct
    (sealed ▸ Sealing.committing_singleton _)
  have found : state.decrypt issuance.ticket ≠ none := by simp [decrypted]
  have within := ((contract.1 issuance member).2 found).2 ⟨.inr rfl, by decide⟩
  exact ⟨rotator, state, issuance, made, executed, member, decrypted, within⟩

/-- A ticket decrypts after the advertised lifetime. -/
def Overstays (interval : Duration) : Prop :=
  ∃ rotator state issuance,
    AwsLcTicketRotator.new interval (.ok (Vector.replicate 32 1)) = .ok rotator ∧
    Execution.run (step Service.plainCipher) (start rotator) (twoPeriodEvents interval) =
      some state ∧
    state.clock < state.nextTick ∧ state.generated.Nodup ∧ issuance ∈ state.issued ∧
    state.sealed = [issuance.sealing] ∧ state.decrypt issuance.ticket = some [5] ∧
    issuance.issuedAt + state.rotator.lifetime * 1000000000 < state.clock

/-- An interval whose double does not fit into 32 bits. -/
def hugeInterval : Duration := .fromSecs (2 ^ 31) (by decide)

/-- A second and a half. -/
def fractionalInterval : Duration := ⟨1, 500000000, by decide, by decide⟩

/-- The lifetime is clamped for a huge interval and loses the fraction of another. -/
theorem huge_and_fractional_overstay : Overstays hugeInterval ∧ Overstays fractionalInterval := by
  constructor
  · exact ⟨_, _, _, rfl, rfl, by decide, by decide, List.mem_singleton.mpr rfl, rfl, rfl,
      by decide⟩
  · exact ⟨_, _, _, rfl, rfl, by decide, by decide, List.mem_singleton.mpr rfl, rfl, rfl,
      by decide⟩

end RotatorService

end OxiTls
