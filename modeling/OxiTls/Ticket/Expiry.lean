import OxiTls.Ticket.AntiReplay
import OxiTls.Ticket.Rotation

/-!
# Single use and ticket lifetime

An `AntiReplayTicketer` over an `OxiTicketer`.  The guard forgets a fingerprint once the lifetime
has passed, and relies on the ticketer to have expired the ticket by then.  The ticketer compares no
times: a ticket stops decrypting at the second rotation after it, however long that takes.  Single
use therefore holds over the runs in which no ticket is offered after its lifetime while its key is
still in a slot.
-/

namespace OxiTls

/-- A ticket that `decrypt` answered with a plaintext, and when. -/
structure Acceptance where
  ticket : Bytes
  acceptedAt : Nat
  deriving DecidableEq

/-- An `AntiReplayTicketer` over an `OxiTicketer` in operation. -/
structure GuardedService where
  service : Service
  guard : ReplayGuard
  accepted : List Acceptance

namespace Service

/-- The keys are distinct and the sealings committing. -/
def Ideal (state : Service) : Prop :=
  state.generated.Nodup ∧ Sealing.Committing state.sealed

/-- An event only adds keys and sealings. -/
theorem Ideal.of_step {cipher : Aead TicketKey 16} {state next : Service} {event : TicketEvent}
    (stepped : state.step cipher event = some next) (ideal : next.Ideal) : state.Ideal := by
  obtain ⟨distinct, committing⟩ := ideal
  rcases step_eq_some stepped with
    ⟨_, _, rfl⟩ | ⟨_, _, _, _, _, _, rfl⟩ | ⟨_, _, rfl⟩ | ⟨_, rfl⟩
  · exact ⟨distinct, committing⟩
  · refine ⟨distinct, ?_⟩
    simp only [sealed, List.map_append] at committing
    exact committing.of_append
  · exact ⟨(List.nodup_cons.mp distinct).2, committing⟩
  · exact ⟨distinct, committing⟩

/-- A ticket that decrypts is not two rotations old. -/
theorem Consistent.age_lt_two {state : Service} (consistent : state.Consistent)
    (ideal : state.Ideal) {issuance : Issuance} (member : issuance ∈ state.issued) {plain : Bytes}
    (decrypted : state.decrypt issuance.ticket = some plain) : state.age issuance < 2 := by
  rw [consistent.decrypt_issued ideal.2 ideal.1 member] at decrypted
  split_ifs at decrypted with young
  omega

end Service

namespace GuardedService

/-- `AntiReplayTicketer::new` over a new ticketer; the window is the ticket lifetime. -/
def start (key : TicketKey) (lifetimeSecs clock : Nat) : GuardedService :=
  ⟨.start key lifetimeSecs clock, .new lifetimeSecs, []⟩

variable (crates : Crates) (cipher : Aead TicketKey 16) (state : GuardedService)

/-- `decrypt`: its answer and the service afterwards. -/
def decrypt (ticket : Bytes) : Option Bytes × GuardedService :=
  let (answer, guard) :=
    state.guard.decrypt crates (state.service.decrypt ticket) state.service.clock ticket
  let accepted :=
    if answer.isSome then state.accepted ++ [⟨ticket, state.service.clock⟩] else state.accepted
  (answer, { state with guard, accepted })

/-- One event. -/
def step : TicketEvent → Option GuardedService
  | .decrypt ticket => some (state.decrypt crates ticket).2
  | event => (state.service.step cipher event).map fun service => { state with service }

/-- No ticket is accepted after its lifetime, and none is accepted twice. -/
def SingleUse (lifetimeSecs : Nat) : Prop :=
  (∀ acceptance ∈ state.accepted, ∀ issuance ∈ state.service.issued,
      issuance.ticket = acceptance.ticket →
        acceptance.acceptedAt ≤ issuance.issuedAt + lifetimeSecs) ∧
    (state.accepted.map Acceptance.ticket).Nodup

/-- A ticket is offered within its lifetime, or after two rotations have succeeded since. -/
def Timely (lifetimeSecs : Nat) : TicketEvent → Prop
  | .decrypt ticket => ∀ issuance ∈ state.service.issued, issuance.ticket = ticket →
      state.service.clock ≤ issuance.issuedAt + lifetimeSecs ∨ 2 ≤ state.service.age issuance
  | _ => True

/-! ## What one event does -/

variable {crates cipher state}

/-- Decryption changes nothing, prunes the table, or records and accepts a fresh ticket. -/
theorem decrypt_eq (ticket : Bytes) :
    (state.decrypt crates ticket).2 = state ∨
      (state.decrypt crates ticket).2 =
        { state with guard :=
          ⟨state.guard.seen.retain state.guard.windowSecs state.service.clock,
            state.guard.windowSecs⟩ } ∨
      ∃ plain, state.service.decrypt ticket = some plain ∧
        state.guard.seen.retain state.guard.windowSecs state.service.clock
          (crates.sha256 ticket) = none ∧
        (state.decrypt crates ticket).2 =
          { state with
            guard :=
              ⟨(state.guard.seen.retain state.guard.windowSecs state.service.clock).insert
                (crates.sha256 ticket) state.service.clock, state.guard.windowSecs⟩
            accepted := state.accepted ++ [⟨ticket, state.service.clock⟩] } := by
  unfold decrypt ReplayGuard.decrypt
  cases inner : state.service.decrypt ticket with
  | none => exact .inl (by simp)
  | some plain =>
      rcases state.guard.checkAndRecord_eq crates state.service.clock ticket with
        ⟨_, _, made⟩ | ⟨absent, made⟩
      · exact .inr (.inl (by simp [made]))
      · exact .inr (.inr ⟨plain, rfl, absent, by simp [made]⟩)

/-- An event is a decryption or leaves the guard alone. -/
theorem step_eq_some {next : GuardedService} {event : TicketEvent}
    (stepped : state.step crates cipher event = some next) :
    (∃ ticket, event = .decrypt ticket ∧ next = (state.decrypt crates ticket).2) ∨
      ∃ service, state.service.step cipher event = some service ∧
        next = { state with service } := by
  cases event with
  | decrypt ticket => exact .inl ⟨ticket, rfl, (Option.some.inj stepped).symm⟩
  | tick elapsed =>
      simp only [step, Option.map_eq_some_iff] at stepped
      obtain ⟨service, made, rfl⟩ := stepped
      exact .inr ⟨service, made, rfl⟩
  | encrypt entropy plain =>
      simp only [step, Option.map_eq_some_iff] at stepped
      obtain ⟨service, made, rfl⟩ := stepped
      exact .inr ⟨service, made, rfl⟩
  | rotate entropy =>
      simp only [step, Option.map_eq_some_iff] at stepped
      obtain ⟨service, made, rfl⟩ := stepped
      exact .inr ⟨service, made, rfl⟩

/-! ## The invariant -/

/-- Every acceptance is still recorded or past its window, and follows the issue of its ticket. -/
structure Accounted (crates : Crates) (lifetimeSecs : Nat) (state : GuardedService) : Prop where
  singleUse : state.SingleUse lifetimeSecs
  covered : ∀ acceptance ∈ state.accepted,
    state.guard.seen.Covers lifetimeSecs state.service.clock (crates.sha256 acceptance.ticket)
      acceptance.acceptedAt
  origin : ∀ acceptance ∈ state.accepted, acceptance.acceptedAt ≤ state.service.clock ∧
    ∃ issuance ∈ state.service.issued, issuance.ticket = acceptance.ticket ∧
      issuance.issuedAt ≤ acceptance.acceptedAt

/-- What every timely run preserves. -/
structure Invariant (crates : Crates) (lifetimeSecs : Nat) (state : GuardedService) : Prop where
  consistent : state.service.Consistent
  window : state.guard.windowSecs = lifetimeSecs
  accounted : state.service.Ideal → state.Accounted crates lifetimeSecs

theorem invariant_start (key : TicketKey) (lifetimeSecs clock : Nat) :
    (start key lifetimeSecs clock).Invariant crates lifetimeSecs where
  consistent := Service.consistent_start key lifetimeSecs clock
  window := rfl
  accounted _ := ⟨⟨by simp [start], by simp [start]⟩, by simp [start], by simp [start]⟩

/-- Time, issues and rotations keep every acceptance accounted for. -/
theorem Accounted.service {lifetimeSecs : Nat} {service : Service} {event : TicketEvent}
    (accounted : state.Accounted crates lifetimeSecs)
    (stepped : state.service.step cipher event = some service) :
    Accounted crates lifetimeSecs { state with service } := by
  rcases Service.step_eq_some stepped with
    ⟨elapsed, _, rfl⟩ | ⟨_, _, ticket, sealing, _, _, rfl⟩ | ⟨_, _, rfl⟩ | ⟨_, rfl⟩
  · refine ⟨accounted.singleUse, fun acceptance member => ?_, fun acceptance member => ?_⟩
    · exact (accounted.covered acceptance member).elapse (Nat.le_add_right _ _)
    · obtain ⟨past, issue⟩ := accounted.origin acceptance member
      exact ⟨Nat.le_trans past (Nat.le_add_right _ _), issue⟩
  · obtain ⟨expired, once⟩ := accounted.singleUse
    refine ⟨⟨fun acceptance member issuance issued same => ?_, once⟩, accounted.covered,
      fun acceptance member => ?_⟩
    · rcases List.mem_append.mp issued with earlier | last
      · exact expired acceptance member issuance earlier same
      · obtain rfl := List.mem_singleton.mp last
        exact Nat.le_trans (accounted.origin acceptance member).1 (Nat.le_add_right _ _)
    · obtain ⟨past, issuance, issued, same⟩ := accounted.origin acceptance member
      exact ⟨past, issuance, List.mem_append_left _ issued, same⟩
  · exact ⟨accounted.singleUse, accounted.covered, accounted.origin⟩
  · exact accounted

/-- A ticket that decrypts when it is timely is inside its lifetime. -/
theorem within_lifetime {lifetimeSecs : Nat} {ticket plain : Bytes}
    (consistent : state.service.Consistent) (ideal : state.service.Ideal)
    (timely : state.Timely lifetimeSecs (.decrypt ticket))
    (decrypted : state.service.decrypt ticket = some plain) {issuance : Issuance}
    (member : issuance ∈ state.service.issued) (same : issuance.ticket = ticket) :
    state.service.clock ≤ issuance.issuedAt + lifetimeSecs := by
  subst same
  have young := consistent.age_lt_two ideal member decrypted
  rcases timely issuance member rfl with current | old
  · exact current
  · omega

/-- A timely ticket that is found fresh has not been accepted before. -/
theorem Accounted.unaccepted {lifetimeSecs : Nat} {ticket plain : Bytes}
    (accounted : state.Accounted crates lifetimeSecs) (consistent : state.service.Consistent)
    (ideal : state.service.Ideal) (timely : state.Timely lifetimeSecs (.decrypt ticket))
    (decrypted : state.service.decrypt ticket = some plain)
    (absent : state.guard.seen.retain lifetimeSecs state.service.clock
      (crates.sha256 ticket) = none) :
    ticket ∉ state.accepted.map Acceptance.ticket := by
  intro listed
  obtain ⟨acceptance, member, rfl⟩ := List.mem_map.mp listed
  obtain ⟨_, issuance, issued, same, before⟩ := accounted.origin acceptance member
  have current := within_lifetime consistent ideal timely decrypted issued same
  have past := ((accounted.covered acceptance member).retain (Nat.le_refl _)).expired absent
  omega

/-- A timely fresh decryption keeps every acceptance accounted for. -/
theorem Accounted.accept {lifetimeSecs : Nat} {ticket plain : Bytes}
    (accounted : state.Accounted crates lifetimeSecs) (consistent : state.service.Consistent)
    (ideal : state.service.Ideal) (timely : state.Timely lifetimeSecs (.decrypt ticket))
    (decrypted : state.service.decrypt ticket = some plain)
    (absent : state.guard.seen.retain lifetimeSecs state.service.clock
      (crates.sha256 ticket) = none) :
    Accounted crates lifetimeSecs
      { state with
        guard :=
          ⟨(state.guard.seen.retain lifetimeSecs state.service.clock).insert
            (crates.sha256 ticket) state.service.clock, lifetimeSecs⟩
        accepted := state.accepted ++ [⟨ticket, state.service.clock⟩] } := by
  obtain ⟨expired, once⟩ := accounted.singleUse
  have unaccepted := accounted.unaccepted consistent ideal timely decrypted absent
  refine ⟨⟨fun acceptance member issuance issued same => ?_, ?_⟩, fun acceptance member => ?_,
    fun acceptance member => ?_⟩
  · rcases List.mem_append.mp member with earlier | last
    · exact expired acceptance earlier issuance issued same
    · obtain rfl := List.mem_singleton.mp last
      exact within_lifetime consistent ideal timely decrypted issued same
  · simpa [List.nodup_append, once] using unaccepted
  · rcases List.mem_append.mp member with earlier | last
    · exact ((accounted.covered acceptance earlier).retain (Nat.le_refl _)).insert absent _
    · obtain rfl := List.mem_singleton.mp last
      exact .inl (ExpiringTable.insert_self _ _ _)
  · rcases List.mem_append.mp member with earlier | last
    · exact accounted.origin acceptance earlier
    · obtain rfl := List.mem_singleton.mp last
      obtain ⟨issuance, issued, same, _⟩ := consistent.issued_of_decrypt ideal.1 decrypted
      exact ⟨Nat.le_refl _, issuance, issued, same,
        (consistent.genuine issuance issued).issuedAt⟩

theorem Invariant.step {lifetimeSecs : Nat} {next : GuardedService} {event : TicketEvent}
    (invariant : state.Invariant crates lifetimeSecs) (timely : state.Timely lifetimeSecs event)
    (stepped : state.step crates cipher event = some next) :
    next.Invariant crates lifetimeSecs := by
  obtain ⟨consistent, window, accounted⟩ := invariant
  rcases step_eq_some stepped with ⟨ticket, rfl, rfl⟩ | ⟨service, made, rfl⟩
  · rcases decrypt_eq ticket with same | pruned | ⟨plain, decrypted, absent, made⟩
    · rw [same]
      exact ⟨consistent, window, accounted⟩
    · rw [pruned, window]
      exact ⟨consistent, rfl, fun ideal => ⟨(accounted ideal).singleUse,
        fun _ member => ((accounted ideal).covered _ member).retain (Nat.le_refl _),
        (accounted ideal).origin⟩⟩
    · rw [made, window]
      rw [window] at absent
      exact ⟨consistent, rfl, fun ideal =>
        (accounted ideal).accept consistent ideal timely decrypted absent⟩
  · exact ⟨consistent.step made, window, fun ideal => (accounted (ideal.of_step made)).service made⟩

/-- In every run that offers tickets only within their lifetime or after two rotations, every ticket
is accepted within its lifetime and at most once. -/
theorem singleUse_of_meets {key : TicketKey} {lifetimeSecs clock : Nat}
    {events : List TicketEvent} {state : GuardedService}
    (executed : Execution.run (step crates cipher) (start key lifetimeSecs clock) events =
      some state)
    (distinct : state.service.generated.Nodup)
    (committing : Sealing.Committing state.service.sealed)
    (timely : Execution.Meets (step crates cipher) (fun state => state.Timely lifetimeSecs)
      (start key lifetimeSecs clock) events) :
    state.SingleUse lifetimeSecs := by
  have invariant : state.Invariant crates lifetimeSecs :=
    Execution.invariant_of_meets
      (fun _ _ _ invariant timely stepped => invariant.step timely stepped)
      (invariant_start key lifetimeSecs clock) timely executed
  exact (invariant.accounted ⟨distinct, committing⟩).singleUse

/-- A ticket is issued and offered twice at once. -/
def promptEvents : List TicketEvent :=
  [.encrypt (.ok (Vector.replicate 12 0)) [5], .decrypt Service.sampleTicket,
    .decrypt Service.sampleTicket]

theorem singleUse_of_meets_prompt :
    ∃ state, Execution.run (step .inert Service.plainCipher) (start (Service.uniformKey 1) 60 0)
        promptEvents = some state ∧
      state.accepted = [⟨Service.sampleTicket, 0⟩] ∧ state.SingleUse 60 := by
  have executed : Execution.run (step .inert Service.plainCipher)
    (start (Service.uniformKey 1) 60 0) promptEvents = some _ := rfl
  refine ⟨_, executed, by decide, singleUse_of_meets executed (by decide)
    (Sealing.committing_singleton _) ⟨trivial, ?_⟩⟩
  rintro issued ⟨⟩
  refine ⟨fun _ _ _ => .inl (Nat.zero_le _), ?_⟩
  rintro offered ⟨⟩
  exact ⟨fun _ _ _ => .inl (Nat.zero_le _), fun _ _ => trivial⟩

/-- A ticket with a lifetime of sixty seconds is offered at once and again after sixty-one. -/
def lateEvents : List TicketEvent :=
  [.encrypt (.ok (Vector.replicate 12 0)) [5], .decrypt Service.sampleTicket, .tick 61,
    .decrypt Service.sampleTicket]

/-- The guard has forgotten the ticket and the ticketer still decrypts it. -/
theorem lateEvents_accepted_twice :
    ∃ state, Execution.run (step .inert Service.plainCipher) (start (Service.uniformKey 1) 60 0)
        lateEvents = some state ∧
      state.service.generated.Nodup ∧ Sealing.Committing state.service.sealed ∧
      state.accepted = [⟨Service.sampleTicket, 0⟩, ⟨Service.sampleTicket, 61⟩] ∧
      ¬ state.SingleUse 60 := by
  have executed : Execution.run (step .inert Service.plainCipher)
    (start (Service.uniformKey 1) 60 0) lateEvents = some _ := rfl
  refine ⟨_, executed, by decide, Sealing.committing_singleton _, by decide, fun singleUse => ?_⟩
  have once := singleUse.2
  revert once
  decide

end GuardedService

end OxiTls
