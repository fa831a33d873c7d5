import Mathlib.Data.List.Nodup
import Mathlib.Logic.Function.Basic
import OxiTls.Library.Execution

/-!
# Pings of an HTTP/2 connection

`connection.rs` of `oxitls-h2`: callers of `ping` and the keepalive task share one `PingPong` handle
behind a lock of tokio, which serves its waiters in the order in which they came and is held until
h2 answers the ping.  So pings do not overlap, unless the future of a ping in flight is dropped:
that releases the lock and leaves the ping in flight.
-/

namespace OxiTls

namespace Http2

/-- The `h2` crate, as far as a `PingPong` handle shows it. -/
structure H2Crate where
  PingPong : Type
  Error : Type
  /-- What the driver of the connection and the peer do. -/
  Event : Type
  /-- `PingPong::ping` up to its wait for the pong. -/
  send : PingPong → Except Error PingPong
  /-- A poll for the pong; `none` while it is pending. -/
  poll : PingPong → Option (Except Error PingPong)
  drive : PingPong → Event → PingPong

/-- A handle with no ping out can send one, and an answered ping is out no more.  Otherwise only the
end of the connection fails a ping in flight, and it is for good. -/
structure H2Crate.Documented (h2 : H2Crate) (rests ended : h2.PingPong → Prop) : Prop where
  send_rests : ∀ {handle}, rests handle → ∃ sent, h2.send handle = .ok sent
  send_ended : ∀ {handle sent}, ended handle → h2.send handle ≠ .ok sent
  poll_ok : ∀ {handle answered}, h2.poll handle = some (.ok answered) →
    rests answered ∧ ¬ ended handle
  poll_error : ∀ {handle failure}, h2.poll handle = some (.error failure) → ended handle
  drive_rests : ∀ {handle event}, rests handle →
    rests (h2.drive handle event) ∨ ended (h2.drive handle event)
  drive_ended : ∀ {handle event}, ended handle → ended (h2.drive handle event)

/-- Who pings: a call of `ping`, or the keepalive task. -/
inductive Pinger
  | call (id : Nat)
  | keepalive
  deriving DecidableEq, Repr

/-- The errors of `ping`, which also end the loop of the keepalive task. -/
inductive PingError (Error : Type)
  | handleConsumed
  | h2 (failure : Error)
  deriving DecidableEq, Repr

/-- Where a pinger is: before a ping, in the queue of the lock, waiting for the pong with the lock
in hand, returned, or dropped. -/
inductive PingPhase (Error : Type)
  | idle
  | queued
  | waiting
  | returned (result : Except (PingError Error) Unit)
  | dropped

/-- An `H2Connection`: the handle under its lock, the holder and the queue of the lock, and the
pingers. -/
structure H2Connection (h2 : H2Crate) where
  pingPong : Option h2.PingPong
  holder : Option Pinger := none
  queue : List Pinger := []
  phase : Pinger → PingPhase h2.Error
  /-- Whether the future of a ping in flight has been dropped. -/
  abandoned : Bool := false

/-- What the callers, the tasks, the connection and the peer do. -/
inductive PingEvent (Event : Type)
  /-- A call of `ping`, or a tick of the keepalive task, comes to the lock. -/
  | lock (pinger : Pinger)
  /-- The lock is free, and the first in the queue gets it; at once where no one else waits. -/
  | acquire (pinger : Pinger)
  /-- The holder of the lock polls h2, which answers. -/
  | answer
  | drive (event : Event)
  /-- A future is dropped, or a task is aborted. -/
  | drop (pinger : Pinger)
  deriving DecidableEq, Repr

namespace H2Connection

variable {h2 : H2Crate}

/-- `H2Connection::new`, given what `ping_pong` of the connection hands out and whether a keepalive
interval is set. -/
def new (handle : Option h2.PingPong) (keepalive : Bool) : H2Connection h2 where
  pingPong := handle
  phase
    | .call _ => .idle
    | .keepalive => if keepalive then .idle else .dropped

variable (connection : H2Connection h2)

/-- A pinger moves on. -/
def move (pinger : Pinger) (phase : PingPhase h2.Error) : H2Connection h2 :=
  { connection with phase := Function.update connection.phase pinger phase }

/-- What the holder of the lock does up to its next wait: take the handle and send the ping.  An
error returns, which releases the lock. -/
def enter (pinger : Pinger) : H2Connection h2 :=
  match connection.pingPong with
  | none => connection.move pinger (.returned (.error .handleConsumed))
  | some handle =>
      match h2.send handle with
      | .error failure => connection.move pinger (.returned (.error (.h2 failure)))
      | .ok sent =>
          { connection.move pinger .waiting with pingPong := some sent, holder := some pinger }

/-- After a pong a call returns, and the keepalive task waits for its next tick. -/
def answered : Pinger → PingPhase h2.Error
  | .call _ => .returned (.ok ())
  | .keepalive => .idle

/-- The holder of the lock has its answer, and releases the lock. -/
def settle (pinger : Pinger) : Except h2.Error h2.PingPong → H2Connection h2
  | .error failure =>
      { connection.move pinger (.returned (.error (.h2 failure))) with holder := none }
  | .ok handle =>
      { connection.move pinger (answered pinger) with pingPong := some handle, holder := none }

/-- One event. -/
def step : PingEvent h2.Event → Option (H2Connection h2)
  | .lock pinger =>
      match connection.phase pinger with
      | .idle =>
          some { connection.move pinger .queued with queue := connection.queue ++ [pinger] }
      | _ => none
  | .acquire pinger =>
      match connection.holder, connection.queue with
      | none, first :: later =>
          if pinger = first then some ({ connection with queue := later }.enter pinger) else none
      | _, _ => none
  | .answer =>
      match connection.holder, connection.pingPong with
      | some pinger, some handle => (h2.poll handle).map (connection.settle pinger)
      | _, _ => none
  | .drive event =>
      some { connection with pingPong := connection.pingPong.map (h2.drive · event) }
  | .drop pinger =>
      match connection.phase pinger with
      | .idle => some (connection.move pinger .dropped)
      | .queued =>
          some { connection.move pinger .dropped with queue := connection.queue.erase pinger }
      | .waiting =>
          some { connection.move pinger .dropped with holder := none, abandoned := true }
      | .returned _ | .dropped => none

variable {connection}

/-- What each event does: a pinger comes to the lock, or gets it; the holder has its answer; the
connection goes on; or a pinger is dropped, from the queue, with the lock in hand, or before. -/
theorem step_cases {next : H2Connection h2} {event : PingEvent h2.Event}
    (stepped : connection.step event = some next) :
    (∃ pinger, event = .lock pinger ∧ connection.phase pinger = .idle ∧
      next = { connection.move pinger .queued with queue := connection.queue ++ [pinger] }) ∨
    (∃ pinger later, event = .acquire pinger ∧ connection.holder = none ∧
      connection.queue = pinger :: later ∧
      next = { connection with queue := later }.enter pinger) ∨
    (∃ pinger handle answer, event = .answer ∧ connection.holder = some pinger ∧
      connection.pingPong = some handle ∧ h2.poll handle = some answer ∧
      next = connection.settle pinger answer) ∨
    (∃ driven, event = .drive driven ∧ next = { connection with
      pingPong := connection.pingPong.map (h2.drive · driven) }) ∨
    (∃ pinger, event = .drop pinger ∧ connection.phase pinger = .idle ∧
      next = connection.move pinger .dropped) ∨
    (∃ pinger, event = .drop pinger ∧ connection.phase pinger = .queued ∧
      next = { connection.move pinger .dropped with queue := connection.queue.erase pinger }) ∨
    ∃ pinger, event = .drop pinger ∧ connection.phase pinger = .waiting ∧
      next = { connection.move pinger .dropped with holder := none, abandoned := true } := by
  cases event with
  | lock pinger =>
      simp only [step] at stepped
      split at stepped
      case h_1 idle => exact .inl ⟨pinger, rfl, idle, (Option.some.inj stepped).symm⟩
      case h_2 => cases stepped
  | acquire pinger =>
      simp only [step] at stepped
      split at stepped
      case h_1 first later free queue =>
        obtain ⟨rfl, entered⟩ := Option.ite_none_right_eq_some.mp stepped
        exact .inr (.inl ⟨pinger, later, rfl, free, queue, (Option.some.inj entered).symm⟩)
      case h_2 => cases stepped
  | answer =>
      simp only [step] at stepped
      split at stepped
      case h_1 pinger handle held given =>
        obtain ⟨answer, polled, rfl⟩ := Option.map_eq_some_iff.mp stepped
        exact .inr (.inr (.inl ⟨pinger, handle, answer, rfl, held, given, polled, rfl⟩))
      case h_2 => cases stepped
  | drive driven => exact .inr (.inr (.inr (.inl ⟨driven, rfl, (Option.some.inj stepped).symm⟩)))
  | drop pinger =>
      simp only [step] at stepped
      refine .inr (.inr (.inr (.inr ?_)))
      split at stepped
      case h_1 idle => exact .inl ⟨pinger, rfl, idle, (Option.some.inj stepped).symm⟩
      case h_2 queued => exact .inr (.inl ⟨pinger, rfl, queued, (Option.some.inj stepped).symm⟩)
      case h_3 waiting => exact .inr (.inr ⟨pinger, rfl, waiting, (Option.some.inj stepped).symm⟩)
      case h_4 => cases stepped
      case h_5 => cases stepped

/-- A pinger with the lock returns an error or sends. -/
theorem enter_cases (connection : H2Connection h2) (pinger : Pinger) :
    (connection.pingPong = none ∧
      connection.enter pinger = connection.move pinger (.returned (.error .handleConsumed))) ∨
    (∃ handle failure, connection.pingPong = some handle ∧ h2.send handle = .error failure ∧
      connection.enter pinger = connection.move pinger (.returned (.error (.h2 failure)))) ∨
    ∃ handle sent, connection.pingPong = some handle ∧ h2.send handle = .ok sent ∧
      connection.enter pinger =
        { connection.move pinger .waiting with pingPong := some sent, holder := some pinger } := by
  unfold enter
  cases given : connection.pingPong with
  | none => exact .inl ⟨rfl, rfl⟩
  | some handle =>
      cases sending : h2.send handle with
      | error failure => exact .inr (.inl ⟨handle, failure, rfl, sending, by simp only [sending]⟩)
      | ok sent => exact .inr (.inr ⟨handle, sent, rfl, sending, by simp only [sending]⟩)

section Moves

variable {pinger other : Pinger} {phase : PingPhase h2.Error}

@[simp]
theorem phase_move_self : (connection.move pinger phase).phase pinger = phase :=
  Function.update_self ..

theorem phase_move_of_ne (different : other ≠ pinger) :
    (connection.move pinger phase).phase other = connection.phase other :=
  Function.update_of_ne different ..

@[simp]
theorem pingPong_move : (connection.move pinger phase).pingPong = connection.pingPong := rfl

@[simp]
theorem holder_move : (connection.move pinger phase).holder = connection.holder := rfl

@[simp]
theorem queue_move : (connection.move pinger phase).queue = connection.queue := rfl

@[simp]
theorem abandoned_move : (connection.move pinger phase).abandoned = connection.abandoned := rfl

end Moves

/-! ## The lock -/

/-- The holder of the lock is the one pinger that waits, for a ping that was sent, and the queue
holds the pingers that are queued. -/
structure Orderly (connection : H2Connection h2) : Prop where
  holds : ∀ pinger, connection.holder = some pinger ↔ connection.phase pinger = .waiting
  queues : ∀ pinger, pinger ∈ connection.queue ↔ connection.phase pinger = .queued
  nodup : connection.queue.Nodup
  sent : connection.holder ≠ none → connection.pingPong ≠ none

theorem orderly_new (handle : Option h2.PingPong) (keepalive : Bool) :
    (new handle keepalive).Orderly where
  holds pinger := by
    cases pinger <;> cases keepalive <;> simp [new]
  queues pinger := by
    cases pinger <;> cases keepalive <;> simp [new]
  nodup := .nil
  sent held := absurd rfl held

/-- A pinger moves, and the holder and the queue change with it. -/
theorem Orderly.of_move {pinger : Pinger} {phase : PingPhase h2.Error} {next : H2Connection h2}
    (orderly : connection.Orderly) (moved : next.phase = (connection.move pinger phase).phase)
    (held : next.holder = some pinger ↔ phase = .waiting)
    (otherHeld : ∀ other ≠ pinger, next.holder = some other ↔ connection.holder = some other)
    (queued : pinger ∈ next.queue ↔ phase = .queued)
    (otherQueued : ∀ other ≠ pinger, other ∈ next.queue ↔ other ∈ connection.queue)
    (nodup : next.queue.Nodup) (sent : next.holder ≠ none → next.pingPong ≠ none) :
    next.Orderly where
  holds other := by
    rw [moved]
    by_cases same : other = pinger
    · rw [same, phase_move_self, held]
    · rw [phase_move_of_ne same, otherHeld other same, orderly.holds]
  queues other := by
    rw [moved]
    by_cases same : other = pinger
    · rw [same, phase_move_self, queued]
    · rw [phase_move_of_ne same, otherQueued other same, orderly.queues]
  nodup := nodup
  sent := sent

section Orderly

variable {pinger : Pinger} {phase : PingPhase h2.Error}

/-- A pinger that neither holds the lock nor is queued, before or after. -/
theorem Orderly.move (orderly : connection.Orderly)
    (before : connection.phase pinger ≠ .waiting ∧ connection.phase pinger ≠ .queued)
    (after : phase ≠ .waiting ∧ phase ≠ .queued) : (connection.move pinger phase).Orderly :=
  orderly.of_move rfl
    (iff_of_false (fun held => before.1 ((orderly.holds pinger).mp held)) after.1)
    (fun _ _ => .rfl)
    (iff_of_false (fun mem => before.2 ((orderly.queues pinger).mp mem)) after.2)
    (fun _ _ => .rfl) orderly.nodup orderly.sent

/-- The holder of the lock releases it. -/
theorem Orderly.release (orderly : connection.Orderly) (held : connection.holder = some pinger)
    (after : phase ≠ .waiting ∧ phase ≠ .queued) {next : H2Connection h2}
    (moved : next.phase = (connection.move pinger phase).phase) (free : next.holder = none)
    (queue : next.queue = connection.queue) : next.Orderly := by
  have waits := (orderly.holds pinger).mp held
  refine orderly.of_move moved (iff_of_false (by rw [free]; nofun) after.1) ?_
    (iff_of_false ?_ after.2) ?_ (queue ▸ orderly.nodup) (fun taken => absurd free taken)
  · intro other different
    rw [free, held, Option.some.injEq]
    exact iff_of_false nofun different.symm
  · rw [queue, orderly.queues, waits]
    nofun
  · intro other _
    rw [queue]

/-- A pinger leaves the queue. -/
theorem Orderly.leave (orderly : connection.Orderly) {next : H2Connection h2}
    (moved : next.phase = (connection.move pinger phase).phase) (after : phase ≠ .queued)
    (left : next.queue = connection.queue.erase pinger)
    (held : next.holder = some pinger ↔ phase = .waiting)
    (otherHeld : ∀ other ≠ pinger, next.holder = some other ↔ connection.holder = some other)
    (sent : next.holder ≠ none → next.pingPong ≠ none) : next.Orderly := by
  refine orderly.of_move moved held otherHeld (iff_of_false ?_ after) ?_
    (left ▸ orderly.nodup.erase pinger) sent
  · rw [left]
    exact orderly.nodup.not_mem_erase
  · intro other different
    rw [left]
    exact List.mem_erase_of_ne different

theorem answered_settled (pinger : Pinger) :
    (answered pinger : PingPhase h2.Error) ≠ .waiting ∧
      (answered pinger : PingPhase h2.Error) ≠ .queued := by
  cases pinger <;> exact ⟨nofun, nofun⟩

/-- The first in the queue gets the free lock. -/
theorem Orderly.enter (orderly : connection.Orderly) (free : connection.holder = none)
    {later : List Pinger} (queue : connection.queue = pinger :: later) :
    ({ connection with queue := later }.enter pinger).Orderly := by
  have left : later = connection.queue.erase pinger := by rw [queue, List.erase_cons_head]
  have unheld (other : Pinger) : connection.holder ≠ some other := by
    rw [free]
    nofun
  rcases { connection with queue := later }.enter_cases pinger with
    ⟨-, entered⟩ | ⟨_, _, -, -, entered⟩ | ⟨_, _, -, -, entered⟩ <;> rw [entered]
  · exact orderly.leave rfl (by nofun) left (iff_of_false (unheld pinger) (by nofun))
      (fun _ _ => .rfl) orderly.sent
  · exact orderly.leave rfl (by nofun) left (iff_of_false (unheld pinger) (by nofun))
      (fun _ _ => .rfl) orderly.sent
  · refine orderly.leave rfl (by nofun) left (iff_of_true rfl rfl) ?_ (fun _ => nofun)
    intro other different
    exact iff_of_false (fun same => different (Option.some.inj same).symm) (unheld other)

theorem Orderly.step (orderly : connection.Orderly) {next : H2Connection h2}
    {event : PingEvent h2.Event} (stepped : connection.step event = some next) :
    next.Orderly := by
  rcases step_cases stepped with
    ⟨pinger, -, idle, rfl⟩ | ⟨pinger, later, -, free, queue, rfl⟩ |
      ⟨pinger, handle, answer, -, held, -, -, rfl⟩ | ⟨driven, -, rfl⟩ | ⟨pinger, -, idle, rfl⟩ |
      ⟨pinger, -, queued, rfl⟩ | ⟨pinger, -, waiting, rfl⟩
  · have absent : pinger ∉ connection.queue := by
      rw [orderly.queues, idle]
      nofun
    refine orderly.of_move rfl (iff_of_false ?_ (by nofun)) (fun _ _ => .rfl)
      (iff_of_true (by simp) rfl) ?_ ?_ orderly.sent
    · rw [holder_move, orderly.holds, idle]
      nofun
    · intro other different
      simp [different]
    · simpa using orderly.nodup.concat absent
  · exact orderly.enter free queue
  · cases answer with
    | error failure => exact orderly.release held ⟨by nofun, by nofun⟩ rfl rfl rfl
    | ok handle => exact orderly.release held (answered_settled pinger) rfl rfl rfl
  · refine ⟨orderly.holds, orderly.queues, orderly.nodup, fun held => ?_⟩
    exact (Option.map_eq_none_iff.not).mpr (orderly.sent held)
  · exact orderly.move (by rw [idle]; exact ⟨nofun, nofun⟩) ⟨nofun, nofun⟩
  · refine orderly.leave rfl (by nofun) rfl (iff_of_false ?_ (by nofun)) (fun _ _ => .rfl)
      orderly.sent
    rw [holder_move, orderly.holds, queued]
    nofun
  · exact orderly.release ((orderly.holds pinger).mpr waiting) ⟨by nofun, by nofun⟩ rfl rfl rfl

end Orderly

/-! ## Who enters in which order -/

/-- The pinger that comes to the lock. -/
def arrival : PingEvent h2.Event → List Pinger
  | .lock pinger => [pinger]
  | _ => []

/-- The pinger that gets the lock. -/
def entry : PingEvent h2.Event → List Pinger
  | .acquire pinger => [pinger]
  | _ => []

theorem queue_settle (pinger : Pinger) (answer : Except h2.Error h2.PingPong) :
    (connection.settle pinger answer).queue = connection.queue := by
  cases answer <;> rfl

theorem queue_enter (connection : H2Connection h2) (pinger : Pinger) :
    (connection.enter pinger).queue = connection.queue := by
  rcases connection.enter_cases pinger with
    ⟨-, entered⟩ | ⟨_, _, -, -, entered⟩ | ⟨_, _, -, -, entered⟩ <;> rw [entered] <;> rfl

theorem sublist_of_step {next : H2Connection h2} {event : PingEvent h2.Event}
    (stepped : connection.step event = some next) :
    (entry event ++ next.queue).Sublist (connection.queue ++ arrival event) := by
  rcases step_cases stepped with
    ⟨pinger, rfl, -, rfl⟩ | ⟨pinger, later, rfl, -, queue, rfl⟩ |
      ⟨pinger, handle, answer, rfl, -, -, -, rfl⟩ | ⟨driven, rfl, rfl⟩ | ⟨pinger, rfl, -, rfl⟩ |
      ⟨pinger, rfl, -, rfl⟩ | ⟨pinger, rfl, -, rfl⟩
  · exact .refl _
  · rw [queue_enter, queue]
    simp [entry, arrival]
  · rw [queue_settle]
    simp [entry, arrival]
  · simp [entry, arrival]
  · simp [entry, arrival]
  · simpa [entry, arrival] using List.erase_sublist
  · simp [entry, arrival]

/-- Those who got the lock and those who still wait for it do so in the order in which they came. -/
theorem sublist_of_run {first : H2Connection h2} {events : List (PingEvent h2.Event)}
    (executed : Execution.run step first events = some connection) :
    (events.flatMap entry ++ connection.queue).Sublist
      (first.queue ++ events.flatMap arrival) := by
  induction events generalizing first with
  | nil =>
      obtain rfl := Option.some.inj executed
      simp
  | cons event events induction =>
      obtain ⟨next, stepped, continued⟩ := Execution.run_cons_eq_some_iff.mp executed
      have later := (induction continued).append_left (entry event)
      have earlier := (sublist_of_step stepped).append_right (events.flatMap arrival)
      rw [List.append_assoc] at earlier
      simpa only [List.flatMap_cons, List.append_assoc] using later.trans earlier

/-! ## Why a ping fails -/

section Failures

variable {rests ended : h2.PingPong → Prop}

/-- What has happened before a ping returns an error. -/
def Excuses (ended : h2.PingPong → Prop) (connection : H2Connection h2) :
    PingError h2.Error → Prop
  | .handleConsumed => connection.pingPong = none
  | .h2 _ => (∃ handle, connection.pingPong = some handle ∧ ended handle) ∨
      connection.abandoned = true

/-- While the lock is free no ping is out, unless the connection has ended or a ping in flight was
dropped; and every error has its excuse. -/
structure Accounted (rests ended : h2.PingPong → Prop) (connection : H2Connection h2) : Prop where
  free : ∀ handle, connection.pingPong = some handle → connection.holder = none →
    rests handle ∨ ended handle ∨ connection.abandoned = true
  excused : ∀ pinger error, connection.phase pinger = .returned (.error error) →
    connection.Excuses ended error

theorem accounted_new {handle : Option h2.PingPong} (fresh : ∀ given, handle = some given →
    rests given ∨ ended given) (keepalive : Bool) :
    (new handle keepalive).Accounted rests ended where
  free given present _ := (fresh given present).imp_right .inl
  excused pinger error returned := by
    cases pinger <;> cases keepalive <;> simp [new] at returned

/-- Only h2 changes the handle. -/
theorem pingPong_of_step {next : H2Connection h2} {event : PingEvent h2.Event}
    (stepped : connection.step event = some next) :
    next.pingPong = connection.pingPong ∨ ∃ handle changed, connection.pingPong = some handle ∧
      next.pingPong = some changed ∧ (h2.send handle = .ok changed ∨
        h2.poll handle = some (.ok changed) ∨ ∃ driven, changed = h2.drive handle driven) := by
  rcases step_cases stepped with
    ⟨pinger, -, -, rfl⟩ | ⟨pinger, later, -, -, -, rfl⟩ |
      ⟨pinger, handle, answer, -, -, given, polled, rfl⟩ | ⟨driven, -, rfl⟩ | ⟨pinger, -, -, rfl⟩ |
      ⟨pinger, -, -, rfl⟩ | ⟨pinger, -, -, rfl⟩
  · exact .inl rfl
  · rcases { connection with queue := later }.enter_cases pinger with
      ⟨-, entered⟩ | ⟨_, _, -, -, entered⟩ | ⟨handle, sent, given, sending, entered⟩ <;>
      rw [entered]
    · exact .inl rfl
    · exact .inl rfl
    · exact .inr ⟨handle, sent, given, rfl, .inl sending⟩
  · cases answer with
    | error failure => exact .inl rfl
    | ok answered => exact .inr ⟨handle, answered, given, rfl, .inr (.inl polled)⟩
  · cases given : connection.pingPong with
    | none => exact .inl rfl
    | some handle => exact .inr ⟨handle, _, rfl, rfl, .inr (.inr ⟨driven, rfl⟩)⟩
  · exact .inl rfl
  · exact .inl rfl
  · exact .inl rfl

/-- Only the drop of a ping in flight abandons it. -/
theorem abandoned_of_step {next : H2Connection h2} {event : PingEvent h2.Event}
    (stepped : connection.step event = some next) :
    next.abandoned = connection.abandoned ∨ next.abandoned = true ∧
      ∃ pinger, event = .drop pinger ∧ connection.phase pinger = .waiting := by
  rcases step_cases stepped with
    ⟨pinger, -, -, rfl⟩ | ⟨pinger, later, -, -, -, rfl⟩ |
      ⟨pinger, handle, answer, -, -, -, -, rfl⟩ | ⟨driven, -, rfl⟩ | ⟨pinger, -, -, rfl⟩ |
      ⟨pinger, -, -, rfl⟩ | ⟨pinger, dropped, waiting, rfl⟩
  · exact .inl rfl
  · rcases { connection with queue := later }.enter_cases pinger with
      ⟨-, entered⟩ | ⟨_, _, -, -, entered⟩ | ⟨_, _, -, -, entered⟩ <;> rw [entered] <;>
      exact .inl rfl
  · cases answer <;> exact .inl rfl
  · exact .inl rfl
  · exact .inl rfl
  · exact .inl rfl
  · exact .inr ⟨rfl, pinger, dropped, waiting⟩

/-- Where the error of a pinger comes from: it was there before, the handle is missing, or h2 fails
to send or to wait. -/
theorem error_of_step {next : H2Connection h2} {event : PingEvent h2.Event}
    (stepped : connection.step event = some next) {pinger : Pinger} {error : PingError h2.Error}
    (returned : next.phase pinger = .returned (.error error)) :
    connection.phase pinger = .returned (.error error) ∨
      (error = .handleConsumed ∧ connection.pingPong = none) ∨
      ∃ handle failure, error = .h2 failure ∧ connection.pingPong = some handle ∧
        (connection.holder = none ∧ h2.send handle = .error failure ∨
          h2.poll handle = some (.error failure)) := by
  -- A pinger that moves has its new phase, the others have their old one.
  have moved (mover : Pinger) (phase : PingPhase h2.Error)
      (same : next.phase = (connection.move mover phase).phase) :
      connection.phase pinger = .returned (.error error) ∨ phase = .returned (.error error) := by
    rw [same] at returned
    by_cases self : pinger = mover
    · rw [self, phase_move_self] at returned
      exact .inr returned
    · rw [phase_move_of_ne self] at returned
      exact .inl returned
  rcases step_cases stepped with
    ⟨mover, -, -, rfl⟩ | ⟨mover, later, -, free, -, rfl⟩ |
      ⟨mover, handle, answer, -, -, given, polled, rfl⟩ | ⟨driven, -, rfl⟩ | ⟨mover, -, -, rfl⟩ |
      ⟨mover, -, -, rfl⟩ | ⟨mover, -, -, rfl⟩
  · exact .inl ((moved mover .queued rfl).resolve_right nofun)
  · rcases { connection with queue := later }.enter_cases mover with
      ⟨consumed, entered⟩ | ⟨handle, failure, given, sending, entered⟩ | ⟨_, _, -, -, entered⟩
    · refine (moved mover (.returned (.error .handleConsumed)) (by rw [entered]; rfl)).imp_right
        fun own => .inl ⟨?_, consumed⟩
      cases own
      rfl
    · refine (moved mover (.returned (.error (.h2 failure))) (by rw [entered]; rfl)).imp_right
        fun own => .inr ?_
      cases own
      exact ⟨handle, failure, rfl, given, .inl ⟨free, sending⟩⟩
    · exact .inl ((moved mover .waiting (by rw [entered]; rfl)).resolve_right nofun)
  · cases answer with
    | error failure =>
        refine (moved mover (.returned (.error (.h2 failure))) rfl).imp_right fun own => .inr ?_
        cases own
        exact ⟨handle, failure, rfl, given, .inr polled⟩
    | ok answer =>
        refine .inl ((moved mover (answered mover) rfl).resolve_right fun own => ?_)
        cases mover <;> cases own
  · exact .inl returned
  · exact .inl ((moved mover .dropped rfl).resolve_right nofun)
  · exact .inl ((moved mover .dropped rfl).resolve_right nofun)
  · exact .inl ((moved mover .dropped rfl).resolve_right nofun)

/-- No step gives a new handle, opens the connection again or forgets. -/
theorem Excuses.step (documented : h2.Documented rests ended) {error : PingError h2.Error}
    (excuse : connection.Excuses ended error) {next : H2Connection h2}
    {event : PingEvent h2.Event} (stepped : connection.step event = some next) :
    next.Excuses ended error := by
  match error, excuse with
  | .handleConsumed, consumed =>
      rcases pingPong_of_step stepped with same | ⟨handle, _, given, -⟩
      · exact same.trans consumed
      · exact nomatch consumed.symm.trans given
  | .h2 failure, .inl ⟨handle, given, finished⟩ =>
      refine .inl ?_
      rcases pingPong_of_step stepped with same | ⟨other, changed, otherGiven, now, change⟩
      · exact ⟨handle, same.trans given, finished⟩
      obtain rfl := Option.some.inj (given.symm.trans otherGiven)
      rcases change with sent | answered | ⟨driven, rfl⟩
      · exact absurd sent (documented.send_ended finished)
      · exact absurd finished (documented.poll_ok answered).2
      · exact ⟨_, now, documented.drive_ended finished⟩
  | .h2 failure, .inr abandoned =>
      rcases abandoned_of_step stepped with same | ⟨now, -⟩
      · exact .inr (same.trans abandoned)
      · exact .inr now

theorem Accounted.step (documented : h2.Documented rests ended)
    (accounted : connection.Accounted rests ended) {next : H2Connection h2}
    {event : PingEvent h2.Event} (stepped : connection.step event = some next) :
    next.Accounted rests ended := by
  constructor
  · intro handle given free
    rcases step_cases stepped with
      ⟨pinger, -, -, rfl⟩ | ⟨pinger, later, -, unheld, -, rfl⟩ |
        ⟨pinger, polledHandle, answer, -, -, present, polled, rfl⟩ | ⟨driven, -, rfl⟩ |
        ⟨pinger, -, -, rfl⟩ | ⟨pinger, -, -, rfl⟩ | ⟨pinger, -, -, rfl⟩
    · exact accounted.free handle given free
    · rcases { connection with queue := later }.enter_cases pinger with
        ⟨-, entered⟩ | ⟨_, _, -, -, entered⟩ | ⟨_, _, -, -, entered⟩ <;>
        rw [entered] at given free ⊢
      · exact accounted.free handle given unheld
      · exact accounted.free handle given unheld
      · contradiction
    · cases answer with
      | error failure =>
          obtain rfl := Option.some.inj (present.symm.trans given)
          exact .inr (.inl (documented.poll_error polled))
      | ok answered =>
          obtain rfl := Option.some.inj given
          exact .inl (documented.poll_ok polled).1
    · obtain ⟨before, present, rfl⟩ := Option.map_eq_some_iff.mp given
      rcases accounted.free before present free with resting | finished | abandoned
      · exact (documented.drive_rests resting).imp_right .inl
      · exact .inr (.inl (documented.drive_ended finished))
      · exact .inr (.inr abandoned)
    · exact accounted.free handle given free
    · exact accounted.free handle given free
    · exact .inr (.inr rfl)
  · intro pinger error returned
    have excuse : connection.Excuses ended error := by
      rcases error_of_step stepped returned with
        before | ⟨rfl, consumed⟩ | ⟨handle, failure, rfl, given, failed⟩
      · exact accounted.excused pinger error before
      · exact consumed
      · rcases failed with ⟨free, sending⟩ | polled
        · rcases accounted.free handle given free with resting | finished | abandoned
          · obtain ⟨sent, succeeded⟩ := documented.send_rests resting
            exact nomatch succeeded.symm.trans sending
          · exact .inl ⟨handle, given, finished⟩
          · exact .inr abandoned
        · exact .inl ⟨handle, given, documented.poll_error polled⟩
    exact excuse.step documented stepped

end Failures

/-! ## Runs -/

/-- The lock goes on: it is free and the first in the queue can take it, or its holder waits for h2
and releases it with the answer. -/
def Advances (connection : H2Connection h2) : Prop :=
  (∃ first later, connection.queue = first :: later ∧ connection.holder = none ∧
    (connection.step (.acquire first)).isSome) ∨
  ∃ pinger handle, connection.holder = some pinger ∧ connection.phase pinger = .waiting ∧
    connection.pingPong = some handle ∧
    ∀ answer, h2.poll handle = some answer → ∃ next, connection.step .answer = some next ∧
      next.holder = none ∧ next.queue = connection.queue

theorem Orderly.advances (orderly : connection.Orderly) {pinger : Pinger}
    (mem : pinger ∈ connection.queue) : connection.Advances := by
  cases held : connection.holder with
  | none =>
      obtain ⟨first, later, queue⟩ := List.exists_cons_of_ne_nil (List.ne_nil_of_mem mem)
      refine .inl ⟨first, later, queue, held, ?_⟩
      simp [H2Connection.step, held, queue]
  | some holder =>
      obtain ⟨handle, given⟩ := Option.ne_none_iff_exists'.mp (orderly.sent (by rw [held]; nofun))
      refine .inr ⟨holder, handle, held, (orderly.holds holder).mp held, given, ?_⟩
      intro answer polled
      refine ⟨connection.settle holder answer, ?_, ?_, queue_settle holder answer⟩
      · simp [H2Connection.step, held, given, polled]
      · cases answer <;> rfl

/-- The handle is never taken away. -/
theorem pingPong_ne_none_of_run {first : H2Connection h2} {events : List (PingEvent h2.Event)}
    (executed : Execution.run step first events = some connection)
    (given : first.pingPong ≠ none) : connection.pingPong ≠ none := by
  have kept (state : H2Connection h2) (event : PingEvent h2.Event) (next : H2Connection h2)
      (there : state.pingPong ≠ none) (stepped : state.step event = some next) :
      next.pingPong ≠ none := by
    rcases pingPong_of_step stepped with same | ⟨_, _, -, present, -⟩
    · exact same.symm ▸ there
    · rw [present]
      nofun
  exact (Execution.invariant_of_run kept given executed :)

/-- The events drop a ping in flight. -/
def Abandons (first : H2Connection h2) (events : List (PingEvent h2.Event)) : Prop :=
  ∃ former pinger latter middle, events = former ++ .drop pinger :: latter ∧
    Execution.run step first former = some middle ∧ middle.phase pinger = .waiting

theorem abandons_of_run {first : H2Connection h2} {events : List (PingEvent h2.Event)}
    (executed : Execution.run step first events = some connection)
    (before : first.abandoned = false) (after : connection.abandoned = true) :
    Abandons first events := by
  obtain ⟨former, event, latter, middle, next, rfl, ran, stepped, kept, lost⟩ :=
    Execution.exists_step_of_run (fun state => state.abandoned = true) executed
      (by rw [before]; nofun) after
  rcases abandoned_of_step stepped with same | ⟨-, pinger, rfl, waiting⟩
  · exact absurd (same.symm.trans lost) kept
  · exact ⟨former, pinger, latter, middle, rfl, ran, waiting⟩

/-- However calls of `ping`, ticks of the keepalive task, the driver of the connection and dropped
futures interleave: at most one ping waits for its pong; a pinger that is queued is in the queue of
the lock, which goes on; the lock is taken in the order in which the pingers came; and a ping fails
only without a handle, after the connection has ended, or after a ping in flight was dropped. -/
theorem pings_do_not_overlap {rests ended : h2.PingPong → Prop}
    (documented : h2.Documented rests ended) {handle : Option h2.PingPong}
    (fresh : ∀ given, handle = some given → rests given ∨ ended given) {keepalive : Bool}
    {events : List (PingEvent h2.Event)} {connection : H2Connection h2}
    (executed : Execution.run step (new handle keepalive) events = some connection) :
    (∀ pinger other, connection.phase pinger = .waiting → connection.phase other = .waiting →
      pinger = other) ∧
    (∀ pinger, connection.phase pinger = .queued →
      pinger ∈ connection.queue ∧ connection.Advances) ∧
    (events.flatMap entry ++ connection.queue).Sublist (events.flatMap arrival) ∧
    ∀ pinger error, connection.phase pinger = .returned (.error error) →
      (error = .handleConsumed ∧ handle = none) ∨
      ∃ failure, error = .h2 failure ∧
        ((∃ given, connection.pingPong = some given ∧ ended given) ∨
          Abandons (new handle keepalive) events) := by
  have orderly : connection.Orderly :=
    Execution.invariant_of_run (fun _ _ _ orderly stepped => orderly.step stepped)
      (orderly_new handle keepalive) executed
  have accounted : connection.Accounted rests ended :=
    Execution.invariant_of_run (fun _ _ _ accounted stepped => accounted.step documented stepped)
      (accounted_new fresh keepalive) executed
  refine ⟨?_, ?_, sublist_of_run executed, ?_⟩
  · intro pinger other waits otherWaits
    have held := (orderly.holds pinger).mpr waits
    exact Option.some.inj (held.symm.trans ((orderly.holds other).mpr otherWaits))
  · intro pinger queued
    have mem := (orderly.queues pinger).mpr queued
    exact ⟨mem, orderly.advances mem⟩
  · intro pinger error returned
    match error, accounted.excused pinger error returned with
    | .handleConsumed, consumed =>
        refine .inl ⟨rfl, ?_⟩
        by_contra given
        exact pingPong_ne_none_of_run executed given consumed
    | .h2 failure, .inl finished => exact .inr ⟨failure, rfl, .inl finished⟩
    | .h2 failure, .inr abandoned =>
        exact .inr ⟨failure, rfl, .inr (abandons_of_run executed rfl abandoned)⟩

end H2Connection

/-- The states of a user ping in h2. -/
inductive UserPing
  | empty
  | pendingPing
  | pendingPong
  | receivedPong
  | closed
  deriving DecidableEq, Repr

/-- A ping is out already, or the connection is gone. -/
inductive UserPingError
  | sendPingWhilePending
  | brokenPipe
  deriving DecidableEq, Repr

/-- The frame goes out, the pong comes in, or the connection ends. -/
inductive UserPingEvent
  | sent
  | received
  | closed
  deriving DecidableEq, Repr

/-- The handle of h2, as a state machine of one ping. -/
def userPings : H2Crate where
  PingPong := UserPing
  Error := UserPingError
  Event := UserPingEvent
  send
    | .empty => .ok .pendingPing
    | .closed => .error .brokenPipe
    | .pendingPing | .pendingPong | .receivedPong => .error .sendPingWhilePending
  poll
    | .receivedPong => some (.ok .empty)
    | .closed => some (.error .brokenPipe)
    | .empty | .pendingPing | .pendingPong => none
  drive
    | .pendingPing, .sent => .pendingPong
    | .pendingPong, .received => .receivedPong
    | _, .closed => .closed
    | state, _ => state

theorem userPings_documented : userPings.Documented (· = UserPing.empty) (· = UserPing.closed) where
  send_rests := by
    rintro _ rfl
    exact ⟨_, rfl⟩
  send_ended := by
    rintro _ _ rfl
    nofun
  poll_ok := by
    rintro (_ | _ | _ | _ | _) _ ⟨⟩
    exact ⟨rfl, nofun⟩
  poll_error := by
    rintro (_ | _ | _ | _ | _) _ ⟨⟩
    rfl
  drive_rests := by
    rintro _ (_ | _ | _) rfl
    · exact .inl rfl
    · exact .inl rfl
    · exact .inr rfl
  drive_ended := by
    rintro _ (_ | _ | _) rfl <;> rfl

namespace H2Connection

/-- A call pings while the keepalive task and another call come to the lock; with the pong the
keepalive task pings in turn. -/
def pingInTurn : List (PingEvent UserPingEvent) :=
  [.lock (.call 0), .acquire (.call 0), .lock .keepalive, .lock (.call 1), .drive .sent,
    .drive .received, .answer, .acquire .keepalive]

theorem pings_do_not_overlap_pingInTurn :
    ∃ connection : H2Connection userPings,
      Execution.run step (new (some UserPing.empty) true) pingInTurn = some connection ∧
      connection.phase (.call 0) = .returned (.ok ()) ∧ connection.phase .keepalive = .waiting ∧
      connection.queue = [.call 1] ∧ connection.Advances ∧
      ∀ other, connection.phase other = .waiting → other = .keepalive := by
  have executed : Execution.run step (new (some UserPing.empty) true : H2Connection userPings)
    pingInTurn = some _ := rfl
  obtain ⟨exclusive, queues, -, -⟩ := pings_do_not_overlap userPings_documented
    (fun given same => .inl (Option.some.inj same).symm) executed
  exact ⟨_, executed, rfl, rfl, rfl, (queues (.call 1) rfl).2,
    fun other waits => exclusive other .keepalive waits rfl⟩

end H2Connection

end Http2

end OxiTls
