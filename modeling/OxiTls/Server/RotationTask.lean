import OxiTls.Server.Ticketing
import OxiTls.Ticket.Rotation

/-!
# Rotation tasks of a shared ticketer

`tls13/server.rs`: the clones of a `ServerBuilder` share one rotating ticketer, and every `build`
spawns a task of its own that rotates it.  A task holds a weak reference: it ends at the first tick
that finds no builder and no configuration.  Times are in nanoseconds.
-/

namespace OxiTls

/-- No window shorter than the period holds two of the times. -/
def OncePer (period : Nat) (times : List Nat) : Prop :=
  ∀ first width, width < period →
    times.countP (fun time => first ≤ time ∧ time ≤ first + width) ≤ 1

/-- Times that are a period apart, newest first, occur once per period. -/
theorem oncePer_of_pairwise {period : Nat} {times : List Nat}
    (spaced : times.Pairwise fun later earlier => earlier + period ≤ later) :
    OncePer period times := by
  intro first width short
  induction times with
  | nil => exact Nat.zero_le 1
  | cons latest times induction =>
      obtain ⟨before, spaced⟩ := List.pairwise_cons.mp spaced
      rw [List.countP_cons]
      split_ifs with within
      · have none_within : times.countP (fun time => first ≤ time ∧ time ≤ first + width) = 0 := by
          rw [List.countP_eq_zero]
          intro time member
          have apart := before time member
          simp only [decide_eq_true_eq] at within ⊢
          omega
        omega
      · exact induction spaced

/-- A task that `build` spawned: not polled yet, waiting for its next tick, or ended. -/
inductive RotationTask
  | spawned
  | waiting (next : Nat)
  | ended
  deriving DecidableEq

/-- The clock does not pass the tick that a task waits for. -/
def RotationTask.Allows (clock : Nat) : RotationTask → Prop
  | .waiting next => clock ≤ next
  | _ => True

instance (clock : Nat) : DecidablePred (RotationTask.Allows clock)
  | .spawned => isTrue trivial
  | .waiting next => inferInstanceAs (Decidable (clock ≤ next))
  | .ended => isTrue trivial

/-- A rotating ticketer with its builders and configurations (the strong references), its tasks in
the order of the builds and the times of its successful rotations, newest first. -/
structure RotatingServer where
  interval : Nat
  service : Service
  builders : Nat
  configs : Nat
  tasks : List RotationTask
  rotatedAt : List Nat
  deriving DecidableEq

/-- What the program and the runtime do.  A failing `build` drops its builder; `startTask` is the
first, immediate tick of a task's interval. -/
inductive RotationEvent
  | pass (elapsed : Nat)
  | cloneBuilder
  | dropBuilder
  | build
  | cloneConfig
  | dropConfig
  | startTask (index : Nat)
  | tick (index : Nat) (entropy : Except String (Vector UInt8 32))
  | encrypt (entropy : Except String (Vector UInt8 12)) (plain : Bytes)

namespace RotatingServer

/-- A builder after `with_ticketer_rotation_interval`. -/
def start (interval : Nat) (bytes : Vector UInt8 32) (clock : Nat) : RotatingServer :=
  ⟨interval, ⟨clock, freshTicketer bytes, [⟨bytes⟩], []⟩, 1, 0, [], []⟩

variable (cipher : Aead TicketKey 16) (server : RotatingServer)

/-- The interval that `build` gives to its task. -/
def effectiveInterval : Nat := max server.interval 1000000000

/-- `GenericTlsAcceptor::accept` clones the builder and builds the clone; other events follow. -/
def accept (later : List RotationEvent) : List RotationEvent := .cloneBuilder :: .build :: later

/-- One turn of a task's loop. -/
def tick (index : Nat) (entropy : Except String (Vector UInt8 32)) : RotatingServer :=
  if server.builders + server.configs = 0 then
    { server with tasks := server.tasks.set index .ended }
  else
    let tasks := server.tasks.set index (.waiting (server.service.clock + server.effectiveInterval))
    match server.service.rotate entropy with
    | (.error _, service) => { server with tasks, service }
    | (.ok (), service) =>
        { server with tasks, service, rotatedAt := server.service.clock :: server.rotatedAt }

/-- One event; tasks tick exactly when they are due. -/
def step : RotationEvent → Option RotatingServer
  | .pass elapsed =>
      let clock := server.service.clock + elapsed
      if ∀ task ∈ server.tasks, task.Allows clock then
        some { server with service := { server.service with clock } }
      else none
  | .cloneBuilder =>
      if 0 < server.builders then some { server with builders := server.builders + 1 } else none
  | .dropBuilder =>
      if 0 < server.builders then some { server with builders := server.builders - 1 } else none
  | .build =>
      if 0 < server.builders then
        some { server with
          builders := server.builders - 1
          configs := server.configs + 1
          tasks := server.tasks ++ [.spawned] }
      else none
  | .cloneConfig =>
      if 0 < server.configs then some { server with configs := server.configs + 1 } else none
  | .dropConfig =>
      if 0 < server.configs then some { server with configs := server.configs - 1 } else none
  | .startTask index =>
      if server.tasks[index]? = some .spawned then
        some { server with
          tasks := server.tasks.set index
            (.waiting (server.service.clock + server.effectiveInterval)) }
      else none
  | .tick index entropy =>
      if server.tasks[index]? = some (.waiting server.service.clock) then
        some (server.tick index entropy)
      else none
  | .encrypt entropy plain =>
      if 0 < server.configs then
        some { server with service := (server.service.encrypt cipher entropy plain).2 }
      else none

/-- The interval of a task and the ticketer it rotates are those that `build` installs. -/
theorem rotationTask_start (interval : Nat) (bytes : Vector UInt8 32) (clock : Nat) :
    let builder : ServerBuilder :=
      ServerBuilder.withTicketerRotationInterval {} interval (.ok bytes)
    (builder.installTicketer {}).rotationTask =
      some ((start interval bytes clock).service.ticketer,
        (start interval bytes clock).effectiveInterval) := rfl

variable {cipher server}

/-! ## What one event does -/

/-- A turn of a task's loop ends it, leaves it waiting for the next tick, or also rotates. -/
theorem tick_cases (index : Nat) (entropy : Except String (Vector UInt8 32)) :
    (∃ task, (task = .ended ∨
        task = .waiting (server.service.clock + server.effectiveInterval)) ∧
      server.tick index entropy = { server with tasks := server.tasks.set index task }) ∨
      ∃ bytes, server.tick index entropy =
        { server with
          tasks := server.tasks.set index
            (.waiting (server.service.clock + server.effectiveInterval))
          service := (server.service.rotate (.ok bytes)).2
          rotatedAt := server.service.clock :: server.rotatedAt } := by
  unfold tick
  split_ifs with dropped
  · exact .inl ⟨.ended, .inl rfl, rfl⟩
  · cases entropy with
    | error message => exact .inl ⟨_, .inr rfl, rfl⟩
    | ok bytes => exact .inr ⟨bytes, rfl⟩

/-- An event changes the number of references, builds, passes time, issues a ticket, moves a task
without a rotation, or rotates at a tick. -/
theorem step_eq_some {next : RotatingServer} {event : RotationEvent}
    (stepped : server.step cipher event = some next) :
    (∃ builders configs, next = { server with builders, configs }) ∨
      (event = .build ∧ ∃ builders configs,
        next = { server with builders, configs, tasks := server.tasks ++ [.spawned] }) ∨
      (∃ elapsed, next = { server with
        service := { server.service with clock := server.service.clock + elapsed } }) ∨
      (∃ entropy plain,
        next = { server with service := (server.service.encrypt cipher entropy plain).2 }) ∨
      (∃ index task, (task = .ended ∨
          task = .waiting (server.service.clock + server.effectiveInterval)) ∧
        next = { server with tasks := server.tasks.set index task }) ∨
      ∃ index bytes, server.tasks[index]? = some (.waiting server.service.clock) ∧
        next = { server with
          tasks := server.tasks.set index
            (.waiting (server.service.clock + server.effectiveInterval))
          service := (server.service.rotate (.ok bytes)).2
          rotatedAt := server.service.clock :: server.rotatedAt } := by
  cases event with
  | pass elapsed =>
      obtain ⟨_, ⟨⟩⟩ := Option.ite_none_right_eq_some.mp stepped
      exact .inr (.inr (.inl ⟨elapsed, rfl⟩))
  | build =>
      obtain ⟨_, ⟨⟩⟩ := Option.ite_none_right_eq_some.mp stepped
      exact .inr (.inl ⟨rfl, _, _, rfl⟩)
  | cloneBuilder | dropBuilder | cloneConfig | dropConfig =>
      obtain ⟨_, ⟨⟩⟩ := Option.ite_none_right_eq_some.mp stepped
      exact .inl ⟨_, _, rfl⟩
  | startTask index =>
      obtain ⟨_, ⟨⟩⟩ := Option.ite_none_right_eq_some.mp stepped
      exact .inr (.inr (.inr (.inr (.inl ⟨index, _, .inr rfl, rfl⟩))))
  | tick index entropy =>
      obtain ⟨due, ⟨⟩⟩ := Option.ite_none_right_eq_some.mp stepped
      rcases server.tick_cases index entropy with ⟨task, kind, moved⟩ | ⟨bytes, rotated⟩
      · exact .inr (.inr (.inr (.inr (.inl ⟨index, task, kind, moved⟩))))
      · exact .inr (.inr (.inr (.inr (.inr ⟨index, bytes, due, rotated⟩))))
  | encrypt entropy plain =>
      obtain ⟨_, ⟨⟩⟩ := Option.ite_none_right_eq_some.mp stepped
      exact .inr (.inr (.inr (.inl ⟨entropy, plain, rfl⟩)))

/-! ## The invariant -/

/-- A task that waits does so for a full interval after every rotation. -/
def Awaits (server : RotatingServer) : RotationTask → Prop
  | .waiting next => ∀ time ∈ server.rotatedAt, time + server.effectiveInterval ≤ next
  | _ => True

/-- With one task, the rotations are an interval apart, and every rotation that aged a ticket came
after its issue. -/
structure Paced (server : RotatingServer) : Prop where
  single : server.tasks.length ≤ 1
  awaits : ∀ task ∈ server.tasks, server.Awaits task
  spaced : server.rotatedAt.Pairwise fun later earlier =>
    earlier + server.effectiveInterval ≤ later
  past : ∀ time ∈ server.rotatedAt, time ≤ server.service.clock
  counted : server.service.generated.length = server.rotatedAt.length + 1
  consistent : server.service.Consistent
  aged : ∀ issuance ∈ server.service.issued,
    ∀ time ∈ server.rotatedAt.take (server.service.age issuance), issuance.issuedAt ≤ time

/-- `build` is called only when no task has been spawned. -/
def BuildsOnce (server : RotatingServer) (event : RotationEvent) : Prop :=
  event = .build → server.tasks = []

theorem paced_start (interval : Nat) (bytes : Vector UInt8 32) (clock : Nat) :
    (start interval bytes clock).Paced where
  single := Nat.zero_le 1
  awaits := by simp [start]
  spaced := .nil
  past := by simp [start]
  counted := rfl
  consistent := Service.consistent_start ⟨bytes⟩ _ clock
  aged := by simp [start]

/-- Passing time keeps the pace. -/
theorem Paced.pass (paced : server.Paced) (elapsed : Nat) :
    Paced { server with
      service := { server.service with clock := server.service.clock + elapsed } } where
  single := paced.single
  awaits := paced.awaits
  spaced := paced.spaced
  past time member := Nat.le_trans (paced.past time member) (Nat.le_add_right _ _)
  counted := paced.counted
  consistent := paced.consistent.elapse elapsed
  aged := paced.aged

/-- A ticket is issued at age zero. -/
theorem Paced.encrypt (paced : server.Paced) (entropy : Except String (Vector UInt8 12))
    (plain : Bytes) :
    Paced { server with service := (server.service.encrypt cipher entropy plain).2 } := by
  unfold Service.encrypt
  cases made : encryptWithKey cipher server.service.ticketer.current entropy plain with
  | none => exact paced
  | some pair =>
      obtain ⟨ticket, sealing⟩ := pair
      refine ⟨paced.single, paced.awaits, paced.spaced, paced.past, paced.counted,
        paced.consistent.issue made, fun issuance member => ?_⟩
      rcases List.mem_append.mp member with earlier | last
      · exact paced.aged issuance earlier
      · obtain rfl := List.mem_singleton.mp last
        simp [Service.age]

/-- A task that ends, or that waits for an interval from now, keeps the pace. -/
theorem Paced.moveTask (paced : server.Paced) (index : Nat) {task : RotationTask}
    (moved : task = .ended ∨
      task = .waiting (server.service.clock + server.effectiveInterval)) :
    Paced { server with tasks := server.tasks.set index task } where
  single := by
    rw [List.length_set]
    exact paced.single
  awaits other member := by
    rcases List.mem_or_eq_of_mem_set member with before | rfl
    · exact paced.awaits other before
    · rcases moved with rfl | rfl
      · trivial
      · intro time rotated
        exact Nat.add_le_add_right (paced.past time rotated) _
  spaced := paced.spaced
  past := paced.past
  counted := paced.counted
  consistent := paced.consistent
  aged := paced.aged

/-- A due task was waiting for an interval, and no other task can be due before it is due again. -/
theorem Paced.rotate (paced : server.Paced) {index : Nat}
    (due : server.tasks[index]? = some (.waiting server.service.clock))
    (bytes : Vector UInt8 32) :
    Paced { server with
      tasks := server.tasks.set index
        (.waiting (server.service.clock + server.effectiveInterval))
      service := (server.service.rotate (.ok bytes)).2
      rotatedAt := server.service.clock :: server.rotatedAt } where
  single := by
    rw [List.length_set]
    exact paced.single
  awaits task member := by
    obtain ⟨bound, _⟩ := List.getElem?_eq_some_iff.mp due
    have alone : server.tasks.length = 1 := by
      have single := paced.single
      omega
    obtain ⟨only, tasks⟩ := List.length_eq_one_iff.mp alone
    obtain rfl : index = 0 := by omega
    rw [tasks, List.set_cons_zero, List.mem_singleton] at member
    subst member
    intro time rotated
    rcases List.mem_cons.mp rotated with rfl | before
    · exact Nat.le_refl _
    · exact Nat.add_le_add_right (paced.past time before) _
  spaced := by
    refine List.pairwise_cons.mpr ⟨fun time rotated => ?_, paced.spaced⟩
    exact paced.awaits _ (List.mem_of_getElem? due) time rotated
  past time rotated := by
    rcases List.mem_cons.mp rotated with rfl | before
    · exact Nat.le_refl _
    · exact paced.past time before
  counted := congrArg Nat.succ paced.counted
  consistent := paced.consistent.promote bytes
  aged issuance member time rotated := by
    have genuine := paced.consistent.genuine issuance member
    have older : (server.service.rotate (.ok bytes)).2.age issuance =
        server.service.age issuance + 1 := by
      have bound := genuine.generation
      exact Nat.succ_sub bound
    rw [older, List.take_succ_cons] at rotated
    rcases List.mem_cons.mp rotated with rfl | before
    · exact genuine.issuedAt
    · exact paced.aged issuance member time before

theorem Paced.step {next : RotatingServer} {event : RotationEvent} (paced : server.Paced)
    (once : server.BuildsOnce event) (stepped : server.step cipher event = some next) :
    next.Paced := by
  rcases step_eq_some stepped with
    ⟨builders, configs, rfl⟩ | ⟨rfl, builders, configs, rfl⟩ | ⟨elapsed, rfl⟩ |
      ⟨entropy, plain, rfl⟩ | ⟨index, task, moved, rfl⟩ | ⟨index, bytes, due, rfl⟩
  · exact ⟨paced.single, paced.awaits, paced.spaced, paced.past, paced.counted,
      paced.consistent, paced.aged⟩
  · refine ⟨?_, fun task member => ?_, paced.spaced, paced.past, paced.counted,
      paced.consistent, paced.aged⟩
    · rw [once rfl]
      exact Nat.le_refl 1
    · rw [once rfl, List.nil_append, List.mem_singleton] at member
      rw [member]
      trivial
  · exact paced.pass elapsed
  · exact paced.encrypt entropy plain
  · exact paced.moveTask index moved
  · exact paced.rotate due bytes

/-- A ticket has aged by two only after a full interval. -/
theorem Paced.age_le {issuance : Issuance} (paced : server.Paced)
    (member : issuance ∈ server.service.issued)
    (recent : server.service.clock < issuance.issuedAt + server.effectiveInterval) :
    server.service.age issuance ≤ 1 := by
  by_contra old
  have rotated : server.service.age issuance < server.service.generated.length :=
    (List.getElem?_eq_some_iff.mp (paced.consistent.genuine issuance member).key).1
  have counted := paced.counted
  have spaced := paced.spaced
  have past := paced.past
  have aged := paced.aged issuance member
  match times : server.rotatedAt with
  | [] | [_] =>
      rw [times] at counted
      simp only [List.length_nil, List.length_singleton] at counted
      omega
  | latest :: earlier :: rest =>
      rw [times] at spaced past aged
      have apart := List.rel_of_pairwise_cons spaced List.mem_cons_self
      have latest_le := past latest List.mem_cons_self
      obtain ⟨extra, age_eq⟩ : ∃ extra, server.service.age issuance = extra + 2 :=
        ⟨server.service.age issuance - 2, by omega⟩
      rw [age_eq, List.take_succ_cons, List.take_succ_cons] at aged
      have issued_le := aged earlier (List.mem_cons_of_mem _ List.mem_cons_self)
      omega

/-! ## One rotation per interval -/

/-- The ticketer is rotated at most once in every window shorter than the interval, and an issued
ticket decrypts for an interval. -/
def KeepsInterval (server : RotatingServer) : Prop :=
  OncePer server.effectiveInterval server.rotatedAt ∧
    ∀ issuance ∈ server.service.issued,
      server.service.clock < issuance.issuedAt + server.effectiveInterval →
        server.service.decrypt issuance.ticket = some issuance.sealing.plaintext

/-- In every run in which `build` is called at most once on the builder and its clones, in every
state reached, with committing sealings. -/
theorem keepsInterval_of_run {interval : Nat} {bytes : Vector UInt8 32} {clock : Nat}
    {events : List RotationEvent} {server : RotatingServer}
    (executed : Execution.run (step cipher) (start interval bytes clock) events = some server)
    (once : Execution.Meets (step cipher) BuildsOnce (start interval bytes clock) events)
    (committing : Sealing.Committing server.service.sealed) : server.KeepsInterval := by
  have paced : server.Paced :=
    Execution.invariant_of_meets
      (fun _ _ _ paced builds stepped => Paced.step paced builds stepped)
      (paced_start interval bytes clock) once executed
  refine ⟨oncePer_of_pairwise paced.spaced, fun issuance member recent => ?_⟩
  exact paced.consistent.decrypt_of_age_le committing member (paced.age_le member recent)

/-- A quarter of an hour. -/
def quarter : Nat := 900000000000

/-- An accepted connection, a ticket half an hour later, and the first rotation. -/
def oneConnection : List RotationEvent :=
  accept [.startTask 0, .pass quarter, .pass quarter,
    .encrypt (.ok (Vector.replicate 12 0)) [5], .pass (2 * quarter),
    .tick 0 (.ok (Vector.replicate 32 2)), .pass quarter]

/-- A second connection is accepted a quarter of an hour after the first. -/
def twoConnections : List RotationEvent :=
  accept (.startTask 0 :: .pass quarter :: accept [.startTask 1, .pass quarter,
    .encrypt (.ok (Vector.replicate 12 0)) [5], .pass (2 * quarter),
    .tick 0 (.ok (Vector.replicate 32 2)), .pass quarter, .tick 1 (.ok (Vector.replicate 32 3))])

theorem keepsInterval_of_run_oneConnection :
    ∃ server, Execution.run (step Service.plainCipher)
        (start (4 * quarter) (Vector.replicate 32 1) 0) oneConnection = some server ∧
      server.rotatedAt = [4 * quarter] ∧ server.KeepsInterval := by
  have executed : Execution.run (step Service.plainCipher)
    (start (4 * quarter) (Vector.replicate 32 1) 0) oneConnection = some _ := rfl
  refine ⟨_, executed, rfl, keepsInterval_of_run executed ?_ (Sealing.committing_singleton _)⟩
  refine ⟨fun _ => rfl, ?_⟩
  rintro cloned ⟨⟩
  refine ⟨fun _ => rfl, fun built _ => ?_⟩
  apply Execution.meets_of_forall_mem
  simp [BuildsOnce]

/-- Two connections of one builder: with both configurations alive, the ticketer is rotated twice
within a quarter of the interval, and a ticket is lost three quarters of it after its issue. -/
theorem twoConnections_rotates_twice :
    ∃ server, Execution.run (step Service.plainCipher)
        (start (4 * quarter) (Vector.replicate 32 1) 0) twoConnections = some server ∧
      server.configs = 2 ∧ server.effectiveInterval = 4 * quarter ∧
      server.rotatedAt = [5 * quarter, 4 * quarter] ∧
      Sealing.Committing server.service.sealed ∧
      server.service.issued.map Issuance.issuedAt = [2 * quarter] ∧
      server.service.clock = 5 * quarter ∧
      server.service.decrypt Service.sampleTicket = none ∧ ¬ server.KeepsInterval := by
  refine ⟨_, rfl, rfl, rfl, rfl, Sealing.committing_singleton _, rfl, rfl, rfl, ?_⟩
  rintro ⟨once, _⟩
  have twice := once (4 * quarter) quarter (by decide)
  revert twice
  decide

end RotatingServer

end OxiTls
