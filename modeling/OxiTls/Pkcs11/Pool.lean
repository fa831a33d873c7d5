import Mathlib.Data.List.Nodup
import OxiTls.Library.Execution
import OxiTls.Library.Fallible
import OxiTls.Library.Slots

/-!
# The session pool

`pool.rs`: `acquire` takes a permit and then a session, and dropping the guard returns the session
and then the permit.  The permits and the queue are separate, so between the two steps of a call
they disagree; the pool stays sound because the queue is never shorter than the permits.
-/

namespace OxiTls

/-- A PKCS#11 session, known by the order in which it was opened. -/
structure Session where
  opened : Nat
  deriving DecidableEq, Repr

/-- The `Pkcs11Error` variants the pool raises. -/
inductive Pkcs11Error
  | sessionError (message : String)
  | sessionPoolExhausted
  deriving DecidableEq, Repr

/-- `Pkcs11SessionPool`: the queue under the mutex and the free permits of the semaphore. -/
structure Pkcs11SessionPool where
  sessions : List Session
  permits : Nat
  deriving DecidableEq, Repr

namespace Pkcs11SessionPool

/-- The loop body of `Pkcs11SessionPool::new`, given what the token answers to the open and to the
login. -/
def openSession (openRo login : Nat → Except String Unit) (index : Nat) :
    Except Pkcs11Error Session := do
  (openRo index).mapError .sessionError
  (login index).mapError fun e => .sessionError ("login failed: " ++ e)
  pure ⟨index⟩

/-- `Pkcs11SessionPool::new`. -/
def new (openRo login : Nat → Except String Unit) (capacity : Nat) :
    Except Pkcs11Error Pkcs11SessionPool := do
  let sessions ← (List.range capacity).mapM (openSession openRo login)
  pure ⟨sessions, capacity⟩

/-- How far a call to `acquire`, and then the guard it returned, has come. -/
inductive Phase
  /-- The permit is taken. -/
  | permitted
  /-- `acquire` returned a guard of the session. -/
  | holding (session : Session)
  /-- The dropped guard has pushed its session and still owns the permit. -/
  | returned
  | dropped
  /-- The permit step found no permit. -/
  | refused
  /-- `pop_front` found no session; the early return drops the permit. -/
  | starved
  deriving DecidableEq, Repr

/-- The answer of `acquire`, once it has one. -/
def Phase.answer : Phase → Option (Except Pkcs11Error Unit)
  | .permitted => none
  | .holding _ | .returned | .dropped => some (.ok ())
  | .refused | .starved => some (.error .sessionPoolExhausted)

/-- The session a call has taken out of the queue. -/
def Phase.session : Phase → Option Session
  | .holding session => some session
  | _ => none

/-- The call owns a permit and no session: it is between its two steps. -/
def Phase.between : Phase → Bool
  | .permitted | .returned => true
  | _ => false

/-- The pool and the phase of every call, in the order of their permit steps. -/
structure State where
  pool : Pkcs11SessionPool
  calls : List Phase
  deriving DecidableEq, Repr

/-- The atomic steps of the calls. -/
inductive Event
  | takePermit
  | popSession (call : Nat)
  | pushSession (call : Nat)
  | releasePermit (call : Nat)
  deriving DecidableEq, Repr

namespace State

variable (state : State)

/-- The sessions that guards hold. -/
def held : List Session := state.calls.filterMap Phase.session

/-- One atomic step; `none` when the call is not at that step. -/
def step : Event → Option State
  | .takePermit =>
      if state.pool.permits = 0 then some { state with calls := state.calls ++ [.refused] }
      else some
        { pool := { state.pool with permits := state.pool.permits - 1 }
          calls := state.calls ++ [.permitted] }
  | .popSession call =>
      match state.calls[call]? with
      | some .permitted =>
          match state.pool.sessions with
          | [] => some
              { pool := { state.pool with permits := state.pool.permits + 1 }
                calls := state.calls.set call .starved }
          | session :: sessions => some
              { pool := { state.pool with sessions }
                calls := state.calls.set call (.holding session) }
      | _ => none
  | .pushSession call =>
      match state.calls[call]? with
      | some (.holding session) => some
          { pool := { state.pool with sessions := state.pool.sessions ++ [session] }
            calls := state.calls.set call .returned }
      | _ => none
  | .releasePermit call =>
      match state.calls[call]? with
      | some .returned => some
          { pool := { state.pool with permits := state.pool.permits + 1 }
            calls := state.calls.set call .dropped }
      | _ => none

end State

/-- The sessions of a pool of the given capacity. -/
def original (capacity : Nat) : List Session := (List.range capacity).map Session.mk

theorem nodup_original (capacity : Nat) : (original capacity).Nodup :=
  List.nodup_range.map fun _ _ same => congrArg Session.opened same

/-- A pool that no call has touched. -/
def start (capacity : Nat) : State := ⟨⟨original capacity, capacity⟩, []⟩

/-- A pool that could be created holds its sessions and as many permits. -/
theorem new_eq_ok {openRo login : Nat → Except String Unit} {capacity : Nat}
    {pool : Pkcs11SessionPool} (created : new openRo login capacity = .ok pool) :
    pool = (start capacity).pool := by
  simp only [new, Except.bind_eq_ok_iff, Except.pure_eq_ok_iff] at created
  obtain ⟨sessions, opened, rfl⟩ := created
  have determined (index : Nat) (session : Session)
      (opened : openSession openRo login index = .ok session) : session = ⟨index⟩ := by
    simp only [openSession, Except.bind_eq_ok_iff, Except.pure_eq_ok_iff] at opened
    obtain ⟨_, _, _, _, rfl⟩ := opened
    rfl
  rw [Except.eq_map_of_mapM_eq_ok determined opened]
  rfl

namespace State

variable {state next : State} {event : Event}

/-! ## What one step does -/

/-- A step takes a permit or is refused, moves a session out of the queue or back to it, gives a
permit back, or finds the queue empty. -/
theorem step_eq_some (stepped : state.step event = some next) :
    (event = .takePermit ∧ state.pool.permits = 0 ∧
        next = ⟨state.pool, state.calls ++ [.refused]⟩) ∨
      (event = .takePermit ∧ 0 < state.pool.permits ∧
        next = ⟨⟨state.pool.sessions, state.pool.permits - 1⟩, state.calls ++ [.permitted]⟩) ∨
      (∃ call session sessions, state.calls[call]? = some .permitted ∧
        state.pool.sessions = session :: sessions ∧
        next = ⟨⟨sessions, state.pool.permits⟩, state.calls.set call (.holding session)⟩) ∨
      (∃ call, state.calls[call]? = some .permitted ∧ state.pool.sessions = [] ∧
        next = ⟨⟨[], state.pool.permits + 1⟩, state.calls.set call .starved⟩) ∨
      (∃ call session, state.calls[call]? = some (.holding session) ∧
        next = ⟨⟨state.pool.sessions ++ [session], state.pool.permits⟩,
          state.calls.set call .returned⟩) ∨
      ∃ call, state.calls[call]? = some .returned ∧
        next = ⟨⟨state.pool.sessions, state.pool.permits + 1⟩,
          state.calls.set call .dropped⟩ := by
  cases event with
  | takePermit =>
      simp only [step] at stepped
      split_ifs at stepped with empty
      · exact .inl ⟨rfl, empty, (Option.some.inj stepped).symm⟩
      · exact .inr (.inl ⟨rfl, Nat.pos_of_ne_zero empty, (Option.some.inj stepped).symm⟩)
  | popSession call =>
      simp only [step] at stepped
      split at stepped
      · next permitted =>
          split at stepped
          · next empty =>
              obtain rfl := Option.some.inj stepped
              exact .inr (.inr (.inr (.inl ⟨call, permitted, empty, by rw [empty]⟩)))
          · next session sessions queue =>
              obtain rfl := Option.some.inj stepped
              exact .inr (.inr (.inl ⟨call, session, sessions, permitted, queue, rfl⟩))
      · contradiction
  | pushSession call =>
      simp only [step] at stepped
      split at stepped
      · next session holding =>
          obtain rfl := Option.some.inj stepped
          exact .inr (.inr (.inr (.inr (.inl ⟨call, session, holding, rfl⟩))))
      · contradiction
  | releasePermit call =>
      simp only [step] at stepped
      split at stepped
      · next returned =>
          obtain rfl := Option.some.inj stepped
          exact .inr (.inr (.inr (.inr (.inr ⟨call, returned, rfl⟩))))
      · contradiction

/-! ## The invariant -/

/-- The queued and the held sessions are the original ones, and the free permits, the held sessions
and the calls between two steps are as many. -/
structure Balanced (capacity : Nat) (state : State) : Prop where
  sessions : (state.pool.sessions ++ state.held).Perm (original capacity)
  permits : state.pool.permits + state.held.length + state.calls.countP Phase.between = capacity
  fed : .starved ∉ state.calls

theorem balanced_start (capacity : Nat) : (start capacity).Balanced capacity where
  sessions := by simp [start, held]
  permits := by simp [start, held]
  fed := by simp [start]

/-- The queue covers the free permits and every call between two steps. -/
theorem Balanced.length_sessions {capacity : Nat} (balanced : state.Balanced capacity) :
    state.pool.sessions.length = state.pool.permits + state.calls.countP Phase.between := by
  have lengths := balanced.sessions.length_eq
  have permits := balanced.permits
  simp only [List.length_append, original, List.length_map, List.length_range] at lengths
  omega

/-- A call that has a permit finds a session. -/
theorem Balanced.sessions_ne_nil {capacity call : Nat} (balanced : state.Balanced capacity)
    (permitted : state.calls[call]? = some .permitted) : state.pool.sessions ≠ [] := by
  have between : 0 < state.calls.countP Phase.between :=
    List.countP_pos_iff.mpr ⟨_, List.mem_of_getElem? permitted, rfl⟩
  have length := balanced.length_sessions
  intro empty
  simp only [empty, List.length_nil] at length
  omega

/-- A new call without a session keeps the balance when it pays for its permit. -/
theorem Balanced.append {capacity permits : Nat} (balanced : state.Balanced capacity)
    {phase : Phase} (empty : phase.session = none) (fresh : phase ≠ .starved)
    (paid : permits + phase.between.toNat = state.pool.permits) :
    Balanced capacity ⟨⟨state.pool.sessions, permits⟩, state.calls ++ [phase]⟩ := by
  obtain ⟨sessions, counted, fed⟩ := balanced
  have same : (state.calls ++ [phase]).filterMap Phase.session = state.held := by
    simp [held, empty]
  have count : (state.calls ++ [phase]).countP Phase.between =
      state.calls.countP Phase.between + phase.between.toNat := by
    cases phase <;> simp [Phase.between, List.countP_cons]
  refine ⟨by simpa only [held, same] using sessions, ?_, by simpa [fed] using fresh.symm⟩
  change permits + ((state.calls ++ [phase]).filterMap Phase.session).length + _ = capacity
  rw [same, count]
  omega

/-- A call that moves on keeps the balance when sessions and permits move with it. -/
theorem Balanced.set {capacity call : Nat} {old new : Phase} {pool : Pkcs11SessionPool}
    (balanced : state.Balanced capacity) (occupied : state.calls[call]? = some old)
    (fresh : new ≠ .starved)
    (moved : (pool.sessions ++ new.session.toList).Perm
      (state.pool.sessions ++ old.session.toList))
    (paid : pool.permits + new.session.toList.length + new.between.toNat =
      state.pool.permits + old.session.toList.length + old.between.toNat) :
    Balanced capacity ⟨pool, state.calls.set call new⟩ := by
  obtain ⟨sessions, counted, fed⟩ := balanced
  obtain ⟨others, before, after⟩ := Slots.exists_others occupied
  have held_old : state.held.Perm (old.session.toList ++ others.filterMap Phase.session) := by
    refine (before.filterMap _).trans (List.Perm.of_eq ?_)
    cases old <;> simp [List.filterMap_cons, Phase.session]
  have held_new : ((state.calls.set call new).filterMap Phase.session).Perm
      (new.session.toList ++ others.filterMap Phase.session) := by
    refine ((after new).filterMap _).trans (List.Perm.of_eq ?_)
    cases new <;> simp [List.filterMap_cons, Phase.session]
  have count_old : state.calls.countP Phase.between =
      others.countP Phase.between + old.between.toNat := by
    rw [before.countP_eq]
    cases old <;> simp [List.countP_cons, Phase.between]
  have count_new : (state.calls.set call new).countP Phase.between =
      others.countP Phase.between + new.between.toNat := by
    rw [(after new).countP_eq]
    cases new <;> simp [List.countP_cons, Phase.between]
  refine ⟨?_, ?_, ?_⟩
  · have shifted : (pool.sessions ++ (new.session.toList ++ others.filterMap Phase.session)).Perm
        (state.pool.sessions ++ (old.session.toList ++ others.filterMap Phase.session)) := by
      rw [← List.append_assoc, ← List.append_assoc]
      exact moved.append_right _
    have restored := shifted.trans (held_old.symm.append_left _)
    exact (held_new.append_left _).trans (restored.trans sessions)
  · have lengths_old := held_old.length_eq
    have lengths_new := held_new.length_eq
    simp only [List.length_append] at lengths_old lengths_new
    simp only [held] at counted ⊢
    simp only [held] at lengths_old
    omega
  · intro starved
    rcases List.mem_or_eq_of_mem_set starved with earlier | same
    · exact fed earlier
    · exact fresh same.symm

theorem Balanced.step {capacity : Nat} (balanced : state.Balanced capacity)
    (stepped : state.step event = some next) : next.Balanced capacity := by
  rcases step_eq_some stepped with ⟨_, _, rfl⟩ | ⟨_, free, rfl⟩ |
    ⟨call, session, rest, permitted, queue, rfl⟩ | ⟨call, permitted, empty, rfl⟩ |
    ⟨call, session, holding, rfl⟩ | ⟨call, returned, rfl⟩
  · exact balanced.append rfl (by simp) rfl
  · exact balanced.append rfl (by simp) (Nat.succ_pred_eq_of_pos free)
  · refine balanced.set permitted (by simp) ?_ rfl
    simp [Phase.session, queue]
  · exact absurd empty (balanced.sessions_ne_nil permitted)
  · exact balanced.set holding (by simp) (by simp [Phase.session]) rfl
  · exact balanced.set returned (by simp) (by simp [Phase.session]) rfl

/-! ## Runs -/

/-- A call is refused by its own permit step and by no other. -/
theorem refused_step {call : Nat} (stepped : state.step event = some next)
    (refused : next.calls[call]? = some .refused) :
    state.calls[call]? = some .refused ∨
      event = .takePermit ∧ state.calls.length = call ∧ state.pool.permits = 0 := by
  have unwritten {position : Nat} {phase : Phase} (different : phase ≠ .refused)
      (written : (state.calls.set position phase)[call]? = some .refused) :
      state.calls[call]? = some .refused := by
    rw [List.getElem?_set] at written
    split_ifs at written with same inside
    · exact absurd (Option.some.inj written) different
    · exact written
  rcases step_eq_some stepped with ⟨taken, empty, rfl⟩ | ⟨_, _, rfl⟩ |
    ⟨_, _, _, _, _, rfl⟩ | ⟨_, _, _, rfl⟩ | ⟨_, _, _, rfl⟩ | ⟨_, _, rfl⟩
  · rw [List.getElem?_append] at refused
    split_ifs at refused with earlier
    · exact .inl refused
    · obtain ⟨position, _⟩ := List.getElem?_eq_some_iff.mp refused
      simp only [List.length_singleton] at position
      exact .inr ⟨taken, by omega, empty⟩
  · rw [List.getElem?_append] at refused
    split_ifs at refused with earlier
    · exact .inl refused
    · obtain ⟨_, phase⟩ := List.getElem?_eq_some_iff.mp refused
      simp at phase
  · exact .inl (unwritten (by simp) refused)
  · exact .inl (unwritten (by simp) refused)
  · exact .inl (unwritten (by simp) refused)
  · exact .inl (unwritten (by simp) refused)

/-- The permit step of the call took place among the events and found no permit. -/
def RefusedIn (first : State) (events : List Event) (call : Nat) : Prop :=
  ∃ before after taking, events = before ++ .takePermit :: after ∧
    Execution.run step first before = some taking ∧ taking.calls.length = call ∧
    taking.pool.permits = 0

theorem refusedIn_of_run {final : State} {events : List Event} {call : Nat}
    (executed : Execution.run step state events = some final)
    (refused : final.calls[call]? = some .refused) :
    state.calls[call]? = some .refused ∨ RefusedIn state events call := by
  induction events generalizing state with
  | nil =>
      obtain rfl := Option.some.inj executed
      exact .inl refused
  | cons event events induction =>
      obtain ⟨next, stepped, continued⟩ := Execution.run_cons_eq_some_iff.mp executed
      rcases induction continued with earlier | ⟨before, after, taking, rfl, former, at_call, none⟩
      · rcases refused_step stepped earlier with former | ⟨rfl, at_call, none⟩
        · exact .inl former
        · exact .inr ⟨[], events, state, rfl, rfl, at_call, none⟩
      · exact .inr ⟨event :: before, after, taking, rfl,
          Execution.run_cons_eq_some_iff.mpr ⟨next, stepped, former⟩, at_call, none⟩

/-- Two guards never hold the same session. -/
theorem Balanced.holding_unique {capacity first second : Nat} {session : Session}
    (balanced : state.Balanced capacity)
    (former : state.calls[first]? = some (.holding session))
    (latter : state.calls[second]? = some (.holding session)) : first = second := by
  by_contra different
  obtain ⟨others, before, after⟩ := Slots.exists_others former
  have other : .holding session ∈ others := by
    have kept : (state.calls.set first .dropped)[second]? = some (.holding session) := by
      rw [List.getElem?_set_ne different]
      exact latter
    have member := (after .dropped).mem_iff.mp (List.mem_of_getElem? kept)
    simpa using member
  have twice : ¬ ((Phase.holding session :: others).filterMap Phase.session).Nodup := by
    simp only [List.filterMap_cons, Phase.session, List.nodup_cons, List.mem_filterMap]
    exact fun distinct => distinct.1 ⟨_, other, rfl⟩
  have distinct := balanced.sessions.nodup_iff.mpr (nodup_original capacity)
  exact twice ((before.filterMap _).nodup_iff.mp (List.Nodup.of_append_right distinct))

/-- Over every run of a pool that could be created, whatever the interleaving: the free permits
never outnumber the queue; the queued and the held sessions are the original ones without a
duplicate; no session is held twice; a call with a permit finds a session; and a call is answered
`SessionPoolExhausted` only when its permit step found no permit. -/
theorem conservation_of_run {openRo login : Nat → Except String Unit} {capacity : Nat}
    {pool : Pkcs11SessionPool} {events : List Event} {state : State}
    (created : new openRo login capacity = .ok pool)
    (executed : Execution.run step ⟨pool, []⟩ events = some state) :
    state.pool.permits ≤ state.pool.sessions.length ∧
      (state.pool.sessions ++ state.held).Perm pool.sessions ∧
      (state.pool.sessions ++ state.held).Nodup ∧
      (∀ (first second : Nat) session, state.calls[first]? = some (.holding session) →
        state.calls[second]? = some (.holding session) → first = second) ∧
      (∀ call : Nat, state.calls[call]? = some .permitted → state.pool.sessions ≠ []) ∧
      ∀ (call : Nat) phase, state.calls[call]? = some phase →
        phase.answer = some (.error .sessionPoolExhausted) →
          RefusedIn ⟨pool, []⟩ events call := by
  obtain rfl := new_eq_ok created
  have balanced : state.Balanced capacity :=
    Execution.invariant_of_run (fun _ _ _ balanced stepped => balanced.step stepped)
      (balanced_start capacity) executed
  refine ⟨?_, balanced.sessions, balanced.sessions.nodup_iff.mpr (nodup_original _),
    fun _ _ _ => balanced.holding_unique, fun _ => balanced.sessions_ne_nil, ?_⟩
  · have length := balanced.length_sessions
    omega
  · intro call phase occupied answered
    cases phase with
    | refused =>
        rcases refusedIn_of_run executed occupied with earlier | refused
        · simp at earlier
        · exact refused
    | starved => exact absurd (List.mem_of_getElem? occupied) balanced.fed
    | _ => simp [Phase.answer] at answered

/-- A pool of one session: a second call is refused while the first is between its steps. -/
theorem conservation_of_run_contended :
    ∃ pool state, new (fun _ => .ok ()) (fun _ => .ok ()) 1 = .ok pool ∧
      Execution.run step ⟨pool, []⟩ [.takePermit, .takePermit, .popSession 0, .pushSession 0] =
        some state ∧
      state.pool.permits ≤ state.pool.sessions.length ∧
      RefusedIn ⟨pool, []⟩ [.takePermit, .takePermit, .popSession 0, .pushSession 0] 1 := by
  have created : new (fun _ => .ok ()) (fun _ => .ok ()) 1 = .ok (start 1).pool := rfl
  have executed : Execution.run step (start 1)
      [.takePermit, .takePermit, .popSession 0, .pushSession 0] = some _ := rfl
  obtain ⟨covered, _, _, _, _, refused⟩ := conservation_of_run created executed
  exact ⟨_, _, created, executed, covered, refused 1 .refused rfl rfl⟩

end State

end Pkcs11SessionPool

end OxiTls
