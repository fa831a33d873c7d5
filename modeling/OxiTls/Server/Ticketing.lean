import Mathlib.Data.List.Induction
import OxiTls.Ticket.ReplayWindow
import OxiTls.Ticket.Ticketer

/-!
# Ticketers of a server configuration

`tls13/server.rs`: three setters of `ServerBuilder` write two fields of which `build` expects at
most one to be set, and `build` prefers the rotating ticketer.  The specification is a single slot
that the last write wins; `with_anti_replay` wraps what is in it.
-/

namespace OxiTls

/-- A `dyn ProducesTickets`.  One that the caller implements is known by its address and
lifetime. -/
inductive Ticketer
  | never
  | oxi (ticketer : OxiTicketer)
  | custom (address lifetimeSecs : Nat)
  | antiReplay (inner : Ticketer)
  deriving DecidableEq

/-- `lifetime`. -/
def Ticketer.lifetime : Ticketer → Nat
  | .never => 0
  | .oxi ticketer => ticketer.lifetimeSecs
  | .custom _ lifetimeSecs => lifetimeSecs
  | .antiReplay inner => inner.lifetime

/-- The ticketer fields of a `ServerBuilder`.  Intervals are in nanoseconds. -/
structure ServerBuilder where
  ticketer : Option Ticketer := none
  rotationTicketer : Option (OxiTicketer × Nat) := none
  deriving DecidableEq

/-- The ticketer of a `ServerConfig` and the rotation task that `build` spawns for it. -/
structure ServerConfig where
  ticketer : Ticketer := .never
  rotationTask : Option (OxiTicketer × Nat) := none
  deriving DecidableEq

/-- The calls that write the ticketer fields, with the bytes a working generator answers. -/
inductive TicketerCall
  | withTicketer (ticketer : Ticketer)
  | withAntiReplay (bytes : Vector UInt8 32)
  | withTicketerRotationInterval (interval : Nat) (bytes : Vector UInt8 32)
  deriving DecidableEq

/-- The ticketer that `OxiTicketer::new` makes of the given bytes. -/
def freshTicketer (bytes : Vector UInt8 32) : OxiTicketer := ⟨⟨bytes⟩, none, 6 * 60 * 60⟩

theorem oxiTicketer_new_ok (bytes : Vector UInt8 32) :
    OxiTicketer.new (.ok bytes) = .ok (freshTicketer bytes) := rfl

namespace ServerBuilder

variable (builder : ServerBuilder)

/-- `with_ticketer` clears the rotating ticketer. -/
def withTicketer (builder : ServerBuilder) (ticketer : Ticketer) : ServerBuilder :=
  { builder with ticketer := some ticketer, rotationTicketer := none }

/-- `with_anti_replay` wraps the plain ticketer or a new one. -/
def withAntiReplay (entropy : Except String (Vector UInt8 32)) : Except TlsError ServerBuilder := do
  let ticketer ←
    match builder.ticketer with
    | some ticketer => pure ticketer
    | none => do
        let created ← OxiTicketer.new entropy
        pure (Ticketer.oxi created)
  pure { builder with ticketer := some (.antiReplay ticketer) }

/-- `with_ticketer_rotation_interval` clears the plain ticketer; a failing generator is ignored. -/
def withTicketerRotationInterval (interval : Nat) (entropy : Except String (Vector UInt8 32)) :
    ServerBuilder :=
  match OxiTicketer.new entropy with
  | .ok ticketer => { builder with rotationTicketer := some (ticketer, interval), ticketer := none }
  | .error _ => builder

/-- One call, with a working generator. -/
def apply : TicketerCall → Except TlsError ServerBuilder
  | .withTicketer ticketer => .ok (builder.withTicketer ticketer)
  | .withAntiReplay bytes => builder.withAntiReplay (.ok bytes)
  | .withTicketerRotationInterval interval bytes =>
      .ok (builder.withTicketerRotationInterval interval (.ok bytes))

/-- A sequence of calls on a new builder. -/
def configure (calls : List TicketerCall) : Except TlsError ServerBuilder :=
  calls.foldlM apply {}

/-- The part of `build` that installs the ticketer; intervals are clamped to one second. -/
def installTicketer (config : ServerConfig) : ServerConfig :=
  match builder.rotationTicketer with
  | some (ticketer, interval) =>
      { config with
        ticketer := .oxi ticketer
        rotationTask := some (ticketer, max interval 1000000000) }
  | none =>
      match builder.ticketer with
      | some ticketer => { config with ticketer }
      | none => config

/-! ## The single slot -/

/-- The ticketer that a sequence of calls selects when the last write wins. -/
def selected : List TicketerCall → Option Ticketer :=
  List.foldl (fun slot call =>
    match call with
    | .withTicketer ticketer => some ticketer
    | .withTicketerRotationInterval _ bytes => some (.oxi (freshTicketer bytes))
    | .withAntiReplay bytes => some (.antiReplay (slot.getD (.oxi (freshTicketer bytes))))) none

/-- The rotating ticketer was the last one to be set, and the given number of guards followed. -/
def RotatesBehind (calls : List TicketerCall) (guards : List (Vector UInt8 32)) : Prop :=
  ∃ before interval bytes,
    calls = before ++ .withTicketerRotationInterval interval bytes ::
      guards.map TicketerCall.withAntiReplay

variable {builder}

theorem apply_withAntiReplay (bytes : Vector UInt8 32) :
    builder.apply (.withAntiReplay bytes) =
      .ok { builder with
        ticketer := some (.antiReplay (builder.ticketer.getD (.oxi (freshTicketer bytes)))) } := by
  cases slot : builder.ticketer <;>
    simp [apply, withAntiReplay, slot, oxiTicketer_new_ok, Pure.pure, Except.pure, Bind.bind,
      Except.bind]

theorem configure_snoc (calls : List TicketerCall) (call : TicketerCall) :
    configure (calls ++ [call]) = configure calls >>= fun builder => builder.apply call := by
  simp [configure, List.foldlM_append]

/-- What the calls leave in the two fields. -/
structure Configured (calls : List TicketerCall) (builder : ServerBuilder) : Prop where
  rotating : builder.rotationTicketer ≠ none ↔ ∃ guards, RotatesBehind calls guards
  plain : builder.rotationTicketer = none → builder.ticketer = selected calls
  hidden : ∀ guards, RotatesBehind calls guards → (builder.ticketer = none ↔ guards = [])

/-- Without guards, the last call set the rotating ticketer. -/
theorem rotatesBehind_snoc_nil_iff (calls : List TicketerCall) (call : TicketerCall) :
    RotatesBehind (calls ++ [call]) [] ↔
      ∃ interval bytes, call = .withTicketerRotationInterval interval bytes := by
  constructor
  · rintro ⟨before, interval, bytes, split⟩
    exact ⟨interval, bytes, List.singleton_inj.mp (List.append_inj' split rfl).2⟩
  · rintro ⟨interval, bytes, rfl⟩
    exact ⟨calls, interval, bytes, rfl⟩

/-- With a guard, the last call was that guard. -/
theorem rotatesBehind_snoc_snoc_iff (calls : List TicketerCall) (call : TicketerCall)
    (guards : List (Vector UInt8 32)) (bytes : Vector UInt8 32) :
    RotatesBehind (calls ++ [call]) (guards ++ [bytes]) ↔
      call = .withAntiReplay bytes ∧ RotatesBehind calls guards := by
  constructor
  · rintro ⟨before, interval, key, split⟩
    have parts : calls ++ [call] =
        (before ++ .withTicketerRotationInterval interval key ::
          guards.map TicketerCall.withAntiReplay) ++ [.withAntiReplay bytes] := by
      simpa using split
    obtain ⟨calls_eq, last⟩ := List.append_inj' parts rfl
    exact ⟨List.singleton_inj.mp last, before, interval, key, calls_eq⟩
  · rintro ⟨rfl, before, interval, key, rfl⟩
    exact ⟨before, interval, key, by simp⟩

theorem not_rotatesBehind_snoc_withTicketer (calls : List TicketerCall) (ticketer : Ticketer)
    (guards : List (Vector UInt8 32)) :
    ¬ RotatesBehind (calls ++ [.withTicketer ticketer]) guards := by
  induction guards using List.reverseRecOn with
  | nil => simp [rotatesBehind_snoc_nil_iff]
  | append_singleton guards bytes _ => simp [rotatesBehind_snoc_snoc_iff]

theorem guards_eq_nil_of_snoc_withTicketerRotationInterval {calls : List TicketerCall}
    {interval : Nat} {bytes : Vector UInt8 32} {guards : List (Vector UInt8 32)}
    (behind : RotatesBehind (calls ++ [.withTicketerRotationInterval interval bytes]) guards) :
    guards = [] := by
  induction guards using List.reverseRecOn with
  | nil => rfl
  | append_singleton guards guard _ => simp [rotatesBehind_snoc_snoc_iff] at behind

/-- A guard keeps the rotating ticketer behind it. -/
theorem rotatesBehind_snoc_withAntiReplay_iff (calls : List TicketerCall)
    (bytes : Vector UInt8 32) (guards : List (Vector UInt8 32)) :
    RotatesBehind (calls ++ [.withAntiReplay bytes]) guards ↔
      ∃ front, guards = front ++ [bytes] ∧ RotatesBehind calls front := by
  induction guards using List.reverseRecOn with
  | nil => simp [rotatesBehind_snoc_nil_iff]
  | append_singleton guards guard _ =>
      rw [rotatesBehind_snoc_snoc_iff]
      constructor
      · rintro ⟨same, behind⟩
        obtain rfl := TicketerCall.withAntiReplay.inj same
        exact ⟨guards, rfl, behind⟩
      · rintro ⟨front, split, behind⟩
        obtain ⟨rfl, last⟩ := List.append_inj' split rfl
        exact ⟨congrArg _ (List.singleton_inj.mp last).symm, behind⟩

/-- Every sequence of calls succeeds and leaves the fields as specified. -/
theorem exists_configured (calls : List TicketerCall) :
    ∃ builder, configure calls = .ok builder ∧ Configured calls builder := by
  induction calls using List.reverseRecOn with
  | nil =>
      refine ⟨{}, rfl, ?_, fun _ => rfl, fun guards behind => ?_⟩
      · simp [RotatesBehind]
      · simp [RotatesBehind] at behind
  | append_singleton calls call induction =>
      obtain ⟨builder, configured, rotating, plain, _⟩ := induction
      rw [configure_snoc, configured]
      cases call with
      | withTicketer ticketer =>
          refine ⟨builder.withTicketer ticketer, rfl, ?_, fun _ => ?_, fun guards behind => ?_⟩
          · simp [withTicketer, not_rotatesBehind_snoc_withTicketer]
          · simp [withTicketer, selected]
          · exact absurd behind (not_rotatesBehind_snoc_withTicketer calls ticketer guards)
      | withTicketerRotationInterval interval bytes =>
          refine ⟨_, rfl, ⟨fun _ => ⟨[], calls, interval, bytes, rfl⟩, fun _ => ?_⟩, ?_,
            fun guards behind => ?_⟩
          · simp [withTicketerRotationInterval, oxiTicketer_new_ok]
          · simp [withTicketerRotationInterval, oxiTicketer_new_ok]
          · simp [withTicketerRotationInterval, oxiTicketer_new_ok,
              guards_eq_nil_of_snoc_withTicketerRotationInterval behind]
      | withAntiReplay bytes =>
          refine ⟨_, apply_withAntiReplay bytes, ?_, fun unset => ?_, fun guards behind => ?_⟩
          · simp only [rotating, rotatesBehind_snoc_withAntiReplay_iff]
            constructor
            · rintro ⟨guards, behind⟩
              exact ⟨guards ++ [bytes], guards, rfl, behind⟩
            · rintro ⟨_, guards, _, behind⟩
              exact ⟨guards, behind⟩
          · simp [selected, plain unset]
          · obtain ⟨front, rfl, _⟩ :=
              (rotatesBehind_snoc_withAntiReplay_iff calls bytes guards).mp behind
            simp

/-! ## Last write wins -/

/-- Interleaved decryptions of an anti-replay ticketer with the given window answer one ticket
twice only more than the window apart. -/
def SingleUseWithin (crates : Crates) (windowSecs : Nat) : Prop :=
  ∀ clock events state,
    Execution.run (AntiReplay.step crates) (AntiReplay.initial windowSecs clock) events =
        some state →
      state.log.Pairwise (AntiReplay.Spaced windowSecs)

/-- At most one field is set, and when the last call is `with_anti_replay` the installed ticketer is
a guard around the ticketer that the calls before it selected. -/
def LastWriteWins (crates : Crates) (calls : List TicketerCall) (builder : ServerBuilder) : Prop :=
  (builder.ticketer = none ∨ builder.rotationTicketer = none) ∧
    ∀ before bytes, calls = before ++ [.withAntiReplay bytes] →
      ∃ inner, inner = (selected before).getD (.oxi (freshTicketer bytes)) ∧
        (builder.installTicketer {}).ticketer = .antiReplay inner ∧
        SingleUseWithin crates inner.lifetime

/-- The last write wins exactly when no rotating ticketer is followed by guards alone. -/
theorem lastWriteWins_iff (crates : Crates) (calls : List TicketerCall) :
    ∃ builder, configure calls = .ok builder ∧
      (LastWriteWins crates calls builder ↔
        ¬ ∃ guards, guards ≠ [] ∧ RotatesBehind calls guards) := by
  obtain ⟨builder, configured, rotating, plain, hidden⟩ := exists_configured calls
  refine ⟨builder, configured, ?_, fun exposed => ⟨?_, fun before bytes split => ?_⟩⟩
  · rintro ⟨unset | unset, _⟩ ⟨guards, guarded, behind⟩
    · exact guarded ((hidden guards behind).mp unset)
    · exact rotating.mpr ⟨guards, behind⟩ unset
  · by_cases unset : builder.rotationTicketer = none
    · exact .inr unset
    · obtain ⟨guards, behind⟩ := rotating.mp unset
      have none_behind : guards = [] := by
        by_contra guarded
        exact exposed ⟨guards, guarded, behind⟩
      exact .inl ((hidden guards behind).mpr none_behind)
  · subst split
    have unset : builder.rotationTicketer = none := by
      by_contra set
      obtain ⟨guards, behind⟩ := rotating.mp set
      obtain ⟨front, rfl, _⟩ :=
        (rotatesBehind_snoc_withAntiReplay_iff before bytes guards).mp behind
      exact exposed ⟨_, by simp, behind⟩
    refine ⟨_, rfl, ?_, fun clock events state executed =>
      (AntiReplay.sound_of_run executed).spaced⟩
    simp [installTicketer, unset, plain unset, selected]

/-- A rotating ticketer and then the replay guard. -/
def guardedRotation : List TicketerCall :=
  [.withTicketerRotationInterval 3600000000000 (Vector.replicate 32 1),
    .withAntiReplay (Vector.replicate 32 2)]

/-- Both fields are set and the guard is not installed. -/
theorem guardedRotation_unguarded :
    ∃ builder, configure guardedRotation = .ok builder ∧
      builder.ticketer ≠ none ∧ builder.rotationTicketer ≠ none ∧
      (builder.installTicketer {}).ticketer =
        .oxi (freshTicketer (Vector.replicate 32 1)) ∧
      ¬ LastWriteWins .inert guardedRotation builder := by
  refine ⟨_, rfl, by decide, by decide, rfl, ?_⟩
  rintro ⟨unset | unset, _⟩ <;> contradiction

end ServerBuilder

end OxiTls
