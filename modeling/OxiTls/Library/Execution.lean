import Mathlib.Data.List.Forall2
import Mathlib.Tactic.Common

/-!
# Executions of partial step functions

A step function answers `none` to an event that is not enabled.  Safety of a whole execution
follows from one step: `invariant_of_run` carries an invariant along the execution, where each step
may rely on a condition that the execution meets at every event.
-/

namespace Execution

variable {σ ε : Type*} (step : σ → ε → Option σ)

/-- Take the events in order; `none` when one of them is not enabled. -/
def run : σ → List ε → Option σ
  | state, [] => some state
  | state, event :: events => (step state event).bind fun next => run next events

/-- The condition holds of every state and the event taken in it. -/
def Meets (condition : σ → ε → Prop) : σ → List ε → Prop
  | _, [] => True
  | state, event :: events =>
      condition state event ∧ ∀ next, step state event = some next → Meets condition next events

variable {step}

@[simp]
theorem run_nil (state : σ) : run step state [] = some state := rfl

theorem run_cons_eq_some_iff {state final : σ} {event : ε} {events : List ε} :
    run step state (event :: events) = some final ↔
      ∃ next, step state event = some next ∧ run step next events = some final := by
  simp [run, Option.bind_eq_some_iff]

/-- An execution of a concatenation passes through the state that separates the two parts. -/
theorem run_append_eq_some_iff {state final : σ} {first last : List ε} :
    run step state (first ++ last) = some final ↔
      ∃ middle, run step state first = some middle ∧ run step middle last = some final := by
  induction first generalizing state with
  | nil => simp
  | cons event events induction =>
      simp only [List.cons_append, run_cons_eq_some_iff, induction]
      constructor
      · rintro ⟨next, stepped, middle, former, latter⟩
        exact ⟨middle, ⟨next, stepped, former⟩, latter⟩
      · rintro ⟨middle, ⟨next, stepped, former⟩, latter⟩
        exact ⟨next, stepped, middle, former, latter⟩

/-- An invariant that every step meeting the condition preserves holds at the end of every
execution that meets the condition. -/
theorem invariant_of_meets {condition : σ → ε → Prop} {invariant : σ → Prop} {start final : σ}
    {events : List ε}
    (preserved : ∀ state event next, invariant state → condition state event →
      step state event = some next → invariant next)
    (initial : invariant start) (met : Meets step condition start events)
    (executed : run step start events = some final) : invariant final := by
  induction events generalizing start with
  | nil =>
      obtain rfl := Option.some.inj executed
      exact initial
  | cons event events induction =>
      obtain ⟨next, stepped, later⟩ := run_cons_eq_some_iff.mp executed
      exact induction (preserved start event next initial met.1 stepped) (met.2 next stepped) later

/-- A condition that the events meet in every state is met by their execution. -/
theorem meets_of_forall_mem {condition : σ → ε → Prop} {events : List ε}
    (always : ∀ event ∈ events, ∀ state, condition state event) (state : σ) :
    Meets step condition state events := by
  induction events generalizing state with
  | nil => trivial
  | cons event events induction =>
      obtain ⟨first, later⟩ := List.forall_mem_cons.mp always
      exact ⟨first state, fun next _ => induction later next⟩

/-- An invariant that every step preserves holds at the end of every execution. -/
theorem invariant_of_run {invariant : σ → Prop} {start final : σ} {events : List ε}
    (preserved : ∀ state event next, invariant state → step state event = some next →
      invariant next)
    (initial : invariant start) (executed : run step start events = some final) :
    invariant final :=
  invariant_of_meets (fun state event next holds _ => preserved state event next holds) initial
    (meets_of_forall_mem (fun _ _ _ => trivial) start) executed

/-- What an execution brings about, one of its steps does. -/
theorem exists_step_of_run (property : σ → Prop) {start final : σ} {events : List ε}
    (executed : run step start events = some final) (before : ¬ property start)
    (after : property final) :
    ∃ former event latter middle next, events = former ++ event :: latter ∧
      run step start former = some middle ∧ step middle event = some next ∧
      ¬ property middle ∧ property next := by
  induction events generalizing start with
  | nil =>
      obtain rfl := Option.some.inj executed
      exact absurd after before
  | cons event events induction =>
      obtain ⟨next, stepped, later⟩ := run_cons_eq_some_iff.mp executed
      by_cases already : property next
      · exact ⟨[], event, events, start, next, rfl, rfl, stepped, before, already⟩
      · obtain ⟨former, found, latter, middle, reached, rfl, ran, last⟩ := induction later already
        exact ⟨event :: former, found, latter, middle, reached, rfl,
          run_cons_eq_some_iff.mpr ⟨next, stepped, ran⟩, last⟩

theorem exists_of_mem_of_forall₂ {α : Type*} {relation : ε → α → Prop} {events : List ε}
    {answers : List α} {answer : α} (related : List.Forall₂ relation events answers)
    (member : answer ∈ answers) : ∃ event, relation event answer := by
  induction related with
  | nil => contradiction
  | cons first _ induction =>
      rcases List.mem_cons.mp member with rfl | member
      · exact ⟨_, first⟩
      · exact induction member

/-- When every step adds an answer to its event, an execution answers its events in order. -/
theorem forall₂_of_run {α : Type*} {step : List α → ε → Option (List α)} {answers : ε → α → Prop}
    (answered : ∀ state event next, (∀ answer ∈ state, ∃ event, answers event answer) →
      step state event = some next → ∃ answer, next = state ++ [answer] ∧ answers event answer)
    {former events : List ε} {state final : List α} (earlier : List.Forall₂ answers former state)
    (executed : run step state events = some final) :
    List.Forall₂ answers (former ++ events) final := by
  induction events generalizing former state with
  | nil =>
      obtain rfl := Option.some.inj executed
      rwa [List.append_nil]
  | cons event events induction =>
      obtain ⟨next, stepped, later⟩ := run_cons_eq_some_iff.mp executed
      obtain ⟨answer, rfl, last⟩ :=
        answered state event next (fun _ => exists_of_mem_of_forall₂ earlier) stepped
      have extended : List.Forall₂ answers (former ++ [event]) (state ++ [answer]) :=
        List.rel_append earlier (.cons last .nil)
      simpa using induction extended later

end Execution
