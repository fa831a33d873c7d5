import Mathlib.Tactic.Common

/-!
# Computations that restore their resource

A computation that may fail takes a resource, uses it and leaves it in a state that is as good as
before.  It then answers as the computation without the resource does, on success and on failure,
and so does every sequence of such computations.
-/

namespace Restoring

variable {σ ε : Type} {α β : Type}

/-- A computation that may fail, on a resource that is left behind either way. -/
abbrev Using (σ ε α : Type) : Type := ExceptT ε (StateM σ) α

/-- The answer and the resource that is left. -/
def Using.on (computation : Using σ ε α) (resource : σ) : Except ε α × σ :=
  StateT.run (ExceptT.run computation) resource

/-- The second computation runs on the resource that the first one leaves, if the first one
succeeds. -/
theorem Using.on_bind (computation : Using σ ε α) (next : α → Using σ ε β) (resource : σ) :
    (computation >>= next).on resource =
      match computation.on resource with
      | (.ok value, middle) => (next value).on middle
      | (.error failure, middle) => (.error failure, middle) := by
  change (match computation.on resource with
    | (answer, middle) => ExceptT.bindCont next answer middle : Except ε β × σ) = _
  rcases computation.on resource with ⟨failure | value, middle⟩ <;> rfl

/-- When a resource is available, and how one may be left. -/
structure Discipline (σ : Type) where
  available : σ → Prop
  restored : σ → σ → Prop
  refl : ∀ resource, restored resource resource
  trans : ∀ {first second third}, restored first second → restored second third →
    restored first third
  keeps : ∀ {before after}, available before → restored before after → available after

variable (discipline : Discipline σ)

/-- On an available resource the computation gives the answer and restores the resource. -/
def Answers (computation : Using σ ε α) (answer : Except ε α) : Prop :=
  ∀ resource, discipline.available resource →
    ∃ after, computation.on resource = (answer, after) ∧ discipline.restored resource after

variable {discipline}

theorem Answers.pure (value : α) :
    Answers discipline (Pure.pure value : Using σ ε α) (.ok value) :=
  fun resource _ => ⟨resource, rfl, discipline.refl resource⟩

/-- A computation without the resource. -/
theorem Answers.lift (answer : Except ε α) :
    Answers discipline (liftM answer : Using σ ε α) answer := by
  intro resource _
  cases answer <;> exact ⟨resource, rfl, discipline.refl resource⟩

theorem Answers.bind {computation : Using σ ε α} {answer : Except ε α} {next : α → Using σ ε β}
    {continuation : α → Except ε β} (first : Answers discipline computation answer)
    (second : ∀ value, Answers discipline (next value) (continuation value)) :
    Answers discipline (computation >>= next) (answer >>= continuation) := by
  intro resource available
  obtain ⟨middle, answered, restored⟩ := first resource available
  rw [Using.on_bind, answered]
  cases answer with
  | error failure => exact ⟨middle, rfl, restored⟩
  | ok value =>
      obtain ⟨after, continued, again⟩ := second value middle (discipline.keeps available restored)
      exact ⟨after, continued, discipline.trans restored again⟩

/-- A loop answers as the loop without the resource does. -/
theorem Answers.foldlM {γ : Type*} {body : α → γ → Using σ ε α} {plain : α → γ → Except ε α}
    (each : ∀ accumulator item,
      Answers discipline (body accumulator item) (plain accumulator item))
    (items : List γ) (accumulator : α) :
    Answers discipline (items.foldlM body accumulator) (items.foldlM plain accumulator) := by
  induction items generalizing accumulator with
  | nil => exact Answers.pure accumulator
  | cons item items induction =>
      rw [List.foldlM_cons, List.foldlM_cons]
      exact (each accumulator item).bind induction

end Restoring
