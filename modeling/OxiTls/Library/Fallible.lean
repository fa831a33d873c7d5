import Mathlib.Tactic.Common

/-!
# Inversion of fallible computations

A computation in `Except` succeeds exactly when each of its stages does.  These equivalences peel
one stage at a time, so that no proof about a caller has to unfold the stages it calls.
-/

namespace Except

variable {ε ε' : Type*} {α β : Type}

theorem ok_bind (value : α) (next : α → Except ε β) : (Except.ok value >>= next) = next value := rfl

/-- A computation succeeds with one value. -/
theorem ok_unique {result : Except ε α} {value other : α} (first : result = .ok value)
    (second : result = .ok other) : value = other :=
  Except.ok.inj (first.symm.trans second)

/-- A bind succeeds exactly when both stages do. -/
@[simp]
theorem bind_eq_ok_iff {first : Except ε α} {next : α → Except ε β} {value : β} :
    (first >>= next) = .ok value ↔ ∃ middle, first = .ok middle ∧ next middle = .ok value := by
  cases first <;> simp [Bind.bind, Except.bind]

/-- A bind fails with the failure of the stage that fails first. -/
theorem bind_eq_error_iff {first : Except ε α} {next : α → Except ε β} {failure : ε} :
    (first >>= next) = .error failure ↔
      first = .error failure ∨ ∃ middle, first = .ok middle ∧ next middle = .error failure := by
  cases first <;> simp [Bind.bind, Except.bind]

/-- A failure that neither stage has is not one of the bind. -/
theorem bind_ne_error {first : Except ε α} {next : α → Except ε β} {failure : ε}
    (former : first ≠ .error failure) (latter : ∀ middle, next middle ≠ .error failure) :
    (first >>= next) ≠ .error failure := by
  intro failed
  obtain failed | ⟨middle, -, failed⟩ := bind_eq_error_iff.mp failed
  · exact former failed
  · exact latter middle failed

theorem pure_ne_error {value : α} {failure : ε} : (pure value : Except ε α) ≠ .error failure :=
  nofun

/-- Mapping over a computation succeeds exactly when the computation does. -/
@[simp]
theorem map_eq_ok_iff {function : α → β} {result : Except ε α} {value : β} :
    function <$> result = .ok value ↔ ∃ middle, result = .ok middle ∧ function middle = value := by
  cases result <;> simp [Functor.map, Except.map]

@[simp]
theorem pure_eq_ok_iff {value other : α} :
    (pure value : Except ε α) = .ok other ↔ value = other := by
  simp [Pure.pure, Except.pure]

@[simp]
theorem throw_ne_ok {failure : ε} {value : α} : (throw failure : Except ε α) ≠ .ok value := by
  simp [throw, throwThe, MonadExceptOf.throw]

/-- Translating the failure of a computation leaves its successes alone. -/
@[simp]
theorem mapError_eq_ok_iff {translate : ε → ε'} {result : Except ε α} {value : α} :
    result.mapError translate = .ok value ↔ result = .ok value := by
  cases result <;> simp [Except.mapError]

theorem mapError_eq_error_iff {translate : ε → ε'} {result : Except ε α} {failure : ε'} :
    result.mapError translate = .error failure ↔
      ∃ original, result = .error original ∧ translate original = failure := by
  cases result <;> simp [Except.mapError]

/-- A failure that is no translation does not occur. -/
theorem mapError_ne_error {translate : ε → ε'} {failure : ε'}
    (foreign : ∀ original, translate original ≠ failure) (result : Except ε α) :
    result.mapError translate ≠ .error failure := by
  intro failed
  obtain ⟨original, -, translated⟩ := mapError_eq_error_iff.mp failed
  exact foreign original translated

/-- A handler takes part when the computation fails. -/
theorem tryCatch_eq_ok_iff {result : Except ε α} {handler : ε → Except ε α} {value : α} :
    result.tryCatch handler = .ok value ↔
      result = .ok value ∨ ∃ failure, result = .error failure ∧ handler failure = .ok value := by
  cases result <;> simp [Except.tryCatch]

/-- A computation with a handler fails when both do. -/
theorem tryCatch_eq_error_iff {result : Except ε α} {handler : ε → Except ε α} {failure : ε} :
    result.tryCatch handler = .error failure ↔
      ∃ first, result = .error first ∧ handler first = .error failure := by
  cases result <;> simp [Except.tryCatch]

/-- Forgetting the failure keeps the successes. -/
@[simp]
theorem toOption_eq_some_iff {result : Except ε α} {value : α} :
    result.toOption = some value ↔ result = .ok value := by
  cases result <;> simp [Except.toOption]

/-- A traversal whose successes are the values of a function is the map of the function. -/
theorem eq_map_of_mapM_eq_ok {attempt : α → Except ε β} {function : α → β}
    (determined : ∀ input output, attempt input = .ok output → output = function input)
    {inputs : List α} {outputs : List β} (traversed : inputs.mapM attempt = .ok outputs) :
    outputs = inputs.map function := by
  induction inputs generalizing outputs with
  | nil => exact (pure_eq_ok_iff.mp traversed).symm
  | cons input inputs induction =>
      simp only [List.mapM_cons, bind_eq_ok_iff, pure_eq_ok_iff] at traversed
      obtain ⟨first, attempted, rest, continued, rfl⟩ := traversed
      rw [determined input first attempted, induction continued, List.map_cons]

/-- A traversal succeeds when every attempt does, with as many outputs as inputs. -/
theorem exists_mapM_eq_ok {attempt : α → Except ε β} {inputs : List α}
    (attempts : ∀ input ∈ inputs, ∃ output, attempt input = .ok output) :
    ∃ outputs, inputs.mapM attempt = .ok outputs ∧ outputs.length = inputs.length := by
  induction inputs with
  | nil => exact ⟨[], rfl, rfl⟩
  | cons input inputs induction =>
      obtain ⟨first, later⟩ := List.forall_mem_cons.mp attempts
      obtain ⟨output, attempted⟩ := first
      obtain ⟨outputs, traversed, length⟩ := induction later
      refine ⟨output :: outputs, ?_, by rw [List.length_cons, length, List.length_cons]⟩
      simp only [List.mapM_cons, attempted, traversed]
      rfl

/-- A traversal that succeeds has an output for every input. -/
theorem forall_exists_of_mapM_eq_ok {attempt : α → Except ε β} {inputs : List α}
    {outputs : List β} (traversed : inputs.mapM attempt = .ok outputs) :
    (∀ input ∈ inputs, ∃ output, attempt input = .ok output) ∧
      outputs.length = inputs.length := by
  induction inputs generalizing outputs with
  | nil =>
      rw [← pure_eq_ok_iff.mp traversed]
      exact ⟨nofun, rfl⟩
  | cons input inputs induction =>
      simp only [List.mapM_cons, bind_eq_ok_iff, pure_eq_ok_iff] at traversed
      obtain ⟨first, attempted, rest, continued, rfl⟩ := traversed
      obtain ⟨later, length⟩ := induction continued
      refine ⟨List.forall_mem_cons.mpr ⟨⟨first, attempted⟩, later⟩, ?_⟩
      rw [List.length_cons, List.length_cons, length]

/-- A failure that no attempt has is not one of the traversal. -/
theorem mapM_ne_error {attempt : α → Except ε β} {failure : ε}
    (attempts : ∀ input, attempt input ≠ .error failure) (inputs : List α) :
    inputs.mapM attempt ≠ .error failure := by
  induction inputs with
  | nil => exact pure_ne_error
  | cons input inputs induction =>
      rw [List.mapM_cons]
      exact bind_ne_error (attempts input) fun _ => bind_ne_error induction fun _ => pure_ne_error

/-- A failure that no step has is not one of the loop. -/
theorem foldlM_ne_error {step : β → α → Except ε β} {failure : ε}
    (steps : ∀ state input, step state input ≠ .error failure) (inputs : List α) (state : β) :
    inputs.foldlM step state ≠ .error failure := by
  induction inputs generalizing state with
  | nil => exact pure_ne_error
  | cons input inputs induction =>
      rw [List.foldlM_cons]
      exact bind_ne_error (steps state input) induction

/-- Dressing up the values and the failures of a traversal does not change when it succeeds. -/
theorem mapM_mapError_map_eq_ok_iff {γ : Type} {attempt : α → Except ε β} {function : β → γ}
    {translate : ε → ε'} {inputs : List α} {outputs : List γ} :
    inputs.mapM (fun input => (function <$> attempt input).mapError translate) = .ok outputs ↔
      ∃ values, inputs.mapM attempt = .ok values ∧ values.map function = outputs := by
  induction inputs generalizing outputs with
  | nil => simp [pure_eq_ok_iff]
  | cons input inputs induction =>
      simp only [List.mapM_cons, bind_eq_ok_iff, pure_eq_ok_iff, mapError_eq_ok_iff,
        map_eq_ok_iff, induction]
      constructor
      · rintro ⟨_, ⟨value, attempted, rfl⟩, _, ⟨values, traversed, rfl⟩, rfl⟩
        exact ⟨value :: values, ⟨value, attempted, values, traversed, rfl⟩, rfl⟩
      · rintro ⟨_, ⟨value, attempted, values, traversed, rfl⟩, rfl⟩
        exact ⟨_, ⟨value, attempted, rfl⟩, _, ⟨values, traversed, rfl⟩, rfl⟩

/-- A sequence of checks succeeds exactly when every check does. -/
theorem forM_eq_ok_iff {check : α → Except ε Unit} {inputs : List α} :
    inputs.forM check = .ok () ↔ ∀ input ∈ inputs, check input = .ok () := by
  induction inputs with
  | nil => simp [Pure.pure, Except.pure]
  | cons input inputs induction =>
      change (check input >>= fun _ => inputs.forM check) = .ok () ↔ _
      rw [bind_eq_ok_iff, List.forall_mem_cons, induction]
      exact ⟨fun ⟨_, first, later⟩ => ⟨first, later⟩, fun ⟨first, later⟩ => ⟨_, first, later⟩⟩

/-- A part of the state on which every successful step has a known effect has the combined effect
after a successful run. -/
theorem eq_foldl_of_foldlM_eq_ok {σ : Type} {γ : Type*} {step : σ → α → Except ε σ}
    (part : σ → γ) (effect : γ → α → γ)
    (tracks : ∀ state input next, step state input = .ok next →
      part next = effect (part state) input)
    {inputs : List α} {state final : σ} (ran : inputs.foldlM step state = .ok final) :
    part final = inputs.foldl effect (part state) := by
  induction inputs generalizing state with
  | nil => exact congrArg part (pure_eq_ok_iff.mp ran).symm
  | cons input inputs induction =>
      rw [List.foldlM_cons, bind_eq_ok_iff] at ran
      obtain ⟨next, stepped, continued⟩ := ran
      rw [induction continued, tracks state input next stepped, List.foldl_cons]

/-- A last stage that cannot fail does not matter for success. -/
theorem exists_bind_pure_eq_ok_iff {result : Except ε α} {function : α → β} :
    (∃ value, (result >>= fun middle => pure (function middle)) = .ok value) ↔
      ∃ middle, result = .ok middle := by
  cases result <;> simp [Bind.bind, Except.bind, Pure.pure, Except.pure]

/-- A computation fails exactly when it has no value. -/
theorem exists_eq_error_iff {result : Except ε α} :
    (∃ failure, result = .error failure) ↔ ¬ ∃ value, result = .ok value := by
  cases result <;> simp

end Except
