import Mathlib.Data.List.Basic
import Mathlib.Data.List.Nodup

/-!
# Two key slots

A service that rotates its keys holds the newest one and the one before it, and opens an input with
the first slot that fits.  The keys are listed newest first, so that the position of a key is the
number of rotations since it was the current one.
-/

namespace KeySlots

variable {κ π : Type*} {generated : List κ} {current : κ} {previous : Option κ}
  {opens : κ → Option π}

/-- Try the current key, then the previous one. -/
def lookup (opens : κ → Option π) (current : κ) (previous : Option κ) : Option π :=
  match opens current with
  | some content => some content
  | none =>
      match previous with
      | some key => opens key
      | none => none

/-- The slots hold the two newest keys. -/
structure Newest (generated : List κ) (current : κ) (previous : Option κ) : Prop where
  current : generated[0]? = some current
  previous : generated[1]? = previous

/-- A fresh key moves the current one into the second slot. -/
theorem Newest.rotate (newest : Newest generated current previous) (fresh : κ) :
    Newest (fresh :: generated) fresh (some current) :=
  ⟨rfl, newest.current⟩

/-- What is opened is opened by a key at one of the first two positions. -/
theorem Newest.of_lookup (newest : Newest generated current previous) {content : π}
    (opened : lookup opens current previous = some content) :
    ∃ position key, position ≤ 1 ∧ generated[position]? = some key ∧ opens key = some content := by
  unfold lookup at opened
  split at opened
  next first => exact ⟨0, current, Nat.zero_le 1, newest.current, first.trans opened⟩
  next =>
    split at opened
    next key => exact ⟨1, key, Nat.le_refl 1, newest.previous, opened⟩
    next => contradiction

section Fitting

variable [DecidableEq κ] {fitting : κ} {content : π} {age : Nat}
  (fits : ∀ key, opens key = if key = fitting then some content else none)
  (aged : generated[age]? = some fitting)
include fits aged

/-- Whatever only one key opens is opened while that key is in a slot. -/
theorem Newest.lookup_of_age_le (newest : Newest generated current previous) (young : age ≤ 1) :
    lookup opens current previous = some content := by
  unfold lookup
  rw [fits current]
  by_cases held : current = fitting
  · rw [if_pos held]
  · rw [if_neg held]
    have older : age = 1 := by
      by_contra other
      obtain rfl : age = 0 := by omega
      exact held (Option.some.inj (newest.current.symm.trans aged))
    rw [older, newest.previous] at aged
    simp only [aged, fits, if_true]

/-- With distinct keys, whatever only one key opens is opened exactly while that key is in a
slot. -/
theorem Newest.lookup_eq (newest : Newest generated current previous)
    (distinct : generated.Nodup) :
    lookup opens current previous = if age ≤ 1 then some content else none := by
  split_ifs with young
  · exact newest.lookup_of_age_le fits aged young
  · rw [Option.eq_none_iff_forall_ne_some]
    intro other opened
    obtain ⟨position, key, bound, held, opened⟩ := newest.of_lookup opened
    rw [fits, Option.ite_none_right_eq_some] at opened
    obtain ⟨rfl, _⟩ := opened
    obtain ⟨inside, _⟩ := List.getElem?_eq_some_iff.mp aged
    have same : age = position := (List.getElem?_inj inside distinct).mp (aged.trans held.symm)
    omega

end Fitting

end KeySlots
