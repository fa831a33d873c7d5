import Mathlib.Logic.Function.Basic
import Mathlib.Tactic.Common

/-!
# Tables whose entries expire

A table records the time of each key.  Retaining keeps the entries whose age is inside a window; a
key disappears only when its recorded time is more than the window in the past.  `Covers` is the
invariant that a client of the table carries for each time it has recorded: the entry is still
there, or the clock is past its window.
-/

/-- The time recorded for each key. -/
abbrev ExpiringTable (κ : Type*) := κ → Option Nat

namespace ExpiringTable

variable {κ : Type*}

/-- The table without entries. -/
def empty : ExpiringTable κ := fun _ => none

/-- Drop the entries that are older than the window.  Times in the future have age zero. -/
def retain (window now : Nat) (table : ExpiringTable κ) : ExpiringTable κ :=
  fun key => (table key).filter fun recordedAt => now - recordedAt ≤ window

/-- Record a time for a key. -/
def insert [DecidableEq κ] (table : ExpiringTable κ) (key : κ) (now : Nat) : ExpiringTable κ :=
  Function.update table key (some now)

@[simp]
theorem empty_apply (key : κ) : (empty : ExpiringTable κ) key = none := rfl

@[simp]
theorem insert_self [DecidableEq κ] (table : ExpiringTable κ) (key : κ) (now : Nat) :
    table.insert key now key = some now := by
  simp [insert]

@[simp]
theorem insert_of_ne [DecidableEq κ] (table : ExpiringTable κ) {key other : κ} (now : Nat)
    (different : other ≠ key) : table.insert key now other = table other := by
  simp [insert, different]

/-- The retained entries are the recorded ones inside the window. -/
@[simp]
theorem retain_eq_some_iff {window now recordedAt : Nat} {table : ExpiringTable κ} {key : κ} :
    table.retain window now key = some recordedAt ↔
      table key = some recordedAt ∧ now - recordedAt ≤ window := by
  simp [retain, Option.filter_eq_some_iff]

/-- The recorded time is still in the table, or the clock is past its window. -/
def Covers (window clock : Nat) (table : ExpiringTable κ) (key : κ) (recordedAt : Nat) : Prop :=
  table key = some recordedAt ∨ recordedAt + window < clock

namespace Covers

variable {window clock recordedAt : Nat} {table : ExpiringTable κ} {key : κ}

/-- Time passes. -/
theorem elapse {later : Nat} (covers : Covers window clock table key recordedAt)
    (advanced : clock ≤ later) : Covers window later table key recordedAt :=
  covers.imp id fun expired => by omega

/-- Retaining with a time that is not in the future drops only expired entries. -/
theorem retain {now : Nat} (covers : Covers window clock table key recordedAt)
    (current : now ≤ clock) : Covers window clock (table.retain window now) key recordedAt := by
  rcases covers with recorded | expired
  · by_cases young : now - recordedAt ≤ window
    · exact .inl (retain_eq_some_iff.mpr ⟨recorded, young⟩)
    · exact .inr (by omega)
  · exact .inr expired

/-- A key that is absent is expired. -/
theorem expired (covers : Covers window clock table key recordedAt) (absent : table key = none) :
    recordedAt + window < clock := by
  rcases covers with recorded | expired
  · rw [absent] at recorded
    contradiction
  · exact expired

/-- Recording an absent key overwrites no time inside its window. -/
theorem insert [DecidableEq κ] {other : κ} (covers : Covers window clock table other recordedAt)
    (absent : table key = none) (now : Nat) :
    Covers window clock (table.insert key now) other recordedAt := by
  by_cases same : other = key
  · subst same
    exact .inr (covers.expired absent)
  · exact covers.imp (fun recorded => by rwa [insert_of_ne _ _ same]) id

end Covers

end ExpiringTable
