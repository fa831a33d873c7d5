import Mathlib.Data.List.Basic
import Mathlib.Data.List.Perm.Basic
import Mathlib.Tactic.Common

/-!
# Lists of slots

A system of many components keeps one slot for each of them and changes one slot at a time.  Up to
their order, the slots are the occupied one and the others, and writing to the slot keeps the
others.
-/

namespace Slots

variable {α : Type*}

theorem exists_others {slots : List α} {position : Nat} {old : α}
    (occupied : slots[position]? = some old) :
    ∃ others, slots.Perm (old :: others) ∧
      ∀ new, (slots.set position new).Perm (new :: others) := by
  obtain ⟨inside, rfl⟩ := List.getElem?_eq_some_iff.mp occupied
  refine ⟨slots.take position ++ slots.drop (position + 1), ?_, fun new => ?_⟩
  · have split : slots = slots.take position ++ slots[position] :: slots.drop (position + 1) := by
      rw [← List.drop_eq_getElem_cons inside, List.take_append_drop]
    exact (List.Perm.of_eq split).trans List.perm_middle
  · rw [List.set_eq_take_append_cons_drop, if_pos inside]
    exact List.perm_middle

end Slots
