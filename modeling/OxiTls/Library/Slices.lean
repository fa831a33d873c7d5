import Mathlib.Tactic.Common

/-!
# Slices of a list

Reading the pieces of a concatenation by position, and putting a list together again from
consecutive slices.
-/

namespace Slices

variable {α : Type*} {items : List α} {start stop : Nat}

/-- A piece of a concatenation is the slice between its two ends. -/
theorem extract_of_append_prefix (before middle : List α) (starts : before.length = start)
    (stops : start + middle.length = stop) (leads : before ++ middle <+: items) :
    items.extract start stop = middle := by
  obtain ⟨after, rfl⟩ := leads
  subst starts stops
  rw [List.extract_eq_take_drop, List.append_assoc, List.drop_left, Nat.add_sub_cancel_left,
    List.take_left]

/-- A slice continues the slice before it. -/
theorem take_append_extract (ordered : start ≤ stop) :
    items.take start ++ items.extract start stop = items.take stop := by
  obtain ⟨size, rfl⟩ := Nat.exists_eq_add_of_le ordered
  rw [List.extract_eq_take_drop, Nat.add_sub_cancel_left, ← List.take_add]

theorem length_extract (inRange : stop ≤ items.length) :
    (items.extract start stop).length = stop - start := by
  rw [List.extract_eq_take_drop, List.length_take, List.length_drop]
  omega

/-- The first items of a slice. -/
theorem take_extract {size : Nat} (inRange : start + size ≤ stop) :
    (items.extract start stop).take size = items.extract start (start + size) := by
  rw [List.extract_eq_take_drop, List.extract_eq_take_drop, List.take_take, Nat.add_sub_cancel_left]
  congr 1
  omega

/-- What is left of a slice after its first items. -/
theorem drop_extract (size : Nat) :
    (items.extract start stop).drop size = items.extract (start + size) stop := by
  rw [List.extract_eq_take_drop, List.extract_eq_take_drop, List.drop_take, List.drop_drop]
  congr 1
  omega

/-- A slice starts with its first item. -/
theorem extract_eq_cons (default : α) (ordered : start < stop) (inRange : start < items.length) :
    items.extract start stop = items.getD start default :: items.extract (start + 1) stop := by
  obtain ⟨size, rfl⟩ := Nat.exists_eq_add_of_lt ordered
  have shorter : start + size + 1 - (start + 1) = size := by omega
  have longer : start + size + 1 - start = size + 1 := by omega
  rw [List.extract_eq_take_drop, List.extract_eq_take_drop, shorter, longer,
    List.drop_eq_getElem_cons inRange, List.take_succ_cons, List.getD_eq_getElem?_getD,
    List.getElem?_eq_getElem inRange, Option.getD_some]

@[simp]
theorem extract_self (position : Nat) : items.extract position position = [] := by
  rw [List.extract_eq_take_drop, Nat.sub_self, List.take_zero]

/-- A single item is a slice of length one. -/
theorem extract_succ (default : α) (inRange : start < items.length) :
    items.extract start (start + 1) = [items.getD start default] := by
  rw [extract_eq_cons default (Nat.lt_succ_self start) inRange, extract_self]

theorem extract_add_two (default : α) (inRange : start + 1 < items.length) :
    items.extract start (start + 2) =
      [items.getD start default, items.getD (start + 1) default] := by
  rw [extract_eq_cons default (by omega) (by omega), extract_succ default inRange]

/-- The item of a slice of length one. -/
theorem getD_of_extract_succ (default : α) {item : α}
    (singleton : items.extract start (start + 1) = [item]) : items.getD start default = item := by
  rw [List.extract_eq_take_drop, Nat.add_sub_cancel_left] at singleton
  have inRange : start < items.length := by
    by_contra outOfRange
    rw [List.drop_eq_nil_of_le (by omega), List.take_nil] at singleton
    contradiction
  have read := extract_succ default inRange
  rw [List.extract_eq_take_drop, Nat.add_sub_cancel_left, singleton] at read
  exact (List.singleton_inj.mp read).symm

/-- The items of an array read off a list one by one are a slice of the list. -/
theorem toList_ofFn_getD (default : α) {size : Nat} (inRange : start + size ≤ items.length) :
    (Vector.ofFn fun i : Fin size => items.getD (start + i) default).toList =
      items.extract start (start + size) := by
  apply List.ext_getElem
  · rw [Vector.length_toList, length_extract inRange, Nat.add_sub_cancel_left]
  · intro index fits _
    rw [Vector.length_toList] at fits
    have valid : start + index < items.length := by omega
    rw [Vector.getElem_toList, Vector.getElem_ofFn, List.getElem_take, List.getElem_drop,
      List.getD_eq_getElem?_getD, List.getElem?_eq_getElem valid, Option.getD_some]

end Slices
