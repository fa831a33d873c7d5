import Mathlib.Data.List.Basic

/-!
# Chunks of a list

`List.toChunks` cuts a list into pieces of one size, the last of which may be shorter.  Its loop
fills arrays; here it gets its recursion on the list, and what the pieces are.
-/

namespace List

variable {α β : Type*} {size : Nat}

@[simp] theorem toChunks_nil (size : Nat) : ([] : List α).toChunks size = [] := by
  cases size <;> rfl

/-- The loop completes the chunk it is filling and cuts up the rest. -/
theorem toChunks_go_eq (positive : 0 < size) (items : List α) (filling : Array α)
    (filled : Array (List α)) (bounded : filling.size ≤ size) :
    toChunks.go size items filling filled =
      filled.toList ++ (filling.toList ++ items).take size ::
        ((filling.toList ++ items).drop size).toChunks size := by
  induction items generalizing filling filled with
  | nil =>
      have all : filling.toList.length ≤ size := by simpa using bounded
      simp [toChunks.go, take_of_length_le all, drop_of_length_le all]
  | cons item items induction =>
      obtain ⟨smaller, rfl⟩ := Nat.exists_eq_succ_of_ne_zero (Nat.pos_iff_ne_zero.mp positive)
      rw [toChunks.go]
      by_cases full : filling.size = smaller + 1
      · have length : filling.toList.length = smaller + 1 := by simpa using full
        have restarted := induction #[item] (filled.push filling.toList) (by simp)
        have rest : (item :: items).toChunks (smaller + 1) = _ := induction #[item] #[] (by simp)
        rw [if_pos (by simpa using full), take_left' length, drop_left' length, rest]
        simpa using restarted
      · rw [if_neg (by simpa using full), induction _ _ (by simp; omega)]
        simp

/-- The first chunk is the first `size` items, and the others are the chunks of the rest. -/
theorem toChunks_eq (positive : 0 < size) {items : List α} (nonempty : items ≠ []) :
    items.toChunks size = items.take size :: (items.drop size).toChunks size := by
  obtain ⟨smaller, rfl⟩ := Nat.exists_eq_succ_of_ne_zero (Nat.pos_iff_ne_zero.mp positive)
  cases items with
  | nil => contradiction
  | cons item items => exact toChunks_go_eq positive items #[item] #[] (by simp)

/-- A property of lists holds if it holds of the empty list and passes from what follows the first
chunk to the whole. -/
theorem chunkInduction {motive : List α → Prop} (positive : 0 < size) (nil : motive [])
    (step : ∀ items, items ≠ [] → motive (items.drop size) → motive items) (items : List α) :
    motive items := by
  induction length : items.length using Nat.strongRecOn generalizing items with
  | ind count induction =>
      by_cases empty : items = []
      · exact empty ▸ nil
      · have some := length_pos_iff.mpr empty
        exact step items empty (induction _ (by rw [length_drop]; omega) _ rfl)

/-- The chunks put together are the list. -/
@[simp] theorem flatten_toChunks (positive : 0 < size) (items : List α) :
    (items.toChunks size).flatten = items := by
  induction items using chunkInduction positive with
  | nil => simp
  | step items nonempty induction => simp [toChunks_eq positive nonempty, induction]

/-- A map commutes with the cuts. -/
theorem toChunks_map (positive : 0 < size) (image : α → β) (items : List α) :
    (items.map image).toChunks size = (items.toChunks size).map (map image) := by
  induction items using chunkInduction positive with
  | nil => simp
  | step items nonempty induction =>
      have mapped : items.map image ≠ [] := by simpa using nonempty
      rw [toChunks_eq positive mapped, toChunks_eq positive nonempty, map_cons, map_take,
        ← map_drop, induction]

/-- No chunk is empty or longer than `size`. -/
theorem length_of_mem_toChunks (positive : 0 < size) {items chunk : List α}
    (member : chunk ∈ items.toChunks size) : 0 < chunk.length ∧ chunk.length ≤ size := by
  induction items using chunkInduction positive with
  | nil => simp at member
  | step items nonempty induction =>
      rw [toChunks_eq positive nonempty, mem_cons] at member
      rcases member with rfl | member
      · have some := length_pos_iff.mpr nonempty
        rw [length_take]
        omega
      · exact induction member

/-- Every chunk but the last has the full size. -/
theorem length_of_mem_dropLast_toChunks (positive : 0 < size) {items chunk : List α}
    (member : chunk ∈ (items.toChunks size).dropLast) : chunk.length = size := by
  induction items using chunkInduction positive with
  | nil => simp at member
  | step items nonempty induction =>
      rw [toChunks_eq positive nonempty] at member
      by_cases last : items.drop size = []
      · simp [last] at member
      · have following : (items.drop size).toChunks size ≠ [] := by
          rw [toChunks_eq positive last]
          exact cons_ne_nil _ _
        rw [dropLast_cons_of_ne_nil following, mem_cons] at member
        rcases member with rfl | member
        · have longer := length_pos_iff.mpr last
          rw [length_drop] at longer
          rw [length_take]
          omega
        · exact induction member

end List
