import Mathlib.Data.List.Induction
import Mathlib.Data.List.Nodup
import Mathlib.Tactic.Common

/-!
# Bounded caches that evict the least recently used key

`Lru` is a cache whose entries are kept with the most recently used one first.  `Recency.use` is the
unbounded order of the keys that have been used, without repetition.  A cache that starts empty
holds the first keys of that order: a bounded cache that takes in a key does what the unbounded
order does, cut at its capacity (`Recency.take_use_take`).
-/

namespace Recency

variable {κ : Type*} [DecidableEq κ]

/-- A key becomes the most recent one. -/
def use (order : List κ) (key : κ) : List κ := key :: order.filter (· ≠ key)

theorem mem_use {order : List κ} {key other : κ} :
    other ∈ use order key ↔ other = key ∨ other ∈ order := by
  simp only [use, List.mem_cons, List.mem_filter, decide_eq_true_eq]
  by_cases same : other = key <;> simp [same]

theorem nodup_use {order : List κ} (distinct : order.Nodup) (key : κ) : (use order key).Nodup := by
  simp [use, distinct.filter]

/-- Without repetition, dropping a key loses at most one of the first keys. -/
theorem take_filter_take {order : List κ} (distinct : order.Nodup) (key : κ) (count : Nat) :
    ((order.take (count + 1)).filter (· ≠ key)).take count =
      (order.filter (· ≠ key)).take count := by
  induction order generalizing count with
  | nil => simp
  | cons first rest induction =>
      obtain ⟨absent, distinct⟩ := List.nodup_cons.mp distinct
      rw [List.take_succ_cons]
      by_cases same : first = key
      · subst same
        have kept {keys : List κ} (sub : keys.Sublist rest) : keys.filter (· ≠ first) = keys := by
          rw [List.filter_eq_self]
          intro other member
          have different : other ≠ first := by
            rintro rfl
            exact absent (sub.subset member)
          simpa using different
        rw [List.filter_cons_of_neg (by simp), List.filter_cons_of_neg (by simp),
          kept (List.take_sublist _ _), kept (List.Sublist.refl _), List.take_take, Nat.min_self]
      · rw [List.filter_cons_of_pos (by simpa using same),
          List.filter_cons_of_pos (by simpa using same)]
        cases count with
        | zero => rfl
        | succ count => rw [List.take_succ_cons, List.take_succ_cons, induction distinct]

/-- Using a key in the first keys of an order gives the first keys of the order with the key
used. -/
theorem take_use_take {order : List κ} (distinct : order.Nodup) (key : κ) {count : Nat}
    (positive : 0 < count) :
    (use (order.take count) key).take count = (use order key).take count := by
  obtain ⟨count, rfl⟩ := Nat.exists_eq_succ_of_ne_zero (Nat.pos_iff_ne_zero.mp positive)
  rw [use, use, Nat.succ_eq_add_one, List.take_succ_cons, List.take_succ_cons,
    take_filter_take distinct]

/-- Keys used in turn are among as many first keys of the order. -/
theorem mem_take_foldl_use (order : List κ) {keys : List κ} {key : κ} (member : key ∈ keys) :
    key ∈ (keys.foldl use order).take keys.length := by
  induction keys using List.reverseRecOn with
  | nil => cases member
  | append_singleton keys last induction =>
      rw [List.foldl_append, List.foldl_cons, List.foldl_nil, use, List.length_append,
        List.length_singleton, List.take_succ_cons, List.mem_cons]
      by_cases same : key = last
      · exact .inl same
      · have earlier : key ∈ keys := by simpa [same] using member
        refine .inr ?_
        have kept : key ∈ ((keys.foldl use order).take keys.length).filter (· ≠ last) :=
          List.mem_filter.mpr ⟨induction earlier, by simpa using same⟩
        have front : ((keys.foldl use order).take keys.length).filter (· ≠ last) <+:
            ((keys.foldl use order).filter (· ≠ last)).take keys.length :=
          List.prefix_take_iff.mpr ⟨(List.take_prefix _ _).filter _,
            Nat.le_trans (List.length_filter_le _ _) (List.length_take_le _ _)⟩
        exact front.subset kept

end Recency

/-- A bounded cache, most recently used entry first. -/
structure Lru (κ β : Type*) where
  entries : List (κ × β)
  capacity : Nat
  positive : 0 < capacity
  distinct : (entries.map Prod.fst).Nodup
  bounded : entries.length ≤ capacity

namespace Lru

variable {κ β : Type*}

/-- The keys, most recently used first. -/
def keys (cache : Lru κ β) : List κ := cache.entries.map Prod.fst

/-- The cache without entries. -/
def empty (capacity : Nat) (positive : 0 < capacity) : Lru κ β :=
  ⟨[], capacity, positive, List.nodup_nil, Nat.zero_le _⟩

/-- Drop every entry. -/
def clear (cache : Lru κ β) : Lru κ β := empty cache.capacity cache.positive

@[simp]
theorem keys_empty (capacity : Nat) (positive : 0 < capacity) :
    (empty capacity positive : Lru κ β).keys = [] := rfl

@[simp]
theorem keys_clear (cache : Lru κ β) : cache.clear.keys = [] := rfl

theorem length_keys_le (cache : Lru κ β) : cache.keys.length ≤ cache.capacity := by
  simpa [keys] using cache.bounded

variable [DecidableEq κ]

/-- The value of a key, without using it. -/
def peek (cache : Lru κ β) (key : κ) : Option β :=
  (cache.entries.find? fun entry => entry.1 = key).map Prod.snd

/-- The entries of the other keys. -/
def others (cache : Lru κ β) (key : κ) : List (κ × β) :=
  cache.entries.filter fun entry => entry.1 ≠ key

/-- The entries after storing a value: the entry of the key is replaced, and a new key evicts the
last entry of a full cache. -/
def stored (cache : Lru κ β) (key : κ) (value : β) : List (κ × β) :=
  if key ∈ cache.keys then (key, value) :: cache.others key
  else if cache.entries.length = cache.capacity then (key, value) :: cache.entries.dropLast
  else (key, value) :: cache.entries

/-- Storing puts the entry in front of the others and cuts the cache at its capacity. -/
theorem stored_eq_take (cache : Lru κ β) (key : κ) (value : β) :
    cache.stored key value = ((key, value) :: cache.others key).take cache.capacity := by
  have bounded := cache.bounded
  have positive := cache.positive
  unfold stored
  split_ifs with member full
  · obtain ⟨entry, stored, rfl⟩ := List.mem_map.mp member
    have fewer : (cache.others entry.1).length < cache.entries.length := by
      rw [others, List.length_filter_lt_length_iff_exists]
      exact ⟨entry, stored, by simp⟩
    rw [List.take_of_length_le (by rw [List.length_cons]; omega)]
  all_goals
    have same : cache.others key = cache.entries := by
      rw [others, List.filter_eq_self]
      intro entry stored
      have different : entry.1 ≠ key := by
        rintro rfl
        exact member (List.mem_map_of_mem stored)
      simpa using different
    rw [same]
  · obtain ⟨count, counted⟩ := Nat.exists_eq_succ_of_ne_zero (Nat.pos_iff_ne_zero.mp positive)
    rw [counted, Nat.succ_eq_add_one, List.take_succ_cons, List.dropLast_eq_take, full, counted]
    rfl
  · rw [List.take_of_length_le (by rw [List.length_cons]; omega)]

/-- Store a value under a key, which becomes the most recent one. -/
def put (cache : Lru κ β) (key : κ) (value : β) : Lru κ β where
  entries := cache.stored key value
  capacity := cache.capacity
  positive := cache.positive
  distinct := by
    rw [stored_eq_take]
    refine ((List.take_sublist _ _).map Prod.fst).nodup ?_
    rw [List.map_cons, List.nodup_cons]
    exact ⟨by simp [others], (List.filter_sublist.map Prod.fst).nodup cache.distinct⟩
  bounded := by
    rw [stored_eq_take]
    exact List.length_take_le _ _

/-- The value of a key, which becomes the most recent one. -/
def get (cache : Lru κ β) (key : κ) : Option β × Lru κ β :=
  match cache.peek key with
  | some value => (some value, cache.put key value)
  | none => (none, cache)

variable {cache : Lru κ β} {key : κ} {value : β}

theorem keys_put :
    (cache.put key value).keys = (Recency.use cache.keys key).take cache.capacity := by
  simp only [keys, put, stored_eq_take, others, Recency.use, List.map_take, List.map_cons,
    List.filter_map]
  rfl

/-- An entry is the stored one or was there before. -/
theorem mem_put {entry : κ × β} (member : entry ∈ (cache.put key value).entries) :
    entry = (key, value) ∨ entry ∈ cache.entries := by
  simp only [put, stored_eq_take] at member
  rcases List.mem_cons.mp (List.mem_of_mem_take member) with same | earlier
  · exact .inl same
  · exact .inr (List.mem_of_mem_filter earlier)

theorem mem_of_peek (found : cache.peek key = some value) : (key, value) ∈ cache.entries := by
  obtain ⟨⟨key', value'⟩, member, rfl⟩ := Option.map_eq_some_iff.mp found
  obtain rfl : key' = key := by simpa using List.find?_some member
  exact List.mem_of_find?_eq_some member

theorem get_of_peek_some (found : cache.peek key = some value) :
    cache.get key = (some value, cache.put key value) := by
  rw [get, found]

theorem get_of_peek_none (missing : cache.peek key = none) : cache.get key = (none, cache) := by
  rw [get, missing]

theorem isSome_peek_iff : (cache.peek key).isSome = true ↔ key ∈ cache.keys := by
  simp [peek, keys]

end Lru
