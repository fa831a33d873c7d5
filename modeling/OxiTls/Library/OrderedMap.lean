import Mathlib.Data.List.Nodup

/-!
# Ordered maps

A map that remembers the order in which its keys came.  A key that comes again keeps its place and
takes the new value, so that a sequence of pairs survives exactly when no key repeats in it.
-/

/-- Pairs of keys and values in order, where no key comes twice. -/
structure OrderedMap (κ ν : Type) where
  entries : List (κ × ν)
  nodup : (entries.map Prod.fst).Nodup

namespace OrderedMap

variable {κ ν : Type}

/-- The map without keys. -/
def empty : OrderedMap κ ν := ⟨[], List.nodup_nil⟩

@[simp]
theorem entries_empty : (empty : OrderedMap κ ν).entries = [] := rfl

variable [DecidableEq κ]

/-- The entries with the value of a key replaced where the key stands, or put at the end. -/
def putEntries (entries : List (κ × ν)) (key : κ) (value : ν) : List (κ × ν) :=
  if key ∈ entries.map Prod.fst then
    entries.map fun entry => if entry.1 = key then (key, value) else entry
  else entries ++ [(key, value)]

theorem keys_putEntries (entries : List (κ × ν)) (key : κ) (value : ν) :
    (putEntries entries key value).map Prod.fst =
      if key ∈ entries.map Prod.fst then entries.map Prod.fst
      else entries.map Prod.fst ++ [key] := by
  rw [putEntries]
  split_ifs with known
  · rw [List.map_map]
    apply List.map_congr_left
    intro entry _
    rw [Function.comp_apply]
    split_ifs with same
    · exact same.symm
    · rfl
  · rw [List.map_append, List.map_singleton]

/-- Give a key a value. -/
def put (map : OrderedMap κ ν) (key : κ) (value : ν) : OrderedMap κ ν where
  entries := putEntries map.entries key value
  nodup := by
    rw [keys_putEntries]
    split_ifs with known
    · exact map.nodup
    · rw [← List.concat_eq_append]
      exact List.Nodup.concat known map.nodup

theorem entries_put_of_notMem {map : OrderedMap κ ν} {key : κ}
    (fresh : key ∉ map.entries.map Prod.fst) (value : ν) :
    (map.put key value).entries = map.entries ++ [(key, value)] :=
  if_neg fresh

/-- Give each key its value in turn. -/
def putAll (map : OrderedMap κ ν) (pairs : List (κ × ν)) : OrderedMap κ ν :=
  pairs.foldl (fun map pair => map.put pair.1 pair.2) map

@[simp]
theorem putAll_nil (map : OrderedMap κ ν) : map.putAll [] = map := rfl

@[simp]
theorem putAll_cons (map : OrderedMap κ ν) (pair : κ × ν) (pairs : List (κ × ν)) :
    map.putAll (pair :: pairs) = (map.put pair.1 pair.2).putAll pairs := rfl

/-- Fresh keys are put at the end. -/
theorem entries_putAll {map : OrderedMap κ ν} {pairs : List (κ × ν)}
    (fresh : ((map.entries ++ pairs).map Prod.fst).Nodup) :
    (map.putAll pairs).entries = map.entries ++ pairs := by
  induction pairs generalizing map with
  | nil => rw [putAll_nil, List.append_nil]
  | cons pair pairs ih =>
      have notMem : pair.1 ∉ map.entries.map Prod.fst := by
        rw [List.map_append, List.map_cons] at fresh
        exact fun known => (List.nodup_append.mp fresh).2.2 _ known _ List.mem_cons_self rfl
      have put := entries_put_of_notMem notMem pair.2
      have split : map.entries ++ pair :: pairs = (map.put pair.1 pair.2).entries ++ pairs := by
        rw [put, List.append_assoc, List.singleton_append]
      rw [putAll_cons, split]
      apply ih
      rw [← split]
      exact fresh

/-- The pairs survive exactly when no key comes twice. -/
theorem entries_putAll_empty_iff {pairs : List (κ × ν)} :
    ((empty : OrderedMap κ ν).putAll pairs).entries = pairs ↔ (pairs.map Prod.fst).Nodup := by
  constructor
  · intro kept
    rw [← kept]
    exact OrderedMap.nodup _
  · intro distinct
    have fresh : (((empty : OrderedMap κ ν).entries ++ pairs).map Prod.fst).Nodup := distinct
    exact entries_putAll fresh

/-! ## Renamed keys -/

section MapKeys

variable {κ' : Type} [DecidableEq κ'] {rename : κ → κ'} (injective : Function.Injective rename)

/-- The map with its keys renamed. -/
def mapKeys (map : OrderedMap κ ν) : OrderedMap κ' ν where
  entries := map.entries.map (Prod.map rename id)
  nodup := by
    rw [List.map_map, show Prod.fst ∘ Prod.map rename (id : ν → ν) = rename ∘ Prod.fst from rfl,
      ← List.map_map]
    exact map.nodup.map injective

theorem mapKeys_put (map : OrderedMap κ ν) (key : κ) (value : ν) :
    (map.mapKeys injective).put (rename key) value = (map.put key value).mapKeys injective := by
  have known : rename key ∈ (map.entries.map (Prod.map rename id)).map Prod.fst ↔
      key ∈ map.entries.map Prod.fst := by
    rw [List.map_map, show Prod.fst ∘ Prod.map rename (id : ν → ν) = rename ∘ Prod.fst from rfl,
      ← List.map_map, List.mem_map_of_injective injective]
  have same : putEntries (map.entries.map (Prod.map rename id)) (rename key) value =
      (putEntries map.entries key value).map (Prod.map rename id) := by
    simp only [putEntries, known]
    split_ifs with present
    · rw [List.map_map, List.map_map]
      apply List.map_congr_left
      intro entry _
      simp only [Function.comp_apply, Prod.map_fst, injective.eq_iff]
      split_ifs <;> rfl
    · rw [List.map_append, List.map_singleton, Prod.map_apply, id]
  simp only [put, mapKeys, same]

theorem mapKeys_putAll (map : OrderedMap κ ν) (pairs : List (κ × ν)) :
    (map.mapKeys injective).putAll (pairs.map (Prod.map rename id)) =
      (map.putAll pairs).mapKeys injective := by
  induction pairs generalizing map with
  | nil => rfl
  | cons pair pairs ih =>
      rw [List.map_cons, putAll_cons, putAll_cons, ← ih, ← mapKeys_put]
      rfl

end MapKeys

end OrderedMap
