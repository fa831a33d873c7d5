import Mathlib.Tactic.Common

/-!
# Slices as arrays of a fixed length

A slice converts to an array exactly when it has the length of the array.  A concatenation that
starts with an array is split again at the length of the array.
-/

namespace FixedLength

variable {α : Type*} {size : Nat}

/-- The list as an array of a fixed length; `none` when it has another length. -/
def ofList? (size : Nat) (items : List α) : Option (Vector α size) :=
  if fits : items.length = size then some ⟨items.toArray, List.size_toArray.trans fits⟩
  else none

@[simp]
theorem ofList?_toList (array : Vector α size) : ofList? size array.toList = some array := by
  rw [ofList?, dif_pos array.length_toList]
  rfl

theorem ofList?_of_length_ne {items : List α} (other : items.length ≠ size) :
    ofList? size items = none := dif_neg other

theorem eq_toList_of_ofList? {items : List α} {array : Vector α size}
    (read : ofList? size items = some array) : array.toList = items := by
  rw [ofList?] at read
  split_ifs at read
  obtain rfl := Option.some.inj read
  rfl

/-- A list of the right length is the list of an array. -/
theorem exists_toList {items : List α} (fits : items.length = size) :
    ∃ array : Vector α size, array.toList = items :=
  ⟨⟨items.toArray, List.size_toArray.trans fits⟩, rfl⟩

@[simp]
theorem take_append (array : Vector α size) (rest : List α) :
    (array.toList ++ rest).take size = array.toList :=
  List.take_left' array.length_toList

@[simp]
theorem drop_append (array : Vector α size) (rest : List α) :
    (array.toList ++ rest).drop size = rest :=
  List.drop_left' array.length_toList

end FixedLength
