import Mathlib.Data.List.Rotate
import OxiTls.Library.FixedLength

/-!
# Calls that can panic

A call ends with a value, with an error its caller can handle, or with a panic.  The operations here
are the ones that panic outside their range: indexing, slicing, splitting, rotating, copying into an
array and subtracting lengths.
-/

/-- How a call ends without a value. -/
inductive Fault (ε : Type)
  | panic
  | failed (error : ε)
  deriving DecidableEq, Repr

namespace Fault

variable {ε : Type} {α : Type}

/-- A call that cannot panic, as one that could. -/
def calm (result : Except ε α) : Except (Fault ε) α := result.mapError .failed

/-- The value of an option that must be there. -/
def expect : Option α → Except (Fault ε) α
  | some value => .ok value
  | none => .error .panic

/-- The item at an index. -/
def index (items : List α) (position : Nat) : Except (Fault ε) α := expect items[position]?

/-- The items from one index up to another. -/
def slice (items : List α) (start stop : Nat) : Except (Fault ε) (List α) :=
  if start ≤ stop ∧ stop ≤ items.length then .ok (items.extract start stop) else .error .panic

/-- Copy a slice into an array, which must have its length. -/
def copyFromSlice (size : Nat) (items : List α) : Except (Fault ε) (Vector α size) :=
  expect (FixedLength.ofList? size items)

/-- The items before an index and those from it on. -/
def splitAt (items : List α) (middle : Nat) : Except (Fault ε) (List α × List α) :=
  if middle ≤ items.length then .ok (items.take middle, items.drop middle) else .error .panic

/-- The items from an index on, followed by those before it. -/
def rotateLeft (items : List α) (middle : Nat) : Except (Fault ε) (List α) :=
  if middle ≤ items.length then .ok (items.rotate middle) else .error .panic

/-- The difference of two lengths, where underflow is checked. -/
def sub (minuend subtrahend : Nat) : Except (Fault ε) Nat :=
  if subtrahend ≤ minuend then .ok (minuend - subtrahend) else .error .panic

@[simp]
theorem ok_bind {β : Type} (value : α) (next : α → Except (Fault ε) β) :
    (Except.ok value >>= next) = next value := rfl

@[simp]
theorem calm_ok (value : α) : calm (.ok value : Except ε α) = .ok value := rfl

@[simp]
theorem calm_error (error : ε) : calm (.error error : Except ε α) = .error (.failed error) := rfl

theorem index_of_lt {items : List α} {position : Nat} (default : α)
    (inRange : position < items.length) :
    (index items position : Except (Fault ε) α) = .ok (items.getD position default) := by
  rw [index, List.getElem?_eq_getElem inRange, List.getD_eq_getElem?_getD,
    List.getElem?_eq_getElem inRange]
  rfl

theorem slice_of_le {items : List α} {start stop : Nat} (ordered : start ≤ stop)
    (inRange : stop ≤ items.length) :
    (slice items start stop : Except (Fault ε) (List α)) = .ok (items.extract start stop) :=
  if_pos ⟨ordered, inRange⟩

theorem slice_zero {items : List α} {stop : Nat} (inRange : stop ≤ items.length) :
    (slice items 0 stop : Except (Fault ε) (List α)) = .ok (items.take stop) := by
  rw [slice_of_le (Nat.zero_le stop) inRange, List.extract_eq_take_drop, List.drop_zero,
    Nat.sub_zero]

theorem slice_length {items : List α} {start : Nat} (inRange : start ≤ items.length) :
    (slice items start items.length : Except (Fault ε) (List α)) = .ok (items.drop start) := by
  rw [slice_of_le inRange (Nat.le_refl _), List.extract_eq_take_drop, ← List.length_drop,
    List.take_length]

theorem splitAt_of_le {items : List α} {middle : Nat} (inRange : middle ≤ items.length) :
    (splitAt items middle : Except (Fault ε) (List α × List α)) =
      .ok (items.take middle, items.drop middle) :=
  if_pos inRange

theorem rotateLeft_of_le {items : List α} {middle : Nat} (inRange : middle ≤ items.length) :
    (rotateLeft items middle : Except (Fault ε) (List α)) = .ok (items.rotate middle) :=
  if_pos inRange

theorem sub_of_le {minuend subtrahend : Nat} (enough : subtrahend ≤ minuend) :
    (sub minuend subtrahend : Except (Fault ε) Nat) = .ok (minuend - subtrahend) :=
  if_pos enough

theorem sub_of_lt {minuend subtrahend : Nat} (short : minuend < subtrahend) :
    (sub minuend subtrahend : Except (Fault ε) Nat) = .error .panic :=
  if_neg (Nat.not_le.mpr short)

theorem copyFromSlice_toList {size : Nat} (array : Vector α size) :
    (copyFromSlice size array.toList : Except (Fault ε) (Vector α size)) = .ok array := by
  rw [copyFromSlice, FixedLength.ofList?_toList]
  rfl

theorem copyFromSlice_of_length {size : Nat} {items : List α} (fits : items.length = size) :
    ∃ array : Vector α size, array.toList = items ∧
      (copyFromSlice size items : Except (Fault ε) (Vector α size)) = .ok array := by
  obtain ⟨array, rfl⟩ := FixedLength.exists_toList fits
  exact ⟨array, rfl, copyFromSlice_toList array⟩

end Fault
