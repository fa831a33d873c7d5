import Mathlib.Tactic.Common

/-!
# Records with a terminator

A stream of symbols is cut into records by a terminator.  A scanner holds the records that are
complete and the symbols after the last terminator, so that appending to the stream continues the
scan.
-/

namespace Records

variable {α : Type*} [DecidableEq α]

/-- The complete records, and what follows the last terminator. -/
structure Scan (α : Type*) where
  complete : List (List α) := []
  rest : List α := []
  deriving DecidableEq

/-- One symbol. -/
def Scan.next (terminator : α) (scan : Scan α) (symbol : α) : Scan α :=
  if symbol = terminator then ⟨scan.complete ++ [scan.rest], []⟩
  else ⟨scan.complete, scan.rest ++ [symbol]⟩

/-- Cut a stream. -/
def cut (terminator : α) (stream : List α) : Scan α := stream.foldl (Scan.next terminator) {}

variable {terminator : α}

theorem foldl_next_of_notMem {symbols : List α} (unbroken : terminator ∉ symbols)
    (scan : Scan α) :
    symbols.foldl (Scan.next terminator) scan = ⟨scan.complete, scan.rest ++ symbols⟩ := by
  induction symbols generalizing scan with
  | nil => rw [List.foldl_nil, List.append_nil]
  | cons symbol symbols induction =>
      obtain ⟨first, later⟩ := not_or.mp (mt List.mem_cons.mpr unbroken)
      rw [List.foldl_cons, induction later, Scan.next, if_neg (Ne.symm first), List.append_assoc,
        List.singleton_append]

/-- Symbols without a terminator join what follows the last one. -/
theorem cut_append_of_notMem {symbols : List α} (unbroken : terminator ∉ symbols)
    (stream : List α) :
    cut terminator (stream ++ symbols) =
      ⟨(cut terminator stream).complete, (cut terminator stream).rest ++ symbols⟩ := by
  rw [cut, List.foldl_append, foldl_next_of_notMem unbroken, cut]

/-- A terminator completes the record that was begun. -/
theorem cut_append_record {symbols : List α} (unbroken : terminator ∉ symbols)
    (stream : List α) :
    cut terminator (stream ++ (symbols ++ [terminator])) =
      ⟨(cut terminator stream).complete ++ [(cut terminator stream).rest ++ symbols], []⟩ := by
  rw [← List.append_assoc, cut, List.foldl_append, ← cut, cut_append_of_notMem unbroken,
    List.foldl_cons, List.foldl_nil, Scan.next, if_pos rfl]

end Records
