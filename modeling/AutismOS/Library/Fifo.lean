import Mathlib.Logic.Function.Basic

namespace AutismOS.Library

/-! First in, first out: the used cells of a ring of cells, the oldest first. -/

namespace Fifo

variable {α : Type u} {cells : Nat → α} {size start other count : Nat} {item : α}

/-- The `count` cells from `start` on. -/
def contents (cells : Nat → α) (size start : Nat) : Nat → List α
  | 0 => []
  | count + 1 => cells (start % size) :: contents cells size (start + 1) count

@[simp] theorem length_contents : (contents cells size start count).length = count := by
  induction count generalizing start with
  | zero => rfl
  | succ count ih => rw [contents, List.length_cons, ih]

/-- Only the place in the ring matters. -/
theorem contents_shift (same : start % size = other % size) :
    contents cells size start count = contents cells size other count := by
  induction count generalizing start other with
  | zero => rfl
  | succ count ih =>
      have further : (start + 1) % size = (other + 1) % size := by
        rw [Nat.add_mod, same, ← Nat.add_mod]
      rw [contents, contents, same, ih further]

/-- Cells that are not used may change. -/
theorem contents_update_other (apart : ∀ index < count, (start + index) % size ≠ other) :
    contents (Function.update cells other item) size start count = contents cells size start count := by
  induction count generalizing start with
  | zero => rfl
  | succ count ih =>
      have first : start % size ≠ other := apart 0 (Nat.succ_pos count)
      have rest : ∀ index < count, (start + 1 + index) % size ≠ other := by
        intro index inside
        have further := apart (index + 1) (Nat.succ_lt_succ inside)
        rwa [← Nat.add_assoc, Nat.add_right_comm] at further
      rw [contents, contents, Function.update_of_ne first, ih rest]

theorem contents_succ :
    contents cells size start (count + 1) = contents cells size start count ++ [cells ((start + count) % size)] := by
  induction count generalizing start with
  | zero => rfl
  | succ count ih =>
      have further : start + 1 + count = start + (count + 1) := by omega
      rw [contents, ih, further]
      rfl

/-- The cell behind the used ones takes a new item. -/
theorem contents_push (room : count < size) :
    contents (Function.update cells ((start + count) % size) item) size start (count + 1) =
      contents cells size start count ++ [item] := by
  have apart : ∀ index < count, (start + index) % size ≠ (start + count) % size := by
    intro index inside same
    have distance : (count - index) % size = 0 := by
      have difference : start + count - (start + index) = count - index := by omega
      rw [← difference]
      exact Nat.sub_mod_eq_zero_of_mod_eq same.symm
    rw [Nat.mod_eq_of_lt (by omega)] at distance
    omega
  rw [contents_succ, contents_update_other apart, Function.update_self]

end Fifo

end AutismOS.Library
