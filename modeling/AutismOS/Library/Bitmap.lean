import Mathlib.Data.Nat.Count
import Mathlib.Logic.Function.Basic

namespace AutismOS.Library

/-! A packed bitmap: eight bits to a byte, the lowest bit first.

Reading, setting and clearing work on whole bytes with a mask.  The lemmas say
that each edit changes exactly the bit that is addressed, and how the number of
set bits changes with it.
-/

/-- The bytes of a bitmap. -/
abbrev Bitmap := Nat → BitVec 8

namespace Bitmap

variable {bitmap : Bitmap} {index other limit : Nat}

def mask (index : Nat) : BitVec 8 := 1#8 <<< (index % 8)

def get (bitmap : Bitmap) (index : Nat) : Bool := bitmap (index / 8) &&& mask index ≠ 0

def set (bitmap : Bitmap) (index : Nat) : Bitmap :=
  Function.update bitmap (index / 8) (bitmap (index / 8) ||| mask index)

def clear (bitmap : Bitmap) (index : Nat) : Bitmap :=
  Function.update bitmap (index / 8) (bitmap (index / 8) &&& ~~~mask index)

/-- The first `count` bytes are overwritten with zeros. -/
def erase (bitmap : Bitmap) (count : Nat) : Bitmap := fun byte => if byte < count then 0 else bitmap byte

/-- The number of set bits below `limit`. -/
def count (bitmap : Bitmap) (limit : Nat) : Nat := Nat.count (fun index => bitmap.get index) limit

/-- A mask selects one bit of its byte. -/
theorem get_eq : bitmap.get index = (bitmap (index / 8)).getLsbD (index % 8) := by
  have power : mask index = BitVec.twoPow 8 (index % 8) := rfl
  have nonzero : BitVec.twoPow 8 (index % 8) ≠ 0 := fun zero => by
    have marked : (BitVec.twoPow 8 (index % 8)).getLsbD (index % 8) = true := by simp [Nat.mod_lt]
    rw [zero] at marked
    simp at marked
  rw [get, power, BitVec.and_twoPow]
  cases (bitmap (index / 8)).getLsbD (index % 8) with
  | false => simp
  | true => simpa using nonzero

theorem getLsbD_mask (sameByte : other / 8 = index / 8) :
    (mask index).getLsbD (other % 8) = decide (other = index) := by
  have power : mask index = BitVec.twoPow 8 (index % 8) := rfl
  rw [power, BitVec.getLsbD_twoPow]
  by_cases same : other = index
  · simp [same, Nat.mod_lt]
  · have different : index % 8 ≠ other % 8 := by omega
    simp [same, different]

theorem get_set : (bitmap.set index).get other = (decide (other = index) || bitmap.get other) := by
  rw [get_eq, get_eq, set]
  by_cases sameByte : other / 8 = index / 8
  · rw [sameByte, Function.update_self, BitVec.getLsbD_or, getLsbD_mask sameByte, Bool.or_comm]
  · have different : other ≠ index := fun same => sameByte (by rw [same])
    simp [Function.update_of_ne sameByte, different]

theorem get_clear : (bitmap.clear index).get other = (decide (other ≠ index) && bitmap.get other) := by
  rw [get_eq, get_eq, clear]
  by_cases sameByte : other / 8 = index / 8
  · have inside : other % 8 < 8 := Nat.mod_lt _ (by decide)
    rw [sameByte, Function.update_self, BitVec.getLsbD_and, BitVec.getLsbD_not, getLsbD_mask sameByte]
    simp [inside, Bool.and_comm]
  · have different : other ≠ index := fun same => sameByte (by rw [same])
    simp [Function.update_of_ne sameByte, different]

theorem get_erase {bytes : Nat} (inside : index / 8 < bytes) : (bitmap.erase bytes).get index = false := by
  simp [get, erase, inside]

theorem count_succ : bitmap.count (limit + 1) = bitmap.count limit + if bitmap.get limit then 1 else 0 :=
  Nat.count_succ _ limit

theorem count_le : bitmap.count limit ≤ limit := Nat.count_le _

theorem count_set (fresh : bitmap.get index = false) :
    (bitmap.set index).count limit = bitmap.count limit + if index < limit then 1 else 0 := by
  induction limit with
  | zero => simp [count]
  | succ limit ih =>
      rw [count_succ, count_succ, ih, get_set]
      by_cases same : limit = index
      · subst same
        simp [fresh]
      · have earlier : index < limit + 1 ↔ index < limit := by omega
        simp [same, earlier, Nat.add_right_comm]

theorem count_clear (marked : bitmap.get index = true) :
    (bitmap.clear index).count limit + (if index < limit then 1 else 0) = bitmap.count limit := by
  induction limit with
  | zero => simp [count]
  | succ limit ih =>
      rw [count_succ, count_succ, ← ih, get_clear]
      by_cases same : limit = index
      · subst same
        simp [marked]
      · have earlier : index < limit + 1 ↔ index < limit := by omega
        simp [same, earlier, Nat.add_right_comm]

end Bitmap

end AutismOS.Library
