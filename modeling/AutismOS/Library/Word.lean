import Mathlib.Algebra.Group.Int.Defs
import Mathlib.Algebra.Group.Nat.Defs

namespace AutismOS.Library

/-! 32-bit unsigned arithmetic on natural numbers. -/

variable {left right : Nat}

def add32 (left right : Nat) : Nat := (left + right) % 2 ^ 32

def sub32 (left right : Nat) : Nat := (left + 2 ^ 32 - right % 2 ^ 32) % 2 ^ 32

theorem add32_of_lt (small : left + right < 2 ^ 32) : add32 left right = left + right :=
  Nat.mod_eq_of_lt small

theorem sub32_of_le (smaller : right ≤ left) (small : left < 2 ^ 32) : sub32 left right = left - right := by
  unfold sub32
  omega

end AutismOS.Library

namespace AutismOS.Library

-- Signed 32-bit arithmetic: it is that of the integers where the result fits.

/-- The integer is the value of a signed 32-bit word. -/
def Fits (value : Int) : Prop := -2 ^ 31 ≤ value ∧ value < 2 ^ 31

instance : Decidable (Fits value) := inferInstanceAs (Decidable (_ ∧ _))

namespace Signed

variable {left right : Int32} {value : Int}

theorem fits_toInt : Fits left.toInt := ⟨left.le_toInt, left.toInt_lt⟩

theorem bmod_of_fits (fits : Fits value) : value.bmod (2 ^ 32) = value := by
  obtain ⟨lower, upper⟩ := fits
  exact Int.bmod_eq_of_le (by omega) (by omega)

theorem toInt_add (fits : Fits (left.toInt + right.toInt)) : (left + right).toInt = left.toInt + right.toInt := by
  rw [Int32.toInt_add, bmod_of_fits fits]

theorem toInt_sub (fits : Fits (left.toInt - right.toInt)) : (left - right).toInt = left.toInt - right.toInt := by
  rw [Int32.toInt_sub, bmod_of_fits fits]

theorem toInt_neg (fits : Fits (-left.toInt)) : (-left).toInt = -left.toInt := by
  rw [Int32.toInt_neg, bmod_of_fits fits]

/-- The same word, read without a sign. -/
theorem toNat_toUInt32 : (left.toUInt32.toNat : Int) = left.toInt % 2 ^ 32 := by
  have same : left.toInt = (left.toUInt32.toNat : Int).bmod (2 ^ 32) := BitVec.toInt_eq_toNat_bmod left.toBitVec
  have small : (left.toUInt32.toNat : Int) < 2 ^ 32 := Int.ofNat_lt.mpr left.toUInt32.toNat_lt
  rw [same]
  exact ((Int.bmod_emod ..).trans (Int.emod_eq_of_lt (Int.natCast_nonneg _) small)).symm

/-- An unsigned word that is added as a signed one is added to the value, wrapping around. -/
theorem toInt_add_toInt32 {offset : UInt32} : (left + offset.toInt32).toInt = (left.toInt + offset.toNat).bmod (2 ^ 32) := by
  have same : offset.toInt32.toInt = (offset.toNat : Int).bmod (2 ^ 32) := BitVec.toInt_eq_toNat_bmod offset.toBitVec
  rw [Int32.toInt_add, same, Int.add_bmod_bmod]

theorem toNat_sub (ordered : right.toInt ≤ left.toInt) : ((left - right).toUInt32.toNat : Int) = left.toInt - right.toInt := by
  have upper := left.toInt_lt
  have lower := right.le_toInt
  rw [toNat_toUInt32, Int32.toInt_sub]
  exact (Int.bmod_emod ..).trans (Int.emod_eq_of_lt (by omega) (by omega))

theorem shiftLeft_one : left <<< 1 = left + left := by
  rw [← Int32.toBitVec_inj, Int32.toBitVec_shiftLeft, Int32.toBitVec_add]
  have place : (1 : Int32).toBitVec.smod 32 = 1#32 := by decide
  rw [place]
  refine BitVec.eq_of_toNat_eq ?_
  rw [BitVec.toNat_add, BitVec.shiftLeft_eq', BitVec.toNat_shiftLeft, Nat.shiftLeft_eq]
  change left.toBitVec.toNat * 2 % _ = _
  rw [Nat.mul_two]

theorem toInt_double (fits : Fits (2 * left.toInt)) : (left <<< 1).toInt = 2 * left.toInt := by
  rw [shiftLeft_one, toInt_add, Int.two_mul]
  rwa [← Int.two_mul]

end Signed

end AutismOS.Library
