import Mathlib.Algebra.Group.Nat.Defs

namespace AutismOS.Library

/-! Numbers that are put together from fields of bits. -/

variable {high low value : Nat}

/-- Fields that do not overlap are put together by adding them. -/
theorem or_eq_add (bits : Nat) (aligned : high % 2 ^ bits = 0) (small : low < 2 ^ bits) : high ||| low = high + low := by
  have whole := (Nat.two_pow_add_eq_or_of_lt small (high / 2 ^ bits)).symm
  rwa [Nat.mul_div_cancel' (Nat.dvd_of_mod_eq_zero aligned)] at whole

theorem and_lower (bits value : Nat) : value &&& (2 ^ bits - 1) = value % 2 ^ bits := Nat.and_two_pow_sub_one_eq_mod value bits

/-- The mask of all bits but the lowest ones. -/
theorem and_higher (lower upper : Nat) (small : value < 2 ^ (lower + upper)) :
    value &&& 2 ^ lower * (2 ^ upper - 1) = 2 ^ lower * (value / 2 ^ lower) := by
  apply Nat.eq_of_testBit_eq
  intro bit
  rw [Nat.testBit_and, Nat.testBit_two_pow_mul, Nat.testBit_two_pow_mul, Nat.testBit_two_pow_sub_one,
    Nat.testBit_div_two_pow]
  by_cases inUpper : lower ≤ bit
  · have back : bit - lower + lower = bit := by omega
    by_cases inside : bit - lower < upper
    · simp [inUpper, back, inside]
    · have large : 2 ^ (lower + upper) ≤ 2 ^ bit := Nat.pow_le_pow_right (by decide) (by omega)
      have clear : value.testBit bit = false := Nat.testBit_lt_two_pow (Nat.lt_of_lt_of_le small large)
      simp [inUpper, back, clear]
  · simp [inUpper]

end AutismOS.Library
