import Mathlib.Algebra.Group.Nat.Defs

namespace AutismOS.Library

/-! Ones-complement sums of strings of bytes, 16 bits at a time.

A carry out of the 16 bits is added at their other end.  Such sums count modulo 2^16 - 1, where 0 has two
representations; only a sum of zeros is represented by 0.
-/

namespace OnesComplement

/-- The sum of the words whose low byte comes first; an odd byte at the end is padded with zero. -/
def wordSum : List UInt8 → Nat
  | [] => 0
  | [last] => last.toNat
  | low :: high :: rest => low.toNat + 2 ^ 8 * high.toNat + wordSum rest

/-- The same with the high byte first. -/
def networkSum : List UInt8 → Nat
  | [] => 0
  | [last] => 2 ^ 8 * last.toNat
  | high :: low :: rest => 2 ^ 8 * high.toNat + low.toNat + networkSum rest

/-- The carries are added until none is left. -/
def endAround (sum : Nat) : Nat := if sum < 2 ^ 16 then sum else endAround (sum % 2 ^ 16 + sum / 2 ^ 16)
termination_by sum
decreasing_by omega

/-- The words add up to zero, read in either order. -/
def Verified (bytes : List UInt8) : Prop :=
  endAround (wordSum bytes) = 0xFFFF ∧ endAround (networkSum bytes) = 0xFFFF

variable {sum : Nat} {bytes front back : List UInt8}

theorem endAround_small (small : sum < 2 ^ 16) : endAround sum = sum := by
  rw [endAround, if_pos small]

theorem endAround_step (large : 2 ^ 16 ≤ sum) : endAround sum = endAround (sum % 2 ^ 16 + sum / 2 ^ 16) := by
  rw [endAround, if_neg (Nat.not_lt.mpr large)]

theorem endAround_eq (sum : Nat) : endAround sum = if sum = 0 then 0 else (sum - 1) % (2 ^ 16 - 1) + 1 := by
  induction sum using Nat.strongRecOn with
  | ind sum ih =>
      by_cases small : sum < 2 ^ 16
      · rw [endAround_small small]
        by_cases zero : sum = 0
        · rw [if_pos zero, zero]
        · rw [if_neg zero]
          omega
      · have large : 2 ^ 16 ≤ sum := Nat.not_lt.mp small
        rw [endAround_step large, ih _ (by omega), if_neg (by omega), if_neg (by omega)]
        omega

theorem endAround_lt (sum : Nat) : endAround sum < 2 ^ 16 := by
  rw [endAround_eq]
  split
  · exact Nat.two_pow_pos 16
  · omega

theorem endAround_full_iff : endAround sum = 0xFFFF ↔ 0 < sum ∧ sum % (2 ^ 16 - 1) = 0 := by
  rw [endAround_eq]
  by_cases zero : sum = 0
  · rw [if_pos zero]
    omega
  · rw [if_neg zero]
    omega

/-- Of a 32-bit sum, two rounds add all the carries. -/
theorem two_rounds (small : sum < 2 ^ 32) :
    (sum / 2 ^ 16 + sum % 2 ^ 16 + (sum / 2 ^ 16 + sum % 2 ^ 16) / 2 ^ 16) % 2 ^ 16 = endAround sum := by
  have once : endAround sum = endAround (sum / 2 ^ 16 + sum % 2 ^ 16) := by
    by_cases none : sum < 2 ^ 16
    · rw [Nat.div_eq_of_lt none, Nat.mod_eq_of_lt none, Nat.zero_add]
    · rw [endAround_step (Nat.not_lt.mp none), Nat.add_comm]
  rw [once]
  have bounded : sum / 2 ^ 16 + sum % 2 ^ 16 < 2 ^ 17 - 1 := by omega
  generalize sum / 2 ^ 16 + sum % 2 ^ 16 = first at bounded ⊢
  by_cases none : first < 2 ^ 16
  · rw [endAround_small none, Nat.div_eq_of_lt none, Nat.add_zero, Nat.mod_eq_of_lt none]
  · rw [endAround_step (Nat.not_lt.mp none), endAround_small (by omega)]
    omega

/-- The complement of a sum completes it. -/
theorem endAround_complement (sum : Nat) : endAround (sum + (2 ^ 16 - 1 - endAround sum)) = 0xFFFF := by
  have small := endAround_lt sum
  rw [endAround_full_iff]
  rw [endAround_eq] at small ⊢
  by_cases zero : sum = 0
  · rw [if_pos zero, zero]
    decide
  · rw [if_neg zero] at small ⊢
    omega

theorem wordSum_append (even : front.length % 2 = 0) : wordSum (front ++ back) = wordSum front + wordSum back := by
  induction front using wordSum.induct with
  | case1 => exact (Nat.zero_add _).symm
  | case2 last => cases even
  | case3 low high rest ih =>
      have remaining : rest.length % 2 = 0 := by
        rw [List.length_cons, List.length_cons] at even
        omega
      rw [List.cons_append, List.cons_append, wordSum, wordSum, ih remaining, Nat.add_assoc _ (wordSum rest)]

theorem wordSum_le : wordSum bytes ≤ (bytes.length + 1) / 2 * (2 ^ 16 - 1) := by
  induction bytes using wordSum.induct with
  | case1 => exact Nat.le_refl _
  | case2 last =>
      have byte := last.toNat_lt
      rw [wordSum, List.length_singleton]
      omega
  | case3 low high rest ih =>
      have first := low.toNat_lt
      have second := high.toNat_lt
      rw [wordSum, List.length_cons, List.length_cons]
      omega

/-- Exchanging the bytes of all words multiplies the sum by 2^8. -/
theorem networkSum_mod : networkSum bytes % (2 ^ 16 - 1) = 2 ^ 8 * wordSum bytes % (2 ^ 16 - 1) := by
  induction bytes using wordSum.induct with
  | case1 => rfl
  | case2 last => rfl
  | case3 low high rest ih =>
      rw [wordSum, networkSum]
      omega

theorem networkSum_pos_iff : 0 < networkSum bytes ↔ 0 < wordSum bytes := by
  induction bytes using wordSum.induct with
  | case1 => exact Iff.rfl
  | case2 last =>
      rw [wordSum, networkSum]
      omega
  | case3 low high rest ih =>
      rw [wordSum, networkSum]
      omega

theorem verified_iff : Verified bytes ↔ endAround (wordSum bytes) = 0xFFFF := by
  refine and_iff_left_of_imp fun full => ?_
  obtain ⟨positive, multiple⟩ := endAround_full_iff.mp full
  have scaled : networkSum bytes % (2 ^ 16 - 1) = 2 ^ 8 * wordSum bytes % (2 ^ 16 - 1) := networkSum_mod
  rw [endAround_full_iff]
  refine ⟨networkSum_pos_iff.mpr positive, ?_⟩
  omega

end OnesComplement

end AutismOS.Library
