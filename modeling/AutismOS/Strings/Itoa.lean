import AutismOS.Library.Numerals
import AutismOS.Library.Reversal
import AutismOS.Library.Word

namespace AutismOS.Strings

open AutismOS.Library

/-! `itoa` of `lib/string.c`.

The buffer is a function of the index, and pointers into it are indices.  A long
has 32 bits, and the negation of the smallest integer wraps around to itself.
-/

variable {buf : Nat → UInt8} {p fuel : Nat} {ud divisor : UInt32} {d : Int32}

/-- The character of a remainder. -/
def digitChar (remainder : UInt32) : UInt8 :=
  if remainder < 10 then remainder.toUInt8 + 0x30 else remainder.toUInt8 + 0x61 - 10

/-- The loop that divides: the buffer and the end of the digits, or `none` when it never ends. -/
def itoaDigits (divisor : UInt32) (buf : Nat → UInt8) (p : Nat) (ud : UInt32) : Nat → Option ((Nat → UInt8) × Nat)
  | 0 => none
  | fuel + 1 =>
      let buf := Function.update buf p (digitChar (ud % divisor))
      if ud / divisor ≠ 0 then itoaDigits divisor buf (p + 1) (ud / divisor) fuel
      else some (buf, p + 1)

/-- From the division on: the digits, the zero behind them and the reversal. -/
def itoaUnsigned (divisor : UInt32) (buf : Nat → UInt8) (start : Nat) (ud : UInt32) (fuel : Nat) : Option (Nat → UInt8) :=
  match itoaDigits divisor buf start ud fuel with
  | none => none
  | some (buf, p) => exchange (Function.update buf p 0) start (p - 1) fuel

/-- The base is `d` or `x`. -/
def itoa (buf : Nat → UInt8) (base : Char) (d : Int32) (fuel : Nat) : Option (Nat → UInt8) :=
  let negative := base = 'd' ∧ d < 0
  let buf := if negative then Function.update buf 0 0x2D else buf
  let start := if negative then 1 else 0
  let ud := if negative then (-d).toUInt32 else d.toUInt32
  let divisor : UInt32 := if ¬ negative ∧ base = 'x' then 16 else 10
  itoaUnsigned divisor buf start ud fuel

theorem digitChar_eq (small : ud.toNat < 16) : digitChar ud = digitByte ud.toNat := by
  have table : ∀ digit < 16, digitChar (UInt32.ofNat digit) = digitByte digit := by decide
  have same := table ud.toNat small
  rwa [UInt32.ofNat_toNat] at same

theorem quotient_zero (proper : 1 < divisor.toNat) : ud / divisor = 0 ↔ ud.toNat < divisor.toNat := by
  rw [← UInt32.toNat_inj, UInt32.toNat_div, UInt32.toNat_zero, Nat.div_eq_zero_iff]
  omega

theorem digitChar_mod (proper : 1 < divisor.toNat) (letters : divisor.toNat ≤ 16) :
    digitChar (ud % divisor) = digitByte (ud.toNat % divisor.toNat) := by
  have small : (ud % divisor).toNat < 16 := by
    rw [UInt32.toNat_mod]
    exact Nat.lt_of_lt_of_le (Nat.mod_lt _ (Nat.zero_lt_of_lt proper)) letters
  rw [digitChar_eq small, UInt32.toNat_mod]

/-- The digits are stored from the last one on. -/
theorem itoaDigits_eq (proper : 1 < divisor.toNat) (letters : divisor.toNat ≤ 16) (enough : ud.toNat < 2 ^ fuel)
    (positive : 0 < fuel) :
    itoaDigits divisor buf p ud fuel = some (overlay buf p (numeralIn divisor.toNat ud.toNat).reverse,
      p + (numeralIn divisor.toNat ud.toNat).length) := by
  induction fuel generalizing buf p ud with
  | zero => cases positive
  | succ fuel ih =>
      rw [itoaDigits, numeralIn_eq proper, digitChar_mod proper letters]
      by_cases last : ud.toNat < divisor.toNat
      · have stops : ¬ ud / divisor ≠ 0 := not_not_intro ((quotient_zero proper).mpr last)
        rw [if_neg stops, if_pos last]
        rfl
      · have goes : ud / divisor ≠ 0 := mt (quotient_zero proper).mp last
        have smaller : (ud / divisor).toNat < 2 ^ fuel := by
          rw [UInt32.toNat_div]
          have half : ud.toNat / divisor.toNat ≤ ud.toNat / 2 := Nat.div_le_div_left proper (by decide)
          rw [Nat.pow_succ] at enough
          omega
        have more : 0 < fuel := by
          refine Nat.pos_of_ne_zero ?_
          rintro rfl
          rw [Nat.zero_add, Nat.pow_one] at enough
          omega
        simp only [if_pos goes, if_neg last, ih smaller more, UInt32.toNat_div, List.reverse_append, List.reverse_singleton,
          List.singleton_append, List.length_append, List.length_singleton, overlay]
        refine congrArg some (congrArg (Prod.mk _) ?_)
        omega

theorem itoaUnsigned_eq (proper : 1 < divisor.toNat) (letters : divisor.toNat ≤ 16) (enough : 32 ≤ fuel) :
    itoaUnsigned divisor buf p ud fuel = some (overlay buf p (numeralIn divisor.toNat ud.toNat ++ [0])) := by
  have bounded : ud.toNat < 2 ^ fuel := Nat.lt_of_lt_of_le ud.toNat_lt (Nat.pow_le_pow_right (by decide) enough)
  have short : (numeralIn divisor.toNat ud.toNat).length ≤ 32 :=
    length_numeralIn_le proper (by decide) ud.toNat_lt
  have nonempty : (numeralIn divisor.toNat ud.toNat).reverse ≠ [] := mt List.reverse_eq_nil_iff.mp numeralIn_ne_nil
  have terminated : Function.update (overlay buf p (numeralIn divisor.toNat ud.toNat).reverse)
      (p + (numeralIn divisor.toNat ud.toNat).length) 0 =
      overlay buf p ((numeralIn divisor.toNat ud.toNat).reverse ++ [0]) := by
    rw [overlay_append, List.length_reverse]
    rfl
  obtain ⟨turns, rfl⟩ := Nat.exists_eq_add_of_le' (Nat.le_trans (by decide : 1 ≤ 32) enough)
  have turned := @mirrored_overlay _ buf p _ [0] nonempty
  rw [List.length_reverse, List.reverse_reverse] at turned
  rw [itoaUnsigned, itoaDigits_eq proper letters bounded (Nat.succ_pos turns)]
  simp only [terminated]
  rw [exchange_eq (by omega), turned]

theorem magnitude (negative : d.toInt < 0) : (-d).toUInt32.toNat = d.toInt.natAbs := by
  have lower := d.le_toInt
  have wrapped : ((-d).toUInt32.toNat : Int) = (-d.toInt) % 2 ^ 32 := by
    rw [Signed.toNat_toUInt32, Int32.toInt_neg]
    exact Int.bmod_emod ..
  omega

theorem magnitude_of_nonneg (positive : ¬ d.toInt < 0) : d.toUInt32.toNat = d.toInt.natAbs := by
  have upper := d.toInt_lt
  have same := @Signed.toNat_toUInt32 d
  omega

theorem zero_notMem_signedNumeral : 0 ∉ signedNumeral d.toInt := by
  have digits : 0 ∉ numeral d.toInt.natAbs := fun member => by cases isDigit_numeral member
  rw [signedNumeral]
  split
  · rw [List.mem_cons, not_or]
    exact ⟨by decide, digits⟩
  · exact digits

theorem itoa_decimal (enough : 32 ≤ fuel) : itoa buf 'd' d fuel = some (overlay buf 0 (signedNumeral d.toInt ++ [0])) := by
  have sign : (d < 0) ↔ d.toInt < 0 := Int32.lt_iff_toInt_lt
  by_cases negative : d.toInt < 0
  · simp only [itoa, sign, negative, and_self, if_true, not_true, false_and, if_false, signedNumeral]
    rw [itoaUnsigned_eq (by decide) (by decide) enough, magnitude negative]
    rfl
  · simp only [itoa, sign, negative, and_false, if_false, not_false_eq_true, true_and, signedNumeral]
    rw [if_neg (by decide), itoaUnsigned_eq (by decide) (by decide) enough, magnitude_of_nonneg negative]
    rfl

theorem itoa_hexadecimal (enough : 32 ≤ fuel) :
    itoa buf 'x' d fuel = some (overlay buf 0 (numeralIn 16 d.toUInt32.toNat ++ [0])) := by
  have other : ¬ ('x' = 'd' ∧ d < 0) := fun both => absurd both.1 (by decide)
  simp only [itoa, other, if_false, not_false_eq_true, true_and, if_true]
  rw [itoaUnsigned_eq (by decide) (by decide) enough]
  rfl

/-- What `itoa` writes for a number in decimal and in hexadecimal, and that it stands for the number. -/
theorem itoa_round_trip (enough : 32 ≤ fuel) :
    (itoa buf 'd' d fuel = some (overlay buf 0 (signedNumeral d.toInt ++ [0])) ∧
      0 ∉ signedNumeral d.toInt ∧ signedValue (signedNumeral d.toInt) = d.toInt) ∧
    itoa buf 'x' d fuel = some (overlay buf 0 (numeralIn 16 d.toUInt32.toNat ++ [0])) ∧
      0 ∉ numeralIn 16 d.toUInt32.toNat ∧
      (UInt32.ofNat (valueIn 16 (numeralIn 16 d.toUInt32.toNat))).toInt32 = d := by
  refine ⟨⟨itoa_decimal enough, zero_notMem_signedNumeral, signedValue_signedNumeral⟩, itoa_hexadecimal enough,
    zero_notMem_numeralIn (by decide) (by decide), ?_⟩
  rw [valueIn_numeralIn (by decide) (by decide), UInt32.ofNat_toNat, Int32.toInt32_toUInt32]

/-- The smallest integer. -/
theorem itoa_round_trip_smallest :
    itoa (fun _ => 0) 'd' Int32.minValue 32 =
      some (overlay (fun _ => 0) 0 (signedNumeral (-2147483648) ++ [0])) :=
  (itoa_round_trip (Nat.le_refl 32)).1.1

end AutismOS.Strings
