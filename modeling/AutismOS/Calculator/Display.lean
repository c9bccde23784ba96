import AutismOS.Library.Numerals
import AutismOS.Calculator.Core

namespace AutismOS.Calculator

open AutismOS.Library

variable {num : Int32} {value room : Nat} {char : UInt8} {digits display : List UInt8}

theorem digit_byte {digit : Int32} (isDigit : digit.toInt = (value : Int)) (small : value < 10) :
    (0x30 + digit).toInt8.toUInt8 = UInt8.ofNat (0x30 + value) := by
  have isWord : digit = Int32.ofInt value := by rw [← isDigit, Int32.ofInt_toInt]
  rw [isWord]
  interval_cases value <;> rfl

theorem tmpDigits_reverse (isValue : num.toInt = (value : Int)) (small : value < 10 ^ room) :
    (tmpDigits num room).reverse = if value = 0 then [] else numeral value := by
  induction room generalizing num value with
  | zero =>
      rw [if_pos (Nat.lt_one_iff.mp small)]
      rfl
  | succ room ih =>
      have asks : 0 < num ↔ value ≠ 0 := by
        rw [Int32.lt_iff_toInt_lt, isValue, Int32.toInt_zero]
        omega
      rw [tmpDigits]
      by_cases none : value = 0
      · rw [if_neg fun positive => asks.mp positive none, if_pos none, List.reverse_nil]
      · have last : (num % 10).toInt = ((value % 10 : Nat) : Int) := by
          rw [Int32.toInt_mod, isValue]
          rfl
        have front : (num / 10).toInt = ((value / 10 : Nat) : Int) := by
          rw [Int32.toInt_div_of_ne_right _ _ (by decide), isValue]
          rfl
        have shorter : value / 10 < 10 ^ room := Nat.div_lt_of_lt_mul (by rwa [Nat.mul_comm, ← Nat.pow_succ])
        rw [if_pos (asks.mpr none), if_neg none, List.reverse_cons, ih front shorter,
          digit_byte last (Nat.mod_lt _ (by decide)), @numeral_eq value]
        refine congrArg (· ++ _) (if_congr ?_ rfl rfl)
        omega

/-- Every number but the least one is written as its numeral. -/
theorem intToStr_eq (notLeast : num ≠ Int32.minValue) : intToStr num = pure (signedNumeral num.toInt) := by
  have least := num.le_toInt
  have most := num.toInt_lt
  have above : num.toInt ≠ -2 ^ 31 := fun same => notLeast (Int32.toInt_inj.mp same)
  rw [intToStr]
  by_cases zero : num = 0
  · rw [if_pos zero, zero]
    rfl
  · have nonzero : num.toInt ≠ 0 := fun same => zero (Int32.toInt_inj.mp same)
    have digits {magnitude : Int32} (isMagnitude : magnitude.toInt = (num.toInt.natAbs : Int)) :
        (tmpDigits magnitude 15).reverse = numeral num.toInt.natAbs := by
      rw [tmpDigits_reverse isMagnitude (by omega), if_neg (by omega)]
    have asks : num < 0 ↔ num.toInt < 0 := Int32.lt_iff_toInt_lt
    rw [if_neg zero, signedNumeral]
    by_cases negative : num.toInt < 0
    · have fits : Fits (-num.toInt) := ⟨by omega, by omega⟩
      have negated : Computed.neg num = pure (-num) := Computed.checked_fits fits
      have written := digits ((Signed.toInt_neg fits).trans (show _ = _ by omega))
      rw [if_pos (asks.mpr negative), if_pos negative, negated, Computed.pure_bind, if_pos (asks.mpr negative)]
      dsimp only
      rw [written]
      rfl
    · have written := digits (show num.toInt = _ by omega)
      rw [if_neg fun less => negative (asks.mp less), if_neg negative, Computed.pure_bind,
        if_neg fun less => negative (asks.mp less)]
      dsimp only
      rw [written]
      rfl

/-- The least number has no opposite: only its sign is written. -/
theorem intToStr_least : intToStr Int32.minValue = .value [0x2D] false := by
  decide

theorem digit_word (decimal : isDigit char = true) : char.toInt8.toInt32 - 0x30 = Int32.ofInt (digitValue char) := by
  have isByte : char = UInt8.ofNat char.toNat := UInt8.ofNat_toNat.symm
  obtain ⟨lower, upper⟩ := isDigit_toNat.mp decimal
  generalize char.toNat = code at isByte lower upper
  subst isByte
  interval_cases code <;> rfl

/-- What is read has the value of the digits, up to wrapping. -/
theorem parseFrom_outcome (decimal : ∀ char ∈ digits, isDigit char = true) :
    (parseFrom (Int32.ofInt value) digits).outcome = some (Int32.ofInt (decimalFrom value digits)) := by
  induction digits generalizing value with
  | nil => rfl
  | cons char rest ih =>
      have next : Int32.ofInt value * 10 + Int32.ofInt (digitValue char) =
          Int32.ofInt ((value * 10 + digitValue char : Nat) : Int) := by
        rw [Int.natCast_add, Int.natCast_mul, Int32.ofInt_add, Int32.ofInt_mul]
        rfl
      rw [parseFrom, digit_word (decimal char List.mem_cons_self), Computed.outcome_bind]
      change ((Computed.add (Int32.ofInt value * 10) (Int32.ofInt (digitValue char))) >>= _).outcome = _
      rw [Computed.outcome_bind]
      change (parseFrom (Int32.ofInt value * 10 + Int32.ofInt (digitValue char)) rest).outcome = _
      rw [next, ih fun other member => decimal other (List.mem_cons_of_mem _ member), decimalFrom_cons]

theorem toInt_ofNat (small : value < 2 ^ 31) : (Int32.ofInt value).toInt = value :=
  Int32.toInt_ofInt_of_le (by omega) (by omega)

/-- Reading is exact as long as the value of the digits fits. -/
theorem parseFrom_sound (decimal : ∀ char ∈ digits, isDigit char = true) (small : value < 2 ^ 31) :
    (parseFrom (Int32.ofInt value) digits).sound = true ↔ decimalFrom value digits < 2 ^ 31 := by
  induction digits generalizing value with
  | nil => exact iff_of_true rfl small
  | cons char rest ih =>
      have atMost := digitValue_le (decimal char List.mem_cons_self)
      have grows : value * 10 + digitValue char ≤ decimalFrom (value * 10 + digitValue char) rest := le_decimalFrom
      have isValue := toInt_ofNat small
      have isDigit : (Int32.ofInt (digitValue char)).toInt = digitValue char := toInt_ofNat (by omega)
      have ten : (10 : Int32).toInt = 10 := rfl
      rw [parseFrom, digit_word (decimal char List.mem_cons_self), decimalFrom_cons, Computed.mul, isValue, ten]
      by_cases next : value * 10 + digitValue char < 2 ^ 31
      · have isShifted : Int32.ofInt value * 10 = Int32.ofInt ((value * 10 : Nat) : Int) := by
          rw [Int.natCast_mul, Int32.ofInt_mul]
          rfl
        have isNext : Int32.ofInt ((value * 10 : Nat) : Int) + Int32.ofInt (digitValue char) =
            Int32.ofInt ((value * 10 + digitValue char : Nat) : Int) := by
          rw [Int.natCast_add, Int32.ofInt_add]
        rw [Computed.checked_fits ⟨by omega, by omega⟩, Computed.pure_bind, Computed.add, isShifted,
          toInt_ofNat (by omega), isDigit, Computed.checked_fits ⟨by omega, by omega⟩, Computed.pure_bind, isNext]
        exact ih (fun other member => decimal other (List.mem_cons_of_mem _ member)) next
      · refine iff_of_false (fun sound => ?_) (by omega)
        obtain ⟨shifted, later⟩ := Computed.sound_bind.mp sound
        obtain ⟨_, fits⟩ := Computed.checked_sound.mp shifted
        have isShifted : (Int32.ofInt value * 10).toInt = value * 10 := by
          rw [Int32.toInt_mul, isValue, ten, Signed.bmod_of_fits ⟨by omega, by omega⟩]
        obtain ⟨added, _⟩ := Computed.sound_bind.mp (later _ rfl)
        rw [Computed.add, isShifted, isDigit] at added
        have tooSmall := (Computed.checked_sound.mp added).2
        omega

/-- The display is a number: digits, perhaps behind a sign. -/
def Shows (display : List UInt8) : Prop := ∀ char ∈ unsignedPart display, isDigit char = true

theorem parseDisplay_outcome (shows_ : Shows display) :
    (parseDisplay display).outcome = some (Int32.ofInt (signedValue display)) := by
  rw [Shows, unsignedPart] at shows_
  rw [parseDisplay, signedValue]
  split at shows_
  · next sign =>
      rw [if_pos sign, if_pos sign, Computed.outcome_bind]
      have read : (parseFrom 0 display.tail).outcome = some (Int32.ofInt (decimalValue display.tail)) :=
        @parseFrom_outcome 0 _ shows_
      rw [read, Int32.ofInt_neg]
      change some (Int32.ofInt (decimalValue display.tail) * -1) = _
      rw [Int32.mul_neg, Int32.mul_one]
  · next noSign =>
      rw [if_neg noSign, if_neg noSign, Computed.outcome_bind]
      have read : (parseFrom 0 display).outcome = some (Int32.ofInt (decimalValue display)) :=
        @parseFrom_outcome 0 _ shows_
      rw [read]
      change some (Int32.ofInt (decimalValue display) * 1) = _
      rw [Int32.mul_one]

/-- Giving a number that was read its sign is exact. -/
theorem signed_sound {sign : Int32} (decimal : ∀ char ∈ digits, isDigit char = true)
    (isSign : sign.toInt = 1 ∨ sign.toInt = -1) :
    (parseFrom 0 digits >>= fun value => Computed.mul value sign).sound = true ↔ decimalValue digits < 2 ^ 31 := by
  have exactly : (parseFrom 0 digits).sound = true ↔ decimalValue digits < 2 ^ 31 :=
    @parseFrom_sound 0 _ decimal (by decide)
  have read : (parseFrom 0 digits).outcome = some (Int32.ofInt (decimalValue digits)) := @parseFrom_outcome 0 _ decimal
  rw [Computed.sound_bind, exactly]
  refine and_iff_left_of_imp fun small result isResult => ?_
  rw [read] at isResult
  cases isResult
  rw [Computed.mul, toInt_ofNat small]
  refine Computed.checked_sound.mpr ?_
  rcases isSign with same | same
  · rw [same]
    exact ⟨by omega, by omega⟩
  · rw [same]
    exact ⟨by omega, by omega⟩

theorem parseDisplay_sound (shows_ : Shows display) :
    (parseDisplay display).sound = true ↔ decimalValue (unsignedPart display) < 2 ^ 31 := by
  rw [Shows] at shows_
  rw [parseDisplay]
  by_cases sign : display.head? = some 0x2D
  · rw [unsignedPart, if_pos sign] at shows_ ⊢
    rw [if_pos sign]
    exact signed_sound shows_ (.inr rfl)
  · rw [unsignedPart, if_neg sign] at shows_ ⊢
    rw [if_neg sign]
    exact signed_sound shows_ (.inl rfl)

/-- The text is a number of at most ten digits, perhaps behind a sign. -/
def IsNumber (text : List UInt8) : Prop :=
  ∃ digits, (text = digits ∨ text = 0x2D :: digits) ∧ (∀ char ∈ digits, isDigit char = true) ∧
    1 ≤ digits.length ∧ digits.length ≤ 10

/-- The number that is displayed is read again as itself. -/
def RoundTrips (num : Int32) : Prop :=
  ∃ text, (intToStr num).outcome = some text ∧ (parseDisplay text).outcome = some num ∧ IsNumber text ∧
    text.length + 1 ≤ 32

theorem shows_numeral (value : Int) : Shows (signedNumeral value) := by
  rw [Shows, unsignedPart_signedNumeral]
  exact fun _ => isDigit_numeral

theorem isNumber_numeral (num : Int32) : IsNumber (signedNumeral num.toInt) := by
  have least := num.le_toInt
  have most := num.toInt_lt
  refine ⟨numeral num.toInt.natAbs, ?_, fun _ => isDigit_numeral, ?_, length_numeral_le (by decide) (by omega)⟩
  · rw [signedNumeral]
    split
    · exact .inr rfl
    · exact .inl rfl
  · exact List.length_pos_iff.mpr numeral_ne_nil

theorem IsNumber.short {text : List UInt8} (isNumber : IsNumber text) : text.length + 1 ≤ 32 := by
  obtain ⟨digits, rfl | rfl, _, _, short⟩ := isNumber
  · omega
  · rw [List.length_cons]
    omega

/-- A number is displayed so that it can be read again, unless it is the least one. -/
theorem roundTrips_iff (num : Int32) : RoundTrips num ↔ num ≠ Int32.minValue := by
  constructor
  · rintro ⟨text, written, read, _⟩ rfl
    rw [intToStr_least] at written
    cases written
    revert read
    decide
  · intro notLeast
    refine ⟨signedNumeral num.toInt, ?_, ?_, isNumber_numeral num, (isNumber_numeral num).short⟩
    · rw [intToStr_eq notLeast, Computed.outcome_pure]
    · rw [parseDisplay_outcome (shows_numeral _), signedValue_signedNumeral, Int32.ofInt_toInt]

/-- The least number is displayed as a sign alone, and read as zero. -/
theorem not_roundTrips_least : ¬ RoundTrips (-2147483648) := by
  rintro ⟨text, written, read, _⟩
  have isText : text = [0x2D] := by
    refine Option.some.inj (written.symm.trans ?_)
    decide
  rw [isText] at read
  revert read
  decide

end AutismOS.Calculator
