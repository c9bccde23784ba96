import Mathlib.Algebra.Order.Group.Nat
import Mathlib.Tactic.IntervalCases

namespace AutismOS.Library

/-! Decimal numerals in ASCII. -/

variable {value count : Nat} {char : UInt8} {digits rest : List UInt8}

def isDigit (char : UInt8) : Bool := 0x30 ≤ char && char ≤ 0x39

def digitValue (char : UInt8) : Nat := char.toNat - 0x30

/-- The value of digits behind others that have a value. -/
def decimalFrom (value : Nat) (digits : List UInt8) : Nat := digits.foldl (fun value char => value * 10 + digitValue char) value

def decimalValue (digits : List UInt8) : Nat := decimalFrom 0 digits

/-- The numeral without leading zeros. -/
def numeral (value : Nat) : List UInt8 := (Nat.toDigits 10 value).map fun char => UInt8.ofNat char.toNat

theorem isDigit_iff : isDigit char = true ↔ 0x30 ≤ char ∧ char ≤ 0x39 := by
  rw [isDigit, Bool.and_eq_true, decide_eq_true_eq, decide_eq_true_eq]

theorem isDigit_toNat : isDigit char = true ↔ 48 ≤ char.toNat ∧ char.toNat ≤ 57 := by
  rw [isDigit_iff, UInt8.le_iff_toNat_le, UInt8.le_iff_toNat_le]
  rfl

theorem decimalFrom_cons :
    decimalFrom value (char :: digits) = decimalFrom (value * 10 + digitValue char) digits := List.foldl_cons

theorem takeWhile_isDigit (decimal : ∀ char ∈ digits, isDigit char = true) : digits.takeWhile isDigit = digits := by
  have whole : (digits ++ []).takeWhile isDigit = _ := List.takeWhile_append_of_pos decimal
  rwa [List.takeWhile_nil, List.append_nil] at whole

/-- Only the remainder of the value before matters for the remainder of the whole. -/
theorem decimalFrom_mod : decimalFrom (value % count) digits % count = decimalFrom value digits % count := by
  induction digits generalizing value with
  | nil => exact Nat.mod_mod _ _
  | cons char rest ih =>
      rw [decimalFrom_cons, decimalFrom_cons, ← ih, ← @ih (value * 10 + digitValue char)]
      congr 2
      rw [Nat.add_mod, Nat.mod_mul_mod, ← Nat.add_mod]

theorem asciiDigit {char : Char} (decimal : char.isDigit = true) :
    isDigit (UInt8.ofNat char.toNat) = true ∧ digitValue (UInt8.ofNat char.toNat) = char.toNat - 0x30 := by
  obtain ⟨lower, upper⟩ := Char.isDigit_iff_toNat.mp decimal
  change 0x30 ≤ char.toNat at lower
  change char.toNat ≤ 0x39 at upper
  have same : (UInt8.ofNat char.toNat).toNat = char.toNat := UInt8.toNat_ofNat_of_lt (Nat.lt_of_le_of_lt upper (by decide))
  constructor
  · rw [isDigit_toNat, same]
    exact ⟨lower, upper⟩
  · rw [digitValue, same]

theorem isDigit_numeral (member : char ∈ numeral value) : isDigit char = true := by
  obtain ⟨digit, isMember, rfl⟩ := List.mem_map.mp member
  exact (asciiDigit (Nat.isDigit_of_mem_toDigits (by decide) (by decide) isMember)).1

theorem numeral_ne_nil : numeral value ≠ [] := by
  rw [numeral, Ne, List.map_eq_nil_iff]
  exact Nat.toDigits_ne_nil

theorem decimalFrom_map {chars : List Char} (decimal : ∀ char ∈ chars, char.isDigit = true) :
    decimalFrom value (chars.map fun char => UInt8.ofNat char.toNat) = Nat.ofDigitChars 10 chars value := by
  induction chars generalizing value with
  | nil => exact Nat.ofDigitChars_nil.symm
  | cons char rest ih =>
      rw [List.map_cons, decimalFrom_cons, Nat.ofDigitChars_cons, (asciiDigit (decimal char List.mem_cons_self)).2,
        Nat.mul_comm value 10]
      exact ih fun other member => decimal other (List.mem_cons_of_mem _ member)

/-- The value of a numeral is the number that is written. -/
theorem decimalValue_numeral : decimalValue (numeral value) = value := by
  rw [decimalValue, numeral, decimalFrom_map fun char member => Nat.isDigit_of_mem_toDigits (by decide) (by decide) member]
  exact Nat.ofDigitChars_ten_toDigits

theorem digitValue_le (decimal : isDigit char = true) : digitValue char ≤ 9 := by
  have upper := (isDigit_toNat.mp decimal).2
  rw [digitValue]
  omega

theorem digitChar_byte (small : value < 10) : UInt8.ofNat value.digitChar.toNat = UInt8.ofNat (0x30 + value) := by
  interval_cases value <;> rfl

/-- The last digit of a numeral stands for the remainder by ten. -/
theorem numeral_eq : numeral value =
    (if value < 10 then [] else numeral (value / 10)) ++ [UInt8.ofNat (0x30 + value % 10)] := by
  rw [numeral, Nat.toDigits_eq_if (by decide)]
  by_cases single : value < 10
  · rw [if_pos single, if_pos single, List.map_singleton, digitChar_byte single, Nat.mod_eq_of_lt single, List.nil_append]
  · rw [if_neg single, if_neg single, List.map_append, List.map_singleton, digitChar_byte (Nat.mod_lt _ (by decide)), numeral]

theorem length_numeral_le (positive : 0 < count) (small : value < 10 ^ count) : (numeral value).length ≤ count := by
  induction count generalizing value with
  | zero => cases positive
  | succ count ih =>
      rw [numeral_eq, List.length_append, List.length_singleton]
      by_cases single : value < 10
      · rw [if_pos single]
        exact Nat.le_add_left _ _
      · rw [if_neg single]
        have shorter : value / 10 < 10 ^ count := Nat.div_lt_of_lt_mul (by rwa [Nat.mul_comm, ← Nat.pow_succ])
        have more : 0 < count := by
          refine Nat.pos_of_ne_zero fun none => single ?_
          rwa [none] at small
        exact Nat.succ_le_succ (ih more shorter)

theorem le_decimalFrom : value ≤ decimalFrom value digits := by
  induction digits generalizing value with
  | nil => exact Nat.le_refl _
  | cons char rest ih =>
      rw [decimalFrom_cons]
      exact Nat.le_trans (by omega) ih

theorem decimalFrom_lt (decimal : ∀ char ∈ digits, isDigit char = true) :
    decimalFrom value digits < (value + 1) * 10 ^ digits.length := by
  induction digits generalizing value with
  | nil =>
      rw [List.length_nil, Nat.pow_zero, Nat.mul_one]
      exact Nat.lt_succ_self value
  | cons char rest ih =>
      have atMost := digitValue_le (decimal char List.mem_cons_self)
      rw [decimalFrom_cons, List.length_cons, Nat.pow_succ']
      calc decimalFrom (value * 10 + digitValue char) rest
          < (value * 10 + digitValue char + 1) * 10 ^ rest.length :=
            ih fun other member => decimal other (List.mem_cons_of_mem _ member)
        _ ≤ (value + 1) * 10 * 10 ^ rest.length := Nat.mul_le_mul_right _ (by omega)
        _ = (value + 1) * (10 * 10 ^ rest.length) := Nat.mul_assoc _ _ _

/-- The numeral of an integer. -/
def signedNumeral (value : Int) : List UInt8 :=
  if value < 0 then 0x2D :: numeral value.natAbs else numeral value.natAbs

/-- What stands behind the sign, if there is one. -/
def unsignedPart (text : List UInt8) : List UInt8 := if text.head? = some 0x2D then text.tail else text

def signedValue (text : List UInt8) : Int :=
  if text.head? = some 0x2D then -(decimalValue text.tail : Int) else (decimalValue text : Int)

theorem head_ne_sign (decimal : ∀ char ∈ digits, isDigit char = true) : digits.head? ≠ some 0x2D := by
  intro sign
  cases decimal 0x2D (List.mem_of_head? sign)

theorem unsignedPart_signedNumeral {value : Int} : unsignedPart (signedNumeral value) = numeral value.natAbs := by
  rw [signedNumeral]
  split
  · rfl
  · exact if_neg (head_ne_sign fun _ => isDigit_numeral)

theorem signedValue_signedNumeral {value : Int} : signedValue (signedNumeral value) = value := by
  rw [signedNumeral, signedValue]
  split
  · rw [if_pos List.head?_cons, List.tail_cons, decimalValue_numeral]
    omega
  · rw [if_neg (head_ne_sign fun _ => isDigit_numeral), decimalValue_numeral]
    omega

/-- The numeral in a base, with lower-case letters for the digits from ten on. -/
def numeralIn (base value : Nat) : List UInt8 := (Nat.toDigits base value).map fun char => UInt8.ofNat char.toNat

/-- The character of a digit below 16. -/
def digitByte (digit : Nat) : UInt8 := UInt8.ofNat digit.digitChar.toNat

/-- The digit for which a character stands, the letters included. -/
def letterValue (char : UInt8) : Nat := if isDigit char then digitValue char else char.toNat - 0x57

def valueIn (base : Nat) (digits : List UInt8) : Nat := digits.foldl (fun value char => value * base + letterValue char) 0

variable {base digit : Nat}

theorem letterValue_digitByte (small : digit < 16) : letterValue (digitByte digit) = digit := by
  interval_cases digit <;> rfl

theorem digitByte_ne_zero (small : digit < 16) : digitByte digit ≠ 0 := by
  interval_cases digit <;> decide

theorem numeralIn_eq (proper : 1 < base) : numeralIn base value =
    (if value < base then [] else numeralIn base (value / base)) ++ [digitByte (value % base)] := by
  rw [numeralIn, Nat.toDigits_eq_if proper]
  by_cases single : value < base
  · rw [if_pos single, if_pos single, List.map_singleton, Nat.mod_eq_of_lt single, List.nil_append, digitByte]
  · rw [if_neg single, if_neg single, List.map_append, List.map_singleton, numeralIn, digitByte]

theorem valueIn_numeralIn (proper : 1 < base) (letters : base ≤ 16) : valueIn base (numeralIn base value) = value := by
  induction value using Nat.strong_induction_on with
  | h value ih =>
      have last := Nat.lt_of_lt_of_le (Nat.mod_lt value (Nat.zero_lt_of_lt proper)) letters
      rw [numeralIn_eq proper, valueIn, List.foldl_append, List.foldl_cons, List.foldl_nil, letterValue_digitByte last]
      split
      · rename_i single
        rw [List.foldl_nil, Nat.zero_mul, Nat.zero_add, Nat.mod_eq_of_lt single]
      · rename_i longer
        have smaller : value / base < value := Nat.div_lt_self (by omega) proper
        change valueIn base (numeralIn base (value / base)) * base + value % base = value
        rw [ih _ smaller, Nat.div_add_mod']

theorem zero_notMem_numeralIn (proper : 1 < base) (letters : base ≤ 16) : 0 ∉ numeralIn base value := by
  induction value using Nat.strong_induction_on with
  | h value ih =>
      have last := Nat.lt_of_lt_of_le (Nat.mod_lt value (Nat.zero_lt_of_lt proper)) letters
      rw [numeralIn_eq proper, List.mem_append, List.mem_singleton]
      rintro (earlier | zero)
      · split at earlier
        · cases earlier
        · rename_i longer
          exact ih _ (Nat.div_lt_self (by omega) proper) earlier
      · exact digitByte_ne_zero last zero.symm

theorem numeralIn_ne_nil : numeralIn base value ≠ [] := by
  rw [numeralIn, Ne, List.map_eq_nil_iff]
  exact Nat.toDigits_ne_nil

/-- No base needs more digits than the binary one. -/
theorem length_numeralIn_le (proper : 1 < base) (positive : 0 < count) (small : value < 2 ^ count) :
    (numeralIn base value).length ≤ count := by
  induction count generalizing value with
  | zero => cases positive
  | succ count ih =>
      rw [numeralIn_eq proper, List.length_append, List.length_singleton]
      by_cases single : value < base
      · rw [if_pos single]
        exact Nat.le_add_left _ _
      · have half : value / base ≤ value / 2 := Nat.div_le_div_left proper (by decide)
        rw [Nat.pow_succ] at small
        have more : 0 < count := by
          refine Nat.pos_of_ne_zero ?_
          rintro rfl
          omega
        rw [if_neg single]
        exact Nat.succ_le_succ (ih more (by omega))

end AutismOS.Library
