import AutismOS.Calculator.Display

namespace AutismOS.Calculator

open AutismOS.Library

/-! What is computed without a fault. -/

variable {operator key : UInt8} {value1 value2 : Int32} {state after : CalcState} {input : Input} {display : List UInt8}

/-- What the operator means for integers. -/
def evaluated (operator : UInt8) (value1 value2 : Int) : Int :=
  if operator = 0x2B then value1 + value2
  else if operator = 0x2D then value1 - value2
  else if operator = 0x2A then value1 * value2
  else if operator = 0x2F then value1.tdiv value2
  else 0

/-- The division that raises an exception. -/
def Traps (operator : UInt8) (value1 value2 : Int32) : Prop :=
  operator = 0x2F ∧ value1 = Int32.minValue ∧ value2 = -1

theorem evaluate_traps (traps : Traps operator value1 value2) : evaluate operator value1 value2 = .exception := by
  obtain ⟨rfl, rfl, rfl⟩ := traps
  rfl

/-- Without an exception, the result is that of the integers, wrapped around where it does not fit. -/
theorem evaluate_eq (noTrap : ¬ Traps operator value1 value2) : evaluate operator value1 value2 =
    .checked (Int32.ofInt (evaluated operator value1.toInt value2.toInt))
      (evaluated operator value1.toInt value2.toInt) := by
  have zero : (Pure.pure 0 : Computed Int32) = .checked (Int32.ofInt 0) 0 := rfl
  rw [evaluate, evaluated]
  split
  · rw [Int32.ofInt_add, Int32.ofInt_toInt, Int32.ofInt_toInt]
    rfl
  · split
    · rw [Int32.ofInt_sub, Int32.ofInt_toInt, Int32.ofInt_toInt]
      rfl
    · split
      · rw [Int32.ofInt_mul, Int32.ofInt_toInt, Int32.ofInt_toInt]
        rfl
      · split
        · next divides =>
            by_cases isZero : value2 = 0
            · rw [if_neg (not_not.mpr isZero), isZero]
              exact zero.trans (by rw [Int32.toInt_zero, Int.tdiv_zero])
            · have quotient : (value1 / value2).toInt = value1.toInt.tdiv value2.toInt := by
                by_cases minus : value2 = -1
                · exact Int32.toInt_div_of_ne_left _ _ fun least => noTrap ⟨divides, least, minus⟩
                · exact Int32.toInt_div_of_ne_right _ _ minus
              have regular : ¬ (value2 = 0 ∨ value1 = Int32.minValue ∧ value2 = -1) := by
                rintro (none | ⟨least, minus⟩)
                · exact isZero none
                · exact noTrap ⟨divides, least, minus⟩
              rw [if_pos isZero, Computed.div, if_neg regular, ← quotient, Int32.ofInt_toInt,
                Computed.checked_fits Signed.fits_toInt]
              rfl
        · exact zero

/-- An operation is sound exactly when the result of the integers fits. -/
theorem evaluate_sound :
    (evaluate operator value1 value2).sound = true ↔ Fits (evaluated operator value1.toInt value2.toInt) := by
  by_cases traps : Traps operator value1 value2
  · rw [evaluate_traps traps]
    obtain ⟨rfl, rfl, rfl⟩ := traps
    refine iff_of_false Bool.false_ne_true ?_
    decide
  · rw [evaluate_eq traps, Computed.checked_sound]

theorem evaluate_fits (fits : Fits (evaluated operator value1.toInt value2.toInt)) :
    evaluate operator value1 value2 = pure (Int32.ofInt (evaluated operator value1.toInt value2.toInt)) := by
  have noTrap : ¬ Traps operator value1 value2 := by
    intro traps
    have sound := evaluate_sound.mpr fits
    rw [evaluate_traps traps] at sound
    cases sound
  rw [evaluate_eq noTrap, Computed.checked_fits fits]

theorem intToStr_sound {num : Int32} : (intToStr num).sound = true ↔ num ≠ Int32.minValue := by
  by_cases least : num = Int32.minValue
  · rw [least, intToStr_least]
    exact iff_of_false Bool.false_ne_true (not_not.mpr rfl)
  · rw [intToStr_eq least, Computed.sound_pure]
    exact iff_of_true rfl least

/-- The key or button that an input presses. -/
def Input.pressed : Input → Option UInt8
  | .key key => some key
  | .mouse localX localY buttons => if buttons &&& 0x01 = 0 then none else CalcState.buttonAt localX localY

theorem handle_eq : state.handle input = match input.pressed with
    | none => pure state
    | some key => { state with lastButton := key }.calculatorApplyInput key := by
  cases input with
  | key key => rfl
  | mouse localX localY buttons =>
      rw [CalcState.handle, CalcState.calculatorHandleMouse, Input.pressed]
      split
      · rfl
      · rfl

/-- The key reads the display. -/
def Reads (state : CalcState) (key : UInt8) : Prop :=
  isOperator key ∨ (key = 0x0A ∨ key = 0x3D) ∧ state.hasOperator

/-- The key evaluates an operator. -/
def Evaluates (state : CalcState) (key : UInt8) : Prop := (key = 0x0A ∨ key = 0x3D) ∧ state.hasOperator

/-- A number that is read fits, and so do a result that is computed and its opposite. -/
structure SafeKey (state : CalcState) (key : UInt8) : Prop where
  number : Reads state key → decimalValue (unsignedPart state.display) < 2 ^ 31
  result : Evaluates state key →
    -2 ^ 31 < evaluated state.operator state.value1.toInt (signedValue state.display) ∧
      evaluated state.operator state.value1.toInt (signedValue state.display) < 2 ^ 31

def Safe (state : CalcState) (input : Input) : Prop := ∀ key, input.pressed = some key → SafeKey state key

/-- What is read exactly is the number on the display. -/
theorem parseDisplay_fits (shows_ : Shows display) (small : decimalValue (unsignedPart display) < 2 ^ 31) :
    ∃ value, parseDisplay display = pure value ∧ value.toInt = signedValue display := by
  obtain ⟨value, isValue⟩ := Computed.sound_iff.mp ((parseDisplay_sound shows_).mpr small)
  have read := parseDisplay_outcome shows_
  rw [isValue] at read
  refine ⟨value, isValue, ?_⟩
  have same : value = Int32.ofInt (signedValue display) := Option.some.inj read
  rw [same]
  have bounds : -2 ^ 31 ≤ signedValue display ∧ signedValue display < 2 ^ 31 := by
    rw [signedValue]
    rw [unsignedPart] at small
    split at small
    · next sign =>
        rw [if_pos sign]
        omega
    · next noSign =>
        rw [if_neg noSign]
        omega
  exact Int32.toInt_ofInt_of_le bounds.1 bounds.2

/-- Reading, evaluating and writing are all exact exactly when the number and the result are safe. -/
theorem evaluation_sound (shows_ : Shows state.display) : (do
    let value2 ← parseDisplay state.display
    let result ← evaluate state.operator state.value1 value2
    let display ← intToStr result
    pure { state with
      value2, result, display, hasOperator := false, newNumber := true } : Computed CalcState).sound = true ↔
      decimalValue (unsignedPart state.display) < 2 ^ 31 ∧
        -2 ^ 31 < evaluated state.operator state.value1.toInt (signedValue state.display) ∧
          evaluated state.operator state.value1.toInt (signedValue state.display) < 2 ^ 31 := by
  constructor
  · intro sound
    obtain ⟨read, later⟩ := Computed.sound_bind.mp sound
    have small := (parseDisplay_sound shows_).mp read
    obtain ⟨value2, isValue2, asInt⟩ := parseDisplay_fits shows_ small
    refine ⟨small, ?_⟩
    rw [isValue2] at later
    obtain ⟨evaluates, written⟩ := Computed.sound_bind.mp (later value2 rfl)
    have fits := evaluate_sound.mp evaluates
    rw [evaluate_fits fits] at written
    have notLeast := intToStr_sound.mp (Computed.sound_bind.mp (written _ rfl)).1
    rw [asInt] at fits notLeast
    obtain ⟨lower, upper⟩ := fits
    refine ⟨Int.lt_iff_le_and_ne.mpr ⟨lower, fun same => notLeast ?_⟩, upper⟩
    rw [← same]
    rfl
  · rintro ⟨small, lower, upper⟩
    obtain ⟨value2, isValue2, asInt⟩ := parseDisplay_fits shows_ small
    have fits : Fits (evaluated state.operator state.value1.toInt value2.toInt) := by
      rw [asInt]
      exact ⟨Int.le_of_lt lower, upper⟩
    have notLeast : Int32.ofInt (evaluated state.operator state.value1.toInt value2.toInt) ≠ Int32.minValue := by
      intro same
      have asInt_ := congrArg Int32.toInt same
      rw [Int32.toInt_ofInt_of_le fits.1 fits.2, asInt, Int32.toInt_minValue] at asInt_
      omega
    rw [isValue2, Computed.pure_bind, evaluate_fits fits, Computed.pure_bind, intToStr_eq notLeast, Computed.pure_bind]
    rfl

/-- Digits are neither operators nor do they end an entry. -/
theorem digit_other (digit : 0x30 ≤ key ∧ key ≤ 0x39) : isOperator key = false ∧ ¬ (key = 0x0A ∨ key = 0x3D) := by
  obtain ⟨lower, upper⟩ := digit
  constructor
  · rw [Bool.eq_false_iff, isOperator]
    intro operator
    simp only [Bool.or_eq_true, decide_eq_true_eq] at operator
    rcases operator with ((rfl | rfl) | rfl) | rfl
    all_goals exact absurd lower (by decide)
  · rintro (rfl | rfl)
    · exact absurd lower (by decide)
    · exact absurd upper (by decide)

theorem operator_other (operator : isOperator key = true) : ¬ (key = 0x0A ∨ key = 0x3D) := by
  rintro (rfl | rfl)
  · cases operator
  · cases operator

/-- A key that reads nothing is always safe. -/
theorem safeKey_idle (idle : ¬ Reads state key) : SafeKey state key :=
  ⟨fun reads => absurd reads idle, fun evaluates => absurd (.inr evaluates) idle⟩

theorem apply_sound (shows_ : Shows state.display) :
    (state.calculatorApplyInput key).sound = true ↔ SafeKey state key := by
  rw [CalcState.calculatorApplyInput]
  by_cases digit : 0x30 ≤ key ∧ key ≤ 0x39
  · obtain ⟨noOperator, noEnd⟩ := digit_other digit
    have idle : ¬ Reads state key := by
      rintro (operator | ends)
      · rw [noOperator] at operator
        cases operator
      · exact noEnd ends.1
    rw [if_pos digit]
    refine iff_of_true ?_ (safeKey_idle idle)
    split
    · rfl
    · split
      · rfl
      · rfl
  rw [if_neg digit]
  by_cases operator : isOperator key = true
  · have noEnd := operator_other operator
    rw [if_pos operator, Computed.sound_bind, parseDisplay_sound shows_]
    constructor
    · rintro ⟨small, _⟩
      exact ⟨fun _ => small, fun evaluates => absurd evaluates.1 noEnd⟩
    · intro safe
      exact ⟨safe.number (.inl operator), fun _ _ => rfl⟩
  rw [if_neg operator]
  by_cases ends : key = 0x0A ∨ key = 0x3D
  · rw [if_pos ends]
    by_cases pending : state.hasOperator = true
    · rw [if_pos pending, evaluation_sound shows_]
      constructor
      · rintro ⟨small, bounds⟩
        exact ⟨fun _ => small, fun _ => bounds⟩
      · intro safe
        exact ⟨safe.number (.inr ⟨ends, pending⟩), safe.result ⟨ends, pending⟩⟩
    · rw [if_neg pending]
      refine iff_of_true rfl (safeKey_idle ?_)
      rintro (isOperator | evaluates)
      · exact operator isOperator
      · exact pending evaluates.2
  · rw [if_neg ends]
    have idle : ¬ Reads state key := by
      rintro (isOperator | evaluates)
      · exact operator isOperator
      · exact ends evaluates.1
    refine iff_of_true ?_ (safeKey_idle idle)
    split
    · rfl
    · rfl

theorem handle_sound (shows_ : Shows state.display) : (state.handle input).sound = true ↔ Safe state input := by
  rw [handle_eq, Safe]
  cases input.pressed with
  | none => exact iff_of_true rfl nofun
  | some key =>
      have typed : Shows ({ state with lastButton := key } : CalcState).display := shows_
      refine (apply_sound typed).trans ?_
      constructor
      · intro safe other same
        cases same
        exact ⟨safe.number, safe.result⟩
      · intro safe
        exact ⟨(safe key rfl).number, (safe key rfl).result⟩

theorem shows_digit (decimal : isDigit key = true) : Shows [key] := by
  have alone : ∀ char ∈ [key], isDigit char = true := fun char member => List.mem_singleton.mp member ▸ decimal
  rw [Shows, unsignedPart, if_neg (head_ne_sign alone)]
  exact alone

theorem Shows.append (shows_ : Shows display) (decimal : isDigit key = true) : Shows (display ++ [key]) := by
  cases display with
  | nil => exact shows_digit decimal
  | cons first rest =>
      have longer : unsignedPart (first :: rest ++ [key]) = unsignedPart (first :: rest) ++ [key] := by
        rw [unsignedPart, unsignedPart, List.cons_append, List.head?_cons, List.head?_cons]
        split
        · rfl
        · rfl
      rw [Shows, longer]
      intro char member
      rcases List.mem_append.mp member with old | new
      · exact shows_ char old
      · exact List.mem_singleton.mp new ▸ decimal

theorem shows_intToStr {num : Int32} (written : (intToStr num).outcome = some display) : Shows display := by
  by_cases least : num = Int32.minValue
  · rw [least, intToStr_least] at written
    cases written
    exact fun char member => nomatch member
  · rw [intToStr_eq least] at written
    cases written
    exact shows_numeral _

theorem Shows.apply (shows_ : Shows state.display) (applied : (state.calculatorApplyInput key).outcome = some after) :
    Shows after.display := by
  rw [CalcState.calculatorApplyInput] at applied
  split at applied
  · next digit =>
      have decimal : isDigit key = true := isDigit_iff.mpr digit
      split at applied
      · cases applied
        exact shows_digit decimal
      · split at applied
        · cases applied
          exact shows_.append decimal
        · cases applied
          exact shows_
  split at applied
  · rw [Computed.outcome_bind] at applied
    obtain ⟨value1, _, done⟩ := Option.bind_eq_some_iff.mp applied
    cases done
    exact shows_
  split at applied
  · split at applied
    · rw [Computed.outcome_bind] at applied
      obtain ⟨value2, _, done⟩ := Option.bind_eq_some_iff.mp applied
      rw [Computed.outcome_bind] at done
      obtain ⟨result, _, done⟩ := Option.bind_eq_some_iff.mp done
      rw [Computed.outcome_bind] at done
      obtain ⟨text, written, done⟩ := Option.bind_eq_some_iff.mp done
      cases done
      exact shows_intToStr written
    · cases applied
      exact shows_
  split at applied
  · cases applied
    exact shows_digit rfl
  · cases applied
    exact shows_

theorem Shows.handle (shows_ : Shows state.display) (handled : (state.handle input).outcome = some after) :
    Shows after.display := by
  rw [handle_eq] at handled
  split at handled
  · cases handled
    exact shows_
  · next key _ =>
      have typed : Shows ({ state with lastButton := key } : CalcState).display := shows_
      exact typed.apply handled

/-- From a fresh calculator, what is computed for any inputs is free of overflows and exceptions exactly
when every input is safe in the state that it meets. -/
theorem handleAll_sound_iff (inputs : List Input) : (initial.handleAll inputs).sound = true ↔
    ∃ after, Restricted (fun state input => (state.handle input).outcome) Safe initial inputs after :=
  Computed.foldlM_sound_iff (fun state => Shows state.display) (fun _ _ => handle_sound)
    (fun before input after shows_ handled => Shows.handle shows_ (by rw [handled]; rfl)) (shows_digit rfl) inputs

/-- 2147483648 / 4294967295 = divides the least number by -1. -/
theorem enter_traps : initial.enter [0x32, 0x31, 0x34, 0x37, 0x34, 0x38, 0x33, 0x36, 0x34, 0x38, 0x2F,
    0x34, 0x32, 0x39, 0x34, 0x39, 0x36, 0x37, 0x32, 0x39, 0x35, 0x3D] = .exception := by
  decide +kernel

end AutismOS.Calculator
