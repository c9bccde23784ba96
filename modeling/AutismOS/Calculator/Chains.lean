import AutismOS.Calculator.Overflow

namespace AutismOS.Calculator

open AutismOS.Library

/-! # Chained calculations

An operator takes its left operand from the display, which shows the last number that was typed: the
operation that was pending before is dropped.
-/

/-- A number as it is typed. -/
structure Operand where
  digits : List UInt8
  decimal : ∀ char ∈ digits, isDigit char = true
  nonempty : digits ≠ []
  short : digits.length ≤ 9

def Operand.value (operand : Operand) : Int := decimalValue operand.digits

/-- An operator with its right operand. -/
structure Operation where
  operator : UInt8
  known : isOperator operator = true
  operand : Operand

namespace Operation

def keys (operation : Operation) : List UInt8 := operation.operator :: operation.operand.digits

def apply (value : Int) (operation : Operation) : Int := evaluated operation.operator value operation.operand.value

end Operation

/-- An operand and at least one operation. -/
structure Expression where
  first : Operand
  middle : List Operation
  last : Operation

/-- Every result from left to right fits, and no divisor is zero. -/
def RegularFrom (value : Int) : List Operation → Prop
  | [] => True
  | operation :: rest =>
      (operation.operator = 0x2F → operation.operand.value ≠ 0) ∧ Fits (operation.apply value) ∧
        RegularFrom (operation.apply value) rest

def typedLast (first : Operand) : List Operation → Operand
  | [] => first
  | operation :: rest => typedLast operation.operand rest

namespace Expression

variable (expression : Expression)

def keys : List UInt8 :=
  expression.first.digits ++ (expression.middle.flatMap Operation.keys ++ (expression.last.keys ++ [0x3D]))

/-- The value from left to right. -/
def value : Int := expression.last.apply (expression.middle.foldl Operation.apply expression.first.value)

def Regular : Prop := RegularFrom expression.first.value (expression.middle ++ [expression.last])

def previous : Operand := typedLast expression.first expression.middle

/-- A cleared calculator shows the value when the expression has been typed. -/
def Displays : Prop :=
  (initial.enter expression.keys).outcome.map CalcState.display = some (signedNumeral expression.value)

end Expression

variable {key : UInt8} {keys later digits : List UInt8} {state : CalcState} {operand previous : Operand}
  {operation : Operation}

theorem Operand.value_bounds : 0 ≤ operand.value ∧ operand.value < 2 ^ 31 := by
  have small : decimalValue operand.digits < (0 + 1) * 10 ^ operand.digits.length := decimalFrom_lt operand.decimal
  have short : 10 ^ operand.digits.length ≤ 10 ^ 9 := Nat.pow_le_pow_right (by decide) operand.short
  rw [Operand.value]
  omega

def Operand.word (operand : Operand) : Int32 := Int32.ofInt operand.value

theorem Operand.toInt_word : operand.word.toInt = operand.value :=
  Int32.toInt_ofInt_of_le (by have := @value_bounds operand; omega) value_bounds.2

theorem Operand.parse : parseDisplay operand.digits = pure operand.word := by
  have unsigned := head_ne_sign operand.decimal
  have shows_ : Shows operand.digits := by
    rw [Shows, unsignedPart, if_neg unsigned]
    exact operand.decimal
  have small : decimalValue (unsignedPart operand.digits) < 2 ^ 31 := by
    have bounds := (@value_bounds operand).2
    rw [unsignedPart, if_neg unsigned]
    rw [Operand.value] at bounds
    omega
  obtain ⟨value, isValue, asInt⟩ := parseDisplay_fits shows_ small
  rw [isValue]
  rw [signedValue, if_neg unsigned] at asInt
  have same : value = operand.word := by
    rw [Operand.word, Operand.value, ← asInt, Int32.ofInt_toInt]
  rw [same]

theorem enter_append : state.enter (keys ++ later) = state.enter keys >>= fun after => after.enter later := by
  rw [CalcState.enter, List.map_append]
  exact List.foldlM_append

theorem enter_cons : state.enter (key :: keys) = state.calculatorHandleKey key >>= fun after => after.enter keys :=
  List.foldlM_cons

theorem handleKey_digit (decimal : isDigit key = true) : state.calculatorHandleKey key =
    if state.newNumber then pure { state with display := [key], newNumber := false, lastButton := key }
    else if state.display.length < 10 then pure { state with display := state.display ++ [key], lastButton := key }
    else pure { state with lastButton := key } :=
  if_pos (isDigit_iff.mp decimal)

theorem enter_digits (typing : state.newNumber = false) (decimal : ∀ char ∈ digits, isDigit char = true)
    (room : state.display.length + digits.length ≤ 10) : ∃ lastButton,
    state.enter digits = pure { state with display := state.display ++ digits, lastButton } := by
  induction digits generalizing state with
  | nil =>
      refine ⟨state.lastButton, ?_⟩
      rw [List.append_nil]
      rfl
  | cons char rest ih =>
      rw [List.length_cons] at room
      obtain ⟨lastButton, entered⟩ :=
        @ih { state with display := state.display ++ [char], lastButton := char } typing
          (fun other member => decimal other (List.mem_cons_of_mem _ member))
          (by rw [List.length_append, List.length_singleton]; omega)
      refine ⟨lastButton, ?_⟩
      rw [enter_cons, handleKey_digit (decimal char List.mem_cons_self), if_neg (Bool.not_eq_true _ ▸ typing),
        if_pos (show _ < 10 by omega), Computed.pure_bind, entered, List.append_assoc]
      rfl

theorem enter_operand (fresh : state.newNumber = true) (operand : Operand) : ∃ lastButton,
    state.enter operand.digits = pure { state with display := operand.digits, newNumber := false, lastButton } := by
  obtain ⟨digits, decimal, nonempty, short⟩ := operand
  cases digits with
  | nil => exact absurd rfl nonempty
  | cons char rest =>
      rw [List.length_cons] at short
      obtain ⟨lastButton, entered⟩ :=
        @enter_digits rest { state with display := [char], newNumber := false, lastButton := char } rfl
          (fun other member => decimal other (List.mem_cons_of_mem _ member))
          (by rw [List.length_singleton]; omega)
      refine ⟨lastButton, ?_⟩
      rw [enter_cons, handleKey_digit (decimal char List.mem_cons_self), if_pos fresh, Computed.pure_bind, entered]
      rfl

/-- An operator keeps the operand on the display, and nothing of what was pending. -/
theorem handleKey_operator (known : isOperator key = true) (shown : state.display = operand.digits) :
    state.calculatorHandleKey key = pure { state with
      value1 := operand.word, operator := key, hasOperator := true, newNumber := true, lastButton := key } := by
  have noDigit : ¬ (0x30 ≤ key ∧ key ≤ 0x39) := by
    intro digit
    rw [(digit_other digit).1] at known
    cases known
  rw [CalcState.calculatorHandleKey, CalcState.calculatorApplyInput, if_neg noDigit, if_pos known, shown, Operand.parse,
    Computed.pure_bind]

theorem enter_operation (shown : state.display = previous.digits) (operation : Operation) : ∃ lastButton,
    state.enter operation.keys = pure { state with
      value1 := previous.word, operator := operation.operator, hasOperator := true,
      display := operation.operand.digits, newNumber := false, lastButton } := by
  obtain ⟨lastButton, entered⟩ := @enter_operand { state with
    value1 := previous.word, operator := operation.operator, hasOperator := true, newNumber := true,
    lastButton := operation.operator } rfl operation.operand
  refine ⟨lastButton, ?_⟩
  rw [Operation.keys, enter_cons, handleKey_operator operation.known shown, Computed.pure_bind, entered]

theorem enter_operations (shown : state.display = previous.digits) (operations : List Operation) : ∃ after,
    state.enter (operations.flatMap Operation.keys) = pure after ∧
      after.display = (typedLast previous operations).digits := by
  induction operations generalizing state previous with
  | nil => exact ⟨state, rfl, shown⟩
  | cons operation rest ih =>
      obtain ⟨lastButton, entered⟩ := enter_operation shown operation
      rw [List.flatMap_cons, enter_append, entered, Computed.pure_bind]
      exact ih rfl

/-- `=` computes with the last two operands alone. -/
theorem handleKey_equals (shown : state.display = operand.digits) (pending : state.hasOperator = true)
    (left : state.value1 = previous.word) :
    ((state.calculatorHandleKey 0x3D).outcome.map CalcState.display) =
      (intToStr (Int32.ofInt (evaluated state.operator previous.value operand.value))).outcome := by
  have noTrap : ¬ Traps state.operator previous.word operand.word := by
    rintro ⟨_, least, _⟩
    have bounds := (@Operand.value_bounds previous).1
    rw [← Operand.toInt_word, least] at bounds
    revert bounds
    decide
  have handled : state.calculatorHandleKey 0x3D = (do
      let value2 ← parseDisplay state.display
      let result ← evaluate state.operator state.value1 value2
      let display ← intToStr result
      pure { state with
        value2, result, display, hasOperator := false, newNumber := true, lastButton := 0x3D }) := if_pos pending
  rw [handled, shown, Operand.parse, Computed.pure_bind, left, evaluate_eq noTrap, Operand.toInt_word, Operand.toInt_word,
    Computed.outcome_bind]
  change Option.map _ ((intToStr _ >>= _).outcome) = _
  rw [Computed.outcome_bind]
  cases (intToStr (Int32.ofInt (evaluated state.operator previous.value operand.value))).outcome with
  | none => rfl
  | some display => rfl

theorem enter_display (expression : Expression) :
    (initial.enter expression.keys).outcome.map CalcState.display =
      (intToStr (Int32.ofInt (expression.last.apply expression.previous.value))).outcome := by
  obtain ⟨button, first⟩ := @enter_operand initial rfl expression.first
  obtain ⟨typed, middle, shown⟩ := @enter_operations
    { initial with display := expression.first.digits, newNumber := false, lastButton := button } _ rfl expression.middle
  obtain ⟨_, last⟩ := enter_operation shown expression.last
  have ends {after : CalcState} : after.enter [0x3D] = after.calculatorHandleKey 0x3D := by
    rw [enter_cons]
    exact bind_pure _
  rw [Expression.keys, enter_append, first, Computed.pure_bind, enter_append, middle, Computed.pure_bind, enter_append,
    last, Computed.pure_bind, ends]
  exact handleKey_equals rfl rfl rfl

theorem signedNumeral_inj {left right : Int} : signedNumeral left = signedNumeral right ↔ left = right := by
  refine ⟨fun same => ?_, congrArg signedNumeral⟩
  rw [← @signedValue_signedNumeral left, same, signedValue_signedNumeral]

/-- Every value but the least number can be shown. -/
theorem intToStr_shows {result : Int32} {value : Int} :
    (intToStr result).outcome = some (signedNumeral value) ↔ result.toInt = value ∧ value ≠ -2 ^ 31 := by
  by_cases least : result = Int32.minValue
  · rw [least, intToStr_least]
    refine iff_of_false (fun same => ?_) fun shows_ => shows_.2 shows_.1.symm
    have unsigned := congrArg unsignedPart (Option.some.inj same)
    rw [unsignedPart_signedNumeral] at unsigned
    exact numeral_ne_nil unsigned.symm
  · rw [intToStr_eq least]
    have notLeast : result.toInt ≠ -2 ^ 31 := fun same => least (Int32.toInt_inj.mp same)
    calc some (signedNumeral result.toInt) = some (signedNumeral value)
        ↔ result.toInt = value := Option.some_inj.trans signedNumeral_inj
      _ ↔ result.toInt = value ∧ value ≠ -2 ^ 31 := (and_iff_left_of_imp fun same => same ▸ notLeast).symm

/-- Typing an expression shows its value exactly when the last operation, on the operands around it alone, gives
that value up to wrapping, and the value is not the least number. -/
theorem displays_iff (expression : Expression) : expression.Displays ↔
    (expression.last.apply expression.previous.value).bmod (2 ^ 32) = expression.value ∧
      expression.value ≠ -2 ^ 31 := by
  rw [Expression.Displays, enter_display, intToStr_shows, Int32.toInt_ofInt]
  rfl

theorem apply_above {value : Int} (nonneg : 0 ≤ value) : -2 ^ 31 < operation.apply value := by
  obtain ⟨lower, upper⟩ := @Operand.value_bounds operation.operand
  have product := Int.mul_nonneg nonneg lower
  have quotient := Int.tdiv_nonneg nonneg lower
  rw [Operation.apply, evaluated]
  split
  · omega
  · split
    · omega
    · split
      · omega
      · split
        · omega
        · decide

/-- A single operation is always shown. -/
theorem displays_single {expression : Expression} (single : expression.middle = []) (regular : expression.Regular) :
    expression.Displays := by
  have isPrevious : expression.previous = expression.first := by
    rw [Expression.previous, single]
    rfl
  have isValue : expression.value = expression.last.apply expression.first.value := by
    rw [Expression.value, single]
    rfl
  rw [Expression.Regular, single] at regular
  have fits : Fits (expression.last.apply expression.first.value) := regular.2.1
  rw [Expression.Displays, enter_display, isPrevious, isValue, intToStr_shows]
  exact ⟨Int32.toInt_ofInt_of_le fits.1 fits.2, (Int.ne_of_lt (apply_above Operand.value_bounds.1)).symm⟩

/-- An operand of one digit. -/
def digit (char : UInt8) (decimal : isDigit char = true) : Operand where
  digits := [char]
  decimal := List.forall_mem_singleton.mpr decimal
  nonempty := List.cons_ne_nil _ _
  short := by
    rw [List.length_singleton]
    decide

/-- `1+2+3=` -/
def oneTwoThree : Expression where
  first := digit 0x31 rfl
  middle := [⟨0x2B, rfl, digit 0x32 rfl⟩]
  last := ⟨0x2B, rfl, digit 0x33 rfl⟩

/-- 1 + 2 + 3 = shows 5. -/
theorem not_displays_sum : ¬ ∀ expression : Expression, expression.Regular → expression.Displays := by
  intro displays
  have regular : oneTwoThree.Regular := ⟨by decide, by decide, by decide, by decide, trivial⟩
  have shown : (initial.enter oneTwoThree.keys).outcome.map CalcState.display = some [0x35] := by
    decide +kernel
  have same := shown.symm.trans (displays oneTwoThree regular)
  revert same
  decide +kernel

end AutismOS.Calculator
