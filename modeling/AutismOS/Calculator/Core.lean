import AutismOS.Library.Computed

namespace AutismOS.Calculator

open AutismOS.Library

/-! `apps/calculator.c`.

The display is the string in its array.  Arithmetic on operands is computed with a record of what
does not fit; the exception of a division ends the program.
-/

/-- `calc_state_t`, with the first character of `last_button` -/
structure CalcState where
  value1 : Int32
  value2 : Int32
  result : Int32
  display : List UInt8
  operator : UInt8
  hasOperator : Bool
  newNumber : Bool
  lastButton : UInt8
deriving DecidableEq

/-- What `get_calc_state` makes, and the key `C`. -/
def initial : CalcState where
  value1 := 0
  value2 := 0
  result := 0
  display := [0x30]
  operator := 0
  hasOperator := false
  newNumber := true
  lastButton := 0

/-- `g_calc_rows` -/
def calcRows : List (List UInt8) :=
  [[0x37, 0x38, 0x39, 0x2F], [0x34, 0x35, 0x36, 0x2A], [0x31, 0x32, 0x33, 0x2D], [0x43, 0x30, 0x3D, 0x2B]]

/-- The digits that the loop of `int_to_str` writes to `tmp`, as long as there is room. -/
def tmpDigits (num : Int32) : Nat → List UInt8
  | 0 => []
  | room + 1 => if 0 < num then (0x30 + num % 10).toInt8.toUInt8 :: tmpDigits (num / 10) room else []

def intToStr (num : Int32) : Computed (List UInt8) :=
  if num = 0 then pure [0x30]
  else do
    let magnitude ← if num < 0 then Computed.neg num else pure num
    pure ((if num < 0 then [0x2D] else []) ++ (tmpDigits magnitude 15).reverse)

/-- The loop of `parse_display`. -/
def parseFrom (value : Int32) : List UInt8 → Computed Int32
  | [] => pure value
  | char :: rest => do
      let shifted ← Computed.mul value 10
      let next ← Computed.add shifted (char.toInt8.toInt32 - 0x30)
      parseFrom next rest

def parseDisplay (display : List UInt8) : Computed Int32 :=
  if display.head? = some 0x2D then do
    let value ← parseFrom 0 display.tail
    Computed.mul value (-1)
  else do
    let value ← parseFrom 0 display
    Computed.mul value 1

/-- The `switch` over the operator. -/
def evaluate (operator : UInt8) (value1 value2 : Int32) : Computed Int32 :=
  if operator = 0x2B then Computed.add value1 value2
  else if operator = 0x2D then Computed.sub value1 value2
  else if operator = 0x2A then Computed.mul value1 value2
  else if operator = 0x2F then if value2 ≠ 0 then Computed.div value1 value2 else pure 0
  else pure 0

def isOperator (key : UInt8) : Bool := key = 0x2B || key = 0x2D || key = 0x2A || key = 0x2F

namespace CalcState

variable (state : CalcState)

def calculatorApplyInput (key : UInt8) : Computed CalcState :=
  if 0x30 ≤ key ∧ key ≤ 0x39 then
    if state.newNumber then pure { state with display := [key], newNumber := false }
    else if state.display.length < 10 then pure { state with display := state.display ++ [key] }
    else pure state
  else if isOperator key then do
    let value1 ← parseDisplay state.display
    pure { state with value1, operator := key, hasOperator := true, newNumber := true }
  else if key = 0x0A ∨ key = 0x3D then
    if state.hasOperator then do
      let value2 ← parseDisplay state.display
      let result ← evaluate state.operator state.value1 value2
      let display ← intToStr result
      pure { state with value2, result, display, hasOperator := false, newNumber := true }
    else pure state
  else if key = 0x63 ∨ key = 0x43 then pure initial
  else pure state

def calculatorHandleKey (key : UInt8) : Computed CalcState :=
  { state with lastButton := key }.calculatorApplyInput key

/-- The button of `calculator_handle_mouse` at a place in the window. -/
def buttonAt (localX localY : Int32) : Option UInt8 :=
  if localY < 44 ∨ localX < 6 then none
  else
    let gridX := localX - 6
    let gridY := localY - 44
    let col := gridX / 38
    let row := gridY / 22
    if col < 0 ∨ 4 ≤ col ∨ row < 0 ∨ 4 ≤ row then none
    else if 34 ≤ gridX % 38 then none
    else if 18 ≤ gridY % 22 then none
    else calcRows[row.toInt.toNat]?.bind fun labels => labels[col.toInt.toNat]?

def calculatorHandleMouse (localX localY : Int32) (buttons : UInt8) : Computed CalcState :=
  if buttons &&& 0x01 = 0 then pure state
  else
    match buttonAt localX localY with
    | none => pure state
    | some key => { state with lastButton := key }.calculatorApplyInput key

end CalcState

/-- What the user does to the window. -/
inductive Input where
  | key (key : UInt8)
  | mouse (localX localY : Int32) (buttons : UInt8)

def CalcState.handle (state : CalcState) : Input → Computed CalcState
  | .key key => state.calculatorHandleKey key
  | .mouse localX localY buttons => state.calculatorHandleMouse localX localY buttons

/-- Inputs one after another. -/
def CalcState.handleAll (state : CalcState) (inputs : List Input) : Computed CalcState := inputs.foldlM handle state

/-- A text that is typed. -/
def CalcState.enter (state : CalcState) (keys : List UInt8) : Computed CalcState := state.handleAll (keys.map .key)

end AutismOS.Calculator
