import Mathlib.Algebra.Group.Nat.Defs
import Mathlib.Logic.Function.Basic

namespace AutismOS.Input

/-! `input_manager.c`: the queue of events, the listeners, and the state of mouse and keyboard.

Numbers of type `sint32` are integers that wrap around.  Calls of listeners are a log: none of them
calls back into the input manager.
-/

def screenWidth : Int := 320
def screenHeight : Int := 200
def inputQueueSize : Nat := 64
def inputListenerNameLen : Nat := 16
def maxListeners : Nat := 8
def keyCtrl : Nat := 0x1D
def keyShift : Nat := 0x2A
def keyAlt : Nat := 0x38
def keyCapslock : Nat := 0x3A

/-- The result of `sint32` arithmetic. -/
def wrap (value : Int) : Int := value.bmod (2 ^ 32)

/-- `input_event_type_t` -/
inductive InputEventType where
  | none
  | keyPress
  | keyRelease
  | keyChar
  | mouseMove
  | mousePress
  | mouseRelease
  | mouseWheel
  | touchBegin
  | touchMove
  | touchEnd
deriving DecidableEq

structure KeyData where
  keycode : Nat
  character : UInt8
  shift : Bool
  ctrl : Bool
  alt : Bool
  capslock : Bool
deriving DecidableEq

structure MouseData where
  x : Int
  y : Int
  dx : Int
  dy : Int
  buttons : Nat
  buttonChanged : Nat
  wheelDelta : Int
deriving DecidableEq

/-- `input_event_t`, with both views of its union -/
structure InputEvent where
  type : InputEventType
  timestamp : Nat
  key : KeyData
  mouse : MouseData
deriving DecidableEq

/-- `input_listener_t`; the name ends before its NUL. -/
structure InputListener where
  name : List UInt8
  callback : Nat
  userData : Nat
  active : Bool
  priority : Nat
deriving DecidableEq

/-- `input_queue_t` -/
structure InputQueue where
  events : Nat → InputEvent
  head : Nat
  tail : Nat
  count : Nat

/-- `input_modifiers_t` -/
structure InputModifiers where
  shift : Bool
  ctrl : Bool
  alt : Bool
  capslock : Bool
deriving DecidableEq

/-- `mouse_state_t` -/
structure MouseState where
  x : Int
  y : Int
  buttons : Nat
  confined : Bool
  confineX : Int
  confineY : Int
  confineW : Int
  confineH : Int
deriving DecidableEq

/-- `input_manager_t`, with the calls of listeners: the callback, its user data and the event. -/
structure InputManager where
  queue : InputQueue
  listeners : List InputListener
  mouse : MouseState
  modifiers : InputModifiers
  mouseSensitivity : Nat
  calls : List (Nat × Nat × InputEvent)

def zeroEvent : InputEvent :=
  { type := .none, timestamp := 0
    key := { keycode := 0, character := 0, shift := false, ctrl := false, alt := false, capslock := false }
    mouse := { x := 0, y := 0, dx := 0, dy := 0, buttons := 0, buttonChanged := 0, wheelDelta := 0 } }

def inputManagerInit : InputManager :=
  { queue := { events := fun _ => zeroEvent, head := 0, tail := 0, count := 0 }
    listeners := []
    mouse :=
      { x := screenWidth / 2, y := screenHeight / 2, buttons := 0, confined := false, confineX := 0, confineY := 0,
        confineW := 0, confineH := 0 }
    modifiers := { shift := false, ctrl := false, alt := false, capslock := false }
    mouseSensitivity := 3
    calls := [] }

namespace MouseState

variable (mouse : MouseState)

def minX : Int := if mouse.confined then mouse.confineX else 0
def minY : Int := if mouse.confined then mouse.confineY else 0

def maxX : Int :=
  if mouse.confined then wrap (wrap (mouse.confineX + mouse.confineW) - 10) else screenWidth - 10

def maxY : Int :=
  if mouse.confined then wrap (wrap (mouse.confineY + mouse.confineH) - 16) else screenHeight - 16

/-- `clamp_mouse_position`; the lower bounds come first. -/
def clampMousePosition : MouseState :=
  let x := if mouse.x < mouse.minX then mouse.minX else mouse.x
  let y := if mouse.y < mouse.minY then mouse.minY else mouse.y
  { mouse with
    x := if mouse.maxX < x then mouse.maxX else x
    y := if mouse.maxY < y then mouse.maxY else y }

end MouseState

namespace InputManager

variable (manager : InputManager)

/-- A movement, scaled by the sensitivity. -/
def scaled (delta : Int) : Int :=
  if manager.mouseSensitivity ≠ 5 then (wrap (delta * manager.mouseSensitivity)).tdiv 5 else delta

def moveMouse (event : InputEvent) : MouseState :=
  let moved := { manager.mouse with
    x := wrap (manager.mouse.x + manager.scaled event.mouse.dx)
    y := wrap (manager.mouse.y - manager.scaled event.mouse.dy) }
  { moved.clampMousePosition with buttons := event.mouse.buttons }

/-- The state of a modifier key after it was pressed or released. -/
def setModifier (event : InputEvent) : InputModifiers :=
  let pressed := decide (event.type = .keyPress)
  if event.key.keycode = keyShift then { manager.modifiers with shift := pressed }
  else if event.key.keycode = keyCtrl then { manager.modifiers with ctrl := pressed }
  else if event.key.keycode = keyAlt then { manager.modifiers with alt := pressed }
  else if event.key.keycode = keyCapslock then
    if pressed then { manager.modifiers with capslock := !manager.modifiers.capslock } else manager.modifiers
  else manager.modifiers

/-- The state of mouse and modifiers follows an event. -/
def updateState (event : InputEvent) : InputManager :=
  match event.type with
  | .mouseMove => { manager with mouse := manager.moveMouse event }
  | .mousePress | .mouseRelease => { manager with mouse := { manager.mouse with buttons := event.mouse.buttons } }
  | .keyPress | .keyRelease => { manager with modifiers := manager.setModifier event }
  | _ => manager

def enqueue (event : InputEvent) : InputManager :=
  { manager with
    queue := { manager.queue with
      events := Function.update manager.queue.events manager.queue.tail event
      tail := (manager.queue.tail + 1) % inputQueueSize
      count := manager.queue.count + 1 } }

def notifyListeners (event : InputEvent) : InputManager :=
  { manager with
    calls := manager.calls ++
      (manager.listeners.filter fun listener => listener.active && listener.callback ≠ 0).map fun listener =>
        (listener.callback, listener.userData, event) }

/-- `none` is the null pointer. -/
def inputPostEvent : Option InputEvent → InputManager
  | none => manager
  | some event =>
      if inputQueueSize ≤ manager.queue.count then manager
      else ((manager.enqueue event).updateState event).notifyListeners event

/-- The event, where there is one. -/
def inputPollEvent : Option InputEvent × InputManager :=
  if manager.queue.count = 0 then (none, manager)
  else
    (some (manager.queue.events manager.queue.head),
      { manager with
        queue := { manager.queue with
          head := (manager.queue.head + 1) % inputQueueSize, count := manager.queue.count - 1 } })

def inputFlushEvents : InputManager :=
  { manager with queue := { manager.queue with head := 0, tail := 0, count := 0 } }

/-- `strncmp(stored, name, INPUT_LISTENER_NAME_LEN) == 0` -/
def sameName (stored name : List UInt8) : Bool :=
  (stored ++ [0]).take inputListenerNameLen = (name ++ [0]).take inputListenerNameLen

/-- Returns the place in the table, or -1.  `none` is the null pointer. -/
def inputAddListener (name : Option (List UInt8)) (callback userData priority : Nat) : Int × InputManager :=
  if maxListeners ≤ manager.listeners.length then (-1, manager)
  else
    match name with
    | none => (-1, manager)
    | some name =>
        if callback = 0 then (-1, manager)
        else
          let insertAt := manager.listeners.findIdx fun listener => listener.priority < priority
          let listener : InputListener :=
            { name := name.take (inputListenerNameLen - 1), callback, userData, active := true, priority }
          (insertAt, { manager with listeners := manager.listeners.insertIdx insertAt listener })

def inputRemoveListener : Option (List UInt8) → InputManager
  | none => manager
  | some name =>
      { manager with
        listeners := manager.listeners.eraseIdx (manager.listeners.findIdx fun listener => sameName listener.name name) }

def inputSetMousePosition (x y : Int) : InputManager :=
  { manager with mouse := { manager.mouse with x, y }.clampMousePosition }

def inputConfineMouse (x y w h : Int) : InputManager :=
  { manager with
    mouse := { manager.mouse with confined := true, confineX := x, confineY := y, confineW := w, confineH := h }.clampMousePosition }

def inputUnconfineMouse : InputManager := { manager with mouse := { manager.mouse with confined := false } }

def inputSetMouseSensitivity (level : Nat) : InputManager :=
  if 1 ≤ level ∧ level ≤ 10 then { manager with mouseSensitivity := level } else manager

end InputManager

end AutismOS.Input
