import AutismOS.Input.MouseDriver
import AutismOS.Input.Typewriter
import AutismOS.Notepad.Core
import AutismOS.Windows.Interface

namespace AutismOS.System

open AutismOS.Input AutismOS.Windows

/-! # The running system

What `kmain` leaves when it enables interrupts: the two drivers, the input manager, the desktop as its only
listener, and the notepads.  The handlers of keyboard and mouse run one after another, with
interrupts disabled, and `desktop_draw` in the main loop is one step.  The timer interrupt goes to
`task_scheduler_tick`, so that nothing advances `tick_count`.
-/

/-- `desktop_input_handler`, as a listener -/
def desktopCallback : Nat := 1

structure Machine where
  keyboard : Keyboard
  mouse : MouseDriver
  manager : InputManager
  desktop : Desktop
  notepads : Nat → Notepad.NotepadState

/-- What happens: a byte from the keyboard or from the mouse, or a round of the main loop. -/
inductive Happening where
  | keyboard (scancode : UInt8)
  | mouse (data : UInt8)
  | redraw

/-- A call of the handler of a window acts on the state that the window has. -/
def callNotepad (desktop : Desktop) (notepads : Nat → Notepad.NotepadState) : HandlerCall → Nat → Notepad.NotepadState
  | .mouse _ _ _ _ => notepads
  | .key id key =>
      match (desktop.findWindowById id).bind fun index => desktop.windows[index]?.bind (·.appData) with
      | some (.notepad, number) => Function.update notepads number ((notepads number).notepadHandleKey key)
      | _ => notepads

namespace Machine

variable (machine : Machine)

/-- The desktop changes, and the notepads with the calls of their handlers. -/
def enter (desktop : Desktop) : Machine :=
  { machine with
    desktop
    notepads := (desktop.handlerCalls.drop machine.desktop.handlerCalls.length).foldl (callNotepad desktop)
      machine.notepads }

/-- What `keyboard_handler` calls.  A hotkey only draws.  No result says that the machine was halted. -/
def callKey : Option KeyCall → Option Machine
  | some (.desktopHandleKey key) => (machine.desktop.desktopHandleKey key).map machine.enter
  | some (.uxHandleHotkey _) => some machine
  | none => some machine

def keyboardInterrupt (scancode : UInt8) : Option Machine :=
  let (keyboard, call) := machine.keyboard.keyboardHandler machine.desktop.desktopMode scancode
  { machine with keyboard }.callKey call

/-- `input_post_mouse_button` or `input_post_mouse_move`, at the tick that never comes -/
def posting : MousePost → InputManager.Posting
  | .button button pressed => .mouseButton 0 button.toNat pressed
  | .move dx dy => .mouseMove 0 dx dy

/-- Where the desktop is called as a listener, it handles the event. -/
def callListener (machine : Machine) (call : Nat × Nat × InputEvent) : Option Machine :=
  if call.1 = desktopCallback then (machine.desktop.desktopInputHandler call.2.2).map machine.enter else some machine

def post (machine : Machine) (mousePost : MousePost) : Option Machine :=
  let manager := machine.manager.post (posting mousePost)
  (manager.calls.drop machine.manager.calls.length).foldlM callListener { machine with manager }

/-- `mouse_handler` and what it calls -/
def mouseInterrupt (data : UInt8) : Option Machine :=
  let mouse := machine.mouse.mouseHandler data
  (mouse.posted.drop machine.mouse.posted.length).foldlM post { machine with mouse }

def perform (machine : Machine) : Happening → Option Machine
  | .keyboard scancode => machine.keyboardInterrupt scancode
  | .mouse data => machine.mouseInterrupt data
  | .redraw =>
      some { machine with desktop := machine.desktop.desktopDraw machine.manager.mouse.x machine.manager.mouse.y }

/-- The listener of the desktop is added once the manager is there; `mouse_smooth_init` has set the sensitivity. -/
def bootManager : InputManager :=
  ((inputManagerInit.inputSetMouseSensitivity 5).inputAddListener (some [100, 101, 115, 107, 116, 111, 112])
    desktopCallback 0 10).2

def bootMouse : MouseDriver :=
  MouseDriver.mouseInit
    { packet := fun _ => 0, packetIndex := 0, initialized := false, prevButtons := mouseButtonNone, posted := [] }

/-- What `kmain` has when it enables interrupts -/
def kmain : Machine where
  keyboard := .powerOn
  mouse := bootMouse
  manager := bootManager
  desktop := (desktopInit bootManager.mouse.x bootManager.mouse.y).desktopActivate.notepadCreate
  notepads := fun _ => Notepad.fresh

end Machine

/-- What came from the keyboard -/
def keyboardBytes (happenings : List Happening) : List UInt8 :=
  happenings.filterMap fun happening =>
    match happening with
    | .keyboard scancode => some scancode
    | _ => none

end AutismOS.System
