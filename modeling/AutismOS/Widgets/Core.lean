import AutismOS.Input.Core

namespace AutismOS.Widgets

open AutismOS.Input

/-! The base of all widgets in `drivers/video/widget.c`.

Colours, the parent and its children are left out: no handler of events reads them.
Flags of type `uint8` are Booleans.
-/

def mouseButtonLeft : Nat := 1

/-- `widget_state_t` -/
inductive WidgetState where
  | normal
  | hovered
  | pressed
  | focused
  | disabled
deriving DecidableEq

/-- `widget_t` -/
structure Widget where
  x : Int32
  y : Int32
  width : UInt32
  height : UInt32
  state : WidgetState
  visible : Bool
  enabled : Bool
  needsRedraw : Bool
deriving DecidableEq

def widgetInit : Widget :=
  { x := 0, y := 0, width := 0, height := 0, state := .normal, visible := true, enabled := true, needsRedraw := true }

namespace Widget

variable (widget : Widget)

def widgetSetPosition (x y : Int32) : Widget := { widget with x, y, needsRedraw := true }

def widgetSetSize (width height : UInt32) : Widget := { widget with width, height, needsRedraw := true }

def widgetSetVisible (visible : Bool) : Widget := { widget with visible, needsRedraw := true }

def widgetSetEnabled (enabled : Bool) : Widget :=
  { widget with enabled, state := if enabled then .normal else .disabled, needsRedraw := true }

/-- The state that an event leaves, with the request to be drawn again. -/
def withState (state : WidgetState) : Widget := { widget with state, needsRedraw := true }

/-- `(sint32)(x + width)`, and the same for the height: the sum is unsigned. -/
def farEdge (start : Int32) (extent : UInt32) : Int32 := (start.toUInt32 + extent).toInt32

def widgetContainsPoint (x y : Int32) : Bool :=
  widget.x ≤ x && x < farEdge widget.x widget.width && widget.y ≤ y && y < farEdge widget.y widget.height

end Widget

/-- `widget_handle_event`: what the handler of the class makes of the control, or the control as it is. -/
def widgetHandleEvent {result : Type} (widget : Widget) (ignored handled : result) : result :=
  if !widget.enabled || !widget.visible then ignored else handled

/-- The place of a mouse event. -/
def mouseX (event : InputEvent) : Int32 := Int32.ofInt event.mouse.x
def mouseY (event : InputEvent) : Int32 := Int32.ofInt event.mouse.y

end AutismOS.Widgets
