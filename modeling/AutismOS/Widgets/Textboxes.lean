import AutismOS.Library.TextBuffers
import AutismOS.Widgets.Core

namespace AutismOS.Widgets

open AutismOS.Library AutismOS.Input

/-! # Text boxes

There are two: the widget in `drivers/video/widget.c` and the older one in `drivers/video/ui.c`.  A text
that one is set to is not part of its own buffer.  Painting and the calls of handlers, which get the
buffer to read, are left out.
-/

def textboxMaxLen : Nat := 256

def keyBackspace : Nat := 0x0E
def keyEnter : Nat := 0x1C

/-- `memory` of `char` that a text stands in, up to its zero -/
def terminated (text : List UInt8) : List UInt8 := text ++ [0]

/-- `textbox_widget_t` -/
structure TextboxWidget where
  base : Widget
  buffer : CharArray textboxMaxLen
  cursorPos : Nat
  readonly : Bool

def textboxWidgetInit (tb : TextboxWidget) : Except Fault TextboxWidget := do
  let buffer ← tb.buffer.memset 0 textboxMaxLen
  return { base := widgetInit.widgetSetSize 120 20, buffer, cursorPos := 0, readonly := false }

namespace TextboxWidget

variable (tb : TextboxWidget)

def redraw : TextboxWidget := { tb with base := { tb.base with needsRedraw := true } }

def mousePress (event : InputEvent) : TextboxWidget :=
  if event.mouse.buttonChanged = mouseButtonLeft then
    if tb.base.widgetContainsPoint (mouseX event) (mouseY event) then { tb with base := tb.base.withState .focused }
    else { tb with base := tb.base.withState .normal }
  else tb

def keyPress (event : InputEvent) : Except Fault TextboxWidget := do
  let ch := event.key.character
  let tb ←
    if event.key.keycode = keyBackspace then
      if 0 < tb.cursorPos then do
        let buffer ← tb.buffer.store (tb.cursorPos - 1) 0
        pure { tb with buffer, cursorPos := tb.cursorPos - 1 }
      else pure tb
    else if event.key.keycode = keyEnter then pure tb
    else if 32 ≤ ch ∧ ch ≤ 126 then
      if tb.cursorPos < textboxMaxLen - 1 then do
        let buffer ← tb.buffer.store tb.cursorPos ch
        let buffer ← buffer.store (tb.cursorPos + 1) 0
        pure { tb with buffer, cursorPos := tb.cursorPos + 1 }
      else pure tb
    else pure tb
  return tb.redraw

def textboxWidgetHandleEvent (event : InputEvent) : Except Fault TextboxWidget :=
  if tb.readonly then .ok tb
  else if event.type = .mousePress then .ok (tb.mousePress event)
  else if event.type = .keyPress ∧ tb.base.state = .focused then tb.keyPress event
  else .ok tb

/-- `none` is the null pointer. -/
def textboxWidgetSetText : Option (List UInt8) → Except Fault TextboxWidget
  | none => .ok tb
  | some text => do
      let buffer ← tb.buffer.strncpy (terminated text) (textboxMaxLen - 1)
      let cursorPos ← buffer.strlen
      return { tb with buffer, cursorPos }.redraw

end TextboxWidget

inductive TextboxWidgetAction where
  | input (event : InputEvent)
  | setText (text : Option (List UInt8))
  | setReadonly (readonly : Bool)
  /-- A function for the base of all widgets -/
  | configure (base : Widget)

def textboxWidgetStep (tb : TextboxWidget) : TextboxWidgetAction → Except Fault TextboxWidget
  | .input event => widgetHandleEvent tb.base (.ok tb) (tb.textboxWidgetHandleEvent event)
  | .setText text => tb.textboxWidgetSetText text
  | .setReadonly readonly => .ok { tb with readonly }.redraw
  | .configure base => .ok { tb with base }

/-- `textbox_t` -/
structure Textbox where
  buffer : CharArray textboxMaxLen
  cursorPos : Nat
  focused : Bool

def textboxInit (box : Textbox) : Except Fault Textbox := do
  let buffer ← box.buffer.memset 0 textboxMaxLen
  return { buffer, cursorPos := 0, focused := false }

namespace Textbox

variable (box : Textbox)

def textboxHandleChar (ch : UInt8) : Except Fault Textbox :=
  if !box.focused then .ok box
  else if ch < 32 ∨ ch > 126 then .ok box
  else if box.cursorPos ≥ textboxMaxLen - 1 then .ok box
  else do
    let buffer ← box.buffer.store box.cursorPos ch
    let buffer ← buffer.store (box.cursorPos + 1) 0
    return { box with buffer, cursorPos := box.cursorPos + 1 }

def textboxHandleBackspace : Except Fault Textbox :=
  if !box.focused then .ok box
  else if box.cursorPos > 0 then do
    let buffer ← box.buffer.store (box.cursorPos - 1) 0
    return { box with buffer, cursorPos := box.cursorPos - 1 }
  else .ok box

def textboxClear : Except Fault Textbox := do
  let buffer ← box.buffer.memset 0 textboxMaxLen
  return { box with buffer, cursorPos := 0 }

def textboxSetText : Option (List UInt8) → Except Fault Textbox
  | none => .ok box
  | some text => do
      let buffer ← box.buffer.memset 0 textboxMaxLen
      let (buffer, cursorPos) ← buffer.copyText 0 (textboxMaxLen - 1) (terminated text)
      let buffer ← buffer.store cursorPos 0
      return { box with buffer, cursorPos }

end Textbox

inductive TextboxAction where
  | handleChar (ch : UInt8)
  | handleBackspace
  | clear
  | setText (text : Option (List UInt8))
  | focus (focused : Bool)

def textboxStep (box : Textbox) : TextboxAction → Except Fault Textbox
  | .handleChar ch => box.textboxHandleChar ch
  | .handleBackspace => box.textboxHandleBackspace
  | .clear => box.textboxClear
  | .setText text => box.textboxSetText text
  | .focus focused => .ok { box with focused }

def TextboxWidget.Settled (tb : TextboxWidget) : Prop := tb.buffer.Settled tb.cursorPos

def Textbox.Settled (box : Textbox) : Prop := box.buffer.Settled box.cursorPos

variable {tb : TextboxWidget} {box : Textbox} {event : InputEvent} {ch : UInt8} {text : Option (List UInt8)}

theorem zero_mem_terminated {text : List UInt8} : 0 ∈ terminated text := List.mem_append_right _ List.mem_cons_self

theorem char_nonzero (printable : 32 ≤ ch) : ch ≠ 0 := by
  rintro rfl
  exact absurd printable (by decide)

theorem keyPress_settled (settled : tb.Settled) : Ends TextboxWidget.Settled (tb.keyPress event) := by
  unfold TextboxWidget.keyPress
  by_cases backspace : event.key.keycode = keyBackspace
  · simp only [if_pos backspace]
    by_cases positive : 0 < tb.cursorPos
    · have last : tb.buffer.Settled (tb.cursorPos - 1 + 1) := by
        rwa [Nat.sub_add_cancel positive]
      obtain ⟨next, stored, done⟩ := last.erase
      simp only [if_pos positive, stored]
      exact ⟨_, rfl, done⟩
    · simp only [if_neg positive]
      exact ⟨_, rfl, settled⟩
  · simp only [if_neg backspace]
    by_cases enter : event.key.keycode = keyEnter
    · simp only [if_pos enter]
      exact ⟨_, rfl, settled⟩
    · simp only [if_neg enter]
      by_cases printable : 32 ≤ event.key.character ∧ event.key.character ≤ 126
      · simp only [if_pos printable]
        by_cases room : tb.cursorPos < textboxMaxLen - 1
        · obtain ⟨next, last, stored, ended, done⟩ :=
            CharArray.Settled.type settled (char_nonzero printable.1) (Nat.add_lt_of_lt_sub room)
          simp only [if_pos room, stored, ended, bind, Except.bind]
          exact ⟨_, rfl, done⟩
        · simp only [if_neg room]
          exact ⟨_, rfl, settled⟩
      · simp only [if_neg printable]
        exact ⟨_, rfl, settled⟩

theorem textboxWidgetStep_settled {action : TextboxWidgetAction} (settled : tb.Settled) :
    Ends TextboxWidget.Settled (textboxWidgetStep tb action) := by
  cases action with
  | input event =>
      rw [textboxWidgetStep, widgetHandleEvent, TextboxWidget.textboxWidgetHandleEvent]
      split
      · exact ⟨_, rfl, settled⟩
      · split
        · exact ⟨_, rfl, settled⟩
        · split
          · refine ⟨_, rfl, ?_⟩
            unfold TextboxWidget.mousePress
            split
            · split <;> exact settled
            · exact settled
          · split
            · exact keyPress_settled settled
            · exact ⟨_, rfl, settled⟩
  | setText text =>
      cases text with
      | none => exact ⟨_, rfl, settled⟩
      | some text =>
          obtain ⟨next, length, copied, measured, done⟩ :=
            CharArray.Settled.strncpy settled (@zero_mem_terminated text)
          simp only [textboxWidgetStep, TextboxWidget.textboxWidgetSetText, copied, measured, bind, Except.bind]
          exact ⟨_, rfl, done⟩
  | setReadonly readonly => exact ⟨_, rfl, settled⟩
  | configure base => exact ⟨_, rfl, settled⟩

theorem textboxWidgetInit_settled : Ends TextboxWidget.Settled (textboxWidgetInit tb) := by
  obtain ⟨next, cleared, blank⟩ := tb.buffer.memset_blank
  simp only [textboxWidgetInit, cleared, bind, Except.bind]
  exact ⟨_, rfl, blank.settled (by decide)⟩

theorem textboxStep_settled {action : TextboxAction} (settled : box.Settled) :
    Ends Textbox.Settled (textboxStep box action) := by
  cases action with
  | handleChar ch =>
      rw [textboxStep, Textbox.textboxHandleChar]
      split
      · exact ⟨_, rfl, settled⟩
      · split
        · exact ⟨_, rfl, settled⟩
        · rename_i printable
          split
          · exact ⟨_, rfl, settled⟩
          · rename_i room
            have nonzero : ch ≠ 0 := char_nonzero (UInt8.not_lt.mp (not_or.mp printable).1)
            obtain ⟨next, last, stored, ended, done⟩ :=
              CharArray.Settled.type settled nonzero (Nat.add_lt_of_lt_sub (Nat.lt_of_not_le room))
            simp only [stored, ended, bind, Except.bind]
            exact ⟨_, rfl, done⟩
  | handleBackspace =>
      rw [textboxStep, Textbox.textboxHandleBackspace]
      split
      · exact ⟨_, rfl, settled⟩
      · split
        · rename_i positive
          have last : box.buffer.Settled (box.cursorPos - 1 + 1) := by
            rwa [Nat.sub_add_cancel positive]
          obtain ⟨next, stored, done⟩ := last.erase
          simp only [stored, bind, Except.bind]
          exact ⟨_, rfl, done⟩
        · exact ⟨_, rfl, settled⟩
  | clear =>
      obtain ⟨next, cleared, blank⟩ := box.buffer.memset_blank
      simp only [textboxStep, Textbox.textboxClear, cleared, bind, Except.bind]
      exact ⟨_, rfl, blank.settled (by decide)⟩
  | setText text =>
      cases text with
      | none => exact ⟨_, rfl, settled⟩
      | some text =>
          obtain ⟨cleared, clears, blank⟩ := box.buffer.memset_blank
          have room : textboxMaxLen - 1 < textboxMaxLen := by decide
          obtain ⟨next, copied, copies, blank', short⟩ :=
            CharArray.copyText_blank room blank (Nat.zero_le _) (@zero_mem_terminated text)
          rw [List.length_nil] at copies
          obtain ⟨last, closed, done⟩ := blank'.close (Nat.lt_of_le_of_lt short room)
          simp only [textboxStep, Textbox.textboxSetText, clears, copies, closed, bind, Except.bind]
          exact ⟨_, rfl, done⟩
  | focus focused => exact ⟨_, rfl, settled⟩

theorem textboxInit_settled : Ends Textbox.Settled (textboxInit box) := by
  obtain ⟨next, cleared, blank⟩ := box.buffer.memset_blank
  simp only [textboxInit, cleared, bind, Except.bind]
  exact ⟨_, rfl, blank.settled (by decide)⟩

/-- Both text boxes, from initialization on: no store goes outside the buffer, and the cursor is at the end of
the string in it. -/
theorem textboxes_wellFormed :
    (∀ (tb : TextboxWidget) (actions : List TextboxWidgetAction),
      Ends (fun tb => tb.cursorPos ≤ 255 ∧ tb.cursorPos = (cString tb.buffer.bytes).length)
        (textboxWidgetInit tb >>= fun tb => actions.foldlM textboxWidgetStep tb)) ∧
    ∀ (box : Textbox) (actions : List TextboxAction),
      Ends (fun box => box.cursorPos ≤ 255 ∧ box.cursorPos = (cString box.buffer.bytes).length)
        (textboxInit box >>= fun box => actions.foldlM textboxStep box) := by
  constructor
  · intro tb actions
    obtain ⟨last, performed, settled⟩ := Ends.foldlM (fun _ _ => textboxWidgetStep_settled) actions
      (@textboxWidgetInit_settled tb)
    exact ⟨last, performed, Nat.le_of_lt_succ (CharArray.Settled.cursor_lt settled), settled.cursor⟩
  · intro box actions
    obtain ⟨last, performed, settled⟩ := Ends.foldlM (fun _ _ => textboxStep_settled) actions (@textboxInit_settled box)
    exact ⟨last, performed, Nat.le_of_lt_succ (CharArray.Settled.cursor_lt settled), settled.cursor⟩

end AutismOS.Widgets
