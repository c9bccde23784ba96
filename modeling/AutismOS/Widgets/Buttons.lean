import AutismOS.Library.Run
import Mathlib.Data.List.Induction
import AutismOS.Widgets.Core

namespace AutismOS.Widgets

open AutismOS.Library AutismOS.Input

/-! # Buttons

The calls of a click handler are a log: a handler does not change the button that calls it.
-/

/-- `button_t`; `clicks` are the calls of its handler with their `click_data`. -/
structure Button where
  base : Widget
  text : Option (List UInt8)
  onClick : Option Nat
  clickData : Nat
  pressed : Bool
  clicks : List (Nat × Nat)

def buttonInit (text : Option (List UInt8)) : Button :=
  let base := widgetInit.widgetSetSize 80 24
  let width : UInt32 :=
    match text with
    | none => base.width
    | some text =>
        let textWidth := UInt32.ofNat text.length * 8 + 16
        if textWidth > base.width then textWidth else base.width
  { base := { base with width }, text, onClick := none, clickData := 0, pressed := false, clicks := [] }

namespace Button

variable (button : Button)

def buttonSetClickHandler (handler : Option Nat) (userData : Nat) : Button :=
  { button with onClick := handler, clickData := userData }

def withState (state : WidgetState) : Button := { button with base := button.base.withState state }

def click : Button :=
  match button.onClick with
  | none => button
  | some handler => { button with clicks := button.clicks ++ [(handler, button.clickData)] }

def buttonHandleEvent (event : InputEvent) : Button :=
  if !button.base.enabled then button
  else
    let inside := button.base.widgetContainsPoint (mouseX event) (mouseY event)
    match event.type with
    | .mouseMove =>
        if inside then
          if button.base.state ≠ .hovered ∧ !button.pressed then button.withState .hovered else button
        else if button.base.state = .hovered then button.withState .normal
        else button
    | .mousePress =>
        if event.mouse.buttonChanged = mouseButtonLeft ∧ inside then
          { button.withState .pressed with pressed := true }
        else button
    | .mouseRelease =>
        if event.mouse.buttonChanged = mouseButtonLeft then
          let button := if button.pressed && inside then button.click else button
          { button.withState (if inside then .hovered else .normal) with pressed := false }
        else button
    | _ => button

end Button

/-- What can happen to a button. -/
inductive ButtonAction where
  | input (event : InputEvent)
  | setEnabled (enabled : Bool)
  | setVisible (visible : Bool)

def buttonStep (button : Button) : ButtonAction → Button
  | .input event => widgetHandleEvent button.base button (button.buttonHandleEvent event)
  | .setEnabled enabled => { button with base := button.base.widgetSetEnabled enabled }
  | .setVisible visible => { button with base := button.base.widgetSetVisible visible }

def buttonRun (button : Button) (actions : List ButtonAction) : Button := actions.foldl buttonStep button

namespace ButtonAction

def isLeftPress : ButtonAction → Bool
  | .input event => event.type = .mousePress && event.mouse.buttonChanged = mouseButtonLeft
  | _ => false

def isLeftRelease : ButtonAction → Bool
  | .input event => event.type = .mouseRelease && event.mouse.buttonChanged = mouseButtonLeft
  | _ => false

/-- It happens at a point of the widget. -/
def hits (widget : Widget) : ButtonAction → Bool
  | .input event => widget.widgetContainsPoint (mouseX event) (mouseY event)
  | _ => false

/-- It disables the widget or hides it. -/
def suspends : ButtonAction → Bool
  | .input _ => false
  | .setEnabled enabled => !enabled
  | .setVisible visible => !visible

end ButtonAction

/-- A left press inside the button while it took events. -/
structure Pressed (button : Button) (action : ButtonAction) : Prop where
  left : action.isLeftPress = true
  inside : action.hits button.base = true
  enabled : button.base.enabled = true
  visible : button.base.visible = true

/-- The most recent left press was inside the button, which has not been suspended or clicked since. -/
structure Latched (start : Button) (before : List ButtonAction) (press : ButtonAction) (later : List ButtonAction) :
    Prop where
  began : Pressed (buttonRun start before) press
  latest : ∀ action ∈ later, action.isLeftPress = false
  awake : ∀ action ∈ later, action.suspends = false
  unused : (buttonRun start (before ++ press :: later)).clicks = (buttonRun start (before ++ [press])).clicks

/-- A click is that of a left release inside the button, for a press that no other click was for. -/
structure Deserved (start : Button) (history : List ButtonAction) (release : ButtonAction) : Prop where
  left : release.isLeftRelease = true
  inside : release.hits (buttonRun start history).base = true
  latched : ∃ before press later, history = before ++ press :: later ∧ Latched start before press later
  once : (buttonRun start (history ++ [release])).clicks.length = (buttonRun start history).clicks.length + 1

/-- Every call of the handler is deserved. -/
def ClickProtocol (start : Button) (actions : List ButtonAction) : Prop :=
  ∀ history release rest, actions = history ++ release :: rest →
    (buttonRun start (history ++ [release])).clicks ≠ (buttonRun start history).clicks → Deserved start history release

/-- While a press is latched the button is not suspended, and no left press goes beside it. -/
structure Steady (button : Button) (action : ButtonAction) : Prop where
  awake : button.pressed = true → action.suspends = false
  aimed : button.pressed = true → action.isLeftPress = true → action.hits button.base = true

variable {start button : Button} {action press : ButtonAction} {before later history : List ButtonAction} {event : InputEvent}

theorem buttonRun_concat : buttonRun start (history ++ [action]) = buttonStep (buttonRun start history) action := by
  rw [buttonRun, List.foldl_append]
  rfl

/-- What an action does to the latch and to the log. -/
inductive ButtonEffect (button : Button) (action : ButtonAction) (after : Button) : Prop where
  | pressed (press : Pressed button action) (latch : after.pressed = true) (quiet : after.clicks = button.clicks)
  | released (left : action.isLeftRelease = true) (latch : after.pressed = false)
      (clicked : after.clicks = button.clicks ∨ button.pressed = true ∧ action.hits button.base = true ∧
        after.clicks.length = button.clicks.length + 1)
  | other (beside : ¬ Pressed button action) (latch : after.pressed = button.pressed)
      (quiet : after.clicks = button.clicks)

theorem click_length : button.click.clicks = button.clicks ∨ button.click.clicks.length = button.clicks.length + 1 := by
  unfold Button.click
  split
  · exact Or.inl rfl
  · exact Or.inr List.length_append

theorem isLeftPress_input : ButtonAction.isLeftPress (.input event) = true ↔
    event.type = .mousePress ∧ event.mouse.buttonChanged = mouseButtonLeft := by
  simp [ButtonAction.isLeftPress]

theorem isLeftRelease_input : ButtonAction.isLeftRelease (.input event) = true ↔
    event.type = .mouseRelease ∧ event.mouse.buttonChanged = mouseButtonLeft := by
  simp [ButtonAction.isLeftRelease]

/-- Events other than presses and releases leave latch and log alone. -/
theorem buttonHandleEvent_other (press : event.type ≠ .mousePress) (release : event.type ≠ .mouseRelease) :
    (button.buttonHandleEvent event).pressed = button.pressed ∧ (button.buttonHandleEvent event).clicks = button.clicks := by
  simp only [Button.buttonHandleEvent]
  split
  · exact ⟨rfl, rfl⟩
  · split
    · split
      · split <;> exact ⟨rfl, rfl⟩
      · split <;> exact ⟨rfl, rfl⟩
    · contradiction
    · contradiction
    · exact ⟨rfl, rfl⟩

theorem buttonHandleEvent_effect (enabled : button.base.enabled = true) (visible : button.base.visible = true) :
    ButtonEffect button (.input event) (button.buttonHandleEvent event) := by
  have awake : ¬ (!button.base.enabled) = true := by simp [enabled]
  by_cases press : event.type = .mousePress
  · by_cases left : event.mouse.buttonChanged = mouseButtonLeft ∧
        button.base.widgetContainsPoint (mouseX event) (mouseY event) = true
    · refine .pressed ⟨isLeftPress_input.mpr ⟨press, left.1⟩, left.2, enabled, visible⟩ ?_ ?_ <;>
        simp [Button.buttonHandleEvent, awake, press, left, Button.withState]
    · have unchanged : button.buttonHandleEvent event = button := by
        simp [Button.buttonHandleEvent, press, left]
      rw [unchanged]
      refine .other ?_ rfl rfl
      intro pressed
      exact left ⟨(isLeftPress_input.mp pressed.left).2, pressed.inside⟩
  · have beside : ¬ Pressed button (.input event) := fun pressed => press (isLeftPress_input.mp pressed.left).1
    by_cases release : event.type = .mouseRelease
    · by_cases left : event.mouse.buttonChanged = mouseButtonLeft
      · refine .released (isLeftRelease_input.mpr ⟨release, left⟩) ?_ ?_
        · simp [Button.buttonHandleEvent, awake, release, left, Button.withState]
        · by_cases hit : button.pressed = true ∧ button.base.widgetContainsPoint (mouseX event) (mouseY event) = true
          · have clicked : (button.buttonHandleEvent event).clicks = button.click.clicks := by
              simp [Button.buttonHandleEvent, awake, release, left, hit, Button.withState]
            rw [clicked]
            exact click_length.imp_right fun longer => ⟨hit.1, hit.2, longer⟩
          · left
            simp [Button.buttonHandleEvent, awake, release, left, hit, Button.withState]
      · have unchanged : button.buttonHandleEvent event = button := by
          simp [Button.buttonHandleEvent, release, left]
        rw [unchanged]
        exact .other beside rfl rfl
    · obtain ⟨latch, quiet⟩ := buttonHandleEvent_other press release
      exact .other beside latch quiet

theorem buttonStep_effect : ButtonEffect button action (buttonStep button action) := by
  cases action with
  | input event =>
      rw [buttonStep, widgetHandleEvent]
      by_cases awake : button.base.enabled = true ∧ button.base.visible = true
      · simp only [awake, Bool.not_true, Bool.or_self]
        exact buttonHandleEvent_effect awake.1 awake.2
      · have asleep : (!button.base.enabled || !button.base.visible) = true := by
          rcases not_and_or.mp awake with disabled | hidden
          · simp [disabled]
          · simp [hidden]
        rw [if_pos asleep]
        exact .other (fun pressed => awake ⟨pressed.enabled, pressed.visible⟩) rfl rfl
  | setEnabled enabled => exact .other (fun pressed => by cases pressed.left) rfl rfl
  | setVisible visible => exact .other (fun pressed => by cases pressed.left) rfl rfl

theorem click_base : button.click.base = button.base := by
  unfold Button.click
  split <;> rfl

theorem buttonHandleEvent_awake : (button.buttonHandleEvent event).base.enabled = button.base.enabled ∧
    (button.buttonHandleEvent event).base.visible = button.base.visible := by
  simp only [Button.buttonHandleEvent]
  split
  · exact ⟨rfl, rfl⟩
  · split
    · split
      · split <;> exact ⟨rfl, rfl⟩
      · split <;> exact ⟨rfl, rfl⟩
    · split <;> exact ⟨rfl, rfl⟩
    · split
      · split <;> simp [Button.withState, Widget.withState, click_base]
      · exact ⟨rfl, rfl⟩
    · exact ⟨rfl, rfl⟩

/-- Only calls that suspend the button do so. -/
theorem buttonStep_awake (awake : action.suspends = false) (enabled : button.base.enabled = true)
    (visible : button.base.visible = true) :
    (buttonStep button action).base.enabled = true ∧ (buttonStep button action).base.visible = true := by
  cases action with
  | input event =>
      rw [buttonStep, widgetHandleEvent]
      split
      · exact ⟨enabled, visible⟩
      · rw [buttonHandleEvent_awake.1, buttonHandleEvent_awake.2]
        exact ⟨enabled, visible⟩
  | setEnabled value =>
      have isTrue : value = true := by simpa [ButtonAction.suspends] using awake
      exact ⟨isTrue, visible⟩
  | setVisible value =>
      have isTrue : value = true := by simpa [ButtonAction.suspends] using awake
      exact ⟨enabled, isTrue⟩

/-- What a latched press stands for. -/
structure Held (start : Button) (history : List ButtonAction) : Prop where
  latched : ∃ before press later, history = before ++ press :: later ∧ Latched start before press later
  enabled : (buttonRun start history).base.enabled = true
  visible : (buttonRun start history).base.visible = true

theorem Latched.concat (latched : Latched start before press later) (latest : action.isLeftPress = false)
    (awake : action.suspends = false)
    (quiet : (buttonRun start (before ++ press :: (later ++ [action]))).clicks =
      (buttonRun start (before ++ press :: later)).clicks) : Latched start before press (later ++ [action]) := by
  refine ⟨latched.began, ?_, ?_, quiet.trans latched.unused⟩
  · intro other member
    rcases List.mem_append.mp member with earlier | last
    · exact latched.latest other earlier
    · rwa [List.mem_singleton.mp last]
  · intro other member
    rcases List.mem_append.mp member with earlier | last
    · exact latched.awake other earlier
    · rwa [List.mem_singleton.mp last]

theorem Held.concat (held : Held start history) (latest : action.isLeftPress = false) (awake : action.suspends = false)
    (quiet : (buttonRun start (history ++ [action])).clicks = (buttonRun start history).clicks) :
    Held start (history ++ [action]) := by
  obtain ⟨before, press, later, rfl, latched⟩ := held.latched
  have longer : before ++ press :: later ++ [action] = before ++ press :: (later ++ [action]) := by simp
  obtain ⟨enabled, visible⟩ := buttonStep_awake awake held.enabled held.visible
  rw [longer] at quiet ⊢
  refine ⟨⟨before, press, later ++ [action], rfl, latched.concat latest awake quiet⟩, ?_, ?_⟩
  · rwa [← longer, buttonRun_concat]
  · rwa [← longer, buttonRun_concat]

theorem held_of_pressed (pressed : Pressed (buttonRun start history) action)
    (awake : action.suspends = false) : Held start (history ++ [action]) := by
  obtain ⟨enabled, visible⟩ := buttonStep_awake awake pressed.enabled pressed.visible
  refine ⟨⟨history, action, [], rfl, pressed, ?_, ?_, rfl⟩, ?_, ?_⟩
  · simp
  · simp
  · rwa [buttonRun_concat]
  · rwa [buttonRun_concat]

theorem suspends_of_isLeftPress (left : action.isLeftPress = true) : action.suspends = false := by
  cases action with
  | input event => rfl
  | setEnabled enabled => cases left
  | setVisible visible => cases left

/-- The latch is set only by a press that it stands for. -/
theorem held_of_latch (idle : start.pressed = false)
    (steady : ∀ front action back, history = front ++ action :: back → Steady (buttonRun start front) action)
    (latch : (buttonRun start history).pressed = true) : Held start history := by
  induction history using List.reverseRecOn with
  | nil => exact absurd (idle.symm.trans latch) Bool.false_ne_true
  | append_singleton history action ih =>
      have earlier : (buttonRun start history).pressed = true → Held start history := by
        refine ih fun front other back split => steady front other (back ++ [action]) ?_
        rw [split, List.append_assoc, List.cons_append]
      have guard := steady history action [] rfl
      have effect := @buttonStep_effect (buttonRun start history) action
      rw [← buttonRun_concat] at effect
      cases effect with
      | pressed press _ _ => exact held_of_pressed press (suspends_of_isLeftPress press.left)
      | released _ cleared _ => exact absurd (cleared.symm.trans latch) Bool.false_ne_true
      | other beside kept quiet =>
          have before : (buttonRun start history).pressed = true := kept.symm.trans latch
          have held := earlier before
          refine held.concat ?_ (guard.awake before) quiet
          refine Bool.eq_false_iff.mpr fun left => beside ⟨left, guard.aimed before left, held.enabled, held.visible⟩

theorem clickProtocol_of_steady {after : Button} {actions : List ButtonAction} (idle : start.pressed = false)
    (run : Restricted (fun button action => some (buttonStep button action)) Steady start actions after) :
    ClickProtocol start actions := by
  rintro history release rest rfl clicked
  have effect := @buttonStep_effect (buttonRun start history) release
  rw [← buttonRun_concat] at effect
  cases effect with
  | pressed _ _ quiet => exact absurd quiet clicked
  | other _ _ quiet => exact absurd quiet clicked
  | released left _ happened =>
      obtain ⟨latch, inside, once⟩ := happened.resolve_left clicked
      have held : Held start history := by
        refine held_of_latch idle ?_ latch
        rintro front action back rfl
        rw [List.append_assoc, List.cons_append] at run
        exact run.guarded_at
      exact ⟨left, inside, held.latched, once⟩

def someButton : Button := (buttonInit none).buttonSetClickHandler (some 1) 0

/-- A press or release of the left button at the origin. -/
def atOrigin (type : InputEventType) : ButtonAction :=
  .input { zeroEvent with type, mouse := { zeroEvent.mouse with buttonChanged := mouseButtonLeft } }

theorem clickProtocol_of_steady_once :
    ClickProtocol someButton [atOrigin .mousePress, atOrigin .mouseRelease] := by
  refine clickProtocol_of_steady rfl (.cons ⟨⟨?_, ?_⟩, rfl⟩ (.cons ⟨⟨?_, ?_⟩, rfl⟩ (.nil _)))
  · intro latched
    cases latched
  · intro latched
    cases latched
  · intro latched
    rfl
  · intro latched left
    cases left

/-- A button that is disabled and enabled again while it is pressed takes the release for a click. -/
theorem click_after_disabling :
    ¬ ∀ (button : Button) (actions : List ButtonAction), button.pressed = false → ClickProtocol button actions := by
  intro protocol
  have clicked := protocol someButton
    [atOrigin .mousePress, .setEnabled false, .setEnabled true, atOrigin .mouseRelease] rfl
    [atOrigin .mousePress, .setEnabled false, .setEnabled true] (atOrigin .mouseRelease) [] rfl (by decide)
  obtain ⟨before, press, later, split, latched⟩ := clicked.latched
  have awake : ButtonAction.setEnabled false ∉ later := fun member => by cases latched.awake _ member
  have left := latched.began.left
  rcases before with _ | ⟨first, _ | ⟨second, _ | ⟨third, more⟩⟩⟩
  · cases split
    exact awake List.mem_cons_self
  · cases split
    cases left
  · cases split
    cases left
  · simp at split

end AutismOS.Widgets
