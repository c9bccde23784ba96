import AutismOS.Library.Run
import AutismOS.Input.Core

namespace AutismOS.Input

open AutismOS.Library

/-! The position of the pointer. -/

/-- A coordinate between two borders; where they are the wrong way round, the upper one counts. -/
def clamped (least greatest target : Int) : Int :=
  let raised := if target < least then least else target
  if greatest < raised then greatest else raised

/-- A coordinate on its way to `target` stays where it is: there already, or at the border that is in the way. -/
def Rests (least greatest position target : Int) : Prop :=
  (target = position ∧ least ≤ position ∧ position ≤ greatest) ∨
    (target < least ∧ least ≤ greatest ∧ position = least) ∨
      ((greatest < target ∨ greatest < least) ∧ position = greatest)

theorem clamped_eq_iff {least greatest position target : Int} :
    clamped least greatest target = position ↔ Rests least greatest position target := by
  unfold clamped Rests
  by_cases below : target < least
  · rw [if_pos below]
    dsimp only
    split
    · omega
    · omega
  · rw [if_neg below]
    dsimp only
    split
    · omega
    · omega

namespace InputManager

variable (manager : InputManager)

def mouseMoveEvent (tickCount : Nat) (dx dy : Int) : InputEvent :=
  { zeroEvent with
    type := .mouseMove
    timestamp := tickCount
    mouse := { zeroEvent.mouse with
      x := manager.mouse.x, y := manager.mouse.y, dx, dy, buttons := manager.mouse.buttons } }

def mouseButtonEvent (tickCount button : Nat) (pressed : Bool) : InputEvent :=
  { zeroEvent with
    type := if pressed then .mousePress else .mouseRelease
    timestamp := tickCount
    mouse := { zeroEvent.mouse with
      x := manager.mouse.x
      y := manager.mouse.y
      buttons :=
        if pressed then manager.mouse.buttons ||| button else manager.mouse.buttons &&& (2 ^ 32 - 1 - button % 2 ^ 32)
      buttonChanged := button } }

/-- `input_post_mouse_move`, at `tick_count` -/
def inputPostMouseMove (tickCount : Nat) (dx dy : Int) : InputManager :=
  manager.inputPostEvent (some (manager.mouseMoveEvent tickCount dx dy))

/-- `input_post_mouse_button`, at `tick_count` -/
def inputPostMouseButton (tickCount button : Nat) (pressed : Bool) : InputManager :=
  manager.inputPostEvent (some (manager.mouseButtonEvent tickCount button pressed))

/-- What the mouse driver posts, and what takes events off the queue. -/
inductive Posting where
  | mouseMove (tickCount : Nat) (dx dy : Int)
  | mouseButton (tickCount button : Nat) (pressed : Bool)
  | pollEvent
  | flushEvents

def post : Posting → InputManager
  | .mouseMove tickCount dx dy => manager.inputPostMouseMove tickCount dx dy
  | .mouseButton tickCount button pressed => manager.inputPostMouseButton tickCount button pressed
  | .pollEvent => manager.inputPollEvent.2
  | .flushEvents => manager.inputFlushEvents

def step (posting : Posting) : Option InputManager := some (manager.post posting)

/-- The event says where the pointer is. -/
def Shows (event : InputEvent) : Prop := event.mouse.x = manager.mouse.x ∧ event.mouse.y = manager.mouse.y

/-- Every event that listeners were called with says where the pointer then is. -/
def Carries (before : InputManager) (_ : Posting) (after : InputManager) : Prop :=
  ∀ call ∈ after.calls.drop before.calls.length, after.Shows call.2.2

/-- The position where the pointer would go. -/
def targetX (dx : Int) : Int := wrap (manager.mouse.x + manager.scaled dx)
def targetY (dy : Int) : Int := wrap (manager.mouse.y - manager.scaled dy)

/-- The pointer stays where it is. -/
def Stays (dx dy : Int) : Prop :=
  Rests manager.mouse.minX manager.mouse.maxX manager.mouse.x (manager.targetX dx) ∧
    Rests manager.mouse.minY manager.mouse.maxY manager.mouse.y (manager.targetY dy)

/-- No listener is called. -/
def Silent : Prop := ∀ listener ∈ manager.listeners, (listener.active && listener.callback ≠ 0) = false

/-- The event of a move is dropped, or nobody gets it, or the pointer stays where it is. -/
def Harmless (manager : InputManager) : Posting → Prop
  | .mouseMove _ dx dy => inputQueueSize ≤ manager.queue.count ∨ manager.Silent ∨ manager.Stays dx dy
  | _ => True

variable {manager before after : InputManager} {event : InputEvent} {posting : Posting} {postings : List Posting}
  {tickCount button : Nat} {dx dy : Int} {pressed : Bool}

/-- The calls of an event in the order of the listeners. -/
def called (manager : InputManager) (event : InputEvent) : List (Nat × Nat × InputEvent) :=
  (manager.listeners.filter fun listener => listener.active && listener.callback ≠ 0).map fun listener =>
    (listener.callback, listener.userData, event)

theorem mem_called {call : Nat × Nat × InputEvent} (member : call ∈ manager.called event) : call.2.2 = event := by
  obtain ⟨listener, _, rfl⟩ := List.mem_map.mp member
  rfl

theorem called_eq_nil_iff : manager.called event = [] ↔ manager.Silent := by
  rw [called, List.map_eq_nil_iff, List.filter_eq_nil_iff]
  refine forall_congr' fun listener => imp_congr_right fun _ => ?_
  rw [Bool.not_eq_true]

/-- While the queue is full, events are dropped. -/
theorem inputPostMouseMove_dropped (full : inputQueueSize ≤ manager.queue.count) :
    manager.inputPostMouseMove tickCount dx dy = manager := if_pos full

theorem inputPostMouseButton_dropped (full : inputQueueSize ≤ manager.queue.count) :
    manager.inputPostMouseButton tickCount button pressed = manager := if_pos full

/-- A move is delivered with the position before it. -/
theorem inputPostMouseMove_delivered (room : manager.queue.count < inputQueueSize) :
    let after := manager.inputPostMouseMove tickCount dx dy
    after.calls = manager.calls ++ manager.called (manager.mouseMoveEvent tickCount dx dy) ∧
      after.mouse.x = clamped manager.mouse.minX manager.mouse.maxX (manager.targetX dx) ∧
      after.mouse.y = clamped manager.mouse.minY manager.mouse.maxY (manager.targetY dy) := by
  rw [inputPostMouseMove, inputPostEvent, if_neg (Nat.not_le.mpr room)]
  exact ⟨rfl, rfl, rfl⟩

/-- A button is delivered with the position, which it does not change. -/
theorem inputPostMouseButton_delivered (room : manager.queue.count < inputQueueSize) :
    let after := manager.inputPostMouseButton tickCount button pressed
    after.calls = manager.calls ++ manager.called (manager.mouseButtonEvent tickCount button pressed) ∧
      after.mouse.x = manager.mouse.x ∧ after.mouse.y = manager.mouse.y := by
  rw [inputPostMouseButton, inputPostEvent, if_neg (Nat.not_le.mpr room)]
  cases pressed with
  | true => exact ⟨rfl, rfl, rfl⟩
  | false => exact ⟨rfl, rfl, rfl⟩

theorem post_listeners : (manager.post posting).listeners = manager.listeners := by
  cases posting with
  | mouseMove tickCount dx dy =>
      rw [post, inputPostMouseMove, inputPostEvent]
      split
      · rfl
      · rfl
  | mouseButton tickCount button pressed =>
      rw [post, inputPostMouseButton, inputPostEvent]
      split
      · rfl
      · cases pressed with
        | true => rfl
        | false => rfl
  | pollEvent =>
      rw [post, inputPollEvent]
      split
      · rfl
      · rfl
  | flushEvents => rfl

/-- What was called with an event shows the pointer, if there was a call. -/
theorem carries_called (calls : after.calls = before.calls ++ before.called event) :
    Carries before posting after ↔ before.Silent ∨ after.Shows event := by
  rw [Carries, calls, List.drop_left]
  constructor
  · intro shows
    by_cases silent : before.Silent
    · exact Or.inl silent
    · obtain ⟨call, rest, isCalled⟩ := List.exists_cons_of_ne_nil (mt called_eq_nil_iff.mp silent)
      have member : call ∈ before.called event := by
        rw [isCalled]
        exact List.mem_cons_self
      have shown := shows call member
      rw [mem_called member] at shown
      exact Or.inr shown
  · rintro (silent | shows) call member
    · rw [called_eq_nil_iff.mpr silent] at member
      cases member
    · rw [mem_called member]
      exact shows

theorem carries_quiet (calls : after.calls = before.calls) : Carries before posting after := by
  rw [Carries, calls, List.drop_length]
  exact fun call member => absurd member List.not_mem_nil

/-- Listeners learn where the pointer is exactly where a call is harmless. -/
theorem post_carries_iff : Carries before posting (before.post posting) ↔ before.Harmless posting := by
  cases posting with
  | mouseMove tickCount dx dy =>
      rw [Harmless, post]
      by_cases full : inputQueueSize ≤ before.queue.count
      · rw [inputPostMouseMove_dropped full]
        exact iff_of_true (carries_quiet rfl) (Or.inl full)
      · obtain ⟨calls, x, y⟩ := inputPostMouseMove_delivered (Nat.not_le.mp full)
        rw [carries_called calls, Shows, x, y, eq_comm, clamped_eq_iff, eq_comm, clamped_eq_iff]
        exact (or_iff_right full).symm
  | mouseButton tickCount button pressed =>
      refine iff_of_true ?_ trivial
      rw [post]
      by_cases full : inputQueueSize ≤ before.queue.count
      · rw [inputPostMouseButton_dropped full]
        exact carries_quiet rfl
      · obtain ⟨calls, x, y⟩ := inputPostMouseButton_delivered (Nat.not_le.mp full)
        exact (carries_called calls).mpr (Or.inr ⟨x.symm, y.symm⟩)
  | pollEvent =>
      refine iff_of_true (carries_quiet ?_) trivial
      rw [post, inputPollEvent]
      split
      · rfl
      · rfl
  | flushEvents => exact iff_of_true (carries_quiet rfl) trivial

/-- The position of the last event that a listener got, since the log had `first` calls, is the current one. -/
structure Informed (first : Nat) (manager : InputManager) : Prop where
  logged : first ≤ manager.calls.length
  silent : manager.Silent → manager.calls.length = first
  last : ∀ call ∈ (manager.calls.drop first).getLast?, manager.Shows call.2.2

theorem Informed.quiet {first : Nat} (informed : Informed first before) (calls : after.calls = before.calls)
    (listeners : after.listeners = before.listeners) (mouse : after.mouse = before.mouse) : Informed first after := by
  refine ⟨?_, fun silent => ?_, fun call member => ?_⟩
  · rw [calls]
    exact informed.logged
  · rw [Silent, listeners] at silent
    rw [calls]
    exact informed.silent silent
  · rw [calls] at member
    rw [Shows, mouse]
    exact informed.last call member

theorem Informed.delivered {first : Nat} (informed : Informed first before)
    (calls : after.calls = before.calls ++ before.called event) (listeners : after.listeners = before.listeners)
    (carries : before.Silent ∨ after.Shows event) : Informed first after := by
  refine ⟨?_, fun silent => ?_, fun call member => ?_⟩
  · rw [calls, List.length_append]
    exact Nat.le_add_right_of_le informed.logged
  · rw [Silent, listeners] at silent
    rw [calls, called_eq_nil_iff.mpr silent, List.append_nil]
    exact informed.silent silent
  · by_cases silent : before.Silent
    · rw [calls, called_eq_nil_iff.mpr silent, List.append_nil, ← informed.silent silent, List.drop_length] at member
      cases member
    · have someCall : (before.called event).getLast? = some _ :=
        List.getLast?_eq_some_getLast (mt called_eq_nil_iff.mp silent)
      rw [calls, List.drop_append_of_le_length informed.logged, List.getLast?_append, someCall, Option.some_or,
        ← someCall] at member
      rw [mem_called (List.mem_of_getLast? member)]
      exact carries.resolve_left silent

theorem Informed.post {first : Nat} (informed : Informed first before) (harmless : before.Harmless posting) :
    Informed first (before.post posting) := by
  have listeners : (before.post posting).listeners = before.listeners := post_listeners
  have carries : Carries before posting (before.post posting) := post_carries_iff.mpr harmless
  cases posting with
  | mouseMove tickCount dx dy =>
      by_cases full : inputQueueSize ≤ before.queue.count
      · rw [InputManager.post, inputPostMouseMove_dropped full]
        exact informed
      · obtain ⟨calls, _, _⟩ := inputPostMouseMove_delivered (Nat.not_le.mp full)
        exact informed.delivered calls listeners ((carries_called calls).mp carries)
  | mouseButton tickCount button pressed =>
      by_cases full : inputQueueSize ≤ before.queue.count
      · rw [InputManager.post, inputPostMouseButton_dropped full]
        exact informed
      · obtain ⟨calls, _, _⟩ := inputPostMouseButton_delivered (Nat.not_le.mp full)
        exact informed.delivered calls listeners ((carries_called calls).mp carries)
  | pollEvent =>
      rw [InputManager.post, inputPollEvent]
      split
      · exact informed.quiet rfl rfl rfl
      · exact informed.quiet rfl rfl rfl
  | flushEvents => exact informed.quiet rfl rfl rfl

/-- Every event carries the new position exactly where every call is harmless, and then listeners know the position. -/
theorem run_carries_iff (before : InputManager) (postings : List Posting) :
    (Observed step Carries before postings (postings.foldl InputManager.post before) ↔
      Restricted step Harmless before postings (postings.foldl InputManager.post before)) ∧
      (Restricted step Harmless before postings (postings.foldl InputManager.post before) →
        ∀ call ∈ ((postings.foldl InputManager.post before).calls.drop before.calls.length).getLast?,
          (postings.foldl InputManager.post before).Shows call.2.2) := by
  have run : Restricted step (fun _ _ => True) before postings (postings.foldl InputManager.post before) :=
    Run.foldl InputManager.post postings before
  constructor
  · apply run.observed_iff fun _ => True
    · intro before posting after _ _ done
      cases done
      exact post_carries_iff
    · exact fun _ _ _ _ _ _ _ => trivial
    · trivial
  · intro harmless
    have informed : Informed before.calls.length before := by
      refine ⟨Nat.le_refl _, fun _ => rfl, ?_⟩
      rw [List.drop_length]
      exact fun call member => absurd member (Option.not_mem_none call)
    have kept : Informed before.calls.length (postings.foldl InputManager.post before) := by
      apply harmless.invariant (Informed before.calls.length)
      · intro before posting after informed performed
        cases performed.2
        exact informed.post performed.1
      · exact informed
    exact kept.last

/-- A manager with one listener. -/
def attended : InputManager := (inputManagerInit.inputAddListener (some [100]) 0x100000 0 10).2

/-- The pointer moves from (160, 100) to (166, 100), and the listener is told that it is at (160, 100). -/
theorem run_carries_old_position :
    ¬ Observed step Carries attended [.mouseMove 0 10 0] (attended.inputPostMouseMove 0 10 0) ∧
      attended.mouse.x = 160 ∧ (attended.inputPostMouseMove 0 10 0).mouse.x = 166 ∧
        (attended.inputPostMouseMove 0 10 0).calls.map (fun call => call.2.2.mouse.x) = [160] := by
  refine ⟨fun observed => ?_, by decide, by decide, by decide⟩
  cases observed with
  | cons performed rest =>
      cases rest
      exact absurd performed.2 (by unfold Carries Shows; decide)

end InputManager

end AutismOS.Input
