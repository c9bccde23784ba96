import AutismOS.System.Machine
import AutismOS.Windows.Activity

namespace AutismOS.System

open AutismOS.Library AutismOS.Input AutismOS.Windows

/-! # When the machine stops

Whatever comes from keyboard and mouse, the desktop stays in order and active, and the flags of the
keyboard are those of its history.  So it can be said which byte halts the machine, and that nothing else does.
-/

namespace Machine

variable {machine after : Machine} {bytes : List UInt8} {scancode : UInt8} {mousePost : MousePost}
  {happening : Happening} {happenings : List Happening}

/-- What holds while the machine runs -/
structure Running (machine : Machine) (bytes : List UInt8) : Prop where
  keyboard : Keyboard.Follows machine.keyboard bytes
  active : machine.desktop.desktopMode = true
  orderly : Desktop.Orderly machine.desktop
  listeners : machine.manager.listeners = bootManager.listeners

theorem kmain_running : Running kmain [] where
  keyboard := Keyboard.follows_powerOn
  active := @Desktop.launch_mode _ .notepad
  orderly := by
    have fresh : Desktop.Orderly (desktopInit bootManager.mouse.x bootManager.mouse.y) := Desktop.desktopInit_orderly
    have active : Desktop.Orderly (desktopInit bootManager.mouse.x bootManager.mouse.y).desktopActivate :=
      fresh.edit ⟨rfl, rfl, rfl, rfl, rfl⟩
    exact @Desktop.orderly_closed.launch _ .notepad active
  listeners := rfl

def eventOf (manager : InputManager) : MousePost → InputEvent
  | .button button pressed => manager.mouseButtonEvent 0 button.toNat pressed
  | .move dx dy => manager.mouseMoveEvent 0 dx dy

theorem post_full (full : inputQueueSize ≤ machine.manager.queue.count) :
    machine.manager.post (posting mousePost) = machine.manager := by
  cases mousePost with
  | button button pressed => exact InputManager.inputPostMouseButton_dropped full
  | move dx dy => exact InputManager.inputPostMouseMove_dropped full

/-- The desktop, the only listener, gets the event, if the queue has room. -/
theorem post_eq (listeners : machine.manager.listeners = bootManager.listeners) :
    machine.post mousePost =
      if inputQueueSize ≤ machine.manager.queue.count then some machine
      else (machine.desktop.desktopInputHandler (eventOf machine.manager mousePost)).map
        { machine with manager := machine.manager.post (posting mousePost) }.enter := by
  by_cases full : inputQueueSize ≤ machine.manager.queue.count
  · rw [if_pos full, post, post_full full, List.drop_length]
    rfl
  · rw [if_neg full, post]
    have calls : (machine.manager.post (posting mousePost)).calls =
        machine.manager.calls ++ [(desktopCallback, 0, eventOf machine.manager mousePost)] := by
      have called : machine.manager.called (eventOf machine.manager mousePost) =
          [(desktopCallback, 0, eventOf machine.manager mousePost)] := by
        rw [InputManager.called, listeners]
        rfl
      rw [← called]
      cases mousePost with
      | button button pressed => exact (InputManager.inputPostMouseButton_delivered (Nat.not_le.mp full)).1
      | move dx dy => exact (InputManager.inputPostMouseMove_delivered (Nat.not_le.mp full)).1
    rw [calls, List.drop_left]
    exact bind_pure _

theorem Running.enter (running : Running machine bytes) {desktop : Desktop} (active : desktop.desktopMode = true)
    (orderly : Desktop.Orderly desktop) : Running (machine.enter desktop) bytes :=
  ⟨running.keyboard, active, orderly, running.listeners⟩

theorem Running.handled (running : Running machine bytes) {event : InputEvent}
    (done : (machine.desktop.desktopInputHandler event).map machine.enter = some after) : Running after bytes := by
  obtain ⟨desktop, handled, rfl⟩ := Option.map_eq_some_iff.mp done
  exact running.enter ((Desktop.desktopInputHandler_keeps desktop handled).trans running.active)
    (@Desktop.Orderly.perform _ _ (.inputEvent event) running.orderly handled)

theorem Running.manager (running : Running machine bytes) :
    Running { machine with manager := machine.manager.post (posting mousePost) } bytes :=
  ⟨running.keyboard, running.active, running.orderly, InputManager.post_listeners.trans running.listeners⟩

theorem Running.post (running : Running machine bytes) (done : machine.post mousePost = some after) :
    Running after bytes := by
  rw [post_eq running.listeners] at done
  split at done
  · cases done
    exact running
  · exact running.manager.handled done

theorem Running.posts (running : Running machine bytes) {mousePosts : List MousePost}
    (done : mousePosts.foldlM Machine.post machine = some after) : Running after bytes := by
  induction mousePosts generalizing machine with
  | nil =>
      cases done
      exact running
  | cons first rest ih =>
      rw [List.foldlM_cons] at done
      obtain ⟨next, posted, later⟩ := Option.bind_eq_some_iff.mp done
      exact ih (running.post posted) later

theorem Running.callKey (running : Running machine bytes) {call : Option KeyCall} (done : machine.callKey call = some after) :
    Running after bytes := by
  cases call with
  | none =>
      cases done
      exact running
  | some call =>
      cases call with
      | desktopHandleKey key =>
          obtain ⟨desktop, handled, rfl⟩ := Option.map_eq_some_iff.mp done
          exact running.enter ((Desktop.desktopHandleKey_keeps desktop handled).trans running.active)
            (@Desktop.Orderly.perform _ _ (.handleKey key) running.orderly handled)
      | uxHandleHotkey key =>
          cases done
          exact running

theorem Running.typed (running : Running machine bytes) :
    Running { machine with keyboard := (machine.keyboard.keyboardHandler machine.desktop.desktopMode scancode).1 }
      (bytes ++ [scancode]) :=
  ⟨running.keyboard.keyboardHandler, running.active, running.orderly, running.listeners⟩

theorem Running.perform (running : Running machine bytes) (done : machine.perform happening = some after) :
    Running after (bytes ++ keyboardBytes [happening]) := by
  cases happening with
  | keyboard scancode => exact running.typed.callKey done
  | mouse data =>
      have gathered : Running { machine with mouse := machine.mouse.mouseHandler data } bytes :=
        ⟨running.keyboard, running.active, running.orderly, running.listeners⟩
      rw [keyboardBytes, List.filterMap_cons_none rfl, List.filterMap_nil, List.append_nil]
      exact gathered.posts done
  | redraw =>
      cases done
      rw [keyboardBytes, List.filterMap_cons_none rfl, List.filterMap_nil, List.append_nil]
      exact ⟨running.keyboard, Desktop.desktopDraw_mode.trans running.active,
        Desktop.orderly_closed.toHandled.draw running.orderly, running.listeners⟩

theorem Running.run (running : Running machine bytes) (run : Run (Stepping Machine.perform) machine happenings after) :
    Running after (bytes ++ keyboardBytes happenings) := by
  induction run generalizing bytes with
  | nil state =>
      rw [keyboardBytes, List.filterMap_nil, List.append_nil]
      exact running
  | @cons _ _ _ action rest performed _ ih =>
      have next := ih (running.perform performed)
      rw [List.append_assoc, keyboardBytes, keyboardBytes, ← List.filterMap_append] at next
      exact next

/-- The post of a left press, which alone can end in a window -/
def leftPress : MousePost := .button mouseButtonLeft true

theorem eventOf_noKey {manager : InputManager} : (eventOf manager mousePost).type ≠ .keyPress := by
  cases mousePost with
  | move dx dy =>
      intro isKey
      cases isKey
  | button button pressed =>
      cases pressed with
      | true | false =>
          intro isKey
          cases isKey

theorem not_mem_optional {condition : Prop} [Decidable condition] {other : MousePost} (different : leftPress ≠ other) :
    leftPress ∉ if condition then [other] else [] := by
  split
  · exact fun member => different (List.mem_singleton.mp member)
  · exact List.not_mem_nil

theorem not_mem_buttonPosts {pressed released button : UInt32} (different : Input.mouseButtonLeft ≠ button) :
    leftPress ∉ MouseDriver.buttonPosts pressed released button := by
  rw [MouseDriver.buttonPosts, List.mem_append, not_or]
  refine ⟨not_mem_optional ?_, not_mem_optional ?_⟩
  · intro same
    exact different (MousePost.button.inj same).1
  · intro same
    cases same

/-- Behind the first post of a packet there is no left press. -/
theorem posts_leftPress_first {prevButtons : UInt32} {flags x y : UInt8} {first : MousePost} {rest : List MousePost}
    (posted : MouseDriver.posts prevButtons flags x y = first :: rest) : leftPress ∉ rest := by
  rw [MouseDriver.posts, MouseDriver.buttonPosts, List.append_assoc, List.append_assoc, List.append_assoc] at posted
  have others : leftPress ∉ (if prevButtons &&& ~~~MouseDriver.buttons flags &&& Input.mouseButtonLeft ≠ 0 then
      [.button Input.mouseButtonLeft false] else []) ++
      (MouseDriver.buttonPosts (MouseDriver.buttons flags &&& ~~~prevButtons)
          (prevButtons &&& ~~~MouseDriver.buttons flags) Input.mouseButtonRight ++
        (MouseDriver.buttonPosts (MouseDriver.buttons flags &&& ~~~prevButtons)
            (prevButtons &&& ~~~MouseDriver.buttons flags) Input.mouseButtonMiddle ++
          if MouseDriver.delta flags mousePacketXSign x ≠ 0 ∨ MouseDriver.delta flags mousePacketYSign y ≠ 0 then
            [.move (MouseDriver.delta flags mousePacketXSign x) (MouseDriver.delta flags mousePacketYSign y)]
          else [])) := by
    simp only [List.mem_append, not_or]
    refine ⟨not_mem_optional ?_, not_mem_buttonPosts (by decide), not_mem_buttonPosts (by decide), not_mem_optional ?_⟩
    · intro same
      cases same
    · intro same
      cases same
  by_cases isPress : MouseDriver.buttons flags &&& ~~~prevButtons &&& Input.mouseButtonLeft ≠ 0
  · rw [if_pos isPress] at posted
    rw [← (List.cons.inj posted).2]
    exact others
  · rw [if_neg isPress] at posted
    rw [List.nil_append] at posted
    rw [posted] at others
    exact fun member => others (List.mem_cons_of_mem _ member)

/-- A byte of the mouse posts nothing, or what a packet says. -/
theorem mouseHandler_posted {mouse : MouseDriver} {data : UInt8} :
    ∃ new : List MousePost, (mouse.mouseHandler data).posted = mouse.posted ++ new ∧
      ∀ first rest, new = first :: rest → leftPress ∉ rest := by
  have quiet : ∀ first rest, ([] : List MousePost) = first :: rest → leftPress ∉ rest := by
    intro first rest same
    cases same
  rw [MouseDriver.mouseHandler]
  split
  · exact ⟨[], (List.append_nil _).symm, quiet⟩
  dsimp only
  split
  · exact ⟨[], (List.append_nil _).symm, quiet⟩
  rw [MouseDriver.decodePacket]
  split
  · exact ⟨[], (List.append_nil _).symm, quiet⟩
  split
  · exact ⟨[], (List.append_nil _).symm, quiet⟩
  · exact ⟨_, rfl, fun first rest posted => posts_leftPress_first posted⟩

end Machine

end AutismOS.System
