import AutismOS.Library.Run
import AutismOS.Input.Core

namespace AutismOS.Input

open AutismOS.Library

/-- The calls of the interface. -/
inductive Action where
  | addListener (name : Option (List UInt8)) (callback userData priority : Nat)
  | removeListener (name : Option (List UInt8))
  | postEvent (event : Option InputEvent)
  | pollEvent
  | flushEvents
  | setMousePosition (x y : Int)
  | confineMouse (x y w h : Int)
  | unconfineMouse
  | setMouseSensitivity (level : Nat)

namespace InputManager

variable {manager before after : InputManager} {event : InputEvent} {action : Action} {actions : List Action}

def perform (manager : InputManager) : Action → Option InputManager
  | .addListener name callback userData priority => some (manager.inputAddListener name callback userData priority).2
  | .removeListener name => some (manager.inputRemoveListener name)
  | .postEvent event => some (manager.inputPostEvent event)
  | .pollEvent => some manager.inputPollEvent.2
  | .flushEvents => some manager.inputFlushEvents
  | .setMousePosition x y => some (manager.inputSetMousePosition x y)
  | .confineMouse x y w h => some (manager.inputConfineMouse x y w h)
  | .unconfineMouse => some manager.inputUnconfineMouse
  | .setMouseSensitivity level => some (manager.inputSetMouseSensitivity level)

/-- Mouse and modifiers follow an event, and each listener of the table is called with it, in order. -/
structure Delivered (before : InputManager) (event : InputEvent) (after : InputManager) : Prop where
  mouse : after.mouse = (before.updateState event).mouse
  modifiers : after.modifiers = (before.updateState event).modifiers
  calls : after.calls = before.calls ++ before.listeners.map fun listener => (listener.callback, listener.userData, event)

/-- A posted event is delivered, and nothing else calls listeners. -/
def Delivers (before : InputManager) (action : Action) (after : InputManager) : Prop :=
  match action with
  | .postEvent (some event) => Delivered before event after
  | _ => after.calls = before.calls

/-- The event does not move the mouse and presses nothing that is not pressed. -/
def Idle (manager : InputManager) (event : InputEvent) : Prop :=
  match event.type with
  | .mouseMove => manager.moveMouse event = manager.mouse
  | .mousePress | .mouseRelease => event.mouse.buttons = manager.mouse.buttons
  | .keyPress | .keyRelease => manager.setModifier event = manager.modifiers
  | _ => True

/-- An event is posted where fewer than 64 wait to be polled, or where nobody can tell. -/
def Receptive (manager : InputManager) : Action → Prop
  | .postEvent (some event) =>
      manager.queue.count < inputQueueSize ∨ manager.listeners = [] ∧ manager.Idle event
  | _ => True

/-- Every listener of the table can be called. -/
def Callable (manager : InputManager) : Prop :=
  ∀ listener ∈ manager.listeners, (listener.active && listener.callback ≠ 0) = true

theorem updateState_enqueue : (manager.enqueue event).updateState event = (manager.updateState event).enqueue event := by
  simp only [updateState]
  cases event.type with
  | mouseMove | mousePress | mouseRelease | keyPress | keyRelease => rfl
  | none | keyChar | mouseWheel | touchBegin | touchMove | touchEnd => rfl

theorem updateState_log : (manager.updateState event).calls = manager.calls ∧
    (manager.updateState event).listeners = manager.listeners := by
  simp only [updateState]
  cases event.type with
  | mouseMove | mousePress | mouseRelease | keyPress | keyRelease => exact ⟨rfl, rfl⟩
  | none | keyChar | mouseWheel | touchBegin | touchMove | touchEnd => exact ⟨rfl, rfl⟩

theorem updateState_unchanged_iff : (manager.mouse = (manager.updateState event).mouse ∧
    manager.modifiers = (manager.updateState event).modifiers) ↔ manager.Idle event := by
  simp only [updateState, Idle]
  cases event.type with
  | mouseMove => exact ⟨fun both => both.1.symm, fun same => ⟨same.symm, rfl⟩⟩
  | mousePress | mouseRelease =>
      constructor
      · intro both
        exact (congrArg MouseState.buttons both.1).symm
      · intro same
        rw [same]
        exact ⟨rfl, rfl⟩
  | keyPress | keyRelease => exact ⟨fun both => both.2.symm, fun same => ⟨rfl, same.symm⟩⟩
  | none | keyChar | mouseWheel | touchBegin | touchMove | touchEnd => exact ⟨fun _ => trivial, fun _ => ⟨rfl, rfl⟩⟩

theorem inputPostEvent_delivered (callable : manager.Callable) (room : manager.queue.count < inputQueueSize) :
    Delivered manager event (manager.inputPostEvent (some event)) := by
  rw [inputPostEvent, if_neg (Nat.not_le.mpr room), updateState_enqueue]
  obtain ⟨calls, listeners⟩ : (manager.updateState event).calls = manager.calls ∧
    (manager.updateState event).listeners = manager.listeners := updateState_log
  refine ⟨rfl, rfl, ?_⟩
  have all : (manager.listeners.filter fun listener => listener.active && listener.callback ≠ 0) = manager.listeners :=
    List.filter_eq_self.mpr callable
  have notified : (((manager.updateState event).enqueue event).notifyListeners event).calls =
      (manager.updateState event).calls ++
        ((manager.updateState event).listeners.filter fun listener => listener.active && listener.callback ≠ 0).map
          fun listener => (listener.callback, listener.userData, event) := rfl
  rw [notified, calls, listeners, all]

theorem inputPostEvent_full (full : inputQueueSize ≤ manager.queue.count) :
    manager.inputPostEvent (some event) = manager := if_pos full

theorem inputPostEvent_delivered_iff (callable : manager.Callable) :
    Delivered manager event (manager.inputPostEvent (some event)) ↔ manager.Receptive (.postEvent (some event)) := by
  by_cases room : manager.queue.count < inputQueueSize
  · exact iff_of_true (inputPostEvent_delivered callable room) (Or.inl room)
  · rw [inputPostEvent_full (Nat.not_lt.mp room)]
    constructor
    · intro delivered
      have none := List.append_right_eq_self.mp delivered.calls.symm
      exact Or.inr ⟨List.map_eq_nil_iff.mp none, updateState_unchanged_iff.mp ⟨delivered.mouse, delivered.modifiers⟩⟩
    · intro receptive
      obtain ⟨none, idle⟩ := receptive.resolve_left room
      obtain ⟨mouse, modifiers⟩ := updateState_unchanged_iff.mpr idle
      refine ⟨mouse, modifiers, ?_⟩
      rw [none, List.map_nil, List.append_nil]

theorem updateState_callable (callable : manager.Callable) : (manager.updateState event).Callable := by
  intro listener member
  rw [updateState_log.2] at member
  exact callable listener member

/-- A listener that can be called is put into the table, or nothing happens. -/
theorem inputAddListener_outcome {name : Option (List UInt8)} {callback userData priority : Nat} :
    (manager.inputAddListener name callback userData priority).2 = manager ∨
      ∃ index listener, index ≤ manager.listeners.length ∧
        (listener.active && listener.callback ≠ 0) = true ∧
        (manager.inputAddListener name callback userData priority).2 =
          { manager with listeners := manager.listeners.insertIdx index listener } := by
  simp only [inputAddListener]
  by_cases full : maxListeners ≤ manager.listeners.length
  · rw [if_pos full]
    exact Or.inl rfl
  rw [if_neg full]
  cases name with
  | none => exact Or.inl rfl
  | some name =>
      dsimp only
      by_cases null : callback = 0
      · rw [if_pos null]
        exact Or.inl rfl
      · rw [if_neg null]
        refine Or.inr ⟨_, _, List.findIdx_le_length, ?_, rfl⟩
        exact Bool.and_eq_true_iff.mpr ⟨rfl, decide_eq_true null⟩

theorem Callable.step (callable : before.Callable) (done : before.perform action = some after) : after.Callable := by
  cases action with
  | addListener name callback userData priority =>
      cases done
      rcases inputAddListener_outcome with same | ⟨index, listener, inside, canCall, same⟩
      · rw [same]
        exact callable
      · rw [same]
        intro other member
        rcases (List.mem_insertIdx inside).mp member with isNew | old
        · rw [isNew]
          exact canCall
        · exact callable other old
  | removeListener name =>
      cases done
      cases name with
      | none => exact callable
      | some name => exact fun listener member => callable listener (List.mem_of_mem_eraseIdx member)
  | postEvent event =>
      cases done
      cases event with
      | none => exact callable
      | some event =>
          rw [inputPostEvent]
          split
          · exact callable
          · rw [updateState_enqueue]
            exact updateState_callable callable
  | pollEvent =>
      cases done
      rw [inputPollEvent]
      split
      · exact callable
      · exact callable
  | setMouseSensitivity level =>
      cases done
      rw [inputSetMouseSensitivity]
      split
      · exact callable
      · exact callable
  | flushEvents | setMousePosition x y | confineMouse x y w h | unconfineMouse =>
      cases done
      exact callable

/-- Only posting calls listeners. -/
theorem perform_delivers_iff (callable : before.Callable) (done : before.perform action = some after) :
    Delivers before action after ↔ before.Receptive action := by
  cases action with
  | postEvent event =>
      cases done
      cases event with
      | none => exact iff_of_true rfl trivial
      | some event => exact inputPostEvent_delivered_iff callable
  | addListener name callback userData priority =>
      cases done
      have quiet : (before.inputAddListener name callback userData priority).2.calls = before.calls := by
        rcases inputAddListener_outcome with same | ⟨index, listener, inside, canCall, same⟩
        · rw [same]
        · rw [same]
      exact iff_of_true quiet trivial
  | removeListener name =>
      cases done
      refine iff_of_true ?_ trivial
      cases name with
      | none => rfl
      | some name => rfl
  | pollEvent =>
      cases done
      have quiet : before.inputPollEvent.2.calls = before.calls := by
        rw [inputPollEvent]
        split
        · rfl
        · rfl
      exact iff_of_true quiet trivial
  | setMouseSensitivity level =>
      cases done
      have quiet : (before.inputSetMouseSensitivity level).calls = before.calls := by
        rw [inputSetMouseSensitivity]
        split
        · rfl
        · rfl
      exact iff_of_true quiet trivial
  | flushEvents | setMousePosition x y | confineMouse x y w h | unconfineMouse =>
      cases done
      exact iff_of_true rfl trivial

/-- From the start on, every event is delivered exactly where none is posted to a full queue that
somebody would have noticed. -/
theorem run_delivers_iff (run : Run (Stepping perform) inputManagerInit actions after) :
    Observed perform Delivers inputManagerInit actions after ↔
      Restricted perform Receptive inputManagerInit actions after := by
  have free : Restricted perform (fun _ _ => True) inputManagerInit actions after :=
    run.mono fun _ _ _ performed => ⟨trivial, performed⟩
  refine free.observed_iff Callable (fun before action after callable _ done => perform_delivers_iff callable done)
    (fun before action after callable _ done _ => callable.step done) fun _ member => ?_
  cases member

/-- The key A. -/
def pressedKey : InputEvent :=
  { zeroEvent with type := .keyPress, key := { zeroEvent.key with keycode := 0x1E, character := 97 } }

/-- A listener is added, and then a key is pressed some times, while nobody polls. -/
def typing (keys : Nat) : List Action :=
  .addListener (some [100]) 0x100000 0 10 :: List.replicate keys (.postEvent (some pressedKey))

theorem run_delivers_typing : ∃ after, Observed perform Delivers inputManagerInit (typing 2) after := by
  have returns : (performAll perform (fun manager _ => manager.queue.count < inputQueueSize) inputManagerInit
      (typing 2)).isSome = true := by decide +kernel
  obtain ⟨after, done⟩ := Option.isSome_iff_exists.mp returns
  have restricted : Restricted perform Receptive inputManagerInit (typing 2) after := by
    refine (performAll_restricted done).mono fun before action after performed => ⟨?_, performed.2⟩
    have room : before.queue.count < inputQueueSize := of_decide_eq_true performed.1
    cases action with
    | postEvent event =>
        cases event with
        | none => exact trivial
        | some event => exact Or.inl room
    | _ => exact trivial
  exact ⟨after, (run_delivers_iff (restricted.mono fun _ _ _ performed => performed.2)).mpr restricted⟩

/-- The key that is pressed after 64 others reaches no listener. -/
theorem run_drops_event :
    ∃ after, Run (Stepping perform) inputManagerInit (typing 65) after ∧ after.calls.length = 64 ∧
      ¬ Observed perform Delivers inputManagerInit (typing 65) after := by
  have counted : (performAll perform (fun _ _ => true) inputManagerInit (typing 65)).any
      (fun after => after.calls.length = 64) = true := by decide +kernel
  have fills : (performAll perform (fun _ _ => true) inputManagerInit (typing 64)).any
      (fun middle => inputQueueSize ≤ middle.queue.count ∧ middle.listeners ≠ []) = true := by decide +kernel
  obtain ⟨after, done, calls⟩ := (Option.any_eq_true _ _).mp counted
  have run := (performAll_restricted done).mono fun _ _ _ performed => performed.2
  refine ⟨after, run, of_decide_eq_true calls, fun observed => ?_⟩
  have split : typing 65 = typing 64 ++ [.postEvent (some pressedKey)] := rfl
  rw [split] at observed
  obtain ⟨middle, reached, posts, delivered⟩ := observed.last_observed
  rw [reached, Option.any_some] at fills
  obtain ⟨full, listens⟩ := of_decide_eq_true fills
  have same : middle.inputPostEvent (some pressedKey) = after := Option.some.inj posts
  rw [← same, inputPostEvent_full full] at delivered
  have none := List.append_right_eq_self.mp delivered.calls.symm
  exact listens (List.map_eq_nil_iff.mp none)

end InputManager

end AutismOS.Input
