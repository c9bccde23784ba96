import AutismOS.Notepad.Core
import AutismOS.System.Halting
import AutismOS.System.Machine
import AutismOS.Windows.Activity
import AutismOS.Windows.Opening

namespace AutismOS.System

open AutismOS.Library AutismOS.Input AutismOS.Windows

/-! # From the keyboard to the notepad

A text that is typed on the keyboard goes through the driver, the shortcuts of the desktop and the handler
of the focused window into the array of a notepad.  All of them together are the editor on plain text.
-/

variable {char : UInt8} {index number : Nat} {window : Window} {capsLock : Bool} {shown : List UInt8}

/-- The keys that the desktop takes for itself -/
def shortcutKeys : List UInt8 :=
  [0x80, 27, 96, 20, 0x83, 49, 0x84, 50, 0x85, 51, 0x86, 14, 0x88, 9, 23, 0x81, 13, 0x87, 18, 0x82, 17]

/-- A character that can be typed and that is no shortcut -/
def Plain (char : UInt8) : Prop := Typable char ∧ char ∉ shortcutKeys

instance (char : UInt8) : Decidable (Plain char) := inferInstanceAs (Decidable (_ ∧ _))

/-- A key that is no shortcut is for the focused window. -/
theorem shortcutKey_plain {desktop : Desktop} (plain : char ∉ shortcutKeys) (focused : desktop.desktopGetFocused = some index)
    (found : desktop.windows[index]? = some window) (handles : window.app.isSome = true) :
    desktop.shortcutKey char = some (desktop.handleKey index char).setDirty := by
  simp only [shortcutKeys, List.mem_cons, List.not_mem_nil, or_false, not_or] at plain
  rw [Desktop.shortcutKey, focused]
  simp only [plain, or_self, if_false, found, Option.bind_some, handles, if_true]

namespace Machine

variable {machine after : Machine}

/-- The focused window is a notepad with a state of its own. -/
structure Editing (machine : Machine) (index : Nat) (window : Window) (number : Nat) : Prop where
  active : machine.desktop.desktopMode = true
  menu : machine.desktop.startMenuOpen = false
  focused : machine.desktop.desktopGetFocused = some index
  found : machine.desktop.windows[index]? = some window
  app : window.app = some .notepad
  state : window.appData = some (.notepad, number)

/-- The desktop after its focused window was called with a key. -/
def afterKey (desktop : Desktop) (id : Nat) (key : UInt8) : Desktop :=
  { desktop with handlerCalls := desktop.handlerCalls ++ [.key id key], needsRedraw := true }

theorem Editing.handleKey (editing : Editing machine index window number) (plain : Plain char) :
    machine.desktop.desktopHandleKey char = some (afterKey machine.desktop window.id char) := by
  have handles : window.app.isSome = true := by rw [editing.app]; rfl
  have logged : machine.desktop.handleKey index char =
      { machine.desktop with handlerCalls := machine.desktop.handlerCalls ++ [.key window.id char] } := by
    have kept : Desktop.getState { machine.desktop with
        handlerCalls := machine.desktop.handlerCalls ++ [.key window.id char] } .notepad index =
          { machine.desktop with handlerCalls := machine.desktop.handlerCalls ++ [.key window.id char] } := by
      rw [Desktop.getState, editing.found]
      dsimp only
      rw [editing.state]
      rfl
    rw [Desktop.handleKey, editing.found]
    dsimp only
    rw [editing.app]
    exact kept
  rw [Desktop.desktopHandleKey, editing.menu]
  refine (shortcutKey_plain plain.2 editing.focused editing.found handles).trans ?_
  rw [logged]
  rfl

/-- The notepad of the window gets the key. -/
theorem Editing.enter (editing : Editing machine index window number) :
    machine.enter (afterKey machine.desktop window.id char) = { machine with
      desktop := afterKey machine.desktop window.id char
      notepads := Function.update machine.notepads number ((machine.notepads number).notepadHandleKey char) } := by
  have isId : machine.desktop.findWindowById window.id = some index := by
    obtain ⟨target, isTarget, same⟩ := Desktop.findWindowById_some editing.focused
    rw [editing.found] at isTarget
    cases isTarget
    rw [same]
    exact editing.focused
  have called (notepads : Nat → Notepad.NotepadState) :
      callNotepad (afterKey machine.desktop window.id char) notepads (.key window.id char) =
        Function.update notepads number ((notepads number).notepadHandleKey char) := by
    have isState : ((afterKey machine.desktop window.id char).findWindowById window.id).bind (fun index =>
        (afterKey machine.desktop window.id char).windows[index]?.bind (·.appData)) = some (.notepad, number) := by
      rw [show (afterKey machine.desktop window.id char).findWindowById window.id = some index from isId]
      rw [Option.bind_some, show (afterKey machine.desktop window.id char).windows[index]? = some window from editing.found]
      exact editing.state
    rw [callNotepad, isState]
  rw [Machine.enter]
  dsimp only [afterKey]
  rw [List.drop_left]
  exact congrArg (fun notepads => ({ machine with
      desktop := afterKey machine.desktop window.id char, notepads } : Machine)) (called machine.notepads)

/-- The calls of the driver one after another -/
def callKeys (machine : Machine) (calls : List KeyCall) : Option Machine :=
  calls.foldlM (fun machine call => machine.callKey (some call)) machine

/-- The keyboard is not looked at when its calls are made. -/
theorem callKey_keyboard {keyboard : Keyboard} {call : Option KeyCall} :
    { machine with keyboard }.callKey call = (machine.callKey call).map fun after => { after with keyboard } := by
  cases call with
  | none => rfl
  | some call =>
      cases call with
      | uxHandleHotkey key => rfl
      | desktopHandleKey key =>
          rw [callKey, callKey, Option.map_map]
          rfl

theorem callKey_active {call : Option KeyCall} (active : machine.desktop.desktopMode = true)
    (called : machine.callKey call = some after) : after.desktop.desktopMode = true := by
  cases call with
  | none =>
      cases called
      exact active
  | some call =>
      cases call with
      | uxHandleHotkey key =>
          cases called
          exact active
      | desktopHandleKey key =>
          obtain ⟨desktop, handled, rfl⟩ := Option.map_eq_some_iff.mp called
          exact (Desktop.desktopHandleKey_keeps desktop handled).trans active

theorem callKeys_keyboard {keyboard : Keyboard} {calls : List KeyCall} :
    { machine with keyboard }.callKeys calls = (machine.callKeys calls).map fun after => { after with keyboard } := by
  induction calls generalizing machine with
  | nil => rfl
  | cons call rest ih =>
      rw [callKeys, callKeys, List.foldlM_cons, List.foldlM_cons, callKey_keyboard]
      cases machine.callKey (some call) with
      | none => rfl
      | some next => exact ih

theorem callKeys_toList {call : Option KeyCall} {rest : List KeyCall} :
    machine.callKeys (call.toList ++ rest) = (machine.callKey call).bind fun next => next.callKeys rest := by
  cases call with
  | none => rfl
  | some call => rfl

/-- Bytes from the keyboard do what the calls of the driver do. -/
theorem foldlM_keyboard (active : machine.desktop.desktopMode = true) (bytes : List UInt8) :
    (bytes.map Happening.keyboard).foldlM perform machine =
      (machine.callKeys (machine.keyboard.handleBytes bytes).2).map fun after =>
        { after with keyboard := (machine.keyboard.handleBytes bytes).1 } := by
  induction bytes generalizing machine with
  | nil => rfl
  | cons byte rest ih =>
      have first : machine.perform (.keyboard byte) = (machine.callKey (machine.keyboard.keyboardHandler true byte).2).map
          fun after => { after with keyboard := (machine.keyboard.keyboardHandler true byte).1 } := by
        rw [← callKey_keyboard, ← active]
        rfl
      have handled : machine.keyboard.handleBytes (byte :: rest) =
          (((machine.keyboard.keyboardHandler true byte).1.handleBytes rest).1,
            (machine.keyboard.keyboardHandler true byte).2.toList ++
              ((machine.keyboard.keyboardHandler true byte).1.handleBytes rest).2) := rfl
      rw [List.map_cons, List.foldlM_cons, first, handled, callKeys_toList]
      cases called : machine.callKey (machine.keyboard.keyboardHandler true byte).2 with
      | none => rfl
      | some next =>
          have stays : next.desktop.desktopMode = true := callKey_active active called
          have later := @ih { next with keyboard := (machine.keyboard.keyboardHandler true byte).1 } stays
          refine later.trans ?_
          rw [callKeys_keyboard, Option.map_map]
          rfl

/-- The window and its notepad after a text was typed. -/
structure Typed (before : Machine) (number : Nat) (shown : List UInt8) (after : Machine) : Prop where
  shown : Notepad.Holds (after.notepads number) shown
  others : ∀ other, other ≠ number → after.notepads other = before.notepads other
  windows : after.desktop.windows = before.desktop.windows
  focus : after.desktop.focusedWindow = before.desktop.focusedWindow
  keyboard : after.keyboard = before.keyboard

theorem Editing.callKeys (editing : Editing machine index window number)
    (holds : Notepad.Holds (machine.notepads number) shown) (text : List UInt8) (plain : ∀ char ∈ text, Plain char) :
    ∃ after, machine.callKeys (text.map .desktopHandleKey) = some after ∧
      Typed machine number (text.foldl Notepad.typed shown) after := by
  induction text generalizing machine shown with
  | nil => exact ⟨machine, rfl, holds, fun _ _ => rfl, rfl, rfl, rfl⟩
  | cons char rest ih =>
      let next : Machine := { machine with
        desktop := afterKey machine.desktop window.id char
        notepads := Function.update machine.notepads number ((machine.notepads number).notepadHandleKey char) }
      have called : machine.callKey (some (.desktopHandleKey char)) = some next := by
        rw [callKey, editing.handleKey (plain char List.mem_cons_self), Option.map_some, editing.enter]
      have later : Editing next index window number :=
        ⟨editing.active, editing.menu, editing.focused, editing.found, editing.app, editing.state⟩
      have typed : Notepad.Holds (next.notepads number) (Notepad.typed shown char) := by
        rw [show next.notepads number = _ from Function.update_self _ _ _]
        exact holds.handleKey char
      obtain ⟨after, done, result⟩ := ih later typed fun char member => plain char (List.mem_cons_of_mem _ member)
      refine ⟨after, ?_, result.shown, ?_, result.windows, result.focus, result.keyboard⟩
      · rw [List.map_cons, Machine.callKeys, List.foldlM_cons, called]
        exact done
      · intro other different
        exact (result.others other different).trans (Function.update_of_ne different _ _)

theorem run_of_foldlM {happenings : List Happening} (done : happenings.foldlM perform machine = some after) :
    Run (Stepping perform) machine happenings after := by
  induction happenings generalizing machine with
  | nil =>
      cases done
      exact .nil _
  | cons first rest ih =>
      rw [List.foldlM_cons] at done
      obtain ⟨next, performed, later⟩ := Option.bind_eq_some_iff.mp done
      exact .cons performed (ih later)

/-- What is typed on the keyboard is what the notepad then shows, edited as on plain text. -/
theorem run_typed_text (editing : Editing machine index window number) (idle : machine.keyboard = .idle capsLock)
    (holds : Notepad.Holds (machine.notepads number) shown) (text : List UInt8) (plain : ∀ char ∈ text, Plain char) :
    ∃ after, Run (Stepping perform) machine ((text.flatMap (strokes capsLock)).map .keyboard) after ∧
      Typed machine number (text.foldl Notepad.typed shown) after := by
  obtain ⟨after, called, typed⟩ := editing.callKeys holds text plain
  have driver : machine.keyboard.handleBytes (text.flatMap (strokes capsLock)) =
      (.idle capsLock, text.map .desktopHandleKey) := by
    rw [idle]
    exact Keyboard.handleBytes_text capsLock text fun char member => (plain char member).1
  refine ⟨{ after with keyboard := .idle capsLock }, run_of_foldlM ?_, typed.shown, typed.others, typed.windows,
    typed.focus, idle.symm⟩
  rw [foldlM_keyboard editing.active, driver, called]
  rfl

/-- A note in the notepad that `kmain` opens -/
theorem kmain_run_typed_note : ∃ after,
    Run (Stepping perform) kmain (([72, 105, 33, 10, 65, 8, 66].flatMap (strokes false)).map .keyboard) after ∧
      Typed kmain 0 [72, 105, 33, 10, 66] after := by
  have editing : Editing kmain 0 (App.notepad.window 1 (some (.notepad, 0))) 0 :=
    ⟨by decide +kernel, by decide +kernel, by decide +kernel, by decide +kernel, rfl, rfl⟩
  exact run_typed_text editing rfl Notepad.holds_fresh _ (by decide +kernel)

end Machine

end AutismOS.System

namespace AutismOS.System

open AutismOS.Library AutismOS.Input AutismOS.Windows

-- Nothing takes events off the queue of the input manager, which the desktop listens to.  So the queue only fills:
-- after 64 posts of the mouse driver all others are lost.

namespace Machine

variable {machine after : Machine} {bytes : List UInt8} {mousePost : MousePost} {happening : Happening}
  {happenings : List Happening}

/-- What posts make of an input manager -/
def managed (manager : InputManager) (mousePosts : List MousePost) : InputManager :=
  mousePosts.foldl (fun manager mousePost => manager.post (posting mousePost)) manager

theorem managed_full {manager : InputManager} (full : inputQueueSize ≤ manager.queue.count) (mousePosts : List MousePost) :
    managed manager mousePosts = manager := by
  induction mousePosts with
  | nil => rfl
  | cons first rest ih =>
      have dropped : manager.post (posting first) = manager := @post_full { kmain with manager } first full
      rw [managed, List.foldl_cons, dropped]
      exact ih

/-- An event that is accepted is queued. -/
theorem post_count {manager : InputManager} (room : manager.queue.count < inputQueueSize) :
    (manager.post (posting mousePost)).queue.count = manager.queue.count + 1 := by
  have updated (manager : InputManager) (event : InputEvent) : (manager.updateState event).queue = manager.queue := by
    rw [InputManager.updateState]
    split
    · rfl
    · rfl
    · rfl
    · rfl
    · rfl
    · rfl
  have accepted (event : InputEvent) : (manager.inputPostEvent (some event)).queue.count = manager.queue.count + 1 := by
    rw [InputManager.inputPostEvent, if_neg (Nat.not_le.mpr room)]
    exact congrArg InputQueue.count (updated (manager.enqueue event) event)
  cases mousePost with
  | button button pressed => exact accepted _
  | move dx dy => exact accepted _

theorem managed_count {manager : InputManager} (few : manager.queue.count ≤ inputQueueSize) (mousePosts : List MousePost) :
    (managed manager mousePosts).queue.count = min (manager.queue.count + mousePosts.length) inputQueueSize := by
  induction mousePosts generalizing manager with
  | nil => exact (Nat.min_eq_left few).symm
  | cons first rest ih =>
      by_cases full : inputQueueSize ≤ manager.queue.count
      · rw [managed_full full, List.length_cons]
        omega
      · have next := @post_count first manager (Nat.not_le.mp full)
        rw [managed, List.foldl_cons]
        refine (ih (by omega)).trans ?_
        rw [next, List.length_cons]
        congr 1
        omega

/-- Only the first posts matter, as many as the queue has room for. -/
theorem managed_take (manager : InputManager) (mousePosts : List MousePost) :
    managed manager mousePosts = managed manager (mousePosts.take (inputQueueSize - manager.queue.count)) := by
  induction mousePosts generalizing manager with
  | nil => rw [List.take_nil]
  | cons first rest ih =>
      by_cases full : inputQueueSize ≤ manager.queue.count
      · rw [managed_full full, managed_full full]
      · have room : inputQueueSize - manager.queue.count = inputQueueSize - (manager.queue.count + 1) + 1 := by omega
        rw [room, List.take_succ_cons, managed, managed, List.foldl_cons, List.foldl_cons,
          ← @post_count first manager (Nat.not_le.mp full)]
        exact ih _

theorem handled_manager {event : InputEvent}
    (done : (machine.desktop.desktopInputHandler event).map machine.enter = some after) :
    after.manager = machine.manager ∧ after.mouse = machine.mouse := by
  obtain ⟨desktop, -, rfl⟩ := Option.map_eq_some_iff.mp done
  exact ⟨rfl, rfl⟩

theorem post_manager (listeners : machine.manager.listeners = bootManager.listeners)
    (done : machine.post mousePost = some after) :
    after.manager = machine.manager.post (posting mousePost) ∧ after.mouse = machine.mouse := by
  rw [post_eq listeners] at done
  split at done
  next full =>
    cases done
    exact ⟨(post_full full).symm, rfl⟩
  · exact handled_manager done

theorem posts_manager (listeners : machine.manager.listeners = bootManager.listeners) {mousePosts : List MousePost}
    (done : mousePosts.foldlM post machine = some after) :
    after.manager = managed machine.manager mousePosts ∧ after.mouse = machine.mouse := by
  induction mousePosts generalizing machine with
  | nil =>
      cases done
      exact ⟨rfl, rfl⟩
  | cons first rest ih =>
      rw [List.foldlM_cons] at done
      obtain ⟨next, posted, later⟩ := Option.bind_eq_some_iff.mp done
      obtain ⟨isNext, mouse⟩ := post_manager listeners posted
      have kept : next.manager.listeners = bootManager.listeners := by
        rw [isNext]
        exact InputManager.post_listeners.trans listeners
      obtain ⟨isLast, sameMouse⟩ := ih kept later
      rw [isLast, isNext]
      exact ⟨rfl, sameMouse.trans mouse⟩

theorem callKey_manager {call : Option KeyCall} (done : machine.callKey call = some after) :
    after.manager = machine.manager ∧ after.mouse = machine.mouse := by
  cases call with
  | none =>
      cases done
      exact ⟨rfl, rfl⟩
  | some call =>
      cases call with
      | uxHandleHotkey key =>
          cases done
          exact ⟨rfl, rfl⟩
      | desktopHandleKey key =>
          obtain ⟨desktop, -, rfl⟩ := Option.map_eq_some_iff.mp done
          exact ⟨rfl, rfl⟩

theorem mouseInterrupt_eq {data : UInt8} {new : List MousePost}
    (posted : (machine.mouse.mouseHandler data).posted = machine.mouse.posted ++ new) :
    machine.mouseInterrupt data = new.foldlM post { machine with mouse := machine.mouse.mouseHandler data } := by
  rw [mouseInterrupt, posted, List.drop_left]

/-- The input manager is what the posts of the mouse driver make of it. -/
theorem perform_managed (listeners : machine.manager.listeners = bootManager.listeners)
    (before : machine.manager = managed bootManager machine.mouse.posted) (done : machine.perform happening = some after) :
    after.manager = managed bootManager after.mouse.posted := by
  cases happening with
  | keyboard scancode =>
      obtain ⟨manager, mouse⟩ := callKey_manager done
      rw [manager, mouse]
      exact before
  | mouse data =>
      obtain ⟨new, posted, -⟩ := @mouseHandler_posted machine.mouse data
      have fold := (mouseInterrupt_eq posted).symm.trans done
      obtain ⟨isLast, mouse⟩ := @posts_manager { machine with mouse := machine.mouse.mouseHandler data } _ listeners
        _ fold
      rw [isLast, mouse, posted, before, managed, managed, managed, List.foldl_append]
  | redraw =>
      cases done
      exact before

theorem Running.run_managed (running : Running machine bytes) (before : machine.manager = managed bootManager machine.mouse.posted)
    (run : Run (Stepping Machine.perform) machine happenings after) :
    after.manager = managed bootManager after.mouse.posted := by
  induction run generalizing bytes with
  | nil state => exact before
  | cons performed _ ih => exact ih (running.perform performed) (perform_managed running.listeners before performed)

/-- While the queue is full, the bytes of the mouse stay in the driver. -/
theorem posts_full (listeners : machine.manager.listeners = bootManager.listeners)
    (full : inputQueueSize ≤ machine.manager.queue.count) (mousePosts : List MousePost) :
    mousePosts.foldlM post machine = some machine := by
  induction mousePosts with
  | nil => rfl
  | cons first rest ih =>
      rw [List.foldlM_cons, post_eq listeners, if_pos full]
      exact ih

/-- The input manager knows only the first 64 posts.  With them the pointer stops: later bytes of the mouse
change nothing but the driver. -/
theorem kmain_pointer (run : Run (Stepping Machine.perform) kmain happenings machine) :
    machine.manager = managed bootManager (machine.mouse.posted.take inputQueueSize) ∧
      (inputQueueSize ≤ machine.mouse.posted.length → ∀ data : UInt8,
        machine.perform (.mouse data) = some { machine with mouse := machine.mouse.mouseHandler data }) := by
  have running : Running machine (keyboardBytes happenings) := kmain_running.run run
  have isManaged : machine.manager = managed bootManager machine.mouse.posted := kmain_running.run_managed rfl run
  refine ⟨isManaged.trans (managed_take bootManager machine.mouse.posted), ?_⟩
  intro many data
  have full : inputQueueSize ≤ machine.manager.queue.count := by
    rw [isManaged, managed_count (Nat.zero_le _)]
    exact Nat.le_min.mpr ⟨Nat.le_trans many (Nat.le_add_left _ _), Nat.le_refl _⟩
  obtain ⟨new, posted, -⟩ := @mouseHandler_posted machine.mouse data
  exact (mouseInterrupt_eq posted).trans
    (@posts_full { machine with mouse := machine.mouse.mouseHandler data } running.listeners full new)

/-- Packets that say the mouse moved by one -/
def moves (packets : Nat) : List Happening :=
  (List.replicate packets [0x08, 0x01, 0x00]).flatten.map .mouse

/-- After 64 moves the pointer stays where it is. -/
theorem kmain_pointer_moves : ∃ machine, Run (Stepping Machine.perform) kmain (moves 64) machine ∧
    ∀ data : UInt8, machine.perform (.mouse data) = some { machine with mouse := machine.mouse.mouseHandler data } := by
  have posts : ((moves 64).foldlM perform kmain).map (·.mouse.posted.length) = some 64 := by decide +kernel
  obtain ⟨machine, done, many⟩ := Option.map_eq_some_iff.mp posts
  have run := run_of_foldlM done
  exact ⟨machine, run, (kmain_pointer run).2 (Nat.le_of_eq many.symm)⟩

end Machine

end AutismOS.System

namespace AutismOS.System

open AutismOS.Library AutismOS.Input AutismOS.Windows

-- A notepad is only changed by a key that comes while its window has the focus.

namespace Machine

variable {machine after : Machine} {bytes : List UInt8} {mousePost : MousePost} {happening : Happening}
  {happenings : List Happening} {number : Nat}

/-- The calls of the mouse leave the notepads. -/
theorem enter_noKeys {desktop : Desktop} (noKeys : Desktop.NoKeys machine.desktop desktop) :
    (machine.enter desktop).notepads = machine.notepads := by
  obtain ⟨new, calls, none⟩ := noKeys
  rw [enter]
  dsimp only
  rw [calls, List.drop_left]
  clear calls
  induction new with
  | nil => rfl
  | cons call rest ih =>
      cases call with
      | key id key => exact absurd List.mem_cons_self (none id key)
      | mouse id localX localY buttons => exact ih fun id key member => none id key (List.mem_cons_of_mem _ member)

theorem post_notepads (listeners : machine.manager.listeners = bootManager.listeners)
    (done : machine.post mousePost = some after) : after.notepads = machine.notepads := by
  rw [post_eq listeners] at done
  split at done
  · cases done
    rfl
  · obtain ⟨desktop, handled, rfl⟩ := Option.map_eq_some_iff.mp done
    have noKey : (eventOf machine.manager mousePost).type ≠ .keyPress := eventOf_noKey
    exact @enter_noKeys { machine with manager := machine.manager.post (posting mousePost) } desktop
      (Desktop.desktopInputHandler_noKeys noKey desktop handled)

theorem posts_notepads (running : Running machine bytes) {mousePosts : List MousePost}
    (done : mousePosts.foldlM post machine = some after) : after.notepads = machine.notepads := by
  induction mousePosts generalizing machine with
  | nil =>
      cases done
      rfl
  | cons first rest ih =>
      rw [List.foldlM_cons] at done
      obtain ⟨next, posted, later⟩ := Option.bind_eq_some_iff.mp done
      exact (ih (running.post posted) later).trans (post_notepads running.listeners posted)

/-- A key changes at most the notepad of the focused window. -/
theorem enter_keyed {desktop : Desktop} {key : UInt8} (keyed : Desktop.Keyed machine.desktop key desktop) :
    (machine.enter desktop).notepads number = machine.notepads number ∨
      ∃ index, machine.desktop.desktopGetFocused = some index ∧
        desktop.windows[index]?.bind (·.appData) = some (.notepad, number) ∧
        (machine.enter desktop).notepads number = (machine.notepads number).notepadHandleKey key := by
  obtain same | ⟨index, window, focused, -, calls, itself⟩ := keyed
  · left
    rw [enter, same, List.drop_length]
    rfl
  · have entered : (machine.enter desktop).notepads = callNotepad desktop machine.notepads (.key window.id key) := by
      rw [enter]
      dsimp only
      rw [calls, List.drop_left]
      rfl
    rw [entered, callNotepad, itself, Option.bind_some]
    cases isState : desktop.windows[index]?.bind (·.appData) with
    | none => exact .inl rfl
    | some data =>
        obtain ⟨app, other⟩ := data
        cases app with
        | calculator | sysinfo => exact .inl rfl
        | notepad =>
            by_cases same : number = other
            · subst same
              exact .inr ⟨index, focused, isState, Function.update_self _ _ _⟩
            · exact .inl (Function.update_of_ne same _ _)

/-- A notepad only changes when the keyboard delivers a key while its window has the focus, and then it handles
this key. -/
def Changed (machine : Machine) (happening : Happening) (after : Machine) (number : Nat) (key : UInt8) : Prop :=
  ∃ scancode index, happening = .keyboard scancode ∧
    (machine.keyboard.keyboardHandler true scancode).2 = some (.desktopHandleKey key) ∧
    machine.desktop.desktopGetFocused = some index ∧
    after.desktop.windows[index]?.bind (·.appData) = some (.notepad, number)

theorem Running.notepads (running : Running machine bytes) (done : machine.perform happening = some after) (number : Nat) :
    after.notepads number = machine.notepads number ∨ ∃ key, Changed machine happening after number key ∧
      after.notepads number = (machine.notepads number).notepadHandleKey key := by
  cases happening with
  | redraw =>
      cases done
      exact .inl rfl
  | mouse data =>
      have gathered : Running { machine with mouse := machine.mouse.mouseHandler data } bytes :=
        ⟨running.keyboard, running.active, running.orderly, running.listeners⟩
      exact .inl (congrFun (posts_notepads gathered done) number)
  | keyboard scancode =>
      have called : Machine.callKey
          { machine with keyboard := (machine.keyboard.keyboardHandler machine.desktop.desktopMode scancode).1 }
          (machine.keyboard.keyboardHandler machine.desktop.desktopMode scancode).2 = some after := done
      rw [running.active] at called
      cases delivered : (machine.keyboard.keyboardHandler true scancode).2 with
      | none =>
          rw [delivered] at called
          cases called
          exact .inl rfl
      | some call =>
          rw [delivered] at called
          cases call with
          | uxHandleHotkey key =>
              cases called
              exact .inl rfl
          | desktopHandleKey key =>
              obtain ⟨desktop, handled, rfl⟩ := Option.map_eq_some_iff.mp called
              have keyed : Desktop.Keyed machine.desktop key desktop := Desktop.desktopHandleKey_keyed desktop handled
              obtain same | ⟨index, focused, isState, changed⟩ :=
                @enter_keyed { machine with keyboard := (machine.keyboard.keyboardHandler true scancode).1 } number _ _ keyed
              · exact .inl same
              · exact .inr ⟨key, ⟨scancode, index, rfl, delivered, focused, isState⟩, changed⟩

end Machine

end AutismOS.System
