import Mathlib.Data.List.Perm.Basic
import AutismOS.Library.Run
import AutismOS.Windows.Core

namespace AutismOS.Windows

open AutismOS.Library AutismOS.Input

/-! # What a user does

Keys and events are composed of a few changes of the desktop.  A property that each of these changes keeps is kept by the
whole interface.
-/

namespace Desktop

variable {desktop before middle after : Desktop} {holds : Desktop → Prop} {valid : Int → Int → Prop} {event : InputEvent} {id index : Nat}
  {app : App} {window : Window}

/-- `desktop_launch_notepad` and the like -/
def launch (desktop : Desktop) : App → Desktop
  | .notepad => desktop.notepadCreate
  | .calculator => desktop.calculatorCreate
  | .sysinfo => desktop.sysinfoCreate

/-- `desktop_draw_window`, for what an application does there -/
def drawWindow (desktop : Desktop) (index : Nat) : Desktop :=
  match desktop.windows[index]? with
  | none => desktop
  | some window =>
      if !window.visible then desktop
      else
        match window.app with
        | none => desktop
        | some app => desktop.getState app index

/-- `desktop_draw`, with the mouse where the input manager has it -/
def desktopDraw (desktop : Desktop) (mouseX mouseY : Int) : Desktop :=
  if !desktop.needsRedraw then desktop
  else (List.range desktop.windows.length).foldl drawWindow { desktop with needsRedraw := false, mouseX, mouseY }

/-- The mouse is where the event says. -/
def pointed (desktop : Desktop) (event : InputEvent) : Desktop :=
  { desktop with mouseX := event.mouse.x, mouseY := event.mouse.y, mouseButtons := event.mouse.buttons % 2 ^ 8 }

/-- The event moves the mouse while it holds a window. -/
def Drags (desktop : Desktop) (event : InputEvent) : Prop :=
  desktop.desktopMode = true ∧ event.type = .mouseMove ∧
    (event.mouse.x ≠ desktop.mouseX ∨ event.mouse.y ≠ desktop.mouseY) ∧ desktop.activeWindow ≠ 0 ∧
    event.mouse.buttons &&& mouseButtonLeft ≠ 0

/-- The changes that the applications are composed of. -/
structure Handled (holds : Desktop → Prop) : Prop where
  screen : ∀ {desktop : Desktop} {mouseX mouseY : Int} {mouseButtons : Nat} {needsRedraw startMenuOpen desktopMode : Bool}
    {handlerCalls : List HandlerCall}, holds desktop →
    holds { desktop with mouseX, mouseY, mouseButtons, needsRedraw, startMenuOpen, desktopMode, handlerCalls }
  state : ∀ {desktop : Desktop} {app : App} {index : Nat}, holds desktop → holds (desktop.getState app index)

/-- The changes that everything is composed of.  `valid` are the positions where the mouse is pressed. -/
structure Closed (valid : Int → Int → Prop) (holds : Desktop → Prop) : Prop extends Handled holds where
  focus : ∀ {desktop : Desktop} {id : Nat}, holds desktop → holds (desktop.desktopFocusWindow id)
  close : ∀ {desktop : Desktop} {id : Nat}, holds desktop → holds (desktop.desktopCloseWindow id)
  launch : ∀ {desktop : Desktop} {app : App}, holds desktop → holds (desktop.launch app)
  toggle : ∀ {desktop : Desktop} {index : Nat}, holds desktop → holds (desktop.updateWindow index (·.desktopToggleMaximize))
  hold : ∀ {desktop : Desktop} {index : Nat} {window : Window} {activeHit : HitRegion}, holds desktop →
    valid desktop.mouseX desktop.mouseY → desktop.windows[index]? = some window →
    holds { desktop with
      activeWindow := window.id
      activeHit
      dragOffsetX := wrap (desktop.mouseX - signed window.x)
      dragOffsetY := wrap (desktop.mouseY - signed window.y) }
  release : ∀ {desktop : Desktop}, holds desktop → holds { desktop with activeWindow := 0, activeHit := .none }

/-- Where there is a result, the property holds of it. -/
def Leads (holds : Desktop → Prop) (result : Option Desktop) : Prop := ∀ after, result = some after → holds after

theorem leads_some (held : holds desktop) : Leads holds (some desktop) := by
  intro after done
  cases done
  exact held

theorem leads_none : Leads holds none := by
  intro after done
  cases done

theorem Leads.ite {condition : Prop} [Decidable condition] {yes no : Option Desktop} (yesLeads : Leads holds yes)
    (noLeads : Leads holds no) : Leads holds (if condition then yes else no) := by
  split
  · exact yesLeads
  · exact noLeads

theorem bringToFront_perm :
    ∃ windows, desktop.bringToFront index = { desktop with windows } ∧ windows.Perm desktop.windows := by
  rw [bringToFront]
  cases found : desktop.windows[index]? with
  | none => exact ⟨_, rfl, .refl _⟩
  | some moved =>
      dsimp only
      split
      · exact ⟨_, rfl, .refl _⟩
      · obtain ⟨inside, isMoved⟩ := List.getElem?_eq_some_iff.mp found
        refine ⟨_, rfl, List.perm_append_comm.trans ?_⟩
        rw [← isMoved]
        exact List.getElem_cons_eraseIdx_perm inside

/-- Focusing the window of an id that is not there does nothing; else the windows get another order. -/
theorem desktopFocusWindow_cases (desktop : Desktop) (id : Nat) :
    desktop.desktopFocusWindow id = desktop ∨ ∃ windows : List Window, windows.Perm desktop.windows ∧
      desktop.desktopFocusWindow id = ({ desktop with windows } : Desktop).markFocused.setDirty := by
  rw [desktopFocusWindow]
  cases desktop.findWindowById id with
  | none => exact .inl rfl
  | some index =>
      obtain ⟨windows, raised, perm⟩ : ∃ windows, desktop.bringToFront index = { desktop with windows } ∧
        windows.Perm desktop.windows := bringToFront_perm
      refine .inr ⟨windows, perm, ?_⟩
      dsimp only
      rw [raised]

/-- The mouse, and where it holds a window, are the same. -/
structure Unmoved (before after : Desktop) : Prop where
  mouseX : after.mouseX = before.mouseX
  mouseY : after.mouseY = before.mouseY
  dragOffsetX : after.dragOffsetX = before.dragOffsetX
  dragOffsetY : after.dragOffsetY = before.dragOffsetY

theorem Unmoved.refl : Unmoved desktop desktop := ⟨rfl, rfl, rfl, rfl⟩

theorem Unmoved.trans (first : Unmoved before middle) (second : Unmoved middle after) : Unmoved before after :=
  ⟨second.mouseX.trans first.mouseX, second.mouseY.trans first.mouseY, second.dragOffsetX.trans first.dragOffsetX,
    second.dragOffsetY.trans first.dragOffsetY⟩

theorem desktopFocusWindow_unmoved : Unmoved desktop (desktop.desktopFocusWindow id) := by
  obtain same | ⟨windows, _, raised⟩ := desktop.desktopFocusWindow_cases id
  · rw [same]
    exact .refl
  · rw [raised]
    exact ⟨rfl, rfl, rfl, rfl⟩

namespace Handled

variable (handled : Handled holds)

include handled

theorem handleKey (held : holds desktop) {key : UInt8} : holds (desktop.handleKey index key) := by
  rw [Desktop.handleKey]
  cases desktop.windows[index]? with
  | none => exact held
  | some window =>
      have logged : holds { desktop with handlerCalls := desktop.handlerCalls ++ [.key window.id key] } :=
        handled.screen held
      dsimp only
      cases window.app with
      | none => exact held
      | some app =>
          cases app with
          | notepad | calculator => exact handled.state logged
          | sysinfo =>
              dsimp only
              split
              · exact handled.state logged
              · exact logged

theorem handleMouse (held : holds desktop) {localX localY : Int} {buttons : Nat} :
    holds (desktop.handleMouse index localX localY buttons) := by
  rw [Desktop.handleMouse]
  cases desktop.windows[index]? with
  | none => exact held
  | some window =>
      have logged : holds { desktop with
          handlerCalls := desktop.handlerCalls ++ [.mouse window.id localX localY buttons] } := handled.screen held
      dsimp only
      cases window.app with
      | none => exact held
      | some app =>
          cases app with
          | notepad => exact logged
          | calculator => exact handled.state logged
          | sysinfo =>
              dsimp only
              split
              · exact handled.state logged
              · exact logged

theorem drawWindow (held : holds desktop) : holds (desktop.drawWindow index) := by
  rw [Desktop.drawWindow]
  split
  · exact held
  · split
    · exact held
    · split
      · exact held
      · exact handled.state held

theorem drawWindows (held : holds desktop) {places : List Nat} : holds (places.foldl Desktop.drawWindow desktop) := by
  induction places generalizing desktop with
  | nil => exact held
  | cons place rest ih => exact ih (handled.drawWindow held)

theorem draw (held : holds desktop) {mouseX mouseY : Int} : holds (desktop.desktopDraw mouseX mouseY) := by
  rw [desktopDraw]
  split
  · exact held
  · exact handled.drawWindows (handled.screen held)

end Handled

namespace Closed

variable (closed : Closed valid holds)

include closed

theorem dirty (held : holds desktop) : holds desktop.setDirty := closed.screen held

theorem dirtyLeads (held : holds desktop) : Leads holds (some desktop.setDirty) := leads_some (closed.dirty held)

theorem menu (held : holds desktop) {startMenuOpen : Bool} : holds { desktop with startMenuOpen } := closed.screen held

theorem menuLeads (held : holds desktop) {startMenuOpen : Bool} :
    Leads holds (some { desktop with startMenuOpen }.setDirty) :=
  closed.dirtyLeads (closed.menu held)

theorem launchLeads (held : holds desktop) (app : App) : Leads holds (some (desktop.launch app).setDirty) :=
  closed.dirtyLeads (closed.launch held)

theorem launchMenuLeads (held : holds desktop) (app : App) :
    Leads holds (some { desktop.launch app with startMenuOpen := false }.setDirty) :=
  closed.menuLeads (closed.launch held)

theorem cycle (held : holds desktop) : holds desktop.desktopCycleFocus := by
  rw [desktopCycleFocus]
  split
  · exact held
  · split
    · exact closed.focus held
    · split
      · exact held
      · exact closed.focus held
      · split
        · exact held
        · exact closed.focus held

theorem menuKey (held : holds desktop) {key : UInt8} : Leads holds (desktop.menuKey key) := by
  rw [Desktop.menuKey]
  apply Leads.ite (closed.launchMenuLeads held .notepad)
  apply Leads.ite (closed.launchMenuLeads held .calculator)
  apply Leads.ite (closed.launchMenuLeads held .sysinfo)
  exact .ite (closed.menuLeads held) leads_none

theorem shortcutKey (held : holds desktop) {key : UInt8} : Leads holds (desktop.shortcutKey key) := by
  rw [Desktop.shortcutKey]
  apply Leads.ite (closed.menuLeads held)
  apply Leads.ite (closed.launchLeads held .notepad)
  apply Leads.ite (closed.launchLeads held .calculator)
  apply Leads.ite (closed.launchLeads held .sysinfo)
  apply Leads.ite
  · have first : holds (desktop.launch .notepad) := closed.launch held
    have second : holds ((desktop.launch .notepad).launch .calculator) := closed.launch first
    exact closed.launchLeads second .sysinfo
  apply Leads.ite (closed.dirtyLeads (closed.cycle held))
  apply Leads.ite
  · rw [desktopCloseFocused]
    split
    · exact leads_some (closed.close held)
    · exact leads_some held
  cases desktop.desktopGetFocused with
  | none => exact .ite (leads_some held) (.ite (leads_some held) (.ite leads_none (leads_some held)))
  | some index =>
      apply Leads.ite (closed.dirtyLeads (closed.toggle held))
      apply Leads.ite (closed.dirtyLeads (closed.focus held))
      refine .ite leads_none ?_
      exact .ite (closed.dirtyLeads (closed.handleKey held)) (leads_some held)

theorem desktopHandleKey (held : holds desktop) {key : UInt8} : Leads holds (desktop.desktopHandleKey key) := by
  rw [Desktop.desktopHandleKey]
  split
  · next handled inMenu =>
      have menu : Leads holds (if desktop.startMenuOpen then desktop.menuKey key else none) :=
        .ite (closed.menuKey held) leads_none
      exact leads_some (menu handled inMenu)
  · exact closed.shortcutKey held

theorem keyPress (held : holds desktop) : Leads holds (desktop.keyPress event) := by
  have typed : Leads holds
      (if event.key.character ≠ 0 then desktop.desktopHandleKey event.key.character else some desktop) :=
    .ite (closed.desktopHandleKey held) (leads_some held)
  rw [Desktop.keyPress]
  apply Leads.ite (.ite (closed.menuLeads held) typed)
  apply Leads.ite (closed.launchLeads held .notepad)
  apply Leads.ite (closed.launchLeads held .calculator)
  apply Leads.ite (closed.launchLeads held .sysinfo)
  exact .ite (closed.dirtyLeads (closed.cycle held)) typed

theorem pointed (held : holds desktop) : holds (desktop.pointed event) := closed.screen held

theorem pressMenu (held : holds desktop) : holds desktop.pressMenu := by
  have opens : ∀ app, holds { desktop.launch app with startMenuOpen := false }.setDirty :=
    fun _ => closed.dirty (closed.menu (closed.launch held))
  rw [Desktop.pressMenu]
  split
  · exact opens .notepad
  · split
    · exact opens .calculator
    · split
      · exact opens .sysinfo
      · exact closed.dirty held

theorem holdWindow (held : holds desktop) (position : valid desktop.mouseX desktop.mouseY)
    (found : desktop.windows[index]? = some window) {hit : HitRegion} : holds (desktop.holdWindow index window hit) := by
  rw [Desktop.holdWindow]
  split
  · exact closed.dirty (closed.handleMouse (closed.hold held position found))
  · exact closed.dirty (closed.hold held position found)

theorem pressWindow (held : holds desktop) (position : valid desktop.mouseX desktop.mouseY) {hit : HitRegion} :
    Leads holds (desktop.pressWindow window hit) := by
  intro after done
  rw [Desktop.pressWindow] at done
  split at done
  · cases done
    exact closed.dirty (closed.close held)
  have focused : holds (desktop.desktopFocusWindow window.id) := closed.focus held
  have position : valid (desktop.desktopFocusWindow window.id).mouseX (desktop.desktopFocusWindow window.id).mouseY := by
    rw [desktopFocusWindow_unmoved.mouseX, desktopFocusWindow_unmoved.mouseY]
    exact position
  cases found : (desktop.desktopFocusWindow window.id).desktopGetFocused with
  | none =>
      simp only [found] at done
      split at done
      · cases done
        exact closed.dirty focused
      · cases done
  | some index =>
      simp only [found] at done
      split at done
      · cases done
        exact closed.dirty (closed.toggle focused)
      · obtain ⟨target, isTarget, rfl⟩ := Option.map_eq_some_iff.mp done
        exact closed.holdWindow focused position isTarget

theorem pressWindows (held : holds desktop) (position : valid desktop.mouseX desktop.mouseY) {windows : List Window} :
    Leads holds (desktop.pressWindows windows) := by
  induction windows with
  | nil => exact leads_some held
  | cons window rest ih =>
      rw [Desktop.pressWindows]
      exact .ite ih (closed.pressWindow held position)

theorem mousePress (held : holds desktop) (position : valid event.mouse.x event.mouse.y) :
    Leads holds (desktop.mousePress event) := by
  have moved : holds (desktop.pointed event) := closed.pointed held
  rw [Desktop.mousePress]
  refine .ite (leads_some moved) ?_
  refine .ite (closed.menuLeads moved) ?_
  refine .ite (leads_some (closed.pressMenu moved)) ?_
  split
  · exact closed.dirtyLeads (closed.focus moved)
  · exact closed.pressWindows moved position

theorem mouseRelease (held : holds desktop) : holds (desktop.mouseRelease event) := by
  rw [Desktop.mouseRelease]
  split
  · exact closed.release (closed.screen held)
  · exact closed.screen held

/-- What an event does, but for the window that follows the mouse. -/
theorem inputHandler (held : holds desktop) (position : valid event.mouse.x event.mouse.y)
    (drags : desktop.Drags event → holds ((desktop.pointed event).dragWindow event.mouse.x event.mouse.y)) :
    Leads holds (desktop.desktopInputHandler event) := by
  rw [desktopInputHandler]
  split
  · exact leads_some held
  next inactive =>
  have active : desktop.desktopMode = true := by simpa using inactive
  split
  · next isMove =>
      refine leads_some ?_
      rw [mouseMove]
      split
      · next moves =>
          split
          · next holding => exact closed.dirty (drags ⟨active, isMove, moves, holding⟩)
          · exact closed.dirty (closed.pointed held)
      · exact held
  · exact closed.mousePress held position
  · exact leads_some (closed.mouseRelease held)
  · exact closed.keyPress held
  · exact leads_some held

end Closed

/-- What happens to the desktop while the machine runs. -/
inductive Usage where
  | activate
  | launch (app : App)
  | key (key : UInt8)
  | event (event : InputEvent)
  | draw (mouseX mouseY : Int)

def use (desktop : Desktop) : Usage → Option Desktop
  | .activate => some desktop.desktopActivate
  | .launch app => some (desktop.launch app)
  | .key key => desktop.desktopHandleKey key
  | .event event => desktop.desktopInputHandler event
  | .draw mouseX mouseY => some (desktop.desktopDraw mouseX mouseY)

theorem Closed.use (closed : Closed valid holds) {usage : Usage} (held : holds desktop)
    (position : ∀ event, usage = .event event → valid event.mouse.x event.mouse.y)
    (drags : ∀ event, usage = .event event → desktop.Drags event →
      holds ((desktop.pointed event).dragWindow event.mouse.x event.mouse.y)) : Leads holds (desktop.use usage) := by
  cases usage with
  | activate => exact leads_some (closed.screen held)
  | launch app => exact leads_some (closed.launch held)
  | key key => exact closed.desktopHandleKey held
  | event event => exact closed.inputHandler held (position event rfl) (drags event rfl)
  | draw mouseX mouseY => exact leads_some (closed.draw held)

end Desktop

end AutismOS.Windows
