import Mathlib.Data.Nat.Bitwise
import AutismOS.Windows.Opening

namespace AutismOS.Windows

open AutismOS.Library AutismOS.Input

namespace Window

variable {window held : Window}

/-- A window that differs at most in its focus and its data. -/
def Like (window held : Window) : Prop := ∃ focused appData, held = { window with focused, appData }

theorem Like.refl : Like window window := ⟨window.focused, window.appData, rfl⟩

theorem Like.trans {first second third : Window} (front : Like first second) (back : Like second third) :
    Like first third := by
  obtain ⟨_, _, rfl⟩ := front
  obtain ⟨focused, appData, rfl⟩ := back
  exact ⟨focused, appData, rfl⟩

/-- Place, size and flags are the same. -/
structure SameFrame (first second : Window) : Prop where
  x : second.x = first.x
  y : second.y = first.y
  width : second.width = first.width
  height : second.height = first.height
  flags : second.flags = first.flags

theorem SameFrame.trans {first second third : Window} (front : SameFrame first second) (back : SameFrame second third) :
    SameFrame first third :=
  ⟨back.x.trans front.x, back.y.trans front.y, back.width.trans front.width, back.height.trans front.height,
    back.flags.trans front.flags⟩

theorem Like.sameFrame (like : Like window held) : SameFrame window held := by
  obtain ⟨_, _, rfl⟩ := like
  exact ⟨rfl, rfl, rfl, rfl, rfl⟩

theorem Like.toggle (like : Like window held) : Like window.desktopToggleMaximize held.desktopToggleMaximize := by
  obtain ⟨focused, appData, rfl⟩ := like
  refine ⟨focused, appData, ?_⟩
  rw [desktopToggleMaximize, desktopToggleMaximize]
  by_cases maximized : window.hasFlag windowFlagMaximized = true
  · rw [if_pos maximized]
    exact if_pos maximized
  · rw [if_neg maximized]
    exact if_neg maximized

/-- The bit of a maximized window is set and cleared again. -/
theorem clear_set_maximized {flags : Nat} (small : flags < 2 ^ 32) (clear : flags &&& windowFlagMaximized = 0) :
    (flags ||| windowFlagMaximized) &&& (2 ^ 32 - 1 - windowFlagMaximized) = flags := by
  have mask : 2 ^ 32 - 1 - windowFlagMaximized = (2 ^ 32 - 1) ^^^ windowFlagMaximized := by decide
  have apart : windowFlagMaximized &&& ((2 ^ 32 - 1) ^^^ windowFlagMaximized) = 0 := by decide
  rw [mask, Nat.and_or_distrib_right, apart, Nat.or_zero, Nat.and_xor_distrib_left, clear, Nat.xor_zero,
    Nat.and_two_pow_sub_one_eq_mod, Nat.mod_eq_of_lt small]

theorem toggle_maximized (unmaximized : window.hasFlag windowFlagMaximized = false) :
    window.desktopToggleMaximize.hasFlag windowFlagMaximized = true := by
  have clear : window.flags &&& windowFlagMaximized = 0 := by simpa [hasFlag] using unmaximized
  have set_ : (window.flags ||| windowFlagMaximized) &&& windowFlagMaximized = windowFlagMaximized := by
    rw [Nat.and_or_distrib_right, clear, Nat.and_self, Nat.zero_or]
  rw [desktopToggleMaximize, if_neg (Bool.eq_false_iff.mp unmaximized), hasFlag, set_]
  rfl

/-- A window that is maximized and then restored has its place, size and flags again. -/
theorem toggle_toggle (unmaximized : window.hasFlag windowFlagMaximized = false) (small : window.flags < 2 ^ 32) :
    SameFrame window window.desktopToggleMaximize.desktopToggleMaximize := by
  have clear : window.flags &&& windowFlagMaximized = 0 := by simpa [hasFlag] using unmaximized
  rw [desktopToggleMaximize, if_pos (toggle_maximized unmaximized), desktopToggleMaximize,
    if_neg (Bool.eq_false_iff.mp unmaximized)]
  exact ⟨rfl, rfl, rfl, rfl, clear_set_maximized small clear⟩

end Window

namespace Desktop

variable {desktop before middle after : Desktop} {id index : Nat} {window : Window} {change : Window → Window} {app : App}
  {event : InputEvent}

/-- The open windows are the same ones, and those that are maximized stay as they are. -/
structure Spares (before after : Desktop) : Prop where
  ids : after.ids.Perm before.ids
  kept : ∀ window ∈ before.windows, window.hasFlag windowFlagMaximized = true →
    ∃ held ∈ after.windows, Window.Like window held

theorem spares_of_windows (same : after.windows = before.windows) : Spares before after := by
  constructor
  · rw [ids, ids, same]
  · intro window member _
    exact ⟨window, same ▸ member, .refl⟩

theorem Spares.trans (first : Spares before middle) (second : Spares middle after) : Spares before after := by
  constructor
  · exact second.ids.trans first.ids
  · intro window member maximized
    obtain ⟨held, isHeld, like⟩ := first.kept window member maximized
    have stillMaximized : held.hasFlag windowFlagMaximized = true := by
      rw [Window.hasFlag, like.sameFrame.flags]
      exact maximized
    obtain ⟨last, isLast, alike⟩ := second.kept held isHeld stillMaximized
    exact ⟨last, isLast, like.trans alike⟩

/-- Some window is changed, but not if it is maximized. -/
theorem updateWindow_spares (edited : Edited desktop (desktop.updateWindow index change))
    (inert : ∀ window, window.hasFlag windowFlagMaximized = true → Window.Like window (change window)) :
    Spares desktop (desktop.updateWindow index change) := by
  constructor
  · rw [edited.ids]
  · intro window member maximized
    obtain ⟨place, found⟩ := List.mem_iff_getElem?.mp member
    have placed : (desktop.updateWindow index change).windows[place]? =
        some (if index = place then change window else window) := by
      rw [updateWindow, List.getElem?_modify, found]
      rfl
    refine ⟨_, List.mem_of_getElem? placed, ?_⟩
    split
    · exact inert window maximized
    · exact .refl

theorem getState_spares : Spares desktop (desktop.getState app index) := by
  have unchanged : Spares desktop desktop := spares_of_windows rfl
  rw [getState]
  split
  · exact unchanged
  · split
    · exact unchanged
    · split
      · exact unchanged
      · have given : Spares desktop (desktop.updateWindow index fun window =>
            { window with appData := some (app, desktop.stateCount app) }) :=
          updateWindow_spares (updateWindow_edited fun _ => ⟨rfl, rfl⟩) fun window _ => ⟨window.focused, _, rfl⟩
        exact given.trans (spares_of_windows rfl)

theorem desktopFocusWindow_spares : Spares desktop (desktop.desktopFocusWindow id) := by
  obtain same | ⟨windows, perm, raised⟩ := desktop.desktopFocusWindow_cases id
  · rw [same]
    exact spares_of_windows rfl
  · rw [raised]
    constructor
    · have sameIds : ({ desktop with windows } : Desktop).markFocused.ids.Perm desktop.ids := by
        rw [ids_markFocused]
        exact perm.map _
      exact sameIds
    · intro window member _
      obtain ⟨place, found⟩ := List.mem_iff_getElem?.mp (perm.mem_iff.mpr member)
      refine ⟨{ window with focused := place + 1 = windows.length }, ?_, ⟨_, window.appData, rfl⟩⟩
      have placed : ({ desktop with windows } : Desktop).markFocused.windows[place]? =
          some { window with focused := place + 1 = windows.length } := by
        rw [markFocused, List.getElem?_mapIdx, found]
        rfl
      exact List.mem_of_getElem? placed

theorem dragWindow_spares {x y : Int} : Spares desktop (desktop.dragWindow x y) := by
  have edited : Edited desktop (desktop.dragWindow x y) := dragWindow_edited
  rw [dragWindow] at edited ⊢
  split
  · exact spares_of_windows rfl
  · next index found =>
      rw [found] at edited
      apply updateWindow_spares edited
      intro window maximized
      split
      · rw [Window.desktopMoveWindow, if_pos maximized]
        exact .refl
      · split
        · rw [Window.desktopResizeWindow, if_pos maximized]
          exact .refl
        · exact .refl

theorem spares_handled : Handled (Spares before) where
  screen spares := spares.trans (spares_of_windows rfl)
  state spares := spares.trans getState_spares

/-- What the topmost window at a place has there; the windows are searched from the top. -/
def topmostHit (x y : Int) : List Window → HitRegion
  | [] => .none
  | window :: rest =>
      if window.desktopHitTestWindow x y = .none then topmostHit x y rest else window.desktopHitTestWindow x y

/-- A press of the left button takes hold of a window: it is on no button of the desktop or of a window. -/
structure TakesHold (desktop : Desktop) (x y : Int) : Prop where
  start : pointInRect x y 8 (screenHeight - taskbarHeight + 3) startButtonW startButtonH = false
  menu : desktop.startMenuOpen = false
  close : topmostHit x y desktop.windows.reverse ≠ .close
  maximize : topmostHit x y desktop.windows.reverse ≠ .maximize

/-- The calls and events of a drag, whichever window they are about. -/
def Handles (desktop : Desktop) : Action → Prop
  | .moveWindow _ _ _ | .resizeWindow _ _ _ | .focusWindow _ => True
  | .inputEvent event =>
      event.type = .mouseMove ∨ event.type = .mouseRelease ∨
        event.type = .mousePress ∧
          (event.mouse.buttonChanged = mouseButtonLeft → desktop.TakesHold event.mouse.x event.mouse.y)
  | _ => False

instance {x y : Int} : Decidable (desktop.TakesHold x y) :=
  decidable_of_iff
    (pointInRect x y 8 (screenHeight - taskbarHeight + 3) startButtonW startButtonH = false ∧
      desktop.startMenuOpen = false ∧ topmostHit x y desktop.windows.reverse ≠ .close ∧ topmostHit x y desktop.windows.reverse ≠ .maximize)
    ⟨fun ⟨start, menu, close, maximize⟩ => ⟨start, menu, close, maximize⟩,
      fun ⟨start, menu, close, maximize⟩ => ⟨start, menu, close, maximize⟩⟩

instance {action : Action} : Decidable (desktop.Handles action) :=
  match action with
  | .moveWindow _ _ _ | .resizeWindow _ _ _ | .focusWindow _ => inferInstanceAs (Decidable True)
  | .inputEvent _ => inferInstanceAs (Decidable (_ ∨ _ ∨ _ ∧ (_ → _)))
  | .createWindow _ _ _ _ _ | .closeWindow _ | .cycleFocus | .toggleMaximize _ | .handleKey _ | .activate =>
      inferInstanceAs (Decidable False)

theorem holdWindow_spares {hit : HitRegion} : Spares desktop (desktop.holdWindow index window hit) := by
  rw [holdWindow]
  split
  · have held : Spares desktop { desktop with
        activeWindow := window.id
        activeHit := hit
        dragOffsetX := wrap (desktop.mouseX - signed window.x)
        dragOffsetY := wrap (desktop.mouseY - signed window.y) } := spares_of_windows rfl
    exact (spares_handled.handleMouse held).trans (spares_of_windows rfl)
  · exact spares_of_windows rfl

theorem pressWindow_spares {hit : HitRegion} (notClose : hit ≠ .close) (notMaximize : hit ≠ .maximize) :
    Leads (Spares desktop) (desktop.pressWindow window hit) := by
  intro after done
  rw [pressWindow, if_neg notClose] at done
  cases found : (desktop.desktopFocusWindow window.id).desktopGetFocused with
  | none =>
      simp only [found, if_neg notMaximize] at done
      cases done
  | some index =>
      simp only [found, if_neg notMaximize] at done
      obtain ⟨target, _, rfl⟩ := Option.map_eq_some_iff.mp done
      exact desktopFocusWindow_spares.trans holdWindow_spares

theorem pressWindows_spares {windows : List Window} (notClose : topmostHit desktop.mouseX desktop.mouseY windows ≠ .close)
    (notMaximize : topmostHit desktop.mouseX desktop.mouseY windows ≠ .maximize) :
    Leads (Spares desktop) (desktop.pressWindows windows) := by
  induction windows with
  | nil => exact leads_some (spares_of_windows rfl)
  | cons window rest ih =>
      rw [topmostHit] at notClose notMaximize
      rw [pressWindows]
      by_cases missed : window.desktopHitTestWindow desktop.mouseX desktop.mouseY = .none
      · rw [if_pos missed] at notClose notMaximize ⊢
        exact ih notClose notMaximize
      · rw [if_neg missed] at notClose notMaximize ⊢
        exact pressWindow_spares notClose notMaximize

theorem mousePress_spares
    (holds : event.mouse.buttonChanged = mouseButtonLeft → desktop.TakesHold event.mouse.x event.mouse.y) :
    Leads (Spares desktop) (desktop.mousePress event) := by
  have pointed : Spares desktop (desktop.pointed event) := spares_of_windows rfl
  rw [mousePress]
  by_cases left : event.mouse.buttonChanged = mouseButtonLeft
  · obtain ⟨start, menu, close, maximize⟩ := holds left
    have notStart : ¬ pointInRect event.mouse.x event.mouse.y 8 (screenHeight - taskbarHeight + 3)
        startButtonW startButtonH = true := Bool.eq_false_iff.mp start
    have notOpen : ¬ desktop.startMenuOpen = true := Bool.eq_false_iff.mp menu
    dsimp only
    rw [if_neg (not_not.mpr left), if_neg notStart, if_neg notOpen]
    split
    · exact leads_some (pointed.trans (desktopFocusWindow_spares.trans (spares_of_windows rfl)))
    · intro after done
      exact pointed.trans (pressWindows_spares close maximize after done)
  · dsimp only
    rw [if_pos left]
    exact leads_some pointed

theorem mouseMove_spares : Spares desktop (desktop.mouseMove event) := by
  have pointed : Spares desktop (desktop.pointed event) := spares_of_windows rfl
  rw [mouseMove]
  split
  · split
    · exact pointed.trans (dragWindow_spares.trans (spares_of_windows rfl))
    · exact spares_of_windows rfl
  · exact spares_of_windows rfl

theorem mouseRelease_spares : Spares desktop (desktop.mouseRelease event) := by
  rw [mouseRelease]
  split
  · exact spares_of_windows rfl
  · exact spares_of_windows rfl

theorem desktopInputHandler_spares (handles : desktop.Handles (.inputEvent event)) :
    Leads (Spares desktop) (desktop.desktopInputHandler event) := by
  rw [desktopInputHandler]
  split
  · exact leads_some (spares_of_windows rfl)
  · rcases handles with isMove | isRelease | ⟨isPress, holds⟩
    · rw [isMove]
      exact leads_some mouseMove_spares
    · rw [isRelease]
      exact leads_some mouseRelease_spares
    · rw [isPress]
      exact mousePress_spares holds

theorem perform_spares {action : Action} (handles : before.Handles action) (done : before.perform action = some after) :
    Spares before after := by
  cases action with
  | moveWindow index x y =>
      cases done
      apply updateWindow_spares (updateWindow_edited fun _ => desktopMoveWindow_marks)
      intro window maximized
      rw [Window.desktopMoveWindow, if_pos maximized]
      exact .refl
  | resizeWindow index width height =>
      cases done
      apply updateWindow_spares (updateWindow_edited fun _ => desktopResizeWindow_marks)
      intro window maximized
      rw [Window.desktopResizeWindow, if_pos maximized]
      exact .refl
  | focusWindow id =>
      cases done
      exact desktopFocusWindow_spares
  | inputEvent event => exact desktopInputHandler_spares handles after done
  | _ => exact handles.elim

/-- However a window that is maximized is handled, it keeps its frame, and restoring it gives it the one that it had
before. -/
theorem run_restores {actions : List Action} (unmaximized : window.hasFlag windowFlagMaximized = false)
    (small : window.flags < 2 ^ 32) (found : desktop.windows[index]? = some window)
    (run : Restricted perform Handles (desktop.updateWindow index (·.desktopToggleMaximize)) actions after) :
    ∃ place held, after.windows[place]? = some held ∧ held.id = window.id ∧
      (desktop.ids.Nodup → after.findWindowById window.id = some place) ∧
      Window.SameFrame window.desktopToggleMaximize held ∧ Window.SameFrame window held.desktopToggleMaximize := by
  have toggled : Edited desktop (desktop.updateWindow index (·.desktopToggleMaximize)) :=
    updateWindow_edited fun _ => desktopToggleMaximize_marks
  have spares : Spares (desktop.updateWindow index (·.desktopToggleMaximize)) after :=
    run.invariant (Spares (desktop.updateWindow index (·.desktopToggleMaximize)))
      (fun _ _ _ spares performed => spares.trans (perform_spares performed.1 performed.2)) (spares_of_windows rfl)
  have isToggled : (desktop.updateWindow index (·.desktopToggleMaximize)).windows[index]? =
      some window.desktopToggleMaximize := by
    rw [updateWindow, List.getElem?_modify, found]
    exact congrArg some (if_pos rfl)
  obtain ⟨held, isHeld, like⟩ :=
    spares.kept window.desktopToggleMaximize (List.mem_of_getElem? isToggled) (Window.toggle_maximized unmaximized)
  obtain ⟨place, placed⟩ := List.mem_iff_getElem?.mp isHeld
  have isId : held.id = window.id := by
    obtain ⟨_, _, rfl⟩ := like
    exact desktopToggleMaximize_marks.1
  refine ⟨place, held, placed, isId, fun distinct => ?_, like.sameFrame, ?_⟩
  · apply findWindowById_of_nodup
    · rw [spares.ids.nodup_iff, toggled.ids]
      exact distinct
    · rw [getElem?_ids, placed, Option.map_some, isId]
  · exact (Window.toggle_toggle unmaximized small).trans like.toggle.sameFrame

/-- The maximized notepad is dragged by its title and resized. -/
def dragActions : List Action :=
  [.inputEvent (leftButton .mousePress 100 10), .inputEvent (leftButton .mouseMove 90 40),
    .inputEvent (leftButton .mouseRelease 90 40), .moveWindow 0 50 60, .resizeWindow 0 200 150, .focusWindow 1]

theorem run_restores_notepad : ∃ (after : Desktop) (place : Nat) (held : Window), after.windows[place]? = some held ∧
    held.desktopToggleMaximize.x = 14 ∧ held.desktopToggleMaximize.width = 252 := by
  have found : (desktopInit 160 100).desktopActivate.notepadCreate.windows[0]? =
      some (App.notepad.window 1 (some (.notepad, 0))) := by decide +kernel
  have reached : (performAll perform (fun desktop action => desktop.Handles action)
      ((desktopInit 160 100).desktopActivate.notepadCreate.updateWindow 0 (·.desktopToggleMaximize))
      dragActions).isSome = true := by
    decide +kernel
  obtain ⟨after, done⟩ := Option.isSome_iff_exists.mp reached
  have run : Restricted perform Handles
      ((desktopInit 160 100).desktopActivate.notepadCreate.updateWindow 0 (·.desktopToggleMaximize)) dragActions after :=
    (performAll_restricted done).mono fun _ _ _ performed => ⟨of_decide_eq_true performed.1, performed.2⟩
  obtain ⟨place, held, placed, -, -, -, same⟩ := run_restores (by decide) (by decide) found run
  exact ⟨after, place, held, placed, same.x, same.width⟩

end Desktop

end AutismOS.Windows
