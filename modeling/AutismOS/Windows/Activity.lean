import AutismOS.Windows.Stacking
import AutismOS.Windows.Typing

namespace AutismOS.Windows.Desktop

open AutismOS.Input

/-! # The desktop stays active

Nothing takes back `desktop_activate`, and no event of a sound desktop follows a null pointer.
-/

variable {desktop : Desktop} {app : App} {window : Window} {event : InputEvent} {index id : Nat} {key : UInt8} {mode : Bool}

/-- The calls that have a result leave the mode as it is. -/
abbrev Keeps (mode : Bool) (result : Option Desktop) : Prop := Leads (fun after => after.desktopMode = mode) result

theorem keeps_some {after : Desktop} (same : after.desktopMode = mode) : Keeps mode (some after) := leads_some same

theorem keeps_dirty {after : Desktop} (same : after.desktopMode = mode) : Keeps mode (some after.setDirty) := leads_some same

theorem desktopFocusWindow_mode : (desktop.desktopFocusWindow id).desktopMode = desktop.desktopMode := by
  obtain same | ⟨windows, _, raised⟩ := desktop.desktopFocusWindow_cases id
  · rw [same]
  · rw [raised]
    rfl

theorem getState_mode : (desktop.getState app index).desktopMode = desktop.desktopMode := by
  rw [getState]
  split
  · rfl
  · split
    · rfl
    · split
      · rfl
      · rfl

theorem createApp_mode {title : List UInt8} {x y width height minWidth minHeight : Nat} :
    (desktop.createApp app title x y width height minWidth minHeight).desktopMode = desktop.desktopMode := by
  rw [createApp, desktopCreateWindow]
  by_cases full : maxWindows ≤ desktop.windows.length
  · rw [if_pos full]
  · rw [if_neg full]
    exact getState_mode.trans desktopFocusWindow_mode

theorem launch_mode : (desktop.launch app).desktopMode = desktop.desktopMode := by
  cases app with
  | notepad | calculator | sysinfo => exact createApp_mode

theorem launch_keeps (app : App) : Keeps desktop.desktopMode (some (desktop.launch app).setDirty) := keeps_some launch_mode

theorem launchMenu_keeps (app : App) :
    Keeps desktop.desktopMode (some { desktop.launch app with startMenuOpen := false }.setDirty) :=
  keeps_some launch_mode

theorem desktopCloseWindow_mode : (desktop.desktopCloseWindow id).desktopMode = desktop.desktopMode := by
  have released : ((desktop.removeWindow id).releaseWindow id).desktopMode = desktop.desktopMode := by
    rw [releaseWindow]
    split
    · rfl
    · rfl
  rw [desktopCloseWindow, focusTop]
  split
  · exact released
  · exact desktopFocusWindow_mode.trans released

theorem desktopCycleFocus_mode : desktop.desktopCycleFocus.desktopMode = desktop.desktopMode := by
  rw [desktopCycleFocus]
  split
  · rfl
  · split
    · exact desktopFocusWindow_mode
    · split
      · rfl
      · exact desktopFocusWindow_mode
      · split
        · rfl
        · exact desktopFocusWindow_mode

theorem handleKey_mode : (desktop.handleKey index key).desktopMode = desktop.desktopMode := by
  rw [handleKey]
  split
  · rfl
  · split
    · rfl
    · exact getState_mode
    · exact getState_mode
    · split
      · exact getState_mode
      · rfl

theorem handleMouse_mode {localX localY : Int} {buttons : Nat} :
    (desktop.handleMouse index localX localY buttons).desktopMode = desktop.desktopMode := by
  rw [handleMouse]
  split
  · rfl
  · split
    · rfl
    · rfl
    · exact getState_mode
    · split
      · exact getState_mode
      · rfl

theorem desktopDraw_mode {mouseX mouseY : Int} : (desktop.desktopDraw mouseX mouseY).desktopMode = desktop.desktopMode := by
  have each (desktop : Desktop) (index : Nat) : (desktop.drawWindow index).desktopMode = desktop.desktopMode := by
    rw [drawWindow]
    split
    · rfl
    · split
      · rfl
      · split
        · rfl
        · exact getState_mode
  have all (places : List Nat) (desktop : Desktop) : (places.foldl drawWindow desktop).desktopMode = desktop.desktopMode := by
    induction places generalizing desktop with
    | nil => rfl
    | cons place rest ih => exact (ih _).trans (each desktop place)
  rw [desktopDraw]
  split
  · rfl
  · exact all _ _

theorem menuKey_keeps : Keeps desktop.desktopMode (desktop.menuKey key) := by
  rw [menuKey]
  apply Leads.ite (launchMenu_keeps .notepad)
  apply Leads.ite (launchMenu_keeps .calculator)
  apply Leads.ite (launchMenu_keeps .sysinfo)
  exact .ite (keeps_some rfl) leads_none

theorem shortcutKey_keeps : Keeps desktop.desktopMode (desktop.shortcutKey key) := by
  rw [shortcutKey]
  apply Leads.ite (keeps_some rfl)
  apply Leads.ite (launch_keeps .notepad)
  apply Leads.ite (launch_keeps .calculator)
  apply Leads.ite (launch_keeps .sysinfo)
  apply Leads.ite
  · have first : (desktop.launch .notepad).desktopMode = desktop.desktopMode := launch_mode
    have second : ((desktop.launch .notepad).launch .calculator).desktopMode = desktop.desktopMode := launch_mode.trans first
    have third := @launch_keeps ((desktop.launch .notepad).launch .calculator) .sysinfo
    rw [second] at third
    exact third
  apply Leads.ite (keeps_dirty desktopCycleFocus_mode)
  apply Leads.ite
  · rw [desktopCloseFocused]
    split
    · exact keeps_some desktopCloseWindow_mode
    · exact keeps_some rfl
  cases desktop.desktopGetFocused with
  | none => exact .ite (keeps_some rfl) (.ite (keeps_some rfl) (.ite leads_none (keeps_some rfl)))
  | some index =>
      apply Leads.ite (keeps_some rfl)
      apply Leads.ite (keeps_dirty desktopFocusWindow_mode)
      refine .ite leads_none (.ite ?_ (keeps_some rfl))
      exact keeps_dirty handleKey_mode

theorem desktopHandleKey_keeps : Keeps desktop.desktopMode (desktop.desktopHandleKey key) := by
  rw [desktopHandleKey]
  split
  · next handled inMenu =>
      have menu : Keeps desktop.desktopMode (if desktop.startMenuOpen then desktop.menuKey key else none) :=
        .ite menuKey_keeps leads_none
      exact leads_some (menu handled inMenu)
  · exact shortcutKey_keeps

theorem keyPress_keeps : Keeps desktop.desktopMode (desktop.keyPress event) := by
  have typed : Keeps desktop.desktopMode
      (if event.key.character ≠ 0 then desktop.desktopHandleKey event.key.character else some desktop) :=
    .ite desktopHandleKey_keeps (keeps_some rfl)
  rw [keyPress]
  apply Leads.ite
  · exact .ite (keeps_some rfl) typed
  apply Leads.ite (launch_keeps .notepad)
  apply Leads.ite (launch_keeps .calculator)
  apply Leads.ite (launch_keeps .sysinfo)
  exact .ite (keeps_dirty desktopCycleFocus_mode) typed

theorem pressMenu_mode : desktop.pressMenu.desktopMode = desktop.desktopMode := by
  rw [pressMenu]
  split
  · exact @launch_mode _ .notepad
  · split
    · exact @launch_mode _ .calculator
    · split
      · exact @launch_mode _ .sysinfo
      · rfl

theorem holdWindow_mode {hit : HitRegion} : (desktop.holdWindow index window hit).desktopMode = desktop.desktopMode := by
  rw [holdWindow]
  split
  · exact handleMouse_mode
  · rfl

theorem pressWindow_keeps {hit : HitRegion} : Keeps desktop.desktopMode (desktop.pressWindow window hit) := by
  intro after done
  rw [pressWindow] at done
  split at done
  · cases done
    exact desktopCloseWindow_mode
  have focused : (desktop.desktopFocusWindow window.id).desktopMode = desktop.desktopMode := desktopFocusWindow_mode
  cases found : (desktop.desktopFocusWindow window.id).desktopGetFocused with
  | none =>
      simp only [found] at done
      split at done
      · cases done
        exact focused
      · cases done
  | some index =>
      simp only [found] at done
      split at done
      · cases done
        exact focused
      · obtain ⟨target, -, rfl⟩ := Option.map_eq_some_iff.mp done
        exact holdWindow_mode.trans focused

theorem pressWindows_keeps {windows : List Window} : Keeps desktop.desktopMode (desktop.pressWindows windows) := by
  induction windows with
  | nil => exact keeps_some rfl
  | cons window rest ih =>
      rw [pressWindows]
      exact .ite ih pressWindow_keeps

theorem mousePress_keeps : Keeps desktop.desktopMode (desktop.mousePress event) := by
  have pressed := @pressWindows_keeps (desktop.pointed event)
  rw [mousePress]
  refine .ite (keeps_some rfl) (.ite (keeps_some rfl) (.ite (keeps_some pressMenu_mode) ?_))
  split
  · exact keeps_some desktopFocusWindow_mode
  · exact pressed

theorem dragWindow_mode {x y : Int} : (desktop.dragWindow x y).desktopMode = desktop.desktopMode := by
  rw [dragWindow.eq_def]
  split
  · rfl
  · rfl

theorem mouseMove_mode : (desktop.mouseMove event).desktopMode = desktop.desktopMode := by
  rw [mouseMove]
  split
  · split
    · exact dragWindow_mode
    · rfl
  · rfl

theorem mouseRelease_mode : (desktop.mouseRelease event).desktopMode = desktop.desktopMode := by
  rw [mouseRelease]
  split
  · rfl
  · rfl

theorem desktopInputHandler_keeps : Keeps desktop.desktopMode (desktop.desktopInputHandler event) := by
  rw [desktopInputHandler]
  split
  · exact keeps_some rfl
  split
  · exact keeps_some mouseMove_mode
  · exact mousePress_keeps
  · exact keeps_some mouseRelease_mode
  · exact keyPress_keeps
  · exact keeps_some rfl

end AutismOS.Windows.Desktop

namespace AutismOS.Windows.Desktop

open AutismOS.Library AutismOS.Input

-- The mouse calls no handler of keys, and a key calls at most that of the focused window.

variable {desktop after : Desktop} {window : Window} {event : InputEvent} {index id : Nat} {key : UInt8}

/-- No handler of keys was called. -/
def NoKeys (before after : Desktop) : Prop :=
  ∃ new : List HandlerCall, after.handlerCalls = before.handlerCalls ++ new ∧ ∀ id key, .key id key ∉ new

theorem noKeys_same (same : after.handlerCalls = desktop.handlerCalls) : NoKeys desktop after :=
  ⟨[], by rw [same, List.append_nil], fun _ _ => List.not_mem_nil⟩

theorem desktopCloseWindow_handlerCalls : (desktop.desktopCloseWindow id).handlerCalls = desktop.handlerCalls := by
  have released : ((desktop.removeWindow id).releaseWindow id).handlerCalls = desktop.handlerCalls := by
    rw [releaseWindow]
    split
    · rfl
    · rfl
  rw [desktopCloseWindow, focusTop]
  split
  · exact released
  · exact desktopFocusWindow_handlerCalls.trans released

theorem handleMouse_noKeys {localX localY : Int} {buttons : Nat} :
    NoKeys desktop (desktop.handleMouse index localX localY buttons) := by
  rw [handleMouse]
  split
  · exact noKeys_same rfl
  next window _ =>
    have logged : ∀ id key, HandlerCall.key id key ∉ [HandlerCall.mouse window.id localX localY buttons] := by
      intro id key member
      cases List.mem_singleton.mp member
    split
    · exact noKeys_same rfl
    · exact ⟨_, rfl, logged⟩
    · exact ⟨_, getState_handlerCalls, logged⟩
    · split
      · exact ⟨_, getState_handlerCalls, logged⟩
      · exact ⟨_, rfl, logged⟩

theorem pressMenu_handlerCalls : desktop.pressMenu.handlerCalls = desktop.handlerCalls := by
  rw [pressMenu]
  split
  · exact @launch_handlerCalls _ .notepad
  · split
    · exact @launch_handlerCalls _ .calculator
    · split
      · exact @launch_handlerCalls _ .sysinfo
      · rfl

theorem holdWindow_noKeys {hit : HitRegion} : NoKeys desktop (desktop.holdWindow index window hit) := by
  rw [holdWindow]
  split
  · exact handleMouse_noKeys
  · exact noKeys_same rfl

theorem pressWindow_noKeys {hit : HitRegion} : Leads (NoKeys desktop) (desktop.pressWindow window hit) := by
  intro after done
  rw [pressWindow] at done
  split at done
  · cases done
    exact noKeys_same desktopCloseWindow_handlerCalls
  have focused : (desktop.desktopFocusWindow window.id).handlerCalls = desktop.handlerCalls := desktopFocusWindow_handlerCalls
  cases found : (desktop.desktopFocusWindow window.id).desktopGetFocused with
  | none =>
      simp only [found] at done
      split at done
      · cases done
        exact noKeys_same focused
      · cases done
  | some index =>
      simp only [found] at done
      split at done
      · cases done
        exact noKeys_same focused
      · obtain ⟨target, -, rfl⟩ := Option.map_eq_some_iff.mp done
        have held := @holdWindow_noKeys (desktop.desktopFocusWindow window.id) target index hit
        rw [NoKeys, focused] at held
        exact held

theorem pressWindows_noKeys {windows : List Window} : Leads (NoKeys desktop) (desktop.pressWindows windows) := by
  induction windows with
  | nil => exact leads_some (noKeys_same rfl)
  | cons window rest ih =>
      rw [pressWindows]
      exact .ite ih pressWindow_noKeys

theorem mousePress_noKeys : Leads (NoKeys desktop) (desktop.mousePress event) := by
  have pressed := @pressWindows_noKeys (desktop.pointed event)
  have menu : (desktop.pointed event).pressMenu.handlerCalls = desktop.handlerCalls := pressMenu_handlerCalls
  rw [mousePress]
  refine .ite (leads_some (noKeys_same rfl)) (.ite (leads_some (noKeys_same rfl)) (.ite (leads_some (noKeys_same menu)) ?_))
  split
  · have focused (id : Nat) : ((desktop.pointed event).desktopFocusWindow id).handlerCalls = desktop.handlerCalls :=
      desktopFocusWindow_handlerCalls
    exact leads_some (noKeys_same (focused _))
  · exact pressed

theorem mouseMove_handlerCalls : (desktop.mouseMove event).handlerCalls = desktop.handlerCalls := by
  have dragged (desktop : Desktop) (x y : Int) : (desktop.dragWindow x y).handlerCalls = desktop.handlerCalls := by
    rw [dragWindow.eq_def]
    split
    · rfl
    · rfl
  rw [mouseMove]
  split
  · split
    · exact dragged _ _ _
    · rfl
  · rfl

theorem desktopInputHandler_noKeys (noKey : event.type ≠ .keyPress) :
    Leads (NoKeys desktop) (desktop.desktopInputHandler event) := by
  rw [desktopInputHandler]
  split
  · exact leads_some (noKeys_same rfl)
  split
  · exact leads_some (noKeys_same mouseMove_handlerCalls)
  · exact mousePress_noKeys
  · refine leads_some (noKeys_same ?_)
    rw [mouseRelease]
    split
    · rfl
    · rfl
  · contradiction
  · exact leads_some (noKeys_same rfl)

/-- Either no handler was called, or that of the focused window. -/
def Keyed (before : Desktop) (key : UInt8) (after : Desktop) : Prop :=
  after.handlerCalls = before.handlerCalls ∨ ∃ index window, before.desktopGetFocused = some index ∧
    before.windows[index]? = some window ∧ after.handlerCalls = before.handlerCalls ++ [.key window.id key] ∧
    after.findWindowById window.id = some index

theorem keyed_same (same : after.handlerCalls = desktop.handlerCalls) : Keyed desktop key after := .inl same

theorem findWindowById_ids {before : Desktop} (same : after.ids = before.ids) :
    after.findWindowById id = before.findWindowById id := by
  have onIds (desktop : Desktop) : desktop.findWindowById id = desktop.ids.findIdx? fun other => other = id := by
    rw [ids, List.findIdx?_map]
    rfl
  rw [onIds, onIds, same]

theorem handleKey_keyed (focused : desktop.desktopGetFocused = some index) :
    Keyed desktop key (desktop.handleKey index key) := by
  obtain ⟨window, found, isId⟩ := findWindowById_some focused
  have itself : desktop.findWindowById window.id = some index := by
    rw [isId]
    exact focused
  have logged : Keyed desktop key { desktop with handlerCalls := desktop.handlerCalls ++ [.key window.id key] } :=
    .inr ⟨index, window, focused, found, rfl, itself⟩
  have served (app : App) : Keyed desktop key
      (getState { desktop with handlerCalls := desktop.handlerCalls ++ [.key window.id key] } app index) :=
    .inr ⟨index, window, focused, found, getState_handlerCalls,
      (findWindowById_ids (@getState_edited _ _ app).ids).trans itself⟩
  rw [handleKey, found]
  dsimp only
  split
  · exact keyed_same rfl
  · exact served .notepad
  · exact served .calculator
  · split
    · exact served .sysinfo
    · exact logged

theorem launch_keyed (app : App) : Leads (Keyed desktop key) (some (desktop.launch app).setDirty) :=
  leads_some (keyed_same launch_handlerCalls)

theorem launchMenu_keyed (app : App) :
    Leads (Keyed desktop key) (some { desktop.launch app with startMenuOpen := false }.setDirty) :=
  leads_some (keyed_same launch_handlerCalls)

theorem menuKey_keyed : Leads (Keyed desktop key) (desktop.menuKey key) := by
  rw [menuKey]
  apply Leads.ite (launchMenu_keyed .notepad)
  apply Leads.ite (launchMenu_keyed .calculator)
  apply Leads.ite (launchMenu_keyed .sysinfo)
  exact .ite (leads_some (keyed_same rfl)) leads_none

theorem desktopCycleFocus_handlerCalls : desktop.desktopCycleFocus.handlerCalls = desktop.handlerCalls := by
  rw [desktopCycleFocus]
  split
  · rfl
  · split
    · exact desktopFocusWindow_handlerCalls
    · split
      · rfl
      · exact desktopFocusWindow_handlerCalls
      · split
        · rfl
        · exact desktopFocusWindow_handlerCalls

theorem shortcutKey_keyed : Leads (Keyed desktop key) (desktop.shortcutKey key) := by
  rw [shortcutKey]
  apply Leads.ite
  · exact leads_some (keyed_same rfl)
  apply Leads.ite (launch_keyed .notepad)
  apply Leads.ite (launch_keyed .calculator)
  apply Leads.ite (launch_keyed .sysinfo)
  apply Leads.ite
  · have first : (desktop.launch .notepad).handlerCalls = desktop.handlerCalls := launch_handlerCalls
    have second : ((desktop.launch .notepad).launch .calculator).handlerCalls = desktop.handlerCalls :=
      launch_handlerCalls.trans first
    have third : (((desktop.launch .notepad).launch .calculator).launch .sysinfo).handlerCalls = desktop.handlerCalls :=
      launch_handlerCalls.trans second
    exact leads_some (keyed_same third)
  apply Leads.ite
  · exact leads_some (keyed_same desktopCycleFocus_handlerCalls)
  apply Leads.ite
  · rw [desktopCloseFocused]
    split
    · exact leads_some (keyed_same desktopCloseWindow_handlerCalls)
    · exact leads_some (keyed_same rfl)
  cases focused : desktop.desktopGetFocused with
  | none =>
      have same : Leads (Keyed desktop key) (some desktop) := leads_some (keyed_same rfl)
      exact .ite same (.ite same (.ite leads_none same))
  | some index =>
      apply Leads.ite
      · exact leads_some (keyed_same rfl)
      apply Leads.ite
      · exact leads_some (keyed_same desktopFocusWindow_handlerCalls)
      refine .ite leads_none (.ite ?_ (leads_some (keyed_same rfl)))
      obtain same | called := @handleKey_keyed _ _ key focused
      · exact leads_some (.inl same)
      · exact leads_some (.inr called)

theorem desktopHandleKey_keyed : Leads (Keyed desktop key) (desktop.desktopHandleKey key) := by
  rw [desktopHandleKey]
  split
  · next handled inMenu =>
      have menu : Leads (Keyed desktop key) (if desktop.startMenuOpen then desktop.menuKey key else none) :=
        .ite menuKey_keyed leads_none
      exact leads_some (menu handled inMenu)
  · exact shortcutKey_keyed

end AutismOS.Windows.Desktop
