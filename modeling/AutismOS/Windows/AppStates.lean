import AutismOS.Windows.Geometry

namespace AutismOS.Windows

open AutismOS.Library

/-! The states of the applications. -/

namespace Desktop

variable {desktop before after : Desktop} {id index : Nat} {app : App} {counts : App → Nat}

/-- The states that the windows hold. -/
def states (desktop : Desktop) : List (App × Nat) := desktop.windows.filterMap (·.appData)

/-- Each window of an application holds a state of that application. -/
def Equipped (desktop : Desktop) : Prop :=
  Each (fun window => ∀ app, window.app = some app → ∃ number, window.appData = some (app, number)) desktop

theorem states_markFocused : desktop.markFocused.states = desktop.states := by
  have same : desktop.markFocused.windows.map (·.appData) = desktop.windows.map (·.appData) := by
    refine List.ext_getElem? fun place => ?_
    rw [List.getElem?_map, List.getElem?_map, markFocused, List.getElem?_mapIdx, Option.map_map]
    rfl
  have asMap : ∀ windows : List Window, windows.filterMap (·.appData) = (windows.map (·.appData)).filterMap id := by
    intro windows
    rw [List.filterMap_map]
    rfl
  rw [states, states, asMap, asMap, same]

theorem states_focus : (desktop.desktopFocusWindow id).states.Perm desktop.states := by
  obtain same | ⟨windows, perm, raised⟩ := desktop.desktopFocusWindow_cases id
  · rw [same]
  · rw [raised]
    change (markFocused { desktop with windows }).states.Perm _
    rw [states_markFocused]
    exact perm.filterMap _

theorem states_close (distinct : desktop.states.Nodup) : (desktop.desktopCloseWindow id).states.Nodup := by
  have same : ((desktop.removeWindow id).releaseWindow id).windows = (desktop.removeWindow id).windows := by
    rw [releaseWindow]
    split
    · rfl
    · rfl
  have fewer : ((desktop.removeWindow id).releaseWindow id).states.Nodup := by
    rw [states, same]
    exact distinct.sublist (List.eraseP_sublist.filterMap _)
  rw [desktopCloseWindow, focusTop]
  split
  · exact fewer
  · exact states_focus.nodup_iff.mpr fewer

theorem stateCount_focus : (desktop.desktopFocusWindow id).stateCount = desktop.stateCount := by
  obtain same | ⟨windows, _, raised⟩ := desktop.desktopFocusWindow_cases id
  · rw [same]
  · rw [raised]
    rfl

theorem stateCount_close : (desktop.desktopCloseWindow id).stateCount = desktop.stateCount := by
  have same : ((desktop.removeWindow id).releaseWindow id).stateCount = desktop.stateCount := by
    rw [releaseWindow]
    split
    · rfl
    · rfl
  rw [desktopCloseWindow, focusTop]
  split
  · exact same
  · exact stateCount_focus.trans same

/-- What happens to windows of applications. -/
inductive AppUse where
  | launch (app : App)
  | close (id : Nat)
  | focus (id : Nat)
  | key (index : Nat) (key : UInt8)
  | mouse (index : Nat) (localX localY : Int) (buttons : Nat)
  | draw (index : Nat)

def useApp (desktop : Desktop) : AppUse → Option Desktop
  | .launch app => some (desktop.launch app)
  | .close id => some (desktop.desktopCloseWindow id)
  | .focus id => some (desktop.desktopFocusWindow id)
  | .key index key => some (desktop.handleKey index key)
  | .mouse index localX localY buttons => some (desktop.handleMouse index localX localY buttons)
  | .draw index => some (desktop.drawWindow index)

/-- After the use, each window has a state of its own, also the one that was opened if there was room for it. -/
structure Served (before : Desktop) (use : AppUse) (after : Desktop) : Prop where
  equipped : Equipped after
  unshared : after.states.Nodup
  opens : ∀ app, use = .launch app → before.windows.length < maxWindows →
    ∃ number, after.windows = unfocused before.windows ++ [app.window before.nextWindowId (some (app, number))]

/-- There is a state left for a window that is opened. -/
def Provided (desktop : Desktop) : AppUse → Prop
  | .launch app => desktop.windows.length < maxWindows → desktop.stateCount app < maxWindows
  | _ => True

instance : DecidablePred desktop.Provided
  | .launch app => inferInstanceAs (Decidable (desktop.windows.length < maxWindows → desktop.stateCount app < maxWindows))
  | .close _ | .focus _ | .key _ _ | .mouse _ _ _ _ | .draw _ => isTrue trivial

/-- The window holds one of the states that were given out. -/
def Holds (counts : App → Nat) (window : Window) : Prop :=
  ∃ app number, window.app = some app ∧ window.appData = some (app, number) ∧ number < counts app

structure Stocked (desktop : Desktop) : Prop where
  orderly : Orderly desktop
  counted : desktop.created = desktop.stateCount .notepad + desktop.stateCount .calculator + desktop.stateCount .sysinfo
  limited : ∀ app, desktop.stateCount app ≤ maxWindows
  holds : Each (Holds desktop.stateCount) desktop
  unshared : desktop.states.Nodup

theorem Stocked.sound (stocked : Stocked desktop) : Sound desktop := by
  apply stocked.orderly
  have notepad := stocked.limited .notepad
  have calculator := stocked.limited .calculator
  have sysinfo := stocked.limited .sysinfo
  rw [maxWindows] at notepad calculator sysinfo
  rw [Unwrapped, stocked.counted]
  omega

theorem Stocked.equipped (stocked : Stocked desktop) : Equipped desktop := by
  intro window member app isApp
  obtain ⟨own, number, isOwn, held, _⟩ := stocked.holds window member
  rw [isApp] at isOwn
  cases isOwn
  exact ⟨number, held⟩

theorem Stocked.focus (stocked : Stocked desktop) : Stocked (desktop.desktopFocusWindow id) := by
  refine ⟨stocked.orderly.focus, ?_, ?_, ?_, states_focus.nodup_iff.mpr stocked.unshared⟩
  · rw [desktopFocusWindow_created, stateCount_focus]
    exact stocked.counted
  · rw [stateCount_focus]
    exact stocked.limited
  · rw [stateCount_focus]
    exact stocked.holds.focus fun _ _ held => held

theorem Stocked.close (stocked : Stocked desktop) : Stocked (desktop.desktopCloseWindow id) := by
  refine ⟨stocked.orderly.close, ?_, ?_, ?_, states_close stocked.unshared⟩
  · rw [desktopCloseWindow_created, stateCount_close]
    exact stocked.counted
  · rw [stateCount_close]
    exact stocked.limited
  · rw [stateCount_close]
    exact stocked.holds.close fun _ _ held => held

theorem Stocked.getState (stocked : Stocked desktop) : desktop.getState app index = desktop := by
  rw [Desktop.getState]
  cases found : desktop.windows[index]? with
  | none => rfl
  | some window =>
      obtain ⟨own, number, _, held, _⟩ := stocked.holds window (List.mem_of_getElem? found)
      dsimp only
      rw [held]
      rfl

theorem stocked_handled : Handled Stocked where
  screen stocked :=
    ⟨orderly_closed.screen stocked.orderly, stocked.counted, stocked.limited, stocked.holds, stocked.unshared⟩
  state stocked := by
    rw [stocked.getState]
    exact stocked

theorem states_unfocused {windows : List Window} :
    (unfocused windows).filterMap (·.appData) = windows.filterMap (·.appData) := by
  rw [unfocused, List.filterMap_map]
  rfl

theorem window_appData {data : Option (App × Nat)} : (app.window id data).appData = data ∧ (app.window id data).app = app := by
  cases app with
  | notepad | calculator | sysinfo => exact ⟨rfl, rfl⟩

theorem launch_created_opens (room : desktop.windows.length < maxWindows) :
    (desktop.launch app).created = desktop.created + 1 := by
  cases app with
  | notepad | calculator | sysinfo => exact createApp_created_opens room

theorem Stocked.launch (stocked : Stocked desktop) (room : desktop.windows.length < maxWindows)
    (left : desktop.stateCount app < maxWindows) :
    Stocked (desktop.launch app) ∧ (desktop.launch app).windows =
      unfocused desktop.windows ++ [app.window desktop.nextWindowId (some (app, desktop.stateCount app))] := by
  obtain ⟨windows, stateCount⟩ : (desktop.launch app).windows = _ ∧ _ := launch_opens room stocked.sound.next_fresh
  have next : desktop.nextState app = some (app, desktop.stateCount app) := if_neg (Nat.not_le.mpr left)
  rw [if_neg (Nat.not_le.mpr left)] at stateCount
  rw [next] at windows
  have older : Each (Holds (desktop.launch app).stateCount) desktop := by
    intro window member
    obtain ⟨own, number, isOwn, held, below⟩ := stocked.holds window member
    refine ⟨own, number, isOwn, held, ?_⟩
    rw [stateCount]
    by_cases same : own = app
    · rw [same, Function.update_self]
      rw [same] at below
      exact Nat.lt_succ_of_lt below
    · rw [Function.update_of_ne same]
      exact below
  refine ⟨⟨orderly_closed.launch stocked.orderly, ?_, ?_, ?_, ?_⟩, windows⟩
  · rw [launch_created_opens room, stateCount, stocked.counted]
    cases app with
    | notepad =>
        simp only [Function.update_self, ne_eq, reduceCtorEq, not_false_iff, Function.update_of_ne]
        omega
    | calculator =>
        simp only [Function.update_self, ne_eq, reduceCtorEq, not_false_iff, Function.update_of_ne]
        omega
    | sysinfo =>
        simp only [Function.update_self, ne_eq, reduceCtorEq, not_false_iff, Function.update_of_ne]
        omega
  · intro other
    rw [stateCount]
    by_cases same : other = app
    · rw [same, Function.update_self]
      exact left
    · rw [Function.update_of_ne same]
      exact stocked.limited other
  · intro window member
    rw [windows, List.mem_append, List.mem_singleton] at member
    rcases member with old | isNew
    · obtain ⟨original, isOriginal, rfl⟩ := List.mem_map.mp old
      exact older original isOriginal
    · rw [isNew]
      refine ⟨app, desktop.stateCount app, window_appData.2, window_appData.1, ?_⟩
      rw [stateCount, Function.update_self]
      exact Nat.lt_succ_self _
  · rw [states, windows, List.filterMap_append, states_unfocused]
    have single : [app.window desktop.nextWindowId (some (app, desktop.stateCount app))].filterMap (·.appData) =
        [(app, desktop.stateCount app)] := by
      rw [List.filterMap_cons, window_appData.1]
      rfl
    rw [single, List.nodup_append]
    refine ⟨stocked.unshared, List.pairwise_singleton .., fun state member other isOther same => ?_⟩
    rw [List.mem_singleton.mp isOther] at same
    obtain ⟨window, isWindow, held⟩ := List.mem_filterMap.mp member
    obtain ⟨own, number, _, ownHeld, below⟩ := stocked.holds window isWindow
    rw [held] at ownHeld
    cases ownHeld
    cases same
    exact Nat.lt_irrefl _ below

/-- Once all states of an application were given out, a new window of it gets none. -/
theorem launch_unequipped (stocked : Stocked desktop) (room : desktop.windows.length < maxWindows)
    (empty : maxWindows ≤ desktop.stateCount app) : ¬ Equipped (desktop.launch app) := by
  intro equipped
  obtain ⟨windows, _⟩ : (desktop.launch app).windows = _ ∧ _ := launch_opens room stocked.sound.next_fresh
  have next : desktop.nextState app = none := if_pos empty
  rw [next] at windows
  have member : app.window desktop.nextWindowId none ∈ (desktop.launch app).windows := by
    rw [windows]
    exact List.mem_append_right _ (List.mem_singleton_self _)
  obtain ⟨number, held⟩ := equipped _ member app window_appData.2
  rw [window_appData.1] at held
  cases held

variable {use : AppUse} {uses : List AppUse} {mouseX mouseY : Int}

theorem Stocked.useApp (stocked : Stocked before) (provided : before.Provided use) (done : before.useApp use = some after) :
    Stocked after := by
  cases use with
  | launch app =>
      cases done
      by_cases room : before.windows.length < maxWindows
      · exact (stocked.launch room (provided room)).1
      · rw [launch_full (Nat.not_lt.mp room)]
        exact stocked
  | close id =>
      cases done
      exact stocked.close
  | focus id =>
      cases done
      exact stocked.focus
  | key index key =>
      cases done
      exact stocked_handled.handleKey stocked
  | mouse index localX localY buttons =>
      cases done
      exact stocked_handled.handleMouse stocked
  | draw index =>
      cases done
      exact stocked_handled.drawWindow stocked

theorem desktopInit_stocked : Stocked (desktopInit mouseX mouseY) :=
  ⟨desktopInit_orderly, rfl, fun _ => Nat.zero_le _, fun _ member => absurd member List.not_mem_nil, List.nodup_nil⟩

theorem Stocked.served_iff (stocked : Stocked before) (done : before.useApp use = some after) :
    Served before use after ↔ before.Provided use := by
  constructor
  · intro served
    cases use with
    | launch app =>
        cases done
        intro room
        exact Nat.not_le.mp fun empty => launch_unequipped stocked room empty served.equipped
    | close id | focus id | key index key | mouse index localX localY buttons | draw index => trivial
  · intro provided
    have kept : Stocked after := stocked.useApp provided done
    refine ⟨kept.equipped, kept.unshared, fun app isLaunch room => ?_⟩
    rw [isLaunch] at provided done
    cases done
    exact ⟨_, (stocked.launch room (provided room)).2⟩

/-- In every execution, all windows have states of their own after each step, just if there is always one left for a
window that is opened. -/
theorem run_served_iff (run : Run (Stepping useApp) (desktopInit mouseX mouseY) uses after) :
    Observed useApp Served (desktopInit mouseX mouseY) uses after ↔
      Restricted useApp Provided (desktopInit mouseX mouseY) uses after := by
  have valid : Restricted useApp (fun _ _ => True) (desktopInit mouseX mouseY) uses after :=
    run.mono fun _ _ _ performed => ⟨trivial, performed⟩
  exact valid.observed_iff Stocked (fun _ _ _ stocked _ done => stocked.served_iff done)
    (fun _ _ _ stocked _ done provided => stocked.useApp provided done) desktopInit_stocked

/-- Notepad is opened and closed again and again. -/
def reopened (times : Nat) : List AppUse :=
  (List.range times).flatMap fun number => [.launch .notepad, .key 0 65, .close (number + 1)]

theorem run_served_reopened : ∃ after, Observed useApp Served (desktopInit 160 100) (reopened 8) after := by
  have reached : (performAll useApp (fun before use => before.Provided use) (desktopInit 160 100) (reopened 8)).isSome =
      true := by decide +kernel
  obtain ⟨after, done⟩ := Option.isSome_iff_exists.mp reached
  have provided := (performAll_restricted done).mono fun _ _ _ performed =>
    (⟨of_decide_eq_true performed.1, performed.2⟩ : Guarded Provided (Stepping useApp) _ _ _)
  exact ⟨after, (run_served_iff (provided.mono fun _ _ _ performed => performed.2)).mpr provided⟩

/-- The ninth window that is opened has no state, though it is the only one. -/
theorem run_without_state : ∃ after, Run (Stepping useApp) (desktopInit 160 100) (reopened 8 ++ [.launch .notepad]) after ∧
    after.windows.length = 1 ∧ ¬ Equipped after := by
  have reached : (performAll useApp (fun _ _ => true) (desktopInit 160 100) (reopened 8 ++ [.launch .notepad])).any
      (fun after => after.windows.map (fun window => (window.app, window.appData)) = [(some .notepad, none)]) = true := by
    decide +kernel
  obtain ⟨after, done, reached⟩ := (Option.any_eq_true _ _).mp reached
  have windows := of_decide_eq_true reached
  have one : after.windows.length = 1 := by
    have lengths := congrArg List.length windows
    rw [List.length_map] at lengths
    exact lengths
  refine ⟨after, (performAll_restricted done).mono fun _ _ _ performed => performed.2, one, fun equipped => ?_⟩
  obtain ⟨window, only⟩ := List.length_eq_one_iff.mp one
  rw [only] at windows
  obtain ⟨isNotepad, without⟩ := Prod.mk.inj (List.cons.inj windows).1
  obtain ⟨number, held⟩ := equipped window (by rw [only]; exact List.mem_singleton_self _) .notepad isNotepad
  rw [without] at held
  cases held

end Desktop

end AutismOS.Windows
