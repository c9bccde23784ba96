import AutismOS.Windows.Stacking

namespace AutismOS.Windows

/-! What a launch does to the windows. -/

/-- The window that an application has when it was opened. -/
def App.window (app : App) (id : Nat) (appData : Option (App × Nat)) : Window :=
  match app with
  | .notepad =>
      { id, appData, app, x := 14, y := 10, width := 252, height := 164, title := [78, 111, 116, 101, 112, 97, 100],
        visible := true, focused := true, flags := 0x0D, minWidth := 190, minHeight := 120,
        restoreX := 0, restoreY := 0, restoreWidth := 0, restoreHeight := 0 }
  | .calculator =>
      { id, appData, app, x := 84, y := 24, width := 188, height := 132,
        title := [67, 97, 108, 99, 117, 108, 97, 116, 111, 114],
        visible := true, focused := true, flags := 0x0D, minWidth := 160, minHeight := 118,
        restoreX := 0, restoreY := 0, restoreWidth := 0, restoreHeight := 0 }
  | .sysinfo =>
      { id, appData, app, x := 44, y := 18, width := 220, height := 146,
        title := [83, 121, 115, 116, 101, 109, 32, 73, 110, 102, 111],
        visible := true, focused := true, flags := 0x0D, minWidth := 190, minHeight := 126,
        restoreX := 0, restoreY := 0, restoreWidth := 0, restoreHeight := 0 }

namespace Desktop

variable {desktop : Desktop} {window : Window} {windows : List Window} {app : App} {title : List UInt8}
  {x y width height minWidth minHeight : Nat}

/-- The window of `desktop_create_window`, with the focus. -/
def createdWindow (id : Nat) (title : List UInt8) (x y width height : Nat) : Window :=
  { ({ id, x, y, width, height, title := title.take 31, visible := true, focused := false
       flags := windowFlagVisible ||| windowFlagDraggable ||| windowFlagResizable
       minWidth := windowMinWidth, minHeight := windowMinHeight
       restoreX := 0, restoreY := 0, restoreWidth := 0, restoreHeight := 0, app := none, appData := none } :
      Window).desktopResizeWindow width height with focused := true }

/-- The state that an application gives to a new window. -/
def nextState (desktop : Desktop) (app : App) : Option (App × Nat) :=
  if maxWindows ≤ desktop.stateCount app then none else some (app, desktop.stateCount app)

def unfocused (windows : List Window) : List Window := windows.map fun window => { window with focused := false }

theorem length_unfocused : (unfocused windows).length = windows.length := List.length_map _

theorem findWindowById_last (isLast : desktop.windows = windows ++ [window]) (fresh : window.id ∉ windows.map (·.id)) :
    desktop.findWindowById window.id = some windows.length := by
  have absent : windows.findIdx? (fun other => other.id = window.id) = none := by
    apply List.findIdx?_eq_none_iff.mpr
    intro other member
    refine decide_eq_false fun same => fresh ?_
    rw [← same]
    exact List.mem_map_of_mem member
  rw [findWindowById, isLast, List.findIdx?_append, absent]
  simp

theorem markFocused_windows (isLast : desktop.windows = windows ++ [window]) :
    desktop.markFocused.windows = unfocused windows ++ [{ window with focused := true }] := by
  have below : windows.mapIdx (fun index other => { other with focused := decide (index + 1 = windows.length + 1) }) =
      unfocused windows := by
    refine List.ext_getElem? fun index => ?_
    rw [List.getElem?_mapIdx, unfocused, List.getElem?_map]
    cases found : windows[index]? with
    | none => rfl
    | some other =>
        have inside : index < windows.length := (List.getElem?_eq_some_iff.mp found).1
        have notLast : ¬ index + 1 = windows.length + 1 := by omega
        simp only [Option.map_some, notLast, decide_false]
  rw [markFocused]
  simp only [isLast, List.mapIdx_append, List.length_append, List.length_singleton, List.mapIdx_singleton, below]
  simp

/-- A window that comes last, with an id of its own, stays there when it gets the focus. -/
theorem desktopFocusWindow_last (isLast : desktop.windows = windows ++ [window]) (fresh : window.id ∉ windows.map (·.id)) :
    desktop.desktopFocusWindow window.id = desktop.markFocused.setDirty := by
  have top : windows.length + 1 = desktop.windows.length := by
    rw [isLast, List.length_append, List.length_singleton]
  have found : desktop.windows[windows.length]? = some window := by
    rw [isLast, List.getElem?_concat_length]
  rw [desktopFocusWindow, findWindowById_last isLast fresh]
  dsimp only
  rw [bringToFront, found]
  dsimp only
  rw [if_pos top]

theorem desktopCreateWindow_full (full : maxWindows ≤ desktop.windows.length) :
    desktop.desktopCreateWindow title x y width height = (none, desktop) := by
  rw [desktopCreateWindow, if_pos full]

theorem desktopCreateWindow_opens (room : desktop.windows.length < maxWindows) (fresh : desktop.nextWindowId ∉ desktop.ids) :
    ∃ after, desktop.desktopCreateWindow title x y width height = (some desktop.windows.length, after) ∧
      after.windows = unfocused desktop.windows ++ [createdWindow desktop.nextWindowId title x y width height] ∧
      after.stateCount = desktop.stateCount ∧ after.activeWindow = desktop.activeWindow := by
  have sameId : ∀ window : Window, (window.desktopResizeWindow width height).id = window.id :=
    fun _ => desktopResizeWindow_marks.1
  rw [desktopCreateWindow, if_neg (Nat.not_le.mpr room)]
  refine ⟨_, rfl, ?_⟩
  generalize opened : Window.desktopResizeWindow _ width height = window
  have isNext : window.id = desktop.nextWindowId := by rw [← opened, sameId]
  rw [← isNext, desktopFocusWindow_last rfl (isNext ▸ fresh)]
  refine ⟨(markFocused_windows rfl).trans ?_, rfl, rfl⟩
  rw [createdWindow, isNext, opened, isNext]

theorem modify_last {change : Window → Window} :
    (windows ++ [window]).modify windows.length change = windows ++ [change window] := by
  induction windows with
  | nil => rfl
  | cons first rest ih => exact congrArg (first :: ·) ih

theorem getState_last (isLast : desktop.windows = windows ++ [window]) (empty : window.appData = none) :
    (desktop.getState app windows.length).windows = windows ++ [{ window with appData := desktop.nextState app }] ∧
      (desktop.getState app windows.length).stateCount =
        if maxWindows ≤ desktop.stateCount app then desktop.stateCount
        else Function.update desktop.stateCount app (desktop.stateCount app + 1) := by
  have found : desktop.windows[windows.length]? = some window := by
    rw [isLast, List.getElem?_concat_length]
  rw [getState, found]
  dsimp only
  rw [empty, nextState]
  by_cases none_left : maxWindows ≤ desktop.stateCount app
  · rw [if_pos none_left, if_pos none_left, if_pos none_left]
    refine ⟨?_, rfl⟩
    cases window
    cases empty
    exact isLast
  · rw [if_neg none_left, if_neg none_left, if_neg none_left]
    refine ⟨?_, rfl⟩
    simp only [updateWindow, isLast, Option.isSome_none, Bool.false_eq_true, if_false]
    exact modify_last

/-- What the first application that is not full does with a new window. -/
theorem createApp_opens (room : desktop.windows.length < maxWindows) (fresh : desktop.nextWindowId ∉ desktop.ids) :
    (desktop.createApp app title x y width height minWidth minHeight).windows =
        unfocused desktop.windows ++ [{ createdWindow desktop.nextWindowId title x y width height with
          minWidth, minHeight, app := some app, appData := desktop.nextState app }] ∧
      (desktop.createApp app title x y width height minWidth minHeight).stateCount =
        if maxWindows ≤ desktop.stateCount app then desktop.stateCount
        else Function.update desktop.stateCount app (desktop.stateCount app + 1) := by
  obtain ⟨created, opened, windows, stateCount, _⟩ : ∃ after,
      desktop.desktopCreateWindow title x y width height = (some desktop.windows.length, after) ∧ _ :=
    desktopCreateWindow_opens room fresh
  have untouched : (createdWindow desktop.nextWindowId title x y width height).appData = none := by
    rw [createdWindow, Window.desktopResizeWindow]
    split
    · rfl
    · rfl
  rw [createApp, opened]
  dsimp only
  generalize isNamed : created.updateWindow desktop.windows.length
    (fun window => { window with minWidth, minHeight, app := some app }) = named
  have last : named.windows = unfocused desktop.windows ++
      [{ createdWindow desktop.nextWindowId title x y width height with minWidth, minHeight, app := some app }] := by
    rw [← isNamed, updateWindow, windows, ← length_unfocused]
    exact modify_last
  have sameCount : named.stateCount = desktop.stateCount := by
    rw [← isNamed, ← stateCount]
    rfl
  have sameNext : named.nextState app = desktop.nextState app := by rw [nextState, nextState, sameCount]
  have given : (named.getState app (unfocused desktop.windows).length).windows = _ ∧ _ := getState_last last untouched
  rw [length_unfocused, sameCount, sameNext] at given
  exact given

/-- A window that fits has the size that it was created with. -/
theorem createdWindow_fits {id : Nat} (wide : windowMinWidth ≤ width) (high : windowMinHeight ≤ height)
    (right : signed (add x width) ≤ workspaceWidth) (bottom : signed (add y height) ≤ workspaceHeight) :
    createdWindow id title x y width height =
      { id, x, y, width, height, title := title.take 31, visible := true, focused := true, flags := 0x0D
        minWidth := windowMinWidth, minHeight := windowMinHeight
        restoreX := 0, restoreY := 0, restoreWidth := 0, restoreHeight := 0, app := none, appData := none } := by
  have unmaximized : ¬ decide ((windowFlagVisible ||| windowFlagDraggable ||| windowFlagResizable) &&& windowFlagMaximized
      ≠ 0) = true := by decide
  rw [createdWindow, Window.desktopResizeWindow, Window.hasFlag, if_neg unmaximized]
  simp only [if_neg (Nat.not_lt.mpr wide), if_neg (Nat.not_lt.mpr high), if_neg (Int.not_lt.mpr right),
    if_neg (Int.not_lt.mpr bottom)]
  rfl

theorem createApp_fits (room : desktop.windows.length < maxWindows) (fresh : desktop.nextWindowId ∉ desktop.ids)
    (wide : windowMinWidth ≤ width) (high : windowMinHeight ≤ height)
    (right : signed (add x width) ≤ workspaceWidth) (bottom : signed (add y height) ≤ workspaceHeight) :
    (desktop.createApp app title x y width height minWidth minHeight).windows = unfocused desktop.windows ++
        [{ id := desktop.nextWindowId, x, y, width, height, title := title.take 31, visible := true, focused := true
           flags := 0x0D, minWidth, minHeight, restoreX := 0, restoreY := 0, restoreWidth := 0, restoreHeight := 0
           app := some app, appData := desktop.nextState app }] ∧
      (desktop.createApp app title x y width height minWidth minHeight).stateCount =
        if maxWindows ≤ desktop.stateCount app then desktop.stateCount
        else Function.update desktop.stateCount app (desktop.stateCount app + 1) := by
  have opened : _ ∧ (desktop.createApp app title x y width height minWidth minHeight).stateCount = _ :=
    createApp_opens room fresh
  rw [createdWindow_fits wide high right bottom] at opened
  exact opened

theorem launch_opens (room : desktop.windows.length < maxWindows) (fresh : desktop.nextWindowId ∉ desktop.ids) :
    (desktop.launch app).windows =
        unfocused desktop.windows ++ [app.window desktop.nextWindowId (desktop.nextState app)] ∧
      (desktop.launch app).stateCount =
        if maxWindows ≤ desktop.stateCount app then desktop.stateCount
        else Function.update desktop.stateCount app (desktop.stateCount app + 1) := by
  cases app with
  | notepad =>
      rw [launch, notepadCreate]
      exact createApp_fits room fresh (by decide) (by decide) (by decide) (by decide)
  | calculator =>
      rw [launch, calculatorCreate]
      exact createApp_fits room fresh (by decide) (by decide) (by decide) (by decide)
  | sysinfo =>
      rw [launch, sysinfoCreate]
      exact createApp_fits room fresh (by decide) (by decide) (by decide) (by decide)

theorem createApp_full (full : maxWindows ≤ desktop.windows.length) :
    desktop.createApp app title x y width height minWidth minHeight = desktop := by
  rw [createApp, desktopCreateWindow_full full]

theorem launch_full (full : maxWindows ≤ desktop.windows.length) : desktop.launch app = desktop := by
  cases app with
  | notepad | calculator | sysinfo => exact createApp_full full

end Desktop

end AutismOS.Windows
