import AutismOS.Windows.Opening

namespace AutismOS.Windows

open AutismOS.Library AutismOS.Input

section Words

variable {value : Nat} {number : Int}

theorem wrap_small (lower : -2 ^ 31 ≤ number) (upper : number < 2 ^ 31) : wrap number = number := by
  apply Int.bmod_eq_of_le
  · omega
  · omega

theorem signed_small (small : value < 2 ^ 31) : signed value = value := by
  apply wrap_small
  · omega
  · omega

theorem unsigned_small (nonnegative : 0 ≤ number) (small : number < 2 ^ 32) : unsigned number = number.toNat := by
  rw [unsigned, Int.emod_eq_of_lt nonnegative small]

theorem unsigned_negative (negative : number < 0) (small : -2 ^ 32 ≤ number) :
    (unsigned number : Int) = number + 2 ^ 32 := by
  rw [unsigned]
  omega

end Words

namespace Window

variable {window : Window} {x y : Int} {width height : Nat}

/-- A window of at least its least size, with its title bar on the screen. -/
structure Fits (minWidth minHeight x y width height : Int) : Prop where
  wide : minWidth ≤ width
  high : minHeight ≤ height
  left : 0 ≤ x
  right : x + width ≤ screenWidth
  top : 0 ≤ y
  bottom : y ≤ screenHeight - taskbarHeight - titlebarHeight

def Placed (window : Window) : Prop :=
  Fits window.minWidth window.minHeight window.x window.y window.width window.height

/-- The place to which a maximized window goes back. -/
def Restorable (window : Window) : Prop :=
  Fits window.minWidth window.minHeight window.restoreX window.restoreY window.restoreWidth window.restoreHeight

/-- The window is placed, it can be maximized, and when it is, it can be restored. -/
structure Steady (window : Window) : Prop where
  placed : window.Placed
  narrow : window.minWidth ≤ 308
  low : window.minHeight ≤ 168
  restores : window.hasFlag windowFlagMaximized = true → window.Restorable

theorem Steady.focused (steady : Steady window) {focused : Bool} : Steady { window with focused } :=
  ⟨steady.placed, steady.narrow, steady.low, steady.restores⟩

theorem Steady.appData (steady : Steady window) {appData : Option (App × Nat)} : Steady { window with appData } :=
  ⟨steady.placed, steady.narrow, steady.low, steady.restores⟩

theorem Steady.toggle (steady : Steady window) : Steady window.desktopToggleMaximize := by
  rw [desktopToggleMaximize]
  split
  · next maximized =>
      have restorable := steady.restores maximized
      exact ⟨restorable, steady.narrow, steady.low, fun _ => restorable⟩
  · have whole : Fits window.minWidth window.minHeight 6 6 308 168 :=
      ⟨Int.ofNat_le.mpr steady.narrow, Int.ofNat_le.mpr steady.low, by decide, by decide, by decide, by decide⟩
    exact ⟨whole, steady.narrow, steady.low, fun _ => steady.placed⟩

/-- A place that is not too far off is brought back to the screen. -/
theorem Steady.move (steady : Steady window) (nearX : x < 2 ^ 31 - 320) (nearY : y < 2 ^ 31 - 18) :
    Steady (window.desktopMoveWindow x y) := by
  rw [desktopMoveWindow]
  split
  · exact steady
  next notMaximized =>
  have placed := steady.placed
  have right : (window.x : Int) + window.width ≤ 320 := placed.right
  have small : signed window.width = window.width := signed_small (by omega)
  have across : ∀ left : Int, 0 ≤ left → left < 2 ^ 31 - 320 →
      (unsigned (if workspaceWidth < wrap (left + signed window.width) then wrap (workspaceWidth - signed window.width)
        else left) : Int) + window.width ≤ 320 := by
    intro left nonnegative near
    rw [small, wrap_small (by omega) (by omega), workspaceWidth, screenWidth]
    split
    · rw [wrap_small (by omega) (by omega), unsigned_small (by omega) (by omega)]
      omega
    · rw [unsigned_small (by omega) (by omega)]
      omega
  have down : ∀ top : Int, 0 ≤ top → top < 2 ^ 31 - 18 →
      (unsigned (if workspaceHeight < wrap (top + titlebarHeight) then workspaceHeight - titlebarHeight else top) : Int) ≤
        162 := by
    intro top nonnegative near
    rw [workspaceHeight, screenHeight, taskbarHeight, titlebarHeight, wrap_small (by omega) (by omega)]
    split
    · decide
    · rw [unsigned_small (by omega) (by omega)]
      omega
  have inside : Fits window.minWidth window.minHeight _ _ window.width window.height :=
    ⟨placed.wide, placed.high, Int.natCast_nonneg _,
      across (if x < 0 then 0 else x) (by split <;> omega) (by split <;> omega), Int.natCast_nonneg _,
      down (if y < 0 then 0 else y) (by split <;> omega) (by split <;> omega)⟩
  exact ⟨inside, steady.narrow, steady.low, fun maximized => absurd maximized notMaximized⟩

/-- A size that is not too large is made to fit. -/
theorem Steady.resize (steady : Steady window) (near : width < 2 ^ 30) :
    Steady (window.desktopResizeWindow width height) := by
  by_cases maximized : window.hasFlag windowFlagMaximized = true
  · rw [desktopResizeWindow, if_pos maximized]
    exact steady
  have placed := steady.placed
  have wide : (window.minWidth : Int) ≤ window.width := placed.wide
  have right : (window.x : Int) + window.width ≤ 320 := placed.right
  have narrow := steady.narrow
  have small : signed window.x = window.x := signed_small (by omega)
  have across : ∀ wanted : Nat, wanted < 2 ^ 30 →
      (window.x : Int) + (if (if workspaceWidth < signed (add window.x wanted) then
        unsigned (workspaceWidth - signed window.x) else wanted) < window.minWidth then window.minWidth
        else if workspaceWidth < signed (add window.x wanted) then unsigned (workspaceWidth - signed window.x)
        else wanted : Nat) ≤ 320 := by
    intro wanted near
    have sum : add window.x wanted = window.x + wanted := Nat.mod_eq_of_lt (by omega)
    rw [sum, signed_small (by omega), small, workspaceWidth, screenWidth, unsigned_small (by omega) (by omega)]
    split
    · split
      · omega
      · omega
    · split
      · omega
      · omega
  have least : ∀ size least : Nat, (least : Int) ≤ (if size < least then least else size : Nat) := by
    intro size least
    split
    · exact Int.le_refl _
    · omega
  obtain ⟨wider, higher, resized, enough, inside, tall⟩ : ∃ wider higher : Nat,
      window.desktopResizeWindow width height = { window with width := wider, height := higher } ∧
      (window.minWidth : Int) ≤ wider ∧ (window.x : Int) + wider ≤ 320 ∧ (window.minHeight : Int) ≤ higher := by
    rw [desktopResizeWindow, if_neg maximized]
    exact ⟨_, _, rfl, least _ _, across (if width < window.minWidth then window.minWidth else width) (by split <;> omega),
      least _ _⟩
  have fits : Fits window.minWidth window.minHeight window.x window.y wider higher :=
    ⟨enough, tall, placed.left, inside, placed.top, placed.bottom⟩
  rw [resized]
  exact ⟨fits, steady.narrow, steady.low, fun restores => absurd restores maximized⟩

/-- A width that came around, because its border is to the left of the window, is taken as it is. -/
theorem Placed.resize_around (placed : window.Placed) (unmaximized : window.hasFlag windowFlagMaximized = false)
    {border : Int} (onScreen : 0 ≤ border) (before : border < window.x) :
    ¬ (window.desktopResizeWindow (unsigned (border - window.x)) height).Placed := by
  have wide : (window.minWidth : Int) ≤ window.width := placed.wide
  have right : (window.x : Int) + window.width ≤ 320 := placed.right
  have around : (unsigned (border - window.x) : Int) = border - window.x + 2 ^ 32 := unsigned_negative (by omega) (by omega)
  have sum : add window.x (unsigned (border - window.x)) = border.toNat := by
    rw [add]
    omega
  have small : signed border.toNat = border := by
    rw [signed_small (by omega), Int.toNat_of_nonneg onScreen]
  have enough : ¬ unsigned (border - window.x) < window.minWidth := by omega
  have inside : ¬ workspaceWidth < border := by
    rw [workspaceWidth, screenWidth]
    omega
  intro resized
  have stays : (window.desktopResizeWindow (unsigned (border - window.x)) height).width = unsigned (border - window.x) ∧
      (window.desktopResizeWindow (unsigned (border - window.x)) height).x = window.x := by
    rw [desktopResizeWindow, unmaximized]
    simp only [Bool.false_eq_true, if_false, if_neg enough, sum, small, if_neg inside, and_self]
  have last := resized.right
  rw [stays.1, stays.2, around] at last
  have last : (window.x : Int) + (border - window.x + 2 ^ 32) ≤ 320 := last
  omega

theorem opened_steady {app : App} {id : Nat} {appData : Option (App × Nat)} : Steady (app.window id appData) := by
  have unmaximized : ¬ decide (0x0D &&& windowFlagMaximized ≠ 0) = true := by decide
  cases app with
  | notepad =>
      have placed : Fits 190 120 14 10 252 164 := ⟨by decide, by decide, by decide, by decide, by decide, by decide⟩
      exact ⟨placed, Nat.le_of_ble_eq_true rfl, Nat.le_of_ble_eq_true rfl, fun maximized => absurd maximized unmaximized⟩
  | calculator =>
      have placed : Fits 160 118 84 24 188 132 := ⟨by decide, by decide, by decide, by decide, by decide, by decide⟩
      exact ⟨placed, Nat.le_of_ble_eq_true rfl, Nat.le_of_ble_eq_true rfl, fun maximized => absurd maximized unmaximized⟩
  | sysinfo =>
      have placed : Fits 190 126 44 18 220 146 := ⟨by decide, by decide, by decide, by decide, by decide, by decide⟩
      exact ⟨placed, Nat.le_of_ble_eq_true rfl, Nat.le_of_ble_eq_true rfl, fun maximized => absurd maximized unmaximized⟩

end Window

namespace Desktop

variable {desktop before middle after : Desktop} {id index : Nat} {app : App} {change : Window → Window}
  {property : Window → Prop}

def Each (property : Window → Prop) (desktop : Desktop) : Prop := ∀ window ∈ desktop.windows, property window

theorem Each.updateWindow (each : Each property desktop)
    (kept : ∀ window, desktop.windows[index]? = some window → property window → property (change window)) :
    Each property (desktop.updateWindow index change) := by
  intro window member
  obtain ⟨place, found⟩ := List.mem_iff_getElem?.mp member
  rw [Desktop.updateWindow, List.getElem?_modify] at found
  obtain ⟨old, isOld, isNew⟩ := Option.map_eq_some_iff.mp found
  have held : property old := each old (List.mem_of_getElem? isOld)
  rw [← isNew]
  split
  · next here =>
      rw [← here] at isOld
      exact kept old isOld held
  · exact held

theorem Each.getState (each : Each property desktop)
    (kept : ∀ window appData, property window → property { window with appData }) :
    Each property (desktop.getState app index) := by
  rw [Desktop.getState]
  split
  · exact each
  · split
    · exact each
    · split
      · exact each
      · exact each.updateWindow fun window _ => kept window _

section Focusing

variable (focusing : ∀ window focused, property window → property { window with focused })

include focusing

theorem Each.focus (each : Each property desktop) : Each property (desktop.desktopFocusWindow id) := by
  obtain same | ⟨windows, perm, raised⟩ := desktop.desktopFocusWindow_cases id
  · rw [same]
    exact each
  · rw [raised]
    intro window member
    obtain ⟨place, inside, rfl⟩ := List.mem_mapIdx.mp member
    exact focusing _ _ (each _ (perm.subset (List.getElem_mem inside)))

theorem Each.close (each : Each property desktop) : Each property (desktop.desktopCloseWindow id) := by
  have closed : Each property ((desktop.removeWindow id).releaseWindow id) := by
    have same : ((desktop.removeWindow id).releaseWindow id).windows = (desktop.removeWindow id).windows := by
      rw [releaseWindow]
      split
      · rfl
      · rfl
    intro window member
    rw [same] at member
    exact each window (List.mem_of_mem_eraseP member)
  rw [desktopCloseWindow, focusTop]
  split
  · exact closed
  · exact Each.focus focusing closed

theorem Each.launch (each : Each property desktop) (fresh : desktop.nextWindowId ∉ desktop.ids)
    (opened : ∀ id appData, property (app.window id appData)) : Each property (desktop.launch app) := by
  by_cases full : maxWindows ≤ desktop.windows.length
  · rw [launch_full full]
    exact each
  · intro window member
    rw [(launch_opens (Nat.not_le.mp full) fresh).1, List.mem_append, List.mem_singleton] at member
    rcases member with old | isNew
    · obtain ⟨original, isOriginal, rfl⟩ := List.mem_map.mp old
      exact focusing original _ (each original isOriginal)
    · rw [isNew]
      exact opened _ _

end Focusing

def OnScreen (x y : Int) : Prop := 0 ≤ x ∧ x < screenWidth ∧ 0 ≤ y ∧ y < screenHeight

instance {x y : Int} : Decidable (OnScreen x y) := inferInstanceAs (Decidable (_ ∧ _))

/-- The mouse holds a window not far from its corner. -/
structure Aimed (dragOffsetX dragOffsetY : Int) : Prop where
  lowerX : -320 ≤ dragOffsetX
  upperX : dragOffsetX ≤ 320
  lowerY : -320 ≤ dragOffsetY
  upperY : dragOffsetY ≤ 320

/-- The window in hand. -/
def heldWindow (desktop : Desktop) : Option Window :=
  (desktop.findWindowById desktop.activeWindow).bind fun index => desktop.windows[index]?

/-- The border that the mouse holds is to the left of the whole window. -/
def PastLeft (desktop : Desktop) (x : Int) : Prop :=
  desktop.activeHit = .resize ∧ ∃ window ∈ desktop.heldWindow, window.hasFlag windowFlagResizable = true ∧
    window.hasFlag windowFlagMaximized = false ∧ x + 4 < window.x

instance {x : Int} : Decidable (desktop.PastLeft x) := inferInstanceAs (Decidable (_ ∧ _))

theorem mem_heldWindow (found : desktop.findWindowById desktop.activeWindow = some index) {window : Window} :
    window ∈ desktop.heldWindow ↔ desktop.windows[index]? = some window := by
  rw [heldWindow, found]
  rfl

theorem Each.dragWindow (each : Each Window.Steady desktop) (aimed : Aimed desktop.dragOffsetX desktop.dragOffsetY) {x y : Int} (onScreen : OnScreen x y)
    (within : ¬ desktop.PastLeft x) : Each Window.Steady (desktop.dragWindow x y) := by
  obtain ⟨left, right, top, bottom⟩ := onScreen
  have right : x < 320 := right
  have bottom : y < 200 := bottom
  obtain ⟨lowerX, upperX, lowerY, upperY⟩ := aimed
  rw [Desktop.dragWindow]
  split
  · exact each
  next index found =>
  apply each.updateWindow
  intro window isHeld steady
  split
  · apply steady.move
    · rw [wrap_small (by omega) (by omega)]
      omega
    · rw [wrap_small (by omega) (by omega)]
      omega
  · split
    · next resizes =>
        by_cases maximized : window.hasFlag windowFlagMaximized = true
        · rw [Window.desktopResizeWindow, if_pos maximized]
          exact steady
        have wide : (window.x : Int) + window.width ≤ 320 := steady.placed.right
        have notPast : (window.x : Int) ≤ x + 4 := Int.not_lt.mp fun past =>
          within ⟨resizes.1, window, (mem_heldWindow found).mpr isHeld, resizes.2, Bool.eq_false_iff.mpr maximized, past⟩
        apply steady.resize
        rw [signed_small (by omega), unsigned_small (by omega) (by omega)]
        omega
    · exact steady

theorem dragWindow_past (each : Each Window.Steady desktop) {x y : Int} (onScreen : OnScreen x y)
    (past : desktop.PastLeft x) : ¬ Each Window.Placed (desktop.dragWindow x y) := by
  obtain ⟨isResize, window, isHeld, resizable, unmaximized, before⟩ := past
  obtain ⟨index, found, isHeld⟩ := Option.bind_eq_some_iff.mp isHeld
  obtain ⟨left, _⟩ := onScreen
  have steady : window.Steady := each window (List.mem_of_getElem? isHeld)
  have right : (window.x : Int) + window.width ≤ 320 := steady.placed.right
  intro placed
  have resized := placed (window.desktopResizeWindow (unsigned (x - signed window.x + 4))
    (unsigned (y - signed window.y + 4))) ?_
  · have border : x - signed window.x + 4 = x + 4 - window.x := by
      rw [signed_small (by omega)]
      omega
    rw [border] at resized
    exact steady.placed.resize_around unmaximized (by omega) before resized
  · apply List.mem_of_getElem? (i := index)
    have notTitle : ¬ (desktop.activeHit = .titlebar ∧ window.hasFlag windowFlagDraggable = true) := by
      rw [isResize]
      exact fun titlebar => HitRegion.noConfusion titlebar.1
    rw [Desktop.dragWindow, found]
    dsimp only
    rw [updateWindow, List.getElem?_modify, isHeld]
    simp only [if_true, Option.map_eq_map, Option.map_some, if_neg notTitle, if_pos (And.intro isResize resizable)]

theorem updateWindow_unmoved : Unmoved desktop (desktop.updateWindow index change) := ⟨rfl, rfl, rfl, rfl⟩

theorem getState_unmoved : Unmoved desktop (desktop.getState app index) := by
  rw [getState]
  split
  · exact .refl
  · split
    · exact .refl
    · split
      · exact .refl
      · exact ⟨rfl, rfl, rfl, rfl⟩

theorem dragWindow_unmoved {x y : Int} : Unmoved desktop (desktop.dragWindow x y) := by
  rw [Desktop.dragWindow]
  split
  · exact .refl
  · exact updateWindow_unmoved

theorem desktopCloseWindow_unmoved : Unmoved desktop (desktop.desktopCloseWindow id) := by
  have released : Unmoved desktop ((desktop.removeWindow id).releaseWindow id) := by
    rw [releaseWindow]
    split
    · exact ⟨rfl, rfl, rfl, rfl⟩
    · exact ⟨rfl, rfl, rfl, rfl⟩
  have unfocused : Unmoved desktop { (desktop.removeWindow id).releaseWindow id with focusedWindow := 0 } :=
    ⟨released.mouseX, released.mouseY, released.dragOffsetX, released.dragOffsetY⟩
  rw [desktopCloseWindow, focusTop]
  split
  · exact unfocused.trans ⟨rfl, rfl, rfl, rfl⟩
  · exact (unfocused.trans desktopFocusWindow_unmoved).trans ⟨rfl, rfl, rfl, rfl⟩

theorem createApp_unmoved {title : List UInt8} {x y width height minWidth minHeight : Nat} :
    Unmoved desktop (desktop.createApp app title x y width height minWidth minHeight) := by
  by_cases full : maxWindows ≤ desktop.windows.length
  · rw [createApp_full full]
    exact .refl
  · rw [createApp, desktopCreateWindow, if_neg full]
    have focused : ∀ opened : Desktop, Unmoved opened (opened.desktopFocusWindow desktop.nextWindowId).setDirty :=
      fun _ => desktopFocusWindow_unmoved.trans ⟨rfl, rfl, rfl, rfl⟩
    refine .trans (.trans (.trans ?_ (focused _)) updateWindow_unmoved) getState_unmoved
    exact ⟨rfl, rfl, rfl, rfl⟩

theorem launch_unmoved : Unmoved desktop (desktop.launch app) := by
  cases app with
  | notepad | calculator | sysinfo => exact createApp_unmoved

theorem Unmoved.aimed (unmoved : Unmoved before after) (aimed : Aimed before.dragOffsetX before.dragOffsetY) :
    Aimed after.dragOffsetX after.dragOffsetY := by
  rw [unmoved.dragOffsetX, unmoved.dragOffsetY]
  exact aimed

theorem createApp_created_opens {title : List UInt8} {x y width height minWidth minHeight : Nat}
    (room : desktop.windows.length < maxWindows) :
    (desktop.createApp app title x y width height minWidth minHeight).created = desktop.created + 1 := by
  rw [createApp, desktopCreateWindow, if_neg (Nat.not_le.mpr room)]
  dsimp only
  rw [getState_edited.created]
  change (desktopFocusWindow _ _).created = _
  rw [desktopFocusWindow_created]

theorem createApp_created {title : List UInt8} {x y width height minWidth minHeight : Nat} :
    desktop.created ≤ (desktop.createApp app title x y width height minWidth minHeight).created := by
  by_cases full : maxWindows ≤ desktop.windows.length
  · exact Nat.le_of_eq (congrArg Desktop.created (createApp_full full).symm)
  · rw [createApp_created_opens (Nat.not_le.mp full)]
    exact Nat.le_succ _

theorem launch_created : desktop.created ≤ (desktop.launch app).created := by
  cases app with
  | notepad | calculator | sysinfo => exact createApp_created

theorem desktopCloseWindow_created : (desktop.desktopCloseWindow id).created = desktop.created :=
  focusTop_created.trans releaseWindow_created

/-- The number of windows that were created only grows. -/
theorem created_closed (least : Nat) : Closed (fun _ _ => True) (fun desktop => least ≤ desktop.created) where
  screen held := held
  focus held := Nat.le_trans held (Nat.le_of_eq desktopFocusWindow_created.symm)
  close held := Nat.le_trans held (Nat.le_of_eq desktopCloseWindow_created.symm)
  launch held := Nat.le_trans held launch_created
  toggle held := held
  state held := Nat.le_trans held (Nat.le_of_eq getState_edited.created.symm)
  hold held _ _ := held
  release held := held

theorem Sound.next_fresh (sound : Sound desktop) : desktop.nextWindowId ∉ desktop.ids := by
  intro member
  have issued := (sound.issued _ member).2
  rw [sound.next] at issued
  exact Nat.not_succ_le_self _ issued

/-- As long as the counter of ids has not come around, the windows are in order and in their places. -/
structure Settled (desktop : Desktop) : Prop where
  orderly : Orderly desktop
  steady : Unwrapped desktop → Each Window.Steady desktop
  aimed : Unwrapped desktop → Aimed desktop.dragOffsetX desktop.dragOffsetY

theorem Settled.step (settled : Settled before) (orderly : Orderly after) (grows : before.created ≤ after.created)
    (unmoved : Unmoved before after) (kept : Sound before → Each Window.Steady before → Each Window.Steady after) :
    Settled after := by
  have back : Unwrapped after → Unwrapped before := Nat.lt_of_le_of_lt grows
  exact ⟨orderly, fun unwrapped => kept (settled.orderly (back unwrapped)) (settled.steady (back unwrapped)),
    fun unwrapped => unmoved.aimed (settled.aimed (back unwrapped))⟩

theorem settled_closed : Closed OnScreen Settled where
  screen settled := ⟨orderly_closed.screen settled.orderly, settled.steady, settled.aimed⟩
  focus settled :=
    settled.step settled.orderly.focus (Nat.le_of_eq desktopFocusWindow_created.symm) desktopFocusWindow_unmoved
      fun _ each => each.focus fun _ _ steady => steady.focused
  close settled :=
    settled.step settled.orderly.close (Nat.le_of_eq desktopCloseWindow_created.symm) desktopCloseWindow_unmoved
      fun _ each => each.close fun _ _ steady => steady.focused
  launch settled :=
    settled.step (orderly_closed.launch settled.orderly) launch_created launch_unmoved
      fun sound each => each.launch (fun _ _ steady => steady.focused) sound.next_fresh fun _ _ => Window.opened_steady
  toggle settled :=
    settled.step (orderly_closed.toggle settled.orderly) (Nat.le_refl _) updateWindow_unmoved
      fun _ each => each.updateWindow fun _ _ steady => steady.toggle
  state settled :=
    settled.step (orderly_closed.state settled.orderly) (Nat.le_of_eq getState_edited.created.symm) getState_unmoved
      fun _ each => each.getState fun _ _ steady => steady.appData
  hold {desktop _ window _} settled onScreen found := by
    refine ⟨orderly_closed.hold settled.orderly trivial found, settled.steady, fun unwrapped => ?_⟩
    have steady : window.Steady := settled.steady unwrapped window (List.mem_of_getElem? found)
    have right : (window.x : Int) + window.width ≤ 320 := steady.placed.right
    have bottom : (window.y : Int) ≤ 162 := steady.placed.bottom
    have mouseRight : desktop.mouseX < 320 := onScreen.2.1
    have mouseTop : 0 ≤ desktop.mouseY ∧ desktop.mouseY < 200 := onScreen.2.2
    obtain ⟨mouseLeft, _⟩ := onScreen
    dsimp only
    rw [signed_small (by omega), signed_small (by omega), wrap_small (by omega) (by omega),
      wrap_small (by omega) (by omega)]
    exact ⟨by omega, by omega, by omega, by omega⟩
  release settled := ⟨orderly_closed.release settled.orderly, settled.steady, settled.aimed⟩

theorem desktopInit_settled {mouseX mouseY : Int} : Settled (desktopInit mouseX mouseY) :=
  ⟨desktopInit_orderly, fun _ _ member => absurd member List.not_mem_nil,
    fun _ =>
      have centered : Aimed 0 0 := ⟨by decide, by decide, by decide, by decide⟩
      centered⟩

variable {usage : Usage} {usages : List Usage} {mouseX mouseY : Int}

/-- The mouse events happen on the screen. -/
def OnScreenUsage : Usage → Prop
  | .event event => OnScreen event.mouse.x event.mouse.y
  | _ => True

instance : DecidablePred OnScreenUsage
  | .event event => inferInstanceAs (Decidable (OnScreen event.mouse.x event.mouse.y))
  | .activate | .launch _ | .key _ | .draw _ _ => isTrue trivial

theorem OnScreenUsage.event (onScreen : OnScreenUsage usage) (event : InputEvent) (isEvent : usage = .event event) :
    OnScreen event.mouse.x event.mouse.y := by
  rw [isEvent] at onScreen
  exact onScreen

/-- The usage moves the border of the window in hand past the left side of the window. -/
def ResizesPast (desktop : Desktop) : Usage → Prop
  | .event event => desktop.Drags event ∧ desktop.PastLeft event.mouse.x
  | _ => False

instance : DecidablePred desktop.ResizesPast
  | .event event => inferInstanceAs (Decidable ((_ ∧ _ ∧ _ ∧ _ ∧ _) ∧ desktop.PastLeft event.mouse.x))
  | .activate | .launch _ | .key _ | .draw _ _ => isFalse not_false

theorem use_created (done : before.use usage = some after) : before.created ≤ after.created := by
  have least : before.created ≤ before.created := Nat.le_refl _
  refine (created_closed before.created).use least (fun _ _ => trivial) (fun event _ _ => ?_) after done
  have edited : Edited (before.pointed event) ((before.pointed event).dragWindow event.mouse.x event.mouse.y) :=
    dragWindow_edited
  exact Nat.le_of_eq edited.created.symm

theorem Settled.use (settled : Settled before) (onScreen : OnScreenUsage usage) (within : ¬ before.ResizesPast usage)
    (done : before.use usage = some after) : Settled after := by
  refine settled_closed.use settled onScreen.event (fun event isEvent drags => ?_) after done
  have pointed : Settled (before.pointed event) := settled_closed.pointed settled
  have notPast : ¬ (before.pointed event).PastLeft event.mouse.x := fun past => by
    rw [isEvent] at within
    exact within ⟨drags, past⟩
  have edited : Edited (before.pointed event) ((before.pointed event).dragWindow event.mouse.x event.mouse.y) :=
    dragWindow_edited
  have back : Unwrapped ((before.pointed event).dragWindow event.mouse.x event.mouse.y) →
      Unwrapped (before.pointed event) := Nat.lt_of_le_of_lt (Nat.le_of_eq edited.created.symm)
  refine ⟨pointed.orderly.edit edited, fun unwrapped => ?_, fun unwrapped => ?_⟩
  · exact (pointed.steady (back unwrapped)).dragWindow (pointed.aimed (back unwrapped))
      (onScreen.event event isEvent) notPast
  · exact dragWindow_unmoved.aimed (pointed.aimed (back unwrapped))

theorem use_drags {event : InputEvent} (drags : before.Drags event) :
    before.use (.event event) = some ((before.pointed event).dragWindow event.mouse.x event.mouse.y).setDirty := by
  obtain ⟨active, isMove, moves, holding⟩ := drags
  rw [Desktop.use, desktopInputHandler, active, isMove, mouseMove, if_pos moves, if_pos holding]
  rfl

/-- In every execution that creates fewer windows than there are ids, all windows are placed after each step, just if
the mouse never takes the border of a window past its left side. -/
theorem run_placed_iff (run : Restricted use (fun _ usage => OnScreenUsage usage) (desktopInit mouseX mouseY) usages after)
    (few : after.created < 2 ^ 32 - 1) :
    Observed use (fun _ _ after => Each Window.Placed after) (desktopInit mouseX mouseY) usages after ↔
      Restricted use (fun before usage => ¬ before.ResizesPast usage) (desktopInit mouseX mouseY) usages after := by
  have below := (run.bounded created (fun _ _ _ performed => use_created performed.2) few).1
  have valid : Restricted use (fun before usage => OnScreenUsage usage ∧
      ∀ next, before.use usage = some next → Unwrapped next) (desktopInit mouseX mouseY) usages after := by
    refine below.mono fun before usage next performed => ⟨⟨performed.1.1, fun other done => ?_⟩, performed.1.2⟩
    rw [Option.some.inj (done.symm.trans performed.1.2)]
    exact performed.2
  refine valid.observed_iff Settled (fun before usage next settled allowed done => ?_)
    (fun before usage next settled allowed done within => settled.use allowed.1 within done) desktopInit_settled
  have unwrapped : Unwrapped next := allowed.2 next done
  constructor
  · intro placed past
    cases usage with
    | activate | launch app | key key | draw x y => exact past
    | event event =>
    obtain ⟨drags, left⟩ := past
    have steady : Each Window.Steady before := settled.steady (Nat.lt_of_le_of_lt (use_created done) unwrapped)
    have moved : Each Window.Steady (before.pointed event) := steady
    rw [use_drags drags] at done
    cases done
    exact dragWindow_past moved allowed.1 left placed
  · intro within window member
    exact ((settled.use allowed.1 within done).steady unwrapped window member).placed

/-- The border of the Notepad window is taken to the place `x`. -/
def resizeUsages (x : Int) : List Usage :=
  [.activate, .launch .notepad, .event (leftButton .mousePress 260 170), .event (leftButton .mouseMove x 150)]

theorem run_placed_resized : ∃ after,
    Observed use (fun _ _ after => Each Window.Placed after) (desktopInit 160 100) (resizeUsages 200) after := by
  have reached : (performAll use (fun before usage => OnScreenUsage usage ∧ ¬ before.ResizesPast usage)
      (desktopInit 160 100) (resizeUsages 200)).any (fun after => after.created < 2 ^ 32 - 1) = true := by decide +kernel
  obtain ⟨after, done, few⟩ := (Option.any_eq_true _ _).mp reached
  have run := (performAll_restricted done).mono fun _ _ _ performed =>
    (⟨of_decide_eq_true performed.1, performed.2⟩ : _ ∧ _)
  have onScreen := run.mono fun _ _ _ performed =>
    (⟨performed.1.1, performed.2⟩ : Guarded (fun _ usage => OnScreenUsage usage) (Stepping use) _ _ _)
  refine ⟨after, (run_placed_iff onScreen (of_decide_eq_true few)).mpr (run.mono fun _ _ _ performed => ?_)⟩
  exact ⟨performed.1.2, performed.2⟩

/-- Taken to the left of the window, it leaves the window with a width of nearly 2^32. -/
theorem run_leaves_screen : ∃ after,
    Restricted use (fun _ usage => OnScreenUsage usage) (desktopInit 160 100) (resizeUsages 5) after ∧
      ¬ Each Window.Placed after := by
  have reached : (performAll use (fun _ usage => OnScreenUsage usage) (desktopInit 160 100) (resizeUsages 5)).any
      (fun after => after.windows.any fun window => screenWidth < (window.x : Int) + window.width) = true := by
    decide +kernel
  obtain ⟨after, done, reached⟩ := (Option.any_eq_true _ _).mp reached
  refine ⟨after, (performAll_restricted done).mono fun _ _ _ performed => ⟨of_decide_eq_true performed.1, performed.2⟩, ?_⟩
  obtain ⟨window, isWindow, outside⟩ := List.any_eq_true.mp reached
  exact fun placed => Int.not_le.mpr (of_decide_eq_true outside) (placed window isWindow).right

end Desktop

end AutismOS.Windows
