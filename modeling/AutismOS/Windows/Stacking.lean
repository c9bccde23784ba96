import AutismOS.Windows.Interface

namespace AutismOS.Windows

open AutismOS.Library AutismOS.Input

/-! The order of the windows. -/

namespace Desktop

variable {desktop before middle after : Desktop} {id index : Nat} {window : Window} {change : Window → Window}

/-- The ids of the open windows, the topmost one at the end. -/
def ids (desktop : Desktop) : List Nat := desktop.windows.map (·.id)

/-- The ids are those of different windows, and just the topmost window has the focus. -/
structure Stacked (desktop : Desktop) : Prop where
  few : desktop.windows.length ≤ maxWindows
  distinct : desktop.ids.Nodup
  nonzero : 0 ∉ desktop.ids
  top : desktop.focusedWindow = desktop.ids.getLast?.getD 0
  flags : ∀ index window, desktop.windows[index]? = some window →
    (window.focused = true ↔ index + 1 = desktop.windows.length)
  active : desktop.activeWindow = 0 ∨ desktop.activeWindow ∈ desktop.ids

/-- What does not depend on the focus. -/
structure Filed (desktop : Desktop) : Prop where
  few : desktop.windows.length ≤ maxWindows
  distinct : desktop.ids.Nodup
  issued : ∀ id ∈ desktop.ids, 0 < id ∧ id ≤ desktop.created
  next : desktop.nextWindowId = desktop.created + 1
  active : desktop.activeWindow = 0 ∨ desktop.activeWindow ∈ desktop.ids

/-- What the focus is. -/
structure Topped (desktop : Desktop) : Prop where
  top : desktop.focusedWindow = desktop.ids.getLast?.getD 0
  flags : ∀ index window, desktop.windows[index]? = some window →
    (window.focused = true ↔ index + 1 = desktop.windows.length)

structure Sound (desktop : Desktop) : Prop extends Filed desktop, Topped desktop

theorem Sound.stacked (sound : Sound desktop) : Stacked desktop :=
  ⟨sound.few, sound.distinct, fun member => Nat.lt_irrefl 0 (sound.issued 0 member).1, sound.top, sound.flags, sound.active⟩

/-- The counter of ids has not come around. -/
def Unwrapped (desktop : Desktop) : Prop := desktop.created < 2 ^ 32 - 1

/-- What the order and the focus consist of. -/
def marks (desktop : Desktop) : List (Nat × Bool) := desktop.windows.map fun window => (window.id, window.focused)

/-- The windows are changed in other respects only. -/
structure Edited (before after : Desktop) : Prop where
  marks : after.marks = before.marks
  focusedWindow : after.focusedWindow = before.focusedWindow
  activeWindow : after.activeWindow = before.activeWindow
  created : after.created = before.created
  nextWindowId : after.nextWindowId = before.nextWindowId

theorem Edited.refl : Edited desktop desktop := ⟨rfl, rfl, rfl, rfl, rfl⟩

theorem Edited.trans (first : Edited before middle) (second : Edited middle after) : Edited before after :=
  ⟨second.marks.trans first.marks, second.focusedWindow.trans first.focusedWindow,
    second.activeWindow.trans first.activeWindow, second.created.trans first.created,
    second.nextWindowId.trans first.nextWindowId⟩

theorem length_marks : desktop.marks.length = desktop.windows.length := List.length_map _

theorem getElem?_marks :
    desktop.marks[index]? = desktop.windows[index]?.map fun window => (window.id, window.focused) := List.getElem?_map

theorem Edited.length (edited : Edited before after) : after.windows.length = before.windows.length := by
  rw [← length_marks, ← length_marks, edited.marks]

theorem ids_eq_marks : desktop.ids = desktop.marks.map Prod.fst := by
  rw [ids, marks, List.map_map]
  rfl

theorem Edited.ids (edited : Edited before after) : after.ids = before.ids := by
  rw [ids_eq_marks, ids_eq_marks, edited.marks]

theorem Edited.filed (edited : Edited before after) (filed : Filed before) : Filed after := by
  refine ⟨?_, ?_, ?_, ?_, ?_⟩
  · rw [edited.length]
    exact filed.few
  · rw [edited.ids]
    exact filed.distinct
  · rw [edited.ids, edited.created]
    exact filed.issued
  · rw [edited.nextWindowId, edited.created]
    exact filed.next
  · rw [edited.ids, edited.activeWindow]
    exact filed.active

theorem Edited.topped (edited : Edited before after) (topped : Topped before) : Topped after := by
  refine ⟨?_, fun index window found => ?_⟩
  · rw [edited.ids, edited.focusedWindow]
    exact topped.top
  · have marked : after.marks[index]? = some (window.id, window.focused) := by
      rw [getElem?_marks, found]
      rfl
    rw [edited.marks, getElem?_marks] at marked
    obtain ⟨old, isOld, same⟩ := Option.map_eq_some_iff.mp marked
    have focused : old.focused = window.focused := (Prod.mk.inj same).2
    rw [edited.length, ← focused]
    exact topped.flags index old isOld

theorem Edited.sound (edited : Edited before after) (sound : Sound before) : Sound after :=
  ⟨edited.filed sound.toFiled, edited.topped sound.toTopped⟩

/-- A window is changed, but not its id and its focus. -/
theorem updateWindow_edited (same : ∀ window, (change window).id = window.id ∧ (change window).focused = window.focused) :
    Edited desktop (desktop.updateWindow index change) := by
  refine ⟨?_, rfl, rfl, rfl, rfl⟩
  refine List.ext_getElem? fun place => ?_
  rw [getElem?_marks, getElem?_marks, updateWindow, List.getElem?_modify]
  cases desktop.windows[place]? with
  | none => rfl
  | some window =>
      by_cases here : index = place
      · simp only [here, if_true, Option.map_eq_map, Option.map_some, same]
      · simp only [here, if_false, Option.map_eq_map, Option.map_some]

theorem findWindowById_some (found : desktop.findWindowById id = some index) :
    ∃ window, desktop.windows[index]? = some window ∧ window.id = id := by
  obtain ⟨inside, isId, _⟩ := List.findIdx?_eq_some_iff_getElem.mp found
  exact ⟨_, List.getElem?_eq_getElem inside, of_decide_eq_true isId⟩

theorem mem_ids (found : desktop.windows[index]? = some window) : window.id ∈ desktop.ids :=
  List.mem_map_of_mem (List.mem_of_getElem? found)

theorem getElem?_ids : desktop.ids[index]? = desktop.windows[index]?.map (·.id) := List.getElem?_map

theorem findWindowById_none_iff : desktop.findWindowById id = none ↔ id ∉ desktop.ids := by
  rw [findWindowById, List.findIdx?_eq_none_iff, ids]
  constructor
  · intro apart member
    obtain ⟨window, isWindow, isId⟩ := List.mem_map.mp member
    exact absurd isId (of_decide_eq_false (apart window isWindow))
  · intro missing window isWindow
    refine decide_eq_false fun isId => missing ?_
    rw [← isId]
    exact List.mem_map_of_mem isWindow

/-- Among different windows, one is found where it is. -/
theorem findWindowById_of_nodup (distinct : desktop.ids.Nodup) (isId : desktop.ids[index]? = some id) :
    desktop.findWindowById id = some index := by
  cases found : desktop.findWindowById id with
  | none => exact absurd (List.mem_of_getElem? isId) (findWindowById_none_iff.mp found)
  | some place =>
      obtain ⟨window, isWindow, sameId⟩ := findWindowById_some found
      have placed : desktop.ids[place]? = some id := by
        rw [getElem?_ids, isWindow, Option.map_some, sameId]
      have inside : place < desktop.ids.length := (List.getElem?_eq_some_iff.mp placed).1
      rw [(List.getElem?_inj inside distinct).mp (placed.trans isId.symm)]

theorem ids_markFocused : desktop.markFocused.ids = desktop.ids := by
  refine List.ext_getElem? fun place => ?_
  rw [ids, ids, markFocused, List.getElem?_map, List.getElem?_map, List.getElem?_mapIdx, Option.map_map]
  rfl

theorem markFocused_topped (nonempty : desktop.windows ≠ []) : Topped desktop.markFocused := by
  refine ⟨?_, fun place window found => ?_⟩
  · rw [ids_markFocused, ids, List.getLast?_map, markFocused, List.getLast?_eq_getLast_of_ne_nil nonempty]
    rfl
  · rw [markFocused, List.getElem?_mapIdx] at found
    obtain ⟨old, isOld, same⟩ := Option.map_eq_some_iff.mp found
    rw [← same, markFocused, List.length_mapIdx, decide_eq_true_iff]

/-- Windows that come in another order are the same windows. -/
theorem Filed.perm {windows : List Window} (filed : Filed desktop) (perm : windows.Perm desktop.windows) :
    Filed { desktop with windows } := by
  have sameIds : (windows.map (·.id)).Perm desktop.ids := perm.map _
  refine ⟨?_, sameIds.nodup_iff.mpr filed.distinct, fun id member => filed.issued id (sameIds.mem_iff.mp member),
    filed.next, ?_⟩
  · have few : windows.length ≤ maxWindows := by
      rw [perm.length_eq]
      exact filed.few
    exact few
  · exact filed.active.imp id sameIds.mem_iff.mpr

theorem Filed.markFocused (filed : Filed desktop) : Filed desktop.markFocused := by
  have length : desktop.markFocused.windows.length = desktop.windows.length := List.length_mapIdx
  refine ⟨?_, ?_, ?_, filed.next, ?_⟩
  · rw [length]
    exact filed.few
  · rw [ids_markFocused]
    exact filed.distinct
  · rw [ids_markFocused]
    exact filed.issued
  · rw [ids_markFocused]
    exact filed.active

theorem desktopFocusWindow_missing (missing : id ∉ desktop.ids) : desktop.desktopFocusWindow id = desktop := by
  rw [desktopFocusWindow, findWindowById_none_iff.mpr missing]

/-- After an open window got the focus, everything is in order. -/
theorem Filed.focus (filed : Filed desktop) (member : id ∈ desktop.ids) : Sound (desktop.desktopFocusWindow id) := by
  rw [desktopFocusWindow]
  cases found : desktop.findWindowById id with
  | none => exact absurd member (findWindowById_none_iff.mp found)
  | some index =>
      obtain ⟨window, isWindow, _⟩ := findWindowById_some found
      obtain ⟨windows, raised, perm⟩ : ∃ windows, desktop.bringToFront index = { desktop with windows } ∧
        windows.Perm desktop.windows := bringToFront_perm
      dsimp only
      rw [raised]
      have nonempty : windows ≠ [] := by
        intro empty
        rw [empty] at perm
        rw [perm.symm.eq_nil] at isWindow
        cases isWindow
      have marked : Edited ({ desktop with windows } : Desktop).markFocused
          ({ desktop with windows } : Desktop).markFocused.setDirty := ⟨rfl, rfl, rfl, rfl, rfl⟩
      exact marked.sound ⟨(filed.perm perm).markFocused, markFocused_topped nonempty⟩

theorem Sound.focus (sound : Sound desktop) : Sound (desktop.desktopFocusWindow id) := by
  by_cases member : id ∈ desktop.ids
  · exact sound.toFiled.focus member
  · rw [desktopFocusWindow_missing member]
    exact sound

theorem desktopFocusWindow_created : (desktop.desktopFocusWindow id).created = desktop.created := by
  obtain same | ⟨windows, _, raised⟩ := desktop.desktopFocusWindow_cases id
  · rw [same]
  · rw [raised]
    rfl

/-- The windows are in order as long as the counter of ids has not come around. -/
def Orderly (desktop : Desktop) : Prop := Unwrapped desktop → Sound desktop

theorem Orderly.edit (orderly : Orderly before) (edited : Edited before after) : Orderly after := by
  intro unwrapped
  rw [Unwrapped, edited.created] at unwrapped
  exact edited.sound (orderly unwrapped)

/-- Changes of the mouse, the menu and the like. -/
theorem Orderly.dirty (orderly : Orderly desktop) : Orderly desktop.setDirty := orderly.edit ⟨rfl, rfl, rfl, rfl, rfl⟩

theorem Orderly.menu (orderly : Orderly desktop) {startMenuOpen : Bool} : Orderly { desktop with startMenuOpen } :=
  orderly.edit ⟨rfl, rfl, rfl, rfl, rfl⟩

theorem Orderly.focus (orderly : Orderly desktop) : Orderly (desktop.desktopFocusWindow id) := by
  intro unwrapped
  rw [Unwrapped, desktopFocusWindow_created] at unwrapped
  exact (orderly unwrapped).focus

/-- The window in hand is an open one, or none. -/
theorem Orderly.hold (orderly : Orderly desktop) {activeHit : HitRegion} {dragOffsetX dragOffsetY : Int}
    {activeWindow : Nat} (holds : activeWindow = 0 ∨ activeWindow ∈ desktop.ids) :
    Orderly { desktop with activeWindow, activeHit, dragOffsetX, dragOffsetY } := by
  intro unwrapped
  have sound : Sound desktop := orderly unwrapped
  exact ⟨⟨sound.few, sound.distinct, sound.issued, sound.next, holds⟩, ⟨sound.top, sound.flags⟩⟩

theorem desktopMoveWindow_marks {x y : Int} :
    (window.desktopMoveWindow x y).id = window.id ∧ (window.desktopMoveWindow x y).focused = window.focused := by
  rw [Window.desktopMoveWindow]
  split
  · exact ⟨rfl, rfl⟩
  · exact ⟨rfl, rfl⟩

theorem desktopResizeWindow_marks {width height : Nat} :
    (window.desktopResizeWindow width height).id = window.id ∧
      (window.desktopResizeWindow width height).focused = window.focused := by
  rw [Window.desktopResizeWindow]
  split
  · exact ⟨rfl, rfl⟩
  · exact ⟨rfl, rfl⟩

theorem desktopToggleMaximize_marks :
    window.desktopToggleMaximize.id = window.id ∧ window.desktopToggleMaximize.focused = window.focused := by
  rw [Window.desktopToggleMaximize]
  split
  · exact ⟨rfl, rfl⟩
  · exact ⟨rfl, rfl⟩

theorem getState_edited {app : App} : Edited desktop (desktop.getState app index) := by
  rw [getState]
  cases desktop.windows[index]? with
  | none => exact .refl
  | some window =>
      dsimp only
      split
      · exact .refl
      · split
        · exact .refl
        · have given : Edited desktop (desktop.updateWindow index fun window =>
              { window with appData := some (app, desktop.stateCount app) }) := updateWindow_edited fun _ => ⟨rfl, rfl⟩
          exact given.trans ⟨rfl, rfl, rfl, rfl, rfl⟩

theorem dragWindow_edited {x y : Int} : Edited desktop (desktop.dragWindow x y) := by
  rw [dragWindow]
  cases desktop.findWindowById desktop.activeWindow with
  | none => exact .refl
  | some index =>
      refine updateWindow_edited fun window => ?_
      split
      · exact desktopMoveWindow_marks
      · split
        · exact desktopResizeWindow_marks
        · exact ⟨rfl, rfl⟩

theorem Filed.append (filed : Filed desktop) (room : desktop.windows.length < maxWindows)
    (unwrapped : desktop.created + 1 < 2 ^ 32 - 1) (isNext : window.id = desktop.nextWindowId) :
    Filed { desktop with
      windows := desktop.windows ++ [window]
      nextWindowId := (desktop.nextWindowId + 1) % 2 ^ 32
      created := desktop.created + 1 } := by
  have more : (desktop.windows ++ [window]).map (·.id) = desktop.ids ++ [desktop.created + 1] := by
    rw [List.map_append, List.map_singleton, isNext, filed.next]
    rfl
  have fresh : desktop.created + 1 ∉ desktop.ids := fun member =>
    Nat.not_succ_le_self desktop.created (filed.issued _ member).2
  refine ⟨?_, ?_, ?_, ?_, ?_⟩
  · rw [List.length_append]
    exact room
  · rw [ids, more]
    exact List.nodup_append.mpr ⟨filed.distinct, List.pairwise_singleton .., fun id member other isOther => by
      rw [List.mem_singleton.mp isOther]
      intro same
      rw [same] at member
      exact fresh member⟩
  · intro id member
    rw [ids, more, List.mem_append, List.mem_singleton] at member
    rcases member with old | isNew
    · exact ⟨(filed.issued id old).1, Nat.le_succ_of_le (filed.issued id old).2⟩
    · rw [isNew]
      exact ⟨Nat.succ_pos _, Nat.le_refl _⟩
  · have small : desktop.nextWindowId + 1 < 2 ^ 32 := by
      rw [filed.next]
      omega
    rw [Nat.mod_eq_of_lt small, filed.next]
  · refine filed.active.imp id fun member => ?_
    rw [ids, more]
    exact List.mem_append_left _ member

theorem Orderly.create (orderly : Orderly desktop) {title : List UInt8} {x y width height : Nat} :
    Orderly (desktop.desktopCreateWindow title x y width height).2 := by
  rw [desktopCreateWindow]
  by_cases full : maxWindows ≤ desktop.windows.length
  · rw [if_pos full]
    exact orderly
  rw [if_neg full]
  refine Orderly.dirty fun unwrapped => ?_
  rw [Unwrapped, desktopFocusWindow_created] at unwrapped
  have sound : Sound desktop := orderly (Nat.lt_of_succ_lt unwrapped)
  refine Filed.focus (sound.toFiled.append (Nat.not_le.mp full) unwrapped desktopResizeWindow_marks.1) ?_
  refine List.mem_map.mpr ⟨_, List.mem_append_right _ (List.mem_singleton_self _), ?_⟩
  exact desktopResizeWindow_marks.1

theorem Orderly.createApp (orderly : Orderly desktop) {app : App} {title : List UInt8}
    {x y width height minWidth minHeight : Nat} :
    Orderly (desktop.createApp app title x y width height minWidth minHeight) := by
  have created : Orderly (desktop.desktopCreateWindow title x y width height).2 := orderly.create
  rw [Desktop.createApp]
  split
  · next opened isOpened =>
      rw [isOpened] at created
      exact created
  · next index opened isOpened =>
      rw [isOpened] at created
      have named : Edited opened (opened.updateWindow index fun window =>
          { window with minWidth, minHeight, app := some app }) := updateWindow_edited fun _ => ⟨rfl, rfl⟩
      exact (created.edit named).edit getState_edited

/-- The window in hand is one of those that stay, or none. -/
theorem Filed.close (filed : Filed desktop) : Filed ((desktop.removeWindow id).releaseWindow id) := by
  have fewer : (desktop.windows.eraseP fun window => window.id = id).Sublist desktop.windows := List.eraseP_sublist
  have fewerIds : ((desktop.windows.eraseP fun window => window.id = id).map (·.id)).Sublist desktop.ids := fewer.map _
  have few := Nat.le_trans fewer.length_le filed.few
  have distinct := filed.distinct.sublist fewerIds
  have issued : ∀ other ∈ (desktop.windows.eraseP fun window => window.id = id).map (·.id),
      0 < other ∧ other ≤ desktop.created :=
    fun other member => filed.issued other (fewerIds.subset member)
  rw [releaseWindow]
  split
  · exact ⟨few, distinct, issued, filed.next, Or.inl rfl⟩
  · next notActive =>
      refine ⟨few, distinct, issued, filed.next, filed.active.imp (fun none => none) fun member => ?_⟩
      obtain ⟨window, isWindow, isId⟩ := List.mem_map.mp member
      have stays : window ∈ desktop.windows.eraseP fun window => window.id = id := by
        refine (List.mem_eraseP_of_neg ?_).mpr isWindow
        rw [decide_eq_true_iff, isId]
        exact notActive
      exact List.mem_map.mpr ⟨window, stays, isId⟩

theorem Filed.focusTop (filed : Filed desktop) (unfocused : desktop.focusedWindow = 0) : Sound desktop.focusTop := by
  rw [Desktop.focusTop]
  cases last : desktop.windows.getLast? with
  | none =>
      have empty : desktop.windows = [] := List.getLast?_eq_none_iff.mp last
      have topped : Topped desktop := by
        refine ⟨?_, fun index window found => ?_⟩
        · rw [ids, empty, unfocused]
          rfl
        · rw [empty] at found
          cases found
      have dirty : Edited desktop desktop.setDirty := ⟨rfl, rfl, rfl, rfl, rfl⟩
      exact dirty.sound ⟨filed, topped⟩
  | some top =>
      have dirty : Edited (desktop.desktopFocusWindow top.id) (desktop.desktopFocusWindow top.id).setDirty :=
        ⟨rfl, rfl, rfl, rfl, rfl⟩
      exact dirty.sound (filed.focus (List.mem_map_of_mem (List.mem_of_getLast? last)))

theorem focusTop_created : desktop.focusTop.created = desktop.created := by
  rw [focusTop]
  split
  · rfl
  · exact desktopFocusWindow_created

theorem releaseWindow_created : (desktop.releaseWindow id).created = desktop.created := by
  rw [releaseWindow]
  split
  · rfl
  · rfl

theorem Orderly.close (orderly : Orderly desktop) : Orderly (desktop.desktopCloseWindow id) := by
  intro unwrapped
  have same : (desktop.desktopCloseWindow id).created = desktop.created :=
    focusTop_created.trans releaseWindow_created
  rw [Unwrapped, same] at unwrapped
  have closed : Filed ((desktop.removeWindow id).releaseWindow id) := (orderly unwrapped).toFiled.close
  have unfocused : Filed { (desktop.removeWindow id).releaseWindow id with focusedWindow := 0 } :=
    ⟨closed.few, closed.distinct, closed.issued, closed.next, closed.active⟩
  exact unfocused.focusTop rfl

theorem orderly_closed : Closed (fun _ _ => True) Orderly where
  screen orderly := orderly.edit ⟨rfl, rfl, rfl, rfl, rfl⟩
  focus orderly := orderly.focus
  close orderly := orderly.close
  launch {_ app} orderly := by
    cases app with
    | notepad | calculator | sysinfo => exact orderly.createApp
  toggle orderly := orderly.edit (updateWindow_edited fun _ => desktopToggleMaximize_marks)
  state orderly := orderly.edit getState_edited
  hold orderly _ found := orderly.hold (Or.inr (mem_ids found))
  release orderly := orderly.hold (Or.inl rfl)

variable {action : Action} {actions : List Action} {mouseX mouseY : Int}

theorem Orderly.perform (orderly : Orderly before) (done : before.perform action = some after) : Orderly after := by
  cases action with
  | createWindow title x y width height =>
      cases done
      exact orderly.create
  | closeWindow id =>
      cases done
      exact orderly.close
  | focusWindow id =>
      cases done
      exact orderly.focus
  | cycleFocus =>
      cases done
      exact orderly_closed.cycle orderly
  | toggleMaximize index =>
      cases done
      exact orderly.edit (updateWindow_edited fun _ => desktopToggleMaximize_marks)
  | moveWindow index x y =>
      cases done
      exact orderly.edit (updateWindow_edited fun _ => desktopMoveWindow_marks)
  | resizeWindow index width height =>
      cases done
      exact orderly.edit (updateWindow_edited fun _ => desktopResizeWindow_marks)
  | handleKey key => exact orderly_closed.desktopHandleKey orderly after done
  | inputEvent event =>
      have moved : Orderly (before.pointed event) := orderly_closed.pointed orderly
      exact orderly_closed.inputHandler orderly trivial (fun _ => moved.edit dragWindow_edited) after done
  | activate =>
      cases done
      exact orderly.edit ⟨rfl, rfl, rfl, rfl, rfl⟩

theorem desktopInit_orderly : Orderly (desktopInit mouseX mouseY) := by
  intro unwrapped
  refine ⟨⟨Nat.zero_le _, List.nodup_nil, fun id member => ?_, rfl, Or.inl rfl⟩, ⟨rfl, fun index window found => ?_⟩⟩
  · cases member
  · cases found

/-- In every execution that creates fewer windows than there are ids, the windows stay in order. -/
theorem run_stacked (run : Run (Stepping perform) (desktopInit mouseX mouseY) actions after)
    (few : after.created < 2 ^ 32 - 1) : Stacked after :=
  (run.invariant Orderly (fun _ _ _ orderly performed => orderly.perform performed) desktopInit_orderly few).stacked

/-- An event of the left mouse button. -/
def leftButton (type : InputEventType) (x y : Int) : InputEvent :=
  { zeroEvent with type, mouse := { zeroEvent.mouse with x, y, buttons := 1, buttonChanged := 1 } }

/-- Three applications are started, one of them is dragged, and another one is closed. -/
def busyActions : List Action :=
  [.activate, .handleKey 14, .cycleFocus, .inputEvent (leftButton .mousePress 100 30),
    .inputEvent (leftButton .mouseMove 90 40), .inputEvent (leftButton .mouseRelease 90 40), .closeWindow 2, .handleKey 13]

theorem run_stacked_busy : ∃ after, Run (Stepping perform) (desktopInit 160 100) busyActions after ∧
    after.ids = [1, 3] ∧ Stacked after := by
  have reached : (performAll perform (fun _ _ => true) (desktopInit 160 100) busyActions).any
      (fun after => after.created < 2 ^ 32 - 1 ∧ after.ids = [1, 3]) = true := by decide +kernel
  obtain ⟨after, done, reached⟩ := (Option.any_eq_true _ _).mp reached
  have run := (performAll_restricted done).mono fun _ _ _ performed => performed.2
  obtain ⟨few, ids⟩ := of_decide_eq_true reached
  exact ⟨after, run, ids, run_stacked run few⟩

end Desktop

end AutismOS.Windows
