import Mathlib.Algebra.Group.Int.Defs
import AutismOS.Input.Core

namespace AutismOS.Windows

open AutismOS.Input

/-! `desktop.c`, and what the applications in `apps` do to windows.

The open windows are a list with the topmost one at its end, and a pointer to a window is its place
in the list.  The three callbacks of a window belong together: they are those of an application.
Their calls are a log; what they do to the content of their own states is not seen here.
-/

def maxWindows : Nat := 8
def taskbarHeight : Int := 20
def startButtonW : Int := 58
def startButtonH : Int := 14
def startMenuH : Int := 84
def windowMinWidth : Nat := 96
def windowMinHeight : Nat := 72
def taskbarButtonW : Int := 68
def taskbarButtonSpacing : Int := 6

/-- `g_chrome` -/
def titlebarHeight : Nat := 18
def closeButtonSize : Nat := 12
def resizeGripSize : Nat := 12
def contentPadding : Nat := 8

def windowFlagVisible : Nat := 0x01
def windowFlagDraggable : Nat := 0x04
def windowFlagResizable : Nat := 0x08
def windowFlagMaximized : Nat := 0x10

def mouseButtonLeft : Nat := 1
def keyEscape : Nat := 0x01
def keyTab : Nat := 0x0F
def keyF1 : Nat := 0x3B
def keyF2 : Nat := 0x3C
def keyF3 : Nat := 0x3D

/-- The cast from `uint32` to `sint32`. -/
def signed (value : Nat) : Int := wrap value

/-- The cast from `sint32` to `uint32`. -/
def unsigned (value : Int) : Nat := (value % 2 ^ 32).toNat

/-- `uint32` arithmetic -/
def add (left right : Nat) : Nat := (left + right) % 2 ^ 32
def sub (left right : Nat) : Nat := (left + 2 ^ 32 - right) % 2 ^ 32

/-- `desktop_hit_region_t` -/
inductive HitRegion where
  | none
  | client
  | titlebar
  | close
  | maximize
  | resize
deriving DecidableEq

/-- The applications that open windows. -/
inductive App where
  | notepad
  | calculator
  | sysinfo
deriving DecidableEq

/-- `window_t`; its data is a state of an application, found by its number. -/
structure Window where
  id : Nat
  x : Nat
  y : Nat
  width : Nat
  height : Nat
  title : List UInt8
  visible : Bool
  focused : Bool
  flags : Nat
  minWidth : Nat
  minHeight : Nat
  restoreX : Nat
  restoreY : Nat
  restoreWidth : Nat
  restoreHeight : Nat
  app : Option App
  appData : Option (App × Nat)
deriving DecidableEq

/-- A call of `handle_key` or `handle_mouse`, with the id of the window. -/
inductive HandlerCall where
  | key (id : Nat) (key : UInt8)
  | mouse (id : Nat) (localX localY : Int) (buttons : Nat)
deriving DecidableEq

/-- `desktop_t` and the other variables; `created` counts the windows that were ever created. -/
structure Desktop where
  windows : List Window
  focusedWindow : Nat
  mouseX : Int
  mouseY : Int
  mouseButtons : Nat
  needsRedraw : Bool
  startMenuOpen : Bool
  activeWindow : Nat
  activeHit : HitRegion
  dragOffsetX : Int
  dragOffsetY : Int
  nextWindowId : Nat
  desktopMode : Bool
  stateCount : App → Nat
  created : Nat
  handlerCalls : List HandlerCall

/-- `desktop_init`, at the mouse position -/
def desktopInit (mouseX mouseY : Int) : Desktop :=
  { windows := [], focusedWindow := 0, mouseX, mouseY, mouseButtons := 0, needsRedraw := true, startMenuOpen := false,
    activeWindow := 0, activeHit := .none, dragOffsetX := 0, dragOffsetY := 0, nextWindowId := 1, desktopMode := false,
    stateCount := fun _ => 0, created := 0, handlerCalls := [] }

def pointInRect (x y rx ry rw rh : Int) : Bool := rx ≤ x && x < wrap (rx + rw) && ry ≤ y && y < wrap (ry + rh)

/-- `desktop_get_workspace_rect`, which starts at 0, 0 -/
def workspaceWidth : Int := screenWidth
def workspaceHeight : Int := screenHeight - taskbarHeight

namespace Window

variable (window : Window)

def hasFlag (flag : Nat) : Bool := window.flags &&& flag ≠ 0

def desktopMoveWindow (x y : Int) : Window :=
  if window.hasFlag windowFlagMaximized then window
  else
    let x := if x < 0 then 0 else x
    let y := if y < 0 then 0 else y
    let x := if workspaceWidth < wrap (x + signed window.width) then wrap (workspaceWidth - signed window.width) else x
    let y := if workspaceHeight < wrap (y + titlebarHeight) then workspaceHeight - titlebarHeight else y
    { window with x := unsigned x, y := unsigned y }

def desktopResizeWindow (width height : Nat) : Window :=
  if window.hasFlag windowFlagMaximized then window
  else
    let width := if width < window.minWidth then window.minWidth else width
    let height := if height < window.minHeight then window.minHeight else height
    let width :=
      if workspaceWidth < signed (add window.x width) then unsigned (workspaceWidth - signed window.x) else width
    let height :=
      if workspaceHeight < signed (add window.y height) then unsigned (workspaceHeight - signed window.y) else height
    let width := if width < window.minWidth then window.minWidth else width
    let height := if height < window.minHeight then window.minHeight else height
    { window with width, height }

def desktopToggleMaximize : Window :=
  if window.hasFlag windowFlagMaximized then
    { window with
      flags := window.flags &&& (2 ^ 32 - 1 - windowFlagMaximized)
      x := window.restoreX
      y := window.restoreY
      width := window.restoreWidth
      height := window.restoreHeight }
  else
    { window with
      restoreX := window.x
      restoreY := window.y
      restoreWidth := window.width
      restoreHeight := window.height
      flags := window.flags ||| windowFlagMaximized
      x := 6
      y := 6
      width := unsigned (workspaceWidth - 12)
      height := unsigned (workspaceHeight - 12) }

/-- The place of `desktop_get_window_content_rect`. -/
def contentX : Int := wrap (signed window.x + contentPadding)
def contentY : Int := wrap (signed window.y + titlebarHeight + contentPadding)

def desktopHitTestWindow (x y : Int) : HitRegion :=
  let right := add window.x window.width
  let bottom := add window.y window.height
  if !window.visible ||
      !pointInRect x y (signed window.x) (signed window.y) (signed window.width) (signed window.height) then .none
  else if pointInRect x y (signed (sub right (closeButtonSize + 6))) (signed (add window.y 3)) closeButtonSize
      closeButtonSize then .close
  else if pointInRect x y (signed (sub right (closeButtonSize + 22))) (signed (add window.y 3)) closeButtonSize
      closeButtonSize then .maximize
  else if window.hasFlag windowFlagResizable &&
      pointInRect x y (signed (sub right (resizeGripSize + 4))) (signed (sub bottom (resizeGripSize + 4)))
        (resizeGripSize + 4 : Nat) (resizeGripSize + 4 : Nat) then .resize
  else if pointInRect x y (signed window.x) (signed window.y) (signed window.width) titlebarHeight then .titlebar
  else .client

end Window

namespace Desktop

variable (desktop : Desktop)

def desktopActivate : Desktop := { desktop with desktopMode := true }

def setDirty : Desktop := { desktop with needsRedraw := true }

/-- `desktop_find_window_by_id` -/
def findWindowById (id : Nat) : Option Nat := desktop.windows.findIdx? fun window => window.id = id

def desktopGetFocused : Option Nat := desktop.findWindowById desktop.focusedWindow

/-- A write through a pointer to a window. -/
def updateWindow (index : Nat) (change : Window → Window) : Desktop :=
  { desktop with windows := desktop.windows.modify index change }

def bringToFront (index : Nat) : Desktop :=
  match desktop.windows[index]? with
  | none => desktop
  | some moved =>
      if index + 1 = desktop.windows.length then desktop
      else { desktop with windows := desktop.windows.eraseIdx index ++ [moved] }

/-- The loop of `desktop_focus_window`. -/
def markFocused : Desktop :=
  { desktop with
    windows := desktop.windows.mapIdx fun index window => { window with focused := index + 1 = desktop.windows.length }
    focusedWindow := (desktop.windows.getLast?.map (·.id)).getD desktop.focusedWindow }

def desktopFocusWindow (id : Nat) : Desktop :=
  match desktop.findWindowById id with
  | none => desktop
  | some index => (desktop.bringToFront index).markFocused.setDirty

/-- Returns the window, unless there are too many. -/
def desktopCreateWindow (title : List UInt8) (x y width height : Nat) : Option Nat × Desktop :=
  if maxWindows ≤ desktop.windows.length then (none, desktop)
  else
    let id := desktop.nextWindowId
    let window : Window :=
      { id, x, y, width, height, title := title.take 31, visible := true, focused := false
        flags := windowFlagVisible ||| windowFlagDraggable ||| windowFlagResizable
        minWidth := windowMinWidth, minHeight := windowMinHeight
        restoreX := 0, restoreY := 0, restoreWidth := 0, restoreHeight := 0, app := none, appData := none }
    let created := { desktop with
      windows := desktop.windows ++ [window.desktopResizeWindow width height]
      nextWindowId := (desktop.nextWindowId + 1) % 2 ^ 32
      created := desktop.created + 1 }
    (some desktop.windows.length, (created.desktopFocusWindow id).setDirty)

/-- The first window with the id is taken out of the list. -/
def removeWindow (id : Nat) : Desktop :=
  { desktop with windows := desktop.windows.eraseP fun window => window.id = id }

/-- A window that is closed is no longer held. -/
def releaseWindow (id : Nat) : Desktop :=
  if desktop.activeWindow = id then { desktop with activeWindow := 0, activeHit := .none } else desktop

def focusTop : Desktop :=
  match desktop.windows.getLast? with
  | none => desktop.setDirty
  | some top => (desktop.desktopFocusWindow top.id).setDirty

def desktopCloseWindow (id : Nat) : Desktop :=
  { (desktop.removeWindow id).releaseWindow id with focusedWindow := 0 }.focusTop

def desktopCycleFocus : Desktop :=
  match desktop.windows.getLast? with
  | none => desktop
  | some top =>
      if desktop.focusedWindow = 0 then desktop.desktopFocusWindow top.id
      else
        match desktop.findWindowById desktop.focusedWindow with
        | none => desktop
        | some 0 => desktop.desktopFocusWindow top.id
        | some (index + 1) =>
            match desktop.windows[index]? with
            | none => desktop
            | some next => desktop.desktopFocusWindow next.id

def desktopCloseFocused : Desktop :=
  if desktop.focusedWindow ≠ 0 then desktop.desktopCloseWindow desktop.focusedWindow else desktop

def desktopToggleLauncher : Desktop := { desktop with startMenuOpen := !desktop.startMenuOpen }.setDirty

/-- `get_notepad_state`, `get_calc_state` and `get_state`: a window without a state gets the next one. -/
def getState (app : App) (index : Nat) : Desktop :=
  match desktop.windows[index]? with
  | none => desktop
  | some window =>
      if window.appData.isSome then desktop
      else if maxWindows ≤ desktop.stateCount app then desktop
      else
        { desktop.updateWindow index fun window => { window with appData := some (app, desktop.stateCount app) } with
          stateCount := Function.update desktop.stateCount app (desktop.stateCount app + 1) }

def createApp (app : App) (title : List UInt8) (x y width height minWidth minHeight : Nat) : Desktop :=
  match desktop.desktopCreateWindow title x y width height with
  | (none, desktop) => desktop
  | (some index, desktop) =>
      (desktop.updateWindow index fun window => { window with minWidth, minHeight, app := some app }).getState app index

def notepadCreate : Desktop :=
  desktop.createApp .notepad [78, 111, 116, 101, 112, 97, 100] 14 10 252 164 190 120

def calculatorCreate : Desktop :=
  desktop.createApp .calculator [67, 97, 108, 99, 117, 108, 97, 116, 111, 114] 84 24 188 132 160 118

def sysinfoCreate : Desktop :=
  desktop.createApp .sysinfo [83, 121, 115, 116, 101, 109, 32, 73, 110, 102, 111] 44 18 220 146 190 126

/-- `w->handle_key(w, key)`.  System Info only draws itself again, on the key R. -/
def handleKey (index : Nat) (key : UInt8) : Desktop :=
  match desktop.windows[index]? with
  | none => desktop
  | some window =>
      let logged := { desktop with handlerCalls := desktop.handlerCalls ++ [.key window.id key] }
      match window.app with
      | none => desktop
      | some .notepad => logged.getState .notepad index
      | some .calculator => logged.getState .calculator index
      | some .sysinfo => if key = 114 ∨ key = 82 then logged.getState .sysinfo index else logged

/-- `w->handle_mouse(w, local_x, local_y, buttons)`.  Notepad does nothing. -/
def handleMouse (index : Nat) (localX localY : Int) (buttons : Nat) : Desktop :=
  match desktop.windows[index]? with
  | none => desktop
  | some window =>
      let logged := { desktop with handlerCalls := desktop.handlerCalls ++ [.mouse window.id localX localY buttons] }
      match window.app with
      | none => desktop
      | some .notepad => logged
      | some .calculator => logged.getState .calculator index
      | some .sysinfo => if buttons % 2 = 1 then logged.getState .sysinfo index else logged

/-- The keys of the open start menu, where one of them is pressed. -/
def menuKey (key : UInt8) : Option Desktop :=
  if key = 49 then some { desktop.notepadCreate with startMenuOpen := false }.setDirty
  else if key = 50 then some { desktop.calculatorCreate with startMenuOpen := false }.setDirty
  else if key = 51 then some { desktop.sysinfoCreate with startMenuOpen := false }.setDirty
  else if key = 27 then some { desktop with startMenuOpen := false }.setDirty
  else none

/-- The keys of the desktop and then those of the focused window.  Key 17 halts the machine. -/
def shortcutKey (key : UInt8) : Option Desktop :=
  if key = 0x80 ∨ key = 27 ∨ key = 96 ∨ key = 20 then some desktop.desktopToggleLauncher
  else if key = 0x83 ∨ key = 49 then some desktop.notepadCreate.setDirty
  else if key = 0x84 ∨ key = 50 then some desktop.calculatorCreate.setDirty
  else if key = 0x85 ∨ key = 51 then some desktop.sysinfoCreate.setDirty
  else if key = 0x86 ∨ key = 14 then some desktop.notepadCreate.calculatorCreate.sysinfoCreate.setDirty
  else if key = 0x88 ∨ key = 9 then some desktop.desktopCycleFocus.setDirty
  else if key = 23 ∨ key = 0x81 then some desktop.desktopCloseFocused
  else if key = 13 ∨ key = 0x87 then
    match desktop.desktopGetFocused with
    | none => some desktop
    | some index => some (desktop.updateWindow index (·.desktopToggleMaximize)).setDirty
  else if key = 18 ∨ key = 0x82 then
    match desktop.desktopGetFocused with
    | none => some desktop
    | some _ => some (desktop.desktopFocusWindow desktop.focusedWindow).setDirty
  else if key = 17 then none
  else
    match desktop.desktopGetFocused with
    | none => some desktop
    | some index =>
        if (desktop.windows[index]?.bind (·.app)).isSome then some (desktop.handleKey index key).setDirty
        else some desktop

def desktopHandleKey (key : UInt8) : Option Desktop :=
  match if desktop.startMenuOpen then desktop.menuKey key else none with
  | some handled => some handled
  | none => desktop.shortcutKey key

/-- The window that is held with the mouse follows it. -/
def dragWindow (x y : Int) : Desktop :=
  match desktop.findWindowById desktop.activeWindow with
  | none => desktop
  | some index =>
      desktop.updateWindow index fun window =>
        if desktop.activeHit = .titlebar ∧ window.hasFlag windowFlagDraggable then
          window.desktopMoveWindow (wrap (x - desktop.dragOffsetX)) (wrap (y - desktop.dragOffsetY))
        else if desktop.activeHit = .resize ∧ window.hasFlag windowFlagResizable then
          window.desktopResizeWindow (unsigned (x - signed window.x + 4)) (unsigned (y - signed window.y + 4))
        else window

def mouseMove (event : InputEvent) : Desktop :=
  if event.mouse.x ≠ desktop.mouseX ∨ event.mouse.y ≠ desktop.mouseY then
    let moved := { desktop with
      mouseX := event.mouse.x, mouseY := event.mouse.y, mouseButtons := event.mouse.buttons % 2 ^ 8 }
    if desktop.activeWindow ≠ 0 ∧ event.mouse.buttons &&& mouseButtonLeft ≠ 0 then
      (moved.dragWindow event.mouse.x event.mouse.y).setDirty
    else moved.setDirty
  else desktop

/-- A press while the start menu is open. -/
def pressMenu : Desktop :=
  let item (top : Int) : Bool :=
    pointInRect desktop.mouseX desktop.mouseY 18 (screenHeight - taskbarHeight - startMenuH + top) 134 18
  if item 24 then { desktop.notepadCreate with startMenuOpen := false }.setDirty
  else if item 45 then { desktop.calculatorCreate with startMenuOpen := false }.setDirty
  else if item 66 then { desktop.sysinfoCreate with startMenuOpen := false }.setDirty
  else desktop.setDirty

/-- The first button of the taskbar at the mouse, of those from `buttonX` on. -/
def pressedButton (buttonX : Int) : List Window → Option Window
  | [] => none
  | window :: rest =>
      if pointInRect desktop.mouseX desktop.mouseY buttonX (screenHeight - taskbarHeight + 2) taskbarButtonW 15 then
        some window
      else pressedButton (buttonX + taskbarButtonW + taskbarButtonSpacing) rest

/-- The focused window is taken in hand, and gets the press if it has its content there. -/
def holdWindow (index : Nat) (target : Window) (hit : HitRegion) : Desktop :=
  let held := { desktop with
    activeWindow := target.id
    activeHit := hit
    dragOffsetX := wrap (desktop.mouseX - signed target.x)
    dragOffsetY := wrap (desktop.mouseY - signed target.y) }
  if hit = .client ∧ target.app.isSome then
    (held.handleMouse index (wrap (held.mouseX - target.contentX)) (wrap (held.mouseY - target.contentY))
      held.mouseButtons).setDirty
  else held.setDirty

/-- A press in a window; no result says that a null pointer was followed. -/
def pressWindow (window : Window) (hit : HitRegion) : Option Desktop :=
  if hit = .close then some (desktop.desktopCloseWindow window.id).setDirty
  else
    let focused := desktop.desktopFocusWindow window.id
    match focused.desktopGetFocused with
    | none => if hit = .maximize then some focused.setDirty else none
    | some index =>
        if hit = .maximize then some (focused.updateWindow index (·.desktopToggleMaximize)).setDirty
        else focused.windows[index]?.map fun target => focused.holdWindow index target hit

/-- The windows are searched from the top, so that the list comes reversed. -/
def pressWindows : List Window → Option Desktop
  | [] => some desktop
  | window :: rest =>
      let hit := window.desktopHitTestWindow desktop.mouseX desktop.mouseY
      if hit = .none then pressWindows rest else desktop.pressWindow window hit

def mousePress (event : InputEvent) : Option Desktop :=
  let desktop := { desktop with
    mouseX := event.mouse.x, mouseY := event.mouse.y, mouseButtons := event.mouse.buttons % 2 ^ 8 }
  if event.mouse.buttonChanged ≠ mouseButtonLeft then some desktop
  else if pointInRect desktop.mouseX desktop.mouseY 8 (screenHeight - taskbarHeight + 3) startButtonW startButtonH then
    some { desktop with startMenuOpen := !desktop.startMenuOpen }.setDirty
  else if desktop.startMenuOpen then some desktop.pressMenu
  else
    match desktop.pressedButton 74 desktop.windows with
    | some window => some (desktop.desktopFocusWindow window.id).setDirty
    | none => desktop.pressWindows desktop.windows.reverse

def mouseRelease (event : InputEvent) : Desktop :=
  let desktop := { desktop with mouseButtons := event.mouse.buttons % 2 ^ 8 }
  if event.mouse.buttonChanged = mouseButtonLeft then { desktop with activeWindow := 0, activeHit := .none } else desktop

def keyPress (event : InputEvent) : Option Desktop :=
  let typed := if event.key.character ≠ 0 then desktop.desktopHandleKey event.key.character else some desktop
  if event.key.keycode = keyEscape then
    if desktop.startMenuOpen then some { desktop with startMenuOpen := false }.setDirty else typed
  else if event.key.keycode = keyF1 then some desktop.notepadCreate.setDirty
  else if event.key.keycode = keyF2 then some desktop.calculatorCreate.setDirty
  else if event.key.keycode = keyF3 then some desktop.sysinfoCreate.setDirty
  else if event.key.keycode = keyTab ∧ event.key.ctrl = true then some desktop.desktopCycleFocus.setDirty
  else typed

/-- `desktop_input_handler` -/
def desktopInputHandler (event : InputEvent) : Option Desktop :=
  if !desktop.desktopMode then some desktop
  else
    match event.type with
    | .mouseMove => some (desktop.mouseMove event)
    | .mousePress => desktop.mousePress event
    | .mouseRelease => some (desktop.mouseRelease event)
    | .keyPress => desktop.keyPress event
    | _ => some desktop

end Desktop

/-- The calls of the interface; a place outside the list is the null pointer. -/
inductive Action where
  | createWindow (title : List UInt8) (x y width height : Nat)
  | closeWindow (id : Nat)
  | focusWindow (id : Nat)
  | cycleFocus
  | toggleMaximize (index : Nat)
  | moveWindow (index : Nat) (x y : Int)
  | resizeWindow (index width height : Nat)
  | handleKey (key : UInt8)
  | inputEvent (event : InputEvent)
  | activate

def Desktop.perform (desktop : Desktop) : Action → Option Desktop
  | .createWindow title x y width height => some (desktop.desktopCreateWindow title x y width height).2
  | .closeWindow id => some (desktop.desktopCloseWindow id)
  | .focusWindow id => some (desktop.desktopFocusWindow id)
  | .cycleFocus => some desktop.desktopCycleFocus
  | .toggleMaximize index => some (desktop.updateWindow index (·.desktopToggleMaximize))
  | .moveWindow index x y => some (desktop.updateWindow index (·.desktopMoveWindow x y))
  | .resizeWindow index width height => some (desktop.updateWindow index (·.desktopResizeWindow width height))
  | .handleKey key => desktop.desktopHandleKey key
  | .inputEvent event => desktop.desktopInputHandler event
  | .activate => some desktop.desktopActivate

end AutismOS.Windows
