import AutismOS.Library.Layers
import AutismOS.Windows.Geometry

namespace AutismOS.Windows

open AutismOS.Library AutismOS.Input

/-! What is painted, and what is pressed. -/

/-- What a user can press. -/
inductive Element where
  | startButton
  | windowButton (index : Nat)
  | menuItem (app : App)
  | window (index : Nat)
deriving DecidableEq

/-- `draw_filled_rect`: whether it writes the pixel at `x`, `y` of the back buffer.  Each row is filled by a `memset`. -/
def fillsPixel (left top width height : Nat) (x y : Int) : Bool :=
  let maxX := min (add left width) 320
  let maxY := min (add top height) 200
  left < 320 && top < 200 && (List.range maxY).any fun row =>
    top ≤ row && ((row * 320 + left : Nat) : Int) ≤ y * 320 + x &&
      y * 320 + x < ((row * 320 + left + sub maxX left : Nat) : Int)

/-- An element with the rectangle that is filled for it. -/
structure Shape where
  element : Element
  x : Nat
  y : Nat
  width : Nat
  height : Nat

def Shape.paints (shape : Shape) (x y : Int) : Bool := fillsPixel shape.x shape.y shape.width shape.height x y

/-- The loop of `desktop_draw_taskbar`: a button is drawn as long as there is room for it. -/
def windowButtons (index : Nat) (x : Int) : List Window → List Shape
  | [] => []
  | _ :: rest =>
      if x + taskbarButtonW < screenWidth - 8 then
        ⟨.windowButton index, unsigned x, 182, 68, 15⟩ :: windowButtons (index + 1) (x + taskbarButtonW + taskbarButtonSpacing) rest
      else []

/-- `desktop_draw_menu` -/
def menuItems : List Shape :=
  [⟨.menuItem .notepad, 18, 120, 134, 18⟩, ⟨.menuItem .calculator, 18, 141, 134, 18⟩, ⟨.menuItem .sysinfo, 18, 162, 134, 18⟩]

/-- The loop of `desktop_draw` over `desktop_draw_window`. -/
def windowShapes (index : Nat) : List Window → List Shape
  | [] => []
  | window :: rest =>
      (if window.visible then [⟨.window index, window.x, window.y, window.width, window.height⟩] else []) ++
        windowShapes (index + 1) rest

namespace Desktop

variable {desktop : Desktop} {event : InputEvent} {x y : Int} {windows : List Window} {index : Nat} {top : Option Element}

/-- The elements that `desktop_draw` paints, in that order. -/
def shapes (desktop : Desktop) : List Shape :=
  ⟨.startButton, 8, 183, 58, 14⟩ :: windowButtons 0 74 desktop.windows ++
    (if desktop.startMenuOpen then menuItems else []) ++ windowShapes 0 desktop.windows

/-- The last shape that is painted at a point is the one that is seen there. -/
def paint (x y : Int) (top : Option Element) (shape : Shape) : Option Element :=
  if shape.paints x y then some shape.element else top

def paintedAt (desktop : Desktop) (x y : Int) : Option Element := desktop.shapes.foldl (paint x y) none

/-- The element that `desktop_input_handler` finds at the mouse. -/
def pressedButtonIndex (x y : Int) (index : Nat) (buttonX : Int) : List Window → Option Nat
  | [] => none
  | _ :: rest =>
      if pointInRect x y buttonX (screenHeight - taskbarHeight + 2) taskbarButtonW 15 then some index
      else pressedButtonIndex x y (index + 1) (buttonX + taskbarButtonW + taskbarButtonSpacing) rest

def pressedItem (x y : Int) : Option App :=
  let item (top : Int) : Bool := pointInRect x y 18 (screenHeight - taskbarHeight - startMenuH + top) 134 18
  if item 24 then some .notepad
  else if item 45 then some .calculator
  else if item 66 then some .sysinfo
  else none

def takes (x y : Int) (window : Window) : Bool := window.desktopHitTestWindow x y ≠ .none

def pressTarget (desktop : Desktop) (x y : Int) : Option Element :=
  if pointInRect x y 8 (screenHeight - taskbarHeight + 3) startButtonW startButtonH then some .startButton
  else if desktop.startMenuOpen then (pressedItem x y).map .menuItem
  else
    match pressedButtonIndex x y 0 74 desktop.windows with
    | some index => some (.windowButton index)
    | none => (topmost (takes x y) 0 desktop.windows).map .window

/-- What a press on an element does. -/
def pressElement (desktop : Desktop) : Option Element → Option Desktop
  | some .startButton => some { desktop with startMenuOpen := !desktop.startMenuOpen }.setDirty
  | some (.menuItem app) => some { desktop.launch app with startMenuOpen := false }.setDirty
  | some (.windowButton index) =>
      desktop.windows[index]?.map fun window => (desktop.desktopFocusWindow window.id).setDirty
  | some (.window index) =>
      desktop.windows[index]?.bind fun window =>
        desktop.pressWindow window (window.desktopHitTestWindow desktop.mouseX desktop.mouseY)
  | none => some (if desktop.startMenuOpen then desktop.setDirty else desktop)

theorem pointInRect_iff {left top width height : Int} (small : left + width < 2 ^ 31) (wide : -2 ^ 31 ≤ left + width)
    (low : top + height < 2 ^ 31) (high : -2 ^ 31 ≤ top + height) :
    pointInRect x y left top width height = true ↔ left ≤ x ∧ x < left + width ∧ top ≤ y ∧ y < top + height := by
  rw [pointInRect, wrap_small wide small, wrap_small high low]
  simp only [Bool.and_eq_true, decide_eq_true_eq, and_assoc]

/-- A rectangle that does not come around is filled where it is on the screen. -/
theorem fillsPixel_iff {left top width height : Nat} (onScreen : OnScreen x y) (narrow : left + width < 2 ^ 32)
    (low : top + height < 2 ^ 32) : fillsPixel left top width height x y = true ↔
      (left : Int) ≤ x ∧ x < left + width ∧ (top : Int) ≤ y ∧ y < top + height := by
  obtain ⟨mouseLeft, mouseRight, mouseTop, mouseBottom⟩ := onScreen
  have mouseRight : x < 320 := mouseRight
  have mouseBottom : y < 200 := mouseBottom
  have right : add left width = left + width := Nat.mod_eq_of_lt narrow
  have bottom : add top height = top + height := Nat.mod_eq_of_lt low
  rw [fillsPixel, right, bottom]
  simp only [Bool.and_eq_true, decide_eq_true_eq, List.any_eq_true, List.mem_range]
  constructor
  · intro filled
    obtain ⟨⟨insideX, insideY⟩, row, below, ⟨above, first⟩, last⟩ := filled
    have length : sub (min (left + width) 320) left = min (left + width) 320 - left := by
      rw [sub]
      omega
    rw [length] at last
    omega
  · intro inside
    have length : sub (min (left + width) 320) left = min (left + width) 320 - left := by
      rw [sub]
      omega
    refine ⟨⟨by omega, by omega⟩, y.toNat, by omega, ⟨by omega, by omega⟩, ?_⟩
    rw [length]
    omega

/-- The point is in the place of a window button, whether it is drawn or not. -/
def AtButton (x y : Int) (index : Nat) : Prop := 74 + 74 * index ≤ x ∧ x < 74 + 74 * index + 68 ∧ 182 ≤ y ∧ y < 197

instance {index : Nat} : Decidable (AtButton x y index) := inferInstanceAs (Decidable (_ ∧ _))

theorem AtButton.unique {other : Nat} (here : AtButton x y index) (there : AtButton x y other) : index = other := by
  obtain ⟨left, right, _⟩ := here
  obtain ⟨otherLeft, otherRight, _⟩ := there
  omega

theorem pointInRect_button (onScreen : OnScreen x y) :
    pointInRect x y (74 + 74 * index) (screenHeight - taskbarHeight + 2) taskbarButtonW 15 = true ↔
      AtButton x y index := by
  have right : x < 320 := onScreen.2.1
  by_cases near : index < 5
  · rw [screenHeight, taskbarHeight, taskbarButtonW, pointInRect_iff (by omega) (by omega) (by decide) (by decide),
      AtButton]
    omega
  · rw [pointInRect, AtButton]
    simp only [Bool.and_eq_true, decide_eq_true_eq]
    constructor
    · intro inside
      omega
    · intro inside
      omega

theorem next_button : (74 + 74 * index : Int) + taskbarButtonW + taskbarButtonSpacing = 74 + 74 * (index + 1 : Nat) := by
  rw [taskbarButtonW, taskbarButtonSpacing]
  omega

theorem pressedButtonIndex_iff (onScreen : OnScreen x y) {found : Nat} :
    pressedButtonIndex x y index (74 + 74 * index) windows = some found ↔
      AtButton x y found ∧ index ≤ found ∧ found < index + windows.length := by
  induction windows generalizing index with
  | nil =>
      constructor
      · exact fun none => by cases none
      · exact fun inside => absurd inside.2.2 (Nat.not_lt.mpr inside.2.1)
  | cons window rest ih =>
      have here : _ ↔ AtButton x y index := pointInRect_button onScreen
      rw [pressedButtonIndex, next_button]
      by_cases at_ : AtButton x y index
      · rw [if_pos (here.mpr at_), Option.some.injEq]
        constructor
        · intro same
          rw [← same]
          exact ⟨at_, Nat.le_refl _, Nat.lt_add_of_pos_right (Nat.succ_pos _)⟩
        · exact fun inside => at_.unique inside.1
      · rw [if_neg (mt here.mp at_), @ih (index + 1), List.length_cons]
        constructor
        · exact fun inside => ⟨inside.1, by omega, by omega⟩
        · intro inside
          have apart : index ≠ found := by
            intro same
            rw [same] at at_
            exact at_ inside.1
          exact ⟨inside.1, by omega, by omega⟩

theorem paints_button (onScreen : OnScreen x y) (drawn : index < 3) :
    (⟨.windowButton index, unsigned (74 + 74 * index), 182, 68, 15⟩ : Shape).paints x y = true ↔ AtButton x y index := by
  have left : unsigned (74 + 74 * index) = 74 + 74 * index := by
    rw [unsigned_small (by omega) (by omega)]
    omega
  rw [left]
  change fillsPixel (74 + 74 * index) 182 68 15 x y = true ↔ _
  rw [fillsPixel_iff onScreen (by omega) (by omega), AtButton]
  omega

theorem foldl_windowButtons_apart (onScreen : OnScreen x y)
    (apart : ∀ found, AtButton x y found → found < 3 → index ≤ found → ¬ found < index + windows.length) :
    (windowButtons index (74 + 74 * index) windows).foldl (paint x y) top = top := by
  induction windows generalizing index with
  | nil => rfl
  | cons window rest ih =>
      rw [windowButtons, next_button]
      split
      · next room =>
          have drawn : index < 3 := by
            rw [taskbarButtonW, screenWidth] at room
            omega
          have missed : ¬ AtButton x y index := fun here =>
            apart index here drawn (Nat.le_refl _) (Nat.lt_add_of_pos_right (Nat.succ_pos _))
          rw [List.foldl_cons, paint, if_neg (mt (paints_button onScreen drawn).mp missed)]
          refine ih fun found here drawn least below => apart found here drawn (Nat.le_of_succ_le least) ?_
          rw [List.length_cons]
          omega
      · rfl

/-- Only the first three buttons are drawn. -/
theorem foldl_windowButtons_at (onScreen : OnScreen x y) {found : Nat} (here : AtButton x y found) (drawn : found < 3)
    (least : index ≤ found) (below : found < index + windows.length) :
    (windowButtons index (74 + 74 * index) windows).foldl (paint x y) top = some (.windowButton found) := by
  induction windows generalizing index top with
  | nil => exact absurd below (Nat.not_lt.mpr least)
  | cons window rest ih =>
      have room : (74 + 74 * index : Int) + taskbarButtonW < screenWidth - 8 := by
        rw [taskbarButtonW, screenWidth]
        omega
      have shown : index < 3 := Nat.lt_of_le_of_lt least drawn
      rw [windowButtons, if_pos room, next_button, List.foldl_cons, paint]
      by_cases same : index = found
      · rw [same] at shown ⊢
        rw [if_pos ((paints_button onScreen shown).mpr here)]
        refine foldl_windowButtons_apart onScreen fun other there _ least => ?_
        exact absurd (here.unique there) (Nat.ne_of_lt least)
      · rw [if_neg (mt (paints_button onScreen shown).mp fun other => same (other.unique here))]
        rw [List.length_cons] at below
        exact ih (by omega) (by omega)

/-- The point is on the item at this place of the menu. -/
def atItem (x y place : Int) : Bool := pointInRect x y 18 (screenHeight - taskbarHeight - startMenuH + place) 134 18

theorem atItem_iff {place : Int} (inside : 0 ≤ place ∧ place < 100) :
    atItem x y place = true ↔ 18 ≤ x ∧ x < 152 ∧ 96 + place ≤ y ∧ y < 114 + place := by
  rw [atItem, screenHeight, taskbarHeight, startMenuH, pointInRect_iff (by decide) (by decide) (by omega) (by omega)]
  omega

theorem paints_item (onScreen : OnScreen x y) (element : Element) (place : Nat) (inside : place < 100) :
    (⟨element, 18, 96 + place, 134, 18⟩ : Shape).paints x y = atItem x y place := by
  change fillsPixel 18 (96 + place) 134 18 x y = _
  rw [Bool.eq_iff_iff, fillsPixel_iff onScreen (by decide) (by omega), atItem_iff (by omega)]
  omega

theorem atItem_apart {place other : Int} (below : place + 18 ≤ other) (inside : 0 ≤ place) (small : other < 100)
    (here : atItem x y place = true) : atItem x y other = false := by
  refine Bool.eq_false_iff.mpr fun there => ?_
  rw [atItem_iff (by omega)] at here there
  omega

theorem foldl_menuItems (onScreen : OnScreen x y) :
    menuItems.foldl (paint x y) top = ((pressedItem x y).map .menuItem).or top := by
  have notepad : (⟨.menuItem .notepad, 18, 120, 134, 18⟩ : Shape).paints x y = atItem x y 24 :=
    paints_item onScreen _ 24 (by decide)
  have calculator : (⟨.menuItem .calculator, 18, 141, 134, 18⟩ : Shape).paints x y = atItem x y 45 :=
    paints_item onScreen _ 45 (by decide)
  have sysinfo : (⟨.menuItem .sysinfo, 18, 162, 134, 18⟩ : Shape).paints x y = atItem x y 66 :=
    paints_item onScreen _ 66 (by decide)
  have item : pressedItem x y = if atItem x y 24 then some .notepad else if atItem x y 45 then some .calculator
      else if atItem x y 66 then some .sysinfo else none := rfl
  simp only [menuItems, List.foldl_cons, List.foldl_nil, paint, notepad, calculator, sysinfo, item]
  -- the items do not overlap, so that it does not matter which is asked for first
  cases first : atItem x y 24 with
  | true =>
      rw [atItem_apart (by decide) (by decide) (by decide) first, atItem_apart (by decide) (by decide) (by decide) first]
      rfl
  | false =>
      cases second : atItem x y 45 with
      | true =>
          rw [atItem_apart (by decide) (by decide) (by decide) second]
          rfl
      | false =>
          cases atItem x y 66 with
          | true => rfl
          | false => rfl

/-- The window is painted at the point. -/
def paintsWindow (x y : Int) (window : Window) : Bool :=
  window.visible && fillsPixel window.x window.y window.width window.height x y

theorem foldl_windowShapes : (windowShapes index windows).foldl (paint x y) top =
    ((topmost (paintsWindow x y) index windows).map .window).or top := by
  induction windows generalizing index top with
  | nil => rfl
  | cons window rest ih =>
      rw [windowShapes, List.foldl_append, ih, topmost]
      cases topmost (paintsWindow x y) (index + 1) rest with
      | some higher => rfl
      | none =>
          rw [paintsWindow]
          cases window.visible with
          | false => rfl
          | true =>
              rw [if_pos rfl, Bool.true_and, List.foldl_cons, List.foldl_nil, paint, Shape.paints]
              split
              · rfl
              · rfl

theorem takes_iff {window : Window} : takes x y window = true ↔ window.visible = true ∧
    pointInRect x y (signed window.x) (signed window.y) (signed window.width) (signed window.height) = true := by
  rw [takes, Window.desktopHitTestWindow, decide_eq_true_iff, ← Bool.and_eq_true]
  cases inside : window.visible && pointInRect x y (signed window.x) (signed window.y) (signed window.width)
    (signed window.height) with
  | false =>
      rw [← Bool.not_and, inside]
      exact iff_of_false (fun hit => hit rfl) Bool.false_ne_true
  | true =>
      rw [← Bool.not_and, inside]
      refine iff_of_true ?_ rfl
      rw [Bool.not_true, if_neg Bool.false_ne_true]
      split
      · exact HitRegion.noConfusion
      · split
        · exact HitRegion.noConfusion
        · split
          · exact HitRegion.noConfusion
          · split
            · exact HitRegion.noConfusion
            · exact HitRegion.noConfusion

theorem pressedButtonIndex_within {buttonX : Int} {found : Nat}
    (isFound : pressedButtonIndex x y index buttonX windows = some found) :
    index ≤ found ∧ found < index + windows.length := by
  induction windows generalizing index buttonX with
  | nil => cases isFound
  | cons window rest ih =>
      rw [pressedButtonIndex] at isFound
      rw [List.length_cons]
      split at isFound
      · cases isFound
        exact ⟨Nat.le_refl _, Nat.lt_add_of_pos_right (Nat.succ_pos _)⟩
      · obtain ⟨least, below⟩ := ih isFound
        exact ⟨Nat.le_of_succ_le least, by omega⟩

theorem pressedButton_eq {buttonX : Int} : desktop.pressedButton buttonX windows =
    (pressedButtonIndex desktop.mouseX desktop.mouseY index buttonX windows).bind fun found => windows[found - index]? := by
  induction windows generalizing index buttonX with
  | nil => rfl
  | cons window rest ih =>
      rw [pressedButton, pressedButtonIndex]
      split
      · rw [Option.bind_some, Nat.sub_self, List.getElem?_cons_zero]
      · rw [@ih (index + 1)]
        cases isFound : pressedButtonIndex desktop.mouseX desktop.mouseY (index + 1)
          (buttonX + taskbarButtonW + taskbarButtonSpacing) rest with
        | none => rfl
        | some found =>
            have later := (pressedButtonIndex_within isFound).1
            have shift : found - index = found - (index + 1) + 1 := by omega
            rw [Option.bind_some, Option.bind_some, shift, List.getElem?_cons_succ]

theorem pressWindows_append {front back : List Window} : desktop.pressWindows (front ++ back) =
    if front.any (takes desktop.mouseX desktop.mouseY) then desktop.pressWindows front else desktop.pressWindows back := by
  induction front with
  | nil => rfl
  | cons window rest ih =>
      rw [List.cons_append, pressWindows, pressWindows, List.any_cons, takes]
      by_cases missed : window.desktopHitTestWindow desktop.mouseX desktop.mouseY = .none
      · simp only [missed, if_true, ih, ne_eq, not_true, decide_false, Bool.false_or]
      · simp only [missed, if_false, ne_eq, not_false_iff, decide_true, Bool.true_or, if_true]

theorem pressWindows_eq : desktop.pressWindows windows.reverse =
    match topmost (takes desktop.mouseX desktop.mouseY) index windows with
    | some found => windows[found - index]?.bind fun window =>
        desktop.pressWindow window (window.desktopHitTestWindow desktop.mouseX desktop.mouseY)
    | none => some desktop := by
  induction windows generalizing index with
  | nil => rfl
  | cons window rest ih =>
      rw [List.reverse_cons, pressWindows_append, List.any_reverse, topmost]
      cases higher : topmost (takes desktop.mouseX desktop.mouseY) (index + 1) rest with
      | none =>
          have none_above : rest.any (takes desktop.mouseX desktop.mouseY) = false :=
            List.any_eq_false.mpr fun other member => by
              rw [topmost_none_iff.mp higher other member]
              exact Bool.false_ne_true
          rw [none_above, if_neg Bool.false_ne_true, pressWindows, Option.none_or, takes]
          by_cases missed : window.desktopHitTestWindow desktop.mouseX desktop.mouseY = .none
          · simp only [missed, if_true, ne_eq, not_true, decide_false, Bool.false_eq_true, if_false]
            rfl
          · simp only [missed, if_false, ne_eq, not_false_iff, decide_true, if_true, Nat.sub_self, List.getElem?_cons_zero,
              Option.bind_some]
      | some found =>
          obtain ⟨later, upper, isUpper, taken⟩ := topmost_some higher
          have some_above : rest.any (takes desktop.mouseX desktop.mouseY) = true :=
            List.any_eq_true.mpr ⟨upper, List.mem_of_getElem? isUpper, taken⟩
          have shift : found - index = found - (index + 1) + 1 := by omega
          rw [some_above, if_pos rfl, @ih (index + 1), higher, Option.some_or]
          dsimp only
          rw [shift, List.getElem?_cons_succ]

theorem pressMenu_eq (isOpen : desktop.startMenuOpen = true) :
    some desktop.pressMenu = desktop.pressElement ((pressedItem desktop.mouseX desktop.mouseY).map .menuItem) := by
  have item : pressedItem desktop.mouseX desktop.mouseY = if atItem desktop.mouseX desktop.mouseY 24 then some .notepad
      else if atItem desktop.mouseX desktop.mouseY 45 then some .calculator
      else if atItem desktop.mouseX desktop.mouseY 66 then some .sysinfo else none := rfl
  have menu : desktop.pressMenu = if atItem desktop.mouseX desktop.mouseY 24 then
        { desktop.launch .notepad with startMenuOpen := false }.setDirty
      else if atItem desktop.mouseX desktop.mouseY 45 then
        { desktop.launch .calculator with startMenuOpen := false }.setDirty
      else if atItem desktop.mouseX desktop.mouseY 66 then
        { desktop.launch .sysinfo with startMenuOpen := false }.setDirty
      else desktop.setDirty := rfl
  rw [item, menu]
  split
  · rfl
  · split
    · rfl
    · split
      · rfl
      · rw [Option.map_none, pressElement, if_pos isOpen]

theorem press_eq :
    (if pointInRect desktop.mouseX desktop.mouseY 8 (screenHeight - taskbarHeight + 3) startButtonW startButtonH then
      some { desktop with startMenuOpen := !desktop.startMenuOpen }.setDirty
    else if desktop.startMenuOpen then some desktop.pressMenu
    else
      match desktop.pressedButton 74 desktop.windows with
      | some window => some (desktop.desktopFocusWindow window.id).setDirty
      | none => desktop.pressWindows desktop.windows.reverse) =
      desktop.pressElement (desktop.pressTarget desktop.mouseX desktop.mouseY) := by
  rw [pressTarget]
  split
  · rfl
  split
  · next isOpen => exact pressMenu_eq isOpen
  next closed =>
  rw [@pressedButton_eq _ _ 0, @pressWindows_eq _ _ 0]
  cases pressed : pressedButtonIndex desktop.mouseX desktop.mouseY 0 74 desktop.windows with
  | some found =>
      have inside : found < desktop.windows.length := by
        have within := (pressedButtonIndex_within pressed).2
        rw [Nat.zero_add] at within
        exact within
      rw [Option.bind_some, Nat.sub_zero, List.getElem?_eq_getElem inside]
      dsimp only
      rw [pressElement, List.getElem?_eq_getElem inside, Option.map_some]
  | none =>
      rw [Option.bind_none]
      dsimp only
      cases topmost (takes desktop.mouseX desktop.mouseY) 0 desktop.windows with
      | none => rw [Option.map_none, pressElement, if_neg closed]
      | some found => rfl

/-- The handler does with a press of the left button what belongs to the element that it finds. -/
theorem mousePress_eq (isLeft : event.mouse.buttonChanged = mouseButtonLeft) : desktop.mousePress event =
    (desktop.pointed event).pressElement (desktop.pressTarget event.mouse.x event.mouse.y) := by
  rw [mousePress, if_neg (not_not.mpr isLeft)]
  exact press_eq

/-- The point is on the start button. -/
def AtStart (x y : Int) : Prop := 8 ≤ x ∧ x < 66 ∧ 183 ≤ y ∧ y < 197

instance : Decidable (AtStart x y) := inferInstanceAs (Decidable (_ ∧ _))

theorem pointInRect_start : pointInRect x y 8 (screenHeight - taskbarHeight + 3) startButtonW startButtonH = true ↔
    AtStart x y :=
  pointInRect_iff (by decide) (by decide) (by decide) (by decide)

theorem paints_start (onScreen : OnScreen x y) :
    (⟨.startButton, 8, 183, 58, 14⟩ : Shape).paints x y = true ↔ AtStart x y :=
  fillsPixel_iff onScreen (by decide) (by decide)

/-- No window is painted at the point. -/
def Bare (desktop : Desktop) (x y : Int) : Prop := ∀ window ∈ desktop.windows, paintsWindow x y window = false

/-- Nothing is in the way of what a press at the point is for. -/
def Clickable (desktop : Desktop) (x y : Int) : Prop :=
  if AtStart x y then desktop.Bare x y
  else if desktop.startMenuOpen then desktop.Bare x y ∧ ∀ index < desktop.windows.length, AtButton x y index → 3 ≤ index
  else if ∃ index < desktop.windows.length, AtButton x y index then
    desktop.Bare x y ∧ ∀ index < desktop.windows.length, AtButton x y index → index < 3
  else Agree (takes x y) (paintsWindow x y) desktop.windows

theorem paintedAt_eq : desktop.paintedAt x y = ((topmost (paintsWindow x y) 0 desktop.windows).map .window).or
    ((if desktop.startMenuOpen then menuItems else []).foldl (paint x y)
      ((windowButtons 0 74 desktop.windows).foldl (paint x y) (paint x y none ⟨.startButton, 8, 183, 58, 14⟩))) := by
  rw [paintedAt, shapes, List.foldl_append, List.foldl_append, List.foldl_cons, foldl_windowShapes]

theorem bare_iff : desktop.Bare x y ↔ topmost (paintsWindow x y) 0 desktop.windows = none := topmost_none_iff.symm

theorem pressedItem_none (low : 180 ≤ y) : pressedItem x y = none := by
  have item : pressedItem x y = if atItem x y 24 then some .notepad else if atItem x y 45 then some .calculator
      else if atItem x y 66 then some .sysinfo else none := rfl
  have missed : ∀ place, 0 ≤ place ∧ place ≤ 66 → atItem x y place = false := by
    intro place inside
    refine Bool.eq_false_iff.mpr fun here => ?_
    rw [atItem_iff (by omega)] at here
    omega
  rw [item, missed 24 (by decide), missed 45 (by decide), missed 66 (by decide)]
  rfl

/-- Where something else is painted below the windows, that is found just if no window is painted there. -/
theorem eq_paintedAt_iff {target lower : Option Element} (apart : ∀ index, target ≠ some (.window index))
    (painted : desktop.paintedAt x y = ((topmost (paintsWindow x y) 0 desktop.windows).map .window).or lower) :
    target = desktop.paintedAt x y ↔ desktop.Bare x y ∧ target = lower := by
  rw [painted, bare_iff]
  cases topmost (paintsWindow x y) 0 desktop.windows with
  | none => exact ⟨fun same => ⟨rfl, same⟩, fun both => both.2⟩
  | some index => exact ⟨fun same => absurd same (apart index), fun both => absurd both.1 (Option.some_ne_none index)⟩

/-- The window buttons that are painted at the point. -/
theorem buttons_at (onScreen : OnScreen x y) (here : AtButton x y index) (drawn : index < 3)
    (inside : index < windows.length) : (windowButtons 0 74 windows).foldl (paint x y) none = some (.windowButton index) :=
  foldl_windowButtons_at onScreen here drawn (Nat.zero_le _) (by omega)

theorem buttons_apart (onScreen : OnScreen x y) (apart : ∀ index < windows.length, AtButton x y index → 3 ≤ index) :
    (windowButtons 0 74 windows).foldl (paint x y) none = none :=
  foldl_windowButtons_apart onScreen fun index here drawn _ inside =>
    absurd (apart index (by omega) here) (Nat.not_le.mpr drawn)

theorem pressTarget_open_iff (onScreen : OnScreen x y) {lower : Option Element}
    (buttons : (windowButtons 0 74 windows).foldl (paint x y) none = lower) :
    (pressedItem x y).map .menuItem = ((pressedItem x y).map .menuItem).or lower ↔
      ∀ index < windows.length, AtButton x y index → 3 ≤ index := by
  cases pressed : pressedItem x y with
  | some app =>
      refine iff_of_true rfl fun index _ here => ?_
      have low : 182 ≤ y := here.2.2.1
      rw [pressedItem_none (by omega)] at pressed
      cases pressed
  | none =>
      rw [Option.map_none, Option.none_or, ← buttons]
      constructor
      · intro nothing index inside here
        refine Nat.not_lt.mp fun drawn => ?_
        rw [buttons_at onScreen here drawn inside] at nothing
        cases nothing
      · intro apart
        exact (buttons_apart onScreen apart).symm

theorem pressTarget_button_iff (onScreen : OnScreen x y) {found : Nat} (here : AtButton x y found)
    (inside : found < windows.length) :
    some (.windowButton found) = (windowButtons 0 74 windows).foldl (paint x y) none ↔
      ∀ index < windows.length, AtButton x y index → index < 3 := by
  by_cases drawn : found < 3
  · rw [buttons_at onScreen here drawn inside]
    refine iff_of_true rfl fun index _ there => ?_
    rw [there.unique here]
    exact drawn
  · have nothing : (windowButtons 0 74 windows).foldl (paint x y) none = none :=
      buttons_apart onScreen fun index _ there => by
        rw [there.unique here]
        exact Nat.not_lt.mp drawn
    rw [nothing]
    exact iff_of_false (Option.some_ne_none _) fun all => drawn (all found inside here)

theorem pressTarget_eq_iff (onScreen : OnScreen x y) :
    desktop.pressTarget x y = desktop.paintedAt x y ↔ desktop.Clickable x y := by
  have start : (74 : Int) = 74 + 74 * (0 : Nat) := rfl
  rw [pressTarget, Clickable]
  by_cases atStart : AtStart x y
  · rw [if_pos (pointInRect_start.mpr atStart), if_pos atStart]
    have painted : desktop.paintedAt x y =
        ((topmost (paintsWindow x y) 0 desktop.windows).map .window).or (some .startButton) := by
      have apart : ∀ found, AtButton x y found → ¬ found < 0 + desktop.windows.length := by
        intro found here
        obtain ⟨left, right, _⟩ := atStart
        obtain ⟨buttonLeft, _⟩ := here
        omega
      have buttons : (windowButtons 0 74 desktop.windows).foldl (paint x y) (some .startButton) = some .startButton := by
        rw [start, foldl_windowButtons_apart onScreen fun found here _ _ => apart found here]
      have menu : menuItems.foldl (paint x y) (some .startButton) = some .startButton := by
        rw [foldl_menuItems onScreen, pressedItem_none (by have top := atStart.2.2.1; omega)]
        rfl
      rw [paintedAt_eq, paint, if_pos ((paints_start onScreen).mpr atStart), buttons]
      split
      · rw [menu]
      · rfl
    rw [eq_paintedAt_iff (fun index same => by cases same) painted]
    exact ⟨fun both => both.1, fun bare => ⟨bare, rfl⟩⟩
  rw [if_neg (mt pointInRect_start.mp atStart), if_neg atStart]
  have unpainted : paint x y none ⟨.startButton, 8, 183, 58, 14⟩ = none :=
    if_neg (mt (paints_start onScreen).mp atStart)
  by_cases isOpen : desktop.startMenuOpen = true
  · have painted : desktop.paintedAt x y = ((topmost (paintsWindow x y) 0 desktop.windows).map .window).or
        (((pressedItem x y).map .menuItem).or ((windowButtons 0 74 desktop.windows).foldl (paint x y) none)) := by
      rw [paintedAt_eq, unpainted, if_pos isOpen, foldl_menuItems onScreen]
    have apart : ∀ index, (pressedItem x y).map Element.menuItem ≠ some (Element.window index) := by
      intro index same
      obtain ⟨app, _, other⟩ := Option.map_eq_some_iff.mp same
      cases other
    rw [if_pos isOpen, if_pos isOpen, eq_paintedAt_iff apart painted, pressTarget_open_iff onScreen rfl]
  have painted : desktop.paintedAt x y = ((topmost (paintsWindow x y) 0 desktop.windows).map .window).or
      ((windowButtons 0 74 desktop.windows).foldl (paint x y) none) := by
    rw [paintedAt_eq, unpainted, if_neg isOpen, List.foldl_nil]
  rw [if_neg isOpen, if_neg isOpen]
  cases pressed : pressedButtonIndex x y 0 74 desktop.windows with
  | some found =>
      rw [start] at pressed
      obtain ⟨here, _, inside⟩ := (pressedButtonIndex_iff onScreen).mp pressed
      rw [Nat.zero_add] at inside
      rw [if_pos ⟨found, inside, here⟩, eq_paintedAt_iff (fun index same => by cases same) painted,
        pressTarget_button_iff onScreen here inside]
  | none =>
      have missed : ¬ ∃ index < desktop.windows.length, AtButton x y index := by
        intro button
        obtain ⟨index, inside, here⟩ := button
        have found := (pressedButtonIndex_iff onScreen).mpr ⟨here, Nat.zero_le _, Nat.lt_of_lt_of_eq inside (Nat.zero_add _).symm⟩
        rw [← start, pressed] at found
        cases found
      have nothing : (windowButtons 0 74 desktop.windows).foldl (paint x y) none = none :=
        buttons_apart onScreen fun index inside here => absurd ⟨index, inside, here⟩ missed
      have injective : Function.Injective Element.window := fun _ _ same => Element.window.inj same
      rw [if_neg missed, painted, nothing, Option.or_none, (Option.map_injective injective).eq_iff, topmost_eq_iff]

/-- Windows that do not come around are pressed where they are painted. -/
theorem takes_eq_paintsWindow (onScreen : OnScreen x y) {window : Window} (narrow : window.x + window.width < 2 ^ 31)
    (low : window.y + window.height < 2 ^ 31) : takes x y window = paintsWindow x y window := by
  rw [Bool.eq_iff_iff, takes_iff, paintsWindow, Bool.and_eq_true, fillsPixel_iff onScreen (by omega) (by omega),
    signed_small (by omega), signed_small (by omega), signed_small (by omega), signed_small (by omega),
    pointInRect_iff (by omega) (by omega) (by omega) (by omega)]

/-- A press of the left button is for the element that the handler finds, and that is the one that is painted last at
the mouse just if nothing is in the way. -/
theorem press_painted_iff (active : desktop.desktopMode = true) (isPress : event.type = .mousePress)
    (isLeft : event.mouse.buttonChanged = mouseButtonLeft) (onScreen : OnScreen event.mouse.x event.mouse.y) :
    desktop.desktopInputHandler event =
        (desktop.pointed event).pressElement (desktop.pressTarget event.mouse.x event.mouse.y) ∧
      (desktop.pressTarget event.mouse.x event.mouse.y = desktop.paintedAt event.mouse.x event.mouse.y ↔
        desktop.Clickable event.mouse.x event.mouse.y) := by
  refine ⟨?_, pressTarget_eq_iff onScreen⟩
  rw [← mousePress_eq isLeft, desktopInputHandler, active, isPress]
  rfl

/-- The window of the calculator lies over that of Notepad. -/
def overlapping : Desktop := ((desktopInit 160 100).desktopActivate.launch .notepad).launch .calculator

/-- The menu lies beside the only window. -/
def menuBeside : Desktop := ((desktopInit 160 100).desktopActivate.launch .calculator).desktopToggleLauncher

theorem press_painted_start :
    (overlapping.pressTarget 100 50 = some (.window 1) ∧ overlapping.pressTarget 100 50 = overlapping.paintedAt 100 50) ∧
    (menuBeside.pressTarget 20 125 = some (.menuItem .notepad) ∧
      menuBeside.pressTarget 20 125 = menuBeside.paintedAt 20 125) := by
  have windowPress := @press_painted_iff overlapping (leftButton .mousePress 100 50) rfl rfl rfl (by decide)
  have menuPress := @press_painted_iff menuBeside (leftButton .mousePress 20 125) rfl rfl rfl (by decide)
  have clickable : overlapping.Clickable 100 50 := by
    rw [Clickable, if_neg (by decide), if_neg (by decide), if_neg (by decide)]
    exact ⟨⟨trivial, fun _ => by decide⟩, fun _ => by decide⟩
  have beside : menuBeside.Clickable 20 125 := by
    have bare : ∀ window ∈ menuBeside.windows, paintsWindow 20 125 window = false := by decide
    rw [Clickable, if_neg (by decide), if_pos (by decide)]
    exact ⟨bare, by decide⟩
  exact ⟨⟨by decide, windowPress.2.mpr clickable⟩, by decide, menuPress.2.mpr beside⟩

/-- Notepad is opened, and then the menu. -/
def menuUsages : List Usage := [.activate, .launch .notepad, .event (leftButton .mousePress 10 185)]

/-- The window of Notepad lies on the menu, but a press on it is for the menu item behind, and opens a second window. -/
theorem press_behind_window : ∃ desktop,
    Restricted use (fun _ usage => OnScreenUsage usage) (desktopInit 160 100) menuUsages desktop ∧
      desktop.paintedAt 20 125 = some (.window 0) ∧ desktop.pressTarget 20 125 = some (.menuItem .notepad) ∧
      ∃ after, desktop.desktopInputHandler (leftButton .mousePress 20 125) = some after ∧ after.windows.length = 2 := by
  have reached : (performAll use (fun _ usage => OnScreenUsage usage) (desktopInit 160 100) menuUsages).any
      (fun desktop => desktop.paintedAt 20 125 = some (.window 0) ∧
        desktop.pressTarget 20 125 = some (.menuItem .notepad) ∧
        (desktop.desktopInputHandler (leftButton .mousePress 20 125)).any fun after => after.windows.length = 2) = true := by
    decide +kernel
  obtain ⟨desktop, done, reached⟩ := (Option.any_eq_true _ _).mp reached
  obtain ⟨painted, target, opens⟩ := of_decide_eq_true reached
  obtain ⟨after, handled, two⟩ := (Option.any_eq_true _ _).mp opens
  exact ⟨desktop, (performAll_restricted done).mono fun _ _ _ performed => ⟨of_decide_eq_true performed.1, performed.2⟩,
    painted, target, after, handled, of_decide_eq_true two⟩

end Desktop

end AutismOS.Windows
