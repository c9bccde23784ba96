import AutismOS.Calculator.Core
import AutismOS.Drawing.Lines

namespace AutismOS.Calculator

open AutismOS.Library AutismOS.Drawing

/-! # What the calculator draws

The picture of `calculator_draw` and the buttons of `calculator_handle_mouse`.
-/

/-- The rows and columns, in the order of the loops -/
def cells : List (Nat × Nat) :=
  (List.range 4).flatMap fun row => (List.range 4).map fun col => (row, col)

def label (cell : Nat × Nat) : UInt8 := (calcRows.getD cell.1 []).getD cell.2 0

/-- The color of a button, with the first character of `last_button` -/
def fillColor (last label : UInt8) : UInt8 :=
  if last = label then 0x0B
  else if label = 0x43 then 0x04
  else if label = 0x3D then 0x02
  else if 0x30 ≤ label ∧ label ≤ 0x39 then 0x07
  else 0x03

def buttonX (contentX : UInt32) (col : Nat) : UInt32 := contentX + 6 + UInt32.ofNat col * (34 + 4)

def buttonY (contentY : UInt32) (row : Nat) : UInt32 := contentY + 44 + UInt32.ofNat row * (18 + 4)

variable {buffer : Backbuffer} {contentX contentY : UInt32} {last : UInt8} {memory : TracedMemory}
  {cell other : Nat × Nat} {px py : Nat} {localX localY : Int32} {dx dy : Int}

/-- The body of the loops in `calculator_draw`. -/
def drawButton (buffer : Backbuffer) (contentX contentY : UInt32) (last : UInt8) (memory : TracedMemory)
    (cell : Nat × Nat) : TracedMemory :=
  let x := buttonX contentX cell.2
  let y := buttonY contentY cell.1
  let filled := buffer.drawFilledRect x y 34 18 (fillColor last (label cell)) memory
  let framed := buffer.drawRect x y 34 18 0x0F filled
  buffer.drawText (x + 13) (y + 6) (some [label cell]) 0x00 framed

def drawButtons (buffer : Backbuffer) (contentX contentY : UInt32) (last : UInt8) (memory : TracedMemory) :
    TracedMemory :=
  cells.foldl (drawButton buffer contentX contentY last) memory

/-- What `calculator_draw` draws before the buttons. -/
def CalcState.drawDisplay (state : CalcState) (buffer : Backbuffer) (contentX contentY contentWidth : UInt32)
    (memory : TracedMemory) : TracedMemory :=
  let filled := buffer.drawFilledRect (contentX + 4) (contentY + 8) (contentWidth - 8) 26 0x00 memory
  let framed := buffer.drawRect (contentX + 4) (contentY + 8) (contentWidth - 8) 26 0x0B filled
  let shown := buffer.drawText (contentX + 10) (contentY + 17) (some state.display) 0x0A framed
  -- "op" or "in"
  buffer.drawText (contentX + 118) (contentY + 17)
    (some (if state.hasOperator then [0x6F, 0x70] else [0x69, 0x6E])) 0x08 shown

def CalcState.calculatorDraw (state : CalcState) (buffer : Backbuffer) (contentX contentY contentWidth : UInt32)
    (memory : TracedMemory) : TracedMemory :=
  drawButtons buffer contentX contentY state.lastButton
    (state.drawDisplay buffer contentX contentY contentWidth memory)

/-- The color of a place on a button: the label, its border or what it is filled with -/
def faceColor (last label : UInt8) (col row : Nat) : UInt8 :=
  if (13 ≤ col ∧ 6 ≤ row) ∧ Backbuffer.Dot label (col - 13) (row - 6) then 0x00
  else if col = 0 ∨ col = 33 ∨ row = 0 ∨ row = 17 then 0x0F
  else fillColor last label

/-- A place in the content is inside the button of a row and a column. -/
def Inside (dx dy : Int) (cell : Nat × Nat) : Prop :=
  (6 + 38 * (cell.2 : Int) ≤ dx ∧ dx < 6 + 38 * (cell.2 : Int) + 34) ∧
    44 + 22 * (cell.1 : Int) ≤ dy ∧ dy < 44 + 22 * (cell.1 : Int) + 18

theorem mem_cells : cell ∈ cells ↔ cell.1 < 4 ∧ cell.2 < 4 := by
  obtain ⟨row, col⟩ := cell
  simp [cells]

theorem Inside.unique (inside : Inside dx dy cell) (again : Inside dx dy other) : cell = other := by
  obtain ⟨⟨left, right⟩, top, bottom⟩ := inside
  obtain ⟨⟨left', right'⟩, top', bottom'⟩ := again
  exact Prod.ext (by omega) (by omega)

/-- Behind the start of a grid, C divides as integers are divided. -/
theorem grid_toInt {start pitch : Int32} (isX : localX.toInt = dx) (begins : 0 ≤ start.toInt) (behind : start.toInt ≤ dx)
    (forward : pitch ≠ -1) : ((localX - start) / pitch).toInt = (dx - start.toInt) / pitch.toInt ∧
      ((localX - start) % pitch).toInt = (dx - start.toInt) % pitch.toInt := by
  have high := localX.toInt_lt
  have difference : (localX - start).toInt = dx - start.toInt := by
    rw [Signed.toInt_sub, isX]
    constructor <;> omega
  rw [Int32.toInt_div_of_ne_right _ _ forward, Int32.toInt_mod, difference]
  exact ⟨Int.tdiv_eq_ediv_of_nonneg (by omega), Int.tmod_eq_emod_of_nonneg (by omega)⟩

theorem buttonAt_eq (isX : localX.toInt = dx) (isY : localY.toInt = dy) : CalcState.buttonAt localX localY =
    if dy < 44 ∨ dx < 6 then none
    else if 4 ≤ (dx - 6) / 38 ∨ 4 ≤ (dy - 44) / 22 then none
    else if 34 ≤ (dx - 6) % 38 then none
    else if 18 ≤ (dy - 44) % 22 then none
    else calcRows[((dy - 44) / 22).toNat]?.bind fun labels => labels[((dx - 6) / 38).toNat]? := by
  have beside : (localY < 44 ∨ localX < 6) ↔ (dy < 44 ∨ dx < 6) := by
    rw [Int32.lt_iff_toInt_lt, Int32.lt_iff_toInt_lt, isX, isY]
    rfl
  rw [CalcState.buttonAt]
  by_cases outside : dy < 44 ∨ dx < 6
  · rw [if_pos outside, if_pos (beside.mpr outside)]
  · rw [if_neg outside, if_neg (mt beside.mp outside)]
    obtain ⟨col, restX⟩ : ((localX - 6) / 38).toInt = (dx - 6) / 38 ∧ ((localX - 6) % 38).toInt = (dx - 6) % 38 :=
      grid_toInt isX (by decide) (show 6 ≤ dx by omega) (by decide)
    obtain ⟨row, restY⟩ : ((localY - 44) / 22).toInt = (dy - 44) / 22 ∧ ((localY - 44) % 22).toInt = (dy - 44) % 22 :=
      grid_toInt isY (by decide) (show 44 ≤ dy by omega) (by decide)
    have low : ¬ ((localX - 6) / 38 < 0) ∧ ¬ ((localY - 44) / 22 < 0) := by
      rw [Int32.lt_iff_toInt_lt, Int32.lt_iff_toInt_lt, col, row]
      change ¬ (_ < (0 : Int)) ∧ ¬ (_ < (0 : Int))
      omega
    have high : ((localX - 6) / 38 < 0 ∨ 4 ≤ (localX - 6) / 38 ∨ (localY - 44) / 22 < 0 ∨ 4 ≤ (localY - 44) / 22) ↔
        (4 ≤ (dx - 6) / 38 ∨ 4 ≤ (dy - 44) / 22) := by
      rw [or_iff_right low.1, or_iff_right low.2, Int32.le_iff_toInt_le, Int32.le_iff_toInt_le, col, row]
      rfl
    have gapX : 34 ≤ (localX - 6) % 38 ↔ 34 ≤ (dx - 6) % 38 := by
      rw [Int32.le_iff_toInt_le, restX]
      rfl
    have gapY : 18 ≤ (localY - 44) % 22 ↔ 18 ≤ (dy - 44) % 22 := by
      rw [Int32.le_iff_toInt_le, restY]
      rfl
    simp only [high, gapX, gapY, row, col]

/-- A place inside a button is that button. -/
theorem buttonAt_inside (isX : localX.toInt = dx) (isY : localY.toInt = dy) (member : cell ∈ cells)
    (inside : Inside dx dy cell) : CalcState.buttonAt localX localY = some (label cell) := by
  obtain ⟨⟨left, right⟩, top, bottom⟩ := inside
  obtain ⟨row, col⟩ := cell
  have onGrid := mem_cells.mp member
  have isCol : (dx - 6) / 38 = col := by omega
  have isRow : (dy - 44) / 22 = row := by omega
  rw [buttonAt_eq isX isY, if_neg (by omega), if_neg (by omega), if_neg (by omega), if_neg (by omega), isCol, isRow,
    Int.toNat_natCast, Int.toNat_natCast]
  clear left right top bottom isCol isRow
  revert member
  have all : ∀ cell ∈ cells, (calcRows[cell.1]?.bind fun labels => labels[cell.2]?) = some (label cell) := by decide
  exact all (row, col)

theorem buttonAt_outside (isX : localX.toInt = dx) (isY : localY.toInt = dy)
    (outside : ∀ cell ∈ cells, ¬ Inside dx dy cell) : CalcState.buttonAt localX localY = none := by
  rw [buttonAt_eq isX isY]
  by_cases beside : dy < 44 ∨ dx < 6
  · rw [if_pos beside]
  rw [if_neg beside]
  by_cases behind : 4 ≤ (dx - 6) / 38 ∨ 4 ≤ (dy - 44) / 22
  · rw [if_pos behind]
  rw [if_neg behind]
  have onGrid : ((dy - 44) / 22).toNat < 4 ∧ ((dx - 6) / 38).toNat < 4 := by omega
  have gap := outside (((dy - 44) / 22).toNat, ((dx - 6) / 38).toNat) (mem_cells.mpr onGrid)
  rw [Inside] at gap
  dsimp only at gap
  by_cases right : 34 ≤ (dx - 6) % 38
  · rw [if_pos right]
  · rw [if_neg right, if_pos (by omega)]

theorem drawText_label (member : cell ∈ cells) {x y : UInt32} {color : UInt8} :
    buffer.drawText x y (some [label cell]) color memory = buffer.drawChar x y (label cell) color memory := by
  have all : ∀ cell ∈ cells, label cell ≠ 0 := by decide
  rw [Backbuffer.drawText, Backbuffer.drawTextFrom, if_neg (all cell member)]
  rfl

/-- One rectangle is filled, wherever it begins. -/
theorem drawFilledRect_pixel {x y w h : UInt32} {color : UInt8} (narrow : x.toNat + w.toNat < 2 ^ 32)
    (low : y.toNat + h.toNat < 2 ^ 32) (inX : px < screenWidth) (inY : py < screenHeight) :
    (buffer.drawFilledRect x y w h color memory).bytes (buffer.pixel px py) =
      if InRectangle x y w h px py then color else memory.bytes (buffer.pixel px py) := by
  have fills : buffer.Fills x y w h color (buffer.graphicsClearRegion x y w h color) := by
    by_cases beside : 320 ≤ x ∨ 200 ≤ y
    · exact Backbuffer.fills_beside beside
    · rw [not_or, UInt32.le_iff_toNat_le, UInt32.le_iff_toNat_le] at beside
      exact Backbuffer.fills_straight (Nat.not_le.mp beside.1) (Nat.not_le.mp beside.2) narrow low
  exact (fills memory).pixels px py inX inY

/-- Where a step of the grid begins -/
theorem grid_toNat {origin start pitch : UInt32} {steps : Nat}
    (room : origin.toNat + start.toNat + steps * pitch.toNat < 2 ^ 32) :
    (origin + start + UInt32.ofNat steps * pitch).toNat = origin.toNat + start.toNat + steps * pitch.toNat := by
  have begins : (origin + start).toNat = origin.toNat + start.toNat := by
    rw [UInt32.toNat_add]
    omega
  have reaches : (UInt32.ofNat steps * pitch).toNat = steps * pitch.toNat := by
    rw [UInt32.toNat_mul, UInt32.toNat_ofNat', Nat.mod_mul_mod]
    omega
  rw [UInt32.toNat_add, begins, reaches]
  omega

section Screen

variable (roomX : contentX.toNat < 2 ^ 30) (roomY : contentY.toNat < 2 ^ 30)

include roomX in
theorem buttonX_toNat (member : cell ∈ cells) : (buttonX contentX cell.2).toNat = contentX.toNat + 6 + 38 * cell.2 := by
  have onGrid := mem_cells.mp member
  have start : (6 : UInt32).toNat = 6 := rfl
  have pitch : (34 + 4 : UInt32).toNat = 38 := rfl
  rw [buttonX, grid_toNat (by rw [start, pitch]; omega), start, pitch, Nat.mul_comm]

include roomY in
theorem buttonY_toNat (member : cell ∈ cells) :
    (buttonY contentY cell.1).toNat = contentY.toNat + 44 + 22 * cell.1 := by
  have onGrid := mem_cells.mp member
  have start : (44 : UInt32).toNat = 44 := rfl
  have pitch : (18 + 4 : UInt32).toNat = 22 := rfl
  rw [buttonY, grid_toNat (by rw [start, pitch]; omega), start, pitch, Nat.mul_comm]

instance : Decidable (Inside dx dy cell) := inferInstanceAs (Decidable (_ ∧ _))

include roomX roomY in
/-- One button colors the places inside it. -/
theorem drawButton_pixel (member : cell ∈ cells) (inX : px < screenWidth) (inY : py < screenHeight) :
    (drawButton buffer contentX contentY last memory cell).bytes (buffer.pixel px py) =
      if Inside (px - contentX.toNat) (py - contentY.toNat) cell then
        faceColor last (label cell) ((px - (contentX.toNat + 6)) % 38) ((py - (contentY.toNat + 44)) % 22)
      else memory.bytes (buffer.pixel px py) := by
  have onGrid := mem_cells.mp member
  have isX := buttonX_toNat roomX member
  have isY := buttonY_toNat roomY member
  have wide : (34 : UInt32).toNat = 34 := rfl
  have high : (18 : UInt32).toNat = 18 := rfl
  have textX : (buttonX contentX cell.2 + 13).toNat = contentX.toNat + 6 + 38 * cell.2 + 13 := by
    rw [UInt32.toNat_add, isX]
    change (_ + 13) % 2 ^ 32 = _
    omega
  have textY : (buttonY contentY cell.1 + 6).toNat = contentY.toNat + 44 + 22 * cell.1 + 6 := by
    rw [UInt32.toNat_add, isY]
    change (_ + 6) % 2 ^ 32 = _
    omega
  rw [drawButton, drawText_label member]
  have written := @Backbuffer.drawChar_colors buffer 0x00
    (buffer.drawRect (buttonX contentX cell.2) (buttonY contentY cell.1) 34 18 0x0F (buffer.drawFilledRect
      (buttonX contentX cell.2) (buttonY contentY cell.1) 34 18 (fillColor last (label cell)) memory))
    (buttonX contentX cell.2 + 13) (buttonY contentY cell.1 + 6) (label cell)
    (by rw [textX]; change _ + 5 < _; omega) (by rw [textY]; change _ + 7 < _; omega)
  have framed := @Backbuffer.drawRect_colors buffer 0x0F (buffer.drawFilledRect
      (buttonX contentX cell.2) (buttonY contentY cell.1) 34 18 (fillColor last (label cell)) memory)
    (buttonX contentX cell.2) (buttonY contentY cell.1) 34 18 (by decide) (by decide) (by omega) (by omega)
  rw [written.pixels px py inX inY, framed.pixels px py inX inY, drawFilledRect_pixel (by omega) (by omega) inX inY]
  have onGlyph : Backbuffer.InGlyph (buttonX contentX cell.2 + 13) (buttonY contentY cell.1 + 6) (label cell) px py ↔
      (contentX.toNat + 6 + 38 * cell.2 + 13 ≤ px ∧ contentY.toNat + 44 + 22 * cell.1 + 6 ≤ py) ∧
        Backbuffer.Dot (label cell) (px - (contentX.toNat + 6 + 38 * cell.2 + 13))
          (py - (contentY.toNat + 44 + 22 * cell.1 + 6)) := by
    rw [Backbuffer.InGlyph, textX, textY]
  have inRectangle : InRectangle (buttonX contentX cell.2) (buttonY contentY cell.1) 34 18 px py ↔
      Inside (px - contentX.toNat) (py - contentY.toNat) cell := by
    rw [InRectangle, isX, isY, wide, high, Inside]
    omega
  have onBorder : Backbuffer.OnBorder (buttonX contentX cell.2) (buttonY contentY cell.1) 34 18 px py ↔
      Inside (px - contentX.toNat) (py - contentY.toNat) cell ∧
        (px = contentX.toNat + 6 + 38 * cell.2 ∨ px + 1 = contentX.toNat + 6 + 38 * cell.2 + 34 ∨
          py = contentY.toNat + 44 + 22 * cell.1 ∨ py + 1 = contentY.toNat + 44 + 22 * cell.1 + 18) := by
    rw [Backbuffer.OnBorder, inRectangle, isX, isY, wide, high]
  by_cases inside : Inside (px - contentX.toNat) (py - contentY.toNat) cell
  · rw [if_pos inside, faceColor]
    obtain ⟨⟨left, right⟩, top, bottom⟩ := inside
    have col : (px - (contentX.toNat + 6)) % 38 = px - (contentX.toNat + 6 + 38 * cell.2) := by omega
    have row : (py - (contentY.toNat + 44)) % 22 = py - (contentY.toNat + 44 + 22 * cell.1) := by omega
    rw [col, row, Nat.sub_sub, Nat.sub_sub]
    refine if_congr (onGlyph.trans (and_congr_left fun _ => by omega)) rfl ?_
    refine if_congr (onBorder.trans ((and_iff_right ⟨⟨left, right⟩, top, bottom⟩).trans (by omega))) rfl ?_
    rw [if_pos (inRectangle.mpr ⟨⟨left, right⟩, top, bottom⟩)]
  · rw [if_neg inside, if_neg (mt onGlyph.mp ?_), if_neg (mt onBorder.mp fun on => inside on.1),
      if_neg (mt inRectangle.mp inside)]
    rw [Inside] at inside
    rintro ⟨from', ⟨inCol, inRow⟩, _⟩
    have inCol : px - (contentX.toNat + 6 + 38 * cell.2 + 13) < 5 := inCol
    have inRow : py - (contentY.toNat + 44 + 22 * cell.1 + 6) < 7 := inRow
    omega

variable {buttons : List (Nat × Nat)}

include roomX roomY in
theorem drawButtons_outside (members : ∀ cell ∈ buttons, cell ∈ cells) (inX : px < screenWidth)
    (inY : py < screenHeight)
    (outside : ∀ cell ∈ buttons, ¬ Inside (px - contentX.toNat) (py - contentY.toNat) cell) :
    (buttons.foldl (drawButton buffer contentX contentY last) memory).bytes (buffer.pixel px py) =
      memory.bytes (buffer.pixel px py) := by
  induction buttons generalizing memory with
  | nil => rfl
  | cons first rest ih =>
      rw [List.forall_mem_cons] at members outside
      rw [List.foldl_cons, ih members.2 outside.2, drawButton_pixel roomX roomY members.1 inX inY, if_neg outside.1]

include roomX roomY in
/-- The other buttons leave the places inside a button. -/
theorem drawButtons_inside (members : ∀ cell ∈ buttons, cell ∈ cells) (inX : px < screenWidth) (inY : py < screenHeight)
    (member : cell ∈ buttons) (inside : Inside (px - contentX.toNat) (py - contentY.toNat) cell) :
    (buttons.foldl (drawButton buffer contentX contentY last) memory).bytes (buffer.pixel px py) =
      faceColor last (label cell) ((px - (contentX.toNat + 6)) % 38) ((py - (contentY.toNat + 44)) % 22) := by
  induction buttons generalizing memory with
  | nil => cases member
  | cons first rest ih =>
      rw [List.forall_mem_cons] at members
      rw [List.foldl_cons]
      by_cases later : cell ∈ rest
      · exact ih members.2 later
      · obtain rfl : cell = first := (List.mem_cons.mp member).resolve_right later
        have others : ∀ other ∈ rest, ¬ Inside (px - contentX.toNat) (py - contentY.toNat) other :=
          fun other isOther again => later (inside.unique again ▸ isOther)
        rw [drawButtons_outside roomX roomY members.2 inX inY others, drawButton_pixel roomX roomY members.1 inX inY,
          if_pos inside]

end Screen

/-- Where a pixel of the screen is in the content -/
theorem local_toInt {place : Nat} {origin : UInt32} (small : place < 2 ^ 30) (room : origin.toNat < 2 ^ 30) :
    ((UInt32.ofNat place).toInt32 - origin.toInt32).toInt = place - origin.toNat := by
  have isPlace : (UInt32.ofNat place).toNat = place := UInt32.toNat_ofNat_of_lt' (Nat.lt_trans small (by decide))
  have left : (UInt32.ofNat place).toInt32.toInt = place := by
    rw [Backbuffer.toInt_toInt32 (by omega), isPlace]
  have right := @Backbuffer.toInt_toInt32 origin (by omega)
  rw [Signed.toInt_sub, left, right]
  rw [left, right]
  constructor <;> omega

/-- What is clicked is what is drawn: each pixel shows the button that a press there enters, and where a press enters
nothing only the display is drawn. -/
theorem calculatorDraw_clicked (state : CalcState) (buffer : Backbuffer) (contentX contentY contentWidth : UInt32)
    (memory : TracedMemory) (px py : Nat) (roomX : contentX.toNat < 2 ^ 30) (roomY : contentY.toNat < 2 ^ 30)
    (inX : px < screenWidth) (inY : py < screenHeight) :
    (state.calculatorDraw buffer contentX contentY contentWidth memory).bytes (buffer.pixel px py) =
      (CalcState.buttonAt ((UInt32.ofNat px).toInt32 - contentX.toInt32)
        ((UInt32.ofNat py).toInt32 - contentY.toInt32)).elim
        ((state.drawDisplay buffer contentX contentY contentWidth memory).bytes (buffer.pixel px py))
        fun key => faceColor state.lastButton key ((px - (contentX.toNat + 6)) % 38)
          ((py - (contentY.toNat + 44)) % 22) := by
  have smallX : px < 320 := inX
  have smallY : py < 200 := inY
  have isX := local_toInt (Nat.lt_trans smallX (by decide)) roomX
  have isY := local_toInt (Nat.lt_trans smallY (by decide)) roomY
  by_cases hit : ∃ cell ∈ cells, Inside (px - contentX.toNat) (py - contentY.toNat) cell
  · obtain ⟨cell, member, inside⟩ := hit
    rw [buttonAt_inside isX isY member inside, Option.elim_some, CalcState.calculatorDraw, drawButtons]
    exact drawButtons_inside roomX roomY (fun _ member => member) inX inY member inside
  · have outside : ∀ cell ∈ cells, ¬ Inside (px - contentX.toNat) (py - contentY.toNat) cell :=
      fun cell member inside => hit ⟨cell, member, inside⟩
    rw [buttonAt_outside isX isY outside, Option.elim_none, CalcState.calculatorDraw, drawButtons]
    exact drawButtons_outside roomX roomY (fun _ member => member) inX inY outside

theorem calculatorDraw_clicked_seven :
    (initial.calculatorDraw ⟨0, by decide⟩ 88 36 180 ⟨fun _ => 0, []⟩).bytes (Backbuffer.pixel ⟨0, by decide⟩ 95 81) =
      0x07 := by
  rw [calculatorDraw_clicked initial ⟨0, by decide⟩ 88 36 180 ⟨fun _ => 0, []⟩ 95 81 (by decide) (by decide) (by decide)
    (by decide)]
  decide

end AutismOS.Calculator
