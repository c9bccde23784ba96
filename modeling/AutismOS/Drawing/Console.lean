import AutismOS.Drawing.Core
import AutismOS.Library.Strings
import AutismOS.Library.Word

namespace AutismOS.Drawing

open AutismOS.Library

/-! # The console

`drivers/video/video.c` after `graphics_init`.  What goes to the serial port is kept; the copy of the back
buffer to the screen is left out.
-/

def colorWhite : UInt8 := 0x0F

structure Console where
  row : UInt32
  col : UInt32
  serial : List UInt8
  screen : TracedMemory

namespace Console

section Printing

variable (buffer : Backbuffer) (console : Console)

/-- The loop of `print` for one character. -/
def printChar (ch : UInt8) : Console :=
  let console := { console with serial := console.serial ++ [ch] }
  if ch = 0x0A then { console with row := console.row + 10, col := 0 }
  else if ch = 0x08 then
    if 6 ≤ console.col then { console with col := console.col - 6 } else console
  else
    let screen := buffer.drawChar console.col console.row ch colorWhite console.screen
    let col := console.col + 6
    if 320 - 6 < col then { console with screen, col := 0, row := console.row + 10 } else { console with screen, col }

/-- `none` is the null pointer. -/
def print : Option (List UInt8) → Console
  | none => console
  | some str => (cString str).foldl (printChar buffer) console

end Printing

/-- The console before the first text -/
def start (screen : TracedMemory) : Console where
  row := 0
  col := 0
  serial := []
  screen

-- Lines have 53 cells, of 6 by 10 pixels.

variable {buffer : Backbuffer} {console : Console} {cell : Nat} {ch : UInt8} {text : List UInt8} {memory : TracedMemory}

def nextCell (cell : Nat) (ch : UInt8) : Nat :=
  if ch = 0x0A then 53 * (cell / 53 + 1)
  else if ch = 0x08 then if cell % 53 = 0 then cell else cell - 1
  else cell + 1

/-- The cursor is at a cell. -/
structure At (console : Console) (cell : Nat) : Prop where
  row : console.row.toNat = 10 * (cell / 53)
  col : console.col.toNat = 6 * (cell % 53)

/-- The characters of a text with their cells. -/
def layout (cell : Nat) : List UInt8 → List (Nat × UInt8)
  | [] => []
  | ch :: rest =>
      if ch = 0x0A ∨ ch = 0x08 then layout (nextCell cell ch) rest else (cell, ch) :: layout (nextCell cell ch) rest

def drawGlyph (buffer : Backbuffer) (memory : TracedMemory) (glyph : Nat × UInt8) : TracedMemory :=
  buffer.drawChar (UInt32.ofNat (6 * (glyph.1 % 53))) (UInt32.ofNat (10 * (glyph.1 / 53))) glyph.2 colorWhite memory

theorem lt_nextCell (forward : ch ≠ 0x08) : cell < nextCell cell ch := by
  rw [nextCell, if_neg forward]
  split <;> omega

theorem nextCell_line : nextCell cell ch / 53 ≤ cell / 53 + 1 := by
  rw [nextCell]
  split
  · omega
  · split
    · split <;> omega
    · omega

theorem At.col_eq (placed : At console cell) : console.col = UInt32.ofNat (6 * (cell % 53)) := by
  rw [← placed.col, UInt32.ofNat_toNat]

theorem At.row_eq (placed : At console cell) : console.row = UInt32.ofNat (10 * (cell / 53)) := by
  rw [← placed.row, UInt32.ofNat_toNat]

/-- A character is drawn at the cursor, which then is at the next cell. -/
theorem At.printChar (placed : At console cell) (room : 10 * (cell / 53 + 1) < 2 ^ 32) :
    At (console.printChar buffer ch) (nextCell cell ch) ∧
      (console.printChar buffer ch).serial = console.serial ++ [ch] ∧
      (console.printChar buffer ch).screen =
        if ch = 0x0A ∨ ch = 0x08 then console.screen else drawGlyph buffer console.screen (cell, ch) := by
  have rowBelow : (console.row + 10).toNat = 10 * (cell / 53 + 1) := by
    rw [UInt32.toNat_add, placed.row]
    change (10 * (cell / 53) + 10) % 2 ^ 32 = _
    omega
  have colBehind : (console.col + 6).toNat = 6 * (cell % 53 + 1) := by
    rw [UInt32.toNat_add, placed.col]
    change (6 * (cell % 53) + 6) % 2 ^ 32 = _
    omega
  rw [Console.printChar, nextCell]
  by_cases newline : ch = 0x0A
  · rw [if_pos newline, if_pos newline, if_pos (Or.inl newline)]
    refine ⟨⟨?_, ?_⟩, rfl, rfl⟩
    · rw [rowBelow]
      omega
    · change 0 = _
      omega
  rw [if_neg newline, if_neg newline]
  by_cases back : ch = 0x08
  · rw [if_pos back, if_pos back, if_pos (Or.inr back)]
    have first : 6 ≤ console.col ↔ cell % 53 ≠ 0 := by
      rw [UInt32.le_iff_toNat_le, placed.col]
      change 6 ≤ _ ↔ _
      omega
    by_cases isFirst : cell % 53 = 0
    · rw [if_pos isFirst, if_neg (mt first.mp (not_not_intro isFirst))]
      exact ⟨⟨placed.row, placed.col⟩, rfl, rfl⟩
    · rw [if_neg isFirst, if_pos (first.mpr isFirst)]
      refine ⟨⟨?_, ?_⟩, rfl, rfl⟩
      · rw [placed.row]
        omega
      · rw [UInt32.toNat_sub_of_le _ _ (first.mpr isFirst), placed.col]
        change 6 * (cell % 53) - 6 = _
        omega
  · have drawn : buffer.drawChar console.col console.row ch colorWhite console.screen =
        drawGlyph buffer console.screen (cell, ch) := by
      rw [placed.col_eq, placed.row_eq]
      rfl
    rw [if_neg back, if_neg back, if_neg (not_or.mpr ⟨newline, back⟩), drawn]
    have ends : 320 - 6 < console.col + 6 ↔ cell % 53 = 52 := by
      rw [UInt32.lt_iff_toNat_lt, colBehind]
      change 314 < _ ↔ _
      omega
    by_cases last : cell % 53 = 52
    · rw [if_pos (ends.mpr last)]
      refine ⟨⟨?_, ?_⟩, rfl, rfl⟩
      · rw [rowBelow]
        omega
      · change 0 = _
        omega
    · rw [if_neg (mt ends.mp last)]
      refine ⟨⟨?_, ?_⟩, rfl, rfl⟩
      · rw [placed.row]
        omega
      · rw [colBehind]
        omega

/-- A text is drawn as it is laid out. -/
theorem At.prints (placed : At console cell) (room : 10 * (cell / 53 + text.length) < 2 ^ 32) :
    (text.foldl (Console.printChar buffer) console).serial = console.serial ++ text ∧
      (text.foldl (Console.printChar buffer) console).screen =
        (layout cell text).foldl (drawGlyph buffer) console.screen := by
  induction text generalizing console cell with
  | nil => exact ⟨(List.append_nil _).symm, rfl⟩
  | cons ch rest ih =>
      rw [List.length_cons] at room
      obtain ⟨placed', serial, screen⟩ := @At.printChar buffer _ _ ch placed (by omega)
      have line := @nextCell_line cell ch
      obtain ⟨serial', screen'⟩ := ih placed' (by omega)
      rw [List.foldl_cons, serial', screen', serial, screen, List.append_assoc, List.singleton_append, layout]
      refine ⟨rfl, ?_⟩
      split <;> rfl

theorem drawPixel_below {x : Int32} {y : UInt32} {color : UInt8} (below : 200 ≤ y.toNat) :
    buffer.drawPixel x y.toInt32 color memory = memory := by
  have signed : y.toInt32.toInt = (y.toNat : Int).bmod (2 ^ 32) := BitVec.toInt_eq_toNat_bmod y.toBitVec
  have small := y.toNat_lt
  rw [Int.bmod_def] at signed
  rw [Backbuffer.drawPixel, if_pos]
  by_cases positive : y.toNat < 2 ^ 31
  · refine Or.inr (Or.inr (Or.inr ?_))
    rw [Int32.le_iff_toInt_le, signed]
    change (200 : Int) ≤ _
    split <;> omega
  · refine Or.inr (Or.inl ?_)
    rw [Int32.lt_iff_toInt_lt, signed]
    change _ < (0 : Int)
    split <;> omega

theorem loop_same {count : Nat} {body : UInt32 → TracedMemory → TracedMemory}
    (same : ∀ index < count, ∀ memory, body (UInt32.ofNat index) memory = memory) : loop count body memory = memory := by
  rw [loop]
  induction count with
  | zero => rfl
  | succ count ih =>
      rw [List.range_succ, List.foldl_append, ih fun index less => same index (Nat.lt_succ_of_lt less)]
      exact same count (Nat.lt_succ_self count) memory

/-- A glyph below the screen is not drawn. -/
theorem drawGlyph_below {glyph : Nat × UInt8} (below : 1060 ≤ glyph.1) (room : 10 * (glyph.1 / 53) + 7 < 2 ^ 32) :
    drawGlyph buffer memory glyph = memory := by
  rw [drawGlyph, Backbuffer.drawChar, loopGlyph]
  refine loop_same fun col _ memory => loop_same fun row less memory => ?_
  split
  · refine drawPixel_below ?_
    have rowSmall : row < 7 := less
    have place : (UInt32.ofNat (10 * (glyph.1 / 53)) + UInt32.ofNat row).toNat = 10 * (glyph.1 / 53) + row := by
      rw [UInt32.toNat_add, UInt32.toNat_ofNat', UInt32.toNat_ofNat']
      omega
    rw [place]
    omega
  · rfl

theorem layout_line {glyph : Nat × UInt8} (member : glyph ∈ layout cell text) : glyph.1 / 53 ≤ cell / 53 + text.length := by
  induction text generalizing cell with
  | nil => cases member
  | cons ch rest ih =>
      have line := @nextCell_line cell ch
      rw [layout] at member
      rw [List.length_cons]
      split at member
      · have bound := ih member
        omega
      · rcases List.mem_cons.mp member with rfl | member
        · exact Nat.le_add_right _ _
        · have bound := ih member
          omega

theorem le_layout {glyph : Nat × UInt8} (forward : 0x08 ∉ text) (member : glyph ∈ layout cell text) : cell ≤ glyph.1 := by
  induction text generalizing cell with
  | nil => cases member
  | cons ch rest ih =>
      rw [List.mem_cons, not_or] at forward
      have later := @lt_nextCell cell ch (Ne.symm forward.1)
      rw [layout] at member
      split at member
      · exact Nat.le_trans (Nat.le_of_lt later) (ih forward.2 member)
      · rcases List.mem_cons.mp member with rfl | member
        · exact Nat.le_refl _
        · exact Nat.le_trans (Nat.le_of_lt later) (ih forward.2 member)

/-- Without a backspace no two characters have the same cell. -/
theorem layout_increases (forward : 0x08 ∉ text) : ((layout cell text).map Prod.fst).Pairwise (· < ·) := by
  induction text generalizing cell with
  | nil => exact List.Pairwise.nil
  | cons ch rest ih =>
      rw [List.mem_cons, not_or] at forward
      rw [layout]
      split
      · exact ih forward.2
      · rw [List.map_cons]
        refine List.pairwise_cons.mpr ⟨?_, ih forward.2⟩
        intro other member
        obtain ⟨glyph, isMember, rfl⟩ := List.mem_map.mp member
        exact Nat.lt_of_lt_of_le (lt_nextCell (Ne.symm forward.1)) (le_layout forward.2 isMember)

theorem foldl_visible {glyphs : List (Nat × UInt8)} (room : ∀ glyph ∈ glyphs, 10 * (glyph.1 / 53) + 7 < 2 ^ 32) :
    glyphs.foldl (drawGlyph buffer) memory = (glyphs.filter (·.1 < 1060)).foldl (drawGlyph buffer) memory := by
  induction glyphs generalizing memory with
  | nil => rfl
  | cons glyph rest ih =>
      rw [List.forall_mem_cons] at room
      rw [List.foldl_cons, ih room.2, List.filter_cons]
      by_cases visible : glyph.1 < 1060
      · rw [if_pos (decide_eq_true visible), List.foldl_cons]
      · rw [drawGlyph_below (Nat.not_lt.mp visible) room.1, if_neg (by simpa using visible)]

theorem prints_eq (texts : List (List UInt8)) :
    texts.foldl (fun console text => console.print buffer (some text)) console =
      (texts.flatMap cString).foldl (printChar buffer) console := by
  induction texts generalizing console with
  | nil => rfl
  | cons text rest ih => rw [List.foldl_cons, ih, List.flatMap_cons, List.foldl_append, print]

/-- Texts go to the serial port as they are.  On the screen only the first 1060 cells are there: nothing scrolls, and what
is printed behind them is never seen.  Without a backspace each character has a cell of its own. -/
theorem prints_visible (buffer : Backbuffer) (screen : TracedMemory) (texts : List (List UInt8))
    (short : (texts.flatMap cString).length < 2 ^ 28) :
    (texts.foldl (fun console text => console.print buffer (some text)) (start screen)).serial = texts.flatMap cString ∧
    (texts.foldl (fun console text => console.print buffer (some text)) (start screen)).screen =
      ((layout 0 (texts.flatMap cString)).filter (·.1 < 1060)).foldl (drawGlyph buffer) screen ∧
    (0x08 ∉ texts.flatMap cString → ((layout 0 (texts.flatMap cString)).map Prod.fst).Pairwise (· < ·)) := by
  have placed : At (start screen) 0 := ⟨rfl, rfl⟩
  have room : 10 * (0 / 53 + (texts.flatMap cString).length) < 2 ^ 32 := by omega
  obtain ⟨serial, drawn⟩ := @At.prints buffer _ _ _ placed room
  rw [prints_eq, serial, drawn]
  refine ⟨rfl, foldl_visible ?_, layout_increases⟩
  intro glyph member
  have bound := layout_line member
  omega

def behindTexts : List (List UInt8) := [[0x41], List.replicate 20 0x0A, [0x42]]

/-- After twenty newlines a character is behind the cells: it goes to the serial port and not to the screen. -/
theorem prints_visible_behind :
    (behindTexts.foldl (fun console text => console.print ⟨0, by decide⟩ (some text)) (start ⟨fun _ => 0, []⟩)).serial =
      [0x41] ++ List.replicate 20 0x0A ++ [0x42] ∧
    layout 0 (behindTexts.flatMap cString) = [(0, 0x41), (1060, 0x42)] ∧
    (behindTexts.foldl (fun console text => console.print ⟨0, by decide⟩ (some text)) (start ⟨fun _ => 0, []⟩)).screen =
      drawGlyph ⟨0, by decide⟩ ⟨fun _ => 0, []⟩ (0, 0x41) := by
  have printed := prints_visible ⟨0, by decide⟩ ⟨fun _ => 0, []⟩ behindTexts (by decide)
  have cells : layout 0 (behindTexts.flatMap cString) = [(0, 0x41), (1060, 0x42)] := by decide
  have seen : (layout 0 (behindTexts.flatMap cString)).filter (·.1 < 1060) = [(0, 0x41)] := by decide
  refine ⟨printed.1.trans (by decide), cells, printed.2.1.trans ?_⟩
  rw [seen, List.foldl_cons, List.foldl_nil]

end Console

end AutismOS.Drawing
