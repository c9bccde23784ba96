import AutismOS.Library.TracedMemory

namespace AutismOS.Drawing

open AutismOS.Library

/-! `drivers/video/graphics.c`: what is drawn into the back buffer.

Numbers of the types `uint32` and `sint32` are fixed-width words.  The back buffer is a part of
memory, so that writes beside it are seen.
-/

def screenWidth : Nat := 320
def screenHeight : Nat := 200
def framebufferSize : Nat := screenWidth * screenHeight
def fontWidth : Nat := 5
def fontHeight : Nat := 7

/-- `g_font`: the columns of the characters from the blank on -/
def font : List (List UInt8) :=
  [[0x00, 0x00, 0x00, 0x00, 0x00], [0x00, 0x00, 0x5F, 0x00, 0x00], [0x00, 0x07, 0x00, 0x07, 0x00],
   [0x14, 0x7F, 0x14, 0x7F, 0x14], [0x24, 0x2A, 0x7F, 0x2A, 0x12], [0x23, 0x13, 0x08, 0x64, 0x62],
   [0x36, 0x49, 0x55, 0x22, 0x50], [0x00, 0x05, 0x03, 0x00, 0x00], [0x00, 0x1C, 0x22, 0x41, 0x00],
   [0x00, 0x41, 0x22, 0x1C, 0x00], [0x14, 0x08, 0x3E, 0x08, 0x14], [0x08, 0x08, 0x3E, 0x08, 0x08],
   [0x00, 0x50, 0x30, 0x00, 0x00], [0x08, 0x08, 0x08, 0x08, 0x08], [0x00, 0x60, 0x60, 0x00, 0x00],
   [0x20, 0x10, 0x08, 0x04, 0x02], [0x3E, 0x51, 0x49, 0x45, 0x3E], [0x00, 0x42, 0x7F, 0x40, 0x00],
   [0x42, 0x61, 0x51, 0x49, 0x46], [0x21, 0x41, 0x45, 0x4B, 0x31], [0x18, 0x14, 0x12, 0x7F, 0x10],
   [0x27, 0x45, 0x45, 0x45, 0x39], [0x3C, 0x4A, 0x49, 0x49, 0x30], [0x01, 0x71, 0x09, 0x05, 0x03],
   [0x36, 0x49, 0x49, 0x49, 0x36], [0x06, 0x49, 0x49, 0x29, 0x1E], [0x00, 0x36, 0x36, 0x00, 0x00],
   [0x00, 0x56, 0x36, 0x00, 0x00], [0x08, 0x14, 0x22, 0x41, 0x00], [0x14, 0x14, 0x14, 0x14, 0x14],
   [0x00, 0x41, 0x22, 0x14, 0x08], [0x02, 0x01, 0x51, 0x09, 0x06], [0x32, 0x49, 0x79, 0x41, 0x3E],
   [0x7E, 0x11, 0x11, 0x11, 0x7E], [0x7F, 0x49, 0x49, 0x49, 0x36], [0x3E, 0x41, 0x41, 0x41, 0x22],
   [0x7F, 0x41, 0x41, 0x22, 0x1C], [0x7F, 0x49, 0x49, 0x49, 0x41], [0x7F, 0x09, 0x09, 0x09, 0x01],
   [0x3E, 0x41, 0x49, 0x49, 0x7A], [0x7F, 0x08, 0x08, 0x08, 0x7F], [0x00, 0x41, 0x7F, 0x41, 0x00],
   [0x20, 0x40, 0x41, 0x3F, 0x01], [0x7F, 0x08, 0x14, 0x22, 0x41], [0x7F, 0x40, 0x40, 0x40, 0x40],
   [0x7F, 0x02, 0x0C, 0x02, 0x7F], [0x7F, 0x04, 0x08, 0x10, 0x7F], [0x3E, 0x41, 0x41, 0x41, 0x3E],
   [0x7F, 0x09, 0x09, 0x09, 0x06], [0x3E, 0x41, 0x51, 0x21, 0x5E], [0x7F, 0x09, 0x19, 0x29, 0x46],
   [0x46, 0x49, 0x49, 0x49, 0x31], [0x01, 0x01, 0x7F, 0x01, 0x01], [0x3F, 0x40, 0x40, 0x40, 0x3F],
   [0x1F, 0x20, 0x40, 0x20, 0x1F], [0x3F, 0x40, 0x38, 0x40, 0x3F], [0x63, 0x14, 0x08, 0x14, 0x63],
   [0x07, 0x08, 0x70, 0x08, 0x07], [0x61, 0x51, 0x49, 0x45, 0x43], [0x00, 0x7F, 0x41, 0x41, 0x00],
   [0x02, 0x04, 0x08, 0x10, 0x20], [0x00, 0x41, 0x41, 0x7F, 0x00], [0x04, 0x02, 0x01, 0x02, 0x04],
   [0x40, 0x40, 0x40, 0x40, 0x40], [0x00, 0x01, 0x02, 0x04, 0x00], [0x20, 0x54, 0x54, 0x54, 0x78],
   [0x7F, 0x48, 0x44, 0x44, 0x38], [0x38, 0x44, 0x44, 0x44, 0x20], [0x38, 0x44, 0x44, 0x48, 0x7F],
   [0x38, 0x54, 0x54, 0x54, 0x18], [0x08, 0x7E, 0x09, 0x01, 0x02], [0x08, 0x14, 0x54, 0x54, 0x3C],
   [0x7F, 0x08, 0x04, 0x04, 0x78], [0x00, 0x44, 0x7D, 0x40, 0x00], [0x20, 0x40, 0x44, 0x3D, 0x00],
   [0x7F, 0x10, 0x28, 0x44, 0x00], [0x00, 0x41, 0x7F, 0x40, 0x00], [0x7C, 0x04, 0x18, 0x04, 0x78],
   [0x7C, 0x08, 0x04, 0x04, 0x78], [0x38, 0x44, 0x44, 0x44, 0x38], [0x7C, 0x14, 0x14, 0x14, 0x08],
   [0x08, 0x14, 0x14, 0x18, 0x7C], [0x7C, 0x08, 0x04, 0x04, 0x08], [0x48, 0x54, 0x54, 0x54, 0x20],
   [0x04, 0x3F, 0x44, 0x40, 0x20], [0x3C, 0x40, 0x40, 0x20, 0x7C], [0x1C, 0x20, 0x40, 0x20, 0x1C],
   [0x3C, 0x40, 0x30, 0x40, 0x3C], [0x44, 0x28, 0x10, 0x28, 0x44], [0x0C, 0x50, 0x50, 0x50, 0x3C],
   [0x44, 0x64, 0x54, 0x4C, 0x44], [0x00, 0x08, 0x36, 0x41, 0x00], [0x00, 0x00, 0x7F, 0x00, 0x00],
   [0x00, 0x41, 0x36, 0x08, 0x00], [0x08, 0x08, 0x2A, 0x1C, 0x08]]

/-- `glyph_for_char`; a `char` is signed. -/
def glyphForChar (char : UInt8) : List UInt8 :=
  let char := if char.toInt8 < 32 ∨ 126 < char.toInt8 then 0x3F else char
  font.getD (char.toNat - 32) []

/-- What is done for each number below a bound. -/
def loop (count : Nat) (body : UInt32 → TracedMemory → TracedMemory) (memory : TracedMemory) : TracedMemory :=
  (List.range count).foldl (fun memory index => body (UInt32.ofNat index) memory) memory

/-- The loops over the columns and rows of a glyph, with what is done for each of its dots. -/
def loopGlyph (glyph : List UInt8) (dot : UInt32 → UInt32 → TracedMemory → TracedMemory) :
    TracedMemory → TracedMemory :=
  loop fontWidth fun col =>
    let columnBits := glyph.getD col.toNat 0
    loop fontHeight fun row memory =>
      if columnBits.toUInt32 &&& (1 <<< row) ≠ 0 then dot col row memory else memory

/-- The variables of `draw_line` that stay the same. -/
structure Line where
  x1 : Int32
  y1 : Int32
  dx : Int32
  sx : Int32
  dy : Int32
  sy : Int32

/-- The variables of `draw_line` that change. -/
structure Pen where
  x : Int32
  y : Int32
  err : Int32

/-- The line that `draw_line` draws. -/
def lineTo (x0 y0 x1 y1 : Int32) : Line where
  x1
  y1
  dx := if x0 < x1 then x1 - x0 else x0 - x1
  sx := if x0 < x1 then 1 else -1
  dy := if y0 < y1 then -(y1 - y0) else -(y0 - y1)
  sy := if y0 < y1 then 1 else -1

/-- Where it starts. -/
def Line.penAt (line : Line) (x0 y0 : Int32) : Pen := { x := x0, y := y0, err := line.dx + line.dy }

/-- The loop's body behind the pixel. -/
def Line.step (line : Line) (pen : Pen) : Pen :=
  let e2 := pen.err <<< 1
  let pen := if line.dy ≤ e2 then { pen with err := pen.err + line.dy, x := pen.x + line.sx } else pen
  if e2 ≤ line.dx then { pen with err := pen.err + line.dx, y := pen.y + line.sy } else pen

def Line.ends (line : Line) (pen : Pen) : Bool := pen.x = line.x1 && pen.y = line.y1

/-- Where `g_backbuffer` is in memory. -/
structure Backbuffer where
  address : Nat
  fits : address + framebufferSize ≤ 2 ^ 32

namespace Backbuffer

variable (buffer : Backbuffer)

/-- The address of a pixel. -/
def pixel (x y : Nat) : Nat := buffer.address + (y * screenWidth + x)

def drawPixel (x y : Int32) (color : UInt8) (memory : TracedMemory) : TracedMemory :=
  if x < 0 ∨ y < 0 ∨ 320 ≤ x ∨ 200 ≤ y then memory
  else memory.storeByte (buffer.pixel x.toInt.toNat y.toInt.toNat) color

/-- The loop of `draw_line`, for as many times as there is fuel. -/
def drawLineFrom (line : Line) (color : UInt8) (pen : Pen) (memory : TracedMemory) : Nat → Option TracedMemory
  | 0 => none
  | fuel + 1 =>
      let drawn := buffer.drawPixel pen.x pen.y color memory
      if line.ends pen then some drawn else drawLineFrom line color (line.step pen) drawn fuel

def drawLine (x0 y0 x1 y1 : Int32) (color : UInt8) (memory : TracedMemory) (fuel : Nat) : Option TracedMemory :=
  let line := lineTo x0 y0 x1 y1
  buffer.drawLineFrom line color (line.penAt x0 y0) memory fuel

/-- The loop of `graphics_clear_region`, over a number of rows: each one is set by `memset`. -/
def clearRows (x maxX : UInt32) (color : UInt8) (py : Nat) (memory : TracedMemory) : Nat → TracedMemory
  | 0 => memory
  | rows + 1 =>
      clearRows x maxX color (py + 1) (memory.fill (buffer.pixel x.toNat py) (maxX - x).toNat color) rows

def graphicsClearRegion (x y w h : UInt32) (color : UInt8) (memory : TracedMemory) : TracedMemory :=
  if 320 ≤ x ∨ 200 ≤ y then memory
  else
    let maxX := if 320 < x + w then 320 else x + w
    let maxY := if 200 < y + h then 200 else y + h
    buffer.clearRows x maxX color y.toNat memory (maxY.toNat - y.toNat)

def drawFilledRect (x y w h : UInt32) (color : UInt8) (memory : TracedMemory) : TracedMemory :=
  buffer.graphicsClearRegion x y w h color memory

/-- The sides of a rectangle, the upper and the lower one first. -/
def drawRect (x y w h : UInt32) (color : UInt8) (memory : TracedMemory) : TracedMemory :=
  if w < 2 ∨ h < 2 then memory
  else
    let rows := loop ((x + w).toNat - x.toNat) (fun px memory =>
      buffer.drawPixel (x + px).toInt32 (y + h - 1).toInt32 color
        (buffer.drawPixel (x + px).toInt32 y.toInt32 color memory)) memory
    loop ((y + h).toNat - y.toNat) (fun py memory =>
      buffer.drawPixel (x + w - 1).toInt32 (y + py).toInt32 color
        (buffer.drawPixel x.toInt32 (y + py).toInt32 color memory)) rows

def drawChar (x y : UInt32) (char : UInt8) (color : UInt8) : TracedMemory → TracedMemory :=
  loopGlyph (glyphForChar char) fun col row => buffer.drawPixel (x + col).toInt32 (y + row).toInt32 color

/-- The loop of `draw_text_scaled`; a text ends at a zero byte or with the list. -/
def drawScaledFrom (cursorX y : UInt32) (color : UInt8) (scale : UInt32) (memory : TracedMemory) :
    List UInt8 → TracedMemory
  | [] => memory
  | char :: rest =>
      if char = 0 then memory
      else
        let drawn := loopGlyph (glyphForChar char) (fun col row =>
          loop scale.toNat fun sx => loop scale.toNat fun sy =>
            buffer.drawPixel (cursorX + col * scale + sx).toInt32 (y + row * scale + sy).toInt32 color) memory
        drawScaledFrom (cursorX + (5 + 1) * scale) y color scale drawn rest

def drawTextScaled (x y : UInt32) (text : Option (List UInt8)) (color : UInt8) (scale : UInt32)
    (memory : TracedMemory) : TracedMemory :=
  match text with
  | none => memory
  | some text => if scale = 0 then memory else buffer.drawScaledFrom x y color scale memory text

/-- The loop of `draw_text`. -/
def drawTextFrom (cursorX y : UInt32) (color : UInt8) (memory : TracedMemory) : List UInt8 → TracedMemory
  | [] => memory
  | char :: rest =>
      if char = 0 then memory
      else drawTextFrom (cursorX + (5 + 1)) y color (buffer.drawChar cursorX y char color memory) rest

def drawText (x y : UInt32) (text : Option (List UInt8)) (color : UInt8) (memory : TracedMemory) : TracedMemory :=
  match text with
  | none => memory
  | some text => buffer.drawTextFrom x y color memory text

end Backbuffer

end AutismOS.Drawing

namespace AutismOS.Drawing

open AutismOS.Library

namespace Backbuffer

variable {buffer : Backbuffer} {cursorX x y : UInt32} {color char : UInt8} {text : List UInt8} {memory : TracedMemory}

theorem loop_one {body : UInt32 → TracedMemory → TracedMemory} : loop 1 body memory = body 0 memory := rfl

/-- A dot of size one is a pixel. -/
theorem scaledDot_one {col row : UInt32} : (loop (1 : UInt32).toNat fun sx => loop (1 : UInt32).toNat fun sy =>
    buffer.drawPixel (cursorX + col * 1 + sx).toInt32 (y + row * 1 + sy).toInt32 color) =
      buffer.drawPixel (cursorX + col).toInt32 (y + row).toInt32 color := by
  funext memory
  have single : (1 : UInt32).toNat = 1 := rfl
  rw [single, loop_one, loop_one, UInt32.mul_one, UInt32.mul_one, UInt32.add_zero, UInt32.add_zero]

theorem drawScaledFrom_one :
    buffer.drawScaledFrom cursorX y color 1 memory text = buffer.drawTextFrom cursorX y color memory text := by
  induction text generalizing cursorX memory with
  | nil => rfl
  | cons char rest ih =>
      rw [drawScaledFrom, drawTextFrom]
      by_cases ended : char = 0
      · rw [if_pos ended, if_pos ended]
      · have drawn : loopGlyph (glyphForChar char) (fun col row => loop (1 : UInt32).toNat fun sx =>
            loop (1 : UInt32).toNat fun sy =>
              buffer.drawPixel (cursorX + col * 1 + sx).toInt32 (y + row * 1 + sy).toInt32 color) memory =
              buffer.drawChar cursorX y char color memory := by
          rw [drawChar]
          congr 1
          funext col row
          exact scaledDot_one
        rw [if_neg ended, if_neg ended, drawn, ih, UInt32.mul_one]

/-- A text that is not enlarged is drawn as any other text is, byte by byte of what is written. -/
theorem drawTextScaled_one (buffer : Backbuffer) (x y : UInt32) (text : Option (List UInt8)) (color : UInt8)
    (memory : TracedMemory) : buffer.drawTextScaled x y text color 1 memory = buffer.drawText x y text color memory := by
  cases text with
  | none => rfl
  | some text =>
      rw [drawTextScaled, drawText]
      exact (if_neg (by decide)).trans drawScaledFrom_one

end Backbuffer

end AutismOS.Drawing
