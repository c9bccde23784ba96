import AutismOS.Browser.Layout
import AutismOS.Library.Wrapping
import Mathlib.Data.List.Basic

namespace AutismOS.Browser

open AutismOS.Library

/-! Rendering in `kernel/browser/layout.c`.

Stores to the framebuffer are a log before they are carried out, for rendering never reads a pixel.  Its
address and that of the pixels are not NULL.
-/

/-- `framebuffer_t`, whose pitch nothing reads here -/
structure Framebuffer where
  width : UInt32
  height : UInt32
  pixels : Nat → UInt32

/-- A pixel that is painted for a box. -/
structure Stroke where
  box : Nat
  px : UInt32
  py : UInt32
  color : UInt32

/-- The pixels of a character, which are the same for all. -/
def renderChar (fb : Framebuffer) (x y : UInt32) : List (UInt32 × UInt32) :=
  (List.range 8).flatMap fun dy =>
    (List.range 6).filterMap fun dx =>
      let px := x + UInt32.ofNat dx
      let py := y + UInt32.ofNat dy
      if px < fb.width ∧ py < fb.height then some (px, py) else none

/-- The loop over the text: so many characters are left until the limit. -/
def renderText (fb : Framebuffer) (box : LayoutBox) : Nat → List UInt8 → UInt32 → UInt32 → List (UInt32 × UInt32)
  | 0, _, _, _ => []
  | _ + 1, [], _, _ => []
  | left + 1, char :: rest, charX, charY =>
      if char = 0 then []
      else
        let painted := if char ≠ 0x20 then renderChar fb charX charY else []
        let charX := charX + 7
        painted ++
          if charX + 7 > box.x + box.width then renderText fb box left rest box.x (charY + 9)
          else renderText fb box left rest charX charY

def htmlTextMaxLen : Nat := 256

def renderBox (fb : Framebuffer) (number : Nat) (box : LayoutBox) (node : HtmlNode) : List Stroke :=
  if node.text.headD 0 ≠ 0 then
    let textColor : UInt32 := if node.tag = .h1 then 0x0000FF else 0x000000
    (renderText fb box (htmlTextMaxLen - 1) node.text box.x box.y).map fun pixel => ⟨number, pixel.1, pixel.2, textColor⟩
  else []

/-- The loop over the boxes. -/
def renderBoxes (fb : Framebuffer) (heap : PageHeap) : Nat → Option Nat → Except Fault (List Stroke)
  | 0, _ => .error .fuel
  | _ + 1, none => .ok []
  | fuel + 1, some number => do
      let box ← readBox heap number
      let node ← readNode heap box.node
      let later ← renderBoxes fb heap fuel box.next
      return renderBox fb number box node ++ later

/-- Light gray -/
def Framebuffer.cleared (fb : Framebuffer) : Nat → UInt32 := fun index =>
  if index < (fb.width * fb.height).toNat then 0xF0F0F0 else fb.pixels index

def Framebuffer.paint (fb : Framebuffer) (pixels : Nat → UInt32) (stroke : Stroke) : Nat → UInt32 :=
  Function.update pixels (stroke.py * fb.width + stroke.px).toNat stroke.color

/-- The framebuffer afterwards, with the log. -/
def layoutRenderToFramebuffer (fuel : Nat) (heap : PageHeap) (tree : Option Nat) (fb : Framebuffer) :
    Except Fault (Framebuffer × List Stroke) :=
  match tree with
  | none => .ok (fb, [])
  | some tree => do
      let object ← readTree heap tree
      let strokes ← renderBoxes fb heap fuel object.firstBox
      return ({ fb with pixels := strokes.foldl fb.paint fb.cleared }, strokes)

variable {fb : Framebuffer} {box : LayoutBox} {x y px py : UInt32} {cols top left index : Nat} {text : List UInt8}

theorem mem_renderChar : (px, py) ∈ renderChar fb x y ↔ ∃ dx < 6, ∃ dy < 8,
    px = x + UInt32.ofNat dx ∧ py = y + UInt32.ofNat dy ∧ px < fb.width ∧ py < fb.height := by
  simp only [renderChar, List.mem_flatMap, List.mem_range, List.mem_filterMap, Option.ite_none_right_eq_some]
  constructor
  · rintro ⟨dy, row, dx, column, shown, same⟩
    cases same
    exact ⟨dx, column, dy, row, rfl, rfl, shown⟩
  · rintro ⟨dx, column, dy, row, rfl, rfl, shown⟩
    exact ⟨dy, row, dx, column, shown, rfl⟩

/-- The place of a character, in rows of so many columns. -/
def charX (cols index : Nat) : UInt32 := UInt32.ofNat (5 + 7 * (index % cols))

def charY (cols top index : Nat) : UInt32 := UInt32.ofNat (top + 9 * (index / cols))

/-- The characters that are painted, spaces included. -/
def visible (limit : Nat) (text : List UInt8) : List UInt8 := (cString text).take limit

/-- Where the row is full the next character begins another one. -/
theorem row_full (isCols : box.width.toNat / 7 = cols) (isBox : box.x = 5) (fits : box.width.toNat + 5 < 2 ^ 32)
    (small : index < 255) : charX cols index + 7 + 7 > box.x + box.width ↔ cols ≤ index % cols + 1 := by
  rw [charX]
  have column : index % cols ≤ index := Nat.mod_le _ _
  have seven : (7 : UInt32).toNat = 7 := rfl
  have five : (5 : UInt32).toNat = 5 := rfl
  have left : (UInt32.ofNat (5 + 7 * (index % cols)) + 7 + 7).toNat = 5 + 7 * (index % cols) + 14 := by
    rw [UInt32.toNat_add, UInt32.toNat_add, UInt32.toNat_ofNat', seven]
    omega
  have right : (box.x + box.width).toNat = 5 + box.width.toNat := by
    rw [UInt32.toNat_add, isBox, five]
    omega
  rw [gt_iff_lt, UInt32.lt_iff_toNat_lt, left, right]
  omega

theorem charX_succ (positive : 0 < cols) :
    charX cols (index + 1) = if cols ≤ index % cols + 1 then 5 else charX cols index + 7 := by
  rw [charX, ← Wrapping.succ_mod positive]
  split
  · rfl
  · rw [Nat.mul_add, ← Nat.add_assoc, UInt32.ofNat_add, charX]
    rfl

theorem charY_succ (positive : 0 < cols) :
    charY cols top (index + 1) = if cols ≤ index % cols + 1 then charY cols top index + 9 else charY cols top index := by
  rw [charY, Nat.succ_div]
  by_cases full : cols ≤ index % cols + 1
  · rw [if_pos full, if_pos ((Wrapping.full_iff positive).mp full), Nat.mul_add, ← Nat.add_assoc, UInt32.ofNat_add, charY]
    rfl
  · rw [if_neg full, if_neg (mt (Wrapping.full_iff positive).mpr full), charY]
    rfl

/-- A text is painted character by character, in rows of so many columns. -/
theorem mem_renderText (positive : 0 < cols) (isCols : box.width.toNat / 7 = cols) (isBox : box.x = 5)
    (fits : box.width.toNat + 5 < 2 ^ 32) (limit : index + left = 255) :
    (px, py) ∈ renderText fb box left text (charX cols index) (charY cols top index) ↔
      ∃ offset char, (visible left text)[offset]? = some char ∧ char ≠ 0x20 ∧
        (px, py) ∈ renderChar fb (charX cols (index + offset)) (charY cols top (index + offset)) := by
  induction left generalizing index text with
  | zero =>
      rw [renderText, visible, List.take_zero]
      simp
  | succ left ih =>
      cases text with
      | nil =>
          rw [renderText, visible]
          simp [cString]
      | cons char rest =>
          rw [renderText]
          by_cases ends : char = 0
          · have nothing : visible (left + 1) (char :: rest) = [] := by
              rw [visible, cString_cons_eq_nil.mpr ends, List.take_nil]
            rw [if_pos ends, nothing]
            simp
          · have further : visible (left + 1) (char :: rest) = char :: visible left rest := by
              rw [visible, cString_head, List.headD_cons, if_neg ends, List.take_succ_cons, List.tail_cons, visible]
            have later := @ih (index + 1) rest (by omega)
            have behind : (if charX cols index + 7 + 7 > box.x + box.width then
                renderText fb box left rest box.x (charY cols top index + 9)
                else renderText fb box left rest (charX cols index + 7) (charY cols top index)) =
                renderText fb box left rest (charX cols (index + 1)) (charY cols top (index + 1)) := by
              rw [charX_succ positive, charY_succ positive]
              by_cases full : cols ≤ index % cols + 1
              · rw [if_pos ((row_full isCols isBox fits (by omega)).mpr full), if_pos full, if_pos full, isBox]
              · rw [if_neg (mt (row_full isCols isBox fits (by omega)).mp full), if_neg full, if_neg full]
            rw [if_neg ends, further]
            simp only [behind]
            rw [List.mem_append, later]
            constructor
            · rintro (here | ⟨offset, other, found, shown, painted⟩)
              · by_cases space : char ≠ 0x20
                · rw [if_pos space] at here
                  exact ⟨0, char, rfl, space, here⟩
                · rw [if_neg space] at here
                  cases here
              · refine ⟨offset + 1, other, found, shown, ?_⟩
                rwa [Nat.add_assoc, Nat.add_comm 1] at painted
            · rintro ⟨offset, other, found, shown, painted⟩
              cases offset with
              | zero =>
                  cases found
                  rw [if_pos shown]
                  exact Or.inl painted
              | succ offset =>
                  refine Or.inr ⟨offset, other, found, shown, ?_⟩
                  rwa [Nat.add_assoc, Nat.add_comm 1]

end AutismOS.Browser
