import AutismOS.Drawing.Core

namespace AutismOS.Drawing

open AutismOS.Library

/-- The pixel is in the rectangle, with sums of integers. -/
def InRectangle (x y w h : UInt32) (px py : Nat) : Prop :=
  (x.toNat ≤ px ∧ px < x.toNat + w.toNat) ∧ (y.toNat ≤ py ∧ py < y.toNat + h.toNat)

instance : Decidable (InRectangle x y w h px py) := inferInstanceAs (Decidable (_ ∧ _))

/-- The rectangle is beside the screen or empty, or none of its sides comes around. -/
def Straight (x y w h : UInt32) : Prop :=
  320 ≤ x ∨ 200 ≤ y ∨ w = 0 ∨ h = 0 ∨ x.toNat + w.toNat < 2 ^ 32 ∧ y.toNat + h.toNat < 2 ^ 32

namespace Backbuffer

variable {buffer : Backbuffer} {x y w h maxX : UInt32} {color : UInt8} {before after memory : TracedMemory}
  {left right top rows px py address : Nat}

/-- The address is one of the back buffer's. -/
def Contains (buffer : Backbuffer) (address : Nat) : Prop :=
  buffer.address ≤ address ∧ address < buffer.address + framebufferSize

/-- Only the back buffer was written, and of its pixels exactly those of `region` got the color. -/
structure Colors (buffer : Backbuffer) (region : Nat → Nat → Prop) [∀ px py, Decidable (region px py)] (color : UInt8)
    (before after : TracedMemory) : Prop where
  within : TracedMemory.Within buffer.Contains before after
  pixels : ∀ px py, px < screenWidth → py < screenHeight →
    after.bytes (buffer.pixel px py) = if region px py then color else before.bytes (buffer.pixel px py)

/-- What `fill` does colors exactly the pixels of the rectangle on the screen, whatever is in memory. -/
def Fills (buffer : Backbuffer) (x y w h : UInt32) (color : UInt8) (fill : TracedMemory → TracedMemory) : Prop :=
  ∀ memory, buffer.Colors (InRectangle x y w h) color memory (fill memory)

theorem pixel_contained (inX : px < screenWidth) (inY : py < screenHeight) : buffer.Contains (buffer.pixel px py) := by
  have inX : px < 320 := inX
  have inY : py < 200 := inY
  refine ⟨Nat.le_add_right _ _, ?_⟩
  change buffer.address + (py * 320 + px) < buffer.address + 64000
  omega

theorem Contains.lt (contained : buffer.Contains address) : address < 2 ^ 32 :=
  Nat.lt_of_lt_of_le contained.2 buffer.fits

theorem pixel_mod (inX : px < screenWidth) (inY : py < screenHeight) :
    buffer.pixel px py % 2 ^ 32 = buffer.pixel px py :=
  Nat.mod_eq_of_lt (pixel_contained inX inY).lt

/-- Different points of the screen have different addresses. -/
theorem pixel_inj (inX : px < screenWidth) (inX' : left < screenWidth) :
    buffer.pixel px py = buffer.pixel left top ↔ px = left ∧ py = top := by
  have inX : px < 320 := inX
  have inX' : left < 320 := inX'
  change buffer.address + (py * 320 + px) = buffer.address + (top * 320 + left) ↔ _
  omega

theorem fill_row (inRow : left ≤ right) (clipped : right ≤ screenWidth) (inY : py < screenHeight) :
    buffer.Colors (fun qx qy => (left ≤ qx ∧ qx < right) ∧ qy = py) color memory
      (memory.fill (buffer.pixel left py) (right - left) color) := by
  have clipped : right ≤ 320 := clipped
  have inY : py < 200 := inY
  have fits : buffer.address + 64000 ≤ 2 ^ 32 := buffer.fits
  have start : buffer.pixel left py = buffer.address + (py * 320 + left) := rfl
  constructor
  · refine TracedMemory.fill_within fun offset inside => ?_
    have small : (buffer.pixel left py + offset) % 2 ^ 32 = buffer.pixel (left + offset) py := by
      change (buffer.address + (py * 320 + left) + offset) % 2 ^ 32 = buffer.address + (py * 320 + (left + offset))
      omega
    rw [small]
    exact pixel_contained (show left + offset < 320 by omega) inY
  · intro qx qy qxInside qyInside
    have qxInside : qx < 320 := qxInside
    have place : buffer.pixel qx qy = buffer.address + (qy * 320 + qx) := rfl
    change memory.bytes.fill (buffer.pixel left py) color (right - left) (buffer.pixel qx qy) = _
    rw [ByteMemory.fill_apply (by omega)]
    refine if_congr ?_ rfl rfl
    omega

theorem clearRows_colors (inRow : x.toNat ≤ maxX.toNat) (clipped : maxX.toNat ≤ screenWidth)
    (inY : top + rows ≤ screenHeight) :
    buffer.Colors (fun qx qy => (x.toNat ≤ qx ∧ qx < maxX.toNat) ∧ top ≤ qy ∧ qy < top + rows) color memory
      (buffer.clearRows x maxX color top memory rows) := by
  induction rows generalizing memory top with
  | zero =>
      refine ⟨.refl, fun qx qy _ _ => ?_⟩
      rw [clearRows, if_neg]
      omega
  | succ rows ih =>
      have width : (maxX - x).toNat = maxX.toNat - x.toNat := UInt32.toNat_sub_of_le _ _ (UInt32.le_iff_toNat_le.mpr inRow)
      have first : buffer.Colors _ color memory (memory.fill (buffer.pixel x.toNat top) (maxX.toNat - x.toNat) color) :=
        fill_row inRow clipped (by omega)
      have rest : buffer.Colors _ color (memory.fill (buffer.pixel x.toNat top) (maxX.toNat - x.toNat) color)
          (buffer.clearRows x maxX color (top + 1) _ rows) := ih (by omega)
      rw [clearRows, width]
      refine ⟨first.within.trans rest.within, fun qx qy qxInside qyInside => ?_⟩
      rw [rest.pixels qx qy qxInside qyInside, first.pixels qx qy qxInside qyInside]
      by_cases later : (x.toNat ≤ qx ∧ qx < maxX.toNat) ∧ top + 1 ≤ qy ∧ qy < top + 1 + rows
      · rw [if_pos later, if_pos]
        omega
      · rw [if_neg later]
        refine if_congr ?_ rfl rfl
        omega

/-- What was written stays written. -/
theorem clearRows_touched (member : address ∈ memory.touched) :
    address ∈ (buffer.clearRows x maxX color top memory rows).touched := by
  induction rows generalizing memory top with
  | zero => exact member
  | succ rows ih => exact ih (List.mem_append_right _ member)

theorem fills_beside (outside : 320 ≤ x ∨ 200 ≤ y) :
    buffer.Fills x y w h color (buffer.graphicsClearRegion x y w h color) := by
  intro memory
  rw [graphicsClearRegion, if_pos outside]
  refine ⟨.refl, fun px py inX inY => ?_⟩
  rw [if_neg]
  rintro ⟨⟨left, _⟩, top, _⟩
  have inX : px < 320 := inX
  have inY : py < 200 := inY
  rcases outside with right | below
  · have right : 320 ≤ x.toNat := right
    omega
  · have below : 200 ≤ y.toNat := below
    omega

theorem clip_toNat {side bound : UInt32} :
    (if bound < side then bound else side).toNat = min side.toNat bound.toNat := by
  split
  · next larger => exact (Nat.min_eq_right (Nat.le_of_lt (UInt32.lt_iff_toNat_lt.mp larger))).symm
  · next smaller =>
      exact (Nat.min_eq_left (Nat.le_of_not_lt fun larger => smaller (UInt32.lt_iff_toNat_lt.mpr larger))).symm

section OnScreen

variable (inX : x.toNat < 320) (inY : y.toNat < 200)

include inX inY

theorem graphicsClearRegion_eq : buffer.graphicsClearRegion x y w h color memory =
    buffer.clearRows x (if 320 < x + w then 320 else x + w) color y.toNat memory
      (min (y + h).toNat 200 - y.toNat) := by
  have onScreen : ¬ (320 ≤ x ∨ 200 ≤ y) := by
    rw [UInt32.le_iff_toNat_le, UInt32.le_iff_toNat_le]
    exact not_or.mpr ⟨Nat.not_le.mpr inX, Nat.not_le.mpr inY⟩
  rw [graphicsClearRegion, if_neg onScreen]
  dsimp only
  rw [@clip_toNat (y + h) 200]
  rfl

theorem graphicsClearRegion_noRows (none : (y + h).toNat ≤ y.toNat) :
    buffer.graphicsClearRegion x y w h color memory = memory := by
  rw [graphicsClearRegion_eq inX inY, Nat.sub_eq_zero_of_le (Nat.le_trans (Nat.min_le_left _ _) none), clearRows]

theorem fills_straight (narrow : x.toNat + w.toNat < 2 ^ 32) (low : y.toNat + h.toNat < 2 ^ 32) :
    buffer.Fills x y w h color (buffer.graphicsClearRegion x y w h color) := by
  intro memory
  have right : (x + w).toNat = x.toNat + w.toNat := by
    rw [UInt32.toNat_add, Nat.mod_eq_of_lt narrow]
  have bottom : (y + h).toNat = y.toNat + h.toNat := by
    rw [UInt32.toNat_add, Nat.mod_eq_of_lt low]
  have clipped : (if 320 < x + w then 320 else x + w).toNat = min (x.toNat + w.toNat) 320 := by
    rw [clip_toNat, right]
    rfl
  rw [graphicsClearRegion_eq inX inY, bottom]
  have cleared : buffer.Colors _ color memory (buffer.clearRows x (if 320 < x + w then 320 else x + w) color y.toNat
      memory (min (y.toNat + h.toNat) 200 - y.toNat)) :=
    clearRows_colors (by omega) (by rw [clipped]; exact Nat.min_le_right _ _) (show _ ≤ 200 by omega)
  refine ⟨cleared.within, fun px py insideX insideY => ?_⟩
  have insideX : px < 320 := insideX
  have insideY : py < 200 := insideY
  rw [cleared.pixels px py insideX insideY, clipped]
  refine if_congr ?_ rfl rfl
  rw [InRectangle]
  omega

theorem fills_empty (none : (y + h).toNat ≤ y.toNat) (empty : w = 0 ∨ h = 0) :
    buffer.Fills x y w h color (buffer.graphicsClearRegion x y w h color) := by
  intro memory
  rw [graphicsClearRegion_noRows inX inY none]
  refine ⟨.refl, fun px py _ _ => ?_⟩
  rw [if_neg]
  rintro ⟨⟨left, right⟩, top, bottom⟩
  rcases empty with rfl | rfl
  · exact absurd (Nat.lt_of_le_of_lt left right) (Nat.lt_irrefl _)
  · exact absurd (Nat.lt_of_le_of_lt top bottom) (Nat.lt_irrefl _)

/-- Where the lower side comes around, nothing is filled. -/
theorem not_fills_low (wide : w ≠ 0) (wraps : 2 ^ 32 ≤ y.toNat + h.toNat) :
    ¬ buffer.Fills x y w h color (buffer.graphicsClearRegion x y w h color) := by
  intro fills
  have highest := h.toNat_lt
  have bottom : (y + h).toNat ≤ y.toNat := by
    rw [UInt32.toNat_add]
    omega
  have corner : InRectangle x y w h x.toNat y.toNat := by
    have positive : w.toNat ≠ 0 := fun zero => wide (UInt32.toNat_inj.mp zero)
    rw [InRectangle]
    omega
  have colored := (fills ⟨fun _ => color + 1, []⟩).pixels x.toNat y.toNat inX inY
  rw [graphicsClearRegion_noRows inX inY bottom, if_pos corner] at colored
  exact absurd colored (by simp)

/-- Where only the right side comes around, the first row goes on far behind the buffer. -/
theorem not_fills_wide (high : h ≠ 0) (low : y.toNat + h.toNat < 2 ^ 32) (wraps : 2 ^ 32 ≤ x.toNat + w.toNat) :
    ¬ buffer.Fills x y w h color (buffer.graphicsClearRegion x y w h color) := by
  intro fills
  have fits : buffer.address + 64000 ≤ 2 ^ 32 := buffer.fits
  have widest := w.toNat_lt
  have right : (x + w).toNat = x.toNat + w.toNat - 2 ^ 32 := by
    rw [UInt32.toNat_add]
    omega
  have unclipped : (if 320 < x + w then 320 else x + w) = x + w := by
    refine if_neg fun clipped => ?_
    have clipped : 320 < (x + w).toNat := clipped
    omega
  have width : x + w - x = w := by rw [UInt32.add_comm, UInt32.add_sub_cancel]
  obtain ⟨rows, isRows⟩ : ∃ rows, min (y + h).toNat 200 - y.toNat = rows + 1 := by
    have positive : h.toNat ≠ 0 := fun zero => high (UInt32.toNat_inj.mp zero)
    have bottom : (y + h).toNat = y.toNat + h.toNat := by
      rw [UInt32.toNat_add, Nat.mod_eq_of_lt low]
    exact ⟨min (y + h).toNat 200 - y.toNat - 1, by omega⟩
  have place : buffer.pixel x.toNat y.toNat = buffer.address + (y.toNat * 320 + x.toNat) := rfl
  have behind : (buffer.address + 64000) % 2 ^ 32 ∈
      (buffer.graphicsClearRegion x y w h color ⟨fun _ => 0, []⟩).touched := by
    rw [graphicsClearRegion_eq inX inY, unclipped, isRows, clearRows, width]
    refine clearRows_touched ?_
    refine TracedMemory.mem_touch.mpr (.inl ⟨64000 - (y.toNat * 320 + x.toNat), ?_, ?_⟩)
    · omega
    · rw [place]
      congr 1
      omega
  rcases (fills ⟨fun _ => 0, []⟩).within.touched _ behind with listed | ⟨lower, upper⟩
  · cases listed
  · have upper : (buffer.address + 64000) % 2 ^ 32 < buffer.address + 64000 := upper
    omega

end OnScreen

/-- A rectangle is filled as it should be exactly when it is straight. -/
theorem fills_iff (buffer : Backbuffer) (x y w h : UInt32) (color : UInt8) :
    (buffer.Fills x y w h color (buffer.graphicsClearRegion x y w h color) ↔ Straight x y w h) ∧
      (buffer.Fills x y w h color (buffer.drawFilledRect x y w h color) ↔ Straight x y w h) := by
  have exactly : buffer.Fills x y w h color (buffer.graphicsClearRegion x y w h color) ↔ Straight x y w h := by
    by_cases outside : 320 ≤ x ∨ 200 ≤ y
    · refine iff_of_true (fills_beside outside) ?_
      rcases outside with right | below
      · exact .inl right
      · exact .inr (.inl below)
    · obtain ⟨inX, inY⟩ := not_or.mp outside
      have onX : x.toNat < 320 := Nat.not_le.mp inX
      have onY : y.toNat < 200 := Nat.not_le.mp inY
      constructor
      · intro fills
        by_cases narrow : w = 0
        · exact .inr (.inr (.inl narrow))
        by_cases flat : h = 0
        · exact .inr (.inr (.inr (.inl flat)))
        by_cases low : y.toNat + h.toNat < 2 ^ 32
        · refine .inr (.inr (.inr (.inr ⟨Nat.not_le.mp fun wraps => ?_, low⟩)))
          exact not_fills_wide onX onY flat low wraps fills
        · exact absurd fills (not_fills_low onX onY narrow (Nat.not_lt.mp low))
      · rintro (right | below | rfl | rfl | ⟨narrow, low⟩)
        · exact absurd right inX
        · exact absurd below inY
        · by_cases low : y.toNat + h.toNat < 2 ^ 32
          · exact fills_straight onX onY x.toNat_lt low
          · have highest := h.toNat_lt
            refine fills_empty onX onY ?_ (.inl rfl)
            rw [UInt32.toNat_add]
            omega
        · exact fills_empty onX onY (Nat.le_of_eq (by rw [UInt32.add_zero])) (.inr rfl)
        · exact fills_straight onX onY narrow low
  exact ⟨exactly, exactly⟩

/-- A width of -4: `memset` gets a length of 4294967292. -/
theorem not_fills_negative_width : ¬ (Backbuffer.mk 0x200000 (by decide)).Fills 10 10 (-4) 8 15
    ((Backbuffer.mk 0x200000 (by decide)).graphicsClearRegion 10 10 (-4) 8 15) :=
  not_fills_wide (by decide) (by decide) (by decide) (by decide) (by decide)

end Backbuffer

end AutismOS.Drawing
