import AutismOS.Library.Word
import AutismOS.Widgets.Core
import Mathlib.Algebra.Order.Ring.Int

namespace AutismOS.Widgets

open AutismOS.Library AutismOS.Input

/-- `slider_t`; `changes` are the calls of its handler with the value. -/
structure Slider where
  base : Widget
  value : Int32
  minValue : Int32
  maxValue : Int32
  handleSize : UInt8
  onChange : Option Nat
  changes : List (Nat × Int32)

def sliderInit (min max : Int32) : Slider :=
  { base := widgetInit.widgetSetSize 100 20, value := min, minValue := min, maxValue := max, handleSize := 12
    onChange := none, changes := [] }

namespace Slider

variable (slider : Slider)

/-- Into the limits, the lower one first. -/
def clamp (value : Int32) : Int32 :=
  let value := if value < slider.minValue then slider.minValue else value
  if value > slider.maxValue then slider.maxValue else value

def sliderSetValue (value : Int32) : Slider :=
  { slider with value := slider.clamp value, base := { slider.base with needsRedraw := true } }

/-- The test for the mouse, which looks at one coordinate only. -/
def spans (x : Int32) : Bool := slider.base.x ≤ x && x < Widget.farEdge slider.base.x slider.base.width

/-- The value for a place of the mouse; range and product wrap around. -/
def valueAt (x : Int32) : Int32 :=
  let relX := (x - slider.base.x).toUInt32
  let range := (slider.maxValue - slider.minValue).toUInt32
  slider.clamp (slider.minValue + (relX * range / slider.base.width).toInt32)

def change (newValue : Int32) : Slider :=
  { slider with
    value := newValue
    base := { slider.base with needsRedraw := true }
    changes :=
      match slider.onChange with
      | none => slider.changes
      | some handler => slider.changes ++ [(handler, newValue)] }

def sliderHandleEvent (event : InputEvent) : Slider :=
  if !slider.base.enabled then slider
  else if event.type = .mousePress ∨ event.type = .mouseMove ∧ event.mouse.buttons &&& mouseButtonLeft ≠ 0 then
    if slider.spans (mouseX event) then
      let newValue := slider.valueAt (mouseX event)
      if newValue ≠ slider.value then slider.change newValue else slider
    else slider
  else slider

end Slider

/-- A left press inside the slider, by the test of its handler. -/
structure SliderPress (slider : Slider) (event : InputEvent) : Prop where
  press : event.type = .mousePress
  left : event.mouse.buttonChanged = mouseButtonLeft
  inside : slider.spans (mouseX event) = true

/-- The value of the slider after an event. -/
def valueAfter (slider : Slider) (event : InputEvent) : Int32 :=
  (widgetHandleEvent slider.base slider (slider.sliderHandleEvent event)).value

def position (slider : Slider) (event : InputEvent) : Int := (mouseX event).toInt - slider.base.x.toInt

def range (slider : Slider) : Int := slider.maxValue.toInt - slider.minValue.toInt

structure MapsPresses (slider : Slider) : Prop where
  bounded : ∀ event, SliderPress slider event →
    slider.minValue ≤ valueAfter slider event ∧ valueAfter slider event ≤ slider.maxValue
  monotone : ∀ first second, SliderPress slider first → SliderPress slider second → mouseX first ≤ mouseX second →
    valueAfter slider first ≤ valueAfter slider second
  leftmost : ∀ event, SliderPress slider event → position slider event = 0 →
    valueAfter slider event = slider.minValue
  rightmost : ∀ event, SliderPress slider event → position slider event = slider.base.width.toNat - 1 →
    valueAfter slider event = slider.maxValue
  unwrapped : ∀ event, SliderPress slider event → position slider event * range slider < 2 ^ 32

variable {slider : Slider} {event : InputEvent} {x : Int32}

section Awake

variable (enabled : slider.base.enabled = true) (visible : slider.base.visible = true)

include enabled visible

theorem valueAfter_press (press : SliderPress slider event) : valueAfter slider event = slider.valueAt (mouseX event) := by
  have awake : ¬ (!slider.base.enabled || !slider.base.visible) = true := by simp [enabled, visible]
  rw [valueAfter, widgetHandleEvent, if_neg awake]
  simp only [Slider.sliderHandleEvent, enabled, press.press, press.inside]
  by_cases changes : slider.valueAt (mouseX event) = slider.value
  · simp [changes]
  · simp [changes, Slider.change]

end Awake

/-- Where the edge fits, the test is that of the plane. -/
theorem farEdge_toInt {start : Int32} {extent : UInt32} (fits : start.toInt + extent.toNat < 2 ^ 31) :
    (Widget.farEdge start extent).toInt = start.toInt + extent.toNat := by
  have lower := start.le_toInt
  rw [Widget.farEdge, UInt32.toInt32_add, Int32.toInt32_toUInt32, Signed.toInt_add_toInt32]
  exact Signed.bmod_of_fits ⟨by omega, fits⟩

theorem spans_iff (fits : slider.base.x.toInt + slider.base.width.toNat < 2 ^ 31) :
    slider.spans x = true ↔ slider.base.x.toInt ≤ x.toInt ∧ x.toInt < slider.base.x.toInt + slider.base.width.toNat := by
  rw [Slider.spans, Bool.and_eq_true, decide_eq_true_eq, decide_eq_true_eq, Int32.le_iff_toInt_le,
    Int32.lt_iff_toInt_lt, farEdge_toInt fits]

/-- A slider whose right edge has no place among the coordinates takes no press. -/
theorem spans_wrapped (wraps : 2 ^ 31 ≤ slider.base.x.toInt + slider.base.width.toNat) : slider.spans x = false := by
  have upper := slider.base.x.toInt_lt
  have lower := slider.base.x.le_toInt
  have small := slider.base.width.toNat_lt
  have edge : (Widget.farEdge slider.base.x slider.base.width).toInt =
      slider.base.x.toInt + slider.base.width.toNat - 2 ^ 32 := by
    rw [Widget.farEdge, UInt32.toInt32_add, Int32.toInt32_toUInt32, Signed.toInt_add_toInt32, ← Int.sub_bmod_right]
    exact Signed.bmod_of_fits ⟨by omega, by omega⟩
  refine Bool.eq_false_iff.mpr fun spans => ?_
  rw [Slider.spans, Bool.and_eq_true, decide_eq_true_eq, decide_eq_true_eq, Int32.le_iff_toInt_le,
    Int32.lt_iff_toInt_lt, edge] at spans
  omega

section Ordered

variable (ordered : slider.minValue ≤ slider.maxValue)

include ordered

theorem clamp_bounded {value : Int32} : slider.minValue ≤ slider.clamp value ∧ slider.clamp value ≤ slider.maxValue := by
  rw [Int32.le_iff_toInt_le] at ordered
  unfold Slider.clamp
  simp only [Int32.le_iff_toInt_le, gt_iff_lt, Int32.lt_iff_toInt_lt]
  split <;> split <;> omega

/-- A value that is set directly is within the limits as well. -/
theorem sliderSetValue_bounded {value : Int32} : slider.minValue ≤ (slider.sliderSetValue value).value ∧
    (slider.sliderSetValue value).value ≤ slider.maxValue := clamp_bounded ordered

omit ordered in
theorem clamp_of_bounded {value : Int32} (lower : slider.minValue.toInt ≤ value.toInt)
    (upper : value.toInt ≤ slider.maxValue.toInt) : slider.clamp value = value := by
  have notBelow : ¬ value < slider.minValue := by
    rw [Int32.lt_iff_toInt_lt]
    omega
  have notAbove : ¬ value > slider.maxValue := by
    rw [gt_iff_lt, Int32.lt_iff_toInt_lt]
    omega
  simp only [Slider.clamp, notBelow, notAbove, if_false]

theorem range_toNat : ((slider.maxValue - slider.minValue).toUInt32.toNat : Int) = range slider :=
  Signed.toNat_sub (Int32.le_iff_toInt_le.mp ordered)

/-- Where the product fits, the value is a rounded share of the range. -/
theorem valueAt_toInt (right : slider.base.x.toInt ≤ x.toInt)
    (inside : x.toInt < slider.base.x.toInt + slider.base.width.toNat)
    (fits : (x.toInt - slider.base.x.toInt) * range slider < 2 ^ 32) :
    (slider.valueAt x).toInt =
      slider.minValue.toInt + (x.toInt - slider.base.x.toInt) * range slider / slider.base.width.toNat := by
  have place := @Signed.toNat_sub x slider.base.x right
  have extent := range_toNat ordered
  have upper := slider.maxValue.toInt_lt
  have lower := slider.minValue.le_toInt
  have product : ((x - slider.base.x).toUInt32 * (slider.maxValue - slider.minValue).toUInt32).toNat =
      (x - slider.base.x).toUInt32.toNat * (slider.maxValue - slider.minValue).toUInt32.toNat := by
    rw [UInt32.toNat_mul]
    refine Nat.mod_eq_of_lt (Int.ofNat_lt.mp ?_)
    rw [Int.natCast_mul, place, extent]
    exact fits
  have share : (((x - slider.base.x).toUInt32 * (slider.maxValue - slider.minValue).toUInt32 /
      slider.base.width).toNat : Int) = (x.toInt - slider.base.x.toInt) * range slider / slider.base.width.toNat := by
    rw [UInt32.toNat_div, product, Int.natCast_ediv, Int.natCast_mul, place, extent]
  have positive : 0 ≤ range slider := by omega
  have below : (x.toInt - slider.base.x.toInt) * range slider / slider.base.width.toNat ≤ range slider := by
    refine Int.ediv_le_of_le_mul (by omega) ?_
    rw [Int.mul_comm (range slider)]
    exact Int.mul_le_mul_of_nonneg_right (by omega) positive
  have above : 0 ≤ (x.toInt - slider.base.x.toInt) * range slider / slider.base.width.toNat :=
    Int.ediv_nonneg (Int.mul_nonneg (by omega) positive) (by omega)
  have sum : (slider.minValue + ((x - slider.base.x).toUInt32 * (slider.maxValue - slider.minValue).toUInt32 /
      slider.base.width).toInt32).toInt =
      slider.minValue.toInt + (x.toInt - slider.base.x.toInt) * range slider / slider.base.width.toNat := by
    rw [Signed.toInt_add_toInt32, share]
    unfold range at *
    exact Signed.bmod_of_fits ⟨by omega, by omega⟩
  rw [Slider.valueAt, clamp_of_bounded, sum]
  · rw [sum]
    omega
  · rw [sum]
    unfold range at *
    omega

/-- Further to the right the value does not get smaller. -/
theorem valueAt_mono {y : Int32} (right : slider.base.x.toInt ≤ x.toInt) (less : x ≤ y)
    (inside : y.toInt < slider.base.x.toInt + slider.base.width.toNat)
    (fits : (y.toInt - slider.base.x.toInt) * range slider < 2 ^ 32) : slider.valueAt x ≤ slider.valueAt y := by
  rw [Int32.le_iff_toInt_le] at less ordered
  have positive : 0 ≤ range slider := by
    unfold range
    omega
  have smaller : (x.toInt - slider.base.x.toInt) * range slider ≤ (y.toInt - slider.base.x.toInt) * range slider :=
    Int.mul_le_mul_of_nonneg_right (by omega) positive
  rw [Int32.le_iff_toInt_le, valueAt_toInt (Int32.le_iff_toInt_le.mpr ordered) right (by omega) (by omega),
    valueAt_toInt (Int32.le_iff_toInt_le.mpr ordered) (by omega) inside fits]
  exact Int.add_le_add_left (Int.ediv_le_ediv (by omega) smaller) _

/-- At the rightmost place the largest value is still ahead. -/
theorem valueAt_last (wide : 2 ≤ slider.base.width.toNat) (different : slider.minValue ≠ slider.maxValue)
    (last : x.toInt = slider.base.x.toInt + slider.base.width.toNat - 1)
    (fits : (x.toInt - slider.base.x.toInt) * range slider < 2 ^ 32) : slider.valueAt x ≠ slider.maxValue := by
  intro isMax
  have value := valueAt_toInt ordered (by omega) (by omega) fits
  have positive : 0 < range slider := by
    rw [Int32.le_iff_toInt_le] at ordered
    have apart := mt Int32.toInt_inj.mp different
    unfold range
    omega
  have share : (x.toInt - slider.base.x.toInt) * range slider / slider.base.width.toNat < range slider := by
    refine Int.ediv_lt_of_lt_mul (by omega) ?_
    rw [Int.mul_comm (range slider)]
    exact Int.mul_lt_mul_of_pos_right (by omega) positive
  rw [isMax] at value
  unfold range at *
  omega

end Ordered

theorem valueAt_constant (same : slider.minValue = slider.maxValue) : slider.valueAt x = slider.minValue := by
  have ordered : slider.minValue ≤ slider.maxValue := by
    rw [same]
    exact Int32.le_refl _
  refine Int32.le_antisymm ?_ (clamp_bounded ordered).1
  have upper : slider.valueAt x ≤ slider.maxValue := (clamp_bounded ordered).2
  rwa [← same] at upper

/-- Presses are mapped onto the whole range exactly where the range is a single value, or no press is
taken because the right edge has no place among the coordinates. -/
theorem mapsPresses_iff (enabled : slider.base.enabled = true) (visible : slider.base.visible = true)
    (ordered : slider.minValue ≤ slider.maxValue) (wide : 2 ≤ slider.base.width) :
    MapsPresses slider ↔ slider.minValue = slider.maxValue ∨
      2 ^ 31 ≤ slider.base.x.toInt + slider.base.width.toNat := by
  have columns : 2 ≤ slider.base.width.toNat := UInt32.le_iff_toNat_le.mp wide
  constructor
  · intro maps
    by_contra neither
    obtain ⟨different, fits⟩ := not_or.mp neither
    have edge := Int.not_le.mp fits
    have lower := slider.base.x.le_toInt
    have place : (Int32.ofInt (slider.base.x.toInt + slider.base.width.toNat - 1)).toInt =
        slider.base.x.toInt + slider.base.width.toNat - 1 := Int32.toInt_ofInt_of_le (by omega) (by omega)
    have press : SliderPress slider { zeroEvent with
        type := .mousePress
        mouse := { zeroEvent.mouse with
          x := slider.base.x.toInt + slider.base.width.toNat - 1, buttonChanged := mouseButtonLeft } } := by
      refine ⟨rfl, rfl, (spans_iff edge).mpr ?_⟩
      rw [mouseX, place]
      omega
    have whole := maps.rightmost _ press (by rw [position, mouseX, place]; omega)
    have fits := maps.unwrapped _ press
    rw [valueAfter_press enabled visible press] at whole
    exact valueAt_last ordered columns different (by rw [mouseX, place]) fits whole
  · rintro (same | wraps)
    · have value {event : InputEvent} (press : SliderPress slider event) :
          valueAfter slider event = slider.minValue := by
        rw [valueAfter_press enabled visible press, valueAt_constant same]
      constructor
      · intro event press
        rw [value press]
        exact ⟨Int32.le_refl _, ordered⟩
      · intro first second press press' less
        rw [value press, value press']
        exact Int32.le_refl _
      · intro event press first
        exact value press
      · intro event press last
        rw [value press, same]
      · intro event press
        rw [range, same, Int.sub_self, Int.mul_zero]
        decide
    · have none {event : InputEvent} : ¬ SliderPress slider event := fun press =>
        Bool.false_ne_true ((spans_wrapped wraps).symm.trans press.inside)
      constructor
      · intro event press
        exact absurd press none
      · intro first second press
        exact absurd press none
      · intro event press
        exact absurd press none
      · intro event press
        exact absurd press none
      · intro event press
        exact absurd press none

/-- A slider with one value. -/
theorem mapsPresses_single : MapsPresses (sliderInit 5 5) :=
  (mapsPresses_iff rfl rfl (by decide) (by decide)).mpr (Or.inl rfl)

def percentSlider : Slider := sliderInit 0 100

/-- At the rightmost of 100 pixels a slider up to 100 is set to 99. -/
theorem slider_misses_maximum :
    ¬ ∀ slider : Slider, slider.base.enabled = true → slider.base.visible = true → slider.minValue ≤ slider.maxValue →
      2 ≤ slider.base.width → MapsPresses slider := by
  intro maps
  have press : SliderPress percentSlider
      { zeroEvent with
        type := .mousePress, mouse := { zeroEvent.mouse with x := 99, buttonChanged := mouseButtonLeft } } :=
    ⟨rfl, rfl, by decide⟩
  have whole := (maps percentSlider rfl rfl (by decide) (by decide)).rightmost _ press (by decide)
  exact absurd whole (by decide)

end AutismOS.Widgets
