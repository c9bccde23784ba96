import Mathlib.Tactic.Ring
import AutismOS.Library.Raster
import AutismOS.Library.Word
import AutismOS.Drawing.Rectangles

namespace AutismOS.Drawing

open AutismOS.Library

variable {x0 y0 x1 y1 : Int32} {pen : Pen} {across down : Int} {count index fuel : Nat} {line : Line}

-- The pen is known by how many steps to the right or left, and how many up or down, have led to it.

/-- How far it is from one coordinate to another, and in which direction. -/
def distance (source target : Int32) : Int := (target.toInt - source.toInt).natAbs

def direction (source target : Int32) : Int := if source < target then 1 else -1

theorem distance_nonneg : 0 ≤ distance x0 x1 := Int.natCast_nonneg _

theorem direction_cases : direction x0 x1 = 1 ∨ direction x0 x1 = -1 := by
  rw [direction]
  split
  · exact .inl rfl
  · exact .inr rfl

theorem toInt_reached : x0.toInt + direction x0 x1 * distance x0 x1 = x1.toInt := by
  rw [direction, distance]
  split
  · next forward =>
      have less : x0.toInt < x1.toInt := Int32.lt_iff_toInt_lt.mp forward
      omega
  · next backward =>
      have least : ¬ x0.toInt < x1.toInt := fun less => backward (Int32.lt_iff_toInt_lt.mpr less)
      omega

/-- The differences of the coordinates are small enough for the error term. -/
structure Short (x0 y0 x1 y1 : Int32) : Prop where
  x : (x1.toInt - x0.toInt).natAbs < 2 ^ 29
  y : (y1.toInt - y0.toInt).natAbs < 2 ^ 29

/-- The pen after some steps. -/
structure Reached (x0 y0 x1 y1 : Int32) (across down : Int) (pen : Pen) : Prop where
  x : pen.x.toInt = x0.toInt + direction x0 x1 * across
  y : pen.y.toInt = y0.toInt + direction y0 y1 * down
  err : pen.err.toInt = Raster.error (distance x0 x1) (distance y0 y1) across down

theorem toInt_extent (short : (x1.toInt - x0.toInt).natAbs < 2 ^ 29) :
    (if x0 < x1 then x1 - x0 else x0 - x1).toInt = distance x0 x1 := by
  rw [distance]
  split
  · next forward =>
      have less : x0.toInt < x1.toInt := Int32.lt_iff_toInt_lt.mp forward
      rw [Signed.toInt_sub ⟨by omega, by omega⟩]
      omega
  · next backward =>
      have least : ¬ x0.toInt < x1.toInt := fun less => backward (Int32.lt_iff_toInt_lt.mpr less)
      rw [Signed.toInt_sub ⟨by omega, by omega⟩]
      omega

theorem toInt_negExtent (short : (y1.toInt - y0.toInt).natAbs < 2 ^ 29) :
    (if y0 < y1 then -(y1 - y0) else -(y0 - y1)).toInt = -distance y0 y1 := by
  have extent := toInt_extent short
  have small : distance y0 y1 < 2 ^ 29 := by
    rw [distance]
    omega
  have positive : 0 ≤ distance y0 y1 := distance_nonneg
  split at extent
  · rw [if_pos (by assumption), Signed.toInt_neg ⟨by omega, by omega⟩, extent]
  · rw [if_neg (by assumption), Signed.toInt_neg ⟨by omega, by omega⟩, extent]

theorem toInt_direction : (if x0 < x1 then 1 else -1 : Int32).toInt = direction x0 x1 := by
  rw [direction]
  split
  · rfl
  · rfl

/-- A step on one axis does not leave the way to the end. -/
theorem toInt_move {place : Int32} {steps : Int} (here : place.toInt = x0.toInt + direction x0 x1 * steps)
    (started : 0 ≤ steps) (unfinished : steps < distance x0 x1) :
    (place + if x0 < x1 then 1 else -1 : Int32).toInt = x0.toInt + direction x0 x1 * (steps + 1) := by
  have reached := @toInt_reached x0 x1
  have least := x0.le_toInt
  have most := x0.toInt_lt
  have least' := x1.le_toInt
  have most' := x1.toInt_lt
  have moved : place.toInt + direction x0 x1 = x0.toInt + direction x0 x1 * (steps + 1) := by
    rw [here, Int.mul_add, Int.mul_one, Int.add_assoc]
  rw [Signed.toInt_add, toInt_direction, moved]
  rw [toInt_direction, moved]
  rcases @direction_cases x0 x1 with forward | backward
  · rw [forward] at reached ⊢
    exact ⟨by omega, by omega⟩
  · rw [backward] at reached ⊢
    exact ⟨by omega, by omega⟩

theorem reached_start (short : Short x0 y0 x1 y1) :
    Reached x0 y0 x1 y1 0 0 ((lineTo x0 y0 x1 y1).penAt x0 y0) := by
  have right := toInt_extent short.x
  have below := toInt_negExtent short.y
  have narrow := short.x
  have low := short.y
  refine ⟨?_, ?_, ?_⟩
  · rw [Int.mul_zero, Int.add_zero]
    rfl
  · rw [Int.mul_zero, Int.add_zero]
    rfl
  · change ((lineTo x0 y0 x1 y1).dx + (lineTo x0 y0 x1 y1).dy).toInt = _
    have sum : (lineTo x0 y0 x1 y1).dx.toInt + (lineTo x0 y0 x1 y1).dy.toInt = distance x0 x1 + -distance y0 y1 := by
      rw [← right, ← below]
      rfl
    rw [Signed.toInt_add, sum, Raster.error]
    · omega
    · rw [sum, distance, distance]
      exact ⟨by omega, by omega⟩

/-- Which steps are taken, the error term says. -/
theorem Reached.step (reached : Reached x0 y0 x1 y1 across down pen) (short : Short x0 y0 x1 y1)
    (small : -2 ^ 30 ≤ Raster.error (distance x0 x1) (distance y0 y1) across down ∧
      Raster.error (distance x0 x1) (distance y0 y1) across down < 2 ^ 30)
    (started : 0 ≤ across ∧ 0 ≤ down)
    (goesX : -distance y0 y1 ≤ 2 * Raster.error (distance x0 x1) (distance y0 y1) across down → across < distance x0 x1)
    (goesY : 2 * Raster.error (distance x0 x1) (distance y0 y1) across down ≤ distance x0 x1 → down < distance y0 y1) :
    Reached x0 y0 x1 y1
      (if -distance y0 y1 ≤ 2 * Raster.error (distance x0 x1) (distance y0 y1) across down then across + 1 else across)
      (if 2 * Raster.error (distance x0 x1) (distance y0 y1) across down ≤ distance x0 x1 then down + 1 else down)
      ((lineTo x0 y0 x1 y1).step pen) := by
  have isErr := reached.err
  generalize isError : Raster.error (distance x0 x1) (distance y0 y1) across down = err at *
  have right : (lineTo x0 y0 x1 y1).dx.toInt = distance x0 x1 := toInt_extent short.x
  have below : (lineTo x0 y0 x1 y1).dy.toInt = -distance y0 y1 := toInt_negExtent short.y
  have narrow : distance x0 x1 < 2 ^ 29 := Int.ofNat_lt.mpr short.x
  have low : distance y0 y1 < 2 ^ 29 := Int.ofNat_lt.mpr short.y
  have wide : 0 ≤ distance x0 x1 := distance_nonneg
  have high : 0 ≤ distance y0 y1 := distance_nonneg
  have doubled : (pen.err <<< 1).toInt = 2 * err := by
    rw [Signed.toInt_double, isErr]
    rw [isErr]
    exact ⟨by omega, by omega⟩
  have asksX : (lineTo x0 y0 x1 y1).dy ≤ pen.err <<< 1 ↔ -distance y0 y1 ≤ 2 * err := by
    rw [Int32.le_iff_toInt_le, doubled, below]
  have asksY : pen.err <<< 1 ≤ (lineTo x0 y0 x1 y1).dx ↔ 2 * err ≤ distance x0 x1 := by
    rw [Int32.le_iff_toInt_le, doubled, right]
  have afterX : (pen.err + (lineTo x0 y0 x1 y1).dy).toInt = err + -distance y0 y1 := by
    rw [Signed.toInt_add, isErr, below]
    rw [isErr, below]
    exact ⟨by omega, by omega⟩
  rw [Line.step]
  by_cases movesX : -distance y0 y1 ≤ 2 * err
  · rw [if_pos (asksX.mpr movesX), if_pos movesX]
    have nextX := toInt_move reached.x started.1 (goesX movesX)
    by_cases movesY : 2 * err ≤ distance x0 x1
    · rw [if_pos (asksY.mpr movesY), if_pos movesY]
      refine ⟨nextX, toInt_move reached.y started.2 (goesY movesY), ?_⟩
      rw [Raster.error_across, Raster.error_along, isError, Signed.toInt_add, afterX, right]
      rw [afterX, right]
      exact ⟨by omega, by omega⟩
    · rw [if_neg fun goes => movesY (asksY.mp goes), if_neg movesY]
      refine ⟨nextX, reached.y, ?_⟩
      rw [Raster.error_along, isError]
      exact afterX
  · rw [if_neg fun goes => movesX (asksX.mp goes), if_neg movesX]
    by_cases movesY : 2 * err ≤ distance x0 x1
    · rw [if_pos (asksY.mpr movesY), if_pos movesY]
      refine ⟨reached.x, toInt_move reached.y started.2 (goesY movesY), ?_⟩
      rw [Raster.error_across, isError, Signed.toInt_add, isErr, right]
      rw [isErr, right]
      exact ⟨by omega, by omega⟩
    · rw [if_neg fun goes => movesY (asksY.mp goes), if_neg movesY]
      exact ⟨reached.x, reached.y, by rw [isError]; exact isErr⟩

/-- The pen after a number of steps. -/
def penAfter (line : Line) (pen : Pen) : Nat → Pen
  | 0 => pen
  | count + 1 => penAfter line (line.step pen) count

theorem penAfter_succ : penAfter line pen (count + 1) = line.step (penAfter line pen count) := by
  induction count generalizing pen with
  | zero => rfl
  | succ count ih => rw [penAfter, ih, ← penAfter]

/-- The number of steps from one end to the other. -/
def extent (x0 y0 x1 y1 : Int32) : Nat := max (x1.toInt - x0.toInt).natAbs (y1.toInt - y0.toInt).natAbs

theorem extent_eq (x0 y0 x1 y1 : Int32) : (extent x0 y0 x1 y1 : Int) = max (distance x0 x1) (distance y0 y1) := by
  rw [extent, distance, distance]
  omega

/-- The points at which the pen is. -/
def visited (x0 y0 x1 y1 : Int32) (count : Nat) : Int32 × Int32 :=
  let pen := penAfter (lineTo x0 y0 x1 y1) ((lineTo x0 y0 x1 y1).penAt x0 y0) count
  (pen.x, pen.y)

/-- The pen walks as numbers do that do not wrap around. -/
theorem reached_progress (short : Short x0 y0 x1 y1) (unfinished : count ≤ extent x0 y0 x1 y1) :
    Reached x0 y0 x1 y1 (Raster.progress (distance x0 x1) (distance y0 y1) count).1
      (Raster.progress (distance x0 x1) (distance y0 y1) count).2
      (penAfter (lineTo x0 y0 x1 y1) ((lineTo x0 y0 x1 y1).penAt x0 y0) count) := by
  induction count with
  | zero => exact reached_start short
  | succ count ih =>
      have narrow : distance x0 x1 < 2 ^ 29 := Int.ofNat_lt.mpr short.x
      have low : distance y0 y1 < 2 ^ 29 := Int.ofNat_lt.mpr short.y
      have way : Raster.Underway (distance x0 x1) (distance y0 y1)
          (Raster.progress (distance x0 x1) (distance y0 y1) count) := by
        refine Raster.underway distance_nonneg distance_nonneg ?_
        rw [← extent_eq]
        exact Int.ofNat_lt.mpr unfinished
      have lower := way.lower
      have upper := way.upper
      rw [penAfter_succ]
      exact (ih (Nat.le_of_succ_le unfinished)).step short ⟨by omega, by omega⟩ way.started way.goesAlong way.goesAcross

theorem visited_x (short : Short x0 y0 x1 y1) (unfinished : count ≤ extent x0 y0 x1 y1) :
    (visited x0 y0 x1 y1 count).1.toInt =
      x0.toInt + direction x0 x1 * (Raster.progress (distance x0 x1) (distance y0 y1) count).1 :=
  (reached_progress short unfinished).x

theorem visited_y (short : Short x0 y0 x1 y1) (unfinished : count ≤ extent x0 y0 x1 y1) :
    (visited x0 y0 x1 y1 count).2.toInt =
      y0.toInt + direction y0 y1 * (Raster.progress (distance x0 x1) (distance y0 y1) count).2 :=
  (reached_progress short unfinished).y

/-- What is known of the points of a line. -/
structure Traces (x0 y0 x1 y1 : Int32) (steps : Nat) (points : Nat → Int32 × Int32) : Prop where
  first : points 0 = (x0, y0)
  last : points steps = (x1, y1)
  adjacent : ∀ index < steps, distance (points index).1 (points (index + 1)).1 ≤ 1 ∧
    distance (points index).2 (points (index + 1)).2 ≤ 1
  towardsX : distance y0 y1 ≤ distance x0 x1 → ∀ index < steps,
    distance (points (index + 1)).1 x1 + 1 = distance (points index).1 x1
  towardsY : distance x0 x1 ≤ distance y0 y1 → ∀ index < steps,
    distance (points (index + 1)).2 y1 + 1 = distance (points index).2 y1
  near : ∀ index ≤ steps, 2 * (((points index).2.toInt - y0.toInt) * (x1.toInt - x0.toInt) -
    ((points index).1.toInt - x0.toInt) * (y1.toInt - y0.toInt)).natAbs ≤ steps

theorem distance_move {source target : Int32} {steps more : Int} (start : source.toInt = x0.toInt + direction x0 x1 * steps)
    (stop : target.toInt = x0.toInt + direction x0 x1 * more) : distance source target = (more - steps).natAbs := by
  rw [distance, start, stop]
  rcases @direction_cases x0 x1 with forward | backward
  · rw [forward]
    omega
  · rw [backward]
    omega

theorem distance_end {place : Int32} {steps : Int} (here : place.toInt = x0.toInt + direction x0 x1 * steps)
    (least : steps ≤ distance x0 x1) : distance place x1 = distance x0 x1 - steps := by
  rw [distance_move here toInt_reached.symm]
  omega

/-- How far a point is from the line, up to the sign. -/
theorem natAbs_deviation {x y : Int32} (isX : x.toInt = x0.toInt + direction x0 x1 * across)
    (isY : y.toInt = y0.toInt + direction y0 y1 * down) :
    ((y.toInt - y0.toInt) * (x1.toInt - x0.toInt) - (x.toInt - x0.toInt) * (y1.toInt - y0.toInt)).natAbs =
      (down * distance x0 x1 - across * distance y0 y1).natAbs := by
  have right : x1.toInt = x0.toInt + direction x0 x1 * distance x0 x1 := toInt_reached.symm
  have below : y1.toInt = y0.toInt + direction y0 y1 * distance y0 y1 := toInt_reached.symm
  rw [isX, isY, right, below]
  simp only [add_sub_cancel_left]
  have factored : direction y0 y1 * down * (direction x0 x1 * distance x0 x1) -
      direction x0 x1 * across * (direction y0 y1 * distance y0 y1) =
        direction x0 x1 * direction y0 y1 * (down * distance x0 x1 - across * distance y0 y1) := by
    ring
  rw [factored, Int.natAbs_mul, Int.natAbs_mul]
  have oneX : (direction x0 x1).natAbs = 1 := by
    rcases @direction_cases x0 x1 with same | same <;> rw [same] <;> rfl
  have oneY : (direction y0 y1).natAbs = 1 := by
    rcases @direction_cases y0 y1 with same | same <;> rw [same] <;> rfl
  rw [oneX, oneY, Nat.mul_one, Nat.one_mul]

theorem visited_traces (short : Short x0 y0 x1 y1) : Traces x0 y0 x1 y1 (extent x0 y0 x1 y1) (visited x0 y0 x1 y1) := by
  have wide : 0 ≤ distance x0 x1 := distance_nonneg
  have high : 0 ≤ distance y0 y1 := distance_nonneg
  have isExtent := extent_eq x0 y0 x1 y1
  constructor
  · rfl
  · have ends := Raster.progress_ends wide high isExtent
    have lastX := visited_x short (Nat.le_refl _)
    have lastY := visited_y short (Nat.le_refl _)
    rw [ends, toInt_reached] at lastX lastY
    exact Prod.ext (Int32.toInt_inj.mp lastX) (Int32.toInt_inj.mp lastY)
  · intro index inside
    have next : index + 1 ≤ extent x0 y0 x1 y1 := inside
    obtain ⟨along, below⟩ := Raster.progress_next (distance x0 x1) (distance y0 y1) index
    constructor
    · rw [distance_move (visited_x short (Nat.le_of_lt inside)) (visited_x short next)]
      omega
    · rw [distance_move (visited_y short (Nat.le_of_lt inside)) (visited_y short next)]
      omega
  · intro flat index inside
    have next : index + 1 ≤ extent x0 y0 x1 y1 := inside
    obtain ⟨isHere, _⟩ := Raster.progress_flat high flat (show (index : Int) ≤ _ by omega)
    obtain ⟨isNext, _⟩ := Raster.progress_flat high flat (show ((index + 1 : Nat) : Int) ≤ _ by omega)
    rw [distance_end (visited_x short next) (by omega), distance_end (visited_x short (Nat.le_of_lt inside)) (by omega)]
    omega
  · intro steep index inside
    have next : index + 1 ≤ extent x0 y0 x1 y1 := inside
    obtain ⟨isHere, _⟩ := Raster.progress_steep wide steep (show (index : Int) ≤ _ by omega)
    obtain ⟨isNext, _⟩ := Raster.progress_steep wide steep (show ((index + 1 : Nat) : Int) ≤ _ by omega)
    rw [distance_end (visited_y short next) (by omega), distance_end (visited_y short (Nat.le_of_lt inside)) (by omega)]
    omega
  · intro index inside
    rw [natAbs_deviation (visited_x short inside) (visited_y short inside)]
    rcases Int.le_total (distance y0 y1) (distance x0 x1) with flat | steep
    · obtain ⟨isIndex, lower, upper⟩ := Raster.progress_flat high flat (show (index : Int) ≤ _ by omega)
      rw [isIndex]
      omega
    · obtain ⟨isIndex, lower, upper⟩ := Raster.progress_steep wide steep (show (index : Int) ≤ _ by omega)
      rw [isIndex]
      omega

namespace Backbuffer

variable {buffer : Backbuffer} {x y : Int32} {color : UInt8} {memory : TracedMemory} {points : List (Int32 × Int32)}

/-- A pixel is drawn at each of some points. -/
def drawPoints (buffer : Backbuffer) (color : UInt8) (points : List (Int32 × Int32)) (memory : TracedMemory) :
    TracedMemory :=
  points.foldl (fun memory point => buffer.drawPixel point.1 point.2 color memory) memory

/-- One pixel is colored, or none where the point is not on the screen. -/
theorem drawPixel_colors : buffer.Colors (fun px py => x.toInt = px ∧ y.toInt = py) color memory
    (buffer.drawPixel x y color memory) := by
  have asInts : x < 0 ∨ y < 0 ∨ 320 ≤ x ∨ 200 ≤ y ↔
      x.toInt < 0 ∨ y.toInt < 0 ∨ 320 ≤ x.toInt ∨ 200 ≤ y.toInt := by
    rw [Int32.lt_iff_toInt_lt, Int32.lt_iff_toInt_lt, Int32.le_iff_toInt_le, Int32.le_iff_toInt_le]
    rfl
  rw [drawPixel]
  by_cases outside : x < 0 ∨ y < 0 ∨ 320 ≤ x ∨ 200 ≤ y
  · rw [if_pos outside]
    refine ⟨.refl, fun px py inX inY => ?_⟩
    have outside := asInts.mp outside
    have inX : px < 320 := inX
    have inY : py < 200 := inY
    rw [if_neg]
    omega
  · rw [if_neg outside]
    have inside : ¬ (x.toInt < 0 ∨ y.toInt < 0 ∨ 320 ≤ x.toInt ∨ 200 ≤ y.toInt) :=
      fun out => outside (asInts.mpr out)
    have onX : x.toInt.toNat < screenWidth := show x.toInt.toNat < 320 by omega
    have onY : y.toInt.toNat < screenHeight := show y.toInt.toNat < 200 by omega
    constructor
    · refine TracedMemory.storeByte_within ?_
      rw [pixel_mod onX onY]
      exact pixel_contained onX onY
    · intro px py inX inY
      change Function.update memory.bytes (buffer.pixel x.toInt.toNat y.toInt.toNat % 2 ^ 32) color
        (buffer.pixel px py) = _
      rw [pixel_mod onX onY, Function.update_apply]
      refine if_congr ((pixel_inj inX onX).trans ?_) rfl rfl
      omega

theorem drawPoints_colors : buffer.Colors (fun px py => ∃ point ∈ points, point.1.toInt = px ∧ point.2.toInt = py)
    color memory (buffer.drawPoints color points memory) := by
  induction points generalizing memory with
  | nil =>
      refine ⟨.refl, fun px py _ _ => ?_⟩
      rw [if_neg]
      · rfl
      · rintro ⟨_, member, _⟩
        cases member
  | cons point rest ih =>
      have first : buffer.Colors _ color memory (buffer.drawPixel point.1 point.2 color memory) := drawPixel_colors
      have others :
          buffer.Colors _ color _ (buffer.drawPoints color rest (buffer.drawPixel point.1 point.2 color memory)) := ih
      refine ⟨first.within.trans others.within, fun px py inX inY => ?_⟩
      change (buffer.drawPoints color rest (buffer.drawPixel point.1 point.2 color memory)).bytes _ = _
      rw [others.pixels px py inX inY, first.pixels px py inX inY]
      by_cases later : ∃ other ∈ rest, other.1.toInt = px ∧ other.2.toInt = py
      · obtain ⟨other, member, same⟩ := later
        rw [if_pos ⟨other, member, same⟩, if_pos ⟨other, List.mem_cons_of_mem _ member, same⟩]
      · rw [if_neg later]
        refine if_congr ?_ rfl rfl
        constructor
        · intro same
          exact ⟨point, List.mem_cons_self, same⟩
        · rintro ⟨other, member, same⟩
          rcases List.mem_cons.mp member with rfl | inRest
          · exact same
          · exact absurd ⟨other, inRest, same⟩ later

/-- The loop ends behind the first pen that is at the end of the line. -/
theorem drawLineFrom_eq (before : ∀ index < count, line.ends (penAfter line pen index) = false)
    (ends : line.ends (penAfter line pen count) = true) :
    buffer.drawLineFrom line color pen memory fuel = if count < fuel then
      some (buffer.drawPoints color ((List.range (count + 1)).map fun index =>
        ((penAfter line pen index).x, (penAfter line pen index).y)) memory) else none := by
  induction count generalizing pen memory fuel with
  | zero =>
      cases fuel with
      | zero => rfl
      | succ fuel =>
          rw [if_pos (Nat.succ_pos fuel), drawLineFrom]
          exact if_pos ends
  | succ count ih =>
      cases fuel with
      | zero => rfl
      | succ fuel =>
          have more : line.ends pen = false := before 0 (Nat.succ_pos count)
          have rest := @ih (line.step pen) fuel (buffer.drawPixel pen.x pen.y color memory)
            (fun index inside => before (index + 1) (Nat.succ_lt_succ inside)) ends
          rw [drawLineFrom, more, if_neg Bool.false_ne_true, rest]
          refine if_congr Nat.succ_lt_succ_iff.symm ?_ rfl
          have later : List.range (count + 1 + 1) = 0 :: (List.range (count + 1)).map Nat.succ := List.range_succ_eq_map
          rw [later, List.map_cons, List.map_map]
          rfl

/-- The pen is at the end of the line only behind the last step. -/
theorem visited_ends (short : Short x0 y0 x1 y1) (unfinished : index ≤ extent x0 y0 x1 y1) :
    visited x0 y0 x1 y1 index = (x1, y1) ↔ index = extent x0 y0 x1 y1 := by
  have wide : 0 ≤ distance x0 x1 := distance_nonneg
  have high : 0 ≤ distance y0 y1 := distance_nonneg
  have isExtent := extent_eq x0 y0 x1 y1
  constructor
  · intro atEnd
    rcases Int.le_total (distance y0 y1) (distance x0 x1) with flat | steep
    · obtain ⟨isIndex, _⟩ := Raster.progress_flat high flat (show (index : Int) ≤ _ by omega)
      have left := distance_end (visited_x short unfinished) (by omega)
      rw [atEnd, distance, Int.sub_self] at left
      omega
    · obtain ⟨isIndex, _⟩ := Raster.progress_steep wide steep (show (index : Int) ≤ _ by omega)
      have left := distance_end (visited_y short unfinished) (by omega)
      rw [atEnd, distance, Int.sub_self] at left
      omega
  · rintro rfl
    exact (visited_traces short).last

/-- A line is drawn pixel by pixel from one end to the other, in as many steps as the longer of its
two extents has, and never strays from the straight line by more than half a pixel. -/
theorem drawLine_traces (short : Short x0 y0 x1 y1) : ∃ points, Traces x0 y0 x1 y1 (extent x0 y0 x1 y1) points ∧
    ∀ (buffer : Backbuffer) color memory fuel,
      buffer.drawLine x0 y0 x1 y1 color memory fuel = (if extent x0 y0 x1 y1 < fuel then
        some (buffer.drawPoints color ((List.range (extent x0 y0 x1 y1 + 1)).map points) memory) else none) ∧
      buffer.Colors (fun px py => ∃ point ∈ (List.range (extent x0 y0 x1 y1 + 1)).map points,
          point.1.toInt = px ∧ point.2.toInt = py) color memory
        (buffer.drawPoints color ((List.range (extent x0 y0 x1 y1 + 1)).map points) memory) := by
  refine ⟨visited x0 y0 x1 y1, visited_traces short, fun buffer color memory fuel => ⟨?_, drawPoints_colors⟩⟩
  have ends (index : Nat) (inside : index ≤ extent x0 y0 x1 y1) :
      (lineTo x0 y0 x1 y1).ends (penAfter (lineTo x0 y0 x1 y1) ((lineTo x0 y0 x1 y1).penAt x0 y0) index) = true ↔
        index = extent x0 y0 x1 y1 := by
    rw [Line.ends, Bool.and_eq_true, decide_eq_true_eq, decide_eq_true_eq, ← visited_ends short inside]
    exact (@Prod.ext_iff _ _ (visited x0 y0 x1 y1 index) (x1, y1)).symm
  rw [drawLine]
  refine drawLineFrom_eq (fun index inside => ?_) ?_
  · refine Bool.eq_false_iff.mpr fun early => ?_
    exact absurd ((ends index (Nat.le_of_lt inside)).mp early) (Nat.ne_of_lt inside)
  · exact (ends _ (Nat.le_refl _)).mpr rfl

/-- A line that falls by one pixel on three. -/
theorem drawLine_traces_falling : Short 5 5 8 6 ∧ ∃ points, Traces 5 5 8 6 3 points :=
  ⟨⟨by decide, by decide⟩, (drawLine_traces ⟨by decide, by decide⟩).imp fun _ traced => traced.1⟩

theorem drawPoints_append {more : List (Int32 × Int32)} :
    buffer.drawPoints color (points ++ more) memory =
      buffer.drawPoints color more (buffer.drawPoints color points memory) :=
  List.foldl_append

/-- A loop that draws points in each of its steps draws all of them. -/
theorem loop_points {count : Nat} (body : UInt32 → TracedMemory → TracedMemory) (points : UInt32 → List (Int32 × Int32))
    (each : ∀ index memory, body index memory = buffer.drawPoints color (points index) memory) :
    loop count body memory =
      buffer.drawPoints color ((List.range count).flatMap fun index => points (UInt32.ofNat index)) memory := by
  rw [loop, drawPoints, List.foldl_flatMap]
  congr 1
  funext memory index
  exact each (UInt32.ofNat index) memory

/-- The same pixels are colored, if the regions are the same on the screen. -/
theorem Colors.congr {region other : Nat → Nat → Prop} [∀ px py, Decidable (region px py)]
    [∀ px py, Decidable (other px py)] {after : TracedMemory} (colored : buffer.Colors region color memory after)
    (same : ∀ px py, px < screenWidth → py < screenHeight → (region px py ↔ other px py)) :
    buffer.Colors other color memory after := by
  refine ⟨colored.within, fun px py inX inY => ?_⟩
  rw [colored.pixels px py inX inY]
  exact if_congr (same px py inX inY) rfl rfl

theorem toInt_toInt32 {number : UInt32} (small : number.toNat < 2 ^ 31) : number.toInt32.toInt = number.toNat := by
  have signed : number.toInt32.toInt = (number.toNat : Int).bmod (2 ^ 32) := BitVec.toInt_eq_toNat_bmod number.toBitVec
  rw [signed, Signed.bmod_of_fits]
  constructor <;> omega

theorem toInt_offset {origin : UInt32} {index : Nat} (small : origin.toNat + index < 2 ^ 31) :
    (origin + UInt32.ofNat index).toInt32.toInt = origin.toNat + index := by
  have place : (origin + UInt32.ofNat index).toNat = origin.toNat + index := by
    rw [UInt32.toNat_add, UInt32.toNat_ofNat']
    omega
  rw [toInt_toInt32 (by omega), place]
  rfl

/-- The last place of a side -/
theorem toInt_last {origin side : UInt32} (positive : 0 < side.toNat) (room : origin.toNat + side.toNat < 2 ^ 31) :
    (origin + side - 1).toInt32.toInt = origin.toNat + side.toNat - 1 := by
  have behind : (origin + side).toNat = origin.toNat + side.toNat := by
    rw [UInt32.toNat_add]
    omega
  have place : (origin + side - 1).toNat = origin.toNat + side.toNat - 1 := by
    rw [UInt32.toNat_sub_of_le, behind]
    · rfl
    · rw [UInt32.le_iff_toNat_le, behind]
      change 1 ≤ _
      omega
  rw [toInt_toInt32 (by omega), place]
  omega

/-- The pixel is on a side of the rectangle. -/
def OnBorder (x y w h : UInt32) (px py : Nat) : Prop :=
  InRectangle x y w h px py ∧
    (px = x.toNat ∨ px + 1 = x.toNat + w.toNat ∨ py = y.toNat ∨ py + 1 = y.toNat + h.toNat)

section Borders

variable {x y w h : UInt32} {px py : Nat}

instance : Decidable (OnBorder x y w h px py) := inferInstanceAs (Decidable (_ ∧ _))

theorem drawRect_colors (wide : 2 ≤ w.toNat) (high : 2 ≤ h.toNat) (narrow : x.toNat + w.toNat < 2 ^ 31)
    (low : y.toNat + h.toNat < 2 ^ 31) :
    buffer.Colors (OnBorder x y w h) color memory (buffer.drawRect x y w h color memory) := by
  have right : (x + w).toNat = x.toNat + w.toNat := by
    rw [UInt32.toNat_add]
    omega
  have bottom : (y + h).toNat = y.toNat + h.toNat := by
    rw [UInt32.toNat_add]
    omega
  have lastX := @toInt_last x w (by omega) narrow
  have lastY := @toInt_last y h (by omega) low
  have firstX := @toInt_toInt32 x (by omega)
  have firstY := @toInt_toInt32 y (by omega)
  have enough : ¬ (w < 2 ∨ h < 2) := by
    rw [UInt32.lt_iff_toNat_lt, UInt32.lt_iff_toNat_lt]
    change ¬ (w.toNat < 2 ∨ h.toNat < 2)
    omega
  rw [drawRect, if_neg enough, right, bottom, Nat.add_sub_cancel_left, Nat.add_sub_cancel_left]
  dsimp only
  rw [loop_points (fun px memory => buffer.drawPixel (x + px).toInt32 (y + h - 1).toInt32 color
        (buffer.drawPixel (x + px).toInt32 y.toInt32 color memory))
      (fun px => [((x + px).toInt32, y.toInt32), ((x + px).toInt32, (y + h - 1).toInt32)]) fun _ _ => rfl,
    loop_points (fun py memory => buffer.drawPixel (x + w - 1).toInt32 (y + py).toInt32 color
        (buffer.drawPixel x.toInt32 (y + py).toInt32 color memory))
      (fun py => [(x.toInt32, (y + py).toInt32), ((x + w - 1).toInt32, (y + py).toInt32)]) fun _ _ => rfl,
    ← drawPoints_append]
  refine drawPoints_colors.congr fun px py inX inY => ?_
  simp only [List.mem_append, List.mem_flatMap, List.mem_range, List.mem_cons, List.not_mem_nil, or_false]
  rw [OnBorder, InRectangle]
  constructor
  · rintro ⟨point, (⟨index, less, rfl | rfl⟩ | ⟨index, less, rfl | rfl⟩), atX, atY⟩
    · rw [toInt_offset (by omega)] at atX
      rw [firstY] at atY
      omega
    · rw [toInt_offset (by omega)] at atX
      rw [lastY] at atY
      omega
    · rw [firstX] at atX
      rw [toInt_offset (by omega)] at atY
      omega
    · rw [lastX] at atX
      rw [toInt_offset (by omega)] at atY
      omega
  · rintro ⟨⟨⟨fromX, toX⟩, fromY, toY⟩, onLeft | onRight | onTop | onBottom⟩
    · refine ⟨_, .inr ⟨py - y.toNat, by omega, .inl rfl⟩, ?_, ?_⟩
      · rw [firstX]
        omega
      · rw [toInt_offset (by omega)]
        omega
    · refine ⟨_, .inr ⟨py - y.toNat, by omega, .inr rfl⟩, ?_, ?_⟩
      · rw [lastX]
        omega
      · rw [toInt_offset (by omega)]
        omega
    · refine ⟨_, .inl ⟨px - x.toNat, by omega, .inl rfl⟩, ?_, ?_⟩
      · rw [toInt_offset (by omega)]
        omega
      · rw [firstY]
        omega
    · refine ⟨_, .inl ⟨px - x.toNat, by omega, .inr rfl⟩, ?_, ?_⟩
      · rw [toInt_offset (by omega)]
        omega
      · rw [lastY]
        omega

end Borders

/-- A dot of the glyph of a character -/
def Dot (char : UInt8) (col row : Nat) : Prop :=
  (col < fontWidth ∧ row < fontHeight) ∧
    ((glyphForChar char).getD col 0).toUInt32 &&& (1 <<< UInt32.ofNat row) ≠ 0

instance {char : UInt8} {col row : Nat} : Decidable (Dot char col row) := inferInstanceAs (Decidable (_ ∧ _))

/-- The pixel is a dot of a character that is drawn at a place. -/
def InGlyph (x y : UInt32) (char : UInt8) (px py : Nat) : Prop :=
  (x.toNat ≤ px ∧ y.toNat ≤ py) ∧ Dot char (px - x.toNat) (py - y.toNat)

section Glyphs

variable {x y : UInt32} {char : UInt8} {px py : Nat}

instance : Decidable (InGlyph x y char px py) := inferInstanceAs (Decidable (_ ∧ _))

theorem drawChar_colors (narrow : x.toNat + fontWidth < 2 ^ 31) (low : y.toNat + fontHeight < 2 ^ 31) :
    buffer.Colors (InGlyph x y char) color memory (buffer.drawChar x y char color memory) := by
  have wide : fontWidth = 5 := rfl
  have high : fontHeight = 7 := rfl
  rw [drawChar, loopGlyph, loop_points _ (fun col => (List.range fontHeight).flatMap fun row =>
    if ((glyphForChar char).getD col.toNat 0).toUInt32 &&& (1 <<< UInt32.ofNat row) ≠ 0 then
      [((x + col).toInt32, (y + UInt32.ofNat row).toInt32)]
    else [])]
  · refine drawPoints_colors.congr fun px py inX inY => ?_
    simp only [List.mem_flatMap, List.mem_range]
    rw [InGlyph, Dot]
    constructor
    · rintro ⟨point, ⟨col, inCol, row, inRow, member⟩, atX, atY⟩
      split at member
      · next isDot =>
        obtain rfl := List.mem_singleton.mp member
        rw [toInt_offset (by omega)] at atX atY
        rw [UInt32.toNat_ofNat_of_lt' (Nat.lt_trans inCol (by decide))] at isDot
        have isCol : px - x.toNat = col := by omega
        have isRow : py - y.toNat = row := by omega
        rw [isCol, isRow]
        exact ⟨by omega, ⟨inCol, inRow⟩, isDot⟩
      · cases member
    · rintro ⟨⟨fromX, fromY⟩, ⟨inCol, inRow⟩, isDot⟩
      refine ⟨((x + UInt32.ofNat (px - x.toNat)).toInt32, (y + UInt32.ofNat (py - y.toNat)).toInt32),
        ⟨px - x.toNat, inCol, py - y.toNat, inRow, ?_⟩, ?_, ?_⟩
      · rw [UInt32.toNat_ofNat_of_lt' (Nat.lt_trans inCol (by decide)), if_pos isDot]
        exact List.mem_singleton_self _
      · rw [toInt_offset (by omega)]
        omega
      · rw [toInt_offset (by omega)]
        omega
  · intro col memory
    refine loop_points _ (fun row =>
      if ((glyphForChar char).getD col.toNat 0).toUInt32 &&& (1 <<< row) ≠ 0 then
        [((x + col).toInt32, (y + row).toInt32)]
      else []) fun row memory => ?_
    split <;> rfl

end Glyphs

end Backbuffer

end AutismOS.Drawing
