import Mathlib.Tactic.Linarith

namespace AutismOS.Library

/-! Lines through points with integer coordinates.

A line goes `major` steps along one axis and `minor` steps across it.  A point on the way is given by
how many steps of each kind lead to it, and an error term says whether the next step goes across.
-/

namespace Raster

variable {major minor along across : Int}

/-- The point is within half a step of the line, measured across. -/
def Near (major minor along across : Int) : Prop :=
  -major ≤ 2 * (across * major - along * minor) ∧ 2 * (across * major - along * minor) ≤ major

/-- The error term of a point. -/
def error (major minor along across : Int) : Int := major * (1 + across) - minor * (1 + along)

theorem near_start (forward : 0 ≤ major) : Near major minor 0 0 := by
  constructor <;> linarith

/-- Seen from the other axis, the error term is the opposite one. -/
theorem error_swap : error minor major across along = -error major minor along across := by
  rw [error, error, Int.neg_sub]

theorem error_along : error major minor (along + 1) across = error major minor along across + -minor := by
  rw [error, error, ← Int.add_assoc 1 along, Int.mul_add minor, Int.mul_one]
  omega

theorem error_across : error major minor along (across + 1) = error major minor along across + major := by
  rw [error, error, ← Int.add_assoc 1 across, Int.mul_add major, Int.mul_one]
  omega

/-- From a point that is near there is always a step along. -/
theorem Near.advances (near : Near major minor along across) (flat : minor ≤ major) :
    -minor ≤ 2 * error major minor along across := by
  rw [error]
  linarith [near.1]

/-- With a step across as well, when the error term is small, the next point is near. -/
theorem Near.turn (near : Near major minor along across) (flat : minor ≤ major)
    (soon : 2 * error major minor along across ≤ major) : Near major minor (along + 1) (across + 1) := by
  rw [error] at soon
  constructor
  · linarith [near.1]
  · linarith

/-- Without a step across, when the error term is large, the next point is near. -/
theorem Near.straight (near : Near major minor along across) (upward : 0 ≤ minor)
    (late : major < 2 * error major minor along across) : Near major minor (along + 1) across := by
  rw [error] at late
  constructor
  · linarith
  · linarith [near.2]

theorem Near.error_bounds (near : Near major minor along across) (flat : minor ≤ major) (upward : 0 ≤ minor) :
    -major ≤ 2 * error major minor along across ∧ 2 * error major minor along across ≤ 3 * major := by
  rw [error]
  constructor
  · linarith [near.1]
  · linarith [near.2]

/-- On the way, the steps across do not go too far. -/
theorem Near.between (near : Near major minor along across) (forward : 0 < major) (upward : 0 ≤ minor)
    (started : 0 ≤ along) (unfinished : along ≤ major) : 0 ≤ across ∧ across ≤ minor := by
  have lower : 0 ≤ along * minor := Int.mul_nonneg started upward
  have upper : along * minor ≤ major * minor := Int.mul_le_mul_of_nonneg_right unfinished upward
  constructor
  · by_contra negative
    have below : across * major ≤ -1 * major := Int.mul_le_mul_of_nonneg_right (by omega) (Int.le_of_lt forward)
    linarith [near.1]
  · by_contra beyond
    have above : (minor + 1) * major ≤ across * major :=
      Int.mul_le_mul_of_nonneg_right (by omega) (Int.le_of_lt forward)
    linarith [near.2]

/-- At the end of the line, a point that is near is the end. -/
theorem Near.finishes (near : Near major minor major across) (forward : 0 < major) (upward : 0 ≤ minor) :
    across = minor := by
  obtain ⟨_, most⟩ := near.between forward upward (Int.le_of_lt forward) (Int.le_refl _)
  refine Int.le_antisymm most ?_
  by_contra less
  have below : across * major ≤ (minor - 1) * major :=
    Int.mul_le_mul_of_nonneg_right (by omega) (Int.le_of_lt forward)
  linarith [near.1]

-- Both axes are treated alike: each has its own test of the error term.

/-- The next point. -/
def advance (width height : Int) (point : Int × Int) : Int × Int :=
  (if -height ≤ 2 * error width height point.1 point.2 then point.1 + 1 else point.1,
    if 2 * error width height point.1 point.2 ≤ width then point.2 + 1 else point.2)

/-- The points one after another. -/
def progress (width height : Int) : Nat → Int × Int
  | 0 => (0, 0)
  | count + 1 => advance width height (progress width height count)

variable {width height : Int} {point : Int × Int} {count : Nat}

/-- On each axis, a step is taken or not. -/
theorem progress_next (width height : Int) (count : Nat) :
    ((progress width height (count + 1)).1 = (progress width height count).1 ∨
        (progress width height (count + 1)).1 = (progress width height count).1 + 1) ∧
      ((progress width height (count + 1)).2 = (progress width height count).2 ∨
        (progress width height (count + 1)).2 = (progress width height count).2 + 1) := by
  rw [progress, advance]
  constructor
  · dsimp only
    split
    · exact .inr rfl
    · exact .inl rfl
  · dsimp only
    split
    · exact .inr rfl
    · exact .inl rfl

theorem advance_swap : (advance width height point).swap = advance height width point.swap := by
  rw [advance, advance]
  refine Prod.ext ?_ ?_
  · refine if_congr ?_ rfl rfl
    rw [@error_swap width height]
    dsimp only [Prod.swap]
    omega
  · refine if_congr ?_ rfl rfl
    rw [@error_swap width height]
    dsimp only [Prod.swap]
    omega

theorem progress_swap : (progress width height count).swap = progress height width count := by
  induction count with
  | zero => rfl
  | succ count ih => rw [progress, progress, advance_swap, ih]

/-- Along a flat line every step goes along, and stays near. -/
theorem progress_flat (upward : 0 ≤ height) (flat : height ≤ width) (unfinished : (count : Int) ≤ width) :
    (progress width height count).1 = count ∧ Near width height count (progress width height count).2 := by
  induction count with
  | zero => exact ⟨rfl, near_start (Int.le_trans upward flat)⟩
  | succ count ih =>
      obtain ⟨isCount, near⟩ := ih (by omega)
      rw [progress, advance, isCount]
      refine ⟨if_pos (near.advances flat), ?_⟩
      dsimp only
      split
      · next soon => exact near.turn flat soon
      · next late => exact near.straight upward (Int.not_le.mp late)

theorem progress_steep (forward : 0 ≤ width) (steep : width ≤ height) (unfinished : (count : Int) ≤ height) :
    (progress width height count).2 = count ∧ Near height width count (progress width height count).1 := by
  rw [← @progress_swap height width count]
  exact progress_flat forward steep unfinished

/-- At a point on the way no step goes too far, and the error term is not large. -/
structure Underway (width height : Int) (point : Int × Int) : Prop where
  started : 0 ≤ point.1 ∧ 0 ≤ point.2
  goesAlong : -height ≤ 2 * error width height point.1 point.2 → point.1 < width
  goesAcross : 2 * error width height point.1 point.2 ≤ width → point.2 < height
  lower : -(3 * max width height) ≤ 2 * error width height point.1 point.2
  upper : 2 * error width height point.1 point.2 ≤ 3 * max width height

theorem Underway.swap (underway : Underway width height point) : Underway height width point.swap := by
  have opposite : error height width point.2 point.1 = -error width height point.1 point.2 := error_swap
  obtain ⟨started, goesAlong, goesAcross, lower, upper⟩ := underway
  refine ⟨started.symm, fun goes => goesAcross ?_, fun goes => goesAlong ?_, ?_, ?_⟩
  · dsimp only [Prod.swap] at goes
    omega
  · dsimp only [Prod.swap] at goes
    omega
  · dsimp only [Prod.swap]
    omega
  · dsimp only [Prod.swap]
    omega

theorem underway_flat (upward : 0 ≤ height) (flat : height ≤ width) (unfinished : (count : Int) < width) :
    Underway width height (progress width height count) := by
  obtain ⟨isCount, near⟩ := progress_flat upward flat (Int.le_of_lt unfinished)
  have forward : 0 < width := by omega
  obtain ⟨least, most⟩ := near.between forward upward (Int.natCast_nonneg _) (Int.le_of_lt unfinished)
  obtain ⟨lower, upper⟩ := near.error_bounds flat upward
  constructor
  · rw [isCount]
    exact ⟨Int.natCast_nonneg _, least⟩
  · intro _
    rwa [isCount]
  · rw [isCount]
    intro soon
    have next := (near.turn flat soon).between forward upward (by omega) (by omega)
    omega
  · rw [isCount]
    omega
  · rw [isCount]
    omega

theorem underway (forward : 0 ≤ width) (upward : 0 ≤ height) (unfinished : (count : Int) < max width height) :
    Underway width height (progress width height count) := by
  rcases Int.le_total height width with flat | steep
  · exact underway_flat upward flat (by omega)
  · have swapped : Underway height width (progress height width count) := underway_flat forward steep (by omega)
    rw [← @progress_swap height width count]
    exact swapped.swap

/-- The walk ends at the end of the line. -/
theorem progress_ends (forward : 0 ≤ width) (upward : 0 ≤ height) (ends : (count : Int) = max width height) :
    progress width height count = (width, height) := by
  rcases Int.le_total height width with flat | steep
  · have isWidth : (count : Int) = width := by omega
    obtain ⟨isCount, near⟩ := progress_flat upward flat (Int.le_of_eq isWidth)
    rw [isWidth] at isCount near
    refine Prod.ext isCount ?_
    rcases Int.lt_or_eq_of_le forward with positive | zero
    · exact near.finishes positive upward
    · have none : count = 0 := by omega
      rw [none]
      change 0 = height
      omega
  · have isHeight : (count : Int) = height := by omega
    obtain ⟨isCount, near⟩ := progress_steep forward steep (Int.le_of_eq isHeight)
    rw [isHeight] at isCount near
    refine Prod.ext ?_ isCount
    rcases Int.lt_or_eq_of_le upward with positive | zero
    · exact near.finishes positive forward
    · have none : count = 0 := by omega
      rw [none]
      change 0 = width
      omega

end Raster

end AutismOS.Library
