import Mathlib.Algebra.Group.Int.Defs
import AutismOS.Input.Positions

namespace AutismOS.Input

open AutismOS.Library

/-! Where the pointer can be. -/

/-- The clamped coordinate is between 0 and `bound`. -/
def Lands (least greatest bound target : Int) : Prop :=
  0 ≤ greatest ∧ (0 ≤ least ∨ 0 ≤ target) ∧ (greatest ≤ bound ∨ target ≤ bound ∧ least ≤ bound)

theorem lands_iff {least greatest bound target : Int} :
    Lands least greatest bound target ↔ 0 ≤ clamped least greatest target ∧ clamped least greatest target ≤ bound := by
  unfold Lands clamped
  dsimp only
  split
  · split
    · omega
    · omega
  · split
    · omega
    · omega

/-- What is clamped is not above the upper border, and above the lower one if that is the lower one. -/
theorem clamped_bounds {least greatest target : Int} : clamped least greatest target ≤ greatest ∧
    (least ≤ clamped least greatest target ↔ least ≤ greatest) := by
  unfold clamped
  dsimp only
  split
  · split
    · omega
    · omega
  · split
    · omega
    · omega

def InRange (value : Int) : Prop := -2 ^ 31 ≤ value ∧ value < 2 ^ 31

theorem wrap_inRange {value : Int} : InRange (wrap value) := by
  have lower : -(((2 ^ 32 : Nat) : Int) / 2) ≤ wrap value := Int.le_bmod (by decide)
  have upper : wrap value < (((2 ^ 32 : Nat) : Int) + 1) / 2 := Int.bmod_lt (by decide)
  exact ⟨lower, upper⟩

theorem wrap_of_inRange {value : Int} (inRange : InRange value) : wrap value = value :=
  Int.bmod_eq_of_le inRange.1 inRange.2

/-- Below a border that a margin was taken off of. -/
theorem clamped_lt_border {start extent margin target : Int} (positive : 0 < start + extent)
    (marginPositive : 0 < margin) (marginSmall : margin < 2 ^ 31) :
    clamped start (wrap (wrap (start + extent) - margin)) target < start + extent := by
  have below : clamped start (wrap (wrap (start + extent) - margin)) target ≤ wrap (wrap (start + extent) - margin) :=
    clamped_bounds.1
  by_cases small : start + extent < 2 ^ 31
  · have border : wrap (start + extent) = start + extent := wrap_of_inRange ⟨by omega, small⟩
    have inside : wrap (start + extent - margin) = start + extent - margin := wrap_of_inRange ⟨by omega, by omega⟩
    rw [border, inside] at below ⊢
    omega
  · have upper : wrap (wrap (start + extent) - margin) < 2 ^ 31 := wrap_inRange.2
    omega

namespace MouseState

/-- The point is on the screen. -/
def Visible (x y : Int) : Prop := (0 ≤ x ∧ x < screenWidth) ∧ (0 ≤ y ∧ y < screenHeight)

instance (x y : Int) : Decidable (Visible x y) := inferInstanceAs (Decidable ((_ ∧ _) ∧ (_ ∧ _)))

variable (mouse : MouseState)

/-- The point is in the rectangle of the confinement. -/
def Contains (x y : Int) : Prop :=
  (mouse.confineX ≤ x ∧ x < mouse.confineX + mouse.confineW) ∧ (mouse.confineY ≤ y ∧ y < mouse.confineY + mouse.confineH)

instance (x y : Int) : Decidable (mouse.Contains x y) := inferInstanceAs (Decidable ((_ ∧ _) ∧ (_ ∧ _)))

/-- The rectangle meets the screen. -/
def Meets : Prop := ∃ x y, mouse.Contains x y ∧ Visible x y

/-- The pointer is where it can be drawn, and in the rectangle that it is confined to. -/
structure OnScreen : Prop where
  x : 0 ≤ mouse.x ∧ mouse.x ≤ screenWidth - 10
  y : 0 ≤ mouse.y ∧ mouse.y ≤ screenHeight - 16
  inside : mouse.confined = true → mouse.Meets → mouse.Contains mouse.x mouse.y

/-- A pointer on its way to the point ends where it can be drawn, and a rectangle that meets the screen is not too small. -/
structure Admits (targetX targetY : Int) : Prop where
  x : Lands mouse.minX mouse.maxX (screenWidth - 10) targetX
  y : Lands mouse.minY mouse.maxY (screenHeight - 16) targetY
  inside : mouse.confined = true → mouse.Meets → mouse.minX ≤ mouse.maxX ∧ mouse.minY ≤ mouse.maxY

/-- The pointer fits into the rectangle, which is on the screen. -/
def Fits (x y w h : Int) : Prop := (0 ≤ x ∧ 10 ≤ w ∧ x + w ≤ screenWidth) ∧ (0 ≤ y ∧ 16 ≤ h ∧ y + h ≤ screenHeight)

variable {mouse} {other : MouseState} {targetX targetY : Int}

theorem contains_iff (confined : mouse.confined = true) (meets : mouse.Meets) :
    mouse.Contains (clamped mouse.minX mouse.maxX targetX) (clamped mouse.minY mouse.maxY targetY) ↔
      mouse.minX ≤ mouse.maxX ∧ mouse.minY ≤ mouse.maxY := by
  obtain ⟨x, y, ⟨⟨_, right⟩, _, bottom⟩, ⟨left, _⟩, top, _⟩ := meets
  have minX : mouse.minX = mouse.confineX := if_pos confined
  have minY : mouse.minY = mouse.confineY := if_pos confined
  have maxX : mouse.maxX = wrap (wrap (mouse.confineX + mouse.confineW) - 10) := if_pos confined
  have maxY : mouse.maxY = wrap (wrap (mouse.confineY + mouse.confineH) - 16) := if_pos confined
  have belowX : clamped mouse.minX mouse.maxX targetX < mouse.confineX + mouse.confineW := by
    rw [minX, maxX]
    exact clamped_lt_border (Int.lt_of_le_of_lt left right) (by decide) (by decide)
  have belowY : clamped mouse.minY mouse.maxY targetY < mouse.confineY + mouse.confineH := by
    rw [minY, maxY]
    exact clamped_lt_border (Int.lt_of_le_of_lt top bottom) (by decide) (by decide)
  rw [Contains, and_iff_left belowX, and_iff_left belowY, ← minX, ← minY, clamped_bounds.2, clamped_bounds.2]

/-- A pointer that was clamped is on the screen exactly when the point that it was on its way to was admitted. -/
theorem onScreen_iff (x : other.x = clamped mouse.minX mouse.maxX targetX)
    (y : other.y = clamped mouse.minY mouse.maxY targetY) (confined : other.confined = mouse.confined)
    (rectangle : ∀ x y, other.Contains x y ↔ mouse.Contains x y) : other.OnScreen ↔ mouse.Admits targetX targetY := by
  have meets : other.Meets ↔ mouse.Meets := by
    simp only [Meets, rectangle]
  constructor
  · intro onScreen
    refine ⟨lands_iff.mpr ?_, lands_iff.mpr ?_, fun isConfined meet => ?_⟩
    · rw [← x]
      exact onScreen.x
    · rw [← y]
      exact onScreen.y
    · have inside := onScreen.inside (confined.trans isConfined) (meets.mpr meet)
      rw [rectangle, x, y] at inside
      exact (contains_iff isConfined meet).mp inside
  · intro admits
    refine ⟨?_, ?_, fun isConfined meet => ?_⟩
    · rw [x]
      exact lands_iff.mp admits.x
    · rw [y]
      exact lands_iff.mp admits.y
    · rw [confined] at isConfined
      rw [meets] at meet
      rw [rectangle, x, y]
      exact (contains_iff isConfined meet).mpr (admits.inside isConfined meet)

/-- Without a confinement every point is admitted. -/
theorem admits_free (free : mouse.confined = false) : mouse.Admits targetX targetY := by
  have notConfined : ¬ mouse.confined = true := ne_true_of_eq_false free
  refine ⟨?_, ?_, fun contrary => absurd contrary notConfined⟩
  · rw [minX, maxX, if_neg notConfined, if_neg notConfined]
    exact ⟨by decide, Or.inl (Int.le_refl 0), Or.inl (Int.le_refl _)⟩
  · rw [minY, maxY, if_neg notConfined, if_neg notConfined]
    exact ⟨by decide, Or.inl (Int.le_refl 0), Or.inl (Int.le_refl _)⟩

/-- So it is with a rectangle on the screen that the pointer fits into. -/
theorem admits_fitting
    (fits : mouse.confined = true → Fits mouse.confineX mouse.confineY mouse.confineW mouse.confineH) :
    mouse.Admits targetX targetY := by
  by_cases confined : mouse.confined = true
  · obtain ⟨x, y⟩ := fits confined
    unfold screenWidth screenHeight at *
    have minX : mouse.minX = mouse.confineX := if_pos confined
    have minY : mouse.minY = mouse.confineY := if_pos confined
    have right : wrap (mouse.confineX + mouse.confineW) = mouse.confineX + mouse.confineW :=
      wrap_of_inRange ⟨by omega, by omega⟩
    have bottom : wrap (mouse.confineY + mouse.confineH) = mouse.confineY + mouse.confineH :=
      wrap_of_inRange ⟨by omega, by omega⟩
    have maxX : mouse.maxX = mouse.confineX + mouse.confineW - 10 := by
      rw [MouseState.maxX, if_pos confined, right]
      exact wrap_of_inRange ⟨by omega, by omega⟩
    have maxY : mouse.maxY = mouse.confineY + mouse.confineH - 16 := by
      rw [MouseState.maxY, if_pos confined, bottom]
      exact wrap_of_inRange ⟨by omega, by omega⟩
    refine ⟨?_, ?_, fun _ _ => ?_⟩
    · rw [minX, maxX]
      exact ⟨by omega, Or.inl x.1, Or.inl (by unfold screenWidth; omega)⟩
    · rw [minY, maxY]
      exact ⟨by omega, Or.inl y.1, Or.inl (by unfold screenHeight; omega)⟩
    · rw [minX, maxX, minY, maxY]
      omega
  · exact admits_free (eq_false_of_ne_true confined)

end MouseState

/-- What moves the pointer or confines it, and what takes events off the queue. -/
inductive Steering where
  | mouseMove (tickCount : Nat) (dx dy : Int)
  | setMousePosition (x y : Int)
  | confineMouse (x y w h : Int)
  | unconfineMouse
  | pollEvent
  | flushEvents

namespace InputManager

variable {before after : InputManager} {steering : Steering}

def steer (manager : InputManager) : Steering → InputManager
  | .mouseMove tickCount dx dy => manager.inputPostMouseMove tickCount dx dy
  | .setMousePosition x y => manager.inputSetMousePosition x y
  | .confineMouse x y w h => manager.inputConfineMouse x y w h
  | .unconfineMouse => manager.inputUnconfineMouse
  | .pollEvent => manager.inputPollEvent.2
  | .flushEvents => manager.inputFlushEvents

def steerStep (manager : InputManager) (steering : Steering) : Option InputManager := some (manager.steer steering)

/-- The mouse with a confinement, where it is. -/
def confine (mouse : MouseState) (x y w h : Int) : MouseState :=
  { mouse with confined := true, confineX := x, confineY := y, confineW := w, confineH := h }

/-- The point that the pointer is sent to is admitted. -/
def Admissible (before : InputManager) : Steering → Prop
  | .mouseMove _ dx dy =>
      inputQueueSize ≤ before.queue.count ∨ before.mouse.Admits (before.targetX dx) (before.targetY dy)
  | .setMousePosition x y => before.mouse.Admits x y
  | .confineMouse x y w h => (confine before.mouse x y w h).Admits before.mouse.x before.mouse.y
  | _ => True

theorem steer_onScreen_iff (onScreen : before.mouse.OnScreen) :
    (before.steer steering).mouse.OnScreen ↔ before.Admissible steering := by
  cases steering with
  | mouseMove tickCount dx dy =>
      rw [Admissible, steer]
      by_cases full : inputQueueSize ≤ before.queue.count
      · rw [inputPostMouseMove_dropped full]
        exact iff_of_true onScreen (Or.inl full)
      · obtain ⟨_, x, y⟩ := inputPostMouseMove_delivered (Nat.not_le.mp full)
        rw [or_iff_right full]
        have posted : before.inputPostMouseMove tickCount dx dy = _ := if_neg full
        rw [posted] at x y ⊢
        exact MouseState.onScreen_iff x y rfl fun _ _ => Iff.rfl
  | setMousePosition x y => exact MouseState.onScreen_iff rfl rfl rfl fun _ _ => Iff.rfl
  | confineMouse x y w h => exact MouseState.onScreen_iff rfl rfl rfl fun _ _ => Iff.rfl
  | unconfineMouse => exact iff_of_true ⟨onScreen.x, onScreen.y, nofun⟩ trivial
  | pollEvent =>
      refine iff_of_true ?_ trivial
      rw [steer, inputPollEvent]
      split
      · exact onScreen
      · exact onScreen
  | flushEvents => exact iff_of_true onScreen trivial

/-- The pointer stays on the screen, and in the rectangle that it is confined to, exactly as long as it is only sent to
points that are admitted. -/
theorem run_onScreen_iff (steerings : List Steering) :
    Observed steerStep (fun _ _ after => after.mouse.OnScreen) inputManagerInit steerings
        (steerings.foldl steer inputManagerInit) ↔
      Restricted steerStep Admissible inputManagerInit steerings (steerings.foldl steer inputManagerInit) := by
  have run : Restricted steerStep (fun _ _ => True) inputManagerInit steerings (steerings.foldl steer inputManagerInit) :=
    Run.foldl steer steerings inputManagerInit
  apply run.observed_iff fun manager => manager.mouse.OnScreen
  · intro before steering after onScreen _ done
    cases done
    exact steer_onScreen_iff onScreen
  · intro before steering after onScreen _ done admissible
    cases done
    exact (steer_onScreen_iff onScreen).mpr admissible
  · exact ⟨by decide, by decide, nofun⟩

/-- The rectangle, if it is one, fits. -/
def Fitting : Steering → Prop
  | .confineMouse x y w h => MouseState.Fits x y w h
  | _ => True

/-- The pointer is free, or in a rectangle that fits. -/
def Roomy (manager : InputManager) : Prop :=
  manager.mouse.confined = true →
    MouseState.Fits manager.mouse.confineX manager.mouse.confineY manager.mouse.confineW manager.mouse.confineH

theorem Roomy.steer (roomy : before.Roomy) (fitting : Fitting steering) : (before.steer steering).Roomy := by
  cases steering with
  | mouseMove tickCount dx dy =>
      rw [InputManager.steer, inputPostMouseMove, inputPostEvent]
      split
      · exact roomy
      · exact roomy
  | setMousePosition x y => exact roomy
  | confineMouse x y w h => exact fun _ => fitting
  | unconfineMouse =>
      intro confined
      cases confined
  | pollEvent =>
      rw [InputManager.steer, inputPollEvent]
      split
      · exact roomy
      · exact roomy
  | flushEvents => exact roomy

theorem Roomy.admissible (roomy : before.Roomy) (fitting : Fitting steering) : before.Admissible steering := by
  cases steering with
  | mouseMove tickCount dx dy => exact Or.inr (MouseState.admits_fitting roomy)
  | setMousePosition x y => exact MouseState.admits_fitting roomy
  | confineMouse x y w h => exact MouseState.admits_fitting fun _ => fitting
  | unconfineMouse | pollEvent | flushEvents => trivial

/-- Among rectangles that fit, every point is admitted. -/
theorem Roomy.restricted {steerings : List Steering} (roomy : before.Roomy)
    (fitting : ∀ steering ∈ steerings, Fitting steering) :
    Restricted steerStep Admissible before steerings (steerings.foldl InputManager.steer before) := by
  induction steerings generalizing before with
  | nil => exact .nil before
  | cons steering rest ih =>
      obtain ⟨first, later⟩ := List.forall_mem_cons.mp fitting
      exact .cons ⟨roomy.admissible first, rfl⟩ (ih (roomy.steer first) later)

/-- The pointer is confined to a rectangle beside the screen, to one that is narrower than the pointer, and to one that
reaches over the border. -/
theorem run_pointer_leaves_screen :
    ¬ (inputManagerInit.steer (.confineMouse 400 0 100 100)).mouse.OnScreen ∧
      ¬ (inputManagerInit.steer (.confineMouse 100 50 5 100)).mouse.OnScreen ∧
        (inputManagerInit.steer (.confineMouse (-50) 0 100 100)).mouse.OnScreen ∧
          ¬ ((inputManagerInit.steer (.confineMouse (-50) 0 100 100)).steer (.setMousePosition (-20) 0)).mouse.OnScreen := by
  refine ⟨fun onScreen => ?_, fun onScreen => ?_, ?_, fun onScreen => ?_⟩
  · exact absurd onScreen.x (by decide)
  · have meets : (inputManagerInit.steer (.confineMouse 100 50 5 100)).mouse.Meets := ⟨100, 50, by decide, by decide⟩
    exact absurd (onScreen.inside rfl meets) (by decide)
  · exact ⟨by decide, by decide, fun _ _ => by decide⟩
  · exact absurd onScreen.x (by decide)

end InputManager

end AutismOS.Input
