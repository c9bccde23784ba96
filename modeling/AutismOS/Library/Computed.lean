import AutismOS.Library.Run
import AutismOS.Library.Word

namespace AutismOS.Library

/-! What a program in C computes with signed 32-bit words.

An operation whose result does not fit wraps around, which the standard does not promise, and a
division may raise an exception of the processor.  Both are seen.
-/

/-- A result, with whether each operation gave the one that the integers give; or an exception. -/
inductive Computed (α : Type u) where
  | value (result : α) (exact : Bool)
  | exception
deriving DecidableEq

namespace Computed

variable {α β : Type u} {result : α} {after : β} {computed : Computed α} {next : α → Computed β}

def bind (computed : Computed α) (next : α → Computed β) : Computed β :=
  match computed with
  | .exception => .exception
  | .value result exact =>
      match next result with
      | .exception => .exception
      | .value after later => .value after (exact && later)

instance : Monad Computed where
  pure result := .value result true
  bind := bind

/-- The result, unless there is an exception. -/
def outcome : Computed α → Option α
  | .value result _ => some result
  | .exception => none

/-- There is a result, and every operation was exact. -/
def sound : Computed α → Bool
  | .value _ exact => exact
  | .exception => false

/-- An operation with its result as a word and as an integer. -/
def checked (word : Int32) (integer : Int) : Computed Int32 := .value word (Fits integer)

def add (left right : Int32) : Computed Int32 := checked (left + right) (left.toInt + right.toInt)

def sub (left right : Int32) : Computed Int32 := checked (left - right) (left.toInt - right.toInt)

def mul (left right : Int32) : Computed Int32 := checked (left * right) (left.toInt * right.toInt)

def neg (number : Int32) : Computed Int32 := checked (-number) (-number.toInt)

/-- Division traps for a divisor of zero, and where the quotient does not fit. -/
def div (left right : Int32) : Computed Int32 :=
  if right = 0 ∨ left = Int32.minValue ∧ right = -1 then .exception else .value (left / right) true

@[simp] theorem pure_bind : (Pure.pure result : Computed α) >>= next = next result := by
  change bind (.value result true) next = next result
  rw [bind]
  cases next result with
  | exception => rfl
  | value after later => rfl

instance : LawfulMonad Computed := by
  refine LawfulMonad.mk' _ ?_ (fun _ _ => pure_bind) ?_
  · intro α computed
    cases computed with
    | exception => rfl
    | value result exact =>
        change bind (.value result exact) _ = _
        rw [bind]
        exact congrArg (Computed.value result) (Bool.and_true exact)
  · intro α β γ computed next further
    change bind (bind computed next) further = bind computed fun result => bind (next result) further
    cases computed with
    | exception => rfl
    | value result exact =>
        rw [bind, bind]
        cases next result with
        | exception => rfl
        | value after later =>
            dsimp only
            rw [bind, bind]
            cases further after with
            | exception => rfl
            | value final latest => exact congrArg (Computed.value final) (Bool.and_assoc _ _ _)

@[simp] theorem outcome_pure : (Pure.pure result : Computed α).outcome = some result := rfl

@[simp] theorem sound_pure : (Pure.pure result : Computed α).sound = true := rfl

variable {word : Int32} {integer : Int}

theorem checked_sound : (checked word integer).sound = true ↔ Fits integer := decide_eq_true_iff

theorem checked_fits (fits : Fits integer) : checked word integer = Pure.pure word := by
  rw [checked, decide_eq_true fits]
  rfl

/-- What was computed without a fault. -/
theorem sound_iff : computed.sound = true ↔ ∃ result, computed = Pure.pure result := by
  cases computed with
  | exception => exact ⟨nofun, fun ⟨_, same⟩ => nomatch same⟩
  | value result exact =>
      cases exact with
      | true => exact ⟨fun _ => ⟨result, rfl⟩, fun _ => rfl⟩
      | false => exact ⟨nofun, fun ⟨_, same⟩ => nomatch same⟩

theorem outcome_bind : (computed >>= next).outcome = computed.outcome.bind fun result => (next result).outcome := by
  cases computed with
  | exception => rfl
  | value result exact =>
      change (bind (.value result exact) next).outcome = (next result).outcome
      rw [bind]
      cases next result with
      | exception => rfl
      | value after later => rfl

/-- Steps one after another are sound when each of them is. -/
theorem sound_bind : (computed >>= next).sound = true ↔ computed.sound = true ∧
    ∀ result, computed.outcome = some result → (next result).sound = true := by
  cases computed with
  | exception => exact ⟨nofun, fun sound => nomatch sound.1⟩
  | value result exact =>
      change (bind (.value result exact) next).sound = true ↔ exact = true ∧ ∀ after, some result = some after → _
      rw [bind]
      cases isNext : next result with
      | exception =>
          refine ⟨nofun, fun sound => ?_⟩
          have later := sound.2 result rfl
          rw [isNext] at later
          cases later
      | value after later =>
          change (exact && later) = true ↔ _
          rw [Bool.and_eq_true]
          refine and_congr_right fun _ => ⟨fun soundLater other same => ?_, fun sound => ?_⟩
          · cases same
            rw [isNext]
            exact soundLater
          · have soundLater := sound result rfl
            rwa [isNext] at soundLater

/-- When one step is sound exactly where `guard` allows it, and an invariant that this rests on is kept,
steps one after another are sound exactly when they stay within the guard. -/
theorem foldlM_sound_iff {step : α → β → Computed α} {guard : α → β → Prop} (holds : α → Prop)
    (exact_ : ∀ before action, holds before → ((step before action).sound = true ↔ guard before action))
    (kept : ∀ before action after, holds before → step before action = Pure.pure after → holds after)
    {before : α} (initial : holds before) (actions : List β) :
    (actions.foldlM step before).sound = true ↔
      ∃ after, Restricted (fun before action => (step before action).outcome) guard before actions after := by
  induction actions generalizing before with
  | nil => exact iff_of_true rfl ⟨before, .nil before⟩
  | cons action rest ih =>
      rw [List.foldlM_cons]
      constructor
      · intro sound
        obtain ⟨middle, isMiddle⟩ := sound_iff.mp (sound_bind.mp sound).1
        have allowed := (exact_ before action initial).mp (sound_bind.mp sound).1
        rw [isMiddle, pure_bind] at sound
        obtain ⟨after, run⟩ := (ih (kept _ _ _ initial isMiddle)).mp sound
        exact ⟨after, .cons ⟨allowed, by rw [Stepping, isMiddle]; rfl⟩ run⟩
      · rintro ⟨after, run⟩
        cases run with
        | cons performed run =>
            have first := (exact_ before action initial).mpr performed.1
            obtain ⟨middle, isMiddle⟩ := sound_iff.mp first
            have same := performed.2
            rw [Stepping, isMiddle] at same
            cases same
            rw [isMiddle, pure_bind]
            exact (ih (kept _ _ _ initial isMiddle)).mpr ⟨after, run⟩

end Computed

end AutismOS.Library
