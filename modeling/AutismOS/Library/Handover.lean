import Mathlib.Data.Nat.ModEq
import Mathlib.Logic.Function.Basic

namespace AutismOS.Library

/-! A ring of cells through which items are handed over, where the giving side does not look whether
the cell that it fills was emptied. -/

structure Handover (α : Type u) where
  cells : Nat → Option α
  putAt : Nat
  takeAt : Nat
  given : List α
  taken : List α

namespace Handover

variable {α : Type u} {size count offset : Nat} {ring : Handover α} {items rest : List α} {item : α}

def give (size : Nat) (item : α) (ring : Handover α) : Handover α :=
  { ring with
    cells := Function.update ring.cells ring.putAt (some item)
    putAt := (ring.putAt + 1) % size
    given := ring.given ++ [item] }

/-- The taking side waits at a cell until it is filled. -/
def take (size : Nat) (ring : Handover α) : Option (Handover α) :=
  (ring.cells ring.takeAt).map fun item =>
    { ring with
      cells := Function.update ring.cells ring.takeAt none
      takeAt := (ring.takeAt + 1) % size
      taken := ring.taken ++ [item] }

/-- The items in the order in which they would be taken. -/
def waitingFrom (size : Nat) (cells : Nat → Option α) (place : Nat) : Nat → List α
  | 0 => []
  | count + 1 =>
      match cells place with
      | none => []
      | some item => item :: waitingFrom size cells ((place + 1) % size) count

def waiting (size : Nat) (ring : Handover α) : List α := waitingFrom size ring.cells ring.takeAt size

/-- Every item that was given was taken or waits, in order. -/
def Whole (size : Nat) (ring : Handover α) : Prop := ring.taken ++ ring.waiting size = ring.given

def Full (size : Nat) (ring : Handover α) : Prop := ∀ place < size, ring.cells place ≠ none

/-- The cells from the next one to be taken on hold these items. -/
structure Level (size : Nat) (ring : Handover α) (items : List α) : Prop where
  takeAt : ring.takeAt < size
  putAt : ring.putAt = (ring.takeAt + items.length) % size
  few : items.length ≤ size
  cells : ∀ offset < size, ring.cells ((ring.takeAt + offset) % size) = items[offset]?
  given : ring.given = ring.taken ++ items

theorem Level.waitingFrom (level : Level size ring items) (inside : offset + count ≤ size) :
    waitingFrom size ring.cells ((ring.takeAt + offset) % size) count = (items.drop offset).take count := by
  induction count generalizing offset with
  | zero => simp [Handover.waitingFrom]
  | succ count ih =>
      rw [Handover.waitingFrom, level.cells offset (by omega), Nat.mod_add_mod, Nat.add_assoc, ih (by omega)]
      cases found : items[offset]? with
      | none => simp [List.drop_eq_nil_of_le (List.getElem?_eq_none_iff.mp found)]
      | some item =>
          obtain ⟨below, rfl⟩ := List.getElem?_eq_some_iff.mp found
          rw [List.drop_eq_getElem_cons below, List.take_succ_cons]

theorem Level.waiting (level : Level size ring items) : ring.waiting size = items := by
  have all : Handover.waitingFrom size ring.cells ((ring.takeAt + 0) % size) size = (items.drop 0).take size :=
    level.waitingFrom (by omega)
  rw [Nat.add_zero, Nat.mod_eq_of_lt level.takeAt, List.drop_zero, List.take_of_length_le level.few] at all
  exact all

theorem Level.whole (level : Level size ring items) : Whole size ring := by
  rw [Whole, level.waiting, level.given]

theorem offset_inj {start other : Nat} (inside : offset < size) (otherInside : other < size)
    (same : (start + offset) % size = (start + other) % size) : offset = other := by
  have congruent := Nat.ModEq.add_left_cancel' start same
  rwa [Nat.ModEq, Nat.mod_eq_of_lt inside, Nat.mod_eq_of_lt otherInside] at congruent

theorem exists_offset {start place : Nat} (inside : place < size) (startInside : start < size) :
    ∃ offset < size, (start + offset) % size = place := by
  rcases Nat.lt_or_ge place start with before | behind
  · have around : start + (place + size - start) = place + size := by omega
    refine ⟨place + size - start, by omega, ?_⟩
    rw [around, Nat.add_mod_right, Nat.mod_eq_of_lt inside]
  · refine ⟨place - start, by omega, ?_⟩
    rw [Nat.add_sub_cancel' behind, Nat.mod_eq_of_lt inside]

theorem Level.full_iff (level : Level size ring items) : Full size ring ↔ items.length = size := by
  constructor
  · intro full
    by_contra room
    have few := level.few
    have empty := level.cells items.length (by omega)
    rw [List.getElem?_eq_none (Nat.le_refl _)] at empty
    exact full _ (Nat.mod_lt _ (by omega)) empty
  · intro many place inside
    obtain ⟨offset, below, rfl⟩ := exists_offset inside level.takeAt
    rw [level.cells offset below, List.getElem?_eq_getElem (by omega)]
    exact Option.some_ne_none _

/-- Where a cell is free, the item waits behind the others. -/
theorem Level.give (level : Level size ring items) (room : ¬ Full size ring) :
    Level size (ring.give size item) (items ++ [item]) := by
  have few : items.length < size := Nat.lt_of_le_of_ne level.few fun many => room (level.full_iff.mpr many)
  refine ⟨level.takeAt, ?_, ?_, fun offset inside => ?_, ?_⟩
  · rw [Handover.give, level.putAt, Nat.mod_add_mod, List.length_append, Nat.add_assoc]
    rfl
  · rw [List.length_append]
    exact few
  · rw [Handover.give]
    dsimp only
    by_cases last : offset = items.length
    · rw [last, ← level.putAt, Function.update_self, List.getElem?_concat_length]
    · have apart : (ring.takeAt + offset) % size ≠ ring.putAt := by
        rw [level.putAt]
        exact fun same => last (offset_inj inside few same)
      rw [Function.update_of_ne apart, level.cells offset inside]
      rcases Nat.lt_or_gt_of_ne last with before | behind
      · rw [List.getElem?_append_left before]
      · rw [List.getElem?_eq_none (Nat.le_of_lt behind), List.getElem?_eq_none]
        rw [List.length_append]
        exact behind
  · rw [Handover.give, level.given, List.append_assoc]

theorem length_waitingFrom_le (cells : Nat → Option α) (place : Nat) : (waitingFrom size cells place count).length ≤ count := by
  induction count generalizing place with
  | zero => exact Nat.le_refl 0
  | succ count ih =>
      rw [waitingFrom]
      cases cells place with
      | none => exact Nat.zero_le _
      | some item => exact Nat.succ_le_succ (ih _)

/-- Where no cell is free, an item is lost. -/
theorem Level.give_full (level : Level size ring items) (full : Full size ring) : ¬ Whole size (ring.give size item) := by
  intro whole
  have lengths := congrArg List.length whole
  have bounded : ((ring.give size item).waiting size).length ≤ size := length_waitingFrom_le _ _
  have given := congrArg List.length level.given
  have many := level.full_iff.mp full
  simp only [Handover.give, List.length_append, List.length_singleton] at lengths bounded given
  omega

theorem Level.give_iff (level : Level size ring items) : Whole size (ring.give size item) ↔ ¬ Full size ring :=
  ⟨fun whole full => level.give_full full whole, fun room => (level.give room).whole⟩

/-- What is taken is the oldest item. -/
theorem Level.take {next : Handover α} (level : Level size ring items) (taken : ring.take size = some next) :
    ∃ item rest, items = item :: rest ∧ next.taken = ring.taken ++ [item] ∧ Level size next rest := by
  have some : 0 < size := Nat.zero_lt_of_lt level.takeAt
  have front := level.cells 0 some
  rw [Nat.add_zero, Nat.mod_eq_of_lt level.takeAt] at front
  obtain ⟨item, filled, rfl⟩ := Option.map_eq_some_iff.mp taken
  cases items with
  | nil =>
      rw [filled] at front
      cases front
  | cons oldest rest =>
      rw [filled] at front
      cases front
      have few : rest.length < size := level.few
      have further (offset : Nat) : ring.takeAt + 1 + offset = ring.takeAt + (offset + 1) := Nat.add_right_comm ..
      refine ⟨item, rest, rfl, rfl, Nat.mod_lt _ some, ?_, Nat.le_of_lt few, fun offset inside => ?_, ?_⟩
      · dsimp only
        rw [level.putAt, Nat.mod_add_mod, further, List.length_cons]
      · dsimp only
        rw [Nat.mod_add_mod, further]
        by_cases last : offset + 1 = size
        · rw [last, Nat.add_mod_right, Nat.mod_eq_of_lt level.takeAt, Function.update_self, List.getElem?_eq_none]
          omega
        · have below : offset + 1 < size := by omega
          have apart : (ring.takeAt + (offset + 1)) % size ≠ ring.takeAt := by
            intro same
            have start : (ring.takeAt + 0) % size = ring.takeAt := Nat.mod_eq_of_lt level.takeAt
            exact absurd (offset_inj below some (same.trans start.symm)) (Nat.succ_ne_zero _)
          rw [Function.update_of_ne apart, level.cells _ below]
          rfl
      · dsimp only
        rw [level.given, List.append_assoc]
        rfl

/-- Nothing waits in a ring whose cells are empty. -/
theorem level_nil (inside : ring.takeAt < size) (same : ring.putAt = ring.takeAt)
    (empty : ∀ place < size, ring.cells place = none) (nothing : ring.given = ring.taken) : Level size ring [] where
  takeAt := inside
  putAt := by rw [same, List.length_nil, Nat.add_zero, Nat.mod_eq_of_lt inside]
  few := Nat.zero_le _
  cells := fun offset _ => empty _ (Nat.mod_lt _ (Nat.zero_lt_of_lt inside))
  given := by rw [nothing, List.append_nil]

end Handover

end AutismOS.Library
