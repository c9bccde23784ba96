import Mathlib.Data.List.DropRight
import Mathlib.Data.Nat.ModEq

namespace AutismOS.Library

/-! Text in the cells of a grid.

A break ends a line.  A line that is longer than the columns goes on in the next row, which it enters with
the first entry that has no room.
-/

structure Cell where
  row : Nat
  col : Nat
deriving DecidableEq

namespace Wrapping

variable {α : Type u} {isBreak : α → Bool} {cols count : Nat} {cell : Cell} {entry : α} {text rest : List α}

def origin : Cell := ⟨0, 0⟩

def newLine (cell : Cell) : Cell := ⟨cell.row + 1, 0⟩

def right (cell : Cell) : Cell := ⟨cell.row, cell.col + 1⟩

/-- The cell in which an entry is put that is no break. -/
def landing (cols : Nat) (cell : Cell) : Cell := if cols ≤ cell.col then newLine cell else cell

/-- The cell behind an entry. -/
def advance (isBreak : α → Bool) (cols : Nat) (cell : Cell) (entry : α) : Cell :=
  if isBreak entry then newLine cell else right (landing cols cell)

/-- The cell behind a text. -/
def reach (isBreak : α → Bool) (cols : Nat) (text : List α) : Cell := text.foldl (advance isBreak cols) origin

/-- What stands behind the last break. -/
def lastLine (isBreak : α → Bool) (text : List α) : List α := text.rtakeWhile fun entry => !isBreak entry

theorem row_le_advance : cell.row ≤ (advance isBreak cols cell entry).row := by
  rw [advance, landing]
  split
  · exact Nat.le_succ _
  · split
    · exact Nat.le_succ _
    · exact Nat.le_refl _

theorem row_le_foldl : cell.row ≤ (text.foldl (advance isBreak cols) cell).row := by
  induction text generalizing cell with
  | nil => exact Nat.le_refl _
  | cons entry rest ih => exact Nat.le_trans row_le_advance ih

theorem reach_concat : reach isBreak cols (text ++ [entry]) = advance isBreak cols (reach isBreak cols text) entry :=
  List.foldl_concat _ _ _ _

theorem landing_col : (landing cols cell).col = if cols ≤ cell.col then 0 else cell.col := by
  rw [landing]
  split
  · rfl
  · rfl

/-- Where the remainder is the last one, the next number is a multiple. -/
theorem full_iff (positive : 0 < cols) : cols ≤ count % cols + 1 ↔ cols ∣ count + 1 := by
  have below : count % cols < cols := Nat.mod_lt _ positive
  have next : (count % cols + 1) % cols = (count + 1) % cols := Nat.mod_add_mod count cols 1
  rw [Nat.dvd_iff_mod_eq_zero, ← next]
  constructor
  · intro full
    have last : count % cols + 1 = cols := Nat.le_antisymm below full
    rw [last, Nat.mod_self]
  · intro multiple
    refine Nat.le_of_not_lt fun room => ?_
    rw [Nat.mod_eq_of_lt room] at multiple
    cases multiple

theorem succ_mod (positive : 0 < cols) :
    (if cols ≤ count % cols + 1 then 0 else count % cols + 1) = (count + 1) % cols := by
  have next : (count % cols + 1) % cols = (count + 1) % cols := Nat.mod_add_mod count cols 1
  split
  · next full => exact (Nat.mod_eq_zero_of_dvd ((full_iff positive).mp full)).symm
  · next room => rw [← next, Nat.mod_eq_of_lt (Nat.lt_of_not_le room)]

/-- The column is the place in the last line, counted from one and by rows. -/
theorem reach_col (positive : 0 < cols) : (reach isBreak cols text).col =
    if lastLine isBreak text = [] then 0 else ((lastLine isBreak text).length - 1) % cols + 1 := by
  induction text using List.reverseRecOn with
  | nil => rfl
  | append_singleton text entry ih =>
      rw [reach_concat, advance, lastLine, List.rtakeWhile_concat]
      cases ends : isBreak entry with
      | true =>
          rw [if_pos rfl, Bool.not_true, if_neg Bool.false_ne_true, if_pos rfl]
          rfl
      | false =>
          have shown : (lastLine isBreak text ++ [entry]).length - 1 = (lastLine isBreak text).length := by
            rw [List.length_append, List.length_singleton, Nat.add_sub_cancel]
          rw [if_neg Bool.false_ne_true, Bool.not_false, if_pos rfl, if_neg (List.concat_ne_nil _ _), right]
          change _ = ((lastLine isBreak text ++ [entry]).length - 1) % cols + 1
          rw [shown]
          refine congrArg (· + 1) ?_
          rw [landing_col, ih]
          cases isLine : lastLine isBreak text with
          | nil => rw [if_pos rfl, ite_self, List.length_nil, Nat.zero_mod]
          | cons first rest =>
              rw [if_neg (List.cons_ne_nil _ _), List.length_cons, Nat.add_sub_cancel]
              exact succ_mod positive

/-- What comes next lands where the text ends, unless the last line is full. -/
theorem landing_reach (positive : 0 < cols) : landing cols (reach isBreak cols text) = reach isBreak cols text ↔
    lastLine isBreak text = [] ∨ ¬ cols ∣ (lastLine isBreak text).length := by
  have stays : landing cols (reach isBreak cols text) = reach isBreak cols text ↔
      ¬ cols ≤ (reach isBreak cols text).col := by
    rw [landing]
    split
    · next full => exact iff_of_false (fun same => Nat.succ_ne_self _ (congrArg Cell.row same)) (not_not.mpr full)
    · next room => exact iff_of_true rfl room
  rw [stays, reach_col positive]
  cases isLine : lastLine isBreak text with
  | nil =>
      rw [if_pos rfl]
      exact iff_of_true (Nat.not_le_of_lt positive) (.inl rfl)
  | cons first rest =>
      rw [if_neg (List.cons_ne_nil _ _), List.length_cons, Nat.add_sub_cancel, full_iff positive]
      exact (or_iff_right (List.cons_ne_nil _ _)).symm

end Wrapping

end AutismOS.Library
