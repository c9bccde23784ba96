import Mathlib.Data.Set.BooleanAlgebra
import Mathlib.Order.CompletePartialOrder
import Mathlib.Order.Interval.Set.Basic
import Mathlib.Data.List.Pairwise

namespace AutismOS.Library

/-! Ranges of numbers laid end to end.

Each item of a list stands for the half-open range from `start` to `stop`.
`Consecutive` says that the ranges follow each other without gap or overlap, in
the order of the list, which makes them a tiling of the whole.
-/

/-- The ranges of the items lead from `first` to `last`. -/
def Consecutive (start stop : ι → Nat) (first last : Nat) : List ι → Prop
  | [] => first = last
  | item :: rest => start item = first ∧ first ≤ stop item ∧ Consecutive start stop (stop item) last rest

namespace Consecutive

variable {ι : Type u} {start stop changedStop : ι → Nat} {first last : Nat}
variable {item : ι} {items : List ι}

theorem le (tiling : Consecutive start stop first last items) : first ≤ last := by
  induction items generalizing first with
  | nil => exact Nat.le_of_eq tiling
  | cons item rest ih =>
      obtain ⟨_, nonempty, remaining⟩ := tiling
      exact Nat.le_trans nonempty (ih remaining)

/-- Every range lies in the whole. -/
theorem bounds (tiling : Consecutive start stop first last items) (member : item ∈ items) :
    first ≤ start item ∧ stop item ≤ last := by
  induction items generalizing first with
  | nil => simp at member
  | cons head rest ih =>
      obtain ⟨begins, nonempty, remaining⟩ := tiling
      rcases List.mem_cons.mp member with same | inRest
      · subst same
        exact ⟨Nat.le_of_eq begins.symm, remaining.le⟩
      · obtain ⟨above, below⟩ := ih remaining inRest
        exact ⟨Nat.le_trans nonempty above, below⟩

/-- The ranges do not overlap. -/
theorem disjoint (tiling : Consecutive start stop first last items) :
    items.Pairwise fun left right =>
      Disjoint (Set.Ico (start left) (stop left)) (Set.Ico (start right) (stop right)) := by
  induction items generalizing first with
  | nil => exact List.Pairwise.nil
  | cons head rest ih =>
      obtain ⟨_, _, remaining⟩ := tiling
      refine List.pairwise_cons.mpr ⟨fun other member => ?_, ih remaining⟩
      have above := (remaining.bounds member).1
      apply Set.disjoint_left.mpr
      intro number inHead inOther
      exact Nat.not_lt.mpr (Nat.le_trans above inOther.1) inHead.2

/-- The ranges leave no gap. -/
theorem covers (tiling : Consecutive start stop first last items) (number : Nat) :
    (∃ item ∈ items, number ∈ Set.Ico (start item) (stop item)) ↔ number ∈ Set.Ico first last := by
  constructor
  · intro ⟨item, member, above, below⟩
    obtain ⟨lower, upper⟩ := tiling.bounds member
    exact ⟨Nat.le_trans lower above, Nat.lt_of_lt_of_le below upper⟩
  · intro ⟨above, below⟩
    induction items generalizing first with
    | nil =>
        have same : first = last := tiling
        omega
    | cons head rest ih =>
        obtain ⟨begins, _, remaining⟩ := tiling
        by_cases inHead : number < stop head
        · exact ⟨head, by simp, by omega, inHead⟩
        · obtain ⟨item, member, inside⟩ := ih remaining (Nat.not_lt.mp inHead)
          exact ⟨item, by simp [member], inside⟩

theorem congr (tiling : Consecutive start stop first last items)
    (same : ∀ item ∈ items, changedStop item = stop item) :
    Consecutive start changedStop first last items := by
  induction items generalizing first with
  | nil => exact tiling
  | cons head rest ih =>
      obtain ⟨begins, nonempty, remaining⟩ := tiling
      have sameHead := same head (by simp)
      refine ⟨begins, sameHead ▸ nonempty, ?_⟩
      rw [sameHead]
      exact ih remaining fun item member => same item (by simp [member])

/-- Cutting the first range in two. -/
theorem cut {item new : ι} (tiling : Consecutive start stop first last (item :: items))
    (touches : start new = changedStop item) (lower : first ≤ changedStop item)
    (upper : changedStop item ≤ stop item) (ends : changedStop new = stop item)
    (same : ∀ other ∈ items, changedStop other = stop other) :
    Consecutive start changedStop first last (item :: new :: items) := by
  obtain ⟨begins, _, remaining⟩ := tiling
  refine ⟨begins, lower, touches, ends ▸ upper, ?_⟩
  rw [ends]
  exact remaining.congr same

end Consecutive

end AutismOS.Library
