import Mathlib.Data.Fintype.Card

namespace AutismOS.Library

/-! How many elements of a finite type have a property, and how the number changes with one element. -/

variable {α : Type u} [Fintype α] {before after : α → Prop} {element : α}

/-- The number of elements with a property. -/
noncomputable def count (holds : α → Prop) : Nat := by
  classical exact (Finset.univ.filter holds).card

theorem count_congr (same : ∀ element, after element ↔ before element) : count after = count before :=
  congrArg count (funext fun element => propext (same element))

theorem count_le (holds : α → Prop) : count holds ≤ Fintype.card α := by
  classical exact Finset.card_le_univ _

theorem count_pos (holds : before element) : 0 < count before := by
  classical
  exact Finset.card_pos.mpr ⟨element, Finset.mem_filter.mpr ⟨Finset.mem_univ element, holds⟩⟩

theorem count_eq_zero (nothing : ∀ element, ¬ before element) : count before = 0 := by
  classical
  refine Finset.card_eq_zero.mpr (Finset.filter_eq_empty_iff.mpr ?_)
  intro element _
  exact nothing element

/-- One more element. -/
theorem count_gain (others : ∀ other, other ≠ element → (after other ↔ before other)) (lacked : ¬ before element)
    (gained : after element) : count after = count before + 1 := by
  classical
  have inserted : Finset.univ.filter after = insert element (Finset.univ.filter before) := by
    ext other
    by_cases same : other = element
    · simp [same, gained]
    · simp [same, others other same]
  have fresh : element ∉ Finset.univ.filter before := by simp [lacked]
  unfold count
  convert Finset.card_insert_of_notMem fresh

/-- One element less. -/
theorem count_lose (others : ∀ other, other ≠ element → (after other ↔ before other)) (had : before element)
    (lost : ¬ after element) : count before = count after + 1 :=
  count_gain (fun other different => (others other different).symm) lost had

/-- A change of one element that keeps whether it has the property. -/
theorem count_keep (others : ∀ other, other ≠ element → (after other ↔ before other))
    (kept : after element ↔ before element) : count after = count before := by
  refine count_congr ?_
  intro other
  by_cases same : other = element
  · exact same ▸ kept
  · exact others other same

end AutismOS.Library
