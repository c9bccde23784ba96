namespace AutismOS.Library

/-! Tables of bounded size in which a key keeps the first value that it came with.

What does not find room any more is dropped.
-/

namespace FirstCome

variable {κ : Type u} {α : Type v} [BEq κ] [LawfulBEq κ]
variable {capacity : Nat} {entries : List (κ × α)} {key other : κ} {value : α}

/-- A new key takes the next place, if there is one. -/
def enter (capacity : Nat) (entries : List (κ × α)) (key : κ) (value : α) : List (κ × α) :=
  if entries.lookup key = none ∧ entries.length < capacity then entries ++ [(key, value)] else entries

theorem lookup_enter_other (different : other ≠ key) :
    (enter capacity entries key value).lookup other = entries.lookup other := by
  rw [enter]
  split
  · have absent : List.lookup other [(key, value)] = none := by
      rw [List.lookup_cons, beq_eq_false_iff_ne.mpr different]
      rfl
    rw [List.lookup_append, absent, Option.or_none]
  · rfl

/-- A key is found with the value that it comes with now exactly when it came with that value
first, or is new and finds room. -/
theorem lookup_enter_iff : (enter capacity entries key value).lookup key = some value ↔
    entries.lookup key = some value ∨ entries.lookup key = none ∧ entries.length < capacity := by
  rw [enter]
  split
  · next fresh =>
      rw [List.lookup_append, fresh.1, Option.none_or, List.lookup_cons_self]
      exact iff_of_true rfl (Or.inr ⟨rfl, fresh.2⟩)
  · next known => exact (or_iff_left known).symm

end FirstCome

end AutismOS.Library
