import Mathlib.Logic.Function.Basic

namespace AutismOS.Library

/-! Part of an array is reversed in place by two indices that meet.

An array is a function of the index, so what a loop leaves alone needs no bounds.
-/

variable {α : Type} {array : Nat → α} {low high start place fuel : Nat} {first : α} {text rest : List α}

/-- Stores one after another, from `start` on. -/
def overlay (array : Nat → α) (start : Nat) : List α → Nat → α
  | [] => array
  | first :: rest => overlay (Function.update array start first) (start + 1) rest

/-- `while (low < high)` the two are exchanged; `none` when the loop never ends. -/
def exchange (array : Nat → α) (low high : Nat) : Nat → Option (Nat → α)
  | 0 => none
  | fuel + 1 =>
      if low < high then
        let tmp := array low
        let array := Function.update array low (array high)
        exchange (Function.update array high tmp) (low + 1) (high - 1) fuel
      else some array

def mirrored (array : Nat → α) (low high : Nat) : Nat → α := fun place =>
  if low ≤ place ∧ place ≤ high then array (low + high - place) else array place

theorem overlay_append : overlay array start (text ++ rest) = overlay (overlay array start text) (start + text.length) rest := by
  induction text generalizing array start with
  | nil => simp [overlay]
  | cons first others ih => simp [overlay, ih, Nat.add_comm, Nat.add_left_comm]

theorem overlay_before (before : place < start) : overlay array start text place = array place := by
  induction text generalizing array start with
  | nil => rfl
  | cons first others ih =>
      rw [overlay, ih (Nat.lt_succ_of_lt before)]
      exact Function.update_of_ne (Nat.ne_of_lt before) _ _

theorem overlay_add : overlay array start text (start + place) = (text[place]?).getD (array (start + place)) := by
  induction text generalizing array start place with
  | nil => rfl
  | cons first others ih =>
      rw [overlay]
      cases place with
      | zero =>
          change overlay _ (start + 1) others start = first
          rw [overlay_before (Nat.lt_add_one start), Function.update_self]
      | succ place =>
          have moved : start + (place + 1) = start + 1 + place := by omega
          have apart : start + 1 + place ≠ start := by omega
          rw [moved, ih, Function.update_of_ne apart, List.getElem?_cons_succ]

theorem mirrored_met (met : high ≤ low) : mirrored array low high = array := by
  funext place
  unfold mirrored
  split
  · congr 1
    omega
  · rfl

/-- One turn of the loop, on what is still to be exchanged. -/
theorem mirrored_exchanged (apart : low < high) :
    mirrored (Function.update (Function.update array low (array high)) high (array low)) (low + 1) (high - 1) =
      mirrored array low high := by
  funext place
  unfold mirrored
  by_cases atLow : place = low
  · subst atLow
    have outside : ¬ (place + 1 ≤ place ∧ place ≤ high - 1) := by omega
    have opposite : place + high - place = high := Nat.add_sub_cancel_left _ _
    rw [if_neg outside, if_pos ⟨Nat.le_refl _, Nat.le_of_lt apart⟩, Function.update_of_ne (Nat.ne_of_lt apart),
      Function.update_self, opposite]
  · by_cases atHigh : place = high
    · subst atHigh
      have outside : ¬ (low + 1 ≤ place ∧ place ≤ place - 1) := by omega
      have opposite : low + place - place = low := Nat.add_sub_cancel _ _
      rw [if_neg outside, if_pos ⟨Nat.le_of_lt apart, Nat.le_refl _⟩, Function.update_self, opposite]
    · by_cases between : low ≤ place ∧ place ≤ high
      · have inner : low + 1 ≤ place ∧ place ≤ high - 1 := by omega
        have opposite : low + 1 + (high - 1) - place = low + high - place := by omega
        have notHigh : low + high - place ≠ high := by omega
        have notLow : low + high - place ≠ low := by omega
        rw [if_pos inner, if_pos between, opposite, Function.update_of_ne notHigh, Function.update_of_ne notLow]
      · have inner : ¬ (low + 1 ≤ place ∧ place ≤ high - 1) := by omega
        rw [if_neg inner, if_neg between, Function.update_of_ne atHigh, Function.update_of_ne atLow]

theorem exchange_eq (enough : high ≤ low + fuel) : exchange array low high (fuel + 1) = some (mirrored array low high) := by
  induction fuel generalizing array low high with
  | zero =>
      have met : ¬ low < high := Nat.not_lt.mpr enough
      rw [exchange, if_neg met, mirrored_met (Nat.not_lt.mp met)]
  | succ fuel ih =>
      rw [exchange]
      split
      · rename_i apart
        have remaining : high - 1 ≤ low + 1 + fuel := by omega
        simp only [ih remaining, mirrored_exchanged apart]
      · rename_i met
        rw [mirrored_met (Nat.not_lt.mp met)]

/-- What was stored in a row is turned around, and nothing else. -/
theorem mirrored_overlay (nonempty : text ≠ []) :
    mirrored (overlay array start (text ++ rest)) start (start + text.length - 1) =
      overlay array start (text.reverse ++ rest) := by
  have positive := List.length_pos_iff.mpr nonempty
  funext place
  unfold mirrored
  by_cases before : place < start
  · rw [if_neg (by omega), overlay_before before, overlay_before before]
  · obtain ⟨index, rfl⟩ := Nat.exists_eq_add_of_le (Nat.not_lt.mp before)
    by_cases inside : index < text.length
    · have opposite : start + (start + text.length - 1) - (start + index) = start + (text.length - 1 - index) := by omega
      have bounded : text.length - 1 - index < text.length := by omega
      rw [if_pos (by omega), opposite, overlay_add, overlay_add, List.getElem?_append_left bounded,
        List.getElem?_append_left (by rwa [List.length_reverse]), List.getElem?_reverse inside,
        List.getElem?_eq_getElem bounded]
      rfl
    · have beyond := Nat.not_lt.mp inside
      rw [if_neg (by omega), overlay_add, overlay_add, List.getElem?_append_right beyond,
        List.getElem?_append_right (by rwa [List.length_reverse]), List.length_reverse]

end AutismOS.Library
