import Mathlib.Logic.Basic

namespace AutismOS.Library

/-! Loops that count up, that work on a state and that may return early. -/

/-- `for (i = start; i < start + count; i++)`, where the body may return. -/
def scan (body : Nat → σ → Option β × σ) (start : Nat) : Nat → σ → Option β × σ
  | 0, state => (none, state)
  | count + 1, state =>
      match body start state with
      | (some result, state) => (some result, state)
      | (none, state) => scan body (start + 1) count state

/-- Below the limit the body returns what `answer` says, and it keeps the state as far as that matters. -/
structure Answers (limit : Nat) (kept : σ → Prop) (body : Nat → σ → Option β × σ) (answer : Nat → Option β) : Prop where
  answer : ∀ index < limit, ∀ state, kept state → (body index state).1 = answer index
  kept : ∀ index < limit, ∀ state, kept state → kept (body index state).2

variable {σ : Type u} {β : Type v} {kept : σ → Prop} {body : Nat → σ → Option β × σ} {answer : Nat → Option β}
variable {start count limit : Nat} {state : σ} {result : β}

theorem Answers.scan_kept (answers : Answers limit kept body answer) (within : start + count ≤ limit)
    (initial : kept state) :
    kept (scan body start count state).2 := by
  induction count generalizing start state with
  | zero => exact initial
  | succ count ih =>
      have next := answers.kept start (by omega) state initial
      rw [scan]
      generalize body start state = outcome at next
      obtain ⟨returned | returned, state⟩ := outcome
      · exact ih (by omega) next
      · exact next

/-- The loop returns the first answer there is. -/
theorem Answers.scan_eq (answers : Answers limit kept body answer) (within : start + count ≤ limit)
    (initial : kept state) : (scan body start count state).1 = (List.range' start count).findSome? answer := by
  induction count generalizing start state with
  | zero => rfl
  | succ count ih =>
      have next := answers.kept start (by omega) state initial
      have answered := answers.answer start (by omega) state initial
      rw [scan, List.range'_succ, List.findSome?_cons, ← answered]
      generalize body start state = outcome at next
      obtain ⟨returned | returned, state⟩ := outcome
      · exact ih (by omega) next
      · rfl

theorem findSome?_range'_eq_some : (List.range' start count).findSome? answer = some result ↔
    ∃ index, start ≤ index ∧ index < start + count ∧ answer index = some result ∧
      ∀ earlier, start ≤ earlier → earlier < index → answer earlier = none := by
  induction count generalizing start with
  | zero =>
      refine iff_of_false nofun ?_
      rintro ⟨index, above, below, _⟩
      omega
  | succ count ih =>
      rw [List.range'_succ, List.findSome?_cons]
      cases answered : answer start with
      | none =>
          refine ih.trans ?_
          constructor
          · rintro ⟨index, above, below, found, first⟩
            refine ⟨index, by omega, by omega, found, fun earlier from_ below => ?_⟩
            rcases Nat.eq_or_lt_of_le from_ with rfl | later
            · exact answered
            · exact first earlier later below
          · rintro ⟨index, above, below, found, first⟩
            rcases Nat.eq_or_lt_of_le above with rfl | later
            · rw [found] at answered
              cases answered
            · exact ⟨index, later, by omega, found, fun earlier from_ below => first earlier (by omega) below⟩
      | some other =>
          constructor
          · rintro ⟨⟩
            exact ⟨start, Nat.le_refl _, by omega, answered, fun earlier above below => by omega⟩
          · rintro ⟨index, above, _, found, first⟩
            rcases Nat.eq_or_lt_of_le above with rfl | later
            · rw [← found, answered]
            · rw [first start (Nat.le_refl _) later] at answered
              cases answered

end AutismOS.Library
