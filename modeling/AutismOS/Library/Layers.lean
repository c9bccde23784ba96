namespace AutismOS.Library

/-! Layers that lie on each other, the topmost one last. -/

variable {α : Type u} {covers first second : α → Bool} {index place : Nat} {layers above : List α} {layer : α}

/-- The place of the topmost layer that covers, counted from `index`. -/
def topmost (covers : α → Bool) : Nat → List α → Option Nat
  | _, [] => none
  | index, layer :: above => (topmost covers (index + 1) above).or (if covers layer then some index else none)

theorem topmost_some (found : topmost covers index layers = some place) :
    index ≤ place ∧ ∃ layer, layers[place - index]? = some layer ∧ covers layer = true := by
  induction layers generalizing index with
  | nil => cases found
  | cons layer above ih =>
      rw [topmost, Option.or_eq_some_iff] at found
      rcases found with higher | ⟨_, here⟩
      · obtain ⟨later, upper, isUpper, covered⟩ := ih higher
        have shift : place - index = place - (index + 1) + 1 := by omega
        refine ⟨by omega, upper, ?_, covered⟩
        rw [shift, List.getElem?_cons_succ]
        exact isUpper
      · obtain ⟨covered, rfl⟩ := Option.ite_some_none_eq_some.mp here
        refine ⟨Nat.le_refl _, layer, ?_, covered⟩
        rw [Nat.sub_self, List.getElem?_cons_zero]

theorem topmost_none_iff : topmost covers index layers = none ↔ ∀ layer ∈ layers, covers layer = false := by
  induction layers generalizing index with
  | nil => exact ⟨fun _ _ member => absurd member List.not_mem_nil, fun _ => rfl⟩
  | cons layer above ih =>
      rw [topmost, Option.or_eq_none_iff, ih, List.forall_mem_cons]
      constructor
      · intro both
        obtain ⟨rest, here⟩ := both
        refine ⟨?_, rest⟩
        cases covered : covers layer with
        | false => rfl
        | true =>
            rw [covered] at here
            cases here
      · intro both
        rw [both.1]
        exact ⟨both.2, rfl⟩

/-- Two covers agree about every layer that no covered layer lies on. -/
def Agree (first second : α → Bool) : List α → Prop
  | [] => True
  | layer :: above =>
      Agree first second above ∧
        ((∀ higher ∈ above, first higher = false ∧ second higher = false) → first layer = second layer)

/-- A layer further up is not the one here. -/
theorem topmost_or_eq_iff (higher : topmost first (index + 1) above ≠ none ∨ topmost second (index + 1) above ≠ none) :
    (topmost first (index + 1) above).or (if first layer then some index else none) =
        (topmost second (index + 1) above).or (if second layer then some index else none) ↔
      topmost first (index + 1) above = topmost second (index + 1) above := by
  have apart : ∀ (covers : α → Bool) (place : Nat) (condition : Bool),
      topmost covers (index + 1) above = some place → some place ≠ if condition then some index else none := by
    intro covers place condition found same
    have later := (topmost_some found).1
    cases condition with
    | true =>
        have here : place = index := Option.some.inj same
        omega
    | false => cases same
  cases isFirst : topmost first (index + 1) above with
  | none =>
      cases isSecond : topmost second (index + 1) above with
      | none =>
          rw [isFirst, isSecond] at higher
          exact absurd rfl (higher.elim id id)
      | some place =>
          constructor
          · exact fun same => absurd same.symm (apart second place (first layer) isSecond)
          · exact fun same => by cases same
  | some place =>
      cases isSecond : topmost second (index + 1) above with
      | none =>
          constructor
          · exact fun same => absurd same (apart first place (second layer) isFirst)
          · exact fun same => by cases same
      | some other => exact Iff.rfl

theorem topmost_eq_iff : topmost first index layers = topmost second index layers ↔ Agree first second layers := by
  induction layers generalizing index with
  | nil => exact ⟨fun _ => trivial, fun _ => rfl⟩
  | cons layer above ih =>
      rw [topmost, topmost, Agree]
      by_cases bare : ∀ higher ∈ above, first higher = false ∧ second higher = false
      · have noFirst : topmost first (index + 1) above = none :=
          topmost_none_iff.mpr fun higher member => (bare higher member).1
        have noSecond : topmost second (index + 1) above = none :=
          topmost_none_iff.mpr fun higher member => (bare higher member).2
        have agree : Agree first second above := ih.mp (noFirst.trans noSecond.symm)
        rw [noFirst, noSecond, Option.none_or, Option.none_or]
        constructor
        · intro same
          refine ⟨agree, fun _ => ?_⟩
          cases isFirst : first layer with
          | true =>
              cases isSecond : second layer with
              | true => rfl
              | false =>
                  rw [isFirst, isSecond] at same
                  cases same
          | false =>
              cases isSecond : second layer with
              | true =>
                  rw [isFirst, isSecond] at same
                  cases same
              | false => rfl
        · intro both
          rw [both.2 bare]
      · have higher : topmost first (index + 1) above ≠ none ∨ topmost second (index + 1) above ≠ none := by
          refine Decidable.or_iff_not_not_and_not.mpr fun neither => bare fun higher member => ?_
          have noFirst := topmost_none_iff.mp (Decidable.not_not.mp neither.1)
          have noSecond := topmost_none_iff.mp (Decidable.not_not.mp neither.2)
          exact ⟨noFirst higher member, noSecond higher member⟩
        rw [topmost_or_eq_iff higher, ih]
        exact ⟨fun agree => ⟨agree, fun absent => absurd absent bare⟩, fun both => both.1⟩

end AutismOS.Library
