import Mathlib.Data.Fintype.EquivFin
import Mathlib.Data.Set.Finite.Basic
import Mathlib.Logic.Relation
import Mathlib.Order.WellFounded

namespace AutismOS.Library

/-! A cursor that moves as its place says until it has left a finite range.

Nothing makes the moves go forwards, so the cursor may also come back and never leave.
-/

namespace Cursor

variable {α : Type u}

section Definitions

variable (inside : α → Prop) [DecidablePred inside] (next : α → α)

/-- The places before the cursor has left, for at most `fuel` moves. -/
def trail : Nat → α → Option (List α)
  | 0, place => if inside place then none else some []
  | fuel + 1, place => if inside place then (trail fuel (next place)).map (place :: ·) else some []

omit [DecidablePred inside] in
/-- One move. -/
def Moves (place following : α) : Prop := inside place ∧ next place = following

def Reaches : α → α → Prop := Relation.ReflTransGen (Moves inside next)

/-- No place that the cursor comes to leads back to itself. -/
def Acyclic (start : α) : Prop :=
  ∀ place, Reaches inside next start place → ¬ Relation.TransGen (Moves inside next) place place

end Definitions

variable {inside : α → Prop} {next : α → α} {start place following : α}

theorem Reaches.cases_start (reaches : Reaches inside next start place) :
    place = start ∨ inside start ∧ Reaches inside next (next start) place := by
  rcases Relation.ReflTransGen.cases_head reaches with same | ⟨middle, ⟨here, isNext⟩, rest⟩
  · exact Or.inl same.symm
  · subst isNext
    exact Or.inr ⟨here, rest⟩

theorem Reaches.move (reaches : Reaches inside next start place) (here : inside place) :
    Reaches inside next start (next place) :=
  Relation.ReflTransGen.tail reaches ⟨here, rfl⟩

theorem Reaches.from_next (here : inside start) (reaches : Reaches inside next (next start) place) :
    Reaches inside next start place :=
  Relation.ReflTransGen.head ⟨here, rfl⟩ reaches

theorem Acyclic.from_next (acyclic : Acyclic inside next start) (here : inside start) :
    Acyclic inside next (next start) :=
  fun place reaches => acyclic place (Reaches.from_next here reaches)

/-- A cycle through the start goes through the next place, too. -/
theorem acyclic_of_next (acyclic : Acyclic inside next (next start)) : Acyclic inside next start := by
  intro place reaches cycle
  rcases reaches.cases_start with same | ⟨_, rest⟩
  · subst same
    obtain ⟨middle, ⟨_, isNext⟩, back⟩ := Relation.TransGen.head'_iff.mp cycle
    subst isNext
    exact acyclic place back cycle
  · exact acyclic place rest cycle

theorem acyclic_outside (outside : ¬ inside start) : Acyclic inside next start := by
  intro place reaches cycle
  rcases reaches.cases_start with same | ⟨here, _⟩
  · subst same
    obtain ⟨_, ⟨here, _⟩, _⟩ := Relation.TransGen.head'_iff.mp cycle
    exact outside here
  · exact outside here

theorem not_reaches_outside (outside : ¬ inside start) : ¬ (Reaches inside next start place ∧ inside place) := by
  intro ⟨reaches, within⟩
  rcases reaches.cases_start with same | ⟨here, _⟩
  · exact outside (same ▸ within)
  · exact outside here

variable [DecidablePred inside] {fuel : Nat} {places : List α}

theorem trail_outside (outside : ¬ inside place) : trail inside next fuel place = some [] := by
  cases fuel with
  | zero => exact if_neg outside
  | succ fuel => exact if_neg outside

theorem trail_inside (here : inside place) :
    trail inside next (fuel + 1) place = (trail inside next fuel (next place)).map (place :: ·) :=
  if_pos here

theorem trail_cons (here : inside place) (rest : trail inside next fuel (next place) = some places) :
    trail inside next (fuel + 1) place = some (place :: places) := by
  rw [trail_inside here, rest]
  rfl

/-- What holds where the cursor has left, and of a place when it holds of the next one, holds along a trail. -/
@[elab_as_elim]
theorem trail_induction {motive : α → List α → Prop} (left : ∀ place, ¬ inside place → motive place [])
    (moved : ∀ place rest, inside place → motive (next place) rest → motive place (place :: rest))
    (ends : trail inside next fuel start = some places) : motive start places := by
  induction fuel generalizing start places with
  | zero =>
      by_cases here : inside start
      · exact absurd ((if_pos here).symm.trans ends) (Option.some_ne_none places).symm
      · cases (trail_outside here).symm.trans ends
        exact left start here
  | succ fuel ih =>
      by_cases here : inside start
      · rw [trail_inside here] at ends
        obtain ⟨rest, remaining, rfl⟩ := Option.map_eq_some_iff.mp ends
        exact moved start rest here (ih remaining)
      · cases (trail_outside here).symm.trans ends
        exact left start here

theorem mem_trail (ends : trail inside next fuel start = some places) :
    place ∈ places ↔ Reaches inside next start place ∧ inside place := by
  refine trail_induction (fun start outside => ?_) (fun start rest here ih => ?_) ends
  · exact iff_of_false List.not_mem_nil (not_reaches_outside outside)
  · rw [List.mem_cons, ih]
    constructor
    · rintro (same | ⟨reaches, within⟩)
      · subst same
        exact ⟨Relation.ReflTransGen.refl, here⟩
      · exact ⟨Reaches.from_next here reaches, within⟩
    · rintro ⟨reaches, within⟩
      rcases reaches.cases_start with same | ⟨_, further⟩
      · exact Or.inl same
      · exact Or.inr ⟨further, within⟩

theorem trail_acyclic (ends : trail inside next fuel start = some places) : Acyclic inside next start := by
  refine trail_induction (fun start outside => ?_) (fun start _ _ ih => ?_) ends
  · exact acyclic_outside outside
  · exact acyclic_of_next ih

/-- Among finitely many places, a cursor that does not come back leaves. -/
theorem trail_ends (finite : {place | inside place}.Finite) (acyclic : Acyclic inside next start) :
    ∃ fuel places, trail inside next fuel start = some places := by
  have wellFounded : WellFounded fun (following place : {place | inside place}) =>
      Reaches inside next start place.val ∧ Relation.TransGen (Moves inside next) place.val following.val := by
    have _ := finite.to_subtype
    have irreflexive : Std.Irrefl fun (following place : {place | inside place}) =>
        Reaches inside next start place.val ∧ Relation.TransGen (Moves inside next) place.val following.val :=
      ⟨fun place ⟨reaches, cycle⟩ => acyclic place.val reaches cycle⟩
    have transitive : IsTrans _ fun (following place : {place | inside place}) =>
        Reaches inside next start place.val ∧ Relation.TransGen (Moves inside next) place.val following.val :=
      ⟨fun _ _ _ second first => ⟨first.1, first.2.trans second.2⟩⟩
    exact Finite.wellFounded_of_trans_of_irrefl _
  have leaves (place : {place | inside place}) (reaches : Reaches inside next start place.val) :
      ∃ fuel places, trail inside next fuel place.val = some places := by
    induction place using wellFounded.induction with
    | _ place ih =>
        have here : inside place.val := place.property
        have moved := reaches.move here
        by_cases further : inside (next place.val)
        · have step : Relation.TransGen (Moves inside next) place.val (next place.val) :=
            Relation.TransGen.single ⟨here, rfl⟩
          obtain ⟨fuel, places, rest⟩ := ih ⟨next place.val, further⟩ ⟨reaches, step⟩ moved
          exact ⟨fuel + 1, place.val :: places, trail_cons here rest⟩
        · exact ⟨1, [place.val], trail_cons here (trail_outside further)⟩
  by_cases here : inside start
  · exact leaves ⟨start, here⟩ Relation.ReflTransGen.refl
  · exact ⟨0, [], trail_outside here⟩

/-- Among finitely many places, the cursor leaves exactly when it does not come back to a place. -/
theorem ends_iff (finite : {place | inside place}.Finite) :
    (∃ fuel places, trail inside next fuel start = some places) ↔ Acyclic inside next start := by
  constructor
  · intro ⟨_, _, ends⟩
    exact trail_acyclic ends
  · exact trail_ends finite

end Cursor

end AutismOS.Library
