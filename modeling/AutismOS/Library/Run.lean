namespace AutismOS.Library

/-! Finite executions of a labelled transition relation.

A client instantiates `step` with its own relation, or with a guarded version
of it when only some actions are allowed, and derives facts about whole
executions from facts about one step.
-/

/-- Performing `actions` in order leads from the first state to the last. -/
inductive Run (step : σ → α → σ → Prop) : σ → List α → σ → Prop where
  | nil (state : σ) : Run step state [] state
  | cons {before middle after : σ} {action : α} {rest : List α} :
      step before action middle → Run step middle rest after →
      Run step before (action :: rest) after

variable {σ : Type u} {α : Type v} {step : σ → α → σ → Prop}

/-- A property that one step preserves holds at the end of every execution. -/
theorem Run.invariant {before after : σ} {actions : List α}
    (run : Run step before actions after) (holds : σ → Prop)
    (preserved : ∀ before action after, holds before → step before action after → holds after)
    (initial : holds before) : holds after := by
  induction run with
  | nil state => exact initial
  | cons performed _ ih => exact ih (preserved _ _ _ initial performed)

theorem Run.append {before middle after : σ} {front back : List α}
    (first : Run step before front middle) (second : Run step middle back after) :
    Run step before (front ++ back) after := by
  induction first with
  | nil state => exact second
  | cons performed _ ih => exact .cons performed (ih second)

theorem Run.single {before after : σ} {action : α} (performed : step before action after) :
    Run step before [action] after :=
  .cons performed (.nil after)

/-- An execution of steps that are also steps of another relation. -/
theorem Run.mono {other : σ → α → σ → Prop} {before after : σ} {actions : List α}
    (run : Run step before actions after)
    (weaker : ∀ before action after, step before action after → other before action after) :
    Run other before actions after := by
  induction run with
  | nil state => exact .nil state
  | cons performed _ ih => exact .cons (weaker _ _ _ performed) ih

/-- A property of the last state that the first does not have appears in some step. -/
theorem Run.becomes {before after : σ} {actions : List α} (run : Run step before actions after)
    (holds : σ → Prop) (reached : holds after) :
    holds before ∨ ∃ front action back middle next, actions = front ++ action :: back ∧
      Run step before front middle ∧ ¬ holds middle ∧ step middle action next ∧ holds next ∧
      Run step next back after := by
  induction run with
  | nil state => exact Or.inl reached
  | @cons start middle _ action rest performed tail ih =>
      rcases ih reached with held | ⟨front, later, back, source, target, split, run, lacks, step, gains, tail⟩
      · by_cases already : holds start
        · exact Or.inl already
        · exact Or.inr ⟨[], action, rest, start, middle, rfl, .nil start, already, performed, held, tail⟩
      · exact Or.inr ⟨action :: front, later, back, source, target, by rw [split]; rfl,
          .cons performed run, lacks, step, gains, tail⟩

/-- What only grows along an execution stays below a bound that it keeps at the end. -/
theorem Run.bounded {bound : Nat} {before after : σ} {actions : List α}
    (run : Run step before actions after) (measure : σ → Nat)
    (grows : ∀ before action after, step before action after → measure before ≤ measure after)
    (small : measure after < bound) :
    Run (fun before action next => step before action next ∧ measure next < bound) before actions after ∧
      measure before < bound := by
  induction run with
  | nil state => exact ⟨.nil state, small⟩
  | cons performed _ ih =>
      obtain ⟨rest, middleSmall⟩ := ih small
      exact ⟨.cons ⟨performed, middleSmall⟩ rest, Nat.lt_of_le_of_lt (grows _ _ _ performed) middleSmall⟩

/-- The relation that performs a step only where `guard` allows the action. -/
def Guarded (guard : σ → α → Prop) (step : σ → α → σ → Prop) : σ → α → σ → Prop :=
  fun before action after => guard before action ∧ step before action after

/-- The relation of a step function; an action without a result has no step. -/
def Stepping (step : σ → α → Option σ) : σ → α → σ → Prop :=
  fun before action after => step before action = some after

/-- Performing the actions of a total function one after another. -/
theorem Run.foldl (perform : σ → α → σ) (actions : List α) (state : σ) :
    Run (Guarded (fun _ _ => True) (Stepping fun state action => some (perform state action))) state actions
      (actions.foldl perform state) := by
  induction actions generalizing state with
  | nil => exact .nil state
  | cons action rest ih => exact .cons ⟨trivial, rfl⟩ (ih (perform state action))

/-- In an execution of a total function the guard held where each action was performed. -/
theorem Run.guarded_at {perform : σ → α → σ} {guard : σ → α → Prop} {before after : σ} {front back : List α}
    {action : α} (run : Run (Guarded guard (Stepping fun state action => some (perform state action))) before
      (front ++ action :: back) after) : guard (front.foldl perform before) action := by
  induction front generalizing before with
  | nil =>
      cases run with
      | cons performed _ => exact performed.1
  | cons first rest ih =>
      cases run with
      | cons performed later =>
          cases performed.2
          exact ih later

/-- Executions of a step function in which every step also meets `observed`. -/
abbrev Observed (step : σ → α → Option σ) (observed : σ → α → σ → Prop) : σ → List α → σ → Prop :=
  Run fun before action after => step before action = some after ∧ observed before action after

/-- Executions of a step function in which every action is performed where `guard` allows it. -/
abbrev Restricted (step : σ → α → Option σ) (guard : σ → α → Prop) : σ → List α → σ → Prop :=
  Run (Guarded guard (Stepping step))

/-- When a step meets `observed` where `guard` allows it, and an invariant that this rests on is
kept by such steps, so does every step of an execution within the guard. -/
theorem Run.observed {step : σ → α → Option σ} {guard : σ → α → Prop} {observed : σ → α → σ → Prop}
    {before after : σ} {actions : List α} (run : Restricted step guard before actions after) (holds : σ → Prop)
    (sound : ∀ before action after, holds before → guard before action → step before action = some after →
      observed before action after ∧ holds after)
    (initial : holds before) : Observed step observed before actions after := by
  induction run with
  | nil state => exact .nil state
  | cons performed _ ih =>
      obtain ⟨seen, kept⟩ := sound _ _ _ initial performed.1 performed.2
      exact .cons ⟨performed.2, seen⟩ (ih kept)

/-- When one step meets `observed` exactly where `guard` allows it, and an invariant that this
rests on is kept by such steps, whole executions meet it exactly when they stay within the guard. -/
theorem Run.observed_iff {step : σ → α → Option σ} {valid guard : σ → α → Prop}
    {observed : σ → α → σ → Prop} {before after : σ} {actions : List α}
    (run : Restricted step valid before actions after) (holds : σ → Prop)
    (exact_ : ∀ before action after, holds before → valid before action → step before action = some after →
      (observed before action after ↔ guard before action))
    (kept : ∀ before action after, holds before → valid before action → step before action = some after →
      guard before action → holds after)
    (initial : holds before) :
    Observed step observed before actions after ↔ Restricted step guard before actions after := by
  constructor
  · intro observedRun
    induction run with
    | nil state => exact .nil state
    | cons performed _ ih =>
        cases observedRun with
        | cons seen rest =>
            have same := Option.some.inj (seen.1.symm.trans performed.2)
            subst same
            have allowed := (exact_ _ _ _ initial performed.1 performed.2).mp seen.2
            exact .cons ⟨allowed, seen.1⟩ (ih (kept _ _ _ initial performed.1 performed.2 allowed) rest)
  · intro restrictedRun
    induction run with
    | nil state => exact .nil state
    | cons performed _ ih =>
        cases restrictedRun with
        | cons first rest =>
            have same := Option.some.inj (first.2.symm.trans performed.2)
            subst same
            have seen := (exact_ _ _ _ initial performed.1 performed.2).mpr first.1
            exact .cons ⟨first.2, seen⟩ (ih (kept _ _ _ initial performed.1 performed.2 first.1) rest)

/-- Where the guard looks only at the actions, so does its restriction of an execution. -/
theorem Run.restricted_iff {step : σ → α → Option σ} {valid : σ → α → Prop} {allowed : α → Prop} {before after : σ}
    {actions : List α} (run : Restricted step valid before actions after) :
    Restricted step (fun _ action => allowed action) before actions after ↔ ∀ action ∈ actions, allowed action := by
  induction run with
  | nil state => exact ⟨nofun, fun _ => .nil state⟩
  | cons performed _ ih =>
      constructor
      · intro restricted action member
        cases restricted with
        | cons first rest =>
            have same := Option.some.inj (first.2.symm.trans performed.2)
            subst same
            rcases List.mem_cons.mp member with rfl | later
            · exact first.1
            · exact ih.mp rest action later
      · intro all
        exact .cons ⟨all _ List.mem_cons_self, performed.2⟩
          (ih.mpr fun action member => all action (List.mem_cons_of_mem _ member))

/-- Performing actions one after another, each where `guard` allows it. -/
def performAll (step : σ → α → Option σ) (guard : σ → α → Bool) (state : σ) : List α → Option σ
  | [] => some state
  | action :: rest =>
      if guard state action then (step state action).bind fun next => performAll step guard next rest else none

theorem performAll_restricted {step : σ → α → Option σ} {guard : σ → α → Bool} {before after : σ} {actions : List α}
    (done : performAll step guard before actions = some after) :
    Restricted step (fun state action => guard state action = true) before actions after := by
  induction actions generalizing before with
  | nil =>
      cases done
      exact .nil _
  | cons action rest ih =>
      rw [performAll] at done
      by_cases allowed : guard before action = true
      · rw [if_pos allowed] at done
        obtain ⟨next, performs, later⟩ := Option.bind_eq_some_iff.mp done
        exact .cons ⟨allowed, performs⟩ (ih later)
      · rw [if_neg allowed] at done
        cases done

/-- The last step of an execution starts where the actions before it lead, and is observed. -/
theorem Run.last_observed {step : σ → α → Option σ} {observed : σ → α → σ → Prop} {before after : σ}
    {front : List α} {action : α} (run : Observed step observed before (front ++ [action]) after) :
    ∃ middle, performAll step (fun _ _ => true) before front = some middle ∧ step middle action = some after ∧
      observed middle action after := by
  induction front generalizing before with
  | nil =>
      cases run with
      | cons performed rest =>
          cases rest
          exact ⟨before, rfl, performed⟩
  | cons first front ih =>
      cases run with
      | cons performed rest =>
          obtain ⟨middle, reached, seen⟩ := ih rest
          refine ⟨middle, ?_, seen⟩
          rw [performAll, if_pos rfl, performed.1]
          exact reached

end AutismOS.Library

namespace AutismOS.Library

-- Machines that answer every call, and when two of them cannot be told apart.

variable {σ : Type u} {τ : Type v} {α : Type w} {β : Type x}

/-- The answers to calls one after another, with the last state. -/
def answers (step : σ → α → β × σ) (state : σ) : List α → List β × σ
  | [] => ([], state)
  | call :: rest =>
      let later := answers step (step state call).2 rest
      ((step state call).1 :: later.1, later.2)

/-- Related states give the same answer to a call, and lead to related states. -/
def Simulates (related : σ → τ → Prop) (step : σ → α → β × σ) (abstract : τ → α → β × τ) : Prop :=
  ∀ state view call, related state view →
    (step state call).1 = (abstract view call).1 ∧ related (step state call).2 (abstract view call).2

variable {related : σ → τ → Prop} {step : σ → α → β × σ} {abstract : τ → α → β × τ} {state : σ} {view : τ}

/-- From related states on, the answers to all calls are the same. -/
theorem Simulates.answers (simulates : Simulates related step abstract) (start : related state view) (calls : List α) :
    (Library.answers step state calls).1 = (Library.answers abstract view calls).1 ∧
      related (Library.answers step state calls).2 (Library.answers abstract view calls).2 := by
  induction calls generalizing state view with
  | nil => exact ⟨rfl, start⟩
  | cons call rest ih =>
      obtain ⟨sameAnswer, next⟩ := simulates state view call start
      obtain ⟨sameLater, last⟩ := ih next
      refine ⟨?_, last⟩
      simp only [Library.answers, sameAnswer, sameLater]

end AutismOS.Library
