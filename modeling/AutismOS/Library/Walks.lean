import AutismOS.Library.Links
import Mathlib.Logic.Relation

namespace AutismOS.Library

namespace Links

/-! Walks along `next` alone.

A damaged list may still be followed forwards although its back links are wrong or
its end is missing, so walks say less than `Threads`: they only fix which nodes
are met and in which order.
-/

variable {ι : Type u} {links changed : Links ι} {head before after : Option ι}
variable {node other first target : ι} {nodes front back : List ι}

/-- Following `next` from `head` visits `nodes` in this order, and then maybe others. -/
def Visits (links : Links ι) : Option ι → List ι → Prop
  | _, [] => True
  | head, node :: rest => head = some node ∧ links.Visits (links.next node) rest

/-- Where a walk along the given nodes arrives. -/
def onward (links : Links ι) : Option ι → List ι → Option ι
  | head, [] => head
  | _, node :: rest => links.onward (links.next node) rest

theorem visits_append :
    links.Visits head (front ++ back) ↔ links.Visits head front ∧ links.Visits (links.onward head front) back := by
  induction front generalizing head with
  | nil => simp [Visits, onward]
  | cons first rest ih => simp [Visits, onward, ih, and_assoc]

theorem Visits.frame (visits : links.Visits head nodes)
    (same : ∀ node ∈ nodes, changed.next node = links.next node) : changed.Visits head nodes := by
  induction nodes generalizing head with
  | nil => trivial
  | cons first rest ih =>
      obtain ⟨start, remaining⟩ := visits
      refine ⟨start, ?_⟩
      rw [same first (by simp)]
      exact ih remaining fun other member => same other (by simp [member])

theorem onward_frame (same : ∀ node ∈ nodes, changed.next node = links.next node) :
    changed.onward head nodes = links.onward head nodes := by
  induction nodes generalizing head with
  | nil => rfl
  | cons first rest ih =>
      simp only [onward, same first (by simp)]
      exact ih fun other member => same other (by simp [member])

theorem Stretch.visits (stretch : links.Stretch after before head nodes) : links.Visits head nodes := by
  induction nodes generalizing before head with
  | nil => trivial
  | cons first rest ih =>
      obtain ⟨start, _, remaining⟩ := stretch
      exact ⟨start, ih remaining⟩

theorem Visits.reaches (visits : links.Visits (some first) nodes) (member : target ∈ nodes) :
    Relation.ReflTransGen (fun source following => links.next source = some following) first target := by
  induction nodes generalizing first with
  | nil => simp at member
  | cons node rest ih =>
      obtain ⟨start, remaining⟩ := visits
      obtain rfl := Option.some.inj start
      rcases List.mem_cons.mp member with same | inRest
      · rw [same]
      · cases link : links.next first with
        | none =>
            cases rest with
            | nil => simp at inRest
            | cons second others =>
                rw [link] at remaining
                exact absurd remaining.1 (by simp)
        | some following =>
            rw [link] at remaining
            exact Relation.ReflTransGen.head link (ih remaining inRest)

/-- One step along `next` that starts neither at `node` nor at the node it points back to. -/
def StepsPast (links : Links ι) (node source following : ι) : Prop :=
  links.next source = some following ∧ source ≠ node ∧ links.prev node ≠ some source

/-- A walk that avoids both. -/
def WalksPast (links : Links ι) (node : ι) : ι → ι → Prop := Relation.ReflTransGen (links.StepsPast node)

variable [DecidableEq ι]

theorem unlink_next_self : (links.unlink node).next node = none := by
  simp [unlink]

theorem StepsPast.unlink {source following : ι} (step : links.StepsPast node source following) :
    (links.unlink node).next source = some following := by
  rw [unlink_next_of_ne step.2.1 step.2.2]
  exact step.1

theorem WalksPast.visits (walk : links.WalksPast node first target)
    (visits : (links.unlink node).Visits (some target) nodes) :
    ∃ between, (links.unlink node).Visits (some first) (between ++ nodes) := by
  induction walk using Relation.ReflTransGen.head_induction_on with
  | refl => exact ⟨[], visits⟩
  | head step _ ih =>
      obtain ⟨between, rest⟩ := ih
      refine ⟨_ :: between, rfl, ?_⟩
      rw [step.unlink]
      exact rest

/-- What is met behind the successor of the node that was taken out was met behind it before: a walk that
comes back to the place in front of the node starts over. -/
theorem Visits.walksPast (successor : links.next node = some first)
    (visits : (links.unlink node).Visits (some first) nodes) (member : target ∈ nodes) :
    links.WalksPast node first target := by
  have either (source : ι) (reaches : Relation.ReflTransGen
      (fun source following => (links.unlink node).next source = some following) source target) :
      links.WalksPast node source target ∨ links.WalksPast node first target := by
    induction reaches using Relation.ReflTransGen.head_induction_on with
    | refl => exact Or.inl Relation.ReflTransGen.refl
    | @head source following step _ ih =>
        have notNode : source ≠ node := fun same => by
          rw [same, unlink_next_self] at step
          contradiction
        by_cases previous : links.prev node = some source
        · rw [unlink_next_of_prev notNode previous, successor] at step
          obtain rfl := Option.some.inj step
          exact Or.inr (ih.elim id id)
        · rw [unlink_next_of_ne notNode previous] at step
          exact ih.imp_left fun walk => Relation.ReflTransGen.head ⟨step, notNode, previous⟩ walk
  exact (either first (visits.reaches member)).elim id id

end Links

end AutismOS.Library
