import AutismOS.Frames.Ranges
import Mathlib.Data.Finset.Lattice.Fold
import Mathlib.Order.Interval.Finset.Nat

namespace AutismOS.Frames

open AutismOS.Library

variable {Caller : Type u} [DecidableEq Caller]

/-! Frames are held by one caller at a time. -/

/-- The allocator together with the frames that each caller was given and still holds. -/
structure Holders (Caller : Type u) where
  pmm : Pmm
  held : Caller → Finset Nat

/-- The calls of one caller. -/
inductive FrameCall (Caller : Type u) where
  | allocFrame (caller : Caller)
  | allocFrames (caller : Caller) (count : Nat)
  | freeFrame (caller : Caller) (frame : Nat)
  | freeFrames (caller : Caller) (start count : Nat)

/-- The frames that a result stands for; 0 is a failure. -/
def grantedFrames (start count : Nat) : Finset Nat := if start = 0 then ∅ else Finset.Ico start (start + count)

/-- The frames that `pmm_free_frames` goes through. -/
def rangeFrames (start count : Nat) : Finset Nat := (Finset.range count).image fun i => add32 start i

/-- The number of frames that a call asks for. -/
def FrameCall.count : FrameCall Caller → Nat
  | .allocFrame _ => 1
  | .allocFrames _ count => count
  | .freeFrame _ _ => 0
  | .freeFrames _ _ _ => 0

/-- Performs a call; the result is the returned frame, 0 where nothing is returned. -/
def frameCall (state : Holders Caller) : FrameCall Caller → Nat × Holders Caller
  | .allocFrame caller =>
      let (start, pmm) := pmmAllocFrame state.pmm
      (start, ⟨pmm, Function.update state.held caller (state.held caller ∪ grantedFrames start 1)⟩)
  | .allocFrames caller count =>
      let (start, pmm) := pmmAllocFrames state.pmm count
      (start, ⟨pmm, Function.update state.held caller (state.held caller ∪ grantedFrames start count)⟩)
  | .freeFrame caller frame =>
      (0, ⟨pmmFreeFrame state.pmm frame, Function.update state.held caller ((state.held caller).erase frame)⟩)
  | .freeFrames caller start count =>
      (0, ⟨pmmFreeFrames state.pmm start count,
        Function.update state.held caller (state.held caller \ rangeFrames start count)⟩)

def frameStep (state : Holders Caller) (call : FrameCall Caller) : Option (Holders Caller) :=
  some (frameCall state call).2

/-- Callers free only frames that they hold. -/
def Honest (state : Holders Caller) : FrameCall Caller → Prop
  | .freeFrame caller frame => frame ∈ state.held caller
  | .freeFrames caller start count => rangeFrames start count ⊆ state.held caller
  | _ => True

/-- No frame has two holders, and a held frame is a real one that is marked used. -/
structure Exclusive (state : Holders Caller) : Prop where
  disjoint : ∀ left right, left ≠ right → Disjoint (state.held left) (state.held right)
  real : ∀ caller, ∀ frame ∈ state.held caller,
    frame ≠ 0 ∧ frame < state.pmm.totalFrames ∧ state.pmm.bitmap.get frame = true

variable {state booted after : Holders Caller} {pmm : Pmm} {calls : List (FrameCall Caller)}
variable {call : FrameCall Caller} {caller : Caller} {frame start count memSize : Nat}

/-- The frames that a successful allocation returns were free. -/
theorem Grant.fresh {result : Nat × Pmm} (grant : Grant pmm count result)
    (granted : frame ∈ grantedFrames result.1 count) :
    frame ≠ 0 ∧ frame < pmm.totalFrames ∧ pmm.bitmap.get frame = false ∧
      result.2.bitmap.get frame = true := by
  cases grant with
  | refused => simp [grantedFrames] at granted
  | granted start positive inside free =>
      have nonNull : start ≠ 0 := by omega
      simp only [grantedFrames, nonNull, if_false, Finset.mem_Ico] at granted
      refine ⟨by omega, by omega, free frame granted.1 granted.2, ?_⟩
      simp [grabbed, get_setRange, granted]

theorem Grant.keeps {result : Nat × Pmm} (grant : Grant pmm count result)
    (marked : pmm.bitmap.get frame = true) : result.2.bitmap.get frame = true := by
  cases grant with
  | refused => exact marked
  | granted start => simp [grabbed, get_setRange, marked]

theorem Grant.totalFrames {result : Nat × Pmm} (grant : Grant pmm count result) :
    result.2.totalFrames = pmm.totalFrames := by
  cases grant <;> rfl

/-- A caller that is given fresh frames shares none of them. -/
theorem Exclusive.grant {result : Nat × Pmm} {held : Caller → Finset Nat} (exclusive : Exclusive state)
    (grant : Grant state.pmm count result)
    (own : held caller = state.held caller ∪ grantedFrames result.1 count)
    (others : ∀ other, other ≠ caller → held other = state.held other) : Exclusive ⟨result.2, held⟩ := by
  have unheld (other : Caller) : Disjoint (state.held other) (grantedFrames result.1 count) := by
    refine Finset.disjoint_left.mpr fun frame held granted => ?_
    have marked := (exclusive.real other frame held).2.2
    rw [(grant.fresh granted).2.2.1] at marked
    exact absurd marked (by decide)
  have apart (other : Caller) (different : other ≠ caller) : Disjoint (held other) (held caller) := by
    rw [own, others other different, Finset.disjoint_union_right]
    exact ⟨exclusive.disjoint other caller different, unheld other⟩
  constructor
  · intro left right different
    change Disjoint (held left) (held right)
    by_cases isLeft : left = caller
    · rw [isLeft]
      exact (apart right fun isRight => different (isLeft.trans isRight.symm)).symm
    · by_cases isRight : right = caller
      · rw [isRight]
        exact apart left isLeft
      · rw [others left isLeft, others right isRight]
        exact exclusive.disjoint left right different
  · intro holder frame member
    change frame ∈ held holder at member
    have kept (old : frame ∈ state.held holder) : frame ≠ 0 ∧ frame < result.2.totalFrames ∧
        result.2.bitmap.get frame = true := by
      obtain ⟨positive, inside, marked⟩ := exclusive.real holder frame old
      rw [grant.totalFrames]
      exact ⟨positive, inside, grant.keeps marked⟩
    by_cases isCaller : holder = caller
    · rw [isCaller, own] at member
      rcases Finset.mem_union.mp member with old | granted
      · exact kept (isCaller ▸ old)
      · obtain ⟨positive, inside, _, marked⟩ := grant.fresh granted
        rw [grant.totalFrames]
        exact ⟨positive, inside, marked⟩
    · rw [others holder isCaller] at member
      exact kept member

/-- Marking frames free that only `caller` held. -/
theorem Exclusive.release {released : Finset Nat} {held : Caller → Finset Nat}
    (exclusive : Exclusive state) (owned : released ⊆ state.held caller)
    (own : held caller = state.held caller \ released)
    (others : ∀ other, other ≠ caller → held other = state.held other)
    (sameTotal : pmm.totalFrames = state.pmm.totalFrames)
    (kept : ∀ frame, frame ∉ released → state.pmm.bitmap.get frame = true → pmm.bitmap.get frame = true) :
    Exclusive ⟨pmm, held⟩ := by
  have smaller (holder : Caller) : held holder ⊆ state.held holder := by
    by_cases isCaller : holder = caller
    · rw [isCaller, own]
      exact Finset.sdiff_subset
    · rw [others holder isCaller]
  constructor
  · intro left right different
    exact Finset.disjoint_of_subset_left (smaller left)
      (Finset.disjoint_of_subset_right (smaller right) (exclusive.disjoint left right different))
  · intro holder frame member
    change frame ∈ held holder at member
    obtain ⟨positive, inside, marked⟩ := exclusive.real holder frame (smaller holder member)
    refine ⟨positive, sameTotal ▸ inside, kept frame (fun gone => ?_) marked⟩
    by_cases isCaller : holder = caller
    · rw [isCaller, own] at member
      exact (Finset.mem_sdiff.mp member).2 gone
    · have apart := exclusive.disjoint holder caller isCaller
      exact Finset.disjoint_left.mp apart (smaller holder member) (owned gone)

theorem pmmMarkFree_keeps {other : Nat} (different : other ≠ frame) :
    (pmmMarkFree pmm frame).bitmap.get other = pmm.bitmap.get other :=
  pmmMarkFree_marking.other pmm frame other (Or.inl different)

theorem pmmMarkFree_totalFrames : (pmmMarkFree pmm frame).totalFrames = pmm.totalFrames :=
  (pmmMarkFree_marking.sizes pmm frame).1

/-- Freeing a range leaves the marks of all other frames. -/
theorem pmmFreeFrames_keeps {other : Nat} (outside : other ∉ rangeFrames start count) :
    (pmmFreeFrames pmm start count).bitmap.get other = pmm.bitmap.get other := by
  apply pmmMarkFree_marking.outside (Nat.mod_lt _ (by decide))
  intro i below same
  refine outside (Finset.mem_image.mpr ⟨i, Finset.mem_range.mpr below, ?_⟩)
  unfold add32 at *
  omega

theorem pmmFreeFrames_totalFrames : (pmmFreeFrames pmm start count).totalFrames = pmm.totalFrames :=
  (pmmMarkFree_marking.sizes_range pmm (start % 2 ^ 32) count).1

/-- An honest call keeps the frames apart. -/
theorem frameCall_exclusive (accounted : Accounted state.pmm) (exclusive : Exclusive state)
    (honest : Honest state call) :
    Accounted (frameCall state call).2.pmm ∧ Exclusive (frameCall state call).2 := by
  cases call with
  | allocFrame caller =>
      have grant := pmmAllocFrame_grant state.pmm
      exact ⟨grant.accounted accounted, exclusive.grant grant (Function.update_self ..)
        fun other different => Function.update_of_ne different ..⟩
  | allocFrames caller count =>
      have grant := pmmAllocFrames_grant accounted count
      exact ⟨grant.accounted accounted, exclusive.grant grant (Function.update_self ..)
        fun other different => Function.update_of_ne different ..⟩
  | freeFrame caller frame =>
      refine ⟨accounted.markFree frame, exclusive.release (Finset.singleton_subset_iff.mpr honest) ?_
        (fun other different => Function.update_of_ne different ..) pmmMarkFree_totalFrames ?_⟩
      · exact (Function.update_self ..).trans (Finset.erase_eq _ _)
      · intro other outside marked
        rw [pmmFreeFrame, pmmMarkFree_keeps fun same => outside (Finset.mem_singleton.mpr same), marked]
  | freeFrames caller start count =>
      refine ⟨pmmCall_accounted accounted (.freeFrames start count), exclusive.release honest
        (Function.update_self ..) (fun other different => Function.update_of_ne different ..)
        pmmFreeFrames_totalFrames ?_⟩
      intro other outside marked
      rw [pmmFreeFrames_keeps outside, marked]

/-- A call returns only frames that nobody holds. -/
theorem frameCall_unheld (accounted : Accounted state.pmm) (exclusive : Exclusive state)
    (granted : frame ∈ grantedFrames (frameCall state call).1 call.count) (caller : Caller) :
    frame ∉ state.held caller := by
  intro held
  have marked := (exclusive.real caller frame held).2.2
  have free : state.pmm.bitmap.get frame = false := by
    cases call with
    | allocFrame other => exact ((pmmAllocFrame_grant state.pmm).fresh granted).2.2.1
    | allocFrames other count => exact ((pmmAllocFrames_grant accounted count).fresh granted).2.2.1
    | freeFrame => simp [frameCall, grantedFrames] at granted
    | freeFrames => simp [frameCall, grantedFrames] at granted
  rw [free] at marked
  exact absurd marked (by decide)

/-- In every run of honest calls no frame has two holders, and what a call returns
was held by nobody. -/
theorem run_frames_exclusive {storage : Option Bitmap} (fresh : pmm.initialized = false)
    (bounded : memSize < 2 ^ 32) (done : pmmInit pmm memSize storage = (0, booted.pmm))
    (none : ∀ caller, booted.held caller = ∅)
    (run : Run (Guarded Honest (Stepping frameStep)) booted calls after) :
    Exclusive after ∧ ∀ call caller, ∀ frame ∈ grantedFrames (frameCall after call).1 call.count,
      frame ∉ after.held caller := by
  have initial : Exclusive booted := by
    refine ⟨fun left right _ => ?_, fun caller frame held => ?_⟩
    · rw [none left]
      exact Finset.disjoint_empty_left _
    · simp [none caller] at held
  obtain ⟨accounted, exclusive⟩ : Accounted after.pmm ∧ Exclusive after := by
    refine run.invariant (fun state => Accounted state.pmm ∧ Exclusive state) ?_
      ⟨pmmInit_accounted fresh bounded done, initial⟩
    intro before call after ⟨accounted, exclusive⟩ ⟨honest, step⟩
    have same : (frameCall before call).2 = after := Option.some.inj step
    exact same ▸ frameCall_exclusive accounted exclusive honest
  exact ⟨exclusive, fun call caller frame granted => frameCall_unheld accounted exclusive granted caller⟩

/-- Two callers take frames, and the first one gives some back. -/
theorem run_frames_exclusive_two :
    ∃ booted after : Holders Bool, pmmInit blankPmm 0xA000 (some fun _ => 0xFF) = (0, booted.pmm) ∧
      Run (Guarded Honest (Stepping frameStep)) booted
        [.allocFrames true 3, .allocFrame false, .freeFrames true 1 2] after ∧
      Exclusive after ∧ ∀ call caller, ∀ frame ∈ grantedFrames (frameCall after call).1 call.count,
        frame ∉ after.held caller := by
  let booted : Holders Bool := ⟨(pmmInit blankPmm 0xA000 (some fun _ => 0xFF)).2, fun _ => ∅⟩
  have done : pmmInit blankPmm 0xA000 (some fun _ => 0xFF) = (0, booted.pmm) := rfl
  let first := (frameCall booted (.allocFrames true 3)).2
  let second := (frameCall first (.allocFrame false)).2
  have owned : rangeFrames 1 2 ⊆ second.held true := by decide
  have run : Run (Guarded Honest (Stepping frameStep)) booted
      [.allocFrames true 3, .allocFrame false, .freeFrames true 1 2]
      (frameCall second (.freeFrames true 1 2)).2 :=
    .cons ⟨trivial, rfl⟩ (.cons ⟨trivial, rfl⟩ (.single ⟨owned, rfl⟩))
  exact ⟨booted, _, done, run, run_frames_exclusive rfl (by decide) done (fun _ => rfl) run⟩

end AutismOS.Frames
