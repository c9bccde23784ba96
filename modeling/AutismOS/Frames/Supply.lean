import AutismOS.Frames.Ranges
import Mathlib.Data.Finset.Card

namespace AutismOS.Frames

open AutismOS.Library

variable {pmm booted after : Pmm} {bitmap : Bitmap} {call : PmmCall} {calls : List PmmCall}
variable {frame start count memSize : Nat}

/-! The supply of free frames. -/

/-- The frames that `pmm_alloc_frame` can hand out. -/
def supply (pmm : Pmm) : Finset Nat :=
  (Finset.range pmm.totalFrames).filter fun frame => 0 < frame ∧ pmmIsFrameFree pmm frame

theorem mem_supply : frame ∈ supply pmm ↔
    0 < frame ∧ frame < pmm.totalFrames ∧ pmm.bitmap.get frame = false := by
  rw [supply, Finset.mem_filter, Finset.mem_range, pmmIsFrameFree]
  constructor
  · intro ⟨inside, positive, free⟩
    have notBeyond : ¬ frame ≥ pmm.totalFrames := by omega
    exact ⟨positive, inside, by simpa [notBeyond] using free⟩
  · intro ⟨positive, inside, free⟩
    have notBeyond : ¬ frame ≥ pmm.totalFrames := by omega
    exact ⟨inside, positive, by simp [notBeyond, free]⟩

theorem firstFree_none (none : firstFree bitmap start count = 0) (positive : 0 < start)
    (above : start ≤ frame) (below : frame < start + count) : bitmap.get frame = true := by
  induction count generalizing start with
  | zero => omega
  | succ count ih =>
      cases marked : bitmap.get start with
      | false =>
          simp only [firstFree, marked, Bool.not_false, if_true] at none
          omega
      | true =>
          simp only [firstFree, marked, Bool.not_true, Bool.false_eq_true, if_false] at none
          by_cases isStart : frame = start
          · rw [isStart, marked]
          · exact ih none (by omega) (by omega) (by omega)

/-- A free frame is counted as one. -/
theorem Accounted.freeFrames_pos (accounted : Accounted pmm) (inside : frame < pmm.totalFrames)
    (free : pmm.bitmap.get frame = false) : pmm.freeFrames ≠ 0 := by
  have counted : (pmm.bitmap.set frame).count pmm.totalFrames =
      pmm.bitmap.count pmm.totalFrames + if frame < pmm.totalFrames then 1 else 0 := Bitmap.count_set free
  have room : (pmm.bitmap.set frame).count pmm.totalFrames ≤ pmm.totalFrames := Bitmap.count_le
  have used := accounted.used
  have total := accounted.total
  rw [if_pos inside] at counted
  omega

theorem supply_grabbed : supply (grabbed pmm frame 1) = (supply pmm).erase frame := by
  ext other
  rw [Finset.mem_erase, mem_supply, mem_supply]
  have total : (grabbed pmm frame 1).totalFrames = pmm.totalFrames := rfl
  rw [get_grabbed_one, total]
  by_cases same : other = frame
  · subst same
    simp
  · rw [decide_eq_false same, Bool.false_or]
    exact (and_iff_right same).symm

theorem card_supply_grabbed (member : frame ∈ supply pmm) :
    (supply (grabbed pmm frame 1)).card + 1 = (supply pmm).card := by
  rw [supply_grabbed]
  exact Finset.card_erase_add_one member

theorem pmmAllocFrames_shape (pmm : Pmm) (count : Nat) :
    pmmAllocFrames pmm count = (0, pmm) ∨ ∃ start, pmmAllocFrames pmm count = (start, grabbed pmm start count) := by
  unfold pmmAllocFrames
  by_cases refused : !pmm.initialized ∨ pmm.freeFrames < count
  · exact Or.inl (if_pos refused)
  · rw [if_neg refused]
    by_cases found : (searchRun pmm.bitmap count 1 (pmm.totalFrames - 1) 0 0).1 ≥ count
    · exact Or.inr ⟨_, if_pos found⟩
    · exact Or.inl (if_neg found)

/-- The number of frames that `pmm_alloc_frame` can hand out one after another. -/
def allocatable (pmm : Pmm) : Nat := if pmm.initialized then min pmm.freeFrames (supply pmm).card else 0

theorem firstFree_zero_iff : firstFree pmm.bitmap 1 (pmm.totalFrames - 1) = 0 ↔ supply pmm = ∅ := by
  constructor
  · intro none
    apply Finset.eq_empty_of_forall_notMem
    intro frame member
    obtain ⟨positive, inside, free⟩ := mem_supply.mp member
    have marked := firstFree_none none (by decide) positive (by omega : frame < 1 + (pmm.totalFrames - 1))
    rw [free] at marked
    cases marked
  · intro empty
    by_contra found
    obtain ⟨above, below, free⟩ := firstFree_spec rfl found
    have member : firstFree pmm.bitmap 1 (pmm.totalFrames - 1) ∈ supply pmm :=
      mem_supply.mpr ⟨above, by omega, free⟩
    rw [empty] at member
    exact absurd member (Finset.notMem_empty _)

theorem pmmAllocFrame_fails_iff : (pmmAllocFrame pmm).1 = 0 ↔ allocatable pmm = 0 := by
  unfold pmmAllocFrame allocatable
  cases ready : pmm.initialized with
  | false => simp
  | true =>
      by_cases exhausted : pmm.freeFrames = 0
      · simp [exhausted]
      · by_cases none : firstFree pmm.bitmap 1 (pmm.totalFrames - 1) = 0
        · simp [exhausted, none, firstFree_zero_iff.mp none]
        · have some : ¬ (supply pmm).card = 0 := by
            rw [Finset.card_eq_zero, ← firstFree_zero_iff]
            exact none
          simp [exhausted, none, some]

/-- Allocating a frame fails only when none is left. -/
theorem supply_empty (accounted : Accounted pmm) (initialized : pmm.initialized = true)
    (failed : (pmmAllocFrame pmm).1 = 0) : supply pmm = ∅ := by
  have none := pmmAllocFrame_fails_iff.mp failed
  rw [allocatable, if_pos initialized, Nat.min_eq_zero_iff] at none
  rcases none with exhausted | empty
  · apply Finset.eq_empty_of_forall_notMem
    intro frame member
    obtain ⟨_, inside, free⟩ := mem_supply.mp member
    exact accounted.freeFrames_pos inside free exhausted
  · exact Finset.card_eq_zero.mp empty

theorem allocatable_grabbed (member : frame ∈ supply pmm) (some : allocatable pmm ≠ 0)
    (small : pmm.freeFrames < 2 ^ 32) : allocatable (grabbed pmm frame 1) + 1 = allocatable pmm := by
  have card := card_supply_grabbed member
  have ready : (grabbed pmm frame 1).initialized = pmm.initialized := rfl
  unfold allocatable at some ⊢
  rw [ready]
  cases initialized : pmm.initialized with
  | false => simp [initialized] at some
  | true =>
      have positive : pmm.freeFrames ≠ 0 := by
        intro none
        simp [initialized, none] at some
      have left : (grabbed pmm frame 1).freeFrames = pmm.freeFrames - 1 := sub32_of_le (by omega) small
      simp only [if_true, left]
      omega

/-- What marking frames used and marking one free leave alone, every call does. -/
theorem pmmCall_kept {Field : Type v} (field : Pmm → Field)
    (grabs : ∀ pmm start count, field (grabbed pmm start count) = field pmm)
    (drops : ∀ pmm frame, field (dropped pmm frame) = field pmm) (pmm : Pmm) (call : PmmCall) :
    field (pmmCall pmm call).2 = field pmm := by
  have used (pmm : Pmm) (frame : Nat) : field (pmmMarkUsed pmm frame) = field pmm := by
    rcases pmmMarkUsed_cases pmm frame with same | ⟨_, _, marked⟩
    · rw [same]
    · rw [marked, grabs]
  have free (pmm : Pmm) (frame : Nat) : field (pmmMarkFree pmm frame) = field pmm := by
    rcases pmmMarkFree_cases pmm frame with same | ⟨_, _, freed⟩
    · rw [same]
    · rw [freed, drops]
  have range {mark : Pmm → Nat → Pmm} (keeps : ∀ pmm frame, field (mark pmm frame) = field pmm) (start count : Nat) :
      field (markRange mark pmm start count) = field pmm := by
    apply markRange_invariant fun after => field after = field pmm
    · intro before frame same
      exact (keeps before frame).trans same
    · rfl
  have granted {count : Nat} {result : Nat × Pmm} (grant : Grant pmm count result) : field result.2 = field pmm := by
    cases grant with
    | refused => rfl
    | granted start => exact grabs pmm start count
  cases call with
  | markUsed frame => exact used pmm frame
  | markFree frame => exact free pmm frame
  | markRangeUsed start count => exact range used (start % 2 ^ 32) count
  | markRangeFree start count => exact range free (start % 2 ^ 32) count
  | allocFrame => exact granted (pmmAllocFrame_grant pmm)
  | allocFrames count =>
      change field (pmmAllocFrames pmm count).2 = field pmm
      rcases pmmAllocFrames_shape pmm count with refused | ⟨start, granted⟩
      · rw [refused]
      · rw [granted]
        exact grabs pmm start count
  | freeFrame frame => exact free pmm frame
  | freeFrames start count => exact range free (start % 2 ^ 32) count

theorem pmmCall_totalFrames (pmm : Pmm) (call : PmmCall) :
    (pmmCall pmm call).2.totalFrames = pmm.totalFrames := by
  apply pmmCall_kept Pmm.totalFrames
  · intro pmm start count
    rfl
  · intro pmm frame
    rfl

theorem pmmCall_initialized (pmm : Pmm) (call : PmmCall) :
    (pmmCall pmm call).2.initialized = pmm.initialized := by
  apply pmmCall_kept Pmm.initialized
  · intro pmm start count
    rfl
  · intro pmm frame
    rfl

/-- After initialization and any calls, all frames have 32-bit addresses. -/
theorem run_addressable {storage : Option Bitmap} (fresh : pmm.initialized = false)
    (bounded : memSize < 2 ^ 32) (done : pmmInit pmm memSize storage = (0, booted))
    (run : Run (Stepping pmmStep) booted calls after) :
    Accounted after ∧ after.totalFrames ≤ 2 ^ 20 := by
  refine run.invariant (fun pmm => Accounted pmm ∧ pmm.totalFrames ≤ 2 ^ 20) ?_
    ⟨pmmInit_accounted fresh bounded done, ?_⟩
  · intro before call after ⟨accounted, small⟩ step
    have same : (pmmCall before call).2 = after := Option.some.inj step
    subst same
    exact ⟨pmmCall_accounted accounted call, (pmmCall_totalFrames before call).trans_le small⟩
  · obtain ⟨bitmap, rfl⟩ := pmmInit_eq fresh done
    change memSize / 4096 ≤ 2 ^ 20
    omega

/-- Marking a range uses exactly the frames in it. -/
theorem get_markRangeUsed (pmm : Pmm) (frame : Nat) (bounded : start + count < 2 ^ 32) :
    (markRange pmmMarkUsed pmm start count).bitmap.get frame =
        (decide (start ≤ frame ∧ frame < start + count ∧ frame < pmm.totalFrames) || pmm.bitmap.get frame) ∧
      (markRange pmmMarkUsed pmm start count).totalFrames = pmm.totalFrames ∧
      (markRange pmmMarkUsed pmm start count).initialized = pmm.initialized := by
  refine ⟨?_, pmmMarkUsed_marking.sizes_range pmm start count⟩
  have small : start < 2 ^ 32 := by omega
  by_cases marked : start ≤ frame ∧ frame < start + count ∧ frame < pmm.totalFrames
  · have reached : ∃ i < count, frame = add32 start i :=
      ⟨frame - start, by omega, by unfold add32; omega⟩
    rw [decide_eq_true marked, Bool.true_or, pmmMarkUsed_marking.inside small marked.2.2 reached]
  · rw [decide_eq_false marked, Bool.false_or]
    by_cases beyond : pmm.totalFrames ≤ frame
    · exact pmmMarkUsed_marking.beyond beyond
    · apply pmmMarkUsed_marking.outside small
      intro i below same
      unfold add32 at same
      omega

/-- Memory of 16 MiB whose first 4 MiB are in use. -/
def kernelPmm : Pmm := pmmMarkRangeUsed sparePmm 0 1024

theorem kernelPmm_get (frame : Nat) :
    kernelPmm.bitmap.get frame = (decide (frame < 1024) || sparePmm.bitmap.get frame) ∧
      kernelPmm.totalFrames = 4096 ∧ kernelPmm.initialized = true := by
  have isRange : kernelPmm = markRange pmmMarkUsed sparePmm 0 1024 := by
    rw [kernelPmm, pmmMarkRangeUsed, Nat.zero_mod]
  have inMemory : sparePmm.totalFrames = 4096 := rfl
  have small : 0 + 1024 < 2 ^ 32 := by decide
  obtain ⟨bit, total, initialized⟩ := get_markRangeUsed sparePmm frame small
  have range : (0 ≤ frame ∧ frame < 0 + 1024 ∧ frame < sparePmm.totalFrames) ↔ frame < 1024 := by
    rw [inMemory]
    omega
  rw [decide_eq_decide.mpr range] at bit
  rw [isRange]
  exact ⟨bit, total.trans inMemory, initialized⟩

end AutismOS.Frames
