import AutismOS.Heap.Conservation
import AutismOS.Heap.Statistics

namespace AutismOS.Heap

open AutismOS.Library

variable {heap after booted : Kheap} {arena : Arena} {call : HeapCall} {calls : List HeapCall}
variable {junk remaining : List Nat} {result start size block request : Nat}

/-! Which runs leave no two neighbouring free blocks. -/

/-- The call returns a pointer. -/
def Serves (arena : Arena) (call : HeapCall) : Prop :=
  ∃ ptr ≠ 0, (heapCall arena call).map Prod.fst = some ptr

theorem kmalloc_answer (vacant : Vacant heap junk) (request : Nat) :
    (kmalloc heap request).map Prod.fst =
      some (if request = 0 ∨ heap.size heap.heapStart < alignUp request then 0 else heap.heapStart + headerSize) := by
  by_cases zero : request = 0
  · simp [kmalloc, zero]
  · by_cases large : heap.size heap.heapStart < alignUp request
    · simp [kmalloc_too_large vacant large, large]
    · simp [kmalloc_eq vacant zero (Nat.not_lt.mp large), zero, large]

/-- An allocating call answers what `kmalloc` answers to its request. -/
theorem heapCall_answer (allocates : call.Allocates) (accepts : arena.Accepts call) :
    (heapCall arena call).map Prod.fst =
      if call.request < 2 ^ 32 then (kmalloc arena.heap call.request).map Prod.fst else some 0 := by
  cases call with
  | kmalloc size =>
      have small : (HeapCall.kmalloc size).request < 2 ^ 32 := accepts
      rw [if_pos small, heapCall, Option.map_map]
      rfl
  | kcalloc num size =>
      by_cases large : 2 ^ 32 ≤ num * size
      · have overflows : ¬ (HeapCall.kcalloc num size).request < 2 ^ 32 := Nat.not_lt.mpr large
        rw [if_neg overflows, heapCall, kcalloc_overflow large]
        rfl
      · have small : (HeapCall.kcalloc num size).request < 2 ^ 32 := Nat.not_le.mp large
        rw [if_pos small, heapCall, kcalloc_eq small, Option.map_map, Option.map_map]
        apply congrArg (fun answer => Option.map answer (kmalloc arena.heap (num * size)))
        funext result
        by_cases isNull : result.1 = 0 <;> simp [zeroed, Arena.allocated, isNull]
  | krealloc ptr size =>
      have small : (HeapCall.krealloc ptr size).request < 2 ^ 32 := accepts.2
      have isNull : ptr = 0 := allocates
      rw [if_pos small, heapCall, isNull, krealloc_null, Option.map_map]
      rfl
  | kfree => exact absurd allocates id

/-- Vacant heaps with equal first blocks answer alike. -/
theorem vacant_answers {above : List Nat} (vacant : Vacant heap junk) (vacant' : Vacant after above)
    (sameStart : after.heapStart = heap.heapStart) (sameSize : after.size after.heapStart = heap.size heap.heapStart)
    (allocates : call.Allocates) (accepts : Arena.Accepts ⟨heap, []⟩ call) :
    (heapCall ⟨after, []⟩ call).map Prod.fst = (heapCall ⟨heap, []⟩ call).map Prod.fst := by
  have accepts' : Arena.Accepts ⟨after, []⟩ call := by
    cases call <;> exact accepts
  rw [heapCall_answer allocates accepts, heapCall_answer allocates accepts', kmalloc_answer vacant,
    kmalloc_answer vacant', sameSize, sameStart]

/-- The blocks that lie in the heap: those on the lists, and those met when going
from the first block to the end of each block. -/
inductive Laid (heap : Kheap) : Nat → Prop where
  | first : Laid heap heap.heapStart
  | behind (block : Nat) : Laid heap block → blockEnd heap block < heap.heapEnd →
      Laid heap (blockEnd heap block)
  | free (blocks : List Nat) (block : Nat) : Reaches heap heap.freeList blocks → block ∈ blocks → Laid heap block
  | used (blocks : List Nat) (block : Nat) : Reaches heap heap.usedList blocks → block ∈ blocks → Laid heap block

/-- No two blocks flagged free are neighbours in memory. -/
def Merged (heap : Kheap) : Prop :=
  ∀ left right, Laid heap left → Laid heap right → blockEnd heap left = right →
    ¬ (heap.flags left = kheapFlagFree ∧ heap.flags right = kheapFlagFree)

/-- The heap is one free block again and serves what it served when it was fresh. -/
structure Restored (fresh heap : Kheap) : Prop where
  single : ∃ block, Reaches heap heap.freeList [block] ∧ heap.size block = heap.totalSize - headerSize
  serves : ∀ call : HeapCall, call.Allocates → Arena.Accepts ⟨fresh, []⟩ call → Serves ⟨fresh, []⟩ call →
    Serves ⟨heap, []⟩ call

/-- What coalescing is for, in a state reached from the fresh heap. -/
structure Coalesced (fresh : Kheap) (arena : Arena) : Prop where
  merged : Merged arena.heap
  restored : arena.live = [] → Restored fresh arena.heap

/-- Calls with valid arguments that split no block. -/
def Unsplit (arena : Arena) (call : HeapCall) : Prop :=
  Conserving arena call ∧ arena.KeepsWhole call

instance (arena : Arena) (call : HeapCall) : Decidable (Unsplit arena call) :=
  inferInstanceAs (Decidable (_ ∧ _))

theorem Outcome.keeps_size {after : Arena} (outcome : Outcome arena [] call result after remaining)
    (held : Held arena []) (takes : arena.TakesWhole call) (keeps : arena.KeepsWhole call) :
    after.heap.size arena.heap.heapStart = arena.heap.size arena.heap.heapStart := by
  cases outcome with
  | failed => rfl
  | released _ after _ _ sizes => exact sizes _ (by simp)
  | taken _ after _ allocates small taken => exact (taken.takes_whole takes allocates small).2 _ (by simp)
  | kept => rfl
  | shrunk size _ room positive => exact absurd (held.keeps_whole positive keeps) (Nat.not_lt.mpr room)

/-- A first block that reaches to the end of the heap is the only one. -/
theorem Held.laid (held : Held arena []) (whole : blockEnd arena.heap arena.heap.heapStart = arena.heap.heapEnd)
    (laid : Laid arena.heap block) : block = arena.heap.heapStart := by
  obtain ⟨free, used, fromFree, fromUsed, all⟩ := held.listed
  induction laid with
  | first => rfl
  | behind block _ before ih =>
      rw [ih, whole] at before
      exact absurd before (Nat.lt_irrefl _)
  | free blocks block reached member =>
      have listed : block ∈ free ++ used := List.mem_append_left used (reached.unique fromFree ▸ member)
      rw [all] at listed
      exact List.mem_singleton.mp listed
  | used blocks block reached member =>
      have listed : block ∈ free ++ used := List.mem_append_right free (reached.unique fromUsed ▸ member)
      rw [all] at listed
      exact List.mem_singleton.mp listed

theorem Held.merged (held : Held arena [])
    (whole : blockEnd arena.heap arena.heap.heapStart = arena.heap.heapEnd) : Merged arena.heap := by
  intro left right laidLeft laidRight adjacent
  rw [held.laid whole laidLeft, held.laid whole laidRight, blockEnd, headerSize] at adjacent
  omega

/-- The heap is still the one block that initialization made. -/
structure Undivided (fresh : Kheap) (arena : Arena) : Prop where
  held : Held arena []
  region : SameRegion fresh arena.heap
  size : arena.heap.size arena.heap.heapStart = fresh.size fresh.heapStart
  totalSize : arena.heap.totalSize = fresh.totalSize

theorem Undivided.step {after : Arena} (undivided : Undivided booted arena) (unsplit : Unsplit arena call)
    (step : heapStep arena call = some after) : Undivided booted after := by
  obtain ⟨⟨accepts, clears, takes⟩, keeps⟩ := unsplit
  have held := undivided.held
  obtain ⟨result, remaining, _, outcome⟩ := heapStep_outcome held accepts clears step
  have none : remaining = [] := outcome.no_junk held keeps
  subst none
  constructor
  · exact outcome.held held
  · exact undivided.region.trans outcome.region
  · rw [outcome.region.heapStart, outcome.keeps_size held takes keeps]
    exact undivided.size
  · exact (heapStep_tally held accepts clears step).totalSize.trans undivided.totalSize

theorem Undivided.coalesced (undivided : Undivided booted arena) (vacant : Vacant booted [])
    (ending : blockEnd booted booted.heapStart = booted.heapEnd)
    (total : booted.size booted.heapStart = booted.totalSize - headerSize) : Coalesced booted arena := by
  have region := undivided.region
  have whole : blockEnd arena.heap arena.heap.heapStart = arena.heap.heapEnd := by
    unfold blockEnd at *
    rw [undivided.size, region.heapStart, region.heapEnd]
    exact ending
  constructor
  · exact undivided.held.merged whole
  · intro none
    cases undivided.held with
    | occupied size one _ => simp [none] at one
    | vacant _ restored =>
        have positive := restored.shape.startPositive
        constructor
        · refine ⟨arena.heap.heapStart, ⟨by rw [restored.freeList]; omega, restored.freeList.symm, ?_⟩, ?_⟩
          · exact pointer_eq_none.mp restored.free.2.2
          · rw [undivided.size, undivided.totalSize]
            exact total
        · intro call allocates accepts serves
          obtain ⟨ptr, nonNull, answers⟩ := serves
          refine ⟨ptr, nonNull, ?_⟩
          rw [vacant_answers vacant restored region.heapStart undivided.size allocates accepts]
          exact answers

/-- Every run that splits no block leaves the heap coalesced. -/
theorem run_coalesced (fresh : heap.initialized = false) (done : kheapInit heap start size = (0, booted))
    (bounded : start + size < 2 ^ 32)
    (run : Run (Guarded Unsplit (Stepping heapStep)) ⟨booted, []⟩ calls arena) : Coalesced booted arena := by
  obtain ⟨nonNull, large⟩ := kheapInit_accepted fresh done
  obtain ⟨after, initialized, vacant, startAt, endAt, ending⟩ := kheapInit_vacant fresh nonNull large bounded
  obtain rfl : after = booted := congrArg Prod.snd (initialized.symm.trans done)
  have total : after.size after.heapStart = after.totalSize - headerSize := by
    have recorded : after.totalSize = regionSize start size :=
      congrArg Statistics.totalSize (kheapInit_statistics fresh done)
    rw [recorded]
    omega
  have reached : Undivided after arena := by
    apply run.invariant (Undivided after)
    · intro before call next undivided step
      exact undivided.step step.1 step.2
    · exact ⟨.vacant rfl vacant, .refl after, rfl, rfl⟩
  exact reached.coalesced vacant ending total

/-- Taking almost everything from a heap of 4 KB and giving it back. -/
theorem run_coalesced_whole :
    ∃ booted arena, kheapInit blankHeap 0x100000 0x1000 = (0, booted) ∧
      Run (Guarded Unsplit (Stepping heapStep)) ⟨booted, []⟩ [.kmalloc 0xFC0, .kfree 0x100014] arena ∧
      arena.live = [] ∧ Coalesced booted arena := by
  obtain ⟨booted, done, _⟩ := blankHeap_booted
  have computed : (performAll heapStep (fun arena call => decide (Unsplit arena call))
      ⟨(kheapInit blankHeap 0x100000 0x1000).2, []⟩ [.kmalloc 0xFC0, .kfree 0x100014]).any
        (fun arena => decide (arena.live = [])) = true := by decide +kernel
  rw [done] at computed
  obtain ⟨arena, reached, none⟩ := (Option.any_eq_true _ _).mp computed
  have run := (performAll_restricted reached).mono fun _ _ _ performed => And.imp_left of_decide_eq_true performed
  exact ⟨booted, arena, done, run, of_decide_eq_true none, run_coalesced rfl done (by decide) run⟩

/-- A small allocation strands the rest of the heap, which is not merged when it is freed. -/
theorem kfree_leaves_free_neighbours :
    ∃ booted arena, kheapInit blankHeap 0x100000 0x1000 = (0, booted) ∧
      Run (Guarded Arena.Accepts (Stepping heapStep)) ⟨booted, []⟩ [.kmalloc 16, .kfree 0x100014] arena ∧
      arena.live = [] ∧ ¬ Merged arena.heap ∧ ¬ Restored booted arena.heap := by
  obtain ⟨booted, done, _⟩ := blankHeap_booted
  have computed : (performAll heapStep (fun arena call => decide (arena.Accepts call))
      ⟨(kheapInit blankHeap 0x100000 0x1000).2, []⟩ [.kmalloc 16, .kfree 0x100014]).any
        (fun arena => decide (arena.live = [] ∧ arena.heap.heapStart = 0x100000 ∧ arena.heap.freeList = 0x100000 ∧
          blockEnd arena.heap 0x100000 = 0x100024 ∧ 0x100024 < arena.heap.heapEnd ∧
          arena.heap.flags 0x100000 = kheapFlagFree ∧ arena.heap.flags 0x100024 = kheapFlagFree ∧
          arena.heap.size 0x100000 ≠ arena.heap.totalSize - headerSize)) = true := by decide +kernel
  rw [done] at computed
  obtain ⟨arena, reached, facts⟩ := (Option.any_eq_true _ _).mp computed
  have run := (performAll_restricted reached).mono fun _ _ _ performed => And.imp_left of_decide_eq_true performed
  obtain ⟨none, startAt, listed, firstEnd, inside, first, second, short⟩ := of_decide_eq_true facts
  refine ⟨booted, arena, done, run, none, fun merged => ?_, fun restored => ?_⟩
  · have laid : Laid arena.heap 0x100000 := startAt ▸ Laid.first
    have stranded : Laid arena.heap 0x100024 := by
      have behind := Laid.behind 0x100000 laid
      rw [firstEnd] at behind
      exact behind inside
    exact merged _ _ laid stranded firstEnd ⟨first, second⟩
  · obtain ⟨block, reaches, whole⟩ := restored.single
    have same : block = 0x100000 := reaches.2.1.trans listed
    rw [same] at whole
    exact short whole

end AutismOS.Heap
