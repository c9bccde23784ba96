import AutismOS.Heap.Integrity

namespace AutismOS.Heap

open AutismOS.Library

variable {heap after booted : Kheap} {arena : Arena} {call : HeapCall} {calls : List HeapCall}
variable {junk : List Nat} {result start size block request ptr value : Nat} {list : KheapList}

/-! The statistics of the heap. -/

/-- The counters of `kheap_state_t`. -/
structure Statistics where
  totalSize : Nat
  totalAllocated : Nat
  totalFreed : Nat
  numAllocs : Nat
  numFrees : Nat

def Kheap.statistics (heap : Kheap) : Statistics where
  totalSize := heap.totalSize
  totalAllocated := heap.totalAllocated
  totalFreed := heap.totalFreed
  numAllocs := heap.numAllocs
  numFrees := heap.numFrees

def Statistics.allocate (statistics : Statistics) (size : Nat) : Statistics :=
  { statistics with
    totalAllocated := add32 statistics.totalAllocated size
    numAllocs := add32 statistics.numAllocs 1 }

def Statistics.release (statistics : Statistics) (size : Nat) : Statistics :=
  { statistics with
    totalAllocated := sub32 statistics.totalAllocated size
    totalFreed := add32 statistics.totalFreed size
    numFrees := add32 statistics.numFrees 1 }

@[simp] theorem setMagic_statistics : (heap.setMagic block value).statistics = heap.statistics := rfl

@[simp] theorem setFlags_statistics : (heap.setFlags block value).statistics = heap.statistics := rfl

@[simp] theorem setSize_statistics : (heap.setSize block value).statistics = heap.statistics := rfl

@[simp] theorem setNext_statistics : (heap.setNext block value).statistics = heap.statistics := rfl

@[simp] theorem setPrev_statistics : (heap.setPrev block value).statistics = heap.statistics := rfl

@[simp] theorem setHead_statistics : (heap.setHead list value).statistics = heap.statistics := by
  cases list <;> rfl

@[simp] theorem listRemove_statistics : (listRemove heap list block).statistics = heap.statistics := by
  simp [listRemove, apply_ite Kheap.statistics]

@[simp] theorem listPushFront_statistics : (listPushFront heap list block).statistics = heap.statistics := by
  simp [listPushFront, apply_ite Kheap.statistics]

@[simp] theorem splitBlock_statistics : (splitBlock heap block size).statistics = heap.statistics := by
  simp [splitBlock, apply_ite Kheap.statistics]

@[simp] theorem coalesce_statistics : (coalesce heap block).statistics = heap.statistics := by
  simp [coalesce, apply_ite Kheap.statistics]

theorem countAllocation_statistics :
    (countAllocation heap block).statistics = heap.statistics.allocate (heap.size block) := rfl

/-- An allocation counts the size of the first block as it leaves it. -/
theorem kmalloc_statistics (vacant : Vacant heap junk) (nonNull : result ≠ 0)
    (done : kmalloc heap request = some (result, after)) :
    after.statistics = heap.statistics.allocate (after.size heap.heapStart) := by
  have positive : request ≠ 0 := fun zero => by
    simp [kmalloc, zero] at done
    exact nonNull done.1.symm
  by_cases fits : alignUp request ≤ heap.size heap.heapStart
  · rw [kmalloc_eq vacant positive fits] at done
    simp only [Option.some.injEq, Prod.mk.injEq] at done
    rw [← done.2, countAllocation_size, countAllocation_statistics, listPushFront_statistics, takenBlock,
      setFlags_statistics, splitBlock_statistics, listRemove_statistics]
  · rw [kmalloc_too_large vacant (Nat.not_le.mp fits)] at done
    simp only [Option.some.injEq, Prod.mk.injEq] at done
    exact absurd done.1.symm nonNull

theorem release_statistics (heap : Kheap) (size : Nat) :
    Kheap.statistics { heap with
      totalAllocated := sub32 heap.totalAllocated size
      totalFreed := add32 heap.totalFreed size
      numFrees := add32 heap.numFrees 1 } = heap.statistics.release size := rfl

theorem kfree_statistics (occupied : Occupied heap junk) :
    (kfree heap (heap.heapStart + headerSize)).statistics =
      heap.statistics.release (heap.size heap.heapStart) := by
  have size : ((listRemove heap .used heap.heapStart).setFlags heap.heapStart kheapFlagFree).size
      heap.heapStart = heap.size heap.heapStart := by
    have field : (releasedBlock heap).field heap.heapStart .size = _ :=
      releasedBlock_field occupied (occupied.shape.spaced.beside (List.mem_cons_self ..))
    rw [field_of_memory releasedBlock_memory] at field
    exact field.trans (by simp [Kheap.size])
  have released : (releasedBlock heap).statistics =
      ((listRemove heap .used heap.heapStart).setFlags heap.heapStart kheapFlagFree).statistics.release
        (((listRemove heap .used heap.heapStart).setFlags heap.heapStart kheapFlagFree).size heap.heapStart) :=
    release_statistics _ _
  rw [kfree_eq occupied, listPushFront_statistics, released, size, setFlags_statistics, listRemove_statistics]

/-- What a call does to the counters and to the number of live allocations. -/
inductive Tally (before after : Arena) : Prop where
  | idle : after.heap.statistics = before.heap.statistics → after.live.length = before.live.length → Tally before after
  | allocated : before.live = [] → after.live.length = 1 →
      after.heap.statistics = before.heap.statistics.allocate (after.heap.size before.heap.heapStart) →
      Tally before after
  | released : before.live.length = 1 → after.live = [] →
      after.heap.statistics = before.heap.statistics.release (before.heap.size before.heap.heapStart) →
      Tally before after

theorem Tally.refl (arena : Arena) : Tally arena arena := .idle rfl rfl

theorem Tally.totalSize {before after : Arena} (tally : Tally before after) :
    after.heap.totalSize = before.heap.totalSize := by
  cases tally with
  | idle same => exact congrArg Statistics.totalSize same
  | allocated _ _ same => exact congrArg Statistics.totalSize same
  | released _ _ same => exact congrArg Statistics.totalSize same

theorem kmalloc_tally (size : Nat) {answer : Nat × Kheap} (held : Held arena junk)
    (done : kmalloc arena.heap request = some answer) : Tally arena (arena.allocated size answer).2 := by
  obtain ⟨result, after⟩ := answer
  by_cases isNull : result = 0
  · rcases kmalloc_cases held request with failed | ⟨taken, remaining, served, _⟩
    · obtain ⟨rfl, rfl⟩ : 0 = result ∧ arena.heap = after := by simpa [failed] using done
      rw [Arena.allocated, if_pos rfl]
      exact .refl arena
    · rw [served] at done
      simp [isNull, headerSize] at done
  · cases held with
    | vacant none vacant =>
        apply Tally.allocated none
        · simp [Arena.allocated, isNull, none]
        · exact kmalloc_statistics vacant isNull done
    | occupied _ _ occupied =>
        rw [kmalloc_occupied occupied] at done
        simp only [Option.some.injEq, Prod.mk.injEq] at done
        exact absurd done.1.symm isNull

theorem kfree_tally (held : Held arena junk) (valid : ptr = 0 ∨ ptr ∈ arena.live.map Prod.fst) :
    Tally arena ⟨kfree arena.heap ptr, arena.release ptr⟩ := by
  rcases valid with isNull | live
  · subst isNull
    have all : arena.release 0 = arena.live := by
      cases held with
      | vacant none _ => simp [Arena.release, none]
      | occupied size one _ => simp [Arena.release, one, headerSize]
    rw [all, kfree_null]
    exact .refl arena
  · obtain ⟨isFirst, occupied⟩ := held.live_pointer live
    cases held with
    | vacant none _ => simp [none] at live
    | occupied size one _ =>
        apply Tally.released
        · simp [one]
        · simp [Arena.release, one, isFirst]
        · rw [isFirst]
          exact kfree_statistics occupied

theorem kcalloc_tally {num : Nat} {answer : Nat × Kheap} (held : Held arena junk)
    (clears : arena.Clears (.kcalloc num size)) (done : kcalloc arena.heap num size = some answer) :
    Tally arena (arena.allocated (num * size) answer).2 := by
  by_cases large : 2 ^ 32 ≤ num * size
  · rw [kcalloc_overflow large] at done
    cases done
    rw [Arena.allocated, if_pos rfl]
    exact .refl arena
  · have small : num * size < 2 ^ 32 := Nat.not_le.mp large
    rw [kcalloc_eq small] at done
    obtain ⟨⟨result, middle⟩, served, cleared⟩ := Option.map_eq_some_iff.mp done
    have tally := kmalloc_tally (num * size) held served
    rcases kmalloc_cases held (num * size) with failed | ⟨after, remaining, granted, taken⟩
    · obtain ⟨rfl, rfl⟩ : 0 = result ∧ arena.heap = middle := by simpa [failed] using served
      rw [← cleared]
      exact tally
    · obtain ⟨rfl, rfl⟩ : arena.heap.heapStart + headerSize = result ∧ after = middle := by
        simpa [granted] using served
      have nonNull : arena.heap.heapStart + headerSize ≠ 0 := by simp [headerSize]
      have fits : num * size ≤ after.size after.heapStart := taken.clears clears small
      obtain ⟨filled, isFilled⟩ : ∃ filled : Kheap, filled =
          { after with memory := after.memory.fill (after.heapStart + headerSize) 0 (num * size) } := ⟨_, rfl⟩
      obtain ⟨_, _, sizes⟩ := taken.occupied.fill fits isFilled
      have sameSize := sizes after.heapStart List.mem_cons_self
      have counted : filled.statistics = after.statistics := by
        rw [isFilled]
        rfl
      have none : arena.live = [] := taken.live held
      have zeroes : zeroed (num * size) (arena.heap.heapStart + headerSize, after) =
          (arena.heap.heapStart + headerSize, filled) := by
        rw [isFilled]
        simp only [zeroed, if_neg nonNull, taken.region.heapStart]
      rw [taken.region.heapStart] at sameSize
      rw [← cleared, zeroes]
      apply Tally.allocated none
      · simp [Arena.allocated, none, headerSize]
      · change filled.statistics = arena.heap.statistics.allocate (filled.size arena.heap.heapStart)
        rw [counted, sameSize]
        exact kmalloc_statistics taken.vacant nonNull served

theorem krealloc_tally (held : Held arena junk) (live : ptr ∈ arena.live.map Prod.fst)
    {after : Arena} (done : heapCall arena (.krealloc ptr size) = some (result, after)) : Tally arena after := by
  obtain ⟨isFirst, occupied⟩ := held.live_pointer live
  have nonNull : ptr ≠ 0 := by simp [isFirst, headerSize]
  obtain ⟨⟨answer, heap⟩, resized, same⟩ := Option.map_eq_some_iff.mp done
  rw [if_neg nonNull] at same
  by_cases zero : size = 0
  · subst zero
    rw [krealloc_zero nonNull] at resized
    cases resized
    cases same
    exact kfree_tally held (Or.inr live)
  · rw [if_neg zero] at same
    have one : (arena.release ptr).length + 1 = arena.live.length := by
      cases held with
      | vacant none _ => simp [none] at live
      | occupied size one _ => simp [Arena.release, one, isFirst]
    have kept : heap.statistics = arena.heap.statistics := by
      rw [isFirst, krealloc_occupied occupied zero] at resized
      split at resized
      · cases resized
        rfl
      · split at resized
        · cases resized
          rfl
        · cases resized
          exact splitBlock_statistics
    by_cases failed : answer = 0
    · rw [if_pos failed] at same
      cases same
      exact .idle kept rfl
    · rw [if_neg failed] at same
      cases same
      apply Tally.idle kept
      simpa using one

theorem heapStep_tally {after : Arena} (held : Held arena junk) (accepts : arena.Accepts call)
    (clears : arena.Clears call) (step : heapStep arena call = some after) : Tally arena after := by
  obtain ⟨⟨result, reached⟩, called, same⟩ := Option.map_eq_some_iff.mp step
  simp only at same
  subst same
  cases call with
  | kmalloc size =>
      obtain ⟨answer, done, same⟩ := Option.map_eq_some_iff.mp called
      have counted := kmalloc_tally size held done
      rw [same] at counted
      exact counted
  | kcalloc num size =>
      obtain ⟨answer, done, same⟩ := Option.map_eq_some_iff.mp called
      have counted := kcalloc_tally held clears done
      rw [same] at counted
      exact counted
  | krealloc ptr size =>
      rcases accepts.1 with isNull | live
      · subst isNull
        obtain ⟨answer, done, same⟩ := Option.map_eq_some_iff.mp called
        rw [krealloc_null] at done
        have counted := kmalloc_tally size held done
        rw [if_pos rfl] at same
        rw [same] at counted
        exact counted
      · exact krealloc_tally held live called
  | kfree ptr =>
      cases called
      exact kfree_tally held accepts

/-- The sizes of those blocks that are flagged used, added up. -/
def usedBytes (heap : Kheap) (blocks : List Nat) : Nat :=
  blocks.foldr (fun block total => if heap.flags block = kheapFlagUsed then heap.size block + total else total) 0

/-- The counters agree with the blocks on the lists and with the live allocations; what
`kfree` subtracts for a block is contained in the total. -/
structure Counted (arena : Arena) : Prop where
  blocks : ∃ free used, Reaches arena.heap arena.heap.freeList free ∧ Reaches arena.heap arena.heap.usedList used ∧
    arena.heap.totalAllocated = usedBytes arena.heap (free ++ used) ∧
    ∀ block ∈ free ++ used, arena.heap.flags block = kheapFlagUsed →
      arena.heap.size block ≤ arena.heap.totalAllocated
  live : sub32 arena.heap.numAllocs arena.heap.numFrees = arena.live.length

/-- The only block is counted while it is allocated. -/
structure Balanced (arena : Arena) : Prop where
  held : Held arena []
  allocated : arena.heap.totalAllocated = if arena.live = [] then 0 else arena.heap.size arena.heap.heapStart
  count : arena.heap.numAllocs = add32 arena.heap.numFrees arena.live.length

theorem Balanced.counted (balanced : Balanced arena) : Counted arena := by
  obtain ⟨held, allocated, count⟩ := balanced
  obtain ⟨free, used, fromFree, fromUsed, all⟩ := held.listed
  constructor
  · refine ⟨free, used, fromFree, fromUsed, ?_⟩
    rw [all, allocated]
    cases held with
    | vacant none vacant =>
        have unused : arena.heap.flags arena.heap.heapStart ≠ kheapFlagUsed := by
          rw [vacant.flags]
          decide
        simp [usedBytes, none, unused]
    | occupied size one occupied => simp [usedBytes, one, occupied.flags]
  · have few : arena.live.length ≤ 1 := by
      cases held with
      | vacant none _ => simp [none]
      | occupied size one _ => simp [one]
    rw [count]
    unfold sub32 add32
    omega

theorem Balanced.step {after : Arena} (balanced : Balanced arena) (preserving : Preserving arena call)
    (step : heapStep arena call = some after) : Balanced after := by
  obtain ⟨accepts, clears, whole⟩ := preserving
  obtain ⟨held, allocated, count⟩ := balanced
  have tally := heapStep_tally held accepts clears step
  obtain ⟨result, remaining, _, outcome⟩ := heapStep_outcome held accepts clears step
  have none : remaining = [] := outcome.no_junk held whole
  subst none
  have heldAfter := outcome.held held
  cases outcome with
  | failed => exact ⟨held, allocated, count⟩
  | released _ heap vacant region sizes =>
      cases tally with
      | idle same length =>
          have none : arena.live = [] := List.eq_nil_of_length_eq_zero length.symm
          have totals := congrArg Statistics.totalAllocated same
          have allocs := congrArg Statistics.numAllocs same
          have frees := congrArg Statistics.numFrees same
          simp only [Kheap.statistics] at totals allocs frees
          rw [none, if_pos rfl] at allocated
          rw [none] at count
          exact ⟨heldAfter, by simp [totals, allocated], by simp [allocs, frees, count]⟩
      | allocated _ length => simp at length
      | released one _ same =>
          have live : arena.live ≠ [] := List.ne_nil_of_length_eq_add_one one
          have totals := congrArg Statistics.totalAllocated same
          have allocs := congrArg Statistics.numAllocs same
          have frees := congrArg Statistics.numFrees same
          simp only [Kheap.statistics, Statistics.release] at totals allocs frees
          rw [if_neg live] at allocated
          have bounded : arena.heap.size arena.heap.heapStart < 2 ^ 32 := Kheap.size_lt
          refine ⟨heldAfter, ?_, ?_⟩
          · rw [if_pos rfl, totals, allocated, sub32_of_le (Nat.le_refl _) bounded, Nat.sub_self]
          · rw [allocs, frees, count, one]
            unfold add32
            simp
  | taken _ heap _ _ _ taken =>
      have empty := taken.live held
      cases tally with
      | idle _ length => simp [empty] at length
      | allocated _ _ same =>
          have totals := congrArg Statistics.totalAllocated same
          have allocs := congrArg Statistics.numAllocs same
          have frees := congrArg Statistics.numFrees same
          simp only [Kheap.statistics, Statistics.allocate] at totals allocs frees
          rw [if_pos empty] at allocated
          have bounded : heap.size arena.heap.heapStart < 2 ^ 32 := Kheap.size_lt
          refine ⟨heldAfter, ?_, ?_⟩
          · rw [if_neg (List.cons_ne_nil _ _), totals, allocated, add32_of_lt (by omega), Nat.zero_add,
              taken.region.heapStart]
          · rw [allocs, frees, count, empty]
            unfold add32
            simp
      | released one => simp [empty] at one
  | kept size occupied =>
      have one : arena.live.length = 1 := by
        cases held with
        | vacant _ vacant =>
            have flags := vacant.flags
            rw [occupied.flags] at flags
            exact absurd flags (by decide)
        | occupied _ one _ => simp [one]
      have live : arena.live ≠ [] := List.ne_nil_of_length_eq_add_one one
      rw [if_neg live] at allocated
      rw [one] at count
      exact ⟨heldAfter, by simpa using allocated, by simpa using count⟩

theorem kheapInit_statistics (fresh : heap.initialized = false) (done : kheapInit heap start size = (0, booted)) :
    booted.statistics =
      { totalSize := regionSize start size, totalAllocated := 0, totalFreed := 0, numAllocs := 0, numFrees := 0 } := by
  obtain ⟨nonNull, large⟩ := kheapInit_accepted fresh done
  rw [kheapInit, if_neg (by simp [fresh]), if_neg (by omega)] at done
  obtain ⟨_, rfl⟩ := Prod.mk.inj done
  rfl

/-- In every run that splits no used block the counters are exact. -/
theorem run_counted (fresh : heap.initialized = false) (done : kheapInit heap start size = (0, booted))
    (bounded : start + size < 2 ^ 32)
    (run : Run (Guarded Preserving (Stepping heapStep)) ⟨booted, []⟩ calls arena) : Counted arena := by
  obtain ⟨vacant, _⟩ := kheapInit_booted fresh done bounded
  have zero := kheapInit_statistics fresh done
  have balanced : Balanced arena := by
    apply run.invariant Balanced
    · intro before call next balanced step
      exact balanced.step step.1 step.2
    · have allocs := congrArg Statistics.numAllocs zero
      have frees := congrArg Statistics.numFrees zero
      simp only [Kheap.statistics] at allocs frees
      refine ⟨.vacant rfl vacant, congrArg Statistics.totalAllocated zero, ?_⟩
      rw [allocs, frees]
      rfl
  exact balanced.counted

instance (arena : Arena) (call : HeapCall) : Decidable (Preserving arena call) :=
  inferInstanceAs (Decidable (_ ∧ _ ∧ _))

/-- An allocation that is resized in place, freed, and made again. -/
theorem run_counted_resized :
    ∃ booted arena, kheapInit blankHeap 0x100000 0x1000 = (0, booted) ∧
      Run (Guarded Preserving (Stepping heapStep)) ⟨booted, []⟩
        [.kmalloc 100, .krealloc 0x100014 70, .kfree 0x100014, .kcalloc 4 25] arena ∧ Counted arena := by
  obtain ⟨booted, done, _⟩ := blankHeap_booted
  have computed : (performAll heapStep (fun arena call => decide (Preserving arena call))
      ⟨(kheapInit blankHeap 0x100000 0x1000).2, []⟩
        [.kmalloc 100, .krealloc 0x100014 70, .kfree 0x100014, .kcalloc 4 25]).isSome = true := by decide +kernel
  rw [done] at computed
  obtain ⟨arena, reached⟩ := Option.isSome_iff_exists.mp computed
  have run := (performAll_restricted reached).mono fun _ _ _ performed => And.imp_left of_decide_eq_true performed
  exact ⟨booted, arena, done, run, run_counted rfl done (by decide) run⟩

/-- Shrinking an allocation leaves its old size in the total. -/
theorem krealloc_miscounts :
    ∃ booted arena, kheapInit blankHeap 0x100000 0x1000 = (0, booted) ∧
      Run (Guarded Arena.Accepts (Stepping heapStep)) ⟨booted, []⟩ [.kmalloc 100, .krealloc 0x100014 16] arena ∧
      ¬ Counted arena := by
  obtain ⟨booted, done, _⟩ := blankHeap_booted
  have computed : (performAll heapStep (fun arena call => decide (arena.Accepts call))
      ⟨(kheapInit blankHeap 0x100000 0x1000).2, []⟩ [.kmalloc 100, .krealloc 0x100014 16]).any
        (fun arena => decide (arena.heap.freeList = 0 ∧ arena.heap.usedList = 0x100000 ∧
          arena.heap.next 0x100000 = 0x100024 ∧ arena.heap.next 0x100024 = 0 ∧
          usedBytes arena.heap [0x100000, 0x100024] = 16 ∧ arena.heap.totalAllocated = 112)) = true := by decide +kernel
  rw [done] at computed
  obtain ⟨arena, reached, facts⟩ := (Option.any_eq_true _ _).mp computed
  have run := (performAll_restricted reached).mono fun _ _ _ performed => And.imp_left of_decide_eq_true performed
  obtain ⟨noneFree, first, second, last, small, total⟩ := of_decide_eq_true facts
  refine ⟨booted, arena, done, run, fun counted => ?_⟩
  obtain ⟨free, used, fromFree, fromUsed, same, _⟩ := counted.blocks
  have listed : Reaches arena.heap arena.heap.usedList [0x100000, 0x100024] :=
    ⟨by rw [first]; decide, first.symm, by rw [second]; decide, second.symm, last⟩
  have empty : Reaches arena.heap arena.heap.freeList [] := noneFree
  rw [fromFree.unique empty, fromUsed.unique listed, List.nil_append, small, total] at same
  exact absurd same (by decide)

end AutismOS.Heap
