import AutismOS.Heap.Resizing

namespace AutismOS.Heap

open AutismOS.Library

variable {heap after booted : Kheap} {arena : Arena} {use : HeapUse} {uses : List HeapUse}
variable {block value size request ptr start : Nat} {list : KheapList}

/-! # Which pointers `kfree` rejects

The argument does not rest on the shape of the heap: a request that wraps around
gives its caller the whole memory to write to, headers included.
-/

/-- The heap with the pointers that were live before and are not now. -/
structure Custody where
  arena : Arena
  freed : List Nat

def custodyStep (custody : Custody) (use : HeapUse) : Option Custody :=
  (useStep custody.arena use).map fun arena =>
    ⟨arena, (custody.arena.live.map Prod.fst ++ custody.freed).filter fun ptr => ptr ∉ arena.live.map Prod.fst⟩

/-- Only blocks are allocated and freed, a pointer is freed once or its free is one of those
that should be rejected, and writes go to live allocations. -/
def Custodial (custody : Custody) : HeapUse → Prop
  | .call (.kmalloc size) => size < 2 ^ 32
  | .call (.kfree ptr) => ptr = 0 ∨ isInHeap custody.arena.heap ptr = false ∨
      ptr ∈ custody.arena.live.map Prod.fst ∨ ptr ∈ custody.freed
  | .call _ => False
  | .write address _ => ∃ allocation ∈ custody.arena.live, ∃ offset < allocation.2,
      address = add32 allocation.1 offset

instance (custody : Custody) (use : HeapUse) : Decidable (Custodial custody use) :=
  match use with
  | .call (.kmalloc size) => inferInstanceAs (Decidable (size < 2 ^ 32))
  | .call (.kfree ptr) => inferInstanceAs (Decidable (ptr = 0 ∨ isInHeap custody.arena.heap ptr = false ∨
      ptr ∈ custody.arena.live.map Prod.fst ∨ ptr ∈ custody.freed))
  | .call (.kcalloc _ _) => isFalse id
  | .call (.krealloc _ _) => isFalse id
  | .write address _ => inferInstanceAs (Decidable (∃ allocation ∈ custody.arena.live, ∃ offset < allocation.2,
      address = add32 allocation.1 offset))

/-- What the search for a block and the test of a pointer depend on, apart from headers. -/
def Kheap.anchor (heap : Kheap) : Bool × Nat × Nat × Nat :=
  (heap.initialized, heap.heapStart, heap.heapEnd, heap.freeList)

@[simp] theorem setMagic_anchor : (heap.setMagic block value).anchor = heap.anchor := rfl

@[simp] theorem setFlags_anchor : (heap.setFlags block value).anchor = heap.anchor := rfl

@[simp] theorem setSize_anchor : (heap.setSize block value).anchor = heap.anchor := rfl

@[simp] theorem setNext_anchor : (heap.setNext block value).anchor = heap.anchor := rfl

@[simp] theorem setPrev_anchor : (heap.setPrev block value).anchor = heap.anchor := rfl

@[simp] theorem setHead_anchor : (heap.setHead .used value).anchor = heap.anchor := rfl

@[simp] theorem splitBlock_anchor : (splitBlock heap block size).anchor = heap.anchor := by
  simp [splitBlock, apply_ite Kheap.anchor]

@[simp] theorem listRemove_anchor : (listRemove heap .used block).anchor = heap.anchor := by
  simp [listRemove, apply_ite Kheap.anchor]

@[simp] theorem listPushFront_anchor : (listPushFront heap .used block).anchor = heap.anchor := by
  simp [listPushFront, apply_ite Kheap.anchor]

/-- What initialization fixes about the region. -/
structure Grounded (heap : Kheap) : Prop where
  initialized : heap.initialized = true
  aligned : heap.heapStart % 16 = 0
  startBounded : heap.heapStart < 2 ^ 32
  endBounded : heap.heapEnd < 2 ^ 32

theorem Grounded.dataToBlock (grounded : Grounded heap) : dataToBlock (blockToData heap.heapStart) = heap.heapStart := by
  have bounded := grounded.startBounded
  unfold Heap.dataToBlock blockToData sub32 add32 headerSize
  omega

theorem Grounded.pointer_ne (grounded : Grounded heap) : blockToData heap.heapStart ≠ 0 := by
  have aligned := grounded.aligned
  unfold blockToData add32 headerSize
  omega

theorem Grounded.congr (grounded : Grounded heap) {list : Nat}
    (same : after.anchor = (heap.initialized, heap.heapStart, heap.heapEnd, list)) :
    Grounded after ∧ after.heapStart = heap.heapStart ∧ after.heapEnd = heap.heapEnd ∧ after.freeList = list := by
  simp only [Kheap.anchor, Prod.mk.injEq] at same
  obtain ⟨initialized, sameStart, sameEnd, listed⟩ := same
  refine ⟨⟨?_, ?_, ?_, ?_⟩, sameStart, sameEnd, listed⟩
  · rw [initialized, grounded.initialized]
  · rw [sameStart, grounded.aligned]
  · rw [sameStart]
    exact grounded.startBounded
  · rw [sameEnd]
    exact grounded.endBounded

/-- The first block is alone on the free list and flagged free. -/
structure Resting (heap : Kheap) : Prop where
  listed : heap.freeList = heap.heapStart
  nonNull : heap.heapStart ≠ 0
  flags : heap.flags heap.heapStart = kheapFlagFree
  next : heap.next heap.heapStart = 0
  prev : heap.prev heap.heapStart = 0

/-- A second free of the first block stops at its flags. -/
theorem Resting.kfree_same (resting : Resting heap) (grounded : Grounded heap) :
    kfree heap (blockToData heap.heapStart) = heap := by
  simp [kfree, grounded.dataToBlock, resting.flags]

/-- The first block is all that can be allocated. -/
theorem Resting.kmalloc_cases (resting : Resting heap) (request : Nat) :
    kmalloc heap request = some (0, heap) ∨
      ∃ after, kmalloc heap request = some (blockToData heap.heapStart, after) ∧
        after.anchor = (heap.initialized, heap.heapStart, heap.heapEnd, 0) := by
  by_cases refused : !heap.initialized ∨ request = 0
  · exact Or.inl (by simp only [kmalloc, if_pos refused])
  · have found : findBestFit heap (alignUp request) = some _ :=
      findBestFit_single resting.listed resting.nonNull resting.next (alignUp request)
    by_cases fits : alignUp request ≤ heap.size heap.heapStart
    · rw [if_pos fits] at found
      refine Or.inr ⟨_, kmalloc_found refused found resting.nonNull, ?_⟩
      have counted (before : Kheap) (block : Nat) : (countAllocation before block).anchor = before.anchor := rfl
      obtain ⟨memory, removed⟩ : ∃ memory, listRemove heap .free heap.heapStart =
          { heap.setHead .free (heap.next heap.heapStart) with memory } := listRemove_state resting.prev
      rw [counted, listPushFront_anchor, setFlags_anchor, splitBlock_anchor, removed, resting.next]
      rfl
    · rw [if_neg fits] at found
      exact Or.inl (by simp only [kmalloc, if_neg refused, found, if_true])

theorem listRemove_unlinked (aligned : block % 4 = 0) :
    (listRemove heap list block).next block = 0 ∧ (listRemove heap list block).prev block = 0 := by
  have zero : 0 < 2 ^ 32 := by decide
  unfold listRemove Kheap.next Kheap.prev Kheap.setNext Kheap.setPrev
  constructor
  · rw [Kheap.field_setField_aligned aligned (by decide), Kheap.field_setField_same zero]
  · rw [Kheap.field_setField_same zero]

theorem listPushFront_empty (empty : heap.freeList = 0) :
    listPushFront heap .free block = ((heap.setNext block 0).setPrev block 0).setHead .free block := by
  have none : heap.head .free = 0 := empty
  rw [listPushFront_eq, none, if_neg (by simp)]

theorem counters_anchor {allocated freed frees : Nat} :
    { heap with totalAllocated := allocated, totalFreed := freed, numFrees := frees }.anchor = heap.anchor := rfl

theorem releasedBlock_anchor : (releasedBlock heap).anchor = heap.anchor := by
  unfold releasedBlock
  rw [counters_anchor, setFlags_anchor, listRemove_anchor]

/-- A block that leaves the used list has no neighbours and is flagged free. -/
theorem releasedBlock_unlinked (aligned : heap.heapStart % 4 = 0) :
    (releasedBlock heap).next heap.heapStart = 0 ∧ (releasedBlock heap).prev heap.heapStart = 0 ∧
      (releasedBlock heap).flags heap.heapStart = kheapFlagFree := by
  obtain ⟨next, prev⟩ : (listRemove heap .used heap.heapStart).next heap.heapStart = 0 ∧ _ :=
    listRemove_unlinked aligned
  refine ⟨?_, ?_, ?_⟩
  · rw [Kheap.next, field_of_memory releasedBlock_memory, Kheap.setFlags,
      Kheap.field_setField_aligned aligned (by decide)]
    exact next
  · rw [Kheap.prev, field_of_memory releasedBlock_memory, Kheap.setFlags,
      Kheap.field_setField_aligned aligned (by decide)]
    exact prev
  · rw [Kheap.flags, field_of_memory releasedBlock_memory, Kheap.setFlags,
      Kheap.field_setField_same kheapFlagFree_lt]

/-- With an empty free list a free is rejected or makes the first block the free one. -/
theorem kfree_cases (grounded : Grounded heap) (empty : heap.freeList = 0) (nonNull : heap.heapStart ≠ 0) :
    kfree heap (blockToData heap.heapStart) = heap ∨
      Resting (kfree heap (blockToData heap.heapStart)) ∧
        (kfree heap (blockToData heap.heapStart)).anchor =
          (heap.initialized, heap.heapStart, heap.heapEnd, heap.heapStart) := by
  have accepted : ¬ (blockToData heap.heapStart = 0 ∨ !heap.initialized) := by
    simp [grounded.pointer_ne, grounded.initialized]
  by_cases outside : isInHeap heap (blockToData heap.heapStart) = false
  · exact Or.inl (by simp [kfree, outside])
  · by_cases magic : heap.magic heap.heapStart = kheapMagic
    · by_cases free : heap.flags heap.heapStart = kheapFlagFree
      · exact Or.inl (by simp [kfree, grounded.dataToBlock, free])
      · have inside : isInHeap heap (blockToData heap.heapStart) = true := by simpa using outside
        have aligned : heap.heapStart % 4 = 0 := by
          have aligned := grounded.aligned
          omega
        obtain ⟨next, prev, flags⟩ := releasedBlock_unlinked aligned
        have lonely : coalesce (releasedBlock heap) heap.heapStart = releasedBlock heap := coalesce_lonely next prev
        have anchor : (releasedBlock heap).anchor = (heap.initialized, heap.heapStart, heap.heapEnd, 0) := by
          rw [releasedBlock_anchor, Kheap.anchor, empty]
        obtain ⟨_, _, _, released⟩ := grounded.congr anchor
        have done : kfree heap (blockToData heap.heapStart) =
            (((releasedBlock heap).setNext heap.heapStart 0).setPrev heap.heapStart 0).setHead .free
              heap.heapStart := by
          rw [← listPushFront_empty released, kfree, if_neg accepted, if_neg (by simp [inside]), grounded.dataToBlock]
          simp only [magic, ne_eq, not_true_eq_false, if_false, free]
          unfold releasedBlock at lonely ⊢
          rw [lonely]
        have pushed : (kfree heap (blockToData heap.heapStart)).anchor =
            (heap.initialized, heap.heapStart, heap.heapEnd, heap.heapStart) := by
          rw [done]
          simp only [Kheap.anchor, Prod.mk.injEq] at anchor
          obtain ⟨initialized, sameStart, sameEnd, _⟩ := anchor
          simp [Kheap.anchor, Kheap.setHead, Kheap.setNext, Kheap.setPrev, Kheap.setField, initialized, sameStart, sameEnd]
        obtain ⟨_, sameStart, _, listed⟩ := grounded.congr pushed
        have zero : 0 < 2 ^ 32 := by decide
        refine Or.inr ⟨⟨listed.trans sameStart.symm, sameStart.symm ▸ nonNull, ?_, ?_, ?_⟩, pushed⟩
        · rw [sameStart, done, Kheap.flags, Kheap.setHead_field, Kheap.setPrev,
            Kheap.field_setField_aligned aligned (by decide), Kheap.setNext,
            Kheap.field_setField_aligned aligned (by decide)]
          exact flags
        · rw [sameStart, done, Kheap.next, Kheap.setHead_field, Kheap.setPrev,
            Kheap.field_setField_aligned aligned (by decide), Kheap.setNext, Kheap.field_setField_same zero]
        · rw [sameStart, done, Kheap.prev, Kheap.setHead_field, Kheap.setPrev, Kheap.field_setField_same zero]
    · exact Or.inl (by simp [kfree, grounded.dataToBlock, magic])

/-- Where the first block can be: free, handed out, or lost because its header was overwritten. -/
inductive Watched (custody : Custody) : Prop where
  | resting : custody.arena.live = [] → Resting custody.arena.heap →
      (∀ ptr ∈ custody.freed, ptr = blockToData custody.arena.heap.heapStart) → Watched custody
  | handed (size : Nat) : custody.arena.live = [(blockToData custody.arena.heap.heapStart, size)] →
      custody.arena.heap.freeList = 0 → custody.arena.heap.heapStart ≠ 0 → custody.freed = [] → Watched custody
  | lost : custody.arena.live = [] → custody.arena.heap.freeList = 0 →
      (∀ ptr ∈ custody.freed, kfree custody.arena.heap ptr = custody.arena.heap) → Watched custody

variable {custody next : Custody}

theorem kfree_outside (outside : isInHeap heap ptr = false) : kfree heap ptr = heap := by
  simp [kfree, outside]

theorem Watched.rejects (watched : Watched custody) (grounded : Grounded custody.arena.heap)
    (rejected : ptr = 0 ∨ isInHeap custody.arena.heap ptr = false ∨ ptr ∈ custody.freed) :
    kfree custody.arena.heap ptr = custody.arena.heap := by
  rcases rejected with isNull | outside | freed
  · rw [isNull, kfree_null]
  · exact kfree_outside outside
  · cases watched with
    | resting _ resting only =>
        rw [only ptr freed]
        exact resting.kfree_same grounded
    | handed _ _ _ _ none => simp [none] at freed
    | lost _ _ rejects => exact rejects ptr freed

/-- A call or a write after which the heap and the live allocations are the same. -/
theorem Watched.same (watched : Watched custody) {freed : List Nat}
    (kept : freed = (custody.arena.live.map Prod.fst ++ custody.freed).filter fun ptr =>
      ptr ∉ custody.arena.live.map Prod.fst) : Watched ⟨custody.arena, freed⟩ := by
  cases watched with
  | resting none resting only =>
      refine .resting none resting ?_
      simpa [kept, none] using only
  | handed size one empty nonNull none =>
      refine .handed size one empty nonNull ?_
      simp [kept, one, none]
  | lost none empty rejects =>
      refine .lost none empty ?_
      simpa [kept, none] using rejects

theorem Watched.kmalloc (watched : Watched custody) (grounded : Grounded custody.arena.heap)
    (step : custodyStep custody (.call (.kmalloc size)) = some next) :
    Watched next ∧ Grounded next.arena.heap := by
  obtain ⟨arena, called, same⟩ := Option.map_eq_some_iff.mp step
  have unchanged (failed : Heap.kmalloc custody.arena.heap size = some (0, custody.arena.heap)) :
      Watched next ∧ Grounded next.arena.heap := by
    have kept : custody.arena = arena := by
      simpa [useStep, heapStep, heapCall, failed, Arena.allocated] using called
    subst kept
    subst same
    exact ⟨watched.same rfl, grounded⟩
  cases watched with
  | handed _ _ empty _ _ => exact unchanged (kmalloc_empty empty size)
  | lost _ empty _ => exact unchanged (kmalloc_empty empty size)
  | resting none resting only =>
      rcases resting.kmalloc_cases size with failed | ⟨after, served, anchor⟩
      · exact unchanged failed
      · obtain ⟨groundedAfter, sameStart, _, empty⟩ := grounded.congr anchor
        have allocated : ⟨after, [(blockToData custody.arena.heap.heapStart, size)]⟩ = arena := by
          simpa [useStep, heapStep, heapCall, served, Arena.allocated, grounded.pointer_ne, none] using called
        subst allocated
        subst same
        refine ⟨.handed size ?_ empty (sameStart.symm ▸ resting.nonNull) ?_, groundedAfter⟩
        · rw [sameStart]
        · simpa [none] using only

theorem Watched.kfree (watched : Watched custody) (grounded : Grounded custody.arena.heap)
    (custodial : Custodial custody (.call (.kfree ptr)))
    (step : custodyStep custody (.call (.kfree ptr)) = some next) :
    Watched next ∧ Grounded next.arena.heap := by
  obtain ⟨arena, called, same⟩ := Option.map_eq_some_iff.mp step
  have freed : ⟨Heap.kfree custody.arena.heap ptr, custody.arena.release ptr⟩ = arena := Option.some.inj called
  by_cases live : ptr ∈ custody.arena.live.map Prod.fst
  · cases watched with
    | resting none _ _ => simp [none] at live
    | lost none _ _ => simp [none] at live
    | handed size one empty nonNull none =>
        have isFirst : ptr = blockToData custody.arena.heap.heapStart := by simpa [one] using live
        have released : custody.arena.release ptr = [] := by simp [Arena.release, one, isFirst]
        rw [released, isFirst] at freed
        subst freed
        subst same
        have pointers : custody.arena.live.map Prod.fst ++ custody.freed =
            [blockToData custody.arena.heap.heapStart] := by simp [one, none]
        rw [pointers]
        rcases kfree_cases grounded empty nonNull with kept | ⟨resting, anchor⟩
        · rw [kept]
          refine ⟨.lost rfl empty ?_, grounded⟩
          simpa using kept
        · obtain ⟨groundedAfter, sameStart, _, _⟩ := grounded.congr anchor
          refine ⟨.resting rfl resting ?_, groundedAfter⟩
          simp [sameStart]
  · have rejected : ptr = 0 ∨ isInHeap custody.arena.heap ptr = false ∨ ptr ∈ custody.freed :=
      custodial.imp_right (Or.imp_right (Or.resolve_left · live))
    have all : custody.arena.release ptr = custody.arena.live := by
      apply List.filter_eq_self.mpr
      intro allocation member
      have different : allocation.1 ≠ ptr := fun isPtr => live (isPtr ▸ List.mem_map_of_mem member)
      simpa using different
    rw [watched.rejects grounded rejected, all] at freed
    subst freed
    subst same
    exact ⟨watched.same rfl, grounded⟩

theorem Watched.write {address : Nat} {byte : UInt8} (watched : Watched custody)
    (grounded : Grounded custody.arena.heap) (custodial : Custodial custody (.write address byte))
    (step : custodyStep custody (.write address byte) = some next) :
    Watched next ∧ Grounded next.arena.heap := by
  obtain ⟨arena, written, same⟩ := Option.map_eq_some_iff.mp step
  obtain ⟨allocation, live, _⟩ := custodial
  obtain rfl := Option.some.inj written
  subst same
  have ground : Grounded { custody.arena.heap with memory := custody.arena.heap.memory.storeByte address byte } :=
    ⟨grounded.initialized, grounded.aligned, grounded.startBounded, grounded.endBounded⟩
  refine ⟨?_, ground⟩
  cases watched with
  | resting none _ _ => simp [none] at live
  | lost none _ _ => simp [none] at live
  | handed size one empty nonNull none =>
      refine .handed size one empty nonNull ?_
      simp [one, none]

theorem Watched.step (watched : Watched custody) (grounded : Grounded custody.arena.heap)
    (custodial : Custodial custody use) (step : custodyStep custody use = some next) :
    Watched next ∧ Grounded next.arena.heap := by
  cases use with
  | write address byte => exact watched.write grounded custodial step
  | call call =>
      cases call with
      | kmalloc size => exact watched.kmalloc grounded step
      | kfree ptr => exact watched.kfree grounded custodial step
      | kcalloc => exact absurd custodial id
      | krealloc => exact absurd custodial id

theorem kheapInit_watched (fresh : heap.initialized = false) (done : kheapInit heap start size = (0, booted)) :
    Watched ⟨⟨booted, []⟩, []⟩ ∧ Grounded booted := by
  obtain ⟨nonNull, large⟩ := kheapInit_accepted fresh done
  obtain ⟨after, initialized, isReady, startAt, endAt, listed, _, fields⟩ := kheapInit_state fresh nonNull large
  obtain rfl : after = booted := congrArg Prod.snd (initialized.symm.trans done)
  have aligned : regionStart start % 16 = 0 := maskBlock_aligned _
  have small : regionStart start < 2 ^ 32 := by
    have below : add32 start (kheapBlockSize - 1) < 2 ^ 32 := Nat.mod_lt _ (by decide)
    unfold regionStart maskBlock
    omega
  rw [← startAt] at aligned small listed fields
  constructor
  · by_cases isNull : after.heapStart = 0
    · refine .lost rfl (listed.trans isNull) ?_
      simp
    · refine .resting rfl ⟨listed, isNull, fields .flags, fields .next, fields .prev⟩ ?_
      simp
  · refine ⟨isReady, aligned, small, ?_⟩
    rw [endAt]
    exact Nat.mod_lt _ (by decide)

/-- In every run, a free of NULL, of a pointer outside the heap and of a pointer that was
freed before changes nothing at all. -/
theorem run_kfree_rejects (fresh : heap.initialized = false) (done : kheapInit heap start size = (0, booted))
    (run : Run (Guarded Custodial (Stepping custodyStep)) ⟨⟨booted, []⟩, []⟩ uses custody)
    (rejected : ptr = 0 ∨ isInHeap custody.arena.heap ptr = false ∨ ptr ∈ custody.freed) :
    kfree custody.arena.heap ptr = custody.arena.heap := by
  obtain ⟨watched, grounded⟩ : Watched custody ∧ Grounded custody.arena.heap := by
    apply run.invariant fun custody => Watched custody ∧ Grounded custody.arena.heap
    · intro before use after invariant step
      exact invariant.1.step invariant.2 step.1 step.2
    · exact kheapInit_watched fresh done
  exact watched.rejects grounded rejected

/-- A pointer that is freed twice, after its owner wrote through it. -/
theorem run_kfree_rejects_twice :
    ∃ booted custody, kheapInit blankHeap 0x100000 0x1000 = (0, booted) ∧
      Run (Guarded Custodial (Stepping custodyStep)) ⟨⟨booted, []⟩, []⟩
        [.call (.kmalloc 100), .write 0x100014 7, .call (.kfree 0x100014), .call (.kfree 0x100014)] custody ∧
      0x100014 ∈ custody.freed ∧ kfree custody.arena.heap 0x100014 = custody.arena.heap := by
  obtain ⟨booted, done, _⟩ := blankHeap_booted
  have computed : (performAll custodyStep (fun custody use => decide (Custodial custody use))
      ⟨⟨(kheapInit blankHeap 0x100000 0x1000).2, []⟩, []⟩
      [.call (.kmalloc 100), .write 0x100014 7, .call (.kfree 0x100014), .call (.kfree 0x100014)]).any
        (fun custody => decide (0x100014 ∈ custody.freed)) = true := by decide +kernel
  rw [done] at computed
  obtain ⟨custody, reached, stale⟩ := (Option.any_eq_true _ _).mp computed
  have run := (performAll_restricted reached).mono fun _ _ _ performed => And.imp_left of_decide_eq_true performed
  have freed := of_decide_eq_true stale
  exact ⟨booted, custody, done, run, freed, run_kfree_rejects rfl done run (Or.inr (Or.inr freed))⟩

end AutismOS.Heap
