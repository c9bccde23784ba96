import AutismOS.Heap.Shape

namespace AutismOS.Heap

open AutismOS.Library

variable {heap after : Kheap} {junk : List Nat} {block node size request ptr num : Nat}
variable {name : Field}

/-! The other calls on a shaped heap. -/

/-- The block of a successful `kfree` before it is pushed on the free list. -/
def releasedBlock (heap : Kheap) : Kheap :=
  let heap' := (listRemove heap .used heap.heapStart).setFlags heap.heapStart kheapFlagFree
  { heap' with
    totalAllocated := sub32 heap'.totalAllocated (heap'.size heap.heapStart)
    totalFreed := add32 heap'.totalFreed (heap'.size heap.heapStart)
    numFrees := add32 heap'.numFrees 1 }

/-- A block without neighbours on a list is merged with none. -/
theorem coalesce_lonely (next : heap.next block = 0) (prev : heap.prev block = 0) :
    coalesce heap block = heap := by
  simp [coalesce, next, prev]

theorem releasedBlock_memory :
    (releasedBlock heap).memory =
      ((listRemove heap .used heap.heapStart).setFlags heap.heapStart kheapFlagFree).memory := rfl

/-- The fields of the blocks once the first one has left the used list. -/
theorem releasedBlock_field (occupied : Occupied heap junk) (beside : Beside (heap.heapStart :: junk) node) :
    (releasedBlock heap).field node name =
      if node = heap.heapStart ∧ name = .flags then kheapFlagFree
      else if node = heap.heapStart ∧ (name = .next ∨ name = .prev) then 0
      else if node = heap.next heap.heapStart ∧ heap.next heap.heapStart ≠ 0 ∧ name = .prev then 0
      else heap.field node name := by
  rw [field_of_memory releasedBlock_memory, Kheap.setFlags,
    Kheap.field_setField occupied.shape.header beside.1 (beside.2 _ (by simp)) kheapFlagFree_lt,
    listRemove_field occupied.shape.spaced occupied.used beside]

theorem releasedBlock_state (occupied : Occupied heap junk) :
    ∃ memory allocated freed frees, releasedBlock heap =
      { heap with
        memory
        usedList := heap.next heap.heapStart
        totalAllocated := allocated
        totalFreed := freed
        numFrees := frees } := by
  have root : heap.prev heap.heapStart = 0 := (next_of_threads occupied.used).1
  obtain ⟨memory, removed⟩ : ∃ memory, listRemove heap .used heap.heapStart =
      { heap.setHead .used (heap.next heap.heapStart) with memory } := listRemove_state root
  rw [releasedBlock, removed]
  exact ⟨_, _, _, _, rfl⟩

theorem kfree_eq (occupied : Occupied heap junk) :
    kfree heap (heap.heapStart + headerSize) =
      listPushFront (releasedBlock heap) .free heap.heapStart := by
  have shape := occupied.shape
  have nonNull : ¬ (heap.heapStart + headerSize = 0 ∨ !heap.initialized) := by
    simp [headerSize, shape.initialized]
  have within : isInHeap heap (heap.heapStart + headerSize) = true := by
    simp [isInHeap, shape.roomy]
  have used : heap.flags heap.heapStart ≠ kheapFlagFree := by
    rw [occupied.flags]
    decide
  have beside := shape.spaced.beside (List.mem_cons_self ..)
  have lonely : coalesce (releasedBlock heap) heap.heapStart = releasedBlock heap := by
    apply coalesce_lonely
    · exact (releasedBlock_field occupied beside).trans (by simp)
    · exact (releasedBlock_field occupied beside).trans (by simp)
  rw [kfree, if_neg nonNull, if_neg (by simp [within]), shape.dataToBlock_start]
  simp only [shape.magic, ne_eq, not_true_eq_false, if_false, used]
  unfold releasedBlock at lonely ⊢
  rw [lonely]

/-- The free list is empty, so the push writes only the first block's links. -/
theorem kfree_field (occupied : Occupied heap junk)
    (place : node = heap.heapStart ∨ Header node ∧ Apart heap.heapStart node) :
    (kfree heap (heap.heapStart + headerSize)).field node name =
      if node = heap.heapStart ∧ (name = .next ∨ name = .prev) then 0
      else (releasedBlock heap).field node name := by
  obtain ⟨memory, allocated, freed, frees, state⟩ := releasedBlock_state occupied
  have empty : (releasedBlock heap).head .free = 0 := by
    rw [state]
    exact occupied.freeList
  have stretch : (releasedBlock heap).links.Stretch none none
      (pointer ((releasedBlock heap).head .free)) [] := by
    rw [empty]
    rfl
  have beside : Beside [heap.heapStart] node := by
    refine ⟨?_, fun other member => ?_⟩
    · rcases place with same | both
      · exact same ▸ occupied.shape.header
      · exact both.1
    · rw [List.mem_singleton.mp member]
      exact place.imp Eq.symm And.right
  rw [kfree_eq occupied, listPushFront_field occupied.shape.freeSpaced stretch beside, empty]
  cases name <;> simp

theorem kfree_state (occupied : Occupied heap junk) :
    SameRegion heap (kfree heap (heap.heapStart + headerSize)) ∧
      (kfree heap (heap.heapStart + headerSize)).freeList = heap.heapStart ∧
      (kfree heap (heap.heapStart + headerSize)).usedList = heap.next heap.heapStart := by
  obtain ⟨memory, allocated, freed, frees, state⟩ := releasedBlock_state occupied
  obtain ⟨memory', pushed⟩ : ∃ memory', listPushFront (releasedBlock heap) .free heap.heapStart =
      { (releasedBlock heap).setHead .free heap.heapStart with memory := memory' } :=
    listPushFront_state
  rw [kfree_eq occupied, pushed, state]
  exact ⟨⟨rfl, rfl, rfl⟩, rfl, rfl⟩

/-- Freeing the used block makes it the free block again. -/
theorem kfree_occupied (occupied : Occupied heap junk) :
    Vacant (kfree heap (heap.heapStart + headerSize)) junk ∧
      SameRegion heap (kfree heap (heap.heapStart + headerSize)) ∧
      ∀ node ∈ heap.heapStart :: junk,
        (kfree heap (heap.heapStart + headerSize)).size node = heap.size node := by
  have shape := occupied.shape
  obtain ⟨region, freeList, usedList⟩ := kfree_state occupied
  have kept (name : Field) (notFlags : name ≠ .flags) (notNext : name ≠ .next)
      (notPrev : name ≠ .prev) (node : Nat) (member : node ∈ heap.heapStart :: junk) :
      (kfree heap (heap.heapStart + headerSize)).field node name = heap.field node name := by
    have place : node = heap.heapStart ∨ Header node ∧ Apart heap.heapStart node := by
      rcases List.mem_cons.mp member with isStart | inJunk
      · exact Or.inl isStart
      · exact shape.junkPlace inJunk
    rw [kfree_field occupied place, releasedBlock_field occupied (shape.spaced.beside member)]
    simp [notFlags, notNext, notPrev]
  have start (name : Field) : (kfree heap (heap.heapStart + headerSize)).field heap.heapStart name = _ :=
    kfree_field occupied (Or.inl rfl)
  have flags : (kfree heap (heap.heapStart + headerSize)).flags heap.heapStart = kheapFlagFree := by
    refine (start .flags).trans ?_
    rw [if_neg (by simp), releasedBlock_field occupied (shape.spaced.beside (by simp))]
    simp
  have junkThreads : (kfree heap (heap.heapStart + headerSize)).links.Threads
      (pointer (heap.next heap.heapStart)) junk := by
    have remaining : (listRemove heap .used heap.heapStart).links.Threads
        (pointer (heap.next heap.heapStart)) junk := listRemove_threads shape.spaced occupied.used
    refine remaining.frame fun node member => ?_
    have different : node ≠ heap.heapStart := fun same =>
      (List.nodup_cons.mp shape.spaced.nodup).1 (same ▸ member)
    have beside := shape.spaced.beside (List.mem_cons_of_mem heap.heapStart member)
    have fields (name : Field) (notFlags : name ≠ .flags) :
        (kfree heap (heap.heapStart + headerSize)).field node name =
          (listRemove heap .used heap.heapStart).field node name := by
      rw [kfree_field occupied (shape.junkPlace member), releasedBlock_field occupied beside,
        listRemove_field shape.spaced occupied.used beside]
      simp [different]
    exact links_congr (fields .next (by decide)) (fields .prev (by decide))
  have mono : Shape (kfree heap (heap.heapStart + headerSize)) junk :=
    shape.mono region (kept .magic (by decide) (by decide) (by decide) _ (by simp))
      (le_of_eq (kept .size (by decide) (by decide) (by decide) _ (by simp))) (List.Sublist.refl junk)
  refine ⟨⟨mono, ?_, ?_, ?_, ?_⟩, region, kept .size (by decide) (by decide) (by decide)⟩
  · rw [freeList, region.heapStart]
  · rw [region.heapStart]
    exact flags
  · rw [region.heapStart]
    exact ⟨rfl, pointer_eq_none.mpr ((start .prev).trans (by simp)),
      pointer_eq_none.mpr ((start .next).trans (by simp))⟩
  · rw [usedList]
    exact junkThreads

theorem kfree_null (heap : Kheap) : kfree heap 0 = heap := by
  simp [kfree]

theorem krealloc_null (heap : Kheap) (request : Nat) : krealloc heap 0 request = kmalloc heap request := by
  simp [krealloc]

theorem krealloc_zero (nonNull : ptr ≠ 0) : krealloc heap ptr 0 = some (0, kfree heap ptr) := by
  simp [krealloc, nonNull]

/-- A block is split only when the new block gets at least the smallest size. -/
theorem remainder_of_room {rounded : Nat} (room : rounded + headerSize + kheapMinBlock ≤ heap.size block) :
    remainder heap block rounded = heap.size block - rounded - headerSize := by
  have bounded : heap.size block < 2 ^ 32 := Kheap.size_lt
  unfold remainder sub32 headerSize kheapMinBlock at *
  omega

/-- Resizing the used block compares its size with the rounded request. -/
theorem krealloc_occupied (occupied : Occupied heap junk) (positive : request ≠ 0) :
    krealloc heap (heap.heapStart + headerSize) request =
      if heap.size heap.heapStart < alignUp request then some (0, heap)
      else if heap.size heap.heapStart < alignUp request + headerSize + kheapMinBlock then
        some (heap.heapStart + headerSize, heap)
      else some (heap.heapStart + headerSize, splitBlock heap heap.heapStart (alignUp request)) := by
  have shape := occupied.shape
  have nonNull : heap.heapStart + headerSize ≠ 0 := by simp [headerSize]
  rw [krealloc, if_neg nonNull, if_neg positive, shape.dataToBlock_start]
  simp only [shape.magic, ne_eq, not_true_eq_false, if_false]
  by_cases large : heap.size heap.heapStart < alignUp request
  · simp [large, Nat.not_le.mpr large, Nat.not_lt.mpr (Nat.le_of_lt large), kmalloc_occupied occupied]
  · have fits : alignUp request ≤ heap.size heap.heapStart := Nat.not_lt.mp large
    rw [if_neg large]
    by_cases close : heap.size heap.heapStart - alignUp request < kheapMinBlock
    · have near : heap.size heap.heapStart < alignUp request + headerSize + kheapMinBlock := by
        unfold kheapMinBlock headerSize at *
        omega
      rw [if_pos ⟨fits, close⟩, if_pos near]
    · have smaller : alignUp request < heap.size heap.heapStart := by
        unfold kheapMinBlock at close
        omega
      rw [if_neg fun both => close both.2, if_pos smaller]
      by_cases near : heap.size heap.heapStart < alignUp request + headerSize + kheapMinBlock
      · have unsplit : splitBlock heap heap.heapStart (alignUp request) = heap := by
          apply splitBlock_small
          rw [remainder_lt_iff fits]
          unfold TakenWhole kheapMinBlock headerSize at *
          omega
        rw [if_pos near, unsplit]
      · rw [if_neg near]

/-- The address of the block that resizing splits off. -/
def splitAddress (heap : Kheap) (rounded : Nat) : Nat := heap.heapStart + headerSize + rounded

/-- The fields of all blocks after the used block was split. -/
theorem splitBlock_fields {rounded : Nat} (occupied : Occupied heap junk)
    (aligned : rounded % 16 = 0)
    (room : rounded + headerSize + kheapMinBlock ≤ heap.size heap.heapStart) (name : Field) :
    ((splitBlock heap heap.heapStart rounded).field heap.heapStart name =
        if name = .size then rounded
        else if name = .next then splitAddress heap rounded
        else heap.field heap.heapStart name) ∧
      (splitBlock heap heap.heapStart rounded).field (splitAddress heap rounded) name =
        newHeader heap heap.heapStart rounded name ∧
      ∀ node ∈ junk, (splitBlock heap heap.heapStart rounded).field node name =
        if node = heap.next heap.heapStart ∧ heap.next heap.heapStart ≠ 0 ∧ name = .prev then
          splitAddress heap rounded
        else heap.field node name := by
  have shape := occupied.shape
  have header := shape.header
  obtain ⟨_, inside, new⟩ := shape.splitAddress aligned (by omega)
  have large : kheapMinBlock ≤ remainder heap heap.heapStart rounded := by
    rw [remainder_of_room room]
    omega
  have above (node : Nat) (member : node ∈ junk) :
      heap.heapStart + headerSize + rounded + headerSize ≤ node := by
    have above := shape.junkAbove node member
    omega
  have following := (next_of_threads occupied.used).2
  refine ⟨?_, ?_, fun node member => ?_⟩
  · apply splitBlock_block large header inside new
    refine following.imp And.left fun listed => ⟨shape.junkHeader listed, ?_⟩
    exact (shape.spaced.head_apart listed).symm
  · apply splitBlock_new large header inside new
    exact following.imp And.left fun listed => ⟨shape.junkHeader listed, Or.inr (above _ listed)⟩
  · apply splitBlock_other large header inside new (shape.junkHeader member)
      (shape.spaced.head_apart member)
    · exact Or.inr (Nat.le_trans (above node member) (by omega))
    · refine following.imp And.left fun listed => ⟨shape.junkHeader listed, ?_⟩
      exact (shape.spaced.tail.beside member).2 _ listed

/-- Splitting the used block keeps the data that stays in it. -/
theorem splitBlock_data {rounded offset : Nat} (occupied : Occupied heap junk)
    (aligned : rounded % 16 = 0)
    (room : rounded + headerSize + kheapMinBlock ≤ heap.size heap.heapStart) (within : offset < rounded) :
    (splitBlock heap heap.heapStart rounded).memory.loadByte (heap.heapStart + headerSize + offset) =
      heap.memory.loadByte (heap.heapStart + headerSize + offset) := by
  have shape := occupied.shape
  obtain ⟨_, inside, new⟩ := shape.splitAddress aligned (by omega)
  apply splitBlock_byte
  · rw [remainder_of_room room]
    omega
  · exact shape.header
  · exact inside
  · exact new
  · refine (next_of_threads occupied.used).2.imp And.left fun listed => ⟨shape.junkHeader listed, ?_⟩
    have above := shape.junkAbove _ listed
    omega
  · omega
  · omega

/-- The new block stands behind the used block on its list. -/
theorem splitBlock_threads {rounded : Nat} (occupied : Occupied heap junk)
    (aligned : rounded % 16 = 0)
    (room : rounded + headerSize + kheapMinBlock ≤ heap.size heap.heapStart) :
    (splitBlock heap heap.heapStart rounded).links.Threads (some heap.heapStart)
      (heap.heapStart :: splitAddress heap rounded :: junk) := by
  have shape := occupied.shape
  have start (name : Field) := (splitBlock_fields occupied aligned room name).1
  have created (name : Field) := (splitBlock_fields occupied aligned room name).2.1
  have others (name : Field) := (splitBlock_fields occupied aligned room name).2.2
  have positive := shape.startPositive
  have notStart : splitAddress heap rounded ≠ heap.heapStart := by
    unfold splitAddress headerSize
    omega
  have notNull : splitAddress heap rounded ≠ 0 := by
    unfold splitAddress
    omega
  have notJunk : splitAddress heap rounded ∉ junk := fun member => by
    have above := shape.junkAbove _ member
    unfold splitAddress headerSize at *
    omega
  have fresh : splitAddress heap rounded ∉ heap.heapStart :: junk := by
    simp [notStart, notJunk]
  have startNext : (splitBlock heap heap.heapStart rounded).next heap.heapStart =
      splitAddress heap rounded := (start .next).trans (by simp)
  have startPrev : (splitBlock heap heap.heapStart rounded).prev heap.heapStart =
      heap.prev heap.heapStart := (start .prev).trans (by simp [Kheap.prev])
  have createdNext : (splitBlock heap heap.heapStart rounded).next (splitAddress heap rounded) =
      heap.next heap.heapStart := created .next
  have createdPrev : (splitBlock heap heap.heapStart rounded).prev (splitAddress heap rounded) =
      heap.heapStart := created .prev
  have notNext : heap.links.next heap.heapStart ≠ some heap.heapStart := fun same => by
    have rest := occupied.used.2.2
    rw [same] at rest
    exact (List.nodup_cons.mp shape.spaced.nodup).1 rest.head_mem
  refine (occupied.used.insertAfter fresh shape.spaced.nodup).frame fun node member => ?_
  rw [Links.insertAfter_next, Links.insertAfter_prev, links_next, links_prev]
  rcases List.mem_cons.mp member with isStart | inRest
  · subst isStart
    rw [if_pos rfl, if_neg notStart.symm, if_neg notNext, startNext, startPrev]
    exact ⟨pointer_eq_some.mpr ⟨rfl, notNull⟩, rfl⟩
  · rcases List.mem_cons.mp inRest with isNew | inJunk
    · subst isNew
      rw [if_neg notStart, if_pos rfl, if_pos rfl, createdNext, createdPrev]
      exact ⟨rfl, pointer_eq_some.mpr ⟨rfl, by omega⟩⟩
    · have different : node ≠ heap.heapStart := fun same =>
        (List.nodup_cons.mp shape.spaced.nodup).1 (same ▸ inJunk)
      have notNew : node ≠ splitAddress heap rounded := fun same => notJunk (same ▸ inJunk)
      rw [if_neg different, if_neg notNew, if_neg notNew]
      have next : (splitBlock heap heap.heapStart rounded).next node = heap.next node :=
        (others .next node inJunk).trans (by simp [Kheap.next])
      rw [next]
      refine ⟨rfl, ?_⟩
      have previous : (splitBlock heap heap.heapStart rounded).prev node = _ := others .prev node inJunk
      by_cases isNext : heap.links.next heap.heapStart = some node
      · obtain ⟨link, nonNull⟩ := pointer_eq_some.mp isNext
        rw [if_pos isNext]
        refine pointer_eq_some.mpr ⟨?_, notNull⟩
        rw [previous, if_pos ⟨link.symm, link ▸ nonNull, rfl⟩]
      · rw [if_neg isNext]
        refine congrArg pointer (previous.trans (if_neg fun all => isNext ?_))
        exact pointer_eq_some.mpr ⟨all.1.symm, all.1 ▸ all.2.1⟩

/-- A block split off the used block is marked free and stays on the used list. -/
theorem splitBlock_occupied {rounded : Nat} (occupied : Occupied heap junk)
    (aligned : rounded % 16 = 0)
    (room : rounded + headerSize + kheapMinBlock ≤ heap.size heap.heapStart) :
    Occupied (splitBlock heap heap.heapStart rounded) (splitAddress heap rounded :: junk) ∧
      SameRegion heap (splitBlock heap heap.heapStart rounded) ∧
      (splitBlock heap heap.heapStart rounded).size heap.heapStart = rounded ∧
      (splitBlock heap heap.heapStart rounded).size (splitAddress heap rounded) =
        heap.size heap.heapStart - rounded - headerSize ∧
      ∀ node ∈ junk, (splitBlock heap heap.heapStart rounded).size node = heap.size node := by
  have shape := occupied.shape
  have start (name : Field) := (splitBlock_fields occupied aligned room name).1
  have created (name : Field) := (splitBlock_fields occupied aligned room name).2.1
  have others (name : Field) := (splitBlock_fields occupied aligned room name).2.2
  obtain ⟨newAligned, _, new⟩ := shape.splitAddress aligned (by omega)
  have inside := shape.inside
  obtain ⟨memory, state⟩ : ∃ memory, splitBlock heap heap.heapStart rounded =
      { heap with memory } := splitBlock_state
  have region : SameRegion heap (splitBlock heap heap.heapStart rounded) := by
    rw [state]
    exact ⟨rfl, rfl, rfl⟩
  have size : (splitBlock heap heap.heapStart rounded).size heap.heapStart = rounded :=
    start .size
  have shrunk : Shape (splitBlock heap heap.heapStart rounded) junk :=
    shape.mono region (start .magic) (by omega) (List.Sublist.refl junk)
  have grown : Shape (splitBlock heap heap.heapStart rounded) (splitAddress heap rounded :: junk) := by
    refine { shrunk with junkAligned := ?_, junkAbove := ?_, junkBelow := ?_, junkApart := ?_ }
    · intro node member
      rcases List.mem_cons.mp member with isNew | inJunk
      · exact isNew ▸ newAligned
      · exact shape.junkAligned node inJunk
    · intro node member
      rw [region.heapStart, size]
      rcases List.mem_cons.mp member with isNew | inJunk
      · exact le_of_eq isNew.symm
      · have above := shape.junkAbove node inJunk
        omega
    · intro node member
      rw [region.heapEnd]
      rcases List.mem_cons.mp member with isNew | inJunk
      · unfold splitAddress kheapMinBlock at *
        omega
      · exact shape.junkBelow node inJunk
    · refine List.pairwise_cons.mpr ⟨fun node member => ?_, shape.junkApart⟩
      have above := shape.junkAbove node member
      unfold splitAddress
      omega
  refine ⟨⟨grown, ?_, ?_, ?_, ?_⟩, region, size, ?_, fun node member => ?_⟩
  · rw [state]
    exact occupied.freeList
  · rw [region.heapStart]
    exact (start .flags).trans occupied.flags
  · rw [region.heapStart, state]
    exact occupied.usedList
  · rw [region.heapStart]
    exact splitBlock_threads occupied aligned room
  · exact (created .size).trans (remainder_of_room room)
  · exact (others .size node member).trans (by simp [Kheap.size])

/-- The result of `kcalloc` from that of `kmalloc`. -/
def zeroed (total : Nat) (result : Nat × Kheap) : Nat × Kheap :=
  if result.1 = 0 then (0, result.2)
  else (result.1, { result.2 with memory := result.2.memory.fill result.1 0 total })

theorem kcalloc_overflow (large : 2 ^ 32 ≤ num * size) : kcalloc heap num size = some (0, heap) := by
  have positive : num ≠ 0 := fun zero => by simp [zero] at large
  have wrapped : num * size % 2 ^ 32 < num * size :=
    Nat.lt_of_lt_of_le (Nat.mod_lt _ (by decide)) large
  have smaller : num * size % 2 ^ 32 / num < size := Nat.div_lt_of_lt_mul wrapped
  simp only [kcalloc]
  rw [if_pos ⟨positive, Nat.ne_of_lt smaller⟩]

theorem kcalloc_eq (small : num * size < 2 ^ 32) :
    kcalloc heap num size = (kmalloc heap (num * size)).map (zeroed (num * size)) := by
  have exactly : ¬ (num ≠ 0 ∧ num * size / num ≠ size) := fun both =>
    both.2 (Nat.mul_div_cancel_left size (Nat.pos_of_ne_zero both.1))
  simp only [kcalloc, Nat.mod_eq_of_lt small]
  rw [if_neg exactly]
  cases kmalloc heap (num * size) with
  | none => rfl
  | some result =>
      simp only [Option.map_some, zeroed]
      split <;> rfl

/-- Overwriting data of the used block leaves all headers. -/
theorem Occupied.overwrite {memory : ByteMemory} (occupied : Occupied heap junk)
    (same : after = { heap with memory })
    (outside : ∀ address < 2 ^ 32, (address < heap.heapStart + headerSize ∨
      heap.heapStart + headerSize + heap.size heap.heapStart ≤ address) →
        memory.loadByte address = heap.memory.loadByte address) :
    Occupied after junk ∧ SameRegion heap after ∧
      ∀ node ∈ heap.heapStart :: junk, after.size node = heap.size node := by
  have shape := occupied.shape
  have fields (node : Nat) (member : node ∈ heap.heapStart :: junk) (name : Field) :
      after.field node name = heap.field node name := by
    have header := (shape.spaced.header node member).bounded
    have offset := name.offset_lt
    have aligned := name.offset_aligned
    have place : node + name.offset + 4 ≤ heap.heapStart + headerSize ∨
        heap.heapStart + headerSize + heap.size heap.heapStart ≤ node + name.offset := by
      unfold headerSize at *
      rcases List.mem_cons.mp member with isStart | inJunk
      · omega
      · have above := shape.junkAbove node inJunk
        unfold headerSize at above
        omega
    have byte (place' : Nat) (within : place' < 4) :
        memory.loadByte (node + name.offset + place') =
          heap.memory.loadByte (node + name.offset + place') := by
      apply outside
      · unfold headerSize at *
        omega
      · omega
    have first := byte 0 (by decide)
    rw [Nat.add_zero] at first
    rw [same, Kheap.field, Kheap.field, ByteMemory.loadWord, ByteMemory.loadWord, first,
      byte 1 (by decide), byte 2 (by decide), byte 3 (by decide)]
  have region : SameRegion heap after := by
    rw [same]
    exact ⟨rfl, rfl, rfl⟩
  refine ⟨occupied.transfer fields region ?_ ?_, region, fun node member => fields node member .size⟩
  · rw [same]
  · rw [same]

/-- Clearing bytes of the used block leaves all headers. -/
theorem Occupied.fill (occupied : Occupied heap junk) (fits : size ≤ heap.size heap.heapStart)
    (same : after = { heap with memory := heap.memory.fill (heap.heapStart + headerSize) 0 size }) :
    Occupied after junk ∧ SameRegion heap after ∧
      ∀ node ∈ heap.heapStart :: junk, after.size node = heap.size node := by
  have inside := occupied.shape.inside
  have bounded := occupied.shape.endBounded
  apply occupied.overwrite same
  intro address small outside
  apply ByteMemory.loadByte_fill_outside
  · omega
  · exact small
  · omega

/-- The managed region: the part of the memory that was handed over between two
multiples of the block size. -/
def regionStart (start : Nat) : Nat := maskBlock (add32 start (kheapBlockSize - 1))

def regionSize (start size : Nat) : Nat := maskBlock (sub32 size (sub32 (regionStart start) start))

theorem region_bounds {start : Nat} (large : kheapMinBlock * 2 ≤ size) (bounded : start + size < 2 ^ 32) :
    regionStart start % 16 = 0 ∧ start ≤ regionStart start ∧ regionSize start size % 16 = 0 ∧
      kheapMinBlock < regionSize start size ∧ regionStart start + regionSize start size ≤ start + size := by
  unfold regionSize regionStart maskBlock sub32 add32 kheapMinBlock kheapBlockSize at *
  omega

/-- The header of the first block. -/
def firstHeader (total : Nat) : Field → Nat
  | .magic => kheapMagic
  | .flags => kheapFlagFree
  | .size => sub32 total headerSize
  | .next => 0
  | .prev => 0

theorem firstHeader_lt (total : Nat) (name : Field) : firstHeader total name < 2 ^ 32 := by
  cases name with
  | size => exact Nat.mod_lt _ (by decide)
  | _ => simp [firstHeader, kheapMagic, kheapFlagFree]

/-- What initialization leaves behind. -/
theorem kheapInit_state {start : Nat} (fresh : heap.initialized = false) (nonNull : start ≠ 0)
    (large : kheapMinBlock * 2 ≤ size) :
    ∃ after, kheapInit heap start size = (0, after) ∧ after.initialized = true ∧
      after.heapStart = regionStart start ∧
      after.heapEnd = add32 (regionStart start) (regionSize start size) ∧
      after.freeList = regionStart start ∧ after.usedList = 0 ∧
      ∀ name, after.field (regionStart start) name = firstHeader (regionSize start size) name := by
  have accepted : ¬ (start = 0 ∨ size < kheapMinBlock * 2) := by omega
  rw [kheapInit, if_neg (by simp [fresh]), if_neg accepted]
  refine ⟨_, rfl, rfl, rfl, rfl, rfl, rfl, fun name => ?_⟩
  have written (heap : Kheap) :
      (writeHeader heap (regionStart start) (firstHeader (regionSize start size))).field
        (regionStart start) name = firstHeader (regionSize start size) name := by
    have aligned : regionStart start % 16 = 0 := maskBlock_aligned _
    exact writeHeader_same (by omega) (firstHeader_lt _)
  exact (field_of_memory rfl).trans (written { heap with
    heapStart := regionStart start
    heapEnd := add32 (regionStart start) (regionSize start size)
    totalSize := regionSize start size
    totalAllocated := 0
    totalFreed := 0
    numAllocs := 0
    numFrees := 0
    usedList := 0 })

/-- Initialization makes the whole region one free block. -/
theorem kheapInit_vacant {start : Nat} (fresh : heap.initialized = false) (nonNull : start ≠ 0)
    (large : kheapMinBlock * 2 ≤ size) (bounded : start + size < 2 ^ 32) :
    ∃ after, kheapInit heap start size = (0, after) ∧ Vacant after [] ∧
      after.heapStart = regionStart start ∧ after.heapEnd = regionStart start + regionSize start size ∧
      after.heapStart + headerSize + after.size after.heapStart = after.heapEnd := by
  obtain ⟨startAligned, above, sizeAligned, roomy, below⟩ := region_bounds large bounded
  have header : Header (regionStart start) := by
    refine ⟨by omega, ?_⟩
    unfold kheapMinBlock headerSize at *
    omega
  obtain ⟨after, done, initialized, heapStart, heapEnd, freeList, usedList, fields⟩ :=
    kheapInit_state fresh nonNull large
  have ending : after.heapEnd = regionStart start + regionSize start size := by
    rw [heapEnd]
    exact Nat.mod_eq_of_lt (by omega)
  have blockSize : after.size (regionStart start) = regionSize start size - headerSize := by
    refine (fields .size).trans ?_
    unfold firstHeader sub32 kheapMinBlock headerSize at *
    simp only
    omega
  have free : after.links.Threads (some (regionStart start)) [regionStart start] :=
    ⟨rfl, pointer_eq_none.mpr (fields .prev), pointer_eq_none.mpr (fields .next)⟩
  rw [← heapStart] at startAligned above below ending blockSize free freeList fields ⊢
  unfold kheapMinBlock at roomy
  have shape : Shape after [] := by
    refine ⟨initialized, startAligned, by omega, by omega, by omega, ?_, fields .magic, ?_,
      by simp, by simp, by simp, by simp⟩
    · unfold headerSize
      omega
    · unfold headerSize at *
      omega
  refine ⟨after, done, ⟨shape, freeList, fields .flags, free, ?_⟩, rfl, ending, ?_⟩
  · rw [usedList]
    rfl
  · unfold headerSize at *
    omega

end AutismOS.Heap
