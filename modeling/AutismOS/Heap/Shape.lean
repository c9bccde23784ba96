import AutismOS.Heap.Blocks

namespace AutismOS.Heap

open AutismOS.Library

variable {heap after : Kheap} {junk : List Nat} {block node size request ptr : Nat}
variable {name : Field}

/-! # The shapes of a reachable heap

The free list never holds more than the block at `heap_start`: what `kmalloc`
splits off is forgotten when the block is pushed on the used list, and what
`krealloc` splits off stays on the used list for good.
-/

theorem maskBlock_aligned (value : Nat) : maskBlock value % 16 = 0 := by
  unfold maskBlock kheapBlockSize
  omega

theorem alignUp_aligned (size : Nat) : alignUp size % 16 = 0 := maskBlock_aligned _

/-- Rounding is exact up to the last multiple of the block size. -/
theorem alignUp_bounds (small : size ≤ 2 ^ 32 - kheapBlockSize) :
    size ≤ alignUp size ∧ alignUp size < size + kheapBlockSize := by
  unfold alignUp maskBlock add32 kheapBlockSize at *
  omega

theorem alignUp_wraps (bounded : size < 2 ^ 32) (large : 2 ^ 32 - kheapBlockSize < size) :
    alignUp size = 0 := by
  unfold alignUp maskBlock add32 kheapBlockSize at *
  omega

/-- The block at `heap_start` and, above it, blocks that are never used again. -/
structure Shape (heap : Kheap) (junk : List Nat) : Prop where
  initialized : heap.initialized = true
  startAligned : heap.heapStart % 16 = 0
  startPositive : 0 < heap.heapStart
  endAligned : heap.heapEnd % 16 = 0
  endBounded : heap.heapEnd < 2 ^ 32
  roomy : heap.heapStart + headerSize < heap.heapEnd
  magic : heap.magic heap.heapStart = kheapMagic
  inside : heap.heapStart + headerSize + heap.size heap.heapStart ≤ heap.heapEnd
  junkAligned : ∀ node ∈ junk, node % 16 = 4
  junkAbove : ∀ node ∈ junk, heap.heapStart + headerSize + heap.size heap.heapStart ≤ node
  junkBelow : ∀ node ∈ junk, node + headerSize ≤ heap.heapEnd
  junkApart : junk.Pairwise fun left right => left + headerSize ≤ right

/-- The first block is free and nothing is allocated. -/
structure Vacant (heap : Kheap) (junk : List Nat) : Prop where
  shape : Shape heap junk
  freeList : heap.freeList = heap.heapStart
  flags : heap.flags heap.heapStart = kheapFlagFree
  free : heap.links.Threads (some heap.heapStart) [heap.heapStart]
  used : heap.links.Threads (pointer heap.usedList) junk

/-- The first block is allocated and nothing is free. -/
structure Occupied (heap : Kheap) (junk : List Nat) : Prop where
  shape : Shape heap junk
  freeList : heap.freeList = 0
  flags : heap.flags heap.heapStart = kheapFlagUsed
  usedList : heap.usedList = heap.heapStart
  used : heap.links.Threads (some heap.heapStart) (heap.heapStart :: junk)

namespace Shape

theorem header (shape : Shape heap junk) : Header heap.heapStart := by
  have aligned := shape.startAligned
  have bounded := shape.endBounded
  have roomy := shape.roomy
  exact ⟨by omega, by omega⟩

theorem junkHeader (shape : Shape heap junk) (member : node ∈ junk) : Header node := by
  have aligned := shape.junkAligned node member
  have bounded := shape.endBounded
  have below := shape.junkBelow node member
  exact ⟨by omega, by omega⟩

theorem spaced (shape : Shape heap junk) : Spaced (heap.heapStart :: junk) := by
  refine ⟨fun node member => ?_, fun node member => ?_, List.pairwise_cons.mpr ⟨?_, ?_⟩⟩
  · rcases List.mem_cons.mp member with isStart | inJunk
    · exact isStart ▸ shape.header
    · exact shape.junkHeader inJunk
  · have positive := shape.startPositive
    rcases List.mem_cons.mp member with isStart | inJunk
    · omega
    · have above := shape.junkAbove node inJunk
      omega
  · intro node member
    have above := shape.junkAbove node member
    unfold Apart
    omega
  · exact shape.junkApart.imp fun below => Or.inl below

theorem freeSpaced (shape : Shape heap junk) : Spaced [heap.heapStart] := by
  refine ⟨fun node member => ?_, fun node member => ?_, by simp⟩
  · rw [List.mem_singleton.mp member]
    exact shape.header
  · have positive := shape.startPositive
    rw [List.mem_singleton.mp member]
    omega

theorem blockToData_start (shape : Shape heap junk) :
    blockToData heap.heapStart = heap.heapStart + headerSize := by
  have bounded := shape.endBounded
  have roomy := shape.roomy
  unfold blockToData add32
  omega

theorem dataToBlock_start (shape : Shape heap junk) :
    dataToBlock (heap.heapStart + headerSize) = heap.heapStart := by
  have bounded := shape.endBounded
  have roomy := shape.roomy
  unfold dataToBlock sub32 headerSize at *
  omega

end Shape

theorem bestFitFrom_single {fuel : Nat} (positive : block ≠ 0) (last : heap.next block = 0) :
    bestFitFrom heap size (fuel + 2) 0 block = some (if size ≤ heap.size block then block else 0) := by
  by_cases fits : size ≤ heap.size block
  · by_cases exactly : heap.size block = size
    · simp [bestFitFrom, positive, exactly]
    · simp [bestFitFrom, positive, exactly, fits, last]
  · simp [bestFitFrom, positive, fits, last]

theorem findBestFit_single (listed : heap.freeList = block) (nonNull : block ≠ 0) (last : heap.next block = 0)
    (size : Nat) : findBestFit heap size = some (if size ≤ heap.size block then block else 0) := by
  have fuel : 2 ^ 32 = 4294967294 + 2 := by decide
  rw [findBestFit, listed, fuel]
  exact bestFitFrom_single nonNull last

theorem findBestFit_empty (empty : heap.freeList = 0) (size : Nat) : findBestFit heap size = some 0 := by
  have fuel : 2 ^ 32 = 4294967295 + 1 := by decide
  rw [findBestFit, empty, fuel, bestFitFrom, if_pos rfl]

/-- With an empty free list every allocation fails. -/
theorem kmalloc_empty (empty : heap.freeList = 0) (request : Nat) : kmalloc heap request = some (0, heap) := by
  unfold kmalloc
  split
  · rfl
  · simp [findBestFit_empty empty]

theorem findBestFit_vacant (vacant : Vacant heap junk) (size : Nat) :
    findBestFit heap size =
      some (if size ≤ heap.size heap.heapStart then heap.heapStart else 0) := by
  have positive := vacant.shape.startPositive
  have last : heap.next heap.heapStart = 0 := pointer_eq_none.mp vacant.free.2.2
  exact findBestFit_single vacant.freeList (by omega) last size

theorem kmalloc_occupied (occupied : Occupied heap junk) (request : Nat) :
    kmalloc heap request = some (0, heap) := kmalloc_empty occupied.freeList request

theorem kmalloc_too_large (vacant : Vacant heap junk)
    (large : heap.size heap.heapStart < alignUp request) : kmalloc heap request = some (0, heap) := by
  unfold kmalloc
  split
  · rfl
  · simp [findBestFit_vacant vacant, Nat.not_le.mpr large]

/-- The parts of the state that no allocator call changes. -/
structure SameRegion (before after : Kheap) : Prop where
  initialized : after.initialized = before.initialized
  heapStart : after.heapStart = before.heapStart
  heapEnd : after.heapEnd = before.heapEnd

theorem SameRegion.refl (heap : Kheap) : SameRegion heap heap := ⟨rfl, rfl, rfl⟩

theorem SameRegion.trans {before middle after : Kheap} (first : SameRegion before middle)
    (second : SameRegion middle after) : SameRegion before after :=
  ⟨second.initialized.trans first.initialized, second.heapStart.trans first.heapStart,
    second.heapEnd.trans first.heapEnd⟩

/-- The first block may shrink and blocks above it may leave the list. -/
theorem Shape.mono {remaining : List Nat} (shape : Shape heap junk) (region : SameRegion heap after)
    (magic : after.magic heap.heapStart = heap.magic heap.heapStart)
    (smaller : after.size heap.heapStart ≤ heap.size heap.heapStart)
    (sublist : remaining.Sublist junk) : Shape after remaining := by
  obtain ⟨initialized, heapStart, heapEnd⟩ := region
  have inside := shape.inside
  refine ⟨initialized.trans shape.initialized, heapStart ▸ shape.startAligned,
    heapStart ▸ shape.startPositive, heapEnd ▸ shape.endAligned, heapEnd ▸ shape.endBounded,
    heapStart ▸ heapEnd ▸ shape.roomy, ?_, ?_, fun node member => ?_, fun node member => ?_,
    fun node member => ?_, shape.junkApart.sublist sublist⟩
  · rw [heapStart, magic]
    exact shape.magic
  · rw [heapStart, heapEnd]
    omega
  · exact shape.junkAligned node (sublist.subset member)
  · have above := shape.junkAbove node (sublist.subset member)
    rw [heapStart]
    omega
  · rw [heapEnd]
    exact shape.junkBelow node (sublist.subset member)

/-- What two heaps agree on when one list operation separates them: magic, flags
and size of the given blocks. -/
def SameBlocks (nodes : List Nat) (before after : Kheap) : Prop :=
  ∀ node ∈ nodes, ∀ name, name ≠ .next → name ≠ .prev → after.field node name = before.field node name

theorem push_used {origin : Option Nat} (shape : Shape heap junk) (freeList : heap.freeList = 0)
    (flags : heap.flags heap.heapStart = kheapFlagUsed)
    (stretch : heap.links.Stretch none origin (pointer heap.usedList) junk) :
    Occupied (listPushFront heap .used heap.heapStart) junk ∧
      SameRegion heap (listPushFront heap .used heap.heapStart) ∧
      SameBlocks (heap.heapStart :: junk) heap (listPushFront heap .used heap.heapStart) := by
  obtain ⟨memory, state⟩ : ∃ memory, listPushFront heap .used heap.heapStart =
      { heap.setHead .used heap.heapStart with memory } := listPushFront_state
  have region : SameRegion heap (listPushFront heap .used heap.heapStart) := by
    rw [state]
    exact ⟨rfl, rfl, rfl⟩
  have same : SameBlocks (heap.heapStart :: junk) heap (listPushFront heap .used heap.heapStart) := by
    intro node member name notNext notPrev
    rw [listPushFront_field shape.spaced stretch (shape.spaced.beside member)]
    simp [notNext, notPrev]
  have start := same heap.heapStart (by simp)
  have threads : (listPushFront heap .used heap.heapStart).links.Threads (some heap.heapStart)
      (heap.heapStart :: junk) := listPushFront_threads shape.spaced stretch
  refine ⟨⟨shape.mono region (start .magic (by decide) (by decide)) ?_ (List.Sublist.refl junk), ?_, ?_, ?_, ?_⟩,
    region, same⟩
  · exact le_of_eq (start .size (by decide) (by decide))
  · rw [state]
    exact freeList
  · rw [region.heapStart]
    exact (start .flags (by decide) (by decide)).trans flags
  · rw [region.heapStart, state]
    rfl
  · rw [region.heapStart]
    exact threads

/-- Taking the first block off the free list changes no field. -/
theorem remove_free (vacant : Vacant heap junk) :
    (∃ memory, listRemove heap .free heap.heapStart = { heap with freeList := 0, memory }) ∧
      ∀ node name, (node = heap.heapStart ∨ Header node ∧ Apart heap.heapStart node) →
        (listRemove heap .free heap.heapStart).field node name = heap.field node name := by
  have spaced := vacant.shape.freeSpaced
  have root : heap.prev heap.heapStart = 0 := pointer_eq_none.mp vacant.free.2.1
  have last : heap.next heap.heapStart = 0 := pointer_eq_none.mp vacant.free.2.2
  constructor
  · obtain ⟨memory, state⟩ : ∃ memory, listRemove heap .free heap.heapStart =
        { heap.setHead .free (heap.next heap.heapStart) with memory } := listRemove_state root
    exact ⟨memory, by rw [state, last]; rfl⟩
  · intro node name place
    have beside : Beside [heap.heapStart] node := by
      refine ⟨?_, fun other member => ?_⟩
      · rcases place with same | both
        · exact same ▸ vacant.shape.header
        · exact both.1
      · rw [List.mem_singleton.mp member]
        exact place.imp Eq.symm And.right
    rw [listRemove_field spaced vacant.free beside]
    by_cases isStart : node = heap.heapStart
    · subst isStart
      unfold Kheap.next Kheap.prev at *
      cases name <;> simp [root, last]
    · simp [isStart, last]

/-- What is left over is a header and less than the smallest block, so that the
block is not split. -/
def TakenWhole (blockSize rounded : Nat) : Prop :=
  rounded + headerSize ≤ blockSize ∧ blockSize < rounded + headerSize + kheapMinBlock

instance (blockSize rounded : Nat) : Decidable (TakenWhole blockSize rounded) :=
  inferInstanceAs (Decidable (_ ∧ _))

theorem remainder_lt_iff (fits : size ≤ heap.size block) :
    remainder heap block size < kheapMinBlock ↔ TakenWhole (heap.size block) size := by
  have bounded : heap.size block < 2 ^ 32 := Kheap.size_lt
  unfold remainder sub32 TakenWhole headerSize kheapMinBlock
  omega

theorem kheapFlagUsed_lt : kheapFlagUsed < 2 ^ 32 := by simp [kheapFlagUsed]

theorem kheapFlagFree_lt : kheapFlagFree < 2 ^ 32 := by simp [kheapFlagFree]

/-- The block of a successful `kmalloc` before it is pushed on the used list. -/
def takenBlock (heap : Kheap) (rounded : Nat) : Kheap :=
  (splitBlock (listRemove heap .free heap.heapStart) heap.heapStart rounded).setFlags
    heap.heapStart kheapFlagUsed

/-- The counters of a successful `kmalloc`. -/
def countAllocation (heap : Kheap) (block : Nat) : Kheap :=
  { heap with
    totalAllocated := add32 heap.totalAllocated (heap.size block)
    numAllocs := add32 heap.numAllocs 1 }

/-- What `kmalloc` does with the block it has found. -/
theorem kmalloc_found (accepted : ¬ (!heap.initialized ∨ request = 0))
    (found : findBestFit heap (alignUp request) = some block) (nonNull : block ≠ 0) :
    kmalloc heap request = some (blockToData block,
      countAllocation (listPushFront ((splitBlock (listRemove heap .free block) block
        (alignUp request)).setFlags block kheapFlagUsed) .used block) block) := by
  simp only [kmalloc, if_neg accepted, found, if_neg nonNull, countAllocation]

theorem kmalloc_eq (vacant : Vacant heap junk) (positive : request ≠ 0)
    (fits : alignUp request ≤ heap.size heap.heapStart) :
    kmalloc heap request = some (heap.heapStart + headerSize,
      countAllocation (listPushFront (takenBlock heap (alignUp request)) .used heap.heapStart)
        heap.heapStart) := by
  have nonNull : heap.heapStart ≠ 0 := Nat.pos_iff_ne_zero.mp vacant.shape.startPositive
  have accepted : ¬ (!heap.initialized ∨ request = 0) := by
    simp [vacant.shape.initialized, positive]
  have found : findBestFit heap (alignUp request) = some heap.heapStart := by
    rw [findBestFit_vacant vacant, if_pos fits]
  rw [← vacant.shape.blockToData_start]
  exact kmalloc_found accepted found nonNull

theorem field_of_memory (same : after.memory = heap.memory) :
    after.field node name = heap.field node name := by
  rw [Kheap.field, Kheap.field, same]

/-- Memory outside the headers and the counters are no part of the shape. -/
theorem Occupied.transfer (occupied : Occupied heap junk)
    (fields : ∀ node ∈ heap.heapStart :: junk, ∀ name, after.field node name = heap.field node name)
    (region : SameRegion heap after) (freeList : after.freeList = heap.freeList)
    (usedList : after.usedList = heap.usedList) : Occupied after junk := by
  have start (name : Field) := fields heap.heapStart (by simp) name
  refine ⟨occupied.shape.mono region (start .magic) (le_of_eq (start .size)) (List.Sublist.refl junk),
    freeList.trans occupied.freeList, ?_, ?_, ?_⟩
  · rw [region.heapStart]
    exact (start .flags).trans occupied.flags
  · rw [region.heapStart, usedList]
    exact occupied.usedList
  · rw [region.heapStart]
    exact occupied.used.frame fun node member => links_congr (fields node member .next) (fields node member .prev)

theorem countAllocation_region : SameRegion heap (countAllocation heap block) := ⟨rfl, rfl, rfl⟩

theorem countAllocation_memory : (countAllocation heap block).memory = heap.memory := rfl

theorem countAllocation_size : (countAllocation heap block).size node = heap.size node := by
  rw [Kheap.size, Kheap.size, field_of_memory countAllocation_memory]

theorem Occupied.count (occupied : Occupied heap junk) : Occupied (countAllocation heap block) junk :=
  occupied.transfer (fun _ _ _ => field_of_memory countAllocation_memory) countAllocation_region rfl rfl

/-- A block taken off the free list becomes the used block. -/
theorem occupied_of_taken {rounded : Nat} {remaining : List Nat} {origin : Option Nat}
    (region : SameRegion heap (takenBlock heap rounded))
    (shape : Shape (takenBlock heap rounded) remaining)
    (freeList : (takenBlock heap rounded).freeList = 0)
    (stretch : (takenBlock heap rounded).links.Stretch none origin
      (pointer (takenBlock heap rounded).usedList) remaining) :
    Occupied (countAllocation (listPushFront (takenBlock heap rounded) .used heap.heapStart)
        heap.heapStart) remaining ∧
      SameRegion heap (countAllocation (listPushFront (takenBlock heap rounded) .used heap.heapStart)
        heap.heapStart) ∧
      ∀ node ∈ heap.heapStart :: remaining,
        (countAllocation (listPushFront (takenBlock heap rounded) .used heap.heapStart)
          heap.heapStart).size node = (takenBlock heap rounded).size node := by
  have flags : (takenBlock heap rounded).flags (takenBlock heap rounded).heapStart = kheapFlagUsed := by
    rw [region.heapStart, takenBlock, Kheap.flags, Kheap.setFlags]
    exact Kheap.field_setField_same kheapFlagUsed_lt
  obtain ⟨occupied, sameRegion, same⟩ := push_used shape freeList flags stretch
  rw [region.heapStart] at occupied sameRegion same
  refine ⟨occupied.count, (region.trans sameRegion).trans countAllocation_region,
    fun node member => ?_⟩
  rw [countAllocation_size]
  exact same node member .size (by decide) (by decide)

theorem takenBlock_state {rounded : Nat} (vacant : Vacant heap junk) :
    ∃ memory, takenBlock heap rounded = { heap with freeList := 0, memory } := by
  obtain ⟨memory, removed⟩ := (remove_free vacant).1
  obtain ⟨memory', split⟩ : ∃ memory',
      splitBlock (listRemove heap .free heap.heapStart) heap.heapStart rounded =
        { listRemove heap .free heap.heapStart with memory := memory' } := splitBlock_state
  refine ⟨(memory'.storeWord (heap.heapStart + Field.flags.offset) kheapFlagUsed), ?_⟩
  rw [takenBlock, split, removed]
  rfl

/-- Without a split the block only changes its flags. -/
theorem takenBlock_whole {rounded : Nat} (vacant : Vacant heap junk)
    (whole : TakenWhole (heap.size heap.heapStart) rounded) (node : Nat)
    (place : node = heap.heapStart ∨ Header node ∧ Apart heap.heapStart node) :
    (takenBlock heap rounded).field node name =
      if node = heap.heapStart ∧ name = .flags then kheapFlagUsed else heap.field node name := by
  have fields := (remove_free vacant).2
  have size : (listRemove heap .free heap.heapStart).size heap.heapStart = heap.size heap.heapStart :=
    fields _ _ (Or.inl rfl)
  have unsplit : splitBlock (listRemove heap .free heap.heapStart) heap.heapStart rounded =
      listRemove heap .free heap.heapStart := by
    apply splitBlock_small
    rw [remainder_lt_iff (by rw [size]; unfold TakenWhole at whole; omega), size]
    exact whole
  have header := vacant.shape.header
  have header' : Header node := place.elim (fun same => same ▸ header) And.left
  rw [takenBlock, unsplit, Kheap.setFlags, Kheap.field_setField header header'
    (place.imp Eq.symm And.right) kheapFlagUsed_lt, fields node name place]

theorem Shape.junkPlace (shape : Shape heap junk) (member : node ∈ junk) :
    node = heap.heapStart ∨ Header node ∧ Apart heap.heapStart node :=
  Or.inr ⟨shape.junkHeader member, shape.spaced.head_apart member⟩

theorem kmalloc_whole (vacant : Vacant heap junk) (positive : request ≠ 0)
    (whole : TakenWhole (heap.size heap.heapStart) (alignUp request)) :
    ∃ after, kmalloc heap request = some (heap.heapStart + headerSize, after) ∧
      Occupied after junk ∧ SameRegion heap after ∧
      ∀ node ∈ heap.heapStart :: junk, after.size node = heap.size node := by
  have fields (name : Field) (node : Nat)
      (place : node = heap.heapStart ∨ Header node ∧ Apart heap.heapStart node) :
      (takenBlock heap (alignUp request)).field node name = _ := takenBlock_whole vacant whole node place
  obtain ⟨memory, state⟩ : ∃ memory, takenBlock heap (alignUp request) =
      { heap with freeList := 0, memory } := takenBlock_state vacant
  have region : SameRegion heap (takenBlock heap (alignUp request)) := by
    rw [state]
    exact ⟨rfl, rfl, rfl⟩
  have start (name : Field) (notFlags : name ≠ .flags) :
      (takenBlock heap (alignUp request)).field heap.heapStart name =
        heap.field heap.heapStart name := by
    rw [fields name _ (Or.inl rfl)]
    simp [notFlags]
  have above (node : Nat) (member : node ∈ junk) (name : Field) :
      (takenBlock heap (alignUp request)).field node name = heap.field node name := by
    have different : node ≠ heap.heapStart := fun same =>
      (List.nodup_cons.mp vacant.shape.spaced.nodup).1 (same ▸ member)
    rw [fields name node (vacant.shape.junkPlace member)]
    simp [different]
  have shape : Shape (takenBlock heap (alignUp request)) junk :=
    vacant.shape.mono region (start .magic (by decide)) (le_of_eq (start .size (by decide)))
      (List.Sublist.refl junk)
  have stretch : (takenBlock heap (alignUp request)).links.Threads
      (pointer (takenBlock heap (alignUp request)).usedList) junk := by
    have sameHead : (takenBlock heap (alignUp request)).usedList = heap.usedList := by rw [state]
    rw [sameHead]
    exact vacant.used.frame fun node member => links_congr (above node member .next) (above node member .prev)
  obtain ⟨occupied, sameRegion, sizes⟩ :=
    occupied_of_taken region shape (by rw [state]) stretch
  refine ⟨_, kmalloc_eq vacant positive (by unfold TakenWhole at whole; omega), occupied, sameRegion,
    fun node member => (sizes node member).trans ?_⟩
  rcases List.mem_cons.mp member with isStart | inJunk
  · rw [isStart]
    exact start .size (by decide)
  · exact above node inJunk .size

/-- Where a block split off the first block lies. -/
theorem Shape.splitAddress {rounded : Nat} (shape : Shape heap junk) (aligned : rounded % 16 = 0)
    (fits : rounded ≤ heap.size heap.heapStart) :
    (heap.heapStart + headerSize + rounded) % 16 = 4 ∧
      heap.heapStart + headerSize + rounded < 2 ^ 32 ∧
      Header (heap.heapStart + headerSize + rounded) := by
  have startAligned := shape.startAligned
  have endAligned := shape.endAligned
  have endBounded := shape.endBounded
  have inside := shape.inside
  unfold headerSize at *
  refine ⟨by omega, by omega, by omega, ?_⟩
  unfold headerSize
  omega

/-- A split writes only the first block, the new header and flags. -/
theorem takenBlock_split {rounded : Nat} (vacant : Vacant heap junk) (aligned : rounded % 16 = 0)
    (fits : rounded ≤ heap.size heap.heapStart)
    (split : ¬ TakenWhole (heap.size heap.heapStart) rounded) :
    (takenBlock heap rounded).size heap.heapStart = rounded ∧
      (takenBlock heap rounded).magic heap.heapStart = kheapMagic ∧
      (takenBlock heap rounded).links.next (heap.heapStart + headerSize + rounded) = none ∧
      (takenBlock heap rounded).links.prev (heap.heapStart + headerSize + rounded) =
        some heap.heapStart ∧
      ∀ node ∈ junk, node ≠ heap.heapStart + headerSize + rounded →
        (takenBlock heap rounded).links.next node = heap.links.next node ∧
          (takenBlock heap rounded).links.prev node = heap.links.prev node := by
  obtain ⟨newAligned, inside, new⟩ := vacant.shape.splitAddress aligned fits
  have fields := (remove_free vacant).2
  have header := vacant.shape.header
  have start (name : Field) : (listRemove heap .free heap.heapStart).field heap.heapStart name =
      heap.field heap.heapStart name := fields _ _ (Or.inl rfl)
  have size : (listRemove heap .free heap.heapStart).size heap.heapStart = heap.size heap.heapStart :=
    start .size
  have last : (listRemove heap .free heap.heapStart).next heap.heapStart = 0 :=
    (start .next).trans (pointer_eq_none.mp vacant.free.2.2)
  have large : kheapMinBlock ≤
      remainder (listRemove heap .free heap.heapStart) heap.heapStart rounded := by
    apply Nat.not_lt.mp
    rw [remainder_lt_iff (by rw [size]; exact fits), size]
    exact split
  have block (name : Field) (notFlags : name ≠ .flags) :
      (takenBlock heap rounded).field heap.heapStart name =
        if name = .size then rounded
        else if name = .next then heap.heapStart + headerSize + rounded
        else heap.field heap.heapStart name := by
    rw [takenBlock, Kheap.setFlags, Kheap.field_setField_field header notFlags,
      splitBlock_block large header inside new (Or.inl last), start]
  have apart : Apart heap.heapStart (heap.heapStart + headerSize + rounded) := by
    unfold Apart
    omega
  have created (name : Field) : (takenBlock heap rounded).field
      (heap.heapStart + headerSize + rounded) name =
        newHeader (listRemove heap .free heap.heapStart) heap.heapStart rounded name := by
    rw [takenBlock, Kheap.setFlags, Kheap.field_setField_apart header new apart,
      splitBlock_new large header inside new (Or.inl last)]
  have positive : heap.heapStart ≠ 0 := Nat.pos_iff_ne_zero.mp vacant.shape.startPositive
  refine ⟨?_, ?_, ?_, ?_, fun node member different => ?_⟩
  · exact block .size (by decide)
  · exact (block .magic (by decide)).trans vacant.shape.magic
  · rw [links_next]
    exact pointer_eq_none.mpr ((created .next).trans last)
  · rw [links_prev]
    exact pointer_eq_some.mpr ⟨created .prev, positive⟩
  · have other := vacant.shape.junkHeader member
    have above := vacant.shape.junkAbove node member
    have nodeAligned := vacant.shape.junkAligned node member
    have apartNode := vacant.shape.spaced.head_apart member
    have kept (name : Field) (notMagic : 4 ≤ name.offset) :
        (takenBlock heap rounded).field node name = heap.field node name := by
      have outside : heap.heapStart + headerSize + rounded + headerSize ≤ node + name.offset := by
        unfold headerSize at *
        omega
      rw [takenBlock, Kheap.setFlags, Kheap.field_setField_apart header other apartNode,
        splitBlock_other large header inside new other apartNode (Or.inr outside) (Or.inl last),
        if_neg fun all => all.2.1 last]
      exact fields node name (Or.inr ⟨other, apartNode⟩)
    exact links_congr (kept .next (by decide)) (kept .prev (by decide))

/-- A block that is not taken whole shrinks to the rounded request and nothing
keeps track of the rest; an exact fit overwrites the header of the next block. -/
theorem kmalloc_split (vacant : Vacant heap junk) (positive : request ≠ 0)
    (fits : alignUp request ≤ heap.size heap.heapStart)
    (split : ¬ TakenWhole (heap.size heap.heapStart) (alignUp request)) :
    ∃ after remaining, kmalloc heap request = some (heap.heapStart + headerSize, after) ∧
      Occupied after remaining ∧ SameRegion heap after ∧ remaining.Sublist junk ∧
      after.size heap.heapStart = alignUp request := by
  obtain ⟨size, magic, newNext, newPrev, kept⟩ :=
    takenBlock_split vacant (alignUp_aligned request) fits split
  obtain ⟨memory, state⟩ : ∃ memory, takenBlock heap (alignUp request) =
      { heap with freeList := 0, memory } := takenBlock_state vacant
  have region : SameRegion heap (takenBlock heap (alignUp request)) := by
    rw [state]
    exact ⟨rfl, rfl, rfl⟩
  have sameHead : (takenBlock heap (alignUp request)).usedList = heap.usedList := by rw [state]
  have shape (remaining : List Nat) (sublist : remaining.Sublist junk) :
      Shape (takenBlock heap (alignUp request)) remaining :=
    vacant.shape.mono region (magic.trans vacant.shape.magic.symm) (by omega) sublist
  have listed : ∃ remaining origin, remaining.Sublist junk ∧
      (takenBlock heap (alignUp request)).links.Stretch none origin
        (pointer (takenBlock heap (alignUp request)).usedList) remaining := by
    rw [sameHead]
    have used := vacant.used
    by_cases overwritten : heap.heapStart + headerSize + alignUp request ∈ junk
    · -- The new header replaces that of the first block above.
      obtain ⟨first, others, isJunk⟩ := List.exists_cons_of_ne_nil (List.ne_nil_of_mem overwritten)
      have isFirst : first = heap.heapStart + headerSize + alignUp request := by
        rw [isJunk] at overwritten
        rcases List.mem_cons.mp overwritten with same | inOthers
        · exact same.symm
        · have apart := vacant.shape.junkApart
          rw [isJunk] at apart
          have below := (List.pairwise_cons.mp apart).1 _ inOthers
          have above := vacant.shape.junkAbove first (by simp [isJunk])
          unfold headerSize at *
          omega
      rw [isJunk] at used
      refine ⟨[first], some heap.heapStart, ?_, used.1, ?_, ?_⟩
      · rw [isJunk]
        exact List.singleton_sublist.mpr (by simp)
      · rw [isFirst]
        exact newPrev
      · rw [isFirst]
        exact newNext
    · refine ⟨junk, none, List.Sublist.refl junk, used.frame fun node member => ?_⟩
      exact kept node member fun same => overwritten (same ▸ member)
  obtain ⟨remaining, origin, sublist, stretch⟩ := listed
  obtain ⟨occupied, sameRegion, sizes⟩ :=
    occupied_of_taken region (shape remaining sublist) (by rw [state]) stretch
  exact ⟨_, remaining, kmalloc_eq vacant positive fits, occupied, sameRegion, sublist,
    (sizes heap.heapStart (by simp)).trans size⟩

end AutismOS.Heap
