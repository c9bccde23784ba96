import AutismOS.Heap.Soundness

namespace AutismOS.Heap

open AutismOS.Library

variable {heap booted : Kheap} {arena after : Arena} {use : HeapUse} {uses : List HeapUse}
variable {junk remaining : List Nat} {result start size ptr request : Nat}

/-! Which resizing calls keep the data of an allocation. -/

/-- The allocator is called, or a byte is written through a pointer. -/
inductive HeapUse where
  | call (call : HeapCall)
  | write (address : Nat) (byte : UInt8)

def useStep (arena : Arena) : HeapUse → Option Arena
  | .call call => heapStep arena call
  | .write address byte =>
      some { arena with heap := { arena.heap with memory := arena.heap.memory.storeByte address byte } }

/-- Calls as before; a write goes to the data of a live allocation's block. -/
def Using (arena : Arena) : HeapUse → Prop
  | .call call => arena.Accepts call ∧ arena.Clears call
  | .write address _ => ∃ ptr ∈ arena.live.map Prod.fst,
      address ∈ Set.Ico ptr (ptr + arena.heap.size (dataToBlock ptr))

/-- Writing into the used block is no step of the allocator. -/
theorem Held.write {address : Nat} {byte : UInt8} (held : Held arena junk) (within : Using arena (.write address byte)) :
    Held { arena with heap := { arena.heap with memory := arena.heap.memory.storeByte address byte } } junk := by
  obtain ⟨ptr, live, above, below⟩ := within
  obtain ⟨isFirst, occupied⟩ := held.live_pointer live
  subst isFirst
  rw [occupied.shape.dataToBlock_start] at below
  have inside := occupied.shape.inside
  have bounded := occupied.shape.endBounded
  obtain ⟨written, region, _⟩ := occupied.overwrite rfl fun other small outside => by
    apply ByteMemory.loadByte_storeByte_other
    have small' : address < 2 ^ 32 := by omega
    rw [Nat.mod_eq_of_lt small, Nat.mod_eq_of_lt small']
    omega
  cases held with
  | vacant none _ => simp [none] at live
  | occupied size one _ => exact .occupied size one written

theorem Held.useStep (held : Held arena junk) (uses : Using arena use) (step : useStep arena use = some after) :
    ∃ remaining, Held after remaining := by
  cases use with
  | call call =>
      obtain ⟨result, remaining, _, outcome⟩ := heapStep_outcome held uses.1 uses.2 step
      exact ⟨remaining, outcome.held held⟩
  | write address byte =>
      obtain rfl := Option.some.inj step
      exact ⟨junk, held.write uses⟩

/-- The allocation is recorded, and its block is a used one on the used list. -/
structure Live (arena : Arena) (ptr size : Nat) : Prop where
  recorded : (ptr, size) ∈ arena.live
  magic : arena.heap.magic (dataToBlock ptr) = kheapMagic
  flags : arena.heap.flags (dataToBlock ptr) = kheapFlagUsed
  listed : ∃ used, Reaches arena.heap arena.heap.usedList used ∧ dataToBlock ptr ∈ used

/-- The bytes at `target` after the call are those at `source` before it. -/
def SameData (before after : Kheap) (source target count : Nat) : Prop :=
  ∀ offset < count, after.memory.loadByte (target + offset) = before.memory.loadByte (source + offset)

theorem SameData.refl (heap : Kheap) (ptr count : Nat) : SameData heap heap ptr ptr count :=
  fun _ _ => rfl

/-- What resizing the allocation at `ptr` to `request` bytes must do when it answers `result`. -/
structure Preserves (before : Arena) (ptr request result : Nat) (after : Arena) : Prop where
  resized : result ≠ 0 → Live after result request ∧ request ≤ after.heap.size (dataToBlock result) ∧
    SameData before.heap after.heap ptr result (min (before.heap.size (dataToBlock ptr)) request)
  refused : result = 0 → (∀ size, (ptr, size) ∈ before.live → Live after ptr size) ∧
    after.heap.size (dataToBlock ptr) = before.heap.size (dataToBlock ptr) ∧
    SameData before.heap after.heap ptr ptr (before.heap.size (dataToBlock ptr))
  others : ∀ other ∈ before.live, other.1 ≠ ptr → other ∈ after.live ∧
    (∀ name, after.heap.field (dataToBlock other.1) name = before.heap.field (dataToBlock other.1) name) ∧
    SameData before.heap after.heap other.1 other.1 (before.heap.size (dataToBlock other.1))

theorem Held.alive (held : Held arena junk) (recorded : (ptr, size) ∈ arena.live) : Live arena ptr size := by
  have live : ptr ∈ arena.live.map Prod.fst := List.mem_map.mpr ⟨_, recorded, rfl⟩
  obtain ⟨isFirst, occupied⟩ := held.live_pointer live
  have block : dataToBlock ptr = arena.heap.heapStart := isFirst ▸ held.shape.dataToBlock_start
  have used : Reaches arena.heap arena.heap.usedList (arena.heap.heapStart :: junk) := by
    apply reaches_of_threads
    rw [occupied.usedList, pointer_of_ne (Nat.pos_iff_ne_zero.mp held.shape.startPositive)]
    exact occupied.used
  constructor
  · exact recorded
  · rw [block]
    exact held.shape.magic
  · rw [block]
    exact occupied.flags
  · rw [block]
    exact ⟨_, used, List.mem_cons_self⟩

/-- There is never another live allocation. -/
theorem Held.only (held : Held arena junk) (live : ptr ∈ arena.live.map Prod.fst) (other : Nat × Nat)
    (member : other ∈ arena.live) : other.1 = ptr :=
  (held.live_pointer (List.mem_map_of_mem member)).1.trans (held.live_pointer live).1.symm

/-- The used block is as large as the request once it was resized, and its data are the old ones. -/
theorem krealloc_resized (occupied : Occupied heap junk) (positive : request ≠ 0)
    (exactly : request ≤ alignUp request) {after : Kheap}
    (resized : krealloc heap (heap.heapStart + headerSize) request = some (result, after)) (nonNull : result ≠ 0) :
    result = heap.heapStart + headerSize ∧ request ≤ after.size heap.heapStart ∧
      SameData heap after result result (min (heap.size heap.heapStart) request) := by
  rw [krealloc_occupied occupied positive] at resized
  by_cases large : heap.size heap.heapStart < alignUp request
  · rw [if_pos large] at resized
    simp only [Option.some.injEq, Prod.mk.injEq] at resized
    exact absurd resized.1.symm nonNull
  · rw [if_neg large] at resized
    by_cases near : heap.size heap.heapStart < alignUp request + headerSize + kheapMinBlock
    · rw [if_pos near] at resized
      simp only [Option.some.injEq, Prod.mk.injEq] at resized
      obtain ⟨rfl, rfl⟩ := resized
      exact ⟨rfl, by omega, .refl _ _ _⟩
    · rw [if_neg near] at resized
      simp only [Option.some.injEq, Prod.mk.injEq] at resized
      obtain ⟨rfl, rfl⟩ := resized
      have aligned : alignUp request % 16 = 0 := alignUp_aligned request
      have room := Nat.not_lt.mp near
      obtain ⟨_, _, shrunk, _⟩ := splitBlock_occupied occupied aligned room
      refine ⟨rfl, by omega, fun offset within => ?_⟩
      apply splitBlock_data occupied aligned room
      omega

theorem krealloc_refused (occupied : Occupied heap junk) (positive : request ≠ 0) {after : Kheap}
    (refused : krealloc heap (heap.heapStart + headerSize) request = some (0, after)) : after = heap := by
  have nonNull : heap.heapStart + headerSize ≠ 0 := by simp [headerSize]
  rw [krealloc_occupied occupied positive] at refused
  split at refused
  · simpa using refused.symm
  · split at refused <;> simp [headerSize] at refused

/-- With a request that is rounded without wrapping around, resizing is sound. -/
theorem Held.preserves (held : Held arena junk) (live : ptr ∈ arena.live.map Prod.fst) (positive : request ≠ 0)
    (bounded : request ≤ 2 ^ 32 - kheapBlockSize)
    (called : heapCall arena (.krealloc ptr request) = some (result, after)) :
    Preserves arena ptr request result after := by
  have accepts : arena.Accepts (.krealloc ptr request) := by
    refine ⟨Or.inr live, ?_⟩
    unfold kheapBlockSize at bounded
    omega
  have heldAfter : ∃ remaining, Held after remaining := by
    obtain ⟨answer, reached, remaining, same, outcome⟩ := heapCall_outcome held accepts trivial
    obtain ⟨rfl, rfl⟩ : answer = result ∧ reached = after := by
      simpa [called, eq_comm] using same
    exact ⟨remaining, outcome.held held⟩
  obtain ⟨remaining, heldAfter⟩ := heldAfter
  have alone (other : Nat × Nat) (member : other ∈ arena.live) (different : other.1 ≠ ptr) : False :=
    different (held.only live other member)
  obtain ⟨isFirst, occupied⟩ := held.live_pointer live
  have block : dataToBlock ptr = arena.heap.heapStart := isFirst ▸ held.shape.dataToBlock_start
  have nonNull : ptr ≠ 0 := by simp [isFirst, headerSize]
  obtain ⟨⟨answer, heap⟩, resized, same⟩ := Option.map_eq_some_iff.mp called
  rw [isFirst] at resized
  rw [if_neg nonNull, if_neg positive] at same
  by_cases failed : answer = 0
  · subst failed
    have unchanged : heap = arena.heap := krealloc_refused occupied positive resized
    subst unchanged
    obtain ⟨rfl, rfl⟩ : 0 = result ∧ arena = after := by simpa using same
    constructor
    · intro nonNull
      exact absurd rfl nonNull
    · intro _
      exact ⟨fun size recorded => held.alive recorded, rfl, .refl _ _ _⟩
    · intro other member different
      exact absurd (alone other member different) id
  · rw [if_neg failed] at same
    obtain ⟨rfl, rfl⟩ : answer = result ∧ Arena.mk heap ((answer, request) :: arena.release ptr) = after := by
      simpa using same
    obtain ⟨samePtr, large, data⟩ :=
      krealloc_resized occupied positive (alignUp_bounds bounded).1 resized failed
    rw [← isFirst] at samePtr
    subst samePtr
    constructor
    · intro _
      refine ⟨heldAfter.alive (by simp), ?_, ?_⟩
      · rw [block]
        exact large
      · rw [block]
        exact data
    · intro isNull
      exact absurd isNull failed
    · intro other member different
      exact absurd (alone other member different) id

/-- A request that wraps around is granted with a block that is too small. -/
theorem Held.wrapped_lost (held : Held arena junk) (live : ptr ∈ arena.live.map Prod.fst) (small : request < 2 ^ 32)
    (wraps : 2 ^ 32 - kheapBlockSize < request) :
    ∃ result after, heapCall arena (.krealloc ptr request) = some (result, after) ∧
      ¬ Preserves arena ptr request result after := by
  obtain ⟨isFirst, occupied⟩ := held.live_pointer live
  have accepts : arena.Accepts (.krealloc ptr request) := ⟨Or.inr live, small⟩
  have notRounds : ¬ arena.Rounds (.krealloc ptr request) := by
    have nonNull : ptr ≠ 0 := by simp [isFirst, headerSize]
    simp only [Arena.Rounds, HeapCall.request, HeapCall.Allocates, nonNull, false_and, or_false]
    omega
  obtain ⟨after, served⟩ := wrapped_served held accepts trivial notRounds
  refine ⟨_, after, served, fun preserves => ?_⟩
  obtain ⟨_, large, _⟩ := preserves.resized (by simp [headerSize])
  obtain ⟨answer, reached, remaining, same, outcome⟩ := heapCall_outcome held accepts trivial
  obtain ⟨_, rfl⟩ : answer = arena.heap.heapStart + headerSize ∧ reached = after := by
    simpa [served, eq_comm] using same
  have shape := (outcome.held held).shape
  have inside := shape.inside
  have ends := shape.endBounded
  have positive := shape.startPositive
  have aligned := shape.startAligned
  rw [← outcome.region.heapStart, shape.dataToBlock_start] at large
  unfold kheapBlockSize headerSize at *
  omega

theorem run_held (fresh : heap.initialized = false) (done : kheapInit heap start size = (0, booted))
    (bounded : start + size < 2 ^ 32)
    (run : Run (Guarded Using (Stepping useStep)) ⟨booted, []⟩ uses arena) : ∃ junk, Held arena junk := by
  obtain ⟨vacant, _⟩ := kheapInit_booted fresh done bounded
  apply run.invariant fun arena => ∃ junk, Held arena junk
  · intro before use after held step
    obtain ⟨junk, held⟩ := held
    exact held.useStep step.1 step.2
  · exact ⟨[], .vacant rfl vacant⟩

/-- After every run, resizing a live allocation returns and keeps its data exactly
when the request is rounded without wrapping around. -/
theorem run_krealloc_preserves_iff (fresh : heap.initialized = false)
    (done : kheapInit heap start size = (0, booted)) (bounded : start + size < 2 ^ 32)
    (run : Run (Guarded Using (Stepping useStep)) ⟨booted, []⟩ uses arena)
    (live : ptr ∈ arena.live.map Prod.fst) (positive : request ≠ 0) (small : request < 2 ^ 32) :
    (∃ result after, heapCall arena (.krealloc ptr request) = some (result, after) ∧
      Preserves arena ptr request result after) ↔ request ≤ 2 ^ 32 - kheapBlockSize := by
  obtain ⟨junk, held⟩ := run_held fresh done bounded run
  constructor
  · intro preserved
    apply Nat.not_lt.mp
    intro wraps
    obtain ⟨result, after, called, preserves⟩ := preserved
    obtain ⟨result', after', called', lost⟩ := held.wrapped_lost live small wraps
    obtain ⟨rfl, rfl⟩ : result = result' ∧ after = after' := by
      simpa [called] using called'
    exact lost preserves
  · intro rounds
    have accepts : arena.Accepts (.krealloc ptr request) := ⟨Or.inr live, small⟩
    obtain ⟨result, after, _, called, _⟩ := heapCall_outcome held accepts trivial
    exact ⟨result, after, called, held.preserves live positive rounds called⟩

/-- The first allocation of a heap of 4 KB, of 100 bytes. -/
theorem blankHeap_used :
    ∃ booted arena, kheapInit blankHeap 0x100000 0x1000 = (0, booted) ∧
      Run (Guarded Using (Stepping useStep)) ⟨booted, []⟩ [.call (.kmalloc 100)] arena ∧
      arena.live = [(0x100014, 100)] ∧ Occupied arena.heap [] ∧ arena.heap.heapStart = 0x100000 ∧
      arena.heap.size 0x100000 = 112 := by
  have positive : 100 ≠ 0 := by decide
  obtain ⟨booted, arena, done, _, _, step, live, occupied, startAt, _, size⟩ :=
    blankHeap_allocated positive (by decide)
  have accepts : Arena.Accepts ⟨booted, []⟩ (.kmalloc 100) := by simp [Arena.Accepts]
  have run : Run (Guarded Using (Stepping useStep)) ⟨booted, []⟩ [.call (.kmalloc 100)] arena :=
    .single ⟨⟨accepts, trivial⟩, step⟩
  exact ⟨booted, arena, done, run, live, occupied, startAt, size⟩

/-- Shrinking an allocation that was written to. -/
theorem run_krealloc_preserves_written :
    ∃ booted arena, kheapInit blankHeap 0x100000 0x1000 = (0, booted) ∧
      Run (Guarded Using (Stepping useStep)) ⟨booted, []⟩ [.call (.kmalloc 100), .write 0x100014 7] arena ∧
      ((∃ result after, heapCall arena (.krealloc 0x100014 16) = some (result, after) ∧
        Preserves arena 0x100014 16 result after) ↔ 16 ≤ 2 ^ 32 - kheapBlockSize) := by
  obtain ⟨booted, arena, done, run, live, _, _, size⟩ := blankHeap_used
  have member : 0x100014 ∈ arena.live.map Prod.fst := by simp [live]
  have within : Using arena (.write 0x100014 7) := by
    refine ⟨0x100014, member, ?_⟩
    have block : dataToBlock 0x100014 = 0x100000 := by decide
    rw [block, size]
    simp
  have run : Run (Guarded Using (Stepping useStep)) ⟨booted, []⟩ [.call (.kmalloc 100), .write 0x100014 7] _ :=
    run.append (.single ⟨within, rfl⟩)
  exact ⟨booted, _, done, run, run_krealloc_preserves_iff rfl done (by decide) run member (by decide) (by decide)⟩

/-- Growing it to all but one byte of the address space is granted. -/
theorem krealloc_wraps_around :
    ∃ booted arena result after, kheapInit blankHeap 0x100000 0x1000 = (0, booted) ∧
      Run (Guarded Using (Stepping useStep)) ⟨booted, []⟩ [.call (.kmalloc 100)] arena ∧
      heapCall arena (.krealloc 0x100014 0xFFFFFFFF) = some (result, after) ∧
      ¬ Preserves arena 0x100014 0xFFFFFFFF result after := by
  obtain ⟨booted, arena, done, run, live, occupied, startAt, _⟩ := blankHeap_used
  have held : Held arena [] := by
    apply Held.occupied 100
    · rw [live, startAt, headerSize]
    · exact occupied
  have member : 0x100014 ∈ arena.live.map Prod.fst := by simp [live]
  have wraps : 2 ^ 32 - kheapBlockSize < 0xFFFFFFFF := by decide
  obtain ⟨result, after, called, lost⟩ := held.wrapped_lost member (by decide) wraps
  exact ⟨booted, arena, result, after, done, run, called, lost⟩

end AutismOS.Heap

namespace AutismOS.Heap

open AutismOS.Library

variable {heap booted after : Kheap} {arena next later : Arena} {call : HeapCall} {use : HeapUse}
variable {uses more : List HeapUse} {junk remaining : List Nat} {result start size ptr request wanted : Nat}

/-- The size of the first block, the only one that is ever handed out. -/
def Kheap.capacity (heap : Kheap) : Nat := heap.size heap.heapStart

theorem SameRegion.capacity (region : SameRegion heap after)
    (same : after.size heap.heapStart = heap.size heap.heapStart) : after.capacity = heap.capacity := by
  rw [Kheap.capacity, region.heapStart, same]
  rfl

theorem kmalloc_capacity (held : Held arena junk) (done : kmalloc arena.heap request = some (result, after)) :
    after.capacity ≤ arena.heap.capacity := by
  cases held with
  | occupied _ _ occupied =>
      rw [kmalloc_occupied occupied] at done
      cases done
      exact Nat.le_refl _
  | vacant _ vacant =>
      by_cases large : arena.heap.size arena.heap.heapStart < alignUp request
      · rw [kmalloc_too_large vacant large] at done
        cases done
        exact Nat.le_refl _
      · by_cases zero : request = 0
        · simp only [kmalloc, zero, or_true, if_true, Option.some.injEq, Prod.mk.injEq] at done
          rw [done.2]
        · by_cases whole : TakenWhole (arena.heap.size arena.heap.heapStart) (alignUp request)
          · obtain ⟨taken, served, _, region, sizes⟩ := kmalloc_whole vacant zero whole
            rw [served] at done
            cases done
            exact Nat.le_of_eq (region.capacity (sizes _ List.mem_cons_self))
          · obtain ⟨taken, remaining, served, _, region, _, size⟩ :=
              kmalloc_split vacant zero (Nat.not_lt.mp large) whole
            rw [served] at done
            cases done
            rw [Kheap.capacity, region.heapStart, size]
            exact Nat.not_lt.mp large

theorem kcalloc_capacity {num : Nat} (held : Held arena junk) (clears : arena.Clears (.kcalloc num size))
    (done : kcalloc arena.heap num size = some (result, after)) : after.capacity ≤ arena.heap.capacity := by
  by_cases large : 2 ^ 32 ≤ num * size
  · rw [kcalloc_overflow large] at done
    cases done
    exact Nat.le_refl _
  · have small : num * size < 2 ^ 32 := Nat.not_le.mp large
    rw [kcalloc_eq small] at done
    obtain ⟨⟨answer, middle⟩, served, cleared⟩ := Option.map_eq_some_iff.mp done
    have bounded := kmalloc_capacity held served
    rcases kmalloc_cases held (num * size) with failed | ⟨granted, remaining, grants, taken⟩
    · rw [failed] at served
      cases served
      rw [zeroed, if_pos rfl] at cleared
      cases cleared
      exact bounded
    · rw [grants] at served
      cases served
      have nonNull : arena.heap.heapStart + headerSize ≠ 0 := by simp [headerSize]
      rw [zeroed, if_neg nonNull] at cleared
      cases cleared
      have place : ({ middle with memory := middle.memory.fill (arena.heap.heapStart + headerSize) 0 (num * size) } :
          Kheap) = { middle with memory := middle.memory.fill (middle.heapStart + headerSize) 0 (num * size) } := by
        rw [taken.region.heapStart]
      obtain ⟨_, region, sizes⟩ := taken.occupied.fill (taken.clears clears small) place
      exact Nat.le_trans (Nat.le_of_eq (region.capacity (sizes _ List.mem_cons_self))) bounded

/-- Calls other than allocations leave the block or make it smaller. -/
theorem Outcome.capacity (outcome : Outcome arena junk call result next remaining) (other : ¬ call.Allocates) :
    next.heap.capacity ≤ arena.heap.capacity := by
  cases outcome with
  | failed => exact Nat.le_refl _
  | released _ after vacant region sizes => exact Nat.le_of_eq (region.capacity (sizes _ List.mem_cons_self))
  | taken _ after remaining allocates => exact absurd allocates other
  | kept => exact Nat.le_refl _
  | shrunk size after room zero occupied region start =>
      rw [Kheap.capacity, region.heapStart, start]
      unfold Kheap.capacity
      omega

theorem heapStep_capacity (held : Held arena junk) (accepts : arena.Accepts call) (clears : arena.Clears call)
    (step : heapStep arena call = some next) : next.heap.capacity ≤ arena.heap.capacity := by
  obtain ⟨answer, remaining, called, outcome⟩ := heapStep_outcome held accepts clears step
  cases call with
  | kmalloc size =>
      obtain ⟨⟨ptr, after⟩, done, same⟩ := Option.map_eq_some_iff.mp called
      cases same
      exact kmalloc_capacity held done
  | kcalloc num size =>
      obtain ⟨⟨ptr, after⟩, done, same⟩ := Option.map_eq_some_iff.mp called
      cases same
      exact kcalloc_capacity held clears done
  | krealloc ptr size =>
      by_cases isNull : ptr = 0
      · obtain ⟨⟨ptr, after⟩, done, same⟩ := Option.map_eq_some_iff.mp called
        subst isNull
        rw [krealloc_null] at done
        rw [if_pos rfl] at same
        cases same
        exact kmalloc_capacity held done
      · exact outcome.capacity isNull
  | kfree ptr => exact outcome.capacity id

theorem useStep_capacity (held : Held arena junk) (using_ : Using arena use) (step : useStep arena use = some next) :
    next.heap.capacity ≤ arena.heap.capacity := by
  cases use with
  | call call => exact heapStep_capacity held using_.1 using_.2 step
  | write address byte =>
      obtain ⟨ptr, live, above, below⟩ := using_
      obtain ⟨isFirst, occupied⟩ := held.live_pointer live
      subst isFirst
      rw [occupied.shape.dataToBlock_start] at below
      have inside := occupied.shape.inside
      have bounded := occupied.shape.endBounded
      cases step
      obtain ⟨_, region, sizes⟩ := occupied.overwrite rfl fun other small outside => by
        apply ByteMemory.loadByte_storeByte_other
        have small' : address < 2 ^ 32 := by omega
        rw [Nat.mod_eq_of_lt small, Nat.mod_eq_of_lt small']
        omega
      exact Nat.le_of_eq (region.capacity (sizes _ List.mem_cons_self))

/-- The block only gets smaller. -/
theorem held_run (held : Held arena junk) (run : Run (Guarded Using (Stepping useStep)) arena uses later) :
    (∃ remaining, Held later remaining) ∧ later.heap.capacity ≤ arena.heap.capacity := by
  refine run.invariant (fun later => (∃ remaining, Held later remaining) ∧
    later.heap.capacity ≤ arena.heap.capacity) ?_ ⟨⟨junk, held⟩, Nat.le_refl _⟩
  intro before use after holds step
  obtain ⟨⟨remaining, held⟩, smaller⟩ := holds
  exact ⟨held.useStep step.1 step.2, Nat.le_trans (useStep_capacity held step.1 step.2) smaller⟩

theorem kheapInit_held (fresh : heap.initialized = false) (done : kheapInit heap start size = (0, booted))
    (bounded : start + size < 2 ^ 32) : Held ⟨booted, []⟩ [] :=
  .vacant rfl (kheapInit_booted fresh done bounded).1

/-- What is served, of a request: nothing while an allocation is live. -/
theorem Held.serves_iff (held : Held arena junk) : (∃ ptr after, kmalloc arena.heap request = some (ptr, after) ∧ ptr ≠ 0) ↔
    arena.live = [] ∧ request ≠ 0 ∧ alignUp request ≤ arena.heap.capacity := by
  rcases kmalloc_cases held request with failed | ⟨after, remaining, served, taken⟩
  · refine iff_of_false ?_ ?_
    · rintro ⟨ptr, after, done, nonNull⟩
      rw [failed] at done
      cases done
      exact nonNull rfl
    · rintro ⟨none, positive, fits⟩
      cases held with
      | occupied size one _ =>
          rw [one] at none
          cases none
      | vacant _ vacant =>
          have nonNull : arena.heap.heapStart + headerSize ≠ 0 := by simp [headerSize]
          by_cases whole : TakenWhole (arena.heap.size arena.heap.heapStart) (alignUp request)
          · obtain ⟨taken, served, _⟩ := kmalloc_whole vacant positive whole
            rw [failed] at served
            exact nonNull (congrArg Prod.fst (Option.some.inj served)).symm
          · obtain ⟨taken, remaining, served, _⟩ := kmalloc_split vacant positive fits whole
            rw [failed] at served
            exact nonNull (congrArg Prod.fst (Option.some.inj served)).symm
  · refine iff_of_true ⟨_, after, served, ?_⟩ ⟨taken.live held, taken.requested, taken.fits⟩
    simp [headerSize]

/-- After every run an allocation is served exactly when no other one is live and the first block is
large enough; and that block never grows again. -/
theorem run_serves_iff (fresh : heap.initialized = false) (done : kheapInit heap start size = (0, booted))
    (bounded : start + size < 2 ^ 32) (run : Run (Guarded Using (Stepping useStep)) ⟨booted, []⟩ uses arena) :
    (∀ request, (∃ ptr after, kmalloc arena.heap request = some (ptr, after) ∧ ptr ≠ 0) ↔
      arena.live = [] ∧ request ≠ 0 ∧ alignUp request ≤ arena.heap.capacity) ∧
    ∀ more later, Run (Guarded Using (Stepping useStep)) arena more later →
      later.heap.capacity ≤ arena.heap.capacity := by
  obtain ⟨⟨junk, held⟩, _⟩ := held_run (kheapInit_held fresh done bounded) run
  exact ⟨fun _ => held.serves_iff, fun _ _ further => (held_run held further).2⟩

theorem run_serves_iff_one :
    ∃ booted arena, kheapInit blankHeap 0x100000 0x1000 = (0, booted) ∧
      (∀ request, (∃ ptr after, kmalloc arena.heap request = some (ptr, after) ∧ ptr ≠ 0) ↔
        arena.live = [] ∧ request ≠ 0 ∧ alignUp request ≤ arena.heap.capacity) ∧
      ∀ more later, Run (Guarded Using (Stepping useStep)) arena more later →
        later.heap.capacity ≤ arena.heap.capacity := by
  obtain ⟨booted, arena, done, run, _⟩ := blankHeap_used
  exact ⟨booted, arena, done, run_serves_iff rfl done (by decide) run⟩

/-- What an allocation cuts off is lost: after it, however it goes on and whatever is freed, no larger
request is served any more. -/
theorem run_never_larger (fresh : heap.initialized = false) (done : kheapInit heap start size = (0, booted))
    (bounded : start + size < 2 ^ 32) (run : Run (Guarded Using (Stepping useStep)) ⟨booted, []⟩ uses arena)
    (accepts : request < 2 ^ 32) (served : heapCall arena (.kmalloc request) = some (ptr, next)) (nonNull : ptr ≠ 0)
    (room : alignUp request + headerSize + kheapMinBlock ≤ arena.heap.capacity)
    (further : Run (Guarded Using (Stepping useStep)) next more later) (larger : alignUp request < alignUp wanted) :
    kmalloc later.heap wanted = some (0, later.heap) := by
  obtain ⟨⟨junk, held⟩, _⟩ := held_run (kheapInit_held fresh done bounded) run
  have step : heapStep arena (.kmalloc request) = some next := by rw [heapStep, served, Option.map_some]
  have allowed : arena.Accepts (.kmalloc request) := accepts
  obtain ⟨answer, remaining, _, outcome⟩ := heapStep_outcome held allowed trivial step
  have small : next.heap.capacity = alignUp request := by
    obtain ⟨⟨granted, after⟩, grants, same⟩ := Option.map_eq_some_iff.mp served
    cases same
    obtain ⟨none, positive, fits⟩ := held.serves_iff.mp ⟨granted, after, grants, nonNull⟩
    cases held with
    | occupied size one _ =>
        rw [one] at none
        cases none
    | vacant _ vacant =>
        have split : ¬ TakenWhole (arena.heap.size arena.heap.heapStart) (alignUp request) := by
          unfold TakenWhole
          unfold Kheap.capacity at room
          omega
        obtain ⟨taken, remaining, taking, _, region, _, size⟩ := kmalloc_split vacant positive fits split
        rw [grants] at taking
        cases taking
        change after.capacity = alignUp request
        rw [Kheap.capacity, region.heapStart, size]
  obtain ⟨⟨junk, laterHeld⟩, smaller⟩ := held_run (outcome.held held) further
  rcases kmalloc_cases laterHeld wanted with failed | ⟨after, remaining, _, taken⟩
  · exact failed
  · have fits := taken.fits
    unfold Kheap.capacity at smaller small
    omega

/-- 200 bytes after 100 bytes were allocated and freed. -/
theorem run_never_larger_freed :
    ∃ booted arena, kheapInit blankHeap 0x100000 0x1000 = (0, booted) ∧
      heapCall ⟨booted, []⟩ (.kmalloc 100) = some (0x100014, arena) ∧
      kmalloc (kfree arena.heap 0x100014) 200 = some (0, kfree arena.heap 0x100014) := by
  have positive : 100 ≠ 0 := by decide
  obtain ⟨booted, arena, done, vacant, _, step, live, _, _, _⟩ := blankHeap_allocated positive (by decide)
  obtain ⟨⟨ptr, next⟩, served, rfl⟩ := Option.map_eq_some_iff.mp step
  have granted : ptr = 0x100014 := by
    obtain ⟨⟨granted, after⟩, _, same⟩ := Option.map_eq_some_iff.mp served
    cases same
    by_cases refused : granted = 0
    · simp [refused] at live
    · simpa [refused] using live
  subst granted
  dsimp only at live
  have frees : Using next (.call (.kfree 0x100014)) := ⟨Or.inr (by simp [live]), trivial⟩
  have room : alignUp 100 + headerSize + kheapMinBlock ≤ booted.capacity := by
    obtain ⟨other, booting, _, startAt, _, size⟩ := blankHeap_booted
    rw [done] at booting
    cases booting
    rw [Kheap.capacity, startAt, size]
    decide
  exact ⟨booted, next, done, served, run_never_larger rfl done (by decide) (.nil _) (by decide) served (by decide) room
    (.single ⟨frees, rfl⟩) (by decide)⟩

end AutismOS.Heap
