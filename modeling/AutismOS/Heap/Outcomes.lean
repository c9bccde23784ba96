import AutismOS.Library.Run
import AutismOS.Heap.Calls
import Mathlib.Data.Set.BooleanAlgebra
import Mathlib.Order.CompletePartialOrder
import Mathlib.Order.Interval.Set.Basic

namespace AutismOS.Heap

open AutismOS.Library

variable {heap : Kheap} {arena after : Arena} {call : HeapCall} {junk remaining : List Nat}
variable {result size : Nat}

/-! What a call can do to a reachable heap. -/

/-- The arguments are 32-bit values, and a pointer is NULL or that of a live allocation. -/
def Arena.Accepts (arena : Arena) : HeapCall → Prop
  | .kmalloc size => size < 2 ^ 32
  | .kcalloc num size => num < 2 ^ 32 ∧ size < 2 ^ 32
  | .krealloc ptr size => (ptr = 0 ∨ ptr ∈ arena.live.map Prod.fst) ∧ size < 2 ^ 32
  | .kfree ptr => ptr = 0 ∨ ptr ∈ arena.live.map Prod.fst

instance (arena : Arena) : (call : HeapCall) → Decidable (arena.Accepts call)
  | .kmalloc _ => inferInstanceAs (Decidable (_ < _))
  | .kcalloc _ _ => inferInstanceAs (Decidable (_ ∧ _))
  | .krealloc _ _ => inferInstanceAs (Decidable ((_ ∨ _) ∧ _))
  | .kfree _ => inferInstanceAs (Decidable (_ ∨ _))

/-- The number of bytes that a call asks for. -/
def HeapCall.request : HeapCall → Nat
  | .kmalloc size => size
  | .kcalloc num size => num * size
  | .krealloc _ size => size
  | .kfree _ => 0

/-- The call asks for a new block. -/
def HeapCall.Allocates : HeapCall → Prop
  | .kmalloc _ => True
  | .kcalloc _ _ => True
  | .krealloc ptr _ => ptr = 0
  | .kfree _ => False

instance : (call : HeapCall) → Decidable call.Allocates
  | .kmalloc _ => inferInstanceAs (Decidable True)
  | .kcalloc _ _ => inferInstanceAs (Decidable True)
  | .krealloc _ _ => inferInstanceAs (Decidable (_ = _))
  | .kfree _ => inferInstanceAs (Decidable False)

/-- `kcalloc` does not clear more than it allocates: the size is rounded without
wrapping around, or there is nothing to allocate. -/
def Arena.Clears (arena : Arena) : HeapCall → Prop
  | .kcalloc num size =>
      num * size ≤ 2 ^ 32 - kheapBlockSize ∨ 2 ^ 32 ≤ num * size ∨ arena.heap.freeList = 0
  | _ => True

instance (arena : Arena) : (call : HeapCall) → Decidable (arena.Clears call)
  | .kmalloc _ => inferInstanceAs (Decidable True)
  | .kcalloc _ _ => inferInstanceAs (Decidable (_ ∨ _ ∨ _))
  | .krealloc _ _ => inferInstanceAs (Decidable True)
  | .kfree _ => inferInstanceAs (Decidable True)

/-- At most one allocation is live at a time, always in the first block. -/
inductive Held (arena : Arena) (junk : List Nat) : Prop where
  | vacant : arena.live = [] → Vacant arena.heap junk → Held arena junk
  | occupied (size : Nat) : arena.live = [(arena.heap.heapStart + headerSize, size)] →
      Occupied arena.heap junk → Held arena junk

theorem Held.shape (held : Held arena junk) : Shape arena.heap junk := by
  cases held with
  | vacant _ vacant => exact vacant.shape
  | occupied _ _ occupied => exact occupied.shape

/-- A live pointer belongs to the first block. -/
theorem Held.live_pointer {ptr : Nat} (held : Held arena junk) (live : ptr ∈ arena.live.map Prod.fst) :
    ptr = arena.heap.heapStart + headerSize ∧ Occupied arena.heap junk := by
  cases held with
  | vacant none _ => simp [none] at live
  | occupied size one occupied =>
      rw [one] at live
      exact ⟨List.mem_singleton.mp live, occupied⟩

/-- The blocks that a list head leads to, following `next` until NULL. -/
def Reaches (heap : Kheap) : Nat → List Nat → Prop
  | head, [] => head = 0
  | head, block :: rest => head ≠ 0 ∧ block = head ∧ Reaches heap (heap.next block) rest

theorem Reaches.unique {head : Nat} {first second : List Nat} (left : Reaches heap head first)
    (right : Reaches heap head second) : first = second := by
  induction first generalizing head second with
  | nil =>
      cases second with
      | nil => rfl
      | cons block rest => exact absurd left right.1
  | cons block rest ih =>
      cases second with
      | nil => exact absurd right left.1
      | cons other others =>
          obtain ⟨_, isHead, remaining⟩ := left
          obtain ⟨_, isHead', remaining'⟩ := right
          have same : block = other := isHead.trans isHead'.symm
          subst same
          rw [ih remaining remaining']

theorem reaches_of_threads {head : Nat} {nodes : List Nat} {before : Option Nat}
    (stretch : heap.links.Stretch none before (pointer head) nodes) : Reaches heap head nodes := by
  induction nodes generalizing head before with
  | nil => exact pointer_eq_none.mp stretch
  | cons node rest ih =>
      obtain ⟨isHead, _, remaining⟩ := stretch
      obtain ⟨same, positive⟩ := pointer_eq_some.mp isHead
      exact ⟨same ▸ positive, same.symm, ih remaining⟩

/-- Together the two lists hold the first block and the blocks above it. -/
theorem Held.listed (held : Held arena junk) :
    ∃ free used, Reaches arena.heap arena.heap.freeList free ∧
      Reaches arena.heap arena.heap.usedList used ∧ free ++ used = arena.heap.heapStart :: junk := by
  have isStart : pointer arena.heap.heapStart = some arena.heap.heapStart :=
    pointer_of_ne (Nat.pos_iff_ne_zero.mp held.shape.startPositive)
  cases held with
  | vacant _ vacant =>
      have free : arena.heap.links.Threads (pointer arena.heap.freeList) [arena.heap.heapStart] := by
        rw [vacant.freeList, isStart]
        exact vacant.free
      exact ⟨[arena.heap.heapStart], junk, reaches_of_threads free, reaches_of_threads vacant.used, rfl⟩
  | occupied _ _ occupied =>
      have used : arena.heap.links.Threads (pointer arena.heap.usedList)
          (arena.heap.heapStart :: junk) := by
        rw [occupied.usedList, isStart]
        exact occupied.used
      exact ⟨[], arena.heap.heapStart :: junk, occupied.freeList, reaches_of_threads used, rfl⟩

def blockEnd (heap : Kheap) (block : Nat) : Nat := block + headerSize + heap.size block

/-- The bytes of a block: its header and its data. -/
def Kheap.bytes (heap : Kheap) (block : Nat) : Set Nat := Set.Ico block (blockEnd heap block)

/-- The first block was free and is now allocated to a request. -/
structure Taken (before : Kheap) (junk : List Nat) (request : Nat) (after : Kheap)
    (remaining : List Nat) : Prop where
  vacant : Vacant before junk
  requested : request ≠ 0
  fits : alignUp request ≤ before.size before.heapStart
  occupied : Occupied after remaining
  region : SameRegion before after
  sublist : remaining.Sublist junk
  room : alignUp request ≤ after.size before.heapStart
  whole : TakenWhole (before.size before.heapStart) (alignUp request) →
    remaining = junk ∧ ∀ node ∈ before.heapStart :: junk, after.size node = before.size node

theorem kmalloc_cases (held : Held arena junk) (request : Nat) :
    kmalloc arena.heap request = some (0, arena.heap) ∨
      ∃ after remaining, kmalloc arena.heap request =
          some (arena.heap.heapStart + headerSize, after) ∧
        Taken arena.heap junk request after remaining := by
  cases held with
  | occupied _ _ occupied => exact Or.inl (kmalloc_occupied occupied request)
  | vacant _ vacant =>
      by_cases large : arena.heap.size arena.heap.heapStart < alignUp request
      · exact Or.inl (kmalloc_too_large vacant large)
      · by_cases zero : request = 0
        · exact Or.inl (by simp [kmalloc, zero])
        · have fits := Nat.not_lt.mp large
          refine Or.inr ?_
          by_cases whole : TakenWhole (arena.heap.size arena.heap.heapStart) (alignUp request)
          · obtain ⟨after, done, occupied, region, sizes⟩ := kmalloc_whole vacant zero whole
            refine ⟨after, junk, done, vacant, zero, fits, occupied, region, List.Sublist.refl junk, ?_,
              fun _ => ⟨rfl, sizes⟩⟩
            rw [sizes _ (by simp)]
            exact fits
          · obtain ⟨after, remaining, done, occupied, region, sublist, size⟩ :=
              kmalloc_split vacant zero fits whole
            exact ⟨after, remaining, done, vacant, zero, fits, occupied, region, sublist, le_of_eq size.symm,
              fun all => absurd all whole⟩

/-- Clearing the allocated bytes changes nothing else. -/
theorem Taken.fill {after cleared : Kheap} (taken : Taken heap junk size after remaining)
    (fits : size ≤ after.size after.heapStart)
    (same : cleared = { after with memory := after.memory.fill (after.heapStart + headerSize) 0 size }) :
    Taken heap junk size cleared remaining := by
  obtain ⟨occupied, region, sizes⟩ := taken.occupied.fill fits same
  have start : heap.heapStart ∈ after.heapStart :: remaining := by simp [taken.region.heapStart]
  refine ⟨taken.vacant, taken.requested, taken.fits, occupied, taken.region.trans region, taken.sublist, ?_,
    fun whole => ?_⟩
  · rw [sizes _ start]
    exact taken.room
  · obtain ⟨same, before⟩ := taken.whole whole
    refine ⟨same, fun node member => (sizes node ?_).trans (before node member)⟩
    rw [same, taken.region.heapStart]
    exact member

/-- Everything a call can do: what it returns, the state it leaves and the blocks
that stay above the first one. -/
inductive Outcome (arena : Arena) (junk : List Nat) : HeapCall → Nat → Arena → List Nat → Prop where
  | failed (call : HeapCall) : Outcome arena junk call 0 arena junk
  | released (call : HeapCall) (after : Kheap) : Vacant after junk → SameRegion arena.heap after →
      (∀ node ∈ arena.heap.heapStart :: junk, after.size node = arena.heap.size node) →
      Outcome arena junk call 0 ⟨after, []⟩ junk
  | taken (call : HeapCall) (after : Kheap) (remaining : List Nat) : call.Allocates →
      call.request < 2 ^ 32 → Taken arena.heap junk call.request after remaining →
      Outcome arena junk call (arena.heap.heapStart + headerSize)
        ⟨after, [(arena.heap.heapStart + headerSize, call.request)]⟩ remaining
  | kept (size : Nat) : Occupied arena.heap junk → size ≠ 0 →
      alignUp size ≤ arena.heap.size arena.heap.heapStart →
      Outcome arena junk (.krealloc (arena.heap.heapStart + headerSize) size)
        (arena.heap.heapStart + headerSize)
        ⟨arena.heap, [(arena.heap.heapStart + headerSize, size)]⟩ junk
  | shrunk (size : Nat) (after : Kheap) :
      alignUp size + headerSize + kheapMinBlock ≤ arena.heap.size arena.heap.heapStart → size ≠ 0 →
      Occupied after (splitAddress arena.heap (alignUp size) :: junk) → SameRegion arena.heap after →
      after.size arena.heap.heapStart = alignUp size →
      after.size (splitAddress arena.heap (alignUp size)) =
        arena.heap.size arena.heap.heapStart - alignUp size - headerSize →
      (∀ node ∈ junk, after.size node = arena.heap.size node) →
      Outcome arena junk (.krealloc (arena.heap.heapStart + headerSize) size)
        (arena.heap.heapStart + headerSize)
        ⟨after, [(arena.heap.heapStart + headerSize, size)]⟩
        (splitAddress arena.heap (alignUp size) :: junk)

theorem Outcome.held (outcome : Outcome arena junk call result after remaining)
    (held : Held arena junk) : Held after remaining := by
  cases outcome with
  | failed => exact held
  | released _ _ vacant => exact .vacant rfl vacant
  | taken _ _ _ _ _ taken => exact .occupied call.request (by rw [taken.region.heapStart]) taken.occupied
  | kept size occupied => exact .occupied size rfl occupied
  | shrunk size _ _ _ occupied region => exact .occupied size (by rw [region.heapStart]) occupied

theorem Outcome.region (outcome : Outcome arena junk call result after remaining) :
    SameRegion arena.heap after.heap := by
  cases outcome with
  | failed => exact .refl _
  | released _ _ _ region => exact region
  | taken _ _ _ _ _ taken => exact taken.region
  | kept => exact .refl _
  | shrunk _ _ _ _ _ region => exact region

theorem Taken.live {after : Kheap} (taken : Taken arena.heap junk size after remaining)
    (held : Held arena junk) : arena.live = [] := by
  cases held with
  | vacant none _ => exact none
  | occupied _ _ occupied =>
      have flags := taken.vacant.flags
      rw [occupied.flags] at flags
      exact absurd flags (by decide)

/-- What `kcalloc` clears is inside the block. -/
theorem Taken.clears {num : Nat} {after : Kheap} (taken : Taken arena.heap junk (num * size) after remaining)
    (clears : arena.Clears (.kcalloc num size)) (small : num * size < 2 ^ 32) :
    num * size ≤ after.size after.heapStart := by
  have positive := taken.vacant.shape.startPositive
  have rounds : num * size ≤ 2 ^ 32 - kheapBlockSize := by
    rcases clears with rounds | overflows | empty
    · exact rounds
    · exact absurd small (Nat.not_lt.mpr overflows)
    · rw [taken.vacant.freeList] at empty
      omega
  rw [taken.region.heapStart]
  exact Nat.le_trans (alignUp_bounds rounds).1 taken.room

theorem kmalloc_outcome (held : Held arena junk) (bounded : size < 2 ^ 32) :
    ∃ result after remaining,
      (kmalloc arena.heap size).map (arena.allocated size) = some (result, after) ∧
        ∀ call : HeapCall, call.Allocates → call.request = size →
          Outcome arena junk call result after remaining := by
  rcases kmalloc_cases held size with failed | ⟨after, remaining, done, taken⟩
  · exact ⟨0, arena, junk, by simp [failed, Arena.allocated], fun call _ _ => .failed call⟩
  · have none : arena.live = [] := taken.live held
    refine ⟨arena.heap.heapStart + headerSize, ⟨after, [(arena.heap.heapStart + headerSize, size)]⟩,
      remaining, by simp [done, Arena.allocated, none, headerSize], fun call allocates asks => ?_⟩
    subst asks
    exact .taken call after remaining allocates bounded taken

theorem kcalloc_outcome {num : Nat} (held : Held arena junk)
    (clears : arena.Clears (.kcalloc num size)) :
    ∃ result after remaining, heapCall arena (.kcalloc num size) = some (result, after) ∧
      Outcome arena junk (.kcalloc num size) result after remaining := by
  by_cases large : 2 ^ 32 ≤ num * size
  · exact ⟨0, arena, junk, by simp [heapCall, kcalloc_overflow large, Arena.allocated], .failed _⟩
  · have small : num * size < 2 ^ 32 := Nat.not_le.mp large
    simp only [heapCall, kcalloc_eq small]
    rcases kmalloc_cases held (num * size) with failed | ⟨after, remaining, done, taken⟩
    · exact ⟨0, arena, junk, by simp [failed, Arena.allocated, zeroed], .failed _⟩
    · have fits : num * size ≤ after.size after.heapStart := taken.clears clears small
      let cleared : Kheap :=
        { after with memory := after.memory.fill (after.heapStart + headerSize) 0 (num * size) }
      have filled : Taken arena.heap junk (num * size) cleared remaining := taken.fill fits rfl
      have none : arena.live = [] := filled.live held
      refine ⟨arena.heap.heapStart + headerSize,
        ⟨cleared, [(arena.heap.heapStart + headerSize, num * size)]⟩, remaining, ?_, ?_⟩
      · simp [done, Arena.allocated, zeroed, none, headerSize, cleared, taken.region.heapStart]
      · exact .taken (.kcalloc num size) cleared remaining trivial small filled

theorem kfree_outcome {ptr : Nat} (held : Held arena junk)
    (valid : ptr = 0 ∨ ptr ∈ arena.live.map Prod.fst) (call : HeapCall) :
    Outcome arena junk call 0 ⟨kfree arena.heap ptr, arena.release ptr⟩ junk := by
  rcases valid with isNull | live
  · have all : arena.release ptr = arena.live := by
      cases held with
      | vacant none _ => simp [Arena.release, none]
      | occupied size one _ => simp [Arena.release, one, isNull, headerSize]
    rw [all, isNull, kfree_null]
    exact .failed call
  · obtain ⟨isStart, occupied⟩ := held.live_pointer live
    have none : arena.release ptr = [] := by
      cases held with
      | vacant none _ => simp [Arena.release, none]
      | occupied size one _ => simp [Arena.release, one, isStart]
    obtain ⟨vacant, region, sizes⟩ := kfree_occupied occupied
    rw [none, isStart]
    exact .released call _ vacant region sizes

theorem krealloc_outcome {ptr : Nat} (held : Held arena junk)
    (live : ptr ∈ arena.live.map Prod.fst) :
    ∃ result after remaining, heapCall arena (.krealloc ptr size) = some (result, after) ∧
      Outcome arena junk (.krealloc ptr size) result after remaining := by
  obtain ⟨isStart, occupied⟩ := held.live_pointer live
  have nonNull : ptr ≠ 0 := by simp [isStart, headerSize]
  by_cases zero : size = 0
  · refine ⟨0, ⟨kfree arena.heap ptr, arena.release ptr⟩, junk, ?_, kfree_outcome held (Or.inr live) _⟩
    simp [heapCall, zero, krealloc_zero nonNull, nonNull]
  · have none : arena.release ptr = [] := by
      cases held with
      | vacant none _ => simp [Arena.release, none]
      | occupied size one _ => simp [Arena.release, one, isStart]
    subst isStart
    have done := krealloc_occupied occupied zero
    simp only [heapCall, if_neg nonNull, if_neg zero]
    rw [done]
    by_cases large : arena.heap.size arena.heap.heapStart < alignUp size
    · refine ⟨0, arena, junk, ?_, .failed _⟩
      simp [large]
    · rw [if_neg large]
      by_cases near : arena.heap.size arena.heap.heapStart < alignUp size + headerSize + kheapMinBlock
      · refine ⟨arena.heap.heapStart + headerSize, _, junk, ?_,
          .kept size occupied zero (Nat.not_lt.mp large)⟩
        simp only [if_pos near, Option.map_some, if_neg nonNull, none]
      · have room := Nat.not_lt.mp near
        have aligned : alignUp size % 16 = 0 := alignUp_aligned size
        obtain ⟨split, region, start, created, others⟩ := splitBlock_occupied occupied aligned room
        refine ⟨arena.heap.heapStart + headerSize, _, _, ?_,
          .shrunk size _ room zero split region start created others⟩
        simp only [if_neg near, Option.map_some, if_neg nonNull, none]

/-- From a reachable heap every call returns, with one of the outcomes. -/
theorem heapCall_outcome (held : Held arena junk) (accepts : arena.Accepts call)
    (clears : arena.Clears call) :
    ∃ result after remaining, heapCall arena call = some (result, after) ∧
      Outcome arena junk call result after remaining := by
  cases call with
  | kmalloc size =>
      obtain ⟨result, after, remaining, done, outcome⟩ := kmalloc_outcome held accepts
      exact ⟨result, after, remaining, done, outcome (.kmalloc size) trivial rfl⟩
  | kcalloc num size => exact kcalloc_outcome held clears
  | krealloc ptr size =>
      rcases accepts.1 with isNull | live
      · obtain ⟨result, after, remaining, done, outcome⟩ := kmalloc_outcome held accepts.2
        refine ⟨result, after, remaining, ?_, outcome (.krealloc ptr size) isNull rfl⟩
        rw [isNull, heapCall, krealloc_null]
        simpa using done
      · exact krealloc_outcome held live
  | kfree ptr => exact ⟨0, _, junk, rfl, kfree_outcome held accepts (.kfree ptr)⟩

theorem heapStep_outcome (held : Held arena junk) (accepts : arena.Accepts call)
    (clears : arena.Clears call) (step : heapStep arena call = some after) :
    ∃ result remaining, heapCall arena call = some (result, after) ∧
      Outcome arena junk call result after remaining := by
  obtain ⟨result, reached, remaining, done, outcome⟩ := heapCall_outcome held accepts clears
  have same : reached = after := by
    simpa [heapStep, done] using step
  subst same
  exact ⟨result, remaining, done, outcome⟩

/-- Where allocations lie: behind a header, in a heap aligned to the block size. -/
def HeapPointer (ptr : Nat) : Prop := ptr % kheapBlockSize = headerSize % kheapBlockSize ∧ ptr < 2 ^ 32

theorem Held.heapPointer (held : Held arena junk) : HeapPointer (arena.heap.heapStart + headerSize) := by
  have aligned := held.shape.startAligned
  have room := held.shape.roomy
  have ends := held.shape.endBounded
  unfold HeapPointer kheapBlockSize headerSize at *
  omega

theorem Outcome.heapPointer (outcome : Outcome arena junk call result after remaining)
    (held : Held arena junk) : result = 0 ∨ HeapPointer result := by
  cases outcome with
  | failed => exact Or.inl rfl
  | released => exact Or.inl rfl
  | taken => exact Or.inr held.heapPointer
  | kept => exact Or.inr held.heapPointer
  | shrunk => exact Or.inr held.heapPointer

theorem kheapInit_accepted {booted : Kheap} {start : Nat} (fresh : heap.initialized = false)
    (done : kheapInit heap start size = (0, booted)) : start ≠ 0 ∧ kheapMinBlock * 2 ≤ size := by
  by_cases rejected : start = 0 ∨ size < kheapMinBlock * 2
  · simp [kheapInit, fresh, rejected] at done
  · omega

/-- Initialization leaves one free block as large as the heap. -/
theorem kheapInit_booted {booted : Kheap} {start : Nat} (fresh : heap.initialized = false)
    (done : kheapInit heap start size = (0, booted)) (bounded : start + size < 2 ^ 32) :
    Vacant booted [] ∧ booted.heapStart + headerSize + booted.size booted.heapStart = booted.heapEnd := by
  obtain ⟨nonNull, large⟩ := kheapInit_accepted fresh done
  obtain ⟨after, initialized, vacant, _, _, ending⟩ := kheapInit_vacant fresh nonNull large bounded
  have same : after = booted := congrArg Prod.snd (initialized.symm.trans done)
  exact same ▸ ⟨vacant, ending⟩

/-- After every run of calls, a call answers NULL or a pointer to the first block. -/
theorem run_heapPointer {booted : Kheap} {start : Nat} {calls : List HeapCall}
    (fresh : heap.initialized = false) (done : kheapInit heap start size = (0, booted))
    (bounded : start + size < 2 ^ 32)
    (run : Run (Guarded (fun arena call => arena.Accepts call ∧ arena.Clears call) (Stepping heapStep))
      ⟨booted, []⟩ calls arena)
    (accepts : arena.Accepts call) (clears : arena.Clears call)
    (called : heapCall arena call = some (result, after)) : result = 0 ∨ HeapPointer result := by
  obtain ⟨vacant, _⟩ := kheapInit_booted fresh done bounded
  obtain ⟨junk, held⟩ : ∃ junk, Held arena junk := by
    refine run.invariant (fun arena => ∃ junk, Held arena junk) ?_ ⟨[], .vacant rfl vacant⟩
    intro before call after ⟨junk, held⟩ ⟨⟨accepts, clears⟩, step⟩
    obtain ⟨result, remaining, _, outcome⟩ := heapStep_outcome held accepts clears step
    exact ⟨remaining, outcome.held held⟩
  obtain ⟨answer, reached, remaining, same, outcome⟩ := heapCall_outcome held accepts clears
  obtain ⟨rfl, rfl⟩ : answer = result ∧ reached = after := by
    simpa [called, eq_comm] using same
  exact outcome.heapPointer held

/-- The state before initialization. -/
def blankHeap : Kheap where
  memory := fun _ => 0
  freeList := 0
  usedList := 0
  heapStart := 0
  heapEnd := 0
  totalSize := 0
  totalAllocated := 0
  totalFreed := 0
  numAllocs := 0
  numFrees := 0
  initialized := false

/-- A heap of 4 KB at 1 MB. -/
theorem blankHeap_booted :
    ∃ booted, kheapInit blankHeap 0x100000 0x1000 = (0, booted) ∧ Vacant booted [] ∧
      booted.heapStart = 0x100000 ∧ booted.heapEnd = 0x101000 ∧ booted.size 0x100000 = 0xFEC := by
  have fresh : blankHeap.initialized = false := rfl
  have nonNull : 0x100000 ≠ 0 := by decide
  have large : kheapMinBlock * 2 ≤ 0x1000 := by decide
  have bounded : 0x100000 + 0x1000 < 2 ^ 32 := by decide
  have place : regionStart 0x100000 = 0x100000 := by decide
  have length : regionSize 0x100000 0x1000 = 0x1000 := by decide
  obtain ⟨booted, done, vacant, startAt, endAt, ending⟩ := kheapInit_vacant fresh nonNull large bounded
  rw [place] at startAt
  rw [place, length] at endAt
  rw [startAt, endAt, headerSize] at ending
  exact ⟨booted, done, vacant, startAt, endAt, by omega⟩

/-- Its first allocation, of a size that leaves enough for another block. -/
theorem blankHeap_allocated (positive : size ≠ 0) (small : alignUp size + headerSize + kheapMinBlock ≤ 0xFEC) :
    ∃ booted arena, kheapInit blankHeap 0x100000 0x1000 = (0, booted) ∧ Vacant booted [] ∧
      booted.freeList = 0x100000 ∧ heapStep ⟨booted, []⟩ (.kmalloc size) = some arena ∧
      arena.live = [(0x100014, size)] ∧ Occupied arena.heap [] ∧ arena.heap.heapStart = 0x100000 ∧
      arena.heap.heapEnd = 0x101000 ∧ arena.heap.size 0x100000 = alignUp size := by
  obtain ⟨booted, done, vacant, startAt, endAt, blockSize⟩ := blankHeap_booted
  have fits : alignUp size ≤ booted.size booted.heapStart := by
    rw [startAt, blockSize]
    omega
  have split : ¬ TakenWhole (booted.size booted.heapStart) (alignUp size) := by
    rw [startAt, blockSize]
    unfold TakenWhole headerSize kheapMinBlock at *
    omega
  obtain ⟨heap, remaining, called, occupied, region, sublist, taken⟩ :=
    kmalloc_split vacant positive fits split
  have none : remaining = [] := List.sublist_nil.mp sublist
  subst none
  rw [startAt] at called taken
  refine ⟨booted, ⟨heap, [(0x100014, size)]⟩, done, vacant, vacant.freeList.trans startAt, ?_, rfl, occupied,
    region.heapStart.trans startAt, region.heapEnd.trans endAt, taken⟩
  simp [heapStep, heapCall, called, Arena.allocated, headerSize]

end AutismOS.Heap
