import AutismOS.Library.Tiling
import AutismOS.Heap.Outcomes

namespace AutismOS.Heap

open AutismOS.Library

variable {heap booted : Kheap} {arena after : Arena} {call : HeapCall} {calls : List HeapCall}
variable {junk remaining : List Nat} {result start size : Nat}

/-! Which runs keep every byte of the heap on a list. -/

/-- The listed blocks do not overlap and together are the whole heap. -/
def Tiles (heap : Kheap) : Prop :=
  ∃ free used, Reaches heap heap.freeList free ∧ Reaches heap heap.usedList used ∧
    ((free ++ used).Pairwise fun left right => Disjoint (heap.bytes left) (heap.bytes right)) ∧
    ∀ address, (∃ block ∈ free ++ used, address ∈ heap.bytes block) ↔
      address ∈ Set.Ico heap.heapStart heap.heapEnd

/-- An allocation that finds a block takes all of it. -/
def Arena.TakesWhole (arena : Arena) (call : HeapCall) : Prop :=
  call.Allocates → call.request ≠ 0 → call.request < 2 ^ 32 → arena.heap.freeList ≠ 0 →
    alignUp call.request ≤ arena.heap.size arena.heap.freeList →
    TakenWhole (arena.heap.size arena.heap.freeList) (alignUp call.request)

instance (arena : Arena) (call : HeapCall) : Decidable (arena.TakesWhole call) :=
  inferInstanceAs (Decidable (_ → _))

/-- Calls with valid arguments that never strand a part of a block. -/
def Conserving (arena : Arena) (call : HeapCall) : Prop :=
  arena.Accepts call ∧ arena.Clears call ∧ arena.TakesWhole call

instance (arena : Arena) (call : HeapCall) : Decidable (Conserving arena call) :=
  inferInstanceAs (Decidable (_ ∧ _))

/-- The blocks from the first one upwards fill the heap. -/
def Filled (heap : Kheap) (junk : List Nat) : Prop :=
  Consecutive id (blockEnd heap) heap.heapStart heap.heapEnd (heap.heapStart :: junk)

theorem Filled.congr {after : Kheap} (filled : Filled heap junk) (region : SameRegion heap after)
    (sizes : ∀ node ∈ heap.heapStart :: junk, after.size node = heap.size node) : Filled after junk := by
  unfold Filled
  rw [region.heapStart, region.heapEnd]
  refine Consecutive.congr filled fun node member => ?_
  unfold blockEnd
  rw [sizes node member]

/-- Such an allocation changes no size and leaves the blocks above the first one. -/
theorem Taken.takes_whole {after : Kheap} (taken : Taken arena.heap junk call.request after remaining)
    (whole : arena.TakesWhole call) (allocates : call.Allocates) (small : call.request < 2 ^ 32) :
    remaining = junk ∧ ∀ node ∈ arena.heap.heapStart :: junk, after.size node = arena.heap.size node := by
  have positive := taken.vacant.shape.startPositive
  have takesAll := whole allocates taken.requested small
  rw [taken.vacant.freeList] at takesAll
  exact taken.whole (takesAll (by omega) taken.fits)

theorem Outcome.filled (outcome : Outcome arena junk call result after remaining)
    (whole : arena.TakesWhole call) (filled : Filled arena.heap junk) : Filled after.heap remaining := by
  cases outcome with
  | failed => exact filled
  | released _ after _ region sizes => exact filled.congr region sizes
  | taken _ after _ allocates small taken =>
      obtain ⟨same, sizes⟩ := taken.takes_whole whole allocates small
      subst same
      exact filled.congr taken.region sizes
  | kept => exact filled
  | shrunk size after room _ _ region first created others =>
      unfold Filled at *
      rw [region.heapStart, region.heapEnd]
      have firstEnd : blockEnd after arena.heap.heapStart = splitAddress arena.heap (alignUp size) := by
        rw [blockEnd, first]
        rfl
      have lower := filled.2.1
      unfold blockEnd at lower
      refine filled.cut firstEnd.symm ?_ ?_ ?_ fun node member => ?_
      · rw [firstEnd]
        unfold splitAddress
        omega
      · rw [firstEnd]
        unfold splitAddress blockEnd
        omega
      · unfold blockEnd
        rw [created]
        unfold splitAddress
        omega
      · unfold blockEnd
        rw [others node member]

theorem Held.tiles (held : Held arena junk) (filled : Filled arena.heap junk) : Tiles arena.heap := by
  obtain ⟨free, used, fromFree, fromUsed, all⟩ := held.listed
  refine ⟨free, used, fromFree, fromUsed, ?_⟩
  rw [all]
  exact ⟨filled.disjoint, filled.covers⟩

/-- A block that ends before the heap does leaves bytes that are on no list. -/
theorem Occupied.not_tiles (occupied : Occupied heap [])
    (short : blockEnd heap heap.heapStart < heap.heapEnd) : ¬ Tiles heap := by
  intro ⟨free, used, fromFree, fromUsed, _, covers⟩
  have last : heap.next heap.heapStart = 0 := pointer_eq_none.mp occupied.used.2.2
  have noneFree : free = [] := fromFree.unique occupied.freeList
  have oneUsed : used = [heap.heapStart] := by
    have positive := occupied.shape.startPositive
    rw [occupied.usedList] at fromUsed
    exact fromUsed.unique ⟨by omega, rfl, last⟩
  have inside : blockEnd heap heap.heapStart ∈ Set.Ico heap.heapStart heap.heapEnd := by
    refine ⟨?_, short⟩
    unfold blockEnd
    omega
  obtain ⟨block, member, _, below⟩ := (covers _).mpr inside
  rw [noneFree, oneUsed] at member
  rw [List.mem_singleton.mp member] at below
  exact Nat.lt_irrefl _ below

/-- Every run of conserving calls keeps the heap tiled by the listed blocks. -/
theorem run_tiles (fresh : heap.initialized = false) (done : kheapInit heap start size = (0, booted))
    (bounded : start + size < 2 ^ 32)
    (run : Run (Guarded Conserving (Stepping heapStep)) ⟨booted, []⟩ calls arena) :
    Tiles arena.heap := by
  obtain ⟨vacant, ending⟩ := kheapInit_booted fresh done bounded
  have initial : Filled booted [] := by
    refine ⟨rfl, ?_, ending⟩
    unfold blockEnd
    omega
  have reached : ∃ junk, Held arena junk ∧ Filled arena.heap junk := by
    refine run.invariant (fun arena => ∃ junk, Held arena junk ∧ Filled arena.heap junk) ?_
      ⟨[], .vacant rfl vacant, initial⟩
    intro before call after ⟨junk, held, filled⟩ ⟨⟨accepts, clears, whole⟩, step⟩
    obtain ⟨result, remaining, _, outcome⟩ := heapStep_outcome held accepts clears step
    exact ⟨remaining, outcome.held held, outcome.filled whole filled⟩
  obtain ⟨junk, held, filled⟩ := reached
  exact held.tiles filled

/-- Allocating almost everything from a heap of 4 KB takes the whole block. -/
theorem run_tiles_whole :
    ∃ booted arena, kheapInit blankHeap 0x100000 0x1000 = (0, booted) ∧
      Run (Guarded Conserving (Stepping heapStep)) ⟨booted, []⟩ [.kmalloc 0xFC0] arena ∧
      Tiles arena.heap := by
  obtain ⟨booted, done, vacant, startAt, _, size⟩ := blankHeap_booted
  have conserving : Conserving ⟨booted, []⟩ (.kmalloc 0xFC0) := by
    have accepts : 0xFC0 < 2 ^ 32 := by decide
    refine ⟨accepts, trivial, fun _ _ _ _ _ => ?_⟩
    rw [vacant.freeList, startAt, size]
    decide
  obtain ⟨result, arena, _, called, _⟩ :=
    heapCall_outcome (.vacant rfl vacant) conserving.1 conserving.2.1
  have step : heapStep ⟨booted, []⟩ (.kmalloc 0xFC0) = some arena := by simp [heapStep, called]
  have run : Run (Guarded Conserving (Stepping heapStep)) ⟨booted, []⟩ [.kmalloc 0xFC0] arena :=
    .single ⟨conserving, step⟩
  exact ⟨booted, arena, done, run, run_tiles rfl done (by decide) run⟩

/-- What a small allocation splits off the free block is on no list afterwards. -/
theorem kmalloc_strands_bytes :
    ∃ booted arena, kheapInit blankHeap 0x100000 0x1000 = (0, booted) ∧
      Run (Guarded Arena.Accepts (Stepping heapStep)) ⟨booted, []⟩ [.kmalloc 16] arena ∧
      ¬ Tiles arena.heap := by
  have positive : 16 ≠ 0 := by decide
  obtain ⟨booted, arena, done, _, _, step, _, occupied, startAt, endAt, size⟩ :=
    blankHeap_allocated positive (by decide)
  have accepts : 16 < 2 ^ 32 := by decide
  refine ⟨booted, arena, done, Run.single ⟨accepts, step⟩, occupied.not_tiles ?_⟩
  rw [blockEnd, startAt, size, endAt]
  decide

end AutismOS.Heap
