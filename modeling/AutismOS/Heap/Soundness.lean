import AutismOS.Heap.Outcomes

namespace AutismOS.Heap

open AutismOS.Library

variable {heap booted : Kheap} {arena after : Arena} {call : HeapCall} {calls : List HeapCall}
variable {junk remaining : List Nat} {result start size ptr : Nat}

/-! Which allocations can be used. -/

/-- The last allocation of a state, at `ptr`, may be used for `size` bytes: they
lie in the heap and in the block of the pointer, apart from the other live
allocations and from the header of every listed block. -/
structure Sound (arena : Arena) (ptr size : Nat) : Prop where
  inHeap : Set.Ico ptr (ptr + size) ⊆ Set.Ico arena.heap.heapStart arena.heap.heapEnd
  header : dataToBlock ptr + headerSize = ptr ∧ arena.heap.magic (dataToBlock ptr) = kheapMagic
  inBlock : Set.Ico ptr (ptr + size) ⊆ arena.heap.bytes (dataToBlock ptr)
  live : ∃ others, arena.live = (ptr, size) :: others ∧
    ∀ other ∈ others, Disjoint (Set.Ico ptr (ptr + size)) (Set.Ico other.1 (other.1 + other.2))
  headers : ∀ free used, Reaches arena.heap arena.heap.freeList free →
    Reaches arena.heap arena.heap.usedList used →
    ∀ block ∈ free ++ used, Disjoint (Set.Ico ptr (ptr + size)) (Set.Ico block (block + headerSize))

/-- The request is rounded without wrapping around, or there is nothing to allocate. -/
def Arena.Rounds (arena : Arena) (call : HeapCall) : Prop :=
  call.request ≤ 2 ^ 32 - kheapBlockSize ∨ 2 ^ 32 ≤ call.request ∨
    (call.Allocates ∧ arena.heap.freeList = 0)

theorem Arena.Rounds.clears (rounds : arena.Rounds call) : arena.Clears call := by
  cases call with
  | kcalloc num size => exact rounds.imp id (Or.imp id And.right)
  | _ => trivial

/-- A live allocation no larger than the first block is sound. -/
theorem Held.sound (held : Held arena junk) (isFirst : ptr = arena.heap.heapStart + headerSize)
    (live : arena.live = [(ptr, size)]) (fits : size ≤ arena.heap.size arena.heap.heapStart) :
    Sound arena ptr size := by
  have shape := held.shape
  have inside := shape.inside
  have block : dataToBlock ptr = arena.heap.heapStart := isFirst ▸ shape.dataToBlock_start
  refine ⟨?_, ?_, ?_, ⟨[], live, by simp⟩, ?_⟩
  · intro address ⟨above, below⟩
    exact ⟨by omega, by omega⟩
  · rw [block]
    exact ⟨isFirst.symm, shape.magic⟩
  · rw [block]
    intro address ⟨above, below⟩
    exact ⟨by omega, by unfold blockEnd; omega⟩
  · intro free used fromFree fromUsed node member
    obtain ⟨free', used', fromFree', fromUsed', all⟩ := held.listed
    rw [fromFree.unique fromFree', fromUsed.unique fromUsed', all] at member
    apply Set.disjoint_left.mpr
    intro address ⟨above, below⟩ ⟨lower, upper⟩
    rcases List.mem_cons.mp member with isStart | inJunk
    · omega
    · have beyond := shape.junkAbove node inJunk
      omega

/-- A call that allocates or resizes rounds its request exactly. -/
theorem Arena.Rounds.exactly (rounds : arena.Rounds call) (small : call.request < 2 ^ 32)
    (available : ¬ (call.Allocates ∧ arena.heap.freeList = 0)) : call.request ≤ alignUp call.request := by
  rcases rounds with exactly | overflows | empty
  · exact (alignUp_bounds exactly).1
  · omega
  · exact absurd empty available

/-- A request that is rounded without wrapping around gets a sound allocation. -/
theorem Outcome.sound (outcome : Outcome arena junk call ptr after remaining)
    (held : Held arena junk) (accepts : arena.Accepts call) (rounds : arena.Rounds call)
    (nonNull : ptr ≠ 0) : Sound after ptr call.request := by
  have heldAfter := outcome.held held
  have region := outcome.region.heapStart
  cases outcome with
  | failed => exact absurd rfl nonNull
  | released => exact absurd rfl nonNull
  | taken _ heap _ allocates small taken =>
      have positive := taken.vacant.shape.startPositive
      have exactly := rounds.exactly small fun both => by
        rw [taken.vacant.freeList] at both
        omega
      refine heldAfter.sound (by rw [region]) rfl (Nat.le_trans exactly ?_)
      rw [region]
      exact taken.room
  | kept size occupied _ fits =>
      have exactly := rounds.exactly accepts.2 fun both => nonNull both.1
      exact heldAfter.sound rfl rfl (Nat.le_trans exactly fits)
  | shrunk size heap room _ occupied _ first =>
      have exactly := rounds.exactly accepts.2 fun both => nonNull both.1
      refine heldAfter.sound (by rw [region]) rfl (Nat.le_trans exactly ?_)
      rw [region, first]
      rfl

/-- The calls that the property is about. -/
def HeapCall.Plain : HeapCall → Prop
  | .kmalloc _ => True
  | .krealloc _ _ => True
  | _ => False

theorem HeapCall.Plain.clears (plain : call.Plain) : arena.Clears call := by
  cases call with
  | kcalloc => exact absurd plain id
  | _ => trivial

/-- A request that wraps around is rounded to nothing and served by any block. -/
theorem wrapped_served (held : Held arena junk) (accepts : arena.Accepts call) (plain : call.Plain)
    (wraps : ¬ arena.Rounds call) :
    ∃ after, heapCall arena call = some (arena.heap.heapStart + headerSize, after) := by
  have large : 2 ^ 32 - kheapBlockSize < call.request := Nat.not_le.mp fun exactly => wraps (Or.inl exactly)
  have served (request : Nat) (bounded : request < 2 ^ 32) (large : 2 ^ 32 - kheapBlockSize < request)
      (available : arena.heap.freeList ≠ 0) :
      ∃ after, kmalloc arena.heap request = some (arena.heap.heapStart + headerSize, after) := by
    cases held with
    | vacant _ vacant =>
        refine ⟨_, kmalloc_eq vacant (by omega) ?_⟩
        rw [alignUp_wraps bounded large]
        exact Nat.zero_le _
    | occupied _ _ occupied => exact absurd occupied.freeList available
  have nonNull : arena.heap.heapStart + headerSize ≠ 0 := by simp [headerSize]
  cases call with
  | kmalloc size =>
      obtain ⟨heap, done⟩ := served size accepts large fun empty => wraps (Or.inr (Or.inr ⟨trivial, empty⟩))
      simp only [heapCall, done, Option.map_some, Arena.allocated]
      exact ⟨_, rfl⟩
  | krealloc ptr size =>
      rcases accepts.1 with isNull | live
      · obtain ⟨heap, done⟩ := served size accepts.2 large fun empty => wraps (Or.inr (Or.inr ⟨isNull, empty⟩))
        rw [isNull]
        simp only [heapCall, krealloc_null, done, Option.map_some, Arena.allocated, if_true]
        exact ⟨_, rfl⟩
      · obtain ⟨isFirst, occupied⟩ := held.live_pointer live
        have positive : size ≠ 0 := by
          simp only [HeapCall.request, kheapBlockSize] at large
          omega
        obtain ⟨heap, done⟩ : ∃ heap, krealloc arena.heap (arena.heap.heapStart + headerSize) size =
            some (arena.heap.heapStart + headerSize, heap) := by
          rw [krealloc_occupied occupied positive, alignUp_wraps accepts.2 large, if_neg (Nat.not_lt_zero _)]
          split <;> exact ⟨_, rfl⟩
        rw [isFirst]
        simp only [heapCall, done, if_neg nonNull, if_neg positive, Option.map_some]
        exact ⟨_, rfl⟩
  | kcalloc => exact absurd plain id
  | kfree => exact absurd plain id

/-- The bytes of such an allocation would reach beyond the end of the heap. -/
theorem wrapped_unsound (held : Held arena junk) (accepts : arena.Accepts call) (plain : call.Plain)
    (wraps : ¬ arena.Rounds call) :
    ∃ ptr after, heapCall arena call = some (ptr, after) ∧ ptr ≠ 0 ∧ ¬ Sound after ptr call.request := by
  obtain ⟨after, served⟩ := wrapped_served held accepts plain wraps
  refine ⟨_, after, served, by simp [headerSize], fun sound => ?_⟩
  have large : 2 ^ 32 - kheapBlockSize < call.request := Nat.not_le.mp fun exactly => wraps (Or.inl exactly)
  obtain ⟨result, reached, remaining, called, outcome⟩ := heapCall_outcome held accepts plain.clears
  have same : reached = after := by
    simpa [called] using congrArg (Option.map Prod.snd) served
  have sameEnd : after.heap.heapEnd = arena.heap.heapEnd := same ▸ outcome.region.heapEnd
  have ends := held.shape.endBounded
  have last : arena.heap.heapStart + headerSize + call.request - 1 ∈
      Set.Ico (arena.heap.heapStart + headerSize) (arena.heap.heapStart + headerSize + call.request) := by
    unfold kheapBlockSize at large
    exact ⟨by omega, by omega⟩
  have below := (sound.inHeap last).2
  unfold kheapBlockSize headerSize at *
  omega

/-- Calls with valid arguments that do not wrap around. -/
def Rounding (arena : Arena) (call : HeapCall) : Prop := arena.Accepts call ∧ arena.Rounds call

/-- After every run of rounding calls, what `kmalloc` or `krealloc` returns can be
used exactly when the next request is rounded too. -/
theorem run_sound_iff (fresh : heap.initialized = false)
    (done : kheapInit heap start size = (0, booted)) (bounded : start + size < 2 ^ 32)
    (run : Run (Guarded Rounding (Stepping heapStep)) ⟨booted, []⟩ calls arena)
    (accepts : arena.Accepts call) (plain : call.Plain) :
    (∀ ptr after, heapCall arena call = some (ptr, after) → ptr ≠ 0 → Sound after ptr call.request) ↔
      arena.Rounds call := by
  obtain ⟨vacant, _⟩ := kheapInit_booted fresh done bounded
  obtain ⟨junk, held⟩ : ∃ junk, Held arena junk := by
    refine run.invariant (fun arena => ∃ junk, Held arena junk) ?_ ⟨[], .vacant rfl vacant⟩
    intro before call after ⟨junk, held⟩ ⟨⟨accepts, rounds⟩, step⟩
    obtain ⟨result, remaining, _, outcome⟩ := heapStep_outcome held accepts rounds.clears step
    exact ⟨remaining, outcome.held held⟩
  constructor
  · intro sound
    by_cases rounds : arena.Rounds call
    · exact rounds
    · obtain ⟨ptr, after, served, nonNull, unsound⟩ := wrapped_unsound held accepts plain rounds
      exact absurd (sound ptr after served nonNull) unsound
  · intro rounds ptr after done nonNull
    obtain ⟨result, reached, remaining, called, outcome⟩ := heapCall_outcome held accepts rounds.clears
    obtain ⟨rfl, rfl⟩ : result = ptr ∧ reached = after := by
      simpa [called] using done
    exact outcome.sound held accepts rounds nonNull

/-- Shrinking an allocation of 100 bytes to 16 bytes. -/
theorem run_sound_shrink :
    ∃ booted arena, kheapInit blankHeap 0x100000 0x1000 = (0, booted) ∧
      Run (Guarded Rounding (Stepping heapStep)) ⟨booted, []⟩ [.kmalloc 100] arena ∧
      ((∀ ptr after, heapCall arena (.krealloc 0x100014 16) = some (ptr, after) → ptr ≠ 0 →
          Sound after ptr 16) ↔ arena.Rounds (.krealloc 0x100014 16)) := by
  have positive : 100 ≠ 0 := by decide
  obtain ⟨booted, arena, done, _, _, step, live, _⟩ := blankHeap_allocated positive (by decide)
  have rounding : Rounding ⟨booted, []⟩ (.kmalloc 100) := by
    simp [Rounding, Arena.Accepts, Arena.Rounds, HeapCall.request, kheapBlockSize]
  have run : Run (Guarded Rounding (Stepping heapStep)) ⟨booted, []⟩ [.kmalloc 100] arena :=
    .single ⟨rounding, step⟩
  have accepts : arena.Accepts (.krealloc 0x100014 16) := ⟨Or.inr (by simp [live]), by decide⟩
  have plain : (HeapCall.krealloc 0x100014 16).Plain := trivial
  exact ⟨booted, arena, done, run, run_sound_iff rfl done (by decide) run accepts plain⟩

/-- A request for all but one byte of the address space is granted from 4 KB. -/
theorem kmalloc_wraps_around :
    ∃ booted ptr after, kheapInit blankHeap 0x100000 0x1000 = (0, booted) ∧
      heapCall ⟨booted, []⟩ (.kmalloc 0xFFFFFFFF) = some (ptr, after) ∧ ptr ≠ 0 ∧
      ¬ Sound after ptr 0xFFFFFFFF := by
  obtain ⟨booted, done, vacant, startAt, _, _⟩ := blankHeap_booted
  have held : Held ⟨booted, []⟩ [] := .vacant rfl vacant
  have accepts : Arena.Accepts ⟨booted, []⟩ (.kmalloc 0xFFFFFFFF) := by
    simp [Arena.Accepts]
  have plain : (HeapCall.kmalloc 0xFFFFFFFF).Plain := trivial
  have wraps : ¬ Arena.Rounds ⟨booted, []⟩ (.kmalloc 0xFFFFFFFF) := by
    simp [Arena.Rounds, HeapCall.request, kheapBlockSize, vacant.freeList, startAt]
  obtain ⟨ptr, after, served, nonNull, unsound⟩ := wrapped_unsound held accepts plain wraps
  exact ⟨booted, ptr, after, done, served, nonNull, unsound⟩

end AutismOS.Heap
