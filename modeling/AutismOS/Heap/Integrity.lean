import AutismOS.Heap.Outcomes

namespace AutismOS.Heap

open AutismOS.Library

variable {heap booted : Kheap} {arena after : Arena} {call : HeapCall} {calls : List HeapCall}
variable {junk remaining : List Nat} {result start size block flag fuel : Nat}

/-! Which runs keep the lists of the allocator intact. -/

/-- Both lists are doubly linked, end, share no block and are flagged as they should be. -/
structure Intact (heap : Kheap) : Prop where
  lists : ∃ free used, heap.links.Threads (pointer heap.freeList) free ∧
    heap.links.Threads (pointer heap.usedList) used ∧ (free ++ used).Nodup ∧
    (∀ block ∈ free, heap.flags block = kheapFlagFree) ∧
    ∀ block ∈ used, heap.flags block = kheapFlagUsed
  integrity : kheapCheckIntegrity heap = some 0
  search : ∀ size, findBestFit heap size ≠ none

/-- Resizing keeps its block in one piece. -/
def Arena.KeepsWhole (arena : Arena) : HeapCall → Prop
  | .krealloc ptr size => ptr = 0 ∨ size = 0 ∨
      arena.heap.size (dataToBlock ptr) < alignUp size + headerSize + kheapMinBlock
  | _ => True

instance (arena : Arena) : (call : HeapCall) → Decidable (arena.KeepsWhole call)
  | .kmalloc _ => inferInstanceAs (Decidable True)
  | .kcalloc _ _ => inferInstanceAs (Decidable True)
  | .krealloc _ _ => inferInstanceAs (Decidable (_ ∨ _ ∨ _))
  | .kfree _ => inferInstanceAs (Decidable True)

/-- Calls with valid arguments that split no used block. -/
def Preserving (arena : Arena) (call : HeapCall) : Prop :=
  arena.Accepts call ∧ arena.Clears call ∧ arena.KeepsWhole call

theorem checkListFrom_nil : checkListFrom heap flag (fuel + 1) 0 = some true := by
  simp [checkListFrom]

theorem checkListFrom_single (nonNull : block ≠ 0) (magic : heap.magic block = kheapMagic)
    (flags : heap.flags block = flag) (inside : isInHeap heap block = true)
    (last : heap.next block = 0) : checkListFrom heap flag (fuel + 2) block = some true := by
  simp [checkListFrom, nonNull, magic, flags, inside, last]

theorem Shape.start_inside (shape : Shape heap junk) : isInHeap heap heap.heapStart = true := by
  have roomy := shape.roomy
  simp only [isInHeap, Bool.and_eq_true, decide_eq_true_eq]
  omega

theorem Vacant.intact (vacant : Vacant heap []) : Intact heap := by
  have shape := vacant.shape
  have nonNull : heap.heapStart ≠ 0 := Nat.pos_iff_ne_zero.mp shape.startPositive
  have last : heap.next heap.heapStart = 0 := pointer_eq_none.mp vacant.free.2.2
  have empty : heap.usedList = 0 := pointer_eq_none.mp vacant.used
  have fuel : 2 ^ 32 = 4294967294 + 2 := by decide
  refine ⟨⟨[heap.heapStart], [], ?_, vacant.used, by simp, ?_, by simp⟩, ?_, fun size => ?_⟩
  · rw [vacant.freeList, pointer_of_ne nonNull]
    exact vacant.free
  · intro block member
    rw [List.mem_singleton.mp member]
    exact vacant.flags
  · have free : checkListFrom heap kheapFlagFree (4294967294 + 2) heap.heapStart = some true :=
      checkListFrom_single nonNull shape.magic vacant.flags shape.start_inside last
    have used : checkListFrom heap kheapFlagUsed (4294967294 + 2) 0 = some true := checkListFrom_nil
    rw [kheapCheckIntegrity, if_neg (by simp [shape.initialized]), fuel, vacant.freeList, empty, free]
    simp only [used]
  · rw [findBestFit_vacant vacant]
    simp

theorem Occupied.intact (occupied : Occupied heap []) : Intact heap := by
  have shape := occupied.shape
  have nonNull : heap.heapStart ≠ 0 := Nat.pos_iff_ne_zero.mp shape.startPositive
  have last : heap.next heap.heapStart = 0 := pointer_eq_none.mp occupied.used.2.2
  have fuel : 2 ^ 32 = 4294967294 + 2 := by decide
  refine ⟨⟨[], [heap.heapStart], ?_, ?_, by simp, by simp, ?_⟩, ?_, fun size => ?_⟩
  · exact pointer_eq_none.mpr occupied.freeList
  · rw [occupied.usedList, pointer_of_ne nonNull]
    exact occupied.used
  · intro block member
    rw [List.mem_singleton.mp member]
    exact occupied.flags
  · have free : checkListFrom heap kheapFlagFree (4294967294 + 2) 0 = some true := checkListFrom_nil
    have used : checkListFrom heap kheapFlagUsed (4294967294 + 2) heap.heapStart = some true :=
      checkListFrom_single nonNull shape.magic occupied.flags shape.start_inside last
    rw [kheapCheckIntegrity, if_neg (by simp [shape.initialized]), fuel, occupied.freeList,
      occupied.usedList, free]
    simp only [used]
  · rw [findBestFit_empty occupied.freeList]
    simp

theorem Held.intact (held : Held arena []) : Intact arena.heap := by
  cases held with
  | vacant _ vacant => exact vacant.intact
  | occupied _ _ occupied => exact occupied.intact

theorem Held.keeps_whole (held : Held arena junk) (positive : size ≠ 0)
    (whole : arena.KeepsWhole (.krealloc (arena.heap.heapStart + headerSize) size)) :
    arena.heap.size arena.heap.heapStart < alignUp size + headerSize + kheapMinBlock := by
  rcases whole with isNull | zero | close
  · simp [headerSize] at isNull
  · exact absurd zero positive
  · rwa [held.shape.dataToBlock_start] at close

/-- Without a split nothing ever lies above the first block. -/
theorem Outcome.no_junk (outcome : Outcome arena [] call result after remaining)
    (held : Held arena []) (whole : arena.KeepsWhole call) : remaining = [] := by
  cases outcome with
  | failed => rfl
  | released => rfl
  | taken _ _ _ _ _ taken => exact List.sublist_nil.mp taken.sublist
  | kept => rfl
  | shrunk size _ room positive _ _ => exact absurd (held.keeps_whole positive whole) (Nat.not_lt.mpr room)

/-- A block split off the used block is on the used list, marked free. -/
theorem Occupied.split_not_intact {rounded : Nat} (occupied : Occupied heap junk)
    (aligned : rounded % 16 = 0) (room : rounded + headerSize + kheapMinBlock ≤ heap.size heap.heapStart) :
    ¬ Intact (splitBlock heap heap.heapStart rounded) := by
  intro intact
  obtain ⟨free, used, _, threads, _, _, flagged⟩ := intact.lists
  obtain ⟨split, region, _⟩ := splitBlock_occupied occupied aligned room
  have listed : used = heap.heapStart :: splitAddress heap rounded :: junk := by
    have positive := occupied.shape.startPositive
    have start : pointer (splitBlock heap heap.heapStart rounded).usedList = some heap.heapStart := by
      rw [split.usedList, region.heapStart, pointer_of_ne (by omega)]
    rw [start] at threads
    exact threads.unique (splitBlock_threads occupied aligned room)
  have isUsed := flagged (splitAddress heap rounded) (by simp [listed])
  have isFree : (splitBlock heap heap.heapStart rounded).flags (splitAddress heap rounded) =
      kheapFlagFree := (splitBlock_fields occupied aligned room .flags).2.1
  rw [isFree] at isUsed
  exact absurd isUsed (by decide)

/-- Every run that splits no used block keeps both lists intact. -/
theorem run_intact (fresh : heap.initialized = false) (done : kheapInit heap start size = (0, booted))
    (bounded : start + size < 2 ^ 32)
    (run : Run (Guarded Preserving (Stepping heapStep)) ⟨booted, []⟩ calls arena) :
    Intact arena.heap := by
  obtain ⟨vacant, _⟩ := kheapInit_booted fresh done bounded
  have reached : Held arena [] := by
    refine run.invariant (fun arena => Held arena []) ?_ (.vacant rfl vacant)
    intro before call after held ⟨⟨accepts, clears, whole⟩, step⟩
    obtain ⟨result, remaining, _, outcome⟩ := heapStep_outcome held accepts clears step
    have none := outcome.no_junk held whole
    exact none ▸ outcome.held held
  exact reached.intact

/-- A first allocation of 100 bytes. -/
theorem run_intact_once :
    ∃ booted arena, kheapInit blankHeap 0x100000 0x1000 = (0, booted) ∧
      Run (Guarded Preserving (Stepping heapStep)) ⟨booted, []⟩ [.kmalloc 100] arena ∧
      Intact arena.heap := by
  have positive : 100 ≠ 0 := by decide
  obtain ⟨booted, arena, done, _, _, step, _⟩ := blankHeap_allocated positive (by decide)
  have accepts : Arena.Accepts ⟨booted, []⟩ (.kmalloc 100) := by simp [Arena.Accepts]
  have run : Run (Guarded Preserving (Stepping heapStep)) ⟨booted, []⟩ [.kmalloc 100] arena :=
    .single ⟨⟨accepts, trivial, trivial⟩, step⟩
  exact ⟨booted, arena, done, run, run_intact rfl done (by decide) run⟩

/-- Shrinking an allocation puts a free block on the used list. -/
theorem krealloc_breaks_used_list :
    ∃ booted arena, kheapInit blankHeap 0x100000 0x1000 = (0, booted) ∧
      Run (Guarded Arena.Accepts (Stepping heapStep)) ⟨booted, []⟩
        [.kmalloc 100, .krealloc 0x100014 16] arena ∧
      ¬ Intact arena.heap := by
  have positive : 100 ≠ 0 := by decide
  obtain ⟨booted, arena, done, _, _, step, live, occupied, startAt, endAt, size⟩ :=
    blankHeap_allocated positive (by decide)
  have room : alignUp 16 + headerSize + kheapMinBlock ≤ arena.heap.size arena.heap.heapStart := by
    rw [startAt, size]
    decide
  have aligned : alignUp 16 % 16 = 0 := alignUp_aligned 16
  obtain ⟨split, isSplit⟩ : ∃ split, splitBlock arena.heap arena.heap.heapStart (alignUp 16) = split :=
    ⟨_, rfl⟩
  have broken : ¬ Intact split := isSplit ▸ occupied.split_not_intact aligned room
  have resized : krealloc arena.heap 0x100014 16 = some (0x100014, split) := by
    have pointer : arena.heap.heapStart + headerSize = 0x100014 := by
      rw [startAt, headerSize]
    have done := krealloc_occupied occupied (by decide : 16 ≠ 0)
    rwa [if_neg (by omega), if_neg (by omega), pointer, isSplit] at done
  have shrinks : heapStep arena (.krealloc 0x100014 16) = some ⟨split, [(0x100014, 16)]⟩ := by
    simp [heapStep, heapCall, resized, Arena.release, live]
  have first : Arena.Accepts ⟨booted, []⟩ (.kmalloc 100) := by simp [Arena.Accepts]
  have second : arena.Accepts (.krealloc 0x100014 16) := ⟨Or.inr (by simp [live]), by decide⟩
  exact ⟨booted, ⟨split, [(0x100014, 16)]⟩, done, .cons ⟨first, step⟩ (.single ⟨second, shrinks⟩), broken⟩

end AutismOS.Heap
