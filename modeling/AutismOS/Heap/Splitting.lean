import AutismOS.Library.TracedMemory
import AutismOS.Heap.Outcomes

namespace AutismOS.Heap

open AutismOS.Library

variable {heap : Kheap} {block size : Nat} {memory : TracedMemory}

/-! The bytes that a split writes. -/

def Kheap.withMemory (heap : Kheap) (memory : TracedMemory) : Kheap := { heap with memory := memory.bytes }

def storeField (memory : TracedMemory) (block : Nat) (name : Field) (value : Nat) : TracedMemory :=
  memory.storeWord (block + name.offset) value

/-- `splitBlock` with a record of the bytes it writes. -/
def splitBlockTraced (heap : Kheap) (block size : Nat) : TracedMemory :=
  let memory : TracedMemory := ⟨heap.memory, []⟩
  let remaining := sub32 (sub32 (heap.size block) size) headerSize
  if remaining ≥ kheapMinBlock then
    let newBlock := add32 (add32 block headerSize) size
    let memory := storeField memory newBlock .magic kheapMagic
    let memory := storeField memory newBlock .flags kheapFlagFree
    let memory := storeField memory newBlock .size remaining
    let memory := storeField memory newBlock .next ((heap.withMemory memory).next block)
    let memory := storeField memory newBlock .prev block
    let next := (heap.withMemory memory).next block
    let memory := if next ≠ 0 then storeField memory next .prev newBlock else memory
    storeField (storeField memory block .next newBlock) block .size size
  else memory

theorem withMemory_storeField {name : Field} {value : Nat} :
    heap.withMemory (storeField memory block name value) = (heap.withMemory memory).setField block name value := rfl

theorem splitBlockTraced_bytes :
    heap.withMemory (splitBlockTraced heap block size) = splitBlock heap block size := by
  have start : heap.withMemory ⟨heap.memory, []⟩ = heap := rfl
  simp only [splitBlockTraced, splitBlock]
  split
  · simp only [withMemory_storeField, apply_ite heap.withMemory, start]
    rfl
  · rfl

variable {node value : Nat} {name : Field} {region : Nat → Prop}

theorem storeField_within (header : Header node)
    (inside : ∀ offset < headerSize, region (node + offset)) :
    TracedMemory.Within region memory (storeField memory node name value) := by
  apply TracedMemory.storeWord_within
  intro offset bounded
  have last := name.offset_lt
  have aligned := name.offset_aligned
  have fits := header.bounded
  unfold headerSize at *
  have place : (node + name.offset + offset) % 2 ^ 32 = node + (name.offset + offset) := by omega
  rw [place]
  exact inside _ (by omega)

theorem mem_storeField (header : Header node) : node + name.offset ∈ (storeField memory node name value).touched := by
  have last := name.offset_lt
  have fits := header.bounded
  exact TracedMemory.mem_touch.mpr (Or.inl ⟨0, by decide, by omega⟩)

theorem storeField_keeps {address : Nat} (member : address ∈ memory.touched) :
    address ∈ (storeField memory node name value).touched :=
  TracedMemory.mem_touch.mpr (Or.inr member)

/-- The header of the new block, stored field by field. -/
def storeHeader (memory : TracedMemory) (node : Nat) (value : Field → Nat) : TracedMemory :=
  let memory := storeField memory node .magic (value .magic)
  let memory := storeField memory node .flags (value .flags)
  let memory := storeField memory node .size (value .size)
  let memory := storeField memory node .next (value .next)
  storeField memory node .prev (value .prev)

theorem storeHeader_within {value : Field → Nat} (header : Header node)
    (inside : ∀ offset < headerSize, region (node + offset)) :
    TracedMemory.Within region memory (storeHeader memory node value) := by
  have field {memory : TracedMemory} {name : Field} {value : Nat} :
      TracedMemory.Within region memory (storeField memory node name value) :=
    storeField_within header inside
  exact (((field.trans field).trans field).trans field).trans field

theorem splitBlockTraced_eq (large : kheapMinBlock ≤ remainder heap block size) (header : Header block)
    (inside : block + headerSize + size < 2 ^ 32) (new : Header (block + headerSize + size)) :
    splitBlockTraced heap block size =
      storeField (storeField
        (if heap.next block ≠ 0 then
          storeField (storeHeader ⟨heap.memory, []⟩ (block + headerSize + size) (newHeader heap block size))
            (heap.next block) .prev (block + headerSize + size)
        else storeHeader ⟨heap.memory, []⟩ (block + headerSize + size) (newHeader heap block size))
        block .next (block + headerSize + size)) block .size size := by
  have address : add32 (add32 block headerSize) size = block + headerSize + size := by
    unfold add32 headerSize at *
    omega
  have apart : Apart (block + headerSize + size) block := by
    unfold Apart
    omega
  have splits : sub32 (sub32 (heap.size block) size) headerSize ≥ kheapMinBlock := large
  have kept {memory : TracedMemory} {name : Field} {value : Nat} :
      (heap.withMemory (storeField memory (block + headerSize + size) name value)).next block =
        (heap.withMemory memory).next block := by
    rw [withMemory_storeField]
    exact Kheap.field_setField_apart new header apart
  have start : (heap.withMemory ⟨heap.memory, []⟩).next block = heap.next block := rfl
  simp only [splitBlockTraced, splits, if_true, address, kept, start]
  rfl

/-- A block in the address space with another block, or none, behind its `next`. -/
structure Placed (heap : Kheap) (block : Nat) : Prop where
  header : Header block
  bounded : block + headerSize + heap.size block ≤ 2 ^ 32
  next : heap.next block = 0 ∨ Header (heap.next block) ∧
    (heap.next block + headerSize ≤ block ∨ block + headerSize + heap.size block ≤ heap.next block)

/-- The block was cut down to `size` bytes and `rest` bytes follow under a header of their own. -/
structure Divided (heap : Kheap) (block size rest : Nat) : Prop where
  kept : (splitBlock heap block size).size block = size
  magic : (splitBlock heap block size).magic (block + headerSize + size) = kheapMagic
  flags : (splitBlock heap block size).flags (block + headerSize + size) = kheapFlagFree
  remaining : (splitBlock heap block size).size (block + headerSize + size) = rest
  exact : size + headerSize + rest = heap.size block
  useful : kheapMinBlock ≤ rest

/-- The bytes of a block, its header included. -/
def InBlock (heap : Kheap) (block address : Nat) : Prop :=
  block ≤ address ∧ address < block + headerSize + heap.size block

structure Conserves (heap : Kheap) (block size : Nat) : Prop where
  unwrapped : size + headerSize + remainder heap block size = heap.size block
  outcome : splitBlock heap block size = heap ∨ ∃ rest, Divided heap block size rest
  inside : TracedMemory.Within (InBlock heap block) ⟨heap.memory, []⟩ (splitBlockTraced heap block size)

theorem remainder_exact (fits : size ≤ heap.size block) :
    size + headerSize + remainder heap block size = heap.size block ↔ size + headerSize ≤ heap.size block := by
  have small : heap.size block < 2 ^ 32 := Kheap.size_lt
  unfold remainder sub32 headerSize
  omega

/-- The remainder is too small for a block of its own. -/
theorem conserves_small (fits : size + headerSize ≤ heap.size block)
    (small : heap.size block < size + headerSize + kheapMinBlock) : Conserves heap block size := by
  have exact := (remainder_exact (Nat.le_of_add_right_le fits)).mpr fits
  have unchanged : remainder heap block size < kheapMinBlock := by omega
  have splits : ¬ sub32 (sub32 (heap.size block) size) headerSize ≥ kheapMinBlock := Nat.not_le.mpr unchanged
  refine ⟨exact, Or.inl (splitBlock_small unchanged), ?_⟩
  simp only [splitBlockTraced, splits, if_false]
  exact .refl

section Splits

variable (placed : Placed heap block) (rounded : kheapBlockSize ∣ size)
variable (fits : size + headerSize + kheapMinBlock ≤ heap.size block)

include placed rounded fits

theorem Placed.splits : kheapMinBlock ≤ remainder heap block size ∧ block + headerSize + size < 2 ^ 32 ∧
    Header (block + headerSize + size) := by
  have bounded := placed.bounded
  have aligned := placed.header.aligned
  have small : heap.size block < 2 ^ 32 := Kheap.size_lt
  unfold remainder sub32 headerSize kheapMinBlock kheapBlockSize at *
  exact ⟨by omega, by omega, ⟨by omega, by unfold headerSize; omega⟩⟩

theorem conserves_divided : ∃ rest, Divided heap block size rest := by
  obtain ⟨large, inside, new⟩ := placed.splits rounded fits
  have exact := (remainder_exact (Nat.le_of_add_right_le (Nat.le_of_add_right_le fits))).mpr (by omega)
  have header := placed.header
  have near : heap.next block = 0 ∨ Header (heap.next block) ∧ Apart (heap.next block) block := by
    refine placed.next.imp_right (And.imp_right ?_)
    unfold Apart
    omega
  have far : heap.next block = 0 ∨
      Header (heap.next block) ∧ Apart (heap.next block) (block + headerSize + size) := by
    refine placed.next.imp_right (And.imp_right ?_)
    unfold Apart headerSize kheapMinBlock at *
    omega
  refine ⟨remainder heap block size, ?_, ?_, ?_, ?_, exact, large⟩
  · exact splitBlock_block large header inside new near
  · exact splitBlock_new large header inside new far
  · exact splitBlock_new large header inside new far
  · exact splitBlock_new large header inside new far

theorem splitBlockTraced_within :
    TracedMemory.Within (InBlock heap block) ⟨heap.memory, []⟩ (splitBlockTraced heap block size) ↔
      heap.next block = 0 := by
  obtain ⟨large, inside, new⟩ := placed.splits rounded fits
  rw [splitBlockTraced_eq large placed.header inside new]
  constructor
  · intro within
    by_contra linked
    obtain ⟨nextHeader, beside⟩ := placed.next.resolve_left linked
    rw [if_pos linked] at within
    rcases within.touched _ (storeField_keeps (storeField_keeps (mem_storeField nextHeader))) with before | within
    · cases before
    · have place : Field.offset .prev = 16 := rfl
      unfold InBlock headerSize at *
      omega
  · intro last
    have blockInside (offset : Nat) (bounded : offset < headerSize) : InBlock heap block (block + offset) := by
      unfold InBlock
      omega
    have newInside (offset : Nat) (bounded : offset < headerSize) :
        InBlock heap block (block + headerSize + size + offset) := by
      unfold InBlock headerSize kheapMinBlock at *
      omega
    rw [if_neg (by simp [last])]
    exact ((storeHeader_within new newInside).trans (storeField_within placed.header blockInside)).trans
      (storeField_within placed.header blockInside)

end Splits

theorem splitBlock_conserves_iff (placed : Placed heap block) (rounded : kheapBlockSize ∣ size)
    (fits : size ≤ heap.size block) :
    Conserves heap block size ↔ size + headerSize ≤ heap.size block ∧
      (heap.size block < size + headerSize + kheapMinBlock ∨ heap.next block = 0) := by
  constructor
  · intro conserves
    have room := (remainder_exact fits).mp conserves.unwrapped
    refine ⟨room, ?_⟩
    by_cases small : heap.size block < size + headerSize + kheapMinBlock
    · exact Or.inl small
    · exact Or.inr ((splitBlockTraced_within placed rounded (Nat.not_lt.mp small)).mp conserves.inside)
  · rintro ⟨room, small | last⟩
    · exact conserves_small room small
    · by_cases small : heap.size block < size + headerSize + kheapMinBlock
      · exact conserves_small room small
      · have splits := Nat.not_lt.mp small
        exact ⟨(remainder_exact fits).mpr room, Or.inr (conserves_divided placed rounded splits),
          (splitBlockTraced_within placed rounded splits).mpr last⟩

/-- A heap of 4 KB as `kheap_init` leaves it, with 112 bytes cut off its block. -/
theorem splitBlock_conserves_first :
    Conserves (kheapInit blankHeap 0x100000 0x1000).2 0x100000 112 := by
  have size : (kheapInit blankHeap 0x100000 0x1000).2.size 0x100000 = 0xFEC := by decide +kernel
  have next : (kheapInit blankHeap 0x100000 0x1000).2.next 0x100000 = 0 := by decide +kernel
  have placed : Placed (kheapInit blankHeap 0x100000 0x1000).2 0x100000 := by
    refine ⟨⟨by decide, by decide⟩, ?_, Or.inl next⟩
    rw [size]
    decide
  refine (splitBlock_conserves_iff placed (by decide) ?_).mpr ⟨?_, Or.inr next⟩
  · rw [size]
    decide
  · rw [size]
    decide

/-- In a heap of 64 bytes, 32 of the 44 bytes of the only block leave no room for a header. -/
theorem splitBlock_wraps :
    ¬ ∀ (heap : Kheap) (block size : Nat), Placed heap block → kheapBlockSize ∣ size → size ≤ heap.size block →
      Conserves heap block size := by
  intro conserves
  have size : (kheapInit blankHeap 0x100000 64).2.size 0x100000 = 44 := by decide +kernel
  have placed : Placed (kheapInit blankHeap 0x100000 64).2 0x100000 := by
    refine ⟨⟨by decide, by decide⟩, ?_, Or.inl (by decide +kernel)⟩
    rw [size]
    decide
  have split := conserves _ _ 32 placed (by decide) (by rw [size]; decide)
  have wrapped : ¬ 32 + headerSize + remainder (kheapInit blankHeap 0x100000 64).2 0x100000 32 =
      (kheapInit blankHeap 0x100000 64).2.size 0x100000 := by decide +kernel
  exact wrapped split.unwrapped

end AutismOS.Heap
