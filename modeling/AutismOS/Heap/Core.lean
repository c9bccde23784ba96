import AutismOS.Library.ByteMemory
import AutismOS.Library.Word

namespace AutismOS.Heap

open AutismOS.Library

/-! The kernel heap of `kernel/core/kheap.c`, with `memset` and `memcpy` of `lib/string.c`.

Pointers and sizes are 32-bit values, NULL is 0, and block headers lie in the
byte memory that the blocks manage.  A function that walks a list answers
`none` when the walk never ends: more than `2 ^ 32` steps visit a block twice.
Messages on the debug console are left out.
-/

def kheapBlockSize : Nat := 16
def kheapMinBlock : Nat := 32
def kheapFlagFree : Nat := 0
def kheapFlagUsed : Nat := 1
def kheapMagic : Nat := 0xDEADBEEF

/-- The fields of `kheap_block_t`. -/
inductive Field where
  | magic | flags | size | next | prev
deriving DecidableEq

def Field.offset : Field → Nat
  | .magic => 0
  | .flags => 4
  | .size => 8
  | .next => 12
  | .prev => 16

/-- `sizeof(kheap_block_t)` -/
def headerSize : Nat := 20

/-- `kheap_state_t` together with the memory. -/
structure Kheap where
  memory : ByteMemory
  freeList : Nat
  usedList : Nat
  heapStart : Nat
  heapEnd : Nat
  totalSize : Nat
  totalAllocated : Nat
  totalFreed : Nat
  numAllocs : Nat
  numFrees : Nat
  initialized : Bool

/-- The two list heads, passed by address in the source. -/
inductive KheapList where
  | free | used
deriving DecidableEq

namespace Kheap

variable (heap : Kheap) (block : Nat)

def field (name : Field) : Nat := heap.memory.loadWord (block + name.offset)

def setField (name : Field) (value : Nat) : Kheap :=
  { heap with memory := heap.memory.storeWord (block + name.offset) value }

def magic : Nat := heap.field block .magic
def flags : Nat := heap.field block .flags
def size : Nat := heap.field block .size
def next : Nat := heap.field block .next
def prev : Nat := heap.field block .prev

def setMagic (value : Nat) : Kheap := heap.setField block .magic value
def setFlags (value : Nat) : Kheap := heap.setField block .flags value
def setSize (value : Nat) : Kheap := heap.setField block .size value
def setNext (value : Nat) : Kheap := heap.setField block .next value
def setPrev (value : Nat) : Kheap := heap.setField block .prev value

def head : KheapList → Nat
  | .free => heap.freeList
  | .used => heap.usedList

def setHead : KheapList → Nat → Kheap
  | .free, value => { heap with freeList := value }
  | .used, value => { heap with usedList := value }

end Kheap

/-- `value & ~(KHEAP_BLOCK_SIZE - 1)` -/
def maskBlock (value : Nat) : Nat := value - value % kheapBlockSize

/-- Align size up to `KHEAP_BLOCK_SIZE`; sizes close to `2 ^ 32` wrap around to 0. -/
def alignUp (size : Nat) : Nat := maskBlock (add32 size (kheapBlockSize - 1))

def blockToData (block : Nat) : Nat := add32 block headerSize

def dataToBlock (ptr : Nat) : Nat := sub32 ptr headerSize

def isInHeap (heap : Kheap) (ptr : Nat) : Bool := heap.heapStart ≤ ptr && ptr < heap.heapEnd

def listRemove (heap : Kheap) (list : KheapList) (block : Nat) : Kheap :=
  let heap :=
    if heap.prev block ≠ 0 then heap.setNext (heap.prev block) (heap.next block)
    else heap.setHead list (heap.next block)
  let heap :=
    if heap.next block ≠ 0 then heap.setPrev (heap.next block) (heap.prev block) else heap
  (heap.setNext block 0).setPrev block 0

def listPushFront (heap : Kheap) (list : KheapList) (block : Nat) : Kheap :=
  let heap := (heap.setNext block (heap.head list)).setPrev block 0
  let heap := if heap.head list ≠ 0 then heap.setPrev (heap.head list) block else heap
  heap.setHead list block

/-- The loop of `find_best_fit`. -/
def bestFitFrom (heap : Kheap) (size : Nat) : Nat → Nat → Nat → Option Nat
  | 0, _, _ => none
  | fuel + 1, best, current =>
      if current = 0 then some best
      else if heap.size current ≥ size ∧ (best = 0 ∨ heap.size current < heap.size best) then
        if heap.size current = size then some current  -- Perfect fit
        else bestFitFrom heap size fuel current (heap.next current)
      else bestFitFrom heap size fuel best (heap.next current)

def findBestFit (heap : Kheap) (size : Nat) : Option Nat :=
  bestFitFrom heap size (2 ^ 32) 0 heap.freeList

def splitBlock (heap : Kheap) (block size : Nat) : Kheap :=
  let remaining := sub32 (sub32 (heap.size block) size) headerSize
  if remaining ≥ kheapMinBlock then
    let newBlock := add32 (add32 block headerSize) size
    let heap := ((heap.setMagic newBlock kheapMagic).setFlags newBlock kheapFlagFree).setSize
      newBlock remaining
    let heap := (heap.setNext newBlock (heap.next block)).setPrev newBlock block
    let heap := if heap.next block ≠ 0 then heap.setPrev (heap.next block) newBlock else heap
    (heap.setNext block newBlock).setSize block size
  else heap

def coalesce (heap : Kheap) (block : Nat) : Kheap :=
  let heap :=
    if heap.next block ≠ 0 ∧ heap.flags (heap.next block) = kheapFlagFree then
      let next := heap.next block
      let heap := listRemove heap .free next
      let heap := heap.setSize block (add32 (heap.size block) (add32 headerSize (heap.size next)))
      let heap := heap.setNext block (heap.next next)
      if heap.next next ≠ 0 then heap.setPrev (heap.next next) block else heap
    else heap
  if heap.prev block ≠ 0 ∧ heap.flags (heap.prev block) = kheapFlagFree then
    let prev := heap.prev block
    let heap := listRemove heap .free prev
    let heap := heap.setSize prev (add32 (heap.size prev) (add32 headerSize (heap.size block)))
    let heap := heap.setNext prev (heap.next block)
    if heap.next block ≠ 0 then heap.setPrev (heap.next block) prev else heap
  else heap

/-- Returns 0 or -1 with the new state. -/
def kheapInit (heap : Kheap) (start size : Nat) : Int × Kheap :=
  if heap.initialized then (0, heap)
  else if start = 0 ∨ size < kheapMinBlock * 2 then (-1, heap)
  else
    let alignedStart := maskBlock (add32 start (kheapBlockSize - 1))
    let alignedSize := maskBlock (sub32 size (sub32 alignedStart start))
    let heap := { heap with
      heapStart := alignedStart
      heapEnd := add32 alignedStart alignedSize
      totalSize := alignedSize
      totalAllocated := 0
      totalFreed := 0
      numAllocs := 0
      numFrees := 0
      usedList := 0 }
    let initial := alignedStart
    let heap := ((heap.setMagic initial kheapMagic).setFlags initial kheapFlagFree).setSize initial
      (sub32 alignedSize headerSize)
    let heap := (heap.setNext initial 0).setPrev initial 0
    (0, { heap with freeList := initial, initialized := true })

/-- Returns the pointer, or NULL, with the new state. -/
def kmalloc (heap : Kheap) (size : Nat) : Option (Nat × Kheap) :=
  if !heap.initialized ∨ size = 0 then some (0, heap)
  else
    let size := alignUp size
    match findBestFit heap size with
    | none => none
    | some block =>
        if block = 0 then some (0, heap)
        else
          let heap := listRemove heap .free block
          let heap := splitBlock heap block size
          let heap := heap.setFlags block kheapFlagUsed
          let heap := listPushFront heap .used block
          some (blockToData block,
            { heap with
              totalAllocated := add32 heap.totalAllocated (heap.size block)
              numAllocs := add32 heap.numAllocs 1 })

def kfree (heap : Kheap) (ptr : Nat) : Kheap :=
  if ptr = 0 ∨ !heap.initialized then heap
  else if !isInHeap heap ptr then heap
  else
    let block := dataToBlock ptr
    if heap.magic block ≠ kheapMagic then heap
    else if heap.flags block = kheapFlagFree then heap
    else
      let heap := listRemove heap .used block
      let heap := heap.setFlags block kheapFlagFree
      let heap := { heap with
        totalAllocated := sub32 heap.totalAllocated (heap.size block)
        totalFreed := add32 heap.totalFreed (heap.size block)
        numFrees := add32 heap.numFrees 1 }
      let heap := coalesce heap block
      listPushFront heap .free block

def krealloc (heap : Kheap) (ptr size : Nat) : Option (Nat × Kheap) :=
  if ptr = 0 then kmalloc heap size
  else if size = 0 then some (0, kfree heap ptr)
  else
    let block := dataToBlock ptr
    if heap.magic block ≠ kheapMagic then some (0, heap)
    else
      let size := alignUp size
      if size ≤ heap.size block ∧ heap.size block - size < kheapMinBlock then some (ptr, heap)
      else if size < heap.size block then some (ptr, splitBlock heap block size)
      else
        match kmalloc heap size with
        | none => none
        | some (newPtr, heap) =>
            if newPtr = 0 then some (0, heap)
            else
              let copySize := if heap.size block < size then heap.size block else size
              let heap := { heap with memory := heap.memory.copy newPtr ptr copySize }
              some (newPtr, kfree heap ptr)

def kcalloc (heap : Kheap) (num size : Nat) : Option (Nat × Kheap) :=
  let total := num * size % 2 ^ 32
  if num ≠ 0 ∧ total / num ≠ size then some (0, heap)
  else
    match kmalloc heap total with
    | none => none
    | some (ptr, heap) =>
        if ptr = 0 then some (0, heap)
        else some (ptr, { heap with memory := heap.memory.fill ptr 0 total })

/-- One list of `kheap_check_integrity`: whether every block passes. -/
def checkListFrom (heap : Kheap) (flag : Nat) : Nat → Nat → Option Bool
  | 0, _ => none
  | fuel + 1, block =>
      if block = 0 then some true
      else if heap.magic block ≠ kheapMagic then some false
      else if heap.flags block ≠ flag then some false
      else if !isInHeap heap block then some false
      else checkListFrom heap flag fuel (heap.next block)

def kheapCheckIntegrity (heap : Kheap) : Option Int :=
  if !heap.initialized then some 0
  else
    match checkListFrom heap kheapFlagFree (2 ^ 32) heap.freeList with
    | none => none
    | some false => some (-1)
    | some true =>
        match checkListFrom heap kheapFlagUsed (2 ^ 32) heap.usedList with
        | none => none
        | some false => some (-1)
        | some true => some 0

/-- The heap and the live allocations: each pointer with the size it was requested with. -/
structure Arena where
  heap : Kheap
  live : List (Nat × Nat)

inductive HeapCall where
  | kmalloc (size : Nat)
  | kcalloc (num size : Nat)
  | krealloc (ptr size : Nat)
  | kfree (ptr : Nat)
deriving DecidableEq

/-- The result of an allocation that was asked for `size` bytes. -/
def Arena.allocated (arena : Arena) (size : Nat) (result : Nat × Kheap) : Nat × Arena :=
  (result.1, ⟨result.2, if result.1 = 0 then arena.live else (result.1, size) :: arena.live⟩)

def Arena.release (arena : Arena) (ptr : Nat) : List (Nat × Nat) :=
  arena.live.filter fun allocation => allocation.1 ≠ ptr

/-- Performs a call; the answer is its return value (0 for `kfree`) and the new state. -/
def heapCall (arena : Arena) : HeapCall → Option (Nat × Arena)
  | .kmalloc size => (kmalloc arena.heap size).map (arena.allocated size)
  | .kcalloc num size => (kcalloc arena.heap num size).map (arena.allocated (num * size))
  | .krealloc ptr size =>
      (krealloc arena.heap ptr size).map fun result =>
        if ptr = 0 then arena.allocated size result
        else if size = 0 then (result.1, ⟨result.2, arena.release ptr⟩)
        else if result.1 = 0 then (result.1, ⟨result.2, arena.live⟩)
        else (result.1, ⟨result.2, (result.1, size) :: arena.release ptr⟩)
  | .kfree ptr => some (0, ⟨kfree arena.heap ptr, arena.release ptr⟩)

def heapStep (arena : Arena) (call : HeapCall) : Option Arena := (heapCall arena call).map Prod.snd

end AutismOS.Heap
