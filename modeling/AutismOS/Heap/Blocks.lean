import AutismOS.Library.Links
import AutismOS.Heap.Core
import Mathlib.Data.List.Pairwise

namespace AutismOS.Heap

open AutismOS.Library

variable {heap before after : Kheap} {list : KheapList} {name other : Field}
variable {block node size value : Nat} {nodes rest : List Nat} {origin : Option Nat}

/-! Block headers in memory and the lists they form. -/

/-- An address at which a block header can lie: aligned, and not across the end
of the address space. -/
structure Header (block : Nat) : Prop where
  aligned : block % 4 = 0
  bounded : block + headerSize ≤ 2 ^ 32

/-- Two headers that share no byte. -/
def Apart (left right : Nat) : Prop := left + headerSize ≤ right ∨ right + headerSize ≤ left

theorem Apart.symm {left right : Nat} (apart : Apart left right) : Apart right left :=
  Or.symm apart

instance : Std.Symm Apart := ⟨fun _ _ apart => apart.symm⟩

theorem Field.offset_aligned (name : Field) : name.offset % 4 = 0 := by
  cases name <;> rfl

theorem Field.offset_lt (name : Field) : name.offset < headerSize := by
  cases name <;> decide

theorem Field.offset_ne (different : name ≠ other) : name.offset ≠ other.offset := by
  cases name <;> cases other <;> first | contradiction | decide

namespace Kheap

theorem size_lt : heap.size block < 2 ^ 32 := ByteMemory.loadWord_lt

theorem next_lt : heap.next block < 2 ^ 32 := ByteMemory.loadWord_lt

theorem field_setField_same (small : value < 2 ^ 32) :
    (heap.setField block name value).field block name = value :=
  ByteMemory.loadWord_storeWord_same small

/-- A word that is not the one written keeps its value. -/
theorem field_setField_ne (header : Header block) (header' : Header node)
    (apart : node + name.offset ≠ block + other.offset) :
    (heap.setField block other value).field node name = heap.field node name := by
  have bounded := header.bounded
  have bounded' := header'.bounded
  have inside := other.offset_lt
  have inside' := name.offset_lt
  have aligned := other.offset_aligned
  have aligned' := name.offset_aligned
  have aligned₁ := header.aligned
  have aligned₂ := header'.aligned
  apply ByteMemory.loadWord_storeWord_other
  · omega
  · omega
  · rw [Nat.mod_eq_of_lt (by omega), Nat.mod_eq_of_lt (by omega)]
    exact apart

/-- The fields of one header never overlap, even across the end of the address space. -/
theorem field_setField_aligned (aligned : block % 4 = 0) (different : name ≠ other) :
    (heap.setField block other value).field block name = heap.field block name := by
  have offsets := Field.offset_ne different
  have inside := other.offset_lt
  have inside' := name.offset_lt
  have aligned₁ := other.offset_aligned
  have aligned₂ := name.offset_aligned
  unfold headerSize at *
  apply ByteMemory.loadWord_storeWord_other
  · omega
  · omega
  · omega

theorem field_setField_field (header : Header block) (different : name ≠ other) :
    (heap.setField block other value).field block name = heap.field block name :=
  field_setField_aligned header.aligned different

theorem field_setField_apart (header : Header block) (header' : Header node)
    (apart : Apart block node) :
    (heap.setField block other value).field node name = heap.field node name := by
  apply field_setField_ne header header'
  have inside := other.offset_lt
  have inside' := name.offset_lt
  unfold Apart at apart
  omega

/-- The general case for headers that are equal or apart. -/
theorem field_setField (header : Header block) (header' : Header node)
    (place : block = node ∨ Apart block node) (small : value < 2 ^ 32) :
    (heap.setField block other value).field node name =
      if node = block ∧ name = other then value else heap.field node name := by
  rcases place with same | apart
  · subst same
    by_cases isName : name = other
    · subst isName
      simp [field_setField_same small]
    · simp [isName, field_setField_field header isName]
  · have different : node ≠ block := fun same => by
      unfold Apart headerSize at apart
      omega
    simp [different, field_setField_apart header header' apart]

/-- The bytes outside a header do not change when a field of it is written. -/
theorem byte_setField {address : Nat} (header : Header block) (small : address < 2 ^ 32)
    (outside : address < block ∨ block + headerSize ≤ address) :
    (heap.setField block other value).memory.loadByte address = heap.memory.loadByte address := by
  have bounded := header.bounded
  have inside := other.offset_lt
  have aligned := other.offset_aligned
  unfold headerSize at *
  apply ByteMemory.loadByte_storeWord_outside
  · omega
  · exact small
  · omega

@[simp] theorem setHead_field (value : Nat) :
    (heap.setHead list value).field block name = heap.field block name := by
  cases list <;> rfl

end Kheap

/-- A pointer, or nothing for NULL. -/
def pointer (value : Nat) : Option Nat := if value = 0 then none else some value

theorem pointer_eq_none : pointer value = none ↔ value = 0 := by
  unfold pointer
  split <;> simp [*]

theorem pointer_eq_some : pointer value = some node ↔ value = node ∧ node ≠ 0 := by
  unfold pointer
  split
  · constructor
    · intro absurdity
      contradiction
    · intro both
      omega
  · constructor
    · intro same
      cases same
      exact ⟨rfl, by assumption⟩
    · intro both
      rw [both.1]

theorem pointer_of_ne (nonNull : value ≠ 0) : pointer value = some value := if_neg nonNull

/-- The link fields of all headers as one table of links. -/
def Kheap.links (heap : Kheap) : Links Nat where
  next block := pointer (heap.next block)
  prev block := pointer (heap.prev block)

theorem links_next : heap.links.next block = pointer (heap.next block) := rfl

theorem links_prev : heap.links.prev block = pointer (heap.prev block) := rfl

/-- Headers with the same fields have the same links. -/
theorem links_congr (next : after.field block .next = before.field block .next)
    (prev : after.field block .prev = before.field block .prev) :
    after.links.next block = before.links.next block ∧ after.links.prev block = before.links.prev block := by
  rw [links_next, links_next, links_prev, links_prev]
  exact ⟨congrArg pointer next, congrArg pointer prev⟩

/-- The nodes of a list have headers that share no byte, and none is NULL. -/
structure Spaced (nodes : List Nat) : Prop where
  header : ∀ node ∈ nodes, Header node
  positive : ∀ node ∈ nodes, node ≠ 0
  apart : nodes.Pairwise Apart

theorem Spaced.nodup (spaced : Spaced nodes) : nodes.Nodup := by
  refine spaced.apart.imp ?_
  intro left right apart same
  unfold Apart headerSize at apart
  omega

theorem Spaced.tail (spaced : Spaced (block :: rest)) : Spaced rest :=
  ⟨fun node member => spaced.header node (List.mem_cons_of_mem block member),
    fun node member => spaced.positive node (List.mem_cons_of_mem block member),
    (List.pairwise_cons.mp spaced.apart).2⟩

theorem Spaced.head_header (spaced : Spaced (block :: rest)) : Header block :=
  spaced.header block (by simp)

theorem Spaced.head_apart (spaced : Spaced (block :: rest)) (member : node ∈ rest) :
    Apart block node :=
  (List.pairwise_cons.mp spaced.apart).1 node member

/-- The first node of a list and what its link leads to. -/
theorem next_of_threads (threads : heap.links.Threads (some block) (block :: rest)) :
    heap.prev block = 0 ∧ (heap.next block = 0 ∧ rest = [] ∨ heap.next block ∈ rest) := by
  obtain ⟨_, root, remaining⟩ := threads
  refine ⟨pointer_eq_none.mp root, ?_⟩
  cases rest with
  | nil => exact Or.inl ⟨pointer_eq_none.mp remaining, rfl⟩
  | cons first others =>
      have link := (pointer_eq_some.mp remaining.1).1
      exact Or.inr (by simp [link])

/-- A header that is one of the nodes or apart from all of them. -/
def Beside (nodes : List Nat) (block : Nat) : Prop :=
  Header block ∧ ∀ node ∈ nodes, node = block ∨ Apart node block

theorem Spaced.beside (spaced : Spaced nodes) (member : node ∈ nodes) : Beside nodes node := by
  refine ⟨spaced.header node member, fun other inNodes => ?_⟩
  by_cases same : other = node
  · exact Or.inl same
  · exact Or.inr (spaced.apart.forall inNodes member same)

theorem listRemove_root (root : heap.prev block = 0) :
    listRemove heap list block =
      (((if heap.next block ≠ 0 then
          (heap.setHead list (heap.next block)).setPrev (heap.next block) 0
        else heap.setHead list (heap.next block)).setNext block 0).setPrev block 0) := by
  have next : (heap.setHead list (heap.next block)).next block = heap.next block := by
    simp [Kheap.next]
  have prev : (heap.setHead list (heap.next block)).prev block = 0 := by
    simpa [Kheap.prev] using root
  simp only [listRemove, root, ne_eq, not_true_eq_false, if_false, next, prev]

/-- Every field after the removal of the first node of a list. -/
theorem listRemove_field (spaced : Spaced (block :: rest))
    (threads : heap.links.Threads (some block) (block :: rest)) (beside : Beside (block :: rest) node) :
    (listRemove heap list block).field node name =
      if node = block ∧ (name = .next ∨ name = .prev) then 0
      else if node = heap.next block ∧ heap.next block ≠ 0 ∧ name = .prev then 0
      else heap.field node name := by
  obtain ⟨root, following⟩ := next_of_threads threads
  obtain ⟨header, places⟩ := beside
  have blockHeader := spaced.head_header
  have blockPlace := places block (by simp)
  have small : 0 < 2 ^ 32 := by decide
  rw [listRemove_root root, Kheap.setPrev, Kheap.field_setField blockHeader header blockPlace small,
    Kheap.setNext, Kheap.field_setField blockHeader header blockPlace small]
  rcases following with ⟨last, _⟩ | member
  · simp only [last, ne_eq, not_true_eq_false, if_false, Kheap.setHead_field]
    by_cases isBlock : node = block <;> cases name <;> simp [isBlock]
  · have positive := spaced.tail.positive _ member
    rw [if_pos positive, Kheap.setPrev, Kheap.field_setField (spaced.tail.header _ member) header
      (places _ (by simp [member])) small, Kheap.setHead_field]
    by_cases isBlock : node = block <;> cases name <;> simp [isBlock, positive]

/-- Removing the first node of a list writes memory and moves the list head. -/
theorem listRemove_state (root : heap.prev block = 0) :
    ∃ memory, listRemove heap list block = { heap.setHead list (heap.next block) with memory } := by
  rw [listRemove_root root]
  split <;> exact ⟨_, rfl⟩

/-- The rest of the list is what remains. -/
theorem listRemove_threads (spaced : Spaced (block :: rest))
    (threads : heap.links.Threads (some block) (block :: rest)) :
    (listRemove heap list block).links.Threads (pointer (heap.next block)) rest := by
  obtain ⟨root, _⟩ := next_of_threads threads
  have noPrev : heap.links.prev block = none := pointer_eq_none.mpr root
  have listed : heap.links.Threads (some block) ([] ++ block :: rest) := threads
  have unlinked : (heap.links.unlink block).Threads (heap.links.unlinkHead (some block) block) rest :=
    listed.unlink spaced.nodup
  have newHead : heap.links.unlinkHead (some block) block = pointer (heap.next block) := by
    rw [Links.unlinkHead, noPrev]
    rfl
  rw [newHead] at unlinked
  refine unlinked.frame fun node member => ?_
  have different : node ≠ block := fun same => (List.nodup_cons.mp spaced.nodup).1 (same ▸ member)
  have fields (name : Field) : (listRemove heap list block).field node name = _ :=
    listRemove_field spaced threads (spaced.beside (List.mem_cons_of_mem block member))
  constructor
  · rw [Links.unlink_next_of_ne different (by simp [noPrev])]
    simp [Kheap.links, Kheap.next, fields, different]
  · by_cases isNext : heap.links.next block = some node
    · have link := (pointer_eq_some.mp isNext)
      rw [Links.unlink_prev_of_next different isNext, noPrev]
      simp [Kheap.links, Kheap.prev, fields, different, link, pointer]
    · rw [Links.unlink_prev_of_ne different isNext]
      have notNext : ¬ (node = heap.next block ∧ heap.next block ≠ 0) := fun both =>
        isNext (pointer_eq_some.mpr ⟨both.1.symm, both.1 ▸ both.2⟩)
      simp only [Kheap.links, Kheap.prev, fields, different, false_and, if_false]
      rw [if_neg fun all => notNext ⟨all.1, all.2.1⟩]

theorem listPushFront_eq :
    listPushFront heap list block =
      (if heap.head list ≠ 0 then
        ((heap.setNext block (heap.head list)).setPrev block 0).setPrev (heap.head list) block
      else (heap.setNext block (heap.head list)).setPrev block 0).setHead list block := by
  have head : ((heap.setNext block (heap.head list)).setPrev block 0).head list = heap.head list := by
    cases list <;> rfl
  simp only [listPushFront, head]

/-- Every field after a node is pushed in front of a list. -/
theorem listPushFront_field (spaced : Spaced (block :: rest))
    (stretch : heap.links.Stretch none origin (pointer (heap.head list)) rest) (beside : Beside (block :: rest) node) :
    (listPushFront heap list block).field node name =
      if node = block ∧ name = .next then heap.head list
      else if node = block ∧ name = .prev then 0
      else if node = heap.head list ∧ heap.head list ≠ 0 ∧ name = .prev then block
      else heap.field node name := by
  obtain ⟨header, places⟩ := beside
  have blockHeader := spaced.head_header
  have blockPlace := places block (by simp)
  have zeroSmall : 0 < 2 ^ 32 := by decide
  have blockSmall : block < 2 ^ 32 := by
    have bounded := blockHeader.bounded
    unfold headerSize at bounded
    omega
  rw [listPushFront_eq, Kheap.setHead_field]
  cases rest with
  | nil =>
      have empty : heap.head list = 0 := pointer_eq_none.mp stretch
      rw [empty, if_neg (by simp), Kheap.setPrev,
        Kheap.field_setField blockHeader header blockPlace zeroSmall, Kheap.setNext,
        Kheap.field_setField blockHeader header blockPlace zeroSmall]
      by_cases isBlock : node = block <;> cases name <;> simp [isBlock]
  | cons first others =>
      obtain ⟨isFirst, positive⟩ := pointer_eq_some.mp stretch.1
      have firstHeader := spaced.tail.head_header
      have firstSmall : first < 2 ^ 32 := by
        have bounded := firstHeader.bounded
        unfold headerSize at bounded
        omega
      have different : first ≠ block := fun same =>
        (List.nodup_cons.mp spaced.nodup).1 (by simp [← same])
      rw [isFirst, if_pos positive, Kheap.setPrev, Kheap.field_setField firstHeader header
        (places first (by simp)) blockSmall, Kheap.setPrev,
        Kheap.field_setField blockHeader header blockPlace zeroSmall, Kheap.setNext,
        Kheap.field_setField blockHeader header blockPlace firstSmall]
      by_cases isBlock : node = block
      · subst isBlock
        cases name <;> simp [different.symm]
      · cases name <;> simp [isBlock, positive]

theorem listPushFront_state :
    ∃ memory, listPushFront heap list block = { heap.setHead list block with memory } := by
  rw [listPushFront_eq]
  by_cases empty : heap.head list ≠ 0
  · rw [if_pos empty]
    cases list <;> exact ⟨_, rfl⟩
  · rw [if_neg empty]
    cases list <;> exact ⟨_, rfl⟩

theorem listPushFront_threads (spaced : Spaced (block :: rest))
    (stretch : heap.links.Stretch none origin (pointer (heap.head list)) rest) :
    (listPushFront heap list block).links.Threads (some block) (block :: rest) := by
  have fresh : block ∉ rest := (List.nodup_cons.mp spaced.nodup).1
  refine (stretch.push fresh spaced.tail.nodup).frame fun node member => ?_
  have fields (name : Field) : (listPushFront heap list block).field node name = _ :=
    listPushFront_field spaced stretch (spaced.beside member)
  constructor
  · simp only [Kheap.links, Kheap.next, fields]
    by_cases isBlock : node = block <;> simp [isBlock, Links.push]
  · simp only [Kheap.links, Kheap.prev, fields]
    by_cases isBlock : node = block
    · simp [isBlock, Links.push, pointer]
    · cases head : pointer (heap.head list) with
      | none =>
          have empty := pointer_eq_none.mp head
          simp [isBlock, Links.push, empty]
      | some first =>
          obtain ⟨isFirst, nonNull⟩ := pointer_eq_some.mp head
          have blockPositive := spaced.positive block (by simp)
          by_cases atFirst : node = first
          · have different : first ≠ block := atFirst ▸ isBlock
            simp [Links.push, isFirst, nonNull, atFirst, pointer, blockPositive, different]
          · simp [isBlock, Links.push, isFirst, atFirst]

/-- The size that `split_block` computes for the new block; it wraps around when
less than a header is left over. -/
def remainder (heap : Kheap) (block size : Nat) : Nat := sub32 (sub32 (heap.size block) size) headerSize

theorem splitBlock_small (small : remainder heap block size < kheapMinBlock) :
    splitBlock heap block size = heap := by
  have no : ¬ sub32 (sub32 (heap.size block) size) headerSize ≥ kheapMinBlock := Nat.not_le.mpr small
  simp only [splitBlock, no, if_false]

/-- The header fields that `split_block` gives the new block. -/
def newHeader (heap : Kheap) (block size : Nat) : Field → Nat
  | .magic => kheapMagic
  | .flags => kheapFlagFree
  | .size => remainder heap block size
  | .next => heap.next block
  | .prev => block

theorem newHeader_lt (header : Header block) (name : Field) : newHeader heap block size name < 2 ^ 32 := by
  have bounded := header.bounded
  unfold headerSize at bounded
  cases name with
  | magic => simp [newHeader, kheapMagic]
  | flags => simp [newHeader, kheapFlagFree]
  | size => exact Nat.mod_lt _ (by decide)
  | next => exact Kheap.next_lt
  | prev =>
      simp only [newHeader]
      omega

/-- The new block's header, written field by field. -/
def writeHeader (heap : Kheap) (node : Nat) (value : Field → Nat) : Kheap :=
  ((((heap.setMagic node (value .magic)).setFlags node (value .flags)).setSize node
    (value .size)).setNext node (value .next)).setPrev node (value .prev)

theorem writeHeader_same {value : Field → Nat} (aligned : node % 4 = 0)
    (small : ∀ name, value name < 2 ^ 32) : (writeHeader heap node value).field node name = value name := by
  unfold writeHeader Kheap.setMagic Kheap.setFlags Kheap.setSize Kheap.setNext Kheap.setPrev
  by_cases isPrev : name = .prev
  · subst isPrev
    exact Kheap.field_setField_same (small _)
  rw [Kheap.field_setField_aligned aligned isPrev]
  by_cases isNext : name = .next
  · subst isNext
    exact Kheap.field_setField_same (small _)
  rw [Kheap.field_setField_aligned aligned isNext]
  by_cases isSize : name = .size
  · subst isSize
    exact Kheap.field_setField_same (small _)
  rw [Kheap.field_setField_aligned aligned isSize]
  cases name with
  | flags => exact Kheap.field_setField_same (small _)
  | magic =>
      rw [Kheap.field_setField_aligned aligned (by decide)]
      exact Kheap.field_setField_same (small _)
  | size => exact absurd rfl isSize
  | next => exact absurd rfl isNext
  | prev => exact absurd rfl isPrev

/-- A word outside the new header keeps its value. -/
theorem writeHeader_other {value : Field → Nat} (header : Header node) (header' : Header block)
    (outside : block + name.offset < node ∨ node + headerSize ≤ block + name.offset) :
    (writeHeader heap node value).field block name = heap.field block name := by
  have apart (written : Field) : block + name.offset ≠ node + written.offset := by
    have inside := written.offset_lt
    omega
  unfold writeHeader Kheap.setMagic Kheap.setFlags Kheap.setSize Kheap.setNext Kheap.setPrev
  rw [Kheap.field_setField_ne header header' (apart _), Kheap.field_setField_ne header header' (apart _),
    Kheap.field_setField_ne header header' (apart _), Kheap.field_setField_ne header header' (apart _),
    Kheap.field_setField_ne header header' (apart _)]

theorem writeHeader_apart {value : Field → Nat} (header : Header node) (header' : Header block)
    (apart : Apart node block) :
    (writeHeader heap node value).field block name = heap.field block name := by
  apply writeHeader_other header header'
  have inside := name.offset_lt
  unfold Apart at apart
  omega

/-- `split_block` when it splits, with the new block's address. -/
theorem splitBlock_eq (large : kheapMinBlock ≤ remainder heap block size) (header : Header block)
    (inside : block + headerSize + size < 2 ^ 32) (new : Header (block + headerSize + size)) :
    splitBlock heap block size =
      ((if heap.next block ≠ 0 then
          (writeHeader heap (block + headerSize + size) (newHeader heap block size)).setPrev
            (heap.next block) (block + headerSize + size)
        else writeHeader heap (block + headerSize + size) (newHeader heap block size)).setNext
          block (block + headerSize + size)).setSize block size := by
  have address : add32 (add32 block headerSize) size = block + headerSize + size := by
    unfold add32 headerSize at *
    omega
  have apart : Apart (block + headerSize + size) block := by
    unfold Apart
    omega
  have early : (((heap.setMagic (block + headerSize + size) kheapMagic).setFlags
      (block + headerSize + size) kheapFlagFree).setSize (block + headerSize + size)
        (remainder heap block size)).next block = heap.next block := by
    unfold Kheap.next Kheap.setMagic Kheap.setFlags Kheap.setSize
    rw [Kheap.field_setField_apart new header apart, Kheap.field_setField_apart new header apart,
      Kheap.field_setField_apart new header apart]
  have late : (writeHeader heap (block + headerSize + size) (newHeader heap block size)).next block =
      heap.next block := writeHeader_apart new header apart
  have splits : sub32 (sub32 (heap.size block) size) headerSize ≥ kheapMinBlock := large
  have written : ((((heap.setMagic (block + headerSize + size) kheapMagic).setFlags
      (block + headerSize + size) kheapFlagFree).setSize (block + headerSize + size)
        (remainder heap block size)).setNext (block + headerSize + size) (heap.next block)).setPrev
          (block + headerSize + size) block =
      writeHeader heap (block + headerSize + size) (newHeader heap block size) := rfl
  unfold remainder at early written
  simp only [splitBlock, splits, if_true, address, early, written, late]

theorem splitBlock_state :
    ∃ memory, splitBlock heap block size = { heap with memory } := by
  by_cases large : kheapMinBlock ≤ remainder heap block size
  · have splits : sub32 (sub32 (heap.size block) size) headerSize ≥ kheapMinBlock := large
    simp only [splitBlock, splits, if_true]
    split <;> exact ⟨_, rfl⟩
  · exact ⟨heap.memory, splitBlock_small (Nat.not_le.mp large)⟩

theorem splitBlock_block (large : kheapMinBlock ≤ remainder heap block size) (header : Header block)
    (inside : block + headerSize + size < 2 ^ 32) (new : Header (block + headerSize + size))
    (next : heap.next block = 0 ∨ Header (heap.next block) ∧ Apart (heap.next block) block) :
    (splitBlock heap block size).field block name =
      if name = .size then size
      else if name = .next then block + headerSize + size
      else heap.field block name := by
  have apart : Apart (block + headerSize + size) block := by
    unfold Apart
    omega
  have place : block = block ∨ Apart block block := Or.inl rfl
  have kept : (if heap.next block ≠ 0 then
      (writeHeader heap (block + headerSize + size) (newHeader heap block size)).setPrev
        (heap.next block) (block + headerSize + size)
      else writeHeader heap (block + headerSize + size) (newHeader heap block size)).field block name =
      heap.field block name := by
    split
    · obtain ⟨nextHeader, nextApart⟩ := next.resolve_left (by assumption)
      rw [Kheap.setPrev, Kheap.field_setField_apart nextHeader header nextApart,
        writeHeader_apart new header apart]
    · exact writeHeader_apart new header apart
  rw [splitBlock_eq large header inside new, Kheap.setSize,
    Kheap.field_setField header header place (by omega), Kheap.setNext,
    Kheap.field_setField header header place inside, kept]
  simp

theorem splitBlock_new (large : kheapMinBlock ≤ remainder heap block size) (header : Header block)
    (inside : block + headerSize + size < 2 ^ 32) (new : Header (block + headerSize + size))
    (next : heap.next block = 0 ∨
      Header (heap.next block) ∧ Apart (heap.next block) (block + headerSize + size)) :
    (splitBlock heap block size).field (block + headerSize + size) name =
      newHeader heap block size name := by
  have apart : Apart block (block + headerSize + size) := by
    unfold Apart
    omega
  rw [splitBlock_eq large header inside new, Kheap.setSize, Kheap.field_setField_apart header new apart,
    Kheap.setNext, Kheap.field_setField_apart header new apart]
  rcases next with last | ⟨nextHeader, nextApart⟩
  · rw [if_neg (by simp [last]), writeHeader_same new.aligned (newHeader_lt header)]
  · split
    · rw [Kheap.setPrev, Kheap.field_setField_apart nextHeader new nextApart,
        writeHeader_same new.aligned (newHeader_lt header)]
    · rw [writeHeader_same new.aligned (newHeader_lt header)]

/-- The fields of other headers: only the back link of the next block is redirected. -/
theorem splitBlock_other (large : kheapMinBlock ≤ remainder heap block size) (header : Header block)
    (inside : block + headerSize + size < 2 ^ 32) (new : Header (block + headerSize + size))
    (other : Header node) (apart : Apart block node)
    (outside : node + name.offset < block + headerSize + size ∨
      block + headerSize + size + headerSize ≤ node + name.offset)
    (next : heap.next block = 0 ∨ Header (heap.next block) ∧
      (heap.next block = node ∨ Apart (heap.next block) node)) :
    (splitBlock heap block size).field node name =
      if node = heap.next block ∧ heap.next block ≠ 0 ∧ name = .prev then block + headerSize + size
      else heap.field node name := by
  rw [splitBlock_eq large header inside new, Kheap.setSize, Kheap.field_setField_apart header other apart,
    Kheap.setNext, Kheap.field_setField_apart header other apart]
  rcases next with last | ⟨nextHeader, place⟩
  · rw [if_neg (by simp [last]), writeHeader_other new other outside]
    simp [last]
  · by_cases positive : heap.next block ≠ 0
    · rw [if_pos positive, Kheap.setPrev, Kheap.field_setField nextHeader other place inside,
        writeHeader_other new other outside]
      simp [positive]
    · rw [if_neg positive, writeHeader_other new other outside, if_neg fun all => positive all.2.1]

/-- The data that the split block keeps. -/
theorem splitBlock_byte {address : Nat} (large : kheapMinBlock ≤ remainder heap block size)
    (header : Header block) (inside : block + headerSize + size < 2 ^ 32)
    (new : Header (block + headerSize + size))
    (next : heap.next block = 0 ∨
      Header (heap.next block) ∧ block + headerSize + size ≤ heap.next block)
    (above : block + headerSize ≤ address) (below : address < block + headerSize + size) :
    (splitBlock heap block size).memory.loadByte address = heap.memory.loadByte address := by
  have small : address < 2 ^ 32 := by omega
  have created : (writeHeader heap (block + headerSize + size)
      (newHeader heap block size)).memory.loadByte address = heap.memory.loadByte address := by
    unfold writeHeader Kheap.setMagic Kheap.setFlags Kheap.setSize Kheap.setNext Kheap.setPrev
    rw [Kheap.byte_setField new small (Or.inl below), Kheap.byte_setField new small (Or.inl below),
      Kheap.byte_setField new small (Or.inl below), Kheap.byte_setField new small (Or.inl below),
      Kheap.byte_setField new small (Or.inl below)]
  rw [splitBlock_eq large header inside new, Kheap.setSize,
    Kheap.byte_setField header small (Or.inr above), Kheap.setNext,
    Kheap.byte_setField header small (Or.inr above)]
  split
  · obtain ⟨nextHeader, beyond⟩ := next.resolve_left (by assumption)
    rw [Kheap.setPrev, Kheap.byte_setField nextHeader small (Or.inl (by omega)), created]
  · exact created

end AutismOS.Heap
