import AutismOS.Library.ByteMemory

namespace AutismOS.Library

/-! A byte memory that records which of its bytes were accessed through a pointer.

Accesses that need no record go to `bytes` directly.
-/

structure TracedMemory where
  bytes : ByteMemory
  touched : List Nat

namespace TracedMemory

variable (memory : TracedMemory) (address count value : Nat)

/-- `count` bytes from `address` on are accessed. -/
def touch : TracedMemory :=
  { memory with touched := (List.range count).map (fun offset => (address + offset) % 2 ^ 32) ++ memory.touched }

def loadByte : UInt8 × TracedMemory := (memory.bytes.loadByte address, memory.touch address 1)

def storeWord : TracedMemory :=
  { (memory.touch address 4) with bytes := memory.bytes.storeWord address value }

def storeByte (byte : UInt8) : TracedMemory :=
  { (memory.touch address 1) with bytes := memory.bytes.storeByte address byte }

def fill (byte : UInt8) : TracedMemory :=
  { (memory.touch address count) with bytes := memory.bytes.fill address byte count }

variable {memory address count value} {other limit lower : Nat}

theorem mem_touch : other ∈ (memory.touch address count).touched ↔
    (∃ offset < count, other = (address + offset) % 2 ^ 32) ∨ other ∈ memory.touched := by
  simp only [touch, List.mem_append, List.mem_map, List.mem_range]
  constructor
  · intro member
    rcases member with ⟨offset, inside, same⟩ | old
    · exact Or.inl ⟨offset, inside, same.symm⟩
    · exact Or.inr old
  · intro listed
    rcases listed with ⟨offset, inside, same⟩ | old
    · exact Or.inl ⟨offset, inside, same.symm⟩
    · exact Or.inr old

/-- What was touched lies between two bounds exactly when the range does that was touched last. -/
theorem touch_within (fits : address + count ≤ 2 ^ 32) (nonempty : 0 < count) :
    (∀ other ∈ (memory.touch address count).touched, lower ≤ other ∧ other < limit) ↔
      (lower ≤ address ∧ address + count ≤ limit) ∧ ∀ other ∈ memory.touched, lower ≤ other ∧ other < limit := by
  constructor
  · intro within
    have first := within address (mem_touch.mpr (Or.inl ⟨0, nonempty, by omega⟩))
    have last := within (address + count - 1) (mem_touch.mpr (Or.inl ⟨count - 1, by omega, by omega⟩))
    exact ⟨⟨first.1, by omega⟩, fun other member => within other (mem_touch.mpr (Or.inr member))⟩
  · intro ⟨range, old⟩ other member
    rcases mem_touch.mp member with ⟨offset, inside, rfl⟩ | earlier
    · omega
    · exact old other earlier

theorem touch_ne_nil (nonempty : 0 < count) : (memory.touch address count).touched ≠ [] := by
  intro empty
  have first : address % 2 ^ 32 ∈ (memory.touch address count).touched := mem_touch.mpr (Or.inl ⟨0, nonempty, rfl⟩)
  rw [empty] at first
  cases first

/-- What was touched or changed in between lies in the region. -/
structure Within (region : Nat → Prop) (before after : TracedMemory) : Prop where
  touched : ∀ address ∈ after.touched, address ∈ before.touched ∨ region address
  bytes : ∀ address, ¬ region address → after.bytes address = before.bytes address

variable {region : Nat → Prop} {before middle after : TracedMemory} {byte : UInt8}

theorem Within.refl : Within region before before :=
  ⟨fun _ member => Or.inl member, fun _ _ => rfl⟩

theorem Within.trans (first : Within region before middle) (second : Within region middle after) :
    Within region before after := by
  constructor
  · intro address member
    rcases second.touched address member with earlier | inside
    · exact first.touched address earlier
    · exact Or.inr inside
  · intro address outside
    rw [second.bytes address outside, first.bytes address outside]

theorem touch_within_region (inside : ∀ offset < count, region ((address + offset) % 2 ^ 32)) :
    Within region memory (memory.touch address count) := by
  constructor
  · intro other member
    rcases mem_touch.mp member with ⟨offset, bounded, rfl⟩ | earlier
    · exact Or.inr (inside offset bounded)
    · exact Or.inl earlier
  · intro other outside
    rfl

theorem storeByte_within (inside : region (address % 2 ^ 32)) :
    Within region memory (memory.storeByte address byte) := by
  have touched : Within region memory (memory.touch address 1) := by
    apply touch_within_region
    intro offset bounded
    have zero : offset = 0 := Nat.lt_one_iff.mp bounded
    rw [zero]
    exact inside
  constructor
  · exact touched.touched
  · intro other outside
    refine Function.update_of_ne ?_ _ _
    intro same
    rw [same] at outside
    exact outside inside

theorem storeWord_within (inside : ∀ offset < 4, region ((address + offset) % 2 ^ 32)) :
    Within region memory (memory.storeWord address value) := by
  constructor
  · exact (touch_within_region inside).touched
  · intro other outside
    have apart (offset : Nat) (bounded : offset < 4) : other ≠ (address + offset) % 2 ^ 32 := by
      intro same
      rw [same] at outside
      exact outside (inside offset bounded)
    change memory.bytes.storeWord address value other = memory.bytes other
    rw [ByteMemory.storeWord, ByteMemory.storeByte, Function.update_of_ne (apart 3 (by decide)),
      ByteMemory.storeByte, Function.update_of_ne (apart 2 (by decide)), ByteMemory.storeByte,
      Function.update_of_ne (apart 1 (by decide)), ByteMemory.storeByte]
    exact Function.update_of_ne (apart 0 (by decide)) _ _

theorem fill_bytes {memory : ByteMemory} (inside : ∀ offset < count, region ((address + offset) % 2 ^ 32))
    (outside : ¬ region other) : memory.fill address byte count other = memory other := by
  induction count generalizing memory address with
  | zero => rfl
  | succ count ih =>
      have rest : ∀ offset < count, region ((address + 1 + offset) % 2 ^ 32) := by
        intro offset bounded
        have further := inside (offset + 1) (Nat.succ_lt_succ bounded)
        rwa [← Nat.add_assoc, Nat.add_right_comm] at further
      rw [ByteMemory.fill, ih rest]
      refine Function.update_of_ne ?_ _ _
      intro same
      rw [same] at outside
      exact outside (inside 0 (Nat.succ_pos count))

theorem fill_within (inside : ∀ offset < count, region ((address + offset) % 2 ^ 32)) :
    Within region memory (memory.fill address count byte) :=
  ⟨(touch_within_region inside).touched, fun _ outside => fill_bytes inside outside⟩

end TracedMemory

end AutismOS.Library
