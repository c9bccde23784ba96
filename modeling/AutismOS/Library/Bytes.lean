import AutismOS.Library.ByteMemory

namespace AutismOS.Library

/-! Strings of bytes, their place in a memory, and the two byte orders of 16-bit and 32-bit numbers. -/

variable {memory : ByteMemory} {address other value count more : Nat} {byte : UInt8} {bytes front back : List UInt8}

/-- The two bytes of a 16-bit number, the low one first. -/
def bytes16 (value : Nat) : List UInt8 := [UInt8.ofNat value, UInt8.ofNat (value / 2 ^ 8)]

/-- The four bytes of a 32-bit number, the low one first. -/
def bytes32 (value : Nat) : List UInt8 := bytes16 value ++ bytes16 (value / 2 ^ 16)

/-- A 16-bit number with its bytes exchanged. -/
def swap16 (value : Nat) : Nat := (value >>> 8 ||| value <<< 8) % 2 ^ 16

/-- A 32-bit number with its bytes in the opposite order. -/
def swap32 (value : Nat) : Nat :=
  (value >>> 24 &&& 0xFF) ||| (value >>> 8 &&& 0xFF00) ||| (value <<< 8 &&& 0xFF0000) |||
    (value <<< 24 &&& 0xFF000000)

@[simp] theorem length_bytes16 : (bytes16 value).length = 2 := rfl

@[simp] theorem length_bytes32 : (bytes32 value).length = 4 := rfl

theorem swap16_lt : swap16 value < 2 ^ 16 := Nat.mod_lt _ (Nat.two_pow_pos 16)

theorem swap16_eq (small : value < 2 ^ 16) : swap16 value = value / 2 ^ 8 + 2 ^ 8 * (value % 2 ^ 8) := by
  have high : value / 2 ^ 8 < 2 ^ 8 := by omega
  have joined : value <<< 8 ||| value >>> 8 = value <<< 8 + value >>> 8 :=
    (Nat.shiftLeft_add_eq_or_of_lt (by rw [Nat.shiftRight_eq_div_pow]; exact high) value).symm
  rw [swap16, Nat.or_comm, joined, Nat.shiftRight_eq_div_pow, Nat.shiftLeft_eq]
  omega

theorem swap16_swap16 (small : value < 2 ^ 16) : swap16 (swap16 value) = value := by
  rw [swap16_eq swap16_lt, swap16_eq small]
  omega

/-- A mask for one byte. -/
theorem and_byte (shift : Nat) : value &&& (0xFF <<< shift) = 2 ^ shift * (value / 2 ^ shift % 2 ^ 8) := by
  apply Nat.eq_of_testBit_eq
  intro bit
  have mask : (0xFF : Nat) = 2 ^ 8 - 1 := rfl
  rw [Nat.testBit_and, Nat.testBit_shiftLeft, mask, Nat.testBit_two_pow_sub_one, Nat.mul_comm, ← Nat.shiftLeft_eq,
    Nat.testBit_shiftLeft, Nat.testBit_mod_two_pow, Nat.testBit_div_two_pow]
  by_cases above : shift ≤ bit
  · rw [Nat.sub_add_cancel above, decide_eq_true above, Bool.true_and, Bool.and_comm, Bool.true_and]
  · rw [decide_eq_false above, Bool.false_and, Bool.and_false, Bool.false_and]

theorem swap32_eq : swap32 value = value / 2 ^ 24 % 2 ^ 8 + 2 ^ 8 * (value / 2 ^ 16 % 2 ^ 8) +
    2 ^ 16 * (value / 2 ^ 8 % 2 ^ 8) + 2 ^ 24 * (value % 2 ^ 8) := by
  have first : value >>> 24 &&& 0xFF = value / 2 ^ 24 % 2 ^ 8 := by
    refine (and_byte 0).trans ?_
    rw [Nat.shiftRight_eq_div_pow]
    omega
  have second : value >>> 8 &&& 0xFF00 = 2 ^ 8 * (value / 2 ^ 16 % 2 ^ 8) := by
    refine (and_byte 8).trans ?_
    rw [Nat.shiftRight_eq_div_pow]
    omega
  have third : value <<< 8 &&& 0xFF0000 = 2 ^ 16 * (value / 2 ^ 8 % 2 ^ 8) := by
    refine (and_byte 16).trans ?_
    rw [Nat.shiftLeft_eq]
    omega
  have fourth : value <<< 24 &&& 0xFF000000 = 2 ^ 24 * (value % 2 ^ 8) := by
    refine (and_byte 24).trans ?_
    rw [Nat.shiftLeft_eq]
    omega
  have joins {low high shift : Nat} (small : low < 2 ^ shift) : low ||| 2 ^ shift * high = low + 2 ^ shift * high := by
    rw [Nat.or_comm, ← Nat.two_pow_add_eq_or_of_lt small, Nat.add_comm]
  rw [swap32, first, second, third, fourth]
  generalize value / 2 ^ 24 = a, value / 2 ^ 16 = b, value / 2 ^ 8 = c
  have low : a % 2 ^ 8 ||| 2 ^ 8 * (b % 2 ^ 8) = a % 2 ^ 8 + 2 ^ 8 * (b % 2 ^ 8) := joins (by omega)
  have middle : a % 2 ^ 8 + 2 ^ 8 * (b % 2 ^ 8) ||| 2 ^ 16 * (c % 2 ^ 8) =
      a % 2 ^ 8 + 2 ^ 8 * (b % 2 ^ 8) + 2 ^ 16 * (c % 2 ^ 8) := joins (by omega)
  rw [low, middle]
  exact joins (by omega)

theorem swap32_lt : swap32 value < 2 ^ 32 := by
  rw [swap32_eq]
  omega

/-- The bytes of a number that is put into network order, the high one first. -/
theorem bytes32_swap32 : bytes32 (swap32 value) =
    [UInt8.ofNat (value / 2 ^ 24), UInt8.ofNat (value / 2 ^ 16), UInt8.ofNat (value / 2 ^ 8), UInt8.ofNat value] := by
  have byte {left right : Nat} (same : left % 2 ^ 8 = right % 2 ^ 8) : UInt8.ofNat left = UInt8.ofNat right := by
    rw [← UInt8.toNat_inj]
    simpa using same
  have digits (first second third fourth : Nat) :
      bytes32 (first % 2 ^ 8 + 2 ^ 8 * (second % 2 ^ 8) + 2 ^ 16 * (third % 2 ^ 8) + 2 ^ 24 * (fourth % 2 ^ 8)) =
        [UInt8.ofNat first, UInt8.ofNat second, UInt8.ofNat third, UInt8.ofNat fourth] := by
    simp only [bytes32, bytes16, List.cons_append, List.nil_append, List.cons.injEq, and_true]
    exact ⟨byte (by omega), byte (by omega), byte (by omega), byte (by omega)⟩
  rw [swap32_eq, digits]

namespace ByteMemory

def load16 (memory : ByteMemory) (address : Nat) : Nat :=
  (memory.loadByte address).toNat + 2 ^ 8 * (memory.loadByte (address + 1)).toNat

def store16 (memory : ByteMemory) (address value : Nat) : ByteMemory :=
  (memory.storeByte address (UInt8.ofNat value)).storeByte (address + 1) (UInt8.ofNat (value / 2 ^ 8))

/-- The `count` bytes from `address` on. -/
def loadBytes (memory : ByteMemory) (address : Nat) : Nat → List UInt8
  | 0 => []
  | count + 1 => memory.loadByte address :: memory.loadBytes (address + 1) count

def storeBytes (memory : ByteMemory) (address : Nat) : List UInt8 → ByteMemory
  | [] => memory
  | byte :: rest => (memory.storeByte address byte).storeBytes (address + 1) rest

@[simp] theorem length_loadBytes : (memory.loadBytes address count).length = count := by
  induction count generalizing address with
  | zero => rfl
  | succ count ih => rw [loadBytes, List.length_cons, ih]

/-- The string of bytes stands at the address. -/
def Holds (memory : ByteMemory) (address : Nat) (bytes : List UInt8) : Prop :=
  memory.loadBytes address bytes.length = bytes

theorem holds_nil : memory.Holds address [] := rfl

theorem holds_cons : memory.Holds address (byte :: bytes) ↔
    memory.loadByte address = byte ∧ memory.Holds (address + 1) bytes := by
  rw [Holds, List.length_cons, loadBytes, List.cons.injEq]
  rfl

theorem holds_append : memory.Holds address (front ++ back) ↔
    memory.Holds address front ∧ memory.Holds (address + front.length) back := by
  induction front generalizing address with
  | nil => exact (and_iff_right holds_nil).symm
  | cons byte rest ih =>
      have further : address + 1 + rest.length = address + (rest.length + 1) := by omega
      rw [List.cons_append, holds_cons, holds_cons, ih, List.length_cons, further, and_assoc]

theorem Holds.load16 (holds : memory.Holds address (bytes16 value)) (small : value < 2 ^ 16) :
    memory.load16 address = value := by
  obtain ⟨low, rest⟩ := holds_cons.mp holds
  obtain ⟨high, _⟩ := holds_cons.mp rest
  rw [ByteMemory.load16, low, high]
  simp only [UInt8.toNat_ofNat']
  omega

theorem Holds.loadWord (holds : memory.Holds address (bytes32 value)) (small : value < 2 ^ 32) :
    memory.loadWord address = value := by
  obtain ⟨first, rest⟩ := holds_cons.mp holds
  obtain ⟨second, rest⟩ := holds_cons.mp rest
  obtain ⟨third, rest⟩ := holds_cons.mp rest
  obtain ⟨fourth, _⟩ := holds_cons.mp rest
  rw [ByteMemory.loadWord, first, second, third, fourth]
  simp only [UInt8.toNat_ofNat']
  omega

/-- Two memories hold the same bytes where they agree. -/
theorem loadBytes_congr {changed : ByteMemory}
    (same : ∀ offset < count, changed.loadByte (address + offset) = memory.loadByte (address + offset)) :
    changed.loadBytes address count = memory.loadBytes address count := by
  induction count generalizing address with
  | zero => rfl
  | succ count ih =>
      have first : changed.loadByte address = memory.loadByte address := same 0 (Nat.succ_pos count)
      have rest : changed.loadBytes (address + 1) count = memory.loadBytes (address + 1) count := by
        refine ih fun offset inside => ?_
        have further := same (offset + 1) (Nat.succ_lt_succ inside)
        rwa [← Nat.add_assoc, Nat.add_right_comm] at further
      rw [loadBytes, loadBytes, first, rest]

/-- `other` is none of the `count` addresses from `address` on, as 32-bit numbers. -/
def Apart (address count other : Nat) : Prop :=
  ∀ offset < count, other % 2 ^ 32 ≠ (address + offset) % 2 ^ 32

theorem loadByte_storeBytes_other (apart : Apart address bytes.length other) :
    (memory.storeBytes address bytes).loadByte other = memory.loadByte other := by
  induction bytes generalizing memory address with
  | nil => rfl
  | cons byte rest ih =>
      rw [storeBytes, ih, loadByte_storeByte_other]
      · exact apart 0 (Nat.succ_pos rest.length)
      · intro offset inside
        have further := apart (offset + 1) (Nat.succ_lt_succ inside)
        rwa [← Nat.add_assoc, Nat.add_right_comm] at further

theorem storeBytes_holds (fits : bytes.length ≤ 2 ^ 32) : (memory.storeBytes address bytes).Holds address bytes := by
  induction bytes generalizing memory address with
  | nil => rfl
  | cons byte rest ih =>
      rw [List.length_cons] at fits
      refine holds_cons.mpr ⟨?_, ih (Nat.le_of_succ_le fits)⟩
      rw [storeBytes, loadByte_storeBytes_other, loadByte_storeByte_same]
      intro offset inside
      omega

theorem loadByte_store16_other (low : other % 2 ^ 32 ≠ address % 2 ^ 32)
    (high : other % 2 ^ 32 ≠ (address + 1) % 2 ^ 32) :
    (memory.store16 address value).loadByte other = memory.loadByte other := by
  rw [store16, loadByte_storeByte_other high, loadByte_storeByte_other low]

end ByteMemory

end AutismOS.Library
