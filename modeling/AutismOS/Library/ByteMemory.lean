import Mathlib.Algebra.Group.Nat.Defs
import Mathlib.Logic.Function.Basic

namespace AutismOS.Library

/-! A byte-addressed memory with 32-bit addresses and little-endian words.

Addresses are natural numbers and wrap around where a byte is accessed, so
pointer arithmetic needs no side conditions.  Words at multiples of four never
overlap in part: two of them are the same word or share no byte.
-/

/-- The content of memory, byte by byte. -/
abbrev ByteMemory := Nat → UInt8

namespace ByteMemory

variable {memory : ByteMemory} {address other value count : Nat} {byte : UInt8}

def loadByte (memory : ByteMemory) (address : Nat) : UInt8 := memory (address % 2 ^ 32)

def storeByte (memory : ByteMemory) (address : Nat) (byte : UInt8) : ByteMemory :=
  Function.update memory (address % 2 ^ 32) byte

def loadWord (memory : ByteMemory) (address : Nat) : Nat :=
  (memory.loadByte address).toNat + 2 ^ 8 * (memory.loadByte (address + 1)).toNat +
    2 ^ 16 * (memory.loadByte (address + 2)).toNat + 2 ^ 24 * (memory.loadByte (address + 3)).toNat

def storeWord (memory : ByteMemory) (address value : Nat) : ByteMemory :=
  (((memory.storeByte address (UInt8.ofNat value)).storeByte (address + 1)
    (UInt8.ofNat (value / 2 ^ 8))).storeByte (address + 2)
      (UInt8.ofNat (value / 2 ^ 16))).storeByte (address + 3) (UInt8.ofNat (value / 2 ^ 24))

/-- `count` bytes from `address` on are overwritten, the first one first. -/
def fill (memory : ByteMemory) (address : Nat) (byte : UInt8) : Nat → ByteMemory
  | 0 => memory
  | count + 1 => fill (memory.storeByte address byte) (address + 1) byte count

/-- `count` bytes are copied one by one, the first one first. -/
def copy (memory : ByteMemory) (target source : Nat) : Nat → ByteMemory
  | 0 => memory
  | count + 1 => copy (memory.storeByte target (memory.loadByte source)) (target + 1) (source + 1) count

theorem loadByte_storeByte_same : (memory.storeByte address byte).loadByte address = byte := by
  simp [loadByte, storeByte]

theorem loadByte_storeByte_other (apart : other % 2 ^ 32 ≠ address % 2 ^ 32) :
    (memory.storeByte address byte).loadByte other = memory.loadByte other := by
  rw [loadByte, storeByte, Function.update_of_ne apart]
  rfl

theorem loadWord_lt : memory.loadWord address < 2 ^ 32 := by
  have first := (memory.loadByte address).toNat_lt
  have second := (memory.loadByte (address + 1)).toNat_lt
  have third := (memory.loadByte (address + 2)).toNat_lt
  have fourth := (memory.loadByte (address + 3)).toNat_lt
  unfold loadWord
  omega

theorem loadWord_storeWord_same (small : value < 2 ^ 32) :
    (memory.storeWord address value).loadWord address = value := by
  have apart (low high : Nat) (bounded : high < 4) (less : low < high) :
      (address + low) % 2 ^ 32 ≠ (address + high) % 2 ^ 32 := by
    omega
  have first : (memory.storeWord address value).loadByte address = UInt8.ofNat value := by
    rw [storeWord, loadByte_storeByte_other (by omega), loadByte_storeByte_other (by omega),
      loadByte_storeByte_other (by omega), loadByte_storeByte_same]
  have second : (memory.storeWord address value).loadByte (address + 1) =
      UInt8.ofNat (value / 2 ^ 8) := by
    rw [storeWord, loadByte_storeByte_other (apart 1 3 (by omega) (by omega)),
      loadByte_storeByte_other (apart 1 2 (by omega) (by omega)), loadByte_storeByte_same]
  have third : (memory.storeWord address value).loadByte (address + 2) =
      UInt8.ofNat (value / 2 ^ 16) := by
    rw [storeWord, loadByte_storeByte_other (apart 2 3 (by omega) (by omega)), loadByte_storeByte_same]
  have fourth : (memory.storeWord address value).loadByte (address + 3) =
      UInt8.ofNat (value / 2 ^ 24) := by
    rw [storeWord, loadByte_storeByte_same]
  rw [loadWord, first, second, third, fourth]
  simp only [UInt8.toNat_ofNat']
  omega

theorem loadWord_storeWord_other (aligned : address % 4 = 0) (aligned' : other % 4 = 0)
    (apart : other % 2 ^ 32 ≠ address % 2 ^ 32) :
    (memory.storeWord address value).loadWord other = memory.loadWord other := by
  have kept (offset : Nat) (bounded : offset < 4) :
      (memory.storeWord address value).loadByte (other + offset) = memory.loadByte (other + offset) := by
    have away (place : Nat) (inside : place < 4) :
        (other + offset) % 2 ^ 32 ≠ (address + place) % 2 ^ 32 := by
      omega
    rw [storeWord, loadByte_storeByte_other (away 3 (by omega)),
      loadByte_storeByte_other (away 2 (by omega)), loadByte_storeByte_other (away 1 (by omega)),
      loadByte_storeByte_other (by omega)]
  have first := kept 0 (by omega)
  rw [Nat.add_zero] at first
  rw [loadWord, loadWord, first, kept 1 (by omega), kept 2 (by omega), kept 3 (by omega)]

theorem loadByte_storeWord_outside (fits : address + 4 ≤ 2 ^ 32) (small : other < 2 ^ 32)
    (outside : other < address ∨ address + 4 ≤ other) :
    (memory.storeWord address value).loadByte other = memory.loadByte other := by
  rw [storeWord, loadByte_storeByte_other (by omega), loadByte_storeByte_other (by omega),
    loadByte_storeByte_other (by omega), loadByte_storeByte_other (by omega)]

theorem loadWord_storeByte_outside (small : address < 2 ^ 32) (fits : other + 4 ≤ 2 ^ 32)
    (outside : address < other ∨ other + 4 ≤ address) :
    (memory.storeByte address byte).loadWord other = memory.loadWord other := by
  rw [loadWord, loadWord, loadByte_storeByte_other (by omega), loadByte_storeByte_other (by omega),
    loadByte_storeByte_other (by omega), loadByte_storeByte_other (by omega)]

/-- What a range was filled with is in its bytes. -/
theorem fill_apply (fits : address + count ≤ 2 ^ 32) :
    memory.fill address byte count other = if address ≤ other ∧ other < address + count then byte else memory other := by
  induction count generalizing memory address with
  | zero =>
      rw [fill, if_neg]
      omega
  | succ count ih =>
      have place : address % 2 ^ 32 = address := Nat.mod_eq_of_lt (by omega)
      rw [fill, ih (by omega), storeByte, place]
      by_cases here : other = address
      · rw [here, if_neg (by omega), if_pos (by omega), Function.update_self]
      · rw [Function.update_of_ne here]
        refine if_congr ?_ rfl rfl
        omega

theorem loadByte_fill_outside (fits : address + count ≤ 2 ^ 32) (small : other < 2 ^ 32)
    (outside : other < address ∨ address + count ≤ other) :
    (memory.fill address byte count).loadByte other = memory.loadByte other := by
  rw [loadByte, loadByte, Nat.mod_eq_of_lt small, fill_apply fits, if_neg]
  omega

end ByteMemory

end AutismOS.Library
