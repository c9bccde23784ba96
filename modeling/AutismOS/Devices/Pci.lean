import AutismOS.Library.Fields
import AutismOS.Library.Loops
import AutismOS.Library.Run
import Mathlib.Algebra.Group.Nat.Defs
import Mathlib.Logic.Function.Basic

namespace AutismOS.Devices

open AutismOS.Library

/-! The configuration space of `kernel/arch/pci.c`.

The bus keeps the address that was written last, and the data port stands for the register that the
address names.  Registers have 32 bits.  What the devices make of a write is a parameter; a read
changes nothing.
-/

def pciConfigAddressPort : Nat := 0xCF8
def pciConfigDataPort : Nat := 0xCFC
def pciVendorId : UInt8 := 0x00
def pciDeviceId : UInt8 := 0x02
def pciCommand : UInt8 := 0x04
def pciBar0 : UInt8 := 0x10
def pciCmdIo : UInt16 := 0x01
def pciCmdBusMaster : UInt16 := 0x04

/-- The place of a register: bus, device, function and number. -/
abbrev ConfigRegister := Nat × Nat × Nat × Nat

/-- Devices: what their registers read as, and what becomes of them when one is written. -/
class ConfigSpace (σ : Type u) where
  read : σ → ConfigRegister → UInt32
  write : σ → ConfigRegister → UInt32 → σ

structure PciBus (σ : Type u) where
  address : Nat
  devices : σ

variable {σ : Type u} [ConfigSpace σ]

/-- The register that an address names. -/
def registerOf (address : Nat) : ConfigRegister :=
  (address / 2 ^ 16 % 2 ^ 8, address / 2 ^ 11 % 2 ^ 5, address / 2 ^ 8 % 2 ^ 3, address / 2 ^ 2 % 2 ^ 6)

namespace PciBus

variable (pci : PciBus σ)

/-- Data is written only where the address is enabled. -/
def outportl (port : Nat) (value : UInt32) : PciBus σ :=
  if port = pciConfigAddressPort then { pci with address := value.toNat }
  else if port = pciConfigDataPort ∧ pci.address.testBit 31 then
    { pci with devices := ConfigSpace.write pci.devices (registerOf pci.address) value }
  else pci

def inportl (port : Nat) : UInt32 :=
  if port = pciConfigDataPort ∧ pci.address.testBit 31 then ConfigSpace.read pci.devices (registerOf pci.address)
  else 0xFFFFFFFF

end PciBus

def pciConfigAddress (bus slot func offset : UInt8) : UInt32 :=
  (bus.toUInt32 <<< 16) ||| (slot.toUInt32 <<< 11) ||| (func.toUInt32 <<< 8) ||| (offset &&& 0xFC).toUInt32 ||| 0x80000000

namespace PciBus

variable (pci : PciBus σ) (bus slot func offset : UInt8)

def pciReadWord : UInt16 × PciBus σ :=
  let pci := pci.outportl pciConfigAddressPort (pciConfigAddress bus slot func offset)
  ((pci.inportl pciConfigDataPort >>> ((offset &&& 2) * 8).toUInt32).toUInt16, pci)

def pciReadLong : UInt32 × PciBus σ :=
  let pci := pci.outportl pciConfigAddressPort (pciConfigAddress bus slot func offset)
  (pci.inportl pciConfigDataPort, pci)

/-- The register is read, and written again with one of its halves changed. -/
def pciWriteWord (value : UInt16) : PciBus σ :=
  let pci := pci.outportl pciConfigAddressPort (pciConfigAddress bus slot func offset)
  let data := pci.inportl pciConfigDataPort
  let data := data &&& ~~~(0xFFFF <<< ((offset &&& 2) * 8).toUInt32)
  let data := data ||| (value.toUInt32 <<< ((offset &&& 2) * 8).toUInt32)
  pci.outportl pciConfigDataPort data

end PciBus

variable {bus slot func offset : UInt8}

/-- The bits of the register number in an offset. -/
theorem and_registerBits {offset : Nat} (small : offset < 2 ^ 8) : offset &&& 0xFC = 2 ^ 2 * (offset / 2 ^ 2) := by
  have all : ∀ offset < 256, offset &&& 0xFC = 2 ^ 2 * (offset / 2 ^ 2) := by decide +kernel
  exact all offset small

theorem address_fields {bus slot func number : Nat} (busSmall : bus < 2 ^ 8) (slotSmall : slot < 2 ^ 5)
    (funcSmall : func < 2 ^ 3) (numberSmall : number < 2 ^ 6) :
    bus * 2 ^ 16 ||| slot * 2 ^ 11 ||| func * 2 ^ 8 ||| 2 ^ 2 * number ||| 2 ^ 31 =
      2 ^ 31 + 2 ^ 16 * bus + 2 ^ 11 * slot + 2 ^ 8 * func + 2 ^ 2 * number := by
  have slots : bus * 2 ^ 16 ||| slot * 2 ^ 11 = bus * 2 ^ 16 + slot * 2 ^ 11 := or_eq_add 16 (by omega) (by omega)
  have funcs : bus * 2 ^ 16 + slot * 2 ^ 11 ||| func * 2 ^ 8 = bus * 2 ^ 16 + slot * 2 ^ 11 + func * 2 ^ 8 :=
    or_eq_add 11 (by omega) (by omega)
  have numbers : bus * 2 ^ 16 + slot * 2 ^ 11 + func * 2 ^ 8 ||| 2 ^ 2 * number =
      bus * 2 ^ 16 + slot * 2 ^ 11 + func * 2 ^ 8 + 2 ^ 2 * number := or_eq_add 8 (by omega) (by omega)
  rw [slots, funcs, numbers, Nat.or_comm, or_eq_add 31 (by omega) (by omega)]
  omega

section

variable (slotSmall : slot.toNat < 2 ^ 5) (funcSmall : func.toNat < 2 ^ 3)
include slotSmall funcSmall

theorem pciConfigAddress_eq : (pciConfigAddress bus slot func offset).toNat =
    2 ^ 31 + 2 ^ 16 * bus.toNat + 2 ^ 11 * slot.toNat + 2 ^ 8 * func.toNat + 2 ^ 2 * (offset.toNat / 2 ^ 2) := by
  have busSmall := bus.toNat_lt
  have offsetSmall := offset.toNat_lt
  have places : bus.toNat * 2 ^ 16 % 2 ^ 32 = bus.toNat * 2 ^ 16 ∧ slot.toNat * 2 ^ 11 % 2 ^ 32 = slot.toNat * 2 ^ 11 ∧
      func.toNat * 2 ^ 8 % 2 ^ 32 = func.toNat * 2 ^ 8 := by omega
  simp only [pciConfigAddress, UInt32.toNat_or, UInt32.toNat_shiftLeft, UInt8.toNat_toUInt32, UInt8.toNat_and,
    Nat.shiftLeft_eq, UInt8.reduceToNat, UInt32.reduceToNat, and_registerBits offsetSmall, Nat.reduceMod, places]
  exact address_fields busSmall slotSmall funcSmall (by omega)

/-- The address names the register that was asked for. -/
theorem registerOf_address : registerOf (pciConfigAddress bus slot func offset).toNat =
    (bus.toNat, slot.toNat, func.toNat, offset.toNat / 2 ^ 2) := by
  have busSmall := bus.toNat_lt
  have offsetSmall := offset.toNat_lt
  rw [pciConfigAddress_eq slotSmall funcSmall, registerOf]
  refine Prod.ext ?_ (Prod.ext ?_ (Prod.ext ?_ ?_))
  all_goals
    dsimp only
    omega

theorem address_enabled : (pciConfigAddress bus slot func offset).toNat.testBit 31 = true := by
  have busSmall := bus.toNat_lt
  have offsetSmall := offset.toNat_lt
  rw [pciConfigAddress_eq slotSmall funcSmall, Nat.testBit_eq_decide_div_mod_eq, decide_eq_true_eq]
  omega

end

variable {pci : PciBus σ}

/-- The bits by which the word of an offset is moved. -/
theorem wordShift (offset : UInt8) : ((offset &&& 2) * 8).toUInt32 = if offset.toNat / 2 % 2 = 0 then 0 else 16 := by
  have all : ∀ offset < 256, ((UInt8.ofNat offset &&& 2) * 8).toUInt32 = if offset / 2 % 2 = 0 then 0 else 16 := by
    decide +kernel
  have known := all offset.toNat offset.toNat_lt
  rwa [UInt8.ofNat_toNat] at known

/-- A word of the configuration space, counted from the first of its function. -/
def wordOf (register : UInt32) (word : Nat) : Nat := register.toNat / 2 ^ (16 * (word % 2)) % 2 ^ 16

theorem wordOf_eq (register : UInt32) (word : Nat) : wordOf register word =
    if word % 2 = 0 then register.toNat % 2 ^ 16 else register.toNat / 2 ^ 16 := by
  have small := register.toNat_lt
  rcases Nat.mod_two_eq_zero_or_one word with even | odd
  · rw [wordOf, even, if_pos rfl, Nat.mul_zero, Nat.pow_zero, Nat.div_one]
  · rw [wordOf, odd, if_neg Nat.one_ne_zero, Nat.mul_one]
    omega

theorem readShift (register : UInt32) (offset : UInt8) :
    (register >>> ((offset &&& 2) * 8).toUInt32).toUInt16.toNat = wordOf register (offset.toNat / 2) := by
  have small := register.toNat_lt
  rw [wordShift, wordOf_eq]
  by_cases lower : offset.toNat / 2 % 2 = 0
  · rw [if_pos lower, if_pos lower]
    simp
  · rw [if_neg lower, if_neg lower]
    simp only [UInt32.toNat_toUInt16, UInt32.toNat_shiftRight, UInt32.reduceToNat, Nat.reduceMod, Nat.shiftRight_eq_div_pow]
    omega

/-- What is written back for a word. -/
def withWord (data : UInt32) (offset : UInt8) (value : UInt16) : UInt32 :=
  (data &&& ~~~(0xFFFF <<< ((offset &&& 2) * 8).toUInt32)) ||| (value.toUInt32 <<< ((offset &&& 2) * 8).toUInt32)

theorem withWord_toNat (data : UInt32) (offset : UInt8) (value : UInt16) : (withWord data offset value).toNat =
    if offset.toNat / 2 % 2 = 0 then 2 ^ 16 * (data.toNat / 2 ^ 16) + value.toNat
    else 2 ^ 16 * value.toNat + data.toNat % 2 ^ 16 := by
  have small := data.toNat_lt
  have valueSmall := value.toNat_lt
  rw [withWord, wordShift]
  by_cases lower : offset.toNat / 2 % 2 = 0
  · have mask : (~~~((0xFFFF : UInt32) <<< (0 : UInt32))).toNat = 2 ^ 16 * (2 ^ 16 - 1) := by decide
    have kept : (value.toUInt32 <<< (0 : UInt32)).toNat = value.toNat := by simp
    rw [if_pos lower, if_pos lower, UInt32.toNat_or, UInt32.toNat_and, mask, kept, and_higher 16 16 small]
    exact or_eq_add 16 (by omega) (by omega)
  · have mask : (~~~((0xFFFF : UInt32) <<< (16 : UInt32))).toNat = 2 ^ 16 - 1 := by decide
    have moved : (value.toUInt32 <<< (16 : UInt32)).toNat = 2 ^ 16 * value.toNat := by
      simp only [UInt32.toNat_shiftLeft, UInt16.toNat_toUInt32, UInt32.reduceToNat, Nat.reduceMod, Nat.shiftLeft_eq]
      omega
    rw [if_neg lower, if_neg lower, UInt32.toNat_or, UInt32.toNat_and, mask, moved, and_lower, Nat.or_comm]
    exact or_eq_add 16 (by omega) (by omega)

/-- The other word of the register is left. -/
theorem wordOf_withWord (data : UInt32) (offset : UInt8) (value : UInt16) (number : Nat) :
    wordOf (withWord data offset value) number =
      if number % 2 = offset.toNat / 2 % 2 then value.toNat else wordOf data number := by
  have small := data.toNat_lt
  have valueSmall := value.toNat_lt
  rw [wordOf_eq, wordOf_eq, withWord_toNat]
  by_cases lower : offset.toNat / 2 % 2 = 0
  · rw [if_pos lower, lower]
    by_cases even : number % 2 = 0
    · rw [if_pos even, if_pos even]
      omega
    · rw [if_neg even, if_neg even, if_neg even]
      omega
  · rw [if_neg lower]
    by_cases even : number % 2 = 0
    · have differ : ¬ number % 2 = offset.toNat / 2 % 2 := by omega
      rw [if_pos even, if_neg differ, if_pos even]
      omega
    · have same : number % 2 = offset.toNat / 2 % 2 := by omega
      rw [if_neg even, if_pos same]
      omega

/-- A function of a device, by numbers that an address has room for. -/
structure PciFunction where
  bus : UInt8
  slot : UInt8
  func : UInt8
  slotSmall : slot.toNat < 2 ^ 5
  funcSmall : func.toNat < 2 ^ 3

inductive PciCall where
  | readWord (place : PciFunction) (offset : UInt8)
  | readLong (place : PciFunction) (offset : UInt8)
  | writeWord (place : PciFunction) (offset : UInt8) (value : UInt16)

/-- The number that a call returns. -/
def PciBus.perform (pci : PciBus σ) : PciCall → Nat × PciBus σ
  | .readWord place offset =>
      let read := pci.pciReadWord place.bus place.slot place.func offset
      (read.1.toNat, read.2)
  | .readLong place offset =>
      let read := pci.pciReadLong place.bus place.slot place.func offset
      (read.1.toNat, read.2)
  | .writeWord place offset value => (0, pci.pciWriteWord place.bus place.slot place.func offset value)

/-- The words of all functions: by bus, device, function and number. -/
abbrev ConfigWords := ConfigRegister → Nat

def PciFunction.word (place : PciFunction) (number : Nat) : ConfigRegister :=
  (place.bus.toNat, place.slot.toNat, place.func.toNat, number)

def ConfigWords.perform (words : ConfigWords) : PciCall → Nat × ConfigWords
  | .readWord place offset => (words (place.word (offset.toNat / 2)), words)
  | .readLong place offset =>
      (words (place.word (offset.toNat / 4 * 2)) + 2 ^ 16 * words (place.word (offset.toNat / 4 * 2 + 1)), words)
  | .writeWord place offset value => (0, Function.update words (place.word (offset.toNat / 2)) value.toNat)

/-- The words that the registers read as, two in each. -/
def configWords (devices : σ) : ConfigWords := fun (bus, slot, func, number) =>
  wordOf (ConfigSpace.read devices (bus, slot, func, number / 2)) number

variable {place : PciFunction} {words : ConfigWords}

theorem configData (pci : PciBus σ) (place : PciFunction) (offset : UInt8) :
    (pci.outportl pciConfigAddressPort (pciConfigAddress place.bus place.slot place.func offset)).inportl
      pciConfigDataPort = ConfigSpace.read pci.devices (place.word (offset.toNat / 4)) := by
  have enabled := @address_enabled place.bus _ _ offset place.slotSmall place.funcSmall
  have named := @registerOf_address place.bus _ _ offset place.slotSmall place.funcSmall
  rw [PciBus.outportl, if_pos rfl, PciBus.inportl, if_pos ⟨rfl, enabled⟩, named]
  rfl

theorem pciReadWord_eq (place : PciFunction) (offset : UInt8) :
    (pci.pciReadWord place.bus place.slot place.func offset).1.toNat =
      configWords pci.devices (place.word (offset.toNat / 2)) := by
  have half : offset.toNat / 2 / 2 = offset.toNat / 4 := Nat.div_div_eq_div_mul ..
  rw [PciBus.pciReadWord, configData, readShift, ← half]
  rfl

theorem pciReadLong_eq (place : PciFunction) (offset : UInt8) :
    (pci.pciReadLong place.bus place.slot place.func offset).1.toNat =
      configWords pci.devices (place.word (offset.toNat / 4 * 2)) +
        2 ^ 16 * configWords pci.devices (place.word (offset.toNat / 4 * 2 + 1)) := by
  have even : offset.toNat / 4 * 2 / 2 = offset.toNat / 4 := by omega
  have odd : (offset.toNat / 4 * 2 + 1) / 2 = offset.toNat / 4 := by omega
  have evenWord : offset.toNat / 4 * 2 % 2 = 0 := by omega
  have oddWord : ¬ (offset.toNat / 4 * 2 + 1) % 2 = 0 := by omega
  rw [PciBus.pciReadLong, configData, PciFunction.word, PciFunction.word, PciFunction.word, configWords, configWords, even,
    odd, wordOf_eq, wordOf_eq, if_pos evenWord, if_neg oddWord]
  exact (Nat.mod_add_div ..).symm

theorem pciWriteWord_devices (place : PciFunction) (offset : UInt8) (value : UInt16) :
    (pci.pciWriteWord place.bus place.slot place.func offset value).devices =
      ConfigSpace.write pci.devices (place.word (offset.toNat / 4))
        (withWord (ConfigSpace.read pci.devices (place.word (offset.toNat / 4))) offset value) := by
  have enabled := @address_enabled place.bus _ _ offset place.slotSmall place.funcSmall
  have named := @registerOf_address place.bus _ _ offset place.slotSmall place.funcSmall
  have apart : pciConfigDataPort ≠ pciConfigAddressPort := by decide
  rw [PciBus.pciWriteWord, configData, PciBus.outportl, if_neg apart, PciBus.outportl, if_pos rfl, if_pos ⟨rfl, enabled⟩, named]
  rfl

/-- What is written to one of these registers is read from it, and no other register is changed. -/
structure Storage (σ : Type u) [ConfigSpace σ] (plain : ConfigRegister → Prop) : Prop where
  same : ∀ (devices : σ) {register value}, plain register →
    ConfigSpace.read (ConfigSpace.write devices register value) register = value
  other : ∀ (devices : σ) {register value other}, plain register → other ≠ register →
    ConfigSpace.read (ConfigSpace.write devices register value) other = ConfigSpace.read devices other

/-- The call writes to such a register, if it writes. -/
def PciCall.Within (plain : ConfigRegister → Prop) : PciCall → Prop
  | .writeWord place offset _ => plain (place.word (offset.toNat / 4))
  | _ => True

abbrev StorageCall (plain : ConfigRegister → Prop) := { call : PciCall // call.Within plain }

variable {plain : ConfigRegister → Prop}

def PciBus.performStorage (pci : PciBus σ) (call : StorageCall plain) : Nat × PciBus σ := pci.perform call.1

def ConfigWords.performStorage (words : ConfigWords) (call : StorageCall plain) : Nat × ConfigWords := words.perform call.1

theorem Storage.writeWord (storage : Storage σ plain) (offset : UInt8) (value : UInt16)
    (isPlain : plain (place.word (offset.toNat / 4))) :
    configWords (pci.pciWriteWord place.bus place.slot place.func offset value).devices =
      Function.update (configWords pci.devices) (place.word (offset.toNat / 2)) value.toNat := by
  funext ⟨bus, slot, func, number⟩
  rw [pciWriteWord_devices, configWords]
  by_cases register : (bus, slot, func, number / 2) = place.word (offset.toNat / 4)
  · rw [register, storage.same _ isPlain, wordOf_withWord, ← register]
    simp only [PciFunction.word, Prod.mk.injEq] at register
    by_cases same : (bus, slot, func, number) = place.word (offset.toNat / 2)
    · rw [same, Function.update_self, if_pos]
      simp only [PciFunction.word, Prod.mk.injEq] at same
      rw [same.2.2.2]
    · rw [Function.update_of_ne same, if_neg, configWords]
      intro parity
      simp only [PciFunction.word, Prod.mk.injEq] at same
      omega
  · have other : (bus, slot, func, number) ≠ place.word (offset.toNat / 2) := by
      intro same
      simp only [PciFunction.word, Prod.mk.injEq] at same register
      omega
    rw [Function.update_of_ne other, storage.other _ isPlain register, configWords]

theorem perform_simulates_words (storage : Storage σ plain) :
    Simulates (fun (pci : PciBus σ) words => configWords pci.devices = words) PciBus.performStorage
      (@ConfigWords.performStorage plain) := by
  intro pci words call holds
  subst holds
  obtain ⟨call, within⟩ := call
  cases call with
  | readWord place offset => exact ⟨pciReadWord_eq place offset, rfl⟩
  | readLong place offset => exact ⟨pciReadLong_eq place offset, rfl⟩
  | writeWord place offset value => exact ⟨rfl, storage.writeWord offset value within⟩

/-- Where only such registers are written, a word reads as it was written last, whatever is read and
written through the two ports, and no call changes another word. -/
theorem pci_answers (storage : Storage σ plain) (pci : PciBus σ) (calls : List (StorageCall plain)) :
    (answers PciBus.performStorage pci calls).1 = (answers ConfigWords.performStorage (configWords pci.devices) calls).1 :=
  ((perform_simulates_words storage).answers rfl calls).1

/-- A network card in slot 3 of the first bus, and no other device.  Bits of the status are cleared by
ones, the two lowest bits of the port address are fixed, and the latency register is there to be used. -/
structure LoneCard where
  command : UInt16
  status : UInt16
  latency : UInt32
  ports : UInt32
deriving DecidableEq

instance : ConfigSpace LoneCard where
  read card register :=
    if register = (0, 3, 0, 0) then 0x813910EC
    else if register = (0, 3, 0, 1) then (card.status.toUInt32 <<< 16) ||| card.command.toUInt32
    else if register = (0, 3, 0, 3) then card.latency
    else if register = (0, 3, 0, 4) then card.ports ||| 1
    else 0xFFFFFFFF
  write card register value :=
    if register = (0, 3, 0, 1) then
      { card with command := value.toUInt16, status := card.status &&& ~~~(value >>> 16).toUInt16 }
    else if register = (0, 3, 0, 3) then { card with latency := value }
    else if register = (0, 3, 0, 4) then { card with ports := value &&& ~~~3 }
    else card

theorem loneCard_storage : Storage LoneCard (· = (0, 3, 0, 3)) where
  same := by
    rintro card register value rfl
    simp [ConfigSpace.read, ConfigSpace.write]
  other := by
    rintro card register value other rfl apart
    simp [ConfigSpace.read, ConfigSpace.write, apart]

/-- The latency register is written by words, and read with the status and with a slot that is empty. -/
def latencyCalls : List (StorageCall (· = (0, 3, 0, 3))) :=
  [⟨.writeWord ⟨0, 3, 0, by decide, by decide⟩ 0x0C 0x4008, rfl⟩,
    ⟨.readLong ⟨0, 3, 0, by decide, by decide⟩ 0x04, trivial⟩,
    ⟨.writeWord ⟨0, 3, 0, by decide, by decide⟩ 0x0E 0x0080, rfl⟩,
    ⟨.readLong ⟨0, 3, 0, by decide, by decide⟩ 0x0C, trivial⟩,
    ⟨.readWord ⟨1, 0, 0, by decide, by decide⟩ 0x00, trivial⟩]

theorem pci_answers_one :
    (answers PciBus.performStorage (⟨0, ⟨0, 0x0280, 0, 0xC000⟩⟩ : PciBus LoneCard) latencyCalls).1 =
      [0, 0x02800000, 0, 0x00804008, 0xFFFF] := by
  rw [pci_answers loneCard_storage]
  decide

/-- `pci_device_t` -/
structure PciDevice where
  bus : UInt8
  slot : UInt8
  func : UInt8
  vendorId : UInt16
  deviceId : UInt16
  bar0 : UInt32

/-- The body of the two loops. -/
def PciBus.pciProbe (vendorId deviceId : UInt16) (bus slot : UInt8) (pci : PciBus σ) : Option PciDevice × PciBus σ :=
  let vendor := pci.pciReadWord bus slot 0 pciVendorId
  if vendor.1 = 0xFFFF then (none, vendor.2)
  else
    let device := vendor.2.pciReadWord bus slot 0 pciDeviceId
    if vendor.1 = vendorId ∧ device.1 = deviceId then
      let bar0 := device.2.pciReadLong bus slot 0 pciBar0
      (some { bus, slot, func := 0, vendorId := vendor.1, deviceId := device.1, bar0 := bar0.1 }, bar0.2)
    else (none, device.2)

def PciBus.pciFindDevice (vendorId deviceId : UInt16) (pci : PciBus σ) : Option PciDevice × PciBus σ :=
  scan (fun bus => scan (fun slot => pciProbe vendorId deviceId (UInt8.ofNat bus) (UInt8.ofNat slot)) 0 32) 0 256 pci

/-- The first function of the device at a place. -/
def firstFunction (bus : UInt8) (slot : Nat) (small : slot < 32) : PciFunction :=
  ⟨bus, UInt8.ofNat slot, 0, by rw [UInt8.toNat_ofNat']; omega, by decide⟩

/-- There is a device with these identifiers. -/
def Carries (words : ConfigWords) (vendorId deviceId : UInt16) (bus slot : Nat) : Prop :=
  vendorId ≠ 0xFFFF ∧ words (bus, slot, 0, 0) = vendorId.toNat ∧ words (bus, slot, 0, 1) = deviceId.toNat

instance (words : ConfigWords) (vendorId deviceId : UInt16) (bus slot : Nat) :
    Decidable (Carries words vendorId deviceId bus slot) := inferInstanceAs (Decidable (_ ∧ _))

def bar0Of (words : ConfigWords) (bus slot : Nat) : Nat := words (bus, slot, 0, 8) + 2 ^ 16 * words (bus, slot, 0, 9)

/-- What the search returns for a place. -/
def deviceAt (words : ConfigWords) (vendorId deviceId : UInt16) (bus slot : Nat) : Option PciDevice :=
  if Carries words vendorId deviceId bus slot then
    some
      { bus := UInt8.ofNat bus
        slot := UInt8.ofNat slot
        func := 0
        vendorId
        deviceId
        bar0 := UInt32.ofNat (bar0Of words bus slot) }
  else none

variable {vendorId deviceId : UInt16} {number slotNumber : Nat} {device : PciDevice} {devices : σ}

theorem firstFunction_word (busSmall : number < 256) (small : slotNumber < 32) (word : Nat) :
    (firstFunction (UInt8.ofNat number) slotNumber small).word word = (number, slotNumber, 0, word) := by
  have bus : (UInt8.ofNat number).toNat = number := by
    rw [UInt8.toNat_ofNat']
    omega
  have slot : (UInt8.ofNat slotNumber).toNat = slotNumber := by
    rw [UInt8.toNat_ofNat']
    omega
  rw [PciFunction.word, firstFunction, bus, slot]
  rfl

section

variable (busSmall : number < 256) (small : slotNumber < 32)
include busSmall small

theorem probeWord (offset : UInt8) :
    (pci.pciReadWord (UInt8.ofNat number) (UInt8.ofNat slotNumber) 0 offset).1.toNat =
      configWords pci.devices (number, slotNumber, 0, offset.toNat / 2) := by
  rw [← firstFunction_word busSmall small]
  exact pciReadWord_eq (firstFunction (UInt8.ofNat number) slotNumber small) offset

theorem probeBar0 :
    (pci.pciReadLong (UInt8.ofNat number) (UInt8.ofNat slotNumber) 0 pciBar0).1.toNat =
      bar0Of (configWords pci.devices) number slotNumber := by
  have read : (pci.pciReadLong (UInt8.ofNat number) (UInt8.ofNat slotNumber) 0 pciBar0).1.toNat = _ :=
    pciReadLong_eq (firstFunction (UInt8.ofNat number) slotNumber small) pciBar0
  rw [firstFunction_word busSmall small, firstFunction_word busSmall small] at read
  exact read

theorem pciProbe_eq (holds : pci.devices = devices) :
    (pci.pciProbe vendorId deviceId (UInt8.ofNat number) (UInt8.ofNat slotNumber)).1 =
        deviceAt (configWords devices) vendorId deviceId number slotNumber ∧
      (pci.pciProbe vendorId deviceId (UInt8.ofNat number) (UInt8.ofNat slotNumber)).2.devices = devices := by
  subst holds
  have vendorWord := @probeWord _ _ pci _ _ busSmall small pciVendorId
  have afterVendor : (pci.pciReadWord (UInt8.ofNat number) (UInt8.ofNat slotNumber) 0 pciVendorId).2.devices =
    pci.devices := rfl
  rw [PciBus.pciProbe, deviceAt]
  dsimp only
  generalize pci.pciReadWord (UInt8.ofNat number) (UInt8.ofNat slotNumber) 0 pciVendorId = vendor at *
  have deviceWord := @probeWord _ _ vendor.2 _ _ busSmall small pciDeviceId
  have afterDevice : (vendor.2.pciReadWord (UInt8.ofNat number) (UInt8.ofNat slotNumber) 0 pciDeviceId).2.devices =
    vendor.2.devices := rfl
  generalize vendor.2.pciReadWord (UInt8.ofNat number) (UInt8.ofNat slotNumber) 0 pciDeviceId = device at *
  have bar0 := @probeBar0 _ _ device.2 _ _ busSmall small
  have afterBar0 : (device.2.pciReadLong (UInt8.ofNat number) (UInt8.ofNat slotNumber) 0 pciBar0).2.devices =
    device.2.devices := rfl
  generalize device.2.pciReadLong (UInt8.ofNat number) (UInt8.ofNat slotNumber) 0 pciBar0 = address at *
  rw [afterDevice, afterVendor] at bar0
  rw [afterVendor] at deviceWord
  by_cases absent : vendor.1 = 0xFFFF
  · have none : ¬ Carries (configWords pci.devices) vendorId deviceId number slotNumber := by
      rintro ⟨proper, same, _⟩
      exact proper ((UInt16.toNat_inj.mp (same.symm.trans vendorWord.symm)).trans absent)
    rw [if_pos absent, if_neg none]
    exact ⟨rfl, afterVendor⟩
  · rw [if_neg absent]
    by_cases same : vendor.1 = vendorId ∧ device.1 = deviceId
    · obtain ⟨rfl, rfl⟩ := same
      have carries : Carries (configWords pci.devices) vendor.1 device.1 number slotNumber :=
        ⟨absent, vendorWord.symm, deviceWord.symm⟩
      rw [if_pos ⟨rfl, rfl⟩, if_pos carries, ← bar0, UInt32.ofNat_toNat]
      exact ⟨rfl, afterBar0.trans (afterDevice.trans afterVendor)⟩
    · have none : ¬ Carries (configWords pci.devices) vendorId deviceId number slotNumber := by
        rintro ⟨_, vendorSame, deviceSame⟩
        exact same ⟨UInt16.toNat_inj.mp (vendorWord.trans vendorSame), UInt16.toNat_inj.mp (deviceWord.trans deviceSame)⟩
      rw [if_neg same, if_neg none]
      exact ⟨rfl, afterDevice.trans afterVendor⟩

end

/-- The place comes first among those that have such a device, by bus and then by slot. -/
structure FirstDevice (words : ConfigWords) (vendorId deviceId : UInt16) (bus slot : Nat) : Prop where
  busSmall : bus < 256
  slotSmall : slot < 32
  carries : Carries words vendorId deviceId bus slot
  sameBus : ∀ earlier < slot, ¬ Carries words vendorId deviceId bus earlier
  earlierBus : ∀ earlier < bus, ∀ place < 32, ¬ Carries words vendorId deviceId earlier place

theorem deviceAt_none : deviceAt words vendorId deviceId number slotNumber = none ↔
    ¬ Carries words vendorId deviceId number slotNumber := by
  rw [deviceAt]
  split <;> simp_all

theorem deviceAt_carries (found : deviceAt words vendorId deviceId number slotNumber = some device) :
    Carries words vendorId deviceId number slotNumber := by
  by_contra none
  rw [deviceAt_none.mpr none] at found
  cases found

/-- What is found on a bus. -/
def busAnswer (words : ConfigWords) (vendorId deviceId : UInt16) (bus : Nat) : Option PciDevice :=
  (List.range' 0 32).findSome? (deviceAt words vendorId deviceId bus)

theorem slots_answer (busSmall : number < 256) : Answers 32 (fun (pci : PciBus σ) => pci.devices = devices)
    (fun slot => PciBus.pciProbe vendorId deviceId (UInt8.ofNat number) (UInt8.ofNat slot))
    (deviceAt (configWords devices) vendorId deviceId number) where
  answer := fun _ inside _ holds => (pciProbe_eq busSmall inside holds).1
  kept := fun _ inside _ holds => (pciProbe_eq busSmall inside holds).2

theorem buses_answer : Answers 256 (fun (pci : PciBus σ) => pci.devices = devices)
    (fun bus => scan (fun slot => PciBus.pciProbe vendorId deviceId (UInt8.ofNat bus) (UInt8.ofNat slot)) 0 32)
    (busAnswer (configWords devices) vendorId deviceId) where
  answer := fun _ inside _ holds => (slots_answer inside).scan_eq (by decide) holds
  kept := fun _ inside _ holds => (slots_answer inside).scan_kept (by decide) holds

theorem busAnswer_none : busAnswer words vendorId deviceId number = none ↔
    ∀ place < 32, ¬ Carries words vendorId deviceId number place := by
  rw [busAnswer, List.findSome?_eq_none_iff]
  constructor
  · intro none place inside
    exact deviceAt_none.mp (none place (List.mem_range'_1.mpr ⟨Nat.zero_le _, by omega⟩))
  · intro none place member
    have inside := (List.mem_range'_1.mp member).2
    exact deviceAt_none.mpr (none place (by omega))

theorem busAnswer_some : busAnswer words vendorId deviceId number = some device ↔
    ∃ slot < 32, deviceAt words vendorId deviceId number slot = some device ∧
      ∀ earlier < slot, ¬ Carries words vendorId deviceId number earlier := by
  rw [busAnswer, findSome?_range'_eq_some]
  constructor
  · rintro ⟨slot, _, inside, found, first⟩
    exact ⟨slot, by omega, found, fun earlier before => deviceAt_none.mp (first earlier (Nat.zero_le _) before)⟩
  · rintro ⟨slot, inside, found, first⟩
    exact ⟨slot, Nat.zero_le _, by omega, found, fun earlier _ before => deviceAt_none.mpr (first earlier before)⟩

theorem pciFindDevice_devices : (pci.pciFindDevice vendorId deviceId).2.devices = pci.devices :=
  buses_answer.scan_kept (by decide) rfl

/-- What is found is the first device of the kind. -/
theorem pciFindDevice_some : (pci.pciFindDevice vendorId deviceId).1 = some device ↔
    ∃ bus slot, FirstDevice (configWords pci.devices) vendorId deviceId bus slot ∧
      deviceAt (configWords pci.devices) vendorId deviceId bus slot = some device := by
  rw [PciBus.pciFindDevice, buses_answer.scan_eq (by decide) rfl, findSome?_range'_eq_some]
  constructor
  · rintro ⟨bus, _, inside, found, first⟩
    obtain ⟨slot, slotInside, here, sameBus⟩ := busAnswer_some.mp found
    exact ⟨bus, slot, ⟨by omega, slotInside, deviceAt_carries here, sameBus,
      fun earlier before => busAnswer_none.mp (first earlier (Nat.zero_le _) before)⟩, here⟩
  · rintro ⟨bus, slot, first, here⟩
    have inside := first.busSmall
    exact ⟨bus, Nat.zero_le _, by omega, busAnswer_some.mpr ⟨slot, first.slotSmall, here, first.sameBus⟩,
      fun earlier _ before => busAnswer_none.mpr (first.earlierBus earlier before)⟩

theorem pciFindDevice_none : (pci.pciFindDevice vendorId deviceId).1 = none ↔
    ∀ bus < 256, ∀ slot < 32, ¬ Carries (configWords pci.devices) vendorId deviceId bus slot := by
  rw [PciBus.pciFindDevice, buses_answer.scan_eq (by decide) rfl, List.findSome?_eq_none_iff]
  constructor
  · intro none bus inside
    exact busAnswer_none.mp (none bus (List.mem_range'_1.mpr ⟨Nat.zero_le _, by omega⟩))
  · intro none bus member
    have inside := (List.mem_range'_1.mp member).2
    exact busAnswer_none.mpr (none bus (by omega))

end AutismOS.Devices
