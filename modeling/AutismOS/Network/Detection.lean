import AutismOS.Devices.Pci
import AutismOS.Network.Stack

namespace AutismOS.Network

open AutismOS.Library
open AutismOS.Devices

/-! The search for the card. -/

def rtl8139VendorId : UInt16 := 0x10EC
def rtl8139DeviceId : UInt16 := 0x8139

/-- A card: how often its reset is seen to go on, what else the driver finds out about it, and what it receives. -/
structure Card where
  resetReads : Nat
  rxBuffer : Nat
  txBuffers : Fin 4 → Nat
  macAddress : Mac
  schedule : List (List (List UInt8))

/-- What is left of the timeout when the reset is over, or 0. -/
def awaitReset : Nat → Nat → Nat
  | 0, _ => 0
  | timeout + 1, 0 => timeout + 1
  | timeout + 1, resetReads + 1 => awaitReset timeout resetReads

variable {σ : Type u} [ConfigSpace σ]

/-- `rtl8139_init`, from the search for the card on. -/
def Host.rtl8139InitCard (card : Card) (pci : PciBus σ) (host : Host) : Host × PciBus σ :=
  match pci.pciFindDevice rtl8139VendorId rtl8139DeviceId with
  | (none, pci) => (host, pci)
  | (some dev, pci) =>
      let ioBase := dev.bar0 &&& ~~~3
      let setup (ioBase : Nat) : Host.CardSetup :=
        { ioBase, rxBuffer := card.rxBuffer, txBuffers := card.txBuffers, macAddress := card.macAddress
          schedule := card.schedule }
      if ioBase = 0 then (host.rtl8139Init (setup 0), pci)
      else
        let cmd := pci.pciReadWord dev.bus dev.slot dev.func pciCommand
        let pci := cmd.2.pciWriteWord dev.bus dev.slot dev.func pciCommand (cmd.1 ||| (pciCmdIo ||| pciCmdBusMaster))
        if awaitReset 100000 card.resetReads = 0 then (host.rtl8139Init (setup 0), pci)
        else (host.rtl8139Init (setup ioBase.toNat), pci)

/-- The first card is given I/O ports. -/
structure Usable (words : ConfigWords) (bus slot : Nat) : Prop where
  first : FirstDevice words rtl8139VendorId rtl8139DeviceId bus slot
  ports : bar0Of words bus slot / 4 ≠ 0

variable {host : Host} {card : Card} {pci : PciBus σ} {words : ConfigWords} {bus slot : Nat}

theorem awaitReset_eq (timeout resetReads : Nat) : awaitReset timeout resetReads = timeout - resetReads := by
  induction timeout generalizing resetReads with
  | zero => simp [awaitReset]
  | succ timeout ih =>
      cases resetReads with
      | zero => rfl
      | succ resetReads => rw [awaitReset, ih, Nat.add_sub_add_right]

/-- There is one first device at most. -/
theorem FirstDevice.unique {vendorId deviceId : UInt16} {otherBus otherSlot : Nat}
    (first : FirstDevice words vendorId deviceId bus slot) (other : FirstDevice words vendorId deviceId otherBus otherSlot) :
    otherBus = bus ∧ otherSlot = slot := by
  rcases Nat.lt_trichotomy otherBus bus with earlier | rfl | later
  · exact absurd other.carries (first.earlierBus otherBus earlier otherSlot other.slotSmall)
  · rcases Nat.lt_trichotomy otherSlot slot with earlier | rfl | later
    · exact absurd other.carries (first.sameBus otherSlot earlier)
    · exact ⟨rfl, rfl⟩
    · exact absurd first.carries (other.sameBus slot later)
  · exact absurd first.carries (other.earlierBus bus later slot first.slotSmall)

theorem ioBase_eq (bar0 : UInt32) : (bar0 &&& ~~~3).toNat = 4 * (bar0.toNat / 4) := by
  have mask : UInt32.toNat (~~~3) = 2 ^ 2 * (2 ^ 30 - 1) := by decide
  rw [UInt32.toNat_and, mask]
  exact and_higher 2 30 bar0.toNat_lt

theorem bar0Of_lt {devices : σ} : bar0Of (configWords devices) bus slot < 2 ^ 32 := by
  have small (place : ConfigRegister) : configWords devices place < 2 ^ 16 := Nat.mod_lt _ (by decide)
  have low := small (bus, slot, 0, 8)
  have high := small (bus, slot, 0, 9)
  unfold bar0Of
  omega

/-- What is written back is the register with the two bits set. -/
theorem withWord_command (data : UInt32) (command : UInt16) (isCommand : command.toNat = wordOf data 2) :
    withWord data pciCommand (command ||| (pciCmdIo ||| pciCmdBusMaster)) = data ||| 5 := by
  have low : wordOf data 2 = data.toNat % 2 ^ 16 := wordOf_eq data 2
  have bits : (pciCmdIo ||| pciCmdBusMaster : UInt16).toNat = 5 := rfl
  have small : data.toNat % 2 ^ 16 ||| 5 < 2 ^ 16 := Nat.or_lt_two_pow (Nat.mod_lt _ (by decide)) (by decide)
  have halves : 2 ^ 16 * (data.toNat / 2 ^ 16) ||| data.toNat % 2 ^ 16 = data.toNat := by
    rw [or_eq_add 16 (by omega) (by omega)]
    omega
  have whole : data.toNat ||| 5 = 2 ^ 16 * (data.toNat / 2 ^ 16) + (data.toNat % 2 ^ 16 ||| 5) :=
    calc data.toNat ||| 5 = (2 ^ 16 * (data.toNat / 2 ^ 16) ||| data.toNat % 2 ^ 16) ||| 5 := by rw [halves]
      _ = 2 ^ 16 * (data.toNat / 2 ^ 16) ||| (data.toNat % 2 ^ 16 ||| 5) := Nat.or_assoc ..
      _ = 2 ^ 16 * (data.toNat / 2 ^ 16) + (data.toNat % 2 ^ 16 ||| 5) := or_eq_add 16 (by omega) small
  rw [← UInt32.toNat_inj, withWord_toNat, if_pos (by decide), UInt16.toNat_or, isCommand, low, bits, UInt32.toNat_or]
  exact whole.symm

theorem writeCommand (pci : PciBus σ) (busSmall : bus < 256) (small : slot < 32) :
    ((pci.pciReadWord (UInt8.ofNat bus) (UInt8.ofNat slot) 0 pciCommand).2.pciWriteWord (UInt8.ofNat bus)
      (UInt8.ofNat slot) 0 pciCommand
        ((pci.pciReadWord (UInt8.ofNat bus) (UInt8.ofNat slot) 0 pciCommand).1 ||| (pciCmdIo ||| pciCmdBusMaster))).devices =
      ConfigSpace.write pci.devices (bus, slot, 0, 1) (ConfigSpace.read pci.devices (bus, slot, 0, 1) ||| 5) := by
  have command : (pci.pciReadWord (UInt8.ofNat bus) (UInt8.ofNat slot) 0 pciCommand).1.toNat =
      wordOf (ConfigSpace.read pci.devices (bus, slot, 0, 1)) 2 := probeWord busSmall small pciCommand
  have kept : (pci.pciReadWord (UInt8.ofNat bus) (UInt8.ofNat slot) 0 pciCommand).2.devices = pci.devices := rfl
  generalize pci.pciReadWord (UInt8.ofNat bus) (UInt8.ofNat slot) 0 pciCommand = read at command kept ⊢
  have written := @pciWriteWord_devices _ _ read.2 (firstFunction (UInt8.ofNat bus) slot small) pciCommand
    (read.1 ||| (pciCmdIo ||| pciCmdBusMaster))
  rw [firstFunction_word busSmall small, kept] at written
  exact written.trans (congrArg _ (withWord_command _ _ command))

theorem rtl8139Init_ioBase (setup : Host.CardSetup) : (host.rtl8139Init setup).ioBase = setup.ioBase := by
  rw [Host.rtl8139Init]
  split
  · rename_i off
    exact off.symm
  · rfl

/-- The address that is used is 0 only where the register gives no ports. -/
theorem ioBase_zero {devices : σ} :
    UInt32.ofNat (bar0Of (configWords devices) bus slot) &&& ~~~3 = 0 ↔ bar0Of (configWords devices) bus slot / 4 = 0 := by
  have small : bar0Of (configWords devices) bus slot < 2 ^ 32 := bar0Of_lt
  rw [← UInt32.toNat_inj, ioBase_eq, UInt32.toNat_ofNat', Nat.mod_eq_of_lt small, UInt32.toNat_zero]
  omega

/-- Nothing is written where there is no usable card. -/
theorem rtl8139InitCard_unusable (off : host.ioBase = 0) (none : ∀ bus slot, ¬ Usable (configWords pci.devices) bus slot) :
    (host.rtl8139InitCard card pci).1.ioBase = 0 ∧ (host.rtl8139InitCard card pci).2.devices = pci.devices := by
  have kept : (pci.pciFindDevice rtl8139VendorId rtl8139DeviceId).2.devices = pci.devices := pciFindDevice_devices
  rw [Host.rtl8139InitCard]
  cases found : pci.pciFindDevice rtl8139VendorId rtl8139DeviceId with
  | mk device after =>
      rw [found] at kept
      cases device with
      | none => exact ⟨off, kept⟩
      | some dev =>
          have some : (pci.pciFindDevice rtl8139VendorId rtl8139DeviceId).1 = some dev := by rw [found]
          obtain ⟨bus, slot, first, here⟩ := pciFindDevice_some.mp some
          rw [deviceAt, if_pos first.carries] at here
          cases here
          have zero : bar0Of (configWords pci.devices) bus slot / 4 = 0 := by
            by_contra ports
            exact none bus slot ⟨first, ports⟩
          dsimp only
          rw [if_pos (ioBase_zero.mpr zero)]
          exact ⟨rtl8139Init_ioBase _, kept⟩

/-- The register with the command of the card is written once, and the reset decides. -/
theorem rtl8139InitCard_usable (usable : Usable (configWords pci.devices) bus slot) :
    ((host.rtl8139InitCard card pci).1.ioBase ≠ 0 ↔ card.resetReads < 100000) ∧
      (host.rtl8139InitCard card pci).2.devices =
        ConfigSpace.write pci.devices (bus, slot, 0, 1) (ConfigSpace.read pci.devices (bus, slot, 0, 1) ||| 5) := by
  have kept : (pci.pciFindDevice rtl8139VendorId rtl8139DeviceId).2.devices = pci.devices := pciFindDevice_devices
  obtain ⟨first, ports⟩ := usable
  have here : deviceAt (configWords pci.devices) rtl8139VendorId rtl8139DeviceId bus slot = some _ := if_pos first.carries
  have found := pciFindDevice_some.mpr ⟨bus, slot, first, here⟩
  have nonzero : ¬ UInt32.ofNat (bar0Of (configWords pci.devices) bus slot) &&& ~~~3 = 0 := ioBase_zero.not.mpr ports
  rw [Host.rtl8139InitCard]
  generalize pci.pciFindDevice rtl8139VendorId rtl8139DeviceId = search at kept found
  obtain ⟨device, after⟩ := search
  cases found
  have written := writeCommand after first.busSmall first.slotSmall
  dsimp only at kept
  rw [kept] at written
  dsimp only
  rw [if_neg nonzero, awaitReset_eq]
  by_cases timely : card.resetReads < 100000
  · have left : ¬ 100000 - card.resetReads = 0 := by omega
    rw [if_neg left]
    refine ⟨iff_of_true ?_ timely, written⟩
    rw [rtl8139Init_ioBase]
    exact fun zero => nonzero (UInt32.toNat_inj.mp zero)
  · have left : 100000 - card.resetReads = 0 := by omega
    rw [if_pos left]
    refine ⟨iff_of_false ?_ timely, written⟩
    rw [rtl8139Init_ioBase]
    exact not_not.mpr rfl

/-- The driver sends from then on exactly where there is a card whose ports are given and whose reset ends in time.  The
register with the command and the status of such a card is written once, as it was read and with two bits set, and no
other register is written. -/
theorem rtl8139InitCard_iff (off : host.ioBase = 0) :
    (∀ data, ((host.rtl8139InitCard card pci).1.rtl8139SendPacket data).1 = 0 ↔
      data.length ≤ txBufSize ∧ card.resetReads < 100000 ∧ ∃ bus slot, Usable (configWords pci.devices) bus slot) ∧
    ((∀ bus slot, ¬ Usable (configWords pci.devices) bus slot) →
      (host.rtl8139InitCard card pci).2.devices = pci.devices) ∧
    ∀ bus slot, Usable (configWords pci.devices) bus slot → (host.rtl8139InitCard card pci).2.devices =
      ConfigSpace.write pci.devices (bus, slot, 0, 1) (ConfigSpace.read pci.devices (bus, slot, 0, 1) ||| 5) := by
  refine ⟨fun data => ?_, fun none => (rtl8139InitCard_unusable off none).2, fun bus slot usable =>
    (rtl8139InitCard_usable usable).2⟩
  have sends : ((host.rtl8139InitCard card pci).1.rtl8139SendPacket data).1 = 0 ↔
      data.length ≤ txBufSize ∧ (host.rtl8139InitCard card pci).1.ioBase ≠ 0 := by
    rw [Host.rtl8139SendPacket]
    split
    · refine iff_of_false (fun zero => absurd zero (by decide : ¬ (-1 : Int) = 0)) ?_
      omega
    · refine iff_of_true rfl ?_
      omega
  rw [sends]
  refine and_congr_right fun _ => ?_
  by_cases some : ∃ bus slot, Usable (configWords pci.devices) bus slot
  · obtain ⟨bus, slot, usable⟩ := some
    rw [(rtl8139InitCard_usable usable).1]
    exact (and_iff_left ⟨bus, slot, usable⟩).symm
  · have none : ∀ bus slot, ¬ Usable (configWords pci.devices) bus slot := fun bus slot usable => some ⟨bus, slot, usable⟩
    rw [(rtl8139InitCard_unusable off none).1]
    exact iff_of_false (fun nonzero => nonzero rfl) fun both => some both.2

/-- A card at the ports from 0xC000 on, with a status bit that ones clear. -/
def cardBus : PciBus LoneCard := ⟨0, ⟨0, 0x8280, 0, 0xC000⟩⟩

def quickCard : Card := ⟨7, 0x110000, idleHost.txBuffers, .zero, []⟩

theorem cardBus_usable : Usable (configWords cardBus.devices) 0 3 := by
  refine ⟨⟨by decide, by decide, ⟨by decide, by decide, by decide⟩, ?_, nofun⟩, by decide⟩
  decide

theorem rtl8139InitCard_iff_one :
    ((Host.rtl8139InitCard quickCard cardBus { idleHost with ioBase := 0 }).1.rtl8139SendPacket [1, 2]).1 = 0 ∧
    (Host.rtl8139InitCard quickCard cardBus { idleHost with ioBase := 0 }).2.devices = ⟨5, 0, 0, 0xC000⟩ := by
  obtain ⟨sends, _, written⟩ := @rtl8139InitCard_iff _ _ { idleHost with ioBase := 0 } quickCard cardBus rfl
  refine ⟨(sends [1, 2]).mpr ⟨by decide, by decide, 0, 3, cardBus_usable⟩, ?_⟩
  rw [written 0 3 cardBus_usable]
  rfl

end AutismOS.Network
