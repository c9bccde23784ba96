import AutismOS.Library.Handover
import AutismOS.Library.Run
import AutismOS.Network.Core

namespace AutismOS.Network

open AutismOS.Library

/-! # The transmit buffers of the card

The driver copies a packet into the next of its four buffers and writes the address and the length to the registers of
that number.  The card goes round the four pairs of registers: it takes a frame from the memory when it comes to it,
and waits at a pair that was not written since.
-/

def txBuffers : Nat := 4

/-- The transmit side of `rtl8139.c` and of the card, with what was sent and what went over the wire. -/
structure Nic where
  memory : ByteMemory
  ioBase : Nat
  /-- `tx_buffers` -/
  buffers : Nat → Nat
  currentTx : Nat
  /-- `TXADDR0` and those behind it -/
  txAddr : Nat → Nat
  /-- `TXSTATUS0` and those behind it: the length of a frame that was not taken yet -/
  txStatus : Nat → Option Nat
  nextTx : Nat
  sent : List (List UInt8)
  wire : List (List UInt8)

namespace Nic

variable (nic : Nic)

def rtl8139SendPacket (data : List UInt8) : Int × Nic :=
  if nic.ioBase = 0 ∨ txBufSize < data.length then (-1, nic)
  else
    (0, { nic with
      memory := nic.memory.storeBytes (nic.buffers nic.currentTx) data
      txAddr := Function.update nic.txAddr nic.currentTx (nic.buffers nic.currentTx)
      txStatus := Function.update nic.txStatus nic.currentTx (some data.length)
      currentTx := (nic.currentTx + 1) % 4
      sent := nic.sent ++ [data] })

/-- The card takes the frame that it has come to. -/
def fetch : Option Nic :=
  (nic.txStatus nic.nextTx).map fun length =>
    { nic with
      txStatus := Function.update nic.txStatus nic.nextTx none
      nextTx := (nic.nextTx + 1) % txBuffers
      wire := nic.wire ++ [nic.memory.loadBytes (nic.txAddr nic.nextTx) length] }

/-- What the card would read of a buffer. -/
def frameAt (index : Nat) : Option (List UInt8) :=
  if index < txBuffers then (nic.txStatus index).map fun length => nic.memory.loadBytes (nic.txAddr index) length
  else none

/-- The buffers as a ring through which frames are handed over. -/
def ring : Handover (List UInt8) where
  cells := nic.frameAt
  putAt := nic.currentTx
  takeAt := nic.nextTx
  given := nic.sent
  taken := nic.wire

end Nic

/-- A packet is sent, the card takes a frame, or something else in the system changes the memory. -/
inductive NicEvent where
  | send (data : List UInt8)
  | fetch
  | elsewhere (memory : ByteMemory)

def Nic.step (nic : Nic) : NicEvent → Option Nic
  | .send data => some (nic.rtl8139SendPacket data).2
  | .fetch => nic.fetch
  | .elsewhere memory => some { nic with memory }

/-- The buffers belong to the driver. -/
def Nic.Owned (nic : Nic) : NicEvent → Prop
  | .elsewhere memory => ∀ index < txBuffers, ∀ offset < txBufSize,
      memory.loadByte (nic.buffers index + offset) = nic.memory.loadByte (nic.buffers index + offset)
  | _ => True

/-- The card has taken a frame from one of the buffers at least when a packet is put into one. -/
def Nic.Paced (nic : Nic) : NicEvent → Prop
  | .send data => nic.ioBase ≠ 0 → data.length ≤ txBufSize → ∃ index < txBuffers, nic.txStatus index = none
  | _ => True

/-- The frames on the wire and then those in the buffers are the packets that were sent, each once and in order. -/
def Nic.InOrder (nic : Nic) : Prop := nic.wire ++ nic.ring.waiting txBuffers = nic.sent

/-- Four buffers that do not overlap, and every frame that waits in its own. -/
structure Nic.Sound (nic : Nic) : Prop where
  fits : ∀ index < txBuffers, nic.buffers index + txBufSize ≤ 2 ^ 32
  apart : ∀ index < txBuffers, ∀ other < txBuffers, index ≠ other →
    nic.buffers index + txBufSize ≤ nic.buffers other ∨ nic.buffers other + txBufSize ≤ nic.buffers index
  frames : ∀ index < txBuffers, ∀ length, nic.txStatus index = some length →
    nic.txAddr index = nic.buffers index ∧ length ≤ txBufSize

/-- What is on its way when the card was initialised: nothing. -/
structure Nic.Ready (nic : Nic) : Prop extends nic.Sound where
  empty : ∀ index < txBuffers, nic.txStatus index = none
  inside : nic.nextTx < txBuffers
  together : nic.currentTx = nic.nextTx
  sent : nic.sent = nic.wire

variable {nic next : Nic} {event : NicEvent} {events : List NicEvent} {items : List (List UInt8)} {data : List UInt8}

@[simp] theorem Nic.ring_cells : nic.ring.cells = nic.frameAt := rfl

@[simp] theorem Nic.ring_putAt : nic.ring.putAt = nic.currentTx := rfl

@[simp] theorem Nic.ring_takeAt : nic.ring.takeAt = nic.nextTx := rfl

theorem Nic.frameAt_inside {index : Nat} (inside : index < txBuffers) : nic.frameAt index =
    (nic.txStatus index).map fun length => nic.memory.loadBytes (nic.txAddr index) length := if_pos inside

theorem Nic.frameAt_outside {index : Nat} (outside : ¬ index < txBuffers) : nic.frameAt index = none := if_neg outside

theorem Nic.Sound.send (sound : nic.Sound) (data : List UInt8) : (nic.rtl8139SendPacket data).2.Sound := by
  rw [Nic.rtl8139SendPacket]
  split
  · exact sound
  · rename_i accepted
    refine ⟨sound.fits, sound.apart, fun index inside length waits => ?_⟩
    by_cases same : index = nic.currentTx
    · subst same
      simp only [Function.update_self, Option.some.injEq] at waits
      exact ⟨Function.update_self .., by omega⟩
    · simp only [Function.update_of_ne same] at waits ⊢
      exact sound.frames index inside length waits

theorem Nic.Sound.fetch (sound : nic.Sound) (done : nic.fetch = some next) : next.Sound := by
  obtain ⟨length, waits, rfl⟩ := Option.map_eq_some_iff.mp done
  refine ⟨sound.fits, sound.apart, fun index inside length waits => ?_⟩
  by_cases same : index = nic.nextTx
  · simp [same] at waits
  · simp only [Function.update_of_ne same] at waits
    exact sound.frames index inside length waits

theorem Nic.Sound.step (sound : nic.Sound) (done : nic.step event = some next) : next.Sound := by
  cases event with
  | send data =>
      cases done
      exact sound.send data
  | fetch => exact sound.fetch done
  | elsewhere memory =>
      cases done
      exact ⟨sound.fits, sound.apart, sound.frames⟩

theorem Nic.Sound.send_ring (sound : nic.Sound) (inside : nic.currentTx < txBuffers) (card : nic.ioBase ≠ 0)
    (short : data.length ≤ txBufSize) : (nic.rtl8139SendPacket data).2.ring = nic.ring.give txBuffers data := by
  have accepted : ¬ (nic.ioBase = 0 ∨ txBufSize < data.length) := by omega
  have small : txBufSize ≤ 2 ^ 32 := by decide
  rw [Nic.rtl8139SendPacket, if_neg accepted]
  refine congrArg (fun cells => Handover.mk cells _ _ _ _) (funext fun index => ?_)
  rw [Nic.ring_cells, Nic.ring_putAt]
  by_cases same : index = nic.currentTx
  · subst same
    have stored : (nic.memory.storeBytes (nic.buffers nic.currentTx) data).Holds _ data :=
      ByteMemory.storeBytes_holds (by omega)
    rw [Nic.frameAt_inside inside, Function.update_self]
    dsimp only
    rw [Function.update_self, Function.update_self, Option.map_some, stored]
  · rw [Function.update_of_ne same]
    by_cases listed : index < txBuffers
    · rw [Nic.frameAt_inside listed, Nic.frameAt_inside listed]
      dsimp only
      rw [Function.update_of_ne same, Function.update_of_ne same]
      cases waits : nic.txStatus index with
      | none => rfl
      | some length =>
          obtain ⟨address, bounded⟩ := sound.frames index listed length waits
          have apart := sound.apart index listed nic.currentTx inside same
          have fits := sound.fits index listed
          have ownFits := sound.fits nic.currentTx inside
          refine congrArg some (ByteMemory.loadBytes_congr fun offset below => ?_)
          rw [address]
          refine ByteMemory.loadByte_storeBytes_other fun place within => ?_
          omega
    · rw [Nic.frameAt_outside listed, Nic.frameAt_outside listed]

theorem Nic.fetch_ring (inside : nic.nextTx < txBuffers) (done : nic.fetch = some next) :
    nic.ring.take txBuffers = some next.ring := by
  obtain ⟨length, waits, rfl⟩ := Option.map_eq_some_iff.mp done
  have front : nic.ring.cells nic.ring.takeAt = some (nic.memory.loadBytes (nic.txAddr nic.nextTx) length) := by
    rw [Nic.ring_cells, Nic.ring_takeAt, Nic.frameAt_inside inside, waits, Option.map_some]
  rw [Handover.take, front, Option.map_some]
  refine congrArg (fun cells => some (Handover.mk cells _ _ _ _)) (funext fun index => ?_)
  rw [Nic.ring_cells, Nic.ring_takeAt]
  by_cases same : index = nic.nextTx
  · subst same
    simp [Nic.frameAt]
  · rw [Function.update_of_ne same, Nic.frameAt, Nic.frameAt]
    dsimp only
    rw [Function.update_of_ne same]

theorem Nic.Sound.elsewhere_ring {memory : ByteMemory} (sound : nic.Sound) (owned : nic.Owned (.elsewhere memory)) :
    Nic.ring { nic with memory } = nic.ring := by
  refine congrArg (fun cells => Handover.mk cells _ _ _ _) (funext fun index => ?_)
  by_cases listed : index < txBuffers
  · rw [Nic.frameAt_inside listed, Nic.frameAt_inside listed]
    dsimp only
    cases waits : nic.txStatus index with
    | none => rfl
    | some length =>
        obtain ⟨address, bounded⟩ := sound.frames index listed length waits
        refine congrArg some (ByteMemory.loadBytes_congr fun offset below => ?_)
        rw [address]
        exact owned index listed offset (by omega)
  · rw [Nic.frameAt_outside listed, Nic.frameAt_outside listed]

/-- What the steps rest on. -/
def Nic.Level (nic : Nic) : Prop := nic.Sound ∧ ∃ items, Handover.Level txBuffers nic.ring items

theorem Nic.Ready.level (ready : nic.Ready) : nic.Level := by
  refine ⟨ready.toSound, [], Handover.level_nil ready.inside ready.together (fun index listed => ?_) ready.sent⟩
  rw [Nic.ring_cells, Nic.frameAt_inside listed, ready.empty index listed, Option.map_none]

theorem Nic.full_iff : Handover.Full txBuffers nic.ring ↔ ¬ ∃ index < txBuffers, nic.txStatus index = none := by
  constructor
  · rintro full ⟨index, listed, free⟩
    refine full index listed ?_
    rw [Nic.ring_cells, Nic.frameAt_inside listed, free, Option.map_none]
  · intro none index listed free
    rw [Nic.ring_cells, Nic.frameAt_inside listed, Option.map_eq_none_iff] at free
    exact none ⟨index, listed, free⟩

/-- A packet that is refused leaves everything. -/
theorem Nic.send_refused (refused : nic.ioBase = 0 ∨ txBufSize < data.length) :
    (nic.rtl8139SendPacket data).2 = nic := by
  rw [Nic.rtl8139SendPacket, if_pos refused]

theorem currentTx_lt (ring : Handover.Level txBuffers nic.ring items) : nic.currentTx < txBuffers := by
  have place := ring.putAt
  rw [Nic.ring_putAt] at place
  rw [place]
  exact Nat.mod_lt _ (by decide)

/-- A step keeps the order just where it is paced. -/
theorem Nic.Level.step_iff (level : nic.Level) (owned : nic.Owned event) (done : nic.step event = some next) :
    next.InOrder ↔ nic.Paced event := by
  obtain ⟨sound, items, ring⟩ := level
  cases event with
  | send data =>
      cases done
      by_cases refused : nic.ioBase = 0 ∨ txBufSize < data.length
      · rw [Nic.send_refused refused]
        refine iff_of_true ring.whole fun card short => ?_
        omega
      · have sent : (nic.rtl8139SendPacket data).2.ring = nic.ring.give txBuffers data :=
          sound.send_ring (currentTx_lt ring) (by omega) (by omega)
        have whole : Handover.Whole txBuffers (nic.ring.give txBuffers data) ↔ _ := ring.give_iff
        rw [← sent, Nic.full_iff, not_not] at whole
        exact whole.trans ⟨fun free _ _ => free, fun paced => paced (by omega) (by omega)⟩
  | fetch =>
      have taken := Nic.fetch_ring ring.takeAt done
      obtain ⟨_, _, _, _, later⟩ := ring.take taken
      exact iff_of_true later.whole trivial
  | elsewhere memory =>
      cases done
      have same := sound.elsewhere_ring owned
      refine iff_of_true ?_ trivial
      have whole : Handover.Whole txBuffers (Nic.ring { nic with memory }) := by
        rw [same]
        exact ring.whole
      exact whole

theorem Nic.Level.step (level : nic.Level) (owned : nic.Owned event) (done : nic.step event = some next)
    (paced : nic.Paced event) : next.Level := by
  obtain ⟨sound, items, ring⟩ := level
  refine ⟨sound.step done, ?_⟩
  cases event with
  | send data =>
      cases done
      by_cases refused : nic.ioBase = 0 ∨ txBufSize < data.length
      · rw [Nic.send_refused refused]
        exact ⟨items, ring⟩
      · rw [sound.send_ring (currentTx_lt ring) (by omega) (by omega)]
        refine ⟨items ++ [data], ring.give ?_⟩
        rw [Nic.full_iff, not_not]
        exact paced (by omega) (by omega)
  | fetch =>
      obtain ⟨_, rest, _, _, later⟩ := ring.take (Nic.fetch_ring ring.takeAt done)
      exact ⟨rest, later⟩
  | elsewhere memory =>
      cases done
      rw [sound.elsewhere_ring owned]
      exact ⟨items, ring⟩

/-- In every run of the driver, of the card and of the rest of the system the packets go over the wire each once and
in order, if and only if no packet is sent while frames wait in all four buffers. -/
theorem run_transmits_iff {after : Nic} (ready : nic.Ready) (run : Restricted Nic.step Nic.Owned nic events after) :
    Observed Nic.step (fun _ _ later => later.InOrder) nic events after ↔
      Restricted Nic.step Nic.Paced nic events after :=
  Run.observed_iff run Nic.Level (fun _ _ _ level owned done => level.step_iff owned done)
    (fun _ _ _ level owned done paced => level.step owned done paced) ready.level

/-- The transmit side after `rtl8139_init`. -/
def idleNic : Nic where
  memory := fun _ => 0
  ioBase := 0xC000
  buffers := fun index => 0x200000 + 0x1000 * index
  currentTx := 0
  txAddr := fun _ => 0
  txStatus := fun _ => none
  nextTx := 0
  sent := []
  wire := []

theorem idleNic_ready : idleNic.Ready where
  fits := fun index listed => by
    simp only [idleNic, txBuffers, txBufSize] at *
    omega
  apart := fun index _ other _ different => by
    simp only [idleNic, txBufSize]
    omega
  frames := nofun
  empty := fun _ _ => rfl
  inside := by decide
  together := rfl
  sent := rfl

/-- Packets go out while the card takes others, and a byte below the buffers is changed in between. -/
def busyEvents : List NicEvent :=
  [.send [1, 2], .send [3], .fetch,
    .elsewhere (((idleNic.memory.storeBytes 0x200000 [1, 2]).storeBytes 0x201000 [3]).storeByte 0x100000 9),
    .send [4, 5, 6], .fetch, .send [7], .fetch]

theorem run_transmits_iff_one :
    ∃ after, Observed Nic.step (fun _ _ later => later.InOrder) idleNic busyEvents after ∧
      after.wire = [[1, 2], [3], [4, 5, 6]] ∧ after.sent = [[1, 2], [3], [4, 5, 6], [7]] := by
  obtain ⟨after, run, paced, wire, sent⟩ : ∃ after,
      Restricted Nic.step Nic.Owned idleNic busyEvents after ∧ Restricted Nic.step Nic.Paced idleNic busyEvents after ∧
        after.wire = [[1, 2], [3], [4, 5, 6]] ∧ after.sent = [[1, 2], [3], [4, 5, 6], [7]] := by
    refine ⟨_, .cons ⟨trivial, rfl⟩ (.cons ⟨trivial, rfl⟩ (.cons ⟨trivial, rfl⟩ (.cons ⟨?_, rfl⟩ (.cons ⟨trivial, rfl⟩
      (.cons ⟨trivial, rfl⟩ (.cons ⟨trivial, rfl⟩ (.cons ⟨trivial, rfl⟩ (.nil _)))))))),
      .cons ⟨fun _ _ => ⟨0, by decide, rfl⟩, rfl⟩ (.cons ⟨fun _ _ => ⟨1, by decide, rfl⟩, rfl⟩ (.cons ⟨trivial, rfl⟩
        (.cons ⟨trivial, rfl⟩ (.cons ⟨fun _ _ => ⟨2, by decide, rfl⟩, rfl⟩ (.cons ⟨trivial, rfl⟩
          (.cons ⟨fun _ _ => ⟨3, by decide, rfl⟩, rfl⟩ (.cons ⟨trivial, rfl⟩ (.nil _)))))))), ?_, rfl⟩
    · intro index listed offset inside
      have apart : (0x200000 + 0x1000 * index + offset) % 2 ^ 32 ≠ 0x100000 % 2 ^ 32 := by
        simp only [txBuffers, txBufSize] at listed inside
        omega
      exact ByteMemory.loadByte_storeByte_other apart
    · decide +kernel
  exact ⟨after, (run_transmits_iff idleNic_ready run).mpr paced, wire, sent⟩

/-- A host and the transmit side of its card. -/
structure HasTransmitted (host : Host) (nic : Nic) : Prop where
  ioBase : host.ioBase = nic.ioBase
  buffers : ∀ index, host.txBuffers index = nic.buffers index
  currentTx : host.currentTx = nic.currentTx
  sent : host.transmitted = nic.sent

theorem HasTransmitted.send {host : Host} (transmits : HasTransmitted host nic) (data : List UInt8) :
    (host.rtl8139SendPacket data).1 = (nic.rtl8139SendPacket data).1 ∧
      HasTransmitted (host.rtl8139SendPacket data).2 (nic.rtl8139SendPacket data).2 := by
  obtain ⟨ioBase, buffers, currentTx, sent⟩ := transmits
  rw [Host.rtl8139SendPacket, Nic.rtl8139SendPacket, ioBase]
  by_cases refused : nic.ioBase = 0 ∨ txBufSize < data.length
  · rw [if_pos refused, if_pos refused]
    exact ⟨rfl, ioBase, buffers, currentTx, sent⟩
  · rw [if_neg refused, if_neg refused]
    refine ⟨rfl, ioBase, buffers, ?_, ?_⟩
    · dsimp only
      rw [Fin.val_add, currentTx]
      rfl
    · dsimp only
      rw [sent]

end AutismOS.Network
