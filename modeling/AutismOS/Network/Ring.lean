import AutismOS.Library.Slots
import AutismOS.Network.Polling

namespace AutismOS.Network

open AutismOS.Library

variable {host before after : Host} {frame : List UInt8} {unread rest : List (List UInt8)} {frames : List (List UInt8)}
variable {depth : Nat}

/-! The receive ring as a queue of frames. -/

/-- What the card writes for a frame. -/
def slotBytes (frame : List UInt8) : List UInt8 := bytes16 1 ++ bytes16 (frame.length + 4) ++ frame

/-- The ring holds just the frames that were not read yet. -/
structure Ring (host : Host) (unread : List (List UInt8)) : Prop where
  card : host.ioBase ≠ 0
  buffer : host.rxBuffer ≠ 0
  fits : host.rxBuffer + 2 * rxBufSize ≤ 2 ^ 32
  inside : host.receiver.rxOffset < rxBufSize
  aligned : host.receiver.rxOffset % 4 = 0
  capr : host.receiver.capr = Host.caprOf host.receiver.rxOffset
  cbr : host.receiver.cbr = (host.receiver.rxOffset + Slots.total Host.slotSize unread) % rxBufSize
  room : Slots.total Host.slotSize unread < rxBufSize
  lined : Slots.Lined slotBytes Host.slotSize host.memory host.rxBuffer rxBufSize host.receiver.rxOffset unread
  proper : ∀ frame ∈ unread, frame ≠ []

/-- No frame that arrives is without bytes. -/
def Proper (host : Host) : Prop := ∀ frames ∈ host.receiver.schedule, ∀ frame ∈ frames, frame ≠ []

theorem slotSize_bounds : frame.length + 8 ≤ Host.slotSize frame ∧ Host.slotSize frame ≤ frame.length + 11 ∧
    Host.slotSize frame % 4 = 0 := by
  rw [Host.slotSize]
  omega

theorem length_slotBytes : (slotBytes frame).length = frame.length + 4 := by
  simp only [slotBytes, List.length_append, length_bytes16]
  omega

theorem slotBytes_short (frame : List UInt8) : (slotBytes frame).length ≤ Host.slotSize frame := by
  have bounds : frame.length + 8 ≤ Host.slotSize frame ∧ Host.slotSize frame ≤ frame.length + 11 ∧
    Host.slotSize frame % 4 = 0 := slotSize_bounds
  rw [length_slotBytes]
  omega

theorem Ring.readOffset (ring : Ring host unread) : host.readOffset = host.receiver.rxOffset := by
  have inside := ring.inside
  rw [Host.readOffset, ring.capr, Host.caprOf, rxBufSize] at *
  omega

theorem Ring.empty_iff (ring : Ring host unread) : host.bufferEmpty = true ↔ unread = [] := by
  have inside := ring.inside
  have room := ring.room
  rw [Host.bufferEmpty, decide_eq_true_iff, ring.readOffset, ring.cbr]
  cases unread with
  | nil =>
      rw [Slots.total_nil, Nat.add_zero, Nat.mod_eq_of_lt inside]
      exact iff_of_true rfl rfl
  | cons frame rest =>
      refine iff_of_false ?_ nofun
      have bounds : frame.length + 8 ≤ Host.slotSize frame ∧ Host.slotSize frame ≤ frame.length + 11 ∧
        Host.slotSize frame % 4 = 0 := slotSize_bounds
      rw [Slots.total_cons, rxBufSize] at *
      omega

/-- The card writes a frame behind the others, or drops it. -/
theorem Ring.cardWrite (ring : Ring host unread) (proper : frame ≠ []) :
    ∃ more, Ring (host.cardWrite frame) (unread ++ more) ∧
      (host.cardWrite frame).receiver.written = host.receiver.written ++ more := by
  have used : (host.receiver.cbr + rxBufSize - host.readOffset) % rxBufSize = Slots.total Host.slotSize unread := by
    have inside := ring.inside
    have room := ring.room
    rw [ring.readOffset, ring.cbr, rxBufSize] at *
    omega
  rw [Host.cardWrite, used]
  by_cases fits : Slots.total Host.slotSize unread + Host.slotSize frame < rxBufSize
  · rw [if_pos fits]
    have below := ring.fits
    have inside := ring.inside
    have total : Slots.total Host.slotSize (unread ++ [frame]) =
        Slots.total Host.slotSize unread + Host.slotSize frame := by
      rw [Slots.total_append, Slots.total_cons, Slots.total_nil, Nat.add_zero]
    have short : (slotBytes frame).length ≤ Host.slotSize frame := slotBytes_short frame
    have place : host.receiver.cbr = (host.receiver.rxOffset + Slots.total Host.slotSize unread) % rxBufSize := ring.cbr
    have written : slotBytes frame = bytes16 1 ++ bytes16 (frame.length + 4) ++ frame := rfl
    rw [← written]
    refine ⟨[frame], ⟨ring.card, ring.buffer, ring.fits, ring.inside, ring.aligned, ring.capr, ?_, ?_, ?_, ?_⟩, rfl⟩
    · rw [total, ← Nat.add_assoc]
      dsimp only
      rw [place, Nat.mod_add_mod]
    · rw [total]
      exact fits
    · refine Slots.lined_append.mpr ⟨?_, ?_, trivial⟩
      · have others : ∀ address, ByteMemory.Apart
            (host.rxBuffer + (host.receiver.rxOffset + Slots.total Host.slotSize unread) % rxBufSize)
            (slotBytes frame).length address →
            (host.memory.storeBytes (host.rxBuffer + host.receiver.cbr) (slotBytes frame)).loadByte address =
              host.memory.loadByte address := by
          intro address apart
          rw [place]
          exact ByteMemory.loadByte_storeBytes_other apart
        exact ring.lined.keep slotBytes_short ring.fits ring.inside (Nat.le_refl _) (by omega) (Nat.le_add_right _ _)
          (by omega) (Or.inl (Nat.le_refl _)) others
      · dsimp only
        rw [place]
        refine ByteMemory.storeBytes_holds ?_
        rw [rxBufSize] at fits
        omega
    · intro other member
      rcases List.mem_append.mp member with old | new
      · exact ring.proper other old
      · rw [List.mem_singleton.mp new]
        exact proper
  · rw [if_neg fits]
    refine ⟨[], ?_, (List.append_nil _).symm⟩
    rw [List.append_nil]
    exact ring

theorem Ring.foldl_cardWrite (ring : Ring host unread) (proper : ∀ frame ∈ frames, frame ≠ []) :
    ∃ more, Ring (frames.foldl Host.cardWrite host) (unread ++ more) ∧
      (frames.foldl Host.cardWrite host).receiver.written = host.receiver.written ++ more := by
  induction frames generalizing host unread with
  | nil =>
      refine ⟨[], ?_, (List.append_nil _).symm⟩
      rw [List.append_nil]
      exact ring
  | cons frame rest ih =>
      obtain ⟨first, ringed, wrote⟩ := ring.cardWrite (proper frame List.mem_cons_self)
      obtain ⟨second, ringed, wrote'⟩ := ih ringed fun other member => proper other (List.mem_cons_of_mem _ member)
      refine ⟨first ++ second, ?_, ?_⟩
      · rw [← List.append_assoc]
        exact ringed
      · rw [← List.append_assoc, ← wrote]
        exact wrote'

theorem foldl_cardWrite_schedule : (frames.foldl Host.cardWrite host).receiver.schedule = host.receiver.schedule := by
  induction frames generalizing host with
  | nil => rfl
  | cons frame rest ih =>
      refine Eq.trans ih ?_
      rw [Host.cardWrite]
      split
      · rfl
      · rfl

theorem Ring.arrive (ring : Ring host unread) (proper : Proper host) :
    Proper host.arrive ∧ ∃ more, Ring host.arrive (unread ++ more) ∧
      host.arrive.receiver.written = host.receiver.written ++ more := by
  rw [Proper] at proper
  rw [Host.arrive]
  cases upcoming : host.receiver.schedule with
  | nil =>
      refine ⟨?_, [], ?_, (List.append_nil _).symm⟩
      · rw [Proper, upcoming]
        exact fun _ member => absurd member List.not_mem_nil
      · rw [List.append_nil]
        exact ring
  | cons frames schedule =>
      rw [upcoming] at proper
      have ringed : Ring { host with receiver := { host.receiver with schedule } } unread :=
        ⟨ring.card, ring.buffer, ring.fits, ring.inside, ring.aligned, ring.capr, ring.cbr, ring.room, ring.lined, ring.proper⟩
      refine ⟨?_, ringed.foldl_cardWrite (proper frames List.mem_cons_self)⟩
      rw [Proper, foldl_cardWrite_schedule]
      exact fun other member => proper other (List.mem_cons_of_mem _ member)

theorem Ring.header (ring : Ring host (frame :: rest)) :
    host.rxStatus = 1 ∧ host.rxLen = frame.length + 4 ∧ host.memory.Holds host.pkt frame := by
  have holds := ring.lined.1
  have room := ring.room
  have bounds : frame.length + 8 ≤ Host.slotSize frame ∧ Host.slotSize frame ≤ frame.length + 11 ∧
    Host.slotSize frame % 4 = 0 := slotSize_bounds
  rw [Slots.total_cons, rxBufSize] at room
  rw [Nat.mod_eq_of_lt ring.inside, slotBytes, List.append_assoc, ByteMemory.holds_append, ByteMemory.holds_append] at holds
  obtain ⟨status, length, bytes⟩ := holds
  refine ⟨status.load16 (by omega), length.load16 (by omega), ?_⟩
  exact bytes

/-- Only bytes from an address on are changed in the memory, and nothing of the receive ring. -/
structure Contained (start count : Nat) (before after : Host) : Prop where
  ioBase : after.ioBase = before.ioBase
  rxBuffer : after.rxBuffer = before.rxBuffer
  receiver : after.receiver = before.receiver
  memory : ∀ address, ByteMemory.Apart start count address →
    after.memory.loadByte address = before.memory.loadByte address

/-- When bytes behind the header are changed, the frame is another one of the same length. -/
theorem Ring.rewritten (ring : Ring before (frame :: rest))
    (contained : Contained before.pkt (frame.length + 4) before after) :
    Ring after (after.memory.loadBytes before.pkt frame.length :: rest) := by
  have same : Host.slotSize (after.memory.loadBytes before.pkt frame.length) = Host.slotSize frame := by
    rw [Host.slotSize, ByteMemory.length_loadBytes, Host.slotSize]
  have total : Slots.total Host.slotSize (after.memory.loadBytes before.pkt frame.length :: rest) =
      Slots.total Host.slotSize (frame :: rest) := by
    rw [Slots.total_cons, same, Slots.total_cons]
  have bounds : frame.length + 8 ≤ Host.slotSize frame ∧ Host.slotSize frame ≤ frame.length + 11 ∧
    Host.slotSize frame % 4 = 0 := slotSize_bounds
  have below := ring.fits
  have inside := ring.inside
  have room := ring.room
  rw [Slots.total_cons] at room
  refine ⟨?_, ?_, ?_, ?_, ?_, ?_, ?_, ?_, ⟨?_, ?_⟩, ?_⟩
  · rw [contained.ioBase]
    exact ring.card
  · rw [contained.rxBuffer]
    exact ring.buffer
  · rw [contained.rxBuffer]
    exact ring.fits
  · rw [contained.receiver]
    exact ring.inside
  · rw [contained.receiver]
    exact ring.aligned
  · rw [contained.receiver]
    exact ring.capr
  · rw [contained.receiver, total]
    exact ring.cbr
  · rw [total]
    exact ring.room
  · have holds := ring.lined.1
    rw [slotBytes, ByteMemory.holds_append, Nat.mod_eq_of_lt inside] at holds
    rw [contained.rxBuffer, contained.receiver, Nat.mod_eq_of_lt inside, slotBytes, ByteMemory.holds_append,
      ByteMemory.length_loadBytes]
    refine ⟨Eq.trans (ByteMemory.loadBytes_congr fun offset within => contained.memory _ fun place isPlace => ?_) holds.1, ?_⟩
    · simp only [List.length_append, length_bytes16] at within
      rw [Host.pkt]
      rw [rxBufSize] at *
      omega
    · rw [ByteMemory.Holds, ByteMemory.length_loadBytes]
      rfl
  · rw [contained.rxBuffer, contained.receiver, same]
    have others : ∀ address, ByteMemory.Apart (before.rxBuffer + before.receiver.rxOffset % rxBufSize) (frame.length + 8)
        address → after.memory.loadByte address = before.memory.loadByte address := by
      intro address apart
      rw [Nat.mod_eq_of_lt inside] at apart
      refine contained.memory address fun place isPlace => ?_
      have further := apart (place + 4) (by omega)
      rw [Host.pkt]
      omega
    exact ring.lined.2.keep slotBytes_short ring.fits ring.inside (by omega) (by omega) (Nat.le_refl _) (by omega)
      (Or.inr (by omega)) others
  · intro other member
    rcases List.mem_cons.mp member with rfl | old
    · intro empty
      have length : (after.memory.loadBytes before.pkt frame.length).length = frame.length := ByteMemory.length_loadBytes
      rw [empty] at length
      exact ring.proper frame List.mem_cons_self (List.length_eq_zero_iff.mp length.symm)
    · exact ring.proper other (List.mem_cons_of_mem _ old)

/-- Behind the frame stand the others. -/
theorem Ring.advance (ring : Ring host (frame :: rest)) :
    Ring (host.advance (frame.length + 4)) rest ∧
      (host.advance (frame.length + 4)).receiver.rxOffset = (host.receiver.rxOffset + Host.slotSize frame) % rxBufSize := by
  have bounds : frame.length + 8 ≤ Host.slotSize frame ∧ Host.slotSize frame ≤ frame.length + 11 ∧
    Host.slotSize frame % 4 = 0 := slotSize_bounds
  have inside := ring.inside
  have aligned := ring.aligned
  have room := ring.room
  have place : (host.receiver.rxOffset + (frame.length + 4) + 4 + 3) / 4 * 4 % 2 ^ 16 % rxBufSize =
      (host.receiver.rxOffset + Host.slotSize frame) % rxBufSize := by
    rw [Slots.total_cons] at room
    rw [Host.slotSize] at *
    rw [rxBufSize] at *
    omega
  have positive : 0 < rxBufSize := by
    rw [rxBufSize]
    omega
  rw [Host.advance, place]
  refine ⟨⟨ring.card, ring.buffer, ring.fits, Nat.mod_lt _ positive, ?_, rfl, ?_, ?_, ?_, ?_⟩, rfl⟩
  · change (host.receiver.rxOffset + Host.slotSize frame) % rxBufSize % 4 = 0
    rw [rxBufSize]
    omega
  · have next := ring.cbr
    rw [Slots.total_cons, ← Nat.add_assoc] at next
    rw [Host.setRxOffset, Nat.mod_add_mod]
    exact next
  · rw [Slots.total_cons] at room
    omega
  · exact ring.lined.2.shift (Nat.mod_mod _ _).symm
  · exact fun other member => ring.proper other (List.mem_cons_of_mem _ member)

end AutismOS.Network
