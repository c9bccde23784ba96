import AutismOS.Library.Run
import AutismOS.Network.Polling

namespace AutismOS.Network

open AutismOS.Library

variable {host before middle after : Host} {poll : Host → Option Host} {depth rxLen : Nat}

/-! # What is accessed of the receive ring

The headers are read from memory that the card writes to, and so nothing is known about them here.  The callback may
poll again before it returns.
-/

/-- The size of `rx_buffer_raw`. -/
def rxBufferRawSize : Nat := rxBufSize + 16

/-- Where the next header lies, and the lengths of the frames whose callback has not returned, the last one first. -/
structure RingState where
  rxOffset : Nat
  pending : List Nat
deriving DecidableEq

inductive RingEvent where
  | poll (rxStatus rxLen : UInt16)
  | returned

/-- The bounds that the length of a frame is checked against. -/
def Accepts (rxLen : UInt16) : Prop := ¬ (rxLen.toNat < 4 ∨ rxBufSize < rxLen.toNat)

/-- The frame is passed to the callback. -/
def Passes (rxStatus rxLen : UInt16) : Prop := rxStatus.toNat % 2 = 1 ∧ 4 < rxLen.toNat

instance (rxLen : UInt16) : Decidable (Accepts rxLen) := inferInstanceAs (Decidable (¬ _))

instance (rxStatus rxLen : UInt16) : Decidable (Passes rxStatus rxLen) := inferInstanceAs (Decidable (_ ∧ _))

namespace RingState

variable (ring : RingState)

/-- `rx_offset` after a frame. -/
def advance (rxLen : Nat) : Nat := (ring.rxOffset + rxLen + 4 + 3) / 4 * 4 % 2 ^ 16 % rxBufSize

/-- `rtl8139_poll_receive` up to the callback, or without one to the end; and what follows when a callback returns. -/
def step : RingEvent → Option RingState
  | .poll rxStatus rxLen =>
      if Accepts rxLen then
        if Passes rxStatus rxLen then some { ring with pending := rxLen.toNat :: ring.pending }
        else some { ring with rxOffset := ring.advance rxLen.toNat }
      else some { ring with rxOffset := 0 }
  | .returned =>
      match ring.pending with
      | [] => none
      | rxLen :: pending => some { rxOffset := ring.advance rxLen, pending }

end RingState

/-- The length that the callback is given. -/
def RingEvent.passed : RingEvent → Option Nat
  | .poll rxStatus rxLen => if Accepts rxLen ∧ Passes rxStatus rxLen then some (rxLen.toNat - 4) else none
  | .returned => none

/-- `count` bytes from an offset on are in `rx_buffer_raw`. -/
def InRaw (offset count : Nat) : Prop := offset + count ≤ rxBufferRawSize

instance (offset count : Nat) : Decidable (InRaw offset count) := inferInstanceAs (Decidable (_ ≤ _))

/-- The lengths that a step adds to `rx_offset`. -/
def RingEvent.adds (pending : List Nat) : RingEvent → List Nat
  | .poll _ rxLen => if Accepts rxLen then [rxLen.toNat] else []
  | .returned => pending.take 1

/-- The header is within the buffer, and the offset stays where one can lie. -/
structure WellPlaced (before : RingState) (event : RingEvent) (after : RingState) : Prop where
  aligned : after.rxOffset % 4 = 0
  below : after.rxOffset < rxBufSize
  header : InRaw before.rxOffset 4
  noWrap : ∀ rxLen ∈ event.adds before.pending, before.rxOffset + rxLen + 4 + 3 < 2 ^ 16

/-- What is passed on is within the buffer, too. -/
structure InBounds (before : RingState) (event : RingEvent) (after : RingState) : Prop extends
    WellPlaced before event after where
  slice : ∀ count, event.passed = some count → InRaw (before.rxOffset + 4) count

/-- A frame that is passed on ends within the buffer. -/
def FrameFits (ring : RingState) : RingEvent → Prop
  | .poll rxStatus rxLen =>
      Accepts rxLen → Passes rxStatus rxLen → ring.rxOffset + rxLen.toNat ≤ rxBufferRawSize
  | .returned => True

/-- What the steps rest on. -/
structure RingState.Sound (ring : RingState) : Prop where
  aligned : ring.rxOffset % 4 = 0
  below : ring.rxOffset < rxBufSize
  pending : ∀ rxLen ∈ ring.pending, rxLen ≤ rxBufSize

variable {ring next : RingState} {event : RingEvent} {rxStatus : UInt16}

theorem advance_aligned : ring.advance rxLen % 4 = 0 := by
  rw [RingState.advance, rxBufSize]
  omega

theorem advance_below : ring.advance rxLen < rxBufSize := Nat.mod_lt _ (by decide)

theorem RingState.Sound.step (sound : ring.Sound) (done : ring.step event = some next) : next.Sound := by
  cases event with
  | poll rxStatus rxLen =>
      rw [RingState.step] at done
      by_cases accepts : Accepts rxLen
      · rw [if_pos accepts] at done
        split at done
        · cases done
          refine ⟨sound.aligned, sound.below, fun length member => ?_⟩
          rcases List.mem_cons.mp member with rfl | older
          · exact Nat.not_lt.mp fun large => accepts (Or.inr large)
          · exact sound.pending length older
        · cases done
          exact ⟨advance_aligned, advance_below, sound.pending⟩
      · rw [if_neg accepts] at done
        cases done
        exact ⟨rfl, Nat.two_pow_pos 13, sound.pending⟩
  | returned =>
      obtain ⟨rxOffset, pending⟩ := ring
      cases pending with
      | nil => cases done
      | cons rxLen rest =>
          cases done
          exact ⟨advance_aligned, advance_below, fun length member => sound.pending length (List.mem_cons_of_mem _ member)⟩

/-- No length that passes the check makes the offset wrap. -/
theorem RingState.Sound.adds_le (sound : ring.Sound) (member : rxLen ∈ event.adds ring.pending) : rxLen ≤ rxBufSize := by
  cases event with
  | poll rxStatus length =>
      rw [RingEvent.adds] at member
      split at member
      · next accepts =>
          rw [List.mem_singleton.mp member]
          exact Nat.not_lt.mp fun large => accepts (Or.inr large)
      · cases member
  | returned => exact sound.pending rxLen (List.mem_of_mem_take member)

theorem slice_iff : (∀ count, event.passed = some count → InRaw (ring.rxOffset + 4) count) ↔ FrameFits ring event := by
  cases event with
  | returned => exact iff_of_true nofun trivial
  | poll rxStatus rxLen =>
      rw [RingEvent.passed, FrameFits]
      by_cases passes : Accepts rxLen ∧ Passes rxStatus rxLen
      · have long := passes.2.2
        rw [if_pos passes, imp_iff_right passes.1, imp_iff_right passes.2]
        constructor
        · intro inside
          have bound := inside _ rfl
          rw [InRaw] at bound
          omega
        · intro fits count same
          cases same
          rw [InRaw]
          omega
      · rw [if_neg passes]
        exact iff_of_true nofun fun accepts passed => absurd ⟨accepts, passed⟩ passes

theorem RingState.Sound.wellPlaced (sound : ring.Sound) (done : ring.step event = some next) :
    WellPlaced ring event next := by
  have after := sound.step done
  have below := sound.below
  refine ⟨after.aligned, after.below, ?_, fun rxLen member => ?_⟩
  · rw [InRaw, rxBufferRawSize]
    omega
  · have small := sound.adds_le member
    rw [rxBufSize] at below small
    omega

/-- A step is within the buffer exactly when its frame ends there. -/
theorem RingState.Sound.inBounds_iff (sound : ring.Sound) (done : ring.step event = some next) :
    InBounds ring event next ↔ FrameFits ring event := by
  constructor
  · intro inBounds
    exact slice_iff.mp inBounds.slice
  · intro fits
    exact ⟨sound.wellPlaced done, slice_iff.mpr fits⟩

theorem initial_sound : RingState.Sound ⟨0, []⟩ := ⟨rfl, by decide, nofun⟩

/-- From the start of the ring on, whatever headers are read, the offset stays in place, and all accesses are within
the buffer exactly when every frame that is passed on ends there. -/
theorem run_inBounds_iff {events : List RingEvent}
    (run : Restricted RingState.step (fun _ _ => True) ⟨0, []⟩ events ring) :
    Observed RingState.step WellPlaced ⟨0, []⟩ events ring ∧
      (Observed RingState.step InBounds ⟨0, []⟩ events ring ↔
        Restricted RingState.step FrameFits ⟨0, []⟩ events ring) := by
  constructor
  · refine run.observed RingState.Sound (fun before event after sound _ done => ?_) initial_sound
    exact ⟨sound.wellPlaced done, sound.step done⟩
  · refine run.observed_iff RingState.Sound ?_ ?_ initial_sound
    · intro before event after sound _ done
      exact sound.inBounds_iff done
    · intro before event after sound _ done _
      exact sound.step done

/-- The reads between two states of the drivers: the ring goes through their headers, and what was passed on has
the lengths that they say. -/
def Follows (before after : Host) : Prop :=
  ∃ events frames, (∀ pending, Run (Stepping RingState.step) ⟨before.receiver.rxOffset, pending⟩ events
      ⟨after.receiver.rxOffset, pending⟩) ∧
    after.receiver.delivered = before.receiver.delivered ++ frames ∧
      frames.map List.length = events.filterMap RingEvent.passed

theorem follows_of_eq (receiver : after.receiver = before.receiver) : Follows before after := by
  refine ⟨[], [], fun pending => ?_, ?_, rfl⟩
  · rw [receiver]
    exact .nil _
  · rw [receiver, List.append_nil]

theorem Follows.trans (first : Follows before middle) (second : Follows middle after) : Follows before after := by
  obtain ⟨front, early, begins, passed, lengths⟩ := first
  obtain ⟨back, late, ends, later, more⟩ := second
  refine ⟨front ++ back, early ++ late, fun pending => (begins pending).append (ends pending), ?_, ?_⟩
  · rw [later, passed, List.append_assoc]
  · rw [List.map_append, List.filterMap_append, lengths, more]

theorem Arrived.follows (arrived : Arrived before after) : Follows before after := by
  refine ⟨[], [], fun pending => ?_, ?_, rfl⟩
  · rw [arrived]
    exact .nil _
  · rw [arrived, List.append_nil]

def FollowsAll (poll : Host → Option Host) : Prop := ∀ before after, poll before = some after → Follows before after

theorem FollowsAll.absorbs (follows : FollowsAll poll) : Absorbs poll Follows := by
  refine ⟨Follows.trans, fun polls => follows _ _ polls, fun transmits => follows_of_eq ?_⟩
  rw [transmits]

theorem load16_lt {memory : ByteMemory} {address : Nat} : memory.load16 address < 2 ^ 16 := by
  have low := (memory.loadByte address).toNat_lt
  have high := (memory.loadByte (address + 1)).toNat_lt
  rw [ByteMemory.load16]
  omega

/-- The header that is read next, as an event. -/
def Host.headerEvent (host : Host) : RingEvent := .poll (UInt16.ofNat host.rxStatus) (UInt16.ofNat host.rxLen)

theorem pollWith_follows (follows : FollowsAll poll)
    (done : host.pollWith (fun frame frameLen host => host.receive poll frame frameLen) = some after) :
    Follows host after := by
  have arrived : Follows host host.arrive := arrive_arrived.follows
  apply arrived.trans
  have status : (UInt16.ofNat host.arrive.rxStatus).toNat = host.arrive.rxStatus := UInt16.toNat_ofNat_of_lt load16_lt
  have length : (UInt16.ofNat host.arrive.rxLen).toNat = host.arrive.rxLen := UInt16.toNat_ofNat_of_lt load16_lt
  rw [pollWith_eq] at done
  by_cases absent : host.arrive.ioBase = 0 ∨ host.arrive.rxBuffer = 0
  · rw [if_pos absent] at done
    cases done
    exact follows_of_eq rfl
  rw [if_neg absent] at done
  by_cases empty : host.arrive.bufferEmpty = true
  · rw [if_pos empty] at done
    cases done
    exact follows_of_eq rfl
  rw [if_neg empty] at done
  have accepts : Accepts (UInt16.ofNat host.arrive.rxLen) ↔ ¬ (host.arrive.rxLen < 4 ∨ rxBufSize < host.arrive.rxLen) := by
    rw [Accepts, length]
  have passes : Passes (UInt16.ofNat host.arrive.rxStatus) (UInt16.ofNat host.arrive.rxLen) ↔
      host.arrive.rxStatus % 2 = 1 ∧ 4 < host.arrive.rxLen := by
    rw [Passes, status, length]
  by_cases corrupt : host.arrive.rxLen < 4 ∨ rxBufSize < host.arrive.rxLen
  · have refused : ¬ Accepts (UInt16.ofNat host.arrive.rxLen) := fun held => accepts.mp held corrupt
    rw [if_pos corrupt] at done
    cases done
    refine ⟨[host.arrive.headerEvent], [], fun pending => .single ?_, (List.append_nil _).symm, ?_⟩
    · rw [Stepping, Host.headerEvent, RingState.step, if_neg refused]
      rfl
    · rw [List.filterMap_cons, Host.headerEvent, RingEvent.passed, if_neg fun held => refused held.1]
      rfl
  have accepted := accepts.mpr corrupt
  rw [if_neg corrupt] at done
  by_cases usable : host.arrive.rxStatus % 2 = 1 ∧ 4 < host.arrive.rxLen
  · rw [if_pos usable] at done
    obtain ⟨handled, handles, rfl⟩ := Option.map_eq_some_iff.mp done
    obtain ⟨events, frames, run, delivered, lengths⟩ : Follows host.arrive.called handled :=
      follows.absorbs.received (fun _ _ receiver _ _ => follows_of_eq receiver) handles
    refine ⟨host.arrive.headerEvent :: (events ++ [.returned]),
      host.arrive.memory.loadBytes host.arrive.pkt (host.arrive.rxLen - 4) :: frames, fun pending => ?_, ?_, ?_⟩
    · have first : RingState.step ⟨host.arrive.receiver.rxOffset, pending⟩ host.arrive.headerEvent =
          some ⟨host.arrive.receiver.rxOffset, host.arrive.rxLen :: pending⟩ := by
        rw [Host.headerEvent, RingState.step, if_pos accepted, if_pos (passes.mpr usable), length]
      exact .cons first ((run (host.arrive.rxLen :: pending)).append (.single rfl))
    · have kept : ((host.arrive.resumed handled).advance host.arrive.rxLen).receiver.delivered =
          handled.receiver.delivered := rfl
      rw [kept, delivered, Host.called, List.append_assoc]
      rfl
    · rw [List.map_cons, ByteMemory.length_loadBytes, List.filterMap_cons, Host.headerEvent, RingEvent.passed,
        if_pos ⟨accepted, passes.mpr usable⟩, length, List.filterMap_append, lengths]
      exact congrArg _ (List.append_nil _).symm
  · rw [if_neg usable] at done
    cases done
    refine ⟨[host.arrive.headerEvent], [], fun pending => .single ?_, (List.append_nil _).symm, ?_⟩
    · rw [Stepping, Host.headerEvent, RingState.step, if_pos accepted, if_neg (fun held => usable (passes.mp held)), length]
      rfl
    · rw [List.filterMap_cons, Host.headerEvent, RingEvent.passed, if_neg fun held => usable (passes.mp held.2)]
      rfl

/-- Every poll, with those that the callback makes, goes through the ring like this. -/
theorem pollReceive_follows : FollowsAll (Host.pollReceive depth) := by
  induction depth with
  | zero => exact nofun
  | succ depth ih =>
      intro host after done
      exact pollWith_follows ih done

/-- So the offset is always one at which a header can lie. -/
theorem pollReceive_sound (sound : RingState.Sound ⟨before.receiver.rxOffset, []⟩)
    (done : Host.pollReceive depth before = some after) : RingState.Sound ⟨after.receiver.rxOffset, []⟩ := by
  obtain ⟨events, frames, run, _, _⟩ := pollReceive_follows _ _ done
  exact (run []).invariant RingState.Sound (fun _ _ _ held performed => held.step performed) sound

/-- A full frame is passed on, and its callback returns. -/
def fullFrame : List RingEvent := [.poll 1 1518, .returned]

/-- Two full frames, with a short one that is read while the second one is handled. -/
theorem run_inBounds_nested : Observed RingState.step WellPlaced ⟨0, []⟩
      (fullFrame ++ [.poll 1 1518, .poll 1 64, .returned, .returned]) ⟨3116, []⟩ ∧
    (Observed RingState.step InBounds ⟨0, []⟩ (fullFrame ++ [.poll 1 1518, .poll 1 64, .returned, .returned]) ⟨3116, []⟩ ↔
      Restricted RingState.step FrameFits ⟨0, []⟩ (fullFrame ++ [.poll 1 1518, .poll 1 64, .returned, .returned])
        ⟨3116, []⟩) := by
  have performs : performAll RingState.step (fun _ _ => true) ⟨0, []⟩
      (fullFrame ++ [.poll 1 1518, .poll 1 64, .returned, .returned]) = some ⟨3116, []⟩ := by decide +kernel
  exact run_inBounds_iff ((performAll_restricted performs).mono fun _ _ _ performed => ⟨trivial, performed.2⟩)

/-- The sixth of full frames in a row starts at 7620 and ends behind the buffer. -/
theorem run_leaves_buffer : ∃ ring,
    Run (Stepping RingState.step) ⟨0, []⟩ ((List.replicate 5 fullFrame).flatten ++ [.poll 1 1518]) ring ∧
      ¬ Observed RingState.step InBounds ⟨0, []⟩ ((List.replicate 5 fullFrame).flatten ++ [.poll 1 1518]) ring := by
  have performs : performAll RingState.step (fun _ _ => true) ⟨0, []⟩
      ((List.replicate 5 fullFrame).flatten ++ [.poll 1 1518]) = some ⟨7620, [1518]⟩ := by decide +kernel
  refine ⟨_, (performAll_restricted performs).mono fun _ _ _ performed => performed.2, fun observed => ?_⟩
  obtain ⟨middle, reached, _, inBounds⟩ := observed.last_observed
  have start : performAll RingState.step (fun _ _ => true) ⟨0, []⟩ (List.replicate 5 fullFrame).flatten =
      some ⟨7620, []⟩ := by decide +kernel
  cases start.symm.trans reached
  exact absurd (inBounds.slice 1514 rfl) (by decide)

end AutismOS.Network
