import AutismOS.Library.Run
import AutismOS.Network.Answers

namespace AutismOS.Network

open AutismOS.Library

variable {host before after : Host} {poll : Host → Option Host} {depth : Nat} {unread rest : List (List UInt8)}

/-! Delivery of the frames that arrive. -/

namespace Host

variable (host : Host)

/-- What the system does between two polls is the other host's, but for the receive side. -/
def besides (other : Host) : Host :=
  { other with memory := host.memory, ioBase := host.ioBase, rxBuffer := host.rxBuffer, receiver := host.receiver }

end Host

/-- The driver is polled, or the system does anything else. -/
inductive Turn where
  | poll (depth : Nat)
  | other (host : Host)

def Host.turn (host : Host) : Turn → Option Host
  | .poll depth => Host.pollReceive depth host
  | .other other => some (host.besides other)

/-- Where the driver is polled, the frame that is read needs no wait for its answer. -/
def Prompt (host : Host) : Turn → Prop
  | .poll _ => host.arrive.prompt = true
  | .other _ => True

instance (host : Host) : (turn : Turn) → Decidable (Prompt host turn)
  | .poll _ => inferInstanceAs (Decidable (host.arrive.prompt = true))
  | .other _ => .isTrue trivial

/-- A poll passes the next of the frames that the card has written to the callback, and moves on
behind it. -/
def InOrder (before : Host) (turn : Turn) (after : Host) : Prop :=
  match turn with
  | .poll _ =>
      after.receiver.delivered = before.receiver.delivered ++
          (before.arrive.receiver.written.drop before.receiver.delivered.length).take 1 ∧
        after.receiver.delivered <+: after.receiver.written ∧
          after.receiver.rxOffset = Slots.total Host.slotSize after.receiver.delivered % rxBufSize
  | .other _ => after.receiver = before.receiver

/-- The frames in the ring are those that were written and not delivered. -/
structure Queued (host : Host) (unread : List (List UInt8)) : Prop where
  ring : Ring host unread
  proper : Proper host
  order : host.receiver.written = host.receiver.delivered ++ unread
  position : host.receiver.rxOffset = Slots.total Host.slotSize host.receiver.delivered % rxBufSize

theorem Queued.arrive (queued : Queued host unread) : ∃ more, Queued host.arrive (unread ++ more) := by
  obtain ⟨proper, more, ring, written⟩ := queued.ring.arrive queued.proper
  have delivered : host.arrive.receiver.delivered = host.receiver.delivered := by rw [arrive_arrived]
  have offset : host.arrive.receiver.rxOffset = host.receiver.rxOffset := by rw [arrive_arrived]
  refine ⟨more, ring, proper, ?_, ?_⟩
  · rw [written, delivered, queued.order, List.append_assoc]
  · rw [offset, delivered]
    exact queued.position

theorem Ring.called (ring : Ring host unread) : Ring host.called unread :=
  ⟨ring.card, ring.buffer, ring.fits, ring.inside, ring.aligned, ring.capr, ring.cbr, ring.room, ring.lined, ring.proper⟩

theorem Ring.resumed {handled : Host} (ring : Ring handled unread) : Ring (host.resumed handled) unread :=
  ⟨ring.card, ring.buffer, ring.fits, ring.inside, ring.aligned, ring.capr, ring.cbr, ring.room, ring.lined, ring.proper⟩

/-- A frame that waits is passed to the callback. -/
theorem Ring.polled {receive : Nat → Nat → Host → Option Host} {bytes : List UInt8} (ring : Ring host (bytes :: rest))
    (polled : Polled receive host after) :
    ∃ handled, receive host.pkt bytes.length host.called = some handled ∧
      after = (host.resumed handled).advance (bytes.length + 4) := by
  obtain ⟨status, length, _⟩ := ring.header
  have room := ring.room
  have bounds : bytes.length + 8 ≤ Host.slotSize bytes ∧ Host.slotSize bytes ≤ bytes.length + 11 ∧
    Host.slotSize bytes % 4 = 0 := slotSize_bounds
  rw [Slots.total_cons] at room
  cases polled with
  | idle nothing =>
      rcases nothing with card | buffer | empty
      · exact absurd card ring.card
      · exact absurd buffer ring.buffer
      · cases ring.empty_iff.mp empty
  | reset corrupt =>
      rw [length] at corrupt
      omega
  | skipped unusable =>
      refine absurd ⟨?_, ?_⟩ unusable
      · rw [status]
      · have some : 0 < bytes.length := List.length_pos_iff.mpr (ring.proper bytes List.mem_cons_self)
        rw [length]
        omega
  | delivered handled waiting handles =>
      rw [length, Nat.add_sub_cancel] at handles
      refine ⟨handled, handles, ?_⟩
      rw [length]

/-- Nothing is done where no frame waits. -/
theorem pollWith_empty {receive : Nat → Nat → Host → Option Host} (empty : host.arrive.bufferEmpty = true) :
    host.pollWith receive = some host.arrive := by
  rw [pollWith_eq, if_pos empty]
  exact ite_self _

/-- When the callback changes nothing but the frame, the next frame is the one behind it. -/
theorem Queued.advance {bytes : List UInt8} {handled : Host} (queued : Queued host (bytes :: rest))
    (contained : Contained host.pkt (bytes.length + 4) host.called handled) :
    ((host.resumed handled).advance (bytes.length + 4)).receiver.delivered = host.receiver.delivered ++ [bytes] ∧
      Queued ((host.resumed handled).advance (bytes.length + 4)) rest := by
  obtain ⟨_, length, holds⟩ := queued.ring.header
  have called : host.called.receiver.delivered = host.receiver.delivered ++ [bytes] := by
    rw [Host.called, length, Nat.add_sub_cancel]
    dsimp only
    rw [holds]
  have ring : Ring (host.resumed handled) (handled.memory.loadBytes host.called.pkt bytes.length :: rest) :=
    (Ring.rewritten queued.ring.called contained).resumed
  have same : (handled.memory.loadBytes host.called.pkt bytes.length).length = bytes.length := ByteMemory.length_loadBytes
  have size : Host.slotSize (handled.memory.loadBytes host.called.pkt bytes.length) = Host.slotSize bytes := by
    rw [Host.slotSize, same, Host.slotSize]
  obtain ⟨advanced, offset⟩ := ring.advance
  rw [same] at advanced offset
  rw [size] at offset
  have receiver : (host.resumed handled).receiver = host.called.receiver := contained.receiver
  have delivered : ((host.resumed handled).advance (bytes.length + 4)).receiver.delivered =
      host.receiver.delivered ++ [bytes] := by
    rw [← called, ← receiver]
    rfl
  have schedule : ((host.resumed handled).advance (bytes.length + 4)).receiver.schedule = host.receiver.schedule := by
    have kept : (host.resumed handled).receiver.schedule = host.receiver.schedule := by rw [receiver, Host.called]
    exact kept
  have written : ((host.resumed handled).advance (bytes.length + 4)).receiver.written = host.receiver.written := by
    have kept : (host.resumed handled).receiver.written = host.receiver.written := by rw [receiver, Host.called]
    exact kept
  have before : (host.resumed handled).receiver.rxOffset = host.receiver.rxOffset := by rw [receiver, Host.called]
  refine ⟨delivered, advanced, ?_, ?_, ?_⟩
  · rw [Proper, schedule]
    exact queued.proper
  · rw [written, delivered, queued.order, List.append_assoc]
    rfl
  · rw [offset, before, queued.position, delivered, Slots.total_append, Slots.total_cons, Slots.total_nil, Nat.add_zero,
      Nat.mod_add_mod]

/-- A frame that needs no wait is passed on once, and the ring is moved on behind it. -/
theorem Queued.polled {bytes : List UInt8} (queued : Queued host (bytes :: rest)) (prompt : host.prompt = true)
    (polled : Polled (fun frame frameLen host => host.receive poll frame frameLen) host after) :
    after.receiver.delivered = host.receiver.delivered ++ [bytes] ∧ Queued after rest := by
  obtain ⟨_, length, _⟩ := queued.ring.header
  obtain ⟨handled, handles, rfl⟩ := queued.ring.polled polled
  have waiting : host.bufferEmpty = false := by
    rw [← Bool.not_eq_true, queued.ring.empty_iff]
    exact nofun
  have reached : host.called.answers host.pkt bytes.length = true → host.called.reaches (host.called.senderIp host.pkt) = true := by
    have known := prompt_reached prompt waiting
    rw [length, Nat.add_sub_cancel] at known
    exact known
  exact queued.advance (receive_contained reached handles)

/-- A poll that needs no wait keeps the order. -/
theorem Queued.poll_inOrder (queued : Queued host unread) (prompt : host.arrive.prompt = true)
    (done : Host.pollReceive depth host = some after) :
    InOrder host (.poll depth) after ∧ ∃ unread, Queued after unread := by
  obtain ⟨more, arrived⟩ := queued.arrive
  have before : host.arrive.receiver.delivered = host.receiver.delivered := by rw [arrive_arrived]
  have waiting : host.arrive.receiver.written.drop host.receiver.delivered.length = unread ++ more := by
    rw [arrived.order, before, List.drop_left]
  cases depth with
  | zero => cases done
  | succ depth =>
      rw [InOrder, waiting]
      cases upcoming : unread ++ more with
      | nil =>
          rw [upcoming] at arrived
          have idle := (pollWith_empty (arrived.ring.empty_iff.mpr rfl)).symm.trans done
          cases idle
          refine ⟨⟨?_, ?_, arrived.position⟩, [], arrived⟩
          · rw [before]
            exact (List.append_nil _).symm
          · rw [arrived.order]
            exact List.prefix_append _ _
      | cons bytes rest =>
          rw [upcoming] at arrived
          obtain ⟨delivered, next⟩ := arrived.polled prompt (pollWith_polled done)
          refine ⟨⟨?_, ?_, next.position⟩, rest, next⟩
          · rw [delivered, before]
            rfl
          · rw [next.order]
            exact List.prefix_append _ _

/-- While the answer is waited for, the same frame is passed to the callback again. -/
theorem Queued.waited {bytes : List UInt8} {handled : Host} (queued : Queued host (bytes :: rest))
    (waited : Waited (Host.pollReceive depth) host.pkt (bytes.length + 4) host.called handled) :
    host.receiver.delivered.length + 2 ≤ handled.receiver.delivered.length := by
  obtain ⟨asked, polled, contained, polls, adds⟩ := waited
  have ring := Ring.rewritten queued.ring.called contained
  have same : asked.receiver = host.called.receiver := contained.receiver
  have once : host.called.receiver.delivered.length = host.receiver.delivered.length + 1 := by
    rw [Host.called, List.length_append]
    rfl
  have proper : Proper asked := by
    rw [Proper, same]
    exact queued.proper
  obtain ⟨_, more, arrived, _⟩ := ring.arrive proper
  have asked' : asked.arrive.receiver.delivered = asked.receiver.delivered := by rw [arrive_arrived]
  cases depth with
  | zero => cases polls
  | succ depth =>
      obtain ⟨again, handles, rfl⟩ := arrived.polled (pollWith_polled polls)
      have twice : asked.arrive.called.receiver.delivered.length = asked.arrive.receiver.delivered.length + 1 := by
        rw [Host.called, List.length_append]
        rfl
      have further : Adds asked.arrive.called again := receive_adds pollReceive_adds handles
      rw [Adds] at further adds
      rw [asked', same] at twice
      have kept : again.receiver.delivered.length ≤ handled.receiver.delivered.length := adds
      omega

/-- A poll that has to wait does not keep the order. -/
theorem Queued.poll_waits (queued : Queued host unread) (waits : host.arrive.prompt = false)
    (done : Host.pollReceive depth host = some after) : ¬ InOrder host (.poll depth) after := by
  obtain ⟨more, arrived⟩ := queued.arrive
  have before : host.arrive.receiver.delivered = host.receiver.delivered := by rw [arrive_arrived]
  simp only [Host.prompt, Bool.or_eq_false_iff, Bool.not_eq_false'] at waits
  obtain ⟨⟨waiting, answers⟩, unknown⟩ := waits
  cases depth with
  | zero => cases done
  | succ depth =>
      cases upcoming : unread ++ more with
      | nil =>
          rw [upcoming] at arrived
          rw [arrived.ring.empty_iff.mpr rfl] at waiting
          cases waiting
      | cons bytes rest =>
          rw [upcoming] at arrived
          obtain ⟨_, length, _⟩ := arrived.ring.header
          rw [length, Nat.add_sub_cancel] at answers
          obtain ⟨handled, handles, rfl⟩ := arrived.ring.polled (pollWith_polled done)
          have calledAnswers : host.arrive.called.answers host.arrive.pkt bytes.length = true := answers
          have calledUnknown : host.arrive.called.reaches (host.arrive.called.senderIp host.arrive.pkt) = false := unknown
          have twice := arrived.waited (receive_waited pollReceive_adds calledAnswers calledUnknown handles)
          intro inOrder
          have lengths := congrArg List.length inOrder.1
          have taken : ((host.arrive.receiver.written.drop host.receiver.delivered.length).take 1).length ≤ 1 :=
            List.length_take_le _ _
          have after : ((host.arrive.resumed handled).advance (bytes.length + 4)).receiver.delivered.length =
              handled.receiver.delivered.length := rfl
          rw [List.length_append, after] at lengths
          rw [before] at twice
          omega

/-- There is a card with a buffer, and the frames that arrive have bytes. -/
structure Host.CardSetup.Works (setup : Host.CardSetup) : Prop where
  card : setup.ioBase ≠ 0
  buffer : setup.rxBuffer ≠ 0
  fits : setup.rxBuffer + 2 * rxBufSize ≤ 2 ^ 32
  proper : ∀ frames ∈ setup.schedule, ∀ frame ∈ frames, frame ≠ []

theorem rtl8139Init_queued {setup : Host.CardSetup} (works : setup.Works) : Queued (host.rtl8139Init setup) [] := by
  rw [Host.rtl8139Init, if_neg works.card]
  have inside : 0 < rxBufSize := by decide
  exact ⟨⟨works.card, works.buffer, works.fits, inside, rfl, rfl, rfl, inside, trivial, nofun⟩, works.proper, rfl, rfl⟩

theorem Queued.besides {other : Host} (queued : Queued host unread) : Queued (host.besides other) unread :=
  ⟨⟨queued.ring.card, queued.ring.buffer, queued.ring.fits, queued.ring.inside, queued.ring.aligned, queued.ring.capr,
      queued.ring.cbr, queued.ring.room, queued.ring.lined, queued.ring.proper⟩,
    queued.proper, queued.order, queued.position⟩

theorem Queued.turn {turn : Turn} (queued : Queued before unread) (done : before.turn turn = some after) :
    (InOrder before turn after ↔ Prompt before turn) ∧ (Prompt before turn → ∃ unread, Queued after unread) := by
  cases turn with
  | other other =>
      cases done
      exact ⟨iff_of_true rfl trivial, fun _ => ⟨unread, queued.besides⟩⟩
  | poll depth =>
      cases prompt : before.arrive.prompt with
      | true =>
          obtain ⟨inOrder, next⟩ := queued.poll_inOrder prompt done
          exact ⟨iff_of_true inOrder prompt, fun _ => next⟩
      | false =>
          have lacks : ¬ Prompt before (.poll depth) := ne_true_of_eq_false prompt
          exact ⟨iff_of_false (queued.poll_waits prompt done) lacks, fun held => absurd held lacks⟩

/-- From the start of the driver on, each frame that the card has written is passed to the callback
once, in order and with its bytes, exactly when no frame is read whose answer must wait. -/
theorem run_inOrder_iff {setup : Host.CardSetup} {turns : List Turn} (works : setup.Works)
    (run : Run (Stepping Host.turn) (host.rtl8139Init setup) turns after) :
    Observed Host.turn InOrder (host.rtl8139Init setup) turns after ↔
      Restricted Host.turn Prompt (host.rtl8139Init setup) turns after := by
  have free : Restricted Host.turn (fun _ _ => True) (host.rtl8139Init setup) turns after :=
    run.mono fun _ _ _ performed => ⟨trivial, performed⟩
  refine free.observed_iff (fun host => ∃ unread, Queued host unread) (fun before turn after queued _ done => ?_)
    (fun before turn after queued _ done prompt => ?_) ⟨[], rtl8139Init_queued works⟩
  · obtain ⟨unread, queued⟩ := queued
    exact (queued.turn done).1
  · obtain ⟨unread, queued⟩ := queued
    exact (queued.turn done).2 prompt

/-- A machine in the same network. -/
def peerHost : Host :=
  { idleHost with
    localMac := ⟨[0x52, 0x54, 0x00, 0x65, 0x43, 0x21], rfl⟩, arpLocalIp := 0x0302000A, localIp := 0x0302000A }

/-- The machine asks for an address, or gives its own. -/
def arpFrame (op : Nat) : List UInt8 :=
  peerHost.ethernetFrame .broadcast ethTypeArp (peerHost.arpPacket (swap16 1) (swap16 0x0800) op .zero 0x0F02000A)

def echoFrame : List UInt8 := ipFrame 28 1 0x0302000A 0x0F02000A [8, 0, 0, 0, 0, 1, 0, 1]

def cardSetup (schedule : List (List (List UInt8))) : Host.CardSetup :=
  { ioBase := 0xC000, rxBuffer := 0x110000, txBuffers := idleHost.txBuffers, macAddress := idleHost.localMac, schedule }

/-- The peer asks for the address first, and so its own is known when the echo request comes. -/
theorem run_inOrder_acquainted :
    ∃ after, Observed Host.turn InOrder (idleHost.rtl8139Init (cardSetup [[arpFrame arpOpRequest], [echoFrame]]))
      [.poll 1, .poll 1] after := by
  have returns : (performAll Host.turn (fun host turn => decide (Prompt host turn))
      (idleHost.rtl8139Init (cardSetup [[arpFrame arpOpRequest], [echoFrame]])) [.poll 1, .poll 1]).isSome = true := by
    decide +kernel
  obtain ⟨after, done⟩ := Option.isSome_iff_exists.mp returns
  have prompt := (performAll_restricted done).mono fun _ _ _ performed =>
    (⟨of_decide_eq_true performed.1, performed.2⟩ : Guarded Prompt (Stepping Host.turn) _ _ _)
  have works : (cardSetup [[arpFrame arpOpRequest], [echoFrame]]).Works :=
    ⟨by decide, by decide, by decide, by decide⟩
  exact ⟨after, (run_inOrder_iff works (prompt.mono fun _ _ _ performed => performed.2)).mpr prompt⟩

/-- Two frames are written, and there are three calls of the callback. -/
theorem run_repeats :
    ∃ after, Run (Stepping Host.turn) (idleHost.rtl8139Init (cardSetup [[echoFrame], [arpFrame arpOpReply]])) [.poll 2]
        after ∧ after.receiver.written.length = 2 ∧ after.receiver.delivered.length = 3 ∧
      ¬ Observed Host.turn InOrder (idleHost.rtl8139Init (cardSetup [[echoFrame], [arpFrame arpOpReply]])) [.poll 2]
        after := by
  have repeats : (performAll Host.turn (fun _ _ => true)
      (idleHost.rtl8139Init (cardSetup [[echoFrame], [arpFrame arpOpReply]])) [.poll 2]).any
      (fun after => after.receiver.written.length = 2 ∧ after.receiver.delivered.length = 3) = true := by
    decide +kernel
  obtain ⟨after, done, lengths⟩ := (Option.any_eq_true _ _).mp repeats
  obtain ⟨written, delivered⟩ := of_decide_eq_true lengths
  have run := (performAll_restricted done).mono fun _ _ _ performed => performed.2
  refine ⟨after, run, written, delivered, fun observed => ?_⟩
  have bounded := observed.invariant (fun host => host.receiver.delivered.length ≤ host.receiver.written.length)
    (fun before turn after fewer performed => ?_) (Nat.le_refl _)
  · rw [written, delivered] at bounded
    omega
  · cases turn with
    | poll depth => exact performed.2.2.1.length_le
    | other other =>
        have same : after.receiver = before.receiver := performed.2
        rw [same]
        exact fewer

end AutismOS.Network
