import AutismOS.Network.Polling

namespace AutismOS.Network

open AutismOS.Library

variable {host sender receiver after : Host} {poll : Host → Option Host} {memory : ByteMemory} {dstMac : Mac}
variable {place hop dstIp protocol length count retry : Nat} {payload packet : List UInt8}

/-! IP over Ethernet, there and back. -/

/-- The frame that carries an IP packet, as the card gets it. -/
def Host.outgoing (host : Host) (dstMac : Mac) (packet : List UInt8) : List UInt8 :=
  (host.ethernetFrame dstMac ethTypeIp (packet.take (packet.length % 2 ^ 16))).take
    ((ethHeaderSize + (packet.take (packet.length % 2 ^ 16)).length) % 2 ^ 16)

/-- The packet was put into a frame, or nobody answered for the next hop. -/
inductive Resolved (hop : Nat) (packet : List UInt8) : Host → Prop where
  | forwarded (waited : Host) (dstMac : Mac) (found : waited.arpLookup hop = some dstMac) :
      Resolved hop packet (waited.forward dstMac packet)
  | unanswered (after : Host) (unknown : after.arpLookup hop = none) : Resolved hop packet after

theorem awaitReply_resolved {sent : Bool} (positive : 0 < count)
    (done : Host.awaitReply poll hop packet count host = some (sent, after)) :
    Resolved hop packet after ∧ (sent = false → after.arpLookup hop = none) := by
  induction count generalizing host with
  | zero => cases positive
  | succ count ih =>
      obtain ⟨polled, polls, done⟩ := Option.bind_eq_some_iff.mp done
      cases found : polled.arpLookup hop with
      | some dstMac =>
          rw [found] at done
          cases done
          exact ⟨.forwarded polled dstMac found, nofun⟩
      | none =>
          rw [found] at done
          cases count with
          | zero =>
              cases done
              exact ⟨.unanswered _ found, fun _ => found⟩
          | succ count => exact ih (Nat.succ_pos count) done

theorem sendResolved_resolved (unknown : retry = 0 → host.arpLookup hop = none)
    (done : Host.sendResolved poll hop packet retry host = some after) : Resolved hop packet after := by
  induction retry generalizing host with
  | zero =>
      cases done
      exact .unanswered _ (unknown rfl)
  | succ retry ih =>
      rw [Host.sendResolved] at done
      cases found : host.arpLookup hop with
      | some dstMac =>
          rw [found] at done
          cases done
          exact .forwarded host dstMac found
      | none =>
          rw [found] at done
          obtain ⟨⟨sent, waited⟩, awaits, done⟩ := Option.bind_eq_some_iff.mp done
          obtain ⟨resolved, unanswered⟩ := awaitReply_resolved (by decide) awaits
          cases sent with
          | true =>
              cases done
              exact resolved
          | false => exact ih (fun _ => unanswered rfl) done

theorem ipSend_resolved (done : host.ipSend poll dstIp protocol payload = some after) :
    Resolved (host.nextHop dstIp) (host.ipHeader dstIp protocol payload.length ++ payload) after := by
  rw [Host.ipSend] at done
  have resolved := sendResolved_resolved (fun impossible => absurd impossible (by decide)) done
  exact resolved

/-- Nothing is cut off a packet that is short enough. -/
theorem outgoing_eq (short : packet.length ≤ 1500) :
    host.outgoing dstMac packet = host.ethernetFrame dstMac ethTypeIp packet := by
  have whole : packet.take (packet.length % 2 ^ 16) = packet :=
    List.take_of_length_le (Nat.le_of_eq (Nat.mod_eq_of_lt (by omega)).symm)
  have length : (host.ethernetFrame dstMac ethTypeIp packet).length = ethHeaderSize + packet.length := by
    simp only [Host.ethernetFrame, List.length_append, dstMac.length, host.localMac.length, length_bytes16, ethHeaderSize]
  have bounded : ethHeaderSize + packet.length < 2 ^ 16 := by
    rw [ethHeaderSize]
    omega
  rw [Host.outgoing, whole]
  refine List.take_of_length_le ?_
  exact Nat.le_of_eq (length.trans (Nat.mod_eq_of_lt bounded).symm)

theorem forward_ioBase : (host.forward dstMac packet).ioBase = host.ioBase := forward_transmits.ioBase

theorem note_ethernetFrame {effect : Effect} {ethType : Nat} :
    (host.note effect).ethernetFrame dstMac ethType payload = host.ethernetFrame dstMac ethType payload := rfl

theorem note_ioBase {effect : Effect} : (host.note effect).ioBase = host.ioBase := rfl

theorem note_transmitted {effect : Effect} : (host.note effect).transmitted = host.transmitted := rfl

theorem rtl8139SendPacket_transmitted {data : List UInt8} (card : host.ioBase ≠ 0) (fits : data.length ≤ txBufSize) :
    (host.rtl8139SendPacket data).2.transmitted = host.transmitted ++ [data] := by
  have accepted : ¬ (host.ioBase = 0 ∨ txBufSize < data.length) := by
    rw [not_or]
    exact ⟨card, Nat.not_lt.mpr fits⟩
  rw [Host.rtl8139SendPacket, if_neg accepted]

theorem forward_transmitted (card : host.ioBase ≠ 0) (short : packet.length ≤ 1500) :
    (host.forward dstMac packet).transmitted = host.transmitted ++ [host.outgoing dstMac packet] := by
  have fits : (host.outgoing dstMac packet).length ≤ txBufSize := by
    rw [outgoing_eq short]
    simp only [Host.ethernetFrame, List.length_append, dstMac.length, host.localMac.length, length_bytes16, txBufSize]
    omega
  rw [Host.outgoing] at fits ⊢
  simp only [Host.forward, Host.ethernetSend, note_ethernetFrame]
  rw [rtl8139SendPacket_transmitted _ fits]
  · simp only [note_transmitted]
  · simp only [note_ioBase]
    exact card

/-- What the receiver reads of a header. -/
structure Fields (memory : ByteMemory) (place totalLength protocol srcIp dstIp : Nat) : Prop where
  totalLength : swap16 (memory.load16 (place + 2)) = totalLength
  protocol : (memory.loadByte (place + 9)).toNat = protocol
  srcIp : memory.loadWord (place + 12) = srcIp
  dstIp : memory.loadWord (place + 16) = dstIp

theorem ipHeader_fields (holds : memory.Holds place (sender.ipHeader dstIp protocol length))
    (short : ipHeaderSize + length < 2 ^ 16) (small : protocol < 2 ^ 8) (source : sender.localIp < 2 ^ 32)
    (destination : dstIp < 2 ^ 32) :
    Fields memory place (ipHeaderSize + length) protocol sender.localIp dstIp := by
  rw [Host.ipHeader] at holds
  simp only [ByteMemory.holds_append, List.length_append, List.length_cons, List.length_nil, length_bytes16,
    length_bytes32, Nat.reduceAdd] at holds
  obtain ⟨⟨⟨⟨⟨⟨⟨first, total⟩, id⟩, fragment⟩, life⟩, checksum⟩, sourceBytes⟩, destinationBytes⟩ := holds
  refine ⟨?_, ?_, sourceBytes.loadWord source, destinationBytes.loadWord destination⟩
  · rw [total.load16 swap16_lt]
    exact swap16_swap16 short
  · obtain ⟨_, next⟩ := ByteMemory.holds_cons.mp life
    obtain ⟨byte, _⟩ := ByteMemory.holds_cons.mp next
    rw [Nat.add_assoc] at byte
    rw [byte, UInt8.toNat_ofNat', Nat.mod_eq_of_lt small]

/-- The handler of a protocol gets the payload of a packet to this machine. -/
theorem ipReceive_handled (icmpCallback tcpCallback : Nat → Nat → Nat → Host → Option Host)
    {packetLength srcIp : Nat} (fields : Fields host.memory place (ipHeaderSize + length) protocol srcIp host.localIp)
    (long : ipHeaderSize ≤ packetLength) (short : ipHeaderSize + length < 2 ^ 16)
    (handled : protocol = ipProtoIcmp ∨ protocol = ipProtoTcp) :
    ∃ parsed, Accessed host parsed ∧
      host.ipReceive icmpCallback tcpCallback place packetLength =
        (if protocol = ipProtoIcmp then icmpCallback else tcpCallback) (place + ipHeaderSize) length srcIp parsed := by
  have payloadLen : (ipHeaderSize + length + (2 ^ 16 - ipHeaderSize)) % 2 ^ 16 = length := by
    rw [ipHeaderSize] at *
    omega
  have header : Accessed host ((((host.touch (place + 16) 4).touch (place + 2) 2).touch (place + 9) 1).touch
      (place + 12) 4) :=
    ((touch_accessed.trans touch_accessed).trans touch_accessed).trans touch_accessed
  refine ⟨_, header, ?_⟩
  simp only [Host.ipReceive, touch_memory, touch_localIp]
  rw [if_neg (Nat.not_lt.mpr long), if_neg (not_not.mpr fields.dstIp), fields.totalLength, payloadLen, fields.protocol,
    fields.srcIp]
  rcases handled with icmp | tcp
  · rw [if_pos icmp, if_pos icmp]
  · have notIcmp : protocol ≠ ipProtoIcmp := by
      rw [tcp]
      decide
    rw [if_neg notIcmp, if_pos tcp, if_neg notIcmp]

/-- Wherever the frame lies, it calls just the handler of the protocol, with the payload, its length
and the address it came from. -/
def Host.Understands (receiver : Host) (frame : List UInt8) (protocol : Nat) (payload : List UInt8) (srcIp : Nat) : Prop :=
  ∀ (arpRx : Nat → Nat → Host → Option Host) (icmpCallback tcpCallback : Nat → Nat → Nat → Host → Option Host)
    (place : Nat), receiver.memory.Holds place frame →
    ∃ parsed, Accessed receiver parsed ∧ parsed.memory.loadBytes (place + 34) payload.length = payload ∧
      receiver.ethernetReceive arpRx (fun packet length host => host.ipReceive icmpCallback tcpCallback packet length) place
          frame.length =
        (if protocol = ipProtoIcmp then icmpCallback else tcpCallback) (place + 34) payload.length srcIp parsed

theorem ethernetFrame_understood (short : ipHeaderSize + payload.length < 2 ^ 16)
    (handled : protocol = ipProtoIcmp ∨ protocol = ipProtoTcp)
    (source : sender.localIp < 2 ^ 32) (destination : receiver.localIp < 2 ^ 32) :
    receiver.Understands
      (host.ethernetFrame dstMac ethTypeIp (sender.ipHeader receiver.localIp protocol payload.length ++ payload)) protocol
      payload sender.localIp := by
  intro arpRx icmpCallback tcpCallback place holds
  have length : (host.ethernetFrame dstMac ethTypeIp
      (sender.ipHeader receiver.localIp protocol payload.length ++ payload)).length =
        ethHeaderSize + (ipHeaderSize + payload.length) := by
    simp only [Host.ethernetFrame, List.length_append, dstMac.length, host.localMac.length, length_bytes16,
      length_ipHeader, ethHeaderSize, ipHeaderSize]
  rw [length]
  have small : protocol < 2 ^ 8 := by
    rw [ipProtoIcmp, ipProtoTcp] at handled
    omega
  simp only [Host.ethernetFrame, ByteMemory.holds_append, List.length_append, dstMac.length, host.localMac.length,
    length_bytes16, length_ipHeader, Nat.reduceAdd, Nat.add_assoc] at holds
  obtain ⟨⟨⟨_, _⟩, type⟩, header, content⟩ := holds
  have isIp : swap16 (receiver.memory.load16 (place + 12)) = ethTypeIp := by
    rw [type.load16 swap16_lt]
    exact swap16_swap16 (by decide)
  have fields : Fields (receiver.touch (place + 12) 2).memory (place + ethHeaderSize) (ipHeaderSize + payload.length) protocol
      sender.localIp (receiver.touch (place + 12) 2).localIp := by
    rw [touch_memory, touch_localIp]
    exact ipHeader_fields header short small source destination
  have rest : ethHeaderSize + (ipHeaderSize + payload.length) - ethHeaderSize = ipHeaderSize + payload.length :=
    Nat.add_sub_cancel_left ..
  obtain ⟨parsed, accessed, handles⟩ := ipReceive_handled icmpCallback tcpCallback fields
    (Nat.le_add_right ipHeaderSize payload.length) short handled
  have unread : Accessed receiver parsed := touch_accessed.trans accessed
  refine ⟨parsed, unread, ?_, ?_⟩
  · rw [unread]
    exact content
  · simp only [Host.ethernetReceive, touch_memory, isIp, rest]
    rw [if_neg (Nat.not_lt.mpr (Nat.le_add_right _ _)), if_neg (by decide), if_pos trivial, handles]
    rfl

/-- A host with the hardware address of 10.0.2.3. -/
def acquaintedHost : Host :=
  { idleHost with arpCache := [{ ip := 0x0302000A, mac := .zero, valid := true }] }

/-- Its neighbour. -/
def neighbour : Host := { idleHost with localIp := 0x0302000A }

/-- Where the next hop answers, the frame in which a short packet goes out calls the handler of its
protocol at the host it is for, with the payload and the address of the sender. -/
theorem ipSend_roundTrip (short : payload.length ≤ 1480) (handled : protocol = ipProtoIcmp ∨ protocol = ipProtoTcp)
    (source : sender.localIp < 2 ^ 32) (destination : receiver.localIp < 2 ^ 32)
    (done : sender.ipSend poll receiver.localIp protocol payload = some after) :
    after.arpLookup (sender.nextHop receiver.localIp) = none ∨
      ∃ (waited : Host) (dstMac : Mac) (frame : List UInt8),
        after = waited.forward dstMac (sender.ipHeader receiver.localIp protocol payload.length ++ payload) ∧
        frame = waited.outgoing dstMac (sender.ipHeader receiver.localIp protocol payload.length ++ payload) ∧
        (waited.ioBase ≠ 0 → after.transmitted = waited.transmitted ++ [frame]) ∧
        receiver.Understands frame protocol payload sender.localIp := by
  have packetShort : (sender.ipHeader receiver.localIp protocol payload.length ++ payload).length ≤ 1500 := by
    rw [List.length_append, length_ipHeader]
    omega
  have fits : ipHeaderSize + payload.length < 2 ^ 16 := by
    rw [ipHeaderSize]
    omega
  cases ipSend_resolved done with
  | unanswered _ unknown => exact Or.inl unknown
  | forwarded waited dstMac found =>
      refine Or.inr ⟨waited, dstMac, _, rfl, rfl, fun card => forward_transmitted card packetShort, ?_⟩
      rw [outgoing_eq packetShort]
      exact ethernetFrame_understood fits handled source destination

theorem ipSend_roundTrip_echo :
    ∃ (after earlier : Host) (frame : List UInt8),
      acquaintedHost.ipSend (Host.pollReceive 1) neighbour.localIp ipProtoIcmp [8, 0, 0, 0, 0, 1, 0, 1] = some after ∧
        after.transmitted = earlier.transmitted ++ [frame] ∧
        neighbour.Understands frame ipProtoIcmp [8, 0, 0, 0, 0, 1, 0, 1] acquaintedHost.localIp := by
  have known : (acquaintedHost.ipSend (Host.pollReceive 1) neighbour.localIp ipProtoIcmp [8, 0, 0, 0, 0, 1, 0, 1]).any
      (fun after => (after.arpLookup (acquaintedHost.nextHop neighbour.localIp)).isSome && after.ioBase ≠ 0) = true := by
    decide +kernel
  obtain ⟨after, done, known⟩ := (Option.any_eq_true _ _).mp known
  obtain ⟨found, card⟩ := Bool.and_eq_true_iff.mp known
  rcases ipSend_roundTrip (by decide) (Or.inl rfl) (by decide) (by decide) done with
    unknown | ⟨waited, dstMac, frame, forwards, isFrame, transmits, understands⟩
  · rw [unknown] at found
    cases found
  · have same : after.ioBase = waited.ioBase := by
      rw [forwards, forward_ioBase]
    have present : after.ioBase ≠ 0 := of_decide_eq_true card
    rw [same] at present
    exact ⟨after, waited, frame, done, transmits present, understands⟩

end AutismOS.Network
