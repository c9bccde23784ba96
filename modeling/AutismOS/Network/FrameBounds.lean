import AutismOS.Network.Polling

namespace AutismOS.Network

open AutismOS.Library

variable {host before after : Host} {poll : Host → Option Host}
variable {frame frameLen packet length srcIp lower upper address count conn depth : Nat} {segment : Host.Segment}

/-! What is read and written of a frame. -/

/-- All recorded accesses lie between two addresses. -/
def Host.Within (host : Host) (lower upper : Nat) : Prop :=
  ∀ span ∈ host.touched, lower ≤ span.1 ∧ span.1 + span.2 ≤ upper

/-- The poll gives back the record that it finds. -/
def KeepsTouched (poll : Host → Option Host) : Prop :=
  ∀ before after, poll before = some after → after.touched = before.touched

theorem within_congr (same : after.touched = host.touched) : after.Within lower upper ↔ host.Within lower upper := by
  rw [Host.Within, Host.Within, same]

theorem touch_within : (host.touch address count).Within lower upper ↔
    (count = 0 ∨ lower ≤ address ∧ address + count ≤ upper) ∧ host.Within lower upper := by
  rw [Host.touch]
  by_cases none : count = 0
  · rw [if_pos none]
    exact (and_iff_right (Or.inl none)).symm
  · rw [if_neg none]
    constructor
    · intro within
      exact ⟨Or.inr (within _ List.mem_cons_self), fun span member => within span (List.mem_cons_of_mem _ member)⟩
    · intro both span member
      rcases List.mem_cons.mp member with rfl | old
      · exact both.1.resolve_left none
      · exact both.2 span old

theorem KeepsTouched.absorbs (keeps : KeepsTouched poll) :
    Absorbs poll fun before after => after.touched = before.touched := by
  refine ⟨fun first second => second.trans first, fun polls => keeps _ _ polls, fun sends => ?_⟩
  rw [sends]

theorem pollReceive_touched : KeepsTouched (Host.pollReceive depth) :=
  fun _ _ done => (pollReceive_records done).1

theorem arpLearn_within (within : host.Within lower upper) (above : lower ≤ packet) (below : packet + 28 ≤ upper) :
    (host.arpLearn packet).Within lower upper := by
  have sender : ((host.touch (packet + 14) 4).touch (packet + 8) 6).Within lower upper :=
    touch_within.mpr ⟨by omega, touch_within.mpr ⟨by omega, within⟩⟩
  simp only [Host.arpLearn]
  split
  · exact sender
  · exact sender

theorem arpAnswer_within (within : host.Within lower upper) (above : lower ≤ packet) (below : packet + 28 ≤ upper) :
    (host.arpAnswer packet).Within lower upper := by
  have whole : (host.touch packet 4).Within lower upper := touch_within.mpr ⟨by omega, within⟩
  exact (within_congr (congrArg Host.touched ethernetSend_transmits)).mpr whole

theorem arpReceive_within (within : host.Within lower upper) (above : lower ≤ packet)
    (below : packet + length ≤ upper) : (host.arpReceive packet length).Within lower upper := by
  simp only [Host.arpReceive]
  by_cases short : length < arpPacketSize
  · rw [if_pos short]
    exact within
  · rw [if_neg short]
    rw [arpPacketSize] at short
    have header : ((host.touch (packet + 6) 2).touch (packet + 24) 4).Within lower upper :=
      touch_within.mpr ⟨by omega, touch_within.mpr ⟨by omega, within⟩⟩
    have learnt := arpLearn_within header above (by omega)
    split
    · split
      · exact arpAnswer_within learnt above (by omega)
      · exact learnt
    · exact header

/-- The frame ends before what the packet is said to contain. -/
def Host.IcmpOverruns (host : Host) (packet length upper : Nat) : Prop :=
  icmpHeaderSize ≤ length ∧
    (upper < packet + 1 ∨
      (host.memory.loadByte packet).toNat = icmpTypeEchoRequest ∧ upper < packet + length)

theorem icmpAnswer_within (above : lower ≤ packet) (long : 8 ≤ length) :
    (host.icmpAnswer packet length).Within lower upper ↔ packet + length ≤ upper ∧ host.Within lower upper := by
  have same : (host.icmpAnswer packet length).touched =
      (((host.touch packet 1).touch (packet + 2) 2).touch packet length).touched := rfl
  rw [within_congr same, touch_within, touch_within, touch_within]
  constructor
  · intro both
    exact ⟨by omega, both.2.2.2⟩
  · intro both
    exact ⟨by omega, by omega, by omega, both.2⟩

theorem icmpReceive_within (keeps : KeepsTouched poll) (within : host.Within lower upper) (above : lower ≤ packet)
    (done : host.icmpReceive poll packet length srcIp = some after) :
    after.Within lower upper ↔ ¬ host.IcmpOverruns packet length upper := by
  simp only [Host.icmpReceive, touch_memory] at done
  rw [Host.IcmpOverruns]
  by_cases short : length < icmpHeaderSize
  · rw [if_pos short] at done
    cases done
    exact iff_of_true within fun overruns => Nat.not_le_of_lt short overruns.1
  · rw [if_neg short] at done
    have long : 8 ≤ length := Nat.not_lt.mp short
    have first : (host.touch packet 1).Within lower upper ↔ packet + 1 ≤ upper := by
      rw [touch_within]
      constructor
      · intro both
        omega
      · intro fits
        exact ⟨by omega, within⟩
    by_cases request : (host.memory.loadByte packet).toNat = icmpTypeEchoRequest
    · rw [if_pos request] at done
      rw [within_congr (keeps.absorbs.ipSend done), icmpAnswer_within above long, first]
      simp only [request, true_and]
      rw [icmpHeaderSize]
      omega
    · have others : after.Within lower upper ↔ packet + 1 ≤ upper := by
        rw [if_neg request] at done
        split at done
        · cases done
          exact first
        · cases done
          exact first
      rw [others]
      simp only [request, false_and, or_false]
      rw [icmpHeaderSize]
      omega

def Host.TcpOverruns (host : Host) (packet length srcIp upper : Nat) : Prop :=
  tcpHeaderSize ≤ length ∧ host.activeConn ≠ 0 ∧
    (upper < packet + 12 ∨
      host.addressed host.activeConn (host.loadSegment packet) srcIp = true ∧
        (upper < packet + 14 ∨
          (host.conns host.activeConn).state = .established ∧
            0 < Host.dataLen (host.loadSegment packet) length ∧
            upper < packet + (host.loadSegment packet).headerLen +
              min (Host.dataLen (host.loadSegment packet) length) Host.recvBufferSize))

theorem setConn_touched {content : TcpConnection} : (host.setConn conn content).touched = host.touched := rfl

theorem tcpEstablish_touched (keeps : KeepsTouched poll) (done : host.tcpEstablish poll conn segment = some after) :
    after.touched = host.touched := by
  rw [Host.tcpEstablish] at done
  split at done
  · exact (keeps.absorbs.tcpSendPacket done).trans setConn_touched
  · cases done
    rfl

theorem tcpFinish_touched (keeps : KeepsTouched poll) (done : host.tcpFinish poll conn segment = some after) :
    after.touched = host.touched := by
  rw [Host.tcpFinish] at done
  split at done
  · obtain ⟨sent, sends, rfl⟩ := Option.map_eq_some_iff.mp done
    exact (setConn_touched.trans (keeps.absorbs.tcpSendPacket sends)).trans setConn_touched
  · cases done
    rfl

theorem tcpStore_touched (keeps : KeepsTouched poll) (done : host.tcpStore poll conn segment packet length = some after) :
    after.touched =
      if 0 < Host.dataLen segment length then
        (host.touch (packet + segment.headerLen) (min (Host.dataLen segment length) Host.recvBufferSize)).touched
      else host.touched := by
  simp only [Host.tcpStore] at done
  by_cases some : 0 < Host.dataLen segment length
  · rw [if_pos some] at done ⊢
    exact (keeps.absorbs.tcpSendPacket done).trans setConn_touched
  · rw [if_neg some] at done ⊢
    cases done
    rfl

/-- The fields behind the acknowledgement are read only for a segment that is addressed to the connection. -/
theorem tcpReceive_within (keeps : KeepsTouched poll) (within : host.Within lower upper) (above : lower ≤ packet)
    (done : host.tcpReceive poll packet length srcIp = some after) :
    after.Within lower upper ↔ ¬ host.TcpOverruns packet length srcIp upper := by
  simp only [Host.tcpReceive, touch_activeConn, touch_conns, touch_addressed, touch_loadSegment] at done
  rw [Host.TcpOverruns]
  by_cases short : length < tcpHeaderSize
  · rw [if_pos short] at done
    cases done
    exact iff_of_true within fun overruns => Nat.not_le_of_lt short overruns.1
  rw [if_neg short] at done
  by_cases none : host.activeConn = 0
  · rw [if_pos none] at done
    cases done
    exact iff_of_true within fun overruns => overruns.2.1 none
  rw [if_neg none] at done
  have ports : (host.touch packet 12).Within lower upper ↔ packet + 12 ≤ upper := by
    rw [touch_within]
    constructor
    · intro both
      omega
    · intro fits
      exact ⟨by omega, within⟩
  simp only [Nat.not_lt.mp short, none, ne_eq, not_false_eq_true, true_and]
  cases addressed : host.addressed host.activeConn (host.loadSegment packet) srcIp with
  | false =>
      rw [addressed] at done
      cases done
      simp only [Bool.false_eq_true, false_and, or_false, ports, Nat.not_lt]
  | true =>
      rw [addressed] at done
      have header : (((host.touch packet 12).touch (packet + 13) 1).touch (packet + 12) 1).Within lower upper ↔
          packet + 14 ≤ upper := by
        rw [touch_within, touch_within, ports]
        omega
      simp only [Bool.not_true, Bool.false_eq_true, if_false] at done
      simp only [true_and]
      cases state : (host.conns host.activeConn).state with
      | established =>
          simp only [state] at done
          obtain ⟨stored, stores, done⟩ := Option.bind_eq_some_iff.mp done
          have same := (tcpFinish_touched keeps done).trans (tcpStore_touched keeps stores)
          by_cases some : 0 < Host.dataLen (host.loadSegment packet) length
          · rw [if_pos some] at same
            rw [within_congr same, touch_within, header, Host.recvBufferSize]
            simp only [some, true_and]
            omega
          · rw [if_neg some] at same
            rw [within_congr same, header]
            simp only [some, false_and, and_false, or_false]
            omega
      | synSent =>
          simp only [state] at done
          rw [within_congr (tcpEstablish_touched keeps done), header]
          simp only [reduceCtorEq, false_and, or_false]
          omega
      | closed | finWait | closeWait =>
          simp only [state] at done
          cases done
          rw [header]
          simp only [reduceCtorEq, false_and, or_false]
          omega

def Host.IpOverruns (host : Host) (packet length upper : Nat) : Prop :=
  ipHeaderSize ≤ length ∧ host.memory.loadWord (packet + 16) = host.localIp ∧
    ((host.memory.loadByte (packet + 9)).toNat = ipProtoIcmp ∧
        host.IcmpOverruns (packet + ipHeaderSize) (host.payloadLen packet) upper ∨
      (host.memory.loadByte (packet + 9)).toNat = ipProtoTcp ∧
        host.TcpOverruns (packet + ipHeaderSize) (host.payloadLen packet) (host.memory.loadWord (packet + 12)) upper)

/-- The IP packet in the frame claims to be longer than the frame, and this is relied on. -/
def Host.Overruns (host : Host) (frame frameLen : Nat) : Prop :=
  ethHeaderSize ≤ frameLen ∧ swap16 (host.memory.load16 (frame + 12)) = ethTypeIp ∧
    host.IpOverruns (frame + ethHeaderSize) (frameLen - ethHeaderSize) (frame + frameLen)

theorem ipReceive_within {icmpCallback tcpCallback : Nat → Nat → Nat → Host → Option Host}
    (icmp : ∀ {host after : Host} {packet length srcIp : Nat}, host.Within lower upper → lower ≤ packet →
      icmpCallback packet length srcIp host = some after →
      (after.Within lower upper ↔ ¬ host.IcmpOverruns packet length upper))
    (tcp : ∀ {host after : Host} {packet length srcIp : Nat}, host.Within lower upper → lower ≤ packet →
      tcpCallback packet length srcIp host = some after →
      (after.Within lower upper ↔ ¬ host.TcpOverruns packet length srcIp upper))
    (within : host.Within lower upper) (above : lower ≤ packet) (below : packet + length ≤ upper)
    (done : host.ipReceive icmpCallback tcpCallback packet length = some after) :
    after.Within lower upper ↔ ¬ host.IpOverruns packet length upper := by
  simp only [Host.ipReceive, touch_memory, touch_localIp] at done
  rw [Host.IpOverruns]
  by_cases short : length < ipHeaderSize
  · rw [if_pos short] at done
    cases done
    exact iff_of_true within fun overruns => Nat.not_le_of_lt short overruns.1
  rw [if_neg short] at done
  have long : 20 ≤ length := Nat.not_lt.mp short
  have destination : (host.touch (packet + 16) 4).Within lower upper :=
    touch_within.mpr ⟨by omega, within⟩
  have header : ((((host.touch (packet + 16) 4).touch (packet + 2) 2).touch (packet + 9) 1).touch
      (packet + 12) 4).Within lower upper :=
    touch_within.mpr ⟨by omega, touch_within.mpr ⟨by omega, touch_within.mpr ⟨by omega, destination⟩⟩⟩
  have further : lower ≤ packet + ipHeaderSize := Nat.le_add_right_of_le above
  by_cases other : host.memory.loadWord (packet + 16) = host.localIp
  · rw [if_neg (not_not.mpr other)] at done
    simp only [Nat.not_lt.mp short, other, true_and]
    by_cases isIcmp : (host.memory.loadByte (packet + 9)).toNat = ipProtoIcmp
    · have notTcp : ¬ (host.memory.loadByte (packet + 9)).toNat = ipProtoTcp := by
        rw [isIcmp]
        decide
      rw [if_pos isIcmp] at done
      simp only [isIcmp, true_and, show ¬ ipProtoIcmp = ipProtoTcp by decide, false_and, or_false]
      have answer := icmp header further done
      simp only [Host.IcmpOverruns, touch_memory] at answer
      exact answer
    · rw [if_neg isIcmp] at done
      by_cases isTcp : (host.memory.loadByte (packet + 9)).toNat = ipProtoTcp
      · rw [if_pos isTcp] at done
        simp only [isTcp, true_and, show ¬ ipProtoTcp = ipProtoIcmp by decide, false_and, false_or]
        have answer := tcp header further done
        simp only [Host.TcpOverruns, touch_activeConn, touch_conns, touch_addressed, touch_loadSegment] at answer
        exact answer
      · rw [if_neg isTcp] at done
        cases done
        simp only [isIcmp, isTcp, false_and, or_false, not_false_eq_true, iff_true]
        exact header
  · rw [if_pos other] at done
    cases done
    exact iff_of_true destination fun overruns => other overruns.2.1

/-- An echo request of eight bytes that is said to have 1480. -/
def lyingRequest : Host :=
  { idleHost.withFrame 0x200000 (ipFrame 1500 1 0x0302000A 0x0F02000A [8, 0, 0, 0, 0, 0, 0, 0]) with
    arpCache := [{ ip := 0x0302000A, mac := .zero, valid := true }] }

/-- An echo reply of eight bytes, as it is said to be. -/
def honestReply : Host :=
  idleHost.withFrame 0x200000 (ipFrame 28 1 0x0302000A 0x0F02000A [0, 0, 0, 0, 0, 0, 0, 0])

/-- A frame is read and written within its bounds exactly where no IP header in it claims more
payload than the frame has, for the protocols that rely on it. -/
theorem receive_within_iff (keeps : KeepsTouched poll) (clean : host.touched = [])
    (done : host.receive poll frame frameLen = some after) :
    after.Within frame (frame + frameLen) ↔ ¬ host.Overruns frame frameLen := by
  have within : host.Within frame (frame + frameLen) := by
    rw [Host.Within, clean]
    exact nofun
  simp only [Host.receive, Host.ethernetReceive, touch_memory] at done
  rw [Host.Overruns]
  by_cases short : frameLen < ethHeaderSize
  · rw [if_pos short] at done
    cases done
    exact iff_of_true within fun overruns => Nat.not_le_of_lt short overruns.1
  rw [if_neg short] at done
  have long : 14 ≤ frameLen := Nat.not_lt.mp short
  have type : (host.touch (frame + 12) 2).Within frame (frame + frameLen) :=
    touch_within.mpr ⟨by omega, within⟩
  have below : frame + ethHeaderSize + (frameLen - ethHeaderSize) = frame + frameLen := by
    rw [ethHeaderSize]
    omega
  have above : frame ≤ frame + ethHeaderSize := Nat.le_add_right _ _
  by_cases isArp : swap16 (host.memory.load16 (frame + 12)) = ethTypeArp
  · rw [if_pos isArp] at done
    cases done
    refine iff_of_true (arpReceive_within type above (Nat.le_of_eq below)) fun overruns => ?_
    rw [isArp] at overruns
    exact absurd overruns.2.1 (by decide)
  rw [if_neg isArp] at done
  by_cases isIp : swap16 (host.memory.load16 (frame + 12)) = ethTypeIp
  · rw [if_pos isIp] at done
    simp only [Nat.not_lt.mp short, isIp, true_and]
    have answer := ipReceive_within (icmpReceive_within keeps) (tcpReceive_within keeps) type above (Nat.le_of_eq below)
      done
    simp only [Host.IpOverruns, Host.IcmpOverruns, Host.TcpOverruns, Host.payloadLen, touch_memory, touch_localIp,
      touch_activeConn, touch_conns, touch_addressed, touch_loadSegment] at answer
    exact answer
  · rw [if_neg isIp] at done
    cases done
    exact iff_of_true type fun overruns => isIp overruns.2.1

theorem receive_within_reply :
    ∃ after, honestReply.receive (Host.pollReceive 1) 0x200000 42 = some after ∧
      (after.Within 0x200000 (0x200000 + 42) ↔ ¬ honestReply.Overruns 0x200000 42) := by
  have returns : (honestReply.receive (Host.pollReceive 1) 0x200000 42).isSome = true := by decide +kernel
  obtain ⟨after, done⟩ := Option.isSome_iff_exists.mp returns
  exact ⟨after, done, receive_within_iff pollReceive_touched rfl done⟩

/-- The answer to the request is made of bytes from behind the frame. -/
theorem receive_overruns :
    ∃ after, lyingRequest.receive (Host.pollReceive 1) 0x200000 42 = some after ∧ lyingRequest.touched = [] ∧
      ¬ after.Within 0x200000 (0x200000 + 42) := by
  have reads : (lyingRequest.receive (Host.pollReceive 1) 0x200000 42).any
      (fun after => (0x200022, 1480) ∈ after.touched) = true := by decide +kernel
  obtain ⟨after, done, member⟩ := (Option.any_eq_true _ _).mp reads
  refine ⟨after, done, rfl, fun within => ?_⟩
  exact absurd (within (0x200022, 1480) (of_decide_eq_true member)).2 (by decide)

end AutismOS.Network
