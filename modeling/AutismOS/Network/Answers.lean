import AutismOS.Network.Ring

namespace AutismOS.Network

open AutismOS.Library

variable {host before middle after : Host} {poll : Host → Option Host} {segment : Host.Segment}
variable {packet length srcIp conn frame frameLen start count depth : Nat}

/-! Answers that the callback sends. -/

namespace Host

variable (host : Host)

def icmpAnswers (packet length : Nat) : Bool :=
  icmpHeaderSize ≤ length && (host.memory.loadByte packet).toNat = icmpTypeEchoRequest

def segmentAnswers (segment : Segment) (length : Nat) : TcpState → Bool
  | .synSent => hasFlag segment.flags tcpFlagSyn && hasFlag segment.flags tcpFlagAck
  | .established => 0 < dataLen segment length || hasFlag segment.flags tcpFlagFin
  | _ => false

def tcpAnswers (packet length srcIp : Nat) : Bool :=
  tcpHeaderSize ≤ length && host.activeConn ≠ 0 && host.addressed host.activeConn (host.loadSegment packet) srcIp &&
    segmentAnswers (host.loadSegment packet) length (host.conns host.activeConn).state

def senderIp (frame : Nat) : Nat := host.memory.loadWord (frame + 26)

/-- The frame makes this host send an IP packet to its sender. -/
def answers (frame frameLen : Nat) : Bool :=
  ethHeaderSize + ipHeaderSize ≤ frameLen && swap16 (host.memory.load16 (frame + 12)) = ethTypeIp &&
    host.memory.loadWord (frame + 30) = host.localIp &&
      ((host.memory.loadByte (frame + 23)).toNat = ipProtoIcmp &&
          host.icmpAnswers (frame + 34) (host.payloadLen (frame + 14)) ||
        (host.memory.loadByte (frame + 23)).toNat = ipProtoTcp &&
          host.tcpAnswers (frame + 34) (host.payloadLen (frame + 14)) (host.senderIp frame))

/-- The frame that is read next needs no answer, or one whose next hop is in the cache. -/
def prompt : Bool :=
  host.bufferEmpty || !host.answers host.pkt (host.rxLen - 4) || host.reaches (host.senderIp host.pkt)

end Host

theorem prompt_reached (prompt : host.prompt = true) (waiting : host.bufferEmpty = false)
    (answers : host.answers host.pkt (host.rxLen - 4) = true) : host.reaches (host.senderIp host.pkt) = true := by
  rw [Host.prompt, waiting, answers] at prompt
  exact prompt

theorem Contained.refl : Contained start count host host := ⟨rfl, rfl, rfl, fun _ _ => rfl⟩

theorem Contained.trans (first : Contained start count before middle) (second : Contained start count middle after) :
    Contained start count before after :=
  ⟨second.ioBase.trans first.ioBase, second.rxBuffer.trans first.rxBuffer, second.receiver.trans first.receiver,
    fun address apart => (second.memory address apart).trans (first.memory address apart)⟩

theorem contained_of_eq (ioBase : after.ioBase = before.ioBase) (rxBuffer : after.rxBuffer = before.rxBuffer)
    (receiver : after.receiver = before.receiver) (memory : after.memory = before.memory) :
    Contained start count before after := by
  refine ⟨ioBase, rxBuffer, receiver, fun address _ => ?_⟩
  rw [memory]

theorem Transmits.contained (transmits : Transmits before after) : Contained start count before after := by
  rw [transmits]
  exact contained_of_eq rfl rfl rfl rfl

theorem Accessed.contained (accessed : Accessed before after) : Contained start count before after := by
  rw [accessed]
  exact contained_of_eq rfl rfl rfl rfl

theorem Resolves.contained (resolves : Resolves before after) : Contained start count before after := by
  rw [resolves]
  exact contained_of_eq rfl rfl rfl rfl

/-- The answer is written over the type and the checksum of the packet. -/
theorem icmpAnswer_contained (inside : start ≤ packet) (fits : packet + 4 ≤ start + count) :
    Contained start count host (host.icmpAnswer packet length) := by
  have accessed : Accessed host (((host.touch packet 1).touch (packet + 2) 2).touch packet length) :=
    (touch_accessed.trans touch_accessed).trans touch_accessed
  refine accessed.contained.trans ⟨rfl, rfl, rfl, fun address apart => ?_⟩
  have type : address % 2 ^ 32 ≠ packet % 2 ^ 32 := by
    have place := apart (packet - start) (by omega)
    rwa [Nat.add_sub_cancel' inside] at place
  have low : address % 2 ^ 32 ≠ (packet + 2) % 2 ^ 32 := by
    have place := apart (packet + 2 - start) (by omega)
    rwa [Nat.add_sub_cancel' (by omega)] at place
  have high : address % 2 ^ 32 ≠ (packet + 2 + 1) % 2 ^ 32 := by
    have place := apart (packet + 2 + 1 - start) (by omega)
    rwa [Nat.add_sub_cancel' (by omega)] at place
  dsimp only [Host.icmpAnswer]
  rw [ByteMemory.loadByte_store16_other low high, ByteMemory.loadByte_store16_other low high,
    ByteMemory.loadByte_storeByte_other type]
  simp only [touch_memory]

theorem Accessed.reaches (accessed : Accessed before after) : after.reaches srcIp = before.reaches srcIp := by
  rw [accessed]
  rfl

theorem icmpAnswer_reaches : (host.icmpAnswer packet length).reaches srcIp = host.reaches srcIp := by
  have accessed : Accessed host (((host.touch packet 1).touch (packet + 2) 2).touch packet length) :=
    (touch_accessed.trans touch_accessed).trans touch_accessed
  rw [← accessed.reaches]
  rfl

/-- What becomes of an ICMP packet whose answer needs no wait. -/
theorem icmpReceive_reached (reached : host.icmpAnswers packet length = true → host.reaches srcIp = true)
    (done : host.icmpReceive poll packet length srcIp = some after) : ∃ parsed, Accessed host parsed ∧
      (after = parsed ∨ (∃ echoState, after = { parsed with echoState }) ∨
        Transmits (parsed.icmpAnswer packet length) after) := by
  simp only [Host.icmpReceive, touch_memory] at done
  by_cases short : length < icmpHeaderSize
  · rw [if_pos short] at done
    cases done
    exact ⟨host, .refl, Or.inl rfl⟩
  rw [if_neg short] at done
  have accessed : Accessed host (host.touch packet 1) := touch_accessed
  refine ⟨host.touch packet 1, accessed, ?_⟩
  by_cases request : (host.memory.loadByte packet).toNat = icmpTypeEchoRequest
  · rw [if_pos request] at done
    have answers : host.icmpAnswers packet length = true := by
      rw [Host.icmpAnswers, decide_eq_true (Nat.not_lt.mp short), decide_eq_true request]
      rfl
    have known : ((host.touch packet 1).icmpAnswer packet length).reaches srcIp = true := by
      rw [icmpAnswer_reaches, accessed.reaches]
      exact reached answers
    obtain ⟨sent, sends, transmits⟩ := ipSend_known known
    have same := sends.symm.trans done
    cases same
    exact Or.inr (Or.inr transmits)
  · rw [if_neg request] at done
    split at done
    · cases done
      exact Or.inr (Or.inl ⟨_, rfl⟩)
    · cases done
      exact Or.inl rfl

theorem icmpReceive_contained (inside : start ≤ packet) (fits : packet + 4 ≤ start + count)
    (reached : host.icmpAnswers packet length = true → host.reaches srcIp = true)
    (done : host.icmpReceive poll packet length srcIp = some after) : Contained start count host after := by
  obtain ⟨parsed, accessed, outcome⟩ := icmpReceive_reached reached done
  refine accessed.contained.trans ?_
  rcases outcome with rfl | ⟨echoState, rfl⟩ | transmits
  · exact .refl
  · exact contained_of_eq rfl rfl rfl rfl
  · exact (icmpAnswer_contained inside fits).trans transmits.contained

theorem setConn_reaches {content : TcpConnection} : (host.setConn conn content).reaches srcIp = host.reaches srcIp := rfl

/-- The connection is changed, and the peer is told where its hop is known. -/
theorem tcpSendPacket_reached {content : TcpConnection} {flags : Nat} {data : List UInt8}
    (done : (host.setConn conn content).tcpSendPacket poll conn flags data = some after)
    (same : content.remoteIp = (host.conns conn).remoteIp) (reaches : host.reaches (host.conns conn).remoteIp = true) :
    Transmits (host.setConn conn content) after := by
  have known : (host.setConn conn content).reaches ((host.setConn conn content).conns conn).remoteIp = true := by
    rw [setConn_reaches, setConn_conns, if_pos rfl, same]
    exact reaches
  obtain ⟨sent, sends, transmits⟩ := tcpSendPacket_known known
  have equal := sends.symm.trans done
  cases equal
  exact transmits

theorem setConn_contained {content : TcpConnection} : Contained start count host (host.setConn conn content) :=
  contained_of_eq rfl rfl rfl rfl

theorem tcpEstablish_contained
    (reached : (Host.hasFlag segment.flags tcpFlagSyn && Host.hasFlag segment.flags tcpFlagAck) = true →
      host.reaches (host.conns conn).remoteIp = true)
    (done : host.tcpEstablish poll conn segment = some after) : Contained start count host after := by
  rw [Host.tcpEstablish] at done
  by_cases answers : (Host.hasFlag segment.flags tcpFlagSyn && Host.hasFlag segment.flags tcpFlagAck) = true
  · rw [if_pos answers] at done
    exact setConn_contained.trans (tcpSendPacket_reached done rfl (reached answers)).contained
  · rw [if_neg answers] at done
    cases done
    exact .refl

theorem tcpFinish_contained
    (reached : Host.hasFlag segment.flags tcpFlagFin = true → host.reaches (host.conns conn).remoteIp = true)
    (done : host.tcpFinish poll conn segment = some after) : Contained start count host after := by
  rw [Host.tcpFinish] at done
  by_cases answers : Host.hasFlag segment.flags tcpFlagFin = true
  · rw [if_pos answers] at done
    obtain ⟨sent, sends, rfl⟩ := Option.map_eq_some_iff.mp done
    have transmits := tcpSendPacket_reached sends rfl (reached answers)
    exact (setConn_contained.trans transmits.contained).trans setConn_contained
  · rw [if_neg answers] at done
    cases done
    exact .refl

/-- What `tcp_receive` goes on with after the data was taken. -/
structure Stored (conn : Nat) (content : TcpConnection) (before after : Host) : Prop where
  activeConn : after.activeConn = before.activeConn
  conns : after.conns conn = content
  reaches : ∀ ip, after.reaches ip = before.reaches ip

theorem tcpStore_contained
    (reached : 0 < Host.dataLen segment length → host.reaches (host.conns conn).remoteIp = true)
    (done : host.tcpStore poll conn segment packet length = some after) :
    Contained start count host after ∧ Stored conn (host.stored conn segment packet length) host after := by
  by_cases answers : 0 < Host.dataLen segment length
  · obtain ⟨parsed, accessed, same⟩ :
        ∃ parsed, Accessed host parsed ∧ host.tcpStore poll conn segment packet length = _ := tcpStore_eq answers
    rw [same] at done
    have conns : parsed.conns = host.conns := by rw [accessed]
    have sameIp : (host.stored conn segment packet length).remoteIp = (parsed.conns conn).remoteIp := by
      rw [conns, stored_remoteIp]
    have known : parsed.reaches (parsed.conns conn).remoteIp = true := by
      rw [accessed.reaches, conns]
      exact reached answers
    have transmits := tcpSendPacket_reached done sameIp known
    have edited : Contained start count parsed (parsed.setConn conn (host.stored conn segment packet length)) :=
      setConn_contained
    refine ⟨(accessed.contained.trans edited).trans transmits.contained, ?_, ?_, fun ip => ?_⟩
    · have active : parsed.activeConn = host.activeConn := by rw [accessed]
      rw [transmits]
      exact active
    · rw [transmits]
      dsimp only
      rw [setConn_conns, if_pos rfl]
    · rw [transmits.reaches, setConn_reaches, accessed.reaches]
  · rw [Host.tcpStore, if_neg answers] at done
    cases done
    rw [Host.stored, if_neg answers]
    exact ⟨.refl, rfl, rfl, fun _ => rfl⟩

/-- What the active connection is answered goes to the sender. -/
theorem ForActive.sender (forActive : ForActive host packet length srcIp) :
    (host.conns host.activeConn).remoteIp = srcIp := by
  have fields := forActive.addressed
  simp only [Host.addressed, Bool.and_eq_true, decide_eq_true_eq] at fields
  exact fields.1.1.symm

theorem tcpReceive_contained
    (reached : host.tcpAnswers packet length srcIp = true → host.reaches srcIp = true)
    (done : host.tcpReceive poll packet length srcIp = some after) : Contained start count host after := by
  have known (forActive : ForActive host packet length srcIp)
      (answers : Host.segmentAnswers (host.loadSegment packet) length (host.conns host.activeConn).state = true) :
      host.reaches (host.conns host.activeConn).remoteIp = true := by
    rw [forActive.sender]
    refine reached ?_
    rw [Host.tcpAnswers, decide_eq_true forActive.long, decide_eq_true forActive.nonNull, forActive.addressed, answers]
    rfl
  cases tcpReceive_handled done with
  | ignored _ accessed reason => exact accessed.contained
  | answered parsed _ accessed forActive synSent establishes =>
      have conns : parsed.conns = host.conns := by rw [accessed]
      have active : parsed.activeConn = host.activeConn := by rw [accessed]
      refine accessed.contained.trans (tcpEstablish_contained (fun answers => ?_) establishes)
      rw [accessed.reaches, conns, active]
      refine known forActive ?_
      rw [synSent]
      exact answers
  | continued parsed stored _ accessed forActive established stores finishes =>
      have conns : parsed.conns = host.conns := by rw [accessed]
      have active : parsed.activeConn = host.activeConn := by rw [accessed]
      have told (answers : Host.segmentAnswers (host.loadSegment packet) length .established = true) :
          parsed.reaches (parsed.conns parsed.activeConn).remoteIp = true := by
        rw [accessed.reaches, conns, active]
        refine known forActive ?_
        rw [established]
        exact answers
      rw [Host.segmentAnswers, Bool.or_eq_true, decide_eq_true_iff] at told
      obtain ⟨contained, kept⟩ := tcpStore_contained (fun answers => told (Or.inl answers)) stores
      refine accessed.contained.trans (contained.trans (tcpFinish_contained (fun answers => ?_) finishes))
      rw [kept.activeConn, kept.conns, stored_remoteIp, kept.reaches]
      exact told (Or.inr answers)

/-- A frame that needs no wait is handled within the bytes that it takes up. -/
theorem receive_contained (reached : host.answers frame frameLen = true → host.reaches (host.senderIp frame) = true)
    (done : host.receive poll frame frameLen = some after) : Contained frame (frameLen + 4) host after := by
  have known (addressed : Addressed host frame frameLen)
      (answers : ((host.memory.loadByte (frame + 23)).toNat = ipProtoIcmp ∧
          host.icmpAnswers (frame + 34) (host.payloadLen (frame + 14)) = true) ∨
        ((host.memory.loadByte (frame + 23)).toNat = ipProtoTcp ∧
          host.tcpAnswers (frame + 34) (host.payloadLen (frame + 14)) (host.senderIp frame) = true)) :
      host.reaches (host.senderIp frame) = true := by
    refine reached ?_
    simp only [Host.answers, Bool.and_eq_true, Bool.or_eq_true, decide_eq_true_eq]
    exact ⟨⟨⟨addressed.long, addressed.type⟩, addressed.dstIp⟩, answers⟩
  cases receive_dispatched done with
  | ignored _ accessed => exact accessed.contained
  | arp parsed accessed => exact accessed.contained.trans arpReceive_resolves.contained
  | icmp parsed _ accessed addressed protocol handles =>
      have memory : parsed.memory = host.memory := by rw [accessed]
      have long := addressed.long
      rw [ethHeaderSize, ipHeaderSize] at long
      have inside : frame ≤ frame + 34 := Nat.le_add_right _ _
      refine accessed.contained.trans (icmpReceive_contained inside (by omega) (fun answers => ?_) handles)
      rw [Host.icmpAnswers, memory] at answers
      rw [accessed.reaches]
      exact known addressed (Or.inl ⟨protocol, answers⟩)
  | tcp parsed _ accessed addressed protocol handles =>
      refine accessed.contained.trans (tcpReceive_contained (fun answers => ?_) handles)
      have same : parsed.tcpAnswers (frame + 34) (host.payloadLen (frame + 14)) (host.senderIp frame) =
          host.tcpAnswers (frame + 34) (host.payloadLen (frame + 14)) (host.senderIp frame) := by
        rw [accessed]
        rfl
      rw [accessed.reaches]
      exact known addressed (Or.inr ⟨protocol, same.symm.trans answers⟩)

/-- What was passed to the callback is not taken back. -/
def Adds (before after : Host) : Prop := before.receiver.delivered.length ≤ after.receiver.delivered.length

theorem adds_of_eq (same : after.receiver.delivered = before.receiver.delivered) : Adds before after :=
  Nat.le_of_eq (congrArg List.length same.symm)

theorem Contained.adds (contained : Contained start count before after) : Adds before after :=
  adds_of_eq (congrArg Receiver.delivered contained.receiver)

/-- Every poll that returns adds to what was passed to the callback. -/
def AddsAll (poll : Host → Option Host) : Prop := ∀ before after, poll before = some after → Adds before after

theorem AddsAll.absorbs (adds : AddsAll poll) : Absorbs poll Adds := by
  refine ⟨Nat.le_trans, fun polls => adds _ _ polls, fun transmits => ?_⟩
  rw [transmits]
  exact Nat.le_refl _

/-- Before the frame was handled, the driver was polled. -/
def Waited (poll : Host → Option Host) (start count : Nat) (before after : Host) : Prop :=
  ∃ asked polled, Contained start count before asked ∧ poll asked = some polled ∧ Adds polled after

theorem Waited.preceded (waited : Waited poll start count middle after) (contained : Contained start count before middle) :
    Waited poll start count before after := by
  obtain ⟨asked, polled, further, polls, rest⟩ := waited
  exact ⟨asked, polled, contained.trans further, polls, rest⟩

theorem Waited.followed {final : Host} (waited : Waited poll start count before after) (adds : Adds after final) :
    Waited poll start count before final := by
  obtain ⟨asked, polled, contained, polls, rest⟩ := waited
  exact ⟨asked, polled, contained, polls, Nat.le_trans rest adds⟩

theorem Waited.adds (waited : Waited poll start count before after) (adds : AddsAll poll) : Adds before after := by
  obtain ⟨asked, polled, contained, polls, rest⟩ := waited
  exact Nat.le_trans contained.adds (Nat.le_trans (adds _ _ polls) rest)

theorem ipSend_waited {dstIp protocol : Nat} {payload : List UInt8} (adds : AddsAll poll)
    (unknown : host.reaches dstIp = false) (done : host.ipSend poll dstIp protocol payload = some after) :
    Waited poll start count host after := by
  obtain ⟨asked, polled, transmits, polls, rest⟩ := adds.absorbs.ipSend_polls unknown done
  exact ⟨asked, polled, transmits.contained, polls, rest⟩

theorem tcpSendPacket_waited {content : TcpConnection} {flags : Nat} {data : List UInt8} (adds : AddsAll poll)
    (done : (host.setConn conn content).tcpSendPacket poll conn flags data = some after)
    (same : content.remoteIp = (host.conns conn).remoteIp) (unknown : host.reaches (host.conns conn).remoteIp = false) :
    Waited poll start count host after := by
  have absent : (host.setConn conn content).reaches ((host.setConn conn content).conns conn).remoteIp = false := by
    rw [setConn_reaches, setConn_conns, if_pos rfl, same]
    exact unknown
  obtain ⟨asked, polled, transmits, polls, rest⟩ := adds.absorbs.tcpSendPacket_polls absent done
  exact ⟨asked, polled, setConn_contained.trans transmits.contained, polls, rest⟩

theorem icmpReceive_waited (adds : AddsAll poll) (inside : start ≤ packet) (fits : packet + 4 ≤ start + count)
    (answers : host.icmpAnswers packet length = true) (unknown : host.reaches srcIp = false)
    (done : host.icmpReceive poll packet length srcIp = some after) : Waited poll start count host after := by
  rw [Host.icmpAnswers, Bool.and_eq_true, decide_eq_true_eq, decide_eq_true_eq] at answers
  simp only [Host.icmpReceive, touch_memory] at done
  rw [if_neg (Nat.not_lt.mpr answers.1), if_pos answers.2] at done
  have absent : ((host.touch packet 1).icmpAnswer packet length).reaches srcIp = false := by
    rw [icmpAnswer_reaches, touch_accessed.reaches]
    exact unknown
  exact (ipSend_waited adds absent done).preceded (touch_accessed.contained.trans (icmpAnswer_contained inside fits))

theorem tcpEstablish_waited (adds : AddsAll poll)
    (answers : (Host.hasFlag segment.flags tcpFlagSyn && Host.hasFlag segment.flags tcpFlagAck) = true)
    (unknown : host.reaches (host.conns conn).remoteIp = false)
    (done : host.tcpEstablish poll conn segment = some after) : Waited poll start count host after := by
  rw [Host.tcpEstablish, if_pos answers] at done
  exact tcpSendPacket_waited adds done rfl unknown

theorem tcpFinish_waited (adds : AddsAll poll) (answers : Host.hasFlag segment.flags tcpFlagFin = true)
    (unknown : host.reaches (host.conns conn).remoteIp = false)
    (done : host.tcpFinish poll conn segment = some after) : Waited poll start count host after := by
  rw [Host.tcpFinish, if_pos answers] at done
  obtain ⟨sent, sends, rfl⟩ := Option.map_eq_some_iff.mp done
  have waited : Waited poll start count host sent := tcpSendPacket_waited adds sends rfl unknown
  exact waited.followed (adds_of_eq rfl)

theorem tcpFinish_adds (adds : AddsAll poll) (done : host.tcpFinish poll conn segment = some after) :
    Adds host after := by
  have reaches : (Host.hasFlag segment.flags tcpFlagFin = true → host.reaches (host.conns conn).remoteIp = true) ∨
      Host.hasFlag segment.flags tcpFlagFin = true ∧ host.reaches (host.conns conn).remoteIp = false := by
    cases host.reaches (host.conns conn).remoteIp with
    | true => exact Or.inl fun _ => rfl
    | false =>
        cases Host.hasFlag segment.flags tcpFlagFin with
        | true => exact Or.inr ⟨rfl, rfl⟩
        | false => exact Or.inl nofun
  rcases reaches with reached | ⟨answers, unknown⟩
  · have contained : Contained 0 0 host after := tcpFinish_contained reached done
    exact contained.adds
  · have waited : Waited poll 0 0 host after := tcpFinish_waited adds answers unknown done
    exact waited.adds adds

theorem tcpStore_waited (adds : AddsAll poll) (answers : 0 < Host.dataLen segment length)
    (unknown : host.reaches (host.conns conn).remoteIp = false)
    (done : host.tcpStore poll conn segment packet length = some after) : Waited poll start count host after := by
  obtain ⟨parsed, accessed, same⟩ :
      ∃ parsed, Accessed host parsed ∧ host.tcpStore poll conn segment packet length = _ := tcpStore_eq answers
  rw [same] at done
  have conns : parsed.conns = host.conns := by rw [accessed]
  have sameIp : (host.stored conn segment packet length).remoteIp = (parsed.conns conn).remoteIp := by
    rw [conns, stored_remoteIp]
  have absent : parsed.reaches (parsed.conns conn).remoteIp = false := by
    rw [accessed.reaches, conns]
    exact unknown
  have waited : Waited poll start count parsed after := tcpSendPacket_waited adds done sameIp absent
  exact waited.preceded accessed.contained

theorem tcpAnswers_forActive (answers : host.tcpAnswers packet length srcIp = true) :
    ForActive host packet length srcIp ∧
      Host.segmentAnswers (host.loadSegment packet) length (host.conns host.activeConn).state = true := by
  simp only [Host.tcpAnswers, Bool.and_eq_true, decide_eq_true_eq] at answers
  obtain ⟨⟨⟨long, nonNull⟩, addressed⟩, answers⟩ := answers
  exact ⟨⟨long, nonNull, addressed⟩, answers⟩

theorem tcpReceive_waited (adds : AddsAll poll) (answers : host.tcpAnswers packet length srcIp = true)
    (unknown : host.reaches srcIp = false)
    (done : host.tcpReceive poll packet length srcIp = some after) : Waited poll start count host after := by
  obtain ⟨isActive, answers⟩ := tcpAnswers_forActive answers
  rw [← isActive.sender] at unknown
  cases tcpReceive_handled done with
  | ignored _ accessed reason =>
      rcases reason with apart | other
      · exact absurd isActive apart
      · cases state : (host.conns host.activeConn).state with
        | synSent => exact absurd state other.1
        | established => exact absurd state other.2
        | closed | finWait | closeWait =>
            rw [state] at answers
            cases answers
  | answered parsed _ accessed forActive synSent establishes =>
      have absent : parsed.reaches (parsed.conns parsed.activeConn).remoteIp = false := by
        rw [accessed]
        exact unknown
      rw [synSent] at answers
      exact (tcpEstablish_waited adds answers absent establishes).preceded accessed.contained
  | continued parsed stored _ accessed forActive established stores finishes =>
      have absent : parsed.reaches (parsed.conns parsed.activeConn).remoteIp = false := by
        rw [accessed]
        exact unknown
      rw [established, Host.segmentAnswers, Bool.or_eq_true, decide_eq_true_iff] at answers
      by_cases data : 0 < Host.dataLen (host.loadSegment packet) length
      · have waited : Waited poll start count parsed stored := tcpStore_waited adds data absent stores
        exact (waited.followed (tcpFinish_adds adds finishes)).preceded accessed.contained
      · obtain ⟨contained, kept⟩ := tcpStore_contained (fun some => absurd some data) stores
        have still : stored.reaches (stored.conns stored.activeConn).remoteIp = false := by
          rw [kept.activeConn, kept.conns, stored_remoteIp, kept.reaches]
          exact absent
        have waited : Waited poll start count stored after :=
          tcpFinish_waited adds (answers.resolve_left data) still finishes
        exact waited.preceded (accessed.contained.trans contained)

/-- A packet to this host goes to the receiver of its protocol. -/
theorem receive_addressed (addressed : Addressed host frame frameLen) : ∃ parsed, Accessed host parsed ∧
    host.receive poll frame frameLen =
      if (host.memory.loadByte (frame + 23)).toNat = ipProtoIcmp then
        parsed.icmpReceive poll (frame + 34) (host.payloadLen (frame + 14)) (host.senderIp frame)
      else if (host.memory.loadByte (frame + 23)).toNat = ipProtoTcp then
        parsed.tcpReceive poll (frame + 34) (host.payloadLen (frame + 14)) (host.senderIp frame)
      else some parsed := by
  have long := addressed.long
  have ethLong : ¬ frameLen < ethHeaderSize := by omega
  have ipLong : ¬ frameLen - ethHeaderSize < ipHeaderSize := by omega
  have notArp : swap16 (host.memory.load16 (frame + 12)) ≠ ethTypeArp := by
    rw [addressed.type]
    decide
  have toUs : ¬ host.memory.loadWord (frame + ethHeaderSize + 16) ≠ host.localIp := not_not.mpr addressed.dstIp
  simp only [Host.receive, Host.ethernetReceive, Host.ipReceive, touch_memory, touch_localIp]
  rw [if_neg ethLong, if_neg notArp, if_pos addressed.type, if_neg ipLong, if_neg toUs]
  refine ⟨_, ?_, rfl⟩
  exact (((touch_accessed.trans touch_accessed).trans touch_accessed).trans touch_accessed).trans touch_accessed

/-- An answer whose next hop is not known is waited for. -/
theorem receive_waited (adds : AddsAll poll) (answers : host.answers frame frameLen = true)
    (unknown : host.reaches (host.senderIp frame) = false)
    (done : host.receive poll frame frameLen = some after) : Waited poll frame (frameLen + 4) host after := by
  simp only [Host.answers, Bool.and_eq_true, Bool.or_eq_true, decide_eq_true_eq] at answers
  obtain ⟨⟨⟨long, type⟩, dstIp⟩, answers⟩ := answers
  have addressed : Addressed host frame frameLen := ⟨long, type, dstIp⟩
  obtain ⟨parsed, accessed, same⟩ : ∃ parsed, Accessed host parsed ∧ host.receive poll frame frameLen = _ :=
    receive_addressed addressed
  rw [same] at done
  have absent : parsed.reaches (host.senderIp frame) = false := by
    rw [accessed.reaches]
    exact unknown
  rw [ethHeaderSize, ipHeaderSize] at long
  rcases answers with ⟨isIcmp, answers⟩ | ⟨isTcp, answers⟩
  · rw [if_pos isIcmp] at done
    have kept : parsed.icmpAnswers (frame + 34) (host.payloadLen (frame + 14)) = true := by
      rw [accessed]
      exact answers
    have waited : Waited poll frame (frameLen + 4) parsed after :=
      icmpReceive_waited adds (Nat.le_add_right _ _) (by omega) kept absent done
    exact waited.preceded accessed.contained
  · have notIcmp : (host.memory.loadByte (frame + 23)).toNat ≠ ipProtoIcmp := by
      rw [isTcp]
      decide
    rw [if_neg notIcmp, if_pos isTcp] at done
    have kept : parsed.tcpAnswers (frame + 34) (host.payloadLen (frame + 14)) (host.senderIp frame) = true := by
      rw [accessed]
      exact answers
    exact (tcpReceive_waited adds kept absent done).preceded accessed.contained

/-- What is passed to the callback stays so, whether the answer is waited for or not. -/
theorem receive_adds (adds : AddsAll poll) (done : host.receive poll frame frameLen = some after) : Adds host after := by
  cases answers : host.answers frame frameLen with
  | false =>
      have reached : host.answers frame frameLen = true → host.reaches (host.senderIp frame) = true := by
        rw [answers]
        exact nofun
      exact (receive_contained reached done).adds
  | true =>
      cases reaches : host.reaches (host.senderIp frame) with
      | true => exact (receive_contained (fun _ => reaches) done).adds
      | false => exact (receive_waited adds answers reaches done).adds adds

theorem pollReceive_adds : AddsAll (Host.pollReceive depth) := by
  induction depth with
  | zero => exact nofun
  | succ depth ih =>
      intro before after done
      have same : before.arrive.receiver.delivered = before.receiver.delivered := by rw [arrive_arrived]
      have arrived : Adds before before.arrive := adds_of_eq same
      refine Nat.le_trans arrived ?_
      cases pollWith_polled done with
      | idle nothing => exact Nat.le_refl _
      | reset corrupt => exact Nat.le_refl _
      | skipped unusable => exact Nat.le_refl _
      | delivered handled waiting handles =>
          have called : Adds before.arrive before.arrive.called := by
            rw [Adds, Host.called, List.length_append]
            exact Nat.le_add_right _ _
          have further : Adds before.arrive.called handled := receive_adds ih handles
          exact Nat.le_trans called further

end AutismOS.Network
