import AutismOS.Network.Answers

namespace AutismOS.Network

open AutismOS.Library

variable {host before after : Host} {poll : Host → Option Host} {segment : Host.Segment}
variable {packet length srcIp conn frame frameLen depth : Nat}

/-! Segments for an established connection. -/

/-- A frame waits that is passed to the callback. -/
structure Reads (host : Host) : Prop where
  card : ¬ (host.ioBase = 0 ∨ host.rxBuffer = 0)
  waiting : host.bufferEmpty = false
  intact : ¬ (host.rxLen < 4 ∨ rxBufSize < host.rxLen)
  usable : host.rxStatus % 2 = 1 ∧ 4 < host.rxLen

/-- The frame holds a segment for the active connection, which is established. -/
structure Takes (host : Host) (frame frameLen : Nat) : Prop where
  addressed : Addressed host frame frameLen
  protocol : (host.memory.loadByte (frame + 23)).toNat = ipProtoTcp
  forActive : ForActive host (frame + 34) (host.payloadLen (frame + 14)) (host.senderIp frame)
  established : (host.conns host.activeConn).state = .established

instance (host : Host) : Decidable (Reads host) :=
  decidable_of_iff
    (¬ (host.ioBase = 0 ∨ host.rxBuffer = 0) ∧ host.bufferEmpty = false ∧ ¬ (host.rxLen < 4 ∨ rxBufSize < host.rxLen) ∧
      host.rxStatus % 2 = 1 ∧ 4 < host.rxLen)
    ⟨fun all => ⟨all.1, all.2.1, all.2.2.1, all.2.2.2⟩,
      fun reads => ⟨reads.card, reads.waiting, reads.intact, reads.usable⟩⟩

instance (host : Host) (frame frameLen : Nat) : Decidable (Addressed host frame frameLen) :=
  decidable_of_iff
    (ethHeaderSize + ipHeaderSize ≤ frameLen ∧ swap16 (host.memory.load16 (frame + 12)) = ethTypeIp ∧
      host.memory.loadWord (frame + 30) = host.localIp)
    ⟨fun all => ⟨all.1, all.2.1, all.2.2⟩, fun addressed => ⟨addressed.long, addressed.type, addressed.dstIp⟩⟩

instance (host : Host) (packet length srcIp : Nat) : Decidable (ForActive host packet length srcIp) :=
  decidable_of_iff
    (tcpHeaderSize ≤ length ∧ host.activeConn ≠ 0 ∧
      host.addressed host.activeConn (host.loadSegment packet) srcIp = true)
    ⟨fun all => ⟨all.1, all.2.1, all.2.2⟩, fun forActive => ⟨forActive.long, forActive.nonNull, forActive.addressed⟩⟩

instance (host : Host) (frame frameLen : Nat) : Decidable (Takes host frame frameLen) :=
  decidable_of_iff
    (Addressed host frame frameLen ∧ (host.memory.loadByte (frame + 23)).toNat = ipProtoTcp ∧
      ForActive host (frame + 34) (host.payloadLen (frame + 14)) (host.senderIp frame) ∧
        (host.conns host.activeConn).state = .established)
    ⟨fun all => ⟨all.1, all.2.1, all.2.2.1, all.2.2.2⟩,
      fun takes => ⟨takes.addressed, takes.protocol, takes.forActive, takes.established⟩⟩

/-- The connection after `TCP_ESTABLISHED` was gone through for a segment. -/
def Host.taken (host : Host) (packet length : Nat) : TcpConnection :=
  let segment := host.loadSegment packet
  let stored := host.stored host.activeConn segment packet length
  if Host.hasFlag segment.flags tcpFlagFin then { stored with ackNum := add32 segment.seq 1, state := .closed }
  else stored

theorem pollWith_reads {receive : Nat → Nat → Host → Option Host} (reads : Reads host.arrive) :
    host.pollWith receive =
      (receive host.arrive.pkt (host.arrive.rxLen - 4) host.arrive.called).map fun handled =>
        (host.arrive.resumed handled).advance host.arrive.rxLen := by
  rw [pollWith_eq, if_neg reads.card, if_neg (ne_true_of_eq_false reads.waiting), if_neg reads.intact,
    if_pos reads.usable]

/-- Without a frame to pass on, the ring may be moved on at most. -/
theorem pollWith_lacks {receive : Nat → Nat → Host → Option Host} (lacks : ¬ Reads host.arrive)
    (done : host.pollWith receive = some after) :
    after = host.arrive ∨ ∃ rxOffset, after = host.arrive.setRxOffset rxOffset := by
  rw [pollWith_eq] at done
  by_cases absent : host.arrive.ioBase = 0 ∨ host.arrive.rxBuffer = 0
  · rw [if_pos absent] at done
    exact Or.inl (Option.some.inj done).symm
  rw [if_neg absent] at done
  by_cases empty : host.arrive.bufferEmpty = true
  · rw [if_pos empty] at done
    exact Or.inl (Option.some.inj done).symm
  rw [if_neg empty] at done
  by_cases corrupt : host.arrive.rxLen < 4 ∨ rxBufSize < host.arrive.rxLen
  · rw [if_pos corrupt] at done
    exact Or.inr ⟨_, (Option.some.inj done).symm⟩
  rw [if_neg corrupt] at done
  by_cases usable : host.arrive.rxStatus % 2 = 1 ∧ 4 < host.arrive.rxLen
  · exact absurd ⟨absent, eq_false_of_ne_true empty, corrupt, usable⟩ lacks
  · rw [if_neg usable] at done
    exact Or.inr ⟨_, (Option.some.inj done).symm⟩

/-- Of the connections, and of which of them is active, nothing is changed. -/
def Spares (before after : Host) : Prop := after.conns = before.conns ∧ after.activeConn = before.activeConn

theorem pollWith_spares {receive : Nat → Nat → Host → Option Host} (lacks : ¬ Reads host.arrive)
    (done : host.pollWith receive = some after) : Spares host.arrive after := by
  rcases pollWith_lacks lacks done with rfl | ⟨rxOffset, rfl⟩
  · exact ⟨rfl, rfl⟩
  · exact ⟨rfl, rfl⟩

theorem Spares.trans {middle : Host} (first : Spares before middle) (second : Spares middle after) : Spares before after :=
  ⟨second.1.trans first.1, second.2.trans first.2⟩

theorem Transmits.spares (transmits : Transmits before after) : Spares before after := by
  rw [transmits]
  exact ⟨rfl, rfl⟩

theorem Accessed.spares (accessed : Accessed before after) : Spares before after := by
  rw [accessed]
  exact ⟨rfl, rfl⟩

theorem Resolves.spares (resolves : Resolves before after) : Spares before after := by
  rw [resolves]
  exact ⟨rfl, rfl⟩

theorem icmpReceive_spares (reached : host.icmpAnswers packet length = true → host.reaches srcIp = true)
    (done : host.icmpReceive poll packet length srcIp = some after) : Spares host after := by
  obtain ⟨parsed, accessed, outcome⟩ := icmpReceive_reached reached done
  refine accessed.spares.trans ?_
  rcases outcome with rfl | ⟨echoState, rfl⟩ | transmits
  · exact ⟨rfl, rfl⟩
  · exact ⟨rfl, rfl⟩
  · have answered : Accessed parsed (((parsed.touch packet 1).touch (packet + 2) 2).touch packet length) :=
      (touch_accessed.trans touch_accessed).trans touch_accessed
    have spares : Spares parsed (parsed.icmpAnswer packet length) := answered.spares
    exact spares.trans transmits.spares

/-- The end of the stream closes the connection. -/
theorem tcpFinish_reached
    (reached : Host.hasFlag segment.flags tcpFlagFin = true → host.reaches (host.conns conn).remoteIp = true)
    (done : host.tcpFinish poll conn segment = some after) :
    after.activeConn = host.activeConn ∧ after.conns conn =
      if Host.hasFlag segment.flags tcpFlagFin then
        { host.conns conn with ackNum := add32 segment.seq 1, state := .closed }
      else host.conns conn := by
  rw [Host.tcpFinish] at done
  by_cases answers : Host.hasFlag segment.flags tcpFlagFin = true
  · rw [if_pos answers] at done
    rw [if_pos answers]
    obtain ⟨sent, sends, rfl⟩ := Option.map_eq_some_iff.mp done
    have told := (tcpSendPacket_reached sends rfl (reached answers)).spares
    refine ⟨told.2, ?_⟩
    rw [setConn_conns, if_pos rfl, told.1, setConn_conns, if_pos rfl]
  · rw [if_neg answers] at done
    cases done
    rw [if_neg answers]
    exact ⟨rfl, rfl⟩

theorem Takes.answers (takes : Takes host frame frameLen)
    (answers : 0 < Host.dataLen (host.loadSegment (frame + 34)) (host.payloadLen (frame + 14)) ∨
      Host.hasFlag (host.loadSegment (frame + 34)).flags tcpFlagFin = true) :
    host.answers frame frameLen = true := by
  have segmentAnswers : Host.segmentAnswers (host.loadSegment (frame + 34)) (host.payloadLen (frame + 14))
      (host.conns host.activeConn).state = true := by
    rw [takes.established, Host.segmentAnswers, Bool.or_eq_true, decide_eq_true_iff]
    exact answers
  have tcpAnswers : host.tcpAnswers (frame + 34) (host.payloadLen (frame + 14)) (host.senderIp frame) = true := by
    rw [Host.tcpAnswers, decide_eq_true takes.forActive.long, decide_eq_true takes.forActive.nonNull,
      takes.forActive.addressed, segmentAnswers]
    rfl
  simp only [Host.answers, Bool.and_eq_true, Bool.or_eq_true, decide_eq_true_eq]
  exact ⟨⟨⟨takes.addressed.long, takes.addressed.type⟩, takes.addressed.dstIp⟩, Or.inr ⟨takes.protocol, tcpAnswers⟩⟩

theorem Accessed.forActive_iff (accessed : Accessed before after) :
    ForActive after packet length srcIp ↔ ForActive before packet length srcIp := by
  have active : after.activeConn = before.activeConn := by rw [accessed]
  have addressed : after.addressed before.activeConn (after.loadSegment packet) srcIp =
      before.addressed before.activeConn (before.loadSegment packet) srcIp := by
    rw [accessed]
    rfl
  constructor
  · intro forActive
    have nonNull := forActive.nonNull
    have fits := forActive.addressed
    rw [active] at nonNull fits
    exact ⟨forActive.long, nonNull, addressed.symm.trans fits⟩
  · intro forActive
    refine ⟨forActive.long, ?_, ?_⟩
    · rw [active]
      exact forActive.nonNull
    · rw [active, addressed]
      exact forActive.addressed

theorem tcpReceive_takes (forActive : ForActive host packet length srcIp)
    (established : (host.conns host.activeConn).state = .established)
    (reached : 0 < Host.dataLen (host.loadSegment packet) length ∨
      Host.hasFlag (host.loadSegment packet).flags tcpFlagFin = true → host.reaches srcIp = true)
    (done : host.tcpReceive poll packet length srcIp = some after) :
    after.activeConn = host.activeConn ∧ after.conns host.activeConn = host.taken packet length := by
  obtain ⟨parsed, stored, accessed, stores, finishes⟩ := tcpReceive_continued forActive established done
  have conns : parsed.conns = host.conns := by rw [accessed]
  have active : parsed.activeConn = host.activeConn := by rw [accessed]
  have told (answers : 0 < Host.dataLen (host.loadSegment packet) length ∨
      Host.hasFlag (host.loadSegment packet).flags tcpFlagFin = true) :
      parsed.reaches (parsed.conns parsed.activeConn).remoteIp = true := by
    rw [accessed.reaches, conns, active, forActive.sender]
    exact reached answers
  obtain ⟨_, kept⟩ : Contained 0 0 parsed stored ∧ Stored parsed.activeConn _ parsed stored :=
    tcpStore_contained (fun data => told (Or.inl data)) stores
  have finished := tcpFinish_reached (fun fin => ?_) finishes
  · have same : parsed.stored host.activeConn (host.loadSegment packet) packet length =
        host.stored host.activeConn (host.loadSegment packet) packet length := by
      rw [accessed]
      rfl
    rw [kept.activeConn, kept.conns, active] at finished
    refine ⟨finished.1, finished.2.trans ?_⟩
    rw [same]
    rfl
  · rw [kept.activeConn, kept.conns, stored_remoteIp, kept.reaches]
    exact told (Or.inr fin)

theorem receive_takes (takes : Takes host frame frameLen)
    (reached : host.answers frame frameLen = true → host.reaches (host.senderIp frame) = true)
    (done : host.receive poll frame frameLen = some after) :
    after.activeConn = host.activeConn ∧
      after.conns host.activeConn = host.taken (frame + 34) (host.payloadLen (frame + 14)) := by
  obtain ⟨parsed, accessed, same⟩ : ∃ parsed, Accessed host parsed ∧ host.receive poll frame frameLen = _ :=
    receive_addressed takes.addressed
  have notIcmp : (host.memory.loadByte (frame + 23)).toNat ≠ ipProtoIcmp := by
    rw [takes.protocol]
    decide
  rw [same, if_neg notIcmp, if_pos takes.protocol] at done
  have active : parsed.activeConn = host.activeConn := by rw [accessed]
  have forActive := accessed.forActive_iff.mpr takes.forActive
  have established : (parsed.conns parsed.activeConn).state = .established := by
    rw [accessed]
    exact takes.established
  have segments : parsed.loadSegment (frame + 34) = host.loadSegment (frame + 34) := by
    rw [accessed]
    rfl
  have taken : parsed.taken (frame + 34) (host.payloadLen (frame + 14)) =
      host.taken (frame + 34) (host.payloadLen (frame + 14)) := by
    rw [accessed]
    rfl
  have outcome := tcpReceive_takes forActive established (fun answers => ?_) done
  · rw [active, taken] at outcome
    exact outcome
  · rw [segments] at answers
    rw [accessed.reaches]
    exact reached (takes.answers answers)

/-- Other frames that need no wait leave the connections alone. -/
theorem receive_spares (lacks : ¬ Takes host frame frameLen) (connected : (host.conns host.activeConn).state ≠ .synSent)
    (reached : host.answers frame frameLen = true → host.reaches (host.senderIp frame) = true)
    (done : host.receive poll frame frameLen = some after) : Spares host after := by
  cases receive_dispatched done with
  | ignored _ accessed => exact accessed.spares
  | arp parsed accessed => exact accessed.spares.trans arpReceive_resolves.spares
  | icmp parsed _ accessed addressed protocol handles =>
      refine accessed.spares.trans (icmpReceive_spares (fun answers => ?_) handles)
      have same : host.icmpAnswers (frame + 34) (host.payloadLen (frame + 14)) = true := by
        rw [accessed] at answers
        exact answers
      rw [accessed.reaches]
      refine reached ?_
      simp only [Host.answers, Bool.and_eq_true, Bool.or_eq_true, decide_eq_true_eq]
      exact ⟨⟨⟨addressed.long, addressed.type⟩, addressed.dstIp⟩, Or.inl ⟨protocol, same⟩⟩
  | tcp parsed _ accessed addressed protocol handles =>
      have spares := accessed.spares
      cases tcpReceive_handled handles with
      | ignored _ further reason => exact spares.trans further.spares
      | answered again _ further forActive synSent establishes =>
          rw [spares.1, spares.2] at synSent
          exact absurd synSent connected
      | continued again stored _ further forActive established stores finishes =>
          rw [spares.1, spares.2] at established
          exact absurd ⟨addressed, protocol, accessed.forActive_iff.mp forActive, established⟩ lacks

theorem Takes.called_iff : Takes host.called frame frameLen ↔ Takes host frame frameLen := by
  constructor
  · intro takes
    exact ⟨⟨takes.addressed.long, takes.addressed.type, takes.addressed.dstIp⟩, takes.protocol,
      ⟨takes.forActive.long, takes.forActive.nonNull, takes.forActive.addressed⟩, takes.established⟩
  · intro takes
    exact ⟨⟨takes.addressed.long, takes.addressed.type, takes.addressed.dstIp⟩, takes.protocol,
      ⟨takes.forActive.long, takes.forActive.nonNull, takes.forActive.addressed⟩, takes.established⟩

theorem Arrived.spares (arrived : Arrived before after) : Spares before after := by
  rw [arrived]
  exact ⟨rfl, rfl⟩

namespace Host

variable (host : Host)

/-- A segment is read that is taken into the active connection. -/
def receives : Bool := decide (Reads host ∧ Takes host host.pkt (host.rxLen - 4))

/-- The place and the length of the TCP packet in the frame that is read. -/
def segmentAt : Nat := host.pkt + 34
def segmentLength : Nat := host.payloadLen (host.pkt + 14)

def incoming : Segment := host.loadSegment host.segmentAt

/-- The number of bytes that the segment is said to hold. -/
def incomingLen : Nat := dataLen host.incoming host.segmentLength

end Host

theorem pollReceive_takes (receives : host.arrive.receives = true) (prompt : host.arrive.prompt = true)
    (done : Host.pollReceive depth host = some after) :
    after.activeConn = host.activeConn ∧
      after.conns host.activeConn = host.arrive.taken host.arrive.segmentAt host.arrive.segmentLength := by
  obtain ⟨reads, takes⟩ := of_decide_eq_true receives
  have active : host.arrive.activeConn = host.activeConn := arrive_arrived.spares.2
  cases depth with
  | zero => cases done
  | succ depth =>
      rw [Host.pollReceive, pollWith_reads reads] at done
      obtain ⟨handled, handles, rfl⟩ := Option.map_eq_some_iff.mp done
      obtain ⟨same, conns⟩ := receive_takes (Takes.called_iff.mpr takes) (prompt_reached prompt reads.waiting) handles
      rw [← active]
      exact ⟨same, conns⟩

theorem pollReceive_spares (receives : host.arrive.receives = false) (prompt : host.arrive.prompt = true)
    (connected : (host.conns host.activeConn).state ≠ .synSent)
    (done : Host.pollReceive depth host = some after) : Spares host after := by
  have lacks : ¬ (Reads host.arrive ∧ Takes host.arrive host.arrive.pkt (host.arrive.rxLen - 4)) :=
    of_decide_eq_false receives
  have arrived : Spares host host.arrive := arrive_arrived.spares
  refine arrived.trans ?_
  cases depth with
  | zero => cases done
  | succ depth =>
      rw [Host.pollReceive] at done
      by_cases reads : Reads host.arrive
      · rw [pollWith_reads reads] at done
        obtain ⟨handled, handles, rfl⟩ := Option.map_eq_some_iff.mp done
        have notTaken : ¬ Takes host.arrive.called host.arrive.pkt (host.arrive.rxLen - 4) := fun takes =>
          lacks ⟨reads, Takes.called_iff.mp takes⟩
        have still : (host.arrive.called.conns host.arrive.called.activeConn).state ≠ .synSent := by
          have same : (host.arrive.conns host.arrive.activeConn).state ≠ .synSent := by
            rw [arrived.1, arrived.2]
            exact connected
          exact same
        have spares := receive_spares notTaken still (prompt_reached prompt reads.waiting) handles
        exact spares
      · exact pollWith_spares reads done

end AutismOS.Network
