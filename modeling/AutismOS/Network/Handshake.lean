import AutismOS.Network.Evolution

namespace AutismOS.Network

open AutismOS.Library

variable {host after : Host} {packet length srcIp conn depth : Nat}

/-! The answer to a SYN. -/

/-- The segment is the peer's answer to the SYN of the connection. -/
structure Genuine (host : Host) (conn packet length srcIp : Nat) : Prop where
  long : tcpHeaderSize ≤ length
  remoteIp : srcIp = (host.conns conn).remoteIp
  remotePort : (host.loadSegment packet).srcPort = (host.conns conn).remotePort
  syn : Host.hasFlag (host.loadSegment packet).flags tcpFlagSyn = true
  ack : Host.hasFlag (host.loadSegment packet).flags tcpFlagAck = true
  noReset : Host.hasFlag (host.loadSegment packet).flags tcpFlagRst = false
  acknowledges : (host.loadSegment packet).ack = (host.conns conn).seqNum

/-- Only a genuine answer moves the connection on, and nothing else changes it. -/
def HandshakeSafe (host : Host) (conn packet length srcIp : Nat) (after : Host) : Prop :=
  ((after.conns conn).state = .established → Genuine host conn packet length srcIp) ∧
    (¬ Genuine host conn packet length srcIp → after.conns conn = host.conns conn)

/-- A segment from the peer to the active connection with SYN and ACK, but a reset or with another
acknowledgement number. -/
structure Forged (host : Host) (conn packet length srcIp : Nat) : Prop where
  isActive : conn = host.activeConn
  long : tcpHeaderSize ≤ length
  addressed : host.addressed conn (host.loadSegment packet) srcIp = true
  syn : Host.hasFlag (host.loadSegment packet).flags tcpFlagSyn = true
  ack : Host.hasFlag (host.loadSegment packet).flags tcpFlagAck = true
  wrong : Host.hasFlag (host.loadSegment packet).flags tcpFlagRst = true ∨
    (host.loadSegment packet).ack ≠ (host.conns conn).seqNum

theorem Forged.not_genuine (forged : Forged host conn packet length srcIp) :
    ¬ Genuine host conn packet length srcIp := by
  intro genuine
  rcases forged.wrong with reset | other
  · rw [genuine.noReset] at reset
    cases reset
  · exact other genuine.acknowledges

theorem handshakeSafe_of_eq (synSent : (host.conns conn).state = .synSent) (same : after.conns conn = host.conns conn) :
    HandshakeSafe host conn packet length srcIp after := by
  refine ⟨fun established => ?_, fun _ => same⟩
  rw [same, synSent] at established
  cases established

theorem handshakeSafe_of_genuine (genuine : Genuine host conn packet length srcIp) :
    HandshakeSafe host conn packet length srcIp after :=
  ⟨fun _ => genuine, fun not => absurd genuine not⟩

/-- What the code takes for an answer is genuine or forged. -/
theorem genuine_or_forged (isActive : conn = host.activeConn) (long : tcpHeaderSize ≤ length)
    (addressed : host.addressed conn (host.loadSegment packet) srcIp = true)
    (syn : Host.hasFlag (host.loadSegment packet).flags tcpFlagSyn = true)
    (ack : Host.hasFlag (host.loadSegment packet).flags tcpFlagAck = true) :
    Genuine host conn packet length srcIp ∨ Forged host conn packet length srcIp := by
  have fields := addressed
  simp only [Host.addressed, Bool.and_eq_true, decide_eq_true_eq] at fields
  cases reset : Host.hasFlag (host.loadSegment packet).flags tcpFlagRst with
  | true => exact Or.inr ⟨isActive, long, addressed, syn, ack, Or.inl reset⟩
  | false =>
      by_cases acknowledges : (host.loadSegment packet).ack = (host.conns conn).seqNum
      · exact Or.inl ⟨long, fields.1.1, fields.1.2, syn, ack, reset, acknowledges⟩
      · exact Or.inr ⟨isActive, long, addressed, syn, ack, Or.inr acknowledges⟩

/-- The connection is moved on exactly by SYN and ACK, and does not wait for the answer again. -/
theorem tcpEstablish_unchanged_iff {segment : Host.Segment} (synSent : (host.conns conn).state = .synSent)
    (done : host.tcpEstablish (Host.pollReceive depth) conn segment = some after) :
    after.conns conn = host.conns conn ↔
      ¬ (Host.hasFlag segment.flags tcpFlagSyn = true ∧ Host.hasFlag segment.flags tcpFlagAck = true) := by
  rw [Host.tcpEstablish] at done
  rw [← Bool.and_eq_true_iff]
  cases answers : Host.hasFlag segment.flags tcpFlagSyn && Host.hasFlag segment.flags tcpFlagAck with
  | false =>
      rw [answers] at done
      cases done
      exact iff_of_true rfl Bool.false_ne_true
  | true =>
      rw [answers] at done
      refine iff_of_false (fun same => ?_) (not_not.mpr rfl)
      have evolved := pollReceive_evolves.absorbs.tcpSendPacket done
      have before := evolved.state conn ((congrArg TcpConnection.state same).trans synSent)
      rw [setConn_conns, if_pos rfl] at before
      cases before

/-- A connection that waits for the answer to its SYN is handled safely exactly where the segment
is not forged. -/
theorem tcpReceive_handshake_iff (nonNull : conn ≠ 0) (synSent : (host.conns conn).state = .synSent)
    (done : host.tcpReceive (Host.pollReceive depth) packet length srcIp = some after) :
    HandshakeSafe host conn packet length srcIp after ↔ ¬ Forged host conn packet length srcIp := by
  by_cases isActive : conn = host.activeConn
  · cases tcpReceive_handled done with
    | ignored _ accessed reason =>
        have same : after.conns = host.conns := by rw [accessed]
        refine iff_of_true (handshakeSafe_of_eq synSent (congrFun same conn)) fun forged => ?_
        rcases reason with apart | other
        · refine apart ⟨forged.long, ?_, ?_⟩
          · rw [← isActive]
            exact nonNull
          · rw [← isActive]
            exact forged.addressed
        · rw [isActive] at synSent
          exact other.1 synSent
    | answered parsed _ accessed forActive _ establishes =>
        have same : parsed.conns = host.conns := by rw [accessed]
        have active : parsed.activeConn = conn := by
          rw [accessed]
          exact isActive.symm
        have addressed : host.addressed conn (host.loadSegment packet) srcIp = true := by
          rw [isActive]
          exact forActive.addressed
        have waiting : (parsed.conns conn).state = .synSent := by
          rw [same]
          exact synSent
        rw [active] at establishes
        have unchanged := tcpEstablish_unchanged_iff waiting establishes
        by_cases answers : Host.hasFlag (host.loadSegment packet).flags tcpFlagSyn = true ∧
            Host.hasFlag (host.loadSegment packet).flags tcpFlagAck = true
        · have moved : after.conns conn ≠ host.conns conn := fun equal =>
            unchanged.mp (equal.trans (congrFun same conn).symm) answers
          rcases genuine_or_forged isActive forActive.long addressed answers.1 answers.2 with genuine | forged
          · exact iff_of_true (handshakeSafe_of_genuine genuine) fun forged => forged.not_genuine genuine
          · exact iff_of_false (fun safe => moved (safe.2 forged.not_genuine)) (not_not.mpr forged)
        · refine iff_of_true (handshakeSafe_of_eq synSent ?_) fun forged => answers ⟨forged.syn, forged.ack⟩
          exact (unchanged.mpr answers).trans (congrFun same conn)
    | continued parsed stored _ accessed forActive established stores finishes =>
        rw [← isActive, synSent] at established
        cases established
  · refine iff_of_true (handshakeSafe_of_eq synSent ?_) fun forged => isActive forged.isActive
    exact (tcpReceive_evolved pollReceive_evolves done).others conn isActive

/-- A connection of which only the SYN was sent. -/
def waitingHost : Host :=
  { connectedHost with conns := fun conn => { connectedHost.conns conn with state := .synSent } }

theorem tcpReceive_handshake_genuine :
    ∃ after, (waitingHost.withFrame 0x200000 (tcpSegment 5000 1001 0x12)).tcpReceive (Host.pollReceive 1) 0x200000 20
        0x0302000A = some after ∧
      (HandshakeSafe (waitingHost.withFrame 0x200000 (tcpSegment 5000 1001 0x12)) 0x300000 0x200000 20 0x0302000A after ↔
        ¬ Forged (waitingHost.withFrame 0x200000 (tcpSegment 5000 1001 0x12)) 0x300000 0x200000 20 0x0302000A) := by
  have returns : ((waitingHost.withFrame 0x200000 (tcpSegment 5000 1001 0x12)).tcpReceive (Host.pollReceive 1) 0x200000 20
      0x0302000A).isSome = true := by decide +kernel
  obtain ⟨after, done⟩ := Option.isSome_iff_exists.mp returns
  exact ⟨after, done, tcpReceive_handshake_iff (by decide) rfl done⟩

/-- A reset with a wrong acknowledgement number establishes the connection. -/
theorem tcpReceive_accepts_reset :
    ∃ after, (waitingHost.withFrame 0x200000 (tcpSegment 5000 7 0x16)).tcpReceive (Host.pollReceive 1) 0x200000 20
        0x0302000A = some after ∧
      ¬ HandshakeSafe (waitingHost.withFrame 0x200000 (tcpSegment 5000 7 0x16)) 0x300000 0x200000 20 0x0302000A after := by
  have moves : ((waitingHost.withFrame 0x200000 (tcpSegment 5000 7 0x16)).tcpReceive (Host.pollReceive 1) 0x200000 20
      0x0302000A).any (fun after => (after.conns 0x300000).state = .established) = true := by decide +kernel
  obtain ⟨after, done, established⟩ := (Option.any_eq_true _ _).mp moves
  refine ⟨after, done, fun safe => ?_⟩
  have genuine := safe.1 (of_decide_eq_true established)
  exact absurd genuine.noReset (by decide +kernel)

end AutismOS.Network
