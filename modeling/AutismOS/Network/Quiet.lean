import AutismOS.Network.Segments

namespace AutismOS.Network

open AutismOS.Library

variable {host before middle after : Host} {poll other : Host → Option Host} {segment : Host.Segment}
variable {hop dstIp protocol packet length srcIp conn flags count retry frame frameLen depth : Nat}
variable {payload bytes data : List UInt8}

/-! # One segment after another

While `ip_send` waits for an address it polls the card, and so a segment may be handled in the middle of another one.
Here the polls in between return only as long as they read no segment for the active connection.
-/

/-- `pollReceive`, unless a segment for the active connection is read. -/
def Host.quietPoll : Nat → Host → Option Host
  | 0, _ => none
  | depth + 1, host =>
      if host.arrive.receives then none
      else host.pollWith fun frame frameLen host => host.receive (quietPoll depth) frame frameLen

/-- Where the one poll returns, the other does likewise. -/
def Finer (poll other : Host → Option Host) : Prop := ∀ host after, poll host = some after → other host = some after

namespace Finer

variable (finer : Finer poll other)

include finer

theorem awaitReply {result : Bool × Host} (done : Host.awaitReply poll hop bytes count host = some result) :
    Host.awaitReply other hop bytes count host = some result := by
  induction count generalizing host with
  | zero => exact done
  | succ count ih =>
      obtain ⟨polled, polls, done⟩ := Option.bind_eq_some_iff.mp done
      refine Option.bind_eq_some_iff.mpr ⟨polled, finer _ _ polls, ?_⟩
      cases found : polled.arpLookup hop with
      | some dstMac =>
          rw [found] at done
          exact done
      | none =>
          rw [found] at done
          exact ih done

theorem sendResolved (done : Host.sendResolved poll hop bytes retry host = some after) :
    Host.sendResolved other hop bytes retry host = some after := by
  induction retry generalizing host with
  | zero => exact done
  | succ retry ih =>
      rw [Host.sendResolved] at done ⊢
      cases found : host.arpLookup hop with
      | some dstMac =>
          rw [found] at done
          exact done
      | none =>
          rw [found] at done
          obtain ⟨⟨sent, waited⟩, awaits, done⟩ := Option.bind_eq_some_iff.mp done
          refine Option.bind_eq_some_iff.mpr ⟨⟨sent, waited⟩, finer.awaitReply awaits, ?_⟩
          dsimp only at done ⊢
          cases sent with
          | true =>
              rw [if_pos rfl] at done ⊢
              exact done
          | false =>
              rw [if_neg Bool.false_ne_true] at done ⊢
              exact ih done

theorem ipSend (done : host.ipSend poll dstIp protocol payload = some after) :
    host.ipSend other dstIp protocol payload = some after :=
  finer.sendResolved done

theorem tcpSendPacket (done : host.tcpSendPacket poll conn flags data = some after) :
    host.tcpSendPacket other conn flags data = some after :=
  finer.ipSend done

theorem icmpReceive (done : host.icmpReceive poll packet length srcIp = some after) :
    host.icmpReceive other packet length srcIp = some after := by
  rw [Host.icmpReceive] at done ⊢
  split
  · rwa [if_pos (by assumption)] at done
  · rw [if_neg (by assumption)] at done
    dsimp only at done ⊢
    split
    · rw [if_pos (by assumption)] at done
      exact finer.ipSend done
    · rwa [if_neg (by assumption)] at done

theorem tcpEstablish (done : host.tcpEstablish poll conn segment = some after) :
    host.tcpEstablish other conn segment = some after := by
  rw [Host.tcpEstablish] at done ⊢
  split
  · rw [if_pos (by assumption)] at done
    exact finer.tcpSendPacket done
  · rwa [if_neg (by assumption)] at done

theorem tcpStore (done : host.tcpStore poll conn segment packet length = some after) :
    host.tcpStore other conn segment packet length = some after := by
  rw [Host.tcpStore] at done ⊢
  dsimp only at done ⊢
  split
  · rw [if_pos (by assumption)] at done
    exact finer.tcpSendPacket done
  · rwa [if_neg (by assumption)] at done

theorem tcpFinish (done : host.tcpFinish poll conn segment = some after) :
    host.tcpFinish other conn segment = some after := by
  rw [Host.tcpFinish] at done ⊢
  split
  · rw [if_pos (by assumption)] at done
    obtain ⟨sent, sends, rfl⟩ := Option.map_eq_some_iff.mp done
    exact Option.map_eq_some_iff.mpr ⟨sent, finer.tcpSendPacket sends, rfl⟩
  · rwa [if_neg (by assumption)] at done

theorem tcpReceive (done : host.tcpReceive poll packet length srcIp = some after) :
    host.tcpReceive other packet length srcIp = some after := by
  simp only [Host.tcpReceive, touch_activeConn, touch_conns, touch_addressed, touch_loadSegment] at done ⊢
  by_cases short : length < tcpHeaderSize
  · rwa [if_pos short] at done ⊢
  rw [if_neg short] at done ⊢
  by_cases inactive : host.activeConn = 0
  · rwa [if_pos inactive] at done ⊢
  rw [if_neg inactive] at done ⊢
  cases addressed : host.addressed host.activeConn (host.loadSegment packet) srcIp with
  | false =>
      rw [addressed] at done
      simp only [Bool.not_false, if_true] at done ⊢
      exact done
  | true =>
      rw [addressed] at done
      simp only [Bool.not_true, Bool.false_eq_true, if_false] at done ⊢
      cases state : (host.conns host.activeConn).state with
      | synSent =>
          rw [state] at done
          exact finer.tcpEstablish done
      | established =>
          rw [state] at done
          obtain ⟨stored, stores, finishes⟩ := Option.bind_eq_some_iff.mp done
          exact Option.bind_eq_some_iff.mpr ⟨stored, finer.tcpStore stores, finer.tcpFinish finishes⟩
      | closed | finWait | closeWait =>
          rw [state] at done
          dsimp only at done ⊢
          exact done

theorem ipReceive (done : host.ipReceive (fun packet length srcIp host => host.icmpReceive poll packet length srcIp)
      (fun packet length srcIp host => host.tcpReceive poll packet length srcIp) packet length = some after) :
    host.ipReceive (fun packet length srcIp host => host.icmpReceive other packet length srcIp)
      (fun packet length srcIp host => host.tcpReceive other packet length srcIp) packet length = some after := by
  simp only [Host.ipReceive, touch_memory, touch_localIp] at done ⊢
  by_cases short : length < ipHeaderSize
  · rwa [if_pos short] at done ⊢
  rw [if_neg short] at done ⊢
  by_cases elsewhere : host.memory.loadWord (packet + 16) ≠ host.localIp
  · rwa [if_pos elsewhere] at done ⊢
  rw [if_neg elsewhere] at done ⊢
  by_cases isIcmp : (host.memory.loadByte (packet + 9)).toNat = ipProtoIcmp
  · rw [if_pos isIcmp] at done ⊢
    exact finer.icmpReceive done
  rw [if_neg isIcmp] at done ⊢
  by_cases isTcp : (host.memory.loadByte (packet + 9)).toNat = ipProtoTcp
  · rw [if_pos isTcp] at done ⊢
    exact finer.tcpReceive done
  · rwa [if_neg isTcp] at done ⊢

theorem receive (done : host.receive poll frame frameLen = some after) : host.receive other frame frameLen = some after := by
  simp only [Host.receive, Host.ethernetReceive, touch_memory] at done ⊢
  by_cases short : frameLen < ethHeaderSize
  · rwa [if_pos short] at done ⊢
  rw [if_neg short] at done ⊢
  by_cases isArp : swap16 (host.memory.load16 (frame + 12)) = ethTypeArp
  · rwa [if_pos isArp] at done ⊢
  rw [if_neg isArp] at done ⊢
  by_cases isIp : swap16 (host.memory.load16 (frame + 12)) = ethTypeIp
  · rw [if_pos isIp] at done ⊢
    exact finer.ipReceive done
  · rwa [if_neg isIp] at done ⊢

theorem pollWith
    (done : host.pollWith (fun frame frameLen host => host.receive poll frame frameLen) = some after) :
    host.pollWith (fun frame frameLen host => host.receive other frame frameLen) = some after := by
  by_cases reads : Reads host.arrive
  · rw [pollWith_reads reads] at done ⊢
    obtain ⟨handled, handles, rfl⟩ := Option.map_eq_some_iff.mp done
    exact Option.map_eq_some_iff.mpr ⟨handled, finer.receive handles, rfl⟩
  · rw [pollWith_eq] at done ⊢
    by_cases absent : host.arrive.ioBase = 0 ∨ host.arrive.rxBuffer = 0
    · rwa [if_pos absent] at done ⊢
    rw [if_neg absent] at done ⊢
    by_cases empty : host.arrive.bufferEmpty = true
    · rwa [if_pos empty] at done ⊢
    rw [if_neg empty] at done ⊢
    by_cases corrupt : host.arrive.rxLen < 4 ∨ rxBufSize < host.arrive.rxLen
    · rwa [if_pos corrupt] at done ⊢
    rw [if_neg corrupt] at done ⊢
    by_cases usable : host.arrive.rxStatus % 2 = 1 ∧ 4 < host.arrive.rxLen
    · exact absurd ⟨absent, eq_false_of_ne_true empty, corrupt, usable⟩ reads
    · rwa [if_neg usable] at done ⊢

end Finer

/-- When such a poll returns, it read no segment for the active connection. -/
theorem quietPoll_succ (done : Host.quietPoll (depth + 1) host = some after) :
    host.arrive.receives = false ∧
      (host.pollWith fun frame frameLen host => host.receive (Host.quietPoll depth) frame frameLen) = some after := by
  rw [Host.quietPoll] at done
  cases receives : host.arrive.receives with
  | true =>
      rw [if_pos receives] at done
      cases done
  | false =>
      rw [if_neg (ne_true_of_eq_false receives)] at done
      exact ⟨rfl, done⟩

/-- A poll that reads no segment for the active connection is a poll. -/
theorem quietPoll_finer : Finer (Host.quietPoll depth) (Host.pollReceive depth) := by
  induction depth with
  | zero => exact nofun
  | succ depth ih =>
      intro host after done
      rw [Host.pollReceive]
      exact ih.pollWith (quietPoll_succ done).2

/-- The active connection, if there is one, does not wait for the answer to a SYN. -/
def Host.Settled (host : Host) : Prop := host.activeConn = 0 ∨ (host.conns host.activeConn).state ≠ .synSent

/-- From a settled host on, the connections are left alone. -/
def Sparing (before after : Host) : Prop := before.Settled → Spares before after

theorem Spares.settled (spares : Spares before after) (settled : before.Settled) : after.Settled := by
  rw [Host.Settled, spares.1, spares.2]
  exact settled

theorem Spares.sparing (spares : Spares before after) : Sparing before after := fun _ => spares

theorem Sparing.trans (first : Sparing before middle) (second : Sparing middle after) : Sparing before after := by
  intro settled
  have spares := first settled
  exact spares.trans (second (spares.settled settled))

def SparesAll (poll : Host → Option Host) : Prop := ∀ before after, poll before = some after → Sparing before after

theorem SparesAll.absorbs (spares : SparesAll poll) : Absorbs poll Sparing :=
  ⟨Sparing.trans, fun polls => spares _ _ polls, fun transmits => transmits.spares.sparing⟩

/-- A segment that is not taken is ignored by a settled host. -/
theorem tcpReceive_ignored (settled : host.Settled)
    (ignored : ¬ (ForActive host packet length srcIp ∧ (host.conns host.activeConn).state = .established))
    (done : host.tcpReceive poll packet length srcIp = some after) : Accessed host after := by
  cases tcpReceive_handled done with
  | ignored _ accessed reason => exact accessed
  | answered parsed _ accessed forActive synSent establishes =>
      rcases settled with none | notSent
      · exact absurd none forActive.nonNull
      · exact absurd synSent notSent
  | continued parsed stored _ accessed forActive established stores finishes =>
      exact absurd ⟨forActive, established⟩ ignored

theorem SparesAll.receive (spares : SparesAll poll) (lacks : ¬ Takes host frame frameLen)
    (done : host.receive poll frame frameLen = some after) : Sparing host after := by
  intro settled
  cases receive_dispatched done with
  | ignored _ accessed => exact accessed.spares
  | arp parsed accessed => exact accessed.spares.trans arpReceive_resolves.spares
  | icmp parsed _ accessed addressed protocol handles =>
      have answered : Sparing parsed after := spares.absorbs.icmpReceive (fun _ _ _ _ => Spares.sparing ⟨rfl, rfl⟩) handles
      exact accessed.spares.trans (answered (accessed.spares.settled settled))
  | tcp parsed _ accessed addressed protocol handles =>
      have ignored : ¬ (ForActive parsed (frame + 34) (host.payloadLen (frame + 14)) (host.memory.loadWord (frame + 26)) ∧
          (parsed.conns parsed.activeConn).state = .established) := by
        intro ⟨forActive, established⟩
        rw [accessed.spares.1, accessed.spares.2] at established
        exact lacks ⟨addressed, protocol, accessed.forActive_iff.mp forActive, established⟩
      exact accessed.spares.trans (tcpReceive_ignored (accessed.spares.settled settled) ignored handles).spares

theorem quietPoll_spares : SparesAll (Host.quietPoll depth) := by
  induction depth with
  | zero => exact nofun
  | succ depth ih =>
      intro before after done
      obtain ⟨receives, polled⟩ := quietPoll_succ done
      have lacks : ¬ (Reads before.arrive ∧ Takes before.arrive before.arrive.pkt (before.arrive.rxLen - 4)) :=
        of_decide_eq_false receives
      have arrived : Spares before before.arrive := arrive_arrived.spares
      refine arrived.sparing.trans ?_
      by_cases reads : Reads before.arrive
      · rw [pollWith_reads reads] at polled
        obtain ⟨handled, handles, rfl⟩ := Option.map_eq_some_iff.mp polled
        have notTaken : ¬ Takes before.arrive.called before.arrive.pkt (before.arrive.rxLen - 4) := fun takes =>
          lacks ⟨reads, Takes.called_iff.mp takes⟩
        have spares : Sparing before.arrive.called handled := ih.receive notTaken handles
        exact spares
      · exact (pollWith_spares reads polled).sparing

variable {content : TcpConnection}

theorem setConn_settled (settled : host.Settled)
    (state : content.state = .synSent → (host.conns host.activeConn).state = .synSent) :
    (host.setConn host.activeConn content).Settled := by
  rcases settled with none | notSent
  · exact Or.inl none
  · refine Or.inr fun synSent => notSent (state ?_)
    have active : (host.setConn host.activeConn content).conns host.activeConn = content := setConn_conns.trans (if_pos rfl)
    exact (congrArg TcpConnection.state active).symm.trans synSent

theorem SparesAll.tcpStore (spares : SparesAll poll) (settled : host.Settled)
    (done : host.tcpStore poll host.activeConn segment packet length = some after) :
    after.activeConn = host.activeConn ∧
      after.conns host.activeConn = host.stored host.activeConn segment packet length := by
  by_cases stores : 0 < Host.dataLen segment length
  · obtain ⟨accessed, isAccessed, same⟩ : ∃ accessed, Accessed host accessed ∧
        host.tcpStore poll host.activeConn segment packet length = _ := tcpStore_eq stores
    rw [same] at done
    have active : accessed.activeConn = host.activeConn := isAccessed.spares.2
    have kept : (accessed.setConn host.activeConn (host.stored host.activeConn segment packet length)).Settled := by
      rw [← active]
      refine setConn_settled (isAccessed.spares.settled settled) fun synSent => ?_
      rw [stored_state] at synSent
      rw [isAccessed.spares.1]
      exact synSent
    have told := spares.absorbs.tcpSendPacket done kept
    refine ⟨told.2.trans active, ?_⟩
    rw [told.1, setConn_conns, if_pos rfl]
  · rw [Host.tcpStore, if_neg stores] at done
    cases done
    exact ⟨rfl, (if_neg stores).symm⟩

theorem SparesAll.tcpFinish (spares : SparesAll poll) (settled : host.Settled)
    (done : host.tcpFinish poll host.activeConn segment = some after) :
    after.activeConn = host.activeConn ∧ after.conns host.activeConn =
      if Host.hasFlag segment.flags tcpFlagFin then
        { host.conns host.activeConn with ackNum := add32 segment.seq 1, state := .closed }
      else host.conns host.activeConn := by
  rw [Host.tcpFinish] at done
  by_cases ends : Host.hasFlag segment.flags tcpFlagFin = true
  · rw [if_pos ends] at done ⊢
    obtain ⟨sent, sends, rfl⟩ := Option.map_eq_some_iff.mp done
    have told := spares.absorbs.tcpSendPacket sends (setConn_settled settled id)
    refine ⟨told.2, ?_⟩
    rw [setConn_conns, if_pos rfl, told.1, setConn_conns, if_pos rfl]
  · rw [if_neg ends] at done ⊢
    cases done
    exact ⟨rfl, rfl⟩

/-- A segment for the established connection is taken. -/
theorem SparesAll.tcpReceive (spares : SparesAll poll) (forActive : ForActive host packet length srcIp)
    (established : (host.conns host.activeConn).state = .established)
    (done : host.tcpReceive poll packet length srcIp = some after) :
    after.activeConn = host.activeConn ∧ after.conns host.activeConn = host.taken packet length := by
  have settled : host.Settled := by
    refine Or.inr fun synSent => ?_
    rw [established] at synSent
    cases synSent
  obtain ⟨parsed, stored, accessed, stores, finishes⟩ := tcpReceive_continued forActive established done
  obtain ⟨active, content⟩ := spares.tcpStore (accessed.spares.settled settled) stores
  have same : parsed.stored parsed.activeConn (host.loadSegment packet) packet length =
      host.stored host.activeConn (host.loadSegment packet) packet length := by
    rw [accessed]
    rfl
  rw [same, accessed.spares.2] at content
  rw [accessed.spares.2] at active
  have still : stored.Settled := by
    refine Or.inr ?_
    rw [active, content, stored_state, established]
    exact nofun
  obtain ⟨stays, finished⟩ := spares.tcpFinish still finishes
  rw [active] at stays finished
  refine ⟨stays, finished.trans ?_⟩
  rw [content]
  rfl

theorem taken_notSent (established : (host.conns host.activeConn).state = .established) :
    (host.taken packet length).state ≠ .synSent := by
  rw [Host.taken]
  split
  · exact nofun
  · rw [stored_state, established]
    exact nofun

/-- The system does anything that is not about the connection, whose buffer may be read. -/
def Host.elsewhere (host other : Host) (conn : Nat) : Host :=
  { other.setConn conn
      { host.conns conn with
        recvBuffer := (other.conns conn).recvBuffer
        recvLen := (other.conns conn).recvLen
        dataReady := (other.conns conn).dataReady } with
    activeConn := host.activeConn }

theorem elsewhere_conn {other : Host} : (host.elsewhere other conn).conns conn =
    { host.conns conn with
      recvBuffer := (other.conns conn).recvBuffer
      recvLen := (other.conns conn).recvLen
      dataReady := (other.conns conn).dataReady } :=
  setConn_conns.trans (if_pos rfl)

end AutismOS.Network
