import AutismOS.Network.Sending

namespace AutismOS.Network

open AutismOS.Library

variable {host before middle after : Host} {receive : Nat → Nat → Host → Option Host} {depth : Nat}
variable {frame : List UInt8} {frames : List (List UInt8)} {packet length : Nat}

/-- The card changes the memory and its own side of the ring. -/
def Arrived (before after : Host) : Prop :=
  after =
    { before with
      memory := after.memory
      receiver := { before.receiver with
        cbr := after.receiver.cbr, schedule := after.receiver.schedule, written := after.receiver.written } }

theorem Arrived.refl : Arrived host host := rfl

theorem Arrived.trans (first : Arrived before middle) (second : Arrived middle after) : Arrived before after := by
  rw [Arrived] at first second ⊢
  rw [first] at second
  exact second

theorem Arrived.touched (arrived : Arrived before after) : after.touched = before.touched := by rw [arrived]

theorem Arrived.effects (arrived : Arrived before after) : after.effects = before.effects := by rw [arrived]

theorem cardWrite_arrived : Arrived host (host.cardWrite frame) := by
  rw [Host.cardWrite]
  split
  · rfl
  · rfl

theorem foldl_arrived : Arrived host (frames.foldl Host.cardWrite host) := by
  induction frames generalizing host with
  | nil => exact .refl
  | cons frame rest ih => exact cardWrite_arrived.trans ih

theorem arrive_arrived : Arrived host host.arrive := by
  rw [Host.arrive]
  split
  · exact .refl
  · refine Arrived.trans ?_ foldl_arrived
    rfl

namespace Host

variable (host : Host)

/-- The header of the frame that is read next. -/
def rxStatus : Nat := host.memory.load16 (host.rxBuffer + host.receiver.rxOffset)
def rxLen : Nat := host.memory.load16 (host.rxBuffer + host.receiver.rxOffset + 2)
def pkt : Nat := host.rxBuffer + host.receiver.rxOffset + 4

/-- The ring is moved on behind a frame. -/
def advance (rxLen : Nat) : Host :=
  host.setRxOffset ((host.receiver.rxOffset + rxLen + 4 + 3) / 4 * 4 % 2 ^ 16 % rxBufSize)

/-- The state in which the callback is called. -/
def called : Host :=
  { host with
    receiver := { host.receiver with
      delivered := host.receiver.delivered ++ [host.memory.loadBytes host.pkt (host.rxLen - 4)] }
    touched := []
    effects := [] }

/-- The records are those of the one who polls. -/
def resumed (handled : Host) : Host := { handled with touched := host.touched, effects := host.effects }

end Host

inductive Polled (receive : Nat → Nat → Host → Option Host) (host : Host) : Host → Prop where
  | idle (nothing : host.ioBase = 0 ∨ host.rxBuffer = 0 ∨ host.bufferEmpty = true) : Polled receive host host
  | reset (corrupt : host.rxLen < 4 ∨ rxBufSize < host.rxLen) : Polled receive host (host.setRxOffset 0)
  | skipped (unusable : ¬ (host.rxStatus % 2 = 1 ∧ 4 < host.rxLen)) : Polled receive host (host.advance host.rxLen)
  | delivered (handled : Host) (waiting : host.bufferEmpty = false)
      (handles : receive host.pkt (host.rxLen - 4) host.called = some handled) :
      Polled receive host ((host.resumed handled).advance host.rxLen)

theorem pollWith_eq : host.pollWith receive =
    if host.arrive.ioBase = 0 ∨ host.arrive.rxBuffer = 0 then some host.arrive
    else if host.arrive.bufferEmpty then some host.arrive
    else if host.arrive.rxLen < 4 ∨ rxBufSize < host.arrive.rxLen then some (host.arrive.setRxOffset 0)
    else if host.arrive.rxStatus % 2 = 1 ∧ 4 < host.arrive.rxLen then
      (receive host.arrive.pkt (host.arrive.rxLen - 4) host.arrive.called).map fun handled =>
        (host.arrive.resumed handled).advance host.arrive.rxLen
    else some (host.arrive.advance host.arrive.rxLen) := by
  rw [Host.pollWith]
  simp only [Host.deliver]
  refine ite_congr rfl (fun _ => rfl) fun _ => ite_congr rfl (fun _ => rfl) fun _ => ite_congr rfl (fun _ => rfl)
    fun _ => ?_
  by_cases usable : host.arrive.rxStatus % 2 = 1 ∧ 4 < host.arrive.rxLen
  · rw [if_pos usable]
    exact (congrArg (Option.map _) (if_pos usable)).trans (Option.map_map _ _ _)
  · rw [if_neg usable]
    exact congrArg (Option.map _) (if_neg usable)

theorem pollWith_polled (done : host.pollWith receive = some after) : Polled receive host.arrive after := by
  rw [pollWith_eq] at done
  by_cases absent : host.arrive.ioBase = 0 ∨ host.arrive.rxBuffer = 0
  · rw [if_pos absent] at done
    cases done
    exact .idle (absent.imp_right Or.inl)
  rw [if_neg absent] at done
  cases empty : host.arrive.bufferEmpty with
  | true =>
      rw [if_pos empty] at done
      cases done
      exact .idle (Or.inr (Or.inr empty))
  | false =>
      rw [if_neg (ne_true_of_eq_false empty)] at done
      by_cases corrupt : host.arrive.rxLen < 4 ∨ rxBufSize < host.arrive.rxLen
      · rw [if_pos corrupt] at done
        cases done
        exact .reset corrupt
      · rw [if_neg corrupt] at done
        by_cases usable : host.arrive.rxStatus % 2 = 1 ∧ 4 < host.arrive.rxLen
        · rw [if_pos usable] at done
          obtain ⟨handled, handles, rfl⟩ := Option.map_eq_some_iff.mp done
          exact .delivered handled empty handles
        · rw [if_neg usable] at done
          cases done
          exact .skipped usable

/-- Whatever the callback does, a poll records it apart. -/
theorem pollWith_records (done : host.pollWith receive = some after) :
    after.touched = host.touched ∧ after.effects = host.effects := by
  have touched : host.arrive.touched = host.touched := arrive_arrived.touched
  have effects : host.arrive.effects = host.effects := arrive_arrived.effects
  cases pollWith_polled done with
  | idle nothing => exact ⟨touched, effects⟩
  | reset corrupt => exact ⟨touched, effects⟩
  | skipped unusable => exact ⟨touched, effects⟩
  | delivered handled waiting handles => exact ⟨touched, effects⟩

theorem pollReceive_records (done : host.pollReceive depth = some after) :
    after.touched = host.touched ∧ after.effects = host.effects := by
  cases depth with
  | zero => cases done
  | succ depth => exact pollWith_records done

/-- Only the record of accesses differs. -/
def Accessed (before after : Host) : Prop := after = { before with touched := after.touched }

theorem Accessed.refl : Accessed host host := rfl

theorem Accessed.trans (first : Accessed before middle) (second : Accessed middle after) : Accessed before after := by
  rw [Accessed] at first second ⊢
  rw [first] at second
  exact second

theorem touch_accessed {address count : Nat} : Accessed host (host.touch address count) := by
  rw [Host.touch]
  split
  · rfl
  · rfl

/-- What `ip_receive` hands on as the length of the payload. -/
def Host.payloadLen (host : Host) (packet : Nat) : Nat :=
  (swap16 (host.memory.load16 (packet + 2)) + (2 ^ 16 - ipHeaderSize)) % 2 ^ 16

/-- Only the cache, the records and the counters of the senders differ. -/
def Resolves (before after : Host) : Prop :=
  after =
    { before with
      arpCache := after.arpCache, ipId := after.ipId, currentTx := after.currentTx, transmitted := after.transmitted
      touched := after.touched, effects := after.effects }

theorem Resolves.trans (first : Resolves before middle) (second : Resolves middle after) : Resolves before after := by
  rw [Resolves] at first second ⊢
  rw [first] at second
  exact second

theorem Accessed.resolves (accessed : Accessed before after) : Resolves before after := by
  rw [accessed]
  rfl

theorem Transmits.resolves (transmits : Transmits before after) : Resolves before after := by
  rw [transmits]
  rfl

theorem arpLearn_resolves : Resolves host (host.arpLearn packet) := by
  have accessed : Accessed host ((host.touch (packet + 14) 4).touch (packet + 8) 6) := touch_accessed.trans touch_accessed
  simp only [Host.arpLearn]
  split
  · exact accessed.resolves
  · refine accessed.resolves.trans ?_
    rfl

/-- An ARP packet changes the cache, and may be answered. -/
theorem arpReceive_resolves : Resolves host (host.arpReceive packet length) := by
  have header : Accessed host ((host.touch (packet + 6) 2).touch (packet + 24) 4) := touch_accessed.trans touch_accessed
  have answers (host : Host) : Resolves host (host.arpAnswer packet) := by
    have accessed : Accessed host (host.touch packet 4) := touch_accessed
    exact accessed.resolves.trans ethernetSend_transmits.resolves
  simp only [Host.arpReceive]
  split
  · rfl
  · split
    · split
      · exact (header.resolves.trans arpLearn_resolves).trans (answers _)
      · exact header.resolves.trans arpLearn_resolves
    · exact header.resolves

/-- The frame holds an IP packet to this host. -/
structure Addressed (host : Host) (frame frameLen : Nat) : Prop where
  long : ethHeaderSize + ipHeaderSize ≤ frameLen
  type : swap16 (host.memory.load16 (frame + 12)) = ethTypeIp
  dstIp : host.memory.loadWord (frame + 30) = host.localIp

/-- To whom a frame is passed on. -/
inductive Dispatched (poll : Host → Option Host) (host : Host) (frame frameLen : Nat) : Host → Prop where
  | ignored (after : Host) (accessed : Accessed host after) : Dispatched poll host frame frameLen after
  | arp (parsed : Host) (accessed : Accessed host parsed) :
      Dispatched poll host frame frameLen (parsed.arpReceive (frame + 14) (frameLen - 14))
  | icmp (parsed after : Host) (accessed : Accessed host parsed) (addressed : Addressed host frame frameLen)
      (protocol : (host.memory.loadByte (frame + 23)).toNat = ipProtoIcmp)
      (handles : parsed.icmpReceive poll (frame + 34) (host.payloadLen (frame + 14))
        (host.memory.loadWord (frame + 26)) = some after) : Dispatched poll host frame frameLen after
  | tcp (parsed after : Host) (accessed : Accessed host parsed) (addressed : Addressed host frame frameLen)
      (protocol : (host.memory.loadByte (frame + 23)).toNat = ipProtoTcp)
      (handles : parsed.tcpReceive poll (frame + 34) (host.payloadLen (frame + 14))
        (host.memory.loadWord (frame + 26)) = some after) : Dispatched poll host frame frameLen after

theorem receive_dispatched {poll : Host → Option Host} {frame frameLen : Nat}
    (done : host.receive poll frame frameLen = some after) : Dispatched poll host frame frameLen after := by
  simp only [Host.receive, Host.ethernetReceive, touch_memory] at done
  have header : Accessed host (host.touch (frame + 12) 2) := touch_accessed
  by_cases short : frameLen < ethHeaderSize
  · rw [if_pos short] at done
    cases done
    exact .ignored _ .refl
  rw [if_neg short] at done
  by_cases isArp : swap16 (host.memory.load16 (frame + 12)) = ethTypeArp
  · rw [if_pos isArp] at done
    cases done
    exact .arp _ header
  rw [if_neg isArp] at done
  by_cases isIp : swap16 (host.memory.load16 (frame + 12)) = ethTypeIp
  · rw [if_pos isIp] at done
    simp only [Host.ipReceive, touch_memory, touch_localIp] at done
    by_cases noHeader : frameLen - ethHeaderSize < ipHeaderSize
    · rw [if_pos noHeader] at done
      cases done
      exact .ignored _ header
    rw [if_neg noHeader] at done
    have destination := header.trans (touch_accessed : Accessed _ (Host.touch _ (frame + ethHeaderSize + 16) 4))
    by_cases other : host.memory.loadWord (frame + ethHeaderSize + 16) ≠ host.localIp
    · rw [if_pos other] at done
      cases done
      exact .ignored _ destination
    rw [if_neg other] at done
    have parsed := ((destination.trans (touch_accessed : Accessed _ (Host.touch _ (frame + ethHeaderSize + 2) 2))).trans
      (touch_accessed : Accessed _ (Host.touch _ (frame + ethHeaderSize + 9) 1))).trans
      (touch_accessed : Accessed _ (Host.touch _ (frame + ethHeaderSize + 12) 4))
    have long : ethHeaderSize + ipHeaderSize ≤ frameLen := by
      rw [ethHeaderSize, ipHeaderSize] at *
      omega
    have addressed : Addressed host frame frameLen := ⟨long, isIp, not_not.mp other⟩
    by_cases isIcmp : (host.memory.loadByte (frame + ethHeaderSize + 9)).toNat = ipProtoIcmp
    · rw [if_pos isIcmp] at done
      exact .icmp _ _ parsed addressed isIcmp done
    · rw [if_neg isIcmp] at done
      by_cases isTcp : (host.memory.loadByte (frame + ethHeaderSize + 9)).toNat = ipProtoTcp
      · rw [if_pos isTcp] at done
        exact .tcp _ _ parsed addressed isTcp done
      · rw [if_neg isTcp] at done
        cases done
        exact .ignored _ parsed
  · rw [if_neg isIp] at done
    cases done
    exact .ignored _ header

/-- The segment is for the active connection. -/
structure ForActive (host : Host) (packet length srcIp : Nat) : Prop where
  long : tcpHeaderSize ≤ length
  nonNull : host.activeConn ≠ 0
  addressed : host.addressed host.activeConn (host.loadSegment packet) srcIp = true

/-- What becomes of a segment. -/
inductive TcpHandled (poll : Host → Option Host) (host : Host) (packet length srcIp : Nat) : Host → Prop where
  | ignored (after : Host) (accessed : Accessed host after)
      (reason : ¬ ForActive host packet length srcIp ∨
        (host.conns host.activeConn).state ≠ .synSent ∧ (host.conns host.activeConn).state ≠ .established) :
      TcpHandled poll host packet length srcIp after
  | answered (parsed after : Host) (accessed : Accessed host parsed) (forActive : ForActive host packet length srcIp)
      (synSent : (host.conns host.activeConn).state = .synSent)
      (establishes : parsed.tcpEstablish poll parsed.activeConn (host.loadSegment packet) = some after) :
      TcpHandled poll host packet length srcIp after
  | continued (parsed stored after : Host) (accessed : Accessed host parsed)
      (forActive : ForActive host packet length srcIp)
      (established : (host.conns host.activeConn).state = .established)
      (stores : parsed.tcpStore poll parsed.activeConn (host.loadSegment packet) packet length = some stored)
      (finishes : stored.tcpFinish poll stored.activeConn (host.loadSegment packet) = some after) :
      TcpHandled poll host packet length srcIp after

theorem tcpReceive_handled {poll : Host → Option Host} {packet length srcIp : Nat}
    (done : host.tcpReceive poll packet length srcIp = some after) : TcpHandled poll host packet length srcIp after := by
  simp only [Host.tcpReceive, touch_activeConn, touch_conns, touch_addressed, touch_loadSegment] at done
  by_cases short : length < tcpHeaderSize
  · rw [if_pos short] at done
    cases done
    exact .ignored _ .refl (Or.inl fun forActive => Nat.not_le_of_lt short forActive.long)
  rw [if_neg short] at done
  by_cases none : host.activeConn = 0
  · rw [if_pos none] at done
    cases done
    exact .ignored _ .refl (Or.inl fun forActive => forActive.nonNull none)
  rw [if_neg none] at done
  cases addressed : host.addressed host.activeConn (host.loadSegment packet) srcIp with
  | false =>
      rw [addressed] at done
      cases done
      refine .ignored _ touch_accessed (Or.inl fun forActive => ?_)
      cases addressed.symm.trans forActive.addressed
  | true =>
      rw [addressed] at done
      simp only [Bool.not_true, Bool.false_eq_true, if_false] at done
      have forActive : ForActive host packet length srcIp := ⟨Nat.not_lt.mp short, none, addressed⟩
      have header : Accessed host (((host.touch packet 12).touch (packet + 13) 1).touch (packet + 12) 1) :=
        (touch_accessed.trans touch_accessed).trans touch_accessed
      cases state : (host.conns host.activeConn).state with
      | synSent =>
          rw [state] at done
          exact .answered _ _ header forActive state done
      | established =>
          rw [state] at done
          obtain ⟨stored, stores, finishes⟩ := Option.bind_eq_some_iff.mp done
          exact .continued _ stored _ header forActive state stores finishes
      | closed | finWait | closeWait =>
          rw [state] at done
          cases done
          refine .ignored _ header (Or.inr ⟨?_, ?_⟩)
          · rw [state]
            exact nofun
          · rw [state]
            exact nofun

/-- A segment for the established connection is stored, and may finish it. -/
theorem tcpReceive_continued {poll : Host → Option Host} {packet length srcIp : Nat}
    (forActive : ForActive host packet length srcIp) (established : (host.conns host.activeConn).state = .established)
    (done : host.tcpReceive poll packet length srcIp = some after) :
    ∃ parsed stored, Accessed host parsed ∧
      parsed.tcpStore poll parsed.activeConn (host.loadSegment packet) packet length = some stored ∧
        stored.tcpFinish poll stored.activeConn (host.loadSegment packet) = some after := by
  cases tcpReceive_handled done with
  | ignored _ accessed reason =>
      rcases reason with apart | other
      · exact absurd forActive apart
      · exact absurd established other.2
  | answered parsed _ accessed _ synSent establishes =>
      rw [synSent] at established
      cases established
  | continued parsed stored _ accessed _ _ stores finishes => exact ⟨parsed, stored, accessed, stores, finishes⟩

variable {poll : Host → Option Host} {segment : Host.Segment} {conn packet length : Nat}

/-- The connection with data in its buffer that was acknowledged. -/
def TcpConnection.store (connection : TcpConnection) (data : List UInt8) (ackNum : Nat) : TcpConnection :=
  { connection with
    recvBuffer := data ++ connection.recvBuffer.drop data.length, recvLen := data.length, dataReady := true, ackNum }

theorem store_remoteIp {connection : TcpConnection} {data : List UInt8} {ackNum : Nat} :
    (connection.store data ackNum).remoteIp = connection.remoteIp := rfl

theorem store_state {connection : TcpConnection} {data : List UInt8} {ackNum : Nat} :
    (connection.store data ackNum).state = connection.state := rfl

theorem store_seqNum {connection : TcpConnection} {data : List UInt8} {ackNum : Nat} :
    (connection.store data ackNum).seqNum = connection.seqNum := rfl

/-- As much of the data as fits into the buffer. -/
def Host.copied (host : Host) (segment : Host.Segment) (packet length : Nat) : List UInt8 :=
  host.memory.loadBytes (packet + segment.headerLen) (min (Host.dataLen segment length) Host.recvBufferSize)

/-- The connection after the data of a segment was taken. -/
def Host.stored (host : Host) (conn : Nat) (segment : Host.Segment) (packet length : Nat) : TcpConnection :=
  if 0 < Host.dataLen segment length then
    (host.conns conn).store (host.copied segment packet length) (add32 segment.seq (Host.dataLen segment length))
  else host.conns conn

theorem stored_remoteIp : (host.stored conn segment packet length).remoteIp = (host.conns conn).remoteIp := by
  rw [Host.stored]
  split
  · rw [store_remoteIp]
  · rfl

theorem stored_state : (host.stored conn segment packet length).state = (host.conns conn).state := by
  rw [Host.stored]
  split
  · rw [store_state]
  · rfl

theorem tcpStore_eq (data : 0 < Host.dataLen segment length) : ∃ accessed, Accessed host accessed ∧
    host.tcpStore poll conn segment packet length =
      (accessed.setConn conn (host.stored conn segment packet length)).tcpSendPacket poll conn tcpFlagAck [] := by
  refine ⟨host.touch (packet + segment.headerLen) (min (Host.dataLen segment length) Host.recvBufferSize),
    touch_accessed, ?_⟩
  rw [Host.tcpStore, if_pos data, Host.stored, if_pos data, TcpConnection.store, Host.copied, ByteMemory.length_loadBytes]
  simp only [touch_conns, touch_memory]

variable {related : Host → Host → Prop} {srcIp : Nat}

theorem Absorbs.icmpReceive (absorbs : Absorbs poll related)
    (edits : ∀ host memory touched echoState, related host { host with memory, touched, echoState })
    (done : host.icmpReceive poll packet length srcIp = some after) : related host after := by
  simp only [Host.icmpReceive] at done
  have accesses {before after : Host} (accessed : Accessed before after) : related before after := by
    rw [accessed]
    exact edits _ _ _ _
  by_cases short : length < icmpHeaderSize
  · rw [if_pos short] at done
    cases done
    exact absorbs.sends .refl
  rw [if_neg short] at done
  have touched : related host (host.touch packet 1) := accesses touch_accessed
  split at done
  · have parsed : Accessed (host.touch packet 1)
        ((((host.touch packet 1).touch packet 1).touch (packet + 2) 2).touch packet length) :=
      (touch_accessed.trans touch_accessed).trans touch_accessed
    have answered : related (host.touch packet 1) ((host.touch packet 1).icmpAnswer packet length) :=
      absorbs.trans (accesses parsed) (edits _ _ _ _)
    exact absorbs.trans touched (absorbs.trans answered (absorbs.ipSend done))
  · split at done
    · cases done
      exact absorbs.trans touched (edits _ _ _ _)
    · cases done
      exact touched

theorem Absorbs.tcpEstablish (absorbs : Absorbs poll related) (sets : ∀ host conn content, related host (host.setConn conn content))
    (done : host.tcpEstablish poll conn segment = some after) : related host after := by
  rw [Host.tcpEstablish] at done
  split at done
  · exact absorbs.trans (sets _ _ _) (absorbs.tcpSendPacket done)
  · cases done
    exact absorbs.sends .refl

theorem Absorbs.tcpStore (absorbs : Absorbs poll related)
    (accesses : ∀ before after, Accessed before after → related before after)
    (sets : ∀ host conn content, related host (host.setConn conn content))
    (done : host.tcpStore poll conn segment packet length = some after) : related host after := by
  by_cases data : 0 < Host.dataLen segment length
  · obtain ⟨accessed, isAccessed, same⟩ :
      ∃ accessed, Accessed host accessed ∧ host.tcpStore poll conn segment packet length = _ := tcpStore_eq data
    rw [same] at done
    exact absorbs.trans (accesses _ _ isAccessed) (absorbs.trans (sets _ _ _) (absorbs.tcpSendPacket done))
  · rw [Host.tcpStore, if_neg data] at done
    cases done
    exact absorbs.sends .refl

theorem Absorbs.tcpFinish (absorbs : Absorbs poll related) (sets : ∀ host conn content, related host (host.setConn conn content))
    (done : host.tcpFinish poll conn segment = some after) : related host after := by
  rw [Host.tcpFinish] at done
  split at done
  · obtain ⟨sent, sends, rfl⟩ := Option.map_eq_some_iff.mp done
    exact absorbs.trans (sets _ _ _) (absorbs.trans (absorbs.tcpSendPacket sends) (sets _ _ _))
  · cases done
    exact absorbs.sends .refl

theorem Absorbs.tcpReceive (absorbs : Absorbs poll related)
    (accesses : ∀ before after, Accessed before after → related before after)
    (sets : ∀ host conn content, related host (host.setConn conn content))
    (done : host.tcpReceive poll packet length srcIp = some after) : related host after := by
  cases tcpReceive_handled done with
  | ignored _ accessed reason => exact accesses _ _ accessed
  | answered parsed _ accessed forActive synSent establishes =>
      exact absorbs.trans (accesses _ _ accessed) (absorbs.tcpEstablish sets establishes)
  | continued parsed stored _ accessed forActive established stores finishes =>
      exact absorbs.trans (accesses _ _ accessed)
        (absorbs.trans (absorbs.tcpStore accesses sets stores) (absorbs.tcpFinish sets finishes))

/-- A relation that says nothing about how the drivers other than that of the card are left. -/
theorem Absorbs.received {frame frameLen : Nat} (absorbs : Absorbs poll related)
    (keeps : ∀ before after : Host, after.receiver = before.receiver → after.ioBase = before.ioBase →
      after.txBuffers = before.txBuffers → related before after)
    (done : host.receive poll frame frameLen = some after) : related host after := by
  have accesses (before after : Host) (accessed : Accessed before after) : related before after := by
    rw [accessed]
    exact keeps _ _ rfl rfl rfl
  cases receive_dispatched done with
  | ignored _ accessed => exact accesses _ _ accessed
  | arp parsed accessed =>
      have resolves : Resolves parsed (parsed.arpReceive (frame + 14) (frameLen - 14)) := arpReceive_resolves
      refine absorbs.trans (accesses _ _ accessed) ?_
      rw [resolves]
      exact keeps _ _ rfl rfl rfl
  | icmp parsed _ accessed addressed protocol handles =>
      exact absorbs.trans (accesses _ _ accessed) (absorbs.icmpReceive (fun _ _ _ _ => keeps _ _ rfl rfl rfl) handles)
  | tcp parsed _ accessed addressed protocol handles =>
      exact absorbs.trans (accesses _ _ accessed)
        (absorbs.tcpReceive accesses (fun _ _ _ => keeps _ _ rfl rfl rfl) handles)

end AutismOS.Network
