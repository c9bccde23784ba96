import AutismOS.Network.Stack

namespace AutismOS.Network

open AutismOS.Library

variable {host before middle after : Host} {poll : Host → Option Host} {related : Host → Host → Prop}
variable {dstIp hop protocol conn flags ip count retry address depth : Nat} {payload packet data : List UInt8} {dstMac : Mac}
variable {place srcIp : Nat} {segment : Host.Segment}

/-- An access only adds to the record. -/
theorem touch_fields : ∃ touched, host.touch address count = { host with touched } := by
  rw [Host.touch]
  split
  · exact ⟨host.touched, rfl⟩
  · exact ⟨_, rfl⟩

@[simp] theorem touch_memory : (host.touch address count).memory = host.memory := by
  obtain ⟨touched, same⟩ : ∃ touched, host.touch address count = { host with touched } := touch_fields
  rw [same]

@[simp] theorem touch_localIp : (host.touch address count).localIp = host.localIp := by
  obtain ⟨touched, same⟩ : ∃ touched, host.touch address count = { host with touched } := touch_fields
  rw [same]

@[simp] theorem touch_arpCache : (host.touch address count).arpCache = host.arpCache := by
  obtain ⟨touched, same⟩ : ∃ touched, host.touch address count = { host with touched } := touch_fields
  rw [same]

@[simp] theorem touch_arpLocalIp : (host.touch address count).arpLocalIp = host.arpLocalIp := by
  obtain ⟨touched, same⟩ : ∃ touched, host.touch address count = { host with touched } := touch_fields
  rw [same]

@[simp] theorem touch_activeConn : (host.touch address count).activeConn = host.activeConn := by
  obtain ⟨touched, same⟩ : ∃ touched, host.touch address count = { host with touched } := touch_fields
  rw [same]

@[simp] theorem touch_conns : (host.touch address count).conns = host.conns := by
  obtain ⟨touched, same⟩ : ∃ touched, host.touch address count = { host with touched } := touch_fields
  rw [same]

@[simp] theorem touch_effects : (host.touch address count).effects = host.effects := by
  obtain ⟨touched, same⟩ : ∃ touched, host.touch address count = { host with touched } := touch_fields
  rw [same]

@[simp] theorem touch_loadSegment : (host.touch address count).loadSegment place = host.loadSegment place := by
  simp only [Host.loadSegment, touch_memory]

@[simp] theorem touch_addressed :
    (host.touch address count).addressed conn segment srcIp = host.addressed conn segment srcIp := by
  simp only [Host.addressed, touch_conns]

theorem setConn_conns {content : TcpConnection} {other : Nat} :
    (host.setConn conn content).conns other = if other = conn then content else host.conns other := by
  simp only [Host.setConn, Function.update_apply]

@[simp] theorem length_ipHeader {length : Nat} : (host.ipHeader dstIp protocol length).length = 20 := rfl

/-- Only the log of what was sent, the record of effects and the counters of the senders differ. -/
def Transmits (before after : Host) : Prop :=
  after =
    { before with
      ipId := after.ipId, currentTx := after.currentTx, transmitted := after.transmitted, effects := after.effects }

theorem Transmits.refl : Transmits host host := rfl

theorem Transmits.trans (first : Transmits before middle) (second : Transmits middle after) :
    Transmits before after := by
  rw [Transmits] at first second ⊢
  rw [first] at second
  exact second

theorem Transmits.ioBase (transmits : Transmits before after) : after.ioBase = before.ioBase := by rw [transmits]

theorem note_transmits {effect : Effect} : Transmits host (host.note effect) := rfl

theorem rtl8139SendPacket_transmits : Transmits host (host.rtl8139SendPacket data).2 := by
  rw [Host.rtl8139SendPacket]
  split
  · rfl
  · rfl

theorem ethernetSend_transmits {ethType : Nat} : Transmits host (host.ethernetSend dstMac ethType payload) :=
  ((note_transmits.trans note_transmits).trans note_transmits).trans rtl8139SendPacket_transmits

theorem forward_transmits : Transmits host (host.forward dstMac packet) := note_transmits.trans ethernetSend_transmits

theorem arpRequest_transmits : Transmits host (host.arpRequest ip) := ethernetSend_transmits

/-- A relation that holds across a poll, and across what the loops send, holds across the loops. -/
structure Waits (poll : Host → Option Host) (hop : Nat) (packet : List UInt8) (related : Host → Host → Prop) : Prop where
  refl : ∀ host, related host host
  trans : ∀ {before middle after}, related before middle → related middle after → related before after
  polls : ∀ {before after}, poll before = some after → related before after
  requests : ∀ host, related host (host.arpRequest hop)
  forwards : ∀ host dstMac, host.arpLookup hop = some dstMac → related host (host.forward dstMac packet)

theorem Waits.awaitReply {sent : Bool} (waits : Waits poll hop packet related)
    (done : Host.awaitReply poll hop packet count host = some (sent, after)) : related host after := by
  induction count generalizing host with
  | zero =>
      cases done
      exact waits.refl _
  | succ count ih =>
      obtain ⟨polled, polls, done⟩ := Option.bind_eq_some_iff.mp done
      cases found : polled.arpLookup hop with
      | some dstMac =>
          rw [found] at done
          cases done
          exact waits.trans (waits.polls polls) (waits.forwards polled dstMac found)
      | none =>
          rw [found] at done
          exact waits.trans (waits.polls polls) (ih done)

theorem Waits.sendResolved (waits : Waits poll hop packet related)
    (done : Host.sendResolved poll hop packet retry host = some after) : related host after := by
  induction retry generalizing host with
  | zero =>
      cases done
      exact waits.refl _
  | succ retry ih =>
      rw [Host.sendResolved] at done
      cases found : host.arpLookup hop with
      | some dstMac =>
          rw [found] at done
          cases done
          exact waits.forwards host dstMac found
      | none =>
          rw [found] at done
          obtain ⟨⟨sent, waited⟩, awaits, done⟩ := Option.bind_eq_some_iff.mp done
          have first := waits.trans (waits.requests host) (waits.awaitReply awaits)
          cases sent with
          | true =>
              cases done
              exact first
          | false => exact waits.trans first (ih done)

/-- Where the next hop is known, nothing is waited for. -/
theorem sendResolved_known (found : host.arpLookup hop = some dstMac) :
    Host.sendResolved poll hop packet (retry + 1) host = some (host.forward dstMac packet) := by
  rw [Host.sendResolved, found]

/-- Polls and what is sent stay within the relation. -/
structure Absorbs (poll : Host → Option Host) (related : Host → Host → Prop) : Prop where
  trans : ∀ {before middle after}, related before middle → related middle after → related before after
  polls : ∀ {before after}, poll before = some after → related before after
  sends : ∀ {before after}, Transmits before after → related before after

theorem Absorbs.waits (absorbs : Absorbs poll related) (hop : Nat) (packet : List UInt8) : Waits poll hop packet related :=
  ⟨fun _ => absorbs.sends .refl, absorbs.trans, absorbs.polls, fun _ => absorbs.sends arpRequest_transmits,
    fun _ _ _ => absorbs.sends forward_transmits⟩

theorem Absorbs.ipSend (absorbs : Absorbs poll related)
    (done : host.ipSend poll dstIp protocol payload = some after) : related host after := by
  rw [Host.ipSend] at done
  refine absorbs.trans (absorbs.sends ?_) ((absorbs.waits _ _).sendResolved done)
  rfl

theorem Absorbs.tcpSendPacket (absorbs : Absorbs poll related)
    (done : host.tcpSendPacket poll conn flags data = some after) : related host after := by
  rw [Host.tcpSendPacket] at done
  refine absorbs.trans (absorbs.sends ?_) (absorbs.ipSend done)
  rfl

/-- The next hop to an address is in the cache. -/
def Host.reaches (host : Host) (dstIp : Nat) : Bool := (host.arpLookup (host.nextHop dstIp)).isSome

theorem ipSend_known (reaches : host.reaches dstIp = true) :
    ∃ after, host.ipSend poll dstIp protocol payload = some after ∧ Transmits host after := by
  obtain ⟨dstMac, found⟩ := Option.isSome_iff_exists.mp reaches
  refine ⟨_, sendResolved_known found, Transmits.trans ?_ forward_transmits⟩
  rfl

theorem Transmits.reaches (transmits : Transmits before after) : after.reaches dstIp = before.reaches dstIp := by
  rw [transmits]
  rfl

theorem tcpSendPacket_known (reaches : host.reaches (host.conns conn).remoteIp = true) :
    ∃ after, host.tcpSendPacket poll conn flags data = some after ∧ Transmits host after := by
  have noted : ((((host.note (.write .tcpPacket 0 tcpHeaderSize)).note
      (.write .tcpPacket tcpHeaderSize data.length)).note (.length (tcpHeaderSize + data.length)))).reaches
        (host.conns conn).remoteIp = true := reaches
  obtain ⟨after, sends, transmits⟩ := ipSend_known noted
  refine ⟨after, sends, Transmits.trans ?_ transmits⟩
  rfl

theorem Waits.awaitReply_polls {sent : Bool} (waits : Waits poll hop packet related)
    (done : Host.awaitReply poll hop packet (count + 1) host = some (sent, after)) :
    ∃ polled, poll host = some polled ∧ related polled after := by
  obtain ⟨polled, polls, done⟩ := Option.bind_eq_some_iff.mp done
  refine ⟨polled, polls, ?_⟩
  cases found : polled.arpLookup hop with
  | some dstMac =>
      rw [found] at done
      cases done
      exact waits.forwards polled dstMac found
  | none =>
      rw [found] at done
      exact waits.awaitReply done

/-- The next hop is asked for, and the card is polled. -/
theorem Waits.sendResolved_polls (waits : Waits poll hop packet related) (unknown : host.arpLookup hop = none)
    (done : Host.sendResolved poll hop packet (retry + 1) host = some after) :
    ∃ polled, poll (host.arpRequest hop) = some polled ∧ related polled after := by
  rw [Host.sendResolved, unknown] at done
  obtain ⟨⟨sent, waited⟩, awaits, done⟩ := Option.bind_eq_some_iff.mp done
  obtain ⟨polled, polls, first⟩ := waits.awaitReply_polls awaits
  refine ⟨polled, polls, ?_⟩
  cases sent with
  | true =>
      cases done
      exact first
  | false => exact waits.trans first (waits.sendResolved done)

/-- The packet is put together, and then sent or waited for. -/
theorem ipSend_prepared : ∃ prepared packet, Transmits host prepared ∧
    host.ipSend poll dstIp protocol payload = Host.sendResolved poll (prepared.nextHop dstIp) packet 5 prepared := by
  refine ⟨_, _, ?_, rfl⟩
  rfl

theorem tcpSendPacket_prepared : ∃ prepared packet, Transmits host prepared ∧
    host.tcpSendPacket poll conn flags data = prepared.ipSend poll (host.conns conn).remoteIp ipProtoTcp packet := by
  refine ⟨_, _, ?_, rfl⟩
  rfl

theorem Absorbs.ipSend_polls (absorbs : Absorbs poll related) (unknown : host.reaches dstIp = false)
    (done : host.ipSend poll dstIp protocol payload = some after) :
    ∃ asked polled, Transmits host asked ∧ poll asked = some polled ∧ related polled after := by
  obtain ⟨prepared, packet, transmits, same⟩ :
      ∃ prepared packet, Transmits host prepared ∧
        host.ipSend poll dstIp protocol payload = Host.sendResolved poll (prepared.nextHop dstIp) packet 5 prepared :=
    ipSend_prepared
  rw [same] at done
  rw [← transmits.reaches, Host.reaches, Option.isSome_eq_false_iff, Option.isNone_iff_eq_none] at unknown
  obtain ⟨polled, polls, further⟩ := (absorbs.waits _ _).sendResolved_polls unknown done
  exact ⟨_, polled, transmits.trans arpRequest_transmits, polls, further⟩

theorem Absorbs.tcpSendPacket_polls (absorbs : Absorbs poll related)
    (unknown : host.reaches (host.conns conn).remoteIp = false)
    (done : host.tcpSendPacket poll conn flags data = some after) :
    ∃ asked polled, Transmits host asked ∧ poll asked = some polled ∧ related polled after := by
  obtain ⟨prepared, packet, transmits, same⟩ :
      ∃ prepared packet, Transmits host prepared ∧
        host.tcpSendPacket poll conn flags data = prepared.ipSend poll (host.conns conn).remoteIp ipProtoTcp packet :=
    tcpSendPacket_prepared
  rw [same] at done
  rw [← transmits.reaches] at unknown
  obtain ⟨asked, polled, further, rest⟩ := absorbs.ipSend_polls unknown done
  exact ⟨asked, polled, transmits.trans further, rest⟩

end AutismOS.Network
