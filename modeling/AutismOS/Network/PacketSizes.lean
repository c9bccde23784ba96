import AutismOS.Network.Polling

namespace AutismOS.Network

open AutismOS.Library

variable {host before middle after : Host} {poll : Host → Option Host}
variable {depth dstIp hop protocol conn flags packet length srcIp ip count retry : Nat} {payload data content : List UInt8}
variable {dstMac : Mac}

/-! Sizes of packets on the way out. -/

/-- A write stays inside its buffer, and a sum is a 16-bit number. -/
def Effect.Fits : Effect → Prop
  | .write buffer offset count => offset + count ≤ buffer.size
  | .length sum => sum < 2 ^ 16

def Host.Fits (host : Host) : Prop := ∀ effect ∈ host.effects, effect.Fits

/-- The driver has a buffer for the next packet, or it refuses all packets. -/
def Host.Backed (host : Host) : Prop := host.ioBase = 0 ∨ host.txBuffers host.currentTx ≠ 0

/-- All four buffers are there, or there is no card. -/
def Host.Equipped (host : Host) : Prop := host.ioBase = 0 ∨ ∀ index, host.txBuffers index ≠ 0

/-- There are buffers for what is sent to an address: the next one where the next hop is known, and else
all of them, since the hop may be asked for again and again. -/
def Host.Supplied (host : Host) (dstIp : Nat) : Prop := if host.reaches dstIp then host.Backed else host.Equipped

/-- The card has the same ports and the same buffers. -/
structure SameCard (before after : Host) : Prop where
  ioBase : after.ioBase = before.ioBase
  txBuffers : after.txBuffers = before.txBuffers

/-- The record is the same as well. -/
structure SetAside (before after : Host) : Prop extends SameCard before after where
  effects : after.effects = before.effects

/-- The poll gives back the record that it finds, and leaves the buffers of the card. -/
def KeepsRecord (poll : Host → Option Host) : Prop := ∀ before after, poll before = some after → SetAside before after

/-- Whatever the polls in between bring, everything that is written fits. -/
def AlwaysFits (call : (Host → Option Host) → Option Host) : Prop :=
  ∀ poll, KeepsRecord poll → ∀ after, call poll = some after → after.Fits

theorem SameCard.trans (first : SameCard before middle) (second : SameCard middle after) : SameCard before after :=
  ⟨second.ioBase.trans first.ioBase, second.txBuffers.trans first.txBuffers⟩

theorem Transmits.sameCard (transmits : Transmits before after) : SameCard before after := by
  rw [transmits]
  exact ⟨rfl, rfl⟩

theorem Arrived.sameCard (arrived : Arrived before after) : SameCard before after := by
  rw [arrived]
  exact ⟨rfl, rfl⟩

theorem pollReceive_sameCard (done : Host.pollReceive depth host = some after) : SameCard host after := by
  induction depth generalizing host after with
  | zero => cases done
  | succ depth ih =>
      have absorbs : Absorbs (Host.pollReceive depth) SameCard := ⟨SameCard.trans, ih, Transmits.sameCard⟩
      have arrived : SameCard host host.arrive := arrive_arrived.sameCard
      refine arrived.trans ?_
      cases pollWith_polled done with
      | idle nothing => exact ⟨rfl, rfl⟩
      | reset corrupt => exact ⟨rfl, rfl⟩
      | skipped unusable => exact ⟨rfl, rfl⟩
      | delivered handled waiting handles =>
          have received : SameCard host.arrive.called handled :=
            absorbs.received (fun _ _ _ ioBase txBuffers => ⟨ioBase, txBuffers⟩) handles
          exact ⟨received.ioBase, received.txBuffers⟩

theorem pollReceive_keepsRecord : KeepsRecord (Host.pollReceive depth) := by
  intro before after done
  exact ⟨pollReceive_sameCard done, (pollReceive_records done).2⟩

/-- A poll that finds nothing. -/
theorem some_keepsRecord : KeepsRecord some := by
  intro before after done
  cases done
  exact ⟨⟨rfl, rfl⟩, rfl⟩

theorem note_extends (effect : Effect) : host.effects ⊆ (host.note effect).effects :=
  List.subset_cons_self effect host.effects

theorem rtl8139SendPacket_extends : host.effects ⊆ (host.rtl8139SendPacket data).2.effects := by
  rw [Host.rtl8139SendPacket]
  split
  · exact List.Subset.refl _
  · exact note_extends _

theorem ethernetSend_extends {ethType : Nat} : host.effects ⊆ (host.ethernetSend dstMac ethType payload).effects :=
  List.Subset.trans (List.Subset.trans (List.Subset.trans (note_extends _) (note_extends _)) (note_extends _))
    rtl8139SendPacket_extends

theorem note_fits {effect : Effect} : (host.note effect).Fits ↔ effect.Fits ∧ host.Fits := by
  rw [Host.Fits, Host.Fits, Host.note, List.forall_mem_cons]

/-- The driver refuses what its buffers cannot hold, but it does not ask whether there is one. -/
theorem rtl8139SendPacket_fits (nonempty : 0 < data.length) (short : data.length ≤ txBufSize) :
    (host.rtl8139SendPacket data).2.Fits ↔ host.Fits ∧ host.Backed := by
  rw [Host.rtl8139SendPacket, Host.Backed]
  by_cases absent : host.ioBase = 0
  · rw [if_pos (Or.inl absent)]
    exact (and_iff_left (Or.inl absent)).symm
  · rw [if_neg (not_or.mpr ⟨absent, Nat.not_lt.mpr short⟩)]
    have written : (Effect.write (.txBuffer (host.txBuffers host.currentTx)) 0 data.length).Fits ↔
        host.txBuffers host.currentTx ≠ 0 := by
      rw [Effect.Fits, Buffer.size, Nat.zero_add]
      split
      · next null => exact iff_of_false (by omega) (not_not.mpr null)
      · next given => exact iff_of_true short given
    have noted : (host.note (.write (.txBuffer (host.txBuffers host.currentTx)) 0 data.length)).Fits ↔ _ := note_fits
    rw [written] at noted
    exact noted.trans ⟨fun both => ⟨both.2, Or.inr both.1⟩, fun both => ⟨both.2.resolve_left absent, both.1⟩⟩

theorem ethernetSend_fits {ethType : Nat} (short : payload.length ≤ 1504) :
    (host.ethernetSend dstMac ethType payload).Fits ↔ host.Fits ∧ host.Backed := by
  rw [Host.ethernetSend, rtl8139SendPacket_fits]
  · rw [note_fits, note_fits, note_fits, Effect.Fits, Effect.Fits, Effect.Fits, Buffer.size, ethHeaderSize]
    have sums : 14 + payload.length < 2 ^ 16 ∧ 14 + payload.length ≤ 1518 ∧ 0 + 14 ≤ 1518 := by omega
    exact ⟨fun both => ⟨both.1.2.2.2, both.2⟩, fun both => ⟨⟨sums.1, sums.2.1, sums.2.2, both.1⟩, both.2⟩⟩
  all_goals
    simp only [Host.ethernetFrame, List.length_take, List.length_append, Mac.length, length_bytes16, ethHeaderSize, txBufSize]
    omega

theorem forward_fits (short : content.length ≤ 1500) :
    (host.forward dstMac content).Fits ↔ host.Fits ∧ host.Backed := by
  have sum : (Effect.length content.length).Fits := by
    rw [Effect.Fits]
    omega
  rw [Host.forward, ethernetSend_fits, note_fits]
  · exact and_congr (and_iff_right sum) Iff.rfl
  · rw [List.length_take]
    omega

/-- A request is of the same length as the packets of ARP. -/
theorem arpRequest_fits : (host.arpRequest ip).Fits ↔ host.Fits ∧ host.Backed := by
  refine ethernetSend_fits ?_
  simp only [Host.arpPacket, List.length_append, length_bytes16, length_bytes32, Mac.length, List.length_cons, List.length_nil]
  omega

theorem Host.Equipped.backed (equipped : host.Equipped) : host.Backed := equipped.imp_right fun all => all _

theorem Host.Equipped.same (equipped : before.Equipped) (same : SameCard before after) : after.Equipped := by
  rw [Host.Equipped, same.ioBase, same.txBuffers]
  exact equipped

/-- The record only grows, and a packet that fits into its buffer adds nothing that does not. -/
def Grows (short : Prop) (before after : Host) : Prop :=
  before.effects ⊆ after.effects ∧ (short → before.Equipped → before.Fits → after.Equipped ∧ after.Fits)

theorem grows_waits (keeps : KeepsRecord poll) : Waits poll hop content (Grows (content.length ≤ 1500)) := by
  refine ⟨fun _ => ⟨List.Subset.refl _, fun _ equipped fits => ⟨equipped, fits⟩⟩, fun first second => ?_, fun polls => ?_,
    fun host => ?_, fun host dstMac _ => ?_⟩
  · refine ⟨List.Subset.trans first.1 second.1, fun short equipped fits => ?_⟩
    obtain ⟨stillEquipped, stillFits⟩ := first.2 short equipped fits
    exact second.2 short stillEquipped stillFits
  · have same := keeps _ _ polls
    refine ⟨?_, fun _ equipped fits => ⟨equipped.same same.toSameCard, ?_⟩⟩
    · rw [same.effects]
      exact List.Subset.refl _
    · rw [Host.Fits, same.effects]
      exact fits
  · exact ⟨ethernetSend_extends, fun _ equipped fits =>
      ⟨equipped.same arpRequest_transmits.sameCard, arpRequest_fits.mpr ⟨fits, equipped.backed⟩⟩⟩
  · exact ⟨List.Subset.trans (note_extends _) ethernetSend_extends, fun short equipped fits =>
      ⟨equipped.same forward_transmits.sameCard, (forward_fits short).mpr ⟨fits, equipped.backed⟩⟩⟩

theorem awaitReply_silent (unknown : host.arpLookup hop = none) :
    Host.awaitReply some hop content count host = some (false, host) := by
  induction count with
  | zero => rfl
  | succ count ih => rw [Host.awaitReply, Option.bind_some, unknown, ih]

theorem sendResolved_silent (unknown : host.arpLookup hop = none) :
    Host.sendResolved some hop content retry host = some ((fun host => host.arpRequest hop)^[retry] host) := by
  induction retry generalizing host with
  | zero => rfl
  | succ retry ih =>
      have transmits : Transmits host (host.arpRequest hop) := arpRequest_transmits
      have still : (host.arpRequest hop).arpLookup hop = none := by
        rw [transmits]
        exact unknown
      rw [Host.sendResolved, unknown]
      dsimp only
      rw [awaitReply_silent still, Option.bind_some, if_neg Bool.false_ne_true, ih still, Function.iterate_succ_apply]

/-- A request that is accepted moves on to the next buffer. -/
theorem arpRequest_currentTx (card : host.ioBase ≠ 0) : (host.arpRequest ip).currentTx = host.currentTx + 1 := by
  rw [Host.arpRequest, Host.ethernetSend, Host.rtl8139SendPacket, if_neg]
  · rfl
  · refine not_or.mpr ⟨card, ?_⟩
    simp only [Host.ethernetFrame, Host.arpPacket, List.length_take, List.length_append, Mac.length, length_bytes16,
      length_bytes32, List.length_cons, List.length_nil, ethHeaderSize, txBufSize]
    omega

theorem arpRequests_fits (fits : ((fun host => host.arpRequest hop)^[retry] host).Fits) :
    host.Fits ∧ (host.ioBase = 0 ∨ ∀ count < retry, host.txBuffers ((· + 1)^[count] host.currentTx) ≠ 0) := by
  induction retry generalizing host with
  | zero => exact ⟨fits, Or.inr nofun⟩
  | succ retry ih =>
      rw [Function.iterate_succ_apply] at fits
      obtain ⟨first, later⟩ := ih fits
      obtain ⟨before, backed⟩ := arpRequest_fits.mp first
      refine ⟨before, ?_⟩
      by_cases absent : host.ioBase = 0
      · exact Or.inl absent
      · obtain ⟨ioBase, txBuffers⟩ : SameCard host (host.arpRequest hop) := arpRequest_transmits.sameCard
        have others := later.resolve_left (ioBase ▸ absent)
        rw [txBuffers, arpRequest_currentTx absent] at others
        refine Or.inr fun count below => ?_
        cases count with
        | zero => exact backed.resolve_left absent
        | succ count => exact others count (Nat.lt_of_succ_lt_succ below)

/-- Five requests go round all the buffers. -/
theorem exists_iterate (current index : Fin 4) : ∃ count < 5, (· + 1)^[count] current = index := by
  revert current index
  decide

theorem sendResolved_returns : ∃ after, Host.sendResolved some hop content (retry + 1) host = some after := by
  cases found : host.arpLookup hop with
  | some dstMac => exact ⟨_, sendResolved_known found⟩
  | none => exact ⟨_, sendResolved_silent found⟩

theorem sendResolved_alwaysFits (short : host.Fits → content.length ≤ 1500) :
    AlwaysFits (fun poll => Host.sendResolved poll (host.nextHop dstIp) content 5 host) ↔
      host.Fits ∧ host.Supplied dstIp := by
  constructor
  · intro always
    obtain ⟨after, sends⟩ : ∃ after, Host.sendResolved some (host.nextHop dstIp) content 5 host = some after :=
      sendResolved_returns
    have all := always some some_keepsRecord after sends
    have fits : host.Fits := fun effect member =>
      all effect (((grows_waits some_keepsRecord).sendResolved sends).1 member)
    refine ⟨fits, ?_⟩
    rw [Host.Supplied, Host.reaches]
    cases found : host.arpLookup (host.nextHop dstIp) with
    | some dstMac =>
        cases (sendResolved_known found).symm.trans sends
        exact ((forward_fits (short fits)).mp all).2
    | none =>
        cases (sendResolved_silent found).symm.trans sends
        refine (arpRequests_fits all).2.imp_right fun given index => ?_
        obtain ⟨count, below, rfl⟩ := exists_iterate host.currentTx index
        exact given count below
  · intro both poll keeps after done
    obtain ⟨fits, supplied⟩ := both
    rw [Host.Supplied, Host.reaches] at supplied
    cases found : host.arpLookup (host.nextHop dstIp) with
    | some dstMac =>
        rw [found] at supplied
        cases (sendResolved_known found).symm.trans done
        exact (forward_fits (short fits)).mpr ⟨fits, supplied⟩
    | none =>
        rw [found] at supplied
        exact (((grows_waits keeps).sendResolved done).2 (short fits) supplied fits).2

/-- The state in which `ip_send` looks for the next hop. -/
def Host.prepared (host : Host) (length : Nat) : Host :=
  ((({ host with ipId := (host.ipId + 1) % 2 ^ 16 } : Host).note (.write .ipPacket 0 ipHeaderSize)).note
    (.write .ipPacket ipHeaderSize length)).note (.length (ipHeaderSize + length))

theorem prepared_fits {length : Nat} : (host.prepared length).Fits ↔ length ≤ 1480 ∧ host.Fits := by
  have same : ({ host with ipId := (host.ipId + 1) % 2 ^ 16 } : Host).Fits ↔ host.Fits := Iff.rfl
  rw [Host.prepared, note_fits, note_fits, note_fits, same, Effect.Fits, Effect.Fits, Effect.Fits, Buffer.size, ipHeaderSize]
  constructor
  · exact fun all => ⟨by omega, all.2.2.2⟩
  · exact fun both => ⟨by omega, by omega, by omega, both.2⟩

theorem ipSend_alwaysFits :
    AlwaysFits (fun poll => host.ipSend poll dstIp protocol payload) ↔
      payload.length ≤ 1480 ∧ host.Fits ∧ host.Supplied dstIp := by
  have short : (host.prepared payload.length).Fits →
      (host.ipHeader dstIp protocol payload.length ++ payload).length ≤ 1500 := by
    intro fits
    have bounded := (prepared_fits.mp fits).1
    rw [List.length_append, length_ipHeader]
    omega
  have sends : AlwaysFits (fun poll => host.ipSend poll dstIp protocol payload) ↔
      (host.prepared payload.length).Fits ∧ host.Supplied dstIp := sendResolved_alwaysFits short
  rw [sends, prepared_fits, and_assoc]

theorem length_tcpHeader {connection : TcpConnection} {checksum : Nat} :
    (Host.tcpHeader connection flags checksum).length = 20 := rfl

theorem tcpSendPacket_alwaysFits :
    AlwaysFits (fun poll => host.tcpSendPacket poll conn flags data) ↔
      data.length ≤ 1460 ∧ host.Fits ∧ host.Supplied (host.conns conn).remoteIp := by
  have noted {count : Nat} : (((host.note (.write .tcpPacket 0 tcpHeaderSize)).note
      (.write .tcpPacket tcpHeaderSize count)).note (.length (tcpHeaderSize + count))).Fits ↔
        count ≤ 1480 ∧ host.Fits := by
    rw [note_fits, note_fits, note_fits, Effect.Fits, Effect.Fits, Effect.Fits, Buffer.size, tcpHeaderSize]
    constructor
    · exact fun all => ⟨by omega, all.2.2.2⟩
    · exact fun both => ⟨by omega, by omega, by omega, both.2⟩
  have sends : AlwaysFits (fun poll => host.tcpSendPacket poll conn flags data) ↔ _ ∧ _ ∧
      host.Supplied (host.conns conn).remoteIp := ipSend_alwaysFits
  rw [sends, noted, List.length_take, List.length_append, length_tcpHeader, tcpHeaderSize]
  constructor
  · exact fun all => ⟨by omega, all.2.1.2, all.2.2⟩
  · exact fun all => ⟨by omega, ⟨by omega, all.2.1⟩, all.2.2⟩

/-- What is done after the call is not recorded. -/
theorem alwaysFits_map {call : (Host → Option Host) → Option Host} {change : Host → Host}
    (same : ∀ host, (change host).effects = host.effects) :
    AlwaysFits (fun poll => (call poll).map change) ↔ AlwaysFits call := by
  have fits (host : Host) : (change host).Fits ↔ host.Fits := by
    rw [Host.Fits, Host.Fits, same]
  constructor
  · exact fun always poll keeps after done =>
      (fits after).mp (always poll keeps _ (Option.map_eq_some_iff.mpr ⟨after, done, rfl⟩))
  · intro always poll keeps after done
    obtain ⟨sent, sends, rfl⟩ := Option.map_eq_some_iff.mp done
    exact (fits sent).mpr (always poll keeps sent sends)

theorem fits_of_clean (clean : host.effects = []) : host.Fits := by
  rw [Host.Fits, clean]
  exact nofun

theorem tcpSend_alwaysFits (clean : host.effects = []) (nonNull : conn ≠ 0)
    (established : (host.conns conn).state = .established) :
    AlwaysFits (fun poll => (host.tcpSend poll conn data).map Prod.snd) ↔
      data.length ≤ 1460 ∧ host.Supplied (host.conns conn).remoteIp := by
  have isOpen : ¬ (conn = 0 ∨ (host.conns conn).state ≠ .established) := not_or.mpr ⟨nonNull, not_not.mpr established⟩
  have sends (poll : Host → Option Host) : (host.tcpSend poll conn data).map Prod.snd =
      (host.tcpSendPacket poll conn (tcpFlagPsh ||| tcpFlagAck) data).map fun host =>
        host.setConn conn { host.conns conn with seqNum := add32 (host.conns conn).seqNum data.length } := by
    rw [Host.tcpSend, if_neg isOpen, Option.map_map]
    rfl
  have packets : AlwaysFits (fun poll => (host.tcpSend poll conn data).map Prod.snd) ↔
      AlwaysFits (fun poll => host.tcpSendPacket poll conn (tcpFlagPsh ||| tcpFlagAck) data) := by
    simp only [sends]
    exact alwaysFits_map fun _ => rfl
  rw [packets, tcpSendPacket_alwaysFits]
  exact and_congr_right fun _ => and_iff_right (fits_of_clean clean)

theorem icmpAnswer_fields : ∃ memory touched, host.icmpAnswer packet length = { host with memory, touched } := by
  have accessed : Accessed host (((host.touch packet 1).touch (packet + 2) 2).touch packet length) :=
    (touch_accessed.trans touch_accessed).trans touch_accessed
  exact ⟨_, _, congrArg (fun parsed : Host => { parsed with memory := (host.icmpAnswer packet length).memory }) accessed⟩

theorem icmpReceive_alwaysFits (clean : host.effects = []) (long : icmpHeaderSize ≤ length)
    (request : (host.memory.loadByte packet).toNat = icmpTypeEchoRequest) :
    AlwaysFits (fun poll => host.icmpReceive poll packet length srcIp) ↔ length ≤ 1480 ∧ host.Supplied srcIp := by
  have answers (poll : Host → Option Host) : host.icmpReceive poll packet length srcIp =
      ((host.touch packet 1).icmpAnswer packet length).ipSend poll srcIp ipProtoIcmp
        (((host.touch packet 1).icmpAnswer packet length).memory.loadBytes packet length) := by
    simp only [Host.icmpReceive, touch_memory, if_neg (Nat.not_lt.mpr long), if_pos request]
  obtain ⟨touchedBefore, touch⟩ : ∃ touched, host.touch packet 1 = { host with touched } := touch_fields
  obtain ⟨memory, touched, fields⟩ : ∃ memory touched, (host.touch packet 1).icmpAnswer packet length =
      { host.touch packet 1 with memory, touched } := icmpAnswer_fields
  rw [touch] at fields
  have fits : ((host.touch packet 1).icmpAnswer packet length).Fits := by
    rw [touch, fields]
    exact fits_of_clean clean
  have supplied : ((host.touch packet 1).icmpAnswer packet length).Supplied srcIp ↔ host.Supplied srcIp := by
    rw [touch, fields]
    exact Iff.rfl
  simp only [answers]
  rw [ipSend_alwaysFits, ByteMemory.length_loadBytes, supplied]
  exact and_congr_right fun _ => and_iff_right fits

/-- What is sent on a connection fits into the buffers, whatever the polls bring, exactly up to 1460 bytes
of data, and an answer to an echo request exactly up to 1480 bytes, where the buffers of the card exist. -/
theorem sent_fits_iff (clean : host.effects = []) :
    (∀ conn data, conn ≠ 0 → (host.conns conn).state = .established →
      (AlwaysFits (fun poll => (host.tcpSend poll conn data).map Prod.snd) ↔
        data.length ≤ 1460 ∧ host.Supplied (host.conns conn).remoteIp)) ∧
    (∀ packet length srcIp, icmpHeaderSize ≤ length →
      (host.memory.loadByte packet).toNat = icmpTypeEchoRequest →
      (AlwaysFits (fun poll => host.icmpReceive poll packet length srcIp) ↔ length ≤ 1480 ∧ host.Supplied srcIp)) :=
  ⟨fun _ _ nonNull established => tcpSend_alwaysFits clean nonNull established,
    fun _ _ _ long request => icmpReceive_alwaysFits clean long request⟩

theorem tcpSend_known (nonNull : conn ≠ 0)
    (established : (host.conns conn).state = .established)
    (reaches : host.reaches (host.conns conn).remoteIp = true) :
    ∃ after, host.tcpSend poll conn data = some ((data.length : Int), after) := by
  obtain ⟨after, sends, _⟩ := tcpSendPacket_known reaches
  rw [Host.tcpSend, if_neg (not_or.mpr ⟨nonNull, not_not.mpr established⟩), sends]
  exact ⟨_, rfl⟩

/-- Where the next hop is known, the card is not polled. -/
theorem ipSend_unpolled {other : Host → Option Host} (reaches : host.reaches dstIp = true) :
    host.ipSend poll dstIp protocol payload = host.ipSend other dstIp protocol payload := by
  obtain ⟨dstMac, found⟩ := Option.isSome_iff_exists.mp reaches
  have sends (poll : Host → Option Host) : host.ipSend poll dstIp protocol payload =
      some ((host.prepared payload.length).forward dstMac (host.ipHeader dstIp protocol payload.length ++ payload)) :=
    sendResolved_known found
  rw [sends, sends]

theorem tcpSend_unpolled {other : Host → Option Host} (reaches : host.reaches (host.conns conn).remoteIp = true) :
    host.tcpSend poll conn data = host.tcpSend other conn data := by
  have packets : host.tcpSendPacket poll conn (tcpFlagPsh ||| tcpFlagAck) data =
      host.tcpSendPacket other conn (tcpFlagPsh ||| tcpFlagAck) data := ipSend_unpolled reaches
  rw [Host.tcpSend, Host.tcpSend, packets]

theorem tcpSend_fits {result : Int} (clean : host.effects = []) (nonNull : conn ≠ 0)
    (established : (host.conns conn).state = .established) (reaches : host.reaches (host.conns conn).remoteIp = true)
    (done : host.tcpSend poll conn data = some (result, after)) :
    after.Fits ↔ data.length ≤ 1460 ∧ host.Supplied (host.conns conn).remoteIp := by
  rw [← tcpSend_alwaysFits clean nonNull established]
  have same (other : Host → Option Host) : (host.tcpSend other conn data).map Prod.snd = some after := by
    rw [tcpSend_unpolled reaches, done, Option.map_some]
  constructor
  · intro fits other _ later sends
    cases (same other).symm.trans sends
    exact fits
  · exact fun always => always some some_keepsRecord after (same some)

theorem sent_fits_largest :
    ∃ after, connectedHost.tcpSend (Host.pollReceive 1) 0x300000 (List.replicate 1460 0) = some (1460, after) ∧
      after.Fits := by
  obtain ⟨after, done⟩ : ∃ after, connectedHost.tcpSend (Host.pollReceive 1) 0x300000 (List.replicate 1460 0) =
      some (((List.replicate 1460 (0 : UInt8)).length : Int), after) := tcpSend_known (by decide) rfl (by decide)
  rw [List.length_replicate] at done
  have supplied : connectedHost.Supplied 0x0302000A := Or.inr (by decide)
  have always := ((sent_fits_iff rfl).1 0x300000 (List.replicate 1460 0) (by decide) rfl).mpr
    ⟨Nat.le_of_eq List.length_replicate, supplied⟩
  exact ⟨after, done, always (Host.pollReceive 1) pollReceive_keepsRecord after (congrArg (Option.map Prod.snd) done)⟩

/-- `kmalloc` had no block for the driver. -/
def bufferlessHost : Host := { connectedHost with txBuffers := fun _ => 0 }

/-- One more byte of data does not fit into the packet of `ip_send`, and without a buffer nothing does. -/
theorem tcpSend_overflows :
    (∃ after, connectedHost.tcpSend (Host.pollReceive 1) 0x300000 (List.replicate 1461 0) = some (1461, after) ∧
      ¬ after.Fits) ∧
    ∃ after, bufferlessHost.tcpSend (Host.pollReceive 1) 0x300000 [0x68, 0x69] = some (2, after) ∧ ¬ after.Fits := by
  constructor
  · obtain ⟨after, done⟩ : ∃ after, connectedHost.tcpSend (Host.pollReceive 1) 0x300000 (List.replicate 1461 0) =
        some (((List.replicate 1461 (0 : UInt8)).length : Int), after) := tcpSend_known (by decide) rfl (by decide)
    rw [List.length_replicate] at done
    refine ⟨after, done, fun fits => ?_⟩
    have short := ((tcpSend_fits rfl (by decide) rfl (by decide) done).mp fits).1
    rw [List.length_replicate] at short
    omega
  · obtain ⟨after, done⟩ : ∃ after, bufferlessHost.tcpSend (Host.pollReceive 1) 0x300000 [0x68, 0x69] =
        some (2, after) := tcpSend_known (by decide) rfl (by decide)
    refine ⟨after, done, fun fits => ?_⟩
    have backed : bufferlessHost.Backed := ((tcpSend_fits rfl (by decide) rfl (by decide) done).mp fits).2
    exact backed.elim (by decide) fun given => given rfl

end AutismOS.Network
