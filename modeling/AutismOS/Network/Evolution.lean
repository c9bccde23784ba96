import AutismOS.Network.Polling

namespace AutismOS.Network

open AutismOS.Library

variable {host before middle after : Host} {poll : Host → Option Host} {segment : Host.Segment}
variable {packet length srcIp conn ip depth frame frameLen address count : Nat} {mac : Mac} {content : TcpConnection}

/-- The settings of the drivers are the same, and of the connections only the active one may be
different; who it is with stays, and it does not go back to `TCP_SYN_SENT`. -/
structure Evolved (before after : Host) : Prop where
  localIp : after.localIp = before.localIp
  netmask : after.netmask = before.netmask
  gatewayIp : after.gatewayIp = before.gatewayIp
  activeConn : after.activeConn = before.activeConn
  others : ∀ conn, conn ≠ before.activeConn → after.conns conn = before.conns conn
  remoteIp : ∀ conn, (after.conns conn).remoteIp = (before.conns conn).remoteIp
  state : ∀ conn, (after.conns conn).state = .synSent → (before.conns conn).state = .synSent
  known : ∀ ip mac, before.arpLookup ip = some mac → after.arpLookup ip = some mac

theorem Evolved.refl : Evolved host host :=
  ⟨rfl, rfl, rfl, rfl, fun _ _ => rfl, fun _ => rfl, fun _ same => same, fun _ _ found => found⟩

theorem Evolved.trans (first : Evolved before middle) (second : Evolved middle after) : Evolved before after :=
  ⟨second.localIp.trans first.localIp, second.netmask.trans first.netmask, second.gatewayIp.trans first.gatewayIp,
    second.activeConn.trans first.activeConn,
    fun conn different => (second.others conn fun same => different (same.trans first.activeConn)).trans
      (first.others conn different),
    fun conn => (second.remoteIp conn).trans (first.remoteIp conn),
    fun conn same => first.state conn (second.state conn same),
    fun ip mac found => second.known ip mac (first.known ip mac found)⟩

/-- Edits of anything but settings, connections and the cache. -/
theorem evolved_of_eq (localIp : after.localIp = before.localIp) (netmask : after.netmask = before.netmask)
    (gatewayIp : after.gatewayIp = before.gatewayIp) (activeConn : after.activeConn = before.activeConn)
    (conns : after.conns = before.conns) (arpCache : after.arpCache = before.arpCache) : Evolved before after := by
  refine ⟨localIp, netmask, gatewayIp, activeConn, fun conn _ => congrFun conns conn, fun conn => ?_, fun conn same => ?_,
    fun ip mac found => ?_⟩
  · rw [conns]
  · rw [conns] at same
    exact same
  · rw [Host.arpLookup, arpCache]
    exact found

theorem Transmits.evolved (transmits : Transmits before after) : Evolved before after := by
  rw [transmits]
  exact evolved_of_eq rfl rfl rfl rfl rfl rfl

theorem Arrived.evolved (arrived : Arrived before after) : Evolved before after := by
  rw [arrived]
  exact evolved_of_eq rfl rfl rfl rfl rfl rfl

theorem Accessed.evolved (accessed : Accessed before after) : Evolved before after := by
  rw [accessed]
  exact evolved_of_eq rfl rfl rfl rfl rfl rfl

theorem touch_evolved : Evolved host (host.touch address count) := touch_accessed.evolved

theorem setConn_evolved (remoteIp : content.remoteIp = (host.conns host.activeConn).remoteIp)
    (state : content.state = .synSent → (host.conns host.activeConn).state = .synSent) :
    Evolved host (host.setConn host.activeConn content) := by
  refine ⟨rfl, rfl, rfl, rfl, fun conn different => ?_, fun conn => ?_, fun conn same => ?_, fun _ _ found => found⟩
  · exact setConn_conns.trans (if_neg different)
  · rw [setConn_conns]
    split
    · next isActive => rw [isActive, remoteIp]
    · rfl
  · rw [setConn_conns] at same
    split at same
    · next isActive =>
        rw [isActive]
        exact state same
    · exact same

/-- Filling a free entry for an address that is not there hides no other entry. -/
theorem fillEntry_find {entries : List ArpEntry} {senderMac : Mac} {senderIp : Nat} {found : ArpEntry}
    (absent : (entries.any fun entry => entry.valid && entry.ip = senderIp) ≠ true)
    (isFound : (entries.find? fun entry => entry.valid && entry.ip = ip) = some found) :
    ((Host.fillEntry senderIp senderMac entries).find? fun entry => entry.valid && entry.ip = ip) = some found := by
  have different : senderIp ≠ ip := by
    intro same
    have holds := List.find?_some isFound
    rw [← same] at holds
    exact absent (List.any_eq_true.mpr ⟨found, List.mem_of_find?_eq_some isFound, holds⟩)
  clear absent
  induction entries with
  | nil => cases isFound
  | cons entry rest ih =>
      rw [Host.fillEntry]
      cases valid : entry.valid with
      | true =>
          rw [if_pos rfl]
          rw [List.find?_cons] at isFound ⊢
          cases fits : entry.valid && decide (entry.ip = ip) with
          | true =>
              rw [fits] at isFound
              exact isFound
          | false =>
              rw [fits] at isFound
              exact ih isFound
      | false =>
          rw [if_neg Bool.false_ne_true]
          rw [List.find?_cons] at isFound ⊢
          rw [valid] at isFound
          rw [decide_eq_false different]
          exact isFound

theorem arpLearn_evolved : Evolved host (host.arpLearn packet) := by
  simp only [Host.arpLearn]
  by_cases found : ((host.touch (packet + 14) 4).touch (packet + 8) 6).arpCache.any fun entry =>
      entry.valid && entry.ip = ((host.touch (packet + 14) 4).touch (packet + 8) 6).memory.loadWord (packet + 14)
  · rw [if_pos found]
    exact touch_evolved.trans touch_evolved
  · rw [if_neg found]
    refine ⟨rfl, rfl, rfl, rfl, fun _ _ => rfl, fun _ => rfl, fun _ same => same, fun ip mac isKnown => ?_⟩
    obtain ⟨entry, isFound, isMac⟩ := Option.map_eq_some_iff.mp isKnown
    exact Option.map_eq_some_iff.mpr ⟨entry, fillEntry_find found isFound, isMac⟩

theorem arpReceive_evolved : Evolved host (host.arpReceive packet length) := by
  simp only [Host.arpReceive]
  split
  · exact .refl
  · have header : Evolved host ((host.touch (packet + 6) 2).touch (packet + 24) 4) := touch_evolved.trans touch_evolved
    split
    · split
      · exact (header.trans arpLearn_evolved).trans (touch_evolved.trans ethernetSend_transmits.evolved)
      · exact header.trans arpLearn_evolved
    · exact header

/-- Every poll that returns leaves the same alone. -/
def Evolves (poll : Host → Option Host) : Prop := ∀ before after, poll before = some after → Evolved before after

theorem Evolves.absorbs (evolves : Evolves poll) : Absorbs poll Evolved :=
  ⟨Evolved.trans, fun polls => evolves _ _ polls, Transmits.evolved⟩

theorem icmpReceive_evolved (evolves : Evolves poll) (done : host.icmpReceive poll packet length srcIp = some after) :
    Evolved host after := by
  simp only [Host.icmpReceive] at done
  split at done
  · cases done
    exact .refl
  · split at done
    · have answered : Evolved (host.touch packet 1) ((host.touch packet 1).icmpAnswer packet length) := by
        have accessed : Evolved (host.touch packet 1)
            ((((host.touch packet 1).touch packet 1).touch (packet + 2) 2).touch packet length) :=
          (touch_evolved.trans touch_evolved).trans touch_evolved
        refine accessed.trans ?_
        exact evolved_of_eq rfl rfl rfl rfl rfl rfl
      exact (touch_evolved.trans answered).trans (evolves.absorbs.ipSend done)
    · split at done
      · cases done
        have accessed : Evolved host (host.touch packet 1) := touch_evolved
        exact accessed.trans (evolved_of_eq rfl rfl rfl rfl rfl rfl)
      · cases done
        exact touch_evolved

theorem tcpEstablish_evolved (evolves : Evolves poll)
    (done : host.tcpEstablish poll host.activeConn segment = some after) : Evolved host after := by
  rw [Host.tcpEstablish] at done
  split at done
  · refine Evolved.trans ?_ (evolves.absorbs.tcpSendPacket done)
    refine setConn_evolved rfl ?_
    intro closed
    cases closed
  · cases done
    exact .refl

theorem tcpStore_evolved (evolves : Evolves poll)
    (done : host.tcpStore poll host.activeConn segment packet length = some after) : Evolved host after := by
  by_cases data : 0 < Host.dataLen segment length
  · obtain ⟨accessed, isAccessed, same⟩ :
      ∃ accessed, Accessed host accessed ∧ host.tcpStore poll host.activeConn segment packet length = _ := tcpStore_eq data
    rw [same] at done
    have active : accessed.activeConn = host.activeConn := by rw [isAccessed]
    have conns : accessed.conns = host.conns := by rw [isAccessed]
    apply isAccessed.evolved.trans (Evolved.trans ?_ (evolves.absorbs.tcpSendPacket done))
    rw [← active]
    apply setConn_evolved
    · rw [stored_remoteIp, active, conns]
    · rw [stored_state, active, conns]
      exact id
  · rw [Host.tcpStore, if_neg data] at done
    cases done
    exact .refl

theorem tcpFinish_evolved (evolves : Evolves poll)
    (done : host.tcpFinish poll host.activeConn segment = some after) : Evolved host after := by
  rw [Host.tcpFinish] at done
  split at done
  · obtain ⟨sent, sends, rfl⟩ := Option.map_eq_some_iff.mp done
    have acknowledged : Evolved host
        (host.setConn host.activeConn
          { host.conns host.activeConn with ackNum := add32 segment.seq 1 }) := setConn_evolved rfl id
    have before := acknowledged.trans (evolves.absorbs.tcpSendPacket sends)
    refine before.trans ?_
    rw [← before.activeConn]
    refine setConn_evolved rfl ?_
    intro closed
    cases closed
  · cases done
    exact .refl

theorem tcpReceive_evolved (evolves : Evolves poll) (done : host.tcpReceive poll packet length srcIp = some after) :
    Evolved host after := by
  cases tcpReceive_handled done with
  | ignored _ accessed reason => exact accessed.evolved
  | answered parsed _ accessed forActive synSent establishes =>
      exact accessed.evolved.trans (tcpEstablish_evolved evolves establishes)
  | continued parsed stored _ accessed forActive established stores finishes =>
      exact (accessed.evolved.trans (tcpStore_evolved evolves stores)).trans (tcpFinish_evolved evolves finishes)

theorem receive_evolved (evolves : Evolves poll) (done : host.receive poll frame frameLen = some after) :
    Evolved host after := by
  cases receive_dispatched done with
  | ignored _ accessed => exact accessed.evolved
  | arp parsed accessed => exact accessed.evolved.trans arpReceive_evolved
  | icmp parsed _ accessed addressed protocol handles =>
      exact accessed.evolved.trans (icmpReceive_evolved evolves handles)
  | tcp parsed _ accessed addressed protocol handles =>
      exact accessed.evolved.trans (tcpReceive_evolved evolves handles)

theorem pollReceive_evolves : Evolves (Host.pollReceive depth) := by
  induction depth with
  | zero => exact nofun
  | succ depth ih =>
      intro before after done
      refine arrive_arrived.evolved.trans ?_
      cases pollWith_polled done with
      | idle nothing => exact .refl
      | reset corrupt => exact evolved_of_eq rfl rfl rfl rfl rfl rfl
      | skipped unusable => exact evolved_of_eq rfl rfl rfl rfl rfl rfl
      | delivered handled waiting handles =>
          have called : Evolved before.arrive before.arrive.called := evolved_of_eq rfl rfl rfl rfl rfl rfl
          refine (called.trans (receive_evolved ih handles)).trans ?_
          exact evolved_of_eq rfl rfl rfl rfl rfl rfl

end AutismOS.Network
