import AutismOS.Library.Run
import AutismOS.Network.Connections
import AutismOS.Network.Quiet

namespace AutismOS.Network

open AutismOS.Library

variable {host before middle after : Host} {poll : Host → Option Host} {conn packet length srcIp depth flags number : Nat}
variable {data : List UInt8} {segment : Host.Segment}

/-! The numbers of what is sent. -/

namespace Host

variable (host : Host)

/-- The packet that `tcp_send_packet` hands to `ip_send`. -/
def tcpPacket (conn flags : Nat) (data : List UInt8) : List UInt8 :=
  let connection := host.conns conn
  let totalLen := (tcpHeaderSize + data.length) % 2 ^ 16
  let packet (checksum : Nat) : List UInt8 := (tcpHeader connection flags checksum ++ data).take totalLen
  packet (tcpChecksum host.localIp connection.remoteIp (packet 0))

def tracedSendPacket (poll : Host → Option Host) (conn flags : Nat) (data : List UInt8) :
    Option (List (List UInt8) × Host) :=
  (host.tcpSendPacket poll conn flags data).map fun after => ([host.tcpPacket conn flags data], after)

def tracedEstablish (poll : Host → Option Host) (conn : Nat) (segment : Segment) : Option (List (List UInt8) × Host) :=
  if hasFlag segment.flags tcpFlagSyn && hasFlag segment.flags tcpFlagAck then
    let host := host.setConn conn { host.conns conn with ackNum := add32 segment.seq 1, state := .established }
    host.tracedSendPacket poll conn tcpFlagAck []
  else some ([], host)

def tracedStore (poll : Host → Option Host) (conn : Nat) (segment : Segment) (packet length : Nat) :
    Option (List (List UInt8) × Host) :=
  let dataLen := dataLen segment length
  if 0 < dataLen then
    let copyLen := min dataLen recvBufferSize
    let host := host.touch (packet + segment.headerLen) copyLen
    let connection := host.conns conn
    let host := host.setConn conn
      { connection with
        recvBuffer := host.memory.loadBytes (packet + segment.headerLen) copyLen ++ connection.recvBuffer.drop copyLen
        recvLen := copyLen
        dataReady := true
        ackNum := add32 segment.seq dataLen }
    host.tracedSendPacket poll conn tcpFlagAck []
  else some ([], host)

def tracedFinish (poll : Host → Option Host) (conn : Nat) (segment : Segment) : Option (List (List UInt8) × Host) :=
  if hasFlag segment.flags tcpFlagFin then
    let host := host.setConn conn { host.conns conn with ackNum := add32 segment.seq 1 }
    (host.tracedSendPacket poll conn tcpFlagAck []).map fun (handed, host) =>
      (handed, host.setConn conn { host.conns conn with state := .closed })
  else some ([], host)

def tracedReceive (poll : Host → Option Host) (packet length srcIp : Nat) : Option (List (List UInt8) × Host) :=
  if length < tcpHeaderSize then some ([], host)
  else if host.activeConn = 0 then some ([], host)
  else
    let host := host.touch packet 12
    let segment := host.loadSegment packet
    if !host.addressed host.activeConn segment srcIp then some ([], host)
    else
      let host := (host.touch (packet + 13) 1).touch (packet + 12) 1
      match (host.conns host.activeConn).state with
      | .synSent => host.tracedEstablish poll host.activeConn segment
      | .established =>
          (host.tracedStore poll host.activeConn segment packet length).bind fun (handed, host) =>
            (host.tracedFinish poll host.activeConn segment).map fun (more, host) => (handed ++ more, host)
      | _ => some ([], host)

def tracedSend (poll : Host → Option Host) (conn : Nat) (data : List UInt8) : Option (Int × List (List UInt8) × Host) :=
  if conn = 0 ∨ (host.conns conn).state ≠ .established then some (-1, [], host)
  else
    (host.tracedSendPacket poll conn (tcpFlagPsh ||| tcpFlagAck) data).map fun (handed, host) =>
      (data.length, handed,
        host.setConn conn { host.conns conn with seqNum := add32 (host.conns conn).seqNum data.length })

def tracedClose (poll : Host → Option Host) (conn : Nat) : Option (List (List UInt8) × Host) :=
  if conn = 0 ∨ (host.conns conn).state = .closed then some ([], host)
  else
    (host.tracedSendPacket poll conn (tcpFlagFin ||| tcpFlagAck) []).map fun (handed, host) =>
      let host := host.setConn conn { host.conns conn with state := .closed }
      (handed, if host.activeConn = conn then { host with activeConn := 0 } else host)

end Host

/-- What is recorded is what `ip_send` gets. -/
theorem tcpSendPacket_hands : ∃ prepared, Transmits host prepared ∧
    host.tcpSendPacket poll conn flags data =
      prepared.ipSend poll (host.conns conn).remoteIp ipProtoTcp (host.tcpPacket conn flags data) := by
  refine ⟨_, ?_, rfl⟩
  rfl

theorem tracedSendPacket_snd : (host.tracedSendPacket poll conn flags data).map Prod.snd =
    host.tcpSendPacket poll conn flags data := by
  rw [Host.tracedSendPacket, Option.map_map]
  exact congrFun Option.map_id _

theorem tracedEstablish_snd : (host.tracedEstablish poll conn segment).map Prod.snd = host.tcpEstablish poll conn segment := by
  rw [Host.tracedEstablish, Host.tcpEstablish]
  split
  · exact tracedSendPacket_snd
  · rfl

theorem tracedStore_snd :
    (host.tracedStore poll conn segment packet length).map Prod.snd = host.tcpStore poll conn segment packet length := by
  rw [Host.tracedStore, Host.tcpStore]
  dsimp only
  split
  · exact tracedSendPacket_snd
  · rfl

theorem tracedFinish_snd : (host.tracedFinish poll conn segment).map Prod.snd = host.tcpFinish poll conn segment := by
  rw [Host.tracedFinish, Host.tcpFinish]
  dsimp only
  split
  · rw [← tracedSendPacket_snd, Option.map_map, Option.map_map]
    rfl
  · rfl

theorem tracedReceive_snd :
    (host.tracedReceive poll packet length srcIp).map Prod.snd = host.tcpReceive poll packet length srcIp := by
  simp only [Host.tracedReceive, Host.tcpReceive, touch_activeConn, touch_conns, touch_addressed, touch_loadSegment]
  by_cases short : length < tcpHeaderSize
  · rw [if_pos short, if_pos short]
    rfl
  rw [if_neg short, if_neg short]
  by_cases none : host.activeConn = 0
  · rw [if_pos none, if_pos none]
    rfl
  rw [if_neg none, if_neg none]
  split
  · rfl
  · cases (host.conns host.activeConn).state with
    | synSent => exact tracedEstablish_snd
    | established =>
        dsimp only
        rw [← tracedStore_snd, Option.map_bind, Option.bind_map]
        refine Option.bind_congr fun stored _ => ?_
        rw [Function.comp_apply, Function.comp_apply, ← tracedFinish_snd, Option.map_map]
        rfl
    | closed | finWait | closeWait => rfl

theorem tracedSend_snd : (host.tracedSend poll conn data).map (fun result => (result.1, result.2.2)) =
    host.tcpSend poll conn data := by
  rw [Host.tracedSend, Host.tcpSend]
  split
  · rfl
  · rw [← tracedSendPacket_snd, Option.map_map, Option.map_map]
    rfl

theorem tracedClose_snd : (host.tracedClose poll conn).map Prod.snd = host.tcpClose poll conn := by
  rw [Host.tracedClose, Host.tcpClose]
  split
  · rfl
  · rw [← tracedSendPacket_snd, Option.map_map, Option.map_map]
    rfl

/-- The sequence number in the header of a packet. -/
def packetSeq (packet : List UInt8) : Nat :=
  match packet.drop 4 with
  | first :: second :: third :: fourth :: _ =>
      first.toNat * 2 ^ 24 + second.toNat * 2 ^ 16 + third.toNat * 2 ^ 8 + fourth.toNat
  | _ => 0

/-- The number of bytes behind the header. -/
def packetLen (packet : List UInt8) : Nat := packet.length - tcpHeaderSize

/-- Each packet has the number at which the one before it ends. -/
def Contiguous : Nat → List (List UInt8) → Prop
  | _, [] => True
  | next, packet :: rest => packetSeq packet = next % 2 ^ 32 ∧ Contiguous (next + packetLen packet) rest

/-- The number of bytes of all packets. -/
def totalLen : List (List UInt8) → Nat
  | [] => 0
  | packet :: rest => packetLen packet + totalLen rest

variable {next : Nat} {packets more : List (List UInt8)}

theorem totalLen_append : totalLen (packets ++ more) = totalLen packets + totalLen more := by
  induction packets with
  | nil => exact (Nat.zero_add _).symm
  | cons packet rest ih => rw [List.cons_append, totalLen, ih, totalLen, Nat.add_assoc]

theorem contiguous_append :
    Contiguous next (packets ++ more) ↔ Contiguous next packets ∧ Contiguous (next + totalLen packets) more := by
  induction packets generalizing next with
  | nil => exact (and_iff_right trivial).symm
  | cons packet rest ih => rw [List.cons_append, Contiguous, Contiguous, ih, totalLen, Nat.add_assoc, and_assoc]

/-- Numbers count modulo 2^32. -/
theorem Contiguous.congr {other : Nat} (contiguous : Contiguous next packets) (same : other % 2 ^ 32 = next % 2 ^ 32) :
    Contiguous other packets := by
  induction packets generalizing next other with
  | nil => trivial
  | cons packet rest ih =>
      obtain ⟨number, later⟩ := contiguous
      refine ⟨number.trans same.symm, ih later ?_⟩
      omega

/-- Packets without data, which all have the same number. -/
def Bare (number : Nat) (packets : List (List UInt8)) : Prop :=
  ∀ packet ∈ packets, packetSeq packet = number % 2 ^ 32 ∧ packetLen packet = 0

theorem Bare.contiguous (bare : Bare next packets) : Contiguous next packets ∧ totalLen packets = 0 := by
  induction packets with
  | nil => exact ⟨trivial, rfl⟩
  | cons packet rest ih =>
      obtain ⟨number, empty⟩ := bare packet List.mem_cons_self
      obtain ⟨later, none⟩ := ih fun other member => bare other (List.mem_cons_of_mem _ member)
      rw [Contiguous, totalLen, empty, none]
      exact ⟨⟨number, later⟩, rfl⟩

theorem bare_nil : Bare number [] := nofun

theorem Bare.append (first : Bare number packets) (second : Bare number more) : Bare number (packets ++ more) := by
  intro packet member
  rcases List.mem_append.mp member with inFirst | inSecond
  · exact first packet inFirst
  · exact second packet inSecond

theorem tcpPacket_eq (short : tcpHeaderSize + data.length < 2 ^ 16) : ∃ checksum,
    host.tcpPacket conn flags data = Host.tcpHeader (host.conns conn) flags checksum ++ data := by
  refine ⟨_, List.take_of_length_le ?_⟩
  rw [Nat.mod_eq_of_lt short, List.length_append]
  exact Nat.le_refl _

theorem tcpPacket_len (short : tcpHeaderSize + data.length < 2 ^ 16) :
    packetLen (host.tcpPacket conn flags data) = data.length := by
  obtain ⟨checksum, isPacket⟩ : ∃ checksum, host.tcpPacket conn flags data = _ := tcpPacket_eq short
  have header : (Host.tcpHeader (host.conns conn) flags checksum).length = tcpHeaderSize := rfl
  rw [isPacket, packetLen, List.length_append, header, Nat.add_sub_cancel_left]

theorem tcpPacket_seq (short : tcpHeaderSize + data.length < 2 ^ 16) :
    packetSeq (host.tcpPacket conn flags data) = (host.conns conn).seqNum % 2 ^ 32 := by
  obtain ⟨checksum, isPacket⟩ : ∃ checksum, host.tcpPacket conn flags data = _ := tcpPacket_eq short
  have numbers : ∃ rest, (host.tcpPacket conn flags data).drop 4 = bytes32 (swap32 (host.conns conn).seqNum) ++ rest := by
    rw [isPacket]
    exact ⟨_, rfl⟩
  obtain ⟨rest, dropped⟩ := numbers
  rw [packetSeq, dropped, bytes32_swap32]
  simp only [List.cons_append, UInt8.toNat_ofNat']
  omega

theorem tcpPacket_bare : Bare (host.conns conn).seqNum [host.tcpPacket conn flags []] := by
  intro packet member
  rw [List.mem_singleton.mp member]
  exact ⟨tcpPacket_seq (by decide), tcpPacket_len (by decide)⟩

variable {handed : List (List UInt8)}

theorem tracedSendPacket_some (done : host.tracedSendPacket poll conn flags data = some (handed, after)) :
    handed = [host.tcpPacket conn flags data] ∧ host.tcpSendPacket poll conn flags data = some after := by
  obtain ⟨sent, sends, same⟩ := Option.map_eq_some_iff.mp done
  cases same
  exact ⟨rfl, sends⟩

theorem tracedStore_bare (done : host.tracedStore poll conn segment packet length = some (handed, after)) :
    Bare (host.conns conn).seqNum handed := by
  rw [Host.tracedStore] at done
  dsimp only at done
  split at done
  · rw [(tracedSendPacket_some done).1]
    intro sent member
    have bare := tcpPacket_bare sent member
    rw [setConn_conns, if_pos rfl, touch_conns] at bare
    exact bare
  · cases done
    exact bare_nil

theorem tracedFinish_bare (done : host.tracedFinish poll conn segment = some (handed, after)) :
    Bare (host.conns conn).seqNum handed := by
  rw [Host.tracedFinish] at done
  split at done
  · obtain ⟨⟨sent, told⟩, sends, same⟩ := Option.map_eq_some_iff.mp done
    cases same
    rw [(tracedSendPacket_some sends).1]
    intro sent member
    have bare := tcpPacket_bare sent member
    rw [setConn_conns, if_pos rfl] at bare
    exact bare
  · cases done
    exact bare_nil

theorem stored_seqNum : (host.stored conn segment packet length).seqNum = (host.conns conn).seqNum := by
  rw [Host.stored]
  split
  · rw [store_seqNum]
  · rfl

theorem close_seqNum {connection : TcpConnection} {ackNum : Nat} :
    TcpConnection.seqNum { connection with ackNum, state := .closed } = connection.seqNum := rfl

theorem taken_seqNum : (host.taken packet length).seqNum = (host.conns host.activeConn).seqNum := by
  rw [Host.taken]
  split
  · rw [close_seqNum, stored_seqNum]
  · rw [stored_seqNum]

/-- The acknowledgements of a segment for the established connection carry the number of the next byte. -/
theorem tracedReceive_bare (spares : SparesAll poll) (settled : host.Settled)
    (done : host.tracedReceive poll packet length srcIp = some (handed, after)) :
    Bare (host.conns host.activeConn).seqNum handed := by
  simp only [Host.tracedReceive, touch_activeConn, touch_conns, touch_addressed, touch_loadSegment] at done
  by_cases short : length < tcpHeaderSize
  · rw [if_pos short] at done
    cases done
    exact bare_nil
  rw [if_neg short] at done
  by_cases none : host.activeConn = 0
  · rw [if_pos none] at done
    cases done
    exact bare_nil
  rw [if_neg none] at done
  split at done
  · cases done
    exact bare_nil
  · cases state : (host.conns host.activeConn).state with
    | synSent => exact absurd state (settled.resolve_left none)
    | established =>
        rw [state] at done
        obtain ⟨⟨first, stored⟩, stores, rest⟩ := Option.bind_eq_some_iff.mp done
        obtain ⟨⟨second, finished⟩, finishes, same⟩ := Option.map_eq_some_iff.mp rest
        cases same
        have header : Accessed host (((host.touch packet 12).touch (packet + 13) 1).touch (packet + 12) 1) :=
          (touch_accessed.trans touch_accessed).trans touch_accessed
        have parsed := header.spares
        have acknowledged := tracedStore_bare stores
        rw [parsed.1] at acknowledged
        refine acknowledged.append ?_
        have untraced := tracedStore_snd.symm.trans (congrArg (Option.map Prod.snd) stores)
        rw [← parsed.2] at untraced
        obtain ⟨active, content⟩ := spares.tcpStore (parsed.settled settled) untraced
        have ended := tracedFinish_bare finishes
        rw [active, content, stored_seqNum, parsed.1, parsed.2] at ended
        exact ended
    | closed | finWait | closeWait =>
        rw [state] at done
        cases done
        exact bare_nil

theorem tracedReceive_inactive (none : host.activeConn = 0)
    (done : host.tracedReceive poll packet length srcIp = some (handed, after)) : handed = [] := by
  rw [Host.tracedReceive, if_pos none] at done
  split at done
  · cases done
    rfl
  · cases done
    rfl

/-- The numbers of the next bytes are the same. -/
def SameNumbers (before after : Host) : Prop := ∀ conn, (after.conns conn).seqNum = (before.conns conn).seqNum

theorem SameNumbers.trans (first : SameNumbers before middle) (second : SameNumbers middle after) :
    SameNumbers before after :=
  fun conn => (second conn).trans (first conn)

theorem Spares.sameNumbers (spares : Spares before after) : SameNumbers before after := by
  intro conn
  rw [spares.1]

theorem setConn_sameNumbers {content : TcpConnection} (same : content.seqNum = (host.conns conn).seqNum) :
    SameNumbers host (host.setConn conn content) := by
  intro other
  rw [setConn_conns]
  split
  · next isConn => rw [same, isConn]
  · rfl

def KeepsNumbers (poll : Host → Option Host) : Prop := ∀ before after, poll before = some after → SameNumbers before after

theorem KeepsNumbers.absorbs (keeps : KeepsNumbers poll) : Absorbs poll SameNumbers :=
  ⟨SameNumbers.trans, fun polls => keeps _ _ polls, fun transmits => transmits.spares.sameNumbers⟩

theorem KeepsNumbers.tcpEstablish (keeps : KeepsNumbers poll) (done : host.tcpEstablish poll conn segment = some after) :
    SameNumbers host after := by
  rw [Host.tcpEstablish] at done
  split at done
  · have established : SameNumbers host
        (host.setConn conn { host.conns conn with ackNum := add32 segment.seq 1, state := .established }) :=
      setConn_sameNumbers rfl
    exact established.trans (keeps.absorbs.tcpSendPacket done)
  · cases done
    exact fun _ => rfl

theorem KeepsNumbers.tcpStore (keeps : KeepsNumbers poll)
    (done : host.tcpStore poll conn segment packet length = some after) : SameNumbers host after := by
  by_cases stores : 0 < Host.dataLen segment length
  · obtain ⟨accessed, isAccessed, same⟩ : ∃ accessed, Accessed host accessed ∧
        host.tcpStore poll conn segment packet length = _ := tcpStore_eq stores
    rw [same] at done
    refine isAccessed.spares.sameNumbers.trans (SameNumbers.trans ?_ (keeps.absorbs.tcpSendPacket done))
    apply setConn_sameNumbers
    rw [stored_seqNum, isAccessed.spares.1]
  · rw [Host.tcpStore, if_neg stores] at done
    cases done
    exact fun _ => rfl

theorem KeepsNumbers.tcpFinish (keeps : KeepsNumbers poll) (done : host.tcpFinish poll conn segment = some after) :
    SameNumbers host after := by
  rw [Host.tcpFinish] at done
  split at done
  · obtain ⟨sent, sends, rfl⟩ := Option.map_eq_some_iff.mp done
    have acknowledged : SameNumbers host (host.setConn conn { host.conns conn with ackNum := add32 segment.seq 1 }) :=
      setConn_sameNumbers rfl
    have closed : SameNumbers sent (sent.setConn conn { sent.conns conn with state := .closed }) := setConn_sameNumbers rfl
    exact (acknowledged.trans (keeps.absorbs.tcpSendPacket sends)).trans closed
  · cases done
    exact fun _ => rfl

theorem KeepsNumbers.tcpReceive (keeps : KeepsNumbers poll)
    (done : host.tcpReceive poll packet length srcIp = some after) : SameNumbers host after := by
  cases tcpReceive_handled done with
  | ignored _ accessed reason => exact accessed.spares.sameNumbers
  | answered parsed _ accessed forActive synSent establishes =>
      exact accessed.spares.sameNumbers.trans (keeps.tcpEstablish establishes)
  | continued parsed stored _ accessed forActive established stores finishes =>
      exact (accessed.spares.sameNumbers.trans (keeps.tcpStore stores)).trans (keeps.tcpFinish finishes)

theorem pollReceive_keepsNumbers : KeepsNumbers (Host.pollReceive depth) := by
  induction depth with
  | zero => exact nofun
  | succ depth ih =>
      intro before after done
      refine arrive_arrived.spares.sameNumbers.trans ?_
      cases pollWith_polled done with
      | idle nothing => exact fun _ => rfl
      | reset corrupt => exact fun _ => rfl
      | skipped unusable => exact fun _ => rfl
      | delivered handled waiting handles =>
          have kept : SameNumbers before.arrive.called handled := by
            cases receive_dispatched handles with
            | ignored _ accessed => exact accessed.spares.sameNumbers
            | arp parsed accessed => exact (accessed.spares.trans arpReceive_resolves.spares).sameNumbers
            | icmp parsed _ accessed addressed protocol handles =>
                have answered : SameNumbers parsed handled := ih.absorbs.icmpReceive (fun _ _ _ _ => Spares.sameNumbers ⟨rfl, rfl⟩) handles
                exact accessed.spares.sameNumbers.trans answered
            | tcp parsed _ accessed addressed protocol handles =>
                exact accessed.spares.sameNumbers.trans (ih.tcpReceive handles)
          exact kept

/-- The number with which `tcp_connect` begins. -/
def Host.isn (host : Host) : Nat := host.timerTicks * 12345 % 2 ^ 32

theorem awaitConnection_connected {waited : Nat} {elapsed : List Nat} (keeps : KeepsNumbers poll)
    (done : Host.awaitConnection poll conn waited elapsed host = some (true, after)) :
    SameNumbers host after ∧ (after.conns conn).state = .established := by
  induction elapsed generalizing waited host with
  | nil =>
      rw [Host.awaitConnection] at done
      split at done
      · cases done
      · cases done
  | cons ticks rest ih =>
      rw [Host.awaitConnection] at done
      split at done
      · cases done
      · obtain ⟨polled, polls, done⟩ := Option.bind_eq_some_iff.mp done
        have kept := keeps _ _ polls
        by_cases established : (polled.conns conn).state = .established
        · rw [if_pos established] at done
          cases done
          exact ⟨kept, established⟩
        · rw [if_neg established] at done
          obtain ⟨later, connected⟩ := ih done
          exact ⟨kept.trans later, connected⟩

/-- A connection that is open, with the number of the next byte. -/
structure Connected (conn number : Nat) (host : Host) : Prop where
  nonNull : conn ≠ 0
  isActive : host.activeConn = conn
  established : (host.conns conn).state = .established
  next : (host.conns conn).seqNum = number % 2 ^ 32

theorem tcpConnect_connected {ip port : Nat} {elapsed : List Nat}
    (done : host.tcpConnect (Host.pollReceive depth) ip port conn elapsed = some (0, after)) :
    Connected conn (host.isn + 1) after := by
  rw [Host.tcpConnect] at done
  by_cases null : conn = 0
  · rw [if_pos null] at done
    cases done
  rw [if_neg null] at done
  obtain ⟨sent, sends, done⟩ := Option.bind_eq_some_iff.mp done
  obtain ⟨⟨connected, waited⟩, awaits, done⟩ := Option.map_eq_some_iff.mp done
  cases connected with
  | false => cases done
  | true =>
      cases done
      have asked := pollReceive_keepsNumbers.absorbs.tcpSendPacket sends conn
      obtain ⟨answered, established⟩ := awaitConnection_connected pollReceive_keepsNumbers awaits
      have active := (pollReceive_evolves.absorbs.tcpSendPacket sends).activeConn
      have still := (awaitConnection_evolved pollReceive_evolves awaits).activeConn
      refine ⟨null, still.trans active, established, (answered conn).trans ?_⟩
      rw [setConn_conns, if_pos rfl, asked, setConn_conns, if_pos rfl]
      rfl

/-- The drivers, with the packets of the connection that were handed to `ip_send`, the oldest first. -/
structure Sender where
  host : Host
  handed : List (List UInt8)

/-- What the owner of the connection does, a segment, or anything that is not about the connection. -/
inductive Sending where
  | send (depth : Nat) (data : List UInt8)
  | segment (depth packet length srcIp : Nat)
  | close (depth : Nat)
  | other (host : Host)

namespace Sender

def perform (conn : Nat) (sender : Sender) : Sending → Option Sender
  | .send depth data =>
      (sender.host.tracedSend (Host.quietPoll depth) conn data).map fun result =>
        { host := result.2.2, handed := sender.handed ++ result.2.1 }
  | .segment depth packet length srcIp =>
      (sender.host.tracedReceive (Host.quietPoll depth) packet length srcIp).map fun result =>
        { host := result.2, handed := sender.handed ++ result.1 }
  | .close depth =>
      (sender.host.tracedClose (Host.quietPoll depth) conn).map fun result =>
        { host := result.2, handed := sender.handed ++ result.1 }
  | .other other => some { sender with host := sender.host.elsewhere other conn }

/-- At most 1460 bytes are sent at once. -/
def Short (_ : Sender) : Sending → Prop
  | .send _ data => data.length ≤ 1460
  | _ => True

instance (sender : Sender) : (sending : Sending) → Decidable (Short sender sending)
  | .send _ data => inferInstanceAs (Decidable (data.length ≤ 1460))
  | .segment _ _ _ _ | .close _ | .other _ => .isTrue trivial

/-- All packets carry the number at which those before end, and a segment does not change the number. -/
def Orderly (conn first : Nat) (before : Sender) (sending : Sending) (after : Sender) : Prop :=
  Contiguous first after.handed ∧
    match sending with
    | .segment _ _ _ _ => (after.host.conns conn).seqNum = (before.host.conns conn).seqNum
    | _ => True

variable {before next : Sender} {sending : Sending} {first : Nat} {sendings : List Sending}

/-- What the steps rest on. -/
structure Keeps (conn first : Nat) (sender : Sender) : Prop where
  nonNull : conn ≠ 0
  active : sender.host.activeConn = conn ∨ sender.host.activeConn = 0
  connected : (sender.host.conns conn).state ≠ .synSent
  next : (sender.host.conns conn).seqNum = (first + totalLen sender.handed) % 2 ^ 32
  contiguous : Contiguous first sender.handed

theorem Keeps.settled (keeps : Keeps conn first before) : before.host.Settled := by
  rcases keeps.active with isActive | none
  · refine Or.inr ?_
    rw [isActive]
    exact keeps.connected
  · exact Or.inl none

/-- The step hands on packets that begin at the next number, and moves it behind them. -/
theorem Keeps.step {packets : List (List UInt8)} (keeps : Keeps conn first before)
    (active : after.activeConn = conn ∨ after.activeConn = 0) (connected : (after.conns conn).state ≠ .synSent)
    (begins : Contiguous (before.host.conns conn).seqNum packets)
    (next : (after.conns conn).seqNum = ((before.host.conns conn).seqNum + totalLen packets) % 2 ^ 32) :
    Keeps conn first { host := after, handed := before.handed ++ packets } := by
  refine ⟨keeps.nonNull, active, connected, ?_, contiguous_append.mpr ⟨keeps.contiguous, ?_⟩⟩
  · rw [next, keeps.next, totalLen_append]
    omega
  · refine begins.congr ?_
    rw [keeps.next]
    exact (Nat.mod_mod _ _).symm

theorem Keeps.received {packets : List (List UInt8)} (keeps : Keeps conn first before)
    (done : before.host.tracedReceive (Host.quietPoll depth) packet length srcIp = some (packets, after)) :
    Keeps conn first { host := after, handed := before.handed ++ packets } ∧
      (after.conns conn).seqNum = (before.host.conns conn).seqNum := by
  have untraced := tracedReceive_snd.symm.trans (congrArg (Option.map Prod.snd) done)
  have bare : Bare (before.host.conns conn).seqNum packets := by
    rcases keeps.active with isActive | none
    · rw [← isActive]
      exact tracedReceive_bare quietPoll_spares keeps.settled done
    · rw [tracedReceive_inactive none done]
      exact bare_nil
  obtain ⟨begins, empty⟩ := bare.contiguous
  have same : (after.conns conn).seqNum = (before.host.conns conn).seqNum →
      (after.conns conn).seqNum = ((before.host.conns conn).seqNum + totalLen packets) % 2 ^ 32 := by
    intro kept
    rw [kept, empty, keeps.next, Nat.add_zero, Nat.mod_mod]
  by_cases incoming : ForActive before.host packet length srcIp ∧
      (before.host.conns before.host.activeConn).state = .established
  · have isActive := keeps.active.resolve_right incoming.1.nonNull
    obtain ⟨still, content⟩ := quietPoll_spares.tcpReceive incoming.1 incoming.2 untraced
    have kept : (after.conns conn).seqNum = (before.host.conns conn).seqNum := by
      rw [← isActive, content, taken_seqNum]
    refine ⟨keeps.step (Or.inl (still.trans isActive)) ?_ begins (same kept), kept⟩
    rw [← isActive, content]
    exact taken_notSent incoming.2
  · have spares := (tcpReceive_ignored keeps.settled incoming untraced).spares
    have kept : (after.conns conn).seqNum = (before.host.conns conn).seqNum := by rw [spares.1]
    refine ⟨keeps.step ?_ ?_ begins (same kept), kept⟩
    · rw [spares.2]
      exact keeps.active
    · rw [spares.1]
      exact keeps.connected

/-- The data begins at the next number. -/
theorem Keeps.sent {packets : List (List UInt8)} {result : Int} (keeps : Keeps conn first before) (short : data.length ≤ 1460)
    (done : before.host.tracedSend (Host.quietPoll depth) conn data = some (result, packets, after)) :
    Keeps conn first { host := after, handed := before.handed ++ packets } := by
  rw [Host.tracedSend] at done
  split at done
  · cases done
    rw [List.append_nil]
    exact keeps
  · obtain ⟨⟨handed, told⟩, sends, same⟩ := Option.map_eq_some_iff.mp done
    cases same
    obtain ⟨isHanded, untraced⟩ := tracedSendPacket_some sends
    have spares := quietPoll_spares.absorbs.tcpSendPacket untraced keeps.settled
    have fits : tcpHeaderSize + data.length < 2 ^ 16 := by
      unfold tcpHeaderSize
      omega
    have written : (told.setConn conn { told.conns conn with
        seqNum := add32 (told.conns conn).seqNum data.length }).conns conn = _ := setConn_conns.trans (if_pos rfl)
    refine keeps.step ?_ ?_ ?_ ?_
    · exact spares.2 ▸ keeps.active
    · rw [written, spares.1]
      exact keeps.connected
    · rw [isHanded]
      exact ⟨tcpPacket_seq fits, trivial⟩
    · rw [written, isHanded, totalLen, totalLen, tcpPacket_len fits, spares.1]
      rfl

theorem Keeps.closed {packets : List (List UInt8)} (keeps : Keeps conn first before)
    (done : before.host.tracedClose (Host.quietPoll depth) conn = some (packets, after)) :
    Keeps conn first { host := after, handed := before.handed ++ packets } := by
  rw [Host.tracedClose] at done
  split at done
  · cases done
    rw [List.append_nil]
    exact keeps
  · obtain ⟨⟨handed, told⟩, sends, same⟩ := Option.map_eq_some_iff.mp done
    obtain ⟨isHanded, untraced⟩ := tracedSendPacket_some sends
    have spares := quietPoll_spares.absorbs.tcpSendPacket untraced keeps.settled
    have written : (told.setConn conn { told.conns conn with state := .closed }).conns conn = _ :=
      setConn_conns.trans (if_pos rfl)
    have left : after.conns conn = { told.conns conn with state := .closed } ∧
        (after.activeConn = told.activeConn ∨ after.activeConn = 0) := by
      dsimp only at same
      split at same
      · cases same
        exact ⟨written, Or.inr rfl⟩
      · cases same
        exact ⟨written, Or.inl rfl⟩
    have isPackets : packets = handed := (congrArg Prod.fst same).symm
    have bare : Bare (before.host.conns conn).seqNum packets := by
      rw [isPackets, isHanded]
      exact tcpPacket_bare
    obtain ⟨begins, empty⟩ := bare.contiguous
    refine keeps.step ?_ ?_ begins ?_
    · rcases left.2 with kept | none
      · rw [kept, spares.2]
        exact keeps.active
      · exact Or.inr none
    · rw [left.1]
      exact nofun
    · rw [left.1, empty, spares.1, Nat.add_zero, keeps.next, Nat.mod_mod]

theorem Keeps.performed (keeps : Keeps conn first before) (short : Short before sending)
    (done : before.perform conn sending = some next) : Orderly conn first before sending next ∧ Keeps conn first next := by
  cases sending with
  | send depth data =>
      obtain ⟨result, sends, rfl⟩ := Option.map_eq_some_iff.mp done
      have kept := keeps.sent short sends
      exact ⟨⟨kept.contiguous, trivial⟩, kept⟩
  | segment depth packet length srcIp =>
      obtain ⟨result, receives, rfl⟩ := Option.map_eq_some_iff.mp done
      obtain ⟨kept, same⟩ := keeps.received receives
      exact ⟨⟨kept.contiguous, same⟩, kept⟩
  | close depth =>
      obtain ⟨result, closes, rfl⟩ := Option.map_eq_some_iff.mp done
      have kept := keeps.closed closes
      exact ⟨⟨kept.contiguous, trivial⟩, kept⟩
  | other other =>
      cases done
      have content : (before.host.elsewhere other conn).conns conn = _ := elsewhere_conn
      refine ⟨⟨keeps.contiguous, trivial⟩, keeps.nonNull, keeps.active, ?_, ?_, keeps.contiguous⟩
      · rw [content]
        exact keeps.connected
      · rw [content]
        exact keeps.next

end Sender

theorem Connected.keeps (connected : Connected conn number host) : Sender.Keeps conn number { host, handed := [] } := by
  refine ⟨connected.nonNull, Or.inl connected.isActive, ?_, connected.next, trivial⟩
  rw [connected.established]
  exact nofun

namespace Sender

/-- After `tcp_connect` succeeded, whatever is sent, received and closed in between, the packets of the
connection carry one number after another from the one behind the SYN on. -/
theorem run_orderly {ip port : Nat} {elapsed : List Nat} {opened : Host} {sendings : List Sending} {last : Sender}
    (connects : host.tcpConnect (Host.pollReceive depth) ip port conn elapsed = some (0, opened))
    (run : Restricted (perform conn) Short { host := opened, handed := [] } sendings last) :
    Observed (perform conn) (Orderly conn (host.isn + 1)) { host := opened, handed := [] } sendings last :=
  run.observed (Keeps conn (host.isn + 1)) (fun _ _ _ keeps short done => keeps.performed short done)
    (tcpConnect_connected connects).keeps

/-- A host whose peer at 10.0.2.3 answers the SYN. -/
def answeredHost : Host :=
  { idleHost with
    arpCache := [{ ip := 0x0302000A, mac := .zero, valid := true }]
    receiver :=
      { idleHost.receiver with schedule := [[ipFrame 40 6 0x0302000A 0x0F02000A (tcpSegment 5000 1 0x12)]] } }

/-- Bytes are sent before and after a segment of the peer is acknowledged, and then the connection is closed. -/
theorem run_orderly_exchange : ∃ opened last,
    answeredHost.tcpConnect (Host.pollReceive 1) 0x0302000A 80 0x300000 [1] = some (0, opened) ∧
      last.handed.map packetSeq = [1, 6, 6, 8] ∧
      Observed (perform 0x300000) (Orderly 0x300000 (answeredHost.isn + 1)) { host := opened, handed := [] }
        [.send 1 [104, 101, 108, 108, 111],
          .other (connectedHost.withFrame 0x200000 (tcpSegment 5001 6 0x18 ++ [104, 105])),
          .segment 1 0x200000 22 0x0302000A, .send 1 [33, 33], .close 1] last := by
  have returns : ((answeredHost.tcpConnect (Host.pollReceive 1) 0x0302000A 80 0x300000 [1]).bind fun result =>
      (performAll (perform 0x300000) (fun sender sending => decide (Short sender sending))
        { host := result.2, handed := [] }
        [.send 1 [104, 101, 108, 108, 111],
          .other (connectedHost.withFrame 0x200000 (tcpSegment 5001 6 0x18 ++ [104, 105])),
          .segment 1 0x200000 22 0x0302000A, .send 1 [33, 33], .close 1]).map fun last =>
        (result.1, last.handed.map packetSeq)) = some (0, [1, 6, 6, 8]) := by
    decide +kernel
  obtain ⟨⟨result, opened⟩, connects, rest⟩ := Option.bind_eq_some_iff.mp returns
  obtain ⟨last, done, same⟩ := Option.map_eq_some_iff.mp rest
  injection same with isResult numbers
  subst isResult
  have run := (performAll_restricted done).mono fun _ _ _ performed =>
    (⟨of_decide_eq_true performed.1, performed.2⟩ : Guarded Short (Stepping (perform 0x300000)) _ _ _)
  exact ⟨opened, last, connects, numbers, run_orderly connects run⟩

end Sender

end AutismOS.Network
