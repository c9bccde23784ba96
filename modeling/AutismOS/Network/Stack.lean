import AutismOS.Library.Numerals
import AutismOS.Network.Core

namespace AutismOS.Network

open AutismOS.Library

/-! `ip.c`, `icmp.c` and `tcp.c`.

`ip_send` polls the card while it waits for an address, and so calls the receivers from inside a
receiver.  The functions that may send get `rtl8139_poll_receive` as their argument `poll`; at the
end `pollReceive` ties the knot, and `none` says that the given depth of nesting was not enough.
-/

def tcpFlagFin : Nat := 0x01
def tcpFlagSyn : Nat := 0x02
def tcpFlagRst : Nat := 0x04
def tcpFlagPsh : Nat := 0x08
def tcpFlagAck : Nat := 0x10

def icmpTypeEchoReply : Nat := 0
def icmpTypeEchoRequest : Nat := 8

/-- A 32-bit sum of 16-bit words in memory order, where an odd byte at the end stands alone. -/
def addWords (sum : Nat) : List UInt8 → Nat
  | [] => sum
  | [last] => add32 sum last.toNat
  | low :: high :: rest => addWords (add32 sum (low.toNat + 2 ^ 8 * high.toNat)) rest

/-- `ip_checksum` and `icmp_checksum` -/
def ipChecksum (data : List UInt8) : Nat :=
  let sum := addWords 0 data
  let sum := sum / 2 ^ 16 + sum % 2 ^ 16
  let sum := add32 sum (sum / 2 ^ 16)
  2 ^ 16 - 1 - sum % 2 ^ 16

/-- `while (sum >> 16) sum = (sum & 0xFFFF) + (sum >> 16);`, which takes two rounds at most. -/
def fold : Nat → Nat → Nat
  | 0, sum => sum
  | rounds + 1, sum => if sum / 2 ^ 16 = 0 then sum else fold rounds (sum % 2 ^ 16 + sum / 2 ^ 16)

def pseudoHeader (srcIp dstIp tcpLen : Nat) : List UInt8 :=
  bytes32 srcIp ++ bytes32 dstIp ++ [0, 6] ++ bytes16 (swap16 tcpLen)

def tcpChecksum (srcIp dstIp : Nat) (tcpSegment : List UInt8) : Nat :=
  let sum := addWords (addWords 0 (pseudoHeader srcIp dstIp tcpSegment.length)) tcpSegment
  2 ^ 16 - 1 - fold 2 sum % 2 ^ 16

namespace Host

variable (host : Host)

/-- The header with its checksum field filled in. -/
def ipHeader (dstIp protocol length : Nat) : List UInt8 :=
  let totalLength := ((ipHeaderSize + length) >>> 8 ||| (ipHeaderSize + length) <<< 8) % 2 ^ 16
  let header (checksum : Nat) : List UInt8 :=
    [0x45, 0] ++ bytes16 totalLength ++ bytes16 (swap16 host.ipId) ++ bytes16 0 ++ [64, UInt8.ofNat protocol] ++
      bytes16 checksum ++ bytes32 host.localIp ++ bytes32 dstIp
  header (ipChecksum (header 0))

def ipSetConfig (ip netmask gateway : Nat) : Host := { host with localIp := ip, netmask, gatewayIp := gateway }

def nextHop (dstIp : Nat) : Nat :=
  if dstIp &&& host.netmask = host.localIp &&& host.netmask then dstIp else host.gatewayIp

/-- `ethernet_send(dst_mac, ETH_TYPE_IP, packet, sizeof(ip_header_t) + length)` -/
def forward (dstMac : Mac) (packet : List UInt8) : Host :=
  (host.note (.length packet.length)).ethernetSend dstMac ethTypeIp (packet.take (packet.length % 2 ^ 16))

/-- `for (int i = 0; i < 500; i++)`; tells whether the packet was sent. -/
def awaitReply (poll : Host → Option Host) (nextHop : Nat) (packet : List UInt8) : Nat → Host → Option (Bool × Host)
  | 0, host => some (false, host)
  | count + 1, host =>
      (poll host).bind fun host =>
        match host.arpLookup nextHop with
        | some dstMac => some (true, host.forward dstMac packet)
        | none => awaitReply poll nextHop packet count host

/-- `for (int retry = 0; retry < 5; retry++)` -/
def sendResolved (poll : Host → Option Host) (nextHop : Nat) (packet : List UInt8) : Nat → Host → Option Host
  | 0, host => some host
  | retry + 1, host =>
      match host.arpLookup nextHop with
      | some dstMac => some (host.forward dstMac packet)
      | none =>
          (awaitReply poll nextHop packet 500 (host.arpRequest nextHop)).bind fun (sent, host) =>
            if sent then some host else sendResolved poll nextHop packet retry host

def ipSend (poll : Host → Option Host) (dstIp protocol : Nat) (payload : List UInt8) : Option Host :=
  let packet := host.ipHeader dstIp protocol payload.length ++ payload
  let host := { host with ipId := (host.ipId + 1) % 2 ^ 16 }
  let host := (host.note (.write .ipPacket 0 ipHeaderSize)).note (.write .ipPacket ipHeaderSize payload.length)
  let host := host.note (.length (ipHeaderSize + payload.length))
  sendResolved poll (host.nextHop dstIp) packet 5 host

/-- The two callbacks are those that are set, `icmp_callback` and `tcp_callback`. -/
def ipReceive (icmpCallback tcpCallback : Nat → Nat → Nat → Host → Option Host) (packet length : Nat) : Option Host :=
  if length < ipHeaderSize then some host
  else
    let host := host.touch (packet + 16) 4
    if host.memory.loadWord (packet + 16) ≠ host.localIp then some host
    else
      let host := ((host.touch (packet + 2) 2).touch (packet + 9) 1).touch (packet + 12) 4
      let payload := packet + ipHeaderSize
      let totalLen := swap16 (host.memory.load16 (packet + 2))
      let payloadLen := (totalLen + (2 ^ 16 - ipHeaderSize)) % 2 ^ 16
      let protocol := (host.memory.loadByte (packet + 9)).toNat
      let srcIp := host.memory.loadWord (packet + 12)
      if protocol = ipProtoIcmp then icmpCallback payload payloadLen srcIp host
      else if protocol = ipProtoTcp then tcpCallback payload payloadLen srcIp host
      else some host

def icmpInit : Host := { host with echoState := { received := false, srcIp := 0 } }

/-- The packet is turned into the answer where it lies. -/
def icmpAnswer (packet length : Nat) : Host :=
  let host := (host.touch packet 1).touch (packet + 2) 2
  let memory := host.memory.storeByte packet (UInt8.ofNat icmpTypeEchoReply)
  let memory := memory.store16 (packet + 2) 0
  let host := host.touch packet length
  let memory := memory.store16 (packet + 2) (ipChecksum (memory.loadBytes packet length))
  { host with memory }

def icmpReceive (poll : Host → Option Host) (packet length srcIp : Nat) : Option Host :=
  if length < icmpHeaderSize then some host
  else
    let host := host.touch packet 1
    let type := (host.memory.loadByte packet).toNat
    if type = icmpTypeEchoRequest then
      let host := host.icmpAnswer packet length
      host.ipSend poll srcIp ipProtoIcmp (host.memory.loadBytes packet length)
    else if type = icmpTypeEchoReply then some { host with echoState := { received := true, srcIp } }
    else some host

def tcpInit : Host := { host with activeConn := 0, nextLocalPort := 49152 }

def tcpHeader (connection : TcpConnection) (flags checksum : Nat) : List UInt8 :=
  bytes16 (swap16 connection.localPort) ++ bytes16 (swap16 connection.remotePort) ++
    bytes32 (swap32 connection.seqNum) ++ bytes32 (swap32 connection.ackNum) ++ [0x50, UInt8.ofNat flags] ++
    bytes16 (swap16 8192) ++ bytes16 checksum ++ bytes16 0

/-- `data` is empty where the source passes NULL. -/
def tcpSendPacket (poll : Host → Option Host) (conn flags : Nat) (data : List UInt8) : Option Host :=
  let connection := host.conns conn
  let totalLen := (tcpHeaderSize + data.length) % 2 ^ 16
  let packet (checksum : Nat) : List UInt8 := (tcpHeader connection flags checksum ++ data).take totalLen
  let checksum := tcpChecksum host.localIp connection.remoteIp (packet 0)
  let host := (host.note (.write .tcpPacket 0 tcpHeaderSize)).note (.write .tcpPacket tcpHeaderSize data.length)
  (host.note (.length (tcpHeaderSize + data.length))).ipSend poll connection.remoteIp ipProtoTcp (packet checksum)

/-- The fields of a TCP header, with the bytes in host order. -/
structure Segment where
  srcPort : Nat
  dstPort : Nat
  seq : Nat
  ack : Nat
  headerLen : Nat
  flags : Nat

def loadSegment (packet : Nat) : Segment :=
  { srcPort := swap16 (host.memory.load16 packet)
    dstPort := swap16 (host.memory.load16 (packet + 2))
    seq := swap32 (host.memory.loadWord (packet + 4))
    ack := swap32 (host.memory.loadWord (packet + 8))
    headerLen := (host.memory.loadByte (packet + 12)).toNat / 2 ^ 4 * 4
    flags := (host.memory.loadByte (packet + 13)).toNat }

def hasFlag (flags flag : Nat) : Bool := flags &&& flag ≠ 0

/-- The packet is for the connection. -/
def addressed (conn : Nat) (segment : Segment) (srcIp : Nat) : Bool :=
  srcIp = (host.conns conn).remoteIp && segment.srcPort = (host.conns conn).remotePort &&
    segment.dstPort = (host.conns conn).localPort

def dataLen (segment : Segment) (length : Nat) : Nat := (length + 2 ^ 16 - segment.headerLen) % 2 ^ 16

def recvBufferSize : Nat := 2048

/-- `TCP_SYN_SENT`: the answer to our SYN is acknowledged. -/
def tcpEstablish (poll : Host → Option Host) (conn : Nat) (segment : Segment) : Option Host :=
  if hasFlag segment.flags tcpFlagSyn && hasFlag segment.flags tcpFlagAck then
    let host := host.setConn conn { host.conns conn with ackNum := add32 segment.seq 1, state := .established }
    host.tcpSendPacket poll conn tcpFlagAck []
  else some host

/-- `TCP_ESTABLISHED`: the data is stored and acknowledged. -/
def tcpStore (poll : Host → Option Host) (conn : Nat) (segment : Segment) (packet length : Nat) : Option Host :=
  let dataLen := dataLen segment length
  if 0 < dataLen then
    let copyLen := min dataLen recvBufferSize
    let host := host.touch (packet + segment.headerLen) copyLen
    let connection := host.conns conn
    let host := host.setConn conn
      { connection with
        recvBuffer := host.memory.loadBytes (packet + segment.headerLen) copyLen ++ connection.recvBuffer.drop copyLen
        recvLen := copyLen
        dataReady := true
        ackNum := add32 segment.seq dataLen }
    host.tcpSendPacket poll conn tcpFlagAck []
  else some host

/-- `TCP_ESTABLISHED`: the end of the peer's stream. -/
def tcpFinish (poll : Host → Option Host) (conn : Nat) (segment : Segment) : Option Host :=
  if hasFlag segment.flags tcpFlagFin then
    let host := host.setConn conn { host.conns conn with ackNum := add32 segment.seq 1 }
    (host.tcpSendPacket poll conn tcpFlagAck []).map fun host =>
      host.setConn conn { host.conns conn with state := .closed }
  else some host

def tcpReceive (poll : Host → Option Host) (packet length srcIp : Nat) : Option Host :=
  if length < tcpHeaderSize then some host
  else if host.activeConn = 0 then some host
  else
    let host := host.touch packet 12
    let segment := host.loadSegment packet
    if !host.addressed host.activeConn segment srcIp then some host
    else
      let host := (host.touch (packet + 13) 1).touch (packet + 12) 1
      match (host.conns host.activeConn).state with
      | .synSent => host.tcpEstablish poll host.activeConn segment
      | .established =>
          -- The pointer is read again after the first packet was sent.
          (host.tcpStore poll host.activeConn segment packet length).bind fun host =>
            host.tcpFinish poll host.activeConn segment
      | _ => some host

/-- The callbacks that `network_init` sets. -/
def receive (poll : Host → Option Host) (frame frameLen : Nat) : Option Host :=
  host.ethernetReceive (fun packet length host => some (host.arpReceive packet length))
    (fun packet length host =>
      host.ipReceive (fun packet length srcIp host => host.icmpReceive poll packet length srcIp)
        (fun packet length srcIp host => host.tcpReceive poll packet length srcIp) packet length)
    frame frameLen

/-- The parts of an address, the first one in the lowest byte. -/
def address (first second third fourth : Nat) : Nat := first + second * 2 ^ 8 + third * 2 ^ 16 + fourth * 2 ^ 24

def networkInit (setup : CardSetup) : Host :=
  let host := ((host.rtl8139Init setup).ethernetInit setup.macAddress).arpInit.icmpInit.tcpInit
  let localIp := address 10 0 2 15
  (host.ipSetConfig localIp (address 255 255 255 0) (address 10 0 2 2)).arpSetIp localIp

/-- At most `depth` polls are nested. -/
def pollReceive : Nat → Host → Option Host
  | 0, _ => none
  | depth + 1, host => host.pollWith fun frame frameLen host => host.receive (pollReceive depth) frame frameLen

/-- The wait for the connection: `elapsed` says how many ticks each round takes. -/
def awaitConnection (poll : Host → Option Host) (conn : Nat) : Nat → List Nat → Host → Option (Bool × Host)
  | waited, elapsed, host =>
      if 300 ≤ waited then some (false, host)
      else
        match elapsed with
        | [] => none
        | ticks :: rest =>
            (poll host).bind fun host =>
              if (host.conns conn).state = .established then some (true, host)
              else
                awaitConnection poll conn (waited + ticks) rest
                  { host with timerTicks := (host.timerTicks + ticks) % 2 ^ 64 }

/-- Returns 0, or -1 where the connection fails. -/
def tcpConnect (poll : Host → Option Host) (ip port conn : Nat) (elapsed : List Nat) : Option (Int × Host) :=
  if conn = 0 then some (-1, host)
  else
    let host := host.setConn conn
      { remoteIp := ip, remotePort := port, localPort := host.nextLocalPort,
        seqNum := host.timerTicks * 12345 % 2 ^ 32, ackNum := 0, state := .synSent,
        recvBuffer := List.replicate recvBufferSize 0, recvLen := 0, dataReady := false }
    let host := { host with nextLocalPort := (host.nextLocalPort + 1) % 2 ^ 16, activeConn := conn }
    (host.tcpSendPacket poll conn tcpFlagSyn []).bind fun host =>
      let host := host.setConn conn { host.conns conn with seqNum := add32 (host.conns conn).seqNum 1 }
      (awaitConnection poll conn 0 elapsed host).map fun (connected, host) =>
        if connected then (0, host)
        else (-1, { host.setConn conn { host.conns conn with state := .closed } with activeConn := 0 })

/-- Returns the number of bytes, or -1. -/
def tcpSend (poll : Host → Option Host) (conn : Nat) (data : List UInt8) : Option (Int × Host) :=
  if conn = 0 ∨ (host.conns conn).state ≠ .established then some (-1, host)
  else
    (host.tcpSendPacket poll conn (tcpFlagPsh ||| tcpFlagAck) data).map fun host =>
      (data.length, host.setConn conn { host.conns conn with seqNum := add32 (host.conns conn).seqNum data.length })

/-- Returns the number of bytes, or -1, and the bytes that were put into the buffer. -/
def tcpRecv (poll : Host → Option Host) (conn maxLen : Nat) : Option (Int × List UInt8 × Host) :=
  if conn = 0 then some (-1, [], host)
  else
    (poll host).map fun host =>
      let connection := host.conns conn
      if connection.dataReady && 0 < connection.recvLen then
        let copyLen := if connection.recvLen < maxLen then connection.recvLen else maxLen
        (copyLen, connection.recvBuffer.take copyLen,
          host.setConn conn { connection with recvLen := 0, dataReady := false })
      else (0, [], host)

def tcpClose (poll : Host → Option Host) (conn : Nat) : Option Host :=
  if conn = 0 ∨ (host.conns conn).state = .closed then some host
  else
    (host.tcpSendPacket poll conn (tcpFlagFin ||| tcpFlagAck) []).map fun host =>
      let host := host.setConn conn { host.conns conn with state := .closed }
      if host.activeConn = conn then { host with activeConn := 0 } else host

end Host

/-- A host after `network_init`. -/
def idleHost : Host :=
  { memory := fun _ => 0, ioBase := 0xC000, rxBuffer := 0x110000,
    receiver := { rxOffset := 0, capr := 0xFFF0, cbr := 0, schedule := [], written := [], delivered := [] },
    txBuffers := fun index => 0x120014 + 0x1000 * index, currentTx := ⟨0, by decide⟩, transmitted := [],
    localMac := ⟨[0x52, 0x54, 0x00, 0x12, 0x34, 0x56], rfl⟩,
    arpCache := List.replicate arpCacheSize { ip := 0, mac := .zero, valid := false },
    arpLocalIp := 0x0F02000A, localIp := 0x0F02000A, netmask := 0x00FFFFFF, gatewayIp := 0x0202000A, ipId := 0,
    echoState := { received := false, srcIp := 0 }, activeConn := 0,
    conns := fun _ =>
      { remoteIp := 0, localPort := 0, remotePort := 0, seqNum := 0, ackNum := 0, state := .closed, recvBuffer := [],
        recvLen := 0, dataReady := false },
    nextLocalPort := 49152, timerTicks := 0, touched := [], effects := [] }

/-- A host with a connection to 10.0.2.3 whose hardware address is known. -/
def connectedHost : Host :=
  { idleHost with
    arpCache := [{ ip := 0x0302000A, mac := .zero, valid := true }]
    activeConn := 0x300000
    conns := fun _ =>
      { remoteIp := 0x0302000A, localPort := 49152, remotePort := 80, seqNum := 1001, ackNum := 5001,
        state := .established, recvBuffer := List.replicate Host.recvBufferSize 0, recvLen := 0, dataReady := false } }

/-- A frame with an IP packet that is said to be `totalLength` bytes long. -/
def ipFrame (totalLength : Nat) (protocol : UInt8) (srcIp dstIp : Nat) (payload : List UInt8) : List UInt8 :=
  List.replicate 12 0 ++ [0x08, 0x00, 0x45, 0] ++ bytes16 (swap16 totalLength) ++ [0, 0, 0, 0, 64, protocol, 0, 0] ++
    bytes32 srcIp ++ bytes32 dstIp ++ payload

/-- A TCP header from port 80 to port 49152, with its numbers in host order. -/
def tcpSegment (seq ack : Nat) (flags : UInt8) : List UInt8 :=
  [0, 80, 0xC0, 0] ++ bytes32 (swap32 seq) ++ bytes32 (swap32 ack) ++ [0x50, flags, 0x20, 0, 0, 0, 0, 0]

/-- The host with the bytes of a frame in its memory. -/
def Host.withFrame (host : Host) (address : Nat) (frame : List UInt8) : Host :=
  { host with memory := host.memory.storeBytes address frame }

end AutismOS.Network

namespace AutismOS.Network

open AutismOS.Library

-- The written form of IP addresses, from `kernel/browser/network.c`.  A string is the list of its characters, without
-- the zero behind them.

/-- The loop of `is_valid_ip` from given counts of dots and of digits since the last one. -/
def isValidIpFrom (dots digits value : Nat) : List UInt8 → Bool
  | [] => dots = 3 && 0 < digits
  | char :: rest =>
      if isDigit char then
        if 3 ≤ digits then false
        else
          let newValue := value * 10 + digitValue char
          if 255 < newValue then false else isValidIpFrom dots (digits + 1) newValue rest
      else if char = 0x2E then
        if digits = 0 then false else isValidIpFrom (dots + 1) 0 0 rest
      else false

def isValidIp (ip : List UInt8) : Bool := isValidIpFrom 0 0 0 ip

/-- The loop of `parse_ip_string`: the octets before a dot, and the value behind the last one. -/
def parseOctets (octets : List Nat) (value : Nat) : List UInt8 → List Nat × Nat
  | [] => (octets, value)
  | char :: rest =>
      if 4 ≤ octets.length then (octets, value)
      else if isDigit char then parseOctets octets (value * 10 + digitValue char) rest
      else if char = 0x2E then parseOctets (octets ++ [value % 2 ^ 8]) 0 rest
      else parseOctets octets value rest

def parseIpString (ipStr : List UInt8) : Nat :=
  let (octets, value) := parseOctets [] 0 ipStr
  let octets := if octets.length = 3 then octets ++ [value % 2 ^ 8] else octets
  Host.address (octets.getD 0 0) (octets.getD 1 0) (octets.getD 2 0) (octets.getD 3 0)

end AutismOS.Network
