import AutismOS.Library.Bytes
import AutismOS.Library.Word

namespace AutismOS.Network

open AutismOS.Library

/-! The network drivers: `rtl8139.c`, `ethernet.c` and `arp.c`.

Frames that were received lie in the memory; the local buffers of the functions and the buffers of
the connections are strings of bytes, and so are packets in the transmit buffers, of which only the
addresses are kept.  Connections are found under their addresses, and NULL is 0.  What the network
brings is a schedule of frames, and what was sent is a log.
-/

def rxBufSize : Nat := 8192
def txBufSize : Nat := 1536
def ethTypeArp : Nat := 0x0806
def ethTypeIp : Nat := 0x0800
def arpOpRequest : Nat := 1
def arpOpReply : Nat := 2
def arpCacheSize : Nat := 8
def ipProtoIcmp : Nat := 1
def ipProtoTcp : Nat := 6

/-- The sizes of the headers. -/
def ethHeaderSize : Nat := 14
def arpPacketSize : Nat := 28
def ipHeaderSize : Nat := 20
def icmpHeaderSize : Nat := 8
def tcpHeaderSize : Nat := 20

/-- `uint8[6]`, a hardware address -/
structure Mac where
  bytes : List UInt8
  length : bytes.length = 6

/-- The address that stands at a place in memory. -/
def Mac.load (memory : ByteMemory) (address : Nat) : Mac := ⟨memory.loadBytes address 6, ByteMemory.length_loadBytes⟩

def Mac.zero : Mac := ⟨[0, 0, 0, 0, 0, 0], rfl⟩

def Mac.broadcast : Mac := ⟨[0xFF, 0xFF, 0xFF, 0xFF, 0xFF, 0xFF], rfl⟩

/-- `arp_entry_t` -/
structure ArpEntry where
  ip : Nat
  mac : Mac
  valid : Bool

inductive TcpState where
  | closed
  | synSent
  | established
  | finWait
  | closeWait
deriving DecidableEq

/-- `tcp_connection_t` -/
structure TcpConnection where
  remoteIp : Nat
  localPort : Nat
  remotePort : Nat
  seqNum : Nat
  ackNum : Nat
  state : TcpState
  recvBuffer : List UInt8
  recvLen : Nat
  dataReady : Bool

/-- `icmp_echo_state_t` -/
structure EchoState where
  received : Bool
  srcIp : Nat

/-- The buffers into which a packet is copied on its way out. -/
inductive Buffer where
  | tcpPacket
  | ipPacket
  | frame
  | txBuffer (address : Nat)
deriving DecidableEq

def Buffer.size : Buffer → Nat
  | .tcpPacket => 1500
  | .ipPacket => 1500
  | .frame => 1518
  | .txBuffer address => if address = 0 then 0 else txBufSize

/-- What is recorded of the way out: writes to buffers, and sums that are stored in 16 bits. -/
inductive Effect where
  | write (buffer : Buffer) (offset count : Nat)
  | length (sum : Nat)
deriving DecidableEq

/-- The receive ring, with what the card wrote to it and what was passed to the callback. -/
structure Receiver where
  rxOffset : Nat
  capr : Nat
  cbr : Nat
  schedule : List (List (List UInt8))
  written : List (List UInt8)
  delivered : List (List UInt8)

/-- The state of all the drivers together. -/
structure Host where
  memory : ByteMemory
  ioBase : Nat
  rxBuffer : Nat
  receiver : Receiver
  /-- What `kmalloc` answered; nobody asks whether it is NULL. -/
  txBuffers : Fin 4 → Nat
  currentTx : Fin 4
  transmitted : List (List UInt8)
  localMac : Mac
  arpCache : List ArpEntry
  arpLocalIp : Nat
  localIp : Nat
  netmask : Nat
  gatewayIp : Nat
  ipId : Nat
  echoState : EchoState
  activeConn : Nat
  conns : Nat → TcpConnection
  nextLocalPort : Nat
  timerTicks : Nat
  /-- The bytes of the frame being handled that were accessed: addresses and counts. -/
  touched : List (Nat × Nat)
  effects : List Effect

namespace Host

variable (host : Host)

/-- `count` bytes of the frame from `address` on are accessed. -/
def touch (address count : Nat) : Host :=
  if count = 0 then host else { host with touched := (address, count) :: host.touched }

def note (effect : Effect) : Host := { host with effects := effect :: host.effects }

def setConn (conn : Nat) (content : TcpConnection) : Host :=
  { host with conns := Function.update host.conns conn content }

/-- Returns 0, or -1 where the packet is refused. -/
def rtl8139SendPacket (data : List UInt8) : Int × Host :=
  if host.ioBase = 0 ∨ txBufSize < data.length then (-1, host)
  else
    (0, { host.note (.write (.txBuffer (host.txBuffers host.currentTx)) 0 data.length) with
      transmitted := host.transmitted ++ [data]
      currentTx := host.currentTx + 1 })

/-- The bytes of the ring that a frame takes up: status, length, the frame, its checksum, and padding. -/
def slotSize (frame : List UInt8) : Nat := (frame.length + 4 + 7) / 4 * 4

/-- `rx_offset - 16`, as the register holds it. -/
def caprOf (rxOffset : Nat) : Nat := (rxOffset + (2 ^ 16 - 16)) % 2 ^ 16

/-- The offset up to which the card knows the ring to be read. -/
def readOffset : Nat := (host.receiver.capr + 16) % rxBufSize

def bufferEmpty : Bool := host.readOffset = host.receiver.cbr

/-- The card writes a frame where it finds room, and else drops it.  It writes on behind the end of
the ring.  Nobody reads the checksum behind the frame. -/
def cardWrite (frame : List UInt8) : Host :=
  if (host.receiver.cbr + rxBufSize - host.readOffset) % rxBufSize + slotSize frame < rxBufSize then
    { host with
      memory := host.memory.storeBytes (host.rxBuffer + host.receiver.cbr)
        (bytes16 1 ++ bytes16 (frame.length + 4) ++ frame)
      receiver := { host.receiver with
        cbr := (host.receiver.cbr + slotSize frame) % rxBufSize
        written := host.receiver.written ++ [frame] } }
  else host

/-- What arrives before a poll. -/
def arrive : Host :=
  match host.receiver.schedule with
  | [] => host
  | frames :: schedule => frames.foldl cardWrite { host with receiver := { host.receiver with schedule } }

/-- Both places that move the read position write it to the card. -/
def setRxOffset (rxOffset : Nat) : Host :=
  { host with receiver := { host.receiver with rxOffset, capr := caprOf rxOffset } }

/-- The addresses of the buffers and what is found out about the card; an I/O base of 0 says that
there is no card, or that its reset failed. -/
structure CardSetup where
  ioBase : Nat
  rxBuffer : Nat
  txBuffers : Fin 4 → Nat
  macAddress : Mac
  schedule : List (List (List UInt8))

/-- The buffer and the 16 bytes behind it are cleared, and the registers of the card are reset. -/
def rtl8139Init (setup : CardSetup) : Host :=
  if setup.ioBase = 0 then { host with ioBase := 0 }
  else
    { host with
      ioBase := setup.ioBase
      rxBuffer := setup.rxBuffer
      txBuffers := setup.txBuffers
      memory := host.memory.fill setup.rxBuffer 0 (rxBufSize + 16)
      receiver := { rxOffset := 0, capr := caprOf 0, cbr := 0, schedule := setup.schedule, written := [], delivered := [] } }

/-- The callback gets a frame; what it accesses and sends is recorded on its own. -/
def deliver (receive : Nat → Nat → Host → Option Host) (pkt length : Nat) : Option Host :=
  let frame := host.memory.loadBytes pkt length
  let logged := { host with
    receiver := { host.receiver with delivered := host.receiver.delivered ++ [frame] }
    touched := []
    effects := [] }
  (receive pkt length logged).map fun after => { after with touched := host.touched, effects := host.effects }

/-- `rtl8139_poll_receive`, with the callback.  Nobody uses its result. -/
def pollWith (receive : Nat → Nat → Host → Option Host) : Option Host :=
  let host := host.arrive
  if host.ioBase = 0 ∨ host.rxBuffer = 0 then some host
  else if host.bufferEmpty then some host
  else
    let rxStatus := host.memory.load16 (host.rxBuffer + host.receiver.rxOffset)
    let rxLen := host.memory.load16 (host.rxBuffer + host.receiver.rxOffset + 2)
    if rxLen < 4 ∨ rxBufSize < rxLen then some (host.setRxOffset 0)
    else
      let pkt := host.rxBuffer + host.receiver.rxOffset + 4
      let received :=
        if rxStatus % 2 = 1 ∧ 4 < rxLen then host.deliver receive pkt (rxLen - 4) else some host
      received.map fun host =>
        host.setRxOffset ((host.receiver.rxOffset + rxLen + 4 + 3) / 4 * 4 % 2 ^ 16 % rxBufSize)

def ethernetFrame (dstMac : Mac) (ethType : Nat) (payload : List UInt8) : List UInt8 :=
  dstMac.bytes ++ host.localMac.bytes ++ bytes16 (swap16 ethType) ++ payload

def ethernetSend (dstMac : Mac) (ethType : Nat) (payload : List UInt8) : Host :=
  let frame := host.ethernetFrame dstMac ethType payload
  let host := (host.note (.write .frame 0 ethHeaderSize)).note (.write .frame ethHeaderSize payload.length)
  let host := host.note (.length (ethHeaderSize + payload.length))
  (host.rtl8139SendPacket (frame.take ((ethHeaderSize + payload.length) % 2 ^ 16))).2

/-- The two callbacks are those that are set, `arp_rx` and `ip_rx`. -/
def ethernetReceive (arpRx ipRx : Nat → Nat → Host → Option Host) (frame frameLen : Nat) : Option Host :=
  if frameLen < ethHeaderSize then some host
  else
    let host := host.touch (frame + 12) 2
    let ethType := swap16 (host.memory.load16 (frame + 12))
    let payload := frame + ethHeaderSize
    let payloadLen := frameLen - ethHeaderSize
    if ethType = ethTypeArp then arpRx payload payloadLen host
    else if ethType = ethTypeIp then ipRx payload payloadLen host
    else some host

/-- `rtl8139_get_mac_address` finds zeros where there is no card. -/
def ethernetInit (macAddress : Mac) : Host := { host with localMac := macAddress }

def arpInit : Host :=
  { host with arpCache := List.replicate arpCacheSize { ip := 0, mac := .zero, valid := false } }

def arpSetIp (ip : Nat) : Host := { host with arpLocalIp := ip }

/-- An `arp_packet_t` with this machine as its sender; the first two fields are in memory order. -/
def arpPacket (htype ptype op : Nat) (targetMac : Mac) (targetIp : Nat) : List UInt8 :=
  bytes16 htype ++ bytes16 ptype ++ [6, 4] ++ bytes16 (swap16 op) ++ host.localMac.bytes ++
    bytes32 host.arpLocalIp ++ targetMac.bytes ++ bytes32 targetIp

def arpRequest (ip : Nat) : Host :=
  host.ethernetSend .broadcast ethTypeArp (host.arpPacket (swap16 1) (swap16 0x0800) arpOpRequest .zero ip)

def arpLookup (ip : Nat) : Option Mac :=
  (host.arpCache.find? fun entry => entry.valid && entry.ip = ip).map (·.mac)

/-- The first entry that is not valid is filled. -/
def fillEntry (ip : Nat) (mac : Mac) : List ArpEntry → List ArpEntry
  | [] => []
  | entry :: rest => if entry.valid then entry :: fillEntry ip mac rest else { ip, mac, valid := true } :: rest

/-- The sender of a packet is put into the cache, unless it is there. -/
def arpLearn (packet : Nat) : Host :=
  let host := (host.touch (packet + 14) 4).touch (packet + 8) 6
  let senderIp := host.memory.loadWord (packet + 14)
  let found := host.arpCache.any fun entry => entry.valid && entry.ip = senderIp
  if found then host
  else { host with arpCache := fillEntry senderIp (.load host.memory (packet + 8)) host.arpCache }

def arpAnswer (packet : Nat) : Host :=
  let host := host.touch packet 4
  let senderMac := Mac.load host.memory (packet + 8)
  host.ethernetSend senderMac ethTypeArp
    (host.arpPacket (host.memory.load16 packet) (host.memory.load16 (packet + 2)) arpOpReply senderMac
      (host.memory.loadWord (packet + 14)))

def arpReceive (packet length : Nat) : Host :=
  if length < arpPacketSize then host
  else
    let host := (host.touch (packet + 6) 2).touch (packet + 24) 4
    let op := swap16 (host.memory.load16 (packet + 6))
    if host.memory.loadWord (packet + 24) = host.arpLocalIp then
      let host := host.arpLearn packet
      if op = arpOpRequest then host.arpAnswer packet else host
    else host

end Host

end AutismOS.Network
