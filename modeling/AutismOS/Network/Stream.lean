import AutismOS.Library.Run
import AutismOS.Network.Segments

namespace AutismOS.Network

open AutismOS.Library

variable {host : Host} {poll : Host → Option Host} {packet length conn depth : Nat}

/-! The stream of bytes from the peer. -/

/-- The bytes that are there for `tcp_recv`. -/
def TcpConnection.pending (connection : TcpConnection) : List UInt8 :=
  if connection.dataReady then connection.recvBuffer.take connection.recvLen else []

/-- The card is polled, the connection is read, or the system does anything that is not about the connection. -/
inductive Reading where
  | poll (depth : Nat)
  | recv (depth maxLen : Nat)
  | other (host : Host)

/-- The drivers, with the bytes that `tcp_recv` returned for the connection. -/
structure Reader where
  host : Host
  returned : List UInt8

namespace Reader

def perform (conn : Nat) (reader : Reader) : Reading → Option Reader
  | .poll depth => (Host.pollReceive depth reader.host).map fun host => { reader with host }
  | .recv depth maxLen =>
      (reader.host.tcpRecv (Host.pollReceive depth) conn maxLen).map fun result =>
        { host := result.2.2, returned := reader.returned ++ result.2.1 }
  | .other other =>
      some
        { reader with
          host :=
            { other.setConn conn (reader.host.conns conn) with activeConn := reader.host.activeConn } }

/-- The bytes that were returned begin the stream of the peer, whose first byte has the number `first`,
and the bytes below `ack_num` were returned or are in the buffer. -/
structure Intact (stream : List UInt8) (first conn : Nat) (reader : Reader) : Prop where
  returned : reader.returned <+: stream
  acknowledged : ∃ acked, (reader.host.conns conn).ackNum = (first + acked) % 2 ^ 32 ∧
    ∀ place < acked, place < stream.length → place < reader.returned.length ∨
      (reader.host.conns conn).pending[place - reader.returned.length]? = stream[place]?

/-- The segment that is read holds the bytes of the stream from `place` on; what ends the stream
stands behind its last byte. -/
def Carries (stream : List UInt8) (first place : Nat) (host : Host) : Prop :=
  host.incoming.seq = (first + place) % 2 ^ 32 ∧ place + host.incomingLen ≤ stream.length ∧
    host.memory.loadBytes (host.segmentAt + host.incoming.headerLen) host.incomingLen =
      (stream.drop place).take host.incomingLen ∧
    (Host.hasFlag host.incoming.flags tcpFlagFin = true → place + host.incomingLen = stream.length)

instance (stream : List UInt8) (first place : Nat) (host : Host) : Decidable (Carries stream first place host) :=
  inferInstanceAs (Decidable (_ ∧ _ ∧ _ ∧ (_ → _)))

/-- Where the next segment has to begin: data with the first byte that was not returned, and the end
of the stream behind the buffer. -/
def place (conn : Nat) (reader : Reader) : Nat :=
  if 0 < reader.host.arrive.incomingLen then reader.returned.length
  else reader.returned.length + (reader.host.conns conn).pending.length

/-- The segment that is read, if any, fits into the buffer and begins where it has to. -/
def Fitting (stream : List UInt8) (first conn : Nat) (reader : Reader) : Prop :=
  reader.host.arrive.receives = true →
    reader.host.arrive.incomingLen ≤ Host.recvBufferSize ∧
      (0 < reader.host.arrive.incomingLen ∨ Host.hasFlag reader.host.arrive.incoming.flags tcpFlagFin = true →
        Carries stream first (reader.place conn) reader.host.arrive)

/-- The number of bytes that `tcp_recv` finds after its poll. -/
def awaits (conn : Nat) (reader : Reader) : Nat :=
  if reader.host.arrive.receives = true ∧ 0 < reader.host.arrive.incomingLen then
    min reader.host.arrive.incomingLen Host.recvBufferSize
  else (reader.host.conns conn).pending.length

/-- Segments begin where they have to and need no wait, and nobody reads less than there is. -/
def InTurn (stream : List UInt8) (first conn : Nat) (reader : Reader) : Reading → Prop
  | .poll _ => reader.host.arrive.prompt = true ∧ reader.Fitting stream first conn
  | .recv _ maxLen =>
      (reader.host.arrive.prompt = true ∧ reader.Fitting stream first conn) ∧ reader.awaits conn ≤ maxLen
  | .other _ => True

instance (stream : List UInt8) (first conn : Nat) (reader : Reader) : Decidable (Fitting stream first conn reader) :=
  inferInstanceAs (Decidable (_ → _ ∧ (_ ∨ _ → Carries _ _ _ _)))

instance (stream : List UInt8) (first conn : Nat) (reader : Reader) :
    (reading : Reading) → Decidable (InTurn stream first conn reader reading)
  | .poll _ => inferInstanceAs (Decidable (_ ∧ Fitting _ _ _ _))
  | .recv _ _ => inferInstanceAs (Decidable ((_ ∧ Fitting _ _ _ _) ∧ _ ≤ _))
  | .other _ => .isTrue trivial

end Reader

variable {stream returned : List UInt8} {first : Nat} {connection : TcpConnection}

/-- What is in the buffer continues what was returned, and nothing else is acknowledged. -/
structure Continues (stream : List UInt8) (first : Nat) (returned : List UInt8) (connection : TcpConnection) : Prop where
  filled : connection.dataReady = true → connection.recvLen ≤ connection.recvBuffer.length
  inOrder : returned ++ connection.pending <+: stream
  acked : ∃ acked, connection.ackNum = (first + acked) % 2 ^ 32 ∧
    min acked stream.length ≤ (returned ++ connection.pending).length

@[simp] theorem pending_store {data : List UInt8} {ackNum : Nat} : (connection.store data ackNum).pending = data :=
  List.take_left

theorem filled_store {data : List UInt8} {ackNum : Nat} :
    (connection.store data ackNum).recvLen ≤ (connection.store data ackNum).recvBuffer.length := by
  rw [TcpConnection.store, List.length_append]
  exact Nat.le_add_right _ _

theorem add32_position {seq position more : Nat} (same : seq = (first + position) % 2 ^ 32) :
    add32 seq more = (first + (position + more)) % 2 ^ 32 := by
  rw [add32, same, Nat.mod_add_mod, Nat.add_assoc]

/-- Data that begins with the first byte that was not returned, and fits into the buffer. -/
theorem Continues.store {data : List UInt8} {seq : Nat} (continues : Continues stream first returned connection)
    (sequence : seq = (first + returned.length) % 2 ^ 32)
    (bytes : data = (stream.drop returned.length).take data.length) :
    Continues stream first returned (connection.store data (add32 seq data.length)) := by
  have begun : returned = stream.take returned.length :=
    List.prefix_iff_eq_take.mp ((List.prefix_append _ _).trans continues.inOrder)
  refine ⟨fun _ => filled_store, ?_, returned.length + data.length, add32_position sequence, ?_⟩
  · rw [pending_store]
    have joined : returned ++ data = stream.take (returned.length + data.length) := by
      rw [List.take_add, ← begun, ← bytes]
    rw [joined]
    exact List.take_prefix _ _
  · rw [pending_store, List.length_append]
    exact Nat.min_le_left _ _

/-- The end of the stream is acknowledged, or a byte before it that is there. -/
theorem Continues.finish {seq position : Nat} (continues : Continues stream first returned connection)
    (sequence : seq = (first + position) % 2 ^ 32)
    (reaches : min (position + 1) stream.length ≤ (returned ++ connection.pending).length) :
    Continues stream first returned { connection with ackNum := add32 seq 1, state := .closed } :=
  ⟨continues.filled, continues.inOrder, position + 1, add32_position sequence, reaches⟩

/-- Reading all that is in the buffer. -/
theorem Continues.read (continues : Continues stream first returned connection) :
    Continues stream first (returned ++ connection.pending) { connection with recvLen := 0, dataReady := false } := by
  have empty : TcpConnection.pending { connection with recvLen := 0, dataReady := false } = [] := rfl
  refine ⟨nofun, ?_, ?_⟩
  · rw [empty, List.append_nil]
    exact continues.inOrder
  · rw [empty, List.append_nil]
    exact continues.acked

theorem close_pending {ackNum : Nat} : TcpConnection.pending { connection with ackNum, state := .closed } = connection.pending :=
  rfl

theorem taken_pending : (host.taken packet length).pending =
    (host.stored host.activeConn (host.loadSegment packet) packet length).pending := by
  rw [Host.taken]
  split
  · rw [close_pending]
  · rfl

theorem close_connected {ackNum : Nat} : TcpConnection.state { connection with ackNum, state := .closed } ≠ .synSent := nofun

theorem taken_connected (connected : (host.conns host.activeConn).state ≠ .synSent) :
    (host.taken packet length).state ≠ .synSent := by
  rw [Host.taken]
  split
  · exact close_connected
  · rw [stored_state]
    exact connected

/-- After the data was taken, the end of the stream may follow. -/
theorem Continues.taken_of_stored {position : Nat}
    (continues : Continues stream first returned
      (host.stored host.activeConn (host.loadSegment packet) packet length))
    (ends : Host.hasFlag (host.loadSegment packet).flags tcpFlagFin = true →
      (host.loadSegment packet).seq = (first + position) % 2 ^ 32 ∧ min (position + 1) stream.length ≤
        (returned ++ (host.stored host.activeConn (host.loadSegment packet) packet length).pending).length) :
    Continues stream first returned (host.taken packet length) := by
  rw [Host.taken]
  split
  · next fin => exact continues.finish (ends fin).1 (ends fin).2
  · exact continues

/-- A segment that begins where it has to leaves the buffer in order. -/
theorem Continues.taken (continues : Continues stream first returned (host.conns host.activeConn))
    (small : host.incomingLen ≤ Host.recvBufferSize)
    (carries : 0 < host.incomingLen ∨ Host.hasFlag host.incoming.flags tcpFlagFin = true →
      Reader.Carries stream first
        (if 0 < host.incomingLen then returned.length
          else returned.length + (host.conns host.activeConn).pending.length) host) :
    Continues stream first returned (host.taken host.segmentAt host.segmentLength) ∧
      (host.taken host.segmentAt host.segmentLength).pending.length =
        if 0 < host.incomingLen then min host.incomingLen Host.recvBufferSize
        else (host.conns host.activeConn).pending.length := by
  rw [taken_pending]
  by_cases data : 0 < host.incomingLen
  · rw [if_pos data] at carries ⊢
    obtain ⟨sequence, inside, bytes, _⟩ := carries (Or.inl data)
    have whole : min host.incomingLen Host.recvBufferSize = host.incomingLen := Nat.min_eq_left small
    have copied : host.copied host.incoming host.segmentAt host.segmentLength =
        (stream.drop returned.length).take host.incomingLen := by
      rw [← bytes, Host.copied]
      exact congrArg _ whole
    have length : (host.copied host.incoming host.segmentAt host.segmentLength).length = host.incomingLen := by
      rw [copied, List.length_take, List.length_drop]
      omega
    have stored : host.stored host.activeConn host.incoming host.segmentAt host.segmentLength =
        (host.conns host.activeConn).store (host.copied host.incoming host.segmentAt host.segmentLength)
          (add32 host.incoming.seq (host.copied host.incoming host.segmentAt host.segmentLength).length) := by
      rw [Host.stored, length]
      exact if_pos data
    have kept : Continues stream first returned
        (host.stored host.activeConn host.incoming host.segmentAt host.segmentLength) := by
      rw [stored]
      refine continues.store sequence ?_
      rw [length, copied]
    have pending : (host.stored host.activeConn host.incoming host.segmentAt host.segmentLength).pending.length =
        host.incomingLen := by
      rw [stored, pending_store, length]
    rw [whole]
    refine ⟨kept.taken_of_stored fun _ => ⟨sequence, ?_⟩, pending⟩
    have lengths : (returned ++ (host.stored host.activeConn host.incoming host.segmentAt
        host.segmentLength).pending).length = returned.length + host.incomingLen := by
      rw [List.length_append, pending]
    refine Nat.le_trans (Nat.min_le_left _ _) (Nat.le_trans ?_ (Nat.le_of_eq lengths.symm))
    omega
  · rw [if_neg data] at carries ⊢
    have stored : host.stored host.activeConn host.incoming host.segmentAt host.segmentLength =
        host.conns host.activeConn := if_neg data
    have kept : Continues stream first returned
        (host.stored host.activeConn host.incoming host.segmentAt host.segmentLength) := by
      rw [stored]
      exact continues
    have lengths : (returned ++ (host.stored host.activeConn host.incoming host.segmentAt
        host.segmentLength).pending).length = returned.length + (host.conns host.activeConn).pending.length := by
      rw [List.length_append, stored]
    have ends : Host.hasFlag host.incoming.flags tcpFlagFin = true →
        host.incoming.seq = (first + (returned.length + (host.conns host.activeConn).pending.length)) % 2 ^ 32 ∧
          min (returned.length + (host.conns host.activeConn).pending.length + 1) stream.length ≤
            (returned ++ (host.stored host.activeConn host.incoming host.segmentAt
              host.segmentLength).pending).length := by
      intro fin
      obtain ⟨sequence, _, _, last⟩ := carries (Or.inr fin)
      have final := last fin
      refine ⟨sequence, Nat.le_trans (Nat.min_le_right _ _) (Nat.le_trans ?_ (Nat.le_of_eq lengths.symm))⟩
      omega
    exact ⟨kept.taken_of_stored ends, congrArg (fun connection => connection.pending.length) stored⟩

namespace Reader

variable {reader next : Reader} {reading : Reading} {readings : List Reading}

/-- What `Intact` rests on. -/
structure Sound (stream : List UInt8) (first conn : Nat) (reader : Reader) : Prop where
  nonNull : conn ≠ 0
  isActive : reader.host.activeConn = conn
  connected : (reader.host.conns conn).state ≠ .synSent
  continues : Continues stream first reader.returned (reader.host.conns conn)

theorem Sound.intact (sound : Sound stream first conn reader) : Intact stream first conn reader := by
  obtain ⟨acked, sequence, reaches⟩ := sound.continues.acked
  refine ⟨(List.prefix_append _ _).trans sound.continues.inOrder, acked, sequence, fun place below inside => ?_⟩
  by_cases already : place < reader.returned.length
  · exact Or.inl already
  · refine Or.inr ?_
    have there : place < (reader.returned ++ (reader.host.conns conn).pending).length := by omega
    rw [← List.getElem?_append_right (Nat.not_lt.mp already)]
    rw [List.prefix_iff_getElem?.mp sound.continues.inOrder place there, List.getElem?_eq_getElem there]

/-- A poll that needs no wait leaves the buffer in order. -/
theorem Sound.polled {host : Host} (sound : Sound stream first conn reader) (prompt : reader.host.arrive.prompt = true)
    (fitting : reader.Fitting stream first conn) (done : Host.pollReceive depth reader.host = some host) :
    Sound stream first conn { reader with host } ∧ (host.conns conn).pending.length = reader.awaits conn := by
  have arrived : Spares reader.host reader.host.arrive := arrive_arrived.spares
  have active : reader.host.arrive.activeConn = conn := arrived.2.trans sound.isActive
  have connection : reader.host.arrive.conns reader.host.arrive.activeConn = reader.host.conns conn := by
    rw [arrived.1, active]
  cases receives : reader.host.arrive.receives with
  | true =>
      obtain ⟨same, taken⟩ := pollReceive_takes receives prompt done
      rw [sound.isActive] at same taken
      obtain ⟨small, carries⟩ := fitting receives
      have continues : Continues stream first reader.returned
          (reader.host.arrive.conns reader.host.arrive.activeConn) := by
        rw [connection]
        exact sound.continues
      rw [place, ← connection] at carries
      obtain ⟨kept, pending⟩ := continues.taken small carries
      have connected : (reader.host.arrive.conns reader.host.arrive.activeConn).state ≠ .synSent := by
        rw [connection]
        exact sound.connected
      refine ⟨⟨sound.nonNull, same, ?_, ?_⟩, ?_⟩
      · rw [taken]
        exact taken_connected connected
      · rw [taken]
        exact kept
      · rw [taken, pending, connection, awaits]
        by_cases data : 0 < reader.host.arrive.incomingLen
        · rw [if_pos data, if_pos ⟨receives, data⟩]
        · rw [if_neg data, if_neg fun both => data both.2]
  | false =>
      have connected : (reader.host.conns reader.host.activeConn).state ≠ .synSent := by
        rw [sound.isActive]
        exact sound.connected
      obtain ⟨conns, same⟩ := pollReceive_spares receives prompt connected done
      refine ⟨⟨sound.nonNull, same.trans sound.isActive, ?_, ?_⟩, ?_⟩
      · rw [conns]
        exact sound.connected
      · rw [conns]
        exact sound.continues
      · rw [conns, awaits, receives, if_neg fun both => Bool.false_ne_true both.1]

/-- Where enough is asked for, `tcp_recv` returns what is in the buffer. -/
theorem tcpRecv_returns {host : Host} {maxLen : Nat} {result : Int × List UInt8 × Host} (nonNull : conn ≠ 0)
    (done : host.tcpRecv poll conn maxLen = some result) : ∃ polled, poll host = some polled ∧
      ((polled.conns conn).pending.length ≤ maxLen →
        ((polled.conns conn).dataReady = true → (polled.conns conn).recvLen ≤ (polled.conns conn).recvBuffer.length) →
        result.2 = ((polled.conns conn).pending,
            polled.setConn conn { polled.conns conn with recvLen := 0, dataReady := false }) ∨
          (polled.conns conn).pending = [] ∧ result.2 = ([], polled)) := by
  rw [Host.tcpRecv, if_neg nonNull] at done
  obtain ⟨polled, polls, rfl⟩ := Option.map_eq_some_iff.mp done
  refine ⟨polled, polls, fun enough filled => ?_⟩
  dsimp only
  by_cases ready : ((polled.conns conn).dataReady && 0 < (polled.conns conn).recvLen) = true
  · rw [if_pos ready]
    have isReady : (polled.conns conn).dataReady = true := (Bool.and_eq_true_iff.mp ready).1
    have pending : (polled.conns conn).pending = (polled.conns conn).recvBuffer.take (polled.conns conn).recvLen :=
      if_pos isReady
    have within := filled isReady
    rw [pending, List.length_take, Nat.min_eq_left within] at enough
    have all : (if (polled.conns conn).recvLen < maxLen then (polled.conns conn).recvLen else maxLen) =
        (polled.conns conn).recvLen := by
      split
      · rfl
      · omega
    refine Or.inl ?_
    rw [all, pending]
  · rw [if_neg ready]
    refine Or.inr ⟨?_, rfl⟩
    rw [TcpConnection.pending]
    split
    · next isReady =>
        rw [isReady, Bool.true_and, decide_eq_true_eq, Nat.not_lt, Nat.le_zero] at ready
        rw [ready, List.take_zero]
    · rfl

theorem Sound.performed (sound : Sound stream first conn reader) (inTurn : InTurn stream first conn reader reading)
    (done : perform conn reader reading = some next) : Sound stream first conn next := by
  cases reading with
  | poll depth =>
      obtain ⟨host, polls, rfl⟩ := Option.map_eq_some_iff.mp done
      exact (sound.polled inTurn.1 inTurn.2 polls).1
  | recv depth maxLen =>
      obtain ⟨result, receives, rfl⟩ := Option.map_eq_some_iff.mp done
      obtain ⟨⟨prompt, fitting⟩, enough⟩ := inTurn
      obtain ⟨polled, polls, returns⟩ := tcpRecv_returns sound.nonNull receives
      obtain ⟨kept, pending⟩ := sound.polled prompt fitting polls
      rw [← pending] at enough
      rcases returns enough kept.continues.filled with same | ⟨empty, same⟩
      · rw [same]
        refine ⟨sound.nonNull, kept.isActive, ?_, ?_⟩
        · rw [setConn_conns, if_pos rfl]
          exact kept.connected
        · rw [setConn_conns, if_pos rfl]
          exact kept.continues.read
      · rw [same, List.append_nil]
        exact kept
  | other other =>
      cases done
      have same : (other.setConn conn (reader.host.conns conn)).conns conn = reader.host.conns conn :=
        setConn_conns.trans (if_pos rfl)
      refine ⟨sound.nonNull, sound.isActive, ?_, ?_⟩
      · rw [same]
        exact sound.connected
      · rw [same]
        exact sound.continues

/-- The connection is established, and nothing was received on it. -/
structure Opened (host : Host) (conn first : Nat) : Prop where
  nonNull : conn ≠ 0
  isActive : host.activeConn = conn
  established : (host.conns conn).state = .established
  empty : (host.conns conn).dataReady = false
  next : (host.conns conn).ackNum = first % 2 ^ 32

theorem Opened.sound (opened : Opened host conn first) : Sound stream first conn { host, returned := [] } := by
  have pending : (host.conns conn).pending = [] := if_neg (ne_true_of_eq_false opened.empty)
  refine ⟨opened.nonNull, opened.isActive, ?_, ?_, ?_, 0, opened.next, Nat.zero_le _⟩
  · rw [opened.established]
    exact nofun
  · intro ready
    rw [opened.empty] at ready
    cases ready
  · rw [pending]
    exact List.nil_prefix

/-- While all that arrives begins where it has to, and nobody reads less than there is, `tcp_recv`
returns the stream of the peer, and nothing that was acknowledged is missing. -/
theorem run_returns_stream (opened : Opened host conn first)
    (run : Restricted (perform conn) (InTurn stream first conn) { host, returned := [] } readings next) :
    Observed (perform conn) (fun _ _ reader => Intact stream first conn reader) { host, returned := [] } readings next := by
  refine run.observed (Sound stream first conn) (fun before reading after sound inTurn done => ?_) opened.sound
  have kept := sound.performed inTurn done
  exact ⟨kept.intact, kept⟩

/-- A segment from the peer to `connectedHost`. -/
def dataFrame (seq : Nat) (flags : UInt8) (data : List UInt8) : List UInt8 :=
  ipFrame (40 + data.length) 6 0x0302000A 0x0F02000A (tcpSegment seq 1001 flags ++ data)

/-- The peer sends its stream `[104, 101, 108, 108, 111]` in two segments. -/
def twoSegments : Host :=
  { connectedHost with
    receiver :=
      { connectedHost.receiver with
        schedule := [[dataFrame 5001 0x18 [104, 101, 108]], [dataFrame 5004 0x19 [108, 111]]] } }

theorem twoSegments_opened : Opened twoSegments 0x300000 5001 := ⟨by decide, rfl, rfl, rfl, rfl⟩

/-- Each segment is read before the next one comes. -/
theorem run_returns_stream_alternating :
    ∃ next, next.returned = [104, 101, 108, 108, 111] ∧
      Observed (perform 0x300000) (fun _ _ reader => Intact [104, 101, 108, 108, 111] 5001 0x300000 reader)
        { host := twoSegments, returned := [] } [.recv 1 512, .recv 1 512] next := by
  have returns : (performAll (perform 0x300000)
      (fun reader reading => decide (InTurn [104, 101, 108, 108, 111] 5001 0x300000 reader reading))
      { host := twoSegments, returned := [] } [.recv 1 512, .recv 1 512]).any
      (fun next => next.returned = [104, 101, 108, 108, 111]) = true := by
    decide +kernel
  obtain ⟨next, done, returned⟩ := (Option.any_eq_true _ _).mp returns
  have inTurn := (performAll_restricted done).mono fun _ _ _ performed =>
    (⟨of_decide_eq_true performed.1, performed.2⟩ :
      Guarded (InTurn [104, 101, 108, 108, 111] 5001 0x300000) (Stepping (perform 0x300000)) _ _ _)
  exact ⟨next, of_decide_eq_true returned, run_returns_stream twoSegments_opened inTurn⟩

/-- Where both come before they are read, the first one is lost. -/
theorem run_loses_segment :
    ∃ next, Run (Stepping (perform 0x300000)) { host := twoSegments, returned := [] } [.poll 1, .poll 1, .recv 1 512]
        next ∧ next.returned = [108, 111] ∧
      ¬ Observed (perform 0x300000) (fun _ _ reader => Intact [104, 101, 108, 108, 111] 5001 0x300000 reader)
        { host := twoSegments, returned := [] } [.poll 1, .poll 1, .recv 1 512] next := by
  have loses : (performAll (perform 0x300000) (fun _ _ => true) { host := twoSegments, returned := [] }
      [.poll 1, .poll 1, .recv 1 512]).any (fun next => next.returned = [108, 111]) = true := by
    decide +kernel
  obtain ⟨next, done, returned⟩ := (Option.any_eq_true _ _).mp loses
  have run := (performAll_restricted done).mono fun _ _ _ performed => performed.2
  have lost := of_decide_eq_true returned
  refine ⟨next, run, lost, fun observed => ?_⟩
  have intact := observed.invariant (fun reader => reader.returned <+: [104, 101, 108, 108, 111])
    (fun _ _ _ _ performed => performed.2.returned) List.nil_prefix
  rw [lost] at intact
  exact absurd intact (by decide)

end Reader

end AutismOS.Network
