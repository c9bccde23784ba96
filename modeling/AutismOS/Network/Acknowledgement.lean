import AutismOS.Library.Run
import AutismOS.Network.Quiet

namespace AutismOS.Network

open AutismOS.Library

variable {host before after : Host} {conn packet length srcIp depth : Nat}

/-! What is acknowledged to the peer. -/

/-- A segment is handled, or the system does anything that is not about the connection. -/
inductive Arriving where
  | segment (depth packet length srcIp : Nat)
  | other (host : Host)

def Host.handle (conn : Nat) (host : Host) : Arriving → Option Host
  | .segment depth packet length srcIp => host.tcpReceive (Host.quietPoll depth) packet length srcIp
  | .other other => some (host.elsewhere other conn)

/-- A number does not come before another one, modulo 2^32. -/
def Forward (number next : Nat) : Prop := sub32 next number < 2 ^ 31

/-- The numbers that the bytes of a segment and its FIN take up. -/
def Host.Segment.span (segment : Host.Segment) (length : Nat) : Nat :=
  Host.dataLen segment length + if Host.hasFlag segment.flags tcpFlagFin then 1 else 0

/-- The segment is for the connection, which is established. -/
structure Incoming (host : Host) (packet length srcIp : Nat) : Prop where
  forActive : ForActive host packet length srcIp
  established : (host.conns host.activeConn).state = .established

/-- A segment with the number that is expected is acknowledged as a whole. -/
def InSequence (conn : Nat) (before : Host) (after : Host) : Arriving → Prop
  | .segment _ packet length srcIp =>
      Incoming before packet length srcIp → (before.loadSegment packet).seq = (before.conns conn).ackNum →
        (after.conns conn).ackNum = add32 (before.loadSegment packet).seq ((before.loadSegment packet).span length)
  | .other _ => True

def Acknowledges (conn : Nat) (before : Host) (arriving : Arriving) (after : Host) : Prop :=
  Forward (before.conns conn).ackNum (after.conns conn).ackNum ∧ InSequence conn before after arriving

/-- The number after the data, or after the FIN when there is one, does not come before the number that is
expected; and data that is expected comes without FIN. -/
def Mild (conn : Nat) (host : Host) : Arriving → Prop
  | .segment _ packet length srcIp =>
      Incoming host packet length srcIp →
        if Host.hasFlag (host.loadSegment packet).flags tcpFlagFin then
          Forward (host.conns conn).ackNum ((host.loadSegment packet).seq + 1) ∧
            ((host.loadSegment packet).seq = (host.conns conn).ackNum → Host.dataLen (host.loadSegment packet) length = 0)
        else
          0 < Host.dataLen (host.loadSegment packet) length →
            Forward (host.conns conn).ackNum ((host.loadSegment packet).seq + Host.dataLen (host.loadSegment packet) length)
  | .other _ => True

theorem forward_refl (number : Nat) : Forward number number := by
  unfold Forward sub32
  omega

theorem forward_add32 {number next more : Nat} : Forward number (add32 next more) ↔ Forward number (next + more) := by
  have same : sub32 (add32 next more) number = sub32 (next + more) number := by
    unfold sub32 add32
    omega
  rw [Forward, Forward, same]

/-- What is acknowledged of the data and the FIN of a segment comes behind what is expected, and is all of it, exactly
when the number of the segment is mild. -/
theorem acknowledged_iff {seq dataLen expected number : Nat} {fin : Bool} (seqSmall : seq < 2 ^ 32)
    (lenSmall : dataLen < 2 ^ 16)
    (isNumber : number = if fin then add32 seq 1 else if 0 < dataLen then add32 seq dataLen else expected) :
    (Forward expected number ∧ (seq = expected → number = add32 seq (dataLen + if fin then 1 else 0))) ↔
      if fin then Forward expected (seq + 1) ∧ (seq = expected → dataLen = 0)
      else 0 < dataLen → Forward expected (seq + dataLen) := by
  subst isNumber
  cases fin with
  | true =>
      rw [if_pos rfl, if_pos rfl, if_pos rfl, forward_add32]
      refine and_congr_right fun _ => imp_congr_right fun _ => ?_
      unfold add32
      omega
  | false =>
      rw [if_neg Bool.false_ne_true, if_neg Bool.false_ne_true, if_neg Bool.false_ne_true]
      by_cases data : 0 < dataLen
      · rw [if_pos data, imp_iff_right data, forward_add32]
        exact and_iff_left fun _ => rfl
      · rw [if_neg data]
        refine iff_of_true ⟨forward_refl _, fun expected => ?_⟩ fun contrary => absurd contrary data
        unfold add32
        omega

theorem loadSegment_seq_lt : (host.loadSegment packet).seq < 2 ^ 32 := swap32_lt

theorem dataLen_lt {segment : Host.Segment} : Host.dataLen segment length < 2 ^ 16 := Nat.mod_lt _ (by decide)

/-- The acknowledgement number after a segment was taken. -/
theorem taken_ackNum : (host.taken packet length).ackNum =
    if Host.hasFlag (host.loadSegment packet).flags tcpFlagFin then add32 (host.loadSegment packet).seq 1
    else if 0 < Host.dataLen (host.loadSegment packet) length then
      add32 (host.loadSegment packet).seq (Host.dataLen (host.loadSegment packet) length)
    else (host.conns host.activeConn).ackNum := by
  rw [Host.taken]
  split
  · rfl
  · rw [Host.stored]
    split
    · rfl
    · rfl

/-- A segment is acknowledged as it should be exactly when it is mild. -/
theorem taken_acknowledges_iff (isActive : host.activeConn = conn) (incoming : Incoming host packet length srcIp)
    (taken : after.conns conn = host.taken packet length) :
    Acknowledges conn host (.segment depth packet length srcIp) after ↔ Mild conn host (.segment depth packet length srcIp) := by
  have number : (after.conns conn).ackNum = _ := (congrArg TcpConnection.ackNum taken).trans taken_ackNum
  rw [isActive] at number
  rw [Acknowledges, InSequence, Mild, imp_iff_right incoming, imp_iff_right incoming, Host.Segment.span]
  exact acknowledged_iff loadSegment_seq_lt dataLen_lt number

/-- What the steps rest on. -/
structure Live (conn : Nat) (host : Host) : Prop where
  isActive : host.activeConn = conn
  connected : (host.conns conn).state ≠ .synSent

theorem Live.settled (live : Live conn host) : host.Settled := by
  refine Or.inr ?_
  rw [live.isActive]
  exact live.connected

theorem Live.spares (live : Live conn host) (spares : Spares host after) : Live conn after := by
  refine ⟨spares.2.trans live.isActive, ?_⟩
  rw [spares.1]
  exact live.connected

/-- One step is as it should be exactly when its segment is mild, and the connection stays. -/
theorem Live.handled {arriving : Arriving} (live : Live conn before) (done : before.handle conn arriving = some after) :
    (Acknowledges conn before arriving after ↔ Mild conn before arriving) ∧ Live conn after := by
  cases arriving with
  | segment depth packet length srcIp =>
      by_cases incoming : Incoming before packet length srcIp
      · obtain ⟨active, content⟩ := quietPoll_spares.tcpReceive incoming.forActive incoming.established done
        rw [live.isActive] at active content
        refine ⟨taken_acknowledges_iff live.isActive incoming content, active, ?_⟩
        rw [content]
        exact taken_notSent incoming.established
      · have accessed : Accessed before after :=
          tcpReceive_ignored live.settled (fun taken => incoming ⟨taken.1, taken.2⟩) done
        refine ⟨iff_of_true ⟨?_, fun contrary => absurd contrary incoming⟩ fun contrary => absurd contrary incoming,
          live.spares accessed.spares⟩
        rw [accessed.spares.1]
        exact forward_refl _
  | other other =>
      cases done
      have kept : (before.elsewhere other conn).conns conn = _ := elsewhere_conn
      refine ⟨iff_of_true ⟨?_, trivial⟩ trivial, live.isActive, ?_⟩
      · rw [kept]
        exact forward_refl _
      · rw [kept]
        exact live.connected

/-- On an established connection, every segment is acknowledged as it should be exactly when every segment is mild. -/
theorem run_acknowledges_iff {arrivals : List Arriving} (isActive : host.activeConn = conn)
    (established : (host.conns conn).state = .established)
    (run : Restricted (Host.handle conn) (fun _ _ => True) host arrivals after) :
    Observed (Host.handle conn) (Acknowledges conn) host arrivals after ↔
      Restricted (Host.handle conn) (Mild conn) host arrivals after := by
  refine run.observed_iff (Live conn) ?_ ?_ ⟨isActive, ?_⟩
  · intro before arriving after live _ done
    exact (live.handled done).1
  · intro before arriving after live _ done _
    exact (live.handled done).2
  · rw [established]
    exact nofun

/-- Two segments with data in order, and then an empty FIN. -/
theorem run_acknowledges_stream : ∃ after,
    (after.conns 0x300000).ackNum = 5006 ∧
      (Observed (Host.handle 0x300000) (Acknowledges 0x300000) connectedHost
          [.other (connectedHost.withFrame 0x200000 (tcpSegment 5001 1001 0x18 ++ [104, 101, 108, 108])),
            .segment 1 0x200000 24 0x0302000A, .other (connectedHost.withFrame 0x200000 (tcpSegment 5005 1001 0x11)),
            .segment 1 0x200000 20 0x0302000A] after ↔
        Restricted (Host.handle 0x300000) (Mild 0x300000) connectedHost
          [.other (connectedHost.withFrame 0x200000 (tcpSegment 5001 1001 0x18 ++ [104, 101, 108, 108])),
            .segment 1 0x200000 24 0x0302000A, .other (connectedHost.withFrame 0x200000 (tcpSegment 5005 1001 0x11)),
            .segment 1 0x200000 20 0x0302000A] after) := by
  have returns : (performAll (Host.handle 0x300000) (fun _ _ => true) connectedHost
      [.other (connectedHost.withFrame 0x200000 (tcpSegment 5001 1001 0x18 ++ [104, 101, 108, 108])),
        .segment 1 0x200000 24 0x0302000A, .other (connectedHost.withFrame 0x200000 (tcpSegment 5005 1001 0x11)),
        .segment 1 0x200000 20 0x0302000A]).any (fun after => (after.conns 0x300000).ackNum = 5006) = true := by
    decide +kernel
  obtain ⟨after, done, acked⟩ := (Option.any_eq_true _ _).mp returns
  have run := (performAll_restricted done).mono fun _ _ _ performed =>
    (⟨trivial, performed.2⟩ : Guarded (fun _ _ => True) (Stepping (Host.handle 0x300000)) _ _ _)
  exact ⟨after, of_decide_eq_true acked, run_acknowledges_iff rfl rfl run⟩

/-- Of a segment with two bytes and FIN, one number is acknowledged. -/
theorem run_forgets_data : ∃ after,
    Run (Stepping (Host.handle 0x300000)) (connectedHost.withFrame 0x200000 (tcpSegment 5001 1001 0x19 ++ [104, 105]))
        [.segment 1 0x200000 22 0x0302000A] after ∧
      ¬ Observed (Host.handle 0x300000) (Acknowledges 0x300000)
          (connectedHost.withFrame 0x200000 (tcpSegment 5001 1001 0x19 ++ [104, 105]))
          [.segment 1 0x200000 22 0x0302000A] after := by
  have forgets : ((connectedHost.withFrame 0x200000 (tcpSegment 5001 1001 0x19 ++ [104, 105])).handle 0x300000
      (.segment 1 0x200000 22 0x0302000A)).any (fun after => (after.conns 0x300000).ackNum = 5002) = true := by
    decide +kernel
  obtain ⟨after, done, acked⟩ := (Option.any_eq_true _ _).mp forgets
  refine ⟨after, .single done, fun observed => ?_⟩
  cases observed with
  | cons first rest =>
      cases rest
      have whole := first.2.2 ⟨by decide +kernel, by decide +kernel⟩ (by decide +kernel)
      rw [of_decide_eq_true acked] at whole
      exact absurd whole (by decide +kernel)

end AutismOS.Network
