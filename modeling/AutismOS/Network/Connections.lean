import AutismOS.Library.Run
import AutismOS.Network.Evolution

namespace AutismOS.Network

open AutismOS.Library

variable {host after : Host} {poll : Host → Option Host} {other depth : Nat}

/-- The calls of those who own connections, and a poll for the frames that arrive. -/
inductive Call where
  | connect (ip port conn : Nat) (elapsed : List Nat)
  | send (conn : Nat) (data : List UInt8)
  | recv (conn maxLen : Nat)
  | close (conn : Nat)
  | poll

/-- The connection that a call is about, or 0. -/
def Call.conn : Call → Nat
  | .connect _ _ conn _ | .send conn _ | .recv conn _ | .close conn => conn
  | .poll => 0

/-- The drivers, with the connections that were closed by their owners and not opened again. -/
structure Session where
  host : Host
  closed : List Nat

namespace Session

variable {session before next : Session} {call : Call} {calls : List Call}

def perform (depth : Nat) (session : Session) : Call → Option Session
  | .connect ip port conn elapsed =>
      (session.host.tcpConnect (Host.pollReceive depth) ip port conn elapsed).map fun result =>
        { host := result.2, closed := session.closed.filter (· ≠ conn) }
  | .send conn data =>
      (session.host.tcpSend (Host.pollReceive depth) conn data).map fun result => { session with host := result.2 }
  | .recv conn maxLen =>
      (session.host.tcpRecv (Host.pollReceive depth) conn maxLen).map fun result => { session with host := result.2.2 }
  | .close conn =>
      (session.host.tcpClose (Host.pollReceive depth) conn).map fun host =>
        { host, closed := if conn = 0 then session.closed else conn :: session.closed }
  | .poll => (Host.pollReceive depth session.host).map fun host => { session with host }

/-- No closed connection is the active one, and those that were closed are left as they were by all
calls that are not about them. -/
structure Released (before : Session) (call : Call) (next : Session) : Prop where
  apart : next.host.activeConn ∉ next.closed
  untouched : ∀ conn ∈ before.closed, conn ≠ call.conn → next.host.conns conn = before.host.conns conn

/-- The active connection is not closed by its owner after it was closed by its peer. -/
def Timely (session : Session) : Call → Prop
  | .close conn => conn = 0 ∨ (session.host.conns conn).state ≠ .closed ∨ session.host.activeConn ≠ conn
  | _ => True

instance (session : Session) : (call : Call) → Decidable (Timely session call)
  | .close conn =>
      inferInstanceAs
        (Decidable (conn = 0 ∨ (session.host.conns conn).state ≠ .closed ∨ session.host.activeConn ≠ conn))
  | .connect _ _ _ _ | .send _ _ | .recv _ _ | .poll => .isTrue trivial

/-- What `Released` rests on. -/
structure Apart (session : Session) : Prop where
  active : session.host.activeConn ∉ session.closed
  null : 0 ∉ session.closed

end Session

variable {conn : Nat}

theorem setConn_other {content : TcpConnection} (different : other ≠ conn) :
    (host.setConn conn content).conns other = host.conns other :=
  setConn_conns.trans (if_neg different)

theorem awaitConnection_evolved {connected : Bool} {waited : Nat} {elapsed : List Nat} (evolves : Evolves poll)
    (done : Host.awaitConnection poll conn waited elapsed host = some (connected, after)) : Evolved host after := by
  induction elapsed generalizing waited host with
  | nil =>
      rw [Host.awaitConnection] at done
      split at done
      · cases done
        exact .refl
      · cases done
  | cons ticks rest ih =>
      rw [Host.awaitConnection] at done
      split at done
      · cases done
        exact .refl
      · obtain ⟨polled, polls, done⟩ := Option.bind_eq_some_iff.mp done
        refine (evolves _ _ polls).trans ?_
        split at done
        · cases done
          exact .refl
        · have ticked : Evolved polled { polled with timerTicks := (polled.timerTicks + ticks) % 2 ^ 64 } :=
            evolved_of_eq rfl rfl rfl rfl rfl rfl
          exact ticked.trans (ih done)

/-- The connection that is being opened is the active one until the attempt fails. -/
theorem tcpConnect_outcome {result : Int} {ip port : Nat} {elapsed : List Nat} (evolves : Evolves poll)
    (nonNull : conn ≠ 0) (done : host.tcpConnect poll ip port conn elapsed = some (result, after)) :
    (after.activeConn = conn ∨ after.activeConn = 0) ∧
      ∀ other, other ≠ conn → after.conns other = host.conns other := by
  rw [Host.tcpConnect, if_neg nonNull] at done
  obtain ⟨sent, sends, done⟩ := Option.bind_eq_some_iff.mp done
  have asked := evolves.absorbs.tcpSendPacket sends
  obtain ⟨⟨connected, waited⟩, awaits, done⟩ := Option.map_eq_some_iff.mp done
  have active : sent.activeConn = conn := asked.activeConn
  have answered := awaitConnection_evolved evolves awaits
  have still : waited.activeConn = conn := answered.activeConn.trans active
  have others : ∀ other, other ≠ conn → waited.conns other = host.conns other := by
    intro other different
    have kept := answered.others other fun same => different (same.trans active)
    have before := asked.others other different
    rw [kept, setConn_other different, before]
    exact setConn_other different
  cases connected with
  | true =>
      cases done
      exact ⟨Or.inl still, others⟩
  | false =>
      cases done
      exact ⟨Or.inr rfl, fun other different => (setConn_other different).trans (others other different)⟩

theorem tcpSend_outcome {result : Int} {data : List UInt8} (evolves : Evolves poll)
    (done : host.tcpSend poll conn data = some (result, after)) :
    after.activeConn = host.activeConn ∧
      ∀ other, other ≠ conn → other ≠ host.activeConn → after.conns other = host.conns other := by
  rw [Host.tcpSend] at done
  split at done
  · cases done
    exact ⟨rfl, fun _ _ _ => rfl⟩
  · obtain ⟨sent, sends, done⟩ := Option.map_eq_some_iff.mp done
    cases done
    have evolved := evolves.absorbs.tcpSendPacket sends
    exact ⟨evolved.activeConn, fun other different inactive =>
      (setConn_other different).trans (evolved.others other inactive)⟩

theorem tcpRecv_outcome {result : Int} {maxLen : Nat} {bytes : List UInt8} (evolves : Evolves poll)
    (done : host.tcpRecv poll conn maxLen = some (result, bytes, after)) :
    after.activeConn = host.activeConn ∧
      ∀ other, other ≠ conn → other ≠ host.activeConn → after.conns other = host.conns other := by
  simp only [Host.tcpRecv] at done
  split at done
  · cases done
    exact ⟨rfl, fun _ _ _ => rfl⟩
  · obtain ⟨polled, polls, done⟩ := Option.map_eq_some_iff.mp done
    have evolved := evolves _ _ polls
    split at done
    · cases done
      exact ⟨evolved.activeConn, fun other different inactive =>
        (setConn_other different).trans (evolved.others other inactive)⟩
    · cases done
      exact ⟨evolved.activeConn, fun other _ inactive => evolved.others other inactive⟩

/-- A connection that is open is not the active one after it was closed. -/
theorem tcpClose_outcome (evolves : Evolves poll) (done : host.tcpClose poll conn = some after) :
    (after.activeConn = host.activeConn ∨ after.activeConn = 0) ∧
      (conn ≠ 0 → (host.conns conn).state ≠ .closed → after.activeConn ≠ conn) ∧
      ((host.conns conn).state = .closed → after.activeConn = host.activeConn) ∧
      ∀ other, other ≠ conn → other ≠ host.activeConn → after.conns other = host.conns other := by
  rw [Host.tcpClose] at done
  by_cases skipped : conn = 0 ∨ (host.conns conn).state = .closed
  · rw [if_pos skipped] at done
    cases done
    refine ⟨Or.inl rfl, fun nonNull isOpen => ?_, fun _ => rfl, fun _ _ _ => rfl⟩
    rcases skipped with null | isClosed
    · exact absurd null nonNull
    · exact absurd isClosed isOpen
  · rw [if_neg skipped] at done
    obtain ⟨sent, sends, done⟩ := Option.map_eq_some_iff.mp done
    have evolved := evolves.absorbs.tcpSendPacket sends
    have kept : ∀ other, other ≠ conn → other ≠ host.activeConn →
        (sent.setConn conn { sent.conns conn with state := .closed }).conns other = host.conns other :=
      fun other different inactive => (setConn_other different).trans (evolved.others other inactive)
    by_cases active : (sent.setConn conn { sent.conns conn with state := .closed }).activeConn = conn
    · rw [if_pos active] at done
      cases done
      exact ⟨Or.inr rfl, fun nonNull _ same => nonNull same.symm, fun isClosed => absurd (Or.inr isClosed) skipped, kept⟩
    · rw [if_neg active] at done
      cases done
      exact ⟨Or.inl evolved.activeConn, fun _ _ => active, fun isClosed => absurd (Or.inr isClosed) skipped, kept⟩

namespace Session

variable {before next : Session} {call : Call} {calls : List Call}

/-- Where the active connection stays or is given up, nothing closed becomes active. -/
theorem Apart.kept (apart : Apart before) (nonNull : 0 ∉ next.closed) (fewer : next.closed ⊆ before.closed)
    (active : next.host.activeConn = before.host.activeConn ∨ next.host.activeConn = 0) : Apart next := by
  refine ⟨fun member => ?_, nonNull⟩
  rcases active with same | none
  · rw [same] at member
    exact apart.active (fewer member)
  · rw [none] at member
    exact nonNull member

/-- A closed connection is not the active one, so that calls about others leave it alone. -/
theorem Apart.untouched (apart : Apart before)
    (others : ∀ other, other ≠ call.conn → other ≠ before.host.activeConn →
      next.host.conns other = before.host.conns other) :
    ∀ conn ∈ before.closed, conn ≠ call.conn → next.host.conns conn = before.host.conns conn := by
  intro conn member different
  refine others conn different fun isActive => ?_
  rw [isActive] at member
  exact apart.active member

theorem Apart.connect {ip port conn : Nat} {elapsed : List Nat} (apart : Apart before)
    (done : perform depth before (.connect ip port conn elapsed) = some next) :
    Released before (.connect ip port conn elapsed) next ∧ Apart next := by
  obtain ⟨⟨result, host⟩, connects, rfl⟩ := Option.map_eq_some_iff.mp done
  have fewer : before.closed.filter (· ≠ conn) ⊆ before.closed := fun _ member => (List.mem_filter.mp member).1
  have nonNull : 0 ∉ before.closed.filter (· ≠ conn) := fun member => apart.null (fewer member)
  by_cases null : conn = 0
  · rw [null, Host.tcpConnect, if_pos rfl] at connects
    cases connects
    have kept : Apart { host := before.host, closed := before.closed.filter (· ≠ conn) } :=
      apart.kept nonNull fewer (Or.inl rfl)
    exact ⟨⟨kept.active, fun _ _ _ => rfl⟩, kept⟩
  · obtain ⟨active, others⟩ := tcpConnect_outcome pollReceive_evolves null connects
    have kept : Apart { host, closed := before.closed.filter (· ≠ conn) } := by
      refine ⟨fun member => ?_, nonNull⟩
      rcases active with isActive | none
      · simp only [isActive, List.mem_filter, ne_eq, not_true_eq_false, decide_false, Bool.false_eq_true, and_false] at member
      · rw [none] at member
        exact nonNull member
    exact ⟨⟨kept.active, fun other _ different => others other different⟩, kept⟩

/-- Calls that keep the active connection and the record. -/
theorem Apart.steady {host : Host} (apart : Apart before) (active : host.activeConn = before.host.activeConn)
    (others : ∀ other, other ≠ call.conn → other ≠ before.host.activeConn → host.conns other = before.host.conns other) :
    Released before call { before with host } ∧ Apart { before with host } := by
  have kept : Apart { before with host } := apart.kept apart.null (fun _ member => member) (Or.inl active)
  exact ⟨⟨kept.active, apart.untouched others⟩, kept⟩

/-- The record gets a connection that is not the active one exactly where it was still open, or not
active before. -/
theorem Apart.close {conn : Nat} (apart : Apart before) (done : perform depth before (.close conn) = some next) :
    (Released before (.close conn) next ↔ Timely before (.close conn)) ∧ (Timely before (.close conn) → Apart next) := by
  obtain ⟨host, closes, rfl⟩ := Option.map_eq_some_iff.mp done
  obtain ⟨active, isOpen, isClosed, others⟩ := tcpClose_outcome pollReceive_evolves closes
  by_cases null : conn = 0
  · rw [if_pos null]
    have kept : Apart { before with host } := apart.kept apart.null (fun _ member => member) active
    exact ⟨iff_of_true ⟨kept.active, apart.untouched others⟩ (Or.inl null), fun _ => kept⟩
  rw [if_neg null]
  have nonNull : 0 ∉ conn :: before.closed := by
    rw [List.mem_cons, not_or]
    exact ⟨fun same => null same.symm, apart.null⟩
  have notOld : host.activeConn ∉ before.closed := by
    intro member
    rcases active with same | none
    · rw [same] at member
      exact apart.active member
    · rw [none] at member
      exact apart.null member
  have different : host.activeConn ≠ conn ↔ Timely before (.close conn) := by
    constructor
    · intro different
      by_cases gone : (before.host.conns conn).state = .closed
      · rw [isClosed gone] at different
        exact Or.inr (Or.inr different)
      · exact Or.inr (Or.inl gone)
    · intro timely
      rcases timely with isNull | still | inactive
      · exact absurd isNull null
      · exact isOpen null still
      · rcases active with same | none
        · rw [same]
          exact inactive
        · rw [none]
          exact fun same => null same.symm
  have apartIff : host.activeConn ∉ conn :: before.closed ↔ Timely before (.close conn) := by
    rw [List.mem_cons, not_or, ← different]
    exact ⟨fun both => both.1, fun apart => ⟨apart, notOld⟩⟩
  refine ⟨⟨fun released => apartIff.mp released.apart, fun timely => ?_⟩, fun timely => ?_⟩
  · exact ⟨apartIff.mpr timely, apart.untouched others⟩
  · exact ⟨apartIff.mpr timely, nonNull⟩

theorem Apart.step (apart : Apart before) (done : perform depth before call = some next) :
    (Released before call next ↔ Timely before call) ∧ (Timely before call → Apart next) := by
  have always : Timely before call → Released before call next ∧ Apart next →
      (Released before call next ↔ Timely before call) ∧ (Timely before call → Apart next) :=
    fun timely both => ⟨iff_of_true both.1 timely, fun _ => both.2⟩
  cases call with
  | connect ip port conn elapsed => exact always trivial (apart.connect done)
  | close conn => exact apart.close done
  | send conn data =>
      obtain ⟨⟨result, host⟩, sends, rfl⟩ := Option.map_eq_some_iff.mp done
      obtain ⟨active, others⟩ := tcpSend_outcome pollReceive_evolves sends
      exact always trivial (apart.steady active others)
  | recv conn maxLen =>
      obtain ⟨⟨result, bytes, host⟩, receives, rfl⟩ := Option.map_eq_some_iff.mp done
      obtain ⟨active, others⟩ := tcpRecv_outcome pollReceive_evolves receives
      exact always trivial (apart.steady active others)
  | poll =>
      obtain ⟨host, polls, rfl⟩ := Option.map_eq_some_iff.mp done
      have evolved := pollReceive_evolves _ _ polls
      exact always trivial (apart.steady evolved.activeConn fun other _ inactive => evolved.others other inactive)

/-- In an execution from the start of TCP, no connection that its owner closed is active, or gets
changed by calls about others, exactly when none is closed that is active and that its peer closed
before. -/
theorem run_released_iff (run : Run (Stepping (perform depth)) { host := host.tcpInit, closed := [] } calls next) :
    Observed (perform depth) Released { host := host.tcpInit, closed := [] } calls next ↔
      Restricted (perform depth) Timely { host := host.tcpInit, closed := [] } calls next := by
  have free : Restricted (perform depth) (fun _ _ => True) { host := host.tcpInit, closed := [] } calls next :=
    run.mono fun _ _ _ performed => ⟨trivial, performed⟩
  refine free.observed_iff Apart (fun before call next apart _ done => ?_) (fun before call next apart _ done timely => ?_)
    ⟨List.not_mem_nil, List.not_mem_nil⟩
  · exact (apart.step done).1
  · exact (apart.step done).2 timely

/-- A peer that accepts a connection and ends its stream. -/
def peerSession : Session :=
  { host := Host.tcpInit
      { connectedHost with
        receiver :=
          { connectedHost.receiver with
            schedule :=
              [[ipFrame 40 6 0x0302000A 0x0F02000A (tcpSegment 5000 1001 0x12)],
                [ipFrame 40 6 0x0302000A 0x0F02000A (tcpSegment 5001 1001 0x11)]] } }
    closed := [] }

/-- The connection is closed before the peer closes it. -/
def timelyCalls : List Call := [.connect 0x0302000A 80 0x300000 [1], .close 0x300000, .poll]

/-- The connection is closed after the peer closed it. -/
def lateCalls : List Call := [.connect 0x0302000A 80 0x300000 [1], .poll, .close 0x300000]

theorem run_released_timely : ∃ next, Observed (perform 1) Released peerSession timelyCalls next := by
  have returns : (performAll (perform 1) (fun session call => decide (Timely session call)) peerSession
      timelyCalls).isSome = true := by decide +kernel
  obtain ⟨next, done⟩ := Option.isSome_iff_exists.mp returns
  have timely := (performAll_restricted done).mono fun _ _ _ performed =>
    (⟨of_decide_eq_true performed.1, performed.2⟩ : Guarded Timely (Stepping (perform 1)) _ _ _)
  exact ⟨next, (run_released_iff (timely.mono fun _ _ _ performed => performed.2)).mpr timely⟩

/-- The pointer to the connection stays behind. -/
theorem run_dangles :
    ∃ next, Run (Stepping (perform 1)) peerSession lateCalls next ∧ next.host.activeConn ∈ next.closed ∧
      ¬ Observed (perform 1) Released peerSession lateCalls next := by
  have dangles : (performAll (perform 1) (fun _ _ => true) peerSession lateCalls).any
      (fun next => next.host.activeConn ∈ next.closed) = true := by decide +kernel
  obtain ⟨next, done, member⟩ := (Option.any_eq_true _ _).mp dangles
  have run := (performAll_restricted done).mono fun _ _ _ performed => performed.2
  have active := of_decide_eq_true member
  refine ⟨next, run, active, fun observed => ?_⟩
  have apart := observed.invariant (fun session => session.host.activeConn ∉ session.closed)
    (fun _ _ _ _ performed => performed.2.apart) List.not_mem_nil
  exact apart active

end Session

end AutismOS.Network
