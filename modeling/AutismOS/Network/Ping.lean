import AutismOS.Library.Strings
import AutismOS.Network.Stack
import AutismOS.Network.Delivery
import AutismOS.Network.Quiet

namespace AutismOS.Network

open AutismOS.Library

variable {host before middle after : Host} {poll : Host → Option Host}
variable {dstIp id seq depth packet length srcIp conn frame frameLen : Nat} {segment : Host.Segment}

/-- `ping_response_t`; the success is 0 or 1. -/
structure PingResponse where
  success : Bool
  ipAddress : List UInt8
  message : String

/-- The packet of 64 bytes that asks for an echo. -/
def echoRequest (id seq checksum : Nat) : List UInt8 :=
  [UInt8.ofNat icmpTypeEchoRequest, 0] ++ bytes16 checksum ++ bytes16 (swap16 id) ++ bytes16 (swap16 seq) ++
    (List.range' icmpHeaderSize 56).map UInt8.ofNat

def pingIcmpOk : String := "ICMP Ping OK - Host reachable"

def httpRequest : List UInt8 := "GET / HTTP/1.0\r\nHost: test\r\n\r\n".toList.map fun char => UInt8.ofNat char.toNat

namespace Host

variable (host : Host)

def icmpSendEchoRequest (poll : Host → Option Host) (dstIp id seq : Nat) : Option Host :=
  let packet := echoRequest id seq (ipChecksum (echoRequest id seq 0))
  { host with echoState := { received := false, srcIp := 0 } }.ipSend poll dstIp ipProtoIcmp packet

/-- The rounds of `icmp_wait_reply`: `elapsed` says how many ticks each one takes.  The source of the reply is
returned, or nothing when the time is over. -/
def awaitEcho (poll : Host → Option Host) (startTicks timeoutTicks : Nat) : List Nat → Host → Option (Option Nat × Host)
  | elapsed, host =>
      if timeoutTicks ≤ (host.timerTicks + 2 ^ 64 - startTicks) % 2 ^ 64 then some (none, host)
      else
        match elapsed with
        | [] => none
        | ticks :: rest =>
            (poll host).bind fun host =>
              if host.echoState.received then some (some host.echoState.srcIp, host)
              else
                awaitEcho poll startTicks timeoutTicks rest
                  { host with timerTicks := (host.timerTicks + ticks) % 2 ^ 64 }

/-- Returns 0 with the source, or -1. -/
def icmpWaitReply (poll : Host → Option Host) (timeoutMs : Nat) (elapsed : List Nat) : Option (Option Nat × Host) :=
  let timeoutTicks := if timeoutMs / 10 < 10 then 10 else timeoutMs / 10
  awaitEcho poll host.timerTicks timeoutTicks elapsed host

/-- A request, and the wait for its reply. -/
def echo (poll : Host → Option Host) (dstIp id seq timeoutMs : Nat) (elapsed : List Nat) : Option (Option Nat × Host) :=
  (host.icmpSendEchoRequest poll dstIp id seq).bind fun host => host.icmpWaitReply poll timeoutMs elapsed

/-- `while ((g_timer_ticks - start) < 300)`; tells whether there was data. -/
def awaitData (poll : Host → Option Host) (conn start : Nat) : List Nat → Host → Option (Bool × Host)
  | elapsed, host =>
      if 300 ≤ (host.timerTicks + 2 ^ 64 - start) % 2 ^ 64 then some (false, host)
      else
        match elapsed with
        | [] => none
        | ticks :: rest =>
            (host.tcpRecv poll conn 511).bind fun (received, _, host) =>
              if 0 < received then some (true, host)
              else awaitData poll conn start rest { host with timerTicks := (host.timerTicks + ticks) % 2 ^ 64 }

/-- The connection is a local variable, at `conn`.  Returns 1 when there was an answer, 0 when there was only a
connection, and -1 when there was none. -/
def tcpTestConnection (poll : Host → Option Host) (ip conn : Nat) (connecting receiving : List Nat) :
    Option (Int × Host) :=
  (host.tcpConnect poll ip 80 conn connecting).bind fun (result, host) =>
    if result = 0 then
      (host.tcpSend poll conn httpRequest).bind fun (_, host) =>
        (awaitData poll conn host.timerTicks receiving host).bind fun (answered, host) =>
          (host.tcpClose poll conn).map fun host => (if answered then 1 else 0, host)
    else some (-1, host)

/-- How long the rounds of the waits take, and where the connection lies. -/
structure PingSetup where
  elapsed : List Nat
  conn : Nat
  connecting : List Nat
  receiving : List Nat

/-- Returns 0, or -1, and what is put into the response; neither of the pointers is NULL. -/
def pingIp (poll : Host → Option Host) (ipAddress : List UInt8) (setup : PingSetup) :
    Option (Int × PingResponse × Host) :=
  if !isValidIp ipAddress then
    some (-1, { success := false, ipAddress := List.replicate 17 0, message := "Invalid IP address format" }, host)
  else
    let response (success : Bool) (message : String) : PingResponse :=
      { success, ipAddress := strncpy ipAddress 16 ++ [0], message }
    let dstIp := parseIpString ipAddress
    (host.echo poll dstIp 1 1 1000 setup.elapsed).bind fun (reply, host) =>
      if reply.isSome then some (0, response true pingIcmpOk, host)
      else
        (host.tcpTestConnection poll dstIp setup.conn setup.connecting setup.receiving).map fun (tcpResult, host) =>
          if tcpResult = 1 then (0, response true "TCP Connect OK - Got HTTP response", host)
          else if tcpResult = 0 then (0, response true "TCP Connect OK - No HTTP data", host)
          else (-1, response false "Connection failed - Host unreachable", host)

end Host

/-- The bytes of a frame are an echo reply from a host, with its numbers. -/
def EchoReply (srcIp id seq : Nat) (frame : List UInt8) : Prop :=
  (frame.drop 12).take 2 = bytes16 (swap16 ethTypeIp) ∧ (frame.drop 23).take 1 = [UInt8.ofNat ipProtoIcmp] ∧
    (frame.drop 26).take 4 = bytes32 srcIp ∧ (frame.drop 34).take 1 = [UInt8.ofNat icmpTypeEchoReply] ∧
      (frame.drop 38).take 2 = bytes16 (swap16 id) ∧ (frame.drop 40).take 2 = bytes16 (swap16 seq)

instance (frame : List UInt8) : Decidable (EchoReply srcIp id seq frame) := inferInstanceAs (Decidable (_ ∧ _))

/-- Since then, the frames that the card has written were passed on in order, and one of them is the reply. -/
structure Answered (srcIp id seq : Nat) (before after : Host) : Prop where
  inOrder : after.receiver.delivered <+: after.receiver.written
  reply : ∃ frame ∈ after.receiver.delivered.drop before.receiver.delivered.length, EchoReply srcIp id seq frame

/-- A frame is taken for an echo reply. -/
structure TakesReply (host : Host) (frame frameLen : Nat) : Prop where
  addressed : Addressed host frame frameLen
  protocol : (host.memory.loadByte (frame + 23)).toNat = ipProtoIcmp
  long : icmpHeaderSize ≤ host.payloadLen (frame + 14)
  type : (host.memory.loadByte (frame + 34)).toNat = icmpTypeEchoReply

instance : Decidable (TakesReply host frame frameLen) :=
  decidable_of_iff
    (Addressed host frame frameLen ∧ (host.memory.loadByte (frame + 23)).toNat = ipProtoIcmp ∧
      icmpHeaderSize ≤ host.payloadLen (frame + 14) ∧ (host.memory.loadByte (frame + 34)).toNat = icmpTypeEchoReply)
    ⟨fun all => ⟨all.1, all.2.1, all.2.2.1, all.2.2.2⟩,
      fun takes => ⟨takes.addressed, takes.protocol, takes.long, takes.type⟩⟩

namespace Host

/-- If an echo reply is read next, it is the one that is waited for; and no answer needs a wait. -/
def Faithful (dstIp id seq : Nat) (host : Host) : Prop :=
  host.prompt = true ∧
    (Reads host → TakesReply host host.pkt (host.rxLen - 4) →
      EchoReply dstIp id seq (host.memory.loadBytes host.pkt (host.rxLen - 4)))

instance (host : Host) : Decidable (host.Faithful dstIp id seq) := inferInstanceAs (Decidable (_ ∧ (_ → _ → _)))

/-- `pollReceive`, as long as what is read is faithful. -/
def faithfulPoll (dstIp id seq : Nat) : Nat → Host → Option Host
  | 0, _ => none
  | depth + 1, host =>
      if host.arrive.Faithful dstIp id seq then
        host.pollWith fun frame frameLen host => host.receive (faithfulPoll dstIp id seq depth) frame frameLen
      else none

/-- All polls of a request and of the wait for its reply are faithful. -/
def EchoFaithful (depth dstIp id seq timeoutMs : Nat) (elapsed : List Nat) (host : Host) : Prop :=
  (host.echo (faithfulPoll dstIp id seq depth) dstIp id seq timeoutMs elapsed).isSome = true

instance {timeoutMs : Nat} {elapsed : List Nat} : Decidable (EchoFaithful depth dstIp id seq timeoutMs elapsed host) :=
  inferInstanceAs (Decidable (_ = true))

end Host

/-- When a faithful poll returns, what it read is faithful. -/
theorem faithfulPoll_succ (done : Host.faithfulPoll dstIp id seq (depth + 1) host = some after) :
    host.arrive.Faithful dstIp id seq ∧
      (host.pollWith fun frame frameLen host => host.receive (Host.faithfulPoll dstIp id seq depth) frame frameLen) =
        some after := by
  rw [Host.faithfulPoll] at done
  by_cases faithful : host.arrive.Faithful dstIp id seq
  · rw [if_pos faithful] at done
    exact ⟨faithful, done⟩
  · rw [if_neg faithful] at done
    cases done

/-- A faithful poll is a poll. -/
theorem faithfulPoll_finer : Finer (Host.faithfulPoll dstIp id seq depth) (Host.pollReceive depth) := by
  induction depth with
  | zero => exact nofun
  | succ depth ih =>
      intro host after done
      rw [Host.pollReceive]
      exact ih.pollWith (faithfulPoll_succ done).2

namespace Finer

variable {other : Host → Option Host} (finer : Finer poll other)

include finer

theorem awaitEcho {startTicks timeoutTicks : Nat} {elapsed : List Nat} {result : Option Nat × Host}
    (done : Host.awaitEcho poll startTicks timeoutTicks elapsed host = some result) :
    Host.awaitEcho other startTicks timeoutTicks elapsed host = some result := by
  induction elapsed generalizing host with
  | nil => exact done
  | cons ticks rest ih =>
      rw [Host.awaitEcho] at done ⊢
      by_cases late : timeoutTicks ≤ (host.timerTicks + 2 ^ 64 - startTicks) % 2 ^ 64
      · rw [if_pos late] at done ⊢
        exact done
      · rw [if_neg late] at done ⊢
        obtain ⟨polled, polls, done⟩ := Option.bind_eq_some_iff.mp done
        refine Option.bind_eq_some_iff.mpr ⟨polled, finer _ _ polls, ?_⟩
        by_cases received : polled.echoState.received = true
        · rw [if_pos received] at done ⊢
          exact done
        · rw [if_neg received] at done ⊢
          exact ih done

theorem echo {timeoutMs : Nat} {elapsed : List Nat} {result : Option Nat × Host}
    (done : host.echo poll dstIp id seq timeoutMs elapsed = some result) :
    host.echo other dstIp id seq timeoutMs elapsed = some result := by
  obtain ⟨sent, sends, waits⟩ := Option.bind_eq_some_iff.mp done
  exact Option.bind_eq_some_iff.mpr ⟨sent, finer.ipSend sends, finer.awaitEcho waits⟩

end Finer

/-- More frames were passed on; an echo reply was noted only for one of them, or for the given reason. -/
def Heard (srcIp id seq : Nat) (reason : Prop) (before after : Host) : Prop :=
  ∃ frames, after.receiver.delivered = before.receiver.delivered ++ frames ∧
    (after.echoState.received = true →
      before.echoState.received = true ∨ reason ∨ ∃ frame ∈ frames, EchoReply srcIp id seq frame)

variable {reason : Prop}

theorem heard_of_eq (received : after.echoState.received = true → before.echoState.received = true ∨ reason)
    (delivered : after.receiver.delivered = before.receiver.delivered) : Heard srcIp id seq reason before after := by
  refine ⟨[], ?_, fun noted => (received noted).imp_right Or.inl⟩
  rw [delivered, List.append_nil]

theorem Heard.trans (first : Heard srcIp id seq reason before middle) (second : Heard srcIp id seq reason middle after) :
    Heard srcIp id seq reason before after := by
  obtain ⟨front, delivered, noted⟩ := first
  obtain ⟨back, further, later⟩ := second
  refine ⟨front ++ back, ?_, fun received => ?_⟩
  · rw [further, delivered, List.append_assoc]
  · rcases later received with old | cause | ⟨frame, member, reply⟩
    · rcases noted old with older | cause | ⟨frame, member, reply⟩
      · exact Or.inl older
      · exact Or.inr (Or.inl cause)
      · exact Or.inr (Or.inr ⟨frame, List.mem_append_left _ member, reply⟩)
    · exact Or.inr (Or.inl cause)
    · exact Or.inr (Or.inr ⟨frame, List.mem_append_right _ member, reply⟩)

theorem Heard.weaken (heard : Heard srcIp id seq False before after) : Heard srcIp id seq reason before after := by
  obtain ⟨frames, delivered, noted⟩ := heard
  exact ⟨frames, delivered, fun received => (noted received).imp_right fun rest => rest.elim False.elim Or.inr⟩

theorem Transmits.heard (transmits : Transmits before after) : Heard srcIp id seq reason before after := by
  rw [transmits]
  exact heard_of_eq Or.inl rfl

theorem Accessed.heard (accessed : Accessed before after) : Heard srcIp id seq reason before after := by
  rw [accessed]
  exact heard_of_eq Or.inl rfl

theorem setConn_heard {content : TcpConnection} : Heard srcIp id seq reason host (host.setConn conn content) :=
  heard_of_eq Or.inl rfl

/-- All frames that a poll passes on are heard. -/
def HearsAll (srcIp id seq : Nat) (poll : Host → Option Host) : Prop :=
  ∀ before after, poll before = some after → Heard srcIp id seq False before after

theorem HearsAll.absorbs (hears : HearsAll dstIp id seq poll) : Absorbs poll (Heard dstIp id seq reason) :=
  ⟨Heard.trans, fun polls => (hears _ _ polls).weaken, Transmits.heard⟩

theorem Resolves.heard (resolves : Resolves before after) : Heard srcIp id seq reason before after := by
  rw [resolves]
  exact heard_of_eq Or.inl rfl

theorem icmpReceive_heard (hears : HearsAll dstIp id seq poll)
    (takes : icmpHeaderSize ≤ length → (host.memory.loadByte packet).toNat = icmpTypeEchoReply → reason)
    (done : host.icmpReceive poll packet length srcIp = some after) : Heard dstIp id seq reason host after := by
  simp only [Host.icmpReceive, touch_memory] at done
  have accessed : Heard dstIp id seq reason host (host.touch packet 1) := touch_accessed.heard
  by_cases short : length < icmpHeaderSize
  · rw [if_pos short] at done
    cases done
    exact heard_of_eq Or.inl rfl
  rw [if_neg short] at done
  split at done
  · have parsed : Accessed (host.touch packet 1)
        ((((host.touch packet 1).touch packet 1).touch (packet + 2) 2).touch packet length) :=
      (touch_accessed.trans touch_accessed).trans touch_accessed
    have read : Heard dstIp id seq reason (host.touch packet 1) _ := parsed.heard
    have answered : Heard dstIp id seq reason (host.touch packet 1) ((host.touch packet 1).icmpAnswer packet length) :=
      read.trans (heard_of_eq Or.inl rfl)
    exact (accessed.trans answered).trans (hears.absorbs.ipSend done)
  · split at done
    · next isReply =>
        cases done
        exact accessed.trans (heard_of_eq (fun _ => Or.inr (takes (Nat.not_lt.mp short) isReply)) rfl)
    · cases done
      exact accessed

/-- An echo reply is noted only for a frame that is taken for one. -/
theorem receive_heard (hears : HearsAll dstIp id seq poll) (done : host.receive poll frame frameLen = some after) :
    Heard dstIp id seq (TakesReply host frame frameLen) host after := by
  cases receive_dispatched done with
  | ignored _ accessed => exact accessed.heard
  | arp parsed accessed => exact accessed.heard.trans arpReceive_resolves.heard
  | icmp parsed _ accessed addressed protocol handles =>
      have memory : parsed.memory = host.memory := by rw [accessed]
      refine accessed.heard.trans (icmpReceive_heard hears (fun long type => ?_) handles)
      rw [memory] at type
      exact ⟨addressed, protocol, long, type⟩
  | tcp parsed _ accessed addressed protocol handles =>
      exact accessed.heard.trans (hears.absorbs.tcpReceive (fun _ _ => Accessed.heard) (fun _ _ _ => setConn_heard) handles)

theorem Arrived.heard (arrived : Arrived before after) : Heard srcIp id seq reason before after := by
  rw [arrived]
  exact heard_of_eq Or.inl rfl

theorem takesReply_called : TakesReply host.called frame frameLen → TakesReply host frame frameLen :=
  fun takes => ⟨⟨takes.addressed.long, takes.addressed.type, takes.addressed.dstIp⟩, takes.protocol, takes.long, takes.type⟩

/-- Faithful polls note no other reply. -/
theorem faithfulPoll_hears : HearsAll dstIp id seq (Host.faithfulPoll dstIp id seq depth) := by
  induction depth with
  | zero => exact nofun
  | succ depth ih =>
      intro host after done
      obtain ⟨faithful, polled⟩ := faithfulPoll_succ done
      have arrived : Heard dstIp id seq False host host.arrive := arrive_arrived.heard
      apply arrived.trans
      by_cases reads : Reads host.arrive
      · rw [pollWith_reads reads] at polled
        obtain ⟨handled, handles, rfl⟩ := Option.map_eq_some_iff.mp polled
        obtain ⟨frames, delivered, noted⟩ := receive_heard ih handles
        refine ⟨host.arrive.memory.loadBytes host.arrive.pkt (host.arrive.rxLen - 4) :: frames, ?_, fun received => ?_⟩
        · have after : ((host.arrive.resumed handled).advance host.arrive.rxLen).receiver.delivered =
              handled.receiver.delivered := rfl
          rw [after, delivered, Host.called, List.append_assoc]
          rfl
        · rcases noted received with old | takes | ⟨frame, member, reply⟩
          · exact Or.inl old
          · exact Or.inr (Or.inr ⟨_, List.mem_cons_self, faithful.2 reads (takesReply_called takes)⟩)
          · exact Or.inr (Or.inr ⟨frame, List.mem_cons_of_mem _ member, reply⟩)
      · rcases pollWith_lacks reads polled with rfl | ⟨rxOffset, rfl⟩
        · exact heard_of_eq Or.inl rfl
        · exact heard_of_eq Or.inl rfl

/-- Without a card nothing is noted; with one, what is read is what the card has written, and it is heard. -/
structure Attends (dstIp id seq : Nat) (before after : Host) : Prop where
  absent : before.ioBase = 0 → after.ioBase = 0 ∧ after.echoState = before.echoState
  queued : (∃ unread, Queued before unread) → ∃ unread, Queued after unread
  heard : Heard dstIp id seq False before after

theorem Attends.trans (first : Attends dstIp id seq before middle) (second : Attends dstIp id seq middle after) :
    Attends dstIp id seq before after := by
  refine ⟨fun none => ?_, fun queued => second.queued (first.queued queued), first.heard.trans second.heard⟩
  obtain ⟨still, same⟩ := first.absent none
  obtain ⟨stays, kept⟩ := second.absent still
  exact ⟨stays, kept.trans same⟩

theorem attends_of_eq (receiver : after.receiver = before.receiver) (memory : after.memory = before.memory)
    (ioBase : after.ioBase = before.ioBase) (rxBuffer : after.rxBuffer = before.rxBuffer)
    (echoState : after.echoState = before.echoState) : Attends dstIp id seq before after := by
  refine ⟨fun none => ⟨ioBase.trans none, echoState⟩, ?_, ?_⟩
  · rintro ⟨unread, queued⟩
    have same : before.besides after = after := by
      rw [Host.besides, ← receiver, ← memory, ← ioBase, ← rxBuffer]
    exact ⟨unread, same ▸ queued.besides⟩
  · exact heard_of_eq (fun received => Or.inl (echoState ▸ received)) (congrArg Receiver.delivered receiver)

theorem Transmits.attends (transmits : Transmits before after) : Attends dstIp id seq before after := by
  rw [transmits]
  exact attends_of_eq rfl rfl rfl rfl rfl

theorem faithfulPoll_faithful (done : Host.faithfulPoll dstIp id seq depth host = some after) :
    host.arrive.Faithful dstIp id seq := by
  cases depth with
  | zero => cases done
  | succ depth => exact (faithfulPoll_succ done).1

theorem pollReceive_absent (none : host.ioBase = 0) (done : Host.pollReceive depth host = some after) :
    after = host.arrive := by
  cases depth with
  | zero => cases done
  | succ depth =>
      have still : host.arrive.ioBase = 0 := by
        rw [arrive_arrived]
        exact none
      rw [Host.pollReceive, pollWith_eq, if_pos (Or.inl still)] at done
      exact (Option.some.inj done).symm

theorem faithfulPoll_attends (done : Host.faithfulPoll dstIp id seq depth before = some after) :
    Attends dstIp id seq before after := by
  have polls := faithfulPoll_finer _ _ done
  refine ⟨fun none => ?_, ?_, faithfulPoll_hears _ _ done⟩
  · rw [pollReceive_absent none polls, arrive_arrived]
    exact ⟨none, rfl⟩
  · rintro ⟨unread, queued⟩
    exact (queued.poll_inOrder (faithfulPoll_faithful done).1 polls).2

theorem faithfulPoll_absorbs : Absorbs (Host.faithfulPoll dstIp id seq depth) (Attends dstIp id seq) :=
  ⟨Attends.trans, faithfulPoll_attends, Transmits.attends⟩

theorem awaitEcho_attends {startTicks timeoutTicks replyIp : Nat} {elapsed : List Nat} (absorbs : Absorbs poll (Attends dstIp id seq))
    (done : Host.awaitEcho poll startTicks timeoutTicks elapsed host = some (some replyIp, after)) :
    Attends dstIp id seq host after ∧ after.echoState.received = true := by
  induction elapsed generalizing host with
  | nil =>
      rw [Host.awaitEcho] at done
      split at done
      · cases done
      · cases done
  | cons ticks rest ih =>
      rw [Host.awaitEcho] at done
      split at done
      · cases done
      · obtain ⟨polled, polls, done⟩ := Option.bind_eq_some_iff.mp done
        by_cases received : polled.echoState.received = true
        · rw [if_pos received] at done
          cases done
          exact ⟨absorbs.polls polls, received⟩
        · rw [if_neg received] at done
          obtain ⟨later, noted⟩ := ih done
          have waits : Attends dstIp id seq polled
              { polled with timerTicks := (polled.timerTicks + ticks) % 2 ^ 64 } := attends_of_eq rfl rfl rfl rfl rfl
          exact ⟨absorbs.trans (absorbs.polls polls) (absorbs.trans waits later), noted⟩

/-- What is known when a reply was noted. -/
theorem echo_attends {timeoutMs replyIp : Nat} {elapsed : List Nat} (absorbs : Absorbs poll (Attends dstIp id seq))
    (done : host.echo poll dstIp id seq timeoutMs elapsed = some (some replyIp, after)) :
    Attends dstIp id seq { host with echoState := { received := false, srcIp := 0 } } after ∧
      after.echoState.received = true := by
  obtain ⟨sent, sends, waits⟩ := Option.bind_eq_some_iff.mp done
  have asked := absorbs.ipSend sends
  obtain ⟨waited, noted⟩ := awaitEcho_attends absorbs waits
  exact ⟨asked.trans waited, noted⟩

/-- There is no card, or what lies in the ring is what the card has written and was not passed on. -/
def Ready (host : Host) : Prop := host.ioBase = 0 ∨ ∃ unread, Queued host unread

/-- When all that is read is faithful, only the reply ends the wait. -/
theorem Ready.answered {timeoutMs replyIp : Nat} {elapsed : List Nat} (ready : Ready host)
    (faithful : Host.EchoFaithful depth dstIp id seq timeoutMs elapsed host)
    (done : host.echo (Host.pollReceive depth) dstIp id seq timeoutMs elapsed = some (some replyIp, after)) :
    Answered dstIp id seq host after := by
  obtain ⟨result, meets⟩ := Option.isSome_iff_exists.mp faithful
  have same := (faithfulPoll_finer.echo meets).symm.trans done
  cases same
  obtain ⟨attends, noted⟩ := echo_attends faithfulPoll_absorbs meets
  rcases ready with none | ⟨unread, queued⟩
  · obtain ⟨_, unheard⟩ := attends.absent none
    rw [unheard] at noted
    cases noted
  · have reset : Queued (host.besides { host with echoState := { received := false, srcIp := 0 } }) unread := queued.besides
    obtain ⟨left, queue⟩ := attends.queued ⟨unread, reset⟩
    obtain ⟨frames, delivered, heard⟩ := attends.heard
    have since : after.receiver.delivered.drop host.receiver.delivered.length = frames := by
      rw [delivered]
      exact List.drop_left
    refine ⟨?_, ?_⟩
    · rw [queue.order]
      exact List.prefix_append _ _
    · rw [since]
      exact ((heard noted).resolve_left Bool.false_ne_true).resolve_left not_false

theorem Ready.turn {turn : Turn} (ready : Ready before) (prompt : Prompt before turn)
    (done : before.turn turn = some after) : Ready after := by
  rcases ready with none | ⟨unread, queued⟩
  · cases turn with
    | other other =>
        cases done
        exact Or.inl none
    | poll depth =>
        rw [Host.turn] at done
        rw [pollReceive_absent none done, arrive_arrived]
        exact Or.inl none
  · exact Or.inr ((queued.turn done).2 prompt)

theorem run_ready {setup : Host.CardSetup} {turns : List Turn} (works : setup.ioBase = 0 ∨ setup.Works)
    (run : Restricted Host.turn Prompt (before.rtl8139Init setup) turns after) : Ready after := by
  refine run.invariant Ready (fun _ _ _ ready performed => ready.turn performed.1 performed.2) ?_
  rcases works with none | works
  · rw [Host.rtl8139Init, if_pos none]
    exact Or.inl rfl
  · exact Or.inr ⟨[], rtl8139Init_queued works⟩

theorem pingIp_success {ipAddress : List UInt8} {setup : Host.PingSetup} {result : Int} {response : PingResponse}
    (done : host.pingIp poll ipAddress setup = some (result, response, after)) (success : response.success = true) :
    (∃ replyIp, host.echo poll (parseIpString ipAddress) 1 1 1000 setup.elapsed = some (some replyIp, after)) ∨
      ∃ failed connected, host.echo poll (parseIpString ipAddress) 1 1 1000 setup.elapsed = some (none, failed) ∧
        0 ≤ connected ∧ failed.tcpTestConnection poll (parseIpString ipAddress) setup.conn setup.connecting
          setup.receiving = some (connected, after) := by
  rw [Host.pingIp] at done
  split at done
  · cases done
    cases success
  · obtain ⟨⟨reply, echoed⟩, echoes, done⟩ := Option.bind_eq_some_iff.mp done
    cases reply with
    | some replyIp =>
        cases done
        exact Or.inl ⟨replyIp, echoes⟩
    | none =>
        obtain ⟨⟨connected, tested⟩, tests, done⟩ := Option.map_eq_some_iff.mp done
        dsimp only at done
        refine Or.inr ⟨echoed, connected, ?_⟩
        by_cases data : connected = 1
        · rw [if_pos data] at done
          cases done
          exact ⟨echoes, by omega, tests⟩
        · rw [if_neg data] at done
          by_cases plain : connected = 0
          · rw [if_pos plain] at done
            cases done
            exact ⟨echoes, by omega, tests⟩
          · rw [if_neg plain] at done
            cases done
            cases success

/-- When all that was read since the driver was started needed no wait for an answer, and each echo reply that is read
after the request is the one that is waited for, then a reply is noted only when the host has answered.  A ping
without one succeeds only when a connection does. -/
theorem ping_answered {start : Host} {setup : Host.CardSetup} {turns : List Turn} (works : setup.ioBase = 0 ∨ setup.Works)
    (earlier : Restricted Host.turn Prompt (start.rtl8139Init setup) turns host) :
    (∀ depth dstIp id seq timeoutMs elapsed replyIp after,
        Host.EchoFaithful depth dstIp id seq timeoutMs elapsed host →
          host.echo (Host.pollReceive depth) dstIp id seq timeoutMs elapsed = some (some replyIp, after) →
            Answered dstIp id seq host after) ∧
      ∀ depth ipAddress setup result response after,
        Host.EchoFaithful depth (parseIpString ipAddress) 1 1 1000 setup.elapsed host →
          host.pingIp (Host.pollReceive depth) ipAddress setup = some (result, response, after) →
            response.success = true → Answered (parseIpString ipAddress) 1 1 host after ∨
              ∃ failed connected, host.echo (Host.pollReceive depth) (parseIpString ipAddress) 1 1 1000 setup.elapsed =
                  some (none, failed) ∧
                0 ≤ connected ∧ failed.tcpTestConnection (Host.pollReceive depth) (parseIpString ipAddress) setup.conn
                  setup.connecting setup.receiving = some (connected, after) := by
  have ready := run_ready works earlier
  constructor
  · intro depth dstIp id seq timeoutMs elapsed replyIp after faithful done
    exact ready.answered faithful done
  · intro depth ipAddress setup result response after faithful done success
    rcases pingIp_success done success with ⟨replyIp, echoes⟩ | tested
    · exact Or.inl (ready.answered faithful echoes)
    · exact Or.inr tested

/-- An ICMP message of eight bytes with id 1 and sequence number 1. -/
def echoFrameFrom (srcIp : Nat) (type : UInt8) : List UInt8 := ipFrame 28 1 srcIp 0x0F02000A [type, 0, 0, 0, 0, 1, 0, 1]

/-- The peer has asked for the address, and then other frames arrive. -/
def pingSetup (schedule : List (List (List UInt8))) : Host.CardSetup := cardSetup ([arpFrame arpOpRequest] :: schedule)

/-- The peer answers, and so the ping of `10.0.2.3` succeeds. -/
theorem ping_answered_peer : ∃ host after response,
    Restricted Host.turn Prompt (idleHost.rtl8139Init (pingSetup [[echoFrameFrom 0x0302000A 0]])) [.poll 1] host ∧
      host.echo (Host.pollReceive 1) 0x0302000A 1 1 1000 [1] = some (some 0x0302000A, after) ∧
        host.pingIp (Host.pollReceive 1) [0x31, 0x30, 0x2E, 0x30, 0x2E, 0x32, 0x2E, 0x33] ⟨[1], 0x300000, [], []⟩ =
            some (0, response, after) ∧
          Answered 0x0302000A 1 1 host after := by
  have returns : (performAll Host.turn (fun host turn => decide (Prompt host turn))
      (idleHost.rtl8139Init (pingSetup [[echoFrameFrom 0x0302000A 0]])) [.poll 1]).any (fun host =>
        Host.EchoFaithful 1 0x0302000A 1 1 1000 [1] host ∧
          (host.echo (Host.pollReceive 1) 0x0302000A 1 1 1000 [1]).any (fun result => result.1 = some 0x0302000A)) = true := by
    decide +kernel
  obtain ⟨host, reached, outcome⟩ := (Option.any_eq_true _ _).mp returns
  obtain ⟨faithful, replies⟩ := of_decide_eq_true outcome
  obtain ⟨⟨replyIp, after⟩, done, noted⟩ := (Option.any_eq_true _ _).mp replies
  have replied : replyIp = some 0x0302000A := of_decide_eq_true noted
  rw [replied] at done
  have prompt := (performAll_restricted reached).mono fun _ _ _ performed =>
    (⟨of_decide_eq_true performed.1, performed.2⟩ : Guarded Prompt (Stepping Host.turn) _ _ _)
  have works : (pingSetup [[echoFrameFrom 0x0302000A 0]]).Works := ⟨by decide, by decide, by decide, by decide⟩
  have valid : isValidIp [0x31, 0x30, 0x2E, 0x30, 0x2E, 0x32, 0x2E, 0x33] = true := by decide
  have target : parseIpString [0x31, 0x30, 0x2E, 0x30, 0x2E, 0x32, 0x2E, 0x33] = 0x0302000A := by decide
  obtain ⟨response, pings⟩ : ∃ response, host.pingIp (Host.pollReceive 1) [0x31, 0x30, 0x2E, 0x30, 0x2E, 0x32, 0x2E, 0x33]
      ⟨[1], 0x300000, [], []⟩ = some (0, response, after) := by
    rw [Host.pingIp, valid, target]
    exact ⟨_, Option.bind_eq_some_iff.mpr ⟨_, done, rfl⟩⟩
  exact ⟨host, after, response, prompt, done, pings,
    (ping_answered (Or.inr works) prompt).1 _ _ _ _ _ _ _ _ faithful done⟩

/-- A reply is noted, but none of the frames that were passed on is it. -/
theorem not_answered {start : Host} {replyIp : Nat}
    (noted : (performAll Host.turn (fun _ _ => true) start [.poll 1]).any (fun host =>
      (host.echo (Host.pollReceive depth) dstIp 1 1 1000 [1]).any fun result => result.1 = some replyIp ∧
        ∀ frame ∈ result.2.receiver.delivered.drop host.receiver.delivered.length, ¬ EchoReply dstIp 1 1 frame) = true) :
    ∃ host after, Run (Stepping Host.turn) start [.poll 1] host ∧
      host.echo (Host.pollReceive depth) dstIp 1 1 1000 [1] = some (some replyIp, after) ∧
        ¬ Answered dstIp 1 1 host after := by
  obtain ⟨host, reached, returns⟩ := (Option.any_eq_true _ _).mp noted
  obtain ⟨⟨reply, after⟩, done, outcome⟩ := (Option.any_eq_true _ _).mp returns
  obtain ⟨replied, none⟩ := of_decide_eq_true outcome
  refine ⟨host, after, (performAll_restricted reached).mono fun _ _ _ performed => performed.2, ?_, fun answered => ?_⟩
  · rw [done, ← replied]
  · obtain ⟨frame, member, isReply⟩ := answered.reply
    exact none frame member isReply

/-- The peer 10.0.2.3 is asked and is silent; the reply comes from 10.0.2.4.  Or 10.0.2.4, which is not known, sends a
request of its own: that is turned into a reply where it lies, and read again while its answer waits. -/
theorem echo_fooled :
    (∃ host after, Run (Stepping Host.turn) (idleHost.rtl8139Init (pingSetup [[echoFrameFrom 0x0402000A 0]])) [.poll 1] host ∧
      host.echo (Host.pollReceive 1) 0x0302000A 1 1 1000 [1] = some (some 0x0402000A, after) ∧
        ¬ Answered 0x0302000A 1 1 host after) ∧
    ∃ host after, Run (Stepping Host.turn) (idleHost.rtl8139Init (pingSetup [[echoFrameFrom 0x0402000A 8]])) [.poll 1] host ∧
      host.echo (Host.pollReceive 2) 0x0302000A 1 1 1000 [1] = some (some 0x0402000A, after) ∧
        ¬ Answered 0x0302000A 1 1 host after := by
  constructor
  · apply not_answered
    decide +kernel
  · apply not_answered
    decide +kernel

end AutismOS.Network
