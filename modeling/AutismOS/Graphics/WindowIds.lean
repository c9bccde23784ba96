import AutismOS.Graphics.RoundTrip
import AutismOS.Graphics.Buffers
import Mathlib.Data.List.Forall2

namespace AutismOS.Graphics

open AutismOS.Library AutismOS.Ipc AutismOS.Processes

/-! The window ids that clients are told, and those that the server gives. -/

/-- Clients and server share the kernel.  `tickets` goes along with the server's queue and names the id
that a creation returned to its caller; `served` collects the server's answers to those. -/
structure GfxSystem where
  kernel : Kernel
  server : GfxServer
  tickets : List (Option Nat)
  served : List (Nat × GfxResponse)

/-- Clients call the library and take turns; the server takes one turn of its loop. -/
inductive GfxAction where
  | gfxConnect
  | gfxDisconnect
  | processSwitch (next : Nat)
  | request (request : Request) (stack : GfxMessage)
  | serve (block : Nat)

/-- The id that a call returned, where it is a creation. -/
def Request.ticket (request : Request) (outcome : Int) : Option Nat :=
  match request with
  | gfxCreateWindow .. => some outcome.toNat
  | _ => none

/-- What `handle_create_window` asks `kmalloc` for. -/
def Command.bufferSize : Command → Option Nat
  | .createWindow _ _ width height _ _ => some (width * height % 2 ^ 32)
  | _ => none

namespace GfxSystem

/-- The answer to the first message of the queue, with the id that was returned for it. -/
def answered (system : GfxSystem) (resp : Option GfxResponse) : List (Nat × GfxResponse) :=
  match system.tickets.head?.join, resp with
  | some id, some resp => [(id, resp)]
  | _, _ => []

/-- The server runs in the process `graphics`. -/
def perform (fuel graphics : Nat) (system : GfxSystem) : GfxAction → Option GfxSystem
  | .gfxConnect => some { system with kernel := system.kernel.gfxConnect }
  | .gfxDisconnect => some { system with kernel := system.kernel.gfxDisconnect }
  | .processSwitch next => (system.kernel.processSwitch next).map fun kernel => { system with kernel }
  | .request request stack =>
      (request.call system.kernel fuel stack).map fun (outcome, kernel) =>
        if (kernel.processes graphics).inbox.count = (system.kernel.processes graphics).inbox.count then
          { system with kernel }
        else { system with kernel, tickets := system.tickets ++ [request.ticket outcome] }
  | .serve block =>
      if system.kernel.processGetCurrent ≠ graphics then none
      else
        match messageQueueDequeue (system.kernel.processes graphics).inbox with
        | none => some { system with server := (system.server.gfxServerTurn block none).2 }
        | some (msg, inbox) =>
            let turn := system.server.gfxServerTurn block (some msg)
            some { kernel := system.kernel.setInbox graphics inbox, server := turn.2, tickets := system.tickets.tail
                   served := system.served ++ system.answered turn.1 }

/-- Every id that was returned is the one that the server gave to the window of this very request. -/
def Agrees (system : GfxSystem) : Prop :=
  ∀ entry ∈ system.served, entry.1 ≠ 0 → entry.2.result = gfxOk ∧ entry.2.data = entry.1

/-- What `kmalloc` may answer to the message that the server takes next: a block of no bytes is NULL. -/
def Valid (graphics : Nat) (system : GfxSystem) : GfxAction → Prop
  | .serve block =>
      ∀ read ∈ messageQueueDequeue (system.kernel.processes graphics).inbox,
        (gfxServerMessage read.1).command.bufferSize = some 0 → block = 0
  | _ => True

/-- The next message of the queue is none for which a window id was returned. -/
def Unpromised (system : GfxSystem) : GfxAction → Prop
  | .serve _ => ∀ id ∈ system.tickets.head?.join, id = 0
  | _ => True

/-- What the runs rest on: the server's queue is in order, `gfx_connect` finds the server, and tickets
belong to creations. -/
structure Linked (fuel graphics : Nat) (system : GfxSystem) : Prop where
  ordered : (system.kernel.processes graphics).inbox.Ordered
  found : system.kernel.processFindByPid fuel 1 = some graphics
  client : system.kernel.gfxClient.connected = true → system.kernel.gfxClient.serverPid = 1
  aligned : List.Forall₂ (fun msg (ticket : Option Nat) => ticket.isSome = true → msg.type = gfxMsgCreateWindow)
    (system.kernel.processes graphics).inbox.pending system.tickets

end GfxSystem

variable {kernel after : Kernel} {fuel graphics : Nat} {request : Request} {stack : GfxMessage} {outcome : Int}

theorem steady_processFindByPid {pid : Nat} (steady : Steady kernel after) :
    after.processFindByPid fuel pid = kernel.processFindByPid fuel pid := by
  have next : (fun process => (after.processes process).next) = fun process => (kernel.processes process).next :=
    funext steady.next
  simp only [Kernel.processFindByPid, next, steady.pid, steady.processListHead]

theorem gfxSendRequest_gfxClient {type data1 data2 : Nat}
    (done : kernel.gfxSendRequest fuel type data1 data2 = some (outcome, after)) :
    after.gfxClient = kernel.gfxClient := by
  rcases gfxSendRequest_requested done with _ | _ | _
  · rfl
  · rfl
  · rfl

theorem answer_steady : Steady kernel (request.answer outcome kernel).2 := by
  cases request with
  | gfxCreateWindow x y width height title flags =>
      simp only [Request.answer]
      split
      · exact steady_of_eq rfl rfl rfl rfl (subset_refl _)
      · exact .refl
  | _ => exact .refl

/-- The counter apart, a call leaves the client's connection. -/
theorem answer_gfxClient : (request.answer outcome kernel).2.gfxClient.connected = kernel.gfxClient.connected ∧
    (request.answer outcome kernel).2.gfxClient.serverPid = kernel.gfxClient.serverPid := by
  cases request with
  | gfxCreateWindow x y width height title flags =>
      simp only [Request.answer]
      split
      · exact ⟨rfl, rfl⟩
      · exact ⟨rfl, rfl⟩
  | _ => exact ⟨rfl, rfl⟩

theorem refusal_disconnected : (request.refusal false).isSome = true := by
  cases request <;> simp [Request.refusal]

/-- What a call does to the processes, the connection and the server's queue. -/
theorem call_effect (called : request.call kernel fuel stack = some (outcome, after))
    (found : kernel.processFindByPid fuel 1 = some graphics)
    (client : kernel.gfxClient.connected = true → kernel.gfxClient.serverPid = 1) :
    Steady kernel after ∧ after.gfxClient.connected = kernel.gfxClient.connected ∧
      after.gfxClient.serverPid = kernel.gfxClient.serverPid ∧
      ((after.processes graphics).inbox = (kernel.processes graphics).inbox ∨
        ∃ msg, msg.type = request.type ∧
          messageQueueEnqueue (kernel.processes graphics).inbox msg = some (after.processes graphics).inbox) := by
  rw [Request.call] at called
  split at called
  · cases called
    exact ⟨.refl, rfl, rfl, Or.inl rfl⟩
  · rename_i accepted
    have connected : kernel.gfxClient.connected = true := by
      cases known : kernel.gfxClient.connected with
      | true => rfl
      | false =>
          rw [known] at accepted
          have refused : (request.refusal false).isSome = true := refusal_disconnected
          rw [accepted] at refused
          cases refused
    rw [← client connected] at found
    obtain ⟨between, sent, answered⟩ := Option.map_eq_some_iff.mp called
    obtain ⟨result, between⟩ := between
    have next : (request.answer result between).2 = after := congrArg Prod.snd answered
    subst next
    have same := gfxSendRequest_gfxClient sent
    rw [answer_processes, answer_gfxClient.1, answer_gfxClient.2, same]
    refine ⟨(gfxSendRequest_requested sent).steady.trans answer_steady, rfl, rfl, ?_⟩
    exact (gfxSendRequest_inbox sent found).imp_right fun queued => ⟨_, rfl, queued⟩

theorem ticket_type (ticketed : (request.ticket outcome).isSome = true) : request.type = gfxMsgCreateWindow := by
  cases request with
  | gfxCreateWindow x y width height title flags => rfl
  | _ => cases ticketed

theorem processSwitch_gfxClient {next : Nat} (done : kernel.processSwitch next = some after) :
    after.gfxClient = kernel.gfxClient := by
  rw [Kernel.processSwitch] at done
  split at done
  · cases done
    rfl
  · split at done
    · obtain ⟨paging, _, rfl⟩ := Option.map_eq_some_iff.mp done
      rfl
    · cases done
      rfl

/-- A creation arrives without a width and a height, so no bytes are asked for. -/
theorem gfxServerMessage_bufferSize {msg : Message} (creates : msg.type = gfxMsgCreateWindow) :
    (gfxServerMessage msg).command.bufferSize = some 0 := by
  have wide : (gfxServerMessage msg).data.loadWord widthOffset = 0 := gfxServerMessage_word (by decide) (by decide)
  have type : (gfxServerMessage msg).type = gfxMsgCreateWindow := creates
  rw [GfxMessage.command, type]
  simp only [gfxMsgCreateWindow, Command.bufferSize, wide, Nat.zero_mul, Nat.zero_mod]

namespace GfxServer

variable {server : GfxServer}

/-- Without a buffer a creation is answered with an error. -/
theorem gfxServerTurn_fails {msg : Message} (asks : (gfxServerMessage msg).command.bufferSize.isSome = true) :
    ∃ resp, (server.gfxServerTurn 0 (some msg)).1 = some resp ∧ resp.result = gfxErrOutOfMemory := by
  refine ⟨(server.processMessage 0 (gfxServerMessage msg)).1, rfl, ?_⟩
  simp only [processMessage]
  cases command : (gfxServerMessage msg).command with
  | createWindow x y width height flags title =>
      cases free : server.findFreeWindow with
      | none => simp only [handleCreateWindow_none free]
      | some slot => simp only [handleCreateWindow_null free]
  | _ =>
      rw [command] at asks
      cases asks

end GfxServer

namespace GfxSystem

variable {before next : GfxSystem} {action : GfxAction}

theorem perform_linked (linked : before.Linked fuel graphics) (done : before.perform fuel graphics action = some next) :
    next.Linked fuel graphics := by
  cases action with
  | gfxConnect =>
      cases done
      exact ⟨linked.ordered, linked.found, fun _ => rfl, linked.aligned⟩
  | gfxDisconnect =>
      cases done
      exact ⟨linked.ordered, linked.found, fun connected => absurd connected Bool.false_ne_true, linked.aligned⟩
  | processSwitch process =>
      obtain ⟨kernel, switched, rfl⟩ := Option.map_eq_some_iff.mp done
      have effect := processSwitch_switched switched
      have client := processSwitch_gfxClient switched
      have found := linked.found
      simp only [Kernel.processFindByPid] at found
      refine ⟨?_, ?_, ?_, ?_⟩
      · simp only [effect.processes]
        exact linked.ordered
      · simp only [Kernel.processFindByPid, effect.processes, effect.processListHead]
        exact found
      · simp only [client]
        exact linked.client
      · simp only [effect.processes]
        exact linked.aligned
  | request request stack =>
      obtain ⟨called, performed, result⟩ := Option.map_eq_some_iff.mp done
      obtain ⟨outcome, after⟩ := called
      obtain ⟨steady, connected, serverPid, queue⟩ := call_effect performed linked.found linked.client
      have found : after.processFindByPid fuel 1 = some graphics := by
        rw [steady_processFindByPid steady]
        exact linked.found
      have client : after.gfxClient.connected = true → after.gfxClient.serverPid = 1 := by
        rw [connected, serverPid]
        exact linked.client
      rcases queue with kept | ⟨msg, type, queued⟩
      · have same : (after.processes graphics).inbox.count = (before.kernel.processes graphics).inbox.count := by
          rw [kept]
        simp only [if_pos same] at result
        cases result
        refine ⟨?_, found, client, ?_⟩
        · simp only [kept]
          exact linked.ordered
        · simp only [kept]
          exact linked.aligned
      · have grown : (after.processes graphics).inbox.count ≠ (before.kernel.processes graphics).inbox.count := by
          rw [(messageQueueEnqueue_some queued).2.1]
          exact Nat.succ_ne_self _
        simp only [if_neg grown] at result
        cases result
        obtain ⟨ordered, pending⟩ := messageQueueEnqueue_pending linked.ordered queued
        refine ⟨ordered, found, client, ?_⟩
        simp only [pending]
        apply List.rel_append linked.aligned
        exact .cons (fun ticketed => type.trans (ticket_type ticketed)) .nil
  | serve block =>
      rw [perform] at done
      split at done
      · cases done
      · split at done
        · cases done
          exact ⟨linked.ordered, linked.found, linked.client, linked.aligned⟩
        · rename_i msg inbox taken
          cases done
          obtain ⟨ordered, pending⟩ := messageQueueDequeue_pending linked.ordered taken
          have inboxIs : ((before.kernel.setInbox graphics inbox).processes graphics).inbox = inbox := by
            rw [setInbox_inbox, if_pos rfl]
          have aligned := linked.aligned
          rw [pending] at aligned
          refine ⟨?_, ?_, linked.client, ?_⟩
          · simp only [inboxIs]
            exact ordered
          · have steady : Steady before.kernel (before.kernel.setInbox graphics inbox) := setInbox_steady
            simp only [steady_processFindByPid steady]
            exact linked.found
          · simp only [inboxIs]
            obtain ⟨ticket, tickets, _, rest, split⟩ := List.forall₂_cons_left_iff.mp aligned
            rw [split, List.tail_cons]
            exact rest

/-- A promised creation is answered with an error. -/
theorem promised_fails {block id : Nat} {msg : Message} {inbox : MessageQueue} (linked : before.Linked fuel graphics)
    (valid : before.Valid graphics (.serve block))
    (taken : messageQueueDequeue (before.kernel.processes graphics).inbox = some (msg, inbox))
    (promised : before.tickets.head?.join = some id) :
    ∃ resp, (before.server.gfxServerTurn block (some msg)).1 = some resp ∧ resp.result ≠ gfxOk := by
  have aligned := linked.aligned
  rw [(messageQueueDequeue_pending linked.ordered taken).2] at aligned
  obtain ⟨ticket, tickets, creates, _, split⟩ := List.forall₂_cons_left_iff.mp aligned
  rw [split, List.head?_cons, Option.join_some] at promised
  have type : msg.type = gfxMsgCreateWindow := by
    apply creates
    rw [promised]
    rfl
  have asks := gfxServerMessage_bufferSize type
  have null : block = 0 := valid (msg, inbox) taken asks
  subst null
  obtain ⟨resp, answered, failed⟩ := GfxServer.gfxServerTurn_fails (by rw [asks]; rfl)
  refine ⟨resp, answered, ?_⟩
  rw [failed]
  decide

theorem agrees_append {id : Nat} {resp : GfxResponse} (agrees : before.Agrees)
    (served : next.served = before.served ++ [(id, resp)]) (failed : resp.result ≠ gfxOk) : next.Agrees ↔ id = 0 := by
  constructor
  · intro nextAgrees
    by_contra given
    have member : (id, resp) ∈ next.served := by
      rw [served]
      exact List.mem_append_right _ List.mem_cons_self
    exact failed (nextAgrees _ member given).1
  · intro zero entry member given
    rw [served] at member
    rcases List.mem_append.mp member with old | new
    · exact agrees entry old given
    · rw [List.mem_singleton.mp new] at given
      exact absurd zero given

/-- The server answers a promised creation with an error, so a turn keeps the agreement exactly if the
message that it takes is none. -/
theorem perform_agrees (linked : before.Linked fuel graphics) (agrees : before.Agrees)
    (valid : before.Valid graphics action) (done : before.perform fuel graphics action = some next) :
    next.Agrees ↔ before.Unpromised action := by
  cases action with
  | gfxConnect =>
      cases done
      exact iff_of_true agrees trivial
  | gfxDisconnect =>
      cases done
      exact iff_of_true agrees trivial
  | processSwitch process =>
      obtain ⟨kernel, _, rfl⟩ := Option.map_eq_some_iff.mp done
      exact iff_of_true agrees trivial
  | request request stack =>
      obtain ⟨called, _, result⟩ := Option.map_eq_some_iff.mp done
      have served : next.served = before.served := by
        rw [← result]
        dsimp only
        split <;> rfl
      refine iff_of_true ?_ trivial
      rw [Agrees, served]
      exact agrees
  | serve block =>
      rw [perform] at done
      split at done
      · cases done
      · split at done
        · rename_i empty
          cases done
          have aligned := linked.aligned
          rw [MessageQueue.pending, messageQueueDequeue_none.mp empty] at aligned
          have none : before.tickets = [] := List.forall₂_nil_left_iff.mp aligned
          refine iff_of_true agrees ?_
          rw [Unpromised, none]
          exact fun id member => absurd member (Option.not_mem_none id)
        · rename_i msg inbox taken
          cases promised : before.tickets.head?.join with
          | none =>
              cases done
              rw [Unpromised, promised]
              refine iff_of_true ?_ fun id member => absurd member (Option.not_mem_none id)
              have nothing (resp : Option GfxResponse) : before.answered resp = [] := by
                simp only [answered, promised]
              simp only [Agrees, nothing, List.append_nil]
              exact agrees
          | some id =>
              obtain ⟨resp, answers, failed⟩ := promised_fails linked valid taken promised
              have recorded : before.answered (some resp) = [(id, resp)] := by
                simp only [answered, promised]
              have served : next.served = before.served ++ [(id, resp)] := by
                cases done
                rw [← recorded, ← answers]
              rw [agrees_append agrees served failed, Unpromised, promised]
              exact ⟨fun zero other member => (Option.some.inj member).symm.trans zero, fun all => all id rfl⟩

/-- Clients and server before anything was sent. -/
def booted (kernel : Kernel) (memory : TracedMemory) : GfxSystem where
  kernel
  server := gfxServerInit memory
  tickets := []
  served := []

/-- The state of the kernel then: the client library is not connected, and the server's process has an
empty queue. -/
structure Booted (fuel graphics : Nat) (kernel : Kernel) : Prop where
  ordered : (kernel.processes graphics).inbox.Ordered
  empty : (kernel.processes graphics).inbox.count = 0
  found : kernel.processFindByPid fuel 1 = some graphics
  disconnected : kernel.gfxClient.connected = false

/-- The ids that clients were told are those of their windows exactly as long as the server has taken no
request off its queue for which an id was told. -/
theorem run_agrees_iff {kernel : Kernel} {memory : TracedMemory} {actions : List GfxAction} {after : GfxSystem}
    (started : Booted fuel graphics kernel)
    (run : Restricted (perform fuel graphics) (Valid graphics) (booted kernel memory) actions after) :
    Observed (perform fuel graphics) (fun _ _ system => system.Agrees) (booted kernel memory) actions after ↔
      Restricted (perform fuel graphics) Unpromised (booted kernel memory) actions after := by
  apply run.observed_iff fun system => system.Linked fuel graphics ∧ system.Agrees
  · intro before action after invariant valid done
    exact perform_agrees invariant.1 invariant.2 valid done
  · intro before action after invariant valid done unpromised
    exact ⟨perform_linked invariant.1 done, (perform_agrees invariant.1 invariant.2 valid done).mpr unpromised⟩
  · refine ⟨⟨started.ordered, started.found, ?_, ?_⟩, fun entry member => absurd member List.not_mem_nil⟩
    · intro connected
      rw [booted, started.disconnected] at connected
      cases connected
    · rw [booted, MessageQueue.pending, started.empty]
      exact .nil

instance (graphics : Nat) (system : GfxSystem) : (action : GfxAction) → Decidable (system.Valid graphics action)
  | .serve block =>
      inferInstanceAs (Decidable (∀ read ∈ messageQueueDequeue (system.kernel.processes graphics).inbox,
        (gfxServerMessage read.1).command.bufferSize = some 0 → block = 0))
  | .gfxConnect | .gfxDisconnect | .processSwitch _ | .request .. => inferInstanceAs (Decidable True)

instance (system : GfxSystem) : (action : GfxAction) → Decidable (system.Unpromised action)
  | .serve _ => inferInstanceAs (Decidable (∀ id ∈ system.tickets.head?.join, id = 0))
  | .gfxConnect | .gfxDisconnect | .processSwitch _ | .request .. => inferInstanceAs (Decidable True)

def bootKernel : Kernel := { servedKernel with gfxClient := { serverPid := 0, connected := false, nextWindowId := 0 } }

theorem bootKernel_booted : Booted 1 0x200014 bootKernel := ⟨messageQueueInit_ordered, rfl, by decide, rfl⟩

/-- A window is asked for between two other requests, and waits in the queue when the first is served. -/
def queuedActions : List GfxAction :=
  [.gfxConnect, .request (.gfxPresent 7) emptyMessage, .request (.gfxCreateWindow 10 20 100 50 none 1) emptyMessage,
    .request (.gfxPresent 1) emptyMessage, .serve 0]

theorem run_agrees_present : ∃ after : GfxSystem, after.tickets = [some 1, none] ∧
    Observed (perform 1 0x200014) (fun _ _ system => system.Agrees) (booted bootKernel GfxServer.blankMemory)
      queuedActions after := by
  have computed : (performAll (perform 1 0x200014)
      (fun system action => decide (system.Valid 0x200014 action ∧ system.Unpromised action))
      (booted bootKernel GfxServer.blankMemory) queuedActions).any (fun after => after.tickets = [some 1, none]) = true := by
    decide +kernel
  obtain ⟨after, reached, queued⟩ := (Option.any_eq_true _ _).mp computed
  have performed := performAll_restricted reached
  have valid := performed.mono fun _ _ _ step => And.imp_left (fun allowed => (of_decide_eq_true allowed).1) step
  have unpromised := performed.mono fun _ _ _ step => And.imp_left (fun allowed => (of_decide_eq_true allowed).2) step
  exact ⟨after, of_decide_eq_true queued, (run_agrees_iff bootKernel_booted valid).mpr unpromised⟩

/-- The first window of the first client: it is told the id 1, and the server has no memory for the window. -/
theorem run_promises_nothing : ∃ after : GfxSystem,
    Restricted (perform 1 0x200014) (Valid 0x200014) (booted bootKernel GfxServer.blankMemory)
      [.gfxConnect, .request (.gfxCreateWindow 10 20 100 50 none 1) emptyMessage, .serve 0] after ∧
    (∃ resp, (1, resp) ∈ after.served ∧ resp.result = gfxErrOutOfMemory) ∧
    ¬ Observed (perform 1 0x200014) (fun _ _ system => system.Agrees) (booted bootKernel GfxServer.blankMemory)
      [.gfxConnect, .request (.gfxCreateWindow 10 20 100 50 none 1) emptyMessage, .serve 0] after := by
  have computed : (performAll (perform 1 0x200014) (fun system action => decide (system.Valid 0x200014 action))
      (booted bootKernel GfxServer.blankMemory)
      [.gfxConnect, .request (.gfxCreateWindow 10 20 100 50 none 1) emptyMessage, .serve 0]).any
        (fun after => after.served.any fun entry => entry.1 = 1 ∧ entry.2.result = gfxErrOutOfMemory) = true := by
    decide +kernel
  obtain ⟨after, reached, served⟩ := (Option.any_eq_true _ _).mp computed
  obtain ⟨entry, member, answered⟩ := List.any_eq_true.mp served
  obtain ⟨promised, failed⟩ := of_decide_eq_true answered
  have run := (performAll_restricted reached).mono fun _ _ _ performed => And.imp_left of_decide_eq_true performed
  refine ⟨after, run, ⟨entry.2, ?_, failed⟩, fun observed => ?_⟩
  · rw [← promised]
    exact member
  · have split : Observed (perform 1 0x200014) (fun _ _ system => system.Agrees) (booted bootKernel GfxServer.blankMemory)
        ([.gfxConnect, .request (.gfxCreateWindow 10 20 100 50 none 1) emptyMessage] ++ [.serve 0]) after := observed
    obtain ⟨_, _, _, agrees⟩ := split.last_observed
    have succeeded := (agrees entry member (by rw [promised]; decide)).1
    rw [failed] at succeeded
    cases succeeded

end GfxSystem

end AutismOS.Graphics
