import AutismOS.Ipc.Queue
import AutismOS.Library.Run
import AutismOS.Processes.Invariant
import AutismOS.Processes.Isolation

namespace AutismOS.Processes

open AutismOS.Library AutismOS.Ipc AutismOS.Memory

variable {statics : Statics} {kernel after : Kernel} {created : Finset Nat} {action : Action} {actions : List Action}
variable {regs regs' : Registers} {queue next inbox : MessageQueue} {message : Message} {accepted taken : List Message}
variable {traffic : Traffic} {fuel msg target process other : Nat}

/-! # What is sent is read once

Callers see the results of their calls and their own memory.  From these the messages of a
run are collected: a message was accepted once its sender was told so, and it was taken once
it stands in the memory of the receiver. -/

/-- The messages for each process, the first ones first. -/
structure Traffic where
  accepted : Nat → List Message
  taken : Nat → List Message

namespace Traffic

variable (traffic : Traffic)

def accept (process : Nat) (message : Message) : Traffic :=
  { traffic with accepted := Function.update traffic.accepted process (traffic.accepted process ++ [message]) }

def take (process : Nat) (message : Message) : Traffic :=
  { traffic with taken := Function.update traffic.taken process (traffic.taken process ++ [message]) }

/-- A system call that went from `regs` to `regs'`. -/
def syscall (kernel : Kernel) (fuel : Nat) (regs regs' : Registers) (after : Kernel) : Traffic :=
  if regs'.eax ≠ 0 then traffic
  else if regs.eax = sysSend then
    traffic.accept ((kernel.processFindByPid fuel regs.ebx).getD 0) (readMessage after.memory regs.ecx).1
  else if regs.eax = sysRecv ∨ regs.eax = sysPoll then
    traffic.take kernel.currentProcess (readMessage after.memory regs.ebx).1
  else traffic

/-- Events of devices have no result: they are accepted where there is a process with room. -/
def input (kernel : Kernel) (fuel : Nat) (message : Message) : Traffic :=
  let target := (kernel.processFindByPid fuel kernel.inputTargetPid).getD 0
  if target = 0 ∨ messageQueueIsFull (kernel.processes target).inbox then traffic else traffic.accept target message

/-- A request of a graphics client that ended with `result`. -/
def request (kernel : Kernel) (fuel type data1 data2 : Nat) (result : Int) : Traffic :=
  if result = gfxOk then
    traffic.accept ((kernel.processFindByPid fuel kernel.gfxClient.serverPid).getD 0)
      { senderPid := (kernel.processes kernel.processGetCurrent).pid, type, data1, data2 }
  else traffic

/-- The messages after one more step. -/
def record (fuel : Nat) (kernel : Kernel) : Action → Traffic
  | .syscall block regs =>
      (kernel.syscallHandler fuel block regs).elim traffic fun (regs', after) =>
        traffic.syscall kernel fuel regs regs' after
  | .keyEvent type keycode => traffic.input kernel fuel { senderPid := 0, type, data1 := keycode, data2 := 0 }
  | .mouseEvent type button x y =>
      traffic.input kernel fuel { senderPid := 0, type, data1 := button, data2 := Kernel.packCoordinates x y }
  | .gfxRequest type data1 data2 =>
      (kernel.gfxSendRequest fuel type data1 data2).elim traffic fun (result, _) =>
        traffic.request kernel fuel type data1 data2 result
  | _ => traffic

end Traffic

/-- The system with the messages so far. -/
structure Recorded where
  system : System
  traffic : Traffic

def performRecorded (statics : Statics) (fuel : Nat) (state : Recorded) (action : Action) : Option Recorded :=
  (perform statics fuel state.system action).map fun system =>
    { system, traffic := state.traffic.record fuel state.system.kernel action }

def initialRecorded (kernel : Kernel) : Recorded :=
  { system := initialSystem kernel, traffic := { accepted := fun _ => [], taken := fun _ => [] } }

/-- The fields are 32-bit words. -/
structure Words (message : Message) : Prop where
  senderPid : message.senderPid < 2 ^ 32
  type : message.type < 2 ^ 32
  data1 : message.data1 < 2 ^ 32
  data2 : message.data2 < 2 ^ 32

/-- The arguments of the steps are those of a 32-bit machine. -/
def Typed : Action → Prop
  | .keyEvent type keycode => type < 2 ^ 32 ∧ keycode < 2 ^ 32
  | .mouseEvent type button _ _ => type < 2 ^ 32 ∧ button < 2 ^ 32
  | .gfxRequest type data1 data2 => type < 2 ^ 32 ∧ data1 < 2 ^ 32 ∧ data2 < 2 ^ 32
  | _ => True

def Allowed (fuel : Nat) (state : Recorded) (action : Action) : Prop := Valid fuel state.system action ∧ Typed action

@[simp] theorem setInbox_memory : (kernel.setInbox target inbox).memory = kernel.memory := rfl

theorem readMessage_words {memory : TracedMemory} : Words (readMessage memory msg).1 :=
  ⟨ByteMemory.loadWord_lt, ByteMemory.loadWord_lt, ByteMemory.loadWord_lt, ByteMemory.loadWord_lt⟩

/-- A message that was copied to a caller is found there. -/
theorem readMessage_writeMessage {memory : TracedMemory} (words : Words message) (aligned : msg % 4 = 0) :
    (readMessage (writeMessage memory msg message) msg).1 = message := by
  obtain ⟨senderPid, type, data1, data2⟩ := words
  have other (bytes : ByteMemory) (value low high : Nat) (apart : low ≠ high) (lowInside : low < 4) (highInside : high < 4) :
      (bytes.storeWord (msg + 4 * high) value).loadWord (msg + 4 * low) = bytes.loadWord (msg + 4 * low) :=
    ByteMemory.loadWord_storeWord_other (by omega) (by omega) (by omega)
  have first (bytes : ByteMemory) (value high : Nat) (positive : 0 < high) (inside : high < 4) :
      (bytes.storeWord (msg + 4 * high) value).loadWord msg = bytes.loadWord msg :=
    other bytes value 0 high (by omega) (by omega) inside
  have atZero : (readMessage (writeMessage memory msg message) msg).1.senderPid = message.senderPid := by
    simp only [readMessage, writeMessage]
    rw [first _ _ 3 (by omega) (by omega), first _ _ 2 (by omega) (by omega), first _ _ 1 (by omega) (by omega)]
    exact ByteMemory.loadWord_storeWord_same senderPid
  have atOne : (readMessage (writeMessage memory msg message) msg).1.type = message.type := by
    simp only [readMessage, writeMessage]
    rw [other _ _ 1 3 (by omega) (by omega) (by omega), other _ _ 1 2 (by omega) (by omega) (by omega)]
    exact ByteMemory.loadWord_storeWord_same type
  have atTwo : (readMessage (writeMessage memory msg message) msg).1.data1 = message.data1 := by
    simp only [readMessage, writeMessage]
    rw [other _ _ 2 3 (by omega) (by omega) (by omega)]
    exact ByteMemory.loadWord_storeWord_same data1
  have atThree : (readMessage (writeMessage memory msg message) msg).1.data2 = message.data2 :=
    ByteMemory.loadWord_storeWord_same data2
  generalize (readMessage (writeMessage memory msg message) msg).1 = copied at atZero atOne atTwo atThree
  cases copied
  cases message
  simp only [Message.mk.injEq]
  exact ⟨atZero, atOne, atTwo, atThree⟩

theorem isValidPointer_aligned {size : Nat} (valid : isValidPointer msg size = true) : msg % 4 = 0 := by
  by_contra crooked
  simp [isValidPointer, crooked] at valid

/-- What was accepted is what was taken and then what waits. -/
structure Ledger (queue : MessageQueue) (accepted taken : List Message) : Prop where
  ordered : queue.Ordered
  balanced : accepted = taken ++ queue.pending
  words : ∀ message ∈ queue.pending, Words message

theorem messageQueueInit_ledger : Ledger messageQueueInit [] [] :=
  ⟨messageQueueInit_ordered, rfl, fun _ member => absurd member List.not_mem_nil⟩

theorem Ledger.enqueue (ledger : Ledger queue accepted taken) (queued : messageQueueEnqueue queue message = some next)
    (words : Words message) : Ledger next (accepted ++ [message]) taken := by
  obtain ⟨ordered, pending⟩ := messageQueueEnqueue_pending ledger.ordered queued
  refine ⟨ordered, ?_, fun other member => ?_⟩
  · rw [ledger.balanced, pending, List.append_assoc]
  · rw [pending] at member
    rcases List.mem_append.mp member with old | new
    · exact ledger.words other old
    · rw [List.mem_singleton.mp new]
      exact words

theorem Ledger.dequeue (ledger : Ledger queue accepted taken)
    (received : messageQueueDequeue queue = some (message, next)) :
    Ledger next accepted (taken ++ [message]) ∧ Words message := by
  obtain ⟨ordered, pending⟩ := messageQueueDequeue_pending ledger.ordered received
  have words := ledger.words
  rw [pending] at words
  refine ⟨⟨ordered, ?_, fun other member => words other (List.mem_cons_of_mem _ member)⟩, words message List.mem_cons_self⟩
  rw [ledger.balanced, pending, List.append_assoc]
  rfl

@[simp] theorem Traffic.accept_accepted :
    (traffic.accept process message).accepted other =
      if other = process then traffic.accepted process ++ [message] else traffic.accepted other := by
  simp only [Traffic.accept, Function.update_apply]

@[simp] theorem Traffic.accept_taken :
    (traffic.accept process message).taken = traffic.taken := rfl

@[simp] theorem Traffic.take_taken :
    (traffic.take process message).taken other =
      if other = process then traffic.taken process ++ [message] else traffic.taken other := by
  simp only [Traffic.take, Function.update_apply]

@[simp] theorem Traffic.take_accepted :
    (traffic.take process message).accepted = traffic.accepted := rfl

/-- Every process has its ledger, and nothing was exchanged under other addresses. -/
structure Booked (kernel : Kernel) (created : Finset Nat) (traffic : Traffic) : Prop where
  ledger : ∀ process ∈ created,
    Ledger (kernel.processes process).inbox (traffic.accepted process) (traffic.taken process)
  others : ∀ process, process ∉ created → traffic.accepted process = [] ∧ traffic.taken process = []

theorem initialRecorded_booked :
    Booked (initialRecorded kernel).system.kernel (initialRecorded kernel).system.created
      (initialRecorded kernel).traffic :=
  ⟨fun _ member => absurd member (Finset.notMem_empty _), fun _ _ => ⟨rfl, rfl⟩⟩

theorem Booked.of_inbox (booked : Booked kernel created traffic)
    (same : ∀ process ∈ created, (after.processes process).inbox = (kernel.processes process).inbox) :
    Booked after created traffic := by
  refine ⟨fun process member => ?_, booked.others⟩
  rw [same process member]
  exact booked.ledger process member

theorem Booked.of_processes (booked : Booked kernel created traffic) (same : after.processes = kernel.processes) :
    Booked after created traffic :=
  booked.of_inbox fun process _ => congrArg Process.inbox (congrFun same process)

theorem Booked.accept (booked : Booked kernel created traffic) (member : target ∈ created)
    (queued : messageQueueEnqueue (kernel.processes target).inbox message = some inbox) (words : Words message)
    (inboxes : ∀ process, (after.processes process).inbox =
      if process = target then inbox else (kernel.processes process).inbox) :
    Booked after created (traffic.accept target message) := by
  refine ⟨fun process inside => ?_, fun process outside => ?_⟩
  · rw [inboxes]
    by_cases same : process = target
    · subst same
      simp only [Traffic.accept_accepted, Traffic.accept_taken]
      exact (booked.ledger process inside).enqueue queued words
    · simp only [if_neg same, Traffic.accept_accepted, Traffic.accept_taken]
      exact booked.ledger process inside
  · have other : process ≠ target := fun same => outside (same ▸ member)
    simp only [if_neg other, Traffic.accept_accepted, Traffic.accept_taken]
    exact booked.others process outside

theorem Booked.take (booked : Booked kernel created traffic) (member : target ∈ created)
    (received : messageQueueDequeue (kernel.processes target).inbox = some (message, inbox))
    (inboxes : ∀ process, (after.processes process).inbox =
      if process = target then inbox else (kernel.processes process).inbox) :
    Booked after created (traffic.take target message) := by
  refine ⟨fun process inside => ?_, fun process outside => ?_⟩
  · rw [inboxes]
    by_cases same : process = target
    · subst same
      simp only [Traffic.take_taken, Traffic.take_accepted]
      exact ((booked.ledger process inside).dequeue received).1
    · simp only [if_neg same, Traffic.take_taken, Traffic.take_accepted]
      exact booked.ledger process inside
  · have other : process ≠ target := fun same => outside (same ▸ member)
    simp only [if_neg other, Traffic.take_taken, Traffic.take_accepted]
    exact booked.others process outside

/-- A new process starts with an empty inbox, and no message was sent to its address before. -/
theorem Booked.made {newProcess newTask : Nat} (booked : Booked kernel created traffic) (fresh : newProcess ∉ created)
    (made : ProcessMade kernel newProcess newTask after) : Booked after (insert newProcess created) traffic := by
  refine ⟨fun process member => ?_, fun process outside => ?_⟩
  · rw [made.inbox]
    by_cases same : process = newProcess
    · subst same
      obtain ⟨noneAccepted, noneTaken⟩ := booked.others process fresh
      rw [if_pos rfl, noneAccepted, noneTaken]
      exact messageQueueInit_ledger
    · rw [if_neg same]
      exact booked.ledger process ((Finset.mem_insert.mp member).resolve_left same)
  · exact booked.others process fun inside => outside (Finset.mem_insert_of_mem inside)

theorem Sent.booked (sent : Sent kernel fuel regs regs' after) (wired : Wired kernel created)
    (booked : Booked kernel created traffic) (number : regs.eax = sysSend) :
    Booked after created (traffic.syscall kernel fuel regs regs' after) := by
  cases sent with
  | invalid pointer => exact booked
  | absent pointer found => exact booked
  | full target pointer found nonNull isFull => exact booked.of_processes rfl
  | delivered target inbox pointer found nonNull isFull queued =>
      have inboxes (process : Nat) : ((((kernel.setMemory ((kernel.stamped regs.ecx).touch regs.ecx messageSize)).setInbox
          target inbox).wake target).processes process).inbox =
            if process = target then inbox else (kernel.processes process).inbox := by
        rw [wake_processes]
        exact setInbox_inbox
      have told : (traffic.syscall kernel fuel regs { regs with eax := 0 }
          (((kernel.setMemory ((kernel.stamped regs.ecx).touch regs.ecx messageSize)).setInbox target inbox).wake
            target)) = traffic.accept target (kernel.stampedMessage regs.ecx) := by
        simp only [Traffic.syscall, number, found, wake_memory]
        rfl
      rw [told]
      exact booked.accept (wired.found found nonNull) queued readMessage_words inboxes

/-- `idle` is what is left of the kernel when there is no message. -/
theorem Received.booked {idle : Kernel} (received : Received kernel idle regs regs' after) (wired : Wired kernel created)
    (same : idle.processes = kernel.processes) (booked : Booked kernel created traffic)
    (number : regs.eax = sysRecv ∨ regs.eax = sysPoll) :
    Booked after created (traffic.syscall kernel fuel regs regs' after) := by
  have notSend : regs.eax ≠ sysSend := by
    rcases number with isRecv | isPoll
    · simp [isRecv, sysRecv, sysSend]
    · simp [isPoll, sysPoll, sysSend]
  cases received with
  | invalid pointer => exact booked
  | nobody pointer current => exact booked
  | empty pointer current none => exact booked.of_processes same
  | message message inbox pointer current received =>
      have member : kernel.currentProcess ∈ created := wired.current.resolve_left current
      have words : Words message := ((booked.ledger _ member).dequeue received).2
      have told : traffic.syscall kernel fuel regs { regs with eax := 0 }
          ((kernel.setMemory (writeMessage kernel.memory regs.ebx message)).setInbox kernel.currentProcess inbox) =
            traffic.take kernel.currentProcess message := by
        have copied : (readMessage (writeMessage kernel.memory regs.ebx message) regs.ebx).1 = message :=
          readMessage_writeMessage words (isValidPointer_aligned pointer)
        simp only [Traffic.syscall, if_neg notSend, if_pos number]
        exact congrArg (traffic.take kernel.currentProcess) copied
      rw [told]
      exact booked.take member received fun process => setInbox_inbox

theorem Exchanged.booked (exchanged : Exchanged kernel fuel regs regs' after) (wired : Wired kernel created)
    (booked : Booked kernel created traffic) : Booked after created (traffic.syscall kernel fuel regs regs' after) := by
  cases exchanged with
  | send number sent => exact sent.booked wired booked number
  | recv number received => exact received.booked wired parked_processes booked (Or.inl number)
  | poll number received => exact received.booked wired rfl booked (Or.inr number)
  | nothing number untouched =>
      simp only [List.mem_cons, List.not_mem_nil, or_false, not_or] at number
      have told : traffic.syscall kernel fuel regs regs' after = traffic := by simp [Traffic.syscall, number]
      rw [told]
      exact booked.of_processes untouched.processes

theorem InputSent.booked (sent : InputSent kernel fuel message after) (wired : Wired kernel created)
    (booked : Booked kernel created traffic) (words : Words message) :
    Booked after created (traffic.input kernel fuel message) := by
  cases sent with
  | absent found =>
      simp only [Traffic.input, found, Option.getD_some, true_or, if_true]
      exact booked
  | full target found nonNull refused =>
      have isFull := messageQueueEnqueue_none.mp refused
      simp only [Traffic.input, found, Option.getD_some, isFull, or_true, if_true]
      exact booked.of_processes wake_processes
  | delivered target inbox found nonNull queued =>
      have notFull : ¬ (target = 0 ∨ messageQueueIsFull (kernel.processes target).inbox = true) := by
        rintro (null | isFull)
        · exact nonNull null
        · rw [messageQueueEnqueue_none.mpr isFull] at queued
          cases queued
      simp only [Traffic.input, found, Option.getD_some, if_neg notFull]
      refine booked.accept (wired.found found nonNull) queued words fun process => ?_
      rw [wake_processes]
      exact setInbox_inbox

/-- Where there is a process list, there is a current process. -/
def Started (kernel : Kernel) : Prop := kernel.processListHead ≠ 0 → kernel.currentProcess ≠ 0

theorem Started.steady {before : Kernel} (started : Started before) (steady : Steady before after) : Started after := by
  rw [Started, steady.processListHead, steady.currentProcess]
  exact started

/-- The sender of a request is a process. -/
theorem gfxSendRequest_booked {type data1 data2 : Nat} {result : Int} (wired : Wired kernel created)
    (started : Started kernel) (booked : Booked kernel created traffic)
    (typed : type < 2 ^ 32 ∧ data1 < 2 ^ 32 ∧ data2 < 2 ^ 32)
    (done : kernel.gfxSendRequest fuel type data1 data2 = some (result, after)) :
    Booked after created (traffic.request kernel fuel type data1 data2 result) := by
  simp only [Kernel.gfxSendRequest] at done
  by_cases closed : !kernel.gfxClient.connected ∨ kernel.gfxClient.serverPid = 0
  · rw [if_pos closed] at done
    cases done
    exact booked
  · rw [if_neg closed] at done
    obtain ⟨server, found, done⟩ := Option.map_eq_some_iff.mp done
    by_cases null : server = 0
    · rw [if_pos null] at done
      cases done
      exact booked
    · rw [if_neg null] at done
      have member : server ∈ created := wired.found found null
      have nonempty : kernel.processListHead ≠ 0 := by
        intro empty
        rw [Kernel.processFindByPid, if_pos empty] at found
        exact null (Option.some.inj found).symm
      have current : kernel.processGetCurrent ∈ created := wired.current.resolve_left (started nonempty)
      have words : Words { senderPid := (kernel.processes kernel.processGetCurrent).pid, type, data1, data2 } :=
        ⟨wired.pid _ current, typed.1, typed.2.1, typed.2.2⟩
      cases queued : messageQueueEnqueue (kernel.processes server).inbox
          { senderPid := (kernel.processes kernel.processGetCurrent).pid, type, data1, data2 } with
      | none =>
          rw [queued] at done
          cases done
          exact booked
      | some inbox =>
          rw [queued] at done
          cases done
          simp only [Traffic.request, if_true, found, Option.getD_some]
          exact booked.accept member queued words fun process => setInbox_inbox

/-- What holds of the recorded system after every step. -/
structure Accounted (state : Recorded) : Prop where
  wired : Wired state.system.kernel state.system.created
  started : Started state.system.kernel
  booked : Booked state.system.kernel state.system.created state.traffic

theorem initialRecorded_accounted : Accounted (initialRecorded kernel) :=
  ⟨initialSystem_wired, fun nonempty => absurd rfl nonempty, initialRecorded_booked⟩

theorem Performed.started {system next : System} (performed : Performed fuel system action next)
    (started : Started system.kernel) : Started next.kernel := by
  cases performed with
  | tick currentEsp kernel ticked => exact started.steady ticked.steady
  | taskCreate task stack entryPoint result kernel made =>
      cases made with
      | failed _ untouched => exact started.steady untouched.steady
      | made _ nonNull steady processes allocated state => exact started.steady steady
  | processFailed blocks entryPoint kernel failed =>
      rw [Started, failed.processListHead, failed.currentProcess]
      exact started
  | processMade blocks entryPoint kernel made =>
      intro nonempty
      rw [made.currentProcess]
      split
      · exact made.processNonNull
      · next earlier => exact started earlier
  | processSwitch next kernel switched =>
      intro nonempty
      rw [switched.currentProcess]
      split
      · exact started (switched.processListHead ▸ nonempty)
      · assumption
  | syscall block regs regs' kernel exchanged => exact started.steady exchanged.steady
  | keyEvent type keycode msg kernel sent => exact started.steady sent.steady
  | mouseEvent type button x y msg kernel sent => exact started.steady sent.steady
  | gfxConnect kernel untouched => exact started.steady untouched.steady
  | gfxDisconnect kernel untouched => exact started.steady untouched.steady
  | gfxRequest type data1 data2 kernel requested => exact started.steady requested.steady

theorem packCoordinates_lt {x y : Nat} : Kernel.packCoordinates x y < 2 ^ 32 :=
  Nat.or_lt_two_pow (Nat.mod_lt _ (by decide)) (by omega)

theorem Accounted.perform {state next : Recorded} (accounted : Accounted state) (allowed : Allowed fuel state action)
    (done : performRecorded statics fuel state action = some next) : Accounted next := by
  obtain ⟨wired, started, booked⟩ := accounted
  obtain ⟨valid, typed⟩ := allowed
  obtain ⟨system, performs, rfl⟩ := Option.map_eq_some_iff.mp done
  have performed := perform_performed valid performs
  refine ⟨wired.performed valid performed, performed.started started, ?_⟩
  cases action with
  | tick currentEsp =>
      obtain ⟨result, ticks, rfl⟩ := Option.map_eq_some_iff.mp performs
      exact booked.of_processes (taskSchedulerTick_ticked ticks).processes
  | taskCreate task stack entryPoint =>
      obtain ⟨⟨result, kernel⟩, creates, rfl⟩ := Option.map_eq_some_iff.mp performs
      cases taskCreate_made valid.1.fresh creates with
      | failed _ untouched => exact booked.of_processes untouched.processes
      | made _ nonNull steady processes allocated state => exact booked.of_processes processes
  | processCreate blocks entryPoint =>
      have granted : BlocksGranted state.system.kernel blocks := valid
      have isNew : blocks.process ∉ state.system.created := wired.fresh granted.process.fresh
      cases performed with
      | processFailed _ _ kernel failed =>
          exact booked.of_inbox fun process member => congrArg Process.inbox
            (failed.processes process fun same => isNew (same ▸ member))
      | processMade _ _ kernel made => exact booked.made isNew made
  | processSwitch next =>
      obtain ⟨kernel, switches, rfl⟩ := Option.map_eq_some_iff.mp performs
      exact booked.of_processes (processSwitch_switched switches).processes
  | syscall block regs =>
      obtain ⟨⟨regs', kernel⟩, handles, rfl⟩ := Option.map_eq_some_iff.mp performs
      simp only [Traffic.record, handles, Option.elim_some]
      exact (syscallHandler_handled handles).exchanged.booked wired booked
  | keyEvent type keycode =>
      obtain ⟨kernel, sends, rfl⟩ := Option.map_eq_some_iff.mp performs
      exact (sendInput_sent sends).booked wired booked ⟨Nat.two_pow_pos 32, typed.1, typed.2, Nat.two_pow_pos 32⟩
  | mouseEvent type button x y =>
      obtain ⟨kernel, sends, rfl⟩ := Option.map_eq_some_iff.mp performs
      exact (sendInput_sent sends).booked wired booked ⟨Nat.two_pow_pos 32, typed.1, typed.2, packCoordinates_lt⟩
  | gfxConnect =>
      cases performs
      exact booked.of_processes rfl
  | gfxDisconnect =>
      cases performs
      exact booked.of_processes rfl
  | gfxRequest type data1 data2 =>
      obtain ⟨⟨result, kernel⟩, requests, rfl⟩ := Option.map_eq_some_iff.mp performs
      simp only [Traffic.record, requests, Option.elim_some]
      exact gfxSendRequest_booked wired started booked typed requests

/-- In every run the messages that a process was sent are those that it read, in the same order,
and then those that wait in its inbox. -/
theorem run_delivered_once {after : Recorded}
    (run : Restricted (performRecorded statics fuel) (Allowed fuel) (initialRecorded kernel) actions after) (process : Nat) :
    (process ∈ after.system.created → after.traffic.accepted process =
      after.traffic.taken process ++ (after.system.kernel.processes process).inbox.pending) ∧
    (process ∉ after.system.created → after.traffic.accepted process = [] ∧ after.traffic.taken process = []) := by
  have accounted : Accounted after :=
    run.invariant Accounted (fun _ _ _ holds step => holds.perform step.1 step.2) initialRecorded_accounted
  exact ⟨fun member => (accounted.booked.ledger process member).balanced, accounted.booked.others process⟩

/-- A message and a key reach the second process, which takes the message. -/
def sharedActions : List Action :=
  [.processCreate firstBlocks 0x101000, .processCreate secondBlocks 0x102000,
    .syscall 0 { eax := sysSend, ebx := 1, ecx := 0x300000 }, .keyEvent 1 97, .processSwitch secondBlocks.process,
    .syscall 0 { eax := sysRecv, ebx := 0x300010, ecx := 0 }]

theorem run_delivered_once_shared :
    ∃ after, Restricted (performRecorded lowStatics 4) (Allowed 4) (initialRecorded emptyKernel) sharedActions after ∧
      (after.traffic.accepted secondBlocks.process).length = 2 ∧
      (after.traffic.taken secondBlocks.process).length = 1 ∧
      after.traffic.accepted secondBlocks.process = after.traffic.taken secondBlocks.process ++
        (after.system.kernel.processes secondBlocks.process).inbox.pending := by
  obtain ⟨after, run, member, accepted, taken⟩ : ∃ after,
      Restricted (performRecorded lowStatics 4) (Allowed 4) (initialRecorded emptyKernel) sharedActions after ∧
      secondBlocks.process ∈ after.system.created ∧ (after.traffic.accepted secondBlocks.process).length = 2 ∧
      (after.traffic.taken secondBlocks.process).length = 1 := by
    refine ⟨_, .cons ⟨⟨show BlocksGranted _ _ from ?_, trivial⟩, rfl⟩
      (.cons ⟨⟨show BlocksGranted _ _ from ?_, trivial⟩, rfl⟩
        (.cons ⟨⟨⟨PointsInside.contained ?_, nofun⟩, trivial⟩, rfl⟩ (.cons ⟨⟨trivial, by decide, by decide⟩, rfl⟩
          (.cons ⟨⟨Or.inr ?_, trivial⟩, rfl⟩ (.cons ⟨⟨⟨PointsInside.contained ?_, nofun⟩, trivial⟩, rfl⟩
            (.nil _)))))), ?_, ?_, ?_⟩
    all_goals decide +kernel
  exact ⟨after, run, accepted, taken, (run_delivered_once run secondBlocks.process).1 member⟩

end AutismOS.Processes
