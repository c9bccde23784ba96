import AutismOS.Processes.Events

namespace AutismOS.Processes

open AutismOS.Library AutismOS.Ipc AutismOS.Memory

variable {kernel after : Kernel} {regs regs' : Registers} {fuel block target : Nat} {message : Message}

/-! # What a call can do

Each call is described once, with the state that it leaves; what follows is proved from
these descriptions. -/

/-- The pid that is written into a message. -/
def Kernel.senderPid (kernel : Kernel) : Nat :=
  if kernel.currentProcess ≠ 0 then (kernel.processes kernel.currentProcess).pid else 0

/-- Caller memory after `msg->sender_pid` was set. -/
def Kernel.stamped (kernel : Kernel) (msg : Nat) : TracedMemory := kernel.memory.storeWord msg kernel.senderPid

/-- The message at `msg` after that. -/
def Kernel.stampedMessage (kernel : Kernel) (msg : Nat) : Message := (readMessage (kernel.stamped msg) msg).1

theorem stampedMessage_senderPid {msg : Nat} (small : kernel.senderPid < 2 ^ 32) :
    (kernel.stampedMessage msg).senderPid = kernel.senderPid :=
  ByteMemory.loadWord_storeWord_same small

/-- The process list is empty or a ring of at most `fuel` processes. -/
def Ringed (kernel : Kernel) (fuel : Nat) : Prop :=
  kernel.processListHead = 0 ∨ ∃ nodes : List Nat, nodes.length ≤ fuel ∧
    Ring.Closed (fun process => (kernel.processes process).next) kernel.processListHead nodes

theorem processFindByPid_returns {pid : Nat} (ringed : Ringed kernel fuel) :
    ∃ target, kernel.processFindByPid fuel pid = some target := by
  rw [Kernel.processFindByPid]
  by_cases empty : kernel.processListHead = 0
  · exact ⟨0, if_pos empty⟩
  · rw [if_neg empty]
    obtain ⟨nodes, enough, ring⟩ := ringed.resolve_left empty
    exact ⟨_, congrArg (Option.map _) (ring.find enough)⟩

/-- Every system call returns when the process list is a ring. -/
theorem syscallHandler_returns (ringed : Ringed kernel fuel) :
    ∃ regs' after, kernel.syscallHandler fuel block regs = some (regs', after) := by
  have sends : ∃ result, kernel.syscallSend fuel regs = some result := by
    obtain ⟨target, found⟩ : ∃ target, kernel.processFindByPid fuel regs.ebx = some target :=
      processFindByPid_returns ringed
    rw [Kernel.syscallSend]
    split
    · exact ⟨_, rfl⟩
    · exact ⟨_, congrArg (Option.map _) found⟩
  unfold Kernel.syscallHandler
  split
  · exact ⟨_, _, rfl⟩
  split
  · obtain ⟨result, done⟩ := sends
    exact ⟨result.1, result.2, done⟩
  repeat (split; · exact ⟨_, _, rfl⟩)
  exact ⟨_, _, rfl⟩

theorem printString_succ {str count : Nat} :
    kernel.printString str (count + 1) =
      if kernel.memory.bytes.loadByte str = 0 then kernel.setMemory (kernel.memory.touch str 1)
      else ((kernel.setMemory (kernel.memory.touch str 1)).print
        (.char (kernel.memory.bytes.loadByte str))).printString (str + 1) count := rfl

/-- A process is woken only from waiting. -/
inductive Woken (kernel : Kernel) (target : Nat) : Kernel → Prop where
  | asleep (nonNull : (kernel.processes target).mainThread ≠ 0)
      (waits : (kernel.tasks (kernel.processes target).mainThread).state = .waiting) :
      Woken kernel target (kernel.setTaskState (kernel.processes target).mainThread .ready)
  | awake (other : (kernel.processes target).mainThread = 0 ∨
      (kernel.tasks (kernel.processes target).mainThread).state ≠ .waiting) : Woken kernel target kernel

theorem wake_woken : Woken kernel target (kernel.wake target) := by
  simp only [Kernel.wake]
  by_cases asleep : (kernel.processes target).mainThread ≠ 0 ∧
      (kernel.tasks (kernel.processes target).mainThread).state = .waiting
  · rw [if_pos asleep]
    exact .asleep asleep.1 asleep.2
  · rw [if_neg asleep]
    refine .awake ?_
    by_cases null : (kernel.processes target).mainThread = 0
    · exact Or.inl null
    · exact Or.inr fun waits => asleep ⟨null, waits⟩

/-- The outcomes of `SYS_SEND`. -/
inductive Sent (kernel : Kernel) (fuel : Nat) (regs : Registers) : Registers → Kernel → Prop where
  | invalid (pointer : isValidPointer regs.ecx messageSize = false) :
      Sent kernel fuel regs { regs with eax := failure } kernel
  | absent (pointer : isValidPointer regs.ecx messageSize = true)
      (found : kernel.processFindByPid fuel regs.ebx = some 0) :
      Sent kernel fuel regs { regs with eax := failure } kernel
  | full (target : Nat) (pointer : isValidPointer regs.ecx messageSize = true)
      (found : kernel.processFindByPid fuel regs.ebx = some target) (nonNull : target ≠ 0)
      (isFull : messageQueueIsFull (kernel.processes target).inbox = true) :
      Sent kernel fuel regs { regs with eax := failure } (kernel.setMemory (kernel.stamped regs.ecx))
  | delivered (target : Nat) (inbox : MessageQueue) (pointer : isValidPointer regs.ecx messageSize = true)
      (found : kernel.processFindByPid fuel regs.ebx = some target) (nonNull : target ≠ 0)
      (isFull : messageQueueIsFull (kernel.processes target).inbox = false)
      (queued : messageQueueEnqueue (kernel.processes target).inbox (kernel.stampedMessage regs.ecx) = some inbox) :
      Sent kernel fuel regs { regs with eax := 0 }
        (((kernel.setMemory ((kernel.stamped regs.ecx).touch regs.ecx messageSize)).setInbox target inbox).wake target)

theorem syscallSend_eq :
    kernel.syscallSend fuel regs =
      if !isValidPointer regs.ecx messageSize then some ({ regs with eax := failure }, kernel)
      else (kernel.processFindByPid fuel regs.ebx).map fun target =>
        if target = 0 then ({ regs with eax := failure }, kernel)
        else if messageQueueIsFull (kernel.processes target).inbox then
          ({ regs with eax := failure }, kernel.setMemory (kernel.stamped regs.ecx))
        else match messageQueueEnqueue (kernel.processes target).inbox (kernel.stampedMessage regs.ecx) with
          | none => ({ regs with eax := failure },
              kernel.setMemory ((kernel.stamped regs.ecx).touch regs.ecx messageSize))
          | some inbox => ({ regs with eax := 0 },
              ((kernel.setMemory ((kernel.stamped regs.ecx).touch regs.ecx messageSize)).setInbox target inbox).wake
                target) := rfl

theorem syscallSend_sent (done : kernel.syscallSend fuel regs = some (regs', after)) :
    Sent kernel fuel regs regs' after := by
  rw [syscallSend_eq] at done
  cases pointer : isValidPointer regs.ecx messageSize with
  | false =>
      rw [pointer] at done
      cases done
      exact .invalid pointer
  | true =>
      rw [pointer] at done
      obtain ⟨target, found, done⟩ := Option.map_eq_some_iff.mp done
      by_cases null : target = 0
      · subst null
        cases done
        exact .absent pointer found
      · rw [if_neg null] at done
        cases isFull : messageQueueIsFull (kernel.processes target).inbox with
        | true =>
            rw [isFull] at done
            cases done
            exact .full target pointer found null isFull
        | false =>
            rw [isFull] at done
            cases queued : messageQueueEnqueue (kernel.processes target).inbox (kernel.stampedMessage regs.ecx) with
            | none =>
                rw [messageQueueEnqueue_none, isFull] at queued
                cases queued
            | some inbox =>
                rw [queued] at done
                cases done
                exact .delivered target inbox pointer found null isFull queued

/-- The outcomes that `SYS_RECV` and `SYS_POLL` share; `idle` is what is left of the kernel
when there is no message. -/
inductive Received (kernel idle : Kernel) (regs : Registers) : Registers → Kernel → Prop where
  | invalid (pointer : isValidPointer regs.ebx messageSize = false) :
      Received kernel idle regs { regs with eax := failure } kernel
  | nobody (pointer : isValidPointer regs.ebx messageSize = true) (current : kernel.currentProcess = 0) :
      Received kernel idle regs { regs with eax := failure } kernel
  | message (message : Message) (inbox : MessageQueue) (pointer : isValidPointer regs.ebx messageSize = true)
      (current : kernel.currentProcess ≠ 0)
      (taken : messageQueueDequeue (kernel.processes kernel.currentProcess).inbox = some (message, inbox)) :
      Received kernel idle regs { regs with eax := 0 }
        ((kernel.setMemory (writeMessage kernel.memory regs.ebx message)).setInbox kernel.currentProcess inbox)
  | empty (pointer : isValidPointer regs.ebx messageSize = true) (current : kernel.currentProcess ≠ 0)
      (none : messageQueueDequeue (kernel.processes kernel.currentProcess).inbox = none) :
      Received kernel idle regs { regs with eax := failure } idle

/-- The kernel after the main thread of the current process started to wait. -/
def Kernel.parked (kernel : Kernel) : Kernel :=
  let mainThread := (kernel.processes kernel.currentProcess).mainThread
  if mainThread ≠ 0 then kernel.setTaskState mainThread .waiting else kernel

theorem receive_eq {current msg : Nat} :
    kernel.receive current msg =
      (messageQueueDequeue (kernel.processes current).inbox).map fun (message, inbox) =>
        (kernel.setMemory (writeMessage kernel.memory msg message)).setInbox current inbox := rfl

/-- Both calls check the pointer and the process, and differ only where there is no message. -/
theorem received_of_eq {idle : Kernel} {result : Registers × Kernel}
    (isResult : result =
      if !isValidPointer regs.ebx messageSize then ({ regs with eax := failure }, kernel)
      else if kernel.currentProcess = 0 then ({ regs with eax := failure }, kernel)
      else match kernel.receive kernel.currentProcess regs.ebx with
        | some kernel => ({ regs with eax := 0 }, kernel)
        | none => ({ regs with eax := failure }, idle)) :
    Received kernel idle regs result.1 result.2 := by
  subst isResult
  cases pointer : isValidPointer regs.ebx messageSize with
  | false => exact .invalid pointer
  | true =>
      rw [if_neg (by simp)]
      by_cases current : kernel.currentProcess = 0
      · rw [if_pos current]
        exact .nobody pointer current
      · rw [if_neg current, receive_eq]
        cases taken : messageQueueDequeue (kernel.processes kernel.currentProcess).inbox with
        | none => exact .empty pointer current taken
        | some result => exact .message result.1 result.2 pointer current taken

theorem syscallRecv_received (done : kernel.syscallRecv regs = (regs', after)) :
    Received kernel kernel.parked regs regs' after := by
  have received : Received kernel kernel.parked regs (kernel.syscallRecv regs).1 (kernel.syscallRecv regs).2 :=
    received_of_eq rfl
  rwa [done] at received

theorem syscallPoll_received (done : kernel.syscallPoll regs = (regs', after)) :
    Received kernel kernel regs regs' after := by
  have received : Received kernel kernel regs (kernel.syscallPoll regs).1 (kernel.syscallPoll regs).2 :=
    received_of_eq rfl
  rwa [done] at received

/-- The calls that `syscall_handler` tells apart. -/
inductive Handled (kernel : Kernel) (fuel block : Nat) (regs regs' : Registers) (after : Kernel) : Prop where
  | write (number : regs.eax = sysWrite) (done : kernel.syscallWrite regs = (regs', after))
  | send (number : regs.eax = sysSend) (sent : Sent kernel fuel regs regs' after)
  | recv (number : regs.eax = sysRecv) (received : Received kernel kernel.parked regs regs' after)
  | poll (number : regs.eax = sysPoll) (received : Received kernel kernel regs regs' after)
  | shmCreate (number : regs.eax = sysShmCreate) (done : kernel.syscallShmCreate block regs = (regs', after))
  | shmMap (number : regs.eax = sysShmMap) (done : kernel.syscallShmMap regs = (regs', after))
  | shmUnmap (number : regs.eax = sysShmUnmap) (done : kernel.syscallShmUnmap regs = (regs', after))
  | unknown (number : regs.eax ∉ [sysWrite, sysSend, sysRecv, sysPoll, sysShmCreate, sysShmMap, sysShmUnmap])
      (done : kernel.unknownSyscall regs = (regs', after))

theorem syscallHandler_handled (done : kernel.syscallHandler fuel block regs = some (regs', after)) :
    Handled kernel fuel block regs regs' after := by
  unfold Kernel.syscallHandler at done
  by_cases isWrite : regs.eax = sysWrite
  · rw [if_pos isWrite] at done
    exact .write isWrite (Option.some.inj done)
  rw [if_neg isWrite] at done
  by_cases isSend : regs.eax = sysSend
  · rw [if_pos isSend] at done
    exact .send isSend (syscallSend_sent done)
  rw [if_neg isSend] at done
  by_cases isRecv : regs.eax = sysRecv
  · rw [if_pos isRecv] at done
    exact .recv isRecv (syscallRecv_received (Option.some.inj done))
  rw [if_neg isRecv] at done
  by_cases isPoll : regs.eax = sysPoll
  · rw [if_pos isPoll] at done
    exact .poll isPoll (syscallPoll_received (Option.some.inj done))
  rw [if_neg isPoll] at done
  by_cases isCreate : regs.eax = sysShmCreate
  · rw [if_pos isCreate] at done
    exact .shmCreate isCreate (Option.some.inj done)
  rw [if_neg isCreate] at done
  by_cases isMap : regs.eax = sysShmMap
  · rw [if_pos isMap] at done
    exact .shmMap isMap (Option.some.inj done)
  rw [if_neg isMap] at done
  by_cases isUnmap : regs.eax = sysShmUnmap
  · rw [if_pos isUnmap] at done
    exact .shmUnmap isUnmap (Option.some.inj done)
  rw [if_neg isUnmap] at done
  refine .unknown ?_ (Option.some.inj done)
  simp [isWrite, isSend, isRecv, isPoll, isCreate, isMap, isUnmap]

end AutismOS.Processes
