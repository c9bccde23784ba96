import AutismOS.Processes.Outcomes

namespace AutismOS.Processes

open AutismOS.Library AutismOS.Ipc AutismOS.Memory

variable {statics : Statics} {kernel before middle after : Kernel} {regs regs' : Registers} {msg : Message}
variable {fuel block target task process currentEsp next entryPoint : Nat} {blocks : Kernel.Blocks}

/-- The processes are the same, apart from their inboxes, and so is the current one. -/
structure Steady (before after : Kernel) : Prop where
  pid : ∀ process, (after.processes process).pid = (before.processes process).pid
  mainThread : ∀ process, (after.processes process).mainThread = (before.processes process).mainThread
  next : ∀ process, (after.processes process).next = (before.processes process).next
  currentProcess : after.currentProcess = before.currentProcess
  processListHead : after.processListHead = before.processListHead
  nextPid : after.nextPid = before.nextPid
  live : before.live ⊆ after.live

theorem Steady.refl : Steady kernel kernel :=
  ⟨fun _ => rfl, fun _ => rfl, fun _ => rfl, rfl, rfl, rfl, subset_refl _⟩

theorem Steady.trans (first : Steady before middle) (second : Steady middle after) : Steady before after :=
  ⟨fun process => (second.pid process).trans (first.pid process),
    fun process => (second.mainThread process).trans (first.mainThread process),
    fun process => (second.next process).trans (first.next process),
    second.currentProcess.trans first.currentProcess, second.processListHead.trans first.processListHead,
    second.nextPid.trans first.nextPid, first.live.trans second.live⟩

/-- Edits of anything but processes and the list of blocks. -/
theorem steady_of_eq (processes : after.processes = before.processes)
    (currentProcess : after.currentProcess = before.currentProcess)
    (processListHead : after.processListHead = before.processListHead) (nextPid : after.nextPid = before.nextPid)
    (live : before.live ⊆ after.live) : Steady before after :=
  ⟨fun _ => by rw [processes], fun _ => by rw [processes], fun _ => by rw [processes], currentProcess,
    processListHead, nextPid, live⟩

theorem setTask_steady {content : Task} : Steady kernel (kernel.setTask task content) :=
  steady_of_eq rfl rfl rfl rfl (subset_refl _)

theorem setMemory_steady {memory : TracedMemory} : Steady kernel (kernel.setMemory memory) :=
  steady_of_eq rfl rfl rfl rfl (subset_refl _)

theorem setInbox_processes {inbox : MessageQueue} :
    (kernel.setInbox target inbox).processes process =
      if process = target then { kernel.processes target with inbox } else kernel.processes process := by
  simp only [Kernel.setInbox, Kernel.setProcess, Function.update_apply]

theorem setInbox_steady {inbox : MessageQueue} : Steady kernel (kernel.setInbox target inbox) := by
  refine ⟨fun process => ?_, fun process => ?_, fun process => ?_, rfl, rfl, rfl, subset_refl _⟩
  all_goals
    rw [setInbox_processes]
    by_cases same : process = target
    · rw [if_pos same, same]
    · rw [if_neg same]

theorem setInbox_inbox {inbox : MessageQueue} :
    ((kernel.setInbox target inbox).processes process).inbox =
      if process = target then inbox else (kernel.processes process).inbox := by
  rw [setInbox_processes]
  split
  · rfl
  · rfl

theorem Woken.processes (woken : Woken kernel target after) : after.processes = kernel.processes := by
  cases woken with
  | asleep nonNull waits => rfl
  | awake other => rfl

theorem wake_processes : (kernel.wake target).processes = kernel.processes := wake_woken.processes

theorem Woken.steady (woken : Woken kernel target after) : Steady kernel after := by
  cases woken with
  | asleep nonNull waits => exact setTask_steady
  | awake other => exact .refl

theorem parked_processes : kernel.parked.processes = kernel.processes := by
  simp only [Kernel.parked]
  split
  · rfl
  · rfl

theorem parked_steady : Steady kernel kernel.parked := by
  simp only [Kernel.parked]
  split
  · exact setTask_steady
  · exact .refl

/-- An allocation changes only what is in use. -/
theorem kmalloc_eq : kernel.kmalloc block = { kernel with live := (kernel.kmalloc block).live } := by
  rw [Kernel.kmalloc]
  split
  · rfl
  · rfl

theorem kmalloc_steady : Steady kernel (kernel.kmalloc block) := by
  simp only [Kernel.kmalloc]
  split
  · exact .refl
  · exact steady_of_eq rfl rfl rfl rfl (Finset.subset_insert _ _)

theorem Sent.steady (sent : Sent kernel fuel regs regs' after) : Steady kernel after := by
  cases sent with
  | invalid pointer => exact .refl
  | absent pointer found => exact .refl
  | full target pointer found nonNull isFull => exact setMemory_steady
  | delivered target inbox pointer found nonNull isFull queued =>
      exact (setMemory_steady.trans setInbox_steady).trans wake_woken.steady

theorem Received.steady {idle : Kernel} (received : Received kernel idle regs regs' after)
    (waits : Steady kernel idle) : Steady kernel after := by
  cases received with
  | invalid pointer => exact .refl
  | nobody pointer current => exact .refl
  | message message inbox pointer current taken => exact setMemory_steady.trans setInbox_steady
  | empty pointer current none => exact waits

/-- Tasks and processes are exactly the same. -/
structure Untouched (before after : Kernel) : Prop where
  steady : Steady before after
  tasks : after.tasks = before.tasks
  processes : after.processes = before.processes
  currentTask : after.currentTask = before.currentTask

theorem Untouched.trans (first : Untouched before middle) (second : Untouched middle after) : Untouched before after :=
  ⟨first.steady.trans second.steady, second.tasks.trans first.tasks, second.processes.trans first.processes,
    second.currentTask.trans first.currentTask⟩

theorem setMemory_untouched {memory : TracedMemory} : Untouched kernel (kernel.setMemory memory) :=
  ⟨setMemory_steady, rfl, rfl, rfl⟩

theorem print_untouched {output : Output} : Untouched kernel (kernel.print output) := 
  ⟨steady_of_eq rfl rfl rfl rfl (subset_refl _), rfl, rfl, rfl⟩

theorem kmalloc_untouched : Untouched kernel (kernel.kmalloc block) := by
  refine ⟨kmalloc_steady, ?_, ?_, ?_⟩
  all_goals rw [kmalloc_eq]

theorem setShm_untouched {shm : Shm} : Untouched kernel (kernel.setShm shm) :=
  ⟨steady_of_eq rfl rfl rfl rfl (subset_refl _), rfl, rfl, rfl⟩

theorem Untouched.refl : Untouched kernel kernel := ⟨.refl, rfl, rfl, rfl⟩

theorem printString_untouched {str count : Nat} : Untouched kernel (kernel.printString str count) := by
  induction count generalizing kernel str with
  | zero => exact .refl
  | succ count ih =>
      rw [printString_succ]
      split
      · exact setMemory_untouched
      · exact (setMemory_untouched.trans print_untouched).trans ih

theorem syscallWrite_untouched : Untouched kernel (kernel.syscallWrite regs).2 := by
  simp only [Kernel.syscallWrite]
  split
  · simp only [Kernel.printInvalidPointer]
    split
    · exact (print_untouched.trans print_untouched).trans print_untouched
    · exact (print_untouched.trans print_untouched).trans print_untouched
  · exact printString_untouched

theorem syscallShmCreate_untouched : Untouched kernel (kernel.syscallShmCreate block regs).2 := by
  simp only [Kernel.syscallShmCreate]
  split
  · exact .refl
  · exact (kmalloc_untouched.trans setMemory_untouched).trans setShm_untouched

theorem syscallShmMap_untouched : Untouched kernel (kernel.syscallShmMap regs).2 := by
  simp only [Kernel.syscallShmMap]
  split
  · exact .refl
  · split
    · exact .refl
    · exact setMemory_untouched.trans setShm_untouched

theorem syscallShmUnmap_untouched : Untouched kernel (kernel.syscallShmUnmap regs).2 := by
  simp only [Kernel.syscallShmUnmap]
  split
  · exact .refl
  · exact setShm_untouched

/-- What a system call is for the processes: a send, a receive, or nothing. -/
inductive Exchanged (kernel : Kernel) (fuel : Nat) (regs regs' : Registers) (after : Kernel) : Prop where
  | send (number : regs.eax = sysSend) (sent : Sent kernel fuel regs regs' after)
  | recv (number : regs.eax = sysRecv) (received : Received kernel kernel.parked regs regs' after)
  | poll (number : regs.eax = sysPoll) (received : Received kernel kernel regs regs' after)
  | nothing (number : regs.eax ∉ [sysSend, sysRecv, sysPoll]) (untouched : Untouched kernel after)

theorem Handled.exchanged (handled : Handled kernel fuel block regs regs' after) :
    Exchanged kernel fuel regs regs' after := by
  cases handled with
  | send number sent => exact .send number sent
  | recv number received => exact .recv number received
  | poll number received => exact .poll number received
  | write number done =>
      have untouched : Untouched kernel (kernel.syscallWrite regs).2 := syscallWrite_untouched
      rw [done] at untouched
      exact .nothing (by rw [number]; decide) untouched
  | shmCreate number done =>
      have untouched : Untouched kernel (kernel.syscallShmCreate block regs).2 := syscallShmCreate_untouched
      rw [done] at untouched
      exact .nothing (by rw [number]; decide) untouched
  | shmMap number done =>
      have untouched : Untouched kernel (kernel.syscallShmMap regs).2 := syscallShmMap_untouched
      rw [done] at untouched
      exact .nothing (by rw [number]; decide) untouched
  | shmUnmap number done =>
      have untouched : Untouched kernel (kernel.syscallShmUnmap regs).2 := syscallShmUnmap_untouched
      rw [done] at untouched
      exact .nothing (by rw [number]; decide) untouched
  | unknown number done =>
      cases done
      refine .nothing ?_ ((print_untouched.trans print_untouched).trans print_untouched)
      simp only [List.mem_cons, List.not_mem_nil, or_false, not_or] at number ⊢
      exact ⟨number.2.1, number.2.2.1, number.2.2.2.1⟩

theorem Exchanged.steady (exchanged : Exchanged kernel fuel regs regs' after) : Steady kernel after := by
  cases exchanged with
  | send number sent => exact sent.steady
  | recv number received => exact received.steady parked_steady
  | poll number received => exact received.steady .refl
  | nothing number untouched => exact untouched.steady

def Kernel.counted (kernel : Kernel) : Kernel := { kernel with timerTicks := (kernel.timerTicks + 1) % 2 ^ 64 }

/-- The state in which the tick looks for the next task. -/
def Kernel.saved (kernel : Kernel) (currentEsp : Nat) : Kernel :=
  kernel.counted.setTask kernel.currentTask
    { kernel.tasks kernel.currentTask with esp := currentEsp, state := .ready }

/-- The outcomes of a tick. -/
inductive Ticked (kernel : Kernel) (currentEsp : Nat) : Kernel → Prop where
  | alone (others : kernel.hasOther = false) : Ticked kernel currentEsp kernel.counted
  | started (others : kernel.hasOther = true) (running : kernel.schedulerStarted = false) :
      Ticked kernel currentEsp
        (Kernel.setTaskState { kernel.counted with schedulerStarted := true } kernel.currentTask .running)
  | switched (nextTask : Nat) (others : kernel.hasOther = true) (running : kernel.schedulerStarted = true)
      (selected : (kernel.saved currentEsp).runnable nextTask = true ∨ nextTask = kernel.currentTask) :
      Ticked kernel currentEsp
        (Kernel.setTaskState { kernel.saved currentEsp with currentTask := nextTask } nextTask .running)

theorem taskSchedulerTick_eq :
    kernel.taskSchedulerTick fuel currentEsp =
      if !kernel.hasOther then some (currentEsp, kernel.counted)
      else if !kernel.schedulerStarted then
        some ((kernel.tasks kernel.currentTask).esp,
          Kernel.setTaskState { kernel.counted with schedulerStarted := true } kernel.currentTask .running)
      else
        (Ring.skip (fun task => ((kernel.saved currentEsp).tasks task).next) (kernel.saved currentEsp).runnable
          kernel.currentTask fuel ((kernel.saved currentEsp).tasks kernel.currentTask).next).map fun nextTask =>
            (((Kernel.setTaskState { kernel.saved currentEsp with currentTask := nextTask } nextTask .running).tasks
              nextTask).esp,
              Kernel.setTaskState { kernel.saved currentEsp with currentTask := nextTask } nextTask .running) := by
  have esp : ((Kernel.setTaskState { kernel.counted with schedulerStarted := true } kernel.currentTask
      .running).tasks kernel.currentTask).esp = (kernel.tasks kernel.currentTask).esp := by
    simp [Kernel.setTaskState, Kernel.setTask, Kernel.counted]
  rw [← esp]
  rfl

theorem taskSchedulerTick_ticked {esp : Nat} (done : kernel.taskSchedulerTick fuel currentEsp = some (esp, after)) :
    Ticked kernel currentEsp after := by
  rw [taskSchedulerTick_eq] at done
  cases others : kernel.hasOther with
  | false =>
      rw [if_pos (by rw [others]; rfl)] at done
      cases done
      exact .alone others
  | true =>
      rw [if_neg (by rw [others]; decide)] at done
      cases running : kernel.schedulerStarted with
      | false =>
          rw [if_pos (by rw [running]; rfl)] at done
          cases done
          exact .started others running
      | true =>
          rw [if_neg (by rw [running]; decide)] at done
          obtain ⟨nextTask, walked, done⟩ := Option.map_eq_some_iff.mp done
          cases done
          exact .switched nextTask others running (Ring.skip_some walked)

theorem Ticked.steady (ticked : Ticked kernel currentEsp after) : Steady kernel after := by
  cases ticked with
  | alone others => exact steady_of_eq rfl rfl rfl rfl (subset_refl _)
  | started others running => exact steady_of_eq rfl rfl rfl rfl (subset_refl _)
  | switched nextTask others running selected => exact steady_of_eq rfl rfl rfl rfl (subset_refl _)

theorem Ticked.processes (ticked : Ticked kernel currentEsp after) : after.processes = kernel.processes := by
  cases ticked with
  | alone others => rfl
  | started others running => rfl
  | switched nextTask others running selected => rfl

theorem setTask_tasks {content : Task} {other : Nat} :
    (kernel.setTask task content).tasks other = if other = task then content else kernel.tasks other := by
  simp only [Kernel.setTask, Function.update_apply]

theorem setTaskState_state {state : TaskState} {other : Nat} :
    ((kernel.setTaskState task state).tasks other).state = if other = task then state else (kernel.tasks other).state := by
  rw [Kernel.setTaskState, setTask_tasks]
  split
  · rfl
  · rfl

theorem saved_state {other : Nat} :
    ((kernel.saved currentEsp).tasks other).state =
      if other = kernel.currentTask then .ready else (kernel.tasks other).state := by
  rw [Kernel.saved, setTask_tasks]
  split
  · rfl
  · rfl

/-- No task starts to wait in a tick. -/
theorem Ticked.waiting {other : Nat} (ticked : Ticked kernel currentEsp after)
    (waits : (after.tasks other).state = .waiting) : (kernel.tasks other).state = .waiting := by
  cases ticked with
  | alone others => exact waits
  | started others running =>
      rw [setTaskState_state] at waits
      split at waits
      · cases waits
      · exact waits
  | switched nextTask others running selected =>
      rw [setTaskState_state] at waits
      split at waits
      · cases waits
      · have before : ((kernel.saved currentEsp).tasks other).state = .waiting := waits
        rw [saved_state] at before
        split at before
        · cases before
        · exact before

/-- A tick that finds no other task leaves the tasks alone. -/
theorem Ticked.keeps {other : Nat} {state : TaskState} (ticked : Ticked kernel currentEsp after)
    (none : kernel.hasOther = false) (isState : (kernel.tasks other).state = state) :
    (after.tasks other).state = state := by
  cases ticked with
  | alone others => exact isState
  | started others running =>
      rw [others] at none
      cases none
  | switched nextTask others running selected =>
      rw [others] at none
      cases none

/-- A task that waits, and that the tick does not find current, is left alone. -/
theorem Ticked.spares {other : Nat} (ticked : Ticked kernel currentEsp after) (apart : other ≠ kernel.currentTask)
    (waits : (kernel.tasks other).state = .waiting) :
    (after.tasks other).state = .waiting ∧ after.currentTask ≠ other := by
  cases ticked with
  | alone others => exact ⟨waits, apart.symm⟩
  | started others running =>
      refine ⟨?_, apart.symm⟩
      rw [setTaskState_state, if_neg apart]
      exact waits
  | switched nextTask others running selected =>
      have before : ((kernel.saved currentEsp).tasks other).state = .waiting := by
        rw [saved_state, if_neg apart]
        exact waits
      have different : nextTask ≠ other := by
        intro same
        subst same
        rcases selected with runnable | isCurrent
        · simp [Kernel.runnable, before] at runnable
        · exact apart isCurrent
      refine ⟨?_, different⟩
      rw [setTaskState_state, if_neg different.symm]
      exact before

/-- The outcomes of both input functions. -/
inductive InputSent (kernel : Kernel) (fuel : Nat) (msg : Message) : Kernel → Prop where
  | absent (found : kernel.processFindByPid fuel kernel.inputTargetPid = some 0) : InputSent kernel fuel msg kernel
  | full (target : Nat) (found : kernel.processFindByPid fuel kernel.inputTargetPid = some target)
      (nonNull : target ≠ 0) (refused : messageQueueEnqueue (kernel.processes target).inbox msg = none) :
      InputSent kernel fuel msg (kernel.wake target)
  | delivered (target : Nat) (inbox : MessageQueue)
      (found : kernel.processFindByPid fuel kernel.inputTargetPid = some target) (nonNull : target ≠ 0)
      (queued : messageQueueEnqueue (kernel.processes target).inbox msg = some inbox) :
      InputSent kernel fuel msg ((kernel.setInbox target inbox).wake target)

theorem sendInput_sent (done : kernel.sendInput fuel msg = some after) : InputSent kernel fuel msg after := by
  obtain ⟨target, found, rfl⟩ := Option.map_eq_some_iff.mp done
  by_cases null : target = 0
  · subst null
    exact .absent found
  · rw [if_neg null]
    cases queued : messageQueueEnqueue (kernel.processes target).inbox msg with
    | none => exact .full target found null queued
    | some inbox => exact .delivered target inbox found null queued

theorem InputSent.steady (sent : InputSent kernel fuel msg after) : Steady kernel after := by
  cases sent with
  | absent found => exact .refl
  | full target found nonNull refused => exact wake_woken.steady
  | delivered target inbox found nonNull queued => exact setInbox_steady.trans wake_woken.steady

/-- The request reaches a server. -/
structure Reaches (kernel : Kernel) (fuel server : Nat) : Prop where
  connected : kernel.gfxClient.connected = true
  known : kernel.gfxClient.serverPid ≠ 0
  found : kernel.processFindByPid fuel kernel.gfxClient.serverPid = some server
  nonNull : server ≠ 0

/-- The outcomes of a request to the graphics server. -/
inductive Requested (kernel : Kernel) (fuel : Nat) : Kernel → Prop where
  | unreached (apart : ∀ server, ¬ Reaches kernel fuel server) : Requested kernel fuel kernel
  | full (server : Nat) (reaches : Reaches kernel fuel server)
      (isFull : messageQueueIsFull (kernel.processes server).inbox = true) : Requested kernel fuel kernel
  | delivered (server : Nat) (msg : Message) (inbox : MessageQueue) (reaches : Reaches kernel fuel server)
      (queued : messageQueueEnqueue (kernel.processes server).inbox msg = some inbox) :
      Requested kernel fuel (kernel.setInbox server inbox)

theorem gfxSendRequest_requested {type data1 data2 : Nat} {result : Int}
    (done : kernel.gfxSendRequest fuel type data1 data2 = some (result, after)) : Requested kernel fuel after := by
  simp only [Kernel.gfxSendRequest] at done
  by_cases closed : !kernel.gfxClient.connected ∨ kernel.gfxClient.serverPid = 0
  · rw [if_pos closed] at done
    cases done
    refine .unreached fun server reaches => ?_
    rcases closed with disconnected | unknown
    · simp [reaches.connected] at disconnected
    · exact reaches.known unknown
  · rw [if_neg closed] at done
    obtain ⟨server, found, done⟩ := Option.map_eq_some_iff.mp done
    obtain ⟨connected, known⟩ := not_or.mp closed
    by_cases null : server = 0
    · rw [if_pos null] at done
      cases done
      exact .unreached fun other reaches =>
        reaches.nonNull ((Option.some.inj (reaches.found.symm.trans found)).trans null)
    · rw [if_neg null] at done
      have reaches : Reaches kernel fuel server := ⟨by simpa using connected, known, found, null⟩
      cases queued : messageQueueEnqueue (kernel.processes server).inbox
          { senderPid := (kernel.processes kernel.processGetCurrent).pid, type, data1, data2 } with
      | none =>
          rw [queued] at done
          cases done
          exact .full server reaches (messageQueueEnqueue_none.mp queued)
      | some inbox =>
          rw [queued] at done
          cases done
          exact .delivered server _ inbox reaches queued

theorem Requested.steady (requested : Requested kernel fuel after) : Steady kernel after := by
  cases requested with
  | unreached apart => exact .refl
  | full server reaches isFull => exact .refl
  | delivered server msg inbox reaches queued => exact setInbox_steady

/-- What `process_switch` does to processes and tasks. -/
structure Switched (kernel : Kernel) (next : Nat) (after : Kernel) : Prop where
  processes : after.processes = kernel.processes
  tasks : after.tasks = kernel.tasks
  currentTask : after.currentTask = kernel.currentTask
  processListHead : after.processListHead = kernel.processListHead
  nextPid : after.nextPid = kernel.nextPid
  live : after.live = kernel.live
  currentProcess : after.currentProcess = if next = 0 then kernel.currentProcess else next

theorem processSwitch_switched (done : kernel.processSwitch next = some after) : Switched kernel next after := by
  simp only [Kernel.processSwitch] at done
  by_cases null : next = 0
  · rw [if_pos null] at done
    cases done
    exact ⟨rfl, rfl, rfl, rfl, rfl, rfl, (if_pos null).symm⟩
  · rw [if_neg null] at done
    by_cases different : kernel.currentProcess ≠ next
    · rw [if_pos different] at done
      obtain ⟨paging, _, rfl⟩ := Option.map_eq_some_iff.mp done
      exact ⟨rfl, rfl, rfl, rfl, rfl, rfl, (if_neg null).symm⟩
    · rw [if_neg different] at done
      cases done
      exact ⟨rfl, rfl, rfl, rfl, rfl, rfl, (not_not.mp different).trans (if_neg null).symm⟩

end AutismOS.Processes
