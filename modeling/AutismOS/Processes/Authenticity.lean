import AutismOS.Library.Run
import AutismOS.Processes.Invariant

namespace AutismOS.Processes

open AutismOS.Library AutismOS.Ipc AutismOS.Memory

variable {statics : Statics} {kernel idle after : Kernel} {created : Finset Nat} {system next : System}
variable {action : Action} {actions : List Action} {inbox : MessageQueue} {regs regs' : Registers}
variable {fuel process target : Nat}

/-! # Who sends and who receives

The scheduler and the system calls each have their own idea of what is current. -/

/-- `current_task->process` -/
def Owner (kernel : Kernel) (process : Nat) : Prop :=
  kernel.currentTask ≠ 0 ∧ process ≠ 0 ∧ (kernel.tasks kernel.currentTask).process = process

/-- A message that was enqueued carries the pid of the owner of the current task. -/
def SentByOwner (kernel after : Kernel) : Prop :=
  ∀ target, (after.processes target).inbox.count = (kernel.processes target).inbox.count + 1 →
    ∃ owner, Owner kernel owner ∧
      ((after.processes target).inbox.messages (kernel.processes target).inbox.writeIndex).senderPid =
        (kernel.processes owner).pid

/-- Only the owner of the current task lost a message. -/
def ReceivedByOwner (kernel after : Kernel) : Prop :=
  ∀ process, (after.processes process).inbox.count ≠ (kernel.processes process).inbox.count → Owner kernel process

/-- A system call acts for the process that owns the current task. -/
def Authentic (before : System) (action : Action) (after : System) : Prop :=
  match action with
  | .syscall _ regs =>
      (regs.eax = sysSend → SentByOwner before.kernel after.kernel) ∧
        (regs.eax = sysRecv ∨ regs.eax = sysPoll → ReceivedByOwner before.kernel after.kernel)
  | _ => True

/-- Where `SYS_SEND` is going to enqueue a message, the current process has the pid of the owner. -/
def SendsAsOwner (kernel : Kernel) (fuel : Nat) (regs : Registers) : Prop :=
  isValidPointer regs.ecx messageSize = true →
    ∀ target, kernel.processFindByPid fuel regs.ebx = some target → target ≠ 0 →
      messageQueueIsFull (kernel.processes target).inbox = false →
        ∃ owner, Owner kernel owner ∧ kernel.senderPid = (kernel.processes owner).pid

/-- Where a receive is going to find a message, the current process is the owner. -/
def ReceivesAsOwner (kernel : Kernel) (regs : Registers) : Prop :=
  isValidPointer regs.ebx messageSize = true → kernel.currentProcess ≠ 0 →
    messageQueueIsEmpty (kernel.processes kernel.currentProcess).inbox = false → Owner kernel kernel.currentProcess

def ActsAsOwner (fuel : Nat) (system : System) : Action → Prop
  | .syscall _ regs =>
      (regs.eax = sysSend → SendsAsOwner system.kernel fuel regs) ∧
        (regs.eax = sysRecv ∨ regs.eax = sysPoll → ReceivesAsOwner system.kernel regs)
  | _ => True

theorem Wired.senderPid (wired : Wired kernel created) : kernel.senderPid < 2 ^ 32 := by
  rw [Kernel.senderPid]
  split
  · next nonNull => exact wired.pid _ (wired.current.resolve_left nonNull)
  · exact Nat.two_pow_pos 32

/-- Nothing is said about a call that changes no inbox. -/
theorem sentByOwner_of_eq (same : after.processes = kernel.processes) : SentByOwner kernel after := by
  intro target grown
  rw [same] at grown
  omega

theorem Sent.byOwner_iff (sent : Sent kernel fuel regs regs' after) (small : kernel.senderPid < 2 ^ 32) :
    SentByOwner kernel after ↔ SendsAsOwner kernel fuel regs := by
  cases sent with
  | invalid pointer =>
      refine iff_of_true (sentByOwner_of_eq rfl) fun valid => ?_
      rw [pointer] at valid
      cases valid
  | absent pointer found =>
      refine iff_of_true (sentByOwner_of_eq rfl) fun _ target isTarget nonNull => ?_
      exact absurd (Option.some.inj (isTarget.symm.trans found)) nonNull
  | full target pointer found nonNull isFull =>
      refine iff_of_true (sentByOwner_of_eq rfl) fun _ other isOther _ hasRoom => ?_
      cases Option.some.inj (found.symm.trans isOther)
      rw [isFull] at hasRoom
      cases hasRoom
  | delivered target inbox pointer found nonNull isFull queued =>
      obtain ⟨_, count, message⟩ := messageQueueEnqueue_some queued
      have inboxes (process : Nat) : ((((kernel.setMemory ((kernel.stamped regs.ecx).touch regs.ecx messageSize)).setInbox
          target inbox).wake target).processes process).inbox =
            if process = target then inbox else (kernel.processes process).inbox := by
        rw [wake_processes]
        exact setInbox_inbox
      constructor
      · intro authentic _ other isOther _ _
        cases Option.some.inj (found.symm.trans isOther)
        obtain ⟨owner, isOwner, carries⟩ := authentic target (by rw [inboxes, if_pos rfl, count])
        rw [inboxes, if_pos rfl, message, stampedMessage_senderPid small] at carries
        exact ⟨owner, isOwner, carries⟩
      · intro asOwner process grown
        rw [inboxes] at grown ⊢
        by_cases isTarget : process = target
        · subst isTarget
          rw [if_pos rfl, message, stampedMessage_senderPid small]
          exact asOwner pointer process found nonNull isFull
        · rw [if_neg isTarget] at grown
          omega

theorem receivedByOwner_of_eq (same : after.processes = kernel.processes) : ReceivedByOwner kernel after := by
  intro process changed
  rw [same] at changed
  exact absurd rfl changed

theorem Received.byOwner_iff (received : Received kernel idle regs regs' after)
    (same : idle.processes = kernel.processes) : ReceivedByOwner kernel after ↔ ReceivesAsOwner kernel regs := by
  cases received with
  | invalid pointer =>
      refine iff_of_true (receivedByOwner_of_eq rfl) fun valid => ?_
      rw [pointer] at valid
      cases valid
  | nobody pointer current =>
      exact iff_of_true (receivedByOwner_of_eq rfl) fun _ nonNull => absurd current nonNull
  | empty pointer current none =>
      refine iff_of_true (receivedByOwner_of_eq same) fun _ _ nonempty => ?_
      have empty := messageQueueDequeue_none.mp none
      exact absurd empty (of_decide_eq_false nonempty)
  | message message inbox pointer current taken =>
      obtain ⟨positive, count, _⟩ := messageQueueDequeue_some taken
      have inboxes (process : Nat) : (((kernel.setMemory (writeMessage kernel.memory regs.ebx message)).setInbox
          kernel.currentProcess inbox).processes process).inbox =
            if process = kernel.currentProcess then inbox else (kernel.processes process).inbox := setInbox_inbox
      constructor
      · intro authentic _ _ _
        refine authentic kernel.currentProcess ?_
        rw [inboxes, if_pos rfl, count]
        omega
      · intro asOwner process changed
        rw [inboxes] at changed
        by_cases isCurrent : process = kernel.currentProcess
        · subst isCurrent
          exact asOwner pointer current (messageQueueDequeue_isEmpty taken)
        · rw [if_neg isCurrent] at changed
          exact absurd rfl changed

theorem Exchanged.authentic_iff (exchanged : Exchanged kernel fuel regs regs' after) (small : kernel.senderPid < 2 ^ 32) :
    ((regs.eax = sysSend → SentByOwner kernel after) ∧
        (regs.eax = sysRecv ∨ regs.eax = sysPoll → ReceivedByOwner kernel after)) ↔
      (regs.eax = sysSend → SendsAsOwner kernel fuel regs) ∧
        (regs.eax = sysRecv ∨ regs.eax = sysPoll → ReceivesAsOwner kernel regs) := by
  cases exchanged with
  | send number sent => simp [number, sysSend, sysRecv, sysPoll, sent.byOwner_iff small]
  | recv number received => simp [number, sysSend, sysRecv, sysPoll, received.byOwner_iff parked_processes]
  | poll number received => simp [number, sysSend, sysRecv, sysPoll, received.byOwner_iff rfl]
  | nothing number untouched =>
      simp only [List.mem_cons, List.not_mem_nil, or_false, not_or] at number
      simp [number]

/-- The steps of this section: ticks, creation of processes, and system calls. -/
def Scheduled (fuel : Nat) (system : System) : Action → Prop
  | .tick currentEsp => Valid fuel system (.tick currentEsp)
  | .processCreate blocks entryPoint => Valid fuel system (.processCreate blocks entryPoint)
  | .syscall block regs => Valid fuel system (.syscall block regs)
  | _ => False

theorem Scheduled.valid (scheduled : Scheduled fuel system action) : Valid fuel system action := by
  cases action with
  | tick | processCreate | syscall => exact scheduled
  | taskCreate | processSwitch | keyEvent | mouseEvent | gfxConnect | gfxDisconnect | gfxRequest => exact scheduled.elim

theorem Performed.authentic_iff (performed : Performed fuel system action next)
    (wired : Wired system.kernel system.created) : Authentic system action next ↔ ActsAsOwner fuel system action := by
  cases performed with
  | syscall block regs regs' kernel exchanged => exact exchanged.authentic_iff wired.senderPid
  | tick | taskCreate | processFailed | processMade | processSwitch | keyEvent | mouseEvent => exact Iff.rfl
  | gfxConnect | gfxDisconnect | gfxRequest => exact Iff.rfl

/-- The system calls of a run act for the owner of the current task exactly when they are made
while the current process is this owner. -/
theorem run_authentic_iff (run : Restricted (perform statics fuel) (Scheduled fuel) (initialSystem kernel) actions next) :
    Observed (perform statics fuel) Authentic (initialSystem kernel) actions next ↔
      Restricted (perform statics fuel) (ActsAsOwner fuel) (initialSystem kernel) actions next := by
  refine run.observed_iff (fun system => Wired system.kernel system.created)
    (fun before action after wired scheduled done => ?_) (fun before action after wired scheduled done _ => ?_)
    initialSystem_wired
  · exact (perform_performed scheduled.valid done).authentic_iff wired
  · exact wired.performed scheduled.valid (perform_performed scheduled.valid done)

/-- The process that runs first sends itself a message and takes it. -/
def ownActions : List Action :=
  [.processCreate firstBlocks 0x101000, .processCreate secondBlocks 0x102000, .tick 0,
    .syscall 0 { eax := sysSend, ebx := 0, ecx := 0x300000 }, .syscall 0 { eax := sysRecv, ebx := 0x300000, ecx := 0 }]

theorem run_authentic_iff_own :
    ∃ next, Observed (perform lowStatics 4) Authentic (initialSystem emptyKernel) ownActions next := by
  obtain ⟨next, run, asOwner⟩ : ∃ next,
      Restricted (perform lowStatics 4) (Scheduled 4) (initialSystem emptyKernel) ownActions next ∧
      Restricted (perform lowStatics 4) (ActsAsOwner 4) (initialSystem emptyKernel) ownActions next := by
    refine ⟨_, .cons ⟨show BlocksGranted _ _ from ?_, rfl⟩ (.cons ⟨show BlocksGranted _ _ from ?_, rfl⟩
      (.cons ⟨trivial, rfl⟩ (.cons ⟨⟨PointsInside.contained ?_, nofun⟩, rfl⟩
        (.cons ⟨⟨PointsInside.contained ?_, nofun⟩, rfl⟩ (.nil _))))), .cons ⟨trivial, rfl⟩ (.cons ⟨trivial, rfl⟩
          (.cons ⟨trivial, rfl⟩ (.cons ⟨⟨fun _ => ?_, nofun⟩, rfl⟩ (.cons ⟨⟨nofun, fun _ => ?_⟩, rfl⟩ (.nil _)))))⟩
    rotate_right 2
    · exact fun _ target _ _ _ => ⟨firstBlocks.process, ⟨by decide, by decide, by decide⟩, by decide⟩
    · exact fun _ _ _ => ⟨by decide, by decide, by decide⟩
    all_goals decide
  exact ⟨next, (run_authentic_iff run).mpr asOwner⟩

/-- After the second tick the task of the second process runs, and sends with the pid of the first. -/
theorem syscallSend_impersonates :
    ∃ before after, Restricted (perform lowStatics 4) (Scheduled 4) (initialSystem emptyKernel)
        [.processCreate firstBlocks 0x101000, .processCreate secondBlocks 0x102000, .tick 0, .tick 0] before ∧
      perform lowStatics 4 before (.syscall 0 { eax := sysSend, ebx := 0, ecx := 0x300000 }) = some after ∧
      ¬ Authentic before (.syscall 0 { eax := sysSend, ebx := 0, ecx := 0x300000 }) after := by
  refine ⟨_, _, .cons ⟨show BlocksGranted _ _ from ?_, rfl⟩ (.cons ⟨show BlocksGranted _ _ from ?_, rfl⟩
    (.cons ⟨trivial, rfl⟩ (.cons ⟨trivial, rfl⟩ (.nil _)))), rfl, fun authentic => ?_⟩
  rotate_right
  · obtain ⟨owner, isOwner, carries⟩ := authentic.1 rfl firstBlocks.process (by decide)
    obtain ⟨_, _, rfl⟩ := isOwner
    exact absurd carries (by decide)
  all_goals decide

end AutismOS.Processes
