import AutismOS.Library.Run
import AutismOS.Processes.Invariant

namespace AutismOS.Processes

open AutismOS.Library AutismOS.Ipc AutismOS.Memory

variable {statics : Statics} {kernel idle after : Kernel} {created : Finset Nat} {system next : System}
variable {action : Action} {actions : List Action} {inbox : MessageQueue} {regs regs' : Registers} {msg : Message}
variable {fuel process target : Nat}

/-- A process whose main thread waits has an empty inbox. -/
def HeardBy (kernel : Kernel) (process : Nat) : Prop :=
  (kernel.tasks (kernel.processes process).mainThread).state = .waiting →
    messageQueueIsEmpty (kernel.processes process).inbox = true

/-- No process waits while it has messages. -/
def Heard (system : System) : Prop := ∀ process ∈ system.created, HeardBy system.kernel process

/-- No task starts to wait. -/
def NoneWaits (kernel after : Kernel) : Prop :=
  ∀ task, (after.tasks task).state = .waiting → (kernel.tasks task).state = .waiting

/-- Steps that put nobody to sleep and that leave the inbox alone. -/
theorem HeardBy.kept (heard : HeardBy kernel process) (waits : NoneWaits kernel after)
    (mainThread : (after.processes process).mainThread = (kernel.processes process).mainThread)
    (inbox : (after.processes process).inbox = (kernel.processes process).inbox) : HeardBy after process := by
  intro waiting
  rw [mainThread] at waiting
  rw [inbox]
  exact heard (waits _ waiting)

theorem HeardBy.untouched (heard : HeardBy kernel process) (untouched : Untouched kernel after) :
    HeardBy after process := by
  refine heard.kept (fun task => ?_) (untouched.steady.mainThread process) ?_
  · rw [untouched.tasks]
    exact id
  · rw [untouched.processes]

theorem Woken.waiting (woken : Woken kernel target after) : NoneWaits kernel after := by
  intro task waits
  cases woken with
  | asleep nonNull _ =>
      rw [setTaskState_state] at waits
      split at waits
      · cases waits
      · exact waits
  | awake _ => exact waits

/-- The main thread of the process that is woken does not wait any more. -/
theorem Woken.awakened (woken : Woken kernel target after) (thread : (kernel.processes target).mainThread ≠ 0) :
    (after.tasks (kernel.processes target).mainThread).state ≠ .waiting := by
  cases woken with
  | asleep nonNull waits =>
      rw [setTaskState_state, if_pos rfl]
      exact nofun
  | awake other => exact other.resolve_left thread

theorem HeardBy.woken (heard : HeardBy kernel process) (woken : Woken kernel target after) : HeardBy after process :=
  heard.kept woken.waiting (by rw [woken.processes]) (by rw [woken.processes])

/-- Who gets a message and is woken does not wait for it; the others notice nothing. -/
theorem HeardBy.delivered (heard : HeardBy kernel process) (thread : (kernel.processes target).mainThread ≠ 0)
    (woken : Woken (kernel.setInbox target inbox) target after) : HeardBy after process := by
  by_cases isTarget : process = target
  · subst isTarget
    have same : ((kernel.setInbox process inbox).processes process).mainThread =
      (kernel.processes process).mainThread := setInbox_steady.mainThread process
    have awake : (after.tasks ((kernel.setInbox process inbox).processes process).mainThread).state ≠ .waiting :=
      woken.awakened (by rwa [same])
    intro waits
    rw [woken.processes] at waits
    exact absurd waits awake
  · have apart : HeardBy (kernel.setInbox target inbox) process := by
      rw [HeardBy, setInbox_processes, if_neg isTarget]
      exact heard
    exact apart.woken woken

theorem HeardBy.inputSent (heard : HeardBy kernel process) (wired : Wired kernel created)
    (sent : InputSent kernel fuel msg after) : HeardBy after process := by
  cases sent with
  | absent found => exact heard
  | full target found nonNull refused => exact heard.woken wake_woken
  | delivered target inbox found nonNull queued =>
      exact heard.delivered (wired.thread target (wired.found found nonNull)).1 wake_woken

theorem HeardBy.sent (heard : HeardBy kernel process) (wired : Wired kernel created)
    (sent : Sent kernel fuel regs regs' after) : HeardBy after process := by
  cases sent with
  | invalid pointer => exact heard
  | absent pointer found => exact heard
  | full target pointer found nonNull isFull => exact heard.untouched setMemory_untouched
  | delivered target inbox pointer found nonNull isFull queued =>
      have read : HeardBy (kernel.setMemory ((kernel.stamped regs.ecx).touch regs.ecx messageSize)) process :=
        heard.untouched setMemory_untouched
      exact read.delivered (wired.thread target (wired.found found nonNull)).1 wake_woken

/-- A process that takes a message does not wait. -/
theorem HeardBy.taken (heard : HeardBy kernel process) (other : HeardBy kernel target)
    (taken : messageQueueDequeue (kernel.processes target).inbox = some (msg, inbox)) :
    HeardBy (kernel.setInbox target inbox) process := by
  rw [HeardBy, setInbox_processes]
  by_cases isTarget : process = target
  · rw [if_pos isTarget]
    intro waits
    have nonempty := messageQueueDequeue_isEmpty taken
    rw [other waits] at nonempty
    cases nonempty
  · rw [if_neg isTarget]
    exact heard

theorem HeardBy.received (heard : HeardBy kernel process) (current : kernel.currentProcess ≠ 0 → HeardBy kernel kernel.currentProcess)
    (waits : messageQueueDequeue (kernel.processes kernel.currentProcess).inbox = none → kernel.currentProcess ≠ 0 → HeardBy idle process)
    (received : Received kernel idle regs regs' after) : HeardBy after process := by
  cases received with
  | invalid pointer => exact heard
  | nobody pointer nobody => exact heard
  | message message inbox pointer nonNull taken =>
      have copied {other : Nat} (heard : HeardBy kernel other) :
        HeardBy (kernel.setMemory (writeMessage kernel.memory regs.ebx message)) other :=
          heard.untouched setMemory_untouched
      exact (copied heard).taken (copied (current nonNull)) taken
  | empty pointer nonNull none => exact waits none nonNull

/-- Only the current process starts to wait, and its inbox is empty then. -/
theorem HeardBy.parked (heard : HeardBy kernel process) (wired : Wired kernel created) (member : process ∈ created)
    (nonNull : kernel.currentProcess ≠ 0)
    (none : messageQueueDequeue (kernel.processes kernel.currentProcess).inbox = none) :
    HeardBy kernel.parked process := by
  have current := wired.current.resolve_left nonNull
  have steady : Steady kernel kernel.parked := parked_steady
  simp only [Kernel.parked, if_pos (wired.thread _ current).1]
  by_cases isCurrent : process = kernel.currentProcess
  · intro _
    have empty : (kernel.processes kernel.currentProcess).inbox.count = 0 := messageQueueDequeue_none.mp none
    simp only [isCurrent, messageQueueIsEmpty, decide_eq_true_eq]
    exact empty
  · intro waits
    rw [setTaskState_state] at waits
    have different : (kernel.processes process).mainThread ≠ (kernel.processes kernel.currentProcess).mainThread :=
      fun same => isCurrent (wired.apart process member _ current same)
    exact heard ((if_neg different).symm.trans waits)

/-- A request that puts a message into an inbox leaves its owner asleep. -/
theorem HeardBy.requested (heard : ∀ process ∈ created, HeardBy kernel process) (wired : Wired kernel created)
    (requested : Requested kernel fuel after) :
    (∀ process ∈ created, HeardBy after process) ↔ ∀ server, Reaches kernel fuel server →
      (kernel.tasks (kernel.processes server).mainThread).state ≠ .waiting := by
  cases requested with
  | unreached apart => exact ⟨fun _ server reaches => absurd reaches (apart server), fun _ => heard⟩
  | full server reaches isFull =>
      refine ⟨fun _ other otherReaches waits => ?_, fun _ => heard⟩
      have same : server = other := Option.some.inj (reaches.found.symm.trans otherReaches.found)
      subst same
      have empty := heard server (wired.found reaches.found reaches.nonNull) waits
      rw [messageQueueIsFull_isEmpty isFull] at empty
      cases empty
  | delivered server msg inbox reaches queued =>
      have nonempty := messageQueueEnqueue_isEmpty queued
      constructor
      · intro heardAfter other otherReaches waits
        have same : server = other := Option.some.inj (reaches.found.symm.trans otherReaches.found)
        subst same
        have empty := heardAfter server (wired.found reaches.found reaches.nonNull)
        rw [HeardBy, setInbox_processes, if_pos rfl] at empty
        rw [empty waits] at nonempty
        cases nonempty
      · intro awake process member
        rw [HeardBy, setInbox_processes]
        by_cases isServer : process = server
        · rw [if_pos isServer]
          exact fun waits => absurd waits (awake server reaches)
        · rw [if_neg isServer]
          exact heard process member

/-- No request reaches a server that waits. -/
def Attended (fuel : Nat) (system : System) : Action → Prop
  | .gfxRequest _ _ _ => ∀ server, Reaches system.kernel fuel server →
      (system.kernel.tasks (system.kernel.processes server).mainThread).state ≠ .waiting
  | _ => True

theorem HeardBy.exchanged (heard : ∀ process ∈ created, HeardBy kernel process) (wired : Wired kernel created)
    (member : process ∈ created) (exchanged : Exchanged kernel fuel regs regs' after) : HeardBy after process := by
  have current (nonNull : kernel.currentProcess ≠ 0) : HeardBy kernel kernel.currentProcess :=
    heard _ (wired.current.resolve_left nonNull)
  cases exchanged with
  | send number sent => exact (heard process member).sent wired sent
  | recv number received =>
      exact (heard process member).received current
        (fun none nonNull => (heard process member).parked wired member nonNull none) received
  | poll number received =>
      exact (heard process member).received current (fun _ _ => heard process member) received
  | nothing number untouched => exact (heard process member).untouched untouched

theorem HeardBy.made {blocks : Kernel.Blocks} (heard : ∀ process ∈ created, HeardBy kernel process)
    (wired : Wired kernel created) (fresh : FreshBlocks kernel blocks)
    (made : ProcessMade kernel blocks.process blocks.task after) (member : process ∈ insert blocks.process created) :
    HeardBy after process := by
  intro waits
  rw [made.mainThread, made.state] at waits
  rw [made.inbox]
  rcases Finset.mem_insert.mp member with rfl | old
  · rw [if_pos rfl]
    rfl
  · have isOld : process ≠ blocks.process := fun same => wired.fresh fresh.process (same ▸ old)
    rw [if_neg isOld, if_neg (wired.newThread fresh made.taskNonNull old)] at waits
    rw [if_neg isOld]
    exact heard process old waits

/-- What one step does to a system in which nobody waits with messages. -/
theorem Heard.performed (heard : Heard system) (wired : Wired system.kernel system.created)
    (valid : Valid fuel system action) (performed : Performed fuel system action next) :
    Heard next ↔ Attended fuel system action := by
  cases performed with
  | tick currentEsp kernel ticked =>
      exact iff_of_true (fun process member => (heard process member).kept (fun task => ticked.waiting)
        (ticked.steady.mainThread process) (by rw [ticked.processes])) trivial
  | taskCreate task stack entryPoint result kernel made =>
      refine iff_of_true (fun process member => ?_) trivial
      cases made with
      | failed _ untouched => exact (heard process member).untouched untouched
      | made _ nonNull steady processes allocated state =>
          refine (heard process member).kept (fun other waits => ?_) (steady.mainThread process) (by rw [processes])
          rw [state] at waits
          split at waits
          · cases waits
          · exact waits
  | processFailed blocks entryPoint kernel failed =>
      have granted : BlocksGranted system.kernel blocks := valid
      refine iff_of_true (fun process member => ?_) trivial
      have same := failed.processes process fun isNew => wired.fresh granted.process.fresh (isNew ▸ member)
      exact (heard process member).kept (fun task => by rw [failed.state]; exact id) (by rw [same]) (by rw [same])
  | processMade blocks entryPoint kernel made =>
      have granted : BlocksGranted system.kernel blocks := valid
      exact iff_of_true (fun process member => HeardBy.made heard wired granted.fresh made member) trivial
  | processSwitch next kernel switched =>
      refine iff_of_true (fun process member => ?_) trivial
      exact (heard process member).kept (fun task => by rw [switched.tasks]; exact id) (by rw [switched.processes])
        (by rw [switched.processes])
  | syscall block regs regs' kernel exchanged =>
      exact iff_of_true (fun process member => HeardBy.exchanged heard wired member exchanged) trivial
  | keyEvent type keycode msg kernel sent =>
      exact iff_of_true (fun process member => (heard process member).inputSent wired sent) trivial
  | mouseEvent type button x y msg kernel sent =>
      exact iff_of_true (fun process member => (heard process member).inputSent wired sent) trivial
  | gfxConnect kernel untouched =>
      exact iff_of_true (fun process member => (heard process member).untouched untouched) trivial
  | gfxDisconnect kernel untouched =>
      exact iff_of_true (fun process member => (heard process member).untouched untouched) trivial
  | gfxRequest type data1 data2 kernel requested => exact HeardBy.requested heard wired requested

/-- No wake-up is lost in a run exactly when its requests reach no server that waits. -/
theorem run_heard_iff (run : Restricted (perform statics fuel) (Valid fuel) (initialSystem kernel) actions next) :
    Observed (perform statics fuel) (fun _ _ after => Heard after) (initialSystem kernel) actions next ↔
      Restricted (perform statics fuel) (Attended fuel) (initialSystem kernel) actions next := by
  refine run.observed_iff (fun system => Wired system.kernel system.created ∧ Heard system)
    (fun before action after holds valid done => ?_) (fun before action after holds valid done attended => ?_)
    ⟨initialSystem_wired, ?_⟩
  · exact holds.2.performed holds.1 valid (perform_performed valid done)
  · have performed := perform_performed valid done
    exact ⟨holds.1.performed valid performed, (holds.2.performed holds.1 valid performed).mpr attended⟩
  · intro process member
    cases member

/-- A process that waits gets a message from another one and is ready again. -/
def wakingActions : List Action :=
  [.processCreate firstBlocks 0x101000, .processCreate secondBlocks 0x102000,
    .syscall 0 { eax := sysRecv, ebx := 0x300000, ecx := 0 }, .processSwitch secondBlocks.process,
    .syscall 0 { eax := sysSend, ebx := 0, ecx := 0x300000 }]

theorem run_heard_iff_waking :
    ∃ next, Observed (perform lowStatics 4) (fun _ _ after => Heard after) (initialSystem emptyKernel)
      wakingActions next := by
  obtain ⟨next, run, attended⟩ : ∃ next,
      Restricted (perform lowStatics 4) (Valid 4) (initialSystem emptyKernel) wakingActions next ∧
      Restricted (perform lowStatics 4) (Attended 4) (initialSystem emptyKernel) wakingActions next := by
    refine ⟨_, .cons ⟨show BlocksGranted _ _ from ?_, rfl⟩ (.cons ⟨show BlocksGranted _ _ from ?_, rfl⟩
      (.cons ⟨⟨PointsInside.contained ?_, nofun⟩, rfl⟩ (.cons ⟨Or.inr ?_, rfl⟩
        (.cons ⟨⟨PointsInside.contained ?_, nofun⟩, rfl⟩ (.nil _))))), .cons ⟨trivial, rfl⟩ (.cons ⟨trivial, rfl⟩
          (.cons ⟨trivial, rfl⟩ (.cons ⟨trivial, rfl⟩ (.cons ⟨trivial, rfl⟩ (.nil _)))))⟩
    all_goals decide
  exact ⟨next, (run_heard_iff run).mpr attended⟩

/-- The server waits when a client of the graphics library sends it a request. -/
theorem gfxSendRequest_forgets :
    ∃ next, Restricted (perform lowStatics 4) (Valid 4) (initialSystem emptyKernel)
        [.processCreate firstBlocks 0x101000, .processCreate secondBlocks 0x102000,
          .processSwitch secondBlocks.process, .syscall 0 { eax := sysRecv, ebx := 0x300000, ecx := 0 },
          .processSwitch firstBlocks.process, .gfxConnect, .gfxRequest 1 0 0] next ∧
      ¬ Heard next := by
  refine ⟨_, .cons ⟨show BlocksGranted _ _ from ?_, rfl⟩ (.cons ⟨show BlocksGranted _ _ from ?_, rfl⟩
    (.cons ⟨Or.inr ?_, rfl⟩ (.cons ⟨⟨PointsInside.contained ?_, nofun⟩, rfl⟩ (.cons ⟨Or.inr ?_, rfl⟩
      (.cons ⟨trivial, rfl⟩ (.cons ⟨trivial, rfl⟩ (.nil _))))))), fun heard => ?_⟩
  rotate_right
  · have nonempty := heard secondBlocks.process (by decide) (by decide)
    exact absurd nonempty (by decide)
  all_goals decide

end AutismOS.Processes
