import AutismOS.Processes.Wakeups

namespace AutismOS.Processes

open AutismOS.Library AutismOS.Ipc AutismOS.Memory

variable {statics : Statics} {kernel after : Kernel} {created : Finset Nat} {system next : System}
variable {action : Action} {actions : List Action} {inbox : MessageQueue} {regs regs' : Registers} {msg : Message}
variable {fuel task target : Nat}

/-! Waiting tasks and the timer. -/

/-- A producer put a message into the inbox of the process of a task and made the task ready. -/
def Served (created : Finset Nat) (kernel after : Kernel) (task : Nat) : Prop :=
  ∃ process ∈ created, (kernel.processes process).mainThread = task ∧
    (kernel.processes process).inbox.count < (after.processes process).inbox.count ∧
      (after.tasks task).state = .ready

instance : Decidable (Served created kernel after task) :=
  inferInstanceAs (Decidable (∃ process ∈ created, (kernel.processes process).mainThread = task ∧
    (kernel.processes process).inbox.count < (after.processes process).inbox.count ∧
      (after.tasks task).state = .ready))

/-- `SYS_RECV` finds no message and makes the main thread wait. -/
def parks (kernel : Kernel) (regs : Registers) : Bool :=
  regs.eax = sysRecv && isValidPointer regs.ebx messageSize && kernel.currentProcess ≠ 0 &&
    messageQueueIsEmpty (kernel.processes kernel.currentProcess).inbox &&
      (kernel.processes kernel.currentProcess).mainThread ≠ 0

/-- A system with the tasks that `SYS_RECV` made wait and that were not served since then. -/
structure Watch where
  system : System
  parked : Finset Nat

/-- The tasks that are to be left alone after a step. -/
def Watch.unserved (watch : Watch) (after : System) (action : Action) : Finset Nat :=
  let rest := watch.parked.filter fun task => ¬ Served watch.system.created watch.system.kernel after.kernel task
  match action with
  | .syscall _ regs =>
      if parks watch.system.kernel regs then
        insert (watch.system.kernel.processes watch.system.kernel.currentProcess).mainThread rest
      else rest
  | _ => rest

def performWatched (statics : Statics) (fuel : Nat) (watch : Watch) (action : Action) : Option Watch :=
  (perform statics fuel watch.system action).map fun after =>
    { system := after, parked := watch.unserved after action }

def initialWatch (kernel : Kernel) : Watch := { system := initialSystem kernel, parked := ∅ }

/-- A tick that finds another task makes no task current that is to be left alone. -/
def Respected (before : Watch) (action : Action) (after : Watch) : Prop :=
  match action with
  | .tick _ => before.system.kernel.hasOther = true → after.system.kernel.currentTask ∉ before.parked
  | _ => True

/-- The steps of this section: all but requests to the graphics server. -/
def Delivering (fuel : Nat) (system : System) : Action → Prop
  | .gfxRequest _ _ _ => False
  | action => Valid fuel system action

/-- No tick that finds another task comes while the current task waits. -/
def Undisturbed (system : System) : Action → Prop
  | .tick _ => system.kernel.hasOther = true → (system.kernel.tasks system.kernel.currentTask).state ≠ .waiting
  | _ => True

/-- A task that waits is woken only by a message for its process. -/
theorem delivered_waits (waits : (kernel.tasks task).state = .waiting)
    (queued : messageQueueEnqueue (kernel.processes target).inbox msg = some inbox) (member : target ∈ created) :
    (((kernel.setInbox target inbox).wake target).tasks task).state = .waiting ∨
      Served created kernel ((kernel.setInbox target inbox).wake target) task := by
  have thread : ((kernel.setInbox target inbox).processes target).mainThread = (kernel.processes target).mainThread :=
    setInbox_steady.mainThread target
  have grown : (kernel.processes target).inbox.count <
      (((kernel.setInbox target inbox).wake target).processes target).inbox.count := by
    rw [wake_processes, setInbox_inbox, if_pos rfl, (messageQueueEnqueue_some queued).2.1]
    exact Nat.lt_succ_self _
  have woken : Woken (kernel.setInbox target inbox) target ((kernel.setInbox target inbox).wake target) := wake_woken
  generalize (kernel.setInbox target inbox).wake target = after at grown woken ⊢
  cases woken with
  | awake other => exact Or.inl waits
  | asleep nonNull _ =>
      rw [thread] at grown ⊢
      by_cases isTarget : task = (kernel.processes target).mainThread
      · refine Or.inr ⟨target, member, isTarget.symm, grown, ?_⟩
        rw [setTaskState_state, if_pos isTarget]
      · refine Or.inl ?_
        rw [setTaskState_state, if_neg isTarget]
        exact waits

/-- Waking a process that has messages is nothing to a task that waits. -/
theorem Woken.keeps (woken : Woken kernel target after) (heard : HeardBy kernel target)
    (waits : (kernel.tasks task).state = .waiting)
    (nonempty : messageQueueIsEmpty (kernel.processes target).inbox = false) : (after.tasks task).state = .waiting := by
  cases woken with
  | awake other => exact waits
  | asleep nonNull asleep =>
      rw [heard asleep] at nonempty
      cases nonempty

theorem InputSent.waits (sent : InputSent kernel fuel msg after) (wired : Wired kernel created)
    (heard : ∀ process ∈ created, HeardBy kernel process) (waits : (kernel.tasks task).state = .waiting) :
    (after.tasks task).state = .waiting ∨ Served created kernel after task := by
  cases sent with
  | absent found => exact Or.inl waits
  | full target found nonNull refused =>
      have isFull := messageQueueEnqueue_none.mp refused
      exact Or.inl (wake_woken.keeps (heard target (wired.found found nonNull)) waits (messageQueueIsFull_isEmpty isFull))
  | delivered target inbox found nonNull queued => exact delivered_waits waits queued (wired.found found nonNull)

theorem Sent.waits (sent : Sent kernel fuel regs regs' after) (wired : Wired kernel created)
    (waits : (kernel.tasks task).state = .waiting) :
    (after.tasks task).state = .waiting ∨ Served created kernel after task := by
  cases sent with
  | invalid pointer => exact Or.inl waits
  | absent pointer found => exact Or.inl waits
  | full target pointer found nonNull isFull => exact Or.inl waits
  | delivered target inbox pointer found nonNull isFull queued =>
      have read : ((kernel.setMemory ((kernel.stamped regs.ecx).touch regs.ecx messageSize)).tasks task).state = .waiting :=
        waits
      exact delivered_waits read queued (wired.found found nonNull)

theorem parked_waits (waits : (kernel.tasks task).state = .waiting) : (kernel.parked.tasks task).state = .waiting := by
  simp only [Kernel.parked]
  split
  · rw [setTaskState_state]
    split
    · rfl
    · exact waits
  · exact waits

theorem Received.waits {idle : Kernel} (received : Received kernel idle regs regs' after)
    (waits : (kernel.tasks task).state = .waiting) (idles : (idle.tasks task).state = .waiting) :
    (after.tasks task).state = .waiting := by
  cases received with
  | invalid pointer => exact waits
  | nobody pointer nobody => exact waits
  | message message inbox pointer nonNull taken => exact waits
  | empty pointer nonNull none => exact idles

/-- The main thread of the current process waits after a call that parks it. -/
theorem Exchanged.parks (exchanged : Exchanged kernel fuel regs regs' after) (isParked : parks kernel regs = true) :
    (after.tasks (kernel.processes kernel.currentProcess).mainThread).state = .waiting ∧ kernel.currentProcess ≠ 0 := by
  simp only [AutismOS.Processes.parks, Bool.and_eq_true, decide_eq_true_eq] at isParked
  obtain ⟨⟨⟨⟨isRecv, valid⟩, nonNull⟩, empty⟩, thread⟩ := isParked
  refine ⟨?_, nonNull⟩
  cases exchanged with
  | send number sent =>
      rw [isRecv] at number
      cases number
  | poll number received =>
      rw [isRecv] at number
      cases number
  | nothing number untouched =>
      rw [isRecv] at number
      exact absurd number (by decide)
  | recv number received =>
      cases received with
      | invalid pointer =>
          rw [valid] at pointer
          cases pointer
      | nobody pointer nobody => exact absurd nobody nonNull
      | message message inbox pointer _ taken =>
          rw [messageQueueDequeue_isEmpty taken] at empty
          cases empty
      | empty pointer _ none =>
          simp only [Kernel.parked, if_pos thread]
          rw [setTaskState_state, if_pos rfl]

theorem Exchanged.waits (exchanged : Exchanged kernel fuel regs regs' after) (wired : Wired kernel created)
    (waits : (kernel.tasks task).state = .waiting) :
    (after.tasks task).state = .waiting ∨ Served created kernel after task := by
  cases exchanged with
  | send number sent => exact sent.waits wired waits
  | recv number received => exact Or.inl (received.waits waits (parked_waits waits))
  | poll number received => exact Or.inl (received.waits waits waits)
  | nothing number untouched =>
      refine Or.inl ?_
      rw [untouched.tasks]
      exact waits

/-- What a run keeps: the tasks to be left alone wait, and are main threads. -/
structure Guarding (watch : Watch) : Prop where
  wired : Wired watch.system.kernel watch.system.created
  heard : Heard watch.system
  waits : ∀ task ∈ watch.parked, (watch.system.kernel.tasks task).state = .waiting
  thread : ∀ task ∈ watch.parked, ∃ process ∈ watch.system.created,
    (watch.system.kernel.processes process).mainThread = task

theorem initialWatch_guarding : Guarding (initialWatch kernel) := by
  refine ⟨initialSystem_wired, fun process member => ?_, fun task member => ?_, fun task member => ?_⟩
  all_goals cases member

theorem Delivering.valid (delivering : Delivering fuel system action) : Valid fuel system action := by
  cases action with
  | gfxRequest => exact delivering.elim
  | tick | taskCreate | processCreate | processSwitch => exact delivering
  | syscall | keyEvent | mouseEvent | gfxConnect | gfxDisconnect => exact delivering

theorem Delivering.attended (delivering : Delivering fuel system action) : Attended fuel system action := by
  cases action with
  | gfxRequest => exact delivering.elim
  | tick | taskCreate | processCreate | processSwitch => exact trivial
  | syscall | keyEvent | mouseEvent | gfxConnect | gfxDisconnect => exact trivial

/-- A main thread that waits goes on waiting until it is served. -/
theorem Performed.waits (performed : Performed fuel system action next) (wired : Wired system.kernel system.created)
    (heard : Heard system) (delivering : Delivering fuel system action) (undisturbed : Undisturbed system action)
    (waits : (system.kernel.tasks task).state = .waiting)
    (thread : ∃ process ∈ system.created, (system.kernel.processes process).mainThread = task) :
    (next.kernel.tasks task).state = .waiting ∨ Served system.created system.kernel next.kernel task := by
  obtain ⟨process, member, isThread⟩ := thread
  cases performed with
  | tick currentEsp kernel ticked =>
      refine Or.inl ?_
      cases others : system.kernel.hasOther with
      | false => exact ticked.keeps others waits
      | true =>
          have apart : task ≠ system.kernel.currentTask := fun isCurrent => undisturbed others (isCurrent ▸ waits)
          exact (ticked.spares apart waits).1
  | taskCreate newTask stack entryPoint result kernel made =>
      refine Or.inl ?_
      have fresh : Fresh system.kernel newTask := delivering.1.fresh
      cases made with
      | failed _ untouched =>
          rw [untouched.tasks]
          exact waits
      | made _ nonNull steady processes allocated state =>
          have apart : task ≠ newTask := fun isNew =>
            fresh.resolve_left nonNull (isNew ▸ isThread ▸ (wired.thread process member).2)
          rw [state, if_neg apart]
          exact waits
  | processFailed blocks entryPoint kernel failed =>
      refine Or.inl ?_
      rw [failed.state]
      exact waits
  | processMade blocks entryPoint kernel made =>
      refine Or.inl ?_
      have granted : BlocksGranted system.kernel blocks := delivering
      have apart : task ≠ blocks.task := fun isNew =>
        wired.newThread granted.fresh made.taskNonNull member (isThread.trans isNew)
      rw [made.state, if_neg apart]
      exact waits
  | processSwitch next kernel switched =>
      refine Or.inl ?_
      rw [switched.tasks]
      exact waits
  | syscall block regs regs' kernel exchanged => exact exchanged.waits wired waits
  | keyEvent type keycode msg kernel sent => exact sent.waits wired heard waits
  | mouseEvent type button x y msg kernel sent => exact sent.waits wired heard waits
  | gfxConnect kernel untouched | gfxDisconnect kernel untouched =>
      refine Or.inl ?_
      rw [untouched.tasks]
      exact waits
  | gfxRequest => exact delivering.elim

theorem Performed.mainThread {process : Nat} (performed : Performed fuel system action next)
    (wired : Wired system.kernel system.created) (valid : Valid fuel system action) (member : process ∈ system.created) :
    process ∈ next.created ∧
      (next.kernel.processes process).mainThread = (system.kernel.processes process).mainThread := by
  cases performed with
  | tick currentEsp kernel ticked => exact ⟨member, ticked.steady.mainThread process⟩
  | taskCreate newTask stack entryPoint result kernel made =>
      cases made with
      | failed _ untouched => exact ⟨member, untouched.steady.mainThread process⟩
      | made _ nonNull steady processes allocated state => exact ⟨member, steady.mainThread process⟩
  | processFailed blocks entryPoint kernel failed =>
      have granted : BlocksGranted system.kernel blocks := valid
      refine ⟨member, ?_⟩
      rw [failed.processes process fun isNew => wired.fresh granted.process.fresh (isNew ▸ member)]
  | processMade blocks entryPoint kernel made =>
      have granted : BlocksGranted system.kernel blocks := valid
      refine ⟨Finset.mem_insert_of_mem member, ?_⟩
      have isOld : process ≠ blocks.process := fun isNew => wired.fresh granted.process.fresh (isNew ▸ member)
      rw [made.mainThread, if_neg isOld]
  | processSwitch next kernel switched =>
      refine ⟨member, ?_⟩
      rw [switched.processes]
  | syscall block regs regs' kernel exchanged => exact ⟨member, exchanged.steady.mainThread process⟩
  | keyEvent type keycode msg kernel sent => exact ⟨member, sent.steady.mainThread process⟩
  | mouseEvent type button x y msg kernel sent => exact ⟨member, sent.steady.mainThread process⟩
  | gfxConnect kernel untouched | gfxDisconnect kernel untouched => exact ⟨member, untouched.steady.mainThread process⟩
  | gfxRequest type data1 data2 kernel requested => exact ⟨member, requested.steady.mainThread process⟩

/-- A task that is to be left alone after a step is one that was before, or was just made to wait. -/
theorem Watch.mem_unserved {watch : Watch} (member : task ∈ watch.unserved next action) :
    (task ∈ watch.parked ∧ ¬ Served watch.system.created watch.system.kernel next.kernel task) ∨
      ∃ block regs, action = .syscall block regs ∧ parks watch.system.kernel regs = true ∧
        task = (watch.system.kernel.processes watch.system.kernel.currentProcess).mainThread := by
  simp only [Watch.unserved] at member
  cases action with
  | syscall block regs =>
      simp only at member
      split at member
      · next isParked =>
          rcases Finset.mem_insert.mp member with isNew | old
          · exact Or.inr ⟨block, regs, rfl, isParked, isNew⟩
          · exact Or.inl (Finset.mem_filter.mp old)
      · exact Or.inl (Finset.mem_filter.mp member)
  | tick | taskCreate | processCreate | processSwitch => exact Or.inl (Finset.mem_filter.mp member)
  | keyEvent | mouseEvent | gfxConnect | gfxDisconnect | gfxRequest => exact Or.inl (Finset.mem_filter.mp member)

theorem Guarding.performed {watch : Watch} (guarding : Guarding watch)
    (performed : Performed fuel watch.system action next) (delivering : Delivering fuel watch.system action)
    (undisturbed : Undisturbed watch.system action) :
    Guarding { system := next, parked := watch.unserved next action } := by
  obtain ⟨wired, heard, waits, thread⟩ := guarding
  refine ⟨wired.performed delivering.valid performed,
    (heard.performed wired delivering.valid performed).mpr delivering.attended, fun task member => ?_,
    fun task member => ?_⟩
  · rcases Watch.mem_unserved member with ⟨old, unserved⟩ | ⟨block, regs, rfl, isParked, rfl⟩
    · exact (performed.waits wired heard delivering undisturbed (waits task old) (thread task old)).resolve_right unserved
    · cases performed with
      | syscall block regs regs' kernel exchanged => exact (exchanged.parks isParked).1
  · rcases Watch.mem_unserved member with ⟨old, unserved⟩ | ⟨block, regs, rfl, isParked, rfl⟩
    · obtain ⟨process, isProcess, isThread⟩ := thread task old
      obtain ⟨kept, same⟩ := performed.mainThread wired delivering.valid isProcess
      exact ⟨process, kept, same.trans isThread⟩
    · cases performed with
      | syscall block regs regs' kernel exchanged =>
          have current := wired.current.resolve_left (exchanged.parks isParked).2
          exact ⟨_, current, exchanged.steady.mainThread _⟩

theorem Guarding.respected {watch : Watch} {parked : Finset Nat} (guarding : Guarding watch)
    (performed : Performed fuel watch.system action next) (undisturbed : Undisturbed watch.system action) :
    Respected watch action { system := next, parked } := by
  cases performed with
  | tick currentEsp kernel ticked =>
      intro others isParked
      have waits := guarding.waits _ isParked
      by_cases isCurrent : kernel.currentTask = watch.system.kernel.currentTask
      · rw [isCurrent] at waits
        exact undisturbed others waits
      · exact (ticked.spares isCurrent waits).2 rfl
  | taskCreate | processFailed | processMade | processSwitch | syscall | keyEvent | mouseEvent => exact trivial
  | gfxConnect | gfxDisconnect | gfxRequest => exact trivial

/-- In a run in which no tick finds the current task waiting, no tick makes a task current that
`SYS_RECV` made wait and that was not served since then. -/
theorem run_respected {next : Watch}
    (run : Restricted (performWatched statics fuel)
      (fun watch action => Delivering fuel watch.system action ∧ Undisturbed watch.system action)
      (initialWatch kernel) actions next) :
    Observed (performWatched statics fuel) Respected (initialWatch kernel) actions next := by
  refine run.observed Guarding (fun before action after guarding allowed done => ?_) initialWatch_guarding
  obtain ⟨delivering, undisturbed⟩ := allowed
  obtain ⟨system, performs, rfl⟩ := Option.map_eq_some_iff.mp done
  have performed := perform_performed delivering.valid performs
  exact ⟨guarding.respected performed undisturbed, guarding.performed performed delivering undisturbed⟩

/-- The second process waits, and ticks come while the first one is current. -/
theorem run_respected_other :
    ∃ next, Observed (performWatched lowStatics 4) Respected (initialWatch emptyKernel)
      [.processCreate firstBlocks 0x101000, .processCreate secondBlocks 0x102000, .tick 0,
        .processSwitch secondBlocks.process, .syscall 0 { eax := sysRecv, ebx := 0x300000, ecx := 0 },
        .tick 0x186000, .tick 0x186000] next := by
  refine ⟨_, run_respected (.cons ⟨⟨show BlocksGranted _ _ from ?_, trivial⟩, rfl⟩
    (.cons ⟨⟨show BlocksGranted _ _ from ?_, trivial⟩, rfl⟩ (.cons ⟨⟨trivial, fun _ => ?_⟩, rfl⟩
      (.cons ⟨⟨Or.inr ?_, trivial⟩, rfl⟩ (.cons ⟨⟨⟨PointsInside.contained ?_, nofun⟩, trivial⟩, rfl⟩
        (.cons ⟨⟨trivial, fun _ => ?_⟩, rfl⟩ (.cons ⟨⟨trivial, fun _ => ?_⟩, rfl⟩ (.nil _))))))))⟩
  all_goals decide

/-- The first process waits in its own task, which the next tick makes ready. -/
theorem taskSchedulerTick_resumes :
    ∃ before after, Restricted (performWatched lowStatics 4) (fun watch action => Delivering 4 watch.system action)
        (initialWatch emptyKernel)
        [.processCreate firstBlocks 0x101000, .processCreate secondBlocks 0x102000, .tick 0,
          .syscall 0 { eax := sysRecv, ebx := 0x300000, ecx := 0 }, .tick 0x186000] before ∧
      performWatched lowStatics 4 before (.tick 0x18D000) = some after ∧ ¬ Respected before (.tick 0x18D000) after := by
  refine ⟨_, _, .cons ⟨show BlocksGranted _ _ from ?_, rfl⟩ (.cons ⟨show BlocksGranted _ _ from ?_, rfl⟩
    (.cons ⟨trivial, rfl⟩ (.cons ⟨⟨PointsInside.contained ?_, nofun⟩, rfl⟩ (.cons ⟨trivial, rfl⟩ (.nil _))))), rfl,
    fun respected => ?_⟩
  rotate_right
  · exact absurd (respected (by decide)) (by decide)
  all_goals decide

end AutismOS.Processes
