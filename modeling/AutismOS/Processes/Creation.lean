import AutismOS.Processes.Effects

namespace AutismOS.Processes

open AutismOS.Library AutismOS.Ipc AutismOS.Memory

variable {statics : Statics} {kernel after : Kernel} {blocks : Kernel.Blocks}
variable {fuel task newTask stack entryPoint process newProcess result : Nat}

/-- `kmalloc` answers with NULL or with a block that is not in use. -/
def Fresh (kernel : Kernel) (block : Nat) : Prop := block = 0 ∨ block ∉ kernel.live

/-- No task changes its state or its process, and no process changes. -/
structure TaskAppended (kernel after : Kernel) : Prop where
  steady : Steady kernel after
  processes : after.processes = kernel.processes
  state : ∀ task, (after.tasks task).state = (kernel.tasks task).state
  owner : ∀ task, (after.tasks task).process = (kernel.tasks task).process

theorem setNext_appended {next : Nat} :
    TaskAppended kernel (kernel.setTask task { kernel.tasks task with next }) := by
  refine ⟨setTask_steady, rfl, fun other => ?_, fun other => ?_⟩
  all_goals
    rw [setTask_tasks]
    split
    · next same => rw [same]
    · rfl

theorem TaskAppended.trans {middle : Kernel} (first : TaskAppended kernel middle) (second : TaskAppended middle after) :
    TaskAppended kernel after :=
  ⟨first.steady.trans second.steady, second.processes.trans first.processes,
    fun task => (second.state task).trans (first.state task), fun task => (second.owner task).trans (first.owner task)⟩

theorem appendTask_appended (done : kernel.appendTask fuel newTask = some after) : TaskAppended kernel after := by
  rw [Kernel.appendTask] at done
  by_cases first : kernel.taskListHead = 0
  · rw [if_pos first] at done
    cases done
    have appended : TaskAppended kernel
        (kernel.setTask newTask { kernel.tasks newTask with next := newTask }) := setNext_appended
    exact ⟨steady_of_eq rfl rfl rfl rfl (subset_refl _), rfl, appended.state, appended.owner⟩
  · rw [if_neg first] at done
    obtain ⟨last, _, rfl⟩ := Option.map_eq_some_iff.mp done
    exact setNext_appended.trans setNext_appended

def Kernel.link (kernel : Kernel) (task : Nat) : Nat := (kernel.tasks task).next

theorem setNext_link {next : Nat} :
    (kernel.setTask other { kernel.tasks other with next }).link task = if task = other then next else kernel.link task := by
  rw [Kernel.link, setTask_tasks]
  split
  · rfl
  · rfl

theorem setNext_update {next : Nat} :
    (kernel.setTask task { kernel.tasks task with next }).link = Function.update kernel.link task next := by
  funext other
  rw [setNext_link, Function.update_apply]

/-- Only the links of tasks, and the first of them, are different. -/
structure TaskInserted (kernel after : Kernel) : Prop where
  content : ∀ task, after.tasks task = { kernel.tasks task with next := after.link task }
  nextTaskId : after.nextTaskId = kernel.nextTaskId
  schedulerStarted : after.schedulerStarted = kernel.schedulerStarted
  processes : after.processes = kernel.processes
  processListHead : after.processListHead = kernel.processListHead
  nextPid : after.nextPid = kernel.nextPid
  live : after.live = kernel.live

theorem setNext_inserted {next : Nat} :
    TaskInserted kernel (kernel.setTask task { kernel.tasks task with next }) := by
  refine ⟨?_, rfl, rfl, rfl, rfl, rfl, rfl⟩
  intro other
  rw [setNext_link, setTask_tasks]
  split
  · next same => rw [same]
  · rfl

theorem TaskInserted.trans {middle : Kernel} (first : TaskInserted kernel middle) (second : TaskInserted middle after) :
    TaskInserted kernel after := by
  refine ⟨?_, second.nextTaskId.trans first.nextTaskId, second.schedulerStarted.trans first.schedulerStarted,
    second.processes.trans first.processes, second.processListHead.trans first.processListHead,
    second.nextPid.trans first.nextPid, second.live.trans first.live⟩
  intro task
  rw [second.content, first.content]

/-- The end of `task_create` inserts the task into the list. -/
theorem appendTask_inserts {next : Nat → Nat} {head : Nat}
    (inserted : Ring.insert kernel.link 0 kernel.taskListHead newTask fuel = some (next, head)) :
    ∃ after, kernel.appendTask fuel newTask = some after ∧ after.link = next ∧ after.taskListHead = head ∧
      after.currentTask = (if kernel.taskListHead = 0 then newTask else kernel.currentTask) ∧
      TaskInserted kernel after := by
  rw [Ring.insert] at inserted
  rw [Kernel.appendTask]
  by_cases first : kernel.taskListHead = 0
  · rw [if_pos first] at inserted ⊢
    obtain ⟨rfl, rfl⟩ := Prod.mk.inj (Option.some.inj inserted)
    have alone : TaskInserted kernel (kernel.setTask newTask { kernel.tasks newTask with next := newTask }) :=
      setNext_inserted
    exact ⟨_, rfl, setNext_update, rfl, (if_pos first).symm, ⟨alone.content, rfl, rfl, rfl, rfl, rfl, rfl⟩⟩
  · rw [if_neg first] at inserted ⊢
    obtain ⟨last, walked, relinked⟩ := Option.map_eq_some_iff.mp inserted
    obtain ⟨rfl, rfl⟩ := Prod.mk.inj relinked
    refine ⟨_, congrArg (Option.map _) walked, ?_, rfl, (if_neg first).symm, setNext_inserted.trans setNext_inserted⟩
    rw [← setNext_update, ← setNext_update]
    rfl

/-- The outcomes of `task_create`. -/
inductive TaskMade (kernel : Kernel) (newTask : Nat) : Nat → Kernel → Prop where
  | failed (after : Kernel) (untouched : Untouched kernel after) : TaskMade kernel newTask 0 after
  | made (after : Kernel) (nonNull : newTask ≠ 0) (steady : Steady kernel after)
      (processes : after.processes = kernel.processes) (allocated : newTask ∈ after.live)
      (state : ∀ task, (after.tasks task).state = if task = newTask then .ready else (kernel.tasks task).state) :
      TaskMade kernel newTask newTask after

theorem kmalloc_mem (nonNull : task ≠ 0) : task ∈ (kernel.kmalloc task).live := by
  rw [Kernel.kmalloc, if_neg nonNull]
  exact Finset.mem_insert_self _ _

/-- A block that was allocated and freed again leaves no trace. -/
theorem Fresh.kfree_untouched {block : Nat} (fresh : Fresh kernel block) (untouched : Untouched kernel after) (nonNull : block ≠ 0) :
    Untouched kernel (after.kfree block) := by
  refine ⟨steady_of_eq untouched.processes untouched.steady.currentProcess untouched.steady.processListHead
    untouched.steady.nextPid fun other member => ?_, untouched.tasks, untouched.processes, untouched.currentTask⟩
  have different : other ≠ block := fun same => fresh.resolve_left nonNull (same ▸ member)
  exact Finset.mem_erase.mpr ⟨different, untouched.steady.live member⟩

/-- The kernel in which `task_create` stores the new task, whose stack is prepared. -/
def Kernel.prepared (kernel : Kernel) (newTask stack entryPoint : Nat) : Kernel :=
  let kernel := (kernel.kmalloc newTask).kmalloc stack
  let bytes := (Kernel.pushAll kernel.memory.bytes (add32 stack taskStackSize) (Kernel.initialFrame entryPoint)).2
  Kernel.setMemory { kernel with nextTaskId := add32 kernel.nextTaskId 1 } { kernel.memory with bytes }

theorem prepared_eq : kernel.prepared newTask stack entryPoint =
    { kernel with
      nextTaskId := add32 kernel.nextTaskId 1
      memory := (kernel.prepared newTask stack entryPoint).memory
      live := (kernel.prepared newTask stack entryPoint).live } := by
  simp only [Kernel.prepared, Kernel.setMemory, Kernel.kmalloc]
  split
  · split
    · rfl
    · rfl
  · split
    · rfl
    · rfl

theorem prepared_untouched : Untouched kernel (kernel.prepared newTask stack entryPoint) := by
  have allocated : Untouched kernel ((kernel.kmalloc newTask).kmalloc stack) :=
    kmalloc_untouched.trans kmalloc_untouched
  exact ⟨allocated.steady.trans (steady_of_eq rfl rfl rfl rfl (subset_refl _)), allocated.tasks, allocated.processes,
    allocated.currentTask⟩

theorem prepared_mem (nonNull : newTask ≠ 0) : newTask ∈ (kernel.prepared newTask stack entryPoint).live :=
  kmalloc_steady.live (kmalloc_mem nonNull)

/-- The stack pointer of a task that has not run yet. -/
def preparedEsp (stack : Nat) : Nat := sub32 (add32 stack taskStackSize) 56

theorem pushAll_fst {memory : ByteMemory} {stackTop : Nat} {values : List Nat} (small : stackTop < 2 ^ 32)
    (fits : 4 * values.length < 2 ^ 32) :
    (Kernel.pushAll memory stackTop values).1 = sub32 stackTop (4 * values.length) := by
  induction values generalizing memory stackTop with
  | nil => exact (sub32_of_le (Nat.zero_le stackTop) small).symm
  | cons value rest ih =>
      rw [List.length_cons] at fits ⊢
      have bounded : sub32 stackTop 4 < 2 ^ 32 := Nat.mod_lt _ (by decide)
      rw [Kernel.pushAll, ih bounded (by omega), sub32, sub32, sub32]
      omega

theorem pushAll_initialFrame {memory : ByteMemory} :
    (Kernel.pushAll memory (add32 stack taskStackSize) (Kernel.initialFrame entryPoint)).1 = preparedEsp stack := by
  have small : add32 stack taskStackSize < 2 ^ 32 := Nat.mod_lt _ (by decide)
  have length : (Kernel.initialFrame entryPoint).length = 14 := rfl
  have fits : 4 * (Kernel.initialFrame entryPoint).length < 2 ^ 32 := by
    rw [length]
    decide
  exact (pushAll_fst small fits).trans (by rw [length]; rfl)

theorem taskCreate_eq (nonNull : newTask ≠ 0) (withStack : stack ≠ 0) :
    ∃ content : Task, content.state = .ready ∧ content.id = kernel.nextTaskId ∧ content.esp = preparedEsp stack ∧
      kernel.taskCreate fuel newTask stack entryPoint =
        (((kernel.prepared newTask stack entryPoint).setTask newTask content).appendTask fuel newTask).map
          fun kernel => (newTask, kernel) := by
  have allocated : ((kernel.kmalloc newTask).kmalloc stack).nextTaskId = kernel.nextTaskId := by
    rw [kmalloc_eq, kmalloc_eq]
  simp only [Kernel.taskCreate, if_neg nonNull, if_neg withStack]
  refine ⟨_, ?_, ?_, ?_, rfl⟩
  · rfl
  · exact allocated
  · have pushed : (Kernel.pushAll ((kernel.kmalloc newTask).kmalloc stack).memory.bytes (add32 stack taskStackSize)
        (Kernel.initialFrame entryPoint)).1 = preparedEsp stack := pushAll_initialFrame
    exact pushed

theorem taskCreate_made (fresh : Fresh kernel newTask)
    (done : kernel.taskCreate fuel newTask stack entryPoint = some (result, after)) :
    TaskMade kernel newTask result after := by
  by_cases null : newTask = 0
  · rw [Kernel.taskCreate, if_pos null] at done
    cases done
    exact .failed _ kmalloc_untouched
  by_cases stackless : stack = 0
  · simp only [Kernel.taskCreate, if_neg null, if_pos stackless] at done
    cases done
    exact .failed _ (fresh.kfree_untouched (kmalloc_untouched.trans kmalloc_untouched) null)
  obtain ⟨content, isReady, _, _, creates⟩ := taskCreate_eq null stackless
  rw [creates] at done
  obtain ⟨appended, isAppended, done⟩ := Option.map_eq_some_iff.mp done
  cases done
  have prepared : Untouched kernel (kernel.prepared newTask stack entryPoint) := prepared_untouched
  have allocated : newTask ∈ (kernel.prepared newTask stack entryPoint).live := prepared_mem null
  have linked := appendTask_appended isAppended
  refine .made _ null ((prepared.steady.trans setTask_steady).trans linked.steady)
    (linked.processes.trans prepared.processes) (linked.steady.live allocated) fun task => ?_
  rw [linked.state, setTask_tasks]
  split
  · exact isReady
  · rw [prepared.tasks]

theorem setProcess_processes {content : Process} {other : Nat} :
    (kernel.setProcess process content).processes other =
      if other = process then content else kernel.processes other := by
  simp only [Kernel.setProcess, Function.update_apply]

/-- Only the links of processes, and the first of them, are different. -/
structure Relinked (kernel after : Kernel) : Prop where
  tasks : after.tasks = kernel.tasks
  pid : ∀ process, (after.processes process).pid = (kernel.processes process).pid
  mainThread : ∀ process, (after.processes process).mainThread = (kernel.processes process).mainThread
  inbox : ∀ process, (after.processes process).inbox = (kernel.processes process).inbox
  nextPid : after.nextPid = kernel.nextPid
  live : after.live = kernel.live

theorem Relinked.trans {middle : Kernel} (first : Relinked kernel middle) (second : Relinked middle after) :
    Relinked kernel after :=
  ⟨second.tasks.trans first.tasks, fun process => (second.pid process).trans (first.pid process),
    fun process => (second.mainThread process).trans (first.mainThread process),
    fun process => (second.inbox process).trans (first.inbox process), second.nextPid.trans first.nextPid,
    second.live.trans first.live⟩

theorem setNext_relinked {next : Nat} :
    Relinked kernel (kernel.setProcess process { kernel.processes process with next }) := by
  refine ⟨rfl, fun other => ?_, fun other => ?_, fun other => ?_, rfl, rfl⟩
  all_goals
    rw [setProcess_processes]
    split
    · next same => rw [same]
    · rfl

theorem setNext_next {next other : Nat} :
    ((kernel.setProcess process { kernel.processes process with next }).processes other).next =
      if other = process then next else (kernel.processes other).next := by
  rw [setProcess_processes]
  split
  · rfl
  · rfl

/-- The end of `process_create`: the first process becomes the current one. -/
structure ProcessAppended (kernel : Kernel) (newProcess : Nat) (after : Kernel) : Prop where
  relinked : Relinked kernel after
  next : ∀ process, process ≠ newProcess →
    (after.processes process).next = (kernel.processes process).next ∨ (after.processes process).next = newProcess
  newNext : (after.processes newProcess).next = newProcess ∨
    (after.processes newProcess).next = kernel.processListHead ∧ kernel.processListHead ≠ 0
  processListHead : after.processListHead = if kernel.processListHead = 0 then newProcess else kernel.processListHead
  currentProcess : after.currentProcess = if kernel.processListHead = 0 then newProcess else kernel.currentProcess

theorem appendProcess_appended (done : kernel.appendProcess fuel newProcess = some after) :
    ProcessAppended kernel newProcess after := by
  rw [Kernel.appendProcess] at done
  by_cases first : kernel.processListHead = 0
  · rw [if_pos first] at done
    cases done
    have relinked : Relinked kernel
        (kernel.setProcess newProcess { kernel.processes newProcess with next := newProcess }) := setNext_relinked
    have next {other : Nat} : ((kernel.setProcess newProcess { kernel.processes newProcess with next := newProcess }).processes
        other).next = if other = newProcess then newProcess else (kernel.processes other).next := setNext_next
    refine ⟨⟨rfl, relinked.pid, relinked.mainThread, relinked.inbox, rfl, rfl⟩, fun other different => Or.inl ?_,
      Or.inl ?_, (if_pos first).symm, (if_pos first).symm⟩
    · exact next.trans (if_neg different)
    · exact next.trans (if_pos rfl)
  · rw [if_neg first] at done
    obtain ⟨last, _, rfl⟩ := Option.map_eq_some_iff.mp done
    refine ⟨setNext_relinked.trans setNext_relinked, fun other different => ?_, Or.inr ⟨?_, first⟩,
      (if_neg first).symm, (if_neg first).symm⟩
    · rw [setNext_next, if_neg different, setNext_next]
      split
      · exact Or.inr rfl
      · exact Or.inl rfl
    · rw [setNext_next, if_pos rfl]
      rfl

/-- What `process_create` leaves behind where it asks for the main thread. -/
structure ProcessPrepared (kernel : Kernel) (newProcess : Nat) (after : Kernel) : Prop where
  processes : ∀ process, process ≠ newProcess → after.processes process = kernel.processes process
  pid : (after.processes newProcess).pid = kernel.nextPid
  inbox : (after.processes newProcess).inbox = messageQueueInit
  currentProcess : after.currentProcess = kernel.currentProcess
  processListHead : after.processListHead = kernel.processListHead
  nextPid : after.nextPid < 2 ^ 32
  live : kernel.live ⊆ after.live
  allocated : newProcess ∈ after.live

/-- The kernel in which `process_create` asks for the main thread. -/
def Kernel.withDirectory (kernel : Kernel) (statics : Statics) (blocks : Kernel.Blocks) : Kernel :=
  let kernel := kernel.kmalloc blocks.process
  let pid := kernel.nextPid
  let kernel := Kernel.kmalloc { kernel with nextPid := add32 kernel.nextPid 1 } blocks.pageDir
  let (pageDir, paging) := createPageDirectory statics kernel.paging blocks.pageDir
  Kernel.setProcess { kernel with paging } blocks.process
    { pid, pageDir, mainThread := 0, next := 0, inbox := messageQueueInit }

theorem withDirectory_eq : kernel.withDirectory statics blocks =
    { kernel with
      nextPid := add32 kernel.nextPid 1
      processes := (kernel.withDirectory statics blocks).processes
      paging := (kernel.withDirectory statics blocks).paging
      live := (kernel.withDirectory statics blocks).live } := by
  simp only [Kernel.withDirectory, Kernel.setProcess, Kernel.kmalloc]
  split
  · split
    · rfl
    · rfl
  · split
    · rfl
    · rfl

theorem withDirectory_prepared (nonNull : blocks.process ≠ 0) :
    ProcessPrepared kernel blocks.process (kernel.withDirectory statics blocks) := by
  have allocated : Untouched kernel (kernel.kmalloc blocks.process) := kmalloc_untouched
  have counted : Untouched { kernel.kmalloc blocks.process with nextPid := add32 (kernel.kmalloc blocks.process).nextPid 1 }
    (Kernel.kmalloc { kernel.kmalloc blocks.process with nextPid := add32 (kernel.kmalloc blocks.process).nextPid 1 }
      blocks.pageDir) := kmalloc_untouched
  refine ⟨fun process different => ?_, ?_, ?_,
    counted.steady.currentProcess.trans allocated.steady.currentProcess,
    counted.steady.processListHead.trans allocated.steady.processListHead, ?_,
    allocated.steady.live.trans counted.steady.live, counted.steady.live (kmalloc_mem nonNull)⟩
  · simp only [Kernel.withDirectory, setProcess_processes, if_neg different]
    exact congrFun (counted.processes.trans allocated.processes) process
  · simp only [Kernel.withDirectory, setProcess_processes, if_pos]
    exact allocated.steady.nextPid
  · simp only [Kernel.withDirectory, setProcess_processes, if_pos]
  · have small : add32 (kernel.kmalloc blocks.process).nextPid 1 < 2 ^ 32 := Nat.mod_lt _ (by decide)
    exact counted.steady.nextPid.trans_lt small

theorem withDirectory_tasks : (kernel.withDirectory statics blocks).tasks = kernel.tasks := by
  rw [withDirectory_eq]

theorem withDirectory_live :
    (kernel.withDirectory statics blocks).live = ((kernel.kmalloc blocks.process).kmalloc blocks.pageDir).live := by
  simp only [Kernel.withDirectory, Kernel.setProcess, Kernel.kmalloc]
  split
  · rfl
  · rfl

theorem ProcessPrepared.trans_steady {middle : Kernel} (prepared : ProcessPrepared kernel newProcess middle)
    (steady : Steady middle after) (same : after.processes = middle.processes) :
    ProcessPrepared kernel newProcess after :=
  ⟨fun process different => (congrFun same process).trans (prepared.processes process different),
    (steady.pid newProcess).trans prepared.pid, (congrArg Process.inbox (congrFun same newProcess)).trans prepared.inbox,
    steady.currentProcess.trans prepared.currentProcess, steady.processListHead.trans prepared.processListHead,
    steady.nextPid.trans_lt prepared.nextPid, prepared.live.trans steady.live, steady.live prepared.allocated⟩

theorem ProcessPrepared.setMainThread {middle : Kernel} {mainThread : Nat}
    (prepared : ProcessPrepared kernel newProcess middle) :
    ProcessPrepared kernel newProcess
      (middle.setProcess newProcess { middle.processes newProcess with mainThread }) := by
  refine ⟨fun process different => ?_, ?_, ?_, prepared.currentProcess, prepared.processListHead, prepared.nextPid,
    prepared.live, prepared.allocated⟩
  · rw [setProcess_processes, if_neg different]
    exact prepared.processes process different
  · rw [setProcess_processes, if_pos rfl]
    exact prepared.pid
  · rw [setProcess_processes, if_pos rfl]
    exact prepared.inbox

/-- `process_create` after the main thread was asked for. -/
def Kernel.finishProcess (kernel : Kernel) (fuel newProcess mainThread : Nat) : Option (Nat × Kernel) :=
  let kernel := kernel.setProcess newProcess { kernel.processes newProcess with mainThread }
  if mainThread = 0 then some (0, kernel.kfree newProcess)
  else
    let kernel := kernel.setTask mainThread { kernel.tasks mainThread with process := newProcess }
    (kernel.appendProcess fuel newProcess).map fun kernel => (newProcess, kernel)

theorem createPageDirectory_fst {paging : Paging} {block : Nat} : (createPageDirectory statics paging block).1 = block := by
  rw [createPageDirectory]
  split
  · next null => exact null.symm
  · rfl

theorem processCreate_eq (nonNull : blocks.process ≠ 0) :
    kernel.processCreate statics fuel blocks entryPoint =
      if blocks.pageDir = 0 then some (0, (kernel.withDirectory statics blocks).kfree blocks.process)
      else ((kernel.withDirectory statics blocks).taskCreate fuel blocks.task blocks.stack entryPoint).bind
        fun (mainThread, kernel) => kernel.finishProcess fuel blocks.process mainThread := by
  have creates : ∃ pageDir : Nat, pageDir = blocks.pageDir ∧ kernel.processCreate statics fuel blocks entryPoint =
      if pageDir = 0 then some (0, (kernel.withDirectory statics blocks).kfree blocks.process)
      else ((kernel.withDirectory statics blocks).taskCreate fuel blocks.task blocks.stack entryPoint).bind
        fun (mainThread, kernel) => kernel.finishProcess fuel blocks.process mainThread := by
    simp only [Kernel.processCreate, if_neg nonNull]
    exact ⟨_, createPageDirectory_fst, rfl⟩
  obtain ⟨_, rfl, creates⟩ := creates
  exact creates

/-- What `process_create` leaves when it fails: the block of the process was used for a while. -/
structure ProcessFailed (kernel : Kernel) (newProcess : Nat) (after : Kernel) : Prop where
  processes : ∀ process, process ≠ newProcess → after.processes process = kernel.processes process
  state : ∀ task, (after.tasks task).state = (kernel.tasks task).state
  currentProcess : after.currentProcess = kernel.currentProcess
  processListHead : after.processListHead = kernel.processListHead
  nextPid : after.nextPid = kernel.nextPid ∨ after.nextPid < 2 ^ 32
  live : kernel.live ⊆ after.live

/-- What `process_create` leaves when it succeeds. -/
structure ProcessMade (kernel : Kernel) (newProcess newTask : Nat) (after : Kernel) : Prop where
  processNonNull : newProcess ≠ 0
  taskNonNull : newTask ≠ 0
  pid : ∀ process, (after.processes process).pid =
    if process = newProcess then kernel.nextPid else (kernel.processes process).pid
  mainThread : ∀ process, (after.processes process).mainThread =
    if process = newProcess then newTask else (kernel.processes process).mainThread
  inbox : ∀ process, (after.processes process).inbox =
    if process = newProcess then messageQueueInit else (kernel.processes process).inbox
  next : ∀ process, process ≠ newProcess → (after.processes process).next = (kernel.processes process).next ∨
    (after.processes process).next = newProcess
  newNext : (after.processes newProcess).next = newProcess ∨ (after.processes newProcess).next = kernel.processListHead ∧ kernel.processListHead ≠ 0
  state : ∀ task, (after.tasks task).state = if task = newTask then .ready else (kernel.tasks task).state
  processListHead : after.processListHead = if kernel.processListHead = 0 then newProcess else kernel.processListHead
  currentProcess : after.currentProcess = if kernel.processListHead = 0 then newProcess else kernel.currentProcess
  nextPid : after.nextPid < 2 ^ 32
  live : kernel.live ⊆ after.live
  processLive : newProcess ∈ after.live
  taskLive : newTask ∈ after.live

theorem ProcessPrepared.failed {middle : Kernel} (prepared : ProcessPrepared kernel newProcess middle)
    (tasks : middle.tasks = kernel.tasks) (fresh : Fresh kernel newProcess) (nonNull : newProcess ≠ 0) :
    ProcessFailed kernel newProcess (middle.kfree newProcess) := by
  refine ⟨prepared.processes, fun task => congrArg (fun tasks => (tasks task).state) tasks, prepared.currentProcess,
    prepared.processListHead, Or.inr prepared.nextPid, fun block member => ?_⟩
  have different : block ≠ newProcess := fun same => fresh.resolve_left nonNull (same ▸ member)
  exact Finset.mem_erase.mpr ⟨different, prepared.live member⟩

theorem ProcessPrepared.made {middle : Kernel} (prepared : ProcessPrepared kernel newProcess middle)
    (processNonNull : newProcess ≠ 0) (taskNonNull : newTask ≠ 0)
    (mainThread : (middle.processes newProcess).mainThread = newTask)
    (state : ∀ task, (middle.tasks task).state = if task = newTask then .ready else (kernel.tasks task).state)
    (taskLive : newTask ∈ middle.live) (appended : ProcessAppended middle newProcess after) :
    ProcessMade kernel newProcess newTask after := by
  obtain ⟨relinked, next, newNext, processListHead, currentProcess⟩ := appended
  refine ⟨processNonNull, taskNonNull, fun process => ?_, fun process => ?_, fun process => ?_,
    fun process different => ?_, ?_, fun task => ?_, ?_, ?_, ?_, ?_, ?_, ?_⟩
  · rw [relinked.pid]
    split
    · next same => rw [same, prepared.pid]
    · next different => rw [prepared.processes process different]
  · rw [relinked.mainThread]
    split
    · next same => rw [same, mainThread]
    · next different => rw [prepared.processes process different]
  · rw [relinked.inbox]
    split
    · next same => rw [same, prepared.inbox]
    · next different => rw [prepared.processes process different]
  · rw [← prepared.processes process different]
    exact next process different
  · rw [← prepared.processListHead]
    exact newNext
  · rw [relinked.tasks]
    exact state task
  · rw [processListHead, prepared.processListHead]
  · rw [currentProcess, prepared.processListHead, prepared.currentProcess]
  · exact relinked.nextPid.trans_lt prepared.nextPid
  · exact prepared.live.trans (subset_of_eq relinked.live.symm)
  · exact relinked.live ▸ prepared.allocated
  · exact relinked.live ▸ taskLive

/-- The outcomes of `process_create`. -/
inductive ProcessCreated (kernel : Kernel) (blocks : Kernel.Blocks) : Nat → Kernel → Prop where
  | failed (after : Kernel) (failed : ProcessFailed kernel blocks.process after) : ProcessCreated kernel blocks 0 after
  | made (after : Kernel) (made : ProcessMade kernel blocks.process blocks.task after) :
      ProcessCreated kernel blocks blocks.process after

/-- The two answers of `kmalloc` that tell objects apart. -/
structure FreshBlocks (kernel : Kernel) (blocks : Kernel.Blocks) : Prop where
  process : Fresh kernel blocks.process
  task : Fresh ((kernel.kmalloc blocks.process).kmalloc blocks.pageDir) blocks.task

theorem processCreate_created (fresh : FreshBlocks kernel blocks)
    (done : kernel.processCreate statics fuel blocks entryPoint = some (result, after)) :
    ProcessCreated kernel blocks result after := by
  by_cases null : blocks.process = 0
  · rw [Kernel.processCreate, if_pos null] at done
    cases done
    have allocated : Untouched kernel (kernel.kmalloc blocks.process) := kmalloc_untouched
    exact .failed _ ⟨fun process _ => congrFun allocated.processes process,
      fun task => congrArg (fun tasks => (tasks task).state) allocated.tasks, allocated.steady.currentProcess,
      allocated.steady.processListHead, Or.inl allocated.steady.nextPid, allocated.steady.live⟩
  rw [processCreate_eq null] at done
  have prepared : ProcessPrepared kernel blocks.process (kernel.withDirectory statics blocks) :=
    withDirectory_prepared null
  have tasks : (kernel.withDirectory statics blocks).tasks = kernel.tasks := withDirectory_tasks
  have freshTask : Fresh (kernel.withDirectory statics blocks) blocks.task := by
    rw [Fresh, withDirectory_live]
    exact fresh.task
  by_cases noDirectory : blocks.pageDir = 0
  · rw [if_pos noDirectory] at done
    cases done
    exact .failed _ (prepared.failed tasks fresh.process null)
  rw [if_neg noDirectory] at done
  obtain ⟨⟨mainThread, created⟩, creation, done⟩ := Option.bind_eq_some_iff.mp done
  simp only [Kernel.finishProcess] at done
  cases taskCreate_made freshTask creation with
  | failed _ untouched =>
      rw [if_pos rfl] at done
      cases done
      exact .failed _ ((prepared.trans_steady untouched.steady untouched.processes).setMainThread.failed
        (untouched.tasks.trans tasks) fresh.process null)
  | made _ taskNonNull steady processes allocated state =>
      rw [if_neg taskNonNull] at done
      obtain ⟨appended, isAppended, done⟩ := Option.map_eq_some_iff.mp done
      cases done
      have linked := appendProcess_appended isAppended
      refine .made _ (((prepared.trans_steady steady processes).setMainThread.trans_steady setTask_steady rfl).made null
        taskNonNull ?_ (fun task => ?_) allocated linked)
      · exact congrArg Process.mainThread (setProcess_processes.trans (if_pos rfl))
      · rw [← tasks, ← state task, setTask_tasks]
        split
        · next same => rw [same]; rfl
        · rfl

end AutismOS.Processes
