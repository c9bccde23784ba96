import AutismOS.Processes.Context

namespace AutismOS.Processes

open AutismOS.Library AutismOS.Memory

variable {statics : Statics} {kernel after : Kernel} {blocks : Kernel.Blocks} {next : Nat → Nat} {nodes : List Nat}
variable {fuel head newTask stack entryPoint newProcess task process result : Nat}

/-! The lists of processes and tasks. -/

def Kernel.processLink (kernel : Kernel) (process : Nat) : Nat := (kernel.processes process).next

theorem kfree_kmalloc (nonNull : newTask ≠ 0) (unused : newTask ∉ kernel.live) :
    (kernel.kmalloc newTask).kfree newTask = kernel := by
  rw [Kernel.kmalloc, if_neg nonNull, Kernel.kfree, Finset.erase_insert unused]

/-- A `task_create` that fails leaves everything as it was. -/
theorem taskCreate_failed (fresh : Fresh kernel newTask) (failed : newTask = 0 ∨ stack = 0) :
    kernel.taskCreate fuel newTask stack entryPoint = some (0, kernel) := by
  by_cases null : newTask = 0
  · subst null
    rfl
  · have noStack : stack = 0 := failed.resolve_left null
    subst noStack
    rw [Kernel.taskCreate, if_neg null]
    exact congrArg (fun kernel => some (0, kernel)) (kfree_kmalloc null (fresh.resolve_left null))

theorem setProcessNext_update {link : Nat} :
    (kernel.setProcess process { kernel.processes process with next := link }).processLink =
      Function.update kernel.processLink process link := by
  funext other
  rw [Function.update_apply]
  exact setNext_next

/-- The processes are linked differently, and the tasks stay. -/
structure ProcessInserted (kernel after : Kernel) : Prop where
  relinked : Relinked kernel after
  taskListHead : after.taskListHead = kernel.taskListHead
  nextTaskId : after.nextTaskId = kernel.nextTaskId

/-- The end of `process_create` inserts the process into the list. -/
theorem appendProcess_inserts
    (inserted : Ring.insert kernel.processLink 0 kernel.processListHead newProcess fuel = some (next, head)) :
    ∃ after, kernel.appendProcess fuel newProcess = some after ∧ after.processLink = next ∧
      after.processListHead = head ∧ ProcessInserted kernel after := by
  rw [Ring.insert] at inserted
  rw [Kernel.appendProcess]
  by_cases first : kernel.processListHead = 0
  · rw [if_pos first] at inserted ⊢
    obtain ⟨rfl, rfl⟩ := Prod.mk.inj (Option.some.inj inserted)
    have alone : Relinked kernel
        (kernel.setProcess newProcess { kernel.processes newProcess with next := newProcess }) := setNext_relinked
    exact ⟨_, rfl, setProcessNext_update, rfl, ⟨rfl, alone.pid, alone.mainThread, alone.inbox, rfl, rfl⟩, rfl, rfl⟩
  · rw [if_neg first] at inserted ⊢
    obtain ⟨last, walked, relinked⟩ := Option.map_eq_some_iff.mp inserted
    obtain ⟨rfl, rfl⟩ := Prod.mk.inj relinked
    refine ⟨_, congrArg (Option.map _) walked, ?_, rfl, setNext_relinked.trans setNext_relinked, rfl, rfl⟩
    rw [← setProcessNext_update, ← setProcessNext_update]
    rfl

/-- What a `task_create` that succeeds does to the lists and numbers. -/
structure TaskListed (kernel : Kernel) (newTask : Nat) (nodes : List Nat) (after : Kernel) : Prop where
  list : Ring.Listed after.link 0 after.taskListHead (nodes ++ [newTask])
  id : ∀ task, (after.tasks task).id = if task = newTask then kernel.nextTaskId else (kernel.tasks task).id
  nextTaskId : after.nextTaskId = add32 kernel.nextTaskId 1
  processes : after.processes = kernel.processes
  processListHead : after.processListHead = kernel.processListHead
  nextPid : after.nextPid = kernel.nextPid
  live : kernel.live ⊆ after.live
  allocated : newTask ∈ after.live

theorem taskCreate_listed (list : Ring.Listed kernel.link 0 kernel.taskListHead nodes) (nonNull : newTask ≠ 0)
    (withStack : stack ≠ 0) (isNew : newTask ∉ nodes) (enough : nodes.length ≤ fuel) :
    ∃ after, kernel.taskCreate fuel newTask stack entryPoint = some (newTask, after) ∧
      TaskListed kernel newTask nodes after := by
  obtain ⟨content, _, number, _, creates⟩ : ∃ content : Task, _ ∧ content.id = kernel.nextTaskId ∧ _ ∧
      kernel.taskCreate fuel newTask stack entryPoint = _ := taskCreate_eq nonNull withStack
  have untouched : Untouched kernel (kernel.prepared newTask stack entryPoint) := prepared_untouched
  let stored := (kernel.prepared newTask stack entryPoint).setTask newTask content
  have preparedHead : (kernel.prepared newTask stack entryPoint).taskListHead = kernel.taskListHead := by
    rw [prepared_eq]
  have sameHead : stored.taskListHead = kernel.taskListHead := preparedHead
  have stays : Ring.Listed stored.link 0 stored.taskListHead nodes := by
    rw [sameHead]
    refine list.frame ?_
    intro task member
    have different : task ≠ newTask := fun same => isNew (same ▸ member)
    rw [Kernel.link, setTask_tasks, if_neg different, untouched.tasks]
    rfl
  obtain ⟨next, head, inserted, listed⟩ := stays.insert isNew nonNull enough
  obtain ⟨after, appends, rfl, rfl, _, kept⟩ := appendTask_inserts inserted
  refine ⟨after, ?_, listed, ?_, ?_, ?_, ?_, ?_, ?_, ?_⟩
  · rw [creates, appends]
    rfl
  · intro task
    rw [kept.content, setTask_tasks]
    split
    · exact number
    · rw [untouched.tasks]
  · have counted : (kernel.prepared newTask stack entryPoint).nextTaskId = add32 kernel.nextTaskId 1 := by
      rw [prepared_eq]
    exact kept.nextTaskId.trans counted
  · exact kept.processes.trans untouched.processes
  · exact kept.processListHead.trans untouched.steady.processListHead
  · exact kept.nextPid.trans untouched.steady.nextPid
  · rw [kept.live]
    exact untouched.steady.live
  · have allocated : newTask ∈ (kernel.prepared newTask stack entryPoint).live := prepared_mem nonNull
    exact kept.live ▸ allocated

/-- What a `process_create` that succeeds does to the lists and numbers. -/
structure ProcessListed (kernel : Kernel) (newProcess newTask : Nat) (processes tasks : List Nat) (after : Kernel) :
    Prop where
  made : ProcessMade kernel newProcess newTask after
  processList : Ring.Listed after.processLink 0 after.processListHead (processes ++ [newProcess])
  taskList : Ring.Listed after.link 0 after.taskListHead (tasks ++ [newTask])
  id : ∀ task, (after.tasks task).id = if task = newTask then kernel.nextTaskId else (kernel.tasks task).id
  nextPid : after.nextPid = add32 kernel.nextPid 1
  nextTaskId : after.nextTaskId = add32 kernel.nextTaskId 1

theorem ProcessCreated.succeeded (created : ProcessCreated kernel blocks result after) (nonNull : result ≠ 0) :
    ProcessMade kernel blocks.process blocks.task after := by
  cases created with
  | failed _ failed => exact absurd rfl nonNull
  | made _ made => exact made

/-- The kernel in which `process_create` inserts the process. -/
def Kernel.threaded (kernel : Kernel) (process mainThread : Nat) : Kernel :=
  let kernel := kernel.setProcess process { kernel.processes process with mainThread }
  kernel.setTask mainThread { kernel.tasks mainThread with process }

theorem threaded_link : (kernel.threaded process newTask).link = kernel.link := by
  funext task
  rw [Kernel.threaded, Kernel.link, setTask_tasks]
  split
  · next same => rw [same]; rfl
  · rfl

theorem threaded_id : ((kernel.threaded process newTask).tasks task).id = (kernel.tasks task).id := by
  rw [Kernel.threaded, setTask_tasks]
  split
  · next same => rw [same]; rfl
  · rfl

theorem threaded_processes {other : Nat} (different : other ≠ process) :
    (kernel.threaded process newTask).processes other = kernel.processes other := by
  have threads : (kernel.setProcess process { kernel.processes process with mainThread := newTask }).processes other =
      kernel.processes other := setProcess_processes.trans (if_neg different)
  exact threads

/-- With all four blocks `process_create` succeeds. -/
theorem processCreate_listed {processes tasks : List Nat} (fresh : FreshBlocks kernel blocks)
    (processNonNull : blocks.process ≠ 0) (withDirectory : blocks.pageDir ≠ 0) (taskNonNull : blocks.task ≠ 0)
    (withStack : blocks.stack ≠ 0) (processList : Ring.Listed kernel.processLink 0 kernel.processListHead processes)
    (taskList : Ring.Listed kernel.link 0 kernel.taskListHead tasks) (newProcess : blocks.process ∉ processes)
    (newTask : blocks.task ∉ tasks) (enough : processes.length ≤ fuel) (enoughTasks : tasks.length ≤ fuel) :
    ∃ after, kernel.processCreate statics fuel blocks entryPoint = some (blocks.process, after) ∧
      ProcessListed kernel blocks.process blocks.task processes tasks after := by
  let directed := kernel.withDirectory statics blocks
  have prepared : ProcessPrepared kernel blocks.process directed := withDirectory_prepared processNonNull
  have sameTasks : directed.tasks = kernel.tasks := withDirectory_tasks
  have nextPid : (kernel.withDirectory statics blocks).nextPid = add32 kernel.nextPid 1 := by rw [withDirectory_eq]
  have nextTaskId : (kernel.withDirectory statics blocks).nextTaskId = kernel.nextTaskId := by rw [withDirectory_eq]
  have taskListHead : (kernel.withDirectory statics blocks).taskListHead = kernel.taskListHead := by
    rw [withDirectory_eq]
  have sameHead : directed.taskListHead = kernel.taskListHead := taskListHead
  have directedList : Ring.Listed directed.link 0 directed.taskListHead tasks := by
    rw [sameHead]
    exact taskList.frame fun task _ => congrArg (fun tasks => (tasks task).next) sameTasks
  obtain ⟨created, creates, listed⟩ : ∃ created,
      directed.taskCreate fuel blocks.task blocks.stack entryPoint = some (_, created) ∧ _ :=
    taskCreate_listed directedList taskNonNull withStack newTask enoughTasks
  let threaded := created.threaded blocks.process blocks.task
  have threadedList : Ring.Listed threaded.processLink 0 threaded.processListHead processes := by
    have sameHead : threaded.processListHead = kernel.processListHead :=
      listed.processListHead.trans prepared.processListHead
    rw [sameHead]
    refine processList.frame ?_
    intro process member
    have different : process ≠ blocks.process := fun same => newProcess (same ▸ member)
    have same : threaded.processes process = kernel.processes process := by
      rw [threaded_processes different, listed.processes, prepared.processes process different]
    exact congrArg Process.next same
  obtain ⟨next, head, inserted, processListed⟩ := threadedList.insert newProcess processNonNull enough
  obtain ⟨after, appends, rfl, rfl, kept⟩ := appendProcess_inserts inserted
  have finishes : created.finishProcess fuel blocks.process blocks.task = some (blocks.process, after) := by
    simp only [Kernel.finishProcess, if_neg taskNonNull]
    exact congrArg (Option.map _) appends
  have done : kernel.processCreate statics fuel blocks entryPoint = some (blocks.process, after) := by
    rw [processCreate_eq processNonNull, if_neg withDirectory, creates]
    exact finishes
  refine ⟨after, done, (processCreate_created fresh done).succeeded processNonNull, processListed, ?_, ?_, ?_, ?_⟩
  · have threadedLink : threaded.link = created.link := threaded_link
    have sameLink : after.link = threaded.link :=
      funext fun task => congrArg (fun tasks => (tasks task).next) kept.relinked.tasks
    rw [sameLink, threadedLink, kept.taskListHead]
    exact listed.list
  · intro task
    rw [kept.relinked.tasks, threaded_id, listed.id, nextTaskId, sameTasks]
  · exact kept.relinked.nextPid.trans (listed.nextPid.trans nextPid)
  · exact kept.nextTaskId.trans (listed.nextTaskId.trans (congrArg (add32 · 1) nextTaskId))

/-- What a `process_create` that fails behind its first request leaves: a pid was given away, and the block of
the page directory may stay in use. -/
structure ProcessDropped (kernel : Kernel) (blocks : Kernel.Blocks) (after : Kernel) : Prop where
  tasks : after.tasks = kernel.tasks
  taskListHead : after.taskListHead = kernel.taskListHead
  nextTaskId : after.nextTaskId = kernel.nextTaskId
  processes : ∀ process, process ≠ blocks.process → after.processes process = kernel.processes process
  processListHead : after.processListHead = kernel.processListHead
  nextPid : after.nextPid = add32 kernel.nextPid 1
  live : after.live = ((kernel.kmalloc blocks.process).kmalloc blocks.pageDir).live.erase blocks.process

theorem withDirectory_dropped (nonNull : blocks.process ≠ 0) :
    ProcessDropped kernel blocks ((kernel.withDirectory statics blocks).kfree blocks.process) := by
  have prepared : ProcessPrepared kernel blocks.process (kernel.withDirectory statics blocks) :=
    withDirectory_prepared nonNull
  have live : (kernel.withDirectory statics blocks).live = _ := withDirectory_live
  refine ⟨?_, ?_, ?_, prepared.processes, prepared.processListHead, ?_, congrArg (Finset.erase · blocks.process) live⟩
  all_goals
    rw [withDirectory_eq]
    rfl

theorem processCreate_failed (fresh : FreshBlocks kernel blocks) (nonNull : blocks.process ≠ 0)
    (failed : blocks.pageDir = 0 ∨ blocks.task = 0 ∨ blocks.stack = 0) :
    ∃ after, kernel.processCreate statics fuel blocks entryPoint = some (0, after) ∧
      ProcessDropped kernel blocks after := by
  have dropped : ProcessDropped kernel blocks ((kernel.withDirectory statics blocks).kfree blocks.process) :=
    withDirectory_dropped nonNull
  rw [processCreate_eq nonNull]
  by_cases noDirectory : blocks.pageDir = 0
  · rw [if_pos noDirectory]
    exact ⟨_, rfl, dropped⟩
  · rw [if_neg noDirectory]
    have freshTask : Fresh (kernel.withDirectory statics blocks) blocks.task := by
      rw [Fresh, withDirectory_live]
      exact fresh.task
    rw [taskCreate_failed freshTask (failed.resolve_left noDirectory)]
    refine ⟨_, rfl, dropped.tasks, dropped.taskListHead, dropped.nextTaskId, ?_, dropped.processListHead,
      dropped.nextPid, dropped.live⟩
    intro process different
    rw [← dropped.processes process different]
    exact setProcess_processes.trans (if_neg different)

end AutismOS.Processes

namespace AutismOS.Processes

open AutismOS.Library AutismOS.Memory

variable {statics : Statics} {kernel after : Kernel} {blocks : Kernel.Blocks}
variable {fuel newTask stack entryPoint process result : Nat}

/-- The blocks in use and both lists are as before: their heads, and the links of all objects in use. -/
structure LeaksNothing (kernel after : Kernel) : Prop where
  live : after.live = kernel.live
  processListHead : after.processListHead = kernel.processListHead
  processLink : ∀ process ∈ kernel.live, after.processLink process = kernel.processLink process
  taskListHead : after.taskListHead = kernel.taskListHead
  link : ∀ task, after.link task = kernel.link task

/-- The answers of `kmalloc` to one `process_create` are NULL or blocks that are not in use. -/
structure Distinct (kernel : Kernel) (blocks : Kernel.Blocks) : Prop extends FreshBlocks kernel blocks where
  pageDir : Fresh (kernel.kmalloc blocks.process) blocks.pageDir

theorem taskCreate_result (nonNull : newTask ≠ 0) (withStack : stack ≠ 0)
    (done : kernel.taskCreate fuel newTask stack entryPoint = some (result, after)) : result = newTask := by
  obtain ⟨content, _, _, _, creates⟩ : ∃ content : Task, _ ∧ _ ∧ _ ∧
      kernel.taskCreate fuel newTask stack entryPoint = _ := taskCreate_eq nonNull withStack
  rw [creates] at done
  obtain ⟨_, _, same⟩ := Option.map_eq_some_iff.mp done
  exact (congrArg Prod.fst same).symm

/-- A `process_create` that returns NULL was refused one of its blocks. -/
theorem processCreate_refused (done : kernel.processCreate statics fuel blocks entryPoint = some (0, after)) :
    blocks.process = 0 ∨ blocks.pageDir = 0 ∨ blocks.task = 0 ∨ blocks.stack = 0 := by
  by_contra granted
  simp only [not_or] at granted
  obtain ⟨processNonNull, withDirectory, taskNonNull, withStack⟩ := granted
  rw [processCreate_eq processNonNull, if_neg withDirectory] at done
  obtain ⟨⟨mainThread, created⟩, creation, done⟩ := Option.bind_eq_some_iff.mp done
  obtain rfl := taskCreate_result taskNonNull withStack creation
  simp only [Kernel.finishProcess, if_neg taskNonNull] at done
  obtain ⟨_, _, same⟩ := Option.map_eq_some_iff.mp done
  exact processNonNull (congrArg Prod.fst same)

/-- What is left is the block of the page directory, if there was one. -/
theorem ProcessDropped.live_iff (dropped : ProcessDropped kernel blocks after) (distinct : Distinct kernel blocks)
    (nonNull : blocks.process ≠ 0) : after.live = kernel.live ↔ blocks.pageDir = 0 := by
  have unused := distinct.process.resolve_left nonNull
  rw [dropped.live]
  by_cases noDirectory : blocks.pageDir = 0
  · refine iff_of_true ?_ noDirectory
    rw [Kernel.kmalloc, if_pos noDirectory, Kernel.kmalloc, if_neg nonNull]
    exact Finset.erase_insert unused
  · refine iff_of_false ?_ noDirectory
    have absent := distinct.pageDir.resolve_left noDirectory
    intro same
    have held : blocks.pageDir ∈ ((kernel.kmalloc blocks.process).kmalloc blocks.pageDir).live :=
      kmalloc_mem noDirectory
    have apart : blocks.pageDir ≠ blocks.process := by
      intro isProcess
      rw [isProcess] at absent
      exact absent (kmalloc_mem nonNull)
    have kept : blocks.pageDir ∈ kernel.live := same ▸ Finset.mem_erase.mpr ⟨apart, held⟩
    exact absent (kmalloc_steady.live kept)

/-- A failed `process_create` leaves blocks and lists as they were exactly when it did not get as far as
the main thread. -/
theorem processCreate_leaks_nothing_iff (distinct : Distinct kernel blocks)
    (done : kernel.processCreate statics fuel blocks entryPoint = some (0, after)) :
    LeaksNothing kernel after ↔ blocks.process = 0 ∨ blocks.pageDir = 0 := by
  by_cases null : blocks.process = 0
  · rw [Kernel.processCreate, if_pos null, Kernel.kmalloc, if_pos null] at done
    obtain rfl := (congrArg Prod.snd (Option.some.inj done)).symm
    exact iff_of_true ⟨rfl, rfl, fun _ _ => rfl, rfl, fun _ => rfl⟩ (Or.inl null)
  · obtain ⟨final, drops, dropped⟩ : ∃ final,
        kernel.processCreate statics fuel blocks entryPoint = some (0, final) ∧ _ :=
      processCreate_failed distinct.toFreshBlocks null ((processCreate_refused done).resolve_left null)
    obtain rfl := (congrArg Prod.snd (Option.some.inj (drops.symm.trans done))).symm
    rw [or_iff_right null, ← dropped.live_iff distinct null]
    constructor
    · exact fun leaks => leaks.live
    · intro live
      refine ⟨live, dropped.processListHead, ?_, dropped.taskListHead, ?_⟩
      · intro process member
        have different : process ≠ blocks.process := fun same => distinct.process.resolve_left null (same ▸ member)
        exact congrArg Process.next (dropped.processes process different)
      · exact fun task => congrArg (fun tasks => (tasks task).next) dropped.tasks

theorem processCreate_leaks_nothing_without_directory :
    ∃ after, emptyKernel.processCreate lowStatics 4 { firstBlocks with pageDir := 0 } 0x101000 = some (0, after) ∧
      LeaksNothing emptyKernel after := by
  have distinct : Distinct emptyKernel { firstBlocks with pageDir := 0 } :=
    ⟨⟨Or.inr (by decide), Or.inr (by decide)⟩, Or.inl rfl⟩
  have done : ∃ after,
      emptyKernel.processCreate lowStatics 4 { firstBlocks with pageDir := 0 } 0x101000 = some (0, after) := ⟨_, rfl⟩
  obtain ⟨after, done⟩ := done
  exact ⟨after, done, (processCreate_leaks_nothing_iff distinct done).mpr (Or.inr rfl)⟩

/-- The page directory stays allocated when there is no memory left for the main thread. -/
theorem processCreate_leaks_directory :
    Distinct emptyKernel { firstBlocks with task := 0 } ∧
      ∃ after, emptyKernel.processCreate lowStatics 4 { firstBlocks with task := 0 } 0x101000 = some (0, after) ∧
        after.live = {firstBlocks.pageDir} ∧ ¬ LeaksNothing emptyKernel after := by
  have left : ∃ after, emptyKernel.processCreate lowStatics 4 { firstBlocks with task := 0 } 0x101000 = some (0, after) ∧
      after.live = {firstBlocks.pageDir} := ⟨_, rfl, by decide⟩
  obtain ⟨after, done, held⟩ := left
  refine ⟨⟨⟨Or.inr (by decide), Or.inl rfl⟩, Or.inr (by decide)⟩, after, done, held, ?_⟩
  intro leaks
  have nothing : after.live = ∅ := leaks.live
  exact absurd (held.symm.trans nothing) (by decide)

end AutismOS.Processes
