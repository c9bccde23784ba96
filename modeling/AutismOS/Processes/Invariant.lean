import AutismOS.Processes.Creation
import AutismOS.Processes.Isolation

namespace AutismOS.Processes

open AutismOS.Library AutismOS.Ipc AutismOS.Memory

variable {statics : Statics} {kernel after : Kernel} {created : Finset Nat} {system next : System} {action : Action}
variable {regs regs' : Registers} {blocks : Kernel.Blocks}
variable {fuel pid process newProcess newTask target result : Nat}

/-! What holds of processes in every run. -/

/-- The links of the processes that were created, and their main threads. -/
structure Wired (kernel : Kernel) (created : Finset Nat) : Prop where
  head : kernel.processListHead = 0 ∨ kernel.processListHead ∈ created
  next : ∀ process ∈ created, (kernel.processes process).next ∈ created
  nonNull : 0 ∉ created
  live : created ⊆ kernel.live
  thread : ∀ process ∈ created,
    (kernel.processes process).mainThread ≠ 0 ∧ (kernel.processes process).mainThread ∈ kernel.live
  apart : ∀ process ∈ created, ∀ other ∈ created,
    (kernel.processes process).mainThread = (kernel.processes other).mainThread → process = other
  current : kernel.currentProcess = 0 ∨ kernel.currentProcess ∈ created
  pid : ∀ process ∈ created, (kernel.processes process).pid < 2 ^ 32
  nextPid : kernel.nextPid < 2 ^ 32

/-- The state after `task_init` and `process_init`. -/
def initialSystem (kernel : Kernel) : System := { kernel := kernel.taskInit.processInit, created := ∅ }

theorem initialSystem_wired : Wired (initialSystem kernel).kernel (initialSystem kernel).created := by
  refine ⟨Or.inl rfl, ?_, ?_, ?_, ?_, ?_, Or.inl rfl, ?_, Nat.two_pow_pos 32⟩
  all_goals simp [initialSystem]

/-- A search by pid finds only processes that were created. -/
theorem Wired.found (wired : Wired kernel created) (found : kernel.processFindByPid fuel pid = some target)
    (nonNull : target ≠ 0) : target ∈ created := by
  rw [Kernel.processFindByPid] at found
  by_cases empty : kernel.processListHead = 0
  · rw [if_pos empty] at found
    exact absurd (Option.some.inj found).symm nonNull
  · rw [if_neg empty] at found
    obtain ⟨answer, walked, isTarget⟩ := Option.map_eq_some_iff.mp found
    cases answer with
    | none => exact absurd isTarget.symm nonNull
    | some node =>
        cases isTarget
        exact (Ring.find_some walked (wired.head.resolve_left empty) wired.next).2

/-- A block that is not in use is no process. -/
theorem Wired.fresh (wired : Wired kernel created) (fresh : Fresh kernel process) : process ∉ created := by
  intro member
  rcases fresh with null | unused
  · exact wired.nonNull (null ▸ member)
  · exact unused (wired.live member)

theorem Wired.steady (wired : Wired kernel created) (steady : Steady kernel after) : Wired after created := by
  refine ⟨?_, fun process member => ?_, wired.nonNull, wired.live.trans steady.live, fun process member => ?_,
    fun process member other otherMember same => ?_, ?_, fun process member => ?_, ?_⟩
  · rw [steady.processListHead]
    exact wired.head
  · rw [steady.next]
    exact wired.next process member
  · rw [steady.mainThread]
    exact ⟨(wired.thread process member).1, steady.live (wired.thread process member).2⟩
  · rw [steady.mainThread, steady.mainThread] at same
    exact wired.apart process member other otherMember same
  · rw [steady.currentProcess]
    exact wired.current
  · rw [steady.pid]
    exact wired.pid process member
  · rw [steady.nextPid]
    exact wired.nextPid

theorem Wired.switched (wired : Wired kernel created) (switched : Switched kernel process after)
    (allowed : process = 0 ∨ process ∈ created) : Wired after created := by
  obtain ⟨processes, _, _, processListHead, nextPid, live, currentProcess⟩ := switched
  have current : after.currentProcess = 0 ∨ after.currentProcess ∈ created := by
    rw [currentProcess]
    split
    · exact wired.current
    · exact allowed
  refine ⟨?_, ?_, wired.nonNull, ?_, ?_, ?_, current, ?_, ?_⟩
  · rw [processListHead]
    exact wired.head
  · rw [processes]
    exact wired.next
  · rw [live]
    exact wired.live
  · rw [processes, live]
    exact wired.thread
  · rw [processes]
    exact wired.apart
  · rw [processes]
    exact wired.pid
  · rw [nextPid]
    exact wired.nextPid

theorem Wired.failed (wired : Wired kernel created) (fresh : Fresh kernel newProcess)
    (failed : ProcessFailed kernel newProcess after) : Wired after created := by
  have same : ∀ process ∈ created, after.processes process = kernel.processes process :=
    fun process member => failed.processes process fun isNew => wired.fresh fresh (isNew ▸ member)
  refine ⟨?_, fun process member => ?_, wired.nonNull, wired.live.trans failed.live, fun process member => ?_,
    fun process member other otherMember equal => ?_, ?_, fun process member => ?_, ?_⟩
  · rw [failed.processListHead]
    exact wired.head
  · rw [same process member]
    exact wired.next process member
  · rw [same process member]
    exact ⟨(wired.thread process member).1, failed.live (wired.thread process member).2⟩
  · rw [same process member, same other otherMember] at equal
    exact wired.apart process member other otherMember equal
  · rw [failed.currentProcess]
    exact wired.current
  · rw [same process member]
    exact wired.pid process member
  · rcases failed.nextPid with unchanged | small
    · rw [unchanged]
      exact wired.nextPid
    · exact small

/-- The new thread is not the main thread of another process. -/
theorem Wired.newThread (wired : Wired kernel created) (fresh : FreshBlocks kernel blocks)
    (nonNull : blocks.task ≠ 0) (member : process ∈ created) :
    (kernel.processes process).mainThread ≠ blocks.task := by
  intro same
  have grown : kernel.live ⊆ ((kernel.kmalloc blocks.process).kmalloc blocks.pageDir).live :=
    (kmalloc_steady.trans kmalloc_steady).live
  exact fresh.task.resolve_left nonNull (grown (same ▸ (wired.thread process member).2))

theorem Wired.made (wired : Wired kernel created) (fresh : FreshBlocks kernel blocks)
    (made : ProcessMade kernel blocks.process blocks.task after) :
    Wired after (insert blocks.process created) := by
  have isNew : ∀ process ∈ created, process ≠ blocks.process :=
    fun process member same => wired.fresh fresh.process (same ▸ member)
  have inserted : blocks.process ∈ insert blocks.process created := Finset.mem_insert_self _ _
  have newThread : ∀ process ∈ created, (kernel.processes process).mainThread ≠ blocks.task :=
    fun process member => wired.newThread fresh made.taskNonNull member
  refine ⟨Or.inr ?_, fun process member => ?_, fun null => ?_, fun process member => ?_, fun process member => ?_,
    fun process member other otherMember same => ?_, ?_, fun process member => ?_, made.nextPid⟩
  · rw [made.processListHead]
    split
    · exact inserted
    · next nonempty => exact Finset.mem_insert_of_mem (wired.head.resolve_left nonempty)
  · rcases Finset.mem_insert.mp member with rfl | old
    · rcases made.newNext with alone | ⟨toHead, nonempty⟩
      · rw [alone]
        exact inserted
      · rw [toHead]
        exact Finset.mem_insert_of_mem (wired.head.resolve_left nonempty)
    · rcases made.next process (isNew process old) with kept | redirected
      · rw [kept]
        exact Finset.mem_insert_of_mem (wired.next process old)
      · rw [redirected]
        exact inserted
  · rcases Finset.mem_insert.mp null with isNull | old
    · exact made.processNonNull isNull.symm
    · exact wired.nonNull old
  · rcases Finset.mem_insert.mp member with rfl | old
    · exact made.processLive
    · exact made.live (wired.live old)
  · rw [made.mainThread]
    rcases Finset.mem_insert.mp member with rfl | old
    · rw [if_pos rfl]
      exact ⟨made.taskNonNull, made.taskLive⟩
    · rw [if_neg (isNew process old)]
      exact ⟨(wired.thread process old).1, made.live (wired.thread process old).2⟩
  · rw [made.mainThread, made.mainThread] at same
    rcases Finset.mem_insert.mp member with rfl | old
    · rcases Finset.mem_insert.mp otherMember with rfl | otherOld
      · rfl
      · rw [if_pos rfl, if_neg (isNew other otherOld)] at same
        exact absurd same.symm (newThread other otherOld)
    · rcases Finset.mem_insert.mp otherMember with rfl | otherOld
      · rw [if_pos rfl, if_neg (isNew process old)] at same
        exact absurd same (newThread process old)
      · rw [if_neg (isNew process old), if_neg (isNew other otherOld)] at same
        exact wired.apart process old other otherOld same
  · rw [made.currentProcess]
    split
    · exact Or.inr inserted
    · exact wired.current.imp_right Finset.mem_insert_of_mem
  · rw [made.pid]
    rcases Finset.mem_insert.mp member with rfl | old
    · rw [if_pos rfl]
      exact wired.nextPid
    · rw [if_neg (isNew process old)]
      exact wired.pid process old

/-- `kmalloc` answers with NULL, or with a block for an object of the kernel: one that is not in
use and does not lie in user space. -/
structure Granted (kernel : Kernel) (block size : Nat) : Prop where
  fresh : Fresh kernel block
  outside : block = 0 ∨ block + size ≤ userSpaceStart ∨ userSpaceEnd ≤ block

instance {block size : Nat} : Decidable (Granted kernel block size) :=
  decidable_of_iff ((block = 0 ∨ block ∉ kernel.live) ∧ (block = 0 ∨ block + size ≤ userSpaceStart ∨ userSpaceEnd ≤ block))
    ⟨fun ⟨fresh, outside⟩ => ⟨fresh, outside⟩, fun granted => ⟨granted.fresh, granted.outside⟩⟩

/-- The answers to the requests of one `process_create`, each after those before it. -/
structure BlocksGranted (kernel : Kernel) (blocks : Kernel.Blocks) : Prop where
  process : Granted kernel blocks.process processSize
  pageDir : Granted (kernel.kmalloc blocks.process) blocks.pageDir pageDirectorySize
  task : Granted ((kernel.kmalloc blocks.process).kmalloc blocks.pageDir) blocks.task taskSize
  stack : Fresh (((kernel.kmalloc blocks.process).kmalloc blocks.pageDir).kmalloc blocks.task) blocks.stack

instance : Decidable (BlocksGranted kernel blocks) :=
  decidable_of_iff (Granted kernel blocks.process processSize ∧
      Granted (kernel.kmalloc blocks.process) blocks.pageDir pageDirectorySize ∧
      Granted ((kernel.kmalloc blocks.process).kmalloc blocks.pageDir) blocks.task taskSize ∧
      (blocks.stack = 0 ∨ blocks.stack ∉ (((kernel.kmalloc blocks.process).kmalloc blocks.pageDir).kmalloc blocks.task).live))
    ⟨fun ⟨process, pageDir, task, stack⟩ => ⟨process, pageDir, task, stack⟩,
      fun granted => ⟨granted.process, granted.pageDir, granted.task, granted.stack⟩⟩

theorem BlocksGranted.fresh (granted : BlocksGranted kernel blocks) : FreshBlocks kernel blocks :=
  ⟨granted.process.fresh, granted.task.fresh⟩

/-- What a run is given: `kmalloc` hands out blocks as above, a switch is to a process, and what
a system call accesses through the pointers of its caller lies in user space. -/
def Valid (fuel : Nat) (system : System) : Action → Prop
  | .taskCreate task stack _ =>
      Granted system.kernel task taskSize ∧ Fresh (system.kernel.kmalloc task) stack
  | .processCreate blocks _ => BlocksGranted system.kernel blocks
  | .processSwitch next => next = 0 ∨ next ∈ system.created
  | .syscall block regs =>
      Contained system.kernel fuel regs ∧ (regs.eax = sysShmCreate → Fresh system.kernel block)
  | _ => True

/-- What a step does. -/
inductive Performed (fuel : Nat) (system : System) : Action → System → Prop where
  | tick (currentEsp : Nat) (kernel : Kernel) (ticked : Ticked system.kernel currentEsp kernel) :
      Performed fuel system (.tick currentEsp) { system with kernel }
  | taskCreate (task stack entryPoint result : Nat) (kernel : Kernel)
      (made : TaskMade system.kernel task result kernel) :
      Performed fuel system (.taskCreate task stack entryPoint) { system with kernel }
  | processFailed (blocks : Kernel.Blocks) (entryPoint : Nat) (kernel : Kernel)
      (failed : ProcessFailed system.kernel blocks.process kernel) :
      Performed fuel system (.processCreate blocks entryPoint) { system with kernel }
  | processMade (blocks : Kernel.Blocks) (entryPoint : Nat) (kernel : Kernel)
      (made : ProcessMade system.kernel blocks.process blocks.task kernel) :
      Performed fuel system (.processCreate blocks entryPoint)
        { kernel, created := insert blocks.process system.created }
  | processSwitch (next : Nat) (kernel : Kernel) (switched : Switched system.kernel next kernel) :
      Performed fuel system (.processSwitch next) { system with kernel }
  | syscall (block : Nat) (regs regs' : Registers) (kernel : Kernel)
      (exchanged : Exchanged system.kernel fuel regs regs' kernel) :
      Performed fuel system (.syscall block regs) { system with kernel }
  | keyEvent (type keycode : Nat) (msg : Message) (kernel : Kernel) (sent : InputSent system.kernel fuel msg kernel) :
      Performed fuel system (.keyEvent type keycode) { system with kernel }
  | mouseEvent (type button x y : Nat) (msg : Message) (kernel : Kernel)
      (sent : InputSent system.kernel fuel msg kernel) :
      Performed fuel system (.mouseEvent type button x y) { system with kernel }
  | gfxConnect (kernel : Kernel) (untouched : Untouched system.kernel kernel) :
      Performed fuel system .gfxConnect { system with kernel }
  | gfxDisconnect (kernel : Kernel) (untouched : Untouched system.kernel kernel) :
      Performed fuel system .gfxDisconnect { system with kernel }
  | gfxRequest (type data1 data2 : Nat) (kernel : Kernel) (requested : Requested system.kernel fuel kernel) :
      Performed fuel system (.gfxRequest type data1 data2) { system with kernel }

theorem perform_performed (valid : Valid fuel system action) (done : perform statics fuel system action = some next) :
    Performed fuel system action next := by
  cases action with
  | tick currentEsp =>
      obtain ⟨result, ticks, rfl⟩ := Option.map_eq_some_iff.mp done
      exact .tick currentEsp _ (taskSchedulerTick_ticked ticks)
  | taskCreate task stack entryPoint =>
      obtain ⟨result, creates, rfl⟩ := Option.map_eq_some_iff.mp done
      exact .taskCreate task stack entryPoint _ _ (taskCreate_made valid.1.fresh creates)
  | processCreate blocks entryPoint =>
      obtain ⟨⟨result, kernel⟩, creates, rfl⟩ := Option.map_eq_some_iff.mp done
      cases processCreate_created valid.fresh creates with
      | failed _ failed => exact .processFailed blocks entryPoint _ failed
      | made _ made =>
          simp only [if_neg made.processNonNull]
          exact .processMade blocks entryPoint _ made
  | processSwitch next =>
      obtain ⟨kernel, switches, rfl⟩ := Option.map_eq_some_iff.mp done
      exact .processSwitch next _ (processSwitch_switched switches)
  | syscall block regs =>
      obtain ⟨result, handles, rfl⟩ := Option.map_eq_some_iff.mp done
      exact .syscall block regs _ _ (syscallHandler_handled handles).exchanged
  | keyEvent type keycode =>
      obtain ⟨kernel, sends, rfl⟩ := Option.map_eq_some_iff.mp done
      exact .keyEvent type keycode _ _ (sendInput_sent sends)
  | mouseEvent type button x y =>
      obtain ⟨kernel, sends, rfl⟩ := Option.map_eq_some_iff.mp done
      exact .mouseEvent type button x y _ _ (sendInput_sent sends)
  | gfxConnect =>
      cases done
      exact .gfxConnect _ ⟨steady_of_eq rfl rfl rfl rfl (subset_refl _), rfl, rfl, rfl⟩
  | gfxDisconnect =>
      cases done
      exact .gfxDisconnect _ ⟨steady_of_eq rfl rfl rfl rfl (subset_refl _), rfl, rfl, rfl⟩
  | gfxRequest type data1 data2 =>
      obtain ⟨result, requests, rfl⟩ := Option.map_eq_some_iff.mp done
      exact .gfxRequest type data1 data2 _ (gfxSendRequest_requested requests)

/-- Every step keeps the process list. -/
theorem Wired.performed (wired : Wired system.kernel system.created) (valid : Valid fuel system action)
    (performed : Performed fuel system action next) : Wired next.kernel next.created := by
  cases performed with
  | tick currentEsp kernel ticked => exact wired.steady ticked.steady
  | taskCreate task stack entryPoint result kernel made =>
      cases made with
      | failed _ untouched => exact wired.steady untouched.steady
      | made _ nonNull steady processes allocated state => exact wired.steady steady
  | processFailed blocks entryPoint kernel failed =>
      have granted : BlocksGranted system.kernel blocks := valid
      exact wired.failed granted.process.fresh failed
  | processMade blocks entryPoint kernel made =>
      have granted : BlocksGranted system.kernel blocks := valid
      exact wired.made granted.fresh made
  | processSwitch next kernel switched => exact wired.switched switched valid
  | syscall block regs regs' kernel exchanged => exact wired.steady exchanged.steady
  | keyEvent type keycode msg kernel sent => exact wired.steady sent.steady
  | mouseEvent type button x y msg kernel sent => exact wired.steady sent.steady
  | gfxConnect kernel untouched => exact wired.steady untouched.steady
  | gfxDisconnect kernel untouched => exact wired.steady untouched.steady
  | gfxRequest type data1 data2 kernel requested => exact wired.steady requested.steady

end AutismOS.Processes
