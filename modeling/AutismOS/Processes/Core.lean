import AutismOS.Ipc.Queue
import AutismOS.Ipc.SharedMemory
import AutismOS.Library.Ring
import AutismOS.Library.TracedMemory
import AutismOS.Memory.Paging
import Mathlib.Data.Finset.Basic

namespace AutismOS.Processes

open AutismOS.Library AutismOS.Ipc AutismOS.Memory

/-! The tasks of `kernel/core/task.c` and the processes of `kernel/core/process.c`.

Tasks and processes are found under their addresses, and NULL is 0.  Blocks that
`kmalloc` hands out are arguments, and `live` collects those that are in use.  The
objects of the kernel are values of their own: bytes that a system call writes over
them through a pointer of its caller are only found in `memory`, so that runs of the
model are those of the kernel as far as such pointers stay in user space, where no
object of the kernel lies.  The loops over the circular lists may visit `fuel` nodes; a
result `none` says that this was not enough, or that the kernel panicked.
-/

def taskStackSize : Nat := 4096

/-- `sizeof(task_t)` -/
def taskSize : Nat := 32

/-- `sizeof(process_t)` -/
def processSize : Nat := 284

/-- `sizeof(page_directory_t)` -/
def pageDirectorySize : Nat := 8192

inductive TaskState where
  | ready
  | running
  | blocked
  | waiting
deriving DecidableEq

/-- `task_t` -/
structure Task where
  esp : Nat
  ebp : Nat
  eip : Nat
  id : Nat
  state : TaskState
  process : Nat
  next : Nat

/-- `process_t` -/
structure Process where
  pid : Nat
  pageDir : Nat
  mainThread : Nat
  next : Nat
  inbox : MessageQueue

/-- What was printed. -/
inductive Output where
  | text (text : String)
  | hex (value : Nat)
  | char (byte : UInt8)
deriving DecidableEq

/-- The connection state of `lib/libgfx.c`. -/
structure GfxClient where
  serverPid : Nat
  connected : Bool
  nextWindowId : Nat

structure Kernel where
  tasks : Nat → Task
  currentTask : Nat
  taskListHead : Nat
  nextTaskId : Nat
  schedulerStarted : Bool
  timerTicks : Nat
  processes : Nat → Process
  currentProcess : Nat
  processListHead : Nat
  nextPid : Nat
  paging : Paging
  shm : Shm
  memory : TracedMemory
  console : List Output
  inputTargetPid : Nat
  gfxClient : GfxClient
  live : Finset Nat

namespace Kernel

variable (kernel : Kernel)

def setTask (task : Nat) (content : Task) : Kernel :=
  { kernel with tasks := Function.update kernel.tasks task content }

def setTaskState (task : Nat) (state : TaskState) : Kernel :=
  kernel.setTask task { kernel.tasks task with state }

def setProcess (process : Nat) (content : Process) : Kernel :=
  { kernel with processes := Function.update kernel.processes process content }

def setMemory (memory : TracedMemory) : Kernel := { kernel with memory }

def setShm (shm : Shm) : Kernel := { kernel with shm }

def setInbox (process : Nat) (inbox : MessageQueue) : Kernel :=
  kernel.setProcess process { kernel.processes process with inbox }

/-- `kmalloc` answers with `block`, or NULL. -/
def kmalloc (block : Nat) : Kernel :=
  if block = 0 then kernel else { kernel with live := insert block kernel.live }

def kfree (block : Nat) : Kernel := { kernel with live := kernel.live.erase block }

def taskGetCurrent : Nat := kernel.currentTask

def taskInit : Kernel :=
  { kernel with currentTask := 0, taskListHead := 0, nextTaskId := 0, schedulerStarted := false }

/-- A task that the tick may select. -/
def runnable (task : Nat) : Bool :=
  (kernel.tasks task).state = .ready || (kernel.tasks task).state = .running

/-- There is another task in the ring of the current one. -/
def hasOther : Bool :=
  !(kernel.currentTask = 0 || (kernel.tasks kernel.currentTask).next = 0 ||
    (kernel.tasks kernel.currentTask).next = kernel.currentTask)

/-- Returns the stack pointer to continue with and the new state. -/
def taskSchedulerTick (fuel currentEsp : Nat) : Option (Nat × Kernel) :=
  let kernel := { kernel with timerTicks := (kernel.timerTicks + 1) % 2 ^ 64 }
  if !kernel.hasOther then some (currentEsp, kernel)
  else if !kernel.schedulerStarted then
    let kernel := { kernel with schedulerStarted := true }
    let kernel := kernel.setTaskState kernel.currentTask .running
    some ((kernel.tasks kernel.currentTask).esp, kernel)
  else
    let saved := { kernel.tasks kernel.currentTask with esp := currentEsp, state := .ready }
    let kernel := kernel.setTask kernel.currentTask saved
    let startTask := kernel.currentTask
    -- Nothing is done here when the tasks belong to different processes.
    (Ring.skip (fun task => (kernel.tasks task).next) kernel.runnable startTask fuel
      (kernel.tasks startTask).next).map fun nextTask =>
        let kernel := { kernel with currentTask := nextTask }
        let kernel := kernel.setTaskState nextTask .running
        ((kernel.tasks nextTask).esp, kernel)

/-- The words that `task_create` pushes, the first one first. -/
def initialFrame (entryPoint : Nat) : List Nat :=
  [0x202, 0x08, entryPoint, 0, 0, 0, 0, 0, 0, 0, 0, 0, 0, 0x10]

/-- `stack_top--; *stack_top = value;` for each value. -/
def pushAll (memory : ByteMemory) (stackTop : Nat) : List Nat → Nat × ByteMemory
  | [] => (stackTop, memory)
  | value :: rest => pushAll (memory.storeWord (sub32 stackTop 4) value) (sub32 stackTop 4) rest

/-- The end of `task_create` and of `process_create`: the new node is put behind the last one. -/
def appendTask (fuel newTask : Nat) : Option Kernel :=
  if kernel.taskListHead = 0 then
    let kernel := { kernel with taskListHead := newTask }
    let kernel := kernel.setTask newTask { kernel.tasks newTask with next := newTask }
    some { kernel with currentTask := newTask }
  else
    (Ring.findLast (fun task => (kernel.tasks task).next) kernel.taskListHead fuel kernel.taskListHead).map fun last =>
      let kernel := kernel.setTask last { kernel.tasks last with next := newTask }
      kernel.setTask newTask { kernel.tasks newTask with next := kernel.taskListHead }

/-- Returns the new task, or NULL. -/
def taskCreate (fuel newTask stack entryPoint : Nat) : Option (Nat × Kernel) :=
  let kernel := kernel.kmalloc newTask
  if newTask = 0 then some (0, kernel)
  else
    let kernel := kernel.kmalloc stack
    if stack = 0 then some (0, kernel.kfree newTask)
    else
      let (stackTop, bytes) :=
        pushAll kernel.memory.bytes (add32 stack taskStackSize) (initialFrame entryPoint)
      let task : Task :=
        { esp := stackTop, ebp := 0, eip := entryPoint, id := kernel.nextTaskId, state := .ready
          process := 0, next := 0 }
      let kernel := { kernel with nextTaskId := add32 kernel.nextTaskId 1 }
      let kernel := kernel.setMemory { kernel.memory with bytes }
      ((kernel.setTask newTask task).appendTask fuel newTask).map fun kernel => (newTask, kernel)

def processGetCurrent : Nat := kernel.currentProcess

def processInit : Kernel := { kernel with currentProcess := 0, processListHead := 0, nextPid := 0 }

def appendProcess (fuel newProcess : Nat) : Option Kernel :=
  if kernel.processListHead = 0 then
    let kernel := { kernel with processListHead := newProcess }
    let kernel := kernel.setProcess newProcess { kernel.processes newProcess with next := newProcess }
    some { kernel with currentProcess := newProcess }
  else
    (Ring.findLast (fun process => (kernel.processes process).next) kernel.processListHead fuel
      kernel.processListHead).map fun last =>
        let kernel := kernel.setProcess last { kernel.processes last with next := newProcess }
        kernel.setProcess newProcess { kernel.processes newProcess with next := kernel.processListHead }

/-- What `kmalloc` answers to the requests of one `process_create`, in their order. -/
structure Blocks where
  process : Nat
  pageDir : Nat
  task : Nat
  stack : Nat

/-- Returns the new process, or NULL. -/
def processCreate (statics : Statics) (fuel : Nat) (blocks : Blocks) (entryPoint : Nat) : Option (Nat × Kernel) :=
  let newProcess := blocks.process
  let kernel := kernel.kmalloc newProcess
  if newProcess = 0 then some (0, kernel)
  else
    let process : Process :=
      { pid := kernel.nextPid, pageDir := 0, mainThread := 0, next := 0, inbox := messageQueueInit }
    let kernel := { kernel with nextPid := add32 kernel.nextPid 1 }
    let kernel := kernel.kmalloc blocks.pageDir
    let (pageDir, paging) := createPageDirectory statics kernel.paging blocks.pageDir
    let kernel := { kernel with paging }
    let kernel := kernel.setProcess newProcess { process with pageDir }
    if pageDir = 0 then some (0, kernel.kfree newProcess)
    else
      (kernel.taskCreate fuel blocks.task blocks.stack entryPoint).bind fun (mainThread, kernel) =>
        let kernel := kernel.setProcess newProcess { kernel.processes newProcess with mainThread }
        if mainThread = 0 then some (0, kernel.kfree newProcess)
        else
          let kernel := kernel.setTask mainThread { kernel.tasks mainThread with process := newProcess }
          (kernel.appendProcess fuel newProcess).map fun kernel => (newProcess, kernel)

def processSwitch (next : Nat) : Option Kernel :=
  if next = 0 then some kernel
  else if kernel.currentProcess ≠ next then
    let kernel := { kernel with currentProcess := next }
    (switchPageDirectory kernel.paging (kernel.processes next).pageDir).map fun paging => { kernel with paging }
  else some kernel

/-- Returns the process, or NULL. -/
def processFindByPid (fuel pid : Nat) : Option Nat :=
  if kernel.processListHead = 0 then some 0
  else
    (Ring.find (fun process => (kernel.processes process).next) (fun process => (kernel.processes process).pid = pid)
      kernel.processListHead fuel kernel.processListHead).map (·.getD 0)

end Kernel

end AutismOS.Processes
