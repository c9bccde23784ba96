import AutismOS.Processes.Syscall

namespace AutismOS.Processes

open AutismOS.Library AutismOS.Ipc AutismOS.Memory

/-! The other producers of messages, `drivers/input/input.c` and `lib/libgfx.c`, and the
steps of the whole system. -/

def gfxOk : Int := 0
def gfxErrNoServer : Int := -4
def gfxErrTimeout : Int := -5

namespace Kernel

variable (kernel : Kernel)

/-- What both input functions share: the target is woken also when its inbox is full. -/
def sendInput (fuel : Nat) (msg : Message) : Option Kernel :=
  (kernel.processFindByPid fuel kernel.inputTargetPid).map fun target =>
    if target = 0 then kernel
    else
      let kernel :=
        match messageQueueEnqueue (kernel.processes target).inbox msg with
        | none => kernel
        | some inbox => kernel.setInbox target inbox
      kernel.wake target

def inputSendKeyEvent (fuel type keycode : Nat) : Option Kernel :=
  kernel.sendInput fuel { senderPid := 0, type, data1 := keycode, data2 := 0 }

/-- `(x << 16) | (y & 0xFFFF)` -/
def packCoordinates (x y : Nat) : Nat := x * 2 ^ 16 % 2 ^ 32 ||| y % 2 ^ 16

def inputSendMouseEvent (fuel type button x y : Nat) : Option Kernel :=
  kernel.sendInput fuel { senderPid := 0, type, data1 := button, data2 := packCoordinates x y }

def gfxConnect : Kernel := { kernel with gfxClient := { serverPid := 1, connected := true, nextWindowId := 1 } }

def gfxDisconnect : Kernel :=
  { kernel with gfxClient := { kernel.gfxClient with connected := false, serverPid := 0 } }

/-- Returns the result with the new state; the words are the first two of `msg->data`.  A
response that is asked for holds only the result. -/
def gfxSendRequest (fuel type data1 data2 : Nat) : Option (Int × Kernel) :=
  if !kernel.gfxClient.connected ∨ kernel.gfxClient.serverPid = 0 then some (gfxErrNoServer, kernel)
  else
    let msg : Message :=
      { senderPid := (kernel.processes kernel.processGetCurrent).pid, type, data1, data2 }
    (kernel.processFindByPid fuel kernel.gfxClient.serverPid).map fun server =>
      if server = 0 then (gfxErrNoServer, kernel)
      else
        match messageQueueEnqueue (kernel.processes server).inbox msg with
        | none => (gfxErrTimeout, kernel)
        | some inbox => (gfxOk, kernel.setInbox server inbox)

end Kernel

inductive Action where
  | tick (currentEsp : Nat)
  | taskCreate (task stack entryPoint : Nat)
  | processCreate (blocks : Kernel.Blocks) (entryPoint : Nat)
  | processSwitch (next : Nat)
  | syscall (block : Nat) (regs : Registers)
  | keyEvent (type keycode : Nat)
  | mouseEvent (type button x y : Nat)
  | gfxConnect
  | gfxDisconnect
  | gfxRequest (type data1 data2 : Nat)

/-- The kernel with the processes that were created. -/
structure System where
  kernel : Kernel
  created : Finset Nat

/-- One step; there is none when the kernel panics or a list has more than `fuel` nodes. -/
def perform (statics : Statics) (fuel : Nat) (system : System) : Action → Option System
  | .tick currentEsp =>
      (system.kernel.taskSchedulerTick fuel currentEsp).map fun (_, kernel) => { system with kernel }
  | .taskCreate task stack entryPoint =>
      (system.kernel.taskCreate fuel task stack entryPoint).map fun (_, kernel) => { system with kernel }
  | .processCreate blocks entryPoint =>
      (system.kernel.processCreate statics fuel blocks entryPoint).map fun (process, kernel) =>
        { kernel, created := if process = 0 then system.created else insert process system.created }
  | .processSwitch next => (system.kernel.processSwitch next).map fun kernel => { system with kernel }
  | .syscall block regs =>
      (system.kernel.syscallHandler fuel block regs).map fun (_, kernel) => { system with kernel }
  | .keyEvent type keycode =>
      (system.kernel.inputSendKeyEvent fuel type keycode).map fun kernel => { system with kernel }
  | .mouseEvent type button x y =>
      (system.kernel.inputSendMouseEvent fuel type button x y).map fun kernel => { system with kernel }
  | .gfxConnect => some { system with kernel := system.kernel.gfxConnect }
  | .gfxDisconnect => some { system with kernel := system.kernel.gfxDisconnect }
  | .gfxRequest type data1 data2 =>
      (system.kernel.gfxSendRequest fuel type data1 data2).map fun (_, kernel) => { system with kernel }

/-- A kernel before any task or process was created. -/
def emptyKernel : Kernel where
  tasks := fun _ => { esp := 0, ebp := 0, eip := 0, id := 0, state := .ready, process := 0, next := 0 }
  currentTask := 0
  taskListHead := 0
  nextTaskId := 0
  schedulerStarted := false
  timerTicks := 0
  processes := fun _ => { pid := 0, pageDir := 0, mainThread := 0, next := 0, inbox := messageQueueInit }
  currentProcess := 0
  processListHead := 0
  nextPid := 0
  paging := blankPaging
  shm := shmInit
  memory := { bytes := fun _ => 0, touched := [] }
  console := []
  inputTargetPid := 1
  gfxClient := { serverPid := 0, connected := false, nextWindowId := 0 }
  live := ∅

/-- What `kmalloc` may answer while two processes are created. -/
def firstBlocks : Kernel.Blocks := { process := 0x180014, pageDir := 0x181014, task := 0x184014, stack := 0x185014 }
def secondBlocks : Kernel.Blocks := { process := 0x187014, pageDir := 0x188014, task := 0x18B014, stack := 0x18C014 }

end AutismOS.Processes
