import AutismOS.Memory.UserMode
import AutismOS.Processes.Core

namespace AutismOS.Processes

open AutismOS.Library AutismOS.Ipc AutismOS.Memory

/-! The system calls of `kernel/syscall/syscall.c`.

Bytes that the kernel accesses through a pointer of the caller are recorded.
-/

def sysWrite : Nat := 1
def sysSend : Nat := 2
def sysRecv : Nat := 3
def sysPoll : Nat := 4
def sysShmCreate : Nat := 5
def sysShmMap : Nat := 6
def sysShmUnmap : Nat := 7

/-- `-1` in an unsigned register -/
def failure : Nat := 0xFFFFFFFF

/-- `sizeof(message_t)` -/
def messageSize : Nat := 16

/-- The registers of `REGISTERS` that carry arguments and the result. -/
structure Registers where
  eax : Nat
  ebx : Nat
  ecx : Nat
deriving DecidableEq

def isValidPointer (ptr size : Nat) : Bool :=
  if ptr = 0 then false
  else if ptr % 4 ≠ 0 then false
  else if ptr < 0x1000 then false
  else if add32 ptr size < ptr then false
  else true

/-- `*msg` as a value -/
def readMessage (memory : TracedMemory) (msg : Nat) : Message × TracedMemory :=
  ({ senderPid := memory.bytes.loadWord msg
     type := memory.bytes.loadWord (msg + 4)
     data1 := memory.bytes.loadWord (msg + 8)
     data2 := memory.bytes.loadWord (msg + 12) },
    memory.touch msg messageSize)

/-- `*msg = message` -/
def writeMessage (memory : TracedMemory) (msg : Nat) (message : Message) : TracedMemory :=
  { (memory.touch msg messageSize) with
    bytes := (((memory.bytes.storeWord msg message.senderPid).storeWord (msg + 4) message.type).storeWord
      (msg + 8) message.data1).storeWord (msg + 12) message.data2 }

namespace Kernel

variable (kernel : Kernel)

def print (output : Output) : Kernel := { kernel with console := output :: kernel.console }

/-- The loop of `SYS_WRITE` over at most `count` characters from `str` on. -/
def printString (kernel : Kernel) (str : Nat) : Nat → Kernel
  | 0 => kernel
  | count + 1 =>
      let (byte, memory) := kernel.memory.loadByte str
      let kernel := kernel.setMemory memory
      if byte = 0 then kernel else printString (kernel.print (.char byte)) (str + 1) count

/-- The parts of the message about a pointer that `SYS_WRITE` refuses. -/
def printInvalidPointer : Kernel :=
  let kernel := kernel.print (.text "Syscall error: Invalid pointer (PID=")
  let current := kernel.processGetCurrent
  let kernel :=
    if current ≠ 0 then kernel.print (.hex (kernel.processes current).pid) else kernel.print (.text "?")
  kernel.print (.text ")\n")

def syscallWrite (regs : Registers) : Registers × Kernel :=
  let str := regs.ebx
  if str < userSpaceStart ∨ str ≥ userSpaceEnd then
    ({ regs with eax := failure }, kernel.printInvalidPointer)
  else
    let maxLen := userSpaceEnd - str
    let maxLen := if maxLen > 1024 then 1024 else maxLen
    ({ regs with eax := 0 }, kernel.printString str maxLen)

/-- Makes the main thread of a process ready when it waits for a message. -/
def wake (target : Nat) : Kernel :=
  let mainThread := (kernel.processes target).mainThread
  if mainThread ≠ 0 ∧ (kernel.tasks mainThread).state = .waiting then kernel.setTaskState mainThread .ready
  else kernel

def syscallSend (fuel : Nat) (regs : Registers) : Option (Registers × Kernel) :=
  let current := kernel.processGetCurrent
  let targetPid := regs.ebx
  let msg := regs.ecx
  if !isValidPointer msg messageSize then some ({ regs with eax := failure }, kernel)
  else
    (kernel.processFindByPid fuel targetPid).map fun target =>
      if target = 0 then ({ regs with eax := failure }, kernel)
      else
        let senderPid := if current ≠ 0 then (kernel.processes current).pid else 0
        let kernel := kernel.setMemory (kernel.memory.storeWord msg senderPid)
        let inbox := (kernel.processes target).inbox
        -- `*msg` is read only when there is room for it.
        if messageQueueIsFull inbox then ({ regs with eax := failure }, kernel)
        else
          let (message, memory) := readMessage kernel.memory msg
          let kernel := kernel.setMemory memory
          match messageQueueEnqueue inbox message with
          | none => ({ regs with eax := failure }, kernel)
          | some inbox => ({ regs with eax := 0 }, (kernel.setInbox target inbox).wake target)

/-- What `SYS_RECV` and `SYS_POLL` share: the message is copied to the caller. -/
def receive (current msg : Nat) : Option Kernel :=
  (messageQueueDequeue (kernel.processes current).inbox).map fun (message, inbox) =>
    let kernel := kernel.setMemory (writeMessage kernel.memory msg message)
    kernel.setInbox current inbox

def syscallRecv (regs : Registers) : Registers × Kernel :=
  let current := kernel.processGetCurrent
  let msg := regs.ebx
  if !isValidPointer msg messageSize then ({ regs with eax := failure }, kernel)
  else if current = 0 then ({ regs with eax := failure }, kernel)
  else
    match kernel.receive current msg with
    | some kernel => ({ regs with eax := 0 }, kernel)
    | none =>
        let mainThread := (kernel.processes current).mainThread
        let kernel := if mainThread ≠ 0 then kernel.setTaskState mainThread .waiting else kernel
        ({ regs with eax := failure }, kernel)

def syscallPoll (regs : Registers) : Registers × Kernel :=
  let current := kernel.processGetCurrent
  let msg := regs.ebx
  if !isValidPointer msg messageSize then ({ regs with eax := failure }, kernel)
  else if current = 0 then ({ regs with eax := failure }, kernel)
  else
    match kernel.receive current msg with
    | some kernel => ({ regs with eax := 0 }, kernel)
    | none => ({ regs with eax := failure }, kernel)

/-- `block` is what `kmalloc` answers. -/
def syscallShmCreate (block : Nat) (regs : Registers) : Registers × Kernel :=
  let current := kernel.processGetCurrent
  let owner := if current ≠ 0 then (kernel.processes current).pid else 0
  match shmCreate kernel.shm kernel.memory.bytes block owner regs.ebx with
  | none => ({ regs with eax := 0 }, kernel)
  | some (shmId, shm, bytes) =>
      let kernel := (kernel.kmalloc block).setMemory { kernel.memory with bytes }
      ({ regs with eax := shmId }, kernel.setShm shm)

def syscallShmMap (regs : Registers) : Registers × Kernel :=
  let vaddrOut := regs.ecx
  if !isValidPointer vaddrOut 4 then ({ regs with eax := failure }, kernel)
  else
    match shmMap kernel.shm regs.ebx vaddrOut with
    | none => ({ regs with eax := failure }, kernel)
    | some (vaddr, shm) =>
        let kernel := kernel.setMemory (kernel.memory.storeWord vaddrOut vaddr)
        ({ regs with eax := 0 }, kernel.setShm shm)

def syscallShmUnmap (regs : Registers) : Registers × Kernel :=
  match shmUnmap kernel.shm regs.ebx with
  | none => ({ regs with eax := failure }, kernel)
  | some shm => ({ regs with eax := 0 }, kernel.setShm shm)

def unknownSyscall (regs : Registers) : Registers × Kernel :=
  let kernel := kernel.print (.text "Unknown syscall: ")
  let kernel := kernel.print (.hex regs.eax)
  ({ regs with eax := failure }, kernel.print (.text "\n"))

def syscallHandler (fuel block : Nat) (regs : Registers) : Option (Registers × Kernel) :=
  if regs.eax = sysWrite then some (kernel.syscallWrite regs)
  else if regs.eax = sysSend then kernel.syscallSend fuel regs
  else if regs.eax = sysRecv then some (kernel.syscallRecv regs)
  else if regs.eax = sysPoll then some (kernel.syscallPoll regs)
  else if regs.eax = sysShmCreate then some (kernel.syscallShmCreate block regs)
  else if regs.eax = sysShmMap then some (kernel.syscallShmMap regs)
  else if regs.eax = sysShmUnmap then some (kernel.syscallShmUnmap regs)
  else some (kernel.unknownSyscall regs)

end Kernel

end AutismOS.Processes
