import AutismOS.Interrupts.Descriptors
import AutismOS.Library.Controllers
import AutismOS.Processes.Core

namespace AutismOS.Interrupts

open AutismOS.Library AutismOS.Processes

/-! # Interrupts

The controllers as `kernel/arch/8259_pic.c` drives them, the handlers of `kernel/arch/isr.c`, and
the stubs that lead from the gates to them.  Handlers are known by their addresses, NULL is 0, and
a call of one is recorded; none of them uses the ports of the controllers.
-/

def pic1 : Nat := 0x20
def pic2 : Nat := 0xA0
def pic1Command : Nat := pic1
def pic1Data : Nat := pic1 + 1
def pic2Command : Nat := pic2
def pic2Data : Nat := pic2 + 1
def picEoi : Nat := 0x20
def icw1 : Nat := 0x11
def icw48086 : Nat := 0x01

/-- The line of the first controller that the second one is wired to -/
def link : Fin 8 := ⟨2, by decide⟩

/-- Only the data ports are read. -/
def inportb (pics : Cascade) (port : Nat) : Nat :=
  if port = pic1Data then pics.leader.mask else if port = pic2Data then pics.follower.mask else 0xFF

def outportb (pics : Cascade) (port value : Nat) : Cascade :=
  if port = pic1Command then { pics with leader := pics.leader.command value }
  else if port = pic1Data then { pics with leader := pics.leader.data value }
  else if port = pic2Command then { pics with follower := pics.follower.command value }
  else if port = pic2Data then { pics with follower := pics.follower.data value }
  else pics

def pic8259Init (pics : Cascade) : Cascade :=
  let a1 := inportb pics pic1Data
  let a2 := inportb pics pic2Data
  let pics := outportb pics pic1Command icw1
  let pics := outportb pics pic2Command icw1
  let pics := outportb pics pic1Data 0x20
  let pics := outportb pics pic2Data 0x28
  let pics := outportb pics pic1Data 4
  let pics := outportb pics pic2Data 2
  let pics := outportb pics pic1Data icw48086
  let pics := outportb pics pic2Data icw48086
  let pics := outportb pics pic1Data a1
  outportb pics pic2Data a2

/-- The parameter is a byte. -/
def pic8259Eoi (pics : Cascade) (irq : Nat) : Cascade :=
  let pics := if irq % 2 ^ 8 ≥ 0x28 then outportb pics pic2 picEoi else pics
  outportb pics pic1 picEoi

def noInterruptHandlers : Nat := 256

/-- The fields of `REGISTERS` that the handlers here read -/
structure Registers where
  intNo : Nat
  errCode : Nat
  eip : Nat

inductive Call where
  | handler (handler intNo : Nat)
  | syscallHandler
  | taskSchedulerTick
deriving DecidableEq

/-- The processor with its tables, the controllers, and the data of `isr.c` -/
structure Board where
  tables : Tables
  pics : Cascade
  handlers : Nat → Nat
  loggedInterrupts : Nat → Bool
  console : List Output
  calls : List Call
  halted : Bool

def exceptionMessages : List String :=
  ["Division By Zero", "Debug", "Non Maskable Interrupt", "Breakpoint", "Overflow", "BOUND Range Exceeded",
    "Invalid Opcode", "Device Not Available (No Math Coprocessor)", "Double Fault", "Coprocessor Segment Overrun",
    "Invalid TSS", "Segment Not Present", "Stack-Segment Fault", "General Protection", "Page Fault",
    "Unknown Interrupt (intel reserved)", "x87 FPU Floating-Point Error (Math Fault)", "Alignment Check",
    "Machine Check", "SIMD Floating-Point Exception", "Virtualization Exception"] ++ List.replicate 11 "Reserved"

def warning : String := "WARNING: Unhandled interrupt "

namespace Board

variable (board : Board)

def print (output : Output) : Board := { board with console := output :: board.console }

def printAll (outputs : List Output) : Board := outputs.foldl print board

def kernelPanic (message : String) : Board :=
  { board.printAll [.text "\n\n*** KERNEL PANIC ***\n", .text message, .text "\nSystem halted.\n"] with halted := true }

/-- Callers pass no negative number. -/
def isrRegisterInterruptHandler (num handler : Nat) : Board :=
  if num < noInterruptHandlers then { board with handlers := Function.update board.handlers num handler } else board

def isrIrqHandler (reg : Registers) : Board :=
  let board :=
    if board.handlers reg.intNo ≠ 0 then
      { board with calls := board.calls ++ [.handler (board.handlers reg.intNo) reg.intNo] }
    else if !board.loggedInterrupts reg.intNo then
      { board.printAll [.text warning, .hex reg.intNo, .text "\n"] with
        loggedInterrupts := Function.update board.loggedInterrupts reg.intNo true }
    else board
  { board with pics := pic8259Eoi board.pics reg.intNo }

/-- `faultingAddress` is read from CR2. -/
def pageFaultHandler (reg : Registers) (faultingAddress : Nat) : Board :=
  let board := board.printAll [.text "\n\nPAGE FAULT\n", .text "Address: ", .hex faultingAddress, .text "\n",
    .text "Error code: ", .hex reg.errCode, .text "\n", .text "Details: "]
  let board := board.print (.text (if reg.errCode.testBit 0 then "Protection violation " else "Not-present "))
  let board := board.print (.text (if reg.errCode.testBit 1 then "Write " else "Read "))
  let board := board.print (.text (if reg.errCode.testBit 2 then "User-mode\n" else "Kernel-mode\n"))
  let board := board.printAll [.text "EIP: ", .hex reg.eip, .text "\n"]
  board.kernelPanic "Page Fault Exception"

def isrExceptionHandler (reg : Registers) (faultingAddress : Nat) : Board :=
  if reg.intNo = 14 then board.pageFaultHandler reg faultingAddress
  else if reg.intNo < 32 then
    let board := board.printAll [.text "\n\nEXCEPTION: ", .text (exceptionMessages.getD reg.intNo ""),
      .text "\nInterrupt number: ", .hex reg.intNo, .text "\nError code: ", .hex reg.errCode, .text "\nEIP: ",
      .hex reg.eip, .text "\n"]
    board.kernelPanic "Unhandled CPU Exception"
  else if board.handlers reg.intNo ≠ 0 then
    { board with calls := board.calls ++ [.handler (board.handlers reg.intNo) reg.intNo] }
  else board

/-- What `task_scheduler_tick` does here; what it does to tasks is in `Kernel.taskSchedulerTick`. -/
def taskSchedulerTick : Board :=
  { board with pics := pic8259Eoi board.pics 32, calls := board.calls ++ [.taskSchedulerTick] }

/-- The rest of what the processor and the stack hold when a stub runs. -/
structure Context where
  errCode : Nat
  eip : Nat
  faultingAddress : Nat

/-- The code of a stub, with the number that it pushes. -/
def runStub (context : Context) : Stub → Board
  | .exception number =>
      board.isrExceptionHandler { intNo := number, errCode := context.errCode, eip := context.eip }
        context.faultingAddress
  | .irq0WithTaskSwitch => board.taskSchedulerTick
  | .irq number => board.isrIrqHandler { intNo := 33 + number, errCode := 0, eip := context.eip }
  | .syscallInt0x80 => { board with calls := board.calls ++ [.syscallHandler] }

end Board

/-- The kernel image: where each stub lies, and what lies at an address. -/
structure Image where
  address : Stub → Nat
  code : Nat → Option Stub
  small : ∀ stub, address stub < 2 ^ 32
  placed : ∀ stub, code (address stub) = some stub

/-- What happens.  A device raises its line or takes it back, the processor accepts what the
controllers have, a program asks for an interrupt or causes an exception, or a driver registers
its handler; `cpl` is the privilege of the program that runs. -/
inductive Happening where
  | raise (source : Source)
  | withdraw (source : Source)
  | accept (cpl : Nat) (context : Board.Context)
  | software (cpl vector : Nat) (context : Board.Context)
  | exception (cpl : Nat) (number : Fin 32) (context : Board.Context)
  | register (num handler : Nat)

namespace Board

variable (image : Image) (board : Board)

/-- The processor goes through the gate; where it cannot, it raises the exception that tells so. -/
def interrupt (cpl : Nat) (software : Bool) (vector : Nat) (context : Context) : Option Board :=
  match board.tables.enter cpl software vector with
  | .ok entry => (image.code entry.address).map (board.runStub context)
  | .error fault =>
      match board.tables.enter cpl false fault with
      | .ok entry => (image.code entry.address).map (board.runStub context)
      | .error _ => none

/-- Once it has panicked the kernel stands still, with interrupts disabled. -/
def perform : Happening → Option Board
  | .raise source => some { board with pics := board.pics.raise source }
  | .withdraw source => some { board with pics := board.pics.withdraw source }
  | .accept cpl context =>
      if board.halted then none
      else
        let (vector, pics) := board.pics.acknowledge link
        { board with pics }.interrupt image cpl false vector context
  | .software cpl vector context => if board.halted then none else board.interrupt image cpl true vector context
  | .exception cpl number context => if board.halted then none else board.interrupt image cpl false number context
  | .register num handler => if board.halted then none else some (board.isrRegisterInterruptHandler num handler)

/-- What `gdt_init`, `idt_init` and `tss_init` leave, before any handler is registered. -/
def boot (tss stack : Nat) (pics : Cascade) : Board where
  tables := bootTables image.address tss stack
  pics := pic8259Init pics
  handlers := fun _ => 0
  loggedInterrupts := fun _ => false
  console := []
  calls := []
  halted := false

end Board

/-- Nothing is wired to the line of the second controller, and there are four privileges. -/
def Allowed (_ : Board) : Happening → Prop
  | .raise source => source ≠ .near link
  | .accept cpl _ => cpl ≤ 3
  | .software cpl _ _ => cpl ≤ 3
  | .exception cpl _ _ => cpl ≤ 3
  | _ => True

end AutismOS.Interrupts
