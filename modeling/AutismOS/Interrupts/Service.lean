import AutismOS.Interrupts.Dispatch
import AutismOS.Library.Run

namespace AutismOS.Interrupts

open AutismOS.Library AutismOS.Processes

variable {image : Image} {board after : Board} {pics : Cascade} {source : Source} {stub : Stub} {context : Board.Context}
variable {happening : Happening} {happenings : List Happening} {calls : List Call}
variable {tss stack cpl vector irq num handler : Nat} {software : Bool}

/-- The number of the interrupt line of a source -/
def irqOf : Source → Nat
  | .near line => line
  | .far line => 8 + line

/-- The controllers as the kernel set them up, with nothing in service -/
structure Ready (pics : Cascade) : Prop where
  idle : pics.Idle link
  leaderVector : pics.leader.vector = 0x20
  followerVector : pics.follower.vector = 0x28

theorem pic8259Init_ready (leader : pics.leader.inService = ∅) (follower : pics.follower.inService = ∅) :
    Ready (pic8259Init pics) := by
  have leaderCascade : (pic8259Init pics).leader.cascade = 4 := rfl
  have followerCascade : (pic8259Init pics).follower.cascade = 2 := rfl
  refine ⟨⟨leader, follower, ?_, ?_, rfl, rfl, rfl, rfl, Finset.notMem_empty _⟩, rfl, rfl⟩
  · rw [leaderCascade]
    rfl
  · rw [followerCascade]
    rfl

theorem Ready.vectorOf (ready : Ready pics) : pics.vectorOf source = 32 + irqOf source := by
  cases source with
  | near line => simp [Cascade.vectorOf, irqOf, ready.leaderVector]
  | far line =>
      simp only [Cascade.vectorOf, irqOf, ready.followerVector]
      omega

theorem Ready.withdraw (ready : Ready pics) : Ready (pics.withdraw source) := by
  refine ⟨Cascade.withdraw_idle ready.idle, ?_, ?_⟩
  · cases source <;> exact ready.leaderVector
  · cases source <;> exact ready.followerVector

theorem Ready.raise (ready : Ready pics) (direct : source ≠ .near link) : Ready (pics.raise source) := by
  refine ⟨Cascade.raise_idle ready.idle direct, ?_, ?_⟩
  · cases source <;> exact ready.leaderVector
  · cases source <;> exact ready.followerVector

theorem pic8259Eoi_eq : pic8259Eoi pics irq =
    if irq % 2 ^ 8 ≥ 0x28 then { leader := pics.leader.command 0x20, follower := pics.follower.command 0x20 }
    else { pics with leader := pics.leader.command 0x20 } := by
  simp only [pic8259Eoi]
  split
  · rfl
  · rfl

/-- The end of service goes to the second controller exactly where it was involved. -/
theorem pic8259Eoi_source : pic8259Eoi pics (32 + irqOf source) = pics.finish source := by
  rw [pic8259Eoi_eq]
  cases source with
  | near line => exact if_neg (by simp only [irqOf]; omega)
  | far line => exact if_pos (by simp only [irqOf]; omega)

theorem Ready.served (ready : Ready pics) :
    pic8259Eoi (pics.serving link source) (32 + irqOf source) = pics.withdraw source := by
  rw [pic8259Eoi_source, Cascade.finish_serving ready.idle]

/-- Where nothing is in service, ending it changes nothing. -/
theorem Ready.unserved (ready : Ready pics) : pic8259Eoi pics irq = pics := by
  rw [pic8259Eoi_eq, command_idle ready.idle.leaderService, command_idle ready.idle.followerService]
  split
  · rfl
  · rfl

theorem printAll_eq {outputs : List Output} :
    board.printAll outputs = { board with console := outputs.reverse ++ board.console } := by
  induction outputs generalizing board with
  | nil => rfl
  | cons output rest ih =>
      rw [Board.printAll, List.foldl_cons, List.reverse_cons, List.append_assoc]
      exact ih

/-- Only panics stop the kernel. -/
@[simp] theorem kernelPanic_eq {message : String} : board.kernelPanic message =
    { board with
      console := .text "\nSystem halted.\n" :: .text message :: .text "\n\n*** KERNEL PANIC ***\n" :: board.console
      halted := true } := rfl

/-- What a call of the handler for a line adds to the calls -/
def callsOf (handlers : Nat → Nat) (number : Nat) : List Call :=
  if number = 32 then [.taskSchedulerTick]
  else if handlers number ≠ 0 then [.handler (handlers number) number]
  else []

/-- The tables and the controllers as `kmain` left them -/
structure Settled (image : Image) (tss stack : Nat) (board : Board) : Prop where
  tables : board.tables = bootTables image.address tss stack
  small : tss < 2 ^ 32
  ready : Ready board.pics

/-- What every stub leaves alone -/
structure Kept (board after : Board) : Prop where
  tables : after.tables = board.tables
  handlers : after.handlers = board.handlers

/-- The handler of an interrupt line: one call at most, and the end of service. -/
theorem isrIrqHandler_kept {reg : Registers} : Kept board (board.isrIrqHandler reg) ∧
    (board.isrIrqHandler reg).pics = pic8259Eoi board.pics reg.intNo ∧
    (board.isrIrqHandler reg).halted = board.halted := by
  simp only [Board.isrIrqHandler]
  split
  · exact ⟨⟨rfl, rfl⟩, rfl, rfl⟩
  · split
    · rw [printAll_eq]
      exact ⟨⟨rfl, rfl⟩, rfl, rfl⟩
    · exact ⟨⟨rfl, rfl⟩, rfl, rfl⟩

theorem isrIrqHandler_calls {reg : Registers} (line : reg.intNo ≠ 32) :
    (board.isrIrqHandler reg).calls = board.calls ++ callsOf board.handlers reg.intNo := by
  simp only [Board.isrIrqHandler, callsOf, if_neg line]
  split
  · rfl
  · split
    · rw [printAll_eq]
      exact (List.append_nil _).symm
    · exact (List.append_nil _).symm

theorem isrExceptionHandler_panics {reg : Registers} {faultingAddress : Nat} (exception : reg.intNo < 32) :
    Kept board (board.isrExceptionHandler reg faultingAddress) ∧
      (board.isrExceptionHandler reg faultingAddress).pics = board.pics ∧
      (board.isrExceptionHandler reg faultingAddress).calls = board.calls ∧
      (board.isrExceptionHandler reg faultingAddress).halted = true := by
  simp only [Board.isrExceptionHandler, Board.pageFaultHandler, if_pos exception, printAll_eq, Board.print]
  split
  · exact ⟨⟨rfl, rfl⟩, rfl, rfl, rfl⟩
  · exact ⟨⟨rfl, rfl⟩, rfl, rfl, rfl⟩

theorem runStub_kept : Kept board (board.runStub context stub) := by
  cases stub with
  | exception number => exact (isrExceptionHandler_panics number.isLt).1
  | irq0WithTaskSwitch => exact ⟨rfl, rfl⟩
  | irq number => exact isrIrqHandler_kept.1
  | syscallInt0x80 => exact ⟨rfl, rfl⟩

/-- Where nothing is in service, no stub changes the controllers. -/
theorem runStub_pics (ready : Ready board.pics) : (board.runStub context stub).pics = board.pics := by
  cases stub with
  | exception number => exact (isrExceptionHandler_panics number.isLt).2.1
  | irq0WithTaskSwitch => exact ready.unserved
  | irq number => exact isrIrqHandler_kept.2.1.trans ready.unserved
  | syscallInt0x80 => rfl

/-- Vectors without a stub end in the handler of general protection faults. -/
theorem interrupt_eq (tables : board.tables = bootTables image.address tss stack) (small : tss < 2 ^ 32)
    (privilege : cpl ≤ 3) : board.interrupt image cpl software vector context =
      some (board.runStub context ((stubAt vector).getD (.exception 13))) := by
  have enter (software : Bool) (vector : Nat) : board.tables.enter cpl software vector =
      (stubAt vector).elim (.error generalProtection) fun stub =>
        .ok { address := image.address stub, stack := if 0 < cpl then some (0x10, stack) else none } := by
    rw [tables, bootTables_enter privilege image.small small]
  have fault : stubAt generalProtection = some (.exception 13) := by decide
  cases found : stubAt vector with
  | some stub =>
      simp only [Board.interrupt, enter, found, Option.elim_some, image.placed]
      rfl
  | none =>
      simp only [Board.interrupt, enter, found, fault, Option.elim_none, Option.elim_some, image.placed]
      rfl

theorem irqOf_lt : irqOf source < 16 := by
  cases source with
  | near line => exact Nat.lt_of_lt_of_le line.isLt (by decide)
  | far line => exact Nat.add_lt_add_left line.isLt 8

theorem stubAt_irq (bounded : irq < 16) :
    stubAt (32 + irq) = some (if irq = 0 then .irq0WithTaskSwitch else .irq (Fin.ofNat 15 (irq - 1))) := by
  revert irq
  decide

theorem runStub_halted (awake : ∀ number, stub ≠ .exception number) : (board.runStub context stub).halted = board.halted := by
  cases stub with
  | exception number => exact absurd rfl (awake number)
  | irq0WithTaskSwitch => rfl
  | irq number => exact isrIrqHandler_kept.2.2
  | syscallInt0x80 => rfl

theorem runStub_irq (bounded : irq < 16) :
    (board.runStub context (if irq = 0 then .irq0WithTaskSwitch else .irq (Fin.ofNat 15 (irq - 1)))).calls =
        board.calls ++ callsOf board.handlers (32 + irq) ∧
      (board.runStub context (if irq = 0 then .irq0WithTaskSwitch else .irq (Fin.ofNat 15 (irq - 1)))).pics =
        pic8259Eoi board.pics (32 + irq) := by
  by_cases timer : irq = 0
  · subst timer
    exact ⟨rfl, rfl⟩
  · have pushed : 33 + (Fin.ofNat 15 (irq - 1)).val = 32 + irq := by
      simp only [Fin.val_ofNat]
      omega
    rw [if_neg timer, Board.runStub, pushed]
    exact ⟨isrIrqHandler_calls (by simpa using timer), isrIrqHandler_kept.2.1⟩

/-- The processor accepts an interrupt: one request is served, with one call at most, and the others
stay.  Vector 39 also answers requests that went away. -/
structure Accepted (board after : Board) : Prop where
  tables : after.tables = board.tables
  handlers : after.handlers = board.handlers
  halted : after.halted = board.halted
  pics : after.pics = (board.pics.pending link).head?.elim board.pics board.pics.withdraw
  calls : after.calls = board.calls ++
    callsOf board.handlers ((board.pics.pending link).head?.elim 39 fun source => 32 + irqOf source)

theorem Settled.accept (settled : Settled image tss stack board) (context : Board.Context)
    (alive : board.halted = false) (privilege : cpl ≤ 3) :
    ∃ after, board.perform image (.accept cpl context) = some after ∧ Accepted board after := by
  have acknowledged := Cascade.acknowledge_eq settled.ready.idle
  have through (vector : Nat) (pics : Cascade) (found : board.pics.acknowledge link = (vector, pics)) :
      board.perform image (.accept cpl context) =
        some ({ board with pics }.runStub context ((stubAt vector).getD (.exception 13))) := by
    have alone : board.perform image (.accept cpl context) =
        Board.interrupt image { board with pics } cpl false vector context := by
      simp only [Board.perform, found]
      rw [if_neg (by simp [alive])]
    have entered : Board.tables { board with pics } = bootTables image.address tss stack := settled.tables
    rw [alone, interrupt_eq entered settled.small privilege]
  cases first : (board.pics.pending link).head? with
  | none =>
      rw [first, Option.elim_none, settled.ready.leaderVector] at acknowledged
      refine ⟨_, through _ _ acknowledged, ?_⟩
      have spurious : stubAt (0x20 + 7) = some (.irq 6) := by decide
      rw [spurious]
      refine ⟨runStub_kept.tables, runStub_kept.handlers, runStub_halted nofun, ?_, ?_⟩
      · rw [first]
        exact runStub_pics settled.ready
      · rw [first]
        have apart : (33 + 6 : Nat) ≠ 32 := by decide
        exact isrIrqHandler_calls apart
  | some source =>
      rw [first, Option.elim_some, settled.ready.vectorOf] at acknowledged
      refine ⟨_, through _ _ acknowledged, ?_⟩
      rw [stubAt_irq irqOf_lt]
      have effect := @runStub_irq { board with pics := board.pics.serving link source } context (irqOf source) irqOf_lt
      refine ⟨runStub_kept.tables, runStub_kept.handlers, runStub_halted ?_, ?_, ?_⟩
      · intro number
        split <;> simp
      · rw [first]
        exact effect.2.trans settled.ready.served
      · rw [first]
        exact effect.1

/-- The handlers after one more happening -/
def registering (handlers : Nat → Nat) : Happening → Nat → Nat
  | .register num handler => if num < noInterruptHandlers then Function.update handlers num handler else handlers
  | _ => handlers

/-- The handler that was registered last for each number -/
def registered (happenings : List Happening) : Nat → Nat := happenings.foldl registering fun _ => 0

theorem Accepted.settled (accepted : Accepted board after) (settled : Settled image tss stack board) :
    Settled image tss stack after := by
  refine ⟨accepted.tables.trans settled.tables, settled.small, ?_⟩
  rw [accepted.pics]
  cases (board.pics.pending link).head? with
  | none => exact settled.ready
  | some source => exact settled.ready.withdraw

theorem runStub_settled (settled : Settled image tss stack board) : Settled image tss stack (board.runStub context stub) := by
  refine ⟨runStub_kept.tables.trans settled.tables, settled.small, ?_⟩
  rw [runStub_pics settled.ready]
  exact settled.ready

/-- What every step keeps: nothing stays in service. -/
theorem Settled.perform (settled : Settled image tss stack board) (allowed : Allowed board happening)
    (done : board.perform image happening = some after) :
    Settled image tss stack after ∧ after.handlers = registering board.handlers happening := by
  cases happening with
  | raise source =>
      cases done
      exact ⟨⟨settled.tables, settled.small, settled.ready.raise allowed⟩, rfl⟩
  | withdraw source =>
      cases done
      exact ⟨⟨settled.tables, settled.small, settled.ready.withdraw⟩, rfl⟩
  | accept cpl context =>
      have alive : board.halted = false := by
        by_contra stopped
        simp [Board.perform, stopped] at done
      obtain ⟨other, performed, accepted⟩ := settled.accept context alive allowed
      cases Option.some.inj (performed.symm.trans done)
      exact ⟨accepted.settled settled, accepted.handlers⟩
  | software cpl vector context =>
      obtain ⟨_, entered⟩ : board.halted = false ∧ board.interrupt image cpl true vector context = some after := by
        simpa [Board.perform] using done
      rw [interrupt_eq settled.tables settled.small allowed] at entered
      cases entered
      exact ⟨runStub_settled settled, runStub_kept.handlers⟩
  | exception cpl number context =>
      obtain ⟨_, entered⟩ : board.halted = false ∧ board.interrupt image cpl false number context = some after := by
        simpa [Board.perform] using done
      rw [interrupt_eq settled.tables settled.small allowed] at entered
      cases entered
      exact ⟨runStub_settled settled, runStub_kept.handlers⟩
  | register num handler =>
      obtain ⟨_, rfl⟩ : board.halted = false ∧ board.isrRegisterInterruptHandler num handler = after := by
        simpa [Board.perform] using done
      simp only [Board.isrRegisterInterruptHandler, registering]
      split
      · exact ⟨⟨settled.tables, settled.small, settled.ready⟩, rfl⟩
      · exact ⟨settled, rfl⟩

theorem boot_settled (small : tss < 2 ^ 32) (leader : pics.leader.inService = ∅) (follower : pics.follower.inService = ∅) :
    Settled image tss stack (Board.boot image tss stack pics) := ⟨rfl, small, pic8259Init_ready leader follower⟩

theorem Settled.run (settled : Settled image tss stack board)
    (run : Restricted (Board.perform image) Allowed board happenings after) :
    Settled image tss stack after ∧ after.handlers = happenings.foldl registering board.handlers := by
  induction run with
  | nil board => exact ⟨settled, rfl⟩
  | cons performed _ ih =>
      obtain ⟨middle, handlers⟩ := settled.perform performed.1 performed.2
      rw [List.foldl_cons, ← handlers]
      exact ih middle

def lowAddress : Stub → Nat
  | .exception number => 0x101000 + number
  | .irq0WithTaskSwitch => 0x102000
  | .irq number => 0x102001 + number
  | .syscallInt0x80 => 0x103000

/-- The stubs one behind the other -/
def lowImage : Image where
  address := lowAddress
  code := fun address => (gates.find? fun gate => lowAddress gate.2.1 = address).map (·.2.1)
  small := by
    intro stub
    cases stub with
    | exception number => revert number; decide
    | irq0WithTaskSwitch => decide
    | irq number => revert number; decide
    | syscallInt0x80 => decide
  placed := by
    intro stub
    cases stub with
    | exception number => revert number; decide +kernel
    | irq0WithTaskSwitch => decide +kernel
    | irq number => revert number; decide +kernel
    | syscallInt0x80 => decide +kernel

def firmwareController : Controller :=
  { requests := ∅, inService := ∅, mask := 0, vector := 0x08, cascade := 0, automatic := false, expects := .mask }

/-- The mouse, the keyboard and the timer ask for service; the keyboard has a handler. -/
def threeRequests : List Happening :=
  [.register 33 0x105000, .raise (.far ⟨4, by decide⟩), .raise (.near ⟨1, by decide⟩), .raise (.near ⟨0, by decide⟩)]

theorem threeRequests_run : ∃ board,
    Restricted (Board.perform lowImage) Allowed
      (Board.boot lowImage 0x106000 0x107000 { leader := firmwareController, follower := firmwareController })
      threeRequests board ∧
    board.halted = false ∧ board.pics.pending link = [.near 0, .near 1, .far 4] ∧ board.calls = [] := by
  refine ⟨_, .cons ⟨trivial, rfl⟩ (.cons ⟨?_, rfl⟩ (.cons ⟨?_, rfl⟩ (.cons ⟨?_, rfl⟩ (.nil _)))), rfl, ?_, rfl⟩
  · exact (by decide : Source.far 4 ≠ .near link)
  · exact (by decide : Source.near 1 ≠ .near link)
  · exact (by decide : Source.near 0 ≠ .near link)
  · decide +kernel

end AutismOS.Interrupts
