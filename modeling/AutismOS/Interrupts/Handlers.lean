import AutismOS.Interrupts.Service

namespace AutismOS.Interrupts

open AutismOS.Library AutismOS.Processes

variable {image : Image} {board after : Board} {pics : Cascade} {stub : Stub} {context : Board.Context}
variable {happening : Happening} {happenings : List Happening} {handlers : Nat → Nat} {call : Call}
variable {tss stack vector num : Nat}

/-! # Which handlers are called

Programs may raise the interrupts of devices, too, and the stub of the timer never looks into the table. -/

/-- A call of a handler is one of a line other than the timer's, and the handler stands in the table. -/
def Called (handlers : Nat → Nat) : Call → Prop
  | .handler handler intNo => 33 ≤ intNo ∧ intNo ≤ 47 ∧ handler ≠ 0 ∧ handlers intNo = handler
  | .syscallHandler => True
  | .taskSchedulerTick => True

/-- Every number is in a warning once where it was logged, and not before. -/
def Warned (board : Board) : Prop :=
  ∀ num, board.console.count (.hex num) = if board.loggedInterrupts num then 1 else 0

theorem isrIrqHandler_called {number : Fin 15} {eip : Nat}
    (called : call ∈ (board.isrIrqHandler { intNo := 33 + number, errCode := 0, eip }).calls) :
    call ∈ board.calls ∨ Called board.handlers call := by
  have apart : 33 + number.val ≠ 32 := by omega
  rw [isrIrqHandler_calls apart, callsOf, if_neg apart] at called
  rcases List.mem_append.mp called with old | new
  · exact Or.inl old
  · by_cases registered : board.handlers (33 + number) ≠ 0
    · rw [if_pos registered] at new
      rw [List.mem_singleton.mp new]
      have lower : 33 ≤ 33 + number.val := by omega
      have upper : 33 + number.val ≤ 47 := by omega
      exact Or.inr ⟨lower, upper, registered, rfl⟩
    · rw [if_neg registered] at new
      cases new

theorem runStub_called (called : call ∈ (board.runStub context stub).calls) :
    call ∈ board.calls ∨ Called board.handlers call := by
  cases stub with
  | exception number =>
      rw [Board.runStub, (isrExceptionHandler_panics number.isLt).2.2.1] at called
      exact Or.inl called
  | irq0WithTaskSwitch =>
      refine (List.mem_append.mp called).imp_right fun new => ?_
      rw [List.mem_singleton.mp new]
      exact trivial
  | irq number => exact isrIrqHandler_called called
  | syscallInt0x80 =>
      refine (List.mem_append.mp called).imp_right fun new => ?_
      rw [List.mem_singleton.mp new]
      exact trivial

/-- A warning is printed for the first interrupt of a number without handler. -/
theorem isrIrqHandler_warned {reg : Registers} (warned : Warned board) : Warned (board.isrIrqHandler reg) := by
  simp only [Board.isrIrqHandler]
  split
  · exact warned
  · split
    · next fresh =>
        intro num
        have unlogged : board.loggedInterrupts reg.intNo = false := by simpa using fresh
        simp only [printAll_eq, Function.update_apply]
        by_cases same : num = reg.intNo
        · have before := warned reg.intNo
          rw [unlogged] at before
          rw [same]
          simpa using before
        · simp [warned num, same, Ne.symm same]
    · exact warned

theorem runStub_warned (warned : board.halted = false → Warned board) :
    (board.runStub context stub).halted = false → Warned (board.runStub context stub) := by
  cases stub with
  | exception number =>
      intro alive
      cases (isrExceptionHandler_panics number.isLt).2.2.2.symm.trans alive
  | irq0WithTaskSwitch => exact warned
  | irq number =>
      intro alive
      exact isrIrqHandler_warned (warned (isrIrqHandler_kept.2.2.symm.trans alive))
  | syscallInt0x80 => exact warned

/-- Every step is the work of a stub at most. -/
theorem perform_cases (settled : Settled image tss stack board) (allowed : Allowed board happening)
    (done : board.perform image happening = some after) :
    (after.calls = board.calls ∧ after.console = board.console ∧ after.loggedInterrupts = board.loggedInterrupts ∧
        after.halted = board.halted) ∨
      ∃ pics stub context, after = Board.runStub { board with pics } context stub := by
  have through {cpl : Nat} {software : Bool} {vector : Nat} {context : Board.Context} {pics : Cascade}
      (privilege : cpl ≤ 3)
      (entered : Board.interrupt image { board with pics } cpl software vector context = some after) :
      ∃ pics stub context, after = Board.runStub { board with pics } context stub := by
    have tables : Board.tables { board with pics } = bootTables image.address tss stack := settled.tables
    rw [interrupt_eq tables settled.small privilege] at entered
    exact ⟨pics, _, context, (Option.some.inj entered).symm⟩
  cases happening with
  | raise source =>
      cases done
      exact Or.inl ⟨rfl, rfl, rfl, rfl⟩
  | withdraw source =>
      cases done
      exact Or.inl ⟨rfl, rfl, rfl, rfl⟩
  | accept cpl context =>
      have entered : Board.interrupt image { board with pics := (board.pics.acknowledge link).2 } cpl false
          (board.pics.acknowledge link).1 context = some after := by
        by_cases stopped : board.halted
        · simp [Board.perform, stopped] at done
        · rw [Board.perform, if_neg stopped] at done
          exact done
      exact Or.inr (through allowed entered)
  | software cpl vector context =>
      obtain ⟨_, entered⟩ : board.halted = false ∧ board.interrupt image cpl true vector context = some after := by
        simpa [Board.perform] using done
      exact Or.inr (through allowed entered)
  | exception cpl number context =>
      obtain ⟨_, entered⟩ : board.halted = false ∧ board.interrupt image cpl false number context = some after := by
        simpa [Board.perform] using done
      exact Or.inr (through allowed entered)
  | register num handler =>
      obtain ⟨_, rfl⟩ : board.halted = false ∧ board.isrRegisterInterruptHandler num handler = after := by
        simpa [Board.perform] using done
      simp only [Board.isrRegisterInterruptHandler]
      split
      · exact Or.inl ⟨rfl, rfl, rfl, rfl⟩
      · exact Or.inl ⟨rfl, rfl, rfl, rfl⟩

/-- What stands in the table after one more happening stood there before, or is registered now. -/
theorem registering_eq {handler : Nat} (stands : registering handlers happening num = handler) :
    handlers num = handler ∨ happening = .register num handler := by
  cases happening with
  | register other new =>
      rw [registering] at stands
      split at stands
      · rw [Function.update_apply] at stands
        split at stands
        · next same =>
            subst same stands
            exact Or.inr rfl
        · exact Or.inl stands
      · exact Or.inl stands
  | raise | withdraw | accept | software | exception => exact Or.inl stands

/-- The handlers that a run calls stood in the table at its start or were registered in it. -/
theorem Settled.calls (settled : Settled image tss stack board)
    (run : Restricted (Board.perform image) Allowed board happenings after) {handler intNo : Nat}
    (called : .handler handler intNo ∈ after.calls) :
    .handler handler intNo ∈ board.calls ∨ (33 ≤ intNo ∧ intNo ≤ 47 ∧ handler ≠ 0) ∧
      (board.handlers intNo = handler ∨ .register intNo handler ∈ happenings) := by
  induction run with
  | nil board => exact Or.inl called
  | @cons before middle after happening rest performed _ ih =>
      obtain ⟨middleSettled, handlers⟩ := settled.perform performed.1 performed.2
      rcases ih middleSettled called with earlier | ⟨line, stood | registered⟩
      · rcases perform_cases settled performed.1 performed.2 with ⟨same, _⟩ | ⟨pics, stub, context, rfl⟩
        · rw [same] at earlier
          exact Or.inl earlier
        · rcases runStub_called earlier with old | ⟨lower, upper, nonNull, stands⟩
          · exact Or.inl old
          · exact Or.inr ⟨⟨lower, upper, nonNull⟩, Or.inl stands⟩
      · rw [handlers] at stood
        refine Or.inr ⟨line, (registering_eq stood).imp_right fun here => ?_⟩
        rw [here]
        exact List.mem_cons_self
      · exact Or.inr ⟨line, Or.inr (List.mem_cons_of_mem _ registered)⟩

theorem Settled.warned (settled : Settled image tss stack board)
    (run : Restricted (Board.perform image) Allowed board happenings after) (warned : board.halted = false → Warned board) :
    after.halted = false → Warned after := by
  induction run with
  | nil board => exact warned
  | @cons before middle after happening rest performed _ ih =>
      refine ih (settled.perform performed.1 performed.2).1 ?_
      rcases perform_cases settled performed.1 performed.2 with ⟨_, console, logged, halted⟩ | ⟨pics, stub, context, rfl⟩
      · rw [halted, Warned, console, logged]
        exact warned
      · exact runStub_warned warned

/-- Whatever devices and programs do, only handlers that were registered for the lines 1 to 15 are
called, so the handler that `kmain` registers for the timer never runs; and until the kernel panics
it warns of each number once at most. -/
theorem boot_calls (small : tss < 2 ^ 32) (leader : pics.leader.inService = ∅) (follower : pics.follower.inService = ∅)
    (run : Restricted (Board.perform image) Allowed (Board.boot image tss stack pics) happenings board) :
    (∀ handler intNo, .handler handler intNo ∈ board.calls →
      33 ≤ intNo ∧ intNo ≤ 47 ∧ handler ≠ 0 ∧ .register intNo handler ∈ happenings) ∧
    (board.halted = false → ∀ num, board.console.count (.hex num) ≤ 1) := by
  have settled : Settled image tss stack (Board.boot image tss stack pics) := boot_settled small leader follower
  constructor
  · intro handler intNo called
    rcases settled.calls run called with before | ⟨⟨lower, upper, nonNull⟩, stood | registered⟩
    · exact absurd before List.not_mem_nil
    · exact absurd stood.symm nonNull
    · exact ⟨lower, upper, nonNull, registered⟩
  · intro alive num
    have warned := settled.warned run (fun _ _ => rfl) alive num
    rw [warned]
    split
    · exact Nat.le_refl 1
    · exact Nat.zero_le 1

/-- A program raises the interrupts of the keyboard and of the timer. -/
def softwareInterrupts : List Happening :=
  [.register 32 0x105000, .register 33 0x105010, .software 3 33 ⟨0, 0, 0⟩, .software 3 32 ⟨0, 0, 0⟩]

theorem boot_calls_software : ∃ board,
    Restricted (Board.perform lowImage) Allowed
      (Board.boot lowImage 0x106000 0x107000 { leader := firmwareController, follower := firmwareController })
      softwareInterrupts board ∧
    board.calls = [.handler 0x105010 33, .taskSchedulerTick] ∧ 33 ≤ 33 ∧ .register 33 0x105010 ∈ softwareInterrupts := by
  obtain ⟨board, run, calls⟩ : ∃ board,
      Restricted (Board.perform lowImage) Allowed
        (Board.boot lowImage 0x106000 0x107000 { leader := firmwareController, follower := firmwareController })
        softwareInterrupts board ∧ board.calls = [.handler 0x105010 33, .taskSchedulerTick] := by
    have privilege : 3 ≤ 3 := by decide
    exact ⟨_, .cons ⟨trivial, rfl⟩ (.cons ⟨trivial, rfl⟩ (.cons ⟨privilege, rfl⟩ (.cons ⟨privilege, rfl⟩ (.nil _)))), rfl⟩
  obtain ⟨lower, _, _, registered⟩ := (boot_calls (by decide) rfl rfl run).1 0x105010 33 (by rw [calls]; decide)
  exact ⟨board, run, calls, lower, registered⟩

theorem runStub_halted_iff (alive : board.halted = false) :
    (board.runStub context stub).halted = true ↔ ∃ number, stub = .exception number := by
  cases stub with
  | exception number => exact iff_of_true (isrExceptionHandler_panics number.isLt).2.2.2 ⟨number, rfl⟩
  | irq0WithTaskSwitch | irq | syscallInt0x80 =>
      rw [runStub_halted fun _ => Stub.noConfusion, alive]
      exact iff_of_false Bool.false_ne_true fun ⟨_, same⟩ => Stub.noConfusion same

theorem stubAt_exception : (∃ number, (stubAt vector).getD (.exception 13) = .exception number) ↔
    vector < 32 ∨ 48 ≤ vector ∧ vector ≠ 128 := by
  simp only [stubAt]
  by_cases exception : vector < 32
  · simp [exception]
  by_cases timer : vector = 32
  · simp [timer]
  by_cases line : vector < 48
  · rw [if_neg exception, if_neg timer, if_pos line]
    refine iff_of_false ?_ (by omega)
    rintro ⟨_, same⟩
    cases same
  by_cases call : vector = 128
  · simp [call]
  · rw [if_neg exception, if_neg timer, if_neg line, if_neg call]
    exact iff_of_true ⟨13, rfl⟩ (by omega)

/-- In every state that the machine can reach, a program of any privilege may ask for any interrupt.  The
kernel goes on exactly after the numbers of the lines and the system call, and stops after all others. -/
theorem boot_software_halts_iff {cpl : Nat} (small : tss < 2 ^ 32) (leader : pics.leader.inService = ∅)
    (follower : pics.follower.inService = ∅)
    (run : Restricted (Board.perform image) Allowed (Board.boot image tss stack pics) happenings board)
    (alive : board.halted = false) (privilege : cpl ≤ 3) :
    ∃ after, board.perform image (.software cpl vector context) = some after ∧
      (after.halted = true ↔ vector < 32 ∨ 48 ≤ vector ∧ vector ≠ 128) := by
  have settled : Settled image tss stack board := ((boot_settled small leader follower).run run).1
  refine ⟨board.runStub context ((stubAt vector).getD (.exception 13)), ?_, ?_⟩
  · rw [Board.perform, if_neg (by simp [alive])]
    exact interrupt_eq settled.tables settled.small privilege
  · rw [runStub_halted_iff alive, stubAt_exception]

theorem boot_software_halts_iff_divide : ∃ board after,
    Restricted (Board.perform lowImage) Allowed
      (Board.boot lowImage 0x106000 0x107000 { leader := firmwareController, follower := firmwareController })
      threeRequests board ∧
    board.perform lowImage (.software 3 0 ⟨0, 0, 0⟩) = some after ∧ after.halted = true := by
  have small : 0x106000 < 2 ^ 32 := by decide
  have privilege : 3 ≤ 3 := by decide
  obtain ⟨board, run, alive, _⟩ := threeRequests_run
  obtain ⟨after, performed, halted⟩ : ∃ after, board.perform lowImage (.software 3 0 ⟨0, 0, 0⟩) = some after ∧
      (after.halted = true ↔ 0 < 32 ∨ 48 ≤ 0 ∧ 0 ≠ 128) := boot_software_halts_iff small rfl rfl run alive privilege
  exact ⟨board, after, run, performed, halted.mpr (Or.inl (by decide))⟩

end AutismOS.Interrupts
