import AutismOS.Processes.Outcomes

namespace AutismOS.Processes

open AutismOS.Library AutismOS.Ipc AutismOS.Memory

variable {kernel after : Kernel} {regs regs' : Registers} {fuel block ptr size target str count : Nat}

/-! Caller memory and system calls. -/

/-- The system calls with an argument that is a pointer. -/
def takesPointer (number : Nat) : Bool := number ∈ [sysWrite, sysSend, sysRecv, sysPoll, sysShmMap]

/-- The kernel with an empty record of accesses. -/
def Kernel.unrecorded (kernel : Kernel) : Kernel :=
  kernel.setMemory { kernel.memory with touched := [] }

/-- Every recorded byte is in user space, and a call that accesses nothing fails. -/
structure Isolated (regs regs' : Registers) (after : Kernel) : Prop where
  inside : ∀ addr ∈ after.memory.touched, userSpaceStart ≤ addr ∧ addr < userSpaceEnd
  refused : takesPointer regs.eax → after.memory.touched = [] → regs'.eax = failure

/-- The range lies in user space. -/
def Inside (ptr size : Nat) : Prop := userSpaceStart ≤ ptr ∧ ptr + size ≤ userSpaceEnd

/-- Where `SYS_SEND` accepts its pointer and finds its target, the part of the message that it
accesses is in user space. -/
def SendContained (kernel : Kernel) (fuel : Nat) (regs : Registers) : Prop :=
  isValidPointer regs.ecx messageSize = true →
    ∀ target, kernel.processFindByPid fuel regs.ebx = some target → target ≠ 0 →
      Inside regs.ecx (if messageQueueIsFull (kernel.processes target).inbox then 4 else messageSize)

/-- Where a receive accepts its pointer and has a message, there is room for it in user space. -/
def ReceiveContained (kernel : Kernel) (regs : Registers) : Prop :=
  isValidPointer regs.ebx messageSize = true → kernel.currentProcess ≠ 0 →
    messageQueueIsEmpty (kernel.processes kernel.currentProcess).inbox = false → Inside regs.ebx messageSize

/-- Where `SYS_SHM_MAP` accepts its pointer and finds its region, the address goes to user space. -/
def MapContained (kernel : Kernel) (regs : Registers) : Prop :=
  isValidPointer regs.ecx 4 = true → (shmFindById kernel.shm regs.ebx).isSome → Inside regs.ecx 4

def Contained (kernel : Kernel) (fuel : Nat) (regs : Registers) : Prop :=
  if regs.eax = sysSend then SendContained kernel fuel regs
  else if regs.eax = sysRecv ∨ regs.eax = sysPoll then ReceiveContained kernel regs
  else if regs.eax = sysShmMap then MapContained kernel regs
  else True

/-- The pointers of a call lead to user space, whether they are used or not. -/
structure PointsInside (regs : Registers) : Prop where
  send : regs.eax = sysSend → Inside regs.ecx messageSize
  receive : regs.eax = sysRecv ∨ regs.eax = sysPoll → Inside regs.ebx messageSize
  map : regs.eax = sysShmMap → Inside regs.ecx 4

instance : Decidable (Inside ptr size) := inferInstanceAs (Decidable (userSpaceStart ≤ ptr ∧ ptr + size ≤ userSpaceEnd))

instance : Decidable (PointsInside regs) :=
  decidable_of_iff ((regs.eax = sysSend → Inside regs.ecx messageSize) ∧
      (regs.eax = sysRecv ∨ regs.eax = sysPoll → Inside regs.ebx messageSize) ∧ (regs.eax = sysShmMap → Inside regs.ecx 4))
    ⟨fun ⟨send, receive, map⟩ => ⟨send, receive, map⟩, fun inside => ⟨inside.send, inside.receive, inside.map⟩⟩

theorem PointsInside.contained (inside : PointsInside regs) : Contained kernel fuel regs := by
  rw [Contained]
  split
  · next isSend =>
      intro _ target _ _
      obtain ⟨lower, upper⟩ := inside.send isSend
      refine ⟨lower, ?_⟩
      split
      · exact Nat.le_trans (Nat.add_le_add_left (by decide) _) upper
      · exact upper
  split
  · next receives => exact fun _ _ _ => inside.receive receives
  split
  · next isMap => exact fun _ _ => inside.map isMap
  · trivial

theorem isValidPointer_fits (small : ptr < 2 ^ 32) (bounded : size ≤ 0x1000)
    (valid : isValidPointer ptr size = true) : ptr ≠ 0 ∧ ptr + size ≤ 2 ^ 32 := by
  unfold isValidPointer add32 at valid
  by_cases null : ptr = 0
  · simp [null] at valid
  · refine ⟨null, ?_⟩
    by_cases wraps : (ptr + size) % 2 ^ 32 < ptr
    · simp only [if_pos wraps, ite_self, Bool.false_eq_true] at valid
    · omega

theorem wake_memory : (kernel.wake target).memory = kernel.memory := by
  simp only [Kernel.wake]
  split
  · rfl
  · rfl

/-- The loop reads its first character, and none outside its range. -/
theorem printString_touched (fits : str + count ≤ userSpaceEnd) (lower : userSpaceStart ≤ str)
    (old : ∀ addr ∈ kernel.memory.touched, userSpaceStart ≤ addr ∧ addr < userSpaceEnd) :
    (∀ addr ∈ (kernel.printString str count).memory.touched, userSpaceStart ≤ addr ∧ addr < userSpaceEnd) ∧
      (kernel.memory.touched ≠ [] ∨ 0 < count → (kernel.printString str count).memory.touched ≠ []) := by
  induction count generalizing kernel str with
  | zero => exact ⟨old, fun nonempty => nonempty.resolve_right (Nat.lt_irrefl 0)⟩
  | succ count ih =>
      have next : ∀ addr ∈ (kernel.memory.touch str 1).touched, userSpaceStart ≤ addr ∧ addr < userSpaceEnd := by
        rw [TracedMemory.touch_within (by unfold userSpaceEnd at fits; omega) Nat.one_pos]
        exact ⟨⟨lower, by omega⟩, old⟩
      have read : (kernel.memory.touch str 1).touched ≠ [] := TracedMemory.touch_ne_nil Nat.one_pos
      rw [printString_succ]
      by_cases last : kernel.memory.bytes.loadByte str = 0
      · rw [if_pos last]
        exact ⟨next, fun _ => read⟩
      · rw [if_neg last]
        obtain ⟨inside, nonempty⟩ := @ih
          ((kernel.setMemory (kernel.memory.touch str 1)).print (.char (kernel.memory.bytes.loadByte str)))
          (str + 1) (by omega) (by omega) next
        exact ⟨inside, fun _ => nonempty (Or.inl read)⟩

-- The record of the accesses is empty before each call.

/-- A call that accesses one range is isolated exactly when the range is in user space. -/
theorem isolated_iff_inside (clean : kernel.memory.touched = []) (fits : ptr + size ≤ 2 ^ 32) (nonempty : 0 < size)
    (same : after.memory.touched = (kernel.memory.touch ptr size).touched) :
    Isolated regs regs' after ↔ Inside ptr size := by
  have range : (∀ addr ∈ after.memory.touched, userSpaceStart ≤ addr ∧ addr < userSpaceEnd) ↔ Inside ptr size := by
    rw [same, TracedMemory.touch_within fits nonempty, clean]
    exact and_iff_left nofun
  constructor
  · exact fun isolated => range.mp isolated.inside
  · intro inside
    refine ⟨range.mpr inside, fun _ empty => ?_⟩
    rw [same] at empty
    exact absurd empty (TracedMemory.touch_ne_nil nonempty)

/-- A call that fails without an access is isolated. -/
theorem isolated_of_untouched (untouched : after.memory.touched = [])
    (fails : takesPointer regs.eax → regs'.eax = failure) : Isolated regs regs' after := by
  refine ⟨?_, fun takes _ => fails takes⟩
  rw [untouched]
  exact nofun

theorem syscallWrite_isolated (clean : kernel.memory.touched = []) (done : kernel.syscallWrite regs = (regs', after)) :
    Isolated regs regs' after := by
  simp only [Kernel.syscallWrite] at done
  by_cases outside : regs.ebx < userSpaceStart ∨ regs.ebx ≥ userSpaceEnd
  · rw [if_pos outside] at done
    cases done
    refine isolated_of_untouched ?_ fun _ => rfl
    simp only [Kernel.printInvalidPointer]
    split
    · exact clean
    · exact clean
  · rw [if_neg outside] at done
    cases done
    obtain ⟨lower, upper⟩ := not_or.mp outside
    obtain ⟨limit, isLimit⟩ :
        ∃ limit, (if userSpaceEnd - regs.ebx > 1024 then 1024 else userSpaceEnd - regs.ebx) = limit := ⟨_, rfl⟩
    have bounds : 0 < limit ∧ regs.ebx + limit ≤ userSpaceEnd := by
      split at isLimit
      · omega
      · omega
    rw [isLimit]
    obtain ⟨inside, read⟩ :=
      printString_touched bounds.2 (Nat.not_lt.mp lower) (show ∀ addr ∈ kernel.memory.touched, _ from clean ▸ nofun)
    exact ⟨inside, fun _ empty => absurd empty (read (Or.inr bounds.1))⟩

theorem sent_isolated (clean : kernel.memory.touched = []) (small : regs.ecx < 2 ^ 32)
    (sent : Sent kernel fuel regs regs' after) :
    Isolated regs regs' after ↔ SendContained kernel fuel regs := by
  cases sent with
  | invalid pointer =>
      exact iff_of_true (isolated_of_untouched clean fun _ => rfl) fun valid =>
        absurd (pointer.symm.trans valid) Bool.false_ne_true
  | absent pointer found =>
      refine iff_of_true (isolated_of_untouched clean fun _ => rfl) fun _ target isTarget nonNull => ?_
      exact absurd (Option.some.inj (isTarget.symm.trans found)) nonNull
  | full target pointer found nonNull isFull =>
      have fits := (isValidPointer_fits small (by decide) pointer).2
      have access : Isolated regs { regs with eax := failure } (kernel.setMemory (kernel.stamped regs.ecx)) ↔
          Inside regs.ecx 4 :=
        isolated_iff_inside clean (by unfold messageSize at fits; omega) (by decide) rfl
      rw [access]
      constructor
      · intro inside _ other isOther _
        rw [Option.some.inj (isOther.symm.trans found), isFull]
        exact inside
      · intro contained
        have range := contained pointer target found nonNull
        rwa [isFull] at range
  | delivered target inbox pointer found nonNull isFull queued =>
      have fits := (isValidPointer_fits small (by decide) pointer).2
      have recorded : (((kernel.setMemory ((kernel.stamped regs.ecx).touch regs.ecx messageSize)).setInbox target
          inbox).wake target).memory = (kernel.stamped regs.ecx).touch regs.ecx messageSize := wake_memory
      have stamp : (∀ addr ∈ (kernel.stamped regs.ecx).touched, userSpaceStart ≤ addr ∧ addr < userSpaceEnd) ↔
          Inside regs.ecx 4 := by
        have touched : (kernel.stamped regs.ecx).touched = (kernel.memory.touch regs.ecx 4).touched := rfl
        rw [touched, TracedMemory.touch_within (by unfold messageSize at fits; omega) (by decide), clean]
        exact and_iff_left nofun
      have access : (∀ addr ∈ ((kernel.stamped regs.ecx).touch regs.ecx messageSize).touched,
          userSpaceStart ≤ addr ∧ addr < userSpaceEnd) ↔ Inside regs.ecx messageSize := by
        rw [TracedMemory.touch_within fits (by decide), stamp]
        refine and_iff_left_of_imp fun inside => ⟨inside.1, Nat.le_trans ?_ inside.2⟩
        exact Nat.add_le_add_left (by decide) _
      constructor
      · intro isolated _ other isOther _
        rw [Option.some.inj (isOther.symm.trans found), isFull]
        exact access.mp (recorded ▸ isolated.inside)
      · intro contained
        have range := contained pointer target found nonNull
        rw [isFull] at range
        refine ⟨?_, fun _ empty => ?_⟩
        · rw [recorded]
          exact access.mpr range
        · rw [recorded] at empty
          exact absurd empty (TracedMemory.touch_ne_nil (by decide))

theorem received_isolated {idle : Kernel} (clean : kernel.memory.touched = []) (small : regs.ebx < 2 ^ 32)
    (unread : idle.memory = kernel.memory) (received : Received kernel idle regs regs' after) :
    Isolated regs regs' after ↔ ReceiveContained kernel regs := by
  cases received with
  | invalid pointer =>
      exact iff_of_true (isolated_of_untouched clean fun _ => rfl) fun valid =>
        absurd (pointer.symm.trans valid) Bool.false_ne_true
  | nobody pointer current =>
      exact iff_of_true (isolated_of_untouched clean fun _ => rfl) fun _ nonNull => absurd current nonNull
  | message message inbox pointer current taken =>
      have fits := (isValidPointer_fits small (by decide) pointer).2
      have waiting : messageQueueIsEmpty (kernel.processes kernel.currentProcess).inbox = false := by
        have pending := (messageQueueDequeue_some taken).1
        exact decide_eq_false (by omega)
      have access : Isolated regs { regs with eax := 0 }
          ((kernel.setMemory (writeMessage kernel.memory regs.ebx message)).setInbox kernel.currentProcess inbox) ↔
            Inside regs.ebx messageSize := isolated_iff_inside clean fits (by decide) rfl
      rw [access]
      exact ⟨fun inside _ _ _ => inside, fun contained => contained pointer current waiting⟩
  | empty pointer current none =>
      refine iff_of_true (isolated_of_untouched (unread ▸ clean) fun _ => rfl) fun _ _ waiting => ?_
      have pending := messageQueueDequeue_none.mp none
      simp [messageQueueIsEmpty, pending] at waiting

theorem parked_memory : kernel.parked.memory = kernel.memory := by
  simp only [Kernel.parked]
  split
  · rfl
  · rfl

theorem syscallShmMap_isolated (clean : kernel.memory.touched = []) (small : regs.ecx < 2 ^ 32)
    (done : kernel.syscallShmMap regs = (regs', after)) :
    Isolated regs regs' after ↔ MapContained kernel regs := by
  simp only [Kernel.syscallShmMap] at done
  cases pointer : isValidPointer regs.ecx 4 with
  | false =>
      rw [pointer] at done
      cases done
      exact iff_of_true (isolated_of_untouched clean fun _ => rfl) fun valid =>
        absurd (pointer.symm.trans valid) Bool.false_ne_true
  | true =>
      obtain ⟨nonNull, fits⟩ := isValidPointer_fits small (by decide) pointer
      rw [pointer, shmMap, if_neg nonNull] at done
      cases region : shmFindById kernel.shm regs.ebx with
      | none =>
          rw [region] at done
          cases done
          refine iff_of_true (isolated_of_untouched clean fun _ => rfl) fun _ found => ?_
          rw [region] at found
          cases found
      | some index =>
          rw [region] at done
          cases done
          refine (isolated_iff_inside clean fits (by decide) rfl).trans ?_
          exact ⟨fun inside _ _ => inside, fun contained => contained pointer (region ▸ rfl)⟩

/-- A call without a pointer argument records nothing. -/
theorem isolated_of_no_pointer (clean : kernel.memory.touched = [])
    (untouched : after.memory.touched = kernel.memory.touched) (no : ¬ takesPointer regs.eax) :
    Isolated regs regs' after :=
  isolated_of_untouched (untouched.trans clean) fun takes => absurd takes no

theorem syscallShmCreate_touched :
    (kernel.syscallShmCreate block regs).2.memory.touched = kernel.memory.touched := by
  simp only [Kernel.syscallShmCreate]
  split
  · rfl
  · rfl

theorem syscallShmUnmap_touched : (kernel.syscallShmUnmap regs).2.memory.touched = kernel.memory.touched := by
  simp only [Kernel.syscallShmUnmap]
  split
  · rfl
  · rfl

theorem Handled.isolated (clean : kernel.memory.touched = []) (small : regs.ebx < 2 ^ 32 ∧ regs.ecx < 2 ^ 32)
    (handled : Handled kernel fuel block regs regs' after) : Isolated regs regs' after ↔ Contained kernel fuel regs := by
  rw [Contained]
  cases handled with
  | write number done =>
      rw [number]
      exact iff_of_true (syscallWrite_isolated clean done) trivial
  | send number sent =>
      rw [if_pos number]
      exact sent_isolated clean small.2 sent
  | recv number received =>
      rw [if_neg (by rw [number]; decide), if_pos (Or.inl number)]
      exact received_isolated clean small.1 parked_memory received
  | poll number received =>
      rw [if_neg (by rw [number]; decide), if_pos (Or.inr number)]
      exact received_isolated clean small.1 rfl received
  | shmCreate number done =>
      have untouched : (kernel.syscallShmCreate block regs).2.memory.touched = _ := syscallShmCreate_touched
      rw [done] at untouched
      rw [number]
      exact iff_of_true (isolated_of_no_pointer clean untouched (by rw [number]; decide)) trivial
  | shmMap number done =>
      rw [if_neg (by rw [number]; decide), if_neg (by rw [number]; decide), if_pos number]
      exact syscallShmMap_isolated clean small.2 done
  | shmUnmap number done =>
      have untouched : (kernel.syscallShmUnmap regs).2.memory.touched = _ := syscallShmUnmap_touched
      rw [done] at untouched
      rw [number]
      exact iff_of_true (isolated_of_no_pointer clean untouched (by rw [number]; decide)) trivial
  | unknown number done =>
      cases done
      simp only [List.mem_cons, not_or, List.not_mem_nil, not_false_eq_true, and_true] at number
      obtain ⟨_, isSend, isRecv, isPoll, _, isMap, _⟩ := number
      rw [if_neg isSend, if_neg (not_or.mpr ⟨isRecv, isPoll⟩), if_neg isMap]
      exact iff_of_true (isolated_of_untouched clean fun _ => rfl) trivial

/-- What a call accesses through the pointers of its caller lies in user space exactly when the
memory behind the pointers that it accepts and uses does. -/
theorem syscallHandler_isolated_iff (small : regs.ebx < 2 ^ 32 ∧ regs.ecx < 2 ^ 32)
    (done : kernel.unrecorded.syscallHandler fuel block regs = some (regs', after)) :
    Isolated regs regs' after ↔ Contained kernel fuel regs := by
  have isolated : Isolated regs regs' after ↔ Contained kernel.unrecorded fuel regs :=
    (syscallHandler_handled done).isolated rfl small
  exact isolated

/-- `SYS_WRITE` of a string in user space. -/
theorem syscallHandler_isolated_iff_write : ∃ regs' after,
    emptyKernel.unrecorded.syscallHandler 1 0 ⟨sysWrite, 0x200000, 0⟩ = some (regs', after) ∧
      (Isolated ⟨sysWrite, 0x200000, 0⟩ regs' after ↔ Contained emptyKernel 1 ⟨sysWrite, 0x200000, 0⟩) := by
  have done : emptyKernel.unrecorded.syscallHandler 1 0 ⟨sysWrite, 0x200000, 0⟩ = some (_, _) := rfl
  exact ⟨_, _, done, syscallHandler_isolated_iff ⟨by decide, by decide⟩ done⟩

/-- The first process sends a message to itself that lies in the kernel image. -/
theorem send_writes_kernel : ∃ kernel regs' after,
    emptyKernel.processCreate lowStatics 1 ⟨0x200014, 0x201014, 0x204014, 0x205014⟩ 0x101000 = some (0x200014, kernel) ∧
      kernel.unrecorded.syscallHandler 1 0 ⟨sysSend, 0, 0x100000⟩ = some (regs', after) ∧ regs'.eax = 0 ∧
      0x100000 ∈ after.memory.touched ∧ ¬ Isolated ⟨sysSend, 0, 0x100000⟩ regs' after := by
  have created : emptyKernel.processCreate lowStatics 1 ⟨0x200014, 0x201014, 0x204014, 0x205014⟩ 0x101000 =
      some (0x200014, _) := rfl
  refine ⟨_, _, _, created, rfl, rfl, ?_, fun isolated => ?_⟩
  · decide
  · have inside := (isolated.inside 0x100000 (by decide)).1
    exact absurd inside (by decide)

end AutismOS.Processes
