import AutismOS.VirtualMemory.Calls

namespace AutismOS.VirtualMemory

open AutismOS.Library AutismOS.Frames

variable {vmm booted : Vmm} {spaces before middle after : Spaces} {call : VmmCall}
variable {calls : List VmmCall} {dir block virt : Nat} {slots : Nat → Nat}

/-! The kernel half of a directory. -/

/-- Creating directories, and mapping and unmapping kernel addresses of the kernel directory. -/
def KernelCall (spaces : Spaces) : VmmCall → Prop
  | .createDirectory block => block ∉ spaces.live
  | .mapPage dir virt _ _ =>
      spaces.vmm.resolve dir = spaces.vmm.kernelDir ∧ kernelSpaceStart ≤ virt ∧ virt < 2 ^ 32
  | .unmapPage dir virt =>
      spaces.vmm.resolve dir = spaces.vmm.kernelDir ∧ kernelSpaceStart ≤ virt ∧ virt < 2 ^ 32
  | _ => False

/-- The kernel directory exists. -/
structure Rooted (spaces : Spaces) : Prop where
  kernel : spaces.vmm.kernelDir ∈ spaces.live
  nonNull : 0 ∉ spaces.live

theorem Rooted.kernelDir (rooted : Rooted spaces) : spaces.vmm.kernelDir ≠ 0 := by
  intro null
  exact rooted.nonNull (null ▸ rooted.kernel)

/-- What a call on the kernel half can do. -/
inductive KernelEffect (spaces : Spaces) : VmmCall → Spaces → Prop where
  | quiet {call : VmmCall} (vmm : Vmm) : vmm.kernelDir = spaces.vmm.kernelDir →
      (∀ other slot, vmm.table other slot = spaces.vmm.table other slot ∨
        spaces.vmm.table other slot = 0 ∧ other = spaces.vmm.kernelDir) →
      KernelEffect spaces call { spaces with vmm }
  | created (dir : Nat) : dir ≠ 0 → dir ∉ spaces.live →
      KernelEffect spaces (.createDirectory dir)
        { vmm := spaces.vmm.setDirectory dir (copiedDirectory (spaces.vmm.directories spaces.vmm.kernelDir))
          live := insert dir spaces.live }

theorem vmmCall_kernelEffect (rooted : Rooted spaces) (allowed : KernelCall spaces call) :
    KernelEffect spaces call (vmmCall spaces call) := by
  cases call with
  | createDirectory block =>
      rcases Nat.eq_zero_or_pos block with null | positive
      · subst null
        exact .quiet spaces.vmm rfl fun other slot => Or.inl rfl
      · have nonNull : block ≠ 0 := Nat.pos_iff_ne_zero.mp positive
        simp only [vmmCall, vmmCreateDirectory_eq nonNull rooted.kernelDir, if_neg nonNull]
        exact .created block nonNull allowed
  | mapPage dir virt phys flags =>
      obtain ⟨isKernel, _, _⟩ := allowed
      have nonNull : spaces.vmm.resolve dir ≠ 0 := isKernel ▸ rooted.kernelDir
      refine .quiet _ (vmmMapPage_kernelDir nonNull) fun other slot => ?_
      rcases vmmMapPage_table nonNull with same | ⟨absent, isDir, _⟩
      · exact Or.inl same
      · exact Or.inr ⟨absent, isDir.trans isKernel⟩
  | unmapPage dir virt =>
      obtain ⟨isKernel, _, _⟩ := allowed
      have nonNull : spaces.vmm.resolve dir ≠ 0 := isKernel ▸ rooted.kernelDir
      exact .quiet _ (vmmUnmapPage_kernelDir nonNull) fun other slot =>
        Or.inl (vmmUnmapPage_table nonNull)
  | destroyDirectory dir => exact allowed.elim
  | switchDirectory dir => exact allowed.elim
  | allocPage dir virt flags => exact allowed.elim
  | allocPages dir virt count flags => exact allowed.elim
  | freePages dir virt count => exact allowed.elim

theorem KernelEffect.rooted (effect : KernelEffect spaces call after) (rooted : Rooted spaces) :
    Rooted after := by
  cases effect with
  | quiet vmm kernel _ => exact ⟨kernel ▸ rooted.kernel, rooted.nonNull⟩
  | created dir nonNull _ =>
      refine ⟨Finset.mem_insert_of_mem rooted.kernel, fun member => ?_⟩
      rcases Finset.mem_insert.mp member with null | member
      · exact nonNull null.symm
      · exact rooted.nonNull member

theorem KernelEffect.kernelDir (effect : KernelEffect spaces call after) :
    after.vmm.kernelDir = spaces.vmm.kernelDir := by
  cases effect with
  | quiet vmm kernel _ => exact kernel
  | created dir _ _ => rfl

/-- The kernel half of `dir` was copied when the kernel directory had the page tables `slots`. -/
structure Copied (spaces : Spaces) (dir : Nat) (slots : Nat → Nat) : Prop where
  rooted : Rooted spaces
  live : dir ∈ spaces.live
  different : dir ≠ spaces.vmm.kernelDir
  copied : ∀ slot, 768 ≤ slot → slot < 1024 → spaces.vmm.table dir slot = slots slot
  kept : ∀ slot, slots slot ≠ 0 → spaces.vmm.table spaces.vmm.kernelDir slot = slots slot

theorem KernelEffect.copied (effect : KernelEffect spaces call after) (copied : Copied spaces dir slots) :
    Copied after dir slots := by
  have rooted := effect.rooted copied.rooted
  cases effect with
  | quiet vmm kernel tables =>
      refine ⟨rooted, copied.live, kernel ▸ copied.different, fun slot low high => ?_, fun slot held => ?_⟩
      · rcases tables dir slot with same | ⟨_, isKernel⟩
        · exact same.trans (copied.copied slot low high)
        · exact absurd isKernel copied.different
      · have before := copied.kept slot held
        change vmm.table vmm.kernelDir slot = slots slot
        rw [kernel]
        rcases tables spaces.vmm.kernelDir slot with same | ⟨absent, _⟩
        · exact same.trans before
        · exact absurd (before.symm.trans absent) held
  | created block nonNull fresh =>
      have notDir : dir ≠ block := fun same => fresh (same ▸ copied.live)
      have notKernel : spaces.vmm.kernelDir ≠ block := fun same => fresh (same ▸ copied.rooted.kernel)
      refine ⟨rooted, Finset.mem_insert_of_mem copied.live, copied.different, fun slot low high => ?_,
        fun slot held => ?_⟩
      · rw [created_table, if_neg notDir]
        exact copied.copied slot low high
      · change Vmm.table _ spaces.vmm.kernelDir slot = slots slot
        rw [created_table, if_neg notKernel]
        exact copied.kept slot held

theorem KernelEffect.copies (effect : KernelEffect spaces (.createDirectory dir) after)
    (rooted : Rooted spaces) (lacks : dir ∉ spaces.live) (live : dir ∈ after.live) :
    Copied after dir (spaces.vmm.table spaces.vmm.kernelDir) := by
  have rootedAfter := effect.rooted rooted
  cases effect with
  | quiet vmm _ _ => exact absurd live lacks
  | created _ nonNull fresh =>
      have notKernel : spaces.vmm.kernelDir ≠ dir := fun same => fresh (same ▸ rooted.kernel)
      refine ⟨rootedAfter, live, notKernel.symm, fun slot low high => ?_, fun slot _ => ?_⟩
      · rw [created_table, if_pos rfl, if_pos ⟨low, high⟩]
      · change Vmm.table _ spaces.vmm.kernelDir slot = _
        rw [created_table, if_neg notKernel]

/-- The answer of a copied directory for a kernel address. -/
theorem Copied.physical (copied : Copied spaces dir slots) (high : kernelSpaceStart ≤ virt)
    (bounded : virt < 2 ^ 32) :
    vmmGetPhysical spaces.vmm dir virt =
      if slots (vmmDirIndex virt) ≠ 0 ∨ spaces.vmm.table spaces.vmm.kernelDir (vmmDirIndex virt) = 0 then
        vmmGetPhysical spaces.vmm spaces.vmm.kernelDir virt
      else none := by
  have low : 768 ≤ vmmDirIndex virt := by
    unfold vmmDirIndex
    unfold kernelSpaceStart at high
    omega
  have top : vmmDirIndex virt < 1024 := Nat.mod_lt _ (by decide)
  have nonNull : dir ≠ 0 := fun null => copied.rooted.nonNull (null ▸ copied.live)
  have isDir : spaces.vmm.resolve dir = dir := resolve_self nonNull
  have isKernel : spaces.vmm.resolve spaces.vmm.kernelDir = spaces.vmm.kernelDir :=
    resolve_self copied.rooted.kernelDir
  rw [vmmGetPhysical_eq (by rwa [isDir]), vmmGetPhysical_eq (by rw [isKernel]; exact copied.rooted.kernelDir),
    isDir, isKernel, copied.copied _ low top]
  by_cases held : slots (vmmDirIndex virt) = 0
  · rw [if_pos held]
    by_cases absent : spaces.vmm.table spaces.vmm.kernelDir (vmmDirIndex virt) = 0
    · rw [if_pos (Or.inr absent), if_pos absent]
    · rw [if_neg fun either => either.elim (fun held' => held' held) absent]
  · rw [if_pos (Or.inl held), copied.kept _ held]

/-- The calls on the kernel half, from any state on. -/
abbrev KernelRun (before : Spaces) (calls : List VmmCall) (after : Spaces) : Prop :=
  Run (Guarded KernelCall (Stepping vmmStep)) before calls after

theorem bootedSpaces_rooted (fresh : vmm.initialized = false) (done : vmmInit vmm block = (0, booted)) :
    Rooted (bootedSpaces booted) := by
  obtain ⟨frame, nonNull, _, _, _, rfl⟩ := vmmInit_eq fresh done
  exact ⟨Finset.mem_singleton_self block, fun member => nonNull (Finset.mem_singleton.mp member).symm⟩

theorem kernelStep_effect (rooted : Rooted before)
    (step : Guarded KernelCall (Stepping vmmStep) before call after) : KernelEffect before call after := by
  obtain ⟨allowed, performed⟩ := step
  cases performed
  exact vmmCall_kernelEffect rooted allowed

theorem KernelRun.rooted (run : KernelRun before calls after) (rooted : Rooted before) : Rooted after :=
  run.invariant Rooted (fun _ _ _ rooted step => (kernelStep_effect rooted step).rooted rooted) rooted

theorem KernelRun.copied (run : KernelRun before calls after) (copied : Copied before dir slots) :
    Copied after dir slots :=
  run.invariant (fun spaces => Copied spaces dir slots)
    (fun _ _ _ copied step => (kernelStep_effect copied.rooted step).copied copied) copied

/-- Only creating a directory makes it live. -/
theorem kernelStep_creates (rooted : Rooted before)
    (step : Guarded KernelCall (Stepping vmmStep) before call after) (lacks : dir ∉ before.live)
    (gains : dir ∈ after.live) : call = .createDirectory dir := by
  have effect := kernelStep_effect rooted step
  cases effect with
  | quiet vmm _ _ => exact absurd gains lacks
  | created block _ _ =>
      rcases Finset.mem_insert.mp gains with same | member
      · rw [same]
      · exact absurd member lacks

/-- The answer now of a directory that was created in the state `before`: that of the kernel
directory if this had the page table of the address then or has none now, and otherwise
that the address is not mapped. -/
def AnswersSince (before now : Spaces) (dir virt : Nat) : Prop :=
  vmmGetPhysical now.vmm dir virt =
    if before.vmm.table before.vmm.kernelDir (vmmDirIndex virt) ≠ 0 ∨
        now.vmm.table now.vmm.kernelDir (vmmDirIndex virt) = 0 then
      vmmGetPhysical now.vmm now.vmm.kernelDir virt
    else none

/-- Every directory but the kernel's answers for a kernel address by the state it was created in. -/
theorem run_kernel_half (fresh : vmm.initialized = false) (done : vmmInit vmm block = (0, booted))
    (run : KernelRun (bootedSpaces booted) calls after) (live : dir ∈ after.live)
    (high : kernelSpaceStart ≤ virt) (bounded : virt < 2 ^ 32) :
    dir = after.vmm.kernelDir ∨ ∃ front back before middle,
      calls = front ++ .createDirectory dir :: back ∧
      KernelRun (bootedSpaces booted) front before ∧
      Guarded KernelCall (Stepping vmmStep) before (.createDirectory dir) middle ∧
      KernelRun middle back after ∧ AnswersSince before after dir virt := by
  have rooted := bootedSpaces_rooted fresh done
  rcases run.becomes (fun spaces => dir ∈ spaces.live) live with
    initial | ⟨front, call, back, before, middle, split, first, lacks, step, gains, rest⟩
  · have isKernel : dir = booted.kernelDir := Finset.mem_singleton.mp initial
    obtain ⟨_, same⟩ := run.invariant
      (fun spaces => Rooted spaces ∧ spaces.vmm.kernelDir = booted.kernelDir)
      (fun _ _ _ held step =>
        have effect := kernelStep_effect held.1 step
        ⟨effect.rooted held.1, effect.kernelDir.trans held.2⟩)
      ⟨rooted, rfl⟩
    exact Or.inl (isKernel.trans same.symm)
  · have rootedBefore := KernelRun.rooted first rooted
    have isCall : call = .createDirectory dir := kernelStep_creates rootedBefore step lacks gains
    subst isCall
    have copied := (kernelStep_effect rootedBefore step).copies rootedBefore lacks gains
    exact Or.inr ⟨front, back, before, middle, split, first, step, rest,
      (KernelRun.copied rest copied).physical high bounded⟩

/-- A directory created before the first mapping of a kernel slot misses the mapping. -/
theorem kernel_half_missed : ∃ booted after,
    vmmInit (blankVmm sparePmm) 0x500004 = (0, booted) ∧
      KernelRun (bootedSpaces booted)
        [.createDirectory 0x504004, .mapPage 0x500004 0xC0000000 0x200000 3] after ∧
      0x504004 ∈ after.live ∧ vmmGetPhysical after.vmm 0x504004 0xC0000000 = none ∧
      vmmGetPhysical after.vmm after.vmm.kernelDir 0xC0000000 = some 0x200000 := by
  have done : vmmInit (blankVmm sparePmm) 0x500004 = (0, bootedVmm (blankVmm sparePmm) 0x500004 1) :=
    vmmInit_boots rfl (by decide) rfl (by decide) (by decide)
  have run : KernelRun (bootedSpaces (bootedVmm (blankVmm sparePmm) 0x500004 1))
      [.createDirectory 0x504004, .mapPage 0x500004 0xC0000000 0x200000 3] _ :=
    .cons ⟨Finset.notMem_singleton.mpr (by decide), rfl⟩
      (.cons ⟨⟨rfl, by decide, by decide⟩, rfl⟩ (.nil _))
  exact ⟨_, _, done, run, Finset.mem_insert_self _ _, rfl, rfl⟩

/-- A directory created after the first mapping of a kernel slot follows later mappings. -/
theorem run_kernel_half_shared : ∃ booted after,
    vmmInit (blankVmm sparePmm) 0x500004 = (0, booted) ∧
      KernelRun (bootedSpaces booted)
        [.mapPage 0x500004 0xC0000000 0x200000 3, .createDirectory 0x504004,
          .mapPage 0x500004 0xC0001000 0x201000 3] after ∧
      0x504004 ∈ after.live ∧
      (0x504004 = after.vmm.kernelDir ∨ ∃ front back before middle,
        [.mapPage 0x500004 0xC0000000 0x200000 3, .createDirectory 0x504004,
          .mapPage 0x500004 0xC0001000 0x201000 3] = front ++ .createDirectory 0x504004 :: back ∧
        KernelRun (bootedSpaces booted) front before ∧
        Guarded KernelCall (Stepping vmmStep) before (.createDirectory 0x504004) middle ∧
        KernelRun middle back after ∧ AnswersSince before after 0x504004 0xC0001000) := by
  have done : vmmInit (blankVmm sparePmm) 0x500004 = (0, bootedVmm (blankVmm sparePmm) 0x500004 1) :=
    vmmInit_boots rfl (by decide) rfl (by decide) (by decide)
  have run : KernelRun (bootedSpaces (bootedVmm (blankVmm sparePmm) 0x500004 1))
      [.mapPage 0x500004 0xC0000000 0x200000 3, .createDirectory 0x504004,
        .mapPage 0x500004 0xC0001000 0x201000 3] _ :=
    .cons ⟨⟨rfl, by decide, by decide⟩, rfl⟩
      (.cons ⟨Finset.notMem_singleton.mpr (by decide), rfl⟩
        (.cons ⟨⟨rfl, by decide, by decide⟩, rfl⟩ (.nil _)))
  have live : 0x504004 ∈ (insert 0x504004 {0x500004} : Finset Nat) := Finset.mem_insert_self _ _
  exact ⟨_, _, done, run, live, run_kernel_half rfl done run live (by decide) (by decide)⟩

end AutismOS.VirtualMemory
