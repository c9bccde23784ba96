import AutismOS.Heap.Outcomes
import AutismOS.VirtualMemory.Calls

namespace AutismOS.VirtualMemory

open AutismOS.Library AutismOS.Frames AutismOS.Heap

variable {vmm booted : Vmm} {spaces before after : Spaces} {call : VmmCall}
variable {calls : List VmmCall} {dir block virt : Nat}

/-- Creating, switching to and destroying directories; new ones lie where the kernel
heap places its blocks. -/
def DirectoryCall (spaces : Spaces) : VmmCall → Prop
  | .createDirectory block => block = 0 ∨ HeapPointer block
  | .destroyDirectory dir => dir = 0 ∨ dir ∈ spaces.live
  | .switchDirectory dir => dir = 0 ∨ dir ∈ spaces.live
  | _ => False

/-- The physical address of a kernel pointer. -/
def physicalAddress (vmm : Vmm) (addr : Nat) : Option Nat :=
  (vmmGetPhysical vmm vmm.kernelDir addr).map fun page => page + addr % vmmPageSize

/-- The current directory exists, and a switch has loaded the page-aligned physical
address of its directory. -/
structure Active (call : VmmCall) (spaces : Spaces) : Prop where
  current : spaces.vmm.currentDir ∈ spaces.live
  loaded : ∀ dir, call = .switchDirectory dir → dir ≠ 0 →
    spaces.vmm.cr3 % vmmPageSize = 0 ∧ physicalAddress spaces.vmm dir = some spaces.vmm.cr3

/-- The directories as long as none but the kernel's was switched to. -/
structure Resident (spaces : Spaces) : Prop where
  kernel : spaces.vmm.kernelDir ∈ spaces.live
  current : spaces.vmm.currentDir = spaces.vmm.kernelDir
  placed : ∀ dir ∈ spaces.live, HeapPointer dir

theorem vmmDestroyDirectory_fields : (vmmDestroyDirectory vmm dir).kernelDir = vmm.kernelDir ∧
    (vmmDestroyDirectory vmm dir).currentDir = vmm.currentDir := by
  by_cases refused : dir = 0 ∨ dir = vmm.kernelDir
  · rw [vmmDestroyDirectory, if_pos refused]
    exact ⟨rfl, rfl⟩
  · rw [vmmDestroyDirectory, if_neg refused]
    exact freeTables_invariant
      (fun after => after.kernelDir = vmm.kernelDir ∧ after.currentDir = vmm.currentDir)
      (fun _ _ same => same) ⟨rfl, rfl⟩

theorem Resident.createDirectory (resident : Resident spaces) (placed : block = 0 ∨ HeapPointer block) :
    Resident (vmmCall spaces (.createDirectory block)) := by
  by_cases null : block = 0
  · subst null
    exact resident
  · have created : vmmCall spaces (.createDirectory block) =
        { vmm := (vmmCreateDirectory spaces.vmm block).2, live := insert block spaces.live } := by
      simp [vmmCall, vmmCreateDirectory, null]
    have kernel : (vmmCreateDirectory spaces.vmm block).2.kernelDir = spaces.vmm.kernelDir := by
      rw [vmmCreateDirectory, if_neg null]
      rfl
    have current : (vmmCreateDirectory spaces.vmm block).2.currentDir = spaces.vmm.currentDir := by
      rw [vmmCreateDirectory, if_neg null]
      rfl
    rw [created]
    refine ⟨?_, ?_, fun dir member => ?_⟩
    · rw [kernel]
      exact Finset.mem_insert_of_mem resident.kernel
    · rw [kernel, current, resident.current]
    · rcases Finset.mem_insert.mp member with isBlock | member
      · exact isBlock ▸ placed.resolve_left null
      · exact resident.placed dir member

theorem Resident.destroyDirectory (resident : Resident spaces) (dir : Nat) :
    Resident (vmmCall spaces (.destroyDirectory dir)) := by
  obtain ⟨kernel, current⟩ := @vmmDestroyDirectory_fields spaces.vmm dir
  refine ⟨?_, ?_, fun other member => ?_⟩
  · simp only [vmmCall, kernel]
    by_cases isKernel : dir = spaces.vmm.kernelDir
    · rw [if_pos isKernel]
      exact resident.kernel
    · rw [if_neg isKernel]
      exact Finset.mem_erase.mpr ⟨fun same => isKernel same.symm, resident.kernel⟩
  · simp only [vmmCall, kernel, current, resident.current]
  · simp only [vmmCall] at member
    by_cases isKernel : dir = spaces.vmm.kernelDir
    · rw [if_pos isKernel] at member
      exact resident.placed other member
    · rw [if_neg isKernel] at member
      exact resident.placed other (Finset.mem_of_mem_erase member)

/-- A call that switches to no directory leaves the kernel's current. -/
theorem Resident.step (resident : Resident before)
    (step : Guarded DirectoryCall (Stepping vmmStep) before call after)
    (quiet : ∀ dir, call = .switchDirectory dir → dir = 0) : Resident after := by
  obtain ⟨allowed, performed⟩ := step
  cases performed
  cases call with
  | createDirectory block => exact resident.createDirectory allowed
  | destroyDirectory dir => exact resident.destroyDirectory dir
  | switchDirectory dir =>
      have null := quiet dir rfl
      subst null
      exact resident
  | mapPage dir virt phys flags => exact allowed.elim
  | unmapPage dir virt => exact allowed.elim
  | allocPage dir virt flags => exact allowed.elim
  | allocPages dir virt count flags => exact allowed.elim
  | freePages dir virt count => exact allowed.elim

/-- The page of an address is aligned, so the physical address has its offset. -/
theorem physicalAddress_offset {phys : Nat} (nonNull : vmm.kernelDir ≠ 0)
    (mapped : physicalAddress vmm virt = some phys) : phys % vmmPageSize = virt % vmmPageSize := by
  obtain ⟨page, found, rfl⟩ := Option.map_eq_some_iff.mp mapped
  have aligned : page % vmmPageSize = 0 := by
    rw [vmmGetPhysical_eq (by rwa [resolve_self nonNull])] at found
    split at found
    · cases found
    · unfold entryPage at found
      split at found
      · cases found
      · cases found
        unfold pageMask vmmPageSize
        omega
  rw [Nat.add_mod, aligned]
  simp [vmmPageSize]

/-- No switch to a directory of the kernel heap loads an aligned address. -/
theorem switch_not_active (nonNull : dir ≠ 0) (placed : HeapPointer dir) (kernel : spaces.vmm.kernelDir ≠ 0) :
    ¬ Active (.switchDirectory dir) spaces := by
  intro active
  obtain ⟨aligned, loaded⟩ := active.loaded dir rfl nonNull
  have offset := physicalAddress_offset kernel loaded
  have inBlock := placed.1
  unfold vmmPageSize at *
  unfold kheapBlockSize headerSize at inBlock
  omega

/-- Runs of directory calls in which the property holds after every step. -/
abbrev ActiveRun (before : Spaces) (calls : List VmmCall) (after : Spaces) : Prop :=
  Run (fun before call after => Stepping vmmStep before call after ∧ Active call after) before calls after

theorem Resident.kernelDir (resident : Resident spaces) : spaces.vmm.kernelDir ≠ 0 := by
  intro null
  have placed := (resident.placed _ resident.kernel).1
  rw [null] at placed
  exact absurd placed (by decide)

theorem vmmSwitchDirectory_kernelDir : (vmmSwitchDirectory vmm dir).kernelDir = vmm.kernelDir := by
  by_cases null : dir = 0
  · rw [vmmSwitchDirectory, if_pos null]
  · simp only [vmmSwitchDirectory, if_neg null]
    cases vmmGetPhysical { vmm with currentDir := dir } vmm.kernelDir dir with
    | none => rfl
    | some phys => rfl

theorem Resident.switch_null (resident : Resident before)
    (step : Guarded DirectoryCall (Stepping vmmStep) before call after) (active : Active call after) :
    ∀ dir, call = .switchDirectory dir → dir = 0 := by
  intro dir isSwitch
  subst isSwitch
  obtain ⟨allowed, performed⟩ := step
  cases performed
  rcases allowed with null | live
  · exact null
  · have kernel : (vmmSwitchDirectory before.vmm dir).kernelDir ≠ 0 := by
      rw [vmmSwitchDirectory_kernelDir]
      exact resident.kernelDir
    exact not_not.mp fun nonNull => switch_not_active nonNull (resident.placed dir live) kernel active

theorem Resident.active (resident : Resident spaces) (quiet : ∀ dir, call = .switchDirectory dir → dir = 0) :
    Active call spaces :=
  ⟨resident.current ▸ resident.kernel, fun dir isSwitch nonNull => absurd (quiet dir isSwitch) nonNull⟩

theorem Resident.activeRun (resident : Resident before)
    (run : Run (Guarded DirectoryCall (Stepping vmmStep)) before calls after) :
    ActiveRun before calls after ↔ ∀ dir, .switchDirectory dir ∈ calls → dir = 0 := by
  let quiet (call : VmmCall) : Prop := ∀ dir, call = .switchDirectory dir → dir = 0
  have observed : ActiveRun before calls after ↔ Restricted vmmStep (fun _ call => quiet call) before calls after := by
    refine run.observed_iff Resident (fun before call after resident allowed performed => ?_)
      (fun before call after resident allowed performed isQuiet => resident.step ⟨allowed, performed⟩ isQuiet) resident
    constructor
    · intro active
      exact resident.switch_null ⟨allowed, performed⟩ active
    · intro isQuiet
      exact (resident.step ⟨allowed, performed⟩ isQuiet).active isQuiet
  rw [observed, run.restricted_iff]
  constructor
  · intro allQuiet dir member
    exact allQuiet _ member dir rfl
  · intro nulls call member dir isSwitch
    exact nulls dir (isSwitch ▸ member)

theorem bootedSpaces_resident (fresh : vmm.initialized = false) (placed : block = 0 ∨ HeapPointer block)
    (done : vmmInit vmm block = (0, booted)) : Resident (bootedSpaces booted) := by
  obtain ⟨frame, nonNull, _, _, _, rfl⟩ := vmmInit_eq fresh done
  refine ⟨Finset.mem_singleton_self block, rfl, fun dir member => ?_⟩
  rw [Finset.mem_singleton.mp member]
  exact placed.resolve_left nonNull

/-- The active directory is right throughout a run exactly when the run switches to no
directory at all. -/
theorem run_active_iff (fresh : vmm.initialized = false) (placed : block = 0 ∨ HeapPointer block)
    (done : vmmInit vmm block = (0, booted))
    (run : Run (Guarded DirectoryCall (Stepping vmmStep)) (bootedSpaces booted) calls after) :
    booted.currentDir ∈ (bootedSpaces booted).live ∧
      (ActiveRun (bootedSpaces booted) calls after ↔ ∀ dir, .switchDirectory dir ∈ calls → dir = 0) := by
  have resident := bootedSpaces_resident fresh placed done
  exact ⟨resident.current ▸ resident.kernel, resident.activeRun run⟩

/-- A directory is created and destroyed; the switch is to NULL. -/
theorem run_active_iff_null : ∃ booted after,
    vmmInit (blankVmm sparePmm) 0x100014 = (0, booted) ∧
      Run (Guarded DirectoryCall (Stepping vmmStep)) (bootedSpaces booted)
        [.createDirectory 0x103014, .switchDirectory 0, .destroyDirectory 0x103014] after ∧
      booted.currentDir ∈ (bootedSpaces booted).live ∧
      (ActiveRun (bootedSpaces booted)
          [.createDirectory 0x103014, .switchDirectory 0, .destroyDirectory 0x103014] after ↔
        ∀ dir, .switchDirectory dir ∈
          [VmmCall.createDirectory 0x103014, .switchDirectory 0, .destroyDirectory 0x103014] → dir = 0) := by
  have done : vmmInit (blankVmm sparePmm) 0x100014 = (0, bootedVmm (blankVmm sparePmm) 0x100014 1) :=
    vmmInit_boots rfl (by decide) rfl (by decide) (by decide)
  have run : Run (Guarded DirectoryCall (Stepping vmmStep))
      (bootedSpaces (bootedVmm (blankVmm sparePmm) 0x100014 1))
      [.createDirectory 0x103014, .switchDirectory 0, .destroyDirectory 0x103014] _ :=
    .cons ⟨Or.inr ⟨by decide, by decide⟩, rfl⟩
      (.cons ⟨Or.inl rfl, rfl⟩ (.cons ⟨Or.inr (Finset.mem_insert_self _ _), rfl⟩ (.nil _)))
  exact ⟨_, _, done, run, run_active_iff rfl (Or.inr ⟨by decide, by decide⟩) done run⟩

/-- Switching to the kernel directory loads the start of its page instead of its address. -/
theorem switch_drops_offset : ∃ booted after,
    vmmInit (blankVmm sparePmm) 0x100014 = (0, booted) ∧
      Run (Guarded DirectoryCall (Stepping vmmStep)) (bootedSpaces booted) [.switchDirectory 0x100014] after ∧
      after.vmm.cr3 = 0x100000 ∧ physicalAddress after.vmm 0x100014 = some 0x100014 ∧
      ¬ ActiveRun (bootedSpaces booted) [.switchDirectory 0x100014] after := by
  have done : vmmInit (blankVmm sparePmm) 0x100014 = (0, bootedVmm (blankVmm sparePmm) 0x100014 1) :=
    vmmInit_boots rfl (by decide) rfl (by decide) (by decide)
  have run : Run (Guarded DirectoryCall (Stepping vmmStep))
      (bootedSpaces (bootedVmm (blankVmm sparePmm) 0x100014 1)) [.switchDirectory 0x100014] _ :=
    .single ⟨Or.inr (Finset.mem_singleton_self _), rfl⟩
  refine ⟨_, _, done, run, rfl, rfl, fun activeRun => ?_⟩
  cases activeRun with
  | cons observed rest =>
      obtain ⟨performed, active⟩ := observed
      obtain ⟨_, loaded⟩ := active.loaded 0x100014 rfl (by decide)
      cases performed
      have same : some 0x100014 = some 0x100000 := loaded
      exact absurd same (by decide)

/-- Destroying the current directory leaves it current. -/
theorem destroy_current_dangles (other : spaces.vmm.currentDir ≠ spaces.vmm.kernelDir) :
    (vmmCall spaces (.destroyDirectory spaces.vmm.currentDir)).vmm.currentDir ∉
      (vmmCall spaces (.destroyDirectory spaces.vmm.currentDir)).live := by
  simp [vmmCall, vmmDestroyDirectory_fields.2, other]

end AutismOS.VirtualMemory
