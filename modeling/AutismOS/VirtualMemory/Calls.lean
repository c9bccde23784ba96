import AutismOS.Library.Run
import AutismOS.VirtualMemory.Tables

namespace AutismOS.VirtualMemory

open AutismOS.Library AutismOS.Frames

/-- The memory manager with the directories that exist. -/
structure Spaces where
  vmm : Vmm
  live : Finset Nat

inductive VmmCall where
  | createDirectory (block : Nat)
  | destroyDirectory (dir : Nat)
  | switchDirectory (dir : Nat)
  | mapPage (dir virt phys flags : Nat)
  | unmapPage (dir virt : Nat)
  | allocPage (dir virt flags : Nat)
  | allocPages (dir virt count flags : Nat)
  | freePages (dir virt count : Nat)
deriving DecidableEq

def vmmCall (spaces : Spaces) : VmmCall → Spaces
  | .createDirectory block =>
      let (dir, vmm) := vmmCreateDirectory spaces.vmm block
      { vmm, live := if dir = 0 then spaces.live else insert dir spaces.live }
  | .destroyDirectory dir =>
      { vmm := vmmDestroyDirectory spaces.vmm dir
        live := if dir = spaces.vmm.kernelDir then spaces.live else spaces.live.erase dir }
  | .switchDirectory dir => { spaces with vmm := vmmSwitchDirectory spaces.vmm dir }
  | .mapPage dir virt phys flags => { spaces with vmm := (vmmMapPage spaces.vmm dir virt phys flags).2 }
  | .unmapPage dir virt => { spaces with vmm := vmmUnmapPage spaces.vmm dir virt }
  | .allocPage dir virt flags => { spaces with vmm := (vmmAllocPage spaces.vmm dir virt flags).2 }
  | .allocPages dir virt count flags =>
      { spaces with vmm := (vmmAllocPages spaces.vmm dir virt count flags).2 }
  | .freePages dir virt count => { spaces with vmm := vmmFreePages spaces.vmm dir virt count }

def vmmStep (spaces : Spaces) (call : VmmCall) : Option Spaces := some (vmmCall spaces call)

/-- The spaces after initialization. -/
def bootedSpaces (booted : Vmm) : Spaces where
  vmm := booted
  live := {booted.kernelDir}

variable {vmm : Vmm} {spaces : Spaces} {block dir virt phys flags : Nat}

/-- A new directory has the upper quarter of the kernel directory. -/
def copiedDirectory (kernel : PageDirectory) : PageDirectory :=
  { clearedDirectory with
    entries := fun slot => if 768 ≤ slot ∧ slot < 1024 then kernel.entries slot else 0
    tables := fun slot => if 768 ≤ slot ∧ slot < 1024 then kernel.tables slot else 0 }

theorem vmmCreateDirectory_eq (nonNull : block ≠ 0) (kernel : vmm.kernelDir ≠ 0) :
    vmmCreateDirectory vmm block =
      (block, vmm.setDirectory block (copiedDirectory (vmm.directories vmm.kernelDir))) := by
  simp only [vmmCreateDirectory, if_neg nonNull, ne_eq, kernel, not_false_eq_true, if_true]
  rfl

theorem created_table {other slot : Nat} :
    (vmm.setDirectory block (copiedDirectory (vmm.directories vmm.kernelDir))).table other slot =
      if other = block then if 768 ≤ slot ∧ slot < 1024 then vmm.table vmm.kernelDir slot else 0
      else vmm.table other slot := by
  by_cases same : other = block
  · subst same
    simp [Vmm.table, Vmm.setDirectory, copiedDirectory]
  · simp [Vmm.table, Vmm.setDirectory, same]

/-- Mapping a page enters at most the missing table of its slot. -/
theorem vmmMapPage_table (nonNull : vmm.resolve dir ≠ 0) {other slot : Nat} :
    (vmmMapPage vmm dir virt phys flags).2.table other slot = vmm.table other slot ∨
      vmm.table other slot = 0 ∧ other = vmm.resolve dir ∧ slot = vmmDirIndex virt := by
  have entered (table : Nat) (absent : vmm.table (vmm.resolve dir) (vmmDirIndex virt) = 0) :
      (vmm.allocFrame.2.enter (vmm.resolve dir) (vmmDirIndex virt) table).table other slot =
          vmm.table other slot ∨
        vmm.table other slot = 0 ∧ other = vmm.resolve dir ∧ slot = vmmDirIndex virt := by
    by_cases isSlot : other = vmm.resolve dir ∧ slot = vmmDirIndex virt
    · obtain ⟨isDir, isIndex⟩ := isSlot
      exact Or.inr ⟨by rw [isDir, isIndex, absent], isDir, isIndex⟩
    · exact Or.inl (by rw [enter_table, if_neg isSlot, allocFrame_table])
  have mapping := vmmMapPage_mapping nonNull virt phys flags
  generalize vmmMapPage vmm dir virt phys flags = outcome at mapping
  cases mapping with
  | present _ => exact Or.inl mapEntry_table
  | refused _ _ => exact Or.inl allocFrame_table
  | wrapped absent _ _ => exact entered 0 absent
  | entered frame absent _ _ _ =>
      rw [mapEntry_table]
      exact entered _ absent

theorem vmmMapPage_kernelDir (nonNull : vmm.resolve dir ≠ 0) :
    (vmmMapPage vmm dir virt phys flags).2.kernelDir = vmm.kernelDir := by
  have mapping := vmmMapPage_mapping nonNull virt phys flags
  generalize vmmMapPage vmm dir virt phys flags = outcome at mapping
  cases mapping <;> rfl

theorem vmmUnmapPage_table (nonNull : vmm.resolve dir ≠ 0) {other slot : Nat} :
    (vmmUnmapPage vmm dir virt).table other slot = vmm.table other slot := by
  rw [vmmUnmapPage_eq nonNull]
  by_cases missing : vmm.table (vmm.resolve dir) (vmmDirIndex virt) = 0
  · rw [if_pos missing]
  · rw [if_neg missing, unmapEntry_table]

theorem vmmUnmapPage_kernelDir (nonNull : vmm.resolve dir ≠ 0) :
    (vmmUnmapPage vmm dir virt).kernelDir = vmm.kernelDir := by
  rw [vmmUnmapPage_eq nonNull]
  by_cases missing : vmm.table (vmm.resolve dir) (vmmDirIndex virt) = 0
  · rw [if_pos missing]
  · rw [if_neg missing, Vmm.unmapEntry, Vmm.setEntry]

/-- Freeing the page tables of a directory keeps what freeing one frame keeps. -/
theorem freeTables_invariant (holds : Vmm → Prop)
    (preserved : ∀ vmm frame, holds vmm → holds (Vmm.freeFrame vmm frame)) {slot count : Nat}
    (initial : holds vmm) : holds (freeTables vmm dir slot count) := by
  induction count generalizing vmm slot with
  | zero => exact initial
  | succ count ih =>
      rw [freeTables]
      by_cases present : vmm.table dir slot ≠ 0
      · simp only [if_pos present]
        exact ih (preserved vmm _ initial)
      · simp only [if_neg present]
        exact ih initial

end AutismOS.VirtualMemory
