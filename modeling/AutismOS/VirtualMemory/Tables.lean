import AutismOS.VirtualMemory.Core
import AutismOS.Frames.Accounting
import Mathlib.Data.Nat.Bitwise

namespace AutismOS.VirtualMemory

open AutismOS.Library AutismOS.Frames

variable {vmm after : Vmm} {dir virt phys flags slot index table frame value addr count : Nat}

/-! What the operations on page tables do. -/

theorem pageMask_div : pageMask value / 4096 = value / 4096 := by
  unfold pageMask
  omega

theorem pageMask_eq : pageMask value = value / 4096 * 4096 := by
  unfold pageMask
  omega

theorem vmmDirIndex_pageMask : vmmDirIndex (pageMask virt) = vmmDirIndex virt := by
  unfold vmmDirIndex pageMask
  omega

theorem vmmTableIndex_pageMask : vmmTableIndex (pageMask virt) = vmmTableIndex virt := by
  unfold vmmTableIndex pageMask
  omega

theorem pmmFrameToAddr_small (small : frame < 2 ^ 20) : pmmFrameToAddr frame = frame * 4096 :=
  Nat.mod_eq_of_lt (by omega)

/-- The entry that `vmm_map_page` writes. -/
def pageEntry (phys flags : Nat) : Nat := pageMask phys ||| flags % 4096 ||| vmmFlagPresent

theorem pageEntry_present : pageEntry phys flags &&& vmmFlagPresent ≠ 0 := by
  intro absent
  have bit : (pageEntry phys flags &&& vmmFlagPresent).testBit 0 = true := by
    simp [pageEntry, vmmFlagPresent]
  rw [absent] at bit
  simp at bit

theorem pageEntry_page : pageMask (pageEntry phys flags) = pageMask phys := by
  have whole : pageMask phys / 2 ^ 12 = phys / 4096 := pageMask_div
  have offset : flags % 4096 / 2 ^ 12 = 0 := by omega
  have high : pageEntry phys flags / 4096 = phys / 4096 := by
    have shifted : pageEntry phys flags / 2 ^ 12 =
        pageMask phys / 2 ^ 12 ||| flags % 4096 / 2 ^ 12 ||| vmmFlagPresent / 2 ^ 12 := by
      simp only [pageEntry, ← Nat.shiftRight_eq_div_pow, Nat.shiftRight_or_distrib]
    rw [whole, offset] at shifted
    simpa [vmmFlagPresent] using shifted
  rw [pageMask_eq, high, ← pageMask_eq]

/-- The directory that an argument stands for: NULL is the current one. -/
def Vmm.resolve (vmm : Vmm) (dir : Nat) : Nat := if dir = 0 then vmm.currentDir else dir

/-- The state after the page table at `table` was entered in a slot of a directory. -/
def Vmm.enter (vmm : Vmm) (dir slot table : Nat) : Vmm :=
  let content := vmm.directories dir
  Vmm.setDirectory { vmm with pageTables := Function.update vmm.pageTables table fun _ => 0 } dir
    { content with
      entries := Function.update content.entries slot
        (table ||| vmmFlagPresent ||| vmmFlagWritable ||| vmmFlagUser)
      tables := Function.update content.tables slot table }

theorem getPageTable_read : getPageTable vmm dir virt false = (vmm.table dir (vmmDirIndex virt), vmm) := by
  by_cases present : vmm.table dir (vmmDirIndex virt) ≠ 0
  · simp only [getPageTable, if_pos present]
  · have none : vmm.table dir (vmmDirIndex virt) = 0 := not_not.mp present
    simp [getPageTable, none]

theorem getPageTable_present (present : vmm.table dir (vmmDirIndex virt) ≠ 0) :
    getPageTable vmm dir virt true = (vmm.table dir (vmmDirIndex virt), vmm) := by
  simp only [getPageTable, if_pos present]

theorem getPageTable_absent (absent : vmm.table dir (vmmDirIndex virt) = 0) :
    getPageTable vmm dir virt true =
      if vmm.allocFrame.1 = 0 then (0, vmm.allocFrame.2)
      else (pmmFrameToAddr vmm.allocFrame.1,
        vmm.allocFrame.2.enter dir (vmmDirIndex virt) (pmmFrameToAddr vmm.allocFrame.1)) := by
  simp only [getPageTable, absent, ne_eq, not_true_eq_false, if_false, Bool.not_true, Bool.false_eq_true]
  rfl

@[simp] theorem enter_table_same : (vmm.enter dir slot table).table dir slot = table := by
  simp [Vmm.enter, Vmm.table, Vmm.setDirectory]

theorem enter_table_slot {other : Nat} (different : other ≠ slot) :
    (vmm.enter dir slot table).table dir other = vmm.table dir other := by
  simp [Vmm.enter, Vmm.table, Vmm.setDirectory, different]

theorem enter_table_dir {other slot' : Nat} (different : other ≠ dir) :
    (vmm.enter dir slot table).table other slot' = vmm.table other slot' := by
  simp [Vmm.enter, Vmm.table, Vmm.setDirectory, different]

/-- Every table pointer after a new one was entered. -/
theorem enter_table {other slot' : Nat} : (vmm.enter dir slot table).table other slot' =
    if other = dir ∧ slot' = slot then table else vmm.table other slot' := by
  by_cases isDir : other = dir
  · subst isDir
    by_cases isSlot : slot' = slot
    · subst isSlot
      simp
    · rw [enter_table_slot isSlot, if_neg fun both => isSlot both.2]
  · rw [enter_table_dir isDir, if_neg fun both => isDir both.1]

theorem allocFrame_table {other : Nat} : vmm.allocFrame.2.table dir other = vmm.table dir other := rfl

/-- Setting a page table entry and counting it. -/
def Vmm.mapEntry (vmm : Vmm) (table virt entry : Nat) : Vmm :=
  let vmm := vmm.setEntry table (vmmTableIndex virt) entry
  let stats := { vmm.stats with totalPages := add32 vmm.stats.totalPages 1 }
  { vmm with
    stats :=
      if pageMask virt ≥ kernelSpaceStart then { stats with kernelPages := add32 stats.kernelPages 1 }
      else { stats with userPages := add32 stats.userPages 1 } }

theorem vmmMapPage_eq (nonNull : vmm.resolve dir ≠ 0) :
    vmmMapPage vmm dir virt phys flags =
      if (getPageTable vmm (vmm.resolve dir) virt true).1 = 0 then
        (-1, (getPageTable vmm (vmm.resolve dir) virt true).2)
      else (0, (getPageTable vmm (vmm.resolve dir) virt true).2.mapEntry
        (getPageTable vmm (vmm.resolve dir) virt true).1 virt (pageEntry phys flags)) := by
  have masked : getPageTable vmm (vmm.resolve dir) (pageMask virt) true =
      getPageTable vmm (vmm.resolve dir) virt true := by
    simp only [getPageTable, vmmDirIndex_pageMask]
  have resolved : (if dir = 0 then vmm.currentDir else dir) = vmm.resolve dir := rfl
  obtain ⟨⟨table, next⟩, found⟩ : ∃ found, getPageTable vmm (vmm.resolve dir) virt true = found := ⟨_, rfl⟩
  rw [found] at masked
  simp only [vmmMapPage, resolved, if_neg nonNull, masked, found, vmmTableIndex_pageMask]
  rfl

def VmmStats.unmapped (stats : VmmStats) : VmmStats :=
  { stats with totalPages := sub32 stats.totalPages 1 }

/-- Clearing a page table entry and counting it. -/
def Vmm.unmapEntry (vmm : Vmm) (table virt : Nat) : Vmm :=
  { vmm.setEntry table (vmmTableIndex virt) 0 with stats := vmm.stats.unmapped }

theorem vmmUnmapPage_eq (nonNull : vmm.resolve dir ≠ 0) :
    vmmUnmapPage vmm dir virt =
      if vmm.table (vmm.resolve dir) (vmmDirIndex virt) = 0 then vmm
      else vmm.unmapEntry (vmm.table (vmm.resolve dir) (vmmDirIndex virt)) virt := by
  have resolved : (if dir = 0 then vmm.currentDir else dir) = vmm.resolve dir := rfl
  simp only [vmmUnmapPage, resolved, if_neg nonNull, getPageTable_read, vmmDirIndex_pageMask,
    vmmTableIndex_pageMask]
  rfl

/-- The page that a page table entry refers to, if it is present. -/
def entryPage (entry : Nat) : Option Nat :=
  if entry &&& vmmFlagPresent = 0 then none else some (pageMask entry)

/-- Apart from the counter, clearing an entry only changes the entry. -/
theorem unmapEntry_eq (vmm : Vmm) (table virt : Nat) :
    ∃ stats, vmm.unmapEntry table virt = { vmm.setEntry table (vmmTableIndex virt) 0 with stats } :=
  ⟨_, rfl⟩

theorem unmapEntry_table {other slot' : Nat} :
    (vmm.unmapEntry table virt).table other slot' = vmm.table other slot' := by
  simp only [Vmm.table, Vmm.unmapEntry, Vmm.setEntry]

theorem mapEntry_table {other slot' entry : Nat} :
    (vmm.mapEntry table virt entry).table other slot' = vmm.table other slot' := by
  simp only [Vmm.table, Vmm.mapEntry, Vmm.setEntry]

theorem vmmGetPhysical_eq (nonNull : vmm.resolve dir ≠ 0) :
    vmmGetPhysical vmm dir virt =
      if vmm.table (vmm.resolve dir) (vmmDirIndex virt) = 0 then none
      else entryPage (vmm.pageTables (vmm.table (vmm.resolve dir) (vmmDirIndex virt)) (vmmTableIndex virt)) := by
  have resolved : (if dir = 0 then vmm.currentDir else dir) = vmm.resolve dir := rfl
  simp only [vmmGetPhysical, resolved, if_neg nonNull, getPageTable_read, vmmDirIndex_pageMask,
    vmmTableIndex_pageMask]
  rfl

theorem resolve_self (nonNull : dir ≠ 0) : vmm.resolve dir = dir := if_neg nonNull

/-- The entry of the identity mapping for a page. -/
def identityEntry (index : Nat) : Nat := pageEntry (4096 * index) (vmmFlagPresent ||| vmmFlagWritable)

theorem mapEntry_pageTables {entry : Nat} : (vmm.mapEntry table virt entry).pageTables =
    Function.update vmm.pageTables table
      (Function.update (vmm.pageTables table) (vmmTableIndex virt) entry) := rfl

theorem vmmMapPage_present (nonNull : vmm.resolve dir ≠ 0)
    (present : vmm.table (vmm.resolve dir) (vmmDirIndex virt) ≠ 0) :
    vmmMapPage vmm dir virt phys flags =
      (0, vmm.mapEntry (vmm.table (vmm.resolve dir) (vmmDirIndex virt)) virt (pageEntry phys flags)) := by
  rw [vmmMapPage_eq nonNull, getPageTable_present present, if_neg present]

/-- Mapping a page whose page table has to be allocated first. -/
theorem vmmMapPage_absent (nonNull : vmm.resolve dir ≠ 0)
    (absent : vmm.table (vmm.resolve dir) (vmmDirIndex virt) = 0)
    (isFrame : vmm.allocFrame.1 = frame) (granted : frame ≠ 0) (address : pmmFrameToAddr frame ≠ 0) :
    vmmMapPage vmm dir virt phys flags =
      (0, (vmm.allocFrame.2.enter (vmm.resolve dir) (vmmDirIndex virt) (pmmFrameToAddr frame)).mapEntry
        (pmmFrameToAddr frame) virt (pageEntry phys flags)) := by
  subst isFrame
  rw [vmmMapPage_eq nonNull, getPageTable_absent absent, if_neg granted, if_neg address]

theorem vmmMapPage_entered {next : Vmm} (nonNull : vmm.resolve dir ≠ 0)
    (absent : vmm.table (vmm.resolve dir) (vmmDirIndex virt) = 0)
    (granted : vmm.allocFrame = (frame, next)) (nonzero : frame ≠ 0)
    (address : pmmFrameToAddr frame = table) (isTable : table ≠ 0) :
    vmmMapPage vmm dir virt phys flags =
      (0, (next.enter (vmm.resolve dir) (vmmDirIndex virt) table).mapEntry table virt
        (pageEntry phys flags)) := by
  subst address
  rw [vmmMapPage_absent nonNull absent (congrArg Prod.fst granted) nonzero isTable, granted]

theorem vmmMapPage_exhausted (nonNull : vmm.resolve dir ≠ 0)
    (absent : vmm.table (vmm.resolve dir) (vmmDirIndex virt) = 0)
    (exhausted : vmm.allocFrame = (0, vmm)) : vmmMapPage vmm dir virt phys flags = (-1, vmm) := by
  rw [vmmMapPage_eq nonNull, getPageTable_absent absent, exhausted, if_pos rfl, if_pos rfl]

/-- What mapping a page can do. -/
inductive Mapping (vmm : Vmm) (dir virt phys flags : Nat) : Int × Vmm → Prop where
  | present : vmm.table dir (vmmDirIndex virt) ≠ 0 →
      Mapping vmm dir virt phys flags
        (0, vmm.mapEntry (vmm.table dir (vmmDirIndex virt)) virt (pageEntry phys flags))
  | refused : vmm.table dir (vmmDirIndex virt) = 0 → vmm.allocFrame.1 = 0 →
      Mapping vmm dir virt phys flags (-1, vmm.allocFrame.2)
  | wrapped : vmm.table dir (vmmDirIndex virt) = 0 → vmm.allocFrame.1 ≠ 0 →
      pmmFrameToAddr vmm.allocFrame.1 = 0 →
      Mapping vmm dir virt phys flags (-1, vmm.allocFrame.2.enter dir (vmmDirIndex virt) 0)
  | entered (frame : Nat) : vmm.table dir (vmmDirIndex virt) = 0 → vmm.allocFrame.1 = frame →
      frame ≠ 0 → pmmFrameToAddr frame ≠ 0 →
      Mapping vmm dir virt phys flags
        (0, (vmm.allocFrame.2.enter dir (vmmDirIndex virt) (pmmFrameToAddr frame)).mapEntry
          (pmmFrameToAddr frame) virt (pageEntry phys flags))

theorem vmmMapPage_mapping (nonNull : vmm.resolve dir ≠ 0) (virt phys flags : Nat) :
    Mapping vmm (vmm.resolve dir) virt phys flags (vmmMapPage vmm dir virt phys flags) := by
  by_cases present : vmm.table (vmm.resolve dir) (vmmDirIndex virt) ≠ 0
  · rw [vmmMapPage_present nonNull present]
    exact .present present
  · have absent := not_not.mp present
    by_cases none : vmm.allocFrame.1 = 0
    · rw [vmmMapPage_eq nonNull, getPageTable_absent absent, if_pos none, if_pos rfl]
      exact .refused absent none
    · by_cases zero : pmmFrameToAddr vmm.allocFrame.1 = 0
      · rw [vmmMapPage_eq nonNull, getPageTable_absent absent, if_neg none, if_pos zero, zero]
        exact .wrapped absent none zero
      · rw [vmmMapPage_absent nonNull absent rfl none zero]
        exact .entered _ absent rfl none zero

theorem vmmMapPage_refused (nonNull : vmm.resolve dir ≠ 0)
    (absent : vmm.table (vmm.resolve dir) (vmmDirIndex virt) = 0)
    (refused : vmm.allocFrame.1 = 0 ∨ pmmFrameToAddr vmm.allocFrame.1 = 0) :
    (vmmMapPage vmm dir virt phys flags).1 = -1 := by
  rw [vmmMapPage_eq nonNull, getPageTable_absent absent]
  by_cases none : vmm.allocFrame.1 = 0
  · rw [if_pos none, if_pos rfl]
  · rw [if_neg none, if_pos (refused.resolve_left none)]

/-- The loop maps every page of its range to itself. -/
theorem identityMap_eq (kernel : vmm.kernelDir ≠ 0) (isTable : vmm.table vmm.kernelDir 0 = table)
    (present : table ≠ 0) (inside : index + count ≤ 1024) :
    ∃ stats, identityMap vmm (4096 * index) count = (true, { vmm with
      stats
      pageTables := Function.update vmm.pageTables table fun other =>
        if index ≤ other ∧ other < index + count then identityEntry other
        else vmm.pageTables table other }) := by
  induction count generalizing vmm index with
  | zero =>
      refine ⟨vmm.stats, ?_⟩
      have same : Function.update vmm.pageTables table (fun other =>
          if index ≤ other ∧ other < index + 0 then identityEntry other
          else vmm.pageTables table other) = vmm.pageTables := by
        refine Function.update_eq_self_iff.mpr (funext fun other => if_neg ?_)
        omega
      rw [same]
      rfl
  | succ count ih =>
      have slot : vmmDirIndex (4096 * index) = 0 := by
        unfold vmmDirIndex
        omega
      have place : vmmTableIndex (4096 * index) = index := by
        unfold vmmTableIndex
        omega
      have resolved : vmm.resolve vmm.kernelDir = vmm.kernelDir := resolve_self kernel
      have mapped : vmmMapPage vmm vmm.kernelDir (4096 * index) (4096 * index)
          (vmmFlagPresent ||| vmmFlagWritable) =
            (0, vmm.mapEntry table (4096 * index) (identityEntry index)) := by
        rw [vmmMapPage_present (by rwa [resolved]) (by rwa [resolved, slot, isTable]), resolved, slot, isTable]
        rfl
      have next : 4096 * index + vmmPageSize = 4096 * (index + 1) := by
        unfold vmmPageSize
        omega
      have keeps : (vmm.mapEntry table (4096 * index) (identityEntry index)).kernelDir ≠ 0 := kernel
      obtain ⟨stats, rest⟩ := ih keeps isTable (by omega : index + 1 + count ≤ 1024)
      refine ⟨stats, ?_⟩
      rw [identityMap, mapped, next]
      refine rest.trans ?_
      have filled : (fun other => if index + 1 ≤ other ∧ other < index + 1 + count then identityEntry other
          else (vmm.mapEntry table (4096 * index) (identityEntry index)).pageTables table other) =
            fun other => if index ≤ other ∧ other < index + (count + 1) then identityEntry other
              else vmm.pageTables table other := by
        funext other
        rw [mapEntry_pageTables, Function.update_self, place]
        by_cases first : other = index
        · subst first
          simp
        · rw [Function.update_of_ne first]
          refine if_congr ?_ rfl rfl
          omega
      rw [filled, mapEntry_pageTables, Function.update_idem]
      rfl

/-- The state after initialization with the kernel directory at `block` and its only
page table in `frame`. -/
def bootedVmm (vmm : Vmm) (block frame : Nat) : Vmm :=
  { vmm with
    kernelDir := block
    currentDir := block
    stats := { totalPages := 1024, kernelPages := 1024, userPages := 0, vmaCount := 0 }
    initialized := true
    directories := Function.update vmm.directories block
      { clearedDirectory with
        entries := Function.update clearedDirectory.entries 0
          (pmmFrameToAddr frame ||| vmmFlagPresent ||| vmmFlagWritable ||| vmmFlagUser)
        tables := Function.update clearedDirectory.tables 0 (pmmFrameToAddr frame) }
    pageTables := Function.update vmm.pageTables (pmmFrameToAddr frame) fun index =>
      if index < 1024 then identityEntry index else 0
    pmm := vmm.allocFrame.2.pmm
    taken := insert frame vmm.taken }

/-- The state in which the identity mapping starts. -/
def clearedKernel (vmm : Vmm) (block : Nat) : Vmm :=
  Vmm.setDirectory { vmm with kernelDir := block } block clearedDirectory

theorem clearedKernel_table {block : Nat} : (clearedKernel vmm block).table block slot = 0 := by
  simp [clearedKernel, Vmm.table, Vmm.setDirectory, clearedDirectory]

theorem vmmInit_unfold (fresh : vmm.initialized = false) {block : Nat} (nonNull : block ≠ 0) :
    vmmInit vmm block =
      match identityMap (clearedKernel vmm block) 0 1024 with
      | (false, vmm) => (-1, vmm)
      | (true, vmm) => (0, { vmm with
          currentDir := vmm.kernelDir
          stats := { totalPages := 1024, kernelPages := 1024, userPages := 0, vmaCount := 0 }
          initialized := true }) := by
  have pages : 0x400000 / vmmPageSize = 1024 := rfl
  have uninitialized : ¬ vmm.initialized = true := by simp [fresh]
  rw [vmmInit, if_neg uninitialized, pages]
  exact if_neg nonNull

theorem identityMap_first {block : Nat} : identityMap (clearedKernel vmm block) 0 1024 =
    match vmmMapPage (clearedKernel vmm block) block 0 0 (vmmFlagPresent ||| vmmFlagWritable) with
    | (0, vmm) => identityMap vmm (0 + vmmPageSize) 1023
    | (_, vmm) => (false, vmm) := rfl

/-- Initialization takes one frame for the page table of the first slot. -/
theorem vmmInit_boots (fresh : vmm.initialized = false) {block : Nat} (nonNull : block ≠ 0)
    (isFrame : vmm.allocFrame.1 = frame) (granted : frame ≠ 0) (address : pmmFrameToAddr frame ≠ 0) :
    vmmInit vmm block = (0, bootedVmm vmm block frame) := by
  have resolved : (clearedKernel vmm block).resolve block = block := resolve_self nonNull
  have taken : (clearedKernel vmm block).allocFrame.1 = frame := isFrame
  have first : vmmMapPage (clearedKernel vmm block) block 0 0 (vmmFlagPresent ||| vmmFlagWritable) =
      (0, ((clearedKernel vmm block).allocFrame.2.enter block 0 (pmmFrameToAddr frame)).mapEntry
        (pmmFrameToAddr frame) 0 (identityEntry 0)) := by
    have absent : (clearedKernel vmm block).table ((clearedKernel vmm block).resolve block)
        (vmmDirIndex 0) = 0 := by
      rw [resolved]
      exact clearedKernel_table
    rw [vmmMapPage_absent (by rwa [resolved]) absent taken granted address, resolved]
    rfl
  generalize isStart : ((clearedKernel vmm block).allocFrame.2.enter block 0 (pmmFrameToAddr frame)).mapEntry
    (pmmFrameToAddr frame) 0 (identityEntry 0) = start at first
  have kernel : start.kernelDir = block := by
    rw [← isStart]
    rfl
  have isTable : start.table start.kernelDir 0 = pmmFrameToAddr frame := by
    rw [kernel, ← isStart]
    exact enter_table_same
  obtain ⟨stats, rest⟩ := identityMap_eq (by rwa [kernel]) isTable address (by decide : 1 + 1023 ≤ 1024)
  have whole : identityMap (clearedKernel vmm block) 0 1024 = identityMap start (4096 * 1) 1023 := by
    rw [identityMap_first, first]
    rfl
  have opened : start.pageTables = Function.update vmm.pageTables (pmmFrameToAddr frame)
      (Function.update (fun _ => 0) 0 (identityEntry 0)) := by
    rw [← isStart, mapEntry_pageTables]
    have entered : ((clearedKernel vmm block).allocFrame.2.enter block 0 (pmmFrameToAddr frame)).pageTables =
        Function.update vmm.pageTables (pmmFrameToAddr frame) fun _ => 0 := rfl
    rw [entered, Function.update_self, Function.update_idem]
    rfl
  have filled : Function.update start.pageTables (pmmFrameToAddr frame) (fun other =>
      if 1 ≤ other ∧ other < 1 + 1023 then identityEntry other
      else start.pageTables (pmmFrameToAddr frame) other) =
        (bootedVmm vmm block frame).pageTables := by
    rw [opened, Function.update_idem, Function.update_self]
    refine congrArg (Function.update vmm.pageTables (pmmFrameToAddr frame)) (funext fun other => ?_)
    by_cases isFirst : other = 0
    · subst isFirst
      rfl
    · rw [Function.update_of_ne isFirst]
      refine if_congr ?_ rfl rfl
      omega
  have entered : start.directories = (bootedVmm vmm block frame).directories := by
    rw [← isStart]
    change Function.update (Function.update vmm.directories block clearedDirectory) block _ = _
    rw [Function.update_idem]
    change Function.update vmm.directories block
      { (Function.update vmm.directories block clearedDirectory block) with
        entries := Function.update (Function.update vmm.directories block clearedDirectory block).entries _ _
        tables := Function.update (Function.update vmm.directories block clearedDirectory block).tables _ _ } = _
    rw [Function.update_self]
    rfl
  have took : start.taken = insert frame vmm.taken := by
    rw [← isStart]
    change (if vmm.allocFrame.1 = 0 then vmm.taken else insert vmm.allocFrame.1 vmm.taken) = _
    rw [isFrame, if_neg granted]
  have allocated : start.pmm = vmm.allocFrame.2.pmm := by
    rw [← isStart]
    rfl
  rw [vmmInit_unfold fresh nonNull, whole, rest, filled]
  refine congrArg (Prod.mk 0) (Vmm.mk.injEq .. ▸ ?_)
  exact ⟨kernel, kernel, rfl, rfl, entered, rfl, allocated, by rw [← isStart]; rfl, took⟩

/-- Initialization succeeds in no other way. -/
theorem vmmInit_eq {block : Nat} {booted : Vmm} (fresh : vmm.initialized = false)
    (done : vmmInit vmm block = (0, booted)) :
    ∃ frame, block ≠ 0 ∧ vmm.allocFrame.1 = frame ∧ frame ≠ 0 ∧ pmmFrameToAddr frame ≠ 0 ∧
      booted = bootedVmm vmm block frame := by
  have uninitialized : ¬ vmm.initialized = true := by simp [fresh]
  by_cases null : block = 0
  · rw [vmmInit, if_neg uninitialized] at done
    simp [null] at done
  · by_cases refused : vmm.allocFrame.1 = 0 ∨ pmmFrameToAddr vmm.allocFrame.1 = 0
    · have resolved : (clearedKernel vmm block).resolve block = block := resolve_self null
      have absent : (clearedKernel vmm block).table ((clearedKernel vmm block).resolve block)
          (vmmDirIndex 0) = 0 := by
        rw [resolved]
        exact clearedKernel_table
      have failed : (vmmMapPage (clearedKernel vmm block) block 0 0
          (vmmFlagPresent ||| vmmFlagWritable)).1 = -1 :=
        vmmMapPage_refused (by rwa [resolved]) absent refused
      have stopped : (identityMap (clearedKernel vmm block) 0 1024).1 = false := by
        obtain ⟨⟨result, next⟩, mapped⟩ : ∃ outcome, vmmMapPage (clearedKernel vmm block) block 0 0
            (vmmFlagPresent ||| vmmFlagWritable) = outcome := ⟨_, rfl⟩
        rw [mapped] at failed
        cases failed
        rw [identityMap_first, mapped]
        rfl
      obtain ⟨⟨finished, next⟩, mapped⟩ : ∃ outcome,
          identityMap (clearedKernel vmm block) 0 1024 = outcome := ⟨_, rfl⟩
      rw [mapped] at stopped
      cases stopped
      rw [vmmInit_unfold fresh null, mapped] at done
      cases (Prod.mk.inj done).1
    · obtain ⟨granted, address⟩ := not_or.mp refused
      rw [vmmInit_boots fresh null rfl granted address] at done
      exact ⟨_, null, rfl, granted, address, (Prod.mk.inj done).2.symm⟩

/-- The state before initialization. -/
def blankVmm (pmm : Pmm) : Vmm where
  kernelDir := 0
  currentDir := 0
  stats := { totalPages := 0, userPages := 0, kernelPages := 0, vmaCount := 0 }
  initialized := false
  directories := fun _ => { clearedDirectory with refCount := 0 }
  pageTables := fun _ _ => 0
  pmm
  cr3 := 0
  taken := ∅

end AutismOS.VirtualMemory
