import AutismOS.Frames.Core
import Mathlib.Data.Finset.Basic

namespace AutismOS.VirtualMemory

open AutismOS.Library AutismOS.Frames

/-! The virtual memory manager of `kernel/core/vmm.c`.

Addresses and table entries are 32-bit values and NULL is 0.  Directories and page
tables are found under their addresses.  Where the source calls `kmalloc`, the
model takes its answer as the argument `block`; the frames that the frame allocator
hands out lie apart from these blocks and from the memory of the kernel, so that
clearing a new page table or giving out a page leaves every directory as it is.
The set `taken` records the frames that the manager obtained from the frame allocator
and did not give back; no function reads it.  Loops without a bound of their own take
fuel.
-/

def vmmPageSize : Nat := 4096

def kernelSpaceStart : Nat := 0xC0000000

def vmmFlagPresent : Nat := 1
def vmmFlagWritable : Nat := 2
def vmmFlagUser : Nat := 4

/-- `VMM_DIR_INDEX` -/
def vmmDirIndex (addr : Nat) : Nat := addr / 2 ^ 22 % 1024

/-- `VMM_TABLE_INDEX` -/
def vmmTableIndex (addr : Nat) : Nat := addr / 2 ^ 12 % 1024

/-- `value & VMM_PAGE_MASK` -/
def pageMask (value : Nat) : Nat := value - value % 4096

/-- `vma_t`, without the link to the next one. -/
structure Vma where
  start : Nat
  stop : Nat
  flags : Nat
  type : Nat
deriving DecidableEq

/-- `page_directory_t` -/
structure PageDirectory where
  entries : Nat → Nat
  tables : Nat → Nat
  vmaList : List Vma
  refCount : Nat

/-- `vmm_stats_t`, except for the flag that `vmm_get_stats` fills in. -/
structure VmmStats where
  totalPages : Nat
  userPages : Nat
  kernelPages : Nat
  vmaCount : Nat

/-- The global state `g_vmm`, the memory it works on, the frame allocator and CR3. -/
structure Vmm where
  kernelDir : Nat
  currentDir : Nat
  stats : VmmStats
  initialized : Bool
  directories : Nat → PageDirectory
  pageTables : Nat → Nat → Nat
  pmm : Pmm
  cr3 : Nat
  taken : Finset Nat

namespace Vmm

variable (vmm : Vmm)

/-- The page table of a slot of a directory, 0 for NULL. -/
def table (dir slot : Nat) : Nat := (vmm.directories dir).tables slot

def setDirectory (dir : Nat) (content : PageDirectory) : Vmm :=
  { vmm with directories := Function.update vmm.directories dir content }

def setEntry (table index value : Nat) : Vmm :=
  { vmm with pageTables := Function.update vmm.pageTables table (Function.update (vmm.pageTables table) index value) }

/-- `pmm_alloc_frame` -/
def allocFrame : Nat × Vmm :=
  let (frame, pmm) := pmmAllocFrame vmm.pmm
  (frame, { vmm with pmm, taken := if frame = 0 then vmm.taken else insert frame vmm.taken })

/-- `pmm_free_frame` -/
def freeFrame (frame : Nat) : Vmm :=
  { vmm with pmm := pmmFreeFrame vmm.pmm frame, taken := vmm.taken.erase frame }

end Vmm

/-- Returns the page table, or NULL, with the new state. -/
def getPageTable (vmm : Vmm) (dir virt : Nat) (create : Bool) : Nat × Vmm :=
  let dirIndex := vmmDirIndex virt
  if vmm.table dir dirIndex ≠ 0 then (vmm.table dir dirIndex, vmm)
  else if !create then (0, vmm)
  else
    let (physFrame, vmm) := vmm.allocFrame
    if physFrame = 0 then (0, vmm)
    else
      let table := pmmFrameToAddr physFrame
      let vmm := { vmm with pageTables := Function.update vmm.pageTables table fun _ => 0 }
      let content := vmm.directories dir
      (table, vmm.setDirectory dir { content with
        entries := Function.update content.entries dirIndex
          (table ||| vmmFlagPresent ||| vmmFlagWritable ||| vmmFlagUser)
        tables := Function.update content.tables dirIndex table })

/-- Returns 0 or -1 with the new state. -/
def vmmMapPage (vmm : Vmm) (dir virt phys flags : Nat) : Int × Vmm :=
  let dir := if dir = 0 then vmm.currentDir else dir
  if dir = 0 then (-1, vmm)
  else
    let virt := pageMask virt
    let phys := pageMask phys
    let (table, vmm) := getPageTable vmm dir virt true
    if table = 0 then (-1, vmm)
    else
      let vmm := vmm.setEntry table (vmmTableIndex virt) (phys ||| flags % 4096 ||| vmmFlagPresent)
      let stats := { vmm.stats with totalPages := add32 vmm.stats.totalPages 1 }
      let stats :=
        if virt ≥ kernelSpaceStart then { stats with kernelPages := add32 stats.kernelPages 1 }
        else { stats with userPages := add32 stats.userPages 1 }
      (0, { vmm with stats })

def vmmUnmapPage (vmm : Vmm) (dir virt : Nat) : Vmm :=
  let dir := if dir = 0 then vmm.currentDir else dir
  if dir = 0 then vmm
  else
    let virt := pageMask virt
    let (table, vmm) := getPageTable vmm dir virt false
    if table = 0 then vmm
    else
      let vmm := vmm.setEntry table (vmmTableIndex virt) 0
      { vmm with stats := { vmm.stats with totalPages := sub32 vmm.stats.totalPages 1 } }

/-- The physical page, or `none` when the address is not mapped. -/
def vmmGetPhysical (vmm : Vmm) (dir virt : Nat) : Option Nat :=
  let dir := if dir = 0 then vmm.currentDir else dir
  if dir = 0 then none
  else
    let virt := pageMask virt
    let (table, vmm) := getPageTable vmm dir virt false
    if table = 0 then none
    else
      let entry := vmm.pageTables table (vmmTableIndex virt)
      if entry &&& vmmFlagPresent = 0 then none else some (pageMask entry)

/-- The loop of `vmm_init` over `count` pages from `addr` on: whether all were mapped. -/
def identityMap (vmm : Vmm) (addr : Nat) : Nat → Bool × Vmm
  | 0 => (true, vmm)
  | count + 1 =>
      match vmmMapPage vmm vmm.kernelDir addr addr (vmmFlagPresent ||| vmmFlagWritable) with
      | (0, vmm) => identityMap vmm (addr + vmmPageSize) count
      | (_, vmm) => (false, vmm)

/-- A directory after `memset`, with one reference. -/
def clearedDirectory : PageDirectory where
  entries := fun _ => 0
  tables := fun _ => 0
  vmaList := []
  refCount := 1

/-- Returns 0 or -1 with the new state. -/
def vmmInit (vmm : Vmm) (block : Nat) : Int × Vmm :=
  if vmm.initialized then (0, vmm)
  else
    let vmm := { vmm with kernelDir := block }
    if vmm.kernelDir = 0 then (-1, vmm)
    else
      let vmm := vmm.setDirectory vmm.kernelDir clearedDirectory
      match identityMap vmm 0 (0x400000 / vmmPageSize) with
      | (false, vmm) => (-1, vmm)
      | (true, vmm) =>
          (0, { vmm with
            currentDir := vmm.kernelDir
            stats := { totalPages := 1024, kernelPages := 1024, userPages := 0, vmaCount := 0 }
            initialized := true })

/-- Returns the new directory, or NULL, with the new state. -/
def vmmCreateDirectory (vmm : Vmm) (block : Nat) : Nat × Vmm :=
  if block = 0 then (0, vmm)
  else
    let kernel := vmm.directories vmm.kernelDir
    let content :=
      if vmm.kernelDir ≠ 0 then
        { clearedDirectory with
          entries := fun slot => if 768 ≤ slot ∧ slot < 1024 then kernel.entries slot else 0
          tables := fun slot => if 768 ≤ slot ∧ slot < 1024 then kernel.tables slot else 0 }
      else clearedDirectory
    (block, vmm.setDirectory block content)

/-- The loop of `vmm_destroy_directory` over `count` slots from `slot` on. -/
def freeTables (vmm : Vmm) (dir slot : Nat) : Nat → Vmm
  | 0 => vmm
  | count + 1 =>
      let vmm :=
        if vmm.table dir slot ≠ 0 then vmm.freeFrame (pmmAddrToFrame (vmm.table dir slot)) else vmm
      freeTables vmm dir (slot + 1) count

/-- The memory of the directory and its areas goes back to the kernel heap. -/
def vmmDestroyDirectory (vmm : Vmm) (dir : Nat) : Vmm :=
  if dir = 0 ∨ dir = vmm.kernelDir then vmm else freeTables vmm dir 0 768

def vmmSwitchDirectory (vmm : Vmm) (dir : Nat) : Vmm :=
  if dir = 0 then vmm
  else
    let vmm := { vmm with currentDir := dir }
    match vmmGetPhysical vmm vmm.kernelDir dir with
    | none => vmm
    | some phys => { vmm with cr3 := phys }

/-- Returns 0 or -1 with the new state. -/
def vmmAllocPage (vmm : Vmm) (dir virt flags : Nat) : Int × Vmm :=
  let (frame, vmm) := vmm.allocFrame
  if frame = 0 then (-1, vmm)
  else
    let phys := pmmFrameToAddr frame
    match vmmMapPage vmm dir virt phys flags with
    | (0, vmm) => (0, vmm)
    | (_, vmm) => (-1, vmm.freeFrame frame)

/-- The rollback of `vmm_alloc_pages`: `count` pages from `virt` on are unmapped. -/
def unmapPages (vmm : Vmm) (dir virt : Nat) : Nat → Vmm
  | 0 => vmm
  | count + 1 => unmapPages (vmmUnmapPage vmm dir virt) dir (add32 virt vmmPageSize) count

/-- The loop of `vmm_alloc_pages`, with `first` and the number of pages already mapped. -/
def allocPagesFrom (vmm : Vmm) (dir first flags virt mapped : Nat) : Nat → Int × Vmm
  | 0 => (0, vmm)
  | count + 1 =>
      match vmmAllocPage vmm dir virt flags with
      | (0, vmm) => allocPagesFrom vmm dir first flags (add32 virt vmmPageSize) (mapped + 1) count
      | (_, vmm) => (-1, unmapPages vmm dir first mapped)  -- Rollback

/-- Returns 0 or -1 with the new state. -/
def vmmAllocPages (vmm : Vmm) (dir virt count flags : Nat) : Int × Vmm :=
  allocPagesFrom vmm dir virt flags virt 0 count

def vmmFreePages (vmm : Vmm) (dir virt : Nat) : Nat → Vmm
  | 0 => vmm
  | count + 1 =>
      let freed :=
        match vmmGetPhysical vmm dir virt with
        | some phys => vmm.freeFrame (pmmAddrToFrame phys)
        | none => vmm
      vmmFreePages (vmmUnmapPage freed dir virt) dir (add32 virt vmmPageSize) count

/-- The area goes to the end of the directory's list; returns it, or NULL, with the new state. -/
def vmmCreateVma (vmm : Vmm) (dir start size flags type block : Nat) : Nat × Vmm :=
  if dir = 0 then (0, vmm)
  else
    let start := pageMask (add32 start (vmmPageSize - 1))
    let size := pageMask (add32 size (vmmPageSize - 1))
    if block = 0 then (0, vmm)
    else
      let vma := { start, stop := add32 start size, flags, type }
      let content := vmm.directories dir
      let vmm := vmm.setDirectory dir { content with vmaList := content.vmaList ++ [vma] }
      (block, { vmm with stats := { vmm.stats with vmaCount := add32 vmm.stats.vmaCount 1 } })

def vmmIsMapped (vmm : Vmm) (dir virt : Nat) : Bool := (vmmGetPhysical vmm dir virt).isSome

/-- A loop of `vmm_find_free_region` over the pages from `check` on and below `stop`: the first
mapped one, if there is one. -/
def firstMapped (vmm : Vmm) (dir stop : Nat) : Nat → Nat → Option (Option Nat)
  | 0, _ => none
  | fuel + 1, check =>
      if check < stop then
        if vmmIsMapped vmm dir check then some (some check)
        else firstMapped vmm dir stop fuel (add32 check vmmPageSize)
      else some none

/-- The scan for a free region of `size` bytes from `addr` on. -/
def scanRegions (vmm : Vmm) (dir size : Nat) : Nat → Nat → Option Nat
  | 0, _ => none
  | fuel + 1, addr =>
      if addr < sub32 kernelSpaceStart size then
        match firstMapped vmm dir (add32 addr size) (2 ^ 32) addr with
        | none => none
        | some none => some addr
        | some (some check) => scanRegions vmm dir size fuel (add32 check vmmPageSize)  -- Skip to after this mapped page
      else some 0  -- No free region found

/-- Returns the address of the region, or 0. -/
def vmmFindFreeRegion (vmm : Vmm) (dir size hint : Nat) : Option Nat :=
  if dir = 0 then some 0
  else
    let size := pageMask (add32 size (vmmPageSize - 1))
    let start := if hint ≠ 0 then hint else 0x100000
    if hint ≠ 0 then
      match firstMapped vmm dir (add32 hint size) (2 ^ 32) hint with
      | none => none
      | some none => some hint
      | some (some _) => scanRegions vmm dir size (2 ^ 32) start
    else scanRegions vmm dir size (2 ^ 32) start

end AutismOS.VirtualMemory
