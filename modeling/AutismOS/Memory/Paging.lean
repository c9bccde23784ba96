import Mathlib.Algebra.Group.Nat.Defs
import Mathlib.Logic.Function.Basic

namespace AutismOS.Memory

/-! The page directories of `kernel/core/memory.c`.

Addresses and entries are 32-bit values and NULL is 0.  Directories and page
tables are found under their addresses.  Where the source calls `kmalloc`, the
model takes its answer as the argument `block`.  A function that may panic answers
`none` when it does.
-/

def pageSize : Nat := 4096

def pageTableSize : Nat := 1024

def pagePresent : Nat := 1
def pageWrite : Nat := 2
def pageUser : Nat := 4

/-- `value & 0xFFFFF000` -/
def maskAddress (value : Nat) : Nat := value - value % 4096

/-- `struct page_directory` -/
structure PageDirectory where
  entries : Nat → Nat
  tables : Nat → Nat

/-- Where the linker placed the two page-aligned static objects of the module. -/
structure Statics where
  kernelPageDirectory : Nat
  firstPageTable : Nat
  directoryAligned : kernelPageDirectory % 4096 = 0
  directoryNonNull : kernelPageDirectory ≠ 0
  tableAligned : firstPageTable % 4096 = 0
  tableNonNull : firstPageTable ≠ 0

structure Paging where
  directories : Nat → PageDirectory
  pageTables : Nat → Nat → Nat
  initialized : Bool
  cr3 : Nat

namespace Paging

variable (paging : Paging)

def setDirectory (dir : Nat) (content : PageDirectory) : Paging :=
  { paging with directories := Function.update paging.directories dir content }

def setEntry (table index value : Nat) : Paging :=
  { paging with pageTables :=
      Function.update paging.pageTables table (Function.update (paging.pageTables table) index value) }

end Paging

/-- A directory after `memset`. -/
def clearedDirectory : PageDirectory where
  entries := fun _ => 0
  tables := fun _ => 0

/-- The loop of `paging_init` over `count` pages from `index` on. -/
def mapIdentity (paging : Paging) (table index : Nat) : Nat → Paging
  | 0 => paging
  | count + 1 =>
      mapIdentity (paging.setEntry table index (index * pageSize ||| pagePresent ||| pageWrite)) table
        (index + 1) count

variable (statics : Statics)

def pagingInit (paging : Paging) : Paging :=
  let paging := paging.setDirectory statics.kernelPageDirectory clearedDirectory
  let paging := { paging with
    pageTables := Function.update paging.pageTables statics.firstPageTable fun _ => 0 }
  let paging := mapIdentity paging statics.firstPageTable 0 pageTableSize
  let kernel := paging.directories statics.kernelPageDirectory
  let paging := paging.setDirectory statics.kernelPageDirectory
    { entries := Function.update kernel.entries 0
        (statics.firstPageTable ||| pagePresent ||| pageWrite ||| pageUser)
      tables := Function.update kernel.tables 0 statics.firstPageTable }
  { paging with initialized := true }

def pagingEnable (paging : Paging) : Option Paging :=
  if !paging.initialized then none  -- Attempted to enable paging before initialization
  else some { paging with cr3 := statics.kernelPageDirectory }

def getKernelPageDirectory : Nat := statics.kernelPageDirectory

/-- The loop of `create_page_directory` over `count` slots from `slot` on. -/
def copyEntries (kernel dir : PageDirectory) (slot : Nat) : Nat → PageDirectory
  | 0 => dir
  | count + 1 =>
      let dir :=
        if kernel.entries slot ≠ 0 then
          { entries := Function.update dir.entries slot (kernel.entries slot)
            tables := Function.update dir.tables slot (maskAddress (kernel.entries slot)) }
        else dir
      copyEntries kernel dir (slot + 1) count

/-- Returns the new directory, or NULL, with the new state. -/
def createPageDirectory (paging : Paging) (block : Nat) : Nat × Paging :=
  if block = 0 then (0, paging)
  else
    let kernel := paging.directories statics.kernelPageDirectory
    (block, paging.setDirectory block (copyEntries kernel clearedDirectory 0 pageTableSize))

def switchPageDirectory (paging : Paging) (dir : Nat) : Option Paging :=
  if dir = 0 then none  -- Attempted to switch to NULL page directory
  else some { paging with cr3 := dir }

def mapPageInDirectory (paging : Paging) (block dir virtAddr physAddr flags : Nat) : Option Paging :=
  if dir = 0 then none  -- Attempted to map page in NULL directory
  else
    let dirIndex := virtAddr / (pageSize * pageTableSize)
    let tableIndex := virtAddr / pageSize % pageTableSize
    let content := paging.directories dir
    if content.tables dirIndex = 0 then
      if content.entries dirIndex ≠ 0 then none  -- Page directory inconsistent: entry set but table NULL
      else if block = 0 then none  -- Failed to allocate page table
      else
        let paging := { paging with pageTables := Function.update paging.pageTables block fun _ => 0 }
        let paging := paging.setDirectory dir
          { entries := Function.update content.entries dirIndex
              (block ||| pagePresent ||| pageWrite ||| pageUser)
            tables := Function.update content.tables dirIndex block }
        some (paging.setEntry block tableIndex (physAddr ||| flags))
    else some (paging.setEntry (content.tables dirIndex) tableIndex (physAddr ||| flags))

/-- The address that the processor computes with a directory in CR3, if there is one. -/
def translate (paging : Paging) (dir virt : Nat) : Option Nat :=
  let entry := (paging.directories dir).entries (virt / 2 ^ 22)
  if entry &&& pagePresent = 0 then none
  else
    let page := paging.pageTables (maskAddress entry) (virt / 2 ^ 12 % 1024)
    if page &&& pagePresent = 0 then none else some (maskAddress page + virt % 4096)

end AutismOS.Memory
