import AutismOS.Library.Bitmap
import AutismOS.Library.ByteMemory
import AutismOS.Memory.Paging

namespace AutismOS.Memory

open AutismOS.Library

/-! The page allocator of `kernel/core/memory.c` and the memory map it is started with.

The bitmap covers the first 4 MiB.  A page number past it addresses whatever the
linker placed behind the bitmap, so the bytes of `memoryBitmap` go on there.
-/

def memorySize : Nat := 0x400000

def bitmapSize : Nat := memorySize / pageSize / 8

def totalPages : Nat := memorySize / pageSize

def multibootMemoryAvailable : Nat := 1

/-- The fields of `multiboot_info_t` that are read. -/
structure MultibootInfo where
  flags : Nat
  mmapLength : Nat
  mmapAddr : Nat

/-- `multiboot_mmap_entry_t` -/
structure MmapEntry where
  size : Nat
  baseAddr : Nat
  length : Nat
  type : Nat
deriving DecidableEq

/-- The packed entry at an address. -/
def readEntry (memory : ByteMemory) (addr : Nat) : MmapEntry where
  size := memory.loadWord addr
  baseAddr := memory.loadWord (addr + 4) + 2 ^ 32 * memory.loadWord (addr + 8)
  length := memory.loadWord (addr + 12) + 2 ^ 32 * memory.loadWord (addr + 16)
  type := memory.loadWord (addr + 20)

/-- The static variables of the allocator. -/
structure Pages where
  memoryBitmap : Bitmap
  memoryEnd : Nat
  memoryInitialized : Bool

/-- The bounds of the kernel image, where `linker.ld` puts them. -/
structure KernelImage where
  sectionStart : Nat
  sectionEnd : Nat
  isStart : sectionStart = 0x100000
  aligned : sectionEnd % 4096 = 0
  ordered : sectionStart ≤ sectionEnd
  bounded : sectionEnd < 2 ^ 32

/-- What one entry does to the detected end of memory. -/
def entryEnd (memoryEnd : Nat) (entry : MmapEntry) : Nat :=
  if entry.type = multibootMemoryAvailable then
    let limit := (entry.baseAddr + entry.length) % 2 ^ 64
    if limit > memoryEnd ∧ limit < 0x100000000 then limit else memoryEnd
  else memoryEnd

/-- The loop over the map, for at most `fuel` entries. -/
def parseEntries (memory : ByteMemory) (mmap mmapEnd memoryEnd : Nat) : Nat → Option Nat
  | 0 => if mmap < mmapEnd then none else some memoryEnd
  | fuel + 1 =>
      if mmap < mmapEnd then
        let entry := readEntry memory mmap
        parseEntries memory ((mmap + entry.size + 4) % 2 ^ 32) mmapEnd (entryEnd memoryEnd entry) fuel
      else some memoryEnd

def multibootParseMemoryMap (memory : ByteMemory) (fuel : Nat) (mbi : MultibootInfo) (pages : Pages) :
    Option Pages :=
  if !mbi.flags.testBit 6 then some pages  -- Memory map not available from bootloader
  else
    let mmapEnd := (mbi.mmapAddr + mbi.mmapLength) % 2 ^ 32
    (parseEntries memory mbi.mmapAddr mmapEnd pages.memoryEnd fuel).map fun memoryEnd =>
      { pages with memoryEnd }

namespace Pages

variable (pages : Pages)

def isPageUsed (page : Nat) : Bool := pages.memoryBitmap.get page

def setPageUsed (page : Nat) : Pages := { pages with memoryBitmap := pages.memoryBitmap.set page }

def setPageFree (page : Nat) : Pages := { pages with memoryBitmap := pages.memoryBitmap.clear page }

/-- The loop of `no_free_pages` over `count` pages from `page` on. -/
def allUsed (page : Nat) : Nat → Bool
  | 0 => true
  | count + 1 => if !pages.isPageUsed page then false else allUsed (page + 1) count

def noFreePages : Bool := pages.allUsed 0 totalPages

/-- The loop of `get_free_page` over `count` pages from `page` on. -/
def takeFrom (page : Nat) : Nat → Nat × Pages
  | 0 => (0, pages)
  | count + 1 =>
      if !pages.isPageUsed page then (page * pageSize, pages.setPageUsed page)
      else takeFrom (page + 1) count

def getFreePage : Nat × Pages := pages.takeFrom 1 (totalPages - 1)

/-- Returns the address of a page, or NULL, with the new state. -/
def allocatePage : Nat × Pages := if pages.noFreePages then (0, pages) else pages.getFreePage

def freePage (ptr : Nat) : Pages := pages.setPageFree (ptr / pageSize)

/-- An edit of each of `count` pages from `page` on. -/
def markPages (mark : Pages → Nat → Pages) (pages : Pages) (page : Nat) : Nat → Pages
  | 0 => pages
  | count + 1 => markPages mark (mark pages page) (page + 1) count

end Pages

def memoryGetEnd (pages : Pages) : Nat := pages.memoryEnd

def memoryIsInitialized (pages : Pages) : Bool := pages.memoryInitialized

/-- The page at which the image ends, and the last that is marked. -/
def KernelImage.endPage (image : KernelImage) : Nat := (image.sectionEnd + pageSize - 1) % 2 ^ 32 / pageSize

def memoryInit (memory : ByteMemory) (image : KernelImage) (fuel : Nat) (mbi : MultibootInfo)
    (pages : Pages) : Option Pages :=
  let pages := { pages with memoryBitmap := pages.memoryBitmap.erase bitmapSize }
  let pages := pages.markPages Pages.setPageFree 0 totalPages
  (multibootParseMemoryMap memory fuel mbi pages).map fun pages =>
    { pages.markPages Pages.setPageUsed 0 (image.endPage + 1) with memoryInitialized := true }

variable {pages : Pages} {page other count : Nat}

@[simp] theorem Pages.setPageUsed_isPageUsed :
    (pages.setPageUsed page).isPageUsed other = (decide (other = page) || pages.isPageUsed other) :=
  Bitmap.get_set

@[simp] theorem Pages.setPageFree_isPageUsed :
    (pages.setPageFree page).isPageUsed other = (decide (other ≠ page) && pages.isPageUsed other) :=
  Bitmap.get_clear

theorem Pages.allUsed_iff :
    pages.allUsed page count = true ↔ ∀ other, page ≤ other → other < page + count → pages.isPageUsed other := by
  induction count generalizing page with
  | zero =>
      refine iff_of_true rfl fun other above below => ?_
      omega
  | succ count ih =>
      rw [allUsed]
      cases used : pages.isPageUsed page with
      | false =>
          refine iff_of_false (by simp) fun all => ?_
          have contrary := all page (Nat.le_refl _) (by omega)
          rw [used] at contrary
          cases contrary
      | true =>
          simp only [Bool.not_true, Bool.false_eq_true, if_false, ih]
          constructor
          · intro all other above below
            by_cases same : other = page
            · rw [same]
              exact used
            · exact all other (by omega) (by omega)
          · intro all other above below
            exact all other (by omega) (by omega)

/-- The search takes the first page of its range that is free. -/
theorem Pages.takeFrom_first (above : page ≤ other) (below : other < page + count)
    (free : pages.isPageUsed other = false)
    (first : ∀ earlier, page ≤ earlier → earlier < other → pages.isPageUsed earlier) :
    pages.takeFrom page count = (other * pageSize, pages.setPageUsed other) := by
  induction count generalizing page with
  | zero => omega
  | succ count ih =>
      rw [takeFrom]
      by_cases same : page = other
      · rw [same, free]
        rfl
      · rw [first page (Nat.le_refl _) (by omega)]
        exact ih (by omega) (by omega) fun earlier lower upper => first earlier (by omega) upper

theorem Pages.takeFrom_none (used : ∀ other, page ≤ other → other < page + count → pages.isPageUsed other) :
    pages.takeFrom page count = (0, pages) := by
  induction count generalizing page with
  | zero => rfl
  | succ count ih =>
      rw [takeFrom, used page (Nat.le_refl _) (by omega)]
      exact ih fun other above below => used other (by omega) (by omega)

theorem Pages.allocatePage_first (nonzero : 0 < page) (inside : page < totalPages)
    (free : pages.isPageUsed page = false)
    (first : ∀ earlier, 0 < earlier → earlier < page → pages.isPageUsed earlier) :
    pages.allocatePage = (page * pageSize, pages.setPageUsed page) := by
  have some_free : ¬ pages.noFreePages = true := by
    intro all
    have used := Pages.allUsed_iff.mp all page (Nat.zero_le _) (by omega)
    rw [free] at used
    cases used
  rw [allocatePage, if_neg some_free]
  exact Pages.takeFrom_first nonzero (by omega) free first

theorem Pages.allocatePage_none (used : ∀ page, 0 < page → page < totalPages → pages.isPageUsed page) :
    pages.allocatePage = (0, pages) := by
  have taken : pages.getFreePage = (0, pages) := Pages.takeFrom_none fun page above below =>
    used page above (by unfold totalPages memorySize pageSize at *; omega)
  rw [allocatePage, taken, ite_self]

/-- Either every page is taken, or the call returns the first that is free. -/
theorem Pages.allocatePage_cases (pages : Pages) :
    pages.allocatePage = (0, pages) ∨
      ∃ page, 0 < page ∧ page < totalPages ∧ pages.isPageUsed page = false ∧
        (∀ earlier, 0 < earlier → earlier < page → pages.isPageUsed earlier) ∧
        pages.allocatePage = (page * pageSize, pages.setPageUsed page) := by
  by_cases free : ∃ page, 0 < page ∧ page < totalPages ∧ pages.isPageUsed page = false
  · right
    obtain ⟨nonzero, inside, isFree⟩ := Nat.find_spec free
    have first : ∀ earlier, 0 < earlier → earlier < Nat.find free → pages.isPageUsed earlier := by
      intro earlier positive before
      have used := Nat.find_min free before
      simpa using fun unused => used ⟨positive, by omega, unused⟩
    exact ⟨Nat.find free, nonzero, inside, isFree, first, Pages.allocatePage_first nonzero inside isFree first⟩
  · left
    refine Pages.allocatePage_none fun page nonzero inside => ?_
    simpa using fun unused => free ⟨page, nonzero, inside, unused⟩

end AutismOS.Memory
