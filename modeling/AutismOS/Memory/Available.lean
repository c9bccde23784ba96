import AutismOS.Library.Run
import AutismOS.Memory.Pages
import Mathlib.Data.Finset.Basic

namespace AutismOS.Memory

open AutismOS.Library

variable {memory : ByteMemory} {image : KernelImage} {mbi : MultibootInfo} {pages : Pages}
variable {entries : List MmapEntry} {page other count fuel addr limit memoryEnd : Nat}

/-! What is handed out is real memory. -/

/-- The entries lie one after another from `addr` to `limit`. -/
def Laid (memory : ByteMemory) (limit : Nat) : Nat → List MmapEntry → Prop
  | addr, [] => addr = limit
  | addr, entry :: rest => readEntry memory addr = entry ∧ 20 ≤ entry.size ∧ Laid memory limit (addr + entry.size + 4) rest

theorem Laid.le (laid : Laid memory limit addr entries) : addr ≤ limit := by
  induction entries generalizing addr with
  | nil => exact Nat.le_of_eq laid
  | cons entry rest ih =>
      have tail := ih laid.2.2
      omega

/-- The loader passes a map, and its entries fill exactly the length that is given. -/
structure WellFormedMap (memory : ByteMemory) (mbi : MultibootInfo) (entries : List MmapEntry) : Prop where
  passed : mbi.flags.testBit 6 = true
  fits : mbi.mmapAddr + mbi.mmapLength < 2 ^ 32
  laid : Laid memory (mbi.mmapAddr + mbi.mmapLength) mbi.mmapAddr entries

/-- The loop visits the entries of the map and stops behind the last one. -/
theorem Laid.parse (laid : Laid memory limit addr entries) (fits : limit < 2 ^ 32)
    (enough : entries.length ≤ fuel) :
    parseEntries memory addr limit memoryEnd fuel = some (entries.foldl entryEnd memoryEnd) := by
  induction entries generalizing addr memoryEnd fuel with
  | nil =>
      have stop : ¬ addr < limit := by
        rw [show addr = limit from laid]
        exact Nat.lt_irrefl _
      cases fuel with
      | zero => exact if_neg stop
      | succ fuel => exact if_neg stop
  | cons entry rest ih =>
      cases fuel with
      | zero => simp at enough
      | succ fuel =>
          obtain ⟨read, _, tail⟩ := laid
          have next := tail.le
          rw [parseEntries, if_pos (by omega)]
          simp only [read, List.foldl_cons]
          rw [Nat.mod_eq_of_lt (by omega)]
          exact ih tail (Nat.le_of_succ_le_succ enough)

/-- The page at the address lies inside a region that is reported as available. -/
def Reported (entries : List MmapEntry) (addr : Nat) : Prop :=
  ∃ entry ∈ entries, entry.type = multibootMemoryAvailable ∧ entry.baseAddr ≤ addr ∧
    addr + pageSize ≤ entry.baseAddr + entry.length

/-- Every page of the bitmap behind the image is reported. -/
def Covered (entries : List MmapEntry) (image : KernelImage) : Prop :=
  ∀ page, image.endPage < page → page < totalPages → Reported entries (page * pageSize)

theorem Pages.markPages_used :
    (pages.markPages Pages.setPageUsed page count).isPageUsed other =
      (decide (page ≤ other ∧ other < page + count) || pages.isPageUsed other) := by
  induction count generalizing pages page with
  | zero =>
      simp [markPages]
  | succ count ih =>
      rw [markPages, ih, setPageUsed_isPageUsed, ← Bool.or_assoc, ← Bool.decide_or]
      congr 2
      apply propext
      omega

theorem Pages.markPages_free :
    (pages.markPages Pages.setPageFree page count).isPageUsed other =
      (decide ¬ (page ≤ other ∧ other < page + count) && pages.isPageUsed other) := by
  induction count generalizing pages page with
  | zero =>
      simp [markPages]
  | succ count ih =>
      rw [markPages, ih, setPageFree_isPageUsed, ← Bool.and_assoc, ← Bool.decide_and]
      congr 2
      apply propext
      omega

/-- Exactly the pages up to the end of the image are used. -/
structure Booted (image : KernelImage) (pages : Pages) : Prop where
  used : ∀ page < totalPages, pages.isPageUsed page = decide (page ≤ image.endPage)

theorem WellFormedMap.parsed (wellFormed : WellFormedMap memory mbi entries) (enough : entries.length ≤ fuel) :
    multibootParseMemoryMap memory fuel mbi pages =
      some { pages with memoryEnd := entries.foldl entryEnd pages.memoryEnd } := by
  rw [multibootParseMemoryMap, wellFormed.passed, Nat.mod_eq_of_lt wellFormed.fits]
  simp only [Bool.not_true, Bool.false_eq_true, if_false]
  rw [wellFormed.laid.parse wellFormed.fits enough]
  rfl

/-- With a well-formed map the initialisation ends, whatever the map reports. -/
theorem WellFormedMap.boots (wellFormed : WellFormedMap memory mbi entries) (image : KernelImage) (pages : Pages) :
    ∃ booted, Booted image booted ∧
      ∀ fuel, entries.length ≤ fuel → memoryInit memory image fuel mbi pages = some booted := by
  obtain ⟨erased, isErased⟩ :
      ∃ erased : Pages, { pages with memoryBitmap := pages.memoryBitmap.erase bitmapSize } = erased := ⟨_, rfl⟩
  obtain ⟨cleared, isCleared⟩ : ∃ cleared, erased.markPages Pages.setPageFree 0 totalPages = cleared := ⟨_, rfl⟩
  refine ⟨{ Pages.markPages Pages.setPageUsed
      { cleared with memoryEnd := entries.foldl entryEnd cleared.memoryEnd } 0 (image.endPage + 1) with
        memoryInitialized := true }, ⟨fun page inside => ?_⟩, fun fuel enough => ?_⟩
  · have free : cleared.isPageUsed page = false := by
      rw [← isCleared, Pages.markPages_free]
      simp [inside]
    have marked : Pages.isPageUsed (Pages.markPages Pages.setPageUsed
        { cleared with memoryEnd := entries.foldl entryEnd cleared.memoryEnd } 0 (image.endPage + 1)) page =
          (decide (0 ≤ page ∧ page < 0 + (image.endPage + 1)) || cleared.isPageUsed page) :=
      Pages.markPages_used
    refine marked.trans ?_
    rw [free, Bool.or_false]
    exact decide_eq_decide.mpr (by omega)
  · simp only [memoryInit, isErased, isCleared, wellFormed.parsed enough, Option.map_some]

/-- The allocator with the pages that are held. -/
structure Holding where
  pages : Pages
  held : Finset Nat

inductive PageCall where
  | allocatePage
  | freePage (ptr : Nat)
deriving DecidableEq

def pageCall (state : Holding) : PageCall → Holding
  | .allocatePage =>
      let (page, pages) := state.pages.allocatePage
      { pages, held := if page = 0 then state.held else insert page state.held }
  | .freePage ptr => { pages := state.pages.freePage ptr, held := state.held.erase ptr }

def pageStep (state : Holding) (call : PageCall) : Option Holding := some (pageCall state call)

/-- Only a page that was returned and is still held is freed. -/
def PageCall.Valid (state : Holding) : PageCall → Prop
  | .allocatePage => True
  | .freePage ptr => ptr ∈ state.held

/-- A page of real memory that nobody has. -/
structure Sound (entries : List MmapEntry) (image : KernelImage) (held : Finset Nat) (page : Nat) : Prop where
  reported : Reported entries page
  notFirst : pageSize ≤ page
  outside : image.sectionEnd ≤ page ∨ page + pageSize ≤ image.sectionStart
  fresh : page ∉ held

variable {before after state : Holding} {call : PageCall} {calls : List PageCall} {ptr : Nat}

/-- The used pages are those of the image and those that are held. -/
structure Accounted (image : KernelImage) (state : Holding) : Prop where
  used : ∀ page < totalPages,
    state.pages.isPageUsed page = true ↔ page ≤ image.endPage ∨ page * pageSize ∈ state.held
  placed : ∀ ptr ∈ state.held, ∃ page, image.endPage < page ∧ page < totalPages ∧ ptr = page * pageSize

theorem Booted.accounted (booted : Booted image pages) : Accounted image ⟨pages, ∅⟩ := by
  refine ⟨fun page inside => ?_, fun ptr member => nomatch member⟩
  rw [booted.used page inside, decide_eq_true_iff]
  simp

/-- A successful call takes the first page behind the image that is not held. -/
theorem Accounted.allocatePage (accounted : Accounted image before) :
    before.pages.allocatePage = (0, before.pages) ∨
      ∃ page, image.endPage < page ∧ page < totalPages ∧ page * pageSize ∉ before.held ∧
        before.pages.allocatePage = (page * pageSize, before.pages.setPageUsed page) := by
  rcases before.pages.allocatePage_cases with none | ⟨page, _, inside, free, _, taken⟩
  · exact Or.inl none
  · have unused : ¬ (page ≤ image.endPage ∨ page * pageSize ∈ before.held) := by
      rw [← accounted.used page inside, free]
      exact Bool.false_ne_true
    obtain ⟨behind, fresh⟩ := not_or.mp unused
    exact Or.inr ⟨page, Nat.lt_of_not_le behind, inside, fresh, taken⟩

theorem mul_pageSize_inj (same : other * pageSize = page * pageSize) : other = page :=
  Nat.eq_of_mul_eq_mul_right (by decide) same

theorem Accounted.step (accounted : Accounted image before) (valid : call.Valid before) :
    Accounted image (pageCall before call) := by
  cases call with
  | allocatePage =>
      rcases accounted.allocatePage with none | ⟨page, behind, inside, fresh, taken⟩
      · have same : pageCall before .allocatePage = before := by simp [pageCall, none]
        rw [same]
        exact accounted
      · have nonNull : page * pageSize ≠ 0 := by unfold pageSize; omega
        have done : pageCall before .allocatePage =
            { pages := before.pages.setPageUsed page, held := insert (page * pageSize) before.held } := by
          simp [pageCall, taken, nonNull]
        rw [done]
        refine ⟨fun other below => ?_, fun ptr member => ?_⟩
        · simp only [Pages.setPageUsed_isPageUsed, Bool.or_eq_true, decide_eq_true_iff, accounted.used other below,
            Finset.mem_insert]
          constructor
          · intro marked
            rcases marked with same | image | held
            · exact Or.inr (Or.inl (by rw [same]))
            · exact Or.inl image
            · exact Or.inr (Or.inr held)
          · intro listed
            rcases listed with image | same | held
            · exact Or.inr (Or.inl image)
            · exact Or.inl (mul_pageSize_inj same)
            · exact Or.inr (Or.inr held)
        · rcases Finset.mem_insert.mp member with isNew | old
          · exact ⟨page, behind, inside, isNew⟩
          · exact accounted.placed ptr old
  | freePage ptr =>
      obtain ⟨page, behind, inside, rfl⟩ := accounted.placed ptr valid
      have number : page * pageSize / pageSize = page := Nat.mul_div_cancel page (by decide)
      refine ⟨fun other below => ?_, fun ptr member => accounted.placed ptr (Finset.mem_of_mem_erase member)⟩
      simp only [pageCall, Pages.freePage, number, Pages.setPageFree_isPageUsed, Bool.and_eq_true,
        decide_eq_true_iff, accounted.used other below, Finset.mem_erase]
      constructor
      · intro marked
        rcases marked with ⟨different, image | held⟩
        · exact Or.inl image
        · exact Or.inr ⟨fun same => different (mul_pageSize_inj same), held⟩
      · intro listed
        rcases listed with image | ⟨different, held⟩
        · exact ⟨by omega, Or.inl image⟩
        · exact ⟨fun same => different (by rw [same]), Or.inr held⟩

/-- A page behind the image is sound as soon as the map reports it. -/
theorem sound_of_reported (behind : image.endPage < page) (fresh : page * pageSize ∉ state.held)
    (reported : Reported entries (page * pageSize)) : Sound entries image state.held (page * pageSize) := by
  refine ⟨reported, ?_, Or.inl ?_, fresh⟩
  · exact Nat.le_mul_of_pos_left pageSize (by omega)
  · have aligned := image.aligned
    have bounded := image.bounded
    unfold KernelImage.endPage at behind
    unfold pageSize at *
    omega

/-- Runs of the allocator in which only held pages are freed. -/
abbrev PageRun (before : Holding) (calls : List PageCall) (after : Holding) : Prop :=
  Restricted pageStep (fun state call => call.Valid state) before calls after

theorem Accounted.run (accounted : Accounted image before) (run : PageRun before calls after) :
    Accounted image after := by
  refine run.invariant (Accounted image) (fun start call next held step => ?_) accounted
  obtain ⟨valid, performed⟩ := step
  cases performed
  exact held.step valid

/-- The held pages are the first `count` behind the image. -/
def Filled (image : KernelImage) (count : Nat) (state : Holding) : Prop :=
  ∀ page, image.endPage < page → page < totalPages →
    (page * pageSize ∈ state.held ↔ page ≤ image.endPage + count)

theorem Accounted.allocate_filled (accounted : Accounted image state) (filled : Filled image count state)
    (inside : image.endPage + count + 1 < totalPages) :
    state.pages.allocatePage =
      ((image.endPage + count + 1) * pageSize, state.pages.setPageUsed (image.endPage + count + 1)) := by
  refine Pages.allocatePage_first (Nat.succ_pos _) inside ?_ fun earlier _ before => ?_
  · rw [Bool.eq_false_iff, ne_eq, accounted.used _ inside, filled _ (by omega) inside]
    omega
  · rw [accounted.used earlier (by omega)]
    by_cases low : earlier ≤ image.endPage
    · exact Or.inl low
    · exact Or.inr ((filled earlier (by omega) (by omega)).mpr (by omega))

/-- Repeated allocation fills the pages behind the image one after the other. -/
theorem Accounted.fills (accounted : Accounted image before) (empty : before.held = ∅) (count : Nat)
    (inside : image.endPage + count < totalPages) :
    ∃ state, PageRun before (List.replicate count .allocatePage) state ∧ Filled image count state := by
  induction count with
  | zero =>
      refine ⟨before, .nil before, fun page behind _ => iff_of_false ?_ (by omega)⟩
      rw [empty]
      exact Finset.notMem_empty _
  | succ count ih =>
      obtain ⟨state, run, filled⟩ := ih (by omega)
      have taken := (accounted.run run).allocate_filled filled inside
      have step : pageStep state .allocatePage = some (pageCall state .allocatePage) := rfl
      refine ⟨pageCall state .allocatePage, ?_, fun page behind below => ?_⟩
      · rw [List.replicate_succ']
        exact run.append (.single ⟨trivial, step⟩)
      · have nonNull : (image.endPage + count + 1) * pageSize ≠ 0 := by
          unfold pageSize
          omega
        simp only [pageCall, taken, if_neg nonNull, Finset.mem_insert, filled page behind below]
        constructor
        · intro listed
          rcases listed with isNew | old
          · exact Nat.le_of_eq (mul_pageSize_inj isNew)
          · omega
        · intro low
          by_cases last : page = image.endPage + count + 1
          · exact Or.inl (by rw [last])
          · exact Or.inr (by omega)

/-- Every page that is ever returned is sound exactly when the map reports all pages of the
bitmap behind the image. -/
theorem run_available_iff (wellFormed : WellFormedMap memory mbi entries) :
    ∃ booted, (∀ fuel, entries.length ≤ fuel → memoryInit memory image fuel mbi pages = some booted) ∧
      ((∀ calls state page, PageRun ⟨booted, ∅⟩ calls state → state.pages.allocatePage.1 = page → page ≠ 0 →
          Sound entries image state.held page) ↔
        Covered entries image) := by
  obtain ⟨booted, initial, done⟩ := wellFormed.boots image pages
  refine ⟨booted, done, fun sound page behind inside => ?_, fun covered calls state page run returned nonNull => ?_⟩
  · obtain ⟨count, rfl⟩ := Nat.exists_eq_add_of_lt behind
    obtain ⟨state, run, filled⟩ := initial.accounted.fills rfl count (Nat.lt_of_succ_lt inside)
    have taken := (initial.accounted.run run).allocate_filled filled inside
    refine (sound _ state _ run (congrArg Prod.fst taken) ?_).reported
    unfold pageSize
    omega
  · rcases (initial.accounted.run run).allocatePage with none | ⟨taken, behind, inside, fresh, result⟩
    · rw [none] at returned
      exact absurd returned.symm nonNull
    · rw [result] at returned
      subst returned
      exact sound_of_reported behind fresh (covered taken behind inside)

/-- A small kernel that is loaded at 1 MiB. -/
def smallImage : KernelImage where
  sectionStart := 0x100000
  sectionEnd := 0x110000
  isStart := rfl
  aligned := rfl
  ordered := by decide
  bounded := by decide

/-- A map of one entry at 0x9000: an available region of `mebibytes` from 1 MiB on. -/
def loaderMemory (mebibytes : UInt8) : ByteMemory := fun addr =>
  if addr = 0x9000 then 20
  else if addr = 0x9006 then 0x10
  else if addr = 0x900E then 0x10 * mebibytes
  else if addr = 0x9014 then 1
  else 0

def loaderInfo : MultibootInfo where
  flags := 0x40
  mmapLength := 24
  mmapAddr := 0x9000

def blankPages : Pages where
  memoryBitmap := fun _ => 0
  memoryEnd := 0
  memoryInitialized := false

/-- A machine with 4 MiB of memory. -/
theorem run_available_iff_full : ∃ booted,
    (∀ fuel, 1 ≤ fuel → memoryInit (loaderMemory 3) smallImage fuel loaderInfo blankPages = some booted) ∧
      ((∀ calls state page, PageRun ⟨booted, ∅⟩ calls state → state.pages.allocatePage.1 = page → page ≠ 0 →
          Sound [⟨20, 0x100000, 0x300000, 1⟩] smallImage state.held page) ↔
        Covered [⟨20, 0x100000, 0x300000, 1⟩] smallImage) :=
  have wellFormed : WellFormedMap (loaderMemory 3) loaderInfo [⟨20, 0x100000, 0x300000, 1⟩] :=
    ⟨by decide, by decide, by decide, by decide, rfl⟩
  run_available_iff wellFormed

/-- On a machine with 2 MiB of memory the page at 2 MiB is returned. -/
theorem allocate_unreported : ∃ booted calls state,
    WellFormedMap (loaderMemory 1) loaderInfo [⟨20, 0x100000, 0x100000, 1⟩] ∧
      memoryInit (loaderMemory 1) smallImage 1 loaderInfo blankPages = some booted ∧
      PageRun ⟨booted, ∅⟩ calls state ∧ state.pages.allocatePage.1 = 0x200000 ∧
      ¬ Reported [⟨20, 0x100000, 0x100000, 1⟩] 0x200000 := by
  have wellFormed : WellFormedMap (loaderMemory 1) loaderInfo [⟨20, 0x100000, 0x100000, 1⟩] :=
    ⟨by decide, by decide, by decide, by decide, rfl⟩
  obtain ⟨booted, initial, done⟩ := wellFormed.boots smallImage blankPages
  obtain ⟨state, run, filled⟩ := initial.accounted.fills rfl 239 (by decide)
  have taken := (initial.accounted.run run).allocate_filled filled (by decide)
  refine ⟨booted, _, state, wellFormed, done 1 (by decide), run, congrArg Prod.fst taken, fun reported => ?_⟩
  obtain ⟨entry, member, _, _, above⟩ := reported
  rw [List.mem_singleton.mp member] at above
  exact absurd above (by decide)

end AutismOS.Memory
