import AutismOS.VirtualMemory.Entries
import Mathlib.Algebra.BigOperators.Group.Finset.Basic

namespace AutismOS.VirtualMemory

open AutismOS.Library AutismOS.Frames

variable {vmm booted before after : Vmm} {spaces final : Spaces} {live : Finset Nat}
variable {dir virt phys flags slot first mapped frame block count : Nat}

/-! The counters of the memory manager. -/

/-- The calls, and the creation of areas. -/
inductive VmmUse where
  | call (call : VmmCall)
  | createVma (dir start size flags type block : Nat)

def vmmUse (spaces : Spaces) : VmmUse → Spaces
  | .call call => vmmCall spaces call
  | .createVma dir start size flags type block =>
      { spaces with vmm := (vmmCreateVma spaces.vmm dir start size flags type block).2 }

def vmmUseStep (spaces : Spaces) (use : VmmUse) : Option Spaces := some (vmmUse spaces use)

/-- The number of areas on the lists of the directories that exist. -/
def areaCount (spaces : Spaces) : Nat := spaces.live.sum fun dir => (spaces.vmm.directories dir).vmaList.length

/-- The counters agree with each other, with the present entries and with the areas. -/
structure Counted (spaces : Spaces) : Prop where
  total : spaces.vmm.stats.totalPages = spaces.vmm.stats.userPages + spaces.vmm.stats.kernelPages
  pages : spaces.vmm.stats.totalPages = (presentEntries spaces).card
  areas : spaces.vmm.stats.vmaCount = areaCount spaces

theorem areaCount_congr (same : ∀ dir ∈ live, (after.directories dir).vmaList = (before.directories dir).vmaList) :
    areaCount ⟨after, live⟩ = areaCount ⟨before, live⟩ := by
  apply Finset.sum_congr rfl
  intro dir member
  exact congrArg List.length (same dir member)

theorem Counted.pageAdded (counted : Counted ⟨before, live⟩) (framed : Framed ⟨before, live⟩) (isLive : dir ∈ live)
    (added : PageAdded before after dir virt)
    (unmapped : before.lookup dir (vmmDirIndex virt) (vmmTableIndex virt) = none) : Counted ⟨after, live⟩ := by
  obtain ⟨total, pages, areas⟩ := counted
  have card := added.card_presentEntries framed isLive unmapped
  have bound := (added.framed framed).card_presentEntries
  change before.stats.totalPages = before.stats.userPages + before.stats.kernelPages at total
  change before.stats.totalPages = _ at pages
  have more : add32 before.stats.totalPages 1 = before.stats.totalPages + 1 := add32_of_lt (by omega)
  have user : add32 before.stats.userPages 1 = before.stats.userPages + 1 := add32_of_lt (by omega)
  have kernel : add32 before.stats.kernelPages 1 = before.stats.kernelPages + 1 := add32_of_lt (by omega)
  constructor
  · change after.stats.totalPages = after.stats.userPages + after.stats.kernelPages
    rw [added.stats, VmmStats.mapped]
    split
    · simp only [more, kernel]
      omega
    · simp only [more, user]
      omega
  · change after.stats.totalPages = _
    rw [card, ← pages, added.stats, VmmStats.mapped]
    split
    · exact more
    · exact more
  · change after.stats.vmaCount = _
    rw [areaCount_congr fun dir _ => added.areas dir, added.stats, ← areas, VmmStats.mapped]
    split
    · rfl
    · rfl

/-- What holds between the steps of a run. -/
structure Tallied (spaces : Spaces) : Prop where
  framed : Framed spaces
  counted : Counted spaces

theorem Tallied.pageAdded (tallied : Tallied ⟨before, live⟩) (valid : dir = 0 ∨ dir ∈ live)
    (added : PageAdded before after (before.resolve dir) virt) (unmapped : vmmGetPhysical before dir virt = none) :
    Tallied ⟨after, live⟩ := by
  obtain ⟨isLive, nonNull⟩ : before.resolve dir ∈ live ∧ before.resolve dir ≠ 0 := tallied.framed.resolve valid
  constructor
  · exact added.framed tallied.framed
  · rw [vmmGetPhysical_lookup nonNull] at unmapped
    exact tallied.counted.pageAdded tallied.framed isLive added unmapped

theorem Tallied.mapPage (tallied : Tallied ⟨vmm, live⟩) (valid : dir = 0 ∨ dir ∈ live)
    (unmapped : vmmGetPhysical vmm dir virt = none) : Tallied ⟨(vmmMapPage vmm dir virt phys flags).2, live⟩ := by
  obtain ⟨_, nonNull⟩ : vmm.resolve dir ∈ live ∧ vmm.resolve dir ≠ 0 := tallied.framed.resolve valid
  rcases vmmMapPage_added tallied.framed.addressable nonNull virt phys flags with failed | ⟨after, mapped, added⟩
  · rw [failed]
    exact tallied
  · rw [mapped]
    exact tallied.pageAdded valid added unmapped

/-- What a frame that is taken for a page adds. -/
theorem PageAdded.of_mapped (framed : Framed ⟨vmm, live⟩) (valid : dir = 0 ∨ dir ∈ live) (member : frame ∈ supply vmm.pmm)
    (mapped : vmmMapPage (vmm.grab frame) dir virt phys flags = (0, after)) :
    PageAdded vmm after (vmm.resolve dir) virt := by
  obtain ⟨_, nonNull⟩ : vmm.resolve dir ∈ live ∧ vmm.resolve dir ≠ 0 := framed.resolve valid
  have addressable : (vmm.grab frame).pmm.totalFrames ≤ 2 ^ 20 := framed.addressable
  have resolved : (vmm.grab frame).resolve dir = vmm.resolve dir := rfl
  rcases vmmMapPage_added addressable (resolved.trans_ne nonNull) virt phys flags with failed | ⟨_, same, added⟩
  · rw [failed] at mapped
    cases (Prod.mk.inj mapped).1
  · rw [mapped] at same
    cases same
    exact added.of_grab member

/-- A frame that could not be used is free again. -/
theorem Tallied.returned (tallied : Tallied ⟨vmm, live⟩) (member : frame ∈ supply vmm.pmm) :
    Tallied ⟨(vmm.grab frame).freeFrame frame, live⟩ := by
  obtain ⟨framed, total, pages, areas⟩ := tallied
  have inherits : Inherits ⟨vmm, live⟩ ⟨(vmm.grab frame).freeFrame frame, live⟩ := by
    constructor
    case kernelDir => rfl
    case currentDir => rfl
    case kernel => exact framed.kernel
    case nonNull => exact framed.nonNull
    case accounted => exact (grab_accounted framed.accounted member).markFree frame
    case totalFrames => exact pmmMarkFree_totalFrames
    case pages => rfl
    case origin => exact fun dir isLive _ _ => ⟨dir, isLive, rfl, Or.inl rfl⟩
    case used =>
      intro dir isLive slot own present place marked
      have different : own ≠ frame := by
        intro same
        exact framed.free (mem_supply.mp member).2.2 isLive present (same ▸ place)
      have kept : ((vmm.grab frame).freeFrame frame).pmm.bitmap.get own = (vmm.grab frame).pmm.bitmap.get own :=
        pmmMarkFree_keeps different
      have marked : vmm.pmm.bitmap.get own = true := marked
      change ((vmm.grab frame).freeFrame frame).pmm.bitmap.get own = true
      rw [kept, get_grab, marked, Bool.or_true]
  exact ⟨inherits.framed framed, total, pages, areas⟩

/-- One page is allocated, unless there are too few frames for it or a page is already mapped there. -/
theorem Tallied.allocPage (tallied : Tallied ⟨vmm, live⟩) (valid : dir = 0 ∨ dir ∈ live)
    (new : FailsAtFirst vmm dir virt ∨ vmmGetPhysical vmm dir virt = none) :
    Tallied ⟨(vmmAllocPage vmm dir virt flags).2, live⟩ := by
  have allocation := vmmAllocPage_allocation tallied.framed.freeFrames tallied.framed.addressable dir virt flags
  change PageAllocation vmm dir virt flags _ at allocation
  generalize vmmAllocPage vmm dir virt flags = outcome at allocation
  cases allocation with
  | exhausted none => exact tallied
  | returned frame fails member granted => exact tallied.returned member
  | mapped frame after enough member granted mapped left =>
      have added := PageAdded.of_mapped tallied.framed valid member mapped
      exact tallied.pageAdded valid added (new.resolve_left enough)

theorem add32_first (small : virt < 2 ^ 32) : add32 virt (0 * vmmPageSize) = virt := by
  unfold add32
  omega

theorem add32_next {i : Nat} :
    add32 (add32 virt vmmPageSize) (i * vmmPageSize) = add32 virt ((i + 1) * vmmPageSize) := by
  unfold add32 vmmPageSize
  omega

theorem framesNeeded_mod {present : Nat → Bool} :
    framesNeeded present (virt % 2 ^ 32) count = framesNeeded present virt count := by
  induction count generalizing present virt with
  | zero => rfl
  | succ count ih =>
      have slot : vmmDirIndex (virt % 2 ^ 32) = vmmDirIndex virt := by
        unfold vmmDirIndex
        omega
      have next : (virt % 2 ^ 32 + vmmPageSize) % 2 ^ 32 = (virt + vmmPageSize) % 2 ^ 32 := by omega
      have stepped (present : Nat → Bool) : framesNeeded present (virt % 2 ^ 32 + vmmPageSize) count =
          framesNeeded present (virt + vmmPageSize) count := by
        rw [← ih, next, ih]
      rw [framesNeeded, framesNeeded, slot, stepped]

theorem le_framesNeeded {present : Nat → Bool} : count ≤ framesNeeded present virt count := by
  induction count generalizing present virt with
  | zero => exact Nat.zero_le _
  | succ count ih =>
      have one : 1 ≤ if present (vmmDirIndex virt) then 1 else 2 := by
        split
        · decide
        · decide
      have rest : count ≤ framesNeeded (Function.update present (vmmDirIndex virt) true) (virt + vmmPageSize) count := ih
      rw [framesNeeded]
      omega

theorem Framed.allocatable_le (framed : Framed spaces) : allocatable spaces.vmm.pmm ≤ 2 ^ 20 := by
  have total := framed.accounted.total
  have small := framed.addressable
  unfold allocatable
  split
  · omega
  · exact Nat.zero_le _

theorem PageAdded.slotsPresent (added : PageAdded before after dir virt) :
    slotsPresent after dir = Function.update (slotsPresent before dir) (vmmDirIndex virt) true := by
  obtain ⟨entry, _, written⟩ := added.written
  funext slot
  by_cases there : slot = vmmDirIndex virt
  · subst there
    simp [VirtualMemory.slotsPresent, written.present]
  · rw [Function.update_of_ne there]
    simp [VirtualMemory.slotsPresent, written.tables dir slot fun both => there both.2]

/-- All pages of the range are new, and there are frames for them and for their page tables. -/
structure NewPages (vmm : Vmm) (dir virt count : Nat) : Prop where
  enough : framesNeeded (slotsPresent vmm (vmm.resolve dir)) virt count ≤ allocatable vmm.pmm
  unmapped : ∀ i < count, vmmGetPhysical vmm dir (add32 virt (i * vmmPageSize)) = none

theorem NewPages.head (new : NewPages vmm dir virt (count + 1)) (small : virt < 2 ^ 32) :
    vmmGetPhysical vmm dir virt = none := by
  have first := new.unmapped 0 (Nat.succ_pos count)
  rw [add32_first small] at first
  exact first

/-- After the first page was allocated, the others are still new. -/
theorem NewPages.rest (new : NewPages vmm dir virt (count + 1)) (framed : Framed ⟨vmm, live⟩)
    (valid : dir = 0 ∨ dir ∈ live) (small : virt < 2 ^ 32) (added : PageAdded vmm after (vmm.resolve dir) virt)
    (left : allocatable after.pmm + pageNeed vmm (vmm.resolve dir) virt = allocatable vmm.pmm) :
    NewPages after dir (add32 virt vmmPageSize) count := by
  obtain ⟨isLive, nonNull⟩ : vmm.resolve dir ∈ live ∧ vmm.resolve dir ≠ 0 := framed.resolve valid
  obtain ⟨entry, _, written⟩ := added.written
  obtain ⟨enough, unmapped⟩ := new
  have bound : allocatable vmm.pmm ≤ 2 ^ 20 := framed.allocatable_le
  have many : count + 1 ≤ framesNeeded (slotsPresent vmm (vmm.resolve dir)) virt (count + 1) := le_framesNeeded
  constructor
  · rw [framesNeeded, ← pageNeed_eq] at enough
    rw [written.resolve, added.slotsPresent, add32, framesNeeded_mod]
    omega
  · intro i below
    have bounded : add32 virt ((i + 1) * vmmPageSize) < 2 ^ 32 := Nat.mod_lt _ (by decide)
    have different : pageMask (add32 virt ((i + 1) * vmmPageSize)) ≠ pageMask virt := by
      unfold pageMask add32 vmmPageSize
      omega
    have apart : Apart after (after.resolve dir) (after.resolve dir) := by
      rw [written.resolve]
      exact (added.framed framed).apart isLive
    rw [add32_next, (written.pageChanged nonNull small).elsewhere apart _ bounded different]
    exact unmapped (i + 1) (Nat.succ_lt_succ below)

theorem Tallied.allocPagesFrom (tallied : Tallied ⟨vmm, live⟩) (valid : dir = 0 ∨ dir ∈ live) (small : virt < 2 ^ 32)
    (new : NewPages vmm dir virt count) :
    Tallied ⟨(allocPagesFrom vmm dir first flags virt mapped count).2, live⟩ := by
  induction count generalizing vmm virt mapped with
  | zero => exact tallied
  | succ count ih =>
      have allocation := vmmAllocPage_allocation tallied.framed.freeFrames tallied.framed.addressable dir virt flags
      change PageAllocation vmm dir virt flags _ at allocation
      have enough : ¬ FailsAtFirst vmm dir virt := by
        intro fails
        have resolved : vmm.resolve dir ≠ 0 := (tallied.framed.resolve valid).2
        have scarce := fails.resolve_left resolved
        have needed := new.enough
        rw [framesNeeded, ← pageNeed_eq] at needed
        omega
      generalize isPage : vmmAllocPage vmm dir virt flags = outcome at allocation
      cases allocation with
      | exhausted none => exact absurd (Or.inr (none.trans_lt pageNeed_pos)) enough
      | returned frame fails member granted => exact absurd fails enough
      | mapped frame after _ member granted mapped left =>
          have added := PageAdded.of_mapped tallied.framed valid member mapped
          rw [VirtualMemory.allocPagesFrom, isPage]
          apply ih
          · exact tallied.pageAdded valid added (new.head small)
          · exact Nat.mod_lt _ (by decide)
          · exact new.rest tallied.framed valid small added left

/-- Several pages are allocated, or not even the first. -/
theorem Tallied.allocPages (tallied : Tallied ⟨vmm, live⟩) (valid : dir = 0 ∨ dir ∈ live) (small : virt < 2 ^ 32)
    (new : FailsAtFirst vmm dir virt ∨ NewPages vmm dir virt count) :
    Tallied ⟨(vmmAllocPages vmm dir virt count flags).2, live⟩ := by
  rcases new with fails | new
  · cases count with
    | zero => exact tallied
    | succ count =>
        have page : Tallied ⟨(vmmAllocPage vmm dir virt flags).2, live⟩ := tallied.allocPage valid (Or.inl fails)
        have allocation := vmmAllocPage_allocation tallied.framed.freeFrames tallied.framed.addressable dir virt flags
        change PageAllocation vmm dir virt flags _ at allocation
        generalize isPage : vmmAllocPage vmm dir virt flags = outcome at allocation page
        rw [vmmAllocPages, VirtualMemory.allocPagesFrom, isPage]
        cases allocation with
        | exhausted none => exact page
        | returned frame _ member granted => exact page
        | mapped frame after enough => exact absurd fails enough
  · exact tallied.allocPagesFrom valid small new

theorem vmmUnmapPage_missing (nonNull : vmm.resolve dir ≠ 0)
    (missing : vmm.table (vmm.resolve dir) (vmmDirIndex virt) = 0) : vmmUnmapPage vmm dir virt = vmm := by
  rw [vmmUnmapPage_eq nonNull, if_pos missing]

/-- Where there are no page tables, nothing is freed or counted. -/
theorem vmmFreePages_missing (nonNull : vmm.resolve dir ≠ 0) (small : virt < 2 ^ 32)
    (missing : ∀ i < count, vmm.table (vmm.resolve dir) (vmmDirIndex (add32 virt (i * vmmPageSize))) = 0) :
    vmmFreePages vmm dir virt count = vmm := by
  induction count generalizing virt with
  | zero => rfl
  | succ count ih =>
      have first := missing 0 (Nat.succ_pos count)
      rw [add32_first small] at first
      have unmapped : vmmGetPhysical vmm dir virt = none := by
        rw [vmmGetPhysical_eq nonNull, if_pos first]
      simp only [vmmFreePages, unmapped, vmmUnmapPage_missing nonNull first]
      apply ih
      · exact Nat.mod_lt _ (by decide)
      · intro i below
        rw [add32_next]
        exact missing (i + 1) (Nat.succ_lt_succ below)

theorem copied_inherits (framed : Framed spaces) (nonNull : block ≠ 0) :
    Inherits spaces ⟨spaces.vmm.setDirectory block (copiedDirectory (spaces.vmm.directories spaces.vmm.kernelDir)),
      insert block spaces.live⟩ := by
  constructor
  case kernelDir => rfl
  case currentDir => rfl
  case kernel => exact Finset.mem_insert_of_mem framed.kernel
  case nonNull =>
    intro member
    exact (Finset.mem_insert.mp member).elim (fun same => nonNull same.symm) framed.nonNull
  case accounted => exact framed.accounted
  case totalFrames => rfl
  case pages => rfl
  case used => exact fun _ _ _ _ _ _ marked => marked
  case origin =>
    intro dir live slot present
    rw [created_table] at present ⊢
    by_cases isBlock : dir = block
    · rw [if_pos isBlock] at present ⊢
      by_cases high : 768 ≤ slot ∧ slot < 1024
      · rw [if_pos high]
        exact ⟨_, framed.kernel, rfl, Or.inr high.1⟩
      · exact absurd (if_neg high) present
    · rw [if_neg isBlock]
      exact ⟨dir, (Finset.mem_insert.mp live).resolve_left isBlock, rfl, Or.inl rfl⟩

theorem Tallied.createDirectory (tallied : Tallied spaces) (fresh : block ∉ spaces.live) :
    Tallied (vmmCall spaces (.createDirectory block)) := by
  obtain ⟨framed, total, pages, areas⟩ := tallied
  by_cases null : block = 0
  · subst null
    exact ⟨framed, total, pages, areas⟩
  · have inherits := copied_inherits framed null
    have other {dir : Nat} (live : dir ∈ spaces.live) : dir ≠ block := by
      intro same
      exact fresh (same ▸ live)
    simp only [vmmCall, vmmCreateDirectory_eq null framed.kernelDir, if_neg null]
    refine ⟨inherits.framed framed, total, ?_, ?_⟩
    · rw [inherits.presentEntries]
      · exact pages
      · intro table index member
        obtain ⟨nonNull, dir, live, slot, small, same⟩ := mem_liveTables.mp (mem_presentEntries.mp member).1
        refine mem_liveTables.mpr ⟨nonNull, dir, Finset.mem_insert_of_mem live, slot, small, ?_⟩
        rw [created_table, if_neg (other live)]
        exact same
    · have empty : ((spaces.vmm.setDirectory block
          (copiedDirectory (spaces.vmm.directories spaces.vmm.kernelDir))).directories block).vmaList = [] := by
        simp [Vmm.setDirectory, copiedDirectory, clearedDirectory]
      rw [areaCount, Finset.sum_insert fresh, empty, List.length_nil, Nat.zero_add]
      apply areas.trans
      apply areaCount_congr
      intro dir live
      simp [Vmm.setDirectory, other live]

/-- Freeing page tables keeps the frames of all others. -/
theorem freeTables_keeps (others : ∀ other, slot ≤ other → other < slot + count → vmm.table dir other ≠ 0 →
      pmmAddrToFrame (vmm.table dir other) ≠ frame) :
    (freeTables vmm dir slot count).pmm.bitmap.get frame = vmm.pmm.bitmap.get frame := by
  induction count generalizing vmm slot with
  | zero => rfl
  | succ count ih =>
      rw [freeTables]
      by_cases present : vmm.table dir slot ≠ 0
      · rw [if_pos present, ih]
        · apply pmmMarkFree_keeps
          exact (others slot (Nat.le_refl _) (by omega) present).symm
        · intro other above below there
          exact others other (by omega) (by omega) there
      · rw [if_neg present]
        apply ih
        intro other above below there
        exact others other (by omega) (by omega) there

/-- Every present entry of the directory is in a page table that another directory has too. -/
def Covered (spaces : Spaces) (dir : Nat) : Prop :=
  ∀ slot < 1024, ∀ index < 1024, spaces.vmm.table dir slot ≠ 0 →
    spaces.vmm.pageTables (spaces.vmm.table dir slot) index &&& vmmFlagPresent ≠ 0 →
      ∃ other ∈ spaces.live, other ≠ dir ∧ Holds spaces.vmm other (spaces.vmm.table dir slot)

theorem destroyed_shape (accounted : Accounted vmm.pmm) (dir : Nat) :
    ∃ pmm taken, freeTables vmm dir 0 768 = { vmm with pmm, taken } ∧ Accounted pmm ∧
      pmm.totalFrames = vmm.pmm.totalFrames := by
  apply freeTables_invariant fun after =>
    ∃ pmm taken, after = { vmm with pmm, taken } ∧ Accounted pmm ∧ pmm.totalFrames = vmm.pmm.totalFrames
  · intro before frame shape
    obtain ⟨pmm, taken, same, accounted, total⟩ := shape
    subst same
    exact ⟨_, _, rfl, accounted.markFree frame, pmmMarkFree_totalFrames.trans total⟩
  · exact ⟨vmm.pmm, vmm.taken, rfl, accounted, rfl⟩

theorem destroyed_inherits (framed : Framed spaces) (live : dir ∈ spaces.live) (notKernel : dir ≠ spaces.vmm.kernelDir) :
    Inherits spaces ⟨freeTables spaces.vmm dir 0 768, spaces.live.erase dir⟩ := by
  have keeps {other slot frame : Nat} (liveToo : other ∈ spaces.live.erase dir) (present : spaces.vmm.table other slot ≠ 0)
      (place : spaces.vmm.table other slot = frame * 4096) :
      (freeTables spaces.vmm dir 0 768).pmm.bitmap.get frame = spaces.vmm.pmm.bitmap.get frame := by
    obtain ⟨different, isOld⟩ := Finset.mem_erase.mp liveToo
    apply freeTables_keeps
    intro slot' _ below there isFrame
    obtain ⟨own, _, _, _, placeToo⟩ := framed.tables dir live slot' there
    have same : spaces.vmm.table other slot = spaces.vmm.table dir slot' := by
      rw [pmmAddrToFrame, placeToo] at isFrame
      omega
    have shared := (framed.shared dir live other isOld slot' slot there same).2
    exact (shared.resolve_left different).not_gt (by omega)
  obtain ⟨pmm, taken, shape, accounted, total⟩ := destroyed_shape framed.accounted dir
  rw [shape] at keeps ⊢
  constructor
  case kernelDir => rfl
  case currentDir => rfl
  case kernel => exact Finset.mem_erase.mpr ⟨notKernel.symm, framed.kernel⟩
  case nonNull => exact fun member => framed.nonNull (Finset.mem_of_mem_erase member)
  case accounted => exact accounted
  case totalFrames => exact total
  case pages => rfl
  case origin =>
    intro other liveToo slot _
    exact ⟨other, Finset.mem_of_mem_erase liveToo, rfl, Or.inl rfl⟩
  case used =>
    intro other liveToo slot frame present place marked
    exact (keeps liveToo present place).trans marked

theorem Tallied.destroyDirectory (tallied : Tallied spaces) (valid : dir = 0 ∨ dir ∈ spaces.live)
    (kept : dir = 0 ∨ dir = spaces.vmm.kernelDir ∨ (spaces.vmm.directories dir).vmaList = [] ∧ Covered spaces dir) :
    Tallied (vmmCall spaces (.destroyDirectory dir)) := by
  obtain ⟨framed, total, pages, areas⟩ := tallied
  by_cases refused : dir = 0 ∨ dir = spaces.vmm.kernelDir
  · have same : vmmCall spaces (.destroyDirectory dir) = spaces := by
      simp only [vmmCall, vmmDestroyDirectory, if_pos refused]
      rcases refused with null | isKernel
      · rw [null, Finset.erase_eq_of_notMem framed.nonNull, ite_self]
      · rw [if_pos isKernel]
    rw [same]
    exact ⟨framed, total, pages, areas⟩
  · obtain ⟨nonNull, notKernel⟩ := not_or.mp refused
    obtain ⟨empty, covered⟩ := (kept.resolve_left nonNull).resolve_left notKernel
    have live := valid.resolve_left nonNull
    have inherits := destroyed_inherits framed live notKernel
    obtain ⟨pmm, taken, shape, _, _⟩ := destroyed_shape framed.accounted dir
    simp only [vmmCall, vmmDestroyDirectory, if_neg refused, if_neg notKernel]
    rw [shape] at inherits ⊢
    refine ⟨inherits.framed framed, total, ?_, ?_⟩
    · rw [inherits.presentEntries]
      · exact pages
      · intro table index member
        obtain ⟨isTable, small, present⟩ := mem_presentEntries.mp member
        obtain ⟨isPresent, other, liveToo, slot, smallSlot, same⟩ := mem_liveTables.mp isTable
        apply mem_liveTables.mpr
        by_cases isDir : other = dir
        · rw [← same, isDir] at isPresent present ⊢
          obtain ⟨holder, isLive, different, slot', smallSlot', there⟩ := covered slot smallSlot index small isPresent present
          exact ⟨isPresent, holder, Finset.mem_erase.mpr ⟨different, isLive⟩, slot', smallSlot', there⟩
        · exact ⟨isPresent, other, Finset.mem_erase.mpr ⟨isDir, liveToo⟩, slot, smallSlot, same⟩
    · apply areas.trans
      apply Eq.symm
      apply Finset.sum_erase
      rw [empty]
      rfl

/-- The area that `vmm_create_vma` creates. -/
def createdVma (start size flags type : Nat) : Vma where
  start := pageMask (add32 start (vmmPageSize - 1))
  stop := add32 (pageMask (add32 start (vmmPageSize - 1))) (pageMask (add32 size (vmmPageSize - 1)))
  flags
  type

/-- The state with one more area at the end of a list. -/
def Vmm.list (vmm : Vmm) (dir : Nat) (vma : Vma) : Vmm :=
  vmm.setDirectory dir { vmm.directories dir with vmaList := (vmm.directories dir).vmaList ++ [vma] }

theorem vmmCreateVma_refused {start size type : Nat} (refused : dir = 0 ∨ block = 0) :
    vmmCreateVma vmm dir start size flags type block = (0, vmm) := by
  by_cases null : dir = 0
  · rw [vmmCreateVma, if_pos null]
  · rw [vmmCreateVma, if_neg null]
    exact if_pos (refused.resolve_left null)

theorem vmmCreateVma_eq {start size type : Nat} (nonNull : dir ≠ 0) (placed : block ≠ 0) :
    (vmmCreateVma vmm dir start size flags type block).2 =
      { vmm.list dir (createdVma start size flags type) with
        stats := { vmm.stats with vmaCount := add32 vmm.stats.vmaCount 1 } } := by
  rw [vmmCreateVma, if_neg nonNull]
  simp only [if_neg placed]
  rfl

theorem list_table {vma : Vma} {other : Nat} : (vmm.list dir vma).table other slot = vmm.table other slot := by
  by_cases isDir : other = dir
  · subst isDir
    simp [Vmm.table, Vmm.list, Vmm.setDirectory]
  · simp [Vmm.table, Vmm.list, Vmm.setDirectory, isDir]

theorem areaCount_list {vma : Vma} (isLive : dir ∈ live) :
    areaCount ⟨vmm.list dir vma, live⟩ = areaCount ⟨vmm, live⟩ + 1 := by
  have own : ((vmm.list dir vma).directories dir).vmaList.length = (vmm.directories dir).vmaList.length + 1 := by
    simp [Vmm.list, Vmm.setDirectory]
  have others : ((live.erase dir).sum fun other => ((vmm.list dir vma).directories other).vmaList.length) =
      (live.erase dir).sum fun other => (vmm.directories other).vmaList.length := by
    apply Finset.sum_congr rfl
    intro other member
    simp [Vmm.list, Vmm.setDirectory, (Finset.mem_erase.mp member).1]
  calc areaCount ⟨vmm.list dir vma, live⟩
      = ((vmm.list dir vma).directories dir).vmaList.length +
          (live.erase dir).sum fun other => ((vmm.list dir vma).directories other).vmaList.length :=
        (Finset.add_sum_erase live _ isLive).symm
    _ = (vmm.directories dir).vmaList.length +
          ((live.erase dir).sum fun other => (vmm.directories other).vmaList.length) + 1 := by
        rw [own, others]
        omega
    _ = areaCount ⟨vmm, live⟩ + 1 :=
        congrArg (· + 1) (Finset.add_sum_erase live (fun other => (vmm.directories other).vmaList.length) isLive)

theorem list_inherits {vma : Vma} (framed : Framed ⟨vmm, live⟩) : Inherits ⟨vmm, live⟩ ⟨vmm.list dir vma, live⟩ := by
  constructor
  case kernelDir => rfl
  case currentDir => rfl
  case kernel => exact framed.kernel
  case nonNull => exact framed.nonNull
  case accounted => exact framed.accounted
  case totalFrames => rfl
  case pages => rfl
  case origin => exact fun other isLive slot _ => ⟨other, isLive, list_table.symm, Or.inl rfl⟩
  case used => exact fun _ _ _ _ _ _ marked => marked

theorem Tallied.createVma {start size type : Nat} (tallied : Tallied ⟨vmm, live⟩) (valid : dir = 0 ∨ dir ∈ live)
    (room : dir = 0 ∨ block = 0 ∨ areaCount ⟨vmm, live⟩ + 1 < 2 ^ 32) :
    Tallied ⟨(vmmCreateVma vmm dir start size flags type block).2, live⟩ := by
  by_cases refused : dir = 0 ∨ block = 0
  · rw [vmmCreateVma_refused refused]
    exact tallied
  · obtain ⟨framed, total, pages, areas⟩ := tallied
    obtain ⟨null, placed⟩ := not_or.mp refused
    have more := (room.resolve_left null).resolve_left placed
    rw [vmmCreateVma_eq null placed]
    generalize createdVma start size flags type = vma
    have inherits : Inherits ⟨vmm, live⟩ ⟨vmm.list dir vma, live⟩ := list_inherits framed
    have listed : Framed ⟨vmm.list dir vma, live⟩ := inherits.framed framed
    have entries : presentEntries ⟨vmm.list dir vma, live⟩ = presentEntries ⟨vmm, live⟩ := by
      apply inherits.presentEntries
      intro table index member
      obtain ⟨present, other, isLive, slot, small, same⟩ := mem_liveTables.mp (mem_presentEntries.mp member).1
      exact mem_liveTables.mpr ⟨present, other, isLive, slot, small, list_table.trans same⟩
    have counted : add32 vmm.stats.vmaCount 1 = areaCount ⟨vmm.list dir vma, live⟩ := by
      change vmm.stats.vmaCount = areaCount ⟨vmm, live⟩ at areas
      rw [areas, areaCount_list (valid.resolve_left null)]
      exact add32_of_lt more
    refine ⟨?_, total, ?_, counted⟩
    · exact ⟨listed.kernel, listed.current, listed.nonNull, listed.accounted, listed.addressable, listed.tables,
        listed.shared⟩
    · exact pages.trans (congrArg Finset.card entries.symm)

/-- A page that is mapped over another is counted twice. -/
theorem Tallied.remapPage (tallied : Tallied ⟨vmm, live⟩) (valid : dir = 0 ∨ dir ∈ live)
    (mapped : vmmGetPhysical vmm dir virt ≠ none) : ¬ Counted ⟨(vmmMapPage vmm dir virt phys flags).2, live⟩ := by
  obtain ⟨framed, total, pages, _⟩ := tallied
  obtain ⟨isLive, nonNull⟩ : vmm.resolve dir ∈ live ∧ vmm.resolve dir ≠ 0 := framed.resolve valid
  rw [vmmGetPhysical_eq nonNull] at mapped
  by_cases missing : vmm.table (vmm.resolve dir) (vmmDirIndex virt) = 0
  · exact absurd (if_pos missing) mapped
  · rw [if_neg missing] at mapped
    have added : PageAdded vmm (vmm.mapEntry (vmm.table (vmm.resolve dir) (vmmDirIndex virt)) virt
        (pageEntry phys flags)) (vmm.resolve dir) virt := mapEntry_added missing
    have isOld : (vmm.table (vmm.resolve dir) (vmmDirIndex virt), vmmTableIndex virt) ∈ presentEntries ⟨vmm, live⟩ := by
      refine mem_presentEntries.mpr ⟨?_, vmmTableIndex_lt, ?_⟩
      · exact mem_liveTables.mpr ⟨missing, _, isLive, _, vmmDirIndex_lt, rfl⟩
      · intro absent
        exact mapped (if_pos absent)
    have entries := added.presentEntries framed isLive
    rw [mapEntry_table, Finset.insert_eq_of_mem isOld] at entries
    rw [vmmMapPage_present nonNull missing]
    intro counted
    have again := counted.pages
    rw [entries, ← pages] at again
    change (vmm.stats.mapped virt).totalPages = vmm.stats.totalPages at again
    have bound := framed.card_presentEntries
    rw [← pages] at bound
    change vmm.stats.totalPages ≤ 2 ^ 30 at bound
    have more : (vmm.stats.mapped virt).totalPages = add32 vmm.stats.totalPages 1 := by
      unfold VmmStats.mapped
      split
      · rfl
      · rfl
    rw [more, add32_of_lt (by omega)] at again
    omega

theorem unmapEntry_stats {table : Nat} : (vmm.unmapEntry table virt).stats = vmm.stats.unmapped := by
  rw [Vmm.unmapEntry]

/-- Unmapping counts down the pages, but neither those of the user nor those of the kernel. -/
theorem Tallied.unmapPage (tallied : Tallied ⟨vmm, live⟩) (nonNull : vmm.resolve dir ≠ 0)
    (present : vmm.table (vmm.resolve dir) (vmmDirIndex virt) ≠ 0) : ¬ Counted ⟨vmmUnmapPage vmm dir virt, live⟩ := by
  obtain ⟨framed, total, pages, _⟩ := tallied
  rw [vmmUnmapPage_eq nonNull, if_neg present]
  intro counted
  have less := counted.total
  simp only [unmapEntry_stats, VmmStats.unmapped] at less
  have bound := framed.card_presentEntries
  rw [← pages] at bound
  change vmm.stats.totalPages ≤ 2 ^ 30 at bound
  change vmm.stats.totalPages = vmm.stats.userPages + vmm.stats.kernelPages at total
  unfold sub32 at less
  omega

/-- The areas of a directory that is destroyed stay counted. -/
theorem Tallied.destroyListed (tallied : Tallied spaces) (isLive : dir ∈ spaces.live)
    (notKernel : dir ≠ spaces.vmm.kernelDir) (listed : (spaces.vmm.directories dir).vmaList ≠ []) :
    ¬ Counted (vmmCall spaces (.destroyDirectory dir)) := by
  obtain ⟨framed, _, _, areas⟩ := tallied
  have nonNull : dir ≠ 0 := by
    intro null
    exact framed.nonNull (null ▸ isLive)
  obtain ⟨pmm, taken, shape, _, _⟩ := destroyed_shape framed.accounted dir
  simp only [vmmCall, vmmDestroyDirectory, if_neg (not_or.mpr ⟨nonNull, notKernel⟩), if_neg notKernel]
  rw [shape]
  intro counted
  have stale : spaces.vmm.stats.vmaCount =
      (spaces.live.erase dir).sum fun other => (spaces.vmm.directories other).vmaList.length := counted.areas
  have whole : (spaces.vmm.directories dir).vmaList.length +
      (spaces.live.erase dir).sum (fun other => (spaces.vmm.directories other).vmaList.length) = areaCount spaces :=
    Finset.add_sum_erase spaces.live (fun other => (spaces.vmm.directories other).vmaList.length) isLive
  have some := List.length_pos_iff.mpr listed
  omega

variable {uses : List VmmUse}

/-- Directories are NULL or exist, and a new directory is a new block; addresses are 32-bit values. -/
def UseValid (spaces : Spaces) : VmmUse → Prop
  | .call (.createDirectory block) => block ∉ spaces.live
  | .call (.destroyDirectory dir) => dir = 0 ∨ dir ∈ spaces.live
  | .call (.mapPage dir _ _ _) => dir = 0 ∨ dir ∈ spaces.live
  | .call (.unmapPage dir _) => dir = 0 ∨ dir ∈ spaces.live
  | .call (.allocPages dir virt _ _) => (dir = 0 ∨ dir ∈ spaces.live) ∧ virt < 2 ^ 32
  | .call (.freePages dir virt _) => (dir = 0 ∨ dir ∈ spaces.live) ∧ virt < 2 ^ 32
  | .createVma dir _ _ _ _ _ => dir = 0 ∨ dir ∈ spaces.live
  | .call (.allocPage _ _ _) => False
  | .call (.switchDirectory _) => False

/-- Pages are mapped where none is, several of them all or none; page tables that exist are not unmapped from;
a directory that is destroyed has neither areas nor entries of its own; the counter of areas does not wrap. -/
def CountKept (spaces : Spaces) : VmmUse → Prop
  | .call (.mapPage dir virt _ _) => vmmGetPhysical spaces.vmm dir virt = none
  | .call (.unmapPage dir virt) => spaces.vmm.table (spaces.vmm.resolve dir) (vmmDirIndex virt) = 0
  | .call (.allocPages dir virt count _) => FailsAtFirst spaces.vmm dir virt ∨ NewPages spaces.vmm dir virt count
  | .call (.freePages dir virt count) => ∀ i < count,
      spaces.vmm.table (spaces.vmm.resolve dir) (vmmDirIndex (add32 virt (i * vmmPageSize))) = 0
  | .call (.destroyDirectory dir) =>
      dir = 0 ∨ dir = spaces.vmm.kernelDir ∨ (spaces.vmm.directories dir).vmaList = [] ∧ Covered spaces dir
  | .createVma dir _ _ _ _ block => dir = 0 ∨ block = 0 ∨ areaCount spaces + 1 < 2 ^ 32
  | _ => True

theorem Tallied.step {use : VmmUse} (tallied : Tallied spaces) (valid : UseValid spaces use)
    (kept : CountKept spaces use) : Tallied (vmmUse spaces use) := by
  cases use with
  | createVma dir start size flags type block => exact tallied.createVma valid kept
  | call call =>
      cases call with
      | createDirectory block => exact tallied.createDirectory valid
      | destroyDirectory dir => exact tallied.destroyDirectory valid kept
      | mapPage dir virt phys flags => exact tallied.mapPage valid kept
      | unmapPage dir virt =>
          have same : vmmUnmapPage spaces.vmm dir virt = spaces.vmm :=
            vmmUnmapPage_missing (tallied.framed.resolve valid).2 kept
          simp only [vmmUse, vmmCall, same]
          exact tallied
      | allocPages dir virt count flags => exact tallied.allocPages valid.1 valid.2 kept
      | freePages dir virt count =>
          have same : vmmFreePages spaces.vmm dir virt count = spaces.vmm :=
            vmmFreePages_missing (tallied.framed.resolve valid.1).2 valid.2 kept
          simp only [vmmUse, vmmCall, same]
          exact tallied
      | allocPage dir virt flags => exact valid.elim
      | switchDirectory dir => exact valid.elim

/-- After initialization the present entries are those of the identity mapping. -/
theorem bootedSpaces_entries (inside : frame < 2 ^ 20) (positive : 0 < frame) :
    presentEntries (bootedSpaces (bootedVmm vmm block frame)) =
      {frame * 4096} ×ˢ Finset.range 1024 := by
  have address := pmmFrameToAddr_small inside
  have tables : ∀ table, table ∈ liveTables (bootedSpaces (bootedVmm vmm block frame)) ↔ table = frame * 4096 := by
    intro table
    rw [mem_liveTables]
    constructor
    · intro ⟨nonNull, dir, live, slot, _, same⟩
      have isBlock : dir = block := Finset.mem_singleton.mp live
      have there : (bootedVmm vmm block frame).table dir slot = table := same
      rw [isBlock, bootedVmm_table] at there
      split at there
      · exact there.symm.trans address
      · exact absurd there.symm nonNull
    · intro isTable
      refine ⟨by omega, block, Finset.mem_singleton_self block, 0, by decide, ?_⟩
      have there : (bootedVmm vmm block frame).table block 0 = pmmFrameToAddr frame := bootedVmm_table
      exact there.trans (address.trans isTable.symm)
  ext ⟨table, index⟩
  rw [mem_presentEntries, tables, Finset.mem_product, Finset.mem_singleton, Finset.mem_range]
  constructor
  · intro ⟨isTable, small, _⟩
    exact ⟨isTable, small⟩
  · intro ⟨isTable, small⟩
    refine ⟨isTable, small, ?_⟩
    have isTable : table = frame * 4096 := isTable
    have entry : (bootedVmm vmm block frame).pageTables (pmmFrameToAddr frame) index = identityEntry index := by
      simp [bootedVmm, small]
    change (bootedVmm vmm block frame).pageTables table index &&& vmmFlagPresent ≠ 0
    rw [isTable, ← address, entry]
    exact pageEntry_present

theorem bootedSpaces_counted (inside : frame < 2 ^ 20) (positive : 0 < frame) :
    Counted (bootedSpaces (bootedVmm vmm block frame)) := by
  have areas : areaCount (bootedSpaces (bootedVmm vmm block frame)) =
      ((bootedVmm vmm block frame).directories block).vmaList.length := Finset.sum_singleton _ _
  constructor
  · rfl
  · rw [bootedSpaces_entries inside positive, Finset.card_product, Finset.card_singleton, Finset.card_range]
    rfl
  · rw [areas]
    simp [bootedSpaces, bootedVmm, clearedDirectory]

theorem bootedSpaces_framed (accounted : Accounted vmm.pmm) (addressable : vmm.pmm.totalFrames ≤ 2 ^ 20)
    (nonNull : block ≠ 0) (member : frame ∈ supply vmm.pmm) (granted : vmm.allocFrame = (frame, vmm.grab frame)) :
    Framed (bootedSpaces (bootedVmm vmm block frame)) := by
  obtain ⟨positive, inside, _⟩ := mem_supply.mp member
  have address := pmmFrameToAddr_small (inside.trans_le addressable)
  have pmm : (bootedVmm vmm block frame).pmm = (vmm.grab frame).pmm := by
    rw [bootedVmm, granted]
  have tables {dir slot : Nat} (live : dir ∈ (bootedSpaces (bootedVmm vmm block frame)).live)
      (present : (bootedVmm vmm block frame).table dir slot ≠ 0) :
      dir = block ∧ slot = 0 ∧ (bootedVmm vmm block frame).table dir slot = frame * 4096 := by
    have isBlock : dir = block := Finset.mem_singleton.mp live
    rw [isBlock, bootedVmm_table] at present ⊢
    by_cases first : slot = 0
    · exact ⟨rfl, first, (if_pos first).trans address⟩
    · exact absurd (if_neg first) present
  constructor
  case kernel => exact Finset.mem_singleton_self block
  case current => rfl
  case nonNull => exact fun null => nonNull (Finset.mem_singleton.mp null).symm
  case accounted => exact pmm ▸ grab_accounted accounted member
  case addressable => exact pmm ▸ addressable
  case tables =>
    intro dir live slot present
    refine ⟨frame, positive, pmm ▸ inside, ?_, (tables live present).2.2⟩
    change (bootedVmm vmm block frame).pmm.bitmap.get frame = true
    rw [pmm, get_grab]
    simp
  case shared =>
    intro left live right liveToo slot slot' present same
    obtain ⟨isBlock, first, _⟩ := tables live present
    obtain ⟨isBlockToo, firstToo, _⟩ := tables liveToo (same.trans_ne present)
    exact ⟨firstToo.trans first.symm, Or.inl (isBlockToo.trans isBlock.symm)⟩

theorem bootedSpaces_tallied (fresh : vmm.initialized = false) (accounted : Accounted vmm.pmm)
    (addressable : vmm.pmm.totalFrames ≤ 2 ^ 20) (done : vmmInit vmm block = (0, booted)) :
    Tallied (bootedSpaces booted) := by
  obtain ⟨frame, nonNull, isFrame, nonzero, _, same⟩ := vmmInit_eq fresh done
  subst same
  rcases allocFrame_allocatable vmm with ⟨_, refused⟩ | ⟨own, _, member, granted⟩
  · rw [refused] at isFrame
    exact absurd isFrame.symm nonzero
  · obtain rfl : own = frame := by
      rw [← isFrame, granted]
    obtain ⟨positive, inside, _⟩ := mem_supply.mp member
    constructor
    · exact bootedSpaces_framed accounted addressable nonNull member granted
    · exact bootedSpaces_counted (inside.trans_le addressable) positive

/-- The calls that keep the counters, from any state on. -/
abbrev CountRun (before : Spaces) (uses : List VmmUse) (after : Spaces) : Prop :=
  Run (Guarded (fun spaces use => UseValid spaces use ∧ CountKept spaces use) (Stepping vmmUseStep)) before uses after

theorem CountRun.tallied (run : CountRun spaces uses final) (tallied : Tallied spaces) : Tallied final := by
  apply run.invariant Tallied
  · intro before use after tallied step
    obtain ⟨⟨valid, kept⟩, performed⟩ := step
    cases performed
    exact tallied.step valid kept
  · exact tallied

/-- In every run of calls that keep the counters, these agree with the page tables and the lists of areas. -/
theorem run_counters_agree {pmm bootedPmm : Pmm} {memSize : Nat} {storage : Option Bitmap} {frameCalls : List PmmCall}
    (unset : pmm.initialized = false) (bounded : memSize < 2 ^ 32)
    (pmmDone : pmmInit pmm memSize storage = (0, bootedPmm))
    (pmmRun : Run (Stepping pmmStep) bootedPmm frameCalls vmm.pmm)
    (fresh : vmm.initialized = false) (done : vmmInit vmm block = (0, booted))
    (run : CountRun (bootedSpaces booted) uses final) : Counted final := by
  obtain ⟨accounted, addressable⟩ := run_addressable unset bounded pmmDone pmmRun
  have initial := bootedSpaces_tallied fresh accounted addressable done
  exact (run.tallied initial).counted

/-- Creates a directory with a page and an area. -/
def populate : List VmmUse :=
  [.call (.createDirectory 0x103014), .call (.allocPages 0x103014 0x400000 1 7),
    .createVma 0x103014 0x400000 0x1000 7 0 0x106014]

theorem populate_run : CountRun (bootedSpaces tinyVmm) populate (populate.foldl vmmUse (bootedSpaces tinyVmm)) := by
  refine .cons ⟨⟨?_, trivial⟩, rfl⟩ (.cons ⟨⟨⟨Or.inr ?_, ?_⟩, Or.inr ⟨?_, ?_⟩⟩, rfl⟩
    (.cons ⟨⟨Or.inr ?_, Or.inr (Or.inr ?_)⟩, rfl⟩ (.nil _)))
  · change 0x103014 ∉ ({0x100014} : Finset Nat)
    decide
  · decide
  · decide
  · decide +kernel
  · decide +kernel
  · decide
  · decide +kernel

theorem run_counters_agree_page : ∃ final, vmmInit (blankVmm tinyPmm) 0x100014 = (0, tinyVmm) ∧
    CountRun (bootedSpaces tinyVmm) populate final ∧ Counted final := by
  have memory : pmmInit blankPmm 0x4000 (some fun _ => 0) = (0, tinyPmm) := rfl
  refine ⟨_, tinyVmm_booted, populate_run, ?_⟩
  exact run_counters_agree rfl (by decide) memory (.nil tinyPmm) rfl tinyVmm_booted populate_run

/-- Unmapping a page, mapping one twice and destroying a directory with an area each part the counters from what
they count. -/
theorem counters_part : ∃ unmapped remapped destroyed,
    vmmInit (blankVmm tinyPmm) 0x100014 = (0, tinyVmm) ∧
      (Run (Guarded UseValid (Stepping vmmUseStep)) (bootedSpaces tinyVmm) [.call (.unmapPage 0x100014 0)] unmapped ∧
        ¬ Counted unmapped) ∧
      (Run (Guarded UseValid (Stepping vmmUseStep)) (bootedSpaces tinyVmm) [.call (.mapPage 0x100014 0 0 7)] remapped ∧
        ¬ Counted remapped) ∧
      Run (Guarded UseValid (Stepping vmmUseStep)) (bootedSpaces tinyVmm)
        (populate ++ [.call (.destroyDirectory 0x103014)]) destroyed ∧ ¬ Counted destroyed := by
  have memory : pmmInit blankPmm 0x4000 (some fun _ => 0) = (0, tinyPmm) := rfl
  have accounted : Accounted tinyPmm := pmmInit_accounted rfl (by decide) memory
  have initial : Tallied (bootedSpaces tinyVmm) := bootedSpaces_tallied rfl accounted (by decide) tinyVmm_booted
  have live : 0x100014 ∈ (bootedSpaces tinyVmm).live := Finset.mem_singleton_self _
  have populated := populate_run.tallied initial
  have new : 0x103014 ∈ (populate.foldl vmmUse (bootedSpaces tinyVmm)).live := by decide +kernel
  have run : Run (Guarded UseValid (Stepping vmmUseStep)) (bootedSpaces tinyVmm) populate _ :=
    populate_run.mono fun _ _ _ performed => And.imp_left And.left performed
  refine ⟨_, _, _, tinyVmm_booted, ⟨.single ⟨Or.inr live, rfl⟩, ?_⟩, ⟨.single ⟨Or.inr live, rfl⟩, ?_⟩,
    run.append (.single ⟨Or.inr new, rfl⟩), ?_⟩
  · exact initial.unmapPage (by decide) (by decide)
  · exact initial.remapPage (Or.inr live) (by decide)
  · exact populated.destroyListed new (by decide +kernel) (by decide +kernel)

end AutismOS.VirtualMemory
