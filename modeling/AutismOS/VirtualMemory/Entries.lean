import AutismOS.VirtualMemory.Rollback
import Mathlib.Data.Finset.Prod

namespace AutismOS.VirtualMemory

open AutismOS.Library AutismOS.Frames

variable {vmm before after : Vmm} {spaces other : Spaces} {live : Finset Nat}
variable {dir virt phys flags slot index table frame count : Nat}

/-! The present entries of live page tables. -/

/-- The page tables of the directories that exist. -/
def liveTables (spaces : Spaces) : Finset Nat :=
  ((spaces.live ×ˢ Finset.range 1024).image fun place => spaces.vmm.table place.1 place.2).erase 0

/-- The present entries by page table and index: an entry of a shared page table is one entry. -/
def presentEntries (spaces : Spaces) : Finset (Nat × Nat) :=
  (liveTables spaces ×ˢ Finset.range 1024).filter fun entry =>
    spaces.vmm.pageTables entry.1 entry.2 &&& vmmFlagPresent ≠ 0

theorem mem_liveTables : table ∈ liveTables spaces ↔
    table ≠ 0 ∧ ∃ dir ∈ spaces.live, ∃ slot < 1024, spaces.vmm.table dir slot = table := by
  simp only [liveTables, Finset.mem_erase, Finset.mem_image, Finset.mem_product, Finset.mem_range, Prod.exists]
  grind

theorem mem_presentEntries : (table, index) ∈ presentEntries spaces ↔
    table ∈ liveTables spaces ∧ index < 1024 ∧ spaces.vmm.pageTables table index &&& vmmFlagPresent ≠ 0 := by
  simp [presentEntries, and_assoc]

/-- Every page table lies in a used frame, and directories share page tables in the kernel half only. -/
structure Framed (spaces : Spaces) : Prop where
  kernel : spaces.vmm.kernelDir ∈ spaces.live
  current : spaces.vmm.currentDir = spaces.vmm.kernelDir
  nonNull : 0 ∉ spaces.live
  accounted : Accounted spaces.vmm.pmm
  addressable : spaces.vmm.pmm.totalFrames ≤ 2 ^ 20
  tables : ∀ dir ∈ spaces.live, ∀ slot, spaces.vmm.table dir slot ≠ 0 →
    ∃ frame, 0 < frame ∧ frame < spaces.vmm.pmm.totalFrames ∧ spaces.vmm.pmm.bitmap.get frame = true ∧
      spaces.vmm.table dir slot = frame * 4096
  shared : ∀ dir ∈ spaces.live, ∀ other ∈ spaces.live, ∀ slot slot', spaces.vmm.table dir slot ≠ 0 →
    spaces.vmm.table other slot' = spaces.vmm.table dir slot → slot' = slot ∧ (other = dir ∨ 768 ≤ slot)

theorem Framed.kernelDir (framed : Framed spaces) : spaces.vmm.kernelDir ≠ 0 := by
  intro null
  apply framed.nonNull
  rw [← null]
  exact framed.kernel

theorem Framed.resolve (framed : Framed spaces) (valid : dir = 0 ∨ dir ∈ spaces.live) :
    spaces.vmm.resolve dir ∈ spaces.live ∧ spaces.vmm.resolve dir ≠ 0 := by
  have live : spaces.vmm.resolve dir ∈ spaces.live := by
    unfold Vmm.resolve
    split
    · rw [framed.current]
      exact framed.kernel
    · rename_i nonNull
      exact valid.resolve_left nonNull
  refine ⟨live, ?_⟩
  intro null
  rw [null] at live
  exact framed.nonNull live

theorem Framed.apart (framed : Framed spaces) (live : dir ∈ spaces.live) : Apart spaces.vmm dir dir := by
  intro slot _ slot' _ present same
  exact (framed.shared dir live dir live slot slot' present same).1

/-- A free frame holds no page table. -/
theorem Framed.free (framed : Framed spaces) (free : spaces.vmm.pmm.bitmap.get frame = false)
    (live : dir ∈ spaces.live) (present : spaces.vmm.table dir slot ≠ 0) : spaces.vmm.table dir slot ≠ frame * 4096 := by
  obtain ⟨own, _, _, marked, place⟩ := framed.tables dir live slot present
  intro same
  have isOwn : own = frame := by omega
  rw [isOwn, free] at marked
  cases marked

theorem Framed.freeFrames (framed : Framed spaces) : spaces.vmm.pmm.freeFrames < 2 ^ 32 := by
  have total := framed.accounted.total
  have small := framed.accounted.small
  omega

/-- There are too few page tables for a 32-bit counter of their entries to wrap. -/
theorem Framed.card_presentEntries (framed : Framed spaces) : (presentEntries spaces).card ≤ 2 ^ 30 := by
  have inFrames : liveTables spaces ⊆ (Finset.range (2 ^ 20)).image fun frame => frame * 4096 := by
    intro table member
    obtain ⟨nonNull, dir, live, slot, _, same⟩ := mem_liveTables.mp member
    obtain ⟨frame, _, inside, _, place⟩ := framed.tables dir live slot (same.trans_ne nonNull)
    have small := framed.addressable
    apply Finset.mem_image.mpr
    exact ⟨frame, Finset.mem_range.mpr (by omega), place.symm.trans same⟩
  have tables : (liveTables spaces).card ≤ 2 ^ 20 := by
    calc (liveTables spaces).card
        ≤ ((Finset.range (2 ^ 20)).image fun frame => frame * 4096).card := Finset.card_le_card inFrames
      _ ≤ (Finset.range (2 ^ 20)).card := Finset.card_image_le
      _ = 2 ^ 20 := Finset.card_range _
  calc (presentEntries spaces).card
      ≤ (liveTables spaces ×ˢ Finset.range 1024).card := Finset.card_filter_le _ _
    _ = (liveTables spaces).card * 1024 := by rw [Finset.card_product, Finset.card_range]
    _ ≤ 2 ^ 30 := by omega

/-- Every page table of a directory was there before in the same slot, and its frame is still used. -/
structure Inherits (before after : Spaces) : Prop where
  kernelDir : after.vmm.kernelDir = before.vmm.kernelDir
  currentDir : after.vmm.currentDir = before.vmm.currentDir
  kernel : before.vmm.kernelDir ∈ after.live
  nonNull : 0 ∉ after.live
  accounted : Accounted after.vmm.pmm
  totalFrames : after.vmm.pmm.totalFrames = before.vmm.pmm.totalFrames
  pages : after.vmm.pageTables = before.vmm.pageTables
  origin : ∀ dir ∈ after.live, ∀ slot, after.vmm.table dir slot ≠ 0 →
    ∃ old ∈ before.live, before.vmm.table old slot = after.vmm.table dir slot ∧ (old = dir ∨ 768 ≤ slot)
  used : ∀ dir ∈ after.live, ∀ slot frame, after.vmm.table dir slot ≠ 0 → after.vmm.table dir slot = frame * 4096 →
    before.vmm.pmm.bitmap.get frame = true → after.vmm.pmm.bitmap.get frame = true

theorem Inherits.framed (inherits : Inherits spaces other) (framed : Framed spaces) : Framed other := by
  constructor
  case kernel =>
    rw [inherits.kernelDir]
    exact inherits.kernel
  case current =>
    rw [inherits.currentDir, inherits.kernelDir]
    exact framed.current
  case nonNull => exact inherits.nonNull
  case accounted => exact inherits.accounted
  case addressable => exact inherits.totalFrames.trans_le framed.addressable
  case tables =>
    intro dir live slot present
    obtain ⟨old, liveToo, there, _⟩ := inherits.origin dir live slot present
    obtain ⟨frame, positive, inside, marked, place⟩ := framed.tables old liveToo slot (there.trans_ne present)
    have same : other.vmm.table dir slot = frame * 4096 := there.symm.trans place
    rw [inherits.totalFrames]
    exact ⟨frame, positive, inside, inherits.used dir live slot frame present same marked, same⟩
  case shared =>
    intro left live right liveToo slot slot' present same
    obtain ⟨oldLeft, liveLeft, thereLeft, keptLeft⟩ := inherits.origin left live slot present
    obtain ⟨oldRight, liveRight, thereRight, keptRight⟩ := inherits.origin right liveToo slot' (same.trans_ne present)
    obtain ⟨sameSlot, either⟩ := framed.shared oldLeft liveLeft oldRight liveRight slot slot'
      (thereLeft.trans_ne present) (thereRight.trans (same.trans thereLeft.symm))
    subst sameSlot
    refine ⟨rfl, ?_⟩
    by_cases high : 768 ≤ slot'
    · exact Or.inr high
    · left
      rw [← keptRight.resolve_right high, ← keptLeft.resolve_right high]
      exact either.resolve_right high

/-- No present entry is lost when its page table still belongs to a directory. -/
theorem Inherits.presentEntries (inherits : Inherits spaces other)
    (kept : ∀ table index, (table, index) ∈ presentEntries spaces → table ∈ liveTables other) :
    presentEntries other = presentEntries spaces := by
  ext ⟨table, index⟩
  constructor
  · intro member
    obtain ⟨isTable, small, present⟩ := mem_presentEntries.mp member
    obtain ⟨nonNull, dir, live, slot, smallSlot, same⟩ := mem_liveTables.mp isTable
    obtain ⟨old, liveToo, there, _⟩ := inherits.origin dir live slot (same.trans_ne nonNull)
    rw [inherits.pages] at present
    have isOld : table ∈ liveTables spaces :=
      mem_liveTables.mpr ⟨nonNull, old, liveToo, slot, smallSlot, there.trans same⟩
    exact mem_presentEntries.mpr ⟨isOld, small, present⟩
  · intro member
    obtain ⟨_, small, present⟩ := mem_presentEntries.mp member
    rw [← inherits.pages] at present
    exact mem_presentEntries.mpr ⟨kept table index member, small, present⟩

/-- The counters after a page was mapped. -/
def VmmStats.mapped (stats : VmmStats) (virt : Nat) : VmmStats :=
  let stats := { stats with totalPages := add32 stats.totalPages 1 }
  if pageMask virt ≥ kernelSpaceStart then { stats with kernelPages := add32 stats.kernelPages 1 }
  else { stats with userPages := add32 stats.userPages 1 }

/-- An entry was set and counted; a page table that was missing lies in a frame that was free. -/
structure PageAdded (before after : Vmm) (dir virt : Nat) : Prop where
  written : ∃ entry, entry &&& vmmFlagPresent ≠ 0 ∧
    EntryWritten before after dir (vmmDirIndex virt) (vmmTableIndex virt) entry
  fresh : before.table dir (vmmDirIndex virt) = 0 →
    ∃ frame ∈ supply before.pmm, after.pmm.bitmap.get frame = true ∧ after.table dir (vmmDirIndex virt) = frame * 4096
  used : ∀ frame, before.pmm.bitmap.get frame = true → after.pmm.bitmap.get frame = true
  accounted : Accounted before.pmm → Accounted after.pmm
  totalFrames : after.pmm.totalFrames = before.pmm.totalFrames
  kernelDir : after.kernelDir = before.kernelDir
  areas : ∀ other, (after.directories other).vmaList = (before.directories other).vmaList
  stats : after.stats = before.stats.mapped virt

theorem enter_vmaList {other : Nat} :
    ((vmm.enter dir slot table).directories other).vmaList = (vmm.directories other).vmaList := by
  by_cases isDir : other = dir
  · subst isDir
    simp [Vmm.enter, Vmm.setDirectory]
  · simp [Vmm.enter, Vmm.setDirectory, isDir]

theorem grab_accounted (accounted : Accounted vmm.pmm) (member : frame ∈ supply vmm.pmm) :
    Accounted (vmm.grab frame).pmm := by
  obtain ⟨_, inside, free⟩ := mem_supply.mp member
  exact accounted.grabbed_one inside free

theorem mapEntry_added (present : vmm.table dir (vmmDirIndex virt) ≠ 0) :
    PageAdded vmm (vmm.mapEntry (vmm.table dir (vmmDirIndex virt)) virt (pageEntry phys flags)) dir virt where
  written := ⟨_, pageEntry_present, mapEntry_written present _⟩
  fresh := fun absent => absurd absent present
  used := fun _ marked => marked
  accounted := fun accounted => accounted
  totalFrames := rfl
  kernelDir := rfl
  areas := fun _ => rfl
  stats := rfl

theorem enterEntry_added (member : frame ∈ supply vmm.pmm) (granted : vmm.allocFrame = (frame, vmm.grab frame))
    (absent : vmm.table dir (vmmDirIndex virt) = 0) (positive : frame * 4096 ≠ 0) :
    PageAdded vmm (((vmm.grab frame).enter dir (vmmDirIndex virt) (frame * 4096)).mapEntry (frame * 4096) virt
      (pageEntry phys flags)) dir virt := by
  have written := enterEntry_written absent positive (pageEntry phys flags)
  rw [granted] at written
  refine ⟨⟨_, pageEntry_present, written⟩, ?_, ?_, ?_, rfl, rfl, ?_, rfl⟩
  · intro _
    refine ⟨frame, member, ?_, ?_⟩
    · change (vmm.grab frame).pmm.bitmap.get frame = true
      simp [get_grab]
    · rw [mapEntry_table, enter_table_same]
  · intro other marked
    change (vmm.grab frame).pmm.bitmap.get other = true
    simp [get_grab, marked]
  · intro accounted
    exact grab_accounted accounted member
  · intro other
    exact enter_vmaList

/-- Mapping a page either changes nothing or adds its entry. -/
theorem vmmMapPage_added (addressable : vmm.pmm.totalFrames ≤ 2 ^ 20) (nonNull : vmm.resolve dir ≠ 0)
    (virt phys flags : Nat) : vmmMapPage vmm dir virt phys flags = (-1, vmm) ∨
      ∃ after, vmmMapPage vmm dir virt phys flags = (0, after) ∧ PageAdded vmm after (vmm.resolve dir) virt := by
  by_cases present : vmm.table (vmm.resolve dir) (vmmDirIndex virt) ≠ 0
  · exact Or.inr ⟨_, vmmMapPage_present nonNull present, mapEntry_added present⟩
  · have absent := not_not.mp present
    rcases allocFrame_allocatable vmm with ⟨_, refused⟩ | ⟨frame, _, member, granted⟩
    · exact Or.inl (vmmMapPage_exhausted nonNull absent refused)
    · obtain ⟨positive, inside, _⟩ := mem_supply.mp member
      have address := pmmFrameToAddr_small (inside.trans_le addressable)
      have isTable : frame * 4096 ≠ 0 := by omega
      exact Or.inr ⟨_, vmmMapPage_entered nonNull absent granted (by omega) address isTable,
        enterEntry_added member granted absent isTable⟩

theorem PageAdded.of_grab (member : frame ∈ supply vmm.pmm) (added : PageAdded (vmm.grab frame) after dir virt) :
    PageAdded vmm after dir virt := by
  have used (other : Nat) (marked : vmm.pmm.bitmap.get other = true) : (vmm.grab frame).pmm.bitmap.get other = true := by
    simp [get_grab, marked]
  obtain ⟨entry, present, written⟩ := added.written
  refine ⟨⟨entry, present, ?_⟩, ?_, ?_, ?_, added.totalFrames, added.kernelDir, added.areas, added.stats⟩
  · exact ⟨written.currentDir, written.present, written.old, written.tables, written.pages, written.entries⟩
  · intro absent
    obtain ⟨own, inSupply, marked, place⟩ := added.fresh absent
    obtain ⟨positive, inside, free⟩ := mem_supply.mp inSupply
    have wasFree : vmm.pmm.bitmap.get own = false := by
      rw [get_grab, Bool.or_eq_false_iff] at free
      exact free.2
    exact ⟨own, mem_supply.mpr ⟨positive, inside, wasFree⟩, marked, place⟩
  · intro other marked
    exact added.used other (used other marked)
  · intro accounted
    exact added.accounted (grab_accounted accounted member)

/-- Every page table pointer after a page was added. -/
theorem PageAdded.sameTable (added : PageAdded before after dir virt) (other slot : Nat) :
    after.table other slot = before.table other slot ∨
      (other = dir ∧ slot = vmmDirIndex virt) ∧
        ∃ frame ∈ supply before.pmm, after.pmm.bitmap.get frame = true ∧ after.table other slot = frame * 4096 := by
  obtain ⟨entry, _, written⟩ := added.written
  by_cases there : other = dir ∧ slot = vmmDirIndex virt
  · by_cases absent : before.table dir (vmmDirIndex virt) = 0
    · refine Or.inr ⟨there, ?_⟩
      rw [there.1, there.2]
      exact added.fresh absent
    · rw [there.1, there.2]
      exact Or.inl (written.old absent)
  · exact Or.inl (written.tables other slot there)

theorem PageAdded.framed (added : PageAdded before after dir virt) (framed : Framed ⟨before, live⟩) :
    Framed ⟨after, live⟩ := by
  obtain ⟨entry, _, written⟩ := added.written
  have notFresh {other slot frame : Nat} (isLive : other ∈ live) (present : before.table other slot ≠ 0)
      (member : frame ∈ supply before.pmm) : before.table other slot ≠ frame * 4096 :=
    framed.free (mem_supply.mp member).2.2 isLive present
  constructor
  case kernel =>
    change after.kernelDir ∈ live
    rw [added.kernelDir]
    exact framed.kernel
  case current =>
    change after.currentDir = after.kernelDir
    rw [written.currentDir, added.kernelDir]
    exact framed.current
  case nonNull => exact framed.nonNull
  case accounted => exact added.accounted framed.accounted
  case addressable => exact added.totalFrames.trans_le framed.addressable
  case tables =>
    intro other isLive slot present
    change ∃ frame, 0 < frame ∧ frame < after.pmm.totalFrames ∧ after.pmm.bitmap.get frame = true ∧
      after.table other slot = frame * 4096
    rw [added.totalFrames]
    rcases added.sameTable other slot with same | ⟨_, frame, member, marked, place⟩
    · obtain ⟨frame, positive, inside, marked, place⟩ := framed.tables other isLive slot (same.symm.trans_ne present)
      exact ⟨frame, positive, inside, added.used frame marked, same.trans place⟩
    · obtain ⟨positive, inside, _⟩ := mem_supply.mp member
      exact ⟨frame, positive, inside, marked, place⟩
  case shared =>
    intro left isLive right isLiveToo slot slot' present same
    change after.table left slot ≠ 0 at present
    change after.table right slot' = after.table left slot at same
    rcases added.sameTable left slot with old | ⟨there, frame, member, _, place⟩
    · rcases added.sameTable right slot' with oldToo | ⟨_, frame, member, _, place⟩
      · rw [old] at present same
        rw [oldToo] at same
        exact framed.shared left isLive right isLiveToo slot slot' present same
      · rw [old] at present same
        exact absurd (same.symm.trans place) (notFresh isLive present member)
    · rcases added.sameTable right slot' with oldToo | ⟨thereToo, _⟩
      · have presentToo : before.table right slot' ≠ 0 := by
          rw [← oldToo, same]
          exact present
        rw [oldToo, place] at same
        exact absurd same (notFresh isLiveToo presentToo member)
      · rw [there.1, there.2, thereToo.1, thereToo.2]
        exact ⟨rfl, Or.inl rfl⟩

theorem PageAdded.mem_liveTables (added : PageAdded before after dir virt) (isLive : dir ∈ live) :
    table ∈ liveTables ⟨after, live⟩ ↔
      table = after.table dir (vmmDirIndex virt) ∨ table ∈ liveTables ⟨before, live⟩ := by
  obtain ⟨entry, _, written⟩ := added.written
  rw [VirtualMemory.mem_liveTables, VirtualMemory.mem_liveTables]
  constructor
  · intro ⟨nonNull, other, isLiveToo, slot, small, same⟩
    by_cases there : other = dir ∧ slot = vmmDirIndex virt
    · rw [there.1, there.2] at same
      exact Or.inl same.symm
    · refine Or.inr ⟨nonNull, other, isLiveToo, slot, small, ?_⟩
      exact (written.tables other slot there).symm.trans same
  · intro either
    rcases either with isNew | ⟨nonNull, other, isLiveToo, slot, small, same⟩
    · rw [isNew]
      exact ⟨written.present, dir, isLive, _, vmmDirIndex_lt, rfl⟩
    · refine ⟨nonNull, other, isLiveToo, slot, small, ?_⟩
      by_cases there : other = dir ∧ slot = vmmDirIndex virt
      · rw [there.1, there.2] at same ⊢
        exact (written.old (same.trans_ne nonNull)).trans same
      · exact (written.tables other slot there).trans same

/-- A missing page table is not one of another directory. -/
theorem PageAdded.notMem_liveTables (added : PageAdded before after dir virt) (framed : Framed ⟨before, live⟩)
    (absent : before.table dir (vmmDirIndex virt) = 0) :
    after.table dir (vmmDirIndex virt) ∉ liveTables ⟨before, live⟩ := by
  intro member
  obtain ⟨frame, inSupply, _, place⟩ := added.fresh absent
  obtain ⟨nonNull, other, isLive, slot, _, same⟩ := VirtualMemory.mem_liveTables.mp member
  apply framed.free (mem_supply.mp inSupply).2.2 isLive (same.trans_ne nonNull)
  exact same.trans place

theorem PageAdded.presentEntries (added : PageAdded before after dir virt) (framed : Framed ⟨before, live⟩)
    (isLive : dir ∈ live) : presentEntries ⟨after, live⟩ =
      insert (after.table dir (vmmDirIndex virt), vmmTableIndex virt) (presentEntries ⟨before, live⟩) := by
  obtain ⟨entry, present, written⟩ := added.written
  ext ⟨table, index⟩
  rw [Finset.mem_insert, mem_presentEntries, mem_presentEntries, added.mem_liveTables isLive, Prod.mk.injEq]
  change (_ ∨ _) ∧ index < 1024 ∧ after.pageTables table index &&& vmmFlagPresent ≠ 0 ↔
    _ ∨ _ ∧ index < 1024 ∧ before.pageTables table index &&& vmmFlagPresent ≠ 0
  by_cases isTable : table = after.table dir (vmmDirIndex virt)
  · subst isTable
    rw [written.entries]
    by_cases isIndex : index = vmmTableIndex virt
    · subst isIndex
      simp [vmmTableIndex_lt, present]
    · rw [Function.update_of_ne isIndex]
      by_cases absent : before.table dir (vmmDirIndex virt) = 0
      · have isNew := added.notMem_liveTables framed absent
        simp [absent, isIndex, isNew]
      · have isOld : after.table dir (vmmDirIndex virt) ∈ liveTables ⟨before, live⟩ := by
          rw [written.old absent]
          exact VirtualMemory.mem_liveTables.mpr ⟨absent, dir, isLive, _, vmmDirIndex_lt, rfl⟩
        simp [absent, isIndex, isOld]
  · rw [written.pages _ isTable]
    simp [isTable]

/-- The entry of a page that is not mapped is not present. -/
theorem PageAdded.card_presentEntries (added : PageAdded before after dir virt) (framed : Framed ⟨before, live⟩)
    (isLive : dir ∈ live) (unmapped : before.lookup dir (vmmDirIndex virt) (vmmTableIndex virt) = none) :
    (VirtualMemory.presentEntries ⟨after, live⟩).card = (VirtualMemory.presentEntries ⟨before, live⟩).card + 1 := by
  obtain ⟨entry, _, written⟩ := added.written
  rw [added.presentEntries framed isLive]
  apply Finset.card_insert_of_notMem
  intro member
  obtain ⟨isTable, _, present⟩ := mem_presentEntries.mp member
  by_cases absent : before.table dir (vmmDirIndex virt) = 0
  · exact added.notMem_liveTables framed absent isTable
  · rw [written.old absent] at present
    simp [Vmm.lookup, absent, entryPage, present] at unmapped

end AutismOS.VirtualMemory
