import AutismOS.VirtualMemory.Ownership

namespace AutismOS.VirtualMemory

open AutismOS.Library AutismOS.Frames

variable {vmm before after : Vmm} {spaces : Spaces} {loose : Set Nat} {page : Option Nat}
variable {dir other virt addr phys flags slot index table entry frame : Nat}

/-! What a call changes of the translation. -/

/-- The page that an entry of the page table in a slot refers to. -/
def Vmm.lookup (vmm : Vmm) (dir slot index : Nat) : Option Nat :=
  if vmm.table dir slot = 0 then none else entryPage (vmm.pageTables (vmm.table dir slot) index)

theorem vmmGetPhysical_lookup (nonNull : vmm.resolve dir ≠ 0) :
    vmmGetPhysical vmm dir virt = vmm.lookup (vmm.resolve dir) (vmmDirIndex virt) (vmmTableIndex virt) :=
  vmmGetPhysical_eq nonNull

theorem vmmGetPhysical_null (null : vmm.resolve dir = 0) : vmmGetPhysical vmm dir virt = none := by
  have resolved : (if dir = 0 then vmm.currentDir else dir) = 0 := null
  simp [vmmGetPhysical, resolved]

theorem entryPage_pageEntry : entryPage (pageEntry phys flags) = some (pageMask phys) := by
  rw [entryPage, if_neg pageEntry_present, pageEntry_page]

theorem vmmDirIndex_lt : vmmDirIndex virt < 1024 := Nat.mod_lt _ (by decide)

theorem indices_of_page (same : pageMask addr = pageMask virt) :
    vmmDirIndex addr = vmmDirIndex virt ∧ vmmTableIndex addr = vmmTableIndex virt := by
  rw [← vmmDirIndex_pageMask, same, vmmDirIndex_pageMask, ← vmmTableIndex_pageMask, same, vmmTableIndex_pageMask]
  exact ⟨rfl, rfl⟩

/-- Different pages of the address space have different entries. -/
theorem indices_of_other_page (small : addr < 2 ^ 32) (bounded : virt < 2 ^ 32)
    (different : pageMask addr ≠ pageMask virt) (sameSlot : vmmDirIndex addr = vmmDirIndex virt) :
    vmmTableIndex addr ≠ vmmTableIndex virt := by
  intro sameIndex
  unfold pageMask at different
  unfold vmmDirIndex at sameSlot
  unfold vmmTableIndex at sameIndex
  omega

/-- One entry of the page table in a slot is set; a page table that was missing there is new and has no
other entry. -/
structure EntryWritten (before after : Vmm) (dir slot index entry : Nat) : Prop where
  currentDir : after.currentDir = before.currentDir
  present : after.table dir slot ≠ 0
  old : before.table dir slot ≠ 0 → after.table dir slot = before.table dir slot
  tables : ∀ other slot', ¬ (other = dir ∧ slot' = slot) → after.table other slot' = before.table other slot'
  pages : ∀ table, table ≠ after.table dir slot → after.pageTables table = before.pageTables table
  entries : after.pageTables (after.table dir slot) = Function.update
    (if before.table dir slot = 0 then fun _ => 0 else before.pageTables (after.table dir slot)) index entry

theorem mapEntry_written (present : vmm.table dir (vmmDirIndex virt) ≠ 0) (entry : Nat) :
    EntryWritten vmm (vmm.mapEntry (vmm.table dir (vmmDirIndex virt)) virt entry) dir (vmmDirIndex virt)
      (vmmTableIndex virt) entry := by
  have same : (vmm.mapEntry (vmm.table dir (vmmDirIndex virt)) virt entry).table dir (vmmDirIndex virt) =
      vmm.table dir (vmmDirIndex virt) := mapEntry_table
  refine ⟨rfl, ?_, ?_, ?_, ?_, ?_⟩
  · rw [same]
    exact present
  · intro _
    exact same
  · intro other slot' _
    exact mapEntry_table
  · intro table different
    rw [same] at different
    rw [mapEntry_pageTables, Function.update_of_ne different]
  · rw [same, if_neg present, mapEntry_pageTables, Function.update_self]

theorem unmapEntry_pageTables : (vmm.unmapEntry table virt).pageTables =
    Function.update vmm.pageTables table (Function.update (vmm.pageTables table) (vmmTableIndex virt) 0) := by
  obtain ⟨stats, unmapped⟩ := unmapEntry_eq vmm table virt
  rw [unmapped]
  rfl

theorem unmapEntry_written (present : vmm.table dir (vmmDirIndex virt) ≠ 0) :
    EntryWritten vmm (vmm.unmapEntry (vmm.table dir (vmmDirIndex virt)) virt) dir (vmmDirIndex virt)
      (vmmTableIndex virt) 0 := by
  have same : (vmm.unmapEntry (vmm.table dir (vmmDirIndex virt)) virt).table dir (vmmDirIndex virt) =
      vmm.table dir (vmmDirIndex virt) := unmapEntry_table
  refine ⟨?_, ?_, ?_, ?_, ?_, ?_⟩
  · obtain ⟨stats, unmapped⟩ := unmapEntry_eq vmm (vmm.table dir (vmmDirIndex virt)) virt
    rw [unmapped]
    rfl
  · rw [same]
    exact present
  · intro _
    exact same
  · intro other slot' _
    exact unmapEntry_table
  · intro table different
    rw [same] at different
    rw [unmapEntry_pageTables, Function.update_of_ne different]
  · rw [same, if_neg present, unmapEntry_pageTables, Function.update_self]

theorem enter_pageTables : (vmm.enter dir slot table).pageTables = Function.update vmm.pageTables table fun _ => 0 := rfl

theorem allocFrame_pageTables : vmm.allocFrame.2.pageTables = vmm.pageTables := rfl

/-- The first page of a slot. -/
theorem enterEntry_written (absent : vmm.table dir (vmmDirIndex virt) = 0) (isTable : table ≠ 0) (entry : Nat) :
    EntryWritten vmm ((vmm.allocFrame.2.enter dir (vmmDirIndex virt) table).mapEntry table virt entry) dir
      (vmmDirIndex virt) (vmmTableIndex virt) entry := by
  have there : ((vmm.allocFrame.2.enter dir (vmmDirIndex virt) table).mapEntry table virt entry).table dir
      (vmmDirIndex virt) = table := by
    rw [mapEntry_table, enter_table_same]
  refine ⟨rfl, ?_, ?_, ?_, ?_, ?_⟩
  · rw [there]
    exact isTable
  · intro present
    exact absurd absent present
  · intro other slot' elsewhere
    rw [mapEntry_table, enter_table, if_neg elsewhere, allocFrame_table]
  · intro table different
    rw [there] at different
    rw [mapEntry_pageTables, Function.update_of_ne different, enter_pageTables, Function.update_of_ne different,
      allocFrame_pageTables]
  · rw [there, if_pos absent, mapEntry_pageTables, Function.update_self, enter_pageTables, Function.update_self]

theorem vmmMapPage_written (done : vmmMapPage vmm dir virt phys flags = (0, after)) :
    vmm.resolve dir ≠ 0 ∧
      EntryWritten vmm after (vmm.resolve dir) (vmmDirIndex virt) (vmmTableIndex virt) (pageEntry phys flags) := by
  have nonNull : vmm.resolve dir ≠ 0 := by
    intro null
    have resolved : (if dir = 0 then vmm.currentDir else dir) = 0 := null
    simp [vmmMapPage, resolved] at done
  have mapping := vmmMapPage_mapping nonNull virt phys flags
  rw [done] at mapping
  refine ⟨nonNull, ?_⟩
  cases mapping with
  | present isThere => exact mapEntry_written isThere _
  | entered frame absent isFrame nonzero address => exact enterEntry_written absent address _

/-- Unmapping a page clears its entry or finds no page table. -/
theorem vmmUnmapPage_written (nonNull : vmm.resolve dir ≠ 0) :
    vmm.table (vmm.resolve dir) (vmmDirIndex virt) = 0 ∧ vmmUnmapPage vmm dir virt = vmm ∨
      vmm.table (vmm.resolve dir) (vmmDirIndex virt) ≠ 0 ∧
        EntryWritten vmm (vmmUnmapPage vmm dir virt) (vmm.resolve dir) (vmmDirIndex virt) (vmmTableIndex virt) 0 := by
  rw [vmmUnmapPage_eq nonNull]
  by_cases missing : vmm.table (vmm.resolve dir) (vmmDirIndex virt) = 0
  · rw [if_pos missing]
    exact Or.inl ⟨missing, rfl⟩
  · rw [if_neg missing]
    exact Or.inr ⟨missing, unmapEntry_written missing⟩

theorem EntryWritten.lookup_same (written : EntryWritten before after dir slot index entry) :
    after.lookup dir slot index = entryPage entry := by
  rw [Vmm.lookup, if_neg written.present, written.entries, Function.update_self]

/-- The other entries of the slot, also in a directory that shares an old page table. -/
theorem EntryWritten.lookup_slot (written : EntryWritten before after dir slot index entry) {index' : Nat}
    (shared : other = dir ∨ before.table dir slot ≠ 0 ∧ before.table other slot = before.table dir slot)
    (different : index' ≠ index) : after.lookup other slot index' = before.lookup other slot index' := by
  have blank : entryPage 0 = none := rfl
  by_cases absent : before.table dir slot = 0
  · obtain rfl : other = dir := shared.resolve_right fun old => old.1 absent
    rw [Vmm.lookup, Vmm.lookup, if_neg written.present, if_pos absent, written.entries, if_pos absent,
      Function.update_of_ne different, blank]
  · have same : after.table other slot = before.table other slot := by
      by_cases isDir : other = dir
      · rw [isDir, written.old absent]
      · exact written.tables other slot fun both => isDir both.1
    have there : before.table other slot = after.table dir slot := by
      rw [written.old absent]
      rcases shared with isDir | old
      · rw [isDir]
      · exact old.2
    rw [Vmm.lookup, Vmm.lookup, same, there, written.entries, if_neg absent, Function.update_of_ne different]

theorem EntryWritten.lookup_unshared (written : EntryWritten before after dir slot index entry) {slot' index' : Nat}
    (different : after.table other slot' ≠ after.table dir slot) :
    after.lookup other slot' index' = before.lookup other slot' index' := by
  have elsewhere : ¬ (other = dir ∧ slot' = slot) := by
    intro same
    apply different
    rw [same.1, same.2]
  rw [Vmm.lookup, Vmm.lookup, written.pages _ different, written.tables other slot' elsewhere]

/-- Page tables of different slots lie in distinct memory. -/
def Apart (vmm : Vmm) (dir other : Nat) : Prop :=
  ∀ slot < 1024, ∀ slot' < 1024, vmm.table dir slot ≠ 0 → vmm.table other slot' = vmm.table dir slot → slot' = slot

/-- A directory has a page table in one of its slots. -/
def Holds (vmm : Vmm) (dir table : Nat) : Prop := ∃ slot < 1024, vmm.table dir slot = table

/-- Of the translation of `dir` one page changes, and nothing of a directory that does not share its page
table. -/
structure PageChanged (before after : Vmm) (dir virt : Nat) (page : Option Nat) : Prop where
  there : ∀ addr, pageMask addr = pageMask virt → vmmGetPhysical after dir addr = page
  elsewhere : Apart after (after.resolve dir) (after.resolve dir) → ∀ addr < 2 ^ 32, pageMask addr ≠ pageMask virt →
    vmmGetPhysical after dir addr = vmmGetPhysical before dir addr
  unshared : ∀ other, ¬ Holds after (after.resolve other) (after.table (after.resolve dir) (vmmDirIndex virt)) →
    ∀ addr, vmmGetPhysical after other addr = vmmGetPhysical before other addr

theorem EntryWritten.resolve (written : EntryWritten before after dir slot index entry) (other : Nat) :
    after.resolve other = before.resolve other := by
  rw [Vmm.resolve, Vmm.resolve, written.currentDir]

theorem EntryWritten.pageChanged (nonNull : before.resolve dir ≠ 0) (small : virt < 2 ^ 32)
    (written : EntryWritten before after (before.resolve dir) (vmmDirIndex virt) (vmmTableIndex virt) entry) :
    PageChanged before after dir virt (entryPage entry) := by
  have nonNullAfter : after.resolve dir ≠ 0 := by
    rw [written.resolve]
    exact nonNull
  constructor
  · intro addr same
    obtain ⟨sameSlot, sameIndex⟩ := indices_of_page same
    rw [vmmGetPhysical_lookup nonNullAfter, sameSlot, sameIndex, written.resolve]
    exact written.lookup_same
  · intro apart addr bounded different
    rw [vmmGetPhysical_lookup nonNullAfter, vmmGetPhysical_lookup nonNull]
    rw [written.resolve] at apart ⊢
    by_cases sameSlot : vmmDirIndex addr = vmmDirIndex virt
    · rw [sameSlot]
      exact written.lookup_slot (Or.inl rfl) (indices_of_other_page bounded small different sameSlot)
    · apply written.lookup_unshared
      intro sameTable
      exact sameSlot (apart _ vmmDirIndex_lt _ vmmDirIndex_lt written.present sameTable)
  · intro other unshared addr
    rw [written.resolve, written.resolve] at unshared
    by_cases null : before.resolve other = 0
    · rw [vmmGetPhysical_null null, vmmGetPhysical_null ((written.resolve other).trans null)]
    · have nonNullOther : after.resolve other ≠ 0 := by
        rw [written.resolve]
        exact null
      rw [vmmGetPhysical_lookup nonNullOther, vmmGetPhysical_lookup null, written.resolve]
      apply written.lookup_unshared
      intro sameTable
      exact unshared ⟨_, vmmDirIndex_lt, sameTable⟩

theorem vmmUnmapPage_null (null : vmm.resolve dir = 0) : vmmUnmapPage vmm dir virt = vmm := by
  have resolved : (if dir = 0 then vmm.currentDir else dir) = 0 := null
  simp [vmmUnmapPage, resolved]

theorem vmmUnmapPage_changed (small : virt < 2 ^ 32) : PageChanged vmm (vmmUnmapPage vmm dir virt) dir virt none := by
  have unmapped (absent : ∀ addr, pageMask addr = pageMask virt → vmmGetPhysical vmm dir addr = none) :
      PageChanged vmm vmm dir virt none := ⟨absent, fun _ _ _ _ => rfl, fun _ _ _ => rfl⟩
  by_cases null : vmm.resolve dir = 0
  · rw [vmmUnmapPage_null null]
    apply unmapped
    intro addr _
    exact vmmGetPhysical_null null
  · rcases vmmUnmapPage_written null with ⟨missing, same⟩ | ⟨_, written⟩
    · rw [same]
      apply unmapped
      intro addr samePage
      rw [vmmGetPhysical_lookup null, (indices_of_page samePage).1, Vmm.lookup, if_pos missing]
    · exact written.pageChanged null small

/-- A directory that shares the page table keeps its other pages. -/
theorem vmmUnmapPage_shared (small : virt < 2 ^ 32) (apart : Apart vmm (vmm.resolve dir) (vmm.resolve other))
    (bounded : addr < 2 ^ 32) (different : pageMask addr ≠ pageMask virt) :
    vmmGetPhysical (vmmUnmapPage vmm dir virt) other addr = vmmGetPhysical vmm other addr := by
  by_cases null : vmm.resolve dir = 0
  · rw [vmmUnmapPage_null null]
  · rcases vmmUnmapPage_written null with ⟨_, same⟩ | ⟨present, written⟩
    · rw [same]
    · by_cases nullOther : vmm.resolve other = 0
      · rw [vmmGetPhysical_null nullOther, vmmGetPhysical_null ((written.resolve other).trans nullOther)]
      · have nonNull : (vmmUnmapPage vmm dir virt).resolve other ≠ 0 := by
          rw [written.resolve]
          exact nullOther
        rw [vmmGetPhysical_lookup nonNull, vmmGetPhysical_lookup nullOther, written.resolve]
        by_cases sharesSlot : vmm.table (vmm.resolve other) (vmmDirIndex addr) =
            vmm.table (vmm.resolve dir) (vmmDirIndex virt)
        · have sameSlot := apart _ vmmDirIndex_lt _ vmmDirIndex_lt present sharesSlot
          rw [sameSlot] at sharesSlot ⊢
          exact written.lookup_slot (Or.inr ⟨present, sharesSlot⟩)
            (indices_of_other_page bounded small different sameSlot)
        · apply written.lookup_unshared
          rw [vmmUnmapPage_table null, vmmUnmapPage_table null]
          exact sharesSlot

/-- Mapping a page changes its translation in the directory only, and so does unmapping it. -/
theorem page_changes (vmm : Vmm) (dir phys flags : Nat) (small : virt < 2 ^ 32) :
    (∀ after, vmmMapPage vmm dir virt phys flags = (0, after) →
      PageChanged vmm after dir virt (some (pageMask phys))) ∧
    PageChanged vmm (vmmUnmapPage vmm dir virt) dir virt none ∧
    ∀ other, Apart vmm (vmm.resolve dir) (vmm.resolve other) → ∀ addr < 2 ^ 32, pageMask addr ≠ pageMask virt →
      vmmGetPhysical (vmmUnmapPage vmm dir virt) other addr = vmmGetPhysical vmm other addr := by
  refine ⟨?_, vmmUnmapPage_changed small, ?_⟩
  · intro after done
    obtain ⟨nonNull, written⟩ := vmmMapPage_written done
    rw [← entryPage_pageEntry]
    exact written.pageChanged nonNull small
  · intro other apart addr bounded different
    exact vmmUnmapPage_shared small apart bounded different

/-- Where every frame has one owner, page tables lie in distinct memory. -/
theorem Ledger.apart (ledger : Ledger spaces loose) (live : dir ∈ spaces.live) (liveToo : other ∈ spaces.live) :
    Apart spaces.vmm dir other := by
  intro slot _ slot' _ present same
  exact (ledger.sole live present liveToo same).2

/-- The first page of a new slot, and a page of the first slot that stays where it is. -/
theorem page_changes_new_slot : ∃ booted after,
    vmmInit (blankVmm kernelPmm) 0x100014 = (0, booted) ∧
      vmmMapPage booted 0x100014 0x400000 0x5000 7 = (0, after) ∧
      vmmGetPhysical after 0x100014 0x400FFF = some 0x5000 ∧
      vmmGetPhysical after 0x100014 0x3000 = vmmGetPhysical booted 0x100014 0x3000 := by
  obtain ⟨booted, done, kernel, ledger, plenty, absent⟩ := kernelPmm_booted
  rcases allocFrame_cases booted with refused | ⟨frame, positive, inside, free, granted⟩
  · have empty := ledger.supply_empty refused
    change supply booted.pmm = ∅ at empty
    rw [empty] at plenty
    exact absurd plenty (by decide)
  · have isDir (vmm : Vmm) : vmm.resolve 0x100014 = 0x100014 := resolve_self (by decide)
    have address : pmmFrameToAddr frame = frame * 4096 := ledger.address inside
    have isTable : frame * 4096 ≠ 0 := by omega
    have missing : booted.table (booted.resolve 0x100014) (vmmDirIndex 0x400000) = 0 := by
      rw [isDir]
      exact absent 1 (by decide)
    have mapped : vmmMapPage booted 0x100014 0x400000 0x5000 7 = (0, _) :=
      vmmMapPage_entered (by rw [isDir]; decide) missing granted (by omega) address isTable
    rw [isDir] at mapped
    obtain ⟨changes, _⟩ := page_changes booted 0x100014 0x5000 7 (by decide : 0x400000 < 2 ^ 32)
    have changed := changes _ mapped
    refine ⟨booted, _, done, mapped, changed.there 0x400FFF (by decide), changed.elsewhere ?_ 0x3000 (by decide) (by decide)⟩
    rw [isDir]
    have old : booted.table 0x100014 0 ≠ frame * 4096 := by
      intro same
      obtain ⟨owner, member, there⟩ := ledger.tables 0x100014 (kernel ▸ ledger.kernel) 0 (same.trans_ne isTable)
      have marked := (ledger.marked owner member).2.2
      obtain rfl : owner = frame := Nat.eq_of_mul_eq_mul_right (by decide) (there.symm.trans same)
      exact absurd (marked.symm.trans free) (by decide)
    have tables (slot : Nat) : (((booted.grab frame).enter 0x100014 (vmmDirIndex 0x400000)
        (frame * 4096)).mapEntry (frame * 4096) 0x400000 (pageEntry 0x5000 7)).table 0x100014 slot =
          if slot = 1 then frame * 4096 else if slot = 0 then booted.table 0x100014 0 else 0 := by
      have slotOne : vmmDirIndex 0x400000 = 1 := by decide
      rw [mapEntry_table, enter_table, slotOne]
      by_cases isFirst : slot = 0
      · rw [isFirst]
        rfl
      · simp only [true_and, isFirst, if_false]
        rw [← absent slot isFirst]
        rfl
    intro slot _ slot' _ present same
    rw [tables] at present
    rw [tables, tables] at same
    grind

/-- Memory of four frames, all of them free. -/
def tinyPmm : Pmm := (pmmInit blankPmm 0x4000 (some fun _ => 0)).2

/-- The manager over this memory, with the kernel's page table in frame 1. -/
def tinyVmm : Vmm := bootedVmm (blankVmm tinyPmm) 0x100014 1

theorem tinyVmm_booted : vmmInit (blankVmm tinyPmm) 0x100014 = (0, tinyVmm) := by
  apply vmmInit_boots rfl (by decide)
  · decide
  · decide
  · decide

end AutismOS.VirtualMemory
