import AutismOS.VirtualMemory.Pages

namespace AutismOS.VirtualMemory

open AutismOS.Library AutismOS.Frames

variable {vmm booted : Vmm} {spaces before after : Spaces} {ref : Ref}
variable {call : VmmCall} {calls : List VmmCall} {dir block slot index frame virt flags count : Nat}

/-! Frames are owned by one directory. -/

/-- Every frame that the memory manager holds has exactly one reference from a live
directory, and no frame with a reference is free. -/
structure Owned (spaces : Spaces) : Prop where
  exactlyOne : ∀ frame ∈ spaces.vmm.taken, ∃! ref, Refers spaces ref frame
  unmapped : ∀ ref frame, Refers spaces ref frame → pmmIsFrameFree spaces.vmm.pmm frame = false

theorem Ledger.owned (ledger : Ledger spaces ∅) : Owned spaces := by
  refine ⟨fun frame member => ?_, ledger.used⟩
  obtain ⟨ref, refers⟩ := ledger.held frame member (Set.notMem_empty frame)
  exact ⟨ref, refers, fun other refersToo => ledger.unique other ref frame refersToo refers⟩

/-- A change of the live directories that drops some references sets their frames free. -/
theorem Ledger.drop (ledger : Ledger before ∅) (after : Spaces) (keeps : Ref → Prop)
    (ground : SameGround before { after with live := before.live })
    (kernel : before.vmm.kernelDir ∈ after.live) (nonNull : 0 ∉ after.live)
    (tables : ∀ dir ∈ after.live, ∀ slot, after.vmm.table dir slot = 0 ∨
      dir ∈ before.live ∧ after.vmm.table dir slot = before.vmm.table dir slot)
    (refers : ∀ ref frame, Refers after ref frame ↔ keeps ref ∧ Refers before ref frame) :
    Ledger after {frame | frame ∈ before.vmm.taken ∧ ∃ ref, ¬ keeps ref ∧ Refers before ref frame} := by
  obtain ⟨_, kernelDir, currentDir, pmm, taken⟩ := ground
  change after.vmm.pmm = _ at pmm
  change after.vmm.taken = _ at taken
  refine ⟨kernelDir ▸ kernel, currentDir.trans (ledger.current.trans kernelDir.symm), nonNull,
    pmm ▸ ledger.initialized, pmm ▸ ledger.accounted, pmm ▸ ledger.addressable, ?high, ?tables, ?marked, ?used,
    ?unique, ?held, ?unheld⟩
  case high =>
    intro dir live slot above
    rcases tables dir live slot with none | ⟨liveBefore, same⟩
    · exact none
    · exact same.trans (ledger.high dir liveBefore slot above)
  case tables =>
    intro dir live slot present
    rcases tables dir live slot with none | ⟨liveBefore, same⟩
    · exact absurd none present
    · rw [same] at present ⊢
      rw [taken]
      exact ledger.tables dir liveBefore slot present
  case marked =>
    rw [pmm, taken]
    exact ledger.marked
  case used =>
    intro ref frame reference
    rw [pmm]
    exact ledger.used ref frame ((refers ref frame).mp reference).2
  case unique =>
    intro ref other frame reference referenceToo
    exact ledger.unique ref other frame ((refers ref frame).mp reference).2
      ((refers other frame).mp referenceToo).2
  case held =>
    intro frame member kept
    rw [taken] at member
    obtain ⟨ref, reference⟩ := ledger.held frame member (Set.notMem_empty frame)
    exact ⟨ref, (refers ref frame).mpr
      ⟨by_contra fun dropped => kept ⟨member, ref, dropped, reference⟩, reference⟩⟩
  case unheld =>
    intro frame ⟨member, ref, dropped, reference⟩
    refine ⟨taken ▸ member, fun other referenceToo => ?_⟩
    obtain ⟨kept, before⟩ := (refers other frame).mp referenceToo
    exact dropped (ledger.unique other ref frame before reference ▸ kept)

/-- A new directory refers to nothing. -/
theorem Ledger.createDirectory (ledger : Ledger spaces ∅) (fresh : block ∉ spaces.live) :
    Ledger (vmmCall spaces (.createDirectory block)) ∅ := by
  by_cases null : block = 0
  · subst null
    exact ledger
  · have kernelDir : spaces.vmm.kernelDir ≠ 0 := fun isNull => ledger.nonNull (isNull ▸ ledger.kernel)
    simp only [vmmCall, vmmCreateDirectory_eq null kernelDir, if_neg null]
    have old (dir slot : Nat) (different : dir ≠ block) : (spaces.vmm.setDirectory block
        (copiedDirectory (spaces.vmm.directories spaces.vmm.kernelDir))).table dir slot =
          spaces.vmm.table dir slot := by
      rw [created_table, if_neg different]
    have new (slot : Nat) : (spaces.vmm.setDirectory block
        (copiedDirectory (spaces.vmm.directories spaces.vmm.kernelDir))).table block slot = 0 := by
      rw [created_table, if_pos rfl]
      split
      · exact ledger.high _ ledger.kernel slot (by omega)
      · rfl
    have refers (ref : Ref) (frame : Nat) : Refers ⟨spaces.vmm.setDirectory block
        (copiedDirectory (spaces.vmm.directories spaces.vmm.kernelDir)), insert block spaces.live⟩ ref frame ↔
          True ∧ Refers spaces ref frame := by
      have pages : (spaces.vmm.setDirectory block
          (copiedDirectory (spaces.vmm.directories spaces.vmm.kernelDir))).pageTables =
            spaces.vmm.pageTables := rfl
      cases ref with
      | table dir slot =>
          by_cases same : dir = block
          · subst same
            simp only [Refers, new, fresh, ne_eq, not_true_eq_false, false_and, and_false]
          · simp only [Refers, old dir slot same, Finset.mem_insert, true_and, or_iff_right same]
      | page dir slot index =>
          by_cases same : dir = block
          · subst same
            simp only [Refers, new, fresh, ne_eq, not_true_eq_false, false_and, and_false]
          · simp only [Refers, old dir slot same, pages, Finset.mem_insert, true_and, or_iff_right same]
    have dropped := ledger.drop ⟨spaces.vmm.setDirectory block
        (copiedDirectory (spaces.vmm.directories spaces.vmm.kernelDir)), insert block spaces.live⟩
      (fun _ => True) ⟨rfl, rfl, rfl, rfl, rfl⟩ (Finset.mem_insert_of_mem ledger.kernel)
      (fun member => (Finset.mem_insert.mp member).elim (fun same => null same.symm) ledger.nonNull)
      (fun dir live slot => by
        by_cases same : dir = block
        · exact Or.inl (same ▸ new slot)
        · exact Or.inr ⟨(Finset.mem_insert.mp live).resolve_left same, old dir slot same⟩) refers
    have none : {frame | frame ∈ spaces.vmm.taken ∧ ∃ ref, ¬ True ∧ Refers spaces ref frame} = ∅ := by
      refine Set.eq_empty_of_forall_notMem fun frame dangling => ?_
      obtain ⟨_, _, never, _⟩ := dangling
      exact never trivial
    rw [none] at dropped
    exact dropped

/-- The frames of the page tables in `count` slots of a directory. -/
def tableFrames (vmm : Vmm) (dir slot count : Nat) : Set Nat :=
  {frame | ∃ other, slot ≤ other ∧ other < slot + count ∧ vmm.table dir other ≠ 0 ∧
    pmmAddrToFrame (vmm.table dir other) = frame}

theorem Ledger.freeTables {live : Finset Nat} (ledger : Ledger ⟨vmm, live⟩ (tableFrames vmm dir slot count))
    (distinct : ∀ left right, vmm.table dir left ≠ 0 → vmm.table dir right ≠ 0 →
      pmmAddrToFrame (vmm.table dir left) = pmmAddrToFrame (vmm.table dir right) → left = right) :
    Ledger ⟨freeTables vmm dir slot count, live⟩ ∅ := by
  induction count generalizing vmm slot with
  | zero =>
      have none : tableFrames vmm dir slot 0 = ∅ := by
        apply Set.eq_empty_of_forall_notMem
        intro frame member
        obtain ⟨other, above, below, _⟩ := member
        omega
      rw [none] at ledger
      exact ledger
  | succ count ih =>
      rw [VirtualMemory.freeTables]
      by_cases present : vmm.table dir slot ≠ 0
      · rw [if_pos present]
        have first : pmmAddrToFrame (vmm.table dir slot) ∈ tableFrames vmm dir slot (count + 1) :=
          ⟨slot, Nat.le_refl _, by omega, present, rfl⟩
        have freed := ledger.freeFrame (ledger.unheld _ first).2
        have rest : tableFrames vmm dir slot (count + 1) \ {pmmAddrToFrame (vmm.table dir slot)} =
            tableFrames (vmm.freeFrame (pmmAddrToFrame (vmm.table dir slot))) dir (slot + 1) count := by
          ext frame
          constructor
          · intro member
            obtain ⟨⟨other, above, below, filled, same⟩, different⟩ := member
            have later : other ≠ slot := fun isSlot => different (isSlot ▸ same.symm)
            exact ⟨other, by omega, by omega, filled, same⟩
          · intro member
            obtain ⟨other, above, below, filled, same⟩ := member
            refine ⟨⟨other, by omega, by omega, filled, same⟩, fun isFirst => ?_⟩
            have isSlot := distinct other slot filled present (same.trans isFirst)
            omega
        rw [rest] at freed
        exact ih freed distinct
      · rw [if_neg present]
        have rest : tableFrames vmm dir slot (count + 1) = tableFrames vmm dir (slot + 1) count := by
          ext frame
          constructor
          · intro member
            obtain ⟨other, above, below, filled, same⟩ := member
            have later : other ≠ slot := fun isSlot => present (isSlot ▸ filled)
            exact ⟨other, by omega, by omega, filled, same⟩
          · intro member
            obtain ⟨other, above, below, filled, same⟩ := member
            exact ⟨other, by omega, by omega, filled, same⟩
        rw [rest] at ledger
        exact ih ledger distinct

/-- No page of the directory is mapped. -/
def Unmapped (spaces : Spaces) (dir : Nat) : Prop :=
  ∀ slot index frame, ¬ Refers spaces (.page dir slot index) frame

theorem Ledger.destroyDirectory (ledger : Ledger spaces ∅) (valid : dir = 0 ∨ dir ∈ spaces.live)
    (unmapped : dir = 0 ∨ dir = spaces.vmm.kernelDir ∨ Unmapped spaces dir) :
    Ledger (vmmCall spaces (.destroyDirectory dir)) ∅ := by
  by_cases refused : dir = 0 ∨ dir = spaces.vmm.kernelDir
  · have same : vmmCall spaces (.destroyDirectory dir) = spaces := by
      simp only [vmmCall, vmmDestroyDirectory, if_pos refused]
      rcases refused with null | isKernel
      · rw [null, Finset.erase_eq_of_notMem ledger.nonNull, ite_self]
      · rw [if_pos isKernel]
    rw [same]
    exact ledger
  · obtain ⟨nonNull, notKernel⟩ := not_or.mp refused
    have live := valid.resolve_left nonNull
    have empty := (unmapped.resolve_left nonNull).resolve_left notKernel
    simp only [vmmCall, vmmDestroyDirectory, if_neg refused, if_neg notKernel]
    have refers (ref : Ref) (frame : Nat) : Refers ⟨spaces.vmm, spaces.live.erase dir⟩ ref frame ↔
        ref.dir ≠ dir ∧ Refers spaces ref frame := by
      cases ref with
      | table dir' slot => simp only [Refers, Ref.dir, Finset.mem_erase, and_assoc]
      | page dir' slot index => simp only [Refers, Ref.dir, Finset.mem_erase, and_assoc]
    have dropped := ledger.drop ⟨spaces.vmm, spaces.live.erase dir⟩ (fun ref => ref.dir ≠ dir) ⟨rfl, rfl, rfl, rfl, rfl⟩
      (Finset.mem_erase.mpr ⟨fun same => notKernel same.symm, ledger.kernel⟩)
      (fun member => ledger.nonNull (Finset.mem_of_mem_erase member))
      (fun other liveToo slot => Or.inr ⟨Finset.mem_of_mem_erase liveToo, rfl⟩) refers
    have frames : {frame | frame ∈ spaces.vmm.taken ∧ ∃ ref : Ref, ¬ ref.dir ≠ dir ∧ Refers spaces ref frame} =
        tableFrames spaces.vmm dir 0 768 := by
      ext frame
      constructor
      · intro dangling
        obtain ⟨_, ref, isDir, reference⟩ := dangling
        cases ref with
        | table dir' slot =>
            have same : dir' = dir := not_not.mp isDir
            subst same
            have low : slot < 768 := by
              by_contra high
              exact reference.2.1 (ledger.high _ live slot (by omega))
            exact ⟨slot, Nat.zero_le _, by omega, reference.2⟩
        | page dir' slot index =>
            have same : dir' = dir := not_not.mp isDir
            subst same
            exact absurd reference (empty slot index frame)
      · intro inTable
        obtain ⟨slot, _, _, present, isFrame⟩ := inTable
        obtain ⟨target, member, address⟩ := ledger.tables dir live slot present
        have same : target = frame := by
          rw [← isFrame, address]
          exact (Nat.mul_div_cancel _ (by decide)).symm
        exact ⟨same ▸ member, .table dir slot, not_not.mpr rfl, live, present, isFrame⟩
    rw [frames] at dropped
    refine dropped.freeTables fun left right filled filledToo same => ?_
    have isRef := ledger.unique (.table dir left) (.table dir right) _ ⟨live, filled, same⟩ ⟨live, filledToo, rfl⟩
    cases isRef
    rfl

theorem bootedVmm_table : (bootedVmm vmm block frame).table block slot =
    if slot = 0 then pmmFrameToAddr frame else 0 := by
  simp [bootedVmm, Vmm.table, clearedDirectory, Function.update_apply]

theorem bootedVmm_pages (small : index < 1024) :
    entryFrame ((bootedVmm vmm block frame).pageTables (pmmFrameToAddr frame) index) = some index := by
  simp only [bootedVmm, Function.update_self, if_pos small, identityEntry, entryFrame_pageEntry]
  rw [Nat.mul_div_cancel_left _ (by decide)]

theorem bootedSpaces_refers (inside : frame < 2 ^ 20) (positive : 0 < frame) {target : Nat} :
    Refers (bootedSpaces (bootedVmm vmm block frame)) ref target ↔
      ref = .table block 0 ∧ target = frame ∨ target < 1024 ∧ ref = .page block 0 target := by
  have address := pmmFrameToAddr_small inside
  have nonNull : pmmFrameToAddr frame ≠ 0 := by omega
  have isFrame : pmmAddrToFrame (pmmFrameToAddr frame) = frame := by
    rw [address]
    exact Nat.mul_div_cancel _ (by decide)
  have live : block ∈ (bootedSpaces (bootedVmm vmm block frame)).live := Finset.mem_singleton_self _
  have table (slot : Nat) : (bootedSpaces (bootedVmm vmm block frame)).vmm.table block slot =
      if slot = 0 then pmmFrameToAddr frame else 0 := bootedVmm_table
  constructor
  · intro refers
    have isBlock : ref.dir = block := Finset.mem_singleton.mp refers.live
    cases ref with
    | table dir slot =>
        change dir = block at isBlock
        subst isBlock
        simp only [Refers, table] at refers
        by_cases first : slot = 0
        · subst first
          rw [if_pos rfl, isFrame] at refers
          exact Or.inl ⟨rfl, refers.2.2.symm⟩
        · rw [if_neg first] at refers
          exact absurd rfl refers.2.1
    | page dir slot index =>
        change dir = block at isBlock
        subst isBlock
        simp only [Refers, table] at refers
        by_cases first : slot = 0
        · subst first
          obtain ⟨_, _, small, same⟩ := refers
          rw [if_pos rfl, bootedSpaces, bootedVmm_pages small] at same
          cases same
          exact Or.inr ⟨small, rfl⟩
        · rw [if_neg first] at refers
          exact absurd rfl refers.2.1
  · intro either
    rcases either with ⟨same, isTarget⟩ | ⟨small, same⟩
    · subst same
      simp only [Refers, table, if_true]
      exact ⟨live, nonNull, isFrame.trans isTarget.symm⟩
    · subst same
      simp only [Refers, table, if_true]
      exact ⟨live, nonNull, small, bootedVmm_pages small⟩

theorem allocFrame_initialized (granted : vmm.allocFrame.1 ≠ 0) : vmm.pmm.initialized = true := by
  by_contra uninitialized
  have unset : vmm.pmm.initialized = false := by simpa using uninitialized
  have refused : pmmAllocFrame vmm.pmm = (0, vmm.pmm) := by
    rw [pmmAllocFrame, unset]
    rfl
  exact granted (congrArg Prod.fst refused)

/-- After initialization the only frame that was taken is that of the first page table. -/
theorem bootedSpaces_ledger (fresh : vmm.initialized = false) (none : vmm.taken = ∅)
    (accounted : Accounted vmm.pmm) (addressable : vmm.pmm.totalFrames ≤ 2 ^ 20)
    (reserved : ∀ frame < 1024, pmmIsFrameFree vmm.pmm frame = false)
    (done : vmmInit vmm block = (0, booted)) : Ledger (bootedSpaces booted) ∅ := by
  obtain ⟨frame, nonNull, isFrame, nonzero, _, rfl⟩ := vmmInit_eq fresh done
  rcases allocFrame_cases vmm with refused | ⟨granted, positive, inside, free, same⟩
  · rw [refused] at isFrame
    exact absurd isFrame.symm nonzero
  · have isGranted : granted = frame := by
      rw [same] at isFrame
      exact isFrame
    subst isGranted
    have pmm : (bootedVmm vmm block granted).pmm = grabbed vmm.pmm granted 1 := by
      simp only [bootedVmm, same]
      rfl
    have high : 1024 ≤ granted := by
      by_contra low
      have isUsed := reserved granted (by omega)
      rw [pmmIsFrameFree_of_free inside free] at isUsed
      cases isUsed
    have refers (ref : Ref) (target : Nat) :
        Refers (bootedSpaces (bootedVmm vmm block granted)) ref target ↔
          ref = .table block 0 ∧ target = granted ∨ target < 1024 ∧ ref = .page block 0 target :=
      bootedSpaces_refers (Nat.lt_of_lt_of_le inside addressable) positive
    have marked : (grabbed vmm.pmm granted 1).bitmap.get granted = true := by
      simp [get_grabbed_one]
    have onlyTaken (target : Nat) (member : target ∈ (bootedVmm vmm block granted).taken) : target = granted := by
      have inserted : target ∈ insert granted vmm.taken := member
      rw [none] at inserted
      exact Finset.mem_singleton.mp inserted
    refine ⟨Finset.mem_singleton_self _, rfl, ?nonNull, ?initialized, ?accounted, ?addressable, ?high, ?tables,
      ?marked, ?used, ?unique, ?held, fun _ member => absurd member (Set.notMem_empty _)⟩
    case nonNull => exact fun member => nonNull (Finset.mem_singleton.mp member).symm
    case initialized =>
      have initialized := allocFrame_initialized (isFrame ▸ nonzero)
      change (bootedVmm vmm block granted).pmm.initialized = true
      rw [pmm]
      exact initialized
    case accounted =>
      change Accounted (bootedVmm vmm block granted).pmm
      rw [pmm]
      refine accounted.grabbed (by omega) fun other above below => ?_
      have same : other = granted := by omega
      rw [same, free]
    case addressable =>
      change (bootedVmm vmm block granted).pmm.totalFrames ≤ 2 ^ 20
      rw [pmm]
      exact addressable
    case high =>
      intro dir live slot above
      have isBlock : dir = block := Finset.mem_singleton.mp live
      have notFirst : slot ≠ 0 := by omega
      rw [isBlock]
      exact bootedVmm_table.trans (if_neg notFirst)
    case tables =>
      intro dir live slot present
      have isBlock : dir = block := Finset.mem_singleton.mp live
      subst isBlock
      change (bootedVmm vmm dir granted).table dir slot ≠ 0 at present
      rw [bootedVmm_table] at present
      by_cases first : slot = 0
      · refine ⟨granted, Finset.mem_insert_self _ _, ?_⟩
        change (bootedVmm vmm dir granted).table dir slot = _
        rw [bootedVmm_table, if_pos first]
        exact pmmFrameToAddr_small (inside.trans_le addressable)
      · exact absurd (if_neg first) present
    case marked =>
      intro target member
      change 0 < target ∧ target < (bootedVmm vmm block granted).pmm.totalFrames ∧
        (bootedVmm vmm block granted).pmm.bitmap.get target = true
      rw [onlyTaken target member, pmm]
      exact ⟨positive, inside, marked⟩
    case used =>
      intro ref target reference
      change pmmIsFrameFree (bootedVmm vmm block granted).pmm target = false
      rw [pmm]
      rcases (refers ref target).mp reference with ⟨_, isGranted⟩ | ⟨small, _⟩
      · rw [isGranted]
        exact pmmIsFrameFree_eq_false marked
      · have before := reserved target small
        have other : target ≠ granted := by omega
        have kept : (grabbed vmm.pmm granted 1).bitmap.get target = vmm.pmm.bitmap.get target := by
          rw [get_grabbed_one, decide_eq_false other, Bool.false_or]
        rw [pmmIsFrameFree, kept]
        exact before
    case unique =>
      intro ref other target reference referenceToo
      rcases (refers ref target).mp reference with ⟨isTable, isGranted⟩ | ⟨small, isPage⟩
      · rcases (refers other target).mp referenceToo with ⟨isTableToo, _⟩ | ⟨small, _⟩
        · rw [isTable, isTableToo]
        · omega
      · rcases (refers other target).mp referenceToo with ⟨_, isGranted⟩ | ⟨_, isPageToo⟩
        · omega
        · rw [isPage, isPageToo]
    case held =>
      intro target member _
      exact ⟨.table block 0, (refers _ _).mpr (Or.inl ⟨rfl, onlyTaken target member⟩)⟩

/-- Directories and pages of user space: new directories are new blocks, and others
are NULL or live. -/
def UserCall (spaces : Spaces) : VmmCall → Prop
  | .createDirectory block => block ∉ spaces.live
  | .destroyDirectory dir => dir = 0 ∨ dir ∈ spaces.live
  | .allocPage dir virt _ => (dir = 0 ∨ dir ∈ spaces.live) ∧ virt < kernelSpaceStart
  | .allocPages dir virt count _ => (dir = 0 ∨ dir ∈ spaces.live) ∧ UserPages virt count
  | .freePages dir virt count => (dir = 0 ∨ dir ∈ spaces.live) ∧ UserPages virt count
  | _ => False

/-- A call that loses no frame: it maps no page over one that is backed, finds enough
frames for all pages or none for the first, and destroys no directory with pages. -/
def Lossless (spaces : Spaces) : VmmCall → Prop
  | .allocPage dir virt _ =>
      (supply spaces.vmm.pmm).card < pageNeed spaces.vmm (spaces.vmm.resolve dir) virt ∨
        ¬ Backed spaces (spaces.vmm.resolve dir) virt
  | .allocPages dir virt count _ => Allocatable spaces (spaces.vmm.resolve dir) virt count
  | .destroyDirectory dir => dir = 0 ∨ dir = spaces.vmm.kernelDir ∨ Unmapped spaces dir
  | _ => True

theorem Ledger.step (ledger : Ledger spaces ∅) (valid : UserCall spaces call)
    (lossless : Lossless spaces call) : Ledger (vmmCall spaces call) ∅ := by
  cases call with
  | createDirectory block => exact ledger.createDirectory valid
  | destroyDirectory dir => exact ledger.destroyDirectory valid lossless
  | allocPage dir virt flags =>
      have outcome := ledger.allocPage valid.1 valid.2 flags fun enough =>
        lossless.resolve_left (by omega)
      rw [vmmCall]
      generalize vmmAllocPage spaces.vmm dir virt flags = result at outcome
      cases outcome with
      | failed vmm _ ledgerAfter => exact ledgerAfter
      | done vmm _ done => exact done.ledger
  | allocPages dir virt count flags => exact ledger.allocPages valid.1 valid.2 lossless flags
  | freePages dir virt count => exact ledger.freePages valid.1
  | switchDirectory dir => exact valid.elim
  | mapPage dir virt phys flags => exact valid.elim
  | unmapPage dir virt => exact valid.elim

/-- In every run of lossless calls every frame has one owner. -/
theorem run_owned {pmm bootedPmm : Pmm} {memSize : Nat} {storage : Option Bitmap} {frameCalls : List PmmCall}
    (unset : pmm.initialized = false) (bounded : memSize < 2 ^ 32)
    (pmmDone : pmmInit pmm memSize storage = (0, bootedPmm))
    (pmmRun : Run (Stepping pmmStep) bootedPmm frameCalls vmm.pmm)
    (fresh : vmm.initialized = false) (none : vmm.taken = ∅)
    (reserved : ∀ frame < 1024, pmmIsFrameFree vmm.pmm frame = false)
    (done : vmmInit vmm block = (0, booted))
    (run : Run (Guarded (fun spaces call => UserCall spaces call ∧ Lossless spaces call) (Stepping vmmStep))
      (bootedSpaces booted) calls after) : Owned after := by
  obtain ⟨accounted, addressable⟩ := run_addressable unset bounded pmmDone pmmRun
  have initial := bootedSpaces_ledger fresh none accounted addressable reserved done
  refine (run.invariant (fun spaces => Ledger spaces ∅) ?_ initial).owned
  intro before call after ledger ⟨⟨valid, lossless⟩, step⟩
  cases step
  exact ledger.step valid lossless

theorem kernelPmm_reached : pmmInit blankPmm 0x1000000 (some fun _ => 0) = (0, sparePmm) ∧
    Run (Stepping pmmStep) sparePmm [.markRangeUsed 0 1024] kernelPmm :=
  ⟨rfl, .single (by rw [Stepping, pmmStep, pmmCall, kernelPmm])⟩

theorem kernelPmm_reserved : ∀ frame < 1024, pmmIsFrameFree kernelPmm frame = false := by
  intro frame small
  have bit := (kernelPmm_get frame).1
  refine pmmIsFrameFree_eq_false ?_
  simp [bit, small]

theorem kernelPmm_supply : 4 ≤ (supply kernelPmm).card := by
  have four : ({1024, 1025, 1026, 1027} : Finset Nat) ⊆ supply kernelPmm := by
    intro frame member
    obtain ⟨bit, total, _⟩ := kernelPmm_get frame
    have range : 1024 ≤ frame ∧ frame < 1028 := by
      simp only [Finset.mem_insert, Finset.mem_singleton] at member
      omega
    have spare : sparePmm.bitmap.get frame = false := Bitmap.get_erase (by omega : frame / 8 < 512)
    have notLow : ¬ frame < 1024 := by omega
    refine mem_supply.mpr ⟨by omega, by omega, ?_⟩
    rw [bit, spare, decide_eq_false notLow]
    rfl
  exact Finset.card_le_card four

/-- A page that is mapped over a backed one loses the frame of the latter. -/
theorem Ledger.remap_loses (ledger : Ledger spaces ∅) (valid : dir = 0 ∨ dir ∈ spaces.live)
    (backed : Backed spaces (spaces.vmm.resolve dir) virt) (enough : 0 < (supply spaces.vmm.pmm).card) :
    ¬ Owned { spaces with vmm := (vmmAllocPage spaces.vmm dir virt flags).2 } := by
  obtain ⟨lost, member, refers⟩ := backed
  obtain ⟨live, nonNull⟩ := ledger.resolve valid
  have present : spaces.vmm.table (spaces.vmm.resolve dir) (vmmDirIndex virt) ≠ 0 := refers.2.1
  rcases allocFrame_cases spaces.vmm with refused | ⟨frame, positive, inside, free, granted⟩
  · rw [ledger.supply_empty refused] at enough
    exact absurd enough (by decide)
  · have nonzero : frame ≠ 0 := by omega
    have mapped : vmmMapPage (spaces.vmm.grab frame) dir virt (frame * 4096) flags =
        (0, (spaces.vmm.grab frame).mapEntry
          (spaces.vmm.table (spaces.vmm.resolve dir) (vmmDirIndex virt)) virt
          (pageEntry (frame * 4096) flags)) := vmmMapPage_present nonNull present
    have done : (vmmAllocPage spaces.vmm dir virt flags).2 = (spaces.vmm.grab frame).mapEntry
        (spaces.vmm.table (spaces.vmm.resolve dir) (vmmDirIndex virt)) virt
        (pageEntry (frame * 4096) flags) := by
      simp only [vmmAllocPage, granted, if_neg nonzero, ledger.address inside, mapped]
    have edit : EntrySet { spaces with vmm := spaces.vmm.grab frame }
        { spaces with vmm := (spaces.vmm.grab frame).mapEntry _ virt (pageEntry (frame * 4096) flags) } _ _ _ _ :=
      mapEntry_edit (rfl : spaces.vmm.table (spaces.vmm.resolve dir) (vmmDirIndex virt) = _)
    have target : ∀ other, entryFrame (pageEntry (frame * 4096) flags) = some other →
        other ∈ (insert frame ∅ : Set Nat) := by
      intro other isTarget
      rw [entryFrame_pageEntry, Nat.mul_div_cancel _ (by decide)] at isTarget
      exact Or.inl (Option.some.inj isTarget).symm
    have after := edit.ledger (ledger.grab positive inside free) live present vmmTableIndex_lt target
    have stranded := after.unheld lost (Or.inr ⟨Finset.mem_insert_of_mem member, refers_grab.mpr refers⟩)
    rw [done]
    intro owned
    obtain ⟨ref, reference, _⟩ := owned.exactlyOne lost stranded.1
    exact stranded.2 ref reference

/-- The memory manager over a memory whose first 4 MiB are in use. -/
theorem blankVmm_booted {pmm : Pmm} (accounted : Accounted pmm) (addressable : pmm.totalFrames ≤ 2 ^ 20)
    (initialized : pmm.initialized = true) (reserved : ∀ frame < 1024, pmmIsFrameFree pmm frame = false)
    (plenty : 4 ≤ (supply pmm).card) :
    ∃ booted, vmmInit (blankVmm pmm) 0x100014 = (0, booted) ∧
      booted.kernelDir = 0x100014 ∧ Ledger (bootedSpaces booted) ∅ ∧ 3 ≤ (supply booted.pmm).card ∧
      ∀ slot, slot ≠ 0 → booted.table 0x100014 slot = 0 := by
  rcases allocFrame_cases (blankVmm pmm) with refused | ⟨frame, positive, inside, free, granted⟩
  · have empty := Frames.supply_empty accounted initialized (congrArg Prod.fst refused)
    rw [empty] at plenty
    exact absurd plenty (by decide)
  · have small : frame < 2 ^ 20 := Nat.lt_of_lt_of_le inside addressable
    have address : pmmFrameToAddr frame ≠ 0 := by
      rw [pmmFrameToAddr_small small]
      omega
    have done := vmmInit_boots (rfl : (blankVmm pmm).initialized = false) (by decide : 0x100014 ≠ 0)
      (congrArg Prod.fst granted) (by omega) address
    have supplied : (supply ((blankVmm pmm).grab frame).pmm).card + 1 = (supply pmm).card :=
      grab_supply positive inside free
    have same : (bootedVmm (blankVmm pmm) 0x100014 frame).pmm = ((blankVmm pmm).grab frame).pmm := by
      simp only [bootedVmm, granted]
    refine ⟨_, done, rfl, bootedSpaces_ledger rfl rfl accounted addressable reserved done, ?_,
      fun slot notFirst => bootedVmm_table.trans (if_neg notFirst)⟩
    rw [same]
    omega

theorem kernelPmm_booted : ∃ booted, vmmInit (blankVmm kernelPmm) 0x100014 = (0, booted) ∧
    booted.kernelDir = 0x100014 ∧ Ledger (bootedSpaces booted) ∅ ∧ 3 ≤ (supply booted.pmm).card ∧
    ∀ slot, slot ≠ 0 → booted.table 0x100014 slot = 0 := by
  have unset : blankPmm.initialized = false := rfl
  have bounded : 0x1000000 < 2 ^ 32 := by decide
  obtain ⟨accounted, addressable⟩ := run_addressable unset bounded kernelPmm_reached.1 kernelPmm_reached.2
  exact blankVmm_booted accounted addressable (kernelPmm_get 0).2.2 kernelPmm_reserved kernelPmm_supply

theorem not_backed_of_absent (absent : spaces.vmm.table dir (vmmDirIndex virt) = 0) :
    ¬ Backed spaces dir virt := fun ⟨_, _, refers⟩ => refers.2.1 absent

/-- A page is allocated in a new directory and freed again. -/
theorem run_owned_page : ∃ booted after,
    vmmInit (blankVmm kernelPmm) 0x100014 = (0, booted) ∧
      Run (Guarded (fun spaces call => UserCall spaces call ∧ Lossless spaces call) (Stepping vmmStep))
        (bootedSpaces booted)
        [.createDirectory 0x103014, .allocPage 0x103014 0x400000 7, .freePages 0x103014 0x400000 1] after ∧
      Owned after := by
  obtain ⟨booted, done, kernel, ledger, _, _⟩ := kernelPmm_booted
  have isLive (dir : Nat) : dir ∈ (bootedSpaces booted).live ↔ dir = 0x100014 := by
    rw [← kernel]
    exact Finset.mem_singleton
  have fresh : 0x103014 ∉ (bootedSpaces booted).live := fun member =>
    absurd ((isLive _).mp member) (by decide)
  have ledgerCreated := ledger.createDirectory fresh
  have kernelDir : (bootedSpaces booted).vmm.kernelDir ≠ 0 := by
    change booted.kernelDir ≠ 0
    rw [kernel]
    decide
  have created : vmmCall (bootedSpaces booted) (.createDirectory 0x103014) =
      { vmm := booted.setDirectory 0x103014 (copiedDirectory (booted.directories booted.kernelDir))
        live := insert 0x103014 (bootedSpaces booted).live } := by
    simp only [vmmCall, vmmCreateDirectory_eq (by decide : 0x103014 ≠ 0) kernelDir]
    rfl
  have live : 0x103014 ∈ (vmmCall (bootedSpaces booted) (.createDirectory 0x103014)).live := by
    rw [created]
    exact Finset.mem_insert_self _ _
  have unbacked : ¬ Backed (vmmCall (bootedSpaces booted) (.createDirectory 0x103014)) 0x103014 0x400000 := by
    refine not_backed_of_absent ?_
    rw [created, created_table, if_pos rfl]
    rfl
  have run : Run (Guarded (fun spaces call => UserCall spaces call ∧ Lossless spaces call) (Stepping vmmStep))
      (bootedSpaces booted)
      [.createDirectory 0x103014, .allocPage 0x103014 0x400000 7, .freePages 0x103014 0x400000 1] _ :=
    .cons ⟨⟨fresh, trivial⟩, rfl⟩
      (.cons ⟨⟨⟨Or.inr live, by decide⟩, Or.inr unbacked⟩, rfl⟩
        (.cons ⟨⟨⟨Or.inr live, fun i single => by
          have first : i = 0 := by omega
          rw [first]
          decide⟩, trivial⟩, rfl⟩ (.nil _)))
  have unset : blankPmm.initialized = false := rfl
  have bounded : 0x1000000 < 2 ^ 32 := by decide
  obtain ⟨memory, reached⟩ := kernelPmm_reached
  have reserved := kernelPmm_reserved
  generalize kernelPmm = pmm at done reached reserved ⊢
  exact ⟨booted, _, done, run, run_owned unset bounded memory reached rfl rfl reserved done run⟩

/-- Allocating the same page twice loses its first frame. -/
theorem alloc_page_loses : ∃ booted after,
    vmmInit (blankVmm kernelPmm) 0x100014 = (0, booted) ∧
      Run (Guarded UserCall (Stepping vmmStep)) (bootedSpaces booted)
        [.allocPage 0x100014 0x400000 7, .allocPage 0x100014 0x400000 7] after ∧
      ¬ Owned after := by
  obtain ⟨booted, done, kernel, ledger, plenty, absent⟩ := kernelPmm_booted
  have isLive : 0x100014 ∈ (bootedSpaces booted).live := kernel ▸ ledger.kernel
  have isDir (vmm : Vmm) : vmm.resolve 0x100014 = 0x100014 := resolve_self (by decide)
  have missing : booted.table 0x100014 (vmmDirIndex 0x400000) = 0 := absent 1 (by decide)
  have run : Run (Guarded UserCall (Stepping vmmStep)) (bootedSpaces booted)
      [.allocPage 0x100014 0x400000 7, .allocPage 0x100014 0x400000 7] _ :=
    .cons ⟨⟨Or.inr isLive, by decide⟩, rfl⟩ (.cons ⟨⟨Or.inr isLive, by decide⟩, rfl⟩ (.nil _))
  refine ⟨booted, _, done, run, ?_⟩
  have first := ledger.allocPage (Or.inr isLive) (by decide : 0x400000 < kernelSpaceStart) 7 fun _ => by
    rw [isDir]
    exact not_backed_of_absent missing
  rw [isDir] at first
  rw [vmmCall, vmmCall]
  change ¬ Owned { bootedSpaces booted with
    vmm := (vmmAllocPage (vmmAllocPage booted 0x100014 0x400000 7).2 0x100014 0x400000 7).2 }
  change PageOutcome _ _ _ (vmmAllocPage booted 0x100014 0x400000 7) at first
  have need : pageNeed booted 0x100014 0x400000 = 2 := if_neg (not_not.mpr missing)
  generalize vmmAllocPage booted 0x100014 0x400000 7 = outcome at first ⊢
  cases first with
  | failed vmm scarce _ =>
      change (supply booted.pmm).card < pageNeed booted 0x100014 0x400000 at scarce
      omega
  | done vmm supplied mapped =>
      change (supply vmm.pmm).card + pageNeed booted 0x100014 0x400000 = (supply booted.pmm).card at supplied
      have backed : Backed { bootedSpaces booted with vmm } (vmm.resolve 0x100014) 0x400000 := by
        rw [isDir]
        exact mapped.backed
      exact mapped.ledger.remap_loses (Or.inr isLive) backed (by
        change 0 < (supply vmm.pmm).card
        omega)

end AutismOS.VirtualMemory
