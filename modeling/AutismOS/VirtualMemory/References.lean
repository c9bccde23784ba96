import AutismOS.Frames.Ownership
import AutismOS.VirtualMemory.Calls

namespace AutismOS.VirtualMemory

open AutismOS.Library AutismOS.Frames

/-! # Who refers to a frame

Directories refer to the frames of their page tables, and page tables to the
frames of their pages.  The ledger relates these references to the frames that
were taken from the frame allocator.
-/

/-- A slot of a directory, or an entry of the page table in a slot. -/
inductive Ref where
  | table (dir slot : Nat)
  | page (dir slot index : Nat)
deriving DecidableEq

def Ref.dir : Ref → Nat
  | .table dir _ => dir
  | .page dir _ _ => dir

/-- The frame that a page table entry refers to, if it is present. -/
def entryFrame (entry : Nat) : Option Nat := (entryPage entry).map pmmAddrToFrame

/-- A reference of a live directory to a frame. -/
def Refers (spaces : Spaces) : Ref → Nat → Prop
  | .table dir slot, frame =>
      dir ∈ spaces.live ∧ spaces.vmm.table dir slot ≠ 0 ∧
        pmmAddrToFrame (spaces.vmm.table dir slot) = frame
  | .page dir slot index, frame =>
      dir ∈ spaces.live ∧ spaces.vmm.table dir slot ≠ 0 ∧ index < 1024 ∧
        entryFrame (spaces.vmm.pageTables (spaces.vmm.table dir slot) index) = some frame

variable {vmm vmm' : Vmm} {spaces before after : Spaces} {loose : Set Nat} {ref other : Ref}
variable {dir slot index frame table virt phys flags entry : Nat}

theorem Refers.live (refers : Refers spaces ref frame) : ref.dir ∈ spaces.live := by
  cases ref with
  | table => exact refers.1
  | page => exact refers.1

/-- References depend on the live directories and their tables only. -/
theorem refers_congr (directories : vmm'.directories = vmm.directories)
    (pages : vmm'.pageTables = vmm.pageTables) {live : Finset Nat} :
    Refers ⟨vmm', live⟩ ref frame ↔ Refers ⟨vmm, live⟩ ref frame := by
  cases ref <;> simp only [Refers, Vmm.table, directories, pages]

@[simp] theorem entryFrame_zero : entryFrame 0 = none := rfl

theorem entryFrame_pageEntry : entryFrame (pageEntry phys flags) = some (phys / 4096) := by
  rw [entryFrame, entryPage, if_neg pageEntry_present, pageEntry_page, Option.map_some, pmmAddrToFrame,
    pageMask_div]

/-- Every frame that was taken is accounted for by one reference, except for the
`loose` ones, to which nothing refers. -/
structure Ledger (spaces : Spaces) (loose : Set Nat) : Prop where
  kernel : spaces.vmm.kernelDir ∈ spaces.live
  current : spaces.vmm.currentDir = spaces.vmm.kernelDir
  nonNull : 0 ∉ spaces.live
  initialized : spaces.vmm.pmm.initialized = true
  accounted : Accounted spaces.vmm.pmm
  addressable : spaces.vmm.pmm.totalFrames ≤ 2 ^ 20
  high : ∀ dir ∈ spaces.live, ∀ slot, 768 ≤ slot → spaces.vmm.table dir slot = 0
  tables : ∀ dir ∈ spaces.live, ∀ slot, spaces.vmm.table dir slot ≠ 0 →
    ∃ frame ∈ spaces.vmm.taken, spaces.vmm.table dir slot = frame * 4096
  marked : ∀ frame ∈ spaces.vmm.taken, 0 < frame ∧ frame < spaces.vmm.pmm.totalFrames ∧
    spaces.vmm.pmm.bitmap.get frame = true
  used : ∀ ref frame, Refers spaces ref frame → pmmIsFrameFree spaces.vmm.pmm frame = false
  unique : ∀ ref other frame, Refers spaces ref frame → Refers spaces other frame → ref = other
  held : ∀ frame ∈ spaces.vmm.taken, frame ∉ loose → ∃ ref, Refers spaces ref frame
  unheld : ∀ frame ∈ loose, frame ∈ spaces.vmm.taken ∧ ∀ ref, ¬ Refers spaces ref frame

theorem pmmIsFrameFree_eq_false {pmm : Pmm} (marked : pmm.bitmap.get frame = true) :
    pmmIsFrameFree pmm frame = false := by
  simp [pmmIsFrameFree, marked]

theorem pmmIsFrameFree_of_free {pmm : Pmm} (inside : frame < pmm.totalFrames)
    (free : pmm.bitmap.get frame = false) : pmmIsFrameFree pmm frame = true := by
  have notBeyond : ¬ frame ≥ pmm.totalFrames := by omega
  simp [pmmIsFrameFree, notBeyond, free]

/-- The state after a frame was taken. -/
def Vmm.grab (vmm : Vmm) (frame : Nat) : Vmm :=
  { vmm with
    pmm := grabbed vmm.pmm frame 1
    taken := insert frame vmm.taken }

theorem get_grab : (vmm.grab frame).pmm.bitmap.get index =
    (decide (index = frame) || vmm.pmm.bitmap.get index) := get_grabbed_one

theorem allocFrame_cases (vmm : Vmm) :
    vmm.allocFrame = (0, vmm) ∨
      ∃ frame, 0 < frame ∧ frame < vmm.pmm.totalFrames ∧ vmm.pmm.bitmap.get frame = false ∧
        vmm.allocFrame = (frame, vmm.grab frame) := by
  have grant := pmmAllocFrame_grant vmm.pmm
  generalize isOutcome : pmmAllocFrame vmm.pmm = outcome at grant
  cases grant with
  | refused =>
      refine Or.inl ?_
      simp [Vmm.allocFrame, isOutcome]
  | granted frame positive inside free =>
      refine Or.inr ⟨frame, positive, by omega, free frame (Nat.le_refl _) (by omega), ?_⟩
      have nonzero : frame ≠ 0 := by omega
      simp [Vmm.allocFrame, isOutcome, nonzero, Vmm.grab]

theorem Ledger.grab (ledger : Ledger spaces loose) (positive : 0 < frame)
    (inside : frame < spaces.vmm.pmm.totalFrames) (free : spaces.vmm.pmm.bitmap.get frame = false) :
    Ledger { spaces with vmm := spaces.vmm.grab frame } (insert frame loose) := by
  have keeps (other : Nat) (marked : spaces.vmm.pmm.bitmap.get other = true) :
      (grabbed spaces.vmm.pmm frame 1).bitmap.get other = true := by
    rw [get_grabbed_one, marked, Bool.or_true]
  have unreferenced (ref : Ref) : ¬ Refers spaces ref frame := fun refers => by
    have isUsed := ledger.used ref frame refers
    rw [pmmIsFrameFree_of_free inside free] at isUsed
    cases isUsed
  refine { ledger with
    accounted := ?accounted, tables := ?tables, marked := ?marked, used := ?used, held := ?held
    unheld := ?unheld, unique := ledger.unique }
  case accounted => exact ledger.accounted.grabbed_one inside free
  case tables =>
    intro dir live slot present
    obtain ⟨target, member, same⟩ := ledger.tables dir live slot present
    exact ⟨target, Finset.mem_insert_of_mem member, same⟩
  case marked =>
    intro other member
    rcases Finset.mem_insert.mp member with same | before
    · subst same
      refine ⟨positive, inside, ?_⟩
      simp [get_grab]
    · obtain ⟨positive, inside, marked⟩ := ledger.marked other before
      exact ⟨positive, inside, keeps other marked⟩
  case used =>
    intro ref other refers
    have before := ledger.used ref other refers
    by_cases beyond : spaces.vmm.pmm.totalFrames ≤ other
    · simp [Vmm.grab, pmmIsFrameFree, grabbed, beyond]
    · refine pmmIsFrameFree_eq_false (keeps other ?_)
      have notBeyond : ¬ other ≥ spaces.vmm.pmm.totalFrames := by omega
      simpa [pmmIsFrameFree, notBeyond] using before
  case held =>
    intro other member notLoose
    rcases Finset.mem_insert.mp member with same | before
    · exact absurd (Set.mem_insert_iff.mpr (Or.inl same)) notLoose
    · exact ledger.held other before fun isLoose => notLoose (Set.mem_insert_of_mem _ isLoose)
  case unheld =>
    intro other member
    rcases Set.mem_insert_iff.mp member with same | before
    · subst same
      exact ⟨Finset.mem_insert_self _ _, unreferenced⟩
    · obtain ⟨taken, unreferenced⟩ := ledger.unheld other before
      exact ⟨Finset.mem_insert_of_mem taken, unreferenced⟩

/-- A frame to which nothing refers can be given back. -/
theorem Ledger.freeFrame (ledger : Ledger spaces loose) (unreferenced : ∀ ref, ¬ Refers spaces ref frame) :
    Ledger { spaces with vmm := spaces.vmm.freeFrame frame } (loose \ {frame}) := by
  have total : (pmmFreeFrame spaces.vmm.pmm frame).totalFrames = spaces.vmm.pmm.totalFrames :=
    pmmMarkFree_totalFrames
  have keeps (other : Nat) (different : other ≠ frame) :
      (pmmFreeFrame spaces.vmm.pmm frame).bitmap.get other = spaces.vmm.pmm.bitmap.get other :=
    pmmMarkFree_keeps different
  have initialized : (pmmFreeFrame spaces.vmm.pmm frame).initialized = true := by
    rcases pmmMarkFree_cases spaces.vmm.pmm frame with same | ⟨_, _, freed⟩
    · rw [pmmFreeFrame, same]
      exact ledger.initialized
    · rw [pmmFreeFrame, freed]
      exact ledger.initialized
  refine { ledger with
    initialized, accounted := ledger.accounted.markFree frame, addressable := ?addressable, tables := ?tables
    marked := ?marked, used := ?used, held := ?held, unheld := ?unheld, unique := ledger.unique }
  case addressable => exact total ▸ ledger.addressable
  case tables =>
    intro dir live slot present
    obtain ⟨target, member, same⟩ := ledger.tables dir live slot present
    refine ⟨target, Finset.mem_erase.mpr ⟨fun isFrame => ?_, member⟩, same⟩
    refine unreferenced (.table dir slot) ⟨live, present, ?_⟩
    change spaces.vmm.table dir slot = _ at same
    rw [same, ← isFrame]
    exact Nat.mul_div_cancel _ (by decide)
  case marked =>
    intro other member
    obtain ⟨different, before⟩ := Finset.mem_erase.mp member
    obtain ⟨positive, inside, marked⟩ := ledger.marked other before
    exact ⟨positive, total.symm ▸ inside, (keeps other different).trans marked⟩
  case used =>
    intro ref other refers
    have different : other ≠ frame := fun same => unreferenced ref (same ▸ refers)
    have before := ledger.used ref other refers
    simp only [pmmIsFrameFree, Vmm.freeFrame, total, keeps other different] at before ⊢
    exact before
  case held =>
    intro other member notLoose
    obtain ⟨different, before⟩ := Finset.mem_erase.mp member
    exact ledger.held other before fun isLoose => notLoose ⟨isLoose, different⟩
  case unheld =>
    intro other freed
    obtain ⟨isLoose, different⟩ := freed
    obtain ⟨taken, unreferenced⟩ := ledger.unheld other isLoose
    exact ⟨Finset.mem_erase.mpr ⟨different, taken⟩, unreferenced⟩

/-- The frames of the loose list after one reference was redirected to one of them. -/
def redirected (before after : Spaces) (loose : Set Nat) (ref : Ref) : Set Nat :=
  {frame | frame ∈ loose ∧ ¬ Refers after ref frame ∨ frame ∈ before.vmm.taken ∧ Refers before ref frame}

/-- The frame allocator and the directories that exist are the same. -/
structure SameGround (before after : Spaces) : Prop where
  live : after.live = before.live
  kernelDir : after.vmm.kernelDir = before.vmm.kernelDir
  currentDir : after.vmm.currentDir = before.vmm.currentDir
  pmm : after.vmm.pmm = before.vmm.pmm
  taken : after.vmm.taken = before.vmm.taken

theorem Ledger.redirect (ledger : Ledger before loose) (ref : Ref) (ground : SameGround before after)
    (high : ∀ dir ∈ after.live, ∀ slot, 768 ≤ slot → after.vmm.table dir slot = 0)
    (tables : ∀ dir ∈ after.live, ∀ slot, after.vmm.table dir slot ≠ 0 →
      ∃ frame ∈ after.vmm.taken, after.vmm.table dir slot = frame * 4096)
    (others : ∀ other frame, other ≠ ref → (Refers after other frame ↔ Refers before other frame))
    (fromLoose : ∀ frame, Refers after ref frame → frame ∈ loose) :
    Ledger after (redirected before after loose ref) := by
  obtain ⟨live, kernelDir, currentDir, pmm, taken⟩ := ground
  have apart (other : Ref) (frame : Nat) (new : Refers after ref frame) (refers : Refers after other frame) :
      other = ref := by
    by_contra different
    exact (ledger.unheld frame (fromLoose frame new)).2 other ((others other frame different).mp refers)
  refine ⟨?kernel, ?current, ?nonNull, ?initialized, ?accounted, ?addressable, high, tables, ?marked, ?used,
    ?unique, ?held, ?unheld⟩
  case kernel => exact kernelDir ▸ live ▸ ledger.kernel
  case current => exact currentDir.trans (ledger.current.trans kernelDir.symm)
  case nonNull => exact live ▸ ledger.nonNull
  case initialized => exact pmm ▸ ledger.initialized
  case accounted => exact pmm ▸ ledger.accounted
  case addressable => exact pmm ▸ ledger.addressable
  case marked =>
    rw [taken, pmm]
    exact ledger.marked
  case used =>
    intro other frame refers
    rw [pmm]
    by_cases same : other = ref
    · subst same
      obtain ⟨member, _⟩ := ledger.unheld frame (fromLoose frame refers)
      exact pmmIsFrameFree_eq_false (ledger.marked frame member).2.2
    · exact ledger.used other frame ((others other frame same).mp refers)
  case unique =>
    intro left right frame refersLeft refersRight
    by_cases isLeft : left = ref
    · subst isLeft
      exact (apart right frame refersLeft refersRight).symm
    · by_cases isRight : right = ref
      · subst isRight
        exact apart left frame refersRight refersLeft
      · exact ledger.unique left right frame ((others left frame isLeft).mp refersLeft)
          ((others right frame isRight).mp refersRight)
  case held =>
    intro frame member kept
    rw [taken] at member
    by_cases isLoose : frame ∈ loose
    · exact ⟨ref, by_contra fun unused => kept (Or.inl ⟨isLoose, unused⟩)⟩
    · obtain ⟨other, refers⟩ := ledger.held frame member isLoose
      have different : other ≠ ref := fun same => kept (Or.inr ⟨member, same ▸ refers⟩)
      exact ⟨other, (others other frame different).mpr refers⟩
  case unheld =>
    intro frame either
    rcases either with ⟨isLoose, unused⟩ | ⟨member, old⟩
    · obtain ⟨member, unreferenced⟩ := ledger.unheld frame isLoose
      refine ⟨taken ▸ member, fun other refers => ?_⟩
      by_cases same : other = ref
      · exact unused (same ▸ refers)
      · exact unreferenced other ((others other frame same).mp refers)
    · refine ⟨taken ▸ member, fun other refers => ?_⟩
      by_cases same : other = ref
      · subst same
        exact (ledger.unheld frame (fromLoose frame refers)).2 other old
      · exact same (ledger.unique other ref frame ((others other frame same).mp refers) old)

/-- Only one slot of one directory has a page table. -/
theorem Ledger.sole {slot' dir' : Nat} (ledger : Ledger spaces loose) (live : dir ∈ spaces.live)
    (present : spaces.vmm.table dir slot ≠ 0) (live' : dir' ∈ spaces.live)
    (same : spaces.vmm.table dir' slot' = spaces.vmm.table dir slot) : dir' = dir ∧ slot' = slot := by
  have refers : Refers spaces (.table dir slot) (pmmAddrToFrame (spaces.vmm.table dir slot)) :=
    ⟨live, present, rfl⟩
  have refers' : Refers spaces (.table dir' slot') (pmmAddrToFrame (spaces.vmm.table dir slot)) :=
    ⟨live', same ▸ present, by rw [same]⟩
  have isRef := ledger.unique _ _ _ refers' refers
  cases isRef
  exact ⟨rfl, rfl⟩

/-- The state differs in one page table entry. -/
structure EntrySet (before after : Spaces) (dir slot index value : Nat) : Prop where
  ground : SameGround before after
  directories : after.vmm.directories = before.vmm.directories
  pages : after.vmm.pageTables = Function.update before.vmm.pageTables (before.vmm.table dir slot)
    (Function.update (before.vmm.pageTables (before.vmm.table dir slot)) index value)

theorem EntrySet.sameTable {value slot' dir' : Nat} (edit : EntrySet before after dir slot index value) :
    after.vmm.table dir' slot' = before.vmm.table dir' slot' := by
  rw [Vmm.table, edit.directories, Vmm.table]

theorem EntrySet.refers_same {value : Nat} (edit : EntrySet before after dir slot index value)
    (live : dir ∈ before.live) (present : before.vmm.table dir slot ≠ 0) (inside : index < 1024) :
    Refers after (.page dir slot index) frame ↔ entryFrame value = some frame := by
  simp only [Refers, edit.ground.live, edit.sameTable, edit.pages, Function.update_self, live, present, inside,
    true_and, ne_eq, not_false_eq_true]

theorem EntrySet.refers_other {value : Nat} (edit : EntrySet before after dir slot index value)
    (ledger : Ledger before loose) (live : dir ∈ before.live) (present : before.vmm.table dir slot ≠ 0)
    (different : other ≠ .page dir slot index) :
    Refers after other frame ↔ Refers before other frame := by
  cases other with
  | table dir' slot' => simp only [Refers, edit.ground.live, edit.sameTable]
  | page dir' slot' index' =>
      simp only [Refers, edit.ground.live, edit.sameTable, edit.pages]
      refine and_congr_right fun live' => and_congr_right fun present' => and_congr_right fun _ => ?_
      by_cases same : before.vmm.table dir' slot' = before.vmm.table dir slot
      · obtain ⟨rfl, rfl⟩ := ledger.sole live present live' same
        have notIndex : index' ≠ index := fun isIndex => different (isIndex ▸ rfl)
        rw [Function.update_self, Function.update_of_ne notIndex]
      · rw [Function.update_of_ne same]

theorem EntrySet.ledger {value : Nat} (edit : EntrySet before after dir slot index value)
    (ledger : Ledger before loose) (live : dir ∈ before.live) (present : before.vmm.table dir slot ≠ 0)
    (inside : index < 1024) (fromLoose : ∀ frame, entryFrame value = some frame → frame ∈ loose) :
    Ledger after (redirected before after loose (.page dir slot index)) := by
  refine ledger.redirect _ edit.ground ?_ ?_
    (fun other frame different => edit.refers_other ledger live present different)
    fun frame refers => fromLoose frame ((edit.refers_same live present inside).mp refers)
  · intro dir' live' slot' above
    rw [edit.sameTable]
    exact ledger.high dir' (edit.ground.live ▸ live') slot' above
  · intro dir' live' slot' present'
    rw [edit.sameTable] at present' ⊢
    rw [edit.ground.taken]
    exact ledger.tables dir' (edit.ground.live ▸ live') slot' present'

theorem mapEntry_edit (isTable : before.vmm.table dir slot = table) :
    EntrySet before { before with vmm := before.vmm.mapEntry table virt entry } dir slot
      (vmmTableIndex virt) entry := by
  subst isTable
  exact ⟨⟨rfl, rfl, rfl, rfl, rfl⟩, rfl, rfl⟩

theorem unmapEntry_edit (isTable : before.vmm.table dir slot = table) :
    EntrySet before { before with vmm := before.vmm.unmapEntry table virt } dir slot
      (vmmTableIndex virt) 0 := by
  subst isTable
  obtain ⟨stats, same⟩ := unmapEntry_eq before.vmm (before.vmm.table dir slot) virt
  rw [same]
  exact ⟨⟨rfl, rfl, rfl, rfl, rfl⟩, rfl, rfl⟩

theorem refers_enter_same (live : dir ∈ spaces.live) (nonNull : table ≠ 0) :
    Refers { spaces with vmm := spaces.vmm.enter dir slot table } (.table dir slot) frame ↔
      pmmAddrToFrame table = frame := by
  simp only [Refers, enter_table_same, live, nonNull, ne_eq, not_false_eq_true, true_and]

theorem refers_enter_other (absent : spaces.vmm.table dir slot = 0)
    (unused : ∀ dir' ∈ spaces.live, ∀ slot', spaces.vmm.table dir' slot' ≠ table)
    (different : other ≠ .table dir slot) :
    Refers { spaces with vmm := spaces.vmm.enter dir slot table } other frame ↔ Refers spaces other frame := by
  cases other with
  | table dir' slot' =>
      have notSlot : ¬ (dir' = dir ∧ slot' = slot) := fun ⟨isDir, isSlot⟩ => different (isDir ▸ isSlot ▸ rfl)
      simp only [Refers, enter_table, if_neg notSlot]
  | page dir' slot' index' =>
      have pages : (spaces.vmm.enter dir slot table).pageTables =
          Function.update spaces.vmm.pageTables table fun _ => 0 := rfl
      simp only [Refers, enter_table, pages]
      refine and_congr_right fun live' => ?_
      by_cases isSlot : dir' = dir ∧ slot' = slot
      · obtain ⟨rfl, rfl⟩ := isSlot
        simp [absent]
      · simp only [if_neg isSlot, Function.update_of_ne (unused dir' live' slot')]

/-- A loose frame becomes a page table. -/
theorem Ledger.enter (ledger : Ledger spaces loose) (live : dir ∈ spaces.live) (low : slot < 768)
    (absent : spaces.vmm.table dir slot = 0) (isLoose : frame ∈ loose) :
    Ledger { spaces with vmm := spaces.vmm.enter dir slot (frame * 4096) } (loose \ {frame}) := by
  obtain ⟨member, unreferenced⟩ := ledger.unheld frame isLoose
  have positive := (ledger.marked frame member).1
  have address : pmmAddrToFrame (frame * 4096) = frame := Nat.mul_div_cancel _ (by decide)
  have nonNull : frame * 4096 ≠ 0 := by omega
  have unused : ∀ dir' ∈ spaces.live, ∀ slot', spaces.vmm.table dir' slot' ≠ frame * 4096 :=
    fun dir' live' slot' same =>
      unreferenced (.table dir' slot') ⟨live', same ▸ nonNull, by rw [same, address]⟩
  have ground : SameGround spaces { spaces with vmm := spaces.vmm.enter dir slot (frame * 4096) } :=
    ⟨rfl, rfl, rfl, rfl, rfl⟩
  have entered := ledger.redirect (.table dir slot) ground ?high ?tables
    (fun other target different => refers_enter_other absent unused different) ?fromLoose
  case high =>
    intro dir' live' slot' above
    have notSlot : ¬ (dir' = dir ∧ slot' = slot) := fun ⟨_, isSlot⟩ => by omega
    rw [enter_table, if_neg notSlot]
    exact ledger.high dir' live' slot' above
  case tables =>
    intro dir' live' slot' present
    rw [enter_table] at present ⊢
    by_cases isSlot : dir' = dir ∧ slot' = slot
    · rw [if_pos isSlot]
      exact ⟨frame, member, rfl⟩
    · rw [if_neg isSlot] at present ⊢
      exact ledger.tables dir' live' slot' present
  case fromLoose =>
    intro target refers
    have isFrame := (refers_enter_same live nonNull).mp refers
    rwa [← isFrame, address]
  have same : redirected spaces { spaces with vmm := spaces.vmm.enter dir slot (frame * 4096) } loose
      (.table dir slot) = loose \ {frame} := by
    ext target
    constructor
    · intro either
      rcases either with ⟨isLoose, unused⟩ | ⟨_, _, present, _⟩
      · refine ⟨isLoose, fun isFrame => unused ((refers_enter_same live nonNull).mpr ?_)⟩
        rw [address, isFrame]
      · exact absurd absent present
    · intro ⟨isLoose, different⟩
      refine Or.inl ⟨isLoose, fun refers => different ?_⟩
      have isFrame := (refers_enter_same live nonNull).mp refers
      rw [address] at isFrame
      exact isFrame.symm
  rw [same] at entered
  exact entered

end AutismOS.VirtualMemory
