import AutismOS.Frames.Supply
import AutismOS.VirtualMemory.References

namespace AutismOS.VirtualMemory

open AutismOS.Library AutismOS.Frames

variable {vmm : Vmm} {spaces before after : Spaces} {loose : Set Nat} {ref : Ref}
variable {dir slot index frame table virt flags count first mapped : Nat}

/-- The entry of the page that holds an address. -/
def pageRef (dir virt : Nat) : Ref := .page dir (vmmDirIndex virt) (vmmTableIndex virt)

/-- The page is mapped to a frame that the memory manager holds. -/
def Backed (spaces : Spaces) (dir virt : Nat) : Prop :=
  ∃ frame ∈ spaces.vmm.taken, Refers spaces (pageRef dir virt) frame

theorem Ledger.resolve (ledger : Ledger spaces loose) (valid : dir = 0 ∨ dir ∈ spaces.live) :
    spaces.vmm.resolve dir ∈ spaces.live ∧ spaces.vmm.resolve dir ≠ 0 := by
  have live : spaces.vmm.resolve dir ∈ spaces.live := by
    rcases valid with null | live
    · rw [null, Vmm.resolve, if_pos rfl, ledger.current]
      exact ledger.kernel
    · rw [resolve_self fun null => ledger.nonNull (null ▸ live)]
      exact live
  exact ⟨live, fun null => ledger.nonNull (null ▸ live)⟩

theorem vmmDirIndex_low (low : virt < kernelSpaceStart) : vmmDirIndex virt < 768 := by
  unfold vmmDirIndex
  unfold kernelSpaceStart at low
  omega

theorem vmmTableIndex_lt : vmmTableIndex virt < 1024 := Nat.mod_lt _ (by decide)

theorem Ledger.supply_empty (ledger : Ledger spaces loose) (failed : spaces.vmm.allocFrame = (0, spaces.vmm)) :
    supply spaces.vmm.pmm = ∅ :=
  Frames.supply_empty ledger.accounted ledger.initialized (congrArg Prod.fst failed)

theorem Ledger.address (ledger : Ledger spaces loose) (inside : frame < spaces.vmm.pmm.totalFrames) :
    pmmFrameToAddr frame = frame * 4096 :=
  pmmFrameToAddr_small (inside.trans_le ledger.addressable)

/-- What mapping a fresh frame at a page of `dir` does. -/
structure PageMapped (before after : Spaces) (dir virt : Nat) : Prop where
  ledger : Ledger after ∅
  live : after.live = before.live
  kernelDir : after.vmm.kernelDir = before.vmm.kernelDir
  currentDir : after.vmm.currentDir = before.vmm.currentDir
  present : after.vmm.table dir (vmmDirIndex virt) ≠ 0
  tables : ∀ slot, slot ≠ vmmDirIndex virt → after.vmm.table dir slot = before.vmm.table dir slot
  refers : ∀ ref frame, ref ≠ pageRef dir virt → ref ≠ .table dir (vmmDirIndex virt) →
    Refers after ref frame → Refers before ref frame
  taken : ∀ frame ∈ after.vmm.taken, frame ∈ before.vmm.taken ∨ ∀ ref, ¬ Refers before ref frame
  backed : Backed after dir virt

/-- The only loose frame is mapped at a page that is backed by no frame. -/
theorem EntrySet.maps (edit : EntrySet before after dir (vmmDirIndex virt) (vmmTableIndex virt)
      (pageEntry (frame * 4096) flags))
    (ledger : Ledger before loose) (live : dir ∈ before.live)
    (present : before.vmm.table dir (vmmDirIndex virt) ≠ 0)
    (isLoose : frame ∈ loose) (only : ∀ other ∈ loose, other = frame) (unbacked : ¬ Backed before dir virt) :
    Ledger after ∅ := by
  have target : entryFrame (pageEntry (frame * 4096) flags) = some frame := by
    rw [entryFrame_pageEntry, Nat.mul_div_cancel _ (by decide)]
  have mapped := edit.ledger ledger live present vmmTableIndex_lt fun other isTarget => by
    rw [target] at isTarget
    exact Option.some.inj isTarget ▸ isLoose
  have none : redirected before after loose (.page dir (vmmDirIndex virt) (vmmTableIndex virt)) = ∅ := by
    refine Set.eq_empty_of_forall_notMem fun other either => ?_
    rcases either with ⟨isLoose, unused⟩ | ⟨taken, refers⟩
    · refine unused ((edit.refers_same live present vmmTableIndex_lt).mpr ?_)
      rw [target, only other isLoose]
    · exact unbacked ⟨other, taken, refers⟩
  exact none ▸ mapped

/-- The frames that a page needs: one for itself, and one for its page table if it is missing. -/
def pageNeed (vmm : Vmm) (dir virt : Nat) : Nat := if vmm.table dir (vmmDirIndex virt) ≠ 0 then 1 else 2

/-- What allocating a page can do. -/
inductive PageOutcome (before : Spaces) (dir virt : Nat) : Int × Vmm → Prop where
  | failed (vmm : Vmm) : (supply before.vmm.pmm).card < pageNeed before.vmm dir virt →
      Ledger { before with vmm } ∅ → PageOutcome before dir virt (-1, vmm)
  | done (vmm : Vmm) :
      (supply vmm.pmm).card + pageNeed before.vmm dir virt = (supply before.vmm.pmm).card →
      PageMapped before { before with vmm } dir virt → PageOutcome before dir virt (0, vmm)

theorem grab_supply (positive : 0 < frame) (inside : frame < vmm.pmm.totalFrames)
    (free : vmm.pmm.bitmap.get frame = false) :
    (supply (vmm.grab frame).pmm).card + 1 = (supply vmm.pmm).card :=
  card_supply_grabbed (mem_supply.mpr ⟨positive, inside, free⟩)

/-- The page table in a slot of `dir` is in place, and fresh frames were taken. -/
structure Prepared (before after : Spaces) (dir slot : Nat) : Prop where
  live : after.live = before.live
  kernelDir : after.vmm.kernelDir = before.vmm.kernelDir
  currentDir : after.vmm.currentDir = before.vmm.currentDir
  present : after.vmm.table dir slot ≠ 0
  tables : ∀ other, other ≠ slot → after.vmm.table dir other = before.vmm.table dir other
  refers : ∀ ref frame, ref ≠ .table dir slot → Refers after ref frame → Refers before ref frame
  taken : ∀ frame ∈ after.vmm.taken, frame ∈ before.vmm.taken ∨ ∀ ref, ¬ Refers before ref frame

theorem Prepared.unbacked (prepared : Prepared before after dir slot) (unbacked : ¬ Backed before dir virt) :
    ¬ Backed after dir virt := by
  intro ⟨frame, member, refers⟩
  have old := prepared.refers _ frame (by simp [pageRef]) refers
  rcases prepared.taken frame member with held | fresh
  · exact unbacked ⟨frame, held, old⟩
  · exact fresh _ old

theorem Prepared.maps {middle : Spaces} (prepared : Prepared before middle dir (vmmDirIndex virt))
    (edit : EntrySet middle after dir (vmmDirIndex virt) (vmmTableIndex virt) (pageEntry (frame * 4096) flags))
    (ledger : Ledger middle loose) (live : dir ∈ before.live) (isLoose : frame ∈ loose)
    (only : ∀ other ∈ loose, other = frame) (unbacked : ¬ Backed before dir virt) :
    PageMapped before after dir virt := by
  have liveMiddle : dir ∈ middle.live := prepared.live ▸ live
  refine ⟨edit.maps ledger liveMiddle prepared.present isLoose only (prepared.unbacked unbacked),
    edit.ground.live.trans prepared.live, edit.ground.kernelDir.trans prepared.kernelDir,
    edit.ground.currentDir.trans prepared.currentDir, ?_, ?_, ?_, ?_, ?_⟩
  · rw [edit.sameTable]
    exact prepared.present
  · intro slot different
    rw [edit.sameTable]
    exact prepared.tables slot different
  · intro ref target notPage notTable refers
    exact prepared.refers ref target notTable
      ((edit.refers_other ledger liveMiddle prepared.present notPage).mp refers)
  · intro target member
    rw [edit.ground.taken] at member
    exact prepared.taken target member
  · have target : entryFrame (pageEntry (frame * 4096) flags) = some frame := by
      rw [entryFrame_pageEntry, Nat.mul_div_cancel _ (by decide)]
    exact ⟨frame, edit.ground.taken ▸ (ledger.unheld frame isLoose).1,
      (edit.refers_same liveMiddle prepared.present vmmTableIndex_lt).mpr target⟩

theorem refers_grab {live : Finset Nat} : Refers ⟨vmm.grab frame, live⟩ ref index ↔ Refers ⟨vmm, live⟩ ref index :=
  refers_congr rfl rfl

theorem Ledger.unreferenced (ledger : Ledger spaces loose) (inside : frame < spaces.vmm.pmm.totalFrames)
    (free : spaces.vmm.pmm.bitmap.get frame = false) (ref : Ref) : ¬ Refers spaces ref frame := by
  intro refers
  have isUsed := ledger.used ref frame refers
  rw [pmmIsFrameFree_of_free inside free] at isUsed
  cases isUsed

/-- A frame was taken for the page, whose table exists. -/
theorem Ledger.prepared_present (ledger : Ledger spaces loose)
    (present : spaces.vmm.table dir slot ≠ 0) (inside : frame < spaces.vmm.pmm.totalFrames)
    (free : spaces.vmm.pmm.bitmap.get frame = false) :
    Prepared spaces { spaces with vmm := spaces.vmm.grab frame } dir slot := by
  refine ⟨rfl, rfl, rfl, present, fun _ _ => rfl, fun ref target _ refers => refers_grab.mp refers,
    fun target member => ?_⟩
  rcases Finset.mem_insert.mp member with same | held
  · exact Or.inr (same ▸ ledger.unreferenced inside free)
  · exact Or.inl held

/-- A second frame became the page table. -/
theorem Ledger.prepared_absent {second : Nat} (ledger : Ledger spaces loose)
    (absent : spaces.vmm.table dir slot = 0)
    (inside : frame < spaces.vmm.pmm.totalFrames) (free : spaces.vmm.pmm.bitmap.get frame = false)
    (positive : 0 < second) (insideToo : second < spaces.vmm.pmm.totalFrames)
    (freeToo : spaces.vmm.pmm.bitmap.get second = false) :
    Prepared spaces { spaces with vmm := ((spaces.vmm.grab frame).grab second).enter dir slot (second * 4096) }
      dir slot := by
  have unused : ∀ dir' ∈ spaces.live, ∀ slot', spaces.vmm.table dir' slot' ≠ second * 4096 := by
    intro dir' live' slot' same
    have nonNull : second * 4096 ≠ 0 := by omega
    refine ledger.unreferenced insideToo freeToo (.table dir' slot') ⟨live', same ▸ nonNull, ?_⟩
    rw [same]
    exact Nat.mul_div_cancel _ (by decide)
  refine ⟨rfl, rfl, rfl, ?_, fun other different => ?_, fun ref target notTable refers => ?_,
    fun target member => ?_⟩
  · rw [enter_table_same]
    omega
  · exact enter_table_slot different
  · have entered : Refers ⟨(spaces.vmm.grab frame).grab second, spaces.live⟩ ref target :=
      (refers_enter_other absent unused notTable).mp refers
    exact refers_grab.mp (refers_grab.mp entered)
  · rcases Finset.mem_insert.mp member with same | taken
    · exact Or.inr (same ▸ ledger.unreferenced insideToo freeToo)
    · rcases Finset.mem_insert.mp taken with same | held
      · exact Or.inr (same ▸ ledger.unreferenced inside free)
      · exact Or.inl held

/-- The end of `vmm_alloc_page`: a frame that could not be mapped is given back. -/
def settleFrame (frame : Nat) : Int × Vmm → Int × Vmm
  | (0, vmm) => (0, vmm)
  | (_, vmm) => (-1, vmm.freeFrame frame)

theorem vmmAllocPage_granted {vmm : Vmm} (granted : vmm.allocFrame = (frame, vmm.grab frame)) (nonzero : frame ≠ 0)
    (address : pmmFrameToAddr frame = frame * 4096) : vmmAllocPage vmm dir virt flags =
      settleFrame frame (vmmMapPage (vmm.grab frame) dir virt (frame * 4096) flags) := by
  simp only [vmmAllocPage, granted, if_neg nonzero, address]
  rfl

/-- A frame is allocated and mapped, unless the supply is too small. -/
theorem Ledger.allocPage (ledger : Ledger spaces ∅) (valid : dir = 0 ∨ dir ∈ spaces.live)
    (low : virt < kernelSpaceStart) (flags : Nat)
    (unbacked : pageNeed spaces.vmm (spaces.vmm.resolve dir) virt ≤ (supply spaces.vmm.pmm).card →
      ¬ Backed spaces (spaces.vmm.resolve dir) virt) :
    PageOutcome spaces (spaces.vmm.resolve dir) virt (vmmAllocPage spaces.vmm dir virt flags) := by
  obtain ⟨live, nonNull⟩ := ledger.resolve valid
  rcases allocFrame_cases spaces.vmm with refused | ⟨frame, positive, inside, free, granted⟩
  · have none := ledger.supply_empty refused
    have failed : vmmAllocPage spaces.vmm dir virt flags = (-1, spaces.vmm) := by
      simp [vmmAllocPage, refused]
    rw [failed]
    refine .failed _ ?_ ledger
    rw [none, Finset.card_empty, pageNeed]
    split <;> decide
  · have supplied := grab_supply positive inside free
    have address := ledger.address inside
    have ledgerGrabbed := ledger.grab positive inside free
    have nonzero : frame ≠ 0 := by omega
    rw [vmmAllocPage_granted granted nonzero address]
    by_cases present : spaces.vmm.table (spaces.vmm.resolve dir) (vmmDirIndex virt) ≠ 0
    · have mapped : vmmMapPage (spaces.vmm.grab frame) dir virt (frame * 4096) flags =
          (0, (spaces.vmm.grab frame).mapEntry
            (spaces.vmm.table (spaces.vmm.resolve dir) (vmmDirIndex virt)) virt
            (pageEntry (frame * 4096) flags)) := vmmMapPage_present nonNull present
      have need : pageNeed spaces.vmm (spaces.vmm.resolve dir) virt = 1 := if_pos present
      rw [mapped]
      refine .done _ (by rw [need]; exact supplied) ?_
      exact (ledger.prepared_present present inside free).maps (mapEntry_edit rfl) ledgerGrabbed live
        (Set.mem_insert _ _) (fun other member => member.elim id fun empty => absurd empty (Set.notMem_empty _))
        (unbacked (by omega))
    · have absent := not_not.mp present
      have need : pageNeed spaces.vmm (spaces.vmm.resolve dir) virt = 2 := if_neg present
      rcases allocFrame_cases (spaces.vmm.grab frame) with
        refused | ⟨second, positiveToo, insideToo, freeToo, grantedToo⟩
      · have none := ledgerGrabbed.supply_empty refused
        have failed : vmmMapPage (spaces.vmm.grab frame) dir virt (frame * 4096) flags =
            (-1, spaces.vmm.grab frame) := vmmMapPage_exhausted nonNull absent refused
        rw [failed]
        refine .failed _ ?_ ?_
        · rw [none, Finset.card_empty] at supplied
          omega
        · have freed := ledgerGrabbed.freeFrame (ledgerGrabbed.unheld frame (Set.mem_insert _ _)).2
          have emptied : insert frame (∅ : Set Nat) \ {frame} = ∅ := by simp
          rw [emptied] at freed
          exact freed
      · have suppliedToo := grab_supply positiveToo insideToo freeToo
        have ledgerTwice := ledgerGrabbed.grab positiveToo insideToo freeToo
        have different : frame ≠ second := by
          intro same
          subst same
          simp [get_grab] at freeToo
        have wasFree : spaces.vmm.pmm.bitmap.get second = false := by
          rw [get_grab, Bool.or_eq_false_iff] at freeToo
          exact freeToo.2
        have ledgerEntered := ledgerTwice.enter live (vmmDirIndex_low low) absent (Set.mem_insert _ _)
        have isLoose : frame ∈ (insert second (insert frame ∅) : Set Nat) \ {second} :=
          ⟨Set.mem_insert_of_mem _ (Set.mem_insert _ _), different⟩
        have mapped : vmmMapPage (spaces.vmm.grab frame) dir virt (frame * 4096) flags =
            (0, (((spaces.vmm.grab frame).grab second).enter (spaces.vmm.resolve dir) (vmmDirIndex virt)
              (second * 4096)).mapEntry (second * 4096) virt (pageEntry (frame * 4096) flags)) :=
          vmmMapPage_entered nonNull absent grantedToo (by omega) (ledger.address insideToo) (by omega)
        rw [mapped]
        refine .done _ (by rw [need]; exact (congrArg (· + 1) suppliedToo).trans supplied) ?_
        exact (ledger.prepared_absent absent inside free positiveToo insideToo wasFree).maps
          (mapEntry_edit enter_table_same) ledgerEntered live isLoose
          (fun other held => (held.1.resolve_left held.2).resolve_right (Set.notMem_empty _))
          (unbacked (by rw [need]; omega))

/-- The frames that `count` pages from `virt` on need, one for each and one for every page
table that is not `present`. -/
def framesNeeded (present : Nat → Bool) (virt : Nat) : Nat → Nat
  | 0 => 0
  | count + 1 =>
      (if present (vmmDirIndex virt) then 1 else 2) +
        framesNeeded (Function.update present (vmmDirIndex virt) true) (virt + vmmPageSize) count

/-- The slots of a directory that have page tables. -/
def slotsPresent (vmm : Vmm) (dir : Nat) (slot : Nat) : Bool := vmm.table dir slot ≠ 0

theorem pageNeed_eq : pageNeed vmm dir virt = if slotsPresent vmm dir (vmmDirIndex virt) then 1 else 2 := by
  simp [pageNeed, slotsPresent]

theorem PageMapped.slotsPresent (done : PageMapped before after dir virt) :
    slotsPresent after.vmm dir = Function.update (slotsPresent before.vmm dir) (vmmDirIndex virt) true := by
  funext slot
  by_cases same : slot = vmmDirIndex virt
  · subst same
    simp [VirtualMemory.slotsPresent, done.present]
  · rw [Function.update_of_ne same]
    simp [VirtualMemory.slotsPresent, done.tables slot same]

/-- Allocating a page backs no other page. -/
theorem PageMapped.unbacked (done : PageMapped before after dir virt) {page : Nat}
    (different : pageRef dir page ≠ pageRef dir virt) (unbacked : ¬ Backed before dir page) :
    ¬ Backed after dir page := by
  intro ⟨target, member, refers⟩
  have old := done.refers _ target different (by simp [pageRef]) refers
  rcases done.taken target member with held | fresh
  · exact unbacked ⟨target, held, old⟩
  · exact fresh _ old

theorem PageMapped.resolve {argument : Nat} (done : PageMapped before after dir virt) :
    after.vmm.resolve argument = before.vmm.resolve argument := by
  rw [Vmm.resolve, Vmm.resolve, done.currentDir]

/-- Pages with different numbers have different entries. -/
theorem pageRef_ne {page : Nat} (low : virt < kernelSpaceStart) (lowPage : page < kernelSpaceStart)
    (different : page / 4096 ≠ virt / 4096) : pageRef dir page ≠ pageRef dir virt := by
  intro same
  unfold kernelSpaceStart at *
  simp only [pageRef, Ref.page.injEq, true_and, vmmDirIndex, vmmTableIndex] at same
  omega

theorem Ledger.allocPagesFrom (ledger : Ledger spaces ∅) (valid : dir = 0 ∨ dir ∈ spaces.live)
    (low : ∀ i < count, virt + i * vmmPageSize < kernelSpaceStart)
    (enough : framesNeeded (slotsPresent spaces.vmm (spaces.vmm.resolve dir)) virt count ≤
      (supply spaces.vmm.pmm).card)
    (unbacked : ∀ i < count, ¬ Backed spaces (spaces.vmm.resolve dir) (virt + i * vmmPageSize)) :
    ∃ vmm, allocPagesFrom spaces.vmm dir first flags virt mapped count = (0, vmm) ∧
      Ledger { spaces with vmm } ∅ := by
  induction count generalizing spaces virt mapped with
  | zero => exact ⟨spaces.vmm, rfl, ledger⟩
  | succ count ih =>
      have lowFirst : virt < kernelSpaceStart := by simpa using low 0 (Nat.succ_pos _)
      have unbackedFirst : ¬ Backed spaces (spaces.vmm.resolve dir) virt := by
        simpa using unbacked 0 (Nat.succ_pos _)
      rw [framesNeeded, ← pageNeed_eq] at enough
      have outcome := ledger.allocPage valid lowFirst flags fun _ => unbackedFirst
      generalize isOutcome : vmmAllocPage spaces.vmm dir virt flags = result at outcome
      cases outcome with
      | failed vmm scarce _ => omega
      | done vmm supplied done =>
          have next : add32 virt vmmPageSize = virt + vmmPageSize := by
            refine add32_of_lt ?_
            unfold kernelSpaceStart at lowFirst
            unfold vmmPageSize
            omega
          have shifted (i : Nat) : virt + vmmPageSize + i * vmmPageSize = virt + (i + 1) * vmmPageSize := by
            rw [Nat.add_mul, Nat.one_mul, Nat.add_assoc, Nat.add_comm vmmPageSize]
          have isDir : vmm.resolve dir = spaces.vmm.resolve dir := done.resolve
          have lowRest : ∀ i < count, virt + vmmPageSize + i * vmmPageSize < kernelSpaceStart := by
            intro i inside
            rw [shifted]
            exact low (i + 1) (Nat.succ_lt_succ inside)
          have enoughRest : framesNeeded (slotsPresent vmm (vmm.resolve dir)) (virt + vmmPageSize) count ≤
              (supply vmm.pmm).card := by
            have slots : slotsPresent vmm (vmm.resolve dir) = Function.update
                (slotsPresent spaces.vmm (spaces.vmm.resolve dir)) (vmmDirIndex virt) true := by
              rw [isDir]
              exact done.slotsPresent
            rw [slots]
            omega
          have unbackedRest : ∀ i < count, ¬ Backed { spaces with vmm } (vmm.resolve dir)
              (virt + vmmPageSize + i * vmmPageSize) := by
            intro i inside
            have later : (virt + vmmPageSize + i * vmmPageSize) / 4096 ≠ virt / 4096 := by
              unfold vmmPageSize
              omega
            rw [isDir]
            refine done.unbacked (pageRef_ne lowFirst (lowRest i inside) later) ?_
            rw [shifted]
            exact unbacked (i + 1) (Nat.succ_lt_succ inside)
          obtain ⟨after, rest, ledgerAfter⟩ := ih done.ledger valid lowRest enoughRest unbackedRest
          refine ⟨after, ?_, ledgerAfter⟩
          rw [VirtualMemory.allocPagesFrom, isOutcome, next]
          exact rest

/-- Pages of user space, unless there are none. -/
def UserPages (virt count : Nat) : Prop := ∀ i < count, virt + i * vmmPageSize < kernelSpaceStart

/-- The supply does not suffice for the first page, or it suffices for all pages, and none
of them is backed. -/
def Allocatable (spaces : Spaces) (dir virt count : Nat) : Prop :=
  (supply spaces.vmm.pmm).card < pageNeed spaces.vmm dir virt ∨
    framesNeeded (slotsPresent spaces.vmm dir) virt count ≤ (supply spaces.vmm.pmm).card ∧
      ∀ i < count, ¬ Backed spaces dir (virt + i * vmmPageSize)

theorem Ledger.allocPages (ledger : Ledger spaces ∅) (valid : dir = 0 ∨ dir ∈ spaces.live)
    (low : UserPages virt count) (allocatable : Allocatable spaces (spaces.vmm.resolve dir) virt count)
    (flags : Nat) : Ledger { spaces with vmm := (vmmAllocPages spaces.vmm dir virt count flags).2 } ∅ := by
  cases count with
  | zero => exact ledger
  | succ count =>
      have lowFirst : virt < kernelSpaceStart := by simpa using low 0 (Nat.succ_pos _)
      rcases allocatable with scarce | ⟨enough, unbacked⟩
      · have outcome := ledger.allocPage valid lowFirst flags fun enough => absurd enough (by omega)
        generalize isOutcome : vmmAllocPage spaces.vmm dir virt flags = result at outcome
        cases outcome with
        | failed vmm _ ledgerAfter =>
            rw [vmmAllocPages, VirtualMemory.allocPagesFrom, isOutcome]
            exact ledgerAfter
        | done vmm supplied _ => omega
      · obtain ⟨after, done, ledgerAfter⟩ := ledger.allocPagesFrom valid low enough unbacked
        rw [vmmAllocPages, done]
        exact ledgerAfter

theorem unmapEntry_freeFrame : (vmm.freeFrame frame).unmapEntry table virt =
    (vmm.unmapEntry table virt).freeFrame frame := by
  have same : (vmm.freeFrame frame).stats = vmm.stats := rfl
  rw [Vmm.unmapEntry, Vmm.unmapEntry, same]
  generalize vmm.stats.unmapped = stats
  rfl

/-- Giving back a frame and clearing an entry can be done in either order. -/
theorem vmmUnmapPage_freeFrame (nonNull : vmm.resolve dir ≠ 0) :
    vmmUnmapPage (vmm.freeFrame frame) dir virt = (vmmUnmapPage vmm dir virt).freeFrame frame := by
  have freed : vmmUnmapPage (vmm.freeFrame frame) dir virt =
      if vmm.table (vmm.resolve dir) (vmmDirIndex virt) = 0 then vmm.freeFrame frame
      else (vmm.freeFrame frame).unmapEntry (vmm.table (vmm.resolve dir) (vmmDirIndex virt)) virt :=
    vmmUnmapPage_eq nonNull
  rw [freed, vmmUnmapPage_eq nonNull]
  by_cases missing : vmm.table (vmm.resolve dir) (vmmDirIndex virt) = 0
  · rw [if_pos missing, if_pos missing]
  · rw [if_neg missing, if_neg missing, unmapEntry_freeFrame]

/-- The answer of `vmm_get_physical` is what the entry refers to. -/
theorem physical_refers (live : spaces.vmm.resolve dir ∈ spaces.live) (nonNull : spaces.vmm.resolve dir ≠ 0)
    (virt frame : Nat) :
    Refers spaces (pageRef (spaces.vmm.resolve dir) virt) frame ↔
      (vmmGetPhysical spaces.vmm dir virt).map pmmAddrToFrame = some frame := by
  rw [vmmGetPhysical_eq nonNull]
  by_cases missing : spaces.vmm.table (spaces.vmm.resolve dir) (vmmDirIndex virt) = 0
  · simp [pageRef, Refers, missing]
  · rw [if_neg missing]
    simp only [pageRef, Refers, live, vmmTableIndex_lt, true_and, entryFrame, ne_eq, missing, not_false_eq_true]

/-- Clearing an entry sets free the frame that it referred to. -/
theorem Ledger.unmapPage (ledger : Ledger spaces ∅) (valid : dir = 0 ∨ dir ∈ spaces.live) (virt : Nat) :
    Ledger { spaces with vmm := vmmUnmapPage spaces.vmm dir virt }
        {frame | frame ∈ spaces.vmm.taken ∧ Refers spaces (pageRef (spaces.vmm.resolve dir) virt) frame} ∧
      ∀ ref frame, Refers { spaces with vmm := vmmUnmapPage spaces.vmm dir virt } ref frame →
        ref ≠ pageRef (spaces.vmm.resolve dir) virt ∧ Refers spaces ref frame := by
  obtain ⟨live, nonNull⟩ := ledger.resolve valid
  rw [vmmUnmapPage_eq nonNull]
  by_cases missing : spaces.vmm.table (spaces.vmm.resolve dir) (vmmDirIndex virt) = 0
  · rw [if_pos missing]
    have none : {frame | frame ∈ spaces.vmm.taken ∧
        Refers spaces (pageRef (spaces.vmm.resolve dir) virt) frame} = ∅ :=
      Set.eq_empty_of_forall_notMem fun frame ⟨_, _, present, _⟩ => present missing
    rw [none]
    refine ⟨ledger, fun ref frame refers => ⟨fun same => ?_, refers⟩⟩
    subst same
    exact refers.2.1 missing
  · rw [if_neg missing]
    have edit : EntrySet spaces { spaces with vmm := spaces.vmm.unmapEntry _ virt } _ _ _ 0 :=
      unmapEntry_edit (rfl : spaces.vmm.table (spaces.vmm.resolve dir) (vmmDirIndex virt) = _)
    have unmapped := edit.ledger ledger live missing vmmTableIndex_lt fun frame target => by cases target
    have old (after : Spaces) (ref : Ref) : redirected spaces after ∅ ref =
        {frame | frame ∈ spaces.vmm.taken ∧ Refers spaces ref frame} := by
      ext frame
      exact or_iff_right fun ⟨member, _⟩ => Set.notMem_empty _ member
    rw [old] at unmapped
    refine ⟨unmapped, fun ref frame refers => ?_⟩
    have different : ref ≠ pageRef (spaces.vmm.resolve dir) virt := by
      intro same
      subst same
      cases (edit.refers_same live missing vmmTableIndex_lt).mp refers
    exact ⟨different, (edit.refers_other ledger live missing different).mp refers⟩

theorem Ledger.freePage (ledger : Ledger spaces ∅) (valid : dir = 0 ∨ dir ∈ spaces.live) :
    Ledger { spaces with vmm := vmmUnmapPage (match vmmGetPhysical spaces.vmm dir virt with
      | some phys => spaces.vmm.freeFrame (pmmAddrToFrame phys)
      | none => spaces.vmm) dir virt } ∅ := by
  obtain ⟨live, nonNull⟩ := ledger.resolve valid
  obtain ⟨unmapped, others⟩ := ledger.unmapPage valid virt
  have answers := physical_refers live nonNull virt
  cases found : vmmGetPhysical spaces.vmm dir virt with
  | none =>
      have none : {frame | frame ∈ spaces.vmm.taken ∧
          Refers spaces (pageRef (spaces.vmm.resolve dir) virt) frame} = ∅ :=
        Set.eq_empty_of_forall_notMem fun frame ⟨_, refers⟩ => by
          have answer := (answers frame).mp refers
          rw [found] at answer
          cases answer
      rw [none] at unmapped
      exact unmapped
  | some phys =>
      have old : Refers spaces (pageRef (spaces.vmm.resolve dir) virt) (pmmAddrToFrame phys) :=
        (answers _).mpr (by rw [found]; rfl)
      have freed := unmapped.freeFrame fun ref refers => by
        obtain ⟨different, before⟩ := others ref (pmmAddrToFrame phys) refers
        exact different (ledger.unique _ _ _ before old)
      have emptied : {frame | frame ∈ spaces.vmm.taken ∧
          Refers spaces (pageRef (spaces.vmm.resolve dir) virt) frame} \ {pmmAddrToFrame phys} = ∅ :=
        Set.eq_empty_of_forall_notMem fun frame ⟨⟨_, refers⟩, different⟩ => by
          have answer := (answers frame).mp refers
          rw [found] at answer
          exact different (Option.some.inj answer).symm
      rw [emptied] at freed
      simp only [vmmUnmapPage_freeFrame nonNull]
      exact freed

theorem Ledger.freePages (ledger : Ledger spaces ∅) (valid : dir = 0 ∨ dir ∈ spaces.live) :
    Ledger { spaces with vmm := vmmFreePages spaces.vmm dir virt count } ∅ := by
  induction count generalizing spaces virt with
  | zero => exact ledger
  | succ count ih =>
      rw [vmmFreePages]
      exact ih (ledger.freePage valid) valid

end AutismOS.VirtualMemory
