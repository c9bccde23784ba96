import AutismOS.VirtualMemory.Translation

namespace AutismOS.VirtualMemory

open AutismOS.Library AutismOS.Frames

variable {vmm after : Vmm} {dir virt flags first mapped count frame : Nat}

/-! What a failed `vmm_alloc_pages` leaves behind. -/

/-- The frames that the loop of `vmm_alloc_pages` obtains for pages. -/
def dataFrames (vmm : Vmm) (dir flags virt : Nat) : Nat → List Nat
  | 0 => []
  | count + 1 =>
      (if vmm.allocFrame.1 = 0 then [] else [vmm.allocFrame.1]) ++
        match vmmAllocPage vmm dir virt flags with
        | (0, vmm) => dataFrames vmm dir flags (add32 virt vmmPageSize) count
        | _ => []

/-- The call leaves all translations of the directory as they were, and no frame that it obtained for a page
is still used. -/
structure RolledBack (before : Vmm) (dir virt count flags : Nat) : Prop where
  translations : ∀ addr,
    vmmGetPhysical (vmmAllocPages before dir virt count flags).2 dir addr = vmmGetPhysical before dir addr
  frames : ∀ frame ∈ dataFrames before dir flags virt count,
    (vmmAllocPages before dir virt count flags).2.pmm.bitmap.get frame = false

/-- There is no directory, or too few frames for the first page. -/
def FailsAtFirst (vmm : Vmm) (dir virt : Nat) : Prop :=
  vmm.resolve dir = 0 ∨ allocatable vmm.pmm < pageNeed vmm (vmm.resolve dir) virt

theorem allocFrame_allocatable (vmm : Vmm) :
    allocatable vmm.pmm = 0 ∧ vmm.allocFrame = (0, vmm) ∨
      ∃ frame, allocatable vmm.pmm ≠ 0 ∧ frame ∈ supply vmm.pmm ∧ vmm.allocFrame = (frame, vmm.grab frame) := by
  rcases allocFrame_cases vmm with refused | ⟨frame, positive, inside, free, granted⟩
  · exact Or.inl ⟨pmmAllocFrame_fails_iff.mp (congrArg Prod.fst refused), refused⟩
  · refine Or.inr ⟨frame, ?_, mem_supply.mpr ⟨positive, inside, free⟩, granted⟩
    intro none
    have failed : vmm.allocFrame.1 = 0 := pmmAllocFrame_fails_iff.mpr none
    rw [granted] at failed
    exact absurd failed (Nat.ne_of_gt positive)

theorem pageNeed_pos : 0 < pageNeed vmm dir virt := by
  unfold pageNeed
  split <;> decide

theorem vmmMapPage_null {phys : Nat} (null : vmm.resolve dir = 0) : vmmMapPage vmm dir virt phys flags = (-1, vmm) := by
  have resolved : (if dir = 0 then vmm.currentDir else dir) = 0 := null
  simp [vmmMapPage, resolved]

/-- A frame that could not be mapped is given back, and everything else is as before. -/
theorem freeFrame_grab (inside : frame < vmm.pmm.totalFrames) :
    ((vmm.grab frame).freeFrame frame).pmm.bitmap.get frame = false ∧
      ∀ addr, vmmGetPhysical ((vmm.grab frame).freeFrame frame) dir addr = vmmGetPhysical vmm dir addr := by
  constructor
  · exact pmmMarkFree_marking.same (grabbed vmm.pmm frame 1) frame inside
  · intro addr
    have resolved : ((vmm.grab frame).freeFrame frame).resolve dir = vmm.resolve dir := rfl
    by_cases null : vmm.resolve dir = 0
    · rw [vmmGetPhysical_null null, vmmGetPhysical_null (resolved.trans null)]
    · rw [vmmGetPhysical_lookup null, vmmGetPhysical_lookup (resolved.trans_ne null)]
      rfl

/-- What allocating a page can do. -/
inductive PageAllocation (vmm : Vmm) (dir virt flags : Nat) : Int × Vmm → Prop where
  | exhausted : allocatable vmm.pmm = 0 → PageAllocation vmm dir virt flags (-1, vmm)
  | returned (frame : Nat) : FailsAtFirst vmm dir virt → frame ∈ supply vmm.pmm →
      vmm.allocFrame = (frame, vmm.grab frame) →
      PageAllocation vmm dir virt flags (-1, (vmm.grab frame).freeFrame frame)
  | mapped (frame : Nat) (after : Vmm) : ¬ FailsAtFirst vmm dir virt → frame ∈ supply vmm.pmm →
      vmm.allocFrame = (frame, vmm.grab frame) →
      vmmMapPage (vmm.grab frame) dir virt (frame * 4096) flags = (0, after) →
      allocatable after.pmm + pageNeed vmm (vmm.resolve dir) virt = allocatable vmm.pmm →
      PageAllocation vmm dir virt flags (0, after)

/-- A page is allocated where there are frames for it and for its page table. -/
theorem vmmAllocPage_allocation (bounded : vmm.pmm.freeFrames < 2 ^ 32) (addressable : vmm.pmm.totalFrames ≤ 2 ^ 20)
    (dir virt flags : Nat) : PageAllocation vmm dir virt flags (vmmAllocPage vmm dir virt flags) := by
  rcases allocFrame_allocatable vmm with ⟨none, refused⟩ | ⟨frame, some, member, granted⟩
  · have failed : vmmAllocPage vmm dir virt flags = (-1, vmm) := by
      simp [vmmAllocPage, refused]
    rw [failed]
    exact .exhausted none
  · obtain ⟨positive, inside, _⟩ := mem_supply.mp member
    have nonzero : frame ≠ 0 := Nat.ne_of_gt positive
    have address := pmmFrameToAddr_small (inside.trans_le addressable)
    have less : allocatable (vmm.grab frame).pmm + 1 = allocatable vmm.pmm :=
      allocatable_grabbed member some bounded
    rw [vmmAllocPage_granted granted nonzero address]
    by_cases null : vmm.resolve dir = 0
    · have resolved : (vmm.grab frame).resolve dir = 0 := null
      rw [vmmMapPage_null resolved]
      exact .returned frame (Or.inl null) member granted
    · by_cases present : vmm.table (vmm.resolve dir) (vmmDirIndex virt) ≠ 0
      · have need : pageNeed vmm (vmm.resolve dir) virt = 1 := if_pos present
        have mapped : vmmMapPage (vmm.grab frame) dir virt (frame * 4096) flags = (0, _) :=
          vmmMapPage_present null present
        have enough : ¬ FailsAtFirst vmm dir virt := by
          unfold FailsAtFirst
          omega
        have left : allocatable (vmm.grab frame).pmm + pageNeed vmm (vmm.resolve dir) virt = allocatable vmm.pmm := by
          rw [need, less]
        rw [mapped]
        exact .mapped frame _ enough member granted mapped left
      · have absent := not_not.mp present
        have need : pageNeed vmm (vmm.resolve dir) virt = 2 := if_neg present
        rcases allocFrame_allocatable (vmm.grab frame) with ⟨none, refused⟩ | ⟨second, left, memberToo, grantedToo⟩
        · have failed : vmmMapPage (vmm.grab frame) dir virt (frame * 4096) flags = (-1, vmm.grab frame) :=
            vmmMapPage_exhausted null absent refused
          rw [failed]
          exact .returned frame (Or.inr (by omega)) member granted
        · obtain ⟨positiveToo, insideToo, _⟩ := mem_supply.mp memberToo
          have addressToo := pmmFrameToAddr_small (insideToo.trans_le addressable)
          have mapped : vmmMapPage (vmm.grab frame) dir virt (frame * 4096) flags = (0, _) :=
            vmmMapPage_entered null absent grantedToo (by omega) addressToo (by omega)
          have lessToo : allocatable ((vmm.grab frame).grab second).pmm + 1 = allocatable (vmm.grab frame).pmm :=
            allocatable_grabbed memberToo left (Nat.mod_lt _ (by decide))
          have enough : ¬ FailsAtFirst vmm dir virt := by
            unfold FailsAtFirst
            omega
          have twice : allocatable ((vmm.grab frame).grab second).pmm + pageNeed vmm (vmm.resolve dir) virt =
              allocatable vmm.pmm := by
            omega
          rw [mapped]
          exact .mapped frame _ enough member granted mapped twice

theorem vmmMapPage_keeps {phys : Nat} (used : vmm.pmm.bitmap.get frame = true) :
    (vmmMapPage vmm dir virt phys flags).2.pmm.bitmap.get frame = true := by
  have allocated : vmm.allocFrame.2.pmm.bitmap.get frame = true := (pmmAllocFrame_grant vmm.pmm).keeps used
  by_cases null : vmm.resolve dir = 0
  · rw [vmmMapPage_null null]
    exact used
  · have mapping := vmmMapPage_mapping null virt phys flags
    generalize vmmMapPage vmm dir virt phys flags = outcome at mapping
    cases mapping with
    | present => exact used
    | refused => exact allocated
    | wrapped => exact allocated
    | entered => exact allocated

theorem settleFrame_keeps {own : Nat} {outcome : Int × Vmm} (different : frame ≠ own)
    (used : outcome.2.pmm.bitmap.get frame = true) : (settleFrame own outcome).2.pmm.bitmap.get frame = true := by
  unfold settleFrame
  split
  · exact used
  · exact (pmmMarkFree_keeps different).trans used

/-- A frame in use stays so: only the frame that the call itself obtained is given back. -/
theorem vmmAllocPage_keeps (used : vmm.pmm.bitmap.get frame = true) :
    (vmmAllocPage vmm dir virt flags).2.pmm.bitmap.get frame = true := by
  rcases allocFrame_cases vmm with refused | ⟨own, positive, inside, free, granted⟩
  · simpa [vmmAllocPage, refused] using used
  · have different : frame ≠ own := by
      intro same
      rw [same, free] at used
      cases used
    have grabbedToo : (vmm.grab own).pmm.bitmap.get frame = true := by
      rw [get_grab, used, Bool.or_true]
    have mapped : (vmmMapPage (vmm.grab own) dir virt (pmmFrameToAddr own) flags).2.pmm.bitmap.get frame = true :=
      vmmMapPage_keeps grabbedToo
    have settled : vmmAllocPage vmm dir virt flags =
        settleFrame own (vmmMapPage (vmm.grab own) dir virt (pmmFrameToAddr own) flags) := by
      simp only [vmmAllocPage, granted, if_neg (Nat.ne_of_gt positive)]
      rfl
    rw [settled]
    exact settleFrame_keeps different mapped

theorem vmmUnmapPage_pmm : (vmmUnmapPage vmm dir virt).pmm = vmm.pmm := by
  by_cases null : vmm.resolve dir = 0
  · rw [vmmUnmapPage_null null]
  · rw [vmmUnmapPage_eq null]
    split
    · rfl
    · obtain ⟨stats, unmapped⟩ := unmapEntry_eq vmm (vmm.table (vmm.resolve dir) (vmmDirIndex virt)) virt
      rw [unmapped]
      rfl

theorem unmapPages_pmm : (unmapPages vmm dir virt count).pmm = vmm.pmm := by
  induction count generalizing vmm virt with
  | zero => rfl
  | succ count ih =>
      rw [unmapPages, ih, vmmUnmapPage_pmm]

theorem allocPagesFrom_keeps (used : vmm.pmm.bitmap.get frame = true) :
    (allocPagesFrom vmm dir first flags virt mapped count).2.pmm.bitmap.get frame = true := by
  induction count generalizing vmm virt mapped with
  | zero => exact used
  | succ count ih =>
      have page : (vmmAllocPage vmm dir virt flags).2.pmm.bitmap.get frame = true := vmmAllocPage_keeps used
      generalize isPage : vmmAllocPage vmm dir virt flags = outcome at page
      obtain ⟨result, next⟩ := outcome
      by_cases done : result = 0
      · subst done
        rw [allocPagesFrom, isPage]
        exact ih page
      · have failed : allocPagesFrom vmm dir first flags virt mapped (count + 1) =
            (-1, unmapPages next dir first mapped) := by
          simp only [allocPagesFrom, isPage]
        rw [failed, unmapPages_pmm]
        exact page

theorem rolledBack_of_failed (failed : vmmAllocPage vmm dir virt flags = (-1, after))
    (kept : ∀ addr, vmmGetPhysical after dir addr = vmmGetPhysical vmm dir addr)
    (freed : vmm.allocFrame.1 ≠ 0 → after.pmm.bitmap.get vmm.allocFrame.1 = false) :
    RolledBack vmm dir virt (count + 1) flags := by
  have result : vmmAllocPages vmm dir virt (count + 1) flags = (-1, after) := by
    rw [vmmAllocPages, allocPagesFrom, failed]
    rfl
  have frames : dataFrames vmm dir flags virt (count + 1) =
      if vmm.allocFrame.1 = 0 then [] else [vmm.allocFrame.1] := by
    rw [dataFrames, failed]
    exact List.append_nil _
  constructor
  · rw [result]
    exact kept
  · intro frame member
    rw [frames] at member
    rw [result]
    by_cases none : vmm.allocFrame.1 = 0
    · simp [none] at member
    · rw [if_neg none, List.mem_singleton] at member
      rw [member]
      exact freed none

/-- The frame of a page that was mapped is never given back. -/
theorem not_rolledBack_of_mapped (isPage : vmmAllocPage vmm dir virt flags = (0, after)) (nonzero : vmm.allocFrame.1 ≠ 0)
    (marked : after.pmm.bitmap.get vmm.allocFrame.1 = true) : ¬ RolledBack vmm dir virt (count + 1) flags := by
  have result : vmmAllocPages vmm dir virt (count + 1) flags =
      allocPagesFrom after dir virt flags (add32 virt vmmPageSize) 1 count := by
    rw [vmmAllocPages, allocPagesFrom, isPage]
    rfl
  have obtained : vmm.allocFrame.1 ∈ dataFrames vmm dir flags virt (count + 1) := by
    rw [dataFrames, if_neg nonzero]
    exact List.mem_append_left _ (List.mem_singleton_self _)
  intro rolledBack
  have free := rolledBack.frames _ obtained
  rw [result, allocPagesFrom_keeps marked] at free
  cases free

/-- A failed call has no effect exactly when it fails on its first page: later, the frames of the pages that were
mapped before are not given back. -/
theorem vmmAllocPages_rolledBack_iff (bounded : vmm.pmm.freeFrames < 2 ^ 32)
    (addressable : vmm.pmm.totalFrames ≤ 2 ^ 20) (failed : (vmmAllocPages vmm dir virt count flags).1 = -1) :
    RolledBack vmm dir virt count flags ↔ FailsAtFirst vmm dir virt := by
  cases count with
  | zero => cases failed
  | succ count =>
      have allocation := vmmAllocPage_allocation bounded addressable dir virt flags
      generalize isPage : vmmAllocPage vmm dir virt flags = outcome at allocation
      cases allocation with
      | exhausted none =>
          have refused : vmm.allocFrame.1 = 0 := pmmAllocFrame_fails_iff.mpr none
          have fails : FailsAtFirst vmm dir virt := Or.inr (none.trans_lt pageNeed_pos)
          have rolledBack : RolledBack vmm dir virt (count + 1) flags :=
            rolledBack_of_failed isPage (fun _ => rfl) fun some => absurd refused some
          exact iff_of_true rolledBack fails
      | returned frame fails member granted =>
          obtain ⟨freed, kept⟩ : ((vmm.grab frame).freeFrame frame).pmm.bitmap.get frame = false ∧
            ∀ addr, vmmGetPhysical ((vmm.grab frame).freeFrame frame) dir addr = vmmGetPhysical vmm dir addr :=
              freeFrame_grab (mem_supply.mp member).2.1
          have rolledBack : RolledBack vmm dir virt (count + 1) flags := by
            apply rolledBack_of_failed isPage kept
            intro _
            rw [granted]
            exact freed
          exact iff_of_true rolledBack fails
      | mapped frame after enough member granted mapped _ =>
          have obtained : vmm.allocFrame.1 = frame := congrArg Prod.fst granted
          have marked : after.pmm.bitmap.get frame = true := by
            have grabbedToo : (vmm.grab frame).pmm.bitmap.get frame = true := by
              simp [get_grab]
            have kept : (vmmMapPage (vmm.grab frame) dir virt (frame * 4096) flags).2.pmm.bitmap.get frame = true :=
              vmmMapPage_keeps grabbedToo
            rw [mapped] at kept
            exact kept
          have leaks : ¬ RolledBack vmm dir virt (count + 1) flags := by
            apply not_rolledBack_of_mapped isPage
            · rw [obtained]
              exact Nat.ne_of_gt (mem_supply.mp member).1
            · rw [obtained]
              exact marked
          exact iff_of_false leaks enough

/-- One frame is not enough for a page and its page table, and is given back. -/
theorem vmmAllocPages_rolledBack_iff_one :
    ∃ pmm, pmmInit blankPmm 0x2000 (some fun _ => 0) = (0, pmm) ∧
      (vmmAllocPages (blankVmm pmm) 0x100014 0x400000 3 7).1 = -1 ∧
      dataFrames (blankVmm pmm) 0x100014 7 0x400000 3 = [1] ∧ RolledBack (blankVmm pmm) 0x100014 0x400000 3 7 := by
  refine ⟨(pmmInit blankPmm 0x2000 (some fun _ => 0)).2, rfl, by decide, by decide, ?_⟩
  exact (vmmAllocPages_rolledBack_iff (by decide) (by decide) (by decide)).mpr (Or.inr (by decide))

/-- Two frames are enough for the first of two pages and its page table. The second page fails, and the frame of
the first stays used. -/
theorem vmmAllocPages_leaks :
    vmmInit (blankVmm tinyPmm) 0x100014 = (0, tinyVmm) ∧
      (vmmAllocPages tinyVmm 0x100014 0x400000 2 7).1 = -1 ∧ ¬ RolledBack tinyVmm 0x100014 0x400000 2 7 := by
  refine ⟨tinyVmm_booted, by decide, ?_⟩
  intro rolledBack
  have free := rolledBack.frames 2 (by decide)
  revert free
  decide

end AutismOS.VirtualMemory
