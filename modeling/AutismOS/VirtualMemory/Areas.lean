import AutismOS.VirtualMemory.Statistics

namespace AutismOS.VirtualMemory

open AutismOS.Library AutismOS.Frames

variable {vmm : Vmm} {dir start size flags type block addr : Nat}

/-! The areas that `vmm_create_vma` creates. -/

/-- An area is page aligned, does not end before it starts and contains the addresses from
`start` to below `start + size`. -/
structure Vma.Covers (area : Vma) (start size : Nat) : Prop where
  startAligned : area.start % 4096 = 0
  stopAligned : area.stop % 4096 = 0
  ordered : area.start ≤ area.stop
  contains : ∀ addr, start ≤ addr → addr < start + size → area.start ≤ addr ∧ addr < area.stop

/-- What a call of `vmm_create_vma` promises: a non-NULL answer stands for one more area at the end
of the directory's list that covers the request, and a range beyond 32 bits is refused. -/
def CoversRequest (vmm : Vmm) (dir start size flags type block : Nat) : Prop :=
  ((vmmCreateVma vmm dir start size flags type block).1 ≠ 0 →
    ∃ area : Vma, ((vmmCreateVma vmm dir start size flags type block).2.directories dir).vmaList =
      (vmm.directories dir).vmaList ++ [area] ∧ area.Covers start size) ∧
  (2 ^ 32 < start + size → (vmmCreateVma vmm dir start size flags type block).1 = 0)

theorem pageMask_mod (value : Nat) : pageMask value % 4096 = 0 := by
  unfold pageMask
  omega

theorem createdVma_aligned : (createdVma start size flags type).start % 4096 = 0 ∧
    (createdVma start size flags type).stop % 4096 = 0 := by
  refine ⟨pageMask_mod _, ?_⟩
  have startMask := pageMask_mod (add32 start (vmmPageSize - 1))
  have sizeMask := pageMask_mod (add32 size (vmmPageSize - 1))
  simp only [createdVma, add32] at *
  omega

theorem createdVma_empty : (createdVma start 0 flags type).stop = (createdVma start 0 flags type).start := by
  have startMask := pageMask_mod (add32 start (vmmPageSize - 1))
  simp only [createdVma, add32, pageMask, vmmPageSize] at *
  omega

/-- The start of the area never lies below the requested one, unless it wraps around to 0. -/
theorem createdVma_start (bounded : start < 2 ^ 32) :
    (start + 4095 < 2 ^ 32 ∧ (createdVma start size flags type).start = (start + 4095) / 4096 * 4096) ∨
      (2 ^ 32 ≤ start + 4095 ∧ (createdVma start size flags type).start = 0) := by
  simp only [createdVma, add32, pageMask, vmmPageSize]
  omega

/-- For a page aligned start and a size that leaves the last page free, the end is that of the last requested
page. -/
theorem createdVma_exact (aligned : start % 4096 = 0) (room : start + size ≤ 2 ^ 32 - 4096) :
    (createdVma start size flags type).start = start ∧
      (createdVma start size flags type).stop = (start + size + 4095) / 4096 * 4096 := by
  simp only [createdVma, add32, pageMask, vmmPageSize]
  omega

/-- With the start of the request in its area, the end of the request stays in it only below the last page. -/
theorem createdVma_contains (startBounded : start < 2 ^ 32) (sizeBounded : size < 2 ^ 32) (inhabited : 0 < size)
    (first : (createdVma start size flags type).start ≤ start)
    (last : start + size ≤ (createdVma start size flags type).stop) :
    start % 4096 = 0 ∧ start + size ≤ 2 ^ 32 - 4096 := by
  have startCases : (start + 4095 < 2 ^ 32 ∧ (createdVma start size flags type).start = (start + 4095) / 4096 * 4096) ∨
      (2 ^ 32 ≤ start + 4095 ∧ (createdVma start size flags type).start = 0) := createdVma_start startBounded
  simp only [createdVma, add32, pageMask, vmmPageSize] at *
  omega

theorem createdVma_covers (startBounded : start < 2 ^ 32) (sizeBounded : size < 2 ^ 32) :
    (createdVma start size flags type).Covers start size ↔
      size = 0 ∨ start % 4096 = 0 ∧ start + size ≤ 2 ^ 32 - 4096 := by
  have aligned : (createdVma start size flags type).start % 4096 = 0 ∧
      (createdVma start size flags type).stop % 4096 = 0 := createdVma_aligned
  obtain ⟨startAligned, stopAligned⟩ := aligned
  constructor
  · intro covers
    rcases Nat.eq_zero_or_pos size with empty | inhabited
    · exact Or.inl empty
    · have first := covers.contains start (Nat.le_refl start) (by omega)
      have last := covers.contains (start + size - 1) (by omega) (by omega)
      exact Or.inr (createdVma_contains startBounded sizeBounded inhabited first.1 (by omega))
  · intro condition
    rcases condition with empty | ⟨aligned, room⟩
    · subst empty
      refine ⟨startAligned, stopAligned, Nat.le_of_eq createdVma_empty.symm, ?_⟩
      intro addr above below
      omega
    · have exact : (createdVma start size flags type).start = start ∧
          (createdVma start size flags type).stop = (start + size + 4095) / 4096 * 4096 := createdVma_exact aligned room
      obtain ⟨isStart, isStop⟩ := exact
      refine ⟨startAligned, stopAligned, ?_, ?_⟩
      · rw [isStart, isStop]
        omega
      · intro addr above below
        rw [isStart, isStop]
        omega

theorem vmmCreateVma_answer (nonNull : dir ≠ 0) (placed : block ≠ 0) :
    (vmmCreateVma vmm dir start size flags type block).1 = block := by
  rw [vmmCreateVma, if_neg nonNull]
  simp only [if_neg placed]

theorem vmmCreateVma_appends (nonNull : dir ≠ 0) (placed : block ≠ 0) :
    ((vmmCreateVma vmm dir start size flags type block).2.directories dir).vmaList =
      (vmm.directories dir).vmaList ++ [createdVma start size flags type] := by
  rw [vmmCreateVma_eq nonNull placed]
  simp [Vmm.list, Vmm.setDirectory]

/-- The start is rounded up like the size and the end is not checked, so a request that is not empty is covered
exactly when it starts at a page and ends before the last one. -/
theorem vmmCreateVma_covers_iff (startBounded : start < 2 ^ 32) (sizeBounded : size < 2 ^ 32) :
    CoversRequest vmm dir start size flags type block ↔
      dir = 0 ∨ block = 0 ∨ size = 0 ∨ start % 4096 = 0 ∧ start + size ≤ 2 ^ 32 - 4096 := by
  unfold CoversRequest
  by_cases refused : dir = 0 ∨ block = 0
  · rw [vmmCreateVma_refused refused]
    have anyway : dir = 0 ∨ block = 0 ∨ size = 0 ∨ start % 4096 = 0 ∧ start + size ≤ 2 ^ 32 - 4096 :=
      refused.imp_right Or.inl
    refine iff_of_true ⟨?_, ?_⟩ anyway
    · exact fun nonNull => absurd rfl nonNull
    · exact fun _ => rfl
  · obtain ⟨nonNull, placed⟩ := not_or.mp refused
    have covers : (createdVma start size flags type).Covers start size ↔
        size = 0 ∨ start % 4096 = 0 ∧ start + size ≤ 2 ^ 32 - 4096 := createdVma_covers startBounded sizeBounded
    rw [vmmCreateVma_answer nonNull placed, vmmCreateVma_appends nonNull placed, or_iff_right nonNull,
      or_iff_right placed, ← covers]
    constructor
    · intro promised
      obtain ⟨area, appended, areaCovers⟩ := promised.1 placed
      have same : createdVma start size flags type = area := by simpa using appended
      exact same ▸ areaCovers
    · intro covered
      refine ⟨fun _ => ⟨_, rfl, covered⟩, ?_⟩
      intro beyond
      have fits := covers.mp covered
      omega

/-- A whole page is covered exactly. -/
theorem vmmCreateVma_covers_iff_page : CoversRequest tinyVmm 0x100014 0x400000 0x1000 7 0 0x105014 :=
  (vmmCreateVma_covers_iff (by decide) (by decide)).mpr (by decide)

/-- A start in the middle of a page moves to the next one, and the first bytes are left out; a range up to the end
of the address space gets an end of 0. -/
theorem vmmCreateVma_leaves_out :
    ((vmmCreateVma tinyVmm 0x100014 0x400001 0x1000 7 0 0x105014).2.directories 0x100014).vmaList =
      [⟨0x401000, 0x402000, 7, 0⟩] ∧
    ¬ CoversRequest tinyVmm 0x100014 0x400001 0x1000 7 0 0x105014 ∧
    ((vmmCreateVma tinyVmm 0x100014 0xFFFFE000 0x2000 7 0 0x105014).2.directories 0x100014).vmaList =
      [⟨0xFFFFE000, 0, 7, 0⟩] ∧
    ¬ CoversRequest tinyVmm 0x100014 0xFFFFE000 0x2000 7 0 0x105014 := by
  have answer (start size : Nat) : (vmmCreateVma tinyVmm 0x100014 start size 7 0 0x105014).1 ≠ 0 := by
    rw [vmmCreateVma_answer (by decide) (by decide)]
    decide
  have skipped : ((vmmCreateVma tinyVmm 0x100014 0x400001 0x1000 7 0 0x105014).2.directories 0x100014).vmaList =
      [⟨0x401000, 0x402000, 7, 0⟩] := by decide +kernel
  have wrapped : ((vmmCreateVma tinyVmm 0x100014 0xFFFFE000 0x2000 7 0 0x105014).2.directories 0x100014).vmaList =
      [⟨0xFFFFE000, 0, 7, 0⟩] := by decide +kernel
  have before : (tinyVmm.directories 0x100014).vmaList = [] := by decide +kernel
  refine ⟨skipped, ?_, wrapped, ?_⟩
  · intro promised
    obtain ⟨area, appended, covers⟩ := promised.1 (answer 0x400001 0x1000)
    rw [skipped, before] at appended
    obtain rfl : ⟨0x401000, 0x402000, 7, 0⟩ = area := by simpa using appended
    exact absurd (covers.contains 0x400001 (by decide) (by decide)).1 (by decide)
  · intro promised
    obtain ⟨area, appended, covers⟩ := promised.1 (answer 0xFFFFE000 0x2000)
    rw [wrapped, before] at appended
    obtain rfl : ⟨0xFFFFE000, 0, 7, 0⟩ = area := by simpa using appended
    exact absurd covers.ordered (by decide)

end AutismOS.VirtualMemory
