import AutismOS.Library.Gaps
import AutismOS.VirtualMemory.Translation

namespace AutismOS.VirtualMemory

open AutismOS.Library AutismOS.Frames

variable {vmm : Vmm} {dir addr size hint page other offset count lower fuel start stop : Nat}

/-! # What `vmm_find_free_region` finds

Pages are counted by their numbers here; a start that is not page aligned keeps its offset in
all addresses that are looked at.
-/

/-- A page, by its number, is mapped. -/
def Taken (vmm : Vmm) (dir page : Nat) : Prop := vmmIsMapped vmm dir (page * 4096) = true

/-- The number of pages that the code rounds a size to, in 32 bits. -/
def regionPages (size : Nat) : Nat := pageMask (add32 size (vmmPageSize - 1)) / 4096

theorem vmmIsMapped_page (small : offset < 4096) : vmmIsMapped vmm dir (page * 4096 + offset) = true ↔ Taken vmm dir page := by
  have samePage : pageMask (page * 4096 + offset) = pageMask (page * 4096) := by
    unfold pageMask
    omega
  obtain ⟨sameSlot, sameIndex⟩ := indices_of_page samePage
  unfold Taken vmmIsMapped
  by_cases null : vmm.resolve dir = 0
  · rw [vmmGetPhysical_null null, vmmGetPhysical_null null]
  · rw [vmmGetPhysical_lookup null, vmmGetPhysical_lookup null, sameSlot, sameIndex]

theorem regionPages_rounded : pageMask (add32 size (vmmPageSize - 1)) = regionPages size * 4096 := by
  unfold regionPages pageMask
  omega

theorem regionPages_lt : regionPages size < 2 ^ 20 := by
  unfold regionPages pageMask add32
  omega

/-- Below the end of the address space, one page further is the next page. -/
theorem add32_page (small : offset < 4096) (inside : page + 1 < 2 ^ 20) :
    add32 (page * 4096 + offset) vmmPageSize = (page + 1) * 4096 + offset := by
  unfold add32 vmmPageSize
  omega

/-- One pass over `count` pages finds the first mapped one. -/
theorem firstMapped_spec (vmm : Vmm) (dir : Nat) (small : offset < 4096) (inside : page + count < 2 ^ 20) (enough : count < fuel) :
    (∀ other, page ≤ other → other < page + count → ¬ Taken vmm dir other) ∧
        firstMapped vmm dir ((page + count) * 4096 + offset) fuel (page * 4096 + offset) = some none ∨
      ∃ check, (page ≤ check ∧ check < page + count ∧ Taken vmm dir check ∧
        ∀ other, page ≤ other → other < check → ¬ Taken vmm dir other) ∧
        firstMapped vmm dir ((page + count) * 4096 + offset) fuel (page * 4096 + offset) =
          some (some (check * 4096 + offset)) := by
  induction count generalizing page fuel with
  | zero =>
      obtain ⟨fuel, rfl⟩ : ∃ rest, fuel = rest + 1 := ⟨fuel - 1, by omega⟩
      refine Or.inl ⟨?_, ?_⟩
      · intro other above below
        omega
      · simp [firstMapped]
  | succ count ih =>
      obtain ⟨fuel, rfl⟩ : ∃ rest, fuel = rest + 1 := ⟨fuel - 1, by omega⟩
      have unfinished : page * 4096 + offset < (page + (count + 1)) * 4096 + offset := by omega
      by_cases mapped : Taken vmm dir page
      · refine Or.inr ⟨page, ⟨Nat.le_refl page, by omega, mapped, ?_⟩, ?_⟩
        · intro other above below
          omega
        · rw [firstMapped, if_pos unfinished, if_pos ((vmmIsMapped_page small).mpr mapped)]
      · have unmapped : ¬ vmmIsMapped vmm dir (page * 4096 + offset) = true := fun isMapped =>
          mapped ((vmmIsMapped_page small).mp isMapped)
        have next := add32_page small (by omega : page + 1 < 2 ^ 20)
        have sameStop : (page + (count + 1)) * 4096 + offset = (page + 1 + count) * 4096 + offset := by omega
        rw [firstMapped, if_pos unfinished, if_neg unmapped, next, sameStop]
        have rest := ih (by omega : page + 1 + count < 2 ^ 20) (by omega : count < fuel)
        have later (other : Nat) (above : page ≤ other) : other = page ∨ page + 1 ≤ other := by omega
        rcases rest with ⟨free, done⟩ | ⟨check, ⟨above, below, isTaken, first⟩, done⟩
        · refine Or.inl ⟨?_, done⟩
          intro other above below
          rcases later other above with rfl | beyond
          · exact mapped
          · exact free other beyond (by omega)
        · refine Or.inr ⟨check, ⟨by omega, by omega, isTaken, ?_⟩, done⟩
          intro other above below
          rcases later other above with rfl | beyond
          · exact mapped
          · exact first other beyond below

/-- A pass whose end wraps around looks at no page. -/
theorem firstMapped_wrapped (wrapped : stop ≤ start) (enough : 0 < fuel) : firstMapped vmm dir stop fuel start = some none := by
  obtain ⟨fuel, rfl⟩ : ∃ rest, fuel = rest + 1 := ⟨fuel - 1, by omega⟩
  rw [firstMapped, if_neg (Nat.not_lt.mpr wrapped)]

/-- For a size that fits below kernel space, the scan finds the first gap that ends before the last page, or
none. -/
theorem scanRegions_spec (small : offset < 4096) (fits : count ≤ 0xC0000) (enough : 0xC0000 - page < fuel)
    (exhausted : Exhausted (Taken vmm dir) lower count page) (above : lower ≤ page) :
    (∃ found, lower ≤ found ∧ found + count < 0xC0000 ∧
      (∀ other, found ≤ other → other < found + count → ¬ Taken vmm dir other) ∧
      Exhausted (Taken vmm dir) lower count found ∧
      scanRegions vmm dir (count * 4096) fuel (page * 4096 + offset) = some (found * 4096 + offset)) ∨
    (∃ last, 0xC0000 ≤ last + count ∧ Exhausted (Taken vmm dir) lower count last ∧
      scanRegions vmm dir (count * 4096) fuel (page * 4096 + offset) = some 0) := by
  have limit : sub32 kernelSpaceStart (count * 4096) = (0xC0000 - count) * 4096 := by
    unfold sub32 kernelSpaceStart
    omega
  induction fuel generalizing page with
  | zero => omega
  | succ fuel ih =>
      rw [scanRegions, limit]
      by_cases inside : page * 4096 + offset < (0xC0000 - count) * 4096
      · have stop : add32 (page * 4096 + offset) (count * 4096) = (page + count) * 4096 + offset := by
          unfold add32
          omega
        rw [if_pos inside, stop]
        have pass := firstMapped_spec vmm dir small (by omega : page + count < 2 ^ 20) (by omega : count < 2 ^ 32)
        rcases pass with ⟨free, done⟩ | ⟨check, ⟨behind, below, isTaken, _⟩, done⟩
        · rw [done]
          exact Or.inl ⟨page, above, by omega, free, exhausted, rfl⟩
        · have next := add32_page small (by omega : check + 1 < 2 ^ 20)
          rw [done]
          simp only [next]
          exact ih (by omega) (exhausted.skip isTaken below) (by omega)
      · rw [if_neg inside]
        exact Or.inr ⟨page, by omega, exhausted, rfl⟩

-- For a size above the end of user space the bound of the scan wraps around, and so do the ends of its passes from
-- `2 ^ 20 - count` on.

/-- Skipping the first mapped page after the start, or after another mapped page, takes the scan past its bound. -/
def SkipsPast (vmm : Vmm) (dir count page : Nat) : Prop :=
  ∃ candidate check, page ≤ candidate ∧ candidate + count < 2 ^ 20 ∧
    (candidate = page ∨ Taken vmm dir (candidate - 1)) ∧ candidate ≤ check ∧ check < candidate + count ∧
    Taken vmm dir check ∧ (∀ other, candidate ≤ other → other < check → ¬ Taken vmm dir other) ∧
    0x1C0000 ≤ check + 1 + count

/-- The scan skips the same pages from the page after the first mapped one. -/
theorem skipsPast_next {check : Nat} (behind : page ≤ check)
    (isTaken : Taken vmm dir check) (first : ∀ other, page ≤ other → other < check → ¬ Taken vmm dir other)
    (short : check + 1 + count < 0x1C0000) : SkipsPast vmm dir count (check + 1) ↔ SkipsPast vmm dir count page := by
  constructor
  · intro skips
    obtain ⟨candidate, last, above, bounded, reached, rest⟩ := skips
    refine ⟨candidate, last, by omega, bounded, Or.inr ?_, rest⟩
    rcases reached with isNext | isTakenToo
    · rw [isNext]
      exact isTaken
    · exact isTakenToo
  · intro skips
    obtain ⟨candidate, last, above, bounded, reached, atLeast, below, isTakenToo, firstToo, past⟩ := skips
    by_cases isStart : candidate = page
    · have notLater : ¬ check < last := fun later => firstToo check (by omega) later isTaken
      have notEarlier : ¬ last < check := fun earlier => first last (by omega) earlier isTakenToo
      omega
    · have before := reached.resolve_left isStart
      have notEarlier : ¬ candidate - 1 < check := fun earlier => first (candidate - 1) (by omega) earlier before
      exact ⟨candidate, last, by omega, bounded, Or.inr before, atLeast, below, isTakenToo, firstToo, past⟩

theorem scanRegions_huge (vmm : Vmm) (dir : Nat) (small : offset < 4096) (huge : 0xC0000 < count) (bounded : count < 2 ^ 20)
    (enough : 2 ^ 20 - page < fuel) (inside : page + count < 0x1C0000) (nonNull : page * 4096 + offset ≠ 0) :
    SkipsPast vmm dir count page ∧ scanRegions vmm dir (count * 4096) fuel (page * 4096 + offset) = some 0 ∨
      ¬ SkipsPast vmm dir count page ∧ ∃ found, found ≠ 0 ∧
        scanRegions vmm dir (count * 4096) fuel (page * 4096 + offset) = some found := by
  have limit : sub32 kernelSpaceStart (count * 4096) = (0x1C0000 - count) * 4096 := by
    unfold sub32 kernelSpaceStart
    omega
  induction fuel generalizing page with
  | zero => omega
  | succ fuel ih =>
      have unfinished : page * 4096 + offset < (0x1C0000 - count) * 4096 := by omega
      rw [scanRegions, limit, if_pos unfinished]
      by_cases wraps : 2 ^ 20 ≤ page + count
      · have stop : add32 (page * 4096 + offset) (count * 4096) ≤ page * 4096 + offset := by
          unfold add32
          omega
        rw [firstMapped_wrapped stop (by decide)]
        refine Or.inr ⟨?_, _, nonNull, rfl⟩
        intro skips
        obtain ⟨candidate, _, above, below, _⟩ := skips
        omega
      · have stop : add32 (page * 4096 + offset) (count * 4096) = (page + count) * 4096 + offset := by
          unfold add32
          omega
        rw [stop]
        have pass := firstMapped_spec vmm dir small (Nat.lt_of_not_le wraps) (by omega : count < 2 ^ 32)
        rcases pass with ⟨free, done⟩ | ⟨check, ⟨behind, below, isTaken, first⟩, done⟩
        · rw [done]
          refine Or.inr ⟨?_, _, nonNull, rfl⟩
          intro skips
          obtain ⟨candidate, last, above, bounded, reached, atLeast, below, isTaken, _, _⟩ := skips
          rcases reached with isStart | before
          · exact free last (by omega) (by omega) isTaken
          · by_cases isStart : candidate = page
            · exact free last (by omega) (by omega) isTaken
            · exact free (candidate - 1) (by omega) (by omega) before
        · have next := add32_page small (by omega : check + 1 < 2 ^ 20)
          rw [done]
          simp only [next]
          by_cases past : 0x1C0000 ≤ check + 1 + count
          · obtain ⟨fuel, rfl⟩ : ∃ rest, fuel = rest + 1 := ⟨fuel - 1, by omega⟩
            have finished : ¬ (check + 1) * 4096 + offset < (0x1C0000 - count) * 4096 := by omega
            rw [scanRegions, limit, if_neg finished]
            refine Or.inl ⟨?_, rfl⟩
            exact ⟨page, check, Nat.le_refl page, Nat.lt_of_not_le wraps, Or.inl rfl, behind, below, isTaken, first, past⟩
          · rw [← skipsPast_next behind isTaken first (Nat.lt_of_not_le past)]
            have beyond : (check + 1) * 4096 + offset ≠ 0 := Nat.ne_of_gt (Nat.add_pos_left (by omega) offset)
            exact ih (by omega) (Nat.lt_of_not_le past) beyond

/-- Where the scan starts. -/
def scanStart (hint : Nat) : Nat := if hint ≠ 0 then hint else 0x100000

/-- The pass over the region at the hint comes to a mapped page. -/
def HintTaken (vmm : Vmm) (dir size hint : Nat) : Prop :=
  hint / 4096 + regionPages size < 2 ^ 20 ∧
    ∃ page, hint / 4096 ≤ page ∧ page < hint / 4096 + regionPages size ∧ Taken vmm dir page

/-- No start that the scan comes to has a region without mapped pages. -/
def ScanMisses (vmm : Vmm) (dir count page : Nat) : Prop :=
  if count ≤ 0xC0000 then Exhausted (Taken vmm dir) page count (0xC0000 - count) else SkipsPast vmm dir count page

/-- Neither the hint nor the scan leads to a region. -/
structure NoRegion (vmm : Vmm) (dir size hint : Nat) : Prop where
  hinted : hint ≠ 0 → HintTaken vmm dir size hint
  scanned : ScanMisses vmm dir (regionPages size) (scanStart hint / 4096)

theorem scan_cases (vmm : Vmm) (dir : Nat) (within : hint ≠ 0 → hint / 4096 + regionPages size < 2 ^ 20) :
    ScanMisses vmm dir (regionPages size) (scanStart hint / 4096) ∧
        scanRegions vmm dir (regionPages size * 4096) (2 ^ 32) (scanStart hint) = some 0 ∨
      ¬ ScanMisses vmm dir (regionPages size) (scanStart hint / 4096) ∧ ∃ result, result ≠ 0 ∧
        scanRegions vmm dir (regionPages size * 4096) (2 ^ 32) (scanStart hint) = some result ∧
        (regionPages size ≤ 0xC0000 → ∃ found, scanStart hint / 4096 ≤ found ∧ result = found * 4096 + hint % 4096 ∧
          found + regionPages size < 0xC0000 ∧ Exhausted (Taken vmm dir) (scanStart hint / 4096) (regionPages size) found ∧
          ∀ other, found ≤ other → other < found + regionPages size → ¬ Taken vmm dir other) := by
  have split : scanStart hint = scanStart hint / 4096 * 4096 + hint % 4096 := by
    unfold scanStart
    split <;> omega
  have nonNull : scanStart hint ≠ 0 := by
    unfold scanStart
    split <;> omega
  have offset : hint % 4096 < 4096 := Nat.mod_lt _ (by decide)
  have bounded : regionPages size < 2 ^ 20 := regionPages_lt
  by_cases fits : regionPages size ≤ 0xC0000
  · have scan := scanRegions_spec offset fits (by omega : 0xC0000 - scanStart hint / 4096 < 2 ^ 32)
      (Exhausted.first : Exhausted (Taken vmm dir) _ (regionPages size) _) (Nat.le_refl _)
    rw [← split] at scan
    rw [ScanMisses, if_pos fits]
    rcases scan with ⟨found, above, below, free, exhausted, done⟩ | ⟨last, reached, exhausted, done⟩
    · refine Or.inr ⟨?_, _, ?_, done, fun _ => ⟨found, above, rfl, below, exhausted, free⟩⟩
      · intro misses
        obtain ⟨other, behind, before, isTaken⟩ := misses found above (by omega)
        exact free other behind before isTaken
      · omega
    · exact Or.inl ⟨exhausted.mono (by omega), done⟩
  · have start : scanStart hint / 4096 + regionPages size < 0x1C0000 := by
      by_cases hinted : hint = 0
      · have standard : scanStart hint = 0x100000 := by simp [scanStart, hinted]
        rw [standard]
        omega
      · have isHint : scanStart hint = hint := if_pos hinted
        have below := within hinted
        rw [isHint]
        omega
    have scan := scanRegions_huge vmm dir offset (Nat.lt_of_not_le fits) bounded
      (by omega : 2 ^ 20 - scanStart hint / 4096 < 2 ^ 32) start (by omega)
    rw [← split] at scan
    rw [ScanMisses, if_neg fits]
    rcases scan with ⟨skips, done⟩ | ⟨stays, found, nonzero, done⟩
    · exact Or.inl ⟨skips, done⟩
    · exact Or.inr ⟨stays, found, nonzero, done, fun fitting => absurd fitting fits⟩

/-- What the search returns: nothing, the hint, or what the scan found. -/
theorem vmmFindFreeRegion_cases (vmm : Vmm) (size : Nat) (nonNull : dir ≠ 0) (hintSmall : hint < 2 ^ 32) :
    NoRegion vmm dir size hint ∧ vmmFindFreeRegion vmm dir size hint = some 0 ∨
      ¬ NoRegion vmm dir size hint ∧ ∃ result, result ≠ 0 ∧ vmmFindFreeRegion vmm dir size hint = some result ∧
        (hint ≠ 0 ∧ ¬ HintTaken vmm dir size hint ∧ result = hint ∨
          (hint ≠ 0 → HintTaken vmm dir size hint) ∧
            (regionPages size ≤ 0xC0000 → ∃ found, scanStart hint / 4096 ≤ found ∧
              result = found * 4096 + hint % 4096 ∧ found + regionPages size < 0xC0000 ∧
              Exhausted (Taken vmm dir) (scanStart hint / 4096) (regionPages size) found ∧
              ∀ other, found ≤ other → other < found + regionPages size → ¬ Taken vmm dir other)) := by
  have bounded : regionPages size < 2 ^ 20 := regionPages_lt
  have offset : hint % 4096 < 4096 := Nat.mod_lt _ (by decide)
  have split : hint = hint / 4096 * 4096 + hint % 4096 := by omega
  by_cases hinted : hint ≠ 0
  · have start : scanStart hint = hint := if_pos hinted
    have found (missed : ¬ HintTaken vmm dir size hint)
        (done : firstMapped vmm dir (add32 hint (regionPages size * 4096)) (2 ^ 32) hint = some none) :
        vmmFindFreeRegion vmm dir size hint = some hint := by
      simp only [vmmFindFreeRegion, if_neg nonNull, regionPages_rounded, if_pos hinted, done]
    by_cases inside : hint / 4096 + regionPages size < 2 ^ 20
    · have stop : add32 hint (regionPages size * 4096) = (hint / 4096 + regionPages size) * 4096 + hint % 4096 := by
        unfold add32
        omega
      have pass := firstMapped_spec vmm dir offset inside (by omega : regionPages size < 2 ^ 32)
      rw [← stop, ← split] at pass
      rcases pass with ⟨free, done⟩ | ⟨check, ⟨above, below, isTaken, _⟩, done⟩
      · have missed : ¬ HintTaken vmm dir size hint := by
          intro taken
          obtain ⟨_, page, above, below, isTaken⟩ := taken
          exact free page above below isTaken
        exact Or.inr ⟨fun none => missed (none.hinted hinted), hint, hinted, found missed done,
          Or.inl ⟨hinted, missed, rfl⟩⟩
      · have taken : HintTaken vmm dir size hint := ⟨inside, check, above, below, isTaken⟩
        have isScan : vmmFindFreeRegion vmm dir size hint =
            scanRegions vmm dir (regionPages size * 4096) (2 ^ 32) (scanStart hint) := by
          simp only [vmmFindFreeRegion, if_neg nonNull, regionPages_rounded, if_pos hinted, done, start]
        rw [isScan]
        rcases scan_cases vmm dir (fun _ => inside) with ⟨misses, none⟩ | ⟨hits, result, nonzero, done, where_⟩
        · exact Or.inl ⟨⟨fun _ => taken, misses⟩, none⟩
        · exact Or.inr ⟨fun none => hits none.scanned, result, nonzero, done, Or.inr ⟨fun _ => taken, where_⟩⟩
    · have missed : ¬ HintTaken vmm dir size hint := fun taken => inside taken.1
      have wrapped : add32 hint (regionPages size * 4096) ≤ hint := by
        unfold add32
        omega
      exact Or.inr ⟨fun none => missed (none.hinted hinted), hint, hinted,
        found missed (firstMapped_wrapped wrapped (by decide)), Or.inl ⟨hinted, missed, rfl⟩⟩
  · have standard : scanStart hint = 0x100000 := if_neg hinted
    have isScan : vmmFindFreeRegion vmm dir size hint =
        scanRegions vmm dir (regionPages size * 4096) (2 ^ 32) (scanStart hint) := by
      simp only [vmmFindFreeRegion, if_neg nonNull, regionPages_rounded, if_neg hinted, standard]
    rw [isScan]
    rcases scan_cases vmm dir (fun given => absurd given hinted) with
      ⟨misses, none⟩ | ⟨hits, result, nonzero, done, where_⟩
    · exact Or.inl ⟨⟨fun given => absurd given hinted, misses⟩, none⟩
    · exact Or.inr ⟨fun none => hits none.scanned, result, nonzero, done,
        Or.inr ⟨fun given => absurd given hinted, where_⟩⟩

/-- A page-aligned region below kernel space without mapped pages. -/
structure SoundRegion (vmm : Vmm) (dir size start : Nat) : Prop where
  aligned : start % vmmPageSize = 0
  below : start + size ≤ kernelSpaceStart
  free : ∀ addr, start ≤ addr → addr < start + size → vmmIsMapped vmm dir addr = false

/-- The hint is page aligned, the size fits into user space, and a region at the hint ends in user space or has a
mapped page. -/
structure SafeRequest (vmm : Vmm) (dir size hint : Nat) : Prop where
  aligned : hint % vmmPageSize = 0
  fits : size ≤ kernelSpaceStart
  hinted : hint = 0 ∨ hint + size ≤ kernelSpaceStart ∨
    hint + size ≤ 0xFFFFF000 ∧ ∃ addr, hint ≤ addr ∧ addr < hint + size ∧ vmmIsMapped vmm dir addr = true

theorem regionPages_eq (fits : size ≤ 0xFFFFF000) : regionPages size = (size + 4095) / 4096 := by
  unfold regionPages pageMask add32 vmmPageSize
  omega

theorem vmmIsMapped_iff : vmmIsMapped vmm dir addr = true ↔ Taken vmm dir (addr / 4096) := by
  have offset : addr % 4096 < 4096 := Nat.mod_lt _ (by decide)
  have mapped : vmmIsMapped vmm dir (addr / 4096 * 4096 + addr % 4096) = true ↔ Taken vmm dir (addr / 4096) :=
    vmmIsMapped_page offset
  have split : addr = addr / 4096 * 4096 + addr % 4096 := by omega
  rwa [← split] at mapped

/-- A mapped page of an aligned region that does not wrap around is found by the pass. -/
theorem hintTaken_of_mapped (aligned : hint % vmmPageSize = 0) (fits : size ≤ kernelSpaceStart)
    (inside : hint + size ≤ 0xFFFFF000) (above : hint ≤ addr) (below : addr < hint + size)
    (mapped : vmmIsMapped vmm dir addr = true) : HintTaken vmm dir size hint := by
  have pages : regionPages size = (size + 4095) / 4096 := by
    unfold kernelSpaceStart at fits
    exact regionPages_eq (by omega)
  unfold vmmPageSize at aligned
  exact ⟨by omega, addr / 4096, by omega, by omega, vmmIsMapped_iff.mp mapped⟩

theorem HintTaken.mapped (taken : HintTaken vmm dir size hint) (aligned : hint % vmmPageSize = 0)
    (fits : size ≤ kernelSpaceStart) :
    hint + size ≤ 0xFFFFF000 ∧ ∃ addr, hint ≤ addr ∧ addr < hint + size ∧ vmmIsMapped vmm dir addr = true := by
  have pages : regionPages size = (size + 4095) / 4096 := by
    unfold kernelSpaceStart at fits
    exact regionPages_eq (by omega)
  obtain ⟨inside, page, above, below, isTaken⟩ := taken
  unfold vmmPageSize at aligned
  exact ⟨by omega, page * 4096, by omega, by omega, isTaken⟩

/-- The result is sound exactly where the request is safe, or nothing is found. -/
theorem vmmFindFreeRegion_sound_iff (vmm : Vmm) (size : Nat) (nonNull : dir ≠ 0)
    (hintSmall : hint < 2 ^ 32) :
    (∀ start, vmmFindFreeRegion vmm dir size hint = some start → start ≠ 0 → SoundRegion vmm dir size start) ↔
      SafeRequest vmm dir size hint ∨ NoRegion vmm dir size hint := by
  rcases vmmFindFreeRegion_cases vmm size nonNull hintSmall with ⟨nothing, zero⟩ | ⟨found, result, nonzero, done, where_⟩
  · refine ⟨fun _ => Or.inr nothing, fun _ start returned startNonzero => ?_⟩
    obtain rfl : 0 = start := Option.some.inj (zero.symm.trans returned)
    exact absurd rfl startNonzero
  · have sound : (∀ start, vmmFindFreeRegion vmm dir size hint = some start → start ≠ 0 → SoundRegion vmm dir size start) ↔
        SoundRegion vmm dir size result := by
      constructor
      · intro all
        exact all result done nonzero
      · intro isSound start returned _
        obtain rfl : result = start := Option.some.inj (done.symm.trans returned)
        exact isSound
    have safe : SafeRequest vmm dir size hint ∨ NoRegion vmm dir size hint ↔ SafeRequest vmm dir size hint :=
      or_iff_left found
    rw [sound, safe]
    rcases where_ with ⟨hinted, missed, rfl⟩ | ⟨taken, fitting⟩
    · constructor
      · intro isSound
        have below := isSound.below
        exact ⟨isSound.aligned, by omega, Or.inr (Or.inl below)⟩
      · intro request
        rcases request.hinted with isNull | below | ⟨inside, addr, above, below, mapped⟩
        · exact absurd isNull hinted
        · refine ⟨request.aligned, below, fun addr above before => ?_⟩
          by_contra mapped
          have inside : result + size ≤ 0xFFFFF000 := Nat.le_trans below (by decide)
          exact missed (hintTaken_of_mapped request.aligned request.fits inside above before (Bool.of_not_eq_false mapped))
        · exact absurd (hintTaken_of_mapped request.aligned request.fits inside above below mapped) missed
    · by_cases fits : regionPages size ≤ 0xC0000
      · obtain ⟨found, _, rfl, below, _, free⟩ := fitting fits
        constructor
        · intro isSound
          have aligned : hint % vmmPageSize = 0 := by
            have offset := isSound.aligned
            unfold vmmPageSize at offset ⊢
            omega
          have sizeFits : size ≤ kernelSpaceStart := Nat.le_trans (Nat.le_add_left _ _) isSound.below
          refine ⟨aligned, sizeFits, ?_⟩
          by_cases hinted : hint = 0
          · exact Or.inl hinted
          · exact Or.inr (Or.inr ((taken hinted).mapped aligned sizeFits))
        · intro request
          have aligned := request.aligned
          have sizeFits := request.fits
          unfold vmmPageSize at aligned
          unfold kernelSpaceStart at sizeFits
          have pages : regionPages size = (size + 4095) / 4096 := regionPages_eq (by omega)
          constructor
          · unfold vmmPageSize
            omega
          · unfold kernelSpaceStart
            omega
          · intro addr above before
            by_contra mapped
            exact free (addr / 4096) (by omega) (by omega) (vmmIsMapped_iff.mp (Bool.of_not_eq_false mapped))
      · have tooLarge : ¬ size ≤ kernelSpaceStart := by
          intro sizeFits
          unfold kernelSpaceStart at sizeFits
          have pages : regionPages size = (size + 4095) / 4096 := regionPages_eq (by omega)
          omega
        constructor
        · intro isSound
          exact absurd (Nat.le_trans (Nat.le_add_left _ _) isSound.below) tooLarge
        · intro request
          exact absurd request.fits tooLarge

/-- The region at the hint has a mapped page, and the next page starts a free one. -/
theorem vmmFindFreeRegion_sound_iff_next : vmmFindFreeRegion tinyVmm 0x100014 0x5000 0x3FF000 = some 0x400000 ∧
    SoundRegion tinyVmm 0x100014 0x5000 0x400000 := by
  have found : vmmFindFreeRegion tinyVmm 0x100014 0x5000 0x3FF000 = some 0x400000 := by decide +kernel
  have sound := (vmmFindFreeRegion_sound_iff tinyVmm 0x5000 (by decide : 0x100014 ≠ 0) (by decide : 0x3FF000 < 2 ^ 32)).mpr
  exact ⟨found, sound (Or.inl ⟨by decide, by decide, Or.inr (Or.inl (by decide))⟩) _ found (by decide)⟩

/-- A hint that is not aligned, a hint so high that the region ends in kernel space, and a size that rounds to
nothing. -/
theorem vmmFindFreeRegion_unsound :
    (vmmFindFreeRegion tinyVmm 0x100014 0x1000 0x400001 = some 0x400001 ∧
      ¬ SoundRegion tinyVmm 0x100014 0x1000 0x400001) ∧
    (vmmFindFreeRegion tinyVmm 0x100014 0x2000 0xBFFFF000 = some 0xBFFFF000 ∧
      ¬ SoundRegion tinyVmm 0x100014 0x2000 0xBFFFF000) ∧
    (vmmFindFreeRegion tinyVmm 0x100014 0xFFFFFFFF 0 = some 0x100000 ∧
      ¬ SoundRegion tinyVmm 0x100014 0xFFFFFFFF 0x100000) := by
  refine ⟨⟨by decide +kernel, ?_⟩, ⟨by decide +kernel, ?_⟩, ⟨by decide +kernel, ?_⟩⟩
  · intro sound
    exact absurd sound.aligned (by decide)
  · intro sound
    exact absurd sound.below (by decide)
  · intro sound
    exact absurd sound.below (by decide)

/-- The page-aligned regions of user space without mapped pages. -/
def freeRegions (vmm : Vmm) (dir size : Nat) : Set Nat :=
  {start | start % vmmPageSize = 0 ∧ 0x100000 ≤ start ∧ start + regionPages size * vmmPageSize ≤ kernelSpaceStart ∧
    ∀ addr, start ≤ addr → addr < start + size → vmmIsMapped vmm dir addr = false}

/-- The result is the least free region, or 0 when there is none. -/
def FirstRegion (vmm : Vmm) (dir size : Nat) : Prop :=
  vmmFindFreeRegion vmm dir size 0 = some 0 ∧ freeRegions vmm dir size = ∅ ∨
    ∃ start, vmmFindFreeRegion vmm dir size 0 = some start ∧ IsLeast (freeRegions vmm dir size) start

/-- The start of the last region below kernel space. -/
def lastRegion (size : Nat) : Nat := kernelSpaceStart - regionPages size * vmmPageSize

theorem mem_freeRegions (fits : size ≤ 0xFFFFF000) : start ∈ freeRegions vmm dir size ↔
    start % 4096 = 0 ∧ Gap (Taken vmm dir) 0x100 0xC0000 (regionPages size) (start / 4096) := by
  have pages : regionPages size = (size + 4095) / 4096 := regionPages_eq fits
  constructor
  · intro free
    obtain ⟨aligned, above, below, unmapped⟩ := free
    unfold vmmPageSize at aligned below
    unfold kernelSpaceStart at below
    refine ⟨aligned, by omega, by omega, fun page behind before isTaken => ?_⟩
    have mapped : vmmIsMapped vmm dir (page * 4096) = true := isTaken
    rw [unmapped (page * 4096) (by omega) (by omega)] at mapped
    cases mapped
  · intro gap
    obtain ⟨aligned, above, below, free⟩ := gap
    refine ⟨aligned, by omega, ?_, fun addr behind before => ?_⟩
    · unfold vmmPageSize kernelSpaceStart
      omega
    · by_contra mapped
      exact free (addr / 4096) (by omega) (by omega) (vmmIsMapped_iff.mp (Bool.of_not_eq_false mapped))

/-- The search ends, and misses a region exactly when the last one is the only one. -/
theorem vmmFindFreeRegion_complete_iff (vmm : Vmm) (nonNull : dir ≠ 0) (positive : 1 ≤ size)
    (fits : size ≤ 0xC0000000 - 0x100000) :
    (∃ result, vmmFindFreeRegion vmm dir size 0 = some result) ∧
      (FirstRegion vmm dir size ↔
        lastRegion size ∉ freeRegions vmm dir size ∨ ∃ start ∈ freeRegions vmm dir size, start < lastRegion size) := by
  have bounded : size ≤ 0xFFFFF000 := Nat.le_trans fits (by decide)
  have pages : regionPages size = (size + 4095) / 4096 := regionPages_eq bounded
  have last : lastRegion size = (0xC0000 - regionPages size) * 4096 := by
    unfold lastRegion kernelSpaceStart vmmPageSize
    omega
  have start : scanStart 0 / 4096 = 0x100 := rfl
  have small : regionPages size ≤ 0xC0000 := by omega
  have search := vmmFindFreeRegion_cases vmm size nonNull (by decide : 0 < 2 ^ 32)
  rw [start] at search
  rcases search with ⟨nothing, zero⟩ | ⟨_, result, nonzero, done, where_⟩
  · have exhausted := nothing.scanned
    rw [start, ScanMisses, if_pos small] at exhausted
    have only (region : Nat) (free : region ∈ freeRegions vmm dir size) : region = lastRegion size := by
      obtain ⟨aligned, gap⟩ := (mem_freeRegions bounded).mp free
      have above := gap.below
      have notEarlier : ¬ region / 4096 < 0xC0000 - regionPages size := fun earlier => exhausted.not_gap earlier gap
      omega
    refine ⟨⟨0, zero⟩, ?_⟩
    constructor
    · intro first
      rcases first with ⟨_, none⟩ | ⟨region, found, least⟩
      · rw [none]
        exact Or.inl (Set.notMem_empty _)
      · obtain rfl : 0 = region := Option.some.inj (zero.symm.trans found)
        have above := least.1.2.1
        omega
    · intro missing
      refine Or.inl ⟨zero, ?_⟩
      apply Set.eq_empty_of_forall_notMem
      intro region free
      rcases missing with notLast | ⟨lower, lowerFree, earlier⟩
      · rw [only region free] at free
        exact notLast free
      · rw [only lower lowerFree] at earlier
        exact absurd earlier (Nat.lt_irrefl _)
  · rcases where_ with ⟨hinted, _⟩ | ⟨_, fitting⟩
    · exact absurd rfl hinted
    · obtain ⟨found, above, isFound, below, exhausted, free⟩ := fitting small
      rw [Nat.zero_mod, Nat.add_zero] at isFound
      subst isFound
      have page : found * 4096 / 4096 = found := Nat.mul_div_cancel found (by decide)
      have gap : Gap (Taken vmm dir) 0x100 0xC0000 (regionPages size) found := ⟨above, Nat.le_of_lt below, free⟩
      have isFree : found * 4096 ∈ freeRegions vmm dir size :=
        (mem_freeRegions bounded).mpr ⟨Nat.mul_mod_left found 4096, by rwa [page]⟩
      have least : IsLeast (freeRegions vmm dir size) (found * 4096) := by
        refine ⟨isFree, fun other otherFree => ?_⟩
        obtain ⟨_, otherGap⟩ := (mem_freeRegions bounded).mp otherFree
        have notEarlier := (exhausted.least gap).2 otherGap
        omega
      refine ⟨⟨_, done⟩, fun _ => Or.inr ⟨_, isFree, by omega⟩, fun _ => Or.inr ⟨_, done, least⟩⟩

/-- Only the first slot has a page table after initialization. -/
theorem tinyVmm_unmapped (above : 0x400000 ≤ addr) (below : addr < 2 ^ 32) : vmmIsMapped tinyVmm 0x100014 addr = false := by
  have notFirst : vmmDirIndex addr ≠ 0 := by
    unfold vmmDirIndex
    omega
  have resolved : tinyVmm.resolve 0x100014 = 0x100014 := resolve_self (by decide)
  have missing : tinyVmm.table 0x100014 (vmmDirIndex addr) = 0 := bootedVmm_table.trans (if_neg notFirst)
  rw [vmmIsMapped, vmmGetPhysical_lookup (by rw [resolved]; decide), resolved, Vmm.lookup, if_pos missing]
  rfl

/-- Three pages: the least region starts behind the identity mapping. -/
theorem vmmFindFreeRegion_complete_iff_three : FirstRegion tinyVmm 0x100014 0x3000 := by
  have free : 0x400000 ∈ freeRegions tinyVmm 0x100014 0x3000 :=
    ⟨by decide, by decide, by decide, fun addr above below => tinyVmm_unmapped above (by omega)⟩
  exact (vmmFindFreeRegion_complete_iff tinyVmm (by decide) (by decide) (by decide)).2.mpr
    (Or.inr ⟨0x400000, free, by decide⟩)

/-- All of user space behind the identity mapping is free, but the scan stops in front of it. -/
theorem vmmFindFreeRegion_misses : vmmFindFreeRegion tinyVmm 0x100014 0xBFC00000 0 = some 0 ∧
    0x400000 ∈ freeRegions tinyVmm 0x100014 0xBFC00000 ∧ ¬ FirstRegion tinyVmm 0x100014 0xBFC00000 := by
  have none : vmmFindFreeRegion tinyVmm 0x100014 0xBFC00000 0 = some 0 := by decide +kernel
  have free : 0x400000 ∈ freeRegions tinyVmm 0x100014 0xBFC00000 :=
    ⟨by decide, by decide, by decide, fun addr above below => tinyVmm_unmapped above (by omega)⟩
  refine ⟨none, free, ?_⟩
  intro first
  rcases first with ⟨_, empty⟩ | ⟨start, found, least⟩
  · rw [empty] at free
    exact absurd free (Set.notMem_empty _)
  · obtain rfl : 0 = start := Option.some.inj (none.symm.trans found)
    exact absurd least.1.2.1 (by decide)

end AutismOS.VirtualMemory
