import AutismOS.Library.Gaps
import AutismOS.Frames.Supply

namespace AutismOS.Frames

open AutismOS.Library

variable {pmm booted after : Pmm} {bitmap : Bitmap} {calls : List PmmCall}
variable {frame start count left consecutive startFrame memSize : Nat}

/-! `pmm_alloc_frames` is an exact first fit. -/

/-- The ranges of `count` frames that can be allocated together. -/
def vacancies (pmm : Pmm) (count : Nat) : Set Nat :=
  {start | Gap (fun frame => pmm.bitmap.get frame = true) 1 pmm.totalFrames count start}

/-- The `count` frames from `start` on are marked used and counted, and nothing else is changed. -/
structure Marked (pmm : Pmm) (start count : Nat) (after : Pmm) : Prop where
  frames : ∀ frame, after.bitmap.get frame = (decide (start ≤ frame ∧ frame < start + count) || pmm.bitmap.get frame)
  used : after.usedFrames = pmm.usedFrames + count
  free : after.freeFrames + count = pmm.freeFrames
  sizes : (after.totalFrames, after.bitmapSize, after.initialized) = (pmm.totalFrames, pmm.bitmapSize, pmm.initialized)

/-- The search leaves a start out only because of a used frame: it has tried all starts before the
frames that it has counted. -/
theorem searchRun_exhausted (positive : 0 < count) (small : consecutive ≤ count) (passed : consecutive ≤ frame)
    (adjacent : consecutive = 0 ∨ startFrame + consecutive = frame)
    (exhausted : Exhausted (fun frame => bitmap.get frame = true) 1 count (frame - consecutive)) :
    ((searchRun bitmap count frame left consecutive startFrame).1 = count →
      Exhausted (fun frame => bitmap.get frame = true) 1 count
        (searchRun bitmap count frame left consecutive startFrame).2) ∧
    ((searchRun bitmap count frame left consecutive startFrame).1 < count →
      Exhausted (fun frame => bitmap.get frame = true) 1 count
        (frame + left - (searchRun bitmap count frame left consecutive startFrame).1)) := by
  induction left generalizing frame consecutive startFrame with
  | zero =>
      constructor
      · intro all
        have counted : consecutive = count := all
        have isStart : startFrame = frame - consecutive := by omega
        rw [searchRun, isStart]
        exact exhausted
      · intro _
        exact exhausted
  | succ left ih =>
      have shifted : frame + (left + 1) = frame + 1 + left := by omega
      rw [searchRun, shifted]
      by_cases unfinished : consecutive < count
      · rw [if_pos unfinished]
        cases marked : bitmap.get frame with
        | false =>
            have sameStart : frame + 1 - (consecutive + 1) = frame - consecutive := by omega
            apply ih
            · omega
            · omega
            · by_cases none : consecutive = 0
              · rw [if_pos none]
                omega
              · rw [if_neg none]
                omega
            · rw [sameStart]
              exact exhausted
        | true =>
            have restarted : Exhausted (fun frame => bitmap.get frame = true) 1 count (frame + 1) :=
              exhausted.skip marked (by omega)
            apply ih
            · omega
            · omega
            · exact Or.inl rfl
            · exact restarted
      · have isStart : startFrame = frame - consecutive := by omega
        rw [if_neg unfinished]
        constructor
        · intro _
          rw [isStart]
          exact exhausted
        · intro less
          exact absurd less unfinished

/-- A free range is never larger than the number of free frames. -/
theorem Accounted.gap_le (accounted : Accounted pmm) (vacant : start ∈ vacancies pmm count) :
    count ≤ pmm.freeFrames := by
  have free : ∀ frame, start ≤ frame → frame < start + count → pmm.bitmap.get frame = false := by
    intro frame above below
    simpa using vacant.free frame above below
  have counted := count_setRange free vacant.below
  have room : (setRange pmm.bitmap start count).count pmm.totalFrames ≤ pmm.totalFrames := Bitmap.count_le
  have used := accounted.used
  have total := accounted.total
  omega

theorem Accounted.marked (accounted : Accounted pmm) (fits : count ≤ pmm.freeFrames) :
    Marked pmm start count (Frames.grabbed pmm start count) := by
  have total := accounted.total
  have small := accounted.small
  refine ⟨?_, ?_, ?_, rfl⟩
  · intro frame
    exact get_setRange
  · exact add32_of_lt (by omega)
  · have freeAfter : sub32 pmm.freeFrames count = pmm.freeFrames - count := sub32_of_le fits (by omega)
    simp only [Frames.grabbed, freeAfter]
    omega

/-- Either the least free range is taken, or there is none and nothing happens. -/
theorem pmmAllocFrames_cases (accounted : Accounted pmm) (initialized : pmm.initialized = true)
    (positive : 0 < count) :
    (∃ start, IsLeast (vacancies pmm count) start ∧ pmmAllocFrames pmm count = (start, grabbed pmm start count)) ∨
      (∀ start, start ∉ vacancies pmm count) ∧ pmmAllocFrames pmm count = (0, pmm) := by
  by_cases refused : !pmm.initialized ∨ pmm.freeFrames < count
  · refine Or.inr ⟨?_, by rw [pmmAllocFrames, if_pos refused]⟩
    intro start vacant
    have fits := accounted.gap_le vacant
    simp only [initialized, Bool.not_true, Bool.false_eq_true, false_or] at refused
    omega
  · obtain ⟨most, gathered⟩ : (searchRun pmm.bitmap count 1 (pmm.totalFrames - 1) 0 0).1 ≤ count ∧
        Gathered pmm.bitmap (1 + (pmm.totalFrames - 1))
          (searchRun pmm.bitmap count 1 (pmm.totalFrames - 1) 0 0).1
          (searchRun pmm.bitmap count 1 (pmm.totalFrames - 1) 0 0).2 :=
      searchRun_spec (by decide) (Nat.zero_le _) (Or.inl rfl) (Or.inl rfl)
    obtain ⟨complete, partly⟩ : ((searchRun pmm.bitmap count 1 (pmm.totalFrames - 1) 0 0).1 = count →
        Exhausted (fun frame => pmm.bitmap.get frame = true) 1 count
          (searchRun pmm.bitmap count 1 (pmm.totalFrames - 1) 0 0).2) ∧ _ :=
      searchRun_exhausted positive (Nat.zero_le _) (Nat.zero_le _) (Or.inl rfl) Exhausted.first
    rw [pmmAllocFrames, if_neg refused]
    by_cases found : (searchRun pmm.bitmap count 1 (pmm.totalFrames - 1) 0 0).1 ≥ count
    · have all : (searchRun pmm.bitmap count 1 (pmm.totalFrames - 1) 0 0).1 = count := Nat.le_antisymm most found
      rw [all] at gathered
      obtain ⟨above, inside, free⟩ := gathered.resolve_left (by omega)
      have available := accounted.total
      have gap : Gap (fun frame => pmm.bitmap.get frame = true) 1 pmm.totalFrames count
          (searchRun pmm.bitmap count 1 (pmm.totalFrames - 1) 0 0).2 := by
        refine ⟨above, by omega, ?_⟩
        intro frame from_ below
        simp [free frame from_ below]
      refine Or.inl ⟨_, (complete all).least gap, ?_⟩
      simp only [found, if_true]
      rfl
    · have exhausted := partly (Nat.lt_of_not_le found)
      refine Or.inr ⟨exhausted.none (by omega), ?_⟩
      simp only [found, if_false]

/-- A search for one frame stops at the first free one. -/
theorem searchRun_one (positive : 0 < frame) :
    searchRun bitmap 1 frame left 0 0 =
      if firstFree bitmap frame left = 0 then (0, 0) else (1, firstFree bitmap frame left) := by
  induction left generalizing frame with
  | zero => rfl
  | succ left ih =>
      cases marked : bitmap.get frame with
      | true => simp [searchRun, firstFree, marked, ih (Nat.succ_pos frame)]
      | false =>
          have stops : searchRun bitmap 1 (frame + 1) left 1 frame = (1, frame) := by
            cases left <;> simp [searchRun]
          simp [searchRun, firstFree, marked, stops, Nat.ne_of_gt positive]

theorem pmmAllocFrames_one (pmm : Pmm) : pmmAllocFrames pmm 1 = pmmAllocFrame pmm := by
  have available : pmm.freeFrames < 1 ↔ pmm.freeFrames = 0 := Nat.lt_one_iff
  by_cases none : firstFree pmm.bitmap 1 (pmm.totalFrames - 1) = 0
  · simp [pmmAllocFrames, pmmAllocFrame, available, searchRun_one, none]
  · simp [pmmAllocFrames, pmmAllocFrame, available, searchRun_one, none, setRange]

theorem run_ready {storage : Option Bitmap} (fresh : pmm.initialized = false)
    (bounded : memSize < 2 ^ 32) (done : pmmInit pmm memSize storage = (0, booted))
    (run : Run (Stepping pmmStep) booted calls after) : Accounted after ∧ after.initialized = true := by
  apply run.invariant fun pmm => Accounted pmm ∧ pmm.initialized = true
  · intro before call after invariant step
    obtain rfl : (pmmCall before call).2 = after := Option.some.inj step
    exact ⟨pmmCall_accounted invariant.1 call, (pmmCall_initialized before call).trans invariant.2⟩
  · obtain ⟨bitmap, rfl⟩ := pmmInit_eq fresh done
    exact ⟨pmmInit_accounted fresh bounded done, rfl⟩

/-- After any calls, `pmm_alloc_frames` takes the least free range, fails without an effect exactly
when there is none, and for one frame is `pmm_alloc_frame`. -/
theorem run_pmmAllocFrames_first_fit {storage : Option Bitmap} (fresh : pmm.initialized = false)
    (bounded : memSize < 2 ^ 32) (done : pmmInit pmm memSize storage = (0, booted))
    (run : Run (Stepping pmmStep) booted calls after) (positive : 1 ≤ count) :
    (∀ start, IsLeast (vacancies after count) start →
      (pmmAllocFrames after count).1 = start ∧ Marked after start count (pmmAllocFrames after count).2) ∧
    (pmmAllocFrames after count = (0, after) ↔ ∀ start, start ∉ vacancies after count) ∧
    pmmAllocFrames after 1 = pmmAllocFrame after := by
  obtain ⟨accounted, initialized⟩ := run_ready fresh bounded done run
  refine ⟨?_, ?_, pmmAllocFrames_one after⟩
  · intro start least
    rcases pmmAllocFrames_cases accounted initialized positive with ⟨found, isLeast, served⟩ | ⟨none, _⟩
    · obtain rfl := least.unique isLeast
      rw [served]
      exact ⟨rfl, accounted.marked (accounted.gap_le least.1)⟩
    · exact absurd least.1 (none start)
  · rcases pmmAllocFrames_cases accounted initialized positive with ⟨found, isLeast, served⟩ | ⟨none, failed⟩
    · have nonNull : found ≠ 0 := Nat.ne_of_gt isLeast.1.above
      constructor
      · intro refused
        exact absurd (congrArg Prod.fst (served.symm.trans refused)) nonNull
      · intro none
        exact absurd isLeast.1 (none found)
    · exact ⟨fun _ => none, fun _ => failed⟩

/-- Ten frames of which the second and the fifth are used: the first three free ones in a row are
the sixth to the eighth. -/
theorem run_pmmAllocFrames_first_fit_ten :
    ∃ booted after, pmmInit blankPmm 0xA000 (some fun _ => 0xFF) = (0, booted) ∧
      Run (Stepping pmmStep) booted [.markUsed 1, .markUsed 4] after ∧ IsLeast (vacancies after 3) 5 ∧
      (pmmAllocFrames after 3).1 = 5 ∧ Marked after 5 3 (pmmAllocFrames after 3).2 := by
  obtain ⟨booted, done⟩ : ∃ booted, pmmInit blankPmm 0xA000 (some fun _ => 0xFF) = (0, booted) := ⟨_, rfl⟩
  have run : Run (Stepping pmmStep) booted [.markUsed 1, .markUsed 4] _ := .cons rfl (.single rfl)
  obtain ⟨served, _⟩ := run_pmmAllocFrames_first_fit rfl (by decide) done run (by decide : 1 ≤ 3)
  have least : IsLeast (vacancies (pmmCall (pmmCall booted (.markUsed 1)).2 (.markUsed 4)).2 3) 5 := by
    obtain rfl := congrArg Prod.snd done
    have exhausted : Exhausted (fun frame => (pmmCall (pmmCall (pmmInit blankPmm 0xA000 (some fun _ => 0xFF)).2
        (.markUsed 1)).2 (.markUsed 4)).2.bitmap.get frame = true) 1 3 5 :=
      Exhausted.skip (Exhausted.skip Exhausted.first (by decide) (by decide : 1 < 1 + 3)) (by decide) (by decide)
    refine exhausted.least ⟨by decide, by decide, ?_⟩
    intro frame above below
    obtain rfl | rfl | rfl : frame = 5 ∨ frame = 6 ∨ frame = 7 := by omega
    · decide
    · decide
    · decide
  exact ⟨booted, _, done, run, least, served 5 least⟩

end AutismOS.Frames
