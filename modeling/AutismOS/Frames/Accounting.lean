import AutismOS.Library.Run
import AutismOS.Frames.Core

namespace AutismOS.Frames

open AutismOS.Library

variable {pmm booted after : Pmm} {bitmap : Bitmap} {call : PmmCall} {calls : List PmmCall}
variable {frame other start count limit memSize left consecutive startFrame : Nat}

/-! The counters agree with the bitmap. -/

/-- The counters are exact and no bit beyond the last frame is set. -/
structure Accounted (pmm : Pmm) : Prop where
  used : pmm.usedFrames = pmm.bitmap.count pmm.totalFrames
  total : pmm.freeFrames + pmm.usedFrames = pmm.totalFrames
  beyond : ∀ frame, pmm.totalFrames ≤ frame → frame < 8 * pmm.bitmapSize → pmm.bitmap.get frame = false
  small : pmm.totalFrames < 2 ^ 32

theorem get_setRange : (setRange bitmap start count).get other =
    (decide (start ≤ other ∧ other < start + count) || bitmap.get other) := by
  induction count generalizing bitmap start with
  | zero =>
      have none : ¬ (start ≤ other ∧ other < start + 0) := by omega
      simp only [setRange, none, decide_false, Bool.false_or]
  | succ count ih =>
      rw [setRange, ih, Bitmap.get_set, ← Bool.or_assoc]
      congr 1
      rw [← Bool.decide_or, decide_eq_decide]
      omega

theorem count_setRange (free : ∀ frame, start ≤ frame → frame < start + count → bitmap.get frame = false)
    (inside : start + count ≤ limit) :
    (setRange bitmap start count).count limit = bitmap.count limit + count := by
  induction count generalizing bitmap start with
  | zero => rfl
  | succ count ih =>
      have first : bitmap.get start = false := free start (by omega) (by omega)
      have others : ∀ frame, start + 1 ≤ frame → frame < start + 1 + count →
          (bitmap.set start).get frame = false := fun frame above below => by
        have different : frame ≠ start := by omega
        rw [Bitmap.get_set, free frame (by omega) (by omega)]
        simp [different]
      have below : start < limit := by omega
      rw [setRange, ih others (by omega), Bitmap.count_set first, if_pos below]
      omega

/-- The state after `count` frames from `start` on were marked used. -/
def grabbed (pmm : Pmm) (start count : Nat) : Pmm :=
  { pmm with
    bitmap := setRange pmm.bitmap start count
    usedFrames := add32 pmm.usedFrames count
    freeFrames := sub32 pmm.freeFrames count }

theorem get_grabbed_one :
    (grabbed pmm frame 1).bitmap.get other = (decide (other = frame) || pmm.bitmap.get other) := by
  have range : (frame ≤ other ∧ other < frame + 1) ↔ other = frame := by omega
  rw [grabbed, get_setRange, decide_eq_decide.mpr range]

/-- The state after one frame was marked free. -/
def dropped (pmm : Pmm) (frame : Nat) : Pmm :=
  { pmm with
    bitmap := pmm.bitmap.clear frame
    usedFrames := sub32 pmm.usedFrames 1
    freeFrames := add32 pmm.freeFrames 1 }

theorem Accounted.grabbed (accounted : Accounted pmm) (inside : start + count ≤ pmm.totalFrames)
    (free : ∀ frame, start ≤ frame → frame < start + count → pmm.bitmap.get frame = false) :
    Accounted (grabbed pmm start count) := by
  obtain ⟨used, total, beyond, small⟩ := accounted
  have counted := count_setRange free inside
  have room : (setRange pmm.bitmap start count).count pmm.totalFrames ≤ pmm.totalFrames := Bitmap.count_le
  have usedAfter : add32 pmm.usedFrames count = pmm.usedFrames + count := add32_of_lt (by omega)
  have freeAfter : sub32 pmm.freeFrames count = pmm.freeFrames - count := sub32_of_le (by omega) (by omega)
  refine ⟨?_, ?_, fun frame above below => ?_, small⟩
  · change add32 pmm.usedFrames count = (setRange pmm.bitmap start count).count pmm.totalFrames
    rw [usedAfter, counted, used]
  · simp only [Frames.grabbed, usedAfter, freeAfter]
    omega
  · have outside : ¬ (start ≤ frame ∧ frame < start + count) := by
      simp only [Frames.grabbed] at above
      omega
    simp only [Frames.grabbed, get_setRange, beyond frame above below, outside, decide_false, Bool.or_self]

theorem Accounted.grabbed_one (accounted : Accounted pmm) (inside : frame < pmm.totalFrames)
    (free : pmm.bitmap.get frame = false) : Accounted (Frames.grabbed pmm frame 1) := by
  apply accounted.grabbed inside
  intro other above below
  have same : other = frame := by omega
  rw [same, free]

theorem Accounted.dropped (accounted : Accounted pmm) (inside : frame < pmm.totalFrames)
    (marked : pmm.bitmap.get frame = true) : Accounted (dropped pmm frame) := by
  obtain ⟨used, total, beyond, small⟩ := accounted
  have counted : (pmm.bitmap.clear frame).count pmm.totalFrames +
      (if frame < pmm.totalFrames then 1 else 0) = pmm.bitmap.count pmm.totalFrames :=
    Bitmap.count_clear marked
  rw [if_pos inside] at counted
  have usedAfter : sub32 pmm.usedFrames 1 = pmm.usedFrames - 1 := sub32_of_le (by omega) (by omega)
  have freeAfter : add32 pmm.freeFrames 1 = pmm.freeFrames + 1 := add32_of_lt (by omega)
  refine ⟨?_, ?_, fun frame above below => ?_, small⟩
  · change sub32 pmm.usedFrames 1 = (pmm.bitmap.clear frame).count pmm.totalFrames
    rw [usedAfter]
    omega
  · simp only [Frames.dropped, usedAfter, freeAfter]
    omega
  · simp only [Frames.dropped, Bitmap.get_clear, beyond frame above below, Bool.and_false]

theorem pmmMarkUsed_cases (pmm : Pmm) (frame : Nat) :
    pmmMarkUsed pmm frame = pmm ∨
      frame < pmm.totalFrames ∧ pmm.bitmap.get frame = false ∧ pmmMarkUsed pmm frame = grabbed pmm frame 1 := by
  by_cases beyond : frame ≥ pmm.totalFrames
  · exact Or.inl (by rw [pmmMarkUsed, if_pos beyond])
  · cases marked : pmm.bitmap.get frame with
    | true => exact Or.inl (by rw [pmmMarkUsed, if_neg beyond, marked]; rfl)
    | false =>
        refine Or.inr ⟨by omega, rfl, ?_⟩
        rw [pmmMarkUsed, if_neg beyond, marked]
        rfl

theorem pmmMarkFree_cases (pmm : Pmm) (frame : Nat) :
    pmmMarkFree pmm frame = pmm ∨
      frame < pmm.totalFrames ∧ pmm.bitmap.get frame = true ∧ pmmMarkFree pmm frame = dropped pmm frame := by
  by_cases beyond : frame ≥ pmm.totalFrames
  · exact Or.inl (by rw [pmmMarkFree, if_pos beyond])
  · cases marked : pmm.bitmap.get frame with
    | true =>
        refine Or.inr ⟨by omega, rfl, ?_⟩
        rw [pmmMarkFree, if_neg beyond, marked]
        rfl
    | false => exact Or.inl (by rw [pmmMarkFree, if_neg beyond, marked]; rfl)

theorem Accounted.markUsed (accounted : Accounted pmm) (frame : Nat) : Accounted (pmmMarkUsed pmm frame) := by
  rcases pmmMarkUsed_cases pmm frame with same | ⟨inside, free, marked⟩
  · rw [same]
    exact accounted
  · rw [marked]
    exact accounted.grabbed_one inside free

theorem Accounted.markFree (accounted : Accounted pmm) (frame : Nat) : Accounted (pmmMarkFree pmm frame) := by
  rcases pmmMarkFree_cases pmm frame with same | ⟨inside, marked, freed⟩
  · rw [same]
    exact accounted
  · rw [freed]
    exact accounted.dropped inside marked

/-- Marking a range keeps what marking one frame keeps. -/
theorem markRange_invariant (holds : Pmm → Prop) {mark : Pmm → Nat → Pmm}
    (preserved : ∀ pmm frame, holds pmm → holds (mark pmm frame)) (initial : holds pmm) :
    holds (markRange mark pmm start count) := by
  induction count generalizing pmm start with
  | zero => exact initial
  | succ count ih => exact ih (preserved pmm start initial)

theorem firstFree_spec (found : firstFree bitmap start count = frame) (positive : frame ≠ 0) :
    start ≤ frame ∧ frame < start + count ∧ bitmap.get frame = false := by
  induction count generalizing start with
  | zero => exact absurd found.symm positive
  | succ count ih =>
      cases marked : bitmap.get start with
      | false =>
          simp only [firstFree, marked, Bool.not_false, if_true] at found
          exact ⟨by omega, by omega, found ▸ marked⟩
      | true =>
          simp only [firstFree, marked, Bool.not_true, Bool.false_eq_true, if_false] at found
          obtain ⟨above, below, free⟩ := ih found
          exact ⟨by omega, by omega, free⟩

/-- The frames that the search has counted lie below `limit` and are all free. -/
def Gathered (bitmap : Bitmap) (limit consecutive startFrame : Nat) : Prop :=
  consecutive = 0 ∨ 0 < startFrame ∧ startFrame + consecutive ≤ limit ∧
    ∀ frame, startFrame ≤ frame → frame < startFrame + consecutive → bitmap.get frame = false

theorem Gathered.mono {wider : Nat} (gathered : Gathered bitmap limit consecutive startFrame)
    (below : limit ≤ wider) : Gathered bitmap wider consecutive startFrame := by
  rcases gathered with none | ⟨positive, inside, free⟩
  · exact Or.inl none
  · exact Or.inr ⟨positive, Nat.le_trans inside below, free⟩

/-- A free frame that directly follows the counted ones is counted with them. -/
theorem Gathered.grow (positive : 0 < frame) (free : bitmap.get frame = false)
    (adjacent : consecutive = 0 ∨ startFrame + consecutive = frame)
    (gathered : Gathered bitmap frame consecutive startFrame) :
    (if consecutive = 0 then frame else startFrame) + (consecutive + 1) = frame + 1 ∧
      Gathered bitmap (frame + 1) (consecutive + 1) (if consecutive = 0 then frame else startFrame) := by
  by_cases none : consecutive = 0
  · simp only [none, if_true]
    refine ⟨trivial, Or.inr ⟨positive, by omega, fun other above below => ?_⟩⟩
    have same : other = frame := by omega
    rw [same, free]
  · simp only [none, if_false]
    obtain ⟨first, _, counted⟩ := gathered.resolve_left none
    have reaches := adjacent.resolve_left none
    refine ⟨by omega, Or.inr ⟨first, by omega, fun other above below => ?_⟩⟩
    by_cases isLast : other = frame
    · rw [isLast, free]
    · exact counted other above (by omega)

/-- The search counts at most `count` frames, all of them free and in a row. -/
theorem searchRun_spec (positive : 0 < frame) (bounded : consecutive ≤ count)
    (adjacent : consecutive = 0 ∨ startFrame + consecutive = frame)
    (gathered : Gathered bitmap frame consecutive startFrame) :
    (searchRun bitmap count frame left consecutive startFrame).1 ≤ count ∧
      Gathered bitmap (frame + left) (searchRun bitmap count frame left consecutive startFrame).1
        (searchRun bitmap count frame left consecutive startFrame).2 := by
  induction left generalizing frame consecutive startFrame with
  | zero => exact ⟨bounded, gathered⟩
  | succ left ih =>
      have shifted : frame + (left + 1) = frame + 1 + left := by omega
      rw [searchRun, shifted]
      by_cases unfinished : consecutive < count
      · rw [if_pos unfinished]
        cases marked : bitmap.get frame with
        | false =>
            obtain ⟨adjacent, grown⟩ := gathered.grow positive marked adjacent
            exact ih (by omega) (by omega) (Or.inr adjacent) grown
        | true => exact ih (by omega) (by omega) (Or.inl rfl) (Or.inl rfl)
      · rw [if_neg unfinished]
        exact ⟨bounded, gathered.mono (by omega)⟩

/-- What an allocation of `count` frames can do. -/
inductive Grant (pmm : Pmm) (count : Nat) : Nat × Pmm → Prop where
  | refused : Grant pmm count (0, pmm)
  | granted (start : Nat) : 0 < start → start + count ≤ pmm.totalFrames →
      (∀ frame, start ≤ frame → frame < start + count → pmm.bitmap.get frame = false) →
      Grant pmm count (start, grabbed pmm start count)

theorem pmmAllocFrame_grant (pmm : Pmm) : Grant pmm 1 (pmmAllocFrame pmm) := by
  by_cases refused : !pmm.initialized ∨ pmm.freeFrames = 0
  · rw [pmmAllocFrame, if_pos refused]
    exact .refused
  · by_cases none : firstFree pmm.bitmap 1 (pmm.totalFrames - 1) = 0
    · rw [pmmAllocFrame, if_neg refused]
      simp only [none, if_true]
      exact .refused
    · obtain ⟨above, below, free⟩ := firstFree_spec rfl none
      rw [pmmAllocFrame, if_neg refused]
      simp only [none, if_false]
      refine .granted _ (by omega) (by omega) fun frame above below => ?_
      have same : frame = firstFree pmm.bitmap 1 (pmm.totalFrames - 1) := by omega
      rw [same, free]

/-- Marking no frames leaves the state as it is. -/
theorem Accounted.grabbed_none (accounted : Accounted pmm) : Frames.grabbed pmm start 0 = pmm := by
  obtain ⟨used, total, beyond, small⟩ := accounted
  have usedAfter : add32 pmm.usedFrames 0 = pmm.usedFrames := add32_of_lt (by omega)
  have freeAfter : sub32 pmm.freeFrames 0 = pmm.freeFrames := sub32_of_le (Nat.zero_le _) (by omega)
  rw [Frames.grabbed, usedAfter, freeAfter]
  rfl

theorem searchRun_none : searchRun bitmap 0 frame left 0 0 = (0, 0) := by
  cases left <;> rfl

theorem pmmAllocFrames_grant (accounted : Accounted pmm) (count : Nat) :
    Grant pmm count (pmmAllocFrames pmm count) := by
  by_cases refused : !pmm.initialized ∨ pmm.freeFrames < count
  · rw [pmmAllocFrames, if_pos refused]
    exact .refused
  · rw [pmmAllocFrames, if_neg refused]
    by_cases none : count = 0
    · subst none
      have nothing : Grant pmm 0 (0, Frames.grabbed pmm 0 0) := by
        rw [accounted.grabbed_none]
        exact .refused
      simp only [searchRun_none, ge_iff_le, Nat.le_refl, if_true]
      exact nothing
    · obtain ⟨most, gathered⟩ : (searchRun pmm.bitmap count 1 (pmm.totalFrames - 1) 0 0).1 ≤ count ∧
          Gathered pmm.bitmap (1 + (pmm.totalFrames - 1))
            (searchRun pmm.bitmap count 1 (pmm.totalFrames - 1) 0 0).1
            (searchRun pmm.bitmap count 1 (pmm.totalFrames - 1) 0 0).2 :=
        searchRun_spec (by decide) (Nat.zero_le _) (Or.inl rfl) (Or.inl rfl)
      by_cases found : (searchRun pmm.bitmap count 1 (pmm.totalFrames - 1) 0 0).1 ≥ count
      · have all : (searchRun pmm.bitmap count 1 (pmm.totalFrames - 1) 0 0).1 = count := by omega
        rw [all] at gathered
        obtain ⟨positive, inside, free⟩ := gathered.resolve_left none
        simp only [found, if_true]
        refine .granted _ positive ?_ free
        have room := accounted.total
        omega
      · simp only [found, if_false]
        exact .refused

/-- A granted range was free and is marked used. -/
theorem Grant.accounted {result : Nat × Pmm} (grant : Grant pmm count result) (accounted : Accounted pmm) :
    Accounted result.2 := by
  cases grant with
  | refused => exact accounted
  | granted start _ inside free => exact accounted.grabbed inside free

theorem pmmCall_accounted (accounted : Accounted pmm) (call : PmmCall) : Accounted (pmmCall pmm call).2 := by
  cases call with
  | markUsed frame => exact accounted.markUsed frame
  | markFree frame => exact accounted.markFree frame
  | markRangeUsed start count =>
      exact markRange_invariant Accounted (fun pmm frame accounted => accounted.markUsed frame) accounted
  | markRangeFree start count =>
      exact markRange_invariant Accounted (fun pmm frame accounted => accounted.markFree frame) accounted
  | allocFrame => exact (pmmAllocFrame_grant pmm).accounted accounted
  | allocFrames count => exact (pmmAllocFrames_grant accounted count).accounted accounted
  | freeFrame frame => exact accounted.markFree frame
  | freeFrames start count =>
      exact markRange_invariant Accounted (fun pmm frame accounted => accounted.markFree frame) accounted

/-- A successful first initialization. -/
theorem pmmInit_eq {storage : Option Bitmap} (fresh : pmm.initialized = false)
    (done : pmmInit pmm memSize storage = (0, booted)) :
    ∃ bitmap : Bitmap, booted =
      { bitmap := bitmap.erase ((memSize / pmmPageSize + 7) / 8)
        totalFrames := memSize / pmmPageSize
        freeFrames := memSize / pmmPageSize
        usedFrames := 0
        bitmapSize := (memSize / pmmPageSize + 7) / 8
        initialized := true } := by
  by_cases none : memSize / pmmPageSize = 0
  · simp [pmmInit, fresh, none] at done
  · cases storage with
    | none => simp [pmmInit, fresh, none] at done
    | some bitmap =>
        simp only [pmmInit, fresh, Bool.false_eq_true, if_false, none, Prod.mk.injEq, true_and] at done
        exact ⟨bitmap, done.symm⟩

/-- After initialization all frames are free. -/
theorem pmmInit_accounted {storage : Option Bitmap} (fresh : pmm.initialized = false)
    (bounded : memSize < 2 ^ 32) (done : pmmInit pmm memSize storage = (0, booted)) :
    Accounted booted := by
  obtain ⟨bitmap, rfl⟩ := pmmInit_eq fresh done
  have erased : ∀ frame, frame < 8 * ((memSize / pmmPageSize + 7) / 8) →
      (bitmap.erase ((memSize / pmmPageSize + 7) / 8)).get frame = false := fun frame inside =>
    Bitmap.get_erase (by omega)
  refine ⟨?_, rfl, fun frame _ inside => erased frame inside, ?_⟩
  · refine (Nat.count_iff_forall_not.mpr fun frame inside => ?_).symm
    have inBitmap : frame < 8 * ((memSize / pmmPageSize + 7) / 8) := by
      change frame < memSize / pmmPageSize at inside
      omega
    simp [erased frame inBitmap]
  · exact Nat.lt_of_le_of_lt (Nat.div_le_self _ _) bounded

/-- Every run of calls keeps the counters exact. -/
theorem run_accounted {storage : Option Bitmap} (fresh : pmm.initialized = false)
    (bounded : memSize < 2 ^ 32) (done : pmmInit pmm memSize storage = (0, booted))
    (run : Run (Stepping pmmStep) booted calls after) : Accounted after := by
  refine run.invariant Accounted ?_ (pmmInit_accounted fresh bounded done)
  intro before call after accounted step
  have same : (pmmCall before call).2 = after := Option.some.inj step
  exact same ▸ pmmCall_accounted accounted call

/-- The state before initialization. -/
def blankPmm : Pmm where
  bitmap := fun _ => 0xFF
  totalFrames := 0
  freeFrames := 0
  usedFrames := 0
  bitmapSize := 0
  initialized := false

/-- Memory of 16 MiB whose frames are all free. -/
def sparePmm : Pmm := (pmmInit blankPmm 0x1000000 (some fun _ => 0)).2

/-- Ten frames, of which three in a row and one more are allocated. -/
theorem run_accounted_ten :
    ∃ booted after, pmmInit blankPmm 0xA000 (some fun _ => 0xFF) = (0, booted) ∧
      Run (Stepping pmmStep) booted [.allocFrames 3, .markRangeUsed 0xFFFFFFFE 4, .allocFrame] after ∧
      Accounted after := by
  obtain ⟨booted, done⟩ : ∃ booted, pmmInit blankPmm 0xA000 (some fun _ => 0xFF) = (0, booted) :=
    ⟨_, rfl⟩
  have run : Run (Stepping pmmStep) booted [.allocFrames 3, .markRangeUsed 0xFFFFFFFE 4, .allocFrame] _ :=
    .cons rfl (.cons rfl (.cons rfl (.nil _)))
  exact ⟨booted, _, done, run, run_accounted rfl (by decide) done run⟩

end AutismOS.Frames
