import AutismOS.Frames.Accounting

namespace AutismOS.Frames

open AutismOS.Library

variable {pmm booted after : Pmm} {mark : Pmm → Nat → Pmm} {value : Bool} {calls : List PmmCall}
variable {frame start count memSize : Nat}

/-! Which frames a range call marks. -/

/-- Marking a frame gives `value` to that frame if it is a real one, and to no other. -/
structure Marking (mark : Pmm → Nat → Pmm) (value : Bool) : Prop where
  same : ∀ pmm frame, frame < pmm.totalFrames → (mark pmm frame).bitmap.get frame = value
  other : ∀ pmm frame other, other ≠ frame ∨ pmm.totalFrames ≤ frame →
    (mark pmm frame).bitmap.get other = pmm.bitmap.get other
  sizes : ∀ pmm frame, (mark pmm frame).totalFrames = pmm.totalFrames ∧ (mark pmm frame).initialized = pmm.initialized

theorem pmmMarkUsed_marking : Marking pmmMarkUsed true := by
  constructor
  · intro pmm frame inside
    cases marked : pmm.bitmap.get frame with
    | true => simp [pmmMarkUsed, Nat.not_le.mpr inside, marked]
    | false => simp [pmmMarkUsed, Nat.not_le.mpr inside, marked, Bitmap.get_set]
  · intro pmm frame other outside
    rcases pmmMarkUsed_cases pmm frame with same | ⟨inside, _, marked⟩
    · rw [same]
    · have apart : other ≠ frame := by omega
      rw [marked, get_grabbed_one, decide_eq_false apart, Bool.false_or]
  · intro pmm frame
    rcases pmmMarkUsed_cases pmm frame with same | ⟨_, _, marked⟩
    · rw [same]
      exact ⟨rfl, rfl⟩
    · rw [marked]
      exact ⟨rfl, rfl⟩

theorem pmmMarkFree_marking : Marking pmmMarkFree false := by
  constructor
  · intro pmm frame inside
    cases marked : pmm.bitmap.get frame with
    | true => simp [pmmMarkFree, Nat.not_le.mpr inside, marked, Bitmap.get_clear]
    | false => simp [pmmMarkFree, Nat.not_le.mpr inside, marked]
  · intro pmm frame other outside
    rcases pmmMarkFree_cases pmm frame with same | ⟨inside, _, freed⟩
    · rw [same]
    · have apart : other ≠ frame := by omega
      rw [freed, dropped, Bitmap.get_clear, decide_eq_true apart, Bool.true_and]
  · intro pmm frame
    rcases pmmMarkFree_cases pmm frame with same | ⟨_, _, freed⟩
    · rw [same]
      exact ⟨rfl, rfl⟩
    · rw [freed]
      exact ⟨rfl, rfl⟩

theorem Marking.sizes_range (marking : Marking mark value) (pmm : Pmm) (start count : Nat) :
    (markRange mark pmm start count).totalFrames = pmm.totalFrames ∧
      (markRange mark pmm start count).initialized = pmm.initialized := by
  apply markRange_invariant fun after => after.totalFrames = pmm.totalFrames ∧ after.initialized = pmm.initialized
  · intro before frame same
    exact ⟨(marking.sizes before frame).1.trans same.1, (marking.sizes before frame).2.trans same.2⟩
  · exact ⟨rfl, rfl⟩

/-- Frames that the 32-bit counter does not come to keep their mark. -/
theorem Marking.outside (marking : Marking mark value) (small : start < 2 ^ 32)
    (outside : ∀ i < count, frame ≠ add32 start i) :
    (markRange mark pmm start count).bitmap.get frame = pmm.bitmap.get frame := by
  induction count generalizing pmm start with
  | zero => rfl
  | succ count ih =>
      have notFirst : frame ≠ start := by
        intro same
        apply outside 0 (Nat.succ_pos count)
        unfold add32
        omega
      have later : ∀ i < count, frame ≠ add32 (add32 start 1) i := by
        intro i below same
        apply outside (i + 1) (Nat.succ_lt_succ below)
        unfold add32 at *
        omega
      have wrapped : add32 start 1 < 2 ^ 32 := Nat.mod_lt _ (by decide)
      rw [markRange, ih wrapped later, marking.other pmm start frame (Or.inl notFirst)]

theorem Marking.beyond (marking : Marking mark value) (beyond : pmm.totalFrames ≤ frame) :
    (markRange mark pmm start count).bitmap.get frame = pmm.bitmap.get frame := by
  have kept : (markRange mark pmm start count).bitmap.get frame = pmm.bitmap.get frame ∧
      (markRange mark pmm start count).totalFrames = pmm.totalFrames := by
    apply markRange_invariant fun after =>
      after.bitmap.get frame = pmm.bitmap.get frame ∧ after.totalFrames = pmm.totalFrames
    · intro before other same
      have apart : frame ≠ other ∨ before.totalFrames ≤ other := by omega
      exact ⟨(marking.other before other frame apart).trans same.1, (marking.sizes before other).1.trans same.2⟩
    · exact ⟨rfl, rfl⟩
  exact kept.1

theorem Marking.stays (marking : Marking mark value) (marked : pmm.bitmap.get frame = value) :
    (markRange mark pmm start count).bitmap.get frame = value := by
  apply markRange_invariant fun after => after.bitmap.get frame = value
  · intro before other marked
    by_cases apart : frame ≠ other ∨ before.totalFrames ≤ other
    · exact (marking.other before other frame apart).trans marked
    · obtain rfl : frame = other := by omega
      exact marking.same before frame (by omega)
  · exact marked

/-- Real frames that the 32-bit counter comes to are marked. -/
theorem Marking.inside (marking : Marking mark value) (small : start < 2 ^ 32) (real : frame < pmm.totalFrames)
    (reached : ∃ i < count, frame = add32 start i) :
    (markRange mark pmm start count).bitmap.get frame = value := by
  induction count generalizing pmm start with
  | zero =>
      obtain ⟨i, below, _⟩ := reached
      exact absurd below (Nat.not_lt_zero i)
  | succ count ih =>
      rw [markRange]
      by_cases first : frame = start
      · subst first
        exact marking.stays (marking.same pmm frame real)
      · obtain ⟨i, below, same⟩ := reached
        have later : ∃ i < count, frame = add32 (add32 start 1) i := by
          refine ⟨i - 1, ?_, ?_⟩
          all_goals unfold add32 at *
          all_goals omega
        apply ih (Nat.mod_lt _ (by decide))
        · rw [(marking.sizes pmm start).1]
          exact real
        · exact later

/-- The counter comes to the frames of the range, and from 2^32 on to the lowest ones. -/
theorem reached_iff (small : start < 2 ^ 32) (short : count < 2 ^ 32) (real : frame < 2 ^ 32) :
    (∃ i < count, frame = add32 start i) ↔
      start ≤ frame ∧ frame < start + count ∨ frame + 2 ^ 32 < start + count := by
  unfold add32
  constructor
  · intro reached
    obtain ⟨i, below, rfl⟩ := reached
    omega
  · intro reached
    rcases reached with ⟨above, below⟩ | wrapped
    · exact ⟨frame - start, by omega, by omega⟩
    · exact ⟨frame + 2 ^ 32 - start, by omega, by omega⟩

/-- The real frames from `start` to `start + count` get the mark, and no other frame changes. -/
structure RangeMarked (pmm : Pmm) (start count : Nat) (value : Bool) (after : Pmm) : Prop where
  inside : ∀ frame, start ≤ frame → frame < start + count → frame < pmm.totalFrames → after.bitmap.get frame = value
  outside : ∀ frame, ¬ (start ≤ frame ∧ frame < start + count ∧ frame < pmm.totalFrames) →
    after.bitmap.get frame = pmm.bitmap.get frame

/-- The frames that the counter comes to after it wrapped around have the mark already. -/
def Harmless (pmm : Pmm) (start count : Nat) (value : Bool) : Prop :=
  ∀ frame < pmm.totalFrames, frame + 2 ^ 32 < start + count → pmm.bitmap.get frame = value

theorem Marking.rangeMarked_iff (marking : Marking mark value) (addressable : pmm.totalFrames ≤ 2 ^ 32)
    (small : start < 2 ^ 32) (short : count < 2 ^ 32) :
    RangeMarked pmm start count value (markRange mark pmm start count) ↔ Harmless pmm start count value := by
  constructor
  · intro marked frame real wrapped
    have outside : ¬ (start ≤ frame ∧ frame < start + count ∧ frame < pmm.totalFrames) := by omega
    have reached : ∃ i < count, frame = add32 start i :=
      (reached_iff small short (by omega)).mpr (Or.inr wrapped)
    calc
      pmm.bitmap.get frame = (markRange mark pmm start count).bitmap.get frame := (marked.outside frame outside).symm
      _ = value := marking.inside small real reached
  · intro harmless
    constructor
    · intro frame above below real
      have reached : ∃ i < count, frame = add32 start i :=
        (reached_iff small short (by omega)).mpr (Or.inl ⟨above, below⟩)
      exact marking.inside small real reached
    · intro frame outside
      by_cases beyond : pmm.totalFrames ≤ frame
      · exact marking.beyond beyond
      · by_cases wrapped : frame + 2 ^ 32 < start + count
        · have already : pmm.bitmap.get frame = value := harmless frame (by omega) wrapped
          rw [marking.stays already, already]
        · apply marking.outside small
          intro i below same
          have reached := (reached_iff small short (by omega)).mp ⟨i, below, same⟩
          omega

/-- After any calls, a range call marks its range only, exactly where the frames beyond the wrap-around
have the mark already. -/
theorem run_rangeMarked_iff {storage : Option Bitmap} (fresh : pmm.initialized = false)
    (bounded : memSize < 2 ^ 32) (done : pmmInit pmm memSize storage = (0, booted))
    (run : Run (Stepping pmmStep) booted calls after) (small : start < 2 ^ 32) (short : count < 2 ^ 32) :
    (RangeMarked after start count true (pmmMarkRangeUsed after start count) ↔ Harmless after start count true) ∧
    (RangeMarked after start count false (pmmMarkRangeFree after start count) ↔ Harmless after start count false) ∧
    (RangeMarked after start count false (pmmFreeFrames after start count) ↔ Harmless after start count false) := by
  have accounted := run_accounted fresh bounded done run
  have addressable := Nat.le_of_lt accounted.small
  have free : RangeMarked after start count false (pmmMarkRangeFree after start count) ↔
      Harmless after start count false := by
    rw [pmmMarkRangeFree, Nat.mod_eq_of_lt small]
    exact pmmMarkFree_marking.rangeMarked_iff addressable small short
  refine ⟨?_, free, free⟩
  rw [pmmMarkRangeUsed, Nat.mod_eq_of_lt small]
  exact pmmMarkUsed_marking.rangeMarked_iff addressable small short

/-- Frames beyond the end of memory are ignored, up to the last 32-bit number. -/
theorem run_rangeMarked_iff_end :
    ∃ booted after, pmmInit blankPmm 0xA000 (some fun _ => 0xFF) = (0, booted) ∧
      Run (Stepping pmmStep) booted [.allocFrame] after ∧
      (RangeMarked after 0xFFFFFFFE 2 true (pmmMarkRangeUsed after 0xFFFFFFFE 2) ↔
        Harmless after 0xFFFFFFFE 2 true) ∧ Harmless after 0xFFFFFFFE 2 true := by
  obtain ⟨booted, done⟩ : ∃ booted, pmmInit blankPmm 0xA000 (some fun _ => 0xFF) = (0, booted) := ⟨_, rfl⟩
  have run : Run (Stepping pmmStep) booted [.allocFrame] _ := .single rfl
  obtain ⟨used, _⟩ : (RangeMarked _ 0xFFFFFFFE 2 true _ ↔ _) ∧ _ :=
    run_rangeMarked_iff rfl (by decide) done run (by decide) (by decide)
  refine ⟨booted, _, done, run, used, ?_⟩
  intro frame _ wrapped
  omega

/-- Marking the range from the last two 32-bit numbers on marks frame 0, which is not in it. -/
theorem pmmMarkRangeUsed_wraps :
    ∃ booted, pmmInit blankPmm 0xA000 (some fun _ => 0xFF) = (0, booted) ∧
      ¬ RangeMarked booted 0xFFFFFFFE 4 true (pmmMarkRangeUsed booted 0xFFFFFFFE 4) := by
  refine ⟨(pmmInit blankPmm 0xA000 (some fun _ => 0xFF)).2, rfl, ?_⟩
  intro marked
  have kept := marked.outside 0 (by decide)
  revert kept
  decide

end AutismOS.Frames
