import Mathlib.Order.Bounds.Basic

namespace AutismOS.Library

/-! First fit: the least gap of a given length in a row of positions, some of which are taken.

A search that goes upwards and leaves a start out only because of a taken
position finds the least gap, however far it skips at once.
-/

variable {taken : Nat → Prop} {lower upper count start position : Nat}

/-- The `count` positions from `start` on lie between the bounds, and none of them is taken. -/
structure Gap (taken : Nat → Prop) (lower upper count start : Nat) : Prop where
  above : lower ≤ start
  below : start + count ≤ upper
  free : ∀ position, start ≤ position → position < start + count → ¬ taken position

/-- Each start from `lower` on and below `start` runs into a taken position. -/
def Exhausted (taken : Nat → Prop) (lower count start : Nat) : Prop :=
  ∀ other, lower ≤ other → other < start → ∃ position, other ≤ position ∧ position < other + count ∧ taken position

theorem Exhausted.first : Exhausted taken lower count lower := by
  intro other above below
  omega

theorem Exhausted.mono {earlier : Nat} (exhausted : Exhausted taken lower count start) (before : earlier ≤ start) :
    Exhausted taken lower count earlier := fun other above below => exhausted other above (Nat.lt_of_lt_of_le below before)

/-- A taken position rules out every start up to it that reaches it. -/
theorem Exhausted.skip (exhausted : Exhausted taken lower count start) (isTaken : taken position)
    (reached : position < start + count) : Exhausted taken lower count (position + 1) := by
  intro other above below
  by_cases earlier : other < start
  · exact exhausted other above earlier
  · exact ⟨position, by omega, by omega, isTaken⟩

theorem Exhausted.not_gap {other : Nat} (exhausted : Exhausted taken lower count start) (earlier : other < start) :
    ¬ Gap taken lower upper count other := by
  intro gap
  obtain ⟨position, from_, below, isTaken⟩ := exhausted other gap.above earlier
  exact gap.free position from_ below isTaken

theorem Exhausted.least (exhausted : Exhausted taken lower count start) (gap : Gap taken lower upper count start) :
    IsLeast {start | Gap taken lower upper count start} start := by
  refine ⟨gap, ?_⟩
  intro other otherGap
  by_contra smaller
  exact exhausted.not_gap (Nat.lt_of_not_le smaller) otherGap

theorem Exhausted.none (exhausted : Exhausted taken lower count start) (reached : upper < start + count)
    (other : Nat) : ¬ Gap taken lower upper count other := by
  intro gap
  by_cases earlier : other < start
  · exact exhausted.not_gap earlier gap
  · have below := gap.below
    omega

end AutismOS.Library
