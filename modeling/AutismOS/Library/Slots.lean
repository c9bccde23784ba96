import AutismOS.Library.Bytes

namespace AutismOS.Library

/-! Entries of different lengths in a ring of bytes.

Positions count on over the end of the ring, and an entry that starts inside runs on behind the end
instead of starting anew, so that every entry lies in one piece.  The area behind the end is as long
as the ring.
-/

namespace Slots

variable {α : Type u} {content : α → List UInt8} {extent : α → Nat} {memory changed : ByteMemory}
variable {base size start other count low place : Nat} {entries front back : List α} {entry : α}

/-- The bytes that entries take up. -/
def total (extent : α → Nat) : List α → Nat
  | [] => 0
  | entry :: rest => extent entry + total extent rest

/-- The entries lie one after another from a position on. -/
def Lined (content : α → List UInt8) (extent : α → Nat) (memory : ByteMemory) (base size : Nat) : Nat → List α → Prop
  | _, [] => True
  | start, entry :: rest =>
      memory.Holds (base + start % size) (content entry) ∧
        Lined content extent memory base size (start + extent entry) rest

@[simp] theorem total_nil : total extent [] = 0 := rfl

@[simp] theorem total_cons : total extent (entry :: entries) = extent entry + total extent entries := rfl

theorem total_append : total extent (front ++ back) = total extent front + total extent back := by
  induction front with
  | nil => exact (Nat.zero_add _).symm
  | cons entry rest ih => rw [List.cons_append, total_cons, ih, total_cons, Nat.add_assoc]

theorem lined_append : Lined content extent memory base size start (front ++ back) ↔
    Lined content extent memory base size start front ∧
      Lined content extent memory base size (start + total extent front) back := by
  induction front generalizing start with
  | nil => exact (and_iff_right trivial).symm
  | cons entry rest ih =>
      rw [List.cons_append, Lined, Lined, ih, total_cons, Nat.add_assoc, and_assoc]

/-- Only the place in the ring matters. -/
theorem Lined.shift (lined : Lined content extent memory base size start entries) (same : start % size = other % size) :
    Lined content extent memory base size other entries := by
  induction entries generalizing start other with
  | nil => trivial
  | cons entry rest ih =>
      have further : (start + extent entry) % size = (other + extent entry) % size := by
        rw [Nat.add_mod, same, ← Nat.add_mod]
      refine ⟨?_, ih lined.2 further⟩
      rw [← same]
      exact lined.1

/-- A position less than twice around. -/
theorem mod_cases (once : place < 2 * size) : place % size = place ∧ place < size ∨
    place % size + size = place ∧ size ≤ place := by
  by_cases inside : place < size
  · exact Or.inl ⟨Nat.mod_eq_of_lt inside, inside⟩
  · have rest : place - size < size := by omega
    refine Or.inr ⟨?_, Nat.not_lt.mp inside⟩
    rw [Nat.mod_eq_sub_mod (Nat.not_lt.mp inside), Nat.mod_eq_of_lt rest]
    omega

/-- Two ranges that do not meet within one round do not meet in the ring or behind its end. -/
theorem places_apart {more : Nat} (inRing : low < size) (startAbove : low ≤ start)
    (startBelow : start + count ≤ low + size) (otherAbove : low ≤ other) (otherBelow : other + more ≤ low + size)
    (apart : start + count ≤ other ∨ other + more ≤ start) :
    start % size + count ≤ other % size ∨ other % size + more ≤ start % size ∨ count = 0 ∨ more = 0 := by
  by_cases none : count = 0
  · exact Or.inr (Or.inr (Or.inl none))
  by_cases nothing : more = 0
  · exact Or.inr (Or.inr (Or.inr nothing))
  have first := mod_cases (show start < 2 * size by omega)
  have second := mod_cases (show other < 2 * size by omega)
  omega

/-- A change of bytes apart from the entries leaves them as they are. -/
theorem Lined.keep (lined : Lined content extent memory base size start entries)
    (short : ∀ entry, (content entry).length ≤ extent entry) (fits : base + 2 * size ≤ 2 ^ 32) (inRing : low < size)
    (above : low ≤ start) (below : start + total extent entries ≤ low + size)
    (otherAbove : low ≤ other) (otherBelow : other + count ≤ low + size)
    (apart : start + total extent entries ≤ other ∨ other + count ≤ start)
    (same : ∀ address, ByteMemory.Apart (base + other % size) count address →
      changed.loadByte address = memory.loadByte address) :
    Lined content extent changed base size start entries := by
  induction entries generalizing start with
  | nil => trivial
  | cons entry rest ih =>
      rw [total_cons] at below apart
      have inside := short entry
      refine ⟨?_, ih lined.2 (by omega) (by omega) (by omega)⟩
      have places : start % size + (content entry).length ≤ other % size ∨ other % size + count ≤ start % size ∨
          (content entry).length = 0 ∨ count = 0 :=
        places_apart inRing above (by omega) otherAbove otherBelow (by omega)
      have first := mod_cases (show start < 2 * size by omega)
      have second : count = 0 ∨ other % size + count ≤ 2 * size := by
        by_cases none : count = 0
        · exact Or.inl none
        · have cases := mod_cases (show other < 2 * size by omega)
          omega
      have kept : changed.loadBytes (base + start % size) (content entry).length =
          memory.loadBytes (base + start % size) (content entry).length := by
        refine ByteMemory.loadBytes_congr fun offset within => same _ fun place isPlace => ?_
        omega
      exact kept.trans lined.1

end Slots

end AutismOS.Library
