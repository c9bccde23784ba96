import Mathlib.Algebra.Group.Nat.Defs
import Mathlib.Data.List.InsertIdx
import Mathlib.Logic.Function.Basic

namespace AutismOS.Library

/-! A list in the front of an array.

A loop makes room for an entry by moving those behind it up, another one takes an entry out by moving
those behind it down, and a third one finds the place.
-/

namespace Shifting

variable {α : Type u} {entries : Nat → α} {count place index last remaining : Nat} {entry : α} {test : α → Bool}

/-- The first entries of an array. -/
def front (entries : Nat → α) (count : Nat) : List α := (List.range count).map entries

/-- From `last` down, each entry behind `place` becomes the one before it. -/
def openGap (place : Nat) (entries : Nat → α) : Nat → Nat → α
  | 0 => entries
  | last + 1 =>
      if place < last + 1 then openGap place (Function.update entries (last + 1) (entries last)) last else entries

/-- From `index` on, entries become the ones behind them. -/
def closeGap (entries : Nat → α) (index : Nat) : Nat → Nat → α
  | 0 => entries
  | remaining + 1 => closeGap (Function.update entries index (entries (index + 1))) (index + 1) remaining

/-- The first place from `index` on whose entry passes the test, or the one where the search ends. -/
def search (test : α → Bool) (entries : Nat → α) (index : Nat) : Nat → Nat
  | 0 => index
  | remaining + 1 => if test (entries index) then index else search test entries (index + 1) remaining

@[simp] theorem length_front : (front entries count).length = count := by
  rw [front, List.length_map, List.length_range]

theorem getElem?_front : (front entries count)[index]? = if index < count then some (entries index) else none := by
  rw [front, List.getElem?_map]
  by_cases inside : index < count
  · rw [if_pos inside, List.getElem?_range inside, Option.map_some]
  · rw [if_neg inside, List.getElem?_eq_none (by simpa using inside), Option.map_none]

/-- An entry behind the front is none of the list. -/
theorem front_update (outside : count ≤ place) : front (Function.update entries place entry) count = front entries count := by
  refine List.map_congr_left fun index member => Function.update_of_ne ?_ _ _
  exact Nat.ne_of_lt (Nat.lt_of_lt_of_le (List.mem_range.mp member) outside)

theorem openGap_self : openGap place entries place = entries := by
  cases place with
  | zero => rfl
  | succ last => exact if_neg (Nat.lt_irrefl _)

theorem openGap_apply :
    openGap place entries last index = if place < index ∧ index ≤ last then entries (index - 1) else entries index := by
  induction last generalizing entries with
  | zero =>
      rw [openGap, if_neg]
      omega
  | succ last ih =>
      rw [openGap]
      by_cases behind : place < last + 1
      · rw [if_pos behind, ih]
        by_cases top : index = last + 1
        · rw [top, if_neg (by omega), if_pos ⟨behind, Nat.le_refl _⟩, Function.update_self]
          rfl
        · by_cases moved : place < index ∧ index ≤ last
          · rw [if_pos moved, if_pos ⟨moved.1, Nat.le_succ_of_le moved.2⟩, Function.update_of_ne]
            omega
          · rw [if_neg moved, if_neg (by omega), Function.update_of_ne top]
      · rw [if_neg behind, if_neg]
        omega

theorem closeGap_apply : closeGap entries place remaining index =
    if place ≤ index ∧ index < place + remaining then entries (index + 1) else entries index := by
  induction remaining generalizing entries place with
  | zero =>
      rw [closeGap, if_neg]
      omega
  | succ remaining ih =>
      rw [closeGap, ih]
      by_cases here : index = place
      · rw [here, if_neg (by omega), if_pos (by omega), Function.update_self]
      · by_cases moved : place + 1 ≤ index ∧ index < place + 1 + remaining
        · rw [if_pos moved, if_pos (by omega), Function.update_of_ne]
          omega
        · rw [if_neg moved, if_neg (by omega), Function.update_of_ne here]

/-- An entry that is put into the gap is inserted into the list. -/
theorem front_openGap (inside : place ≤ count) :
    front (Function.update (openGap place entries count) place entry) (count + 1) =
      (front entries count).insertIdx place entry := by
  refine List.ext_getElem? fun index => ?_
  rw [getElem?_front, List.getElem?_insertIdx, length_front, getElem?_front, getElem?_front]
  by_cases before : index < place
  · rw [if_pos (by omega), if_pos before, if_pos (by omega), Function.update_of_ne (Nat.ne_of_lt before), openGap_apply,
      if_neg (by omega)]
  · rw [if_neg before]
    by_cases here : index = place
    · rw [here, if_pos (by omega), if_pos rfl, if_pos inside, Function.update_self]
    · rw [if_neg here, Function.update_of_ne here, openGap_apply]
      by_cases last : index < count + 1
      · rw [if_pos last, if_pos (by omega), if_pos (by omega)]
      · rw [if_neg last, if_neg (by omega)]

/-- An entry whose gap is closed is taken out of the list. -/
theorem front_closeGap (inside : place < count + 1) :
    front (closeGap entries place (count - place)) count = (front entries (count + 1)).eraseIdx place := by
  refine List.ext_getElem? fun index => ?_
  rw [getElem?_front, List.getElem?_eraseIdx, getElem?_front, getElem?_front, closeGap_apply]
  by_cases before : index < place
  · have unmoved : ¬ (place ≤ index ∧ index < place + (count - place)) := by omega
    have inFront : index < count := by omega
    rw [if_pos before, if_neg unmoved, if_pos inFront, if_pos (Nat.lt_succ_of_lt inFront)]
  · rw [if_neg before]
    by_cases last : index < count
    · have moved : place ≤ index ∧ index < place + (count - place) := by omega
      rw [if_pos moved, if_pos last, if_pos (Nat.succ_lt_succ last)]
    · rw [if_neg last, if_neg fun contrary => last (Nat.lt_of_succ_lt_succ contrary)]

/-- The search finds the first place in the list. -/
theorem search_eq : search test entries index remaining =
    index + (front (fun place => entries (index + place)) remaining).findIdx test := by
  induction remaining generalizing index with
  | zero => rfl
  | succ remaining ih =>
      have starts : front (fun place => entries (index + place)) (remaining + 1) =
          entries index :: front (fun place => entries (index + 1 + place)) remaining := by
        rw [front, List.range_succ_eq_map, List.map_cons, List.map_map]
        refine congrArg (entries index :: ·) (List.map_congr_left fun place _ => congrArg entries ?_)
        dsimp only [Nat.succ_eq_add_one]
        omega
      rw [search, starts, List.findIdx_cons]
      cases test (entries index) with
      | true => rfl
      | false =>
          rw [if_neg Bool.false_ne_true, ih, cond_false]
          omega

theorem search_zero : search test entries 0 count = (front entries count).findIdx test := by
  rw [search_eq, Nat.zero_add]
  simp only [Nat.zero_add]

/-- A list stays in order when an entry is inserted in front of the first one that passes the test, if what passes the
test belongs behind that entry and the rest before it. -/
theorem pairwise_insertIdx_findIdx {list : List α} {order : α → α → Prop} (ordered : list.Pairwise order)
    (kept : ∀ first second, order first second → test first = true → test second = true)
    (behind : ∀ other ∈ list, test other = true → order entry other)
    (before : ∀ other ∈ list, test other = false → order other entry) :
    (list.insertIdx (list.findIdx test) entry).Pairwise order := by
  induction list with
  | nil => exact List.pairwise_singleton order entry
  | cons first rest ih =>
      obtain ⟨firstOrdered, restOrdered⟩ := List.pairwise_cons.mp ordered
      rw [List.findIdx_cons]
      cases passes : test first with
      | true =>
          apply List.pairwise_cons.mpr
          constructor
          · intro other member
            apply behind other member
            rcases List.mem_cons.mp member with same | later
            · rw [same, passes]
            · exact kept first other (firstOrdered other later) passes
          · exact ordered
      | false =>
          have inserted := ih restOrdered (fun other member => behind other (List.mem_cons_of_mem first member))
            fun other member => before other (List.mem_cons_of_mem first member)
          rw [cond_false, List.insertIdx_succ_cons]
          apply List.pairwise_cons.mpr
          constructor
          · intro other member
            rcases List.eq_or_mem_of_mem_insertIdx member with same | old
            · rw [same]
              exact before first List.mem_cons_self passes
            · exact firstOrdered other old
          · exact inserted

/-- Where nothing else passes the test, the inserted entry is what is found, if it passes. -/
theorem findIdx_insertIdx {list : List α} (absent : ∀ other ∈ list, test other = false) (inside : place ≤ list.length) :
    (list.insertIdx place entry).findIdx test = if test entry then place else list.length + 1 := by
  induction list generalizing place with
  | nil =>
      obtain rfl := Nat.le_zero.mp inside
      rw [List.insertIdx_zero, List.findIdx_cons]
      cases test entry with
      | true => rfl
      | false => rfl
  | cons first rest ih =>
      have restAbsent (other : α) (member : other ∈ rest) : test other = false :=
        absent other (List.mem_cons_of_mem first member)
      have firstAbsent := absent first List.mem_cons_self
      have isRest : rest.findIdx test = rest.length := List.findIdx_eq_length_of_false restAbsent
      cases place with
      | zero =>
          rw [List.insertIdx_zero, List.findIdx_cons, List.findIdx_cons, firstAbsent, isRest]
          cases test entry with
          | true => rfl
          | false => rfl
      | succ place =>
          rw [List.insertIdx_succ_cons, List.findIdx_cons, firstAbsent, cond_false,
            ih restAbsent (Nat.le_of_succ_le_succ inside)]
          cases test entry with
          | true => rfl
          | false => rfl

end Shifting

end AutismOS.Library
