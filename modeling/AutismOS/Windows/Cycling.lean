import Mathlib.Data.List.Basic
import Mathlib.Data.List.Nodup
import Mathlib.Logic.Function.Iterate
import AutismOS.Windows.Stacking

namespace AutismOS.Windows

open AutismOS.Library AutismOS.Input

namespace Desktop

variable {desktop : Desktop} {id index : Nat}

theorem bringToFront_windows {moved : Window} (found : desktop.windows[index]? = some moved) :
    (desktop.bringToFront index).windows = desktop.windows.eraseIdx index ++ [moved] := by
  obtain ⟨inside, isMoved⟩ := List.getElem?_eq_some_iff.mp found
  rw [bringToFront, found]
  dsimp only
  by_cases last : index + 1 = desktop.windows.length
  · have nonempty : desktop.windows ≠ [] := List.ne_nil_of_length_pos (Nat.zero_lt_of_lt inside)
    obtain rfl : index = desktop.windows.length - 1 := Nat.eq_sub_of_add_eq last
    have isLast : moved = desktop.windows.getLast nonempty := by
      rw [← isMoved, List.getLast_eq_getElem]
    rw [if_pos last, List.eraseIdx_length_sub_one, isLast, List.dropLast_append_getLast]
  · rw [if_neg last]

theorem findWindowById_eq : desktop.findWindowById id = desktop.ids.idxOf? id := by
  rw [findWindowById, ids, List.idxOf?, List.findIdx?_map]
  rfl

/-- The window that gets the focus moves to the end of the list; the others stay in their order. -/
theorem desktopFocusWindow_ids (member : id ∈ desktop.ids) :
    (desktop.desktopFocusWindow id).ids = desktop.ids.erase id ++ [id] ∧
      (desktop.desktopFocusWindow id).focusedWindow = id := by
  rw [desktopFocusWindow]
  cases found : desktop.findWindowById id with
  | none => exact absurd member (findWindowById_none_iff.mp found)
  | some index =>
      obtain ⟨moved, isMoved, isId⟩ := findWindowById_some found
      have isWindows := bringToFront_windows isMoved
      have isErased : desktop.ids.erase id = desktop.ids.eraseIdx index := by
        rw [List.erase_eq_eraseIdx, ← findWindowById_eq, found]
      have raised : (desktop.bringToFront index).ids = desktop.ids.erase id ++ [id] := by
        rw [ids, isWindows, List.map_append, List.map_singleton, isId, ← List.eraseIdx_map, isErased]
        rfl
      constructor
      · exact ids_markFocused.trans raised
      · have isTop : (desktop.bringToFront index).windows.getLast? = some moved := by
          rw [isWindows, List.getLast?_concat]
        dsimp only [setDirty]
        rw [markFocused, isTop, Option.map_some, Option.getD_some, isId]

/-- The ids are those of different windows, and one of them has the focus. -/
structure Focused (desktop : Desktop) : Prop where
  distinct : desktop.ids.Nodup
  nonzero : 0 ∉ desktop.ids
  focused : desktop.focusedWindow ∈ desktop.ids

theorem Stacked.focused (stacked : Stacked desktop) (nonempty : desktop.windows ≠ []) : Focused desktop := by
  refine ⟨stacked.distinct, stacked.nonzero, ?_⟩
  have someIds : desktop.ids ≠ [] := List.map_eq_nil_iff.not.mpr nonempty
  rw [stacked.top, List.getLast?_eq_getLast_of_ne_nil someIds, Option.getD_some]
  exact List.getLast_mem someIds

theorem Focused.focus (focused : Focused desktop) (member : id ∈ desktop.ids) :
    Focused (desktop.desktopFocusWindow id) := by
  obtain ⟨isIds, isFocus⟩ := desktopFocusWindow_ids member
  have same : (desktop.ids.erase id ++ [id]).Perm desktop.ids :=
    (List.perm_append_singleton id _).trans (List.perm_cons_erase member).symm
  rw [← isIds] at same
  refine ⟨same.nodup_iff.mpr focused.distinct, same.mem_iff.not.mpr focused.nonzero, ?_⟩
  rw [isFocus]
  exact same.mem_iff.mpr member

/-- The window before the focused one in the list comes next, and the topmost one after the lowest. -/
theorem Focused.cycle (focused : Focused desktop) (isFocus : desktop.ids[index]? = some desktop.focusedWindow)
    (isNext : desktop.ids[if index = 0 then desktop.ids.length - 1 else index - 1]? = some id) :
    desktop.desktopCycleFocus = desktop.desktopFocusWindow id := by
  have running : desktop.focusedWindow ≠ 0 := fun zero => focused.nonzero (zero ▸ focused.focused)
  have isLength : desktop.ids.length = desktop.windows.length := List.length_map _
  rw [getElem?_ids, isLength] at isNext
  rw [desktopCycleFocus]
  cases isTop : desktop.windows.getLast? with
  | none =>
      rw [getElem?_ids, List.getLast?_eq_none_iff.mp isTop] at isFocus
      cases isFocus
  | some top =>
      dsimp only
      rw [if_neg running, findWindowById_of_nodup focused.distinct isFocus]
      cases index with
      | zero =>
          rw [if_pos rfl, ← List.getLast?_eq_getElem?, isTop, Option.map_some] at isNext
          rw [Option.some.inj isNext]
      | succ index =>
          rw [if_neg (Nat.succ_ne_zero index), Nat.add_sub_cancel] at isNext
          obtain ⟨next, found, isId⟩ := Option.map_eq_some_iff.mp isNext
          dsimp only
          rw [found]
          dsimp only
          rw [isId]

theorem length_ids : desktop.ids.length = desktop.windows.length := List.length_map _

/-- With more than one window, another one gets the focus. -/
theorem Focused.cycle_moves (focused : Focused desktop) (more : 1 < desktop.windows.length) :
    ∃ id ∈ desktop.ids, id ≠ desktop.focusedWindow ∧ desktop.desktopCycleFocus = desktop.desktopFocusWindow id := by
  obtain ⟨index, isFocus⟩ := List.getElem?_of_mem focused.focused
  have inside : index < desktop.ids.length := (List.getElem?_eq_some_iff.mp isFocus).1
  rw [← length_ids] at more
  have placed : (if index = 0 then desktop.ids.length - 1 else index - 1) < desktop.ids.length := by
    split
    · omega
    · omega
  have elsewhere : (if index = 0 then desktop.ids.length - 1 else index - 1) ≠ index := by
    split
    · omega
    · omega
  have isNext := List.getElem?_eq_getElem placed
  refine ⟨_, List.getElem_mem placed, ?_, focused.cycle isFocus isNext⟩
  intro same
  rw [same, ← isFocus] at isNext
  exact elsewhere ((List.getElem?_inj placed focused.distinct).mp isNext)

/-- The topmost two windows change places. -/
theorem Focused.cycle_top {front : List Nat} {next top : Nat} (focused : Focused desktop)
    (isIds : desktop.ids = front ++ [next, top]) (isTop : desktop.focusedWindow = top) :
    desktop.desktopCycleFocus = desktop.desktopFocusWindow next ∧
      (desktop.desktopFocusWindow next).ids = front ++ [top, next] := by
  have isFocus : desktop.ids[front.length + 1]? = some desktop.focusedWindow := by
    rw [isIds, isTop, List.getElem?_append_right (Nat.le_succ _), Nat.succ_sub (Nat.le_refl _), Nat.sub_self]
    rfl
  have isNext : desktop.ids[front.length]? = some next := by
    rw [isIds, List.getElem?_append_right (Nat.le_refl _), Nat.sub_self]
    rfl
  have distinct := focused.distinct
  rw [isIds] at distinct
  have notInFront : next ∉ front := fun member =>
    (List.nodup_append.mp distinct).2.2 next member next List.mem_cons_self rfl
  have isErased : desktop.ids.erase next = front ++ [top] := by
    rw [isIds, List.erase_append_right _ notInFront, List.erase_cons_head]
  constructor
  · apply focused.cycle isFocus
    rw [if_neg (Nat.succ_ne_zero _), Nat.add_sub_cancel]
    exact isNext
  · rw [(desktopFocusWindow_ids (List.mem_of_getElem? isNext)).1, isErased, List.append_assoc]
    rfl

/-- The windows that a number of calls gives the focus to. -/
def visits (desktop : Desktop) (calls : Nat) : List Nat :=
  (List.range calls).map fun call => (desktopCycleFocus^[call + 1] desktop).focusedWindow

/-- As many calls as there are windows visit each of them once, and come back to the first. -/
def CyclesThrough (desktop : Desktop) : Prop :=
  (desktop.visits desktop.windows.length).Perm desktop.ids ∧
    (desktopCycleFocus^[desktop.windows.length] desktop).focusedWindow = desktop.focusedWindow

theorem cyclesThrough_one (focused : Focused desktop) (one : desktop.windows.length = 1) : desktop.CyclesThrough := by
  obtain ⟨only, isIds⟩ := List.length_eq_one_iff.mp (length_ids.trans one)
  have isFocus : desktop.focusedWindow = only := List.mem_singleton.mp (isIds ▸ focused.focused)
  have first : desktop.ids[0]? = some only := by
    rw [isIds]
    rfl
  have isNext : desktop.ids[if 0 = 0 then desktop.ids.length - 1 else 0 - 1]? = some only := by
    rw [if_pos rfl, isIds]
    rfl
  have isAfter : desktop.desktopCycleFocus.focusedWindow = only := by
    rw [focused.cycle (first.trans (congrArg some isFocus.symm)) isNext]
    exact (desktopFocusWindow_ids (List.mem_of_getElem? first)).2
  rw [CyclesThrough, one, isIds, isFocus]
  constructor
  · exact .of_eq (congrArg ([·]) isAfter)
  · exact isAfter

/-- With two windows the other one gets the focus, and then the first one again. -/
theorem cyclesThrough_two (focused : Focused desktop) (two : desktop.windows.length = 2) : desktop.CyclesThrough := by
  obtain ⟨other, isOther, differs, isCycle⟩ := focused.cycle_moves (two ▸ Nat.lt_succ_self 1)
  have nextFocused : Focused desktop.desktopCycleFocus := by
    rw [isCycle]
    exact focused.focus isOther
  obtain ⟨isIds, isFocus⟩ := desktopFocusWindow_ids isOther
  rw [← isCycle] at isIds isFocus
  have sameIds : desktop.desktopCycleFocus.ids.Perm desktop.ids := by
    rw [isIds]
    exact (List.perm_append_singleton other _).trans (List.perm_cons_erase isOther).symm
  have nextTwo : desktop.desktopCycleFocus.windows.length = 2 := by
    rw [← length_ids, sameIds.length_eq, length_ids, two]
  obtain ⟨back, isBack, backDiffers, isBackCycle⟩ := nextFocused.cycle_moves (nextTwo ▸ Nat.lt_succ_self 1)
  have isBackFocus := (desktopFocusWindow_ids isBack).2
  rw [← isBackCycle] at isBackFocus
  rw [isFocus] at backDiffers
  have isVisits : desktop.visits 2 =
      [desktop.desktopCycleFocus.focusedWindow, desktop.desktopCycleFocus.desktopCycleFocus.focusedWindow] := rfl
  obtain ⟨lower, upper, bothIds⟩ := List.length_eq_two.mp (length_ids.trans two)
  have firstIn := focused.focused
  have backIn := sameIds.mem_iff.mp isBack
  rw [bothIds, List.mem_pair] at firstIn isOther backIn
  have isFirst : back = desktop.focusedWindow := by omega
  rw [CyclesThrough, two, isVisits, isFocus, isBackFocus, isFirst, bothIds]
  constructor
  · rcases firstIn with isLower | isUpper
    · obtain rfl : other = upper := by omega
      rw [isLower]
      exact .swap lower other []
    · obtain rfl : other = lower := by omega
      rw [isUpper]
  · exact isBackFocus.trans isFirst

/-- From the first call on, the same two windows take turns. -/
theorem cycle_returns (focused : Focused desktop) (more : 1 < desktop.windows.length) :
    desktop.desktopCycleFocus.desktopCycleFocus.desktopCycleFocus.focusedWindow =
      desktop.desktopCycleFocus.focusedWindow := by
  obtain ⟨id, member, -, isCycle⟩ := focused.cycle_moves more
  obtain ⟨isIds, isFocus⟩ := desktopFocusWindow_ids member
  have first : Focused (desktop.desktopFocusWindow id) := focused.focus member
  have rest : desktop.ids.erase id ≠ [] := by
    apply List.ne_nil_of_length_pos
    rw [List.length_erase_of_mem member, length_ids]
    omega
  have firstIds : (desktop.desktopFocusWindow id).ids =
      (desktop.ids.erase id).dropLast ++ [(desktop.ids.erase id).getLast rest, id] := by
    rw [isIds, List.append_cons (desktop.ids.erase id).dropLast, List.dropLast_append_getLast]
  obtain ⟨isSecond, secondIds⟩ := first.cycle_top firstIds isFocus
  have isBelow : (desktop.ids.erase id).getLast rest ∈ (desktop.desktopFocusWindow id).ids := by
    rw [firstIds]
    exact List.mem_append_right _ List.mem_cons_self
  have third := (first.focus isBelow).cycle_top secondIds (desktopFocusWindow_ids isBelow).2
  rw [isCycle, isSecond, third.1, isFocus]
  apply (desktopFocusWindow_ids _).2
  rw [secondIds]
  exact List.mem_append_right _ List.mem_cons_self

/-- Cycling visits every window exactly if there are no more than two. -/
theorem cyclesThrough_iff (focused : Focused desktop) : desktop.CyclesThrough ↔ desktop.windows.length ≤ 2 := by
  constructor
  · intro ⟨sameIds, _⟩
    apply Classical.byContradiction
    intro more
    have third : 2 < (desktop.visits desktop.windows.length).length := by
      rw [visits, List.length_map, List.length_range]
      omega
    have repeated : (desktop.visits desktop.windows.length)[0]? = (desktop.visits desktop.windows.length)[2]? := by
      rw [visits, List.getElem?_map, List.getElem?_map, List.getElem?_range (by omega), List.getElem?_range (by omega)]
      exact congrArg some (cycle_returns focused (by omega)).symm
    have distinct := sameIds.nodup_iff.mpr focused.distinct
    cases (List.getElem?_inj (Nat.zero_lt_of_lt third) distinct).mp repeated
  · intro few
    have open_ : 0 < desktop.windows.length := by
      rw [← length_ids]
      exact List.length_pos_of_mem focused.focused
    obtain one | two : desktop.windows.length = 1 ∨ desktop.windows.length = 2 := by omega
    · exact cyclesThrough_one focused one
    · exact cyclesThrough_two focused two

theorem cyclesThrough_notepad_calculator : (desktopInit 160 100).notepadCreate.calculatorCreate.CyclesThrough :=
  (cyclesThrough_iff ⟨by decide +kernel, by decide +kernel, by decide +kernel⟩).mpr (by decide +kernel)

instance : Decidable desktop.CyclesThrough := inferInstanceAs (Decidable (_ ∧ _))

/-- Of three windows, the lowest never gets the focus. -/
theorem not_cyclesThrough_sysinfo :
    ¬ (desktopInit 160 100).notepadCreate.calculatorCreate.sysinfoCreate.CyclesThrough := by
  decide +kernel

end Desktop

end AutismOS.Windows
