import AutismOS.Frames.Supply

namespace AutismOS.Frames

open AutismOS.Library

/-! # The allocator before its bitmap exists

Here the pointer to the bitmap is part of the state, and an access through NULL has no result.
-/

/-- The global state `g_pmm` with the pointer `bitmap`, `none` for NULL. -/
structure PmmGlobals where
  bitmap : Option Bitmap
  totalFrames : Nat
  freeFrames : Nat
  usedFrames : Nat
  bitmapSize : Nat
  initialized : Bool

namespace PmmGlobals

variable {globals after : PmmGlobals} {frame start count left memSize : Nat}

/-- The state that the kernel starts with. -/
def zeroed : PmmGlobals where
  bitmap := none
  totalFrames := 0
  freeFrames := 0
  usedFrames := 0
  bitmapSize := 0
  initialized := false

def init (globals : PmmGlobals) (memSize : Nat) (storage : Option Bitmap) : Int × PmmGlobals :=
  if globals.initialized then (0, globals)
  else
    let globals := { globals with totalFrames := memSize / pmmPageSize }
    if globals.totalFrames = 0 then (-1, globals)
    else
      let globals := { globals with bitmapSize := (globals.totalFrames + 7) / 8 }
      match storage with
      | none => (-1, globals)
      | some bitmap =>
          (0, { globals with
            bitmap := some (bitmap.erase globals.bitmapSize)
            freeFrames := globals.totalFrames
            usedFrames := 0
            initialized := true })

def bitmapGet (globals : PmmGlobals) (frame : Nat) : Option Bool :=
  globals.bitmap.map fun bitmap => bitmap.get frame

def bitmapSet (globals : PmmGlobals) (frame : Nat) : Option PmmGlobals :=
  globals.bitmap.map fun bitmap => { globals with bitmap := some (bitmap.set frame) }

def bitmapClear (globals : PmmGlobals) (frame : Nat) : Option PmmGlobals :=
  globals.bitmap.map fun bitmap => { globals with bitmap := some (bitmap.clear frame) }

def markUsed (globals : PmmGlobals) (frame : Nat) : Option PmmGlobals :=
  if frame ≥ globals.totalFrames then some globals
  else do
    let marked ← globals.bitmapGet frame
    if !marked then
      let globals ← globals.bitmapSet frame
      pure { globals with
        usedFrames := add32 globals.usedFrames 1
        freeFrames := sub32 globals.freeFrames 1 }
    else pure globals

def markFree (globals : PmmGlobals) (frame : Nat) : Option PmmGlobals :=
  if frame ≥ globals.totalFrames then some globals
  else do
    let marked ← globals.bitmapGet frame
    if marked then
      let globals ← globals.bitmapClear frame
      pure { globals with
        usedFrames := sub32 globals.usedFrames 1
        freeFrames := add32 globals.freeFrames 1 }
    else pure globals

def markRange (mark : PmmGlobals → Nat → Option PmmGlobals) (globals : PmmGlobals) (start : Nat) :
    Nat → Option PmmGlobals
  | 0 => some globals
  | count + 1 => do
      let globals ← mark globals start
      markRange mark globals (add32 start 1) count

/-- The loop of `pmm_alloc_frame`: the first free one of `count` frames from `frame` on, or 0. -/
def firstFree (globals : PmmGlobals) (frame : Nat) : Nat → Option Nat
  | 0 => some 0
  | count + 1 => do
      let marked ← globals.bitmapGet frame
      if !marked then pure frame else globals.firstFree (frame + 1) count

def allocFrame (globals : PmmGlobals) : Option (Nat × PmmGlobals) :=
  if !globals.initialized ∨ globals.freeFrames = 0 then some (0, globals)
  else do
    let frame ← globals.firstFree 1 (globals.totalFrames - 1)  -- Skip frame 0
    if frame = 0 then pure (0, globals)
    else
      let globals ← globals.bitmapSet frame
      pure (frame, { globals with
        usedFrames := add32 globals.usedFrames 1
        freeFrames := sub32 globals.freeFrames 1 })

/-- The search loop of `pmm_alloc_frames`. -/
def searchRun (globals : PmmGlobals) (count frame : Nat) : Nat → Nat → Nat → Option (Nat × Nat)
  | 0, consecutive, startFrame => some (consecutive, startFrame)
  | left + 1, consecutive, startFrame =>
      if consecutive < count then do
        let marked ← globals.bitmapGet frame
        if !marked then
          globals.searchRun count (frame + 1) left (consecutive + 1)
            (if consecutive = 0 then frame else startFrame)
        else globals.searchRun count (frame + 1) left 0 0
      else some (consecutive, startFrame)

def setRange (globals : PmmGlobals) (start : Nat) : Nat → Option PmmGlobals
  | 0 => some globals
  | count + 1 => do
      let globals ← globals.bitmapSet start
      globals.setRange (start + 1) count

def allocFrames (globals : PmmGlobals) (count : Nat) : Option (Nat × PmmGlobals) :=
  if !globals.initialized ∨ globals.freeFrames < count then some (0, globals)
  else do
    let (consecutive, startFrame) ← globals.searchRun count 1 (globals.totalFrames - 1) 0 0
    if consecutive ≥ count then
      let globals ← globals.setRange startFrame count
      pure (startFrame, { globals with
        usedFrames := add32 globals.usedFrames count
        freeFrames := sub32 globals.freeFrames count })
    else pure (0, globals)  -- Not enough contiguous frames

def isFrameFree (globals : PmmGlobals) (frame : Nat) : Option Bool :=
  if frame ≥ globals.totalFrames then some false
  else do
    let marked ← globals.bitmapGet frame
    pure !marked

/-- The loop of `pmm_get_free_frames`. -/
def collectFree (globals : PmmGlobals) (frame : Nat) : Nat → Nat → Option (List Nat)
  | 0, _ => some []
  | _ + 1, 0 => some []
  | left + 1, wanted + 1 => do
      let marked ← globals.bitmapGet frame
      if !marked then
        let rest ← globals.collectFree (frame + 1) left wanted
        pure (frame :: rest)
      else globals.collectFree (frame + 1) left (wanted + 1)

def getFreeFrames (globals : PmmGlobals) (frames : Bool) (count : Nat) : Option (List Nat) :=
  if !frames ∨ count = 0 then some []
  else globals.collectFree 1 (globals.totalFrames - 1) count

end PmmGlobals

inductive PmmUse where
  | call (call : PmmCall)
  | isFrameFree (frame : Nat)
  | getFreeFrames (frames : Bool) (count : Nat)

namespace PmmGlobals

/-- Performs a use; the results are the returned frames or the returned truth value, 0 where nothing
is returned. -/
def use (globals : PmmGlobals) : PmmUse → Option (List Nat × PmmGlobals)
  | .call (.markUsed frame) => (globals.markUsed frame).map fun globals => ([0], globals)
  | .call (.markFree frame) => (globals.markFree frame).map fun globals => ([0], globals)
  | .call (.markRangeUsed start count) =>
      (markRange markUsed globals (start % 2 ^ 32) count).map fun globals => ([0], globals)
  | .call (.markRangeFree start count) =>
      (markRange markFree globals (start % 2 ^ 32) count).map fun globals => ([0], globals)
  | .call .allocFrame => globals.allocFrame.map fun result => ([result.1], result.2)
  | .call (.allocFrames count) => (globals.allocFrames count).map fun result => ([result.1], result.2)
  | .call (.freeFrame frame) => (globals.markFree frame).map fun globals => ([0], globals)
  | .call (.freeFrames start count) =>
      (markRange markFree globals (start % 2 ^ 32) count).map fun globals => ([0], globals)
  | .isFrameFree frame => (globals.isFrameFree frame).map fun free => ([free.toNat], globals)
  | .getFreeFrames frames count => (globals.getFreeFrames frames count).map fun found => (found, globals)

/-- The results of a sequence of uses. -/
def results (globals : PmmGlobals) : List PmmUse → Option (List (List Nat))
  | [] => some []
  | use :: rest => do
      let (result, globals) ← globals.use use
      let later ← globals.results rest
      pure (result :: later)

end PmmGlobals

variable {globals after : PmmGlobals} {pmm : Pmm} {frame start count left wanted consecutive startFrame memSize : Nat}

/-- The state with its bitmap in place. -/
def Pmm.located (pmm : Pmm) : PmmGlobals where
  bitmap := some pmm.bitmap
  totalFrames := pmm.totalFrames
  freeFrames := pmm.freeFrames
  usedFrames := pmm.usedFrames
  bitmapSize := pmm.bitmapSize
  initialized := pmm.initialized

namespace PmmGlobals

theorem markUsed_located (pmm : Pmm) (frame : Nat) : pmm.located.markUsed frame = some (pmmMarkUsed pmm frame).located := by
  unfold markUsed pmmMarkUsed
  by_cases beyond : frame ≥ pmm.totalFrames
  · simp [Pmm.located, beyond]
  · cases marked : pmm.bitmap.get frame <;> simp [Pmm.located, bitmapGet, bitmapSet, beyond, marked]

theorem markFree_located (pmm : Pmm) (frame : Nat) : pmm.located.markFree frame = some (pmmMarkFree pmm frame).located := by
  unfold markFree pmmMarkFree
  by_cases beyond : frame ≥ pmm.totalFrames
  · simp [Pmm.located, beyond]
  · cases marked : pmm.bitmap.get frame <;> simp [Pmm.located, bitmapGet, bitmapClear, beyond, marked]

theorem markRange_located {mark : PmmGlobals → Nat → Option PmmGlobals} {pmmMark : Pmm → Nat → Pmm}
    (same : ∀ pmm frame, mark pmm.located frame = some (pmmMark pmm frame).located) (pmm : Pmm) (start count : Nat) :
    markRange mark pmm.located start count = some (Frames.markRange pmmMark pmm start count).located := by
  induction count generalizing pmm start with
  | zero => rfl
  | succ count ih => simp [markRange, Frames.markRange, same, ih]

theorem firstFree_located (pmm : Pmm) (frame count : Nat) :
    pmm.located.firstFree frame count = some (Frames.firstFree pmm.bitmap frame count) := by
  induction count generalizing frame with
  | zero => rfl
  | succ count ih =>
      cases marked : pmm.bitmap.get frame with
      | false => simp [firstFree, Frames.firstFree, bitmapGet, Pmm.located, marked]
      | true => simpa [firstFree, Frames.firstFree, bitmapGet, Pmm.located, marked] using ih (frame + 1)

theorem allocFrame_located (pmm : Pmm) :
    pmm.located.allocFrame = some ((pmmAllocFrame pmm).1, (pmmAllocFrame pmm).2.located) := by
  have ready : pmm.located.initialized = pmm.initialized := rfl
  have free : pmm.located.freeFrames = pmm.freeFrames := rfl
  have total : pmm.located.totalFrames = pmm.totalFrames := rfl
  rw [allocFrame, pmmAllocFrame, total, firstFree_located, ready, free]
  by_cases refused : !pmm.initialized ∨ pmm.freeFrames = 0
  · simp only [if_pos refused]
  · by_cases none : Frames.firstFree pmm.bitmap 1 (pmm.totalFrames - 1) = 0
    · simp only [if_neg refused, none, if_true, Option.bind_eq_bind, Option.bind_some]
      rfl
    · simp only [if_neg refused, none, if_false, Option.bind_eq_bind, Option.bind_some]
      rfl

theorem searchRun_located (pmm : Pmm) (count frame left consecutive startFrame : Nat) :
    pmm.located.searchRun count frame left consecutive startFrame =
      some (Frames.searchRun pmm.bitmap count frame left consecutive startFrame) := by
  induction left generalizing frame consecutive startFrame with
  | zero => rfl
  | succ left ih =>
      by_cases unfinished : consecutive < count
      · cases marked : pmm.bitmap.get frame with
        | false => simpa [searchRun, Frames.searchRun, bitmapGet, Pmm.located, marked, unfinished] using ih (frame + 1) _ _
        | true => simpa [searchRun, Frames.searchRun, bitmapGet, Pmm.located, marked, unfinished] using ih (frame + 1) 0 0
      · simp [searchRun, Frames.searchRun, unfinished]

theorem setRange_located (pmm : Pmm) (start count : Nat) :
    pmm.located.setRange start count = some { pmm with bitmap := Frames.setRange pmm.bitmap start count }.located := by
  induction count generalizing pmm start with
  | zero => rfl
  | succ count ih =>
      have first : pmm.located.bitmapSet start = some { pmm with bitmap := pmm.bitmap.set start }.located := rfl
      simp [setRange, first, ih, Frames.setRange]

theorem allocFrames_located (pmm : Pmm) (count : Nat) :
    pmm.located.allocFrames count = some ((pmmAllocFrames pmm count).1, (pmmAllocFrames pmm count).2.located) := by
  have ready : pmm.located.initialized = pmm.initialized := rfl
  have free : pmm.located.freeFrames = pmm.freeFrames := rfl
  have total : pmm.located.totalFrames = pmm.totalFrames := rfl
  rw [allocFrames, pmmAllocFrames, total, searchRun_located, ready, free]
  by_cases refused : !pmm.initialized ∨ pmm.freeFrames < count
  · simp only [if_pos refused]
  · by_cases enough : (Frames.searchRun pmm.bitmap count 1 (pmm.totalFrames - 1) 0 0).1 ≥ count
    · simp only [if_neg refused, enough, if_true, Option.bind_eq_bind, Option.bind_some, setRange_located]
      rfl
    · simp only [if_neg refused, enough, if_false, Option.bind_eq_bind, Option.bind_some]
      rfl

/-- An initialized allocator finds its bitmap, and its calls are those of the model without pointers. -/
theorem use_call_located (pmm : Pmm) (call : PmmCall) :
    pmm.located.use (.call call) = some ([(pmmCall pmm call).1], (pmmCall pmm call).2.located) := by
  cases call with
  | markUsed frame => simp [use, pmmCall, markUsed_located]
  | markFree frame => simp [use, pmmCall, markFree_located]
  | markRangeUsed start count => simp [use, pmmCall, pmmMarkRangeUsed, markRange_located markUsed_located]
  | markRangeFree start count => simp [use, pmmCall, pmmMarkRangeFree, markRange_located markFree_located]
  | allocFrame => simp [use, pmmCall, allocFrame_located]
  | allocFrames count => simp [use, pmmCall, allocFrames_located]
  | freeFrame frame => simp [use, pmmCall, pmmFreeFrame, markFree_located]
  | freeFrames start count =>
      simp [use, pmmCall, pmmFreeFrames, pmmMarkRangeFree, markRange_located markFree_located]

theorem isFrameFree_located (pmm : Pmm) (frame : Nat) :
    pmm.located.isFrameFree frame = some (pmmIsFrameFree pmm frame) := by
  by_cases beyond : frame ≥ pmm.totalFrames
  · simp [isFrameFree, pmmIsFrameFree, Pmm.located, beyond]
  · simp [isFrameFree, pmmIsFrameFree, Pmm.located, bitmapGet, beyond]

theorem collectFree_located (pmm : Pmm) (frame left wanted : Nat) :
    pmm.located.collectFree frame left wanted = some (Frames.collectFree pmm.bitmap frame left wanted) := by
  induction left generalizing frame wanted with
  | zero => cases wanted <;> rfl
  | succ left ih =>
      cases wanted with
      | zero => rfl
      | succ wanted =>
          have bit : pmm.located.bitmapGet frame = some (pmm.bitmap.get frame) := rfl
          cases marked : pmm.bitmap.get frame with
          | false => simp [collectFree, Frames.collectFree, bit, marked, ih]
          | true => simp [collectFree, Frames.collectFree, bit, marked, ih]

theorem getFreeFrames_located (pmm : Pmm) (frames : Bool) (count : Nat) :
    pmm.located.getFreeFrames frames count = some (pmmGetFreeFrames pmm frames count) := by
  have total : pmm.located.totalFrames = pmm.totalFrames := rfl
  rw [getFreeFrames, pmmGetFreeFrames, total, collectFree_located]
  by_cases nothing : !frames ∨ count = 0
  · simp only [if_pos nothing]
  · simp only [if_neg nothing]

/-- A successful initialization puts the bitmap in place. -/
theorem init_located {storage : Option Bitmap} (uninitialized : globals.initialized = false)
    (done : globals.init memSize storage = (0, after)) :
    ∃ booted, pmmInit blankPmm memSize storage = (0, booted) ∧ after = booted.located := by
  by_cases none : memSize / pmmPageSize = 0
  · simp [init, uninitialized, none] at done
  · cases storage with
    | none => simp [init, uninitialized, none] at done
    | some bitmap =>
        have fresh : blankPmm.initialized = false := rfl
        simp only [init, uninitialized, Bool.false_eq_true, if_false, none, Prod.mk.injEq, true_and] at done
        refine ⟨_, by simp only [pmmInit, fresh, Bool.false_eq_true, if_false, none]; rfl, ?_⟩
        exact done.symm

/-- The allocator before a successful initialization. -/
structure Unready (globals : PmmGlobals) : Prop where
  uninitialized : globals.initialized = false
  null : globals.bitmap = none

theorem zeroed_unready : zeroed.Unready := ⟨rfl, rfl⟩

theorem Unready.mark_cases (unready : globals.Unready) (frame : Nat) :
    (globals.markUsed frame = none ∨ globals.markUsed frame = some globals) ∧
      (globals.markFree frame = none ∨ globals.markFree frame = some globals) := by
  by_cases beyond : frame ≥ globals.totalFrames
  · simp [markUsed, markFree, beyond]
  · simp [markUsed, markFree, beyond, bitmapGet, unready.null]

theorem markRange_cases {mark : PmmGlobals → Nat → Option PmmGlobals}
    (either : ∀ frame, mark globals frame = none ∨ mark globals frame = some globals) (start count : Nat) :
    markRange mark globals start count = none ∨ markRange mark globals start count = some globals := by
  induction count generalizing start with
  | zero => exact Or.inr rfl
  | succ count ih =>
      rcases either start with fails | same
      · exact Or.inl (by simp [markRange, fails])
      · simpa [markRange, same] using ih (add32 start 1)

/-- A use comes to NULL or changes nothing. -/
theorem Unready.use_cases (unready : globals.Unready) (use : PmmUse) :
    globals.use use = none ∨ ∃ result, globals.use use = some (result, globals) := by
  have mapped {step : Option PmmGlobals} (either : step = none ∨ step = some globals) :
      step.map (fun globals => ([0], globals)) = none ∨
        ∃ result, step.map (fun globals => ([0], globals)) = some (result, globals) := by
    rcases either with fails | same
    · exact Or.inl (by rw [fails]; rfl)
    · exact Or.inr ⟨[0], by rw [same]; rfl⟩
  have used := fun frame => (unready.mark_cases frame).1
  have freed := fun frame => (unready.mark_cases frame).2
  cases use with
  | call call =>
      cases call with
      | markUsed frame => exact mapped (used frame)
      | markFree frame => exact mapped (freed frame)
      | markRangeUsed start count => exact mapped (markRange_cases used _ count)
      | markRangeFree start count => exact mapped (markRange_cases freed _ count)
      | allocFrame => exact Or.inr ⟨[0], by simp [PmmGlobals.use, allocFrame, unready.uninitialized]⟩
      | allocFrames count => exact Or.inr ⟨[0], by simp [PmmGlobals.use, allocFrames, unready.uninitialized]⟩
      | freeFrame frame => exact mapped (freed frame)
      | freeFrames start count => exact mapped (markRange_cases freed _ count)
  | isFrameFree frame =>
      cases answer : globals.isFrameFree frame with
      | none => exact Or.inl (by simp [PmmGlobals.use, answer])
      | some free => exact Or.inr ⟨_, by simp [PmmGlobals.use, answer]; rfl⟩
  | getFreeFrames frames count =>
      cases answer : globals.getFreeFrames frames count with
      | none => exact Or.inl (by simp [PmmGlobals.use, answer])
      | some found => exact Or.inr ⟨_, by simp [PmmGlobals.use, answer]; rfl⟩

/-- What an allocator without frames answers. -/
def silent : PmmUse → List Nat
  | .call _ => [0]
  | .isFrameFree _ => [0]
  | .getFreeFrames _ _ => []

/-- Without frames no use comes to the bitmap. -/
theorem Unready.use_empty (unready : globals.Unready) (empty : globals.totalFrames = 0) (use : PmmUse) :
    globals.use use = some (silent use, globals) := by
  have used (frame : Nat) : globals.markUsed frame = some globals := by simp [markUsed, empty]
  have freed (frame : Nat) : globals.markFree frame = some globals := by simp [markFree, empty]
  have range {mark : PmmGlobals → Nat → Option PmmGlobals} (same : ∀ frame, mark globals frame = some globals)
      (start count : Nat) : markRange mark globals start count = some globals := by
    induction count generalizing start with
    | zero => rfl
    | succ count ih => simpa [markRange, same] using ih (add32 start 1)
  cases use with
  | call call =>
      cases call with
      | markUsed frame => simp [PmmGlobals.use, silent, used]
      | markFree frame => simp [PmmGlobals.use, silent, freed]
      | markRangeUsed start count => simp [PmmGlobals.use, silent, range used]
      | markRangeFree start count => simp [PmmGlobals.use, silent, range freed]
      | allocFrame => simp [PmmGlobals.use, silent, allocFrame, unready.uninitialized]
      | allocFrames count => simp [PmmGlobals.use, silent, allocFrames, unready.uninitialized]
      | freeFrame frame => simp [PmmGlobals.use, silent, freed]
      | freeFrames start count => simp [PmmGlobals.use, silent, range freed]
  | isFrameFree frame => simp [PmmGlobals.use, silent, isFrameFree, empty]
  | getFreeFrames frames count => simp [PmmGlobals.use, silent, getFreeFrames, collectFree, empty]

theorem Unready.results_empty (unready : globals.Unready) (empty : globals.totalFrames = 0) (uses : List PmmUse) :
    globals.results uses = some (uses.map silent) := by
  induction uses with
  | nil => rfl
  | cons use rest ih => simp [results, unready.use_empty empty use, ih]

inductive PmmEvent where
  | init (memSize : Nat) (storage : Option Bitmap)
  | use (use : PmmUse)

def event (globals : PmmGlobals) : PmmEvent → Option PmmGlobals
  | .init memSize storage => some (globals.init memSize storage).2
  | .use use => (globals.use use).map Prod.snd

theorem Unready.init (unready : globals.Unready) {storage : Option Bitmap} :
    (globals.init memSize storage).1 = 0 ∨ (globals.init memSize storage).2.Unready := by
  obtain ⟨uninitialized, null⟩ := unready
  by_cases none : memSize / pmmPageSize = 0
  · refine Or.inr ⟨?_, ?_⟩
    all_goals simp [PmmGlobals.init, uninitialized, none, null]
  · cases storage with
    | none =>
        refine Or.inr ⟨?_, ?_⟩
        all_goals simp [PmmGlobals.init, uninitialized, none, null]
    | some bitmap => exact Or.inl (by simp [PmmGlobals.init, uninitialized, none])

/-- In every run the allocator either has no bitmap or is an initialized one of the model without
pointers. -/
theorem run_cases {events : List PmmEvent} (run : Run (Stepping event) zeroed events globals) :
    globals.Unready ∨ ∃ pmm : Pmm, pmm.initialized = true ∧ globals = pmm.located := by
  apply run.invariant fun globals => globals.Unready ∨ ∃ pmm : Pmm, pmm.initialized = true ∧ globals = pmm.located
  · intro before event after state step
    cases event with
    | init memSize storage =>
        obtain rfl : (before.init memSize storage).2 = after := Option.some.inj step
        rcases state with unready | ⟨pmm, ready, rfl⟩
        · rcases unready.init with succeeds | still
          · have done : before.init memSize storage = (0, (before.init memSize storage).2) := by rw [← succeeds]
            obtain ⟨booted, made, same⟩ := init_located unready.uninitialized done
            obtain ⟨_, rfl⟩ := pmmInit_eq rfl made
            exact Or.inr ⟨_, rfl, same⟩
          · exact Or.inl still
        · have again : pmm.located.init memSize storage = (0, pmm.located) := if_pos ready
          rw [again]
          exact Or.inr ⟨pmm, ready, rfl⟩
    | use use =>
        obtain ⟨result, used, rfl⟩ := Option.map_eq_some_iff.mp step
        rcases state with unready | ⟨pmm, ready, rfl⟩
        · rcases unready.use_cases use with fails | ⟨_, same⟩
          · rw [fails] at used
            cases used
          · obtain rfl := Option.some.inj (same.symm.trans used)
            exact Or.inl unready
        · cases use with
          | call call =>
              obtain rfl := Option.some.inj ((use_call_located pmm call).symm.trans used)
              exact Or.inr ⟨_, (pmmCall_initialized pmm call).trans ready, rfl⟩
          | isFrameFree frame =>
              obtain ⟨_, _, rfl⟩ := Option.map_eq_some_iff.mp used
              exact Or.inr ⟨pmm, ready, rfl⟩
          | getFreeFrames frames count =>
              obtain ⟨_, _, rfl⟩ := Option.map_eq_some_iff.mp used
              exact Or.inr ⟨pmm, ready, rfl⟩
  · exact Or.inl zeroed_unready

/-- A failed call: the state is as before, and all later uses answer as on the allocator that was
never initialized, without an access to the bitmap. -/
structure Traceless (before after : PmmGlobals) : Prop where
  unchanged : after = before
  silent : ∀ uses, after.results uses = zeroed.results uses ∧ (after.results uses).isSome

/-- A failed initialization leaves no trace exactly when the memory is smaller than a page and no earlier
failure left a number of frames behind. -/
theorem init_traceless_iff {events : List PmmEvent} {storage : Option Bitmap}
    (run : Run (Stepping event) zeroed events globals) (failed : (globals.init memSize storage).1 = -1) :
    Traceless globals (globals.init memSize storage).2 ↔ memSize < pmmPageSize ∧ globals.totalFrames = 0 := by
  have unready : globals.Unready := by
    rcases run_cases run with unready | ⟨pmm, ready, rfl⟩
    · exact unready
    · have again : pmm.located.init memSize storage = (0, pmm.located) := if_pos ready
      rw [again] at failed
      cases failed
  have after : (globals.init memSize storage).2.Unready := by
    rcases unready.init with succeeds | still
    · rw [succeeds] at failed
      cases failed
    · exact still
  have total : (globals.init memSize storage).2.totalFrames = memSize / pmmPageSize := by
    by_cases none : memSize / pmmPageSize = 0
    · simp [PmmGlobals.init, unready.uninitialized, none]
    · cases storage <;> simp [PmmGlobals.init, unready.uninitialized, none]
  constructor
  · intro traceless
    have empty : memSize / pmmPageSize = 0 := by
      by_contra some
      have answers := (traceless.silent [.call (.markUsed 0)]).2
      have real : ¬ 0 ≥ (globals.init memSize storage).2.totalFrames := by omega
      have faults : (globals.init memSize storage).2.markUsed 0 = none := by
        simp only [markUsed, if_neg real, bitmapGet, after.null]
        rfl
      simp [results, PmmGlobals.use, faults] at answers
    refine ⟨(Nat.div_eq_zero_iff.mp empty).resolve_left (by decide), ?_⟩
    rw [← traceless.unchanged, total, empty]
  · intro small
    have empty : memSize / pmmPageSize = 0 := Nat.div_eq_of_lt small.1
    constructor
    · simp only [PmmGlobals.init, unready.uninitialized, Bool.false_eq_true, if_false, empty, if_true, ← small.2]
      rw [← unready.uninitialized]
    · intro uses
      rw [after.results_empty (total.trans empty), zeroed_unready.results_empty rfl]
      exact ⟨rfl, rfl⟩

/-- An attempt with half a page of memory. -/
theorem init_traceless_iff_small :
    (zeroed.init 0x800 (some fun _ => 0)).1 = -1 ∧ Traceless zeroed (zeroed.init 0x800 (some fun _ => 0)).2 := by
  have failed : (zeroed.init 0x800 (some fun _ => 0)).1 = -1 := by decide
  exact ⟨failed, (init_traceless_iff (.nil zeroed) failed).mpr ⟨by decide, rfl⟩⟩

/-- Without storage for the bitmap the number of frames stays behind, and marking a frame comes to NULL. -/
theorem init_leaves_trace :
    (zeroed.init 0x2000 none).1 = -1 ∧ ¬ Traceless zeroed (zeroed.init 0x2000 none).2 ∧
      ((zeroed.init 0x2000 none).2.markUsed 0).isNone := by
  refine ⟨by decide, ?_, by decide⟩
  intro traceless
  have unchanged := congrArg totalFrames traceless.unchanged
  revert unchanged
  decide

end PmmGlobals

end AutismOS.Frames
