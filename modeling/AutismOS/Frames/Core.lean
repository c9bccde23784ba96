import AutismOS.Library.Bitmap
import AutismOS.Library.Word

namespace AutismOS.Frames

open AutismOS.Library

/-! The physical memory manager of `kernel/core/pmm.c`.

A frame is used when its bit is set.  Frame numbers and counters are 32-bit
values, and frame 0 is never handed out: it is the result of a failure.
-/

def pmmPageSize : Nat := 4096

def pmmAddrToFrame (addr : Nat) : Nat := addr / 4096

def pmmFrameToAddr (frame : Nat) : Nat := frame * 4096 % 2 ^ 32

/-- The global state `g_pmm`, with the bytes that `bitmap` points to. -/
structure Pmm where
  bitmap : Bitmap
  totalFrames : Nat
  freeFrames : Nat
  usedFrames : Nat
  bitmapSize : Nat
  initialized : Bool

/-- Returns 0 or -1 with the new state; `storage` is what the pointer `bitmap`
refers to, or `none` for NULL. -/
def pmmInit (pmm : Pmm) (memSize : Nat) (storage : Option Bitmap) : Int × Pmm :=
  if pmm.initialized then (0, pmm)
  else
    let pmm := { pmm with totalFrames := memSize / pmmPageSize }
    if pmm.totalFrames = 0 then (-1, pmm)
    else
      let pmm := { pmm with bitmapSize := (pmm.totalFrames + 7) / 8 }
      match storage with
      | none => (-1, pmm)
      | some bitmap =>
          (0, { pmm with
            bitmap := bitmap.erase pmm.bitmapSize
            freeFrames := pmm.totalFrames
            usedFrames := 0
            initialized := true })

def pmmMarkUsed (pmm : Pmm) (frame : Nat) : Pmm :=
  if frame ≥ pmm.totalFrames then pmm
  else if !pmm.bitmap.get frame then
    { pmm with
      bitmap := pmm.bitmap.set frame
      usedFrames := add32 pmm.usedFrames 1
      freeFrames := sub32 pmm.freeFrames 1 }
  else pmm

def pmmMarkFree (pmm : Pmm) (frame : Nat) : Pmm :=
  if frame ≥ pmm.totalFrames then pmm
  else if pmm.bitmap.get frame then
    { pmm with
      bitmap := pmm.bitmap.clear frame
      usedFrames := sub32 pmm.usedFrames 1
      freeFrames := add32 pmm.freeFrames 1 }
  else pmm

/-- The loop of both range functions: `start + i` for each `i` below the count. -/
def markRange (mark : Pmm → Nat → Pmm) (pmm : Pmm) (start : Nat) : Nat → Pmm
  | 0 => pmm
  | count + 1 => markRange mark (mark pmm start) (add32 start 1) count

def pmmMarkRangeUsed (pmm : Pmm) (start count : Nat) : Pmm :=
  markRange pmmMarkUsed pmm (start % 2 ^ 32) count

def pmmMarkRangeFree (pmm : Pmm) (start count : Nat) : Pmm :=
  markRange pmmMarkFree pmm (start % 2 ^ 32) count

/-- The first free frame of `count` frames from `frame` on, or 0. -/
def firstFree (bitmap : Bitmap) (frame : Nat) : Nat → Nat
  | 0 => 0
  | count + 1 => if !bitmap.get frame then frame else firstFree bitmap (frame + 1) count

/-- Returns the frame, or 0 on failure, with the new state. -/
def pmmAllocFrame (pmm : Pmm) : Nat × Pmm :=
  if !pmm.initialized ∨ pmm.freeFrames = 0 then (0, pmm)
  else
    let frame := firstFree pmm.bitmap 1 (pmm.totalFrames - 1)  -- Skip frame 0
    if frame = 0 then (0, pmm)
    else
      (frame, { pmm with
        bitmap := pmm.bitmap.set frame
        usedFrames := add32 pmm.usedFrames 1
        freeFrames := sub32 pmm.freeFrames 1 })

/-- The search loop of `pmm_alloc_frames` over the `left` frames from `frame` on;
the result is `consecutive` and `start_frame`. -/
def searchRun (bitmap : Bitmap) (count frame : Nat) : Nat → Nat → Nat → Nat × Nat
  | 0, consecutive, startFrame => (consecutive, startFrame)
  | left + 1, consecutive, startFrame =>
      if consecutive < count then
        if !bitmap.get frame then
          searchRun bitmap count (frame + 1) left (consecutive + 1)
            (if consecutive = 0 then frame else startFrame)
        else searchRun bitmap count (frame + 1) left 0 0
      else (consecutive, startFrame)

def setRange (bitmap : Bitmap) (start : Nat) : Nat → Bitmap
  | 0 => bitmap
  | count + 1 => setRange (bitmap.set start) (start + 1) count

/-- Returns the first frame, or 0 on failure, with the new state. -/
def pmmAllocFrames (pmm : Pmm) (count : Nat) : Nat × Pmm :=
  if !pmm.initialized ∨ pmm.freeFrames < count then (0, pmm)
  else
    let (consecutive, startFrame) := searchRun pmm.bitmap count 1 (pmm.totalFrames - 1) 0 0
    if consecutive ≥ count then
      (startFrame, { pmm with
        bitmap := setRange pmm.bitmap startFrame count
        usedFrames := add32 pmm.usedFrames count
        freeFrames := sub32 pmm.freeFrames count })
    else (0, pmm)  -- Not enough contiguous frames

def pmmFreeFrame (pmm : Pmm) (frame : Nat) : Pmm := pmmMarkFree pmm frame

def pmmFreeFrames (pmm : Pmm) (start count : Nat) : Pmm := pmmMarkRangeFree pmm start count

def pmmIsFrameFree (pmm : Pmm) (frame : Nat) : Bool :=
  if frame ≥ pmm.totalFrames then false else !pmm.bitmap.get frame

/-- The free ones of the `left` frames from `frame` on, the first `wanted` of them at most. -/
def collectFree (bitmap : Bitmap) (frame : Nat) : Nat → Nat → List Nat
  | 0, _ => []
  | _ + 1, 0 => []
  | left + 1, wanted + 1 =>
      if !bitmap.get frame then frame :: collectFree bitmap (frame + 1) left wanted
      else collectFree bitmap (frame + 1) left (wanted + 1)

/-- The frames that are written to the array, as many as the result says; `frames` tells whether
there is an array. -/
def pmmGetFreeFrames (pmm : Pmm) (frames : Bool) (count : Nat) : List Nat :=
  if !frames ∨ count = 0 then [] else collectFree pmm.bitmap 1 (pmm.totalFrames - 1) count

inductive PmmCall where
  | markUsed (frame : Nat)
  | markFree (frame : Nat)
  | markRangeUsed (start count : Nat)
  | markRangeFree (start count : Nat)
  | allocFrame
  | allocFrames (count : Nat)
  | freeFrame (frame : Nat)
  | freeFrames (start count : Nat)
deriving DecidableEq

/-- Performs a call; the result is the returned frame, 0 where nothing is returned. -/
def pmmCall (pmm : Pmm) : PmmCall → Nat × Pmm
  | .markUsed frame => (0, pmmMarkUsed pmm frame)
  | .markFree frame => (0, pmmMarkFree pmm frame)
  | .markRangeUsed start count => (0, pmmMarkRangeUsed pmm start count)
  | .markRangeFree start count => (0, pmmMarkRangeFree pmm start count)
  | .allocFrame => pmmAllocFrame pmm
  | .allocFrames count => pmmAllocFrames pmm count
  | .freeFrame frame => (0, pmmFreeFrame pmm frame)
  | .freeFrames start count => (0, pmmFreeFrames pmm start count)

def pmmStep (pmm : Pmm) (call : PmmCall) : Option Pmm := some (pmmCall pmm call).2

end AutismOS.Frames
