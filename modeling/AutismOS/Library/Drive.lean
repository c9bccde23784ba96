import Mathlib.Logic.Function.Basic

namespace AutismOS.Library

/-! A disk that is read and written through ports, word by word.

Registers take the number and the count of sectors, and a command starts the transfer of their
words.  A busy disk takes neither registers nor words; for how long it is busy, counted in reads of
its status, is given for each command and for each sector that was written.  Sectors are addressed
by number only. -/

def sectorWords : Nat := 256

/-- An array with `count` of its places taken from another one. -/
def filled (start count : Nat) (content array : Nat → α) : Nat → α := fun place =>
  if start ≤ place ∧ place < start + count then content (place - start) else array place

@[simp] theorem filled_zero (start : Nat) (content array : Nat → α) : filled start 0 content array = array := by
  funext place
  rw [filled, if_neg (by omega)]

theorem filled_pair (start count : Nat) (content array : Nat → α) :
    Function.update (Function.update (filled start count content array) (start + count) (content count))
      (start + count + 1) (content (count + 1)) = filled start (count + 2) content array := by
  funext place
  simp only [Function.update_apply, filled]
  by_cases second : place = start + count + 1
  · rw [if_pos second, if_pos (by omega), second]
    congr 1
    omega
  · rw [if_neg second]
    by_cases first : place = start + count
    · rw [if_pos first, if_pos (by omega), first, Nat.add_sub_cancel_left]
    · rw [if_neg first]
      by_cases before : start ≤ place ∧ place < start + count
      · rw [if_pos before, if_pos (by omega)]
      · rw [if_neg before, if_neg (by omega)]

/-- The words of a sector that are next to be transferred. -/
inductive Transfer where
  | none
  | read (word : Nat)
  | write (word : Nat)
deriving DecidableEq

structure Drive where
  sectors : Nat → Nat → UInt8
  count : Nat
  low : Nat
  middle : Nat
  high : Nat
  device : Nat
  busy : Nat
  transfer : Transfer
  lba : Nat
  remaining : Nat
  held : Nat → UInt8
  commands : Nat
  seeking : Nat → Nat
  settling : Nat → Nat

namespace Drive

variable (drive : Drive)

/-- The sector that the registers stand for. -/
def selected : Nat := drive.low + 0x100 * drive.middle + 0x10000 * drive.high + 0x1000000 * (drive.device % 16)

/-- The transfer that a command starts; others than the reading and writing of sectors are refused. -/
def begins (command : Nat) : Transfer :=
  if !drive.device.testBit 6 then .none
  else if command = 0x20 then .read 0
  else if command = 0x30 then .write 0
  else .none

/-- A byte for one of the registers. -/
def setRegister (register value : Nat) : Drive :=
  if drive.busy ≠ 0 then drive
  else
    match register with
    | 2 => { drive with count := value }
    | 3 => { drive with low := value }
    | 4 => { drive with middle := value }
    | 5 => { drive with high := value }
    | 6 => { drive with device := value }
    | 7 =>
        { drive with
          transfer := drive.begins value
          lba := drive.selected
          remaining := if drive.count = 0 then 256 else drive.count
          busy := drive.seeking drive.commands
          commands := drive.commands + 1 }
    | _ => drive

/-- The status: bit 7 while the disk is busy, and bit 3 where words are to be transferred. -/
def status : Nat × Drive :=
  if drive.busy ≠ 0 then (0x80, { drive with busy := drive.busy - 1 })
  else (if drive.transfer = .none then 0x50 else 0x58, drive)

/-- What follows the last word of a sector. -/
def nextSector (first : Transfer) : Drive :=
  { drive with
    transfer := if drive.remaining ≤ 1 then .none else first
    lba := drive.lba + 1
    remaining := drive.remaining - 1 }

/-- A word comes from the disk, as its two bytes. -/
def takeWord : (UInt8 × UInt8) × Drive :=
  match drive.transfer with
  | .read word =>
      if drive.busy ≠ 0 then ((0xFF, 0xFF), drive)
      else
        ((drive.sectors drive.lba (2 * word), drive.sectors drive.lba (2 * word + 1)),
          if word + 1 < sectorWords then { drive with transfer := .read (word + 1) } else drive.nextSector (.read 0))
  | _ => ((0xFF, 0xFF), drive)

/-- A word goes to the disk; the last one of a sector puts it into place. -/
def giveWord (low high : UInt8) : Drive :=
  match drive.transfer with
  | .write word =>
      if drive.busy ≠ 0 then drive
      else
        let drive :=
          { drive with held := Function.update (Function.update drive.held (2 * word) low) (2 * word + 1) high }
        if word + 1 < sectorWords then { drive with transfer := .write (word + 1) }
        else
          { drive with
            sectors := Function.update drive.sectors drive.lba drive.held
            busy := drive.settling drive.commands }.nextSector (.write 0)
  | _ => drive

variable {drive : Drive} {word : Nat} {low high : UInt8}

@[simp] theorem takeWord_none (refused : drive.transfer = .none) : drive.takeWord = ((0xFF, 0xFF), drive) := by
  simp [takeWord, refused]

@[simp] theorem giveWord_none (refused : drive.transfer = .none) : drive.giveWord low high = drive := by
  simp [giveWord, refused]

theorem takeWord_read (reads : drive.transfer = .read word) (free : drive.busy = 0) (inside : word + 1 < sectorWords) :
    drive.takeWord = ((drive.sectors drive.lba (2 * word), drive.sectors drive.lba (2 * word + 1)),
      { drive with transfer := .read (word + 1) }) := by
  simp [takeWord, reads, free, inside]

/-- The last word of the only sector that was asked for. -/
theorem takeWord_last (reads : drive.transfer = .read 255) (free : drive.busy = 0) (single : drive.remaining = 1) :
    drive.takeWord = ((drive.sectors drive.lba 510, drive.sectors drive.lba 511),
      { drive with transfer := .none, lba := drive.lba + 1, remaining := 0 }) := by
  simp [takeWord, reads, free, single, sectorWords, nextSector]

theorem giveWord_write (writes : drive.transfer = .write word) (free : drive.busy = 0) (inside : word + 1 < sectorWords) :
    drive.giveWord low high =
      { drive with
        held := Function.update (Function.update drive.held (2 * word) low) (2 * word + 1) high
        transfer := .write (word + 1) } := by
  simp [giveWord, writes, free, inside]

theorem giveWord_last (writes : drive.transfer = .write 255) (free : drive.busy = 0) (single : drive.remaining = 1) :
    drive.giveWord low high =
      let held := Function.update (Function.update drive.held 510 low) 511 high
      { drive with
        held
        sectors := Function.update drive.sectors drive.lba held
        busy := drive.settling drive.commands
        transfer := .none
        lba := drive.lba + 1
        remaining := 0 } := by
  simp [giveWord, writes, free, single, sectorWords, nextSector]

end Drive

end AutismOS.Library
