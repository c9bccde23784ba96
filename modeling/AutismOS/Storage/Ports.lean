import AutismOS.Library.Drive
import AutismOS.Library.Run
import AutismOS.Storage.ReadBack

namespace AutismOS.Storage.Ports

open AutismOS.Library

/-! `drivers/storage/disk.c` down to its ports.

A sector is named through the registers of the controller and goes through one port word by word.
Waiting stands in front of the words, and nothing waits after them.
-/

def ataPrimaryIo : Nat := 0x1F0
def ataCmdRead : Nat := 0x20
def ataCmdWrite : Nat := 0x30

def outportb (port value : Nat) (drive : Drive) : Drive := drive.setRegister (port - ataPrimaryIo) (value % 2 ^ 8)

/-- Of the ports that give a byte only the status is read. -/
def inportb (port : Nat) (drive : Drive) : Nat × Drive :=
  if port = ataPrimaryIo + 7 then drive.status else (0xFF, drive)

def inportw (drive : Drive) : (UInt8 × UInt8) × Drive := drive.takeWord

def outportw (low high : UInt8) (drive : Drive) : Drive := drive.giveWord low high

theorem inportb_status (drive : Drive) : inportb (ataPrimaryIo + 7) drive = drive.status := if_pos rfl

theorem status_busy (drive : Drive) : drive.status.1 &&& 0x80 ≠ 0 ↔ drive.busy ≠ 0 := by
  by_cases busy : drive.busy = 0
  · by_cases resting : drive.transfer = .none <;> simp [Drive.status, busy, resting]
  · simp [Drive.status, busy]

def ataWait (drive : Drive) : Drive :=
  if (inportb (ataPrimaryIo + 7) drive).1 &&& 0x80 ≠ 0 then ataWait (inportb (ataPrimaryIo + 7) drive).2
  else (inportb (ataPrimaryIo + 7) drive).2
termination_by drive.busy
decreasing_by
  rename_i waits
  rw [inportb_status] at waits ⊢
  have busy := (status_busy drive).mp waits
  simp only [Drive.status, if_pos busy]
  omega

/-- The start of `ata_read_sector` and of `ata_write_sector`. -/
def ataCommand (lba command : Nat) (drive : Drive) : Drive :=
  let drive := outportb (ataPrimaryIo + 6) (0xE0 ||| ((lba >>> 24) &&& 0x0F)) drive
  let drive := outportb (ataPrimaryIo + 2) 1 drive
  let drive := outportb (ataPrimaryIo + 3) (lba &&& 0xFF) drive
  let drive := outportb (ataPrimaryIo + 4) ((lba >>> 8) &&& 0xFF) drive
  let drive := outportb (ataPrimaryIo + 5) ((lba >>> 16) &&& 0xFF) drive
  let drive := outportb (ataPrimaryIo + 7) command drive
  ataWait drive

/-- The words that come from the drive, at `start` of the buffer. -/
def readWords (drive : Drive) (buffer : Nat → UInt8) (start : Nat) : Nat → (Nat → UInt8) × Drive
  | 0 => (buffer, drive)
  | i + 1 =>
      let earlier := readWords drive buffer start i
      let word := inportw earlier.2
      (Function.update (Function.update earlier.1 (start + 2 * i) word.1.1) (start + 2 * i + 1) word.1.2, word.2)

def writeWords (drive : Drive) (buffer : Nat → UInt8) (start : Nat) : Nat → Drive
  | 0 => drive
  | i + 1 => outportw (buffer (start + 2 * i)) (buffer (start + 2 * i + 1)) (writeWords drive buffer start i)

def ataReadSector (drive : Drive) (lba : Nat) (buffer : Nat → UInt8) (start : Nat) : (Nat → UInt8) × Drive :=
  readWords (ataCommand lba ataCmdRead drive) buffer start 256

def ataWriteSector (drive : Drive) (lba : Nat) (buffer : Nat → UInt8) (start : Nat) : Drive :=
  writeWords (ataCommand lba ataCmdWrite drive) buffer start 256

def ataReadSectors (drive : Drive) (lba : Nat) (buffer : Nat → UInt8) : Nat → (Nat → UInt8) × Drive
  | 0 => (buffer, drive)
  | i + 1 =>
      let earlier := ataReadSectors drive lba buffer i
      ataReadSector earlier.2 ((lba + i) % 2 ^ 32) earlier.1 (i * 512)

def ataWriteSectors (drive : Drive) (lba : Nat) (buffer : Nat → UInt8) : Nat → Drive
  | 0 => drive
  | i + 1 => ataWriteSector (ataWriteSectors drive lba buffer i) ((lba + i) % 2 ^ 32) buffer (i * 512)

variable {drive : Drive} {lba command start count i place sector : Nat} {buffer : Nat → UInt8}

theorem ataWait_eq (drive : Drive) : ataWait drive = { drive with busy := 0 } := by
  generalize waits : drive.busy = busy
  induction busy generalizing drive with
  | zero =>
      rw [ataWait, inportb_status, if_neg (by simp [status_busy, waits])]
      cases drive
      simp_all [Drive.status]
  | succ busy ih =>
      rw [ataWait, inportb_status, if_pos (by simp [status_busy, waits])]
      rw [ih _ (by simp [Drive.status, waits])]
      simp [Drive.status, waits]

theorem outportb_busy {port value : Nat} (busy : drive.busy ≠ 0) : outportb port value drive = drive := by
  unfold outportb Drive.setRegister
  exact if_pos busy

/-- A drive that is busy takes no command; only the waiting has an effect. -/
theorem ataCommand_busy (busy : drive.busy ≠ 0) : ataCommand lba command drive = { drive with busy := 0 } := by
  simp only [ataCommand, outportb_busy busy, ataWait_eq]

/-- The bits of the constant stand above those of the sector. -/
theorem deviceByte (part : Nat) : 0xE0 ||| (part &&& 0x0F) = 0xE0 + part % 16 := by
  have low : part % 2 ^ 4 < 2 ^ 4 := Nat.mod_lt _ (by decide)
  have masked : part &&& 0x0F = part % 2 ^ 4 := Nat.and_two_pow_sub_one_eq_mod part 4
  rw [masked]
  exact (Nat.two_pow_add_eq_or_of_lt low 14).symm

theorem deviceByte_byNumber (part : Nat) : (0xE0 + part % 16).testBit 6 = true := by
  simp only [Nat.testBit_eq_decide_div_mod_eq, decide_eq_true_eq]
  omega

theorem lowByte (value : Nat) : value &&& 0xFF = value % 2 ^ 8 := Nat.and_two_pow_sub_one_eq_mod value 8

/-- What a drive that is free makes of a command: one sector, by the low 28 bits of its number. -/
theorem ataCommand_free (free : drive.busy = 0) :
    ataCommand lba command drive =
      { drive with
        device := 0xE0 + lba / 2 ^ 24 % 16
        count := 1
        low := lba % 2 ^ 8
        middle := lba / 2 ^ 8 % 2 ^ 8
        high := lba / 2 ^ 16 % 2 ^ 8
        transfer := if command % 2 ^ 8 = 0x20 then .read 0 else if command % 2 ^ 8 = 0x30 then .write 0 else .none
        lba := lba % 2 ^ 28
        remaining := 1
        busy := 0
        commands := drive.commands + 1 } := by
  have device : (0xE0 + lba / 2 ^ 24 % 16) % 2 ^ 8 = 0xE0 + lba / 2 ^ 24 % 16 := by omega
  have one : 1 % 2 ^ 8 = 1 := rfl
  have selected : lba % 2 ^ 8 + 0x100 * (lba / 2 ^ 8 % 2 ^ 8) + 0x10000 * (lba / 2 ^ 16 % 2 ^ 8) +
      0x1000000 * ((0xE0 + lba / 2 ^ 24 % 16) % 16) = lba % 2 ^ 28 := by omega
  simp only [ataCommand, deviceByte, lowByte, Nat.shiftRight_eq_div_pow, outportb, device, Nat.mod_mod, ataPrimaryIo,
    Nat.add_sub_cancel_left, Drive.setRegister, free, ne_eq, not_true_eq_false, if_false, ataWait_eq, Drive.selected,
    selected, Drive.begins, deviceByte_byNumber, one, Nat.one_ne_zero, Bool.not_true, Bool.false_eq_true]

theorem readWords_none (refused : drive.transfer = .none) :
    readWords drive buffer start count = (filled start (2 * count) (fun _ => 0xFF) buffer, drive) := by
  induction count with
  | zero => simp [readWords]
  | succ count ih =>
      have pair := filled_pair start (2 * count) (fun _ => 0xFF) buffer
      simp [readWords, ih, inportw, refused, pair, Nat.mul_add]

theorem writeWords_none (refused : drive.transfer = .none) : writeWords drive buffer start count = drive := by
  induction count with
  | zero => rfl
  | succ count ih => simp [writeWords, ih, outportw, refused]

section

variable (free : drive.busy = 0)
include free

/-- The words before the last one. -/
theorem readWords_read (reads : drive.transfer = .read 0) (inside : count < 256) :
    readWords drive buffer start count =
      (filled start (2 * count) (drive.sectors drive.lba) buffer, { drive with transfer := .read count }) := by
  induction count with
  | zero => simp [readWords, ← reads]
  | succ count ih =>
      have taken : Drive.takeWord { drive with transfer := .read count } = _ :=
        Drive.takeWord_read rfl free inside
      have pair := filled_pair start (2 * count) (drive.sectors drive.lba) buffer
      simp [readWords, ih (by omega), inportw, taken, pair, Nat.mul_add]

theorem readWords_sector (reads : drive.transfer = .read 0) (single : drive.remaining = 1) :
    readWords drive buffer start 256 = (filled start 512 (drive.sectors drive.lba) buffer,
      { drive with transfer := .none, lba := drive.lba + 1, remaining := 0 }) := by
  have taken : Drive.takeWord { drive with transfer := .read 255 } = _ := Drive.takeWord_last rfl free single
  have pair := filled_pair start 510 (drive.sectors drive.lba) buffer
  rw [readWords, readWords_read free reads (by decide)]
  simp [inportw, taken, pair]

theorem writeWords_write (writes : drive.transfer = .write 0) (inside : count < 256) :
    writeWords drive buffer start count =
      { drive with
        held := filled 0 (2 * count) (fun place => buffer (start + place)) drive.held
        transfer := .write count } := by
  induction count with
  | zero => simp [writeWords, ← writes]
  | succ count ih =>
      have given (low high : UInt8) (held : Nat → UInt8) :
          Drive.giveWord { drive with held, transfer := .write count } low high = _ :=
        Drive.giveWord_write rfl free inside
      have pair := filled_pair 0 (2 * count) (fun place => buffer (start + place)) drive.held
      simp only [Nat.zero_add, ← Nat.add_assoc] at pair
      simp [writeWords, ih (by omega), outportw, given, pair, Nat.mul_add]

/-- The sector is put into place by its last word, and then the drive may be busy. -/
theorem writeWords_sector (writes : drive.transfer = .write 0) (single : drive.remaining = 1) :
    writeWords drive buffer start 256 =
      let held := filled 0 512 (fun place => buffer (start + place)) drive.held
      { drive with
        held
        sectors := Function.update drive.sectors drive.lba held
        busy := drive.settling drive.commands
        transfer := .none
        lba := drive.lba + 1
        remaining := 0 } := by
  have given (low high : UInt8) (held : Nat → UInt8) :
      Drive.giveWord { drive with held, transfer := .write 255 } low high = _ :=
    Drive.giveWord_last rfl free single
  have pair := filled_pair 0 510 (fun place => buffer (start + place)) drive.held
  simp only [Nat.zero_add, ← Nat.add_assoc] at pair
  rw [writeWords, writeWords_write free writes (by decide)]
  simp [outportw, given, pair]

end

end AutismOS.Storage.Ports
