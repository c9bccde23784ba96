import AutismOS.Storage.Ports

namespace AutismOS.Storage

open AutismOS.Library
open Ports

/-! Files on a drive behind ports, against files in an array of sectors. -/

variable {drive : Drive} {lba start count i place sector : Nat} {buffer : Nat → UInt8}

def emptySectors : Nat → Nat → UInt8 := fun _ _ => 0

/-- A drive that is ready for the command after three reads of its status. -/
def quietDrive : Drive where
  sectors := emptySectors
  count := 0
  low := 0
  middle := 0
  high := 0
  device := 0
  busy := 0
  transfer := .none
  lba := 0
  remaining := 0
  held := fun _ => 0
  commands := 0
  seeking := fun _ => 3
  settling := fun _ => 0

/-- The drive has taken one more command, and no words are to be transferred. -/
structure Settles (before after : Drive) : Prop where
  transfer : after.transfer = .none
  settling : after.settling = before.settling
  commands : after.commands = before.commands + 1

theorem ataReadSector_free (free : drive.busy = 0) :
    (ataReadSector drive lba buffer start).1 = filled start 512 (drive.sectors (lba % 2 ^ 28)) buffer ∧
    (ataReadSector drive lba buffer start).2.sectors = drive.sectors ∧
    (ataReadSector drive lba buffer start).2.busy = 0 ∧ Settles drive (ataReadSector drive lba buffer start).2 := by
  rw [ataReadSector, ataCommand_free free, readWords_sector]
  · exact ⟨rfl, rfl, rfl, rfl, rfl, rfl⟩
  all_goals rfl

/-- A sector that is written to a free drive takes its place there. -/
theorem ataWriteSector_free (free : drive.busy = 0) :
    (∀ place < 512, (ataWriteSector drive lba buffer start).sectors (lba % 2 ^ 28) place = buffer (start + place)) ∧
    (∀ sector ≠ lba % 2 ^ 28, (ataWriteSector drive lba buffer start).sectors sector = drive.sectors sector) ∧
    (ataWriteSector drive lba buffer start).busy = drive.settling (drive.commands + 1) ∧
    Settles drive (ataWriteSector drive lba buffer start) := by
  rw [ataWriteSector, ataCommand_free free, writeWords_sector]
  · refine ⟨fun place inside => ?_, fun sector other => ?_, rfl, rfl, rfl, rfl⟩
    · simp [filled, inside]
    · exact Function.update_of_ne other ..
  all_goals rfl

/-- A drive that is still busy loses the sector. -/
theorem ataWriteSector_busy (busy : drive.busy ≠ 0) (resting : drive.transfer = .none) :
    ataWriteSector drive lba buffer start = { drive with busy := 0 } := by
  rw [ataWriteSector, ataCommand_busy busy, writeWords_none]
  exact resting

/-- A free drive or not, only the one sector can change. -/
theorem ataWriteSector_others (resting : drive.transfer = .none) :
    (ataWriteSector drive lba buffer start).transfer = .none ∧
    ∀ sector ≠ lba % 2 ^ 28, (ataWriteSector drive lba buffer start).sectors sector = drive.sectors sector := by
  by_cases busy : drive.busy = 0
  · obtain ⟨_, others, _, settles⟩ := @ataWriteSector_free _ lba start buffer busy
    exact ⟨settles.transfer, others⟩
  · rw [ataWriteSector_busy busy resting]
    exact ⟨resting, fun _ _ => rfl⟩

theorem ataReadSector_busy (busy : drive.busy ≠ 0) (resting : drive.transfer = .none) :
    ataReadSector drive lba buffer start = (filled start 512 (fun _ => 0xFF) buffer, { drive with busy := 0 }) := by
  rw [ataReadSector, ataCommand_busy busy, readWords_none]
  exact resting

/-- The first sectors that are written, as long as the drive settles at once behind each of them. -/
structure Stored (before after : Drive) (lba : Nat) (buffer : Nat → UInt8) (count : Nat) : Prop where
  transfer : after.transfer = .none
  settling : after.settling = before.settling
  commands : after.commands = before.commands + count
  busy : after.busy = if count = 0 then 0 else before.settling (before.commands + count)
  written : ∀ i < count, ∀ place < 512, after.sectors ((lba + i) % 2 ^ 28) place = buffer (i * 512 + place)
  others : ∀ sector, (∀ i < count, sector ≠ (lba + i) % 2 ^ 28) → after.sectors sector = before.sectors sector

theorem controllerSector (lba : Nat) : lba % 2 ^ 32 % 2 ^ 28 = lba % 2 ^ 28 := by omega

theorem ataWriteSectors_resting (resting : drive.transfer = .none) (count : Nat) :
    (ataWriteSectors drive lba buffer count).transfer = .none := by
  induction count with
  | zero => exact resting
  | succ count ih => exact (ataWriteSector_others ih).1

theorem sector_apart (before : i < count) (few : count < 2 ^ 28) : (lba + i) % 2 ^ 28 ≠ (lba + count) % 2 ^ 28 := by
  omega

section

variable (free : drive.busy = 0) (resting : drive.transfer = .none) (few : count ≤ 2 ^ 28)
include free resting few

theorem ataWriteSectors_stored (settled : ∀ i, i + 1 < count → drive.settling (drive.commands + (i + 1)) = 0) :
    Stored drive (ataWriteSectors drive lba buffer count) lba buffer count := by
  induction count with
  | zero => exact ⟨resting, rfl, rfl, free, nofun, fun _ _ => rfl⟩
  | succ count ih =>
      have stored := ih (by omega) fun i inside => settled i (by omega)
      have ready : (ataWriteSectors drive lba buffer count).busy = 0 := by
        rw [stored.busy]
        by_cases first : count = 0
        · exact if_pos first
        · rw [if_neg first]
          obtain ⟨before, rfl⟩ := Nat.exists_eq_succ_of_ne_zero first
          exact settled before (Nat.lt_succ_self _)
      obtain ⟨written, others, busy, settles⟩ :=
        @ataWriteSector_free _ ((lba + count) % 2 ^ 32) (count * 512) buffer ready
      rw [controllerSector] at written others
      refine ⟨settles.transfer, settles.settling.trans stored.settling, ?_, ?_, fun i inside place within => ?_, ?_⟩
      · rw [ataWriteSectors, settles.commands, stored.commands, Nat.add_assoc]
      · rw [ataWriteSectors, busy, stored.settling, stored.commands, if_neg (Nat.succ_ne_zero _), Nat.add_assoc]
      · rw [ataWriteSectors]
        by_cases last : i = count
        · rw [last]
          exact written place within
        · have before : i < count := by omega
          rw [others _ (sector_apart before few)]
          exact stored.written i before place within
      · intro sector outside
        rw [ataWriteSectors, others _ (outside count (Nat.lt_succ_self _))]
        exact stored.others sector fun i inside => outside i (by omega)

/-- Where the drive is still busy behind a sector, the next one is not written. -/
theorem ataWriteSectors_lost (inside : i + 1 < count)
    (settled : ∀ earlier, earlier + 1 < i + 1 → drive.settling (drive.commands + (earlier + 1)) = 0)
    (slow : drive.settling (drive.commands + (i + 1)) ≠ 0) :
    (ataWriteSectors drive lba buffer count).sectors ((lba + (i + 1)) % 2 ^ 28) =
      drive.sectors ((lba + (i + 1)) % 2 ^ 28) := by
  have lost (earlier : Nat) (before : earlier < i + 1) : (lba + (i + 1)) % 2 ^ 28 ≠ (lba + earlier) % 2 ^ 28 :=
    (sector_apart before (by omega)).symm
  induction count with
  | zero => omega
  | succ count ih =>
      have step := @ataWriteSector_others _ ((lba + count) % 2 ^ 32) (count * 512) buffer
        (@ataWriteSectors_resting _ lba buffer resting count)
      rw [ataWriteSectors]
      by_cases last : count = i + 1
      · subst last
        have stored := @ataWriteSectors_stored _ lba _ buffer free resting (by omega) settled
        have busy : (ataWriteSectors drive lba buffer (i + 1)).busy ≠ 0 := by
          rw [stored.busy, if_neg (Nat.succ_ne_zero _)]
          exact slow
        rw [ataWriteSector_busy busy stored.transfer]
        dsimp only
        exact stored.others _ lost
      · rw [controllerSector] at step
        rw [step.2 _ (sector_apart (by omega) few)]
        exact ih (by omega) (by omega)

/-- A drive that is free and settles behind each sector but the last stores every one, and no other drive
stores whatever the buffer contains. -/
theorem ataWriteSectors_stores_iff :
    (∀ buffer, ∀ i < count, ∀ place < 512,
      (ataWriteSectors drive lba buffer count).sectors ((lba + i) % 2 ^ 28) place = buffer (i * 512 + place)) ↔
    ∀ i, i + 1 < count → drive.settling (drive.commands + (i + 1)) = 0 := by
  constructor
  · intro stores i inside
    induction i using Nat.strongRecOn with
    | _ i settled =>
      by_contra slow
      let lost := (lba + (i + 1)) % 2 ^ 28
      let buffer : Nat → UInt8 := fun _ => drive.sectors lost 0 + 1
      have kept := @ataWriteSectors_lost _ lba _ i buffer free resting few inside
        (fun earlier before => settled earlier (by omega) (by omega)) slow
      have written := stores buffer (i + 1) inside 0 (by decide)
      rw [kept] at written
      have differs (byte : UInt8) : byte ≠ byte + 1 := by simp
      exact differs _ written
  · intro settled buffer
    exact (ataWriteSectors_stored free resting few settled).written

end

theorem ataWriteSectors_stores_iff_two :
    (∀ buffer, ∀ i < 2, ∀ place < 512,
      (ataWriteSectors quietDrive 5 buffer 2).sectors ((5 + i) % 2 ^ 28) place = buffer (i * 512 + place)) ↔
    ∀ i, i + 1 < 2 → quietDrive.settling (quietDrive.commands + (i + 1)) = 0 :=
  ataWriteSectors_stores_iff rfl rfl (by decide)

end AutismOS.Storage

namespace AutismOS.Storage

open AutismOS.Library

/-- The files of the table, on a drive. -/
structure Volume where
  drive : Drive
  fileTable : Nat → File
  fileCount : Nat

namespace Volume

variable (volume : Volume)

def createFile (name : List UInt8) (data : Nat → UInt8) (size : Nat) : Volume :=
  if volume.fileCount ≥ maxFiles then volume
  else
    let fileCount := volume.fileCount + 1
    let file : File := { name := strncpy name nameSize, size, startLba := 1 + fileCount }
    { drive := Ports.ataWriteSectors volume.drive file.startLba data (sectorCount size)
      fileTable := Function.update volume.fileTable volume.fileCount file
      fileCount }

/-- The buffer after the call, and the drive. -/
def readFile (name : List UInt8) (buffer : Nat → UInt8) : (Nat → UInt8) × Volume :=
  match (List.range volume.fileCount).find? fun index => strncmp (volume.fileTable index).name name nameSize = 0 with
  | none => (buffer, volume)
  | some index =>
      let file := volume.fileTable index
      let read := Ports.ataReadSectors volume.drive file.startLba buffer (sectorCount file.size)
      (read.1, { volume with drive := read.2 })

end Volume

/-- The calls of the file store. -/
inductive FileCall where
  | createFile (name : List UInt8) (data : Nat → UInt8) (size : UInt32)
  | readFile (name : List UInt8) (buffer : Nat → UInt8)

/-- A call with the content of its buffer afterwards. -/
def Volume.perform (volume : Volume) : FileCall → (Nat → UInt8) × Volume
  | .createFile name data size => (data, volume.createFile name data size.toNat)
  | .readFile name buffer => volume.readFile name buffer

def Disk.perform (disk : Disk) : FileCall → (Nat → UInt8) × Disk
  | .createFile name data size => (data, disk.createFile name data size.toNat)
  | .readFile name buffer => (disk.readFile name buffer, disk)

/-- A drive that is free, that settles at once, and that has these bytes in its sectors. -/
structure Holds (drive : Drive) (sectors : Nat → Nat → UInt8) : Prop where
  busy : drive.busy = 0
  transfer : drive.transfer = .none
  settling : ∀ command, drive.settling command = 0
  sectors : ∀ sector, ∀ place < 512, drive.sectors sector place = sectors sector place

structure Mirrors (volume : Volume) (disk : Disk) : Prop where
  drive : Holds volume.drive disk.sectors
  fileTable : volume.fileTable = disk.fileTable
  fileCount : volume.fileCount = disk.fileCount

variable {volume : Volume} {disk : Disk} {drive : Drive} {lba count : Nat} {buffer : Nat → UInt8}

theorem ataReadSectors_succ : disk.ataReadSectors lba buffer (count + 1) =
    filled (count * 512) 512 (disk.ataReadSector ((lba + count) % 2 ^ 32)) (disk.ataReadSectors lba buffer count) := by
  funext place
  have ends : (count + 1) * sectorSize = count * 512 + 512 := Nat.succ_mul ..
  rw [Disk.ataReadSectors, ends]
  rfl

theorem Holds.ataWriteSectors (holds : Holds drive disk.sectors) (lba count : Nat) (buffer : Nat → UInt8) :
    Holds (Ports.ataWriteSectors drive lba buffer count) (disk.ataWriteSectors lba buffer count).sectors := by
  induction count with
  | zero => exact holds
  | succ count ih =>
      obtain ⟨written, others, busy, settles⟩ :=
        @ataWriteSector_free _ ((lba + count) % 2 ^ 32) (count * 512) buffer ih.busy
      refine ⟨?_, settles.transfer, fun command => ?_, fun sector place inside => ?_⟩
      · rw [Ports.ataWriteSectors, busy, ih.settling]
      · rw [Ports.ataWriteSectors, settles.settling, ih.settling]
      · rw [Ports.ataWriteSectors, Disk.ataWriteSectors, Disk.ataWriteSector]
        dsimp only
        by_cases same : sector = (lba + count) % 2 ^ 32 % 2 ^ 28
        · rw [same, Function.update_self, written place inside]
          rfl
        · rw [Function.update_of_ne same, others sector same, ih.sectors sector place inside]

theorem Holds.ataReadSectors (holds : Holds drive disk.sectors) (lba count : Nat) (buffer : Nat → UInt8) :
    (Ports.ataReadSectors drive lba buffer count).1 = disk.ataReadSectors lba buffer count ∧
    Holds (Ports.ataReadSectors drive lba buffer count).2 disk.sectors := by
  induction count with
  | zero => exact ⟨rfl, holds⟩
  | succ count ih =>
      obtain ⟨sameBuffer, later⟩ := ih
      obtain ⟨read, kept, busy, settles⟩ :=
        @ataReadSector_free _ ((lba + count) % 2 ^ 32) (count * 512)
          (Ports.ataReadSectors drive lba buffer count).1 later.busy
      constructor
      · rw [Ports.ataReadSectors, read, sameBuffer, ataReadSectors_succ]
        funext place
        simp only [filled]
        by_cases inside : count * 512 ≤ place ∧ place < count * 512 + 512
        · rw [if_pos inside, if_pos inside, later.sectors _ _ (by omega)]
          rfl
        · rw [if_neg inside, if_neg inside]
      · refine ⟨busy, settles.transfer, fun command => ?_, fun sector place inside => ?_⟩
        · rw [Ports.ataReadSectors, settles.settling, later.settling]
        · rw [Ports.ataReadSectors, kept, later.sectors sector place inside]

theorem Mirrors.createFile (mirrors : Mirrors volume disk) (name : List UInt8) (data : Nat → UInt8) (size : Nat) :
    Mirrors (volume.createFile name data size) (disk.createFile name data size) := by
  obtain ⟨drive, fileTable, fileCount⟩ := mirrors
  rw [Volume.createFile, Disk.createFile, fileCount, fileTable]
  by_cases full : disk.fileCount ≥ maxFiles
  · rw [if_pos full, if_pos full]
    exact ⟨drive, fileTable, fileCount⟩
  · rw [if_neg full, if_neg full]
    let entry : File := { name := strncpy name nameSize, size, startLba := 1 + (disk.fileCount + 1) }
    let listed : Disk :=
      { disk with
        fileTable := Function.update disk.fileTable disk.fileCount entry
        fileCount := disk.fileCount + 1 }
    have table := @ataWriteSectors_table listed entry.startLba (sectorCount size) data
    have before : Holds volume.drive listed.sectors := drive
    exact ⟨before.ataWriteSectors entry.startLba (sectorCount size) data, table.1.symm, table.2.symm⟩

theorem Mirrors.readFile (mirrors : Mirrors volume disk) (name : List UInt8) (buffer : Nat → UInt8) :
    (volume.readFile name buffer).1 = disk.readFile name buffer ∧ Mirrors (volume.readFile name buffer).2 disk := by
  obtain ⟨drive, fileTable, fileCount⟩ := mirrors
  rw [Volume.readFile, Disk.readFile, fileCount, fileTable]
  cases (List.range disk.fileCount).find? fun index => strncmp (disk.fileTable index).name name nameSize = 0 with
  | none => exact ⟨rfl, drive, fileTable, fileCount⟩
  | some index =>
      have read := drive.ataReadSectors (disk.fileTable index).startLba
        (sectorCount (disk.fileTable index).size) buffer
      exact ⟨read.1, read.2, rfl, rfl⟩

theorem perform_simulates : Simulates Mirrors Volume.perform Disk.perform := by
  intro volume disk call mirrors
  cases call with
  | createFile name data size => exact ⟨rfl, mirrors.createFile name data size.toNat⟩
  | readFile name buffer => exact mirrors.readFile name buffer

/-- On such a drive every call leaves its buffer as it is left with an array of sectors, however many calls
there are. -/
theorem volume_answers (mirrors : Mirrors volume disk) (calls : List FileCall) :
    (answers Volume.perform volume calls).1 = (answers Disk.perform disk calls).1 :=
  (perform_simulates.answers mirrors calls).1

def noFile : File := ⟨[], 0, 0⟩

theorem volume_answers_two :
    (answers Volume.perform ⟨quietDrive, fun _ => noFile, 0⟩
      [.createFile [97] (fun place => UInt8.ofNat place) 700, .readFile [97] fun _ => 0]).1 =
    (answers Disk.perform ⟨emptySectors, fun _ => noFile, 0⟩
      [.createFile [97] (fun place => UInt8.ofNat place) 700, .readFile [97] fun _ => 0]).1 :=
  volume_answers ⟨⟨rfl, rfl, fun _ => rfl, fun _ _ _ => rfl⟩, rfl, rfl⟩ _

end AutismOS.Storage
