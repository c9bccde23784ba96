import AutismOS.Library.Strings

namespace AutismOS.Storage

open AutismOS.Library

/-! The file store of `drivers/storage/disk.c`.

A buffer is given by the bytes that stand at its address and behind it.  The disk is an array of
sectors; the controller takes the low 28 bits of a sector number.
-/

def maxFiles : Nat := 128
def sectorSize : Nat := 512
def nameSize : Nat := 32

structure File where
  name : List UInt8
  size : Nat
  startLba : Nat

structure Disk where
  sectors : Nat → Nat → UInt8
  fileTable : Nat → File
  fileCount : Nat

/-- `(size + 511) / 512`, with a 32-bit sum. -/
def sectorCount (size : Nat) : Nat := (size + 511) % 2 ^ 32 / sectorSize

namespace Disk

variable (disk : Disk)

def ataReadSector (lba : Nat) : Nat → UInt8 := disk.sectors (lba % 2 ^ 28)

def ataWriteSector (lba : Nat) (buffer : Nat → UInt8) : Disk :=
  { disk with sectors := Function.update disk.sectors (lba % 2 ^ 28) buffer }

/-- The buffer after the loop over the sectors. -/
def ataReadSectors (lba : Nat) (buffer : Nat → UInt8) : Nat → Nat → UInt8
  | 0 => buffer
  | count + 1 => fun place =>
      if count * sectorSize ≤ place ∧ place < (count + 1) * sectorSize then
        disk.ataReadSector ((lba + count) % 2 ^ 32) (place - count * sectorSize)
      else ataReadSectors lba buffer count place

def ataWriteSectors (lba : Nat) (buffer : Nat → UInt8) : Nat → Disk
  | 0 => disk
  | count + 1 =>
      (ataWriteSectors lba buffer count).ataWriteSector ((lba + count) % 2 ^ 32) fun place =>
        buffer (count * sectorSize + place)

/-- The messages that are printed are left out. -/
def createFile (name : List UInt8) (data : Nat → UInt8) (size : Nat) : Disk :=
  if disk.fileCount ≥ maxFiles then disk
  else
    let fileCount := disk.fileCount + 1
    let file : File := { name := strncpy name nameSize, size, startLba := 1 + fileCount }
    { disk with fileTable := Function.update disk.fileTable disk.fileCount file, fileCount }.ataWriteSectors file.startLba
      data (sectorCount size)

/-- The buffer after the call: the first file of this name is read into it. -/
def readFile (name : List UInt8) (buffer : Nat → UInt8) : Nat → UInt8 :=
  match (List.range disk.fileCount).find? fun index => strncmp (disk.fileTable index).name name nameSize = 0 with
  | none => buffer
  | some index =>
      let file := disk.fileTable index
      disk.ataReadSectors file.startLba buffer (sectorCount file.size)

end Disk

end AutismOS.Storage

namespace AutismOS.Storage

open AutismOS.Library

variable {disk : Disk} {lba sector count size place index first : Nat} {buffer data : Nat → UInt8} {name : List UInt8}

theorem sectorCount_le : sectorCount size ≤ 2 ^ 23 := by
  unfold sectorCount sectorSize
  omega

theorem ataWriteSectors_table : (disk.ataWriteSectors lba buffer count).fileTable = disk.fileTable ∧
    (disk.ataWriteSectors lba buffer count).fileCount = disk.fileCount := by
  induction count with
  | zero => exact ⟨rfl, rfl⟩
  | succ count ih => exact ih

/-- A range of sectors takes the content of the buffer. -/
theorem ataWriteSectors_sectors (fits : lba + count ≤ 2 ^ 28) :
    (disk.ataWriteSectors lba buffer count).sectors sector =
      if lba ≤ sector ∧ sector < lba + count then fun place => buffer ((sector - lba) * sectorSize + place)
      else disk.sectors sector := by
  induction count with
  | zero => rw [if_neg (by omega)]; rfl
  | succ count ih =>
      have position : (lba + count) % 2 ^ 32 % 2 ^ 28 = lba + count := by omega
      rw [Disk.ataWriteSectors, Disk.ataWriteSector]
      dsimp only
      rw [position]
      by_cases last : sector = lba + count
      · have offset : sector - lba = count := by omega
        rw [if_pos (by omega), offset, last, Function.update_self]
      · rw [Function.update_of_ne last, ih (by omega)]
        by_cases inside : lba ≤ sector ∧ sector < lba + count
        · rw [if_pos inside, if_pos (by omega)]
        · rw [if_neg inside, if_neg (by omega)]

theorem ataReadSectors_eq (fits : lba + count ≤ 2 ^ 28) :
    disk.ataReadSectors lba buffer count place =
      if place < count * sectorSize then disk.sectors (lba + place / sectorSize) (place % sectorSize)
      else buffer place := by
  induction count with
  | zero => rw [if_neg (by omega)]; rfl
  | succ count ih =>
      have position : (lba + count) % 2 ^ 32 % 2 ^ 28 = lba + count := by omega
      rw [Disk.ataReadSectors, Disk.ataReadSector]
      dsimp only
      rw [position, ih (by omega)]
      unfold sectorSize
      by_cases last : count * 512 ≤ place ∧ place < (count + 1) * 512
      · have quotient : place / 512 = count := by omega
        have remainder : place % 512 = place - count * 512 := by omega
        rw [if_pos last, if_pos last.2, quotient, remainder]
      · rw [if_neg last]
        by_cases inside : place < count * 512
        · have within : place < (count + 1) * 512 :=
            Nat.lt_of_lt_of_le inside (Nat.mul_le_mul_right 512 (Nat.le_succ count))
          rw [if_pos inside, if_pos within]
        · have beyond : ¬ place < (count + 1) * 512 := fun within => last ⟨Nat.not_lt.mp inside, within⟩
          rw [if_neg inside, if_neg beyond]

/-- The arguments of `create_file`, apart from the data. -/
structure NewFile where
  name : List UInt8
  size : UInt32

/-- The sectors that are written for a file. -/
def NewFile.sectors (file : NewFile) : Nat := sectorCount file.size.toNat

/-- The file that is created as number `index` takes the sector. -/
def NewFile.Covers (file : NewFile) (index sector : Nat) : Prop :=
  index + 2 ≤ sector ∧ sector < index + 2 + file.sectors

instance (file : NewFile) (index sector : Nat) : Decidable (file.Covers index sector) :=
  inferInstanceAs (Decidable (_ ∧ _))

/-- The entry of the file in the table. -/
def NewFile.entry (file : NewFile) (index : Nat) : File where
  name := strncpy file.name nameSize
  size := file.size.toNat
  startLba := index + 2

/-- Files are created one after another; `contents` are their data. -/
def createFiles (contents : Nat → Nat → UInt8) (disk : Disk) : Nat → List NewFile → Disk
  | _, [] => disk
  | index, file :: rest =>
      createFiles contents (disk.createFile file.name (contents index) file.size.toNat) (index + 1) rest

variable {file other : NewFile} {files : List NewFile} {contents : Nat → Nat → UInt8} {offset : Nat}

theorem createFile_table (disk : Disk) (file : NewFile) (data : Nat → UInt8) (room : disk.fileCount < maxFiles) :
    (disk.createFile file.name data file.size.toNat).fileCount = disk.fileCount + 1 ∧
    (disk.createFile file.name data file.size.toNat).fileTable =
      Function.update disk.fileTable disk.fileCount (file.entry disk.fileCount) := by
  have start : 1 + (disk.fileCount + 1) = disk.fileCount + 2 := by omega
  rw [Disk.createFile, if_neg (Nat.not_le.mpr room)]
  dsimp only
  rw [ataWriteSectors_table.1, ataWriteSectors_table.2, start]
  exact ⟨rfl, rfl⟩

theorem createFile_sectors (room : disk.fileCount < maxFiles) :
    (disk.createFile file.name data file.size.toNat).sectors sector =
      if file.Covers disk.fileCount sector then
        fun place => data ((sector - (disk.fileCount + 2)) * sectorSize + place)
      else disk.sectors sector := by
  have start : 1 + (disk.fileCount + 1) = disk.fileCount + 2 := by omega
  have few : sectorCount file.size.toNat ≤ 2 ^ 23 := sectorCount_le
  have fits : disk.fileCount + 2 + sectorCount file.size.toNat ≤ 2 ^ 28 := by
    have small : disk.fileCount < 128 := room
    omega
  rw [Disk.createFile, if_neg (Nat.not_le.mpr room)]
  dsimp only
  rw [start, ataWriteSectors_sectors fits]
  rfl

theorem createFiles_fileCount (counted : disk.fileCount = index) (room : index + files.length ≤ maxFiles) :
    (createFiles contents disk index files).fileCount = index + files.length := by
  induction files generalizing disk index with
  | nil => exact counted
  | cons file rest ih =>
      rw [List.length_cons] at room
      have next : (disk.createFile file.name (contents index) file.size.toNat).fileCount = index + 1 := by
        rw [(createFile_table disk file (contents index) (by omega)).1, counted]
      rw [createFiles, ih next (by omega), List.length_cons]
      omega

/-- Creating further files leaves the entries of the table that are there. -/
theorem createFiles_below (counted : disk.fileCount = index) (room : index + files.length ≤ maxFiles)
    (below : place < index) : (createFiles contents disk index files).fileTable place = disk.fileTable place := by
  induction files generalizing disk index with
  | nil => rfl
  | cons file rest ih =>
      rw [List.length_cons] at room
      have table := createFile_table disk file (contents index) (by omega)
      have apart : place ≠ disk.fileCount := by omega
      rw [createFiles, ih (by rw [table.1, counted]) (by omega) (by omega), table.2, Function.update_of_ne apart]

theorem createFiles_entry (counted : disk.fileCount = index) (room : index + files.length ≤ maxFiles)
    (listed : files[offset]? = some file) :
    (createFiles contents disk index files).fileTable (index + offset) = file.entry (index + offset) := by
  induction files generalizing disk index offset with
  | nil => simp at listed
  | cons head rest ih =>
      rw [List.length_cons] at room
      have table := createFile_table disk head (contents index) (by omega)
      have next : (disk.createFile head.name (contents index) head.size.toNat).fileCount = index + 1 := by
        rw [table.1, counted]
      rw [createFiles]
      cases offset with
      | zero =>
          cases listed
          rw [createFiles_below next (by omega) (by omega), table.2, counted]
          exact Function.update_self ..
      | succ offset =>
          rw [List.getElem?_cons_succ] at listed
          have further : index + (offset + 1) = index + 1 + offset := by omega
          rw [further, ih next (by omega) listed]

/-- A sector holds what it held before, or what the last file put there that takes it. -/
theorem createFiles_sector (contents : Nat → Nat → UInt8) (sector : Nat) (counted : disk.fileCount = index)
    (room : index + files.length ≤ maxFiles) :
    ((∀ (offset : Nat) (file : NewFile), files[offset]? = some file → ¬ file.Covers (index + offset) sector) ∧
      (createFiles contents disk index files).sectors sector = disk.sectors sector) ∨
    ∃ (offset : Nat) (file : NewFile), files[offset]? = some file ∧ file.Covers (index + offset) sector ∧
      (∀ (later : Nat) (other : NewFile), offset < later → files[later]? = some other → ¬ other.Covers (index + later) sector) ∧
      (createFiles contents disk index files).sectors sector =
        fun place => contents (index + offset) ((sector - (index + offset + 2)) * sectorSize + place) := by
  induction files generalizing disk index with
  | nil => exact Or.inl ⟨fun offset file listed => by simp at listed, rfl⟩
  | cons head rest ih =>
      rw [List.length_cons] at room
      have table := createFile_table disk head (contents index) (by omega)
      have next : (disk.createFile head.name (contents index) head.size.toNat).fileCount = index + 1 := by
        rw [table.1, counted]
      have shift (offset : Nat) : index + 1 + offset = index + (offset + 1) := by omega
      have later := ih next (by omega)
      simp only [shift] at later
      rw [createFiles]
      rcases later with ⟨none, kept⟩ | ⟨offset, file, listed, covers, last, written⟩
      · rw [createFile_sectors (by omega), counted] at kept
        by_cases covers : head.Covers index sector
        · rw [if_pos covers] at kept
          refine Or.inr ⟨0, head, rfl, covers, ?_, kept⟩
          intro later other after listed
          obtain ⟨before, rfl⟩ : ∃ before, later = before + 1 := ⟨later - 1, by omega⟩
          exact none before other listed
        · rw [if_neg covers] at kept
          refine Or.inl ⟨?_, kept⟩
          intro offset file listed
          cases offset with
          | zero =>
              cases listed
              exact covers
          | succ offset => exact none offset file listed
      · refine Or.inr ⟨offset + 1, file, listed, covers, ?_, written⟩
        intro later other after listed
        obtain ⟨before, rfl⟩ : ∃ before, later = before + 1 := ⟨later - 1, by omega⟩
        exact last before other (by omega) listed

end AutismOS.Storage
