import AutismOS.Storage.Disk

namespace AutismOS.Storage

open AutismOS.Library

/-! Which files can be read back. -/

variable {disk : Disk} {file other : NewFile} {files : List NewFile} {contents : Nat → Nat → UInt8}
variable {buffer : Nat → UInt8} {index place size : Nat}

/-- What is compared of a name. -/
def firstCharacters (name : List UInt8) : List UInt8 := (cString name).take nameSize

/-- Every size can be rounded up in 32 bits, and the sectors of every file end before those of the
files after it. -/
structure Spaced (files : List NewFile) : Prop where
  sizes : ∀ file ∈ files, file.size.toNat + 511 < 2 ^ 32
  extents : ∀ (index later : Nat) (file other : NewFile), index < later → files[index]? = some file →
    files[later]? = some other → 0 < other.size.toNat → index + file.sectors ≤ later

/-- Whatever the files contain, every one can be read back. -/
def ReadsBack (disk : Disk) (files : List NewFile) : Prop :=
  ∀ (contents : Nat → Nat → UInt8) (index : Nat) (file : NewFile), files[index]? = some file →
    ∀ (buffer : Nat → UInt8) (place : Nat), place < file.size.toNat →
      (createFiles contents disk 0 files).readFile file.name buffer place = contents index place

theorem sectorCount_eq (small : size + 511 < 2 ^ 32) : sectorCount size = (size + 511) / 512 := by
  rw [sectorCount, Nat.mod_eq_of_lt small]
  rfl

theorem sector_lt (small : size + 511 < 2 ^ 32) (inside : place < size) : place / 512 < sectorCount size := by
  rw [sectorCount_eq small]
  omega

theorem sectorCount_pos (small : size + 511 < 2 ^ 32) (nonempty : 0 < size) : 0 < sectorCount size := by
  have first := sector_lt small nonempty
  omega

theorem size_pos (some : 0 < sectorCount size) : 0 < size := by
  apply Nat.pos_of_ne_zero
  intro zero
  rw [zero] at some
  exact absurd some (by decide)

/-- The first byte of a sector of a file. -/
theorem sector_start_lt (small : size + 511 < 2 ^ 32) (inside : index < sectorCount size) : index * 512 < size := by
  rw [sectorCount_eq small] at inside
  omega

theorem lt_sectors (inside : place / 512 < index) : place < index * sectorSize :=
  (Nat.div_lt_iff_lt_mul (by decide)).mp inside

section

variable (empty : disk.fileCount = 0) (few : files.length ≤ maxFiles)
variable (different : files.Pairwise fun file other => firstCharacters file.name ≠ firstCharacters other.name)
include empty few different

/-- Reading a file reads the sectors that were given to it. -/
theorem readFile_created (listed : files[index]? = some file) :
    (createFiles contents disk 0 files).readFile file.name buffer place =
      if place < file.sectors * sectorSize then
        (createFiles contents disk 0 files).sectors (index + 2 + place / sectorSize) (place % sectorSize)
      else buffer place := by
  have room : 0 + files.length ≤ maxFiles := by omega
  have count : (createFiles contents disk 0 files).fileCount = files.length := by
    rw [createFiles_fileCount empty room, Nat.zero_add]
  have entry (index : Nat) (file : NewFile) (listed : files[index]? = some file) :
      (createFiles contents disk 0 files).fileTable index = file.entry index := by
    have known : (createFiles contents disk 0 files).fileTable (0 + index) = file.entry (0 + index) :=
      createFiles_entry empty room listed
    rwa [Nat.zero_add] at known
  have named (index : Nat) (other : NewFile) (isOther : files[index]? = some other) :
      strncmp ((createFiles contents disk 0 files).fileTable index).name file.name nameSize = 0 ↔
        firstCharacters other.name = firstCharacters file.name := by
    rw [entry index other isOther, strncmp_eq_zero, NewFile.entry, cString_strncpy, List.take_take, Nat.min_self]
    exact Iff.rfl
  have found : (List.range files.length).find? (fun index =>
      strncmp ((createFiles contents disk 0 files).fileTable index).name file.name nameSize = 0) = some index := by
    obtain ⟨inside, same⟩ := List.getElem?_eq_some_iff.mp listed
    refine List.find?_range_eq_some.mpr ⟨decide_eq_true ((named index file listed).mpr rfl), List.mem_range.mpr inside, ?_⟩
    intro earlier before
    have isEarlier : files[earlier]? = some files[earlier] := List.getElem?_eq_getElem (by omega)
    have apart := List.pairwise_iff_getElem.mp different earlier index (by omega) inside before
    rw [same] at apart
    simp only [named earlier _ isEarlier, apart, decide_false, Bool.not_false]
  have fits : index + 2 + file.sectors ≤ 2 ^ 28 := by
    have few : file.sectors ≤ 2 ^ 23 := sectorCount_le
    obtain ⟨inside, _⟩ := List.getElem?_eq_some_iff.mp listed
    unfold maxFiles at room
    omega
  rw [Disk.readFile, count, found]
  dsimp only
  rw [entry index file listed]
  exact ataReadSectors_eq fits

/-- Of spaced files every sector belongs to the file that was put there. -/
theorem Spaced.readsBack (spaced : Spaced files) : ReadsBack disk files := by
  intro contents index file listed buffer place inside
  have room : 0 + files.length ≤ maxFiles := by omega
  have small := spaced.sizes file (List.mem_of_getElem? listed)
  have within : place / sectorSize < file.sectors := sector_lt small inside
  have whole : place / sectorSize * sectorSize + place % sectorSize = place := Nat.div_add_mod' ..
  rw [readFile_created empty few different listed, if_pos (lt_sectors within)]
  generalize place / sectorSize = sector at within whole ⊢
  have covered : file.Covers (0 + index) (index + 2 + sector) := by
    constructor <;> omega
  rcases createFiles_sector contents (index + 2 + sector) empty room with
    ⟨none, _⟩ | ⟨writer, other, isWriter, covers, _, written⟩
  · exact absurd covered (none index file listed)
  · have same : writer = index := by
      obtain ⟨above, below⟩ := covers
      have nonempty : 0 < other.size.toNat := size_pos (Nat.pos_of_ne_zero fun zero => by
        rw [NewFile.sectors, zero] at below
        omega)
      by_contra apart
      rcases Nat.lt_or_gt_of_ne apart with before | after
      · have ends := spaced.extents writer index other file before isWriter listed (by omega)
        omega
      · have ends := spaced.extents index writer file other after listed isWriter nonempty
        omega
    have offset : index + 2 + sector - (0 + index + 2) = sector := by omega
    rw [written, same]
    dsimp only
    rw [offset, whole, Nat.zero_add]

/-- A size that cannot be rounded up leaves the file unwritten. -/
theorem ReadsBack.sizes (readsBack : ReadsBack disk files) : ∀ file ∈ files, file.size.toNat + 511 < 2 ^ 32 := by
  intro file member
  obtain ⟨index, listed⟩ := List.getElem?_of_mem member
  by_contra large
  have bounded := file.size.toNat_lt
  have none : file.sectors = 0 := by
    rw [NewFile.sectors, sectorCount]
    unfold sectorSize
    omega
  have read := readsBack (fun _ _ => 0) index file listed (fun _ => 1) 0 (by omega)
  rw [readFile_created empty few different listed, none, if_neg (by omega)] at read
  exact absurd read (by decide)

/-- Where a later file takes a sector, its data stand there. -/
theorem ReadsBack.extents (readsBack : ReadsBack disk files) {later : Nat} (before : index < later)
    (listed : files[index]? = some file) (isOther : files[later]? = some other) (nonempty : 0 < other.size.toNat) :
    index + file.sectors ≤ later := by
  have room : 0 + files.length ≤ maxFiles := by omega
  have sizes := readsBack.sizes empty few different
  by_contra overlap
  have inside : later - index < file.sectors := by omega
  have start : (later - index) * 512 < file.size.toNat :=
    sector_start_lt (sizes file (List.mem_of_getElem? listed)) inside
  have read := readsBack (fun writer _ => if writer = index then 0 else 1) index file listed (fun _ => 0) _ start
  have quotient : (later - index) * 512 / sectorSize = later - index := Nat.mul_div_cancel _ (by decide)
  have sector : index + 2 + (later - index) = later + 2 := by omega
  have otherWrites : 0 < other.sectors := sectorCount_pos (sizes other (List.mem_of_getElem? isOther)) nonempty
  have takes : other.Covers (0 + later) (later + 2) := by
    constructor <;> omega
  rw [readFile_created empty few different listed, if_pos (lt_sectors (by rw [← quotient] at inside; exact inside)),
    quotient, sector] at read
  rcases createFiles_sector (fun writer _ => if writer = index then 0 else 1) (later + 2) empty room with
    ⟨none, _⟩ | ⟨writer, last, isWriter, covers, final, written⟩
  · exact none later other isOther takes
  · have afterwards : later ≤ writer := by
      by_contra earlier
      exact final later other (by omega) isOther takes
    have apart : 0 + writer ≠ index := by omega
    rw [written] at read
    dsimp only at read
    rw [if_neg apart, if_pos rfl] at read
    exact absurd read (by decide)

/-- Files can be read back exactly if no size is too large to be rounded up and no file reaches the
start of a later one. -/
theorem reads_back_iff : ReadsBack disk files ↔ Spaced files := by
  constructor
  · intro readsBack
    exact ⟨readsBack.sizes empty few different, fun _ _ _ _ before listed isOther nonempty =>
      readsBack.extents empty few different before listed isOther nonempty⟩
  · intro spaced
    exact spaced.readsBack empty few different

end

def blankDisk : Disk where
  sectors := fun _ _ => 0
  fileTable := fun _ => { name := [], size := 0, startLba := 0 }
  fileCount := 0

theorem reads_back_sectors : ReadsBack blankDisk [⟨[97], 512⟩, ⟨[98], 100⟩] := by
  refine (reads_back_iff rfl (by decide) (by decide)).mpr ⟨by decide, ?_⟩
  intro index later file other before listed isOther _
  have last : later < 2 := (List.getElem?_eq_some_iff.mp isOther).1
  obtain ⟨rfl, rfl⟩ : index = 0 ∧ later = 1 := by omega
  cases listed
  decide

/-- The second sector of the first file is the first one of the second file. -/
theorem second_file_overwrites : firstCharacters [97] ≠ firstCharacters [98] ∧
    (createFiles (fun index _ => if index = 0 then 1 else 2) blankDisk 0 [⟨[97], 1024⟩, ⟨[98], 512⟩]).readFile [97]
      (fun _ => 0) 512 = 2 ∧
    ¬ ReadsBack blankDisk [⟨[97], 1024⟩, ⟨[98], 512⟩] := by
  have overwritten : (createFiles (fun index _ => if index = 0 then 1 else 2) blankDisk 0
      [⟨[97], 1024⟩, ⟨[98], 512⟩]).readFile [97] (fun _ => 0) 512 = 2 := by decide +kernel
  refine ⟨by decide, overwritten, fun readsBack => ?_⟩
  have read := readsBack (fun index _ => if index = 0 then 1 else 2) 0 ⟨[97], 1024⟩ rfl (fun _ => 0) 512 (by decide)
  rw [overwritten] at read
  exact absurd read (by decide)

end AutismOS.Storage
