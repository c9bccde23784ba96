import AutismOS.Library.Cursor
import AutismOS.Library.TracedMemory
import AutismOS.Memory.Pages
import Mathlib.Order.Bounds.Basic

namespace AutismOS.Memory

open AutismOS.Library

/-! The memory map with arbitrary content. -/

/-- What the loop over the map has read, and the end of memory it has found. -/
structure MapReading where
  memory : TracedMemory
  visited : List MmapEntry
  memoryEnd : Nat

/-- All the bytes of the packed entry are read. -/
def readMmapEntry (memory : TracedMemory) (addr : Nat) : MmapEntry × TracedMemory :=
  (readEntry memory.bytes addr, memory.touch addr 24)

/-- `parseEntries` with the entries that are visited and the bytes that are read. -/
def readEntries (memory : TracedMemory) (mmap mmapEnd memoryEnd : Nat) : Nat → Option MapReading
  | 0 => if mmap < mmapEnd then none else some ⟨memory, [], memoryEnd⟩
  | fuel + 1 =>
      if mmap < mmapEnd then
        let (entry, memory) := readMmapEntry memory mmap
        (readEntries memory ((mmap + entry.size + 4) % 2 ^ 32) mmapEnd (entryEnd memoryEnd entry) fuel).map
          fun reading => { reading with visited := entry :: reading.visited }
      else some ⟨memory, [], memoryEnd⟩

/-- `multibootParseMemoryMap` likewise. -/
def readMemoryMap (memory : TracedMemory) (fuel : Nat) (mbi : MultibootInfo) (memoryEnd : Nat) : Option MapReading :=
  if !mbi.flags.testBit 6 then some ⟨memory, [], memoryEnd⟩
  else readEntries memory mbi.mmapAddr ((mbi.mmapAddr + mbi.mmapLength) % 2 ^ 32) memoryEnd fuel

def MmapEntry.Available (entry : MmapEntry) : Prop := entry.type = multibootMemoryAvailable

/-- The ends below 4 GB of the available entries. -/
def ends (entries : List MmapEntry) : Set Nat :=
  {limit | ∃ entry ∈ entries, entry.Available ∧ limit = entry.baseAddr + entry.length ∧ limit < 2 ^ 32}

/-- The call returns, has read nothing but the buffer, and leaves the largest end that it met (0 when there is none). -/
def Parsed (memory : ByteMemory) (mbi : MultibootInfo) (pages : Pages) : Prop :=
  ∃ fuel reading, readMemoryMap ⟨memory, []⟩ fuel mbi pages.memoryEnd = some reading ∧
    multibootParseMemoryMap memory fuel mbi pages = some { pages with memoryEnd := reading.memoryEnd } ∧
    (∀ address ∈ reading.memory.touched, mbi.mmapAddr ≤ address ∧ address < mbi.mmapAddr + mbi.mmapLength) ∧
    IsGreatest (insert 0 (ends reading.visited)) reading.memoryEnd

section Maps

variable (memory : ByteMemory) (mbi : MultibootInfo)

def MultibootInfo.mmapEnd : Nat := (mbi.mmapAddr + mbi.mmapLength) % 2 ^ 32

/-- The entry that follows an entry. -/
def nextEntry (mmap : Nat) : Nat := (mmap + (readEntry memory mmap).size + 4) % 2 ^ 32

/-- An entry that is met when the size fields are followed from the start of the map. -/
def Met (mmap : Nat) : Prop :=
  mbi.flags.testBit 6 = true ∧ Cursor.Reaches (· < mbi.mmapEnd) (nextEntry memory) mbi.mmapAddr mmap ∧ mmap < mbi.mmapEnd

/-- Some available entry ends there or behind, below 4 GB. -/
def Outdone (limit : Nat) : Prop :=
  limit = 0 ∨ ∃ mmap, Met memory mbi mmap ∧ (readEntry memory mmap).Available ∧
    (readEntry memory mmap).baseAddr + (readEntry memory mmap).length < 2 ^ 32 ∧
    limit ≤ (readEntry memory mmap).baseAddr + (readEntry memory mmap).length

/-- No entry leads back to itself, each lies in the buffer, and neither the end of memory that was known before nor an end
that overflows 64 bits is beyond all others. -/
structure Readable (memoryEnd : Nat) : Prop where
  acyclic : mbi.flags.testBit 6 = true → Cursor.Acyclic (· < mbi.mmapEnd) (nextEntry memory) mbi.mmapAddr
  inside : ∀ mmap, Met memory mbi mmap → mbi.mmapAddr ≤ mmap ∧ mmap + 24 ≤ mbi.mmapAddr + mbi.mmapLength
  known : Outdone memory mbi memoryEnd
  overflows : ∀ mmap limit, Met memory mbi mmap → (readEntry memory mmap).Available →
    (readEntry memory mmap).baseAddr + (readEntry memory mmap).length = 2 ^ 64 + limit → limit < 2 ^ 32 →
    Outdone memory mbi limit

end Maps

variable {memory : ByteMemory} {mbi : MultibootInfo} {pages : Pages} {entries : List MmapEntry} {entry : MmapEntry}
variable {fuel mmap mmapEnd memoryEnd limit address : Nat} {places : List Nat}

theorem parseEntries_eq (memory : TracedMemory) : parseEntries memory.bytes mmap mmapEnd memoryEnd fuel =
    (readEntries memory mmap mmapEnd memoryEnd fuel).map MapReading.memoryEnd := by
  induction fuel generalizing memory mmap memoryEnd with
  | zero =>
      rw [parseEntries, readEntries]
      split <;> rfl
  | succ fuel ih =>
      rw [parseEntries, readEntries]
      split
      · refine (ih (memory.touch mmap 24)).trans ?_
        rw [Option.map_map]
        rfl
      · rfl

/-- The reading computes what the source computes. -/
theorem multibootParseMemoryMap_eq : multibootParseMemoryMap memory fuel mbi pages =
    (readMemoryMap ⟨memory, []⟩ fuel mbi pages.memoryEnd).map fun reading =>
      { pages with memoryEnd := reading.memoryEnd } := by
  rw [multibootParseMemoryMap, readMemoryMap]
  split
  · rfl
  · refine (congrArg (Option.map _) (parseEntries_eq ⟨memory, []⟩)).trans ?_
    rw [Option.map_map]
    rfl

/-- What is read is determined by the places of the entries. -/
def readPlaces (memory : TracedMemory) (memoryEnd : Nat) (places : List Nat) : MapReading where
  memory := places.foldl (fun memory mmap => memory.touch mmap 24) memory
  visited := places.map (readEntry memory.bytes)
  memoryEnd := (places.map (readEntry memory.bytes)).foldl entryEnd memoryEnd

theorem readEntries_eq (memory : TracedMemory) : readEntries memory mmap mmapEnd memoryEnd fuel =
    (Cursor.trail (· < mmapEnd) (nextEntry memory.bytes) fuel mmap).map (readPlaces memory memoryEnd) := by
  induction fuel generalizing memory mmap memoryEnd with
  | zero =>
      rw [readEntries, Cursor.trail]
      split <;> rfl
  | succ fuel ih =>
      rw [readEntries, Cursor.trail]
      split
      · refine (congrArg (Option.map _) (ih (memory.touch mmap 24))).trans ?_
        rw [Option.map_map, Option.map_map]
        rfl
      · rfl

/-- The places of the entries that are visited. -/
def mapTrail (memory : ByteMemory) (fuel : Nat) (mbi : MultibootInfo) : Option (List Nat) :=
  if !mbi.flags.testBit 6 then some []
  else Cursor.trail (· < mbi.mmapEnd) (nextEntry memory) fuel mbi.mmapAddr

theorem readMemoryMap_eq : readMemoryMap ⟨memory, []⟩ fuel mbi memoryEnd =
    (mapTrail memory fuel mbi).map (readPlaces ⟨memory, []⟩ memoryEnd) := by
  rw [readMemoryMap, mapTrail]
  split
  · rfl
  · exact readEntries_eq ⟨memory, []⟩

theorem mem_mapTrail (trail : mapTrail memory fuel mbi = some places) : mmap ∈ places ↔ Met memory mbi mmap := by
  rw [mapTrail] at trail
  split at trail
  · rename_i unset
    cases trail
    refine iff_of_false List.not_mem_nil fun met => ?_
    rw [met.1] at unset
    cases unset
  · rename_i isSet
    rw [Bool.not_eq_true, Bool.not_eq_false'] at isSet
    rw [Cursor.mem_trail trail, Met, and_iff_right isSet]

theorem mapTrail_ends_iff : (∃ fuel places, mapTrail memory fuel mbi = some places) ↔
    (mbi.flags.testBit 6 = true → Cursor.Acyclic (· < mbi.mmapEnd) (nextEntry memory) mbi.mmapAddr) := by
  cases isSet : mbi.flags.testBit 6 with
  | false =>
      refine iff_of_true ⟨0, [], ?_⟩ fun contrary => absurd contrary Bool.false_ne_true
      rw [mapTrail, isSet]
      rfl
  | true =>
      rw [← Cursor.ends_iff (Set.finite_lt_nat mbi.mmapEnd), imp_iff_right rfl]
      simp only [mapTrail, isSet, Bool.not_true, Bool.false_eq_true, if_false]

theorem mem_touched_places (memory : TracedMemory) :
    address ∈ (places.foldl (fun memory mmap => memory.touch mmap 24) memory).touched ↔
      (∃ mmap ∈ places, ∃ offset < 24, address = (mmap + offset) % 2 ^ 32) ∨ address ∈ memory.touched := by
  induction places generalizing memory with
  | nil => simp
  | cons mmap rest ih =>
      rw [List.foldl_cons, ih, TracedMemory.mem_touch]
      simp only [List.mem_cons, exists_eq_or_imp]
      rw [or_left_comm, or_assoc]

/-- The bytes of an entry that starts below the limit are in a range exactly when the whole entry is. -/
theorem entry_bytes_iff {lower : Nat} (starts : mmap < limit) (small : limit < 2 ^ 32) :
    (∀ offset < 24, lower ≤ (mmap + offset) % 2 ^ 32 ∧ (mmap + offset) % 2 ^ 32 < limit) ↔
      lower ≤ mmap ∧ mmap + 24 ≤ limit := by
  constructor
  · intro within
    have first := within 0 (by omega)
    by_cases fits : mmap + 24 ≤ limit
    · omega
    · have behind := within (limit - mmap) (by omega)
      rw [show mmap + (limit - mmap) = limit by omega, Nat.mod_eq_of_lt small] at behind
      omega
  · intro range offset inside
    rw [Nat.mod_eq_of_lt (by omega)]
    omega

theorem touched_within_iff (trail : mapTrail memory fuel mbi = some places)
    (addrSmall : mbi.mmapAddr < 2 ^ 32) (lengthSmall : mbi.mmapLength < 2 ^ 32) :
    (∀ address ∈ (readPlaces ⟨memory, []⟩ memoryEnd places).memory.touched,
        mbi.mmapAddr ≤ address ∧ address < mbi.mmapAddr + mbi.mmapLength) ↔
      ∀ mmap, Met memory mbi mmap → mbi.mmapAddr ≤ mmap ∧ mmap + 24 ≤ mbi.mmapAddr + mbi.mmapLength := by
  have bytes (address : Nat) : address ∈ (readPlaces ⟨memory, []⟩ memoryEnd places).memory.touched ↔
      ∃ mmap, Met memory mbi mmap ∧ ∃ offset < 24, address = (mmap + offset) % 2 ^ 32 := by
    refine (mem_touched_places ⟨memory, []⟩).trans ?_
    rw [or_iff_left List.not_mem_nil]
    exact exists_congr fun mmap => and_congr_left' (mem_mapTrail trail)
  have entry (mmap : Nat) (met : Met memory mbi mmap) :
      (∀ offset < 24, mbi.mmapAddr ≤ (mmap + offset) % 2 ^ 32 ∧
        (mmap + offset) % 2 ^ 32 < mbi.mmapAddr + mbi.mmapLength) ↔
      mbi.mmapAddr ≤ mmap ∧ mmap + 24 ≤ mbi.mmapAddr + mbi.mmapLength := by
    -- the end does not wrap around where the loop is entered
    have started : mbi.mmapAddr < mbi.mmapEnd := by
      obtain ⟨_, reaches, inside⟩ := met
      rcases reaches.cases_start with same | ⟨here, _⟩
      · exact same ▸ inside
      · exact here
    have isEnd : mbi.mmapEnd = mbi.mmapAddr + mbi.mmapLength := by
      unfold MultibootInfo.mmapEnd at started ⊢
      omega
    have small : mbi.mmapEnd < 2 ^ 32 := Nat.mod_lt _ (by decide)
    rw [← isEnd]
    exact entry_bytes_iff met.2.2 small
  constructor
  · intro within mmap met
    rw [← entry mmap met]
    intro offset inside
    exact within _ ((bytes _).mpr ⟨mmap, met, offset, inside, rfl⟩)
  · intro inside address touched
    obtain ⟨mmap, met, offset, bounded, rfl⟩ := (bytes address).mp touched
    exact (entry mmap met).mpr (inside mmap met) offset bounded

/-- What the code takes for the ends of the available entries. -/
def wrappedEnds (entries : List MmapEntry) : Set Nat :=
  {limit | ∃ entry ∈ entries, entry.Available ∧ limit = (entry.baseAddr + entry.length) % 2 ^ 64 ∧ limit < 2 ^ 32}

theorem entryEnd_isGreatest : IsGreatest (insert memoryEnd (wrappedEnds [entry])) (entryEnd memoryEnd entry) := by
  have single (limit : Nat) : limit ∈ wrappedEnds [entry] ↔
      entry.Available ∧ limit = (entry.baseAddr + entry.length) % 2 ^ 64 ∧ limit < 2 ^ 32 := by
    simp [wrappedEnds]
  rw [entryEnd]
  split
  · rename_i available
    dsimp only
    split
    · rename_i larger
      refine ⟨Or.inr ((single _).mpr ⟨available, rfl, larger.2⟩), fun limit member => ?_⟩
      rcases member with isOld | isEnd
      · omega
      · exact Nat.le_of_eq ((single limit).mp isEnd).2.1
    · rename_i smaller
      refine ⟨Or.inl rfl, fun limit member => ?_⟩
      rcases member with isOld | isEnd
      · exact Nat.le_of_eq isOld
      · obtain ⟨_, isLimit, below⟩ := (single limit).mp isEnd
        rw [← isLimit] at smaller
        omega
  · rename_i reserved
    refine ⟨Or.inl rfl, fun limit member => ?_⟩
    rcases member with isOld | isEnd
    · exact Nat.le_of_eq isOld
    · exact absurd ((single limit).mp isEnd).1 reserved

theorem foldl_entryEnd_isGreatest :
    IsGreatest (insert memoryEnd (wrappedEnds entries)) (entries.foldl entryEnd memoryEnd) := by
  induction entries generalizing memoryEnd with
  | nil => simp [wrappedEnds, IsGreatest, upperBounds]
  | cons entry rest ih =>
      have first : IsGreatest (insert memoryEnd (wrappedEnds [entry])) (entryEnd memoryEnd entry) := entryEnd_isGreatest
      have later : IsGreatest (insert (entryEnd memoryEnd entry) (wrappedEnds rest))
          (rest.foldl entryEnd (entryEnd memoryEnd entry)) := ih
      have split : wrappedEnds (entry :: rest) = wrappedEnds [entry] ∪ wrappedEnds rest := by
        ext limit
        simp [wrappedEnds]
      rw [List.foldl_cons, split, ← Set.insert_union]
      refine ⟨?_, fun limit member => ?_⟩
      · rcases later.1 with same | inRest
        · rw [same]
          exact Or.inl first.1
        · exact Or.inr inRest
      · rcases member with known | inRest
        · exact Nat.le_trans (first.2 known) (later.2 (Set.mem_insert _ _))
        · exact later.2 (Set.mem_insert_of_mem _ inRest)

theorem readEntry_lt : (readEntry memory mmap).baseAddr < 2 ^ 64 ∧ (readEntry memory mmap).length < 2 ^ 64 := by
  have baseLow : memory.loadWord (mmap + 4) < 2 ^ 32 := ByteMemory.loadWord_lt
  have baseHigh : memory.loadWord (mmap + 8) < 2 ^ 32 := ByteMemory.loadWord_lt
  have lengthLow : memory.loadWord (mmap + 12) < 2 ^ 32 := ByteMemory.loadWord_lt
  have lengthHigh : memory.loadWord (mmap + 16) < 2 ^ 32 := ByteMemory.loadWord_lt
  unfold readEntry
  dsimp only
  omega

theorem exists_visited_iff (trail : mapTrail memory fuel mbi = some places) (holds : MmapEntry → Prop) :
    (∃ entry ∈ places.map (readEntry memory), holds entry) ↔ ∃ mmap, Met memory mbi mmap ∧ holds (readEntry memory mmap) := by
  constructor
  · rintro ⟨entry, visited, held⟩
    obtain ⟨mmap, member, rfl⟩ := List.mem_map.mp visited
    exact ⟨mmap, (mem_mapTrail trail).mp member, held⟩
  · rintro ⟨mmap, met, held⟩
    exact ⟨_, List.mem_map_of_mem ((mem_mapTrail trail).mpr met), held⟩

theorem mem_ends_places (trail : mapTrail memory fuel mbi = some places) :
    limit ∈ ends (places.map (readEntry memory)) ↔
      ∃ mmap, Met memory mbi mmap ∧ (readEntry memory mmap).Available ∧
        limit = (readEntry memory mmap).baseAddr + (readEntry memory mmap).length ∧ limit < 2 ^ 32 :=
  exists_visited_iff trail fun entry => entry.Available ∧ limit = entry.baseAddr + entry.length ∧ limit < 2 ^ 32

/-- Either the end that the code computes is the end, or 64 bits overflow. -/
theorem mem_wrappedEnds_places (trail : mapTrail memory fuel mbi = some places) :
    limit ∈ wrappedEnds (places.map (readEntry memory)) ↔ limit ∈ ends (places.map (readEntry memory)) ∨
      ∃ mmap, Met memory mbi mmap ∧ (readEntry memory mmap).Available ∧
        (readEntry memory mmap).baseAddr + (readEntry memory mmap).length = 2 ^ 64 + limit ∧ limit < 2 ^ 32 := by
  rw [mem_ends_places trail, ← exists_or]
  refine (exists_visited_iff trail fun entry => entry.Available ∧
    limit = (entry.baseAddr + entry.length) % 2 ^ 64 ∧ limit < 2 ^ 32).trans (exists_congr fun mmap => ?_)
  have bounded : (readEntry memory mmap).baseAddr < 2 ^ 64 ∧ (readEntry memory mmap).length < 2 ^ 64 := readEntry_lt
  rw [← and_or_left, ← and_or_left]
  refine and_congr_right fun _ => and_congr_right fun _ => ?_
  omega

theorem outdone_iff (trail : mapTrail memory fuel mbi = some places) :
    Outdone memory mbi limit ↔ ∃ other ∈ insert 0 (ends (places.map (readEntry memory))), limit ≤ other := by
  constructor
  · rintro (zero | ⟨mmap, met, available, below, within⟩)
    · exact ⟨0, Set.mem_insert _ _, Nat.le_of_eq zero⟩
    · exact ⟨_, Or.inr ((mem_ends_places trail).mpr ⟨mmap, met, available, rfl, below⟩), within⟩
  · rintro ⟨other, isZero | isEnd, within⟩
    · exact Or.inl (by omega)
    · obtain ⟨mmap, met, available, isOther, below⟩ := (mem_ends_places trail).mp isEnd
      exact Or.inr ⟨mmap, met, available, isOther ▸ below, isOther ▸ within⟩

theorem isGreatest_ends_iff (trail : mapTrail memory fuel mbi = some places) :
    IsGreatest (insert 0 (ends (places.map (readEntry memory)))) (readPlaces ⟨memory, []⟩ memoryEnd places).memoryEnd ↔
      Outdone memory mbi memoryEnd ∧ ∀ mmap limit, Met memory mbi mmap → (readEntry memory mmap).Available →
        (readEntry memory mmap).baseAddr + (readEntry memory mmap).length = 2 ^ 64 + limit → limit < 2 ^ 32 →
        Outdone memory mbi limit := by
  have found : IsGreatest (insert memoryEnd (wrappedEnds (places.map (readEntry memory))))
      (readPlaces ⟨memory, []⟩ memoryEnd places).memoryEnd := foldl_entryEnd_isGreatest
  generalize (readPlaces ⟨memory, []⟩ memoryEnd places).memoryEnd = result at found ⊢
  simp only [outdone_iff trail]
  constructor
  · intro greatest
    refine ⟨⟨result, greatest.1, found.2 (Set.mem_insert _ _)⟩, fun mmap limit met available overflows below => ?_⟩
    have wrapped := (mem_wrappedEnds_places trail).mpr (Or.inr ⟨mmap, met, available, overflows, below⟩)
    exact ⟨result, greatest.1, found.2 (Set.mem_insert_of_mem _ wrapped)⟩
  · rintro ⟨known, overflows⟩
    have upper : result ∈ upperBounds (insert 0 (ends (places.map (readEntry memory)))) := by
      rintro limit (zero | isEnd)
      · rw [zero]
        exact Nat.zero_le result
      · exact found.2 (Or.inr ((mem_wrappedEnds_places trail).mpr (Or.inl isEnd)))
    -- what is as large as some end and an upper bound of them is one
    have reached (outdone : ∃ other ∈ insert 0 (ends (places.map (readEntry memory))), result ≤ other) :
        result ∈ insert 0 (ends (places.map (readEntry memory))) := by
      obtain ⟨other, member, within⟩ := outdone
      rw [Nat.le_antisymm within (upper member)]
      exact member
    refine ⟨?_, upper⟩
    rcases found.1 with isKnown | wrapped
    · exact reached (isKnown ▸ known)
    · rcases (mem_wrappedEnds_places trail).mp wrapped with isEnd | ⟨mmap, met, available, sum, below⟩
      · exact Set.mem_insert_of_mem _ isEnd
      · exact reached (overflows mmap result met available sum below)

theorem parsed_of_trail (trail : mapTrail memory fuel mbi = some places)
    (addrSmall : mbi.mmapAddr < 2 ^ 32) (lengthSmall : mbi.mmapLength < 2 ^ 32) :
    ((∀ address ∈ (readPlaces ⟨memory, []⟩ memoryEnd places).memory.touched,
        mbi.mmapAddr ≤ address ∧ address < mbi.mmapAddr + mbi.mmapLength) ∧
      IsGreatest (insert 0 (ends (places.map (readEntry memory))))
        (readPlaces ⟨memory, []⟩ memoryEnd places).memoryEnd) ↔ Readable memory mbi memoryEnd := by
  rw [touched_within_iff trail addrSmall lengthSmall, isGreatest_ends_iff trail]
  constructor
  · rintro ⟨inside, known, overflows⟩
    exact ⟨mapTrail_ends_iff.mp ⟨fuel, places, trail⟩, inside, known, overflows⟩
  · intro readable
    exact ⟨readable.inside, readable.known, readable.overflows⟩

/-- The call goes as it should exactly when the map is readable. -/
theorem multibootParseMemoryMap_parsed_iff (memory : ByteMemory) (mbi : MultibootInfo) (pages : Pages)
    (addrSmall : mbi.mmapAddr < 2 ^ 32) (lengthSmall : mbi.mmapLength < 2 ^ 32) :
    Parsed memory mbi pages ↔ Readable memory mbi pages.memoryEnd := by
  constructor
  · rintro ⟨fuel, reading, read, _, within, greatest⟩
    rw [readMemoryMap_eq] at read
    obtain ⟨places, trail, same⟩ := Option.map_eq_some_iff.mp read
    subst same
    exact (parsed_of_trail trail addrSmall lengthSmall).mp ⟨within, greatest⟩
  · intro readable
    obtain ⟨fuel, places, trail⟩ := mapTrail_ends_iff.mpr readable.acyclic
    have read : readMemoryMap ⟨memory, []⟩ fuel mbi pages.memoryEnd =
        some (readPlaces ⟨memory, []⟩ pages.memoryEnd places) := by
      rw [readMemoryMap_eq, trail]
      rfl
    refine ⟨fuel, _, read, ?_, (parsed_of_trail trail addrSmall lengthSmall).mpr readable⟩
    rw [multibootParseMemoryMap_eq, read]
    rfl

/-- One available entry, of the first 4 MB. -/
def sampleMap : ByteMemory := fun address =>
  if address = 0x1000 then 20 else if address = 0x100E then 0x40 else if address = 0x1014 then 1 else 0

def sampleInfo : MultibootInfo := ⟨64, 24, 0x1000⟩

theorem sampleMap_trail : mapTrail sampleMap 1 sampleInfo = some [0x1000] := by decide +kernel

theorem sampleMap_met (met : Met sampleMap sampleInfo mmap) : mmap = 0x1000 :=
  List.mem_singleton.mp ((mem_mapTrail sampleMap_trail).mpr met)

theorem multibootParseMemoryMap_parsed_sample : Parsed sampleMap sampleInfo ⟨fun _ => 0, 0, false⟩ := by
  refine (multibootParseMemoryMap_parsed_iff sampleMap sampleInfo _ (by decide) (by decide)).mpr ?_
  constructor
  · exact mapTrail_ends_iff.mp ⟨1, _, sampleMap_trail⟩
  · intro mmap met
    rw [sampleMap_met met]
    decide
  · exact Or.inl rfl
  · intro mmap limit met _ overflows _
    rw [sampleMap_met met] at overflows
    have known : (readEntry sampleMap 0x1000).baseAddr + (readEntry sampleMap 0x1000).length = 0x400000 := by
      decide +kernel
    omega

/-- An entry of size 0 is followed by one that begins inside it and ends behind the buffer. -/
theorem parse_leaves_buffer : ¬ ∀ (memory : ByteMemory) (mbi : MultibootInfo) (pages : Pages),
    mbi.mmapAddr < 2 ^ 32 → mbi.mmapLength < 2 ^ 32 → Parsed memory mbi pages := by
  intro parsed
  obtain ⟨fuel, reading, read, _, within, _⟩ :=
    parsed (fun _ => 0) sampleInfo ⟨fun _ => 0, 0, false⟩ (by decide) (by decide)
  rw [readMemoryMap_eq] at read
  obtain ⟨places, trail, same⟩ := Option.map_eq_some_iff.mp read
  subst same
  have met : Met (fun _ => 0) sampleInfo 0x1004 := by
    have first : Cursor.Reaches (· < sampleInfo.mmapEnd) (nextEntry fun _ => 0) sampleInfo.mmapAddr 0x1000 :=
      Relation.ReflTransGen.refl
    exact ⟨by decide, first.move (by decide), by decide⟩
  have inside := (touched_within_iff trail (by decide) (by decide)).mp within _ met
  exact absurd inside.2 (by decide)

end AutismOS.Memory
