import AutismOS.Heap.Outcomes
import AutismOS.Memory.Paging
import AutismOS.Library.Run
import Mathlib.Data.Finset.Basic

namespace AutismOS.Memory

open AutismOS.Library AutismOS.Heap

variable {statics : Statics} {paging : Paging} {directory kernel copy : PageDirectory}
variable {block slot index table count virt dir virtAddr physAddr flags : Nat}

/-! Entries and table pointers agree. -/

/-- In every slot, entry and table pointer are both empty or refer to the same table, and
the low bits of the entry are the flags. -/
structure Consistent (directory : PageDirectory) : Prop where
  both : ∀ slot < 1024, directory.tables slot = 0 ↔ directory.entries slot = 0
  address : ∀ slot < 1024, directory.entries slot ≠ 0 →
    maskAddress (directory.entries slot) = directory.tables slot
  flags : ∀ slot < 1024, directory.entries slot ≠ 0 →
    directory.entries slot % 4096 = pagePresent ||| pageWrite ||| pageUser

/-- The entry that is made for a page table. -/
def tableEntry (table : Nat) : Nat := table ||| pagePresent ||| pageWrite ||| pageUser

theorem tableEntry_flags : tableEntry table = table ||| 7 := by
  rw [tableEntry, Nat.or_assoc, Nat.or_assoc]
  rfl

theorem tableEntry_offset : tableEntry table % 4096 = table % 4096 ||| 7 := by
  rw [tableEntry_flags]
  exact Nat.or_mod_two_pow (n := 12)

theorem tableEntry_page : maskAddress (tableEntry table) = maskAddress table := by
  have high : tableEntry table / 4096 = table / 4096 := by
    have shifted : (table ||| 7) / 2 ^ 12 = table / 2 ^ 12 ||| 7 / 2 ^ 12 := Nat.or_div_two_pow
    rw [tableEntry_flags]
    simpa using shifted
  unfold maskAddress
  omega

theorem tableEntry_ne_zero : tableEntry table ≠ 0 := by
  intro zero
  have bit : (tableEntry table).testBit 0 = true := by
    rw [tableEntry_flags]
    simp
  rw [zero] at bit
  cases bit

theorem Consistent.enter (consistent : Consistent directory) (aligned : table % 4096 = 0) (nonNull : table ≠ 0) :
    Consistent { entries := Function.update directory.entries slot (tableEntry table)
                 tables := Function.update directory.tables slot table } := by
  refine ⟨fun other inside => ?_, fun other inside filled => ?_, fun other inside filled => ?_⟩
  · by_cases same : other = slot
    · subst same
      simp only [Function.update_self, tableEntry_ne_zero, nonNull]
    · simp only [Function.update_of_ne same]
      exact consistent.both other inside
  · by_cases same : other = slot
    · subst same
      simp only [Function.update_self]
      rw [tableEntry_page, maskAddress, aligned, Nat.sub_zero]
    · simp only [Function.update_of_ne same] at filled ⊢
      exact consistent.address other inside filled
  · by_cases same : other = slot
    · subst same
      simp only [Function.update_self]
      rw [tableEntry_offset, aligned]
      rfl
    · simp only [Function.update_of_ne same] at filled ⊢
      exact consistent.flags other inside filled

/-- A table of the kernel heap is not entered consistently: its address is not aligned. -/
theorem not_consistent_of_heapPointer (inside : slot < 1024) (placed : HeapPointer table)
    (isEntry : directory.entries slot = tableEntry table) (isTable : directory.tables slot = table) :
    ¬ Consistent directory := by
  intro consistent
  have same := consistent.address slot inside (isEntry ▸ tableEntry_ne_zero)
  have offset := placed.1
  rw [isEntry, isTable, tableEntry_page] at same
  unfold maskAddress at same
  unfold kheapBlockSize headerSize at offset
  omega

/-- The loop copies the filled slots of its range and leaves the others as they are. -/
theorem copyEntries_slot {other : Nat} :
    (copyEntries kernel copy slot count).entries other =
        (if slot ≤ other ∧ other < slot + count ∧ kernel.entries other ≠ 0 then kernel.entries other
        else copy.entries other) ∧
      (copyEntries kernel copy slot count).tables other =
        if slot ≤ other ∧ other < slot + count ∧ kernel.entries other ≠ 0 then
          maskAddress (kernel.entries other)
        else copy.tables other := by
  induction count generalizing copy slot with
  | zero =>
      have none : ¬ (slot ≤ other ∧ other < slot + 0 ∧ kernel.entries other ≠ 0) := by omega
      rw [copyEntries, if_neg none, if_neg none]
      exact ⟨rfl, rfl⟩
  | succ count ih =>
      rw [copyEntries, ih.1, ih.2]
      by_cases same : other = slot
      · subst same
        by_cases filled : kernel.entries other ≠ 0
        · simp [filled]
        · simp [filled]
      · have range : slot + 1 ≤ other ∧ other < slot + 1 + count ∧ kernel.entries other ≠ 0 ↔
            slot ≤ other ∧ other < slot + (count + 1) ∧ kernel.entries other ≠ 0 := by omega
        simp only [range]
        by_cases filled : kernel.entries slot ≠ 0
        · simp only [if_pos filled, Function.update_of_ne same, and_self]
        · simp only [if_neg filled, and_self]

/-- A new directory has the entries of the kernel directory. -/
theorem created_entries (inside : slot < 1024) :
    (copyEntries kernel clearedDirectory 0 pageTableSize).entries slot = kernel.entries slot := by
  rw [copyEntries_slot.1]
  by_cases filled : kernel.entries slot ≠ 0
  · rw [if_pos ⟨Nat.zero_le _, by unfold pageTableSize; omega, filled⟩]
  · rw [if_neg fun all => filled all.2.2]
    exact (not_not.mp filled).symm

theorem created_tables (inside : slot < 1024) :
    (copyEntries kernel clearedDirectory 0 pageTableSize).tables slot =
      if kernel.entries slot ≠ 0 then maskAddress (kernel.entries slot) else 0 := by
  rw [copyEntries_slot.2]
  by_cases filled : kernel.entries slot ≠ 0
  · rw [if_pos ⟨Nat.zero_le _, by unfold pageTableSize; omega, filled⟩, if_pos filled]
  · rw [if_neg fun all => filled all.2.2, if_neg filled]
    rfl

theorem Consistent.created (consistent : Consistent kernel) :
    Consistent (copyEntries kernel clearedDirectory 0 pageTableSize) := by
  refine ⟨fun slot inside => ?_, fun slot inside filled => ?_, fun slot inside filled => ?_⟩
  · rw [created_entries inside, created_tables inside]
    by_cases filled : kernel.entries slot ≠ 0
    · rw [if_pos filled, consistent.address slot inside filled]
      exact consistent.both slot inside
    · simp [not_not.mp filled]
  · rw [created_entries inside] at filled ⊢
    rw [created_tables inside, if_pos filled]
  · rw [created_entries inside] at filled ⊢
    exact consistent.flags slot inside filled

/-- The paging structures with the directories that exist. -/
structure Directories where
  paging : Paging
  live : Finset Nat

inductive PagingCall where
  | createPageDirectory (block : Nat)
  | mapPageInDirectory (block dir virtAddr physAddr flags : Nat)
deriving DecidableEq

def pagingStep (statics : Statics) (state : Directories) : PagingCall → Option Directories
  | .createPageDirectory block =>
      let (dir, paging) := createPageDirectory statics state.paging block
      some { paging, live := if dir = 0 then state.live else insert dir state.live }
  | .mapPageInDirectory block dir virtAddr physAddr flags =>
      (mapPageInDirectory state.paging block dir virtAddr physAddr flags).map fun paging =>
        { state with paging }

/-- The arguments are 32-bit values, directories exist, and blocks come from the kernel heap. -/
def PagingCall.Valid (state : Directories) : PagingCall → Prop
  | .createPageDirectory block => block = 0 ∨ HeapPointer block ∧ block ∉ state.live
  | .mapPageInDirectory block dir virtAddr physAddr flags =>
      (block = 0 ∨ HeapPointer block) ∧ (dir = 0 ∨ dir ∈ state.live) ∧ virtAddr < 2 ^ 32 ∧
        physAddr < 2 ^ 32 ∧ flags < 2 ^ 32

/-- Every directory is consistent, and a new one translates as the kernel's did when it was made. -/
structure Faithful (statics : Statics) (before : Directories) (call : PagingCall) (after : Directories) :
    Prop where
  consistent : ∀ dir ∈ after.live, Consistent (after.paging.directories dir)
  translates : ∀ block, call = .createPageDirectory block → block ≠ 0 → ∀ virt < 2 ^ 32,
    translate after.paging block virt = translate before.paging statics.kernelPageDirectory virt

/-- The directory has a page table for the address. -/
def PagingCall.Populated (state : Directories) : PagingCall → Prop
  | .createPageDirectory _ => True
  | .mapPageInDirectory _ dir virtAddr _ _ =>
      (state.paging.directories dir).tables (virtAddr / (pageSize * pageTableSize)) ≠ 0

variable {before after : Directories} {call : PagingCall} {calls : List PagingCall}

/-- The directories before any table is allocated. -/
structure Sane (statics : Statics) (state : Directories) : Prop where
  kernel : statics.kernelPageDirectory ∈ state.live
  consistent : ∀ dir ∈ state.live, Consistent (state.paging.directories dir)

/-- Any directory with the same entries translates in the same way. -/
theorem translate_congr {paging' : Paging} {dir dir' : Nat} (bounded : virt < 2 ^ 32)
    (entries : ∀ slot < 1024, (paging'.directories dir').entries slot = (paging.directories dir).entries slot)
    (pages : paging'.pageTables = paging.pageTables) :
    translate paging' dir' virt = translate paging dir virt := by
  have inside : virt / 2 ^ 22 < 1024 := by omega
  simp only [translate, entries _ inside, pages]

/-- A map call either fills in a page of an existing table or enters a new table. -/
inductive Mapping (before : Paging) (block dir virtAddr : Nat) (after : Paging) : Prop where
  | present (nonNull : dir ≠ 0)
      (table : (before.directories dir).tables (virtAddr / (pageSize * pageTableSize)) ≠ 0)
      (kept : after.directories = before.directories)
  | entered (nonNull : dir ≠ 0)
      (table : (before.directories dir).tables (virtAddr / (pageSize * pageTableSize)) = 0)
      (allocated : block ≠ 0)
      (entries : (after.directories dir).entries (virtAddr / (pageSize * pageTableSize)) = tableEntry block)
      (tables : (after.directories dir).tables (virtAddr / (pageSize * pageTableSize)) = block)

theorem mapPageInDirectory_present (nonNull : dir ≠ 0)
    (table : (paging.directories dir).tables (virtAddr / (pageSize * pageTableSize)) ≠ 0) :
    mapPageInDirectory paging block dir virtAddr physAddr flags =
      some (paging.setEntry ((paging.directories dir).tables (virtAddr / (pageSize * pageTableSize)))
        (virtAddr / pageSize % pageTableSize) (physAddr ||| flags)) := by
  simp only [mapPageInDirectory, if_neg nonNull, if_neg table]

/-- The structures after a cleared table was entered in a directory. -/
def enterTable (paging : Paging) (dir slot block : Nat) : Paging :=
  ({ paging with pageTables := Function.update paging.pageTables block fun _ => 0 } : Paging).setDirectory dir
    { entries := Function.update (paging.directories dir).entries slot (tableEntry block)
      tables := Function.update (paging.directories dir).tables slot block }

theorem mapPageInDirectory_absent (nonNull : dir ≠ 0)
    (table : (paging.directories dir).tables (virtAddr / (pageSize * pageTableSize)) = 0)
    (entry : (paging.directories dir).entries (virtAddr / (pageSize * pageTableSize)) = 0)
    (allocated : block ≠ 0) :
    mapPageInDirectory paging block dir virtAddr physAddr flags =
      some ((enterTable paging dir (virtAddr / (pageSize * pageTableSize)) block).setEntry block
        (virtAddr / pageSize % pageTableSize) (physAddr ||| flags)) := by
  simp only [mapPageInDirectory, if_neg nonNull, if_pos table, entry, ne_eq, not_true, if_false,
    if_neg allocated]
  rfl

theorem mapPageInDirectory_mapping {after : Paging}
    (mapped : mapPageInDirectory paging block dir virtAddr physAddr flags = some after) :
    Mapping paging block dir virtAddr after := by
  by_cases null : dir = 0
  · rw [mapPageInDirectory, if_pos null] at mapped
    cases mapped
  by_cases table : (paging.directories dir).tables (virtAddr / (pageSize * pageTableSize)) = 0
  · by_cases panics : (paging.directories dir).entries (virtAddr / (pageSize * pageTableSize)) ≠ 0 ∨ block = 0
    · rcases panics with filled | exhausted
      · simp [mapPageInDirectory, null, table, filled] at mapped
      · simp [mapPageInDirectory, null, table, exhausted] at mapped
    · obtain ⟨entry, allocated⟩ := not_or.mp panics
      rw [mapPageInDirectory_absent null table (not_not.mp entry) allocated] at mapped
      cases mapped
      refine .entered null table allocated ?_ ?_
      · simp [enterTable, Paging.setEntry, Paging.setDirectory]
      · simp [enterTable, Paging.setEntry, Paging.setDirectory]
  · rw [mapPageInDirectory_present null table] at mapped
    cases mapped
    exact .present null table rfl

theorem pagingStep_create (nonNull : block ≠ 0) :
    pagingStep statics before (.createPageDirectory block) =
      some { paging := (createPageDirectory statics before.paging block).2, live := insert block before.live } := by
  simp only [pagingStep, createPageDirectory, if_neg nonNull]

theorem pagingStep_map {mapped : Paging}
    (done : mapPageInDirectory before.paging block dir virtAddr physAddr flags = some mapped) :
    pagingStep statics before (.mapPageInDirectory block dir virtAddr physAddr flags) =
      some { before with paging := mapped } := by
  simp only [pagingStep, done, Option.map_some]

/-- A new directory gets the kernel directory's entries. -/
theorem createPageDirectory_directory (nonNull : block ≠ 0) :
    (createPageDirectory statics paging block).2.directories block =
      copyEntries (paging.directories statics.kernelPageDirectory) clearedDirectory 0 pageTableSize := by
  simp only [createPageDirectory, if_neg nonNull, Paging.setDirectory, Function.update_self]

theorem createPageDirectory_other (other : dir ≠ block) :
    (createPageDirectory statics paging block).2.directories dir = paging.directories dir := by
  by_cases null : block = 0
  · simp only [createPageDirectory, if_pos null]
  · simp only [createPageDirectory, if_neg null, Paging.setDirectory, Function.update_of_ne other]

/-- The new directory replaces nothing and is as consistent as the kernel's. -/
theorem Sane.createPageDirectory (sane : Sane statics before) (fresh : block ∉ before.live)
    (nonNull : block ≠ 0) (step : pagingStep statics before (.createPageDirectory block) = some after) :
    Faithful statics before (.createPageDirectory block) after := by
  rw [pagingStep_create nonNull] at step
  cases step
  refine ⟨fun dir member => ?_, fun made isBlock _ virt bounded => ?_⟩
  · rcases Finset.mem_insert.mp member with isNew | old
    · rw [isNew, createPageDirectory_directory nonNull]
      exact (sane.consistent _ sane.kernel).created
    · have other : dir ≠ block := fun same => fresh (same ▸ old)
      rw [createPageDirectory_other other]
      exact sane.consistent dir old
  · cases isBlock
    refine translate_congr bounded (fun slot inside => ?_) ?_
    · rw [createPageDirectory_directory nonNull]
      exact created_entries inside
    · simp only [AutismOS.Memory.createPageDirectory, if_neg nonNull, Paging.setDirectory]

/-- One step keeps the property exactly when it allocates no page table. -/
theorem Sane.faithful_iff (sane : Sane statics before) (valid : call.Valid before)
    (step : pagingStep statics before call = some after) :
    Faithful statics before call after ↔ call.Populated before := by
  cases call with
  | createPageDirectory block =>
      refine iff_of_true ?_ trivial
      rcases valid with exhausted | ⟨_, fresh⟩
      · subst exhausted
        cases step
        exact ⟨sane.consistent, fun made isBlock nonNull => absurd (PagingCall.createPageDirectory.inj isBlock).symm nonNull⟩
      · by_cases nonNull : block = 0
        · subst nonNull
          cases step
          exact ⟨sane.consistent, fun made isBlock nonNull => absurd (PagingCall.createPageDirectory.inj isBlock).symm nonNull⟩
        · exact sane.createPageDirectory fresh nonNull step
  | mapPageInDirectory block dir virtAddr physAddr flags =>
      obtain ⟨placed, exists_, bounded, _⟩ := valid
      obtain ⟨paging, mapped, rfl⟩ := Option.map_eq_some_iff.mp step
      cases mapPageInDirectory_mapping mapped with
      | present nonNull table kept =>
          refine iff_of_true ⟨fun other member => ?_, fun made isBlock => nomatch isBlock⟩ table
          rw [kept]
          exact sane.consistent other member
      | entered nonNull table allocated entries tables =>
          refine iff_of_false (fun faithful => ?_) (not_not.mpr table)
          have inside : virtAddr / (pageSize * pageTableSize) < 1024 := by
            unfold pageSize pageTableSize
            omega
          exact not_consistent_of_heapPointer inside (placed.resolve_left allocated) entries tables
            (faithful.consistent dir (exists_.resolve_left nonNull))

theorem pagingStep_live (step : pagingStep statics before call = some after) :
    before.live ⊆ after.live := by
  cases call with
  | createPageDirectory block =>
      simp only [pagingStep, Option.some.injEq] at step
      subst step
      by_cases exhausted : (createPageDirectory statics before.paging block).1 = 0
      · simp only [if_pos exhausted, subset_refl]
      · simp only [if_neg exhausted, Finset.subset_insert]
  | mapPageInDirectory block dir virtAddr physAddr flags =>
      obtain ⟨paging, _, rfl⟩ := Option.map_eq_some_iff.mp step
      exact subset_refl _

theorem Sane.step (sane : Sane statics before) (step : pagingStep statics before call = some after)
    (faithful : Faithful statics before call after) : Sane statics after :=
  ⟨pagingStep_live step sane.kernel, faithful.consistent⟩

/-- Runs in which the property holds after every step. -/
abbrev FaithfulRun (statics : Statics) : Directories → List PagingCall → Directories → Prop :=
  Observed (pagingStep statics) (Faithful statics)

/-- Runs that map pages only where a page table exists. -/
abbrev PopulatedRun (statics : Statics) : Directories → List PagingCall → Directories → Prop :=
  Restricted (pagingStep statics) fun state call => call.Populated state

theorem Sane.run_iff (sane : Sane statics before)
    (run : Restricted (pagingStep statics) (fun state call => call.Valid state) before calls after) :
    FaithfulRun statics before calls after ↔ PopulatedRun statics before calls after :=
  run.observed_iff (Sane statics)
    (fun _ _ _ sane valid step => sane.faithful_iff valid step)
    (fun _ _ _ sane valid step populated => sane.step step ((sane.faithful_iff valid step).mpr populated)) sane

theorem mapIdentity_directories :
    (mapIdentity paging table index count).directories = paging.directories := by
  induction count generalizing paging index with
  | zero => rfl
  | succ count ih =>
      rw [mapIdentity, ih]
      rfl

theorem clearedDirectory_consistent : Consistent clearedDirectory :=
  ⟨fun _ _ => Iff.rfl, fun _ _ filled => absurd rfl filled, fun _ _ filled => absurd rfl filled⟩

/-- The state after `paging_init`, with the kernel directory alone. -/
def initialDirectories (statics : Statics) (paging : Paging) : Directories where
  paging := pagingInit statics paging
  live := {statics.kernelPageDirectory}

theorem initialDirectories_kernel :
    (initialDirectories statics paging).paging.directories statics.kernelPageDirectory =
      { entries := Function.update clearedDirectory.entries 0 (tableEntry statics.firstPageTable)
        tables := Function.update clearedDirectory.tables 0 statics.firstPageTable } := by
  simp only [initialDirectories, pagingInit, Paging.setDirectory, Function.update_self,
    mapIdentity_directories, tableEntry]

theorem initialDirectories_sane : Sane statics (initialDirectories statics paging) := by
  refine ⟨Finset.mem_singleton_self _, fun dir member => ?_⟩
  rw [Finset.mem_singleton.mp member, initialDirectories_kernel]
  exact clearedDirectory_consistent.enter statics.tableAligned statics.tableNonNull

/-- The directories stay consistent throughout a run exactly when the run maps pages only
where a page table exists. -/
theorem run_faithful_iff
    (run : Restricted (pagingStep statics) (fun state call => call.Valid state)
      (initialDirectories statics paging) calls after) :
    (∀ dir ∈ (initialDirectories statics paging).live,
        Consistent ((initialDirectories statics paging).paging.directories dir)) ∧
      (FaithfulRun statics (initialDirectories statics paging) calls after ↔
        PopulatedRun statics (initialDirectories statics paging) calls after) :=
  ⟨initialDirectories_sane.consistent, initialDirectories_sane.run_iff run⟩

/-- The objects of a kernel loaded at 1 MiB. -/
def lowStatics : Statics where
  kernelPageDirectory := 0x110000
  firstPageTable := 0x112000
  directoryAligned := by decide
  directoryNonNull := by decide
  tableAligned := by decide
  tableNonNull := by decide

def blankPaging : Paging where
  directories := fun _ => clearedDirectory
  pageTables := fun _ _ => 0
  initialized := false
  cr3 := 0

/-- A directory is created and a page of the first 4 MiB mapped in it. -/
theorem run_faithful_iff_identity : ∃ after,
    Restricted (pagingStep lowStatics) (fun state call => call.Valid state)
        (initialDirectories lowStatics blankPaging)
        [.createPageDirectory 0x200014, .mapPageInDirectory 0 0x200014 0x5000 0x5000 7] after ∧
      (∀ dir ∈ (initialDirectories lowStatics blankPaging).live,
        Consistent ((initialDirectories lowStatics blankPaging).paging.directories dir)) ∧
      (FaithfulRun lowStatics (initialDirectories lowStatics blankPaging)
          [.createPageDirectory 0x200014, .mapPageInDirectory 0 0x200014 0x5000 0x5000 7] after ↔
        PopulatedRun lowStatics (initialDirectories lowStatics blankPaging)
          [.createPageDirectory 0x200014, .mapPageInDirectory 0 0x200014 0x5000 0x5000 7] after) := by
  have kernel := @initialDirectories_kernel lowStatics blankPaging
  have fresh : 0x200014 ∉ (initialDirectories lowStatics blankPaging).live := by decide
  have consequence := @run_faithful_iff lowStatics blankPaging
  generalize initialDirectories lowStatics blankPaging = initial at *
  have table : ((createPageDirectory lowStatics initial.paging 0x200014).2.directories 0x200014).tables
      (0x5000 / (pageSize * pageTableSize)) ≠ 0 := by
    rw [createPageDirectory_directory (by decide), created_tables (by decide), kernel]
    decide
  generalize created : (createPageDirectory lowStatics initial.paging 0x200014).2 = paging at table
  have mapped : mapPageInDirectory paging 0 0x200014 0x5000 0x5000 7 = some _ :=
    mapPageInDirectory_present (by decide) table
  have run : Restricted (pagingStep lowStatics) (fun state call => call.Valid state) initial
      [.createPageDirectory 0x200014, .mapPageInDirectory 0 0x200014 0x5000 0x5000 7] _ :=
    .cons ⟨Or.inr ⟨⟨by decide, by decide⟩, fresh⟩, pagingStep_create (by decide)⟩
      (.single ⟨⟨Or.inl rfl, Or.inr (Finset.mem_insert_self _ _), by decide, by decide, by decide⟩,
        pagingStep_map (created ▸ mapped)⟩)
  exact ⟨_, run, consequence run⟩

/-- The table of an address at 4 MiB is entered without its offset in the page. -/
theorem map_page_truncates : ∃ after,
    Restricted (pagingStep lowStatics) (fun state call => call.Valid state)
        (initialDirectories lowStatics blankPaging)
        [.mapPageInDirectory 0x200014 0x110000 0x400000 0x400000 3] after ∧
      0x110000 ∈ after.live ∧ (after.paging.directories 0x110000).tables 1 = 0x200014 ∧
      maskAddress ((after.paging.directories 0x110000).entries 1) = 0x200000 ∧
      ¬ Consistent (after.paging.directories 0x110000) := by
  have kernel := @initialDirectories_kernel lowStatics blankPaging
  have live : 0x110000 ∈ (initialDirectories lowStatics blankPaging).live := Finset.mem_singleton_self _
  generalize initialDirectories lowStatics blankPaging = initial at *
  have content : initial.paging.directories 0x110000 = _ := kernel
  have table : (initial.paging.directories 0x110000).tables (0x400000 / (pageSize * pageTableSize)) = 0 := by
    rw [content]
    rfl
  have entry : (initial.paging.directories 0x110000).entries (0x400000 / (pageSize * pageTableSize)) = 0 := by
    rw [content]
    rfl
  have mapped : mapPageInDirectory initial.paging 0x200014 0x110000 0x400000 0x400000 3 = some _ :=
    mapPageInDirectory_absent (by decide) table entry (by decide)
  cases mapPageInDirectory_mapping mapped with
  | present _ present => exact absurd table present
  | entered _ _ _ entries tables =>
      refine ⟨_, .single ⟨⟨Or.inr ⟨by decide, by decide⟩, Or.inr live, by decide, by decide, by decide⟩,
        pagingStep_map mapped⟩, live, tables, ?_, ?_⟩
      · exact (congrArg maskAddress entries).trans (by decide)
      · exact not_consistent_of_heapPointer (by decide) ⟨by decide, by decide⟩ entries tables

end AutismOS.Memory
