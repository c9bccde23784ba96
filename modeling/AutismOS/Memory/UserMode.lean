import AutismOS.Library.ByteMemory
import AutismOS.Library.Run
import AutismOS.Library.Word
import AutismOS.Memory.Consistency

namespace AutismOS.Memory

open AutismOS.Library

/-! # User memory

The user space allocator of `kernel/syscall/usermode.c`.  It never gives anything
back: each call moves `userHeapCurrent` up and maps what it passed.
-/

def userSpaceStart : Nat := 0x00200000

def userSpaceEnd : Nat := 0x003FFFFF

structure UserMode where
  userHeapCurrent : Nat
  paging : Paging
  memory : ByteMemory

def usermodeInit (user : UserMode) : UserMode := { user with userHeapCurrent := userSpaceStart }

/-- `(size + 0xFFF) & ~0xFFF` -/
def alignedSize (size : Nat) : Nat := maskAddress (add32 size 0xFFF)

/-- The mapping loop over `count` pages from `addr` on; `block` is what `kmalloc` answers. -/
def mapUserPages (paging : Paging) (block dir addr : Nat) : Nat → Option Paging
  | 0 => some paging
  | count + 1 =>
      (mapPageInDirectory paging block dir addr addr (pagePresent ||| pageWrite ||| pageUser)).bind fun paging =>
        mapUserPages paging block dir (add32 addr 0x1000) count

/-- The number of rounds of `for (addr = start; addr < end; addr += 0x1000)`. -/
def rounds (startAddr endAddr : Nat) : Nat := (endAddr - startAddr + 0xFFF) / 0x1000

/-- Returns the region with the new state, or `none` after a panic. -/
def allocateUserMemory (statics : Statics) (block : Nat) (user : UserMode) (size : Nat) :
    Option (Nat × UserMode) :=
  if user.userHeapCurrent = 0 then none  -- User mode not initialized
  else
    let result := user.userHeapCurrent
    let userHeapCurrent := add32 result (alignedSize size)
    if userHeapCurrent > userSpaceEnd then none  -- User space exhausted
    else
      (mapUserPages user.paging block (getKernelPageDirectory statics) result
        (rounds result userHeapCurrent)).map fun paging =>
          (result, { userHeapCurrent, paging, memory := user.memory.fill result 0 (alignedSize size) })

/-- User code may use the page of an address. -/
def UserAccessible (paging : Paging) (dir virt : Nat) : Prop :=
  let entry := (paging.directories dir).entries (virt / 2 ^ 22)
  let page := paging.pageTables (maskAddress entry) (virt / 2 ^ 12 % 1024)
  entry &&& pagePresent ≠ 0 ∧ entry &&& pageUser ≠ 0 ∧ page &&& pagePresent ≠ 0 ∧ page &&& pageUser ≠ 0

variable {statics : Statics} {paging mapped : Paging} {user before after : UserMode}
variable {block size addr count dir table index result virt : Nat}

/-- The loop fills in pages of the first table, and only those of its range. -/
theorem mapUserPages_low (paging : Paging) (block addr count : Nat) (nonNull : dir ≠ 0)
    (first : (paging.directories dir).tables 0 = table) (present : table ≠ 0)
    (low : addr + count * 0x1000 ≤ 0x400000) (aligned : addr % 0x1000 = 0) :
    ∃ mapped, mapUserPages paging block dir addr count = some mapped ∧
      mapped.directories = paging.directories ∧
      ∀ index, index < addr / 0x1000 ∨ addr / 0x1000 + count ≤ index →
        mapped.pageTables table index = paging.pageTables table index := by
  induction count generalizing paging addr with
  | zero => exact ⟨paging, rfl, rfl, fun _ _ => rfl⟩
  | succ count ih =>
      have slot : addr / (pageSize * pageTableSize) = 0 := by
        unfold pageSize pageTableSize
        omega
      have page : addr / pageSize % pageTableSize = addr / 0x1000 := by
        unfold pageSize pageTableSize
        omega
      have done : mapPageInDirectory paging block dir addr addr (pagePresent ||| pageWrite ||| pageUser) = some _ :=
        mapPageInDirectory_present nonNull (by rwa [slot, first])
      rw [slot, first, page] at done
      rw [mapUserPages, done, Option.bind_some, add32_of_lt (by omega)]
      obtain ⟨mapped, rest, directories, kept⟩ :=
        ih (paging.setEntry table (addr / 0x1000) (addr ||| (pagePresent ||| pageWrite ||| pageUser)))
          (addr + 0x1000) first (by omega) (by omega)
      refine ⟨mapped, rest, directories, fun index outside => ?_⟩
      rw [kept index (by omega)]
      have other : index ≠ addr / 0x1000 := by omega
      simp [Paging.setEntry, other]

/-- The end of the region as a mathematical integer. -/
def reach (user : UserMode) (size : Nat) : Nat := user.userHeapCurrent + (size + 0xFFF) / 0x1000 * 0x1000

theorem alignedSize_of_fits (fits : size + 0xFFF < 2 ^ 32) :
    alignedSize size = (size + 0xFFF) / 0x1000 * 0x1000 := by
  rw [alignedSize, add32_of_lt fits, maskAddress]
  omega

theorem alignedSize_of_wraps (small : size < 2 ^ 32) (wraps : 2 ^ 32 ≤ size + 0xFFF) : alignedSize size = 0 := by
  unfold alignedSize add32 maskAddress
  omega

/-- A region that was returned: what was asked for, and what the call passed over. -/
structure UserRegion where
  start : Nat
  size : Nat
  requested : Nat

/-- The allocator with the regions that it returned, the last one first. -/
structure UserSpace where
  user : UserMode
  given : List UserRegion

structure UserCall where
  block : Nat
  size : Nat

/-- A step is a call that returns. -/
def userStep (statics : Statics) (space : UserSpace) (call : UserCall) : Option UserSpace :=
  (allocateUserMemory statics call.block space.user call.size).map fun (result, user) =>
    { user, given := ⟨result, alignedSize call.size, call.size⟩ :: space.given }

/-- What the regions promise. -/
structure Separate (statics : Statics) (space : UserSpace) : Prop where
  aligned : ∀ region ∈ space.given, region.start % 0x1000 = 0
  inside : ∀ region ∈ space.given,
    userSpaceStart ≤ region.start ∧ region.start + region.size ≤ userSpaceEnd + 1
  enough : ∀ region ∈ space.given, region.requested ≤ region.size
  disjoint : space.given.Pairwise fun later earlier => earlier.start + earlier.size ≤ later.start ∨
    later.start + later.size ≤ earlier.start
  closed : ∀ virt < userSpaceStart, ¬ UserAccessible space.user.paging statics.kernelPageDirectory virt

/-- The pointer has passed every region, and the first table serves the whole user space. -/
structure Bumped (statics : Statics) (space : UserSpace) : Prop where
  separate : Separate statics space
  lower : userSpaceStart ≤ space.user.userHeapCurrent
  upper : space.user.userHeapCurrent ≤ userSpaceEnd
  aligned : space.user.userHeapCurrent % 0x1000 = 0
  passed : ∀ region ∈ space.given, region.start + region.size ≤ space.user.userHeapCurrent
  entry : (space.user.paging.directories statics.kernelPageDirectory).entries 0 = tableEntry statics.firstPageTable
  table : (space.user.paging.directories statics.kernelPageDirectory).tables 0 = statics.firstPageTable

variable {space space' : UserSpace} {call : UserCall} {calls : List UserCall}

/-- A call whose sums fit returns the region behind the pointer, if it is inside user space. -/
theorem Bumped.allocate (bumped : Bumped statics space) (block : Nat) (fits : reach space.user size ≤ userSpaceEnd) :
    ∃ mapped, allocateUserMemory statics block space.user size =
        some (space.user.userHeapCurrent,
          { userHeapCurrent := reach space.user size, paging := mapped,
            memory := space.user.memory.fill space.user.userHeapCurrent 0 (alignedSize size) }) ∧
      mapped.directories = space.user.paging.directories ∧
      ∀ index < 512, mapped.pageTables statics.firstPageTable index =
        space.user.paging.pageTables statics.firstPageTable index := by
  have lower := bumped.lower
  have aligned := bumped.aligned
  have rounded : alignedSize size = (size + 0xFFF) / 0x1000 * 0x1000 := alignedSize_of_fits (by
    unfold reach userSpaceEnd at fits
    unfold userSpaceStart at lower
    omega)
  have sum : add32 space.user.userHeapCurrent (alignedSize size) = reach space.user size := by
    rw [rounded, add32_of_lt, reach]
    unfold reach userSpaceEnd at fits
    omega
  have nonNull : space.user.userHeapCurrent ≠ 0 := by
    unfold userSpaceStart at lower
    omega
  have count : rounds space.user.userHeapCurrent (reach space.user size) = (size + 0xFFF) / 0x1000 := by
    unfold rounds reach
    omega
  obtain ⟨mapped, done, directories, kept⟩ :=
    mapUserPages_low space.user.paging block space.user.userHeapCurrent ((size + 0xFFF) / 0x1000)
      statics.directoryNonNull bumped.table statics.tableNonNull (by unfold reach userSpaceEnd at fits; omega) aligned
  refine ⟨mapped, ?_, directories, fun index low => kept index (Or.inl ?_)⟩
  · simp only [allocateUserMemory, if_neg nonNull, sum, if_neg (Nat.not_lt.mpr fits), getKernelPageDirectory,
      count, done, Option.map_some]
  · unfold userSpaceStart at lower
    omega

/-- A call whose sums fit is a step. -/
theorem Bumped.returns (bumped : Bumped statics space) (call : UserCall) (fits : reach space.user call.size ≤ userSpaceEnd) :
    ∃ space', userStep statics space call = some space' ∧
      space'.user.userHeapCurrent = reach space.user call.size := by
  obtain ⟨mapped, returned, _⟩ := bumped.allocate call.block fits
  exact ⟨_, congrArg (Option.map _) returned, rfl⟩

/-- A call that rounds its size to zero returns the pointer and maps nothing. -/
theorem allocateUserMemory_empty (nonNull : user.userHeapCurrent ≠ 0) (inside : user.userHeapCurrent ≤ userSpaceEnd)
    (empty : alignedSize size = 0) :
    allocateUserMemory statics block user size = some (user.userHeapCurrent, user) := by
  have sum : add32 user.userHeapCurrent 0 = user.userHeapCurrent :=
    add32_of_lt (by unfold userSpaceEnd at inside; omega)
  have none : rounds user.userHeapCurrent user.userHeapCurrent = 0 := by
    unfold rounds
    omega
  simp only [allocateUserMemory, if_neg nonNull, empty, sum, if_neg (Nat.not_lt.mpr inside), none, mapUserPages,
    Option.map_some, ByteMemory.fill]

theorem allocateUserMemory_result (returned : allocateUserMemory statics block user size = some (result, after)) :
    result = user.userHeapCurrent ∧ add32 user.userHeapCurrent (alignedSize size) ≤ userSpaceEnd := by
  unfold allocateUserMemory at returned
  by_cases null : user.userHeapCurrent = 0
  · rw [if_pos null] at returned
    cases returned
  · rw [if_neg null] at returned
    by_cases exhausted : add32 user.userHeapCurrent (alignedSize size) > userSpaceEnd
    · rw [if_pos exhausted] at returned
      cases returned
    · rw [if_neg exhausted] at returned
      obtain ⟨mapped, _, same⟩ := Option.map_eq_some_iff.mp returned
      exact ⟨(congrArg Prod.fst same).symm, Nat.not_lt.mp exhausted⟩

theorem userStep_given (step : userStep statics space call = some space') :
    space'.given = ⟨space.user.userHeapCurrent, alignedSize call.size, call.size⟩ :: space.given ∧
      add32 space.user.userHeapCurrent (alignedSize call.size) ≤ userSpaceEnd := by
  obtain ⟨⟨result, user⟩, returned, rfl⟩ := Option.map_eq_some_iff.mp step
  obtain ⟨rfl, bounded⟩ := allocateUserMemory_result returned
  exact ⟨rfl, bounded⟩

/-- A call whose sums wrap and that returns anyway gives a region that is too small or
reaches out of user space. -/
theorem not_separate_of_wraps (small : call.size < 2 ^ 32)
    (step : userStep statics space call = some space') (wraps : 2 ^ 32 ≤ reach space.user call.size) :
    ¬ Separate statics space' := by
  intro separate
  obtain ⟨given, bounded⟩ := userStep_given step
  have member : (⟨space.user.userHeapCurrent, alignedSize call.size, call.size⟩ : UserRegion) ∈ space'.given := by
    rw [given]
    exact List.mem_cons_self
  have enough := separate.enough _ member
  have inside := (separate.inside _ member).2
  by_cases fits : call.size + 0xFFF < 2 ^ 32
  · rw [alignedSize_of_fits fits] at inside
    unfold reach at wraps
    unfold userSpaceEnd at inside
    simp only at inside
    omega
  · rw [alignedSize_of_wraps small (by omega)] at enough
    simp only at enough
    omega

theorem Bumped.closed (bumped : Bumped statics space) {paging : Paging}
    (directories : paging.directories = space.user.paging.directories)
    (kept : ∀ index < 512, paging.pageTables statics.firstPageTable index =
      space.user.paging.pageTables statics.firstPageTable index) (low : virt < userSpaceStart) :
    ¬ UserAccessible paging statics.kernelPageDirectory virt := by
  intro accessible
  refine bumped.separate.closed virt low ?_
  have slot : virt / 2 ^ 22 = 0 := by
    unfold userSpaceStart at low
    omega
  have page : virt / 2 ^ 12 % 1024 < 512 := by
    unfold userSpaceStart at low
    omega
  have first : maskAddress (tableEntry statics.firstPageTable) = statics.firstPageTable := by
    rw [tableEntry_page, maskAddress, statics.tableAligned, Nat.sub_zero]
  have same := kept _ page
  simp only [UserAccessible, slot, directories, bumped.entry, first] at accessible ⊢
  rwa [same] at accessible

/-- A call whose sums fit keeps everything in order. -/
theorem Bumped.step (bumped : Bumped statics space) (step : userStep statics space call = some space')
    (fits : reach space.user call.size < 2 ^ 32) : Bumped statics space' := by
  have lower := bumped.lower
  have aligned := bumped.aligned
  have rounded : alignedSize call.size = (call.size + 0xFFF) / 0x1000 * 0x1000 := alignedSize_of_fits (by
    unfold reach at fits
    unfold userSpaceStart at lower
    omega)
  have bounded := (userStep_given step).2
  have sum : space.user.userHeapCurrent + alignedSize call.size = reach space.user call.size := by
    rw [rounded, reach]
  rw [add32_of_lt (sum ▸ fits), sum] at bounded
  obtain ⟨mapped, returned, directories, kept⟩ := bumped.allocate call.block bounded
  simp only [userStep, returned, Option.map_some, Option.some.injEq] at step
  subst step
  have room : call.size ≤ alignedSize call.size := by omega
  refine ⟨⟨?_, ?_, ?_, ?_, ?_⟩, ?_, bounded, ?_, ?_, ?_, ?_⟩
  · intro region member
    rcases List.mem_cons.mp member with isNew | old
    · rw [isNew]
      exact aligned
    · exact bumped.separate.aligned region old
  · intro region member
    rcases List.mem_cons.mp member with isNew | old
    · rw [isNew]
      exact ⟨lower, by simp only [sum]; omega⟩
    · exact bumped.separate.inside region old
  · intro region member
    rcases List.mem_cons.mp member with isNew | old
    · rw [isNew]
      exact room
    · exact bumped.separate.enough region old
  · exact List.pairwise_cons.mpr
      ⟨fun region member => Or.inl (bumped.passed region member), bumped.separate.disjoint⟩
  · exact fun virt low => bumped.closed directories kept low
  · exact Nat.le_trans lower (Nat.le_add_right _ _)
  · unfold reach
    simp only
    omega
  · intro region member
    rcases List.mem_cons.mp member with isNew | old
    · rw [isNew]
      exact Nat.le_of_eq sum
    · exact Nat.le_trans (bumped.passed region old) (Nat.le_add_right _ _)
  · simp only [directories, bumped.entry]
  · simp only [directories, bumped.table]

/-- Runs in which the regions are right after every call. -/
abbrev SeparateRun (statics : Statics) : UserSpace → List UserCall → UserSpace → Prop :=
  Observed (userStep statics) fun _ _ after => Separate statics after

/-- Runs in which no end of a region is beyond 32 bits. -/
abbrev BoundedRun (statics : Statics) : UserSpace → List UserCall → UserSpace → Prop :=
  Restricted (userStep statics) fun space call => reach space.user call.size < 2 ^ 32

theorem Bumped.separateRun (bumped : Bumped statics space)
    (run : Restricted (userStep statics) (fun _ call => call.size < 2 ^ 32) space calls space') :
    SeparateRun statics space calls space' ↔ BoundedRun statics space calls space' := by
  refine run.observed_iff (Bumped statics) (fun before call after bumped small step => ?_)
    (fun before call after bumped _ step fits => bumped.step step fits) bumped
  constructor
  · exact fun separate => Nat.lt_of_not_le fun wraps => not_separate_of_wraps small step wraps separate
  · exact fun fits => (bumped.step step fits).separate

theorem mapIdentity_pageTables :
    (mapIdentity paging table addr count).pageTables table index =
      if addr ≤ index ∧ index < addr + count then index * pageSize ||| pagePresent ||| pageWrite
      else paging.pageTables table index := by
  induction count generalizing paging addr with
  | zero =>
      have none : ¬ (addr ≤ index ∧ index < addr + 0) := by omega
      rw [mapIdentity, if_neg none]
  | succ count ih =>
      rw [mapIdentity, ih]
      by_cases same : index = addr
      · subst same
        have outside : ¬ (index + 1 ≤ index ∧ index < index + 1 + count) := by omega
        rw [if_neg outside, if_pos ⟨Nat.le_refl _, by omega⟩]
        simp [Paging.setEntry]
      · have range : addr + 1 ≤ index ∧ index < addr + 1 + count ↔ addr ≤ index ∧ index < addr + (count + 1) := by
          omega
        simp only [range, Paging.setEntry, Function.update_self, Function.update_of_ne same]

/-- The state after `paging_init` and `usermode_init`. -/
def initialSpace (statics : Statics) (paging : Paging) (memory : ByteMemory) : UserSpace where
  user := usermodeInit { userHeapCurrent := 0, paging := pagingInit statics paging, memory }
  given := []

/-- The first table is made for the kernel alone. -/
theorem pagingInit_page (low : index < pageTableSize) :
    (pagingInit statics paging).pageTables statics.firstPageTable index =
      index * pageSize ||| pagePresent ||| pageWrite := by
  have range : 0 ≤ index ∧ index < 0 + pageTableSize := by omega
  simp only [pagingInit, Paging.setDirectory, mapIdentity_pageTables, if_pos range]

theorem kernelPage_not_user : (index * pageSize ||| pagePresent ||| pageWrite) &&& pageUser = 0 := by
  have flags : (index * pageSize ||| pagePresent ||| pageWrite) &&& pageUser = (index * 2 ^ 12 ||| 3) &&& 2 ^ 2 := by
    rw [Nat.or_assoc]
    rfl
  rw [flags]
  refine Nat.eq_of_testBit_eq fun bit => ?_
  rw [Nat.testBit_and, Nat.testBit_or, Nat.testBit_mul_two_pow, Nat.testBit_two_pow]
  by_cases same : 2 = bit
  · subst same
    have low : Nat.testBit 3 2 = false := by decide
    simp [low]
  · simp [same]

theorem initialSpace_bumped (statics : Statics) (paging : Paging) (memory : ByteMemory) :
    Bumped statics (initialSpace statics paging memory) := by
  have kernel := @initialDirectories_kernel statics paging
  have entry : ((initialSpace statics paging memory).user.paging.directories
      statics.kernelPageDirectory).entries 0 = tableEntry statics.firstPageTable :=
    (congrArg (fun content => content.entries 0) kernel).trans
      (Function.update_self 0 (tableEntry statics.firstPageTable) clearedDirectory.entries)
  have table : ((initialSpace statics paging memory).user.paging.directories
      statics.kernelPageDirectory).tables 0 = statics.firstPageTable :=
    (congrArg (fun content => content.tables 0) kernel).trans
      (Function.update_self 0 statics.firstPageTable clearedDirectory.tables)
  have bounds : userSpaceStart ≤ userSpaceEnd := by decide
  have aligned : userSpaceStart % 0x1000 = 0 := by decide
  refine ⟨⟨nofun, nofun, nofun, List.Pairwise.nil, fun virt low accessible => ?_⟩, Nat.le_refl _, bounds, aligned,
    nofun, entry, table⟩
  have slot : virt / 2 ^ 22 = 0 := by
    unfold userSpaceStart at low
    omega
  have first : maskAddress (tableEntry statics.firstPageTable) = statics.firstPageTable := by
    rw [tableEntry_page, maskAddress, statics.tableAligned, Nat.sub_zero]
  have page : (initialSpace statics paging memory).user.paging.pageTables statics.firstPageTable
      (virt / 2 ^ 12 % 1024) &&& pageUser = 0 := by
    have inside : virt / 2 ^ 12 % 1024 < pageTableSize := Nat.mod_lt _ (by decide)
    have same : (initialSpace statics paging memory).user.paging.pageTables statics.firstPageTable
        (virt / 2 ^ 12 % 1024) = _ := pagingInit_page inside
    rw [same]
    exact kernelPage_not_user
  obtain ⟨_, _, _, isUser⟩ := accessible
  rw [slot, entry, first] at isUser
  exact isUser page

/-- The regions are right throughout a run exactly when no end of a region is beyond 32 bits. -/
theorem run_separate_iff {memory : ByteMemory}
    (run : Restricted (userStep statics) (fun _ call => call.size < 2 ^ 32)
      (initialSpace statics paging memory) calls space') :
    SeparateRun statics (initialSpace statics paging memory) calls space' ↔
      BoundedRun statics (initialSpace statics paging memory) calls space' :=
  (initialSpace_bumped statics paging memory).separateRun run

/-- Two regions, of one page and of three pages. -/
theorem run_separate_iff_pages : ∃ space',
    Restricted (userStep lowStatics) (fun _ call => call.size < 2 ^ 32)
        (initialSpace lowStatics blankPaging fun _ => 0) [⟨0, 1⟩, ⟨0, 0x2001⟩] space' ∧
      (SeparateRun lowStatics (initialSpace lowStatics blankPaging fun _ => 0) [⟨0, 1⟩, ⟨0, 0x2001⟩] space' ↔
        BoundedRun lowStatics (initialSpace lowStatics blankPaging fun _ => 0) [⟨0, 1⟩, ⟨0, 0x2001⟩] space') := by
  have bumped := initialSpace_bumped lowStatics blankPaging fun _ => 0
  have low : reach (initialSpace lowStatics blankPaging fun _ => 0).user 1 = 0x201000 := rfl
  obtain ⟨middle, first, moved⟩ := bumped.returns ⟨0, 1⟩ (low ▸ by decide)
  have next := bumped.step first (low ▸ by decide)
  have high : reach middle.user 0x2001 = 0x204000 := by
    rw [reach, moved.trans low]
  obtain ⟨last, second, _⟩ := next.returns ⟨0, 0x2001⟩ (high ▸ by decide)
  have small : 1 < 2 ^ 32 ∧ 0x2001 < 2 ^ 32 := by decide
  have run : Restricted (userStep lowStatics) (fun _ call => call.size < 2 ^ 32)
      (initialSpace lowStatics blankPaging fun _ => 0) [⟨0, 1⟩, ⟨0, 0x2001⟩] last :=
    .cons ⟨small.1, first⟩ (.single ⟨small.2, second⟩)
  exact ⟨last, run, run_separate_iff run⟩

/-- A request of almost the whole address space returns an empty region. -/
theorem allocate_wraps : ∃ space',
    Restricted (userStep lowStatics) (fun _ call => call.size < 2 ^ 32)
        (initialSpace lowStatics blankPaging fun _ => 0) [⟨0, 0xFFFFFFFF⟩] space' ∧
      ⟨0x200000, 0, 0xFFFFFFFF⟩ ∈ space'.given ∧ ¬ Separate lowStatics space' := by
  have start : (initialSpace lowStatics blankPaging fun _ => 0).user.userHeapCurrent = 0x200000 := rfl
  generalize initialSpace lowStatics blankPaging (fun _ => 0) = space at *
  have empty : alignedSize 0xFFFFFFFF = 0 := alignedSize_of_wraps (by decide) (by decide)
  have small : 0xFFFFFFFF < 2 ^ 32 := by decide
  have nonNull : space.user.userHeapCurrent ≠ 0 := start ▸ by decide
  have returned : allocateUserMemory lowStatics 0 space.user 0xFFFFFFFF = _ :=
    allocateUserMemory_empty nonNull (start ▸ by decide) empty
  refine ⟨_, .single ⟨small, congrArg (Option.map _) returned⟩, ?_, fun separate => ?_⟩
  · simp only [start, empty]
    exact List.mem_cons_self
  · have enough := separate.enough _ List.mem_cons_self
    simp only [empty] at enough
    exact absurd enough (by decide)

end AutismOS.Memory
