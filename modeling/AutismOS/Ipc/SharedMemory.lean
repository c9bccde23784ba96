import AutismOS.Library.ByteMemory
import AutismOS.Library.Run
import AutismOS.Library.Word
import AutismOS.Memory.Paging
import Mathlib.Data.List.Nodup

namespace AutismOS.Ipc

open AutismOS.Library AutismOS.Memory

/-! The shared memory regions of `kernel/ipc/shm.c`.

A slot of the table is free when its id is 0.
-/

def maxShmRegions : Nat := 32

structure ShmRegion where
  id : Nat
  size : Nat
  kernelVaddr : Nat
  physAddr : Nat
  ownerPid : Nat
  refCount : Nat

structure Shm where
  regions : Nat → ShmRegion
  nextShmId : Nat

def shmInit : Shm where
  regions := fun _ => ⟨0, 0, 0, 0, 0, 0⟩
  nextShmId := 1

variable (shm : Shm)

def shmAllocRegion : Option Nat := (List.range maxShmRegions).find? fun index => (shm.regions index).id = 0

def shmFindById (shmId : Nat) : Option Nat :=
  (List.range maxShmRegions).find? fun index => (shm.regions index).id = shmId

/-- The new id with the new table, or `none` where the source returns 0; `block` is what
`kmalloc` answers and `owner` the pid of the caller. -/
def shmCreate (memory : ByteMemory) (block owner size : Nat) : Option (Nat × Shm × ByteMemory) :=
  if size = 0 ∨ size > 0x400000 then none
  else
    (shmAllocRegion shm).bind fun index =>
      let alignedSize := maskAddress (add32 size 4095)
      if block = 0 then none
      else
        let region : ShmRegion :=
          { id := shm.nextShmId, size := alignedSize, kernelVaddr := block, physAddr := block
            ownerPid := owner, refCount := 0 }
        some (region.id,
          { regions := Function.update shm.regions index region, nextShmId := add32 shm.nextShmId 1 },
          memory.fill block 0 alignedSize)

/-- The address for `*vaddr_out` with the new table, or `none` for -1. -/
def shmMap (shmId vaddrOut : Nat) : Option (Nat × Shm) :=
  if vaddrOut = 0 then none
  else
    (shmFindById shm shmId).map fun index =>
      let region := shm.regions index
      let mapped := { region with refCount := add32 region.refCount 1 }
      (region.kernelVaddr, { shm with regions := Function.update shm.regions index mapped })

/-- The new table, or `none` for -1. -/
def shmUnmap (shmId : Nat) : Option Shm :=
  (shmFindById shm shmId).map fun index =>
    let region := shm.regions index
    let unmapped := { region with refCount := region.refCount - 1 }
    if region.refCount > 0 then { shm with regions := Function.update shm.regions index unmapped }
    else shm

end AutismOS.Ipc

namespace AutismOS.Ipc

open AutismOS.Library

/-- The region table with what `shm_create` has returned so far. -/
structure ShmSystem where
  shm : Shm
  memory : ByteMemory
  /-- The id of each region with the address that `kmalloc` gave for it, oldest first. -/
  issued : List (Nat × Nat)

/-- A call, where `block` is what `kmalloc` answers and `owner` the pid of the caller. -/
inductive ShmCall where
  | create (block owner size : Nat)
  | map (shmId vaddrOut : Nat)
  | unmap (shmId : Nat)

namespace ShmSystem

/-- After `shm_init`. -/
def initialized (memory : ByteMemory) : ShmSystem where
  shm := shmInit
  memory := memory
  issued := []

def perform (system : ShmSystem) : ShmCall → ShmSystem
  | .create block owner size =>
      match shmCreate system.shm system.memory block owner size with
      | some (id, shm, memory) => { shm, memory, issued := system.issued ++ [(id, block)] }
      | none => system
  | .map shmId vaddrOut =>
      match shmMap system.shm shmId vaddrOut with
      | some (_, shm) => { system with shm }
      | none => system
  | .unmap shmId =>
      match shmUnmap system.shm shmId with
      | some shm => { system with shm }
      | none => system

def step (system : ShmSystem) (call : ShmCall) : Option ShmSystem := some (system.perform call)

/-- The id was returned by an earlier `shm_create`. -/
def Issued (system : ShmSystem) (shmId : Nat) : Prop := ∃ vaddr, (shmId, vaddr) ∈ system.issued

def Full (system : ShmSystem) : Prop := ∀ index < maxShmRegions, (system.shm.regions index).id ≠ 0

/-- What one call answers when ids are genuine, and that it changes no region when it fails. -/
def Answers (before : ShmSystem) (after : ShmSystem) : ShmCall → Prop
  | .create block owner size =>
      (∀ id shm memory, shmCreate before.shm before.memory block owner size = some (id, shm, memory) →
        ¬ before.Issued id ∧ after.Issued id) ∧
      (shmCreate before.shm before.memory block owner size = none → after.shm = before.shm)
  | .map shmId vaddrOut =>
      ((shmMap before.shm shmId vaddrOut).isSome ↔ before.Issued shmId) ∧
      (∀ vaddr shm, shmMap before.shm shmId vaddrOut = some (vaddr, shm) → (shmId, vaddr) ∈ before.issued) ∧
      (shmMap before.shm shmId vaddrOut = none → after.shm = before.shm)
  | .unmap shmId =>
      ((shmUnmap before.shm shmId).isSome ↔ before.Issued shmId) ∧
      (shmUnmap before.shm shmId = none → after.shm = before.shm)

/-- Each id that was returned has a slot, and no two ids have the same one. -/
structure Separate (system : ShmSystem) : Prop where
  distinct : (system.issued.map Prod.fst).Nodup
  placed : ∀ id, system.Issued id → (shmFindById system.shm id).isSome
  apart : ∀ first second, system.Issued first → system.Issued second → first ≠ second →
    shmFindById system.shm first ≠ shmFindById system.shm second

def Genuine (before : ShmSystem) (call : ShmCall) (after : ShmSystem) : Prop :=
  before.Answers after call ∧ after.Separate

/-- No request for id 0 finds a free slot, and no region is mapped without a place for its address. -/
def Permitted (system : ShmSystem) : ShmCall → Prop
  | .create _ _ _ => True
  | .map shmId vaddrOut => if vaddrOut = 0 then ¬ system.Issued shmId else shmId ≠ 0 ∨ system.Full
  | .unmap shmId => shmId ≠ 0 ∨ system.Full

/-- Region `index` has id `index + 1`, and the slots behind the last region are free. -/
structure Numbered (system : ShmSystem) : Prop where
  few : system.issued.length ≤ maxShmRegions
  next : system.shm.nextShmId = system.issued.length + 1
  filled : ∀ index < system.issued.length, (system.shm.regions index).id = index + 1 ∧
    system.issued[index]? = some (index + 1, (system.shm.regions index).kernelVaddr)
  free : ∀ index, system.issued.length ≤ index → index < maxShmRegions → (system.shm.regions index).id = 0

variable {system before after : ShmSystem} {call : ShmCall} {memory : ByteMemory}
variable {shmId index block owner size vaddr : Nat}

theorem initialized_numbered (memory : ByteMemory) : (initialized memory).Numbered where
  few := Nat.zero_le _
  next := rfl
  filled := by
    intro index inside
    exact absurd inside (Nat.not_lt_zero _)
  free := by
    intro index _ _
    rfl

theorem Numbered.issued_iff (numbered : system.Numbered) :
    (shmId, vaddr) ∈ system.issued ↔
      ∃ index < system.issued.length, shmId = index + 1 ∧ vaddr = (system.shm.regions index).kernelVaddr := by
  rw [List.mem_iff_getElem?]
  constructor
  · rintro ⟨index, found⟩
    have inside : index < system.issued.length := List.getElem?_eq_some_iff.mp found |>.1
    have same := Option.some.inj (found.symm.trans (numbered.filled index inside).2)
    injection same with sameId sameVaddr
    exact ⟨index, inside, sameId, sameVaddr⟩
  · rintro ⟨index, inside, rfl, rfl⟩
    exact ⟨index, (numbered.filled index inside).2⟩

theorem Numbered.shmFindById_iff (numbered : system.Numbered) (nonzero : shmId ≠ 0) :
    shmFindById system.shm shmId = some index ↔ index < system.issued.length ∧ shmId = index + 1 := by
  have few := numbered.few
  rw [shmFindById, List.find?_range_eq_some]
  simp only [decide_eq_true_eq, List.mem_range, Bool.not_eq_true', decide_eq_false_iff_not]
  constructor
  · rintro ⟨found, inside, _⟩
    rcases Nat.lt_or_ge index system.issued.length with low | high
    · exact ⟨low, found.symm.trans (numbered.filled index low).1⟩
    · exact absurd (found.symm.trans (numbered.free index high inside)) nonzero
  · rintro ⟨low, rfl⟩
    refine ⟨(numbered.filled index low).1, by omega, fun earlier before => ?_⟩
    rw [(numbered.filled earlier (by omega)).1]
    omega

/-- The first slot with id 0 is the one behind the last region. -/
theorem Numbered.first_free_iff (numbered : system.Numbered) :
    shmFindById system.shm 0 = some index ↔ index = system.issued.length ∧ index < maxShmRegions := by
  rw [shmFindById, List.find?_range_eq_some]
  simp only [decide_eq_true_eq, List.mem_range, Bool.not_eq_true', decide_eq_false_iff_not]
  constructor
  · rintro ⟨found, inside, earlier⟩
    refine ⟨?_, inside⟩
    rcases Nat.lt_trichotomy index system.issued.length with low | same | high
    · have filled := (numbered.filled index low).1
      omega
    · exact same
    · exact absurd (numbered.free system.issued.length (Nat.le_refl _) (by omega)) (earlier _ high)
  · rintro ⟨rfl, inside⟩
    refine ⟨numbered.free _ (Nat.le_refl _) inside, inside, fun earlier low => ?_⟩
    rw [(numbered.filled earlier low).1]
    exact Nat.succ_ne_zero earlier

theorem full_iff : system.Full ↔ shmFindById system.shm 0 = none := by
  rw [shmFindById, List.find?_eq_none]
  simp only [List.mem_range, decide_eq_true_eq]
  exact Iff.rfl

theorem Numbered.issued_ids (numbered : system.Numbered) :
    system.Issued shmId ↔ ∃ index < system.issued.length, shmId = index + 1 := by
  constructor
  · rintro ⟨vaddr, issued⟩
    obtain ⟨index, inside, isId, _⟩ := numbered.issued_iff.mp issued
    exact ⟨index, inside, isId⟩
  · rintro ⟨index, inside, isId⟩
    exact ⟨_, numbered.issued_iff.mpr ⟨index, inside, isId, rfl⟩⟩

theorem Numbered.find_isSome_iff (numbered : system.Numbered) (nonzero : shmId ≠ 0) :
    (shmFindById system.shm shmId).isSome ↔ system.Issued shmId := by
  rw [Option.isSome_iff_exists, numbered.issued_ids]
  exact exists_congr fun index => numbered.shmFindById_iff nonzero

theorem Numbered.separate (numbered : system.Numbered) : system.Separate where
  distinct := by
    have ids : system.issued.map Prod.fst = (List.range system.issued.length).map (· + 1) := by
      refine List.ext_getElem? fun index => ?_
      rcases Nat.lt_or_ge index system.issued.length with inside | outside
      · rw [List.getElem?_map, (numbered.filled index inside).2, List.getElem?_map, List.getElem?_range inside]
        rfl
      · rw [List.getElem?_eq_none (by simpa using outside), List.getElem?_eq_none (by simpa using outside)]
    rw [ids]
    exact List.nodup_range.map fun _ _ same => Nat.succ.inj same
  placed := by
    intro id issued
    obtain ⟨index, inside, isId⟩ := numbered.issued_ids.mp issued
    exact (numbered.find_isSome_iff (by omega)).mpr issued
  apart := by
    intro first second firstIssued secondIssued different same
    obtain ⟨index, inside, isFirst⟩ := numbered.issued_ids.mp firstIssued
    obtain ⟨other, otherInside, isSecond⟩ := numbered.issued_ids.mp secondIssued
    have found := (numbered.shmFindById_iff (by omega)).mpr ⟨inside, isFirst⟩
    have sameSlot := (numbered.shmFindById_iff (by omega)).mp (same.symm.trans found)
    omega

theorem shmCreate_eq_some {shm shm' : Shm} {memory memory' : ByteMemory} {id : Nat}
    (created : shmCreate shm memory block owner size = some (id, shm', memory')) :
    ∃ index region, shmAllocRegion shm = some index ∧ id = shm.nextShmId ∧ region.id = id ∧
      region.kernelVaddr = block ∧
      shm' = { regions := Function.update shm.regions index region, nextShmId := add32 shm.nextShmId 1 } := by
  rw [shmCreate] at created
  split at created
  · cases created
  · obtain ⟨index, found, rest⟩ := Option.bind_eq_some_iff.mp created
    dsimp only at rest
    split at rest
    · cases rest
    · cases rest
      exact ⟨index, _, found, rfl, rfl, rfl, rfl⟩

/-- Only counters of references differ. -/
structure SameRegions (shm shm' : Shm) : Prop where
  nextShmId : shm'.nextShmId = shm.nextShmId
  id : ∀ index, (shm'.regions index).id = (shm.regions index).id
  kernelVaddr : ∀ index, (shm'.regions index).kernelVaddr = (shm.regions index).kernelVaddr

/-- An entry of the table is written that keeps its id and its address. -/
theorem sameRegions_update {shm : Shm} {region : ShmRegion} (sameId : region.id = (shm.regions index).id)
    (sameVaddr : region.kernelVaddr = (shm.regions index).kernelVaddr) :
    SameRegions shm { shm with regions := Function.update shm.regions index region } where
  nextShmId := rfl
  id := by
    intro other
    by_cases same : other = index
    · subst same
      exact (congrArg ShmRegion.id (Function.update_self other region shm.regions)).trans sameId
    · exact congrArg ShmRegion.id (Function.update_of_ne same region shm.regions)
  kernelVaddr := by
    intro other
    by_cases same : other = index
    · subst same
      exact (congrArg ShmRegion.kernelVaddr (Function.update_self other region shm.regions)).trans sameVaddr
    · exact congrArg ShmRegion.kernelVaddr (Function.update_of_ne same region shm.regions)

theorem shmMap_eq_some {shm shm' : Shm} {vaddrOut : Nat} (mapped : shmMap shm shmId vaddrOut = some (vaddr, shm')) :
    vaddrOut ≠ 0 ∧ ∃ index, shmFindById shm shmId = some index ∧ vaddr = (shm.regions index).kernelVaddr ∧
      SameRegions shm shm' := by
  rw [shmMap] at mapped
  split at mapped
  · cases mapped
  · rename_i place
    obtain ⟨index, found, same⟩ := Option.map_eq_some_iff.mp mapped
    cases same
    exact ⟨place, index, found, rfl, sameRegions_update rfl rfl⟩

theorem shmUnmap_eq_some {shm shm' : Shm} (unmapped : shmUnmap shm shmId = some shm') : SameRegions shm shm' := by
  obtain ⟨index, found, same⟩ := Option.map_eq_some_iff.mp unmapped
  dsimp only at same
  split at same
  · cases same
    exact sameRegions_update rfl rfl
  · cases same
    exact ⟨rfl, fun _ => rfl, fun _ => rfl⟩

theorem shmMap_isSome_iff {shm : Shm} {vaddrOut : Nat} :
    (shmMap shm shmId vaddrOut).isSome ↔ vaddrOut ≠ 0 ∧ (shmFindById shm shmId).isSome := by
  rw [shmMap]
  split
  · rename_i null
    exact ⟨fun absent => absurd absent (by decide), fun place => absurd null place.1⟩
  · rename_i place
    rw [Option.isSome_map]
    exact (and_iff_right place).symm

theorem shmUnmap_isSome_iff {shm : Shm} : (shmUnmap shm shmId).isSome ↔ (shmFindById shm shmId).isSome := by
  rw [shmUnmap, Option.isSome_map]

theorem Numbered.retain (numbered : before.Numbered) (issued : after.issued = before.issued)
    (same : SameRegions before.shm after.shm) : after.Numbered where
  few := issued ▸ numbered.few
  next := by
    rw [same.nextShmId, issued]
    exact numbered.next
  filled := by
    intro index inside
    rw [issued] at inside ⊢
    rw [same.id, same.kernelVaddr]
    exact numbered.filled index inside
  free := by
    intro index behind inside
    rw [same.id]
    exact numbered.free index (issued ▸ behind) inside

/-- A new region takes the slot behind the last one. -/
theorem Numbered.extend {region : ShmRegion} (numbered : before.Numbered)
    (room : before.issued.length < maxShmRegions) (isId : region.id = before.shm.nextShmId)
    (issued : after.issued = before.issued ++ [(region.id, region.kernelVaddr)])
    (regions : after.shm.regions = Function.update before.shm.regions before.issued.length region)
    (next : after.shm.nextShmId = add32 before.shm.nextShmId 1) : after.Numbered := by
  have length : after.issued.length = before.issued.length + 1 := by
    rw [issued, List.length_append, List.length_singleton]
  have number : region.id = before.issued.length + 1 := isId.trans numbered.next
  have written : after.shm.regions before.issued.length = region := by
    rw [regions, Function.update_self]
  have others : ∀ index, index ≠ before.issued.length → after.shm.regions index = before.shm.regions index := by
    intro index other
    rw [regions, Function.update_of_ne other]
  constructor
  · omega
  · have small : before.shm.nextShmId + 1 < 2 ^ 32 := by
      rw [numbered.next]
      unfold maxShmRegions at room
      omega
    rw [next, add32_of_lt small, numbered.next, length]
  · intro index inside
    rcases Nat.lt_or_ge index before.issued.length with earlier | last
    · rw [others index (by omega), issued, List.getElem?_append_left earlier]
      exact numbered.filled index earlier
    · have isLast : index = before.issued.length := by omega
      subst isLast
      rw [written, issued, List.getElem?_concat_length, number]
      exact ⟨rfl, rfl⟩
  · intro index behind inside
    rw [others index (by omega)]
    exact numbered.free index (by omega) inside

theorem Numbered.perform (numbered : before.Numbered) (call : ShmCall) : (before.perform call).Numbered := by
  cases call with
  | create block owner size =>
      rw [ShmSystem.perform]
      split
      · rename_i id shm memory created
        obtain ⟨index, region, found, isNext, isId, isBlock, rfl⟩ := shmCreate_eq_some created
        obtain ⟨rfl, room⟩ := numbered.first_free_iff.mp found
        refine numbered.extend room (isId.trans isNext) ?_ rfl rfl
        rw [isId, isBlock]
      · exact numbered
  | map shmId vaddrOut =>
      rw [ShmSystem.perform]
      split
      · rename_i vaddr shm mapped
        obtain ⟨_, _, _, _, same⟩ := shmMap_eq_some mapped
        exact numbered.retain rfl same
      · exact numbered
  | unmap shmId =>
      rw [ShmSystem.perform]
      split
      · rename_i shm unmapped
        exact numbered.retain rfl (shmUnmap_eq_some unmapped)
      · exact numbered

theorem Numbered.answers_create (numbered : before.Numbered) :
    before.Answers (before.perform (.create block owner size)) (.create block owner size) := by
  refine ⟨?_, ?_⟩
  · intro id shm memory created
    obtain ⟨_, _, _, isNext, _⟩ := shmCreate_eq_some created
    rw [numbered.next] at isNext
    refine ⟨?_, block, ?_⟩
    · intro issued
      obtain ⟨index, inside, isId⟩ := numbered.issued_ids.mp issued
      omega
    · rw [ShmSystem.perform, created]
      exact List.mem_append_right _ List.mem_cons_self
  · intro failed
    rw [ShmSystem.perform, failed]

/-- Apart from id 0, the lookup finds what was returned. -/
theorem Numbered.found_iff_issued (numbered : system.Numbered) :
    ((shmFindById system.shm shmId).isSome ↔ system.Issued shmId) ↔ (shmId ≠ 0 ∨ system.Full) := by
  by_cases zero : shmId = 0
  · subst zero
    have unissued : ¬ system.Issued 0 := by
      intro issued
      obtain ⟨index, _, isId⟩ := numbered.issued_ids.mp issued
      exact absurd isId (Nat.succ_ne_zero index).symm
    rw [full_iff, iff_false_right unissued, Bool.not_eq_true, Option.isSome_eq_false_iff, Option.isNone_iff_eq_none]
    exact (or_iff_right (fun nonzero => nonzero rfl)).symm
  · exact iff_of_true (numbered.find_isSome_iff zero) (Or.inl zero)

theorem Numbered.mapped_iff_issued {vaddrOut : Nat} (numbered : system.Numbered) :
    ((shmMap system.shm shmId vaddrOut).isSome ↔ system.Issued shmId) ↔ system.Permitted (.map shmId vaddrOut) := by
  rw [shmMap_isSome_iff, Permitted]
  by_cases null : vaddrOut = 0
  · have refused : ¬ (vaddrOut ≠ 0 ∧ (shmFindById system.shm shmId).isSome = true) := fun mapped => mapped.1 null
    rw [if_pos null, iff_false_left refused]
  · rw [if_neg null, and_iff_right null]
    exact numbered.found_iff_issued

theorem Numbered.mapped_issued {vaddrOut : Nat} {shm : Shm} (numbered : system.Numbered)
    (mapped : shmMap system.shm shmId vaddrOut = some (vaddr, shm)) (issued : system.Issued shmId) :
    (shmId, vaddr) ∈ system.issued := by
  obtain ⟨_, index, found, isVaddr, _⟩ := shmMap_eq_some mapped
  obtain ⟨_, _, isId⟩ := numbered.issued_ids.mp issued
  have nonzero : shmId ≠ 0 := by omega
  obtain ⟨inside, isIndex⟩ := (numbered.shmFindById_iff nonzero).mp found
  exact numbered.issued_iff.mpr ⟨index, inside, isIndex, isVaddr⟩

/-- A call is answered rightly exactly where it is permitted. -/
theorem Numbered.genuine_iff (numbered : before.Numbered) (call : ShmCall) :
    before.Genuine call (before.perform call) ↔ before.Permitted call := by
  have separate := (numbered.perform call).separate
  rw [Genuine, and_iff_left separate]
  cases call with
  | create block owner size => exact iff_of_true numbered.answers_create trivial
  | map shmId vaddrOut =>
      rw [Answers, numbered.mapped_iff_issued]
      refine and_iff_left_of_imp fun permitted => ⟨?_, ?_⟩
      · intro vaddr shm mapped
        exact numbered.mapped_issued mapped
          ((numbered.mapped_iff_issued.mpr permitted).mp (Option.isSome_of_eq_some mapped))
      · intro failed
        rw [ShmSystem.perform, failed]
  | unmap shmId =>
      rw [Answers, shmUnmap_isSome_iff, numbered.found_iff_issued]
      refine and_iff_left_of_imp fun _ failed => ?_
      rw [ShmSystem.perform, failed]

/-- In every sequence of calls, all are answered rightly exactly when all are permitted. -/
theorem run_genuine_iff (memory : ByteMemory) (calls : List ShmCall) :
    Observed step Genuine (initialized memory) calls (calls.foldl perform (initialized memory)) ↔
      Restricted step Permitted (initialized memory) calls (calls.foldl perform (initialized memory)) := by
  refine (Run.foldl perform calls (initialized memory)).observed_iff Numbered ?_ ?_ (initialized_numbered memory)
  · intro before call after numbered _ performed
    cases performed
    exact numbered.genuine_iff call
  · intro before call after numbered _ performed _
    cases performed
    exact numbered.perform call

/-- Before any region exists, id 0 is mapped. -/
theorem run_maps_zero : ¬ ∀ (memory : ByteMemory) (calls : List ShmCall),
    Observed step Genuine (initialized memory) calls (calls.foldl perform (initialized memory)) := by
  intro genuine
  have run := genuine (fun _ => 0) [.map 0 1]
  cases run with
  | cons first _ =>
      have mapped : (shmMap shmInit 0 1).isSome = true := by decide +kernel
      obtain ⟨vaddr, absurdly⟩ := first.2.1.1.mp mapped
      exact List.not_mem_nil absurdly

end ShmSystem

end AutismOS.Ipc
