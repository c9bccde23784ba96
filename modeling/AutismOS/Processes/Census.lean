import AutismOS.Library.Run
import AutismOS.Processes.Rings

namespace AutismOS.Processes

open AutismOS.Library AutismOS.Memory

/-! # Runs of creations

Beside the kernel stand the processes and tasks that were created, with the numbers that they were given.
-/

structure Census where
  kernel : Kernel
  processes : List (Nat × Nat)
  tasks : List (Nat × Nat)

inductive Creation where
  | taskCreate (task stack entryPoint : Nat)
  | processCreate (blocks : Kernel.Blocks) (entryPoint : Nat)

/-- The state after `process_init` and `task_init`. -/
def initialCensus (kernel : Kernel) : Census :=
  { kernel := kernel.taskInit.processInit, processes := [], tasks := [] }

namespace Census

def addTask (census : Census) (task : Nat) : Census :=
  { census with tasks := census.tasks ++ [(task, (census.kernel.tasks task).id)] }

/-- A process is created with its main thread. -/
def addProcess (census : Census) (process : Nat) : Census :=
  { census with processes := census.processes ++ [(process, (census.kernel.processes process).pid)] }.addTask
    (census.kernel.processes process).mainThread

end Census

/-- A creation; what it returns, unless it is NULL, is put on record. -/
def create (statics : Statics) (fuel : Nat) (census : Census) : Creation → Option Census
  | .taskCreate task stack entryPoint =>
      (census.kernel.taskCreate fuel task stack entryPoint).map fun (result, kernel) =>
        let census := { census with kernel }
        if result = 0 then census else census.addTask result
  | .processCreate blocks entryPoint =>
      (census.kernel.processCreate statics fuel blocks entryPoint).map fun (result, kernel) =>
        let census := { census with kernel }
        if result = 0 then census else census.addProcess result

/-- `kmalloc` hands out blocks that are not in use. -/
def Allocates (census : Census) : Creation → Prop
  | .taskCreate task _ _ => Fresh census.kernel task
  | .processCreate blocks _ => FreshBlocks census.kernel blocks

/-- The creation is given a pid, which it uses up even where it fails later. -/
def Creation.takesPid : Creation → Bool
  | .taskCreate .. => false
  | .processCreate blocks _ => blocks.process ≠ 0

/-- The creation makes a task, which is given an id. -/
def Creation.takesId : Creation → Bool
  | .taskCreate task stack _ => task ≠ 0 && stack ≠ 0
  | .processCreate blocks _ => blocks.process ≠ 0 && blocks.pageDir ≠ 0 && blocks.task ≠ 0 && blocks.stack ≠ 0

variable {statics : Statics} {kernel after : Kernel} {census : Census} {creation : Creation} {creations : List Creation}
variable {blocks : Kernel.Blocks} {numbers : List Nat} {fuel given givenIds counter newTask : Nat}

/-- The counter has given away `given` numbers, and `numbers` are different ones of these. -/
structure Numbered (given counter : Nat) (numbers : List Nat) : Prop where
  counter : counter = given % 2 ^ 32
  below : ∀ number ∈ numbers, number < given
  nodup : numbers.Nodup

theorem add32_counter : add32 (given % 2 ^ 32) 1 = (given + 1) % 2 ^ 32 := Nat.mod_add_mod given (2 ^ 32) 1

/-- A number that is given away and not used. -/
theorem Numbered.skip (numbered : Numbered given counter numbers) : Numbered (given + 1) (add32 counter 1) numbers := by
  refine ⟨?_, fun number member => Nat.lt_succ_of_lt (numbered.below number member), numbered.nodup⟩
  rw [numbered.counter, add32_counter]

/-- Before the counter overflows, the next number is new. -/
theorem Numbered.take (numbered : Numbered given counter numbers) (few : given < 2 ^ 32) :
    Numbered (given + 1) (add32 counter 1) (numbers ++ [counter]) := by
  have isGiven : counter = given := numbered.counter.trans (Nat.mod_eq_of_lt few)
  refine ⟨numbered.skip.counter, ?_, ?_⟩
  · intro number member
    rcases List.mem_append.mp member with old | new
    · exact numbered.skip.below number old
    · rw [List.mem_singleton.mp new, isGiven]
      exact Nat.lt_succ_self given
  · refine List.nodup_append.mpr ⟨numbered.nodup, List.pairwise_singleton _ counter, ?_⟩
    intro number member other isCounter
    rw [List.mem_singleton.mp isCounter, isGiven]
    exact Nat.ne_of_lt (numbered.below number member)

/-- The lists of the kernel are those on record, of objects that carry their numbers. -/
structure Registered (census : Census) : Prop where
  processList : Ring.Listed census.kernel.processLink 0 census.kernel.processListHead (census.processes.map Prod.fst)
  taskList : Ring.Listed census.kernel.link 0 census.kernel.taskListHead (census.tasks.map Prod.fst)
  pid : ∀ entry ∈ census.processes, (census.kernel.processes entry.1).pid = entry.2
  id : ∀ entry ∈ census.tasks, (census.kernel.tasks entry.1).id = entry.2
  process : ∀ entry ∈ census.processes, entry.1 ≠ 0 ∧ entry.1 ∈ census.kernel.live
  task : ∀ entry ∈ census.tasks, entry.1 ∈ census.kernel.live

theorem initialCensus_registered : Registered (initialCensus kernel) :=
  ⟨Or.inl ⟨rfl, rfl⟩, Or.inl ⟨rfl, rfl⟩, nofun, nofun, nofun, nofun⟩

/-- A census whose numbers are those that the kernel gave away. -/
structure Counted (census : Census) (given givenIds : Nat) : Prop where
  registered : Registered census
  pids : Numbered given census.kernel.nextPid (census.processes.map Prod.snd)
  ids : Numbered givenIds census.kernel.nextTaskId (census.tasks.map Prod.snd)

theorem Registered.freshTask (registered : Registered census) (unused : newTask ∉ census.kernel.live) :
    ∀ entry ∈ census.tasks, entry.1 ≠ newTask :=
  fun entry member same => unused (same ▸ registered.task entry member)

theorem Registered.freshProcess {process : Nat} (registered : Registered census)
    (unused : process ∉ census.kernel.live) : ∀ entry ∈ census.processes, entry.1 ≠ process :=
  fun entry member same => unused (same ▸ (registered.process entry member).2)

/-- One object gets a number, and all others keep theirs. -/
def Renumbered (number number' : Nat → Nat) (fresh value : Nat) : Prop :=
  ∀ object, number' object = if object = fresh then value else number object

theorem Renumbered.recorded {number number' : Nat → Nat} {fresh value : Nat} {entries : List (Nat × Nat)}
    (renumbered : Renumbered number number' fresh value) (absent : ∀ entry ∈ entries, entry.1 ≠ fresh)
    (carried : ∀ entry ∈ entries, number entry.1 = entry.2) :
    ∀ entry ∈ entries ++ [(fresh, number' fresh)], number' entry.1 = entry.2 := by
  intro entry member
  rcases List.mem_append.mp member with old | new
  · rw [renumbered, if_neg (absent entry old)]
    exact carried entry old
  · rw [List.mem_singleton.mp new]

theorem Numbered.recorded {number number' : Nat → Nat} {fresh : Nat} {entries : List (Nat × Nat)}
    (numbered : Numbered given counter (entries.map Prod.snd)) (few : given < 2 ^ 32)
    (renumbered : Renumbered number number' fresh counter) :
    Numbered (given + 1) (add32 counter 1) ((entries ++ [(fresh, number' fresh)]).map Prod.snd) := by
  have isCounter : number' fresh = counter := (renumbered fresh).trans (if_pos rfl)
  rw [List.map_append, isCounter]
  exact numbered.take few

theorem Counted.taskCreated (counted : Counted census given givenIds) (unused : newTask ∉ census.kernel.live)
    (few : givenIds < 2 ^ 32) (listed : TaskListed census.kernel newTask (census.tasks.map Prod.fst) after) :
    Counted ({ census with kernel := after }.addTask newTask) given (givenIds + 1) := by
  obtain ⟨registered, pids, ids⟩ := counted
  have renumbered : Renumbered (fun task => (census.kernel.tasks task).id) (fun task => (after.tasks task).id) newTask
      census.kernel.nextTaskId := listed.id
  have processLink : after.processLink = census.kernel.processLink :=
    funext fun process => congrArg (fun processes => (processes process).next) listed.processes
  refine ⟨⟨?_, ?_, ?_, ?_, ?_, ?_⟩, ?_, ?_⟩
  · change Ring.Listed after.processLink 0 after.processListHead _
    rw [processLink, listed.processListHead]
    exact registered.processList
  · change Ring.Listed after.link 0 after.taskListHead (List.map Prod.fst (census.tasks ++ [(newTask, _)]))
    rw [List.map_append]
    exact listed.list
  · intro entry member
    exact (congrArg (fun processes => (processes entry.1).pid) listed.processes).trans (registered.pid entry member)
  · exact renumbered.recorded (registered.freshTask unused) registered.id
  · intro entry member
    exact (registered.process entry member).imp_right fun live => listed.live live
  · intro entry member
    rcases List.mem_append.mp member with old | new
    · exact listed.live (registered.task entry old)
    · rw [List.mem_singleton.mp new]
      exact listed.allocated
  · exact listed.nextPid.symm ▸ pids
  · exact listed.nextTaskId.symm ▸ ids.recorded few renumbered

/-- A process that was dropped has used up a pid. -/
theorem Counted.dropped (counted : Counted census given givenIds) (unused : blocks.process ∉ census.kernel.live)
    (dropped : ProcessDropped census.kernel blocks after) :
    Counted { census with kernel := after } (given + 1) givenIds := by
  obtain ⟨registered, pids, ids⟩ := counted
  have same : ∀ entry ∈ census.processes, after.processes entry.1 = census.kernel.processes entry.1 :=
    fun entry member => dropped.processes entry.1 (registered.freshProcess unused entry member)
  have link : after.link = census.kernel.link :=
    funext fun task => congrArg (fun tasks => (tasks task).next) dropped.tasks
  have live : ∀ block ∈ census.kernel.live, block ∈ after.live := by
    intro block member
    rw [dropped.live]
    have different : block ≠ blocks.process := fun isProcess => unused (isProcess ▸ member)
    exact Finset.mem_erase.mpr ⟨different, kmalloc_steady.live (kmalloc_steady.live member)⟩
  refine ⟨⟨?_, ?_, ?_, ?_, ?_, ?_⟩, ?_, ?_⟩
  · change Ring.Listed after.processLink 0 after.processListHead _
    rw [dropped.processListHead]
    refine registered.processList.frame ?_
    intro process member
    obtain ⟨entry, listed, rfl⟩ := List.mem_map.mp member
    exact congrArg Process.next (same entry listed)
  · change Ring.Listed after.link 0 after.taskListHead _
    rw [link, dropped.taskListHead]
    exact registered.taskList
  · intro entry member
    exact (congrArg Process.pid (same entry member)).trans (registered.pid entry member)
  · intro entry member
    exact (congrArg (fun tasks => (tasks entry.1).id) dropped.tasks).trans (registered.id entry member)
  · exact fun entry member => (registered.process entry member).imp_right (live entry.1)
  · exact fun entry member => live entry.1 (registered.task entry member)
  · exact dropped.nextPid.symm ▸ pids.skip
  · exact dropped.nextTaskId.symm ▸ ids

theorem Counted.processCreated {newProcess : Nat} (counted : Counted census given givenIds)
    (unused : newProcess ∉ census.kernel.live) (unusedTask : newTask ∉ census.kernel.live) (few : given < 2 ^ 32)
    (fewIds : givenIds < 2 ^ 32)
    (listed : ProcessListed census.kernel newProcess newTask (census.processes.map Prod.fst)
      (census.tasks.map Prod.fst) after) :
    Counted ({ census with kernel := after }.addProcess newProcess) (given + 1) (givenIds + 1) := by
  obtain ⟨registered, pids, ids⟩ := counted
  have made := listed.made
  have mainThread : (after.processes newProcess).mainThread = newTask := (made.mainThread newProcess).trans (if_pos rfl)
  have renumberedIds : Renumbered (fun task => (census.kernel.tasks task).id) (fun task => (after.tasks task).id) newTask
      census.kernel.nextTaskId := listed.id
  have renumbered : Renumbered (fun process => (census.kernel.processes process).pid)
      (fun process => (after.processes process).pid) newProcess census.kernel.nextPid := made.pid
  have added : { census with kernel := after }.addProcess newProcess =
      { kernel := after
        processes := census.processes ++ [(newProcess, (after.processes newProcess).pid)]
        tasks := census.tasks ++ [(newTask, (after.tasks newTask).id)] } := by
    rw [← mainThread]
    rfl
  rw [added]
  refine ⟨⟨?_, ?_, ?_, ?_, ?_, ?_⟩, ?_, ?_⟩
  · rw [List.map_append]
    exact listed.processList
  · rw [List.map_append]
    exact listed.taskList
  · exact renumbered.recorded (registered.freshProcess unused) registered.pid
  · exact renumberedIds.recorded (registered.freshTask unusedTask) registered.id
  · intro entry member
    rcases List.mem_append.mp member with old | new
    · exact (registered.process entry old).imp_right fun live => made.live live
    · rw [List.mem_singleton.mp new]
      exact ⟨made.processNonNull, made.processLive⟩
  · intro entry member
    rcases List.mem_append.mp member with old | new
    · exact made.live (registered.task entry old)
    · rw [List.mem_singleton.mp new]
      exact made.taskLive
  · exact listed.nextPid.symm ▸ pids.recorded few renumbered
  · exact listed.nextTaskId.symm ▸ ids.recorded fewIds renumberedIds

/-- The creation returns, and the lists and the numbers are right. -/
def Proceeds (statics : Statics) (fuel given givenIds : Nat) (census : Census) (creation : Creation) : Prop :=
  ∃ next, create statics fuel census creation = some next ∧
    Counted next (given + creation.takesPid.toNat) (givenIds + creation.takesId.toNat) ∧
    next.processes.length ≤ census.processes.length + 1 ∧ next.tasks.length ≤ census.tasks.length + 1

theorem Registered.absentTask (registered : Registered census) (unused : newTask ∉ census.kernel.live) :
    newTask ∉ census.tasks.map Prod.fst := by
  intro member
  obtain ⟨entry, listed, same⟩ := List.mem_map.mp member
  exact registered.freshTask unused entry listed same

theorem Registered.absentProcess {process : Nat} (registered : Registered census)
    (unused : process ∉ census.kernel.live) : process ∉ census.processes.map Prod.fst := by
  intro member
  obtain ⟨entry, listed, same⟩ := List.mem_map.mp member
  exact registered.freshProcess unused entry listed same

theorem Counted.proceedsTask {task stack entryPoint : Nat} (counted : Counted census given givenIds)
    (fresh : Fresh census.kernel task) (enough : (census.tasks.map Prod.fst).length ≤ fuel)
    (few : givenIds + (Creation.taskCreate task stack entryPoint).takesId.toNat ≤ 2 ^ 32) :
    Proceeds statics fuel given givenIds census (.taskCreate task stack entryPoint) := by
  by_cases failed : task = 0 ∨ stack = 0
  · have takesNone : (Creation.taskCreate task stack entryPoint).takesId = false := by
      rcases failed with null | null
      · simp [Creation.takesId, null]
      · simp [Creation.takesId, null]
    have returns : create statics fuel census (.taskCreate task stack entryPoint) = some census := by
      rw [create, taskCreate_failed fresh failed]
      rfl
    rw [Proceeds, takesNone]
    exact ⟨census, returns, counted, Nat.le_succ _, Nat.le_succ _⟩
  · obtain ⟨nonNull, withStack⟩ := not_or.mp failed
    have takesOne : (Creation.taskCreate task stack entryPoint).takesId = true := by
      simp [Creation.takesId, nonNull, withStack]
    rw [takesOne] at few
    rw [Proceeds, takesOne]
    have unused := fresh.resolve_left nonNull
    obtain ⟨after, creates, listed⟩ : ∃ after,
        census.kernel.taskCreate fuel task stack entryPoint = some (task, after) ∧ _ :=
      taskCreate_listed counted.registered.taskList nonNull withStack (counted.registered.absentTask unused) enough
    refine ⟨{ census with kernel := after }.addTask task, ?_, counted.taskCreated unused few listed, Nat.le_succ _, ?_⟩
    · rw [create, creates]
      exact congrArg some (if_neg nonNull)
    · exact Nat.le_of_eq List.length_append

theorem FreshBlocks.unusedTask (fresh : FreshBlocks kernel blocks) (nonNull : blocks.task ≠ 0) :
    blocks.task ∉ kernel.live :=
  fun member => fresh.task.resolve_left nonNull (kmalloc_steady.live (kmalloc_steady.live member))

theorem Counted.proceedsProcess {entryPoint : Nat} (counted : Counted census given givenIds)
    (fresh : FreshBlocks census.kernel blocks) (enough : (census.processes.map Prod.fst).length ≤ fuel)
    (enoughTasks : (census.tasks.map Prod.fst).length ≤ fuel)
    (few : given + (Creation.processCreate blocks entryPoint).takesPid.toNat ≤ 2 ^ 32)
    (fewIds : givenIds + (Creation.processCreate blocks entryPoint).takesId.toNat ≤ 2 ^ 32) :
    Proceeds statics fuel given givenIds census (.processCreate blocks entryPoint) := by
  by_cases null : blocks.process = 0
  · have takesNothing : (Creation.processCreate blocks entryPoint).takesPid = false ∧
        (Creation.processCreate blocks entryPoint).takesId = false := by
      simp [Creation.takesPid, Creation.takesId, null]
    have returns : create statics fuel census (.processCreate blocks entryPoint) = some census := by
      rw [create, Kernel.processCreate, if_pos null, Kernel.kmalloc, if_pos null]
      rfl
    rw [Proceeds, takesNothing.1, takesNothing.2]
    exact ⟨census, returns, counted, Nat.le_succ _, Nat.le_succ _⟩
  have unused := fresh.process.resolve_left null
  have takesPid : (Creation.processCreate blocks entryPoint).takesPid = true := by
    simp [Creation.takesPid, null]
  rw [takesPid] at few
  rw [Proceeds, takesPid]
  by_cases failed : blocks.pageDir = 0 ∨ blocks.task = 0 ∨ blocks.stack = 0
  · have takesNone : (Creation.processCreate blocks entryPoint).takesId = false := by
      rcases failed with absent | absent | absent
      · simp [Creation.takesId, absent]
      · simp [Creation.takesId, absent]
      · simp [Creation.takesId, absent]
    rw [takesNone]
    obtain ⟨after, creates, dropped⟩ : ∃ after,
        census.kernel.processCreate statics fuel blocks entryPoint = some (0, after) ∧ _ :=
      processCreate_failed fresh null failed
    refine ⟨{ census with kernel := after }, ?_, counted.dropped unused dropped, Nat.le_succ _, Nat.le_succ _⟩
    rw [create, creates]
    rfl
  · obtain ⟨withDirectory, others⟩ := not_or.mp failed
    obtain ⟨withTask, withStack⟩ := not_or.mp others
    have takesOne : (Creation.processCreate blocks entryPoint).takesId = true := by
      simp [Creation.takesId, null, withDirectory, withTask, withStack]
    rw [takesOne] at fewIds ⊢
    have unusedTask := fresh.unusedTask withTask
    obtain ⟨after, creates, listed⟩ : ∃ after,
        census.kernel.processCreate statics fuel blocks entryPoint = some (blocks.process, after) ∧ _ :=
      processCreate_listed fresh null withDirectory withTask withStack counted.registered.processList
        counted.registered.taskList (counted.registered.absentProcess unused) (counted.registered.absentTask unusedTask)
        enough enoughTasks
    refine ⟨{ census with kernel := after }.addProcess blocks.process, ?_,
      counted.processCreated unused unusedTask few fewIds listed, ?_, ?_⟩
    · rw [create, creates]
      exact congrArg some (if_neg null)
    · exact Nat.le_of_eq List.length_append
    · exact Nat.le_of_eq List.length_append

theorem Counted.proceeds (counted : Counted census given givenIds) (allocates : Allocates census creation)
    (enough : census.processes.length ≤ fuel) (enoughTasks : census.tasks.length ≤ fuel)
    (few : given + creation.takesPid.toNat ≤ 2 ^ 32) (fewIds : givenIds + creation.takesId.toNat ≤ 2 ^ 32) :
    Proceeds statics fuel given givenIds census creation := by
  have processes : (census.processes.map Prod.fst).length ≤ fuel := by
    rw [List.length_map]
    exact enough
  have tasks : (census.tasks.map Prod.fst).length ≤ fuel := by
    rw [List.length_map]
    exact enoughTasks
  cases creation with
  | taskCreate task stack entryPoint => exact counted.proceedsTask allocates tasks fewIds
  | processCreate blocks entryPoint => exact counted.proceedsProcess allocates processes tasks few fewIds

theorem Counted.run {before after : Census} (counted : Counted before given givenIds)
    (run : Restricted (create statics fuel) Allocates before creations after)
    (enough : before.processes.length + creations.length ≤ fuel)
    (enoughTasks : before.tasks.length + creations.length ≤ fuel)
    (few : given + creations.countP Creation.takesPid ≤ 2 ^ 32)
    (fewIds : givenIds + creations.countP Creation.takesId ≤ 2 ^ 32) :
    Counted after (given + creations.countP Creation.takesPid) (givenIds + creations.countP Creation.takesId) ∧
      after.processes.length ≤ before.processes.length + creations.length ∧
      after.tasks.length ≤ before.tasks.length + creations.length := by
  induction run generalizing given givenIds with
  | nil census => exact ⟨counted, Nat.le_refl _, Nat.le_refl _⟩
  | @cons before middle after creation rest performed _ ih =>
      rw [List.countP_cons] at few fewIds
      rw [List.countP_cons, List.countP_cons]
      rw [List.length_cons] at enough enoughTasks ⊢
      have split (takes : Bool) (taken : Nat) : taken + (if takes then 1 else 0) = takes.toNat + taken := by
        cases takes
        · exact (Nat.zero_add taken).symm
        · exact Nat.add_comm taken 1
      rw [split, ← Nat.add_assoc] at few fewIds
      rw [split, split, ← Nat.add_assoc, ← Nat.add_assoc]
      obtain ⟨next, created, countedNext, longer, longerTasks⟩ : Proceeds statics fuel given givenIds before creation :=
        counted.proceeds performed.1 (by omega) (by omega) (by omega) (by omega)
      obtain rfl := Option.some.inj (created.symm.trans performed.2)
      obtain ⟨countedAfter, processes, tasks⟩ := ih countedNext (by omega) (by omega) few fewIds
      exact ⟨countedAfter, by omega, by omega⟩

/-- The search answers with the process that was given the pid. -/
def FindsByPid (fuel : Nat) (census : Census) (pid : Nat) : Prop :=
  ∃ target, census.kernel.processFindByPid fuel pid = some target ∧ (target ≠ 0 → (target, pid) ∈ census.processes) ∧
    (target = 0 ↔ ∀ entry ∈ census.processes, entry.2 ≠ pid)

theorem Registered.findsByPid (registered : Registered census) (enough : census.processes.length ≤ fuel) (pid : Nat) :
    FindsByPid fuel census pid := by
  have shorter : (census.processes.map Prod.fst).length ≤ fuel := by
    rw [List.length_map]
    exact enough
  let test (process : Nat) : Bool := (census.kernel.processes process).pid = pid
  have searched : census.kernel.processFindByPid fuel pid =
      some (((census.processes.map Prod.fst).find? test).getD 0) := by
    have found : (if census.kernel.processListHead = 0 then some none
        else Ring.find census.kernel.processLink test census.kernel.processListHead fuel
          census.kernel.processListHead) = _ :=
      registered.processList.find shorter
    rw [Kernel.processFindByPid]
    split
    · next empty =>
        rw [if_pos empty] at found
        exact congrArg (Option.map (·.getD 0)) found
    · next nonempty =>
        rw [if_neg nonempty] at found
        exact congrArg (Option.map (·.getD 0)) found
  refine ⟨_, searched, ?_⟩
  cases answer : (census.processes.map Prod.fst).find? test with
  | none =>
      refine ⟨fun different => absurd rfl different, iff_of_true rfl ?_⟩
      intro entry member isPid
      have failed := List.find?_eq_none.mp answer entry.1 (List.mem_map_of_mem member)
      exact failed (decide_eq_true ((registered.pid entry member).trans isPid))
  | some process =>
      obtain ⟨entry, member, rfl⟩ := List.mem_map.mp (List.mem_of_find?_eq_some answer)
      have passed : test entry.1 = true := List.find?_some answer
      have carries : (census.kernel.processes entry.1).pid = pid := of_decide_eq_true passed
      have isPid : entry.2 = pid := (registered.pid entry member).symm.trans carries
      refine ⟨fun _ => isPid ▸ member, iff_of_false (registered.process entry member).1 ?_⟩
      exact fun nobody => nobody entry member isPid

/-- Whatever requests for blocks fail, both lists are rings of what was created, with different numbers, and
processes are found by their pids. -/
theorem run_creations_keep_rings {after : Census}
    (run : Restricted (create statics fuel) Allocates (initialCensus kernel) creations after)
    (enough : creations.length ≤ fuel) (few : creations.countP Creation.takesPid ≤ 2 ^ 32)
    (fewIds : creations.countP Creation.takesId ≤ 2 ^ 32) :
    Registered after ∧ (after.processes.map Prod.snd).Nodup ∧ (after.tasks.map Prod.snd).Nodup ∧
      (∀ pid, FindsByPid fuel after pid) ∧
      ∀ creation, Allocates after creation → (creation :: creations).length ≤ fuel →
        (creation :: creations).length ≤ 2 ^ 32 → ∃ next, create statics fuel after creation = some next := by
  have initial : Counted (initialCensus kernel) 0 0 :=
    ⟨initialCensus_registered, ⟨rfl, nofun, List.nodup_nil⟩, ⟨rfl, nofun, List.nodup_nil⟩⟩
  have shorter : (initialCensus kernel).processes.length + creations.length ≤ fuel := (Nat.zero_add _).trans_le enough
  have shorterTasks : (initialCensus kernel).tasks.length + creations.length ≤ fuel := (Nat.zero_add _).trans_le enough
  obtain ⟨counted, processes, tasks⟩ := initial.run run shorter shorterTasks ((Nat.zero_add _).trans_le few)
    ((Nat.zero_add _).trans_le fewIds)
  have listed : after.processes.length ≤ creations.length := processes.trans_eq (Nat.zero_add _)
  have listedTasks : after.tasks.length ≤ creations.length := tasks.trans_eq (Nat.zero_add _)
  refine ⟨counted.registered, counted.pids.nodup, counted.ids.nodup,
    counted.registered.findsByPid (listed.trans enough), ?_⟩
  intro creation allocates further small
  have givenFew : creations.countP Creation.takesPid ≤ creations.length := List.countP_le_length
  have givenFewIds : creations.countP Creation.takesId ≤ creations.length := List.countP_le_length
  rw [List.length_cons] at further small
  have pidFits := Bool.toNat_le creation.takesPid
  have idFits := Bool.toNat_le creation.takesId
  obtain ⟨next, created, _⟩ : Proceeds statics fuel _ _ after creation :=
    counted.proceeds allocates (by omega) (by omega) (by omega) (by omega)
  exact ⟨next, created⟩

/-- A process, one that gets no stack, a task, and another process with the blocks that were given back. -/
def someCreations : List Creation :=
  [.processCreate firstBlocks 0x101000, .processCreate { secondBlocks with stack := 0 } 0x102000,
    .taskCreate 0x210014 0x211014 0x103000, .processCreate { secondBlocks with pageDir := 0x215014 } 0x104000]

theorem run_creations_keep_rings_some :
    ∃ after, Restricted (create lowStatics 4) Allocates (initialCensus emptyKernel) someCreations after ∧
      FindsByPid 4 after 2 := by
  obtain ⟨after, run⟩ : ∃ after,
      Restricted (create lowStatics 4) Allocates (initialCensus emptyKernel) someCreations after := by
    refine ⟨_, .cons ⟨⟨Or.inr ?_, Or.inr ?_⟩, rfl⟩ (.cons ⟨⟨Or.inr ?_, Or.inr ?_⟩, rfl⟩ (.cons ⟨Or.inr ?_, rfl⟩
      (.cons ⟨⟨Or.inr ?_, Or.inr ?_⟩, rfl⟩ (.nil _))))⟩
    all_goals decide
  exact ⟨after, run, (run_creations_keep_rings run (by decide) (by decide) (by decide)).2.2.2.1 2⟩

end AutismOS.Processes
