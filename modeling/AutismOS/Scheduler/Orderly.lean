import AutismOS.Scheduler.Invariant

namespace AutismOS.Scheduler

open AutismOS.Library

variable {sched before middle after : Sched} {slot other stask current next : Slot} {queued : Slot → Prop}
variable {change : SchedTask → SchedTask} {count : SchedStats → SchedStats}

/-! # Calls over orderly queues

The current entry may be in any state here: a task that stopped stays current for as long as there is no other to
switch to.
-/

/-- An entry that is READY or RUNNING, whether or not it holds a task. -/
def Awake (entry : SchedTask) : Prop := entry.state = .ready ∨ entry.state = .running

/-- The run queues are sound lists of the slots in `queued`: all runnable entries, and otherwise
only entries that are READY or RUNNING. -/
structure Orderly (sched : Sched) (queued : Slot → Prop) : Prop where
  arranged : Arranged sched queued
  complete : ∀ slot, Runnable (sched.taskPool slot) → queued slot
  awake : ∀ slot, queued slot → Awake (sched.taskPool slot)

/-- A current entry that is RUNNING is on its queue. -/
def Owned (sched : Sched) (queued : Slot → Prop) : Prop :=
  ∀ current, sched.current = some current → (sched.taskPool current).state = .running → queued current

theorem QueuesWellFormed.orderly (formed : QueuesWellFormed sched) (inRange : PrioritiesInRange sched) :
    Orderly sched fun slot => Runnable (sched.taskPool slot) :=
  ⟨(queuesWellFormed_iff_arranged inRange).mp formed, fun _ => id, fun _ => And.right⟩

theorem SameTasks.awake (same : SameTasks before after) (slot : Slot) :
    Awake (after.taskPool slot) ↔ Awake (before.taskPool slot) := by
  simp only [Awake, same.state]

theorem SameTasks.runnable (same : SameTasks before after) (slot : Slot) :
    Runnable (after.taskPool slot) ↔ Runnable (before.taskPool slot) := by
  simp only [Runnable, same.state, same.task]

theorem unlinked_state {left right : SchedTask} (same : left.unlinked = right.unlinked) : left.state = right.state := by
  simpa only [SchedTask.unlinked] using congrArg SchedTask.state same

theorem unlinked_task {left right : SchedTask} (same : left.unlinked = right.unlinked) : left.task = right.task := by
  simpa only [SchedTask.unlinked] using congrArg SchedTask.task same

theorem unlinked_wakeTime {left right : SchedTask} (same : left.unlinked = right.unlinked) :
    left.wakeTime = right.wakeTime := by
  simpa only [SchedTask.unlinked] using congrArg SchedTask.wakeTime same

/-- What a yield may do to an entry: exchange READY and RUNNING.  One that is neither keeps its state and its wake
time. -/
structure Yielded (before after : Sched) : Prop where
  ticks : after.ticks = before.ticks
  current : before.current = none → after.current = none
  task : ∀ slot, (after.taskPool slot).task = (before.taskPool slot).task
  awake : ∀ slot, Awake (before.taskPool slot) → Awake (after.taskPool slot)
  state : ∀ slot, ¬ Awake (before.taskPool slot) → (after.taskPool slot).state = (before.taskPool slot).state
  wakeTime : ∀ slot, ¬ Awake (before.taskPool slot) →
    (after.taskPool slot).wakeTime = (before.taskPool slot).wakeTime

theorem Yielded.refl (sched : Sched) : Yielded sched sched :=
  ⟨rfl, id, fun _ => rfl, fun _ => id, fun _ _ => rfl, fun _ _ => rfl⟩

/-- Nothing of it changes where tasks, states and wake times stay. -/
theorem Yielded.of_fields (ticks : after.ticks = before.ticks) (current : after.current = before.current)
    (fields : ∀ slot, (after.taskPool slot).task = (before.taskPool slot).task ∧
      (after.taskPool slot).state = (before.taskPool slot).state ∧
      (after.taskPool slot).wakeTime = (before.taskPool slot).wakeTime) : Yielded before after := by
  refine ⟨ticks, fun idle => current.trans idle, fun slot => (fields slot).1, ?_, fun slot _ => (fields slot).2.1,
    fun slot _ => (fields slot).2.2⟩
  intro slot awake
  rw [Awake, (fields slot).2.1]
  exact awake

theorem Yielded.awake_iff (yielded : Yielded before after) (slot : Slot) :
    Awake (after.taskPool slot) ↔ Awake (before.taskPool slot) := by
  refine ⟨fun awake => ?_, yielded.awake slot⟩
  by_contra asleep
  have same := yielded.state slot asleep
  rw [Awake, same] at awake
  exact asleep awake

theorem Yielded.trans (first : Yielded before middle) (second : Yielded middle after) : Yielded before after := by
  have asleep (slot : Slot) (was : ¬ Awake (before.taskPool slot)) : ¬ Awake (middle.taskPool slot) := by
    rw [first.awake_iff]
    exact was
  refine ⟨second.ticks.trans first.ticks, fun idle => second.current (first.current idle),
    fun slot => (second.task slot).trans (first.task slot), fun slot awake => second.awake slot (first.awake slot awake),
    ?_, ?_⟩
  · intro slot was
    exact (second.state slot (asleep slot was)).trans (first.state slot was)
  · intro slot was
    exact (second.wakeTime slot (asleep slot was)).trans (first.wakeTime slot was)

theorem Switched.yielded (switched : Switched before current next after) (selected : before.current = some current)
    (wakeful : Awake (before.taskPool next)) : Yielded before after := by
  have others (slot : Slot) (asleep : ¬ Awake (before.taskPool slot)) :
      (after.taskPool slot).unlinked = (before.taskPool slot).unlinked := by
    have notNext : slot ≠ next := fun same => asleep (same ▸ wakeful)
    by_cases isCurrent : slot = current
    · subst isCurrent
      have notRunning : (before.taskPool slot).state ≠ .running := fun running => asleep (Or.inr running)
      have kept := switched.preempted
      rwa [if_neg notRunning] at kept
    · exact switched.others slot isCurrent notNext
  refine ⟨switched.ticks, fun idle => absurd (idle.symm.trans selected) (by simp), switched.task, ?_,
    fun slot asleep => unlinked_state (others slot asleep), fun slot asleep => unlinked_wakeTime (others slot asleep)⟩
  intro slot awake
  by_cases isNext : slot = next
  · exact Or.inr (isNext ▸ switched.state_next)
  · by_cases isCurrent : slot = current
    · subst isCurrent
      rw [Awake, switched.state_current]
      split
      · exact Or.inl rfl
      · exact awake
    · rw [Awake, switched.state_other isCurrent isNext]
      exact awake

theorem Orderly.transfer (orderly : Orderly before queued) (yielded : Yielded before after)
    (arranged : Arranged after queued) : Orderly after queued := by
  refine ⟨arranged, ?_, fun slot isQueued => yielded.awake slot (orderly.awake slot isQueued)⟩
  intro slot runnable
  exact orderly.complete slot ⟨yielded.task slot ▸ runnable.1, (yielded.awake_iff slot).mp runnable.2⟩

/-- Over orderly queues a yield returns, keeps the queued entries and selects one of them, if anything. -/
theorem Orderly.yield (orderly : Orderly sched queued) (owned : Owned sched queued) :
    ∃ after, schedulerYield sched = some after ∧ Orderly after queued ∧ Owned after queued ∧ Yielded sched after := by
  obtain ⟨after, done, arranged⟩ := orderly.arranged.schedulerYield owned
  rcases schedulerYield_cases done with ⟨rfl, _⟩ | ⟨current, next, _, selected, chosen, _, switched⟩
  · exact ⟨after, done, orderly, owned, .refl after⟩
  · obtain ⟨queue, head, _⟩ := findNextTask_eq_some chosen
    have isQueued := orderly.arranged.head_queued head
    have yielded := switched.yielded selected (orderly.awake next isQueued)
    refine ⟨after, done, orderly.transfer yielded arranged, ?_, yielded⟩
    intro slot selected' _
    exact Option.some.inj (switched.selected.symm.trans selected') ▸ isQueued

theorem retire_other (different : slot ≠ current) :
    ((retire sched current change count).taskPool slot).unlinked = (sched.taskPool slot).unlinked := by
  rw [retire_sameTasks.tasks, Sched.modifyTask_other _ _ different]

theorem retire_self :
    ((retire sched current change count).taskPool current).unlinked = (change (sched.taskPool current)).unlinked := by
  rw [retire_sameTasks.tasks, Sched.modifyTask_same]

/-- An entry that stops leaves the queues orderly if it was queued or its stale links are harmless. -/
theorem Orderly.retire (orderly : Orderly sched queued) (stops : Stops change)
    (unlinks : queued current ∨ DequeueHarmless sched queued current) :
    Orderly (Scheduler.retire sched current change count) fun slot => queued slot ∧ slot ≠ current := by
  have stopped := orderly.arranged.modifyTask current change stops.next stops.prev fun _ => stops.priority
  have harmless : DequeueHarmless (sched.modifyTask current change) queued current ↔
      DequeueHarmless sched queued current := by
    unfold DequeueHarmless
    rw [Sched.modifyTask_links sched change current stops.next stops.prev, Sched.modifyTask_same,
      stops.priority, Sched.modifyTask_runQueues]
  refine ⟨?_, ?_, ?_⟩
  · exact (stopped.dequeueTask_iff.mpr (unlinks.imp_right harmless.mpr)).modifyStats count
  · intro slot runnable
    obtain ⟨was, different⟩ := (retire_runnable stops slot).mp runnable
    exact ⟨orderly.complete slot was, different⟩
  · intro slot isQueued
    rw [Awake, unlinked_state (retire_other isQueued.2)]
    exact orderly.awake slot isQueued.1

/-- The yield that follows. -/
theorem Orderly.retired (orderly : Orderly sched queued) (stops : Stops change) (selected : sched.current = some current)
    (unlinks : queued current ∨ DequeueHarmless sched queued current) :
    ∃ after, schedulerYield (Scheduler.retire sched current change count) = some after ∧
      Orderly after (fun slot => queued slot ∧ slot ≠ current) ∧
      Owned after (fun slot => queued slot ∧ slot ≠ current) ∧
      Yielded (Scheduler.retire sched current change count) after := by
  refine (orderly.retire stops unlinks).yield ?_
  intro slot still running
  have same : SameTasks (sched.modifyTask current change) (Scheduler.retire sched current change count) :=
    retire_sameTasks
  obtain rfl := Option.some.inj (selected.symm.trans (same.current.symm.trans still))
  exact absurd running (retire_stopped stops)

theorem chargeTick_yielded (sched : Sched) (current : Slot) : Yielded sched (sched.modifyTask current chargeTick) := by
  refine Yielded.of_fields rfl rfl ?_
  intro slot
  rw [modifyTask_chargeTick]
  split <;> exact ⟨rfl, rfl, rfl⟩

theorem Orderly.chargeCurrent (orderly : Orderly sched queued) (owned : Owned sched queued) :
    ∃ after, Scheduler.chargeCurrent sched = some after ∧ Orderly after queued ∧ Owned after queued ∧
      Yielded sched after := by
  cases selected : sched.current with
  | none => exact ⟨sched, by simp [Scheduler.chargeCurrent, selected], orderly, owned, .refl sched⟩
  | some current =>
      rw [chargeCurrent_eq sched selected]
      have charges := chargeTick_yielded sched current
      have charged : Orderly (sched.modifyTask current chargeTick) queued := orderly.transfer charges
        (orderly.arranged.modifyTask current _ (fun _ => rfl) (fun _ => rfl) fun _ _ => rfl)
      have stillOwned : Owned (sched.modifyTask current chargeTick) queued := by
        intro slot still running
        rw [modifyTask_chargeTick] at running
        have was : (sched.taskPool slot).state = .running := by split at running <;> exact running
        exact owned slot still was
      split
      · obtain ⟨after, done, orderlyAfter, ownedAfter, yielded⟩ := charged.yield stillOwned
        exact ⟨after, done, orderlyAfter, ownedAfter, charges.trans yielded⟩
      · exact ⟨_, rfl, charged, stillOwned, charges⟩

/-- The wake-up loop queues the due sleepers. -/
theorem Orderly.wakeLoop (orderly : Orderly sched queued) :
    ∃ middle, (List.finRange 64).foldlM wakeSleeper (advanceTicks sched) = some middle ∧
      Woken (advanceTicks sched) (List.finRange 64) middle ∧
      Orderly middle fun slot => queued slot ∨ SleeperDue (advanceTicks sched) slot := by
  have advanced : Arranged (advanceTicks sched) queued := orderly.arranged.transfer rfl rfl fun _ _ => rfl
  have notDue (slot : Slot) (isQueued : queued slot) : ¬ SleeperDue (advanceTicks sched) slot := by
    intro due
    have asleep : (sched.taskPool slot).state = .sleeping := due.1
    have awake := orderly.awake slot isQueued
    simp [Awake, asleep] at awake
  obtain ⟨middle, done, arranged⟩ := advanced.wakeLoop (List.nodup_finRange 64)
    fun slot _ due isQueued => notDue slot isQueued due
  have woken := wakeLoop_woken (List.nodup_finRange 64) done
  refine ⟨middle, done, woken, arranged.congr fun slot => by simp, ?_, ?_⟩
  · intro slot runnable
    rcases (woken.runnable slot).mp runnable with was | ⟨due, _⟩
    · exact Or.inl (orderly.complete slot was)
    · exact Or.inr due
  · intro slot either
    rw [Awake, woken.state]
    by_cases due : SleeperDue (advanceTicks sched) slot
    · rw [if_pos ⟨List.mem_finRange slot, due⟩]
      exact Or.inl rfl
    · rw [if_neg fun both => due both.2]
      exact orderly.awake slot (either.resolve_right due)

theorem Woken.owned (woken : Woken (advanceTicks sched) (List.finRange 64) middle) (owned : Owned sched queued) :
    Owned middle fun slot => queued slot ∨ SleeperDue (advanceTicks sched) slot := by
  intro slot selected running
  rw [woken.state] at running
  by_cases due : SleeperDue (advanceTicks sched) slot
  · exact Or.inr due
  · rw [if_neg fun both => due both.2] at running
    exact Or.inl (owned slot (woken.current.symm.trans selected) running)

/-- Over orderly queues a tick returns: it wakes the due sleepers and charges the current entry. -/
theorem Orderly.tick (orderly : Orderly sched queued) (owned : Owned sched queued) :
    ∃ middle after, (List.finRange 64).foldlM wakeSleeper (advanceTicks sched) = some middle ∧
      Woken (advanceTicks sched) (List.finRange 64) middle ∧ schedulerTick sched = some after ∧ Yielded middle after ∧
      Orderly after (fun slot => queued slot ∨ SleeperDue (advanceTicks sched) slot) ∧
      Owned after (fun slot => queued slot ∨ SleeperDue (advanceTicks sched) slot) := by
  obtain ⟨middle, loop, woken, orderlyMiddle⟩ := orderly.wakeLoop
  obtain ⟨after, charged, orderlyAfter, ownedAfter, yielded⟩ := orderlyMiddle.chargeCurrent (woken.owned owned)
  exact ⟨middle, after, loop, woken, by rw [schedulerTick, loop]; exact charged, yielded, orderlyAfter, ownedAfter⟩

theorem enqueueTask_stats (done : enqueueTask sched stask = some after) :
    after.stats = { sched.stats with readyTasks := increment32 sched.stats.readyTasks } := by
  simp only [enqueueTask, Option.map_eq_some_iff] at done
  obtain ⟨linked, joined, rfl⟩ := done
  have kept : linked.stats = sched.stats := by
    split at joined
    · cases joined
      rfl
    · split at joined
      · contradiction
      · cases joined
        rfl
  rw [Sched.modifyStats, kept]

theorem dequeueTask_stats (sched : Sched) (stask : Slot) :
    (dequeueTask sched stask).stats = { sched.stats with readyTasks := decrement sched.stats.readyTasks } := by
  simp only [dequeueTask, Sched.modifyStats]
  split
  · split <;> rfl
  · split <;> rfl

/-- The entry that `scheduler_add_task` fills in. -/
def newTask (task process : Option Nat) (priority : SchedPriority) : SchedTask where
  task
  process
  priority
  state := .ready
  timeSlice := schedTimeSlice
  totalCpuTime := 0
  wakeTime := 0
  waitData := none
  next := none
  prev := none

theorem Orderly.modifyStats (orderly : Orderly sched queued) (count : SchedStats → SchedStats) :
    Orderly (sched.modifyStats count) queued :=
  ⟨orderly.arranged.modifyStats count, orderly.complete, orderly.awake⟩

/-- An entry that becomes READY joins its queue. -/
theorem Orderly.enqueue (orderly : Orderly sched queued) (asleep : ¬ Awake (sched.taskPool stask))
    (ready : (change (sched.taskPool stask)).state = .ready) :
    ∃ after, enqueueTask (sched.modifyTask stask change) stask = some after ∧
      SameTasks (sched.modifyTask stask change) after ∧ Orderly after (fun slot => queued slot ∨ slot = stask) ∧
      after.stats = { sched.stats with readyTasks := increment32 sched.stats.readyTasks } := by
  have fresh : ¬ queued stask := fun isQueued => asleep (orderly.awake stask isQueued)
  obtain ⟨after, done, same, arranged⟩ := (orderly.arranged.modifyUnqueued fresh change).enqueueTask fresh
  have counted := enqueueTask_stats done
  refine ⟨after, done, same, ⟨arranged, ?_, ?_⟩, counted⟩
  · intro slot runnable
    by_cases isStask : slot = stask
    · exact Or.inr isStask
    · have was := (same.runnable slot).mp runnable
      rw [Sched.modifyTask_other _ _ isStask] at was
      exact Or.inl (orderly.complete slot was)
  · intro slot either
    refine (same.awake slot).mpr ?_
    by_cases isStask : slot = stask
    · subst isStask
      rw [Sched.modifyTask_same]
      exact Or.inl ready
    · rw [Sched.modifyTask_other _ _ isStask]
      exact orderly.awake slot (either.resolve_right isStask)

/-- `scheduler_add_task` refuses the task or fills a free slot and queues it. -/
theorem Orderly.addTask (orderly : Orderly sched queued) (task process : Option Nat) (priority : SchedPriority) :
    (schedulerAddTask sched task process priority = some (-1, sched) ∧
      (sched.initialized = false ∨ task = none ∨ findFreeSlot sched = none)) ∨
    ∃ stask after, findFreeSlot sched = some stask ∧ task ≠ none ∧ sched.initialized = true ∧
      schedulerAddTask sched task process priority = some (0, after) ∧
      SameTasks (sched.modifyTask stask fun _ => newTask task process priority) after ∧
      Orderly after (fun slot => queued slot ∨ slot = stask) ∧
      after.stats = { sched.stats with
        readyTasks := increment32 sched.stats.readyTasks, totalTasks := increment32 sched.stats.totalTasks } := by
  unfold schedulerAddTask
  by_cases refused : !sched.initialized ∨ task = none
  · rw [if_pos refused]
    exact Or.inl ⟨rfl, by simpa [or_assoc] using Or.inl refused⟩
  · rw [if_neg refused]
    obtain ⟨ready, present⟩ := not_or.mp refused
    cases free : findFreeSlot sched with
    | none => exact Or.inl ⟨rfl, Or.inr (Or.inr rfl)⟩
    | some stask =>
        have isFree := findFreeSlot_spec free
        have asleep : ¬ Awake (sched.taskPool stask) := by simp [Awake, isFree.2]
        let change : SchedTask → SchedTask := fun _ => newTask task process priority
        have becomes : (change (sched.taskPool stask)).state = .ready := rfl
        obtain ⟨linked, done, same, orderlyLinked, counted⟩ := orderly.enqueue asleep becomes
        have queues : enqueueTask (sched.modifyTask stask fun _ =>
            { task, process, priority, state := .ready, timeSlice := schedTimeSlice,
              totalCpuTime := 0, wakeTime := 0, waitData := none, next := none, prev := none }) stask = some linked := done
        simp only [queues, Option.map_some]
        refine Or.inr ⟨stask, _, rfl, present, by simpa using ready, rfl, same.trans (.modifyStats linked _),
          orderlyLinked.modifyStats _, ?_⟩
        rw [Sched.modifyStats, counted]

theorem schedulerRemoveTask_sameTasks {task : Option Nat} (found : findSchedTask sched task = some stask) :
    SameTasks (sched.modifyTask stask fun entry => { entry with task := none, state := .terminated })
      (schedulerRemoveTask sched task) := by
  rw [schedulerRemoveTask_found found]
  exact ((dequeueTask_sameTasks sched stask).modifyTask stask _ fun _ => rfl).trans (.modifyStats _ _)

theorem schedulerRemoveTask_stats {task : Option Nat} (found : findSchedTask sched task = some stask) :
    (schedulerRemoveTask sched task).stats = { sched.stats with
      readyTasks := decrement sched.stats.readyTasks, totalTasks := decrement sched.stats.totalTasks } := by
  rw [schedulerRemoveTask_found found]
  change { (dequeueTask sched stask).stats with totalTasks := decrement (dequeueTask sched stask).stats.totalTasks } = _
  rw [dequeueTask_stats]

theorem Orderly.removeTask {task : Option Nat} (orderly : Orderly sched queued)
    (found : findSchedTask sched task = some stask) (unlinks : queued stask ∨ DequeueHarmless sched queued stask) :
    Orderly (schedulerRemoveTask sched task) fun slot => queued slot ∧ slot ≠ stask := by
  have same := schedulerRemoveTask_sameTasks found
  have others (slot : Slot) (different : slot ≠ stask) :
      ((schedulerRemoveTask sched task).taskPool slot).unlinked = (sched.taskPool slot).unlinked := by
    rw [same.tasks, Sched.modifyTask_other _ _ different]
  refine ⟨?_, ?_, ?_⟩
  · refine (orderly.arranged.dequeueTask_iff.mpr unlinks).transfer (schedulerRemoveTask_links found)
      (schedulerRemoveTask_runQueues found) ?_
    intro slot isQueued
    rw [same.priority, Sched.modifyTask_other _ _ isQueued.2, (dequeueTask_sameTasks sched stask).priority]
  · intro slot runnable
    have different : slot ≠ stask := by
      intro isStask
      have vacant := same.task slot
      rw [isStask, Sched.modifyTask_same] at vacant
      exact (isStask ▸ runnable.1) vacant
    rw [Runnable, unlinked_task (others slot different), unlinked_state (others slot different)] at runnable
    exact ⟨orderly.complete slot runnable, different⟩
  · intro slot isQueued
    rw [Awake, unlinked_state (others slot isQueued.2)]
    exact orderly.awake slot isQueued.1

/-- Waking an entry that is BLOCKED queues it. -/
theorem Orderly.wake {task : Option Nat} (orderly : Orderly sched queued) (found : findSchedTask sched task = some stask)
    (blocked : (sched.taskPool stask).state = .blocked) :
    ∃ after, schedulerWake sched task = some after ∧
      SameTasks (sched.modifyTask stask fun entry => { entry with state := .ready, waitData := none }) after ∧
      Orderly after (fun slot => queued slot ∨ slot = stask) ∧
      after.stats = { sched.stats with
        readyTasks := increment32 sched.stats.readyTasks, blockedTasks := decrement sched.stats.blockedTasks } := by
  let change : SchedTask → SchedTask := fun entry => { entry with state := .ready, waitData := none }
  have asleep : ¬ Awake (sched.taskPool stask) := by simp [Awake, blocked]
  have ready : (change (sched.taskPool stask)).state = .ready := rfl
  obtain ⟨linked, done, same, orderlyLinked, counted⟩ := orderly.enqueue asleep ready
  refine ⟨_, ?_, same.trans (.modifyStats linked fun stats =>
    { stats with blockedTasks := decrement stats.blockedTasks }), orderlyLinked.modifyStats _, ?_⟩
  · simp only [schedulerWake, found, blocked, ne_eq, not_true_eq_false, if_false]
    exact congrArg _ done
  · rw [Sched.modifyStats, counted]

theorem reprioritised_yielded {priority : SchedPriority}
    (same : SameTasks (sched.modifyTask stask fun entry => { entry with priority }) after) : Yielded sched after := by
  refine Yielded.of_fields same.ticks same.current ?_
  intro slot
  rw [same.task, same.state, same.wakeTime]
  by_cases isStask : slot = stask
  · subst isStask
    rw [Sched.modifyTask_same]
    exact ⟨rfl, rfl, rfl⟩
  · rw [Sched.modifyTask_other _ _ isStask]
    exact ⟨rfl, rfl, rfl⟩

/-- A new priority: a READY entry moves to its queue, another one that is queued must already be there. -/
theorem Orderly.setPriority {task : Option Nat} {priority : SchedPriority} (orderly : Orderly sched queued)
    (found : findSchedTask sched task = some stask)
    (sameQueue : (sched.taskPool stask).state = .running → queueOf (sched.taskPool stask).priority = queueOf priority) :
    ∃ after, schedulerSetPriority sched task priority = some after ∧
      SameTasks (sched.modifyTask stask fun entry => { entry with priority }) after ∧ Orderly after queued ∧
      after.stats = { sched.stats with
        readyTasks :=
          if (sched.taskPool stask).state = .ready then increment32 (decrement sched.stats.readyTasks)
          else sched.stats.readyTasks } := by
  obtain ⟨held, present⟩ := findSchedTask_spec found
  by_cases ready : (sched.taskPool stask).state = .ready
  · have member : queued stask := orderly.complete stask ⟨held ▸ present, Or.inl ready⟩
    have fresh : ¬ (queued stask ∧ stask ≠ stask) := fun both => both.2 rfl
    have same := dequeueTask_sameTasks sched stask
    obtain ⟨after, done, kept, arranged⟩ := ((orderly.arranged.dequeueTask member).modifyUnqueued fresh fun entry =>
      { entry with priority }).enqueueTask fresh
    have edited : SameTasks (sched.modifyTask stask fun entry => { entry with priority }) after :=
      (same.modifyTask stask (fun entry => { entry with priority }) fun _ => rfl).trans kept
    have counted := enqueueTask_stats done
    refine ⟨after, ?_, edited, orderly.transfer (reprioritised_yielded edited) (arranged.congr ?_), ?_⟩
    · simpa [schedulerSetPriority, found, ready, same.state] using done
    · intro slot
      by_cases isStask : slot = stask
      · simp [isStask, member]
      · simp [isStask]
    · rw [if_pos ready, counted]
      change { (dequeueTask sched stask).stats with
        readyTasks := increment32 (dequeueTask sched stask).stats.readyTasks } = _
      rw [dequeueTask_stats]
  · have edited := SameTasks.refl (sched.modifyTask stask fun entry => { entry with priority })
    refine ⟨_, by simp [schedulerSetPriority, found, ready], edited,
      orderly.transfer (reprioritised_yielded edited) ?_, by rw [if_neg ready]; rfl⟩
    obtain ⟨queues, threaded, holds⟩ := orderly.arranged
    refine ⟨queues, threaded.congr (Sched.modifyTask_links sched _ stask (fun _ => rfl) (fun _ => rfl)) rfl, ?_⟩
    intro queue slot
    rw [holds]
    refine and_congr_right fun isQueued => ?_
    by_cases isStask : slot = stask
    · subst isStask
      have running := (orderly.awake slot isQueued).resolve_left ready
      rw [Sched.modifyTask_same, sameQueue running]
    · rw [Sched.modifyTask_other _ _ isStask]

end AutismOS.Scheduler
