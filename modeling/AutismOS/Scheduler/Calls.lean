import AutismOS.Scheduler.Dequeue

namespace AutismOS.Scheduler

open AutismOS.Library

variable {sched before after : Sched} {slot other stask current next : Slot}
variable {queued : Slot → Prop} {slots : List Slot}

/-! The calls on a settled state, one specification each. -/

/-- `dequeue_task` takes the slot off its queue, if it is on one, and damages no queue. -/
def UnlinksCleanly (sched : Sched) (stask : Slot) : Prop :=
  Runnable (sched.taskPool stask) ∨
    DequeueHarmless sched (fun slot => Runnable (sched.taskPool slot)) stask

theorem schedulerAddTask_spec (settled : Settled sched) (task process : Option Nat) (priority : SchedPriority) :
    ∃ result after, schedulerAddTask sched task process priority = some (result, after) ∧
      Settled after ∧ (CurrentHeld sched → CurrentHeld after) := by
  unfold schedulerAddTask
  by_cases refused : !sched.initialized ∨ task = none
  · rw [if_pos refused]
    exact ⟨-1, sched, rfl, settled, id⟩
  · rw [if_neg refused]
    cases free : findFreeSlot sched with
    | none => exact ⟨-1, sched, rfl, settled, id⟩
    | some stask =>
        obtain ⟨vacant, terminated⟩ := findFreeSlot_spec free
        have fresh : ¬ Runnable (sched.taskPool stask) := fun runnable => runnable.1 vacant
        obtain ⟨after, done, same, appended⟩ :=
          (settled.arranged.modifyUnqueued fresh fun _ =>
            { task, process, priority, state := .ready, timeSlice := schedTimeSlice,
              totalCpuTime := 0, wakeTime := 0, waitData := none, next := none,
              prev := none }).enqueueTask fresh
        have notCurrent (slot : Slot) (selected : after.current = some slot) :
            sched.current = some slot ∧ slot ≠ stask := by
          have wasSelected : sched.current = some slot := same.current.symm.trans selected
          refine ⟨wasSelected, fun isNew => ?_⟩
          have running := settled.current slot wasSelected
          rw [isNew, terminated] at running
          contradiction
        simp only [done, Option.map_some]
        refine ⟨0, _, rfl, ⟨(appended.modifyStats _).congr ?_, ?_⟩, ?_⟩
        · intro slot
          by_cases isNew : slot = stask
          · subst isNew
            have occupied : task ≠ none := fun absent => refused (Or.inr absent)
            simp [Runnable, same.task, same.state, occupied]
          · simp [Runnable, same.task, same.state, Sched.modifyTask_other _ _ isNew, isNew]
        · intro slot selected
          obtain ⟨wasSelected, isOld⟩ := notCurrent slot selected
          simpa [same.state, Sched.modifyTask_other _ _ isOld] using settled.current slot wasSelected
        · intro held slot selected
          obtain ⟨wasSelected, isOld⟩ := notCurrent slot selected
          simpa [same.task, Sched.modifyTask_other _ _ isOld] using held slot wasSelected

theorem schedulerWake_spec (settled : Settled sched) (task : Option Nat) :
    ∃ after, schedulerWake sched task = some after ∧ Settled after ∧
      (CurrentHeld sched → CurrentHeld after) := by
  unfold schedulerWake
  cases found : findSchedTask sched task with
  | none => exact ⟨sched, rfl, settled, id⟩
  | some stask =>
      by_cases blocked : (sched.taskPool stask).state = .blocked
      · simp only [blocked, ne_eq, not_true_eq_false, if_false]
        obtain ⟨holds, occupied⟩ := findSchedTask_spec found
        have fresh : ¬ Runnable (sched.taskPool stask) := fun runnable => by
          simp [Runnable, blocked] at runnable
        obtain ⟨after, done, same, appended⟩ :=
          (settled.arranged.modifyUnqueued fresh fun entry =>
            { entry with state := .ready, waitData := none }).enqueueTask fresh
        simp only [done, Option.map_some]
        refine ⟨_, rfl, ⟨(appended.modifyStats _).congr ?_, ?_⟩, ?_⟩
        · intro slot
          by_cases isWoken : slot = stask
          · subst isWoken
            simp [Runnable, same.task, same.state, holds, occupied]
          · simp [Runnable, same.task, same.state, Sched.modifyTask_other _ _ isWoken, isWoken]
        · intro slot selected
          have wasRunning := settled.current slot (same.current.symm.trans selected)
          have isOther : slot ≠ stask := fun isWoken => by
            rw [isWoken, blocked] at wasRunning
            contradiction
          simpa [same.state, Sched.modifyTask_other _ _ isOther] using wasRunning
        · intro held slot selected
          have kept : (after.taskPool slot).task = (sched.taskPool slot).task := by
            rw [same.task]
            by_cases isWoken : slot = stask
            · subst isWoken; simp
            · rw [Sched.modifyTask_other _ _ isWoken]
          rw [Sched.modifyStats_taskPool, kept]
          exact held slot (same.current.symm.trans selected)
      · simp only [ne_eq, blocked, not_false_eq_true, if_true]
        exact ⟨sched, rfl, settled, id⟩

/-- A switch changes no entry's claim to a place on a queue. -/
theorem Switched.runnable (switched : Switched before current next after)
    (chosen : Runnable (before.taskPool next)) (slot : Slot) :
    Runnable (after.taskPool slot) ↔ Runnable (before.taskPool slot) := by
  by_cases isNext : slot = next
  · subst isNext
    simp [Runnable, switched.task, switched.state_next, chosen.1, chosen.2]
  · by_cases isCurrent : slot = current
    · subst isCurrent
      by_cases running : (before.taskPool slot).state = .running <;>
        simp [Runnable, switched.task, switched.state_current, running]
    · simp [Runnable, switched.task, switched.state_other isCurrent isNext]

/-- When the queues hold the runnable entries, `scheduler_yield` returns and they
still do; when it switches, the new current task runs. -/
theorem schedulerYield_outcome
    (arranged : Arranged sched (fun slot => Runnable (sched.taskPool slot)))
    (owned : ∀ current, sched.current = some current →
      (sched.taskPool current).state = .running → (sched.taskPool current).task ≠ none) :
    ∃ after, schedulerYield sched = some after ∧
      Arranged after (fun slot => Runnable (after.taskPool slot)) ∧
      (after = sched ∧ NothingToSwitchTo sched ∨ CurrentRuns after) := by
  obtain ⟨after, done, kept⟩ := arranged.schedulerYield fun current running isRunning =>
    ⟨owned current running isRunning, Or.inr isRunning⟩
  refine ⟨after, done, ?_⟩
  rcases schedulerYield_cases done with ⟨unchanged, nothing⟩ | ⟨current, next, _, _, chosen, _, switched⟩
  · subst unchanged
    exact ⟨arranged, Or.inl ⟨rfl, nothing⟩⟩
  · obtain ⟨queue, head, _⟩ := findNextTask_eq_some chosen
    have runnable := arranged.head_queued head
    refine ⟨kept.congr (switched.runnable runnable), Or.inr ?_⟩
    intro slot selected
    have isNext : next = slot := Option.some.inj (switched.selected.symm.trans selected)
    subst isNext
    exact ⟨by rw [switched.task]; exact runnable.1, switched.state_next⟩

theorem schedulerYield_of_nothing (nothing : NothingToSwitchTo sched) :
    schedulerYield sched = some sched := by
  unfold schedulerYield
  cases initialized : sched.initialized with
  | false => rfl
  | true =>
      rcases nothing with off | idle | nobody | self
      · simp [initialized] at off
      · simp [idle]
      · cases selected : sched.current <;> simp [nobody]
      · cases selected : sched.current with
        | none => simp
        | some current => simp [self, selected]

/-- A RUNNING current entry that `scheduler_yield` may put back on a queue. -/
def MayRequeue (sched : Sched) : Prop :=
  CurrentHeld sched ∨ sched.initialized = false ∨ ∀ slot, ¬ Runnable (sched.taskPool slot)

theorem nothing_of_nobody
    (arranged : Arranged sched (fun slot => Runnable (sched.taskPool slot)))
    (nobody : ∀ slot, ¬ Runnable (sched.taskPool slot)) : findNextTask sched = none := by
  cases chosen : findNextTask sched with
  | none => rfl
  | some next =>
      obtain ⟨queue, head, _⟩ := findNextTask_eq_some chosen
      exact absurd (arranged.head_queued head) (nobody next)

theorem schedulerYield_spec (settled : Settled sched) (allowed : MayRequeue sched) :
    ∃ after, schedulerYield sched = some after ∧ Settled after ∧
      (CurrentHeld sched → CurrentHeld after) := by
  rcases allowed with held | off | nobody
  · obtain ⟨after, done, arranged, outcome⟩ := schedulerYield_outcome settled.arranged
      fun current selected _ => held current selected
    refine ⟨after, done, ?_⟩
    rcases outcome with ⟨unchanged, _⟩ | runs
    · subst unchanged
      exact ⟨settled, id⟩
    · exact ⟨⟨arranged, runs.running⟩, fun _ => runs.held⟩
  · exact ⟨sched, schedulerYield_of_nothing (Or.inl off), settled, id⟩
  · have nothing := nothing_of_nobody settled.arranged nobody
    exact ⟨sched, schedulerYield_of_nothing (Or.inr (Or.inr (Or.inl nothing))), settled, id⟩

/-- Another task is ready to take over from the current one. -/
def SuccessorReady (sched : Sched) : Prop :=
  sched.initialized = true ∧
    ∃ slot, sched.current ≠ some slot ∧ Runnable (sched.taskPool slot)

/-- A rewriting of the current entry that takes it out of the running, as block,
sleep and exit do. -/
structure Stops (change : SchedTask → SchedTask) : Prop where
  next : ∀ entry, (change entry).next = entry.next
  prev : ∀ entry, (change entry).prev = entry.prev
  priority : ∀ entry, (change entry).priority = entry.priority
  state : ∀ entry, (change entry).state ≠ .ready ∧ (change entry).state ≠ .running

/-- The common part of block, sleep and exit before they yield: the current task
stops and is taken off its queue. -/
def retire (sched : Sched) (current : Slot) (change : SchedTask → SchedTask)
    (count : SchedStats → SchedStats) : Sched :=
  (dequeueTask (sched.modifyTask current change) current).modifyStats count

section Retire

variable {change : SchedTask → SchedTask} {count : SchedStats → SchedStats}

theorem retire_sameTasks : SameTasks (sched.modifyTask current change) (retire sched current change count) :=
  (dequeueTask_sameTasks (sched.modifyTask current change) current).trans (.modifyStats _ count)

theorem retire_links (stops : Stops change) :
    (retire sched current change count).links = sched.links.unlink current := by
  rw [retire, Sched.modifyStats_links, dequeueTask_links,
    Sched.modifyTask_links sched change current stops.next stops.prev]

theorem retire_runQueues (stops : Stops change) :
    (retire sched current change count).runQueues =
      Function.update sched.runQueues (queueOf (sched.taskPool current).priority)
        (sched.links.unlinkHead (sched.runQueues (queueOf (sched.taskPool current).priority)) current) := by
  rw [retire, Sched.modifyStats_runQueues, dequeueTask_runQueues,
    Sched.modifyTask_links sched change current stops.next stops.prev, Sched.modifyTask_same,
    stops.priority, Sched.modifyTask_runQueues]

theorem retire_priority (stops : Stops change) (slot : Slot) :
    ((retire sched current change count).taskPool slot).priority = (sched.taskPool slot).priority := by
  rw [retire_sameTasks.priority]
  by_cases isCurrent : slot = current
  · subst isCurrent
    rw [Sched.modifyTask_same, stops.priority]
  · rw [Sched.modifyTask_other _ _ isCurrent]

theorem retire_runnable (stops : Stops change) (slot : Slot) :
    Runnable ((retire sched current change count).taskPool slot) ↔
      Runnable (sched.taskPool slot) ∧ slot ≠ current := by
  have same : SameTasks (sched.modifyTask current change) (retire sched current change count) :=
    retire_sameTasks
  by_cases isCurrent : slot = current
  · subst isCurrent
    simp [Runnable, same.task, same.state, stops.state]
  · simp [Runnable, same.task, same.state, Sched.modifyTask_other _ _ isCurrent, isCurrent]

theorem retire_stopped (stops : Stops change) :
    ((retire sched current change count).taskPool current).state ≠ .running := by
  rw [retire_sameTasks.state, Sched.modifyTask_same]
  exact (stops.state _).2

theorem retire_arranged (stops : Stops change)
    (arranged : Arranged sched (fun slot => Runnable (sched.taskPool slot))) :
    Arranged (retire sched current change count)
        (fun slot => Runnable (sched.taskPool slot) ∧ slot ≠ current) ↔
      UnlinksCleanly sched current := by
  have stopped := arranged.modifyTask current change stops.next stops.prev fun _ => stops.priority
  have harmless : DequeueHarmless (sched.modifyTask current change)
        (fun slot => Runnable (sched.taskPool slot)) current ↔
      DequeueHarmless sched (fun slot => Runnable (sched.taskPool slot)) current := by
    unfold DequeueHarmless
    rw [Sched.modifyTask_links sched change current stops.next stops.prev, Sched.modifyTask_same,
      stops.priority, Sched.modifyTask_runQueues]
  rw [UnlinksCleanly, ← harmless, ← stopped.dequeueTask_iff]
  constructor
  · intro kept
    exact kept.transfer rfl rfl fun _ _ => rfl
  · intro kept
    exact kept.modifyStats count

/-- Only a ready successor gives the scheduler a running task again. -/
theorem retire_spec (stops : Stops change) (settled : Settled sched)
    (selected : sched.current = some current) (unlinks : UnlinksCleanly sched current) :
    ∃ after, schedulerYield (retire sched current change count) = some after ∧
      Arranged after (fun slot => Runnable (after.taskPool slot)) ∧
      (SuccessorReady sched → CurrentRuns after) := by
  have dequeued : Arranged (retire sched current change count)
      (fun slot => Runnable (sched.taskPool slot) ∧ slot ≠ current) :=
    (retire_arranged stops settled.arranged).mpr unlinks
  have isCurrent (slot : Slot) (still : (retire sched current change count).current = some slot) :
      current = slot :=
    Option.some.inj (selected.symm.trans (retire_sameTasks.current.symm.trans still))
  obtain ⟨after, done, arranged, outcome⟩ := schedulerYield_outcome
    (dequeued.congr (retire_runnable stops)) fun slot still isRunning =>
      absurd (isCurrent slot still ▸ isRunning) (retire_stopped stops)
  refine ⟨after, done, arranged, ?_⟩
  rintro ⟨initialized, slot, notCurrent, ready⟩
  rcases outcome with ⟨_, nothing⟩ | runs
  · have different : slot ≠ current := fun isCurrent => notCurrent (by rw [selected, isCurrent])
    have waiting := dequeued.queue_nonempty ⟨ready, different⟩
    rcases nothing with off | idle | nobody | self
    · exact absurd (retire_sameTasks.initialized.symm.trans off) (by simp [initialized])
    · exact absurd (retire_sameTasks.current.symm.trans idle) (by simp [selected])
    · exact absurd (findNextTask_eq_none.mp nobody _) waiting
    · have chosen : findNextTask (retire sched current change count) = some current :=
        self.trans (retire_sameTasks.current.trans selected)
      obtain ⟨queue, head, _⟩ := findNextTask_eq_some chosen
      exact absurd rfl (dequeued.head_queued head).2
  · exact runs

end Retire

/-- How `scheduler_block` rewrites the current entry. -/
def blockTask (reason : Option Nat) (entry : SchedTask) : SchedTask :=
  { entry with state := .blocked, waitData := reason }

/-- How `scheduler_sleep` rewrites the current entry. -/
def sleepTask (wakeTime : Nat) (entry : SchedTask) : SchedTask :=
  { entry with state := .sleeping, wakeTime }

/-- How `scheduler_exit` rewrites the current entry. -/
def exitTask (entry : SchedTask) : SchedTask := { entry with state := .zombie }

theorem blockTask_stops (reason : Option Nat) : Stops (blockTask reason) :=
  ⟨fun _ => rfl, fun _ => rfl, fun _ => rfl, fun _ => by simp [blockTask]⟩

theorem sleepTask_stops (wakeTime : Nat) : Stops (sleepTask wakeTime) :=
  ⟨fun _ => rfl, fun _ => rfl, fun _ => rfl, fun _ => by simp [sleepTask]⟩

theorem exitTask_stops : Stops exitTask :=
  ⟨fun _ => rfl, fun _ => rfl, fun _ => rfl, fun _ => by simp [exitTask]⟩

/-- A call that stops the current task: it retires it with some rewriting and yields. -/
def Retires (sched : Sched) (outcome : Option Sched) : Prop :=
  ∀ current, sched.current = some current →
    ∃ change count, Stops change ∧ outcome = schedulerYield (retire sched current change count)

theorem schedulerBlock_eq (selected : sched.current = some current) (reason : Option Nat) :
    schedulerBlock sched reason = schedulerYield (retire sched current (blockTask reason) fun stats =>
      { stats with blockedTasks := increment32 stats.blockedTasks }) := by
  simp only [schedulerBlock, selected]
  rfl

theorem schedulerSleep_eq {ms : Nat} (selected : sched.current = some current) (positive : ms ≠ 0) :
    schedulerSleep sched ms = schedulerYield (retire sched current (sleepTask ((sched.ticks + schedulerMsToTicks
      (if ms > schedMaxSleepMs then schedMaxSleepMs else ms)) % 2 ^ 64 % 2 ^ 32)) id) := by
  simp only [schedulerSleep, selected, positive, if_false]
  rfl

theorem schedulerExit_eq (selected : sched.current = some current) :
    schedulerExit sched = schedulerYield (retire sched current exitTask fun stats =>
      { stats with totalTasks := decrement stats.totalTasks }) := by
  simp only [schedulerExit, selected]
  rfl

theorem schedulerBlock_retires (sched : Sched) (reason : Option Nat) :
    Retires sched (schedulerBlock sched reason) := by
  intro current selected
  exact ⟨_, _, blockTask_stops reason, schedulerBlock_eq selected reason⟩

theorem schedulerSleep_retires (sched : Sched) {ms : Nat} (positive : ms ≠ 0) :
    Retires sched (schedulerSleep sched ms) := by
  intro current selected
  exact ⟨_, _, sleepTask_stops _, schedulerSleep_eq selected positive⟩

theorem schedulerExit_retires (sched : Sched) : Retires sched (schedulerExit sched) := by
  intro current selected
  exact ⟨_, _, exitTask_stops, schedulerExit_eq selected⟩

end AutismOS.Scheduler
