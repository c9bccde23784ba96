import AutismOS.Library.Run
import AutismOS.Scheduler.Vacant

namespace AutismOS.Scheduler

open AutismOS.Library

variable {sched before after : Sched} {slot other stask current : Slot} {queued : Slot → Prop}

/-! # Which calls keep the run queues

`scheduler_remove_task` takes its entry off a queue whatever its state, and
`scheduler_set_priority` moves an entry to its new queue only when it is READY.
Both assume something about the entry that a well formed state does not promise.
-/

theorem schedulerRemoveTask_found {task : Option Nat} (found : findSchedTask sched task = some stask) :
    schedulerRemoveTask sched task =
      ((dequeueTask sched stask).modifyTask stask fun entry =>
        { entry with task := none, state := .terminated }).modifyStats fun stats =>
          { stats with totalTasks := decrement stats.totalTasks } := by
  simp only [schedulerRemoveTask, found]

theorem schedulerRemoveTask_links {task : Option Nat} (found : findSchedTask sched task = some stask) :
    (schedulerRemoveTask sched task).links = (dequeueTask sched stask).links := by
  rw [schedulerRemoveTask_found found, Sched.modifyStats_links]
  exact Sched.modifyTask_links _ _ stask (fun _ => rfl) (fun _ => rfl)

theorem schedulerRemoveTask_runQueues {task : Option Nat} (found : findSchedTask sched task = some stask) :
    (schedulerRemoveTask sched task).runQueues = (dequeueTask sched stask).runQueues := by
  rw [schedulerRemoveTask_found found]
  rfl

theorem schedulerRemoveTask_spec (settled : Settled sched) {task : Option Nat}
    (found : findSchedTask sched task = some stask) :
    (Arranged (schedulerRemoveTask sched task)
        (fun slot => Runnable ((schedulerRemoveTask sched task).taskPool slot)) ↔
      UnlinksCleanly sched stask) ∧
    (sched.current ≠ some stask → CurrentRunning (schedulerRemoveTask sched task) ∧
      (CurrentHeld sched → CurrentHeld (schedulerRemoveTask sched task))) := by
  have same := dequeueTask_sameTasks sched stask
  have links := schedulerRemoveTask_links found
  have heads := schedulerRemoveTask_runQueues found
  have removed := schedulerRemoveTask_found found
  generalize schedulerRemoveTask sched task = after at removed links heads ⊢
  have vacated : (after.taskPool stask).task = none := by simp [removed]
  have others (slot : Slot) (different : slot ≠ stask) :
      (after.taskPool slot).task = (sched.taskPool slot).task ∧
        (after.taskPool slot).state = (sched.taskPool slot).state := by
    rw [removed, Sched.modifyStats_taskPool, Sched.modifyTask_other _ _ different, same.task, same.state]
    exact ⟨rfl, rfl⟩
  have priorities (slot : Slot) : (after.taskPool slot).priority =
      ((dequeueTask sched stask).taskPool slot).priority := by
    by_cases isStask : slot = stask
    · subst isStask
      simp [removed]
    · simp [removed, Sched.modifyTask_other _ _ isStask]
  have runnable (slot : Slot) : Runnable (after.taskPool slot) ↔
      Runnable (sched.taskPool slot) ∧ slot ≠ stask := by
    by_cases isStask : slot = stask
    · simp [Runnable, isStask, vacated]
    · simp [Runnable, others slot isStask, isStask]
  refine ⟨?_, fun notCurrent => ?_⟩
  · rw [UnlinksCleanly, ← settled.arranged.dequeueTask_iff]
    constructor
    · intro arranged
      refine (arranged.transfer links.symm heads.symm fun slot _ => (priorities slot).symm).congr ?_
      exact fun slot => (runnable slot).symm
    · intro arranged
      exact (arranged.transfer links heads fun slot _ => priorities slot).congr runnable
  · refine settled.current.kept fun slot selected => ?_
    have wasSelected : sched.current = some slot := by
      rw [← selected, removed]
      exact same.current.symm
    exact ⟨wasSelected, others slot fun equal => notCurrent (equal ▸ wasSelected)⟩

theorem schedulerSetPriority_spec (settled : Settled sched) {task : Option Nat}
    (found : findSchedTask sched task = some stask) (priority : SchedPriority) :
    ∃ after, schedulerSetPriority sched task priority = some after ∧
      (Arranged after (fun slot => Runnable (after.taskPool slot)) ↔
        ((sched.taskPool stask).state = .running →
          queueOf (sched.taskPool stask).priority = queueOf priority)) ∧
      CurrentRunning after ∧ (CurrentHeld sched → CurrentHeld after) := by
  have occupied : (sched.taskPool stask).task ≠ none := by
    obtain ⟨holds, present⟩ := findSchedTask_spec found
    rwa [holds]
  by_cases ready : (sched.taskPool stask).state = .ready
  · -- READY: the entry leaves its old queue and joins the new one.
    have same := dequeueTask_sameTasks sched stask
    have dequeued := settled.arranged.dequeueTask ⟨occupied, Or.inl ready⟩
    have fresh : ¬ (Runnable (sched.taskPool stask) ∧ stask ≠ stask) := fun both => both.2 rfl
    obtain ⟨after, done, kept, appended⟩ :=
      (dequeued.modifyUnqueued fresh fun entry => { entry with priority }).enqueueTask fresh
    have fields (slot : Slot) : (after.taskPool slot).task = (sched.taskPool slot).task ∧
        (after.taskPool slot).state = (sched.taskPool slot).state := by
      rw [kept.task, kept.state]
      by_cases isStask : slot = stask
      · subst isStask; simp [same.task, same.state]
      · simp [Sched.modifyTask_other _ _ isStask, same.task, same.state]
    refine ⟨after, ?_, ?_, settled.current.kept fun slot selected => ⟨?_, fields slot⟩⟩
    · simpa [schedulerSetPriority, found, ready, same.state] using done
    · simp only [ready, reduceCtorEq, false_implies, iff_true]
      refine appended.congr fun slot => ?_
      by_cases isStask : slot = stask
      · subst isStask
        simp [Runnable, fields, occupied, ready]
      · simp [Runnable, fields, isStask]
    · exact same.current.symm.trans (kept.current.symm.trans selected)
  · -- Any other state: the links stay, only the field changes.
    let after := sched.modifyTask stask fun entry => { entry with priority }
    have fields (slot : Slot) : (after.taskPool slot).task = (sched.taskPool slot).task ∧
        (after.taskPool slot).state = (sched.taskPool slot).state := by
      by_cases isStask : slot = stask
      · subst isStask; simp [after]
      · simp [after, Sched.modifyTask_other _ _ isStask]
    have links : after.links = sched.links :=
      Sched.modifyTask_links sched _ stask (fun _ => rfl) (fun _ => rfl)
    have runnable (slot : Slot) : Runnable (after.taskPool slot) ↔ Runnable (sched.taskPool slot) := by
      simp [Runnable, fields]
    refine ⟨after, by simp [schedulerSetPriority, found, ready, after], ⟨?_, ?_⟩,
      settled.current.kept fun slot selected => ⟨selected, fields slot⟩⟩
    · intro arranged running
      -- The entry is still linked in the queue of its old priority.
      obtain ⟨queues, threaded, holds⟩ := settled.arranged
      obtain ⟨queues', threaded', holds'⟩ := arranged
      let queue := queueOf (sched.taskPool stask).priority
      have listed : stask ∈ queues queue := (holds queue stask).mpr ⟨⟨occupied, Or.inr running⟩, rfl⟩
      have threads' := threaded'.threads queue
      rw [links] at threads'
      have same : queues queue = queues' queue :=
        Links.Stretch.unique (threaded.threads queue) threads'
      have moved := ((holds' queue stask).mp (same ▸ listed)).2
      simpa [after] using moved.symm
    · intro allowed
      obtain ⟨queues, threaded, holds⟩ := settled.arranged
      refine ⟨queues, threaded.congr links rfl, fun queue slot => ?_⟩
      simp only [holds, runnable]
      refine and_congr_right fun isRunnable => ?_
      by_cases isStask : slot = stask
      · subst isStask
        have running := isRunnable.2.resolve_left ready
        simp [after, allowed running]
      · simp [after, Sched.modifyTask_other _ _ isStask]

/-- The calls that keep the run queues.  A removed task is queued, or unlinking it
rewrites nothing; a RUNNING task keeps its queue; a woken sleeper holds a task; a
current entry is not put back on a queue, or taken off one, while it holds no
task, unless there is nothing to damage. -/
def KeepsQueues (sched : Sched) : SchedCall → Prop
  | .addTask _ _ _ => True
  | .removeTask task => ∀ stask, findSchedTask sched task = some stask → UnlinksCleanly sched stask
  | .yield => MayRequeue sched
  | .wake _ => True
  | .tick => TickAllowed sched
  | .setPriority task priority => ∀ stask, findSchedTask sched task = some stask →
      (sched.taskPool stask).state = .running →
        queueOf (sched.taskPool stask).priority = queueOf priority
  | .block _ | .exit => ∀ current, sched.current = some current →
      UnlinksCleanly sched current ∨ Adopts sched current
  | .sleep ms => ms ≠ 0 → ∀ current, sched.current = some current →
      UnlinksCleanly sched current ∨ Adopts sched current

/-- The outcome of a call that leaves every runnable entry, and no other, on the
queue of its priority. -/
def ArrangedOutcome (outcome : Option Sched) : Prop :=
  ∃ after, outcome = some after ∧ Arranged after (fun slot => Runnable (after.taskPool slot))

theorem vacant_of_not_held (held : ¬ CurrentHeld sched) :
    ∃ current, sched.current = some current ∧ (sched.taskPool current).task = none := by
  simpa [CurrentHeld] using held

theorem schedulerYield_arranged_iff (settled : Settled sched) :
    ArrangedOutcome (schedulerYield sched) ↔ MayRequeue sched := by
  constructor
  · rintro ⟨after, done, arranged⟩
    by_cases held : CurrentHeld sched
    · exact Or.inl held
    · obtain ⟨current, selected, vacant⟩ := vacant_of_not_held held
      have absent : ¬ Runnable (sched.taskPool current) := fun runnable => runnable.1 vacant
      exact Or.inr (schedulerYield_vacant settled.arranged selected absent
        (settled.current current selected) vacant done arranged).2
  · intro allowed
    obtain ⟨after, done, settledAfter, _⟩ := schedulerYield_spec settled allowed
    exact ⟨after, done, settledAfter.arranged⟩

theorem Retires.arranged_iff {outcome : Option Sched} (retires : Retires sched outcome)
    (settled : Settled sched) (idle : sched.current = none → outcome = some sched) :
    ArrangedOutcome outcome ↔ ∀ current, sched.current = some current →
      UnlinksCleanly sched current ∨ Adopts sched current := by
  cases selected : sched.current with
  | none =>
      simp only [reduceCtorEq, false_implies, implies_true, iff_true]
      exact ⟨sched, idle selected, settled.arranged⟩
  | some current =>
      simp only [Option.some.injEq, forall_eq']
      exact retires.keeps_iff settled selected

/-- Charging the current task when it is queued or not RUNNING. -/
theorem chargeCurrent_arranged (arranged : Arranged sched queued)
    (owned : ∀ current, sched.current = some current →
      (sched.taskPool current).state = .running → queued current)
    (done : chargeCurrent sched = some after) :
    Arranged after queued ∧ ∀ slot, (after.taskPool slot).task = (sched.taskPool slot).task := by
  cases selected : sched.current with
  | none =>
      simp only [chargeCurrent, selected, Option.some.injEq] at done
      subst done
      exact ⟨arranged, fun _ => rfl⟩
  | some current =>
      rw [chargeCurrent_eq sched selected] at done
      have charged := arranged.modifyTask current chargeTick (fun _ => rfl) (fun _ => rfl)
        (fun _ _ => rfl)
      have task (slot : Slot) : ((sched.modifyTask current chargeTick).taskPool slot).task =
          (sched.taskPool slot).task := by
        rw [modifyTask_chargeTick]
        split <;> rfl
      split at done
      · obtain ⟨yielded, returned, arrangedAfter⟩ := charged.schedulerYield fun slot still isRunning =>
          owned slot still (by rw [modifyTask_chargeTick] at isRunning; split at isRunning <;> exact isRunning)
        rw [returned] at done
        cases done
        refine ⟨arrangedAfter, fun slot => ?_⟩
        rcases schedulerYield_cases returned with ⟨same, _⟩ | ⟨_, _, _, _, _, _, switched⟩
        · subst same
          exact task slot
        · rw [switched.task]
          exact task slot
      · cases done
        exact ⟨charged, task⟩

theorem schedulerTick_arranged_iff (settled : Settled sched) :
    ArrangedOutcome (schedulerTick sched) ↔ TickAllowed sched := by
  constructor
  · rintro ⟨after, done, arrangedAfter⟩
    obtain ⟨middle, loop, woken, arranged⟩ := settled.wakeLoop
    have charged : chargeCurrent middle = some after := by
      rw [← done]
      simp [schedulerTick, loop]
    by_cases held : CurrentHeld sched
    · obtain ⟨kept, task⟩ := chargeCurrent_arranged arranged (fun current selected _ => Or.inl
        (settled.current_runnable held (woken.current.symm.trans selected))) charged
      refine ⟨fun slot due vacant => ?_, fun _ => Or.inl held⟩
      have runnable := kept.unique arrangedAfter (Or.inr due)
      refine runnable.1 ?_
      rw [task, woken.task]
      exact vacant
    · -- A vacant current entry: the charge has only lowered its time slice.
      obtain ⟨current, selected, vacant⟩ := vacant_of_not_held held
      have still : middle.current = some current := woken.current.trans selected
      have running := settled.current current selected
      have absent : ¬ (Runnable (sched.taskPool current) ∨ SleeperDue (advanceTicks sched) current) := by
        rintro (runnable | due)
        · exact runnable.1 vacant
        · have asleep : (sched.taskPool current).state = .sleeping := due.1
          simp [running] at asleep
      have chargedArranged := arranged.modifyTask current chargeTick (fun _ => rfl) (fun _ => rfl)
        (fun _ _ => rfl)
      have quiet : after = middle.modifyTask current chargeTick ∧
          (SliceEnds sched → sched.initialized = false ∨ ∀ slot,
            ¬ (Runnable (sched.taskPool slot) ∨ SleeperDue (advanceTicks sched) slot)) := by
        rw [chargeCurrent_eq middle still] at charged
        by_cases ends : (middle.taskPool current).timeSlice ≤ 1
        · rw [if_pos ends] at charged
          have runs : ((middle.modifyTask current chargeTick).taskPool current).state = .running := by
            rw [Sched.modifyTask_same]
            exact woken.currentRunning settled.current current still
          have empty : ((middle.modifyTask current chargeTick).taskPool current).task = none := by
            rw [Sched.modifyTask_same]
            exact (woken.task current).trans vacant
          obtain ⟨same, nobody⟩ :=
            schedulerYield_vacant chargedArranged still absent runs empty charged arrangedAfter
          exact ⟨same, fun _ => nobody.imp_left woken.initialized.symm.trans⟩
        · rw [if_neg ends] at charged
          refine ⟨(Option.some.inj charged).symm, ?_⟩
          rintro ⟨slot, isCurrent, short⟩
          have same : slot = current := Option.some.inj (isCurrent.symm.trans selected)
          rw [woken.timeSlice] at ends
          exact absurd (same ▸ short) ends
      obtain ⟨rfl, nobody⟩ := quiet
      refine ⟨fun slot due absentTask => ?_, fun ends => Or.inr ((nobody ends).imp_right fun none slot => ?_)⟩
      · have runnable := chargedArranged.unique arrangedAfter (Or.inr due)
        rw [runnable_chargeTick] at runnable
        refine runnable.1 ?_
        rw [woken.task]
        exact absentTask
      · exact not_or.mp (none slot)
  · intro allowed
    obtain ⟨after, done, settledAfter, _⟩ := schedulerTick_spec settled allowed
    exact ⟨after, done, settledAfter.arranged⟩

/-- From a settled state, a call returns and leaves every runnable entry on the
queue of its priority exactly when `KeepsQueues` allows it. -/
theorem schedStep_arranged_iff (settled : Settled sched) (call : SchedCall) :
    ArrangedOutcome (schedStep sched call) ↔ KeepsQueues sched call := by
  cases call with
  | addTask task process priority =>
      obtain ⟨result, after, done, settledAfter, _⟩ := schedulerAddTask_spec settled task process priority
      simp only [KeepsQueues, iff_true]
      exact ⟨after, by simp [schedStep, done], settledAfter.arranged⟩
  | removeTask task =>
      simp only [ArrangedOutcome, schedStep, Option.some.injEq, exists_eq_left', KeepsQueues]
      cases found : findSchedTask sched task with
      | none => simpa [schedulerRemoveTask, found] using settled.arranged
      | some stask => simpa using (schedulerRemoveTask_spec settled found).1
  | yield => exact schedulerYield_arranged_iff settled
  | block reason =>
      exact (schedulerBlock_retires sched reason).arranged_iff settled fun idle => by
        simp [schedulerBlock, idle]
  | wake task =>
      obtain ⟨after, done, settledAfter, _⟩ := schedulerWake_spec settled task
      simp only [KeepsQueues, iff_true]
      exact ⟨after, done, settledAfter.arranged⟩
  | sleep ms =>
      by_cases zero : ms = 0
      · simp only [KeepsQueues, zero, ne_eq, not_true_eq_false, false_implies, iff_true]
        refine ⟨sched, ?_, settled.arranged⟩
        cases selected : sched.current <;> simp [schedStep, schedulerSleep, selected]
      · simp only [KeepsQueues, ne_eq, zero, not_false_eq_true, true_implies]
        exact (schedulerSleep_retires sched zero).arranged_iff settled fun idle => by
          simp [schedulerSleep, idle]
  | tick => exact schedulerTick_arranged_iff settled
  | setPriority task priority =>
      simp only [schedStep, KeepsQueues]
      cases found : findSchedTask sched task with
      | none =>
          simp only [reduceCtorEq, false_implies, implies_true, iff_true]
          exact ⟨sched, by simp [schedulerSetPriority, found], settled.arranged⟩
      | some stask =>
          obtain ⟨after, done, exactly, _⟩ := schedulerSetPriority_spec settled found priority
          simpa [ArrangedOutcome, done] using exactly
  | exit =>
      exact (schedulerExit_retires sched).arranged_iff settled fun idle => by
        simp [schedulerExit, idle]

/-- The priority that a call passes, if any, is a priority level. -/
def SchedCall.PriorityInRange : SchedCall → Prop
  | .addTask _ _ priority => priority < schedPriorityLevels
  | .setPriority _ priority => priority < schedPriorityLevels
  | _ => True

theorem PrioritiesInRange.modifyTask (inRange : PrioritiesInRange sched) (slot : Slot)
    (change : SchedTask → SchedTask)
    (bounded : (change (sched.taskPool slot)).priority < schedPriorityLevels) :
    PrioritiesInRange (sched.modifyTask slot change) := by
  intro other
  by_cases isSlot : other = slot
  · subst isSlot
    rwa [Sched.modifyTask_same]
  · rw [Sched.modifyTask_other _ _ isSlot]
    exact inRange other

theorem Edit.priorities {call : SchedCall} (edit : Edit sched call after)
    (inRange : PrioritiesInRange sched) (bounded : call.PriorityInRange) : PrioritiesInRange after := by
  cases edit with
  | unchanged => exact inRange
  | admitted => exact inRange.modifyTask _ _ bounded
  | released => exact inRange.modifyTask _ _ (inRange _)
  | stopped change _ _ _ _ keeps =>
      refine inRange.modifyTask _ _ ?_
      rw [keeps]
      exact inRange _
  | woken => exact inRange.modifyTask _ _ (inRange _)
  | @ticked middle woken =>
      have awake : PrioritiesInRange middle := fun slot => by
        rw [woken.priority]
        exact inRange slot
      split
      · exact awake
      · exact awake.modifyTask _ _ (awake _)
  | reprioritised => exact inRange.modifyTask _ _ bounded

theorem schedStep_priorities {call : SchedCall} (inRange : PrioritiesInRange sched)
    (bounded : call.PriorityInRange) (done : schedStep sched call = some after) :
    PrioritiesInRange after := by
  obtain ⟨edited, moved, edit, same, outcome⟩ := schedStep_cases done
  have movedInRange : PrioritiesInRange moved := fun slot => by
    rw [same.priority]
    exact edit.priorities inRange bounded slot
  rcases outcome with rfl | yielded
  · exact movedInRange
  · rcases schedulerYield_cases yielded with ⟨rfl, _⟩ | ⟨_, _, _, _, _, _, switched⟩
    · exact movedInRange
    · intro slot
      rw [switched.priority]
      exact movedInRange slot

/-- A ready entry on the queue of normal priority. -/
def normalTask (task : Nat) (next prev : Option Slot) : SchedTask where
  task := some task
  process := none
  priority := ⟨4, by decide⟩
  state := .ready
  timeSlice := 1
  totalCpuTime := 0
  wakeTime := 0
  waitData := none
  next := next
  prev := prev

/-- Two tasks share the queue of normal priority and the first one is running,
with one tick of its time slice left. -/
def pairSched : Sched where
  current := some 0
  runQueues := fun queue => if queue = schedPriorityNormal then some 0 else none
  taskPool := fun slot =>
    if slot = 0 then { normalTask 0x1000 (some 1) none with state := .running }
    else if slot = 1 then normalTask 0x2000 none (some 0)
    else clearedTask
  stats :=
    { totalTasks := 2, runningTasks := 0, readyTasks := 2, blockedTasks := 0,
      contextSwitches := 1, timerTicks := 9 }
  ticks := 9
  initialized := true

theorem pairSched_wellFormed : WellFormed pairSched := by
  refine ⟨fun queue => ?_, ?_, ?_⟩
  · by_cases normal : queue = 4
    · subst normal
      refine ⟨[0, 1], ?_, by decide, fun slot => ?_⟩
      · simp [Links.Threads, Sched.links, pairSched, schedPriorityNormal, normalTask]
      · by_cases first : slot = 0
        · subst first
          simp [Runnable, pairSched, normalTask]
        · by_cases second : slot = 1
          · subst second
            simp [Runnable, pairSched, normalTask]
          · simp [Runnable, pairSched, clearedTask, first, second]
    · refine ⟨[], by simp [pairSched, schedPriorityNormal, normal], by simp, fun slot => ?_⟩
      have notFour : (4 : Nat) ≠ queue.val := fun same => normal (Fin.ext same.symm)
      by_cases first : slot = 0
      · subst first
        simp [pairSched, normalTask, notFour]
      · by_cases second : slot = 1
        · subst second
          simp [pairSched, normalTask, notFour]
        · simp [Runnable, pairSched, clearedTask, first, second]
  · intro slot selected
    have isFirst : (0 : Slot) = slot := Option.some.inj selected
    subst isFirst
    rfl
  · intro slot
    by_cases first : slot = 0
    · subst first
      decide
    · by_cases second : slot = 1
      · subst second
        decide
      · simp [pairSched, clearedTask, first, second, schedPriorityLevels]

/-- From a well formed state, a call returns and leaves well formed run queues
exactly when `KeepsQueues` allows it. -/
theorem schedStep_keeps_queues_iff (formed : WellFormed sched) {call : SchedCall}
    (bounded : call.PriorityInRange) :
    (∃ after, schedStep sched call = some after ∧ QueuesWellFormed after) ↔ KeepsQueues sched call := by
  rw [← schedStep_arranged_iff formed.settled call]
  refine exists_congr fun after => and_congr_right fun done => ?_
  exact queuesWellFormed_iff_arranged (schedStep_priorities formed.priorities bounded done)

/-- Raising the priority of the running task leaves it on the queue of its old priority. -/
theorem setPriority_running_breaks_queues :
    WellFormed pairSched ∧ SchedCall.PriorityInRange (.setPriority (some 0x1000) 6) ∧
      ¬ ∃ after, schedStep pairSched (.setPriority (some 0x1000) 6) = some after ∧
        QueuesWellFormed after := by
  have bounded : SchedCall.PriorityInRange (.setPriority (some 0x1000) 6) := by
    simp [SchedCall.PriorityInRange, schedPriorityLevels]
  refine ⟨pairSched_wellFormed, bounded, ?_⟩
  rintro ⟨after, done, queues⟩
  have inRange := schedStep_priorities pairSched_wellFormed.priorities bounded done
  have arranged := (queuesWellFormed_iff_arranged inRange).mp queues
  have allowed := (schedStep_arranged_iff pairSched_wellFormed.settled _).mp ⟨after, done, arranged⟩
  exact absurd (allowed 0 (by decide) (by decide)) (by decide)

theorem schedStep_keeps_queues_at_pair :
    (∃ after, schedStep pairSched (.setPriority (some 0x2000) 6) = some after ∧
        QueuesWellFormed after) ↔
      KeepsQueues pairSched (.setPriority (some 0x2000) 6) :=
  schedStep_keeps_queues_iff pairSched_wellFormed
    (by simp [SchedCall.PriorityInRange, schedPriorityLevels])

end AutismOS.Scheduler
