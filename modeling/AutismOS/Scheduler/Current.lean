import AutismOS.Scheduler.Invariant

namespace AutismOS.Scheduler

open AutismOS.Library

variable {sched before middle after : Sched} {slot stask current : Slot}
variable {call : SchedCall} {calls : List SchedCall}

/-! The current task over whole runs. -/

/-- At most one entry is RUNNING, and it is the current one. -/
structure Exclusive (sched : Sched) : Prop where
  unique : ∀ left right, (sched.taskPool left).state = .running →
    (sched.taskPool right).state = .running → left = right
  current : ∀ slot, (sched.taskPool slot).state = .running → sched.current = some slot

theorem Exclusive.of_current
    (current : ∀ slot, (sched.taskPool slot).state = .running → sched.current = some slot) :
    Exclusive sched := by
  refine ⟨fun left right atLeft atRight => ?_, current⟩
  exact Option.some.inj ((current left atLeft).symm.trans (current right atRight))

/-- No entry of `after` is RUNNING unless it was, and the current task is the same. -/
theorem Exclusive.transfer (exclusive : Exclusive before) (selected : after.current = before.current)
    (states : ∀ slot, (after.taskPool slot).state = .running →
      (before.taskPool slot).state = .running) : Exclusive after :=
  .of_current fun slot running => selected.trans (exclusive.current slot (states slot running))

theorem Exclusive.modifyTask (exclusive : Exclusive sched) (slot : Slot)
    (change : SchedTask → SchedTask)
    (states : (change (sched.taskPool slot)).state = .running →
      (sched.taskPool slot).state = .running) : Exclusive (sched.modifyTask slot change) := by
  apply exclusive.transfer (Sched.modifyTask_current sched change)
  intro other running
  by_cases isSlot : other = slot
  · subst isSlot
    rw [Sched.modifyTask_same] at running
    exact states running
  · rwa [Sched.modifyTask_other _ _ isSlot] at running

theorem SchedCall.stopsAs_ne_running {state : SchedState} (stops : call.stopsAs = some state) :
    state ≠ .running := by
  cases call <;> simp [SchedCall.stopsAs] at stops <;> subst stops <;> decide

theorem Edit.exclusive (edit : Edit sched call after) (exclusive : Exclusive sched) :
    Exclusive after := by
  cases edit with
  | unchanged => exact exclusive
  | admitted => exact exclusive.modifyTask _ _ (by simp)
  | released => exact exclusive.modifyTask _ _ (by simp)
  | stopped change _ stops stopped =>
      apply exclusive.modifyTask
      rw [stopped]
      intro running
      exact absurd running (SchedCall.stopsAs_ne_running stops)
  | woken => exact exclusive.modifyTask _ _ (by simp)
  | @ticked middle woken =>
      have awake : Exclusive middle := by
        apply exclusive.transfer woken.current
        intro slot running
        rw [woken.state] at running
        split at running
        · contradiction
        · exact running
      split
      · exact awake
      · exact awake.modifyTask _ _ id
  | reprioritised => exact exclusive.modifyTask _ _ id

/-- A switch demotes the old current task when it was RUNNING; by exclusion no
other entry was. -/
theorem Switched.exclusive {next : Slot} (switched : Switched before current next after)
    (selected : before.current = some current) (exclusive : Exclusive before) : Exclusive after := by
  apply Exclusive.of_current
  intro slot running
  rw [switched.selected]
  by_cases isNext : slot = next
  · rw [isNext]
  · by_cases isCurrent : slot = current
    · subst isCurrent
      rw [switched.state_current] at running
      split at running
      · contradiction
      · contradiction
    · rw [switched.state_other isCurrent isNext] at running
      have same := exclusive.current slot running
      rw [selected] at same
      exact absurd (Option.some.inj same).symm isCurrent

theorem schedulerYield_exclusive (exclusive : Exclusive sched)
    (done : schedulerYield sched = some after) : Exclusive after := by
  rcases schedulerYield_cases done with ⟨same, _⟩ | ⟨current, next, _, selected, _, _, switched⟩
  · exact same ▸ exclusive
  · exact switched.exclusive selected exclusive

/-- A call that returns keeps the exclusion, whatever the queues contain. -/
theorem schedStep_exclusive (exclusive : Exclusive before)
    (done : schedStep before call = some after) : Exclusive after := by
  obtain ⟨edited, moved, edit, same, outcome⟩ := schedStep_cases done
  have kept : Exclusive moved := by
    apply (edit.exclusive exclusive).transfer same.current
    intro slot running
    rwa [same.state] at running
  rcases outcome with unchanged | yielded
  · exact unchanged ▸ kept
  · exact schedulerYield_exclusive kept yielded

theorem run_exclusive (exclusive : Exclusive before)
    (run : Run (Stepping schedStep) before calls after) : Exclusive after :=
  run.invariant Exclusive (fun _ _ _ => schedStep_exclusive) exclusive

theorem pairSched_exclusive : Exclusive pairSched := by
  apply Exclusive.of_current
  intro slot running
  by_cases first : slot = 0
  · subst first
    rfl
  · by_cases second : slot = 1
    · subst second
      exact absurd running (by decide)
    · simp [pairSched, first, second, clearedTask] at running

theorem run_exclusive_pair :
    ∃ after, Run (Stepping schedStep) pairSched [.block none] after ∧ Exclusive after := by
  have returns : (schedStep pairSched (.block none)).isSome := by decide
  obtain ⟨after, done⟩ := Option.isSome_iff_exists.mp returns
  exact ⟨after, .single done, run_exclusive pairSched_exclusive (.single done)⟩

/-- The calls that leave a current task that can run: the current task is not
removed, and it stops only when another task can take over. -/
def KeepsCurrent (sched : Sched) : SchedCall → Prop
  | .removeTask task => ∀ stask, findSchedTask sched task = some stask → sched.current ≠ some stask
  | .block _ | .exit => sched.current = none ∨ SuccessorReady sched
  | .sleep ms => sched.current = none ∨ ms = 0 ∨ SuccessorReady sched
  | _ => True

/-- A task that stays current is still the task that its entry held before. -/
def SameOccupant (before after : Sched) : Prop :=
  ∀ slot, before.current = some slot → after.current = some slot →
    (after.taskPool slot).task = (before.taskPool slot).task

theorem Settled.currentRuns (settled : Settled sched) (held : CurrentHeld sched) : CurrentRuns sched :=
  fun slot selected => ⟨held slot selected, settled.current slot selected⟩

theorem Retires.currentRuns {outcome : Option Sched} (retires : Retires sched outcome)
    (settled : Settled sched) (held : CurrentHeld sched)
    (ready : sched.current = none ∨ SuccessorReady sched)
    (idle : sched.current = none → outcome = some sched) :
    ∃ after, outcome = some after ∧ Settled after ∧ CurrentHeld after := by
  cases selected : sched.current with
  | none => exact ⟨sched, idle selected, settled, held⟩
  | some current =>
      obtain ⟨change, count, stops, rfl⟩ := retires current selected
      obtain ⟨after, done, arranged, runs⟩ := retire_spec stops settled selected
        (Or.inl (settled.current_runnable held selected))
      have running := runs (ready.resolve_left (by simp [selected]))
      exact ⟨after, done, ⟨arranged, running.running⟩, running.held⟩

/-- One allowed call returns, with sound queues and a current task that can run. -/
theorem schedStep_settled (settled : Settled sched) (held : CurrentHeld sched)
    (queues : KeepsQueues sched call) (current : KeepsCurrent sched call) :
    ∃ after, schedStep sched call = some after ∧ Settled after ∧ CurrentHeld after := by
  cases call with
  | addTask task process priority =>
      obtain ⟨result, after, done, settledAfter, heldAfter⟩ :=
        schedulerAddTask_spec settled task process priority
      exact ⟨after, by simp [schedStep, done], settledAfter, heldAfter held⟩
  | removeTask task =>
      cases found : findSchedTask sched task with
      | none => exact ⟨sched, by simp [schedStep, schedulerRemoveTask, found], settled, held⟩
      | some stask =>
          obtain ⟨exactly, kept⟩ := schedulerRemoveTask_spec settled found
          obtain ⟨running, heldAfter⟩ := kept (current stask found)
          exact ⟨_, rfl, ⟨exactly.mpr (queues stask found), running⟩, heldAfter held⟩
  | yield =>
      obtain ⟨after, done, settledAfter, heldAfter⟩ := schedulerYield_spec settled queues
      exact ⟨after, done, settledAfter, heldAfter held⟩
  | block reason =>
      exact (schedulerBlock_retires sched reason).currentRuns settled held current fun idle => by
        simp [schedulerBlock, idle]
  | wake task =>
      obtain ⟨after, done, settledAfter, heldAfter⟩ := schedulerWake_spec settled task
      exact ⟨after, done, settledAfter, heldAfter held⟩
  | sleep ms =>
      by_cases zero : ms = 0
      · refine ⟨sched, ?_, settled, held⟩
        cases selected : sched.current <;> simp [schedStep, schedulerSleep, selected, zero]
      · exact (schedulerSleep_retires sched zero).currentRuns settled held
          (current.imp_right fun ready => ready.resolve_left zero) fun idle => by
            simp [schedulerSleep, idle]
  | tick =>
      obtain ⟨after, done, settledAfter, heldAfter⟩ := schedulerTick_spec settled queues
      exact ⟨after, done, settledAfter, heldAfter held⟩
  | setPriority task priority =>
      cases found : findSchedTask sched task with
      | none => exact ⟨sched, by simp [schedStep, schedulerSetPriority, found], settled, held⟩
      | some stask =>
          obtain ⟨after, done, exactly, running, heldAfter⟩ :=
            schedulerSetPriority_spec settled found priority
          exact ⟨after, done, ⟨exactly.mpr (queues stask found), running⟩, heldAfter held⟩
  | exit =>
      exact (schedulerExit_retires sched).currentRuns settled held current fun idle => by
        simp [schedulerExit, idle]

/-- An edit changes which task an entry holds only for a free or a removed entry. -/
theorem Edit.task (edit : Edit sched call after) (present : (sched.taskPool slot).task ≠ none)
    (kept : ∀ task, call = .removeTask task → findSchedTask sched task ≠ some slot) :
    (after.taskPool slot).task = (sched.taskPool slot).task := by
  have modified (other : Slot) (change : SchedTask → SchedTask)
      (same : slot = other → (change (sched.taskPool other)).task = (sched.taskPool other).task) :
      ((sched.modifyTask other change).taskPool slot).task = (sched.taskPool slot).task := by
    by_cases isOther : slot = other
    · subst isOther
      rw [Sched.modifyTask_same, same rfl]
    · rw [Sched.modifyTask_other _ _ isOther]
  cases edit with
  | unchanged => rfl
  | @admitted stask _ _ _ _ free =>
      apply modified
      intro isFree
      exact absurd (isFree ▸ (findFreeSlot_spec free).1) present
  | @released stask task found =>
      apply modified
      intro isRemoved
      exact absurd (isRemoved ▸ found) (kept task rfl)
  | stopped change _ _ _ keepsTask => exact modified _ _ fun _ => keepsTask _
  | woken => exact modified _ _ fun _ => rfl
  | @ticked middle woken =>
      split
      · exact woken.task slot
      · rw [modifyTask_chargeTick]
        split <;> exact woken.task slot
  | reprioritised => exact modified _ _ fun _ => rfl

theorem schedStep_sameOccupant (held : CurrentHeld sched) (current : KeepsCurrent sched call)
    (done : schedStep sched call = some after) : SameOccupant sched after := by
  intro slot selected _
  obtain ⟨edited, moved, edit, same, outcome⟩ := schedStep_cases done
  have kept : (moved.taskPool slot).task = (sched.taskPool slot).task := by
    rw [same.task]
    apply edit.task (held slot selected)
    intro task isRemove found
    subst isRemove
    exact current slot found selected
  rcases outcome with rfl | yielded
  · exact kept
  · rcases schedulerYield_cases yielded with ⟨rfl, _⟩ | ⟨_, _, _, _, _, _, switched⟩
    · exact kept
    · rw [switched.task]
      exact kept

/-- The calls of a run that keeps a runnable current task. -/
def KeepsRunning (sched : Sched) (call : SchedCall) : Prop :=
  KeepsQueues sched call ∧ KeepsCurrent sched call

theorem run_settled (settled : Settled before) (held : CurrentHeld before)
    (run : Run (Guarded KeepsRunning (Stepping schedStep)) before calls after) :
    Settled after ∧ CurrentHeld after := by
  have preserved (sched : Sched) (call : SchedCall) (result : Sched)
      (both : Settled sched ∧ CurrentHeld sched)
      (step : Guarded KeepsRunning (Stepping schedStep) sched call result) :
      Settled result ∧ CurrentHeld result := by
    obtain ⟨⟨queues, current⟩, done⟩ := step
    obtain ⟨same, returned, kept⟩ := schedStep_settled both.1 both.2 queues current
    have equal : same = result := Option.some.inj (returned.symm.trans done)
    exact equal ▸ kept
  exact run.invariant (fun sched => Settled sched ∧ CurrentHeld sched) preserved ⟨settled, held⟩

/-- In every run of such calls, every state has a current task that can run, and
the next such call returns with one, the same task if it stays current. -/
theorem run_current_runs (queues : QueuesWellFormed before) (priorities : PrioritiesInRange before)
    (runs : CurrentRuns before)
    (run : Run (Guarded KeepsRunning (Stepping schedStep)) before calls middle) :
    CurrentRuns middle ∧ ∀ call, KeepsRunning middle call →
      ∃ after, schedStep middle call = some after ∧ CurrentRuns after ∧ SameOccupant middle after := by
  have formed : WellFormed before := ⟨queues, runs.running, priorities⟩
  obtain ⟨settled, held⟩ := run_settled formed.settled runs.held run
  refine ⟨settled.currentRuns held, fun call allowed => ?_⟩
  obtain ⟨after, done, settledAfter, heldAfter⟩ := schedStep_settled settled held allowed.1 allowed.2
  exact ⟨after, done, settledAfter.currentRuns heldAfter, schedStep_sameOccupant held allowed.2 done⟩

theorem pairSched_currentRuns : CurrentRuns pairSched := by
  intro slot selected
  have isFirst : (0 : Slot) = slot := Option.some.inj selected
  subst isFirst
  decide

theorem pairSched_keepsBlock_running : KeepsRunning pairSched (.block none) := by
  refine ⟨fun current selected => ?_, Or.inr ⟨rfl, 1, by decide, by decide, by decide⟩⟩
  obtain rfl : (0 : Slot) = current := Option.some.inj selected
  exact Or.inl (Or.inl ⟨by decide, by decide⟩)

/-- The running task blocks, the other one takes over, and the first one is woken. -/
theorem run_current_runs_pair :
    ∃ middle, Run (Guarded KeepsRunning (Stepping schedStep)) pairSched [.block none, .wake (some 0x1000)] middle ∧
      middle.current = some 1 ∧ CurrentRuns middle ∧ ∀ call, KeepsRunning middle call →
        ∃ after, schedStep middle call = some after ∧ CurrentRuns after ∧ SameOccupant middle after := by
  obtain ⟨blocked, blocking, settled, held⟩ := schedStep_settled pairSched_wellFormed.settled
    pairSched_currentRuns.held pairSched_keepsBlock_running.1 pairSched_keepsBlock_running.2
  have wakes : KeepsRunning blocked (.wake (some 0x1000)) := ⟨trivial, trivial⟩
  obtain ⟨middle, waking, _⟩ := schedStep_settled settled held wakes.1 wakes.2
  have run : Run (Guarded KeepsRunning (Stepping schedStep)) pairSched [.block none, .wake (some 0x1000)] middle :=
    .cons ⟨pairSched_keepsBlock_running, blocking⟩ (.single ⟨wakes, waking⟩)
  have seen : ((schedStep pairSched (.block none)).bind fun state => schedStep state (.wake (some 0x1000))).map
      (fun state => state.current) = some (some 1) := by decide +kernel
  rw [blocking, Option.bind_some, waking] at seen
  exact ⟨middle, run, Option.some.inj seen,
    run_current_runs pairSched_wellFormed.queues pairSched_wellFormed.priorities pairSched_currentRuns run⟩

/-- Removing the running task leaves its freed slot as the current task. -/
theorem remove_current_leaves_terminated :
    WellFormed pairSched ∧ CurrentRuns pairSched ∧
      ∃ after, schedStep pairSched (.removeTask (some 0x1000)) = some after ∧ ¬ CurrentRuns after := by
  refine ⟨pairSched_wellFormed, pairSched_currentRuns, _, rfl, fun runs => ?_⟩
  exact (runs 0 (by decide)).1 (by decide)

end AutismOS.Scheduler
