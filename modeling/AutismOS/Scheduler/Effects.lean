import AutismOS.Scheduler.Queues

namespace AutismOS.Scheduler

open AutismOS.Library

variable {sched before after : Sched} {slot other stask current next : Slot}
variable {slots : List Slot} {call : SchedCall}

/-! # What the calls do to tasks

Everything here holds whatever the run queues contain: it follows the fields of
the pool entries and the current task, and leaves the link fields out.
-/

/-- Queueing changes links, one head and a counter, whatever the queues contain. -/
theorem enqueueTask_sameTasks (done : enqueueTask sched stask = some after) : SameTasks sched after := by
  have cleared : SameTasks sched ((sched.setNext stask none).setPrev stask none) :=
    .trans (.setNext _ _ _) (.setPrev _ _ _)
  simp only [enqueueTask, Option.map_eq_some_iff] at done
  obtain ⟨linked, found, rfl⟩ := done
  refine .trans ?_ (.modifyStats _ _)
  split at found
  · cases found
    exact cleared.trans (.setQueue _ _ _)
  · split at found
    · contradiction
    · cases found
      exact cleared.trans (.trans (.setNext _ _ _) (.setPrev _ _ _))

/-- The effect of a switch from `current` to `next` on everything but links and counters. -/
structure Switched (before : Sched) (current next : Slot) (after : Sched) : Prop where
  selected : after.current = some next
  initialized : after.initialized = before.initialized
  ticks : after.ticks = before.ticks
  dispatched : (after.taskPool next).unlinked =
    { before.taskPool next with state := .running, timeSlice := schedTimeSlice }.unlinked
  preempted : (after.taskPool current).unlinked =
    if (before.taskPool current).state = .running then
      { before.taskPool current with state := .ready }.unlinked
    else (before.taskPool current).unlinked
  others : ∀ slot, slot ≠ current → slot ≠ next →
    (after.taskPool slot).unlinked = (before.taskPool slot).unlinked

namespace Switched

theorem task (switched : Switched before current next after) (slot : Slot) :
    (after.taskPool slot).task = (before.taskPool slot).task := by
  by_cases isNext : slot = next
  · subst isNext
    simpa only [SchedTask.unlinked] using congrArg SchedTask.task switched.dispatched
  · by_cases isCurrent : slot = current
    · subst isCurrent
      have preempted := congrArg SchedTask.task switched.preempted
      split at preempted <;> simpa only [SchedTask.unlinked] using preempted
    · simpa only [SchedTask.unlinked] using congrArg SchedTask.task (switched.others slot isCurrent isNext)

theorem priority (switched : Switched before current next after) (slot : Slot) :
    (after.taskPool slot).priority = (before.taskPool slot).priority := by
  by_cases isNext : slot = next
  · subst isNext
    simpa only [SchedTask.unlinked] using congrArg SchedTask.priority switched.dispatched
  · by_cases isCurrent : slot = current
    · subst isCurrent
      have preempted := congrArg SchedTask.priority switched.preempted
      split at preempted <;> simpa only [SchedTask.unlinked] using preempted
    · simpa only [SchedTask.unlinked] using
        congrArg SchedTask.priority (switched.others slot isCurrent isNext)

theorem state_next (switched : Switched before current next after) :
    (after.taskPool next).state = .running := by
  simpa only [SchedTask.unlinked] using congrArg SchedTask.state switched.dispatched

theorem state_current (switched : Switched before current next after) :
    (after.taskPool current).state =
      if (before.taskPool current).state = .running then .ready else (before.taskPool current).state := by
  have preempted := congrArg SchedTask.state switched.preempted
  split at preempted <;> rename_i was <;> simpa only [SchedTask.unlinked, was, if_true, if_false] using preempted

theorem state_other (switched : Switched before current next after) (notCurrent : slot ≠ current)
    (notNext : slot ≠ next) : (after.taskPool slot).state = (before.taskPool slot).state := by
  simpa only [SchedTask.unlinked] using congrArg SchedTask.state (switched.others slot notCurrent notNext)

end Switched

/-- Why `scheduler_yield` may leave everything as it is. -/
def NothingToSwitchTo (sched : Sched) : Prop :=
  sched.initialized = false ∨ sched.current = none ∨ findNextTask sched = none ∨
    findNextTask sched = sched.current

/-- Moving a RUNNING current task to the end of its queue makes it READY and
touches no other entry. -/
theorem requeue_cases
    (moved : (if (sched.taskPool current).state = .running then
        Scheduler.enqueueTask (dequeueTask
          (sched.modifyTask current fun entry => { entry with state := .ready }) current) current
      else some sched) = some after) :
    after.initialized = sched.initialized ∧ after.ticks = sched.ticks ∧
      (after.taskPool current).unlinked =
        (if (sched.taskPool current).state = .running then
          { sched.taskPool current with state := .ready }.unlinked
        else (sched.taskPool current).unlinked) ∧
      ∀ slot, slot ≠ current → (after.taskPool slot).unlinked = (sched.taskPool slot).unlinked := by
  by_cases running : (sched.taskPool current).state = .running
  · simp only [running, if_true] at moved ⊢
    have same := (dequeueTask_sameTasks _ _).trans (enqueueTask_sameTasks moved)
    refine ⟨same.initialized, same.ticks, ?_, fun slot different => ?_⟩
    · rw [same.tasks, Sched.modifyTask_same]
    · rw [same.tasks, Sched.modifyTask_other _ _ different]
  · simp only [running, if_false, Option.some.injEq] at moved ⊢
    subst moved
    exact ⟨rfl, rfl, rfl, fun _ _ => rfl⟩

/-- What `scheduler_yield` does when it finds another task. -/
theorem schedulerYield_switches (ready : sched.initialized = true) (selected : sched.current = some current)
    (chosen : findNextTask sched = some next) (different : next ≠ current) :
    schedulerYield sched =
      (if (sched.taskPool current).state = .running then
        enqueueTask (dequeueTask
          (sched.modifyTask current fun entry => { entry with state := .ready }) current) current
      else some sched).map fun sched => switchTo sched next := by
  simp [schedulerYield, ready, selected, chosen, different]

/-- A call of `scheduler_yield` that returns either changes nothing or switches
to the task that `find_next_task` chose. -/
theorem schedulerYield_cases (done : schedulerYield sched = some after) :
    after = sched ∧ NothingToSwitchTo sched ∨
      ∃ current next, sched.initialized = true ∧ sched.current = some current ∧
        findNextTask sched = some next ∧ next ≠ current ∧ Switched sched current next after := by
  unfold schedulerYield at done
  by_cases ready : sched.initialized = true
  · simp only [ready, Bool.not_true, Bool.false_eq_true, if_false] at done
    cases running : sched.current with
    | none =>
        simp only [running, Option.some.injEq] at done
        exact Or.inl ⟨done.symm, Or.inr (Or.inl running)⟩
    | some current =>
        cases chosen : findNextTask sched with
        | none =>
            simp only [running, chosen, Option.some.injEq] at done
            exact Or.inl ⟨done.symm, Or.inr (Or.inr (Or.inl chosen))⟩
        | some next =>
            simp only [running, chosen] at done
            by_cases same : next = current
            · simp only [same, if_true, Option.some.injEq] at done
              exact Or.inl ⟨done.symm, Or.inr (Or.inr (Or.inr (by rw [chosen, same, running])))⟩
            · simp only [same, if_false, Option.map_eq_some_iff] at done
              obtain ⟨requeued, moved, rfl⟩ := done
              refine Or.inr ⟨current, next, ready, rfl, rfl, same, ?_⟩
              obtain ⟨initialized, ticks, preempted, others⟩ := requeue_cases moved
              refine ⟨rfl, initialized, ticks, ?_, ?_, ?_⟩
              · have kept := others next same
                simp only [SchedTask.unlinked, SchedTask.mk.injEq] at kept
                simp [switchTo, SchedTask.unlinked, kept]
              · have different : current ≠ next := fun equal => same equal.symm
                simp only [switchTo, Sched.modifyStats_taskPool]
                rw [Sched.modifyTask_other _ _ different]
                exact preempted
              · intro slot notCurrent notNext
                simp only [switchTo, Sched.modifyStats_taskPool]
                rw [Sched.modifyTask_other _ _ notNext]
                exact others slot notCurrent
  · simp only [Bool.not_eq_true] at ready
    simp only [ready, Bool.not_false, if_true, Option.some.injEq] at done
    exact Or.inl ⟨done.symm, Or.inl ready⟩

/-- The effect of waking the due sleepers among `slots` on everything but links and counters. -/
structure Woken (before : Sched) (slots : List Slot) (after : Sched) : Prop where
  current : after.current = before.current
  initialized : after.initialized = before.initialized
  ticks : after.ticks = before.ticks
  entries : ∀ slot, (after.taskPool slot).unlinked =
    if slot ∈ slots ∧ SleeperDue before slot then
      { before.taskPool slot with state := .ready, wakeTime := 0 }.unlinked
    else (before.taskPool slot).unlinked

namespace Woken

theorem task (woken : Woken before slots after) (slot : Slot) :
    (after.taskPool slot).task = (before.taskPool slot).task := by
  have entry := congrArg SchedTask.task (woken.entries slot)
  split at entry <;> simpa only [SchedTask.unlinked] using entry

theorem priority (woken : Woken before slots after) (slot : Slot) :
    (after.taskPool slot).priority = (before.taskPool slot).priority := by
  have entry := congrArg SchedTask.priority (woken.entries slot)
  split at entry <;> simpa only [SchedTask.unlinked] using entry

theorem timeSlice (woken : Woken before slots after) (slot : Slot) :
    (after.taskPool slot).timeSlice = (before.taskPool slot).timeSlice := by
  have entry := congrArg SchedTask.timeSlice (woken.entries slot)
  split at entry <;> simpa only [SchedTask.unlinked] using entry

theorem state (woken : Woken before slots after) (slot : Slot) :
    (after.taskPool slot).state =
      if slot ∈ slots ∧ SleeperDue before slot then .ready else (before.taskPool slot).state := by
  have entry := congrArg SchedTask.state (woken.entries slot)
  split at entry <;> rename_i due
  · rw [if_pos due]; simpa only [SchedTask.unlinked] using entry
  · rw [if_neg due]; simpa only [SchedTask.unlinked] using entry

theorem wakeTime_of_not_mem (woken : Woken before slots after) (absent : slot ∉ slots) :
    (after.taskPool slot).wakeTime = (before.taskPool slot).wakeTime := by
  have entry := congrArg SchedTask.wakeTime (woken.entries slot)
  rw [if_neg fun due => absent due.1] at entry
  simpa only [SchedTask.unlinked] using entry

/-- Whether a slot outside the loop's range is due does not change. -/
theorem sleeperDue_of_not_mem (woken : Woken before slots after) (absent : slot ∉ slots) :
    SleeperDue after slot ↔ SleeperDue before slot := by
  unfold SleeperDue
  rw [woken.state, if_neg fun due => absent due.1, woken.wakeTime_of_not_mem absent, woken.ticks]

end Woken

theorem wakeSleeper_woken (done : wakeSleeper sched slot = some after) : Woken sched [slot] after := by
  unfold wakeSleeper at done
  by_cases due : SleeperDue sched slot
  · rw [if_pos due] at done
    have same := enqueueTask_sameTasks done
    refine ⟨same.current, same.initialized, same.ticks, fun other => ?_⟩
    rw [same.tasks]
    by_cases isSlot : other = slot
    · subst isSlot
      simp [due]
    · simp [Sched.modifyTask_other _ _ isSlot, isSlot]
  · rw [if_neg due] at done
    cases done
    refine ⟨rfl, rfl, rfl, fun other => ?_⟩
    by_cases isSlot : other = slot
    · subst isSlot
      simp [due]
    · simp [isSlot]

theorem wakeLoop_woken (nodup : slots.Nodup) (done : slots.foldlM wakeSleeper sched = some after) :
    Woken sched slots after := by
  induction slots generalizing sched with
  | nil =>
      cases done
      exact ⟨rfl, rfl, rfl, fun slot => by simp⟩
  | cons first rest ih =>
      obtain ⟨absent, restNodup⟩ := List.nodup_cons.mp nodup
      rw [List.foldlM_cons] at done
      obtain ⟨middle, one, remaining⟩ := Option.bind_eq_some_iff.mp done
      have wokenFirst := wakeSleeper_woken one
      have wokenRest := ih restNodup remaining
      refine ⟨wokenRest.current.trans wokenFirst.current,
        wokenRest.initialized.trans wokenFirst.initialized,
        wokenRest.ticks.trans wokenFirst.ticks, fun slot => ?_⟩
      by_cases isFirst : slot = first
      · subst isFirst
        rw [wokenRest.entries, if_neg fun due => absent due.1, wokenFirst.entries]
        simp
      · have notFirst : slot ∉ [first] := by simp [isFirst]
        have keptEntry := wokenFirst.entries slot
        rw [if_neg fun due => notFirst due.1] at keptEntry
        simp only [SchedTask.unlinked, SchedTask.mk.injEq] at keptEntry
        rw [wokenRest.entries]
        simp [SchedTask.unlinked, isFirst, keptEntry, wokenFirst.sleeperDue_of_not_mem notFirst]

theorem findFreeSlot_spec (found : findFreeSlot sched = some slot) :
    (sched.taskPool slot).task = none ∧ (sched.taskPool slot).state = .terminated := by
  simpa using List.find?_some found

theorem findSchedTask_spec {task : Option Nat} (found : findSchedTask sched task = some slot) :
    (sched.taskPool slot).task = task ∧ task ≠ none := by
  unfold findSchedTask at found
  split at found
  · contradiction
  · exact ⟨by simpa using List.find?_some found, by assumption⟩

/-- The state in which a call leaves the current task that it stops. -/
def SchedCall.stopsAs : SchedCall → Option SchedState
  | .block _ => some .blocked
  | .sleep _ => some .sleeping
  | .exit => some .zombie
  | _ => none

/-- What a call does to tasks before it yields, if it yields. -/
inductive Edit (sched : Sched) : SchedCall → Sched → Prop where
  | unchanged (call : SchedCall) : Edit sched call sched
  | admitted {stask : Slot} {task process : Option Nat} {priority : SchedPriority}
      (present : task ≠ none) (free : findFreeSlot sched = some stask) :
      Edit sched (.addTask task process priority) (sched.modifyTask stask fun _ =>
        { task, process, priority, state := .ready, timeSlice := schedTimeSlice,
          totalCpuTime := 0, wakeTime := 0, waitData := none, next := none, prev := none })
  | released {stask : Slot} {task : Option Nat} (found : findSchedTask sched task = some stask) :
      Edit sched (.removeTask task) (sched.modifyTask stask fun entry =>
        { entry with task := none, state := .terminated })
  | stopped {current : Slot} {call : SchedCall} {state : SchedState} (change : SchedTask → SchedTask)
      (running : sched.current = some current) (stops : call.stopsAs = some state)
      (stoppedState : ∀ entry, (change entry).state = state)
      (keepsTask : ∀ entry, (change entry).task = entry.task)
      (keepsPriority : ∀ entry, (change entry).priority = entry.priority) :
      Edit sched call (sched.modifyTask current change)
  | woken {stask : Slot} {task : Option Nat} (found : findSchedTask sched task = some stask)
      (blocked : (sched.taskPool stask).state = .blocked) :
      Edit sched (.wake task) (sched.modifyTask stask fun entry =>
        { entry with state := .ready, waitData := none })
  | ticked {middle : Sched} (woken : Woken (advanceTicks sched) (List.finRange 64) middle) :
      Edit sched .tick (match middle.current with
        | none => middle
        | some current => middle.modifyTask current chargeTick)
  | reprioritised {stask : Slot} {task : Option Nat} {priority : SchedPriority}
      (found : findSchedTask sched task = some stask) :
      Edit sched (.setPriority task priority) (sched.modifyTask stask fun entry =>
        { entry with priority })

theorem SameTasks.modifyTask (same : SameTasks before after) (slot : Slot)
    (change : SchedTask → SchedTask)
    (unlinked : ∀ entry, (change entry).unlinked = (change entry.unlinked).unlinked) :
    SameTasks (before.modifyTask slot change) (after.modifyTask slot change) := by
  refine ⟨fun other => ?_, same.current, same.initialized, same.ticks⟩
  by_cases isSlot : other = slot
  · subst isSlot
    rw [Sched.modifyTask_same, Sched.modifyTask_same, unlinked, same.tasks, ← unlinked]
  · rw [Sched.modifyTask_other _ _ isSlot, Sched.modifyTask_other _ _ isSlot]
    exact same.tasks other

/-- The calls that never yield. -/
def SchedCall.Quiet : SchedCall → Prop
  | .addTask _ _ _ | .removeTask _ | .wake _ | .setPriority _ _ => True
  | _ => False

theorem schedStep_edits (quiet : call.Quiet) (done : schedStep sched call = some after) :
    ∃ edited, Edit sched call edited ∧ SameTasks edited after := by
  cases call with
  | addTask task process priority =>
      simp only [schedStep, schedulerAddTask, Option.map_eq_some_iff] at done
      obtain ⟨⟨result, final⟩, returned, rfl⟩ := done
      by_cases refused : !sched.initialized ∨ task = none
      · rw [if_pos refused] at returned
        cases returned
        exact ⟨_, .unchanged _, .refl _⟩
      · rw [if_neg refused] at returned
        cases free : findFreeSlot sched with
        | none =>
            rw [free] at returned
            cases returned
            exact ⟨_, .unchanged _, .refl _⟩
        | some stask =>
            simp only [free, Option.map_eq_some_iff] at returned
            obtain ⟨queued, enqueued, equal⟩ := returned
            cases equal
            refine ⟨_, .admitted (fun absent => refused (Or.inr absent)) free,
              (enqueueTask_sameTasks enqueued).trans ?_⟩
            simp only
            exact .modifyStats queued _
  | removeTask task =>
      simp only [schedStep, schedulerRemoveTask, Option.some.injEq] at done
      cases found : findSchedTask sched task with
      | none =>
          simp only [found] at done
          exact ⟨_, .unchanged _, done ▸ .refl _⟩
      | some stask =>
          simp only [found] at done
          rw [← done]
          refine ⟨_, .released found, ?_⟩
          exact ((dequeueTask_sameTasks sched stask).modifyTask stask _ fun _ => rfl).trans
            (.modifyStats _ _)
  | wake task =>
      simp only [schedStep, schedulerWake] at done
      cases found : findSchedTask sched task with
      | none =>
          simp only [found, Option.some.injEq] at done
          exact ⟨_, .unchanged _, done ▸ .refl _⟩
      | some stask =>
          simp only [found] at done
          by_cases blocked : (sched.taskPool stask).state = .blocked
          · rw [if_neg (not_not_intro blocked), Option.map_eq_some_iff] at done
            obtain ⟨queued, enqueued, rfl⟩ := done
            refine ⟨_, .woken found blocked, ?_⟩
            exact (enqueueTask_sameTasks enqueued).trans (.modifyStats _ _)
          · rw [if_pos blocked, Option.some.injEq] at done
            exact ⟨_, .unchanged _, done ▸ .refl _⟩
  | setPriority task priority =>
      simp only [schedStep, schedulerSetPriority] at done
      cases found : findSchedTask sched task with
      | none =>
          simp only [found, Option.some.injEq] at done
          exact ⟨_, .unchanged _, done ▸ .refl _⟩
      | some stask =>
          simp only [found] at done
          have edit : Edit sched (.setPriority task priority) (sched.modifyTask stask fun entry =>
              { entry with priority }) := .reprioritised found
          by_cases ready : (sched.taskPool stask).state = .ready
          · have same := (dequeueTask_sameTasks sched stask).modifyTask stask
              (fun entry => { entry with priority }) fun _ => rfl
            rw [if_pos ready] at done
            split at done
            · exact ⟨_, edit, same.trans (enqueueTask_sameTasks done)⟩
            · cases done
              exact ⟨_, edit, same⟩
          · rw [if_neg ready] at done
            split at done
            · exact ⟨_, edit, enqueueTask_sameTasks done⟩
            · cases done
              exact ⟨_, edit, .refl _⟩
  | yield => exact quiet.elim
  | block reason => exact quiet.elim
  | sleep ms => exact quiet.elim
  | tick => exact quiet.elim
  | exit => exact quiet.elim

/-- A call that returns has edited the tasks in one of the ways of `Edit`, and
then moved entries between queues and perhaps yielded. -/
theorem schedStep_cases (done : schedStep sched call = some after) :
    ∃ edited queued, Edit sched call edited ∧ SameTasks edited queued ∧
      (after = queued ∨ schedulerYield queued = some after) := by
  have edits (quiet : call.Quiet) : ∃ edited queued, Edit sched call edited ∧ SameTasks edited queued ∧
      (after = queued ∨ schedulerYield queued = some after) := by
    obtain ⟨edited, edit, same⟩ := schedStep_edits quiet done
    exact ⟨edited, after, edit, same, Or.inl rfl⟩
  cases call with
  | addTask task process priority => exact edits trivial
  | removeTask task => exact edits trivial
  | yield => exact ⟨_, _, .unchanged _, .refl _, Or.inr done⟩
  | block reason =>
      simp only [schedStep, schedulerBlock] at done
      cases running : sched.current with
      | none =>
          simp only [running, Option.some.injEq] at done
          exact ⟨_, _, .unchanged _, .refl _, Or.inl done.symm⟩
      | some current =>
          simp only [running] at done
          have edit : Edit sched (.block reason) (sched.modifyTask current fun entry =>
              { entry with state := .blocked, waitData := reason }) :=
            .stopped _ running rfl (fun _ => rfl) (fun _ => rfl) (fun _ => rfl)
          refine ⟨_, _, edit, ?_, Or.inr done⟩
          exact (dequeueTask_sameTasks _ _).trans (.modifyStats _ _)
  | wake task => exact edits trivial
  | sleep ms =>
      simp only [schedStep, schedulerSleep] at done
      cases running : sched.current with
      | none =>
          simp only [running, Option.some.injEq] at done
          exact ⟨_, _, .unchanged _, .refl _, Or.inl done.symm⟩
      | some current =>
          simp only [running] at done
          by_cases zero : ms = 0
          · rw [if_pos zero, Option.some.injEq] at done
            exact ⟨_, _, .unchanged _, .refl _, Or.inl done.symm⟩
          · rw [if_neg zero] at done
            have edit : Edit sched (.sleep ms) (sched.modifyTask current fun entry =>
                { entry with
                  state := .sleeping
                  wakeTime := (sched.ticks + schedulerMsToTicks
                    (if ms > schedMaxSleepMs then schedMaxSleepMs else ms)) % 2 ^ 64 % 2 ^ 32 }) :=
              .stopped _ running rfl (fun _ => rfl) (fun _ => rfl) (fun _ => rfl)
            exact ⟨_, _, edit, dequeueTask_sameTasks _ _, Or.inr done⟩
  | tick =>
      simp only [schedStep, schedulerTick] at done
      obtain ⟨middle, loop, charged⟩ := Option.bind_eq_some_iff.mp done
      have woken := wakeLoop_woken (List.nodup_finRange 64) loop
      have edit := Edit.ticked woken
      unfold chargeCurrent at charged
      cases running : middle.current with
      | none =>
          simp only [running, Option.some.injEq] at charged edit
          exact ⟨_, _, edit, .refl _, Or.inl charged.symm⟩
      | some current =>
          simp only [running] at charged edit
          split at charged
          · exact ⟨_, _, edit, .refl _, Or.inr charged⟩
          · exact ⟨_, _, edit, .refl _, Or.inl (Option.some.inj charged).symm⟩
  | setPriority task priority => exact edits trivial
  | exit =>
      simp only [schedStep, schedulerExit] at done
      cases running : sched.current with
      | none =>
          simp only [running, Option.some.injEq] at done
          exact ⟨_, _, .unchanged _, .refl _, Or.inl done.symm⟩
      | some current =>
          simp only [running] at done
          have edit : Edit sched .exit (sched.modifyTask current fun entry =>
              { entry with state := .zombie }) :=
            .stopped _ running rfl (fun _ => rfl) (fun _ => rfl) (fun _ => rfl)
          refine ⟨_, _, edit, ?_, Or.inr done⟩
          exact (dequeueTask_sameTasks _ _).trans (.modifyStats _ _)

end AutismOS.Scheduler
