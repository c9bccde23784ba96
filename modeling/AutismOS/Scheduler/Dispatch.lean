import AutismOS.Scheduler.Current
import Mathlib.Data.List.Rotate

namespace AutismOS.Scheduler

open AutismOS.Library

variable {sched before middle after : Sched} {slot current head : Slot} {queue : Fin 8}
variable {call : SchedCall} {calls : List SchedCall} {trace nodes : List Slot}

/-- No sleeper wakes at the next tick. -/
def NobodyDue (sched : Sched) : Prop := ∀ slot, ¬ SleeperDue (advanceTicks sched) slot

theorem wakeLoop_nobody {slots : List Slot} (nobody : ∀ slot, ¬ SleeperDue sched slot) :
    slots.foldlM wakeSleeper sched = some sched := by
  induction slots with
  | nil => rfl
  | cons first rest ih =>
      have skipped : wakeSleeper sched first = some sched := if_neg (nobody first)
      rw [List.foldlM_cons, skipped]
      exact ih

theorem schedulerTick_nobody (nobody : NobodyDue sched) :
    schedulerTick sched = chargeCurrent (advanceTicks sched) := by
  rw [schedulerTick, wakeLoop_nobody nobody]
  rfl

/-- No task has ever been dispatched, so none has ever gone to sleep. -/
structure NeverStarted (sched : Sched) : Prop where
  current : sched.current = none
  awake : ∀ slot, (sched.taskPool slot).state ≠ .sleeping

theorem NeverStarted.modifyTask (never : NeverStarted sched) (slot : Slot)
    (change : SchedTask → SchedTask) (awake : (change (sched.taskPool slot)).state ≠ .sleeping) :
    NeverStarted (sched.modifyTask slot change) := by
  refine ⟨never.current, fun other => ?_⟩
  by_cases isSlot : other = slot
  · subst isSlot
    rwa [Sched.modifyTask_same]
  · rw [Sched.modifyTask_other _ _ isSlot]
    exact never.awake other

theorem Edit.neverStarted (edit : Edit sched call after) (never : NeverStarted sched) :
    NeverStarted after := by
  cases edit with
  | unchanged => exact never
  | admitted => exact never.modifyTask _ _ (by simp)
  | released => exact never.modifyTask _ _ (by simp)
  | stopped _ running => exact absurd (never.current.symm.trans running) (by simp)
  | woken => exact never.modifyTask _ _ (by simp)
  | @ticked middle woken =>
      have idle : middle.current = none := woken.current.trans never.current
      rw [idle]
      refine ⟨idle, fun slot => ?_⟩
      rw [woken.state]
      split
      · decide
      · exact never.awake slot
  | reprioritised => exact never.modifyTask _ _ (never.awake _)

/-- Without a current task no call dispatches one. -/
theorem schedStep_neverStarted (never : NeverStarted before)
    (done : schedStep before call = some after) : NeverStarted after := by
  obtain ⟨edited, moved, edit, same, outcome⟩ := schedStep_cases done
  have kept := edit.neverStarted never
  have idle : moved.current = none := same.current.trans kept.current
  have still : NeverStarted moved := ⟨idle, fun slot => by rw [same.state]; exact kept.awake slot⟩
  rcases outcome with rfl | yielded
  · exact still
  · rw [schedulerYield_of_nothing (Or.inr (Or.inl idle))] at yielded
    exact Option.some.inj yielded ▸ still

theorem schedulerInit_neverStarted (fresh : sched.initialized = false) :
    NeverStarted (schedulerInit sched) := by
  rw [schedulerInit, fresh]
  exact ⟨rfl, fun slot => by simp [clearedTask]⟩

theorem NeverStarted.tick (never : NeverStarted sched) :
    ∃ after, schedulerTick sched = some after ∧ after.current = none := by
  have nobody : NobodyDue sched := fun slot due => never.awake slot due.1
  have idle : (advanceTicks sched).current = none := never.current
  refine ⟨advanceTicks sched, ?_, idle⟩
  rw [schedulerTick_nobody nobody, chargeCurrent, idle]

/-- The next timer tick returns and leaves a running current task. -/
def Dispatches (sched : Sched) : Prop :=
  ∃ after, schedulerTick sched = some after ∧
    ∃ slot, schedulerGetCurrent after = some slot ∧ (after.taskPool slot).state = .running

theorem NeverStarted.not_dispatches (never : NeverStarted sched) : ¬ Dispatches sched := by
  intro dispatches
  obtain ⟨after, done, slot, selected, _⟩ := dispatches
  obtain ⟨result, returned, idle⟩ := never.tick
  rw [done] at returned
  have same : after = result := Option.some.inj returned
  subst same
  rw [schedulerGetCurrent, idle] at selected
  contradiction

/-- After `scheduler_init`, no history of calls reaches a state from which a tick
dispatches a task. -/
theorem init_never_dispatches (fresh : sched.initialized = false)
    (run : Run (Stepping schedStep) (schedulerInit sched) calls after) : ¬ Dispatches after := by
  have never := run.invariant NeverStarted (fun _ _ _ => schedStep_neverStarted)
    (schedulerInit_neverStarted fresh)
  exact never.not_dispatches

/-- `g_sched` before `scheduler_init`: zeroed static storage. -/
def zeroSched : Sched where
  current := none
  runQueues := fun _ => none
  taskPool := fun _ => { clearedTask with state := .ready }
  stats :=
    { totalTasks := 0, runningTasks := 0, readyTasks := 0, blockedTasks := 0,
      contextSwitches := 0, timerTicks := 0 }
  ticks := 0
  initialized := false

theorem init_never_dispatches_first_task :
    ∃ after, Run (Stepping schedStep) (schedulerInit zeroSched)
        [.addTask (some 0x1000) none 4] after ∧ ¬ Dispatches after := by
  have returns : (schedStep (schedulerInit zeroSched) (.addTask (some 0x1000) none 4)).isSome := by
    decide
  obtain ⟨after, done⟩ := Option.isSome_iff_exists.mp returns
  exact ⟨after, .single done, init_never_dispatches rfl (.single done)⟩

/-- The first task added after `scheduler_init` is READY, and the next tick dispatches nothing. -/
theorem first_task_not_dispatched :
    ∃ after, Run (Stepping schedStep) (schedulerInit zeroSched)
        [.addTask (some 0x1000) none 4] after ∧
      (∃ slot, (after.taskPool slot).state = .ready) ∧ ¬ Dispatches after := by
  have done : schedStep (schedulerInit zeroSched) (.addTask (some 0x1000) none 4) =
      some ((schedStep (schedulerInit zeroSched) (.addTask (some 0x1000) none 4)).getD zeroSched) := by
    rfl
  have never := schedStep_neverStarted (schedulerInit_neverStarted rfl) done
  exact ⟨_, .single done, ⟨0, by decide⟩, never.not_dispatches⟩

/-- Ticks at which no sleeper wakes, with the task that is current after each
tick that ends a time slice. -/
inductive Expirations : Sched → List Slot → Sched → Prop where
  | nil (sched : Sched) : Expirations sched [] sched
  | charge {before middle after : Sched} {trace : List Slot} (nobody : NobodyDue before)
      (continues : ¬ SliceEnds before) (done : schedulerTick before = some middle)
      (rest : Expirations middle trace after) : Expirations before trace after
  | expire {before middle after : Sched} {trace : List Slot} {slot : Slot} (nobody : NobodyDue before)
      (ends : SliceEnds before) (done : schedulerTick before = some middle)
      (selected : middle.current = some slot) (rest : Expirations middle trace after) :
      Expirations before (slot :: trace) after

/-- The tick of a state in which the time slice does not end. -/
theorem tick_continues (nobody : NobodyDue sched) (selected : sched.current = some current)
    (continues : ¬ SliceEnds sched) :
    schedulerTick sched = some ((advanceTicks sched).modifyTask current chargeTick) := by
  have long : ¬ ((advanceTicks sched).taskPool current).timeSlice ≤ 1 := fun short =>
    continues ⟨current, selected, short⟩
  rw [schedulerTick_nobody nobody, chargeCurrent_eq (advanceTicks sched) selected, if_neg long]

/-- The tick that ends the time slice of the current task. -/
theorem tick_expires (nobody : NobodyDue sched) (selected : sched.current = some current)
    (ends : SliceEnds sched) :
    schedulerTick sched = schedulerYield ((advanceTicks sched).modifyTask current chargeTick) := by
  obtain ⟨slot, isCurrent, short⟩ := ends
  have same : slot = current := Option.some.inj (isCurrent.symm.trans selected)
  have atEnd : ((advanceTicks sched).taskPool current).timeSlice ≤ 1 := same ▸ short
  rw [schedulerTick_nobody nobody, chargeCurrent_eq (advanceTicks sched) selected, if_pos atEnd]

/-- A current task that `scheduler_yield` keeps: the scheduler is off, or the task
is the head of the highest nonempty queue. -/
def Kept (sched : Sched) (slot : Slot) : Prop :=
  sched.current = some slot ∧ (sched.initialized = false ∨ findNextTask sched = some slot)

/-- Such a task is charged a tick and nothing else happens. -/
theorem Kept.tick (kept : Kept sched slot) (nobody : NobodyDue sched) :
    schedulerTick sched = some ((advanceTicks sched).modifyTask slot chargeTick) := by
  by_cases ends : SliceEnds sched
  · rw [tick_expires nobody kept.1 ends]
    apply schedulerYield_of_nothing
    rcases kept.2 with off | head
    · exact Or.inl off
    · exact Or.inr (Or.inr (Or.inr (head.trans kept.1.symm)))
  · exact tick_continues nobody kept.1 ends

theorem Kept.charged (kept : Kept sched slot) :
    Kept ((advanceTicks sched).modifyTask slot chargeTick) slot := kept

theorem Kept.after_tick (kept : Kept before slot) (nobody : NobodyDue before)
    (done : schedulerTick before = some after) : Kept after slot := by
  rw [kept.tick nobody] at done
  exact Option.some.inj done ▸ kept.charged

theorem decrement_le (value : Nat) : decrement value ≤ value := by
  unfold decrement
  split <;> omega

/-- Its time slices go on expiring as long as nobody sleeps. -/
theorem Kept.expires (kept : Kept sched slot) (ends : (sched.taskPool slot).timeSlice ≤ 1)
    (awake : ∀ other, (sched.taskPool other).state ≠ .sleeping) (count : Nat) :
    ∃ after, Expirations sched (List.replicate count slot) after := by
  induction count generalizing sched with
  | zero => exact ⟨sched, .nil sched⟩
  | succ count ih =>
      have nobody : NobodyDue sched := fun other due => awake other due.1
      have shorter : (((advanceTicks sched).modifyTask slot chargeTick).taskPool slot).timeSlice ≤ 1 := by
        rw [Sched.modifyTask_same]
        exact (decrement_le _).trans ends
      have stillAwake (other : Slot) :
          (((advanceTicks sched).modifyTask slot chargeTick).taskPool other).state ≠ .sleeping := by
        rw [modifyTask_chargeTick]
        split <;> exact awake other
      obtain ⟨after, rest⟩ := ih kept.charged shorter stillAwake
      exact ⟨after, .expire nobody ⟨slot, kept.1, ends⟩ (kept.tick nobody) kept.1 rest⟩

theorem Kept.expirations (kept : Kept before slot) (run : Expirations before trace after) :
    ∀ other ∈ trace, other = slot := by
  induction run with
  | nil => simp
  | charge nobody _ done _ ih => exact ih (kept.after_tick nobody done)
  | expire nobody _ done selected _ ih =>
      have next := kept.after_tick nobody done
      intro other member
      rcases List.mem_cons.mp member with isFirst | inRest
      · rw [isFirst]
        exact Option.some.inj (selected.symm.trans next.1)
      · exact ih next other inRest

theorem enqueueTask_runQueues {stask : Slot} (done : enqueueTask sched stask = some after)
    (nonempty : sched.runQueues (queueOf (sched.taskPool stask).priority) = some head) :
    after.runQueues = sched.runQueues := by
  cases walk : Links.lastFrom (sched.links.detach stask).next schedMaxTasks head with
  | none =>
      have detached : ((sched.setNext stask none).setPrev stask none).links =
          sched.links.detach stask := by
        simp [Links.detach]
      simp [enqueueTask, nonempty, detached, walk] at done
  | some last =>
      obtain ⟨result, returned, _, _, heads⟩ := enqueueTask_nonempty nonempty walk
      rw [done] at returned
      exact Option.some.inj returned ▸ heads

/-- A task that runs behind the head of the highest nonempty queue. -/
structure Behind (sched : Sched) (current head : Slot) : Prop where
  settled : Settled sched
  held : CurrentHeld sched
  initialized : sched.initialized = true
  selected : sched.current = some current
  chosen : findNextTask sched = some head
  different : head ≠ current
  together : sched.runQueues (queueOf (sched.taskPool current).priority) = some head

theorem Behind.charged (behind : Behind sched current head) :
    Behind ((advanceTicks sched).modifyTask current chargeTick) current head := by
  have settled : Settled (advanceTicks sched) :=
    ⟨behind.settled.arranged.transfer rfl rfl fun _ _ => rfl, behind.settled.current⟩
  have held : CurrentHeld (advanceTicks sched) := behind.held
  refine ⟨settled.chargeTick current, held.chargeTick current, behind.initialized, behind.selected,
    behind.chosen, behind.different, ?_⟩
  rw [Sched.modifyTask_same]
  exact behind.together

/-- Requeueing a task behind the head of its queue changes no head. -/
theorem Behind.yield (behind : Behind sched current head) (done : schedulerYield sched = some after) :
    Kept after head := by
  have runnable := behind.settled.current_runnable behind.held behind.selected
  let demoted := sched.modifyTask current fun entry => { entry with state := .ready }
  have links : demoted.links = sched.links :=
    Sched.modifyTask_links sched _ current (fun _ => rfl) (fun _ => rfl)
  have place : (demoted.taskPool current).priority = (sched.taskPool current).priority := by
    simp [demoted]
  obtain ⟨previous, back⟩ : ∃ previous, sched.links.prev current = some previous := by
    rcases behind.settled.arranged.reached runnable with ⟨atHead, _⟩ | ⟨previous, _, _, back⟩
    · rw [behind.together] at atHead
      exact absurd (Option.some.inj atHead) behind.different
    · exact ⟨previous, back⟩
  have heads : (dequeueTask demoted current).runQueues = sched.runQueues := by
    rw [dequeueTask_runQueues, links, Links.unlinkHead, back]
    exact Function.update_eq_self _ _
  have step : schedulerYield sched =
      (enqueueTask (dequeueTask demoted current) current).map fun requeued => switchTo requeued head := by
    simp [schedulerYield, behind.initialized, behind.selected, behind.chosen, behind.different,
      behind.settled.current current behind.selected, demoted]
  rw [step, Option.map_eq_some_iff] at done
  obtain ⟨requeued, enqueued, rfl⟩ := done
  have nonempty : (dequeueTask demoted current).runQueues
      (queueOf ((dequeueTask demoted current).taskPool current).priority) = some head := by
    rw [heads, (dequeueTask_sameTasks demoted current).priority, place]
    exact behind.together
  have final : requeued.runQueues = sched.runQueues := (enqueueTask_runQueues enqueued nonempty).trans heads
  refine ⟨rfl, Or.inr ?_⟩
  rw [← behind.chosen, findNextTask, findNextTask]
  exact congrArg (List.findSome? · _) final

/-- Behind the head, the first expiration dispatches the head and the others keep it. -/
theorem Behind.expirations (behind : Behind before current head)
    (run : Expirations before trace after) : ∀ slot ∈ trace, slot = head := by
  induction run with
  | nil => simp
  | charge nobody continues done _ ih =>
      rw [tick_continues nobody behind.selected continues] at done
      exact ih (Option.some.inj done ▸ behind.charged)
  | expire nobody ends done selected rest _ =>
      rw [tick_expires nobody behind.selected ends] at done
      have kept := behind.charged.yield done
      intro slot member
      rcases List.mem_cons.mp member with isFirst | inRest
      · rw [isFirst]
        exact Option.some.inj (selected.symm.trans kept.1)
      · exact kept.expirations rest slot inRest

/-- Whatever runs in the highest nonempty queue, all expirations leave one and the
same task current. -/
theorem expirations_constant (formed : WellFormed before) (selected : before.current = some current)
    (threads : before.links.Threads (before.runQueues queue) nodes) (member : current ∈ nodes)
    (highest : ∀ higher, queue < higher → before.runQueues higher = none)
    (run : Expirations before trace after) : ∃ slot, ∀ other ∈ trace, other = slot := by
  obtain ⟨listed, threads', _, holds⟩ := formed.queues queue
  have same : nodes = listed := Links.Stretch.unique threads threads'
  obtain ⟨runnable, priority⟩ := (holds current).mp (same ▸ member)
  cases nodes with
  | nil => simp at member
  | cons head rest =>
      have start : before.runQueues queue = some head := threads.1
      have chosen := findNextTask_of_head start highest
      by_cases off : before.initialized = false
      · exact ⟨current, Kept.expirations ⟨selected, Or.inl off⟩ run⟩
      · by_cases isHead : head = current
        · exact ⟨current, Kept.expirations ⟨selected, Or.inr (isHead ▸ chosen)⟩ run⟩
        · have held : CurrentHeld before := fun slot still => by
            have isCurrent : current = slot := Option.some.inj (selected.symm.trans still)
            exact isCurrent ▸ runnable.1
          have place : queueOf (before.taskPool current).priority = queue :=
            (queueOf_val (formed.priorities current)).mpr priority
          exact ⟨head, Behind.expirations ⟨formed.settled, held, by simpa using off, selected, chosen,
            isHead, place ▸ start⟩ run⟩

/-- With two or more tasks in the highest nonempty queue, the time slices never
make each of them current once. -/
theorem expirations_never_take_turns (formed : WellFormed before)
    (selected : before.current = some current)
    (threads : before.links.Threads (before.runQueues queue) nodes) (member : current ∈ nodes)
    (highest : ∀ higher, queue < higher → before.runQueues higher = none)
    (several : 2 ≤ nodes.length) (run : Expirations before trace after)
    (full : trace.length = nodes.length) : ¬ trace.IsRotated nodes := by
  intro turns
  obtain ⟨listed, threads', nodup, _⟩ := formed.queues queue
  have same : nodes = listed := Links.Stretch.unique threads threads'
  obtain ⟨slot, constant⟩ := expirations_constant formed selected threads member highest run
  have distinct : trace.Nodup := turns.nodup_iff.mpr (same ▸ nodup)
  cases trace with
  | nil => simp at full; omega
  | cons first rest =>
      cases rest with
      | nil => simp at full; omega
      | cons second others =>
          have repeated : first = second :=
            (constant first (by simp)).trans (constant second (by simp)).symm
          exact (List.nodup_cons.mp distinct).1 (by simp [repeated])

theorem pairSched_expirations : ∃ after, Expirations pairSched [0, 0] after := by
  have kept : Kept pairSched 0 := ⟨rfl, Or.inr (by decide)⟩
  refine kept.expires (by decide) (fun slot => ?_) 2
  by_cases first : slot = 0
  · subst first
    decide
  · by_cases second : slot = 1
    · subst second
      decide
    · simp [pairSched, first, second, clearedTask]

theorem pairSched_threads : pairSched.links.Threads (pairSched.runQueues 4) [0, 1] := by
  simp [Links.Threads, Sched.links, pairSched, schedPriorityNormal, normalTask]

theorem pairSched_highest (higher : Fin 8) (above : 4 < higher) : pairSched.runQueues higher = none := by
  have notFour : higher ≠ 4 := ne_of_gt above
  simp [pairSched, schedPriorityNormal, notFour]

theorem expirations_never_take_turns_pair : ¬ ([0, 0] : List Slot).IsRotated [0, 1] := by
  obtain ⟨after, run⟩ := pairSched_expirations
  exact expirations_never_take_turns pairSched_wellFormed rfl pairSched_threads (by simp)
    pairSched_highest (by simp) run rfl

/-- The first of two running tasks stays current through both expirations. -/
theorem pair_first_task_stays_current :
    WellFormed pairSched ∧ pairSched.current = some 0 ∧
      pairSched.links.Threads (pairSched.runQueues 4) [0, 1] ∧
      (∀ higher, 4 < higher → pairSched.runQueues higher = none) ∧
      (∃ after, Expirations pairSched [0, 0] after) ∧ ¬ ([0, 0] : List Slot).IsRotated [0, 1] := by
  refine ⟨pairSched_wellFormed, rfl, pairSched_threads, pairSched_highest, pairSched_expirations, ?_⟩
  intro turns
  exact absurd (turns.nodup_iff.mpr (by simp)) (by simp)

end AutismOS.Scheduler
