import AutismOS.Library.Counting
import AutismOS.Scheduler.Orderly

namespace AutismOS.Scheduler

open AutismOS.Library

variable {sched before middle after : Sched} {slot other stask current next : Slot} {queued : Slot → Prop}
variable {change : SchedTask → SchedTask} {task : Option Nat} {holds : SchedState → Prop}

/-- The slot is on a run queue. -/
def Queued (sched : Sched) (slot : Slot) : Prop :=
  ∃ queue nodes, sched.links.Threads (sched.runQueues queue) nodes ∧ slot ∈ nodes

/-- The number of entries with a state of some kind. -/
noncomputable def tasksIn (sched : Sched) (holds : SchedState → Prop) : Nat :=
  count fun slot => holds (sched.taskPool slot).state

/-- The states that `total_tasks` counts. -/
def Alive (state : SchedState) : Prop := state ≠ .terminated ∧ state ≠ .zombie

/-- The counters are the numbers of queued, of BLOCKED and of living entries. -/
structure CountersAgree (sched : Sched) : Prop where
  ready : sched.stats.readyTasks = count (Queued sched)
  blocked : sched.stats.blockedTasks = tasksIn sched (· = .blocked)
  total : sched.stats.totalTasks = tasksIn sched Alive

theorem Arranged.queued_iff (arranged : Arranged sched queued) : Queued sched slot ↔ queued slot := by
  obtain ⟨queues, threaded, holds⟩ := arranged
  constructor
  · intro listed
    obtain ⟨queue, nodes, threads, member⟩ := listed
    rw [Links.Stretch.unique threads (threaded.threads queue)] at member
    exact ((holds queue slot).mp member).1
  · intro isQueued
    exact ⟨_, _, threaded.threads _, (holds _ slot).mpr ⟨isQueued, rfl⟩⟩

/-- Orderly queues with counters that agree. -/
structure Tally (sched : Sched) (queued : Slot → Prop) : Prop where
  orderly : Orderly sched queued
  ready : sched.stats.readyTasks = count queued
  blocked : sched.stats.blockedTasks = tasksIn sched (· = .blocked)
  total : sched.stats.totalTasks = tasksIn sched Alive

theorem Tally.agree (tally : Tally sched queued) : CountersAgree sched :=
  ⟨tally.ready.trans (count_congr fun _ => tally.orderly.arranged.queued_iff.symm), tally.blocked, tally.total⟩

theorem CountersAgree.tally (agree : CountersAgree sched) (orderly : Orderly sched queued) : Tally sched queued :=
  ⟨orderly, agree.ready.trans (count_congr fun _ => orderly.arranged.queued_iff), agree.blocked, agree.total⟩

theorem increment32_count (chosen : Slot → Prop) : increment32 (count chosen) = count chosen + 1 := by
  have bounded := count_le chosen
  rw [Fintype.card_fin] at bounded
  unfold increment32
  omega

theorem decrement_succ (value : Nat) : decrement (value + 1) = value := by
  simp [decrement]

/-- Taking a queued slot off its queue and putting it on again. -/
theorem requeued_count {chosen : Slot → Prop} (member : chosen slot) : increment32 (decrement (count chosen)) = count chosen := by
  have positive := count_pos member
  have bounded := count_le chosen
  rw [Fintype.card_fin] at bounded
  obtain ⟨others, isCount⟩ : ∃ others, count chosen = others + 1 := ⟨count chosen - 1, by omega⟩
  rw [isCount, decrement_succ]
  unfold increment32
  omega

theorem SameTasks.others (same : SameTasks (sched.modifyTask slot change) after) (other : Slot) (different : other ≠ slot) :
    (after.taskPool other).state = (sched.taskPool other).state := by
  rw [same.state, Sched.modifyTask_other _ _ different]

theorem SameTasks.changed (same : SameTasks (sched.modifyTask slot change) after) :
    (after.taskPool slot).state = (change (sched.taskPool slot)).state := by
  rw [same.state, Sched.modifyTask_same]

/-- Exchanging READY and RUNNING does not change a number of entries that counts both or neither. -/
theorem Yielded.tasksIn (yielded : Yielded before after) (uniform : holds .ready ↔ holds .running) :
    Scheduler.tasksIn after holds = Scheduler.tasksIn before holds := by
  refine count_congr ?_
  intro slot
  by_cases awake : Awake (before.taskPool slot)
  · have both (entry : SchedTask) (is : Awake entry) : holds entry.state ↔ holds .ready := by
      rcases is with ready | running
      · rw [ready]
      · rw [running]
        exact uniform.symm
    rw [both _ awake, both _ (yielded.awake slot awake)]
  · rw [yielded.state slot awake]

theorem blocked_uniform : SchedState.ready = .blocked ↔ SchedState.running = .blocked := by simp

theorem alive_uniform : Alive .ready ↔ Alive .running := by simp [Alive]

/-- A counter follows whether one slot has a property. -/
def Follows (was is : Prop) (counter counter' : Nat) : Prop :=
  (is ↔ was) ∧ counter' = counter ∨ ¬ was ∧ is ∧ counter' = increment32 counter ∨
    was ∧ ¬ is ∧ counter' = decrement counter

theorem Follows.count {chosen chosen' : Slot → Prop} {counter counter' : Nat}
    (follows : Follows (chosen slot) (chosen' slot) counter counter') (agree : counter = Library.count chosen)
    (others : ∀ other, other ≠ slot → (chosen' other ↔ chosen other)) : counter' = Library.count chosen' := by
  rcases follows with ⟨kept, same⟩ | ⟨lacked, gained, more⟩ | ⟨had, lost, less⟩
  · rw [same, agree, count_keep others kept]
  · rw [more, agree, increment32_count, count_gain others lacked gained]
  · rw [less, agree, count_lose others had lost, decrement_succ]

/-- A change of one entry, with counters that follow it. -/
theorem Tally.step {queued' : Slot → Prop} (tally : Tally before queued) (orderly : Orderly after queued')
    (others : ∀ other, other ≠ slot → (queued' other ↔ queued other))
    (states : ∀ other, other ≠ slot → (after.taskPool other).state = (before.taskPool other).state)
    (ready : Follows (queued slot) (queued' slot) before.stats.readyTasks after.stats.readyTasks)
    (blocked : Follows ((before.taskPool slot).state = .blocked) ((after.taskPool slot).state = .blocked)
      before.stats.blockedTasks after.stats.blockedTasks)
    (total : Follows (Alive (before.taskPool slot).state) (Alive (after.taskPool slot).state)
      before.stats.totalTasks after.stats.totalTasks) : Tally after queued' := by
  refine ⟨orderly, ready.count tally.ready others, ?_, ?_⟩
  · refine Follows.count blocked tally.blocked ?_
    intro other different
    rw [states other different]
  · refine Follows.count total tally.total ?_
    intro other different
    rw [states other different]

/-- An entry that becomes READY joins its queue. -/
theorem Tally.joins (tally : Tally sched queued) (asleep : ¬ Awake (sched.taskPool stask))
    (same : SameTasks (sched.modifyTask stask change) after) (becomes : (after.taskPool stask).state = .ready)
    (orderly : Orderly after fun slot => queued slot ∨ slot = stask)
    (ready : after.stats.readyTasks = increment32 sched.stats.readyTasks)
    (blocked : Follows ((sched.taskPool stask).state = .blocked) False sched.stats.blockedTasks after.stats.blockedTasks)
    (total : Follows (Alive (sched.taskPool stask).state) True sched.stats.totalTasks after.stats.totalTasks) :
    Tally after fun slot => queued slot ∨ slot = stask := by
  have fresh : ¬ queued stask := fun isQueued => asleep (tally.orderly.awake stask isQueued)
  refine tally.step orderly (fun other different => or_iff_left different) same.others ?_ ?_ ?_
  · exact Or.inr (Or.inl ⟨fresh, Or.inr rfl, ready⟩)
  · simpa [becomes] using blocked
  · simpa [becomes, Alive] using total

theorem Tally.addTask (tally : Tally sched queued) (task process : Option Nat) (priority : SchedPriority) :
    ∃ result after chosen, schedulerAddTask sched task process priority = some (result, after) ∧ Tally after chosen := by
  rcases tally.orderly.addTask task process priority with ⟨done, _⟩ |
    ⟨stask, after, free, _, _, done, same, orderly, counted⟩
  · exact ⟨-1, sched, queued, done, tally⟩
  · obtain ⟨_, terminated⟩ := findFreeSlot_spec free
    refine ⟨0, after, _, done, tally.joins (by simp [Awake, terminated]) same same.changed orderly ?_ ?_ ?_⟩
    · rw [counted]
    · rw [counted, terminated]
      exact Or.inl ⟨by simp, rfl⟩
    · rw [counted, terminated]
      exact Or.inr (Or.inl ⟨by simp [Alive], trivial, rfl⟩)

theorem Tally.wake (tally : Tally sched queued) (found : findSchedTask sched task = some stask)
    (blocked : (sched.taskPool stask).state = .blocked) :
    ∃ after chosen, schedulerWake sched task = some after ∧ Tally after chosen := by
  obtain ⟨after, done, same, orderly, counted⟩ := tally.orderly.wake found blocked
  refine ⟨after, _, done, tally.joins (by simp [Awake, blocked]) same same.changed orderly ?_ ?_ ?_⟩
  · rw [counted]
  · rw [counted, blocked]
    exact Or.inr (Or.inr ⟨rfl, id, rfl⟩)
  · rw [counted, blocked]
    exact Or.inl ⟨by simp [Alive], rfl⟩

theorem Tally.wakeSleeper (tally : Tally sched queued) (slot : Slot) :
    ∃ after chosen, Scheduler.wakeSleeper sched slot = some after ∧ Tally after chosen := by
  unfold Scheduler.wakeSleeper
  by_cases due : SleeperDue sched slot
  · rw [if_pos due]
    have asleep : ¬ Awake (sched.taskPool slot) := by simp [Awake, due.1]
    let change : SchedTask → SchedTask := fun entry => { entry with state := .ready, wakeTime := 0 }
    have becomes : (change (sched.taskPool slot)).state = .ready := rfl
    obtain ⟨after, done, same, orderly, counted⟩ := tally.orderly.enqueue asleep becomes
    refine ⟨after, _, done, tally.joins asleep same same.changed orderly ?_ ?_ ?_⟩
    · rw [counted]
    · rw [counted, due.1]
      exact Or.inl ⟨by simp, rfl⟩
    · rw [counted, due.1]
      exact Or.inl ⟨by simp [Alive], rfl⟩
  · rw [if_neg due]
    exact ⟨sched, queued, rfl, tally⟩

theorem Tally.wakeLoop (tally : Tally sched queued) (slots : List Slot) :
    ∃ after chosen, slots.foldlM Scheduler.wakeSleeper sched = some after ∧ Tally after chosen := by
  induction slots generalizing sched queued with
  | nil => exact ⟨sched, queued, rfl, tally⟩
  | cons first rest ih =>
      obtain ⟨middle, _, one, tallyMiddle⟩ := tally.wakeSleeper first
      obtain ⟨after, chosen, remaining, tallyAfter⟩ := ih tallyMiddle
      refine ⟨after, chosen, ?_, tallyAfter⟩
      rw [List.foldlM_cons, one]
      exact remaining

theorem schedulerYield_stats (done : schedulerYield sched = some after) :
    after.stats.blockedTasks = sched.stats.blockedTasks ∧ after.stats.totalTasks = sched.stats.totalTasks ∧
      (after.stats.readyTasks = sched.stats.readyTasks ∨
        ∃ current, sched.current = some current ∧ (sched.taskPool current).state = .running ∧
          after.stats.readyTasks = increment32 (decrement sched.stats.readyTasks)) := by
  rcases schedulerYield_cases done with ⟨rfl, _⟩ | ⟨current, next, ready, selected, chosen, different, _⟩
  · exact ⟨rfl, rfl, Or.inl rfl⟩
  · rw [schedulerYield_switches ready selected chosen different, Option.map_eq_some_iff] at done
    obtain ⟨moved, requeued, rfl⟩ := done
    by_cases running : (sched.taskPool current).state = .running
    · rw [if_pos running] at requeued
      have counted := enqueueTask_stats requeued
      rw [dequeueTask_stats] at counted
      change moved.stats.blockedTasks = _ ∧ moved.stats.totalTasks = _ ∧ (moved.stats.readyTasks = _ ∨
        ∃ current, sched.current = some current ∧ (sched.taskPool current).state = .running ∧
          moved.stats.readyTasks = _)
      rw [counted]
      exact ⟨rfl, rfl, Or.inr ⟨current, selected, running, rfl⟩⟩
    · rw [if_neg running] at requeued
      obtain rfl := Option.some.inj requeued
      exact ⟨rfl, rfl, Or.inl rfl⟩

/-- A RUNNING current entry that moves to the end of its queue is counted once before and after. -/
theorem Tally.yield (tally : Tally sched queued) (may : Owned sched queued ∨ NothingToSwitchTo sched) :
    ∃ after, schedulerYield sched = some after ∧ Tally after queued := by
  rcases may with owned | nothing
  · obtain ⟨after, done, orderly, _, yielded⟩ := tally.orderly.yield owned
    obtain ⟨blocked, total, ready⟩ := schedulerYield_stats done
    refine ⟨after, done, orderly, ?_, ?_, ?_⟩
    · rcases ready with same | ⟨current, selected, running, moved⟩
      · exact same.trans tally.ready
      · rw [moved, tally.ready, requeued_count (owned current selected running)]
    · rw [blocked, tally.blocked, yielded.tasksIn blocked_uniform]
    · rw [total, tally.total, yielded.tasksIn alive_uniform]
  · exact ⟨sched, schedulerYield_of_nothing nothing, tally⟩

/-- The slot is on a queue, or there is nothing that unlinking it could take off one. -/
def Unqueues (sched : Sched) (queued : Slot → Prop) (stask : Slot) : Prop :=
  queued stask ∨ (∀ slot, ¬ queued slot) ∧ DequeueHarmless sched queued stask

theorem Unqueues.unlinks (unqueues : Unqueues sched queued stask) :
    queued stask ∨ DequeueHarmless sched queued stask :=
  unqueues.imp_right And.right

/-- The guard of the decrement hides a task that was not counted only while there is none that was. -/
theorem Tally.unqueued (tally : Tally sched queued) (unqueues : Unqueues sched queued stask) :
    Follows (queued stask) (queued stask ∧ stask ≠ stask) sched.stats.readyTasks (decrement sched.stats.readyTasks) := by
  rcases unqueues with member | ⟨nothing, _⟩
  · exact Or.inr (Or.inr ⟨member, fun both => both.2 rfl, rfl⟩)
  · refine Or.inl ⟨⟨fun both => absurd both.1 (nothing stask), fun member => absurd member (nothing stask)⟩, ?_⟩
    rw [tally.ready, count_eq_zero nothing]
    rfl

theorem Tally.removeTask (tally : Tally sched queued) (found : findSchedTask sched task = some stask)
    (unqueues : Unqueues sched queued stask) (notBlocked : (sched.taskPool stask).state ≠ .blocked)
    (counted : Alive (sched.taskPool stask).state ∨ ∀ slot, ¬ Alive (sched.taskPool slot).state) :
    Tally (schedulerRemoveTask sched task) fun slot => queued slot ∧ slot ≠ stask := by
  have same := schedulerRemoveTask_sameTasks found
  have terminated : ((schedulerRemoveTask sched task).taskPool stask).state = .terminated := same.changed
  refine tally.step (tally.orderly.removeTask found unqueues.unlinks) (fun other different => and_iff_left different)
    same.others ?_ ?_ ?_
  · rw [schedulerRemoveTask_stats found]
    exact tally.unqueued unqueues
  · rw [schedulerRemoveTask_stats found, terminated]
    exact Or.inl ⟨by simp [notBlocked], rfl⟩
  · rw [schedulerRemoveTask_stats found, terminated]
    rcases counted with alive | nobody
    · exact Or.inr (Or.inr ⟨alive, by simp [Alive], rfl⟩)
    · refine Or.inl ⟨⟨fun alive => absurd rfl alive.1, fun alive => absurd alive (nobody stask)⟩, ?_⟩
      have none : tasksIn sched Alive = 0 := count_eq_zero nobody
      change decrement sched.stats.totalTasks = sched.stats.totalTasks
      rw [tally.total, none]
      rfl

/-- An entry that stops, with the counters that its caller updates, and the yield that follows. -/
theorem Tally.retired {update : SchedStats → SchedStats} (tally : Tally sched queued) (stops : Stops change)
    (selected : sched.current = some current) (unqueues : Unqueues sched queued current)
    (ready : ∀ stats, (update stats).readyTasks = stats.readyTasks)
    (blocked : ∀ stats, Follows ((sched.taskPool current).state = .blocked) ((change (sched.taskPool current)).state = .blocked)
      stats.blockedTasks (update stats).blockedTasks)
    (total : ∀ stats, Follows (Alive (sched.taskPool current).state) (Alive (change (sched.taskPool current)).state)
      stats.totalTasks (update stats).totalTasks) :
    ∃ after chosen, schedulerYield (retire sched current change update) = some after ∧ Tally after chosen := by
  have same : SameTasks (sched.modifyTask current change) (retire sched current change update) := retire_sameTasks
  have stats : (retire sched current change update).stats =
      update { sched.stats with readyTasks := decrement sched.stats.readyTasks } := by
    rw [retire, Sched.modifyStats, dequeueTask_stats]
    rfl
  have stopped : Tally (retire sched current change update) fun slot => queued slot ∧ slot ≠ current := by
    refine tally.step (tally.orderly.retire stops unqueues.unlinks) (fun other different => and_iff_left different)
      same.others ?_ ?_ ?_
    · rw [stats, ready]
      exact tally.unqueued unqueues
    · rw [stats, same.changed]
      exact blocked { sched.stats with readyTasks := decrement sched.stats.readyTasks }
    · rw [stats, same.changed]
      exact total { sched.stats with readyTasks := decrement sched.stats.readyTasks }
  obtain ⟨after, done, tallyAfter⟩ := stopped.yield (Or.inl (by
    intro slot still running
    obtain rfl := Option.some.inj (selected.symm.trans (same.current.symm.trans still))
    exact absurd running (retire_stopped stops)))
  exact ⟨after, _, done, tallyAfter⟩

/-- The tick does not put a current entry on a queue that was on none: it owns its place, the slice does not end, or
there is nothing to switch to. -/
def TickCounted (sched : Sched) : Prop :=
  Owned sched (Queued sched) ∨ ¬ SliceEnds sched ∨ sched.initialized = false ∨
    ∀ slot, ¬ Queued sched slot ∧ ¬ SleeperDue (advanceTicks sched) slot

theorem Tally.charge (tally : Tally sched queued) (current : Slot) :
    Tally (sched.modifyTask current chargeTick) queued := by
  have charges := chargeTick_yielded sched current
  refine ⟨tally.orderly.transfer charges ?_, tally.ready, ?_, ?_⟩
  · exact tally.orderly.arranged.modifyTask current _ (fun _ => rfl) (fun _ => rfl) fun _ _ => rfl
  · exact tally.blocked.trans (charges.tasksIn blocked_uniform).symm
  · exact tally.total.trans (charges.tasksIn alive_uniform).symm

theorem findNextTask_of_nothing (arranged : Arranged sched queued) (nothing : ∀ slot, ¬ queued slot) :
    findNextTask sched = none := by
  refine findNextTask_eq_none.mpr ?_
  intro queue
  cases head : sched.runQueues queue with
  | none => rfl
  | some slot => exact absurd (arranged.head_queued head) (nothing slot)

theorem Tally.chargeCurrent (tally : Tally sched queued)
    (may : Owned sched queued ∨ ¬ SliceEnds sched ∨ sched.initialized = false ∨ ∀ slot, ¬ queued slot) :
    ∃ after, Scheduler.chargeCurrent sched = some after ∧ Tally after queued := by
  cases selected : sched.current with
  | none => exact ⟨sched, by simp [Scheduler.chargeCurrent, selected], tally⟩
  | some current =>
      rw [chargeCurrent_eq sched selected]
      have charged := tally.charge current
      by_cases ends : (sched.taskPool current).timeSlice ≤ 1
      · rw [if_pos ends]
        refine charged.yield ?_
        rcases may with owned | continues | off | nothing
        · left
          intro slot still running
          rw [modifyTask_chargeTick] at running
          have was : (sched.taskPool slot).state = .running := by split at running <;> exact running
          exact owned slot still was
        · exact absurd ⟨current, selected, ends⟩ continues
        · exact Or.inr (Or.inl off)
        · exact Or.inr (Or.inr (Or.inr (Or.inl (findNextTask_of_nothing charged.orderly.arranged nothing))))
      · rw [if_neg ends]
        exact ⟨_, rfl, charged⟩

theorem Tally.advance (tally : Tally sched queued) : Tally (advanceTicks sched) queued :=
  ⟨⟨tally.orderly.arranged.transfer rfl rfl fun _ _ => rfl, tally.orderly.complete, tally.orderly.awake⟩, tally.ready,
    tally.blocked, tally.total⟩

theorem Tally.tick (tally : Tally sched (Queued sched)) (counted : TickCounted sched) :
    ∃ after chosen, schedulerTick sched = some after ∧ Tally after chosen := by
  obtain ⟨middle, loop, woken, orderly⟩ := tally.orderly.wakeLoop
  obtain ⟨middle', _, loop', tallyMiddle⟩ := tally.advance.wakeLoop (List.finRange 64)
  obtain rfl := Option.some.inj (loop.symm.trans loop')
  obtain ⟨after, charged, tallyAfter⟩ := (tallyMiddle.agree.tally orderly).chargeCurrent (by
    rcases counted with owned | continues | off | nothing
    · exact Or.inl (woken.owned owned)
    · refine Or.inr (Or.inl ?_)
      intro ends
      obtain ⟨current, selected, short⟩ := ends
      exact continues ⟨current, woken.current.symm.trans selected, (woken.timeSlice current).symm ▸ short⟩
    · exact Or.inr (Or.inr (Or.inl (woken.initialized.trans off)))
    · exact Or.inr (Or.inr (Or.inr fun slot either => either.elim (nothing slot).1 (nothing slot).2)))
  exact ⟨after, _, by rw [schedulerTick, loop]; exact charged, tallyAfter⟩

/-- The current entry stops from a state that is counted as queued or, while nothing is queued, as neither queued nor
blocked. -/
def StopsCounted (sched : Sched) (current : Slot) : Prop :=
  Unqueues sched (Queued sched) current ∧
    (Awake (sched.taskPool current) ∨ (sched.taskPool current).state = .sleeping)

/-- The calls that keep the counters: a task is removed or stops while it is on its run queue; a
RUNNING current entry is on its queue when it yields, and keeps its queue when its priority changes.
While nothing is queued, a task that is neither queued nor blocked may do so as well. -/
def KeepsCounters (sched : Sched) : SchedCall → Prop
  | .addTask _ _ _ | .wake _ => True
  | .removeTask task => ∀ stask, findSchedTask sched task = some stask →
      Unqueues sched (Queued sched) stask ∧ (sched.taskPool stask).state ≠ .blocked ∧
        (Alive (sched.taskPool stask).state ∨ ∀ slot, ¬ Alive (sched.taskPool slot).state)
  | .yield => Owned sched (Queued sched) ∨ NothingToSwitchTo sched
  | .tick => TickCounted sched
  | .setPriority task priority => ∀ stask, findSchedTask sched task = some stask →
      (sched.taskPool stask).state = .running → queueOf (sched.taskPool stask).priority = queueOf priority
  | .block _ | .exit => ∀ current, sched.current = some current → StopsCounted sched current
  | .sleep ms => ms ≠ 0 → ∀ current, sched.current = some current → StopsCounted sched current

theorem StopsCounted.alive (stops : StopsCounted sched current) :
    Alive (sched.taskPool current).state ∧ (sched.taskPool current).state ≠ .blocked := by
  rcases stops.2 with awake | asleep
  · rcases awake with ready | running
    · simp [Alive, ready]
    · simp [Alive, running]
  · simp [Alive, asleep]

theorem Tally.own (tally : Tally sched queued) : Tally sched (Queued sched) := by
  have same : Queued sched = queued := funext fun slot => propext tally.orderly.arranged.queued_iff
  exact same ▸ tally

theorem Tally.setPriority {priority : SchedPriority} (tally : Tally sched queued) (found : findSchedTask sched task = some stask)
    (sameQueue : (sched.taskPool stask).state = .running → queueOf (sched.taskPool stask).priority = queueOf priority) :
    ∃ after chosen, schedulerSetPriority sched task priority = some after ∧ Tally after chosen := by
  obtain ⟨after, done, same, orderly, counted⟩ := tally.orderly.setPriority found sameQueue
  have yielded := reprioritised_yielded same
  refine ⟨after, queued, done, orderly, ?_, ?_, ?_⟩
  · rw [counted]
    by_cases ready : (sched.taskPool stask).state = .ready
    · obtain ⟨held, present⟩ := findSchedTask_spec found
      have member : queued stask := tally.orderly.complete stask ⟨held ▸ present, Or.inl ready⟩
      simp only [if_pos ready]
      rw [tally.ready, requeued_count member]
    · simp only [if_neg ready]
      exact tally.ready
  · rw [counted]
    exact tally.blocked.trans (yielded.tasksIn blocked_uniform).symm
  · rw [counted]
    exact tally.total.trans (yielded.tasksIn alive_uniform).symm

/-- A call within `KeepsCounters` returns, with orderly queues and counters that agree. -/
theorem Tally.call {call : SchedCall} (tally : Tally sched (Queued sched)) (kept : KeepsCounters sched call) :
    ∃ after chosen, schedStep sched call = some after ∧ Tally after chosen := by
  cases call with
  | addTask task process priority =>
      obtain ⟨result, after, chosen, done, tallyAfter⟩ := tally.addTask task process priority
      exact ⟨after, chosen, congrArg (Option.map Prod.snd) done, tallyAfter⟩
  | removeTask task =>
      cases found : findSchedTask sched task with
      | none => exact ⟨sched, _, by simp [schedStep, schedulerRemoveTask, found], tally⟩
      | some stask =>
          obtain ⟨unqueues, notBlocked, counted⟩ := kept stask found
          exact ⟨_, _, rfl, tally.removeTask found unqueues notBlocked counted⟩
  | yield =>
      obtain ⟨after, done, tallyAfter⟩ := tally.yield kept
      exact ⟨after, _, done, tallyAfter⟩
  | wake task =>
      cases found : findSchedTask sched task with
      | none => exact ⟨sched, _, by simp [schedStep, schedulerWake, found], tally⟩
      | some stask =>
          by_cases blocked : (sched.taskPool stask).state = .blocked
          · exact tally.wake found blocked
          · exact ⟨sched, _, by simp [schedStep, schedulerWake, found, blocked], tally⟩
  | tick => exact tally.tick kept
  | setPriority task priority =>
      cases found : findSchedTask sched task with
      | none => exact ⟨sched, _, by simp [schedStep, schedulerSetPriority, found], tally⟩
      | some stask => exact tally.setPriority found (kept stask found)
  | block reason =>
      cases selected : sched.current with
      | none => exact ⟨sched, _, by simp [schedStep, schedulerBlock, selected], tally⟩
      | some current =>
          have stops := kept current selected
          obtain ⟨alive, notBlocked⟩ := stops.alive
          rw [schedStep, schedulerBlock_eq selected]
          refine tally.retired (blockTask_stops reason) selected stops.1 (fun _ => rfl) ?_ ?_
          · exact fun _ => Or.inr (Or.inl ⟨notBlocked, rfl, rfl⟩)
          · exact fun _ => Or.inl ⟨iff_of_true (by simp [blockTask, Alive]) alive, rfl⟩
  | sleep ms =>
      cases selected : sched.current with
      | none => exact ⟨sched, _, by simp [schedStep, schedulerSleep, selected], tally⟩
      | some current =>
          by_cases zero : ms = 0
          · exact ⟨sched, _, by simp [schedStep, schedulerSleep, selected, zero], tally⟩
          · have stops := kept zero current selected
            obtain ⟨alive, notBlocked⟩ := stops.alive
            rw [schedStep, schedulerSleep_eq selected zero]
            refine tally.retired (sleepTask_stops _) selected stops.1 (fun _ => rfl) ?_ ?_
            · exact fun _ => Or.inl ⟨by simp [notBlocked, sleepTask], rfl⟩
            · exact fun _ => Or.inl ⟨iff_of_true (by simp [sleepTask, Alive]) alive, rfl⟩
  | exit =>
      cases selected : sched.current with
      | none => exact ⟨sched, _, by simp [schedStep, schedulerExit, selected], tally⟩
      | some current =>
          have stops := kept current selected
          obtain ⟨alive, notBlocked⟩ := stops.alive
          rw [schedStep, schedulerExit_eq selected]
          refine tally.retired exitTask_stops selected stops.1 (fun _ => rfl) ?_ ?_
          · exact fun _ => Or.inl ⟨by simp [notBlocked, exitTask], rfl⟩
          · exact fun _ => Or.inr (Or.inr ⟨alive, by simp [exitTask, Alive], rfl⟩)

theorem Tally.run {calls : List SchedCall} (tally : Tally before (Queued before))
    (run : Restricted schedStep KeepsCounters before calls after) : Tally after (Queued after) := by
  refine run.invariant (fun sched => Tally sched (Queued sched)) ?_ tally
  intro state call next tallied performed
  obtain ⟨next', _, done, tallyNext⟩ := tallied.call performed.1
  obtain rfl := Option.some.inj (performed.2.symm.trans done)
  exact tallyNext.own

/-- As long as only queued tasks stop or are removed, the counters are right, and every call returns. -/
theorem run_keeps_counters {calls : List SchedCall} (formed : QueuesWellFormed before)
    (inRange : PrioritiesInRange before) (agree : CountersAgree before)
    (run : Restricted schedStep KeepsCounters before calls after) :
    CountersAgree after ∧
      ∀ call, KeepsCounters after call → ∃ next, schedStep after call = some next ∧ CountersAgree next := by
  have tally := (agree.tally (formed.orderly inRange)).own.run run
  refine ⟨tally.agree, ?_⟩
  intro call kept
  obtain ⟨next, _, done, tallyNext⟩ := tally.call kept
  exact ⟨next, done, tallyNext.agree⟩

theorem count_eq_card {chosen : Slot → Prop} [DecidablePred chosen] : count chosen = (Finset.univ.filter chosen).card := by
  unfold count
  congr

theorem pairSched_agree : CountersAgree pairSched := by
  have queued (slot : Slot) : Queued pairSched slot ↔ slot = 0 ∨ slot = 1 := by
    rw [pairSched_wellFormed.settled.arranged.queued_iff, Runnable]
    revert slot
    decide
  refine ⟨?_, ?_, ?_⟩
  · rw [count_congr queued, count_eq_card]
    decide
  · rw [tasksIn, count_eq_card]
    decide
  · have alive (slot : Slot) : Alive (pairSched.taskPool slot).state ↔ slot = 0 ∨ slot = 1 := by
      unfold Alive
      revert slot
      decide
    rw [tasksIn, count_congr alive, count_eq_card]
    decide

theorem pairSched_stopsCounted : StopsCounted pairSched 0 := by
  have runnable : Runnable (pairSched.taskPool 0) := ⟨by decide, by decide⟩
  exact ⟨Or.inl (pairSched_wellFormed.settled.arranged.queued_iff.mpr runnable), by unfold Awake; decide⟩

theorem pairSched_tally : Tally pairSched (Queued pairSched) :=
  (pairSched_agree.tally (pairSched_wellFormed.queues.orderly pairSched_wellFormed.priorities)).own

theorem pairSched_keepsBlock : KeepsCounters pairSched (.block none) := by
  intro current selected
  obtain rfl : (0 : Slot) = current := Option.some.inj selected
  exact pairSched_stopsCounted

/-- The running task blocks and is woken again. -/
theorem run_keeps_counters_pair :
    ∃ after, Restricted schedStep KeepsCounters pairSched [.block none, .wake (some 0x1000)] after ∧
      CountersAgree after := by
  obtain ⟨blocked, _, blocking, tallyBlocked⟩ := pairSched_tally.call pairSched_keepsBlock
  have wakes : KeepsCounters blocked (.wake (some 0x1000)) := trivial
  obtain ⟨after, _, waking, _⟩ := tallyBlocked.own.call wakes
  have run : Restricted schedStep KeepsCounters pairSched [.block none, .wake (some 0x1000)] after :=
    .cons ⟨pairSched_keepsBlock, blocking⟩ (.single ⟨wakes, waking⟩)
  exact ⟨after, run, (run_keeps_counters pairSched_wellFormed.queues pairSched_wellFormed.priorities pairSched_agree run).1⟩

/-- Removing the blocked task leaves `blocked_tasks` at one, and takes the other task out of `ready_tasks`. -/
theorem remove_blocked_miscounts :
    WellFormed pairSched ∧ CountersAgree pairSched ∧
      ∃ after, Run (Stepping schedStep) pairSched [.block none, .removeTask (some 0x1000)] after ∧
        after.stats.blockedTasks = 1 ∧ (∀ slot, (after.taskPool slot).state ≠ .blocked) ∧
        after.stats.readyTasks = 0 ∧ ¬ CountersAgree after := by
  obtain ⟨blocked, _, blocking, _⟩ := pairSched_tally.call pairSched_keepsBlock
  have seen : (schedStep pairSched (.block none)).map (fun state =>
      ((schedulerRemoveTask state (some 0x1000)).stats.blockedTasks,
        (schedulerRemoveTask state (some 0x1000)).stats.readyTasks)) = some (1, 0) := by decide +kernel
  have nobody : (schedStep pairSched (.block none)).map (fun state =>
      decide (∀ slot, ((schedulerRemoveTask state (some 0x1000)).taskPool slot).state ≠ .blocked)) = some true := by
    decide +kernel
  rw [blocking] at seen nobody
  simp only [Option.map_some, Option.some.injEq, Prod.mk.injEq, decide_eq_true_eq] at seen nobody
  refine ⟨pairSched_wellFormed, pairSched_agree, _, .cons blocking (.single rfl), seen.1, nobody, seen.2, ?_⟩
  intro agree
  have none : tasksIn (schedulerRemoveTask blocked (some 0x1000)) (· = .blocked) = 0 := count_eq_zero nobody
  exact absurd (seen.1.symm.trans (agree.blocked.trans none)) (by decide)

end AutismOS.Scheduler
