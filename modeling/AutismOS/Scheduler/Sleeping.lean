import AutismOS.Scheduler.Orderly

namespace AutismOS.Scheduler

open AutismOS.Library

variable {sched before middle after asleep : Sched} {slot current : Slot} {queued : Slot → Prop}
variable {call : SchedCall} {calls : List SchedCall} {now ms wakeTime : Nat}

/-- The calls that other tasks may make while the entry sleeps: it is not removed, and only a
RUNNING task stops. -/
def LeavesAlone (sched : Sched) (slot : Slot) : SchedCall → Prop
  | .removeTask task => findSchedTask sched task ≠ some slot
  | .block _ | .sleep _ | .exit =>
      ∀ current, sched.current = some current → (sched.taskPool current).state = .running
  | _ => True

/-- A call over orderly queues that leaves the sleeping entry alone. -/
def Passes (slot : Slot) (before : Sched) (call : SchedCall) (after : Sched) : Prop :=
  (∃ queued, Orderly before queued ∧ Owned before queued) ∧ LeavesAlone before slot call ∧
    schedStep before call = some after

/-- The ticks among the calls. -/
def ticksIn : List SchedCall → Nat
  | [] => 0
  | .tick :: rest => ticksIn rest + 1
  | _ :: rest => ticksIn rest

/-- The tick makes the entry READY; before the tick ends, the entry may also be dispatched. -/
def MadeReady (before : Sched) (slot : Slot) (after : Sched) : Prop :=
  ∃ middle, (List.finRange 64).foldlM wakeSleeper (advanceTicks before) = some middle ∧
    (middle.taskPool slot).state = .ready ∧ Awake (after.taskPool slot)

/-- The entry sleeps for as long as the ticks since then make up less than `ms`, at ten milliseconds a tick, and the
first tick with which they make up as much makes it READY. -/
structure WakesOnTime (asleep : Sched) (slot : Slot) (ms : Nat) : Prop where
  returns : ∀ count, ∃ after, Run (Passes slot) asleep (List.replicate count .tick) after
  notEarlier : ∀ calls after, Run (Passes slot) asleep calls after → ticksIn calls * 10 < ms →
    (after.taskPool slot).state = .sleeping
  notLater : ∀ calls before after, Run (Passes slot) asleep calls before → ticksIn calls * 10 < ms →
    ms ≤ (ticksIn calls + 1) * 10 → Passes slot before .tick after → MadeReady before slot after

/-- The durations for which the wake time, rounded down and kept in 32 bits, is exact. -/
def ExactDuration (now ms : Nat) : Prop :=
  ms % 10 = 0 ∧ (now % 2 ^ 32 + ms / 10 < 2 ^ 32 ∨ now % 2 ^ 32 = 2 ^ 32 - 1) ∨
    ms < 10 ∧ now % 2 ^ 32 ≠ 2 ^ 32 - 1

instance (now ms : Nat) : Decidable (ExactDuration now ms) := inferInstanceAs (Decidable (_ ∨ _))

/-- An entry asleep until a wake time, seen at a tick count. -/
structure Dormant (sched : Sched) (slot : Slot) (wakeTime now : Nat) : Prop where
  state : (sched.taskPool slot).state = .sleeping
  wakeTime : (sched.taskPool slot).wakeTime = wakeTime
  ticks : sched.ticks % 2 ^ 32 = now % 2 ^ 32

theorem Dormant.notAwake (dormant : Dormant sched slot wakeTime now) : ¬ Awake (sched.taskPool slot) := by
  simp [Awake, dormant.state]

theorem Dormant.yielded (dormant : Dormant before slot wakeTime now) (yielded : Yielded before after) :
    Dormant after slot wakeTime now :=
  ⟨(yielded.state slot dormant.notAwake).trans dormant.state, (yielded.wakeTime slot dormant.notAwake).trans dormant.wakeTime,
    by rw [yielded.ticks, dormant.ticks]⟩

theorem Dormant.sameTasks (dormant : Dormant before slot wakeTime now) (same : SameTasks before after) :
    Dormant after slot wakeTime now :=
  ⟨(same.state slot).trans dormant.state, (same.wakeTime slot).trans dormant.wakeTime, by rw [same.ticks, dormant.ticks]⟩

theorem Dormant.modifyTask {change : SchedTask → SchedTask} {stask : Slot} (dormant : Dormant sched slot wakeTime now)
    (kept : slot = stask → (change (sched.taskPool slot)).state = (sched.taskPool slot).state ∧
      (change (sched.taskPool slot)).wakeTime = (sched.taskPool slot).wakeTime) :
    Dormant (sched.modifyTask stask change) slot wakeTime now := by
  by_cases isSlot : slot = stask
  · obtain ⟨state, wake⟩ := kept isSlot
    subst isSlot
    refine ⟨?_, ?_, dormant.ticks⟩
    · rw [Sched.modifyTask_same, state, dormant.state]
    · rw [Sched.modifyTask_same, wake, dormant.wakeTime]
  · refine ⟨?_, ?_, dormant.ticks⟩
    · rw [Sched.modifyTask_other _ _ isSlot, dormant.state]
    · rw [Sched.modifyTask_other _ _ isSlot, dormant.wakeTime]

/-- Calls that never yield. -/
theorem Dormant.edit (dormant : Dormant sched slot wakeTime now) (quiet : call.Quiet)
    (leaves : LeavesAlone sched slot call) (edit : Edit sched call after) : Dormant after slot wakeTime now := by
  have elsewhere {stask : Slot} {state : SchedState} (is : (sched.taskPool stask).state = state)
      (awakeState : state ≠ .sleeping) : slot ≠ stask := by
    intro same
    rw [← same, dormant.state] at is
    exact awakeState is.symm
  cases edit with
  | unchanged => exact dormant
  | admitted present free =>
      exact dormant.modifyTask fun same => absurd same (elsewhere (findFreeSlot_spec free).2 (by simp))
  | released found => exact dormant.modifyTask fun same => absurd (same ▸ found) leaves
  | stopped change running stops => cases call <;> first | exact quiet.elim | contradiction
  | woken found blocked => exact dormant.modifyTask fun same => absurd same (elsewhere blocked (by simp))
  | ticked => exact quiet.elim
  | reprioritised found => exact dormant.modifyTask fun _ => ⟨rfl, rfl⟩

/-- Another task stops and yields. -/
theorem Dormant.retires {outcome : Option Sched} (dormant : Dormant sched slot wakeTime now)
    (orderly : Orderly sched queued) (owned : Owned sched queued)
    (running : ∀ current, sched.current = some current → (sched.taskPool current).state = .running)
    (retires : Retires sched outcome) (selected : sched.current = some current) (done : outcome = some after) :
    Dormant after slot wakeTime now := by
  obtain ⟨change, count, stops, rfl⟩ := retires current selected
  have isRunning := running current selected
  obtain ⟨after', done', _, _, yielded⟩ :=
    orderly.retired stops selected (Or.inl (owned current selected isRunning))
  obtain rfl := Option.some.inj (done.symm.trans done')
  have different : slot ≠ current := by
    intro same
    rw [← same, dormant.state] at isRunning
    contradiction
  have stopped : Dormant (sched.modifyTask current change) slot wakeTime now :=
    dormant.modifyTask fun same => absurd same different
  exact (stopped.sameTasks retire_sameTasks).yielded yielded

theorem Dormant.passes (dormant : Dormant before slot wakeTime now) (passes : Passes slot before call after)
    (notTick : call ≠ .tick) : Dormant after slot wakeTime now := by
  obtain ⟨⟨queued, orderly, owned⟩, leaves, done⟩ := passes
  -- A call that stops the current entry does nothing when there is none.
  have stopping (outcome : Option Sched) (retires : Retires before outcome)
      (idle : before.current = none → outcome = some before)
      (running : ∀ current, before.current = some current → (before.taskPool current).state = .running)
      (returned : outcome = some after) : Dormant after slot wakeTime now := by
    cases selected : before.current with
    | none =>
        obtain rfl := Option.some.inj ((idle selected).symm.trans returned)
        exact dormant
    | some current => exact dormant.retires orderly owned running retires selected returned
  have quietly (quiet : call.Quiet) : Dormant after slot wakeTime now := by
    obtain ⟨edited, edit, same⟩ := schedStep_edits quiet done
    exact (dormant.edit quiet leaves edit).sameTasks same
  cases call with
  | addTask task process priority => exact quietly trivial
  | removeTask task => exact quietly trivial
  | wake task => exact quietly trivial
  | setPriority task priority => exact quietly trivial
  | tick => exact absurd rfl notTick
  | yield =>
      obtain ⟨after', done', _, _, yielded⟩ := orderly.yield owned
      obtain rfl := Option.some.inj (done.symm.trans done')
      exact dormant.yielded yielded
  | block reason =>
      exact stopping _ (schedulerBlock_retires before reason) (fun idle => by simp [schedulerBlock, idle]) leaves done
  | exit => exact stopping _ (schedulerExit_retires before) (fun idle => by simp [schedulerExit, idle]) leaves done
  | sleep ms =>
      by_cases zero : ms = 0
      · have unchanged : schedulerSleep before ms = some before := by
          cases selected : before.current with
          | none => simp [schedulerSleep, selected]
          | some current => simp [schedulerSleep, selected, zero]
        obtain rfl := Option.some.inj (unchanged.symm.trans done)
        exact dormant
      · exact stopping _ (schedulerSleep_retires before zero) (fun idle => by simp [schedulerSleep, idle]) leaves done

/-- A tick wakes the entry exactly if the new tick count has reached its wake time. -/
theorem Dormant.tick (dormant : Dormant before slot wakeTime now) (passes : Passes slot before .tick after) :
    if wakeTime ≤ (now + 1) % 2 ^ 32 then MadeReady before slot after else Dormant after slot wakeTime (now + 1) := by
  obtain ⟨⟨queued, orderly, owned⟩, _, done⟩ := passes
  obtain ⟨middle, after', loop, woken, done', yielded, _⟩ := orderly.tick owned
  obtain rfl := Option.some.inj (done.symm.trans done')
  have counted : (advanceTicks before).ticks % 2 ^ 32 = (now + 1) % 2 ^ 32 := by
    have ticks := dormant.ticks
    change (before.ticks + 1) % 2 ^ 64 % 2 ^ 32 = (now + 1) % 2 ^ 32
    omega
  have due : SleeperDue (advanceTicks before) slot ↔ wakeTime ≤ (now + 1) % 2 ^ 32 := by
    rw [SleeperDue, counted, advanceTicks_taskPool, dormant.state, dormant.wakeTime]
    exact and_iff_right rfl
  have state := woken.state slot
  split
  · rename_i reached
    rw [if_pos ⟨List.mem_finRange slot, due.mpr reached⟩] at state
    exact ⟨middle, loop, state, yielded.awake slot (Or.inl state)⟩
  · rename_i early
    have notDue : ¬ (slot ∈ List.finRange 64 ∧ SleeperDue (advanceTicks before) slot) := fun both =>
      early (due.mp both.2)
    have entry := woken.entries slot
    rw [if_neg notDue, advanceTicks_taskPool] at entry
    have still : Dormant middle slot wakeTime (now + 1) :=
      ⟨(unlinked_state entry).trans dormant.state, (unlinked_wakeTime entry).trans dormant.wakeTime,
        by rw [woken.ticks, counted]⟩
    exact still.yielded yielded

/-- As long as no tick count reaches the wake time, the entry sleeps on. -/
theorem Dormant.run (dormant : Dormant before slot wakeTime now) (run : Run (Passes slot) before calls after)
    (early : ∀ count, 1 ≤ count → count ≤ ticksIn calls → ¬ wakeTime ≤ (now + count) % 2 ^ 32) :
    Dormant after slot wakeTime (now + ticksIn calls) := by
  induction run generalizing now with
  | nil state => exact dormant
  | @cons start next final call rest performed _ ih =>
      by_cases isTick : call = .tick
      · subst isTick
        have one := dormant.tick performed
        rw [if_neg (early 1 (Nat.le_refl 1) (by simp [ticksIn]))] at one
        have later := ih one fun count positive bounded => by
          rw [Nat.add_assoc, Nat.add_comm 1 count]
          exact early (count + 1) (by omega) (by simpa [ticksIn] using bounded)
        rwa [Nat.add_assoc, Nat.add_comm 1] at later
      · have same : ticksIn (call :: rest) = ticksIn rest := by
          cases call <;> first | exact absurd rfl isTick | rfl
        rw [same] at early ⊢
        exact ih (dormant.passes performed isTick) early

/-- The current entry leaves its queue and sleeps until the rounded wake time. -/
theorem Orderly.sleep (orderly : Orderly sched queued) (selected : sched.current = some slot) (member : queued slot)
    (positive : 1 ≤ ms) (bounded : ms ≤ schedMaxSleepMs) :
    ∃ asleep, schedulerSleep sched ms = some asleep ∧ Orderly asleep (fun other => queued other ∧ other ≠ slot) ∧
      Owned asleep (fun other => queued other ∧ other ≠ slot) ∧
      Dormant asleep slot ((sched.ticks + ms / 10) % 2 ^ 32) sched.ticks := by
  let change := sleepTask ((sched.ticks + ms / 10) % 2 ^ 64 % 2 ^ 32)
  have stops : Stops change := sleepTask_stops _
  have retires : schedulerSleep sched ms = schedulerYield (Scheduler.retire sched slot change id) := by
    have notZero : ms ≠ 0 := by omega
    have small : ¬ ms > schedMaxSleepMs := by omega
    rw [schedulerSleep_eq selected notZero, if_neg small]
    rfl
  obtain ⟨asleep, done, orderlyAfter, ownedAfter, yielded⟩ := orderly.retired stops selected (Or.inl member)
  have entry : ((Scheduler.retire sched slot change id).taskPool slot).unlinked = (change (sched.taskPool slot)).unlinked :=
    retire_self
  have same : SameTasks (sched.modifyTask slot change) (Scheduler.retire sched slot change id) := retire_sameTasks
  have wraps : (sched.ticks + ms / 10) % 2 ^ 64 % 2 ^ 32 = (sched.ticks + ms / 10) % 2 ^ 32 := by omega
  have dormant : Dormant (Scheduler.retire sched slot change id) slot ((sched.ticks + ms / 10) % 2 ^ 32) sched.ticks :=
    ⟨unlinked_state entry, (unlinked_wakeTime entry).trans wraps, by rw [same.ticks]; rfl⟩
  exact ⟨asleep, retires.trans done, orderlyAfter, ownedAfter, dormant.yielded yielded⟩

/-- Ticks alone go on for ever. -/
theorem Orderly.ticking (orderly : Orderly sched queued) (owned : Owned sched queued) (slot : Slot) (count : Nat) :
    ∃ after, Run (Passes slot) sched (List.replicate count .tick) after ∧
      ∃ queued, Orderly after queued ∧ Owned after queued := by
  induction count generalizing sched queued with
  | zero => exact ⟨sched, .nil sched, queued, orderly, owned⟩
  | succ count ih =>
      obtain ⟨_, next, _, _, done, _, orderlyNext, ownedNext⟩ := orderly.tick owned
      obtain ⟨after, run, still⟩ := ih orderlyNext ownedNext
      exact ⟨after, .cons ⟨⟨queued, orderly, owned⟩, trivial, done⟩ run, still⟩

theorem ticksIn_replicate (count : Nat) : ticksIn (List.replicate count .tick) = count := by
  induction count with
  | zero => rfl
  | succ count ih => simp [List.replicate_succ, ticksIn, ih]

/-- No tick count before the deadline reaches the wake time, and the one at the deadline does. -/
theorem exactDuration_iff (positive : 1 ≤ ms) (bounded : ms ≤ schedMaxSleepMs) :
    ExactDuration now ms ↔
      (∀ count, 1 ≤ count → count * 10 < ms → ¬ (now + ms / 10) % 2 ^ 32 ≤ (now + count) % 2 ^ 32) ∧
        (now + ms / 10) % 2 ^ 32 ≤ (now + (ms + 9) / 10) % 2 ^ 32 := by
  have small : ms ≤ 60000 := bounded
  unfold ExactDuration
  constructor
  · intro exact
    refine ⟨?_, by omega⟩
    intro count isPositive early
    omega
  · intro prompt
    obtain ⟨early, due⟩ := prompt
    have first := early 1 (Nat.le_refl 1)
    have rounded := early (ms / 10)
    omega

/-- What ticking alone shows about a dormant entry that wakes on time. -/
theorem WakesOnTime.exact (wakes : WakesOnTime asleep slot ms) (dormant : Dormant asleep slot wakeTime now)
    (orderly : Orderly asleep queued) (owned : Owned asleep queued) (positive : 1 ≤ ms) :
    (∀ count, 1 ≤ count → count * 10 < ms → ¬ wakeTime ≤ (now + count) % 2 ^ 32) ∧
      wakeTime ≤ (now + (ms + 9) / 10) % 2 ^ 32 := by
  -- The entry after `count` ticks that do not reach the wake time, and the tick after them.
  have upTo (count : Nat) (early : ∀ less, 1 ≤ less → less ≤ count → ¬ wakeTime ≤ (now + less) % 2 ^ 32) :
      ∃ before after, Run (Passes slot) asleep (List.replicate count .tick) before ∧
        Dormant before slot wakeTime (now + count) ∧ Passes slot before .tick after := by
    obtain ⟨before, run, queued, orderlyBefore, ownedBefore⟩ := orderly.ticking owned slot count
    obtain ⟨_, after, _, _, done, _⟩ := orderlyBefore.tick ownedBefore
    have later := dormant.run run (by rwa [ticksIn_replicate])
    rw [ticksIn_replicate] at later
    exact ⟨before, after, run, later, ⟨queued, orderlyBefore, ownedBefore⟩, trivial, done⟩
  have notEarly (count : Nat) (isPositive : 1 ≤ count) (early : count * 10 < ms) :
      ¬ wakeTime ≤ (now + count) % 2 ^ 32 := by
    induction count using Nat.strong_induction_on with
    | _ count ih =>
        obtain ⟨count, rfl⟩ : ∃ previous, count = previous + 1 := ⟨count - 1, by omega⟩
        obtain ⟨before, after, run, dormantBefore, passes⟩ :=
          upTo count fun less isPositive bounded => ih less (by omega) isPositive (by omega)
        intro due
        have tick := dormantBefore.tick passes
        rw [Nat.add_assoc, if_pos due] at tick
        obtain ⟨_, _, _, awake⟩ := tick
        have whole := run.append (.single passes)
        have asleepStill := wakes.notEarlier _ after whole (by
          rw [← List.replicate_succ', ticksIn_replicate]
          exact early)
        simp [Awake, asleepStill] at awake
  refine ⟨notEarly, ?_⟩
  obtain ⟨count, deadline⟩ : ∃ count, (ms + 9) / 10 = count + 1 := ⟨(ms + 9) / 10 - 1, by omega⟩
  obtain ⟨before, after, run, dormantBefore, passes⟩ :=
    upTo count fun less isPositive bounded => notEarly less isPositive (by omega)
  have ready := wakes.notLater _ before after run (by rw [ticksIn_replicate]; omega)
    (by rw [ticksIn_replicate]; omega) passes
  by_contra late
  have tick := dormantBefore.tick passes
  rw [Nat.add_assoc, ← deadline, if_neg late] at tick
  obtain ⟨_, _, _, awake⟩ := ready
  exact tick.notAwake awake

theorem Dormant.wakesOnTime (dormant : Dormant asleep slot wakeTime now) (orderly : Orderly asleep queued)
    (owned : Owned asleep queued)
    (notEarly : ∀ count, 1 ≤ count → count * 10 < ms → ¬ wakeTime ≤ (now + count) % 2 ^ 32)
    (due : wakeTime ≤ (now + (ms + 9) / 10) % 2 ^ 32) : WakesOnTime asleep slot ms := by
  have sleeps (calls : List SchedCall) (before : Sched) (run : Run (Passes slot) asleep calls before)
      (early : ticksIn calls * 10 < ms) : Dormant before slot wakeTime (now + ticksIn calls) :=
    dormant.run run fun count isPositive bounded => notEarly count isPositive (by omega)
  refine ⟨?_, ?_, ?_⟩
  · intro count
    obtain ⟨after, run, _⟩ := orderly.ticking owned slot count
    exact ⟨after, run⟩
  · intro calls after run early
    exact (sleeps calls after run early).state
  · intro calls before after run early reached passes
    have tick := (sleeps calls before run early).tick passes
    have deadline : ticksIn calls + 1 = (ms + 9) / 10 := by omega
    rwa [Nat.add_assoc, deadline, if_pos due] at tick

/-- A task that sleeps is woken on time exactly if its duration is a whole number of ticks and the 32-bit wake time does not
wrap around, or if it is below one tick. -/
theorem schedulerSleep_wakesOnTime_iff (orderly : Orderly sched queued) (selected : sched.current = some slot)
    (member : queued slot) (positive : 1 ≤ ms) (bounded : ms ≤ schedMaxSleepMs) :
    ∃ asleep, schedulerSleep sched ms = some asleep ∧
      (WakesOnTime asleep slot ms ↔ ExactDuration sched.ticks ms) := by
  obtain ⟨asleep, done, orderlyAfter, ownedAfter, dormant⟩ := orderly.sleep selected member positive bounded
  refine ⟨asleep, done, ?_⟩
  rw [exactDuration_iff positive bounded]
  constructor
  · intro wakes
    exact wakes.exact dormant orderlyAfter ownedAfter positive
  · intro prompt
    exact dormant.wakesOnTime orderlyAfter ownedAfter prompt.1 prompt.2

theorem pairSched_orderly (ticks : Nat) :
    Orderly { pairSched with ticks } fun slot => Runnable (pairSched.taskPool slot) := by
  have formed : QueuesWellFormed { pairSched with ticks } := pairSched_wellFormed.queues
  exact formed.orderly pairSched_wellFormed.priorities

theorem pairSched_runnable : Runnable (pairSched.taskPool 0) := ⟨by decide, by decide⟩

theorem schedulerSleep_wakesOnTime_iff_twenty :
    ∃ asleep, schedulerSleep pairSched 20 = some asleep ∧ WakesOnTime asleep 0 20 := by
  obtain ⟨asleep, done, exact⟩ := schedulerSleep_wakesOnTime_iff (pairSched_orderly pairSched.ticks) rfl
    pairSched_runnable (by decide : 1 ≤ 20) (by decide)
  exact ⟨asleep, done, exact.mpr (by decide)⟩

/-- Fifteen milliseconds end with the first tick, and so do twenty just before the tick count passes `2 ^ 32`. -/
theorem sleep_ends_early :
    (∃ asleep, schedulerSleep pairSched 15 = some asleep ∧ ¬ WakesOnTime asleep 0 15) ∧
      ∃ asleep, schedulerSleep { pairSched with ticks := 2 ^ 32 - 2 } 20 = some asleep ∧
        ¬ WakesOnTime asleep 0 20 := by
  constructor
  · obtain ⟨asleep, done, orderly, owned, dormant⟩ :=
      (pairSched_orderly pairSched.ticks).sleep rfl pairSched_runnable (by decide : 1 ≤ 15) (by decide)
    refine ⟨asleep, done, ?_⟩
    intro wakes
    exact (wakes.exact dormant orderly owned (by decide)).1 1 (by decide) (by decide) (by decide)
  · obtain ⟨asleep, done, orderly, owned, dormant⟩ :=
      (pairSched_orderly (2 ^ 32 - 2)).sleep rfl pairSched_runnable (by decide : 1 ≤ 20) (by decide)
    refine ⟨asleep, done, ?_⟩
    intro wakes
    exact (wakes.exact dormant orderly owned (by decide)).1 1 (by decide) (by decide) (by decide)

end AutismOS.Scheduler
