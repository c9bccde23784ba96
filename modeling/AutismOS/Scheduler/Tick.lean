import AutismOS.Scheduler.Calls

namespace AutismOS.Scheduler

open AutismOS.Library

variable {sched before after : Sched} {slot other current : Slot}
variable {queued : Slot → Prop} {slots : List Slot}

/-- Over arranged queues the wake-up loop returns and queues exactly the due sleepers in addition. -/
theorem Arranged.wakeLoop (nodup : slots.Nodup) (arranged : Arranged sched queued)
    (asleep : ∀ slot ∈ slots, SleeperDue sched slot → ¬ queued slot) :
    ∃ after, slots.foldlM wakeSleeper sched = some after ∧
      Arranged after (fun slot => queued slot ∨ slot ∈ slots ∧ SleeperDue sched slot) := by
  induction slots generalizing sched queued with
  | nil => exact ⟨sched, rfl, arranged.congr fun slot => by simp⟩
  | cons first rest ih =>
      obtain ⟨absent, restNodup⟩ := List.nodup_cons.mp nodup
      have one : ∃ middle, wakeSleeper sched first = some middle ∧
          Arranged middle (fun slot => queued slot ∨ slot = first ∧ SleeperDue sched slot) := by
        unfold wakeSleeper
        by_cases due : SleeperDue sched first
        · rw [if_pos due]
          have fresh := asleep first (by simp) due
          obtain ⟨middle, done, _, appended⟩ := (arranged.modifyUnqueued fresh fun entry =>
            { entry with state := .ready, wakeTime := 0 }).enqueueTask fresh
          refine ⟨middle, done, appended.congr fun slot => or_congr_right ?_⟩
          exact ⟨fun both => both.1, fun same => ⟨same, same ▸ due⟩⟩
        · rw [if_neg due]
          refine ⟨sched, rfl, arranged.congr fun slot => or_iff_left ?_⟩
          rintro ⟨rfl, isDue⟩
          exact due isDue
      obtain ⟨middle, done, arrangedMiddle⟩ := one
      have woken := wakeSleeper_woken done
      have notFirst (slot : Slot) (member : slot ∈ rest) : slot ∉ [first] := by
        simp only [List.mem_singleton]
        exact fun same => absent (same ▸ member)
      obtain ⟨after, remaining, arrangedAfter⟩ := ih restNodup arrangedMiddle (by
        rintro slot member due (isQueued | ⟨same, _⟩)
        · rw [woken.sleeperDue_of_not_mem (notFirst slot member)] at due
          exact asleep slot (by simp [member]) due isQueued
        · exact absent (same ▸ member))
      refine ⟨after, ?_, arrangedAfter.congr fun slot => ?_⟩
      · rw [List.foldlM_cons, done]
        exact remaining
      · rw [or_assoc]
        refine or_congr_right ?_
        by_cases member : slot ∈ rest
        · have different : slot ≠ first := fun same => absent (same ▸ member)
          rw [woken.sleeperDue_of_not_mem (notFirst slot member)]
          simp [member, different]
        · simp [member]

theorem advanceTicks_taskPool (sched : Sched) : (advanceTicks sched).taskPool = sched.taskPool := rfl

/-- The wake-up loop of a tick over a settled state. -/
theorem Settled.wakeLoop (settled : Settled sched) :
    ∃ after, (List.finRange 64).foldlM wakeSleeper (advanceTicks sched) = some after ∧
      Woken (advanceTicks sched) (List.finRange 64) after ∧
      Arranged after (fun slot =>
        Runnable (sched.taskPool slot) ∨ SleeperDue (advanceTicks sched) slot) := by
  have arranged : Arranged (advanceTicks sched) (fun slot => Runnable (sched.taskPool slot)) :=
    settled.arranged.transfer rfl rfl fun _ _ => rfl
  obtain ⟨after, done, arrangedAfter⟩ := arranged.wakeLoop (List.nodup_finRange 64)
    fun slot _ due runnable => by
      have asleep : (sched.taskPool slot).state = .sleeping := due.1
      simp [Runnable, asleep] at runnable
  refine ⟨after, done, wakeLoop_woken (List.nodup_finRange 64) done, arrangedAfter.congr fun slot => ?_⟩
  simp

/-- After the loop an entry is runnable if it was, or if it holds a task that was due. -/
theorem Woken.runnable (woken : Woken (advanceTicks sched) (List.finRange 64) after) (slot : Slot) :
    Runnable (after.taskPool slot) ↔ Runnable (sched.taskPool slot) ∨
      SleeperDue (advanceTicks sched) slot ∧ (sched.taskPool slot).task ≠ none := by
  have listed : slot ∈ List.finRange 64 := by simp
  have state := woken.state slot
  by_cases due : SleeperDue (advanceTicks sched) slot
  · have asleep : (sched.taskPool slot).state = .sleeping := due.1
    rw [if_pos ⟨listed, due⟩] at state
    simp [Runnable, woken.task, state, due, asleep, advanceTicks_taskPool]
  · rw [if_neg fun both => due both.2] at state
    simp [Runnable, woken.task, state, due, advanceTicks_taskPool]

theorem Woken.currentRunning (woken : Woken (advanceTicks sched) (List.finRange 64) after)
    (running : CurrentRunning sched) : CurrentRunning after := by
  intro slot selected
  have wasRunning := running slot (woken.current.symm.trans selected)
  have notDue : ¬ SleeperDue (advanceTicks sched) slot := fun due => by
    have asleep : (sched.taskPool slot).state = .sleeping := due.1
    simp [wasRunning] at asleep
  have state := woken.state slot
  rw [if_neg fun both => notDue both.2] at state
  exact state.trans wasRunning

theorem modifyTask_chargeTick (sched : Sched) (current slot : Slot) :
    (sched.modifyTask current chargeTick).taskPool slot =
      if slot = current then chargeTick (sched.taskPool slot) else sched.taskPool slot := by
  by_cases isCurrent : slot = current
  · subst isCurrent; simp
  · simp [Sched.modifyTask_other _ _ isCurrent, isCurrent]

/-- Charging a tick changes nothing that the queues and the current task depend on. -/
theorem runnable_chargeTick (sched : Sched) (current slot : Slot) :
    Runnable ((sched.modifyTask current chargeTick).taskPool slot) ↔
      Runnable (sched.taskPool slot) := by
  rw [modifyTask_chargeTick]
  split <;> rfl

theorem Settled.chargeTick (settled : Settled sched) (current : Slot) :
    Settled (sched.modifyTask current chargeTick) := by
  refine ⟨(settled.arranged.modifyTask current Scheduler.chargeTick (fun _ => rfl)
    (fun _ => rfl) (fun _ _ => rfl)).congr (runnable_chargeTick sched current), ?_⟩
  intro slot selected
  rw [modifyTask_chargeTick]
  have running := settled.current slot selected
  split <;> exact running

theorem CurrentHeld.chargeTick (held : CurrentHeld sched) (current : Slot) :
    CurrentHeld (sched.modifyTask current chargeTick) := by
  intro slot selected
  rw [modifyTask_chargeTick]
  have present := held slot selected
  split <;> exact present

/-- The time slice of the current task ends with the next tick charged to it. -/
def SliceEnds (sched : Sched) : Prop :=
  ∃ current, sched.current = some current ∧ (sched.taskPool current).timeSlice ≤ 1

theorem chargeCurrent_eq (sched : Sched) (selected : sched.current = some current) :
    chargeCurrent sched =
      if (sched.taskPool current).timeSlice ≤ 1 then
        schedulerYield (sched.modifyTask current chargeTick)
      else some (sched.modifyTask current chargeTick) := by
  simp only [chargeCurrent, selected, Sched.modifyTask_same, Scheduler.chargeTick, decrement]
  by_cases ends : (sched.taskPool current).timeSlice ≤ 1
  · rw [if_pos ends, if_pos (by split <;> omega)]
  · rw [if_neg ends, if_neg (by split <;> omega)]

theorem chargeCurrent_spec (settled : Settled sched) (allowed : SliceEnds sched → MayRequeue sched) :
    ∃ after, chargeCurrent sched = some after ∧ Settled after ∧
      (CurrentHeld sched → CurrentHeld after) := by
  cases selected : sched.current with
  | none =>
      refine ⟨sched, ?_, settled, id⟩
      simp [chargeCurrent, selected]
  | some current =>
      rw [chargeCurrent_eq sched selected]
      by_cases ends : (sched.taskPool current).timeSlice ≤ 1
      · rw [if_pos ends]
        have allowedAfter : MayRequeue (sched.modifyTask current Scheduler.chargeTick) := by
          rcases allowed ⟨current, selected, ends⟩ with held | off | nobody
          · exact Or.inl (held.chargeTick current)
          · exact Or.inr (Or.inl off)
          · exact Or.inr (Or.inr fun slot => by rw [runnable_chargeTick]; exact nobody slot)
        obtain ⟨after, done, settledAfter, held⟩ :=
          schedulerYield_spec (settled.chargeTick current) allowedAfter
        exact ⟨after, done, settledAfter, fun before => held (before.chargeTick current)⟩
      · rw [if_neg ends]
        exact ⟨_, rfl, settled.chargeTick current, fun held => held.chargeTick current⟩

/-- The condition under which a tick keeps the queues: every sleeper it wakes
holds a task, and a vacant current entry is not put back on a queue. -/
def TickAllowed (sched : Sched) : Prop :=
  (∀ slot, SleeperDue (advanceTicks sched) slot → (sched.taskPool slot).task ≠ none) ∧
    (SliceEnds sched → CurrentHeld sched ∨ sched.initialized = false ∨
      ∀ slot, ¬ Runnable (sched.taskPool slot) ∧ ¬ SleeperDue (advanceTicks sched) slot)

theorem schedulerTick_spec (settled : Settled sched) (allowed : TickAllowed sched) :
    ∃ after, schedulerTick sched = some after ∧ Settled after ∧
      (CurrentHeld sched → CurrentHeld after) := by
  obtain ⟨occupied, requeues⟩ := allowed
  obtain ⟨middle, loop, woken, arranged⟩ := settled.wakeLoop
  have settledMiddle : Settled middle := by
    refine ⟨arranged.congr fun slot => ?_, woken.currentRunning settled.current⟩
    rw [woken.runnable]
    exact or_congr_right (and_iff_left_of_imp (occupied slot))
  have heldMiddle (held : CurrentHeld sched) : CurrentHeld middle := fun slot selected => by
    rw [woken.task]
    exact held slot (woken.current.symm.trans selected)
  have allowedMiddle (ends : SliceEnds middle) : MayRequeue middle := by
    obtain ⟨current, selected, short⟩ := ends
    rw [woken.timeSlice] at short
    rcases requeues ⟨current, woken.current.symm.trans selected, short⟩ with held | off | nobody
    · exact Or.inl (heldMiddle held)
    · exact Or.inr (Or.inl (woken.initialized.trans off))
    · refine Or.inr (Or.inr fun slot => ?_)
      rw [woken.runnable]
      exact fun runnable => runnable.elim (nobody slot).1 fun both => (nobody slot).2 both.1
  obtain ⟨after, charged, settledAfter, held⟩ := chargeCurrent_spec settledMiddle allowedMiddle
  exact ⟨after, by rw [schedulerTick, loop]; exact charged, settledAfter,
    fun before => held (heldMiddle before)⟩

end AutismOS.Scheduler
