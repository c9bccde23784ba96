import AutismOS.Library.Run
import AutismOS.Scheduler.Invariant
import Mathlib.Data.Finset.Insert

namespace AutismOS.Scheduler

open AutismOS.Library

variable {sched before after edited : Sched} {slot : Slot} {slots : List Slot} {task : Option Nat}
variable {call : SchedCall} {calls : List SchedCall}

/-- The scheduler, and the slots whose task has exited and has not been removed since. -/
structure Roster where
  sched : Sched
  exited : Finset Slot

/-- The exited tasks after a call. -/
def exitedAfter (roster : Roster) : SchedCall → Finset Slot
  | .exit => roster.sched.current.elim roster.exited fun current => insert current roster.exited
  | .removeTask task => (findSchedTask roster.sched task).elim roster.exited roster.exited.erase
  -- a task that is added has not exited, whatever the slot held before
  | .addTask _ _ _ => (findFreeSlot roster.sched).elim roster.exited roster.exited.erase
  | _ => roster.exited

def rosterStep (roster : Roster) (call : SchedCall) : Option Roster :=
  (schedStep roster.sched call).map fun after => ⟨after, exitedAfter roster call⟩

/-- Every slot holds a task that has neither exited nor been removed. -/
def Roster.Full (roster : Roster) : Prop :=
  ∀ slot, (roster.sched.taskPool slot).task ≠ none ∧ slot ∉ roster.exited

/-- Adding the task fails only when every slot holds a task that has neither exited nor been removed. -/
def FailsOnlyFull (roster : Roster) (task : Option Nat) : Prop :=
  ∀ process priority state, schedulerAddTask roster.sched task process priority = some (-1, state) → roster.Full

/-- A slot without a task is free, except that the scheduler may be running it. -/
def Vacated (sched : Sched) : Prop :=
  ∀ slot, (sched.taskPool slot).task = none →
    (sched.taskPool slot).state = .terminated ∨ sched.current = some slot

/-- The current entry holds a task, or its slot is free. -/
def CurrentPlaced (sched : Sched) : Prop :=
  ∀ slot, sched.current = some slot → (sched.taskPool slot).task = none → (sched.taskPool slot).state = .terminated

/-- The calls that never leave a slot that has no task and is not free: only a current entry that
holds a task stops, and only such an entry, or a free one, is switched away from. -/
def GivesBack (sched : Sched) : SchedCall → Prop
  | .addTask _ _ _ | .removeTask _ | .wake _ | .setPriority _ _ => True
  | .yield | .tick => CurrentPlaced sched
  | .block _ | .exit => CurrentHeld sched
  | .sleep ms => ms ≠ 0 → CurrentHeld sched

theorem SameTasks.vacated (same : SameTasks before after) (vacated : Vacated before) : Vacated after := by
  intro slot empty
  rw [same.task] at empty
  rw [same.state, same.current]
  exact vacated slot empty

theorem SameTasks.currentPlaced (same : SameTasks before after) (placed : CurrentPlaced before) :
    CurrentPlaced after := by
  intro slot selected empty
  rw [same.current] at selected
  rw [same.task] at empty
  rw [same.state]
  exact placed slot selected empty

theorem CurrentHeld.placed (held : CurrentHeld sched) : CurrentPlaced sched :=
  fun slot selected empty => absurd empty (held slot selected)

/-- Changing one entry, when that entry still holds a task, is free or is the current one. -/
theorem Vacated.modifyTask (vacated : Vacated sched) (change : SchedTask → SchedTask)
    (changed : (change (sched.taskPool slot)).task = none →
      (change (sched.taskPool slot)).state = .terminated ∨ sched.current = some slot) :
    Vacated (sched.modifyTask slot change) := by
  intro other empty
  by_cases isSlot : other = slot
  · subst isSlot
    rw [Sched.modifyTask_same] at empty ⊢
    exact changed empty
  · rw [Sched.modifyTask_other _ _ isSlot] at empty ⊢
    exact vacated other empty

theorem Woken.terminated (woken : Woken before slots after) (free : (before.taskPool slot).state = .terminated) :
    (after.taskPool slot).state = .terminated := by
  have notDue : ¬ (slot ∈ slots ∧ SleeperDue before slot) := fun due => by simp [due.2.1] at free
  rw [woken.state, if_neg notDue, free]

theorem Woken.vacated (woken : Woken before slots after) (vacated : Vacated before) : Vacated after := by
  intro slot empty
  rw [woken.task] at empty
  rw [woken.current]
  rcases vacated slot empty with free | selected
  · exact Or.inl (woken.terminated free)
  · exact Or.inr selected

/-- No edit leaves a slot without a task that is neither free nor current. -/
theorem Edit.vacated (edit : Edit sched call edited) (vacated : Vacated sched) : Vacated edited := by
  cases edit with
  | unchanged => exact vacated
  | admitted present => exact vacated.modifyTask _ fun empty => absurd empty present
  | released => exact vacated.modifyTask _ fun _ => Or.inl rfl
  | stopped _ running => exact vacated.modifyTask _ fun _ => Or.inr running
  | woken found =>
      obtain ⟨held, present⟩ := findSchedTask_spec found
      exact vacated.modifyTask _ fun empty => absurd (held.symm.trans empty) present
  | @ticked middle woken =>
      have kept : Vacated middle := woken.vacated vacated
      cases running : middle.current with
      | none => exact kept
      | some current => exact kept.modifyTask _ (kept current)
  | reprioritised => exact vacated.modifyTask _ (vacated _)

/-- Switching away from an entry that holds a task, or whose slot is free. -/
theorem schedulerYield_vacated (vacated : Vacated before) (placed : CurrentPlaced before)
    (done : schedulerYield before = some after) : Vacated after := by
  rcases schedulerYield_cases done with ⟨rfl, _⟩ | ⟨current, next, _, selected, _, _, switched⟩
  · exact vacated
  · intro slot empty
    rw [switched.task] at empty
    rw [switched.selected]
    by_cases isNext : slot = next
    · exact Or.inr (congrArg some isNext.symm)
    · left
      by_cases isCurrent : slot = current
      · subst isCurrent
        have free := placed slot selected empty
        rw [switched.state_current, if_neg (by simp [free]), free]
      · rw [switched.state_other isCurrent isNext]
        refine (vacated slot empty).resolve_right ?_
        intro current
        exact isCurrent (Option.some.inj (current.symm.trans selected))

theorem Woken.currentPlaced (woken : Woken before slots after) (placed : CurrentPlaced before) :
    CurrentPlaced after := by
  intro slot selected empty
  rw [woken.current] at selected
  rw [woken.task] at empty
  exact woken.terminated (placed slot selected empty)

/-- Changing one entry without giving up its task or its free slot. -/
theorem CurrentPlaced.modifyTask (placed : CurrentPlaced sched) (change : SchedTask → SchedTask)
    (changed : (change (sched.taskPool slot)).task = none →
      (sched.taskPool slot).task = none ∧ ((sched.taskPool slot).state = .terminated →
        (change (sched.taskPool slot)).state = .terminated)) :
    CurrentPlaced (sched.modifyTask slot change) := by
  intro other selected empty
  by_cases isSlot : other = slot
  · subst isSlot
    rw [Sched.modifyTask_same] at empty ⊢
    exact (changed empty).2 (placed other selected (changed empty).1)
  · rw [Sched.modifyTask_other _ _ isSlot] at empty ⊢
    exact placed other selected empty

/-- A call that yields does so with a current entry that holds a task or whose slot is free. -/
theorem Edit.currentPlaced (edit : Edit sched call edited) (yields : ¬ call.Quiet) (placed : CurrentPlaced sched)
    (held : ∀ state, call.stopsAs = some state → CurrentHeld sched) : CurrentPlaced edited := by
  cases edit with
  | unchanged => exact placed
  | admitted => exact absurd trivial yields
  | released => exact absurd trivial yields
  | stopped change selected stops _ keepsTask =>
      refine placed.modifyTask change ?_
      intro empty
      rw [keepsTask] at empty
      exact absurd empty (held _ stops _ selected)
  | woken => exact absurd trivial yields
  | @ticked middle woken =>
      have kept : CurrentPlaced middle := woken.currentPlaced placed
      cases running : middle.current with
      | none => exact kept
      | some current => exact kept.modifyTask _ fun empty => ⟨empty, id⟩
  | reprioritised => exact absurd trivial yields

theorem schedStep_vacated (vacated : Vacated before) (gives : GivesBack before call)
    (done : schedStep before call = some after) : Vacated after := by
  by_cases quiet : call.Quiet
  · obtain ⟨edited, edit, same⟩ := schedStep_edits quiet done
    exact same.vacated (edit.vacated vacated)
  · have yielding (placed : CurrentPlaced before)
        (held : ∀ state, call.stopsAs = some state → CurrentHeld before) : Vacated after := by
      obtain ⟨edited, queued, edit, same, outcome⟩ := schedStep_cases done
      have kept := same.vacated (edit.vacated vacated)
      rcases outcome with rfl | yielded
      · exact kept
      · exact schedulerYield_vacated kept (same.currentPlaced (edit.currentPlaced quiet placed held)) yielded
    cases call with
    | addTask => exact absurd trivial quiet
    | removeTask => exact absurd trivial quiet
    | yield => exact yielding gives (by simp [SchedCall.stopsAs])
    | block => exact yielding gives.placed fun _ _ => gives
    | wake => exact absurd trivial quiet
    | sleep ms =>
        by_cases zero : ms = 0
        · -- `scheduler_sleep(0)` returns at once
          have nothing : schedulerSleep before ms = some before := by
            cases selected : before.current <;> simp [schedulerSleep, selected, zero]
          obtain rfl := Option.some.inj (nothing.symm.trans done)
          exact vacated
        · exact yielding (gives zero).placed fun _ _ => gives zero
    | tick => exact yielding gives (by simp [SchedCall.stopsAs])
    | setPriority => exact absurd trivial quiet
    | exit => exact yielding gives.placed fun _ _ => gives

theorem Edit.initialized (edit : Edit sched call edited) : edited.initialized = sched.initialized := by
  cases edit with
  | @ticked middle woken =>
      have kept : middle.initialized = sched.initialized := woken.initialized
      cases running : middle.current with
      | none => exact kept
      | some current => exact kept
  | _ => rfl

theorem schedStep_initialized (done : schedStep before call = some after) :
    after.initialized = before.initialized := by
  obtain ⟨edited, queued, edit, same, outcome⟩ := schedStep_cases done
  have kept := same.initialized.trans edit.initialized
  rcases outcome with rfl | yielded
  · exact kept
  · rcases schedulerYield_cases yielded with ⟨rfl, _⟩ | ⟨_, _, _, _, _, _, switched⟩
    · exact kept
    · exact switched.initialized.trans kept

theorem findFreeSlot_none (vacated : Vacated sched) (placed : CurrentPlaced sched) :
    findFreeSlot sched = none ↔ ∀ slot, (sched.taskPool slot).task ≠ none := by
  rw [findFreeSlot, List.find?_eq_none]
  constructor
  · intro nowhere slot empty
    have free : (sched.taskPool slot).state = .terminated :=
      (vacated slot empty).elim id fun selected => placed slot selected empty
    exact nowhere slot (List.mem_finRange slot) (by simp [empty, free])
  · intro taken slot _
    simp [taken slot]

theorem schedulerAddTask_fails (ready : sched.initialized = true) (present : task ≠ none) {process : Option Nat}
    {priority : SchedPriority} :
    schedulerAddTask sched task process priority = some (-1, after) ↔ findFreeSlot sched = none ∧ after = sched := by
  have admitted : ¬ (!sched.initialized ∨ task = none) := by simp [ready, present]
  rw [schedulerAddTask, if_neg admitted]
  cases free : findFreeSlot sched with
  | none => simp [eq_comm]
  | some stask => simp

/-- With every slot either free or taken, a refusal means that all slots are taken. -/
theorem Vacated.failsOnlyFull_iff {roster : Roster} (ready : roster.sched.initialized = true)
    (vacated : Vacated roster.sched) (placed : CurrentPlaced roster.sched) (present : task ≠ none) :
    FailsOnlyFull roster task ↔ (∃ slot, (roster.sched.taskPool slot).task = none) ∨ roster.exited = ∅ := by
  constructor
  · intro only
    by_cases room : ∃ slot, (roster.sched.taskPool slot).task = none
    · exact Or.inl room
    · right
      rw [not_exists] at room
      have nowhere := (findFreeSlot_none vacated placed).mpr room
      have full := only none 0 roster.sched ((schedulerAddTask_fails ready present).mpr ⟨nowhere, rfl⟩)
      exact Finset.eq_empty_iff_forall_notMem.mpr fun slot => (full slot).2
  · intro condition process priority state fails slot
    have taken := (findFreeSlot_none vacated placed).mp ((schedulerAddTask_fails ready present).mp fails).1
    rcases condition with ⟨slot', empty⟩ | nobody
    · exact absurd empty (taken slot')
    · exact ⟨taken slot, by simp [nobody]⟩

/-- In a run that leaves no slot behind, adding a task fails only when all slots hold live tasks, exactly
as long as a slot holds no task or no exited task is waiting to be removed. -/
theorem run_add_fails_only_full {before after : Roster} (ready : before.sched.initialized = true)
    (vacant : ∀ slot, (before.sched.taskPool slot).task = none → (before.sched.taskPool slot).state = .terminated)
    (run : Restricted rosterStep (fun roster => GivesBack roster.sched) before calls after)
    (placed : CurrentPlaced after.sched) (present : task ≠ none) :
    FailsOnlyFull after task ↔ (∃ slot, (after.sched.taskPool slot).task = none) ∨ after.exited = ∅ := by
  have kept : after.sched.initialized = true ∧ Vacated after.sched := by
    refine run.invariant (fun roster => roster.sched.initialized = true ∧ Vacated roster.sched) ?_
      ⟨ready, fun slot empty => Or.inl (vacant slot empty)⟩
    intro roster call next held performed
    obtain ⟨gives, done⟩ := performed
    obtain ⟨state, returned, rfl⟩ := Option.map_eq_some_iff.mp done
    exact ⟨(schedStep_initialized returned).trans held.1, schedStep_vacated held.2 gives returned⟩
  exact kept.2.failsOnlyFull_iff kept.1 placed present

/-- Two tasks of one priority while all other slots hold blocked tasks. -/
def fullSched : Sched :=
  { pairSched with
    taskPool := fun slot =>
      if slot.val < 2 then pairSched.taskPool slot
      else { normalTask (0x3000 + slot.val) none none with state := .blocked }
    stats := { pairSched.stats with totalTasks := 64, blockedTasks := 62 } }

theorem fullSched_links : fullSched.links = pairSched.links := by
  have entries (slot : Slot) : (fullSched.taskPool slot).next = (pairSched.taskPool slot).next ∧
      (fullSched.taskPool slot).prev = (pairSched.taskPool slot).prev := by
    revert slot
    decide
  ext1 <;> funext slot
  · exact (entries slot).1
  · exact (entries slot).2

theorem fullSched_wellFormed : WellFormed fullSched := by
  have same (slot : Slot) (queue : Fin 8) :
      Runnable (pairSched.taskPool slot) ∧ (pairSched.taskPool slot).priority = queue.val ↔
        Runnable (fullSched.taskPool slot) ∧ (fullSched.taskPool slot).priority = queue.val := by
    by_cases first : slot.val < 2
    · have entry : fullSched.taskPool slot = pairSched.taskPool slot := if_pos first
      rw [entry]
    · have notFirst : slot ≠ 0 := fun same => first (by rw [same]; decide)
      have notSecond : slot ≠ 1 := fun same => first (by rw [same]; decide)
      have entry : fullSched.taskPool slot =
          { normalTask (0x3000 + slot.val) none none with state := .blocked } := if_neg first
      rw [entry]
      simp [Runnable, pairSched, clearedTask, notFirst, notSecond]
  refine ⟨?_, ?_, ?_⟩
  · intro queue
    obtain ⟨nodes, threads, nodup, holds⟩ := pairSched_wellFormed.queues queue
    exact ⟨nodes, fullSched_links ▸ threads, nodup, fun slot => (holds slot).trans (same slot queue)⟩
  · intro slot selected
    obtain rfl : (0 : Slot) = slot := Option.some.inj selected
    rfl
  · intro slot
    by_cases first : slot.val < 2
    · have entry : fullSched.taskPool slot = pairSched.taskPool slot := if_pos first
      rw [entry]
      exact pairSched_wellFormed.priorities slot
    · have entry : fullSched.taskPool slot =
          { normalTask (0x3000 + slot.val) none none with state := .blocked } := if_neg first
      rw [entry]
      change 4 < 8
      decide

theorem fullSched_taken (slot : Slot) : (fullSched.taskPool slot).task ≠ none := by
  revert slot
  decide

theorem fullSched_gives : GivesBack fullSched .exit := by
  intro slot _
  exact fullSched_taken slot

theorem fullSched_exits {exited : Sched} (done : schedStep fullSched .exit = some exited) :
    rosterStep ⟨fullSched, ∅⟩ .exit = some ⟨exited, {0}⟩ := by
  rw [rosterStep, done]
  rfl

/-- The first task exits and is removed, and its slot can be used again. -/
theorem run_add_fails_only_full_removed :
    ∃ after, Restricted rosterStep (fun roster => GivesBack roster.sched) ⟨fullSched, ∅⟩
        [.exit, .removeTask (some 0x1000)] after ∧ FailsOnlyFull after (some 0x9000) := by
  have seen : (schedStep fullSched .exit).map (fun state =>
      ((schedulerRemoveTask state (some 0x1000)).current,
        ((schedulerRemoveTask state (some 0x1000)).taskPool 1).task,
        ((schedulerRemoveTask state (some 0x1000)).taskPool 0).task)) = some (some 1, some 0x2000, none) := by
    decide +kernel
  obtain ⟨exited, done, values⟩ := Option.map_eq_some_iff.mp seen
  simp only [Prod.mk.injEq] at values
  obtain ⟨selected, held, empty⟩ := values
  have run : Restricted rosterStep (fun roster => GivesBack roster.sched) ⟨fullSched, ∅⟩
      [.exit, .removeTask (some 0x1000)] _ := .cons ⟨fullSched_gives, fullSched_exits done⟩ (.single ⟨trivial, rfl⟩)
  refine ⟨_, run, (run_add_fails_only_full rfl ?_ run ?_ (by decide)).mpr (Or.inl ⟨0, empty⟩)⟩
  · intro slot none
    exact absurd none (fullSched_taken slot)
  · intro slot current none
    obtain rfl := Option.some.inj (selected.symm.trans current)
    exact absurd (held.symm.trans none) (by decide)

/-- After one of 64 tasks has exited there is no slot for another one. -/
theorem exited_task_keeps_slot :
    WellFormed fullSched ∧ ∃ after, Run (Stepping rosterStep) ⟨fullSched, ∅⟩ [.exit] after ∧
      after.exited = {0} ∧ schedulerAddTask after.sched (some 0x9000) none 4 = some (-1, after.sched) ∧
      ¬ FailsOnlyFull after (some 0x9000) := by
  have seen : (schedStep fullSched .exit).map (fun state => (state.initialized, findFreeSlot state)) =
      some (true, none) := by decide +kernel
  obtain ⟨exited, done, values⟩ := Option.map_eq_some_iff.mp seen
  simp only [Prod.mk.injEq] at values
  obtain ⟨ready, nowhere⟩ := values
  have fails : schedulerAddTask exited (some 0x9000) none 4 = some (-1, exited) :=
    (schedulerAddTask_fails ready (by decide)).mpr ⟨nowhere, rfl⟩
  refine ⟨fullSched_wellFormed, ⟨exited, {0}⟩, .single (fullSched_exits done), rfl, fails, ?_⟩
  intro only
  exact (only none 4 exited fails 0).2 (Finset.mem_singleton_self 0)

end AutismOS.Scheduler
