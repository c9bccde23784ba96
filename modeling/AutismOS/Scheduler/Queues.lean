import AutismOS.Scheduler.Core
import Mathlib.Data.Fin.Basic
import Mathlib.Data.List.FinRange

namespace AutismOS.Scheduler

open AutismOS.Library

variable {sched before after : Sched} {slot other stask : Slot} {queue : Fin 8}

namespace Sched

variable (sched) (change : SchedTask → SchedTask)

@[simp] theorem modifyTask_same :
    (sched.modifyTask slot change).taskPool slot = change (sched.taskPool slot) := by
  simp [modifyTask]

theorem modifyTask_other (different : other ≠ slot) :
    (sched.modifyTask slot change).taskPool other = sched.taskPool other := by
  simp [modifyTask, different]

@[simp] theorem modifyTask_runQueues : (sched.modifyTask slot change).runQueues = sched.runQueues := rfl
@[simp] theorem modifyTask_current : (sched.modifyTask slot change).current = sched.current := rfl
@[simp] theorem modifyTask_initialized :
    (sched.modifyTask slot change).initialized = sched.initialized := rfl
@[simp] theorem modifyTask_ticks : (sched.modifyTask slot change).ticks = sched.ticks := rfl

@[simp] theorem setNext_links (next : Option Slot) :
    (sched.setNext slot next).links =
      { sched.links with next := Function.update sched.links.next slot next } := by
  ext1 <;> funext other <;> by_cases same : other = slot
  · subst same; simp [setNext, links]
  · simp [setNext, links, modifyTask_other, same]
  · subst same; simp [setNext, links]
  · simp [setNext, links, modifyTask_other, same]

@[simp] theorem setPrev_links (prev : Option Slot) :
    (sched.setPrev slot prev).links =
      { sched.links with prev := Function.update sched.links.prev slot prev } := by
  ext1 <;> funext other <;> by_cases same : other = slot
  · subst same; simp [setPrev, links]
  · simp [setPrev, links, modifyTask_other, same]
  · subst same; simp [setPrev, links]
  · simp [setPrev, links, modifyTask_other, same]

@[simp] theorem setQueue_links (head : Option Slot) : (sched.setQueue queue head).links = sched.links := rfl
@[simp] theorem setNext_runQueues (next : Option Slot) :
    (sched.setNext slot next).runQueues = sched.runQueues := rfl
@[simp] theorem setPrev_runQueues (prev : Option Slot) :
    (sched.setPrev slot prev).runQueues = sched.runQueues := rfl
@[simp] theorem setQueue_runQueues (head : Option Slot) :
    (sched.setQueue queue head).runQueues = Function.update sched.runQueues queue head := rfl

section Stats

variable (count : SchedStats → SchedStats)

@[simp] theorem modifyStats_links : (sched.modifyStats count).links = sched.links := rfl
@[simp] theorem modifyStats_runQueues : (sched.modifyStats count).runQueues = sched.runQueues := rfl
@[simp] theorem modifyStats_taskPool : (sched.modifyStats count).taskPool = sched.taskPool := rfl
@[simp] theorem modifyStats_current : (sched.modifyStats count).current = sched.current := rfl
@[simp] theorem modifyStats_initialized :
    (sched.modifyStats count).initialized = sched.initialized := rfl
@[simp] theorem modifyStats_ticks : (sched.modifyStats count).ticks = sched.ticks := rfl

end Stats

theorem next_eq : (sched.taskPool slot).next = sched.links.next slot := rfl
theorem prev_eq : (sched.taskPool slot).prev = sched.links.prev slot := rfl

/-- A change that keeps both link fields keeps the table of links. -/
theorem modifyTask_links (slot : Slot) (keepsNext : ∀ entry, (change entry).next = entry.next)
    (keepsPrev : ∀ entry, (change entry).prev = entry.prev) :
    (sched.modifyTask slot change).links = sched.links := by
  ext1 <;> funext other <;> by_cases same : other = slot
  · subst same; simp [links, keepsNext]
  · simp [links, modifyTask_other sched change same]
  · subst same; simp [links, keepsPrev]
  · simp [links, modifyTask_other sched change same]

end Sched

/-- A pool entry without its link fields. -/
def SchedTask.unlinked (entry : SchedTask) : SchedTask := { entry with next := none, prev := none }

/-- Two states that differ at most in queue heads, link fields and counters. -/
structure SameTasks (before after : Sched) : Prop where
  tasks : ∀ slot, (after.taskPool slot).unlinked = (before.taskPool slot).unlinked
  current : after.current = before.current
  initialized : after.initialized = before.initialized
  ticks : after.ticks = before.ticks

namespace SameTasks

theorem task (same : SameTasks before after) (slot : Slot) :
    (after.taskPool slot).task = (before.taskPool slot).task := by
  simpa only [SchedTask.unlinked] using congrArg SchedTask.task (same.tasks slot)

theorem state (same : SameTasks before after) (slot : Slot) :
    (after.taskPool slot).state = (before.taskPool slot).state := by
  simpa only [SchedTask.unlinked] using congrArg SchedTask.state (same.tasks slot)

theorem priority (same : SameTasks before after) (slot : Slot) :
    (after.taskPool slot).priority = (before.taskPool slot).priority := by
  simpa only [SchedTask.unlinked] using congrArg SchedTask.priority (same.tasks slot)

theorem wakeTime (same : SameTasks before after) (slot : Slot) :
    (after.taskPool slot).wakeTime = (before.taskPool slot).wakeTime := by
  simpa only [SchedTask.unlinked] using congrArg SchedTask.wakeTime (same.tasks slot)

theorem timeSlice (same : SameTasks before after) (slot : Slot) :
    (after.taskPool slot).timeSlice = (before.taskPool slot).timeSlice := by
  simpa only [SchedTask.unlinked] using congrArg SchedTask.timeSlice (same.tasks slot)

theorem trans {middle : Sched} (first : SameTasks before middle) (second : SameTasks middle after) :
    SameTasks before after :=
  ⟨fun slot => (second.tasks slot).trans (first.tasks slot), second.current.trans first.current,
    second.initialized.trans first.initialized, second.ticks.trans first.ticks⟩

theorem refl (sched : Sched) : SameTasks sched sched := ⟨fun _ => rfl, rfl, rfl, rfl⟩

theorem setNext (sched : Sched) (slot : Slot) (next : Option Slot) :
    SameTasks sched (sched.setNext slot next) := by
  refine ⟨fun other => ?_, rfl, rfl, rfl⟩
  by_cases same : other = slot
  · subst same; simp [Sched.setNext, SchedTask.unlinked]
  · simp [Sched.setNext, Sched.modifyTask_other, same]

theorem setPrev (sched : Sched) (slot : Slot) (prev : Option Slot) :
    SameTasks sched (sched.setPrev slot prev) := by
  refine ⟨fun other => ?_, rfl, rfl, rfl⟩
  by_cases same : other = slot
  · subst same; simp [Sched.setPrev, SchedTask.unlinked]
  · simp [Sched.setPrev, Sched.modifyTask_other, same]

theorem setQueue (sched : Sched) (queue : Fin 8) (head : Option Slot) :
    SameTasks sched (sched.setQueue queue head) := ⟨fun _ => rfl, rfl, rfl, rfl⟩

theorem modifyStats (sched : Sched) (count : SchedStats → SchedStats) :
    SameTasks sched (sched.modifyStats count) := ⟨fun _ => rfl, rfl, rfl, rfl⟩

end SameTasks

theorem dequeueTask_links (sched : Sched) (stask : Slot) :
    (dequeueTask sched stask).links = sched.links.unlink stask := by
  cases previous : sched.links.prev stask with
  | none =>
      cases following : sched.links.next stask <;>
        simp [dequeueTask, Links.unlink, Sched.next_eq, Sched.prev_eq, previous, following]
  | some source =>
      by_cases self : stask = source
      · subst self
        cases following : sched.links.next stask <;>
          simp [dequeueTask, Links.unlink, Sched.next_eq, Sched.prev_eq, previous, following]
      · cases following : sched.links.next stask <;>
          simp [dequeueTask, Links.unlink, Sched.next_eq, Sched.prev_eq, previous, following, self]

theorem dequeueTask_runQueues (sched : Sched) (stask : Slot) :
    (dequeueTask sched stask).runQueues =
      Function.update sched.runQueues (queueOf (sched.taskPool stask).priority)
        (sched.links.unlinkHead (sched.runQueues (queueOf (sched.taskPool stask).priority)) stask) := by
  cases previous : sched.links.prev stask with
  | none =>
      cases following : sched.links.next stask <;>
        simp [dequeueTask, Links.unlinkHead, Sched.next_eq, Sched.prev_eq, previous, following]
  | some source =>
      have unchanged : (dequeueTask sched stask).runQueues = sched.runQueues := by
        simp only [dequeueTask, Sched.next_eq, Sched.prev_eq, previous]
        split <;> rfl
      simp [unchanged, Links.unlinkHead, previous]

theorem dequeueTask_sameTasks (sched : Sched) (stask : Slot) :
    SameTasks sched (dequeueTask sched stask) := by
  unfold dequeueTask
  refine .trans ?_ (.modifyStats _ _)
  refine .trans (.trans ?_ (.setNext _ _ _)) (.setPrev _ _ _)
  split
  · refine .trans ?_ (.setPrev _ _ _)
    split
    · exact .setNext _ _ _
    · exact .setQueue _ _ _
  · split
    · exact .setNext _ _ _
    · exact .setQueue _ _ _

/-- The run queues stand for the given lists, which share no slot. -/
structure Threaded (sched : Sched) (queues : Fin 8 → List Slot) : Prop where
  threads : ∀ queue, sched.links.Threads (sched.runQueues queue) (queues queue)
  nodup : ∀ queue, (queues queue).Nodup
  separate : ∀ left right slot, slot ∈ queues left → slot ∈ queues right → left = right

variable {queues : Fin 8 → List Slot}

theorem Threaded.congr (threaded : Threaded before queues) (links : after.links = before.links)
    (heads : after.runQueues = before.runQueues) : Threaded after queues :=
  ⟨fun queue => by rw [links, heads]; exact threaded.threads queue, threaded.nodup, threaded.separate⟩

theorem Threaded.dequeueTask (threaded : Threaded sched queues)
    (member : stask ∈ queues (queueOf (sched.taskPool stask).priority)) :
    Threaded (dequeueTask sched stask)
      (Function.update queues (queueOf (sched.taskPool stask).priority)
        ((queues (queueOf (sched.taskPool stask).priority)).erase stask)) := by
  generalize chosen : queueOf (sched.taskPool stask).priority = queue at member
  obtain ⟨front, back, split⟩ := List.append_of_mem member
  have nodup := threaded.nodup queue
  have erased : (queues queue).erase stask = front ++ back := by
    rw [split] at nodup ⊢
    have notFront : stask ∉ front := fun inFront =>
      (List.nodup_append.mp nodup).2.2 stask inFront stask (by simp) rfl
    rw [List.erase_append_right _ notFront, List.erase_cons_head]
  refine ⟨fun other => ?_, fun other => ?_, fun left right slot inLeft inRight => ?_⟩
  · rw [dequeueTask_links, dequeueTask_runQueues, chosen]
    by_cases same : other = queue
    · subst same
      rw [Function.update_self, Function.update_self, erased]
      exact Links.Threads.unlink (split ▸ threaded.threads other) (split ▸ nodup)
    · rw [Function.update_of_ne same, Function.update_of_ne same]
      refine Links.Threads.unlink_frame (threaded.threads queue) member (threaded.threads other) ?_
      exact fun slot inOther inQueue => same (threaded.separate other queue slot inOther inQueue)
  · by_cases same : other = queue
    · subst same
      rw [Function.update_self]
      exact nodup.erase stask
    · rw [Function.update_of_ne same]
      exact threaded.nodup other
  · have within (place : Fin 8)
        (listed : slot ∈ Function.update queues queue ((queues queue).erase stask) place) :
        slot ∈ queues place := by
      by_cases same : place = queue
      · subst same
        rw [Function.update_self] at listed
        exact List.mem_of_mem_erase listed
      · rwa [Function.update_of_ne same] at listed
    exact threaded.separate left right slot (within left inLeft) (within right inRight)

theorem enqueueTask_empty (empty : sched.runQueues (queueOf (sched.taskPool stask).priority) = none) :
    ∃ after, enqueueTask sched stask = some after ∧ SameTasks sched after ∧
      after.links = sched.links.detach stask ∧
      after.runQueues =
        Function.update sched.runQueues (queueOf (sched.taskPool stask).priority) (some stask) := by
  simp only [enqueueTask, Sched.setPrev_runQueues, Sched.setNext_runQueues, empty, Option.map_some]
  refine ⟨_, rfl, ?_, ?_, rfl⟩
  · refine .trans ?_ (.modifyStats _ _)
    exact .trans (.trans (.setNext _ _ _) (.setPrev _ _ _)) (.setQueue _ _ _)
  · simp [Links.detach]

theorem enqueueTask_nonempty {first last : Slot}
    (nonempty : sched.runQueues (queueOf (sched.taskPool stask).priority) = some first)
    (ending : Links.lastFrom (sched.links.detach stask).next schedMaxTasks first = some last) :
    ∃ after, enqueueTask sched stask = some after ∧ SameTasks sched after ∧
      after.links = (sched.links.detach stask).join last stask ∧
      after.runQueues = sched.runQueues := by
  have detached : ((sched.setNext stask none).setPrev stask none).links = sched.links.detach stask := by
    simp [Links.detach]
  simp only [enqueueTask, Sched.setPrev_runQueues, Sched.setNext_runQueues, nonempty, detached, ending,
    Option.map_some]
  refine ⟨_, rfl, ?_, ?_, rfl⟩
  · refine .trans ?_ (.modifyStats _ _)
    refine .trans (.trans ?_ (.setNext _ _ _)) (.setPrev _ _ _)
    exact .trans (.setNext _ _ _) (.setPrev _ _ _)
  · rw [Sched.modifyStats_links, Sched.setPrev_links, Sched.setNext_links, detached]
    rfl

/-- Queueing a slot that is on no queue appends it to the queue of its priority,
and the walk to the end of that queue terminates. -/
theorem Threaded.enqueueTask (threaded : Threaded sched queues) (fresh : ∀ queue, stask ∉ queues queue) :
    ∃ after, enqueueTask sched stask = some after ∧ SameTasks sched after ∧
      Threaded after (Function.update queues (queueOf (sched.taskPool stask).priority)
        (queues (queueOf (sched.taskPool stask).priority) ++ [stask])) := by
  generalize chosen : queueOf (sched.taskPool stask).priority = queue
  have threads := threaded.threads queue
  have nodup := threaded.nodup queue
  have detached (other : Fin 8) :
      (sched.links.detach stask).Threads (sched.runQueues other) (queues other) :=
    (threaded.threads other).detach (fresh other)
  have listed (place : Fin 8) (slot : Slot)
      (inside : slot ∈ Function.update queues queue (queues queue ++ [stask]) place) :
      slot ∈ queues place ∨ place = queue ∧ slot = stask := by
    by_cases same : place = queue
    · subst same
      rw [Function.update_self] at inside
      simpa using inside
    · rw [Function.update_of_ne same] at inside
      exact Or.inl inside
  have lists (after : Sched) (stands : ∀ place, after.links.Threads (after.runQueues place)
        (Function.update queues queue (queues queue ++ [stask]) place)) :
      Threaded after (Function.update queues queue (queues queue ++ [stask])) := by
    refine ⟨stands, fun place => ?_, fun left right slot inLeft inRight => ?_⟩
    · by_cases same : place = queue
      · subst same
        rw [Function.update_self]
        exact nodup.append (by simp) (by simpa using fresh place)
      · rw [Function.update_of_ne same]
        exact threaded.nodup place
    · rcases listed left slot inLeft with inLeft | ⟨atLeft, isNew⟩ <;>
        rcases listed right slot inRight with inRight | ⟨atRight, isNew'⟩
      · exact threaded.separate left right slot inLeft inRight
      · exact absurd (isNew' ▸ inLeft) (fresh left)
      · exact absurd (isNew ▸ inRight) (fresh right)
      · exact atLeft.trans atRight.symm
  cases ending : Links.lastOr none (queues queue) with
  | none =>
      have nothing := Links.eq_nil_of_lastOr_none ending
      have empty : sched.runQueues queue = none := by rw [nothing] at threads; exact threads
      obtain ⟨after, done, same, linked, heads⟩ := enqueueTask_empty (chosen ▸ empty)
      refine ⟨after, done, same, lists after fun place => ?_⟩
      rw [linked, heads, chosen]
      by_cases at' : place = queue
      · subst at'
        rw [Function.update_self, Function.update_self, nothing]
        exact Links.threads_detached
      · rw [Function.update_of_ne at', Function.update_of_ne at']
        exact detached place
  | some last =>
      have lastMember := Links.mem_of_lastOr_none ending
      cases start : sched.runQueues queue with
      | none =>
          rw [start] at threads
          cases nodes : queues queue with
          | nil => simp [nodes] at ending
          | cons node rest => exact absurd (nodes ▸ threads).1 (by simp)
      | some first =>
          have walk : Links.lastFrom (sched.links.detach stask).next schedMaxTasks first = some last := by
            rw [← ending]
            refine Links.Stretch.lastFrom (start ▸ detached queue) ?_
            simpa [schedMaxTasks] using nodup.length_le_card
          obtain ⟨after, done, same, linked, heads⟩ := enqueueTask_nonempty (chosen ▸ start) walk
          refine ⟨after, done, same, lists after fun place => ?_⟩
          rw [linked, heads]
          by_cases at' : place = queue
          · subst at'
            rw [Function.update_self]
            exact threads.append nodup (fresh place) ending
          · rw [Function.update_of_ne at']
            refine (detached place).join_frame (fresh place) fun inPlace => at' ?_
            exact threaded.separate place queue last inPlace lastMember

end AutismOS.Scheduler
