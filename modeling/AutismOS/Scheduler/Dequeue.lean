import AutismOS.Scheduler.WellFormed

namespace AutismOS.Scheduler

open AutismOS.Library

variable {sched after : Sched} {slot other stask : Slot} {queued : Slot → Prop}

/-! Taking a slot off a queue it is not on. -/

/-- Every link of a queued slot, and the queue head, that `dequeue_task` would
write for `stask` already holds the value it writes. -/
def DequeueHarmless (sched : Sched) (queued : Slot → Prop) (stask : Slot) : Prop :=
  (sched.links.prev stask = none →
    sched.links.next stask = sched.runQueues (queueOf (sched.taskPool stask).priority)) ∧
  (∀ previous, sched.links.prev stask = some previous → queued previous →
    sched.links.next previous = sched.links.next stask) ∧
  (∀ following, sched.links.next stask = some following → queued following →
    sched.links.prev following = sched.links.prev stask)

theorem dequeueTask_arranged_of_harmless (arranged : Arranged sched queued) (absent : ¬ queued stask)
    (harmless : DequeueHarmless sched queued stask) : Arranged (dequeueTask sched stask) queued := by
  obtain ⟨atHead, fromPrev, fromNext⟩ := harmless
  obtain ⟨queues, threaded, holds⟩ := arranged
  have heads : (dequeueTask sched stask).runQueues = sched.runQueues := by
    rw [dequeueTask_runQueues]
    cases previous : sched.links.prev stask with
    | none => simp [Links.unlinkHead, previous, atHead previous]
    | some source => simp [Links.unlinkHead, previous]
  refine ⟨queues, ⟨fun queue => ?_, threaded.nodup, threaded.separate⟩, fun queue slot => ?_⟩
  · rw [heads, dequeueTask_links]
    refine (threaded.threads queue).frame fun slot listed => ?_
    have isQueued := ((holds queue slot).mp listed).1
    have different : slot ≠ stask := fun same => absent (same ▸ isQueued)
    constructor
    · by_cases previous : sched.links.prev stask = some slot
      · rw [Links.unlink_next_of_prev different previous]
        exact (fromPrev slot previous isQueued).symm
      · exact Links.unlink_next_of_ne different previous
    · by_cases following : sched.links.next stask = some slot
      · rw [Links.unlink_prev_of_next different following]
        exact (fromNext slot following isQueued).symm
      · exact Links.unlink_prev_of_ne different following
  · rw [(dequeueTask_sameTasks sched stask).priority]
    exact holds queue slot

/-- Conversely, the queues survive only if nothing was rewritten: every queued
slot is entered from exactly one place, so no entrance can be redirected. -/
theorem harmless_of_dequeueTask_arranged (arranged : Arranged sched queued) (absent : ¬ queued stask)
    (kept : Arranged (dequeueTask sched stask) queued) : DequeueHarmless sched queued stask := by
  have samePriority := (dequeueTask_sameTasks sched stask).priority
  have ne (slot : Slot) (isQueued : queued slot) : slot ≠ stask := fun same => absent (same ▸ isQueued)
  cases previous : sched.links.prev stask with
  | none =>
      -- `dequeue_task` redirects the queue head.
      have sameNext (slot : Slot) (isQueued : queued slot) :
          (dequeueTask sched stask).links.next slot = sched.links.next slot := by
        rw [dequeueTask_links]
        exact Links.unlink_next_of_ne (ne slot isQueued) (by simp [previous])
      have newHead : (dequeueTask sched stask).runQueues (queueOf (sched.taskPool stask).priority) =
          sched.links.next stask := by
        rw [dequeueTask_runQueues]
        simp [Links.unlinkHead, previous]
      have headKept : sched.links.next stask =
          sched.runQueues (queueOf (sched.taskPool stask).priority) :=
        newHead.symm.trans (arranged.head_eq kept samePriority sameNext)
      refine ⟨fun _ => headKept, fun source equal => by simp [previous] at equal, ?_⟩
      intro following link isQueued
      rw [link] at headKept
      exact (arranged.head headKept.symm).2.2.trans previous.symm
  | some source =>
      -- `dequeue_task` redirects the successor link of `source`.
      have sameHeads : (dequeueTask sched stask).runQueues = sched.runQueues := by
        rw [dequeueTask_runQueues]
        simp [Links.unlinkHead, previous]
      have sameNext (slot : Slot) (isQueued : queued slot) (other : slot ≠ source) :
          (dequeueTask sched stask).links.next slot = sched.links.next slot := by
        rw [dequeueTask_links]
        refine Links.unlink_next_of_ne (ne slot isQueued) fun same => other ?_
        exact Option.some.inj (same.symm.trans previous)
      refine ⟨fun noPrev => by simp [previous] at noPrev, ?_, ?_⟩
      · intro place equal sourceQueued
        have isSource : source = place := Option.some.inj (previous.symm.trans equal)
        subst isSource
        have newNext : (dequeueTask sched stask).links.next source = sched.links.next stask := by
          rw [dequeueTask_links]
          exact Links.unlink_next_of_prev (ne source sourceQueued) previous
        exact (arranged.next_eq kept samePriority sameHeads sameNext sourceQueued).symm.trans newNext
      · intro following link isQueued
        have newPrev : (dequeueTask sched stask).links.prev following = some source := by
          rw [dequeueTask_links, Links.unlink_prev_of_next (ne following isQueued) link, previous]
        rcases arranged.reached isQueued with ⟨atHead, _⟩ | ⟨origin, fromQueued, entrance, pointsBack⟩
        · rw [← sameHeads, ← samePriority] at atHead
          exact absurd ((kept.head atHead).2.2.symm.trans newPrev) (by simp)
        · by_cases isSource : origin = source
          · rw [pointsBack, isSource, previous]
          · rw [← sameNext origin fromQueued isSource] at entrance
            have same := (kept.next fromQueued entrance).2.symm.trans newPrev
            exact absurd (Option.some.inj same) isSource

/-- `dequeue_task` removes its slot and keeps the rest exactly when the slot was
queued or the links it rewrites already hold what it writes. -/
theorem Arranged.dequeueTask_iff (arranged : Arranged sched queued) :
    Arranged (Scheduler.dequeueTask sched stask) (fun slot => queued slot ∧ slot ≠ stask) ↔
      queued stask ∨ DequeueHarmless sched queued stask := by
  by_cases member : queued stask
  · simp [member, arranged.dequeueTask member]
  · have same (slot : Slot) : queued slot ∧ slot ≠ stask ↔ queued slot := by
      constructor
      · exact And.left
      · intro isQueued
        exact ⟨isQueued, fun equal => member (equal ▸ isQueued)⟩
    simp only [member, false_or]
    constructor
    · intro kept
      exact harmless_of_dequeueTask_arranged arranged member (kept.congr fun slot => (same slot).symm)
    · intro harmless
      exact (dequeueTask_arranged_of_harmless arranged member harmless).congr same

end AutismOS.Scheduler

namespace AutismOS.Scheduler

open AutismOS.Library

variable {sched before after : Sched} {slot other stask current next : Slot}
variable {queued : Slot → Prop}

-- What `scheduler_yield` can do, first for any state from which it returns and then for arranged queues, from which
-- it always returns.

theorem Arranged.switchTo (arranged : Arranged sched queued) (next : Slot) :
    Arranged (switchTo sched next) queued :=
  (arranged.modifyTask next
    (fun entry => { entry with state := .running, timeSlice := schedTimeSlice })
    (fun _ => rfl) (fun _ => rfl) (fun _ _ => rfl)).transfer rfl rfl fun _ _ => rfl

/-- Over arranged queues `scheduler_yield` returns and queues the same slots. -/
theorem Arranged.schedulerYield (arranged : Arranged sched queued)
    (owned : ∀ current, sched.current = some current →
      (sched.taskPool current).state = .running → queued current) :
    ∃ after, schedulerYield sched = some after ∧ Arranged after queued := by
  unfold Scheduler.schedulerYield
  by_cases ready : sched.initialized = true
  · simp only [ready, Bool.not_true, Bool.false_eq_true, if_false]
    cases running : sched.current with
    | none => exact ⟨sched, rfl, arranged⟩
    | some current =>
        cases chosen : findNextTask sched with
        | none => exact ⟨sched, rfl, arranged⟩
        | some next =>
            by_cases same : next = current
            · simp only [same, if_true]
              exact ⟨sched, rfl, arranged⟩
            · simp only [same, if_false]
              by_cases isRunning : (sched.taskPool current).state = .running
              · simp only [isRunning, if_true]
                have member := owned current running isRunning
                have demoted := arranged.modifyTask current
                  (fun entry => { entry with state := .ready }) (fun _ => rfl) (fun _ => rfl)
                  (fun _ _ => rfl)
                have fresh : ¬ (queued current ∧ current ≠ current) := fun both => both.2 rfl
                obtain ⟨requeued, done, _, appended⟩ := (demoted.dequeueTask member).enqueueTask fresh
                simp only [done, Option.map_some]
                refine ⟨_, rfl, ?_⟩
                have restored : Arranged requeued queued := by
                  refine appended.congr fun slot => ?_
                  by_cases isCurrent : slot = current
                  · simp [isCurrent, member]
                  · simp [isCurrent]
                exact restored.switchTo next
              · simp only [isRunning, if_false, Option.map_some]
                exact ⟨_, rfl, arranged.switchTo next⟩
  · simp only [Bool.not_eq_true] at ready
    simp only [ready, Bool.not_false, if_true]
    exact ⟨sched, rfl, arranged⟩

end AutismOS.Scheduler
