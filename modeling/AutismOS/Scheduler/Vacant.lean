import AutismOS.Scheduler.Tick

namespace AutismOS.Scheduler

open AutismOS.Library

variable {sched before after : Sched} {slot other stask current next : Slot}
variable {queued : Slot → Prop}

/-! # A current entry that holds no task

Such an entry is RUNNING but on no queue.  The calls that take the current task
off its queue or put it back do not look at its task pointer.
-/

theorem switchTo_links (sched : Sched) (next : Slot) : (switchTo sched next).links = sched.links := by
  rw [switchTo, Sched.modifyStats_links]
  exact Sched.modifyTask_links sched (fun entry =>
    { entry with state := .running, timeSlice := schedTimeSlice }) next (fun _ => rfl) (fun _ => rfl)

theorem switchTo_priority (sched : Sched) (next slot : Slot) :
    ((switchTo sched next).taskPool slot).priority = (sched.taskPool slot).priority := by
  by_cases isNext : slot = next
  · subst isNext
    simp [switchTo]
  · simp [switchTo, Sched.modifyTask_other _ _ isNext]

theorem arranged_of_switchTo (arranged : Arranged (switchTo sched next) queued) :
    Arranged sched queued :=
  arranged.transfer (switchTo_links sched next).symm rfl fun slot _ =>
    (switchTo_priority sched next slot).symm

/-- An enqueued slot is on a queue whenever the queues are sound afterwards. -/
theorem enqueueTask_queued (done : enqueueTask sched stask = some after)
    (arranged : Arranged after queued) : queued stask := by
  cases start : sched.runQueues (queueOf (sched.taskPool stask).priority) with
  | none =>
      obtain ⟨result, returned, _, _, heads⟩ := enqueueTask_empty start
      have same : result = after := Option.some.inj (returned.symm.trans done)
      subst same
      have head : result.runQueues (queueOf (sched.taskPool stask).priority) = some stask := by
        rw [heads, Function.update_self]
      exact arranged.head_queued head
  | some first =>
      cases walk : Links.lastFrom (sched.links.detach stask).next schedMaxTasks first with
      | none =>
          have detached : ((sched.setNext stask none).setPrev stask none).links =
              sched.links.detach stask := by
            simp [Links.detach]
          simp [enqueueTask, start, detached, walk] at done
      | some last =>
          obtain ⟨result, returned, _, links, heads⟩ := enqueueTask_nonempty start walk
          have same : result = after := Option.some.inj (returned.symm.trans done)
          subst same
          -- Every node of the walk is queued, so the node behind its end is too.
          have lastQueued : queued last := by
            refine Links.lastFrom_invariant walk (arranged.head_queued (heads ▸ start)) ?_
            intro source target isQueued link
            have notLast : source ≠ last := fun isLast => by
              rw [isLast, Links.lastFrom_ends walk] at link
              contradiction
            refine (arranged.next isQueued ?_).1
            rw [links]
            simpa [Links.join, notLast] using link
          refine (arranged.next lastQueued ?_).1
          simp [links, Links.join]

/-- A yield that keeps the queues sound cannot have requeued a vacant entry. -/
theorem schedulerYield_vacant (arranged : Arranged sched queued)
    (selected : sched.current = some current) (absent : ¬ queued current)
    (running : (sched.taskPool current).state = .running)
    (vacant : (sched.taskPool current).task = none) (done : schedulerYield sched = some after)
    (kept : Arranged after (fun slot => Runnable (after.taskPool slot))) :
    after = sched ∧ (sched.initialized = false ∨ ∀ slot, ¬ queued slot) := by
  rcases schedulerYield_cases done with ⟨unchanged, nothing⟩ |
    ⟨source, next, initialized, isCurrent, chosen, different, switched⟩
  · refine ⟨unchanged, ?_⟩
    rcases nothing with off | idle | nobody | self
    · exact Or.inl off
    · simp [selected] at idle
    · exact Or.inr fun slot isQueued =>
        arranged.queue_nonempty isQueued (findNextTask_eq_none.mp nobody _)
    · obtain ⟨queue, head, _⟩ := findNextTask_eq_some (self.trans selected)
      exact absurd (arranged.head_queued head) absent
  · have same : source = current := Option.some.inj (isCurrent.symm.trans selected)
    subst same
    have step : schedulerYield sched = (enqueueTask (dequeueTask
        (sched.modifyTask source fun entry => { entry with state := .ready }) source) source).map
          fun requeued => switchTo requeued next := by
      simp [schedulerYield, initialized, selected, chosen, different, running]
    rw [step, Option.map_eq_some_iff] at done
    obtain ⟨requeued, enqueued, equal⟩ := done
    have isQueued := enqueueTask_queued enqueued (arranged_of_switchTo (equal ▸ kept))
    refine absurd ?_ (equal ▸ isQueued.1)
    rw [switched.task]
    exact vacant

/-- A stopped current task is not requeued, so the yield changes no link. -/
theorem schedulerYield_stopped (selected : sched.current = some current)
    (stopped : (sched.taskPool current).state ≠ .running) :
    ∃ after, schedulerYield sched = some after ∧ after.links = sched.links ∧
      after.runQueues = sched.runQueues := by
  unfold schedulerYield
  cases initialized : sched.initialized with
  | false => exact ⟨sched, rfl, rfl, rfl⟩
  | true =>
      cases chosen : findNextTask sched with
      | none => exact ⟨sched, by simp [selected], rfl, rfl⟩
      | some next =>
          by_cases same : next = current
          · exact ⟨sched, by simp [selected, same], rfl, rfl⟩
          · exact ⟨switchTo sched next, by simp [selected, same, stopped], switchTo_links sched next, rfl⟩

/-- Stopping the current entry makes the idle entry behind its stale link the
head of an empty queue, from where the yield dispatches it. -/
def Adopts (sched : Sched) (current : Slot) : Prop :=
  sched.initialized = true ∧ sched.links.prev current = none ∧
    (∀ queue, queueOf (sched.taskPool current).priority ≤ queue → sched.runQueues queue = none) ∧
    ∃ next, sched.links.next current = some next ∧ next ≠ current ∧
      (sched.taskPool next).task ≠ none ∧ ¬ Runnable (sched.taskPool next) ∧
      queueOf (sched.taskPool next).priority = queueOf (sched.taskPool current).priority ∧
      sched.links.next next = none

section Retire

variable {change : SchedTask → SchedTask} {count : SchedStats → SchedStats}

/-- When a stopped task is switched away from, only the next entry's claim to a
queue changes. -/
theorem Switched.runnable_other (switched : Switched before current next after)
    (stopped : (before.taskPool current).state ≠ .running) (isOther : slot ≠ next) :
    Runnable (after.taskPool slot) ↔ Runnable (before.taskPool slot) := by
  by_cases isCurrent : slot = current
  · subst isCurrent
    simp [Runnable, switched.task, switched.state_current, stopped]
  · simp [Runnable, switched.task, switched.state_other isCurrent isOther]

/-- If the queues survive a stopped entry and the yield has dispatched an entry
that was not runnable, then that entry was adopted. -/
theorem adopts_of_kept (stops : Stops change) (settled : Settled sched)
    (switched : Switched (retire sched current change count) current next after)
    (initialized : sched.initialized = true) (different : next ≠ current)
    (chosen : findNextTask (retire sched current change count) = some next)
    (idle : ¬ Runnable (sched.taskPool next))
    (kept : Arranged (retire sched current change count) (fun slot => Runnable (after.taskPool slot))) :
    Adopts sched current := by
  obtain ⟨queue, head, above⟩ := findNextTask_eq_some chosen
  obtain ⟨nextRunnable, place, rootPrev⟩ := kept.head head
  rw [retire_priority stops] at place
  rw [retire_links stops] at rootPrev
  have runnable (slot : Slot) (isOther : slot ≠ next) :
      Runnable (after.taskPool slot) ↔ Runnable (sched.taskPool slot) ∧ slot ≠ current := by
    rw [switched.runnable_other (retire_stopped stops) isOther, retire_runnable stops]
  -- The entry became a head because the stopped entry's `next` link was stored there.
  have atHead : queue = queueOf (sched.taskPool current).priority ∧
      sched.links.prev current = none ∧ sched.links.next current = some next := by
    rw [retire_runQueues stops] at head
    by_cases isPlace : queue = queueOf (sched.taskPool current).priority
    · rw [isPlace, Function.update_self] at head
      cases previous : sched.links.prev current with
      | some source =>
          simp only [Links.unlinkHead, previous] at head
          exact absurd (settled.arranged.head_queued head) idle
      | none =>
          simp only [Links.unlinkHead, previous] at head
          exact ⟨isPlace, rfl, head⟩
    · rw [Function.update_of_ne isPlace] at head
      exact absurd (settled.arranged.head_queued head) idle
  obtain ⟨isPlace, noPrev, link⟩ := atHead
  have samePrev (slot : Slot) (notCurrent : slot ≠ current) (isOther : slot ≠ next) :
      (sched.links.unlink current).prev slot = sched.links.prev slot :=
    Links.unlink_prev_of_ne notCurrent fun same => isOther (Option.some.inj (same.symm.trans link))
  have empty : sched.runQueues queue = none := by
    cases old : sched.runQueues queue with
    | none => rfl
    | some first =>
        obtain ⟨firstRunnable, firstPlace, firstPrev⟩ := settled.arranged.head old
        have isOther : first ≠ next := fun same => idle (same ▸ firstRunnable)
        have notCurrent : first ≠ current := fun same => by
          -- the stopped entry would be the head and its successor queued
          exact idle (settled.arranged.next (same ▸ firstRunnable) link).1
        have still := (runnable first isOther).mpr ⟨firstRunnable, notCurrent⟩
        rcases kept.reached still with ⟨atHead, _⟩ | ⟨source, _, _, pointsBack⟩
        · rw [retire_priority stops, firstPlace] at atHead
          exact absurd (Option.some.inj (atHead.symm.trans head)) isOther
        · rw [retire_links stops, samePrev first notCurrent isOther] at pointsBack
          exact absurd (firstPrev.symm.trans pointsBack) (by simp)
  have last : sched.links.next next = none := by
    cases following : sched.links.next next with
    | none => rfl
    | some target =>
        have newLink : (retire sched current change count).links.next next = some target := by
          rw [retire_links stops, Links.unlink_next_of_ne different (by simp [noPrev]), following]
        obtain ⟨targetRunnable, pointsBack⟩ := kept.next nextRunnable newLink
        rw [retire_links stops] at pointsBack
        have isOther : target ≠ next := fun same => by
          rw [same, rootPrev] at pointsBack
          contradiction
        obtain ⟨wasRunnable, notCurrent⟩ := (runnable target isOther).mp targetRunnable
        rw [samePrev target notCurrent isOther] at pointsBack
        rcases settled.arranged.reached wasRunnable with ⟨_, root⟩ | ⟨source, isQueued, _, back⟩
        · exact absurd (root.symm.trans pointsBack) (by simp)
        · have same : source = next := Option.some.inj (back.symm.trans pointsBack)
          exact absurd (same ▸ isQueued) idle
  refine ⟨initialized, noPrev, fun higher below => ?_, next, link, different, ?_, idle, ?_, last⟩
  · rcases eq_or_lt_of_le below with same | above'
    · rw [← same, ← isPlace]
      exact empty
    · have new := above higher (isPlace ▸ above')
      rwa [retire_runQueues stops, Function.update_of_ne (ne_of_gt above')] at new
  · have present := nextRunnable.1
    rwa [switched.task, retire_sameTasks.task, Sched.modifyTask_other _ _ different] at present
  · rw [place, isPlace]

/-- A slot that is alone on its formerly empty queue. -/
theorem Arranged.fillEmpty {place : Fin 8} (arranged : Arranged before queued)
    (empty : before.runQueues place = none) (fresh : ¬ queued slot)
    (heads : after.runQueues = Function.update before.runQueues place (some slot))
    (links : ∀ other, queued other → after.links.next other = before.links.next other ∧
      after.links.prev other = before.links.prev other)
    (ends : after.links.next slot = none) (starts : after.links.prev slot = none)
    (priorities : ∀ slot, (after.taskPool slot).priority = (before.taskPool slot).priority)
    (belongs : queueOf (before.taskPool slot).priority = place) :
    Arranged after (fun other => queued other ∨ other = slot) := by
  obtain ⟨queues, threaded, holds⟩ := arranged
  have nothing : queues place = [] := by
    have threads := threaded.threads place
    rw [empty] at threads
    cases nodes : queues place with
    | nil => rfl
    | cons first rest => exact absurd (nodes ▸ threads).1 (by simp)
  have listed (queue : Fin 8) (other : Slot) :
      other ∈ Function.update queues place [slot] queue ↔
        other ∈ queues queue ∨ other = slot ∧ queue = place := by
    by_cases isPlace : queue = place
    · subst isPlace
      simp [nothing]
    · simp [isPlace]
  have unlisted (queue : Fin 8) : slot ∉ queues queue := fun member =>
    fresh ((holds queue slot).mp member).1
  refine ⟨Function.update queues place [slot], ⟨fun queue => ?_, fun queue => ?_, ?_⟩, ?_⟩
  · rw [heads]
    by_cases isPlace : queue = place
    · subst isPlace
      rw [Function.update_self, Function.update_self]
      exact ⟨rfl, starts, ends⟩
    · rw [Function.update_of_ne isPlace, Function.update_of_ne isPlace]
      exact (threaded.threads queue).frame fun other member =>
        links other ((holds queue other).mp member).1
  · by_cases isPlace : queue = place
    · subst isPlace
      simp
    · rw [Function.update_of_ne isPlace]
      exact threaded.nodup queue
  · intro left right other inLeft inRight
    rcases (listed left other).mp inLeft with inLeft | ⟨isSlot, atLeft⟩ <;>
      rcases (listed right other).mp inRight with inRight | ⟨isSlot', atRight⟩
    · exact threaded.separate left right other inLeft inRight
    · exact absurd (isSlot' ▸ inLeft) (unlisted left)
    · exact absurd (isSlot ▸ inRight) (unlisted right)
    · exact atLeft.trans atRight.symm
  · intro queue other
    rw [listed, holds, priorities]
    constructor
    · rintro (⟨isQueued, inPlace⟩ | ⟨isSlot, isPlace⟩)
      · exact ⟨Or.inl isQueued, inPlace⟩
      · exact ⟨Or.inr isSlot, by rw [isSlot, belongs, isPlace]⟩
    · rintro ⟨isQueued | isSlot, inPlace⟩
      · exact Or.inl ⟨isQueued, inPlace⟩
      · exact Or.inr ⟨isSlot, by rw [← inPlace, isSlot, belongs]⟩

/-- Conversely, adoption keeps the queues: the adopted entry becomes the whole of
the queue that was empty and is dispatched at once. -/
theorem Adopts.kept (adopts : Adopts sched current) (stops : Stops change) (settled : Settled sched)
    (selected : sched.current = some current) :
    ∃ after, schedulerYield (retire sched current change count) = some after ∧
      Arranged after (fun slot => Runnable (after.taskPool slot)) := by
  obtain ⟨initialized, noPrev, above, next, link, different, occupied, idle, place, last⟩ := adopts
  have heads : (retire sched current change count).runQueues =
      Function.update sched.runQueues (queueOf (sched.taskPool current).priority) (some next) := by
    rw [retire_runQueues stops, Links.unlinkHead, noPrev, link]
  have head : (retire sched current change count).runQueues
      (queueOf (sched.taskPool current).priority) = some next := by
    rw [heads, Function.update_self]
  have chosen : findNextTask (retire sched current change count) = some next := by
    refine findNextTask_of_head head fun higher isAbove => ?_
    rw [heads, Function.update_of_ne (ne_of_gt isAbove)]
    exact above higher (le_of_lt isAbove)
  have absent (slot : Slot) (runnable : Runnable (sched.taskPool slot)) : slot ≠ current := fun same =>
    idle (settled.arranged.next (same ▸ runnable) link).1
  have runnable (slot : Slot) : Runnable ((retire sched current change count).taskPool slot) ↔
      Runnable (sched.taskPool slot) := by
    rw [retire_runnable stops]
    exact and_iff_left_of_imp (absent slot)
  have arranged : Arranged (retire sched current change count)
      (fun slot => Runnable (sched.taskPool slot) ∨ slot = next) := by
    refine settled.arranged.fillEmpty (above _ le_rfl) idle heads (fun slot isQueued => ?_) ?_ ?_
      (fun slot => retire_priority stops slot) place
    · rw [retire_links stops]
      have notNext : sched.links.next current ≠ some slot := fun same =>
        idle (Option.some.inj (same.symm.trans link) ▸ isQueued)
      exact ⟨Links.unlink_next_of_ne (absent slot isQueued) (by simp [noPrev]),
        Links.unlink_prev_of_ne (absent slot isQueued) notNext⟩
    · rw [retire_links stops, Links.unlink_next_of_ne different (by simp [noPrev]), last]
    · rw [retire_links stops, Links.unlink_prev_of_next different link, noPrev]
  refine ⟨switchTo (retire sched current change count) next, ?_, ?_⟩
  · have ready : (retire sched current change count).initialized = true :=
      retire_sameTasks.initialized.trans initialized
    have still : (retire sched current change count).current = some current :=
      retire_sameTasks.current.trans selected
    simp [schedulerYield, ready, still, chosen, different, retire_stopped stops]
  · refine (arranged.switchTo next).congr fun slot => ?_
    by_cases isNext : slot = next
    · subst isNext
      have present : ((retire sched current change count).taskPool slot).task ≠ none := by
        rwa [retire_sameTasks.task, Sched.modifyTask_other _ _ different]
      simp [switchTo, Runnable, present]
    · rw [← runnable slot]
      simp [switchTo, Sched.modifyTask_other _ _ isNext, isNext]

/-- Stopping the current entry keeps the queues exactly when the entry unlinks
cleanly or the entry behind it is adopted. -/
theorem Retires.keeps_iff {outcome : Option Sched} (retires : Retires sched outcome)
    (settled : Settled sched) (selected : sched.current = some current) :
    (∃ after, outcome = some after ∧ Arranged after (fun slot => Runnable (after.taskPool slot))) ↔
      UnlinksCleanly sched current ∨ Adopts sched current := by
  obtain ⟨change, count, stops, rfl⟩ := retires current selected
  constructor
  · rintro ⟨after, done, arranged⟩
    have still : (retire sched current change count).current = some current :=
      retire_sameTasks.current.trans selected
    obtain ⟨same, returned, links, heads⟩ := schedulerYield_stopped still (retire_stopped stops)
    have equal : same = after := Option.some.inj (returned.symm.trans done)
    subst equal
    rcases schedulerYield_cases done with ⟨unchanged, _⟩ |
      ⟨source, next, initialized, isCurrent, chosen, different, switched⟩
    · rw [unchanged] at arranged
      exact Or.inl ((retire_arranged stops settled.arranged).mp
        (arranged.congr fun slot => (retire_runnable stops slot).symm))
    · have isSource : source = current := Option.some.inj (isCurrent.symm.trans still)
      subst isSource
      have kept : Arranged (retire sched source change count)
          (fun slot => Runnable (same.taskPool slot)) :=
        arranged.transfer links.symm heads.symm fun slot _ => (switched.priority slot).symm
      by_cases runnable : Runnable (sched.taskPool next)
      · refine Or.inl ((retire_arranged stops settled.arranged).mp (kept.congr fun slot => ?_))
        rw [← retire_runnable stops]
        exact (switched.runnable ((retire_runnable stops next).mpr ⟨runnable, different⟩) slot).symm
      · exact Or.inr (adopts_of_kept stops settled switched
          (retire_sameTasks.initialized.symm.trans initialized) different chosen runnable kept)
  · rintro (unlinks | adopts)
    · obtain ⟨after, done, arranged, _⟩ := retire_spec stops settled selected unlinks
      exact ⟨after, done, arranged⟩
    · exact adopts.kept stops settled selected

end Retire

end AutismOS.Scheduler
