import AutismOS.Scheduler.Invariant

namespace AutismOS.Scheduler

open AutismOS.Library

variable {sched before after : Sched} {slot other stask current next : Slot} {queue : Fin 8}
variable {queues : Fin 8 → List Slot}

/-- The current entry is the head of the highest nonempty run queue. -/
def HighestCurrent (sched : Sched) : Prop :=
  ∃ queue slot, sched.current = some slot ∧ sched.runQueues queue = some slot ∧
    ∀ higher, queue < higher → sched.runQueues higher = none

/-- No READY task has a greater priority than the current entry. -/
def NobodyAbove (sched : Sched) : Prop :=
  ∀ slot other, sched.current = some slot → (sched.taskPool other).task ≠ none →
    (sched.taskPool other).state = .ready → (sched.taskPool other).priority ≤ (sched.taskPool slot).priority

/-- Every run queue is a list of the same slots as before. -/
def SameQueues (before after : Sched) : Prop :=
  ∀ queue nodes, before.links.Threads (before.runQueues queue) nodes →
    ∃ kept, after.links.Threads (after.runQueues queue) kept ∧ kept.Perm nodes

theorem Threaded.runQueues (threaded : Threaded sched queues) (queue : Fin 8) :
    sched.runQueues queue = (queues queue).head? := by
  have threads := threaded.threads queue
  cases nodes : queues queue with
  | nil =>
      rw [nodes] at threads
      exact threads
  | cons first rest =>
      rw [nodes] at threads
      exact threads.1

/-- Moving a queued slot to the end of its queue. -/
theorem Threaded.requeue (threaded : Threaded sched queues)
    (member : current ∈ queues (queueOf (sched.taskPool current).priority)) :
    ∃ after, Scheduler.enqueueTask (Scheduler.dequeueTask sched current) current = some after ∧ SameTasks sched after ∧
      Threaded after (Function.update queues (queueOf (sched.taskPool current).priority)
        ((queues (queueOf (sched.taskPool current).priority)).erase current ++ [current])) := by
  have taken := threaded.dequeueTask member
  have fresh (queue : Fin 8) : current ∉ Function.update queues (queueOf (sched.taskPool current).priority)
      ((queues (queueOf (sched.taskPool current).priority)).erase current) queue := by
    by_cases own : queue = queueOf (sched.taskPool current).priority
    · subst own
      rw [Function.update_self]
      exact (threaded.nodup _).not_mem_erase
    · rw [Function.update_of_ne own]
      exact fun listed => own (threaded.separate queue _ current listed member)
  have same := dequeueTask_sameTasks sched current
  obtain ⟨after, done, sameToo, appended⟩ := taken.enqueueTask fresh
  refine ⟨after, done, same.trans sameToo, ?_⟩
  rw [same.priority, Function.update_self, Function.update_idem] at appended
  exact appended

/-- A slot that is not at the head of its queue leaves the head where it is when it moves to the end. -/
theorem head?_requeued {nodes : List Slot} (head : nodes.head? = some next) (different : next ≠ current) :
    (nodes.erase current ++ [current]).head? = some next := by
  cases nodes with
  | nil => simp at head
  | cons first rest =>
      obtain rfl := Option.some.inj head
      rw [List.erase_cons_tail (by simpa using different)]
      rfl

/-- The lists keep their slots, and all heads but the current entry stay. -/
theorem Threaded.schedulerYield (threaded : Threaded sched queues) (ready : sched.initialized = true)
    (selected : sched.current = some current) (chosen : findNextTask sched = some next) (different : next ≠ current)
    (member : (sched.taskPool current).state = .running →
      current ∈ queues (queueOf (sched.taskPool current).priority)) :
    ∃ after lists, Scheduler.schedulerYield sched = some after ∧ after.current = some next ∧ Threaded after lists ∧
      (∀ queue, (lists queue).Perm (queues queue)) ∧
      ∀ queue, sched.runQueues queue ≠ some current → after.runQueues queue = sched.runQueues queue := by
  rw [schedulerYield_switches ready selected chosen different]
  by_cases running : (sched.taskPool current).state = .running
  · rw [if_pos running]
    have demoted : Threaded (sched.modifyTask current fun entry => { entry with state := .ready }) queues :=
      threaded.congr (Sched.modifyTask_links sched _ current (fun _ => rfl) (fun _ => rfl)) rfl
    have samePriority : ((sched.modifyTask current fun entry => { entry with state := .ready }).taskPool
        current).priority = (sched.taskPool current).priority := by simp
    have listed := member running
    obtain ⟨requeued, done, _, moved⟩ := demoted.requeue (samePriority ▸ listed)
    rw [samePriority] at moved
    have switched := moved.congr (switchTo_links requeued next) rfl
    rw [done, Option.map_some]
    refine ⟨_, _, rfl, rfl, switched, ?_, ?_⟩
    · intro queue
      by_cases own : queue = queueOf (sched.taskPool current).priority
      · subst own
        rw [Function.update_self]
        exact List.perm_append_comm.trans (List.perm_cons_erase listed).symm
      · rw [Function.update_of_ne own]
    · intro queue notCurrent
      rw [switched.runQueues]
      rw [threaded.runQueues] at notCurrent ⊢
      by_cases own : queue = queueOf (sched.taskPool current).priority
      · subst own
        rw [Function.update_self]
        cases head : (queues (queueOf (sched.taskPool current).priority)).head? with
        | none =>
            rw [List.head?_eq_none_iff.mp head] at listed
            exact absurd listed (by simp)
        | some first => exact head?_requeued head fun same => notCurrent (head.trans (congrArg some same))
      · rw [Function.update_of_ne own]
  · rw [if_neg running, Option.map_some]
    refine ⟨_, queues, rfl, rfl, ?_, fun queue => List.Perm.refl _, fun _ _ => rfl⟩
    exact threaded.congr (switchTo_links sched next) rfl

/-- The chosen task is still the head of the highest nonempty queue after the old one has moved. -/
theorem Threaded.yield_highest (threaded : Threaded sched queues) (ready : sched.initialized = true)
    (selected : sched.current = some current) (waiting : ∃ queue, sched.runQueues queue ≠ none)
    (member : (sched.taskPool current).state = .running →
      current ∈ queues (queueOf (sched.taskPool current).priority)) :
    ∃ after, Scheduler.schedulerYield sched = some after ∧ HighestCurrent after ∧ SameQueues sched after := by
  cases chosen : findNextTask sched with
  | none =>
      obtain ⟨queue, nonempty⟩ := waiting
      exact absurd (findNextTask_eq_none.mp chosen queue) nonempty
  | some next =>
      obtain ⟨place, head, highest⟩ := findNextTask_eq_some chosen
      by_cases same : next = current
      · subst same
        have stays : Scheduler.schedulerYield sched = some sched := by
          simp [Scheduler.schedulerYield, ready, selected, chosen]
        exact ⟨sched, stays, ⟨place, next, selected, head, highest⟩, fun queue nodes threads =>
          ⟨nodes, threads, List.Perm.refl nodes⟩⟩
      · obtain ⟨after, lists, done, current', threads', perm, heads⟩ :=
          threaded.schedulerYield ready selected chosen same member
        refine ⟨after, done, ⟨place, next, current', ?_, ?_⟩, ?_⟩
        · rw [heads place (by rw [head]; exact fun equal => same (Option.some.inj equal))]
          exact head
        · intro higher above
          rw [heads higher (by simp [highest higher above])]
          exact highest higher above
        · intro queue nodes threads
          rw [Links.Stretch.unique threads (threaded.threads queue)]
          exact ⟨lists queue, threads'.threads queue, perm queue⟩

/-- Among arranged queues, the head of the highest one has the greatest priority. -/
theorem HighestCurrent.nobodyAbove (highest : HighestCurrent sched) (inRange : PrioritiesInRange sched)
    (arranged : Arranged sched fun slot => Runnable (sched.taskPool slot)) : NobodyAbove sched := by
  obtain ⟨queue, first, selected, head, above⟩ := highest
  intro slot other selected' held ready
  obtain rfl := Option.some.inj (selected.symm.trans selected')
  have place := (queueOf_val (inRange first)).mp (arranged.head head).2.1
  have nonempty := arranged.queue_nonempty ⟨held, Or.inl ready⟩
  by_contra greater
  have priority : (queueOf (sched.taskPool other).priority).val = (sched.taskPool other).priority :=
    ((queueOf_val (inRange other)).mp rfl).symm
  have higher : queue < queueOf (sched.taskPool other).priority := by
    rw [Fin.lt_def, priority, ← place]
    exact Fin.lt_def.mp (not_le.mp greater)
  exact nonempty (above _ higher)

/-- A RUNNING current entry is on its queue; one that is no longer runnable is on none and is left alone. -/
theorem schedulerYield_strict_priority (formed : QueuesWellFormed sched) (inRange : PrioritiesInRange sched)
    (ready : sched.initialized = true) (selected : sched.current = some current)
    (held : (sched.taskPool current).state = .running → (sched.taskPool current).task ≠ none)
    (waiting : ∃ queue, sched.runQueues queue ≠ none) :
    ∃ after, schedulerYield sched = some after ∧ HighestCurrent after ∧ NobodyAbove after ∧ SameQueues sched after := by
  have arranged := (queuesWellFormed_iff_arranged inRange).mp formed
  have owned (slot : Slot) (isCurrent : sched.current = some slot) (running : (sched.taskPool slot).state = .running) :
      (sched.taskPool slot).task ≠ none := by
    obtain rfl := Option.some.inj (selected.symm.trans isCurrent)
    exact held running
  obtain ⟨queues, threaded, holds⟩ := arranged
  obtain ⟨after, done, highest, same⟩ := threaded.yield_highest ready selected waiting fun running =>
    (holds _ current).mpr ⟨⟨held running, Or.inr running⟩, rfl⟩
  obtain ⟨_, done', arranged', _⟩ := schedulerYield_outcome ⟨queues, threaded, holds⟩ owned
  obtain rfl := Option.some.inj (done.symm.trans done')
  have bounded : SchedCall.PriorityInRange .yield := trivial
  have inRange' : PrioritiesInRange after := schedStep_priorities inRange bounded done
  exact ⟨after, done, highest, highest.nobodyAbove inRange' arranged', same⟩

/-- A task of a higher priority has arrived. -/
theorem schedulerYield_strict_priority_higher :
    ∃ added, schedStep pairSched (.addTask (some 0x3000) none 6) = some added ∧
      ∃ after, schedulerYield added = some after ∧ HighestCurrent after ∧ NobodyAbove after ∧ SameQueues added after := by
  obtain ⟨added, done, arranged⟩ :=
    (schedStep_arranged_iff pairSched_wellFormed.settled (.addTask (some 0x3000) none 6)).mpr trivial
  have bounded : SchedCall.PriorityInRange (.addTask (some 0x3000) none 6) := by
    simp [SchedCall.PriorityInRange, schedPriorityLevels]
  have inRange := schedStep_priorities pairSched_wellFormed.priorities bounded done
  have formed := (queuesWellFormed_iff_arranged inRange).mpr arranged
  have seen : (schedStep pairSched (.addTask (some 0x3000) none 6)).map (fun state =>
      (state.initialized, state.current, (state.taskPool 0).task, state.runQueues 6)) =
      some (true, some 0, some 0x1000, some 2) := by decide +kernel
  rw [done] at seen
  simp only [Option.map_some, Option.some.injEq, Prod.mk.injEq] at seen
  obtain ⟨ready, selected, task, head⟩ := seen
  exact ⟨added, done, schedulerYield_strict_priority formed inRange ready selected (fun _ => by simp [task])
    ⟨6, by simp [head]⟩⟩

end AutismOS.Scheduler
