import AutismOS.Scheduler.Effects
import Mathlib.Data.List.Sort

namespace AutismOS.Scheduler

open AutismOS.Library

variable {sched before after : Sched} {slot other stask : Slot} {queue : Fin 8}
variable {queued queued' : Slot → Prop}

/-- An entry that belongs on a run queue: it holds a task that is READY or RUNNING. -/
def Runnable (entry : SchedTask) : Prop :=
  entry.task ≠ none ∧ (entry.state = .ready ∨ entry.state = .running)

/-- Every run queue is a finite acyclic doubly linked list with a NULL `prev`
at its head, and queue `q` holds exactly the runnable entries of priority `q`. -/
def QueuesWellFormed (sched : Sched) : Prop :=
  ∀ queue : Fin 8, ∃ nodes : List Slot,
    sched.links.Threads (sched.runQueues queue) nodes ∧ nodes.Nodup ∧
      ∀ slot, slot ∈ nodes ↔
        Runnable (sched.taskPool slot) ∧ (sched.taskPool slot).priority = queue.val

/-- The current task, if there is one, is a RUNNING entry. -/
def CurrentRunning (sched : Sched) : Prop :=
  ∀ slot, sched.current = some slot → (sched.taskPool slot).state = .running

/-- The current entry, if there is one, holds a task. -/
def CurrentHeld (sched : Sched) : Prop :=
  ∀ slot, sched.current = some slot → (sched.taskPool slot).task ≠ none

/-- The current task, if there is one, can run. -/
def CurrentRuns (sched : Sched) : Prop :=
  ∀ slot, sched.current = some slot →
    (sched.taskPool slot).task ≠ none ∧ (sched.taskPool slot).state = .running

def PrioritiesInRange (sched : Sched) : Prop :=
  ∀ slot, (sched.taskPool slot).priority < schedPriorityLevels

/-- A well formed scheduler state. -/
structure WellFormed (sched : Sched) : Prop where
  queues : QueuesWellFormed sched
  current : CurrentRunning sched
  priorities : PrioritiesInRange sched

/-- The run queues are sound lists, and together they hold exactly the slots in
`queued`, each on the queue that `enqueue_task` would choose for it. -/
def Arranged (sched : Sched) (queued : Slot → Prop) : Prop :=
  ∃ queues, Threaded sched queues ∧ ∀ queue slot, slot ∈ queues queue ↔
    queued slot ∧ queueOf (sched.taskPool slot).priority = queue

theorem queueOf_val {priority : SchedPriority} (bounded : priority < schedPriorityLevels) :
    queueOf priority = queue ↔ priority = queue.val := by
  have inRange : priority.val < 8 := bounded
  simp [queueOf, inRange, Fin.ext_iff]

theorem queuesWellFormed_iff_arranged (inRange : PrioritiesInRange sched) :
    QueuesWellFormed sched ↔ Arranged sched (fun slot => Runnable (sched.taskPool slot)) := by
  constructor
  · intro formed
    choose queues threads nodup holds using formed
    refine ⟨queues, ⟨threads, nodup, ?_⟩, ?_⟩
    · intro left right slot inLeft inRight
      exact Fin.ext (((holds left slot).mp inLeft).2.symm.trans ((holds right slot).mp inRight).2)
    · intro queue slot
      rw [holds, queueOf_val (inRange slot)]
  · rintro ⟨queues, threaded, holds⟩ queue
    refine ⟨queues queue, threaded.threads queue, threaded.nodup queue, fun slot => ?_⟩
    rw [holds, queueOf_val (inRange slot)]

namespace Arranged

theorem congr (arranged : Arranged sched queued) (same : ∀ slot, queued' slot ↔ queued slot) :
    Arranged sched queued' := by
  obtain ⟨queues, threaded, holds⟩ := arranged
  exact ⟨queues, threaded, fun queue slot => by rw [holds, same]⟩

/-- Heads and links determine which slots are queued. -/
theorem unique (left : Arranged sched queued) (right : Arranged sched queued')
    (member : queued slot) : queued' slot := by
  obtain ⟨queues, threaded, holds⟩ := left
  obtain ⟨queues', threaded', holds'⟩ := right
  let queue := queueOf (sched.taskPool slot).priority
  have same : queues queue = queues' queue :=
    Links.Stretch.unique (threaded.threads queue) (threaded'.threads queue)
  have listed : slot ∈ queues queue := (holds queue slot).mpr ⟨member, rfl⟩
  exact ((holds' queue slot).mp (same ▸ listed)).1

/-- The arrangement depends only on heads, links and the priorities of queued slots. -/
theorem transfer (arranged : Arranged before queued) (links : after.links = before.links)
    (heads : after.runQueues = before.runQueues)
    (priorities : ∀ slot, queued slot →
      (after.taskPool slot).priority = (before.taskPool slot).priority) :
    Arranged after queued := by
  obtain ⟨queues, threaded, holds⟩ := arranged
  refine ⟨queues, threaded.congr links heads, fun queue slot => ?_⟩
  rw [holds]
  exact and_congr_right fun member => by rw [priorities slot member]

theorem modifyStats (arranged : Arranged sched queued) (count : SchedStats → SchedStats) :
    Arranged (sched.modifyStats count) queued :=
  arranged.transfer rfl rfl fun _ _ => rfl

/-- Rewriting fields other than the links and the priority of a queued slot. -/
theorem modifyTask (arranged : Arranged sched queued) (slot : Slot) (change : SchedTask → SchedTask)
    (keepsNext : ∀ entry, (change entry).next = entry.next)
    (keepsPrev : ∀ entry, (change entry).prev = entry.prev)
    (keepsPriority : queued slot → ∀ entry, (change entry).priority = entry.priority) :
    Arranged (sched.modifyTask slot change) queued := by
  refine arranged.transfer (Sched.modifyTask_links sched change slot keepsNext keepsPrev) rfl ?_
  intro other member
  by_cases same : other = slot
  · subst same
    rw [Sched.modifyTask_same, keepsPriority member]
  · rw [Sched.modifyTask_other sched change same]

/-- A slot on no queue may be rewritten freely, links included. -/
theorem modifyUnqueued (arranged : Arranged sched queued) (fresh : ¬ queued slot)
    (change : SchedTask → SchedTask) : Arranged (sched.modifyTask slot change) queued := by
  obtain ⟨queues, threaded, holds⟩ := arranged
  have untouched (other : Slot) (member : queued other) :
      (sched.modifyTask slot change).taskPool other = sched.taskPool other :=
    Sched.modifyTask_other sched change fun same => fresh (same ▸ member)
  refine ⟨queues, ⟨fun queue => ?_, threaded.nodup, threaded.separate⟩, fun queue other => ?_⟩
  · refine (threaded.threads queue).frame fun other listed => ?_
    have kept := untouched other ((holds queue other).mp listed).1
    exact ⟨congrArg SchedTask.next kept, congrArg SchedTask.prev kept⟩
  · rw [holds]
    exact and_congr_right fun member => by rw [untouched other member]

theorem dequeueTask (arranged : Arranged sched queued) (member : queued stask) :
    Arranged (dequeueTask sched stask) (fun slot => queued slot ∧ slot ≠ stask) := by
  obtain ⟨queues, threaded, holds⟩ := arranged
  have listed := (holds _ stask).mpr ⟨member, rfl⟩
  refine ⟨_, threaded.dequeueTask listed, fun queue slot => ?_⟩
  rw [(dequeueTask_sameTasks sched stask).priority]
  by_cases at' : queue = queueOf (sched.taskPool stask).priority
  · subst at'
    rw [Function.update_self, (threaded.nodup _).mem_erase_iff, holds]
    constructor
    · rintro ⟨different, isQueued, place⟩
      exact ⟨⟨isQueued, different⟩, place⟩
    · rintro ⟨⟨isQueued, different⟩, place⟩
      exact ⟨different, isQueued, place⟩
  · rw [Function.update_of_ne at', holds]
    constructor
    · rintro ⟨isQueued, place⟩
      refine ⟨⟨isQueued, fun same => at' ?_⟩, place⟩
      rw [← place, same]
    · rintro ⟨⟨isQueued, _⟩, place⟩
      exact ⟨isQueued, place⟩

theorem enqueueTask (arranged : Arranged sched queued) (fresh : ¬ queued stask) :
    ∃ after, enqueueTask sched stask = some after ∧ SameTasks sched after ∧
      Arranged after (fun slot => queued slot ∨ slot = stask) := by
  obtain ⟨queues, threaded, holds⟩ := arranged
  have unlisted (queue : Fin 8) : stask ∉ queues queue := fun listed =>
    fresh ((holds queue stask).mp listed).1
  obtain ⟨after, done, same, appended⟩ := threaded.enqueueTask unlisted
  refine ⟨after, done, same, _, appended, fun queue slot => ?_⟩
  rw [same.priority]
  by_cases at' : queue = queueOf (sched.taskPool stask).priority
  · subst at'
    rw [Function.update_self, List.mem_append, holds, List.mem_singleton]
    constructor
    · rintro (⟨isQueued, place⟩ | isNew)
      · exact ⟨Or.inl isQueued, place⟩
      · exact ⟨Or.inr isNew, by rw [isNew]⟩
    · rintro ⟨isQueued | isNew, place⟩
      · exact Or.inl ⟨isQueued, place⟩
      · exact Or.inr isNew
  · rw [Function.update_of_ne at', holds]
    constructor
    · rintro ⟨isQueued, place⟩
      exact ⟨Or.inl isQueued, place⟩
    · rintro ⟨isQueued | isNew, place⟩
      · exact ⟨isQueued, place⟩
      · exact absurd (by rw [← place, isNew]) at'

/-- The head of a queue is queued, belongs on that queue and has a NULL `prev`. -/
theorem head (arranged : Arranged sched queued) (head : sched.runQueues queue = some slot) :
    queued slot ∧ queueOf (sched.taskPool slot).priority = queue ∧ sched.links.prev slot = none := by
  obtain ⟨queues, threaded, holds⟩ := arranged
  have threads := threaded.threads queue
  rw [head] at threads
  obtain ⟨isQueued, place⟩ := (holds queue slot).mp threads.head_mem
  refine ⟨isQueued, place, ?_⟩
  cases nodes : queues queue with
  | nil => exact absurd (nodes ▸ threads) (by simp)
  | cons first rest =>
      have linked := nodes ▸ threads
      have same : slot = first := Option.some.inj linked.1
      exact same ▸ linked.2.1

theorem head_queued (arranged : Arranged sched queued) (head : sched.runQueues queue = some slot) :
    queued slot :=
  (arranged.head head).1

/-- The successor of a queued slot is queued and points back to it. -/
theorem next (arranged : Arranged sched queued) (member : queued slot)
    (link : sched.links.next slot = some other) : queued other ∧ sched.links.prev other = some slot := by
  obtain ⟨queues, threaded, holds⟩ := arranged
  have listed := (holds _ slot).mpr ⟨member, rfl⟩
  obtain ⟨follows, pointsBack⟩ := Links.Stretch.next_mem (threaded.threads _) listed link
  exact ⟨((holds _ other).mp follows).1, pointsBack⟩

/-- A queued slot is the head of its queue or the successor of a queued slot. -/
theorem reached (arranged : Arranged sched queued) (member : queued slot) :
    sched.runQueues (queueOf (sched.taskPool slot).priority) = some slot ∧
        sched.links.prev slot = none ∨
      ∃ previous, queued previous ∧ sched.links.next previous = some slot ∧
        sched.links.prev slot = some previous := by
  obtain ⟨queues, threaded, holds⟩ := arranged
  have listed := (holds _ slot).mpr ⟨member, rfl⟩
  rcases Links.Stretch.reached (threaded.threads _) listed with first | ⟨previous, inQueue, link⟩
  · exact Or.inl first
  · exact Or.inr ⟨previous, ((holds _ previous).mp inQueue).1, link⟩

/-- A head stays the head where no queued slot has got another successor. -/
theorem head_kept (arranged : Arranged before queued) (kept : Arranged after queued)
    (priorities : ∀ slot, (after.taskPool slot).priority = (before.taskPool slot).priority)
    (sameNext : ∀ slot, queued slot → after.links.next slot = before.links.next slot)
    (head : before.runQueues queue = some slot) : after.runQueues queue = some slot := by
  obtain ⟨isQueued, place, noPrev⟩ := arranged.head head
  rcases kept.reached isQueued with ⟨still, _⟩ | ⟨source, fromQueued, link, _⟩
  · rwa [priorities, place] at still
  · rw [sameNext source fromQueued] at link
    exact absurd (noPrev.symm.trans (arranged.next fromQueued link).2) (by simp)

theorem head_eq (arranged : Arranged before queued) (kept : Arranged after queued)
    (priorities : ∀ slot, (after.taskPool slot).priority = (before.taskPool slot).priority)
    (sameNext : ∀ slot, queued slot → after.links.next slot = before.links.next slot) :
    after.runQueues queue = before.runQueues queue := by
  cases old : before.runQueues queue with
  | some first => exact arranged.head_kept kept priorities sameNext old
  | none =>
      cases new : after.runQueues queue with
      | none => rfl
      | some first =>
          have back := kept.head_kept arranged (fun slot => (priorities slot).symm)
            (fun slot isQueued => (sameNext slot isQueued).symm) new
          exact absurd (old.symm.trans back) (by simp)

/-- So does a successor, where heads and all other successors are the same. -/
theorem next_kept (arranged : Arranged before queued) (kept : Arranged after queued)
    (priorities : ∀ slot, (after.taskPool slot).priority = (before.taskPool slot).priority)
    (sameHeads : after.runQueues = before.runQueues)
    (sameNext : ∀ other, queued other → other ≠ slot → after.links.next other = before.links.next other)
    (member : queued slot) (link : before.links.next slot = some other) : after.links.next slot = some other := by
  obtain ⟨isQueued, pointsBack⟩ := arranged.next member link
  rcases kept.reached isQueued with ⟨atHead, _⟩ | ⟨origin, fromQueued, entrance, _⟩
  · rw [sameHeads, priorities] at atHead
    exact absurd ((arranged.head atHead).2.2.symm.trans pointsBack) (by simp)
  · by_cases isSlot : origin = slot
    · rwa [isSlot] at entrance
    · rw [sameNext origin fromQueued isSlot] at entrance
      have same := (arranged.next fromQueued entrance).2.symm.trans pointsBack
      exact absurd (Option.some.inj same) isSlot

theorem next_eq (arranged : Arranged before queued) (kept : Arranged after queued)
    (priorities : ∀ slot, (after.taskPool slot).priority = (before.taskPool slot).priority)
    (sameHeads : after.runQueues = before.runQueues)
    (sameNext : ∀ other, queued other → other ≠ slot → after.links.next other = before.links.next other)
    (member : queued slot) : after.links.next slot = before.links.next slot := by
  cases old : before.links.next slot with
  | some target => exact arranged.next_kept kept priorities sameHeads sameNext member old
  | none =>
      cases new : after.links.next slot with
      | none => rfl
      | some target =>
          have back := kept.next_kept arranged (fun slot => (priorities slot).symm) sameHeads.symm
            (fun other isQueued different => (sameNext other isQueued different).symm) member new
          exact absurd (old.symm.trans back) (by simp)

/-- A queued slot makes its queue nonempty. -/
theorem queue_nonempty (arranged : Arranged sched queued) (member : queued slot) :
    sched.runQueues (queueOf (sched.taskPool slot).priority) ≠ none := by
  obtain ⟨queues, threaded, holds⟩ := arranged
  intro empty
  have threads := threaded.threads (queueOf (sched.taskPool slot).priority)
  have listed := (holds _ slot).mpr ⟨member, rfl⟩
  rw [empty] at threads
  cases nodes : queues (queueOf (sched.taskPool slot).priority) with
  | nil => simp [nodes] at listed
  | cons first rest => exact absurd (nodes ▸ threads).1 (by simp)

end Arranged

/-- A state whose queues hold exactly the runnable entries, whatever priorities
they have, and whose current task is RUNNING. -/
structure Settled (sched : Sched) : Prop where
  arranged : Arranged sched (fun slot => Runnable (sched.taskPool slot))
  current : CurrentRunning sched

theorem WellFormed.settled (formed : WellFormed sched) : Settled sched :=
  ⟨(queuesWellFormed_iff_arranged formed.priorities).mp formed.queues, formed.current⟩

theorem Settled.current_runnable (settled : Settled sched) (held : CurrentHeld sched)
    (selected : sched.current = some slot) : Runnable (sched.taskPool slot) :=
  ⟨held slot selected, Or.inr (settled.current slot selected)⟩

/-- Where the current entry was current before, with the same task and state, it still runs. -/
theorem CurrentRunning.kept (running : CurrentRunning before)
    (kept : ∀ slot, after.current = some slot → before.current = some slot ∧
      (after.taskPool slot).task = (before.taskPool slot).task ∧
        (after.taskPool slot).state = (before.taskPool slot).state) :
    CurrentRunning after ∧ (CurrentHeld before → CurrentHeld after) := by
  constructor
  · intro slot selected
    obtain ⟨wasSelected, _, state⟩ := kept slot selected
    rw [state]
    exact running slot wasSelected
  · intro held slot selected
    obtain ⟨wasSelected, task, _⟩ := kept slot selected
    rw [task]
    exact held slot wasSelected

theorem CurrentRuns.held (runs : CurrentRuns sched) : CurrentHeld sched :=
  fun slot selected => (runs slot selected).1

theorem CurrentRuns.running (runs : CurrentRuns sched) : CurrentRunning sched :=
  fun slot selected => (runs slot selected).2

theorem findNextTask_eq_none : findNextTask sched = none ↔ ∀ queue, sched.runQueues queue = none := by
  simp [findNextTask]

/-- `find_next_task` answers the head of the highest nonempty queue. -/
theorem findNextTask_eq_some (found : findNextTask sched = some slot) :
    ∃ queue, sched.runQueues queue = some slot ∧
      ∀ higher, queue < higher → sched.runQueues higher = none := by
  obtain ⟨front, queue, back, split, head, empty⟩ := List.findSome?_eq_some_iff.mp found
  refine ⟨queue, head, fun higher above => ?_⟩
  have sorted : ((List.finRange 8).reverse).Pairwise (fun left right => right < left) :=
    List.pairwise_reverse.mpr (List.pairwise_lt_finRange 8)
  have listed : higher ∈ (List.finRange 8).reverse := by simp
  rw [split] at sorted listed
  rcases List.mem_append.mp listed with inFront | inBack
  · exact empty higher inFront
  · rcases List.mem_cons.mp inBack with same | inBack
    · exact absurd same (ne_of_gt above)
    · have below := (List.pairwise_cons.mp (List.pairwise_append.mp sorted).2.1).1 higher inBack
      exact absurd (above.trans below) (lt_irrefl queue)

theorem findNextTask_of_head (head : sched.runQueues queue = some slot)
    (highest : ∀ higher, queue < higher → sched.runQueues higher = none) :
    findNextTask sched = some slot := by
  cases found : findNextTask sched with
  | none => exact absurd (head.symm.trans (findNextTask_eq_none.mp found queue)) (by simp)
  | some other =>
      obtain ⟨place, otherHead, above⟩ := findNextTask_eq_some found
      rcases lt_trichotomy queue place with lower | same | higher
      · exact absurd ((highest place lower).symm.trans otherHead) (by simp)
      · subst same
        exact otherHead.symm.trans head
      · exact absurd ((above queue higher).symm.trans head) (by simp)

end AutismOS.Scheduler
