import AutismOS.Library.Walks
import AutismOS.Scheduler.Invariant

namespace AutismOS.Scheduler

open AutismOS.Library

variable {sched before after : Sched} {slot other stask target : Slot} {queue : Fin 8}
variable {queued : Slot → Prop} {head : Option Slot} {nodes : List Slot} {task : Option Nat}

/-! # What else `scheduler_remove_task` removes

The entry is unlinked whatever its state.  For one that is on no queue this redirects a queue head, or the successor
link of whatever its own links point to.
-/

/-- Every other queued entry is still met on its queue, in the old order, and the other pool entries
are as before apart from their links. -/
def KeepsOthers (before after : Sched) (stask : Slot) : Prop :=
  (∀ queue nodes, before.links.Threads (before.runQueues queue) nodes →
    ∃ visited, after.links.Visits (after.runQueues queue) visited ∧
      (nodes.filter fun slot => slot ≠ stask).Sublist visited) ∧
  ∀ other, other ≠ stask → (after.taskPool other).unlinked = (before.taskPool other).unlinked

/-- `dequeue_task` overwrites the way by which its queue leads to the queued slot `target`: the
head, or the successor link of a queued slot. -/
def Overwrites (sched : Sched) (queued : Slot → Prop) (stask target : Slot) : Prop :=
  (sched.links.prev stask = none ∧ sched.runQueues (queueOf (sched.taskPool stask).priority) = some target) ∨
    ∃ previous, sched.links.prev stask = some previous ∧ queued previous ∧
      sched.links.next previous = some target

/-- What is overwritten is still reached by the removed slot's own successor. -/
def Bypasses (sched : Sched) (queued : Slot → Prop) (stask : Slot) : Prop :=
  ∀ target, Overwrites sched queued stask target →
    ∃ first, sched.links.next stask = some first ∧ sched.links.WalksPast stask first target

/-- For slots without links, like all that the scheduler took off a queue itself, only the removal from an empty
queue is harmless. -/
theorem bypasses_detached (noNext : sched.links.next stask = none) (noPrev : sched.links.prev stask = none) :
    Bypasses sched queued stask ↔ sched.runQueues (queueOf (sched.taskPool stask).priority) = none := by
  constructor
  · intro bypasses
    cases head : sched.runQueues (queueOf (sched.taskPool stask).priority) with
    | none => rfl
    | some target =>
        obtain ⟨first, successor, _⟩ := bypasses target (Or.inl ⟨noPrev, head⟩)
        exact absurd (noNext.symm.trans successor) (by simp)
  · intro empty target overwrites
    rcases overwrites with ⟨_, head⟩ | ⟨previous, link, _⟩
    · exact absurd (empty.symm.trans head) (by simp)
    · exact absurd (noPrev.symm.trans link) (by simp)

theorem filter_of_absent (absent : stask ∉ nodes) : (nodes.filter fun slot => slot ≠ stask) = nodes := by
  refine List.filter_eq_self.mpr ?_
  intro slot listed
  have different : slot ≠ stask := fun same => absent (same ▸ listed)
  simpa using different

/-- A list without the redirected slot is walked as before. -/
theorem visits_unlink (threads : sched.links.Threads head nodes) (absent : stask ∉ nodes)
    (apart : ∀ previous, sched.links.prev stask = some previous → previous ∉ nodes) :
    (sched.links.unlink stask).Visits head nodes := by
  refine threads.visits.frame ?_
  intro slot listed
  refine Links.unlink_next_of_ne (fun same => absent (same ▸ listed)) ?_
  exact fun same => apart slot same listed

/-- The queue whose head is redirected. -/
theorem visits_unlink_head (threads : sched.links.Threads head nodes) (absent : stask ∉ nodes)
    (noPrev : sched.links.prev stask = none)
    (bypass : ∀ target, head = some target →
      ∃ first, sched.links.next stask = some first ∧ sched.links.WalksPast stask first target) :
    ∃ visited, (sched.links.unlink stask).Visits (sched.links.next stask) visited ∧ nodes.Sublist visited := by
  have kept : (sched.links.unlink stask).Visits head nodes :=
    visits_unlink threads absent fun previous link => absurd (noPrev.symm.trans link) (by simp)
  cases nodes with
  | nil => exact ⟨[], trivial, List.Sublist.refl []⟩
  | cons target rest =>
      have start : head = some target := threads.1
      obtain ⟨first, successor, walk⟩ := bypass target start
      rw [start] at kept
      obtain ⟨between, visits⟩ := walk.visits kept
      rw [successor]
      exact ⟨between ++ target :: rest, visits, List.sublist_append_right between _⟩

/-- The queue in which the successor link of a slot is redirected. -/
theorem visits_unlink_inside {previous : Slot} {front back : List Slot}
    (threads : sched.links.Threads head (front ++ previous :: back)) (nodup : (front ++ previous :: back).Nodup)
    (absent : stask ∉ front ++ previous :: back) (link : sched.links.prev stask = some previous)
    (bypass : ∀ target, sched.links.next previous = some target →
      ∃ first, sched.links.next stask = some first ∧ sched.links.WalksPast stask first target) :
    ∃ visited, (sched.links.unlink stask).Visits head visited ∧ (front ++ previous :: back).Sublist visited := by
  obtain ⟨_, tailNodup, separate⟩ := List.nodup_append.mp nodup
  have notBack : previous ∉ back := (List.nodup_cons.mp tailNodup).1
  have notStask : previous ≠ stask := fun same => absent (by simp [same])
  have frontKept : ∀ slot ∈ front, (sched.links.unlink stask).next slot = sched.links.next slot := by
    intro slot listed
    refine Links.unlink_next_of_ne (fun same => absent (by simp [← same, listed])) ?_
    intro same
    have equal : previous = slot := Option.some.inj (link.symm.trans same)
    exact separate slot listed previous (by simp) equal.symm
  have backKept : ∀ slot ∈ back, (sched.links.unlink stask).next slot = sched.links.next slot := by
    intro slot listed
    refine Links.unlink_next_of_ne (fun same => absent (by simp [← same, listed])) ?_
    intro same
    have equal : previous = slot := Option.some.inj (link.symm.trans same)
    exact notBack (equal ▸ listed)
  obtain ⟨frontVisits, backVisits⟩ := Links.visits_append.mp threads.visits
  have leading : (sched.links.unlink stask).Visits head front := frontVisits.frame frontKept
  have arrives : (sched.links.unlink stask).onward head front = some previous := by
    rw [Links.onward_frame frontKept]
    exact backVisits.1
  have redirected : (sched.links.unlink stask).next previous = sched.links.next stask :=
    Links.unlink_next_of_prev notStask link
  have whole (rest : List Slot) (trailing : (sched.links.unlink stask).Visits (sched.links.next stask) rest) :
      (sched.links.unlink stask).Visits head (front ++ previous :: rest) := by
    refine Links.visits_append.mpr ⟨leading, ?_⟩
    rw [arrives]
    exact ⟨rfl, redirected ▸ trailing⟩
  cases back with
  | nil => exact ⟨front ++ [previous], whole [] trivial, List.Sublist.refl _⟩
  | cons target rest =>
      have start : sched.links.next previous = some target := backVisits.2.1
      obtain ⟨first, successor, walk⟩ := bypass target start
      have behind : (sched.links.unlink stask).Visits (some target) (target :: rest) := by
        rw [← start]
        exact backVisits.2.frame backKept
      obtain ⟨between, visits⟩ := walk.visits behind
      rw [← successor] at visits
      refine ⟨front ++ previous :: (between ++ target :: rest), whole _ visits, ?_⟩
      refine List.Sublist.append (List.Sublist.refl front) (List.Sublist.cons_cons previous ?_)
      exact List.sublist_append_right between _

/-- Run queues in the sense of `QueuesWellFormed` hold the runnable entries with priorities in range. -/
theorem QueuesWellFormed.arranged (formed : QueuesWellFormed sched) :
    Arranged sched fun slot => Runnable (sched.taskPool slot) ∧ (sched.taskPool slot).priority < schedPriorityLevels := by
  choose queues threads nodup holds using formed
  refine ⟨queues, ⟨threads, nodup, ?_⟩, ?_⟩
  · intro left right slot inLeft inRight
    exact Fin.ext (((holds left slot).mp inLeft).2.symm.trans ((holds right slot).mp inRight).2)
  · intro queue slot
    rw [holds]
    constructor
    · intro listed
      have inRange : (sched.taskPool slot).priority < schedPriorityLevels := by
        rw [listed.2]
        exact queue.isLt
      exact ⟨⟨listed.1, inRange⟩, (queueOf_val inRange).mpr listed.2⟩
    · intro listed
      exact ⟨listed.1.1, (queueOf_val listed.1.2).mp listed.2⟩

/-- A queued entry is taken out of its list. -/
theorem dequeueTask_visits (arranged : Arranged sched queued) (member : queued stask)
    (threads : sched.links.Threads (sched.runQueues queue) nodes) :
    ∃ visited, (dequeueTask sched stask).links.Visits ((dequeueTask sched stask).runQueues queue) visited ∧
      (nodes.filter fun slot => slot ≠ stask).Sublist visited := by
  obtain ⟨queues, threaded, holds⟩ := arranged
  have same : nodes = queues queue := Links.Stretch.unique threads (threaded.threads queue)
  have remaining := (threaded.dequeueTask ((holds _ stask).mpr ⟨member, rfl⟩)).threads queue
  refine ⟨_, remaining.visits, ?_⟩
  rw [same]
  by_cases own : queue = queueOf (sched.taskPool stask).priority
  · subst own
    rw [Function.update_self, (threaded.nodup _).erase_eq_filter]
    have equal : ((queues (queueOf (sched.taskPool stask).priority)).filter fun slot => slot ≠ stask) =
        (queues (queueOf (sched.taskPool stask).priority)).filter fun slot => slot != stask :=
      List.filter_congr fun slot _ => by by_cases same : slot = stask <;> simp [same]
    rw [equal]
  · rw [Function.update_of_ne own, filter_of_absent]
    exact fun listed => own ((holds queue stask).mp listed).2.symm

theorem dequeueTask_visits_bypassed (arranged : Arranged sched queued) (absent : ¬ queued stask)
    (bypasses : Bypasses sched queued stask) (threads : sched.links.Threads (sched.runQueues queue) nodes) :
    ∃ visited, (dequeueTask sched stask).links.Visits ((dequeueTask sched stask).runQueues queue) visited ∧
      (nodes.filter fun slot => slot ≠ stask).Sublist visited := by
  obtain ⟨queues, threaded, holds⟩ := arranged
  have same : nodes = queues queue := Links.Stretch.unique threads (threaded.threads queue)
  have listed (slot : Slot) (member : slot ∈ nodes) : queued slot := ((holds queue slot).mp (same ▸ member)).1
  have unlisted : stask ∉ nodes := fun member => absent (listed stask member)
  rw [filter_of_absent unlisted, dequeueTask_links, dequeueTask_runQueues]
  cases link : sched.links.prev stask with
  | none =>
      have apart : ∀ previous, sched.links.prev stask = some previous → previous ∉ nodes := fun previous some' =>
        absurd (link.symm.trans some') (by simp)
      by_cases own : queue = queueOf (sched.taskPool stask).priority
      · subst own
        have newHead : sched.links.unlinkHead (sched.runQueues (queueOf (sched.taskPool stask).priority)) stask =
            sched.links.next stask := by
          simp [Links.unlinkHead, link]
        rw [Function.update_self, newHead]
        exact visits_unlink_head threads unlisted link fun target start => bypasses target (Or.inl ⟨link, start⟩)
      · rw [Function.update_of_ne own]
        exact ⟨nodes, visits_unlink threads unlisted apart, List.Sublist.refl nodes⟩
  | some previous =>
      have sameHead : sched.links.unlinkHead (sched.runQueues (queueOf (sched.taskPool stask).priority)) stask =
          sched.runQueues (queueOf (sched.taskPool stask).priority) := by
        simp [Links.unlinkHead, link]
      rw [sameHead, Function.update_eq_self]
      by_cases inside : previous ∈ nodes
      · obtain ⟨front, back, split⟩ := List.append_of_mem inside
        have previousQueued := listed previous inside
        subst split
        have nodup : (front ++ previous :: back).Nodup := same ▸ threaded.nodup queue
        exact visits_unlink_inside threads nodup unlisted link fun target next =>
          bypasses target (Or.inr ⟨previous, link, previousQueued, next⟩)
      · refine ⟨nodes, visits_unlink threads unlisted ?_, List.Sublist.refl nodes⟩
        intro other link'
        exact Option.some.inj (link.symm.trans link') ▸ inside

/-- If the other entries are still met, then what was overwritten is reached by the slot's own successor. -/
theorem bypasses_of_visits (arranged : Arranged sched queued) (absent : ¬ queued stask)
    (kept : ∀ queue nodes, sched.links.Threads (sched.runQueues queue) nodes →
      ∃ visited, (dequeueTask sched stask).links.Visits ((dequeueTask sched stask).runQueues queue) visited ∧
        (nodes.filter fun slot => slot ≠ stask).Sublist visited) : Bypasses sched queued stask := by
  obtain ⟨queues, threaded, holds⟩ := arranged
  -- A nonempty walk from the slot's own successor contains the path that is asked for.
  have path (target : Slot) (visited : List Slot) (member : target ∈ visited)
      (visits : (sched.links.unlink stask).Visits (sched.links.next stask) visited) :
      ∃ first, sched.links.next stask = some first ∧ sched.links.WalksPast stask first target := by
    cases successor : sched.links.next stask with
    | none =>
        cases visited with
        | nil => simp at member
        | cons first rest => exact absurd (successor.symm.trans visits.1) (by simp)
    | some first =>
        rw [successor] at visits
        exact ⟨first, rfl, visits.walksPast successor member⟩
  have unlisted (queue : Fin 8) : stask ∉ queues queue := fun listed => absent ((holds queue stask).mp listed).1
  intro target overwrites
  rcases overwrites with ⟨noPrev, start⟩ | ⟨previous, link, previousQueued, next⟩
  · obtain ⟨visited, visits, sublist⟩ := kept _ _ (threaded.threads (queueOf (sched.taskPool stask).priority))
    have threads := threaded.threads (queueOf (sched.taskPool stask).priority)
    rw [start] at threads
    rw [filter_of_absent (unlisted _)] at sublist
    have newHead : (dequeueTask sched stask).runQueues (queueOf (sched.taskPool stask).priority) =
        sched.links.next stask := by
      rw [dequeueTask_runQueues]
      simp [Links.unlinkHead, noPrev]
    rw [newHead, dequeueTask_links] at visits
    exact path target visited (sublist.subset threads.head_mem) visits
  · have inQueue := (holds _ previous).mpr ⟨previousQueued, rfl⟩
    obtain ⟨visited, visits, sublist⟩ := kept _ _ (threaded.threads (queueOf (sched.taskPool previous).priority))
    have threads := threaded.threads (queueOf (sched.taskPool previous).priority)
    rw [filter_of_absent (unlisted _)] at sublist
    obtain ⟨front, back, split⟩ := List.append_of_mem inQueue
    rw [split] at sublist threads
    obtain ⟨_, _, _, _, trailing⟩ := Links.stretch_append.mp threads
    rw [next] at trailing
    cases back with
    | nil => exact absurd trailing (by simp)
    | cons follower rest =>
        obtain rfl := Option.some.inj trailing.1
        -- The walk meets `previous` and later `target`; in between it leaves from the slot's own successor.
        obtain ⟨leading, behind, parts, met, later⟩ :=
          List.cons_sublist_iff.mp ((List.sublist_append_right front _).trans sublist)
        obtain ⟨earlier, between, leadingSplit⟩ := List.append_of_mem met
        have redirected : (sched.links.unlink stask).next previous = sched.links.next stask :=
          Links.unlink_next_of_prev (fun same => absent (same ▸ previousQueued)) link
        rw [parts, leadingSplit, List.append_assoc, dequeueTask_links] at visits
        have onward := (Links.visits_append.mp visits).2.2
        rw [redirected] at onward
        exact path target _ (List.mem_append_right between (later.subset (by simp))) onward

theorem schedulerRemoveTask_entries (found : findSchedTask sched task = some stask) (different : other ≠ stask) :
    ((schedulerRemoveTask sched task).taskPool other).unlinked = (sched.taskPool other).unlinked := by
  rw [schedulerRemoveTask_found found, Sched.modifyStats_taskPool, Sched.modifyTask_other _ _ different]
  exact (dequeueTask_sameTasks sched stask).tasks other

/-- Whatever slots the run queues hold, each on the queue of its priority: the others stay exactly if the removed
entry was queued or everything that its stale links overwrite is still reached. -/
theorem schedulerRemoveTask_keepsOthers_iff (arranged : Arranged sched queued)
    (found : findSchedTask sched task = some stask) :
    KeepsOthers sched (schedulerRemoveTask sched task) stask ↔ queued stask ∨ Bypasses sched queued stask := by
  unfold KeepsOthers
  rw [schedulerRemoveTask_links found, schedulerRemoveTask_runQueues found]
  constructor
  · intro keeps
    by_cases member : queued stask
    · exact Or.inl member
    · exact Or.inr (bypasses_of_visits arranged member keeps.1)
  · intro allowed
    refine ⟨?_, fun other different => schedulerRemoveTask_entries found different⟩
    intro queue nodes threads
    by_cases member : queued stask
    · exact dequeueTask_visits arranged member threads
    · exact dequeueTask_visits_bypassed arranged member (allowed.resolve_left member) threads

theorem schedulerRemoveTask_keepsOthers_iff_ready :
    KeepsOthers pairSched (schedulerRemoveTask pairSched (some 0x2000)) 1 := by
  have found : findSchedTask pairSched (some 0x2000) = some 1 := by decide
  have runnable : Runnable (pairSched.taskPool 1) := ⟨by decide, by decide⟩
  exact (schedulerRemoveTask_keepsOthers_iff pairSched_wellFormed.settled.arranged found).mpr (Or.inl runnable)

/-- Removing a task that is blocked empties the queue of its priority. -/
theorem remove_blocked_empties_queue :
    ∃ blocked, schedStep pairSched (.block none) = some blocked ∧ QueuesWellFormed blocked ∧
      (blocked.taskPool 0).state = .blocked ∧ findSchedTask blocked (some 0x1000) = some 0 ∧
      Runnable (blocked.taskPool 1) ∧ blocked.runQueues 4 = some 1 ∧
      (schedulerRemoveTask blocked (some 0x1000)).runQueues 4 = none ∧
      ¬ KeepsOthers blocked (schedulerRemoveTask blocked (some 0x1000)) 0 := by
  have runnable (slot : Slot) (small : slot = 0 ∨ slot = 1) : Runnable (pairSched.taskPool slot) := by
    rcases small with rfl | rfl
    · exact ⟨by decide, by decide⟩
    · exact ⟨by decide, by decide⟩
  have allowed : KeepsQueues pairSched (.block none) := by
    intro current selected
    obtain rfl : (0 : Slot) = current := Option.some.inj selected
    exact Or.inl (Or.inl (runnable 0 (Or.inl rfl)))
  obtain ⟨blocked, done, arranged⟩ :=
    (schedStep_arranged_iff pairSched_wellFormed.settled (.block none)).mpr allowed
  have bounded : SchedCall.PriorityInRange (.block none) := trivial
  have inRange := schedStep_priorities pairSched_wellFormed.priorities bounded done
  have formed := (queuesWellFormed_iff_arranged inRange).mpr arranged
  have entries : (schedStep pairSched (.block none)).map (fun state =>
      ((state.taskPool 0).state, findSchedTask state (some 0x1000), (state.taskPool 1).task, (state.taskPool 1).state)) =
      some (.blocked, some 0, some 0x2000, .running) := by decide +kernel
  have queues : (schedStep pairSched (.block none)).map (fun state =>
      (state.runQueues 4, state.links.next 1, state.links.prev 1,
        (schedulerRemoveTask state (some 0x1000)).runQueues 4)) =
      some (some 1, none, none, none) := by decide +kernel
  rw [done] at entries queues
  simp only [Option.map_some, Option.some.injEq, Prod.mk.injEq] at entries queues
  obtain ⟨isBlocked, found, task, state⟩ := entries
  obtain ⟨head, next, prev, emptied⟩ := queues
  have threads : blocked.links.Threads (blocked.runQueues 4) [1] := ⟨head, prev, next⟩
  refine ⟨blocked, done, formed, isBlocked, found, ⟨by simp [task], Or.inr state⟩, head, emptied, ?_⟩
  intro keeps
  obtain ⟨visited, visits, sublist⟩ := keeps.1 4 [1] threads
  rw [emptied] at visits
  cases visited with
  | nil => exact absurd sublist (by decide)
  | cons first rest => exact absurd visits.1 (by simp)

end AutismOS.Scheduler
