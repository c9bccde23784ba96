import AutismOS.Processes.Creation
import AutismOS.Library.Run

namespace AutismOS.Processes

open AutismOS.Library AutismOS.Memory

/-! # Stack pointers across switches

Beside the kernel stands, for each task, the stack pointer that it is to be continued with.
-/

structure Context where
  kernel : Kernel
  created : List Nat
  expected : Nat → Nat
  returned : Nat

inductive Turn where
  | tick (currentEsp : Nat)
  | taskCreate (task stack entryPoint : Nat)

/-- The state after `task_init`. -/
def initialContext (kernel : Kernel) : Context :=
  { kernel := kernel.taskInit, created := [], expected := fun _ => 0, returned := 0 }

/-- A tick that makes another task current switches away from the one that was. -/
def Context.ticked (context : Context) (currentEsp esp : Nat) (kernel : Kernel) : Context :=
  { context with
    kernel
    returned := esp
    expected :=
      if kernel.currentTask = context.kernel.currentTask then context.expected
      else Function.update context.expected context.kernel.currentTask currentEsp }

def Context.extended (context : Context) (task stack : Nat) (kernel : Kernel) : Context :=
  { context with
    kernel
    created := context.created ++ [task]
    expected := Function.update context.expected task (preparedEsp stack) }

def takeTurn (fuel : Nat) (context : Context) : Turn → Option Context
  | .tick currentEsp =>
      (context.kernel.taskSchedulerTick fuel currentEsp).map fun result =>
        context.ticked currentEsp result.1 result.2
  | .taskCreate task stack entryPoint =>
      (context.kernel.taskCreate fuel task stack entryPoint).map fun result =>
        context.extended task stack result.2

/-- Both requests of `task_create` to `kmalloc` succeed, with blocks that are not in use. -/
def Succeeds (context : Context) : Turn → Prop
  | .tick _ => True
  | .taskCreate task stack _ => task ≠ 0 ∧ task ∉ context.kernel.live ∧ stack ≠ 0

/-- A tick continues the task it makes current where it was left. -/
def Resumes (before : Context) : Turn → Context → Prop
  | .tick _, after =>
      (after.kernel.schedulerStarted = true → after.returned = before.expected after.kernel.currentTask) ∧
        (∀ task, task ≠ before.kernel.currentTask → (after.kernel.tasks task).esp = (before.kernel.tasks task).esp) ∧
        ∀ task, (after.kernel.tasks task).next = (before.kernel.tasks task).next
  | .taskCreate .., _ => True

variable {kernel after : Kernel} {context before : Context} {turns : List Turn}
variable {fuel currentEsp esp task other newTask stack entryPoint : Nat}

/-- The tasks form a ring in the order of their creation, and all of them may run. -/
structure TaskRing (kernel : Kernel) (created : List Nat) : Prop where
  empty : created = [] → kernel.taskListHead = 0 ∧ kernel.currentTask = 0
  closed : created ≠ [] → Ring.Closed kernel.link kernel.taskListHead created
  current : created ≠ [] → kernel.currentTask ∈ created
  nonNull : 0 ∉ created
  live : ∀ task ∈ created, task ∈ kernel.live
  runnable : ∀ task ∈ created, kernel.runnable task = true

theorem TaskRing.link_mem {created : List Nat} (ringed : TaskRing kernel created) (member : task ∈ created) :
    kernel.link task ∈ created :=
  (ringed.closed (List.ne_nil_of_mem member)).next_mem member

theorem hasOther_link :
    kernel.hasOther = true ↔ kernel.currentTask ≠ 0 ∧ kernel.link kernel.currentTask ≠ 0 ∧
      kernel.link kernel.currentTask ≠ kernel.currentTask := by
  simp only [Kernel.hasOther, Kernel.link, Bool.not_eq_true', Bool.or_eq_false_iff, decide_eq_false_iff_not, and_assoc,
    ne_eq]

/-- There is another task exactly where at least two were created. -/
theorem TaskRing.hasOther_iff {created : List Nat} (ringed : TaskRing kernel created) :
    kernel.hasOther = true ↔ 2 ≤ created.length := by
  rw [hasOther_link]
  constructor
  · intro several
    obtain ⟨nonNull, _, different⟩ := several
    have nonempty : created ≠ [] := fun isEmpty => nonNull (ringed.empty isEmpty).2
    exact (ringed.closed nonempty).alone (ringed.current nonempty) different
  · intro several
    have nonempty : created ≠ [] := by
      intro isEmpty
      rw [isEmpty] at several
      cases several
    have member := ringed.current nonempty
    refine ⟨fun null => ringed.nonNull (null ▸ member), fun null => ringed.nonNull ?_, ?_⟩
    · exact null ▸ ringed.link_mem member
    · exact (ringed.closed nonempty).next_ne several member

/-- Changes of the tasks that keep the links and let the tasks run. -/
theorem TaskRing.kept {created : List Nat} (ringed : TaskRing kernel created) (head : after.taskListHead = kernel.taskListHead)
    (links : ∀ task, after.link task = kernel.link task) (live : after.live = kernel.live)
    (runs : ∀ task ∈ created, after.runnable task = true) (current : created ≠ [] → after.currentTask ∈ created)
    (none : created = [] → after.currentTask = 0) : TaskRing after created := by
  refine ⟨fun isEmpty => ⟨head.trans (ringed.empty isEmpty).1, none isEmpty⟩, fun nonempty => ?_, current,
    ringed.nonNull, fun task member => ?_, runs⟩
  · have same : after.link = kernel.link := funext links
    rw [same, head]
    exact ringed.closed nonempty
  · rw [live]
    exact ringed.live task member

/-- The outcomes of a tick where all tasks may run. -/
inductive Passed (kernel : Kernel) (currentEsp : Nat) : Nat → Kernel → Prop where
  | alone (others : kernel.hasOther = false) : Passed kernel currentEsp currentEsp kernel.counted
  | started (others : kernel.hasOther = true) (running : kernel.schedulerStarted = false) :
      Passed kernel currentEsp (kernel.tasks kernel.currentTask).esp
        (Kernel.setTaskState { kernel.counted with schedulerStarted := true } kernel.currentTask .running)
  | switched (others : kernel.hasOther = true) (running : kernel.schedulerStarted = true) :
      Passed kernel currentEsp (kernel.tasks (kernel.link kernel.currentTask)).esp
        (Kernel.setTaskState { kernel.saved currentEsp with currentTask := kernel.link kernel.currentTask }
          (kernel.link kernel.currentTask) .running)

theorem saved_link : (kernel.saved currentEsp).link task = kernel.link task := by
  rw [Kernel.link, Kernel.saved, setTask_tasks]
  split
  · next same =>
      rw [same]
      rfl
  · rfl

theorem setTaskState_link {state : TaskState} : (kernel.setTaskState other state).link task = kernel.link task := by
  rw [Kernel.link, Kernel.setTaskState, setTask_tasks]
  split
  · next same =>
      rw [same]
      rfl
  · rfl

theorem setTaskState_esp {state : TaskState} :
    ((kernel.setTaskState other state).tasks task).esp = (kernel.tasks task).esp := by
  rw [Kernel.setTaskState, setTask_tasks]
  split
  · next same => rw [same]
  · rfl

theorem saved_esp :
    ((kernel.saved currentEsp).tasks task).esp =
      if task = kernel.currentTask then currentEsp else (kernel.tasks task).esp := by
  rw [Kernel.saved, setTask_tasks]
  split
  · rfl
  · rfl

theorem saved_runnable (runs : kernel.runnable task = true) : (kernel.saved currentEsp).runnable task = true := by
  rw [Kernel.runnable, saved_state]
  split
  · rfl
  · exact runs

theorem setTaskState_runnable (runs : kernel.runnable task = true) :
    (kernel.setTaskState other .running).runnable task = true := by
  rw [Kernel.runnable, setTaskState_state]
  split
  · rfl
  · exact runs

/-- The task behind the current one can run, so that the loop over the ring stops there at once. -/
theorem TaskRing.tick {created : List Nat} (ringed : TaskRing kernel created) :
    ∃ esp after, kernel.taskSchedulerTick (fuel + 1) currentEsp = some (esp, after) ∧
      Passed kernel currentEsp esp after := by
  rw [taskSchedulerTick_eq]
  cases others : kernel.hasOther with
  | false => exact ⟨_, _, rfl, .alone others⟩
  | true =>
      cases running : kernel.schedulerStarted with
      | false => exact ⟨_, _, rfl, .started others running⟩
      | true =>
          have several := ringed.hasOther_iff.mp others
          have nonempty : created ≠ [] := by
            intro isEmpty
            rw [isEmpty] at several
            cases several
          have member := ringed.link_mem (ringed.current nonempty)
          have different := (ringed.closed nonempty).next_ne several (ringed.current nonempty)
          have found : Ring.skip (fun task => ((kernel.saved currentEsp).tasks task).next)
              (kernel.saved currentEsp).runnable kernel.currentTask (fuel + 1)
              ((kernel.saved currentEsp).tasks kernel.currentTask).next = some (kernel.link kernel.currentTask) := by
            have link : ((kernel.saved currentEsp).tasks kernel.currentTask).next = kernel.link kernel.currentTask :=
              saved_link
            rw [link]
            exact Ring.skip_passed (saved_runnable (ringed.runnable _ member))
          rw [found]
          have esp : ((Kernel.setTaskState { kernel.saved currentEsp with currentTask := kernel.link kernel.currentTask }
              (kernel.link kernel.currentTask) .running).tasks (kernel.link kernel.currentTask)).esp =
              (kernel.tasks (kernel.link kernel.currentTask)).esp := by
            rw [setTaskState_esp]
            exact saved_esp.trans (if_neg different)
          refine ⟨_, _, rfl, ?_⟩
          rw [esp]
          exact .switched others running

theorem TaskRing.passed {created : List Nat} (ringed : TaskRing kernel created)
    (done : kernel.taskSchedulerTick fuel currentEsp = some (esp, after)) : Passed kernel currentEsp esp after := by
  cases fuel with
  | zero =>
      rw [taskSchedulerTick_eq] at done
      cases others : kernel.hasOther with
      | false =>
          rw [others] at done
          cases done
          exact .alone others
      | true =>
          rw [others] at done
          cases running : kernel.schedulerStarted with
          | false =>
              rw [running] at done
              cases done
              exact .started others running
          | true =>
              rw [running] at done
              cases done
  | succ fuel =>
      obtain ⟨answer, state, ticks, passed⟩ := ringed.tick
      cases done.symm.trans ticks
      exact passed

theorem TaskRing.afterTick {created : List Nat} (ringed : TaskRing kernel created)
    (passed : Passed kernel currentEsp esp after) : TaskRing after created := by
  cases passed with
  | alone others =>
      exact ringed.kept rfl (fun _ => rfl) rfl ringed.runnable ringed.current fun isEmpty => (ringed.empty isEmpty).2
  | started others running =>
      exact ringed.kept rfl (fun _ => setTaskState_link) rfl
        (fun task member => setTaskState_runnable (ringed.runnable task member)) ringed.current
        fun isEmpty => (ringed.empty isEmpty).2
  | switched others running =>
      refine ringed.kept rfl (fun task => setTaskState_link.trans saved_link) rfl
        (fun task member => setTaskState_runnable (saved_runnable (ringed.runnable task member)))
        (fun nonempty => ringed.link_mem (ringed.current nonempty)) fun isEmpty => ?_
      have several := ringed.hasOther_iff.mp others
      rw [isEmpty] at several
      cases several

/-- What a `task_create` that succeeds does. -/
structure Extended (kernel : Kernel) (newTask : Nat) (created : List Nat) (after : Kernel) : Prop where
  ring : TaskRing after (created ++ [newTask])
  esp : ∀ task, task ≠ newTask → (after.tasks task).esp = (kernel.tasks task).esp
  schedulerStarted : after.schedulerStarted = kernel.schedulerStarted
  currentTask : created ≠ [] → after.currentTask = kernel.currentTask

theorem TaskRing.listed {created : List Nat} (ringed : TaskRing kernel created) :
    Ring.Listed kernel.link 0 kernel.taskListHead created := by
  by_cases isEmpty : created = []
  · exact Or.inl ⟨isEmpty, (ringed.empty isEmpty).1⟩
  · have ring := ringed.closed isEmpty
    exact Or.inr ⟨fun null => ringed.nonNull (null ▸ ring.head_mem), ring⟩

/-- What `appendTask` does to a ring that the new task is not in. -/
theorem TaskRing.append {created : List Nat} (ringed : TaskRing kernel created) (nonNull : newTask ≠ 0)
    (isNew : newTask ∉ created) (allocated : newTask ∈ kernel.live) (runs : kernel.runnable newTask = true)
    (enough : created.length ≤ fuel) :
    ∃ after, kernel.appendTask fuel newTask = some after ∧ Extended kernel newTask created after ∧
      (after.tasks newTask).esp = (kernel.tasks newTask).esp := by
  have inserted : ∀ task ∈ created ++ [newTask], task ∈ created ∨ task = newTask := by
    intro task member
    exact (List.mem_append.mp member).imp_right List.mem_singleton.mp
  have positive : 0 ∉ created ++ [newTask] := by
    intro member
    rcases inserted 0 member with old | isFresh
    · exact ringed.nonNull old
    · exact nonNull isFresh.symm
  have filled : created ++ [newTask] ≠ [] := List.append_ne_nil_of_right_ne_nil _ (List.cons_ne_nil _ _)
  obtain ⟨next, head, walked, listed⟩ := ringed.listed.insert isNew nonNull enough
  obtain ⟨after, appends, rfl, rfl, current, kept⟩ := appendTask_inserts walked
  have esp : ∀ task, (after.tasks task).esp = (kernel.tasks task).esp := by
    intro task
    rw [kept.content]
  have keptCurrent : created ≠ [] → after.currentTask = kernel.currentTask := by
    intro nonempty
    have headNull : kernel.taskListHead ≠ 0 := (ringed.listed.resolve_left fun none => nonempty none.1).1
    rw [current, if_neg headNull]
  refine ⟨after, appends, ⟨⟨fun none => absurd none filled, fun _ => ?_, fun _ => ?_, positive, fun task member => ?_,
    fun task member => ?_⟩, fun task _ => esp task, kept.schedulerStarted, keptCurrent⟩, esp newTask⟩
  · exact (listed.resolve_left fun none => filled none.1).2
  · by_cases isEmpty : created = []
    · rw [current, if_pos (ringed.empty isEmpty).1]
      exact List.mem_append_right _ (List.mem_singleton_self newTask)
    · rw [keptCurrent isEmpty]
      exact List.mem_append_left _ (ringed.current isEmpty)
  · rw [kept.live]
    rcases inserted task member with old | rfl
    · exact ringed.live task old
    · exact allocated
  · rw [Kernel.runnable, kept.content]
    rcases inserted task member with old | rfl
    · exact ringed.runnable task old
    · exact runs

theorem appendTask_mono {more : Nat} (done : kernel.appendTask fuel newTask = some after) (further : fuel ≤ more) :
    kernel.appendTask more newTask = some after := by
  rw [Kernel.appendTask] at done ⊢
  by_cases first : kernel.taskListHead = 0
  · rw [if_pos first] at done ⊢
    exact done
  · rw [if_neg first] at done ⊢
    obtain ⟨last, walked, relinked⟩ := Option.map_eq_some_iff.mp done
    rw [Ring.findLast_mono walked further]
    exact congrArg some relinked

/-- The ring while the new task is prepared and stored. -/
theorem TaskRing.prepared {created : List Nat} {content : Task} (ring : TaskRing kernel created)
    (isNew : newTask ∉ created) :
    TaskRing ((kernel.prepared newTask stack entryPoint).setTask newTask content) created := by
  have untouched : Untouched kernel (kernel.prepared newTask stack entryPoint) := prepared_untouched
  have head : (kernel.prepared newTask stack entryPoint).taskListHead = kernel.taskListHead := by
    rw [prepared_eq]
  have same : ∀ task ∈ created,
      ((kernel.prepared newTask stack entryPoint).setTask newTask content).tasks task = kernel.tasks task := by
    intro task member
    have different : task ≠ newTask := fun isFresh => isNew (isFresh ▸ member)
    rw [setTask_tasks, if_neg different, untouched.tasks]
  refine ⟨fun isEmpty => ?_, fun nonempty => ?_, fun nonempty => ?_, ring.nonNull, fun task member => ?_,
    fun task member => ?_⟩
  · exact ⟨head.trans (ring.empty isEmpty).1, untouched.currentTask.trans (ring.empty isEmpty).2⟩
  · obtain ⟨path, _, nodup⟩ := ring.closed nonempty
    have sameHead : ((kernel.prepared newTask stack entryPoint).setTask newTask content).taskListHead =
        kernel.taskListHead := head
    rw [sameHead]
    exact ⟨path.frame fun task member => congrArg Task.next (same task member), nonempty, nodup⟩
  · exact (congrArg (· ∈ created) untouched.currentTask).mpr (ring.current nonempty)
  · exact untouched.steady.live (ring.live task member)
  · rw [Kernel.runnable, same task member]
    exact ring.runnable task member

theorem TaskRing.create {created : List Nat} (ring : TaskRing kernel created) (nonNull : newTask ≠ 0)
    (isNew : newTask ∉ kernel.live) (withStack : stack ≠ 0) (enough : created.length ≤ fuel) :
    ∃ after, kernel.taskCreate fuel newTask stack entryPoint = some (newTask, after) ∧
      Extended kernel newTask created after ∧ (after.tasks newTask).esp = preparedEsp stack := by
  obtain ⟨content, isReady, _, esp, creates⟩ := taskCreate_eq nonNull withStack
  have unlisted : newTask ∉ created := fun member => isNew (ring.live newTask member)
  have untouched : Untouched kernel (kernel.prepared newTask stack entryPoint) := prepared_untouched
  have stored : ((kernel.prepared newTask stack entryPoint).setTask newTask content).tasks newTask = content :=
    setTask_tasks.trans (if_pos rfl)
  have allocated : newTask ∈ (kernel.prepared newTask stack entryPoint).live := prepared_mem nonNull
  have runs : ((kernel.prepared newTask stack entryPoint).setTask newTask content).runnable newTask = true := by
    rw [Kernel.runnable, stored, isReady]
    rfl
  obtain ⟨after, appends, extended, newEsp⟩ := (ring.prepared unlisted).append nonNull unlisted allocated runs enough
  refine ⟨after, ?_, ⟨extended.ring, fun task different => ?_, ?_, fun nonempty => ?_⟩, ?_⟩
  · rw [creates, appends]
    rfl
  · rw [extended.esp task different, setTask_tasks, if_neg different, untouched.tasks]
  · have started : (kernel.prepared newTask stack entryPoint).schedulerStarted = kernel.schedulerStarted := by
      rw [prepared_eq]
    exact extended.schedulerStarted.trans started
  · exact (extended.currentTask nonempty).trans untouched.currentTask
  · rw [newEsp, stored, esp]

theorem taskCreate_mono {more result : Nat} (nonNull : newTask ≠ 0) (withStack : stack ≠ 0)
    (done : kernel.taskCreate fuel newTask stack entryPoint = some (result, after)) (further : fuel ≤ more) :
    kernel.taskCreate more newTask stack entryPoint = some (result, after) := by
  simp only [Kernel.taskCreate, if_neg nonNull, if_neg withStack] at done ⊢
  obtain ⟨appended, isAppended, done⟩ := Option.map_eq_some_iff.mp done
  rw [appendTask_mono isAppended further]
  exact congrArg some done

/-- Each task that is not running has the stack pointer it is expected to be continued with. -/
structure Suspended (context : Context) : Prop where
  ring : TaskRing context.kernel context.created
  esp : ∀ task ∈ context.created, (context.kernel.schedulerStarted = true → task ≠ context.kernel.currentTask) →
    (context.kernel.tasks task).esp = context.expected task
  several : context.kernel.schedulerStarted = true → 2 ≤ context.created.length

theorem initialContext_suspended : Suspended (initialContext kernel) := by
  refine ⟨⟨fun _ => ⟨rfl, rfl⟩, fun nonempty => absurd rfl nonempty, fun nonempty => absurd rfl nonempty, List.not_mem_nil,
    fun task member => ?_, fun task member => ?_⟩, fun task member => ?_, nofun⟩
  all_goals cases member

theorem ticked_kept (same : after.currentTask = context.kernel.currentTask) :
    (context.ticked currentEsp esp after).expected = context.expected :=
  if_pos same

theorem ticked_saved (different : after.currentTask ≠ context.kernel.currentTask) :
    (context.ticked currentEsp esp after).expected task =
      if task = context.kernel.currentTask then currentEsp else context.expected task := by
  simp only [Context.ticked, if_neg different, Function.update_apply]

theorem Suspended.tick (suspended : Suspended context)
    (passed : Passed context.kernel currentEsp esp after) :
    Resumes context (.tick currentEsp) (context.ticked currentEsp esp after) ∧
      Suspended (context.ticked currentEsp esp after) := by
  have ring := suspended.ring.afterTick passed
  cases passed with
  | alone others =>
      refine ⟨⟨fun running => ?_, fun _ _ => rfl, fun _ => rfl⟩, ring, fun task member apart => ?_, suspended.several⟩
      · have several := suspended.ring.hasOther_iff.mpr (suspended.several running)
        rw [others] at several
        cases several
      · exact (suspended.esp task member apart).trans (congrFun (ticked_kept (by rfl)) task).symm
  | started others running =>
      have unchanged : ∀ task ∈ context.created,
          (context.kernel.tasks task).esp = context.expected task := by
        intro task member
        refine suspended.esp task member fun isRunning => ?_
        rw [running] at isRunning
        cases isRunning
      have several := suspended.ring.hasOther_iff.mp others
      have nonempty : context.created ≠ [] := by
        intro isEmpty
        rw [isEmpty] at several
        cases several
      refine ⟨⟨fun _ => ?_, fun _ _ => setTaskState_esp, fun _ => setTaskState_link⟩, ring,
        fun task member _ => ?_, fun _ => several⟩
      · exact unchanged _ (suspended.ring.current nonempty)
      · exact (setTaskState_esp.trans (unchanged task member)).trans (congrFun (ticked_kept (by rfl)) task).symm
  | switched others running =>
      have several := suspended.ring.hasOther_iff.mp others
      have nonempty : context.created ≠ [] := by
        intro isEmpty
        rw [isEmpty] at several
        cases several
      have isCurrent := suspended.ring.current nonempty
      have different := (suspended.ring.closed nonempty).next_ne several isCurrent
      have next := suspended.ring.link_mem isCurrent
      refine ⟨⟨fun _ => ?_, fun task apart => ?_, fun _ => setTaskState_link.trans saved_link⟩, ring,
        fun task member apart => ?_, fun _ => several⟩
      · exact suspended.esp _ next fun _ => different
      · exact setTaskState_esp.trans (saved_esp.trans (if_neg apart))
      · rw [ticked_saved different]
        refine setTaskState_esp.trans ?_
        by_cases wasCurrent : task = context.kernel.currentTask
        · rw [if_pos wasCurrent]
          exact saved_esp.trans (if_pos wasCurrent)
        · rw [if_neg wasCurrent]
          exact (saved_esp.trans (if_neg wasCurrent)).trans (suspended.esp task member fun _ => wasCurrent)

theorem Suspended.extended (suspended : Suspended context) (isNew : newTask ∉ context.created)
    (extended : Extended context.kernel newTask context.created after)
    (esp : (after.tasks newTask).esp = preparedEsp stack) : Suspended (context.extended newTask stack after) := by
  refine ⟨extended.ring, fun task member apart => ?_, fun running => ?_⟩
  · simp only [Context.extended, Function.update_apply]
    rcases List.mem_append.mp member with old | isFresh
    · have different : task ≠ newTask := fun same => isNew (same ▸ old)
      rw [if_neg different, extended.esp task different]
      refine suspended.esp task old fun running same => ?_
      refine apart (extended.schedulerStarted.trans running) ?_
      exact same.trans (extended.currentTask (List.ne_nil_of_mem old)).symm
    · have same := List.mem_singleton.mp isFresh
      subst same
      rw [if_pos rfl, esp]
  · have several := suspended.several (extended.schedulerStarted.symm.trans running)
    have longer : (context.extended newTask stack after).created.length = context.created.length + 1 :=
      List.length_append
    omega

theorem Suspended.turn {turn : Turn} {next : Context} (suspended : Suspended context) (succeeds : Succeeds context turn)
    (done : takeTurn fuel context turn = some next) : Resumes context turn next ∧ Suspended next := by
  cases turn with
  | tick currentEsp =>
      obtain ⟨result, ticks, rfl⟩ := Option.map_eq_some_iff.mp done
      exact suspended.tick (suspended.ring.passed ticks)
  | taskCreate task stack entryPoint =>
      obtain ⟨nonNull, isNew, withStack⟩ := succeeds
      obtain ⟨result, creates, rfl⟩ := Option.map_eq_some_iff.mp done
      have unlisted : task ∉ context.created := fun member => isNew (suspended.ring.live task member)
      obtain ⟨after, created, extended, esp⟩ := suspended.ring.create nonNull isNew withStack
        (Nat.le_max_right fuel context.created.length)
      have same := (taskCreate_mono nonNull withStack creates (Nat.le_max_left _ _)).symm.trans created
      cases same
      exact ⟨trivial, suspended.extended unlisted extended esp⟩

/-- In every run of ticks and of creations that succeed, a tick continues the task it makes current
with the stack pointer that was saved when it was last switched away from, or that was prepared for
it, and no turn is stuck for want of steps. -/
theorem run_resumes {next : Context} (run : Restricted (takeTurn fuel) Succeeds (initialContext kernel) turns next) :
    Observed (takeTurn fuel) Resumes (initialContext kernel) turns next ∧
      ∀ turn, Succeeds next turn → next.created.length < fuel → ∃ later, takeTurn fuel next turn = some later := by
  constructor
  · exact run.observed Suspended (fun before turn after suspended succeeds done => suspended.turn succeeds done)
      initialContext_suspended
  · have suspended : Suspended next := run.invariant Suspended
      (fun before turn after suspended performed => (suspended.turn performed.1 performed.2).2) initialContext_suspended
    intro turn succeeds enough
    cases turn with
    | tick currentEsp =>
        obtain ⟨less, rfl⟩ : ∃ less, fuel = less + 1 := ⟨fuel - 1, by omega⟩
        obtain ⟨esp, after, ticks, _⟩ := suspended.ring.tick
        exact ⟨_, congrArg (Option.map _) ticks⟩
    | taskCreate task stack entryPoint =>
        obtain ⟨nonNull, isNew, withStack⟩ := succeeds
        obtain ⟨after, creates, _⟩ := suspended.ring.create nonNull isNew withStack (Nat.le_of_lt enough)
        exact ⟨_, congrArg (Option.map _) creates⟩

/-- Three tasks, of which the last is created while the second one runs. -/
def threeTasks : List Turn :=
  [.taskCreate 0x204014 0x205014 0x101000, .tick 0x9000, .taskCreate 0x20B014 0x20C014 0x102000, .tick 0x9000,
    .tick 0x206000, .taskCreate 0x210014 0x211014 0x103000, .tick 0x20D000, .tick 0x212000]

theorem run_resumes_three :
    ∃ next, Observed (takeTurn 4) Resumes (initialContext emptyKernel) threeTasks next ∧ next.returned = 0x206000 := by
  obtain ⟨next, run, returned⟩ : ∃ next,
      Restricted (takeTurn 4) Succeeds (initialContext emptyKernel) threeTasks next ∧ next.returned = 0x206000 := by
    refine ⟨_, .cons ⟨⟨?_, ?_, ?_⟩, rfl⟩ (.cons ⟨trivial, rfl⟩ (.cons ⟨⟨?_, ?_, ?_⟩, rfl⟩
      (.cons ⟨trivial, rfl⟩ (.cons ⟨trivial, rfl⟩ (.cons ⟨⟨?_, ?_, ?_⟩, rfl⟩ (.cons ⟨trivial, rfl⟩
        (.cons ⟨trivial, rfl⟩ (.nil _)))))))), ?_⟩
    all_goals decide
  exact ⟨next, (run_resumes run).1, returned⟩

end AutismOS.Processes
