import AutismOS.Library.Links
import Mathlib.Algebra.Group.Nat.Defs

namespace AutismOS.Scheduler

open AutismOS.Library

/-! The scheduler of `kernel/core/scheduler.c`.

`sched_task_t*` is a slot of the task pool, or `none` for NULL.  Task, process
and wait pointers are opaque addresses.  An operation answers `none` exactly
when the C code never returns, which happens when it walks a cyclic queue.
-/

def schedMaxTasks : Nat := 64
def schedPriorityLevels : Nat := 8
def schedTimeSlice : Nat := 10
def schedMaxSleepMs : Nat := 60000
def schedPriorityNormal : Fin 8 := 4

/-- `sched_priority_t`, as far as it is not negative as the `int prio` that picks a run queue: the
enumeration has 0 to 7, and a negative number would reach in front of `run_queues`. -/
abbrev SchedPriority := Fin 0x80000000

/-- `sched_state_t` -/
inductive SchedState where
  | ready | running | blocked | sleeping | zombie | terminated
deriving DecidableEq, Repr

/-- A position in `g_sched.task_pool`. -/
abbrev Slot := Fin 64

/-- `sched_task_t` -/
structure SchedTask where
  task : Option Nat
  process : Option Nat
  priority : SchedPriority
  state : SchedState
  timeSlice : Nat
  totalCpuTime : Nat
  wakeTime : Nat
  waitData : Option Nat
  next : Option Slot
  prev : Option Slot

/-- `sched_stats_t`, less the copy of `initialized` made on export. -/
structure SchedStats where
  totalTasks : Nat
  runningTasks : Nat
  readyTasks : Nat
  blockedTasks : Nat
  contextSwitches : Nat
  timerTicks : Nat

/-- `g_sched` -/
structure Sched where
  current : Option Slot
  runQueues : Fin 8 → Option Slot
  taskPool : Slot → SchedTask
  stats : SchedStats
  ticks : Nat
  initialized : Bool

def increment32 (value : Nat) : Nat := (value + 1) % 2 ^ 32

/-- Counters are only lowered while positive. -/
def decrement (value : Nat) : Nat := if value > 0 then value - 1 else value

namespace Sched

variable (sched : Sched)

def modifyTask (slot : Slot) (change : SchedTask → SchedTask) : Sched :=
  { sched with taskPool := Function.update sched.taskPool slot (change (sched.taskPool slot)) }

def setNext (slot : Slot) (next : Option Slot) : Sched :=
  sched.modifyTask slot fun entry => { entry with next }

def setPrev (slot : Slot) (prev : Option Slot) : Sched :=
  sched.modifyTask slot fun entry => { entry with prev }

def modifyStats (change : SchedStats → SchedStats) : Sched :=
  { sched with stats := change sched.stats }

def setQueue (queue : Fin 8) (head : Option Slot) : Sched :=
  { sched with runQueues := Function.update sched.runQueues queue head }

/-- The link fields of the pool as one table of links. -/
def links : Links Slot where
  next slot := (sched.taskPool slot).next
  prev slot := (sched.taskPool slot).prev

end Sched

/-- The run queue that `enqueue_task` and `dequeue_task` choose for a priority. -/
def queueOf (priority : SchedPriority) : Fin 8 :=
  if bounded : priority.val < 8 then ⟨priority.val, bounded⟩ else schedPriorityNormal

def findFreeSlot (sched : Sched) : Option Slot :=
  (List.finRange 64).find? fun slot =>
    (sched.taskPool slot).task = none ∧ (sched.taskPool slot).state = .terminated

def enqueueTask (sched : Sched) (stask : Slot) : Option Sched :=
  let prio := queueOf (sched.taskPool stask).priority
  let sched := (sched.setNext stask none).setPrev stask none
  let linked : Option Sched :=
    match sched.runQueues prio with
    | none => some (sched.setQueue prio (some stask))
    | some first =>
        -- Find end of queue; after one visit per slot the walk is in a cycle.
        match Links.lastFrom sched.links.next schedMaxTasks first with
        | none => none
        | some last =>
            some ((sched.setNext last (some stask)).setPrev stask (some last))
  linked.map fun sched => sched.modifyStats fun stats =>
    { stats with readyTasks := increment32 stats.readyTasks }

def dequeueTask (sched : Sched) (stask : Slot) : Sched :=
  let prio := queueOf (sched.taskPool stask).priority
  let sched :=
    match (sched.taskPool stask).prev with
    | some previous => sched.setNext previous (sched.taskPool stask).next
    | none => sched.setQueue prio (sched.taskPool stask).next
  let sched :=
    match (sched.taskPool stask).next with
    | some following => sched.setPrev following (sched.taskPool stask).prev
    | none => sched
  let sched := (sched.setNext stask none).setPrev stask none
  sched.modifyStats fun stats => { stats with readyTasks := decrement stats.readyTasks }

/-- The head of the highest nonempty queue. -/
def findNextTask (sched : Sched) : Option Slot :=
  (List.finRange 8).reverse.findSome? sched.runQueues

def findSchedTask (sched : Sched) (task : Option Nat) : Option Slot :=
  if task = none then none
  else (List.finRange 64).find? fun slot => (sched.taskPool slot).task = task

/-- A pool entry after `memset` and the loop of `scheduler_init`. -/
def clearedTask : SchedTask where
  task := none
  process := none
  priority := 0
  state := .terminated
  timeSlice := 0
  totalCpuTime := 0
  wakeTime := 0
  waitData := none
  next := none
  prev := none

def schedulerInit (sched : Sched) : Sched :=
  if sched.initialized then sched
  else
    { current := none
      runQueues := fun _ => none
      taskPool := fun _ => clearedTask
      stats :=
        { totalTasks := 0, runningTasks := 0, readyTasks := 0, blockedTasks := 0,
          contextSwitches := 0, timerTicks := 0 }
      ticks := 0
      initialized := true }

/-- Returns 0 or -1 with the new state. -/
def schedulerAddTask (sched : Sched) (task process : Option Nat) (priority : SchedPriority) :
    Option (Int × Sched) :=
  if !sched.initialized ∨ task = none then some (-1, sched)
  else
    match findFreeSlot sched with
    | none => some (-1, sched)
    | some stask =>
        let sched := sched.modifyTask stask fun _ =>
          { task, process, priority, state := .ready, timeSlice := schedTimeSlice,
            totalCpuTime := 0, wakeTime := 0, waitData := none, next := none, prev := none }
        (enqueueTask sched stask).map fun sched =>
          (0, sched.modifyStats fun stats => { stats with totalTasks := increment32 stats.totalTasks })

def schedulerRemoveTask (sched : Sched) (task : Option Nat) : Sched :=
  match findSchedTask sched task with
  | none => sched
  | some stask =>
      let sched := dequeueTask sched stask
      let sched := sched.modifyTask stask fun entry => { entry with task := none, state := .terminated }
      sched.modifyStats fun stats => { stats with totalTasks := decrement stats.totalTasks }

def schedulerGetCurrent (sched : Sched) : Option Slot := sched.current

/-- The end of `scheduler_yield`: switch to next task. -/
def switchTo (sched : Sched) (next : Slot) : Sched :=
  let sched := sched.modifyTask next fun entry =>
    { entry with state := .running, timeSlice := schedTimeSlice }
  { sched with current := some next }.modifyStats fun stats =>
    { stats with contextSwitches := increment32 stats.contextSwitches }

def schedulerYield (sched : Sched) : Option Sched :=
  if !sched.initialized then some sched
  else
    match sched.current, findNextTask sched with
    | none, _ => some sched
    | some _, none => some sched
    | some current, some next =>
        if next = current then some sched
        else
          -- Move current task to end of its queue
          let requeued : Option Sched :=
            if (sched.taskPool current).state = .running then
              let sched := sched.modifyTask current fun entry => { entry with state := .ready }
              enqueueTask (dequeueTask sched current) current
            else some sched
          requeued.map fun sched => switchTo sched next

def schedulerBlock (sched : Sched) (reason : Option Nat) : Option Sched :=
  match sched.current with
  | none => some sched
  | some current =>
      let sched := sched.modifyTask current fun entry =>
        { entry with state := .blocked, waitData := reason }
      let sched := dequeueTask sched current
      schedulerYield (sched.modifyStats fun stats =>
        { stats with blockedTasks := increment32 stats.blockedTasks })

def schedulerWake (sched : Sched) (task : Option Nat) : Option Sched :=
  match findSchedTask sched task with
  | none => some sched
  | some stask =>
      if (sched.taskPool stask).state ≠ .blocked then some sched
      else
        let sched := sched.modifyTask stask fun entry => { entry with state := .ready, waitData := none }
        (enqueueTask sched stask).map fun sched => sched.modifyStats fun stats =>
          { stats with blockedTasks := decrement stats.blockedTasks }

def schedulerMsToTicks (ms : Nat) : Nat := ms / 10

def schedulerSleep (sched : Sched) (ms : Nat) : Option Sched :=
  match sched.current with
  | none => some sched
  | some current =>
      if ms = 0 then some sched
      else
        let ms := if ms > schedMaxSleepMs then schedMaxSleepMs else ms
        let wakeTick := (sched.ticks + schedulerMsToTicks ms) % 2 ^ 64
        let sched := sched.modifyTask current fun entry =>
          { entry with state := .sleeping, wakeTime := wakeTick % 2 ^ 32 }
        schedulerYield (dequeueTask sched current)

/-- A sleeping entry whose wake time the tick count has reached. -/
def SleeperDue (sched : Sched) (slot : Slot) : Prop :=
  (sched.taskPool slot).state = .sleeping ∧ (sched.taskPool slot).wakeTime ≤ sched.ticks % 2 ^ 32

instance (sched : Sched) (slot : Slot) : Decidable (SleeperDue sched slot) :=
  inferInstanceAs (Decidable (_ ∧ _))

/-- One iteration of the wake-up loop of `scheduler_tick`. -/
def wakeSleeper (sched : Sched) (slot : Slot) : Option Sched :=
  if SleeperDue sched slot then
    enqueueTask (sched.modifyTask slot fun entry => { entry with state := .ready, wakeTime := 0 }) slot
  else some sched

/-- One timer tick charged to a task. -/
def chargeTick (entry : SchedTask) : SchedTask :=
  { entry with
    totalCpuTime := increment32 entry.totalCpuTime
    timeSlice := decrement entry.timeSlice }

/-- The part of `scheduler_tick` that charges the current task. -/
def chargeCurrent (sched : Sched) : Option Sched :=
  match sched.current with
  | none => some sched
  | some current =>
      let sched := sched.modifyTask current chargeTick
      if (sched.taskPool current).timeSlice = 0 then schedulerYield sched else some sched

/-- The tick counters advance. -/
def advanceTicks (sched : Sched) : Sched :=
  { sched with ticks := (sched.ticks + 1) % 2 ^ 64 }.modifyStats fun stats =>
    { stats with timerTicks := increment32 stats.timerTicks }

def schedulerTick (sched : Sched) : Option Sched :=
  ((List.finRange 64).foldlM wakeSleeper (advanceTicks sched)).bind chargeCurrent

def schedulerSetPriority (sched : Sched) (task : Option Nat) (priority : SchedPriority) : Option Sched :=
  match findSchedTask sched task with
  | none => some sched
  | some stask =>
      let sched := if (sched.taskPool stask).state = .ready then dequeueTask sched stask else sched
      let sched := sched.modifyTask stask fun entry => { entry with priority }
      if (sched.taskPool stask).state = .ready then enqueueTask sched stask else some sched

def schedulerExit (sched : Sched) : Option Sched :=
  match sched.current with
  | none => some sched
  | some current =>
      let sched := sched.modifyTask current fun entry => { entry with state := .zombie }
      let sched := dequeueTask sched current
      schedulerYield (sched.modifyStats fun stats =>
        { stats with totalTasks := decrement stats.totalTasks })

/-- The calls that change the scheduler after `scheduler_init`. -/
inductive SchedCall where
  | addTask (task process : Option Nat) (priority : SchedPriority)
  | removeTask (task : Option Nat)
  | yield
  | block (reason : Option Nat)
  | wake (task : Option Nat)
  | sleep (ms : Nat)
  | tick
  | setPriority (task : Option Nat) (priority : SchedPriority)
  | exit

def schedStep (sched : Sched) : SchedCall → Option Sched
  | .addTask task process priority => (schedulerAddTask sched task process priority).map Prod.snd
  | .removeTask task => some (schedulerRemoveTask sched task)
  | .yield => schedulerYield sched
  | .block reason => schedulerBlock sched reason
  | .wake task => schedulerWake sched task
  | .sleep ms => schedulerSleep sched ms
  | .tick => schedulerTick sched
  | .setPriority task priority => schedulerSetPriority sched task priority
  | .exit => schedulerExit sched

end AutismOS.Scheduler
