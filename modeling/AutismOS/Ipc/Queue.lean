import AutismOS.Library.Fifo
import Mathlib.Logic.Function.Basic

namespace AutismOS.Ipc

/-! The message queues of `kernel/ipc/ipc.c`: a ring of sixteen slots. -/

/-- `message_t` -/
structure Message where
  senderPid : Nat
  type : Nat
  data1 : Nat
  data2 : Nat
deriving DecidableEq

def messageQueueSize : Nat := 16

/-- `message_queue_t` -/
structure MessageQueue where
  messages : Nat → Message
  readIndex : Nat
  writeIndex : Nat
  count : Nat

/-- The queue after `memset` and the three assignments. -/
def messageQueueInit : MessageQueue where
  messages := fun _ => ⟨0, 0, 0, 0⟩
  readIndex := 0
  writeIndex := 0
  count := 0

variable (queue : MessageQueue)

def messageQueueIsEmpty : Bool := queue.count = 0

def messageQueueIsFull : Bool := queue.count ≥ messageQueueSize

/-- The queue with the message behind the others, or `none` for -1. -/
def messageQueueEnqueue (msg : Message) : Option MessageQueue :=
  if messageQueueIsFull queue then none
  else some
    { messages := Function.update queue.messages queue.writeIndex msg
      readIndex := queue.readIndex
      writeIndex := (queue.writeIndex + 1) % messageQueueSize
      count := queue.count + 1 }

/-- The message for `*msg` with the rest of the queue, or `none` for -1. -/
def messageQueueDequeue : Option (Message × MessageQueue) :=
  if messageQueueIsEmpty queue then none
  else some (queue.messages queue.readIndex,
    { queue with readIndex := (queue.readIndex + 1) % messageQueueSize, count := queue.count - 1 })

variable {queue} {next : MessageQueue} {msg : Message}

theorem messageQueueEnqueue_some (done : messageQueueEnqueue queue msg = some next) :
    queue.count < messageQueueSize ∧ next.count = queue.count + 1 ∧
      next.messages queue.writeIndex = msg := by
  rw [messageQueueEnqueue] at done
  by_cases full : messageQueueIsFull queue
  · rw [if_pos full] at done
    cases done
  · rw [if_neg full] at done
    cases done
    refine ⟨?_, rfl, Function.update_self ..⟩
    simpa [messageQueueIsFull] using full

theorem messageQueueEnqueue_none : messageQueueEnqueue queue msg = none ↔ messageQueueIsFull queue = true := by
  rw [messageQueueEnqueue]
  cases full : messageQueueIsFull queue with
  | true => simp
  | false => simp

theorem messageQueueDequeue_some (done : messageQueueDequeue queue = some (msg, next)) :
    0 < queue.count ∧ next.count = queue.count - 1 ∧ queue.messages queue.readIndex = msg := by
  rw [messageQueueDequeue] at done
  by_cases empty : messageQueueIsEmpty queue
  · rw [if_pos empty] at done
    cases done
  · rw [if_neg empty] at done
    cases done
    refine ⟨?_, rfl, rfl⟩
    have nonzero : queue.count ≠ 0 := by simpa [messageQueueIsEmpty] using empty
    omega

theorem messageQueueDequeue_none : messageQueueDequeue queue = none ↔ queue.count = 0 := by
  rw [messageQueueDequeue]
  by_cases empty : queue.count = 0
  · simp [messageQueueIsEmpty, empty]
  · simp [messageQueueIsEmpty, empty]

theorem messageQueueDequeue_isEmpty (taken : messageQueueDequeue queue = some (msg, next)) :
    messageQueueIsEmpty queue = false := by
  have nonempty := (messageQueueDequeue_some taken).1
  exact decide_eq_false (Nat.ne_of_gt nonempty)

theorem messageQueueEnqueue_isEmpty (queued : messageQueueEnqueue queue msg = some next) :
    messageQueueIsEmpty next = false := by
  have count := (messageQueueEnqueue_some queued).2.1
  exact decide_eq_false (by omega)

theorem messageQueueIsFull_isEmpty (isFull : messageQueueIsFull queue = true) : messageQueueIsEmpty queue = false := by
  have many : queue.count ≥ messageQueueSize := of_decide_eq_true isFull
  unfold messageQueueSize at many
  exact decide_eq_false (by omega)

end AutismOS.Ipc

namespace AutismOS.Ipc

open AutismOS.Library

-- A message queue as the list of its messages, the oldest first.

variable {queue next after : MessageQueue} {msg : Message} {sent received : List Message}

/-- The messages that wait to be read. -/
def MessageQueue.pending (queue : MessageQueue) : List Message :=
  Fifo.contents queue.messages messageQueueSize queue.readIndex queue.count

/-- Both indices lie in the ring and enclose the messages that wait. -/
structure MessageQueue.Ordered (queue : MessageQueue) : Prop where
  count : queue.count ≤ messageQueueSize
  readIndex : queue.readIndex < messageQueueSize
  writeIndex : queue.writeIndex = (queue.readIndex + queue.count) % messageQueueSize

theorem messageQueueInit_ordered : messageQueueInit.Ordered := ⟨by decide, by decide, rfl⟩

theorem messageQueueEnqueue_pending (ordered : queue.Ordered) (done : messageQueueEnqueue queue msg = some next) :
    next.Ordered ∧ next.pending = queue.pending ++ [msg] := by
  have room := (messageQueueEnqueue_some done).1
  rw [messageQueueEnqueue] at done
  by_cases full : messageQueueIsFull queue
  · rw [if_pos full] at done
    cases done
  · rw [if_neg full] at done
    cases done
    constructor
    · constructor
      · exact room
      · exact ordered.readIndex
      · simp only [ordered.writeIndex, Nat.mod_add_mod, Nat.add_assoc]
    · simp only [MessageQueue.pending, ordered.writeIndex]
      exact Fifo.contents_push room

theorem messageQueueDequeue_pending (ordered : queue.Ordered) (done : messageQueueDequeue queue = some (msg, next)) :
    next.Ordered ∧ queue.pending = msg :: next.pending := by
  have waiting := (messageQueueDequeue_some done).1
  rw [messageQueueDequeue] at done
  by_cases empty : messageQueueIsEmpty queue
  · rw [if_pos empty] at done
    cases done
  · rw [if_neg empty] at done
    cases done
    obtain ⟨count, counted⟩ : ∃ count, queue.count = count + 1 := ⟨queue.count - 1, by omega⟩
    have bounded := ordered.count
    constructor
    · constructor
      · exact Nat.le_trans (Nat.sub_le ..) bounded
      · exact Nat.mod_lt _ (by decide)
      · simp only [ordered.writeIndex, counted, Nat.mod_add_mod, Nat.add_sub_cancel]
        rw [Nat.add_right_comm, Nat.add_assoc]
    · simp only [MessageQueue.pending, counted, Fifo.contents, Nat.add_sub_cancel, List.cons.injEq]
      constructor
      · rw [Nat.mod_eq_of_lt ordered.readIndex]
      · exact Fifo.contents_shift (Nat.mod_mod ..).symm

/-- Senders and the reader use a queue in some order; calls that fail change nothing. -/
inductive Exchange : MessageQueue → List Message → List Message → MessageQueue → Prop where
  | nil (queue : MessageQueue) : Exchange queue [] [] queue
  | enqueue {queue next after : MessageQueue} {msg : Message} {sent received : List Message}
      (done : messageQueueEnqueue queue msg = some next) (rest : Exchange next sent received after) :
      Exchange queue (msg :: sent) received after
  | dequeue {queue next after : MessageQueue} {msg : Message} {sent received : List Message}
      (done : messageQueueDequeue queue = some (msg, next)) (rest : Exchange next sent received after) :
      Exchange queue sent (msg :: received) after

/-- Messages are read in the order in which they were sent, and none is lost or made up. -/
theorem Exchange.pending (exchange : Exchange queue sent received after) (ordered : queue.Ordered) :
    after.Ordered ∧ queue.pending ++ sent = received ++ after.pending := by
  induction exchange with
  | nil queue => exact ⟨ordered, List.append_nil _⟩
  | enqueue done _ ih =>
      obtain ⟨nextOrdered, grown⟩ := messageQueueEnqueue_pending ordered done
      obtain ⟨afterOrdered, same⟩ := ih nextOrdered
      refine ⟨afterOrdered, ?_⟩
      rw [← same, grown, List.append_assoc]
      rfl
  | dequeue done _ ih =>
      obtain ⟨nextOrdered, shrunk⟩ := messageQueueDequeue_pending ordered done
      obtain ⟨afterOrdered, same⟩ := ih nextOrdered
      refine ⟨afterOrdered, ?_⟩
      rw [shrunk, List.cons_append, same]
      rfl

/-- A message is read after exactly those that stood before it. -/
theorem Exchange.received_at (exchange : Exchange queue sent received after) (ordered : queue.Ordered)
    {ahead behind : List Message} (queued : queue.pending = ahead ++ msg :: behind)
    (enough : ahead.length < received.length) : received[ahead.length]? = some msg := by
  have same := (exchange.pending ordered).2
  have read : (received ++ after.pending)[ahead.length]? = some msg := by
    rw [← same, queued, List.append_assoc, List.getElem?_append_right (Nat.le_refl _), Nat.sub_self]
    rfl
  rwa [List.getElem?_append_left enough] at read

end AutismOS.Ipc
