import AutismOS.Ipc.Queue
import AutismOS.Library.Run

namespace AutismOS.Ipc

open AutismOS.Library

/-! # The inbox of a process as a bounded list

The answer to a call is its return value with the message that was written to `*msg`, if there was one.
-/

inductive QueueCall where
  | enqueue (msg : Message)
  | dequeue

/-- A call, as the caller sees it. -/
def messageQueueCall (queue : MessageQueue) : QueueCall → (Int × Option Message) × MessageQueue
  | .enqueue msg =>
      match messageQueueEnqueue queue msg with
      | some next => ((0, none), next)
      | none => ((-1, none), queue)
  | .dequeue =>
      match messageQueueDequeue queue with
      | some (msg, next) => ((0, some msg), next)
      | none => ((-1, none), queue)

/-- What an inbox is for: a list of at most `messageQueueSize` messages, the oldest first. -/
def inboxCall (inbox : List Message) : QueueCall → (Int × Option Message) × List Message
  | .enqueue msg => if inbox.length < messageQueueSize then ((0, none), inbox ++ [msg]) else ((-1, none), inbox)
  | .dequeue =>
      match inbox with
      | [] => ((-1, none), [])
      | oldest :: rest => ((0, some oldest), rest)

variable {queue : MessageQueue} {inbox : List Message} {call : QueueCall}

/-- The ring holds the messages of the list. -/
structure Represents (queue : MessageQueue) (inbox : List Message) : Prop where
  ordered : queue.Ordered
  pending : queue.pending = inbox

theorem Represents.length (represents : Represents queue inbox) : inbox.length = queue.count := by
  rw [← represents.pending, MessageQueue.pending, Fifo.length_contents]

theorem Represents.enqueue (represents : Represents queue inbox) (msg : Message) :
    (messageQueueCall queue (.enqueue msg)).1 = (inboxCall inbox (.enqueue msg)).1 ∧
      Represents (messageQueueCall queue (.enqueue msg)).2 (inboxCall inbox (.enqueue msg)).2 := by
  rw [messageQueueCall, inboxCall, represents.length]
  cases done : messageQueueEnqueue queue msg with
  | none =>
      have full : messageQueueIsFull queue = true := messageQueueEnqueue_none.mp done
      have many : ¬ queue.count < messageQueueSize := Nat.not_lt.mpr (of_decide_eq_true full)
      rw [if_neg many]
      exact ⟨rfl, represents⟩
  | some next =>
      obtain ⟨ordered, pending⟩ := messageQueueEnqueue_pending represents.ordered done
      rw [if_pos (messageQueueEnqueue_some done).1, ← represents.pending]
      exact ⟨rfl, ordered, pending⟩

theorem Represents.dequeue (represents : Represents queue inbox) :
    (messageQueueCall queue .dequeue).1 = (inboxCall inbox .dequeue).1 ∧
      Represents (messageQueueCall queue .dequeue).2 (inboxCall inbox .dequeue).2 := by
  rw [messageQueueCall]
  cases done : messageQueueDequeue queue with
  | none =>
      have empty : inbox = [] := by
        rw [← List.length_eq_zero_iff, represents.length]
        exact messageQueueDequeue_none.mp done
      subst empty
      exact ⟨rfl, represents⟩
  | some result =>
      obtain ⟨msg, next⟩ := result
      obtain ⟨ordered, pending⟩ := messageQueueDequeue_pending represents.ordered done
      have oldest : inbox = msg :: next.pending := represents.pending.symm.trans pending
      subst oldest
      exact ⟨rfl, ordered, rfl⟩

theorem messageQueue_simulates : Simulates Represents messageQueueCall inboxCall := by
  intro queue inbox call represents
  cases call with
  | enqueue msg => exact represents.enqueue msg
  | dequeue => exact represents.dequeue

theorem messageQueueInit_represents : Represents messageQueueInit [] := ⟨messageQueueInit_ordered, rfl⟩

/-- A call that answers -1 writes no message and leaves the queue as it was. -/
theorem messageQueueCall_refused (refused : (messageQueueCall queue call).1.1 = -1) :
    messageQueueCall queue call = ((-1, none), queue) := by
  cases call with
  | enqueue msg =>
      rw [messageQueueCall] at refused ⊢
      cases done : messageQueueEnqueue queue msg with
      | none => rfl
      | some next =>
          rw [done] at refused
          cases refused
  | dequeue =>
      rw [messageQueueCall] at refused ⊢
      cases done : messageQueueDequeue queue with
      | none => rfl
      | some result =>
          rw [done] at refused
          cases refused

/-- From `message_queue_init` on, a queue answers every call as a list of at most `messageQueueSize` messages does,
holds just these messages, and its indices enclose them. -/
theorem message_queue_refines_list (calls : List QueueCall) :
    ∃ results queue inbox, answers messageQueueCall messageQueueInit calls = (results, queue) ∧
      answers inboxCall [] calls = (results, inbox) ∧ queue.pending = inbox ∧ inbox.length ≤ messageQueueSize ∧
      (queue.readIndex + queue.count) % messageQueueSize = queue.writeIndex % messageQueueSize ∧
      ∀ call, (messageQueueCall queue call).1.1 = -1 → messageQueueCall queue call = ((-1, none), queue) := by
  obtain ⟨same, represents⟩ := messageQueue_simulates.answers messageQueueInit_represents calls
  refine ⟨_, _, _, rfl, Prod.ext same.symm rfl, represents.pending, ?_, ?_, fun _ => messageQueueCall_refused⟩
  · rw [represents.length]
    exact represents.ordered.count
  · rw [represents.ordered.writeIndex, Nat.mod_mod]

end AutismOS.Ipc
