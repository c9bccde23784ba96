import AutismOS.Library.Run
import AutismOS.Library.Shifting
import AutismOS.Library.Strings
import AutismOS.Input.Core
import Mathlib.Data.List.InsertIdx

namespace AutismOS.Input

open AutismOS.Library AutismOS.Library.Shifting

/-! # The table of listeners

The array with its loops, as `g_input` has it; the list of listeners is what stands at its front.
-/

/-- `input_listener_t` with the bytes of its name.  `added` counts the listeners that were added before; it is no field
of the source. -/
structure StoredListener where
  name : List UInt8
  callback : Nat
  userData : Nat
  active : Bool
  priority : UInt8
  added : Nat
deriving DecidableEq

/-- `listeners` and `listener_count` of `g_input` -/
structure ListenerTable where
  listeners : Nat → StoredListener
  listenerCount : Nat
  added : Nat

namespace ListenerTable

/-- The table after `input_manager_init`. -/
def initial : ListenerTable :=
  { listeners := fun _ => { name := List.replicate inputListenerNameLen 0, callback := 0, userData := 0, active := false
                            priority := 0, added := 0 }
    listenerCount := 0
    added := 0 }

variable (table : ListenerTable)

/-- Where a listener is inserted: before the first one of lower priority. -/
def insertAt (priority : UInt8) : Nat :=
  search (fun listener => listener.priority < priority) table.listeners 0 table.listenerCount

/-- The first 15 characters of the name are kept. -/
def storedListener (name : List UInt8) (callback userData : Nat) (priority : UInt8) : StoredListener :=
  { name := strncpy name (inputListenerNameLen - 1) ++ [0], callback, userData, active := true, priority
    added := table.added }

/-- Returns the place in the table, or -1.  `none` is the null pointer. -/
def inputAddListener (name : Option (List UInt8)) (callback userData : Nat) (priority : UInt8) : Int × ListenerTable :=
  if maxListeners ≤ table.listenerCount then (-1, table)
  else
    match name with
    | none => (-1, table)
    | some name =>
        if callback = 0 then (-1, table)
        else
          let insertAt := table.insertAt priority
          let shifted := openGap insertAt table.listeners table.listenerCount
          let listener := table.storedListener name callback userData priority
          (insertAt,
            { listeners := Function.update shifted insertAt listener
              listenerCount := table.listenerCount + 1
              added := table.added + 1 })

/-- The place of the first listener with that name, or the number of listeners. -/
def findListener (name : List UInt8) : Nat :=
  search (fun listener => strncmp listener.name name inputListenerNameLen = 0) table.listeners 0 table.listenerCount

def inputRemoveListener : Option (List UInt8) → ListenerTable
  | none => table
  | some name =>
      let place := table.findListener name
      if place < table.listenerCount then
        { table with
          listeners := closeGap table.listeners place (table.listenerCount - 1 - place)
          listenerCount := table.listenerCount - 1 }
      else table

/-- The listeners, in the order in which they are called. -/
def entries : List StoredListener := front table.listeners table.listenerCount

variable {table} {before after : ListenerTable} {name : List UInt8} {callback userData : Nat} {priority : UInt8}

theorem length_entries : table.entries.length = table.listenerCount := length_front

theorem insertAt_eq : table.insertAt priority = table.entries.findIdx fun listener => listener.priority < priority :=
  search_zero

theorem insertAt_le : table.insertAt priority ≤ table.listenerCount := by
  rw [insertAt_eq, ← length_entries]
  exact List.findIdx_le_length

theorem findListener_eq : table.findListener name =
    table.entries.findIdx fun listener => strncmp listener.name name inputListenerNameLen = 0 := search_zero

/-- What a call leaves and returns that adds a listener at a place. -/
structure Inserted (before : ListenerTable) (listener : StoredListener) (place : Nat) (result : Int × ListenerTable) : Prop where
  returned : result.1 = place
  entries : result.2.entries = before.entries.insertIdx place listener
  count : result.2.listenerCount = before.listenerCount + 1
  added : result.2.added = before.added + 1

/-- A listener that is added is inserted into the list. -/
theorem inputAddListener_added (room : table.listenerCount < maxListeners) (callable : callback ≠ 0) :
    Inserted table (table.storedListener name callback userData priority) (table.insertAt priority)
      (table.inputAddListener (some name) callback userData priority) := by
  rw [inputAddListener, if_neg (Nat.not_le.mpr room)]
  dsimp only
  rw [if_neg callable]
  exact ⟨rfl, front_openGap insertAt_le, rfl, rfl⟩

/-- A failed call changes nothing. -/
theorem inputAddListener_failed {name : Option (List UInt8)}
    (failed : maxListeners ≤ table.listenerCount ∨ name = none ∨ callback = 0) :
    table.inputAddListener name callback userData priority = (-1, table) := by
  unfold inputAddListener
  by_cases full : maxListeners ≤ table.listenerCount
  · rw [if_pos full]
  · rw [if_neg full]
    cases name with
    | none => rfl
    | some name => exact if_pos ((failed.resolve_left full).resolve_left (Option.some_ne_none name))

/-- A call fails, or it adds a listener. -/
theorem inputAddListener_cases (given : Option (List UInt8)) :
    table.inputAddListener given callback userData priority = (-1, table) ∨
      table.listenerCount < maxListeners ∧ ∃ name, Inserted table (table.storedListener name callback userData priority)
        (table.insertAt priority) (table.inputAddListener given callback userData priority) := by
  by_cases failed : maxListeners ≤ table.listenerCount ∨ given = none ∨ callback = 0
  · exact .inl (inputAddListener_failed failed)
  · rw [not_or, not_or] at failed
    obtain ⟨room, isGiven, callable⟩ := failed
    obtain ⟨name, rfl⟩ := Option.ne_none_iff_exists'.mp isGiven
    exact .inr ⟨Nat.not_le.mp room, name, inputAddListener_added (Nat.not_le.mp room) callable⟩

/-- The first listener of that name is taken out of the list, if there is one. -/
theorem inputRemoveListener_removed (found : table.findListener name < table.listenerCount) :
    (table.inputRemoveListener (some name)).entries = table.entries.eraseIdx (table.findListener name) ∧
      (table.inputRemoveListener (some name)).listenerCount + 1 = table.listenerCount := by
  obtain ⟨fewer, isCount⟩ := Nat.exists_eq_add_one.mpr (Nat.zero_lt_of_lt found)
  rw [inputRemoveListener, if_pos found, entries, entries]
  rw [isCount] at found ⊢
  exact ⟨front_closeGap found, rfl⟩

theorem inputRemoveListener_missing (missing : table.listenerCount ≤ table.findListener name) :
    table.inputRemoveListener (some name) = table := if_neg (Nat.not_lt.mpr missing)

/-- Listeners of higher priority come first, and among those of one priority the ones that were added first. -/
def Precedes (first second : StoredListener) : Prop :=
  second.priority < first.priority ∨ second.priority = first.priority ∧ first.added < second.added

/-- The table is in order, and does not hold more than fits or than was added. -/
structure Orderly (table : ListenerTable) : Prop where
  fits : table.listenerCount ≤ maxListeners
  ordered : table.entries.Pairwise Precedes
  added : ∀ listener ∈ table.entries, listener.added < table.added

theorem initial_orderly : initial.Orderly where
  fits := Nat.zero_le maxListeners
  ordered := List.Pairwise.nil
  added := fun _ member => absurd member List.not_mem_nil

/-- A new listener comes behind all of its priority. -/
theorem Orderly.pairwise_insert (orderly : table.Orderly) : (table.entries.insertIdx (table.insertAt priority)
    (table.storedListener name callback userData priority)).Pairwise Precedes := by
  rw [insertAt_eq]
  apply pairwise_insertIdx_findIdx orderly.ordered
  · intro first second precedes lower
    apply decide_eq_true
    rcases precedes with less | ⟨same, _⟩
    · exact UInt8.lt_trans less (of_decide_eq_true lower)
    · rw [same]
      exact of_decide_eq_true lower
  · intro other _ lower
    exact .inl (of_decide_eq_true lower)
  · intro other member notLower
    have most : priority ≤ other.priority := UInt8.not_lt.mp (of_decide_eq_false notLower)
    by_cases same : priority = other.priority
    · exact .inr ⟨same, orderly.added other member⟩
    · exact .inl (UInt8.lt_of_le_of_ne most same)

theorem Orderly.add (orderly : table.Orderly) (given : Option (List UInt8)) :
    (table.inputAddListener given callback userData priority).2.Orderly := by
  rcases inputAddListener_cases given with failed | ⟨room, name, inserted⟩
  · rw [failed]
    exact orderly
  · constructor
    · rw [inserted.count]
      exact room
    · rw [inserted.entries]
      exact orderly.pairwise_insert
    · intro listener member
      rw [inserted.entries] at member
      rw [inserted.added]
      rcases List.eq_or_mem_of_mem_insertIdx member with same | old
      · rw [same]
        exact Nat.lt_succ_self table.added
      · exact Nat.lt_succ_of_lt (orderly.added listener old)

/-- What is left of the table after a call that takes at most one listener out. -/
structure Removed (before after : ListenerTable) : Prop where
  sublist : after.entries.Sublist before.entries
  one : before.listenerCount ≤ after.listenerCount + 1
  sameAdded : after.added = before.added

theorem inputRemoveListener_sublist (name : Option (List UInt8)) : Removed table (table.inputRemoveListener name) := by
  have unchanged : Removed table table := ⟨List.Sublist.refl table.entries, Nat.le_succ table.listenerCount, rfl⟩
  cases name with
  | none => exact unchanged
  | some name =>
      by_cases found : table.findListener name < table.listenerCount
      · obtain ⟨isEntries, isCount⟩ := inputRemoveListener_removed found
        constructor
        · rw [isEntries]
          exact List.eraseIdx_sublist table.entries (table.findListener name)
        · exact Nat.le_of_eq isCount.symm
        · rw [inputRemoveListener, if_pos found]
      · rw [inputRemoveListener_missing (Nat.not_lt.mp found)]
        exact unchanged

theorem Orderly.remove (orderly : before.Orderly) (removed : Removed before after) : after.Orderly := by
  constructor
  · have fewer := removed.sublist.length_le
    rw [length_entries, length_entries] at fewer
    exact Nat.le_trans fewer orderly.fits
  · exact orderly.ordered.sublist removed.sublist
  · intro listener member
    rw [removed.sameAdded]
    exact orderly.added listener (removed.sublist.subset member)

/-- A call of a client. -/
inductive ListenerCall where
  | add (name : Option (List UInt8)) (callback userData : Nat) (priority : UInt8)
  | remove (name : Option (List UInt8))

def perform (table : ListenerTable) : ListenerCall → ListenerTable
  | .add name callback userData priority => (table.inputAddListener name callback userData priority).2
  | .remove name => table.inputRemoveListener name

/-- What one call does: a failed one changes nothing, and at most one listener is removed. -/
def Changes (before : ListenerTable) (call : ListenerCall) (after : ListenerTable) : Prop :=
  match call with
  | .add name callback userData priority =>
      (before.inputAddListener name callback userData priority).1 = -1 → after = before
  | .remove _ => Removed before after

theorem perform_changes (call : ListenerCall) : Changes table call (table.perform call) := by
  cases call with
  | add name callback userData priority =>
      intro failed
      rcases inputAddListener_cases name with refused | ⟨_, _, inserted⟩
      · exact congrArg Prod.snd refused
      · rw [inserted.returned] at failed
        omega
  | remove name => exact inputRemoveListener_sublist name

theorem Orderly.perform (orderly : table.Orderly) (call : ListenerCall) : (table.perform call).Orderly := by
  cases call with
  | add name callback userData priority => exact orderly.add name
  | remove name => exact orderly.remove (inputRemoveListener_sublist name)

/-- Whatever is added and removed, the table stays in order. -/
theorem run_listeners_orderly (calls : List ListenerCall) :
    Observed (fun table call => some (table.perform call))
      (fun before call after => Changes before call after ∧ after.Orderly) initial calls (calls.foldl perform initial) := by
  apply Run.observed (Run.foldl perform calls initial) Orderly
  · intro before call after orderly _ performed
    obtain rfl := Option.some.inj performed
    exact ⟨⟨perform_changes call, orderly.perform call⟩, orderly.perform call⟩
  · exact initial_orderly

/-- The kept part of a name is found under the whole name exactly if that is no longer than what is kept. -/
theorem strncmp_storedListener :
    strncmp (table.storedListener name callback userData priority).name name inputListenerNameLen = 0 ↔
      (cString name).length < inputListenerNameLen := by
  have isStored : cString (strncpy name (inputListenerNameLen - 1) ++ [0]) =
      (cString name).take (inputListenerNameLen - 1) := by
    rw [cString_append_zero, cString_strncpy]
  rw [strncmp_eq_zero, storedListener, isStored, List.take_take]
  constructor
  · intro same
    have lengths := congrArg List.length same
    rw [List.length_take, List.length_take] at lengths
    rw [inputListenerNameLen] at lengths ⊢
    omega
  · intro short
    rw [List.take_of_length_le (Nat.le_of_lt short), List.take_of_length_le]
    rw [inputListenerNameLen] at short ⊢
    omega

/-- A listener that was added under a new name is taken out again exactly if its whole name was kept. -/
theorem add_remove_iff (room : table.listenerCount < maxListeners)
    (absent : ∀ listener ∈ table.entries, strncmp listener.name name inputListenerNameLen ≠ 0) :
    (((table.inputAddListener (some name) callback userData priority).2.inputRemoveListener (some name)).entries =
        table.entries ∧
      ((table.inputAddListener (some name) callback userData priority).2.inputRemoveListener (some name)).listenerCount =
        table.listenerCount) ↔
    callback = 0 ∨ (cString name).length < inputListenerNameLen := by
  have notFound (listener : StoredListener) (member : listener ∈ table.entries) :
      decide (strncmp listener.name name inputListenerNameLen = 0) = false := decide_eq_false (absent listener member)
  by_cases failed : callback = 0
  · have missing : table.findListener name = table.listenerCount := by
      rw [findListener_eq, List.findIdx_eq_length_of_false notFound, length_entries]
    rw [inputAddListener_failed (.inr (.inr failed)), inputRemoveListener_missing (Nat.le_of_eq missing.symm)]
    exact iff_of_true ⟨rfl, rfl⟩ (.inl failed)
  · obtain ⟨-, isEntries, isCount, -⟩ := inputAddListener_added room failed
    have inside : table.insertAt priority ≤ table.entries.length := by
      rw [length_entries]
      exact insertAt_le
    have isPlace : (table.inputAddListener (some name) callback userData priority).2.findListener name =
        if (cString name).length < inputListenerNameLen then table.insertAt priority else table.listenerCount + 1 := by
      rw [findListener_eq, isEntries, findIdx_insertIdx notFound inside, length_entries]
      simp only [decide_eq_true_eq, strncmp_storedListener]
    by_cases short : (cString name).length < inputListenerNameLen
    · rw [if_pos short] at isPlace
      have found : (table.inputAddListener (some name) callback userData priority).2.findListener name <
          (table.inputAddListener (some name) callback userData priority).2.listenerCount := by
        rw [isPlace, isCount]
        exact Nat.lt_succ_of_le insertAt_le
      obtain ⟨leftEntries, leftCount⟩ := inputRemoveListener_removed found
      rw [leftEntries, isPlace, isEntries, List.eraseIdx_insertIdx_self]
      exact iff_of_true ⟨rfl, Nat.succ.inj (leftCount.trans isCount)⟩ (.inr short)
    · rw [if_neg short] at isPlace
      rw [inputRemoveListener_missing (Nat.le_of_eq (isCount.trans isPlace.symm)), isCount]
      apply iff_of_false
      · intro same
        exact Nat.succ_ne_self table.listenerCount same.2
      · exact not_or.mpr ⟨failed, short⟩

theorem initial_add_remove :
    ((initial.inputAddListener (some (strncpy [107, 101, 121, 115] 8)) 1 0 50).2.inputRemoveListener
      (some (strncpy [107, 101, 121, 115] 8))).listenerCount = 0 :=
  ((add_remove_iff (by decide) (fun _ member => absurd member List.not_mem_nil)).mpr (.inr (by decide))).2

/-- A name of 16 characters cannot be removed again. -/
theorem initial_keeps_long_name :
    initial.listenerCount < maxListeners ∧
    (∀ listener ∈ initial.entries, strncmp listener.name (List.replicate 16 97 ++ [0]) inputListenerNameLen ≠ 0) ∧
    ¬ (((initial.inputAddListener (some (List.replicate 16 97 ++ [0])) 1 0 50).2.inputRemoveListener
          (some (List.replicate 16 97 ++ [0]))).entries = initial.entries ∧
        ((initial.inputAddListener (some (List.replicate 16 97 ++ [0])) 1 0 50).2.inputRemoveListener
          (some (List.replicate 16 97 ++ [0]))).listenerCount = initial.listenerCount) := by
  decide +kernel

/-- What a client sees of an entry. -/
def listener (entry : StoredListener) : InputListener :=
  { name := cString entry.name, callback := entry.callback, userData := entry.userData, active := entry.active
    priority := entry.priority.toNat }

theorem take_append_zero {first second : List UInt8} {count : Nat} (firstString : 0 ∉ first) (secondString : 0 ∉ second) :
    (first ++ [0]).take count = (second ++ [0]).take count ↔ first.take count = second.take count := by
  induction count generalizing first second with
  | zero => simp
  | succ count ih =>
      cases first with
      | nil =>
          cases second with
          | nil => simp
          | cons byte rest =>
              have nonzero : (0 : UInt8) ≠ byte := (List.mem_cons.not.mp secondString <| .inl ·)
              simp [nonzero]
      | cons byte rest =>
          have nonzero : byte ≠ 0 := fun zero => firstString (List.mem_cons.mpr (.inl zero.symm))
          have restString : 0 ∉ rest := fun member => firstString (List.mem_cons_of_mem byte member)
          cases second with
          | nil => simp [nonzero]
          | cons other others =>
              have othersString : 0 ∉ others := fun member => secondString (List.mem_cons_of_mem other member)
              simp only [List.cons_append, List.take_succ_cons, List.cons.injEq, ih restString othersString]

theorem sameName_listener {entry : StoredListener} (string : 0 ∉ name) :
    InputManager.sameName (listener entry).name name = decide (strncmp entry.name name inputListenerNameLen = 0) := by
  have ends : 0 ∉ cString entry.name := by
    intro member
    have nonzero : (cString entry.name).all (· ≠ 0) = true := List.all_takeWhile
    exact absurd rfl (of_decide_eq_true (List.all_eq_true.mp nonzero 0 member))
  rw [InputManager.sameName, decide_eq_decide, listener, take_append_zero ends string, strncmp_eq_zero,
    cString_eq_self string]

/-- The table holds the listeners of the manager. -/
def Holds (table : ListenerTable) (manager : InputManager) : Prop := manager.listeners = table.entries.map listener

variable {manager : InputManager}

theorem initial_holds : Holds initial inputManagerInit := rfl

theorem Holds.length (holds : Holds table manager) : manager.listeners.length = table.listenerCount := by
  rw [holds, List.length_map, length_entries]

/-- A listener is added to the table where it is added to the list. -/
theorem Holds.add (holds : Holds table manager) (string : 0 ∉ name) :
    (manager.inputAddListener (some name) callback userData priority.toNat).1 =
        (table.inputAddListener (some name) callback userData priority).1 ∧
      Holds (table.inputAddListener (some name) callback userData priority).2
        (manager.inputAddListener (some name) callback userData priority.toNat).2 := by
  by_cases full : maxListeners ≤ table.listenerCount
  · rw [inputAddListener_failed (.inl full), InputManager.inputAddListener, if_pos (holds.length.symm ▸ full)]
    exact ⟨rfl, holds⟩
  · rw [InputManager.inputAddListener, if_neg (holds.length.symm ▸ full)]
    dsimp only
    by_cases failed : callback = 0
    · rw [inputAddListener_failed (.inr (.inr failed)), if_pos failed]
      exact ⟨rfl, holds⟩
    · have isPlace : manager.listeners.findIdx (fun listener => listener.priority < priority.toNat) =
          table.insertAt priority := by
        rw [holds, List.findIdx_map, insertAt_eq]
        rfl
      have isListener : listener (table.storedListener name callback userData priority) =
          { name := name.take (inputListenerNameLen - 1), callback, userData, active := true
            priority := priority.toNat } := by
        rw [listener, storedListener, cString_append_zero, cString_strncpy, cString_eq_self string]
      have inserted : Inserted table (table.storedListener name callback userData priority) (table.insertAt priority)
          (table.inputAddListener (some name) callback userData priority) := inputAddListener_added (Nat.not_le.mp full) failed
      rw [if_neg failed, isPlace, Holds, inserted.returned, inserted.entries, List.map_insertIdx, ← holds, isListener]
      exact ⟨rfl, rfl⟩

/-- The same listener is removed from both. -/
theorem Holds.remove (holds : Holds table manager) (string : 0 ∉ name) :
    Holds (table.inputRemoveListener (some name)) (manager.inputRemoveListener (some name)) := by
  have isPlace : manager.listeners.findIdx (fun listener => InputManager.sameName listener.name name) =
      table.findListener name := by
    rw [holds, List.findIdx_map, findListener_eq]
    exact congrArg (List.findIdx · table.entries) (funext fun entry => sameName_listener string)
  rw [Holds, InputManager.inputRemoveListener]
  dsimp only
  rw [isPlace, holds]
  by_cases found : table.findListener name < table.listenerCount
  · rw [(inputRemoveListener_removed found).1, List.eraseIdx_map]
  · rw [inputRemoveListener_missing (Nat.not_lt.mp found), List.eraseIdx_of_length_le]
    rw [List.length_map, length_entries]
    exact Nat.not_lt.mp found

end ListenerTable

end AutismOS.Input
