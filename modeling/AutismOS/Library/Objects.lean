import AutismOS.Library.Scanning

namespace AutismOS.Library

/-! Objects that are allocated one after another, linked into chains and given back.

An object goes by the number of objects before it.  What was given back is a log, so that it shows if
an object is given back twice; to read or change an object that was given back is a fault.
-/

universe u v

/-- `calls` counts all allocations that were asked for. -/
structure Objects (α : Type u) where
  cells : List α
  freed : List Nat
  calls : Nat

namespace Objects

variable {α : Type u} {ι : Type v} {objects : Objects α} {cell : α} {number first : Nat} {order : List Nat}

/-- Whether a call succeeds is given for each of them. -/
def allocate (succeeds : Nat → Bool) (objects : Objects α) (cell : α) : Option Nat × Objects α :=
  if succeeds objects.calls then
    (some objects.cells.length, { objects with cells := objects.cells ++ [cell], calls := objects.calls + 1 })
  else (none, { objects with calls := objects.calls + 1 })

def read (objects : Objects α) (number : Nat) : Except Fault α :=
  if number ∈ objects.freed then .error .read
  else
    match objects.cells[number]? with
    | none => .error .read
    | some cell => .ok cell

def write (objects : Objects α) (number : Nat) (cell : α) : Except Fault (Objects α) :=
  if number ∈ objects.freed ∨ objects.cells.length ≤ number then .error .write
  else .ok { objects with cells := objects.cells.set number cell }

def free (objects : Objects α) (number : Nat) : Objects α := { objects with freed := objects.freed ++ [number] }

/-- Every object was given back once, and nothing else. -/
def Balanced (objects : Objects α) : Prop := objects.freed.Perm (List.range objects.cells.length)

theorem read_live (live : number ∉ objects.freed) (here : objects.cells[number]? = some cell) :
    objects.read number = .ok cell := by
  rw [read, if_neg live, here]

theorem write_live (live : number ∉ objects.freed) (inside : number < objects.cells.length) :
    objects.write number cell = .ok { objects with cells := objects.cells.set number cell } :=
  if_neg (not_or.mpr ⟨live, Nat.not_le.mpr inside⟩)

/-- The number of the first of some objects, if there is one. -/
def headOf (first : Nat) : List ι → Option Nat
  | [] => none
  | _ :: _ => some first

/-- Objects that are made from items in a row, each linked to the one behind it. -/
def chained (make : ι → Option Nat → α) (first : Nat) : List ι → List α
  | [] => []
  | item :: rest => make item (headOf (first + 1) rest) :: chained make (first + 1) rest

/-- What is reached by the links from an object on. -/
inductive Chain (next : α → Option (Option Nat)) (cells : List α) : Option Nat → List Nat → Prop
  | nil : Chain next cells none []
  | cons {number : Nat} {cell : α} {following : Option Nat} {rest : List Nat} (here : cells[number]? = some cell)
      (link : next cell = some following) (later : Chain next cells following rest) :
      Chain next cells (some number) (number :: rest)

variable {make : ι → Option Nat → α} {items : List ι} {item last : ι} {next : α → Option (Option Nat)}
variable {front back : List α}

@[simp] theorem length_chained : (chained make first items).length = items.length := by
  induction items generalizing first with
  | nil => rfl
  | cons item rest ih => exact congrArg (· + 1) ih

theorem map_chained {β : Type u} (wrap : α → β) :
    (chained make first items).map wrap = chained (fun item next => wrap (make item next)) first items := by
  induction items generalizing first with
  | nil => rfl
  | cons item rest ih => rw [chained, List.map_cons, ih, chained]

theorem headOf_concat : headOf first (items ++ [last]) = headOf first (items ++ [last, item]) := by
  cases items with
  | nil => rfl
  | cons _ _ => rfl

theorem chained_getElem {rest : List ι} : (chained make first (items ++ item :: rest))[items.length]? =
    some (make item (headOf (first + items.length + 1) rest)) := by
  induction items generalizing first with
  | nil => rfl
  | cons other others ih =>
      have count : first + (others.length + 1) + 1 = first + 1 + others.length + 1 := by omega
      rw [List.length_cons, count]
      exact ih

/-- The object that was the last one is linked to a new one. -/
theorem chained_concat : (chained make first (items ++ [last]) ++ [make item none]).set items.length
    (make last (some (first + items.length + 1))) = chained make first (items ++ [last, item]) := by
  induction items generalizing first with
  | nil => rfl
  | cons other rest ih =>
      have count : first + (rest.length + 1) + 1 = first + 1 + rest.length + 1 := by omega
      rw [List.cons_append, chained, List.length_cons, List.cons_append, List.set_cons_succ, count, ih, List.cons_append,
        chained, headOf_concat]

/-- A row of linked objects is a chain, wherever it stands. -/
theorem chain_chained (links : ∀ item following, next (make item following) = some following) :
    Chain next (front ++ chained make front.length items ++ back) (headOf front.length items)
      (List.range' front.length items.length) := by
  induction items generalizing front with
  | nil => exact .nil
  | cons item rest ih =>
      have later := @ih (front ++ [make item (headOf (front.length + 1) rest)])
      rw [List.length_append, List.length_singleton, List.append_assoc front] at later
      refine .cons ?_ (links item _) later
      rw [List.append_assoc, List.getElem?_append_right (Nat.le_refl _), Nat.sub_self]
      rfl

end Objects

end AutismOS.Library
