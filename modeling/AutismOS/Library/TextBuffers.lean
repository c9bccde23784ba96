import AutismOS.Library.Scanning
import Mathlib.Data.List.Basic

namespace AutismOS.Library

/-! Arrays of characters that hold a string, with a cursor at its end.

The size of an array is fixed.  A store outside it, a copy that does not fit and a string without an end
are faults.
-/

/-- A computation without a fault whose result has a property. -/
def Ends {result : Type} (holds : result → Prop) (computation : Except Fault result) : Prop :=
  ∃ result, computation = .ok result ∧ holds result

/-- What follows a computation without a fault may use what holds of its result. -/
theorem Ends.bind {value result : Type} {first : value → Prop} {holds : result → Prop} {computation : Except Fault value}
    {next : value → Except Fault result} (initial : Ends first computation)
    (later : ∀ value, first value → Ends holds (next value)) : Ends holds (computation >>= next) := by
  obtain ⟨value, rfl, known⟩ := initial
  exact later value known

theorem Ends.pure {result : Type} {holds : result → Prop} {value : result} (known : holds value) :
    Ends holds (Pure.pure value) := ⟨value, rfl, known⟩

/-- Actions that keep a property are performed one after another without a fault. -/
theorem Ends.foldlM {state action : Type} {holds : state → Prop} {step : state → action → Except Fault state}
    (kept : ∀ before action, holds before → Ends holds (step before action)) (actions : List action) {start : Except Fault state}
    (initial : Ends holds start) : Ends holds (start >>= fun state => actions.foldlM step state) := by
  obtain ⟨before, rfl, holdsBefore⟩ := initial
  change Ends holds (actions.foldlM step before)
  induction actions generalizing before with
  | nil => exact ⟨before, rfl, holdsBefore⟩
  | cons action rest ih =>
      obtain ⟨next, performed, holdsNext⟩ := kept before action holdsBefore
      rw [List.foldlM_cons, performed]
      exact ih next holdsNext

/-- `char bytes[size]` -/
structure CharArray (size : Nat) where
  bytes : List UInt8
  length_eq : bytes.length = size

namespace CharArray

variable {size count cursor place : Nat} {array : CharArray size} {byte char : UInt8} {text rest source : List UInt8}

def store (array : CharArray size) (place : Nat) (byte : UInt8) : Except Fault (CharArray size) :=
  if place < size then .ok ⟨array.bytes.set place byte, by rw [List.length_set, array.length_eq]⟩ else .error .write

def memset (array : CharArray size) (byte : UInt8) (count : Nat) : Except Fault (CharArray size) :=
  if fits : count ≤ size then
    .ok ⟨List.replicate count byte ++ array.bytes.drop count, by simp [array.length_eq, fits]⟩
  else .error .write

def strncpy (array : CharArray size) (source : List UInt8) (count : Nat) : Except Fault (CharArray size) :=
  if fits : count ≤ size then
    if count ≤ source.length ∨ 0 ∈ source then
      .ok ⟨Library.strncpy source count ++ array.bytes.drop count, by simp [array.length_eq, fits]⟩
    else .error .read
  else .error .write

/-- `strlen` of the array. -/
def strlen (array : CharArray size) : Except Fault Nat :=
  if 0 ∈ array.bytes then .ok (cString array.bytes).length else .error .read

/-- The string ends at the cursor, and the last byte is zero. -/
structure Settled (array : CharArray size) (cursor : Nat) : Prop where
  cursor : cursor = (cString array.bytes).length
  last : array.bytes.getLast? = some 0

theorem cString_split (string : 0 ∉ text) : cString (text ++ 0 :: rest) = text := by
  rw [cString_append_zero, cString_eq_self string]

/-- A settled array is its string, a zero, and whatever is behind that. -/
theorem Settled.split (settled : Settled array cursor) :
    ∃ text rest, array.bytes = text ++ 0 :: rest ∧ 0 ∉ text ∧ cursor = text.length := by
  have zero : 0 ∈ array.bytes := List.mem_of_getLast? settled.last
  obtain ⟨text, rest, split, string⟩ := List.eq_append_cons_of_mem zero
  refine ⟨text, rest, split, string, ?_⟩
  rw [settled.cursor, split, cString_split string]

theorem settled_of_split (split : array.bytes = text ++ 0 :: rest) (string : 0 ∉ text)
    (last : (0 :: rest).getLast? = some 0) : Settled array text.length := by
  constructor
  · rw [split, cString_split string]
  · rw [split, List.getLast?_append_of_ne_nil _ (List.cons_ne_nil _ _), last]

theorem Settled.cursor_lt (settled : Settled array cursor) : cursor < size := by
  obtain ⟨text, rest, split, _, rfl⟩ := settled.split
  rw [← array.length_eq, split, List.length_append, List.length_cons]
  omega

theorem store_ok (inside : place < size) :
    ∃ next, array.store place byte = .ok next ∧ next.bytes = array.bytes.set place byte :=
  ⟨_, if_pos inside, rfl⟩

/-- A store behind a text replaces one byte. -/
theorem store_behind {old : UInt8} (split : array.bytes = text ++ old :: rest) :
    ∃ next, array.store text.length byte = .ok next ∧ next.bytes = text ++ byte :: rest := by
  have inside : text.length < size := by
    rw [← array.length_eq, split, List.length_append, List.length_cons]
    omega
  obtain ⟨next, stored, bytes⟩ := @store_ok _ _ array byte inside
  refine ⟨next, stored, ?_⟩
  rw [bytes, split, List.set_append_right _ _ (Nat.le_refl _), Nat.sub_self, List.set_cons_zero]

/-- A character is put at the cursor, and a zero behind it. -/
theorem Settled.type (settled : Settled array cursor) (nonzero : char ≠ 0) (room : cursor + 1 < size) :
    ∃ next last, array.store cursor char = .ok next ∧ next.store (cursor + 1) 0 = .ok last ∧ Settled last (cursor + 1) := by
  obtain ⟨text, rest, split, string, rfl⟩ := settled.split
  cases rest with
  | nil =>
      have length := array.length_eq
      rw [split, List.length_append, List.length_singleton] at length
      omega
  | cons old rest =>
      obtain ⟨next, stored, bytes⟩ := @store_behind _ array char _ _ _ split
      have longer : next.bytes = (text ++ [char]) ++ old :: rest := by rw [bytes, List.append_assoc, List.singleton_append]
      obtain ⟨last, ended, bytes'⟩ := @store_behind _ next 0 _ _ _ longer
      have fits : (text ++ [char]).length = text.length + 1 := List.length_append
      have string' : 0 ∉ text ++ [char] := by
        rw [List.mem_append, List.mem_singleton, not_or]
        exact ⟨string, Ne.symm nonzero⟩
      have lastZero : (0 :: rest).getLast? = some 0 := by
        have whole := settled.last
        rw [split, List.getLast?_append_of_ne_nil _ (List.cons_ne_nil _ _), List.getLast?_cons_cons] at whole
        cases rest with
        | nil => rfl
        | cons first others => rwa [List.getLast?_cons_cons] at whole ⊢
      rw [fits] at ended
      have done := settled_of_split bytes' string' lastZero
      rw [fits] at done
      exact ⟨next, last, stored, ended, done⟩

/-- The character before the cursor is erased. -/
theorem Settled.erase (settled : Settled array (cursor + 1)) :
    ∃ next, array.store cursor 0 = .ok next ∧ Settled next cursor := by
  obtain ⟨text, rest, split, string, length⟩ := settled.split
  rcases List.eq_nil_or_concat' text with rfl | ⟨front, char, rfl⟩
  · cases length
  · have isFront : cursor = front.length := by
      rw [List.length_append, List.length_singleton] at length
      omega
    rw [List.append_assoc, List.singleton_append] at split
    obtain ⟨next, stored, bytes⟩ := @store_behind _ array 0 _ _ _ split
    rw [List.mem_append, not_or] at string
    have lastZero : (0 :: 0 :: rest).getLast? = some 0 := by
      have whole := settled.last
      rw [split, List.getLast?_append_of_ne_nil _ (List.cons_ne_nil _ _), List.getLast?_cons_cons] at whole
      rwa [List.getLast?_cons_cons]
    rw [isFront]
    exact ⟨next, stored, settled_of_split bytes string.1 lastZero⟩

/-- Behind a text the array is blank. -/
def Blank (array : CharArray size) (text : List UInt8) : Prop :=
  array.bytes = text ++ List.replicate (size - text.length) 0 ∧ 0 ∉ text

theorem Blank.split (blank : Blank array text) (short : text.length < size) :
    array.bytes = text ++ 0 :: List.replicate (size - text.length - 1) 0 := by
  obtain ⟨more, isMore⟩ := Nat.exists_eq_add_of_lt short
  have left : size - text.length = more + 1 := by omega
  rw [blank.1, left, List.replicate_succ, Nat.add_sub_cancel]

theorem Blank.settled (blank : Blank array text) (short : text.length < size) : Settled array text.length := by
  refine settled_of_split (blank.split short) blank.2 ?_
  rw [← List.replicate_succ, List.getLast?_replicate, if_neg (Nat.succ_ne_zero _)]

/-- The zero behind the text may be stored again. -/
theorem Blank.close (blank : Blank array text) (short : text.length < size) :
    ∃ next, array.store text.length 0 = .ok next ∧ Settled next text.length := by
  obtain ⟨next, stored, bytes⟩ := @store_behind _ array 0 _ _ _ (blank.split short)
  refine ⟨next, stored, settled_of_split bytes blank.2 ?_⟩
  rw [← List.replicate_succ, List.getLast?_replicate, if_neg (Nat.succ_ne_zero _)]

theorem memset_blank (array : CharArray size) : ∃ next, array.memset 0 size = .ok next ∧ Blank next [] := by
  refine ⟨_, dif_pos (Nat.le_refl size), ?_, List.not_mem_nil⟩
  change List.replicate size 0 ++ array.bytes.drop size = List.replicate size 0
  rw [List.drop_eq_nil_of_le (Nat.le_of_eq array.length_eq), List.append_nil]

/-- What is copied one byte short of the array is settled, for the last byte stays zero. -/
theorem Settled.strncpy (settled : Settled array cursor) (string : 0 ∈ source) :
    ∃ next length, array.strncpy source (size - 1) = .ok next ∧ next.strlen = .ok length ∧ Settled next length := by
  obtain ⟨front, bytes⟩ := List.getLast?_eq_some_iff.mp settled.last
  have length := array.length_eq
  rw [bytes, List.length_append, List.length_singleton] at length
  have untouched : array.bytes.drop (size - 1) = [0] := by
    have isFront : size - 1 = front.length := by omega
    rw [bytes, isFront, List.drop_left]
  have copied : (Library.strncpy source (size - 1) ++ array.bytes.drop (size - 1)).length = size := by
    rw [untouched, List.length_append, length_strncpy, List.length_singleton]
    omega
  have zero : 0 ∈ Library.strncpy source (size - 1) ++ array.bytes.drop (size - 1) := by
    rw [untouched]
    exact List.mem_append_right _ List.mem_cons_self
  refine ⟨⟨_, copied⟩, _, ?_, if_pos zero, rfl, ?_⟩
  · exact (dif_pos (Nat.sub_le size 1)).trans (if_pos (Or.inr string))
  · change (Library.strncpy source (size - 1) ++ array.bytes.drop (size - 1)).getLast? = some 0
    rw [untouched, List.getLast?_concat]

/-- `while (*text && cursor < limit)` the characters of a text are stored. -/
def copyText (array : CharArray size) (cursor limit : Nat) : List UInt8 → Except Fault (CharArray size × Nat)
  | [] => .error .read
  | char :: rest =>
      if char ≠ 0 ∧ cursor < limit then do
        let array ← array.store cursor char
        copyText array (cursor + 1) limit rest
      else .ok (array, cursor)

theorem copyText_blank {limit : Nat} (short : limit < size) (blank : Blank array text) (room : text.length ≤ limit)
    (ends : 0 ∈ source) :
    ∃ next copied, copyText array text.length limit source = .ok (next, copied.length) ∧ Blank next copied ∧
      copied.length ≤ limit := by
  induction source generalizing array text with
  | nil => cases ends
  | cons char source ih =>
      rw [copyText]
      by_cases goes : char ≠ 0 ∧ text.length < limit
      · rw [if_pos goes]
        obtain ⟨next, stored, bytes⟩ := @store_behind _ array char _ _ _ (blank.split (by omega))
        have longer : (text ++ [char]).length = text.length + 1 := List.length_append
        have blank' : Blank next (text ++ [char]) := by
          refine ⟨?_, ?_⟩
          · rw [bytes, longer, List.append_assoc, List.singleton_append, Nat.sub_sub]
          · rw [List.mem_append, List.mem_singleton, not_or]
            exact ⟨blank.2, Ne.symm goes.1⟩
        have later : 0 ∈ source := (List.mem_cons.mp ends).resolve_left (Ne.symm goes.1)
        rw [stored]
        have rest := ih blank' (by omega) later
        rwa [longer] at rest
      · rw [if_neg goes]
        exact ⟨array, text, rfl, blank, room⟩

/-- The array holds the string, and its last byte is zero. -/
structure Spells (array : CharArray size) (text : List UInt8) : Prop where
  text : cString array.bytes = text
  last : array.bytes.getLast? = some 0

namespace Spells

theorem settled (spells : Spells array text) : Settled array text.length := ⟨congrArg List.length spells.text.symm, spells.last⟩

theorem short (spells : Spells array text) : text.length < size := spells.settled.cursor_lt

theorem split (spells : Spells array text) : ∃ rest, array.bytes = text ++ 0 :: rest ∧ 0 ∉ text := by
  obtain ⟨front, rest, split, string, _⟩ := spells.settled.split
  have same := spells.text
  rw [split, cString_split string] at same
  subst same
  exact ⟨rest, split, string⟩

theorem of_split (split : array.bytes = text ++ 0 :: rest) (string : 0 ∉ text)
    (last : array.bytes.getLast? = some 0) : Spells array text := by
  refine ⟨?_, last⟩
  rw [split, cString_split string]

theorem strlen (spells : Spells array text) : array.strlen = .ok text.length := by
  rw [CharArray.strlen, if_pos (List.mem_of_getLast? spells.last), spells.text]

/-- A store before the last byte leaves the zero there. -/
theorem last_store (last : array.bytes.getLast? = some 0) {next : CharArray size} (before : place + 1 < size)
    (bytes : next.bytes = array.bytes.set place byte) : next.bytes.getLast? = some 0 := by
  rw [List.getLast?_eq_getElem?, array.length_eq] at last
  rw [List.getLast?_eq_getElem?, next.length_eq, bytes, List.getElem?_set_ne (by omega)]
  exact last

theorem type (spells : Spells array text) (nonzero : char ≠ 0) (room : text.length + 1 < size) :
    ∃ next last, array.store text.length char = .ok next ∧ next.store (text.length + 1) 0 = .ok last ∧
      Spells last (text ++ [char]) := by
  obtain ⟨next, last, stored, ended, settled⟩ := spells.settled.type nonzero room
  refine ⟨next, last, stored, ended, ?_, settled.last⟩
  obtain ⟨rest, split, string⟩ := spells.split
  have inside : text.length + 1 < array.bytes.length := by rwa [array.length_eq]
  cases rest with
  | nil =>
      rw [split, List.length_append, List.length_singleton] at inside
      omega
  | cons old rest =>
      obtain ⟨next', stored', bytes⟩ := @store_behind _ array char _ _ _ split
      cases stored.symm.trans stored'
      have longer : next.bytes = (text ++ [char]) ++ old :: rest := by rw [bytes, List.append_assoc, List.singleton_append]
      obtain ⟨last', ended', bytes'⟩ := @store_behind _ next 0 _ _ _ longer
      rw [List.length_append, List.length_singleton] at ended'
      cases ended.symm.trans ended'
      rw [bytes', cString_split]
      rw [List.mem_append, List.mem_singleton, not_or]
      exact ⟨string, Ne.symm nonzero⟩

theorem erase (spells : Spells array (text ++ [char])) :
    Ends (Spells · text) (array.store text.length 0) := by
  obtain ⟨rest, split, string⟩ := spells.split
  rw [List.append_assoc, List.singleton_append] at split
  obtain ⟨next, stored, bytes⟩ := @store_behind _ array 0 _ _ _ split
  have settled := spells.settled
  rw [List.length_append, List.length_singleton] at settled
  obtain ⟨_, again, settled⟩ := settled.erase
  cases stored.symm.trans again
  rw [List.mem_append, not_or] at string
  exact ⟨next, stored, of_split bytes string.1 settled.last⟩

/-- What is copied one byte short of the array is cut there. -/
theorem strncpy (spells : Spells array text) (string : 0 ∈ source) :
    ∃ next, array.strncpy source (size - 1) = .ok next ∧ Spells next ((cString source).take (size - 1)) := by
  obtain ⟨next, _, copied, _, settled⟩ := spells.settled.strncpy string
  refine ⟨next, copied, ?_, settled.last⟩
  obtain ⟨front, bytes⟩ := List.getLast?_eq_some_iff.mp spells.last
  have isFront : size - 1 = front.length := by
    rw [← array.length_eq, bytes, List.length_append, List.length_singleton, Nat.add_sub_cancel]
  rw [CharArray.strncpy, dif_pos (Nat.sub_le size 1), if_pos (Or.inr string)] at copied
  cases copied
  change cString (Library.strncpy source (size - 1) ++ array.bytes.drop (size - 1)) = _
  rw [bytes, isFront, List.drop_left, cString_append_zero, cString_strncpy]

theorem copy (spells : Spells array text) {copied : List UInt8} (string : 0 ∉ copied) (room : copied.length < size) :
    Ends (Spells · copied) (array.strncpy (copied ++ [0]) (size - 1)) := by
  obtain ⟨next, done, spelled⟩ := spells.strncpy (List.mem_append_right copied List.mem_cons_self)
  rw [cString_split string, List.take_of_length_le (by omega)] at spelled
  exact ⟨next, done, spelled⟩

end Spells

theorem memset_spells (array : CharArray size) (positive : 0 < size) : Ends (Spells · []) (array.memset 0 size) := by
  obtain ⟨next, cleared, blank⟩ := array.memset_blank
  have settled := blank.settled positive
  exact ⟨next, cleared, List.length_eq_zero_iff.mp settled.cursor.symm, settled.last⟩

/-- `array[cursor++] = char` -/
def push (out : CharArray size × Nat) (char : UInt8) : Except Fault (CharArray size × Nat) := do
  let array ← out.1.store out.2 char
  return (array, out.2 + 1)

/-- Characters are put one behind another. -/
theorem push_all {front : List UInt8} (split : array.bytes = front ++ rest) (last : array.bytes.getLast? = some 0)
    (room : front.length + text.length < size) :
    ∃ next behind, text.foldlM push (array, front.length) = .ok (next, (front ++ text).length) ∧
      next.bytes = front ++ text ++ behind ∧ next.bytes.getLast? = some 0 := by
  induction text generalizing array front rest with
  | nil => exact ⟨array, rest, by rw [List.append_nil]; rfl, by rw [List.append_nil, split], last⟩
  | cons char text ih =>
      rw [List.length_cons] at room
      cases rest with
      | nil =>
          have length := array.length_eq
          rw [split, List.append_nil] at length
          omega
      | cons old rest =>
          obtain ⟨next, stored, bytes⟩ := @store_behind _ array char _ _ _ split
          have longer : next.bytes = (front ++ [char]) ++ rest := by rw [bytes, List.append_assoc, List.singleton_append]
          have length : (front ++ [char]).length = front.length + 1 := List.length_append
          have zero : next.bytes.getLast? = some 0 := by
            obtain ⟨again, stored', set⟩ := @store_ok _ front.length array char (by omega)
            cases stored.symm.trans stored'
            exact Spells.last_store last (by omega) set
          obtain ⟨final, behind, pushed, whole, lastZero⟩ := ih longer zero (by omega)
          have joined : front ++ [char] ++ text = front ++ char :: text := by rw [List.append_assoc, List.singleton_append]
          rw [length, joined] at pushed
          rw [joined] at whole
          refine ⟨final, behind, ?_, whole, lastZero⟩
          rw [List.foldlM_cons, push, stored]
          exact pushed

/-- A text that is put at the front, with a zero behind it, is the string of the array. -/
theorem Spells.write {old : List UInt8} (spells : Spells array old) (string : 0 ∉ text) (room : text.length + 1 < size) :
    ∃ next last, text.foldlM push (array, 0) = .ok (next, text.length) ∧ next.store text.length 0 = .ok last ∧
      Spells last text := by
  have inside : ([] : List UInt8).length + text.length < size := by
    rw [List.length_nil]
    omega
  obtain ⟨next, behind, pushed, bytes, lastZero⟩ := push_all (List.nil_append array.bytes).symm spells.last inside
  rw [List.nil_append] at pushed bytes
  cases behind with
  | nil =>
      have length := next.length_eq
      rw [bytes, List.append_nil] at length
      omega
  | cons byte behind =>
      obtain ⟨last, ended, bytes'⟩ := @store_behind _ next 0 _ _ _ bytes
      obtain ⟨_, again, set⟩ := @store_ok _ text.length next 0 (by omega)
      cases ended.symm.trans again
      exact ⟨next, last, pushed, ended, Spells.of_split bytes' string (Spells.last_store lastZero room set)⟩

end CharArray

end AutismOS.Library
