import AutismOS.Library.Strings

namespace AutismOS.Library

/-! Scanning a string of which a zero is the last byte.

The cursor is what is left of the string, and an array is the bytes that have been written to its front.
To read behind either, to write behind an array and to go on without end are faults.
-/

inductive Fault where
  | read
  | write
  | fuel
deriving DecidableEq

namespace Scanning

variable {stops : UInt8 → Bool} {limit capacity : Nat} {char byte : UInt8}
  {array text rest first second source dest : List UInt8}

/-- `*p` -/
def peek : List UInt8 → Except Fault UInt8
  | [] => .error .read
  | char :: _ => .ok char

/-- A byte is written behind those that are in the array. -/
def push (capacity : Nat) (array : List UInt8) (byte : UInt8) : Except Fault (List UInt8) :=
  if array.length < capacity then .ok (array ++ [byte]) else .error .write

/-- Characters are copied to an array until one stops the loop or `limit` bytes are there. -/
def copyUntil (stops : UInt8 → Bool) (limit capacity : Nat) (array : List UInt8) :
    List UInt8 → Except Fault (List UInt8 × List UInt8)
  | [] => .error .read
  | char :: rest =>
      if stops char = false ∧ array.length < limit then do
        let longer ← push capacity array char
        copyUntil stops limit capacity longer rest
      else .ok (array, char :: rest)

/-- Characters are passed over until one stops the loop. -/
def skipUntil (stops : UInt8 → Bool) : List UInt8 → Except Fault (List UInt8)
  | [] => .error .read
  | char :: rest => if stops char then .ok (char :: rest) else skipUntil stops rest

def strcmp : List UInt8 → List UInt8 → Except Fault Int
  | left :: first, right :: second => if left = right then if right = 0 then .ok 0 else strcmp first second else .ok 1
  | _, _ => .error .read

/-- The array at `dest` after `strncpy`. -/
def strncpy (dest source : List UInt8) (count : Nat) : Except Fault (List UInt8) :=
  if count ≤ dest.length then
    if count ≤ source.length ∨ 0 ∈ source then .ok (Library.strncpy source count ++ dest.drop count) else .error .read
  else .error .write

/-- What a loop copies of a text. -/
def copied (stops : UInt8 → Bool) (limit : Nat) (text : List UInt8) : List UInt8 :=
  (text.takeWhile fun char => !stops char).take limit

theorem push_room (room : array.length < capacity) : push capacity array byte = .ok (array ++ [byte]) := if_pos room

theorem copied_cons : copied stops (limit + 1) (char :: text) =
    if stops char then [] else char :: copied stops limit text := by
  rw [copied, List.takeWhile_cons]
  cases stops char with
  | true => rfl
  | false => rfl

theorem copied_zero : copied stops 0 text = [] := List.take_zero

theorem length_copied : (copied stops limit text).length ≤ limit := List.length_take_le _ _

/-- What was copied does not stop the loop. -/
theorem stops_copied (member : char ∈ copied stops limit text) : stops char = false := by
  have passed := @List.all_takeWhile _ (fun char => !stops char) text
  have passes := List.all_eq_true.mp passed char (List.mem_of_mem_take member)
  exact (Bool.not_eq_true' _).mp passes

/-- A text that stops the loop nowhere, and is not too long, is copied as a whole. -/
theorem copied_append (plain : ∀ char ∈ text, stops char = false) (ends : stops char = true)
    (short : text.length ≤ limit) : copied stops limit (text ++ char :: rest) = text := by
  have passes (other : UInt8) (member : other ∈ text) : (!stops other) = true := by
    rw [plain other member]
    rfl
  rw [copied, List.takeWhile_append_of_pos passes, List.takeWhile_cons_of_neg (by rw [ends]; exact Bool.false_ne_true),
    List.append_nil, List.take_of_length_le short]

/-- The zero stops the loop, so that it stays within the string, and the limit keeps it within the array. -/
theorem copyUntil_eq (ends : stops 0 = true) (fits : limit ≤ capacity) (room : array.length ≤ limit) :
    copyUntil stops limit capacity array (text ++ [0]) = .ok (array ++ copied stops (limit - array.length) text,
      text.drop (copied stops (limit - array.length) text).length ++ [0]) := by
  induction text generalizing array with
  | nil =>
      have stopped : ¬ (stops 0 = false ∧ array.length < limit) := by
        rw [ends]
        exact fun both => Bool.noConfusion both.1
      rw [List.nil_append, copyUntil, if_neg stopped, copied, List.takeWhile_nil, List.take_nil, List.append_nil]
      rfl
  | cons char text ih =>
      rw [List.cons_append, copyUntil]
      by_cases goes : stops char = false ∧ array.length < limit
      · obtain ⟨more, isMore⟩ := Nat.exists_eq_add_of_lt goes.2
        have longer : (array ++ [char]).length = array.length + 1 := List.length_append
        have left : limit - array.length = more + 1 := by omega
        have later : limit - (array ++ [char]).length = more := by omega
        rw [if_pos goes, push_room (Nat.lt_of_lt_of_le goes.2 fits)]
        change copyUntil stops limit capacity (array ++ [char]) (text ++ [0]) = _
        rw [ih (by omega), later, left, copied_cons, goes.1, if_neg Bool.false_ne_true, List.append_assoc,
          List.singleton_append, List.length_cons, List.drop_succ_cons]
      · have nothing : copied stops (limit - array.length) (char :: text) = [] := by
          by_cases full : array.length < limit
          · obtain ⟨more, isMore⟩ := Nat.exists_eq_add_of_lt full
            have stopped : stops char = true := (Bool.not_eq_false _).mp fun passes => goes ⟨passes, full⟩
            have left : limit - array.length = more + 1 := by omega
            rw [left, copied_cons, if_pos stopped]
          · rw [Nat.sub_eq_zero_of_le (Nat.le_of_not_lt full), copied_zero]
        rw [if_neg goes, nothing, List.append_nil]
        rfl

theorem skipUntil_eq (ends : stops 0 = true) :
    skipUntil stops (text ++ [0]) = .ok (text.dropWhile (fun char => !stops char) ++ [0]) := by
  induction text with
  | nil =>
      rw [List.nil_append, skipUntil, if_pos ends]
      rfl
  | cons char text ih =>
      rw [List.cons_append, skipUntil, List.dropWhile_cons]
      cases stops char with
      | true => rfl
      | false => exact ih

/-- Strings compare as equal exactly if they have the same characters. -/
theorem strcmp_eq (firstEnds : 0 ∈ first) (secondEnds : 0 ∈ second) :
    strcmp first second = .ok (if cString first = cString second then 0 else 1) := by
  induction first generalizing second with
  | nil => cases firstEnds
  | cons left first ih =>
      cases second with
      | nil => cases secondEnds
      | cons right second =>
          rw [strcmp]
          by_cases same : left = right
          · rw [if_pos same, same, cString_head (right :: first), cString_head (right :: second), List.headD_cons,
              List.headD_cons, List.tail_cons, List.tail_cons]
            by_cases ends : right = 0
            · rw [if_pos ends, if_pos ends, if_pos ends, if_pos rfl]
            · have firstLater : 0 ∈ first :=
                (List.mem_cons.mp firstEnds).resolve_left fun zero => ends (same ▸ zero.symm)
              have secondLater : 0 ∈ second :=
                (List.mem_cons.mp secondEnds).resolve_left fun zero => ends zero.symm
              rw [if_neg ends, if_neg ends, if_neg ends, ih firstLater secondLater]
              refine congrArg Except.ok (if_congr ?_ rfl rfl)
              exact (List.cons_inj_right right).symm
          · have different : cString (left :: first) ≠ cString (right :: second) := by
              intro equal
              have heads := congrArg (fun chars => chars.headD 0) equal
              rw [headD_cString, headD_cString] at heads
              exact same heads
            rw [if_neg same, if_neg different]

theorem strncpy_eq (room : limit ≤ dest.length) (ends : 0 ∈ source) :
    strncpy dest source limit = .ok (Library.strncpy source limit ++ dest.drop limit) := by
  rw [strncpy, if_pos room, if_pos (.inr ends)]

end Scanning

end AutismOS.Library
