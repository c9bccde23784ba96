import AutismOS.Library.Bytes

namespace AutismOS.Library

/-! Strings that end at a zero byte; what is read behind a list of bytes is zero. -/

variable {memory : ByteMemory} {dest address other count : Nat} {bytes source first second : List UInt8} {byte : UInt8}

/-- The bytes before the first zero. -/
def cString (bytes : List UInt8) : List UInt8 := bytes.takeWhile (· ≠ 0)

/-- The bytes that `strncpy` writes: the string, and behind its end zeros. -/
def strncpy (source : List UInt8) : Nat → List UInt8
  | 0 => []
  | count + 1 => source.headD 0 :: strncpy (if source.headD 0 = 0 then [] else source.tail) count

/-- `strncmp`: the difference at the first place where the strings differ or end. -/
def strncmp (first second : List UInt8) : Nat → Int
  | 0 => 0
  | count + 1 =>
      if first.headD 0 ≠ second.headD 0 ∨ first.headD 0 = 0 ∨ second.headD 0 = 0 then
        (first.headD 0).toNat - (second.headD 0).toNat
      else strncmp first.tail second.tail count

/-- `strchr`: the place of the first such character. -/
def strchr (char : UInt8) : List UInt8 → Option Nat
  | [] => if char = 0 then some 0 else none
  | byte :: rest =>
      if byte = 0 then if char = 0 then some 0 else none
      else if byte = char then some 0
      else (strchr char rest).map (· + 1)

theorem cString_cons_eq_nil : cString (byte :: bytes) = [] ↔ byte = 0 := by
  by_cases zero : byte = 0
  · simp [cString, zero]
  · simp [cString, zero]

/-- A string is empty, or it has a first character. -/
theorem cString_head (source : List UInt8) : cString source = if source.headD 0 = 0 then [] else source.headD 0 :: cString source.tail := by
  cases source with
  | nil => rfl
  | cons byte rest =>
      by_cases zero : byte = 0
      · simp [cString, zero]
      · simp [cString, zero]

/-- The first character, or the zero at the end. -/
theorem headD_cString : (cString source).headD 0 = source.headD 0 := by
  rw [cString_head]
  split
  · next ends => exact ends.symm
  · rfl

@[simp] theorem length_strncpy : (strncpy source count).length = count := by
  induction count generalizing source with
  | zero => rfl
  | succ count ih => rw [strncpy, List.length_cons, ih]

theorem cString_strncpy : cString (strncpy source count) = (cString source).take count := by
  induction count generalizing source with
  | zero => rw [List.take_zero]; rfl
  | succ count ih =>
      rw [cString_head, strncpy, List.headD_cons, List.tail_cons, cString_head source]
      by_cases zero : source.headD 0 = 0
      · rw [if_pos zero, if_pos zero, List.take_nil]
      · rw [if_neg zero, if_neg zero, if_neg zero, ih, List.take_succ_cons]

/-- Strings compare as equal exactly if they have the same characters, as far as they are compared. -/
theorem strncmp_eq_zero : strncmp first second count = 0 ↔ (cString first).take count = (cString second).take count := by
  induction count generalizing first second with
  | zero => simp [strncmp]
  | succ count ih =>
      rw [strncmp, cString_head first, cString_head second]
      generalize first.headD 0 = left, second.headD 0 = right
      by_cases stops : left ≠ right ∨ left = 0 ∨ right = 0
      · have same : (left.toNat : Int) - right.toNat = 0 ↔ left = right := by
          rw [← UInt8.toNat_inj]
          omega
        rw [if_pos stops, same]
        by_cases leftEnds : left = 0
        · by_cases rightEnds : right = 0
          · simp [leftEnds, rightEnds]
          · simp [leftEnds, rightEnds, Ne.symm rightEnds]
        · by_cases rightEnds : right = 0
          · simp [leftEnds, rightEnds]
          · have different : left ≠ right := by simpa [leftEnds, rightEnds] using stops
            simp [leftEnds, rightEnds, different]
      · obtain ⟨same, leftRuns, rightRuns⟩ : left = right ∧ left ≠ 0 ∧ right ≠ 0 := by
          simpa [not_or] using stops
        subst same
        rw [if_neg stops, if_neg leftRuns, if_neg leftRuns, List.take_succ_cons, List.take_succ_cons, ih,
          List.cons.injEq]
        exact (and_iff_right rfl).symm

/-- A string without a zero byte is its own characters. -/
theorem cString_eq_self (string : 0 ∉ bytes) : cString bytes = bytes := by
  have nonzero (byte : UInt8) (member : byte ∈ bytes) : decide (byte ≠ 0) = true :=
    decide_eq_true fun zero => string (zero ▸ member)
  have whole : (bytes ++ []).takeWhile (· ≠ 0) = bytes ++ [].takeWhile (· ≠ 0) := List.takeWhile_append_of_pos nonzero
  rwa [List.append_nil, List.takeWhile_nil, List.append_nil] at whole

/-- What stands behind the zero does not matter. -/
theorem cString_append_zero : cString (first ++ 0 :: second) = cString first := by
  induction first with
  | nil => rfl
  | cons byte rest ih =>
      rw [List.cons_append, cString_head, cString_head (byte :: rest), List.headD_cons, List.headD_cons, List.tail_cons,
        List.tail_cons, ih]

/-- Where the character is not in front, it is looked for behind. -/
theorem strchr_append (absent : byte ∉ first) (string : 0 ∉ first) :
    strchr byte (first ++ second) = (strchr byte second).map (· + first.length) := by
  induction first with
  | nil =>
      cases found : strchr byte second with
      | none => rw [List.nil_append, found, Option.map_none]
      | some place => rw [List.nil_append, found, Option.map_some, List.length_nil, Nat.add_zero]
  | cons char rest ih =>
      rw [List.mem_cons, not_or] at absent string
      rw [List.cons_append, strchr, if_neg (Ne.symm string.1), if_neg (Ne.symm absent.1), ih absent.2 string.2,
        Option.map_map]
      rfl

theorem strchr_cons_self (nonzero : byte ≠ 0) : strchr byte (byte :: bytes) = some 0 := by
  rw [strchr, if_neg nonzero, if_pos rfl]

namespace ByteMemory

def strncpy (memory : ByteMemory) (dest : Nat) (source : List UInt8) (count : Nat) : ByteMemory :=
  memory.storeBytes dest (Library.strncpy source count)

theorem loadByte_strncpy_outside (fits : dest + count ≤ 2 ^ 32) (small : other < 2 ^ 32)
    (outside : other < dest ∨ dest + count ≤ other) :
    (memory.strncpy dest source count).loadByte other = memory.loadByte other := by
  apply loadByte_storeBytes_other
  intro offset inside
  rw [length_strncpy] at inside
  omega

theorem loadByte_strncpy_first (fits : dest + count ≤ 2 ^ 32) (room : 0 < count) :
    (memory.strncpy dest source count).loadByte dest = source.headD 0 := by
  cases count with
  | zero => cases room
  | succ count =>
      have holds : (memory.strncpy dest source (count + 1)).Holds dest (Library.strncpy source (count + 1)) := by
        apply storeBytes_holds
        rw [length_strncpy]
        omega
      exact (holds_cons.mp holds).1

theorem loadWord_strncpy_outside (fits : dest + count ≤ 2 ^ 32) (small : other + 4 ≤ 2 ^ 32)
    (outside : other + 4 ≤ dest ∨ dest + count ≤ other) :
    (memory.strncpy dest source count).loadWord other = memory.loadWord other := by
  rw [loadWord, loadWord, loadByte_strncpy_outside fits (by omega) (by omega),
    loadByte_strncpy_outside fits (by omega) (by omega), loadByte_strncpy_outside fits (by omega) (by omega),
    loadByte_strncpy_outside fits (by omega) (by omega)]

/-- The string that stands at an address in at most `count` bytes. -/
def loadString (memory : ByteMemory) (address count : Nat) : List UInt8 := cString (memory.loadBytes address count)

theorem loadString_eq_nil (room : 0 < count) : memory.loadString address count = [] ↔ memory.loadByte address = 0 := by
  cases count with
  | zero => cases room
  | succ count =>
      rw [loadString, loadBytes]
      exact cString_cons_eq_nil

end ByteMemory

end AutismOS.Library
