import Mathlib.Data.List.Basic
import AutismOS.Network.Stack

namespace AutismOS.Network

open AutismOS.Library

/-! # Dotted quads

`is_valid_ip` counts dots in an `int`, which does not overflow in strings with fewer than 2^31 of them.
-/

def dotChar : UInt8 := 0x2E

/-- One to three digits with a value of at most 255. -/
structure IsGroup (text : List UInt8) : Prop where
  nonempty : 0 < text.length
  short : text.length ≤ 3
  digits : ∀ char ∈ text, isDigit char = true
  small : decimalValue text ≤ 255

/-- Each group with the dot before it. -/
def behind (groups : List (List UInt8)) : List UInt8 := groups.flatMap (dotChar :: ·)

/-- Four groups, separated by single dots. -/
structure Quad where
  first : List UInt8
  rest : List (List UInt8)
  four : rest.length = 3
  isGroup : ∀ group ∈ first :: rest, IsGroup group

namespace Quad

def groups (quad : Quad) : List (List UInt8) := quad.first :: quad.rest

def text (quad : Quad) : List UInt8 := quad.first ++ behind quad.rest

end Quad

variable {dots digits value : Nat} {char : UInt8} {text front rest : List UInt8} {groups : List (List UInt8)}
  {octets : List Nat}

/-- What follows after some digits and dots makes a quad of them: more digits, and the remaining groups. -/
structure Completes (dots digits value : Nat) (front : List UInt8) (groups : List (List UInt8)) : Prop where
  nonempty : 0 < digits + front.length
  short : digits + front.length ≤ 3
  digits : ∀ char ∈ front, isDigit char = true
  small : decimalFrom value front ≤ 255
  isGroup : ∀ group ∈ groups, IsGroup group
  four : dots + groups.length = 3

theorem le_decimalFrom : value ≤ decimalFrom value front := by
  induction front generalizing value with
  | nil => exact Nat.le_refl _
  | cons char rest ih =>
      have grown : value ≤ value * 10 + digitValue char := by omega
      exact Nat.le_trans grown ih

theorem behind_cons {group : List UInt8} : behind (group :: groups) = dotChar :: (group ++ behind groups) :=
  List.flatMap_cons

theorem isDigit_dotChar : isDigit dotChar = false := by decide

/-- After a dot, the group that follows is next. -/
theorem completes_zero_iff {group : List UInt8} :
    Completes (dots + 1) 0 0 group groups ↔
      IsGroup group ∧ (∀ other ∈ groups, IsGroup other) ∧ dots + 1 + groups.length = 3 := by
  constructor
  · intro completes
    have nonempty := completes.nonempty
    have short := completes.short
    rw [Nat.zero_add] at nonempty short
    exact ⟨⟨nonempty, short, completes.digits, completes.small⟩, completes.isGroup, completes.four⟩
  · rintro ⟨isGroup, others, four⟩
    refine ⟨?_, ?_, isGroup.digits, isGroup.small, others, four⟩
    · rw [Nat.zero_add]
      exact isGroup.nonempty
    · rw [Nat.zero_add]
      exact isGroup.short

/-- A digit belongs to the group that is not complete. -/
theorem completes_digit_iff (digit : isDigit char = true) :
    (∃ front groups, char :: rest = front ++ behind groups ∧ Completes dots digits value front groups) ↔
      ∃ front groups, rest = front ++ behind groups ∧
        Completes dots (digits + 1) (value * 10 + digitValue char) front groups := by
  have length (front : List UInt8) : digits + (char :: front).length = digits + 1 + front.length := by
    rw [List.length_cons]
    omega
  constructor
  · rintro ⟨front, groups, split, completes⟩
    cases front with
    | nil =>
        cases groups with
        | nil => cases split
        | cons group groups =>
            rw [List.nil_append, behind_cons] at split
            rw [(List.cons.inj split).1, isDigit_dotChar] at digit
            cases digit
    | cons first front =>
        obtain ⟨rfl, later⟩ := List.cons.inj split
        obtain ⟨nonempty, short, digits, small, isGroup, four⟩ := completes
        rw [length] at nonempty short
        exact ⟨front, groups, later, nonempty, short, fun other member => digits other (List.mem_cons_of_mem _ member),
          small, isGroup, four⟩
  · rintro ⟨front, groups, rfl, nonempty, short, digits, small, isGroup, four⟩
    rw [← length] at nonempty short
    exact ⟨char :: front, groups, rfl, nonempty, short, List.forall_mem_cons.mpr ⟨digit, digits⟩, small, isGroup, four⟩

/-- What is no digit is a dot behind a group. -/
theorem completes_dot_iff (other : isDigit char = false) (short : digits ≤ 3) (small : value ≤ 255) :
    (∃ front groups, char :: rest = front ++ behind groups ∧ Completes dots digits value front groups) ↔
      char = dotChar ∧ 0 < digits ∧
        ∃ front groups, rest = front ++ behind groups ∧ Completes (dots + 1) 0 0 front groups := by
  constructor
  · rintro ⟨front, groups, split, completes⟩
    cases front with
    | cons first front =>
        rw [(List.cons.inj split).1, completes.digits first List.mem_cons_self] at other
        cases other
    | nil =>
        cases groups with
        | nil => cases split
        | cons group groups =>
            rw [List.nil_append, behind_cons] at split
            obtain ⟨isDot, later⟩ := List.cons.inj split
            obtain ⟨isGroup, others⟩ := List.forall_mem_cons.mp completes.isGroup
            have four := completes.four
            rw [List.length_cons] at four
            exact ⟨isDot, completes.nonempty, group, groups, later, completes_zero_iff.mpr ⟨isGroup, others, by omega⟩⟩
  · rintro ⟨rfl, nonempty, group, groups, rfl, completes⟩
    obtain ⟨isGroup, others, four⟩ := completes_zero_iff.mp completes
    refine ⟨[], group :: groups, behind_cons.symm, nonempty, short, nofun, small,
      List.forall_mem_cons.mpr ⟨isGroup, others⟩, ?_⟩
    rw [List.length_cons]
    omega

/-- The loop accepts exactly what completes the digits and dots before it. -/
theorem isValidIpFrom_iff (short : digits ≤ 3) (small : value ≤ 255) : isValidIpFrom dots digits value text = true ↔
    ∃ front groups, text = front ++ behind groups ∧ Completes dots digits value front groups := by
  induction text generalizing dots digits value with
  | nil =>
      rw [isValidIpFrom, Bool.and_eq_true, decide_eq_true_eq, decide_eq_true_eq]
      constructor
      · rintro ⟨four, nonempty⟩
        exact ⟨[], [], rfl, nonempty, short, nofun, small, nofun, four⟩
      · rintro ⟨front, groups, split, completes⟩
        obtain ⟨rfl, empty⟩ := List.append_eq_nil_iff.mp split.symm
        cases groups with
        | nil => exact ⟨completes.four, completes.nonempty⟩
        | cons group groups =>
            rw [behind_cons] at empty
            cases empty
  | cons char rest ih =>
      rw [isValidIpFrom]
      cases digit : isDigit char with
      | true =>
          rw [if_pos rfl, completes_digit_iff digit]
          by_cases full : 3 ≤ digits
          · rw [if_pos full]
            refine iff_of_false Bool.false_ne_true ?_
            rintro ⟨front, groups, _, completes⟩
            have short := completes.short
            omega
          rw [if_neg full]
          by_cases large : 255 < value * 10 + digitValue char
          · rw [if_pos large]
            refine iff_of_false Bool.false_ne_true ?_
            rintro ⟨front, groups, _, completes⟩
            exact absurd (Nat.le_trans le_decimalFrom completes.small) (Nat.not_le.mpr large)
          · rw [if_neg large]
            exact ih (Nat.not_le.mp full) (Nat.not_lt.mp large)
      | false =>
          rw [if_neg Bool.false_ne_true, completes_dot_iff digit short small]
          by_cases isDot : char = 0x2E
          · rw [if_pos isDot]
            by_cases none : digits = 0
            · rw [if_pos none]
              exact iff_of_false Bool.false_ne_true fun contrary => absurd none (Nat.ne_of_gt contrary.2.1)
            · rw [if_neg none, ih (Nat.zero_le _) (Nat.zero_le _)]
              exact ⟨fun later => ⟨isDot, Nat.pos_of_ne_zero none, later⟩, fun all => all.2.2⟩
          · rw [if_neg isDot]
            exact iff_of_false Bool.false_ne_true fun contrary => isDot contrary.1

theorem isValidIp_iff {ip : List UInt8} : isValidIp ip = true ↔ ∃ quad : Quad, quad.text = ip := by
  rw [isValidIp, isValidIpFrom_iff (Nat.zero_le _) (Nat.zero_le _)]
  constructor
  · rintro ⟨front, groups, split, ⟨nonempty, short, digits, small, isGroup, four⟩⟩
    rw [Nat.zero_add] at nonempty short four
    exact ⟨⟨front, groups, four, List.forall_mem_cons.mpr ⟨⟨nonempty, short, digits, small⟩, isGroup⟩⟩, split.symm⟩
  · rintro ⟨quad, rfl⟩
    obtain ⟨isGroup, others⟩ := List.forall_mem_cons.mp quad.isGroup
    have completes : Completes 0 0 0 quad.first quad.rest := by
      refine ⟨?_, ?_, isGroup.digits, isGroup.small, others, ?_⟩
      · rw [Nat.zero_add]
        exact isGroup.nonempty
      · rw [Nat.zero_add]
        exact isGroup.short
      · rw [Nat.zero_add]
        exact quad.four
    exact ⟨quad.first, quad.rest, rfl, completes⟩

/-- Digits go to the value of their group. -/
theorem parseOctets_digits (room : octets.length < 4) (decimal : ∀ char ∈ front, isDigit char = true) :
    parseOctets octets value (front ++ rest) = parseOctets octets (decimalFrom value front) rest := by
  induction front generalizing value with
  | nil => rfl
  | cons char front ih =>
      rw [List.forall_mem_cons] at decimal
      rw [List.cons_append, parseOctets, if_neg (Nat.not_le.mpr room), if_pos decimal.1, ih decimal.2, decimalFrom_cons]

theorem parseOctets_dot (room : octets.length < 4) :
    parseOctets octets value (dotChar :: rest) = parseOctets (octets ++ [value % 2 ^ 8]) 0 rest := by
  rw [parseOctets, if_neg (Nat.not_le.mpr room), isDigit_dotChar]
  rfl

/-- Each group is the octet at its place, and the last one is what remains. -/
theorem parseOctets_behind (room : octets.length + groups.length < 4) (small : value ≤ 255)
    (isGroup : ∀ group ∈ groups, IsGroup group) :
    parseOctets octets value (behind groups) =
      (octets ++ (value :: groups.map decimalValue).dropLast,
        (value :: groups.map decimalValue).getLast (List.cons_ne_nil _ _)) := by
  induction groups generalizing octets value with
  | nil => exact congrArg (·, value) (List.append_nil octets).symm
  | cons group groups ih =>
      rw [List.forall_mem_cons] at isGroup
      rw [List.length_cons] at room
      have more : (octets ++ [value % 2 ^ 8]).length = octets.length + 1 := List.length_append
      have octet : value % 2 ^ 8 = value := Nat.mod_eq_of_lt (by omega)
      have digits : parseOctets (octets ++ [value % 2 ^ 8]) 0 (group ++ behind groups) =
          parseOctets (octets ++ [value % 2 ^ 8]) (decimalValue group) (behind groups) :=
        parseOctets_digits (by omega) isGroup.1.digits
      rw [behind_cons, parseOctets_dot (by omega), digits, ih (by omega) isGroup.1.small isGroup.2, octet,
        List.append_assoc]
      rfl

theorem address_lt {first second third fourth : Nat} (small : ∀ part ∈ [first, second, third, fourth], part ≤ 255) :
    Host.address first second third fourth < 2 ^ 32 := by
  simp only [List.forall_mem_cons] at small
  unfold Host.address
  omega

/-- The word of an address has its parts as bytes. -/
theorem address_byte {first second third fourth : Nat} (small : ∀ part ∈ [first, second, third, fourth], part ≤ 255)
    {place part : Nat} (found : [first, second, third, fourth][place]? = some part) :
    Host.address first second third fourth / 2 ^ (8 * place) % 2 ^ 8 = part := by
  simp only [List.forall_mem_cons] at small
  unfold Host.address
  match place with
  | 0 | 1 | 2 | 3 =>
      cases found
      omega
  | place + 4 => cases found

/-- `is_valid_ip` accepts exactly the dotted quads, and `parse_ip_string` returns the word with their groups as bytes. -/
theorem parseIpString_quads (ip : List UInt8) :
    (isValidIp ip = true ↔ ∃ quad : Quad, quad.text = ip) ∧
      ∀ quad : Quad, quad.text = ip → parseIpString ip < 2 ^ 32 ∧
        ∀ place group, quad.groups[place]? = some group →
          parseIpString ip / 2 ^ (8 * place) % 2 ^ 8 = decimalValue group := by
  refine ⟨isValidIp_iff, ?_⟩
  rintro ⟨first, rest, four, isGroup⟩ rfl
  obtain ⟨second, third, fourth, rfl⟩ := List.length_eq_three.mp four
  simp only [List.forall_mem_cons] at isGroup
  obtain ⟨isFirst, isSecond, isThird, isFourth, _⟩ := isGroup
  have split : parseOctets [] 0 (first ++ behind [second, third, fourth]) =
      ([decimalValue first, decimalValue second, decimalValue third], decimalValue fourth) := by
    have room : ([] : List Nat).length < 4 := by decide
    rw [parseOctets_digits room isFirst.digits]
    refine parseOctets_behind (Nat.lt_succ_self 3) isFirst.small ?_
    simp only [List.forall_mem_cons]
    exact ⟨isSecond, isThird, isFourth, nofun⟩
  have last : decimalValue fourth % 2 ^ 8 = decimalValue fourth := Nat.mod_eq_of_lt (Nat.lt_succ_of_le isFourth.small)
  have word : parseIpString (first ++ behind [second, third, fourth]) =
      Host.address (decimalValue first) (decimalValue second) (decimalValue third) (decimalValue fourth) := by
    rw [parseIpString, split]
    exact congrArg (Host.address _ _ _) last
  have small : ∀ part ∈ [decimalValue first, decimalValue second, decimalValue third, decimalValue fourth],
      part ≤ 255 := by
    simp only [List.forall_mem_cons]
    exact ⟨isFirst.small, isSecond.small, isThird.small, isFourth.small, nofun⟩
  rw [show Quad.text _ = first ++ behind [second, third, fourth] from rfl, word]
  refine ⟨address_lt small, fun place group found => address_byte small ?_⟩
  have values : ([first, second, third, fourth].map decimalValue)[place]? =
      [first, second, third, fourth][place]?.map decimalValue := List.getElem?_map
  exact values.trans (congrArg (Option.map decimalValue) found)

end AutismOS.Network
