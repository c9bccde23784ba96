import AutismOS.Input.Keyboard

namespace AutismOS.Input

/-! # What the keyboard remembers

The handler gets one byte at a time and keeps five flags.  They stand for what is true of all the bytes
that came: which keys are held, how often Caps Lock was pressed, and whether the last byte was a prefix.
-/

/-- The bytes that belong to no extended key.  A second prefix does not end an extended key. -/
def plainBytes : Bool → List UInt8 → List UInt8
  | _, [] => []
  | extended, byte :: rest =>
      if byte = extendedPrefix then plainBytes true rest
      else if extended then plainBytes false rest
      else byte :: plainBytes false rest

/-- The keys that the driver takes as held between press and release -/
inductive Modifier where
  | shift
  | alt
  | ctrl

def Modifier.code : Modifier → UInt8
  | shift => scanCodeKeyLeftShift
  | alt => scanCodeKeyAlt
  | ctrl => scanCodeKeyCtrl

def Keyboard.pressed (keyboard : Keyboard) : Modifier → Bool
  | .shift => keyboard.shiftPressed
  | .alt => keyboard.altPressed
  | .ctrl => keyboard.ctrlPressed

/-- The key was pressed, and was not released since. -/
def Held (code : UInt8) (bytes : List UInt8) : Prop :=
  ∃ front back, bytes = front ++ code :: back ∧ code ||| 0x80 ∉ back

variable {code byte : UInt8} {bytes : List UInt8} {extended : Bool}

theorem not_held_nil : ¬ Held code [] := by
  rintro ⟨front, back, split, -⟩
  exact List.append_ne_nil_of_right_ne_nil front (List.cons_ne_nil _ _) split.symm

theorem held_press : Held code (bytes ++ [code]) := ⟨bytes, [], rfl, List.not_mem_nil⟩

/-- A last byte that is not the press leaves the press where it was. -/
theorem held_concat (other : byte ≠ code) : Held code (bytes ++ [byte]) ↔ Held code bytes ∧ byte ≠ code ||| 0x80 := by
  constructor
  · rintro ⟨front, back, split, kept⟩
    obtain rfl | ⟨rest, last, rfl⟩ := List.eq_nil_or_concat back
    · exact absurd (List.singleton_inj.mp (List.append_inj' split rfl).2) other
    · have whole : bytes ++ [byte] = (front ++ code :: rest) ++ [last] := by rw [split]; simp
      obtain ⟨rfl, isLast⟩ := List.append_inj' whole rfl
      obtain rfl := List.singleton_inj.mp isLast
      rw [List.concat_eq_append, List.mem_append, List.mem_singleton, not_or] at kept
      exact ⟨⟨front, rest, rfl, kept.1⟩, fun same => kept.2 same.symm⟩
  · rintro ⟨⟨front, back, rfl, kept⟩, notRelease⟩
    refine ⟨front, back ++ [byte], by simp, ?_⟩
    rw [List.mem_append, List.mem_singleton, not_or]
    exact ⟨kept, notRelease.symm⟩

/-- Whether the bytes end inside of an extended key -/
def endsExtended (extended : Bool) (bytes : List UInt8) : Bool := (bytes.getLast?.map (· == extendedPrefix)).getD extended

theorem plainBytes_concat :
    plainBytes extended (bytes ++ [byte]) = plainBytes extended bytes ++
      if byte = extendedPrefix ∨ endsExtended extended bytes then [] else [byte] := by
  induction bytes generalizing extended with
  | nil =>
      cases extended with
      | false | true => by_cases isPrefix : byte = extendedPrefix <;> simp [plainBytes, endsExtended, isPrefix]
  | cons first rest ih =>
      have ends (now : Bool) (same : (first == extendedPrefix) = now) :
          endsExtended extended (first :: rest) = endsExtended now rest := by
        cases rest with
        | nil => simpa [endsExtended] using same
        | cons second rest =>
            have isLast := List.getLast?_eq_getLast_of_ne_nil (List.cons_ne_nil second rest)
            rw [endsExtended, endsExtended, List.getLast?_cons_cons, isLast]
            rfl
      rw [List.cons_append, plainBytes, plainBytes]
      by_cases isPrefix : first = extendedPrefix
      · rw [if_pos isPrefix, if_pos isPrefix, ih, ends true (by simpa using isPrefix)]
      · rw [if_neg isPrefix, if_neg isPrefix, ih, ends false (by simpa using isPrefix)]
        by_cases inside : extended = true
        · rw [if_pos inside, if_pos inside]
        · rw [if_neg inside, if_neg inside, List.cons_append]

namespace Keyboard

variable {keyboard : Keyboard} {modifier : Modifier} {desktopMode : Bool}

theorem release_pressed : (keyboard.release byte).pressed modifier =
    if byte = modifier.code ||| 0x80 then false else keyboard.pressed modifier := by
  by_cases shift : byte = scanCodeKeyLeftShift ||| 0x80
  · subst shift
    cases modifier <;> rfl
  by_cases alt : byte = scanCodeKeyAlt ||| 0x80
  · subst alt
    cases modifier <;> rfl
  by_cases ctrl : byte = scanCodeKeyCtrl ||| 0x80
  · subst ctrl
    cases modifier <;> rfl
  rw [release, if_neg shift, if_neg alt, if_neg ctrl]
  cases modifier with
  | shift => exact (if_neg shift).symm
  | alt => exact (if_neg alt).symm
  | ctrl => exact (if_neg ctrl).symm

theorem release_kept :
    (keyboard.release byte).capsLock = keyboard.capsLock ∧ (keyboard.release byte).extended = keyboard.extended := by
  rw [release]
  split
  · exact ⟨rfl, rfl⟩
  · split
    · exact ⟨rfl, rfl⟩
    · split
      · exact ⟨rfl, rfl⟩
      · exact ⟨rfl, rfl⟩

/-- A key that is no modifier changes only the last character. -/
theorem press_character (noCaps : byte ≠ scanCodeKeyCapsLock) (noModifier : ∀ modifier : Modifier, byte ≠ modifier.code) :
    ∃ ch, (keyboard.press desktopMode byte).1 = { keyboard with ch } := by
  have noShift : byte ≠ scanCodeKeyLeftShift := noModifier .shift
  have noAlt : byte ≠ scanCodeKeyAlt := noModifier .alt
  have noCtrl : byte ≠ scanCodeKeyCtrl := noModifier .ctrl
  rw [press, if_neg noCaps, if_neg noShift, if_neg noAlt, if_neg noCtrl]
  split
  · exact ⟨keyboard.ch, rfl⟩
  · exact ⟨_, rfl⟩

theorem press_flags : (keyboard.press desktopMode byte).1.extended = keyboard.extended ∧
    (keyboard.press desktopMode byte).1.capsLock =
      (if byte = scanCodeKeyCapsLock then !keyboard.capsLock else keyboard.capsLock) ∧
    ∀ modifier : Modifier, (keyboard.press desktopMode byte).1.pressed modifier =
      if byte = modifier.code then true else keyboard.pressed modifier := by
  by_cases caps : byte = scanCodeKeyCapsLock
  · subst caps
    refine ⟨rfl, rfl, ?_⟩
    intro modifier
    cases modifier <;> rfl
  by_cases isModifier : ∃ other : Modifier, byte = other.code
  · obtain ⟨other, rfl⟩ := isModifier
    refine ⟨by cases other <;> rfl, by cases other <;> rfl, ?_⟩
    intro modifier
    cases other <;> cases modifier <;> rfl
  · rw [not_exists] at isModifier
    obtain ⟨ch, same⟩ := @press_character byte keyboard desktopMode caps isModifier
    rw [same]
    refine ⟨rfl, (if_neg caps).symm, ?_⟩
    intro modifier
    rw [if_neg (isModifier modifier)]
    cases modifier <;> rfl

/-- What a byte outside of extended keys does to the flags: pressing sets, releasing clears, and Caps Lock turns over. -/
structure Plain (before : Keyboard) (byte : UInt8) (after : Keyboard) : Prop where
  extended : after.extended = false
  capsLock : after.capsLock = if byte = scanCodeKeyCapsLock then !before.capsLock else before.capsLock
  pressed : ∀ modifier : Modifier, after.pressed modifier =
    if byte = modifier.code then true else if byte = modifier.code ||| 0x80 then false else before.pressed modifier

theorem keyboardHandler_plain (noPrefix : byte ≠ extendedPrefix) (outside : keyboard.extended = false) :
    Plain keyboard byte (keyboard.keyboardHandler desktopMode byte).1 := by
  have isPress (modifier : Modifier) : modifier.code &&& 0x80 = 0 := by cases modifier <;> decide
  have isRelease (modifier : Modifier) : (modifier.code ||| 0x80) &&& 0x80 ≠ 0 := by cases modifier <;> decide
  rw [keyboardHandler, if_neg noPrefix]
  dsimp only
  rw [outside, if_neg Bool.false_ne_true]
  by_cases released : byte &&& 0x80 ≠ 0
  · rw [if_pos released]
    have kept := @release_kept byte { keyboard with extended := false, ch := 0 }
    refine ⟨kept.2, ?_, ?_⟩
    · rw [if_neg fun same => released (by rw [same]; decide)]
      exact kept.1
    · intro modifier
      have noPress : byte ≠ modifier.code := by
        rintro rfl
        exact released (isPress modifier)
      rw [if_neg noPress]
      refine release_pressed.trans ?_
      cases modifier <;> rfl
  · rw [if_neg released]
    obtain ⟨extended, capsLock, pressed⟩ := @press_flags byte { keyboard with extended := false, ch := 0 } desktopMode
    refine ⟨extended, capsLock, ?_⟩
    intro modifier
    have noRelease : byte ≠ modifier.code ||| 0x80 := by
      rintro rfl
      exact released (isRelease modifier)
    rw [if_neg noRelease]
    refine (pressed modifier).trans ?_
    cases modifier <;> rfl

/-- Bytes of extended keys leave all flags but one. -/
theorem keyboardHandler_extended (inside : byte = extendedPrefix ∨ keyboard.extended = true) :
    ∃ ch, (keyboard.keyboardHandler desktopMode byte).1 = { keyboard with extended := byte == extendedPrefix, ch } := by
  by_cases isPrefix : byte = extendedPrefix
  · rw [keyboardHandler, if_pos isPrefix, isPrefix]
    exact ⟨0, rfl⟩
  · have notPrefix : (byte == extendedPrefix) = false := by simpa using isPrefix
    rw [keyboardHandler, if_neg isPrefix]
    dsimp only
    rw [inside.resolve_left isPrefix, if_pos rfl, extendedKey, notPrefix]
    split
    · exact ⟨_, rfl⟩
    · exact ⟨_, rfl⟩

/-- The flags say what is true of the bytes that came since power on. -/
structure Follows (keyboard : Keyboard) (bytes : List UInt8) : Prop where
  extended : keyboard.extended = endsExtended false bytes
  capsLock : keyboard.capsLock = decide ((plainBytes false bytes).count scanCodeKeyCapsLock % 2 = 1)
  pressed : ∀ modifier : Modifier, keyboard.pressed modifier = true ↔ Held modifier.code (plainBytes false bytes)

theorem follows_powerOn : Follows powerOn [] where
  extended := rfl
  capsLock := rfl
  pressed := by
    intro modifier
    refine ⟨?_, fun held => absurd held not_held_nil⟩
    intro isPressed
    cases modifier <;> cases isPressed

theorem Follows.keyboardHandler (follows : Follows keyboard bytes) :
    Follows (keyboard.keyboardHandler desktopMode byte).1 (bytes ++ [byte]) := by
  have ends : endsExtended false (bytes ++ [byte]) = (byte == extendedPrefix) := by
    rw [endsExtended, List.getLast?_concat]
    rfl
  by_cases inside : byte = extendedPrefix ∨ keyboard.extended = true
  · obtain ⟨ch, same⟩ := @keyboardHandler_extended byte keyboard desktopMode inside
    have plain : plainBytes false (bytes ++ [byte]) = plainBytes false bytes := by
      rw [plainBytes_concat, ← follows.extended, if_pos inside, List.append_nil]
    rw [same]
    refine ⟨ends.symm, ?_, ?_⟩
    · rw [plain]
      exact follows.capsLock
    · intro modifier
      rw [plain, ← follows.pressed]
      cases modifier <;> rfl
  · have noPrefix : byte ≠ extendedPrefix := fun same => inside (.inl same)
    have outside : keyboard.extended = false := Bool.eq_false_iff.mpr fun same => inside (.inr same)
    have plain : plainBytes false (bytes ++ [byte]) = plainBytes false bytes ++ [byte] := by
      rw [plainBytes_concat, ← follows.extended, if_neg inside]
    obtain ⟨extended, capsLock, pressed⟩ := @keyboardHandler_plain byte keyboard desktopMode noPrefix outside
    refine ⟨?_, ?_, ?_⟩
    · rw [extended, ends, beq_eq_false_iff_ne.mpr noPrefix]
    · rw [capsLock, plain, List.count_append, List.count_singleton, follows.capsLock]
      by_cases caps : byte = scanCodeKeyCapsLock
      · rw [if_pos caps, beq_iff_eq.mpr caps, if_pos rfl, ← decide_not, decide_eq_decide]
        omega
      · rw [if_neg caps, beq_eq_false_iff_ne.mpr caps]
        rfl
    · intro modifier
      rw [pressed, plain]
      by_cases isPress : byte = modifier.code
      · rw [if_pos isPress, isPress]
        exact iff_of_true rfl held_press
      · rw [if_neg isPress, held_concat isPress, ← follows.pressed]
        by_cases isRelease : byte = modifier.code ||| 0x80
        · simp [isRelease]
        · simp [isRelease]

theorem Follows.handleAll {input : List (Bool × UInt8)} (follows : Follows keyboard bytes) :
    Follows (keyboard.handleAll input).1 (bytes ++ input.map Prod.snd) := by
  induction input generalizing keyboard bytes with
  | nil =>
      rw [List.map_nil, List.append_nil]
      exact follows
  | cons first rest ih =>
      have next := @ih (bytes ++ [first.2]) _ (@follows.keyboardHandler first.2 _ _ first.1)
      rw [List.append_assoc] at next
      exact next

/-- After any bytes the flags are those of the whole history. -/
theorem powerOn_follows (input : List (Bool × UInt8)) : Follows (powerOn.handleAll input).1 (input.map Prod.snd) :=
  follows_powerOn.handleAll

end Keyboard

end AutismOS.Input
