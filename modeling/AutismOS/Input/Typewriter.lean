import AutismOS.Input.KeyHistory

namespace AutismOS.Input

/-! # Typing

Which keys reach the desktop at all, and how a text is typed so that it reaches the desktop as it is.
-/

/-- The characters that have a key, alone or with Shift or Caps Lock -/
def Typable (char : UInt8) : Prop := 32 ≤ char ∧ char ≤ 126 ∨ char = 8 ∨ char = 9 ∨ char = 10 ∨ char = 27

/-- The characters, the keys that Ctrl makes of letters, and the special keys -/
def Deliverable (key : UInt8) : Prop :=
  Typable key ∨ key = 13 ∨ key = 14 ∨ key = 17 ∨ key = 18 ∨ key = 20 ∨ key = 23 ∨ 0x80 ≤ key ∧ key ≤ 0x88

instance (char : UInt8) : Decidable (Typable char) := inferInstanceAs (Decidable (_ ∨ _))

instance (key : UInt8) : Decidable (Deliverable key) := inferInstanceAs (Decidable (_ ∨ _))

def stroke (code : UInt8) : List UInt8 := [code, code ||| 0x80]

def codeOf (char : UInt8) : UInt8 := UInt8.ofNat (scanCodeChars.idxOf char)

/-- The character whose key gives this one with Shift. -/
def unshifted (char : UInt8) : Option UInt8 :=
  scanCodeChars.find? fun base => alternateChars base == char && base != char

/-- The bytes that type a character.  Letters have their case from Caps Lock, the others from Shift. -/
def strokes (capsLock : Bool) (char : UInt8) : List UInt8 :=
  if isalpha char then
    let letter := stroke (codeOf (lower char))
    if (upper char == char) = capsLock then letter
    else stroke scanCodeKeyCapsLock ++ letter ++ stroke scanCodeKeyCapsLock
  else
    match unshifted char with
    | some base => scanCodeKeyLeftShift :: stroke (codeOf base) ++ [scanCodeKeyLeftShift ||| 0x80]
    | none => stroke (codeOf char)

namespace Keyboard

variable {keyboard : Keyboard} {desktopMode : Bool} {byte key char : UInt8}

/-- No key is held. -/
def idle (capsLock : Bool) : Keyboard := { powerOn with capsLock }

/-- Bytes that come while the desktop is active. -/
def handleBytes (keyboard : Keyboard) (bytes : List UInt8) : Keyboard × List KeyCall :=
  keyboard.handleAll (bytes.map fun byte => (true, byte))

theorem handleAll_append (first second : List (Bool × UInt8)) :
    keyboard.handleAll (first ++ second) =
      (((keyboard.handleAll first).1.handleAll second).1,
        (keyboard.handleAll first).2 ++ ((keyboard.handleAll first).1.handleAll second).2) := by
  induction first generalizing keyboard with
  | nil => rfl
  | cons input rest ih => simp only [List.cons_append, handleAll, ih, List.append_assoc]

theorem idle_character : ∀ (capsLock shiftPressed : Bool) (code : Fin 128),
    let ch := { powerOn with capsLock, shiftPressed }.character (UInt8.ofNat code)
    (ch = 0 ∨ Typable ch) ∧ (isalpha ch = true → (upper ch == ch) = capsLock) := by
  decide +kernel

theorem lt_of_press (press : byte &&& 0x80 = 0) : byte.toNat < 128 := by
  have all : ∀ byte : Fin 256, byte.val &&& 128 = 0 → byte.val < 128 := by decide +kernel
  exact all ⟨byte.toNat, byte.toNat_lt⟩ (congrArg UInt8.toNat press)

theorem character_cases (press : byte &&& 0x80 = 0) :
    (keyboard.character byte = 0 ∨ Typable (keyboard.character byte)) ∧
    (isalpha (keyboard.character byte) = true →
      (upper (keyboard.character byte) == keyboard.character byte) = keyboard.capsLock) := by
  have cases := idle_character keyboard.capsLock keyboard.shiftPressed ⟨byte.toNat, lt_of_press press⟩
  rw [UInt8.ofNat_toNat] at cases
  exact cases

/-- A key that is no letter -/
def Special (key : UInt8) : Prop := Deliverable key ∧ isalpha key = false

instance (key : UInt8) : Decidable (Special key) := inferInstanceAs (Decidable (_ ∧ _))

theorem ctrlKey_mem {ch : UInt8} (isKey : ctrlKey ch = some key) : key ∈ [17, 23, 14, 13, 20, 18, 9] := by
  revert isKey
  rw [ctrlKey]
  iterate 7
    split
    · rintro ⟨⟩
      decide
  intro isKey
  cases isKey

theorem altCall_mem {ch : UInt8} (calls : altCall ch = .desktopHandleKey key) :
    key ∈ [keyF1, keyF2, keyF3, keyF4, 13, keyF10] := by
  revert calls
  rw [altCall]
  iterate 6
    split
    · rintro ⟨⟩
      decide
  intro calls
  cases calls

theorem functionKey_mem (isKey : keyboard.functionKey byte = some key) :
    key ∈ [keyF1, keyF2, keyF3, keyF4, keyF5, keyF10, keyF12, keyTab, 9] := by
  revert isKey
  rw [functionKey]
  iterate 7
    split
    · rintro ⟨⟩
      decide
  split
  · split
    · rintro ⟨⟩
      decide
    · rintro ⟨⟩
      decide
  · intro isKey
    cases isKey

theorem ctrlKey_special : ∀ key ∈ [17, 23, 14, 13, 20, 18, 9], Special key := by decide +kernel

theorem altCall_special : ∀ key ∈ [keyF1, keyF2, keyF3, keyF4, 13, keyF10], Special key := by decide +kernel

theorem functionKey_special : ∀ key ∈ [keyF1, keyF2, keyF3, keyF4, keyF5, keyF10, keyF12, keyTab, 9], Special key := by
  decide +kernel

theorem characterCall_delivers {ch : UInt8} (calls : keyboard.characterCall desktopMode ch = some (.desktopHandleKey key)) :
    Special key ∨ key = ch ∧ ch ≠ 0 := by
  rw [characterCall] at calls
  by_cases ctrl : keyboard.ctrlPressed = true ∧ ch ≠ 0
  · rw [if_pos ctrl] at calls
    cases desktopMode with
    | false => cases calls
    | true =>
        obtain ⟨made, isKey, same⟩ := Option.map_eq_some_iff.mp calls
        cases same
        exact .inl (ctrlKey_special _ (ctrlKey_mem isKey))
  rw [if_neg ctrl] at calls
  by_cases alt : keyboard.altPressed = true ∧ ch ≠ 0
  · rw [if_pos alt] at calls
    cases desktopMode with
    | false => cases calls
    | true => exact .inl (altCall_special _ (altCall_mem (Option.some.inj calls)))
  rw [if_neg alt] at calls
  by_cases plain : desktopMode = true ∧ ch ≠ 0
  · rw [if_pos plain] at calls
    cases calls
    exact .inr ⟨rfl, plain.2⟩
  · rw [if_neg plain] at calls
    cases calls

theorem callDesktop_delivers {code : UInt8} (calls : callDesktop desktopMode code = some (.desktopHandleKey key)) :
    key = code := by
  cases desktopMode with
  | false => cases calls
  | true =>
      cases calls
      rfl

/-- A key that is delivered, and that is upper case, if it is a letter, exactly with Caps Lock -/
def Cased (capsLock : Bool) (key : UInt8) : Prop :=
  Deliverable key ∧ (isalpha key = true → (upper key == key) = capsLock)

theorem Special.cased {capsLock : Bool} (special : Special key) : Cased capsLock key :=
  ⟨special.1, fun letter => absurd (special.2.symm.trans letter) Bool.false_ne_true⟩

theorem press_delivers (isPress : byte &&& 0x80 = 0)
    (calls : (keyboard.press desktopMode byte).2 = some (.desktopHandleKey key)) : Cased keyboard.capsLock key := by
  rw [press] at calls
  iterate 4
    split at calls
    · cases calls
  split at calls
  case h_1 code isKey =>
    obtain rfl := callDesktop_delivers calls
    exact (functionKey_special _ (functionKey_mem isKey)).cased
  case h_2 =>
    obtain special | ⟨rfl, nonzero⟩ := characterCall_delivers calls
    · exact special.cased
    · obtain ⟨isCharacter, letter⟩ := @character_cases keyboard byte isPress
      exact ⟨.inl (isCharacter.resolve_left nonzero), letter⟩

/-- What one byte hands to the desktop -/
theorem keyboardHandler_delivers
    (calls : (keyboard.keyboardHandler desktopMode byte).2 = some (.desktopHandleKey key)) :
    Cased keyboard.capsLock key := by
  rw [keyboardHandler] at calls
  dsimp only at calls
  split at calls
  · cases calls
  split at calls
  · rw [extendedKey] at calls
    split at calls
    · obtain rfl := callDesktop_delivers calls
      have special : Special keyWin := by decide
      exact special.cased
    · cases calls
  split at calls
  · cases calls
  case isFalse isPress => exact @press_delivers { keyboard with ch := 0 } _ _ _ (not_not.mp isPress) calls

/-- Caps Lock was pressed an odd number of times. -/
def capsOn (bytes : List UInt8) : Bool := decide ((plainBytes false bytes).count scanCodeKeyCapsLock % 2 = 1)

/-- Bytes behind which one more byte delivers the key. -/
def approach (capsLock : Bool) (key : UInt8) : List UInt8 × UInt8 :=
  let caps := if capsLock then [scanCodeKeyCapsLock] else []
  if key = keyWin then (caps ++ [extendedPrefix], 0x5B)
  else if key = keyF10 then (caps, 0x44)
  else if key = keyF12 then (caps, 0x58)
  else if keyF1 ≤ key ∧ key ≤ keyF5 then (caps, key - keyF1 + 0x3B)
  else if key = keyTab then (caps ++ [scanCodeKeyAlt], 0x0F)
  else if Typable key then
    match unshifted key with
    | some base => (caps ++ [scanCodeKeyLeftShift], codeOf base)
    | none => (caps, codeOf (lower key))
  else
    let letter := [(13, 109), (14, 110), (17, 113), (18, 114), (20, 116), (23, 119)].lookup key
    (caps ++ [scanCodeKeyCtrl], codeOf (letter.getD 0))

instance (capsLock : Bool) (key : UInt8) : Decidable (Cased capsLock key) := inferInstanceAs (Decidable (_ ∧ _))

theorem approach_delivers : ∀ (capsLock : Bool) (key : Fin 256), Cased capsLock (UInt8.ofNat key) →
    ((powerOn.handleBytes (approach capsLock (UInt8.ofNat key)).1).1.keyboardHandler true
      (approach capsLock (UInt8.ofNat key)).2).2 = some (.desktopHandleKey (UInt8.ofNat key)) ∧
    capsOn (approach capsLock (UInt8.ofNat key)).1 = capsLock := by
  decide +kernel

/-- The keys that a byte can deliver, once Caps Lock was pressed an even or an odd number of times, are known exactly;
Shift has no part in the case of letters. -/
theorem powerOn_delivers_iff (capsLock : Bool) (key : UInt8) :
    (∃ (input : List (Bool × UInt8)) (desktopMode : Bool) (byte : UInt8), capsOn (input.map Prod.snd) = capsLock ∧
      ((powerOn.handleAll input).1.keyboardHandler desktopMode byte).2 = some (.desktopHandleKey key)) ↔
    Cased capsLock key := by
  constructor
  · rintro ⟨input, desktopMode, byte, rfl, calls⟩
    have follows : Follows (powerOn.handleAll input).1 (input.map Prod.snd) := follows_powerOn.handleAll
    rw [capsOn, ← follows.capsLock]
    exact keyboardHandler_delivers calls
  · intro cased
    have delivers := approach_delivers capsLock ⟨key.toNat, key.toNat_lt⟩
    rw [UInt8.ofNat_toNat] at delivers
    obtain ⟨calls, caps⟩ := delivers cased
    refine ⟨(approach capsLock key).1.map fun byte => (true, byte), true, (approach capsLock key).2, ?_, calls⟩
    rw [List.map_map]
    exact (congrArg capsOn (List.map_id _)).trans caps

theorem typed_strokes : ∀ (capsLock : Bool) (char : Fin 128), Typable (UInt8.ofNat char) →
    (idle capsLock).handleBytes (strokes capsLock (UInt8.ofNat char)) =
      (idle capsLock, [.desktopHandleKey (UInt8.ofNat char)]) := by
  decide +kernel

theorem typable_lt (typable : Typable char) : char.toNat < 128 := by
  rcases typable with ⟨-, small⟩ | rfl | rfl | rfl | rfl
  · exact Nat.lt_of_le_of_lt (UInt8.le_iff_toNat_le.mp small) (by decide)
  · decide
  · decide
  · decide
  · decide

theorem handleBytes_strokes (capsLock : Bool) (typable : Typable char) :
    (idle capsLock).handleBytes (strokes capsLock char) = (idle capsLock, [.desktopHandleKey char]) := by
  have typed := typed_strokes capsLock ⟨char.toNat, typable_lt typable⟩
  rw [UInt8.ofNat_toNat] at typed
  exact typed typable

theorem handleBytes_text (capsLock : Bool) (text : List UInt8) (typable : ∀ char ∈ text, Typable char) :
    (idle capsLock).handleBytes (text.flatMap (strokes capsLock)) = (idle capsLock, text.map .desktopHandleKey) := by
  induction text with
  | nil => rfl
  | cons char rest ih =>
      have first := handleBytes_strokes capsLock (typable char List.mem_cons_self)
      have later := ih fun char member => typable char (List.mem_cons_of_mem _ member)
      rw [handleBytes] at first later
      rw [List.flatMap_cons, handleBytes, List.map_append, handleAll_append, first, later]
      rfl

/-- The releases of the modifiers; the first byte may be taken for the rest of an extended key. -/
def releases : List UInt8 :=
  [scanCodeKeyLeftShift ||| 0x80, scanCodeKeyLeftShift ||| 0x80, scanCodeKeyAlt ||| 0x80, scanCodeKeyCtrl ||| 0x80]

theorem handleBytes_releases : keyboard.handleBytes releases = (idle keyboard.capsLock, []) := by
  obtain ⟨capsLock, shiftPressed, altPressed, ctrlPressed, extended, ch⟩ := keyboard
  cases extended with
  | true | false => rfl

/-- Whatever came before, once the modifiers are released a text that is typed reaches the desktop as it is. -/
theorem powerOn_typed (input : List (Bool × UInt8)) (text : List UInt8) (typable : ∀ char ∈ text, Typable char) :
    (powerOn.handleAll input).1.handleBytes
        (releases ++ text.flatMap (strokes (capsOn (input.map Prod.snd)))) =
      (idle (capsOn (input.map Prod.snd)), text.map .desktopHandleKey) := by
  have follows : Follows (powerOn.handleAll input).1 (input.map Prod.snd) := follows_powerOn.handleAll
  have caps : (powerOn.handleAll input).1.capsLock = capsOn (input.map Prod.snd) := follows.capsLock
  have released := @handleBytes_releases (powerOn.handleAll input).1
  have typed := handleBytes_text (capsOn (input.map Prod.snd)) text typable
  rw [handleBytes] at released typed
  rw [caps] at released
  rw [handleBytes, List.map_append, handleAll_append, released, typed]
  rfl

/-- "Hello, World!" after Caps Lock, and with Ctrl held and half of an extended key -/
theorem powerOn_typed_hello :
    (powerOn.handleAll [(true, 0x3A), (false, 0x1D), (true, 0xE0)]).1.handleBytes (releases ++
        [72, 101, 108, 108, 111, 44, 32, 87, 111, 114, 108, 100, 33].flatMap (strokes true)) =
      (idle true, [72, 101, 108, 108, 111, 44, 32, 87, 111, 114, 108, 100, 33].map .desktopHandleKey) :=
  powerOn_typed [(true, 0x3A), (false, 0x1D), (true, 0xE0)] _ (by decide +kernel)

end Keyboard

end AutismOS.Input
