import AutismOS.Library.Shifting
import AutismOS.Library.Wrapping

namespace AutismOS.Notepad

open AutismOS.Library

/-! `apps/notepad.c`. -/

/-- `NOTEPAD_MAX_TEXT` -/
def maxText : Nat := 1024

/-- `notepad_state_t`, whose `scroll_offset` nothing reads -/
structure NotepadState where
  text : Nat → UInt8
  textLen : Nat
  cursorPos : Nat

/-- What `get_notepad_state` makes. -/
def fresh : NotepadState where
  text := fun _ => 0
  textLen := 0
  cursorPos := 0

namespace NotepadState

variable (state : NotepadState)

def notepadHandleKey (key : UInt8) : NotepadState :=
  if key = 0x08 then
    if 0 < state.cursorPos ∧ 0 < state.textLen then
      -- the loop ends at the last character
      let text := Shifting.closeGap state.text (state.cursorPos - 1) (state.textLen - state.cursorPos)
      let textLen := state.textLen - 1
      { text := Function.update text textLen 0, textLen, cursorPos := state.cursorPos - 1 }
    else state
  else if key = 0x0A then
    if state.textLen < maxText - 1 then
      let text := Function.update state.text state.cursorPos 0x0A
      let textLen := state.textLen + 1
      { text := Function.update text textLen 0, textLen, cursorPos := state.cursorPos + 1 }
    else state
  else if 32 ≤ key ∧ key ≤ 126 then
    if state.textLen < maxText - 1 then
      let text := Shifting.openGap state.cursorPos state.text state.textLen
      let text := Function.update text state.cursorPos key
      let textLen := state.textLen + 1
      { text := Function.update text textLen 0, textLen, cursorPos := state.cursorPos + 1 }
    else state
  else state

def handleAll (keys : List UInt8) : NotepadState := keys.foldl notepadHandleKey state

def shown : List UInt8 := Shifting.front state.text state.textLen

end NotepadState

/-- The first loop of `notepad_draw`: each character that is painted, with its cell. -/
def paintFrom (cols rows : Nat) (cell : Cell) : List UInt8 → List (Cell × UInt8)
  | [] => []
  | char :: rest =>
      if cell.row < rows then
        if char = 0x0A ∨ cols ≤ cell.col then
          let next : Cell := ⟨cell.row + 1, 0⟩
          if char = 0x0A then paintFrom cols rows next rest
          else (next, char) :: paintFrom cols rows ⟨next.row, next.col + 1⟩ rest
        else (cell, char) :: paintFrom cols rows ⟨cell.row, cell.col + 1⟩ rest
      else []

/-- The second loop. -/
def caretFrom (cols : Nat) (cell : Cell) : List UInt8 → Cell
  | [] => cell
  | char :: rest =>
      if char = 0x0A ∨ cols ≤ cell.col then
        let next : Cell := ⟨cell.row + 1, 0⟩
        if char ≠ 0x0A then caretFrom cols ⟨next.row, next.col + 1⟩ rest else caretFrom cols next rest
      else caretFrom cols ⟨cell.row, cell.col + 1⟩ rest

/-- What `notepad_draw` paints of a text. -/
def paintText (cols rows : Nat) (text : List UInt8) : List (Cell × UInt8) := paintFrom cols rows ⟨0, 0⟩ text

/-- The cell of the caret, if it is painted. -/
def NotepadState.caret (state : NotepadState) (cols rows : Nat) : Option Cell :=
  let cell := caretFrom cols ⟨0, 0⟩ (Shifting.front state.text (min state.cursorPos state.textLen))
  if cell.row < rows then some cell else none

end AutismOS.Notepad

namespace AutismOS.Notepad

open AutismOS.Library

-- The keys edit the text at the cursor, with one loop that makes room and one that closes a gap.  A line break makes
-- no room: it is right only behind the text, where the cursor always is.

variable {state : NotepadState} {text : List UInt8} {key : UInt8}

/-- The editor that the notepad implements, on the text alone. -/
def typed (text : List UInt8) (key : UInt8) : List UInt8 :=
  if key = 0x08 then text.dropLast
  else if key = 0x0A ∨ 32 ≤ key ∧ key ≤ 126 then if text.length < maxText - 1 then text ++ [key] else text
  else text

/-- The array holds the text, with the cursor and a NUL behind it. -/
structure Holds (state : NotepadState) (text : List UInt8) : Prop where
  shown : state.shown = text
  cursor : state.cursorPos = state.textLen
  short : state.textLen < maxText
  terminated : state.text state.textLen = 0

theorem Holds.length_eq (holds : Holds state text) : text.length = state.textLen := by
  rw [← holds.shown, NotepadState.shown, Shifting.length_front]

theorem holds_fresh : Holds fresh [] := ⟨rfl, rfl, by decide, rfl⟩

/-- A character is put behind the text. -/
theorem Holds.append (holds : Holds state text) (room : state.textLen < maxText - 1) :
    Holds {
      text := Function.update (Function.update state.text state.cursorPos key) (state.textLen + 1) 0
      textLen := state.textLen + 1
      cursorPos := state.cursorPos + 1 } (text ++ [key]) where
  shown := by
    have inserted := @Shifting.front_openGap _ state.text state.textLen state.textLen key (Nat.le_refl _)
    rw [Shifting.openGap_self] at inserted
    rw [NotepadState.shown, Shifting.front_update (Nat.le_refl _), holds.cursor, inserted, ← List.insertIdx_length_self,
      holds.length_eq]
    exact congrArg (fun text => text.insertIdx state.textLen key) holds.shown
  cursor := congrArg (· + 1) holds.cursor
  short := Nat.add_lt_of_lt_sub room
  terminated := Function.update_self _ _ _

/-- The last character is taken out. -/
theorem Holds.backspace (holds : Holds state text) (nonempty : 0 < state.textLen) :
    Holds {
      text := Function.update (Shifting.closeGap state.text (state.cursorPos - 1) (state.textLen - state.cursorPos))
        (state.textLen - 1) 0
      textLen := state.textLen - 1
      cursorPos := state.cursorPos - 1 } text.dropLast where
  shown := by
    obtain ⟨count, isCount⟩ := Nat.exists_eq_succ_of_ne_zero (Nat.ne_of_gt nonempty)
    have erased := @Shifting.front_closeGap _ state.text count count (Nat.lt_succ_self _)
    have shown := holds.shown
    have length := holds.length_eq
    rw [NotepadState.shown, isCount] at shown
    rw [isCount] at length
    rw [NotepadState.shown, Shifting.front_update (Nat.le_refl _), holds.cursor, isCount, Nat.sub_self, Nat.succ_sub_one]
    rw [Nat.sub_self] at erased
    rw [erased, ← List.eraseIdx_eq_dropLast length.symm]
    exact congrArg (·.eraseIdx count) shown
  cursor := congrArg (· - 1) holds.cursor
  short := Nat.lt_of_le_of_lt (Nat.sub_le _ _) holds.short
  terminated := Function.update_self _ _ _

/-- One key does to the array what the editor does to the text. -/
theorem Holds.handleKey (holds : Holds state text) (key : UInt8) :
    Holds (state.notepadHandleKey key) (typed text key) := by
  rw [NotepadState.notepadHandleKey, typed, holds.length_eq]
  by_cases back : key = 0x08
  · rw [if_pos back, if_pos back]
    by_cases nonempty : 0 < state.textLen
    · rw [if_pos ⟨holds.cursor ▸ nonempty, nonempty⟩]
      exact holds.backspace nonempty
    · rw [if_neg fun both => nonempty both.2]
      have none : text = [] := List.eq_nil_of_length_eq_zero (by rw [holds.length_eq]; omega)
      rw [none] at holds ⊢
      exact holds
  rw [if_neg back, if_neg back]
  by_cases newline : key = 0x0A
  · have accepted : key = 0x0A ∨ 32 ≤ key ∧ key ≤ 126 := .inl newline
    rw [if_pos newline, if_pos accepted]
    by_cases room : state.textLen < maxText - 1
    · rw [if_pos room, if_pos room, newline]
      exact holds.append room
    · rw [if_neg room, if_neg room]
      exact holds
  rw [if_neg newline]
  by_cases printable : 32 ≤ key ∧ key ≤ 126
  · have accepted : key = 0x0A ∨ 32 ≤ key ∧ key ≤ 126 := .inr printable
    rw [if_pos printable, if_pos accepted]
    by_cases room : state.textLen < maxText - 1
    · rw [if_pos room, if_pos room]
      have behind : Shifting.openGap state.cursorPos state.text state.textLen = state.text := by
        rw [holds.cursor, Shifting.openGap_self]
      rw [behind]
      exact holds.append room
    · rw [if_neg room, if_neg room]
      exact holds
  · rw [if_neg printable, if_neg (not_or.mpr ⟨newline, printable⟩)]
    exact holds

theorem Holds.handleAll (holds : Holds state text) (keys : List UInt8) :
    Holds (state.handleAll keys) (keys.foldl typed text) := by
  induction keys generalizing state text with
  | nil => exact holds
  | cons key rest ih => exact ih (holds.handleKey key)

/-- A fresh notepad holds, after any keys, the text of the editor. -/
theorem handleAll_holds (keys : List UInt8) : Holds (fresh.handleAll keys) (keys.foldl typed []) :=
  holds_fresh.handleAll keys

end AutismOS.Notepad

namespace AutismOS.Notepad

open AutismOS.Library

-- The loop that paints wraps a line before the character that has no room, and the loop of the caret only behind it.
-- They agree on the cells behind each text, but not on where the next character lands.

variable {char : UInt8} {cols rows : Nat} {cell : Cell} {text : List UInt8}

def isNewline (char : UInt8) : Bool := char = 0x0A

def reach (cols : Nat) (text : List UInt8) : Cell := Wrapping.reach isNewline cols text

def lastLine (text : List UInt8) : List UInt8 := Wrapping.lastLine isNewline text

theorem advance_newline : Wrapping.advance isNewline cols cell 0x0A = Wrapping.newLine cell := rfl

theorem advance_char (visible : char ≠ 0x0A) :
    Wrapping.advance isNewline cols cell char = Wrapping.right (Wrapping.landing cols cell) := by
  rw [Wrapping.advance, isNewline, decide_eq_false visible, if_neg Bool.false_ne_true]

/-- The second loop ends behind the text. -/
theorem caretFrom_eq : caretFrom cols cell text = text.foldl (Wrapping.advance isNewline cols) cell := by
  induction text generalizing cell with
  | nil => rfl
  | cons char rest ih =>
      rw [caretFrom, List.foldl_cons]
      by_cases newline : char = 0x0A
      · rw [if_pos (.inl newline), newline, advance_newline]
        exact ih
      · rw [advance_char newline, Wrapping.landing]
        by_cases full : cols ≤ cell.col
        · rw [if_pos (.inr full), if_pos full]
          dsimp only
          rw [if_pos newline]
          exact ih
        · rw [if_neg (not_or.mpr ⟨newline, full⟩), if_neg full]
          exact ih

/-- The first loop paints every visible character where it lands. -/
theorem paintFrom_cons (begins : cell.row < rows) : paintFrom cols rows cell (char :: text) =
    (if char = 0x0A then [] else [(Wrapping.landing cols cell, char)]) ++
      paintFrom cols rows (Wrapping.advance isNewline cols cell char) text := by
  rw [paintFrom, if_pos begins]
  by_cases newline : char = 0x0A
  · have wraps : char = 0x0A ∨ cols ≤ cell.col := .inl newline
    rw [if_pos wraps, newline, if_pos rfl, advance_newline]
    rfl
  · rw [advance_char newline, Wrapping.landing]
    by_cases full : cols ≤ cell.col
    · rw [if_pos (.inr full), if_pos full]
      dsimp only
      rw [if_neg newline, if_neg newline]
      rfl
    · rw [if_neg (not_or.mpr ⟨newline, full⟩), if_neg newline, if_neg full]
      rfl

theorem paintFrom_concat (visible : char ≠ 0x0A)
    (enough : (text.foldl (Wrapping.advance isNewline cols) cell).row < rows) :
    paintFrom cols rows cell (text ++ [char]) = paintFrom cols rows cell text ++
      [(Wrapping.landing cols (text.foldl (Wrapping.advance isNewline cols) cell), char)] := by
  induction text generalizing cell with
  | nil =>
      have begins : cell.row < rows := enough
      rw [List.nil_append, paintFrom_cons begins, if_neg visible]
      rfl
  | cons first rest ih =>
      have begins : cell.row < rows :=
        Nat.lt_of_le_of_lt (Nat.le_trans Wrapping.row_le_advance Wrapping.row_le_foldl) enough
      rw [List.cons_append, paintFrom_cons begins, paintFrom_cons begins, ih enough, List.append_assoc, List.foldl_cons]

/-- The caret is painted in the cell in which a character behind the text would be. -/
def CaretLands (state : NotepadState) (cols rows : Nat) (char : UInt8) : Prop :=
  ∃ cell, state.caret cols rows = some cell ∧
    (paintText cols rows (state.shown ++ [char])).getLast? = some (cell, char)

theorem Holds.caret {state : NotepadState} (holds : Holds state text) (enough : (reach cols text).row < rows) :
    state.caret cols rows = some (reach cols text) := by
  have isText : Shifting.front state.text (min state.cursorPos state.textLen) = text := by
    rw [holds.cursor, Nat.min_self]
    exact holds.shown
  rw [NotepadState.caret, isText, caretFrom_eq]
  exact if_pos enough

theorem paintText_last (visible : char ≠ 0x0A) (enough : (reach cols text).row < rows) :
    (paintText cols rows (text ++ [char])).getLast? = some (Wrapping.landing cols (reach cols text), char) := by
  have painted := @paintFrom_concat char cols rows ⟨0, 0⟩ text visible enough
  rw [paintText, painted, List.getLast?_concat]
  rfl

/-- With rows for the text, the caret is where typing lands exactly when the last line is empty or does not fill
its rows. -/
theorem caretLands_iff (keys : List UInt8) (positive : 0 < cols) (printable : 32 ≤ char ∧ char ≤ 126)
    (enough : (reach cols (fresh.handleAll keys).shown).row < rows) :
    CaretLands (fresh.handleAll keys) cols rows char ↔
      lastLine (fresh.handleAll keys).shown = [] ∨ ¬ cols ∣ (lastLine (fresh.handleAll keys).shown).length := by
  have visible : char ≠ 0x0A := by
    rintro rfl
    exact absurd printable.1 (by decide)
  have holds := holds_fresh.handleAll keys
  rw [holds.shown] at enough ⊢
  rw [CaretLands, holds.shown, holds.caret enough, paintText_last visible enough]
  refine Iff.trans ?_ (Wrapping.landing_reach positive)
  constructor
  · rintro ⟨cell, atCaret, painted⟩
    cases atCaret
    exact congrArg Prod.fst (Option.some.inj painted)
  · intro same
    exact ⟨_, rfl, congrArg (fun cell => some (cell, char)) same⟩

/-- In a row of two, with two characters typed. -/
theorem caretLands_iff_two : CaretLands (fresh.handleAll [0x61, 0x62]) 2 1 0x63 ↔
    lastLine (fresh.handleAll [0x61, 0x62]).shown = [] ∨
      ¬ 2 ∣ (lastLine (fresh.handleAll [0x61, 0x62]).shown).length :=
  caretLands_iff [0x61, 0x62] (by decide) (by decide) (by decide +kernel)

/-- Behind a line that is full, the caret stays in its row, but the next character does not. -/
theorem not_caretLands_full : ¬ CaretLands (fresh.handleAll [0x61, 0x62]) 2 2 0x63 := by
  rintro ⟨cell, atCaret, painted⟩
  have behind : (fresh.handleAll [0x61, 0x62]).caret 2 2 = some ⟨0, 2⟩ := by
    decide +kernel
  have next : (paintText 2 2 ((fresh.handleAll [0x61, 0x62]).shown ++ [0x63])).getLast? = some (⟨1, 0⟩, 0x63) := by
    decide +kernel
  rw [behind] at atCaret
  cases atCaret
  rw [next] at painted
  cases painted

end AutismOS.Notepad
