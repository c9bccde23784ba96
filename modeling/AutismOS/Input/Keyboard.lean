import Mathlib.Data.List.Basic
import Mathlib.Logic.Basic

namespace AutismOS.Input

/-! # The driver of the keyboard

`keyboard.c`, with the characters of `string.c`.  The handler gets the byte that `get_scancode` reads once
the controller has one.  It calls the desktop or `ux.c` at most once; this call is its result.
-/

def scanCodeKeyLeftShift : UInt8 := 0x2A
def scanCodeKeyAlt : UInt8 := 0x38
def scanCodeKeyCtrl : UInt8 := 0x1D
def scanCodeKeyCapsLock : UInt8 := 0x3A

/-- The first byte of an extended key -/
def extendedPrefix : UInt8 := 0xE0

def keyWin : UInt8 := 0x80
def keyF10 : UInt8 := 0x81
def keyF12 : UInt8 := 0x82
def keyF1 : UInt8 := 0x83
def keyF2 : UInt8 := 0x84
def keyF3 : UInt8 := 0x85
def keyF4 : UInt8 := 0x86
def keyF5 : UInt8 := 0x87
def keyTab : UInt8 := 0x88

/-- `g_scan_code_chars` -/
def scanCodeChars : List UInt8 := [
  0, 27, 49, 50, 51, 52, 53, 54, 55, 56, 57, 48, 45, 61, 8,
  9, 113, 119, 101, 114, 116, 121, 117, 105, 111, 112, 91, 93, 10,
  0, 97, 115, 100, 102, 103, 104, 106, 107, 108, 59, 39, 96, 0,
  92, 122, 120, 99, 118, 98, 110, 109, 44, 46, 47, 0, 42, 0, 32,
  0, 0, 0, 0, 0, 0, 0, 0, 0, 0, 0, 0, 0, 0, 0, 0,
  45, 0, 0, 0, 43, 0, 0, 0, 0, 0, 0, 0, 0, 0, 0, 0,
  0, 0, 0, 0, 0, 0, 0, 0, 0, 0, 0, 0, 0, 0, 0, 0]

def isalpha (c : UInt8) : Bool := 65 ≤ c && c ≤ 90 || 97 ≤ c && c ≤ 122

def upper (c : UInt8) : UInt8 := if 97 ≤ c ∧ c ≤ 122 then c - 32 else c

def lower (c : UInt8) : UInt8 := if 65 ≤ c ∧ c ≤ 90 then c + 32 else c

def alternateChars (ch : UInt8) : UInt8 :=
  match ch with
  | 96 => 126
  | 49 => 33
  | 50 => 64
  | 51 => 35
  | 52 => 36
  | 53 => 37
  | 54 => 94
  | 55 => 38
  | 56 => 42
  | 57 => 40
  | 48 => 41
  | 45 => 95
  | 61 => 43
  | 91 => 123
  | 93 => 125
  | 92 => 124
  | 59 => 58
  | 39 => 34
  | 44 => 60
  | 46 => 62
  | 47 => 63
  | ch => ch

/-- A call of `desktop_handle_key` or `ux_handle_hotkey` -/
inductive KeyCall where
  | desktopHandleKey (key : UInt8)
  | uxHandleHotkey (key : UInt8)
deriving DecidableEq

/-- The variables of the driver -/
structure Keyboard where
  capsLock : Bool
  shiftPressed : Bool
  altPressed : Bool
  ctrlPressed : Bool
  extended : Bool
  ch : UInt8
deriving DecidableEq

def Keyboard.powerOn : Keyboard :=
  { capsLock := false, shiftPressed := false, altPressed := false, ctrlPressed := false, extended := false, ch := 0 }

/-- `if (is_desktop_mode()) desktop_handle_key(key)` -/
def callDesktop (desktopMode : Bool) (key : UInt8) : Option KeyCall :=
  if desktopMode then some (.desktopHandleKey key) else none

/-- What Ctrl makes of a character; most keys do nothing. -/
def ctrlKey (ch : UInt8) : Option UInt8 :=
  if ch = 113 ∨ ch = 81 then some 17
  else if ch = 119 ∨ ch = 87 then some 23
  else if ch = 110 ∨ ch = 78 then some 14
  else if ch = 109 ∨ ch = 77 then some 13
  else if ch = 116 ∨ ch = 84 then some 20
  else if ch = 114 ∨ ch = 82 then some 18
  else if ch = 105 ∨ ch = 73 then some 9
  else none

/-- What Alt makes of a character on the desktop. -/
def altCall (ch : UInt8) : KeyCall :=
  if ch = 49 then .desktopHandleKey keyF1
  else if ch = 50 then .desktopHandleKey keyF2
  else if ch = 51 then .desktopHandleKey keyF3
  else if ch = 52 then .desktopHandleKey keyF4
  else if ch = 109 ∨ ch = 77 then .desktopHandleKey 13
  else if ch = 120 ∨ ch = 88 then .desktopHandleKey keyF10
  else .uxHandleHotkey ch

namespace Keyboard

variable (keyboard : Keyboard)

/-- The keys that have a case of their own in the switch, the modifiers aside. -/
def functionKey (scancode : UInt8) : Option UInt8 :=
  if scancode = 0x3B then some keyF1
  else if scancode = 0x3C then some keyF2
  else if scancode = 0x3D then some keyF3
  else if scancode = 0x3E then some keyF4
  else if scancode = 0x3F then some keyF5
  else if scancode = 0x44 then some keyF10
  else if scancode = 0x58 then some keyF12
  else if scancode = 0x0F then if keyboard.altPressed then some keyTab else some 9
  else none

/-- The character of a key.  Shift leaves letters as they are. -/
def character (scancode : UInt8) : UInt8 :=
  let ch := scanCodeChars.getD scancode.toNat 0
  let ch := if keyboard.capsLock then if isalpha ch then upper ch else ch else ch
  if keyboard.shiftPressed then alternateChars ch else ch

def characterCall (desktopMode : Bool) (ch : UInt8) : Option KeyCall :=
  if keyboard.ctrlPressed ∧ ch ≠ 0 then if desktopMode then (ctrlKey ch).map .desktopHandleKey else none
  else if keyboard.altPressed ∧ ch ≠ 0 then if desktopMode then some (altCall ch) else some (.uxHandleHotkey ch)
  else if desktopMode ∧ ch ≠ 0 then some (.desktopHandleKey ch)
  else none

def release (scancode : UInt8) : Keyboard :=
  if scancode = scanCodeKeyLeftShift ||| 0x80 then { keyboard with shiftPressed := false }
  else if scancode = scanCodeKeyAlt ||| 0x80 then { keyboard with altPressed := false }
  else if scancode = scanCodeKeyCtrl ||| 0x80 then { keyboard with ctrlPressed := false }
  else keyboard

def press (desktopMode : Bool) (scancode : UInt8) : Keyboard × Option KeyCall :=
  if scancode = scanCodeKeyCapsLock then ({ keyboard with capsLock := !keyboard.capsLock }, none)
  else if scancode = scanCodeKeyLeftShift then ({ keyboard with shiftPressed := true }, none)
  else if scancode = scanCodeKeyAlt then ({ keyboard with altPressed := true }, none)
  else if scancode = scanCodeKeyCtrl then ({ keyboard with ctrlPressed := true }, none)
  else
    match keyboard.functionKey scancode with
    | some key => (keyboard, callDesktop desktopMode key)
    | none =>
        let ch := keyboard.character scancode
        ({ keyboard with ch }, keyboard.characterCall desktopMode ch)

/-- The byte behind the prefix: only the Windows keys do something. -/
def extendedKey (desktopMode : Bool) (scancode : UInt8) : Keyboard × Option KeyCall :=
  let keyboard := { keyboard with extended := false }
  if scancode &&& 0x80 = 0 ∧ (scancode = 0x5B ∨ scancode = 0x5C) then
    ({ keyboard with ch := keyWin }, callDesktop desktopMode keyWin)
  else (keyboard, none)

def keyboardHandler (desktopMode : Bool) (scancode : UInt8) : Keyboard × Option KeyCall :=
  let keyboard := { keyboard with ch := 0 }
  if scancode = extendedPrefix then ({ keyboard with extended := true }, none)
  else if keyboard.extended then keyboard.extendedKey desktopMode scancode
  else if scancode &&& 0x80 ≠ 0 then (keyboard.release scancode, none)
  else keyboard.press desktopMode scancode

/-- Bytes one after another, each with the answer of `is_desktop_mode` at its time. -/
def handleAll : Keyboard → List (Bool × UInt8) → Keyboard × List KeyCall
  | keyboard, [] => (keyboard, [])
  | keyboard, (desktopMode, scancode) :: rest =>
      let (next, call) := keyboard.keyboardHandler desktopMode scancode
      let (last, calls) := handleAll next rest
      (last, call.toList ++ calls)

end Keyboard

end AutismOS.Input
