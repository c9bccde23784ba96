import AutismOS.Windows.Opening

namespace AutismOS.Windows

open AutismOS.Library AutismOS.Input

namespace Desktop

variable {desktop before after : Desktop} {window : Window} {app : App} {key : UInt8} {id index : Nat}

theorem desktopFocusWindow_handlerCalls : (desktop.desktopFocusWindow id).handlerCalls = desktop.handlerCalls := by
  obtain same | ⟨windows, _, raised⟩ := desktop.desktopFocusWindow_cases id
  · rw [same]
  · rw [raised]
    rfl

theorem getState_handlerCalls : (desktop.getState app index).handlerCalls = desktop.handlerCalls := by
  rw [getState]
  split
  · rfl
  · split
    · rfl
    · split
      · rfl
      · rfl

theorem launch_handlerCalls : (desktop.launch app).handlerCalls = desktop.handlerCalls := by
  have created (title : List UInt8) (x y width height minWidth minHeight : Nat) :
      (desktop.createApp app title x y width height minWidth minHeight).handlerCalls = desktop.handlerCalls := by
    by_cases full : maxWindows ≤ desktop.windows.length
    · rw [createApp_full full]
    · rw [createApp, desktopCreateWindow, if_neg full]
      exact getState_handlerCalls.trans desktopFocusWindow_handlerCalls
  cases app with
  | notepad | calculator | sysinfo => exact created ..

/-- The windows without the data that their applications keep. -/
def bare (desktop : Desktop) : List Window := desktop.windows.map fun window => { window with appData := none }

/-- The handler of the window was called once with the key, and the windows are as they were. -/
structure Typed (before : Desktop) (window : Window) (key : UInt8) (after : Desktop) : Prop where
  called : after.handlerCalls = before.handlerCalls ++ [.key window.id key]
  windows : after.bare = before.bare
  focus : after.focusedWindow = before.focusedWindow

theorem getState_bare : (desktop.getState app index).bare = desktop.bare ∧
    (desktop.getState app index).focusedWindow = desktop.focusedWindow := by
  have given (data : Option (App × Nat)) :
      (desktop.updateWindow index fun window => { window with appData := data }).bare = desktop.bare := by
    apply List.ext_getElem?
    intro place
    rw [bare, bare, updateWindow, List.getElem?_map, List.getElem?_map, List.getElem?_modify]
    cases desktop.windows[place]? with
    | none => rfl
    | some window =>
        by_cases here : index = place
        · simp [here]
        · simp [here]
  rw [getState]
  split
  · exact ⟨rfl, rfl⟩
  · split
    · exact ⟨rfl, rfl⟩
    · split
      · exact ⟨rfl, rfl⟩
      · exact ⟨given _, rfl⟩

/-- Whatever the application does with a key, the handler is called once. -/
theorem handleKey_typed (found : desktop.windows[index]? = some window) (handles : window.app.isSome = true) :
    Typed desktop window key (desktop.handleKey index key) := by
  have logged : Typed desktop window key { desktop with handlerCalls := desktop.handlerCalls ++ [.key window.id key] } :=
    ⟨rfl, rfl, rfl⟩
  have served (app : App) : Typed desktop window key
      (getState { desktop with handlerCalls := desktop.handlerCalls ++ [.key window.id key] } app index) :=
    ⟨getState_handlerCalls.trans logged.called, getState_bare.1.trans logged.windows, getState_bare.2.trans logged.focus⟩
  rw [handleKey, found]
  obtain ⟨app, isApp⟩ := Option.isSome_iff_exists.mp handles
  dsimp only
  rw [isApp]
  cases app with
  | notepad => exact served .notepad
  | calculator => exact served .calculator
  | sysinfo =>
      dsimp only
      split
      · exact served .sysinfo
      · exact logged

/-- A character that can be printed -/
def Printable (key : UInt8) : Prop := 32 ≤ key ∧ key ≤ 126

instance : Decidable (Printable key) := inferInstanceAs (Decidable (_ ∧ _))

theorem Printable.ne (printable : Printable key) (code : UInt8) (other : ¬ Printable code) : key ≠ code :=
  fun same => other (same ▸ printable)

/-- Of the printable characters, four are shortcuts. -/
theorem shortcutKey_printable (printable : Printable key) (notLauncher : key ≠ 96)
    (notApp : key ≠ 49 ∧ key ≠ 50 ∧ key ≠ 51) (focused : desktop.desktopGetFocused = some index)
    (found : desktop.windows[index]? = some window) (handles : window.app.isSome = true) :
    desktop.shortcutKey key = some (desktop.handleKey index key).setDirty := by
  have other := printable.ne
  rw [shortcutKey, focused]
  simp only [other 0x80 (by decide), other 27 (by decide), other 20 (by decide), other 0x83 (by decide), other 0x84 (by decide),
    other 0x85 (by decide), other 0x86 (by decide), other 14 (by decide), other 0x88 (by decide), other 9 (by decide),
    other 23 (by decide), other 0x81 (by decide), other 13 (by decide), other 0x87 (by decide), other 18 (by decide),
    other 0x82 (by decide), other 17 (by decide), notLauncher, notApp.1, notApp.2.1, notApp.2.2, or_self, if_false,
    found, Option.bind_some, handles, if_true]

/-- With the menu closed, 1, 2 and 3 launch an application. -/
theorem shortcutKey_launches (isApp : key = 49 ∨ key = 50 ∨ key = 51) :
    ∃ app : App, desktop.shortcutKey key = some (desktop.launch app).setDirty := by
  rcases isApp with rfl | rfl | rfl
  · exact ⟨.notepad, rfl⟩
  · exact ⟨.calculator, rfl⟩
  · exact ⟨.sysinfo, rfl⟩

/-- What is typed reaches the focused window, except for the digits that launch applications. -/
theorem desktopHandleKey_typed_iff (closed : desktop.startMenuOpen = false)
    (focused : desktop.desktopGetFocused = some index) (found : desktop.windows[index]? = some window)
    (handles : window.app.isSome = true) (printable : Printable key) (notLauncher : key ≠ 96) :
    (∃ after, desktop.desktopHandleKey key = some after ∧ Typed desktop window key after) ↔
      key ≠ 49 ∧ key ≠ 50 ∧ key ≠ 51 := by
  have isShortcut : desktop.desktopHandleKey key = desktop.shortcutKey key := by
    rw [desktopHandleKey, closed]
    rfl
  rw [isShortcut]
  constructor
  · rintro ⟨after, done, typed⟩
    apply Classical.byContradiction
    intro digit
    obtain ⟨app, launches⟩ : ∃ app : App, desktop.shortcutKey key = some (desktop.launch app).setDirty :=
      shortcutKey_launches (by simpa [Classical.or_iff_not_imp_left] using digit)
    rw [launches] at done
    obtain rfl := Option.some.inj done
    have silent : (desktop.launch app).setDirty.handlerCalls = desktop.handlerCalls := launch_handlerCalls
    have called := typed.called
    rw [silent] at called
    exact absurd (List.self_eq_append_right.mp called) (List.cons_ne_nil _ _)
  · intro notApp
    have typed : Typed desktop window key (desktop.handleKey index key) := handleKey_typed found handles
    exact ⟨_, shortcutKey_printable printable notLauncher notApp focused found handles, typed.called, typed.windows,
      typed.focus⟩

/-- A letter for the notepad -/
theorem desktopHandleKey_typed_letter : ∃ (after : Desktop) (window : Window),
    (desktopInit 160 100).notepadCreate.desktopHandleKey 97 = some after ∧
      Typed (desktopInit 160 100).notepadCreate window 97 after := by
  have found : (desktopInit 160 100).notepadCreate.windows[0]? = some (App.notepad.window 1 (some (.notepad, 0))) := by
    decide +kernel
  have printable : Printable 97 := by decide
  obtain ⟨after, done, typed⟩ :=
    (desktopHandleKey_typed_iff rfl (by decide +kernel) found rfl printable (by decide)).mpr
      ⟨by decide, by decide, by decide⟩
  exact ⟨after, _, done, typed⟩

/-- A digit for the calculator opens the notepad. -/
theorem desktopHandleKey_digit_launches :
    (desktopInit 160 100).calculatorCreate.startMenuOpen = false ∧
    (desktopInit 160 100).calculatorCreate.desktopGetFocused = some 0 ∧
    (desktopInit 160 100).calculatorCreate.windows[0]? = some (App.calculator.window 1 (some (.calculator, 0))) ∧
    ¬ ∃ after, (desktopInit 160 100).calculatorCreate.desktopHandleKey 49 = some after ∧
        Typed (desktopInit 160 100).calculatorCreate (App.calculator.window 1 (some (.calculator, 0))) 49 after := by
  refine ⟨by decide +kernel, by decide +kernel, by decide +kernel, ?_⟩
  intro ⟨after, done, typed⟩
  have opened : ((desktopInit 160 100).calculatorCreate.desktopHandleKey 49).map (·.ids) = some [1, 2] := by decide +kernel
  have same : after.bare.length = (desktopInit 160 100).calculatorCreate.bare.length := congrArg List.length typed.windows
  have isOne : (desktopInit 160 100).calculatorCreate.bare.length = 1 := by decide +kernel
  rw [done, Option.map_some] at opened
  have isTwo : after.ids.length = 2 := congrArg List.length (Option.some.inj opened)
  rw [isOne, bare, List.length_map] at same
  rw [ids, List.length_map, same] at isTwo
  cases isTwo

end Desktop

end AutismOS.Windows
