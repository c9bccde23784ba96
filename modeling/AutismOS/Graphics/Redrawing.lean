import AutismOS.Graphics.Buffers

namespace AutismOS.Graphics

open AutismOS.Library AutismOS.Ipc AutismOS.Processes

/-! When the graphics server stops to redraw. -/

/-- What `redraw_all` asks of a window that it draws. -/
structure GfxWindow.Drawable (win : GfxWindow) : Prop where
  id : win.id ≠ 0
  visible : win.visible = true
  buffer : win.buffer ≠ 0

/-- The mark of a window goes away when everything is redrawn. -/
def GfxWindow.Settles (win : GfxWindow) : Prop := win.damaged = true → win.Drawable

namespace GfxServer

variable {server before after : GfxServer} {slot other windowId block : Nat} {color : UInt8}
  {change : GfxWindow → GfxWindow} {win : GfxWindow}

def Settles (server : GfxServer) : Prop := ∀ slot, slot < gfxMaxWindows → (server.windows slot).Settles

theorem redrawAll_damaged (inside : slot < gfxMaxWindows) :
    (server.redrawAll.windows slot).damaged = true ↔ ¬ (server.windows slot).Settles := by
  rw [redrawAll]
  dsimp only
  by_cases drawn : slot < gfxMaxWindows ∧ (server.windows slot).id ≠ 0 ∧ (server.windows slot).visible ∧
      (server.windows slot).buffer ≠ 0
  · rw [if_pos drawn]
    exact iff_of_false Bool.false_ne_true (not_not.mpr fun _ => ⟨drawn.2.1, drawn.2.2.1, drawn.2.2.2⟩)
  · rw [if_neg drawn]
    constructor
    · intro damaged settles
      exact drawn ⟨inside, (settles damaged).id, (settles damaged).visible, (settles damaged).buffer⟩
    · intro unsettled
      exact Classical.byContradiction fun undamaged => unsettled fun damaged => absurd damaged undamaged

/-- Nothing is left to redraw exactly if every window with a mark was drawn. -/
theorem redrawAll_settles : server.redrawAll.needsRedraw = false ↔ server.Settles := by
  rw [needsRedraw, List.any_eq_false]
  constructor
  · intro clean slot inside
    have unmarked := clean slot (List.mem_range.mpr inside)
    rw [redrawAll_damaged inside] at unmarked
    exact Classical.not_not.mp unmarked
  · intro settles slot member
    rw [redrawAll_damaged (List.mem_range.mp member)]
    exact not_not.mpr (settles slot (List.mem_range.mp member))

theorem settles_redrawAll (settles : server.Settles) : server.redrawAll.Settles := by
  intro slot inside damaged
  exact absurd (settles slot inside) ((redrawAll_damaged inside).mp damaged)

/-- Where one window changes, it depends on that one. -/
theorem Settles.update (settles : before.Settles) (inside : slot < gfxMaxWindows)
    (isAfter : after.windows = Function.update before.windows slot win) : after.Settles ↔ win.Settles := by
  constructor
  · intro all
    have here := all slot inside
    rwa [isAfter, Function.update_self] at here
  · intro new other isOther
    rw [isAfter]
    by_cases here : other = slot
    · rw [here, Function.update_self]
      exact new
    · rw [Function.update_of_ne here]
      exact settles other isOther

theorem drawRect_windows {rows columns : List Nat} {drawn : Nat → Nat → Bool} {index : Nat → Nat → Nat} :
    (rows.foldl (fun server row =>
      columns.foldl (fun server column =>
        if drawn column row then server.setPixel slot (index row column) color else server) server) server).windows =
      server.windows := by
  have same (columns : List Nat) (row : Nat) (server : GfxServer) :
      (columns.foldl (fun server column =>
        if drawn column row then server.setPixel slot (index row column) color else server) server).windows =
          server.windows := by
    induction columns generalizing server with
    | nil => rfl
    | cons column rest ih =>
        rw [List.foldl_cons, ih]
        split
        · rfl
        · rfl
  induction rows generalizing server with
  | nil => rfl
  | cons row rest ih => rw [List.foldl_cons, ih, same]

theorem drawCharacters_windows {x y : Nat} {text : List UInt8} :
    (drawCharacters slot y color server x text).windows = server.windows := by
  induction text generalizing server x with
  | nil => rfl
  | cons char rest ih =>
      rw [drawCharacters]
      dsimp only
      split
      · rw [ih]
        split
        · rfl
        · rfl
      · rfl

/-- When a message leaves only marks that a redraw takes away. -/
def Settling (server : GfxServer) (block : Nat) : Command → Prop
  | .createWindow _ _ _ _ flags _ =>
      server.findFreeWindow.isSome = true → block ≠ 0 → server.nextWindowId ≠ 0 ∧ flags &&& gfxWindowVisible ≠ 0
  | .destroyWindow windowId | .hideWindow windowId =>
      ∀ slot ∈ server.findWindow windowId, (server.windows slot).damaged = false
  | .showWindow windowId => ∀ slot ∈ server.findWindow windowId, windowId ≠ 0
  | .clear windowId _ | .drawRect _ windowId .. | .drawText windowId .. | .present windowId | .setTitle windowId _ =>
      ∀ slot ∈ server.findWindow windowId, windowId ≠ 0 ∧ (server.windows slot).visible = true
  | .other => True

/-- A change that marks a window and does not take away what it needs to be drawn. -/
structure Marks (change : GfxWindow → GfxWindow) : Prop where
  id : ∀ win, (change win).id = win.id
  buffer : ∀ win, (change win).buffer = win.buffer
  damaged : ∀ win, (change win).damaged = true

theorem damaged_marks : Marks fun win => { win with damaged := true } := ⟨fun _ => rfl, fun _ => rfl, fun _ => rfl⟩

/-- A window with a mark is drawn if it has an id and is visible; what was painted in it does not matter. -/
theorem Settles.mark (settles : before.Settles) (found : before.findWindow windowId = some slot)
    (painted : after.windows = before.windows) (marks : Marks change) :
    (after.edit slot change).Settles ↔ windowId ≠ 0 ∧ (change (before.windows slot)).visible = true := by
  obtain ⟨inside, isId, live⟩ := findWindow_some found
  have isAfter : (after.edit slot change).windows = Function.update before.windows slot (change (before.windows slot)) := by
    rw [edit, painted]
  rw [settles.update inside isAfter]
  constructor
  · intro settled
    have drawable := settled (marks.damaged _)
    rw [← isId, ← marks.id]
    exact ⟨drawable.id, drawable.visible⟩
  · rintro ⟨nonzero, visible⟩ _
    refine ⟨?_, visible, ?_⟩
    · rwa [marks.id, isId]
    · rwa [marks.buffer]

/-- A window that can no longer be drawn keeps its mark. -/
theorem Settles.drop (settles : server.Settles) (found : server.findWindow windowId = some slot)
    (undrawable : ∀ win, ¬ (change win).Drawable) (same : ∀ win, (change win).damaged = win.damaged) :
    (server.edit slot change).Settles ↔ (server.windows slot).damaged = false := by
  rw [settles.update (findWindow_some found).1 rfl, GfxWindow.Settles, same]
  constructor
  · intro settled
    exact Bool.eq_false_iff.mpr fun damaged => undrawable _ (settled damaged)
  · intro unmarked damaged
    rw [unmarked] at damaged
    cases damaged

/-- A message about a window that does not exist changes nothing. -/
theorem Settles.lookup {holds : Nat → Prop} (settles : before.Settles)
    (missing : before.findWindow windowId = none → after = before)
    (each : ∀ slot, before.findWindow windowId = some slot → (after.Settles ↔ holds slot)) :
    after.Settles ↔ ∀ slot ∈ before.findWindow windowId, holds slot := by
  cases found : before.findWindow windowId with
  | none =>
      rw [missing found]
      exact iff_of_true settles fun _ member => absurd member (Option.not_mem_none _)
  | some slot =>
      rw [each slot found]
      constructor
      · intro here other member
        rwa [← Option.some.inj member]
      · exact fun all => all slot rfl

/-- The commands that only change the window. -/
theorem editWindow_settles {holds : Nat → Prop} (settles : server.Settles)
    (each : ∀ slot, server.findWindow windowId = some slot → ((server.edit slot change).Settles ↔ holds slot)) :
    (server.editWindow windowId change).Settles ↔ ∀ slot ∈ server.findWindow windowId, holds slot := by
  apply settles.lookup
  · intro missing
    rw [editWindow, missing]
  · intro slot found
    rw [editWindow, found]
    exact each slot found

theorem findFreeWindow_some (free : server.findFreeWindow = some slot) :
    slot < gfxMaxWindows ∧ ((server.windows slot).id = 0 ∨ (server.windows slot).buffer = 0) := by
  have member := List.mem_of_find?_eq_some free
  have passed := List.find?_some free
  exact ⟨List.mem_range.mp member, of_decide_eq_true passed⟩

theorem createWindow_settles (settles : server.Settles) {senderPid x y width height flags : Nat} {title : List UInt8}
    {resp : GfxResponse} :
    (server.handleCreateWindow block senderPid x y width height flags title resp).2.Settles ↔
      server.Settling block (.createWindow x y width height flags title) := by
  rw [Settling]
  cases free : server.findFreeWindow with
  | none =>
      rw [handleCreateWindow_none free]
      exact iff_of_true settles fun contrary => absurd contrary Bool.false_ne_true
  | some slot =>
      obtain ⟨inside, unused⟩ := findFreeWindow_some free
      by_cases null : block = 0
      · have unmarked : ¬ (server.windows slot).damaged = true := by
          intro damaged
          have drawable := settles slot inside damaged
          exact unused.elim drawable.id drawable.buffer
        rw [null, handleCreateWindow_null free]
        have isAfter : (server.edit slot fun win => { win with buffer := 0, size := width * height % 2 ^ 32 }).windows =
            Function.update server.windows slot { server.windows slot with buffer := 0, size := width * height % 2 ^ 32 } := rfl
        apply iff_of_true
        · apply (settles.update inside isAfter).mpr
          exact fun damaged => absurd damaged unmarked
        · exact fun _ nonNull => absurd rfl nonNull
      · rw [handleCreateWindow_some free null, settles.update inside rfl]
        constructor
        · intro settled _ _
          exact ⟨(settled rfl).id, of_decide_eq_true (settled rfl).visible⟩
        · intro settling _
          obtain ⟨nonzero, visible⟩ := settling rfl null
          exact ⟨nonzero, decide_eq_true visible, null⟩

/-- After a message nothing keeps the server redrawing exactly where the message is such a one. -/
theorem processMessage_settles (settles : server.Settles) (msg : GfxMessage) :
    (server.processMessage block msg).2.Settles ↔ server.Settling block msg.command := by
  simp only [processMessage]
  cases msg.command with
  | createWindow x y width height flags title => exact createWindow_settles settles
  | destroyWindow windowId =>
      dsimp only
      apply settles.lookup
      · intro missing
        rw [handleDestroyWindow, missing]
      · intro slot found
        rw [handleDestroyWindow, found]
        dsimp only
        exact settles.drop found (fun _ drawable => drawable.id rfl) fun _ => rfl
  | hideWindow windowId =>
      apply editWindow_settles settles
      intro slot found
      exact settles.drop found (fun _ drawable => Bool.false_ne_true drawable.visible) fun _ => rfl
  | showWindow windowId =>
      apply editWindow_settles settles
      intro slot found
      have marks : Marks fun win => { win with visible := true, damaged := true } :=
        ⟨fun _ => rfl, fun _ => rfl, fun _ => rfl⟩
      rw [settles.mark found rfl marks]
      exact and_iff_left rfl
  | clear windowId color =>
      dsimp only
      apply settles.lookup
      · intro missing
        rw [clearWindow, missing]
      · intro slot found
        rw [clearWindow, found]
        exact settles.mark found rfl damaged_marks
  | drawRect filled windowId x y width height color =>
      dsimp only
      apply settles.lookup
      · intro missing
        rw [handleDrawRect, missing]
      · intro slot found
        rw [handleDrawRect, found]
        exact settles.mark found drawRect_windows damaged_marks
  | drawText windowId x y text color =>
      dsimp only
      apply settles.lookup
      · intro missing
        rw [handleDrawText, missing]
      · intro slot found
        rw [handleDrawText, found]
        exact settles.mark found drawCharacters_windows damaged_marks
  | present windowId =>
      dsimp only
      apply settles.lookup
      · intro missing
        rw [handlePresent, missing]
      · intro slot found
        rw [handlePresent, found]
        exact settles.mark found rfl damaged_marks
  | setTitle windowId title =>
      apply editWindow_settles settles
      intro slot found
      exact settles.mark found rfl ⟨fun _ => rfl, fun _ => rfl, fun _ => rfl⟩
  | other => exact iff_of_true settles trivial

/-- What the loop of `gfx_server_run` does; `block` is the answer of `kmalloc`. -/
inductive Turn where
  | message (block : Nat) (msg : GfxMessage)
  | redraw

def serve (server : GfxServer) : Turn → GfxServer
  | .message block msg => (server.processMessage block msg).2
  | .redraw => server.redrawAll

def SettlingTurn (server : GfxServer) : Turn → Prop
  | .message block msg => server.Settling block msg.command
  | .redraw => True

theorem gfxServerInit_settles (memory : TracedMemory) : (gfxServerInit memory).Settles :=
  fun _ _ damaged => absurd damaged Bool.false_ne_true

theorem serve_settles (settles : server.Settles) (turn : Turn) :
    (server.serve turn).Settles ↔ server.SettlingTurn turn := by
  cases turn with
  | message block msg => exact processMessage_settles settles msg
  | redraw => exact iff_of_true (settles_redrawAll settles) trivial

/-- A redraw leaves nothing to redraw in every state of a run exactly if every message is such a one. -/
theorem run_settles_iff (memory : TracedMemory) (turns : List Turn) :
    Observed (fun server turn => some (server.serve turn)) (fun _ _ next => next.redrawAll.needsRedraw = false)
        (gfxServerInit memory) turns (turns.foldl serve (gfxServerInit memory)) ↔
      Restricted (fun server turn => some (server.serve turn)) SettlingTurn (gfxServerInit memory) turns
        (turns.foldl serve (gfxServerInit memory)) := by
  apply (Run.foldl serve turns (gfxServerInit memory)).observed_iff Settles
  · intro before turn next settles _ performed
    obtain rfl := Option.some.inj performed
    rw [redrawAll_settles]
    exact serve_settles settles turn
  · intro before turn next settles _ performed allowed
    obtain rfl := Option.some.inj performed
    exact (serve_settles settles turn).mpr allowed
  · exact gfxServerInit_settles memory

/-- A window that is destroyed before it was drawn keeps the server redrawing, and so does one that is drawn in while
it is hidden. -/
theorem run_keeps_redrawing :
    ([Turn.message 0x300000 (direct (.gfxCreateWindow 3 4 10 9 none 1) 0).msg,
      .message 0 (direct (.gfxDestroyWindow 1) 0).msg].foldl serve (gfxServerInit blankMemory)).redrawAll.needsRedraw = true ∧
    ([Turn.message 0x300000 (direct (.gfxCreateWindow 3 4 10 9 none 1) 0).msg, .redraw,
      .message 0 (direct (.gfxSetVisible 1 0) 0).msg,
      .message 0 (direct (.gfxPresent 1) 0).msg].foldl serve (gfxServerInit blankMemory)).redrawAll.needsRedraw = true := by
  decide +kernel

end GfxServer

end AutismOS.Graphics
