import AutismOS.Graphics.Server
import AutismOS.Library.Run

namespace AutismOS.Graphics

open AutismOS.Library AutismOS.Processes

/-! Where the handlers of the graphics server write. -/

/-- A window whose buffer was asked for with its size. -/
structure GfxWindow.Sized (win : GfxWindow) : Prop where
  size : win.size = win.width * win.height % 2 ^ 32
  fits : win.buffer + win.size ≤ 2 ^ 32
  width : win.width < 2 ^ 32
  height : win.height < 2 ^ 32

/-- The rectangle has a pixel in the window. -/
def GfxWindow.Covered (win : GfxWindow) (x y width height : Nat) : Prop :=
  (y < (y + height) % 2 ^ 32 ∧ y < win.height) ∧ x < (x + width) % 2 ^ 32 ∧ x < win.width

/-- Where a pixel is drawn, its index in the buffer has 32 bits. -/
def GfxWindow.RectSafe (win : GfxWindow) (x y width height : Nat) : Prop :=
  win.Covered x y width height → win.width * win.height < 2 ^ 32

/-- The subtractions that are made do not go below zero, and where a character is drawn, the index
of every pixel has 32 bits. -/
def GfxWindow.TextSafe (win : GfxWindow) (x y : Nat) (text : List UInt8) : Prop :=
  text ≠ [] → 6 ≤ win.width ∧ (x < win.width - 6 → 8 ≤ win.height ∧ (y < win.height - 8 → win.width * win.height < 2 ^ 32))

namespace GfxServer

variable {server before middle after : GfxServer} {slot other windowId index count block : Nat} {color : UInt8}
variable {change : GfxWindow → GfxWindow}

def Sized (server : GfxServer) : Prop := ∀ slot, (server.windows slot).buffer ≠ 0 → (server.windows slot).Sized

/-- The address belongs to the buffer of the window in a slot. -/
def InBuffer (server : GfxServer) (slot address : Nat) : Prop :=
  (server.windows slot).buffer ≠ 0 ∧ (server.windows slot).buffer ≤ address ∧
    address < (server.windows slot).buffer + (server.windows slot).size

/-- The slot that a message is about. -/
def slotOf (server : GfxServer) : Command → Option Nat
  | .createWindow .. => server.findFreeWindow
  | .destroyWindow windowId | .showWindow windowId | .hideWindow windowId | .clear windowId _
  | .drawRect _ windowId .. | .drawText windowId .. | .present windowId | .setTitle windowId _ =>
      server.findWindow windowId
  | .other => none

/-- Only pixels of the window in a slot were written. -/
structure Painted (slot : Nat) (before after : GfxServer) : Prop where
  windows : after.windows = before.windows
  nextWindowId : after.nextWindowId = before.nextWindowId
  memory : TracedMemory.Within (before.InBuffer slot) before.memory after.memory

theorem Painted.refl : Painted slot before before := ⟨rfl, rfl, .refl⟩

theorem Painted.trans (first : Painted slot before middle) (second : Painted slot middle after) :
    Painted slot before after := by
  have same : middle.InBuffer slot = before.InBuffer slot := by
    funext address
    rw [InBuffer, InBuffer, first.windows]
  refine ⟨second.windows.trans first.windows, second.nextWindowId.trans first.nextWindowId, ?_⟩
  have later := second.memory
  rw [same] at later
  exact first.memory.trans later

/-- A loop paints when each of its turns does. -/
theorem Painted.foldl {items : List Nat} {turn : GfxServer → Nat → GfxServer}
    (each : ∀ item ∈ items, ∀ current, current.windows = before.windows → Painted slot current (turn current item)) :
    Painted slot before (items.foldl turn before) := by
  refine List.foldlRecOn items turn .refl ?_
  intro current painted item member
  exact painted.trans (each item member current painted.windows)

theorem setPixel_painted (live : (server.windows slot).buffer ≠ 0) (sized : (server.windows slot).Sized)
    (inside : index % 2 ^ 32 < (server.windows slot).size) :
    Painted slot server (server.setPixel slot index color) := by
  have fits := sized.fits
  refine ⟨rfl, rfl, TracedMemory.storeByte_within ?_⟩
  rw [Nat.mod_eq_of_lt (by omega)]
  exact ⟨live, Nat.le_add_right .., Nat.add_lt_add_left inside _⟩

theorem setPixels_painted (live : (server.windows slot).buffer ≠ 0) (sized : (server.windows slot).Sized)
    (inside : count ≤ (server.windows slot).size) : Painted slot server (server.setPixels slot color count) := by
  have fits := sized.fits
  refine ⟨rfl, rfl, TracedMemory.fill_within ?_⟩
  intro offset bounded
  rw [Nat.mod_eq_of_lt (by omega)]
  exact ⟨live, Nat.le_add_right .., by omega⟩

/-- The index of a pixel, where it cannot overflow. -/
theorem pixel_inside {win : GfxWindow} {column row : Nat} (sized : win.Sized) (left : column < win.width)
    (above : row < win.height) (small : win.width * win.height < 2 ^ 32) :
    (row * win.width + column) % 2 ^ 32 < win.size := by
  have whole : (row + 1) * win.width ≤ win.height * win.width := Nat.mul_le_mul_right _ above
  rw [Nat.succ_mul, Nat.mul_comm win.height] at whole
  rw [sized.size, Nat.mod_eq_of_lt small, Nat.mod_eq_of_lt (by omega)]
  omega

theorem mem_span {item start limit bound : Nat} (member : item ∈ List.range' start (min limit bound - start)) :
    start ≤ item ∧ item < limit ∧ item < bound := by
  obtain ⟨low, high⟩ := List.mem_range'_1.mp member
  omega

/-- The two loops of `handle_draw_rect`. -/
theorem drawRect_painted {x y width height : Nat} {drawn : Nat → Nat → Bool} {win : GfxWindow}
    (is : server.windows slot = win) (live : win.buffer ≠ 0) (sized : win.Sized)
    (safe : win.RectSafe x y width height) : Painted slot server ((List.range' y (min ((y + height) % 2 ^ 32) win.height - y)).foldl (fun server row =>
      (List.range' x (min ((x + width) % 2 ^ 32) win.width - x)).foldl (fun server column =>
        if drawn column row then server.setPixel slot (row * win.width + column) color else server) server) server) := by
  apply Painted.foldl
  intro row inRows current same
  apply Painted.foldl
  intro column inColumns current' same'
  obtain ⟨below, above, high⟩ := mem_span inRows
  obtain ⟨right, left, wide⟩ := mem_span inColumns
  have still : current'.windows slot = win := by rw [same', same, is]
  have small := safe ⟨⟨by omega, by omega⟩, by omega, by omega⟩
  by_cases draws : drawn column row
  · rw [if_pos draws]
    apply setPixel_painted
    · rw [still]
      exact live
    · rw [still]
      exact sized
    · rw [still]
      exact pixel_inside sized wide high small
  · rw [if_neg draws]
    exact .refl

/-- The loop of `handle_draw_text`; it runs to the right, so what holds at `x` holds later. -/
theorem drawCharacters_painted {x y : Nat} {text : List UInt8} {win : GfxWindow} (is : server.windows slot = win)
    (live : win.buffer ≠ 0) (sized : win.Sized) (safe : win.TextSafe x y text) :
    Painted slot server (drawCharacters slot y color server x text) := by
  induction text generalizing server x with
  | nil => exact .refl
  | cons character rest ih =>
      obtain ⟨wide, tall⟩ := safe (List.cons_ne_nil _ _)
      have width := sized.width
      have height := sized.height
      have columns : (win.width + 2 ^ 32 - 6) % 2 ^ 32 = win.width - 6 := by omega
      simp only [drawCharacters, is, columns]
      by_cases fits : x < win.width - 6
      · rw [if_pos fits]
        obtain ⟨high, small⟩ := tall fits
        have rows : (win.height + 2 ^ 32 - 8) % 2 ^ 32 = win.height - 8 := by omega
        rw [rows]
        have first : Painted slot server
            (if y < win.height - 8 then server.setPixel slot (y * win.width + x) color else server) := by
          by_cases inside : y < win.height - 8
          · rw [if_pos inside]
            apply setPixel_painted
            · rw [is]
              exact live
            · rw [is]
              exact sized
            · rw [is]
              exact pixel_inside sized (by omega) (by omega) (small inside)
          · rw [if_neg inside]
            exact .refl
        refine first.trans (ih ?_ ?_)
        · rw [first.windows, is]
        · intro _
          exact ⟨wide, fun _ => ⟨high, small⟩⟩
      · rw [if_neg fits]
        exact .refl

/-- What `kmalloc` may answer: NULL, or a block apart from the buffers of all windows. -/
def Fresh (server : GfxServer) (size block : Nat) : Prop :=
  block = 0 ∨ block + size ≤ 2 ^ 32 ∧ ∀ slot < gfxMaxWindows, (server.windows slot).buffer ≠ 0 →
    block + size ≤ (server.windows slot).buffer ∨ (server.windows slot).buffer + (server.windows slot).size ≤ block

/-- What becomes of the buffer of a window: it is kept, given back, or new. -/
def Rebuffered (before : GfxServer) (win win' : GfxWindow) : Prop :=
  win'.buffer = win.buffer ∧ win'.size = win.size ∨ win'.buffer = 0 ∨ before.Fresh win'.size win'.buffer

/-- Apart from one slot nothing changes, and bytes are written only in the buffer of its window. -/
structure Confined (slot : Option Nat) (before after : GfxServer) : Prop where
  windows : ∀ other, slot ≠ some other → after.windows other = before.windows other
  rebuffered : ∀ other, before.Rebuffered (before.windows other) (after.windows other)
  memory : TracedMemory.Within (fun address => ∃ place, slot = some place ∧ after.InBuffer place address)
    before.memory after.memory

theorem Confined.refl {place : Option Nat} : Confined place before before := ⟨fun _ _ => rfl, fun _ => Or.inl ⟨rfl, rfl⟩, .refl⟩

theorem edit_other (apart : other ≠ slot) : (server.edit slot change).windows other = server.windows other :=
  Function.update_of_ne apart ..

theorem edit_same : (server.edit slot change).windows slot = change (server.windows slot) := Function.update_self ..

theorem edit_sized (sized : server.Sized)
    (kept : (change (server.windows slot)).buffer ≠ 0 → (change (server.windows slot)).Sized) :
    (server.edit slot change).Sized := by
  intro place nonNull
  by_cases here : place = slot
  · subst here
    rw [edit_same] at nonNull ⊢
    exact kept nonNull
  · rw [edit_other here] at nonNull ⊢
    exact sized place nonNull

theorem closed_confined (sized : server.Sized) (closed : ∀ win, (change win).buffer = 0) :
    Confined (some slot) server (server.edit slot change) ∧ (server.edit slot change).Sized := by
  refine ⟨⟨fun _ apart => edit_other fun same => apart (congrArg some same.symm), ?_, .refl⟩, ?_⟩
  · intro place
    by_cases here : place = slot
    · rw [here, edit_same]
      exact Or.inr (Or.inl (closed _))
    · rw [edit_other here]
      exact Or.inl ⟨rfl, rfl⟩
  · apply edit_sized sized
    exact fun nonNull => absurd (closed _) nonNull

/-- The change leaves the buffer of every window and what it was asked for with. -/
structure KeepsBuffer (change : GfxWindow → GfxWindow) : Prop where
  buffer : ∀ win, (change win).buffer = win.buffer
  size : ∀ win, (change win).size = win.size
  width : ∀ win, (change win).width = win.width
  height : ∀ win, (change win).height = win.height

theorem KeepsBuffer.sized {win : GfxWindow} (kept : KeepsBuffer change) (sized : win.Sized) : (change win).Sized := by
  constructor
  · rw [kept.size, kept.width, kept.height, sized.size]
  · rw [kept.buffer, kept.size]
    exact sized.fits
  · rw [kept.width]
    exact sized.width
  · rw [kept.height]
    exact sized.height

/-- Painting, and then a change that leaves the buffer. -/
theorem Painted.confined (painted : Painted slot before middle) (kept : KeepsBuffer change) (sized : before.Sized) :
    Confined (some slot) before (middle.edit slot change) ∧ (middle.edit slot change).Sized := by
  have middleSized : middle.Sized := by
    intro place
    rw [painted.windows]
    exact sized place
  refine ⟨⟨?_, ?_, ?_⟩, ?_⟩
  · intro place apart
    rw [edit_other fun same => apart (congrArg some same.symm), painted.windows]
  · intro place
    by_cases here : place = slot
    · rw [here, edit_same, painted.windows]
      exact Or.inl ⟨kept.buffer _, kept.size _⟩
    · rw [edit_other here, painted.windows]
      exact Or.inl ⟨rfl, rfl⟩
  · have same : (middle.edit slot change).InBuffer slot = before.InBuffer slot := by
      funext address
      rw [InBuffer, InBuffer, edit_same, painted.windows, kept.buffer, kept.size]
    have within := painted.memory
    rw [← same] at within
    exact ⟨fun address member => (within.touched address member).imp_right fun inside => ⟨slot, rfl, inside⟩,
      fun address outside => within.bytes address fun inside => outside ⟨slot, rfl, inside⟩⟩
  · apply edit_sized middleSized
    intro nonNull
    rw [kept.buffer] at nonNull
    exact kept.sized (middleSized slot nonNull)

theorem findWindow_some (found : server.findWindow windowId = some slot) :
    slot < gfxMaxWindows ∧ (server.windows slot).id = windowId ∧ (server.windows slot).buffer ≠ 0 := by
  have member := List.mem_of_find?_eq_some found
  have passed := List.find?_some found
  exact ⟨List.mem_range.mp member, of_decide_eq_true passed⟩

/-- The condition on the answer of `kmalloc`, where it is asked. -/
def Answered (server : GfxServer) (block : Nat) : Command → Prop
  | .createWindow _ _ width height _ _ => server.Fresh (width * height % 2 ^ 32) block
  | _ => True

/-- The condition on what is drawn. -/
def Safe (server : GfxServer) : Command → Prop
  | .drawRect _ windowId x y width height _ =>
      ∀ slot ∈ server.findWindow windowId, (server.windows slot).RectSafe x y width height
  | .drawText windowId x y text _ =>
      ∀ slot ∈ server.findWindow windowId, (server.windows slot).TextSafe x y text
  | _ => True

instance (win : GfxWindow) (x y width height : Nat) : Decidable (win.RectSafe x y width height) :=
  inferInstanceAs (Decidable ((_ ∧ _) ∧ _ ∧ _ → _ < _))

instance (win : GfxWindow) (x y : Nat) (text : List UInt8) : Decidable (win.TextSafe x y text) :=
  inferInstanceAs (Decidable (text ≠ [] → _ ≤ _ ∧ (_ < _ → _ ≤ _ ∧ (_ < _ → _ < _))))

instance (server : GfxServer) (size block : Nat) : Decidable (server.Fresh size block) :=
  inferInstanceAs (Decidable (_ ∨ _ ≤ _ ∧ ∀ slot < gfxMaxWindows, _ → _ ∨ _))

instance (server : GfxServer) (block : Nat) : (command : Command) → Decidable (server.Answered block command)
  | .createWindow .. => inferInstanceAs (Decidable (Fresh ..))
  | .destroyWindow _ | .showWindow _ | .hideWindow _ | .clear .. | .drawRect .. | .drawText .. | .present _
  | .setTitle .. | .other => inferInstanceAs (Decidable True)

instance (server : GfxServer) : (command : Command) → Decidable (server.Safe command)
  | .drawRect .. => inferInstanceAs (Decidable (∀ slot ∈ server.findWindow _, _))
  | .drawText .. => inferInstanceAs (Decidable (∀ slot ∈ server.findWindow _, _))
  | .createWindow .. | .destroyWindow _ | .showWindow _ | .hideWindow _ | .clear .. | .present _
  | .setTitle .. | .other => inferInstanceAs (Decidable True)

/-- The window that `handle_create_window` makes. -/
def newWindow (server : GfxServer) (block senderPid x y width height flags : Nat) (title : List UInt8) : GfxWindow where
  id := server.nextWindowId
  ownerPid := senderPid
  x
  y
  width
  height
  flags
  title
  buffer := block
  size := width * height % 2 ^ 32
  visible := flags &&& gfxWindowVisible ≠ 0
  focused := false
  damaged := true

/-- The server with a new window in a slot. -/
def opened (server : GfxServer) (slot : Nat) (win : GfxWindow) : GfxServer where
  windows := Function.update server.windows slot win
  nextWindowId := (server.nextWindowId + 1) % 2 ^ 32
  focusedWindow := server.focusedWindow
  memory := server.memory.fill win.buffer win.size colorWhite

variable {win : GfxWindow}

theorem opened_same : (server.opened slot win).windows slot = win := Function.update_self ..

theorem opened_other (apart : other ≠ slot) : (server.opened slot win).windows other = server.windows other :=
  Function.update_of_ne apart ..

theorem opened_confined (sized : server.Sized) (isSized : win.Sized) (nonNull : win.buffer ≠ 0)
    (fresh : server.Fresh win.size win.buffer) :
    Confined (some slot) server (server.opened slot win) ∧ (server.opened slot win).Sized := by
  have fits := isSized.fits
  refine ⟨⟨?_, ?_, TracedMemory.fill_within ?_⟩, ?_⟩
  · intro place apart
    exact opened_other fun same => apart (congrArg some same.symm)
  · intro place
    by_cases here : place = slot
    · rw [here, opened_same]
      exact Or.inr (Or.inr fresh)
    · rw [opened_other here]
      exact Or.inl ⟨rfl, rfl⟩
  · intro offset bounded
    refine ⟨slot, rfl, ?_⟩
    rw [Nat.mod_eq_of_lt (by omega), InBuffer, opened_same]
    exact ⟨nonNull, by omega, by omega⟩
  · intro place nonNull
    by_cases here : place = slot
    · rw [here, opened_same]
      exact isSized
    · rw [opened_other here] at nonNull ⊢
      exact sized place nonNull

variable {senderPid x y width height flags : Nat} {title text : List UInt8} {resp : GfxResponse}

theorem handleCreateWindow_none (full : server.findFreeWindow = none) :
    server.handleCreateWindow block senderPid x y width height flags title resp =
      ({ resp with result := gfxErrOutOfMemory }, server) := by
  rw [handleCreateWindow, full]

theorem handleCreateWindow_null (free : server.findFreeWindow = some slot) :
    server.handleCreateWindow 0 senderPid x y width height flags title resp =
      ({ resp with result := gfxErrOutOfMemory },
        server.edit slot fun win => { win with buffer := 0, size := width * height % 2 ^ 32 }) := by
  simp only [handleCreateWindow, free, if_true]

theorem handleCreateWindow_some (free : server.findFreeWindow = some slot) (nonNull : block ≠ 0) :
    server.handleCreateWindow block senderPid x y width height flags title resp =
      ({ resp with result := gfxOk, data := server.nextWindowId },
        server.opened slot (server.newWindow block senderPid x y width height flags title)) := by
  simp [handleCreateWindow, free, nonNull, edit, setPixels, newWindow, opened]

theorem createWindow_confined (sized : server.Sized) (fresh : server.Fresh (width * height % 2 ^ 32) block)
    (wide : width < 2 ^ 32) (high : height < 2 ^ 32) :
    Confined server.findFreeWindow server
        (server.handleCreateWindow block senderPid x y width height flags title resp).2 ∧
      (server.handleCreateWindow block senderPid x y width height flags title resp).2.Sized := by
  cases free : server.findFreeWindow with
  | none =>
      rw [handleCreateWindow_none free]
      exact ⟨.refl, sized⟩
  | some slot =>
      by_cases null : block = 0
      · subst null
        rw [handleCreateWindow_null free]
        dsimp only
        apply closed_confined sized
        exact fun _ => rfl
      · obtain ⟨fits, _⟩ := fresh.resolve_left null
        rw [handleCreateWindow_some free null]
        exact opened_confined sized ⟨rfl, fits, wide, high⟩ null fresh

theorem editWindow_confined (sized : server.Sized) (kept : KeepsBuffer change) :
    Confined (server.findWindow windowId) server (server.editWindow windowId change) ∧
      (server.editWindow windowId change).Sized := by
  rw [editWindow]
  cases found : server.findWindow windowId with
  | none => exact ⟨.refl, sized⟩
  | some slot => exact Painted.refl.confined kept sized

theorem destroyWindow_confined (sized : server.Sized) :
    Confined (server.findWindow windowId) server (server.handleDestroyWindow windowId resp).2 ∧
      (server.handleDestroyWindow windowId resp).2.Sized := by
  rw [handleDestroyWindow]
  cases found : server.findWindow windowId with
  | none => exact ⟨.refl, sized⟩
  | some slot =>
      dsimp only
      apply closed_confined sized
      exact fun _ => rfl

theorem damaged_keeps : KeepsBuffer fun win => { win with damaged := true } :=
  ⟨fun _ => rfl, fun _ => rfl, fun _ => rfl, fun _ => rfl⟩

theorem clearWindow_confined (sized : server.Sized) :
    Confined (server.findWindow windowId) server (server.clearWindow windowId color) ∧
      (server.clearWindow windowId color).Sized := by
  rw [clearWindow]
  cases found : server.findWindow windowId with
  | none => exact ⟨.refl, sized⟩
  | some slot =>
      have live := (findWindow_some found).2.2
      have whole := sized slot live
      exact (setPixels_painted live whole (Nat.le_of_eq whole.size.symm)).confined damaged_keeps sized

theorem drawRect_confined {filled : Bool} (sized : server.Sized)
    (safe : server.Safe (.drawRect filled windowId x y width height color)) :
    Confined (server.findWindow windowId) server
        (server.handleDrawRect filled windowId x y width height color resp).2 ∧
      (server.handleDrawRect filled windowId x y width height color resp).2.Sized := by
  rw [handleDrawRect]
  cases found : server.findWindow windowId with
  | none => exact ⟨.refl, sized⟩
  | some slot =>
      have live := (findWindow_some found).2.2
      exact (drawRect_painted rfl live (sized slot live) (safe slot found)).confined damaged_keeps sized

theorem drawText_confined (sized : server.Sized) (safe : server.Safe (.drawText windowId x y text color)) :
    Confined (server.findWindow windowId) server (server.handleDrawText windowId x y text color resp).2 ∧
      (server.handleDrawText windowId x y text color resp).2.Sized := by
  rw [handleDrawText]
  cases found : server.findWindow windowId with
  | none => exact ⟨.refl, sized⟩
  | some slot =>
      have live := (findWindow_some found).2.2
      exact (drawCharacters_painted rfl live (sized slot live) (safe slot found)).confined damaged_keeps sized

theorem present_confined (sized : server.Sized) :
    Confined (server.findWindow windowId) server (server.handlePresent windowId resp).2 ∧
      (server.handlePresent windowId resp).2.Sized := by
  rw [handlePresent]
  cases found : server.findWindow windowId with
  | none => exact ⟨.refl, sized⟩
  | some slot => exact Painted.refl.confined damaged_keeps sized

/-- The numbers of a message have 32 bits. -/
theorem command_small {msg : GfxMessage} (command : msg.command = .createWindow x y width height flags title) :
    width < 2 ^ 32 ∧ height < 2 ^ 32 := by
  unfold GfxMessage.command at command
  split at command <;> cases command
  exact ⟨ByteMemory.loadWord_lt, ByteMemory.loadWord_lt⟩

/-- A message changes only the window that it is about, and writes only into its buffer. -/
theorem processMessage_confined {msg : GfxMessage} (sized : server.Sized) (answered : server.Answered block msg.command)
    (safe : server.Safe msg.command) :
    Confined (server.slotOf msg.command) server (server.processMessage block msg).2 ∧
      (server.processMessage block msg).2.Sized := by
  simp only [processMessage]
  cases command : msg.command with
  | createWindow x y width height flags title =>
      rw [command] at answered
      obtain ⟨wide, high⟩ := command_small command
      exact createWindow_confined sized answered wide high
  | destroyWindow windowId => exact destroyWindow_confined sized
  | showWindow windowId => exact editWindow_confined sized ⟨fun _ => rfl, fun _ => rfl, fun _ => rfl, fun _ => rfl⟩
  | hideWindow windowId => exact editWindow_confined sized ⟨fun _ => rfl, fun _ => rfl, fun _ => rfl, fun _ => rfl⟩
  | clear windowId color => exact clearWindow_confined sized
  | drawRect filled windowId x y width height color =>
      rw [command] at safe
      exact drawRect_confined sized safe
  | drawText windowId x y text color =>
      rw [command] at safe
      exact drawText_confined sized safe
  | present windowId => exact present_confined sized
  | setTitle windowId title => exact editWindow_confined sized ⟨fun _ => rfl, fun _ => rfl, fun _ => rfl, fun _ => rfl⟩
  | other => exact ⟨.refl, sized⟩

/-- A message for `process_message`, with the answer of `kmalloc`. -/
structure Call where
  msg : GfxMessage
  block : Nat

/-- The record of the writes starts anew with every message. -/
def perform (server : GfxServer) (call : Call) : Option GfxServer :=
  some ({ server with memory := { server.memory with touched := [] } }.processMessage call.block call.msg).2

def AnsweredCall (server : GfxServer) (call : Call) : Prop := server.Answered call.block call.msg.command

def SafeCall (server : GfxServer) (call : Call) : Prop :=
  server.Answered call.block call.msg.command ∧ server.Safe call.msg.command

/-- What was written lies in the buffer of the window that the message is about. -/
def WritesInside (before : GfxServer) (call : Call) (after : GfxServer) : Prop :=
  ∀ address ∈ after.memory.touched, ∃ slot, before.slotOf call.msg.command = some slot ∧ after.InBuffer slot address

theorem gfxServerInit_sized (memory : TracedMemory) : (gfxServerInit memory).Sized := fun _ nonNull => absurd rfl nonNull

/-- The handlers write only into the buffer of the window that they are asked to draw in, as long as
subtractions from its size do not go below zero and indices have 32 bits. -/
theorem run_writes_inside {memory : TracedMemory} {calls : List Call}
    (run : Restricted perform SafeCall (gfxServerInit memory) calls after) :
    Observed perform WritesInside (gfxServerInit memory) calls after := by
  apply run.observed Sized
  · intro before call next sized allowed done
    cases done
    have unrecorded : Sized { before with memory := { before.memory with touched := [] } } := sized
    obtain ⟨confined, nextSized⟩ := processMessage_confined unrecorded allowed.1 allowed.2
    refine ⟨fun address member => ?_, nextSized⟩
    exact (confined.memory.touched address member).resolve_left List.not_mem_nil
  · exact gfxServerInit_sized memory

instance (server : GfxServer) (call : Call) : Decidable (server.SafeCall call) :=
  inferInstanceAs (Decidable (_ ∧ _))

instance (server : GfxServer) (call : Call) : Decidable (server.AnsweredCall call) :=
  inferInstanceAs (Decidable (server.Answered ..))

/-- A request as its client built it. -/
def direct (request : Request) (block : Nat) : Call where
  msg := request.message emptyMessage
  block

def blankMemory : TracedMemory := { bytes := fun _ => 0, touched := [] }

theorem run_writes_inside_drawing : ∃ after : GfxServer, (after.memory.bytes 0x300000 = 7 ∧ after.memory.touched ≠ []) ∧
    Observed perform WritesInside (gfxServerInit blankMemory)
      [direct (.gfxCreateWindow 3 4 10 9 none 1) 0x300000, direct (.gfxFillRect 1 0 0 2 2 7) 0] after := by
  have computed : (performAll perform (fun server call => decide (server.SafeCall call)) (gfxServerInit blankMemory)
      [direct (.gfxCreateWindow 3 4 10 9 none 1) 0x300000, direct (.gfxFillRect 1 0 0 2 2 7) 0]).any
        (fun after => after.memory.bytes 0x300000 = 7 ∧ after.memory.touched ≠ []) = true := by decide +kernel
  obtain ⟨after, reached, drawn⟩ := (Option.any_eq_true _ _).mp computed
  have run := (performAll_restricted reached).mono fun _ _ _ performed =>
    And.imp_left of_decide_eq_true performed
  exact ⟨after, of_decide_eq_true drawn, run_writes_inside run⟩

/-- In a window that is narrower than a character the subtraction goes below zero, and a character is
written behind the buffer. -/
theorem run_writes_outside : ∃ after : GfxServer,
    Restricted perform AnsweredCall (gfxServerInit blankMemory)
      [direct (.gfxCreateWindow 3 4 4 20 none 1) 0x300000, direct (.gfxDrawText 1 200 0 (some [65]) 7) 0] after ∧
    ¬ Observed perform WritesInside (gfxServerInit blankMemory)
      [direct (.gfxCreateWindow 3 4 4 20 none 1) 0x300000, direct (.gfxDrawText 1 200 0 (some [65]) 7) 0] after := by
  have computed : (performAll perform (fun server call => decide (server.AnsweredCall call)) (gfxServerInit blankMemory)
      [direct (.gfxCreateWindow 3 4 4 20 none 1) 0x300000, direct (.gfxDrawText 1 200 0 (some [65]) 7) 0]).any
        (fun after => 0x300000 + 200 ∈ after.memory.touched ∧ (after.windows 0).buffer = 0x300000 ∧
          (after.windows 0).size = 80) = true := by decide +kernel
  have found : (performAll perform (fun _ _ => true) (gfxServerInit blankMemory)
      [direct (.gfxCreateWindow 3 4 4 20 none 1) 0x300000]).any (fun middle => middle.findWindow 1 = some 0) = true := by
    decide +kernel
  obtain ⟨after, reached, known⟩ := (Option.any_eq_true _ _).mp computed
  obtain ⟨written, buffer, size⟩ := of_decide_eq_true known
  have run := (performAll_restricted reached).mono fun _ _ _ performed => And.imp_left of_decide_eq_true performed
  refine ⟨after, run, fun observed => ?_⟩
  have split : Observed perform WritesInside (gfxServerInit blankMemory)
      ([direct (.gfxCreateWindow 3 4 4 20 none 1) 0x300000] ++ [direct (.gfxDrawText 1 200 0 (some [65]) 7) 0]) after :=
    observed
  obtain ⟨middle, first, _, seen⟩ := split.last_observed
  rw [first, Option.any_some] at found
  obtain ⟨slot, isSlot, inside⟩ := seen _ written
  have same : slot = 0 := Option.some.inj (isSlot.symm.trans (of_decide_eq_true found))
  rw [same, InBuffer, buffer, size] at inside
  omega

end GfxServer

end AutismOS.Graphics

namespace AutismOS.Graphics.GfxServer

open AutismOS.Library

variable {server before after : GfxServer} {slot other address block : Nat} {command : Command} {call : Call}

/-- The buffers of two windows do not meet. -/
def Apart (server : GfxServer) : Prop :=
  ∀ slot < gfxMaxWindows, ∀ other < gfxMaxWindows, slot ≠ other → (server.windows slot).buffer ≠ 0 →
    (server.windows other).buffer ≠ 0 →
      (server.windows slot).buffer + (server.windows slot).size ≤ (server.windows other).buffer ∨
        (server.windows other).buffer + (server.windows other).size ≤ (server.windows slot).buffer

theorem slotOf_lt (isSlot : server.slotOf command = some slot) : slot < gfxMaxWindows := by
  cases command with
  | createWindow x y width height flags title =>
      rw [slotOf, findFreeWindow] at isSlot
      exact List.mem_range.mp (List.mem_of_find?_eq_some isSlot)
  | other => cases isSlot
  | _ =>
      rw [slotOf] at isSlot
      exact (findWindow_some isSlot).1

/-- The buffer of a window that is kept does not meet the buffer that another window has afterwards. -/
theorem Apart.rebuffered (apart : before.Apart) (isSlot : slot < gfxMaxWindows) (isOther : other < gfxMaxWindows)
    (different : slot ≠ other) {win : GfxWindow} (rebuffered : before.Rebuffered (before.windows other) win)
    (live : (before.windows slot).buffer ≠ 0) (liveAfter : win.buffer ≠ 0) :
    (before.windows slot).buffer + (before.windows slot).size ≤ win.buffer ∨
      win.buffer + win.size ≤ (before.windows slot).buffer := by
  rcases rebuffered with ⟨buffer, size⟩ | null | fresh
  · rw [buffer] at liveAfter ⊢
    rw [size]
    exact apart slot isSlot other isOther different live liveAfter
  · exact absurd null liveAfter
  · obtain ⟨_, others⟩ := fresh.resolve_left liveAfter
    exact (others slot isSlot live).symm

theorem Confined.apart {place : Option Nat} (confined : Confined place before after) (apart : before.Apart) :
    after.Apart := by
  intro slot isSlot other isOther different live liveOther
  by_cases here : place = some slot
  · have kept : after.windows other = before.windows other := by
      apply confined.windows
      rw [here]
      exact fun same => different (Option.some.inj same)
    rw [kept] at liveOther ⊢
    exact (apart.rebuffered isOther isSlot (Ne.symm different) (confined.rebuffered slot) liveOther live).symm
  · have kept : after.windows slot = before.windows slot := confined.windows slot here
    rw [kept] at live ⊢
    exact apart.rebuffered isSlot isOther different (confined.rebuffered other) live liveOther

/-- The message is about a window of its sender, or about a slot without a window. -/
def Own (server : GfxServer) (call : Call) : Prop :=
  ∀ slot ∈ server.slotOf call.msg.command, (server.windows slot).buffer ≠ 0 →
    (server.windows slot).ownerPid = call.msg.senderPid

instance (server : GfxServer) (call : Call) : Decidable (server.Own call) :=
  inferInstanceAs (Decidable (∀ slot ∈ server.slotOf _, _ → _))

/-- The windows of other processes keep their fields and their pixels. -/
def LeavesOthers (before : GfxServer) (call : Call) (after : GfxServer) : Prop :=
  ∀ slot < gfxMaxWindows, (before.windows slot).buffer ≠ 0 → (before.windows slot).ownerPid ≠ call.msg.senderPid →
    after.windows slot = before.windows slot ∧
      ∀ address, before.InBuffer slot address → after.memory.bytes address = before.memory.bytes address

/-- What is confined to a slot leaves the windows in other slots. -/
theorem Confined.leaves {place : Option Nat} (confined : Confined place before after) (apart : before.Apart)
    (small : ∀ other, place = some other → other < gfxMaxWindows) (isSlot : slot < gfxMaxWindows)
    (elsewhere : place ≠ some slot) : after.windows slot = before.windows slot ∧
      ∀ address, before.InBuffer slot address → after.memory.bytes address = before.memory.bytes address := by
  refine ⟨confined.windows slot elsewhere, fun address inside => ?_⟩
  apply confined.memory.bytes
  intro hit
  obtain ⟨other, isPlace, liveOther, low, high⟩ := hit
  obtain ⟨live, above, below⟩ := inside
  have different : slot ≠ other := by
    intro same
    rw [same] at elsewhere
    exact elsewhere isPlace
  have disjoint := apart.rebuffered isSlot (small other isPlace) different (confined.rebuffered other) live liveOther
  omega

/-- A process that sends messages only about its own windows leaves those of others alone. -/
theorem run_leaves_others {memory : TracedMemory} {calls : List Call}
    (run : Restricted perform (fun server call => server.SafeCall call ∧ server.Own call)
      (gfxServerInit memory) calls after) :
    Observed perform LeavesOthers (gfxServerInit memory) calls after := by
  apply run.observed fun server => server.Sized ∧ server.Apart
  · intro before call next invariant allowed done
    cases done
    obtain ⟨safe, own⟩ := allowed
    have sized : Sized { before with memory := { before.memory with touched := [] } } := invariant.1
    have apart : Apart { before with memory := { before.memory with touched := [] } } := invariant.2
    obtain ⟨confined, nextSized⟩ := processMessage_confined sized safe.1 safe.2
    refine ⟨fun slot isSlot live foreign => ?_, nextSized, confined.apart apart⟩
    apply confined.leaves apart (fun _ found => slotOf_lt found) isSlot
    exact fun same => foreign (own slot same live)
  · exact ⟨gfxServerInit_sized memory, fun _ _ _ _ _ live => absurd rfl live⟩

/-- A request of a process, as its client built it. -/
def sentBy (pid : Nat) (request : Request) (block : Nat) : Call where
  msg := { request.message emptyMessage with senderPid := pid }
  block

theorem run_leaves_others_drawing : ∃ after : GfxServer,
    ((after.windows 0).ownerPid = 1 ∧ (after.windows 1).ownerPid = 2 ∧ after.memory.bytes 0x400000 = 7) ∧
    Observed perform LeavesOthers (gfxServerInit blankMemory)
      [sentBy 1 (.gfxCreateWindow 3 4 10 9 none 1) 0x300000, sentBy 2 (.gfxCreateWindow 5 6 10 9 none 1) 0x400000,
        sentBy 2 (.gfxFillRect 2 0 0 2 2 7) 0] after := by
  have computed : (performAll perform (fun server call => decide (server.SafeCall call ∧ server.Own call))
      (gfxServerInit blankMemory)
      [sentBy 1 (.gfxCreateWindow 3 4 10 9 none 1) 0x300000, sentBy 2 (.gfxCreateWindow 5 6 10 9 none 1) 0x400000,
        sentBy 2 (.gfxFillRect 2 0 0 2 2 7) 0]).any (fun after => (after.windows 0).ownerPid = 1 ∧
          (after.windows 1).ownerPid = 2 ∧ after.memory.bytes 0x400000 = 7) = true := by decide +kernel
  obtain ⟨after, reached, known⟩ := (Option.any_eq_true _ _).mp computed
  have run := (performAll_restricted reached).mono fun _ _ _ performed => And.imp_left of_decide_eq_true performed
  exact ⟨after, of_decide_eq_true known, run_leaves_others run⟩

/-- No handler compares the sender with the owner: a process destroys the window of another one. -/
theorem run_destroys_foreign : ∃ after : GfxServer,
    Restricted perform SafeCall (gfxServerInit blankMemory)
      [sentBy 1 (.gfxCreateWindow 3 4 10 9 none 1) 0x300000, sentBy 2 (.gfxDestroyWindow 1) 0] after ∧
    ¬ Observed perform LeavesOthers (gfxServerInit blankMemory)
      [sentBy 1 (.gfxCreateWindow 3 4 10 9 none 1) 0x300000, sentBy 2 (.gfxDestroyWindow 1) 0] after := by
  have computed : (performAll perform (fun server call => decide (server.SafeCall call)) (gfxServerInit blankMemory)
      [sentBy 1 (.gfxCreateWindow 3 4 10 9 none 1) 0x300000, sentBy 2 (.gfxDestroyWindow 1) 0]).any
        (fun after => (after.windows 0).buffer = 0) = true := by decide +kernel
  have opened : (performAll perform (fun _ _ => true) (gfxServerInit blankMemory)
      [sentBy 1 (.gfxCreateWindow 3 4 10 9 none 1) 0x300000]).any (fun middle =>
        (middle.windows 0).buffer = 0x300000 ∧ (middle.windows 0).ownerPid = 1) = true := by decide +kernel
  obtain ⟨after, reached, destroyed⟩ := (Option.any_eq_true _ _).mp computed
  have run := (performAll_restricted reached).mono fun _ _ _ performed => And.imp_left of_decide_eq_true performed
  refine ⟨after, run, fun observed => ?_⟩
  have split : Observed perform LeavesOthers (gfxServerInit blankMemory)
      ([sentBy 1 (.gfxCreateWindow 3 4 10 9 none 1) 0x300000] ++ [sentBy 2 (.gfxDestroyWindow 1) 0]) after := observed
  obtain ⟨middle, first, _, seen⟩ := split.last_observed
  rw [first, Option.any_some] at opened
  obtain ⟨buffer, owner⟩ := of_decide_eq_true opened
  have live : (middle.windows 0).buffer ≠ 0 := by
    rw [buffer]
    decide
  have foreign : (middle.windows 0).ownerPid ≠ 2 := by
    rw [owner]
    decide
  have kept := (seen 0 (by decide) live foreign).1
  have gone : (after.windows 0).buffer = 0 := of_decide_eq_true destroyed
  rw [kept] at gone
  exact live gone

end AutismOS.Graphics.GfxServer
