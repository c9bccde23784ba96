import AutismOS.Graphics.Protocol
import AutismOS.Library.TracedMemory

namespace AutismOS.Graphics

open AutismOS.Library AutismOS.Ipc AutismOS.Processes

/-! The windows of `kernel/graphics/gfx_server.c`.

What `kmalloc` answers is an argument of the step that asks for a buffer.  The memory records the
pixels that are written.
-/

def gfxMaxWindows : Nat := 16
def gfxWindowVisible : Nat := 1
def colorWhite : UInt8 := 0x0F

/-- The macro that stands behind the enumeration. -/
def gfxErrOutOfMemory : Int := -7

/-- `gfx_window_t`; the title is the text in its array.  `size` is what the buffer was asked for with. -/
structure GfxWindow where
  id : Nat
  ownerPid : Nat
  x : Nat
  y : Nat
  width : Nat
  height : Nat
  flags : Nat
  title : List UInt8
  buffer : Nat
  size : Nat
  visible : Bool
  focused : Bool
  damaged : Bool
deriving DecidableEq

structure GfxServer where
  windows : Nat → GfxWindow
  nextWindowId : Nat
  focusedWindow : Nat
  memory : TracedMemory

/-- `gfx_response_t` -/
structure GfxResponse where
  requestId : Nat
  result : Int
  data : Nat
deriving DecidableEq

/-- `gfx_server_init` on a kernel with this memory. -/
def gfxServerInit (memory : TracedMemory) : GfxServer where
  windows := fun _ =>
    { id := 0, ownerPid := 0, x := 0, y := 0, width := 0, height := 0, flags := 0, title := [], buffer := 0, size := 0
      visible := false, focused := false, damaged := false }
  nextWindowId := 1
  focusedWindow := 0
  memory

namespace GfxServer

variable (server : GfxServer)

def findWindow (windowId : Nat) : Option Nat :=
  (List.range gfxMaxWindows).find? fun slot =>
    (server.windows slot).id = windowId ∧ (server.windows slot).buffer ≠ 0

def findFreeWindow : Option Nat :=
  (List.range gfxMaxWindows).find? fun slot =>
    (server.windows slot).id = 0 ∨ (server.windows slot).buffer = 0

def edit (slot : Nat) (change : GfxWindow → GfxWindow) : GfxServer :=
  { server with windows := Function.update server.windows slot (change (server.windows slot)) }

/-- `win->buffer[index] = color`, with a 32-bit index. -/
def setPixel (slot index : Nat) (color : UInt8) : GfxServer :=
  { server with memory := server.memory.storeByte ((server.windows slot).buffer + index % 2 ^ 32) color }

/-- `memset(win->buffer, color, count)` -/
def setPixels (slot : Nat) (color : UInt8) (count : Nat) : GfxServer :=
  { server with memory := server.memory.fill (server.windows slot).buffer count color }

/-- `block` is the answer of `kmalloc`. -/
def handleCreateWindow (block senderPid x y width height flags : Nat) (title : List UInt8) (resp : GfxResponse) :
    GfxResponse × GfxServer :=
  match server.findFreeWindow with
  | none => ({ resp with result := gfxErrOutOfMemory }, server)
  | some slot =>
      let bufSize := width * height % 2 ^ 32
      let server := server.edit slot fun win => { win with buffer := block, size := bufSize }
      if block = 0 then ({ resp with result := gfxErrOutOfMemory }, server)
      else
        let id := server.nextWindowId
        let server := { server with nextWindowId := (server.nextWindowId + 1) % 2 ^ 32 }
        let server := server.edit slot fun win =>
          { win with id, ownerPid := senderPid, x, y, width, height, flags, title
                     visible := flags &&& gfxWindowVisible ≠ 0, focused := false, damaged := true }
        ({ resp with result := gfxOk, data := id }, server.setPixels slot colorWhite bufSize)

def handleDestroyWindow (windowId : Nat) (resp : GfxResponse) : GfxResponse × GfxServer :=
  match server.findWindow windowId with
  | none => ({ resp with result := gfxErrInvalidWindow }, server)
  | some slot =>
      ({ resp with result := gfxOk }, server.edit slot fun win => { win with buffer := 0, id := 0, ownerPid := 0 })

/-- Whether the pixel is drawn; an outline has only the edges. -/
def onOutline (x y width height column row : Nat) : Bool :=
  column = x ∨ column = (x + width + 2 ^ 32 - 1) % 2 ^ 32 ∨ row = y ∨ row = (y + height + 2 ^ 32 - 1) % 2 ^ 32

/-- The counters of both loops stay below the window's size, so they do not overflow. -/
def handleDrawRect (filled : Bool) (windowId x y width height : Nat) (color : UInt8) (resp : GfxResponse) :
    GfxResponse × GfxServer :=
  match server.findWindow windowId with
  | none => ({ resp with result := gfxErrInvalidWindow }, server)
  | some slot =>
      let win := server.windows slot
      let rows := List.range' y (min ((y + height) % 2 ^ 32) win.height - y)
      let columns := List.range' x (min ((x + width) % 2 ^ 32) win.width - x)
      let server := rows.foldl (fun server row =>
        columns.foldl (fun server column =>
          if filled || onOutline x y width height column row then server.setPixel slot (row * win.width + column) color
          else server) server) server
      ({ resp with result := gfxOk }, server.edit slot fun win => { win with damaged := true })

/-- The loop over the text; `win->width - 6` and `win->height - 8` are unsigned. -/
def drawCharacters (slot y : Nat) (color : UInt8) (server : GfxServer) (x : Nat) : List UInt8 → GfxServer
  | [] => server
  | _ :: rest =>
      let win := server.windows slot
      if x < (win.width + 2 ^ 32 - 6) % 2 ^ 32 then
        let server :=
          if y < (win.height + 2 ^ 32 - 8) % 2 ^ 32 then server.setPixel slot (y * win.width + x) color else server
        drawCharacters slot y color server ((x + 6) % 2 ^ 32) rest
      else server

def handleDrawText (windowId x y : Nat) (text : List UInt8) (color : UInt8) (resp : GfxResponse) :
    GfxResponse × GfxServer :=
  match server.findWindow windowId with
  | none => ({ resp with result := gfxErrInvalidWindow }, server)
  | some slot =>
      ({ resp with result := gfxOk },
        (drawCharacters slot y color server x text).edit slot fun win => { win with damaged := true })

def handlePresent (windowId : Nat) (resp : GfxResponse) : GfxResponse × GfxServer :=
  match server.findWindow windowId with
  | none => ({ resp with result := gfxErrInvalidWindow }, server)
  | some slot => ({ resp with result := gfxOk }, server.edit slot fun win => { win with damaged := true })

/-- The branches that answer `GFX_OK` also when there is no such window. -/
def editWindow (windowId : Nat) (change : GfxWindow → GfxWindow) : GfxServer :=
  match server.findWindow windowId with
  | none => server
  | some slot => server.edit slot change

def clearWindow (windowId : Nat) (color : UInt8) : GfxServer :=
  match server.findWindow windowId with
  | none => server
  | some slot =>
      let win := server.windows slot
      (server.setPixels slot color (win.width * win.height % 2 ^ 32)).edit slot fun win => { win with damaged := true }

def processMessage (block : Nat) (msg : GfxMessage) : GfxResponse × GfxServer :=
  let resp : GfxResponse := { requestId := msg.type, result := gfxOk, data := 0 }
  match msg.command with
  | .createWindow x y width height flags title =>
      server.handleCreateWindow block msg.senderPid x y width height flags title resp
  | .destroyWindow windowId => server.handleDestroyWindow windowId resp
  | .showWindow windowId => (resp, server.editWindow windowId fun win => { win with visible := true, damaged := true })
  | .hideWindow windowId => (resp, server.editWindow windowId fun win => { win with visible := false })
  | .clear windowId color => (resp, server.clearWindow windowId color)
  | .drawRect filled windowId x y width height color =>
      server.handleDrawRect filled windowId x y width height color resp
  | .drawText windowId x y text color => server.handleDrawText windowId x y text color resp
  | .present windowId => server.handlePresent windowId resp
  | .setTitle windowId title => (resp, server.editWindow windowId fun win => { win with title, damaged := true })
  | .other => ({ resp with result := gfxErrInvalidParam }, server)

def needsRedraw : Bool := (List.range gfxMaxWindows).any fun slot => (server.windows slot).damaged

/-- What `redraw_all` leaves of the marks; the screen is not modelled. -/
def redrawAll : GfxServer :=
  { server with windows := fun slot =>
      let win := server.windows slot
      if slot < gfxMaxWindows ∧ win.id ≠ 0 ∧ win.visible ∧ win.buffer ≠ 0 then { win with damaged := false } else win }

/-- One turn of the loop of `gfx_server_run`, with the message that was dequeued. -/
def gfxServerTurn (block : Nat) (ipcMsg : Option Message) : Option GfxResponse × GfxServer :=
  let (resp, server) :=
    match ipcMsg with
    | none => (none, server)
    | some ipcMsg =>
        let (resp, server) := server.processMessage block (gfxServerMessage ipcMsg)
        (some resp, server)
  (resp, if server.needsRedraw then server.redrawAll else server)

end GfxServer

end AutismOS.Graphics
