import AutismOS.Library.Strings
import AutismOS.Processes.Events

namespace AutismOS.Graphics

open AutismOS.Library AutismOS.Ipc AutismOS.Processes

/-! The protocol of `include/gfx_protocol.h`: what `lib/libgfx.c` sends, and what
`kernel/graphics/gfx_server.c` reads. -/

@[match_pattern] def gfxMsgCreateWindow : Nat := 0x0100
@[match_pattern] def gfxMsgDestroyWindow : Nat := 0x0101
@[match_pattern] def gfxMsgShowWindow : Nat := 0x0102
@[match_pattern] def gfxMsgHideWindow : Nat := 0x0103
@[match_pattern] def gfxMsgSetTitle : Nat := 0x0107
@[match_pattern] def gfxMsgClear : Nat := 0x0200
@[match_pattern] def gfxMsgDrawLine : Nat := 0x0202
@[match_pattern] def gfxMsgDrawRect : Nat := 0x0203
@[match_pattern] def gfxMsgFillRect : Nat := 0x0204
@[match_pattern] def gfxMsgDrawText : Nat := 0x0205
@[match_pattern] def gfxMsgPresent : Nat := 0x0206

def gfxErrInvalidWindow : Int := -1
def gfxErrInvalidParam : Int := -3

/-- `gfx_message_t`; the data is the union, byte by byte. -/
structure GfxMessage where
  type : Nat
  senderPid : Nat
  data : ByteMemory

def emptyMessage : GfxMessage := { type := 0, senderPid := 0, data := fun _ => 0 }

-- `gfx_create_window_t`, `gfx_draw_rect_t`, `gfx_draw_line_t` and `gfx_draw_text_t` begin alike.

def windowIdOffset : Nat := 0
def xOffset : Nat := 4
def yOffset : Nat := 8
def widthOffset : Nat := 12
def heightOffset : Nat := 16
def flagsOffset : Nat := 20
def titleOffset : Nat := 24
def bufferSizeOffset : Nat := 56
def rectColorOffset : Nat := 20
def lineX1Offset : Nat := 12
def lineY1Offset : Nat := 16
def lineColorOffset : Nat := 20
def textOffset : Nat := 12
def textColorOffset : Nat := 76

def titleSize : Nat := 32
def textSize : Nat := 64

/-- A call of the client library.  Signed arguments are given by their 32 bits; a text ends at its
first zero, and `none` is NULL. -/
inductive Request where
  | gfxCreateWindow (x y width height : UInt32) (title : Option (List UInt8)) (flags : UInt32)
  | gfxDestroyWindow (windowId : UInt32)
  | gfxClear (windowId : UInt32) (color : UInt8)
  | gfxDrawRect (windowId x y width height : UInt32) (color : UInt8)
  | gfxFillRect (windowId x y width height : UInt32) (color : UInt8)
  | gfxDrawLine (windowId x0 y0 x1 y1 : UInt32) (color : UInt8)
  | gfxDrawText (windowId x y : UInt32) (text : Option (List UInt8)) (color : UInt8)
  | gfxPresent (windowId : UInt32)
  | gfxSetVisible (windowId visible : UInt32)
  | gfxSetTitle (windowId : UInt32) (title : Option (List UInt8))

/-- The three requests about rectangles fill the same fields. -/
def rectData (data : ByteMemory) (windowId x y width height : UInt32) (color : UInt8) : ByteMemory :=
  (((((data.storeWord windowIdOffset windowId.toNat).storeWord xOffset x.toNat).storeWord yOffset y.toNat).storeWord
    widthOffset width.toNat).storeWord heightOffset height.toNat).storeByte rectColorOffset color

namespace Request

def type : Request → Nat
  | gfxCreateWindow .. => gfxMsgCreateWindow
  | gfxDestroyWindow _ => gfxMsgDestroyWindow
  | gfxClear .. => gfxMsgClear
  | gfxDrawRect .. => gfxMsgDrawRect
  | gfxFillRect .. => gfxMsgFillRect
  | gfxDrawLine .. => gfxMsgDrawLine
  | gfxDrawText .. => gfxMsgDrawText
  | gfxPresent _ => gfxMsgPresent
  | gfxSetVisible _ visible => if visible ≠ 0 then gfxMsgShowWindow else gfxMsgHideWindow
  | gfxSetTitle .. => gfxMsgSetTitle

/-- The union after the assignments; `data` is what stood on the stack. -/
def fill (data : ByteMemory) : Request → ByteMemory
  | gfxCreateWindow x y width height title flags =>
      let data := (((((data.storeWord xOffset x.toNat).storeWord yOffset y.toNat).storeWord widthOffset
        width.toNat).storeWord heightOffset height.toNat).storeWord flagsOffset flags.toNat).storeWord
          bufferSizeOffset (width * height).toNat
      match title with
      | some title => data.strncpy titleOffset title (titleSize - 1)
      | none => data.storeByte titleOffset 0
  | gfxDestroyWindow windowId => data.storeWord windowIdOffset windowId.toNat
  | gfxClear windowId color => rectData data windowId 0 0 0 0 color
  | gfxDrawRect windowId x y width height color => rectData data windowId x y width height color
  | gfxFillRect windowId x y width height color => rectData data windowId x y width height color
  | gfxDrawLine windowId x0 y0 x1 y1 color =>
      (((((data.storeWord windowIdOffset windowId.toNat).storeWord xOffset x0.toNat).storeWord yOffset
        y0.toNat).storeWord lineX1Offset x1.toNat).storeWord lineY1Offset y1.toNat).storeByte lineColorOffset color
  | gfxDrawText windowId x y text color =>
      ((((data.storeWord windowIdOffset windowId.toNat).storeWord xOffset x.toNat).storeWord yOffset
        y.toNat).storeByte textColorOffset color).strncpy textOffset (text.getD []) (textSize - 1)
  | gfxPresent windowId => data.storeWord windowIdOffset windowId.toNat
  | gfxSetVisible windowId _ => data.storeWord windowIdOffset windowId.toNat
  | gfxSetTitle windowId title =>
      (data.storeWord windowIdOffset windowId.toNat).strncpy textOffset (title.getD []) (textSize - 1)

/-- The message that the call builds in its stack frame. -/
def message (stack : GfxMessage) (request : Request) : GfxMessage :=
  { stack with type := request.type, data := request.fill stack.data }

/-- The answer of a call that sends nothing. -/
def refusal (connected : Bool) : Request → Option Int
  | gfxCreateWindow .. => if !connected then some 0 else none
  | gfxDrawText windowId _ _ text _ => if !connected ∨ windowId = 0 ∨ text = none then some gfxErrInvalidParam else none
  | gfxSetTitle windowId title => if !connected ∨ windowId = 0 ∨ title = none then some gfxErrInvalidParam else none
  | gfxDestroyWindow windowId | gfxClear windowId _ | gfxDrawRect windowId .. | gfxFillRect windowId ..
  | gfxDrawLine windowId .. | gfxPresent windowId | gfxSetVisible windowId _ =>
      if !connected ∨ windowId = 0 then some gfxErrInvalidWindow else none

/-- What the call returns after `gfx_send_request`: the first window id that was not given yet, or the result. -/
def answer (request : Request) (result : Int) (kernel : Kernel) : Int × Kernel :=
  match request with
  | gfxCreateWindow .. =>
      if result = gfxOk then
        (kernel.gfxClient.nextWindowId,
          { kernel with gfxClient :=
            { kernel.gfxClient with nextWindowId := (kernel.gfxClient.nextWindowId + 1) % 2 ^ 32 } })
      else (0, kernel)
  | _ => (result, kernel)

/-- The request goes through `gfx_send_request`, which copies the first eight bytes of the union. -/
def call (request : Request) (kernel : Kernel) (fuel : Nat) (stack : GfxMessage) : Option (Int × Kernel) :=
  match request.refusal kernel.gfxClient.connected with
  | some code => some (code, kernel)
  | none =>
      let msg := request.message stack
      (kernel.gfxSendRequest fuel msg.type (msg.data.loadWord 0) (msg.data.loadWord 4)).map
        fun (result, kernel) => request.answer result kernel

end Request

/-- The message that `gfx_server_run` hands to `process_message`. -/
def gfxServerMessage (ipcMsg : Message) : GfxMessage where
  type := ipcMsg.type
  senderPid := ipcMsg.senderPid
  data := (ByteMemory.storeWord (fun _ => 0) 0 ipcMsg.data1).storeWord 4 ipcMsg.data2

/-- A message with the fields that its handler reads. -/
inductive Command where
  | createWindow (x y width height flags : Nat) (title : List UInt8)
  | destroyWindow (windowId : Nat)
  | showWindow (windowId : Nat)
  | hideWindow (windowId : Nat)
  | clear (windowId : Nat) (color : UInt8)
  | drawRect (filled : Bool) (windowId x y width height : Nat) (color : UInt8)
  | drawText (windowId x y : Nat) (text : List UInt8) (color : UInt8)
  | present (windowId : Nat)
  | setTitle (windowId : Nat) (title : List UInt8)
  | other
deriving DecidableEq

/-- Copied titles have at most 31 bytes; a text is read up to the end of its field. -/
def GfxMessage.command (msg : GfxMessage) : Command :=
  match msg.type with
  | gfxMsgCreateWindow =>
      .createWindow (msg.data.loadWord xOffset) (msg.data.loadWord yOffset) (msg.data.loadWord widthOffset)
        (msg.data.loadWord heightOffset) (msg.data.loadWord flagsOffset) (msg.data.loadString titleOffset (titleSize - 1))
  | gfxMsgDestroyWindow => .destroyWindow (msg.data.loadWord windowIdOffset)
  | gfxMsgShowWindow => .showWindow (msg.data.loadWord windowIdOffset)
  | gfxMsgHideWindow => .hideWindow (msg.data.loadWord windowIdOffset)
  | gfxMsgClear => .clear (msg.data.loadWord windowIdOffset) (msg.data.loadByte rectColorOffset)
  | gfxMsgDrawRect =>
      .drawRect false (msg.data.loadWord windowIdOffset) (msg.data.loadWord xOffset) (msg.data.loadWord yOffset)
        (msg.data.loadWord widthOffset) (msg.data.loadWord heightOffset) (msg.data.loadByte rectColorOffset)
  | gfxMsgFillRect =>
      .drawRect true (msg.data.loadWord windowIdOffset) (msg.data.loadWord xOffset) (msg.data.loadWord yOffset)
        (msg.data.loadWord widthOffset) (msg.data.loadWord heightOffset) (msg.data.loadByte rectColorOffset)
  | gfxMsgDrawText =>
      .drawText (msg.data.loadWord windowIdOffset) (msg.data.loadWord xOffset) (msg.data.loadWord yOffset)
        (msg.data.loadString textOffset textSize) (msg.data.loadByte textColorOffset)
  | gfxMsgPresent => .present (msg.data.loadWord windowIdOffset)
  | gfxMsgSetTitle => .setTitle (msg.data.loadWord windowIdOffset) (msg.data.loadString textOffset (titleSize - 1))
  | _ => .other

end AutismOS.Graphics
