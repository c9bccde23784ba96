import AutismOS.Graphics.Protocol
import AutismOS.Ipc.Queue
import AutismOS.Processes.Effects

namespace AutismOS.Graphics

open AutismOS.Library AutismOS.Ipc AutismOS.Processes AutismOS.Library.ByteMemory

/-! What becomes of a request on its way to `process_message`. -/

variable {request : Request} {stack : GfxMessage} {data : ByteMemory} {ipcMsg : Message} {offset pid : Nat}
variable {windowId x y width height : UInt32} {color : UInt8}

theorem gfxServerMessage_first (small : ipcMsg.data1 < 2 ^ 32) :
    (gfxServerMessage ipcMsg).data.loadWord 0 = ipcMsg.data1 := by
  rw [gfxServerMessage, loadWord_storeWord_other (by decide) (by decide) (by decide), loadWord_storeWord_same small]

theorem gfxServerMessage_second (small : ipcMsg.data2 < 2 ^ 32) :
    (gfxServerMessage ipcMsg).data.loadWord 4 = ipcMsg.data2 := by
  rw [gfxServerMessage, loadWord_storeWord_same small]

/-- Behind the two words the server's copy is zero. -/
theorem gfxServerMessage_byte (behind : 8 ≤ offset) (small : offset < 2 ^ 32) :
    (gfxServerMessage ipcMsg).data.loadByte offset = 0 := by
  have apart (place : Nat) (inside : place < 8) : offset % 2 ^ 32 ≠ place % 2 ^ 32 := by omega
  simp only [gfxServerMessage, storeWord]
  rw [loadByte_storeByte_other (apart 7 (by decide)), loadByte_storeByte_other (apart 6 (by decide)),
    loadByte_storeByte_other (apart 5 (by decide)), loadByte_storeByte_other (apart 4 (by decide)),
    loadByte_storeByte_other (apart 3 (by decide)), loadByte_storeByte_other (apart 2 (by decide)),
    loadByte_storeByte_other (apart 1 (by decide)), loadByte_storeByte_other (apart 0 (by decide))]
  rfl

theorem gfxServerMessage_word (behind : 8 ≤ offset) (small : offset + 4 ≤ 2 ^ 32) :
    (gfxServerMessage ipcMsg).data.loadWord offset = 0 := by
  rw [loadWord, gfxServerMessage_byte behind (by omega), gfxServerMessage_byte (by omega) (by omega),
    gfxServerMessage_byte (by omega) (by omega), gfxServerMessage_byte (by omega) (by omega)]
  rfl

theorem gfxServerMessage_string {count : Nat} (room : 0 < count) (behind : 8 ≤ offset) (small : offset < 2 ^ 32) :
    (gfxServerMessage ipcMsg).data.loadString offset count = [] :=
  (loadString_eq_nil room).mpr (gfxServerMessage_byte behind small)

/-- What `gfx_server_run` makes of a message that went through `gfx_send_request`. -/
def GfxMessage.arrives (msg : GfxMessage) (pid : Nat) : GfxMessage :=
  gfxServerMessage { senderPid := pid, type := msg.type, data1 := msg.data.loadWord 0, data2 := msg.data.loadWord 4 }

/-- Of a command that arrives, the fields behind the second word are zero. -/
def Command.truncated : Command → Command
  | .createWindow x _ _ _ _ _ => .createWindow x 0 0 0 0 []
  | .clear windowId _ => .clear windowId 0
  | .drawRect filled windowId x _ _ _ _ => .drawRect filled windowId x 0 0 0 0
  | .drawText windowId x _ _ _ => .drawText windowId x 0 [] 0
  | .setTitle windowId _ => .setTitle windowId []
  | command => command

theorem arrives_command (msg : GfxMessage) : (msg.arrives pid).command = msg.command.truncated := by
  have first : (msg.arrives pid).data.loadWord windowIdOffset = msg.data.loadWord windowIdOffset :=
    gfxServerMessage_first loadWord_lt
  have second : (msg.arrives pid).data.loadWord xOffset = msg.data.loadWord xOffset :=
    gfxServerMessage_second loadWord_lt
  have third : (msg.arrives pid).data.loadWord yOffset = 0 := gfxServerMessage_word (by decide) (by decide)
  have wide : (msg.arrives pid).data.loadWord widthOffset = 0 := gfxServerMessage_word (by decide) (by decide)
  have high : (msg.arrives pid).data.loadWord heightOffset = 0 := gfxServerMessage_word (by decide) (by decide)
  have flags : (msg.arrives pid).data.loadWord flagsOffset = 0 := gfxServerMessage_word (by decide) (by decide)
  have rectColor : (msg.arrives pid).data.loadByte rectColorOffset = 0 :=
    gfxServerMessage_byte (by decide) (by decide)
  have textColor : (msg.arrives pid).data.loadByte textColorOffset = 0 :=
    gfxServerMessage_byte (by decide) (by decide)
  have title : (msg.arrives pid).data.loadString titleOffset (titleSize - 1) = [] :=
    gfxServerMessage_string (by decide) (by decide) (by decide)
  have text : (msg.arrives pid).data.loadString textOffset textSize = [] :=
    gfxServerMessage_string (by decide) (by decide) (by decide)
  have newTitle : (msg.arrives pid).data.loadString textOffset (titleSize - 1) = [] :=
    gfxServerMessage_string (by decide) (by decide) (by decide)
  simp only [GfxMessage.command, show (msg.arrives pid).type = msg.type from rfl, first, second, third, wide, high,
    flags, rectColor, textColor, title, text, newTitle]
  split <;> rfl

/-- A text without any character; NULL never gets into a message. -/
def Blank (text : Option (List UInt8)) : Prop := (text.getD []).headD 0 = 0

/-- All arguments that lie behind the second word of the message are zero. -/
def Request.Fits : Request → Prop
  | gfxCreateWindow _ y width height title flags => y = 0 ∧ width = 0 ∧ height = 0 ∧ flags = 0 ∧ Blank title
  | gfxClear _ color => color = 0
  | gfxDrawRect _ _ y width height color | gfxFillRect _ _ y width height color =>
      y = 0 ∧ width = 0 ∧ height = 0 ∧ color = 0
  | gfxDrawText _ _ y text color => y = 0 ∧ Blank text ∧ color = 0
  | gfxSetTitle _ title => Blank title
  | gfxDestroyWindow _ | gfxDrawLine .. | gfxPresent _ | gfxSetVisible .. => True

theorem loadWord_storeWord_toNat {address : Nat} (word : UInt32) :
    (data.storeWord address word.toNat).loadWord address = word.toNat :=
  loadWord_storeWord_same word.toNat_lt

theorem toNat_eq_zero {word : UInt32} : word.toNat = 0 ↔ word = 0 := by
  rw [← UInt32.toNat_inj]
  rfl

/-- The fields of a rectangle can be read back. -/
theorem rectData_fields : (rectData data windowId x y width height color).loadWord yOffset = y.toNat ∧
    (rectData data windowId x y width height color).loadWord widthOffset = width.toNat ∧
    (rectData data windowId x y width height color).loadWord heightOffset = height.toNat ∧
    (rectData data windowId x y width height color).loadByte rectColorOffset = color := by
  refine ⟨?_, ?_, ?_, loadByte_storeByte_same⟩ <;>
    simp (disch := decide) only [rectData, loadWord_storeByte_outside, loadWord_storeWord_other,
      loadWord_storeWord_toNat]

/-- A title is empty in the message exactly if the argument was. -/
theorem createWindow_title {title : Option (List UInt8)} {flags : UInt32} :
    ((Request.gfxCreateWindow x y width height title flags).fill data).loadString titleOffset (titleSize - 1) = [] ↔
      Blank title := by
  rw [loadString_eq_nil (by decide)]
  cases title with
  | none => simp [Request.fill, Blank, loadByte_storeByte_same]
  | some title =>
      simp only [Request.fill]
      rw [loadByte_strncpy_first (by decide) (by decide)]
      exact Iff.rfl

theorem createWindow_fields {title : Option (List UInt8)} {flags : UInt32} :
    ((Request.gfxCreateWindow x y width height title flags).fill data).loadWord yOffset = y.toNat ∧
    ((Request.gfxCreateWindow x y width height title flags).fill data).loadWord widthOffset = width.toNat ∧
    ((Request.gfxCreateWindow x y width height title flags).fill data).loadWord heightOffset = height.toNat ∧
    ((Request.gfxCreateWindow x y width height title flags).fill data).loadWord flagsOffset = flags.toNat := by
  cases title with
  | none =>
      refine ⟨?_, ?_, ?_, ?_⟩ <;>
        simp (disch := decide) only [Request.fill, loadWord_storeByte_outside, loadWord_storeWord_other,
          loadWord_storeWord_toNat]
  | some title =>
      refine ⟨?_, ?_, ?_, ?_⟩ <;>
        simp (disch := decide) only [Request.fill, loadWord_strncpy_outside, loadWord_storeWord_other,
          loadWord_storeWord_toNat]

theorem drawText_fields {text : Option (List UInt8)} :
    ((Request.gfxDrawText windowId x y text color).fill data).loadWord yOffset = y.toNat ∧
    (((Request.gfxDrawText windowId x y text color).fill data).loadString textOffset textSize = [] ↔ Blank text) ∧
    ((Request.gfxDrawText windowId x y text color).fill data).loadByte textColorOffset = color := by
  refine ⟨?_, ?_, ?_⟩
  · simp (disch := decide) only [Request.fill, loadWord_strncpy_outside, loadWord_storeByte_outside,
      loadWord_storeWord_toNat]
  · rw [loadString_eq_nil (by decide), Request.fill, loadByte_strncpy_first (by decide) (by decide)]
    exact Iff.rfl
  · rw [Request.fill, loadByte_strncpy_outside (by decide) (by decide) (by decide), loadByte_storeByte_same]

theorem setTitle_text {title : Option (List UInt8)} :
    ((Request.gfxSetTitle windowId title).fill data).loadString textOffset (titleSize - 1) = [] ↔ Blank title := by
  rw [loadString_eq_nil (by decide), Request.fill, loadByte_strncpy_first (by decide) (by decide)]
  exact Iff.rfl

/-- What is cut off was zero exactly if the request fits. -/
theorem eq_truncated_iff :
    (request.message stack).command = (request.message stack).command.truncated ↔ request.Fits := by
  cases request with
  | gfxCreateWindow x y width height title flags =>
      simp only [GfxMessage.command, Request.message, Request.type, gfxMsgCreateWindow, createWindow_fields,
        Command.truncated, Command.createWindow.injEq, Request.Fits, true_and, toNat_eq_zero, createWindow_title]
  | gfxDestroyWindow windowId => exact ⟨fun _ => trivial, fun _ => rfl⟩
  | gfxClear windowId color =>
      simp only [GfxMessage.command, Request.message, Request.type, gfxMsgClear, Request.fill, rectData_fields,
        Command.truncated, Command.clear.injEq, Request.Fits, true_and]
  | gfxDrawRect windowId x y width height color =>
      simp only [GfxMessage.command, Request.message, Request.type, gfxMsgDrawRect, Request.fill, rectData_fields,
        Command.truncated, Command.drawRect.injEq, Request.Fits, true_and, toNat_eq_zero]
  | gfxFillRect windowId x y width height color =>
      simp only [GfxMessage.command, Request.message, Request.type, gfxMsgFillRect, Request.fill, rectData_fields,
        Command.truncated, Command.drawRect.injEq, Request.Fits, true_and, toNat_eq_zero]
  | gfxDrawLine windowId x0 y0 x1 y1 color => exact ⟨fun _ => trivial, fun _ => rfl⟩
  | gfxDrawText windowId x y text color =>
      simp only [GfxMessage.command, Request.message, Request.type, gfxMsgDrawText, drawText_fields,
        Command.truncated, Command.drawText.injEq, Request.Fits, true_and, toNat_eq_zero]
  | gfxPresent windowId => exact ⟨fun _ => trivial, fun _ => rfl⟩
  | gfxSetVisible windowId visible =>
      by_cases hidden : visible = 0
      · simp only [GfxMessage.command, Request.message, Request.type, ne_eq, hidden, not_true_eq_false, if_false,
          gfxMsgHideWindow, Command.truncated, Request.Fits]
      · simp only [GfxMessage.command, Request.message, Request.type, ne_eq, hidden, not_false_eq_true, if_true,
          gfxMsgShowWindow, Command.truncated, Request.Fits]
  | gfxSetTitle windowId title =>
      simp only [GfxMessage.command, Request.message, Request.type, gfxMsgSetTitle, Command.truncated,
        Command.setTitle.injEq, Request.Fits, true_and, setTitle_text]

variable {kernel after : Kernel} {fuel server : Nat} {outcome : Int} {msg : Message} {rest : MessageQueue}
variable {sent received : List Message}

/-- `gfx_send_request` touches the server's queue at most by putting the message into it. -/
theorem gfxSendRequest_inbox {type data1 data2 : Nat}
    (done : kernel.gfxSendRequest fuel type data1 data2 = some (outcome, after))
    (found : kernel.processFindByPid fuel kernel.gfxClient.serverPid = some server) :
    (after.processes server).inbox = (kernel.processes server).inbox ∨
      messageQueueEnqueue (kernel.processes server).inbox
        { senderPid := (kernel.processes kernel.processGetCurrent).pid, type, data1, data2 } =
          some (after.processes server).inbox := by
  simp only [Kernel.gfxSendRequest, found, Option.map_some] at done
  split at done
  · cases done
    exact Or.inl rfl
  · have next := Option.some.inj done
    split at next
    · cases next
      exact Or.inl rfl
    · split at next
      · cases next
        exact Or.inl rfl
      · rename_i inbox queued
        cases next
        rw [setInbox_inbox, if_pos rfl]
        exact Or.inr queued

theorem answer_processes : (request.answer outcome kernel).2.processes = kernel.processes := by
  cases request with
  | gfxCreateWindow x y width height title flags =>
      simp only [Request.answer]
      split <;> rfl
  | _ => rfl

/-- A call that leaves one more message in the server's queue has sent the one that it built. -/
theorem call_pending (called : request.call kernel fuel stack = some (outcome, after))
    (found : kernel.processFindByPid fuel kernel.gfxClient.serverPid = some server)
    (ordered : (kernel.processes server).inbox.Ordered)
    (queued : (after.processes server).inbox.count = (kernel.processes server).inbox.count + 1) :
    (after.processes server).inbox.Ordered ∧
      (after.processes server).inbox.pending = (kernel.processes server).inbox.pending ++
        [{ senderPid := (kernel.processes kernel.processGetCurrent).pid, type := request.type
           data1 := (request.fill stack.data).loadWord 0, data2 := (request.fill stack.data).loadWord 4 }] := by
  rw [Request.call] at called
  split at called
  · cases called
    omega
  · obtain ⟨between, sent, answered⟩ := Option.map_eq_some_iff.mp called
    obtain ⟨result, between⟩ := between
    have next : (request.answer result between).2 = after := congrArg Prod.snd answered
    have same : after.processes = between.processes := by
      rw [← next]
      exact answer_processes
    rw [same] at queued ⊢
    rcases gfxSendRequest_inbox sent found with kept | enqueued
    · rw [kept] at queued
      omega
    · exact messageQueueEnqueue_pending ordered enqueued

/-- A request that was put into the queue reaches `process_message` behind those that were there
before, with its type and its sender.  Its handler reads the arguments of the call exactly if they
fit into two words. -/
theorem request_arrives_iff (called : request.call kernel fuel stack = some (outcome, after))
    (found : kernel.processFindByPid fuel kernel.gfxClient.serverPid = some server)
    (ordered : (kernel.processes server).inbox.Ordered)
    (queued : (after.processes server).inbox.count = (kernel.processes server).inbox.count + 1)
    (exchange : Exchange (after.processes server).inbox sent received rest)
    (enough : (kernel.processes server).inbox.count < received.length) :
    ∃ msg, received[(kernel.processes server).inbox.count]? = some msg ∧
      (gfxServerMessage msg).type = (request.message stack).type ∧
      (gfxServerMessage msg).senderPid = (kernel.processes kernel.processGetCurrent).pid ∧
      ((gfxServerMessage msg).command = (request.message stack).command ↔ request.Fits) := by
  obtain ⟨afterOrdered, pending⟩ := call_pending called found ordered queued
  have length : (kernel.processes server).inbox.pending.length = (kernel.processes server).inbox.count :=
    Fifo.length_contents
  have read := exchange.received_at afterOrdered pending (by rw [length]; exact enough)
  rw [length] at read
  refine ⟨_, read, rfl, rfl, ?_⟩
  have arrived : ((request.message stack).arrives (kernel.processes kernel.processGetCurrent).pid).command =
      (request.message stack).command.truncated := arrives_command _
  have fits : (request.message stack).command = (request.message stack).command.truncated ↔ request.Fits :=
    eq_truncated_iff
  rw [← fits, ← arrived, eq_comm]
  exact Iff.rfl

/-- A kernel whose only process is the graphics server, which is its own client. -/
def servedKernel : Kernel :=
  { emptyKernel with
    processes := fun _ => { pid := 1, pageDir := 0, mainThread := 0, next := 0x200014, inbox := messageQueueInit }
    processListHead := 0x200014
    currentProcess := 0x200014
    gfxClient := { serverPid := 1, connected := true, nextWindowId := 1 } }

theorem present_arrives : ∃ (after : Kernel) (received : List Message) (msg : Message),
    (Request.gfxPresent 7).call servedKernel 1 emptyMessage = some (gfxOk, after) ∧ received[0]? = some msg ∧
      (gfxServerMessage msg).type = gfxMsgPresent ∧ (gfxServerMessage msg).senderPid = 1 ∧
      ((gfxServerMessage msg).command = ((Request.gfxPresent 7).message emptyMessage).command ↔
        (Request.gfxPresent 7).Fits) := by
  have computed : ((Request.gfxPresent 7).call servedKernel 1 emptyMessage).any (fun outcome =>
      outcome.1 = gfxOk ∧ (outcome.2.processes 0x200014).inbox.count = 1) = true := by decide +kernel
  obtain ⟨outcome, called, known⟩ := (Option.any_eq_true _ _).mp computed
  obtain ⟨result, after⟩ := outcome
  obtain ⟨succeeded, count⟩ : result = gfxOk ∧ (after.processes 0x200014).inbox.count = 1 :=
    of_decide_eq_true known
  subst succeeded
  cases taken : messageQueueDequeue (after.processes 0x200014).inbox with
  | none =>
      have empty := messageQueueDequeue_none.mp taken
      omega
  | some read =>
      have exchange : Exchange (after.processes 0x200014).inbox [] [read.1] read.2 := .dequeue taken (.nil read.2)
      obtain ⟨msg, arrives⟩ := request_arrives_iff called (by decide) messageQueueInit_ordered count exchange
        Nat.zero_lt_one
      exact ⟨after, [read.1], msg, called, arrives⟩

/-- The server fills no pixel of a rectangle that its client wanted four wide and five high. -/
theorem fillRect_truncated : ∃ after msg rest,
    (Request.gfxFillRect 1 2 3 4 5 6).call servedKernel 1 emptyMessage = some (gfxOk, after) ∧
      messageQueueDequeue (after.processes 0x200014).inbox = some (msg, rest) ∧
      ((Request.gfxFillRect 1 2 3 4 5 6).message emptyMessage).command = .drawRect true 1 2 3 4 5 6 ∧
      (gfxServerMessage msg).command = .drawRect true 1 2 0 0 0 0 := by
  have computed : ((Request.gfxFillRect 1 2 3 4 5 6).call servedKernel 1 emptyMessage).any (fun outcome =>
      outcome.1 = gfxOk ∧ (messageQueueDequeue (outcome.2.processes 0x200014).inbox).any fun read =>
        (gfxServerMessage read.1).command = .drawRect true 1 2 0 0 0 0) = true := by decide +kernel
  obtain ⟨outcome, called, known⟩ := (Option.any_eq_true _ _).mp computed
  obtain ⟨result, after⟩ := outcome
  obtain ⟨succeeded, dequeued⟩ := of_decide_eq_true known
  subst succeeded
  obtain ⟨read, taken, garbled⟩ := (Option.any_eq_true _ _).mp dequeued
  exact ⟨after, read.1, read.2, called, taken, by decide +kernel, of_decide_eq_true garbled⟩

end AutismOS.Graphics
