import Mathlib.Data.List.Range
import AutismOS.Input.Positions

namespace AutismOS.Input

/-! # The driver of the mouse

`mouse.c`: bytes from the mouse are gathered into packets of three.
-/

def mousePacketLeftBtn : UInt8 := 0x01
def mousePacketRightBtn : UInt8 := 0x02
def mousePacketMiddleBtn : UInt8 := 0x04
def mousePacketAlways1 : UInt8 := 0x08
def mousePacketXSign : UInt8 := 0x10
def mousePacketYSign : UInt8 := 0x20
def mousePacketXOverflow : UInt8 := 0x40
def mousePacketYOverflow : UInt8 := 0x80

def mouseButtonNone : UInt32 := 0
def mouseButtonLeft : UInt32 := 1
def mouseButtonRight : UInt32 := 2
def mouseButtonMiddle : UInt32 := 4

/-- A call of `input_post_mouse_button` or `input_post_mouse_move` -/
inductive MousePost where
  | button (button : UInt32) (pressed : Bool)
  | move (dx dy : Int)
deriving DecidableEq

/-- `g_mouse_driver`, with `prev_buttons` of its handler and a log of what was posted -/
structure MouseDriver where
  packet : Nat → UInt8
  packetIndex : Nat
  initialized : Bool
  prevButtons : UInt32
  posted : List MousePost

namespace MouseDriver

def buttons (flags : UInt8) : UInt32 :=
  let buttons := mouseButtonNone
  let buttons := if flags &&& mousePacketLeftBtn ≠ 0 then buttons ||| mouseButtonLeft else buttons
  let buttons := if flags &&& mousePacketRightBtn ≠ 0 then buttons ||| mouseButtonRight else buttons
  if flags &&& mousePacketMiddleBtn ≠ 0 then buttons ||| mouseButtonMiddle else buttons

/-- A delta of nine bits, and then the clamping of large movements. -/
def delta (flags sign byte : UInt8) : Int :=
  let extended : Int := if flags &&& sign ≠ 0 then wrap (byte.toNat ||| 0xFFFFFF00 : Nat) else byte.toNat
  let limited := if 127 < extended then 127 else extended
  if limited < -127 then -127 else limited

def buttonPosts (pressed released button : UInt32) : List MousePost :=
  (if pressed &&& button ≠ 0 then [.button button true] else []) ++
    if released &&& button ≠ 0 then [.button button false] else []

/-- What the handler posts for a packet. -/
def posts (prevButtons : UInt32) (flags x y : UInt8) : List MousePost :=
  let buttons := buttons flags
  let dx := delta flags mousePacketXSign x
  let dy := delta flags mousePacketYSign y
  let pressed := buttons &&& ~~~prevButtons
  let released := prevButtons &&& ~~~buttons
  buttonPosts pressed released mouseButtonLeft ++ buttonPosts pressed released mouseButtonRight ++
    buttonPosts pressed released mouseButtonMiddle ++ if dx ≠ 0 ∨ dy ≠ 0 then [.move dx dy] else []

variable (driver : MouseDriver)

/-- The part of `mouse_handler` behind the last byte of a packet. -/
def decodePacket : MouseDriver :=
  let flags := driver.packet 0
  if flags &&& mousePacketAlways1 = 0 then driver
  else if flags &&& (mousePacketXOverflow ||| mousePacketYOverflow) ≠ 0 then driver
  else
    { driver with
      prevButtons := buttons flags
      posted := driver.posted ++ posts driver.prevButtons flags (driver.packet 1) (driver.packet 2) }

/-- The interrupt for one byte; the next packet starts behind three bytes, whether they were a packet or not. -/
def mouseHandler (data : UInt8) : MouseDriver :=
  if ¬ driver.initialized then driver
  else
    let packet := Function.update driver.packet driver.packetIndex data
    let packetIndex := driver.packetIndex + 1
    if packetIndex < 3 then { driver with packet, packetIndex }
    else { driver with packet, packetIndex := 0 }.decodePacket

/-- `mouse_init`, as far as it sets the state -/
def mouseInit : MouseDriver := { driver with packetIndex := 0, initialized := true }

def handleAll (bytes : List UInt8) : MouseDriver := bytes.foldl mouseHandler driver

/-- Three bytes that the mouse sends. -/
structure Packet where
  flags : UInt8
  x : UInt8
  y : UInt8

namespace Packet

variable (packet : Packet)

def bytes : List UInt8 := [packet.flags, packet.x, packet.y]

structure WellFormed : Prop where
  marked : packet.flags &&& mousePacketAlways1 ≠ 0
  noOverflow : packet.flags &&& (mousePacketXOverflow ||| mousePacketYOverflow) = 0
  xClear : packet.x &&& mousePacketAlways1 = 0
  yClear : packet.y &&& mousePacketAlways1 = 0

end Packet

/-- What a packet says: which buttons are down, and how far the mouse moved. -/
structure Report where
  left : Bool
  right : Bool
  middle : Bool
  dx : Int
  dy : Int

/-- The deltas are numbers of nine bits in two's complement, and are limited. -/
def Packet.report (packet : Packet) : Report :=
  { left := packet.flags &&& mousePacketLeftBtn ≠ 0
    right := packet.flags &&& mousePacketRightBtn ≠ 0
    middle := packet.flags &&& mousePacketMiddleBtn ≠ 0
    dx := clamped (-127) 127 (packet.x.toNat - if packet.flags &&& mousePacketXSign ≠ 0 then 256 else 0)
    dy := clamped (-127) 127 (packet.y.toNat - if packet.flags &&& mousePacketYSign ≠ 0 then 256 else 0) }

/-- The posts that tell what changed since another report. -/
def Report.changesSince (report previous : Report) : List MousePost :=
  (if report.left = previous.left then [] else [.button mouseButtonLeft report.left]) ++
    (if report.right = previous.right then [] else [.button mouseButtonRight report.right]) ++
      (if report.middle = previous.middle then [] else [.button mouseButtonMiddle report.middle]) ++
        if report.dx = 0 ∧ report.dy = 0 then [] else [.move report.dx report.dy]

variable {driver} {flags sign byte data : UInt8} {packet previous : Packet} {packets : Nat → Packet} {bytes : List UInt8}

theorem wrap_extended : wrap (byte.toNat ||| 0xFFFFFF00 : Nat) = (byte.toNat : Int) - 256 := by
  have small : byte.toNat < 2 ^ 8 := byte.toNat_lt
  have isSum : byte.toNat ||| 0xFFFFFF00 = 2 ^ 8 * 0xFFFFFF + byte.toNat := by
    rw [Nat.or_comm]
    exact (Nat.two_pow_add_eq_or_of_lt small 0xFFFFFF).symm
  rw [isSum, wrap, Int.bmod_def]
  split
  · omega
  · omega

theorem delta_eq : delta flags sign byte = clamped (-127) 127 (byte.toNat - if flags &&& sign ≠ 0 then 256 else 0) := by
  have limits (extended : Int) : clamped (-127) 127 extended =
      let limited := if 127 < extended then 127 else extended
      if limited < -127 then -127 else limited := by
    grind [clamped]
  rw [delta, wrap_extended, limits]
  by_cases negative : flags &&& sign ≠ 0
  · rw [if_pos negative, if_pos negative]
  · rw [if_neg negative, if_neg negative, Int.sub_zero]

/-- The buttons that are down. -/
def heldButtons (left right middle : Bool) : UInt32 :=
  (if left then mouseButtonLeft else 0) ||| (if right then mouseButtonRight else 0) |||
    if middle then mouseButtonMiddle else 0

theorem buttons_eq : buttons packet.flags = heldButtons packet.report.left packet.report.right packet.report.middle := by
  have folded (left right middle : Bool) :
      (let buttons := mouseButtonNone
       let buttons := if left then buttons ||| mouseButtonLeft else buttons
       let buttons := if right then buttons ||| mouseButtonRight else buttons
       if middle then buttons ||| mouseButtonMiddle else buttons) = heldButtons left right middle := by
    revert left right middle
    decide
  rw [← folded]
  simp only [Packet.report, decide_eq_true_eq]
  rfl

/-- A button is reported exactly if it changed. -/
theorem buttonPosts_eq (left right middle wasLeft wasRight wasMiddle : Bool) :
    let now := heldButtons left right middle
    let before := heldButtons wasLeft wasRight wasMiddle
    buttonPosts (now &&& ~~~before) (before &&& ~~~now) mouseButtonLeft ++
        buttonPosts (now &&& ~~~before) (before &&& ~~~now) mouseButtonRight ++
          buttonPosts (now &&& ~~~before) (before &&& ~~~now) mouseButtonMiddle =
      (if left = wasLeft then [] else [.button mouseButtonLeft left]) ++
        (if right = wasRight then [] else [.button mouseButtonRight right]) ++
          if middle = wasMiddle then [] else [.button mouseButtonMiddle middle] := by
  revert left right middle wasLeft wasRight wasMiddle
  decide +kernel

theorem posts_eq :
    posts (buttons previous.flags) packet.flags packet.x packet.y = packet.report.changesSince previous.report := by
  have isDx : delta packet.flags mousePacketXSign packet.x = packet.report.dx := delta_eq
  have isDy : delta packet.flags mousePacketYSign packet.y = packet.report.dy := delta_eq
  have isMove :
      (if packet.report.dx ≠ 0 ∨ packet.report.dy ≠ 0 then [MousePost.move packet.report.dx packet.report.dy] else []) =
      if packet.report.dx = 0 ∧ packet.report.dy = 0 then [] else [.move packet.report.dx packet.report.dy] := by
    by_cases still : packet.report.dx = 0 ∧ packet.report.dy = 0
    · rw [if_pos still, if_neg]
      omega
    · rw [if_neg still, if_pos]
      omega
  rw [posts, isDx, isDy, buttons_eq, buttons_eq, isMove, buttonPosts_eq, Report.changesSince]

/-- The driver takes bytes, and a packet is under way. -/
structure Ready (driver : MouseDriver) : Prop where
  initialized : driver.initialized = true
  unfinished : driver.packetIndex < 3

theorem mouseInit_ready (driver : MouseDriver) : driver.mouseInit.Ready := ⟨rfl, Nat.zero_lt_succ 2⟩

/-- A packet is only decoded. -/
theorem decodePacket_frame (driver : MouseDriver) : driver.decodePacket.packet = driver.packet ∧
    driver.decodePacket.packetIndex = driver.packetIndex ∧ driver.decodePacket.initialized = driver.initialized := by
  rw [decodePacket]
  split
  · exact ⟨rfl, rfl, rfl⟩
  · split
    · exact ⟨rfl, rfl, rfl⟩
    · exact ⟨rfl, rfl, rfl⟩

/-- Without its bit 3, the first byte is none. -/
theorem decodePacket_rejects (unmarked : driver.packet 0 &&& mousePacketAlways1 = 0) : driver.decodePacket = driver := by
  rw [decodePacket]
  exact if_pos unmarked

theorem decodePacket_accepts (marked : driver.packet 0 &&& mousePacketAlways1 ≠ 0)
    (noOverflow : driver.packet 0 &&& (mousePacketXOverflow ||| mousePacketYOverflow) = 0) :
    driver.decodePacket =
      { driver with
        prevButtons := buttons (driver.packet 0)
        posted := driver.posted ++ posts driver.prevButtons (driver.packet 0) (driver.packet 1) (driver.packet 2) } := by
  rw [decodePacket, if_neg marked, if_neg (not_not.mpr noOverflow)]

/-- Before the third byte nothing but the packet is touched. -/
theorem mouseHandler_gathers (ready : driver.Ready) (unfinished : driver.packetIndex + 1 < 3) :
    driver.mouseHandler data =
      { driver with
        packet := Function.update driver.packet driver.packetIndex data
        packetIndex := driver.packetIndex + 1 } := by
  rw [mouseHandler, if_neg (not_not.mpr ready.initialized)]
  exact if_pos unfinished

/-- The third byte ends the packet. -/
theorem mouseHandler_completes (ready : driver.Ready) (last : driver.packetIndex = 2) :
    driver.mouseHandler data =
      { driver with packet := Function.update driver.packet 2 data, packetIndex := 0 }.decodePacket := by
  rw [mouseHandler, if_neg (not_not.mpr ready.initialized), last]
  exact if_neg (Nat.lt_irrefl 3)

/-- Whatever the bytes are, each moves the frame by one. -/
theorem mouseHandler_index (ready : driver.Ready) (data : UInt8) :
    (driver.mouseHandler data).Ready ∧ (driver.mouseHandler data).packetIndex = (driver.packetIndex + 1) % 3 := by
  by_cases unfinished : driver.packetIndex + 1 < 3
  · rw [mouseHandler_gathers ready unfinished]
    exact ⟨⟨ready.initialized, unfinished⟩, (Nat.mod_eq_of_lt unfinished).symm⟩
  · have last : driver.packetIndex = 2 := by
      have := ready.unfinished
      omega
    obtain ⟨-, isIndex, isInitialized⟩ :=
      decodePacket_frame { driver with packet := Function.update driver.packet 2 data, packetIndex := 0 }
    rw [mouseHandler_completes ready last, isIndex, last]
    constructor
    · constructor
      · rw [isInitialized]
        exact ready.initialized
      · rw [isIndex]
        exact Nat.zero_lt_succ 2
    · rfl

theorem handleAll_append {front back : List UInt8} :
    driver.handleAll (front ++ back) = (driver.handleAll front).handleAll back :=
  List.foldl_append

/-- Only the number of bytes decides where a packet starts. -/
theorem handleAll_index (ready : driver.Ready) (bytes : List UInt8) :
    (driver.handleAll bytes).Ready ∧ (driver.handleAll bytes).packetIndex = (driver.packetIndex + bytes.length) % 3 := by
  induction bytes generalizing driver with
  | nil => exact ⟨ready, (Nat.mod_eq_of_lt ready.unfinished).symm⟩
  | cons data rest ih =>
      obtain ⟨nextReady, nextIndex⟩ := mouseHandler_index ready data
      obtain ⟨lastReady, lastIndex⟩ := ih nextReady
      constructor
      · exact lastReady
      · rw [nextIndex] at lastIndex
        rw [handleAll, List.foldl_cons, List.length_cons]
        rw [handleAll] at lastIndex
        omega

/-- The bytes of the first packets -/
def stream (packets : Nat → Packet) (count : Nat) : List UInt8 :=
  (List.range count).flatMap fun index => (packets index).bytes

theorem stream_succ {count : Nat} : stream packets (count + 1) = stream packets count ++ (packets count).bytes := by
  rw [stream, List.range_succ, List.flatMap_append]
  rfl

theorem length_stream {count : Nat} : (stream packets count).length = 3 * count := by
  induction count with
  | zero => rfl
  | succ count ih =>
      rw [stream_succ, List.length_append, ih]
      rfl

/-- A packet was gathered, and what it changes was posted. -/
structure Decodes (before : MouseDriver) (previous packet : Packet) (after : MouseDriver) : Prop where
  complete : after.packetIndex = 0
  gathered : [after.packet 0, after.packet 1, after.packet 2] = packet.bytes
  posted : after.posted = before.posted ++ packet.report.changesSince previous.report

theorem handleAll_frame (ready : driver.Ready) (aligned : driver.packetIndex = 0) :
    driver.handleAll packet.bytes =
      { driver with
        packet := Function.update (Function.update (Function.update driver.packet 0 packet.flags) 1 packet.x) 2 packet.y
        packetIndex := 0 }.decodePacket := by
  have first : driver.mouseHandler packet.flags =
      { driver with packet := Function.update driver.packet 0 packet.flags, packetIndex := 1 } := by
    rw [mouseHandler_gathers ready (by omega), aligned]
  have firstReady : (driver.mouseHandler packet.flags).Ready := (mouseHandler_index ready packet.flags).1
  rw [first] at firstReady
  have secondReady := (mouseHandler_index firstReady packet.x).1
  rw [mouseHandler_gathers firstReady (Nat.lt_succ_self 2)] at secondReady
  rw [handleAll, Packet.bytes, List.foldl_cons, first, List.foldl_cons,
    mouseHandler_gathers firstReady (Nat.lt_succ_self 2), List.foldl_cons, mouseHandler_completes secondReady rfl, List.foldl_nil]

/-- At the start of a frame, a packet is gathered and decoded. -/
theorem handleAll_packet (ready : driver.Ready) (aligned : driver.packetIndex = 0) (wellFormed : packet.WellFormed) :
    [(driver.handleAll packet.bytes).packet 0, (driver.handleAll packet.bytes).packet 1,
        (driver.handleAll packet.bytes).packet 2] = packet.bytes ∧
      (driver.handleAll packet.bytes).packetIndex = 0 ∧
      (driver.handleAll packet.bytes).prevButtons = buttons packet.flags ∧
      (driver.handleAll packet.bytes).posted =
        driver.posted ++ posts driver.prevButtons packet.flags packet.x packet.y := by
  rw [handleAll_frame ready aligned, decodePacket_accepts wellFormed.marked wellFormed.noOverflow]
  exact ⟨rfl, rfl, rfl, rfl⟩

/-- Where the frames start at the packets, every packet behind the first is decoded. -/
theorem decodes_of_aligned (ready : driver.Ready) (aligned : driver.packetIndex = 0)
    (wellFormed : previous.WellFormed) (nextWellFormed : packet.WellFormed) :
    Decodes (driver.handleAll previous.bytes) previous packet
      ((driver.handleAll previous.bytes).handleAll packet.bytes) := by
  obtain ⟨-, isIndex, isPrevious, -⟩ := handleAll_packet ready aligned wellFormed
  obtain ⟨gathered, complete, -, posted⟩ :=
    handleAll_packet (handleAll_index ready previous.bytes).1 isIndex nextWellFormed
  rw [isPrevious, posts_eq] at posted
  exact ⟨complete, gathered, posted⟩

/-- The state before a packet of the stream -/
def beforePacket (driver : MouseDriver) (garbage : List UInt8) (packets : Nat → Packet) (index : Nat) : MouseDriver :=
  driver.mouseInit.handleAll (garbage ++ stream packets index)

variable {garbage : List UInt8} {index : Nat}

theorem beforePacket_succ : driver.beforePacket garbage packets (index + 1) =
    (driver.beforePacket garbage packets index).handleAll (packets index).bytes := by
  rw [beforePacket, stream_succ, ← List.append_assoc, handleAll_append]
  rfl

theorem beforePacket_index (driver : MouseDriver) (garbage : List UInt8) (packets : Nat → Packet) (index : Nat) :
    (driver.beforePacket garbage packets index).Ready ∧
    (driver.beforePacket garbage packets index).packetIndex = garbage.length % 3 := by
  obtain ⟨ready, isIndex⟩ := handleAll_index driver.mouseInit_ready (garbage ++ stream packets index)
  have isStart : driver.mouseInit.packetIndex = 0 := rfl
  rw [List.length_append, length_stream, isStart, Nat.zero_add, Nat.add_mul_mod_self_left] at isIndex
  exact ⟨ready, isIndex⟩

/-- From some packet on, each one is decoded. -/
def Resynchronises (driver : MouseDriver) (garbage : List UInt8) (packets : Nat → Packet) : Prop :=
  ∃ settled, ∀ index, settled ≤ index →
    Decodes (driver.beforePacket garbage packets (index + 1)) (packets index) (packets (index + 1))
      (driver.beforePacket garbage packets (index + 2))

theorem not_resynchronises_of_misaligned (misaligned : garbage.length % 3 ≠ 0) :
    ¬ driver.Resynchronises garbage packets := by
  intro ⟨settled, decodes⟩
  have isIndex := (beforePacket_index driver garbage packets (settled + 2)).2
  rw [(decodes settled (Nat.le_refl settled)).complete] at isIndex
  exact misaligned isIndex.symm

/-- Frames always have three bytes, so what is in front of the packets has to be of such a length. -/
theorem resynchronises_iff (wellFormed : ∀ index, (packets index).WellFormed) :
    driver.Resynchronises garbage packets ↔ garbage.length % 3 = 0 := by
  constructor
  · intro resynchronises
    apply Classical.byContradiction
    intro misaligned
    exact not_resynchronises_of_misaligned misaligned resynchronises
  · intro aligned
    refine ⟨0, fun index _ => ?_⟩
    obtain ⟨ready, isIndex⟩ := beforePacket_index driver garbage packets index
    have decodes := decodes_of_aligned ready (isIndex.trans aligned) (wellFormed index) (wellFormed (index + 1))
    rwa [← beforePacket_succ, ← beforePacket_succ] at decodes

/-- The state before `mouse_init` -/
def powerOn : MouseDriver :=
  { packet := fun _ => 0, packetIndex := 0, initialized := false, prevButtons := 0, posted := [] }

/-- The left button is down, and the mouse moves. -/
def drag : Packet := { flags := 0x09, x := 0x05, y := 0x02 }

theorem drag_wellFormed : drag.WellFormed := ⟨by decide, by decide, by decide, by decide⟩

/-- Garbage of three bytes does no harm. -/
theorem resynchronises_after_frame : powerOn.Resynchronises [0xAA, 0x00, 0xFA] fun _ => drag :=
  (resynchronises_iff fun _ => drag_wellFormed).mpr rfl

/-- After one stray byte the driver never gets back to the packets. -/
theorem lost_after_stray_byte : drag.WellFormed ∧ ¬ powerOn.Resynchronises [0xFA] fun _ => drag :=
  ⟨drag_wellFormed, not_resynchronises_of_misaligned (by decide)⟩

theorem mouseHandler_first (ready : driver.Ready) (first : driver.packetIndex = 0) (data : UInt8) :
    (driver.mouseHandler data).packet 0 = data ∧ (driver.mouseHandler data).posted = driver.posted := by
  rw [mouseHandler_gathers ready (by omega), first]
  exact ⟨rfl, rfl⟩

theorem mouseHandler_second (ready : driver.Ready) (second : driver.packetIndex = 1) (data : UInt8) :
    (driver.mouseHandler data).packet 0 = driver.packet 0 ∧ (driver.mouseHandler data).posted = driver.posted := by
  rw [mouseHandler_gathers ready (by omega), second]
  exact ⟨rfl, rfl⟩

theorem mouseHandler_third (ready : driver.Ready) (third : driver.packetIndex = 2) (data : UInt8) :
    driver.packet 0 &&& mousePacketAlways1 = 0 → (driver.mouseHandler data).posted = driver.posted := by
  intro unmarked
  have rejected : { driver with packet := Function.update driver.packet 2 data, packetIndex := 0 }.decodePacket =
      { driver with packet := Function.update driver.packet 2 data, packetIndex := 0 } := decodePacket_rejects unmarked
  rw [mouseHandler_completes ready third, rejected]

/-- Between the packets a frame starts with a byte that has bit 3 clear, and is rejected. -/
theorem handleAll_misaligned (ready : driver.Ready) (misaligned : driver.packetIndex ≠ 0)
    (wellFormed : packet.WellFormed) :
    (driver.handleAll packet.bytes).packet 0 &&& mousePacketAlways1 = 0 ∧
      (driver.packet 0 &&& mousePacketAlways1 = 0 → (driver.handleAll packet.bytes).posted = driver.posted) := by
  have unfinished := ready.unfinished
  obtain ⟨nextReady, nextIndex⟩ := mouseHandler_index ready packet.flags
  obtain ⟨lastReady, lastIndex⟩ := mouseHandler_index nextReady packet.x
  rw [handleAll, Packet.bytes, List.foldl_cons, List.foldl_cons, List.foldl_cons, List.foldl_nil]
  obtain second | third : driver.packetIndex = 1 ∨ driver.packetIndex = 2 := by omega
  · rw [second] at nextIndex
    rw [nextIndex] at lastIndex
    obtain ⟨isFirst, firstPosted⟩ := mouseHandler_second ready second packet.flags
    obtain ⟨isClear, lastPosted⟩ := mouseHandler_first lastReady lastIndex packet.y
    rw [isClear, lastPosted]
    constructor
    · exact wellFormed.yClear
    · intro unmarked
      rw [mouseHandler_third nextReady nextIndex packet.x (by rwa [isFirst]), firstPosted]
  · rw [third] at nextIndex
    rw [nextIndex] at lastIndex
    obtain ⟨isFirst, firstPosted⟩ := mouseHandler_first nextReady nextIndex packet.x
    obtain ⟨isClear, lastPosted⟩ := mouseHandler_second lastReady lastIndex packet.y
    rw [isClear, lastPosted, isFirst, firstPosted]
    exact ⟨wellFormed.xClear, mouseHandler_third ready third packet.flags⟩

/-- When the frames do not start at the packets, nothing is posted any more. -/
theorem posted_of_misaligned (wellFormed : ∀ index, (packets index).WellFormed) (misaligned : garbage.length % 3 ≠ 0) :
    (driver.beforePacket garbage packets (index + 1)).posted = (driver.beforePacket garbage packets 1).posted := by
  induction index with
  | zero => rfl
  | succ index ih =>
      obtain ⟨ready, isIndex⟩ := beforePacket_index driver garbage packets index
      obtain ⟨nextReady, nextIndex⟩ := beforePacket_index driver garbage packets (index + 1)
      have unmarked := (handleAll_misaligned ready (by rwa [isIndex]) (wellFormed index)).1
      rw [← beforePacket_succ] at unmarked
      have silent := (handleAll_misaligned nextReady (by rwa [nextIndex]) (wellFormed (index + 1))).2 unmarked
      rw [beforePacket_succ, silent, ih]

end MouseDriver

end AutismOS.Input
