import AutismOS.Library.Word
import Mathlib.Data.List.Nodup
import Mathlib.Logic.Function.Basic

namespace AutismOS.Interrupts

open AutismOS.Library

/-! # Descriptor tables

The tables of `kernel/arch/gdt.c` and `kernel/arch/idt.c`, and what the processor reads in
them when it is interrupted.  Addresses that the linker chooses are arguments.
-/

/-- `GDT` -/
structure Gdt where
  segmentLimit : Nat
  baseLow : Nat
  baseMiddle : Nat
  access : Nat
  granularity : Nat
  baseHigh : Nat

/-- `IDT` -/
structure Idt where
  baseLow : Nat
  segmentSelector : Nat
  zero : Nat
  type : Nat
  baseHigh : Nat

/-- The fields of `TSS` that do not stay zero -/
structure Tss where
  esp0 : Nat
  ss0 : Nat
  cs : Nat
  ss : Nat
  ds : Nat
  es : Nat
  fs : Nat
  gs : Nat

/-- What the table registers, the task register and the memory they point to hold -/
structure Tables where
  gdt : Nat → Gdt
  gdtLimit : Nat
  idt : Nat → Idt
  idtLimit : Nat
  tasks : Nat → Tss
  taskRegister : Nat

def noGdtDescriptors : Nat := 8
def noIdtDescriptors : Nat := 256

/-- `sizeof(TSS)` -/
def tssSize : Nat := 104

def gdtSetEntry (table : Nat → Gdt) (index base limit access gran : Nat) : Nat → Gdt :=
  Function.update table index
    { segmentLimit := limit &&& 0xFFFF
      baseLow := base &&& 0xFFFF
      baseMiddle := base >>> 16 &&& 0xFF
      access
      granularity := (limit >>> 16 &&& 0x0F) ||| (gran &&& 0xF0)
      baseHigh := base >>> 24 &&& 0xFF }

def idtSetEntry (table : Nat → Idt) (index base segSel flags : Nat) : Nat → Idt :=
  Function.update table index
    { baseLow := base &&& 0xFFFF
      segmentSelector := segSel
      zero := 0
      type := flags ||| 0x60
      baseHigh := base >>> 16 &&& 0xFFFF }

def gdtInit (tables : Tables) : Tables :=
  let gdt := gdtSetEntry tables.gdt 0 0 0 0 0
  let gdt := gdtSetEntry gdt 1 0 0xFFFFFFFF 0x9A 0xCF
  let gdt := gdtSetEntry gdt 2 0 0xFFFFFFFF 0x92 0xCF
  let gdt := gdtSetEntry gdt 3 0 0xFFFFFFFF 0xFA 0xCF
  let gdt := gdtSetEntry gdt 4 0 0xFFFFFFFF 0xF2 0xCF
  { tables with gdt, gdtLimit := noGdtDescriptors * 8 - 1 }

/-- `tss` is the address of `g_tss`. -/
def tssInit (tables : Tables) (tss kernelSs kernelEsp : Nat) : Tables :=
  { tables with
    gdt := gdtSetEntry tables.gdt 5 tss tssSize 0x89 0x00
    tasks := Function.update tables.tasks tss
      { esp0 := kernelEsp, ss0 := kernelSs, cs := 0x08, ss := 0x10, ds := 0x10, es := 0x10, fs := 0x10, gs := 0x10 }
    taskRegister := 0x28 }

/-- The entry points of `exception.asm`, `irq.asm` and `syscall.asm`; `irq` stands for `irq_1` to `irq_15`. -/
inductive Stub where
  | exception (number : Fin 32)
  | irq0WithTaskSwitch
  | irq (number : Fin 15)
  | syscallInt0x80
deriving DecidableEq

/-- The gates in the order in which `idt_init` sets them, with their flags -/
def gates : List (Nat × Stub × Nat) :=
  (List.finRange 32).map (fun number => (number.val, .exception number, 0x8E)) ++
    [(32, .irq0WithTaskSwitch, 0x8E)] ++
      (List.finRange 15).map (fun number => (33 + number.val, .irq number, 0x8E)) ++
        [(128, .syscallInt0x80, 0xEE)]

def idtInit (tables : Tables) (address : Stub → Nat) : Tables :=
  { tables with
    idt := gates.foldl (fun table gate => idtSetEntry table gate.1 (address gate.2.1) 0x08 gate.2.2) tables.idt
    idtLimit := noIdtDescriptors * 8 - 1 }

/-- The tables before the kernel starts; the arrays are zero. -/
def blankTables : Tables where
  gdt := fun _ => ⟨0, 0, 0, 0, 0, 0⟩
  gdtLimit := 0
  idt := fun _ => ⟨0, 0, 0, 0, 0⟩
  idtLimit := 0
  tasks := fun _ => ⟨0, 0, 0, 0, 0, 0, 0, 0⟩
  taskRegister := 0

/-- The tables that `kmain` sets up, in its order -/
def bootTables (address : Stub → Nat) (tss stack : Nat) : Tables :=
  tssInit (idtInit (gdtInit blankTables) address) tss 0x10 stack

namespace Gdt

variable (entry : Gdt)

def base : Nat := entry.baseLow ||| entry.baseMiddle <<< 16 ||| entry.baseHigh <<< 24

/-- The last offset; the unit is a page where bit 7 of the granularity is set. -/
def limit : Nat :=
  let units := entry.segmentLimit ||| (entry.granularity &&& 0x0F) <<< 16
  if entry.granularity.testBit 7 then units <<< 12 ||| 0xFFF else units

def present : Bool := entry.access.testBit 7

def dpl : Nat := entry.access >>> 5 &&& 3

/-- A code segment that does not conform -/
def isCode : Bool := entry.access &&& 0x1C = 0x18

def isWritable : Bool := entry.access &&& 0x1A = 0x12

end Gdt

namespace Idt

variable (gate : Idt)

def offset : Nat := gate.baseLow ||| gate.baseHigh <<< 16

def present : Bool := gate.type.testBit 7

def dpl : Nat := gate.type >>> 5 &&& 3

/-- A 32-bit interrupt gate -/
def isInterrupt : Bool := gate.type &&& 0x1F = 0x0E

end Idt

def generalProtection : Nat := 13
def segmentNotPresent : Nat := 11
def invalidTss : Nat := 10

/-- Where the processor continues, and the stack that it switches to. -/
structure Entry where
  address : Nat
  stack : Option (Nat × Nat)
deriving DecidableEq

namespace Tables

variable (tables : Tables)

/-- The descriptor that a selector stands for. -/
def descriptor (selector : Nat) : Option Gdt :=
  if selector >>> 3 = 0 ∨ tables.gdtLimit < (selector ||| 7) then none else some (tables.gdt (selector >>> 3))

/-- The stack for a handler that runs with the privilege `dpl`. -/
def innerStack (dpl : Nat) : Except Nat (Nat × Nat) :=
  let task := tables.tasks ((tables.descriptor tables.taskRegister).elim 0 Gdt.base)
  match tables.descriptor task.ss0 with
  | none => .error invalidTss
  | some data =>
      if data.isWritable ∧ data.present ∧ data.dpl = dpl then .ok (task.ss0, task.esp0) else .error invalidTss

/-- An interrupt at privilege `cpl`, or the vector of the exception that happens instead.  Gates
other than interrupt gates are refused; the kernel has no others. -/
def enter (cpl : Nat) (software : Bool) (vector : Nat) : Except Nat Entry :=
  let gate := tables.idt vector
  if tables.idtLimit < vector * 8 + 7 ∨ !gate.isInterrupt then .error generalProtection
  else if software ∧ gate.dpl < cpl then .error generalProtection
  else if !gate.present then .error segmentNotPresent
  else
    match tables.descriptor gate.segmentSelector with
    | none => .error generalProtection
    | some code =>
        if !code.isCode ∨ cpl < code.dpl then .error generalProtection
        else if !code.present then .error segmentNotPresent
        else if code.limit < gate.offset then .error generalProtection
        else
          let address := add32 code.base gate.offset
          if code.dpl < cpl then (tables.innerStack code.dpl).map fun stack => { address, stack := some stack }
          else .ok { address, stack := none }

end Tables

variable {table : Nat → Gdt} {vectors : Nat → Idt} {address : Stub → Nat}
variable {index base limit access gran selector flags vector cpl tss stack : Nat} {software : Bool} {stub : Stub}

theorem or_shiftLeft {low high width : Nat} (small : low < 2 ^ width) :
    low ||| high <<< width = low + high * 2 ^ width := by
  rw [Nat.or_comm, ← Nat.shiftLeft_add_eq_or_of_lt small, Nat.shiftLeft_eq, Nat.add_comm]

/-- A mask for the low bits. -/
theorem and_low (value mask width : Nat) (isMask : mask = 2 ^ width - 1) : value &&& mask = value % 2 ^ width := by
  rw [isMask, Nat.and_two_pow_sub_one_eq_mod]

theorem gdtSetEntry_base (small : base < 2 ^ 32) : (gdtSetEntry table index base limit access gran index).base = base := by
  simp only [gdtSetEntry, Function.update_self, Gdt.base]
  have inner : base % 2 ^ 16 ||| (base >>> 16 % 2 ^ 8) <<< 16 = base % 2 ^ 16 + base >>> 16 % 2 ^ 8 * 2 ^ 16 :=
    or_shiftLeft (by omega)
  rw [and_low _ 0xFFFF 16 rfl, and_low _ 0xFF 8 rfl, and_low _ 0xFF 8 rfl, inner, or_shiftLeft (by omega),
    Nat.shiftRight_eq_div_pow, Nat.shiftRight_eq_div_pow]
  omega

theorem gdtSetEntry_limit : (gdtSetEntry table index base limit access gran index).limit =
    if gran.testBit 7 then limit % 2 ^ 20 * 2 ^ 12 + 0xFFF else limit % 2 ^ 20 := by
  have unit : Nat.testBit ((limit >>> 16 &&& 0x0F) ||| (gran &&& 0xF0)) 7 = gran.testBit 7 := by
    have constants : Nat.testBit 0x0F 7 = false ∧ Nat.testBit 0xF0 7 = true := by decide
    simp only [Nat.testBit_or, Nat.testBit_and, constants, Bool.and_false, Bool.and_true, Bool.false_or]
  have high : ((limit >>> 16 &&& 0x0F) ||| (gran &&& 0xF0)) &&& 0x0F = limit >>> 16 % 2 ^ 4 := by
    have disjoint : 0xF0 &&& 0x0F = 0 := by decide
    rw [Nat.and_or_distrib_right, Nat.and_assoc, Nat.and_assoc, disjoint, Nat.and_zero, Nat.or_zero, Nat.and_self]
    exact and_low _ 0x0F 4 rfl
  have units : (limit &&& 0xFFFF) ||| (limit >>> 16 % 2 ^ 4) <<< 16 = limit % 2 ^ 20 := by
    rw [and_low _ 0xFFFF 16 rfl, or_shiftLeft (by omega), Nat.shiftRight_eq_div_pow]
    omega
  simp only [gdtSetEntry, Function.update_self, Gdt.limit, unit, high, units]
  split
  · rw [Nat.or_comm, Nat.or_comm, ← Nat.shiftLeft_add_eq_or_of_lt (by decide), Nat.shiftLeft_eq]
  · rfl

theorem idtSetEntry_offset (small : base < 2 ^ 32) : (idtSetEntry vectors index base selector flags index).offset = base := by
  simp only [idtSetEntry, Function.update_self, Idt.offset]
  rw [and_low _ 0xFFFF 16 rfl, and_low _ 0xFFFF 16 rfl, or_shiftLeft (by omega), Nat.shiftRight_eq_div_pow]
  omega

/-- Whatever the flags, user mode may use the gate. -/
theorem idtSetEntry_dpl : (idtSetEntry vectors index base selector flags index).dpl = 3 := by
  simp only [idtSetEntry, Function.update_self, Idt.dpl]
  rw [Nat.shiftRight_or_distrib, Nat.and_or_distrib_right]
  refine Nat.eq_of_testBit_eq fun place => ?_
  have constant : (0x60 >>> 5 &&& 3) = 3 := by decide
  rw [constant, Nat.testBit_or, Nat.testBit_and]
  cases Nat.testBit 3 place <;> simp

/-- The stub behind a vector. -/
def stubAt (vector : Nat) : Option Stub :=
  if vector < 32 then some (.exception (Fin.ofNat 32 vector))
  else if vector = 32 then some .irq0WithTaskSwitch
  else if vector < 48 then some (.irq (Fin.ofNat 15 (vector - 33)))
  else if vector = 128 then some .syscallInt0x80
  else none

/-- Edits of different places: the content of a place is that of its only edit. -/
theorem foldl_update {α β : Type} {place : α → Nat} {content : α → β} {items : List α} {start : Nat → β}
    (distinct : (items.map place).Nodup) :
    items.foldl (fun table item => Function.update table (place item) (content item)) start index =
      ((items.find? fun item => place item = index).map content).getD (start index) := by
  induction items generalizing start with
  | nil => rfl
  | cons item rest ih =>
      obtain ⟨absent, distinctRest⟩ := List.nodup_cons.mp distinct
      rw [List.foldl_cons, ih distinctRest]
      by_cases here : place item = index
      · subst here
        have none : rest.find? (fun other => place other = place item) = none :=
          List.find?_eq_none.mpr fun other member same =>
            absent (List.mem_map.mpr ⟨other, member, of_decide_eq_true same⟩)
        simp [none]
      · simp [here, Function.update_of_ne (Ne.symm here)]

theorem gates_distinct : (gates.map Prod.fst).Nodup := by decide

/-- Every stub has its gate, an interrupt gate, and no other vector has one. -/
theorem gates_find : (gates.find? fun gate => gate.1 = vector) =
    (stubAt vector).map fun stub => (vector, stub, if vector = 128 then 0xEE else 0x8E) := by
  by_cases small : vector < 129
  · revert vector
    decide +kernel
  · have noStub : stubAt vector = none := by
      simp only [stubAt]
      rw [if_neg (by omega), if_neg (by omega), if_neg (by omega), if_neg (by omega)]
    rw [noStub, Option.map_none, List.find?_eq_none]
    intro gate member same
    have bounded : ∀ gate ∈ gates, gate.1 < 129 := by decide
    have here : gate.1 = vector := of_decide_eq_true same
    exact small (here ▸ bounded gate member)

theorem bootTables_idt : (bootTables address tss stack).idt vector =
    ((stubAt vector).map fun stub =>
      idtSetEntry blankTables.idt vector (address stub) 0x08 (if vector = 128 then 0xEE else 0x8E) vector).getD
        (blankTables.idt vector) := by
  have edited : (bootTables address tss stack).idt =
      gates.foldl (fun table gate => Function.update table gate.1
        (idtSetEntry blankTables.idt gate.1 (address gate.2.1) 0x08 gate.2.2 gate.1)) blankTables.idt := by
    simp [bootTables, tssInit, idtInit, gdtInit, idtSetEntry]
  rw [edited, foldl_update gates_distinct, gates_find, Option.map_map]
  rfl

theorem bootTables_code : (bootTables address tss stack).descriptor 0x08 =
    some (gdtSetEntry blankTables.gdt 1 0 0xFFFFFFFF 0x9A 0xCF 1) := by
  simp [Tables.descriptor, bootTables, tssInit, idtInit, gdtInit, gdtSetEntry, noGdtDescriptors]

/-- The stack of the task state segment, found through its descriptor. -/
theorem bootTables_innerStack (small : tss < 2 ^ 32) :
    (bootTables address tss stack).innerStack 0 = .ok (0x10, stack) := by
  have task : (bootTables address tss stack).descriptor 0x28 = some (gdtSetEntry blankTables.gdt 5 tss tssSize 0x89 0x00 5) := by
    simp [Tables.descriptor, bootTables, tssInit, idtInit, gdtInit, gdtSetEntry, noGdtDescriptors]
  have data : (bootTables address tss stack).descriptor 0x10 =
      some (gdtSetEntry blankTables.gdt 2 0 0xFFFFFFFF 0x92 0xCF 2) := by
    simp [Tables.descriptor, bootTables, tssInit, idtInit, gdtInit, gdtSetEntry, noGdtDescriptors]
  have content : (bootTables address tss stack).tasks tss =
      { esp0 := stack, ss0 := 0x10, cs := 0x08, ss := 0x10, ds := 0x10, es := 0x10, fs := 0x10, gs := 0x10 } := by
    simp [bootTables, tssInit]
  have register : (bootTables address tss stack).taskRegister = 0x28 := rfl
  simp only [Tables.innerStack, register, task, Option.elim_some, gdtSetEntry_base small, content, data]
  rfl

/-- A gate as the processor reads it. -/
structure Gated (gate : Idt) (target : Nat) : Prop where
  isInterrupt : gate.isInterrupt = true
  present : gate.present = true
  dpl : gate.dpl = 3
  segmentSelector : gate.segmentSelector = 0x08
  offset : gate.offset = target

theorem bootTables_gated (found : stubAt vector = some stub) (small : address stub < 2 ^ 32) :
    Gated ((bootTables address tss stack).idt vector) (address stub) := by
  rw [bootTables_idt, found, Option.map_some, Option.getD_some]
  refine ⟨?_, ?_, idtSetEntry_dpl, ?_, idtSetEntry_offset small⟩
  · simp only [idtSetEntry, Function.update_self, Idt.isInterrupt]
    split
    · rfl
    · rfl
  · simp only [idtSetEntry, Function.update_self, Idt.present]
    split
    · rfl
    · rfl
  · simp only [idtSetEntry, Function.update_self]

theorem stubAt_inside (found : stubAt vector = some stub) : vector < 256 := by
  by_contra large
  simp only [stubAt] at found
  rw [if_neg (by omega), if_neg (by omega), if_neg (by omega), if_neg (by omega)] at found
  cases found

/-- Read by the processor, the tables send every vector that has a stub to this stub, from any
privilege and for software interrupts too, and every other vector to a general protection fault. -/
theorem bootTables_enter (privilege : cpl ≤ 3) (addresses : ∀ stub, address stub < 2 ^ 32) (small : tss < 2 ^ 32) :
    (bootTables address tss stack).enter cpl software vector = (stubAt vector).elim (.error generalProtection) fun stub =>
      .ok { address := address stub, stack := if 0 < cpl then some (0x10, stack) else none } := by
  cases found : stubAt vector with
  | none =>
      have blank : (bootTables address tss stack).idt vector = blankTables.idt vector := by
        rw [bootTables_idt, found]
        rfl
      have noGate : (blankTables.idt vector).isInterrupt = false := by simp [blankTables, Idt.isInterrupt]
      simp only [Tables.enter, blank, noGate, Bool.not_false, or_true, if_true, Option.elim_none]
  | some stub =>
      obtain ⟨isInterrupt, present, dpl, segmentSelector, offset⟩ :=
        @bootTables_gated address vector tss stack stub found (addresses stub)
      have inside : vector < 256 := stubAt_inside found
      have limit : ¬ (bootTables address tss stack).idtLimit < vector * 8 + 7 := by
        have isLimit : (bootTables address tss stack).idtLimit = 2047 := rfl
        omega
      have code : (gdtSetEntry blankTables.gdt 1 0 0xFFFFFFFF 0x9A 0xCF 1).isCode = true ∧
          (gdtSetEntry blankTables.gdt 1 0 0xFFFFFFFF 0x9A 0xCF 1).present = true ∧
          (gdtSetEntry blankTables.gdt 1 0 0xFFFFFFFF 0x9A 0xCF 1).dpl = 0 ∧
          (gdtSetEntry blankTables.gdt 1 0 0xFFFFFFFF 0x9A 0xCF 1).base = 0 ∧
          (gdtSetEntry blankTables.gdt 1 0 0xFFFFFFFF 0x9A 0xCF 1).limit = 0xFFFFFFFF := by decide
      have inSegment : ¬ 0xFFFFFFFF < address stub := by
        have := addresses stub
        omega
      have linear : add32 0 (address stub) = address stub := by
        rw [add32_of_lt (by simpa using addresses stub), Nat.zero_add]
      have permitted : ¬ (software = true ∧ 3 < cpl) := fun ⟨_, above⟩ => absurd above (by omega)
      simp only [Tables.enter, isInterrupt, present, dpl, segmentSelector, offset, limit, bootTables_code, code,
        inSegment, linear, permitted, bootTables_innerStack small, Nat.not_lt_zero, Bool.not_true, Bool.false_eq_true,
        or_self, if_false]
      by_cases outer : 0 < cpl
      · simp [outer, Except.map]
      · simp [outer]

end AutismOS.Interrupts
