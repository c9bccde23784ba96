import Mathlib.Data.Finset.Basic

namespace AutismOS.Library

/-! Interrupt controllers with eight lines, the second one behind a line of the first.

Line 0 comes first.  A line in service holds back itself and the lines behind it until its
service is ended.  The commands for rotation, polling and special masks are not here. -/

/-- What the next byte at the data port is. -/
inductive Expects where
  | mask
  | vector (cascaded withMode : Bool)
  | cascade (withMode : Bool)
  | mode
deriving DecidableEq

structure Controller where
  requests : Finset (Fin 8)
  inService : Finset (Fin 8)
  mask : Nat
  vector : Nat
  cascade : Nat
  automatic : Bool
  expects : Expects

/-- The first of some lines. -/
def firstLine (lines : Finset (Fin 8)) : Option (Fin 8) := (List.finRange 8).find? fun line => line ∈ lines

namespace Controller

variable (controller : Controller)

/-- A byte at the command port. -/
def command (value : Nat) : Controller :=
  if value.testBit 4 then
    { controller with
      requests := ∅
      mask := 0
      automatic := false
      expects := .vector (!value.testBit 1) (value.testBit 0) }
  else if value.testBit 3 || !value.testBit 5 then controller
  else if value.testBit 6 then { controller with inService := controller.inService.filter fun line => line.val ≠ value % 8 }
  else { controller with inService := (firstLine controller.inService).elim ∅ controller.inService.erase }

/-- A byte at the data port. -/
def data (value : Nat) : Controller :=
  match controller.expects with
  | .mask => { controller with mask := value }
  | .vector cascaded withMode =>
      { controller with
        vector := value / 8 * 8
        expects := if cascaded then .cascade withMode else if withMode then .mode else .mask }
  | .cascade withMode => { controller with cascade := value, expects := if withMode then .mode else .mask }
  | .mode => { controller with automatic := value.testBit 1, expects := .mask }

/-- The lines that may interrupt; `outside` is what other controllers request. -/
def waiting (outside : Finset (Fin 8)) : Finset (Fin 8) :=
  (controller.requests ∪ outside).filter fun line =>
    controller.mask.testBit line = false ∧ ∀ busy ∈ controller.inService, line < busy

def serve (line : Fin 8) : Controller :=
  { controller with
    requests := controller.requests.erase line
    inService := if controller.automatic then controller.inService else insert line controller.inService }

end Controller

/-- Where a request comes from: a line of the first controller, or one of the second. -/
inductive Source where
  | near (line : Fin 8)
  | far (line : Fin 8)
deriving DecidableEq

structure Cascade where
  leader : Controller
  follower : Controller

/-- The sources behind a cascade, the first ones first. -/
def Source.order (link : Fin 8) : List Source :=
  (List.finRange 8).flatMap fun line => if line = link then (List.finRange 8).map .far else [.near line]

namespace Cascade

variable (pair : Cascade) (link : Fin 8)

/-- The second controller requests its line of the first. -/
def outside : Finset (Fin 8) := if (pair.follower.waiting ∅).Nonempty then {link} else ∅

/-- The processor asks what interrupts it.  A request that went away is answered with the last line. -/
def acknowledge : Nat × Cascade :=
  match firstLine (pair.leader.waiting (pair.outside link)) with
  | none => (pair.leader.vector + 7, pair)
  | some line =>
      if line = link ∧ pair.leader.cascade.testBit link ∧ pair.follower.cascade % 8 = link then
        match firstLine (pair.follower.waiting ∅) with
        | none => (pair.follower.vector + 7, { pair with leader := pair.leader.serve line })
        | some inner =>
            (pair.follower.vector + inner, { leader := pair.leader.serve line, follower := pair.follower.serve inner })
      else (pair.leader.vector + line, { pair with leader := pair.leader.serve line })

/-- A device raises its line. -/
def raise : Source → Cascade
  | .near line => { pair with leader := { pair.leader with requests := insert line pair.leader.requests } }
  | .far line => { pair with follower := { pair.follower with requests := insert line pair.follower.requests } }

/-- The request of a device goes away. -/
def withdraw : Source → Cascade
  | .near line => { pair with leader := { pair.leader with requests := pair.leader.requests.erase line } }
  | .far line => { pair with follower := { pair.follower with requests := pair.follower.requests.erase line } }

/-- Both controllers are set up and nothing is in service. -/
structure Idle : Prop where
  leaderService : pair.leader.inService = ∅
  followerService : pair.follower.inService = ∅
  leaderCascade : pair.leader.cascade.testBit link = true
  followerCascade : pair.follower.cascade % 8 = link
  leaderManual : pair.leader.automatic = false
  followerManual : pair.follower.automatic = false
  leaderExpects : pair.leader.expects = .mask
  followerExpects : pair.follower.expects = .mask
  link : link ∉ pair.leader.requests

/-- A request that is not masked. -/
def Pends : Source → Prop
  | .near line => line ∈ pair.leader.requests ∧ pair.leader.mask.testBit line = false
  | .far line => (line ∈ pair.follower.requests ∧ pair.follower.mask.testBit line = false) ∧
      pair.leader.mask.testBit link = false

instance (source : Source) : Decidable (pair.Pends link source) := by
  cases source with
  | near line => exact inferInstanceAs (Decidable (_ ∧ _))
  | far line => exact inferInstanceAs (Decidable (_ ∧ _))

/-- The requests that are not masked, in the order in which they are served. -/
def pending : List Source := (Source.order link).filter fun source => pair.Pends link source

/-- The vector with which a source interrupts. -/
def vectorOf : Source → Nat
  | .near line => pair.leader.vector + line
  | .far line => pair.follower.vector + line

/-- A source is in service. -/
def serving : Source → Cascade
  | .near line => { pair with leader := pair.leader.serve line }
  | .far line => { leader := pair.leader.serve link, follower := pair.follower.serve line }

/-- A source as the one behind the first controller's end of service, and the second one's where it is involved. -/
def finish : Source → Cascade
  | .near _ => { pair with leader := pair.leader.command 0x20 }
  | .far _ => { leader := pair.leader.command 0x20, follower := pair.follower.command 0x20 }

end Cascade

variable {controller : Controller} {pair : Cascade} {link line : Fin 8} {lines : Finset (Fin 8)} {source other : Source}

theorem findSome?_eq_find? {α : Type u} {β : Type v} {items : List α} {answer : α → Option β} :
    items.findSome? answer = (items.find? fun item => (answer item).isSome).bind answer := by
  induction items with
  | nil => rfl
  | cons item rest ih =>
      cases found : answer item with
      | none => simp [found, ih]
      | some value => simp [found]

@[simp] theorem firstLine_empty : firstLine ∅ = none := by simp [firstLine]

@[simp] theorem firstLine_singleton : firstLine {line} = some line := by
  revert line
  decide

theorem firstLine_eq_none : firstLine lines = none ↔ lines = ∅ := by
  simp [firstLine, Finset.eq_empty_iff_forall_notMem]

theorem mem_waiting (inService : controller.inService = ∅) :
    line ∈ controller.waiting lines ↔
      (line ∈ controller.requests ∨ line ∈ lines) ∧ controller.mask.testBit line = false := by
  simp [Controller.waiting, inService]

theorem command_endOfService : controller.command 0x20 =
    { controller with inService := (firstLine controller.inService).elim ∅ controller.inService.erase } := rfl

/-- The end of service takes back what `serve` put into service. -/
theorem command_serve (inService : controller.inService = ∅) (automatic : controller.automatic = false) :
    (controller.serve line).command 0x20 = { controller with requests := controller.requests.erase line } := by
  simp [command_endOfService, Controller.serve, automatic, inService]

/-- Where nothing is in service its end changes nothing. -/
theorem command_idle (inService : controller.inService = ∅) : controller.command 0x20 = controller := by
  cases controller
  simp_all [command_endOfService]

namespace Cascade

theorem order_nodup : (Source.order link).Nodup := by
  revert link
  decide

/-- The requests that one line of the first controller stands for. -/
def behind (pair : Cascade) (link line : Fin 8) : Option Source :=
  (if line = link then (List.finRange 8).map Source.far else [.near line]).find? fun source => pair.Pends link source

theorem pending_head : (pair.pending link).head? = (List.finRange 8).findSome? (pair.behind link) := by
  rw [pending, List.head?_filter, Source.order, List.find?_flatMap]
  rfl

theorem behind_other (apart : line ≠ link) :
    pair.behind link line = if pair.Pends link (.near line) then some (.near line) else none := by
  rw [behind, if_neg apart, List.find?_singleton]
  simp

theorem behind_link (idle : pair.Idle link) (unmasked : pair.leader.mask.testBit link = false) :
    pair.behind link link = (firstLine (pair.follower.waiting ∅)).map .far := by
  rw [behind, if_pos rfl, List.find?_map, firstLine]
  simp [Function.comp_def, mem_waiting idle.followerService, Pends, unmasked]

/-- A line interrupts where a request stands behind it. -/
theorem mem_waiting_outside (idle : pair.Idle link) :
    line ∈ pair.leader.waiting (pair.outside link) ↔ (pair.behind link line).isSome := by
  rw [mem_waiting idle.leaderService]
  by_cases isLink : line = link
  · subst isLink
    cases masked : pair.leader.mask.testBit line with
    | true => simp [behind, Pends, masked]
    | false =>
        have follower := @firstLine_eq_none (pair.follower.waiting ∅)
        rw [behind_link idle masked, Option.isSome_map, Option.isSome_iff_ne_none, Ne, follower, outside]
        by_cases none : pair.follower.waiting ∅ = ∅
        · simp [idle.link, none]
        · simp [Finset.nonempty_iff_ne_empty, none]
  · have notOutside : line ∉ pair.outside link := by
      rw [outside]
      split
      · simpa using isLink
      · simp
    rw [behind_other isLink]
    by_cases pends : pair.Pends link (.near line)
    · simp [pends, notOutside, pends.1, pends.2]
    · rw [if_neg pends]
      simpa [notOutside, Pends] using pends

/-- What is served is the first request that is not masked. -/
theorem acknowledge_eq (idle : pair.Idle link) :
    pair.acknowledge link = (pair.pending link).head?.elim (pair.leader.vector + 7, pair) fun source =>
      (pair.vectorOf source, pair.serving link source) := by
  have picked : firstLine (pair.leader.waiting (pair.outside link)) =
      (List.finRange 8).find? fun line => (pair.behind link line).isSome := by
    rw [firstLine]
    refine congrArg (fun test => List.find? test (List.finRange 8)) (funext fun line => ?_)
    exact Bool.eq_iff_iff.mpr (decide_eq_true_iff.trans (mem_waiting_outside idle))
  rw [pending_head, findSome?_eq_find?, acknowledge]
  cases found : firstLine (pair.leader.waiting (pair.outside link)) with
  | none =>
      rw [← picked, found]
      rfl
  | some line =>
      have requested : (pair.behind link line).isSome := by
        rw [picked] at found
        exact List.find?_some (p := fun line => (pair.behind link line).isSome) found
      rw [← picked, found, Option.bind_some]
      by_cases isLink : line = link
      · subst isLink
        have unmasked := ((mem_waiting idle.leaderService).mp ((mem_waiting_outside idle).mpr requested)).2
        rw [behind_link idle unmasked] at requested ⊢
        simp only [idle.leaderCascade, idle.followerCascade, and_self, if_true]
        cases inner : firstLine (pair.follower.waiting ∅) with
        | none => simp [inner] at requested
        | some inner => rfl
      · rw [behind_other isLink] at requested ⊢
        by_cases pends : pair.Pends link (.near line)
        · rw [if_pos pends]
          simp only [isLink, false_and, if_false]
          rfl
        · simp [pends] at requested

/-- The end of service leaves the cascade without the request that was served. -/
theorem finish_serving (idle : pair.Idle link) : (pair.serving link source).finish source = pair.withdraw source := by
  cases source with
  | near line =>
      rw [serving, finish, command_serve idle.leaderService idle.leaderManual]
      rfl
  | far line =>
      rw [serving, finish, command_serve idle.leaderService idle.leaderManual,
        command_serve idle.followerService idle.followerManual, Finset.erase_eq_of_notMem idle.link]
      rfl

theorem withdraw_idle (idle : pair.Idle link) : (pair.withdraw source).Idle link := by
  cases source with
  | near line => exact { idle with link := fun member => idle.link (Finset.mem_of_mem_erase member) }
  | far line => exact { idle with }

theorem raise_idle (idle : pair.Idle link) (direct : source ≠ .near link) : (pair.raise source).Idle link := by
  cases source with
  | near line =>
      refine { idle with link := fun member => ?_ }
      rcases Finset.mem_insert.mp member with rfl | old
      · exact direct rfl
      · exact idle.link old
  | far line => exact { idle with }

@[simp] theorem pends_withdraw : (pair.withdraw source).Pends link other ↔ other ≠ source ∧ pair.Pends link other := by
  cases source with
  | near line => cases other <;> simp [withdraw, Pends, and_assoc]
  | far line => cases other <;> simp [withdraw, Pends, and_assoc]

end Cascade

end AutismOS.Library
