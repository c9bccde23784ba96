import AutismOS.Processes.Context

namespace AutismOS.Processes

open AutismOS.Library

variable {kernel after final : Kernel} {head fuel currentEsp : Nat} {esps front back later : List Nat}

/-! # Turns of the timer

Here tasks may be blocked or wait, and only ticks change their states.
-/

/-- The effect of a tick that makes `selected` the current task. -/
structure Selects (before after : Kernel) (selected : Nat) : Prop where
  current : after.currentTask = selected
  state : ∀ task, (after.tasks task).state =
    if task = selected then .running else if task = before.currentTask then .ready else (before.tasks task).state
  link : ∀ task, after.link task = before.link task
  schedulerStarted : after.schedulerStarted = before.schedulerStarted

/-- The first task in a list that may run, and the current one if there is none. -/
def Kernel.firstRunnable (kernel : Kernel) (tasks : List Nat) : Nat :=
  (tasks.find? kernel.runnable).getD kernel.currentTask

/-- The scheduler has started, and its tasks form a ring of at least two: those in `front`, the current
one and those in `back`. -/
structure Rotating (kernel : Kernel) (head : Nat) (front back : List Nat) : Prop where
  ring : Ring.Closed kernel.link head (front ++ kernel.currentTask :: back)
  nonNull : 0 ∉ front ++ kernel.currentTask :: back
  several : 2 ≤ (front ++ kernel.currentTask :: back).length
  started : kernel.schedulerStarted = true

theorem Rotating.absent (rotating : Rotating kernel head front back) : kernel.currentTask ∉ back ++ front :=
  (List.nodup_cons.mp rotating.ring.rotate.nodup).1

theorem Rotating.hasOther (rotating : Rotating kernel head front back) : kernel.hasOther = true := by
  have member : kernel.currentTask ∈ front ++ kernel.currentTask :: back := List.mem_append_right _ List.mem_cons_self
  refine hasOther_link.mpr ⟨fun null => rotating.nonNull (null ▸ member), fun null => rotating.nonNull ?_, ?_⟩
  · exact null ▸ rotating.ring.next_mem member
  · exact rotating.ring.next_ne rotating.several member

theorem saved_runnable_other {task : Nat} (different : task ≠ kernel.currentTask) :
    (kernel.saved currentEsp).runnable task = kernel.runnable task := by
  rw [Kernel.runnable, saved_state, if_neg different]
  rfl

theorem find?_saved {tasks : List Nat} (absent : kernel.currentTask ∉ tasks) :
    tasks.find? (kernel.saved currentEsp).runnable = tasks.find? kernel.runnable := by
  induction tasks with
  | nil => rfl
  | cons first rest ih =>
      have different : first ≠ kernel.currentTask := fun same => absent (same ▸ List.mem_cons_self)
      rw [List.find?_cons, List.find?_cons, saved_runnable_other different,
        ih fun member => absent (List.mem_cons_of_mem _ member)]

theorem selects_switched (selected : Nat) :
    Selects kernel (Kernel.setTaskState { kernel.saved currentEsp with currentTask := selected } selected .running)
      selected := by
  refine ⟨rfl, ?_, fun task => setTaskState_link.trans saved_link, rfl⟩
  intro task
  rw [setTaskState_state]
  split
  · rfl
  · exact saved_state

/-- The tick returns, having selected the first task behind the current one that may run. -/
theorem Rotating.tick (rotating : Rotating kernel head front back) (currentEsp : Nat)
    (enough : (front ++ kernel.currentTask :: back).length ≤ fuel) :
    ∃ esp after, kernel.taskSchedulerTick fuel currentEsp = some (esp, after) ∧
      Selects kernel after (kernel.firstRunnable (back ++ front)) ∧ esp = (after.tasks after.currentTask).esp := by
  have turned := rotating.ring.rotate
  have nonempty : back ++ front ≠ [] := by
    intro isEmpty
    have none := List.append_eq_nil_iff.mp isEmpty
    have several := rotating.several
    rw [none.1, none.2] at several
    cases several with
    | step impossible => cases impossible
  have shorter : (back ++ front).length ≤ fuel := by
    simp only [List.length_append, List.length_cons] at enough ⊢
    omega
  have links : (fun task => ((kernel.saved currentEsp).tasks task).next) = kernel.link := funext fun _ => saved_link
  rw [taskSchedulerTick_eq, rotating.hasOther, rotating.started, links]
  have walked : Ring.skip kernel.link (kernel.saved currentEsp).runnable kernel.currentTask fuel
      (kernel.link kernel.currentTask) = some (kernel.firstRunnable (back ++ front)) := by
    rw [Kernel.firstRunnable, ← find?_saved rotating.absent]
    exact Ring.skip_path turned.path.2 rotating.absent nonempty shorter
  have start : ((kernel.saved currentEsp).tasks kernel.currentTask).next = kernel.link kernel.currentTask := saved_link
  rw [start, walked]
  exact ⟨_, _, rfl, selects_switched _, rfl⟩

/-- One tick after another, with the stack pointers that they find, and the tasks that they select. -/
def Kernel.ticks (fuel : Nat) (kernel : Kernel) : List Nat → Option (List Nat × Kernel)
  | [] => some ([], kernel)
  | currentEsp :: rest =>
      (kernel.taskSchedulerTick fuel currentEsp).bind fun result =>
        (Kernel.ticks fuel result.2 rest).map fun later => (result.2.currentTask :: later.1, later.2)

theorem ticks_append {selected later' : List Nat} {rest : List Nat} {last : Kernel}
    (first : kernel.ticks fuel esps = some (selected, final)) (second : final.ticks fuel rest = some (later', last)) :
    kernel.ticks fuel (esps ++ rest) = some (selected ++ later', last) := by
  induction esps generalizing kernel selected with
  | nil =>
      cases first
      exact second
  | cons currentEsp esps ih =>
      obtain ⟨result, ticked, first⟩ := Option.bind_eq_some_iff.mp first
      obtain ⟨⟨others, reached⟩, remaining, same⟩ := Option.map_eq_some_iff.mp first
      cases same
      rw [List.cons_append, Kernel.ticks, ticked, Option.bind_some, ih remaining]
      rfl

/-- The ring stays, now with the selected task as the current one. -/
theorem Selects.rotating {front' back' : List Nat} {selected : Nat} (selects : Selects kernel after selected)
    (rotating : Rotating kernel head front back)
    (split : front ++ kernel.currentTask :: back = front' ++ selected :: back') : Rotating after head front' back' := by
  have link : after.link = kernel.link := funext selects.link
  refine ⟨?_, ?_, ?_, selects.schedulerStarted.trans rotating.started⟩
  · rw [link, selects.current, ← split]
    exact rotating.ring
  · rw [selects.current, ← split]
    exact rotating.nonNull
  · rw [selects.current, ← split]
    exact rotating.several

/-- A tick lets the task that was current run again, and changes nothing for the others. -/
theorem Selects.runnable {selected : Nat} (selects : Selects kernel after selected)
    (runs : kernel.runnable selected = true ∨ selected = kernel.currentTask) (task : Nat) :
    after.runnable task = true ↔ kernel.runnable task = true ∨ task = kernel.currentTask := by
  rw [Kernel.runnable, selects.state]
  by_cases isSelected : task = selected
  · subst isSelected
    rw [if_pos rfl]
    exact iff_of_true rfl runs
  · rw [if_neg isSelected]
    by_cases wasCurrent : task = kernel.currentTask
    · rw [if_pos wasCurrent]
      exact iff_of_true rfl (Or.inr wasCurrent)
    · rw [if_neg wasCurrent, or_iff_left wasCurrent]
      rfl

theorem firstRunnable_append {skipped rest : List Nat} {task : Nat}
    (none : ∀ other ∈ skipped, ¬ kernel.runnable other = true) (runs : kernel.runnable task = true) :
    kernel.firstRunnable (skipped ++ task :: rest) = task := by
  have nobody : skipped.find? kernel.runnable = Option.none := List.find?_eq_none.mpr none
  rw [Kernel.firstRunnable, List.find?_append, nobody, List.find?_cons, runs]
  rfl

/-- As many ticks as tasks behind the current one may run, up to the end of the list, select just these in turn. -/
theorem Rotating.sweep (rotating : Rotating kernel head front back)
    (enough : (front ++ kernel.currentTask :: back).length ≤ fuel)
    (many : esps.length = (back.filter kernel.runnable).length) :
    ∃ final front' back', kernel.ticks fuel esps = some (back.filter kernel.runnable, final) ∧
      Rotating final head front' back' ∧ front ++ kernel.currentTask :: back = front' ++ final.currentTask :: back' ∧
      (∀ task ∈ back', ¬ final.runnable task = true) ∧
      ∀ task, kernel.runnable task = true → final.runnable task = true := by
  induction esps generalizing kernel front back with
  | nil =>
      have none : back.filter kernel.runnable = [] := List.length_eq_zero_iff.mp many.symm
      refine ⟨kernel, front, back, by rw [none]; rfl, rotating, rfl, ?_, fun _ => id⟩
      exact List.filter_eq_nil_iff.mp none
  | cons currentEsp rest ih =>
      cases waiting : back.filter kernel.runnable with
      | nil => rw [waiting] at many; cases many
      | cons selected others =>
          obtain ⟨skipped, back', rfl, none, runs, remaining⟩ := List.filter_eq_cons_iff.mp waiting
          obtain ⟨esp, after, ticked, selects, _⟩ := rotating.tick currentEsp enough
          have isSelected : kernel.firstRunnable (skipped ++ selected :: back' ++ front) = selected := by
            rw [List.append_assoc, List.cons_append]
            exact firstRunnable_append none runs
          rw [isSelected] at selects
          have split : front ++ kernel.currentTask :: (skipped ++ selected :: back') =
              front ++ kernel.currentTask :: skipped ++ selected :: back' := by
            simp
          have turned := selects.rotating rotating split
          have same : back'.filter after.runnable = others := by
            rw [← remaining]
            refine List.filter_congr ?_
            intro task member
            have different : task ≠ kernel.currentTask := by
              intro isCurrent
              refine rotating.absent ?_
              rw [← isCurrent]
              simp [member]
            exact Bool.eq_iff_iff.mpr ((selects.runnable (Or.inl runs) task).trans (or_iff_left different))
          rw [split, ← selects.current] at enough
          have fewer : rest.length = (back'.filter after.runnable).length := by
            rw [same]
            rw [waiting] at many
            exact Nat.succ.inj many
          obtain ⟨final, front'', back'', swept, rotates, whole, nobody, kept⟩ := ih turned enough fewer
          refine ⟨final, front'', back'', ?_, rotates, ?_, nobody, ?_⟩
          · rw [Kernel.ticks, ticked, Option.bind_some, swept, same, selects.current]
            rfl
          · rw [split, ← whole, selects.current]
          · intro task runsBefore
            exact kept task ((selects.runnable (Or.inl runs) task).mpr (Or.inl runsBefore))

/-- The ring as the current task sees it. -/
theorem Rotating.entered (rotating : Rotating kernel head front back) :
    Rotating kernel kernel.currentTask [] (back ++ front) ∧
      (front ++ kernel.currentTask :: back).Perm (kernel.currentTask :: (back ++ front)) := by
  have turned : (front ++ kernel.currentTask :: back).Perm (kernel.currentTask :: (back ++ front)) :=
    List.perm_append_comm
  refine ⟨⟨rotating.ring.rotate, fun null => rotating.nonNull (turned.mem_iff.mpr null), ?_, rotating.started⟩, turned⟩
  exact turned.length_eq ▸ rotating.several

/-- When all tasks behind the current one have had their turn, the ring's first task is next. -/
theorem Rotating.returns {first : Nat} {later : List Nat} (rotating : Rotating kernel head front back)
    (whole : first :: later = front ++ kernel.currentTask :: back)
    (nobody : ∀ task ∈ back, ¬ kernel.runnable task = true) (runs : kernel.runnable first = true) : kernel.firstRunnable (back ++ front) = first := by
  cases front with
  | nil =>
      obtain ⟨isCurrent, -⟩ := List.cons.inj whole
      have none : back.find? kernel.runnable = Option.none := List.find?_eq_none.mpr nobody
      rw [List.append_nil, Kernel.firstRunnable, none, isCurrent]
      rfl
  | cons second front =>
      obtain ⟨rfl, -⟩ := List.cons.inj whole
      exact firstRunnable_append nobody runs

/-- A full turn of the ring selects every task that may run, the one that was current last. -/
theorem Rotating.turn (rotating : Rotating kernel kernel.currentTask [] later)
    (enough : (kernel.currentTask :: later).length ≤ fuel)
    (many : esps.length = ((kernel.currentTask :: later).filter kernel.runnable).length) :
    ∃ selected final, kernel.ticks fuel esps = some (selected, final) ∧
      selected.Perm ((kernel.currentTask :: later).filter kernel.runnable) := by
  by_cases runs : kernel.runnable kernel.currentTask = true
  · rw [List.filter_cons_of_pos runs] at many ⊢
    obtain ⟨most, lastEsp, rfl⟩ : ∃ most lastEsp, esps = most ++ [lastEsp] := by
      have nonempty : esps ≠ [] := by
        intro isEmpty
        rw [isEmpty] at many
        cases many
      exact ⟨_, _, (List.dropLast_concat_getLast nonempty).symm⟩
    have fewer : most.length = (later.filter kernel.runnable).length := by
      rw [List.length_append] at many
      exact Nat.succ.inj many
    obtain ⟨final, front, back, swept, turned, whole, nobody, kept⟩ := rotating.sweep enough fewer
    have around : (front ++ final.currentTask :: back).length ≤ fuel := whole ▸ enough
    obtain ⟨esp, last, ticked, selects, _⟩ := turned.tick lastEsp around
    rw [turned.returns whole nobody (kept _ runs)] at selects
    have final' : final.ticks fuel [lastEsp] = some ([kernel.currentTask], last) := by
      rw [Kernel.ticks, ticked, Option.bind_some, Kernel.ticks, selects.current]
      rfl
    exact ⟨_, last, ticks_append swept final', List.perm_append_comm⟩
  · rw [List.filter_cons_of_neg runs] at many ⊢
    obtain ⟨final, _, _, swept, _⟩ := rotating.sweep enough many
    exact ⟨_, final, swept, List.Perm.refl _⟩

/-- The tick returns after at most as many steps as there are tasks, selects the first task behind the
current one that may run and makes just this one RUNNING.  As many ticks as tasks may run select each
of these once. -/
theorem ticks_select_each_once (rotating : Rotating kernel head front back)
    (enough : (front ++ kernel.currentTask :: back).length ≤ fuel) :
    (∀ currentEsp, ∃ esp after, kernel.taskSchedulerTick fuel currentEsp = some (esp, after) ∧
      Selects kernel after (kernel.firstRunnable (back ++ front)) ∧ esp = (after.tasks after.currentTask).esp) ∧
    ∀ esps, esps.length = ((front ++ kernel.currentTask :: back).filter kernel.runnable).length →
      ∃ selected final, kernel.ticks fuel esps = some (selected, final) ∧ selected.Nodup ∧
        ∀ task, task ∈ selected ↔ task ∈ front ++ kernel.currentTask :: back ∧ kernel.runnable task = true := by
  refine ⟨fun currentEsp => rotating.tick currentEsp enough, ?_⟩
  intro esps many
  obtain ⟨entered, turned⟩ := rotating.entered
  have filtered := turned.filter kernel.runnable
  obtain ⟨selected, final, done, same⟩ := entered.turn (turned.length_eq ▸ enough) (many.trans filtered.length_eq)
  have exactly := same.trans filtered.symm
  refine ⟨selected, final, done, exactly.nodup_iff.mpr (rotating.ring.nodup.filter _), ?_⟩
  intro task
  rw [exactly.mem_iff, List.mem_filter]

/-- Three tasks in a ring, of which the second one waits. -/
def ringKernel : Kernel :=
  { emptyKernel with
    tasks := fun task =>
      { emptyKernel.tasks task with
        state := if task = 2 then .waiting else if task = 1 then .running else .ready
        next := if task = 3 then 1 else task + 1 }
    currentTask := 1
    taskListHead := 1
    schedulerStarted := true }

theorem ringKernel_rotating : Rotating ringKernel 1 [] [2, 3] := by
  refine ⟨⟨⟨rfl, rfl, rfl, rfl⟩, List.cons_ne_nil _ _, ?_⟩, ?_, ?_, rfl⟩
  · decide
  · decide
  · decide

/-- Two ticks select the two tasks that may run. -/
theorem ticks_select_each_once_three : ∃ selected final, ringKernel.ticks 3 [0x9000, 0x8000] = some (selected, final) ∧
    selected.Nodup ∧ ∀ task, task ∈ selected ↔ task ∈ [1, 2, 3] ∧ ringKernel.runnable task = true := by
  have enough : ([] ++ ringKernel.currentTask :: [2, 3]).length ≤ 3 := by decide
  exact (ticks_select_each_once ringKernel_rotating enough).2 [0x9000, 0x8000] (by decide)

end AutismOS.Processes
