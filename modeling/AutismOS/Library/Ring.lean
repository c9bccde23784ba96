import Mathlib.Data.Nat.Notation
import Mathlib.Logic.Function.Basic

namespace AutismOS.Library

/-! Rings of nodes that are linked by a successor function.

The walks are the loops that programs run over circular lists.  They count the
nodes they may visit, and `none` says that this many were not enough; a client
that knows the nodes of a ring gets an answer for every larger number.
-/

namespace Ring

variable {ι : Type u} {next : ι → ι} {test : ι → Bool} {holds : ι → Prop}
variable {head node last : ι} {nodes : List ι} {fuel : Nat}

/-- Following `next` from the first node visits `nodes` and arrives at the last argument. -/
def Path (next : ι → ι) : ι → List ι → ι → Prop
  | start, [], stop => start = stop
  | start, node :: rest, stop => start = node ∧ Path next (next node) rest stop

/-- Following `next` from `head` visits each of `nodes` once and returns to `head`. -/
structure Closed (next : ι → ι) (head : ι) (nodes : List ι) : Prop where
  path : Path next head nodes head
  nonempty : nodes ≠ []
  nodup : nodes.Nodup

variable {middle stop fresh : ι} {next' : ι → ι} {front back : List ι}

theorem path_append : Path next node (front ++ back) stop ↔
    ∃ middle, Path next node front middle ∧ Path next middle back stop := by
  induction front generalizing node with
  | nil => exact ⟨fun path => ⟨node, rfl, path⟩, fun ⟨_, same, path⟩ => same ▸ path⟩
  | cons first rest ih =>
      constructor
      · intro path
        obtain ⟨middle, leading, trailing⟩ := ih.mp path.2
        exact ⟨middle, ⟨path.1, leading⟩, trailing⟩
      · intro path
        obtain ⟨middle, leading, trailing⟩ := path
        exact ⟨leading.1, ih.mpr ⟨middle, leading.2, trailing⟩⟩

/-- A path depends only on the links of its own nodes. -/
theorem Path.frame (path : Path next node nodes stop) (same : ∀ node ∈ nodes, next' node = next node) :
    Path next' node nodes stop := by
  induction nodes generalizing node with
  | nil => exact path
  | cons first rest ih =>
      obtain ⟨rfl, tail⟩ := path
      refine ⟨rfl, ?_⟩
      rw [same node List.mem_cons_self]
      exact ih tail fun other member => same other (List.mem_cons_of_mem _ member)

/-- The link of a node on a path leads to a node on it or to its end. -/
theorem Path.next_mem (path : Path next node nodes stop) (member : middle ∈ nodes) :
    next middle ∈ nodes.tail ∨ next middle = stop := by
  induction nodes generalizing node with
  | nil => cases member
  | cons first rest ih =>
      obtain ⟨rfl, tail⟩ := path
      rcases List.mem_cons.mp member with rfl | later
      · cases rest with
        | nil => exact Or.inr tail
        | cons second rest =>
            refine Or.inl ?_
            rw [tail.1]
            exact List.mem_cons_self
      · exact (ih tail later).imp_left List.mem_of_mem_tail

theorem Closed.head_mem (ring : Closed next head nodes) : head ∈ nodes := by
  obtain ⟨path, nonempty, _⟩ := ring
  cases nodes with
  | nil => exact absurd rfl nonempty
  | cons first rest =>
      rw [path.1]
      exact List.mem_cons_self

theorem Closed.next_mem (ring : Closed next head nodes) (member : node ∈ nodes) : next node ∈ nodes := by
  rcases ring.path.next_mem member with inside | around
  · exact List.mem_of_mem_tail inside
  · rw [around]
    exact ring.head_mem

/-- A ring can be entered at each of its nodes. -/
theorem Closed.rotate (ring : Closed next head (front ++ node :: back)) :
    Closed next node (node :: (back ++ front)) := by
  obtain ⟨path, _, nodup⟩ := ring
  obtain ⟨middle, leading, start, trailing⟩ := path_append.mp path
  subst start
  refine ⟨⟨rfl, path_append.mpr ⟨head, trailing, leading⟩⟩, List.cons_ne_nil _ _, ?_⟩
  have turned : (middle :: back ++ front).Nodup := List.perm_append_comm.nodup_iff.mp nodup
  exact turned

/-- In a ring of at least two nodes no node is linked to itself. -/
theorem Closed.next_ne (ring : Closed next head nodes) (several : 2 ≤ nodes.length) (member : node ∈ nodes) :
    next node ≠ node := by
  obtain ⟨path, _, nodup⟩ := ring
  obtain ⟨front, back, rfl⟩ := List.append_of_mem member
  obtain ⟨middle, leading, start, trailing⟩ := path_append.mp path
  subst start
  intro same
  rw [same] at trailing
  obtain ⟨_, backNodup, apart⟩ := List.nodup_append.mp nodup
  cases back with
  | nil =>
      cases front with
      | nil => simp at several
      | cons first rest =>
          have isHead : middle = head := trailing
          exact apart first List.mem_cons_self middle List.mem_cons_self (leading.1.symm.trans isHead.symm)
  | cons second back =>
      rw [trailing.1] at backNodup
      exact (List.nodup_cons.mp backNodup).1 List.mem_cons_self

/-- A ring of one node is linked to itself. -/
theorem Closed.alone (ring : Closed next head nodes) (member : node ∈ nodes) (different : next node ≠ node) :
    2 ≤ nodes.length := by
  obtain ⟨path, _, _⟩ := ring
  cases nodes with
  | nil => cases member
  | cons first rest =>
      cases rest with
      | nil =>
          obtain ⟨start, around⟩ := path
          have same : node = first := List.mem_singleton.mp member
          subst same start
          exact absurd around different
      | cons second rest =>
          rw [List.length_cons, List.length_cons]
          exact Nat.le_add_left 2 rest.length

/-- Putting a node behind the last one. -/
theorem Closed.extend (ring : Closed next head (front ++ [last])) (isNew : fresh ∉ front ++ [last])
    (atLast : next' last = fresh) (atFresh : next' fresh = head) (same : ∀ node ∈ front, next' node = next node) :
    Closed next' head (front ++ [last] ++ [fresh]) := by
  obtain ⟨path, _, nodup⟩ := ring
  obtain ⟨middle, leading, start, _⟩ := path_append.mp path
  refine ⟨?_, List.append_ne_nil_of_right_ne_nil _ (List.cons_ne_nil _ _), ?_⟩
  · rw [List.append_assoc]
    exact path_append.mpr ⟨middle, leading.frame same, start, atLast, atFresh⟩
  · refine List.nodup_append.mpr ⟨nodup, List.pairwise_singleton _ fresh, fun node member other isFresh => ?_⟩
    rw [List.mem_singleton.mp isFresh]
    exact fun equal => isNew (equal ▸ member)

variable {null : ι}

/-- The nodes of a list: none, with `null` for its head, or those of a ring. -/
def Listed (next : ι → ι) (null head : ι) (nodes : List ι) : Prop :=
  nodes = [] ∧ head = null ∨ head ≠ null ∧ Closed next head nodes

theorem Listed.frame (listed : Listed next null head nodes) (same : ∀ node ∈ nodes, next' node = next node) :
    Listed next' null head nodes := by
  refine listed.imp_right fun ring => ⟨ring.1, ?_⟩
  obtain ⟨path, nonempty, nodup⟩ := ring.2
  exact ⟨path.frame same, nonempty, nodup⟩

variable [DecidableEq ι]

/-- `do { if (test(node)) return node; node = next(node); } while (node != head); return NULL;` -/
def find (next : ι → ι) (test : ι → Bool) (head : ι) : Nat → ι → Option (Option ι)
  | 0, _ => none
  | fuel + 1, node =>
      if test node then some (some node)
      else if next node = head then some none
      else find next test head fuel (next node)

/-- `while (next(node) != head) node = next(node);` -/
def findLast (next : ι → ι) (head : ι) : Nat → ι → Option ι
  | 0, _ => none
  | fuel + 1, node => if next node = head then some node else findLast next head fuel (next node)

/-- `while (!test(node)) { node = next(node); if (node == start) break; }` -/
def skip (next : ι → ι) (test : ι → Bool) (start : ι) : Nat → ι → Option ι
  | 0, _ => none
  | fuel + 1, node =>
      if test node then some node
      else if next node = start then some start
      else skip next test start fuel (next node)

/-- The search answers with a node that passes the test and that is reached from the first one. -/
theorem find_some (result : find next test head fuel node = some (some last)) (initial : holds node)
    (step : ∀ node, holds node → holds (next node)) : test last = true ∧ holds last := by
  induction fuel generalizing node with
  | zero => cases result
  | succ fuel ih =>
      rw [find] at result
      by_cases passed : test node
      · rw [if_pos passed] at result
        cases result
        exact ⟨passed, initial⟩
      · rw [if_neg passed] at result
        by_cases around : next node = head
        · rw [if_pos around] at result
          cases result
        · rw [if_neg around] at result
          exact ih result (step node initial)

/-- On the way to `head` the search finds the first node that passes the test. -/
theorem find_path (path : Path next node nodes head) (apart : head ∉ nodes.tail) (nonempty : nodes ≠ [])
    (enough : nodes.length ≤ fuel) : find next test head fuel node = some (nodes.find? test) := by
  induction nodes generalizing node fuel with
  | nil => exact absurd rfl nonempty
  | cons first rest ih =>
      cases fuel with
      | zero => cases enough
      | succ fuel =>
          obtain ⟨rfl, tail⟩ := path
          rw [find, List.find?_cons]
          cases passed : test node with
          | true => rfl
          | false =>
              cases rest with
              | nil =>
                  rw [if_neg Bool.false_ne_true, if_pos (show next node = head from tail)]
                  rfl
              | cons second rest =>
                  have further : next node ≠ head := by
                    intro around
                    exact apart (List.mem_cons.mpr (Or.inl (around.symm.trans tail.1)))
                  rw [if_neg Bool.false_ne_true, if_neg further]
                  exact ih tail (fun member => apart (List.mem_cons_of_mem _ member)) nofun
                    (Nat.le_of_succ_le_succ enough)

theorem Closed.find (ring : Closed next head nodes) (enough : nodes.length ≤ fuel) :
    Ring.find next test head fuel head = some (nodes.find? test) := by
  obtain ⟨path, nonempty, nodup⟩ := ring
  refine find_path path ?_ nonempty enough
  cases nodes with
  | nil => exact absurd rfl nonempty
  | cons first rest =>
      rw [show head = first from path.1]
      exact (List.nodup_cons.mp nodup).1

/-- The walk stops at a node that passes the test or where it set out. -/
theorem skip_some {start : ι} (result : skip next test start fuel node = some last) :
    test last = true ∨ last = start := by
  induction fuel generalizing node with
  | zero => cases result
  | succ fuel ih =>
      rw [skip] at result
      by_cases passed : test node
      · rw [if_pos passed] at result
        cases result
        exact Or.inl passed
      · rw [if_neg passed] at result
        by_cases around : next node = start
        · rw [if_pos around] at result
          cases result
          exact Or.inr rfl
        · rw [if_neg around] at result
          exact ih result

/-- The loop over a path to `head` finds its last node. -/
theorem findLast_path (path : Path next node (nodes ++ [last]) head) (apart : head ∉ (nodes ++ [last]).tail)
    (enough : nodes.length < fuel) : findLast next head fuel node = some last := by
  induction nodes generalizing node fuel with
  | nil =>
      obtain ⟨rfl, around⟩ := path
      cases fuel with
      | zero => cases enough
      | succ fuel =>
          rw [findLast]
          exact if_pos around
  | cons first rest ih =>
      obtain ⟨rfl, tail⟩ := path
      cases fuel with
      | zero => cases enough
      | succ fuel =>
          have further : next node ≠ head := by
            intro around
            cases rest with
            | nil => exact apart (List.mem_cons.mpr (Or.inl (around.symm.trans tail.1)))
            | cons second rest => exact apart (List.mem_cons.mpr (Or.inl (around.symm.trans tail.1)))
          rw [findLast, if_neg further]
          exact ih tail (fun member => apart (List.mem_of_mem_tail member)) (Nat.lt_of_succ_lt_succ enough)

/-- The last node of a ring, which is linked to the head, with the nodes before it. -/
theorem Closed.findLast (ring : Closed next head nodes) (enough : nodes.length ≤ fuel) :
    ∃ front last, nodes = front ++ [last] ∧ Ring.findLast next head fuel head = some last := by
  obtain ⟨path, nonempty, nodup⟩ := ring
  have split := List.dropLast_concat_getLast nonempty
  refine ⟨nodes.dropLast, nodes.getLast nonempty, split.symm, ?_⟩
  have whole : Path next head (nodes.dropLast ++ [nodes.getLast nonempty]) head := by
    rw [split]
    exact path
  refine findLast_path whole ?_ ?_
  · rw [split]
    cases nodes with
    | nil => exact absurd rfl nonempty
    | cons first rest =>
        rw [show head = first from path.1]
        exact (List.nodup_cons.mp nodup).1
  · rw [List.length_dropLast]
    have positive := List.length_pos_iff.mpr nonempty
    omega

/-- Putting a node at the end of a list: it is linked to itself, or put behind the last node. -/
def insert (next : ι → ι) (null head fresh : ι) (fuel : Nat) : Option ((ι → ι) × ι) :=
  if head = null then some (Function.update next fresh fresh, fresh)
  else (findLast next head fuel head).map fun last =>
    (Function.update (Function.update next last fresh) fresh head, head)

/-- A node that is not in the list becomes its last one. -/
theorem Listed.insert (listed : Listed next null head nodes) (isNew : fresh ∉ nodes) (proper : fresh ≠ null)
    (enough : nodes.length ≤ fuel) :
    ∃ next' head', Ring.insert next null head fresh fuel = some (next', head') ∧
      Listed next' null head' (nodes ++ [fresh]) := by
  rcases listed with ⟨rfl, isNull⟩ | ⟨notNull, ring⟩
  · refine ⟨_, _, if_pos isNull, Or.inr ⟨proper, ⟨rfl, ?_⟩, List.cons_ne_nil _ _, List.pairwise_singleton _ fresh⟩⟩
    exact Function.update_self fresh fresh next
  · obtain ⟨front, last, rfl, found⟩ := ring.findLast enough
    have apart : last ≠ fresh := fun same => isNew (same ▸ List.mem_append_right _ (List.mem_singleton_self last))
    refine ⟨_, _, (if_neg notNull).trans (congrArg (Option.map _) found), Or.inr ⟨notNull, ring.extend isNew ?_ ?_ ?_⟩⟩
    · rw [Function.update_of_ne apart, Function.update_self]
    · rw [Function.update_self]
    · intro node member
      have different : node ≠ fresh := fun same => isNew (same ▸ List.mem_append_left _ member)
      have notLast : node ≠ last := by
        obtain ⟨_, _, nodup⟩ := ring
        exact (List.nodup_append.mp nodup).2.2 node member last (List.mem_singleton_self last)
      rw [Function.update_of_ne different, Function.update_of_ne notLast]

/-- The search through a list that may be empty. -/
theorem Listed.find (listed : Listed next null head nodes) (enough : nodes.length ≤ fuel) :
    (if head = null then some none else Ring.find next test head fuel head) = some (nodes.find? test) := by
  rcases listed with ⟨rfl, isNull⟩ | ⟨notNull, ring⟩
  · exact if_pos isNull
  · exact (if_neg notNull).trans (ring.find enough)

/-- What the loop finds it finds also when it may visit more nodes. -/
theorem findLast_mono {more : Nat} (result : findLast next head fuel node = some last) (further : fuel ≤ more) :
    findLast next head more node = some last := by
  induction fuel generalizing node more with
  | zero => cases result
  | succ fuel ih =>
      cases more with
      | zero => cases further
      | succ more =>
          rw [findLast] at result ⊢
          by_cases around : next node = head
          · rw [if_pos around] at result ⊢
            exact result
          · rw [if_neg around] at result ⊢
            exact ih result (Nat.le_of_succ_le_succ further)

/-- On the way back to where it set out, the walk stops at the first node that passes the test. -/
theorem skip_path {start : ι} (path : Path next node nodes start) (apart : start ∉ nodes) (nonempty : nodes ≠ [])
    (enough : nodes.length ≤ fuel) : skip next test start fuel node = some ((nodes.find? test).getD start) := by
  induction nodes generalizing node fuel with
  | nil => exact absurd rfl nonempty
  | cons first rest ih =>
      cases fuel with
      | zero => cases enough
      | succ fuel =>
          obtain ⟨rfl, tail⟩ := path
          rw [skip, List.find?_cons]
          cases passed : test node with
          | true => rfl
          | false =>
              cases rest with
              | nil =>
                  have around : next node = start := tail
                  rw [if_neg Bool.false_ne_true, if_pos around]
                  rfl
              | cons second rest =>
                  have absent : start ∉ second :: rest := fun member => apart (List.mem_cons_of_mem _ member)
                  have further : next node ≠ start := by
                    intro around
                    exact absent (List.mem_cons.mpr (Or.inl (around.symm.trans tail.1)))
                  rw [if_neg Bool.false_ne_true, if_neg further]
                  exact ih tail absent (List.cons_ne_nil _ _) (Nat.le_of_succ_le_succ enough)

/-- The walk stops at once where the first node passes the test. -/
theorem skip_passed {start : ι} (passed : test node = true) : skip next test start (fuel + 1) node = some node := by
  rw [skip, if_pos passed]

end Ring

end AutismOS.Library
