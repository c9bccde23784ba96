import Mathlib.Data.Fintype.Card
import Mathlib.Data.List.Nodup
import Mathlib.Logic.Function.Basic

namespace AutismOS.Library

/-! Intrusive doubly linked lists.

The nodes of such a list carry their own link fields, so one table of links
holds any number of lists at once and an edit of one list can damage another.
`Threads` states which list a head pointer stands for; the edits below are the
usual ones, each with the list it produces and the lists it leaves alone.
-/

/-- The successor and predecessor fields of a family of nodes. -/
@[ext] structure Links (ι : Type u) where
  next : ι → Option ι
  prev : ι → Option ι

namespace Links

variable {ι : Type u} {links changed : Links ι} {head before after : Option ι}
variable {node other : ι} {nodes front back : List ι}

/-- A stretch of a list: following `next` from `head` visits exactly `nodes`
and then reaches `after`, and every visited node points back to the one
visited just before it. -/
def Stretch (links : Links ι) (after : Option ι) : Option ι → Option ι → List ι → Prop
  | _, head, [] => head = after
  | before, head, node :: rest =>
      head = some node ∧ links.prev node = before ∧
        links.Stretch after (some node) (links.next node) rest

/-- A whole list: no node precedes its head and none follows its last node. -/
def Threads (links : Links ι) (head : Option ι) (nodes : List ι) : Prop :=
  links.Stretch none none head nodes

/-- The last node of a list, or `before` when the list is empty. -/
def lastOr (before : Option ι) : List ι → Option ι
  | [] => before
  | node :: rest => lastOr (some node) rest

@[simp] theorem stretch_nil : links.Stretch after before head [] ↔ head = after := Iff.rfl

@[simp] theorem stretch_cons : links.Stretch after before head (node :: nodes) ↔
    head = some node ∧ links.prev node = before ∧
      links.Stretch after (some node) (links.next node) nodes := Iff.rfl

@[simp] theorem threads_nil : links.Threads head [] ↔ head = none := Iff.rfl

@[simp] theorem lastOr_nil : lastOr before ([] : List ι) = before := rfl

@[simp] theorem lastOr_cons : lastOr before (node :: nodes) = lastOr (some node) nodes := rfl

theorem mem_of_lastOr (last : lastOr before nodes = some node) : before = some node ∨ node ∈ nodes := by
  induction nodes generalizing before with
  | nil => exact Or.inl last
  | cons first rest ih =>
      rcases ih last with same | member
      · exact Or.inr (by simp [Option.some.inj same])
      · exact Or.inr (List.mem_cons_of_mem first member)

theorem mem_of_lastOr_none (last : lastOr none nodes = some node) : node ∈ nodes :=
  (mem_of_lastOr last).resolve_left (by simp)

theorem lastOr_some_ne_none : lastOr (some node) nodes ≠ none := by
  induction nodes generalizing node with
  | nil => simp
  | cons first rest ih => exact ih

theorem eq_nil_of_lastOr_none (last : lastOr none nodes = none) : nodes = [] := by
  cases nodes with
  | nil => rfl
  | cons first rest => exact absurd last lastOr_some_ne_none

theorem stretch_append : links.Stretch after before head (front ++ back) ↔
    ∃ middle, links.Stretch middle before head front ∧
      links.Stretch after (lastOr before front) middle back := by
  induction front generalizing before head with
  | nil => simp
  | cons first rest ih =>
      simp only [List.cons_append, stretch_cons, ih, lastOr_cons]
      constructor
      · rintro ⟨start, back, middle, stretch, remaining⟩
        exact ⟨middle, ⟨start, back, stretch⟩, remaining⟩
      · rintro ⟨middle, ⟨start, back, stretch⟩, remaining⟩
        exact ⟨start, back, middle, stretch, remaining⟩

/-- A stretch depends only on the links of its own nodes. -/
theorem Stretch.frame (stretch : links.Stretch after before head nodes)
    (same : ∀ node ∈ nodes, changed.next node = links.next node ∧ changed.prev node = links.prev node) :
    changed.Stretch after before head nodes := by
  induction nodes generalizing before head with
  | nil => exact stretch
  | cons first rest ih =>
      obtain ⟨start, previous, remaining⟩ := stretch
      obtain ⟨sameNext, samePrev⟩ := same first (by simp)
      refine ⟨start, samePrev.trans previous, ?_⟩
      rw [sameNext]
      exact ih remaining (fun other member => same other (by simp [member]))

/-- Redirecting the link that leaves a nonempty stretch. -/
theorem Stretch.redirect {target : Option ι} (stretch : links.Stretch after before head nodes)
    (last : lastOr none nodes = some node) (redirected : changed.next node = target)
    (sameNext : ∀ other ∈ nodes, other ≠ node → changed.next other = links.next other)
    (samePrev : ∀ other ∈ nodes, changed.prev other = links.prev other)
    (nodup : nodes.Nodup) : changed.Stretch target before head nodes := by
  induction nodes generalizing before head with
  | nil => simp at last
  | cons first rest ih =>
      obtain ⟨start, previous, remaining⟩ := stretch
      refine ⟨start, (samePrev first (by simp)).trans previous, ?_⟩
      cases rest with
      | nil =>
          have same : first = node := Option.some.inj last
          subst same
          exact redirected
      | cons second others =>
          have inRest : node ∈ second :: others := mem_of_lastOr_none last
          have different : first ≠ node := fun same =>
            (List.nodup_cons.mp nodup).1 (same ▸ inRest)
          rw [sameNext first (by simp) different]
          exact ih remaining last (fun other member => sameNext other (by simp [member]))
            (fun other member => samePrev other (by simp [member])) (List.nodup_cons.mp nodup).2

/-- Redirecting the back link of the first node of a stretch. -/
theorem Stretch.reroot {origin : Option ι} (stretch : links.Stretch after before head nodes)
    (sameNext : ∀ other ∈ nodes, changed.next other = links.next other)
    (samePrev : ∀ other ∈ nodes, head ≠ some other → changed.prev other = links.prev other)
    (rerooted : ∀ other ∈ nodes, head = some other → changed.prev other = origin)
    (nodup : nodes.Nodup) : changed.Stretch after origin head nodes := by
  cases nodes with
  | nil => exact stretch
  | cons first rest =>
      obtain ⟨start, _, remaining⟩ := stretch
      refine ⟨start, rerooted first (by simp) start, ?_⟩
      rw [sameNext first (by simp)]
      refine remaining.frame fun other member => ⟨sameNext other (by simp [member]), ?_⟩
      refine samePrev other (by simp [member]) fun same => ?_
      have equal : first = other := Option.some.inj (start.symm.trans same)
      exact (List.nodup_cons.mp nodup).1 (equal ▸ member)

theorem Threads.frame (threads : links.Threads head nodes)
    (same : ∀ node ∈ nodes, changed.next node = links.next node ∧ changed.prev node = links.prev node) :
    changed.Threads head nodes :=
  Stretch.frame threads same

/-- The head pointer determines the list. -/
theorem Stretch.unique {first second : List ι} {before' : Option ι}
    (left : links.Stretch none before head first) (right : links.Stretch none before' head second) :
    first = second := by
  induction first generalizing before before' head second with
  | nil =>
      cases second with
      | nil => rfl
      | cons node rest => exact absurd (right.1.symm.trans left) (by simp)
  | cons node rest ih =>
      cases second with
      | nil => exact absurd (left.1.symm.trans right) (by simp)
      | cons other others =>
          have same : node = other := Option.some.inj (left.1.symm.trans right.1)
          subst same
          rw [ih left.2.2 right.2.2]

theorem Stretch.head_mem (stretch : links.Stretch none before (some node) nodes) : node ∈ nodes := by
  cases nodes with
  | nil => exact absurd stretch (by simp)
  | cons first rest => simp [Option.some.inj stretch.1]

/-- A listed node's successor is listed and points back to it. -/
theorem Stretch.next_mem (stretch : links.Stretch none before head nodes) (member : node ∈ nodes)
    (link : links.next node = some other) : other ∈ nodes ∧ links.prev other = some node := by
  induction nodes generalizing before head with
  | nil => simp at member
  | cons first rest ih =>
      rcases List.mem_cons.mp member with same | inRest
      · subst same
        cases rest with
        | nil => exact absurd (link.symm.trans stretch.2.2) (by simp)
        | cons second others =>
            have found : other = second := Option.some.inj (link.symm.trans stretch.2.2.1)
            subst found
            exact ⟨by simp, stretch.2.2.2.1⟩
      · obtain ⟨listed, pointsBack⟩ := ih stretch.2.2 inRest
        exact ⟨List.mem_cons_of_mem first listed, pointsBack⟩

/-- A listed node is reached from the head or from the listed node it points back to. -/
theorem Stretch.reached (stretch : links.Stretch none before head nodes) (member : node ∈ nodes) :
    (head = some node ∧ links.prev node = before) ∨
      ∃ previous ∈ nodes, links.next previous = some node ∧ links.prev node = some previous := by
  induction nodes generalizing before head with
  | nil => simp at member
  | cons first rest ih =>
      obtain ⟨start, previous, remaining⟩ := stretch
      rcases List.mem_cons.mp member with same | inRest
      · subst same
        exact Or.inl ⟨start, previous⟩
      · rcases ih remaining inRest with ⟨link, pointsBack⟩ | ⟨source, listed, link, pointsBack⟩
        · exact Or.inr ⟨first, by simp, link, pointsBack⟩
        · exact Or.inr ⟨source, by simp [listed], link, pointsBack⟩

section Edits

variable [DecidableEq ι]

/-- Taking a node out: its neighbours are joined and its own links cleared. -/
def unlink (links : Links ι) (node : ι) : Links ι where
  next := Function.update
    (match links.prev node with
      | some previous => Function.update links.next previous (links.next node)
      | none => links.next) node none
  prev := Function.update
    (match links.next node with
      | some following => Function.update links.prev following (links.prev node)
      | none => links.prev) node none

/-- The head of the list after `unlink`. -/
def unlinkHead (links : Links ι) (head : Option ι) (node : ι) : Option ι :=
  match links.prev node with
  | some _ => head
  | none => links.next node

theorem unlink_next_of_ne (different : other ≠ node) (apart : links.prev node ≠ some other) :
    (links.unlink node).next other = links.next other := by
  unfold unlink
  cases previous : links.prev node with
  | none => simp [different]
  | some source =>
      have away : other ≠ source := fun same => apart (by rw [previous, same])
      simp [different, away]

theorem unlink_prev_of_ne (different : other ≠ node) (apart : links.next node ≠ some other) :
    (links.unlink node).prev other = links.prev other := by
  unfold unlink
  cases following : links.next node with
  | none => simp [different]
  | some target =>
      have away : other ≠ target := fun same => apart (by rw [following, same])
      simp [different, away]

theorem unlink_next_of_prev (different : other ≠ node) (previous : links.prev node = some other) :
    (links.unlink node).next other = links.next node := by
  simp [unlink, previous, different]

theorem unlink_prev_of_next (different : other ≠ node) (following : links.next node = some other) :
    (links.unlink node).prev other = links.prev node := by
  simp [unlink, following, different]

/-- Taking out a listed node removes exactly that node from its list. -/
theorem Threads.unlink (threads : links.Threads head (front ++ node :: back))
    (nodup : (front ++ node :: back).Nodup) :
    (links.unlink node).Threads (links.unlinkHead head node) (front ++ back) := by
  obtain ⟨middle, leading, start, previous, trailing⟩ := stretch_append.mp threads
  subst start
  obtain ⟨frontNodup, tailNodup, separate⟩ := List.nodup_append.mp nodup
  obtain ⟨notBack, backNodup⟩ := List.nodup_cons.mp tailNodup
  have frontNe : ∀ other ∈ front, other ≠ node := fun other member =>
    separate other member node (by simp)
  have backNe : ∀ other ∈ back, other ≠ node := fun other member same => notBack (same ▸ member)
  have notBoth : ∀ other ∈ front, other ∉ back := fun other member inBack =>
    separate other member other (by simp [inBack]) rfl
  -- A back node is not the predecessor of `node`, a front node not its successor.
  have backApart : ∀ other ∈ back, links.prev node ≠ some other := by
    intro other member same
    exact notBoth other (mem_of_lastOr_none (previous.symm.trans same)) member
  have frontApart : ∀ other ∈ front, links.next node ≠ some other := by
    intro other member same
    rw [same] at trailing
    exact notBoth other member trailing.head_mem
  refine stretch_append.mpr ⟨links.next node, ?_, ?_⟩
  · cases last : lastOr none front with
    | none =>
        have empty := eq_nil_of_lastOr_none last
        subst empty
        simp [unlinkHead, previous]
    | some source =>
        have headSame : links.unlinkHead head node = head := by
          simp [unlinkHead, previous, last]
        have sourceMember := mem_of_lastOr_none last
        rw [headSame]
        refine leading.redirect last
          (unlink_next_of_prev (frontNe source sourceMember) (previous.trans last)) ?_ ?_ frontNodup
        · intro other member different
          refine unlink_next_of_ne (frontNe other member) fun same => different ?_
          exact Option.some.inj (same.symm.trans (previous.trans last))
        · exact fun other member => unlink_prev_of_ne (frontNe other member) (frontApart other member)
  · refine trailing.reroot ?_ ?_ ?_ backNodup
    · exact fun other member => unlink_next_of_ne (backNe other member) (backApart other member)
    · exact fun other member different => unlink_prev_of_ne (backNe other member) different
    · intro other member same
      exact (unlink_prev_of_next (backNe other member) same).trans previous

/-- Taking out a listed node leaves every list that shares no node with its own. -/
theorem Threads.unlink_frame {others : List ι} {root : Option ι} (listed : links.Threads head nodes)
    (member : node ∈ nodes) (threads : links.Threads root others)
    (separate : ∀ other ∈ others, other ∉ nodes) : (links.unlink node).Threads root others := by
  refine threads.frame fun other inOthers => ⟨?_, ?_⟩
  · refine unlink_next_of_ne (fun same => separate other inOthers (same ▸ member)) fun same => ?_
    rcases Stretch.reached listed member with ⟨_, origin⟩ | ⟨source, inNodes, _, pointsBack⟩
    · exact absurd (same.symm.trans origin) (by simp)
    · have equal : other = source := Option.some.inj (same.symm.trans pointsBack)
      exact separate other inOthers (equal ▸ inNodes)
  · refine unlink_prev_of_ne (fun same => separate other inOthers (same ▸ member)) fun same => ?_
    exact separate other inOthers (Stretch.next_mem listed member same).1

/-- The links after clearing both fields of `node`. -/
def detach (links : Links ι) (node : ι) : Links ι where
  next := Function.update links.next node none
  prev := Function.update links.prev node none

/-- The links after joining `node` behind `last`. -/
def join (links : Links ι) (last node : ι) : Links ι where
  next := Function.update links.next last (some node)
  prev := Function.update links.prev node (some last)

theorem Threads.detach (threads : links.Threads head nodes) (fresh : node ∉ nodes) :
    (links.detach node).Threads head nodes := by
  refine threads.frame fun other member => ?_
  have different : other ≠ node := fun same => fresh (same ▸ member)
  simp [Links.detach, different]

theorem Threads.join_frame {last : ι} (threads : links.Threads head nodes) (fresh : node ∉ nodes)
    (away : last ∉ nodes) : (links.join last node).Threads head nodes := by
  refine threads.frame fun other member => ?_
  have different : other ≠ node := fun same => fresh (same ▸ member)
  have apart : other ≠ last := fun same => away (same ▸ member)
  simp [join, different, apart]

theorem threads_detached : (links.detach node).Threads (some node) [node] := by
  simp [Threads, detach]

/-- Appending a node that is on no list behind the last node of a list. -/
theorem Threads.append {last : ι} (threads : links.Threads head nodes) (nodup : nodes.Nodup)
    (fresh : node ∉ nodes) (ending : lastOr none nodes = some last) :
    ((links.detach node).join last node).Threads head (nodes ++ [node]) := by
  have lastMember := mem_of_lastOr_none ending
  have lastNe : last ≠ node := fun same => fresh (same ▸ lastMember)
  refine stretch_append.mpr ⟨some node, ?_, ?_⟩
  · refine Stretch.redirect (threads.detach fresh) ending (by simp [join]) ?_ ?_ nodup
    · intro other _ different
      simp [join, different]
    · intro other member
      have different : other ≠ node := fun same => fresh (same ▸ member)
      simp [join, different]
  · simp [join, Links.detach, ending, lastNe.symm]

/-- The links after putting `node` in front of the list at `head`; the back link of
that list's first node is overwritten. -/
def push (links : Links ι) (head : Option ι) (node : ι) : Links ι where
  next := Function.update links.next node head
  prev := Function.update
    (match head with
      | some first => Function.update links.prev first (some node)
      | none => links.prev) node none

theorem Stretch.push (stretch : links.Stretch none before head nodes) (fresh : node ∉ nodes)
    (nodup : nodes.Nodup) : (links.push head node).Threads (some node) (node :: nodes) := by
  have different (other : ι) (member : other ∈ nodes) : other ≠ node := fun same =>
    fresh (same ▸ member)
  refine ⟨rfl, by simp [Links.push], ?_⟩
  have start : (links.push head node).next node = head := by simp [Links.push]
  rw [start]
  refine Stretch.reroot stretch ?_ ?_ ?_ nodup
  · intro other member
    simp [Links.push, different other member]
  · intro other member notHead
    cases head with
    | none => simp [Links.push, different other member]
    | some first =>
        have notFirst : other ≠ first := fun same => notHead (by rw [same])
        simp [Links.push, different other member, notFirst]
  · intro other member isHead
    subst isHead
    simp [Links.push, different other member]

/-- The links after putting `node` behind `place`. -/
def insertAfter (links : Links ι) (place node : ι) : Links ι where
  next := Function.update (Function.update links.next node (links.next place)) place (some node)
  prev := Function.update
    (match links.next place with
      | some following => Function.update links.prev following (some node)
      | none => links.prev) node (some place)

theorem insertAfter_next {place : ι} :
    (links.insertAfter place node).next other =
      if other = place then some node
      else if other = node then links.next place
      else links.next other := by
  simp only [insertAfter, Function.update_apply]

theorem insertAfter_prev {place : ι} :
    (links.insertAfter place node).prev other =
      if other = node then some place
      else if links.next place = some other then some node
      else links.prev other := by
  cases link : links.next place with
  | none => simp [insertAfter, link, Function.update_apply]
  | some following => simp [insertAfter, link, Function.update_apply, eq_comm]

/-- Inserting a fresh node behind the first node of a list. -/
theorem Threads.insertAfter {place : ι} (threads : links.Threads head (place :: nodes))
    (fresh : node ∉ place :: nodes) (nodup : (place :: nodes).Nodup) :
    (links.insertAfter place node).Threads head (place :: node :: nodes) := by
  obtain ⟨start, root, rest⟩ := threads
  have placeNe : place ≠ node := fun same => fresh (by simp [same])
  have different (other : ι) (member : other ∈ nodes) : other ≠ node ∧ other ≠ place :=
    ⟨fun same => fresh (by simp [← same, member]), fun same => (List.nodup_cons.mp nodup).1 (same ▸ member)⟩
  have nextPlace : (links.insertAfter place node).next place = some node := by
    simp [Links.insertAfter]
  have nextNode : (links.insertAfter place node).next node = links.next place := by
    simp [Links.insertAfter, placeNe.symm]
  refine ⟨start, ?_, ?_⟩
  · cases link : links.next place with
    | none => simp [Links.insertAfter, link, placeNe, root]
    | some following =>
        have notPlace : place ≠ following := fun same => by
          rw [link] at rest
          exact (List.nodup_cons.mp nodup).1 (same ▸ rest.head_mem)
        simp [Links.insertAfter, link, placeNe, notPlace, root]
  · rw [nextPlace]
    refine ⟨rfl, by simp [Links.insertAfter], ?_⟩
    rw [nextNode]
    refine Stretch.reroot rest ?_ ?_ ?_ (List.nodup_cons.mp nodup).2
    · intro other member
      obtain ⟨notNode, notPlace⟩ := different other member
      simp [Links.insertAfter, notNode, notPlace]
    · intro other member notHead
      obtain ⟨notNode, notPlace⟩ := different other member
      cases link : links.next place with
      | none => simp [Links.insertAfter, link, notNode]
      | some following =>
          have notFirst : other ≠ following := fun same => notHead (by rw [link, same])
          simp [Links.insertAfter, link, notNode, notFirst]
    · intro other member isHead
      obtain ⟨notNode, _⟩ := different other member
      simp [Links.insertAfter, isHead, notNode]

end Edits

/-- Following `next` from `node` until it ends; `none` when `fuel` nodes were
visited and the walk had not ended. -/
def lastFrom (next : ι → Option ι) : Nat → ι → Option ι
  | 0, _ => none
  | fuel + 1, node =>
      match next node with
      | none => some node
      | some following => lastFrom next fuel following

theorem lastFrom_ends {next : ι → Option ι} {fuel : Nat} {last : ι}
    (walk : lastFrom next fuel node = some last) : next last = none := by
  induction fuel generalizing node with
  | zero => simp [lastFrom] at walk
  | succ fuel ih =>
      cases link : next node with
      | none =>
          simp only [lastFrom, link, Option.some.injEq] at walk
          exact walk ▸ link
      | some following =>
          simp only [lastFrom, link] at walk
          exact ih walk

/-- What holds of a node and passes along `next` holds of the node where the walk ends. -/
theorem lastFrom_invariant {next : ι → Option ι} {fuel : Nat} {last : ι} {holds : ι → Prop}
    (walk : lastFrom next fuel node = some last) (initial : holds node)
    (passes : ∀ source target, holds source → next source = some target → holds target) :
    holds last := by
  induction fuel generalizing node with
  | zero => simp [lastFrom] at walk
  | succ fuel ih =>
      cases link : next node with
      | none =>
          simp only [lastFrom, link, Option.some.injEq] at walk
          exact walk ▸ initial
      | some following =>
          simp only [lastFrom, link] at walk
          exact ih walk (passes node following initial link)

theorem Stretch.lastFrom {fuel : Nat} (stretch : links.Stretch none before (some node) nodes)
    (enough : nodes.length ≤ fuel) : lastFrom links.next fuel node = lastOr none nodes := by
  induction nodes generalizing before node fuel with
  | nil => exact absurd stretch (by simp)
  | cons first rest ih =>
      obtain ⟨start, _, remaining⟩ := stretch
      have same : node = first := Option.some.inj start
      subst same
      cases fuel with
      | zero => simp at enough
      | succ fuel =>
          cases rest with
          | nil =>
              have stop : links.next node = none := remaining
              simp [Links.lastFrom, stop]
          | cons second others =>
              have link : links.next node = some second := remaining.1
              rw [link] at remaining
              simpa [Links.lastFrom, link] using ih remaining (by simpa using enough)

end Links

end AutismOS.Library
