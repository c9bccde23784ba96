import AutismOS.Browser.Layout
import AutismOS.Browser.Scans
import Mathlib.Data.List.Basic

namespace AutismOS.Browser

open AutismOS.Library

/-! # The boxes of a page

Layout simulates a placement of the elements in a column, which has neither links nor a heap.
-/

/-- An element with its number and the place of its box. -/
structure Placed where
  node : Nat
  element : Element
  y : UInt32

def Placed.box (width : UInt32) (placed : Placed) (next : Option Nat) : LayoutBox :=
  { x := 5, y := placed.y, width := width - 10, height := boxHeight placed.element.tag, node := placed.node, next }

/-- Headings and paragraphs have boxes. -/
def Element.hasBox (element : Element) : Bool := element.tag = .h1 || element.tag = .p

/-- The elements whose boxes are allocated, one under the other. -/
def place (kmalloc : Nat → Bool) (calls : Nat) (y : UInt32) (number : Nat) : List Element → List Placed
  | [] => []
  | element :: rest =>
      if element.hasBox then
        if kmalloc calls then
          ⟨number, element, y⟩ :: place kmalloc (calls + 1) (y + (boxHeight element.tag + 5)) (number + 1) rest
        else place kmalloc (calls + 1) y (number + 1) rest
      else place kmalloc calls y (number + 1) rest

/-- Where the column ends. -/
def columnEnd (y : UInt32) (placed : List Placed) : UInt32 :=
  placed.foldl (fun y box => y + (boxHeight box.element.tag + 5)) y

def boxCalls (elements : List Element) : Nat := (elements.filter Element.hasBox).length

/-- A heap in which other objects stand behind the nodes. -/
def behindNodes (elements : List Element) (others : List PageObject) (calls : Nat) : PageHeap :=
  { cells := (tree elements).map .node ++ others, freed := [], calls }

def boxCells (first : Nat) (width : UInt32) (placed : List Placed) : List PageObject :=
  Objects.chained (fun placed next => .box (placed.box width next)) first placed

/-- The heap with the nodes, the layout tree and its boxes. -/
def pageHeap (elements : List Element) (width : UInt32) (placed : List Placed) (total : UInt32) (calls : Nat) : PageHeap :=
  behindNodes elements
    (.tree ⟨Objects.headOf (elements.length + 2) placed, total⟩ :: boxCells (elements.length + 2) width placed) calls

/-- The number of the last box. -/
def lastBoxOf (elements : List Element) (placed : List Placed) : Option Nat :=
  if placed = [] then none else some (elements.length + 1 + placed.length)

variable {kmalloc : Nat → Bool} {elements done rest : List Element} {element : Element} {width total y : UInt32}
variable {placed : List Placed} {calls number fuel : Nat} {node : HtmlNode} {newest : Placed}

/-- An element is placed, or the ones behind it are placed as if it were not there. -/
theorem place_cons : place kmalloc calls y number (element :: rest) =
      ⟨number, element, y⟩ :: place kmalloc (calls + 1) (y + (boxHeight element.tag + 5)) (number + 1) rest ∨
    ∃ later, place kmalloc calls y number (element :: rest) = place kmalloc later y (number + 1) rest := by
  rw [place]
  split
  · split
    · exact Or.inl rfl
    · exact Or.inr ⟨calls + 1, rfl⟩
  · exact Or.inr ⟨calls, rfl⟩

theorem length_place_le : (place kmalloc calls y number elements).length ≤ elements.length := by
  induction elements generalizing calls y number with
  | nil => exact Nat.le_refl _
  | cons element rest ih =>
      rcases @place_cons kmalloc rest element y calls number with placed | ⟨later, skipped⟩
      · rw [placed]
        exact Nat.succ_le_succ ih
      · rw [skipped]
        exact Nat.le_succ_of_le ih

theorem tree_getElem : (tree (done ++ element :: rest))[done.length + 1]? =
    some (element.node (numberOf (done.length + 2) rest)) := by
  have later := @siblings_getElem 1 element done rest
  have count : 1 + done.length + 1 = done.length + 2 := by omega
  rwa [count] at later

theorem length_nodes : ((tree elements).map PageObject.node).length = elements.length + 1 := by
  rw [List.length_map, length_tree]

section Behind

variable {others : List PageObject} {object : PageObject} {offset : Nat}

theorem read_node (here : (tree elements)[number]? = some node) :
    readNode (behindNodes elements others calls) number = .ok node := by
  have inside : number < (tree elements).length := (List.getElem?_eq_some_iff.mp here).1
  have cell : (behindNodes elements others calls).cells[number]? = some (.node node) := by
    rw [behindNodes, List.getElem?_append_left (by rwa [List.length_map]), List.getElem?_map, here]
    rfl
  rw [readNode, Objects.read_live List.not_mem_nil cell]
  rfl

theorem read_behind (here : others[offset]? = some object) :
    (behindNodes elements others calls).read (elements.length + 1 + offset) = .ok object := by
  refine Objects.read_live List.not_mem_nil ?_
  rw [behindNodes, List.getElem?_append_right (by rw [length_nodes]; exact Nat.le_add_right _ _), length_nodes,
    Nat.add_sub_cancel_left, here]

theorem write_behind (inside : offset < others.length) :
    (behindNodes elements others calls).write (elements.length + 1 + offset) object =
      .ok (behindNodes elements (others.set offset object) calls) := by
  have within : elements.length + 1 + offset < (behindNodes elements others calls).cells.length := by
    rw [behindNodes, List.length_append, length_nodes]
    exact Nat.add_lt_add_left inside _
  rw [Objects.write_live List.not_mem_nil within, behindNodes,
    List.set_append_right _ _ (by rw [length_nodes]; exact Nat.le_add_right _ _), length_nodes, Nat.add_sub_cancel_left]
  rfl

theorem allocate_behind (allocated : kmalloc calls = true) :
    (behindNodes elements others calls).allocate kmalloc object =
      (some (elements.length + 1 + others.length), behindNodes elements (others ++ [object]) (calls + 1)) := by
  rw [Objects.allocate]
  refine (if_pos allocated).trans ?_
  rw [behindNodes, List.length_append, length_nodes, List.append_assoc]
  rfl

theorem allocate_failing (fails : ¬ kmalloc calls = true) :
    (behindNodes elements others calls).allocate kmalloc object = (none, behindNodes elements others (calls + 1)) :=
  if_neg fails

end Behind

/-- A box that has been allocated becomes the last one of the chain. -/
theorem addBox_eq : addBox (behindNodes elements
      (.tree ⟨Objects.headOf (elements.length + 2) placed, total⟩ ::
        (boxCells (elements.length + 2) width placed ++ [PageObject.box (newest.box width none)])) calls)
    (elements.length + 1) (elements.length + 2 + placed.length) (lastBoxOf elements placed) =
      .ok (pageHeap elements width (placed ++ [newest]) total calls) := by
  have root {others : List PageObject} {root : LayoutTree} :
      readTree (behindNodes elements (.tree root :: others) calls) (elements.length + 1) = .ok root := by
    have here := @read_behind elements calls (.tree root :: others) (.tree root) 0 rfl
    rw [Nat.add_zero] at here
    rw [readTree, here]
    rfl
  simp only [addBox, root, bind, Except.bind]
  rcases List.eq_nil_or_concat' placed with rfl | ⟨front, last, rfl⟩
  · exact @write_behind elements calls (.tree ⟨none, total⟩ :: [PageObject.box (newest.box width none)])
      (.tree ⟨some (elements.length + 2), total⟩) 0 (Nat.succ_pos _)
  · have linked : (Objects.headOf (elements.length + 2) (front ++ [last])).isNone = false := by
      cases front with
      | nil => rfl
      | cons _ _ => rfl
    have isLast : lastBoxOf elements (front ++ [last]) = some (elements.length + 1 + (front.length + 1)) := by
      rw [lastBoxOf, if_neg (List.concat_ne_nil _ _), List.length_append, List.length_singleton]
    have place : (boxCells (elements.length + 2) width (front ++ [last]) ++ [PageObject.box (newest.box width none)])[front.length]? =
        some (PageObject.box (last.box width none)) := by
      rw [boxCells, List.getElem?_append_left, Objects.chained_getElem]
      · rfl
      · rw [Objects.length_chained, List.length_append]
        exact Nat.lt_succ_self _
    have read := @read_behind elements calls
      (.tree ⟨Objects.headOf (elements.length + 2) (front ++ [last]), total⟩ ::
        (boxCells (elements.length + 2) width (front ++ [last]) ++ [PageObject.box (newest.box width none)]))
      (PageObject.box (last.box width none)) (front.length + 1) place
    have written := @write_behind elements calls
      (.tree ⟨Objects.headOf (elements.length + 2) (front ++ [last]), total⟩ ::
        (boxCells (elements.length + 2) width (front ++ [last]) ++ [PageObject.box (newest.box width none)]))
      (PageObject.box (last.box width (some (elements.length + 2 + (front.length + 1))))) (front.length + 1) (by
        rw [List.length_cons, List.length_append, boxCells, Objects.length_chained, List.length_append]
        exact Nat.succ_lt_succ (Nat.lt_add_right _ (Nat.lt_succ_self _)))
    have chain : (boxCells (elements.length + 2) width (front ++ [last]) ++ [PageObject.box (newest.box width none)]).set front.length
        (PageObject.box (last.box width (some (elements.length + 2 + (front.length + 1))))) =
        boxCells (elements.length + 2) width (front ++ [last, newest]) := Objects.chained_concat
    have head : Objects.headOf (elements.length + 2) (front ++ [last]) =
        Objects.headOf (elements.length + 2) (front ++ [last, newest]) := Objects.headOf_concat
    rw [List.set_cons_succ, chain] at written
    simp only [linked, isLast, readBox, read, bind, Except.bind, PageObject.asBox]
    rw [if_neg Bool.false_ne_true, List.append_assoc, List.length_append, List.length_singleton, pageHeap,
      List.singleton_append, ← head]
    exact written

theorem create_allocated {next : Option Nat} (allocated : kmalloc calls = true) :
    layoutBoxCreate kmalloc (pageHeap elements width placed total calls) number (element.node next) 5 y (width - 10) =
      (some (elements.length + 2 + placed.length), behindNodes elements
        (.tree ⟨Objects.headOf (elements.length + 2) placed, total⟩ ::
          (boxCells (elements.length + 2) width placed ++
            [PageObject.box (Placed.box width ⟨number, element, y⟩ none)])) (calls + 1)) := by
  have count : elements.length + 1 + (placed.length + 1) = elements.length + 2 + placed.length := by omega
  rw [layoutBoxCreate, pageHeap, allocate_behind allocated, List.length_cons, boxCells, Objects.length_chained, count]
  rfl

theorem create_failing (fails : ¬ kmalloc calls = true) :
    layoutBoxCreate kmalloc (pageHeap elements width placed total calls) number node 5 y (width - 10) =
      (none, pageHeap elements width placed total (calls + 1)) := allocate_failing fails

theorem lastBoxOf_concat : lastBoxOf elements (placed ++ [newest]) = some (elements.length + 2 + placed.length) := by
  rw [lastBoxOf, if_neg (List.concat_ne_nil _ _), List.length_append, List.length_singleton]
  refine congrArg some ?_
  omega

theorem readBox_placed {front back : List Placed} {item : Placed} (split : placed = front ++ item :: back) :
    readBox (pageHeap elements width placed total calls) (elements.length + 2 + front.length) =
      .ok (item.box width (Objects.headOf (elements.length + 2 + front.length + 1) back)) := by
  have count : elements.length + 1 + (front.length + 1) = elements.length + 2 + front.length := by omega
  have cell : (boxCells (elements.length + 2) width placed)[front.length]? =
      some (.box (item.box width (Objects.headOf (elements.length + 2 + front.length + 1) back))) := by
    rw [split]
    exact Objects.chained_getElem
  have read := @read_behind elements calls (.tree ⟨Objects.headOf (elements.length + 2) placed, total⟩ ::
    boxCells (elements.length + 2) width placed) _ (front.length + 1) cell
  rw [count] at read
  rw [readBox, pageHeap, read]
  rfl

theorem readBox_last : readBox (pageHeap elements width (placed ++ [newest]) total calls)
    (elements.length + 2 + placed.length) = .ok (newest.box width none) := readBox_placed rfl

theorem hasBox_iff {next : Option Nat} : (element.node next).type = .element ∧
    ((element.node next).tag = .h1 ∨ (element.node next).tag = .p) ↔ element.hasBox = true := by
  rw [Element.hasBox, Bool.or_eq_true, decide_eq_true_eq, decide_eq_true_eq]
  exact and_iff_right rfl

theorem layoutNodes_eq (split : elements = done ++ rest) (enough : rest.length < fuel) :
    layoutNodes kmalloc (elements.length + 1) width fuel (numberOf (done.length + 1) rest) (lastBoxOf elements placed) y
        (pageHeap elements width placed total calls) =
      .ok (columnEnd y (place kmalloc calls y (done.length + 1) rest),
        pageHeap elements width (placed ++ place kmalloc calls y (done.length + 1) rest) total (calls + boxCalls rest)) := by
  induction rest generalizing done placed y calls fuel with
  | nil =>
      obtain ⟨less, rfl⟩ := Nat.exists_eq_succ_of_ne_zero (Nat.ne_zero_of_lt enough)
      rw [place, List.append_nil]
      rfl
  | cons element rest ih =>
      obtain ⟨less, rfl⟩ := Nat.exists_eq_succ_of_ne_zero (Nat.ne_zero_of_lt enough)
      have read : readNode (pageHeap elements width placed total calls) (done.length + 1) =
          .ok (element.node (numberOf (done.length + 2) rest)) := by
        rw [split, pageHeap]
        exact read_node tree_getElem
      have split' : elements = done ++ [element] ++ rest := by rw [split, List.append_assoc, List.singleton_append]
      have fuel' : rest.length < less := Nat.lt_of_succ_lt_succ enough
      have longer : (done ++ [element]).length = done.length + 1 := List.length_append
      have later {placed : List Placed} {y : UInt32} {calls : Nat} := @ih (done ++ [element]) y placed calls less split' fuel'
      rw [longer] at later
      simp only [numberOf, layoutNodes, read, place, bind, Except.bind, hasBox_iff]
      by_cases boxed : element.hasBox = true
      · have count : boxCalls (element :: rest) = boxCalls rest + 1 := by
          rw [boxCalls, List.filter_cons_of_pos boxed]
          rfl
        rw [if_pos boxed, if_pos boxed]
        by_cases allocated : kmalloc calls = true
        · rw [create_allocated allocated, if_pos allocated]
          simp only [addBox_eq, readBox_last]
          have next := @later (placed ++ [⟨done.length + 1, element, y⟩]) (y + (boxHeight element.tag + 5)) (calls + 1)
          rw [lastBoxOf_concat, List.append_assoc, List.singleton_append] at next
          rw [count, Nat.add_comm (boxCalls rest), ← Nat.add_assoc]
          exact next
        · rw [create_failing allocated, if_neg allocated]
          rw [count, Nat.add_comm (boxCalls rest), ← Nat.add_assoc]
          exact later
      · have count : boxCalls (element :: rest) = boxCalls rest := by
          rw [boxCalls, List.filter_cons_of_neg boxed]
          rfl
        rw [if_neg boxed, if_neg boxed, count]
        exact later

/-- The root is the first node. -/
theorem read_root {others : List PageObject} : readNode (behindNodes elements others calls) 0 =
    .ok { HtmlNode.create .element with tag := .html, firstChild := numberOf 1 elements } := read_node rfl

theorem readTree_pageHeap : readTree (pageHeap elements width placed total calls) (elements.length + 1) =
    .ok ⟨Objects.headOf (elements.length + 2) placed, total⟩ := by
  have here := @read_behind elements calls
    (.tree ⟨Objects.headOf (elements.length + 2) placed, total⟩ :: boxCells (elements.length + 2) width placed)
    (PageObject.tree ⟨Objects.headOf (elements.length + 2) placed, total⟩) 0 rfl
  rw [Nat.add_zero] at here
  rw [readTree, pageHeap, here]
  rfl

/-- What the parser leaves, for every string. -/
theorem pageParse_eq (kmalloc : Nat → Bool) (html : List UInt8) (allocated : kmalloc 0 = true) :
    ∃ elements calls, ∀ fuel, html.length < fuel →
      pageParse kmalloc fuel (some (html ++ [0])) = .ok (some 0, behindNodes elements [] calls) := by
  obtain ⟨after, scans⟩ := exists_scans kmalloc (.start html)
  have nodes : after.parser.heap = behindNodes after.elements [] after.calls := by
    rw [behindNodes, List.append_nil]
    rfl
  refine ⟨after.elements, after.calls, fun fuel enough => ?_⟩
  rw [pageParse, scans.parses allocated enough, ← nodes]
  rfl

/-- What layout makes of a page, when there is memory for the tree. -/
def laidOut (kmalloc : Nat → Bool) (elements : List Element) (width : UInt32) (calls : Nat) : PageHeap :=
  pageHeap elements width (place kmalloc (calls + 1) 5 1 elements)
    (columnEnd 5 (place kmalloc (calls + 1) 5 1 elements)) (calls + 1 + boxCalls elements)

theorem layoutCreateTree_eq (allocated : kmalloc calls = true) (enough : elements.length < fuel) :
    layoutCreateTree kmalloc fuel (some 0) width (behindNodes elements [] calls) =
      .ok (some (elements.length + 1), laidOut kmalloc elements width calls) := by
  have nodes := @layoutNodes_eq kmalloc elements [] elements width 0 5 [] (calls + 1) fuel rfl enough
  have start : behindNodes elements [.tree { firstBox := none, totalHeight := 0 }] (calls + 1) =
      pageHeap elements width [] 0 (calls + 1) := rfl
  have written := @write_behind elements (calls + 1 + boxCalls elements)
    (.tree ⟨Objects.headOf (elements.length + 2) (place kmalloc (calls + 1) 5 1 elements), 0⟩ ::
      boxCells (elements.length + 2) width (place kmalloc (calls + 1) 5 1 elements))
    (.tree ⟨Objects.headOf (elements.length + 2) (place kmalloc (calls + 1) 5 1 elements),
      columnEnd 5 (place kmalloc (calls + 1) 5 1 elements)⟩) 0 (Nat.succ_pos _)
  have read : readTree (pageHeap elements width (place kmalloc (calls + 1) 5 1 elements) 0 (calls + 1 + boxCalls elements))
      (elements.length + 1) = _ := readTree_pageHeap
  have root : readNode (pageHeap elements width [] 0 (calls + 1)) 0 = _ := read_root
  rw [List.length_nil, Nat.zero_add] at nodes
  change layoutNodes _ _ _ _ _ none _ _ = _ at nodes
  simp only [layoutCreateTree, allocate_behind allocated, start, List.nil_append, List.length_nil, Nat.add_zero,
    root, bind, Except.bind, nodes, read]
  exact congrArg (Except.map fun heap => (some (elements.length + 1), heap)) written

theorem layoutCreateTree_failing (fails : ¬ kmalloc calls = true) :
    layoutCreateTree kmalloc fuel (some 0) width (behindNodes elements [] calls) =
      .ok (none, behindNodes elements [] (calls + 1)) := by
  rw [layoutCreateTree, allocate_failing fails]

end AutismOS.Browser
