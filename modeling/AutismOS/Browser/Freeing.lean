import AutismOS.Browser.Boxes
import AutismOS.Browser.Scans
import Mathlib.Data.List.Nodup

namespace AutismOS.Browser

open AutismOS.Library

/-! Every object of a page is given back once. -/

variable {kmalloc : Nat → Bool} {elements : List Element} {width total : UInt32} {placed : List Placed}
variable {heap : PageHeap} {head : Option Nat} {order freed : List Nat} {number calls fuel : Nat} {node : HtmlNode}
variable {cells : List PageObject}

/-- Trees in a row, with the nodes in the order in which they are freed: children before their parent. -/
inductive Forest (cells : List PageObject) : Option Nat → List Nat → Prop
  | nil : Forest cells none []
  | cons {number : Nat} {node : HtmlNode} {inner rest : List Nat} (here : cells[number]? = some (.node node))
      (children : Forest cells node.firstChild inner) (later : Forest cells node.nextSibling rest) :
      Forest cells (some number) (inner ++ number :: rest)

theorem readNode_live (live : number ∉ heap.freed) (here : heap.cells[number]? = some (.node node)) :
    readNode heap number = .ok node := by
  rw [readNode, Objects.read_live live here]
  rfl

theorem readBox_live {box : LayoutBox} (live : number ∉ heap.freed) (here : heap.cells[number]? = some (.box box)) :
    readBox heap number = .ok box := by
  rw [readBox, Objects.read_live live here]
  rfl

theorem readTree_live {layout : LayoutTree} (live : number ∉ heap.freed) (here : heap.cells[number]? = some (.tree layout)) :
    readTree heap number = .ok layout := by
  rw [readTree, Objects.read_live live here]
  rfl

theorem freeChildren_eq (forest : Forest cells head order) (apart : order.Nodup) (live : ∀ number ∈ order, number ∉ freed)
    (enough : 2 * order.length < fuel) :
    freeChildren fuel head ⟨cells, freed, calls⟩ = .ok ⟨cells, freed ++ order, calls⟩ := by
  induction forest generalizing freed fuel with
  | nil =>
      obtain ⟨less, rfl⟩ := Nat.exists_eq_succ_of_ne_zero (Nat.ne_zero_of_lt enough)
      rw [List.append_nil]
      rfl
  | @cons number node inner rest here children later ihInner ihRest =>
      rw [List.length_append, List.length_cons] at enough
      obtain ⟨less, rfl⟩ : ∃ less, fuel = less + 2 := ⟨fuel - 2, by omega⟩
      obtain ⟨apartInner, apartOuter, disjoint⟩ := List.nodup_append.mp apart
      obtain ⟨notRest, apartRest⟩ := List.nodup_cons.mp apartOuter
      have isLive : number ∉ freed := live number (List.mem_append_right _ List.mem_cons_self)
      have read : readNode ⟨cells, freed, calls⟩ number = .ok node := readNode_live isLive here
      have inside := @ihInner freed less apartInner (fun other member => live other (List.mem_append_left _ member)) (by omega)
      have parent : htmlFree (less + 1) (some number) ⟨cells, freed, calls⟩ =
          .ok ⟨cells, freed ++ inner ++ [number], calls⟩ := by
        rw [htmlFree, read]
        simp only [bind, Except.bind, inside]
        rfl
      have outside := @ihRest (freed ++ inner ++ [number]) (less + 1) apartRest (by
        intro other member
        rw [List.mem_append, List.mem_append, List.mem_singleton, not_or, not_or]
        refine ⟨⟨live other (List.mem_append_right _ (List.mem_cons_of_mem _ member)), fun inInner => ?_⟩, ?_⟩
        · exact disjoint other inInner other (List.mem_cons_of_mem _ member) rfl
        · rintro rfl
          exact notRest member) (by omega)
      rw [freeChildren, read]
      simp only [bind, Except.bind, parent, outside]
      simp

/-- A tree is freed from its leaves on, and its root last. -/
theorem htmlFree_eq (here : cells[number]? = some (.node node)) (forest : Forest cells node.firstChild order)
    (apart : (order ++ [number]).Nodup) (live : ∀ other ∈ order ++ [number], other ∉ freed)
    (enough : 2 * order.length + 1 < fuel) :
    htmlFree fuel (some number) ⟨cells, freed, calls⟩ = .ok ⟨cells, freed ++ (order ++ [number]), calls⟩ := by
  obtain ⟨less, rfl⟩ := Nat.exists_eq_succ_of_ne_zero (Nat.ne_zero_of_lt enough)
  have isLive : number ∉ freed := live number (List.mem_append_right _ List.mem_cons_self)
  have read : readNode ⟨cells, freed, calls⟩ number = .ok node := readNode_live isLive here
  have inside : freeChildren less node.firstChild ⟨cells, freed, calls⟩ = .ok ⟨cells, freed ++ order, calls⟩ :=
    freeChildren_eq forest (List.nodup_append.mp apart).1
      (fun other member => live other (List.mem_append_left _ member)) (Nat.lt_of_succ_lt_succ enough)
  rw [htmlFree, read]
  simp only [bind, Except.bind, inside]
  rw [← List.append_assoc]
  rfl

/-- The sibling of a node without children. -/
def leafNext : PageObject → Option (Option Nat)
  | .node object => if object.firstChild = none then some object.nextSibling else none
  | _ => none

theorem forest_of_chain (chain : Objects.Chain leafNext cells head order) : Forest cells head order := by
  induction chain with
  | nil => exact .nil
  | @cons number cell following rest here link _ ih =>
      cases cell with
      | box _ => cases link
      | tree _ => cases link
      | node object =>
          rw [leafNext] at link
          split at link
          · rename_i childless
            cases link
            have children : Forest cells object.firstChild [] := by
              rw [childless]
              exact .nil
            exact .cons here children ih
          · cases link

theorem siblings_chained {first : Nat} : (siblings first elements).map PageObject.node =
    Objects.chained (fun element next => .node (element.node next)) first elements := by
  rw [siblings_eq, Objects.map_chained]

/-- The elements are a row of trees, whatever stands behind the nodes. -/
theorem forest_elements {others : List PageObject} :
    Forest ((tree elements).map .node ++ others) (numberOf 1 elements) (List.range' 1 elements.length) := by
  have chain := @Objects.chain_chained _ _ (fun element next => PageObject.node (element.node next)) elements leafNext
    [PageObject.node { HtmlNode.create .element with tag := .html, firstChild := numberOf 1 elements }] others
    (fun _ _ => rfl)
  rw [← siblings_chained] at chain
  rw [numberOf_eq]
  exact forest_of_chain chain

def boxNext : PageObject → Option (Option Nat)
  | .box object => some object.next
  | _ => none

theorem freeBoxes_eq (chain : Objects.Chain boxNext cells head order) (apart : order.Nodup)
    (live : ∀ number ∈ order, number ∉ freed) (enough : order.length < fuel) :
    freeBoxes fuel head ⟨cells, freed, calls⟩ = .ok ⟨cells, freed ++ order, calls⟩ := by
  induction chain generalizing freed fuel with
  | nil =>
      obtain ⟨less, rfl⟩ := Nat.exists_eq_succ_of_ne_zero (Nat.ne_zero_of_lt enough)
      rw [List.append_nil]
      rfl
  | @cons number cell following rest here link _ ih =>
      obtain ⟨less, rfl⟩ := Nat.exists_eq_succ_of_ne_zero (Nat.ne_zero_of_lt enough)
      obtain ⟨notRest, apartRest⟩ := List.nodup_cons.mp apart
      cases cell with
      | node _ => cases link
      | tree _ => cases link
      | box object =>
          cases link
          have isLive : number ∉ freed := live number List.mem_cons_self
          have read : readBox ⟨cells, freed, calls⟩ number = .ok object := readBox_live isLive here
          have outside := @ih (freed ++ [number]) less apartRest (by
            intro other member
            rw [List.mem_append, List.mem_singleton, not_or]
            refine ⟨live other (List.mem_cons_of_mem _ member), ?_⟩
            rintro rfl
            exact notRest member) (Nat.lt_of_succ_lt_succ enough)
          rw [freeBoxes, read]
          simp only [bind, Except.bind, Objects.free, outside]
          rw [List.append_assoc, List.singleton_append]

theorem chain_boxes : Objects.Chain boxNext (pageHeap elements width placed total calls).cells
    (Objects.headOf (elements.length + 2) placed) (List.range' (elements.length + 2) placed.length) := by
  have chain := @Objects.chain_chained _ _ (fun placed next => PageObject.box (Placed.box width placed next)) placed boxNext
    ((tree elements).map .node ++ [.tree ⟨Objects.headOf (elements.length + 2) placed, total⟩]) [] (fun _ _ => rfl)
  have length : ((tree elements).map PageObject.node ++
      [PageObject.tree ⟨Objects.headOf (elements.length + 2) placed, total⟩]).length = elements.length + 2 := by
    rw [List.length_append, length_nodes]
    rfl
  rw [length, List.append_nil, List.append_assoc, List.singleton_append] at chain
  exact chain

/-- What `html_free` gives back, in this order. -/
def nodeOrder (elements : List Element) : List Nat := List.range' 1 elements.length ++ [0]

/-- What `layout_free_tree` gives back. -/
def boxOrder (elements : List Element) (placed : List Placed) : List Nat :=
  List.range' (elements.length + 2) placed.length ++ [elements.length + 1]

theorem nodeOrder_perm : (nodeOrder elements).Perm (List.range' 0 (elements.length + 1)) := by
  have split : List.range' 0 (elements.length + 1) = [0] ++ List.range' 1 elements.length := rfl
  rw [split]
  exact List.perm_append_comm

theorem boxOrder_perm : (boxOrder elements placed).Perm (List.range' (elements.length + 1) (placed.length + 1)) := by
  have split : List.range' (elements.length + 1) (placed.length + 1) =
      [elements.length + 1] ++ List.range' (elements.length + 2) placed.length := rfl
  rw [split]
  exact List.perm_append_comm

theorem length_pageHeap :
    (pageHeap elements width placed total calls).cells.length = elements.length + 1 + (placed.length + 1) := by
  rw [pageHeap, behindNodes, List.length_append, length_nodes, List.length_cons, boxCells, Objects.length_chained]

theorem order_perm : (nodeOrder elements ++ boxOrder elements placed).Perm
    (List.range (elements.length + 1 + (placed.length + 1))) := by
  have whole := (@nodeOrder_perm elements).append (@boxOrder_perm elements placed)
  have joined := @List.range'_append_1 0 (elements.length + 1) (placed.length + 1)
  rw [Nat.zero_add] at joined
  rwa [joined, ← List.range_eq_range'] at whole

/-- The objects of both are different ones. -/
theorem order_nodup : (nodeOrder elements ++ boxOrder elements placed).Nodup :=
  order_perm.nodup_iff.mpr List.nodup_range

theorem free_nodes {others : List PageObject} (live : ∀ number ∈ nodeOrder elements, number ∉ freed)
    (enough : 2 * elements.length + 1 < fuel) :
    htmlFree fuel (some 0) ⟨(tree elements).map .node ++ others, freed, calls⟩ =
      .ok ⟨(tree elements).map .node ++ others, freed ++ nodeOrder elements, calls⟩ := by
  have root : ((tree elements).map PageObject.node ++ others)[0]? =
      some (.node { HtmlNode.create .element with tag := .html, firstChild := numberOf 1 elements }) := rfl
  refine htmlFree_eq root forest_elements ?_ live ?_
  · exact nodeOrder_perm.nodup_iff.mpr List.nodup_range'
  · rwa [List.length_range']

theorem free_boxes (live : ∀ number ∈ boxOrder elements placed, number ∉ freed) (enough : placed.length < fuel) :
    layoutFreeTree fuel (some (elements.length + 1)) ⟨(pageHeap elements width placed total calls).cells, freed, calls⟩ =
      .ok ⟨(pageHeap elements width placed total calls).cells, freed ++ boxOrder elements placed, calls⟩ := by
  have isLive : elements.length + 1 ∉ freed := live _ (List.mem_append_right _ List.mem_cons_self)
  have here : (pageHeap elements width placed total calls).cells[elements.length + 1]? =
      some (.tree ⟨Objects.headOf (elements.length + 2) placed, total⟩) := by
    rw [pageHeap, behindNodes, List.getElem?_append_right (Nat.le_of_eq length_nodes), length_nodes, Nat.sub_self]
    rfl
  have read : readTree ⟨(pageHeap elements width placed total calls).cells, freed, calls⟩ (elements.length + 1) =
      .ok ⟨Objects.headOf (elements.length + 2) placed, total⟩ := readTree_live isLive here
  have inside : freeBoxes fuel (Objects.headOf (elements.length + 2) placed)
      ⟨(pageHeap elements width placed total calls).cells, freed, calls⟩ = .ok ⟨_, freed ++ _, calls⟩ :=
    freeBoxes_eq chain_boxes List.nodup_range' (fun other member => live other (List.mem_append_left _ member))
      (by rwa [List.length_range'])
  rw [layoutFreeTree, read]
  simp only [bind, Except.bind, inside]
  rw [boxOrder, ← List.append_assoc]
  rfl

/-- The nodes that the links reach from one on, with their numbers. -/
inductive NodeList (heap : PageHeap) : Option Nat → List (HtmlNode × Nat) → Prop
  | nil : NodeList heap none []
  | cons {number : Nat} {node : HtmlNode} {rest : List (HtmlNode × Nat)} (here : readNode heap number = .ok node)
      (later : NodeList heap node.nextSibling rest) : NodeList heap (some number) ((node, number) :: rest)

/-- The boxes that the links reach from one on. -/
inductive BoxList (heap : PageHeap) : Option Nat → List LayoutBox → Prop
  | nil : BoxList heap none []
  | cons {number : Nat} {box : LayoutBox} {rest : List LayoutBox} (here : readBox heap number = .ok box)
      (later : BoxList heap box.next rest) : BoxList heap (some number) (box :: rest)

/-- A heading or a paragraph. -/
def isText (child : HtmlNode × Nat) : Bool :=
  child.1.type = .element && (child.1.tag = .h1 || child.1.tag = .p)

/-- The nodes for which the calls of `kmalloc` from one on succeed. -/
def allocatedOf (kmalloc : Nat → Bool) (call : Nat) (children : List (HtmlNode × Nat)) : List Nat :=
  ((children.zipIdx call).filter fun entry => kmalloc entry.2).map fun entry => entry.1.2

/-- The chain of boxes has one box for each heading or paragraph whose box was allocated, in the order of the
children of the root, which are all other nodes. -/
def BoxesFollow (kmalloc : Nat → Bool) (parsed laid : PageHeap) (root tree : Nat) : Prop :=
  ∃ rootNode layout children boxes, readNode laid root = .ok rootNode ∧ readTree laid tree = .ok layout ∧
    NodeList laid rootNode.firstChild children ∧ children.map Prod.snd = List.range' 1 (parsed.cells.length - 1) ∧
    BoxList laid layout.firstBox boxes ∧
    boxes.map LayoutBox.node = allocatedOf kmalloc (parsed.calls + 1) (children.filter isText)

theorem nodeList_elements {done rest : List Element} {others : List PageObject} (split : elements = done ++ rest) :
    NodeList (behindNodes elements others calls) (numberOf (done.length + 1) rest)
      ((siblings (done.length + 1) rest).zipIdx (done.length + 1)) := by
  induction rest generalizing done with
  | nil => exact .nil
  | cons element rest ih =>
      have split' : elements = done ++ [element] ++ rest := by rw [split, List.append_assoc, List.singleton_append]
      have longer : (done ++ [element]).length = done.length + 1 := List.length_append
      have later := ih split'
      rw [longer] at later
      refine .cons ?_ later
      rw [split]
      exact read_node tree_getElem

theorem boxList_placed {done rest : List Placed} (split : placed = done ++ rest) :
    BoxList (pageHeap elements width placed total calls) (Objects.headOf (elements.length + 2 + done.length) rest)
      (Objects.chained (Placed.box width) (elements.length + 2 + done.length) rest) := by
  induction rest generalizing done with
  | nil => exact .nil
  | cons item rest ih =>
      have split' : placed = done ++ [item] ++ rest := by rw [split, List.append_assoc, List.singleton_append]
      have longer : (done ++ [item]).length = done.length + 1 := List.length_append
      have later := ih split'
      rw [longer, ← Nat.add_assoc] at later
      exact .cons (readBox_placed split) later

theorem allocatedOf_cons {child : HtmlNode × Nat} {rest : List (HtmlNode × Nat)} :
    allocatedOf kmalloc calls (child :: rest) =
      if kmalloc calls then child.2 :: allocatedOf kmalloc (calls + 1) rest else allocatedOf kmalloc (calls + 1) rest := by
  rw [allocatedOf, List.zipIdx_cons, List.filter_cons]
  split
  · rfl
  · rfl

theorem allocatedOf_place {y : UInt32} : (place kmalloc calls y number elements).map Placed.node =
    allocatedOf kmalloc calls (((siblings number elements).zipIdx number).filter isText) := by
  induction elements generalizing calls y number with
  | nil => rfl
  | cons element rest ih =>
      have boxed : isText (element.node (numberOf (number + 1) rest), number) = element.hasBox := by
        rw [isText, Element.hasBox]
        rfl
      rw [place, siblings, List.zipIdx_cons]
      by_cases has : element.hasBox = true
      · rw [if_pos has, List.filter_cons_of_pos (boxed.trans has), allocatedOf_cons]
        by_cases allocated : kmalloc calls = true
        · rw [if_pos allocated, if_pos allocated, List.map_cons, ih]
        · rw [if_neg allocated, if_neg allocated, ih]
      · rw [if_neg has, List.filter_cons_of_neg (by rwa [boxed]), ih]

theorem map_node_chained {first : Nat} :
    (Objects.chained (Placed.box width) first placed).map LayoutBox.node = placed.map Placed.node := by
  induction placed generalizing first with
  | nil => rfl
  | cons item rest ih => rw [Objects.chained, List.map_cons, ih, List.map_cons, Placed.box]

theorem boxesFollow : BoxesFollow kmalloc (behindNodes elements [] calls) (laidOut kmalloc elements width calls) 0
    (elements.length + 1) := by
  refine ⟨_, _, _, _, read_root, readTree_pageHeap, @nodeList_elements elements _ [] elements _ rfl, ?_,
    @boxList_placed elements _ _ _ _ [] _ rfl, ?_⟩
  · have length : (behindNodes elements [] calls).cells.length - 1 = elements.length := by
      rw [behindNodes, List.append_nil, length_nodes, Nat.add_sub_cancel]
    rw [List.zipIdx_map_snd, length_siblings, length]
    rfl
  · rw [map_node_chained, allocatedOf_place]
    rfl

/-- What is freed by `html_free` alone, and by both functions one after the other. -/
structure Released (fuel : Nat) (root : Option Nat) (parsed : PageHeap) (tree : Option Nat) (laid : PageHeap) : Prop where
  alone : ∃ heap, htmlFree fuel root parsed = .ok heap ∧ heap.Balanced
  boxesFirst : ∃ heap, layoutFreeTree fuel tree laid = .ok heap ∧
    heap.freed.Perm (List.range' parsed.cells.length (laid.cells.length - parsed.cells.length)) ∧
      ∃ after, htmlFree fuel root heap = .ok after ∧ after.Balanced
  nodesFirst : ∃ heap, htmlFree fuel root laid = .ok heap ∧ heap.freed.Perm (List.range parsed.cells.length) ∧
      ∃ after, layoutFreeTree fuel tree heap = .ok after ∧ after.Balanced

theorem length_behind : (behindNodes elements [] calls).cells.length = elements.length + 1 := by
  rw [behindNodes, List.append_nil, length_nodes]

theorem nodes_balanced (enough : 2 * elements.length + 1 < fuel) :
    ∃ heap, htmlFree fuel (some 0) (behindNodes elements [] calls) = .ok heap ∧ heap.freed.Perm (List.range (elements.length + 1)) ∧
      heap.cells.length = elements.length + 1 := by
  refine ⟨_, free_nodes (fun _ _ => List.not_mem_nil) enough, ?_, @length_behind elements calls⟩
  rw [List.nil_append, List.range_eq_range']
  exact nodeOrder_perm

/-- There are no nodes. -/
theorem released_nothing (enough : 0 < fuel) : Released fuel none ⟨[], [], calls⟩ none ⟨[], [], calls⟩ := by
  obtain ⟨less, rfl⟩ := Nat.exists_eq_succ_of_ne_zero (Nat.ne_zero_of_lt enough)
  exact ⟨⟨_, rfl, .nil⟩, ⟨_, rfl, .nil, _, rfl, .nil⟩, ⟨_, rfl, .nil, _, rfl, .nil⟩⟩

/-- There is no layout tree. -/
theorem released_nodes {later : Nat} (enough : 2 * elements.length + 1 < fuel) :
    Released fuel (some 0) (behindNodes elements [] calls) none (behindNodes elements [] later) := by
  obtain ⟨heap, frees, perm, length⟩ := @nodes_balanced elements calls fuel enough
  obtain ⟨heap', frees', perm', length'⟩ := @nodes_balanced elements later fuel enough
  constructor
  · refine ⟨heap, frees, ?_⟩
    rwa [Objects.Balanced, length]
  · refine ⟨_, rfl, ?_, heap', frees', ?_⟩
    · rw [length_behind, length_behind, Nat.sub_self]
      exact .nil
    · rwa [Objects.Balanced, length']
  · refine ⟨heap', frees', ?_, heap', rfl, ?_⟩
    · rwa [length_behind]
    · rwa [Objects.Balanced, length']

theorem released_laid (enough : 2 * elements.length + 1 < fuel) (enoughBoxes : placed.length < fuel) {later : Nat} :
    Released fuel (some 0) (behindNodes elements [] calls) (some (elements.length + 1))
      (pageHeap elements width placed total later) := by
  obtain ⟨heap, frees, perm, length⟩ := @nodes_balanced elements calls fuel enough
  obtain ⟨_, _, disjoint⟩ := List.nodup_append.mp (@order_nodup elements placed)
  have count : elements.length + 1 + (placed.length + 1) - (elements.length + 1) = placed.length + 1 :=
    Nat.add_sub_cancel_left _ _
  constructor
  · refine ⟨heap, frees, ?_⟩
    rwa [Objects.Balanced, length]
  · refine ⟨_, free_boxes (fun _ _ => List.not_mem_nil) enoughBoxes, ?_, _, free_nodes ?_ enough, ?_⟩
    · rw [length_behind, length_pageHeap, count, List.nil_append]
      exact boxOrder_perm
    · rw [List.nil_append]
      exact fun number member freed => disjoint number member number freed rfl
    · change (([] ++ boxOrder elements placed) ++ nodeOrder elements).Perm (List.range (pageHeap _ _ _ _ later).cells.length)
      rw [List.nil_append, length_pageHeap]
      exact List.perm_append_comm.trans order_perm
  · refine ⟨_, free_nodes (fun _ _ => List.not_mem_nil) enough, ?_, _, free_boxes ?_ enoughBoxes, ?_⟩
    · rw [length_behind, List.nil_append, List.range_eq_range']
      exact nodeOrder_perm
    · rw [List.nil_append]
      exact fun number member freed => disjoint number freed number member rfl
    · change (([] ++ nodeOrder elements) ++ boxOrder elements placed).Perm (List.range (pageHeap _ _ _ _ later).cells.length)
      rw [List.nil_append, length_pageHeap]
      exact order_perm

/-- A page that is parsed, laid out and given up, whatever allocations fail: every node, every box and the tree are
freed once, none is read afterwards, and the boxes are those of the headings and paragraphs in their order. -/
theorem page_balanced (kmalloc : Nat → Bool) (html : List UInt8) (width : UInt32) :
    ∃ root parsed tree laid enough, ∀ fuel, enough < fuel →
      pageParse kmalloc fuel (some (html ++ [0])) = .ok (root, parsed) ∧
      layoutCreateTree kmalloc fuel root width parsed = .ok (tree, laid) ∧
      Released fuel root parsed tree laid ∧
      ∀ first second, root = some first → tree = some second → BoxesFollow kmalloc parsed laid first second := by
  by_cases allocated : kmalloc 0 = true
  · obtain ⟨elements, calls, parses⟩ := pageParse_eq kmalloc html allocated
    by_cases laid : kmalloc calls = true
    · refine ⟨_, _, _, _, max html.length (2 * elements.length + 1), fun fuel enough => ⟨parses fuel (by omega),
        layoutCreateTree_eq laid (by omega), released_laid (by omega) ?_, ?_⟩⟩
      · exact Nat.lt_of_le_of_lt length_place_le (by omega)
      · intro first second isRoot isTree
        cases isRoot
        cases isTree
        exact boxesFollow
    · refine ⟨_, _, _, _, max html.length (2 * elements.length + 1), fun fuel enough => ⟨parses fuel (by omega),
        layoutCreateTree_failing laid, released_nodes (by omega), ?_⟩⟩
      intro first second isRoot isTree
      cases isTree
  · have parses {fuel : Nat} : pageParse kmalloc fuel (some (html ++ [0])) = .ok (none, ⟨[], [], 1⟩) := by
      have none_ : htmlParse kmalloc fuel (some (html ++ [0])) = .ok none := if_neg allocated
      rw [pageParse, none_]
      rfl
    refine ⟨_, _, _, _, 0, fun fuel enough => ⟨parses, rfl, released_nothing enough, ?_⟩⟩
    intro first second isRoot
    cases isRoot

end AutismOS.Browser
