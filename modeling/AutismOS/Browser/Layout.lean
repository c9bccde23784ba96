import AutismOS.Browser.Html
import AutismOS.Library.Objects

namespace AutismOS.Browser

open AutismOS.Library

/-! `kernel/browser/layout.c` up to rendering, and `html_free`.

Nodes, boxes and the layout tree are objects of one heap, numbered as they are allocated, so that the nodes
keep the numbers the parser gave them.
-/

/-- `layout_box_t` -/
structure LayoutBox where
  x : UInt32
  y : UInt32
  width : UInt32
  height : UInt32
  node : Nat
  next : Option Nat

/-- `layout_tree_t` -/
structure LayoutTree where
  firstBox : Option Nat
  totalHeight : UInt32

inductive PageObject where
  | node (node : HtmlNode)
  | box (box : LayoutBox)
  | tree (tree : LayoutTree)

abbrev PageHeap := Objects PageObject

def PageObject.asNode : PageObject → Except Fault HtmlNode
  | .node object => .ok object
  | _ => .error .read

def PageObject.asBox : PageObject → Except Fault LayoutBox
  | .box object => .ok object
  | _ => .error .read

def PageObject.asTree : PageObject → Except Fault LayoutTree
  | .tree object => .ok object
  | _ => .error .read

def readNode (heap : PageHeap) (number : Nat) : Except Fault HtmlNode := heap.read number >>= PageObject.asNode

def readBox (heap : PageHeap) (number : Nat) : Except Fault LayoutBox := heap.read number >>= PageObject.asBox

def readTree (heap : PageHeap) (number : Nat) : Except Fault LayoutTree := heap.read number >>= PageObject.asTree

/-- The heap that the parser leaves, and the root for `html_parse`'s result. -/
def Parser.heap (parser : Parser) : PageHeap := ⟨parser.nodes.map .node, [], parser.calls⟩

/-- `html_parse`, with its root and the heap. -/
def pageParse (kmalloc : Nat → Bool) (fuel : Nat) (htmlString : Option (List UInt8)) : Except Fault (Option Nat × PageHeap) := do
  match ← htmlParse kmalloc fuel htmlString with
  | none => return (none, ⟨[], [], if htmlString.isSome then 1 else 0⟩)
  | some parser => return (some 0, parser.heap)

mutual

def htmlFree : Nat → Option Nat → PageHeap → Except Fault PageHeap
  | 0, _, _ => .error .fuel
  | _ + 1, none, heap => .ok heap
  | fuel + 1, some node, heap => do
      let object ← readNode heap node
      let heap ← freeChildren fuel object.firstChild heap
      return heap.free node

/-- The loop over the children. -/
def freeChildren : Nat → Option Nat → PageHeap → Except Fault PageHeap
  | 0, _, _ => .error .fuel
  | _ + 1, none, heap => .ok heap
  | fuel + 1, some child, heap => do
      let object ← readNode heap child
      let next := object.nextSibling
      let heap ← htmlFree fuel (some child) heap
      freeChildren fuel next heap

end

def boxHeight : Tag → UInt32
  | .h1 => 20
  | .p => 12
  | _ => 10

def layoutBoxCreate (kmalloc : Nat → Bool) (heap : PageHeap) (number : Nat) (node : HtmlNode) (x y width : UInt32) :
    Option Nat × PageHeap :=
  heap.allocate kmalloc (.box { x, y, width, height := boxHeight node.tag, node := number, next := none })

/-- A box is added to the tree, behind the last one if there is one. -/
def addBox (heap : PageHeap) (tree box : Nat) (lastBox : Option Nat) : Except Fault PageHeap := do
  let root ← readTree heap tree
  if root.firstBox.isNone then heap.write tree (.tree { root with firstBox := some box })
  else
    match lastBox with
    | none => .ok heap
    | some last => do
        let object ← readBox heap last
        heap.write last (.box { object with next := some box })

/-- The loop over the nodes: the last `current_y`, and the heap. -/
def layoutNodes (kmalloc : Nat → Bool) (tree : Nat) (viewportWidth : UInt32) :
    Nat → Option Nat → Option Nat → UInt32 → PageHeap → Except Fault (UInt32 × PageHeap)
  | 0, _, _, _, _ => .error .fuel
  | _ + 1, none, _, currentY, heap => .ok (currentY, heap)
  | fuel + 1, some number, lastBox, currentY, heap => do
      let node ← readNode heap number
      if node.type = .element ∧ (node.tag = .h1 ∨ node.tag = .p) then
        match layoutBoxCreate kmalloc heap number node 5 currentY (viewportWidth - 10) with
        | (none, heap) => layoutNodes kmalloc tree viewportWidth fuel node.nextSibling lastBox currentY heap
        | (some box, heap) => do
            let heap ← addBox heap tree box lastBox
            let object ← readBox heap box
            layoutNodes kmalloc tree viewportWidth fuel node.nextSibling (some box) (currentY + (object.height + 5)) heap
      else layoutNodes kmalloc tree viewportWidth fuel node.nextSibling lastBox currentY heap

def layoutCreateTree (kmalloc : Nat → Bool) (fuel : Nat) (htmlRoot : Option Nat) (viewportWidth : UInt32)
    (heap : PageHeap) : Except Fault (Option Nat × PageHeap) :=
  match htmlRoot with
  | none => .ok (none, heap)
  | some root =>
      match heap.allocate kmalloc (.tree { firstBox := none, totalHeight := 0 }) with
      | (none, heap) => .ok (none, heap)
      | (some tree, heap) => do
          let node ← readNode heap root
          let (currentY, heap) ← layoutNodes kmalloc tree viewportWidth fuel node.firstChild none 5 heap
          let object ← readTree heap tree
          let heap ← heap.write tree (.tree { object with totalHeight := currentY })
          return (some tree, heap)

/-- The loop of `layout_free_tree`. -/
def freeBoxes : Nat → Option Nat → PageHeap → Except Fault PageHeap
  | 0, _, _ => .error .fuel
  | _ + 1, none, heap => .ok heap
  | fuel + 1, some box, heap => do
      let object ← readBox heap box
      let next := object.next
      freeBoxes fuel next (heap.free box)

def layoutFreeTree (fuel : Nat) (tree : Option Nat) (heap : PageHeap) : Except Fault PageHeap :=
  match tree with
  | none => .ok heap
  | some tree => do
      let object ← readTree heap tree
      let heap ← freeBoxes fuel object.firstBox heap
      return heap.free tree

end AutismOS.Browser
