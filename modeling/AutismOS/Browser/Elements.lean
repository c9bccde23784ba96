import AutismOS.Browser.Html
import AutismOS.Library.Objects

namespace AutismOS.Browser

open AutismOS.Library

/-! # The tree of elements

All elements are children of the root, each with the next one behind it as its sibling.
-/

/-- What the parser finds out about an element. -/
structure Element where
  tag : Tag
  text : List UInt8

def Element.node (element : Element) (nextSibling : Option Nat) : HtmlNode where
  type := .element
  tag := element.tag
  text := element.text
  firstChild := none
  nextSibling := nextSibling

/-- The number of the first of some elements, if there is one. -/
def numberOf (first : Nat) : List Element → Option Nat
  | [] => none
  | _ :: _ => some first

def siblings (first : Nat) : List Element → List HtmlNode
  | [] => []
  | element :: rest => element.node (numberOf (first + 1) rest) :: siblings (first + 1) rest

/-- All nodes, the root first. -/
def tree (elements : List Element) : List HtmlNode :=
  { HtmlNode.create .element with tag := .html, firstChild := numberOf 1 elements } :: siblings 1 elements

def lastNumber (elements : List Element) : Option Nat := numberOf elements.length elements

variable {first : Nat} {element : Element} {elements : List Element} {copy : List UInt8} {parser : Parser}

theorem numberOf_eq : numberOf first elements = Objects.headOf first elements := by
  cases elements with
  | nil => rfl
  | cons _ _ => rfl

theorem siblings_eq : siblings first elements = Objects.chained Element.node first elements := by
  induction elements generalizing first with
  | nil => rfl
  | cons element rest ih => rw [siblings, Objects.chained, ih, numberOf_eq]

@[simp] theorem length_siblings : (siblings first elements).length = elements.length := by
  rw [siblings_eq, Objects.length_chained]

theorem length_tree : (tree elements).length = elements.length + 1 := congrArg (· + 1) length_siblings

/-- The last sibling is linked to a new one. -/
theorem siblings_link {other : Element} :
    (siblings first (other :: elements) ++ [element.node none]).modify elements.length
      (fun node => { node with nextSibling := some (first + elements.length + 1) }) =
    siblings first (other :: elements ++ [element]) := by
  induction elements generalizing first other with
  | nil => rfl
  | cons next rest ih =>
      have later := @ih (first + 1) next
      rw [List.length_cons, siblings, List.cons_append, List.modify_succ_cons]
      have count : first + (rest.length + 1) + 1 = first + 1 + rest.length + 1 := by omega
      rw [count, later]
      rfl

theorem siblings_getElem {done rest : List Element} : (siblings first (done ++ element :: rest))[done.length]? =
    some (element.node (numberOf (first + done.length + 1) rest)) := by
  rw [siblings_eq, Objects.chained_getElem, numberOf_eq]

theorem siblings_last : (siblings first (elements ++ [element]))[elements.length]? = some (element.node none) :=
  siblings_getElem

theorem siblings_text :
    (siblings first (elements ++ [element])).modify elements.length (fun node => { node with text := copy }) =
      siblings first (elements ++ [{ element with text := copy }]) := by
  induction elements generalizing first with
  | nil => rfl
  | cons next rest ih =>
      have same : numberOf (first + 1) (rest ++ [element]) =
          numberOf (first + 1) (rest ++ [{ element with text := copy }]) := by
        cases rest with
        | nil => rfl
        | cons _ _ => rfl
      rw [List.cons_append, siblings, List.length_cons, List.modify_succ_cons, ih, same]
      rfl

theorem lastNumber_concat : lastNumber (elements ++ [element]) = some (elements.length + 1) := by
  rw [lastNumber, List.length_append]
  cases elements with
  | nil => rfl
  | cons _ _ => rfl

/-- A new element is put behind all others. -/
theorem addToTree_tree (nodes : parser.nodes = tree elements ++ [element.node none])
    (last : parser.lastChild = lastNumber elements) : parser.addToTree (elements.length + 1) =
      { parser with nodes := tree (elements ++ [element]), lastChild := lastNumber (elements ++ [element]) } := by
  rw [Parser.addToTree, nodes, last, lastNumber_concat]
  cases elements with
  | nil => rfl
  | cons other rest =>
      have linked := @siblings_link 1 element rest other
      rw [Nat.add_comm 1] at linked
      have hasChild : ((tree (other :: rest) ++ [element.node none])[0]?.bind HtmlNode.firstChild).isNone = false := rfl
      rw [hasChild, if_neg Bool.false_ne_true]
      have moved : (tree (other :: rest) ++ [element.node none]).modify (rest.length + 1)
          (fun node => { node with nextSibling := some (rest.length + 1 + 1) }) = tree (other :: rest ++ [element]) := by
        rw [tree, List.cons_append, List.modify_succ_cons, linked]
        rfl
      exact congrArg (fun nodes => ({ parser with nodes, lastChild := some (rest.length + 1 + 1) } : Parser)) moved

theorem tree_text :
    (tree (elements ++ [element])).modify (elements.length + 1) (fun node => { node with text := copy }) =
      tree (elements ++ [{ element with text := copy }]) := by
  rw [tree, List.modify_succ_cons, siblings_text]
  cases elements with
  | nil => rfl
  | cons _ _ => rfl

theorem tree_last : (tree (elements ++ [element]))[elements.length + 1]? = some (element.node none) := siblings_last

/-- What is reached by the links from a first child on. -/
inductive Children (nodes : List HtmlNode) : Option Nat → List HtmlNode → Prop
  | nil : Children nodes none []
  | cons {number : Nat} {node : HtmlNode} {rest : List HtmlNode} (here : nodes[number]? = some node)
      (later : Children nodes node.nextSibling rest) : Children nodes (some number) (node :: rest)

theorem children_siblings {front : List HtmlNode} : Children (front ++ siblings front.length elements)
    (numberOf front.length elements) (siblings front.length elements) := by
  induction elements generalizing front with
  | nil => exact .nil
  | cons element rest ih =>
      have later := @ih (front ++ [element.node (numberOf (front.length + 1) rest)])
      rw [List.length_append, List.length_singleton, List.append_assoc] at later
      refine .cons ?_ later
      rw [List.getElem?_append_right (Nat.le_refl _), Nat.sub_self]
      rfl

/-- The children of the root are the elements in order. -/
theorem children_tree : Children (tree elements) (numberOf 1 elements) (siblings 1 elements) :=
  @children_siblings elements [_]

end AutismOS.Browser
