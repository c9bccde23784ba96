import AutismOS.Library.Scanning

namespace AutismOS.Browser

open AutismOS.Library
open AutismOS.Library.Scanning

/-! `kernel/browser/html.c`.

Nodes are numbered as they are allocated, the root first.  Whether a call of `kmalloc` succeeds is given for
each of them.
-/

/-- `NODE_TYPE_ELEMENT` and `NODE_TYPE_TEXT` -/
inductive NodeType where
  | element
  | text
deriving DecidableEq

/-- `TAG_UNKNOWN` to `TAG_A` -/
inductive Tag where
  | unknown
  | html
  | body
  | p
  | h1
  | a
deriving DecidableEq

/-- `html_node_t` -/
structure HtmlNode where
  type : NodeType
  tag : Tag
  text : List UInt8
  firstChild : Option Nat
  nextSibling : Option Nat
deriving DecidableEq

/-- What `html_node_create` makes. -/
def HtmlNode.create (type : NodeType) : HtmlNode where
  type := type
  tag := .unknown
  text := List.replicate 256 0
  firstChild := none
  nextSibling := none

/-- The variables of `html_parse` with its nodes, and how often `kmalloc` has been called.  What `tag_name` and
`text` held after they were written is kept, each time. -/
structure Parser where
  p : List UInt8
  nodes : List HtmlNode
  lastChild : Option Nat
  calls : Nat
  tagNames : List (List UInt8)
  texts : List (List UInt8)

def literal (chars : List UInt8) : List UInt8 := chars ++ [0]

def htmlTagFromString (tagName : List UInt8) : Except Fault Tag := do
  if (← strcmp tagName (literal [0x68, 0x74, 0x6D, 0x6C])) = 0 then return .html
  if (← strcmp tagName (literal [0x62, 0x6F, 0x64, 0x79])) = 0 then return .body
  if (← strcmp tagName (literal [0x70])) = 0 then return .p
  if (← strcmp tagName (literal [0x68, 0x31])) = 0 then return .h1
  if (← strcmp tagName (literal [0x61])) = 0 then return .a
  return .unknown

/-- Where a tag's name ends. -/
def endsName (char : UInt8) : Bool := char = 0 || char = 0x3E || char = 0x20

/-- Where an opening tag ends. -/
def endsTag (char : UInt8) : Bool := char = 0 || char = 0x3E

/-- Where the text of an element ends. -/
def endsText (char : UInt8) : Bool := char = 0 || char = 0x3C

/-- An opening tag: the second character is looked at only behind a `<`. -/
def opensTag (p : List UInt8) : Except Fault Bool := do
  let char ← peek p
  if char = 0x3C then
    let next ← peek p.tail
    return next != 0x2F
  else return false

namespace Parser

variable (parser : Parser)

def addToTree (elem : Nat) : Parser :=
  let nodes :=
    if (parser.nodes[0]?.bind HtmlNode.firstChild).isNone then
      parser.nodes.modify 0 fun root => { root with firstChild := some elem }
    else
      match parser.lastChild with
      | some last => parser.nodes.modify last fun node => { node with nextSibling := some elem }
      | none => parser.nodes
  { parser with nodes, lastChild := some elem }

def extractText (elem : Nat) : Except Fault Parser := do
  let (text, p) ← copyUntil endsText 255 256 [] parser.p
  let text ← push 256 text 0
  match parser.nodes[elem]? with
  | none => .error .read
  | some node =>
      let copy ← strncpy node.text text 255
      return { parser with
        p, nodes := parser.nodes.modify elem fun node => { node with text := copy }, texts := parser.texts ++ [text] }

def createElement (kmalloc : Nat → Bool) (tagName : List UInt8) : Except Fault Parser :=
  let called := { parser with calls := parser.calls + 1 }
  if kmalloc parser.calls then do
    let elem := parser.nodes.length
    let tag ← htmlTagFromString tagName
    let created := { called with nodes := parser.nodes ++ [{ HtmlNode.create .element with tag }] }
    let added := created.addToTree elem
    if tag = .h1 ∨ tag = .p then added.extractText elem else return added
  else return called

/-- Behind a `<` that opens a tag. -/
def openTag (kmalloc : Nat → Bool) : Except Fault Parser := do
  let (tagName, p) ← copyUntil endsName 31 32 [] parser.p
  let tagName ← push 32 tagName 0
  let p ← skipUntil endsTag p
  let char ← peek p
  let p := if char = 0x3E then p.tail else p
  createElement { parser with p, tagNames := parser.tagNames ++ [tagName] } kmalloc tagName

/-- The loop over the string. -/
def parseLoop (kmalloc : Nat → Bool) : Nat → Parser → Except Fault Parser
  | 0, _ => .error .fuel
  | fuel + 1, parser => do
      let char ← peek parser.p
      if char = 0 then return parser
      else
        let next := { parser with p := parser.p.tail }
        if ← opensTag parser.p then
          let after ← next.openTag kmalloc
          parseLoop kmalloc fuel after
        else parseLoop kmalloc fuel next

end Parser

/-- `html_parse` gives no tree for no string, and when there is no memory for the root. -/
def htmlParse (kmalloc : Nat → Bool) (fuel : Nat) (htmlString : Option (List UInt8)) : Except Fault (Option Parser) :=
  match htmlString with
  | none => return none
  | some html =>
      if kmalloc 0 then do
        let root := { HtmlNode.create .element with tag := .html }
        let parser ← Parser.parseLoop kmalloc fuel ⟨html, [root], none, 1, [], []⟩
        return some parser
      else return none

end AutismOS.Browser
