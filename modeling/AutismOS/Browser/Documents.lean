import AutismOS.Browser.Scans

namespace AutismOS.Browser

open AutismOS.Library
open AutismOS.Library.Scanning

/-! Documents of headings and paragraphs. -/

inductive Block where
  | h1
  | p

namespace Block

def tag : Block → Tag
  | .h1 => .h1
  | .p => .p

def name : Block → List UInt8
  | .h1 => [0x68, 0x31]
  | .p => [0x70]

end Block

/-- A block with its text, as the parser can take it. -/
structure Passage where
  block : Block
  text : List UInt8
  short : text.length ≤ 255
  plain : ∀ char ∈ text, char ≠ 0x3C ∧ char ≠ 0

/-- `<tag>text</tag>` -/
def Passage.markup (passage : Passage) : List UInt8 :=
  [0x3C] ++ passage.block.name ++ [0x3E] ++ passage.text ++ [0x3C, 0x2F] ++ passage.block.name ++ [0x3E]

def document (passages : List Passage) : List UInt8 := passages.flatMap Passage.markup

def Passage.element (passage : Passage) : Element := ⟨passage.block.tag, nodeText passage.text⟩

variable {kmalloc : Nat → Bool} {skipped rest : List UInt8} {scanned after : Scanned} {passage : Passage}
  {block : Block} {first : Nat}

theorem Block.tagOf_name : tagOf block.name = block.tag := by
  cases block with
  | h1 => rfl
  | p => rfl

theorem Block.isText : block.tag = .h1 ∨ block.tag = .p := by
  cases block with
  | h1 => exact .inl rfl
  | p => exact .inr rfl

theorem Block.nameOf_append : nameOf (block.name ++ 0x3E :: rest) = block.name := by
  cases block with
  | h1 => exact copied_append (List.forall_mem_cons.mpr ⟨rfl, List.forall_mem_singleton.mpr rfl⟩) rfl (by decide)
  | p => exact copied_append (List.forall_mem_singleton.mpr rfl) rfl (by decide)

theorem Block.name_head : ((block.name ++ rest).head? != some 0x2F) = true := by
  cases block with
  | h1 => rfl
  | p => rfl

theorem Block.name_plain : ∀ char ∈ block.name, char ≠ 0x3C ∧ char ≠ 0 := by
  cases block with
  | h1 => exact List.forall_mem_cons.mpr ⟨by decide, List.forall_mem_singleton.mpr (by decide)⟩
  | p => exact List.forall_mem_singleton.mpr (by decide)

theorem behindTag_append (named : nameOf (block.name ++ 0x3E :: rest) = block.name) :
    behindTag (block.name ++ 0x3E :: rest) = rest := by
  rw [behindTag, named, List.drop_left]
  rfl

theorem contentOf_append (passage : Passage) : contentOf (passage.text ++ 0x3C :: rest) = passage.text := by
  refine copied_append (fun char member => ?_) rfl passage.short
  obtain ⟨noTag, noEnd⟩ := passage.plain char member
  rw [endsText, decide_eq_false noEnd, decide_eq_false noTag]
  rfl

/-- What neither opens a tag nor ends the string is passed over. -/
theorem Scans.skip (plain : ∀ char ∈ skipped, char ≠ 0x3C ∧ char ≠ 0)
    (later : Scans kmalloc { scanned with text := rest } after) :
    Scans kmalloc { scanned with text := skipped ++ rest } after := by
  induction skipped with
  | nil => exact later
  | cons char skipped ih =>
      obtain ⟨noTag, noEnd⟩ := plain char List.mem_cons_self
      have closed : Scanned.opens { scanned with text := char :: skipped ++ rest } = false := by
        have other : (some char == some (0x3C : UInt8)) = false :=
          beq_eq_false_iff_ne.mpr fun same => noTag (Option.some.inj same)
        rw [Scanned.opens, List.cons_append, List.head?_cons, other, Bool.false_and]
      refine .next noEnd ?_
      rw [Scanned.next, closed, if_neg Bool.false_ne_true]
      exact ih fun other member => plain other (List.mem_cons_of_mem _ member)

/-- The element is found with its opening tag and its text. -/
theorem next_passage {elements : List Element} {calls : Nat} {tagNames texts : List (List UInt8)} :
    Scanned.next
        ⟨0x3C :: (passage.block.name ++ 0x3E :: (passage.text ++ 0x3C :: rest)), elements, calls, tagNames, texts⟩
        (fun _ => true) =
    ⟨0x3C :: rest, elements ++ [passage.element], calls + 1, tagNames ++ [passage.block.name ++ [0]],
      texts ++ [passage.text ++ [0]]⟩ := by
  have opened {more : List UInt8} : Scanned.opens
      ⟨0x3C :: (passage.block.name ++ more), elements, calls, tagNames, texts⟩ = true := Block.name_head
  have named := @Block.nameOf_append (passage.text ++ 0x3C :: rest) passage.block
  rw [Scanned.next, opened, if_pos rfl, List.tail_cons, Scanned.openTag]
  dsimp only
  rw [behindTag_append named, named, Scanned.createElement, if_pos rfl, Block.tagOf_name, if_pos Block.isText]
  dsimp only
  rw [contentOf_append, List.drop_left]
  rfl

theorem Scans.markup {elements : List Element} {calls : Nat} {tagNames texts : List (List UInt8)}
    (later : Scans (fun _ => true) ⟨rest, elements ++ [passage.element], calls + 1,
      tagNames ++ [passage.block.name ++ [0]], texts ++ [passage.text ++ [0]]⟩ after) :
    Scans (fun _ => true) ⟨passage.markup ++ rest, elements, calls, tagNames, texts⟩ after := by
  have split : passage.markup ++ rest = 0x3C :: (passage.block.name ++
      0x3E :: (passage.text ++ 0x3C :: ([0x2F] ++ passage.block.name ++ [0x3E] ++ rest))) := by
    simp only [Passage.markup, List.append_assoc, List.cons_append, List.nil_append]
  have opening : (0x3C : UInt8) ≠ 0 := by decide
  rw [split]
  refine .next opening ?_
  rw [next_passage]
  -- the closing tag opens nothing
  refine .next opening ?_
  refine @Scans.skip _ ([0x2F] ++ passage.block.name ++ [0x3E]) rest ⟨_, _, _, _, _⟩ after ?_ later
  refine List.forall_mem_append.mpr ⟨List.forall_mem_append.mpr ⟨?_, Block.name_plain⟩, ?_⟩
  · exact List.forall_mem_singleton.mpr (by decide)
  · exact List.forall_mem_singleton.mpr (by decide)

theorem exists_scans_document (passages : List Passage) (elements : List Element) (calls : Nat)
    (tagNames texts : List (List UInt8)) : ∃ after,
    Scans (fun _ => true) ⟨document passages, elements, calls, tagNames, texts⟩ after ∧
      after.elements = elements ++ passages.map Passage.element := by
  induction passages generalizing elements calls tagNames texts with
  | nil => exact ⟨_, .done rfl, (List.append_nil _).symm⟩
  | cons passage rest ih =>
      obtain ⟨after, scans, found⟩ := ih (elements ++ [passage.element]) (calls + 1)
        (tagNames ++ [passage.block.name ++ [0]]) (texts ++ [passage.text ++ [0]])
      refine ⟨after, scans.markup, ?_⟩
      rw [found, List.append_assoc]
      rfl

/-- What a node says about its element. -/
def HtmlNode.read (node : HtmlNode) : NodeType × Tag × List UInt8 := (node.type, node.tag, cString node.text)

theorem cString_nodeText (passage : Passage) : cString (nodeText passage.text) = passage.text := by
  have string : 0 ∉ passage.text := fun member => (passage.plain 0 member).2 rfl
  have whole : cString (passage.text ++ [0]) = passage.text := cString_append_zero.trans (cString_eq_self string)
  have copied : cString (nodeText passage.text) = cString (strncpy (passage.text ++ [0]) 255) := cString_append_zero
  rw [copied, cString_strncpy, whole, List.take_of_length_le passage.short]

theorem read_siblings (passages : List Passage) : (siblings first (passages.map Passage.element)).map HtmlNode.read =
    passages.map fun passage => (.element, passage.block.tag, passage.text) := by
  induction passages generalizing first with
  | nil => rfl
  | cons passage rest ih =>
      rw [List.map_cons, siblings, List.map_cons, ih, List.map_cons]
      refine congrArg (· :: _) ?_
      exact congrArg (fun text => (NodeType.element, passage.block.tag, text)) (cString_nodeText passage)

/-- A document gives a root whose children are its passages, in order and nothing else. -/
theorem htmlParse_document (passages : List Passage) : ∃ parser root children,
    (∀ fuel, (document passages).length < fuel →
      htmlParse (fun _ => true) fuel (some (document passages ++ [0])) = .ok (some parser)) ∧
    parser.nodes[0]? = some root ∧ root.type = .element ∧ root.tag = .html ∧
    Children parser.nodes root.firstChild children ∧
    children.map HtmlNode.read = passages.map fun passage => (.element, passage.block.tag, passage.text) := by
  obtain ⟨after, scans, found⟩ := exists_scans_document passages [] 1 [] []
  rw [List.nil_append] at found
  refine ⟨after.parser, _, siblings 1 after.elements, fun fuel enough => scans.parses rfl enough, rfl, rfl, rfl,
    children_tree, ?_⟩
  rw [found, read_siblings]

/-- `<h1>A b</h1><p></p><p>&</p>` -/
def shortDocument : List Passage :=
  [⟨.h1, [0x41, 0x20, 0x62], by decide, by simp⟩, ⟨.p, [], by decide, by simp⟩, ⟨.p, [0x26], by decide, by simp⟩]

theorem htmlParse_document_short : ∃ parser root children,
    (∀ fuel, 27 < fuel →
      htmlParse (fun _ => true) fuel (some (document shortDocument ++ [0])) = .ok (some parser)) ∧
    parser.nodes[0]? = some root ∧ root.type = .element ∧ root.tag = .html ∧
    Children parser.nodes root.firstChild children ∧
    children.map HtmlNode.read =
      [(.element, .h1, [0x41, 0x20, 0x62]), (.element, .p, []), (.element, .p, [0x26])] :=
  htmlParse_document shortDocument

end AutismOS.Browser
