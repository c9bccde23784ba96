import AutismOS.Browser.Elements

namespace AutismOS.Browser

open AutismOS.Library
open AutismOS.Library.Scanning

/-! # What the parser reads

The parser simulates a scan of the text alone, which has neither cursor nor nodes nor arrays.
-/

/-- A scan: what is left of the text, and what has been found. -/
structure Scanned where
  text : List UInt8
  elements : List Element
  calls : Nat
  tagNames : List (List UInt8)
  texts : List (List UInt8)

/-- The parser that has got as far. -/
def Scanned.parser (scanned : Scanned) : Parser where
  p := scanned.text ++ [0]
  nodes := tree scanned.elements
  lastChild := lastNumber scanned.elements
  calls := scanned.calls
  tagNames := scanned.tagNames
  texts := scanned.texts

def tagOf (name : List UInt8) : Tag :=
  if name = [0x68, 0x74, 0x6D, 0x6C] then .html
  else if name = [0x62, 0x6F, 0x64, 0x79] then .body
  else if name = [0x70] then .p
  else if name = [0x68, 0x31] then .h1
  else if name = [0x61] then .a
  else .unknown

def nodeText (content : List UInt8) : List UInt8 := Library.strncpy (content ++ [0]) 255 ++ [0]

def nameOf (text : List UInt8) : List UInt8 := copied endsName 31 text

/-- What is left behind the end of a tag. -/
def closeTag : List UInt8 → List UInt8
  | [] => []
  | char :: rest => if char = 0x3E then rest else char :: rest

def behindTag (text : List UInt8) : List UInt8 :=
  closeTag ((text.drop (nameOf text).length).dropWhile fun char => !endsTag char)

def contentOf (text : List UInt8) : List UInt8 := copied endsText 255 text

namespace Scanned

variable (scanned : Scanned)

def createElement (kmalloc : Nat → Bool) (name : List UInt8) : Scanned :=
  if kmalloc scanned.calls then
    if tagOf name = .h1 ∨ tagOf name = .p then
      { text := scanned.text.drop (contentOf scanned.text).length
        elements := scanned.elements ++ [⟨tagOf name, nodeText (contentOf scanned.text)⟩]
        calls := scanned.calls + 1
        tagNames := scanned.tagNames
        texts := scanned.texts ++ [contentOf scanned.text ++ [0]] }
    else
      { scanned with
        calls := scanned.calls + 1, elements := scanned.elements ++ [⟨tagOf name, List.replicate 256 0⟩] }
  else { scanned with calls := scanned.calls + 1 }

def openTag (kmalloc : Nat → Bool) : Scanned :=
  { scanned with
    text := behindTag scanned.text, tagNames := scanned.tagNames ++ [nameOf scanned.text ++ [0]] }.createElement
      kmalloc (nameOf scanned.text)

/-- A tag is opened where a `<` has no `/` behind it. -/
def opens : Bool := scanned.text.head? == some 0x3C && scanned.text.tail.head? != some 0x2F

/-- One turn of the loop. -/
def next (kmalloc : Nat → Bool) : Scanned :=
  let passed := { scanned with text := scanned.text.tail }
  if scanned.opens then passed.openTag kmalloc else passed

end Scanned

/-- The whole loop. -/
inductive Scans (kmalloc : Nat → Bool) : Scanned → Scanned → Prop
  | done {scanned : Scanned} (ends : scanned.text.headD 0 = 0) : Scans kmalloc scanned scanned
  | next {scanned after : Scanned} (goes : scanned.text.headD 0 ≠ 0)
      (later : Scans kmalloc (scanned.next kmalloc) after) : Scans kmalloc scanned after

variable {kmalloc : Nat → Bool} {name text rest : List UInt8} {scanned : Scanned} {char : UInt8} {fuel : Nat}

theorem name_string (member : char ∈ nameOf text) : char ≠ 0 := by
  rintro rfl
  cases stops_copied member

/-- Comparing a name with a literal decides whether they are the same. -/
theorem strcmp_branch {chars : List UInt8} {first second : Except Fault Tag} (string : 0 ∉ name) (plain : 0 ∉ chars) :
    (do if (← strcmp (name ++ [0]) (literal chars)) = 0 then first else second) =
      if name = chars then first else second := by
  have ends {bytes : List UInt8} : 0 ∈ bytes ++ [0] := List.mem_append_right _ List.mem_cons_self
  have itself {bytes : List UInt8} (string : 0 ∉ bytes) : cString (bytes ++ [0]) = bytes :=
    cString_append_zero.trans (cString_eq_self string)
  rw [literal, strcmp_eq ends ends, itself string, itself plain]
  by_cases same : name = chars
  · rw [if_pos same, if_pos same]
    rfl
  · rw [if_neg same, if_neg same]
    rfl

theorem htmlTagFromString_eq (string : 0 ∉ name) : htmlTagFromString (name ++ [0]) = .ok (tagOf name) := by
  rw [htmlTagFromString, strcmp_branch string (by decide), strcmp_branch string (by decide),
    strcmp_branch string (by decide), strcmp_branch string (by decide), strcmp_branch string (by decide), tagOf]
  simp only [apply_ite Except.ok]
  rfl

theorem extractText_eq {element filled : Element} {elements : List Element} {calls : Nat}
    {tagNames texts : List (List UInt8)} (room : 255 ≤ element.text.length)
    (isFilled : filled = { element with
      text := Library.strncpy (contentOf text ++ [0]) 255 ++ element.text.drop 255 }) :
    (Parser.mk (text ++ [0]) (tree (elements ++ [element])) (lastNumber (elements ++ [element])) calls tagNames
      texts).extractText (elements.length + 1) =
      .ok ⟨text.drop (contentOf text).length ++ [0], tree (elements ++ [filled]), lastNumber (elements ++ [filled]),
        calls, tagNames, texts ++ [contentOf text ++ [0]]⟩ := by
  have read : copyUntil endsText 255 256 [] (text ++ [0]) =
      .ok (contentOf text, text.drop (contentOf text).length ++ [0]) :=
    @copyUntil_eq endsText 255 256 [] text rfl (by decide) (by decide)
  have short : (contentOf text).length < 256 := Nat.lt_succ_of_le length_copied
  have terminated : 0 ∈ contentOf text ++ [0] := List.mem_append_right _ List.mem_cons_self
  rw [Parser.extractText, read]
  change (push 256 (contentOf text) 0 >>= _) = _
  rw [push_room short]
  dsimp only [bind, Except.bind]
  rw [tree_last]
  dsimp only [Element.node]
  rw [strncpy_eq room terminated]
  change Except.ok _ = _
  rw [tree_text, isFilled, lastNumber_concat, lastNumber_concat]

theorem createElement_eq (string : 0 ∉ name) :
    scanned.parser.createElement kmalloc (name ++ [0]) = .ok (scanned.createElement kmalloc name).parser := by
  have isNext : scanned.parser.nodes.length = scanned.elements.length + 1 := length_tree
  have isCall : scanned.parser.calls = scanned.calls := rfl
  rw [Parser.createElement, Scanned.createElement, isCall]
  by_cases allocated : kmalloc scanned.calls = true
  · rw [if_pos allocated, if_pos allocated, htmlTagFromString_eq string, isNext]
    have added := @addToTree_tree ⟨tagOf name, List.replicate 256 0⟩ scanned.elements
      { scanned.parser with
        nodes := scanned.parser.nodes ++ [{ HtmlNode.create .element with tag := tagOf name }]
        calls := scanned.calls + 1 }
      rfl rfl
    change (if tagOf name = .h1 ∨ tagOf name = .p then Parser.extractText (Parser.addToTree _ _) _ else
      Except.ok (Parser.addToTree _ _)) = _
    rw [added]
    by_cases hasText : tagOf name = .h1 ∨ tagOf name = .p
    · rw [if_pos hasText, if_pos hasText]
      have room : 255 ≤ (List.replicate 256 (0 : UInt8)).length := by
        rw [List.length_replicate]
        decide
      refine extractText_eq room ?_
      rw [List.drop_replicate]
      rfl
    · rw [if_neg hasText, if_neg hasText]
      rfl
  · rw [if_neg allocated, if_neg allocated]
    rfl

theorem openTag_eq : scanned.parser.openTag kmalloc = .ok (scanned.openTag kmalloc).parser := by
  have read : copyUntil endsName 31 32 [] scanned.parser.p =
      .ok (nameOf scanned.text, scanned.text.drop (nameOf scanned.text).length ++ [0]) :=
    @copyUntil_eq endsName 31 32 [] scanned.text rfl (by decide) (by decide)
  have short : (nameOf scanned.text).length < 32 := Nat.lt_succ_of_le length_copied
  have string : 0 ∉ nameOf scanned.text := fun member => name_string member rfl
  rw [Parser.openTag, read]
  change (push 32 (nameOf scanned.text) 0 >>= _) = _
  rw [push_room short]
  change (skipUntil endsTag (scanned.text.drop (nameOf scanned.text).length ++ [0]) >>= _) = _
  rw [skipUntil_eq rfl, Scanned.openTag, behindTag]
  cases (scanned.text.drop (nameOf scanned.text).length).dropWhile fun char => !endsTag char with
  | nil => exact @createElement_eq _ _ { scanned with text := [], tagNames := _ } string
  | cons char rest =>
      rw [closeTag]
      by_cases closes : char = 0x3E
      · rw [if_pos closes]
        rw [closes]
        exact @createElement_eq _ _ { scanned with text := rest, tagNames := _ } string
      · rw [if_neg closes]
        refine Eq.trans ?_ (@createElement_eq _ _ { scanned with text := char :: rest, tagNames := _ } string)
        change Parser.createElement { scanned.parser with p := if char = 0x3E then _ else _, tagNames := _ } kmalloc _ = _
        rw [if_neg closes]
        rfl

theorem opensTag_eq : opensTag scanned.parser.p = .ok scanned.opens := by
  rw [Scanned.parser, Scanned.opens]
  cases scanned.text with
  | nil => rfl
  | cons char rest =>
      by_cases opens : char = 0x3C
      · rw [opens]
        cases rest with
        | nil => rfl
        | cons next later => rfl
      · have other : (some char == some (0x3C : UInt8)) = false := by
          rw [beq_eq_false_iff_ne]
          exact fun same => opens (Option.some.inj same)
        rw [List.head?_cons, other, Bool.false_and]
        exact if_neg opens

theorem parseLoop_done (ends : scanned.text.headD 0 = 0) :
    scanned.parser.parseLoop kmalloc (fuel + 1) = .ok scanned.parser := by
  obtain ⟨text, elements, calls, tagNames, texts⟩ := scanned
  cases text with
  | nil => rfl
  | cons char rest => exact if_pos ends

theorem parseLoop_next (goes : scanned.text.headD 0 ≠ 0) : scanned.parser.parseLoop kmalloc (fuel + 1) =
    (scanned.next kmalloc).parser.parseLoop kmalloc fuel := by
  obtain ⟨text, elements, calls, tagNames, texts⟩ := scanned
  cases text with
  | nil => exact absurd rfl goes
  | cons char rest =>
      have turn := @opensTag_eq ⟨char :: rest, elements, calls, tagNames, texts⟩
      refine (if_neg goes).trans ?_
      rw [turn, Scanned.next]
      cases Scanned.opens _ with
      | true =>
          have opened := @openTag_eq kmalloc ⟨rest, elements, calls, tagNames, texts⟩
          exact congrArg (fun opened => opened >>= fun after => Parser.parseLoop kmalloc fuel after) opened
      | false => rfl

theorem length_closeTag : (closeTag text).length ≤ text.length := by
  cases text with
  | nil => exact Nat.le_refl _
  | cons char rest =>
      rw [closeTag]
      split
      · exact Nat.le_succ _
      · exact Nat.le_refl _

theorem length_createElement : (scanned.createElement kmalloc name).text.length ≤ scanned.text.length := by
  rw [Scanned.createElement]
  split
  · split
    · exact (List.drop_sublist _ _).length_le
    · exact Nat.le_refl _
  · exact Nat.le_refl _

theorem length_openTag : (scanned.openTag kmalloc).text.length ≤ scanned.text.length :=
  calc (scanned.openTag kmalloc).text.length
      ≤ (behindTag scanned.text).length := length_createElement
    _ ≤ ((scanned.text.drop (nameOf scanned.text).length).dropWhile fun char => !endsTag char).length := length_closeTag
    _ ≤ (scanned.text.drop (nameOf scanned.text).length).length := (List.dropWhile_sublist _).length_le
    _ ≤ scanned.text.length := (List.drop_sublist _ _).length_le

theorem length_next (goes : scanned.text.headD 0 ≠ 0) : (scanned.next kmalloc).text.length < scanned.text.length := by
  obtain ⟨text, elements, calls, tagNames, texts⟩ := scanned
  cases text with
  | nil => exact absurd rfl goes
  | cons char rest =>
      rw [Scanned.next]
      split
      · exact Nat.lt_succ_of_le (@length_openTag kmalloc ⟨rest, elements, calls, tagNames, texts⟩)
      · exact Nat.lt_succ_self _

/-- There is an end of the loop. -/
theorem exists_scans (kmalloc : Nat → Bool) (scanned : Scanned) : ∃ after, Scans kmalloc scanned after := by
  by_cases ends : scanned.text.headD 0 = 0
  · exact ⟨scanned, .done ends⟩
  · obtain ⟨after, scans⟩ := exists_scans kmalloc (scanned.next kmalloc)
    exact ⟨after, .next ends scans⟩
termination_by scanned.text.length
decreasing_by exact length_next ends

/-- The parser does not fault, and ends where the scan does. -/
theorem Scans.loop {after : Scanned} (scans : Scans kmalloc scanned after) (enough : scanned.text.length < fuel) :
    scanned.parser.parseLoop kmalloc fuel = .ok after.parser := by
  induction scans generalizing fuel with
  | done ends =>
      obtain ⟨less, rfl⟩ := Nat.exists_eq_succ_of_ne_zero (Nat.ne_zero_of_lt enough)
      exact parseLoop_done ends
  | next goes _ ih =>
      obtain ⟨less, rfl⟩ := Nat.exists_eq_succ_of_ne_zero (Nat.ne_zero_of_lt enough)
      rw [Nat.succ_eq_add_one, parseLoop_next goes]
      exact ih (Nat.lt_of_lt_of_le (length_next goes) (Nat.le_of_lt_succ enough))

def Scanned.start (html : List UInt8) : Scanned := ⟨html, [], 1, [], []⟩

/-- The parser gives the tree that the scan of the string finds. -/
theorem Scans.parses {html : List UInt8} {after : Scanned} (scans : Scans kmalloc (.start html) after)
    (allocated : kmalloc 0 = true) (enough : html.length < fuel) :
    htmlParse kmalloc fuel (some (html ++ [0])) = .ok (some after.parser) := by
  have parsed := scans.loop enough
  have begun : htmlParse kmalloc fuel (some (html ++ [0])) =
      (Parser.parseLoop kmalloc fuel (Scanned.start html).parser >>= fun parser => .ok (some parser)) := if_pos allocated
  rw [begun, parsed]
  rfl

end AutismOS.Browser

namespace AutismOS.Browser

open AutismOS.Library
open AutismOS.Library.Scanning

/-- An array of that size holds a string. -/
def HoldsString (size : Nat) (array : List UInt8) : Prop := array.length ≤ size ∧ 0 ∈ array

/-- All arrays that the parser has written hold strings. -/
structure Terminated (parser : Parser) : Prop where
  tagNames : ∀ tagName ∈ parser.tagNames, HoldsString 32 tagName
  texts : ∀ text ∈ parser.texts, HoldsString 256 text
  nodes : ∀ node ∈ parser.nodes, HoldsString 256 node.text

variable {kmalloc : Nat → Bool} {name text : List UInt8} {scanned after : Scanned} {elements : List Element}
  {first size : Nat}

theorem holdsString_concat (room : text.length < size) : HoldsString size (text ++ [0]) := by
  refine ⟨?_, List.mem_append_right _ List.mem_cons_self⟩
  rw [List.length_append, List.length_singleton]
  exact room

theorem holdsString_nodeText : HoldsString 256 (nodeText text) := by
  refine holdsString_concat ?_
  rw [length_strncpy]
  decide

theorem holdsString_zeros : HoldsString 256 (List.replicate 256 0) := by
  refine ⟨Nat.le_of_eq List.length_replicate, ?_⟩
  exact List.mem_replicate.mpr ⟨by decide, rfl⟩

/-- The same for a scan. -/
structure Sound (scanned : Scanned) : Prop where
  tagNames : ∀ tagName ∈ scanned.tagNames, HoldsString 32 tagName
  texts : ∀ text ∈ scanned.texts, HoldsString 256 text
  elements : ∀ element ∈ scanned.elements, HoldsString 256 element.text

theorem mem_siblings {node : HtmlNode} (member : node ∈ siblings first elements) :
    ∃ element ∈ elements, element.text = node.text := by
  induction elements generalizing first with
  | nil => cases member
  | cons element rest ih =>
      rcases List.mem_cons.mp member with same | later
      · exact ⟨element, List.mem_cons_self, by rw [same]; rfl⟩
      · obtain ⟨other, inside, sameText⟩ := ih later
        exact ⟨other, List.mem_cons_of_mem _ inside, sameText⟩

theorem Sound.terminated (sound : Sound scanned) : Terminated scanned.parser where
  tagNames := sound.tagNames
  texts := sound.texts
  nodes := by
    intro node member
    rcases List.mem_cons.mp member with root | child
    · rw [root]
      exact holdsString_zeros
    · obtain ⟨element, inside, sameText⟩ := mem_siblings child
      rw [← sameText]
      exact sound.elements element inside

theorem forall_mem_concat {α : Type} {holds : α → Prop} {front : List α} {last : α}
    (all : ∀ entry ∈ front, holds entry) (atLast : holds last) : ∀ entry ∈ front ++ [last], holds entry :=
  List.forall_mem_append.mpr ⟨all, List.forall_mem_singleton.mpr atLast⟩

theorem Sound.createElement (sound : Sound scanned) : Sound (scanned.createElement kmalloc name) := by
  have short : (contentOf scanned.text).length < 256 := Nat.lt_succ_of_le length_copied
  rw [Scanned.createElement]
  split
  · split
    · exact ⟨sound.tagNames, forall_mem_concat sound.texts (holdsString_concat short),
        forall_mem_concat sound.elements holdsString_nodeText⟩
    · exact ⟨sound.tagNames, sound.texts, forall_mem_concat sound.elements holdsString_zeros⟩
  · exact ⟨sound.tagNames, sound.texts, sound.elements⟩

theorem Sound.openTag (sound : Sound scanned) : Sound (scanned.openTag kmalloc) := by
  have short : (nameOf scanned.text).length < 32 := Nat.lt_succ_of_le length_copied
  refine Sound.createElement ?_
  exact ⟨forall_mem_concat sound.tagNames (holdsString_concat short), sound.texts, sound.elements⟩

theorem Sound.next (sound : Sound scanned) : Sound (scanned.next kmalloc) := by
  have passed : Sound { scanned with text := scanned.text.tail } := ⟨sound.tagNames, sound.texts, sound.elements⟩
  rw [Scanned.next]
  split
  · exact passed.openTag
  · exact passed

theorem Sound.scans (sound : Sound scanned) (scans : Scans kmalloc scanned after) : Sound after := by
  induction scans with
  | done _ => exact sound
  | next _ _ ih => exact ih sound.next

theorem sound_start (html : List UInt8) : Sound (.start html) := ⟨nofun, nofun, nofun⟩

/-- The parser comes to an end in the string, without a fault, and leaves all its arrays terminated: with any
number of turns that is greater than the length, and whatever allocations fail. -/
theorem htmlParse_robust (kmalloc : Nat → Bool) (html : List UInt8) : ∃ result,
    (∀ fuel, html.length < fuel → htmlParse kmalloc fuel (some (html ++ [0])) = .ok result) ∧
      ∀ parser, result = some parser → Terminated parser := by
  by_cases allocated : kmalloc 0 = true
  · obtain ⟨after, scans⟩ := exists_scans kmalloc (.start html)
    refine ⟨some after.parser, fun fuel enough => scans.parses allocated enough, ?_⟩
    intro parser same
    cases same
    exact ((sound_start html).scans scans).terminated
  · refine ⟨none, fun fuel _ => if_neg allocated, ?_⟩
    intro parser same
    cases same

end AutismOS.Browser
