import AutismOS.Browser.Boxes
import AutismOS.Browser.Rendering
import Mathlib.Algebra.Group.Nat.Defs

namespace AutismOS.Browser

open AutismOS.Library

/-- A page whose nodes, of 272 bytes each, stand in a memory of 32 bit addresses. -/
structure Document where
  elements : List Element
  fits : (elements.length + 1) * 272 ≤ 2 ^ 32

/-- The elements for which the calls of `kmalloc` succeed, the first of them for the tree. -/
def boxedElements (kmalloc : Nat → Bool) (call : Nat) (elements : List Element) : List Element :=
  if kmalloc call then
    (((elements.filter Element.hasBox).zipIdx (call + 1)).filter fun entry => kmalloc entry.2).map Prod.fst
  else []

/-- Where a box begins that has some others above it. -/
def topBelow (above : List Element) : Nat := 5 + (above.map fun element => (boxHeight element.tag).toNat + 5).sum

/-- The characters in a row of text. -/
def columns (width : UInt32) : Nat := (width.toNat - 10) / 7

/-- Every character that is not a space has room in the height of the box, or is cut off by the framebuffer
where it leaves the box. -/
def CharsFit (width : UInt32) (fb : Framebuffer) (top : Nat) (element : Element) : Prop :=
  ∀ index char, (visible (htmlTextMaxLen - 1) element.text)[index]? = some char → char ≠ 0x20 →
    9 * (index / columns width) + 8 ≤ (boxHeight element.tag).toNat ∨
      fb.height.toNat ≤ top + max (9 * (index / columns width)) (boxHeight element.tag).toNat ∨
      fb.width.toNat ≤ 5 + 7 * (index % columns width)

def LayoutBox.Contains (box : LayoutBox) (px py : UInt32) : Prop :=
  (box.x.toNat ≤ px.toNat ∧ px.toNat < box.x.toNat + box.width.toNat) ∧
    box.y.toNat ≤ py.toNat ∧ py.toNat < box.y.toNat + box.height.toNat

/-- The pixels that are painted for a box are its own. -/
structure StayInside (laid : PageHeap) (strokes : List Stroke) : Prop where
  inside : ∀ stroke ∈ strokes, ∃ box, readBox laid stroke.box = .ok box ∧ box.Contains stroke.px stroke.py
  apart : ∀ first ∈ strokes, ∀ second ∈ strokes, first.box ≠ second.box →
    (first.px, first.py) ≠ (second.px, second.py)

variable {kmalloc : Nat → Bool} {elements done rest : List Element} {element : Element} {placed above below : List Placed}
variable {item : Placed} {width total y px py : UInt32} {fb : Framebuffer} {calls number fuel index first top : Nat}

theorem place_elements : (place kmalloc calls y number elements).map Placed.element =
    (((elements.filter Element.hasBox).zipIdx calls).filter fun entry => kmalloc entry.2).map Prod.fst := by
  induction elements generalizing calls y number with
  | nil => rfl
  | cons element rest ih =>
      rw [place]
      by_cases boxed : element.hasBox = true
      · rw [if_pos boxed, List.filter_cons_of_pos boxed, List.zipIdx_cons, List.filter_cons]
        by_cases allocated : kmalloc calls = true
        · rw [if_pos allocated, if_pos allocated, List.map_cons, ih, List.map_cons]
        · rw [if_neg allocated, if_neg allocated, ih]
      · rw [if_neg boxed, List.filter_cons_of_neg boxed, ih]

theorem place_y (here : (place kmalloc calls y number elements)[index]? = some item) :
    item.y = columnEnd y ((place kmalloc calls y number elements).take index) := by
  induction elements generalizing calls y number index with
  | nil => cases here
  | cons element rest ih =>
      rcases @place_cons kmalloc rest element y calls number with placed | ⟨later, skipped⟩
      · rw [placed] at here ⊢
        cases index with
        | zero =>
            cases here
            rfl
        | succ index => exact ih here
      · rw [skipped] at here ⊢
        exact ih here

theorem boxHeight_le (tag : Tag) : (boxHeight tag).toNat ≤ 20 := by
  cases tag <;> decide

theorem toNat_columnEnd (small : y.toNat + 25 * placed.length < 2 ^ 32) : (columnEnd y placed).toNat =
    y.toNat + ((placed.map Placed.element).map fun element => (boxHeight element.tag).toNat + 5).sum := by
  induction placed generalizing y with
  | nil => rfl
  | cons item rest ih =>
      have height := boxHeight_le item.element.tag
      have five : (5 : UInt32).toNat = 5 := rfl
      rw [List.length_cons] at small
      have step : (y + (boxHeight item.element.tag + 5)).toNat = y.toNat + ((boxHeight item.element.tag).toNat + 5) := by
        rw [UInt32.toNat_add, UInt32.toNat_add, five]
        omega
      have later := @ih (y + (boxHeight item.element.tag + 5)) (by omega)
      rw [step] at later
      rw [List.map_cons, List.map_cons, List.sum_cons, ← Nat.add_assoc]
      exact later

theorem topBelow_add (here : elements[index]? = some element) (less : index < number) :
    topBelow (elements.take index) + (boxHeight element.tag).toNat + 5 ≤ topBelow (elements.take number) := by
  obtain ⟨inside, rfl⟩ := List.getElem?_eq_some_iff.mp here
  have split : elements.take number = elements.take index ++ elements[index] :: (elements.take number).drop (index + 1) := by
    have cut := (List.take_append_drop (index + 1) (elements.take number)).symm
    rwa [List.take_take, Nat.min_eq_left less, List.take_succ_eq_append_getElem inside, List.append_assoc,
      List.singleton_append] at cut
  rw [split, topBelow, topBelow, List.map_append, List.map_cons, List.sum_append, List.sum_cons]
  omega

theorem topBelow_le : topBelow elements ≤ 5 + 25 * elements.length := by
  induction elements with
  | nil => decide
  | cons element rest ih =>
      have height := boxHeight_le element.tag
      rw [topBelow] at ih ⊢
      rw [List.map_cons, List.sum_cons, List.length_cons]
      omega

/-- No box begins so far down that the coordinates of its text would overflow. -/
theorem item_top (document : Document) (isPlaced : place kmalloc calls 5 1 document.elements = placed)
    (here : placed[index]? = some item) :
    item.y.toNat = topBelow ((placed.map Placed.element).take index) ∧ item.y.toNat + 3000 < 2 ^ 32 := by
  subst isPlaced
  have fits := document.fits
  have few : (place kmalloc calls 5 1 document.elements).length ≤ document.elements.length := length_place_le
  have above := List.length_take_le' index (place kmalloc calls 5 1 document.elements)
  have five : (5 : UInt32).toNat = 5 := rfl
  have column := @toNat_columnEnd ((place kmalloc calls 5 1 document.elements).take index) 5 (by omega)
  have bounded := @topBelow_le (((place kmalloc calls 5 1 document.elements).map Placed.element).take index)
  rw [← place_y here, List.map_take] at column
  rw [List.length_take, List.length_map] at bounded
  have same : item.y.toNat = topBelow _ := column
  rw [← same] at bounded
  exact ⟨same, by omega⟩

/-- The pixels of a placed element's text. -/
def Painted (fb : Framebuffer) (width : UInt32) (item : Placed) (px py : UInt32) : Prop :=
  ∃ index char, (visible (htmlTextMaxLen - 1) item.element.text)[index]? = some char ∧ char ≠ 0x20 ∧
    (px, py) ∈ renderChar fb (charX (columns width) index) (charY (columns width) item.y.toNat index)

theorem columns_pos (wide : 17 ≤ width.toNat) : 0 < columns width := Nat.div_pos (by omega) (by decide)

theorem toNat_width (wide : 17 ≤ width.toNat) : (width - 10).toNat = width.toNat - 10 :=
  UInt32.toNat_sub_of_le _ _ (Nat.le_trans (by decide : 10 ≤ 17) wide)

theorem renderText_ends {box : LayoutBox} {text : List UInt8} {left : Nat} {x y : UInt32} (ends : text.headD 0 = 0) :
    renderText fb box left text x y = [] := by
  cases left with
  | zero => rfl
  | succ left =>
      cases text with
      | nil => rfl
      | cons char rest => exact if_pos ends

theorem mem_renderBox {next sibling : Option Nat} (wide : 17 ≤ width.toNat) :
    (∃ color, Stroke.mk index px py color ∈ renderBox fb number (item.box width next) (item.element.node sibling)) ↔
      index = number ∧ Painted fb width item px py := by
  have bounded := width.toNat_lt
  have fits : (item.box width next).width.toNat + 5 < 2 ^ 32 := by
    rw [Placed.box, toNat_width wide]
    omega
  have start := @mem_renderText fb (item.box width next) px py (columns width) item.y.toNat (htmlTextMaxLen - 1) 0
    item.element.text (columns_pos wide) (congrArg (· / 7) (toNat_width wide)) rfl fits rfl
  have column : charX (columns width) 0 = 5 := by
    rw [charX, Nat.zero_mod]
    rfl
  have row : charY (columns width) item.y.toNat 0 = item.y := by
    rw [charY, Nat.zero_div, Nat.mul_zero, Nat.add_zero, UInt32.ofNat_toNat]
  simp only [column, row, Nat.zero_add] at start
  rw [Painted, ← start]
  by_cases ends : item.element.text.headD 0 = 0
  · have nothing : renderBox fb number (item.box width next) (item.element.node sibling) = [] := if_neg (not_not_intro ends)
    rw [renderText_ends ends, nothing]
    simp
  · have something : renderBox fb number (item.box width next) (item.element.node sibling) =
        (renderText fb (item.box width next) (htmlTextMaxLen - 1) item.element.text 5 item.y).map fun pixel =>
          ⟨number, pixel.1, pixel.2, if item.element.tag = .h1 then 0x0000FF else 0x000000⟩ := if_pos ends
    rw [something]
    simp only [List.mem_map, Stroke.mk.injEq, Prod.exists]
    constructor
    · rintro ⟨color, column, row, painted, rfl, rfl, rfl, _⟩
      exact ⟨rfl, painted⟩
    · rintro ⟨rfl, painted⟩
      exact ⟨_, px, py, painted, rfl, rfl, rfl, rfl⟩

def strokesOf (fb : Framebuffer) (width : UInt32) (first : Nat) : List Placed → List Stroke
  | [] => []
  | item :: rest =>
      renderBox fb first (item.box width (Objects.headOf (first + 1) rest)) (item.element.node none) ++
        strokesOf fb width (first + 1) rest

theorem mem_strokesOf (wide : 17 ≤ width.toNat) :
    (∃ color, Stroke.mk number px py color ∈ strokesOf fb width first placed) ↔
      ∃ index item, placed[index]? = some item ∧ number = first + index ∧ Painted fb width item px py := by
  induction placed generalizing first with
  | nil =>
      rw [strokesOf]
      simp
  | cons item rest ih =>
      simp only [strokesOf, List.mem_append, exists_or, mem_renderBox wide, ih]
      constructor
      · rintro (⟨rfl, painted⟩ | ⟨index, later, here, rfl, painted⟩)
        · exact ⟨0, item, rfl, rfl, painted⟩
        · exact ⟨index + 1, later, here, Nat.succ_add_eq_add_succ _ _, painted⟩
      · rintro ⟨index, other, here, rfl, painted⟩
        cases index with
        | zero =>
            cases here
            exact Or.inl ⟨rfl, painted⟩
        | succ index => exact Or.inr ⟨index, other, here, (Nat.succ_add_eq_add_succ _ _).symm, painted⟩

/-- Every box stands for an element of the page. -/
theorem place_read {others : List PageObject} {later : Nat} (split : elements = done ++ rest)
    (member : item ∈ place kmalloc calls y (done.length + 1) rest) :
    ∃ sibling, readNode (behindNodes elements others later) item.node = .ok (item.element.node sibling) := by
  induction rest generalizing done calls y with
  | nil => cases member
  | cons element rest ih =>
      have split' : elements = done ++ [element] ++ rest := by rw [split, List.append_assoc, List.singleton_append]
      have longer : (done ++ [element]).length = done.length + 1 := List.length_append
      have further {calls : Nat} {y : UInt32} := @ih (done ++ [element]) y calls split'
      rw [longer] at further
      rcases @place_cons kmalloc rest element y calls (done.length + 1) with placed | ⟨later, skipped⟩
      · rw [placed] at member
        rcases List.mem_cons.mp member with rfl | behind
        · rw [split]
          exact ⟨_, read_node tree_getElem⟩
        · exact further behind
      · rw [skipped] at member
        exact further member

theorem renderBoxes_eq (split : placed = above ++ below)
    (nodes : ∀ item ∈ placed, ∃ sibling, readNode (pageHeap elements width placed total calls) item.node =
      .ok (item.element.node sibling)) (enough : below.length < fuel) :
    renderBoxes fb (pageHeap elements width placed total calls) fuel
        (Objects.headOf (elements.length + 2 + above.length) below) =
      .ok (strokesOf fb width (elements.length + 2 + above.length) below) := by
  induction below generalizing above fuel with
  | nil =>
      obtain ⟨less, rfl⟩ := Nat.exists_eq_succ_of_ne_zero (Nat.ne_zero_of_lt enough)
      rfl
  | cons item rest ih =>
      obtain ⟨less, rfl⟩ := Nat.exists_eq_succ_of_ne_zero (Nat.ne_zero_of_lt enough)
      have split' : placed = above ++ [item] ++ rest := by rw [split, List.append_assoc, List.singleton_append]
      have longer : (above ++ [item]).length = above.length + 1 := List.length_append
      have later := @ih (above ++ [item]) less split' (Nat.lt_of_succ_lt_succ enough)
      rw [longer, ← Nat.add_assoc] at later
      obtain ⟨sibling, found⟩ := nodes item (by
        rw [split]
        exact List.mem_append_right _ List.mem_cons_self)
      have box := @readBox_placed elements width total placed calls above rest item split
      have node {next : Option Nat} : readNode (pageHeap elements width placed total calls) (item.box width next).node =
          .ok (item.element.node sibling) := found
      have behind : renderBoxes fb (pageHeap elements width placed total calls) less
          (item.box width (Objects.headOf (elements.length + 2 + above.length + 1) rest)).next = .ok _ := later
      rw [Objects.headOf, renderBoxes, box]
      simp only [bind, Except.bind, node, behind]
      rfl

theorem toNat_ofNat_add {base offset : Nat} (small : base + offset < 2 ^ 32) :
    (UInt32.ofNat base + UInt32.ofNat offset).toNat = base + offset := by
  rw [← UInt32.ofNat_add, UInt32.toNat_ofNat']
  exact Nat.mod_eq_of_lt small

theorem toNat_ofNat_below {count : Nat} {bound : UInt32} (below : count < bound.toNat) : (UInt32.ofNat count).toNat = count :=
  UInt32.toNat_ofNat_of_lt (Nat.lt_trans below bound.toNat_lt)

/-- The pixels of a character, as numbers. -/
theorem mem_character {cols : Nat} (few : index < htmlTextMaxLen - 1) (small : top + 3000 < 2 ^ 32) :
    (px, py) ∈ renderChar fb (charX cols index) (charY cols top index) ↔ ∃ dx < 6, ∃ dy < 8,
      px.toNat = 5 + 7 * (index % cols) + dx ∧ py.toNat = top + 9 * (index / cols) + dy ∧
        px.toNat < fb.width.toNat ∧ py.toNat < fb.height.toNat := by
  have column := Nat.mod_le index cols
  have row := Nat.div_le_self index cols
  have few' : index < 255 := few
  rw [mem_renderChar]
  refine exists_congr fun dx => and_congr_right fun inColumn => exists_congr fun dy => and_congr_right fun inRow => ?_
  rw [← UInt32.toNat_inj, ← UInt32.toNat_inj, charX, charY, toNat_ofNat_add (by omega), toNat_ofNat_add (by omega)]
  rfl

theorem lt_of_visible {limit : Nat} {text : List UInt8} {char : UInt8} (found : (visible limit text)[index]? = some char) :
    index < limit := by
  obtain ⟨inside, _⟩ := List.getElem?_eq_some_iff.mp found
  exact Nat.lt_of_lt_of_le inside (List.length_take_le _ _)

/-- The text of an element stays in its box when its characters fit. -/
theorem painted_inside_iff (wide : 17 ≤ width.toNat) (small : item.y.toNat + 3000 < 2 ^ 32) {next : Option Nat} :
    (∀ px py, Painted fb width item px py → (item.box width next).Contains px py) ↔
      CharsFit width fb item.y.toNat item.element := by
  have height := boxHeight_le item.element.tag
  have positive := columns_pos wide
  constructor
  · intro inside index char found shown
    have few := lt_of_visible found
    by_contra leaves
    rw [not_or, not_or, Nat.not_le, Nat.not_le, Nat.not_le] at leaves
    obtain ⟨long, shownBelow, shownRight⟩ := leaves
    -- The first of its pixels that is not in the box
    have lower : 9 * (index / columns width) + ((boxHeight item.element.tag).toNat - 9 * (index / columns width)) =
        max (9 * (index / columns width)) (boxHeight item.element.tag).toNat := by omega
    have isX : (UInt32.ofNat (5 + 7 * (index % columns width))).toNat = 5 + 7 * (index % columns width) :=
      toNat_ofNat_below shownRight
    have isY : (UInt32.ofNat (item.y.toNat + max (9 * (index / columns width)) (boxHeight item.element.tag).toNat)).toNat =
        item.y.toNat + max (9 * (index / columns width)) (boxHeight item.element.tag).toNat :=
      toNat_ofNat_below shownBelow
    have painted := (@mem_character _ _ fb index item.y.toNat (columns width) few small).mpr
      ⟨0, by decide, (boxHeight item.element.tag).toNat - 9 * (index / columns width), by omega, isX,
        by rw [isY, Nat.add_assoc, lower], by rwa [isX], by rwa [isY]⟩
    obtain ⟨_, _, below⟩ := inside _ _ ⟨index, char, found, shown, painted⟩
    have under : (UInt32.ofNat (item.y.toNat + max (9 * (index / columns width)) (boxHeight item.element.tag).toNat)).toNat <
        item.y.toNat + (boxHeight item.element.tag).toNat := below
    omega
  · rintro fits px py ⟨index, char, found, shown, painted⟩
    have inRow := Nat.mod_lt index positive
    obtain ⟨dx, inColumn, dy, inLine, isX, isY, left, above⟩ := (mem_character (lt_of_visible found) small).mp painted
    have x : 5 ≤ px.toNat ∧ px.toNat < 5 + (width.toNat - 10) := by
      rw [columns] at inRow isX
      omega
    rw [LayoutBox.Contains, Placed.box, toNat_width wide]
    refine ⟨x, ?_⟩
    have cut := fits index char found shown
    change item.y.toNat ≤ py.toNat ∧ py.toNat < item.y.toNat + (boxHeight item.element.tag).toNat
    omega

theorem readBox_getElem (here : placed[index]? = some item) : ∃ next,
    readBox (pageHeap elements width placed total calls) (elements.length + 2 + index) = .ok (item.box width next) := by
  obtain ⟨inside, isItem⟩ := List.getElem?_eq_some_iff.mp here
  have split : placed = placed.take index ++ item :: placed.drop (index + 1) := by
    rw [← isItem, ← List.drop_eq_getElem_cons inside, List.take_append_drop]
  have read := @readBox_placed elements width total placed calls _ _ _ split
  rw [List.length_take_of_le (Nat.le_of_lt inside)] at read
  exact ⟨_, read⟩

/-- No pixel is in two boxes. -/
theorem boxes_apart (document : Document) (isPlaced : place kmalloc calls 5 1 document.elements = placed)
    {other : Placed} {next next' : Option Nat} (less : index < number) (here : placed[index]? = some item)
    (later : placed[number]? = some other) (contains : (item.box width next).Contains px py) :
    ¬ (other.box width next').Contains px py := by
  have column := @topBelow_add (placed.map Placed.element) item.element number index
    (by rw [List.getElem?_map, here]; rfl) less
  rw [← (item_top document isPlaced here).1, ← (item_top document isPlaced later).1] at column
  have above : py.toNat < item.y.toNat + (boxHeight item.element.tag).toNat := contains.2.2
  rintro ⟨_, below, _⟩
  have below' : other.y.toNat ≤ py.toNat := below
  omega

/-- The text of an element stays in its box when its characters fit, whatever else is on the page. -/
theorem strokesOf_inside_iff (document : Document) (wide : 17 ≤ width.toNat)
    (isPlaced : place kmalloc calls 5 1 document.elements = placed) :
    StayInside (pageHeap document.elements width placed total number)
        (strokesOf fb width (document.elements.length + 2) placed) ↔
      ∀ index element, (placed.map Placed.element)[index]? = some element →
        CharsFit width fb (topBelow ((placed.map Placed.element).take index)) element := by
  have strokes {number : Nat} {px py : UInt32} :=
    @mem_strokesOf placed width px py fb number (document.elements.length + 2) wide
  constructor
  · intro stays index element isElement
    rw [List.getElem?_map, Option.map_eq_some_iff] at isElement
    obtain ⟨item, here, rfl⟩ := isElement
    obtain ⟨top, small⟩ := item_top document isPlaced here
    obtain ⟨next, read⟩ := @readBox_getElem document.elements placed item width total number index here
    rw [← top]
    refine (@painted_inside_iff _ _ _ wide small next).mp fun px py painted => ?_
    obtain ⟨color, member⟩ := strokes.mpr ⟨index, item, here, rfl, painted⟩
    obtain ⟨box, isBox, contains⟩ := stays.inside _ member
    cases isBox.symm.trans read
    exact contains
  · intro fit
    have inside {number : Nat} {px py color : UInt32}
        (member : Stroke.mk number px py color ∈ strokesOf fb width (document.elements.length + 2) placed) :
        ∃ index item, placed[index]? = some item ∧ number = document.elements.length + 2 + index ∧
          ∀ next, (item.box width next).Contains px py := by
      obtain ⟨index, item, here, rfl, painted⟩ := strokes.mp ⟨color, member⟩
      obtain ⟨top, small⟩ := item_top document isPlaced here
      have fits := fit index item.element (by rw [List.getElem?_map, here]; rfl)
      rw [← top] at fits
      exact ⟨index, item, here, rfl, fun next => (painted_inside_iff wide small).mpr fits px py painted⟩
    constructor
    · rintro ⟨number, px, py, color⟩ member
      obtain ⟨index, item, here, rfl, contains⟩ := inside member
      obtain ⟨next, read⟩ := readBox_getElem here
      exact ⟨_, read, contains next⟩
    · rintro ⟨number, px, py, color⟩ member ⟨number', px', py', color'⟩ member' other same
      obtain ⟨index, item, here, rfl, contains⟩ := inside member
      obtain ⟨index', item', here', rfl, contains'⟩ := inside member'
      obtain ⟨rfl, rfl⟩ := Prod.mk.inj same
      rcases Nat.lt_trichotomy index index' with less | rfl | more
      · exact boxes_apart document isPlaced less here here' (contains none) (contains' none)
      · exact other rfl
      · exact boxes_apart document isPlaced more here' here (contains' none) (contains none)

theorem render_laidOut (enough : elements.length < fuel) :
    layoutRenderToFramebuffer fuel (laidOut kmalloc elements width calls) (some (elements.length + 1)) fb =
      .ok ({ fb with
          pixels := (strokesOf fb width (elements.length + 2) (place kmalloc (calls + 1) 5 1 elements)).foldl fb.paint fb.cleared },
        strokesOf fb width (elements.length + 2) (place kmalloc (calls + 1) 5 1 elements)) := by
  have object : readTree (laidOut kmalloc elements width calls) (elements.length + 1) = _ := readTree_pageHeap
  have few : (place kmalloc (calls + 1) 5 1 elements).length ≤ elements.length := length_place_le
  have strokes := @renderBoxes_eq elements _ [] _ width (columnEnd 5 (place kmalloc (calls + 1) 5 1 elements)) fb
    (calls + 1 + boxCalls elements) fuel rfl
    (fun item member => @place_read kmalloc elements [] elements item 5 (calls + 1) _ _ rfl member)
    (Nat.lt_of_le_of_lt few enough)
  change renderBoxes fb (laidOut kmalloc elements width calls) fuel
    (Objects.headOf (elements.length + 2) (place kmalloc (calls + 1) 5 1 elements)) = .ok _ at strokes
  simp only [layoutRenderToFramebuffer, object, bind, Except.bind, strokes]
  rfl

/-- For every page the texts stay in their boxes just when every character fits in the height that layout gave the box. -/
theorem staysInside_iff (document : Document) (kmalloc : Nat → Bool) (calls : Nat) (width : UInt32) (fb : Framebuffer)
    (wide : 17 ≤ width.toNat) :
    ∃ tree laid after strokes, (∀ fuel, document.elements.length < fuel →
      layoutCreateTree kmalloc fuel (some 0) width (behindNodes document.elements [] calls) = .ok (tree, laid) ∧
      layoutRenderToFramebuffer fuel laid tree fb = .ok (after, strokes)) ∧
      (StayInside laid strokes ↔ ∀ index element,
        (boxedElements kmalloc calls document.elements)[index]? = some element →
          CharsFit width fb (topBelow ((boxedElements kmalloc calls document.elements).take index)) element) := by
  by_cases allocated : kmalloc calls = true
  · have boxed : boxedElements kmalloc calls document.elements =
        (place kmalloc (calls + 1) 5 1 document.elements).map Placed.element :=
      (if_pos allocated).trans place_elements.symm
    refine ⟨_, _, _, _, fun fuel enough => ⟨layoutCreateTree_eq allocated enough, render_laidOut enough⟩, ?_⟩
    rw [boxed]
    exact strokesOf_inside_iff document wide rfl
  · have nothing : boxedElements kmalloc calls document.elements = [] := if_neg allocated
    refine ⟨_, _, _, _, fun fuel enough => ⟨layoutCreateTree_failing allocated, rfl⟩, ?_⟩
    rw [nothing]
    constructor
    · rintro _ index element here
      cases here
    · rintro _
      exact ⟨fun stroke member => (List.not_mem_nil member).elim, fun first member => (List.not_mem_nil member).elim⟩

/-- A heading of three characters and a paragraph of two. -/
def headed : List Element := [⟨.h1, [0x41, 0x42, 0x43, 0]⟩, ⟨.p, [0x41, 0x42, 0]⟩]

/-- With two characters in a row the heading has two rows, for which its box has room. -/
theorem staysInside_single : ∃ tree laid after strokes, (∀ fuel, 2 < fuel →
      layoutCreateTree (fun _ => true) fuel (some 0) 24 (behindNodes headed [] 2) = .ok (tree, laid) ∧
      layoutRenderToFramebuffer fuel laid tree ⟨24, 60, fun _ => 0⟩ = .ok (after, strokes)) ∧ StayInside laid strokes := by
  obtain ⟨tree, laid, after, strokes, runs, stays⟩ :=
    staysInside_iff ⟨headed, by decide⟩ (fun _ => true) 2 24 ⟨24, 60, fun _ => 0⟩ (by decide)
  refine ⟨tree, laid, after, strokes, runs, stays.mpr fun index element here offset char found shown => Or.inl ?_⟩
  have two : columns 24 = 2 := rfl
  obtain ⟨inside, _⟩ := List.getElem?_eq_some_iff.mp found
  rw [two]
  match index, here with
  | 0, rfl =>
      have few : offset < 3 := inside
      have room : (boxHeight .h1).toNat = 20 := rfl
      dsimp only
      omega
  | 1, rfl =>
      have few : offset < 2 := inside
      have room : (boxHeight .p).toNat = 12 := rfl
      dsimp only
      omega

/-- The elements of `"<p>AAA<p>A"`. -/
def paragraphs : List Element := [⟨.p, [0x41, 0x41, 0x41] ++ List.replicate 253 0⟩, ⟨.p, [0x41] ++ List.replicate 255 0⟩]

set_option maxRecDepth 2000 in
theorem pageParse_paragraphs :
    pageParse (fun _ => true) 20 (some [0x3C, 0x70, 0x3E, 0x41, 0x41, 0x41, 0x3C, 0x70, 0x3E, 0x41, 0]) =
      .ok (some 0, behindNodes paragraphs [] 3) := rfl

/-- In a viewport of 17 pixels, with room for one character in a row, the third character of the first paragraph is
painted over the one of the second. -/
theorem paragraphs_overlap : ∃ parsed laid after strokes,
    pageParse (fun _ => true) 20 (some [0x3C, 0x70, 0x3E, 0x41, 0x41, 0x41, 0x3C, 0x70, 0x3E, 0x41, 0]) = .ok (some 0, parsed) ∧
      layoutCreateTree (fun _ => true) 20 (some 0) 17 parsed = .ok (some 3, laid) ∧
        layoutRenderToFramebuffer 20 laid (some 3) ⟨17, 40, fun _ => 0⟩ = .ok (after, strokes) ∧
          (∃ first ∈ strokes, ∃ second ∈ strokes, first.box ≠ second.box ∧ (first.px, first.py) = (second.px, second.py)) ∧
            ¬ StayInside laid strokes := by
  have wide : 17 ≤ (17 : UInt32).toNat := Nat.le_refl _
  have third : (5, 23) ∈ renderChar ⟨17, 40, fun _ => 0⟩ (charX (columns 17) 2) (charY (columns 17) 5 2) := by decide
  have only : (5, 23) ∈ renderChar ⟨17, 40, fun _ => 0⟩ (charX (columns 17) 0) (charY (columns 17) 22 0) := by decide
  have strokes {number : Nat} :=
    @mem_strokesOf (place (fun _ => true) 4 5 1 paragraphs) 17 5 23 ⟨17, 40, fun _ => 0⟩ number 4 wide
  obtain ⟨color, first⟩ := (@strokes 4).mpr
    ⟨0, _, rfl, rfl, 2, 0x41, rfl, by decide, third⟩
  obtain ⟨color', second⟩ := (@strokes 5).mpr
    ⟨1, _, rfl, rfl, 0, 0x41, rfl, by decide, only⟩
  have other : (4 : Nat) ≠ 5 := by decide
  refine ⟨_, _, _, _, pageParse_paragraphs, layoutCreateTree_eq rfl (by decide), render_laidOut (by decide),
    ⟨_, first, _, second, other, rfl⟩, fun stays => ?_⟩
  exact stays.apart _ first _ second other rfl

end AutismOS.Browser
