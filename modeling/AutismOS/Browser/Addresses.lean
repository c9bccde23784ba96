import AutismOS.Library.TextBuffers
import AutismOS.Network.DottedQuads

namespace AutismOS.Browser

open AutismOS.Library AutismOS.Network

/-! # The address bar

`apps/browser.c`.  A window has its state, and what is drawn is left out.  An `int` that overflows wraps
around, which only a number of ten digits or more does.  `tcp_test_connection` is a parameter: it gets an
address and the world, and returns its result and the world afterwards.
-/

def browserUrlMax : Nat := 128

def ascii (text : String) : List UInt8 := text.toList.map fun char => UInt8.ofNat char.toNat

def enterIp : List UInt8 := ascii "Enter IP and press Enter"

def invalidIp : List UInt8 := ascii "Invalid IP address"

def ready : List UInt8 :=
  ascii "Ready to connect.\n\nPress 'c' to test TCP\nPress 'p' to ping\n\n" ++
    ascii "Note: QEMU only routes to:\n10.0.2.2 (gateway)\n10.0.2.3 (DNS)"

def pinging : List UInt8 := ascii "Pinging..."

def pingHelp : List UInt8 :=
  ascii "ICMP ping in QEMU SLIRP\nonly works for:\n\n10.0.2.2 (gateway)\n10.0.2.3 (DNS)\n10.0.2.15 (this VM)"

/-- The status and the content after a test. -/
def verdict (result : Int) : List UInt8 × List UInt8 :=
  if 0 < result then
    (ascii "TCP: Connected!", ascii "HTTP connection successful!\n\nServer responded on port 80.")
  else if result = 0 then
    (ascii "TCP: No response", ascii "Connected but no HTTP response.\n\nServer may not have HTTP.")
  else (ascii "TCP: Failed", ascii "Could not connect to server.\n\nCheck the IP address.")

/-- The loop over the URL, and the octet behind it. -/
def browserOctets (octets : List Nat) (val : Nat) : List UInt8 → Except Fault (List Nat)
  | [] => .error .read
  | char :: rest =>
      if char ≠ 0 ∧ octets.length < 4 then
        if isDigit char then browserOctets octets ((val * 10 + digitValue char) % 2 ^ 32) rest
        else if char = 0x2E then browserOctets (octets ++ [val % 2 ^ 8]) 0 rest
        else browserOctets octets val rest
      else .ok (if octets.length < 4 then octets ++ [val % 2 ^ 8] else octets)

/-- `octets[o]`, where the array starts with zeros -/
def fourOctets (octets : List Nat) : List Nat := (List.range 4).map (octets.getD · 0)

/-- The first octet is the high byte. -/
def browserIp (octets : List Nat) : Nat :=
  Host.address (octets.getD 3 0) (octets.getD 2 0) (octets.getD 1 0) (octets.getD 0 0)

def octetText (octet : Nat) : List UInt8 :=
  if 100 ≤ octet then
    [UInt8.ofNat (0x30 + octet / 100), UInt8.ofNat (0x30 + octet % 100 / 10), UInt8.ofNat (0x30 + octet % 100 % 10)]
  else if 10 ≤ octet then [UInt8.ofNat (0x30 + octet / 10), UInt8.ofNat (0x30 + octet % 10)]
  else [UInt8.ofNat (0x30 + octet)]

/-- `IP: ` and the octets, with dots between them -/
def ipText (octets : List Nat) : List UInt8 :=
  ascii "IP: " ++ List.intercalate [dotChar] ((fourOctets octets).map octetText)

/-- `browser_state_t` -/
structure BrowserState where
  url : CharArray browserUrlMax
  loading : Bool
  connected : Bool
  status : CharArray 64
  content : CharArray 512

namespace BrowserState

variable (state : BrowserState)

/-- What `get_browser_state` makes of an entry of `browser_states`, while there is one left; the later calls return it -/
def getBrowserState : Except Fault BrowserState := do
  let url ← state.url.memset 0 browserUrlMax
  let status ← state.status.memset 0 64
  let content ← state.content.memset 0 512
  let url ← url.strncpy (ascii "10.0.2.2" ++ [0]) (browserUrlMax - 1)
  let status ← status.strncpy (enterIp ++ [0]) (64 - 1)
  return { url, loading := false, connected := false, status, content }

/-- A status and a content are copied. -/
def report (status content : List UInt8) : Except Fault BrowserState := do
  let status ← state.status.strncpy (status ++ [0]) (64 - 1)
  let content ← state.content.strncpy (content ++ [0]) (512 - 1)
  return { state with status, content }

def browserConnect : Except Fault BrowserState := do
  let first ← Scanning.peek state.url.bytes
  if first = 0 then return state
  let state := { state with loading := false, connected := false }
  let octets ← browserOctets [] 0 state.url.bytes
  if browserIp octets = 0 then
    let status ← state.status.strncpy (invalidIp ++ [0]) (64 - 1)
    return { state with status }
  let (status, pos) ← (ipText octets).foldlM CharArray.push (state.status, 0)
  let status ← status.store pos 0
  let content ← state.content.strncpy (ready ++ [0]) (512 - 1)
  return { state with status, content, connected := true }

end BrowserState

section World

variable {World : Type} (test : Nat → World → Int × World)

namespace BrowserState

/-- The key `c` of a connected window -/
def testTcp (state : BrowserState) (world : World) : Except Fault (BrowserState × World) := do
  let status ← state.status.strncpy (ascii "Testing TCP..." ++ [0]) (64 - 1)
  let octets ← browserOctets [] 0 state.url.bytes
  let (result, world) := test (browserIp octets) world
  let state ← { state with status }.report (verdict result).1 (verdict result).2
  return (state, world)

def browserHandleKey (state : BrowserState) (world : World) (key : UInt8) : Except Fault (BrowserState × World) := do
  let len ← state.url.strlen
  if state.connected ∧ (key = 0x63 ∨ key = 0x43) then state.testTcp test world
  else if state.connected ∧ (key = 0x70 ∨ key = 0x50) then
    let state ← state.report pinging pingHelp
    return (state, world)
  else if state.connected ∧ (key = 0x72 ∨ key = 0x52) then
    let status ← state.status.strncpy (enterIp ++ [0]) (64 - 1)
    let content ← state.content.memset 0 512
    return ({ state with connected := false, status, content }, world)
  else if key = 0x08 then
    if 0 < len then
      let url ← state.url.store (len - 1) 0
      return ({ state with url }, world)
    else return (state, world)
  else if key = 0x0A then
    let state ← state.browserConnect
    return (state, world)
  else if 32 ≤ key ∧ key ≤ 126 then
    if len < browserUrlMax - 1 then
      let url ← state.url.store len key
      let url ← url.store (len + 1) 0
      return ({ state with url }, world)
    else return (state, world)
  else return (state, world)

/-- A new window and the keys that come to it. -/
def run (memory : BrowserState) (world : World) (keys : List UInt8) : Except Fault (BrowserState × World) := do
  let state ← memory.getBrowserState
  keys.foldlM (fun out key => out.1.browserHandleKey test out.2 key) (state, world)

end BrowserState

/-- The strings of a browser. -/
structure Page where
  url : List UInt8
  connected : Bool
  status : List UInt8
  content : List UInt8

namespace Page

/-- The octets before a dot, and what follows the last one if there is room. -/
def closed (parsed : List Nat × Nat) : List Nat :=
  if parsed.1.length < 4 then parsed.1 ++ [parsed.2 % 2 ^ 8] else parsed.1

def octets (url : List UInt8) : List Nat := closed (parseOctets [] 0 url)

def opened : Page where
  url := ascii "10.0.2.2"
  connected := false
  status := enterIp
  content := []

def connect (page : Page) : Page :=
  if page.url = [] then page
  else if browserIp (octets page.url) = 0 then { page with connected := false, status := invalidIp }
  else { page with connected := true, status := ipText (octets page.url), content := ready }

def testTcp (page : Page) (world : World) : Page × World :=
  let (result, world) := test (browserIp (octets page.url)) world
  ({ page with status := (verdict result).1, content := (verdict result).2 }, world)

/-- While a page is connected, three letters are commands; all other keys edit its URL. -/
def press (page : Page) (world : World) (key : UInt8) : Page × World :=
  if page.connected ∧ (key = 0x63 ∨ key = 0x43) then page.testTcp test world
  else if page.connected ∧ (key = 0x70 ∨ key = 0x50) then ({ page with status := pinging, content := pingHelp }, world)
  else if page.connected ∧ (key = 0x72 ∨ key = 0x52) then
    ({ page with connected := false, status := enterIp, content := [] }, world)
  else if key = 0x08 then ({ page with url := page.url.dropLast }, world)
  else if key = 0x0A then (page.connect, world)
  else if 32 ≤ key ∧ key ≤ 126 ∧ page.url.length < browserUrlMax - 1 then ({ page with url := page.url ++ [key] }, world)
  else (page, world)

/-- The page of a new window after keys. -/
def visit (world : World) (keys : List UInt8) : Page × World :=
  keys.foldl (fun out key => out.1.press test out.2 key) (opened, world)

end Page

variable {text rest : List UInt8} {octets : List Nat} {val : Nat}

/-- The loop ends at the end of the string, and what wraps around is lost in an octet anyway. -/
theorem browserOctets_string {wrapped : Nat} (wraps : wrapped = val % 2 ^ 32) (string : 0 ∉ text) :
    browserOctets octets wrapped (text ++ 0 :: rest) = .ok (Page.closed (parseOctets octets val text)) := by
  have octet : wrapped % 2 ^ 8 = val % 2 ^ 8 := by omega
  induction text generalizing octets wrapped val with
  | nil =>
      rw [List.nil_append, browserOctets, if_neg (fun goes => goes.1 rfl), octet]
      rfl
  | cons char text ih =>
      rw [List.mem_cons, not_or] at string
      rw [List.cons_append, browserOctets, parseOctets]
      by_cases full : 4 ≤ octets.length
      · rw [if_neg (fun goes => Nat.not_le.mpr goes.2 full), if_neg (Nat.not_lt.mpr full), if_pos full, Page.closed,
          if_neg (Nat.not_lt.mpr full)]
      · rw [if_pos ⟨Ne.symm string.1, Nat.not_le.mp full⟩, if_neg full, octet]
        split
        · exact ih (by omega) string.2 (by omega)
        · split
          · exact ih rfl string.2 rfl
          · exact ih wraps string.2 octet

theorem parseOctets_small (small : ∀ octet ∈ octets, octet < 2 ^ 8) :
    ∀ octet ∈ (parseOctets octets val text).1, octet < 2 ^ 8 := by
  induction text generalizing octets val with
  | nil => exact small
  | cons char text ih =>
      rw [parseOctets]
      split
      · exact small
      · split
        · exact ih small
        · split
          · apply ih
            simpa [or_imp, forall_and] using ⟨small, Nat.mod_lt val (by decide)⟩
          · exact ih small

theorem Page.octets_small (url : List UInt8) (place : Nat) : (Page.octets url).getD place 0 < 2 ^ 8 := by
  have small : ∀ octet ∈ (parseOctets [] 0 url).1, octet < 2 ^ 8 := parseOctets_small (by simp)
  have closedSmall : ∀ octet ∈ Page.octets url, octet < 2 ^ 8 := by
    rw [Page.octets, Page.closed]
    split
    · simpa [or_imp, forall_and] using ⟨small, Nat.mod_lt _ (by decide)⟩
    · exact small
  rw [List.getD_eq_getElem?_getD]
  cases found : (Page.octets url)[place]? with
  | none => decide
  | some octet => exact closedSmall octet (List.mem_of_getElem? found)

/-- Digits are written without leading zeros. -/
theorem octetText_eq {octet : Nat} (small : octet < 2 ^ 8) : octetText octet = numeral octet := by
  have last : numeral octet = (if octet < 10 then [] else numeral (octet / 10)) ++ [UInt8.ofNat (0x30 + octet % 10)] :=
    numeral_eq
  have middle : numeral (octet / 10) =
      (if octet / 10 < 10 then [] else numeral (octet / 10 / 10)) ++ [UInt8.ofNat (0x30 + octet / 10 % 10)] := numeral_eq
  have first : numeral (octet / 10 / 10) = [UInt8.ofNat (0x30 + octet / 100)] := by
    rw [numeral_eq, if_pos (by omega), List.nil_append]
    congr 3
    omega
  rw [octetText]
  split
  · rw [last, if_neg (by omega), middle, if_neg (by omega), first]
    have tens : octet % 100 / 10 = octet / 10 % 10 := by omega
    have ones : octet % 100 % 10 = octet % 10 := by omega
    rw [tens, ones]
    rfl
  · split
    · rw [last, if_neg (by omega), middle, if_pos (by omega)]
      have tens : octet / 10 % 10 = octet / 10 := by omega
      rw [tens]
      rfl
    · rw [last, if_pos (by omega)]
      have ones : octet % 10 = octet := by omega
      rw [ones]
      rfl

theorem ipText_eq (small : ∀ place, octets.getD place 0 < 2 ^ 8) :
    ipText octets = ascii "IP: " ++ (numeral (octets.getD 0 0) ++
      behind [numeral (octets.getD 1 0), numeral (octets.getD 2 0), numeral (octets.getD 3 0)]) := by
  rw [ipText, fourOctets]
  simp only [List.range, List.range.loop, List.map_cons, List.map_nil, octetText_eq (small _)]
  simp [List.intercalate, behind]

/-- The status of a connected page fits. -/
theorem ipText_string (small : ∀ place, octets.getD place 0 < 2 ^ 8) : 0 ∉ ipText octets ∧ (ipText octets).length + 1 < 64 := by
  have digits (place : Nat) : (numeral (octets.getD place 0)).length ≤ 3 :=
    length_numeral_le (by decide) (Nat.lt_trans (small place) (by decide))
  have string (value : Nat) : 0 ∉ numeral value := fun zero => absurd (isDigit_numeral zero) (by decide)
  rw [ipText_eq small]
  constructor
  · simp [behind, string, dotChar]
    decide
  · have first := digits 0
    have second := digits 1
    have third := digits 2
    have fourth := digits 3
    have front : (ascii "IP: ").length = 4 := by decide
    simp only [behind, List.flatMap_cons, List.flatMap_nil, List.length_append, List.length_cons, List.length_nil, front]
    omega

namespace BrowserState

variable {state : BrowserState} {page : Page} {world : World} {key : UInt8}

theorem ready_string : 0 ∉ ready ∧ ready.length < 512 := by decide +kernel

theorem pingHelp_string : 0 ∉ pingHelp ∧ pingHelp.length < 512 := by decide +kernel

/-- Each string of the page stands in its array. -/
structure Shows (state : BrowserState) (page : Page) : Prop where
  url : state.url.Spells page.url
  status : state.status.Spells page.status
  content : state.content.Spells page.content
  connected : state.connected = page.connected

theorem getBrowserState_shows (memory : BrowserState) :
    Ends (Shows · Page.opened) memory.getBrowserState := by
  apply memory.url.memset_spells (by decide) |>.bind
  intro url blankUrl
  apply memory.status.memset_spells (by decide) |>.bind
  intro status blankStatus
  apply memory.content.memset_spells (by decide) |>.bind
  intro content blankContent
  apply (blankUrl.copy (by decide) (by decide)).bind
  intro url spelledUrl
  apply (blankStatus.copy (by decide) (by decide)).bind
  intro status spelledStatus
  exact Ends.pure ⟨spelledUrl, spelledStatus, blankContent, rfl⟩

theorem report_shows (shows : Shows state page) {status content : List UInt8} (string : 0 ∉ status) (string' : 0 ∉ content)
    (room : status.length < 64) (room' : content.length < 512) :
    Ends (Shows · { page with status, content }) (state.report status content) := by
  apply (shows.status.copy string room).bind
  intro status spelled
  apply (shows.content.copy string' room').bind
  intro content spelled'
  exact Ends.pure ⟨shows.url, spelled, spelled', shows.connected⟩

theorem octets_shown (shows : Shows state page) :
    Ends (· = Page.octets page.url) (browserOctets [] 0 state.url.bytes) := by
  obtain ⟨rest, split, string⟩ := shows.url.split
  rw [split]
  exact ⟨_, browserOctets_string rfl string, rfl⟩

theorem verdict_strings (result : Int) : 0 ∉ (verdict result).1 ∧ 0 ∉ (verdict result).2 ∧
    (verdict result).1.length < 64 ∧ (verdict result).2.length < 512 := by
  rw [verdict]
  split
  · decide
  · split
    · decide
    · decide

theorem testTcp_shows (shows : Shows state page) :
    Ends (fun out => Shows out.1 (page.testTcp test world).1 ∧ out.2 = (page.testTcp test world).2)
      (state.testTcp test world) := by
  obtain ⟨string, string', room, room'⟩ := verdict_strings (test (browserIp (Page.octets page.url)) world).1
  apply (shows.status.copy (by decide) (by decide)).bind
  intro status spelled
  apply (octets_shown shows).bind
  rintro _ rfl
  have reported : Shows { state with status } { page with status := ascii "Testing TCP..." } :=
    ⟨shows.url, spelled, shows.content, shows.connected⟩
  apply (report_shows reported string string' room room').bind
  intro state shows
  exact Ends.pure ⟨shows, rfl⟩

theorem peek_shown (shows : Shows state page) :
    Ends (fun first => first = 0 ↔ page.url = []) (Scanning.peek state.url.bytes) := by
  obtain ⟨rest, split, string⟩ := shows.url.split
  rw [split]
  cases url : page.url with
  | nil => exact ⟨0, rfl, iff_of_true rfl rfl⟩
  | cons first others =>
      rw [url, List.mem_cons, not_or] at string
      exact ⟨first, rfl, iff_of_false (Ne.symm string.1) (List.cons_ne_nil _ _)⟩

theorem browserConnect_shows (shows : Shows state page) : Ends (Shows · page.connect) state.browserConnect := by
  apply (peek_shown shows).bind
  intro first isEmpty
  rw [Page.connect]
  by_cases empty : page.url = []
  · rw [if_pos empty, if_pos (isEmpty.mpr empty)]
    exact Ends.pure shows
  · rw [if_neg empty, if_neg (mt isEmpty.mp empty)]
    apply (octets_shown shows).bind
    rintro _ rfl
    by_cases invalid : browserIp (Page.octets page.url) = 0
    · rw [if_pos invalid, if_pos invalid]
      apply (shows.status.copy (by decide) (by decide)).bind
      intro status spelled
      exact Ends.pure ⟨shows.url, spelled, shows.content, rfl⟩
    · rw [if_neg invalid, if_neg invalid]
      obtain ⟨string, room⟩ := ipText_string (Page.octets_small page.url)
      obtain ⟨pushed, status, pushes, ended, spelled⟩ := shows.status.write string room
      rw [pushes]
      have closes : Ends (·.Spells (ipText (Page.octets page.url))) (pushed.store (ipText (Page.octets page.url)).length 0) :=
        ⟨status, ended, spelled⟩
      apply closes.bind
      intro status spelled
      apply (shows.content.copy ready_string.1 ready_string.2).bind
      intro content spelled'
      apply Ends.pure
      constructor
      case url => exact shows.url
      case status => exact spelled
      case content =>
        dsimp only
        exact spelled'
      case connected => rfl

/-- The world and the page after a key are those of the page. -/
def Follows (outcome : Page × World) (out : BrowserState × World) : Prop := Shows out.1 outcome.1 ∧ out.2 = outcome.2

theorem erase_shows (shows : Shows state page) :
    Ends (Follows ({ page with url := page.url.dropLast }, world))
      (if 0 < page.url.length then do
        let url ← state.url.store (page.url.length - 1) 0
        return ({ state with url }, world)
      else return (state, world)) := by
  have spells := shows.url
  rcases List.eq_nil_or_concat' page.url with empty | ⟨front, char, split⟩
  · rw [empty] at spells ⊢
    exact Ends.pure ⟨⟨spells, shows.status, shows.content, shows.connected⟩, rfl⟩
  · rw [split] at spells ⊢
    rw [List.length_append, List.length_singleton, if_pos (Nat.succ_pos _), Nat.add_sub_cancel, List.dropLast_concat]
    apply spells.erase.bind
    intro url spelled
    exact Ends.pure ⟨⟨spelled, shows.status, shows.content, shows.connected⟩, rfl⟩

theorem type_shows (shows : Shows state page) (printable : 32 ≤ key) (room : page.url.length < browserUrlMax - 1) :
    Ends (Follows ({ page with url := page.url ++ [key] }, world)) (do
      let url ← state.url.store page.url.length key
      let url ← url.store (page.url.length + 1) 0
      return ({ state with url }, world)) := by
  have nonzero : key ≠ 0 := by
    rintro rfl
    exact absurd printable (by decide)
  obtain ⟨next, last, stored, ended, spelled⟩ := shows.url.type nonzero (Nat.add_lt_of_lt_sub room)
  rw [stored]
  change Ends _ (next.store _ _ >>= _)
  rw [ended]
  exact Ends.pure ⟨⟨spelled, shows.status, shows.content, shows.connected⟩, rfl⟩

theorem browserHandleKey_shows (shows : Shows state page) :
    Ends (Follows (page.press test world key)) (state.browserHandleKey test world key) := by
  obtain ⟨url, connected, shown, shownContent⟩ := page
  obtain rfl : state.connected = connected := shows.connected
  rw [browserHandleKey, shows.url.strlen, Page.press]
  change Ends _ (if _ then _ else _)
  split
  · exact testTcp_shows test shows
  · split
    · apply (report_shows shows (by decide) pingHelp_string.1 (by decide) pingHelp_string.2).bind
      intro state shows
      exact Ends.pure ⟨shows, rfl⟩
    · split
      · apply (shows.status.copy (by decide) (by decide)).bind
        intro status spelled
        apply (state.content.memset_spells (by decide)).bind
        intro content blank
        exact Ends.pure ⟨⟨shows.url, spelled, blank, rfl⟩, rfl⟩
      · split
        · exact erase_shows shows
        · split
          · apply (browserConnect_shows shows).bind
            intro state shows
            exact Ends.pure ⟨shows, rfl⟩
          · by_cases printable : 32 ≤ key ∧ key ≤ 126
            · rw [if_pos printable]
              by_cases room : url.length < browserUrlMax - 1
              · rw [if_pos room, if_pos ⟨printable.1, printable.2, room⟩]
                exact type_shows shows printable.1 room
              · rw [if_neg room, if_neg (fun goes => room goes.2.2)]
                exact Ends.pure ⟨shows, rfl⟩
            · rw [if_neg printable, if_neg (fun goes => printable ⟨goes.1, goes.2.1⟩)]
              exact Ends.pure ⟨shows, rfl⟩

theorem foldlM_shows (shows : Shows state page) (keys : List UInt8) :
    Ends (Follows (keys.foldl (fun out key => out.1.press test out.2 key) (page, world)))
      (keys.foldlM (fun out key => out.1.browserHandleKey test out.2 key) (state, world)) := by
  induction keys generalizing state page world with
  | nil => exact Ends.pure ⟨shows, rfl⟩
  | cons key rest ih =>
      rw [List.foldlM_cons]
      apply (browserHandleKey_shows test shows).bind
      rintro ⟨state, world'⟩ ⟨shows, rfl⟩
      exact ih shows

theorem run_shows (memory : BrowserState) (world : World) (keys : List UInt8) :
    Ends (Follows (Page.visit test world keys)) (run test memory world keys) := by
  apply memory.getBrowserState_shows.bind
  intro state shows
  exact foldlM_shows test shows keys

end BrowserState

namespace Page

variable {page : Page} {world : World} {key : UInt8}

/-- The URL fits, and it can be printed. -/
structure Printable (page : Page) : Prop where
  short : page.url.length ≤ browserUrlMax - 1
  chars : ∀ char ∈ page.url, 32 ≤ char ∧ char ≤ 126

theorem connect_url : page.connect.url = page.url := by
  rw [connect]
  split
  · rfl
  · split
    · rfl
    · rfl

theorem Printable.press (printable : Printable page) : Printable (page.press test world key).1 := by
  obtain ⟨short, chars⟩ := printable
  rw [Page.press]
  split
  · exact ⟨short, chars⟩
  · split
    · exact ⟨short, chars⟩
    · split
      · exact ⟨short, chars⟩
      · split
        · constructor
          · exact Nat.le_trans (List.length_dropLast ▸ Nat.sub_le _ 1) short
          · exact fun char member => chars char ((List.dropLast_sublist _).subset member)
        · split
          · rw [← @connect_url page] at short chars
            exact ⟨short, chars⟩
          · split
            · next typed =>
              constructor
              · rw [List.length_append, List.length_singleton]
                exact typed.2.2
              · intro char member
                rcases List.mem_append.mp member with before | isKey
                · exact chars char before
                · rw [List.mem_singleton.mp isKey]
                  exact ⟨typed.1, typed.2.1⟩
            · exact ⟨short, chars⟩

theorem Printable.presses (printable : Printable page) (keys : List UInt8) :
    Printable (keys.foldl (fun out key => out.1.press test out.2 key) (page, world)).1 := by
  induction keys generalizing page world with
  | nil => exact printable
  | cons key rest ih => exact ih (printable.press test)

theorem opened_printable : Printable opened := by
  have all : opened.url.all (fun char => decide (32 ≤ char ∧ char ≤ 126)) = true := by decide
  exact ⟨by decide, fun char member => of_decide_eq_true (List.all_eq_true.mp all char member)⟩

end Page

/-- For any keys, no store and no loop leaves an array, and the arrays hold the strings of the page.  Its URL has at most
127 characters, which can be printed. -/
theorem browser_shows (memory : BrowserState) (world : World) (keys : List UInt8) :
    ∃ state, BrowserState.run test memory world keys = .ok (state, (Page.visit test world keys).2) ∧
      BrowserState.Shows state (Page.visit test world keys).1 ∧ Page.Printable (Page.visit test world keys).1 := by
  obtain ⟨⟨state, _⟩, done, shows, rfl⟩ := BrowserState.run_shows test memory world keys
  exact ⟨state, done, shows, Page.opened_printable.presses test keys⟩

/-- The values of the four groups. -/
def values (quad : Quad) : List Nat := quad.groups.map decimalValue

theorem values_small (quad : Quad) (place : Nat) : (values quad).getD place 0 ≤ 255 := by
  rw [List.getD_eq_getElem?_getD, values, List.getElem?_map]
  cases found : quad.groups[place]? with
  | none => decide
  | some group => exact (quad.isGroup group (List.mem_of_getElem? found)).small

theorem values_behind (quad : Quad) (place : Nat) : (values quad).getD (place + 4) 0 = 0 := by
  have length : (values quad).length = 4 := by
    rw [values, List.length_map, Quad.groups, List.length_cons, quad.four]
  rw [List.getD_eq_getElem?_getD, List.getElem?_eq_none (length ▸ Nat.le_add_left 4 place)]
  rfl

theorem parseOctets_quad (quad : Quad) : parseOctets [] 0 quad.text =
    ([(values quad).getD 0 0, (values quad).getD 1 0, (values quad).getD 2 0], (values quad).getD 3 0) := by
  obtain ⟨first, rest, four, isGroup⟩ := quad
  obtain ⟨second, third, fourth, rfl⟩ := List.length_eq_three.mp four
  obtain ⟨isFirst, others⟩ := List.forall_mem_cons.mp isGroup
  have room : ([] : List Nat).length < 4 := by decide
  have digits : parseOctets [] 0 (first ++ behind [second, third, fourth]) =
      parseOctets [] (decimalValue first) (behind [second, third, fourth]) := parseOctets_digits room isFirst.digits
  exact digits.trans (parseOctets_behind (Nat.lt_succ_self 3) isFirst.small others)

theorem octets_quad (quad : Quad) (place : Nat) : (Page.octets quad.text).getD place 0 = (values quad).getD place 0 := by
  have last : (values quad).getD 3 0 % 2 ^ 8 = (values quad).getD 3 0 :=
    Nat.mod_eq_of_lt (Nat.lt_succ_of_le (values_small quad 3))
  have joined : Page.octets quad.text =
      [(values quad).getD 0 0, (values quad).getD 1 0, (values quad).getD 2 0, (values quad).getD 3 0 % 2 ^ 8] := by
    rw [Page.octets, parseOctets_quad]
    rfl
  rw [joined, last]
  match place with
  | 0 | 1 | 2 | 3 => rfl
  | place + 4 => exact (values_behind quad place).symm

theorem parseIpString_values (quad : Quad) : parseIpString quad.text =
    Host.address ((values quad).getD 0 0) ((values quad).getD 1 0) ((values quad).getD 2 0) ((values quad).getD 3 0) := by
  have last : (values quad).getD 3 0 % 2 ^ 8 = (values quad).getD 3 0 :=
    Nat.mod_eq_of_lt (Nat.lt_succ_of_le (values_small quad 3))
  rw [parseIpString, parseOctets_quad]
  exact congrArg (Host.address _ _ _) last

theorem swap32_address {first second third fourth : Nat} (small : ∀ part ∈ [first, second, third, fourth], part ≤ 255) :
    swap32 (Host.address first second third fourth) = Host.address fourth third second first := by
  simp only [List.forall_mem_cons] at small
  rw [swap32_eq, Host.address, Host.address]
  omega

theorem swap32_values (quad : Quad) : swap32 (parseIpString quad.text) =
    Host.address ((values quad).getD 3 0) ((values quad).getD 2 0) ((values quad).getD 1 0) ((values quad).getD 0 0) := by
  rw [parseIpString_values, swap32_address]
  simp only [List.forall_mem_cons]
  exact ⟨values_small quad 0, values_small quad 1, values_small quad 2, values_small quad 3, List.forall_mem_nil _⟩

/-- The browser turns the bytes of an address around. -/
theorem browserIp_quad (quad : Quad) : browserIp (Page.octets quad.text) = swap32 (parseIpString quad.text) := by
  rw [browserIp, octets_quad, octets_quad, octets_quad, octets_quad, swap32_values]

theorem isGroup_numeral {value : Nat} (small : value ≤ 255) : IsGroup (numeral value) := by
  constructor
  · exact List.length_pos_iff.mpr numeral_ne_nil
  · exact length_numeral_le (by decide) (Nat.lt_of_le_of_lt small (by decide))
  · exact fun char member => isDigit_numeral member
  · rwa [decimalValue_numeral]

/-- The quad without leading zeros. -/
def canonical (quad : Quad) : Quad where
  first := numeral ((values quad).getD 0 0)
  rest := [numeral ((values quad).getD 1 0), numeral ((values quad).getD 2 0), numeral ((values quad).getD 3 0)]
  four := rfl
  isGroup := by
    simp only [List.forall_mem_cons]
    exact ⟨isGroup_numeral (values_small quad 0), isGroup_numeral (values_small quad 1),
      isGroup_numeral (values_small quad 2), isGroup_numeral (values_small quad 3), List.forall_mem_nil _⟩

theorem values_canonical (quad : Quad) (place : Nat) : (values (canonical quad)).getD place 0 = (values quad).getD place 0 := by
  match place with
  | 0 | 1 | 2 | 3 => exact decimalValue_numeral
  | place + 4 => exact (values_behind quad place).symm

theorem parseIpString_canonical (quad : Quad) : parseIpString (canonical quad).text = parseIpString quad.text := by
  rw [parseIpString_values, parseIpString_values, values_canonical, values_canonical, values_canonical, values_canonical]

theorem groups_canonical (quad : Quad) : (canonical quad).groups = (values quad).map numeral := by
  obtain ⟨front, rest, four, isGroup⟩ := quad
  obtain ⟨b, c, d, rfl⟩ := List.length_eq_three.mp four
  rfl

theorem ipText_quad (quad : Quad) : ipText (Page.octets quad.text) = ascii "IP: " ++ (canonical quad).text := by
  rw [ipText_eq (Page.octets_small _), octets_quad, octets_quad, octets_quad, octets_quad]
  rfl

/-- An address is its own reverse if it reads the same from both ends. -/
theorem swap32_quad (quad : Quad) :
    swap32 (parseIpString quad.text) = parseIpString quad.text ↔ values quad = (values quad).reverse := by
  have first := values_small quad 0
  have second := values_small quad 1
  have third := values_small quad 2
  have fourth := values_small quad 3
  rw [swap32_values, parseIpString_values, Host.address, Host.address]
  obtain ⟨front, rest, four, isGroup⟩ := quad
  obtain ⟨b, c, d, rfl⟩ := List.length_eq_three.mp four
  change decimalValue front ≤ 255 at first
  change decimalValue b ≤ 255 at second
  change decimalValue c ≤ 255 at third
  change decimalValue d ≤ 255 at fourth
  change _ ↔ [decimalValue front, decimalValue b, decimalValue c, decimalValue d] =
    [decimalValue d, decimalValue c, decimalValue b, decimalValue front]
  simp only [values, Quad.groups, List.map_cons, List.map_nil, List.getD_cons_zero, List.getD_cons_succ, List.cons.injEq,
    and_true]
  omega

variable {test}

theorem visit_enter (world : World) (keys : List UInt8) :
    Page.visit test world (keys ++ [0x0A]) = ((Page.visit test world keys).1.connect, (Page.visit test world keys).2) := by
  rw [Page.visit, List.foldl_append, List.foldl_cons, List.foldl_nil, Page.press, if_neg (by simp), if_neg (by simp),
    if_neg (by simp), if_neg (by decide), if_pos rfl]
  rfl

/-- A letter behind the key that connects is a command. -/
theorem visit_test (world : World) (keys : List UInt8) {key : UInt8} (letter : key = 0x63 ∨ key = 0x43)
    (connects : (Page.visit test world keys).1.connect.connected = true) :
    Page.visit test world (keys ++ [0x0A, key]) =
      (Page.visit test world keys).1.connect.testTcp test (Page.visit test world keys).2 := by
  have split : keys ++ [0x0A, key] = keys ++ [0x0A] ++ [key] := List.append_cons keys 0x0A [key]
  have entered := @visit_enter _ test world keys
  rw [Page.visit] at entered
  rw [Page.visit, split, List.foldl_append, List.foldl_cons, List.foldl_nil, entered, Page.press, if_pos ⟨connects, letter⟩]

theorem browserIp_eq_zero (quad : Quad) : browserIp (Page.octets quad.text) = 0 ↔ parseIpString quad.text = 0 := by
  rw [browserIp_quad, swap32_values, parseIpString_values, Host.address, Host.address]
  omega

theorem connect_quad {page : Page} {quad : Quad} (url : page.url = quad.text) (valid : parseIpString quad.text ≠ 0) :
    page.connect =
      { page with connected := true, status := ascii "IP: " ++ (canonical quad).text, content := ready } := by
  have nonempty : page.url ≠ [] := by
    intro empty
    rw [← url, empty] at valid
    exact valid rfl
  rw [Page.connect, if_neg nonempty, url, if_neg (mt (browserIp_eq_zero quad).mp valid), ipText_quad]

/-- When the URL is a quad other than zero, the key Enter shows it without leading zeros, and the key `c` then tests the
address with its bytes turned around.  That is another address unless the quad reads the same from both ends. -/
theorem browser_tests (memory state : BrowserState) (world seen : World) (keys : List UInt8) (quad : Quad) (key : UInt8)
    (done : BrowserState.run test memory world keys = .ok (state, seen)) (url : cString state.url.bytes = quad.text)
    (valid : parseIpString quad.text ≠ 0) (letter : key = 0x63 ∨ key = 0x43) :
    (∃ entered shown, BrowserState.run test memory world (keys ++ [0x0A]) = .ok (entered, seen) ∧
      Quad.groups shown = (values quad).map numeral ∧ parseIpString shown.text = parseIpString quad.text ∧
      cString entered.status.bytes = ascii "IP: " ++ shown.text) ∧
    (∃ tested, BrowserState.run test memory world (keys ++ [0x0A, key]) =
        .ok (tested, (test (swap32 (parseIpString quad.text)) seen).2) ∧
      cString tested.status.bytes = (verdict (test (swap32 (parseIpString quad.text)) seen).1).1) ∧
    (swap32 (parseIpString quad.text) = parseIpString quad.text ↔ values quad = (values quad).reverse) := by
  obtain ⟨out, done', shows, isSeen⟩ := BrowserState.run_shows test memory world keys
  cases done.symm.trans done'
  have isUrl : (Page.visit test world keys).1.url = quad.text := shows.url.text.symm.trans url
  have connects := connect_quad isUrl valid
  refine ⟨?_, ?_, swap32_quad quad⟩
  · obtain ⟨⟨entered, _⟩, done', shows', rfl⟩ := BrowserState.run_shows test memory world (keys ++ [0x0A])
    rw [visit_enter, ← isSeen] at done' shows'
    refine ⟨entered, canonical quad, done', groups_canonical quad, parseIpString_canonical quad, ?_⟩
    exact shows'.status.text.trans (congrArg Page.status connects)
  · obtain ⟨⟨tested, _⟩, done', shows', rfl⟩ := BrowserState.run_shows test memory world (keys ++ [0x0A, key])
    have tests : browserIp (Page.octets (Page.connect (Page.visit test world keys).1).url) =
        swap32 (parseIpString quad.text) := by
      rw [Page.connect_url, isUrl, browserIp_quad]
    rw [visit_test world keys letter (congrArg Page.connected connects), Page.testTcp, tests, ← isSeen] at done' shows'
    exact ⟨tested, done', shows'.status.text⟩

end World

/-- Nobody answers, and the addresses are noted. -/
def unanswered (ip : Nat) (seen : List Nat) : Int × List Nat := (-1, seen ++ [ip])

def defaultQuad : Quad where
  first := ascii "10"
  rest := [ascii "0", ascii "2", ascii "2"]
  four := rfl
  isGroup := by
    simp only [List.forall_mem_cons]
    exact ⟨⟨by decide, by decide, List.all_eq_true.mp (by decide), by decide⟩,
      ⟨by decide, by decide, List.all_eq_true.mp (by decide), by decide⟩,
      ⟨by decide, by decide, List.all_eq_true.mp (by decide), by decide⟩,
      ⟨by decide, by decide, List.all_eq_true.mp (by decide), by decide⟩, List.forall_mem_nil _⟩

def blankState : BrowserState where
  url := ⟨List.replicate browserUrlMax 0, List.length_replicate⟩
  loading := false
  connected := false
  status := ⟨List.replicate 64 0, List.length_replicate⟩
  content := ⟨List.replicate 512 0, List.length_replicate⟩

/-- A new window tests 2.2.0.10 in place of the gateway 10.0.2.2 that it shows. -/
theorem browser_tests_default :
    (∃ entered, BrowserState.run unanswered blankState [] [0x0A] = .ok (entered, []) ∧
      cString entered.status.bytes = ascii "IP: 10.0.2.2") ∧
    ∃ tested, BrowserState.run unanswered blankState [] [0x0A, 0x63] = .ok (tested, [0x0A000202]) ∧
      cString tested.status.bytes = ascii "TCP: Failed" := by
  obtain ⟨state, made, shows⟩ := blankState.getBrowserState_shows
  have done : BrowserState.run unanswered blankState [] [] = .ok (state, []) := by
    rw [BrowserState.run, made]
    rfl
  have target : swap32 (parseIpString defaultQuad.text) = 0x0A000202 := by decide
  have valid : parseIpString defaultQuad.text ≠ 0 := by decide
  obtain ⟨⟨entered, shown, ran, groups, _, status⟩, tested, _⟩ :=
    browser_tests blankState state [] [] [] defaultQuad 0x63 done shows.url.text valid (Or.inl rfl)
  rw [target] at tested
  refine ⟨⟨entered, ran, status.trans ?_⟩, tested⟩
  obtain ⟨first, rest⟩ := List.cons.inj groups
  rw [Quad.text, first, rest]
  decide

end AutismOS.Browser
