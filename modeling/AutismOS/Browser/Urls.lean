import AutismOS.Library.Numerals
import AutismOS.Library.Strings

namespace AutismOS.Browser

open AutismOS.Library

/-! `parse_url` of `kernel/browser/network.c`.

A string is the list of its characters, without the zero behind them; places in it are counted from its start.
-/

/-- The sizes of the buffers in `url_t`. -/
def protocolSize : Nat := 16
def hostSize : Nat := 256
def pathSize : Nat := 256

/-- `"http"` and `"http://"` -/
def http : List UInt8 := [0x68, 0x74, 0x74, 0x70]
def schemeEnd : List UInt8 := [0x3A, 0x2F, 0x2F]

/-- The characters between which a URL is split, `'/'` and `':'`. -/
def slashChar : UInt8 := 0x2F
def colonChar : UInt8 := 0x3A

/-- `url_t` -/
structure Url where
  protocol : List UInt8
  host : List UInt8
  port : Nat
  path : List UInt8

/-- The first bytes of a buffer are written over. -/
def overwrite (buffer data : List UInt8) : List UInt8 := data ++ buffer.drop data.length

/-- The port with the digits that stand at the start of a string. -/
def parsePort (port : Nat) : List UInt8 → Nat
  | [] => port
  | char :: rest => if isDigit char then parsePort ((port * 10 + digitValue char) % 2 ^ 16) rest else port

/-- As much of the first `hostLen` characters as fits is copied into the host. -/
def Url.copyHost (url : Url) (p : List UInt8) (hostLen : Nat) : Url :=
  let hostLen := if hostSize ≤ hostLen then hostSize - 1 else hostLen
  { url with host := (overwrite url.host (strncpy p hostLen)).set hostLen 0 }

/-- The host ends at a colon that stands before the end of the authority, and a port follows; or it ends there. -/
def Url.parseAuthority (url : Url) (p : List UInt8) (colon : Option Nat) (endOfAuthority : Nat) : Url :=
  match colon with
  | some colon =>
      if colon < endOfAuthority then { url.copyHost p colon with port := parsePort 0 (p.drop (colon + 1)) }
      else url.copyHost p endOfAuthority
  | none => url.copyHost p endOfAuthority

def Url.parsePath (url : Url) (p : List UInt8) (slash : Option Nat) : Url :=
  match slash with
  | some slash => { url with path := (overwrite url.path (strncpy (p.drop slash) (pathSize - 1))).set (pathSize - 1) 0 }
  | none => { url with path := overwrite url.path [slashChar, 0] }

/-- What follows the scheme is split at its first slash and colon. -/
def Url.parseParts (url : Url) (p : List UInt8) : Url :=
  let slash := strchr slashChar p
  let colon := strchr colonChar p
  let endOfAuthority := slash.getD p.length
  (url.parseAuthority p colon endOfAuthority).parsePath p slash

/-- The structure is cleared, and the port is 80. -/
def emptyUrl : Url :=
  { protocol := List.replicate protocolSize 0, host := List.replicate hostSize 0, port := 80
    path := List.replicate pathSize 0 }

/-- Returns 0, and what is put into the structure; neither of the pointers is NULL. -/
def parseUrl (urlStr : List UInt8) : Int × Url :=
  let p := if strncmp urlStr (http ++ schemeEnd) 7 = 0 then urlStr.drop 7 else urlStr
  (0, { emptyUrl with protocol := overwrite emptyUrl.protocol (http ++ [0]) }.parseParts p)

/-- What follows the scheme; the port and the path need not be written. -/
structure Parts where
  host : List UInt8
  port : Option (List UInt8)
  path : List UInt8
  hostPlain : slashChar ∉ host ∧ colonChar ∉ host ∧ 0 ∉ host
  portPlain : ∀ text ∈ port, slashChar ∉ text ∧ 0 ∉ text
  pathStart : path = [] ∨ path.head? = some slashChar
  pathPlain : 0 ∉ path

namespace Parts

variable (parts : Parts)

/-- The port with the colon before it. -/
def portText : List UInt8 := parts.port.elim [] (colonChar :: ·)

def text : List UInt8 := parts.host ++ (parts.portText ++ parts.path)

/-- A path that is not written is `"/"`. -/
def fullPath : List UInt8 := if parts.path = [] then [slashChar] else parts.path

end Parts

variable {parts : Parts} {url : Url} {p text buffer data : List UInt8} {port hostLen : Nat}

theorem cString_overwrite (room : data.length < buffer.length) :
    cString ((overwrite buffer data).set data.length 0) = cString data := by
  have behind : buffer.drop data.length = buffer[data.length] :: buffer.drop (data.length + 1) :=
    List.drop_eq_getElem_cons room
  rw [overwrite, behind, List.set_append_right _ _ (Nat.le_refl _), Nat.sub_self, List.set_cons_zero, cString_append_zero]

theorem cString_copyHost (size : url.host.length = hostSize) :
    cString (url.copyHost p hostLen).host = (cString p).take (min hostLen (hostSize - 1)) := by
  have copied (count : Nat) (small : count < hostSize) :
      cString ((overwrite url.host (strncpy p count)).set count 0) = (cString p).take count := by
    have room : (strncpy p count).length < url.host.length := by
      rw [length_strncpy, size]
      exact small
    have terminated := cString_overwrite room
    rwa [length_strncpy, cString_strncpy] at terminated
  rw [Url.copyHost]
  split
  · next long => rw [Nat.min_eq_right (by omega)]; exact copied _ (by decide)
  · next short => rw [Nat.min_eq_left (by omega)]; exact copied _ (Nat.not_le.mp short)

theorem parsePort_eq (small : port < 2 ^ 16) :
    parsePort port text = decimalFrom port (text.takeWhile isDigit) % 2 ^ 16 := by
  induction text generalizing port with
  | nil => exact (Nat.mod_eq_of_lt small).symm
  | cons char rest ih =>
      rw [parsePort]
      cases digit : isDigit char with
      | true =>
          rw [if_pos rfl, ih (Nat.mod_lt _ (Nat.two_pow_pos 16)), List.takeWhile_cons_of_pos digit, decimalFrom_cons,
            decimalFrom_mod]
      | false =>
          rw [if_neg Bool.false_ne_true, List.takeWhile_cons_of_neg (ne_true_of_eq_false digit)]
          exact (Nat.mod_eq_of_lt small).symm

theorem mem_portText {char : UInt8} (member : char ∈ parts.portText) :
    char = colonChar ∨ ∃ text ∈ parts.port, char ∈ text := by
  rw [Parts.portText] at member
  cases written : parts.port with
  | none =>
      rw [written] at member
      cases member
  | some text =>
      rw [written] at member
      rcases List.mem_cons.mp member with same | later
      · exact Or.inl same
      · exact Or.inr ⟨text, rfl, later⟩

theorem zero_notMem_portText : 0 ∉ parts.portText := by
  intro member
  rcases mem_portText member with same | ⟨text, written, later⟩
  · exact absurd same (by decide)
  · exact (parts.portPlain text written).2 later

theorem slash_notMem_portText : slashChar ∉ parts.portText := by
  intro member
  rcases mem_portText member with same | ⟨text, written, later⟩
  · exact absurd same (by decide)
  · exact (parts.portPlain text written).1 later

theorem string_text : 0 ∉ parts.text := by
  rw [Parts.text, List.mem_append, List.mem_append, not_or, not_or]
  exact ⟨parts.hostPlain.2.2, zero_notMem_portText, parts.pathPlain⟩

/-- The path is what starts with the first slash. -/
theorem strchr_slash : strchr slashChar parts.text =
    if parts.path = [] then none else some (parts.host.length + parts.portText.length) := by
  rw [Parts.text, strchr_append parts.hostPlain.1 parts.hostPlain.2.2,
    strchr_append slash_notMem_portText zero_notMem_portText]
  rcases parts.pathStart with none | starts
  · rw [if_pos none, none]
    rfl
  · obtain ⟨rest, isPath⟩ := List.head?_eq_some_iff.mp starts
    have written : parts.path ≠ [] := by
      rw [isPath]
      exact List.cons_ne_nil _ _
    rw [if_neg written, isPath, strchr_cons_self (by decide), Option.map_some, Option.map_some, Nat.zero_add, Nat.add_comm]

theorem endOfAuthority_eq :
    (strchr slashChar parts.text).getD parts.text.length = parts.host.length + parts.portText.length := by
  rw [strchr_slash]
  split
  · next none => rw [Option.getD_none, Parts.text, none, List.append_nil, List.length_append]
  · rfl

/-- The port is what starts behind a colon before that slash. -/
theorem strchr_colon :
    strchr colonChar parts.text = (strchr colonChar (parts.portText ++ parts.path)).map (· + parts.host.length) :=
  strchr_append parts.hostPlain.2.1 parts.hostPlain.2.2

theorem parseAuthority_text :
    url.parseAuthority parts.text (strchr colonChar parts.text) (parts.host.length + parts.portText.length) =
      { url.copyHost parts.text parts.host.length with
        port := parts.port.elim url.port fun text => parsePort 0 (text ++ parts.path) } := by
  rw [strchr_colon]
  cases written : parts.port with
  | none =>
      have none : parts.portText = [] := by rw [Parts.portText, written]; rfl
      rw [none, List.nil_append, List.length_nil, Nat.add_zero]
      cases strchr colonChar parts.path with
      | none => rfl
      | some place => exact if_neg (Nat.not_lt.mpr (Nat.le_add_left _ _))
  | some text =>
      have colon : parts.portText = colonChar :: text := by rw [Parts.portText, written]; rfl
      have behind : parts.text.drop (parts.host.length + 1) = text ++ parts.path := by
        rw [Parts.text, colon, ← List.drop_drop, List.drop_left]
        rfl
      have inside : parts.host.length < parts.host.length + (colonChar :: text).length :=
        Nat.lt_add_of_pos_right (Nat.succ_pos _)
      rw [colon, List.cons_append, strchr_cons_self (by decide), Option.map_some, Nat.zero_add, Url.parseAuthority,
        if_pos inside, behind]
      rfl

theorem parsePath_text : url.parsePath parts.text (strchr slashChar parts.text) =
    { url with
      path :=
        if parts.path = [] then overwrite url.path [slashChar, 0]
        else (overwrite url.path (strncpy parts.path (pathSize - 1))).set (pathSize - 1) 0 } := by
  have dropped : parts.text.drop (parts.host.length + parts.portText.length) = parts.path := by
    rw [Parts.text, ← List.append_assoc, ← List.length_append, List.drop_left]
  rw [strchr_slash]
  split
  · rfl
  · rw [Url.parsePath, dropped]

/-- The digits of a port end with the port at the latest. -/
theorem takeWhile_port : (text ++ parts.path).takeWhile isDigit = text.takeWhile isDigit := by
  have ended : parts.path.takeWhile isDigit = [] := by
    rcases parts.pathStart with none | starts
    · rw [none]
      rfl
    · obtain ⟨rest, isPath⟩ := List.head?_eq_some_iff.mp starts
      rw [isPath]
      exact List.takeWhile_cons_of_neg (by decide)
  rw [List.takeWhile_append, ended, List.append_nil]
  split
  · next whole => exact ((List.takeWhile_prefix isDigit).eq_of_length whole).symm
  · rfl

theorem take_text : parts.text.take (min parts.host.length (hostSize - 1)) = parts.host.take (hostSize - 1) := by
  have whole : (parts.host.take (hostSize - 1)).take parts.host.length = parts.host.take (hostSize - 1) :=
    List.take_of_length_le (List.length_take_le' _ _)
  rw [Parts.text, List.take_append_of_le_length (Nat.min_le_left _ _), ← List.take_take, whole]

/-- What is found in a string with these parts. -/
theorem parseParts_text (hostRoom : url.host.length = hostSize) (pathRoom : url.path.length = pathSize) :
    cString (url.parseParts parts.text).host = parts.host.take (hostSize - 1) ∧
      (url.parseParts parts.text).port =
        parts.port.elim url.port (fun text => decimalValue (text.takeWhile isDigit) % 2 ^ 16) ∧
          cString (url.parseParts parts.text).path = parts.fullPath.take (pathSize - 1) := by
  simp only [Url.parseParts, endOfAuthority_eq, parseAuthority_text, parsePath_text]
  refine ⟨?_, ?_, ?_⟩
  · have copied : cString (url.copyHost parts.text parts.host.length).host = _ := cString_copyHost hostRoom
    rw [cString_eq_self string_text, take_text] at copied
    exact copied
  · cases parts.port with
    | none => rfl
    | some text =>
        have digits : parsePort 0 (text ++ parts.path) = _ := parsePort_eq (Nat.two_pow_pos 16)
        rw [takeWhile_port] at digits
        exact digits
  · rw [Parts.fullPath]
    split
    · have ended : cString ([slashChar] ++ 0 :: url.path.drop 2) = cString [slashChar] := cString_append_zero
      exact ended.trans (by decide)
    · have room : (strncpy parts.path (pathSize - 1)).length < url.path.length := by
        rw [length_strncpy, pathRoom]
        decide
      have terminated := cString_overwrite room
      rw [length_strncpy, cString_strncpy, cString_eq_self parts.pathPlain] at terminated
      exact terminated

/-- A character of a scheme or a host. -/
def plain (char : UInt8) : Bool := char ≠ slashChar && char ≠ colonChar

/-- `"http://"` is skipped. -/
def stripped (url : List UInt8) : List UInt8 := if url.take 7 = http ++ schemeEnd then url.drop 7 else url

theorem skipped_append (starts : text.take 7 = http ++ schemeEnd) : http ++ (schemeEnd ++ text.drop 7) = text := by
  rw [← List.append_assoc, ← starts]
  exact List.take_append_drop 7 text

theorem parseUrl_eq (string : 0 ∉ text) : parseUrl text =
    (0, { emptyUrl with protocol := overwrite emptyUrl.protocol (http ++ [0]) }.parseParts (stripped text)) := by
  have same : strncmp text (http ++ schemeEnd) 7 = 0 ↔ text.take 7 = http ++ schemeEnd := by
    rw [strncmp_eq_zero, cString_eq_self string]
    rfl
  rw [parseUrl, stripped]
  by_cases skips : text.take 7 = http ++ schemeEnd
  · rw [if_pos (same.mpr skips), if_pos skips]
  · rw [if_neg (fun equal => skips (same.mp equal)), if_neg skips]

/-- What is found in a string with these parts behind the scheme. -/
theorem parseUrl_parts (string : 0 ∉ text) (isText : stripped text = parts.text) :
    cString (parseUrl text).2.host = parts.host.take (hostSize - 1) ∧
      (parseUrl text).2.port = parts.port.elim 80 (fun text => decimalValue (text.takeWhile isDigit) % 2 ^ 16) ∧
        cString (parseUrl text).2.path = parts.fullPath.take (pathSize - 1) := by
  have hostRoom : emptyUrl.host.length = hostSize := List.length_replicate
  have pathRoom : emptyUrl.path.length = pathSize := List.length_replicate
  rw [parseUrl_eq string, isText]
  exact parseParts_text hostRoom pathRoom

theorem takeWhile_plain {front rest : List UInt8} (isPlain : ∀ char ∈ front, plain char = true)
    (ends : ∀ char ∈ rest.head?, plain char = false) : (front ++ rest).takeWhile plain = front := by
  rw [List.takeWhile_append_of_pos isPlain]
  cases rest with
  | nil => rw [List.takeWhile_nil, List.append_nil]
  | cons char rest => rw [List.takeWhile_cons_of_neg (ne_true_of_eq_false (ends char rfl)), List.append_nil]

theorem plain_of_mem {front : List UInt8} {char : UInt8} (slashless : slashChar ∉ front) (colonless : colonChar ∉ front)
    (member : char ∈ front) : plain char = true := by
  have different : char ≠ slashChar ∧ char ≠ colonChar :=
    ⟨fun same => slashless (same ▸ member), fun same => colonless (same ▸ member)⟩
  simpa [plain] using different

theorem plain_http : ∀ char ∈ http, plain char = true := List.all_eq_true.mp rfl

/-- Strings that are the same are split alike at their first separator. -/
theorem plain_cancel {front rest other behind : List UInt8} (same : front ++ rest = other ++ behind)
    (frontPlain : ∀ char ∈ front, plain char = true) (otherPlain : ∀ char ∈ other, plain char = true)
    (restEnds : ∀ char ∈ rest.head?, plain char = false) (behindEnds : ∀ char ∈ behind.head?, plain char = false) :
    front = other ∧ rest = behind := by
  have fronts : front = other := by
    rw [← takeWhile_plain frontPlain restEnds, same, takeWhile_plain otherPlain behindEnds]
  subst fronts
  exact ⟨rfl, List.append_cancel_left same⟩

/-- The components of an address that fit into `url_t`. -/
structure Address where
  host : List UInt8
  port : Nat
  path : List UInt8
  hostPlain : slashChar ∉ host ∧ colonChar ∉ host ∧ 0 ∉ host
  hostShort : host.length ≤ 255
  portSmall : port ≤ 65535
  pathStart : path.head? = some slashChar
  pathPlain : 0 ∉ path
  pathShort : path.length ≤ 255

namespace Address

variable (address : Address)

/-- The port is written, or left out. -/
def portText (withPort : Bool) : List UInt8 := if withPort then colonChar :: numeral address.port else []

/-- The address as a string, with or without `"http://"`. -/
def render (withScheme withPort : Bool) : List UInt8 :=
  (if withScheme then http ++ schemeEnd else []) ++ (address.host ++ (address.portText withPort ++ address.path))

/-- The parts of the string behind the scheme. -/
def written (withPort : Bool) : Parts where
  host := address.host
  port := if withPort then some (numeral address.port) else none
  path := address.path
  hostPlain := address.hostPlain
  portPlain := by
    intro text isPort
    have digits : text = numeral address.port := by
      cases withPort with
      | true => exact (Option.some.inj isPort).symm
      | false => cases isPort
    subst digits
    have apart {char : UInt8} (member : char ∈ numeral address.port) : char ≠ slashChar ∧ char ≠ 0 := by
      constructor
      · rintro rfl
        exact absurd (isDigit_numeral member) (by decide)
      · rintro rfl
        exact absurd (isDigit_numeral member) (by decide)
    exact ⟨fun member => (apart member).1 rfl, fun member => (apart member).2 rfl⟩
  pathStart := Or.inr address.pathStart
  pathPlain := address.pathPlain

end Address

variable {address : Address} {withScheme withPort : Bool}

theorem render_written : address.render withScheme withPort =
    (if withScheme then http ++ schemeEnd else []) ++ (address.written withPort).text := by
  cases withPort with
  | true => rfl
  | false => rfl

/-- An address without a scheme does not start like one with `"http://"`. -/
theorem written_take : (address.written withPort).text.take 7 ≠ http ++ schemeEnd := by
  intro starts
  have same : address.host ++ (address.portText withPort ++ address.path) =
      http ++ (schemeEnd ++ (address.written withPort).text.drop 7) := by
    rw [skipped_append starts]
    cases withPort with
    | true => rfl
    | false => rfl
  obtain ⟨slashes, isPath⟩ := List.head?_eq_some_iff.mp address.pathStart
  have ends : ∀ char ∈ (address.portText withPort ++ address.path).head?, plain char = false := by
    rw [isPath]
    cases withPort with
    | true => rintro char ⟨⟩; rfl
    | false => rintro char ⟨⟩; rfl
  have hostPlain (char : UInt8) (member : char ∈ address.host) : plain char = true :=
    plain_of_mem address.hostPlain.1 address.hostPlain.2.1 member
  obtain ⟨_, behind⟩ := plain_cancel same hostPlain plain_http ends (by rintro char ⟨⟩; rfl)
  cases withPort with
  | true =>
      have digits : numeral address.port ++ address.path = _ := (List.cons.inj behind).2
      obtain ⟨digit, more, isNumeral⟩ := List.exists_cons_of_ne_nil (numeral_ne_nil : numeral address.port ≠ [])
      have first : digit ∈ numeral address.port := by
        rw [isNumeral]
        exact List.mem_cons_self
      rw [isNumeral] at digits
      have slash : digit = slashChar := (List.cons.inj digits).1
      rw [slash] at first
      exact absurd (isDigit_numeral first) (by decide)
  | false =>
      have path : address.path = colonChar :: _ := behind
      rw [isPath] at path
      exact absurd (List.cons.inj path).1 (by decide)

theorem stripped_render : stripped (address.render withScheme withPort) = (address.written withPort).text := by
  rw [render_written]
  cases withScheme with
  | true => exact if_pos rfl
  | false => exact if_neg written_take

theorem string_render : 0 ∉ address.render withScheme withPort := by
  rw [render_written, List.mem_append, not_or]
  refine ⟨?_, string_text⟩
  cases withScheme with
  | true => decide
  | false => exact nofun

/-- Parsing inverts rendering. -/
theorem parseUrl_render (address : Address) (withScheme withPort : Bool) :
    (parseUrl (address.render withScheme withPort)).1 = 0 ∧
      cString (parseUrl (address.render withScheme withPort)).2.host = address.host ∧
        (parseUrl (address.render withScheme withPort)).2.port = (if withPort then address.port else 80) ∧
          cString (parseUrl (address.render withScheme withPort)).2.path = address.path := by
  have behind : stripped (address.render withScheme withPort) = (address.written withPort).text := stripped_render
  obtain ⟨host, port, path⟩ := parseUrl_parts string_render behind
  refine ⟨rfl, ?_, ?_, ?_⟩
  · rw [host]
    exact List.take_of_length_le address.hostShort
  · rw [port]
    cases withPort with
    | false => rfl
    | true =>
        have digits : (numeral address.port).takeWhile isDigit = numeral address.port :=
          takeWhile_isDigit fun char member => isDigit_numeral member
        have small : address.port < 2 ^ 16 := Nat.lt_succ_of_le address.portSmall
        have value : decimalValue ((numeral address.port).takeWhile isDigit) % 2 ^ 16 = address.port := by
          rw [digits, decimalValue_numeral, Nat.mod_eq_of_lt small]
        exact value
  · have written : (address.written withPort).fullPath = address.path := by
      refine if_neg fun empty => ?_
      have starts := address.pathStart
      rw [show address.path = [] from empty] at starts
      cases starts
    rw [path, written]
    exact List.take_of_length_le address.pathShort

/-- `10.0:8080/a:b` -/
def portAddress : Address where
  host := [0x31, 0x30, 0x2E, 0x30]
  port := 8080
  path := [slashChar, 0x61, colonChar, 0x62]
  hostPlain := by decide
  hostShort := by decide
  portSmall := by decide
  pathStart := rfl
  pathPlain := by decide
  pathShort := by decide

theorem parseUrl_render_port :
    portAddress.render true true = http ++ schemeEnd ++
      [0x31, 0x30, 0x2E, 0x30, colonChar, 0x38, 0x30, 0x38, 0x30, slashChar, 0x61, colonChar, 0x62] ∧
    (parseUrl (portAddress.render true true)).1 = 0 ∧
    cString (parseUrl (portAddress.render true true)).2.host = [0x31, 0x30, 0x2E, 0x30] ∧
    (parseUrl (portAddress.render true true)).2.port = 8080 ∧
    cString (parseUrl (portAddress.render true true)).2.path = [slashChar, 0x61, colonChar, 0x62] :=
  ⟨by decide, parseUrl_render portAddress true true⟩

end AutismOS.Browser
