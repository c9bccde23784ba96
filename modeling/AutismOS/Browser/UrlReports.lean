import AutismOS.Browser.Urls

namespace AutismOS.Browser

open AutismOS.Library

variable {parts : Parts} {url rest front text : List UInt8} {result : Url}

/-! What is reported of a URL. -/

/-- The part without a scheme, up to the path. -/
def authority (rest : List UInt8) : List UInt8 := rest.takeWhile (· ≠ slashChar)

def hostOf (rest : List UInt8) : List UInt8 := (authority rest).takeWhile (· ≠ colonChar)

/-- What stands behind the colon, if there is one. -/
def portOf (rest : List UInt8) : Option (List UInt8) :=
  match (authority rest).dropWhile (· ≠ colonChar) with
  | [] => none
  | _ :: text => some text

/-- A path that is not written is `"/"`. -/
def pathOf (rest : List UInt8) : List UInt8 :=
  match rest.dropWhile (· ≠ slashChar) with
  | [] => [slashChar]
  | char :: path => char :: path

/-- The scheme, if one is written, and what follows it. -/
def splitScheme (url : List UInt8) : Option (List UInt8) × List UInt8 :=
  let front := url.takeWhile plain
  let behind := url.dropWhile plain
  if behind.take 3 = schemeEnd then (some front, behind.drop 3) else (none, url)

/-- The digits of a port, and nothing else. -/
def Digits (text : List UInt8) : Prop := ∀ char ∈ text, isDigit char = true

instance : DecidablePred Digits := fun text => List.decidableBAll (fun char => isDigit char = true) text

/-- Host and path are complete, and a port that is written has its value. -/
structure Reports (url : List UInt8) (result : Url) : Prop where
  host : cString result.host = hostOf (splitScheme url).2
  path : cString result.path = pathOf (splitScheme url).2
  port : ∀ text ∈ portOf (splitScheme url).2, Digits text ∧ result.port = decimalValue text

/-- Host, port and path fit into the structure. -/
structure Representable (url : List UInt8) : Prop where
  host : (hostOf (splitScheme url).2).length < hostSize
  path : (pathOf (splitScheme url).2).length < pathSize
  port : ∀ text ∈ portOf (splitScheme url).2, Digits text ∧ decimalValue text < 2 ^ 16

/-- What is accepted is reported as it is, and what cannot be is rejected. -/
def NeverMisreports (url : List UInt8) : Prop :=
  ((parseUrl url).1 = 0 → Reports url (parseUrl url).2) ∧ (¬ Representable url → (parseUrl url).1 ≠ 0)

/-- There is no scheme, or it is `"http"`. -/
def Supported (url : List UInt8) : Prop := (splitScheme url).1 = none ∨ (splitScheme url).1 = some http

/-- A scheme that is the host, too, before a path that repeats what stands before it, and with no port but 0. -/
structure Coincides (url scheme : List UInt8) : Prop where
  written : (splitScheme url).1 = some scheme
  host : scheme.take (hostSize - 1) = hostOf (splitScheme url).2
  path : ([slashChar, slashChar] ++ (splitScheme url).2).take (pathSize - 1) = pathOf (splitScheme url).2
  port : ∀ text ∈ portOf (splitScheme url).2, Digits text ∧ decimalValue text = 0

theorem mem_authority {char : UInt8} (member : char ∈ authority rest) : char ∈ rest ∧ char ≠ slashChar := by
  have all := List.all_eq_true.mp (List.all_takeWhile : (rest.takeWhile (· ≠ slashChar)).all _ = true) char member
  exact ⟨List.takeWhile_subset _ member, of_decide_eq_true all⟩

theorem mem_hostOf {char : UInt8} (member : char ∈ hostOf rest) : char ∈ authority rest ∧ char ≠ colonChar := by
  have all := List.all_eq_true.mp (List.all_takeWhile : ((authority rest).takeWhile (· ≠ colonChar)).all _ = true) char member
  exact ⟨List.takeWhile_subset _ member, of_decide_eq_true all⟩

/-- The authority is the host, and a port behind a colon. -/
theorem authority_split : authority rest = hostOf rest ++ (portOf rest).elim [] (colonChar :: ·) := by
  have split : hostOf rest ++ (authority rest).dropWhile (· ≠ colonChar) = authority rest := List.takeWhile_append_dropWhile
  have colon := List.head?_dropWhile_not (fun char => decide (char ≠ colonChar)) (authority rest)
  rw [portOf]
  cases behind : (authority rest).dropWhile (· ≠ colonChar) with
  | nil =>
      rw [behind] at split
      exact split.symm
  | cons char text =>
      rw [behind] at split colon
      have same : char = colonChar := not_not.mp (of_decide_eq_false colon)
      rw [same] at split
      exact split.symm

/-- The path starts with a slash if it is written. -/
theorem path_start : rest.dropWhile (· ≠ slashChar) = [] ∨ (rest.dropWhile (· ≠ slashChar)).head? = some slashChar := by
  have slash := List.head?_dropWhile_not (fun char => decide (char ≠ slashChar)) rest
  cases behind : rest.dropWhile (· ≠ slashChar) with
  | nil => exact Or.inl rfl
  | cons char path =>
      rw [behind] at slash
      exact Or.inr (congrArg some (not_not.mp (of_decide_eq_false slash)))

/-- Every string has parts, which are what it says. -/
theorem exists_parts (string : 0 ∉ rest) :
    ∃ parts : Parts, parts.text = rest ∧ parts.host = hostOf rest ∧ parts.port = portOf rest ∧ parts.fullPath = pathOf rest := by
  have port (text : List UInt8) (isPort : text ∈ portOf rest) : slashChar ∉ text ∧ 0 ∉ text := by
    have inside (char : UInt8) (member : char ∈ text) : char ∈ authority rest := by
      rw [authority_split, isPort]
      exact List.mem_append_right _ (List.mem_cons_of_mem _ member)
    exact ⟨fun member => (mem_authority (inside _ member)).2 rfl, fun member => string (mem_authority (inside _ member)).1⟩
  let parts : Parts :=
    { host := hostOf rest
      port := portOf rest
      path := rest.dropWhile (· ≠ slashChar)
      hostPlain := ⟨fun member => (mem_authority (mem_hostOf member).1).2 rfl, fun member => (mem_hostOf member).2 rfl,
        fun member => string (mem_authority (mem_hostOf member).1).1⟩
      portPlain := port
      pathStart := path_start
      pathPlain := fun member => string (List.dropWhile_subset _ member) }
  refine ⟨parts, ?_, rfl, rfl, ?_⟩
  · rw [Parts.text, ← List.append_assoc]
    have whole : authority rest ++ rest.dropWhile (· ≠ slashChar) = rest := List.takeWhile_append_dropWhile
    rw [authority_split] at whole
    exact whole
  · rw [Parts.fullPath, pathOf]
    change (if rest.dropWhile (· ≠ slashChar) = [] then _ else rest.dropWhile (· ≠ slashChar)) = _
    cases rest.dropWhile (· ≠ slashChar) with
    | nil => rfl
    | cons char path => exact if_neg (List.cons_ne_nil _ _)

/-- Either nothing is split off, or a scheme with what follows it. -/
theorem splitScheme_cases (url : List UInt8) :
    ((splitScheme url).1 = none ∧ (splitScheme url).2 = url ∧ (url.dropWhile plain).take 3 ≠ schemeEnd) ∨
      ∃ front, (splitScheme url).1 = some front ∧ url = front ++ (schemeEnd ++ (splitScheme url).2) ∧
        ∀ char ∈ front, plain char = true := by
  rw [splitScheme]
  by_cases ends : (url.dropWhile plain).take 3 = schemeEnd
  · refine Or.inr ⟨url.takeWhile plain, ?_, ?_, fun char member => List.all_eq_true.mp List.all_takeWhile char member⟩
    · rw [if_pos ends]
    · rw [if_pos ends]
      have behind : schemeEnd ++ (url.dropWhile plain).drop 3 = url.dropWhile plain := by
        rw [← ends]
        exact List.take_append_drop 3 _
      rw [behind]
      exact List.takeWhile_append_dropWhile.symm
  · rw [if_neg ends]
    exact Or.inl ⟨rfl, rfl, ends⟩

theorem string_rest (string : 0 ∉ url) : 0 ∉ (splitScheme url).2 := by
  rcases splitScheme_cases url with ⟨_, whole, _⟩ | ⟨front, _, split, _⟩
  · rw [whole]
    exact string
  · intro member
    apply string
    rw [split]
    exact List.mem_append_right _ (List.mem_append_right _ member)

/-- Of a URL with no scheme, or with `"http"`, the parser skips just that. -/
theorem stripped_supported (supported : Supported url) : stripped url = (splitScheme url).2 := by
  rcases splitScheme_cases url with ⟨_, whole, ends⟩ | ⟨front, scheme, split, _⟩
  · rw [whole]
    refine if_neg fun starts => ends ?_
    rw [← skipped_append starts]
    rfl
  · have isHttp : front = http := by
      rcases supported with none | http
      · rw [scheme] at none
        cases none
      · rw [scheme] at http
        exact Option.some.inj http
    rw [isHttp] at split
    generalize (splitScheme url).2 = rest at split
    rw [split]
    exact if_pos rfl

/-- Of another scheme it skips nothing. -/
theorem stripped_other (split : url = front ++ (schemeEnd ++ rest)) (frontPlain : ∀ char ∈ front, plain char = true)
    (other : front ≠ http) : stripped url = url := by
  refine if_neg fun starts => other ?_
  have same : http ++ (schemeEnd ++ url.drop 7) = url := skipped_append starts
  rw [split] at same
  exact (plain_cancel same plain_http frontPlain (by rintro char ⟨⟩; rfl) (by rintro char ⟨⟩; rfl)).1.symm

theorem Representable.reports (representable : Representable url) (string : 0 ∉ url) (supported : Supported url) :
    Reports url (parseUrl url).2 := by
  obtain ⟨parts, isText, isHost, isPort, isPath⟩ := exists_parts (string_rest string)
  obtain ⟨host, port, path⟩ := parseUrl_parts string ((stripped_supported supported).trans isText.symm)
  refine ⟨?_, ?_, fun text written => ?_⟩
  · rw [host, isHost]
    exact List.take_of_length_le (Nat.le_pred_of_lt representable.host)
  · rw [path, isPath]
    exact List.take_of_length_le (Nat.le_pred_of_lt representable.path)
  · obtain ⟨digits, small⟩ := representable.port text written
    rw [port, isPort, written]
    refine ⟨digits, ?_⟩
    rw [Option.elim_some, takeWhile_isDigit digits, Nat.mod_eq_of_lt small]

/-- Of another scheme, the scheme is reported as the host, and what follows its colon as the path. -/
theorem other_reports_iff (string : 0 ∉ url) (scheme : (splitScheme url).1 = some front)
    (split : url = front ++ (schemeEnd ++ (splitScheme url).2)) (frontPlain : ∀ char ∈ front, plain char = true)
    (other : front ≠ http) : Reports url (parseUrl url).2 ↔ Coincides url front := by
  have hostPlain : slashChar ∉ front ∧ colonChar ∉ front ∧ 0 ∉ front := by
    refine ⟨fun member => ?_, fun member => ?_, fun member => string ?_⟩
    · exact absurd (frontPlain _ member) (by decide)
    · exact absurd (frontPlain _ member) (by decide)
    · rw [split]
      exact List.mem_append_left _ member
  have pathPlain : 0 ∉ [slashChar, slashChar] ++ (splitScheme url).2 := by
    rw [List.mem_append, not_or]
    exact ⟨by decide, string_rest string⟩
  let found : Parts :=
    { host := front
      port := some []
      path := [slashChar, slashChar] ++ (splitScheme url).2
      hostPlain
      portPlain := by
        rintro text ⟨⟩
        exact ⟨nofun, nofun⟩
      pathStart := Or.inr rfl
      pathPlain }
  have isText : url = found.text := split
  obtain ⟨host, port, path⟩ := parseUrl_parts string ((stripped_other split frontPlain other).trans isText)
  constructor
  · intro reports
    refine ⟨scheme, host.symm.trans reports.host, path.symm.trans reports.path, fun text written => ?_⟩
    obtain ⟨digits, value⟩ := reports.port text written
    exact ⟨digits, value.symm.trans port⟩
  · intro coincides
    refine ⟨host.trans coincides.host, path.trans coincides.path, fun text written => ?_⟩
    obtain ⟨digits, zero⟩ := coincides.port text written
    exact ⟨digits, port.trans zero.symm⟩

/-- A URL is not misreported exactly when its parts fit and its scheme, if it has one, is `"http"`, or happens to repeat
the host. -/
theorem parseUrl_faithful_iff (string : 0 ∉ url) :
    NeverMisreports url ↔ Representable url ∧ (Supported url ∨ ∃ scheme, Coincides url scheme) := by
  constructor
  · rintro ⟨reports, rejects⟩
    refine ⟨not_not.mp fun large => rejects large rfl, ?_⟩
    rcases splitScheme_cases url with ⟨none, _, _⟩ | ⟨front, scheme, split, frontPlain⟩
    · exact Or.inl (Or.inl none)
    · by_cases isHttp : front = http
      · rw [isHttp] at scheme
        exact Or.inl (Or.inr scheme)
      · exact Or.inr ⟨front, (other_reports_iff string scheme split frontPlain isHttp).mp (reports rfl)⟩
  · rintro ⟨representable, cases⟩
    refine ⟨fun _ => ?_, fun large => absurd representable large⟩
    by_cases supported : Supported url
    · exact representable.reports string supported
    · obtain ⟨scheme, coincides⟩ := cases.resolve_left supported
      rcases splitScheme_cases url with ⟨none, _, _⟩ | ⟨front, isScheme, split, frontPlain⟩
      · exact absurd (Or.inl none) supported
      · have other : front ≠ http := by
          rintro rfl
          exact supported (Or.inr isScheme)
        cases isScheme.symm.trans coincides.written
        exact (other_reports_iff string isScheme split frontPlain other).mpr coincides

/-- `"http://a:80/b"` -/
theorem parseUrl_faithful_port : NeverMisreports (http ++ schemeEnd ++ [0x61, 0x3A, 0x38, 0x30, 0x2F, 0x62]) := by
  have string : 0 ∉ http ++ schemeEnd ++ [0x61, 0x3A, 0x38, 0x30, 0x2F, 0x62] := by decide
  have representable : Representable (http ++ schemeEnd ++ [0x61, 0x3A, 0x38, 0x30, 0x2F, 0x62]) := by
    refine ⟨by decide, by decide, ?_⟩
    rintro text ⟨⟩
    exact ⟨by decide, by decide⟩
  exact (parseUrl_faithful_iff string).mpr ⟨representable, Or.inl (Or.inr rfl)⟩

/-- The port of `"a:65616/"` is reported as 80, that of `"a:8x/"` as 8, `"https"` as the host of `"https://a/b"`, and
255 characters of a host of 256. -/
theorem parseUrl_misreports :
    ¬ NeverMisreports [0x61, 0x3A, 0x36, 0x35, 0x36, 0x31, 0x36, 0x2F] ∧
      ¬ NeverMisreports [0x61, 0x3A, 0x38, 0x78, 0x2F] ∧
        ¬ NeverMisreports ([0x68, 0x74, 0x74, 0x70, 0x73] ++ schemeEnd ++ [0x61, 0x2F, 0x62]) ∧
          ¬ NeverMisreports (List.replicate 256 0x61) := by
  refine ⟨fun never => ?_, fun never => ?_, fun never => ?_, fun never => ?_⟩
  · have value := ((never.1 rfl).port _ rfl).2
    exact absurd value (by decide +kernel)
  · have stray := ((never.1 rfl).port _ rfl).1 0x78
    exact absurd (stray (by decide)) (by decide)
  · have host := (never.1 rfl).host
    exact absurd host (by decide +kernel)
  · have host := (never.1 rfl).host
    exact absurd host (by decide +kernel)

end AutismOS.Browser
