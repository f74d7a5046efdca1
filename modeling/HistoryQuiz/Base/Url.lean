import HistoryQuiz.Base.Trim

/-!
# The origin of a URL

What a browser makes of a string that it resolves against the URL of a page: the basic URL
parser of the WHATWG standard, up to the path, since nothing after it changes the origin.
The host parser is a parameter.

`forall_page_iff`: a string that starts with a slash stays on every page exactly when its
normal form does not start with two.
-/

namespace Url

/-! ## The parser -/

def isC0ControlOrSpace (c : Char) : Bool := c.toNat ≤ 0x20

def isTabOrNewline (c : Char) : Bool := c = '\t' || c = '\n' || c = '\r'

/-- The input without the controls and spaces at its ends, and without tabs and newlines. -/
def normalize (input : String) : List Char :=
  (Trim.trim isC0ControlOrSpace input.toList).filter fun c => !isTabOrNewline c

/-- The port of a special scheme other than `file`. -/
def defaultPort (scheme : String) : Option ℕ :=
  [("ftp", 21), ("http", 80), ("https", 443), ("ws", 80), ("wss", 443)].lookup scheme

/-- A scheme, a serialized host, and a port, unless it is that of the scheme. -/
structure Origin where
  scheme : String
  host : String
  port : Option ℕ
deriving DecidableEq, Repr

/-- The origin of a page that is served over http or https. -/
structure Page where
  origin : Origin
  http : origin.scheme = "http" ∨ origin.scheme = "https"
  port : ∀ p ∈ origin.port, p < 65536 ∧ some p ≠ defaultPort origin.scheme

def isSchemeChar (c : Char) : Bool := c.isAlphanum || c = '+' || c = '-' || c = '.'

/-- A scheme at the start, and what comes after its colon. -/
def parseScheme (input : List Char) : Option (String × List Char) :=
  match input.dropWhile isSchemeChar with
  | ':' :: rest =>
      if (input.head?.map Char.isAlpha).getD false then
        some (String.ofList ((input.takeWhile isSchemeChar).map Char.toLower), rest)
      else none
  | _ => none

/-- In the URL of a special scheme a backslash is a slash. -/
def isSlash (c : Char) : Bool := c = '/' || c = '\\'

/-- The host and the port, split at the first colon that is not in brackets. -/
def splitPort (insideBrackets : Bool) : List Char → List Char × List Char
  | [] => ([], [])
  | c :: rest =>
      if c = ':' ∧ insideBrackets = false then ([], rest)
      else
        let inside := if c = '[' then true else if c = ']' then false else insideBrackets
        let (host, port) := splitPort inside rest
        (c :: host, port)

/-- The port, if there is one, or nothing when it is refused. -/
def parsePort (scheme : String) (digits : List Char) : Option (Option ℕ) :=
  if !digits.all Char.isDigit then none
  else if digits = [] then some none
  else
    let port := digits.foldl (fun n c => 10 * n + (c.toNat - 48)) 0
    if 65535 < port then none
    else some (if some port = defaultPort scheme then none else some port)

/-- The origin of what follows the slashes before an authority; credentials end at the last
`@`. -/
def parseAuthority (hosts : List Char → Option String) (scheme : String) (input : List Char) :
    Option Origin := do
  let authority := input.takeWhile fun c => c ∉ ['/', '?', '#', '\\']
  let (host, port) := splitPort false ((authority.splitOn '@').getLastD [])
  guard (host ≠ [])
  let host ← hosts host
  let port ← parsePort scheme port
  return ⟨scheme, host, port⟩

/-- Two slashes start a new authority. -/
def startsAuthority : List Char → Bool
  | first :: second :: _ => isSlash first && isSlash second
  | _ => false

/-- The origin of an input without a scheme, or with that of the page. -/
def relative (hosts : List Char → Option String) (page : Page) (input : List Char) :
    Option Origin :=
  if startsAuthority input then
    parseAuthority hosts page.origin.scheme (input.dropWhile isSlash)
  else some page.origin

/-- The origin of what an input means on a page; nothing when it is no URL, or when its origin
is opaque. -/
def resolve (hosts : List Char → Option String) (page : Page) (input : String) : Option Origin :=
  match parseScheme (normalize input) with
  | none => relative hosts page (normalize input)
  | some (scheme, rest) =>
      if (defaultPort scheme).isNone then none
      else if scheme = page.origin.scheme then relative hosts page rest
      else parseAuthority hosts scheme (rest.dropWhile isSlash)

/-! ## Paths -/

variable {hosts : List Char → Option String} {input : String}

theorem rdropWhile_slash (rest : List Char) :
    ('/' :: rest).rdropWhile isC0ControlOrSpace = '/' :: rest.rdropWhile isC0ControlOrSpace := by
  induction rest using List.reverseRecOn with
  | nil => rfl
  | append_singleton rest c ih =>
      rw [← List.cons_append, List.rdropWhile_concat, List.rdropWhile_concat]
      by_cases hc : isC0ControlOrSpace c = true
      · rw [if_pos hc, if_pos hc]
        exact ih
      · rw [if_neg hc, if_neg hc]
        rfl

/-- A slash at the start stays. -/
theorem normalize_slash {rest : List Char} (h : input.toList = '/' :: rest) :
    normalize input =
      '/' :: (rest.rdropWhile isC0ControlOrSpace).filter fun c => !isTabOrNewline c := by
  unfold normalize Trim.trim
  rw [h, List.dropWhile_cons_of_neg (by decide), rdropWhile_slash]
  rfl

/-- Whether the first character that is no tab and no newline is a slash: what is cut off at
the right end is none. -/
theorem find?_rdropWhile (rest : List Char) :
    (((rest.rdropWhile isC0ControlOrSpace).find? fun c => !isTabOrNewline c).map isSlash).getD
        false = ((rest.find? fun c => !isTabOrNewline c).map isSlash).getD false := by
  induction rest using List.reverseRecOn with
  | nil => rfl
  | append_singleton rest c ih =>
      rw [List.rdropWhile_concat]
      by_cases hc : isC0ControlOrSpace c = true
      · -- what is cut off is no slash
        have hslash : isSlash c = false := by
          unfold isSlash
          have hne : c ≠ '/' ∧ c ≠ '\\' := by
            constructor <;> rintro rfl <;> exact absurd hc (by decide)
          simp [hne]
        rw [if_pos hc, ih, List.find?_append]
        cases rest.find? fun c => !isTabOrNewline c with
        | some first => rfl
        | none =>
            rw [List.find?_singleton]
            split_ifs
            · exact hslash.symm
            · rfl
      · rw [if_neg hc]

/-- A new authority is started by what follows the slash, but for tabs and newlines. -/
theorem startsAuthority_normalize {rest : List Char} (h : input.toList = '/' :: rest) :
    startsAuthority (normalize input) =
      ((rest.find? fun c => !isTabOrNewline c).map isSlash).getD false := by
  rw [← find?_rdropWhile, ← List.head?_filter, normalize_slash h]
  cases (rest.rdropWhile isC0ControlOrSpace).filter fun c => !isTabOrNewline c with
  | nil => rfl
  | cons c _ => rfl

/-- An input that starts with a slash has no scheme. -/
theorem resolve_slash (page : Page) {rest : List Char} (h : input.toList = '/' :: rest) :
    resolve hosts page input = relative hosts page (normalize input) := by
  have hscheme : parseScheme (normalize input) = none := by
    rw [normalize_slash h]
    rfl
  unfold resolve
  rw [hscheme]

/-- A page whose port is not that of another origin. -/
theorem exists_page_ne (origin : Option Origin) : ∃ page : Page, page.origin.scheme = "http" ∧
    some page.origin ≠ origin := by
  by_cases h : origin = some ⟨"http", "page.example", none⟩
  · refine ⟨⟨⟨"http", "page.example", some 8080⟩, .inl rfl, ?_⟩, rfl, ?_⟩
    · rintro p ⟨⟩
      decide
    · rw [h]
      decide
  · exact ⟨⟨⟨"http", "page.example", none⟩, .inl rfl, by rintro p ⟨⟩⟩, rfl, fun heq => h heq.symm⟩

/-- A path stays on every page, and a new authority leads away from some page. -/
theorem forall_page_iff {rest : List Char} (h : input.toList = '/' :: rest) :
    (∀ page, resolve hosts page input = some page.origin) ↔
      startsAuthority (normalize input) = false := by
  constructor
  · intro hall
    by_contra hstarts
    rw [Bool.not_eq_false] at hstarts
    -- the authority does not depend on the page, so it differs from the origin of one
    obtain ⟨page, hscheme, hne⟩ := exists_page_ne
      (parseAuthority hosts "http" ((normalize input).dropWhile isSlash))
    refine hne ?_
    rw [← hall page, resolve_slash page h]
    unfold relative
    rw [if_pos hstarts, hscheme]
  · intro hstarts page
    rw [resolve_slash page h]
    unfold relative
    rw [if_neg (by rw [hstarts]; decide)]

end Url
