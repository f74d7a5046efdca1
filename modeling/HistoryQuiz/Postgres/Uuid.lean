import Mathlib.Data.BitVec
import Mathlib.Data.Nat.Digits.Defs
import Mathlib.Tactic.Ring

/-!
# UUIDs and their texts

A UUID is a 128-bit value. PostgreSQL prints it (`id::text`) in the canonical
form, lower-case hexadecimal digits grouped 8-4-4-4-12: `Uuid.text`.

Two readers turn texts back into values, and they accept different spellings:
`uuid.Parse` of `github.com/google/uuid`, by which the use cases validate their
arguments, and the `::uuid` cast of PostgreSQL, by which the statements find
rows. Neither is part of the repository, so the model takes both as parameters
(`UuidReaders`) and assumes of each that it reads the canonical text back; where it
matters, that they do not read one text as two ids (`UuidReaders.Agree`).
`documentedReaders` is an instance that accepts the documented spellings.
-/

namespace HistoryQuiz

abbrev Uuid := BitVec 128

/-- One instance for every membership test among ids. -/
instance : LawfulBEq Uuid := inferInstance

/-- The lower-case hexadecimal digit of a number below sixteen. -/
def hexDigit (n : ℕ) : Char := if n < 10 then Char.ofNat (48 + n) else Char.ofNat (87 + n)

/-- The last `n` hexadecimal digits of a number. -/
def hexDigits : ℕ → ℕ → List Char
  | 0, _ => []
  | n + 1, value => hexDigits n (value / 16) ++ [hexDigit (value % 16)]

/-- `id::text`: the canonical text of a UUID. -/
def Uuid.text (u : Uuid) : String :=
  let digits := hexDigits 32 u.toNat
  String.ofList (digits.take 8 ++ '-' :: (digits.drop 8).take 4 ++ '-' :: (digits.drop 12).take 4 ++
    '-' :: (digits.drop 16).take 4 ++ '-' :: digits.drop 20)

example : Uuid.text 0x1001 = "00000000-0000-0000-0000-000000001001" := by decide

/-- The version nibble and the variant bits of the values of `gen_random_uuid()`. -/
def Uuid.isRandom (u : Uuid) : Bool :=
  u.extractLsb' 76 4 == 4#4 && u.extractLsb' 62 2 == 2#2

/-- The values of `gen_random_uuid()`: version 4 UUIDs. -/
structure RandomUuid where
  value : Uuid
  random : value.isRandom = true
deriving DecidableEq

/-- The readers of UUID texts outside the repository. -/
structure UuidReaders where
  /-- `uuid.Parse` of the Go library. -/
  parse : String → Option Uuid
  /-- The `::uuid` cast of PostgreSQL. -/
  cast : String → Option Uuid
  parse_text : ∀ u : Uuid, parse u.text = some u
  cast_text : ∀ u : Uuid, cast u.text = some u

/-- The readers do not read one text as two ids, and no id has an empty text. -/
structure UuidReaders.Agree (io : UuidReaders) : Prop where
  same : ∀ {s u v}, io.parse s = some u → io.cast s = some v → u = v
  parse_empty : io.parse "" = none

namespace UuidReaders

attribute [simp] parse_text cast_text

/-- Different UUIDs have different texts. -/
theorem text_injective (io : UuidReaders) {u v : Uuid} (h : u.text = v.text) : u = v := by
  have := congrArg io.cast h
  simpa using this

theorem text_inj (io : UuidReaders) {u v : Uuid} : u.text = v.text ↔ u = v :=
  ⟨io.text_injective, fun h => h ▸ rfl⟩

end UuidReaders

/-! ## The documented spellings -/

/-- The value of a hexadecimal digit of either case. -/
def hexValue (c : Char) : Option ℕ :=
  if '0' ≤ c ∧ c ≤ '9' then some (c.toNat - 48)
  else if 'a' ≤ c ∧ c ≤ 'f' then some (c.toNat - 87)
  else if 'A' ≤ c ∧ c ≤ 'F' then some (c.toNat - 55)
  else none

/-- The number that hexadecimal digits denote. -/
def readHex (digits : List Char) : Option ℕ :=
  digits.foldlM (fun acc c => (hexValue c).map fun d => acc * 16 + d) 0

/-- Thirty-two digits with hyphens at positions 8, 13, 18 and 23. -/
def readHyphenated (s : List Char) : Option Uuid :=
  if s[8]? = some '-' ∧ s[13]? = some '-' ∧ s[18]? = some '-' ∧ s[23]? = some '-' then
    (readHex (s.take 8 ++ (s.drop 9).take 4 ++ (s.drop 14).take 4 ++ (s.drop 19).take 4 ++
      (s.drop 24).take 12)).map (BitVec.ofNat 128)
  else none

/-- The spellings `uuid.Parse` documents: hyphenated, with the `urn:uuid:` prefix
in any case, between two characters that are not looked at, and bare digits. -/
def parseDocumented (s : String) : Option Uuid :=
  let cs := s.toList
  if cs.length = 36 then readHyphenated cs
  else if cs.length = 45 then
    if (cs.take 9).map Char.toLower = "urn:uuid:".toList then readHyphenated (cs.drop 9) else none
  else if cs.length = 38 then readHyphenated (cs.drop 1)
  else if cs.length = 32 then (readHex cs).map (BitVec.ofNat 128)
  else none

/-- Groups of four characters with an optional hyphen between two groups; the
digits read and the characters that are left. -/
def castGroups : ℕ → List Char → Option (List Char × List Char)
  | 0, rest => some ([], rest)
  | n + 1, a :: b :: c :: d :: rest =>
      let rest' := if n ≠ 0 ∧ rest.head? = some '-' then rest.tail else rest
      (castGroups n rest').map fun r => (a :: b :: c :: d :: r.1, r.2)
  | _ + 1, _ => none

/-- The spellings the `uuid` type documents: either case, optional braces around
the whole text, an optional hyphen after every group of four digits. -/
def castDocumented (s : String) : Option Uuid :=
  let read (cs close : List Char) : Option Uuid :=
    match castGroups 8 cs with
    | some (digits, rest) => if rest = close then (readHex digits).map (BitVec.ofNat 128) else none
    | none => none
  match s.toList with
  | '{' :: cs => read cs ['\x7d']
  | cs => read cs []

theorem length_hexDigits (n value : ℕ) : (hexDigits n value).length = n := by
  induction n generalizing value with
  | zero => rfl
  | succ n ih => simp [hexDigits, ih]

theorem hexValue_hexDigit : ∀ n < 16, hexValue (hexDigit n) = some n := by decide

theorem hexDigit_ne_hyphen : ∀ n < 16, hexDigit n ≠ '-' := by decide

theorem hexDigit_ne_brace : ∀ n < 16, hexDigit n ≠ '{' := by decide

/-- Reading the last `n` digits gives the value modulo `16 ^ n`. -/
theorem readHex_hexDigits (n value : ℕ) : readHex (hexDigits n value) = some (value % 16 ^ n) := by
  induction n generalizing value with
  | zero => simp [hexDigits, readHex, Nat.mod_one]
  | succ n ih =>
      have hih : List.foldlM (fun acc c => (hexValue c).map fun d => acc * 16 + d) 0
          (hexDigits n (value / 16)) = some (value / 16 % 16 ^ n) := ih (value / 16)
      simp only [hexDigits, readHex, List.foldlM_append, hih, Option.bind_eq_bind, Option.bind_some,
        List.foldlM_cons, List.foldlM_nil, hexValue_hexDigit _ (Nat.mod_lt value (by norm_num)),
        Option.map_some, Option.pure_def]
      congr 1
      rw [pow_succ, Nat.mul_comm (16 ^ n) 16, Nat.mod_mul]
      ring

/-- The digits of a UUID, hyphenated. -/
theorem text_toList (u : Uuid) : u.text.toList =
    (hexDigits 32 u.toNat).take 8 ++ '-' :: ((hexDigits 32 u.toNat).drop 8).take 4 ++
      '-' :: ((hexDigits 32 u.toNat).drop 12).take 4 ++
      '-' :: ((hexDigits 32 u.toNat).drop 16).take 4 ++ '-' :: (hexDigits 32 u.toNat).drop 20 := by
  simp [Uuid.text]

theorem hexDigits_add (m n value : ℕ) :
    hexDigits (m + n) value = hexDigits m (value / 16 ^ n) ++ hexDigits n value := by
  induction n generalizing value with
  | zero => simp [hexDigits]
  | succ n ih =>
      rw [← Nat.add_assoc, hexDigits, hexDigits, ih, List.append_assoc, Nat.div_div_eq_div_mul,
        pow_succ']

/-- The groups of digits of a canonical text; the third and the fourth begin with the digits of
the version and of the variant. -/
theorem text_groups (u : Uuid) : u.text.toList =
    hexDigits 8 (u.toNat / 16 ^ 24) ++ '-' :: hexDigits 4 (u.toNat / 16 ^ 20) ++
      '-' :: hexDigit (u.toNat / 16 ^ 19 % 16) :: hexDigits 3 (u.toNat / 16 ^ 16) ++
      '-' :: hexDigit (u.toNat / 16 ^ 15 % 16) :: hexDigits 3 (u.toNat / 16 ^ 12) ++
      '-' :: hexDigits 12 u.toNat := by
  have hdigits : hexDigits 32 u.toNat = hexDigits 8 (u.toNat / 16 ^ 24) ++
      (hexDigits 4 (u.toNat / 16 ^ 20) ++ (hexDigits 4 (u.toNat / 16 ^ 16) ++
        (hexDigits 4 (u.toNat / 16 ^ 12) ++ hexDigits 12 u.toNat))) := by
    rw [← hexDigits_add 4 12, ← hexDigits_add 4 16, ← hexDigits_add 4 20, ← hexDigits_add 8 24]
  have hfirst : ∀ value,
      hexDigits 4 value = hexDigit (value / 16 ^ 3 % 16) :: hexDigits 3 value := by
    intro value
    rw [show 4 = 1 + 3 from rfl, hexDigits_add]
    rfl
  have hnil : ∀ m n value, n ≤ m → (hexDigits n value).drop m = [] := fun m n value hle =>
    List.drop_eq_nil_of_le ((length_hexDigits n value).trans_le hle)
  rw [text_toList, hdigits, hfirst (u.toNat / 16 ^ 16), hfirst (u.toNat / 16 ^ 12),
    Nat.div_div_eq_div_mul, Nat.div_div_eq_div_mul, ← pow_add, ← pow_add]
  simp [List.drop_append, length_hexDigits, hnil]

theorem readHex_uuid (u : Uuid) :
    (readHex (hexDigits 32 u.toNat)).map (BitVec.ofNat 128) = some u := by
  rw [readHex_hexDigits, Nat.mod_eq_of_lt (by have := u.isLt; norm_num at this ⊢; omega)]
  simp

theorem length_text (u : Uuid) : u.text.toList.length = 36 := by
  simp [text_toList, length_hexDigits]

theorem Uuid.text_ne_empty (u : Uuid) : u.text ≠ "" := by
  intro h
  have hlen := length_text u
  rw [h] at hlen
  simp at hlen

theorem mem_hexDigits {n value : ℕ} {c : Char} (h : c ∈ hexDigits n value) :
    ∃ d < 16, c = hexDigit d := by
  induction n generalizing value with
  | zero => simp [hexDigits] at h
  | succ n ih =>
      rw [hexDigits, List.mem_append, List.mem_singleton] at h
      rcases h with h | h
      · exact ih h
      · exact ⟨value % 16, Nat.mod_lt value (by norm_num), h⟩

/-- The characters of a canonical text are digits and hyphens. -/
theorem Uuid.mem_text {u : Uuid} {c : Char} (h : c ∈ u.text.toList) :
    c = '-' ∨ ∃ d < 16, c = hexDigit d := by
  have hdigit : ∀ {l : List Char}, (∀ c ∈ l, c ∈ hexDigits 32 u.toNat) → c ∈ l →
      ∃ d < 16, c = hexDigit d := fun hl hc => mem_hexDigits (hl c hc)
  rw [text_toList] at h
  simp only [List.append_assoc, List.cons_append, List.mem_append, List.mem_cons] at h
  rcases h with h | h | h | h | h | h | h | h | h
  · exact .inr (hdigit (fun _ => List.mem_of_mem_take) h)
  · exact .inl h
  · exact .inr (hdigit (fun _ hc => List.mem_of_mem_drop (List.mem_of_mem_take hc)) h)
  · exact .inl h
  · exact .inr (hdigit (fun _ hc => List.mem_of_mem_drop (List.mem_of_mem_take hc)) h)
  · exact .inl h
  · exact .inr (hdigit (fun _ hc => List.mem_of_mem_drop (List.mem_of_mem_take hc)) h)
  · exact .inl h
  · exact .inr (hdigit (fun _ => List.mem_of_mem_drop) h)

/-- Cutting a list at two places loses nothing. -/
theorem take_drop_append {α : Type} (l : List α) (m n : ℕ) :
    (l.drop m).take n ++ l.drop (m + n) = l.drop m := by
  rw [← List.drop_drop, List.take_append_drop]

/-- Hyphenated reading of five groups of digits. -/
theorem readHyphenated_groups {a b c d e : List Char} (ha : a.length = 8) (hb : b.length = 4)
    (hc : c.length = 4) (hd : d.length = 4) (he : e.length = 12) :
    readHyphenated (a ++ '-' :: b ++ '-' :: c ++ '-' :: d ++ '-' :: e) =
      (readHex (a ++ (b ++ (c ++ (d ++ e))))).map (BitVec.ofNat 128) := by
  unfold readHyphenated
  rw [if_pos (by simp [List.getElem?_append, ha, hb, hc, hd])]
  congr 2
  simp [List.drop_append, List.drop_eq_nil_of_le, List.take_of_length_le, ha, hb, hc, hd, he]

theorem parseDocumented_text (u : Uuid) : parseDocumented u.text = some u := by
  have hlen := length_hexDigits 32 u.toNat
  have hread := readHex_uuid u
  unfold parseDocumented
  simp only [length_text, if_true]
  rw [text_toList, readHyphenated_groups (by simp [hlen]) (by simp [hlen]) (by simp [hlen])
    (by simp [hlen]) (by simp [hlen]), take_drop_append _ 16 4, take_drop_append _ 12 4,
    take_drop_append _ 8 4, List.take_append_drop]
  exact hread

/-- A group of four digits before another group: the hyphen between them is skipped. -/
theorem castGroups_hyphen {n : ℕ} {g rest : List Char} (hg : g.length = 4) :
    castGroups (n + 2) (g ++ '-' :: rest) =
      (castGroups (n + 1) rest).map fun r => (g ++ r.1, r.2) := by
  match g, hg with
  | [a, b, c, d], _ => simp [castGroups]

/-- A group of four digits before a digit. -/
theorem castGroups_digit {n : ℕ} {g rest : List Char} (hg : g.length = 4)
    (hrest : rest.head? ≠ some '-') :
    castGroups (n + 1) (g ++ rest) = (castGroups n rest).map fun r => (g ++ r.1, r.2) := by
  match g, hg with
  | [a, b, c, d], _ => simp [castGroups, hrest]

theorem head?_ne_hyphen {g : List Char} (rest : List Char) (hg : g.length = 4)
    (hdigits : ∀ c ∈ g, c ≠ '-') :
    (g ++ rest).head? ≠ some '-' := by
  match g, hg with
  | a :: _, _ => simpa using hdigits a List.mem_cons_self

/-- The cast reads eight groups of four digits in the canonical layout. -/
theorem castGroups_canonical (g₁ g₂ g₃ g₄ g₅ g₆ g₇ g₈ : List Char)
    (hlen : ∀ g ∈ [g₁, g₂, g₃, g₄, g₅, g₆, g₇, g₈], g.length = 4)
    (hdigits : ∀ g ∈ [g₁, g₂, g₃, g₄, g₅, g₆, g₇, g₈], ∀ c ∈ g, c ≠ '-') :
    castGroups 8 (g₁ ++ (g₂ ++ '-' :: (g₃ ++ '-' :: (g₄ ++ '-' :: (g₅ ++ '-' ::
      (g₆ ++ (g₇ ++ g₈))))))) =
      some (g₁ ++ (g₂ ++ (g₃ ++ (g₄ ++ (g₅ ++ (g₆ ++ (g₇ ++ g₈)))))), []) := by
  simp only [List.mem_cons, List.not_mem_nil, or_false, forall_eq_or_imp, forall_eq] at hlen hdigits
  obtain ⟨h₁, h₂, h₃, h₄, h₅, h₆, h₇, h₈⟩ := hlen
  obtain ⟨-, d₂, -, -, -, -, d₇, d₈⟩ := hdigits
  have hlast : castGroups 1 g₈ = some (g₈, []) := by
    match g₈, h₈ with
    | [a, b, c, d], _ => simp [castGroups]
  have d₈' : g₈.head? ≠ some '-' := by simpa using head?_ne_hyphen [] h₈ d₈
  rw [castGroups_digit (n := 7) h₁ (head?_ne_hyphen _ h₂ d₂), castGroups_hyphen (n := 5) h₂,
    castGroups_hyphen (n := 4) h₃, castGroups_hyphen (n := 3) h₄, castGroups_hyphen (n := 2) h₅,
    castGroups_digit (n := 2) h₆ (head?_ne_hyphen _ h₇ d₇), castGroups_digit (n := 1) h₇ d₈', hlast]
  rfl

theorem castDocumented_text (u : Uuid) : castDocumented u.text = some u := by
  have hlen := length_hexDigits 32 u.toNat
  have hread := readHex_uuid u
  have hdigit : ∀ c ∈ hexDigits 32 u.toNat, c ≠ '-' ∧ c ≠ '{' := by
    intro c hc
    obtain ⟨d, hd, rfl⟩ := mem_hexDigits hc
    exact ⟨hexDigit_ne_hyphen d hd, hexDigit_ne_brace d hd⟩
  have htext := text_toList u
  generalize hexDigits 32 u.toNat = l at *
  -- the eight groups of four digits
  let g (m : ℕ) : List Char := (l.drop m).take 4
  have hg : ∀ m, m + 4 ≤ 32 → (g m).length = 4 := by
    intro m h
    simp only [g, List.length_take, List.length_drop, hlen]
    omega
  have hgd : ∀ m, ∀ c ∈ g m, c ≠ '-' := fun m c hc =>
    (hdigit c (List.mem_of_mem_drop (List.mem_of_mem_take hc))).1
  have hsplit : ∀ m, l.drop m = g m ++ l.drop (m + 4) := fun m => (take_drop_append l m 4).symm
  have h28 : l.drop 28 = g 28 := by
    rw [hsplit 28, List.drop_eq_nil_of_le (by omega), List.append_nil]
  have h20 : l.drop 20 = g 20 ++ (g 24 ++ g 28) := by rw [hsplit 20, hsplit 24, h28]
  have h8 : l.take 8 = g 0 ++ g 4 := by
    have := List.take_append_drop 4 (l.take 8)
    rw [← this, List.take_take, List.drop_take]
    rfl
  have hl : l = g 0 ++ (g 4 ++ (g 8 ++ (g 12 ++ (g 16 ++ (g 20 ++ (g 24 ++ g 28)))))) := by
    rw [← h20, ← hsplit 16, ← hsplit 12, ← hsplit 8, ← hsplit 4, ← hsplit 0, List.drop_zero]
  have hcs : u.text.toList = g 0 ++ (g 4 ++ '-' :: (g 8 ++ '-' :: (g 12 ++ '-' :: (g 16 ++ '-' ::
      (g 20 ++ (g 24 ++ g 28)))))) := by
    rw [htext, h8, h20]
    simp [g]
  have hcast := castGroups_canonical (g 0) (g 4) (g 8) (g 12) (g 16) (g 20) (g 24) (g 28)
    (by simp [hg]) (by simpa using
      ⟨hgd 0, hgd 4, hgd 8, hgd 12, hgd 16, hgd 20, hgd 24, hgd 28⟩)
  rw [← hcs, ← hl] at hcast
  have hbrace : ∀ cs, u.text.toList ≠ '{' :: cs := by
    intro cs h
    have h0 : l.head? = some '{' := by
      rw [hl]
      rw [hcs] at h
      match hg0 : g 0, hg 0 (by omega) with
      | a :: _, _ => simp_all
    exact (hdigit '{' (List.mem_of_mem_head? h0)).2 rfl
  unfold castDocumented
  split
  · rename_i cs h
    exact absurd h (hbrace cs)
  · simp only [hcast, if_true, hread]

/-! ### Where the readers agree -/

/-- The digits of a number are no hyphens. -/
theorem readHex_ne_hyphen {l : List Char} {n : ℕ} (h : readHex l = some n) : ∀ c ∈ l, c ≠ '-' := by
  have hfold : ∀ (l : List Char) (acc n : ℕ),
      l.foldlM (fun acc c => (hexValue c).map fun d => acc * 16 + d) acc = some n →
        ∀ c ∈ l, c ≠ '-' := by
    intro l
    induction l with
    | nil => simp
    | cons a l ih =>
        intro acc n h c hc
        rw [List.foldlM_cons] at h
        obtain ⟨acc', hacc, h⟩ := Option.bind_eq_some_iff.mp h
        rcases List.mem_cons.mp hc with rfl | hc
        · rintro rfl
          cases hacc
        · exact ih acc' n h c hc
  exact hfold l 0 n h

/-- A text without its hyphens. -/
def unhyphened (l : List Char) : List Char := l.filter (· ≠ '-')

theorem unhyphened_append (l l' : List Char) :
    unhyphened (l ++ l') = unhyphened l ++ unhyphened l' := List.filter_append ..

theorem unhyphened_hyphen (l : List Char) : unhyphened ('-' :: l) = unhyphened l := by
  simp [unhyphened]

theorem unhyphened_eq_self {l : List Char} (h : ∀ c ∈ l, c ≠ '-') : unhyphened l = l :=
  List.filter_eq_self.mpr fun c hc => by simpa using h c hc

/-- A hyphenated text has its digits in groups, and what follows them is not read. -/
theorem readHyphenated_eq_some {l : List Char} {u : Uuid} (h : readHyphenated l = some u)
    (hlen : 36 ≤ l.length) :
    ∃ digits, digits.length = 32 ∧ (readHex digits).map (BitVec.ofNat 128) = some u ∧
      unhyphened l = digits ++ unhyphened (l.drop 36) := by
  unfold readHyphenated at h
  split_ifs at h with hhyphens
  obtain ⟨h8, h13, h18, h23⟩ := hhyphens
  have hcut : ∀ m n, l[m + n]? = some '-' →
      l.drop m = (l.drop m).take n ++ '-' :: l.drop (m + n + 1) := by
    intro m n hget
    obtain ⟨hlt, hval⟩ := List.getElem?_eq_some_iff.mp hget
    rw [← hval, ← List.drop_eq_getElem_cons hlt, take_drop_append]
  obtain ⟨n, hread, hu⟩ := Option.map_eq_some_iff.mp h
  have hdigits := readHex_ne_hyphen hread
  refine ⟨_, ?_, h, ?_⟩
  · simp only [List.length_append, List.length_take, List.length_drop]
    omega
  · have hl : l = l.take 8 ++ '-' :: ((l.drop 9).take 4 ++ '-' :: ((l.drop 14).take 4 ++ '-' ::
        ((l.drop 19).take 4 ++ '-' :: ((l.drop 24).take 12 ++ l.drop 36)))) := by
      have h0 := hcut 0 8 h8
      rw [take_drop_append l 24 12, ← hcut 19 4 h23, ← hcut 14 4 h18, ← hcut 9 4 h13]
      simpa using h0
    conv_lhs => rw [hl]
    rw [← unhyphened_eq_self hdigits]
    simp only [unhyphened_append, unhyphened_hyphen, List.append_assoc]

/-- What `uuid.Parse` reads: the digits, with a character at each end that is not looked at, or
the long form with the prefix. -/
theorem parseDocumented_eq_some {s : String} {u : Uuid} (h : parseDocumented s = some u) :
    s.toList.length = 45 ∨ ∃ first digits last, digits.length = 32 ∧
      (readHex digits).map (BitVec.ofNat 128) = some u ∧ first.length ≤ 1 ∧ last.length ≤ 1 ∧
      unhyphened s.toList = first ++ (digits ++ last) := by
  unfold parseDocumented at h
  dsimp only at h
  by_cases h36 : s.toList.length = 36
  · rw [if_pos h36] at h
    obtain ⟨digits, hlen, hread, hdigits⟩ := readHyphenated_eq_some h (by omega)
    refine .inr ⟨[], digits, unhyphened (s.toList.drop 36), hlen, hread, by simp, ?_, hdigits⟩
    rw [List.drop_eq_nil_of_le (by omega)]
    exact Nat.zero_le 1
  · rw [if_neg h36] at h
    by_cases h45 : s.toList.length = 45
    · exact .inl h45
    · rw [if_neg h45] at h
      by_cases h38 : s.toList.length = 38
      · rw [if_pos h38] at h
        obtain ⟨digits, hlen, hread, hdigits⟩ := readHyphenated_eq_some h
          (by rw [List.length_drop]; omega)
        refine .inr ⟨unhyphened (s.toList.take 1), digits,
          unhyphened ((s.toList.drop 1).drop 36), hlen, hread, ?_, ?_, ?_⟩
        · exact (List.length_filter_le ..).trans (List.length_take_le ..)
        · refine (List.length_filter_le ..).trans ?_
          rw [List.length_drop, List.length_drop]
          omega
        · rw [← hdigits, ← unhyphened_append, List.take_append_drop]
      · rw [if_neg h38] at h
        by_cases h32 : s.toList.length = 32
        · rw [if_pos h32] at h
          obtain ⟨n, hread, -⟩ := Option.map_eq_some_iff.mp h
          refine .inr ⟨[], s.toList, [], h32, h, by simp, by simp, ?_⟩
          rw [unhyphened_eq_self (readHex_ne_hyphen hread)]
          simp
        · rw [if_neg h32] at h
          cases h

/-- The groups that the cast reads, and the hyphens between them. -/
theorem castGroups_eq_some {n : ℕ} {l digits rest : List Char}
    (h : castGroups n l = some (digits, rest)) :
    digits.length = 4 * n ∧ l.length ≤ 5 * n + rest.length ∧
      ((∀ c ∈ digits, c ≠ '-') → unhyphened l = digits ++ unhyphened rest) := by
  induction n generalizing l digits with
  | zero =>
      cases h
      exact ⟨rfl, by omega, fun _ => rfl⟩
  | succ n ih =>
      match l, h with
      | a :: b :: c :: d :: tail, h =>
        obtain ⟨r, hgroups, heq⟩ := Option.map_eq_some_iff.mp h
        obtain ⟨rfl, rfl⟩ := Prod.mk.inj heq
        obtain ⟨hlen, hle, hplain⟩ := ih hgroups
        have htail : tail.length ≤ (if n ≠ 0 ∧ tail.head? = some '-' then tail.tail
            else tail).length + 1 ∧
            unhyphened (if n ≠ 0 ∧ tail.head? = some '-' then tail.tail else tail) =
              unhyphened tail := by
          split_ifs with hhyphen
          · obtain ⟨rest, rfl⟩ := List.head?_eq_some_iff.mp hhyphen.2
            exact ⟨by simp, (unhyphened_hyphen rest).symm⟩
          · exact ⟨by omega, rfl⟩
        refine ⟨?_, ?_, ?_⟩
        · simp only [List.length_cons]
          omega
        · simp only [List.length_cons]
          omega
        · intro hne
          have hgroup : unhyphened [a, b, c, d] = [a, b, c, d] :=
            unhyphened_eq_self fun x hx => hne x (List.mem_append_left r.1 hx)
          have hrest := hplain fun x hx => hne x (List.mem_append_right [a, b, c, d] hx)
          have hsplit := unhyphened_append [a, b, c, d] tail
          rw [hgroup, ← htail.2, hrest] at hsplit
          exact hsplit

/-- What the cast reads: the digits, perhaps in braces. -/
theorem castDocumented_eq_some {s : String} {u : Uuid} (h : castDocumented s = some u) :
    s.toList.length ≤ 42 ∧ ∃ digits, digits.length = 32 ∧
      (readHex digits).map (BitVec.ofNat 128) = some u ∧
      (unhyphened s.toList = digits ∨
        unhyphened s.toList = ['{'] ++ (digits ++ ['\x7d'])) := by
  have hread : ∀ (l close : List Char), (match castGroups 8 l with
      | some (digits, rest) =>
          if rest = close then (readHex digits).map (BitVec.ofNat 128) else none
      | none => none) = some u →
        l.length ≤ 40 + close.length ∧ ∃ digits, digits.length = 32 ∧
          (readHex digits).map (BitVec.ofNat 128) = some u ∧
          unhyphened l = digits ++ unhyphened close := by
    intro l close hl
    cases hgroups : castGroups 8 l with
    | none =>
        rw [hgroups] at hl
        cases hl
    | some r =>
        rw [hgroups] at hl
        dsimp only at hl
        split_ifs at hl with hclose
        obtain ⟨hlen, hle, hplain⟩ := castGroups_eq_some hgroups
        obtain ⟨n, hhex, -⟩ := Option.map_eq_some_iff.mp hl
        rw [← hclose]
        exact ⟨hle, r.1, hlen, hl, hplain (readHex_ne_hyphen hhex)⟩
  unfold castDocumented at h
  dsimp only at h
  split at h
  · rename_i l hl
    obtain ⟨hle, digits, hlen, hhex, hplain⟩ := hread l ['\x7d'] h
    rw [hl]
    refine ⟨by simp only [List.length_cons, List.length_nil] at hle ⊢; omega, digits, hlen, hhex,
      .inr ?_⟩
    have hbrace := unhyphened_append ['{'] l
    rw [hplain] at hbrace
    exact hbrace
  · obtain ⟨hle, digits, hlen, hhex, hplain⟩ := hread s.toList [] h
    refine ⟨hle.trans (by decide), digits, hlen, hhex, .inl ?_⟩
    rw [hplain]
    exact List.append_nil _

/-- A text that both readers accept has the same digits for both. -/
theorem documented_same {s : String} {u v : Uuid} (hu : parseDocumented s = some u)
    (hv : castDocumented s = some v) : u = v := by
  obtain ⟨hle, digits, hlen, hread, hcast⟩ := castDocumented_eq_some hv
  rcases parseDocumented_eq_some hu with h45 | ⟨first, digits', last, hlen', hread', hfirst, hlast,
    hparse⟩
  · omega
  have hsame : digits' = digits := by
    rcases hcast with hcast | hcast
    · -- nothing but the digits is left
      have hall := hparse.symm.trans hcast
      have hsizes := congrArg List.length hall
      simp only [List.length_append] at hsizes
      rw [List.length_eq_zero_iff.mp (show first.length = 0 by omega),
        List.length_eq_zero_iff.mp (show last.length = 0 by omega)] at hall
      simpa using hall
    · -- one character on each side of them
      have hall := hparse.symm.trans hcast
      have hsizes := congrArg List.length hall
      simp only [List.length_append, List.length_cons, List.length_nil] at hsizes
      exact (List.append_inj (List.append_inj hall (by simp; omega)).2 (by omega)).1
  rw [hsame, hread] at hread'
  exact (Option.some.inj hread').symm

/-- Readers that accept the documented spellings. -/
def documentedReaders : UuidReaders where
  parse := parseDocumented
  cast := castDocumented
  parse_text := parseDocumented_text
  cast_text := castDocumented_text

theorem documentedReaders_agree : documentedReaders.Agree where
  same := documented_same
  parse_empty := rfl

-- texts are compared through the readers, never digit by digit
attribute [irreducible] Uuid.text

end HistoryQuiz
