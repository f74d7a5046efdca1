import Mathlib.Data.BitVec
import Mathlib.Data.List.DropRight
import Mathlib.Data.List.GetD

/-!
# Base64

The standard encoding of bytes, with padding, and the decoding that browsers apply: white space
is skipped, and padding may be missing. Both go over the numbers of six bits that stand for the
bytes (`sextets`, `octets`).

Decoding reads back what encoding has written (`forgivingDecode_encode`).
-/

namespace Base64

/-! ## Six bits at a time -/

/-- The bits of the bytes in groups of six, the last group filled up with zeros. -/
def sextets : List (BitVec 8) → List ℕ
  | a :: b :: c :: rest =>
      let n := a.toNat * 65536 + b.toNat * 256 + c.toNat
      n / 262144 :: n / 4096 % 64 :: n / 64 % 64 :: n % 64 :: sextets rest
  | [a, b] =>
      let n := a.toNat * 1024 + b.toNat * 4
      [n / 4096, n / 64 % 64, n % 64]
  | [a] =>
      let n := a.toNat * 16
      [n / 64, n % 64]
  | [] => []

/-- The bytes in groups of six bits; bits that do not fill a byte are dropped. -/
def octets : List ℕ → List (BitVec 8)
  | a :: b :: c :: d :: rest =>
      let n := a * 262144 + b * 4096 + c * 64 + d
      BitVec.ofNat 8 (n / 65536) :: BitVec.ofNat 8 (n / 256) :: BitVec.ofNat 8 n :: octets rest
  | [a, b, c] =>
      let n := a * 4096 + b * 64 + c
      [BitVec.ofNat 8 (n / 1024), BitVec.ofNat 8 (n / 4)]
  | [a, b] => [BitVec.ofNat 8 ((a * 64 + b) / 16)]
  | _ => []

theorem ofNat_eq {a : BitVec 8} {n : ℕ} (h : n % 256 = a.toNat) : BitVec.ofNat 8 n = a := by
  apply BitVec.eq_of_toNat_eq
  rw [BitVec.toNat_ofNat]
  exact h

theorem octets_sextets (bytes : List (BitVec 8)) : octets (sextets bytes) = bytes := by
  induction bytes using sextets.induct with
  | case1 a b c rest ih =>
      have ha := a.isLt
      have hb := b.isLt
      have hc := c.isLt
      simp only [sextets, octets, ih, List.cons.injEq, and_true]
      exact ⟨ofNat_eq (by omega), ofNat_eq (by omega), ofNat_eq (by omega)⟩
  | case2 a b =>
      have ha := a.isLt
      have hb := b.isLt
      simp only [sextets, octets, List.cons.injEq, and_true]
      exact ⟨ofNat_eq (by omega), ofNat_eq (by omega)⟩
  | case3 a =>
      have ha := a.isLt
      simp only [sextets, octets, List.cons.injEq, and_true]
      exact ofNat_eq (by omega)
  | case4 => rfl

theorem sextets_lt {bytes : List (BitVec 8)} {n : ℕ} (h : n ∈ sextets bytes) : n < 64 := by
  induction bytes using sextets.induct with
  | case1 a b c rest ih =>
      have ha := a.isLt
      have hb := b.isLt
      have hc := c.isLt
      rw [sextets] at h
      simp only [List.mem_cons] at h
      rcases h with rfl | rfl | rfl | rfl | h
      case inr.inr.inr.inr => exact ih h
      all_goals omega
  | case2 a b =>
      have ha := a.isLt
      have hb := b.isLt
      rw [sextets] at h
      simp only [List.mem_cons, List.not_mem_nil, or_false] at h
      rcases h with rfl | rfl | rfl <;> omega
  | case3 a =>
      have ha := a.isLt
      rw [sextets] at h
      simp only [List.mem_cons, List.not_mem_nil, or_false] at h
      rcases h with rfl | rfl <;> omega
  | case4 => cases h

theorem length_sextets (bytes : List (BitVec 8)) :
    (sextets bytes).length = (4 * bytes.length + 2) / 3 := by
  induction bytes using sextets.induct with
  | case1 a b c rest ih =>
      rw [sextets]
      simp only [List.length_cons, ih]
      omega
  | case2 a b => simp [sextets]
  | case3 a => simp [sextets]
  | case4 => rfl

/-- No number of groups leaves one over. -/
theorem length_sextets_mod (bytes : List (BitVec 8)) : (sextets bytes).length % 4 ≠ 1 := by
  rw [length_sextets]
  omega

/-! ## Characters -/

def alphabet : List Char :=
  "ABCDEFGHIJKLMNOPQRSTUVWXYZabcdefghijklmnopqrstuvwxyz0123456789+/".toList

def digit (n : ℕ) : Char := alphabet.getD n 'A'

/-- The padding after `n` digits. -/
def padding (n : ℕ) : List Char := List.replicate ((4 - n % 4) % 4) '='

def encode (bytes : List (BitVec 8)) : List Char :=
  (sextets bytes).map digit ++ padding (sextets bytes).length

def value (c : Char) : Option ℕ := alphabet.idxOf? c

def isAsciiWhitespace (c : Char) : Bool := c ∈ ['\t', '\n', '\x0c', '\r', ' ']

/-- A text whose length is a multiple of four, without one or two `=` at its end. -/
def withoutPadding (text : List Char) : List Char :=
  if text.length % 4 = 0 then
    if text.getLast? = some '=' then
      if text.dropLast.getLast? = some '=' then text.dropLast.dropLast else text.dropLast
    else text
  else text

/-- The forgiving decoding of browsers. -/
def forgivingDecode (text : List Char) : Option (List (BitVec 8)) :=
  let data := withoutPadding (text.filter fun c => !isAsciiWhitespace c)
  if data.length % 4 = 1 then none else (data.mapM value).map octets

/-- The digits are sixty-four different characters of ASCII, other than white space and
padding. -/
theorem digit_spec : ∀ n < 64, value (digit n) = some n ∧ isAsciiWhitespace (digit n) = false ∧
    digit n ≠ '=' ∧ (digit n).toNat < 0x80 := by decide +kernel

theorem mapM_value_digits {values : List ℕ} (h : ∀ n ∈ values, n < 64) :
    (values.map digit).mapM value = some values := by
  induction values with
  | nil => rfl
  | cons n rest ih =>
      have hn := (digit_spec n (h n List.mem_cons_self)).1
      have hrest := ih fun m hm => h m (List.mem_cons_of_mem _ hm)
      rw [List.map_cons, List.mapM_cons, hn, hrest]
      rfl

theorem withoutPadding_append {data : List Char} (hdata : '=' ∉ data)
    (hlength : data.length % 4 ≠ 1) : withoutPadding (data ++ padding data.length) = data := by
  have hlast : data.getLast? ≠ some '=' := fun h => hdata (List.mem_of_getLast? h)
  have hcases : data.length % 4 = 0 ∨ data.length % 4 = 2 ∨ data.length % 4 = 3 := by omega
  unfold withoutPadding padding
  rcases hcases with h | h | h
  · simp [h, hlast]
  · have hfull : (data.length + 2) % 4 = 0 := by omega
    simp [h, hfull, List.replicate]
  · have hfull : (data.length + 1) % 4 = 0 := by omega
    simp [h, hfull, hlast]

/-- What is left of a text whose padding is dropped. -/
theorem rdropWhile_append_padding {data : List Char} (hdata : '=' ∉ data) (n : ℕ) :
    (data ++ padding n).rdropWhile (· == '=') = data := by
  unfold padding
  induction (4 - n % 4) % 4 with
  | zero =>
      rw [List.replicate_zero, List.append_nil, List.rdropWhile_eq_self_iff]
      intro hne heq
      exact hdata (beq_iff_eq.mp heq ▸ List.getLast_mem hne)
  | succ k ih =>
      rw [List.replicate_succ', ← List.append_assoc, List.rdropWhile_concat_pos _ _ _ rfl, ih]

theorem forgivingDecode_encode (bytes : List (BitVec 8)) :
    forgivingDecode (encode bytes) = some bytes := by
  have hdigits : ∀ c ∈ (sextets bytes).map digit, isAsciiWhitespace c = false ∧ c ≠ '=' := by
    intro c hc
    obtain ⟨n, hn, rfl⟩ := List.mem_map.mp hc
    obtain ⟨-, hspace, hpad, -⟩ := digit_spec n (sextets_lt hn)
    exact ⟨hspace, hpad⟩
  have hfilter : ((encode bytes).filter fun c => !isAsciiWhitespace c) = encode bytes := by
    rw [List.filter_eq_self]
    intro c hc
    rw [Bool.not_eq_true']
    rcases List.mem_append.mp hc with hc | hc
    · exact (hdigits c hc).1
    · rw [List.eq_of_mem_replicate hc]
      decide
  have hdata : withoutPadding (encode bytes) = (sextets bytes).map digit := by
    have hlength := length_sextets_mod bytes
    unfold encode
    rw [← List.length_map (f := digit)] at hlength ⊢
    exact withoutPadding_append (fun h => (hdigits _ h).2 rfl) hlength
  unfold forgivingDecode
  rw [hfilter, hdata]
  dsimp only
  rw [List.length_map, if_neg (length_sextets_mod bytes),
    mapM_value_digits fun n hn => sextets_lt hn, Option.map_some, octets_sextets]

end Base64
