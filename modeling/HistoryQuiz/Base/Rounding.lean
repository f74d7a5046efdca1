import Mathlib.Algebra.Order.Field.Power
import Mathlib.Data.Int.Log
import Mathlib.Data.Nat.Size
import Mathlib.Data.Rat.Floor
import Mathlib.Tactic.Linarith
import Mathlib.Tactic.NormNum
import Mathlib.Tactic.Ring

/-!
# Rounding to a number of bits

`toBits p n` is the natural number `n` rounded to `p` significant bits, ties to even, as the
arithmetic of a binary floating-point format with precision `p` rounds it while its exponent
suffices. Below `2 ^ p` nothing is rounded (`toBits_of_lt`), so comparing with a bound there is not
affected (`lt_toBits_iff`).

`nearest p q` rounds a rational number in the same way. A unit of the result is the power of two
that leaves `p` bits of `q`. Natural numbers below `2 ^ p` are not crossed (`nearest_le`), and the
error is at most half a unit (`abs_nearest_sub_le`).
-/

namespace Rounding

/-- The multiple of `2 ^ e` next to `n`, the even one of two. -/
def dropBits (e n : ℕ) : ℕ :=
  let q := n / 2 ^ e
  let r := n % 2 ^ e
  if 2 * r < 2 ^ e ∨ (2 * r = 2 ^ e ∧ q % 2 = 0) then q * 2 ^ e else (q + 1) * 2 ^ e

/-- Round to `p` significant bits. -/
def toBits (p n : ℕ) : ℕ := dropBits (n.size - p) n

/-- The integer next to `q`, the even one of two. -/
def halfEven (q : ℚ) : ℤ :=
  if 2 * Int.fract q < 1 ∨ (2 * Int.fract q = 1 ∧ ⌊q⌋ % 2 = 0) then ⌊q⌋ else ⌊q⌋ + 1

/-- Round a rational number to `p` significant bits. -/
def nearest (p : ℕ) (q : ℚ) : ℚ :=
  let unit : ℚ := 2 ^ (Int.log 2 |q| + 1 - p)
  halfEven (q / unit) * unit

theorem le_dropBits (e n : ℕ) : n / 2 ^ e * 2 ^ e ≤ dropBits e n := by
  unfold dropBits
  dsimp only
  split
  · exact le_refl _
  · exact Nat.mul_le_mul_right _ (Nat.le_succ _)

theorem dropBits_zero (n : ℕ) : dropBits 0 n = n := by
  unfold dropBits
  simp [Nat.mod_one]

variable {p n k : ℕ}

/-- Numbers of at most `p` bits stay as they are. -/
theorem toBits_of_lt (h : n < 2 ^ p) : toBits p n = n := by
  have hsize : n.size - p = 0 := Nat.sub_eq_zero_of_le (Nat.size_le.mpr h)
  rw [toBits, hsize, dropBits_zero]

theorem pow_le_toBits (hp : 0 < p) (h : 2 ^ k ≤ n) : 2 ^ k ≤ toBits p n := by
  by_cases hn : n < 2 ^ p
  · rwa [toBits_of_lt hn]
  · have hsize : p < n.size := Nat.lt_size.mpr (Nat.le_of_not_lt hn)
    -- the largest power of two up to `n` is a multiple of the unit
    have htop : 2 ^ (n.size - 1) ≤ n := Nat.lt_size.mp (by omega)
    have hunit : 2 ^ (n.size - 1) = 2 ^ (p - 1) * 2 ^ (n.size - p) := by
      rw [← Nat.pow_add]
      congr 1
      omega
    have hq : 2 ^ (p - 1) ≤ n / 2 ^ (n.size - p) := by
      rw [Nat.le_div_iff_mul_le (Nat.two_pow_pos _), ← hunit]
      exact htop
    calc 2 ^ k ≤ 2 ^ (n.size - 1) :=
          Nat.pow_le_pow_right Nat.two_pos (by have := Nat.lt_size.mpr h; omega)
      _ = 2 ^ (p - 1) * 2 ^ (n.size - p) := hunit
      _ ≤ n / 2 ^ (n.size - p) * 2 ^ (n.size - p) := Nat.mul_le_mul_right _ hq
      _ ≤ toBits p n := le_dropBits _ n

/-- Comparing with a bound below `2 ^ p` is not affected by the rounding. -/
theorem lt_toBits_iff {m : ℕ} (hp : 0 < p) (hm : m < 2 ^ p) : m < toBits p n ↔ m < n := by
  by_cases hn : n < 2 ^ p
  · rw [toBits_of_lt hn]
  · have hle : 2 ^ p ≤ n := Nat.le_of_not_lt hn
    have hround := pow_le_toBits hp hle
    constructor <;> intro <;> omega

/-! ## Counting -/

theorem size_pow_add {p m : ℕ} (hm : m < 2 ^ p) : (2 ^ p + m).size = p + 1 := by
  refine le_antisymm ?_ ?_
  · rw [Nat.size_le, pow_succ]
    omega
  · show p < _
    rw [Nat.lt_size]
    omega

theorem toBits_of_le (hp : 0 < p) (h : n ≤ 2 ^ p) : toBits p n = n := by
  obtain hlt | rfl := h.lt_or_eq
  · exact toBits_of_lt hlt
  · obtain ⟨k, rfl⟩ := Nat.exists_eq_succ_of_ne_zero hp.ne'
    have hsize := size_pow_add (p := k + 1) (m := 0) (by positivity)
    rw [Nat.add_zero] at hsize
    unfold toBits dropBits
    rw [hsize, Nat.add_sub_cancel_left, Nat.succ_eq_add_one, pow_succ, pow_one]
    simp

/-- The first number that has too many bits rounds down. -/
theorem toBits_pow_succ (hp : 2 ≤ p) : toBits p (2 ^ p + 1) = 2 ^ p := by
  obtain ⟨k, rfl⟩ := Nat.exists_eq_add_of_le' hp
  have hsize := size_pow_add (p := k + 2) (m := 1) (Nat.one_lt_two_pow (by omega))
  have hpow : 2 ^ (k + 2) = 2 * (2 * 2 ^ k) := by ring
  have hhalf : (2 * (2 * 2 ^ k) + 1) / 2 = 2 * 2 ^ k := by omega
  have hrest : (2 * (2 * 2 ^ k) + 1) % 2 = 1 := by omega
  have heven : 2 * 2 ^ k % 2 = 0 := by omega
  unfold toBits dropBits
  rw [hsize, Nat.add_sub_cancel_left, pow_one, hpow]
  dsimp only
  rw [hhalf, hrest, heven, if_pos (.inr ⟨rfl, rfl⟩), Nat.mul_comm]

/-- Counting up by ones stops at `2 ^ p`. -/
theorem toBits_min_succ (hp : 2 ≤ p) (n : ℕ) :
    toBits p (min n (2 ^ p) + 1) = min (n + 1) (2 ^ p) := by
  by_cases hn : n < 2 ^ p
  · rw [min_eq_left hn.le, min_eq_left (by omega)]
    exact toBits_of_le (by omega) hn
  · rw [min_eq_right (by omega), min_eq_right (by omega)]
    exact toBits_pow_succ hp

/-! ## Rational numbers -/

section Nearest

variable {q : ℚ}

theorem halfEven_intCast (m : ℤ) : halfEven m = m := by
  unfold halfEven
  rw [Int.fract_intCast, if_pos (.inl (by norm_num)), Int.floor_intCast]

/-- No integer is crossed. -/
theorem halfEven_le {m : ℤ} (h : q ≤ m) : halfEven q ≤ m := by
  have hfloor : ⌊q⌋ ≤ m := Int.floor_le_iff.mpr (h.trans_lt (lt_add_one _))
  obtain hlt | heq := hfloor.lt_or_eq
  · unfold halfEven
    split
    · exact hfloor
    · exact Int.add_one_le_of_lt hlt
  · have hq : q = m := le_antisymm h (heq ▸ Int.floor_le q)
    rw [hq, halfEven_intCast]

theorem abs_halfEven_sub_le (q : ℚ) : |(halfEven q : ℚ) - q| ≤ 1 / 2 := by
  have hsum := Int.floor_add_fract q
  have hnonneg := Int.fract_nonneg q
  have hlt := Int.fract_lt_one q
  unfold halfEven
  split_ifs with hdown
  · have hhalf : Int.fract q ≤ 1 / 2 := by
      obtain hdown | ⟨hdown, -⟩ := hdown
      · linarith
      · linarith
    rw [abs_le]
    constructor <;> linarith
  · have hhalf : 1 / 2 ≤ Int.fract q := by
      by_contra hsmall
      exact hdown (.inl (by linarith))
    push_cast
    rw [abs_le]
    constructor <;> linarith

/-- A natural number that fits is a multiple of the unit of every smaller number. -/
theorem exists_mul_unit (hq : 0 < q) (h : q ≤ n) (hn : n < 2 ^ p) :
    ∃ m : ℤ, (n : ℚ) = m * 2 ^ (Int.log 2 |q| + 1 - p) := by
  have hlog : Int.log 2 |q| < p := by
    rw [abs_of_pos hq, ← Int.lt_zpow_iff_log_lt Nat.one_lt_two hq]
    rw [zpow_natCast]
    exact h.trans_lt (by exact_mod_cast hn)
  obtain ⟨k, hk⟩ := Int.eq_ofNat_of_zero_le (show 0 ≤ p - (Int.log 2 |q| + 1) by omega)
  have hexponent : Int.log 2 |q| + 1 - p = -k := by omega
  refine ⟨n * 2 ^ k, ?_⟩
  rw [hexponent, zpow_neg, zpow_natCast]
  push_cast
  rw [mul_assoc, mul_inv_cancel₀ (by positivity), mul_one]

/-- No natural number that fits is crossed. -/
theorem nearest_le (hq : 0 < q) (h : q ≤ n) (hn : n < 2 ^ p) : nearest p q ≤ n := by
  obtain ⟨m, hm⟩ := exists_mul_unit hq h hn
  have hunit : (0 : ℚ) < 2 ^ (Int.log 2 |q| + 1 - p) := by positivity
  have hle : halfEven (q / 2 ^ (Int.log 2 |q| + 1 - p)) ≤ m := by
    refine halfEven_le ?_
    rw [div_le_iff₀ hunit, ← hm]
    exact h
  unfold nearest
  dsimp only
  rw [hm]
  exact mul_le_mul_of_nonneg_right (Int.cast_le.mpr hle) hunit.le

/-- Natural numbers that fit stay as they are. -/
theorem nearest_natCast (hn : n < 2 ^ p) : nearest p n = n := by
  obtain rfl | hpos := n.eq_zero_or_pos
  · have hzero := halfEven_intCast 0
    rw [Int.cast_zero] at hzero
    unfold nearest
    dsimp only
    rw [Nat.cast_zero, zero_div, hzero, Int.cast_zero, zero_mul]
  · obtain ⟨m, hm⟩ := exists_mul_unit (Nat.cast_pos.mpr hpos) le_rfl hn
    have hunit : (2 : ℚ) ^ (Int.log 2 |(n : ℚ)| + 1 - p) ≠ 0 := by positivity
    unfold nearest
    dsimp only
    rw [div_eq_of_eq_mul hunit hm, halfEven_intCast, ← hm]

/-- The relative error is at most half a unit of the last bit. -/
theorem abs_nearest_sub_le (hq : 0 < q) : |nearest p q - q| ≤ q / 2 ^ p := by
  obtain ⟨unit, hunit⟩ : ∃ unit : ℚ, unit = 2 ^ (Int.log 2 |q| + 1 - p) := ⟨_, rfl⟩
  have hpos : 0 < unit := hunit ▸ by positivity
  have hlog : (2 : ℚ) ^ Int.log 2 |q| ≤ q := by
    have hself := Int.zpow_log_le_self (R := ℚ) Nat.one_lt_two (abs_pos.mpr hq.ne')
    rw [Nat.cast_two, abs_of_pos hq] at hself
    rwa [abs_of_pos hq]
  have hhalf : 1 / 2 * unit = 2 ^ Int.log 2 |q| / 2 ^ p := by
    rw [hunit, zpow_sub₀ two_ne_zero, zpow_add₀ two_ne_zero, zpow_one, zpow_natCast]
    ring
  unfold nearest
  dsimp only
  rw [← hunit]
  calc |halfEven (q / unit) * unit - q|
      = |(halfEven (q / unit) : ℚ) - q / unit| * unit := by
        rw [← abs_of_pos hpos, ← abs_mul, abs_of_pos hpos, sub_mul, div_mul_cancel₀ q hpos.ne']
    _ ≤ 1 / 2 * unit := mul_le_mul_of_nonneg_right (abs_halfEven_sub_le _) hpos.le
    _ = 2 ^ Int.log 2 |q| / 2 ^ p := hhalf
    _ ≤ q / 2 ^ p := div_le_div_of_nonneg_right hlog (by positivity)

/-- A number is rounded within the integers around it, when it is further from the lower one
than the error. -/
theorem ceil_nearest {x : ℚ} (hq : 0 < q) (hx : q ≤ x) (hfits : ⌈x⌉ < 2 ^ p)
    (herror : (⌈x⌉ : ℚ) - 1 < q - q / 2 ^ p) : ⌈nearest p q⌉ = ⌈x⌉ := by
  obtain ⟨n, hn⟩ := Int.eq_ofNat_of_zero_le (Int.ceil_nonneg (hq.le.trans hx))
  have hlower := (abs_le.mp (abs_nearest_sub_le (p := p) hq)).1
  rw [Int.ceil_eq_iff]
  refine ⟨by linarith, ?_⟩
  rw [hn] at hfits ⊢
  refine nearest_le hq ?_ (by exact_mod_cast hfits)
  have hceil := Int.le_ceil x
  rw [hn] at hceil
  exact hx.trans hceil

end Nearest

end Rounding
