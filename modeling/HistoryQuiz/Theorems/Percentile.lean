import HistoryQuiz.Backend.Observability
import HistoryQuiz.Base.NearestRank
import HistoryQuiz.Client.Observability
import Mathlib.Data.List.GetD

/-!
# The percentile of the latencies

`p95_nearestRank`: what both `calculateP95` return is the nearest-rank percentile of the samples,
whose definition mentions neither a sorted list nor an index. The product of the length and
`0.95` is read as the exact rational; the rounded products have the same ceiling for all lengths
up to `2 ^ 48`.
-/

namespace HistoryQuiz

open NearestRank

/-- `n * 0.95` without rounding. -/
def exactTimes95 (n : ℕ) : ℚ := 95 / 100 * n

/-! ## Indices -/

/-- The clamps keep the index within bounds, whatever the product is. -/
theorem Observability.p95Index_bounds {length : ℕ} (hlength : 0 < length) (product : ℚ) :
    0 ≤ p95Index product length ∧ p95Index product length < length := by
  unfold p95Index
  dsimp only
  split_ifs <;> omega

/-- The clamps leave the index of a rank as it is. -/
theorem Observability.p95Index_of_rank {product : ℚ} {length i : ℕ} (hrank : ⌈product⌉ = i + 1)
    (hi : i < length) : p95Index product length = i := by
  unfold p95Index
  dsimp only
  rw [hrank]
  split_ifs <;> omega

/-- Clamping by `max` and `min` is clamping by the two branches. -/
theorem Client.Observability.p95Index_eq (product : ℚ) (length : ℕ) :
    p95Index product length = HistoryQuiz.Observability.p95Index product length := by
  unfold p95Index HistoryQuiz.Observability.p95Index
  dsimp only
  split_ifs <;> omega

/-- The implementations differ in the product alone. -/
theorem Client.Observability.calculateP95By_eq (times95 : ℕ → ℚ) (samples : List ℚ) :
    calculateP95By times95 samples =
      HistoryQuiz.Observability.calculateP95By times95 samples := by
  unfold calculateP95By HistoryQuiz.Observability.calculateP95By
  dsimp only
  rw [p95Index_eq]

/-! ## Ranks -/

/-- What is returned is at the rank of the sorted samples. -/
theorem Observability.isNearestRank_calculateP95By {samples : List ℚ} (hsamples : samples ≠ []) :
    IsNearestRank (95 / 100) samples (calculateP95By exactTimes95 samples) := by
  have hperm : (samples.insertionSort (· ≤ ·)).Perm samples := List.perm_insertionSort _ _
  have hsorted : (samples.insertionSort (· ≤ ·)).SortedLE :=
    (List.pairwise_insertionSort _ _).sortedLE
  have hlength : 0 < samples.length := List.length_pos_iff.mpr hsamples
  obtain ⟨hpos, hle⟩ := rank_bounds (p := 95 / 100) (by norm_num) (by norm_num) hlength
  obtain ⟨i, hrank⟩ : ∃ i : ℕ, ⌈(95 / 100 : ℚ) * samples.length⌉ = i + 1 :=
    ⟨(⌈(95 / 100 : ℚ) * samples.length⌉ - 1).toNat, by omega⟩
  have hi : i < samples.length := by omega
  rw [← hperm.length_eq] at hrank hi
  unfold calculateP95By
  rw [if_neg hlength.ne']
  dsimp only
  rw [exactTimes95, p95Index_of_rank hrank hi, Int.toNat_natCast, List.getD_eq_getElem _ _ hi]
  exact (isNearestRank_getElem hsorted hi hrank).perm hperm

/-! ## Rounded products -/

/-- `0.95` is rounded down. -/
theorem nearest_95 : Rounding.nearest 53 (95 / 100) = 8556839292003942 / 2 ^ 53 := by
  decide +kernel

/-- A product that is not an integer is a twentieth away from the next smaller one, and the two
roundings are off by less than that. -/
theorem ceil_numberTimes95 {n : ℕ} (hpos : 0 < n) (hn : n ≤ 2 ^ 48) :
    ⌈Client.Observability.numberTimes95 n⌉ = ⌈exactTimes95 n⌉ := by
  have hcast : (0 : ℚ) < n := Nat.cast_pos.mpr hpos
  have hle : (n : ℚ) ≤ 2 ^ 48 := by exact_mod_cast hn
  have htwentieth : 20 * ⌈exactTimes95 n⌉ ≤ 19 * n + 19 := by
    have hceil := Int.ceil_lt_add_one (exactTimes95 n)
    have hlt : (20 * ⌈exactTimes95 n⌉ : ℚ) < 19 * n + 20 := by
      unfold exactTimes95 at hceil ⊢
      linarith
    have hlt' : 20 * ⌈exactTimes95 n⌉ < 19 * n + 20 := by exact_mod_cast hlt
    omega
  have hrank : (20 * ⌈exactTimes95 n⌉ : ℚ) ≤ 19 * n + 19 := by exact_mod_cast htwentieth
  unfold Client.Observability.numberTimes95
  rw [nearest_95]
  refine Rounding.ceil_nearest (by positivity) ?_ (by omega) ?_
  · unfold exactTimes95
    rw [mul_comm]
    exact mul_le_mul_of_nonneg_right (by norm_num) hcast.le
  · norm_num
    linarith

/-- Lengths are not rounded. -/
theorem float64Times95_eq {n : ℕ} (hn : n ≤ 2 ^ 48) :
    Observability.float64Times95 n = Client.Observability.numberTimes95 n := by
  have hlength : Observability.float64 n = n := by
    unfold Observability.float64
    rw [Int.cast_natCast]
    exact Rounding.nearest_natCast (by omega)
  unfold Observability.float64Times95 Client.Observability.numberTimes95
  rw [hlength]

/-- The product is taken for its ceiling. -/
theorem Observability.calculateP95By_congr {times95 times95' : ℕ → ℚ} {samples : List ℚ}
    (h : samples ≠ [] → ⌈times95 samples.length⌉ = ⌈times95' samples.length⌉) :
    calculateP95By times95 samples = calculateP95By times95' samples := by
  unfold calculateP95By
  split_ifs with hempty
  · rfl
  · have hceil := h fun hnil => hempty (List.length_eq_zero_iff.mpr hnil)
    unfold p95Index
    dsimp only
    rw [List.length_insertionSort, hceil]

theorem Observability.calculateP95_eq {samples : List ℚ} (hlength : samples.length ≤ 2 ^ 48) :
    calculateP95 samples = calculateP95By exactTimes95 samples := by
  refine calculateP95By_congr ?_
  intro hsamples
  rw [float64Times95_eq hlength]
  exact ceil_numberTimes95 (List.length_pos_iff.mpr hsamples) hlength

theorem Client.Observability.calculateP95_eq {samples : List ℚ}
    (hlength : samples.length ≤ 2 ^ 48) :
    calculateP95 samples = calculateP95By exactTimes95 samples := by
  unfold calculateP95
  rw [calculateP95By_eq, calculateP95By_eq]
  refine HistoryQuiz.Observability.calculateP95By_congr ?_
  intro hsamples
  exact ceil_numberTimes95 (List.length_pos_iff.mpr hsamples) hlength

/-! ## The percentile -/

/-- For every list of samples that is not empty, and in any order of it. The index is within bounds
whatever the product is, and the rounded products give the same percentile. -/
theorem p95_nearestRank {samples : List ℚ} (hsamples : samples ≠ []) :
    ∃ v, Observability.calculateP95By exactTimes95 samples = v ∧
      Client.Observability.calculateP95By exactTimes95 samples = v ∧
      IsNearestRank (95 / 100) samples v ∧
      (∀ w, IsNearestRank (95 / 100) samples w → w = v) ∧
      (∀ samples', samples'.Perm samples →
        Observability.calculateP95By exactTimes95 samples' = v ∧
        Client.Observability.calculateP95By exactTimes95 samples' = v) ∧
      (∀ product,
        0 ≤ Observability.p95Index product samples.length ∧
        Observability.p95Index product samples.length < samples.length ∧
        Client.Observability.p95Index product samples.length =
          Observability.p95Index product samples.length) ∧
      (samples.length ≤ 2 ^ 48 →
        Observability.calculateP95 samples = v ∧
        Client.Observability.calculateP95 samples = v) := by
  have hrank := Observability.isNearestRank_calculateP95By hsamples
  refine ⟨_, rfl, Client.Observability.calculateP95By_eq _ _, hrank, ?_, ?_, ?_, ?_⟩
  · intro w hw
    exact hw.unique hrank
  · intro samples' hperm
    have hsamples' : samples' ≠ [] := by
      rintro rfl
      exact hsamples hperm.symm.eq_nil
    have hrank' := (Observability.isNearestRank_calculateP95By hsamples').perm hperm
    rw [Client.Observability.calculateP95By_eq]
    exact ⟨hrank'.unique hrank, hrank'.unique hrank⟩
  · intro product
    obtain ⟨hlower, hupper⟩ :=
      Observability.p95Index_bounds (List.length_pos_iff.mpr hsamples) product
    exact ⟨hlower, hupper, Client.Observability.p95Index_eq _ _⟩
  · intro hlength
    rw [Observability.calculateP95_eq hlength, Client.Observability.calculateP95_eq hlength,
      Client.Observability.calculateP95By_eq]
    exact ⟨rfl, rfl⟩

/-- Forty latencies, not in order: the two of 250 are above the percentile. -/
def latencies : List ℚ := 250 :: List.replicate 37 10 ++ [250, 20]

/-- The rank is 38 of 40. -/
theorem p95_nearestRank_latencies :
    Observability.calculateP95 latencies = 20 ∧ Client.Observability.calculateP95 latencies = 20 ∧
      IsNearestRank (95 / 100) latencies 20 := by
  have hlatencies : latencies ≠ [] := by decide
  have htwenty : IsNearestRank (95 / 100) latencies 20 := by
    refine ⟨by decide, ?_, ?_⟩
    · rw [show (latencies.countP fun a => a ≤ 20) = 38 by decide]
      norm_num [latencies]
    · rw [show (latencies.countP fun a => a < 20) = 37 by decide]
      norm_num [latencies]
  obtain ⟨v, -, -, -, hunique, -, -, hfloat⟩ := p95_nearestRank hlatencies
  obtain rfl := hunique 20 htwenty
  obtain ⟨hbackend, hclient⟩ := hfloat (by decide)
  exact ⟨hbackend, hclient, htwenty⟩

end HistoryQuiz
