import Mathlib.Algebra.Order.Floor.Ring
import Mathlib.Data.List.Sort
import Mathlib.Data.Rat.Floor

/-!
# Nearest-rank percentiles

The percentile of a list by the nearest rank is an element of it: at least the given part of the
list is up to it, and less than that part is below it (`IsNearestRank`). There is at most one
such value, and the order of the list does not matter. In a sorted list of length `n` the value
is at the index `⌈p * n⌉ - 1` (`isNearestRank_getElem`).
-/

namespace NearestRank

variable {α : Type} [LinearOrder α]

/-- The value `v` is the percentile of `l` to the part `p`. -/
structure IsNearestRank (p : ℚ) (l : List α) (v : α) : Prop where
  mem : v ∈ l
  upTo : p * l.length ≤ l.countP fun a => a ≤ v
  below : (l.countP fun a => a < v) < p * l.length

variable {p : ℚ} {l l' : List α} {v w : α}

/-- What is up to a value is below every larger one. -/
theorem IsNearestRank.le (hv : IsNearestRank p l v) (hw : IsNearestRank p l w) : w ≤ v := by
  by_contra hlt
  have hcount : (l.countP fun a => a ≤ v) ≤ l.countP fun a => a < w := by
    refine List.countP_mono_left ?_
    intro a _ ha
    exact decide_eq_true ((of_decide_eq_true ha).trans_lt (lt_of_not_ge hlt))
  have hcast : ((l.countP fun a => a ≤ v : ℕ) : ℚ) ≤ (l.countP fun a => a < w : ℕ) :=
    Nat.cast_le.mpr hcount
  exact absurd (hv.upTo.trans hcast) (not_le_of_gt hw.below)

theorem IsNearestRank.unique (hv : IsNearestRank p l v) (hw : IsNearestRank p l w) : v = w :=
  le_antisymm (hw.le hv) (hv.le hw)

theorem IsNearestRank.perm (hv : IsNearestRank p l v) (hperm : l.Perm l') :
    IsNearestRank p l' v where
  mem := hperm.mem_iff.mp hv.mem
  upTo := by
    rw [← hperm.length_eq, ← hperm.countP_eq]
    exact hv.upTo
  below := by
    rw [← hperm.length_eq, ← hperm.countP_eq]
    exact hv.below

/-! ## Sorted lists -/

section Sorted

variable {i : ℕ} (hsorted : l.SortedLE) (hi : i < l.length)
include hsorted

/-- The elements up to an index are up to the element there. -/
theorem lt_countP_le : i < l.countP fun a => a ≤ l[i] := by
  have htake : ((l.take (i + 1)).countP fun a => a ≤ l[i]) = (l.take (i + 1)).length := by
    rw [List.countP_eq_length]
    intro a ha
    obtain ⟨j, hj, rfl⟩ := List.mem_iff_getElem.mp ha
    rw [List.length_take] at hj
    rw [List.getElem_take, decide_eq_true_eq]
    exact hsorted.getElem_le_getElem_of_le (Nat.lt_succ_iff.mp (lt_min_iff.mp hj).1)
  have hle : ((l.take (i + 1)).countP fun a => a ≤ l[i]) ≤ l.countP fun a => a ≤ l[i] :=
    (List.take_sublist _ _).countP_le
  rw [htake, List.length_take] at hle
  omega

/-- The elements below the element at an index come before it. -/
theorem countP_lt_le : (l.countP fun a => a < l[i]) ≤ i := by
  have hdrop : ((l.drop i).countP fun a => a < l[i]) = 0 := by
    rw [List.countP_eq_zero]
    intro a ha
    obtain ⟨j, hj, rfl⟩ := List.mem_iff_getElem.mp ha
    rw [List.length_drop] at hj
    rw [List.getElem_drop, decide_eq_true_eq, not_lt]
    exact hsorted.getElem_le_getElem_of_le (Nat.le_add_right i j)
  calc (l.countP fun a => a < l[i])
      = ((l.take i).countP fun a => a < l[i]) + (l.drop i).countP fun a => a < l[i] := by
        rw [← List.countP_append, List.take_append_drop]
    _ = (l.take i).countP fun a => a < l[i] := by rw [hdrop, Nat.add_zero]
    _ ≤ (l.take i).length := List.countP_le_length
    _ ≤ i := List.length_take_le _ _

/-- The percentile is at the nearest rank. -/
theorem isNearestRank_getElem (hrank : ⌈p * l.length⌉ = i + 1) : IsNearestRank p l l[i] := by
  obtain ⟨hlower, hupper⟩ := Int.ceil_eq_iff.mp hrank
  push_cast at hlower hupper
  refine ⟨List.getElem_mem hi, ?_, ?_⟩
  · have hcount : ((i + 1 : ℕ) : ℚ) ≤ (l.countP fun a => a ≤ l[i] : ℕ) :=
      Nat.cast_le.mpr (lt_countP_le hsorted hi)
    push_cast at hcount
    exact hupper.trans hcount
  · have hcount : ((l.countP fun a => a < l[i] : ℕ) : ℚ) ≤ i :=
      Nat.cast_le.mpr (countP_lt_le hsorted hi)
    linarith

end Sorted

/-- The rank is that of an element. -/
theorem rank_bounds {n : ℕ} (hp : 0 < p) (hle : p ≤ 1) (hn : 0 < n) :
    0 < ⌈p * n⌉ ∧ ⌈p * n⌉ ≤ n := by
  have hcast : (0 : ℚ) < n := Nat.cast_pos.mpr hn
  refine ⟨Int.ceil_pos.mpr (mul_pos hp hcast), Int.ceil_le.mpr ?_⟩
  push_cast
  exact mul_le_of_le_one_left hcast.le hle

end NearestRank
