import Mathlib.Data.List.DropRight

/-!
# Trimming

`trim p l` is `l` without the elements in `p` at its two ends. It is a projection
(`trim_trim`): what is trimmed stays as it is when it is trimmed again.
-/

namespace Trim

variable {α : Type} (p : α → Bool) (l : List α)

/-- The list without the elements in `p` at its two ends. -/
def trim : List α := (l.dropWhile p).rdropWhile p

theorem trim_trim : trim p (trim p l) = trim p l := by
  unfold trim
  -- the right end is cut off a list that does not start in `p`
  have hhead : ((l.dropWhile p).rdropWhile p).dropWhile p = (l.dropWhile p).rdropWhile p := by
    rw [List.dropWhile_eq_self_iff]
    intro hlen hp
    have hprefix : (l.dropWhile p).rdropWhile p <+: l.dropWhile p :=
      List.rdropWhile_prefix p _
    have hpos : 0 < (l.dropWhile p).length := Nat.lt_of_lt_of_le hlen hprefix.length_le
    refine List.dropWhile_get_zero_not p l hpos ?_
    rw [List.get_eq_getElem, ← hprefix.getElem hlen]
    exact hp
  rw [hhead, List.rdropWhile_idempotent]

/-- Nothing is left exactly when every element is in `p`. -/
theorem trim_eq_nil : trim p l = [] ↔ ∀ a ∈ l, p a = true := by
  unfold trim
  rw [List.rdropWhile_eq_nil_iff]
  constructor
  · intro h a ha
    by_contra hp
    have hmem : a ∈ l.dropWhile p := by
      rw [← List.takeWhile_append_dropWhile (p := p) (l := l), List.mem_append] at ha
      rcases ha with ha | ha
      · exact absurd (List.mem_takeWhile_imp ha) hp
      · exact ha
    exact hp (h a hmem)
  · intro h a ha
    exact h a ((List.dropWhile_suffix p).subset ha)

theorem trim_eq_self {p : α → Bool} {l : List α} (h : ∀ a ∈ l, p a = false) : trim p l = l := by
  unfold trim
  rw [List.dropWhile_eq_self_iff.mpr fun hlen => by simp [h],
    List.rdropWhile_eq_self_iff.mpr fun hne => by simp [h]]

end Trim
