import Mathlib.Data.List.Basic

/-!
# Replays

A state machine whose steps are labelled, and the sequences of labels that lead from one state to
another. A label has no step in a state that does not allow it, so a replay says both what the
labels did and that each was allowed when its turn came.
-/

variable {σ ω : Type*}

/-- The labels `ws` lead from `s` to the last state. -/
inductive Replays (step : σ → ω → σ → Prop) (s : σ) : List ω → σ → Prop
  | nil : Replays step s [] s
  | append {ws : List ω} {t u : σ} {w : ω} (h : Replays step s ws t) (hstep : step t w u) :
      Replays step s (ws ++ [w]) u

namespace Replays

variable {step : σ → ω → σ → Prop} {s t : σ} {ws more : List ω}

theorem invariant {I : σ → Prop} (hstep : ∀ ⦃s w t⦄, I s → step s w t → I t)
    (h : Replays step s ws t) (hs : I s) : I t := by
  induction h with
  | nil => exact hs
  | append _ hw ih => exact hstep ih hw

theorem eq_of_nil (h : Replays step s [] t) : t = s := by
  generalize hnone : ([] : List ω) = ws at h
  cases h with
  | nil => rfl
  | append => simp at hnone

theorem step_of_singleton {w : ω} (h : Replays step s [w] t) : step s w t := by
  generalize hone : [w] = ws at h
  cases h with
  | nil => cases hone
  | append hearlier hstep =>
      obtain ⟨hnone, hw⟩ := List.append_inj' (show [] ++ [w] = _ from hone) rfl
      cases hw
      rw [← hnone] at hearlier
      rw [hearlier.eq_of_nil] at hstep
      exact hstep

theorem trans {u : σ} (h : Replays step s ws t) (h' : Replays step t more u) :
    Replays step s (ws ++ more) u := by
  induction h' with
  | nil => rwa [List.append_nil]
  | append _ hw ih =>
      rw [← List.append_assoc]
      exact ih.append hw

end Replays
