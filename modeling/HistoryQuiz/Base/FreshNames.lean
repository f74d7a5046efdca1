import Mathlib.Data.List.Basic

/-!
# Fresh names

A log of events, of which some mint a name and some use one. In a log where every name is fresh
when it is minted, a name is minted once (`Fresh.unique`), and before everything that uses it
(`Fresh.minted_before`).
-/

namespace FreshNames

variable {ε ν : Type*} (mints uses : ε → ν → Prop)

/-- A log that has grown event by event, and no earlier event uses a name that one mints. -/
inductive Fresh : List ε → Prop
  | nil : Fresh []
  | append {log : List ε} {e : ε} (h : Fresh log)
      (hfresh : ∀ n, mints e n → ∀ e' ∈ log, ¬uses e' n) : Fresh (log ++ [e])

variable {mints uses} {log : List ε} {m m' u : ε} {n : ν}

/-- To mint a name is to use it, so nothing else mints it. -/
theorem Fresh.unique (huses : ∀ e n, mints e n → uses e n) (h : Fresh mints uses log)
    (hm : m ∈ log) (hm' : m' ∈ log) (hmints : mints m n) (hmints' : mints m' n) : m = m' := by
  induction h with
  | nil => exact absurd hm List.not_mem_nil
  | append _ hfresh ih =>
      rcases List.mem_append.mp hm with hm | hm <;> rcases List.mem_append.mp hm' with hm' | hm'
      · exact ih hm hm'
      · rw [List.mem_singleton.mp hm'] at hmints'
        exact absurd (huses m n hmints) (hfresh n hmints' m hm)
      · rw [List.mem_singleton.mp hm] at hmints
        exact absurd (huses m' n hmints') (hfresh n hmints m' hm')
      · exact (List.mem_singleton.mp hm).trans (List.mem_singleton.mp hm').symm

/-- What uses a name comes after what mints it. -/
theorem Fresh.minted_before (h : Fresh mints uses log) (hm : m ∈ log) (hu : u ∈ log)
    (hmints : mints m n) (husesn : uses u n) (hne : u ≠ m) :
    ∃ before between after, log = before ++ m :: (between ++ u :: after) := by
  induction h with
  | nil => exact absurd hm List.not_mem_nil
  | @append log e _ hfresh ih =>
      rcases List.mem_append.mp hm with hearlier | hlast <;>
        rcases List.mem_append.mp hu with huearlier | hulast
      · obtain ⟨before, between, after, rfl⟩ := ih hearlier huearlier
        exact ⟨before, between, after ++ [e], by simp⟩
      · obtain ⟨before, after, rfl⟩ := List.mem_iff_append.mp hearlier
        cases List.mem_singleton.mp hulast
        exact ⟨before, after, [], by simp⟩
      · cases List.mem_singleton.mp hlast
        exact absurd husesn (hfresh n hmints u huearlier)
      · exact absurd ((List.mem_singleton.mp hulast).trans (List.mem_singleton.mp hlast).symm) hne

end FreshNames
