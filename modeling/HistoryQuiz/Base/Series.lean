import Mathlib.Data.List.DropRight
import Mathlib.Data.List.Nodup

/-!
# Keyed series

A store that keeps one state for each key: recording an event under a key steps the state of that
key, from an initial state when the key is new. After any run there is one entry for each key
that was recorded, and its state is what the events of that key alone lead to (`exact_run`).

A window of the last `k` items, which grows until it is full and slides from then on, holds the
last `k` items at any time (`push_rtake`).
-/

namespace Series

/-! ## Stores -/

section Store

variable {κ σ ε : Type} [DecidableEq κ]

/-- Change the state of a key, or add a state for a new key. -/
def upsert (f : Option σ → σ) (k : κ) (store : List (κ × σ)) : List (κ × σ) :=
  if k ∈ store.map Prod.fst then store.map fun entry =>
    if entry.1 = k then (k, f (some entry.2)) else entry
  else store ++ [(k, f none)]

/-- Step the state of a key. -/
def record (init : σ) (step : σ → σ) : κ → List (κ × σ) → List (κ × σ) :=
  upsert fun state => step (state.getD init)

variable (init : σ) (key : ε → κ) (step : σ → ε → σ)

/-- The store after a run. -/
def run (events : List ε) : List (κ × σ) :=
  events.foldl (fun store e => record init (fun s => step s e) (key e) store) []

/-- The events of a key. -/
def under (k : κ) (events : List ε) : List ε := events.filter fun e => key e = k

/-- The store has one entry for each key of the events, with the state that they lead to. -/
structure Exact (events : List ε) (store : List (κ × σ)) : Prop where
  nodup : (store.map Prod.fst).Nodup
  mem_keys : ∀ k, k ∈ store.map Prod.fst ↔ k ∈ events.map key
  states : ∀ entry ∈ store, entry.2 = (under key entry.1 events).foldl step init

variable {init key step}

theorem lookup_eq_none {store : List (κ × σ)} {k : κ} :
    store.lookup k = none ↔ k ∉ store.map Prod.fst := by
  rw [List.lookup_eq_none_iff, List.mem_map]
  constructor
  · rintro h ⟨entry, hentry, rfl⟩
    simpa using h entry hentry
  · intro h entry hentry
    rw [bne_iff_ne]
    rintro rfl
    exact h ⟨entry, hentry, rfl⟩

/-- A store finds what it has. -/
theorem lookup_eq_some {store : List (κ × σ)} (h : (store.map Prod.fst).Nodup) {k : κ} {s : σ} :
    store.lookup k = some s ↔ (k, s) ∈ store := by
  constructor
  · intro hlookup
    obtain ⟨before, after, rfl, -⟩ := List.lookup_eq_some_iff.mp hlookup
    simp
  · intro hmem
    cases hlookup : store.lookup k with
    | none => exact absurd (List.mem_map_of_mem hmem) (lookup_eq_none.mp hlookup)
    | some s' =>
        obtain ⟨before, after, rfl, -⟩ := List.lookup_eq_some_iff.mp hlookup
        have heq := List.inj_on_of_nodup_map h hmem (y := (k, s')) (by simp) rfl
        cases heq
        rfl

theorem map_fst_upsert (f : Option σ → σ) (k : κ) (store : List (κ × σ)) :
    (upsert f k store).map Prod.fst =
      if k ∈ store.map Prod.fst then store.map Prod.fst else store.map Prod.fst ++ [k] := by
  unfold upsert
  split_ifs with hk
  · rw [List.map_map]
    refine List.map_congr_left ?_
    intro entry _
    by_cases hentry : entry.1 = k
    · simp [hentry]
    · simp [hentry]
  · simp

theorem nodup_upsert {store : List (κ × σ)} (h : (store.map Prod.fst).Nodup)
    (f : Option σ → σ) (k : κ) : ((upsert f k store).map Prod.fst).Nodup := by
  rw [map_fst_upsert]
  split_ifs with hk
  · exact h
  · rw [← List.concat_eq_append]
    exact h.concat hk

theorem mem_record {f : σ → σ} {k : κ} {store : List (κ × σ)} {entry : κ × σ} :
    entry ∈ record init f k store ↔
      (entry ∈ store ∧ entry.1 ≠ k) ∨
      (entry.1 = k ∧ ((∃ s, (k, s) ∈ store ∧ entry.2 = f s) ∨
        k ∉ store.map Prod.fst ∧ entry.2 = f init)) := by
  unfold record upsert
  split_ifs with hk
  · rw [List.mem_map]
    constructor
    · rintro ⟨⟨k', s⟩, hs, rfl⟩
      by_cases hkey : k' = k
      · subst hkey
        exact .inr ⟨by simp, .inl ⟨s, hs, by simp⟩⟩
      · exact .inl (by simpa [hkey] using hs)
    · rintro (⟨hentry, hne⟩ | ⟨hkey, ⟨s, hs, hstate⟩ | ⟨hnew, -⟩⟩)
      · exact ⟨entry, hentry, if_neg hne⟩
      · exact ⟨(k, s), hs, Prod.ext (by simp [hkey]) (by simp [hstate])⟩
      · exact absurd hk hnew
  · rw [List.mem_append, List.mem_singleton]
    have hne : ∀ s, (k, s) ∉ store := fun s hs => hk (List.mem_map_of_mem hs)
    constructor
    · rintro (hentry | rfl)
      · exact .inl ⟨hentry, fun hkey => hk (hkey ▸ List.mem_map_of_mem hentry)⟩
      · exact .inr ⟨rfl, .inr ⟨hk, rfl⟩⟩
    · rintro (⟨hentry, -⟩ | ⟨hkey, ⟨s, hs, -⟩ | ⟨-, hstate⟩⟩)
      · exact .inl hentry
      · exact absurd hs (hne s)
      · exact .inr (Prod.ext hkey hstate)

theorem under_append (k : κ) (events : List ε) (e : ε) :
    under key k (events ++ [e]) = under key k events ++ if key e = k then [e] else [] := by
  unfold under
  rw [List.filter_append, List.filter_cons, List.filter_nil]
  by_cases hkey : key e = k <;> simp [hkey]

theorem under_eq_nil {k : κ} {events : List ε} (h : k ∉ events.map key) :
    under key k events = [] := by
  rw [under, List.filter_eq_nil_iff]
  intro e he hkey
  exact h (of_decide_eq_true hkey ▸ List.mem_map_of_mem he)

theorem Exact.record {events : List ε} {store : List (κ × σ)} (h : Exact init key step events store)
    (e : ε) :
    Exact init key step (events ++ [e]) (record init (fun s => step s e) (key e) store) := by
  refine ⟨?_, ?_, ?_⟩
  · exact nodup_upsert h.nodup _ _
  · intro k
    rw [Series.record, map_fst_upsert, List.map_append, List.mem_append]
    have hkeys := h.mem_keys
    split_ifs with hk
    · rw [hkeys]
      refine ⟨.inl, ?_⟩
      rintro (hold | hnew)
      · exact hold
      · rw [List.map_singleton, List.mem_singleton] at hnew
        exact hnew ▸ (hkeys _).mp hk
    · rw [List.mem_append, hkeys]
      rfl
  · intro entry hentry
    obtain ⟨hold, hne⟩ | ⟨hkey, ⟨s, hs, hstate⟩ | ⟨hnew, hstate⟩⟩ := mem_record.mp hentry
    · rw [under_append, if_neg (Ne.symm hne), List.append_nil]
      exact h.states entry hold
    · rw [hstate, under_append, if_pos hkey.symm, List.foldl_append, hkey]
      exact congrArg (step · e) (h.states _ hs)
    · have hnone : under key entry.1 events = [] := by
        rw [hkey]
        exact under_eq_nil fun hmem => hnew ((h.mem_keys _).mpr hmem)
      rw [hstate, under_append, if_pos hkey.symm, hnone]
      rfl

theorem exact_run (events : List ε) : Exact init key step events (run init key step events) := by
  induction events using List.reverseRecOn with
  | nil =>
      exact ⟨List.nodup_nil, fun k => Iff.rfl, fun entry hentry => absurd hentry List.not_mem_nil⟩
  | append_singleton events e ih =>
      unfold run
      rw [List.foldl_append]
      exact ih.record e

/-! ### Assignments

A step that does not look at the state before it is an assignment, and the last one stays. -/

theorem exists_last {k : κ} {events : List ε} (h : k ∈ events.map key) :
    ∃ before e after, events = before ++ e :: after ∧ key e = k ∧ k ∉ after.map key := by
  induction events using List.reverseRecOn with
  | nil => exact absurd h List.not_mem_nil
  | append_singleton events e ih =>
      by_cases hkey : key e = k
      · exact ⟨events, e, [], rfl, hkey, List.not_mem_nil⟩
      · rw [List.map_append, List.mem_append, List.map_singleton, List.mem_singleton] at h
        obtain ⟨before, e', after, rfl, hkey', hafter⟩ := ih (h.resolve_right (Ne.symm hkey))
        refine ⟨before, e', after ++ [e], by simp, hkey', ?_⟩
        rw [List.map_append, List.mem_append, List.map_singleton, List.mem_singleton]
        exact not_or.mpr ⟨hafter, Ne.symm hkey⟩

theorem lookup_run_assign {value : ε → σ} {before after : List ε} {e : ε}
    (hlast : key e ∉ after.map key) :
    (run init key (fun _ e => value e) (before ++ e :: after)).lookup (key e) =
      some (value e) := by
  have hexact : Exact init key (fun _ e => value e) (before ++ e :: after) _ := exact_run _
  obtain ⟨entry, hentry, hkey⟩ := List.mem_map.mp
    ((hexact.mem_keys (key e)).mpr (List.mem_map_of_mem (by simp)))
  have hunder : under key (key e) (before ++ e :: after) = under key (key e) before ++ [e] := by
    have hnone := under_eq_nil hlast
    unfold under at hnone ⊢
    rw [List.filter_append, List.filter_cons_of_pos (by simp), hnone]
  have hstate := hexact.states entry hentry
  rw [hkey, hunder, List.foldl_append] at hstate
  have heq : entry = (key e, value e) := Prod.ext hkey hstate
  rw [lookup_eq_some hexact.nodup, ← heq]
  exact hentry

end Store

/-! ## Windows -/

section Window

variable {α : Type}

/-- Add an item to a window of `k`. -/
def push (k : ℕ) (window : List α) (a : α) : List α :=
  if window.length < k then window ++ [a] else window.tail ++ [a]

theorem push_rtake {k : ℕ} (hk : 0 < k) (items : List α) (a : α) :
    push k (items.rtake k) a = (items ++ [a]).rtake k := by
  unfold push List.rtake
  rw [List.length_drop, List.length_append, List.length_singleton]
  by_cases hfull : k ≤ items.length
  · have hdrop : items.length + 1 - k = items.length - k + 1 := by omega
    rw [if_neg (by omega), List.tail_drop, hdrop, List.drop_append_of_le_length (by omega)]
  · have hdrop : items.length + 1 - k = 0 := by omega
    have hzero : items.length - k = 0 := by omega
    rw [if_pos (by omega), hdrop, hzero, List.drop_zero, List.drop_zero]

/-- There may be fewer than `k` items. -/
theorem rtake_min (k : ℕ) (items : List α) : items.rtake (min items.length k) = items.rtake k := by
  unfold List.rtake
  congr 1
  omega

end Window

end Series
