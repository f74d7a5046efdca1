import Mathlib.Data.List.Sort
import Mathlib.Data.List.Nodup

/-!
# Tables, keys and references

A table is the list of its rows. Two constraints of relational schemas are
developed here over arbitrary row and key types, with the lemmas that the row
operations (append, filter, map) need:

* `Unique key t` (a primary key or a unique index): no two rows share a key;
* `Refers fk t key t'` (a foreign key): every row of `t` names a row of `t'`.

`orderBy r scan t` is a sorted read: the rows are scanned in an arbitrary
physical order and then sorted stably, so the result is an arbitrary one of the
orders that `ORDER BY r` permits.
-/

namespace Relational

variable {ρ ρ' κ κ' : Type}

/-! ## Unique keys -/

/-- No two rows of the table share a key. -/
def Unique (key : ρ → κ) (t : List ρ) : Prop := (t.map key).Nodup

instance [DecidableEq κ] (key : ρ → κ) (t : List ρ) : Decidable (Unique key t) :=
  inferInstanceAs (Decidable (List.Nodup _))

theorem Unique.nil (key : ρ → κ) : Unique key ([] : List ρ) := List.nodup_nil

/-- Two rows with the same key are the same row. -/
theorem Unique.eq {key : ρ → κ} {t : List ρ} (h : Unique key t) {r s : ρ} (hr : r ∈ t)
    (hs : s ∈ t) (hkey : key r = key s) : r = s :=
  List.inj_on_of_nodup_map h hr hs hkey

theorem Unique.filter {key : ρ → κ} {t : List ρ} (h : Unique key t) (p : ρ → Bool) :
    Unique key (t.filter p) :=
  List.Nodup.sublist (List.filter_sublist.map key) h

/-- A row that is appended under a unique key has a new key. -/
theorem Unique.not_mem_of_append {key : ρ → κ} {t t' : List ρ} (h : Unique key (t ++ t')) {r : ρ}
    (hr : r ∈ t') : key r ∉ t.map key := by
  unfold Unique at h
  rw [List.map_append, List.nodup_append] at h
  intro hmem
  exact h.2.2 _ hmem _ (List.mem_map_of_mem hr) rfl

/-- Inserting a row with a new key keeps the key unique. -/
theorem Unique.insert {key : ρ → κ} {t : List ρ} (h : Unique key t) {r : ρ}
    (hnew : key r ∉ t.map key) : Unique key (t ++ [r]) := by
  unfold Unique
  rw [List.map_append, List.nodup_append]
  refine ⟨h, List.nodup_singleton _, ?_⟩
  intro a ha b hb hab
  rw [List.map_singleton, List.mem_singleton] at hb
  exact hnew (hb ▸ hab ▸ ha)

/-- Updating columns outside the key keeps the key unique. -/
theorem Unique.map {key : ρ → κ} {t : List ρ} (h : Unique key t) {f : ρ → ρ}
    (hf : ∀ r, key (f r) = key r) : Unique key (t.map f) := by
  unfold Unique
  rw [List.map_map, show key ∘ f = key from funext hf]
  exact h

/-- A unique key selects at most one row. -/
theorem Unique.filter_key_length_le [DecidableEq κ] {key : ρ → κ} {t : List ρ}
    (h : Unique key t) (k : κ) : (t.filter fun r => key r = k).length ≤ 1 := by
  have hnodup : ((t.filter fun r => key r = k).map key).Nodup := h.filter _
  have hconst : (t.filter fun r => key r = k).map key =
      List.replicate (t.filter fun r => key r = k).length k := by
    rw [List.eq_replicate_iff]
    refine ⟨by simp, ?_⟩
    intro b hb
    obtain ⟨r, hr, rfl⟩ := List.mem_map.mp hb
    simpa using (List.mem_filter.mp hr).2
  rw [hconst] at hnodup
  exact List.nodup_replicate.mp hnodup

/-- A unique key and a row with that key select exactly that row. -/
theorem Unique.filter_key_eq [DecidableEq κ] {key : ρ → κ} {t : List ρ} (h : Unique key t)
    {r : ρ} (hr : r ∈ t) : (t.filter fun s => key s = key r) = [r] := by
  have hmem : r ∈ t.filter fun s => key s = key r := by simp [hr]
  have hlen := h.filter_key_length_le (key r)
  match hl : t.filter fun s => key s = key r with
  | [] => simp [hl] at hmem
  | [s] =>
      rw [hl, List.mem_singleton] at hmem
      rw [hmem]
  | s :: s' :: rest => simp [hl] at hlen

/-- Looking a row up by a unique key finds it. -/
theorem Unique.find?_eq [DecidableEq κ] {key : ρ → κ} {t : List ρ} (h : Unique key t)
    {r : ρ} (hr : r ∈ t) : (t.find? fun s => key s = key r) = some r := by
  rw [← List.head?_filter, h.filter_key_eq hr]
  rfl

/-- A search that only one row can answer finds it. -/
theorem find?_eq_some_of_unique {t : List ρ} {p : ρ → Bool} {r : ρ} (hr : r ∈ t)
    (hp : p r = true) (honly : ∀ s ∈ t, p s = true → s = r) : t.find? p = some r := by
  induction t with
  | nil => simp at hr
  | cons s t ih =>
      by_cases hs : p s = true
      · rw [List.find?_cons_of_pos hs, honly s List.mem_cons_self hs]
      · rw [List.find?_cons_of_neg hs]
        refine ih ?_ fun u hu => honly u (List.mem_cons_of_mem _ hu)
        rcases List.mem_cons.mp hr with rfl | hr
        · exact absurd hp hs
        · exact hr

/-- Updating only rows that a query does not select, and keeping them out of it, keeps
its answer. -/
theorem filter_map_eq_filter {t : List ρ} {p : ρ → Bool} {f : ρ → ρ} (hp : ∀ r, p (f r) = p r)
    (hf : ∀ r ∈ t, p r = true → f r = r) : (t.map f).filter p = t.filter p := by
  rw [List.filter_map, show p ∘ f = p from funext hp]
  conv_rhs => rw [← List.map_id (t.filter p)]
  refine List.map_congr_left ?_
  intro r hr
  exact hf r (List.mem_filter.mp hr).1 (List.mem_filter.mp hr).2

/-! ## References -/

/-- Every row of `t` refers, by its columns `fk`, to a row of `t'`. -/
def Refers (fk : ρ → κ) (t : List ρ) (key : ρ' → κ) (t' : List ρ') : Prop :=
  ∀ r ∈ t, ∃ r' ∈ t', key r' = fk r

instance [DecidableEq κ] (fk : ρ → κ) (t : List ρ) (key : ρ' → κ) (t' : List ρ') :
    Decidable (Refers fk t key t') :=
  inferInstanceAs (Decidable (∀ r ∈ t, ∃ r' ∈ t', key r' = fk r))

section Refers

variable {fk : ρ → κ} {key : ρ' → κ} {t : List ρ} {t' : List ρ'}

theorem Refers.nil : Refers fk [] key t' := by simp [Refers]

/-- Inserting a referring row whose target exists keeps the reference. -/
theorem Refers.insert (h : Refers fk t key t') {r : ρ} (hr : fk r ∈ t'.map key) :
    Refers fk (t ++ [r]) key t' := by
  intro s hs
  rcases List.mem_append.mp hs with hs | hs
  · exact h s hs
  · rw [List.mem_singleton] at hs
    obtain ⟨r', hr', hkey⟩ := List.mem_map.mp hr
    exact ⟨r', hr', by rw [hkey, hs]⟩

/-- Inserting a referenced row keeps every reference. -/
theorem Refers.insert_target (h : Refers fk t key t') (r' : ρ') :
    Refers fk t key (t' ++ [r']) := by
  intro r hr
  obtain ⟨s, hs, hkey⟩ := h r hr
  exact ⟨s, List.mem_append_left _ hs, hkey⟩

/-- Deleting referring rows keeps the reference. -/
theorem Refers.filter (h : Refers fk t key t') (p : ρ → Bool) :
    Refers fk (t.filter p) key t' :=
  fun r hr => h r (List.mem_of_mem_filter hr)

/-- Deleting referenced rows keeps the reference when no remaining row refers to
a deleted one. -/
theorem Refers.filter_target (h : Refers fk t key t') {p : ρ' → Bool}
    (hp : ∀ r ∈ t, ∀ r' ∈ t', key r' = fk r → p r' = true) :
    Refers fk t key (t'.filter p) := by
  intro r hr
  obtain ⟨r', hr', hkey⟩ := h r hr
  exact ⟨r', List.mem_filter.mpr ⟨hr', hp r hr r' hr' hkey⟩, hkey⟩

/-- Updating columns outside the foreign key keeps the reference. -/
theorem Refers.map (h : Refers fk t key t') {f : ρ → ρ} (hf : ∀ r, fk (f r) = fk r) :
    Refers fk (t.map f) key t' := by
  intro r hr
  obtain ⟨s, hs, rfl⟩ := List.mem_map.mp hr
  rw [hf]
  exact h s hs

/-- Updating columns outside the referenced key keeps the reference. -/
theorem Refers.map_target (h : Refers fk t key t') {f : ρ' → ρ'}
    (hf : ∀ r, key (f r) = key r) : Refers fk t key (t'.map f) := by
  intro r hr
  obtain ⟨r', hr', hkey⟩ := h r hr
  exact ⟨f r', List.mem_map_of_mem hr', by rw [hf, hkey]⟩

/-- A join along a foreign key keeps every row once. -/
theorem Refers.join_map_fst [DecidableEq κ] (h : Refers fk t key t') (hkey : Unique key t') :
    (t.flatMap fun r => (t'.filter fun r' => key r' = fk r).map fun r' => (r, r')).map Prod.fst =
      t := by
  induction t with
  | nil => rfl
  | cons r t ih =>
      obtain ⟨r', hr', hfk⟩ := h r List.mem_cons_self
      rw [List.flatMap_cons, List.map_append, ih fun s hs => h s (List.mem_cons_of_mem _ hs), ← hfk,
        hkey.filter_key_eq hr']
      rfl

end Refers

/-! ## Sorted reads -/

/-- The rows in the physical order that `scan` gives to their positions. -/
def arrange (scan : ℕ → ℕ) (t : List ρ) : List ρ :=
  (t.zipIdx.insertionSort fun a b => scan a.2 ≤ scan b.2).map Prod.fst

theorem arrange_perm (scan : ℕ → ℕ) (t : List ρ) : (arrange scan t).Perm t := by
  unfold arrange
  have hsort := (List.perm_insertionSort (fun a b : ρ × ℕ => scan a.2 ≤ scan b.2) t.zipIdx).map
    Prod.fst
  rwa [List.zipIdx_map_fst] at hsort

/-- `ORDER BY r`: a stable sort of the rows in their physical order. -/
def orderBy (r : ρ → ρ → Prop) [DecidableRel r] (scan : ℕ → ℕ) (t : List ρ) : List ρ :=
  (arrange scan t).insertionSort r

section OrderBy

variable (r : ρ → ρ → Prop) [DecidableRel r] (scan : ℕ → ℕ) (t : List ρ)

theorem orderBy_perm : (orderBy r scan t).Perm t :=
  (List.perm_insertionSort r _).trans (arrange_perm scan t)

@[simp] theorem mem_orderBy {a : ρ} : a ∈ orderBy r scan t ↔ a ∈ t :=
  (orderBy_perm r scan t).mem_iff

@[simp] theorem length_orderBy : (orderBy r scan t).length = t.length :=
  (orderBy_perm r scan t).length_eq

theorem orderBy_eq_nil : orderBy r scan t = [] ↔ t = [] := by
  rw [← List.length_eq_zero_iff, length_orderBy, List.length_eq_zero_iff]

theorem orderBy_pairwise [Std.Total r] [IsTrans ρ r] : (orderBy r scan t).Pairwise r :=
  List.pairwise_insertionSort r _

/-- When the order is total on the rows, a sorted read does not depend on the
physical order. -/
theorem orderBy_eq_of_perm [Std.Total r] [IsTrans ρ r]
    {sorted : List ρ} (hperm : sorted.Perm t) (hsorted : sorted.Pairwise r)
    (hantisymm : ∀ a ∈ t, ∀ b ∈ t, r a b → r b a → a = b) : orderBy r scan t = sorted := by
  refine List.Perm.eq_of_pairwise ?_ (orderBy_pairwise r scan t) hsorted
    ((orderBy_perm r scan t).trans hperm.symm)
  intro a b ha hb hab hba
  exact hantisymm a ((mem_orderBy r scan t).mp ha) b (hperm.mem_iff.mp hb) hab hba

end OrderBy

end Relational
