import HistoryQuiz.Base.Table
import Mathlib.Data.List.Perm.Basic
import Mathlib.Logic.Equiv.Basic

/-!
# What a sorted read leaves open

A sorted read orders the rows by a total preorder, and rows that are level come in any
order: every sorted order of the rows is the answer of some read (`exists_orderBy`). So the
reads agree on the row at a position exactly when a row is pinned there, that is, no other row
is level with it (`orderBy_getElem?_const_iff`).
-/

namespace Relational

variable {ρ : Type}

/-- Every order of the rows is a physical order of the table. -/
theorem exists_arrange {t t' : List ρ} (h : t'.Perm t) : ∃ scan, arrange scan t = t' := by
  -- the rows of `t'` with the positions that they have in `t`
  obtain ⟨z, hz, rfl⟩ : ∃ z : List (ρ × ℕ), z.Perm t.zipIdx ∧ t' = z.map Prod.fst := by
    have hcomp := congrFun (congrFun (List.eq_map_comp_perm (Prod.fst : ρ × ℕ → ρ)) t') t.zipIdx
    obtain ⟨z, hz, hperm⟩ := hcomp.mpr (by rwa [List.zipIdx_map_fst])
    exact ⟨z, hperm, hz⟩
  have hnodup : (z.map Prod.snd).Nodup := by
    rw [(hz.map Prod.snd).nodup_iff, List.zipIdx_map_snd]
    exact List.nodup_range'
  -- a position comes first in the scan when its row comes first in `t'`
  refine ⟨fun i => (z.map Prod.snd).idxOf i, ?_⟩
  unfold arrange
  congr 1
  refine List.Perm.eq_of_pairwise ?_ (List.pairwise_insertionSort _ _) ?_
    ((List.perm_insertionSort _ _).trans hz.symm)
  · intro a b ha hb hab hba
    have hmem : ∀ c ∈ z, c.2 ∈ z.map Prod.snd := fun c hc => List.mem_map_of_mem hc
    have ha' : a ∈ z := hz.mem_iff.mpr ((List.mem_insertionSort _).mp ha)
    have hidx : a.2 = b.2 := (List.idxOf_inj (hmem a ha')).mp (le_antisymm hab hba)
    exact List.inj_on_of_nodup_map hnodup ha' hb hidx
  · rw [List.pairwise_iff_getElem]
    intro i j hi hj hij
    have hpos : ∀ (k : ℕ) (hk : k < z.length), (z.map Prod.snd).idxOf z[k].2 = k := by
      intro k hk
      have hk' := hnodup.idxOf_getElem k (by simpa using hk)
      rwa [List.getElem_map] at hk'
    dsimp only
    rw [hpos i hi, hpos j hj]
    exact hij.le

section OrderBy

variable {r : ρ → ρ → Prop} [DecidableRel r] {t : List ρ}

/-- Every sorted order of the rows is the answer of a sorted read. -/
theorem exists_orderBy {sorted : List ρ} (hperm : sorted.Perm t) (hsorted : sorted.Pairwise r) :
    ∃ scan, orderBy r scan t = sorted := by
  obtain ⟨scan, hscan⟩ := exists_arrange hperm
  refine ⟨scan, ?_⟩
  unfold orderBy
  rw [hscan]
  exact hsorted.insertionSort_eq

/-- Of a property that goes down the list, the count says at which positions it holds. -/
theorem lt_countP_iff {l : List ρ} {p : ρ → Bool} (h : l.Pairwise fun x y => p y → p x) {i : ℕ} :
    i < l.countP p ↔ ∃ b, l[i]? = some b ∧ p b = true := by
  induction l generalizing i with
  | nil => simp
  | cons x l ih =>
      rw [List.pairwise_cons] at h
      cases hx : p x with
      | true =>
          rw [List.countP_cons_of_pos hx]
          cases i with
          | zero => simp [hx]
          | succ i => simpa using ih h.2
      | false =>
          -- then it holds nowhere
          have hnone : ∀ y ∈ l, p y = false := by
            intro y hy
            rw [← Bool.not_eq_true]
            intro hpy
            rw [h.1 y hy hpy] at hx
            cases hx
          rw [List.countP_eq_zero.mpr (by simpa [hx] using hnone)]
          refine iff_of_false (Nat.not_lt_zero i) ?_
          rintro ⟨b, hb, hpb⟩
          rcases List.mem_cons.mp (List.mem_of_getElem? hb) with rfl | hmem
          · rw [hx] at hpb
            cases hpb
          · rw [hnone b hmem] at hpb
            cases hpb

/-- The row `a` has `i` rows before it, and none is level with it. -/
structure Pinned (r : ρ → ρ → Prop) [DecidableRel r] (t : List ρ) (i : ℕ) (a : ρ) : Prop where
  mem : a ∈ t
  before : (t.countP fun s => ¬r a s) = i
  alone : ∀ s ∈ t, r a s → r s a → s = a

variable [Std.Total r]

/-- In a sorted list, the rows before a row with which none is level precede it. -/
theorem countP_before {l : List ρ} (hsorted : l.Pairwise r) (hnodup : l.Nodup) {i : ℕ} {a : ρ}
    (ha : l[i]? = some a) (halone : ∀ s ∈ l, r a s → r s a → s = a) :
    (l.countP fun s => ¬r a s) = i := by
  induction l generalizing i with
  | nil => cases ha
  | cons x l ih =>
      rw [List.pairwise_cons] at hsorted
      rw [List.nodup_cons] at hnodup
      cases i with
      | zero =>
          obtain rfl : x = a := Option.some.inj ha
          rw [List.countP_eq_zero]
          intro s hs
          have hle : r x s := by
            rcases List.mem_cons.mp hs with rfl | hs
            · exact Std.Refl.refl s
            · exact hsorted.1 s hs
          simpa using hle
      | succ i =>
          have ha' : l[i]? = some a := ha
          have hmem : a ∈ l := List.mem_of_getElem? ha'
          -- the head precedes `a`: it is sorted before `a` and not level with it
          have hx : ¬r a x := by
            intro hle
            have hsame := halone x List.mem_cons_self hle (hsorted.1 a hmem)
            rw [hsame] at hnodup
            exact hnodup.1 hmem
          rw [List.countP_cons_of_pos (by simpa using hx),
            ih hsorted.2 hnodup.2 ha' fun s hs => halone s (List.mem_cons_of_mem x hs)]

variable [IsTrans ρ r]

/-- A pinned row is at its position in every sorted read. -/
theorem Pinned.getElem?_orderBy {i : ℕ} {a : ρ} (h : Pinned r t i a) (hnodup : t.Nodup)
    (scan : ℕ → ℕ) : (orderBy r scan t)[i]? = some a := by
  have hperm := orderBy_perm r scan t
  obtain ⟨j, hj⟩ := List.mem_iff_getElem?.mp (hperm.mem_iff.mpr h.mem)
  have hcount := countP_before (orderBy_pairwise r scan t) (hperm.nodup_iff.mpr hnodup) hj
    fun s hs => h.alone s (hperm.mem_iff.mp hs)
  rw [hperm.countP_eq, h.before] at hcount
  rwa [hcount]

/-- Two rows that are level can change places. -/
theorem exists_orderBy_level [DecidableEq ρ] (hnodup : t.Nodup) {scan : ℕ → ℕ} {i : ℕ} {a b : ρ}
    (ha : (orderBy r scan t)[i]? = some a) (hb : b ∈ t) (hab : r a b) (hba : r b a) :
    ∃ scan', (orderBy r scan' t)[i]? = some b := by
  have hperm := orderBy_perm r scan t
  have hmem : a ∈ t := hperm.mem_iff.mp (List.mem_of_getElem? ha)
  -- exchanging level rows changes no comparison
  have hlevel : ∀ x, r (Equiv.swap a b x) x ∧ r x (Equiv.swap a b x) := by
    intro x
    rw [Equiv.swap_apply_def]
    split_ifs with hxa hxb
    · exact hxa ▸ ⟨hba, hab⟩
    · exact hxb ▸ ⟨hab, hba⟩
    · exact ⟨Std.Refl.refl x, Std.Refl.refl x⟩
  have hswap : ((orderBy r scan t).map (Equiv.swap a b)).Perm t := by
    refine (List.perm_ext_iff_of_nodup ?_ hnodup).mpr fun x => ?_
    · exact (hperm.nodup_iff.mpr hnodup).map (Equiv.swap a b).injective
    · have hkeeps : ∀ x ∈ t, Equiv.swap a b x ∈ t := by
        intro x hx
        rw [Equiv.swap_apply_def]
        split_ifs
        · exact hb
        · exact hmem
        · exact hx
      rw [(hperm.map _).mem_iff, List.mem_map]
      constructor
      · rintro ⟨y, hy, rfl⟩
        exact hkeeps y hy
      · intro hx
        exact ⟨Equiv.swap a b x, hkeeps x hx, by simp⟩
  have hsorted : ((orderBy r scan t).map (Equiv.swap a b)).Pairwise r := by
    rw [List.pairwise_map]
    refine (orderBy_pairwise r scan t).imp ?_
    intro x y hxy
    exact trans_of r (trans_of r (hlevel x).1 hxy) (hlevel y).2
  obtain ⟨scan', hscan'⟩ := exists_orderBy hswap hsorted
  refine ⟨scan', ?_⟩
  rw [hscan', List.getElem?_map, ha, Option.map_some, Equiv.swap_apply_left]

/-- A row is at the position `i` of some sorted read exactly when at most `i` rows come before it in
all of them, and more than `i` rows can. -/
theorem exists_getElem?_orderBy_iff (hnodup : t.Nodup) {i : ℕ} {a : ρ} (ha : a ∈ t) :
    (∃ scan, (orderBy r scan t)[i]? = some a) ↔
      (t.countP fun s => ¬r a s) ≤ i ∧ i < t.countP fun s => r s a := by
  classical
  -- both properties go down a sorted list
  have hcounts : ∀ scan : ℕ → ℕ,
      (i < (t.countP fun s => ¬r a s) ↔ ∃ b, (orderBy r scan t)[i]? = some b ∧ ¬r a b) ∧
      (i < (t.countP fun s => r s a) ↔ ∃ b, (orderBy r scan t)[i]? = some b ∧ r b a) := by
    intro scan
    have hsorted := orderBy_pairwise r scan t
    constructor
    · rw [← (orderBy_perm r scan t).countP_eq, lt_countP_iff]
      · simp
      · refine hsorted.imp fun {x y} hxy => ?_
        simpa using fun hay hax => hay (trans_of r hax hxy)
    · rw [← (orderBy_perm r scan t).countP_eq, lt_countP_iff]
      · simp
      · refine hsorted.imp fun {x y} hxy => ?_
        simpa using fun hya => trans_of r hxy hya
  constructor
  · rintro ⟨scan, hscan⟩
    obtain ⟨hbefore, hlevel⟩ := hcounts scan
    refine ⟨Nat.le_of_not_lt fun hlt => ?_, hlevel.mpr ⟨a, hscan, Std.Refl.refl a⟩⟩
    obtain ⟨b, hb, hab⟩ := hbefore.mp hlt
    rw [hscan] at hb
    cases hb
    exact hab (Std.Refl.refl a)
  · rintro ⟨hle, hlt⟩
    obtain ⟨hbefore, hlevel⟩ := hcounts id
    obtain ⟨b, hb, hba⟩ := hlevel.mp hlt
    have hab : r a b := by
      by_contra hnot
      exact absurd (hbefore.mpr ⟨b, hb, hnot⟩) (Nat.not_lt.mpr hle)
    exact exists_orderBy_level hnodup hb ha hba hab

/-- All sorted reads agree at a position exactly when a row is pinned there. -/
theorem orderBy_getElem?_const_iff (hnodup : t.Nodup) {i : ℕ} (hi : i < t.length) :
    (∀ scan scan', (orderBy r scan t)[i]? = (orderBy r scan' t)[i]?) ↔ ∃ a, Pinned r t i a := by
  classical
  constructor
  · intro hconst
    obtain ⟨a, ha⟩ : ∃ a, (orderBy r id t)[i]? = some a :=
      ⟨_, List.getElem?_eq_getElem (by rwa [length_orderBy])⟩
    have hperm := orderBy_perm r id t
    -- a row that is level with `a` is at the position in another read
    have halone : ∀ s ∈ t, r a s → r s a → s = a := by
      intro s hs has hsa
      obtain ⟨scan, hscan⟩ := exists_orderBy_level hnodup ha hs has hsa
      rw [← hconst id scan, ha] at hscan
      exact (Option.some.inj hscan).symm
    refine ⟨a, hperm.mem_iff.mp (List.mem_of_getElem? ha), ?_, halone⟩
    rw [← hperm.countP_eq]
    exact countP_before (orderBy_pairwise r id t) (hperm.nodup_iff.mpr hnodup) ha
      fun s hs => halone s (hperm.mem_iff.mp hs)
  · rintro ⟨a, ha⟩ scan scan'
    rw [ha.getElem?_orderBy hnodup, ha.getElem?_orderBy hnodup]

end OrderBy

/-! ## The first rows -/

/-- `n` rows of `t`, or all of them when there are fewer, in an order `r`, that come before all
other rows of `t`. -/
def TopRows (r : ρ → ρ → Prop) (n : ℕ) (t shown : List ρ) : Prop :=
  ∃ rest, (shown ++ rest).Perm t ∧ shown.length = min n t.length ∧ shown.Pairwise r ∧
    ∀ a ∈ shown, ∀ b ∈ rest, r a b

theorem TopRows.subset {r : ρ → ρ → Prop} {n : ℕ} {t shown : List ρ} (h : TopRows r n t shown) :
    shown ⊆ t := by
  obtain ⟨rest, hperm, -⟩ := h
  exact fun a ha => hperm.subset (List.mem_append_left _ ha)

/-- The first rows of a sorted read. -/
theorem topRows_take_orderBy {r : ρ → ρ → Prop} [DecidableRel r] [Std.Total r] [IsTrans ρ r]
    {n : ℕ} {t : List ρ} (scan : ℕ → ℕ) : TopRows r n t ((orderBy r scan t).take n) := by
  have hsorted : ((orderBy r scan t).take n ++ (orderBy r scan t).drop n).Pairwise r := by
    rw [List.take_append_drop]
    exact orderBy_pairwise r scan t
  obtain ⟨htake, -, hacross⟩ := List.pairwise_append.mp hsorted
  refine ⟨(orderBy r scan t).drop n, ?_, ?_, htake, hacross⟩
  · rw [List.take_append_drop]
    exact orderBy_perm r scan t
  · rw [List.length_take, (orderBy_perm r scan t).length_eq]

end Relational
