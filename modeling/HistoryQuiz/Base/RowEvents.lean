import Mathlib.Data.List.Basic
import Mathlib.Data.List.Count

/-!
# Row events

The events that a trigger for each row sees of a statement: rows that are inserted, updated and
deleted. A trigger that looks at one group of rows for each event takes the group of the new row,
or of the old one if there is no new one (`RowEvent.group`), so it does not look at the group
that an updated row has left.

`Accounts key t es t'`: the events `es` account for what became of `t`. A group that none of them
names has lost exactly the rows that updates have moved out of it. Each of the three kinds of
statements has this property, and it composes.
-/

namespace Relational

variable {ρ κ : Type}

inductive RowEvent (ρ : Type) where
  | insert (new : ρ)
  | update (old new : ρ)
  | delete (old : ρ)

/-- The group of the event: that of the new row, if there is one. -/
def RowEvent.group (key : ρ → κ) : RowEvent ρ → κ
  | insert new => key new
  | update _ new => key new
  | delete old => key old

section Group

variable [DecidableEq κ] (key : ρ → κ)

/-- The rows of a group. -/
def groupOf (t : List ρ) (k : κ) : List ρ := t.filter fun r => key r = k

/-- An update that moves a row out of the group. -/
def RowEvent.movesFrom (k : κ) : RowEvent ρ → Bool
  | update old new => decide (key old = k ∧ key new ≠ k)
  | _ => false

/-- The rows that the groups without an event have lost were moved out of them. -/
def Accounts (t : List ρ) (events : List (RowEvent ρ)) (t' : List ρ) : Prop :=
  ∀ k, k ∉ events.map (RowEvent.group key) →
    (groupOf key t' k).length + events.countP (RowEvent.movesFrom key k) =
      (groupOf key t k).length

variable {key}

theorem Accounts.refl (t : List ρ) : Accounts key t [] t := fun _ _ => rfl

theorem Accounts.trans {t t' t'' : List ρ} {es es' : List (RowEvent ρ)}
    (h : Accounts key t es t') (h' : Accounts key t' es' t'') : Accounts key t (es ++ es') t'' := by
  intro k hk
  rw [List.map_append, List.mem_append, not_or] at hk
  have hfirst := h k hk.1
  have hsecond := h' k hk.2
  rw [List.countP_append]
  omega

theorem Accounts.insert (t : List ρ) (r : ρ) : Accounts key t [.insert r] (t ++ [r]) := by
  intro k hk
  have hne : key r ≠ k := by simpa [RowEvent.group, eq_comm] using hk
  simp [groupOf, List.filter_append, hne, RowEvent.movesFrom]

theorem Accounts.delete (t : List ρ) (p : ρ → Bool) :
    Accounts key t ((t.filter p).map .delete) (t.filter fun r => !p r) := by
  intro k hk
  have hkept : ∀ r ∈ t, key r = k → p r = false := by
    intro r hr hrk
    by_contra hp
    refine hk (List.mem_map.mpr ⟨.delete r, ?_, hrk⟩)
    exact List.mem_map_of_mem (List.mem_filter.mpr ⟨hr, by simpa using hp⟩)
  have hmoves : ((t.filter p).map RowEvent.delete).countP (RowEvent.movesFrom key k) = 0 := by
    rw [List.countP_map, List.countP_eq_zero]
    intro r _
    exact Bool.false_ne_true
  rw [hmoves, Nat.add_zero, groupOf, groupOf, List.filter_filter]
  congr 1
  refine List.filter_congr ?_
  intro r hr
  by_cases hrk : key r = k
  · simp [hrk, hkept r hr hrk]
  · simp [hrk]

theorem Accounts.update (t : List ρ) (p : ρ → Bool) (f : ρ → ρ) :
    Accounts key t ((t.filter p).map fun r => .update r (f r))
      (t.map fun r => if p r then f r else r) := by
  intro k hk
  -- no updated row ends in the group, so those that were in it have left it
  have hleft : ∀ r ∈ t, p r = true → key (f r) ≠ k := by
    intro r hr hp hrk
    refine hk (List.mem_map.mpr ⟨.update r (f r), ?_, hrk⟩)
    exact List.mem_map.mpr ⟨r, List.mem_filter.mpr ⟨hr, hp⟩, rfl⟩
  clear hk
  induction t with
  | nil => rfl
  | cons r t ih =>
      have hrest := ih fun r' hr' => hleft r' (List.mem_cons_of_mem _ hr')
      have hhead := hleft r List.mem_cons_self
      unfold groupOf at hrest ⊢
      by_cases hp : p r = true <;> by_cases hrk : key r = k
      · have hnew := hhead hp
        simp only [List.map_cons, hp, if_true, List.filter_cons, List.countP_cons,
          RowEvent.movesFrom, hrk, hnew, decide_true, decide_false, List.length_cons,
          ne_eq, not_false_eq_true, and_self]
        simp only [Bool.false_eq_true, if_false]
        omega
      · have hnew := hhead hp
        simp only [List.map_cons, hp, if_true, List.filter_cons, List.countP_cons,
          RowEvent.movesFrom, hrk, hnew, decide_false, false_and]
        simpa using hrest
      · simp only [List.map_cons, hp, List.filter_cons, hrk, decide_true, List.length_cons,
          Bool.false_eq_true, if_false, if_true]
        omega
      · simp only [List.map_cons, hp, List.filter_cons, hrk, decide_false,
          Bool.false_eq_true, if_false]
        exact hrest

/-- Exactly the groups that keep all of their rows, of those without an event, have no row
moved out of them. -/
theorem Accounts.length_eq_iff {t t' : List ρ} {events : List (RowEvent ρ)}
    (h : Accounts key t events t') {k : κ} (hk : k ∉ events.map (RowEvent.group key)) :
    (groupOf key t' k).length = (groupOf key t k).length ↔
      ∀ e ∈ events, e.movesFrom key k = false := by
  have hcount := h k hk
  have hzero : events.countP (RowEvent.movesFrom key k) = 0 ↔
      ∀ e ∈ events, e.movesFrom key k = false := by
    rw [List.countP_eq_zero]
    simp
  rw [← hzero]
  omega

end Group

end Relational
