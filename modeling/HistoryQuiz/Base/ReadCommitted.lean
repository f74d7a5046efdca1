import HistoryQuiz.Base.Prog
import Mathlib.Data.Set.Basic
import Mathlib.Logic.Relation

/-!
# Transactions that see committed rows

Any number of transactions over one database, interleaved statement by statement. A
statement sees the rows that are committed when it runs, and what its transaction has
written. It may take locks, which its transaction holds until it ends; it waits while
another transaction holds one of them. Nothing is seen of a transaction before its commit.

* `Guarded k p`: the first statement of `p` takes the lock `k`, or `p` fails there;
* `Sound.step`, `Sound.steps`: when every transaction is guarded by the same lock, a
  transaction that has done anything alone holds it, and has seen the committed rows all
  along;
* `Transactions.serial`: then the committed rows are those that the transactions leave when
  they run alone, one after the other, in the order of their commits.
-/

namespace Effect

universe u

/-- A database whose committed rows are a `σ`. A transaction keeps in a `χ` what it sees and
what it has written. -/
structure ReadCommitted (Op : Type → Type u) (T κ σ χ : Type) where
  start : T → σ → χ
  handler : Handler Op T χ
  /-- The locks that a statement takes. -/
  locks : ⦃β : Type⦄ → Op β → T → χ → Set κ
  /-- What a transaction that last saw the first rows sees when the second are committed. -/
  view : σ → σ → χ → χ
  /-- The rows after a commit; nothing when it fails. -/
  commit : T → χ → Option σ
  view_same : ∀ s x, view s s x = x
  view_start : ∀ s s' t, view s s' (start t s) = start t s'

/-- A transaction that runs `p`, from its begin to its end. -/
inductive Transaction (Op : Type → Type u) (κ σ χ ε α : Type) where
  | waiting
  | active (seen : σ) (x : χ) (held : Set κ) (rest : Prog Op ε α)
  | ended

/-- The committed rows, the transactions, and which of them have committed what, in order. -/
structure Transactions (Op : Type → Type u) (ι κ σ χ ε α : Type) where
  rows : σ
  txn : ι → Transaction Op κ σ χ ε α
  history : List (ι × α)

namespace Transactions

variable {Op : Type → Type u} {ι T κ σ χ ε α : Type}

/-- Before any transaction has begun. -/
def initial (rows : σ) : Transactions Op ι κ σ χ ε α := ⟨rows, fun _ => .waiting, []⟩

/-- The transaction `i` holds the lock `k`. -/
def Holds (c : Transactions Op ι κ σ χ ε α) (i : ι) (k : κ) : Prop :=
  ∃ seen x held rest, c.txn i = .active seen x held rest ∧ k ∈ held

theorem not_holds_of_ended {c : Transactions Op ι κ σ χ ε α} {i : ι} (hi : c.txn i = .ended)
    (k : κ) : ¬c.Holds i k := by
  rintro ⟨seen, x, held, rest, htxn, -⟩
  cases hi.symm.trans htxn

/-- A transaction that has only begun holds nothing. -/
theorem not_holds_of_begun {c : Transactions Op ι κ σ χ ε α} {i : ι} {seen : σ} {x : χ}
    {rest : Prog Op ε α} (hi : c.txn i = .active seen x ∅ rest) (k : κ) : ¬c.Holds i k := by
  rintro ⟨seen', x', held, rest', htxn, hheld⟩
  injection hi.symm.trans htxn with _ _ hempty
  rw [← hempty] at hheld
  exact hheld

variable [DecidableEq ι] (D : ReadCommitted Op T κ σ χ) (prog : ι → Prog Op ε α)

/-- One step of one transaction: it begins, runs a statement whose locks nobody else
holds, commits, or ends without a commit, at any time. -/
inductive Step : Transactions Op ι κ σ χ ε α → Transactions Op ι κ σ χ ε α → Prop
  | begin {c : Transactions Op ι κ σ χ ε α} (i : ι) (t : T) (hi : c.txn i = .waiting) :
      Step c { c with
        txn := Function.update c.txn i (.active c.rows (D.start t c.rows) ∅ (prog i)) }
  | statement {c : Transactions Op ι κ σ χ ε α} (i : ι) (t : T) {seen : σ} {x : χ} {held : Set κ}
      {β : Type} {op : Op β} {next : β → Prog Op ε α}
      (hi : c.txn i = .active seen x held (.call op next))
      (hfree : ∀ k ∈ D.locks op t (D.view seen c.rows x), ∀ j ≠ i, ¬c.Holds j k) :
      Step c { c with
        txn := Function.update c.txn i (.active c.rows
          (D.handler op t (D.view seen c.rows x)).2 (held ∪ D.locks op t (D.view seen c.rows x))
          (next (D.handler op t (D.view seen c.rows x)).1)) }
  | commit {c : Transactions Op ι κ σ χ ε α} (i : ι) (t : T) {seen : σ} {x : χ} {held : Set κ}
      {a : α} {rows : σ} (hi : c.txn i = .active seen x held (.ret a))
      (hcommit : D.commit t (D.view seen c.rows x) = some rows) :
      Step c ⟨rows, Function.update c.txn i .ended, c.history ++ [(i, a)]⟩
  | abort {c : Transactions Op ι κ σ χ ε α} (i : ι) :
      Step c { c with txn := Function.update c.txn i .ended }

/-- Every transaction has ended. -/
def AllEnded (c : Transactions Op ι κ σ χ ε α) : Prop := ∀ i, c.txn i = .ended

end Transactions

section Serial

variable {Op : Type → Type u} {ι T κ σ χ ε α : Type} (D : ReadCommitted Op T κ σ χ)

/-- A transaction that runs alone on `s` commits, with the result `a`. -/
def Alone (p : Prog Op ε α) (s : σ) (a : α) (s' : σ) : Prop :=
  ∃ (t : T) (τ : ℕ → T) (t' : T) (x : χ),
    p.run D.handler τ (D.start t s) = (.ok a, x) ∧ D.commit t' x = some s'

/-- The transactions of a history, one after the other. -/
inductive Serial (prog : ι → Prog Op ε α) (s : σ) : List (ι × α) → σ → Prop
  | nil : Serial prog s [] s
  | commit {history : List (ι × α)} {s₁ s₂ : σ} (i : ι) (a : α) (h : Serial prog s history s₁)
      (halone : Alone D (prog i) s₁ a s₂) : Serial prog s (history ++ [(i, a)]) s₂

/-- The first statement of the program takes the lock `k`, or the program fails there. -/
def Guarded (k : κ) : Prog Op ε α → Prop
  | .ret _ => False
  | .fail _ => True
  | .call op next => ∀ t x, k ∈ D.locks op t x ∨ ∃ e, next (D.handler op t x).1 = .fail e

/-- The program `p`, alone on the rows `s`, may come to `rest` with `x`. -/
def Reaches (p : Prog Op ε α) (s : σ) (rest : Prog Op ε α) (x : χ) : Prop :=
  ∃ t, ∀ τ, ∃ τ', p.run D.handler τ' (D.start t s) = rest.run D.handler τ x

variable {D}

theorem Reaches.start (p : Prog Op ε α) (t : T) (s : σ) : Reaches D p s p (D.start t s) :=
  ⟨t, fun τ => ⟨τ, rfl⟩⟩

/-- One statement further. -/
theorem Reaches.statement {p : Prog Op ε α} {s : σ} {β : Type} {op : Op β}
    {next : β → Prog Op ε α} {x : χ} (h : Reaches D p s (.call op next) x) (t : T) :
    Reaches D p s (next (D.handler op t x).1) (D.handler op t x).2 := by
  obtain ⟨t₀, hruns⟩ := h
  refine ⟨t₀, ?_⟩
  intro τ
  obtain ⟨τ', hτ'⟩ := hruns fun n => Nat.casesOn n t τ
  exact ⟨τ', hτ'⟩

theorem Reaches.alone {p : Prog Op ε α} {s s' : σ} {a : α} {x : χ} (h : Reaches D p s (.ret a) x)
    {t : T} (hcommit : D.commit t x = some s') : Alone D p s a s' := by
  obtain ⟨t₀, hruns⟩ := h
  obtain ⟨τ, hτ⟩ := hruns fun _ => t
  exact ⟨t₀, τ, t, x, hτ, hcommit⟩

end Serial

/-! ## Transactions with one lock -/

section OneLock

open Transactions

variable {Op : Type → Type u} {ι T κ σ χ ε α : Type} (D : ReadCommitted Op T κ σ χ)

/-- How far a transaction is: it has not run a statement, it has failed, or it holds the
lock, and nothing has been committed since it took it. -/
def Transaction.Valid (k : κ) (p : Prog Op ε α) (rows : σ) : Transaction Op κ σ χ ε α → Prop
  | .waiting => True
  | .active seen x held rest =>
      ((∃ t, x = D.start t seen) ∧ rest = p) ∨ (∃ e, rest = .fail e) ∨
        k ∈ held ∧ seen = rows ∧ Reaches D p rows rest x
  | .ended => True

/-- The committed rows are those of a serial run, every transaction is valid, and at most
one holds the lock. -/
structure Sound (k : κ) (prog : ι → Prog Op ε α) (s : σ) (c : Transactions Op ι κ σ χ ε α) :
    Prop where
  serial : Serial D prog s c.history c.rows
  valid : ∀ i, (c.txn i).Valid D k (prog i) c.rows
  lock : ∀ i j, c.Holds i k → c.Holds j k → i = j

variable {D} {k : κ} {prog : ι → Prog Op ε α} {s : σ}

theorem Sound.initial (s : σ) :
    Sound D k prog s (initial s : Transactions Op ι κ σ χ ε α) where
  serial := .nil
  valid _ := trivial
  lock i j hi := by
    obtain ⟨seen, x, held, rest, htxn, -⟩ := hi
    cases htxn

variable {c c' : Transactions Op ι κ σ χ ε α}

/-- A transaction that does not hold the lock may find other rows committed. -/
theorem Transaction.Valid.of_not_holds {i : ι} (h : (c.txn i).Valid D k (prog i) c.rows)
    (hi : ¬c.Holds i k) (rows : σ) : (c.txn i).Valid D k (prog i) rows := by
  unfold Transaction.Valid at *
  cases htxn : c.txn i with
  | waiting => trivial
  | ended => trivial
  | active seen x held rest =>
      rw [htxn] at h
      rcases h with h | h | ⟨hheld, -, -⟩
      · exact .inl h
      · exact .inr (.inl h)
      · exact absurd ⟨seen, x, held, rest, htxn, hheld⟩ hi

variable [DecidableEq ι]

/-- Another transaction holds what it held. -/
theorem holds_update_ne {i j : ι} (hj : j ≠ i) {k' : κ} {rows : σ} {history : List (ι × α)}
    {x : Transaction Op κ σ χ ε α} :
    (Transactions.mk rows (Function.update c.txn i x) history).Holds j k' ↔ c.Holds j k' := by
  unfold Holds
  dsimp only
  rw [Function.update_of_ne hj]

/-- The lock stays with one transaction when one transaction changes, and holds it
afterwards only if it held it before or nobody else did. -/
theorem Sound.lock_update (h : Sound D k prog s c) {i : ι} {rows : σ} {history : List (ι × α)}
    {x : Transaction Op κ σ χ ε α}
    (hx : ∀ seen y held rest, x = .active seen y held rest → k ∈ held →
      c.Holds i k ∨ ∀ j ≠ i, ¬c.Holds j k) (j₁ j₂ : ι)
    (h₁ : (Transactions.mk rows (Function.update c.txn i x) history).Holds j₁ k)
    (h₂ : (Transactions.mk rows (Function.update c.txn i x) history).Holds j₂ k) : j₁ = j₂ := by
  -- a transaction other than `i` that holds the lock
  have hother : ∀ j ≠ i, c.Holds j k →
      ¬(Transactions.mk rows (Function.update c.txn i x) history).Holds i k := by
    rintro j hj hholds ⟨seen, y, held, rest, htxn, hheld⟩
    rw [show (Transactions.mk rows (Function.update c.txn i x) history).txn i = x from
      Function.update_self ..] at htxn
    rcases hx seen y held rest htxn hheld with hi | hnobody
    · exact hj (h.lock j i hholds hi)
    · exact hnobody j hj hholds
  by_cases hj₁ : j₁ = i
  · by_cases hj₂ : j₂ = i
    · rw [hj₁, hj₂]
    · exact absurd (hj₁ ▸ h₁) (hother j₂ hj₂ ((holds_update_ne hj₂).mp h₂))
  · by_cases hj₂ : j₂ = i
    · exact absurd (hj₂ ▸ h₂) (hother j₁ hj₁ ((holds_update_ne hj₁).mp h₁))
    · exact h.lock j₁ j₂ ((holds_update_ne hj₁).mp h₁) ((holds_update_ne hj₂).mp h₂)

/-- One transaction changes, and the committed rows stay. -/
theorem Sound.update (h : Sound D k prog s c) {i : ι} {x : Transaction Op κ σ χ ε α}
    (hvalid : x.Valid D k (prog i) c.rows)
    (hx : ∀ seen y held rest, x = .active seen y held rest → k ∈ held →
      c.Holds i k ∨ ∀ j ≠ i, ¬c.Holds j k) :
    Sound D k prog s { c with txn := Function.update c.txn i x } where
  serial := h.serial
  valid j := by
    by_cases hj : j = i
    · subst hj
      rw [show ({ c with txn := Function.update c.txn j x } : Transactions _ _ _ _ _ _ _).txn j = x
        from Function.update_self ..]
      exact hvalid
    · rw [show ({ c with txn := Function.update c.txn i x } : Transactions _ _ _ _ _ _ _).txn j =
        c.txn j from Function.update_of_ne hj ..]
      exact h.valid j
  lock := h.lock_update hx

theorem Sound.step (hguarded : ∀ i, Guarded D k (prog i)) (h : Sound D k prog s c)
    (hstep : Step D prog c c') : Sound D k prog s c' := by
  cases hstep with
  | begin i t hi =>
      refine h.update (.inl ⟨⟨t, rfl⟩, rfl⟩) ?_
      rintro _ _ _ _ ⟨⟩ hheld
      cases hheld
  | @statement i t seen x held β op next hi hfree =>
      have hvalid := h.valid i
      rw [hi] at hvalid
      refine h.update ?_ ?_
      · rcases hvalid with ⟨⟨t₀, rfl⟩, hrest⟩ | ⟨e, hfail⟩ | ⟨hheld, rfl, hreaches⟩
        · -- the first statement, on what is committed now
          have hfirst := hguarded i
          rw [← hrest] at hfirst
          rw [D.view_start]
          rcases hfirst t (D.start t₀ c.rows) with hlock | hfails
          · right
            right
            refine ⟨.inr hlock, rfl, ?_⟩
            rw [← hrest]
            exact (Reaches.start _ t₀ c.rows).statement t
          · exact .inr (.inl hfails)
        · cases hfail
        · right
          right
          rw [D.view_same]
          exact ⟨.inl hheld, rfl, hreaches.statement t⟩
      · rintro _ _ _ _ ⟨⟩ (hheld | hlock)
        · exact .inl ⟨seen, x, held, _, hi, hheld⟩
        · exact .inr (hfree k hlock)
  | @commit i t seen x held a rows hi hcommit =>
      have hvalid := h.valid i
      rw [hi] at hvalid
      rcases hvalid with ⟨-, hrest⟩ | ⟨e, hfail⟩ | ⟨hheld, rfl, hreaches⟩
      · -- a guarded program does not start with its end
        have hfirst := hguarded i
        rw [← hrest] at hfirst
        exact hfirst.elim
      · cases hfail
      · have hholds : c.Holds i k := ⟨_, x, held, _, hi, hheld⟩
        rw [D.view_same] at hcommit
        refine ⟨.commit i a h.serial (hreaches.alone hcommit), ?_, h.lock_update ?_⟩
        · intro j
          dsimp only
          by_cases hj : j = i
          · subst hj
            rw [Function.update_self]
            trivial
          · rw [Function.update_of_ne hj]
            exact (h.valid j).of_not_holds (fun hother => hj (h.lock j i hother hholds)) rows
        · rintro _ _ _ _ ⟨⟩
  | abort i =>
      refine h.update trivial ?_
      rintro _ _ _ _ ⟨⟩

theorem Sound.steps (hguarded : ∀ i, Guarded D k (prog i)) (h : Sound D k prog s c)
    (hsteps : Relation.ReflTransGen (Step D prog) c c') : Sound D k prog s c' := by
  induction hsteps with
  | refl => exact h
  | tail _ hstep ih => exact ih.step hguarded hstep

/-- The committed rows are those of the committed transactions, one after the other. -/
theorem Transactions.serial (hguarded : ∀ i, Guarded D k (prog i))
    (hsteps : Relation.ReflTransGen (Step D prog) (.initial s) c) :
    Serial D prog s c.history c.rows :=
  ((Sound.initial s).steps hguarded hsteps).serial

end OneLock

/-! ## Runs without waiting -/

section Uninterrupted

open Transactions

variable {Op : Type → Type u} {ι T κ σ χ ε α : Type} [DecidableEq ι] {D : ReadCommitted Op T κ σ χ}
  {prog : ι → Prog Op ε α}

/-- A transaction that nobody interrupts runs on the rows that are committed when it runs
its first statement. -/
theorem Transactions.run_active {i : ι} {seen : σ} {x x' : χ} {held : Set κ} {rest : Prog Op ε α}
    {a : α} {s' : σ} {τ : ℕ → T} {t : T} {c : Transactions Op ι κ σ χ ε α}
    (hi : c.txn i = .active seen x held rest) (hfree : ∀ j ≠ i, ∀ k, ¬c.Holds j k)
    (hrun : rest.run D.handler τ (D.view seen c.rows x) = (.ok a, x'))
    (hcommit : D.commit t x' = some s') :
    Relation.ReflTransGen (Step D prog) c
      ⟨s', Function.update c.txn i .ended, c.history ++ [(i, a)]⟩ := by
  induction rest generalizing c seen x held τ with
  | ret b =>
      rw [Prog.run_ret, Prod.mk.injEq, Except.ok.injEq] at hrun
      obtain ⟨rfl, hx⟩ := hrun
      exact .single (.commit i t hi (hx ▸ hcommit))
  | fail e =>
      rw [Prog.run_fail, Prod.mk.injEq] at hrun
      cases hrun.1
  | call op next ih =>
      obtain ⟨c₁, hstep, htxn, hrows, hhistory, hothers, hended⟩ :
          ∃ c₁, Step D prog c c₁ ∧
            c₁.txn i = .active c.rows (D.handler op (τ 0) (D.view seen c.rows x)).2
              (held ∪ D.locks op (τ 0) (D.view seen c.rows x))
              (next (D.handler op (τ 0) (D.view seen c.rows x)).1) ∧
            c₁.rows = c.rows ∧ c₁.history = c.history ∧
            (∀ j ≠ i, ∀ k, c₁.Holds j k ↔ c.Holds j k) ∧
            Function.update c₁.txn i .ended = Function.update c.txn i .ended :=
        ⟨_, .statement i (τ 0) hi fun k _ j hj => hfree j hj k, Function.update_self .., rfl, rfl,
          fun _ hj _ => holds_update_ne hj, Function.update_idem ..⟩
      have hrest : (next (D.handler op (τ 0) (D.view seen c.rows x)).1).run D.handler (later τ 1)
          (D.view c.rows c₁.rows (D.handler op (τ 0) (D.view seen c.rows x)).2) = (.ok a, x') := by
        rw [hrows, D.view_same]
        exact hrun
      have hlater := ih _ htxn (fun j hj k hholds => hfree j hj k ((hothers j hj k).mp hholds)) hrest
      rw [hhistory, hended] at hlater
      exact .head hstep hlater

end Uninterrupted

end Effect
