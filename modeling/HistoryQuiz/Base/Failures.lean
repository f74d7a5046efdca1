import HistoryQuiz.Base.Prog

/-!
# Failing operations

An operation may fail for a reason of its own: a device, a connection, a
timeout. `Failures` says which ticks make which operation fail, and how.
`Prog.failure` is the first such failure of a run.

`p.Reports D R` says that the program ends as soon as an operation has failed,
with an error that is right for the failure. It is a condition on the text of
the program, with a rule for every way to compose programs, and
`Reports.run_failure` carries it to the runs; `Reports.interfered` keeps it
when an environment acts between the operations.
-/

namespace Effect

universe u

/-- A handler and the failures `F` of its operations. -/
structure Failures (Op : Type → Type u) (T σ F : Type) where
  handler : Handler Op T σ
  fails : ⦃β : Type⦄ → Op β → T → σ → Option F

/-- The failures when an environment changes the state before every operation. -/
def Failures.interfered {Op : Type → Type u} {T σ F : Type} (D : Failures Op T σ F) :
    Failures Op ((σ → σ) × T) σ F where
  handler := Handler.interfered D.handler
  fails := fun _ op t s => D.fails op t.2 (t.1 s)

namespace Prog

variable {Op : Type → Type u} {ε ε' α β T σ F : Type}

/-- The first failure that a run meets. -/
def failure (D : Failures Op T σ F) : Prog Op ε α → (ℕ → T) → σ → Option F
  | ret _, _, _ => none
  | fail _, _, _ => none
  | call op next, τ, s =>
      match D.fails op (τ 0) s with
      | some x => some x
      | none =>
          let answer := D.handler op (τ 0) s
          (next answer.1).failure D (later τ 1) answer.2

theorem failure_call (D : Failures Op T σ F) (op : Op β) (next : β → Prog Op ε α) (τ : ℕ → T)
    (s : σ) : (call op next).failure D τ s =
      match D.fails op (τ 0) s with
      | some x => some x
      | none => (next (D.handler op (τ 0) s).1).failure D (later τ 1) (D.handler op (τ 0) s).2 := by
  cases hop : D.fails op (τ 0) s <;> simp only [failure, hop]

/-- The program ends as soon as an operation has failed, with an error that is
right for the failure. -/
def Reports (D : Failures Op T σ F) (R : F → ε → Prop) : Prog Op ε α → Prop
  | ret _ => True
  | fail _ => True
  | call op next =>
      (∀ t s x, D.fails op t s = some x → ∃ e, next (D.handler op t s).1 = .fail e ∧ R x e) ∧
        ∀ b, (next b).Reports D R

variable {D : Failures Op T σ F} {R : F → ε → Prop}

/-- A run that meets a failure ends with an error that is right for it. -/
theorem Reports.run_failure {p : Prog Op ε α} (hp : p.Reports D R) {τ : ℕ → T} {s : σ} {x : F}
    (hx : p.failure D τ s = some x) : ∃ e, (p.run D.handler τ s).1 = .error e ∧ R x e := by
  induction p generalizing τ s with
  | ret a => simp [failure] at hx
  | fail e => simp [failure] at hx
  | call op next ih =>
      obtain ⟨hfails, hnext⟩ := hp
      rw [failure_call] at hx
      rw [run_call]
      cases hop : D.fails op (τ 0) s with
      | some y =>
          rw [hop, Option.some.injEq] at hx
          obtain ⟨e, hend, hR⟩ := hfails (τ 0) s y hop
          rw [hend]
          exact ⟨e, rfl, hx ▸ hR⟩
      | none =>
          rw [hop] at hx
          exact ih _ (hnext _) hx

theorem Reports.interfered {p : Prog Op ε α} (hp : p.Reports D R) :
    p.Reports D.interfered R := by
  induction p with
  | ret a => trivial
  | fail e => trivial
  | call op next ih => exact ⟨fun t s x hx => hp.1 t.2 (t.1 s) x hx, fun b => ih b (hp.2 b)⟩

theorem reports_ofExcept (r : Except ε α) : (ofExcept r : Prog Op ε α).Reports D R := by
  cases r <;> trivial

theorem Reports.bind {p : Prog Op ε α} {f : α → Prog Op ε β} (hp : p.Reports D R)
    (hf : ∀ a, (f a).Reports D R) : (p.bind f).Reports D R := by
  induction p with
  | ret a => exact hf a
  | fail e => trivial
  | call op next ih =>
      refine ⟨?_, fun b => ih b (hp.2 b)⟩
      intro t s x hx
      obtain ⟨e, hend, hR⟩ := hp.1 t s x hx
      refine ⟨e, ?_, hR⟩
      show (next (D.handler op t s).1).bind f = .fail e
      rw [hend, fail_bind]

/-- An outcome that is handed on: the program that receives it hands every error
of a failure on as well. -/
theorem Reports.attempt_bind {p : Prog Op ε α} {f : Except ε α → Prog Op ε β}
    (hp : p.Reports D R) (hpass : ∀ x e, R x e → f (.error e) = .fail e)
    (hf : ∀ r, (f r).Reports D R) : (p.attempt.bind f).Reports D R := by
  induction p with
  | ret a => exact hf (.ok a)
  | fail e => exact hf (.error e)
  | call op next ih =>
      refine ⟨?_, fun b => ih b (hp.2 b)⟩
      intro t s x hx
      obtain ⟨e, hend, hR⟩ := hp.1 t s x hx
      refine ⟨e, ?_, hR⟩
      show (next (D.handler op t s).1).attempt.bind f = .fail e
      rw [hend]
      exact hpass x e hR

theorem Reports.mapError {g : ε → ε'} {R' : F → ε' → Prop} (hg : ∀ x e, R x e → R' x (g e))
    {p : Prog Op ε α} (hp : p.Reports D R) : (p.mapError g).Reports D R' := by
  induction p with
  | ret a => trivial
  | fail e => trivial
  | call op next ih =>
      refine ⟨?_, fun b => ih b (hp.2 b)⟩
      intro t s x hx
      obtain ⟨e, hend, hR⟩ := hp.1 t s x hx
      refine ⟨g e, ?_, hg x e hR⟩
      show (next (D.handler op t s).1).mapError g = .fail (g e)
      rw [hend]
      rfl

end Prog

end Effect
