import Mathlib.Logic.Function.Iterate

/-!
# Programs over named operations

A `Prog Op ε α` is a finite tree of operations: it returns a value, fails with
an error, or performs one operation of the signature `Op` and continues with
its answer. The tree fixes no meaning for the operations. A `Handler` does: it
answers an operation from a shared state and one *tick* of the outside world
(the values the operation draws from clocks, generators and failing devices).

* `run` executes a program against a stream of ticks, one tick an operation;
* `run_bind` and `run_attempt` compose runs; `later` are the ticks that are
  left;
* `run_invariant` is the induction over a run: what every operation the program
  uses preserves, the run preserves;
* `Handler.interfered` lets an environment change the state before every
  operation, so a run with interference is again a run; `ownSteps` are the
  changes that are the program's own.
-/

namespace Effect

universe u

/-- A program over the operations `Op` that returns an `α` or fails with an `ε`. -/
inductive Prog (Op : Type → Type u) (ε α : Type) : Type (max 1 u) where
  | ret (value : α)
  | fail (error : ε)
  | call {β : Type} (op : Op β) (next : β → Prog Op ε α)

/-- The meaning of a signature: an operation, a tick and a state give an answer
and the next state. -/
abbrev Handler (Op : Type → Type u) (T σ : Type) :=
  ⦃β : Type⦄ → Op β → T → σ → β × σ

/-- The ticks that are left after `n` of them. -/
def later {T : Type} (τ : ℕ → T) (n : ℕ) : ℕ → T := fun i => τ (i + n)

@[simp] theorem later_later {T : Type} (τ : ℕ → T) (m n : ℕ) :
    later (later τ m) n = later τ (n + m) := by
  funext i
  simp [later, Nat.add_assoc]

namespace Prog

variable {Op : Type → Type u} {ε ε' α β γ T σ : Type}

/-- Sequencing: an error ends the program. -/
def bind : Prog Op ε α → (α → Prog Op ε β) → Prog Op ε β
  | ret a, f => f a
  | fail e, _ => fail e
  | call op next, f => call op fun b => (next b).bind f

instance : Monad (Prog Op ε) where
  pure := ret
  bind := bind

/-- Hand the outcome of a program to its caller instead of failing. -/
def attempt : Prog Op ε α → Prog Op ε (Except ε α)
  | ret a => ret (.ok a)
  | fail e => ret (.error e)
  | call op next => call op fun b => (next b).attempt

/-- Rename the errors of a program. -/
def mapError (f : ε → ε') : Prog Op ε α → Prog Op ε' α
  | ret a => ret a
  | fail e => fail (f e)
  | call op next => call op fun b => (next b).mapError f

/-- Continue with a value or fail with an error that is at hand. -/
def ofExcept : Except ε α → Prog Op ε α
  | .ok a => ret a
  | .error e => fail e

@[simp] theorem pure_eq (a : α) : (pure a : Prog Op ε α) = ret a := rfl

@[simp] theorem bind_eq (p : Prog Op ε α) (f : α → Prog Op ε β) : p >>= f = p.bind f := rfl

@[simp] theorem ret_bind (a : α) (f : α → Prog Op ε β) : (ret a).bind f = f a := rfl

@[simp] theorem fail_bind (e : ε) (f : α → Prog Op ε β) : (fail e : Prog Op ε α).bind f = fail e :=
  rfl

@[simp] theorem call_bind (op : Op γ) (next : γ → Prog Op ε α) (f : α → Prog Op ε β) :
    (call op next).bind f = call op fun b => (next b).bind f := rfl

theorem bind_assoc (p : Prog Op ε α) (f : α → Prog Op ε β) (g : β → Prog Op ε γ) :
    (p.bind f).bind g = p.bind fun a => (f a).bind g := by
  induction p with
  | ret a => rfl
  | fail e => rfl
  | call op next ih =>
      simp only [call_bind]
      congr 1
      funext b
      exact ih b

/-! ## Runs -/

/-- Execute a program: every operation takes the next tick. -/
def run (h : Handler Op T σ) : Prog Op ε α → (ℕ → T) → σ → Except ε α × σ
  | ret a, _, s => (.ok a, s)
  | fail e, _, s => (.error e, s)
  | call op next, τ, s =>
      let answer := h op (τ 0) s
      (next answer.1).run h (later τ 1) answer.2

/-- The number of operations a run executes. -/
def steps (h : Handler Op T σ) : Prog Op ε α → (ℕ → T) → σ → ℕ
  | ret _, _, _ => 0
  | fail _, _, _ => 0
  | call op next, τ, s =>
      let answer := h op (τ 0) s
      (next answer.1).steps h (later τ 1) answer.2 + 1

@[simp] theorem run_ret (h : Handler Op T σ) (a : α) (τ : ℕ → T) (s : σ) :
    (ret a : Prog Op ε α).run h τ s = (.ok a, s) := rfl

@[simp] theorem run_fail (h : Handler Op T σ) (e : ε) (τ : ℕ → T) (s : σ) :
    (fail e : Prog Op ε α).run h τ s = (.error e, s) := rfl

theorem run_call (h : Handler Op T σ) (op : Op β) (next : β → Prog Op ε α) (τ : ℕ → T) (s : σ) :
    (call op next).run h τ s =
      (next (h op (τ 0) s).1).run h (later τ 1) (h op (τ 0) s).2 := rfl

/-- A sequence runs its first part, then its second on the ticks and the state
the first one left. -/
theorem run_bind (h : Handler Op T σ) (p : Prog Op ε α) (f : α → Prog Op ε β)
    (τ : ℕ → T) (s : σ) :
    (p.bind f).run h τ s =
      match p.run h τ s with
      | (.ok a, s') => (f a).run h (later τ (p.steps h τ s)) s'
      | (.error e, s') => (.error e, s') := by
  induction p generalizing τ s with
  | ret a => rfl
  | fail e => rfl
  | call op next ih =>
      simp only [call_bind, run_call, steps]
      rw [ih]
      simp only [later_later]

theorem run_bind_ok {h : Handler Op T σ} {p : Prog Op ε α} {τ : ℕ → T} {s s' : σ} {a : α}
    (hp : p.run h τ s = (.ok a, s')) (f : α → Prog Op ε β) :
    (p.bind f).run h τ s = (f a).run h (later τ (p.steps h τ s)) s' := by
  rw [run_bind, hp]

/-- A function of the value is applied to the outcome. -/
theorem run_bind_ret (h : Handler Op T σ) (p : Prog Op ε α) (f : α → β) (τ : ℕ → T) (s : σ) :
    (p.bind fun a => ret (f a)).run h τ s = ((p.run h τ s).1.map f, (p.run h τ s).2) := by
  rw [run_bind]
  generalize p.run h τ s = outcome
  obtain ⟨_ | _, s'⟩ := outcome <;> rfl

/-- A sequence returns a value when both parts do. -/
theorem run_bind_eq_ok {h : Handler Op T σ} {p : Prog Op ε α} {f : α → Prog Op ε β} {τ : ℕ → T}
    {s s' : σ} {b : β} :
    (p.bind f).run h τ s = (.ok b, s') ↔ ∃ a s₁, p.run h τ s = (.ok a, s₁) ∧
      (f a).run h (later τ (p.steps h τ s)) s₁ = (.ok b, s') := by
  rw [run_bind]
  constructor
  · intro h
    split at h
    · rename_i a s₁ hp
      exact ⟨a, s₁, hp, h⟩
    · simp at h
  · rintro ⟨a, s₁, hp, hf⟩
    rw [hp]
    exact hf

/-- `attempt` turns the outcome into a value and changes nothing else. -/
theorem run_attempt (h : Handler Op T σ) (p : Prog Op ε α) (τ : ℕ → T) (s : σ) :
    p.attempt.run h τ s = (.ok (p.run h τ s).1, (p.run h τ s).2) := by
  induction p generalizing τ s with
  | ret a => rfl
  | fail e => rfl
  | call op next ih => simp only [attempt, run_call, ih]

/-- Renaming errors renames the outcome and changes nothing else. -/
theorem run_mapError (h : Handler Op T σ) (f : ε → ε') (p : Prog Op ε α) (τ : ℕ → T) (s : σ) :
    (p.mapError f).run h τ s = ((p.run h τ s).1.mapError f, (p.run h τ s).2) := by
  induction p generalizing τ s with
  | ret a => rfl
  | fail e => rfl
  | call op next ih => simp only [mapError, run_call, ih]

@[simp] theorem run_ofExcept (h : Handler Op T σ) (r : Except ε α) (τ : ℕ → T) (s : σ) :
    (ofExcept r : Prog Op ε α).run h τ s = (r, s) := by
  cases r <;> rfl

/-! ## Invariants of a run -/

/-- Every operation that any run of the program can reach satisfies `P`. -/
def Uses (P : ⦃β : Type⦄ → Op β → Prop) : Prog Op ε α → Prop
  | ret _ => True
  | fail _ => True
  | call op next => P op ∧ ∀ b, (next b).Uses P

section Uses

variable {P : ⦃β : Type⦄ → Op β → Prop}

@[simp] theorem uses_ret (a : α) : (ret a : Prog Op ε α).Uses P := trivial

@[simp] theorem uses_fail (e : ε) : (fail e : Prog Op ε α).Uses P := trivial

@[simp] theorem uses_call (op : Op β) (next : β → Prog Op ε α) :
    (call op next).Uses P ↔ P op ∧ ∀ b, (next b).Uses P := Iff.rfl

theorem Uses.bind {p : Prog Op ε α} {f : α → Prog Op ε β} (hp : p.Uses P)
    (hf : ∀ a, (f a).Uses P) : (p.bind f).Uses P := by
  induction p with
  | ret a => exact hf a
  | fail e => trivial
  | call op next ih => exact ⟨hp.1, fun b => ih b (hp.2 b)⟩

theorem Uses.attempt {p : Prog Op ε α} (hp : p.Uses P) : p.attempt.Uses P := by
  induction p with
  | ret a => trivial
  | fail e => trivial
  | call op next ih => exact ⟨hp.1, fun b => ih b (hp.2 b)⟩

theorem Uses.mapError {p : Prog Op ε α} {f : ε → ε'} (hp : p.Uses P) : (p.mapError f).Uses P := by
  induction p with
  | ret a => trivial
  | fail e => trivial
  | call op next ih => exact ⟨hp.1, fun b => ih b (hp.2 b)⟩

theorem Uses.mono {Q : ⦃β : Type⦄ → Op β → Prop} (hPQ : ∀ ⦃β : Type⦄ (op : Op β), P op → Q op)
    {p : Prog Op ε α} (hp : p.Uses P) : p.Uses Q := by
  induction p with
  | ret a => trivial
  | fail e => trivial
  | call op next ih => exact ⟨hPQ op hp.1, fun b => ih b (hp.2 b)⟩

theorem uses_ofExcept (r : Except ε α) : (ofExcept r : Prog Op ε α).Uses P := by
  cases r <;> trivial

/-- What every operation of the program preserves, every run of it preserves. -/
theorem run_invariant {h : Handler Op T σ} {I : σ → Prop}
    (step : ∀ ⦃β : Type⦄ (op : Op β) (t : T) (s : σ), P op → I s → I (h op t s).2)
    {p : Prog Op ε α} (hp : p.Uses P) (τ : ℕ → T) {s : σ} (hs : I s) :
    I (p.run h τ s).2 := by
  induction p generalizing τ s with
  | ret a => exact hs
  | fail e => exact hs
  | call op next ih =>
      exact ih _ (hp.2 _) _ (step op (τ 0) s hp.1 hs)

end Uses

end Prog

/-! ## Interference -/

/-- The handler in which an environment acts on the state before every
operation: the tick carries what it does. -/
def Handler.interfered {Op : Type → Type u} {T σ : Type} (h : Handler Op T σ) :
    Handler Op ((σ → σ) × T) σ :=
  fun _ op t s => h op t.2 (t.1 s)

namespace Prog

variable {Op : Type → Type u} {ε α β T σ : Type}

/-- The states right before and right after each operation of a run with
interference. -/
def ownSteps (h : Handler Op T σ) : Prog Op ε α → (ℕ → (σ → σ) × T) → σ → List (σ × σ)
  | ret _, _, _ => []
  | fail _, _, _ => []
  | call op next, τ, s =>
      let before := (τ 0).1 s
      let answer := h op (τ 0).2 before
      (before, answer.2) :: (next answer.1).ownSteps h (later τ 1) answer.2

theorem ownSteps_call (h : Handler Op T σ) (op : Op β) (next : β → Prog Op ε α)
    (τ : ℕ → (σ → σ) × T) (s : σ) :
    (call op next).ownSteps h τ s =
      ((τ 0).1 s, (h op (τ 0).2 ((τ 0).1 s)).2) ::
        (next (h op (τ 0).2 ((τ 0).1 s)).1).ownSteps h (later τ 1)
          (h op (τ 0).2 ((τ 0).1 s)).2 := rfl

/-- The steps of a sequence are those of its first part and, if that returns,
those of its second. -/
theorem ownSteps_bind (h : Handler Op T σ) (p : Prog Op ε α) (f : α → Prog Op ε β)
    (τ : ℕ → (σ → σ) × T) (s : σ) :
    (p.bind f).ownSteps h τ s = p.ownSteps h τ s ++
      match p.run (Handler.interfered h) τ s with
      | (.ok a, s') => (f a).ownSteps h (later τ (p.steps (Handler.interfered h) τ s)) s'
      | (.error _, _) => [] := by
  induction p generalizing τ s with
  | ret a => rfl
  | fail e => rfl
  | call op next ih =>
      rw [call_bind, ownSteps_call, ownSteps_call, ih]
      simp only [List.cons_append, run_call, steps, later_later]
      rfl

/-- What holds between the states around every operation that the program uses
holds around every own step. -/
theorem ownSteps_of_uses {h : Handler Op T σ} {P : ⦃β : Type⦄ → Op β → Prop} {R : σ → σ → Prop}
    (step : ∀ ⦃β : Type⦄ (op : Op β) (t : T) (s : σ), P op → R s (h op t s).2)
    {p : Prog Op ε α} (hp : p.Uses P) (τ : ℕ → (σ → σ) × T) (s : σ) :
    ∀ x ∈ p.ownSteps h τ s, R x.1 x.2 := by
  induction p generalizing τ s with
  | ret a => simp [ownSteps]
  | fail e => simp [ownSteps]
  | call op next ih =>
      intro x hx
      rw [ownSteps_call] at hx
      rcases List.mem_cons.mp hx with rfl | hx
      · exact step op _ _ hp.1
      · exact ih _ (hp.2 _) _ _ x hx

end Prog

end Effect
