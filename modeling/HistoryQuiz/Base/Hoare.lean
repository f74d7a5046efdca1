import HistoryQuiz.Base.Prog

/-!
# Conditions on the outcome of a program

`p.Post h A s Q` says that every run of `p` from `s`, on any ticks that satisfy
`A`, ends with an outcome and a state in `Q`. The rules follow the constructors
of a program: `Post.call` for an operation, `Post.bind` for a sequence,
`Post.attempt` for an outcome that is handed on.
-/

namespace Effect

universe u

namespace Prog

variable {Op : Type → Type u} {ε α β T σ : Type}

/-- Every run of the program from `s` on ticks in `A` ends in `Q`. -/
def Post (h : Handler Op T σ) (A : T → Prop) (p : Prog Op ε α) (s : σ)
    (Q : Except ε α → σ → Prop) : Prop :=
  ∀ τ : ℕ → T, (∀ n, A (τ n)) → Q (p.run h τ s).1 (p.run h τ s).2

variable {h : Handler Op T σ} {A : T → Prop} {s : σ}

theorem Post.ret {a : α} {Q : Except ε α → σ → Prop} (hQ : Q (.ok a) s) :
    (Prog.ret a : Prog Op ε α).Post h A s Q :=
  fun _ _ => hQ

theorem Post.fail {e : ε} {Q : Except ε α → σ → Prop} (hQ : Q (.error e) s) :
    (Prog.fail e : Prog Op ε α).Post h A s Q :=
  fun _ _ => hQ

theorem Post.ofExcept {r : Except ε α} {Q : Except ε α → σ → Prop} (hQ : Q r s) :
    (Prog.ofExcept r : Prog Op ε α).Post h A s Q := by
  intro τ _
  rw [run_ofExcept]
  exact hQ

/-- An operation: the rest of the program from its answer, on every tick. -/
theorem Post.call {op : Op β} {next : β → Prog Op ε α} {Q : Except ε α → σ → Prop}
    (hnext : ∀ t, A t → (next (h op t s).1).Post h A (h op t s).2 Q) :
    (Prog.call op next).Post h A s Q :=
  fun τ hτ => hnext (τ 0) (hτ 0) (later τ 1) fun n => hτ (n + 1)

/-- A sequence: its second part from every outcome of the first. -/
theorem Post.bind {p : Prog Op ε α} {f : α → Prog Op ε β} {Q : Except ε β → σ → Prop}
    (hp : p.Post h A s fun x s' => match x with
      | .ok a => (f a).Post h A s' Q
      | .error e => Q (.error e) s') : (p.bind f).Post h A s Q := by
  intro τ hτ
  have hfirst := hp τ hτ
  rw [run_bind]
  generalize p.run h τ s = outcome at hfirst ⊢
  obtain ⟨x, s'⟩ := outcome
  cases x with
  | ok a => exact hfirst _ fun n => hτ _
  | error e => exact hfirst

theorem Post.attempt {p : Prog Op ε α} {Q : Except ε (Except ε α) → σ → Prop}
    (hp : p.Post h A s fun x s' => Q (.ok x) s') : p.attempt.Post h A s Q := by
  intro τ hτ
  rw [run_attempt]
  exact hp τ hτ

theorem Post.mono {p : Prog Op ε α} {Q Q' : Except ε α → σ → Prop}
    (hQ : ∀ x s', Q x s' → Q' x s') (hp : p.Post h A s Q) : p.Post h A s Q' :=
  fun τ hτ => hQ _ _ (hp τ hτ)

/-- What the operations of a program preserve holds at its end. -/
theorem Post.of_uses {P : ⦃β : Type⦄ → Op β → Prop} {I : σ → Prop}
    (step : ∀ ⦃β : Type⦄ (op : Op β) (t : T) (s : σ), P op → I s → I (h op t s).2)
    {p : Prog Op ε α} (hp : p.Uses P) (hs : I s) : p.Post h A s fun _ s' => I s' :=
  fun τ _ => run_invariant step hp τ hs

end Prog

end Effect
