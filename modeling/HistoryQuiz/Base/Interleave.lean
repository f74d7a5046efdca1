import HistoryQuiz.Base.Prog
import Mathlib.Logic.Relation

/-!
# Interleaved programs

A pool of programs over one shared state: requests arrive at any time, every
step performs one operation of one program, and a request may leave at any time.
`Fresh r t` says that the tick `t` may occur while the request `r` is in flight.

The proof rule is rely-guarantee. `Rely r s s'` is what the request `r` may
assume of the steps of the others. `Prog.Ensures` is the obligation of one
request: wherever the others have moved the state as its rely allows, its next
operation keeps the invariant and keeps within the rely of every other request.

* `Ensures.bind`, `Ensures.attempt`, `Ensures.mono`, `safe_of_uses`: the
  obligation of a program from its parts;
* `Ensures.rely`: the obligation is stable under the rely;
* `Pool.run_invariant`: when every request meets its obligation, the invariant
  holds in every state of the pool;
* `Pool.run_alone`: a run of one program is a run of the pool;
* `Pool.steps_turns`: so is a schedule, which says whose operation comes next.
-/

namespace Effect

universe u

variable {Op : Type → Type u} {Req T σ ε ε' α β : Type}

/-- What the requests of a pool promise each other. -/
structure Discipline (Op : Type → Type u) (Req T σ : Type) where
  handler : Handler Op T σ
  Fresh : Req → T → Prop
  Rely : Req → σ → σ → Prop
  Inv : σ → Prop
  rely_refl : ∀ r s, Rely r s s
  rely_trans : ∀ r s s' s'', Rely r s s' → Rely r s' s'' → Rely r s s''

variable (D : Discipline Op Req T σ)

/-- The step from `s` to `s'` on the tick `t` keeps the invariant and stays
within the rely of every request that may be in flight. -/
def Discipline.Guarantees (t : T) (s s' : σ) : Prop :=
  D.Inv s' ∧ ∀ r, D.Fresh r t → D.Rely r s s'

/-- The obligation of the request `r` from the state `s` on, with a condition on
the outcome. -/
def Prog.Ensures (r : Req) (Q : Except ε α → σ → Prop) : Prog Op ε α → σ → Prop
  | .ret a, s => Q (.ok a) s
  | .fail e, s => Q (.error e) s
  | .call op next, s => ∀ s₁, D.Rely r s s₁ → D.Inv s₁ → ∀ t, D.Fresh r t →
      D.Guarantees t s₁ (D.handler op t s₁).2 ∧
        (next (D.handler op t s₁).1).Ensures r Q (D.handler op t s₁).2

/-- The obligation without a condition on the outcome. -/
abbrev Prog.Safe (r : Req) (p : Prog Op ε α) (s : σ) : Prop := p.Ensures D r (fun _ _ => True) s

section Rules

variable {D} {r : Req}

theorem Prog.Ensures.mono {Q Q' : Except ε α → σ → Prop} (hQ : ∀ x s, Q x s → Q' x s)
    {p : Prog Op ε α} {s : σ} (h : p.Ensures D r Q s) : p.Ensures D r Q' s := by
  induction p generalizing s with
  | ret a => exact hQ _ _ h
  | fail e => exact hQ _ _ h
  | call op next ih =>
      intro s₁ hrely hinv t ht
      obtain ⟨hstep, hrest⟩ := h s₁ hrely hinv t ht
      exact ⟨hstep, ih _ hrest⟩

theorem Prog.Ensures.bind {Q : Except ε β → σ → Prop} {p : Prog Op ε α} {f : α → Prog Op ε β}
    {s : σ}
    (h : p.Ensures D r (fun x s => match x with
      | .ok a => (f a).Ensures D r Q s
      | .error e => Q (.error e) s) s) : (p.bind f).Ensures D r Q s := by
  induction p generalizing s with
  | ret a => exact h
  | fail e => exact h
  | call op next ih =>
      intro s₁ hrely hinv t ht
      obtain ⟨hstep, hrest⟩ := h s₁ hrely hinv t ht
      exact ⟨hstep, ih _ hrest⟩

theorem Prog.Ensures.attempt {Q : Except ε (Except ε α) → σ → Prop} {p : Prog Op ε α} {s : σ}
    (h : p.Ensures D r (fun x s => Q (.ok x) s) s) : p.attempt.Ensures D r Q s := by
  induction p generalizing s with
  | ret a => exact h
  | fail e => exact h
  | call op next ih =>
      intro s₁ hrely hinv t ht
      obtain ⟨hstep, hrest⟩ := h s₁ hrely hinv t ht
      exact ⟨hstep, ih _ hrest⟩

/-- The obligation is stable under the rely, when its condition is. -/
theorem Prog.Ensures.rely {Q : Except ε α → σ → Prop}
    (hQ : ∀ x s s', Q x s → D.Rely r s s' → Q x s') {p : Prog Op ε α} {s s' : σ}
    (h : p.Ensures D r Q s) (hrely : D.Rely r s s') : p.Ensures D r Q s' := by
  cases p with
  | ret a => exact hQ _ _ _ h hrely
  | fail e => exact hQ _ _ _ h hrely
  | call op next =>
      intro s₁ hrely₁
      exact h s₁ (D.rely_trans r s s' s₁ hrely hrely₁)

/-- A program whose operations keep the discipline in any state is safe. -/
theorem Prog.safe_of_uses {P : ⦃β : Type⦄ → Op β → Prop}
    (step : ∀ ⦃β : Type⦄ (op : Op β) (t : T) (s : σ), P op → D.Inv s →
      D.Guarantees t s (D.handler op t s).2)
    {p : Prog Op ε α} (hp : p.Uses P) (s : σ) : p.Safe D r s := by
  induction p generalizing s with
  | ret a => trivial
  | fail e => trivial
  | call op next ih =>
      intro s₁ _ hinv t _
      exact ⟨step op t s₁ hp.1 hinv, ih _ (hp.2 _) _⟩

end Rules

/-! ## Pools -/

/-- A request in flight and what is left of its program. -/
structure Thread (Op : Type → Type u) (Req ε α : Type) where
  request : Req
  rest : Prog Op ε α

structure Pool (Op : Type → Type u) (Req σ ε α : Type) where
  state : σ
  threads : List (Thread Op Req ε α)

/-- One step of a pool: a request that `may` be made arrives, an operation is
performed on a tick that may occur, or a request leaves. -/
inductive Pool.Step (h : Handler Op T σ) (Fresh : Req → T → Prop) (may : Req → Prop)
    (prog : Req → Prog Op ε α) : Pool Op Req σ ε α → Pool Op Req σ ε α → Prop
  | arrive {s : σ} {threads : List (Thread Op Req ε α)} (r : Req) (hr : may r) :
      Step h Fresh may prog ⟨s, threads⟩ ⟨s, threads ++ [⟨r, prog r⟩]⟩
  | perform {s : σ} {before after : List (Thread Op Req ε α)} {r : Req} {β : Type} {op : Op β}
      {next : β → Prog Op ε α} (t : T)
      (ht : ∀ x ∈ before ++ ⟨r, .call op next⟩ :: after, Fresh x.request t) :
      Step h Fresh may prog ⟨s, before ++ ⟨r, .call op next⟩ :: after⟩
        ⟨(h op t s).2, before ++ ⟨r, next (h op t s).1⟩ :: after⟩
  | leave {s : σ} {before after : List (Thread Op Req ε α)} {x : Thread Op Req ε α} :
      Step h Fresh may prog ⟨s, before ++ x :: after⟩ ⟨s, before ++ after⟩

/-- One operation of a request, if it has one left. -/
def Thread.turn (h : Handler Op T σ) (t : T) (s : σ) :
    Thread Op Req ε α → σ × Thread Op Req ε α
  | ⟨r, .call op next⟩ => ((h op t s).2, ⟨r, next (h op t s).1⟩)
  | x => (s, x)

/-- The request at the position `i` has a turn. -/
def Pool.turn (h : Handler Op T σ) (c : Pool Op Req σ ε α) (i : ℕ) (t : T) : Pool Op Req σ ε α :=
  match c.threads[i]? with
  | some x => ⟨(x.turn h t c.state).1, c.threads.set i (x.turn h t c.state).2⟩
  | none => c

/-- The turns of a schedule: positions of requests, and the ticks of their operations. -/
def Pool.turns (h : Handler Op T σ) (c : Pool Op Req σ ε α) (schedule : List (ℕ × T)) :
    Pool Op Req σ ε α :=
  schedule.foldl (fun c turn => c.turn h turn.1 turn.2) c

/-- The invariant holds and every request meets its obligation. -/
structure Pool.Sound (c : Pool Op Req σ ε α) : Prop where
  inv : D.Inv c.state
  safe : ∀ x ∈ c.threads, x.rest.Safe D x.request c.state

/-- A request that nobody interrupts reaches the outcome of its run. -/
theorem Pool.run_alone {h : Handler Op T σ} {Fresh : Req → T → Prop} {may : Req → Prop}
    {prog : Req → Prog Op ε α} {r : Req} (p : Prog Op ε α) {τ : ℕ → T} (hτ : ∀ n, Fresh r (τ n))
    (s : σ) : Relation.ReflTransGen (Pool.Step h Fresh may prog) ⟨s, [⟨r, p⟩]⟩
      ⟨(p.run h τ s).2, [⟨r, .ofExcept (p.run h τ s).1⟩]⟩ := by
  induction p generalizing τ s with
  | ret a => exact .refl
  | fail e => exact .refl
  | call op next ih =>
      have hfresh : ∀ x ∈ ([] : List (Thread Op Req ε α)) ++ ⟨r, .call op next⟩ :: [],
          Fresh x.request (τ 0) := by
        simpa using hτ 0
      exact .head (.perform (τ 0) hfresh) (ih _ (fun n => hτ (n + 1)) _)

/-- An element of a list at its position. -/
theorem getElem?_split {β : Type u} {l : List β} {i : ℕ} {x : β} (h : l[i]? = some x) :
    ∃ before after, l = before ++ x :: after ∧ (∀ y, l.set i y = before ++ y :: after) ∧
      l.eraseIdx i = before ++ after := by
  induction l generalizing i with
  | nil => cases h
  | cons a l ih =>
      cases i with
      | zero =>
          cases h
          exact ⟨[], l, rfl, fun _ => rfl, rfl⟩
      | succ i =>
          obtain ⟨before, after, rfl, hset, herase⟩ := ih h
          exact ⟨a :: before, after, rfl, fun y => congrArg (a :: ·) (hset y),
            congrArg (a :: ·) herase⟩

section Turns

variable {h : Handler Op T σ}

/-- A turn does nothing, or it performs an operation of one request. -/
theorem Pool.turn_cases (c : Pool Op Req σ ε α) (i : ℕ) (t : T) :
    c.turn h i t = c ∨ ∃ before after r, ∃ (β : Type) (op : Op β) (next : β → Prog Op ε α),
      c.threads = before ++ ⟨r, .call op next⟩ :: after ∧
      c.turn h i t = ⟨(h op t c.state).2, before ++ ⟨r, next (h op t c.state).1⟩ :: after⟩ := by
  unfold Pool.turn
  cases hx : c.threads[i]? with
  | none => exact .inl rfl
  | some x =>
      obtain ⟨before, after, hsplit, hset, -⟩ := getElem?_split hx
      obtain ⟨r, rest⟩ := x
      dsimp only
      rw [hset]
      cases rest with
      | call op next => exact .inr ⟨before, after, r, _, op, next, hsplit, rfl⟩
      | ret a =>
          left
          change (⟨c.state, before ++ ⟨r, .ret a⟩ :: after⟩ : Pool Op Req σ ε α) = c
          rw [← hsplit]
      | fail e =>
          left
          change (⟨c.state, before ++ ⟨r, .fail e⟩ :: after⟩ : Pool Op Req σ ε α) = c
          rw [← hsplit]

theorem Pool.requests_turn (c : Pool Op Req σ ε α) (i : ℕ) (t : T) :
    (c.turn h i t).threads.map Thread.request = c.threads.map Thread.request := by
  rcases c.turn_cases i t with hsame | ⟨before, after, r, β, op, next, hsplit, hturn⟩
  · rw [hsame]
  · rw [hturn, hsplit]
    simp

/-- A schedule is a run of the pool, when its ticks may occur. -/
theorem Pool.steps_turns {Fresh : Req → T → Prop} {may : Req → Prop} {prog : Req → Prog Op ε α}
    {schedule : List (ℕ × T)} {c : Pool Op Req σ ε α}
    (hfresh : ∀ r ∈ c.threads.map Thread.request, ∀ turn ∈ schedule, Fresh r turn.2) :
    Relation.ReflTransGen (Pool.Step h Fresh may prog) c (c.turns h schedule) := by
  induction schedule generalizing c with
  | nil => exact .refl
  | cons turn schedule ih =>
      rw [Pool.turns, List.foldl_cons]
      have hrest := ih (c := c.turn h turn.1 turn.2) (by
        rw [Pool.requests_turn]
        exact fun r hr turn hturn => hfresh r hr turn (List.mem_cons_of_mem _ hturn))
      rcases c.turn_cases turn.1 turn.2 with hsame | ⟨before, after, r, β, op, next, hsplit, hturn⟩
      · rw [hsame] at hrest ⊢
        exact hrest
      · refine .head ?_ hrest
        rw [hturn]
        obtain ⟨s, threads⟩ := c
        obtain rfl : threads = _ := hsplit
        exact .perform turn.2 fun x hx =>
          hfresh x.request (List.mem_map_of_mem hx) turn List.mem_cons_self

end Turns

variable {D}

theorem Pool.Sound.step {may : Req → Prop} {prog : Req → Prog Op ε α}
    (hprog : ∀ r s, may r → D.Inv s → (prog r).Safe D r s) {c c' : Pool Op Req σ ε α}
    (hc : c.Sound D) (h : Pool.Step D.handler D.Fresh may prog c c') : c'.Sound D := by
  cases h with
  | arrive r hr =>
      refine ⟨hc.inv, ?_⟩
      intro x hx
      rcases List.mem_append.mp hx with hx | hx
      · exact hc.safe x hx
      · rw [List.mem_singleton.mp hx]
        exact hprog r _ hr hc.inv
  | @perform s before after r β op next t ht =>
      have hr : D.Fresh r t := ht ⟨r, .call op next⟩ (by simp)
      have hsafe : (Prog.call op next).Safe D r s := hc.safe ⟨r, .call op next⟩ (by simp)
      obtain ⟨hguarantee, hrest⟩ := hsafe s (D.rely_refl r s) hc.inv t hr
      refine ⟨hguarantee.1, ?_⟩
      intro x hx
      rcases List.mem_append.mp hx with hx | hx
      · have hold := hc.safe x (by simp [hx])
        exact hold.rely (fun _ _ _ _ _ => trivial) (hguarantee.2 _ (ht x (by simp [hx])))
      · rcases List.mem_cons.mp hx with rfl | hx
        · exact hrest
        · have hold := hc.safe x (by simp [hx])
          exact hold.rely (fun _ _ _ _ _ => trivial) (hguarantee.2 _ (ht x (by simp [hx])))
  | @leave s before after x =>
      refine ⟨hc.inv, ?_⟩
      intro y hy
      refine hc.safe y ?_
      rcases List.mem_append.mp hy with hy | hy
      · simp [hy]
      · simp [hy]

/-- Every run of a pool whose requests meet their obligations keeps the invariant. -/
theorem Pool.run_invariant {may : Req → Prop} {prog : Req → Prog Op ε α}
    (hprog : ∀ r s, may r → D.Inv s → (prog r).Safe D r s) {c c' : Pool Op Req σ ε α}
    (hc : c.Sound D) (h : Relation.ReflTransGen (Pool.Step D.handler D.Fresh may prog) c c') :
    D.Inv c'.state := by
  suffices hsound : c'.Sound D from hsound.inv
  induction h with
  | refl => exact hc
  | tail _ hstep ih => exact ih.step hprog hstep

end Effect
