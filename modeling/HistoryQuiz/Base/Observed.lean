import HistoryQuiz.Base.Served

/-!
# Observations

Programs over two signatures side by side: operations of `Op`, and operations of `Obs` that work
on a state of their own. `p.Observes q` says that `p` is the program `q` over `Op` with operations
of `Obs` in between, whatever these answer.

Observations are transparent. A server whose programs are observed and the server without the
observations reach the same states, requests in flight and answers: each step of the observed
server is a step of the other or none (`Served.Observed.step`), and each step of the other is one
of the observed server after some observations (`Served.Observed.lift`).
-/

namespace Effect

universe u

variable {Op Obs : Type → Type u} {Req T T' σ ω ε α β : Type}

/-- Two signatures side by side. -/
inductive Plus (Op Obs : Type → Type u) : Type → Type u where
  | inl {β : Type} (op : Op β) : Plus Op Obs β
  | inr {β : Type} (o : Obs β) : Plus Op Obs β

/-- Each signature works on its own part of the state. -/
def Handler.both (h : Handler Op T σ) (g : Handler Obs T' ω) :
    Handler (Plus Op Obs) (T × T') (σ × ω)
  | _, .inl op, t, s => ((h op t.1 s.1).1, (h op t.1 s.1).2, s.2)
  | _, .inr o, t, s => ((g o t.2 s.2).1, s.1, (g o t.2 s.2).2)

@[simp] theorem Handler.both_inl (h : Handler Op T σ) (g : Handler Obs T' ω) (op : Op β)
    (t : T × T') (s : σ × ω) :
    h.both g (.inl op) t s = ((h op t.1 s.1).1, (h op t.1 s.1).2, s.2) := rfl

@[simp] theorem Handler.both_inr (h : Handler Op T σ) (g : Handler Obs T' ω) (o : Obs β)
    (t : T × T') (s : σ × ω) :
    h.both g (.inr o) t s = ((g o t.2 s.2).1, s.1, (g o t.2 s.2).2) := rfl

namespace Prog

/-- The program `p` over `Op` among the programs over both signatures. -/
def lift : Prog Op ε α → Prog (Plus Op Obs) ε α
  | ret a => ret a
  | fail e => fail e
  | call op next => call (.inl op) fun b => (next b).lift

/-- An observation. -/
def observe (o : Obs β) : Prog (Plus Op Obs) ε β := call (.inr o) ret

inductive Observes : Prog (Plus Op Obs) ε α → Prog Op ε α → Prop
  | ret (a : α) : Observes (.ret a) (.ret a)
  | fail (e : ε) : Observes (.fail e) (.fail e)
  | call {β : Type} (op : Op β) {next : β → Prog (Plus Op Obs) ε α} {next' : β → Prog Op ε α}
      (h : ∀ b, Observes (next b) (next' b)) : Observes (.call (.inl op) next) (.call op next')
  | observe {β : Type} (o : Obs β) {next : β → Prog (Plus Op Obs) ε α} {q : Prog Op ε α}
      (h : ∀ b, Observes (next b) q) : Observes (.call (.inr o) next) q

theorem observes_lift (q : Prog Op ε α) : Observes (q.lift : Prog (Plus Op Obs) ε α) q := by
  induction q with
  | ret a => exact .ret a
  | fail e => exact .fail e
  | call op next ih => exact .call op ih

theorem observes_ofExcept (x : Except ε α) :
    Observes (.ofExcept x : Prog (Plus Op Obs) ε α) (.ofExcept x) := by
  cases x with
  | error e => exact .fail e
  | ok a => exact .ret a

/-- Observations after the outcome of a program, which is handed on. -/
theorem Observes.attempt_bind {p : Prog (Plus Op Obs) ε α} {q : Prog Op ε α} (h : p.Observes q)
    {f : Except ε α → Prog (Plus Op Obs) ε α} (hf : ∀ x, (f x).Observes (.ofExcept x)) :
    (p.attempt.bind f).Observes q := by
  induction h with
  | ret a => exact hf (.ok a)
  | fail e => exact hf (.error e)
  | call op _ ih => exact .call op ih
  | observe o _ ih => exact .observe o ih

/-- An outcome is observed as that outcome. -/
theorem Observes.of_ofExcept {x : Except ε α} {q : Prog Op ε α}
    (h : Observes (.ofExcept x : Prog (Plus Op Obs) ε α) q) : q = .ofExcept x := by
  cases x with
  | error e =>
      cases h
      rfl
  | ok a =>
      cases h
      rfl

theorem emits_observe_bind {E : Type} {emit : ⦃β : Type⦄ → Plus Op Obs β → List E}
    {P : List E → Prop} {Q : Except ε α → List E → Prop} {done : List E} {o : Obs β}
    {f : β → Prog (Plus Op Obs) ε α} : ((observe o).bind f).Emits (Emitting emit) P Q done ↔
      P done ∧ ∀ b, (f b).Emits (Emitting emit) P Q (done ++ emit (.inr o)) := by
  refine and_congr_right fun _ => forall_congr' fun b => ?_
  exact exists_eq_left

theorem emits_observe {E : Type} {emit : ⦃β : Type⦄ → Plus Op Obs β → List E}
    {P : List E → Prop} {Q : Except ε β → List E → Prop} {done : List E} {o : Obs β} :
    (observe o : Prog (Plus Op Obs) ε β).Emits (Emitting emit) P Q done ↔
      P done ∧ ∀ b, Q (.ok b) (done ++ emit (.inr o)) := by
  refine and_congr_right fun _ => forall_congr' fun b => ?_
  exact exists_eq_left

/-- A program without observations emits nothing. -/
theorem emits_lift {E : Type} {emit : ⦃β : Type⦄ → Plus Op Obs β → List E}
    (hemit : ∀ ⦃β : Type⦄ (op : Op β), emit (.inl op) = []) {P : List E → Prop}
    {Q : Except ε α → List E → Prop} {done : List E} (hP : P done) {p : Prog Op ε α}
    (hp : p.Outcomes fun x => Q x done) : p.lift.Emits (Emitting emit) P Q done := by
  induction p with
  | ret a => exact hp
  | fail e => exact hp
  | call op next ih =>
      refine ⟨hP, ?_⟩
      intro b
      refine ⟨[], (hemit op).symm, ?_⟩
      rw [List.append_nil]
      exact ih b (hp b)

end Prog

/-! ## Servers -/

namespace Served

variable {h : Handler Op T σ} {g : Handler Obs T' ω}
variable {prog : Req → Prog Op ε α} {prog' : Req → Prog (Plus Op Obs) ε α}
variable {Else : σ → σ → Prop} {Else' : σ × ω → σ × ω → Prop}

/-- The same states, requests and answers; the programs of the requests in flight are those of the
other server with observations in between. -/
structure Observed (c : Served (Plus Op Obs) Req (σ × ω) ε α) (d : Served Op Req σ ε α) :
    Prop where
  state : c.state.1 = d.state
  threads : List.Forall₂ (fun x y => x.request = y.request ∧ x.rest.Observes y.rest)
    c.threads d.threads
  answers : c.answers = d.answers

theorem observed_start (s : σ) (w : ω) :
    Observed (start (s, w) : Served (Plus Op Obs) Req (σ × ω) ε α) (start s) :=
  ⟨rfl, .nil, rfl⟩

/-- The observed server makes a step of the other server or none. -/
theorem Observed.step (hprog : ∀ r, (prog' r).Observes (prog r))
    (helse : ∀ x y, Else' x y → x.1 = y.1 ∨ Else x.1 y.1)
    {c c' : Served (Plus Op Obs) Req (σ × ω) ε α} {d : Served Op Req σ ε α} (hcd : Observed c d)
    (hstep : Step (h.both g) prog' Else' c c') :
    ∃ d', Relation.ReflGen (Step h prog Else) d d' ∧ Observed c' d' := by
  obtain ⟨s, threads, answers⟩ := d
  obtain ⟨hstate, hthreads, hanswers⟩ := hcd
  cases hstep with
  | arrive r =>
      exact ⟨_, .single (.arrive r), hstate, List.rel_append hthreads (.cons ⟨rfl, hprog r⟩ .nil),
        hanswers⟩
  | @perform w before after answers' r β op next t =>
      obtain ⟨before', ⟨r', rest⟩, after', rfl, hbefore, ⟨hr, hrest⟩, hafter⟩ :=
        forall₂_append_cons hthreads
      cases hstate
      cases hr
      cases hrest with
      | call op hnext =>
          exact ⟨_, .single (.perform t.1), rfl,
            List.rel_append hbefore (.cons ⟨rfl, hnext _⟩ hafter), hanswers⟩
      | observe o hnext =>
          exact ⟨_, .refl, rfl, List.rel_append hbefore (.cons ⟨rfl, hnext _⟩ hafter), hanswers⟩
  | @answer w before after answers' r x =>
      obtain ⟨before', ⟨r', rest⟩, after', rfl, hbefore, ⟨hr, hrest⟩, hafter⟩ :=
        forall₂_append_cons hthreads
      cases hr
      have hanswer : rest = .ofExcept x := hrest.of_ofExcept
      subst hanswer
      exact ⟨_, .single (.answer x), hstate, List.rel_append hbefore hafter,
        congrArg (· ++ [(r, x)]) hanswers⟩
  | other hother =>
      rcases helse _ _ hother with hsame | hother
      · exact ⟨_, .refl, hsame.symm.trans hstate, hthreads, hanswers⟩
      · cases hstate
        exact ⟨_, .single (.other hother), rfl, hthreads, hanswers⟩

theorem Observed.steps (hprog : ∀ r, (prog' r).Observes (prog r))
    (helse : ∀ x y, Else' x y → x.1 = y.1 ∨ Else x.1 y.1)
    {c c' : Served (Plus Op Obs) Req (σ × ω) ε α} {d : Served Op Req σ ε α} (hcd : Observed c d)
    (hsteps : Steps (h.both g) prog' Else' c c') :
    ∃ d', Steps h prog Else d d' ∧ Observed c' d' := by
  induction hsteps with
  | refl => exact ⟨d, .refl, hcd⟩
  | tail _ hstep ih =>
      obtain ⟨d₁, hsteps, hd₁⟩ := ih
      obtain ⟨d', hstep', hd'⟩ := hd₁.step hprog helse hstep
      exact ⟨d', hsteps.trans hstep'.to_reflTransGen, hd'⟩

/-! ### The way back -/

section Lift

variable [Inhabited T'] [Inhabited T]

variable (h g prog' Else') in
/-- The observations in front of an operation of the other server can be made. -/
theorem exists_observations {p : Prog (Plus Op Obs) ε α} {q : Prog Op ε α} (hpq : p.Observes q)
    (s : σ) (w : ω) (before after : List (Thread (Plus Op Obs) Req ε α))
    (answers : List (Req × Except ε α)) (r : Req) :
    ∃ w' p', Steps (h.both g) prog' Else' ⟨(s, w), before ++ ⟨r, p⟩ :: after, answers⟩
        ⟨(s, w'), before ++ ⟨r, p'⟩ :: after, answers⟩ ∧ p'.Observes q ∧
      ∀ (β : Type) (o : Obs β) next, p' ≠ .call (.inr o) next := by
  induction hpq generalizing w with
  | ret a => exact ⟨w, _, .refl, .ret a, nofun⟩
  | fail e => exact ⟨w, _, .refl, .fail e, nofun⟩
  | call op hnext => exact ⟨w, _, .refl, .call op hnext, nofun⟩
  | @observe β o next q hnext ih =>
      let t : T × T' := default
      obtain ⟨w', p', hsteps, hp', hfront⟩ := ih (g o t.2 w).1 (g o t.2 w).2
      exact ⟨w', p', .head (.perform t) hsteps, hp', hfront⟩

/-- The observed server makes every step of the other server, after some observations. -/
theorem Observed.lift (hprog : ∀ r, (prog' r).Observes (prog r))
    (helse : ∀ s s' w, Else s s' → Else' (s, w) (s', w))
    {c : Served (Plus Op Obs) Req (σ × ω) ε α} {d d' : Served Op Req σ ε α} (hcd : Observed c d)
    (hstep : Step h prog Else d d') :
    ∃ c', Steps (h.both g) prog' Else' c c' ∧ Observed c' d' := by
  obtain ⟨⟨s, w⟩, threads, answers⟩ := c
  obtain ⟨hstate, hthreads, hanswers⟩ := hcd
  cases hstep with
  | arrive r =>
      exact ⟨_, .single (.arrive r), hstate, List.rel_append hthreads (.cons ⟨rfl, hprog r⟩ .nil),
        hanswers⟩
  | @perform s' before after answers' r β op next t =>
      obtain ⟨before', ⟨r', p⟩, after', rfl, hbefore, ⟨hr, hp⟩, hafter⟩ :=
        forall₂_append_cons (List.Forall₂.flip hthreads)
      cases hstate
      obtain rfl : r = r' := hr.symm
      obtain ⟨w', p', hsteps, hp', hfront⟩ :=
        exists_observations h g prog' Else' hp s w before' after' answers r
      cases hp' with
      | call op hnext =>
          exact ⟨_, hsteps.tail (.perform (t, default)), rfl,
            List.rel_append (List.Forall₂.flip hbefore)
              (.cons ⟨rfl, hnext _⟩ (List.Forall₂.flip hafter)), hanswers⟩
      | observe o hnext => exact absurd rfl (hfront _ o _)
  | @answer s' before after answers' r x =>
      obtain ⟨before', ⟨r', p⟩, after', rfl, hbefore, ⟨hr, hp⟩, hafter⟩ :=
        forall₂_append_cons (List.Forall₂.flip hthreads)
      cases hstate
      obtain rfl : r = r' := hr.symm
      obtain ⟨w', p', hsteps, hp', hfront⟩ :=
        exists_observations h g prog' Else' hp s w before' after' answers r
      have hanswer : p' = .ofExcept x := by
        cases x with
        | error e =>
            cases hp' with
            | fail => rfl
            | observe o hnext => exact absurd rfl (hfront _ o _)
        | ok a =>
            cases hp' with
            | ret => rfl
            | observe o hnext => exact absurd rfl (hfront _ o _)
      subst hanswer
      exact ⟨_, hsteps.tail (.answer x), rfl,
        List.rel_append (List.Forall₂.flip hbefore) (List.Forall₂.flip hafter),
        congrArg (· ++ [(r, x)]) hanswers⟩
  | other hother =>
      cases hstate
      exact ⟨_, .single (.other (helse _ _ w hother)), rfl, hthreads, hanswers⟩

theorem Observed.lift_steps (hprog : ∀ r, (prog' r).Observes (prog r))
    (helse : ∀ s s' w, Else s s' → Else' (s, w) (s', w))
    {c : Served (Plus Op Obs) Req (σ × ω) ε α} {d d' : Served Op Req σ ε α} (hcd : Observed c d)
    (hsteps : Steps h prog Else d d') :
    ∃ c', Steps (h.both g) prog' Else' c c' ∧ Observed c' d' := by
  induction hsteps with
  | refl => exact ⟨c, .refl, hcd⟩
  | tail _ hstep ih =>
      obtain ⟨c₁, hsteps, hc₁⟩ := ih
      obtain ⟨c', hsteps', hc'⟩ := hc₁.lift (g := g) hprog helse hstep
      exact ⟨c', hsteps.trans hsteps', hc'⟩

end Lift

end Served

end Effect
