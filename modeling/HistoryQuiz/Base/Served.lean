import HistoryQuiz.Base.Interleave
import Mathlib.Data.List.Forall2
import Mathlib.Data.List.Perm.Basic

/-!
# Requests and their answers

A pool of programs that keeps the answers of the requests that have left. A step lets a request
arrive, performs one operation of one request, answers a request that has come to its end, or is
one of something `Else` that works on the same state.

The accounting rule says what a journal in the state holds. `Prog.Emits` follows a program along
all its paths with the events that it has written so far; when every request emits what it should,
the journal of any state that is reached consists of the events of the requests that were answered
and of what the requests in flight have written so far, each once and in no particular order
(`Served.Accounted.steps`).

`Served.acts` computes a closed run (`Served.steps_acts`), and `Served.Steps.rename` changes the
names of the requests, so that a run can be told with names of its own for each of them.
-/

namespace Effect

universe u

variable {Op : Type → Type u} {Req T σ ε α E : Type}

/-- The requests in flight, and the answers of those that have left, oldest first. -/
structure Served (Op : Type → Type u) (Req σ ε α : Type) where
  state : σ
  threads : List (Thread Op Req ε α)
  answers : List (Req × Except ε α)

namespace Served

/-- Nothing has arrived yet. -/
def start (s : σ) : Served Op Req σ ε α := ⟨s, [], []⟩

inductive Step (h : Handler Op T σ) (prog : Req → Prog Op ε α) (Else : σ → σ → Prop) :
    Served Op Req σ ε α → Served Op Req σ ε α → Prop
  | arrive {s : σ} {threads : List (Thread Op Req ε α)} {answers : List (Req × Except ε α)}
      (r : Req) : Step h prog Else ⟨s, threads, answers⟩ ⟨s, threads ++ [⟨r, prog r⟩], answers⟩
  | perform {s : σ} {before after : List (Thread Op Req ε α)} {answers : List (Req × Except ε α)}
      {r : Req} {β : Type} {op : Op β} {next : β → Prog Op ε α} (t : T) :
      Step h prog Else ⟨s, before ++ ⟨r, .call op next⟩ :: after, answers⟩
        ⟨(h op t s).2, before ++ ⟨r, next (h op t s).1⟩ :: after, answers⟩
  | answer {s : σ} {before after : List (Thread Op Req ε α)} {answers : List (Req × Except ε α)}
      {r : Req} (x : Except ε α) :
      Step h prog Else ⟨s, before ++ ⟨r, .ofExcept x⟩ :: after, answers⟩
        ⟨s, before ++ after, answers ++ [(r, x)]⟩
  | other {s s' : σ} {threads : List (Thread Op Req ε α)} {answers : List (Req × Except ε α)}
      (helse : Else s s') : Step h prog Else ⟨s, threads, answers⟩ ⟨s', threads, answers⟩

abbrev Steps (h : Handler Op T σ) (prog : Req → Prog Op ε α) (Else : σ → σ → Prop) :
    Served Op Req σ ε α → Served Op Req σ ε α → Prop :=
  Relation.ReflTransGen (Step h prog Else)

end Served

namespace Served

variable {h : Handler Op T σ} {prog : Req → Prog Op ε α} {Else : σ → σ → Prop}

/-- A request that nobody interrupts is answered with the outcome of its run. -/
theorem run_alone (r : Req) (p : Prog Op ε α) (τ : ℕ → T) (s : σ)
    (answers : List (Req × Except ε α)) :
    Steps h prog Else ⟨s, [⟨r, p⟩], answers⟩
      ⟨(p.run h τ s).2, [], answers ++ [(r, (p.run h τ s).1)]⟩ := by
  have hanswer : ∀ (s : σ) (x : Except ε α), Step h prog Else
      ⟨s, [] ++ ⟨r, .ofExcept x⟩ :: [], answers⟩ ⟨s, [] ++ [], answers ++ [(r, x)]⟩ :=
    fun s x => .answer x
  induction p generalizing τ s with
  | ret a => exact .single (hanswer s (.ok a))
  | fail e => exact .single (hanswer s (.error e))
  | call op next ih =>
      have hperform : Step h prog Else ⟨s, [] ++ ⟨r, .call op next⟩ :: [], answers⟩
          ⟨(h op (τ 0) s).2, [] ++ ⟨r, next (h op (τ 0) s).1⟩ :: [], answers⟩ := .perform (τ 0)
      exact .head hperform (ih _ _ _)

theorem arrive_alone (r : Req) (τ : ℕ → T) (s : σ) :
    Steps h prog Else (start s)
      ⟨((prog r).run h τ s).2, [], [(r, ((prog r).run h τ s).1)]⟩ :=
  .head (.arrive r) (run_alone r (prog r) τ s [])

/-! ### Closed runs -/

/-- What happens next in a closed run; requests are named by their positions. -/
inductive Act (Req T : Type) where
  | arrive (r : Req)
  | turn (i : ℕ) (t : T)
  | answer (i : ℕ)

/-- A position without a request, or with one that cannot act so, changes nothing. -/
def act (h : Handler Op T σ) (prog : Req → Prog Op ε α) (c : Served Op Req σ ε α) :
    Act Req T → Served Op Req σ ε α
  | .arrive r => ⟨c.state, c.threads ++ [⟨r, prog r⟩], c.answers⟩
  | .turn i t =>
      let p := Pool.turn h ⟨c.state, c.threads⟩ i t
      ⟨p.state, p.threads, c.answers⟩
  | .answer i =>
      match c.threads[i]? with
      | some ⟨r, .ret a⟩ => ⟨c.state, c.threads.eraseIdx i, c.answers ++ [(r, .ok a)]⟩
      | some ⟨r, .fail e⟩ => ⟨c.state, c.threads.eraseIdx i, c.answers ++ [(r, .error e)]⟩
      | _ => c

def acts (h : Handler Op T σ) (prog : Req → Prog Op ε α) (c : Served Op Req σ ε α)
    (l : List (Act Req T)) : Served Op Req σ ε α :=
  l.foldl (act h prog) c

theorem steps_act (c : Served Op Req σ ε α) (a : Act Req T) :
    Steps h prog Else c (act h prog c a) := by
  obtain ⟨s, threads, answers⟩ := c
  cases a with
  | arrive r => exact .single (.arrive r)
  | turn i t =>
      unfold act
      dsimp only
      rcases Pool.turn_cases (h := h) ⟨s, threads⟩ i t with
        hsame | ⟨before, after, r, β, op, next, hsplit, hturn⟩
      · rw [hsame]
      · rw [hturn]
        obtain rfl : threads = _ := hsplit
        exact .single (.perform t)
  | answer i =>
      unfold act
      dsimp only
      cases hx : threads[i]? with
      | none => exact .refl
      | some x =>
          obtain ⟨before, after, hsplit, -, herase⟩ := getElem?_split hx
          obtain ⟨r, rest⟩ := x
          cases rest with
          | call op next => exact .refl
          | ret a =>
              dsimp only
              rw [herase, hsplit]
              exact .single (.answer (.ok a))
          | fail e =>
              dsimp only
              rw [herase, hsplit]
              exact .single (.answer (.error e))

theorem steps_acts (c : Served Op Req σ ε α) (l : List (Act Req T)) :
    Steps h prog Else c (acts h prog c l) := by
  induction l generalizing c with
  | nil => exact .refl
  | cons a l ih => exact (steps_act c a).trans (ih (act h prog c a))

/-! ### Names of requests -/

/-- The requests under other names. -/
def rename {Req' : Type} (f : Req' → Req) (c : Served Op Req' σ ε α) : Served Op Req σ ε α :=
  ⟨c.state, c.threads.map fun x => ⟨f x.request, x.rest⟩, c.answers.map fun a => (f a.1, a.2)⟩

/-- Requests that act by their names alone are run under these. -/
theorem Steps.rename {Req' : Type} (f : Req' → Req) {c c' : Served Op Req' σ ε α}
    (hsteps : Steps h (fun r => prog (f r)) Else c c') :
    Steps h prog Else (c.rename f) (c'.rename f) := by
  induction hsteps with
  | refl => exact .refl
  | tail _ hstep ih =>
      refine ih.tail ?_
      unfold Served.rename
      cases hstep with
      | arrive r => simpa using .arrive (f r)
      | perform t => simpa using .perform t
      | answer x => simpa using .answer x
      | other helse => exact .other helse

end Served

/-! ## Events -/

/-- Along every path, with some events for the answer of each operation: the events so far satisfy
`P` before each operation, and the outcome and all events satisfy `Q` at the end. -/
def Prog.Emits (emit : ⦃β : Type⦄ → Op β → β → List E → Prop) (P : List E → Prop)
    (Q : Except ε α → List E → Prop) : Prog Op ε α → List E → Prop
  | .ret a, done => Q (.ok a) done
  | .fail e, done => Q (.error e) done
  | .call op next, done =>
      P done ∧ ∀ b, ∃ es, emit op b es ∧ (next b).Emits emit P Q (done ++ es)

/-- An operation has its events whatever its answer is. -/
def Emitting (emit : ⦃β : Type⦄ → Op β → List E) : ⦃β : Type⦄ → Op β → β → List E → Prop :=
  fun _ op _ es => es = emit op

section Emits

variable {emit : ⦃β : Type⦄ → Op β → β → List E → Prop} {P : List E → Prop}

theorem Prog.Emits.mono {Q Q' : Except ε α → List E → Prop} (hQ : ∀ x es, Q x es → Q' x es)
    {p : Prog Op ε α} {done : List E} (h : p.Emits emit P Q done) : p.Emits emit P Q' done := by
  induction p generalizing done with
  | ret a => exact hQ _ _ h
  | fail e => exact hQ _ _ h
  | call op next ih =>
      refine ⟨h.1, fun b => ?_⟩
      obtain ⟨es, hes, hrest⟩ := h.2 b
      exact ⟨es, hes, ih b hrest⟩

theorem Prog.Emits.bind {β : Type} {Q : Except ε β → List E → Prop} {p : Prog Op ε α}
    {f : α → Prog Op ε β} {done : List E}
    (h : p.Emits emit P (fun x es => match x with
      | .ok a => (f a).Emits emit P Q es
      | .error e => Q (.error e) es) done) : (p.bind f).Emits emit P Q done := by
  induction p generalizing done with
  | ret a => exact h
  | fail e => exact h
  | call op next ih =>
      refine ⟨h.1, fun b => ?_⟩
      obtain ⟨es, hes, hrest⟩ := h.2 b
      exact ⟨es, hes, ih b hrest⟩

theorem Prog.Emits.attempt {Q : Except ε (Except ε α) → List E → Prop} {p : Prog Op ε α}
    {done : List E} (h : p.Emits emit P (fun x es => Q (.ok x) es) done) :
    p.attempt.Emits emit P Q done := by
  induction p generalizing done with
  | ret a => exact h
  | fail e => exact h
  | call op next ih =>
      refine ⟨h.1, fun b => ?_⟩
      obtain ⟨es, hes, hrest⟩ := h.2 b
      exact ⟨es, hes, ih b hrest⟩

theorem Prog.Emits.mapError {ε' : Type} {f : ε → ε'} {Q : Except ε' α → List E → Prop}
    {p : Prog Op ε α} {done : List E} (h : p.Emits emit P (fun x es => Q (x.mapError f) es) done) :
    (p.mapError f).Emits emit P Q done := by
  induction p generalizing done with
  | ret a => exact h
  | fail e => exact h
  | call op next ih =>
      refine ⟨h.1, fun b => ?_⟩
      obtain ⟨es, hes, hrest⟩ := h.2 b
      exact ⟨es, hes, ih b hrest⟩

/-- A program whose operations have no events. -/
theorem Prog.Uses.emits {R : ⦃β : Type⦄ → Op β → Prop} {Q : Except ε α → List E → Prop}
    {p : Prog Op ε α} (hp : p.Uses R)
    (hemit : ∀ ⦃β : Type⦄ (op : Op β), R op → ∀ b, emit op b []) {done : List E} (hP : P done)
    (hQ : ∀ x, Q x done) : p.Emits emit P Q done := by
  induction p with
  | ret a => exact hQ _
  | fail e => exact hQ _
  | call op next ih =>
      refine ⟨hP, fun b => ⟨[], hemit op hp.1 b, ?_⟩⟩
      rw [List.append_nil]
      exact ih b (hp.2 b)

/-- At any time a request is on its way or at its end. -/
theorem Prog.Emits.now {Q : Except ε α → List E → Prop} {p : Prog Op ε α} {done : List E}
    (h : p.Emits emit P Q done) : P done ∨ ∃ x, Q x done := by
  cases p with
  | ret a => exact .inr ⟨_, h⟩
  | fail e => exact .inr ⟨_, h⟩
  | call op next => exact .inl h.1

/-- A run that nobody interrupts: the journal has the events of its outcome. -/
theorem Prog.Emits.run {h : Handler Op T σ} {J : σ → List E → Prop}
    (hexec : ∀ ⦃β : Type⦄ (op : Op β) t s journal es, J s journal → emit op (h op t s).1 es →
      J (h op t s).2 (journal ++ es))
    {Q : Except ε α → List E → Prop} {p : Prog Op ε α} {done : List E}
    (hp : p.Emits emit P Q done) (τ : ℕ → T) {s : σ} (hs : J s done) :
    ∃ es, Q (p.run h τ s).1 es ∧ J (p.run h τ s).2 es := by
  induction p generalizing τ s done with
  | ret a => exact ⟨done, hp, hs⟩
  | fail e => exact ⟨done, hp, hs⟩
  | call op next ih =>
      obtain ⟨es, hes, hrest⟩ := hp.2 (h op (τ 0) s).1
      exact ih _ hrest (later τ 1) (hexec op (τ 0) s done es hs hes)

@[simp] theorem Prog.emits_ofExcept {Q : Except ε α → List E → Prop} {x : Except ε α}
    {done : List E} : (Prog.ofExcept x : Prog Op ε α).Emits emit P Q done ↔ Q x done := by
  cases x <;> rfl

end Emits

/-- Every outcome of the program satisfies `Q`. -/
def Prog.Outcomes (Q : Except ε α → Prop) : Prog Op ε α → Prop
  | .ret a => Q (.ok a)
  | .fail e => Q (.error e)
  | .call _ next => ∀ b, (next b).Outcomes Q

section Outcomes

variable {Q : Except ε α → Prop}

theorem Prog.Outcomes.mono {Q' : Except ε α → Prop} (hQ : ∀ x, Q x → Q' x) {p : Prog Op ε α}
    (h : p.Outcomes Q) : p.Outcomes Q' := by
  induction p with
  | ret a => exact hQ _ h
  | fail e => exact hQ _ h
  | call op next ih => exact fun b => ih b (h b)

theorem Prog.outcomes_mapError {ε' : Type} {p : Prog Op ε' α} {f : ε' → ε}
    (hok : ∀ a, Q (.ok a)) (herror : ∀ e, Q (.error (f e))) : (p.mapError f).Outcomes Q := by
  induction p with
  | ret a => exact hok a
  | fail e => exact herror e
  | call op next ih => exact ih

theorem Prog.Outcomes.bind {β : Type} {p : Prog Op ε β} {f : β → Prog Op ε α}
    (h : p.Outcomes fun x => match x with
      | .ok b => (f b).Outcomes Q
      | .error e => Q (.error e)) : (p.bind f).Outcomes Q := by
  induction p with
  | ret b => exact h
  | fail e => exact h
  | call op next ih => exact fun b => ih b (h b)

end Outcomes

/-! ## Accounting -/

/-- The two sides of a relation of lists, at an element of the left one. -/
theorem forall₂_append_cons {α β : Type*} {R : α → β → Prop} {before after : List α} {a : α}
    {bs : List β} (h : List.Forall₂ R (before ++ a :: after) bs) :
    ∃ before' b after', bs = before' ++ b :: after' ∧ List.Forall₂ R before before' ∧ R a b ∧
      List.Forall₂ R after after' := by
  induction before generalizing bs with
  | nil =>
      obtain ⟨b, after', hb, hafter, rfl⟩ := List.forall₂_cons_left_iff.mp h
      exact ⟨[], b, after', rfl, .nil, hb, hafter⟩
  | cons x before ih =>
      obtain ⟨y, ys, hy, hys, rfl⟩ := List.forall₂_cons_left_iff.mp h
      obtain ⟨before', b, after', rfl, hbefore, hb, hafter⟩ := ih hys
      exact ⟨y :: before', b, after', rfl, .cons hy hbefore, hb, hafter⟩

theorem eq_map_of_forall₂ {α β : Type*} {f : α → β} {as : List α} {bs : List β}
    (h : List.Forall₂ (fun a b => b = f a) as bs) : bs = as.map f := by
  induction h with
  | nil => rfl
  | cons hfirst _ ih => rw [List.map_cons, hfirst, ih]

namespace Served

/-- What the accounting rule is about: how the state holds a journal, what an operation with an
answer may add to it, what a request may have written on its way and what it has written when it is
answered. -/
structure Accounts (Op : Type → Type u) (Req σ ε α E : Type) where
  Journal : σ → List E → Prop
  emit : ⦃β : Type⦄ → Op β → β → List E → Prop
  Partial : Req → List E → Prop
  Total : Req → Except ε α → List E → Prop

variable {A : Accounts Op Req σ ε α E}

/-- A request in flight emits what is left of its events. -/
def Accounts.InFlight (A : Accounts Op Req σ ε α E) (x : Thread Op Req ε α) (done : List E) :
    Prop :=
  x.rest.Emits A.emit (A.Partial x.request) (A.Total x.request) done

/-- The journal is made of the events of the answers and of those of the requests in flight. -/
def Accounted (A : Accounts Op Req σ ε α E) (c : Served Op Req σ ε α) (journal : List E) : Prop :=
  ∃ totals dones, A.Journal c.state journal ∧
    List.Forall₂ (fun answer total => A.Total answer.1 answer.2 total) c.answers totals ∧
    List.Forall₂ A.InFlight c.threads dones ∧
    journal.Perm (totals.flatten ++ dones.flatten)

variable {h : Handler Op T σ} {prog : Req → Prog Op ε α} {Else : σ → σ → Prop}

theorem Accounted.step
    (hop : ∀ ⦃β : Type⦄ (op : Op β) t s es es', A.Journal s es → A.emit op (h op t s).1 es' →
      A.Journal (h op t s).2 (es ++ es'))
    (helse : ∀ s s' es, Else s s' → A.Journal s es → A.Journal s' es)
    (hprog : ∀ r, A.InFlight ⟨r, prog r⟩ []) {c c' : Served Op Req σ ε α} {journal : List E}
    (hc : Accounted A c journal) (hstep : Step h prog Else c c') :
    ∃ more, Accounted A c' (journal ++ more) := by
  obtain ⟨totals, dones, hjournal, htotals, hdones, hperm⟩ := hc
  cases hstep with
  | arrive r =>
      have hnew : List.Forall₂ A.InFlight [⟨r, prog r⟩] [[]] := .cons (hprog r) .nil
      refine ⟨[], totals, dones ++ [[]], ?_, htotals, List.rel_append hdones hnew, ?_⟩
      · rwa [List.append_nil]
      · simpa using hperm
  | @perform s before after answers r β op next t =>
      obtain ⟨before', done, after', rfl, hbefore, hdone, hafter⟩ := forall₂_append_cons hdones
      obtain ⟨es, hes, hrest⟩ := hdone.2 (h op t s).1
      refine ⟨es, totals, before' ++ (done ++ es) :: after', hop op t s journal es hjournal hes,
        htotals, List.rel_append hbefore (.cons hrest hafter), ?_⟩
      refine (hperm.append_right es).trans ?_
      simp only [List.flatten_append, List.flatten_cons, List.append_assoc]
      exact ((List.perm_append_comm.append_left done).append_left before'.flatten).append_left _
  | @answer s before after answers r x =>
      obtain ⟨before', done, after', rfl, hbefore, hdone, hafter⟩ := forall₂_append_cons hdones
      have htotal : A.Total r x done := Prog.emits_ofExcept.mp hdone
      refine ⟨[], totals ++ [done], before' ++ after', ?_,
        List.rel_append htotals (.cons htotal .nil), List.rel_append hbefore hafter, ?_⟩
      · rwa [List.append_nil]
      · rw [List.append_nil]
        refine hperm.trans ?_
        simp only [List.flatten_append, List.flatten_cons, List.flatten_nil, List.append_assoc,
          List.append_nil]
        refine List.Perm.append_left _ ?_
        rw [← List.append_assoc, ← List.append_assoc]
        exact List.perm_append_comm.append_right _
  | other hother =>
      refine ⟨[], totals, dones, ?_, htotals, hdones, ?_⟩
      · rw [List.append_nil]
        exact helse _ _ _ hother hjournal
      · rwa [List.append_nil]

/-- A run keeps the account, and the journal grows. -/
theorem Accounted.steps
    (hop : ∀ ⦃β : Type⦄ (op : Op β) t s es es', A.Journal s es → A.emit op (h op t s).1 es' →
      A.Journal (h op t s).2 (es ++ es'))
    (helse : ∀ s s' es, Else s s' → A.Journal s es → A.Journal s' es)
    (hprog : ∀ r, A.InFlight ⟨r, prog r⟩ []) {c c' : Served Op Req σ ε α} {journal : List E}
    (hc : Accounted A c journal) (hsteps : Steps h prog Else c c') :
    ∃ more, Accounted A c' (journal ++ more) := by
  induction hsteps with
  | refl => exact ⟨[], by rwa [List.append_nil]⟩
  | tail _ hstep ih =>
      obtain ⟨more, hmore⟩ := ih
      obtain ⟨es, hes⟩ := hmore.step hop helse hprog hstep
      exact ⟨more ++ es, by rwa [← List.append_assoc]⟩

theorem accounted_start {s : σ} (hs : A.Journal s []) : Accounted A (start s) [] :=
  ⟨[], [], hs, .nil, .nil, List.Perm.refl _⟩

end Served

end Effect
