import HistoryQuiz.Base.Served

/-!
# Requests that act at one moment

A request whose program performs one operation at most acts at one moment of the run, between its
arrival and its answer: the answer is the outcome of the program, run alone, in the state of that
moment (`Served.answered_between`).
-/

namespace Effect

universe u

variable {Op : Type → Type u} {Req T σ ε α β : Type}

/-! ## Programs with one operation -/

/-- The program is at its end after its first operation. -/
def Prog.Single : Prog Op ε α → Prop
  | .ret _ => True
  | .fail _ => True
  | .call _ next => ∀ b, ∃ x, next b = .ofExcept x

theorem Prog.single_ofExcept (x : Except ε α) : (Prog.ofExcept x : Prog Op ε α).Single := by
  cases x <;> trivial

theorem Prog.Single.bind {p : Prog Op ε α} {f : α → Prog Op ε β} (hp : p.Single)
    (hf : ∀ a, ∃ x, f a = .ofExcept x) : (p.bind f).Single := by
  cases p with
  | ret a =>
      obtain ⟨x, hx⟩ := hf a
      rw [Prog.ret_bind, hx]
      exact Prog.single_ofExcept x
  | fail e => trivial
  | call op next =>
      intro b
      obtain ⟨x, hx⟩ := hp b
      change ∃ y, (next b).bind f = .ofExcept y
      rw [hx]
      cases x with
      | error e => exact ⟨.error e, rfl⟩
      | ok a => exact hf a

theorem Prog.Single.mapError {ε' : Type} {f : ε → ε'} {p : Prog Op ε α} (hp : p.Single) :
    (p.mapError f).Single := by
  cases p with
  | ret a => trivial
  | fail e => trivial
  | call op next =>
      intro b
      obtain ⟨x, hx⟩ := hp b
      change ∃ y, (next b).mapError f = .ofExcept y
      rw [hx]
      cases x with
      | error e => exact ⟨.error (f e), rfl⟩
      | ok a => exact ⟨.ok a, rfl⟩

theorem Prog.ofExcept_injective :
    Function.Injective (Prog.ofExcept : Except ε α → Prog Op ε α) := by
  intro x y h
  cases x <;> cases y <;> cases h <;> rfl

/-! ## The moment of an answer -/

namespace Served

variable {h : Handler Op T σ} {prog : Req → Prog Op ε α} {Else : σ → σ → Prop}

/-- The requests that have arrived. -/
def arrived (c : Served Op Req σ ε α) : List Req :=
  c.threads.map Thread.request ++ c.answers.map Prod.fst

/-- `x` is the outcome of `r`, run alone, at a moment between `c` and `c'`. -/
def Between (h : Handler Op T σ) (prog : Req → Prog Op ε α) (Else : σ → σ → Prop)
    (c c' : Served Op Req σ ε α) (r : Req) (x : Except ε α) : Prop :=
  ∃ d τ, Steps h prog Else c d ∧ Steps h prog Else d c' ∧ ((prog r).run h τ d.state).1 = x

theorem Between.step {c c' c'' : Served Op Req σ ε α} {r : Req} {x : Except ε α}
    (hx : Between h prog Else c c' r x) (hstep : Step h prog Else c' c'') :
    Between h prog Else c c'' r x := by
  obtain ⟨d, τ, hd, hd', hrun⟩ := hx
  exact ⟨d, τ, hd, hd'.tail hstep, hrun⟩

/-- The request has not acted yet, or it has its outcome. -/
def Waiting (h : Handler Op T σ) (prog : Req → Prog Op ε α) (Else : σ → σ → Prop)
    (c c' : Served Op Req σ ε α) (r : Req) (rest : Prog Op ε α) : Prop :=
  rest = prog r ∨ ∃ x, rest = .ofExcept x ∧ Between h prog Else c c' r x

theorem Waiting.step {c c' c'' : Served Op Req σ ε α} {r : Req} {rest : Prog Op ε α}
    (hwaiting : Waiting h prog Else c c' r rest) (hstep : Step h prog Else c' c'') :
    Waiting h prog Else c c'' r rest :=
  hwaiting.imp_right fun ⟨x, hrest, hx⟩ => ⟨x, hrest, hx.step hstep⟩

/-- Its operation is the moment at which a request acts. -/
theorem Waiting.perform {c c' c'' : Served Op Req σ ε α} {r : Req} {op : Op β}
    {next : β → Prog Op ε α} (hr : (prog r).Single) (t : T) (hc : Steps h prog Else c c')
    (hstep : Step h prog Else c' c'') (hwaiting : Waiting h prog Else c c' r (.call op next)) :
    Waiting h prog Else c c'' r (next (h op t c'.state).1) := by
  rcases hwaiting with hrest | ⟨x, hrest, -⟩
  · rw [← hrest] at hr
    obtain ⟨x, hx⟩ := hr (h op t c'.state).1
    refine .inr ⟨x, hx, c', fun _ => t, hc, .single hstep, ?_⟩
    rw [← hrest, Prog.run_call, hx, Prog.run_ofExcept]
  · cases x <;> cases hrest

/-- What is answered is the outcome. -/
theorem Waiting.answer {c c' c'' : Served Op Req σ ε α} {r : Req} {x : Except ε α} (t : T)
    (hc : Steps h prog Else c c') (hstep : Step h prog Else c' c'')
    (hwaiting : Waiting h prog Else c c' r (.ofExcept x)) : Between h prog Else c c'' r x := by
  rcases hwaiting with hrest | ⟨y, hrest, hy⟩
  · refine ⟨c', fun _ => t, hc, .single hstep, ?_⟩
    rw [← hrest, Prog.run_ofExcept]
  · rw [Prog.ofExcept_injective hrest]
    exact hy.step hstep

/-- In `c'`, a request that arrives after `c` is waiting, or it was answered with its outcome. -/
structure Watched (h : Handler Op T σ) (prog : Req → Prog Op ε α) (Else : σ → σ → Prop)
    (c c' : Served Op Req σ ε α) (r : Req) : Prop where
  threads : ∀ y ∈ c'.threads, y.request = r → Waiting h prog Else c c' r y.rest
  answers : ∀ a ∈ c'.answers, a.1 = r → Between h prog Else c c' r a.2

theorem Watched.step [Nonempty T] {c c' c'' : Served Op Req σ ε α} {r : Req} (hr : (prog r).Single)
    (hc : Steps h prog Else c c') (hwatched : Watched h prog Else c c' r)
    (hstep : Step h prog Else c' c'') : Watched h prog Else c c'' r := by
  obtain ⟨hthreads, hanswers⟩ := hwatched
  have hwait : ∀ y ∈ c'.threads, y.request = r → Waiting h prog Else c c'' r y.rest :=
    fun y hy hyr => (hthreads y hy hyr).step hstep
  have hkept : ∀ a ∈ c'.answers, a.1 = r → Between h prog Else c c'' r a.2 :=
    fun a ha har => (hanswers a ha har).step hstep
  have hold := hstep
  cases hstep with
  | arrive r' =>
      refine ⟨?_, hkept⟩
      intro y hy hyr
      rcases List.mem_append.mp hy with hy | hy
      · exact hwait y hy hyr
      · rw [List.mem_singleton.mp hy] at hyr ⊢
        obtain rfl : r' = r := hyr
        exact .inl rfl
  | @perform s before after answers r' β op next t =>
      refine ⟨?_, hkept⟩
      intro y hy hyr
      rcases List.mem_append.mp hy with hy | hy
      · exact hwait y (List.mem_append_left _ hy) hyr
      · rcases List.mem_cons.mp hy with rfl | hy
        · obtain rfl : r' = r := hyr
          exact (hthreads _ (List.mem_append_right _ List.mem_cons_self) rfl).perform hr t hc hold
        · exact hwait y (List.mem_append_right _ (List.mem_cons_of_mem _ hy)) hyr
  | @answer s before after answers r' x =>
      refine ⟨?_, ?_⟩
      · intro y hy hyr
        refine hwait y ?_ hyr
        rcases List.mem_append.mp hy with hy | hy
        · exact List.mem_append_left _ hy
        · exact List.mem_append_right _ (List.mem_cons_of_mem _ hy)
      · intro a ha har
        rcases List.mem_append.mp ha with ha | ha
        · exact hkept a ha har
        · rw [List.mem_singleton.mp ha] at har ⊢
          obtain rfl : r' = r := har
          obtain ⟨t⟩ := ‹Nonempty T›
          exact (hthreads _ (List.mem_append_right _ List.mem_cons_self) rfl).answer t hc hold
  | other helse => exact ⟨hwait, hkept⟩

/-- A request with one operation at most that has not arrived in `c` is answered with its outcome at
a moment after `c`. -/
theorem answered_between [Nonempty T] {c c' : Served Op Req σ ε α} (hc : Steps h prog Else c c')
    {r : Req} (hr : (prog r).Single) (hnew : r ∉ c.arrived) {x : Except ε α}
    (hx : (r, x) ∈ c'.answers) : Between h prog Else c c' r x := by
  have hwatched : Watched h prog Else c c' r := by
    clear hx
    induction hc with
    | refl =>
        refine ⟨?_, ?_⟩
        · rintro y hy rfl
          exact absurd (List.mem_append_left _ (List.mem_map_of_mem hy)) hnew
        · rintro a ha rfl
          exact absurd (List.mem_append_right _ (List.mem_map_of_mem ha)) hnew
    | tail hearlier hstep ih => exact ih.step hr hearlier hstep
  exact hwatched.answers _ hx rfl

end Served

end Effect
