/-!
# Programs that throw

Rules for programs of `EStateM ε σ`, which keep a state and may throw. `Ends x s Q E`
says how `x`, started in `s`, ends: what it returns satisfies `Q`, and what it throws
satisfies `E`, each with the state that it leaves. `attempt` and `catching` are `try`:
they hand the outcome on, and the state stays as the program has left it.
-/

namespace Throw

variable {ε ε' σ α β : Type}

/-- Run `x` to its outcome. -/
def attempt (x : EStateM ε σ α) : StateM σ (Except ε α) := fun s =>
  match x s with
  | .ok a s' => (.ok a, s')
  | .error e s' => (.error e, s')

/-- Run `x` to its outcome, in a program that may throw other errors. -/
def catching (x : EStateM ε σ α) : EStateM ε' σ (Except ε α) := fun s =>
  .ok (attempt x s).1 (attempt x s).2

/-- Run all of the programs, one after the other, and return what they return; when some throw,
all have been run, and the first error counts. -/
def runAll : List (EStateM ε σ α) → EStateM ε σ (List α)
  | [] => pure []
  | x :: rest => do
      let outcome ← catching x
      let outcomes ← catching (runAll rest)
      match outcome, outcomes with
      | .ok a, .ok as => return a :: as
      | .error e, _ => throw e
      | .ok _, .error e => throw e

theorem attempt_bind_ok {x : EStateM ε σ α} {s s' : σ} {a : α} (h : x s = .ok a s')
    (f : Except ε α → StateM σ β) : (attempt x >>= f) s = f (.ok a) s' := by
  change f (attempt x s).1 (attempt x s).2 = f (.ok a) s'
  unfold attempt
  rw [h]

theorem attempt_bind_error {x : EStateM ε σ α} {s s' : σ} {e : ε} (h : x s = .error e s')
    (f : Except ε α → StateM σ β) : (attempt x >>= f) s = f (.error e) s' := by
  change f (attempt x s).1 (attempt x s).2 = f (.error e) s'
  unfold attempt
  rw [h]

theorem eq_ok_of_attempt {x : EStateM ε σ α} {s : σ} {a : α} (h : (attempt x s).1 = .ok a) :
    x s = .ok a (attempt x s).2 := by
  unfold attempt at *
  cases hx : x s with
  | ok a' s' =>
      rw [hx] at h
      cases h
      rfl
  | error e s' =>
      rw [hx] at h
      cases h

theorem eq_ok_of_toOption {x : EStateM ε σ α} {s : σ} {a : α}
    (h : (attempt x s).1.toOption = some a) : x s = .ok a (attempt x s).2 := by
  apply eq_ok_of_attempt
  cases hx : (attempt x s).1 with
  | ok b =>
      rw [hx] at h
      cases h
      rfl
  | error e =>
      rw [hx] at h
      cases h

/-! ## Programs that have returned -/

/-- A sequence returns when its parts return. -/
theorem bind_eq_ok {x : EStateM ε σ α} {f : α → EStateM ε σ β} {s t : σ} {b : β} :
    (x >>= f) s = .ok b t ↔ ∃ a s', x s = .ok a s' ∧ f a s' = .ok b t := by
  change EStateM.bind x f s = .ok b t ↔ _
  unfold EStateM.bind
  cases x s with
  | ok a s' =>
      constructor
      · intro h
        exact ⟨a, s', rfl, h⟩
      · rintro ⟨_, _, ⟨⟩, h⟩
        exact h
  | error e s' => simp

/-- A sequence goes on from what its first part returns. -/
theorem bind_of_ok {x : EStateM ε σ α} {f : α → EStateM ε σ β} {s t : σ} {a : α}
    (h : x s = .ok a t) : (x >>= f) s = f a t := by
  change EStateM.bind x f s = f a t
  unfold EStateM.bind
  rw [h]

/-- A sequence ends where its first part throws. -/
theorem bind_of_error {x : EStateM ε σ α} {f : α → EStateM ε σ β} {s t : σ} {e : ε}
    (h : x s = .error e t) : (x >>= f) s = .error e t := by
  change EStateM.bind x f s = .error e t
  unfold EStateM.bind
  rw [h]

theorem pure_eq_ok {a b : α} {s t : σ} :
    (pure a : EStateM ε σ α) s = .ok b t ↔ a = b ∧ s = t := by
  change EStateM.Result.ok a s = .ok b t ↔ _
  simp

theorem throw_eq_ok {e : ε} {a : α} {s t : σ} : (throw e : EStateM ε σ α) s = .ok a t ↔ False := by
  change EStateM.Result.error e s = .ok a t ↔ _
  simp

theorem get_eq_ok {s t u : σ} : (get : EStateM ε σ σ) s = .ok t u ↔ s = t ∧ s = u := by
  change EStateM.Result.ok s s = .ok t u ↔ _
  simp

theorem modify_eq_ok {f : σ → σ} {s t : σ} {u : PUnit} :
    (modify f : EStateM ε σ PUnit) s = .ok u t ↔ f s = t := by
  change EStateM.Result.ok ⟨⟩ (f s) = .ok u t ↔ _
  simp

/-- A sequence without a state returns when its parts return. -/
theorem except_bind_eq_ok {x : Except ε α} {f : α → Except ε β} {b : β} :
    (x >>= f) = .ok b ↔ ∃ a, x = .ok a ∧ f a = .ok b := by
  cases x with
  | error e =>
      constructor
      · intro h
        cases h
      · rintro ⟨a, ⟨⟩, -⟩
  | ok a =>
      constructor
      · intro h
        exact ⟨a, rfl, h⟩
      · rintro ⟨_, ⟨⟩, h⟩
        exact h

/-- A sequence without a state throws when one of its parts throws. -/
theorem except_bind_eq_error {x : Except ε α} {f : α → Except ε β} {e : ε} :
    (x >>= f) = .error e ↔ x = .error e ∨ ∃ a, x = .ok a ∧ f a = .error e := by
  cases x with
  | error e' =>
      constructor
      · rintro ⟨⟩
        exact .inl rfl
      · rintro (⟨⟨⟩⟩ | ⟨a, ⟨⟩, -⟩)
        rfl
  | ok a =>
      constructor
      · intro h
        exact .inr ⟨a, rfl, h⟩
      · rintro (⟨⟨⟩⟩ | ⟨_, ⟨⟩, h⟩)
        exact h

/-! ## What a program throws -/

/-- The program has thrown something `bad`. -/
def Fails (bad : ε → Prop) : EStateM.Result ε σ α → Prop
  | .ok _ _ => False
  | .error e _ => bad e

/-- A sequence fails in its first part, or in its second part from what the first returns. -/
theorem fails_bind {bad : ε → Prop} {x : EStateM ε σ α} {f : α → EStateM ε σ β} {s : σ} :
    Fails bad ((x >>= f) s) ↔ Fails bad (x s) ∨ ∃ a t, x s = .ok a t ∧ Fails bad (f a t) := by
  change Fails bad (EStateM.bind x f s) ↔ _
  unfold EStateM.bind
  cases x s with
  | ok a t =>
      constructor
      · intro h
        exact .inr ⟨a, t, rfl, h⟩
      · rintro (h | ⟨_, _, ⟨⟩, h⟩)
        · exact h.elim
        · exact h
  | error e t =>
      constructor
      · intro h
        exact .inl h
      · rintro (h | ⟨_, _, ⟨⟩, -⟩)
        exact h

/-- A program that does not fail returns, or throws something that is not `bad`. -/
theorem not_fails {bad : ε → Prop} {r : EStateM.Result ε σ α} :
    ¬ Fails bad r ↔ (∃ a t, r = .ok a t) ∨ ∃ e t, r = .error e t ∧ ¬ bad e := by
  cases r with
  | ok a t => simp [Fails]
  | error e t => simp [Fails]

/-! ## How a program ends -/

/-- What `x` returns, started in `s`, satisfies `Q`, and what it throws satisfies `E`. -/
def Ends (x : EStateM ε σ α) (s : σ) (Q : α → σ → Prop) (E : ε → σ → Prop) : Prop :=
  match x s with
  | .ok a s' => Q a s'
  | .error e s' => E e s'

variable {x : EStateM ε σ α} {s : σ} {Q : α → σ → Prop} {E : ε → σ → Prop}

theorem ends_pure {a : α} (h : Q a s) : Ends (pure a) s Q E := h

theorem ends_throw {e : ε} (h : E e s) : Ends (throw e) s Q E := h

theorem ends_get {Q : σ → σ → Prop} (h : Q s s) : Ends get s Q E := h

theorem ends_ofExcept {r : Except ε α} (hok : ∀ a, r = .ok a → Q a s)
    (herror : ∀ e, r = .error e → E e s) : Ends (ofExcept r) s Q E := by
  cases r with
  | ok a => exact hok a rfl
  | error e => exact herror e rfl

/-- A sequence: its second part from what the first returns. -/
theorem ends_bind {f : α → EStateM ε σ β} {Q : β → σ → Prop}
    (h : Ends x s (fun a s' => Ends (f a) s' Q E) E) : Ends (x >>= f) s Q E := by
  change Ends (EStateM.bind x f) s Q E
  unfold Ends EStateM.bind at *
  cases hx : x s with
  | ok a s' =>
      rw [hx] at h
      exact h
  | error e s' =>
      rw [hx] at h
      exact h

/-- A program that catches goes on from every outcome. -/
theorem ends_catching {Q : Except ε α → σ → Prop} {E : ε' → σ → Prop}
    (h : Ends x s (fun a s' => Q (.ok a) s') fun e s' => Q (.error e) s') :
    Ends (catching x) s Q E := by
  unfold Ends catching attempt at *
  cases hx : x s with
  | ok a s' =>
      rw [hx] at h
      exact h
  | error e s' =>
      rw [hx] at h
      exact h

theorem Ends.mono {Q' : α → σ → Prop} {E' : ε → σ → Prop} (h : Ends x s Q E)
    (hok : ∀ a s', Q a s' → Q' a s') (herror : ∀ e s', E e s' → E' e s') : Ends x s Q' E' := by
  unfold Ends at *
  cases hx : x s with
  | ok a s' =>
      rw [hx] at h
      exact hok a s' h
  | error e s' =>
      rw [hx] at h
      exact herror e s' h

/-- The state that a program leaves, however it ends. -/
theorem Ends.attempt {P : σ → Prop} (h : Ends x s (fun _ s' => P s') fun _ s' => P s') :
    P (attempt x s).2 := by
  unfold Ends at h
  unfold Throw.attempt
  cases hx : x s with
  | ok a s' =>
      rw [hx] at h
      exact h
  | error e s' =>
      rw [hx] at h
      exact h

/-- However a program ends. -/
theorem Ends.of_forall (hok : ∀ a s', Q a s') (herror : ∀ e s', E e s') : Ends x s Q E := by
  unfold Ends
  cases x s with
  | ok a s' => exact hok a s'
  | error e s' => exact herror e s'

/-! ### What a program keeps -/

/-- Started where `I` holds, the program ends where `I` holds. -/
def Keeps (I : σ → Prop) (x : EStateM ε σ α) : Prop :=
  ∀ s, I s → Ends x s (fun _ t => I t) fun _ t => I t

section Keeps

variable {I : σ → Prop} {f : α → EStateM ε σ β}

theorem keeps_pure (a : α) : Keeps I (pure a : EStateM ε σ α) := fun _ hs => hs

theorem keeps_throw (e : ε) : Keeps I (throw e : EStateM ε σ α) := fun _ hs => hs

theorem keeps_modify {g : σ → σ} (h : ∀ s, I s → I (g s)) :
    Keeps I (modify g : EStateM ε σ PUnit) := fun s hs => h s hs

/-- What the parts of a sequence keep, the sequence keeps. -/
theorem keeps_bind (h : Keeps I x) (hf : ∀ a, Keeps I (f a)) : Keeps I (x >>= f) := by
  intro s hs
  apply ends_bind
  exact (h s hs).mono (fun a t ht => hf a t ht) fun _ _ ht => ht

/-- A program that looks at the state first. -/
theorem keeps_get_bind {f : σ → EStateM ε σ β} (hf : ∀ a, I a → Keeps I (f a)) :
    Keeps I (get >>= f) := by
  intro s hs
  exact ends_bind (x := get) (hf s hs s hs)

theorem Keeps.of_ok (h : Keeps I x) {s t : σ} (hs : I s) {a : α} (hx : x s = .ok a t) : I t := by
  have hends := h s hs
  unfold Ends at hends
  rwa [hx] at hends

theorem Keeps.of_error (h : Keeps I x) {s t : σ} (hs : I s) {e : ε} (hx : x s = .error e t) :
    I t := by
  have hends := h s hs
  unfold Ends at hends
  rwa [hx] at hends

theorem Keeps.attempt (h : Keeps I x) {s : σ} (hs : I s) : I (attempt x s).2 :=
  Ends.attempt (P := I) (h s hs)

end Keeps

/-- When all of the programs throw the same error and do nothing else, so does running them. -/
theorem runAll_eq_error {e : ε} {programs : List (EStateM ε σ α)}
    (h : ∀ x ∈ programs, ∀ s, x s = .error e s) (hne : programs ≠ []) (s : σ) :
    runAll programs s = .error e s := by
  induction programs with
  | nil => exact absurd rfl hne
  | cons x rest ih =>
      have hfirst : (catching x : EStateM ε σ _) s = .ok (.error e) s := by
        unfold catching attempt
        rw [h x List.mem_cons_self s]
      have hrest : ∃ outcome, (catching (runAll rest) : EStateM ε σ _) s = .ok outcome s := by
        unfold catching attempt
        cases rest with
        | nil => exact ⟨.ok [], rfl⟩
        | cons y rest =>
            rw [ih (fun z hz => h z (List.mem_cons_of_mem x hz)) (List.cons_ne_nil y rest)]
            exact ⟨.error e, rfl⟩
      obtain ⟨outcome, hrest⟩ := hrest
      unfold runAll
      rw [bind_of_ok hfirst, bind_of_ok hrest]
      rfl

/-- What every one of the programs keeps, running all of them keeps. -/
theorem Ends.runAll {P : σ → Prop} {programs : List (EStateM ε σ α)}
    (h : ∀ x ∈ programs, ∀ s, P s → Ends x s (fun _ t => P t) fun _ t => P t) {s : σ} (hs : P s) :
    Ends (runAll programs) s (fun _ t => P t) fun _ t => P t := by
  induction programs generalizing s with
  | nil => exact hs
  | cons x rest ih =>
      have hrest : ∀ t, P t → Ends (Throw.runAll rest) t (fun _ t => P t) fun _ t => P t :=
        fun t ht => ih (fun y hy => h y (List.mem_cons_of_mem _ hy)) ht
      apply ends_bind
      apply ends_catching
      refine (h x List.mem_cons_self s hs).mono (fun a t ht => ?_) fun e t ht => ?_
      · apply ends_bind
        apply ends_catching
        exact (hrest t ht).mono (fun _ _ ht' => ends_pure ht') fun _ _ ht' => ends_throw ht'
      · apply ends_bind
        apply ends_catching
        exact (hrest t ht).mono (fun _ _ ht' => ends_throw ht') fun _ _ ht' => ends_throw ht'

end Throw
