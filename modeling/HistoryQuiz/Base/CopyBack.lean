import Mathlib.Data.List.Nodup
import Mathlib.Logic.Function.Basic
import Mathlib.Logic.Relation

/-!
# Values that are copied and written back

A value that nobody locks. A request is sent with a copy of it, and when its answer
arrives, the answer may replace the whole value by what the request has made of its copy.
Two requests that are in flight together can lose an update: the second answer replaces
what the first has written.

`ExclusiveRun.serial`: as long as no two requests that write are in flight together, every run is
equal to one in which the requests are served one after the other, each from the value
that it has a copy of.
-/

namespace CopyBack

universe u v

variable {ι : Type u} {σ : Type v}

/-- Where a request is. -/
inductive Phase (σ : Type v) where
  | waiting
  | sent (copy : σ)
  | answered (copy : σ)

/-- The copy that a request was sent with. -/
def Phase.copy : Phase σ → Option σ
  | waiting => none
  | sent c => some c
  | answered c => some c

/-- The value, and where each request is. -/
structure State (ι : Type u) (σ : Type v) where
  value : σ
  phase : ι → Phase σ

namespace State

def start (v : σ) : State ι σ := ⟨v, fun _ => .waiting⟩

/-- Nothing is in flight. -/
def Settled (s : State ι σ) : Prop := ∀ i c, s.phase i ≠ .sent c

end State

/-- `write i c` is what the answer to the request `i` replaces the value by, if anything,
when `c` is the copy that the request was sent with. -/
abbrev Write (ι : Type u) (σ : Type v) := ι → σ → Option σ

variable (write : Write ι σ)

/-- The value after the request `i`, served at once. -/
def serve (v : σ) (i : ι) : σ := (write i v).getD v

/-- The value after requests that are served one after the other. -/
def serial (v : σ) (order : List ι) : σ := order.foldl (serve write) v

@[simp] theorem serial_append_singleton (v : σ) (order : List ι) (i : ι) :
    serial write v (order ++ [i]) = serve write (serial write v order) i := by
  unfold serial
  rw [List.foldl_append]
  rfl

/-! ## The serial order -/

/-- The order in which the requests of a run could have been served: one that does not
write when it is sent, one that writes when its answer arrives. -/
structure Serial (v : σ) (s : State ι σ) (order : List ι) : Prop where
  nodup : order.Nodup
  mem : ∀ i, i ∈ order ↔
    (∃ c, s.phase i = .answered c) ∨ ∃ c, s.phase i = .sent c ∧ write i c = none
  value : serial write v order = s.value
  /-- Each request has the copy that it would find. -/
  copies : ∀ earlier i later, order = earlier ++ i :: later →
    (s.phase i).copy = some (serial write v earlier)
  /-- A request that will write has a copy of the current value. -/
  current : ∀ i c, s.phase i = .sent c → (write i c).isSome → c = s.value

variable {write} in
theorem Serial.start (v : σ) : Serial write v (State.start (ι := ι) v) [] where
  nodup := List.nodup_nil
  mem i := by simp [State.start]
  value := rfl
  copies earlier i later h := by simp at h
  current i c h := by cases h

variable {write} in
/-- A new request can be added to the order. -/
theorem Serial.nodup_append {v : σ} {s : State ι σ} {order : List ι} (h : Serial write v s order)
    {i : ι} (hi : i ∉ order) : (order ++ [i]).Nodup := by
  rw [← List.concat_eq_append]
  exact h.nodup.concat hi

/-! ## Runs -/

section Runs

variable [DecidableEq ι]

/-- A request is sent, or its answer arrives. -/
inductive Step (s : State ι σ) : State ι σ → Prop
  | send (i : ι) (h : s.phase i = .waiting) :
      Step s { s with phase := Function.update s.phase i (.sent s.value) }
  | arrive (i : ι) (c : σ) (h : s.phase i = .sent c) :
      Step s ⟨(write i c).getD s.value, Function.update s.phase i (.answered c)⟩

/-- Requests in any order of sends and arrivals. -/
abbrev Run : State ι σ → State ι σ → Prop := Relation.ReflTransGen (Step write)

/-- No two requests that write are in flight together. -/
def State.Exclusive (s : State ι σ) : Prop :=
  ∀ i c j d, s.phase i = .sent c → s.phase j = .sent d →
    (write i c).isSome → (write j d).isSome → i = j

/-- A run in which this is so all the time. -/
abbrev ExclusiveRun : State ι σ → State ι σ → Prop :=
  Relation.ReflTransGen fun s s' => Step write s s' ∧ s'.Exclusive write

/-! ## Every run has a serial order -/

variable {write} {v : σ} {s s' : State ι σ} {order : List ι}

/-- Who is in flight once `i` has been sent. -/
theorem update_eq_sent {phase : ι → Phase σ} {i j : ι} {c d : σ}
    (h : Function.update phase i (.sent c) j = .sent d) :
    (j = i ∧ d = c) ∨ phase j = .sent d := by
  by_cases hji : j = i
  · subst hji
    rw [Function.update_self, Phase.sent.injEq] at h
    exact .inl ⟨rfl, h.symm⟩
  · rw [Function.update_of_ne hji] at h
    exact .inr h

/-- Who is in flight once the answer to `i` has arrived. -/
theorem update_answered_eq_sent {phase : ι → Phase σ} {i j : ι} {c d : σ}
    (h : Function.update phase i (.answered c) j = .sent d) : j ≠ i ∧ phase j = .sent d := by
  by_cases hji : j = i
  · subst hji
    rw [Function.update_self] at h
    cases h
  · rw [Function.update_of_ne hji] at h
    exact ⟨hji, h⟩

/-- The requests of the order keep their copies when another is moved. -/
theorem Serial.copies_update (h : Serial write v s order) {i : ι} (hi : i ∉ order) (p : Phase σ)
    {earlier later : List ι} {j : ι} (hj : order = earlier ++ j :: later) :
    (Function.update s.phase i p j).copy = some (serial write v earlier) := by
  have hne : j ≠ i := by
    rintro rfl
    exact hi (by simp [hj])
  rw [Function.update_of_ne hne]
  exact h.copies earlier j later hj

/-- A request that is served last has the copy of the value before. -/
theorem Serial.copies_append (h : Serial write v s order) {i : ι} (hi : i ∉ order) {p : Phase σ}
    (hp : p.copy = some (serial write v order)) {earlier later : List ι} {j : ι}
    (hj : order ++ [i] = earlier ++ j :: later) :
    (Function.update s.phase i p j).copy = some (serial write v earlier) := by
  rcases List.eq_nil_or_concat later with rfl | ⟨later', k, rfl⟩
  · obtain ⟨rfl, hji⟩ := List.append_inj' hj rfl
    obtain rfl : i = j := List.singleton_inj.mp hji
    rw [Function.update_self]
    exact hp
  · have hsplit : order ++ [i] = (earlier ++ j :: later') ++ [k] := by
      rw [hj]
      simp
    exact h.copies_update hi p (List.append_inj' hsplit rfl).1

/-- A request that does not write is served when it is sent; one that writes waits. -/
theorem Serial.send (h : Serial write v s order) {i : ι} (hi : s.phase i = .waiting) :
    ∃ order', Serial write v { s with phase := Function.update s.phase i (.sent s.value) }
      order' := by
  have hnot : i ∉ order := by
    rw [h.mem i, hi]
    simp
  have hcurrent : ∀ j c, Function.update s.phase i (.sent s.value) j = .sent c →
      (write j c).isSome → c = s.value := by
    intro j c hj hsome
    rcases update_eq_sent hj with ⟨-, rfl⟩ | hj
    · rfl
    · exact h.current j c hj hsome
  cases hwrite : write i s.value with
  | none =>
      -- it has its place in the order at once, since it changes nothing
      refine ⟨order ++ [i], h.nodup_append hnot, ?_, ?_, ?_, hcurrent⟩
      · intro j
        by_cases hji : j = i
        · subst hji
          simp [hwrite]
        · simp [hji, h.mem j]
      · show serial write v (order ++ [i]) = s.value
        rw [serial_append_singleton, h.value, serve, hwrite]
        rfl
      · intro earlier j later hj
        have hcopy : (Phase.sent s.value).copy = some (serial write v order) :=
          congrArg some h.value.symm
        exact h.copies_append hnot hcopy hj
  | some w =>
      -- it has no place before its answer arrives
      refine ⟨order, h.nodup, ?_, h.value, ?_, hcurrent⟩
      · intro j
        by_cases hji : j = i
        · subst hji
          simp [hwrite, hnot]
        · simp [hji, h.mem j]
      · intro earlier j later hj
        exact h.copies_update hnot _ hj

/-- A request that writes is served when its answer arrives. -/
theorem Serial.arrive (h : Serial write v s order) (hexclusive : s.Exclusive write) {i : ι} {c : σ}
    (hi : s.phase i = .sent c) :
    ∃ order', Serial write v ⟨(write i c).getD s.value, Function.update s.phase i (.answered c)⟩
      order' := by
  cases hwrite : write i c with
  | none =>
      refine ⟨order, h.nodup, ?_, h.value, ?_, ?_⟩
      · intro j
        by_cases hji : j = i
        · subst hji
          have hmem : j ∈ order := (h.mem j).mpr (.inr ⟨c, hi, hwrite⟩)
          simp [hmem]
        · simp [hji, h.mem j]
      · intro earlier j later hj
        have hcopy := h.copies earlier j later hj
        show (Function.update s.phase i _ j).copy = _
        by_cases hji : j = i
        · subst hji
          rw [hi] at hcopy
          rw [Function.update_self]
          exact hcopy
        · rw [Function.update_of_ne hji]
          exact hcopy
      · intro j d hj hsome
        exact h.current j d (update_answered_eq_sent hj).2 hsome
  | some w =>
      -- nothing was written since it was sent, so its copy is the value before it
      have hsome : (write i c).isSome := by rw [hwrite]; rfl
      have hcurrent : c = s.value := h.current i c hi hsome
      have hnot : i ∉ order := by
        rw [h.mem i, hi]
        simp [hwrite]
      refine ⟨order ++ [i], h.nodup_append hnot, ?_, ?_, ?_, ?_⟩
      · intro j
        by_cases hji : j = i
        · subst hji
          simp
        · simp [hji, h.mem j]
      · show serial write v (order ++ [i]) = w
        rw [serial_append_singleton, h.value, ← hcurrent, serve, hwrite]
        rfl
      · intro earlier j later hj
        have hcopy : (Phase.answered c).copy = some (serial write v order) :=
          congrArg some (hcurrent.trans h.value.symm)
        exact h.copies_append hnot hcopy hj
      · -- no other request that writes was in flight
        intro j d hj hsome'
        obtain ⟨hji, hj⟩ := update_answered_eq_sent hj
        exact absurd (hexclusive j d i c hj hi hsome' hsome) hji

/-- A run in which no two requests that write are in flight together has a serial order. -/
theorem ExclusiveRun.serial (hrun : ExclusiveRun write (State.start v) s) :
    s.Exclusive write ∧ ∃ order, Serial write v s order := by
  induction hrun with
  | refl =>
      refine ⟨?_, [], Serial.start v⟩
      intro i c j d hi
      cases hi
  | tail _ hstep ih =>
      obtain ⟨hexclusive, order, horder⟩ := ih
      obtain ⟨hmove, hafter⟩ := hstep
      refine ⟨hafter, ?_⟩
      cases hmove with
      | send i hi => exact horder.send hi
      | arrive i c hi => exact horder.arrive hexclusive hi

end Runs

end CopyBack
