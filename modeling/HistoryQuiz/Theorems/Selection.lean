import HistoryQuiz.Base.SortedReads
import HistoryQuiz.Theorems.Serving

/-!
# Which candidate is picked

`pickDeterministically` picks a position in the list of candidates, and `ORDER BY created_at
DESC` leaves the order of questions with one `created_at` open. So a selection is reproducible
exactly when the candidate at the position shares its `created_at` with no other one
(`getQuestion_reproducible_iff`). The three seeded questions are inserted at one time
(`getQuestion_order_dependent`).
-/

namespace HistoryQuiz

open Relational Effect QuizUsecase

variable {io : UuidReaders}

instance : Std.Total newestFirst := ⟨fun a b => le_total b.createdAt a.createdAt⟩

instance : IsTrans QuestionRow newestFirst := ⟨fun _ _ _ hab hbc => le_trans hbc hab⟩

/-- The same state and the same arguments give the same question in any two runs that return one,
whatever fails in them and in whatever order the queries return their rows, and the same outcome
in any two runs in which no statement fails. -/
structure Reproducible (io : UuidReaders) (db : Db) (requestID previous : String) : Prop where
  question : ∀ τ₁ τ₂ q₁ q₂,
    ((getQuestion io requestID previous).run (DbOp.exec io) τ₁ db).1 = .ok q₁ →
    ((getQuestion io requestID previous).run (DbOp.exec io) τ₂ db).1 = .ok q₂ → q₁ = q₂
  outcome : ∀ τ₁ τ₂, QuietStmts τ₁ → QuietStmts τ₂ →
    ((getQuestion io requestID previous).run (DbOp.exec io) τ₁ db).1 =
      ((getQuestion io requestID previous).run (DbOp.exec io) τ₂ db).1

/-- The position that a request id picks among `n` candidates. -/
def pickPosition (requestID : String) (n : ℕ) : ℕ :=
  Sha256.ofBigEndian ((Sha256.sum256
    (utf8Bytes (if requestID = "" then "no-request-id" else requestID))).take 8) % n

/-- There is no candidate, or one has as many newer ones as the position that the request id
picks, and was created at a time of its own. -/
def PicksOne (requestID : String) (candidates : List QuestionRow) : Prop :=
  candidates = [] ∨ ∃ r ∈ candidates,
    (candidates.countP fun s => r.createdAt < s.createdAt) =
      pickPosition requestID candidates.length ∧
    ∀ s ∈ candidates, s.createdAt = r.createdAt → s = r

/-! ## The position -/

theorem pickDeterministically_map {α : Type} (requestID : String) (f : α → String) {l : List α}
    (h : l ≠ []) : ∃ a, l[pickPosition requestID l.length]? = some a ∧
      pickDeterministically requestID (l.map f) = f a := by
  have hlt : pickPosition requestID l.length < l.length :=
    Nat.mod_lt _ (List.length_pos_iff.mpr h)
  refine ⟨_, List.getElem?_eq_getElem hlt, ?_⟩
  unfold pickDeterministically
  rw [if_neg (by simpa using h)]
  dsimp only
  rw [List.length_map, List.getD_eq_getElem?_getD, List.getElem?_map]
  show ((l[pickPosition requestID l.length]?).map f).getD "" = _
  rw [List.getElem?_eq_getElem hlt]
  rfl

theorem countP_newer (t : List QuestionRow) (r : QuestionRow) :
    (t.countP fun s => ¬newestFirst r s) = t.countP fun s => r.createdAt < s.createdAt := by
  congr 1
  funext s
  simp [newestFirst]

theorem pinned_newestFirst {t : List QuestionRow} {i : ℕ} {r : QuestionRow} :
    Pinned newestFirst t i r ↔ r ∈ t ∧ (t.countP fun s => r.createdAt < s.createdAt) = i ∧
      ∀ s ∈ t, s.createdAt = r.createdAt → s = r := by
  constructor
  · intro h
    refine ⟨h.mem, countP_newer t r ▸ h.before, ?_⟩
    intro s hs heq
    exact h.alone s hs heq.le heq.ge
  · rintro ⟨hmem, hbefore, halone⟩
    refine ⟨hmem, (countP_newer t r).trans hbefore, ?_⟩
    intro s hs hrs hsr
    exact halone s hs (le_antisymm hrs hsr)

section Candidates

variable {db : Db} {previous : String}

/-- No question is a candidate twice. -/
theorem choosable_nodup (db : Db) (previous : String) : (db.choosable previous).Nodup :=
  (db.constraints.questionsPkey.filter _).of_map

/-- Two stored questions that are served alike are one. -/
theorem choosable_eq_of_id {r s : QuestionRow} (io : UuidReaders) (hr : r ∈ db.choosable previous)
    (hs : s ∈ db.choosable previous) (hid : r.id.text = s.id.text) : r = s :=
  db.constraints.questionsPkey.eq (mem_candidates.mp hr).1 (mem_candidates.mp hs).1
    (io.text_injective hid)

/-- What a run returns is the candidate at the position, in the order of one of its ticks. -/
theorem picked_getElem? {requestID : String} {scan : ℕ → ℕ} {r : QuestionRow} (io : UuidReaders)
    (hr : r ∈ db.choosable previous)
    (hid : r.id.text = pickDeterministically requestID
      ((orderBy newestFirst scan (db.choosable previous)).map fun q => q.id.text)) :
    (orderBy newestFirst scan (db.choosable previous))[pickPosition requestID
      (db.choosable previous).length]? = some r := by
  have hcons : orderBy newestFirst scan (db.choosable previous) ≠ [] := by
    rw [ne_eq, orderBy_eq_nil]
    exact List.ne_nil_of_mem hr
  obtain ⟨s, hs, hpick⟩ := pickDeterministically_map requestID (fun q : QuestionRow => q.id.text)
    hcons
  rw [length_orderBy] at hs
  have hmem : s ∈ db.choosable previous := (mem_orderBy ..).mp (List.mem_of_getElem? hs)
  rw [choosable_eq_of_id io hr hmem (hid.trans hpick)]
  exact hs

/-- A run in which nothing fails, with every query in the order of `scan`. -/
def scanning (scan : ℕ → ℕ) : ℕ → OpTick := fun n =>
  { calm 0 0 n with first := { calmTick 0 0 with scan } }

/-- Such a run serves the candidate at the position. -/
theorem run_scanning (io : UuidReaders) (hcons : db.choosable previous ≠ [])
    (hprevious : storable previous = true) (hvalid : previous = "" ∨ (io.parse previous).isSome)
    (requestID : String) (scan : ℕ → ℕ) :
    ∃ r ∈ db.choosable previous,
      (orderBy newestFirst scan (db.choosable previous))[pickPosition requestID
        (db.choosable previous).length]? = some r ∧
      ((getQuestion io requestID previous).run (DbOp.exec io) (scanning scan) db).1 =
        .ok (r.served db) := by
  -- every tick has the same order, so the last candidate query has it
  obtain ⟨-, ⟨t, ⟨-, hscan⟩, r, hr, hid, hx⟩ | ⟨hnil, -⟩⟩ := post_getQuestion_picked io db
    hprevious hvalid requestID (A := fun t => t.QuietStmt ∧ t.first.scan = scan)
    (fun _ ht => ht.1) (scanning scan) fun _ => ⟨rfl, rfl⟩
  · rw [hscan] at hid
    exact ⟨r, hr, picked_getElem? io hr hid, hx⟩
  · exact absurd hnil hcons

/-- What a run returns, whatever fails: the candidate at the position, in some order that the
query permits, or without candidates the default question. -/
theorem getQuestion_returned {requestID : String} {τ : ℕ → OpTick} {q : Question}
    (h : ((getQuestion io requestID previous).run (DbOp.exec io) τ db).1 = .ok q) :
    (∃ scan, ∃ r ∈ db.choosable previous,
      (orderBy newestFirst scan (db.choosable previous))[pickPosition requestID
        (db.choosable previous).length]? = some r ∧ q = r.served db) ∨
    db.choosable previous = [] ∧ selectDefaultQuestion requestID previous = .ok q := by
  obtain ⟨-, hserves⟩ := post_getQuestion io (fun _ => True) db requestID previous τ
    fun _ => trivial
  rw [h] at hserves
  cases hserves with
  | stored t ht r hr hid hx =>
      exact .inl ⟨t.first.scan, r, hr, picked_getElem? io hr hid, Except.ok.inj hx⟩
  | default hnone hx => exact .inr ⟨hnone, hx.symm⟩
  | refused hinvalid e hx => cases hx
  | failed hfail e hx => cases hx

/-- With a candidate of its own at the position, all runs return that one. -/
theorem PicksOne.served {requestID : String} (h : PicksOne requestID (db.choosable previous)) :
    ∃ q, ∀ τ q', ((getQuestion io requestID previous).run (DbOp.exec io) τ db).1 = .ok q' →
      q' = q := by
  rcases h with hnil | ⟨r, hr, hpinned⟩
  · obtain ⟨q, -, hdefault, -⟩ := selectDefaultQuestion_mem requestID previous
    refine ⟨q, fun τ q' hq' => ?_⟩
    rcases getQuestion_returned hq' with ⟨-, s, hs, -⟩ | ⟨-, hq'⟩
    · rw [hnil] at hs
      cases hs
    · exact Except.ok.inj (hq'.symm.trans hdefault)
  · refine ⟨r.served db, fun τ q' hq' => ?_⟩
    rcases getQuestion_returned hq' with ⟨scan, s, hs, hat, rfl⟩ | ⟨hnil, -⟩
    · rw [(pinned_newestFirst.mpr ⟨hr, hpinned⟩).getElem?_orderBy (choosable_nodup db previous),
        Option.some.injEq] at hat
      rw [hat]
    · rw [hnil] at hr
      cases hr

/-- A selection that is reproducible picks a candidate that was created at a time of its own. -/
theorem Reproducible.picksOne {requestID : String} (h : Reproducible io db requestID previous)
    (hprevious : storable previous = true) (hvalid : previous = "" ∨ (io.parse previous).isSome) :
    PicksOne requestID (db.choosable previous) := by
  by_cases hnil : db.choosable previous = []
  · exact .inl hnil
  have hlt : pickPosition requestID (db.choosable previous).length <
      (db.choosable previous).length := Nat.mod_lt _ (List.length_pos_iff.mpr hnil)
  -- all orders have one row at the position, since two rows are not served alike
  obtain ⟨r, hr⟩ := (orderBy_getElem?_const_iff (r := newestFirst) (choosable_nodup db previous)
    hlt).mp fun scan scan' => by
      obtain ⟨r, hr, hscan, hrun⟩ := run_scanning io hnil hprevious hvalid requestID scan
      obtain ⟨r', hr', hscan', hrun'⟩ := run_scanning io hnil hprevious hvalid requestID scan'
      have hsame := h.question _ _ _ _ hrun hrun'
      rw [hscan, hscan', choosable_eq_of_id io hr hr' (congrArg Question.id hsame)]
  exact .inr ⟨r, pinned_newestFirst.mp hr⟩

end Candidates

/-! ## All states -/

/-- For every state, request id and previous id: the selection is reproducible, whatever the
orders in which the candidate queries return their rows, exactly when the previous id is refused
or the candidate at the position of the request id was created at a time of its own. -/
theorem getQuestion_reproducible_iff (io : UuidReaders) (db : Db) (requestID previous : String) :
    Reproducible io db requestID previous ↔
      ((previous ≠ "" ∧ (io.parse previous).isNone) ∨ storable previous = false) ∨
        PicksOne requestID (db.choosable previous) := by
  by_cases hrefused : (previous ≠ "" ∧ (io.parse previous).isNone) ∨ storable previous = false
  · obtain ⟨e, he⟩ := run_getQuestion_refused io hrefused requestID
    refine iff_of_true ⟨?_, ?_⟩ (.inl hrefused)
    · intro τ₁ τ₂ q₁ q₂ hq₁
      rw [he] at hq₁
      cases hq₁
    · intro τ₁ τ₂ h₁ h₂
      rw [he, he, h₁ 0, h₂ 0]
  · obtain ⟨hvalid, hprevious⟩ := not_or.mp hrefused
    have hvalid : previous = "" ∨ (io.parse previous).isSome := by
      by_cases hempty : previous = ""
      · exact .inl hempty
      · exact .inr (Option.isSome_iff_ne_none.mpr fun hnone =>
          hvalid ⟨hempty, Option.isNone_iff_eq_none.mpr hnone⟩)
    have hprevious : storable previous = true := by simpa using hprevious
    constructor
    · intro h
      exact .inr (h.picksOne hprevious hvalid)
    · intro h
      obtain ⟨q, hq⟩ : ∃ q, ∀ τ q', ((getQuestion io requestID previous).run (DbOp.exec io) τ
          db).1 = .ok q' → q' = q := (h.resolve_left hrefused).served
      refine ⟨fun τ₁ τ₂ q₁ q₂ h₁ h₂ => (hq τ₁ q₁ h₁).trans (hq τ₂ q₂ h₂).symm, ?_⟩
      -- without a failure a question is returned
      have hreturns : ∀ τ, QuietStmts τ →
          ((getQuestion io requestID previous).run (DbOp.exec io) τ db).1 = .ok q := by
        intro τ hquiet
        have hok : ∃ q', ((getQuestion io requestID previous).run (DbOp.exec io) τ db).1 =
            .ok q' := by
          obtain ⟨-, ⟨t, -, r, -, -, hx⟩ | ⟨-, hx⟩⟩ := post_getQuestion_picked io db hprevious
            hvalid requestID (fun _ h => h) τ hquiet
          · exact ⟨_, hx⟩
          · obtain ⟨default, -, hdefault, -⟩ := selectDefaultQuestion_mem requestID previous
            exact ⟨default, hx.trans hdefault⟩
        obtain ⟨q', hq'⟩ := hok
        rw [hq', hq τ q' hq']
      intro τ₁ τ₂ h₁ h₂
      rw [hreturns τ₁ h₁, hreturns τ₂ h₂]

/-- The seeded questions are scanned in two orders, and the same request gets two questions. -/
theorem getQuestion_order_dependent :
    Reachable documentedReaders (seeded 0) ∧
    ((getQuestion documentedReaders "request" "").run (DbOp.exec documentedReaders)
      (scanning id) (seeded 0)).1.map Question.id = .ok (Uuid.text 0x3) ∧
    ((getQuestion documentedReaders "request" "").run (DbOp.exec documentedReaders)
      (scanning fun i => (i + 1) % 3) (seeded 0)).1.map Question.id = .ok (Uuid.text 0x2) ∧
    ¬Reproducible documentedReaders (seeded 0) "request" "" := by
  have hfirst : ((getQuestion documentedReaders "request" "").run (DbOp.exec documentedReaders)
      (scanning id) (seeded 0)).1.map Question.id = .ok (Uuid.text 0x3) := by decide +kernel
  have hsecond : ((getQuestion documentedReaders "request" "").run (DbOp.exec documentedReaders)
      (scanning fun i => (i + 1) % 3) (seeded 0)).1.map Question.id = .ok (Uuid.text 0x2) := by
    decide +kernel
  refine ⟨⟨0, .refl⟩, hfirst, hsecond, ?_⟩
  intro h
  rw [h.outcome (scanning id) (scanning fun i => (i + 1) % 3) (fun _ => rfl) fun _ => rfl,
    hsecond] at hfirst
  have hid : (0x2 : Uuid) = 0x3 := documentedReaders.text_injective (Except.ok.inj hfirst)
  exact absurd hid (by decide)

end HistoryQuiz
