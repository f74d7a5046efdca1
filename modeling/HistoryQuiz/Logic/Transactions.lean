import HistoryQuiz.Backend.Repository

/-!
# What the two write transactions do

`CreateQuestion` and `UpdateQuestion` run a loop of insertions inside a
transaction. This module says once what each of them can do:

* `insertChoices_ok`, `insertChoices_total`: the loop adds exactly the rows
  `choiceRows`, and it completes when nothing stands in its way;
* `withTx_ok`, `withTx_error`: a transaction takes effect as a whole or not at
  all;
* `createQuestionTx_ok`, `updateQuestionTx_ok`: the tables after a commit, as the
  table functions `Tables.withQuestion` and `Tables.rewritten`;
* `updateQuestionTx_total`: when an update commits.
-/

namespace HistoryQuiz

open Relational Effect QuestionRepository

/-! ## The rows of the loop -/

/-- The rows that the insertion loop adds from ordinal `i` on: each takes the id
its own statement drew. -/
def choiceRows (q : Uuid) : ℕ → List String → (ℕ → Tick) → List ChoiceRow
  | _, [], _ => []
  | i, label :: labels, τ =>
      { id := (τ 0).uuid.value, questionId := q, label := label, ordinal := i } ::
        choiceRows q (i + 1) labels (later τ 1)

/-- The id that the loop has chosen as the correct one after the rows. -/
def pickCorrect (correctOrdinal : ℤ) : List ChoiceRow → String → String
  | [], picked => picked
  | r :: rows, picked =>
      pickCorrect correctOrdinal rows (if r.ordinal = correctOrdinal then r.id.text else picked)

@[simp] theorem length_choiceRows (q : Uuid) (i : ℕ) (labels : List String) (τ : ℕ → Tick) :
    (choiceRows q i labels τ).length = labels.length := by
  induction labels generalizing i τ with
  | nil => rfl
  | cons label labels ih => simp [choiceRows, ih]

@[simp] theorem map_label_choiceRows (q : Uuid) (i : ℕ) (labels : List String) (τ : ℕ → Tick) :
    (choiceRows q i labels τ).map ChoiceRow.label = labels := by
  induction labels generalizing i τ with
  | nil => rfl
  | cons label labels ih => simp [choiceRows, ih]

@[simp] theorem map_ordinal_choiceRows (q : Uuid) (i : ℕ) (labels : List String) (τ : ℕ → Tick) :
    (choiceRows q i labels τ).map ChoiceRow.ordinal =
      (List.range' i labels.length).map fun n : ℕ => (n : ℤ) := by
  induction labels generalizing i τ with
  | nil => rfl
  | cons label labels ih => simp [choiceRows, ih, List.range'_succ]

@[simp] theorem map_id_choiceRows (q : Uuid) (i : ℕ) (labels : List String) (τ : ℕ → Tick) :
    (choiceRows q i labels τ).map ChoiceRow.id =
      (List.range labels.length).map fun n => (τ n).uuid.value := by
  induction labels generalizing i τ with
  | nil => rfl
  | cons label labels ih =>
      simp [choiceRows, ih, List.range_succ_eq_map, later, Function.comp_def]

theorem questionId_of_mem_choiceRows {q : Uuid} {i : ℕ} {labels : List String} {τ : ℕ → Tick}
    {r : ChoiceRow} (hr : r ∈ choiceRows q i labels τ) : r.questionId = q := by
  induction labels generalizing i τ with
  | nil => simp [choiceRows] at hr
  | cons label labels ih =>
      rcases List.mem_cons.mp hr with rfl | hr
      · rfl
      · exact ih hr

theorem id_of_mem_choiceRows {q : Uuid} {i : ℕ} {labels : List String} {τ : ℕ → Tick}
    {r : ChoiceRow} (hr : r ∈ choiceRows q i labels τ) : ∃ n, r.id = (τ n).uuid.value := by
  induction labels generalizing i τ with
  | nil => simp [choiceRows] at hr
  | cons label labels ih =>
      rcases List.mem_cons.mp hr with rfl | hr
      · exact ⟨0, rfl⟩
      · obtain ⟨n, hn⟩ := ih hr
        exact ⟨n + 1, hn⟩

/-- An id was picked before the rows or belongs to a row with the correct ordinal. -/
theorem pickCorrect_cases (o : ℤ) (rows : List ChoiceRow) (picked : String) :
    pickCorrect o rows picked = picked ∨
      ∃ r ∈ rows, r.ordinal = o ∧ pickCorrect o rows picked = r.id.text := by
  induction rows generalizing picked with
  | nil => exact .inl rfl
  | cons r rows ih =>
      rw [pickCorrect]
      rcases ih (if r.ordinal = o then r.id.text else picked) with h | ⟨s, hs, hord, h⟩
      · by_cases hr : r.ordinal = o
        · exact .inr ⟨r, List.mem_cons_self, hr, by rw [h, if_pos hr]⟩
        · exact .inl (by rw [h, if_neg hr])
      · exact .inr ⟨s, List.mem_cons_of_mem _ hs, hord, h⟩

/-- The row with the correct ordinal is picked when no other has its ordinal. -/
theorem pickCorrect_eq {o : ℤ} {rows : List ChoiceRow} {r : ChoiceRow} (hr : r ∈ rows)
    (hord : r.ordinal = o) (honly : ∀ s ∈ rows, s.ordinal = o → s = r) (picked : String) :
    pickCorrect o rows picked = r.id.text := by
  induction rows generalizing picked with
  | nil => simp at hr
  | cons s rows ih =>
      rw [pickCorrect]
      by_cases hlater : r ∈ rows
      · exact ih hlater (fun s hs => honly s (List.mem_cons_of_mem _ hs)) _
      · have hs : s = r := by
          rcases List.mem_cons.mp hr with h | h
          · exact h.symm
          · exact absurd h hlater
        subst hs
        rw [if_pos hord]
        rcases pickCorrect_cases o rows s.id.text with h | ⟨u, hu, huord, h⟩
        · exact h
        · rw [h, honly u (List.mem_cons_of_mem _ hu) huord]

/-! ## The loop -/

variable {io : UuidReaders}

theorem Tick.guard_eq_ok {α σ : Type} {t : Tick} {s s' : σ} {result : Except SqlError α × σ}
    {a : α} : t.guard s result = (.ok a, s') ↔ t.fault = false ∧ result = (.ok a, s') := by
  unfold Tick.guard
  cases t.fault <;> simp

theorem Tick.guard_quiet {α σ : Type} {t : Tick} (ht : t.fault = false) (s : σ)
    (result : Except SqlError α × σ) : t.guard s result = result := by
  simp [Tick.guard, ht]

theorem txInsertChoice_eq_ok {s s' : TxState} {questionID label id : String} {ordinal : ℤ}
    {t : Tick} {q : Uuid} (hq : io.cast questionID = some q) :
    txInsertChoice io s questionID label ordinal t = (.ok id, s') ↔
      storable label = true ∧ id = t.uuid.value.text ∧ ∃ db',
        s.db.insertChoice
          { id := t.uuid.value, questionId := q, label := label, ordinal := ordinal } = .ok db' ∧
        s' = { s with db := db', pending := s.pending ++ [q] } := by
  unfold txInsertChoice
  by_cases hlabel : storable label = true
  · simp only [hlabel, if_true, hq, true_and]
    cases s.db.insertChoice
        { id := t.uuid.value, questionId := q, label := label, ordinal := ordinal } with
    | ok db' => simp [eq_comm]
    | error e => simp
  · simp [hlabel]

/-- What the loop does when it completes. -/
theorem insertChoices_ok {questionID : String} {q : Uuid} (hq : io.cast questionID = some q)
    {o : ℤ} {i : ℕ} {labels : List String} {choices : List Choice} {picked : String}
    {τ : ℕ → Tick} {s s' : TxState} {r : List Choice × String}
    (h : (insertChoices questionID o i labels choices picked).run (TxStmt.exec io) τ s =
      (.ok r, s')) :
    r = (choices ++ (choiceRows q i labels τ).map ChoiceRow.toChoice,
        pickCorrect o (choiceRows q i labels τ) picked) ∧
      s'.db.toTables =
        { s.db.toTables with choices := s.db.choices ++ choiceRows q i labels τ } ∧
      s'.now = s.now ∧ s'.pending = s.pending ++ List.replicate labels.length q := by
  induction labels generalizing i choices picked τ s with
  | nil =>
      rw [insertChoices, Prog.run_ret, Prod.mk.injEq, Except.ok.injEq] at h
      obtain ⟨rfl, rfl⟩ := h
      simp [choiceRows, pickCorrect]
  | cons label labels ih =>
      simp only [insertChoices, txQuery, Prog.bind_eq, Prog.call_bind, Prog.ret_bind,
        Prog.run_call] at h
      cases hstep : TxStmt.exec io (.insertChoice questionID label i) (τ 0) s with
      | mk answer s₁ =>
          rw [hstep] at h
          cases answer with
          | error e => simp at h
          | ok choiceID =>
              obtain ⟨-, hins⟩ := Tick.guard_eq_ok.mp hstep
              obtain ⟨-, rfl, db', hdb, rfl⟩ := (txInsertChoice_eq_ok hq).mp hins
              obtain ⟨-, -, -, -, htables⟩ := Db.insertChoice_eq_ok.mp hdb
              obtain ⟨hr, hs', hnow, hpending⟩ := ih h
              simp only [htables, Tables.addChoice] at hs' hpending
              refine ⟨?_, ?_, hnow, ?_⟩
              · rw [hr]
                simp [choiceRows, pickCorrect, ChoiceRow.toChoice]
              · rw [hs']
                simp [choiceRows]
              · rw [hpending]
                simp [List.replicate_succ]

/-- The loop completes when its labels can be stored, its question exists and its
rows fit into the table. -/
theorem insertChoices_total {questionID : String} {q : Uuid} (hq : io.cast questionID = some q)
    (o : ℤ) {i : ℕ} {labels : List String} (choices : List Choice) (picked : String)
    {τ : ℕ → Tick} {s : TxState} (hquiet : ∀ n, (τ n).fault = false)
    (hlabels : ∀ label ∈ labels, storable label = true)
    (hquestion : q ∈ s.db.questions.map QuestionRow.id) (hlen : i + labels.length ≤ 4)
    (hids : Relational.Unique ChoiceRow.id (s.db.choices ++ choiceRows q i labels τ))
    (hplaces : Relational.Unique ChoiceRow.questionOrdinal
      (s.db.choices ++ choiceRows q i labels τ)) :
    ∃ r s', (insertChoices questionID o i labels choices picked).run (TxStmt.exec io) τ s =
      (.ok r, s') := by
  induction labels generalizing i choices picked τ s with
  | nil => exact ⟨_, _, rfl⟩
  | cons label labels ih =>
      simp only [insertChoices, txQuery, Prog.bind_eq, Prog.call_bind, Prog.ret_bind,
        Prog.run_call]
      -- the first row fits
      obtain ⟨db', hdb⟩ : ∃ db', s.db.insertChoice
          { id := (τ 0).uuid.value, questionId := q, label := label, ordinal := i } = .ok db' := by
        rw [List.length_cons] at hlen
        exact Db.insertChoice_ok ⟨by simp, by simp; omega⟩
          (hids.not_mem_of_append List.mem_cons_self)
          (hplaces.not_mem_of_append List.mem_cons_self) hquestion
      have hstep : TxStmt.exec io (.insertChoice questionID label i) (τ 0) s =
          (.ok (τ 0).uuid.value.text, { s with db := db', pending := s.pending ++ [q] }) :=
        Tick.guard_eq_ok.mpr ⟨hquiet 0, (txInsertChoice_eq_ok hq).mpr
          ⟨hlabels label List.mem_cons_self, rfl, db', hdb, rfl⟩⟩
      rw [hstep]
      obtain ⟨-, -, -, -, htables⟩ := Db.insertChoice_eq_ok.mp hdb
      refine ih _ _ (fun n => hquiet (n + 1))
        (fun label h => hlabels label (List.mem_cons_of_mem _ h)) ?_ ?_ ?_ ?_
      · rw [htables]
        exact hquestion
      · rw [List.length_cons] at hlen
        omega
      · rw [htables]
        simpa [Tables.addChoice, choiceRows] using hids
      · rw [htables]
        simpa [Tables.addChoice, choiceRows] using hplaces

/-! ## The loop and the answer key -/

theorem txUpsertAnswerKey_eq_ok {s s' : TxState} {questionID : String} {q : Uuid}
    (hq : io.cast questionID = some q) {c : Uuid} :
    txUpsertAnswerKey io s questionID c.text = (.ok (), s') ↔
      ∃ db', s.db.upsertAnswerKey ⟨q, c⟩ = .ok db' ∧ s' = { s with db := db' } := by
  unfold txUpsertAnswerKey
  rw [hq, io.cast_text]
  dsimp only
  cases s.db.upsertAnswerKey ⟨q, c⟩ with
  | ok db' => simp [eq_comm]
  | error e => simp

/-- What `insertChoicesAndAnswerKey` does when it completes. -/
theorem insertChoicesAndAnswerKey_ok {questionID : String} {q : Uuid}
    (hq : io.cast questionID = some q) {draft : QuestionDraft} {τ : ℕ → Tick} {s s' : TxState}
    {r : List Choice × String}
    (h : (insertChoicesAndAnswerKey questionID draft).run (TxStmt.exec io) τ s = (.ok r, s')) :
    ∃ c ∈ choiceRows q 0 draft.choices τ, c.ordinal = draft.correctOrdinal ∧
      r = ((choiceRows q 0 draft.choices τ).map ChoiceRow.toChoice, c.id.text) ∧
      s'.db.toTables = Tables.putAnswerKey { s.db.toTables with
        choices := s.db.choices ++ choiceRows q 0 draft.choices τ } ⟨q, c.id⟩ ∧
      s'.now = s.now ∧ s'.pending = s.pending ++ List.replicate draft.choices.length q := by
  obtain ⟨⟨choices, picked⟩, s₁, hloop, hkey⟩ := Prog.run_bind_eq_ok.mp h
  obtain ⟨hr, htables, hnow, hpending⟩ := insertChoices_ok hq hloop
  simp only [List.nil_append, Prod.mk.injEq] at hr
  obtain ⟨rfl, hpicked⟩ := hr
  dsimp only at hkey
  by_cases hempty : picked = ""
  · simp [hempty] at hkey
  · rw [if_neg hempty] at hkey
    rcases pickCorrect_cases draft.correctOrdinal (choiceRows q 0 draft.choices τ) "" with
      hnone | ⟨c, hc, hord, hid⟩
    · exact absurd (hpicked.trans hnone) hempty
    · obtain rfl : picked = c.id.text := hpicked.trans hid
      obtain ⟨answer, s₂, hup, hret⟩ := Prog.run_bind_eq_ok.mp hkey
      rw [txQuery, Prog.run_call, Prog.run_ret, Prod.mk.injEq, Except.ok.injEq] at hup
      obtain ⟨hanswer, hs₂⟩ := hup
      cases answer with
      | error e => simp at hret
      | ok u =>
          simp only [Prog.pure_eq, Prog.run_ret, Prod.mk.injEq, Except.ok.injEq] at hret
          obtain ⟨rfl, rfl⟩ := hret
          obtain ⟨-, hput⟩ := Tick.guard_eq_ok.mp (Prod.ext hanswer hs₂)
          obtain ⟨db', hdb, rfl⟩ := (txUpsertAnswerKey_eq_ok hq).mp hput
          obtain ⟨-, -, hdb'⟩ := Db.upsertAnswerKey_eq_ok.mp hdb
          refine ⟨c, hc, hord, rfl, ?_, hnow, hpending⟩
          rw [hdb', htables]

/-- When `insertChoicesAndAnswerKey` completes. -/
theorem insertChoicesAndAnswerKey_total {questionID : String} {q : Uuid}
    (hq : io.cast questionID = some q) {draft : QuestionDraft} {τ : ℕ → Tick} {s : TxState}
    (hquiet : ∀ n, (τ n).fault = false)
    (hlabels : ∀ label ∈ draft.choices, storable label = true)
    (hquestion : q ∈ s.db.questions.map QuestionRow.id) (hlen : draft.choices.length = 4)
    (hcorrect : 0 ≤ draft.correctOrdinal ∧ draft.correctOrdinal ≤ 3)
    (hids : Relational.Unique ChoiceRow.id (s.db.choices ++ choiceRows q 0 draft.choices τ))
    (hplaces : Relational.Unique ChoiceRow.questionOrdinal
      (s.db.choices ++ choiceRows q 0 draft.choices τ)) :
    ∃ r s', (insertChoicesAndAnswerKey questionID draft).run (TxStmt.exec io) τ s =
      (.ok r, s') := by
  obtain ⟨⟨choices, picked⟩, s₁, hloop⟩ := insertChoices_total hq draft.correctOrdinal [] ""
    hquiet hlabels hquestion (by omega) hids hplaces
  obtain ⟨hr, htables, hnow, hpending⟩ := insertChoices_ok hq hloop
  -- the row with the correct ordinal
  obtain ⟨c, hc, hord⟩ : ∃ c ∈ choiceRows q 0 draft.choices τ,
      c.ordinal = draft.correctOrdinal := by
    have hmem : draft.correctOrdinal ∈ (choiceRows q 0 draft.choices τ).map ChoiceRow.ordinal := by
      rw [map_ordinal_choiceRows, hlen, List.mem_map]
      exact ⟨draft.correctOrdinal.toNat, by simp [List.mem_range']; omega, by omega⟩
    exact List.mem_map.mp hmem
  have honly : ∀ d ∈ choiceRows q 0 draft.choices τ, d.ordinal = draft.correctOrdinal → d = c := by
    intro d hd hdord
    refine hplaces.eq (List.mem_append_right _ hd) (List.mem_append_right _ hc) ?_
    rw [ChoiceRow.questionOrdinal, ChoiceRow.questionOrdinal, questionId_of_mem_choiceRows hd,
      questionId_of_mem_choiceRows hc, hdord, hord]
  have hpicked : picked = c.id.text :=
    (Prod.mk.inj hr).2.trans (pickCorrect_eq hc hord honly "")
  obtain ⟨db', hdb⟩ : ∃ db', s₁.db.upsertAnswerKey ⟨q, c.id⟩ = .ok db' := by
    refine Db.upsertAnswerKey_ok ?_ ?_
    · rw [htables]
      exact hquestion
    · rw [htables]
      refine List.mem_map.mpr ⟨c, List.mem_append_right _ hc, ?_⟩
      rw [ChoiceRow.idQuestion, AnswerKeyRow.choiceRef, questionId_of_mem_choiceRows hc]
  have hstep : ∀ t : Tick, t.fault = false →
      TxStmt.exec io (.upsertAnswerKey questionID c.id.text) t s₁ =
        (.ok (), { s₁ with db := db' }) := fun t ht =>
    Tick.guard_eq_ok.mpr ⟨ht, (txUpsertAnswerKey_eq_ok hq).mpr ⟨db', hdb, rfl⟩⟩
  unfold insertChoicesAndAnswerKey
  rw [Prog.bind_eq, Prog.run_bind_ok hloop, hpicked]
  dsimp only
  rw [if_neg c.id.text_ne_empty, txQuery, Prog.bind_eq, Prog.call_bind, Prog.run_call, hstep]
  · exact ⟨_, _, rfl⟩
  · exact hquiet _

/-! ## Transactions -/

theorem withTx_ok {α : Type} {body : Prog TxStmt GoError α} {t : OpTick} {db db' : Db} {a : α} :
    withTx io body t db = (.ok a, db') ↔
      t.first.fault = false ∧ t.commit.fault = false ∧ ∃ s,
        body.run (TxStmt.exec io) t.body { db := db, now := t.first.now, pending := [] } =
          (.ok a, s) ∧ s.fourChoices = true ∧ db' = s.db := by
  unfold withTx
  constructor
  · intro h
    by_cases hfirst : t.first.fault = true
    · simp [hfirst] at h
    · rw [if_neg hfirst] at h
      split at h
      · simp at h
      · rename_i b s hbody
        split_ifs at h with hcommit hfour
        · simp at h
        · rw [Prod.mk.injEq, Except.ok.injEq] at h
          obtain ⟨rfl, rfl⟩ := h
          exact ⟨by simpa using hfirst, by simpa using hcommit, s, hbody, hfour, rfl⟩
        · simp at h
  · rintro ⟨hfirst, hcommit, s, hbody, hfour, rfl⟩
    simp [hfirst, hcommit, hbody, hfour]

/-- A transaction that reports an error is rolled back. -/
theorem withTx_error {α : Type} {body : Prog TxStmt GoError α} {t : OpTick} {db db' : Db}
    {e : GoError} (h : withTx io body t db = (.error e, db')) : db' = db := by
  unfold withTx at h
  by_cases hfirst : t.first.fault = true
  · rw [if_pos hfirst] at h
    exact (Prod.mk.inj h).2.symm
  · rw [if_neg hfirst] at h
    split at h
    · exact (Prod.mk.inj h).2.symm
    · split_ifs at h
      · exact (Prod.mk.inj h).2.symm
      · simp at h
      · exact (Prod.mk.inj h).2.symm

/-! ## The tables after a commit -/

/-- The tables with a new question, its choices and its answer key. -/
def Tables.withQuestion (t : Tables) (row : QuestionRow) (rows : List ChoiceRow) (correct : Uuid) :
    Tables :=
  { t with
    questions := t.questions ++ [row]
    choices := t.choices ++ rows
    answerKeys := t.answerKeys ++ [⟨row.id, correct⟩] }

/-- The row of a question with the texts of a draft. -/
def QuestionRow.edited (r : QuestionRow) (draft : QuestionDraft) (now : Timestamp) : QuestionRow :=
  { r with
    prompt := draft.prompt
    explanation := nullIfEmpty draft.explanation
    updatedAt := now }

/-- The tables with the content of the question `q` replaced. -/
def Tables.rewritten (t : Tables) (q : Uuid) (draft : QuestionDraft) (now : Timestamp)
    (rows : List ChoiceRow) (correct : Uuid) : Tables :=
  { t with
    questions := t.questions.map fun r => if r.id = q then r.edited draft now else r
    choices := (t.choices.filter fun c => c.questionId ≠ q) ++ rows
    answerKeys := (t.answerKeys.filter fun k => k.questionId ≠ q) ++ [⟨q, correct⟩] }

/-- A key for a question that has none is appended. -/
theorem Tables.putAnswerKey_of_not_mem {t : Tables} {row : AnswerKeyRow}
    (h : row.questionId ∉ t.answerKeys.map AnswerKeyRow.questionId) :
    t.putAnswerKey row = { t with answerKeys := t.answerKeys ++ [row] } := by
  rw [Tables.putAnswerKey, if_neg h]

/-- A question with queued events has four choices when the commit succeeds. -/
theorem TxState.fourChoices_replicate {s : TxState} {pending : List Uuid} {n : ℕ} {q : Uuid}
    (hpending : s.pending = pending ++ List.replicate n q) (hn : 0 < n)
    (h : s.fourChoices = true) : (s.db.choicesOf q).length = 4 := by
  unfold TxState.fourChoices at h
  rw [hpending, List.all_append, Bool.and_eq_true, List.all_eq_true, List.all_eq_true] at h
  simpa using h.2 q (List.mem_replicate.mpr ⟨hn.ne', rfl⟩)

/-- The row that `CreateQuestion` inserts. -/
def createdRow (authorUserID : String) (draft : QuestionDraft) (t : OpTick) : QuestionRow where
  id := (t.body 0).uuid.value
  authorUserId := authorUserID
  prompt := draft.prompt
  explanation := nullIfEmpty draft.explanation
  createdAt := t.first.now
  updatedAt := t.first.now
  deletedAt := none

/-- The choices that `CreateQuestion` inserts. -/
def createdChoices (draft : QuestionDraft) (t : OpTick) : List ChoiceRow :=
  choiceRows (t.body 0).uuid.value 0 draft.choices (later t.body 1)

/-- What a commit of `CreateQuestion` has done. -/
structure Created (authorUserID : String) (draft : QuestionDraft) (t : OpTick) (db : Db)
    (detail : QuestionDetail) (db' : Db) : Prop where
  storableAuthor : storable authorUserID = true
  author : authorUserID ∈ db.users.map UserRow.id
  fresh : (createdRow authorUserID draft t).id ∉ db.questions.map QuestionRow.id
  four : draft.choices.length = 4
  committed : ∃ c ∈ createdChoices draft t, c.ordinal = draft.correctOrdinal ∧
    detail = {
      id := (createdRow authorUserID draft t).id.text
      prompt := draft.prompt
      choices := (createdChoices draft t).map ChoiceRow.toChoice
      correctChoiceID := c.id.text
      explanation := draft.explanation
      updatedAt := t.first.now } ∧
    db'.toTables =
      db.withQuestion (createdRow authorUserID draft t) (createdChoices draft t) c.id

/-- The choices that `UpdateQuestion` inserts. -/
def updatedChoices (q : Uuid) (draft : QuestionDraft) (t : OpTick) : List ChoiceRow :=
  choiceRows q 0 draft.choices (later t.body 2)

/-- What a commit of `UpdateQuestion` has done. -/
structure Updated (io : UuidReaders) (userID questionID : String) (draft : QuestionDraft)
    (t : OpTick) (db : Db) (detail : QuestionDetail) (db' : Db) (q : Uuid) : Prop where
  cast : io.cast questionID = some q
  own : ∃ r ∈ db.questions, r.id = q ∧ r.authorUserId = userID ∧ r.deletedAt = none
  unanswered : ∀ a ∈ db.attempts, a.questionId ≠ q
  four : draft.choices.length = 4
  committed : ∃ c ∈ updatedChoices q draft t, c.ordinal = draft.correctOrdinal ∧
    detail = {
      id := questionID
      prompt := draft.prompt
      choices := (updatedChoices q draft t).map ChoiceRow.toChoice
      correctChoiceID := c.id.text
      explanation := draft.explanation
      updatedAt := t.first.now } ∧
    db'.toTables = db.rewritten q draft t.first.now (updatedChoices q draft t) c.id

/-! ## `CreateQuestion` -/

theorem txInsertQuestion_ok {s s' : TxState} {u prompt : String} {explanation : Option String}
    {t : Tick} {r : String × Timestamp}
    (h : txInsertQuestion s u prompt explanation t = (.ok r, s')) :
    storable u = true ∧ r = (t.uuid.value.text, s.now) ∧ ∃ db',
      s.db.insertQuestion
        { id := t.uuid.value
          authorUserId := u
          prompt := prompt
          explanation := explanation
          createdAt := s.now
          updatedAt := s.now
          deletedAt := none } = .ok db' ∧ s' = { s with db := db' } := by
  unfold txInsertQuestion at h
  split_ifs at h with htext
  · rw [Bool.and_eq_true, Bool.and_eq_true] at htext
    split at h
    · rename_i db' hdb
      rw [Prod.mk.injEq, Except.ok.injEq] at h
      exact ⟨htext.1.1, h.1.symm, db', hdb, h.2.symm⟩
    · simp at h
  · simp at h

/-- A question that is not stored has no choices and no key. -/
theorem Db.choicesOf_eq_nil {db : Db} {q : Uuid} (h : q ∉ db.questions.map QuestionRow.id) :
    db.choicesOf q = [] := by
  refine List.filter_eq_nil_iff.mpr ?_
  intro c hc hcq
  obtain ⟨r, hr, hid⟩ := db.constraints.choicesQuestion c hc
  exact h (List.mem_map.mpr ⟨r, hr, hid.trans (by simpa using hcq)⟩)

theorem Db.not_mem_answerKeys {db : Db} {q : Uuid} (h : q ∉ db.questions.map QuestionRow.id) :
    q ∉ db.answerKeys.map AnswerKeyRow.questionId := by
  intro hmem
  obtain ⟨k, hk, rfl⟩ := List.mem_map.mp hmem
  obtain ⟨r, hr, hid⟩ := db.constraints.answerKeysQuestion k hk
  exact h (List.mem_map.mpr ⟨r, hr, hid⟩)

/-- The rows of the loop belong to its question. -/
theorem filter_choiceRows (q : Uuid) (i : ℕ) (labels : List String) (τ : ℕ → Tick) :
    (choiceRows q i labels τ).filter (fun c => c.questionId = q) = choiceRows q i labels τ :=
  List.filter_eq_self.mpr fun c hc => by simp [questionId_of_mem_choiceRows hc]

theorem createQuestionTx_ok {u : String} {draft : QuestionDraft} {t : OpTick} {db db' : Db}
    {detail : QuestionDetail} (h : withTx io (createQuestionTx u draft) t db = (.ok detail, db')) :
    Created u draft t db detail db' := by
  obtain ⟨-, -, s, hbody, hfour, rfl⟩ := withTx_ok.mp h
  obtain ⟨answer, s₁, hins, hrest⟩ := Prog.run_bind_eq_ok.mp hbody
  rw [txQuery, Prog.run_call, Prog.run_ret, Prod.mk.injEq, Except.ok.injEq] at hins
  obtain ⟨hanswer, hs₁⟩ := hins
  cases answer with
  | error e => simp at hrest
  | ok r =>
      obtain ⟨-, hexec⟩ := Tick.guard_eq_ok.mp (Prod.ext hanswer hs₁)
      obtain ⟨hu, rfl, db₁, hdb₁, rfl⟩ := txInsertQuestion_ok hexec
      obtain ⟨hfresh, hauthor, htables₁⟩ := Db.insertQuestion_eq_ok.mp hdb₁
      obtain ⟨⟨choices, correct⟩, s₂, hloop, hret⟩ := Prog.run_bind_eq_ok.mp hrest
      obtain ⟨c, hc, hord, hr, htables, -, hpending⟩ :=
        insertChoicesAndAnswerKey_ok (io.cast_text _) hloop
      rw [Prod.mk.injEq] at hr
      obtain ⟨rfl, rfl⟩ := hr
      simp only [Prog.pure_eq, Prog.run_ret, Prod.mk.injEq, Except.ok.injEq] at hret
      obtain ⟨rfl, rfl⟩ := hret
      -- the new question had no key, so the upsert appends one
      have hnokey : (t.body 0).uuid.value ∉ db.answerKeys.map AnswerKeyRow.questionId :=
        Db.not_mem_answerKeys hfresh
      have hcommitted : s₂.db.toTables =
          db.withQuestion (createdRow u draft t) (createdChoices draft t) c.id := by
        rw [htables, htables₁, Tables.putAnswerKey_of_not_mem hnokey]
        rfl
      refine ⟨hu, hauthor, hfresh, ?_, c, hc, hord, rfl, hcommitted⟩
      have hpos : 0 < draft.choices.length := by
        have hlen := List.length_pos_of_mem hc
        rwa [length_choiceRows] at hlen
      have hcount := TxState.fourChoices_replicate hpending hpos hfour
      rw [Tables.choicesOf, hcommitted] at hcount
      have hnone : (db.choices.filter fun c => c.questionId = (t.body 0).uuid.value) = [] :=
        Db.choicesOf_eq_nil hfresh
      simpa [Tables.withQuestion, createdChoices, createdRow, hnone, filter_choiceRows] using hcount

/-! ## `UpdateQuestion` -/

theorem txUpdateQuestion_ok {s s' : TxState} {prompt questionID u : String}
    {explanation : Option String} {now : Timestamp}
    (h : txUpdateQuestion io s prompt explanation questionID u = (.ok (some now), s')) :
    now = s.now ∧ ∃ q, io.cast questionID = some q ∧ s.db.questions.any (ownActive q u) = true ∧
      s' = { s with
        db := s.db.updateQuestions s.now (ownActive q u) (fun _ => prompt) (fun _ => explanation)
          QuestionRow.deletedAt } := by
  unfold txUpdateQuestion at h
  split_ifs at h with htext
  · split at h
    · rename_i q hq
      split_ifs at h with hown
      · simp only [Prod.mk.injEq, Except.ok.injEq, Option.some.injEq] at h
        exact ⟨h.1.symm, q, hq, hown, h.2.symm⟩
      · simp at h
    · simp at h
  · simp at h

theorem txDeleteChoices_eq_ok {s s' : TxState} {questionID : String} {q : Uuid}
    (hq : io.cast questionID = some q) :
    txDeleteChoices io s questionID = (.ok (), s') ↔
      ∃ db', (s.db.deleteChoices fun c => c.questionId = q) = .ok db' ∧
        s' = { s with
          db := db'
          pending := s.pending ++ (s.db.choicesOf q).map ChoiceRow.questionId } := by
  unfold txDeleteChoices
  rw [hq]
  dsimp only
  cases s.db.deleteChoices fun c => c.questionId = q with
  | ok db' => simp [eq_comm]
  | error e => simp

/-- The update touches one row: the question of the user that is not deleted. -/
theorem updateQuestions_ownActive {db : Db} {q : Uuid} {u : String} {draft : QuestionDraft}
    {now : Timestamp} {r : QuestionRow} (hr : r ∈ db.questions) (hown : ownActive q u r = true) :
    (db.updateQuestions now (ownActive q u) (fun _ => draft.prompt)
      (fun _ => nullIfEmpty draft.explanation) QuestionRow.deletedAt).toTables =
      { db.toTables with
        questions := db.questions.map fun r => if r.id = q then r.edited draft now else r } := by
  have hid : r.id = q := by simp [ownActive] at hown; exact hown.1.1
  unfold Db.updateQuestions Tables.mapQuestions
  dsimp only
  congr 1
  refine List.map_congr_left ?_
  intro r' hr'
  by_cases hq : r'.id = q
  · obtain rfl := db.constraints.questionsPkey.eq hr' hr (hq.trans hid.symm)
    rw [if_pos hown, if_pos hq]
    rfl
  · have hnot : ownActive q u r' = false := by simp [ownActive, hq]
    rw [hnot, if_neg hq]
    rfl

theorem updateQuestionTx_ok {u questionID : String} {draft : QuestionDraft} {t : OpTick}
    {db db' : Db} {detail : QuestionDetail}
    (h : withTx io (updateQuestionTx u questionID draft) t db = (.ok detail, db')) :
    ∃ q, Updated io u questionID draft t db detail db' q := by
  obtain ⟨-, -, s, hbody, hfour, rfl⟩ := withTx_ok.mp h
  obtain ⟨answer, s₁, hupd, hrest⟩ := Prog.run_bind_eq_ok.mp hbody
  rw [txQuery, Prog.run_call, Prog.run_ret, Prod.mk.injEq, Except.ok.injEq] at hupd
  obtain ⟨hanswer, hs₁⟩ := hupd
  rcases answer with e | none | now
  · simp at hrest
  · simp at hrest
  · obtain ⟨-, hexec⟩ := Tick.guard_eq_ok.mp (Prod.ext hanswer hs₁)
    obtain ⟨rfl, q, hq, hown, rfl⟩ := txUpdateQuestion_ok hexec
    obtain ⟨r, hr, hown⟩ := List.any_eq_true.mp hown
    obtain ⟨answer₂, s₂, hdel, hrest⟩ := Prog.run_bind_eq_ok.mp hrest
    rw [txQuery, Prog.run_call, Prog.run_ret, Prod.mk.injEq, Except.ok.injEq] at hdel
    obtain ⟨hanswer₂, hs₂⟩ := hdel
    rcases answer₂ with e | ⟨⟩
    · simp at hrest
    · obtain ⟨-, hexec₂⟩ := Tick.guard_eq_ok.mp (Prod.ext hanswer₂ hs₂)
      obtain ⟨db₂, hdb₂, rfl⟩ := (txDeleteChoices_eq_ok hq).mp hexec₂
      obtain ⟨hfree, htables₂⟩ := Db.deleteChoices_question_eq_ok.mp hdb₂
      obtain ⟨⟨choices, correct⟩, s₃, hloop, hret⟩ := Prog.run_bind_eq_ok.mp hrest
      obtain ⟨c, hc, hord, hresult, htables, -, hpending⟩ := insertChoicesAndAnswerKey_ok hq hloop
      rw [Prod.mk.injEq] at hresult
      obtain ⟨rfl, rfl⟩ := hresult
      simp only [Prog.pure_eq, Prog.run_ret, Prod.mk.injEq, Except.ok.injEq] at hret
      obtain ⟨rfl, rfl⟩ := hret
      have hrow : r.id = q ∧ r.authorUserId = u ∧ r.deletedAt = none := by
        simpa [ownActive, and_assoc] using hown
      -- the deletion has cascaded to the key, so the upsert appends one
      have hcommitted : s₃.db.toTables =
          db.rewritten q draft t.first.now (updatedChoices q draft t) c.id := by
        rw [htables, htables₂, Tables.putAnswerKey_of_not_mem (by simp),
          updateQuestions_ownActive hr hown]
        rfl
      refine ⟨q, hq, ⟨r, hr, hrow⟩, hfree, ?_, c, hc, hord, rfl, hcommitted⟩
      have hpos : 0 < draft.choices.length := by
        have hlen := List.length_pos_of_mem hc
        rwa [length_choiceRows] at hlen
      have hcount := TxState.fourChoices_replicate hpending hpos hfour
      rw [Tables.choicesOf, hcommitted] at hcount
      simpa [Tables.rewritten, updatedChoices, List.filter_filter, filter_choiceRows] using hcount

/-- Nothing fails for a reason of its own. -/
structure OpTick.Quiet (t : OpTick) : Prop where
  first : t.first.fault = false
  body : ∀ n, (t.body n).fault = false
  commit : t.commit.fault = false

/-- The ids that a transaction draws differ from each other and from the choices
that are stored. -/
structure OpTick.Fresh (t : OpTick) (db : Db) : Prop where
  distinct : ∀ i < 6, ∀ j < 6, (t.body i).uuid.value = (t.body j).uuid.value → i = j
  new : ∀ i < 6, (t.body i).uuid.value ∉ db.choices.map ChoiceRow.id

theorem OpTick.Fresh.unique_id {t : OpTick} {db : Db} (h : t.Fresh db) {q : Uuid}
    {draft : QuestionDraft} (hlen : draft.choices.length = 4) :
    Relational.Unique ChoiceRow.id (db.choices ++ updatedChoices q draft t) := by
  unfold Relational.Unique
  rw [List.map_append, List.nodup_append, updatedChoices, map_id_choiceRows, hlen]
  refine ⟨db.constraints.choicesPkey, ?_, ?_⟩
  · refine List.Nodup.map_on ?_ List.nodup_range
    intro i hi j hj hij
    have heq := h.distinct (i + 2) (by rw [List.mem_range] at hi; omega) (j + 2)
      (by rw [List.mem_range] at hj; omega) hij
    omega
  · intro x hx y hy hxy
    obtain ⟨i, hi, rfl⟩ := List.mem_map.mp hy
    exact h.new (i + 2) (by rw [List.mem_range] at hi; omega) (hxy ▸ hx)

/-- Every text of the draft can be stored. -/
structure QuestionDraft.Storable (draft : QuestionDraft) : Prop where
  prompt : storable draft.prompt = true
  choices : ∀ label ∈ draft.choices, storable label = true
  explanation : storable draft.explanation = true

/-- The rows of the loop take different places of their question. -/
theorem unique_place_choiceRows (q : Uuid) (i : ℕ) (labels : List String) (τ : ℕ → Tick) :
    Relational.Unique ChoiceRow.questionOrdinal (choiceRows q i labels τ) := by
  have hordinals : Relational.Unique ChoiceRow.ordinal (choiceRows q i labels τ) := by
    unfold Relational.Unique
    rw [map_ordinal_choiceRows]
    exact (List.nodup_range' _).map Nat.cast_injective
  refine List.Nodup.of_map Prod.snd ?_
  rw [List.map_map]
  exact hordinals

theorem nullIfEmpty_storable {s : String} (h : storable s = true) :
    (nullIfEmpty s).all storable = true := by
  unfold nullIfEmpty
  split_ifs
  · rfl
  · exact h

/-- The first statement of an update edits the row of the question. -/
theorem exec_updateQuestion {u questionID : String} {q : Uuid} (hq : io.cast questionID = some q)
    {draft : QuestionDraft} (htext : draft.Storable) (hu : storable u = true) {t : Tick}
    (ht : t.fault = false) (s : TxState) {r : QuestionRow} (hr : r ∈ s.db.questions)
    (hown : ownActive q u r = true) :
    ∃ db₁, TxStmt.exec io (.updateQuestion draft.prompt (nullIfEmpty draft.explanation) questionID
        u) t s = (.ok (some s.now), { s with db := db₁ }) ∧
      db₁.toTables = { s.db.toTables with
        questions := s.db.questions.map fun r =>
          if r.id = q then r.edited draft s.now else r } := by
  have hany : s.db.questions.any (ownActive q u) = true := List.any_eq_true.mpr ⟨r, hr, hown⟩
  refine ⟨_, Tick.guard_eq_ok.mpr ⟨ht, ?_⟩, updateQuestions_ownActive hr hown⟩
  simp [txUpdateQuestion, htext.prompt, nullIfEmpty_storable htext.explanation, hu, hq, hany]

/-- The second statement deletes the choices, and with them the key, when nobody
has answered the question. -/
theorem exec_deleteChoices {questionID : String} {q : Uuid} (hq : io.cast questionID = some q)
    {t : Tick} (ht : t.fault = false) (s : TxState)
    (hfree : ∀ a ∈ s.db.attempts, a.questionId ≠ q) :
    ∃ db₂, TxStmt.exec io (.deleteChoices questionID) t s =
        (.ok (), { s with
          db := db₂
          pending := s.pending ++ (s.db.choicesOf q).map ChoiceRow.questionId }) ∧
      db₂.toTables = { s.db.toTables with
        choices := s.db.choices.filter fun c => c.questionId ≠ q
        answerKeys := s.db.answerKeys.filter fun k => k.questionId ≠ q } := by
  have hunused : ∀ a ∈ s.db.attempts, ∀ c ∈ s.db.choices, c.idQuestion = a.choiceRef →
      decide (c.questionId = q) = false := by
    intro a ha c _ href
    rw [show c.questionId = a.questionId from congrArg Prod.snd href]
    simpa using hfree a ha
  obtain ⟨db₂, hdb₂⟩ : ∃ db₂, (s.db.deleteChoices fun c => c.questionId = q) = .ok db₂ :=
    ⟨⟨_, s.db.constraints.dropChoices hunused⟩, Db.deleteChoices_eq_ok.mpr ⟨hunused, rfl⟩⟩
  refine ⟨db₂, ?_, (Db.deleteChoices_question_eq_ok.mp hdb₂).2⟩
  exact Tick.guard_eq_ok.mpr ⟨ht, (txDeleteChoices_eq_ok hq).mpr ⟨db₂, hdb₂, rfl⟩⟩

/-- The new choices take the places that the deletion has left. -/
theorem unique_place_updatedChoices (db : Db) (q : Uuid) (draft : QuestionDraft) (t : OpTick) :
    Relational.Unique ChoiceRow.questionOrdinal
      ((db.choices.filter fun c => c.questionId ≠ q) ++ updatedChoices q draft t) := by
  unfold Relational.Unique
  rw [List.map_append, List.nodup_append]
  refine ⟨db.constraints.choicesQuestionOrdinal.filter _, unique_place_choiceRows .., ?_⟩
  intro x hx y hy hxy
  obtain ⟨c, hc, rfl⟩ := List.mem_map.mp hx
  obtain ⟨d, hd, rfl⟩ := List.mem_map.mp hy
  have hcq : c.questionId = q := (congrArg Prod.fst hxy).trans (questionId_of_mem_choiceRows hd)
  simpa [hcq] using (List.mem_filter.mp hc).2

/-- The trigger looks at one question when all row events are about it. -/
theorem TxState.fourChoices_of_pending {s : TxState} {q : Uuid} (hpending : ∀ p ∈ s.pending, p = q)
    (hfour : (s.db.choicesOf q).length = 4) : s.fourChoices = true := by
  refine List.all_eq_true.mpr ?_
  intro p hp
  rw [hpending p hp, hfour]
  rfl

/-- When `UpdateQuestion` commits: in particular, nobody has answered the question. -/
theorem updateQuestionTx_total {u questionID : String} {q : Uuid}
    (hq : io.cast questionID = some q) {draft : QuestionDraft} {t : OpTick} {db : Db}
    (hquiet : t.Quiet) (hu : storable u = true) (htext : draft.Storable)
    (hown : ∃ r ∈ db.questions, r.id = q ∧ r.authorUserId = u ∧ r.deletedAt = none)
    (hfree : ∀ a ∈ db.attempts, a.questionId ≠ q) (hlen : draft.choices.length = 4)
    (hcorrect : 0 ≤ draft.correctOrdinal ∧ draft.correctOrdinal ≤ 3)
    (hids : Relational.Unique ChoiceRow.id (db.choices ++ updatedChoices q draft t)) :
    ∃ detail db', withTx io (updateQuestionTx u questionID draft) t db = (.ok detail, db') := by
  obtain ⟨r, hr, hrow⟩ := hown
  let s₀ : TxState := { db := db, now := t.first.now, pending := [] }
  -- the update and the deletion
  obtain ⟨db₁, hupd, htables₁⟩ := exec_updateQuestion hq htext hu (hquiet.body 0) s₀ hr
    (by simpa [ownActive, and_assoc] using hrow)
  obtain ⟨db₂, hdel, htables₂⟩ := exec_deleteChoices hq (hquiet.body 1) { s₀ with db := db₁ }
    (by
      rw [htables₁]
      exact hfree)
  let s₂ : TxState := { s₀ with db := db₂, pending := (db₁.choicesOf q).map ChoiceRow.questionId }
  replace hdel : TxStmt.exec io (.deleteChoices questionID) (t.body 1) { s₀ with db := db₁ } =
    (.ok (), s₂) := hdel
  have hquestion : q ∈ db₂.questions.map QuestionRow.id := by
    rw [htables₂, htables₁]
    exact List.mem_map.mpr ⟨r.edited draft t.first.now,
      List.mem_map.mpr ⟨r, hr, by rw [if_pos hrow.1]⟩, hrow.1⟩
  have hchoices : db₂.choices = db.choices.filter fun c => c.questionId ≠ q := by
    rw [htables₂, htables₁]
  have hkeys : q ∉ db₂.answerKeys.map AnswerKeyRow.questionId := by
    rw [htables₂]
    simp
  have hids₂ : Relational.Unique ChoiceRow.id (db₂.choices ++ updatedChoices q draft t) := by
    rw [hchoices]
    exact List.Nodup.sublist
      ((List.Sublist.append_right List.filter_sublist _).map ChoiceRow.id) hids
  have hplaces : Relational.Unique ChoiceRow.questionOrdinal
      (db₂.choices ++ updatedChoices q draft t) := by
    rw [hchoices]
    exact unique_place_updatedChoices db q draft t
  -- the loop and the key
  obtain ⟨⟨choices, correct⟩, s₃, hloop⟩ : ∃ r s₃, (insertChoicesAndAnswerKey questionID
      draft).run (TxStmt.exec io) (later t.body 2) s₂ = (.ok r, s₃) :=
    insertChoicesAndAnswerKey_total hq (fun n => hquiet.body (n + 2)) htext.choices hquestion hlen
      hcorrect hids₂ hplaces
  obtain ⟨c, -, -, hresult, htables₃, -, hpending⟩ := insertChoicesAndAnswerKey_ok hq hloop
  rw [Prod.mk.injEq] at hresult
  obtain ⟨rfl, rfl⟩ := hresult
  -- the commit
  have hfour : s₃.fourChoices = true := by
    refine TxState.fourChoices_of_pending (q := q) ?_ ?_
    · intro p hp
      rw [hpending] at hp
      rcases List.mem_append.mp hp with hp | hp
      · obtain ⟨d, hd, rfl⟩ := List.mem_map.mp hp
        simpa using (List.mem_filter.mp hd).2
      · exact (List.mem_replicate.mp hp).2
    · rw [Tables.choicesOf, htables₃, Tables.putAnswerKey_of_not_mem hkeys]
      simp [s₂, hchoices, List.filter_filter, filter_choiceRows, hlen]
  suffices hbody : ∃ detail, (updateQuestionTx u questionID draft).run (TxStmt.exec io) t.body s₀ =
      (.ok detail, s₃) by
    obtain ⟨detail, hbody⟩ := hbody
    exact ⟨detail, s₃.db, withTx_ok.mpr ⟨hquiet.first, hquiet.commit, s₃, hbody, hfour, rfl⟩⟩
  unfold updateQuestionTx
  rw [Prog.bind_eq, run_txQuery_bind, hupd]
  dsimp only
  rw [Prog.bind_eq, run_txQuery_bind, show later t.body 1 0 = t.body 1 from rfl, hdel]
  dsimp only
  rw [Prog.bind_eq, later_later, Prog.run_bind_ok hloop]
  exact ⟨_, rfl⟩

end HistoryQuiz
