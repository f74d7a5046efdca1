import HistoryQuiz.Logic.Operations

/-!
# The store invariant

`WellFormed` says what the store promises beyond the declared constraints: four
choices per question on the ordinals 0 to 3, labels that are not blank, a key for
every question, authors that can be asked for. Every change keeps it
(`WellFormed.change`), although `UpdateQuestion` breaks it between its
statements, so every reachable state has it (`Reachable.wellFormed`).
-/

namespace HistoryQuiz

open Relational Effect

variable {io : UuidReaders}

structure WellFormed (t : Tables) : Prop where
  ordinals : ∀ r ∈ t.questions, ((t.choicesOf r.id).map ChoiceRow.ordinal).Perm [0, 1, 2, 3]
  labels : ∀ c ∈ t.choices, trimSpace c.label ≠ ""
  keys : ∀ r ∈ t.questions, r.id ∈ t.answerKeys.map AnswerKeyRow.questionId
  authors : ∀ r ∈ t.questions, r.authorUserId ≠ "" ∧ storable r.authorUserId = true

/-! ## The choices after a commit -/

theorem mem_choicesOf {t : Tables} {q : Uuid} {c : ChoiceRow} :
    c ∈ t.choicesOf q ↔ c ∈ t.choices ∧ c.questionId = q := by
  simp [Tables.choicesOf]

/-- The rows of the loop belong to no other question. -/
theorem filter_choiceRows_other {q q' : Uuid} (h : q' ≠ q) (i : ℕ) (labels : List String)
    (τ : ℕ → Tick) : (choiceRows q i labels τ).filter (fun c => c.questionId = q') = [] := by
  refine List.filter_eq_nil_iff.mpr ?_
  intro c hc
  rw [questionId_of_mem_choiceRows hc]
  simpa using h.symm

section Created

variable {u : String} {draft : QuestionDraft} {t : OpTick} {db db' : Db} {detail : QuestionDetail}

theorem Created.choicesOf_new (h : Created u draft t db detail db') :
    db'.choicesOf (createdRow u draft t).id = createdChoices draft t := by
  obtain ⟨c, -, -, -, htables⟩ := h.committed
  have hold : db.choices.filter (fun c => c.questionId = (createdRow u draft t).id) = [] :=
    Db.choicesOf_eq_nil h.fresh
  rw [htables, Tables.choicesOf, Tables.withQuestion, List.filter_append, hold, List.nil_append]
  exact filter_choiceRows ..

theorem Created.choicesOf_other (h : Created u draft t db detail db') {q : Uuid}
    (hq : q ≠ (createdRow u draft t).id) : db'.choicesOf q = db.choicesOf q := by
  obtain ⟨c, -, -, -, htables⟩ := h.committed
  rw [htables, Tables.choicesOf, Tables.withQuestion, List.filter_append]
  rw [show (createdChoices draft t).filter (fun c => c.questionId = q) = [] from
    filter_choiceRows_other hq .., List.append_nil]
  rfl

theorem Created.answerKeys_other (h : Created u draft t db detail db') {q : Uuid}
    (hq : q ≠ (createdRow u draft t).id) :
    (db'.answerKeys.filter fun k => k.questionId = q) =
      db.answerKeys.filter fun k => k.questionId = q := by
  obtain ⟨c, -, -, -, htables⟩ := h.committed
  rw [htables, Tables.withQuestion, List.filter_append]
  simp [hq.symm]

end Created

section Updated

variable {u questionID : String} {draft : QuestionDraft} {t : OpTick} {db db' : Db}
  {detail : QuestionDetail} {q : Uuid}

theorem Updated.choicesOf_self (h : Updated io u questionID draft t db detail db' q) :
    db'.choicesOf q = updatedChoices q draft t := by
  obtain ⟨c, -, -, -, htables⟩ := h.committed
  rw [htables, Tables.choicesOf, Tables.rewritten, List.filter_append, List.filter_filter]
  rw [show (updatedChoices q draft t).filter (fun c => c.questionId = q) =
    updatedChoices q draft t from filter_choiceRows ..]
  simp

theorem Updated.choicesOf_other (h : Updated io u questionID draft t db detail db' q) {q' : Uuid}
    (hq : q' ≠ q) : db'.choicesOf q' = db.choicesOf q' := by
  obtain ⟨c, -, -, -, htables⟩ := h.committed
  rw [htables, Tables.choicesOf, Tables.rewritten, List.filter_append, List.filter_filter]
  rw [show (updatedChoices q draft t).filter (fun c => c.questionId = q') = [] from
    filter_choiceRows_other hq .., List.append_nil, Tables.choicesOf]
  refine List.filter_congr ?_
  intro c _
  by_cases hc : c.questionId = q' <;> simp [hc, hq]

theorem Updated.answerKeys_other (h : Updated io u questionID draft t db detail db' q) {q' : Uuid}
    (hq : q' ≠ q) : (db'.answerKeys.filter fun k => k.questionId = q') =
      db.answerKeys.filter fun k => k.questionId = q' := by
  obtain ⟨c, -, -, -, htables⟩ := h.committed
  have hnew : ([⟨q, c.id⟩] : List AnswerKeyRow).filter (fun k => k.questionId = q') = [] := by
    simp [hq.symm]
  rw [htables, Tables.rewritten, List.filter_append, hnew, List.append_nil, List.filter_filter]
  refine List.filter_congr ?_
  intro k _
  by_cases hk : k.questionId = q' <;> simp [hk, hq]

/-- The rows after an update are the old ones, the edited one in place of its
old version. -/
theorem Updated.mem_questions (h : Updated io u questionID draft t db detail db' q)
    {r : QuestionRow} (hr : r ∈ db'.questions) :
    ∃ r₀ ∈ db.questions, r = if r₀.id = q then r₀.edited draft t.first.now else r₀ := by
  obtain ⟨c, -, -, -, htables⟩ := h.committed
  rw [htables] at hr
  obtain ⟨r₀, hr₀, rfl⟩ := List.mem_map.mp hr
  exact ⟨r₀, hr₀, rfl⟩

end Updated

/-- The ordinals of four rows of the loop. -/
theorem ordinals_choiceRows {q : Uuid} {labels : List String} (hlen : labels.length = 4)
    (τ : ℕ → Tick) : (choiceRows q 0 labels τ).map ChoiceRow.ordinal = [0, 1, 2, 3] := by
  rw [map_ordinal_choiceRows, hlen]
  rfl

/-- The labels of the rows of the loop. -/
theorem label_of_mem_choiceRows {q : Uuid} {i : ℕ} {labels : List String} {τ : ℕ → Tick}
    {c : ChoiceRow} (hc : c ∈ choiceRows q i labels τ) : c.label ∈ labels := by
  rw [← map_label_choiceRows q i labels τ]
  exact List.mem_map_of_mem hc

/-! ## Every change keeps the invariant -/

theorem WellFormed.created {u : String} {draft : QuestionDraft} {t : OpTick} {db db' : Db}
    {detail : QuestionDetail} (hw : WellFormed db.toTables) (hu : u ≠ "")
    (hdraft : ValidDraft draft) (h : Created u draft t db detail db') :
    WellFormed db'.toTables := by
  obtain ⟨c, -, -, -, htables⟩ := h.committed
  -- a question is an old one or the new one
  have hcases : ∀ r ∈ db'.questions, r ∈ db.questions ∨ r = createdRow u draft t := by
    intro r hr
    rw [htables] at hr
    simpa [Tables.withQuestion] using hr
  have hother : ∀ r ∈ db.questions, r.id ≠ (createdRow u draft t).id := fun r hr hid =>
    h.fresh (List.mem_map.mpr ⟨r, hr, hid⟩)
  refine ⟨?_, ?_, ?_, ?_⟩
  · intro r hr
    rcases hcases r hr with hold | rfl
    · rw [h.choicesOf_other (hother r hold)]
      exact hw.ordinals r hold
    · rw [h.choicesOf_new, createdChoices, ordinals_choiceRows h.four]
  · intro d hd
    rw [htables] at hd
    rcases List.mem_append.mp hd with hd | hd
    · exact hw.labels d hd
    · exact hdraft.labels _ (label_of_mem_choiceRows hd)
  · intro r hr
    rw [htables, Tables.withQuestion, List.map_append]
    rcases hcases r hr with hold | rfl
    · exact List.mem_append_left _ (hw.keys r hold)
    · exact List.mem_append_right _ (by simp)
  · intro r hr
    rcases hcases r hr with hold | rfl
    · exact hw.authors r hold
    · exact ⟨hu, h.storableAuthor⟩

theorem WellFormed.updated {u questionID : String} {draft : QuestionDraft} {t : OpTick}
    {db db' : Db} {detail : QuestionDetail} {q : Uuid} (hw : WellFormed db.toTables)
    (hdraft : ValidDraft draft) (h : Updated io u questionID draft t db detail db' q) :
    WellFormed db'.toTables := by
  obtain ⟨c, -, -, -, htables⟩ := h.committed
  -- the edit changes neither the id nor the author of a row
  have hold : ∀ r ∈ db'.questions, ∃ r₀ ∈ db.questions, r.id = r₀.id ∧
      r.authorUserId = r₀.authorUserId := by
    intro r hr
    obtain ⟨r₀, hr₀, rfl⟩ := h.mem_questions hr
    refine ⟨r₀, hr₀, ?_⟩
    split <;> exact ⟨rfl, rfl⟩
  refine ⟨?_, ?_, ?_, ?_⟩
  · intro r hr
    obtain ⟨r₀, hr₀, hid, -⟩ := hold r hr
    by_cases hq : r.id = q
    · rw [hq, h.choicesOf_self, updatedChoices, ordinals_choiceRows h.four]
    · rw [h.choicesOf_other hq, hid]
      exact hw.ordinals r₀ hr₀
  · intro d hd
    rw [htables] at hd
    rcases List.mem_append.mp hd with hd | hd
    · exact hw.labels d (List.mem_of_mem_filter hd)
    · exact hdraft.labels _ (label_of_mem_choiceRows hd)
  · intro r hr
    obtain ⟨r₀, hr₀, hid, -⟩ := hold r hr
    rw [htables, Tables.rewritten, List.map_append]
    by_cases hq : r.id = q
    · exact List.mem_append_right _ (by simp [hq])
    · obtain ⟨k, hk, hkid⟩ := List.mem_map.mp (hw.keys r₀ hr₀)
      refine List.mem_append_left _ (List.mem_map.mpr ⟨k, List.mem_filter.mpr ⟨hk, ?_⟩, ?_⟩)
      · simpa [hkid, ← hid] using hq
      · rw [hkid, hid]
  · intro r hr
    obtain ⟨r₀, hr₀, -, hauthor⟩ := hold r hr
    rw [hauthor]
    exact hw.authors r₀ hr₀

theorem WellFormed.change {c : Call} {t : OpTick} {db db' : Db} (hw : WellFormed db.toTables)
    (h : Change io c t db db') : WellFormed db'.toTables := by
  cases h with
  | same h => rwa [h]
  | user hu h =>
      rw [h]
      exact ⟨hw.ordinals, hw.labels, hw.keys, hw.authors⟩
  | attempt u questionID choiceID row hc hu huser hquestion hchoice hid h =>
      rw [h]
      exact ⟨hw.ordinals, hw.labels, hw.keys, hw.authors⟩
  | created u draft detail hc hu hdraft h => exact hw.created hu hdraft h
  | updated u questionID draft detail q hc hu hdraft h => exact hw.updated hdraft h

/-- Setting `deleted_at` touches neither the key nor the author of a row. -/
theorem mem_setDeletedAt {db : Db} {now : Timestamp} {p : QuestionRow → Bool}
    {deletedAt : QuestionRow → Option Timestamp} {r : QuestionRow}
    (hr : r ∈ (db.setDeletedAt now p deletedAt).questions) :
    ∃ r₀ ∈ db.questions, r.id = r₀.id ∧ r.authorUserId = r₀.authorUserId := by
  obtain ⟨r₀, hr₀, rfl⟩ := List.mem_map.mp hr
  refine ⟨r₀, hr₀, ?_⟩
  split <;> exact ⟨rfl, rfl⟩

theorem WellFormed.setDeletedAt {db : Db} (hw : WellFormed db.toTables) (now : Timestamp)
    (p : QuestionRow → Bool) (deletedAt : QuestionRow → Option Timestamp) :
    WellFormed (db.setDeletedAt now p deletedAt).toTables := by
  refine ⟨?_, hw.labels, ?_, ?_⟩
  · intro r hr
    obtain ⟨r₀, hr₀, hid, -⟩ := mem_setDeletedAt hr
    rw [hid]
    exact hw.ordinals r₀ hr₀
  · intro r hr
    obtain ⟨r₀, hr₀, hid, -⟩ := mem_setDeletedAt hr
    rw [hid]
    exact hw.keys r₀ hr₀
  · intro r hr
    obtain ⟨r₀, hr₀, -, hauthor⟩ := mem_setDeletedAt hr
    rw [hauthor]
    exact hw.authors r₀ hr₀

/-! ## Reachable states -/

theorem wellFormed_seeded (now : Timestamp) : WellFormed (seeded now).toTables where
  ordinals := by
    have hordinals : ∀ q ∈ ([0x1, 0x2, 0x3] : List Uuid),
        (seededChoices.filter fun c => c.questionId = q).map ChoiceRow.ordinal = [0, 1, 2, 3] := by
      intro q hq
      simp only [List.mem_cons, List.not_mem_nil, or_false] at hq
      rcases hq with rfl | rfl | rfl <;> rfl
    intro r hr
    refine List.Perm.of_eq (hordinals r.id ?_)
    have hid : r.id ∈ (seededTables now).questions.map QuestionRow.id := List.mem_map_of_mem hr
    exact hid
  labels := show ∀ c ∈ seededChoices, trimSpace c.label ≠ "" by decide
  keys := by
    intro r hr
    have hid : r.id ∈ (seededTables now).questions.map QuestionRow.id := List.mem_map_of_mem hr
    exact hid
  authors := by
    intro r hr
    have hauthor : r.authorUserId = "system" := by
      simp only [seeded, seededTables, List.mem_cons, List.not_mem_nil, or_false] at hr
      rcases hr with rfl | rfl | rfl <;> rfl
    rw [hauthor]
    decide

theorem Steps.wellFormed {may : Call → Prop} {db db' : Db} (h : Steps io may db db')
    (hw : WellFormed db.toTables) : WellFormed db'.toTables :=
  h.changes (I := fun db => WellFormed db.toTables) (fun _ _ _ _ _ hw hchange => hw.change hchange)
    (fun _ now p deletedAt hw => hw.setDeletedAt now p deletedAt) hw

theorem Reachable.wellFormed {db : Db} (h : Reachable io db) : WellFormed db.toTables := by
  obtain ⟨now, hsteps⟩ := h
  exact hsteps.wellFormed (wellFormed_seeded now)

end HistoryQuiz
