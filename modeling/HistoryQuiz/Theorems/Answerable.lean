import HistoryQuiz.Logic.Quiz
import HistoryQuiz.Theorems.Serving

/-!
# Everything that is served can be answered

`GetQuestion` takes questions from the rows and, if it finds none, from the default
set; `SubmitAnswer` judges by the stored key and, if there is none, by the key of
the default set. The two agree because the questions of the default set are either
not stored at all or stored as the migrations seeded them, perhaps deleted
(`DefaultsIntact`). So every choice of a served question can be answered, and
exactly one of them is right (`served_is_answerable`).
-/

namespace HistoryQuiz

open Relational Effect QuestionRepository QuizUsecase

variable {io : UuidReaders}

/-! ## The default set and the seed -/

/-- The ids of the default set. -/
def defaultIDs : List Uuid := [0x1, 0x2, 0x3]

/-- The choices that the migrations seed for a question. -/
def seededChoicesOf (i : Uuid) : List ChoiceRow := seededChoices.filter fun c => c.questionId = i

/-- The default set has the seeded choices. -/
theorem defaultQuestions_seeded : (defaultQuestions.map fun q => (q.id, q.choices)) =
    defaultIDs.map fun i => (i.text, (seededChoicesOf i).map ChoiceRow.toChoice) := by
  decide +kernel

theorem seededAnswerKeys_ids : seededAnswerKeys.map AnswerKeyRow.questionId = defaultIDs := rfl

/-- The default set has the seeded keys. -/
theorem seededAnswerKeys_spec : ∀ k ∈ seededAnswerKeys,
    k.correctChoiceId ∈ (seededChoicesOf k.questionId).map ChoiceRow.id ∧
      defaultCorrectChoiceIDByQuestionID.lookup k.questionId.text =
        some k.correctChoiceId.text := by
  decide +kernel

theorem seededChoicesOf_spec {i : Uuid} (hi : i ∈ defaultIDs) :
    (seededChoicesOf i).map ChoiceRow.ordinal = [0, 1, 2, 3] ∧
      ((seededChoicesOf i).map ChoiceRow.id).Nodup := by
  simp only [defaultIDs, List.mem_cons, List.not_mem_nil, or_false] at hi
  rcases hi with rfl | rfl | rfl <;> decide

/-- A question of the default set is not stored, or it is stored with the seeded
choices and key, by the system user. -/
structure SeededQuestion (t : Tables) (i : Uuid) : Prop where
  stored : ∃ r ∈ t.questions, r.id = i ∧ r.authorUserId = "system"
  choices : t.choicesOf i = seededChoicesOf i
  keys : ∀ k ∈ t.answerKeys, k.questionId = i → k ∈ seededAnswerKeys

def DefaultsIntact (t : Tables) : Prop :=
  ∀ i ∈ defaultIDs, i ∉ t.questions.map QuestionRow.id ∨ SeededQuestion t i

/-- `gen_random_uuid()` never draws an id of the default set. -/
theorem RandomUuid.value_not_default (u : RandomUuid) : u.value ∉ defaultIDs := by
  intro hmem
  have hrandom := u.random
  simp only [defaultIDs, List.mem_cons, List.not_mem_nil, or_false] at hmem
  rcases hmem with h | h | h <;> rw [h] at hrandom <;> cases hrandom

/-- No operation of another user touches a question of the default set. -/
theorem DefaultsIntact.change {c : Call} {t : OpTick} {db db' : Db}
    (hd : DefaultsIntact db.toTables) (hc : c.userID ≠ "system") (h : Change io c t db db') :
    DefaultsIntact db'.toTables := by
  cases h with
  | same h => rwa [h]
  | user hu h =>
      rw [h]
      intro i hi
      exact (hd i hi).imp id fun hs => ⟨hs.stored, hs.choices, hs.keys⟩
  | attempt u questionID choiceID row hsubmit hu huser hquestion hchoice hid h =>
      rw [h]
      intro i hi
      exact (hd i hi).imp id fun hs => ⟨hs.stored, hs.choices, hs.keys⟩
  | created u draft detail hcreate hu hdraft h =>
      obtain ⟨correct, -, -, -, htables⟩ := h.committed
      intro i hi
      -- the new question has a drawn id
      have hnew : i ≠ (createdRow u draft t).id := by
        rintro rfl
        exact (t.body 0).uuid.value_not_default hi
      refine (hd i hi).imp ?_ ?_
      · intro habsent
        rw [htables, Tables.withQuestion, List.map_append, List.mem_append]
        rintro (hold | hadded)
        · exact habsent hold
        · exact hnew (List.mem_singleton.mp hadded)
      · intro hs
        refine ⟨?_, ?_, ?_⟩
        · obtain ⟨r, hr, hstored⟩ := hs.stored
          rw [htables]
          exact ⟨r, List.mem_append_left _ hr, hstored⟩
        · rw [h.choicesOf_other hnew]
          exact hs.choices
        · intro k hk hki
          rw [htables] at hk
          rcases List.mem_append.mp hk with hk | hk
          · exact hs.keys k hk hki
          · rw [List.mem_singleton.mp hk] at hki
            exact absurd hki.symm hnew
  | updated u questionID draft detail q hupdate hu hdraft h =>
      obtain ⟨correct, -, -, -, htables⟩ := h.committed
      intro i hi
      refine (hd i hi).imp ?_ ?_
      · intro habsent hmem
        obtain ⟨r, hr, hid⟩ := List.mem_map.mp hmem
        obtain ⟨r₀, hr₀, rfl⟩ := h.mem_questions hr
        refine habsent (List.mem_map.mpr ⟨r₀, hr₀, ?_⟩)
        rw [← hid]
        split <;> rfl
      · intro hs
        -- the updated question is by `u`, the seeded one by the system user
        have hother : i ≠ q := by
          rintro rfl
          obtain ⟨r, hr, hid, hauthor⟩ := hs.stored
          obtain ⟨s, hs', hsid, hsauthor, -⟩ := h.own
          have hrow : r = s := db.constraints.questionsPkey.eq hr hs' (hid.trans hsid.symm)
          rw [hupdate] at hc
          exact hc (hsauthor.symm.trans (hrow ▸ hauthor))
        refine ⟨?_, ?_, ?_⟩
        · obtain ⟨r, hr, hid, hauthor⟩ := hs.stored
          rw [htables]
          refine ⟨r, List.mem_map.mpr ⟨r, hr, ?_⟩, hid, hauthor⟩
          rw [if_neg (hid ▸ hother)]
        · rw [h.choicesOf_other hother]
          exact hs.choices
        · intro k hk hki
          rw [htables] at hk
          rcases List.mem_append.mp hk with hk | hk
          · exact hs.keys k (List.mem_filter.mp hk).1 hki
          · rw [List.mem_singleton.mp hk] at hki
            exact absurd hki.symm hother

theorem DefaultsIntact.setDeletedAt {db : Db} (hd : DefaultsIntact db.toTables) (now : Timestamp)
    (p : QuestionRow → Bool) (deletedAt : QuestionRow → Option Timestamp) :
    DefaultsIntact (db.setDeletedAt now p deletedAt).toTables := by
  intro i hi
  refine (hd i hi).imp ?_ ?_
  · intro habsent hmem
    obtain ⟨r, hr, hid⟩ := List.mem_map.mp hmem
    obtain ⟨r₀, hr₀, hid₀, -⟩ := mem_setDeletedAt hr
    exact habsent (List.mem_map.mpr ⟨r₀, hr₀, hid₀.symm.trans hid⟩)
  · intro hs
    obtain ⟨r, hr, hid, hauthor⟩ := hs.stored
    refine ⟨⟨_, List.mem_map_of_mem hr, ?_, ?_⟩, hs.choices, hs.keys⟩
    · split <;> exact hid
    · split <;> exact hauthor

/-! ## The states in question -/

theorem defaultsIntact_seeded (now : Timestamp) : DefaultsIntact (seeded now).toTables := by
  intro i hi
  refine .inr ⟨?_, rfl, fun k hk _ => hk⟩
  simp only [defaultIDs, List.mem_cons, List.not_mem_nil, or_false] at hi
  rcases hi with rfl | rfl | rfl
  · exact ⟨_, List.mem_cons_self, rfl, rfl⟩
  · exact ⟨_, List.mem_cons_of_mem _ List.mem_cons_self, rfl, rfl⟩
  · exact ⟨_, List.mem_cons_of_mem _ (List.mem_cons_of_mem _ List.mem_cons_self), rfl, rfl⟩

/-- A database without questions is well formed. -/
theorem wellFormed_of_no_questions {db : Db} (h : db.questions = []) : WellFormed db.toTables := by
  have hchoices : ∀ c, c ∉ db.choices := by
    intro c hc
    obtain ⟨r, hr, -⟩ := db.constraints.choicesQuestion c hc
    rw [h] at hr
    cases hr
  refine ⟨?_, fun c hc => absurd hc (hchoices c), ?_, ?_⟩ <;> simp [h]

/-- The states that the other users reach from a migrated database or from one
without questions. -/
theorem Steps.defaultsIntact {init db : Db}
    (hinit : (∃ now, init = seeded now) ∨ init.questions = [])
    (h : Steps io (fun c => c.userID ≠ "system") init db) :
    WellFormed db.toTables ∧ DefaultsIntact db.toTables := by
  have hstart : WellFormed init.toTables ∧ DefaultsIntact init.toTables := by
    rcases hinit with ⟨now, rfl⟩ | hempty
    · exact ⟨wellFormed_seeded now, defaultsIntact_seeded now⟩
    · refine ⟨wellFormed_of_no_questions hempty, fun i _ => .inl ?_⟩
      rw [hempty]
      simp
  refine ⟨h.wellFormed hstart.1, ?_⟩
  exact h.changes (I := fun db => DefaultsIntact db.toTables)
    (fun _ _ _ _ hc hd hchange => hd.change hc hchange)
    (fun _ now p deletedAt hd => hd.setDeletedAt now p deletedAt) hstart.2

/-! ## Serving and judging agree -/

/-- The question `q` can be answered in `db`: it has four choices in order, and
for every caller exactly the choice `correct` is judged right. -/
structure Answerable (io : UuidReaders) (db : Db) (q : Question) : Prop where
  ordinals : q.choices.map Choice.ordinal = [0, 1, 2, 3]
  ids : (q.choices.map Choice.id).Nodup
  judged : ∃ correct ∈ q.choices.map Choice.id, ∀ c ∈ q.choices, ∀ u, storable u = true →
    ∀ τ : ℕ → OpTick, (∀ n, (τ n).FreshAttempt db) → ∃ attemptID db',
      (Call.submitAnswer u q.id c.id).perform io τ db =
        (.ok (.answer ⟨c.id == correct, correct, attemptID⟩), db')

/-- An outcome of `SubmitAnswer` is the outcome of the call. -/
theorem perform_of_post {u questionID choiceID : String} {A : OpTick → Prop} {db : Db}
    {isCorrect : Bool} {correct : String}
    (h : (submitAnswer io u questionID choiceID).Post (DbOp.exec io) A db
      fun x _ => ∃ attemptID, x = .ok ⟨isCorrect, correct, attemptID⟩)
    {τ : ℕ → OpTick} (hτ : ∀ n, A (τ n)) : ∃ attemptID db',
      (Call.submitAnswer u questionID choiceID).perform io τ db =
        (.ok (.answer ⟨isCorrect, correct, attemptID⟩), db') := by
  obtain ⟨attemptID, hok⟩ := h τ hτ
  exact ⟨attemptID, _, Prog.run_bind_ok (Prod.ext hok rfl) _⟩

/-- A stored question can be answered. -/
theorem WellFormed.answerable {db : Db} (hw : WellFormed db.toTables) {r : QuestionRow}
    (hr : r ∈ db.questions) : Answerable io db (r.served db) := by
  obtain ⟨k, hk, hkq⟩ := List.mem_map.mp (hw.keys r hr)
  obtain ⟨correct, hcorrect, href⟩ := db.constraints.answerKeysChoice k hk
  rw [ChoiceRow.idQuestion, AnswerKeyRow.choiceRef, Prod.mk.injEq] at href
  have hids : (r.served db).choices.map Choice.id =
      ((db.choicesInOrder r.id).map ChoiceRow.id).map Uuid.text := by
    rw [QuestionRow.served, List.map_map, List.map_map]
    rfl
  refine ⟨?_, ?_, k.correctChoiceId.text, ?_, ?_⟩
  · rw [QuestionRow.served, List.map_map]
    exact hw.choicesInOrder hr
  · rw [hids]
    have hkey : ((db.choicesInOrder r.id).map ChoiceRow.id).Nodup :=
      ((choicesInOrder_perm db r.id).map ChoiceRow.id).nodup_iff.mpr
        (db.constraints.choicesPkey.filter _)
    exact hkey.map fun _ _ => io.text_injective
  · rw [hids]
    refine List.mem_map_of_mem (List.mem_map.mpr ⟨correct, ?_, href.1⟩)
    exact mem_choicesInOrder.mpr ⟨hcorrect, href.2.trans hkq⟩
  · intro c hc u hu τ hτ
    obtain ⟨row, hrow, rfl⟩ := List.mem_map.mp hc
    obtain ⟨hrow, hrowq⟩ := mem_choicesInOrder.mp hrow
    exact perform_of_post (post_submitAnswer_stored hr hk hkq hrow hrowq hu) hτ

/-- A question of the default set can be answered, stored or not. -/
theorem DefaultsIntact.answerable {db : Db} (hw : WellFormed db.toTables)
    (hd : DefaultsIntact db.toTables) {q : Question} (hq : q ∈ defaultQuestions) :
    Answerable io db q := by
  obtain ⟨i, hi, hpair⟩ : ∃ i ∈ defaultIDs,
      (i.text, (seededChoicesOf i).map ChoiceRow.toChoice) = (q.id, q.choices) := by
    have hmem : (q.id, q.choices) ∈ defaultQuestions.map fun q => (q.id, q.choices) :=
      List.mem_map_of_mem (f := fun q : Question => (q.id, q.choices)) hq
    rw [defaultQuestions_seeded] at hmem
    exact List.mem_map.mp hmem
  rw [Prod.mk.injEq] at hpair
  obtain ⟨hid, hchoices⟩ := hpair
  obtain ⟨hordinals, hnodup⟩ := seededChoicesOf_spec hi
  obtain ⟨k, hk, rfl⟩ : ∃ k ∈ seededAnswerKeys, k.questionId = i :=
    List.mem_map.mp (seededAnswerKeys_ids ▸ hi)
  obtain ⟨hcorrect, hlookup⟩ := seededAnswerKeys_spec k hk
  have hids : q.choices.map Choice.id =
      ((seededChoicesOf k.questionId).map ChoiceRow.id).map Uuid.text := by
    rw [← hchoices, List.map_map, List.map_map]
    rfl
  refine ⟨?_, ?_, k.correctChoiceId.text, ?_, ?_⟩
  · rw [← hchoices, List.map_map]
    exact hordinals
  · rw [hids]
    exact hnodup.map fun _ _ => io.text_injective
  · rw [hids]
    exact List.mem_map_of_mem hcorrect
  · intro c hc u hu τ hτ
    rw [← hchoices] at hc
    obtain ⟨row, hrow, rfl⟩ := List.mem_map.mp hc
    rw [← hid]
    rcases hd k.questionId hi with habsent | hs
    · -- the default set judges
      have hnone := Db.not_mem_answerKeys habsent
      refine perform_of_post ((post_submitAnswer_default hnone hlookup u row.id).mono ?_)
        fun n => (hτ n).quiet
      exact fun x _ hx => ⟨"", hx⟩
    · -- the seeded rows judge, whether deleted or not
      obtain ⟨r, hr, hrid, -⟩ := hs.stored
      obtain ⟨k', hk', hkq⟩ := List.mem_map.mp (hw.keys r hr)
      have hkey : k' = k := by
        have hmem := hs.keys k' hk' (hkq.trans hrid)
        exact (seededTables_constraints 0).answerKeysPkey.eq hmem hk (hkq.trans hrid)
      subst hkey
      have hrow' : row ∈ db.choicesOf k'.questionId := by
        rw [hs.choices]
        exact hrow
      obtain ⟨hrow', hrowq⟩ := mem_choicesOf.mp hrow'
      rw [← hrid]
      exact perform_of_post (post_submitAnswer_stored hr hk' hkq hrow' (hrowq.trans hkq) hu) hτ

/-- From the migrated database, or one without questions, whatever the users other
than `system` do and whichever questions are deleted: a question that `GetQuestion`
returns can be answered in the same state. -/
theorem served_is_answerable {init db : Db}
    (hinit : (∃ now, init = seeded now) ∨ init.questions = [])
    (h : Steps io (fun c => c.userID ≠ "system") init db) {requestID previous : String}
    {τ : ℕ → OpTick} {q : Question} {db' : Db}
    (hget : (Call.getQuestion requestID previous).perform io τ db = (.ok (.question q), db')) :
    Answerable io db q := by
  obtain ⟨hw, hd⟩ := h.defaultsIntact hinit
  obtain ⟨q', db₁, hrun, hreply⟩ := Prog.run_bind_eq_ok.mp hget
  cases hreply
  obtain ⟨-, hserves⟩ := post_getQuestion io (fun _ => True) db requestID previous τ
    fun _ => trivial
  rw [hrun] at hserves
  rcases hserves.ok with ⟨r, hr, rfl⟩ | ⟨-, hdefault⟩
  · exact hw.answerable (mem_candidates.mp hr).1
  · exact hd.answerable hw hdefault

/-- The third seeded question is served from the database, and, without any question in it, one of
the default set. -/
theorem served_is_answerable_start :
    (∃ q, ((Call.getQuestion "request" "").perform documentedReaders (calm 1 0) (seeded 0)).1 =
        .ok (.question q) ∧ q.id = Uuid.text 0x3 ∧ Answerable documentedReaders (seeded 0) q) ∧
      ∃ q ∈ defaultQuestions, ((Call.getQuestion "request" "").perform documentedReaders (calm 1 0)
        Db.empty).1 = .ok (.question q) ∧ Answerable documentedReaders Db.empty q := by
  have hanswerable : ∀ db : Db, ((∃ now, db = seeded now) ∨ db.questions = []) → ∀ q,
      ((Call.getQuestion "request" "").perform documentedReaders (calm 1 0) db).1 =
        .ok (.question q) → Answerable documentedReaders db q := by
    intro db hinit q hq
    exact served_is_answerable hinit .refl (Prod.ext hq rfl)
  have hdefault : ∀ db : Db, db.questions = [] → ∃ q ∈ defaultQuestions,
      ((Call.getQuestion "request" "").perform documentedReaders (calm 1 0) db).1 =
        .ok (.question q) := by
    intro db hnone
    rw [perform_getQuestion]
    obtain ⟨-, ⟨⟨r, hr, -⟩, -⟩ | ⟨-, hdefault⟩⟩ :=
      post_getQuestion_quiet documentedReaders db (by decide) (.inl rfl) "request" (calm 1 0)
        fun _ => rfl
    · rw [hnone] at hr
      cases hr
    · obtain ⟨q, hmem, hok, -⟩ := selectDefaultQuestion_mem "request" ""
      exact ⟨q, hmem, congrArg (Except.map Reply.question) (hdefault.trans hok)⟩
  have hserved : servedID ((Call.getQuestion "request" "").perform documentedReaders (calm 1 0)
      (seeded 0)).1 = some (Uuid.text 0x3) := by decide +kernel
  obtain ⟨q, hq, hid⟩ := servedID_eq_some.mp hserved
  obtain ⟨q', hmem, hq'⟩ := hdefault Db.empty rfl
  exact ⟨⟨q, hq, hid, hanswerable _ (.inl ⟨0, rfl⟩) q hq⟩, q', hmem, hq',
    hanswerable _ (.inr rfl) q' hq'⟩

end HistoryQuiz
