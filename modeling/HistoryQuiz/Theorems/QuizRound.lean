import HistoryQuiz.Client.Quiz
import HistoryQuiz.Logic.EditForm
import HistoryQuiz.Logic.Judging
import HistoryQuiz.Logic.Ledger
import HistoryQuiz.Theorems.Answerable
import HistoryQuiz.Theorems.Update

/-!
# A round of the quiz

From the question to the verdict: `GetQuestion` replies with a question that has four choices, and
`SubmitAnswer` judges any of them and records the answer. Between the two everybody may use the
service; only an edit of the question itself is excluded (`quiz_round`). On the way are the
candidate queries, the form of the page, the judging and the record of the attempt.
-/

namespace HistoryQuiz

open QuizUsecase Effect

variable {io : UuidReaders}

/-! ## While a question is looked at -/

/-- The calls that the page of a question survives: those of all users but `system`, except an
edit of the question. -/
def Call.Spares (io : UuidReaders) (questionID : String) (c : Call) : Prop :=
  c.userID ≠ "system" ∧
    ∀ u id draft, c = .updateQuestion u id draft → io.cast id ≠ io.cast questionID

/-- The rows of a question that a page shows. -/
def ShownChoices (q : Uuid) (choices : List ChoiceRow) (db : Db) : Prop :=
  (∃ r ∈ db.questions, r.id = q) ∧ db.choicesOf q = choices

theorem Step.mono {may may' : Call → Prop} (hmay : ∀ c, may c → may' c) {db db' : Db}
    (h : Step io may db db') : Step io may' db db' := by
  cases h with
  | call c τ hc => exact .call c τ (hmay c hc)
  | setDeletedAt now p deletedAt => exact .setDeletedAt now p deletedAt

theorem ShownChoices.change {q : Uuid} {choices : List ChoiceRow} {c : Call} {t : OpTick}
    {db db' : Db} (hc : c.Spares io q.text) (hdb : ShownChoices q choices db)
    (h : Change io c t db db') : ShownChoices q choices db' := by
  obtain ⟨⟨r, hr, hid⟩, hchoices⟩ := hdb
  cases h with
  | same h => rw [h]; exact ⟨⟨r, hr, hid⟩, hchoices⟩
  | user hu h =>
      unfold ShownChoices
      rw [h]
      exact ⟨⟨r, hr, hid⟩, hchoices⟩
  | attempt u questionID choiceID row hsubmit hu huser hquestion hchoice hrow h =>
      unfold ShownChoices
      rw [h]
      exact ⟨⟨r, hr, hid⟩, hchoices⟩
  | created u draft detail hcreate hu hdraft h =>
      have hne : q ≠ (createdRow u draft t).id := fun heq =>
        h.fresh (heq ▸ hid ▸ List.mem_map_of_mem hr)
      refine ⟨⟨r, ?_, hid⟩, (h.choicesOf_other hne).trans hchoices⟩
      obtain ⟨correct, -, -, -, htables⟩ := h.committed
      rw [htables]
      exact List.mem_append_left _ hr
  | updated u questionID draft detail q' hupdate hu hdraft h =>
      have hne : q ≠ q' := by
        rintro rfl
        exact hc.2 u questionID draft hupdate (h.cast.trans (io.cast_text q).symm)
      refine ⟨⟨r, ?_, hid⟩, (h.choicesOf_other hne).trans hchoices⟩
      obtain ⟨correct, -, -, -, htables⟩ := h.committed
      rw [htables]
      refine List.mem_map.mpr ⟨r, hr, if_neg ?_⟩
      rw [hid]
      exact hne

theorem ShownChoices.steps {q : Uuid} {choices : List ChoiceRow} {db db' : Db}
    (h : Steps io (Call.Spares io q.text) db db') (hdb : ShownChoices q choices db) :
    ShownChoices q choices db' := by
  refine h.changes (I := ShownChoices q choices)
    (fun _ _ _ _ hc hdb hchange => hdb.change hc hchange) ?_ hdb
  rintro db now p deletedAt ⟨⟨r, hr, hid⟩, hchoices⟩
  refine ⟨⟨_, List.mem_map_of_mem hr, ?_⟩, hchoices⟩
  split <;> exact hid

/-- Judging looks at the id and at the choices of a question only. -/
theorem Answerable.congr {db : Db} {q q' : Question} (hid : q'.id = q.id)
    (hchoices : q'.choices = q.choices) (h : Answerable io db q) : Answerable io db q' := by
  obtain ⟨hordinals, hids, hjudged⟩ := h
  refine ⟨?_, ?_, ?_⟩ <;> rw [hchoices]
  · exact hordinals
  · exact hids
  · rw [hid]
    exact hjudged

/-- The ids of a question and of its choices are canonical texts. -/
structure Question.Canonical (q : Question) : Prop where
  id : ∃ i : Uuid, q.id = i.text
  choices : ∀ c ∈ q.choices, ∃ i : Uuid, c.id = i.text

theorem QuestionRow.served_canonical (r : QuestionRow) (db : Db) : (r.served db).Canonical := by
  refine ⟨⟨r.id, rfl⟩, ?_⟩
  intro c hc
  obtain ⟨row, -, rfl⟩ := List.mem_map.mp hc
  exact ⟨row.id, rfl⟩

theorem canonical_default {q : Question} (hq : q ∈ defaultQuestions) : q.Canonical := by
  have hmem : (q.id, q.choices) ∈ defaultQuestions.map fun q => (q.id, q.choices) :=
    List.mem_map_of_mem (f := fun q : Question => (q.id, q.choices)) hq
  rw [defaultQuestions_seeded] at hmem
  obtain ⟨i, -, hpair⟩ := List.mem_map.mp hmem
  obtain ⟨hid, hchoices⟩ := Prod.mk.inj hpair
  refine ⟨⟨i, hid.symm⟩, ?_⟩
  intro c hc
  rw [← hchoices] at hc
  obtain ⟨row, -, rfl⟩ := List.mem_map.mp hc
  exact ⟨row.id, rfl⟩

/-- A question that was served can still be answered when the database has moved on. -/
theorem served_lasts {init db db' : Db} (hinit : (∃ now, init = seeded now) ∨ init.questions = [])
    (hdb : Steps io (fun c => c.userID ≠ "system") init db) {q : Question}
    (hq : (∃ r ∈ db.questions, q = r.served db) ∨ q ∈ defaultQuestions)
    (hdb' : Steps io (Call.Spares io q.id) db db') :
    WellFormed db'.toTables ∧ Answerable io db' q := by
  have hothers : Steps io (fun c => c.userID ≠ "system") db db' := hdb'.lift id fun _ _ hstep =>
    hstep.mono fun _ hc => hc.1
  have hsteps : Steps io (fun c => c.userID ≠ "system") init db' := hdb.trans hothers
  obtain ⟨hw, hd⟩ := hsteps.defaultsIntact hinit
  refine ⟨hw, ?_⟩
  rcases hq with ⟨r, hr, rfl⟩ | hdefault
  · obtain ⟨⟨r', hr', hid⟩, hchoices⟩ := ShownChoices.steps hdb' ⟨⟨r, hr, rfl⟩, rfl⟩
    have hsame : (r.served db).choices = (r'.served db').choices := by
      unfold QuestionRow.served Db.choicesInOrder
      rw [hid, hchoices]
    have hsameId : (r.served db).id = (r'.served db').id := congrArg Uuid.text hid.symm
    exact (hw.answerable hr').congr hsameId hsame
  · exact hd.answerable hw hdefault

/-! ## What an answer leaves -/

/-- What becomes of the attempts when an answer is given that attempt id: an answer by a user to a
stored question is recorded under the id, and without one nothing is. -/
inductive Recorded (db db' : Db) (u questionID choiceID : String) (isCorrect : Bool) : String → Prop
  | unrecorded (hnobody : u = "" ∨ ∀ r ∈ db.questions, r.id.text ≠ questionID)
      (hattempts : db'.attempts = db.attempts) : Recorded db db' u questionID choiceID isCorrect ""
  | recorded (row : AttemptRow) (hu : u ≠ "") (huser : row.userId = u)
      (hquestion : row.questionId.text = questionID)
      (hchoice : row.selectedChoiceId.text = choiceID) (hverdict : row.isCorrect = isCorrect)
      (hstored : ∃ r ∈ db.questions, r.id.text = questionID)
      (hattempts : db'.attempts = db.attempts ++ [row]) :
      Recorded db db' u questionID choiceID isCorrect row.id.text

/-- A verdict for a user has an attempt. -/
theorem recordAnswer_attemptID {u questionID choiceID correct : String} {isCorrect : Bool}
    (hu : u ≠ "") {τ : ℕ → OpTick} {db db' : Db} {r : SubmitAnswerResult}
    (h : (recordAnswer u questionID choiceID isCorrect correct).run (DbOp.exec io) τ db =
      (.ok r, db')) : r.attemptID ≠ "" := by
  unfold recordAnswer at h
  rw [if_neg hu, Prog.bind_eq] at h
  obtain ⟨_, db₁, -, h⟩ := Prog.run_bind_eq_ok.mp h
  obtain ⟨attemptID, db₂, hattempt, h⟩ := Prog.run_bind_eq_ok.mp h
  cases h
  unfold AttemptRepository.createAttempt at hattempt
  rw [if_neg hu] at hattempt
  split_ifs at hattempt
  · cases hattempt
  · cases hattempt
  · rw [Prog.bind_eq, run_query_bind] at hattempt
    cases hexec : PoolStmt.exec io (.insertAttempt u questionID choiceID isCorrect)
        (later τ ((UserRepository.ensureUserExists u).steps (DbOp.exec io) τ db) 0).first db₁ with
    | mk outcome db₃ =>
        rw [hexec] at hattempt
        cases outcome with
        | error e => cases hattempt
        | ok id =>
            cases hattempt
            rw [(insertAttempt_ok (Tick.guard_eq_ok.mp hexec).2).2.1]
            exact Uuid.text_ne_empty _

/-- An answer by a user to a stored question has an attempt. -/
theorem submitAnswer_attemptID {db : Db} (hw : WellFormed db.toTables) {u : String} (hu : u ≠ "")
    {r : QuestionRow} (hr : r ∈ db.questions) {c : Uuid} {τ : ℕ → OpTick} {db' : Db}
    {result : SubmitAnswerResult}
    (h : (submitAnswer io u r.id.text c.text).run (DbOp.exec io) τ db = (.ok result, db')) :
    result.attemptID ≠ "" := by
  obtain ⟨k, hk, hkq⟩ := List.mem_map.mp (hw.keys r hr)
  rw [run_submitAnswer_keyed (spells_text io r.id) (spells_text io c) hk hkq] at h
  split_ifs at h
  · cases h
  · cases h
  · exact recordAnswer_attemptID hu h
  · cases h

theorem submitAnswer_recorded {db : Db} (hw : WellFormed db.toTables) {u : String} {q c : Uuid}
    {isCorrect : Bool} {correct attemptID : String} {τ : ℕ → OpTick} {db' : Db}
    (h : (Call.submitAnswer u q.text c.text).perform io τ db =
      (.ok (.answer ⟨isCorrect, correct, attemptID⟩), db')) :
    Recorded db db' u q.text c.text isCorrect attemptID := by
  have hreplay : Replays (Book.Step io) db.toTables.book
      (answerWrites u q.text c.text isCorrect attemptID) db'.toTables.book := by
    have hwrites := Call.perform_writes io (.submitAnswer u q.text c.text) τ db
    rw [h] at hwrites
    exact hwrites
  unfold answerWrites at hreplay
  split_ifs at hreplay with hid
  · -- no attempt, so no write
    subst hid
    refine .unrecorded ?_ (congrArg Book.attempts hreplay.eq_of_nil)
    by_contra hboth
    push Not at hboth
    obtain ⟨hu, r, hr, hrq⟩ := hboth
    obtain ⟨result, _, hrun, hreply⟩ := Prog.run_bind_eq_ok.mp h
    cases hreply
    rw [← hrq] at hrun
    exact submitAnswer_attemptID hw hu hr hrun rfl
  · -- the write of the attempt
    generalize hbook : db'.toTables.book = book' at hreplay
    cases hreplay.step_of_singleton with
    | answered row hu huser hquestion hchoice hknown =>
        rw [io.cast_text, Option.some.injEq] at hquestion hchoice
        obtain ⟨e, he, heq⟩ := hknown
        obtain ⟨r, hr, rfl⟩ := List.mem_map.mp he
        exact .recorded row hu huser (congrArg Uuid.text hquestion.symm)
          (congrArg Uuid.text hchoice.symm) rfl ⟨r, hr, by rw [hquestion]; exact congrArg _ heq⟩
          (congrArg Book.attempts hbook)

/-! ## The round -/

/-- `GetQuestion` replies with a question that is stored or one of the default set. -/
theorem perform_getQuestion_quiet (io : UuidReaders) (db : Db) {previous : String}
    (hstorable : storable previous = true)
    (hprevious : previous = "" ∨ (io.parse previous).isSome) (requestID : String)
    {τ : ℕ → OpTick} (hτ : QuietStmts τ) :
    ∃ question, ((∃ r ∈ db.questions, question = r.served db) ∨ question ∈ defaultQuestions) ∧
      (Call.getQuestion requestID previous).perform io τ db = (.ok (.question question), db) := by
  rw [perform_getQuestion]
  obtain ⟨hstate, ⟨-, r, hr, -, hserved⟩ | ⟨-, hdefault⟩⟩ :=
    post_getQuestion_quiet io db hstorable hprevious requestID τ hτ
  · exact ⟨_, .inl ⟨r, hr, rfl⟩, Prod.ext (congrArg (Except.map Reply.question) hserved) hstate⟩
  · obtain ⟨q, hq, hok, -⟩ := selectDefaultQuestion_mem requestID previous
    exact ⟨q, .inr hq, Prod.ext (congrArg (Except.map Reply.question) (hdefault.trans hok)) hstate⟩

/-- The form of a page posts the ids of its question and of a choice, and the schema of the route
returns them as they are. -/
def PostsUnchanged (question : Question) (choice : Choice) : Prop :=
  ∀ (conform : Client.Conform) formData,
    conform.parseAnswer formData = some ⟨some (.text question.id), some (.text choice.id)⟩ →
      Client.parseAnswerWithZod conform formData = .ok ⟨question.id, choice.id⟩

theorem Question.Canonical.postsUnchanged {question : Question} (h : question.Canonical)
    {choice : Choice} (hchoice : choice ∈ question.choices) : PostsUnchanged question choice := by
  intro conform formData hfields
  have htext : ∀ i : Uuid, Client.requiredText (some (.text i.text)) = some i.text := fun i =>
    Client.requiredText_trimmed ⟨Client.trim_text i, i.text_ne_empty⟩
  obtain ⟨i, hi⟩ := h.id
  obtain ⟨j, hj⟩ := h.choices choice hchoice
  unfold Client.parseAnswerWithZod
  rw [hfields, hi, hj]
  dsimp only
  rw [htext, htext]

/-- From the migrated database, or one without questions, whatever the users other than `system`
have done: `GetQuestion` replies with a question with four choices. While a visitor looks at it,
everybody may use the service and operators may delete the question; unless the question is
edited, exactly one of the choices is correct. The form of the page posts the ids as they are, and
`SubmitAnswer` replies to any of the choices with the verdict on it. The answer is recorded, once
and under the visitor's name, exactly when the visitor is logged in and the question is stored. -/
theorem quiz_round {init db : Db} (hinit : (∃ now, init = seeded now) ∨ init.questions = [])
    (hdb : Steps io (fun c => c.userID ≠ "system") init db) {previous : String}
    (hstorable : storable previous = true)
    (hprevious : previous = "" ∨ (io.parse previous).isSome) (requestID : String)
    {τ : ℕ → OpTick} (hτ : QuietStmts τ) :
    ∃ question,
      (Call.getQuestion requestID previous).perform io τ db = (.ok (.question question), db) ∧
      question.choices.map Choice.ordinal = [0, 1, 2, 3] ∧
      ∀ db₁, Steps io (Call.Spares io question.id) db db₁ →
        ∃ correct ∈ question.choices.map Choice.id, ∀ choice ∈ question.choices,
          PostsUnchanged question choice ∧
          ∀ u, storable u = true → ∀ τ' : ℕ → OpTick, (∀ n, (τ' n).FreshAttempt db₁) →
          ∃ attemptId db',
            (Call.submitAnswer u question.id choice.id).perform io τ' db₁ =
              (.ok (.answer ⟨choice.id == correct, correct, attemptId⟩), db') ∧
            Recorded db₁ db' u question.id choice.id (choice.id == correct) attemptId := by
  obtain ⟨question, hquestion, hperform⟩ :=
    perform_getQuestion_quiet io db hstorable hprevious requestID hτ
  have hcanonical : question.Canonical := by
    rcases hquestion with ⟨r, -, rfl⟩ | hdefault
    · exact r.served_canonical db
    · exact canonical_default hdefault
  refine ⟨question, hperform, (served_lasts hinit hdb hquestion .refl).2.ordinals, ?_⟩
  intro db₁ hdb₁
  obtain ⟨hw, -, -, correct, hcorrect, hjudged⟩ := served_lasts hinit hdb hquestion hdb₁
  refine ⟨correct, hcorrect, ?_⟩
  intro choice hchoice
  refine ⟨hcanonical.postsUnchanged hchoice, ?_⟩
  intro u hu τ' hτ'
  obtain ⟨attemptId, db', hanswer⟩ := hjudged choice hchoice u hu τ' hτ'
  refine ⟨attemptId, db', hanswer, ?_⟩
  obtain ⟨q, hq⟩ := hcanonical.id
  obtain ⟨c, hc⟩ := hcanonical.choices choice hchoice
  rw [hq, hc] at hanswer ⊢
  exact submitAnswer_recorded hw hanswer

/-! ### Alice plays a round -/

/-- On the migrated database each answer of Alice is recorded, and so it is when Bob has created a
question meanwhile. -/
theorem quiz_round_alice : ∃ question,
    ((Call.getQuestion "request" "").perform documentedReaders (calm 1 0) (seeded 0)).1 =
      .ok (.question question) ∧
    ∀ db ∈ [seeded 0, createdStore], ∃ correct, ∀ choice ∈ question.choices, ∃ attemptId db',
      ((Call.submitAnswer "alice" question.id choice.id).perform documentedReaders
        (calm 2 8) db).1 = .ok (.answer ⟨choice.id == correct, correct, attemptId⟩) ∧
      Recorded db db' "alice" question.id choice.id (choice.id == correct) attemptId := by
  have hstart : Steps documentedReaders (fun c => c.userID ≠ "system") (seeded 0) (seeded 0) :=
    .refl
  obtain ⟨question, hperform, -, hround⟩ := quiz_round (.inl ⟨0, rfl⟩) hstart
    (show storable "" = true by decide) (.inl rfl) "request"
    (show QuietStmts (calm 1 0) from fun _ => rfl)
  refine ⟨question, congrArg Prod.fst hperform, ?_⟩
  have hsteps : ∀ db ∈ [seeded 0, createdStore],
      Steps documentedReaders (Call.Spares documentedReaders question.id) (seeded 0) db ∧
        ∀ n, (calm 2 8 n).FreshAttempt db := by
    intro db hdb
    rcases List.mem_pair.mp hdb with rfl | rfl
    · exact ⟨.refl, fun n => ⟨rfl, List.not_mem_nil⟩⟩
    · have hnone : createdStore.attempts = [] := by decide +kernel
      refine ⟨.single (.call _ _ ⟨by decide, ?_⟩), fun n => ⟨rfl, hnone ▸ List.not_mem_nil⟩⟩
      rintro u id draft ⟨⟩
  intro db hdb
  obtain ⟨correct, -, hanswers⟩ := hround db (hsteps db hdb).1
  refine ⟨correct, ?_⟩
  intro choice hchoice
  obtain ⟨attemptId, db', hanswer, hrecorded⟩ :=
    (hanswers choice hchoice).2 "alice" (by decide) (calm 2 8) (hsteps db hdb).2
  exact ⟨attemptId, db', congrArg Prod.fst hanswer, hrecorded⟩

end HistoryQuiz
