import HistoryQuiz.Base.Interleave
import HistoryQuiz.Logic.Store
import HistoryQuiz.Theorems.Update

/-!
# Verdicts under concurrency

`SubmitAnswer` reads the key, checks the choice and records the attempt in
separate statements, so updates can commit in between. Its verdict is still true
when it is recorded, and stays true:

* an update gives the question new choices, with ids that no request in flight
  carries; so a choice that is there when the attempt is inserted has been there
  all the time, and the key with it (`Change.keeps`);
* once the attempt is recorded, its foreign key stops every further update of the
  question (`TrueVerdicts.change`).
-/

namespace HistoryQuiz

open Relational Effect

variable {io : UuidReaders}

/-- Every recorded verdict agrees with the answer key that is stored. -/
def TrueVerdicts (t : Tables) : Prop :=
  ∀ a ∈ t.attempts, a.isCorrect = true ↔
    (⟨a.questionId, a.selectedChoiceId⟩ : AnswerKeyRow) ∈ t.answerKeys

/-! ## What a request may assume of the others -/

/-- If the choice `d` of the question `q` is there, it was there before, and so
was the key of the question. -/
def Keeps (q d : Uuid) (db db' : Db) : Prop :=
  (d, q) ∈ db'.choices.map ChoiceRow.idQuestion →
    (d, q) ∈ db.choices.map ChoiceRow.idQuestion ∧
      ∀ k : AnswerKeyRow, k.questionId = q → (k ∈ db'.answerKeys ↔ k ∈ db.answerKeys)

theorem Keeps.refl (q d : Uuid) (db : Db) : Keeps q d db db := fun h => ⟨h, fun _ _ => Iff.rfl⟩

theorem Keeps.trans {q d : Uuid} {db₁ db₂ db₃ : Db} (h₁ : Keeps q d db₁ db₂)
    (h₂ : Keeps q d db₂ db₃) : Keeps q d db₁ db₃ := by
  intro hmem
  obtain ⟨hmem₂, hkeys₂⟩ := h₂ hmem
  obtain ⟨hmem₁, hkeys₁⟩ := h₁ hmem₂
  exact ⟨hmem₁, fun k hk => (hkeys₂ k hk).trans (hkeys₁ k hk)⟩

/-- No operation brings back a choice whose id it has not drawn. -/
theorem Change.keeps {c : Call} {t : OpTick} {db db' : Db} (h : Change io c t db db') {q d : Uuid}
    (hd : ∀ n, (t.body n).uuid.value ≠ d) : Keeps q d db db' := by
  cases h with
  | same h =>
      rw [h]
      exact .refl q d db
  | user hu h =>
      intro hmem
      rw [h] at hmem ⊢
      exact ⟨hmem, fun _ _ => Iff.rfl⟩
  | attempt u questionID choiceID row hc hu huser hquestion hchoice hid h =>
      intro hmem
      rw [h] at hmem ⊢
      exact ⟨hmem, fun _ _ => Iff.rfl⟩
  | created u draft detail hc hu hdraft h =>
      intro hmem
      obtain ⟨correct, -, -, -, htables⟩ := h.committed
      rw [htables, Tables.withQuestion] at hmem ⊢
      rw [List.map_append, List.mem_append] at hmem
      rcases hmem with hold | hnew
      · refine ⟨hold, ?_⟩
        -- the question of an old choice is not the new one
        obtain ⟨row, hrow, href⟩ := List.mem_map.mp hold
        obtain ⟨r, hr, hid⟩ := db.constraints.choicesQuestion row hrow
        have hq : q ≠ (createdRow u draft t).id := by
          intro heq
          refine h.fresh (List.mem_map.mpr ⟨r, hr, ?_⟩)
          rw [hid, ← heq]
          exact congrArg Prod.snd href
        intro k hk
        rw [List.mem_append, List.mem_singleton]
        refine or_iff_left ?_
        rintro rfl
        exact hq hk.symm
      · obtain ⟨row, hrow, href⟩ := List.mem_map.mp hnew
        obtain ⟨n, hn⟩ := id_of_mem_choiceRows hrow
        exact absurd (hn.symm.trans (congrArg Prod.fst href)) (hd (n + 1))
  | updated u questionID draft detail q' hc hu hdraft h =>
      intro hmem
      obtain ⟨correct, -, -, -, htables⟩ := h.committed
      rw [htables, Tables.rewritten] at hmem ⊢
      rw [List.map_append, List.mem_append] at hmem
      rcases hmem with hold | hnew
      · -- the choice has survived, so its question is not the updated one
        obtain ⟨row, hrow, href⟩ := List.mem_map.mp hold
        obtain ⟨hrow, hother⟩ := List.mem_filter.mp hrow
        have hq : q ≠ q' := by
          rw [← show row.questionId = q from congrArg Prod.snd href]
          simpa using hother
        refine ⟨List.mem_map.mpr ⟨row, hrow, href⟩, ?_⟩
        intro k hk
        rw [List.mem_append, List.mem_singleton, List.mem_filter]
        constructor
        · rintro (hold | rfl)
          · exact hold.1
          · exact absurd hk.symm hq
        · intro hold
          exact .inl ⟨hold, by simpa [hk] using hq⟩
      · obtain ⟨row, hrow, href⟩ := List.mem_map.mp hnew
        obtain ⟨n, hn⟩ := id_of_mem_choiceRows hrow
        exact absurd (hn.symm.trans (congrArg Prod.fst href)) (hd (n + 2))

/-! ## What keeps the verdicts true -/

/-- Only the insertion of an attempt can make a verdict wrong: a question that
has been answered keeps its key. -/
theorem TrueVerdicts.change {c : Call} {t : OpTick} {db db' : Db} (hv : TrueVerdicts db.toTables)
    (h : Change io c t db db') (hc : ∀ u q d, c ≠ .submitAnswer u q d) :
    TrueVerdicts db'.toTables := by
  cases h with
  | same h => rwa [h]
  | user hu h =>
      rw [h]
      exact hv
  | attempt u questionID choiceID row hsubmit => exact absurd hsubmit (hc _ _ _)
  | created u draft detail hcreate hu hdraft h =>
      obtain ⟨correct, -, -, -, htables⟩ := h.committed
      rw [htables]
      intro a ha
      -- the question of the attempt is an old one
      obtain ⟨r, hr, hid⟩ := db.constraints.attemptsQuestion a ha
      have hq : a.questionId ≠ (createdRow u draft t).id := fun heq =>
        h.fresh (List.mem_map.mpr ⟨r, hr, hid.trans heq⟩)
      rw [hv a ha, Tables.withQuestion, List.mem_append, List.mem_singleton]
      refine (or_iff_left ?_).symm
      intro heq
      exact hq (congrArg AnswerKeyRow.questionId heq)
  | updated u questionID draft detail q hupdate hu hdraft h =>
      obtain ⟨correct, -, -, -, htables⟩ := h.committed
      rw [htables]
      intro a ha
      have hq : a.questionId ≠ q := h.unanswered a ha
      rw [hv a ha, Tables.rewritten, List.mem_append, List.mem_singleton, List.mem_filter]
      constructor
      · intro hmem
        exact .inl ⟨hmem, by simpa using hq⟩
      · rintro (hmem | heq)
        · exact hmem.1
        · exact absurd (congrArg AnswerKeyRow.questionId heq) hq

/-! ## The discipline of the calls -/

/-- The ids that a call carries. -/
def Call.Carries (io : UuidReaders) : Call → Uuid → Prop
  | submitAnswer _ questionID choiceID, u => io.cast questionID = some u ∨ io.cast choiceID = some u
  | updateQuestion _ questionID _, u => io.cast questionID = some u
  | getMyQuestion _ questionID, u => io.cast questionID = some u
  | getQuestion _ previousQuestionID, u => io.cast previousQuestionID = some u
  | _, _ => False

/-- The generator draws no id that the call carries. -/
def Call.Fresh (io : UuidReaders) (c : Call) (t : OpTick) : Prop :=
  ∀ u, c.Carries io u → t.first.uuid.value ≠ u ∧ ∀ n, (t.body n).uuid.value ≠ u

/-- What a call may assume of the steps of others. -/
def Call.Rely (io : UuidReaders) : Call → Db → Db → Prop
  | submitAnswer _ questionID choiceID, db, db' =>
      ∀ q d, io.cast questionID = some q → io.cast choiceID = some d → Keeps q d db db'
  | _, _, _ => True

/-- Ids are in the form in which the server gives them out. -/
def Call.Canonical : Call → Prop
  | submitAnswer _ questionID choiceID => ∃ q d : Uuid, questionID = q.text ∧ choiceID = d.text
  | updateQuestion _ questionID _ => ∃ q : Uuid, questionID = q.text
  | _ => True

/-- The calls of the service as requests of a pool. -/
def verdictDiscipline (io : UuidReaders) : Discipline DbOp Call OpTick Db where
  handler := DbOp.exec io
  Fresh := Call.Fresh io
  Rely := Call.Rely io
  Inv := fun db => TrueVerdicts db.toTables
  rely_refl := by
    intro c db
    cases c with
    | submitAnswer u questionID choiceID => exact fun q d _ _ => .refl q d db
    | _ => trivial
  rely_trans := by
    intro c db₁ db₂ db₃ h₁ h₂
    cases c with
    | submitAnswer u questionID choiceID =>
        exact fun q d hq hd => (h₁ q d hq hd).trans (h₂ q d hq hd)
    | _ => trivial

/-- Every change on fresh ids stays within what the calls in flight rely on. -/
theorem Change.rely {c c' : Call} {t : OpTick} {db db' : Db} (h : Change io c t db db')
    (hfresh : c'.Fresh io t) : c'.Rely io db db' := by
  cases c' with
  | submitAnswer u questionID choiceID =>
      intro q d hq hd
      exact h.keeps (hfresh d (.inr hd)).2
  | _ => trivial

/-- A call other than `SubmitAnswer` is safe. -/
theorem safe_of_ne_submitAnswer {c : Call} (hc : ∀ u q d, c ≠ .submitAnswer u q d) (db : Db) :
    (c.prog io).Safe (verdictDiscipline io) c db := by
  refine Prog.safe_of_uses ?_ (c.prog_uses io) db
  intro β op t db hop hv
  have hchange : Change io c t db (DbOp.exec io op t db).2 := hop.change t db
  exact ⟨hv.change hchange hc, fun c' hfresh => hchange.rely hfresh⟩

/-! ## `SubmitAnswer` -/

section SubmitAnswer

variable {u : String} {q d : Uuid} {α : Type}

/-- The request of the user `u` for the choice `d` of the question `q`. -/
abbrev answerCall (u : String) (q d : Uuid) : Call := .submitAnswer u q.text d.text

/-- As long as the choice is there, `correct` is the key of its question. -/
def KnowsKey (q d : Uuid) (correct : String) (db : Db) : Prop :=
  (d, q) ∈ db.choices.map ChoiceRow.idQuestion →
    ∃ k ∈ db.answerKeys, k.questionId = q ∧ k.correctChoiceId.text = correct

theorem KnowsKey.rely {correct : String} {db db' : Db} (h : KnowsKey q d correct db) {u : String}
    (hrely : (answerCall u q d).Rely io db db') : KnowsKey q d correct db' := by
  intro hmem
  obtain ⟨hold, hkeys⟩ := hrely q d (io.cast_text q) (io.cast_text d) hmem
  obtain ⟨k, hk, hkq, hcorrect⟩ := h hold
  exact ⟨k, (hkeys k hkq).mpr hk, hkq, hcorrect⟩

/-- A statement of a request, from whatever state the others have left. -/
theorem ensures_query {c : Call} {β : Type} {s : PoolStmt β} {f : β → DbProg α}
    {Q : Except GoError α → Db → Prop} {db : Db}
    (h : ∀ db₁, c.Rely io db db₁ → TrueVerdicts db₁.toTables → ∀ t : OpTick,
      (verdictDiscipline io).Guarantees t db₁ (PoolStmt.exec io s t.first db₁).2 ∧
        (f (PoolStmt.exec io s t.first db₁).1).Ensures (verdictDiscipline io) c Q
          (PoolStmt.exec io s t.first db₁).2) :
    ((query s).bind f).Ensures (verdictDiscipline io) c Q db :=
  fun db₁ hrely hv t _ => h db₁ hrely hv t

/-- A read by a request: it goes on from the same state. -/
theorem ensures_read {c : Call} {β : Type} {s : PoolStmt β} (hs : s.Reads) {f : β → DbProg α}
    {Q : Except GoError α → Db → Prop} {db : Db}
    (h : ∀ db₁, c.Rely io db db₁ → ∀ t : Tick,
      (f (PoolStmt.exec io s t db₁).1).Ensures (verdictDiscipline io) c Q db₁) :
    ((query s).bind f).Ensures (verdictDiscipline io) c Q db := by
  refine ensures_query ?_
  intro db₁ hrely hv t
  rw [PoolStmt.exec_reads hs]
  exact ⟨⟨hv, fun r _ => (verdictDiscipline io).rely_refl r db₁⟩, h db₁ hrely t.first⟩

/-- The key that `GetCorrectChoiceID` returns is the stored one. -/
theorem ensures_getCorrectChoiceID {c : Call} (q : Uuid) (db : Db) :
    (QuestionRepository.getCorrectChoiceID q.text).Ensures (verdictDiscipline io) c
      (fun x db => ∀ correct, x = .ok correct →
        ∃ k ∈ db.answerKeys, k.questionId = q ∧ k.correctChoiceId.text = correct) db := by
  refine ensures_read (show PoolStmt.Reads (.selectCorrectChoiceID q.text) from trivial) ?_
  intro db₁ _ t
  rw [PoolStmt.exec, Tick.guard]
  cases t.fault with
  | true =>
      intro correct h
      cases h
  | false =>
      simp only [Bool.false_eq_true, if_false, selectCorrectChoiceID, withUuid, io.cast_text]
      cases hfind : db₁.answerKeys.find? fun k => k.questionId = q with
      | none =>
          intro correct h
          cases h
      | some k =>
          intro correct h
          rw [Except.ok.injEq] at h
          exact ⟨k, List.mem_of_find?_eq_some hfind, by simpa using List.find?_some hfind, h⟩

/-- The insertion of the user leaves choices, keys and attempts alone. -/
theorem ensures_ensureUserExists {correct : String} {db : Db} (h : KnowsKey q d correct db) :
    (UserRepository.ensureUserExists u).Ensures (verdictDiscipline io) (answerCall u q d)
      (fun _ db => KnowsKey q d correct db) db := by
  unfold UserRepository.ensureUserExists
  split_ifs with hu
  · exact h
  · refine ensures_query ?_
    intro db₁ hrely hv t
    have hknows : KnowsKey q d correct db₁ := h.rely hrely
    have hchange : Change io (answerCall u q d) t db₁
        (PoolStmt.exec io (.insertUser u) t.first db₁).2 :=
      (ServiceOp.insertUser hu : ServiceOp (answerCall u q d) _).change t db₁
    -- only the users change
    have hsame : (PoolStmt.exec io (.insertUser u) t.first db₁).2 = db₁ ∨
        (PoolStmt.exec io (.insertUser u) t.first db₁).2.toTables = db₁.addUser ⟨u⟩ := by
      rw [PoolStmt.exec, Tick.guard]
      split
      · exact .inl rfl
      · exact insertUser_cases u db₁
    generalize PoolStmt.exec io (.insertUser u) t.first db₁ = answer at hchange hsame ⊢
    have hkept : TrueVerdicts answer.2.toTables ∧ KnowsKey q d correct answer.2 := by
      unfold KnowsKey
      rcases hsame with heq | heq
      · rw [heq]
        exact ⟨hv, hknows⟩
      · rw [heq]
        exact ⟨hv, hknows⟩
    refine ⟨⟨hkept.1, fun c' hfresh => hchange.rely hfresh⟩, ?_⟩
    cases answer.1 with
    | error e => exact hkept.2
    | ok a => exact hkept.2

/-- An attempt whose verdict compares with the known key keeps the verdicts true. -/
theorem TrueVerdicts.insertAttempt {correct : String} {t : Tick} {db db' : Db} {id : String}
    (hv : TrueVerdicts db.toTables) (h : KnowsKey q d correct db)
    (hins : insertAttempt io db u q.text d.text (d.text == correct) t = (.ok id, db')) :
    TrueVerdicts db'.toTables := by
  obtain ⟨-, -, q', d', hq, hd, hdb⟩ := insertAttempt_ok hins
  rw [io.cast_text, Option.some.injEq] at hq hd
  subst hq hd
  obtain ⟨-, -, -, hchoice, htables⟩ := Db.insertAttempt_eq_ok.mp hdb
  -- the foreign key has found the choice, so `correct` is the key
  obtain ⟨k, hk, hkq, hcorrect⟩ := h hchoice
  rw [htables]
  intro a ha
  rcases List.mem_append.mp ha with ha | ha
  · exact hv a ha
  · rw [List.mem_singleton.mp ha]
    show (d.text == correct) = true ↔ (⟨q, d⟩ : AnswerKeyRow) ∈ db.answerKeys
    rw [beq_iff_eq, ← hcorrect, io.text_inj]
    constructor
    · rintro rfl
      rw [← hkq]
      exact hk
    · intro hmem
      have heq := db.constraints.answerKeysPkey.eq hmem hk hkq.symm
      exact congrArg AnswerKeyRow.correctChoiceId heq

/-- The attempt that is recorded has a true verdict. -/
theorem safe_createAttempt {correct : String} {db : Db} (h : KnowsKey q d correct db) :
    (AttemptRepository.createAttempt u q.text d.text (d.text == correct)).Safe
      (verdictDiscipline io) (answerCall u q d) db := by
  unfold AttemptRepository.createAttempt
  split_ifs with hu
  · trivial
  · trivial
  · trivial
  · refine ensures_query ?_
    intro db₁ hrely hv t
    have hknows : KnowsKey q d correct db₁ := h.rely hrely
    have hop : ServiceOp (answerCall u q d)
        (.stmt (.insertAttempt u q.text d.text (d.text == correct))) :=
      .insertAttempt u q.text d.text _ rfl hu
    have hchange : Change io (answerCall u q d) t db₁ (PoolStmt.exec io
        (.insertAttempt u q.text d.text (d.text == correct)) t.first db₁).2 :=
      hop.change t db₁
    refine ⟨⟨?_, fun c' hfresh => hchange.rely hfresh⟩, ?_⟩
    · show TrueVerdicts (t.first.guard db₁
        (insertAttempt io db₁ u q.text d.text (d.text == correct) t.first)).2.toTables
      unfold Tick.guard
      split
      · exact hv
      · cases hins : insertAttempt io db₁ u q.text d.text (d.text == correct) t.first with
        | mk r db' =>
            cases r with
            | error e => rwa [insertAttempt_error hins]
            | ok id => exact hv.insertAttempt hknows hins
    · cases (PoolStmt.exec io (.insertAttempt u q.text d.text (d.text == correct)) t.first
          db₁).1 with
      | error e => trivial
      | ok id => trivial

/-- `SubmitAnswer` is safe. -/
theorem safe_submitAnswer (u : String) (q d : Uuid) (db : Db) :
    ((answerCall u q d).prog io).Safe (verdictDiscipline io) (answerCall u q d) db := by
  refine Prog.Ensures.bind (Prog.Ensures.mono (Q := fun _ _ => True) ?_ ?_)
  · rintro (e | r) s - <;> trivial
  · unfold QuizUsecase.submitAnswer
    rw [if_neg q.text_ne_empty, if_neg d.text_ne_empty, if_neg (by simp), if_neg (by simp)]
    refine Prog.Ensures.bind (Prog.Ensures.attempt ((ensures_getCorrectChoiceID q db).mono ?_))
    rintro (e | correct) db hkey
    · -- the default set: nothing is recorded
      dsimp only
      split <;> trivial
    · have hknows : KnowsKey q d correct db := fun _ => hkey correct rfl
      refine Prog.Ensures.bind
        (ensures_read (show PoolStmt.Reads (.existsChoice q.text d.text) from trivial) ?_)
      intro db₁ hrely t
      have hknows₁ : KnowsKey q d correct db₁ := hknows.rely (u := u) hrely
      rcases (PoolStmt.exec io (.existsChoice q.text d.text) t db₁).1 with e | belongs
      · trivial
      · show Prog.Safe (verdictDiscipline io) (answerCall u q d) _ db₁
        split_ifs
        · trivial
        · trivial
        · refine Prog.Ensures.bind ((ensures_ensureUserExists hknows₁).mono ?_)
          rintro (e | ⟨⟩) db₂ hknows₂
          · trivial
          · refine Prog.Ensures.bind ((safe_createAttempt hknows₂).mono ?_)
            rintro (e | id) db₃ - <;> trivial

end SubmitAnswer

/-! ## Every run of the pool -/

/-- From the migrated database, whatever requests with canonical ids arrive and
however their statements and transactions interleave on ids that no request in
flight carries: every recorded verdict agrees with the stored key. -/
theorem verdicts_true {now : Timestamp} {c : Pool DbOp Call Db GoError Reply}
    (h : Relation.ReflTransGen
      (Pool.Step (DbOp.exec io) (Call.Fresh io) Call.Canonical (Call.prog io)) ⟨seeded now, []⟩ c) :
    ∀ a ∈ c.state.attempts, a.isCorrect = true ↔
      (⟨a.questionId, a.selectedChoiceId⟩ : AnswerKeyRow) ∈ c.state.answerKeys := by
  have hsound : Pool.Sound (verdictDiscipline io)
      (⟨seeded now, []⟩ : Pool DbOp Call Db GoError Reply) := by
    refine ⟨?_, by simp⟩
    intro a ha
    simp [seeded, seededTables] at ha
  refine Pool.run_invariant ?_ hsound h
  intro c db hmay _
  cases c with
  | submitAnswer u questionID choiceID =>
      obtain ⟨q, d, rfl, rfl⟩ := hmay
      exact safe_submitAnswer u q d db
  | _ => exact safe_of_ne_submitAnswer (by simp) db

/-! ### An answer during an edit -/

/-- Bob takes the right choice of Alice's question. -/
def bobsAnswer : Call := answerCall "bob" sampleQuestion (countedUuid 1).value

/-- Alice makes another choice the right one. -/
def alicesEdit : Call := .updateQuestion "alice" sampleQuestion.text otherKeyDraft

/-- A tick whose ids are none of those of Alice's question. -/
def offTick (now : Timestamp) : OpTick where
  first := calmTick now 16
  body := fun i => calmTick now (16 + i % 8)
  commit := calmTick now 16

/-- Alice's question is created; then Bob's answer and Alice's edit go on by turns, and the edit
comes too late. -/
def racedPool : Pool DbOp Call Db GoError Reply :=
  Pool.turns (DbOp.exec documentedReaders)
    ⟨createdStore, [⟨bobsAnswer, bobsAnswer.prog documentedReaders⟩,
      ⟨alicesEdit, alicesEdit.prog documentedReaders⟩]⟩
    ([0, 1, 0, 1, 0, 0, 1, 1, 1].map fun i => (i, offTick 2))

theorem fresh_offTick {c : Call} (hc : c = bobsAnswer ∨ c = alicesEdit) (now : Timestamp) :
    c.Fresh documentedReaders (offTick now) := by
  have hdrawn : ∀ k < 8, (countedUuid (16 + k)).value ≠ sampleQuestion ∧
      (countedUuid (16 + k)).value ≠ (countedUuid 1).value := by decide
  intro u hu
  have hcases : u = sampleQuestion ∨ u = (countedUuid 1).value := by
    rcases hc with rfl | rfl
    · rcases hu with hu | hu
      · rw [documentedReaders.cast_text, Option.some.injEq] at hu
        exact .inl hu.symm
      · rw [documentedReaders.cast_text, Option.some.injEq] at hu
        exact .inr hu.symm
    · change documentedReaders.cast sampleQuestion.text = some u at hu
      rw [documentedReaders.cast_text, Option.some.injEq] at hu
      exact .inl hu.symm
  have hbody : ∀ n : ℕ, n % 8 < 8 := fun n => Nat.mod_lt n (by decide)
  rcases hcases with rfl | rfl
  · exact ⟨(hdrawn 0 (by decide)).1, fun n => (hdrawn _ (hbody n)).1⟩
  · exact ⟨(hdrawn 0 (by decide)).2, fun n => (hdrawn _ (hbody n)).2⟩

theorem racedPool_reached : Relation.ReflTransGen (Pool.Step (DbOp.exec documentedReaders)
    (Call.Fresh documentedReaders) Call.Canonical (Call.prog documentedReaders))
      ⟨seeded 0, []⟩ racedPool := by
  have hcreate : Call.Canonical (.createQuestion "alice" sampleDraft) := trivial
  have hcreated : Relation.ReflTransGen (Pool.Step (DbOp.exec documentedReaders)
      (Call.Fresh documentedReaders) Call.Canonical (Call.prog documentedReaders))
        ⟨seeded 0, []⟩ ⟨createdStore, []⟩ := by
    have hleave : ∀ (s : Db) (x : Thread DbOp Call GoError Reply),
        Pool.Step (DbOp.exec documentedReaders) (Call.Fresh documentedReaders) Call.Canonical
          (Call.prog documentedReaders) ⟨s, [] ++ x :: []⟩ ⟨s, [] ++ []⟩ := fun _ _ => .leave
    exact (Relation.ReflTransGen.head (.arrive _ hcreate)
      (Pool.run_alone _ (fun _ _ hu => hu.elim) (seeded 0))).tail (hleave createdStore _)
  have hanswers : Call.Canonical bobsAnswer := ⟨sampleQuestion, (countedUuid 1).value, rfl, rfl⟩
  have hedits : Call.Canonical alicesEdit := ⟨sampleQuestion, rfl⟩
  refine ((hcreated.tail (.arrive _ hanswers)).tail (.arrive _ hedits)).trans
    (Pool.steps_turns ?_)
  intro r hr turn hturn
  obtain ⟨i, -, rfl⟩ := List.mem_map.mp hturn
  exact fresh_offTick (by simpa using hr) 2

/-- Bob's verdict is recorded, and it is true. -/
theorem verdicts_true_raced : ∃ a, racedPool.state.attempts = [a] ∧ a.userId = "bob" ∧
    (a.isCorrect = true ↔ (⟨a.questionId, a.selectedChoiceId⟩ : AnswerKeyRow) ∈
      racedPool.state.answerKeys) := by
  obtain ⟨a, ha⟩ := List.length_eq_one_iff.mp
    (show racedPool.state.attempts.length = 1 by decide +kernel)
  have hbob : ∀ a ∈ racedPool.state.attempts, a.userId = "bob" := by decide +kernel
  have hmem : a ∈ racedPool.state.attempts := ha ▸ List.mem_singleton.mpr rfl
  exact ⟨a, ha, hbob a hmem, verdicts_true racedPool_reached a hmem⟩

end HistoryQuiz
