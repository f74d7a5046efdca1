import HistoryQuiz.Backend.Calls
import HistoryQuiz.Logic.Transactions

/-!
# What one operation of a call can do

A call works on the database through a few operations: reads, the insertion of
its own user, for `SubmitAnswer` the insertion of its attempt, and for the two
writes their transaction with a draft that `validateDraft` accepts. `ServiceOp c`
is this class for the call `c`, and the program of the call stays inside it
(`Call.prog_uses`).

`Change` lists what an operation of the class does to the tables. An invariant
of the store is proved by cases on it, and `Call.perform_invariant`,
`Steps.changes` carry it over calls and over runs of the system.
-/

namespace HistoryQuiz

open Relational Effect QuestionRepository

variable {io : UuidReaders}

/-! ## Valid drafts -/

/-- What `validateDraft` accepts. -/
structure ValidDraft (draft : QuestionDraft) : Prop where
  prompt : trimSpace draft.prompt ≠ ""
  four : draft.choices.length = 4
  labels : ∀ label ∈ draft.choices, trimSpace label ≠ ""
  correctOrdinal : 0 ≤ draft.correctOrdinal ∧ draft.correctOrdinal ≤ 3

theorem validateDraft_eq_none {draft : QuestionDraft} :
    QuestionUsecase.validateDraft draft = none ↔ ValidDraft draft := by
  have hnone : QuestionUsecase.validateDraft draft = none ↔
      QuestionUsecase.draftViolations draft = [] := by
    unfold QuestionUsecase.validateDraft
    simp [List.length_pos_iff]
  rw [hnone, QuestionUsecase.draftViolations]
  simp only [List.append_eq_nil_iff, ite_eq_right_iff, List.cons_ne_nil, imp_false]
  constructor
  · rintro ⟨⟨hprompt, hchoices⟩, hordinal⟩
    by_cases hlen : draft.choices.length = 4
    · rw [if_neg (by simpa using hlen), List.filterMap_eq_nil_iff] at hchoices
      refine ⟨hprompt, hlen, ?_, by omega⟩
      intro label hlabel htrim
      obtain ⟨i, hi, rfl⟩ := List.mem_iff_getElem.mp hlabel
      have hmem : (draft.choices[i], i) ∈ draft.choices.zipIdx :=
        List.mk_mem_zipIdx_iff_getElem?.mpr (List.getElem?_eq_getElem hi)
      simpa [htrim] using hchoices _ hmem
    · simp [hlen] at hchoices
  · intro h
    refine ⟨⟨h.prompt, ?_⟩, by have := h.correctOrdinal; omega⟩
    rw [if_neg (by simpa using h.four), List.filterMap_eq_nil_iff]
    intro c hc
    rw [if_neg (h.labels c.1 (List.fst_mem_of_mem_zipIdx hc))]

/-! ## The operations of a caller -/

/-- The statements that only read. -/
def PoolStmt.Reads : {β : Type} → PoolStmt β → Prop
  | _, .insertAttempt .. => False
  | _, .insertUser .. => False
  | _, _ => True

/-- The operations that the call `c` may perform. -/
inductive ServiceOp (c : Call) : ⦃β : Type⦄ → DbOp β → Prop
  | read {β : Type} (s : PoolStmt β) (h : s.Reads) : ServiceOp c (.stmt s)
  | insertUser (hu : c.userID ≠ "") : ServiceOp c (.stmt (.insertUser c.userID))
  | insertAttempt (u questionID choiceID : String) (isCorrect : Bool)
      (hc : c = .submitAnswer u questionID choiceID) (hu : u ≠ "") :
      ServiceOp c (.stmt (.insertAttempt u questionID choiceID isCorrect))
  | createQuestion (u : String) (draft : QuestionDraft) (hc : c = .createQuestion u draft)
      (hu : u ≠ "") (hdraft : ValidDraft draft) : ServiceOp c (.tx (createQuestionTx u draft))
  | updateQuestion (u questionID : String) (draft : QuestionDraft)
      (hc : c = .updateQuestion u questionID draft) (hu : u ≠ "") (hdraft : ValidDraft draft) :
      ServiceOp c (.tx (updateQuestionTx u questionID draft))

/-- A statement followed by a program of the class. -/
theorem uses_query_bind {P : ⦃β : Type⦄ → DbOp β → Prop} {β α : Type} {s : PoolStmt β}
    {f : β → DbProg α} (hs : P (.stmt s)) (hf : ∀ b, (f b).Uses P) : ((query s).bind f).Uses P :=
  ⟨hs, hf⟩

theorem uses_ensureUserExists {c : Call} :
    (UserRepository.ensureUserExists c.userID).Uses (ServiceOp c) := by
  unfold UserRepository.ensureUserExists
  split_ifs with hu
  · trivial
  · refine uses_query_bind (.insertUser hu) ?_
    rintro (_ | _) <;> trivial

theorem uses_createAttempt {u questionID choiceID : String} {isCorrect : Bool} :
    (AttemptRepository.createAttempt u questionID choiceID isCorrect).Uses
      (ServiceOp (.submitAnswer u questionID choiceID)) := by
  unfold AttemptRepository.createAttempt
  split_ifs with hu
  · trivial
  · trivial
  · trivial
  · refine uses_query_bind (.insertAttempt u questionID choiceID _ rfl hu) ?_
    rintro (_ | _) <;> trivial

section Reads

variable {P : ⦃β : Type⦄ → DbOp β → Prop}
  (hread : ∀ {β : Type} (s : PoolStmt β), s.Reads → P (.stmt s))

include hread

theorem uses_listQuizCandidates {previous mode : String} :
    (listQuizCandidates previous mode).Uses P := by
  unfold listQuizCandidates
  dsimp only
  split
  case h_4 => trivial
  all_goals
    refine uses_query_bind (hread _ trivial) ?_
    rintro (_ | _) <;> trivial

theorem uses_listChoices {questionID : String} : (listChoices questionID).Uses P := by
  refine uses_query_bind (hread _ trivial) ?_
  rintro (_ | _) <;> trivial

theorem uses_getQuizQuestion {questionID : String} :
    (getQuizQuestion questionID).Uses P := by
  refine uses_query_bind (hread _ trivial) ?_
  rintro (_ | _ | _)
  · trivial
  · trivial
  · exact (uses_listChoices hread).bind fun _ => trivial

theorem uses_getCorrectChoiceID {questionID : String} :
    (getCorrectChoiceID questionID).Uses P := by
  refine uses_query_bind (hread _ trivial) ?_
  rintro (_ | _ | _) <;> trivial

theorem uses_choiceBelongsToQuestion {questionID choiceID : String} :
    (choiceBelongsToQuestion questionID choiceID).Uses P := by
  refine uses_query_bind (hread _ trivial) ?_
  rintro (_ | _) <;> trivial

theorem uses_getQuestionAuthor {questionID : String} :
    (getQuestionAuthor questionID).Uses P := by
  refine uses_query_bind (hread _ trivial) ?_
  rintro (_ | _ | _) <;> trivial

theorem uses_getMyQuestion {u questionID : String} :
    (QuestionUsecase.getMyQuestion io u questionID).Uses P := by
  unfold QuestionUsecase.getMyQuestion
  split_ifs
  · trivial
  · trivial
  · trivial
  · refine uses_query_bind (hread _ trivial) ?_
    rintro (_ | _ | _)
    · trivial
    · trivial
    · exact (uses_listChoices hread).bind fun _ =>
        (uses_getCorrectChoiceID hread).bind fun _ => trivial

theorem uses_getQuestion {requestID previous : String} :
    (QuizUsecase.getQuestion io requestID previous).Uses P := by
  unfold QuizUsecase.getQuestion
  split_ifs
  · trivial
  · refine (uses_listQuizCandidates hread).bind fun nonSystemIDs => ?_
    have hlist : ∀ previous, (if nonSystemIDs = [] then
        listQuizCandidateSystemQuestionIDs previous
        else listQuizCandidateQuestionIDs previous).Uses P := by
      intro previous
      split_ifs <;> exact uses_listQuizCandidates hread
    refine (hlist _).bind fun firstIDs => ?_
    refine Prog.Uses.bind ?_ fun candidateIDs => ?_
    · by_cases hretry : firstIDs = [] ∧ previous ≠ ""
      · rw [if_pos hretry]
        exact hlist ""
      · rw [if_neg hretry]
        trivial
    · split_ifs
      · exact Prog.uses_ofExcept _
      · refine (uses_getQuizQuestion hread).attempt.bind ?_
        rintro (e | q)
        · dsimp only
          split_ifs
          · exact Prog.uses_ofExcept _
          · trivial
        · trivial

end Reads

theorem uses_submitAnswer {u questionID choiceID : String} :
    (QuizUsecase.submitAnswer io u questionID choiceID).Uses
      (ServiceOp (.submitAnswer u questionID choiceID)) := by
  unfold QuizUsecase.submitAnswer
  split
  · trivial
  split
  · trivial
  split
  · trivial
  split
  · trivial
  refine (uses_getCorrectChoiceID .read).attempt.bind ?_
  rintro (e | correct)
  · dsimp only
    split <;> trivial
  · refine (uses_choiceBelongsToQuestion .read).bind fun belongs => ?_
    split_ifs
    · trivial
    · trivial
    · have huser : (UserRepository.ensureUserExists u).Uses
          (ServiceOp (.submitAnswer u questionID choiceID)) := uses_ensureUserExists
      exact huser.bind fun _ => uses_createAttempt.bind fun _ => trivial

theorem uses_createQuestion {u : String} {draft : QuestionDraft} :
    (QuestionUsecase.createQuestion u draft).Uses (ServiceOp (.createQuestion u draft)) := by
  unfold QuestionUsecase.createQuestion
  split_ifs with hu
  · trivial
  · cases hdraft : QuestionUsecase.validateDraft draft with
    | some e => trivial
    | none =>
        have huser : (UserRepository.ensureUserExists u).Uses
            (ServiceOp (.createQuestion u draft)) := uses_ensureUserExists
        refine huser.bind fun _ => ?_
        unfold QuestionRepository.createQuestion
        rw [if_neg hu]
        exact ⟨.createQuestion u draft rfl hu (validateDraft_eq_none.mp hdraft),
          fun r => Prog.uses_ofExcept r⟩

theorem uses_updateQuestion {u questionID : String} {draft : QuestionDraft} :
    (QuestionUsecase.updateQuestion io u questionID draft).Uses
      (ServiceOp (.updateQuestion u questionID draft)) := by
  unfold QuestionUsecase.updateQuestion
  split_ifs with hu
  · trivial
  · trivial
  · trivial
  · cases hdraft : QuestionUsecase.validateDraft draft with
    | some e => trivial
    | none =>
        refine (uses_getQuestionAuthor .read).bind fun r => ?_
        dsimp only
        split_ifs
        · trivial
        · trivial
        · have huser : (UserRepository.ensureUserExists u).Uses
              (ServiceOp (.updateQuestion u questionID draft)) := uses_ensureUserExists
          refine huser.bind fun _ => ?_
          exact ⟨.updateQuestion u questionID draft rfl hu (validateDraft_eq_none.mp hdraft),
            fun r => Prog.uses_ofExcept r⟩

/-- The program of a call stays inside its class. -/
theorem Call.prog_uses (io : UuidReaders) (c : Call) : (c.prog io).Uses (ServiceOp c) := by
  have hquery : ∀ {c : Call} {β α : Type} (s : PoolStmt β) (f : β → DbProg α), s.Reads →
      (∀ b, (f b).Uses (ServiceOp c)) → ((query s).bind f).Uses (ServiceOp c) :=
    fun s f hs hf => uses_query_bind (.read s hs) hf
  cases c with
  | getQuestion requestID previous => exact (uses_getQuestion .read).bind fun _ => trivial
  | submitAnswer u questionID choiceID => exact uses_submitAnswer.bind fun _ => trivial
  | createQuestion u draft => exact uses_createQuestion.bind fun _ => trivial
  | updateQuestion u questionID draft => exact uses_updateQuestion.bind fun _ => trivial
  | getMyQuestion u questionID => exact (uses_getMyQuestion .read).bind fun _ => trivial
  | listMyQuestions u pageSize =>
      refine Prog.Uses.bind ?_ fun _ => trivial
      unfold QuestionUsecase.listMyQuestions
      split_ifs
      · trivial
      · refine Prog.Uses.bind (hquery _ _ trivial ?_) fun _ => trivial
        rintro (_ | _) <;> trivial
  | listMyAttempts u pageSize =>
      refine Prog.Uses.bind ?_ fun _ => trivial
      unfold UserUsecase.listMyAttempts AttemptRepository.listMyAttempts
      split_ifs
      · trivial
      · refine Prog.Uses.bind (hquery _ _ trivial ?_) fun _ => trivial
        rintro (_ | _) <;> trivial
  | getMyStats u =>
      refine Prog.Uses.bind ?_ fun _ => trivial
      unfold UserUsecase.getMyStats AttemptRepository.getMyStats
      split_ifs
      · trivial
      · refine hquery _ _ trivial ?_
        rintro (_ | ⟨_, _⟩) <;> trivial

/-! ## What an operation does -/

/-- What an operation of the call `c` does to the database. -/
inductive Change (io : UuidReaders) (c : Call) (t : OpTick) (db db' : Db) : Prop
  | same (h : db' = db)
  | user (hu : c.userID ≠ "") (h : db'.toTables = db.addUser ⟨c.userID⟩)
  | attempt (u questionID choiceID : String) (row : AttemptRow)
      (hc : c = .submitAnswer u questionID choiceID) (hu : u ≠ "") (huser : row.userId = u)
      (hquestion : io.cast questionID = some row.questionId)
      (hchoice : io.cast choiceID = some row.selectedChoiceId)
      (hid : row.id = t.first.uuid.value) (h : db'.toTables = db.addAttempt row)
  | created (u : String) (draft : QuestionDraft) (detail : QuestionDetail)
      (hc : c = .createQuestion u draft) (hu : u ≠ "") (hdraft : ValidDraft draft)
      (h : Created u draft t db detail db')
  | updated (u questionID : String) (draft : QuestionDraft) (detail : QuestionDetail) (q : Uuid)
      (hc : c = .updateQuestion u questionID draft) (hu : u ≠ "") (hdraft : ValidDraft draft)
      (h : Updated io u questionID draft t db detail db' q)

theorem Tick.guard_same {α σ : Type} (t : Tick) (s : σ) (result : Except SqlError α) :
    (t.guard s (result, s)).2 = s := by
  unfold Tick.guard
  split <;> rfl

/-- A read leaves the database as it was. -/
theorem PoolStmt.exec_reads {β : Type} {s : PoolStmt β} (h : s.Reads) (t : Tick) (db : Db) :
    (PoolStmt.exec io s t db).2 = db := by
  cases s with
  | insertAttempt => exact absurd h id
  | insertUser => exact absurd h id
  | _ => exact Tick.guard_same t db _

/-- The operations that only read. -/
inductive ReadOp : ⦃β : Type⦄ → DbOp β → Prop
  | stmt {β : Type} (s : PoolStmt β) (h : s.Reads) : ReadOp (.stmt s)

/-- What the insertion of an attempt does when it succeeds. -/
theorem insertAttempt_ok {u questionID choiceID id : String} {isCorrect : Bool} {t : Tick}
    {db db' : Db} (h : insertAttempt io db u questionID choiceID isCorrect t = (.ok id, db')) :
    storable u = true ∧ id = t.uuid.value.text ∧ ∃ q c, io.cast questionID = some q ∧
      io.cast choiceID = some c ∧ db.insertAttempt
        { id := t.uuid.value
          userId := u
          questionId := q
          selectedChoiceId := c
          isCorrect := isCorrect
          answeredAt := t.now } = .ok db' := by
  unfold insertAttempt at h
  by_cases hu : storable u = true
  · simp only [hu, if_true, withUuid] at h
    split at h
    · rename_i db₁ hdb
      rw [Prod.mk.injEq, Except.ok.injEq] at h
      obtain ⟨rfl, rfl⟩ := h
      split at hdb
      · rename_i q hq
        split at hdb
        · rename_i c hc
          exact ⟨hu, rfl, q, c, hq, hc, hdb⟩
        · simp at hdb
      · simp at hdb
    · simp at h
  · simp [hu] at h

/-- A rejected insertion of an attempt has no effect. -/
theorem insertAttempt_error {u questionID choiceID : String} {isCorrect : Bool} {t : Tick}
    {db db' : Db} {e : SqlError}
    (h : insertAttempt io db u questionID choiceID isCorrect t = (.error e, db')) : db' = db := by
  unfold insertAttempt at h
  dsimp only at h
  split at h
  · simp at h
  · exact (Prod.mk.inj h).2.symm

/-- The insertion of a user adds the row or finds it there. -/
theorem insertUser_cases (u : String) (db : Db) :
    (insertUser db u).2 = db ∨ (insertUser db u).2.toTables = db.addUser ⟨u⟩ := by
  unfold insertUser
  by_cases hu : storable u = true
  · rw [if_pos hu]
    cases hins : db.insertUser ⟨u⟩ with
    | ok db' => exact .inr (Db.insertUser_eq_ok.mp hins).2
    | error e => cases e <;> exact .inl rfl
  · rw [if_neg hu]
    exact .inl rfl

/-- Every operation of the class is one of the changes. -/
theorem ServiceOp.change {c : Call} {β : Type} {op : DbOp β} (h : ServiceOp c op) (t : OpTick)
    (db : Db) : Change io c t db (DbOp.exec io op t db).2 := by
  cases h with
  | read s hs => exact .same (PoolStmt.exec_reads hs t.first db)
  | insertUser hu =>
      show Change io c t db (t.first.guard db (HistoryQuiz.insertUser db c.userID)).2
      unfold Tick.guard
      split
      · exact .same rfl
      · rcases insertUser_cases c.userID db with hsame | hadd
        · exact .same hsame
        · exact .user hu hadd
  | insertAttempt u questionID choiceID isCorrect hc hu =>
      show Change io c t db (t.first.guard db
        (HistoryQuiz.insertAttempt io db u questionID choiceID isCorrect t.first)).2
      unfold Tick.guard
      split
      · exact .same rfl
      · cases hins : HistoryQuiz.insertAttempt io db u questionID choiceID isCorrect t.first with
        | mk r db' =>
            cases r with
            | error e => exact .same (insertAttempt_error hins)
            | ok id =>
                obtain ⟨-, -, q, d, hq, hd, hdb⟩ := insertAttempt_ok hins
                exact .attempt u questionID choiceID _ hc hu rfl hq hd rfl
                  (Db.insertAttempt_eq_ok.mp hdb).2.2.2.2
  | createQuestion u draft hc hu hdraft =>
      show Change io c t db (withTx io (createQuestionTx u draft) t db).2
      cases htx : withTx io (createQuestionTx u draft) t db with
      | mk r db' =>
          cases r with
          | error e => exact .same (withTx_error htx)
          | ok detail => exact .created u draft detail hc hu hdraft (createQuestionTx_ok htx)
  | updateQuestion u questionID draft hc hu hdraft =>
      show Change io c t db (withTx io (updateQuestionTx u questionID draft) t db).2
      cases htx : withTx io (updateQuestionTx u questionID draft) t db with
      | mk r db' =>
          cases r with
          | error e => exact .same (withTx_error htx)
          | ok detail =>
              obtain ⟨q, hq⟩ := updateQuestionTx_ok htx
              exact .updated u questionID draft detail q hc hu hdraft hq

/-- What every change of a call preserves, the call preserves. -/
theorem Call.perform_invariant {I : Db → Prop} {c : Call}
    (hchange : ∀ ⦃t db db'⦄, I db → Change io c t db db' → I db') (τ : ℕ → OpTick) {db : Db}
    (hdb : I db) : I (c.perform io τ db).2 :=
  Prog.run_invariant (fun _ _ t db hop hI => hchange hI (hop.change t db)) (c.prog_uses io) τ hdb

/-- What every change and every setting of `deleted_at` preserves, the system
preserves. -/
theorem Steps.changes {may : Call → Prop} {I : Db → Prop}
    (hchange : ∀ ⦃c t db db'⦄, may c → I db → Change io c t db db' → I db')
    (hdeleted : ∀ ⦃db⦄ now p deletedAt, I db → I (db.setDeletedAt now p deletedAt)) {db db' : Db}
    (h : Steps io may db db') (hdb : I db) : I db' := by
  refine h.invariant ?_ hdb
  intro db db' hI hstep
  cases hstep with
  | call c τ hmay => exact c.perform_invariant (fun _ _ _ => hchange hmay) τ hI
  | setDeletedAt now p deletedAt => exact hdeleted now p deletedAt hI

end HistoryQuiz
