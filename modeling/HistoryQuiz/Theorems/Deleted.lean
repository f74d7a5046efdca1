import HistoryQuiz.Logic.Quiz
import HistoryQuiz.Logic.Views
import HistoryQuiz.Theorems.Serving
import HistoryQuiz.Theorems.WritePath

/-!
# Deleted questions

A question with `deleted_at` set is in none of the lists, cannot be read by its
author and cannot be edited, even if it is deleted while an update is on its way.
`GetQuestion` never serves the stored question either; but the default set has the
ids of the seeded questions, and it is served when no stored question is left
(`deleted_invisible`, `deleted_default_served`).
-/

namespace HistoryQuiz

open Relational Effect QuizUsecase

variable {io : UuidReaders}

/-- The question `d` is stored and deleted. -/
def Db.Deleted (db : Db) (d : Uuid) : Prop :=
  ∃ r ∈ db.questions, r.id = d ∧ r.deletedAt ≠ none

/-- No row of `d` that is not deleted is stored. -/
theorem Db.Deleted.not_active {db : Db} {d : Uuid} (hd : db.Deleted d) {r : QuestionRow}
    (hr : r ∈ db.questions) (hactive : r.deletedAt = none) : r.id ≠ d := by
  rintro rfl
  obtain ⟨s, hs, hid, hdeleted⟩ := hd
  exact hdeleted (db.constraints.questionsPkey.eq hs hr hid ▸ hactive)

/-! ## Updates -/

/-- The rows of `d` and of its choices, key and attempts are the same. -/
structure SameRows (d : Uuid) (db db' : Db) : Prop where
  question : (db'.questions.filter fun q => q.id = d) = db.questions.filter fun q => q.id = d
  choices : db'.choicesOf d = db.choicesOf d
  answerKey : (db'.answerKeys.filter fun k => k.questionId = d) =
    db.answerKeys.filter fun k => k.questionId = d
  attempts : (db'.attempts.filter fun a => a.questionId = d) =
    db.attempts.filter fun a => a.questionId = d

theorem SameRows.of_tables {db db' : Db} (h : db'.questions = db.questions ∧
    db'.choices = db.choices ∧ db'.answerKeys = db.answerKeys ∧ db'.attempts = db.attempts)
    (d : Uuid) : SameRows d db db' := by
  obtain ⟨hquestions, hchoices, hkeys, hattempts⟩ := h
  refine ⟨by rw [hquestions], ?_, by rw [hkeys], by rw [hattempts]⟩
  rw [Tables.choicesOf, hchoices]
  rfl

/-- Whatever others do before each statement of the update: if `d` is deleted when the
last one runs, the update fails and none of its statements touches a row of `d`. -/
theorem updateQuestion_deleted {u questionID : String} {d : Uuid}
    (hq : io.cast questionID = some d) (draft : QuestionDraft) (τ : ℕ → (Db → Db) × OpTick)
    (db : Db)
    (hd : ∀ x, ((QuestionUsecase.updateQuestion io u questionID draft).ownSteps (DbOp.exec io) τ
      db).getLast? = some x → x.1.Deleted d) :
    (∃ e, ((QuestionUsecase.updateQuestion io u questionID draft).run
      (Handler.interfered (DbOp.exec io)) τ db).1 = .error e) ∧
    ∀ x ∈ (QuestionUsecase.updateQuestion io u questionID draft).ownSteps (DbOp.exec io) τ db,
      SameRows d x.1 x.2 := by
  rw [updateQuestion_eq] at hd ⊢
  have h := guard_inTx io
    (guard_updateGuard : (updateGuard io u questionID draft).Uses (GuardOp u))
    (QuestionRepository.updateQuestionTx u questionID draft) τ db
  split at h <;> rename_i hr
  · exact ⟨⟨_, hr⟩, fun x hx => .of_tables
      ⟨(h x hx).questions, (h x hx).choices, (h x hx).answerKeys, (h x hx).attempts⟩ d⟩
  · -- a committed transaction has found the question not deleted
    obtain ⟨init, t, before, after, hsteps, -, htx⟩ := h
    obtain ⟨q, hq'⟩ := updateQuestionTx_ok htx
    obtain ⟨r, hr, hid, -, hactive⟩ := hq'.own
    have hdeleted : before.Deleted d := hd (before, after) (by rw [hsteps, List.getLast?_concat])
    have hqd : q = d := Option.some.inj (hq'.cast.symm.trans hq)
    exact absurd (hid.trans hqd) (hdeleted.not_active hr hactive)

/-- An update of a deleted question fails and touches none of its rows. -/
theorem perform_updateQuestion_deleted {db : Db} {d : Uuid} (hd : db.Deleted d)
    {u questionID : String} (hq : io.cast questionID = some d) (draft : QuestionDraft)
    (τ : ℕ → OpTick) :
    (∃ e, ((Call.updateQuestion u questionID draft).perform io τ db).1 = .error e) ∧
      SameRows d db ((Call.updateQuestion u questionID draft).perform io τ db).2 := by
  constructor
  · cases hperform : (Call.updateQuestion u questionID draft).perform io τ db with
    | mk reply db' =>
        cases reply with
        | error e => exact ⟨e, rfl⟩
        | ok reply =>
            obtain ⟨detail, db₁, -, hreply⟩ := Prog.run_bind_eq_ok.mp hperform
            cases hreply
            obtain ⟨-, -, -, t, s, q, hsame, hq'⟩ := perform_updateQuestion_ok hperform
            obtain ⟨r, hr, hid, -, hactive⟩ := hq'.own
            have hqd : q = d := Option.some.inj (hq'.cast.symm.trans hq)
            exact absurd (hid.trans hqd) (hd.not_active (hsame ▸ hr) hactive)
  · refine .of_tables ((Call.updateQuestion u questionID draft).perform_invariant
      (I := fun db' : Db => db'.questions = db.questions ∧ db'.choices = db.choices ∧
        db'.answerKeys = db.answerKeys ∧ db'.attempts = db.attempts) ?_ τ ⟨rfl, rfl, rfl, rfl⟩) d
    intro t db₁ db₂ hsame h
    cases h with
    | same h => exact h ▸ hsame
    | user hu h =>
        rw [h]
        exact hsame
    | attempt v questionID choiceID row hc => cases hc
    | created v draft detail hc => cases hc
    | updated v questionID draft detail q hc hu hdraft h =>
        cases hc
        obtain ⟨r, hr, hid, -, hactive⟩ := h.own
        have hqd : q = d := Option.some.inj (h.cast.symm.trans hq)
        exact absurd (hid.trans hqd) (hd.not_active (hsame.1 ▸ hr) hactive)

/-! ## All paths -/

/-- For every state and every deleted question `d`: `GetQuestion` returns its id only
with a question of the default set, and only when no stored question but the previous
one is left; the lists and the reads of all users leave it out; an update of it fails
and touches none of its rows, also when others delete it on the way. -/
theorem deleted_invisible (io : UuidReaders) (db : Db) (d : Uuid) :
    (db.Deleted d →
      (∀ requestID previous τ q db',
        (Call.getQuestion requestID previous).perform io τ db = (.ok (.question q), db') →
          q.id = d.text → q ∈ defaultQuestions ∧
            ∀ r ∈ db.questions, r.deletedAt = none → r.id.text = previous) ∧
      (∀ u pageSize τ qs token db',
        (Call.listMyQuestions u pageSize).perform io τ db = (.ok (.questions qs token), db') →
          ∀ s ∈ qs, s.id ≠ d.text) ∧
      (∀ u questionID τ detail db',
        (Call.getMyQuestion u questionID).perform io τ db = (.ok (.detail detail), db') →
          io.cast questionID ≠ some d) ∧
      ∀ u questionID draft τ, io.cast questionID = some d →
        (∃ e, ((Call.updateQuestion u questionID draft).perform io τ db).1 = .error e) ∧
          SameRows d db ((Call.updateQuestion u questionID draft).perform io τ db).2) ∧
    ∀ u questionID draft (τ : ℕ → (Db → Db) × OpTick), io.cast questionID = some d →
      (∀ x, ((QuestionUsecase.updateQuestion io u questionID draft).ownSteps (DbOp.exec io) τ
        db).getLast? = some x → x.1.Deleted d) →
      (∃ e, ((QuestionUsecase.updateQuestion io u questionID draft).run
        (Handler.interfered (DbOp.exec io)) τ db).1 = .error e) ∧
      ∀ x ∈ (QuestionUsecase.updateQuestion io u questionID draft).ownSteps (DbOp.exec io) τ db,
        SameRows d x.1 x.2 := by
  refine ⟨fun hd => ⟨?_, ?_, ?_, ?_⟩, ?_⟩
  · intro requestID previous τ q db' hget hid
    rw [perform_getQuestion] at hget
    obtain ⟨-, hserves⟩ := post_getQuestion io (fun _ => True) db requestID previous τ
      fun _ => trivial
    cases hrun : ((getQuestion io requestID previous).run (DbOp.exec io) τ db).1 with
    | error e =>
        rw [hrun] at hget
        cases hget
    | ok q' =>
        rw [hrun] at hget hserves
        cases hget
        rcases hserves.ok with ⟨r, hr, rfl⟩ | ⟨hnone, hdefault⟩
        · obtain ⟨hr, hactive, -⟩ := mem_candidates.mp hr
          exact absurd (io.text_injective hid) (hd.not_active hr hactive)
        · refine ⟨hdefault, fun r hr hactive => ?_⟩
          by_contra hne
          exact (choosable_ne_nil db previous).mpr ⟨r, hr, hactive, .inr hne⟩ hnone
  · intro u pageSize τ qs token db' hlist s hs hid
    obtain ⟨r, hr, -, hactive, rfl⟩ := perform_listMyQuestions_ok hlist s hs
    exact hd.not_active hr hactive (io.text_injective hid)
  · intro u questionID τ detail db' hget hq
    obtain ⟨-, r, hr, hcast, -, hactive, -⟩ := perform_getMyQuestion_ok hget
    exact hd.not_active hr hactive (Option.some.inj (hcast.symm.trans hq))
  · intro u questionID draft τ hq
    exact perform_updateQuestion_deleted hd hq draft τ
  · intro u questionID draft τ hq hlast
    exact updateQuestion_deleted hq draft τ db hlast

/-! ### The default set -/

/-- All questions are deleted. -/
def emptiedStore : Db := (seeded 0).setDeletedAt 1 (fun _ => true) fun _ => some 1

/-- The third seeded question is deleted, and a question with its id is served. -/
theorem deleted_default_served :
    Reachable documentedReaders emptiedStore ∧ emptiedStore.Deleted 0x3 ∧
      ∃ q, ((Call.getQuestion "request" "").perform documentedReaders (calm 2 0) emptiedStore).1 =
        .ok (.question q) ∧ q.id = Uuid.text 0x3 :=
  ⟨⟨0, .single (.setDeletedAt _ _ _)⟩, by unfold Db.Deleted; decide +kernel,
    servedID_eq_some.mp (by decide +kernel)⟩

instance (db : Db) (d : Uuid) : Decidable (db.Deleted d) :=
  inferInstanceAs (Decidable (∃ r ∈ db.questions, r.id = d ∧ r.deletedAt ≠ none))

/-- Before the third statement of a call, its transaction, all questions are deleted. -/
def deletedOnTheWay (n : ℕ) : (Db → Db) × OpTick :=
  (if n = 2 then fun db => db.setDeletedAt 2 (fun _ => true) fun _ => some 2 else id, calm 3 16 n)

/-- Alice's update of her question, which is deleted between the check and the
transaction, and her update of the deleted question. -/
theorem deleted_invisible_created :
    (∃ e, ((QuestionUsecase.updateQuestion documentedReaders "alice" sampleQuestion.text
      sampleDraft).run (Handler.interfered (DbOp.exec documentedReaders)) deletedOnTheWay
      createdStore).1 = .error e) ∧
    ∃ e, ((Call.updateQuestion "alice" sampleQuestion.text sampleDraft).perform documentedReaders
      (calm 3 16) (createdStore.setDeletedAt 2 (fun _ => true) fun _ => some 2)).1 = .error e := by
  have hlast : (((QuestionUsecase.updateQuestion documentedReaders "alice" sampleQuestion.text
      sampleDraft).ownSteps (DbOp.exec documentedReaders) deletedOnTheWay
      createdStore).getLast?.all fun x => x.1.Deleted sampleQuestion) = true := by decide +kernel
  have hcast := documentedReaders.cast_text sampleQuestion
  constructor
  · refine ((deleted_invisible documentedReaders createdStore sampleQuestion).2 "alice" _
      sampleDraft deletedOnTheWay hcast fun x hx => ?_).1
    rw [hx] at hlast
    exact of_decide_eq_true hlast
  · exact (((deleted_invisible documentedReaders _ sampleQuestion).1 (by decide +kernel)).2.2.2
      "alice" _ sampleDraft (calm 3 16) hcast).1

end HistoryQuiz
