import HistoryQuiz.Logic.Store
import HistoryQuiz.Postgres.ChoiceWrites

/-!
# Deleting a question

`choices` and `answer_keys` are declared to go with their question. The deletions that cascade
to `choices` queue events for the four-choices trigger like any others, and at commit the deleted
question has no choices, so the cascade can be used for a question without choices only
(`deleteQuestion_iff`): never for one of a reachable state (`deleteQuestion_reachable`).
-/

namespace HistoryQuiz

open Relational

variable {io : UuidReaders}

/-- `q`, its choices and its answer key are gone, and everything else is as it was. -/
structure OnlyDeletes (q : Uuid) (db db' : Db) : Prop where
  users : db'.users = db.users
  questions : db'.questions = db.questions.filter fun r => r.id ≠ q
  choices : db'.choices = db.choices.filter fun c => c.questionId ≠ q
  answerKeys : db'.answerKeys = db.answerKeys.filter fun k => k.questionId ≠ q
  attempts : db'.attempts = db.attempts

/-- What the cascades do, before the commit. -/
theorem Db.deleteQuestion_only (db : Db) {q : Uuid} (hfree : ∀ a ∈ db.attempts, a.questionId ≠ q) :
    OnlyDeletes q db (db.deleteQuestion q hfree) := by
  refine ⟨rfl, rfl, ?_, ?_, rfl⟩
  · exact List.filter_congr fun c _ => decide_not.symm
  · -- a key that refers to a choice of the question is the key of the question
    show (db.answerKeys.filter _).filter _ = _
    rw [List.filter_filter]
    refine List.filter_congr ?_
    intro k _
    by_cases hq : k.questionId = q
    · simp [hq]
    · simp only [ne_eq, hq, not_false_eq_true, decide_true, Bool.true_and, Bool.not_eq_true',
        List.any_eq_false, Bool.and_eq_true, decide_eq_true_eq, beq_iff_eq, not_and]
      intro c _ hcq href
      exact hq ((congrArg Prod.snd href).symm.trans hcq)

theorem Db.choicesOf_deleteQuestion (db : Db) {q : Uuid}
    (hfree : ∀ a ∈ db.attempts, a.questionId ≠ q) :
    (db.deleteQuestion q hfree).choicesOf q = [] := by
  rw [Tables.choicesOf, (db.deleteQuestion_only hfree).choices, List.filter_filter,
    List.filter_eq_nil_iff]
  intro c _
  simp

/-- The trigger lets the deletion through when it has nothing to check. -/
theorem deleteQuestionTx_eq_ok {db db' : Db} {q : Uuid}
    (hfree : ∀ a ∈ db.attempts, a.questionId ≠ q) :
    deleteQuestionTx db q hfree = .ok db' ↔
      db.choicesOf q = [] ∧ db.deleteQuestion q hfree = db' := by
  rw [deleteQuestionTx, commitChoices_eq_ok, List.forall_mem_map]
  refine and_congr_left fun _ => ?_
  constructor
  · intro hfour
    refine List.eq_nil_iff_forall_not_mem.mpr ?_
    intro c hc
    have hlen := hfour c hc
    rw [RowEvent.group, (mem_choicesOf.mp hc).2, db.choicesOf_deleteQuestion hfree] at hlen
    exact absurd hlen (by decide)
  · intro hnone c hc
    rw [hnone] at hc
    exact absurd hc List.not_mem_nil

/-- For every state that satisfies the constraints and every question that no attempt refers to:
its deletion commits and removes exactly the question, its choices and its answer key if and
only if it has no choices. -/
theorem deleteQuestion_iff (db : Db) {q : Uuid} (hfree : ∀ a ∈ db.attempts, a.questionId ≠ q) :
    (∃ db', deleteQuestionTx db q hfree = .ok db' ∧ OnlyDeletes q db db') ↔
      db.choicesOf q = [] := by
  constructor
  · rintro ⟨db', htx, -⟩
    exact ((deleteQuestionTx_eq_ok hfree).mp htx).1
  · intro hnone
    exact ⟨_, (deleteQuestionTx_eq_ok hfree).mpr ⟨hnone, rfl⟩, db.deleteQuestion_only hfree⟩

/-- The trigger refuses every other deletion. -/
theorem deleteQuestionTx_eq_error {db : Db} {q : Uuid}
    (hfree : ∀ a ∈ db.attempts, a.questionId ≠ q) (hchoices : db.choicesOf q ≠ []) :
    deleteQuestionTx db q hfree = .error .raisedByTrigger := by
  obtain ⟨c, rest, hrows⟩ := List.exists_cons_of_ne_nil hchoices
  have hc : c ∈ db.choicesOf q := by simp [hrows]
  rw [deleteQuestionTx, hrows, List.map_cons, commitChoices, enforceFourChoicesPerQuestion,
    RowEvent.group, (mem_choicesOf.mp hc).2, db.choicesOf_deleteQuestion hfree]
  rfl

/-- No question that the program has stored can be deleted. -/
theorem deleteQuestion_reachable {db : Db} (hdb : Reachable io db) {r : QuestionRow}
    (hr : r ∈ db.questions) (hfree : ∀ a ∈ db.attempts, a.questionId ≠ r.id) :
    deleteQuestionTx db r.id hfree = .error .raisedByTrigger := by
  refine deleteQuestionTx_eq_error hfree ?_
  intro hnone
  have hordinals := hdb.wellFormed.ordinals r hr
  rw [hnone] at hordinals
  exact absurd hordinals.length_eq (by decide)

/-- The first question of the migrated database: nobody has answered it, and its deletion does
not commit. -/
theorem deleteQuestion_seeded :
    0x1 ∈ (seeded 0).questions.map QuestionRow.id ∧
    ∃ hfree : ∀ a ∈ (seeded 0).attempts, a.questionId ≠ 0x1,
      deleteQuestionTx (seeded 0) 0x1 hfree = .error .raisedByTrigger :=
  ⟨List.mem_cons_self, fun _ ha => absurd ha List.not_mem_nil,
    deleteQuestionTx_eq_error _ (by decide)⟩

theorem deleteQuestion_iff_seeded :
    (∃ db', deleteQuestionTx (seeded 0) 0x1 (fun _ ha => absurd ha List.not_mem_nil) = .ok db' ∧
      OnlyDeletes 0x1 (seeded 0) db') ↔ (seeded 0).choicesOf 0x1 = [] :=
  deleteQuestion_iff (seeded 0) fun _ ha => absurd ha List.not_mem_nil

end HistoryQuiz
