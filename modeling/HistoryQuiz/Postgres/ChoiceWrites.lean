import HistoryQuiz.Base.RowEvents
import HistoryQuiz.Base.Throw
import HistoryQuiz.Postgres.Statement

/-!
# Any writes of choices, and the deletion of a question

What the schema itself makes of statements that the program does not send: any `INSERT`,
`UPDATE` and `DELETE` on `choices`, and `DELETE` of a question with its cascades. Every changed
row of `choices` queues an event for `choices_enforce_four_per_question`, and the queued events
are checked at commit.

A statement is refused when the rows it leaves violate a constraint. PostgreSQL checks the
unique indexes row by row, so it refuses some updates of several rows that pass here.
-/

namespace HistoryQuiz

open Relational Throw

/-! ## Row operations -/

/-- `UPDATE choices`: set the columns of the rows in `p`. -/
def Tables.updateChoices (t : Tables) (p : ChoiceRow → Bool) (f : ChoiceRow → ChoiceRow) : Tables :=
  { t with choices := t.choices.map fun c => if p c then f c else c }

/-- Update any columns of `choices`. -/
def Db.updateChoices (db : Db) (p : ChoiceRow → Bool) (f : ChoiceRow → ChoiceRow) :
    Except SqlError Db :=
  let choices := (db.toTables.updateChoices p f).choices
  if hordinal : ∀ c ∈ choices, 0 ≤ c.ordinal ∧ c.ordinal ≤ 3 then
    if hid : Unique ChoiceRow.id choices then
      if hplace : Unique ChoiceRow.questionOrdinal choices then
        if hquestion : Refers ChoiceRow.questionId choices QuestionRow.id db.questions then
          if hkeys : Refers AnswerKeyRow.choiceRef db.answerKeys ChoiceRow.idQuestion choices then
            if hattempts :
                Refers AttemptRow.choiceRef db.attempts ChoiceRow.idQuestion choices then
              .ok ⟨db.toTables.updateChoices p f,
                { db.constraints with
                  choicesPkey := hid
                  choicesQuestion := hquestion
                  choicesOrdinal := hordinal
                  choicesQuestionOrdinal := hplace
                  answerKeysChoice := hkeys
                  attemptsChoice := hattempts }⟩
            else .error .foreignKeyViolation
          else .error .foreignKeyViolation
        else .error .foreignKeyViolation
      else .error .uniqueViolation
    else .error .uniqueViolation
  else .error .checkViolation

theorem Db.updateChoices_ok {db db' : Db} {p : ChoiceRow → Bool} {f : ChoiceRow → ChoiceRow}
    (h : db.updateChoices p f = .ok db') : db'.toTables = db.toTables.updateChoices p f := by
  simp only [updateChoices, require_eq_ok, ok_eq_ok] at h
  obtain ⟨_, _, _, _, _, _, h⟩ := h
  exact h

/-- The cascades of `DELETE FROM questions`: to the choices and to the answer key of the
question, and from the choices to the keys that refer to them. -/
def Tables.dropQuestion (t : Tables) (q : Uuid) : Tables :=
  let t' := t.dropChoices fun c => c.questionId = q
  { t' with
    questions := t'.questions.filter fun r => r.id ≠ q
    answerKeys := t'.answerKeys.filter fun k => k.questionId ≠ q }

theorem Constraints.dropQuestion {t : Tables} (h : Constraints t) {q : Uuid}
    (hfree : ∀ a ∈ t.attempts, a.questionId ≠ q) : Constraints (t.dropQuestion q) := by
  have hchoices : Constraints (t.dropChoices fun c => c.questionId = q) := by
    refine h.dropChoices ?_
    intro a ha c _ href
    have hquestion : c.questionId = a.questionId := congrArg Prod.snd href
    simp [hquestion, hfree a ha]
  -- no choice, key or attempt that is left names the question
  refine { hchoices with
    questionsPkey := hchoices.questionsPkey.filter _
    questionsAuthor := hchoices.questionsAuthor.filter _
    choicesQuestion := hchoices.choicesQuestion.filter_target ?_
    answerKeysPkey := hchoices.answerKeysPkey.filter _
    answerKeysQuestion := (hchoices.answerKeysQuestion.filter _).filter_target ?_
    answerKeysChoice := hchoices.answerKeysChoice.filter _
    attemptsQuestion := hchoices.attemptsQuestion.filter_target ?_ }
  · intro c hc r _ hid
    have hkept := (List.mem_filter.mp hc).2
    simpa [hid] using hkept
  · intro k hk r _ hid
    have hkept := (List.mem_filter.mp hk).2
    simpa [hid] using hkept
  · intro a ha r _ hid
    simpa [hid] using hfree a ha

/-- Delete a question that no attempt refers to. -/
def Db.deleteQuestion (db : Db) (q : Uuid) (hfree : ∀ a ∈ db.attempts, a.questionId ≠ q) : Db :=
  ⟨db.toTables.dropQuestion q, db.constraints.dropQuestion hfree⟩

/-! ## The trigger -/

/-- `enforce_four_choices_per_question`: the question is `COALESCE(NEW.question_id,
OLD.question_id)`. -/
def enforceFourChoicesPerQuestion (t : Tables) (event : RowEvent ChoiceRow) :
    Except SqlError Unit :=
  let qid := event.group ChoiceRow.questionId
  let cnt := (t.choicesOf qid).length
  if cnt ≠ 4 then .error .raisedByTrigger else .ok ()

/-- The commit checks the events in their order. -/
def commitChoices (db : Db) : List (RowEvent ChoiceRow) → Except SqlError Db
  | [] => .ok db
  | event :: rest => do
      enforceFourChoicesPerQuestion db.toTables event
      commitChoices db rest

theorem commitChoices_eq_ok {db db' : Db} {events : List (RowEvent ChoiceRow)} :
    commitChoices db events = .ok db' ↔
      (∀ e ∈ events, (db.choicesOf (e.group ChoiceRow.questionId)).length = 4) ∧ db = db' := by
  induction events with
  | nil => simp [commitChoices]
  | cons event rest ih =>
      rw [commitChoices, enforceFourChoicesPerQuestion, List.forall_mem_cons]
      by_cases hfour : (db.choicesOf (event.group ChoiceRow.questionId)).length = 4
      · rw [if_neg (not_not.mpr hfour)]
        simp only [hfour, true_and]
        exact ih
      · rw [if_pos hfour]
        simp only [hfour, false_and, iff_false]
        intro h
        cases h

/-- The same check as that of the transactions of the program. -/
theorem commitChoices_fourChoices (db : Db) (now : Timestamp)
    (events : List (RowEvent ChoiceRow)) :
    commitChoices db events = .ok db ↔
      TxState.fourChoices ⟨db, now, events.map (RowEvent.group ChoiceRow.questionId)⟩ = true := by
  rw [commitChoices_eq_ok, TxState.fourChoices, List.all_map, List.all_eq_true]
  simp

/-! ## Transactions on choices -/

/-- The statements that write `choices`, with the rows they insert or select. -/
inductive ChoicesStmt where
  | insert (rows : List ChoiceRow)
  | update (p : ChoiceRow → Bool) (f : ChoiceRow → ChoiceRow)
  | delete (p : ChoiceRow → Bool)

/-- The rows after the statement, and the events that it queues. -/
def ChoicesStmt.exec (db : Db) : ChoicesStmt → Except SqlError (Db × List (RowEvent ChoiceRow))
  | insert rows => do
      return (← rows.foldlM Db.insertChoice db, rows.map .insert)
  | update p f => do
      return (← db.updateChoices p f, (db.choices.filter p).map fun c => .update c (f c))
  | delete p => do
      return (← db.deleteChoices p, (db.choices.filter p).map .delete)

/-- The rows after the statements of a transaction, and the events that they queue. -/
def runChoices (db : Db) : List ChoicesStmt → Except SqlError (Db × List (RowEvent ChoiceRow))
  | [] => .ok (db, [])
  | stmt :: rest => do
      let (db₁, events) ← stmt.exec db
      let (db₂, events') ← runChoices db₁ rest
      return (db₂, events ++ events')

/-- `DELETE FROM questions WHERE id = q`, alone in its transaction. -/
def deleteQuestionTx (db : Db) (q : Uuid) (hfree : ∀ a ∈ db.attempts, a.questionId ≠ q) :
    Except SqlError Db :=
  commitChoices (db.deleteQuestion q hfree) ((db.choicesOf q).map .delete)

/-! ### What a statement does to the choices of a question -/

/-- The questions are the same, and the events account for the choices. -/
structure Tables.Rewrites (t : Tables) (events : List (RowEvent ChoiceRow)) (t' : Tables) :
    Prop where
  questions : t'.questions = t.questions
  accounts : Accounts ChoiceRow.questionId t.choices events t'.choices

theorem Tables.Rewrites.trans {t t' t'' : Tables} {events events' : List (RowEvent ChoiceRow)}
    (h : t.Rewrites events t') (h' : t'.Rewrites events' t'') :
    t.Rewrites (events ++ events') t'' :=
  ⟨h'.questions.trans h.questions, h.accounts.trans h'.accounts⟩

theorem rewrites_insert {rows : List ChoiceRow} {db db' : Db}
    (h : rows.foldlM Db.insertChoice db = .ok db') :
    db.toTables.Rewrites (rows.map .insert) db'.toTables := by
  induction rows generalizing db with
  | nil =>
      cases h
      exact ⟨rfl, .refl _⟩
  | cons row rows ih =>
      rw [List.foldlM_cons] at h
      obtain ⟨db₁, hrow, hrows⟩ := except_bind_eq_ok.mp h
      obtain ⟨-, -, -, -, htables⟩ := Db.insertChoice_eq_ok.mp hrow
      have hfirst : db.toTables.Rewrites [.insert row] db₁.toTables := by
        rw [htables]
        exact ⟨rfl, Accounts.insert db.choices row⟩
      exact hfirst.trans (ih hrows)

theorem ChoicesStmt.rewrites {stmt : ChoicesStmt} {db db' : Db}
    {events : List (RowEvent ChoiceRow)} (h : stmt.exec db = .ok (db', events)) :
    db.toTables.Rewrites events db'.toTables := by
  cases stmt with
  | insert rows =>
      obtain ⟨db₁, hrows, hresult⟩ := except_bind_eq_ok.mp h
      cases hresult
      exact rewrites_insert hrows
  | update p f =>
      obtain ⟨db₁, hrows, hresult⟩ := except_bind_eq_ok.mp h
      cases hresult
      rw [Db.updateChoices_ok hrows]
      exact ⟨rfl, Accounts.update db.choices p f⟩
  | delete p =>
      obtain ⟨db₁, hrows, hresult⟩ := except_bind_eq_ok.mp h
      cases hresult
      rw [(Db.deleteChoices_eq_ok.mp hrows).2]
      exact ⟨rfl, Accounts.delete db.choices p⟩

theorem runChoices_rewrites {stmts : List ChoicesStmt} {db db' : Db}
    {events : List (RowEvent ChoiceRow)} (h : runChoices db stmts = .ok (db', events)) :
    db.toTables.Rewrites events db'.toTables := by
  induction stmts generalizing db events with
  | nil =>
      cases h
      exact ⟨rfl, .refl _⟩
  | cons stmt rest ih =>
      obtain ⟨first, hstmt, hrest⟩ := except_bind_eq_ok.mp h
      obtain ⟨last, hlast, hresult⟩ := except_bind_eq_ok.mp hrest
      cases hresult
      exact (ChoicesStmt.rewrites hstmt).trans (ih hlast)

end HistoryQuiz
