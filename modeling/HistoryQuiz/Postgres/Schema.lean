import HistoryQuiz.Base.Table
import HistoryQuiz.Postgres.Uuid

/-!
# The schema and its row operations

The five tables of `backend/db/migrations`, with the columns the program reads,
and the constraints the migrations declare on them. A `Db` is a database state
that satisfies the constraints PostgreSQL checks at every statement; the
deferred four-choices trigger is checked at commit (`Statement`).

The row operations at the end (`insertUser` … `deleteChoices`) check the
constraints the way the server does and either report the violated one or give
the next `Db`.
-/

namespace HistoryQuiz

open Relational

/-- `TIMESTAMPTZ`, in microseconds. -/
abbrev Timestamp := ℤ

structure UserRow where
  id : String
deriving DecidableEq, Repr

structure QuestionRow where
  id : Uuid
  authorUserId : String
  prompt : String
  explanation : Option String
  createdAt : Timestamp
  updatedAt : Timestamp
  deletedAt : Option Timestamp
deriving DecidableEq, Repr

structure ChoiceRow where
  id : Uuid
  questionId : Uuid
  label : String
  ordinal : ℤ
deriving DecidableEq, Repr

structure AnswerKeyRow where
  questionId : Uuid
  correctChoiceId : Uuid
deriving DecidableEq, Repr

structure AttemptRow where
  id : Uuid
  userId : String
  questionId : Uuid
  selectedChoiceId : Uuid
  isCorrect : Bool
  answeredAt : Timestamp
deriving DecidableEq, Repr

/-- `choices_id_question_unique`: the target of the two composite foreign keys. -/
def ChoiceRow.idQuestion (c : ChoiceRow) : Uuid × Uuid := (c.id, c.questionId)

/-- `choices_question_ordinal_unique`. -/
def ChoiceRow.questionOrdinal (c : ChoiceRow) : Uuid × ℤ := (c.questionId, c.ordinal)

/-- `answer_keys_correct_choice_belongs_to_question`. -/
def AnswerKeyRow.choiceRef (k : AnswerKeyRow) : Uuid × Uuid := (k.correctChoiceId, k.questionId)

/-- `attempts_selected_choice_belongs_to_question`. -/
def AttemptRow.choiceRef (a : AttemptRow) : Uuid × Uuid := (a.selectedChoiceId, a.questionId)

structure Tables where
  users : List UserRow
  questions : List QuestionRow
  choices : List ChoiceRow
  answerKeys : List AnswerKeyRow
  attempts : List AttemptRow
deriving DecidableEq

/-- The constraints that hold after every statement. `choices_id_question_unique`
follows from the primary key of `choices`. -/
structure Constraints (t : Tables) : Prop where
  usersPkey : Unique UserRow.id t.users
  questionsPkey : Unique QuestionRow.id t.questions
  questionsAuthor : Refers QuestionRow.authorUserId t.questions UserRow.id t.users
  choicesPkey : Unique ChoiceRow.id t.choices
  choicesQuestion : Refers ChoiceRow.questionId t.choices QuestionRow.id t.questions
  choicesOrdinal : ∀ c ∈ t.choices, 0 ≤ c.ordinal ∧ c.ordinal ≤ 3
  choicesQuestionOrdinal : Unique ChoiceRow.questionOrdinal t.choices
  answerKeysPkey : Unique AnswerKeyRow.questionId t.answerKeys
  answerKeysQuestion : Refers AnswerKeyRow.questionId t.answerKeys QuestionRow.id t.questions
  answerKeysChoice : Refers AnswerKeyRow.choiceRef t.answerKeys ChoiceRow.idQuestion t.choices
  attemptsPkey : Unique AttemptRow.id t.attempts
  attemptsUser : Refers AttemptRow.userId t.attempts UserRow.id t.users
  attemptsQuestion : Refers AttemptRow.questionId t.attempts QuestionRow.id t.questions
  attemptsChoice : Refers AttemptRow.choiceRef t.attempts ChoiceRow.idQuestion t.choices

/-- A database state. -/
structure Db extends Tables where
  constraints : Constraints toTables

theorem Db.eq_of_tables {db db' : Db} (h : db.toTables = db'.toTables) : db = db' := by
  cases db
  cases db'
  cases h
  rfl

/-- The state right after the tables are created. -/
def Db.empty : Db where
  users := []
  questions := []
  choices := []
  answerKeys := []
  attempts := []
  constraints := by
    constructor <;> first | exact Unique.nil _ | exact Refers.nil | simp

/-- The rows of `choices` that belong to a question. -/
def Tables.choicesOf (t : Tables) (q : Uuid) : List ChoiceRow :=
  t.choices.filter fun c => c.questionId = q

/-- The errors of a statement. `unavailable` stands for every failure that has
nothing to do with the arguments: a lost connection, a timeout, an exhausted
pool. -/
inductive SqlError where
  | unavailable
  | invalidUuid
  | invalidText
  | negativeLimit
  | uniqueViolation
  | foreignKeyViolation
  | restrictViolation
  | checkViolation
  | raisedByTrigger
deriving DecidableEq, Repr

/-! ## Row operations on the tables -/

namespace Tables

def addUser (t : Tables) (row : UserRow) : Tables := { t with users := t.users ++ [row] }

def addQuestion (t : Tables) (row : QuestionRow) : Tables :=
  { t with questions := t.questions ++ [row] }

def addChoice (t : Tables) (row : ChoiceRow) : Tables := { t with choices := t.choices ++ [row] }

def addAttempt (t : Tables) (row : AttemptRow) : Tables :=
  { t with attempts := t.attempts ++ [row] }

/-- Change columns of questions other than the key and the author. -/
def mapQuestions (t : Tables) (f : QuestionRow → QuestionRow) : Tables :=
  { t with questions := t.questions.map f }

/-- `ON CONFLICT (question_id) DO UPDATE SET correct_choice_id = EXCLUDED.correct_choice_id`. -/
def putAnswerKey (t : Tables) (row : AnswerKeyRow) : Tables :=
  { t with answerKeys :=
      if row.questionId ∈ t.answerKeys.map AnswerKeyRow.questionId then
        t.answerKeys.map fun k =>
          if k.questionId = row.questionId then { k with correctChoiceId := row.correctChoiceId }
          else k
      else t.answerKeys ++ [row] }

/-- Delete the choices in `p` and, as `ON DELETE CASCADE` says, the answer keys
that refer to them. -/
def dropChoices (t : Tables) (p : ChoiceRow → Bool) : Tables :=
  { t with
    choices := t.choices.filter fun c => !p c
    answerKeys := t.answerKeys.filter fun k =>
      !t.choices.any fun c => p c && c.idQuestion == k.choiceRef }

end Tables

/-! ## The row operations keep the constraints -/

namespace Constraints

variable {t : Tables}

theorem addUser (h : Constraints t) {row : UserRow} (hnew : row.id ∉ t.users.map UserRow.id) :
    Constraints (t.addUser row) :=
  { h with
    usersPkey := h.usersPkey.insert hnew
    questionsAuthor := h.questionsAuthor.insert_target row
    attemptsUser := h.attemptsUser.insert_target row }

theorem addQuestion (h : Constraints t) {row : QuestionRow}
    (hnew : row.id ∉ t.questions.map QuestionRow.id)
    (hauthor : row.authorUserId ∈ t.users.map UserRow.id) : Constraints (t.addQuestion row) :=
  { h with
    questionsPkey := h.questionsPkey.insert hnew
    questionsAuthor := h.questionsAuthor.insert hauthor
    choicesQuestion := h.choicesQuestion.insert_target row
    answerKeysQuestion := h.answerKeysQuestion.insert_target row
    attemptsQuestion := h.attemptsQuestion.insert_target row }

theorem mapQuestions (h : Constraints t) {f : QuestionRow → QuestionRow}
    (hid : ∀ r, (f r).id = r.id) (hauthor : ∀ r, (f r).authorUserId = r.authorUserId) :
    Constraints (t.mapQuestions f) :=
  { h with
    questionsPkey := h.questionsPkey.map hid
    questionsAuthor := h.questionsAuthor.map hauthor
    choicesQuestion := h.choicesQuestion.map_target hid
    answerKeysQuestion := h.answerKeysQuestion.map_target hid
    attemptsQuestion := h.attemptsQuestion.map_target hid }

theorem addChoice (h : Constraints t) {row : ChoiceRow}
    (hnew : row.id ∉ t.choices.map ChoiceRow.id)
    (hordinal : 0 ≤ row.ordinal ∧ row.ordinal ≤ 3)
    (hplace : row.questionOrdinal ∉ t.choices.map ChoiceRow.questionOrdinal)
    (hquestion : row.questionId ∈ t.questions.map QuestionRow.id) :
    Constraints (t.addChoice row) :=
  { h with
    choicesPkey := h.choicesPkey.insert hnew
    choicesQuestion := h.choicesQuestion.insert hquestion
    choicesOrdinal := by
      intro c hc
      rcases List.mem_append.mp hc with hc | hc
      · exact h.choicesOrdinal c hc
      · rwa [List.mem_singleton.mp hc]
    choicesQuestionOrdinal := h.choicesQuestionOrdinal.insert hplace
    answerKeysChoice := h.answerKeysChoice.insert_target row
    attemptsChoice := h.attemptsChoice.insert_target row }

theorem addAttempt (h : Constraints t) {row : AttemptRow}
    (hnew : row.id ∉ t.attempts.map AttemptRow.id)
    (huser : row.userId ∈ t.users.map UserRow.id)
    (hquestion : row.questionId ∈ t.questions.map QuestionRow.id)
    (hchoice : row.choiceRef ∈ t.choices.map ChoiceRow.idQuestion) :
    Constraints (t.addAttempt row) :=
  { h with
    attemptsPkey := h.attemptsPkey.insert hnew
    attemptsUser := h.attemptsUser.insert huser
    attemptsQuestion := h.attemptsQuestion.insert hquestion
    attemptsChoice := h.attemptsChoice.insert hchoice }

theorem putAnswerKey (h : Constraints t) {row : AnswerKeyRow}
    (hquestion : row.questionId ∈ t.questions.map QuestionRow.id)
    (hchoice : row.choiceRef ∈ t.choices.map ChoiceRow.idQuestion) :
    Constraints (t.putAnswerKey row) := by
  by_cases hold : row.questionId ∈ t.answerKeys.map AnswerKeyRow.questionId
  · have hkeys : (t.putAnswerKey row).answerKeys = t.answerKeys.map fun k =>
        if k.questionId = row.questionId then { k with correctChoiceId := row.correctChoiceId }
        else k := if_pos hold
    refine { h with answerKeysPkey := ?_, answerKeysQuestion := ?_, answerKeysChoice := ?_ }
    · rw [hkeys]
      exact h.answerKeysPkey.map fun k => by split <;> rfl
    · rw [hkeys]
      exact h.answerKeysQuestion.map fun k => by split <;> rfl
    · rw [hkeys]
      intro k hk
      obtain ⟨k₀, hk₀, rfl⟩ := List.mem_map.mp hk
      by_cases hq : k₀.questionId = row.questionId
      · obtain ⟨c, hc, href⟩ := List.mem_map.mp hchoice
        exact ⟨c, hc, by rw [if_pos hq, href, AnswerKeyRow.choiceRef, AnswerKeyRow.choiceRef, hq]⟩
      · rw [if_neg hq]
        exact h.answerKeysChoice k₀ hk₀
  · have hkeys : (t.putAnswerKey row).answerKeys = t.answerKeys ++ [row] := if_neg hold
    refine { h with answerKeysPkey := ?_, answerKeysQuestion := ?_, answerKeysChoice := ?_ }
    · rw [hkeys]
      exact h.answerKeysPkey.insert hold
    · rw [hkeys]
      exact h.answerKeysQuestion.insert hquestion
    · rw [hkeys]
      exact h.answerKeysChoice.insert hchoice

theorem dropChoices (h : Constraints t) {p : ChoiceRow → Bool}
    (hfree : ∀ a ∈ t.attempts, ∀ c ∈ t.choices, c.idQuestion = a.choiceRef → p c = false) :
    Constraints (t.dropChoices p) :=
  { h with
    choicesPkey := h.choicesPkey.filter _
    choicesQuestion := h.choicesQuestion.filter _
    choicesOrdinal := fun c hc => h.choicesOrdinal c (List.mem_of_mem_filter hc)
    choicesQuestionOrdinal := h.choicesQuestionOrdinal.filter _
    answerKeysPkey := h.answerKeysPkey.filter _
    answerKeysQuestion := h.answerKeysQuestion.filter _
    answerKeysChoice := by
      -- the keys that are left do not refer to a deleted choice
      refine (h.answerKeysChoice.filter _).filter_target ?_
      intro k hk c hc href
      have hkeep := (List.mem_filter.mp hk).2
      simp only [Bool.not_eq_true', List.any_eq_false, Bool.and_eq_true, beq_iff_eq,
        not_and] at hkeep
      by_contra hp
      exact hkeep c hc (by simpa using hp) href
    attemptsChoice := by
      refine h.attemptsChoice.filter_target ?_
      intro a ha c hc href
      simp [hfree a ha c hc href] }

end Constraints

/-! ## Checked row operations -/

namespace Db

/-- Insert into `users`. -/
def insertUser (db : Db) (row : UserRow) : Except SqlError Db :=
  if hid : row.id ∈ db.users.map UserRow.id then .error .uniqueViolation
  else .ok ⟨db.addUser row, db.constraints.addUser hid⟩

/-- Insert into `questions`. -/
def insertQuestion (db : Db) (row : QuestionRow) : Except SqlError Db :=
  if hid : row.id ∈ db.questions.map QuestionRow.id then .error .uniqueViolation
  else if hauthor : row.authorUserId ∈ db.users.map UserRow.id then
    .ok ⟨db.addQuestion row, db.constraints.addQuestion hid hauthor⟩
  else .error .foreignKeyViolation

/-- Insert into `choices`. -/
def insertChoice (db : Db) (row : ChoiceRow) : Except SqlError Db :=
  if hordinal : 0 ≤ row.ordinal ∧ row.ordinal ≤ 3 then
    if hid : row.id ∈ db.choices.map ChoiceRow.id then .error .uniqueViolation
    else if hplace : row.questionOrdinal ∈ db.choices.map ChoiceRow.questionOrdinal then
      .error .uniqueViolation
    else if hquestion : row.questionId ∈ db.questions.map QuestionRow.id then
      .ok ⟨db.addChoice row, db.constraints.addChoice hid hordinal hplace hquestion⟩
    else .error .foreignKeyViolation
  else .error .checkViolation

/-- Insert into `answer_keys`, or update the key that is there. -/
def upsertAnswerKey (db : Db) (row : AnswerKeyRow) : Except SqlError Db :=
  if hquestion : row.questionId ∈ db.questions.map QuestionRow.id then
    if hchoice : row.choiceRef ∈ db.choices.map ChoiceRow.idQuestion then
      .ok ⟨db.putAnswerKey row, db.constraints.putAnswerKey hquestion hchoice⟩
    else .error .foreignKeyViolation
  else .error .foreignKeyViolation

/-- Insert into `attempts`. -/
def insertAttempt (db : Db) (row : AttemptRow) : Except SqlError Db :=
  if hid : row.id ∈ db.attempts.map AttemptRow.id then .error .uniqueViolation
  else if huser : row.userId ∈ db.users.map UserRow.id then
    if hquestion : row.questionId ∈ db.questions.map QuestionRow.id then
      if hchoice : row.choiceRef ∈ db.choices.map ChoiceRow.idQuestion then
        .ok ⟨db.addAttempt row, db.constraints.addAttempt hid huser hquestion hchoice⟩
      else .error .foreignKeyViolation
    else .error .foreignKeyViolation
  else .error .foreignKeyViolation

/-- Delete the choices in `p`: `ON DELETE RESTRICT` protects the choices that
attempts refer to. -/
def deleteChoices (db : Db) (p : ChoiceRow → Bool) : Except SqlError Db :=
  if hfree : ∀ a ∈ db.attempts, ∀ c ∈ db.choices, c.idQuestion = a.choiceRef → p c = false then
    .ok ⟨db.dropChoices p, db.constraints.dropChoices hfree⟩
  else .error .restrictViolation

/-- Update columns of `questions` other than the key and the author. The trigger
`questions_set_updated_at` stamps every updated row. -/
def updateQuestions (db : Db) (now : Timestamp) (p : QuestionRow → Bool)
    (prompt : QuestionRow → String) (explanation : QuestionRow → Option String)
    (deletedAt : QuestionRow → Option Timestamp) : Db :=
  ⟨db.mapQuestions fun r =>
      if p r then
        { r with
          prompt := prompt r
          explanation := explanation r
          deletedAt := deletedAt r
          updatedAt := now }
      else r,
    db.constraints.mapQuestions (fun r => by split <;> rfl) (fun r => by split <;> rfl)⟩

/-! What each operation reports as success, and the tables it leaves. -/

variable {db db' : Db}

theorem ok_eq_ok {t : Tables} {h : Constraints t} :
    (Except.ok ⟨t, h⟩ : Except SqlError Db) = .ok db' ↔ db'.toTables = t :=
  ⟨fun heq => by cases heq; rfl, fun heq => congrArg _ (eq_of_tables heq.symm)⟩

/-- A check that has to hold. -/
theorem require_eq_ok {c : Prop} [Decidable c] {f : c → Except SqlError Db} {e : SqlError} :
    (if h : c then f h else .error e) = .ok db' ↔ ∃ h : c, f h = .ok db' := by
  split_ifs with h <;> simp [h]

/-- A check that must not hold. -/
theorem refuse_eq_ok {c : Prop} [Decidable c] {f : ¬c → Except SqlError Db} {e : SqlError} :
    (if h : c then .error e else f h) = .ok db' ↔ ∃ h : ¬c, f h = .ok db' := by
  split_ifs with h <;> simp [h]

theorem insertUser_eq_ok {row : UserRow} :
    db.insertUser row = .ok db' ↔
      row.id ∉ db.users.map UserRow.id ∧ db'.toTables = db.addUser row := by
  simp only [insertUser, refuse_eq_ok, ok_eq_ok, exists_prop]

theorem insertQuestion_eq_ok {row : QuestionRow} :
    db.insertQuestion row = .ok db' ↔
      row.id ∉ db.questions.map QuestionRow.id ∧ row.authorUserId ∈ db.users.map UserRow.id ∧
        db'.toTables = db.addQuestion row := by
  simp only [insertQuestion, refuse_eq_ok, require_eq_ok, ok_eq_ok, exists_prop]

theorem insertChoice_eq_ok {row : ChoiceRow} :
    db.insertChoice row = .ok db' ↔
      (0 ≤ row.ordinal ∧ row.ordinal ≤ 3) ∧ row.id ∉ db.choices.map ChoiceRow.id ∧
        row.questionOrdinal ∉ db.choices.map ChoiceRow.questionOrdinal ∧
        row.questionId ∈ db.questions.map QuestionRow.id ∧ db'.toTables = db.addChoice row := by
  simp only [insertChoice, refuse_eq_ok, require_eq_ok, ok_eq_ok, exists_prop]

/-- The checks that let an insertion into `choices` through. -/
theorem insertChoice_ok {row : ChoiceRow} (hordinal : 0 ≤ row.ordinal ∧ row.ordinal ≤ 3)
    (hid : row.id ∉ db.choices.map ChoiceRow.id)
    (hplace : row.questionOrdinal ∉ db.choices.map ChoiceRow.questionOrdinal)
    (hquestion : row.questionId ∈ db.questions.map QuestionRow.id) :
    ∃ db', db.insertChoice row = .ok db' :=
  ⟨⟨_, db.constraints.addChoice hid hordinal hplace hquestion⟩,
    insertChoice_eq_ok.mpr ⟨hordinal, hid, hplace, hquestion, rfl⟩⟩

theorem upsertAnswerKey_eq_ok {row : AnswerKeyRow} :
    db.upsertAnswerKey row = .ok db' ↔
      row.questionId ∈ db.questions.map QuestionRow.id ∧
        row.choiceRef ∈ db.choices.map ChoiceRow.idQuestion ∧
        db'.toTables = db.putAnswerKey row := by
  simp only [upsertAnswerKey, require_eq_ok, ok_eq_ok, exists_prop]

/-- The checks that let an upsert into `answer_keys` through. -/
theorem upsertAnswerKey_ok {row : AnswerKeyRow}
    (hquestion : row.questionId ∈ db.questions.map QuestionRow.id)
    (hchoice : row.choiceRef ∈ db.choices.map ChoiceRow.idQuestion) :
    ∃ db', db.upsertAnswerKey row = .ok db' :=
  ⟨⟨_, db.constraints.putAnswerKey hquestion hchoice⟩,
    upsertAnswerKey_eq_ok.mpr ⟨hquestion, hchoice, rfl⟩⟩

theorem insertAttempt_eq_ok {row : AttemptRow} :
    db.insertAttempt row = .ok db' ↔
      row.id ∉ db.attempts.map AttemptRow.id ∧ row.userId ∈ db.users.map UserRow.id ∧
        row.questionId ∈ db.questions.map QuestionRow.id ∧
        row.choiceRef ∈ db.choices.map ChoiceRow.idQuestion ∧
        db'.toTables = db.addAttempt row := by
  simp only [insertAttempt, refuse_eq_ok, require_eq_ok, ok_eq_ok, exists_prop]

theorem deleteChoices_eq_ok {p : ChoiceRow → Bool} :
    db.deleteChoices p = .ok db' ↔
      (∀ a ∈ db.attempts, ∀ c ∈ db.choices, c.idQuestion = a.choiceRef → p c = false) ∧
        db'.toTables = db.dropChoices p := by
  simp only [deleteChoices, require_eq_ok, ok_eq_ok, exists_prop]

/-- The choices of a question can be deleted when nobody has answered it, and its
answer key goes with them. -/
theorem deleteChoices_question_eq_ok {q : Uuid} :
    (db.deleteChoices fun c => c.questionId = q) = .ok db' ↔
      (∀ a ∈ db.attempts, a.questionId ≠ q) ∧
        db'.toTables = { db.toTables with
          choices := db.choices.filter fun c => c.questionId ≠ q
          answerKeys := db.answerKeys.filter fun k => k.questionId ≠ q } := by
  have hkeys : (db.answerKeys.filter fun k =>
      !db.choices.any fun c => decide (c.questionId = q) && c.idQuestion == k.choiceRef) =
      db.answerKeys.filter fun k => k.questionId ≠ q := by
    refine List.filter_congr ?_
    intro k hk
    obtain ⟨c, hc, href⟩ := db.constraints.answerKeysChoice k hk
    have hcq : c.questionId = k.questionId := congrArg Prod.snd href
    by_cases hq : k.questionId = q
    · simp only [hq, ne_eq, not_true_eq_false, decide_false, Bool.not_eq_false', List.any_eq_true,
        Bool.and_eq_true, decide_eq_true_eq, beq_iff_eq]
      exact ⟨c, hc, hcq.trans hq, href⟩
    · simp only [ne_eq, hq, not_false_eq_true, decide_true, Bool.not_eq_true', List.any_eq_false,
        Bool.and_eq_true, decide_eq_true_eq, beq_iff_eq, not_and]
      intro d _ hdq hdref
      exact hq ((congrArg Prod.snd hdref).symm.trans hdq)
  rw [deleteChoices_eq_ok, Tables.dropChoices, hkeys]
  simp only [decide_eq_false_iff_not, ne_eq, decide_not]
  refine and_congr_left fun _ => ⟨fun h a ha hq => ?_, fun h a ha c _ href hq => ?_⟩
  · obtain ⟨c, hc, href⟩ := db.constraints.attemptsChoice a ha
    exact h a ha c hc href ((congrArg Prod.snd href).trans hq)
  · exact h a ha ((congrArg Prod.snd href).symm.trans hq)

end Db

end HistoryQuiz
