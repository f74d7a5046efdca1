import HistoryQuiz.Backend.Domain
import HistoryQuiz.Base.Prog

/-!
# The SQL statements

Every statement that `backend/internal/infrastructure/postgres` sends, with its
meaning on a `Db`. `PoolStmt` are the statements sent through the pool, each its
own transaction; `TxStmt` are those sent inside `withTx`. A statement that
reports an error has no effect.

What PostgreSQL and its surroundings decide is drawn from a `Tick`: whether the
statement fails for a reason of its own, the clock, the next value of
`gen_random_uuid()` and the physical order of the rows. The clock inside a
transaction stands still (`NOW()`).
-/

namespace HistoryQuiz

open Relational Effect

/-- What the outside world contributes to one statement. -/
structure Tick where
  fault : Bool
  now : Timestamp
  uuid : RandomUuid
  scan : ℕ → ℕ

/-- A statement whose connection fails reports that and nothing else. -/
def Tick.guard {α σ : Type} (t : Tick) (s : σ) (result : Except SqlError α × σ) :
    Except SqlError α × σ :=
  if t.fault then (.error .unavailable, s) else result

/-- Text that PostgreSQL can store: it has no NUL character. -/
def storable (s : String) : Bool := !s.toList.contains '\x00'

theorem Uuid.storable_text (u : Uuid) : storable u.text = true := by
  have hdigit : ∀ d < 16, hexDigit d ≠ '\x00' := by decide
  have hnul : '\x00' ∉ u.text.toList := by
    intro hmem
    rcases Uuid.mem_text hmem with h | ⟨d, hd, h⟩
    · exact absurd h (by decide)
    · exact hdigit d hd h.symm
  simpa [storable] using hnul

/-- The author filters of the three candidate queries. -/
inductive CandidateFilter where
  | all
  | system
  | nonSystem
deriving DecidableEq, Repr

def CandidateFilter.admits : CandidateFilter → String → Bool
  | all, _ => true
  | system, author => author == "system"
  | nonSystem, author => author != "system"

/-- The statements sent through the pool. -/
inductive PoolStmt : Type → Type where
  | selectCandidates (filter : CandidateFilter) (previousQuestionID : String) :
      PoolStmt (Except SqlError (List String))
  | selectQuizQuestion (questionID : String) :
      PoolStmt (Except SqlError (Option (String × String × String)))
  | selectChoices (questionID : String) : PoolStmt (Except SqlError (List Choice))
  | selectCorrectChoiceID (questionID : String) : PoolStmt (Except SqlError (Option String))
  | existsChoice (questionID choiceID : String) : PoolStmt (Except SqlError Bool)
  | selectMyQuestion (questionID userID : String) :
      PoolStmt (Except SqlError (Option (String × String × Timestamp)))
  | selectMyQuestions (userID : String) (limit : ℤ) :
      PoolStmt (Except SqlError (List QuestionSummary))
  | selectQuestionAuthor (questionID : String) :
      PoolStmt (Except SqlError (Option (String × Option Timestamp)))
  | insertAttempt (userID questionID selectedChoiceID : String) (isCorrect : Bool) :
      PoolStmt (Except SqlError String)
  | selectAttempts (userID : String) (limit : ℤ) : PoolStmt (Except SqlError (List Attempt))
  | selectStats (userID : String) : PoolStmt (Except SqlError (ℕ × ℕ))
  | insertUser (userID : String) : PoolStmt (Except SqlError Unit)

/-- The statements sent inside a transaction. -/
inductive TxStmt : Type → Type where
  | insertQuestion (authorUserID prompt : String) (explanation : Option String) :
      TxStmt (Except SqlError (String × Timestamp))
  | updateQuestion (prompt : String) (explanation : Option String) (questionID userID : String) :
      TxStmt (Except SqlError (Option Timestamp))
  | deleteChoices (questionID : String) : TxStmt (Except SqlError Unit)
  | insertChoice (questionID label : String) (ordinal : ℤ) : TxStmt (Except SqlError String)
  | upsertAnswerKey (questionID correctChoiceID : String) : TxStmt (Except SqlError Unit)

/-! ## Reads -/

section Reads

variable (io : UuidReaders) (db : Db)

/-- `$n::uuid` on a text parameter. -/
def withUuid {α : Type} (s : String) (f : Uuid → Except SqlError α) : Except SqlError α :=
  match io.cast s with
  | some u => f u
  | none => .error .invalidUuid

/-- The rows of `listQuizCandidates`, before they are sorted. -/
def Db.candidates (filter : CandidateFilter) (previousQuestionID : String) : List QuestionRow :=
  db.questions.filter fun q =>
    q.deletedAt.isNone && filter.admits q.authorUserId &&
      (previousQuestionID == "" || q.id.text != previousQuestionID)

/-- `ORDER BY created_at DESC`. -/
def newestFirst (a b : QuestionRow) : Prop := b.createdAt ≤ a.createdAt

instance : DecidableRel newestFirst := fun a b =>
  inferInstanceAs (Decidable (b.createdAt ≤ a.createdAt))

def selectCandidates (filter : CandidateFilter) (previousQuestionID : String) (t : Tick) :
    Except SqlError (List String) :=
  if storable previousQuestionID then
    .ok ((orderBy newestFirst t.scan (db.candidates filter previousQuestionID)).map fun q =>
      q.id.text)
  else .error .invalidText

def selectQuizQuestion (questionID : String) :
    Except SqlError (Option (String × String × String)) :=
  withUuid io questionID fun qid =>
    .ok ((db.questions.find? fun q => q.id = qid && q.deletedAt.isNone).map fun q =>
      (q.id.text, q.prompt, q.explanation.getD ""))

/-- `ORDER BY ordinal ASC`. -/
def byOrdinal (a b : ChoiceRow) : Prop := a.ordinal ≤ b.ordinal

instance : DecidableRel byOrdinal := fun a b => inferInstanceAs (Decidable (a.ordinal ≤ b.ordinal))

def ChoiceRow.toChoice (c : ChoiceRow) : Choice := ⟨c.id.text, c.label, c.ordinal⟩

def selectChoices (questionID : String) (t : Tick) : Except SqlError (List Choice) :=
  withUuid io questionID fun qid =>
    .ok ((orderBy byOrdinal t.scan (db.choicesOf qid)).map ChoiceRow.toChoice)

def selectCorrectChoiceID (questionID : String) : Except SqlError (Option String) :=
  withUuid io questionID fun qid =>
    .ok ((db.answerKeys.find? fun k => k.questionId = qid).map fun k => k.correctChoiceId.text)

def existsChoice (questionID choiceID : String) : Except SqlError Bool :=
  withUuid io questionID fun qid => withUuid io choiceID fun cid =>
    .ok (db.choices.any fun c => c.questionId = qid && c.id = cid)

def selectMyQuestion (questionID userID : String) :
    Except SqlError (Option (String × String × Timestamp)) :=
  if storable userID then
    withUuid io questionID fun qid =>
      .ok ((db.questions.find? fun q =>
          q.id = qid && q.authorUserId == userID && q.deletedAt.isNone).map fun q =>
        (q.prompt, q.explanation.getD "", q.updatedAt))
  else .error .invalidText

/-- `ORDER BY updated_at DESC`. -/
def recentlyUpdatedFirst (a b : QuestionRow) : Prop := b.updatedAt ≤ a.updatedAt

instance : DecidableRel recentlyUpdatedFirst := fun a b =>
  inferInstanceAs (Decidable (b.updatedAt ≤ a.updatedAt))

/-- `LIMIT $n`. -/
def limited {α : Type} (limit : ℤ) (rows : List α) : Except SqlError (List α) :=
  if limit < 0 then .error .negativeLimit else .ok (rows.take limit.toNat)

def selectMyQuestions (userID : String) (limit : ℤ) (t : Tick) :
    Except SqlError (List QuestionSummary) :=
  if storable userID then
    limited limit ((orderBy recentlyUpdatedFirst t.scan (db.questions.filter fun q =>
      q.authorUserId == userID && q.deletedAt.isNone)).map fun q =>
        ⟨q.id.text, q.prompt, q.updatedAt⟩)
  else .error .invalidText

def selectQuestionAuthor (questionID : String) :
    Except SqlError (Option (String × Option Timestamp)) :=
  withUuid io questionID fun qid =>
    .ok ((db.questions.find? fun q => q.id = qid).map fun q => (q.authorUserId, q.deletedAt))

/-- `attempts a JOIN questions q ON q.id = a.question_id WHERE a.user_id = $1`. -/
def Db.attemptsWithQuestions (userID : String) : List (AttemptRow × QuestionRow) :=
  (db.attempts.filter fun a => a.userId == userID).flatMap fun a =>
    (db.questions.filter fun q => q.id = a.questionId).map fun q => (a, q)

/-- `ORDER BY a.answered_at DESC`. -/
def latestFirst (x y : AttemptRow × QuestionRow) : Prop := y.1.answeredAt ≤ x.1.answeredAt

instance : DecidableRel latestFirst := fun x y =>
  inferInstanceAs (Decidable (y.1.answeredAt ≤ x.1.answeredAt))

def toAttempt (x : AttemptRow × QuestionRow) : Attempt where
  id := x.1.id.text
  questionID := x.1.questionId.text
  questionPrompt := x.2.prompt
  selectedChoiceID := x.1.selectedChoiceId.text
  isCorrect := x.1.isCorrect
  answeredAt := x.1.answeredAt

def selectAttempts (userID : String) (limit : ℤ) (t : Tick) : Except SqlError (List Attempt) :=
  if storable userID then
    limited limit ((orderBy latestFirst t.scan (db.attemptsWithQuestions userID)).map toAttempt)
  else .error .invalidText

/-- `COUNT(*)` and `SUM(CASE WHEN is_correct THEN 1 ELSE 0 END)`. -/
def selectStats (userID : String) : Except SqlError (ℕ × ℕ) :=
  if storable userID then
    let rows := db.attempts.filter fun a => a.userId == userID
    .ok (rows.length, (rows.map fun a => if a.isCorrect then 1 else 0).sum)
  else .error .invalidText

end Reads

/-! ## Writes through the pool -/

section PoolWrites

variable (io : UuidReaders) (db : Db)

/-- `INSERT INTO users (id) VALUES ($1) ON CONFLICT (id) DO NOTHING`. -/
def insertUser (userID : String) : Except SqlError Unit × Db :=
  if storable userID then
    match db.insertUser ⟨userID⟩ with
    | .ok db' => (.ok (), db')
    | .error .uniqueViolation => (.ok (), db)
    | .error e => (.error e, db)
  else (.error .invalidText, db)

def insertAttempt (userID questionID selectedChoiceID : String) (isCorrect : Bool) (t : Tick) :
    Except SqlError String × Db :=
  let inserted : Except SqlError Db :=
    if storable userID then
      withUuid io questionID fun qid => withUuid io selectedChoiceID fun cid =>
        db.insertAttempt
          { id := t.uuid.value
            userId := userID
            questionId := qid
            selectedChoiceId := cid
            isCorrect := isCorrect
            answeredAt := t.now }
    else .error .invalidText
  match inserted with
  | .ok db' => (.ok t.uuid.value.text, db')
  | .error e => (.error e, db)

end PoolWrites

/-- The meaning of the statements sent through the pool. -/
def PoolStmt.exec (io : UuidReaders) : Handler PoolStmt Tick Db
  | _, .selectCandidates filter previous, t, db =>
      t.guard db (HistoryQuiz.selectCandidates db filter previous t, db)
  | _, .selectQuizQuestion questionID, t, db =>
      t.guard db (HistoryQuiz.selectQuizQuestion io db questionID, db)
  | _, .selectChoices questionID, t, db =>
      t.guard db (HistoryQuiz.selectChoices io db questionID t, db)
  | _, .selectCorrectChoiceID questionID, t, db =>
      t.guard db (HistoryQuiz.selectCorrectChoiceID io db questionID, db)
  | _, .existsChoice questionID choiceID, t, db =>
      t.guard db (HistoryQuiz.existsChoice io db questionID choiceID, db)
  | _, .selectMyQuestion questionID userID, t, db =>
      t.guard db (HistoryQuiz.selectMyQuestion io db questionID userID, db)
  | _, .selectMyQuestions userID limit, t, db =>
      t.guard db (HistoryQuiz.selectMyQuestions db userID limit t, db)
  | _, .selectQuestionAuthor questionID, t, db =>
      t.guard db (HistoryQuiz.selectQuestionAuthor io db questionID, db)
  | _, .insertAttempt userID questionID selectedChoiceID isCorrect, t, db =>
      t.guard db (HistoryQuiz.insertAttempt io db userID questionID selectedChoiceID isCorrect t)
  | _, .selectAttempts userID limit, t, db =>
      t.guard db (HistoryQuiz.selectAttempts db userID limit t, db)
  | _, .selectStats userID, t, db => t.guard db (HistoryQuiz.selectStats db userID, db)
  | _, .insertUser userID, t, db => t.guard db (HistoryQuiz.insertUser db userID)

/-! ## Statements inside a transaction -/

/-- The state of an open transaction: the rows it sees, its clock, and the
question ids of the row events that `choices_enforce_four_per_question` has
queued for the commit. -/
structure TxState where
  db : Db
  now : Timestamp
  pending : List Uuid

section TxWrites

variable (io : UuidReaders) (s : TxState)

def txInsertQuestion (authorUserID prompt : String) (explanation : Option String) (t : Tick) :
    Except SqlError (String × Timestamp) × TxState :=
  if storable authorUserID && storable prompt && explanation.all storable then
    match s.db.insertQuestion
        { id := t.uuid.value
          authorUserId := authorUserID
          prompt := prompt
          explanation := explanation
          createdAt := s.now
          updatedAt := s.now
          deletedAt := none } with
    | .ok db' => (.ok (t.uuid.value.text, s.now), { s with db := db' })
    | .error e => (.error e, s)
  else (.error .invalidText, s)

/-- The rows that `UPDATE questions … WHERE` selects. -/
def ownActive (qid : Uuid) (userID : String) (q : QuestionRow) : Bool :=
  q.id = qid && q.authorUserId == userID && q.deletedAt.isNone

def txUpdateQuestion (prompt : String) (explanation : Option String) (questionID userID : String) :
    Except SqlError (Option Timestamp) × TxState :=
  if storable prompt && explanation.all storable && storable userID then
    match io.cast questionID with
    | some qid =>
        if s.db.questions.any (ownActive qid userID) then
          (.ok (some s.now),
            { s with
              db := s.db.updateQuestions s.now (ownActive qid userID) (fun _ => prompt)
                (fun _ => explanation) QuestionRow.deletedAt })
        else (.ok none, s)
    | none => (.error .invalidUuid, s)
  else (.error .invalidText, s)

def txDeleteChoices (questionID : String) : Except SqlError Unit × TxState :=
  match io.cast questionID with
  | some qid =>
      match s.db.deleteChoices fun c => c.questionId = qid with
      | .ok db' =>
          (.ok (),
            { s with
              db := db'
              pending := s.pending ++ (s.db.choicesOf qid).map ChoiceRow.questionId })
      | .error e => (.error e, s)
  | none => (.error .invalidUuid, s)

def txInsertChoice (questionID label : String) (ordinal : ℤ) (t : Tick) :
    Except SqlError String × TxState :=
  if storable label then
    match io.cast questionID with
    | some qid =>
        match s.db.insertChoice
            { id := t.uuid.value, questionId := qid, label := label, ordinal := ordinal } with
        | .ok db' =>
            (.ok t.uuid.value.text, { s with db := db', pending := s.pending ++ [qid] })
        | .error e => (.error e, s)
    | none => (.error .invalidUuid, s)
  else (.error .invalidText, s)

def txUpsertAnswerKey (questionID correctChoiceID : String) : Except SqlError Unit × TxState :=
  match io.cast questionID, io.cast correctChoiceID with
  | some qid, some cid =>
      match s.db.upsertAnswerKey ⟨qid, cid⟩ with
      | .ok db' => (.ok (), { s with db := db' })
      | .error e => (.error e, s)
  | _, _ => (.error .invalidUuid, s)

end TxWrites

/-- The meaning of the statements inside a transaction. -/
def TxStmt.exec (io : UuidReaders) : Handler TxStmt Tick TxState
  | _, .insertQuestion authorUserID prompt explanation, t, s =>
      t.guard s (txInsertQuestion s authorUserID prompt explanation t)
  | _, .updateQuestion prompt explanation questionID userID, t, s =>
      t.guard s (txUpdateQuestion io s prompt explanation questionID userID)
  | _, .deleteChoices questionID, t, s => t.guard s (txDeleteChoices io s questionID)
  | _, .insertChoice questionID label ordinal, t, s =>
      t.guard s (txInsertChoice io s questionID label ordinal t)
  | _, .upsertAnswerKey questionID correctChoiceID, t, s =>
      t.guard s (txUpsertAnswerKey io s questionID correctChoiceID)

/-! ## Transactions -/

/-- The deferred trigger at commit: every question with a queued event has
exactly four choices. -/
def TxState.fourChoices (s : TxState) : Bool :=
  s.pending.all fun q => (s.db.choicesOf q).length == 4

/-- What the outside world contributes to one operation on the pool: a statement
takes `first`; a transaction takes `first` for its BEGIN, `body` for its
statements and `commit` for its COMMIT. -/
structure OpTick where
  first : Tick
  body : ℕ → Tick
  commit : Tick

/-- `withTx`: begin, run the function, commit; every error rolls back. -/
def withTx (io : UuidReaders) {α : Type} (body : Prog TxStmt GoError α) (t : OpTick) (db : Db) :
    Except GoError α × Db :=
  if t.first.fault then
    (.error (.wrap "トランザクション開始に失敗しました" (.driver .unavailable)), db)
  else
    match body.run (TxStmt.exec io) t.body { db := db, now := t.first.now, pending := [] } with
    | (.error e, _) => (.error e, db)
    | (.ok a, s) =>
        if t.commit.fault then
          (.error (.wrap "トランザクションの commit に失敗しました" (.driver .unavailable)), db)
        else if s.fourChoices then (.ok a, s.db)
        else (.error (.wrap "トランザクションの commit に失敗しました" (.driver .raisedByTrigger)), db)

/-- The operations of the program on the database. -/
inductive DbOp : Type → Type 1 where
  | stmt {β : Type} (s : PoolStmt β) : DbOp β
  | tx {α : Type} (body : Prog TxStmt GoError α) : DbOp (Except GoError α)

/-- The meaning of the operations: each is atomic. -/
def DbOp.exec (io : UuidReaders) : Handler DbOp OpTick Db
  | _, .stmt s, t, db => PoolStmt.exec io s t.first db
  | _, .tx body, t, db => withTx io body t db

end HistoryQuiz
