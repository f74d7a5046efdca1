import HistoryQuiz.Backend.QuestionUsecase
import HistoryQuiz.Backend.QuizUsecase
import HistoryQuiz.Postgres.Migration

/-!
# Calls and reachable states

The remote calls as the use cases see them, what they do to the database, and
the states that sequences of them reach from the migrated database. Nothing in
the backend sets `deleted_at`; operators do, so a step of the system is a call
or a change of that column.
-/

namespace HistoryQuiz

open Effect Relation

/-- The calls, with the caller that the interceptor has found (empty for none). -/
inductive Call where
  | getQuestion (requestID previousQuestionID : String)
  | submitAnswer (userID questionID selectedChoiceID : String)
  | createQuestion (userID : String) (draft : QuestionDraft)
  | updateQuestion (userID questionID : String) (draft : QuestionDraft)
  | getMyQuestion (userID questionID : String)
  | listMyQuestions (userID : String) (pageSize : ℤ)
  | listMyAttempts (userID : String) (pageSize : ℤ)
  | getMyStats (userID : String)
deriving DecidableEq

inductive Reply where
  | question (q : Question)
  | answer (r : QuizUsecase.SubmitAnswerResult)
  | detail (q : QuestionDetail)
  | questions (qs : List QuestionSummary) (nextPageToken : String)
  | attempts (attempts : List Attempt) (nextPageToken : String)
  | stats (s : Stats)
deriving DecidableEq

/-- The program that serves a call. -/
def Call.prog (io : UuidReaders) : Call → DbProg Reply
  | getQuestion requestID previousQuestionID => do
      return .question (← QuizUsecase.getQuestion io requestID previousQuestionID)
  | submitAnswer userID questionID selectedChoiceID => do
      return .answer (← QuizUsecase.submitAnswer io userID questionID selectedChoiceID)
  | createQuestion userID draft => do
      return .detail (← QuestionUsecase.createQuestion userID draft)
  | updateQuestion userID questionID draft => do
      return .detail (← QuestionUsecase.updateQuestion io userID questionID draft)
  | getMyQuestion userID questionID => do
      return .detail (← QuestionUsecase.getMyQuestion io userID questionID)
  | listMyQuestions userID pageSize => do
      let (questions, token) ← QuestionUsecase.listMyQuestions userID pageSize
      return .questions questions token
  | listMyAttempts userID pageSize => do
      let (attempts, token) ← UserUsecase.listMyAttempts userID pageSize
      return .attempts attempts token
  | getMyStats userID => do
      return .stats (← UserUsecase.getMyStats userID)

/-- The caller of a call; `GetQuestion` does not look at it. -/
def Call.userID : Call → String
  | getQuestion _ _ => ""
  | submitAnswer userID _ _ => userID
  | createQuestion userID _ => userID
  | updateQuestion userID _ _ => userID
  | getMyQuestion userID _ => userID
  | listMyQuestions userID _ => userID
  | listMyAttempts userID _ => userID
  | getMyStats userID => userID

/-- Serve a call alone. -/
def Call.perform (io : UuidReaders) (c : Call) (τ : ℕ → OpTick) (db : Db) :
    Except GoError Reply × Db :=
  (c.prog io).run (DbOp.exec io) τ db

/-- Set `deleted_at` of the questions in `p`. -/
def Db.setDeletedAt (db : Db) (now : Timestamp) (p : QuestionRow → Bool)
    (deletedAt : QuestionRow → Option Timestamp) : Db :=
  db.updateQuestions now p QuestionRow.prompt QuestionRow.explanation deletedAt

/-- One step of the system, by a caller that `may` make the call. -/
inductive Step (io : UuidReaders) (may : Call → Prop) (db : Db) : Db → Prop
  | call (c : Call) (τ : ℕ → OpTick) (h : may c) : Step io may db (c.perform io τ db).2
  | setDeletedAt (now : Timestamp) (p : QuestionRow → Bool)
      (deletedAt : QuestionRow → Option Timestamp) :
      Step io may db (db.setDeletedAt now p deletedAt)

/-- Any sequence of steps. -/
abbrev Steps (io : UuidReaders) (may : Call → Prop) : Db → Db → Prop :=
  ReflTransGen (Step io may)

/-- The states that the system reaches from the migrated database. -/
def Reachable (io : UuidReaders) (db : Db) : Prop :=
  ∃ now, Steps io (fun _ => True) (seeded now) db

/-! ## A world in which nothing fails -/

/-- Thirty-two values of `gen_random_uuid()`, over and over. -/
def countedUuid (n : ℕ) : RandomUuid where
  value := BitVec.ofNat 128 (0x40008000000000000000 + n % 32)
  random := by
    have hrandom : ∀ k < 32, Uuid.isRandom (BitVec.ofNat 128 (0x40008000000000000000 + k)) = true :=
      by decide
    exact hrandom (n % 32) (Nat.mod_lt n (by decide))

def calmTick (now : Timestamp) (uuid : ℕ) : Tick where
  fault := false
  now := now
  uuid := countedUuid uuid
  scan := id

/-- Nothing fails, the clock stands still, and the generator counts from `uuid`. -/
def calm (now : Timestamp) (uuid : ℕ) : ℕ → OpTick := fun _ =>
  { first := calmTick now uuid
    body := fun i => calmTick now (uuid + i)
    commit := calmTick now uuid }

/-! ## Runs -/

/-- What every step preserves holds in every state that is reached. -/
theorem Steps.invariant {io : UuidReaders} {may : Call → Prop} {I : Db → Prop}
    (step : ∀ ⦃db db'⦄, I db → Step io may db db' → I db') {db db' : Db}
    (h : Steps io may db db') (hdb : I db) : I db' := by
  induction h with
  | refl => exact hdb
  | tail _ hstep ih => exact step ih hstep

end HistoryQuiz
