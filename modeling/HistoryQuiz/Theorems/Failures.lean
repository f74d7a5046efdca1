import HistoryQuiz.Backend.Transport
import HistoryQuiz.Base.Failures
import HistoryQuiz.Theorems.Update

/-!
# Whom a failing database is blamed on

A statement, a BEGIN or a COMMIT that fails for a reason of its own (a lost
connection, a timeout, an exhausted pool) ends the call. Half of the error
branches report `INTERNAL`; the others take every error of the driver for bad
input, and the client is told `INVALID_ARGUMENT` (`failure_internal_iff`).

`FailurePoint` names the places; `FailurePoint.code` is the status that each
reports, whatever the request and the database are (`serve_reports`).
-/

namespace HistoryQuiz

open Effect QuestionRepository

variable {io : UuidReaders}

/-! ## Where a call can fail -/

/-- The statements of the repositories, and the two ends of a transaction. -/
inductive FailurePoint where
  | selectCandidates
  | selectQuizQuestion
  | selectChoices
  | selectCorrectChoiceID
  | existsChoice
  | selectMyQuestion
  | selectMyQuestions
  | selectQuestionAuthor
  | insertAttempt
  | selectAttempts
  | selectStats
  | insertUser
  | beginTx
  | insertQuestion
  | updateQuestion
  | deleteChoices
  | insertChoice
  | upsertAnswerKey
  | commitTx
deriving DecidableEq, Repr

/-- The places whose error branch takes every error for an invalid argument. -/
def FailurePoint.blamesClient : FailurePoint → Bool
  | selectQuizQuestion => true
  | selectCorrectChoiceID => true
  | existsChoice => true
  | selectMyQuestion => true
  | selectQuestionAuthor => true
  | insertAttempt => true
  | insertQuestion => true
  | updateQuestion => true
  | insertChoice => true
  | upsertAnswerKey => true
  | _ => false

def PoolStmt.point : {β : Type} → PoolStmt β → FailurePoint
  | _, .selectCandidates .. => .selectCandidates
  | _, .selectQuizQuestion .. => .selectQuizQuestion
  | _, .selectChoices .. => .selectChoices
  | _, .selectCorrectChoiceID .. => .selectCorrectChoiceID
  | _, .existsChoice .. => .existsChoice
  | _, .selectMyQuestion .. => .selectMyQuestion
  | _, .selectMyQuestions .. => .selectMyQuestions
  | _, .selectQuestionAuthor .. => .selectQuestionAuthor
  | _, .insertAttempt .. => .insertAttempt
  | _, .selectAttempts .. => .selectAttempts
  | _, .selectStats .. => .selectStats
  | _, .insertUser .. => .insertUser

def TxStmt.point : {β : Type} → TxStmt β → FailurePoint
  | _, .insertQuestion .. => .insertQuestion
  | _, .updateQuestion .. => .updateQuestion
  | _, .deleteChoices .. => .deleteChoices
  | _, .insertChoice .. => .insertChoice
  | _, .upsertAnswerKey .. => .upsertAnswerKey

/-- The statements of a transaction that fail. -/
def txFailures (io : UuidReaders) : Failures TxStmt Tick TxState FailurePoint where
  handler := TxStmt.exec io
  fails := fun _ s t _ => if t.fault then some s.point else none

/-- The first place at which a transaction fails: COMMIT is reached when its
function returns. -/
def txFailure (io : UuidReaders) {α : Type} (body : Prog TxStmt GoError α) (t : OpTick) (db : Db) :
    Option FailurePoint :=
  let s : TxState := { db := db, now := t.first.now, pending := [] }
  if t.first.fault then some .beginTx
  else
    match body.failure (txFailures io) t.body s with
    | some x => some x
    | none =>
        if (body.run (TxStmt.exec io) t.body s).1.isOk && t.commit.fault then some .commitTx
        else none

/-- The operations on the database that fail. -/
def dbFailures (io : UuidReaders) : Failures DbOp OpTick Db FailurePoint where
  handler := DbOp.exec io
  fails := fun
    | _, .stmt s, t, _ => if t.first.fault then some s.point else none
    | _, .tx body, t, db => txFailure io body t db

/-! ## What a failure is reported as -/

/-- The status that a failure at a place is reported with. -/
def FailurePoint.code (x : FailurePoint) : GrpcCode :=
  if x.blamesClient then .invalidArgument else .internal

def FailurePoint.Gives (x : FailurePoint) (status : Status) : Prop := status.code = x.code

/-- The error becomes the status of the place. -/
def FailurePoint.Becomes (x : FailurePoint) (e : GoError) : Prop := x.Gives (toStatusError e)

/-- No failure looks like a row that is not there. -/
theorem FailurePoint.Becomes.not_notFound {x : FailurePoint} {e : GoError} (h : x.Becomes e) :
    e.isCode .notFound = false := by
  rw [Bool.eq_false_iff]
  intro hnotFound
  have hcode := h.symm.trans (toStatusError_notFound.mpr hnotFound)
  unfold code at hcode
  split at hcode <;> cases hcode

/-- The answer of a statement whose connection fails. -/
def PoolStmt.unavailable : {β : Type} → PoolStmt β → β
  | _, .selectCandidates .. => .error .unavailable
  | _, .selectQuizQuestion .. => .error .unavailable
  | _, .selectChoices .. => .error .unavailable
  | _, .selectCorrectChoiceID .. => .error .unavailable
  | _, .existsChoice .. => .error .unavailable
  | _, .selectMyQuestion .. => .error .unavailable
  | _, .selectMyQuestions .. => .error .unavailable
  | _, .selectQuestionAuthor .. => .error .unavailable
  | _, .insertAttempt .. => .error .unavailable
  | _, .selectAttempts .. => .error .unavailable
  | _, .selectStats .. => .error .unavailable
  | _, .insertUser .. => .error .unavailable

def TxStmt.unavailable : {β : Type} → TxStmt β → β
  | _, .insertQuestion .. => .error .unavailable
  | _, .updateQuestion .. => .error .unavailable
  | _, .deleteChoices .. => .error .unavailable
  | _, .insertChoice .. => .error .unavailable
  | _, .upsertAnswerKey .. => .error .unavailable

theorem Tick.guard_fault {α σ : Type} {t : Tick} (ht : t.fault = true) (s : σ)
    (result : Except SqlError α × σ) : t.guard s result = (.error .unavailable, s) := by
  rw [Tick.guard, if_pos ht]

theorem PoolStmt.exec_fault {β : Type} (s : PoolStmt β) {t : Tick} (ht : t.fault = true) (db : Db) :
    PoolStmt.exec io s t db = (s.unavailable, db) := by
  cases s <;> exact Tick.guard_fault ht ..

theorem TxStmt.exec_fault {β : Type} (s : TxStmt β) {t : Tick} (ht : t.fault = true) (x : TxState) :
    TxStmt.exec io s t x = (s.unavailable, x) := by
  cases s <;> exact Tick.guard_fault ht ..

/-- A statement: its error branch ends the call with the status of its place. -/
theorem reports_query {α β : Type} {s : PoolStmt β} {f : β → DbProg α} (e : GoError)
    (hend : f s.unavailable = .fail e) (he : s.point.Becomes e)
    (hf : ∀ b, (f b).Reports (dbFailures io) FailurePoint.Becomes) :
    ((query s).bind f).Reports (dbFailures io) FailurePoint.Becomes := by
  refine ⟨?_, hf⟩
  intro t db x hx
  obtain ⟨ht, rfl⟩ : t.first.fault = true ∧ s.point = x := by simpa [dbFailures] using hx
  refine ⟨e, ?_, he⟩
  show f (PoolStmt.exec io s t.first db).1 = .fail e
  rw [PoolStmt.exec_fault s ht]
  exact hend

theorem reports_txQuery {α β : Type} {s : TxStmt β} {f : β → Prog TxStmt GoError α} (e : GoError)
    (hend : f s.unavailable = .fail e) (he : s.point.Becomes e)
    (hf : ∀ b, (f b).Reports (txFailures io) FailurePoint.Becomes) :
    ((txQuery s).bind f).Reports (txFailures io) FailurePoint.Becomes := by
  refine ⟨?_, hf⟩
  intro t y x hx
  obtain ⟨ht, rfl⟩ : t.fault = true ∧ s.point = x := by simpa [txFailures] using hx
  refine ⟨e, ?_, he⟩
  show f (TxStmt.exec io s t y).1 = .fail e
  rw [TxStmt.exec_fault s ht]
  exact hend

/-- A transaction: BEGIN and COMMIT report `INTERNAL`, the function what its
statements report. -/
theorem withTx_failure {α : Type} {body : Prog TxStmt GoError α}
    (hbody : body.Reports (txFailures io) FailurePoint.Becomes) {t : OpTick} {db : Db}
    {x : FailurePoint} (hx : txFailure io body t db = some x) :
    ∃ e, (withTx io body t db).1 = .error e ∧ x.Becomes e := by
  unfold txFailure at hx
  unfold withTx
  cases hbegin : t.first.fault with
  | true =>
      obtain rfl : FailurePoint.beginTx = x := by simpa [hbegin] using hx
      exact ⟨_, rfl, rfl⟩
  | false =>
      simp only [hbegin, Bool.false_eq_true, if_false] at hx ⊢
      have hreport : ∀ y : FailurePoint,
          body.failure (txFailures io) t.body ⟨db, t.first.now, []⟩ = some y →
            ∃ e, (body.run (TxStmt.exec io) t.body ⟨db, t.first.now, []⟩).1 = .error e ∧
              y.Becomes e :=
        fun y hy => hbody.run_failure hy
      generalize body.run (TxStmt.exec io) t.body ⟨db, t.first.now, []⟩ = outcome at hx hreport ⊢
      generalize body.failure (txFailures io) t.body ⟨db, t.first.now, []⟩ = failure at hx hreport
      obtain ⟨r, s⟩ := outcome
      cases failure with
      | some y =>
          obtain ⟨e, rfl, he⟩ := hreport y rfl
          obtain rfl : y = x := by simpa using hx
          exact ⟨e, rfl, he⟩
      | none =>
          cases r with
          | error e => simp [Except.isOk, Except.toBool] at hx
          | ok a =>
              obtain ⟨hcommit, rfl⟩ : t.commit.fault = true ∧ FailurePoint.commitTx = x := by
                simpa [Except.isOk, Except.toBool] using hx
              simp only [hcommit, if_true]
              exact ⟨_, rfl, rfl⟩

theorem reports_inTx {α : Type} {body : Prog TxStmt GoError α}
    (hbody : body.Reports (txFailures io) FailurePoint.Becomes) :
    (inTx body).Reports (dbFailures io) FailurePoint.Becomes := by
  refine ⟨?_, fun r => Prog.reports_ofExcept r⟩
  intro t db x hx
  obtain ⟨e, herror, he⟩ := withTx_failure hbody hx
  refine ⟨e, ?_, he⟩
  show Prog.ofExcept (withTx io body t db).1 = .fail e
  rw [herror]
  rfl

/-! ## The repositories -/

theorem reports_listQuizCandidates {previous mode : String} :
    (listQuizCandidates previous mode).Reports (dbFailures io) FailurePoint.Becomes := by
  unfold listQuizCandidates
  dsimp only
  split
  case h_4 => trivial
  all_goals
    refine reports_query _ rfl rfl ?_
    rintro (_ | _) <;> trivial

theorem reports_listChoices {questionID : String} :
    (listChoices questionID).Reports (dbFailures io) FailurePoint.Becomes := by
  refine reports_query _ rfl rfl ?_
  rintro (_ | _) <;> trivial

theorem reports_getQuizQuestion {questionID : String} :
    (getQuizQuestion questionID).Reports (dbFailures io) FailurePoint.Becomes := by
  refine reports_query _ rfl rfl ?_
  rintro (_ | _ | _)
  · trivial
  · trivial
  · exact reports_listChoices.bind fun _ => trivial

theorem reports_getCorrectChoiceID {questionID : String} :
    (getCorrectChoiceID questionID).Reports (dbFailures io) FailurePoint.Becomes := by
  refine reports_query _ rfl rfl ?_
  rintro (_ | _ | _) <;> trivial

theorem reports_choiceBelongsToQuestion {questionID choiceID : String} :
    (choiceBelongsToQuestion questionID choiceID).Reports (dbFailures io)
      FailurePoint.Becomes := by
  refine reports_query _ rfl rfl ?_
  rintro (_ | _) <;> trivial

theorem reports_getMyQuestion {userID questionID : String} :
    (getMyQuestion userID questionID).Reports (dbFailures io) FailurePoint.Becomes := by
  refine reports_query _ rfl rfl ?_
  rintro (_ | _ | _)
  · trivial
  · trivial
  · exact reports_listChoices.bind fun _ => reports_getCorrectChoiceID.bind fun _ => trivial

theorem reports_listMyQuestions {userID : String} {limit : ℤ} :
    (listMyQuestions userID limit).Reports (dbFailures io) FailurePoint.Becomes := by
  refine reports_query _ rfl rfl ?_
  rintro (_ | _) <;> trivial

theorem reports_getQuestionAuthor {questionID : String} :
    (getQuestionAuthor questionID).Reports (dbFailures io) FailurePoint.Becomes := by
  refine reports_query _ rfl rfl ?_
  rintro (_ | _ | _) <;> trivial

theorem reports_insertChoices {questionID : String} {correctOrdinal : ℤ} (i : ℕ)
    (labels : List String) (choices : List Choice) (correctChoiceID : String) :
    (insertChoices questionID correctOrdinal i labels choices correctChoiceID).Reports
      (txFailures io) FailurePoint.Becomes := by
  induction labels generalizing i choices correctChoiceID with
  | nil => trivial
  | cons label labels ih =>
      refine reports_txQuery _ rfl rfl ?_
      rintro (_ | choiceID)
      · trivial
      · exact ih ..

theorem reports_insertChoicesAndAnswerKey {questionID : String} {draft : QuestionDraft} :
    (insertChoicesAndAnswerKey questionID draft).Reports (txFailures io)
      FailurePoint.Becomes := by
  refine (reports_insertChoices ..).bind ?_
  rintro ⟨choices, correctChoiceID⟩
  dsimp only
  split_ifs
  · trivial
  · refine reports_txQuery _ rfl rfl ?_
    rintro (_ | _) <;> trivial

theorem reports_createQuestion {userID : String} {draft : QuestionDraft} :
    (createQuestion userID draft).Reports (dbFailures io) FailurePoint.Becomes := by
  unfold createQuestion
  split_ifs
  · trivial
  · refine reports_inTx (reports_txQuery _ rfl rfl ?_)
    rintro (_ | ⟨questionID, updatedAt⟩)
    · trivial
    · exact reports_insertChoicesAndAnswerKey.bind fun _ => trivial

theorem reports_updateQuestion {userID questionID : String} {draft : QuestionDraft} :
    (updateQuestion userID questionID draft).Reports (dbFailures io) FailurePoint.Becomes := by
  refine reports_inTx (reports_txQuery _ rfl rfl ?_)
  rintro (_ | _ | updatedAt)
  · trivial
  · trivial
  · refine reports_txQuery _ rfl rfl ?_
    rintro (_ | _)
    · trivial
    · exact reports_insertChoicesAndAnswerKey.bind fun _ => trivial

theorem reports_createAttempt {userID questionID choiceID : String} {isCorrect : Bool} :
    (AttemptRepository.createAttempt userID questionID choiceID isCorrect).Reports
      (dbFailures io) FailurePoint.Becomes := by
  unfold AttemptRepository.createAttempt
  split_ifs
  · trivial
  · trivial
  · trivial
  · refine reports_query _ rfl rfl ?_
    rintro (_ | _) <;> trivial

theorem reports_listMyAttempts {userID : String} {limit : ℤ} :
    (AttemptRepository.listMyAttempts userID limit).Reports (dbFailures io)
      FailurePoint.Becomes := by
  unfold AttemptRepository.listMyAttempts
  split_ifs
  · trivial
  · refine reports_query _ rfl rfl ?_
    rintro (_ | _) <;> trivial

theorem reports_getMyStats {userID : String} :
    (AttemptRepository.getMyStats userID).Reports (dbFailures io) FailurePoint.Becomes := by
  unfold AttemptRepository.getMyStats
  split_ifs
  · trivial
  · refine reports_query _ rfl rfl ?_
    rintro (_ | ⟨_, _⟩) <;> trivial

theorem reports_ensureUserExists {userID : String} :
    (UserRepository.ensureUserExists userID).Reports (dbFailures io) FailurePoint.Becomes := by
  unfold UserRepository.ensureUserExists
  split_ifs
  · trivial
  · refine reports_query _ rfl rfl ?_
    rintro (_ | _) <;> trivial

/-! ## The use cases -/

theorem reports_getQuestion {requestID previous : String} :
    (QuizUsecase.getQuestion io requestID previous).Reports (dbFailures io)
      FailurePoint.Becomes := by
  unfold QuizUsecase.getQuestion
  split_ifs
  · trivial
  · refine reports_listQuizCandidates.bind fun nonSystemIDs => ?_
    have hlist : ∀ previous, (if nonSystemIDs = [] then
        listQuizCandidateSystemQuestionIDs previous
        else listQuizCandidateQuestionIDs previous).Reports (dbFailures io)
          FailurePoint.Becomes := by
      intro previous
      split_ifs <;> exact reports_listQuizCandidates
    refine (hlist _).bind fun firstIDs => ?_
    refine Prog.Reports.bind ?_ fun candidateIDs => ?_
    · by_cases hretry : firstIDs = [] ∧ previous ≠ ""
      · rw [if_pos hretry]
        exact hlist ""
      · rw [if_neg hretry]
        trivial
    · split_ifs
      · exact Prog.reports_ofExcept _
      · -- only a question that is not there is replaced by a default one
        refine Prog.Reports.attempt_bind reports_getQuizQuestion ?_ ?_
        · intro x e he
          simp only [he.not_notFound, Bool.false_eq_true, if_false]
        · rintro (e | q)
          · dsimp only
            split_ifs
            · exact Prog.reports_ofExcept _
            · trivial
          · trivial

theorem reports_submitAnswer {userID questionID choiceID : String} :
    (QuizUsecase.submitAnswer io userID questionID choiceID).Reports (dbFailures io)
      FailurePoint.Becomes := by
  unfold QuizUsecase.submitAnswer
  split
  · trivial
  split
  · trivial
  split
  · trivial
  split
  · trivial
  -- only a key that is not there is looked up in the default set
  refine Prog.Reports.attempt_bind reports_getCorrectChoiceID ?_ ?_
  · intro x e he
    simp only [he.not_notFound]
  · rintro (e | correct)
    · dsimp only
      split <;> trivial
    · refine reports_choiceBelongsToQuestion.bind fun belongs => ?_
      split_ifs
      · trivial
      · trivial
      · exact reports_ensureUserExists.bind fun _ => reports_createAttempt.bind fun _ => trivial

theorem reports_usecaseCreateQuestion {userID : String} {draft : QuestionDraft} :
    (QuestionUsecase.createQuestion userID draft).Reports (dbFailures io)
      FailurePoint.Becomes := by
  unfold QuestionUsecase.createQuestion
  split_ifs
  · trivial
  · cases QuestionUsecase.validateDraft draft with
    | some e => trivial
    | none => exact reports_ensureUserExists.bind fun _ => reports_createQuestion

theorem reports_usecaseUpdateQuestion {userID questionID : String} {draft : QuestionDraft} :
    (QuestionUsecase.updateQuestion io userID questionID draft).Reports (dbFailures io)
      FailurePoint.Becomes := by
  unfold QuestionUsecase.updateQuestion
  split_ifs
  · trivial
  · trivial
  · trivial
  · cases QuestionUsecase.validateDraft draft with
    | some e => trivial
    | none =>
        refine reports_getQuestionAuthor.bind fun author => ?_
        dsimp only
        split_ifs
        · trivial
        · trivial
        · exact reports_ensureUserExists.bind fun _ => reports_updateQuestion

/-- Every call. -/
theorem Call.prog_reports (io : UuidReaders) (c : Call) :
    (c.prog io).Reports (dbFailures io) FailurePoint.Becomes := by
  cases c with
  | getQuestion requestID previous => exact reports_getQuestion.bind fun _ => trivial
  | submitAnswer u questionID choiceID => exact reports_submitAnswer.bind fun _ => trivial
  | createQuestion u draft => exact reports_usecaseCreateQuestion.bind fun _ => trivial
  | updateQuestion u questionID draft => exact reports_usecaseUpdateQuestion.bind fun _ => trivial
  | getMyQuestion u questionID =>
      refine Prog.Reports.bind ?_ fun _ => trivial
      unfold QuestionUsecase.getMyQuestion
      split_ifs
      · trivial
      · trivial
      · trivial
      · exact reports_getMyQuestion
  | listMyQuestions u pageSize =>
      refine Prog.Reports.bind ?_ fun _ => trivial
      unfold QuestionUsecase.listMyQuestions
      split_ifs
      · trivial
      · exact reports_listMyQuestions.bind fun _ => trivial
  | listMyAttempts u pageSize =>
      refine Prog.Reports.bind ?_ fun _ => trivial
      unfold UserUsecase.listMyAttempts
      split_ifs
      · trivial
      · exact reports_listMyAttempts.bind fun _ => trivial
  | getMyStats u =>
      refine Prog.Reports.bind ?_ fun _ => trivial
      unfold UserUsecase.getMyStats
      split_ifs
      · trivial
      · exact reports_getMyStats

/-! ## The server -/

section Interceptors

variable {D : Failures DbOp OpTick Db FailurePoint} {R : FailurePoint → Status → Prop} {α : Type}
  {handler : Context → GrpcProg α}

theorem reports_unaryContextInterceptor (h : ∀ ctx, (handler ctx).Reports D R) (requireAuth : Bool)
    (md : Metadata) (ctx : Context) :
    (unaryContextInterceptor requireAuth md ctx handler).Reports D R := by
  unfold unaryContextInterceptor
  dsimp only
  split
  · trivial
  · exact h _

theorem reports_unaryRequireAuthByMethodInterceptor (h : ∀ ctx, (handler ctx).Reports D R)
    (allowAnonymousMethods : List String) (fullMethod : String) (ctx : Context) :
    (unaryRequireAuthByMethodInterceptor allowAnonymousMethods fullMethod ctx handler).Reports D
      R := by
  unfold unaryRequireAuthByMethodInterceptor
  dsimp only
  split_ifs
  · exact h ctx
  · trivial
  · exact h ctx

end Interceptors

/-- Every request, with any metadata: a failure is reported with the status of its
place. -/
theorem serve_reports (io : UuidReaders) (md : Metadata) (req : Request) :
    (serve io md req).Reports (dbFailures io) FailurePoint.Gives := by
  refine reports_unaryContextInterceptor (fun ctx => ?_) ..
  refine reports_unaryRequireAuthByMethodInterceptor (fun ctx => ?_) ..
  have hcall : (((req.call ctx).prog io).mapError toStatusError).Reports (dbFailures io)
      FailurePoint.Gives := by
    refine Prog.Reports.mapError ?_ ((req.call ctx).prog_reports io)
    intro x e he
    exact he
  exact hcall.bind fun _ => trivial

/-- The outcome is the status `INTERNAL` or `UNAVAILABLE`. -/
def ServerFault : Except Status Response → Prop
  | .ok _ => False
  | .error status => status.code = .internal ∨ status.code = .unavailable

/-- For every request, metadata and database, whatever others do to the database
before each operation of the call: the first statement, BEGIN or COMMIT that fails
is reported as a fault of the server exactly when its error branch does not blame
the client. -/
theorem failure_internal_iff (io : UuidReaders) (md : Metadata) (req : Request)
    (τ : ℕ → (Db → Db) × OpTick) (db : Db) {x : FailurePoint}
    (hx : (serve io md req).failure (dbFailures io).interfered τ db = some x) :
    ServerFault ((serve io md req).run (Handler.interfered (DbOp.exec io)) τ db).1 ↔
      x.blamesClient = false := by
  obtain ⟨status, hrun, hcode⟩ := (serve_reports io md req).interfered.run_failure hx
  replace hrun : ((serve io md req).run (Handler.interfered (DbOp.exec io)) τ db).1 =
    .error status := hrun
  rw [hrun]
  show status.code = .internal ∨ status.code = .unavailable ↔ _
  rw [hcode, FailurePoint.code]
  cases x.blamesClient <;> simp

/-! ### A lost connection -/

/-- The first statement of an operation, or its BEGIN, fails. -/
def connectionLost (now : Timestamp) (uuid : ℕ) : ℕ → (Db → Db) × OpTick := fun n =>
  (id, { calm now uuid n with first := { calmTick now uuid with fault := true } })

/-- Somebody who is not logged in picks the correct choice of Alice's question. -/
def sampleAnswer : Request := .submitAnswer none sampleQuestion.text (countedUuid 1).value.text

/-- The answer is judged; when the connection is lost at its first statement, the
client is told that its question id is invalid. -/
theorem submitAnswer_blamed :
    Reachable documentedReaders createdStore ∧
      ((serve documentedReaders (fun _ => []) sampleAnswer).run (DbOp.exec documentedReaders)
        (calm 2 8) createdStore).1 =
          .ok ⟨⟨""⟩, .answer ⟨true, (countedUuid 1).value.text, ""⟩⟩ ∧
      (serve documentedReaders (fun _ => []) sampleAnswer).failure
        (dbFailures documentedReaders).interfered (connectionLost 2 8) createdStore =
          some .selectCorrectChoiceID ∧
      ((serve documentedReaders (fun _ => []) sampleAnswer).run
        (Handler.interfered (DbOp.exec documentedReaders)) (connectionLost 2 8) createdStore).1 =
          .error ⟨.invalidArgument, "question_id が不正です"⟩ ∧
      ¬ServerFault ((serve documentedReaders (fun _ => []) sampleAnswer).run
        (Handler.interfered (DbOp.exec documentedReaders)) (connectionLost 2 8)
        createdStore).1 := by
  have hlost : ((serve documentedReaders (fun _ => []) sampleAnswer).run
      (Handler.interfered (DbOp.exec documentedReaders)) (connectionLost 2 8) createdStore).1 =
        .error ⟨.invalidArgument, "question_id が不正です"⟩ := by decide +kernel
  refine ⟨reachable_createdStore, by decide +kernel, by decide +kernel, hlost, ?_⟩
  rw [hlost]
  rintro (h | h) <;> cases h

/-- A connection that is lost while a question is chosen. -/
theorem failure_internal_iff_getQuestion :
    ServerFault ((serve documentedReaders (fun _ => []) (.getQuestion none "")).run
      (Handler.interfered (DbOp.exec documentedReaders)) (connectionLost 2 8) createdStore).1 :=
  (failure_internal_iff documentedReaders (fun _ => []) (.getQuestion none "") (connectionLost 2 8)
    createdStore (x := .selectCandidates) (by decide +kernel)).mpr rfl

end HistoryQuiz
