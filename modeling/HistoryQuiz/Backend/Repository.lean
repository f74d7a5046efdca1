import HistoryQuiz.Postgres.Statement

/-!
# The repositories

`backend/internal/infrastructure/postgres`: each function is a program over the
statements, with the error branches as the code has them. A read of several rows
that breaks off is reported by `rows.Err()`, with the message of the query. The
branches of a failing `rows.Scan`, which have messages of their own, are left out:
every column that is read is `NOT NULL` and of the type that it is scanned into.
-/

namespace HistoryQuiz

open Effect

/-- A program on the database. -/
abbrev DbProg := Prog DbOp GoError

/-- Send a statement through the pool. -/
def query {β : Type} (s : PoolStmt β) : DbProg β := .call (.stmt s) .ret

/-- Send a statement inside a transaction. -/
def txQuery {β : Type} (s : TxStmt β) : Prog TxStmt GoError β := .call s .ret

/-- `return withTx(ctx, pool, body)`. -/
def inTx {α : Type} (body : Prog TxStmt GoError α) : DbProg α := .call (.tx body) .ofExcept

/-- A statement is answered, and the program goes on with the answer. -/
theorem run_query_bind (io : UuidReaders) {β α : Type} (s : PoolStmt β) (f : β → DbProg α)
    (τ : ℕ → OpTick) (db : Db) :
    ((query s).bind f).run (DbOp.exec io) τ db =
      (f (PoolStmt.exec io s (τ 0).first db).1).run (DbOp.exec io) (later τ 1)
        (PoolStmt.exec io s (τ 0).first db).2 := rfl

theorem run_txQuery_bind (io : UuidReaders) {β α : Type} (s : TxStmt β)
    (f : β → Prog TxStmt GoError α) (τ : ℕ → Tick) (x : TxState) :
    ((txQuery s).bind f).run (TxStmt.exec io) τ x =
      (f (TxStmt.exec io s (τ 0) x).1).run (TxStmt.exec io) (later τ 1)
        (TxStmt.exec io s (τ 0) x).2 := rfl

/-- A program that is one transaction. -/
theorem run_inTx (io : UuidReaders) {α : Type} (body : Prog TxStmt GoError α) (τ : ℕ → OpTick)
    (db : Db) : (inTx body).run (DbOp.exec io) τ db = withTx io body (τ 0) db := by
  rw [inTx, Prog.run_call, Prog.run_ofExcept]
  rfl

namespace QuestionRepository

def listQuizCandidates (previousQuestionID mode : String) : DbProg (List String) := do
  let select (filter : CandidateFilter) : DbProg (List String) := do
    match ← query (.selectCandidates filter previousQuestionID) with
    | .ok ids => return ids
    | .error e =>
        .fail (internal "出題候補の取得に失敗しました" (.wrap "select candidates" (.driver e)))
  match mode with
  | "" => select .all
  | "system" => select .system
  | "non-system" => select .nonSystem
  | _ => .fail (internal "出題候補の取得に失敗しました" (.errorf ("unknown mode: " ++ mode)))

def listQuizCandidateQuestionIDs (previousQuestionID : String) : DbProg (List String) :=
  listQuizCandidates previousQuestionID ""

def listQuizCandidateSystemQuestionIDs (previousQuestionID : String) : DbProg (List String) :=
  listQuizCandidates previousQuestionID "system"

def listQuizCandidateNonSystemQuestionIDs (previousQuestionID : String) : DbProg (List String) :=
  listQuizCandidates previousQuestionID "non-system"

def listChoices (questionID : String) : DbProg (List Choice) := do
  match ← query (.selectChoices questionID) with
  | .ok choices => return choices
  | .error e => .fail (internal "選択肢の取得に失敗しました" (.wrap "select choices" (.driver e)))

def getQuizQuestion (questionID : String) : DbProg Question := do
  match ← query (.selectQuizQuestion questionID) with
  | .ok none => .fail (notFound "問題が見つかりません")
  | .error _ => .fail (invalidArgument "question_id が不正です" [])
  | .ok (some (id, prompt, explanation)) =>
      let choices ← listChoices questionID
      return { id, prompt, choices, explanation }

def getCorrectChoiceID (questionID : String) : DbProg String := do
  match ← query (.selectCorrectChoiceID questionID) with
  | .ok none => .fail (notFound "正解情報が見つかりません")
  | .error _ => .fail (invalidArgument "question_id が不正です" [])
  | .ok (some correctChoiceID) => return correctChoiceID

def choiceBelongsToQuestion (questionID choiceID : String) : DbProg Bool := do
  match ← query (.existsChoice questionID choiceID) with
  | .ok found => return found
  | .error _ => .fail (invalidArgument "question_id または selected_choice_id が不正です" [])

/-- `nullIfEmpty`: the column is nullable. -/
def nullIfEmpty (s : String) : Option String := if s = "" then none else some s

/-- The loop of `insertChoicesAndAnswerKey` from ordinal `i` on, with the choices
inserted so far and the correct one among them. -/
def insertChoices (questionID : String) (correctOrdinal : ℤ) :
    ℕ → List String → List Choice → String → Prog TxStmt GoError (List Choice × String)
  | _, [], choices, correctChoiceID => .ret (choices, correctChoiceID)
  | i, label :: labels, choices, correctChoiceID => do
      let ordinal : ℤ := i
      match ← txQuery (.insertChoice questionID label ordinal) with
      | .error _ => .fail (invalidArgument "選択肢の作成に失敗しました（入力が不正です）" [])
      | .ok choiceID =>
          insertChoices questionID correctOrdinal (i + 1) labels
            (choices ++ [⟨choiceID, label, ordinal⟩])
            (if ordinal = correctOrdinal then choiceID else correctChoiceID)

def insertChoicesAndAnswerKey (questionID : String) (draft : QuestionDraft) :
    Prog TxStmt GoError (List Choice × String) := do
  let (choices, correctChoiceID) ←
    insertChoices questionID draft.correctOrdinal 0 draft.choices [] ""
  if correctChoiceID = "" then
    .fail (invalidArgument "correct_ordinal が不正です"
      [⟨"draft.correct_ordinal", "0..3 の範囲で指定してください"⟩])
  else
    match ← txQuery (.upsertAnswerKey questionID correctChoiceID) with
    | .error _ => .fail (invalidArgument "正解情報の保存に失敗しました（入力が不正です）" [])
    | .ok () => return (choices, correctChoiceID)

/-- The function that `CreateQuestion` runs in a transaction. -/
def createQuestionTx (authorUserID : String) (draft : QuestionDraft) :
    Prog TxStmt GoError QuestionDetail := do
  match ← txQuery (.insertQuestion authorUserID draft.prompt (nullIfEmpty draft.explanation)) with
  | .error _ => .fail (invalidArgument "問題の作成に失敗しました（入力が不正です）" [])
  | .ok (questionID, updatedAt) =>
      let (choices, correctChoiceID) ← insertChoicesAndAnswerKey questionID draft
      return {
        id := questionID
        prompt := draft.prompt
        choices := choices
        correctChoiceID := correctChoiceID
        explanation := draft.explanation
        updatedAt := updatedAt }

def createQuestion (authorUserID : String) (draft : QuestionDraft) : DbProg QuestionDetail :=
  if authorUserID = "" then .fail (unauthenticated "認証が必要です")
  else inTx (createQuestionTx authorUserID draft)

/-- The function that `UpdateQuestion` runs in a transaction. -/
def updateQuestionTx (userID questionID : String) (draft : QuestionDraft) :
    Prog TxStmt GoError QuestionDetail := do
  match ← txQuery (.updateQuestion draft.prompt (nullIfEmpty draft.explanation) questionID userID)
    with
  | .ok none => .fail (notFound "問題が見つかりません")
  | .error _ => .fail (invalidArgument "question_id が不正です" [])
  | .ok (some updatedAt) =>
      match ← txQuery (.deleteChoices questionID) with
      | .error e =>
          .fail (internal "選択肢の更新に失敗しました" (.wrap "delete choices" (.driver e)))
      | .ok () =>
          let (choices, correctChoiceID) ← insertChoicesAndAnswerKey questionID draft
          return {
            id := questionID
            prompt := draft.prompt
            choices := choices
            correctChoiceID := correctChoiceID
            explanation := draft.explanation
            updatedAt := updatedAt }

def updateQuestion (userID questionID : String) (draft : QuestionDraft) : DbProg QuestionDetail :=
  inTx (updateQuestionTx userID questionID draft)

def getMyQuestion (userID questionID : String) : DbProg QuestionDetail := do
  match ← query (.selectMyQuestion questionID userID) with
  | .ok none => .fail (notFound "問題が見つかりません")
  | .error _ => .fail (invalidArgument "question_id が不正です" [])
  | .ok (some (prompt, explanation, updatedAt)) =>
      let choices ← listChoices questionID
      let correctChoiceID ← getCorrectChoiceID questionID
      return {
        id := questionID
        prompt := prompt
        choices := choices
        correctChoiceID := correctChoiceID
        explanation := explanation
        updatedAt := updatedAt }

def listMyQuestions (userID : String) (limit : ℤ) : DbProg (List QuestionSummary) := do
  match ← query (.selectMyQuestions userID limit) with
  | .ok questions => return questions
  | .error e =>
      .fail (internal "作成済み問題の一覧取得に失敗しました" (.wrap "select my questions" (.driver e)))

/-- The author of a question and whether it is deleted. -/
def getQuestionAuthor (questionID : String) : DbProg (String × Bool) := do
  match ← query (.selectQuestionAuthor questionID) with
  | .ok none => .fail (notFound "問題が見つかりません")
  | .error _ => .fail (invalidArgument "question_id が不正です" [])
  | .ok (some (authorUserID, deletedAt)) => return (authorUserID, deletedAt.isSome)

end QuestionRepository

namespace AttemptRepository

def createAttempt (userID questionID selectedChoiceID : String) (isCorrect : Bool) :
    DbProg String := do
  if userID = "" then .fail (invalidArgument "userId が空です" [⟨"user_id", "必須です"⟩])
  else if questionID = "" then
    .fail (invalidArgument "question_id が空です" [⟨"question_id", "必須です"⟩])
  else if selectedChoiceID = "" then
    .fail (invalidArgument "selected_choice_id が空です" [⟨"selected_choice_id", "必須です"⟩])
  else
    match ← query (.insertAttempt userID questionID selectedChoiceID isCorrect) with
    | .ok attemptID => return attemptID
    | .error _ => .fail (invalidArgument "解答履歴の保存に失敗しました（入力が不正です）" [])

def listMyAttempts (userID : String) (limit : ℤ) : DbProg (List Attempt) := do
  if userID = "" then .fail (unauthenticated "認証が必要です")
  else
    match ← query (.selectAttempts userID limit) with
    | .ok attempts => return attempts
    | .error e =>
        .fail (internal "解答履歴の取得に失敗しました" (.wrap "select attempts" (.driver e)))

def getMyStats (userID : String) : DbProg Stats := do
  if userID = "" then .fail (unauthenticated "認証が必要です")
  else
    match ← query (.selectStats userID) with
    | .ok (total, correct) =>
        return {
          totalAttempts := total
          correctAttempts := correct
          accuracy := if 0 < total then (correct : ℚ) / total else 0 }
    | .error e => .fail (internal "統計の取得に失敗しました" (.wrap "select stats" (.driver e)))

end AttemptRepository

namespace UserRepository

def ensureUserExists (userID : String) : DbProg Unit := do
  if userID = "" then .fail (invalidArgument "userId が空です" [⟨"user_id", "必須です"⟩])
  else
    match ← query (.insertUser userID) with
    | .ok () => return ()
    | .error e => .fail (internal "ユーザーの初期化に失敗しました" (.wrap "insert users" (.driver e)))

end UserRepository

end HistoryQuiz
