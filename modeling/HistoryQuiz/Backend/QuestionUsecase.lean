import HistoryQuiz.Backend.Repository

/-!
# The question and the user use cases

`backend/internal/usecase/question` and `backend/internal/usecase/user`:
validation of drafts, the ownership check, and the reads of a user's own
questions, attempts and statistics.
-/

namespace HistoryQuiz

open Effect

/-! ## Go strings -/

/-- `unicode.IsSpace`. -/
def isSpace (c : Char) : Bool :=
  c ∈ ['\t', '\n', '\x0b', '\x0c', '\r', ' ', '\u0085', '\u00a0', '\u1680', '\u2028', '\u2029',
    '\u202f', '\u205f', '\u3000'] || ('\u2000' ≤ c && c ≤ '\u200a')

/-- `strings.TrimSpace`. -/
def trimSpace (s : String) : String :=
  String.ofList ((s.toList.dropWhile isSpace).reverse.dropWhile isSpace).reverse

/-- `normalizePageSize`, the same in both packages. -/
def normalizePageSize (pageSize : ℤ) : ℤ :=
  if pageSize ≤ 0 then 20 else if pageSize > 100 then 100 else pageSize

theorem normalizePageSize_bounds (pageSize : ℤ) :
    1 ≤ normalizePageSize pageSize ∧ normalizePageSize pageSize ≤ 100 := by
  unfold normalizePageSize
  split_ifs <;> omega

namespace QuestionUsecase

def itoa (i : ℕ) : String :=
  match i with
  | 0 => "0"
  | 1 => "1"
  | 2 => "2"
  | 3 => "3"
  | _ => "?"

/-- The violations that `validateDraft` collects. -/
def draftViolations (draft : QuestionDraft) : List FieldViolation :=
  let prompt : List FieldViolation :=
    if trimSpace draft.prompt = "" then [⟨"draft.prompt", "必須です"⟩] else []
  let choices : List FieldViolation :=
    if draft.choices.length ≠ 4 then [⟨"draft.choices", "選択肢は4件である必要があります"⟩]
    else draft.choices.zipIdx.filterMap fun c =>
      if trimSpace c.1 = "" then some ⟨"draft.choices[" ++ itoa c.2 ++ "]", "必須です"⟩ else none
  let correctOrdinal : List FieldViolation :=
    if draft.correctOrdinal < 0 ∨ draft.correctOrdinal > 3 then
      [⟨"draft.correct_ordinal", "0..3 の範囲で指定してください"⟩]
    else []
  prompt ++ choices ++ correctOrdinal

/-- `validateDraft`: nil or the error. -/
def validateDraft (draft : QuestionDraft) : Option GoError :=
  let violations := draftViolations draft
  if 0 < violations.length then some (invalidArgument "入力が不正です" violations) else none

/-- `CreateQuestion`. -/
def createQuestion (userID : String) (draft : QuestionDraft) : DbProg QuestionDetail := do
  if userID = "" then .fail (unauthenticated "認証が必要です")
  else
    match validateDraft draft with
    | some e => .fail e
    | none =>
        UserRepository.ensureUserExists userID
        QuestionRepository.createQuestion userID draft

/-- `UpdateQuestion`. -/
def updateQuestion (io : UuidReaders) (userID questionID : String) (draft : QuestionDraft) :
    DbProg QuestionDetail := do
  if userID = "" then .fail (unauthenticated "認証が必要です")
  else if questionID = "" then
    .fail (invalidArgument "question_id が空です" [⟨"question_id", "必須です"⟩])
  else if (io.parse questionID).isNone then
    .fail (invalidArgument "question_id が不正です"
      [⟨"question_id", "UUID 形式で指定してください"⟩])
  else
    match validateDraft draft with
    | some e => .fail e
    | none =>
        let (authorUserID, deleted) ← QuestionRepository.getQuestionAuthor questionID
        if deleted = true then .fail (notFound "問題が見つかりません")
        else if authorUserID ≠ userID then .fail (permissionDenied "権限がありません")
        else
          UserRepository.ensureUserExists userID
          QuestionRepository.updateQuestion userID questionID draft

/-- `GetMyQuestion`. -/
def getMyQuestion (io : UuidReaders) (userID questionID : String) : DbProg QuestionDetail := do
  if userID = "" then .fail (unauthenticated "認証が必要です")
  else if questionID = "" then
    .fail (invalidArgument "question_id が空です" [⟨"question_id", "必須です"⟩])
  else if (io.parse questionID).isNone then
    .fail (invalidArgument "question_id が不正です"
      [⟨"question_id", "UUID 形式で指定してください"⟩])
  else QuestionRepository.getMyQuestion userID questionID

/-- `ListMyQuestions`; the page token is always empty. -/
def listMyQuestions (userID : String) (pageSize : ℤ) : DbProg (List QuestionSummary × String) := do
  if userID = "" then .fail (unauthenticated "認証が必要です")
  else
    let questions ← QuestionRepository.listMyQuestions userID (normalizePageSize pageSize)
    return (questions, "")

end QuestionUsecase

namespace UserUsecase

/-- `ListMyAttempts`; the page token is always empty. -/
def listMyAttempts (userID : String) (pageSize : ℤ) : DbProg (List Attempt × String) := do
  if userID = "" then .fail (unauthenticated "認証が必要です")
  else
    let attempts ← AttemptRepository.listMyAttempts userID (normalizePageSize pageSize)
    return (attempts, "")

/-- `GetMyStats`. -/
def getMyStats (userID : String) : DbProg Stats := do
  if userID = "" then .fail (unauthenticated "認証が必要です")
  else AttemptRepository.getMyStats userID

end UserUsecase

end HistoryQuiz
