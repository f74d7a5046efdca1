import HistoryQuiz.Client.Question

/-!
# The quiz page

`schemas/quiz.ts` and the route `quiz.tsx`. The page is open to visitors that are not
logged in.
-/

namespace HistoryQuiz

namespace Client

open Js Throw

/-! ## schemas/quiz.ts -/

def QUESTION_ID_REQUIRED_MESSAGE : String :=
  "問題IDの取得に失敗しました。ページを再読み込みしてください。"

def CHOICE_ID_REQUIRED_MESSAGE : String := "回答は必須です。"

def QUIZ_CHOICE_FIELD_NAMES : List String := ["choiceId", "selectedChoiceId", "selected_choice_id"]

structure QuizAnswerFormValue where
  questionId : String
  choiceId : String
deriving DecidableEq, Repr

/-- The errors of a form that is not accepted, by its fields. -/
structure AnswerErrors where
  questionId : Option String
  choiceId : Option String
deriving DecidableEq, Repr

/-- `parseWithZod` with `quizAnswerFormSchema`. -/
def parseAnswerWithZod (conform : Conform) (formData : FormData) :
    Except AnswerErrors QuizAnswerFormValue :=
  match conform.parseAnswer formData with
  | none => .error ⟨none, none⟩
  | some fields =>
      match requiredText fields.questionId, requiredText fields.choiceId with
      | some questionId, some choiceId => .ok ⟨questionId, choiceId⟩
      | questionId, choiceId => .error
          ⟨if questionId.isNone then some QUESTION_ID_REQUIRED_MESSAGE else none,
            if choiceId.isNone then some CHOICE_ID_REQUIRED_MESSAGE else none⟩

/-- `resolveQuizChoiceFieldError`. -/
def resolveQuizChoiceFieldError (fieldErrors : List (String × String)) : Option String :=
  (fieldErrors.find? fun error => error.1 ∈ QUIZ_CHOICE_FIELD_NAMES).map Prod.snd

/-! ## quiz.tsx -/

namespace Quiz

def QUIZ_ACTION_MAX_BODY_BYTES : ℕ := 8 * 1024

structure LoaderData where
  csrfToken : String
  question : Question
  requestId : String
deriving DecidableEq

structure AnswerResult where
  attemptId : String
  correctChoiceId : String
  isCorrect : Bool
  questionId : String
  selectedChoiceId : String
deriving DecidableEq, Repr

inductive ActionData where
  | ok (requestId : String) (result : AnswerResult)
  | failed (message : String) (requestId selectedChoiceId choiceIdError : Option String)
deriving DecidableEq, Repr

/-- `toOptionalTrimmedString` of a query value. -/
def toOptionalTrimmedString (value : Option String) : Option String :=
  (value.map trim).filter (· ≠ "")

/-- `response.question` of `GetQuestion`. -/
def questionOf (response : HistoryQuiz.Response) : Option Question :=
  match response.reply with
  | .question q => some q
  | _ => none

variable {σ : Type} (outside : Outside σ)

/-- The loader. -/
def loader (random : RandomValues) (request : Request) :
    EStateM Raised σ (Response LoaderData) := do
  let user := getUser request
  let previousQuestionId := toOptionalTrimmedString (request.searchParam "previousQuestionId")
  let issued := issueCsrfToken random.csrfBytes request
  let outcome ← catching do
    let result ← outside.callService (createRequestId random)
      ⟨none, user.map SessionUser.userId⟩ (.getQuestion none (previousQuestionId.getD ""))
    match (questionOf result.response).filter fun question => question.id ≠ "" with
    | none => throw (.error "問題データの取得に失敗しました。")
    | some question =>
        return json ⟨issued.csrfToken, question, result.requestId⟩ 200 issued.setCookie
          (some result.requestId)
  match outcome with
  | .ok response => return response
  | .error error =>
      throw (throwGrpcErrorResponse outside.readers error
        (some "問題の取得に失敗しました。時間をおいて再試行してください。") none)

/-- The action. -/
def action (random : RandomValues) (request : Request) :
    EStateM Raised σ (Response ActionData) := do
  let user := getUser request
  let requestId ← ofExcept (assertRequestContentLengthWithinLimit (createRequestId random)
    QUIZ_ACTION_MAX_BODY_BYTES request none)
  match request.formData with
  | none => throw (.thrown .platform)
  | some formData =>
      let requestId ← ofExcept (verifyCsrfToken (createRequestId random) formData request
        (some requestId))
      match parseAnswerWithZod outside.conform formData with
      | .error errors =>
          return json
            (.failed (errors.questionId.getD "入力内容を確認してください。") (some requestId)
              (toOptionalTrimmedToken (formData.get "choiceId")) errors.choiceId)
            400 none (some requestId)
      | .ok value =>
          let outcome ← catching do
            let result ← outside.callService (createRequestId random)
              ⟨some requestId, user.map SessionUser.userId⟩
              (.submitAnswer none value.questionId value.choiceId)
            match result.response.reply with
            | .answer r =>
                return (result.requestId,
                  (⟨r.attemptID, r.correctChoiceID, r.isCorrect, value.questionId,
                    value.choiceId⟩ : AnswerResult))
            | _ => throw .platform
          match outcome with
          | .ok (requestId, result) =>
              return json (.ok requestId result) 200 none (some requestId)
          | .error error =>
              let normalized := normalizeGrpcHttpError outside.readers error.toUnknown
                (some "回答の送信に失敗しました。時間をおいて再試行してください。")
                (some requestId)
              return json
                (.failed normalized.payload.message normalized.requestId (some value.choiceId)
                  (resolveQuizChoiceFieldError normalized.fieldErrors))
                normalized.httpStatus none normalized.requestId

end Quiz

end Client

end HistoryQuiz
