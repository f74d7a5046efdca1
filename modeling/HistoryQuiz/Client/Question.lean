import HistoryQuiz.Client.GrpcError
import HistoryQuiz.Client.Oidc

/-!
# The form of a question

`schemas/question.ts` and the routes `questions.new.tsx` and `questions.$id.edit.tsx`.
Reading a form is the work of the libraries conform and zod, which are not part of the
repository: the model takes from them how the fields of a form are found, and what
`z.coerce.number` makes of a field (`Conform`).
-/

namespace HistoryQuiz

namespace Client

open Js Throw

/-! ## schemas/question.ts -/

def QUESTION_CHOICES_COUNT : ℕ := 4

def MAX_EXPLANATION_LENGTH : ℕ := 500

/-- A field of a form: a text, or something else, such as a file. -/
inductive FieldValue where
  | text (value : String)
  | other
deriving DecidableEq, Repr

/-- The fields of a form, as conform finds them; an empty one is not there. -/
structure QuestionFields where
  prompt : Option FieldValue
  choices : List (Option FieldValue)
  correctOrdinal : Option FieldValue
  explanation : Option FieldValue
deriving DecidableEq, Repr

structure CreateQuestionFormValue where
  prompt : String
  choices : List String
  correctOrdinal : ℤ
  explanation : String
deriving DecidableEq, Repr

/-- The fields that hold the texts of `v`. -/
def CreateQuestionFormValue.fields (v : CreateQuestionFormValue) : QuestionFields where
  prompt := some (.text v.prompt)
  choices := v.choices.map fun label => some (.text label)
  correctOrdinal := some (.text (toString v.correctOrdinal))
  explanation := if v.explanation = "" then none else some (.text v.explanation)

/-- The fields of an answer to the quiz, as conform finds them. -/
structure AnswerFields where
  questionId : Option FieldValue
  choiceId : Option FieldValue
deriving DecidableEq, Repr

/-- What the model takes from the libraries: the fields of a form, nothing for a form that asks
for something else than to be submitted, and the numbers of the schemas. -/
structure Conform where
  parse : FormData → Option QuestionFields
  parseAnswer : FormData → Option AnswerFields
  /-- `z.coerce.number()`; nothing when it is refused. -/
  coerceNumber : Option FieldValue → Option ℚ
  coerceNumber_digit : ∀ i : ℕ, i < 10 →
    coerceNumber (some (.text (toString (i : ℤ)))) = some (i : ℚ)

/-- A field as conform finds it, when its name is not repeated. -/
def plainField : Option FormDataEntryValue → Option FieldValue
  | some (.text value) => if value = "" then none else some (.text value)
  | some .file => some .other
  | none => none

/-- Reads a form whose choices are in order and whose other names are not repeated, and numbers
of one digit. -/
def plainConform : Conform where
  parse formData := some {
    prompt := plainField (formData.get "prompt")
    choices := (formData.filter fun entry => startsWith entry.1 "choices[").map fun entry =>
      plainField (some entry.2)
    correctOrdinal := plainField (formData.get "correctOrdinal")
    explanation := plainField (formData.get "explanation") }
  parseAnswer formData :=
    some ⟨plainField (formData.get "questionId"), plainField (formData.get "choiceId")⟩
  coerceNumber
    | some (.text value) =>
        ((List.range 10).find? fun i : ℕ => toString (i : ℤ) = value).map fun i : ℕ => (i : ℚ)
    | _ => none
  coerceNumber_digit := by
    have hdigits : ∀ i : ℕ, i < 10 → ((List.range 10).find? fun j : ℕ =>
        toString (j : ℤ) = toString (i : ℤ)) = some i := by decide +kernel
    intro i hi
    exact congrArg (Option.map fun i : ℕ => (i : ℚ)) (hdigits i hi)

/-! ### The schema -/

/-- `createRequiredTrimmedTextSchema`. -/
def requiredText : Option FieldValue → Option String
  | some (.text value) => if trim value = "" then none else some (trim value)
  | _ => none

/-- `createQuestionFormSchema`. -/
def createQuestionFormSchema (conform : Conform) (fields : QuestionFields) :
    Option CreateQuestionFormValue := do
  let prompt ← requiredText fields.prompt
  let choices ← fields.choices.mapM requiredText
  guard (choices.length = QUESTION_CHOICES_COUNT)
  let correctOrdinal ← conform.coerceNumber fields.correctOrdinal
  guard (correctOrdinal.isInt ∧ 0 ≤ correctOrdinal ∧ correctOrdinal ≤ QUESTION_CHOICES_COUNT - 1)
  let explanation ← match fields.explanation with
    | none => some ""
    | some (.text value) =>
        if length (trim value) ≤ MAX_EXPLANATION_LENGTH then some (trim value) else none
    | some .other => none
  return { prompt, choices, correctOrdinal := correctOrdinal.num, explanation }

/-- `parseWithZod`. -/
def parseWithZod (conform : Conform) (formData : FormData) : Option CreateQuestionFormValue :=
  (conform.parse formData).bind (createQuestionFormSchema conform)

/-- The index of a field named `start`, digits, `]`. -/
def choiceIndex (start field : String) : Option String :=
  let digits := (field.toList.drop start.toList.length).dropLast
  if startsWith field start ∧ field.toList.getLast? = some ']' ∧ digits ≠ [] ∧
      digits.all Char.isDigit then
    some (String.ofList digits)
  else none

/-- `mapQuestionGrpcFieldToConformField`. -/
def mapQuestionGrpcFieldToConformField (field : String) : Option String :=
  if field ∈ ["draft.prompt", "prompt"] then some "prompt"
  else if field ∈ ["draft.choices", "choices"] then some "choices"
  else if field ∈ ["draft.correct_ordinal", "draft.correctOrdinal", "correct_ordinal",
      "correctOrdinal"] then some "correctOrdinal"
  else if field ∈ ["draft.explanation", "explanation"] then some "explanation"
  else
    (choiceIndex "draft.choices[" field <|> choiceIndex "choices[" field).map fun index =>
      "choices[" ++ index ++ "]"

/-- `toQuestionConformFieldErrors`: the last message for a field of the form counts. -/
def toQuestionConformFieldErrors (fieldErrors : List (String × String)) :
    List (String × List String) :=
  fieldErrors.foldl
    (fun converted error =>
      match mapQuestionGrpcFieldToConformField error.1 with
      | none => converted
      | some mappedField => Series.upsert (fun _ => [error.2]) mappedField converted)
    []

/-! ## The routes -/

/-- Random values of a request: an id, and the bytes of a token. -/
structure RandomValues where
  uuid : RandomUuid
  csrfBytes : BitVec 256

/-- `createRequestId`. -/
def createRequestId (random : RandomValues) : String := random.uuid.value.text

/-- What the routes take from outside: the platform, the libraries, and the call of a service. -/
structure Outside (σ : Type) where
  readers : Readers
  conform : Conform
  callService : CallService σ

/-- The outside of the routes: their calls are made by `invokeUnary`, with a method that was taken
off its client. -/
def overGrpc {σ : Type} (readers : Readers) (conform : Conform) (wire : GrpcWire)
    (method : UnaryMethod σ) : Outside σ where
  readers := readers
  conform := conform
  callService := invokeUnary wire method

/-- What an action answers; `formErrors` and `fieldErrors` are those it hands to conform. -/
structure QuestionActionData where
  ok : Bool
  message : Option String
  question : Option (String × String)
  requestId : Option String
  formErrors : List String
  fieldErrors : List (String × List String)

/-- The answer to a form that the schema refuses. -/
def invalidSubmission (requestId : String) : Response QuestionActionData :=
  json ⟨false, some "入力内容を確認してください。", none, some requestId, [], []⟩ 400 none
    (some requestId)

/-- The answer when a call has failed. -/
def failedSubmission (readers : Readers) (error : Thrown) (fallbackMessage requestId : String) :
    Response QuestionActionData :=
  let normalized :=
    normalizeGrpcHttpError readers error.toUnknown (some fallbackMessage) (some requestId)
  let convertedFieldErrors := toQuestionConformFieldErrors normalized.fieldErrors
  json
    ⟨false, some normalized.payload.message, none, normalized.requestId,
      [normalized.payload.message], convertedFieldErrors⟩
    normalized.httpStatus none normalized.requestId

/-- The checks before a form is read: the user, the request id, and the form. -/
def acceptForm (random : RandomValues) (maxBytes : ℕ) (request : Request) :
    Except Raised (SessionUser × String × FormData) := do
  let user ← requireAuthenticatedUser request
  let requestId ← assertRequestContentLengthWithinLimit (createRequestId random) maxBytes request
    none
  match request.formData with
  | none => .error (.thrown .platform)
  | some formData =>
      let verifiedRequestId ← verifyCsrfToken (createRequestId random) formData request
        (some requestId)
      return (user, verifiedRequestId, formData)

/-- The draft of a form. -/
def CreateQuestionFormValue.draft (v : CreateQuestionFormValue) : QuestionDraft where
  prompt := v.prompt
  choices := v.choices
  correctOrdinal := v.correctOrdinal
  explanation := v.explanation

variable {σ : Type} (outside : Outside σ)

/-! ## questions.new.tsx -/

namespace QuestionsNew

def QUESTION_CREATE_ACTION_MAX_BODY_BYTES : ℕ := 32 * 1024

/-- The loader: the token. -/
def loader (random : RandomValues) (request : Request) : Except Raised (Response String) := do
  let _ ← requireAuthenticatedUser request
  let issued := issueCsrfToken random.csrfBytes request
  return json issued.csrfToken 200 issued.setCookie none

/-- The action. -/
def action (random : RandomValues) (request : Request) :
    EStateM Raised σ (Response QuestionActionData) := do
  let (user, requestId, formData) ← ofExcept
    (acceptForm random QUESTION_CREATE_ACTION_MAX_BODY_BYTES request)
  match parseWithZod outside.conform formData with
  | none => return invalidSubmission requestId
  | some value =>
      let outcome ← catching do
        let result ← outside.callService (createRequestId random)
          ⟨some requestId, some user.userId⟩ (.createQuestion none (some value.draft))
        match (questionOf result.response).filter fun question => question.id ≠ "" with
        | none => throw (.error "作成結果の問題IDが取得できませんでした。")
        | some question => return (question, result.requestId)
      match outcome with
      | .ok (question, requestId) =>
          return json ⟨true, none, some (question.id, question.prompt), some requestId, [], []⟩ 200
            none (some requestId)
      | .error error =>
          return failedSubmission outside.readers error
            "問題の保存に失敗しました。時間をおいて再試行してください。" requestId

end QuestionsNew

/-! ## questions.$id.edit.tsx -/

namespace QuestionsEdit

def QUESTION_EDIT_ACTION_MAX_BODY_BYTES : ℕ := 32 * 1024

structure LoaderData where
  csrfToken : String
  initialValues : CreateQuestionFormValue
  questionId : String
  requestId : String
  userId : String
deriving DecidableEq, Repr

/-- `resolveRequiredQuestionId`. -/
def resolveRequiredQuestionId (id : Option String) : Except Raised String :=
  let normalized := (id.map trim).getD ""
  if normalized = "" then
    .error (.response (json ⟨none, "id が指定されていません。", [], none⟩ 400 none none))
  else .ok normalized

/-- `toSortedChoices`. -/
def toSortedChoices (question : QuestionDetail) : List QuestionChoice :=
  question.choices.insertionSort fun left right => left.ordinal ≤ right.ordinal

/-- `toInitialFormValues`. -/
def toInitialFormValues (question : QuestionDetail) : Except Thrown CreateQuestionFormValue :=
  let sortedChoices := toSortedChoices question
  if sortedChoices.length ≠ QUESTION_CHOICES_COUNT then
    .error (.error "選択肢の件数が不正です。")
  else
    match sortedChoices.findIdx? fun choice => choice.id == question.correctChoiceId with
    | none => .error (.error "正解選択肢の解決に失敗しました。")
    | some correctOrdinal =>
        .ok {
          prompt := question.prompt
          choices := sortedChoices.map QuestionChoice.label
          correctOrdinal := correctOrdinal
          explanation := question.explanation }

/-- The loader. -/
def loader (random : RandomValues) (id : Option String) (request : Request) :
    EStateM Raised σ (Response LoaderData) := do
  let user ← ofExcept (requireAuthenticatedUser request)
  let questionId ← ofExcept (resolveRequiredQuestionId id)
  let issued := issueCsrfToken random.csrfBytes request
  let requestId := createRequestId random
  let outcome ← catching do
    let result ← outside.callService requestId ⟨some requestId, some user.userId⟩
      (.getMyQuestion none questionId)
    match (questionOf result.response).filter fun question => question.id ≠ "" with
    | none => throw (.error "編集対象の問題データが見つかりません。")
    | some question =>
        let initialValues ← ofExcept (toInitialFormValues question)
        return json ⟨issued.csrfToken, initialValues, question.id, requestId, user.userId⟩ 200
          issued.setCookie (some requestId)
  match outcome with
  | .ok response => return response
  | .error error =>
      throw (throwGrpcErrorResponse outside.readers error
        (some "問題の取得に失敗しました。時間をおいて再試行してください。") (some requestId))

/-- The action. -/
def action (random : RandomValues) (id : Option String) (request : Request) :
    EStateM Raised σ (Response QuestionActionData) := do
  let (user, requestId, formData) ← ofExcept
    (acceptForm random QUESTION_EDIT_ACTION_MAX_BODY_BYTES request)
  match (id.map trim).filter (· ≠ "") with
  | none =>
      return json ⟨false, some "id が指定されていません。", none, some requestId, [], []⟩ 400 none
        (some requestId)
  | some questionId =>
      match parseWithZod outside.conform formData with
      | none => return invalidSubmission requestId
      | some value =>
          let outcome ← catching do
            let result ← outside.callService (createRequestId random)
              ⟨some requestId, some user.userId⟩
              (.updateQuestion none questionId (some value.draft))
            match (questionOf result.response).filter fun question => question.id ≠ "" with
            | none => throw (.error "更新結果の問題IDが取得できませんでした。")
            | some question => return question
          match outcome with
          | .ok question =>
              return json ⟨true, none, some (question.id, question.prompt), some requestId, [], []⟩
                200 none (some requestId)
          | .error error =>
              return failedSubmission outside.readers error
                "問題の更新に失敗しました。時間をおいて再試行してください。" requestId

end QuestionsEdit

end Client

end HistoryQuiz
