import HistoryQuiz.Client.Grpc

/-!
# Errors of calls

`grpc-error.server.ts`: what a route answers when a call has failed. Its functions take
whatever has been thrown, since their parameter is `unknown`: errors that `invokeUnary` has
wrapped and others, with codes that are numbers, strings or neither.
-/

namespace HistoryQuiz

namespace Client

open Js

/-! ## Values that are thrown -/

/-- The `code` of an error. Of the numbers only the natural ones name a status. -/
inductive CodeValue where
  | number (n : Option ℕ)
  | string (s : String)
  | other
deriving DecidableEq, Repr

/-- An object with the properties `code`, `details` and `metadata`; `details` may be no string,
and `metadata` may be `undefined`. -/
structure ErrorObject where
  code : CodeValue
  details : Option String
  metadata : Option (String → List MetadataValue)

/-- A value that is thrown: a `GrpcCallError`, an object with the three properties, or any other
value. -/
inductive Unknown where
  | grpcCallError (grpcError : Unknown) (requestId : String)
  | object (error : ErrorObject)
  | other

/-! ## grpc-error.server.ts -/

/-- The names of the status codes, by their numbers. -/
def GRPC_STATUS_BY_NUMBER : List String :=
  ["OK", "CANCELLED", "UNKNOWN", "INVALID_ARGUMENT", "DEADLINE_EXCEEDED", "NOT_FOUND",
    "ALREADY_EXISTS", "PERMISSION_DENIED", "RESOURCE_EXHAUSTED", "FAILED_PRECONDITION", "ABORTED",
    "OUT_OF_RANGE", "UNIMPLEMENTED", "INTERNAL", "UNAVAILABLE", "DATA_LOSS", "UNAUTHENTICATED"]

def GRPC_CODE_TO_HTTP_STATUS : List (String × ℕ) :=
  [("ABORTED", 409), ("ALREADY_EXISTS", 409), ("DATA_LOSS", 500), ("DEADLINE_EXCEEDED", 504),
    ("FAILED_PRECONDITION", 409), ("INTERNAL", 500), ("INVALID_ARGUMENT", 400), ("NOT_FOUND", 404),
    ("OUT_OF_RANGE", 400), ("PERMISSION_DENIED", 403), ("RESOURCE_EXHAUSTED", 429),
    ("UNAUTHENTICATED", 401), ("UNAVAILABLE", 503), ("UNIMPLEMENTED", 501), ("UNKNOWN", 500)]

def SENSITIVE_GRPC_CODES : List String := ["INTERNAL", "UNKNOWN", "DATA_LOSS"]

def DEFAULT_USER_MESSAGES : List (String × String) :=
  [("ABORTED", "競合が発生しました。再度お試しください。"),
    ("ALREADY_EXISTS", "すでに同じデータが存在します。"),
    ("DATA_LOSS", "サーバー内部でエラーが発生しました。時間をおいて再試行してください。"),
    ("DEADLINE_EXCEEDED", "処理がタイムアウトしました。時間をおいて再試行してください。"),
    ("FAILED_PRECONDITION", "現在の状態ではこの操作を実行できません。"),
    ("INTERNAL", "サーバー内部でエラーが発生しました。時間をおいて再試行してください。"),
    ("INVALID_ARGUMENT", "入力内容を確認してください。"),
    ("NOT_FOUND", "対象データが見つかりませんでした。"),
    ("OUT_OF_RANGE", "入力値が許可範囲外です。"),
    ("PERMISSION_DENIED", "権限がありません。"),
    ("RESOURCE_EXHAUSTED", "アクセスが集中しています。しばらくしてから再試行してください。"),
    ("UNAUTHENTICATED", "ログインが必要です。"),
    ("UNAVAILABLE", "現在サービスを利用できません。時間をおいて再試行してください。"),
    ("UNIMPLEMENTED", "未実装の機能です。"),
    ("UNKNOWN", "サーバー内部でエラーが発生しました。時間をおいて再試行してください。")]

/-- `toGrpcCodeName` of a code, or of no error. -/
def toGrpcCodeName (readers : Readers) : Option CodeValue → String
  | some (.number (some code)) => GRPC_STATUS_BY_NUMBER.getD code "UNKNOWN"
  | some (.string code) =>
      let normalized := readers.toUpperCase (trim code)
      if normalized = "" then "UNKNOWN"
      else if normalized ∈ GRPC_CODE_TO_HTTP_STATUS.map Prod.fst then normalized
      else "UNKNOWN"
  | _ => "UNKNOWN"

/-- `mapGrpcCodeToHttpStatus` of the name of a code. -/
def mapGrpcCodeToHttpStatus (grpcCodeName : String) : ℕ :=
  (GRPC_CODE_TO_HTTP_STATUS.lookup grpcCodeName).getD 500

/-- `hasText`: the trimmed value, if it is not empty. -/
def hasText (value : Option String) : Option String := (value.map trim).filter (· ≠ "")

/-- `asServiceError`. -/
def asServiceError : Unknown → Option ErrorObject
  | .object error => some error
  | _ => none

/-- `extractServiceError`. -/
def extractServiceError : Unknown → Option ErrorObject × Option String
  | .grpcCallError grpcError requestId => (asServiceError grpcError, some requestId)
  | error => (asServiceError error, none)

/-- `getMetadataString`. -/
def getMetadataString (readers : Readers) (metadata : String → List MetadataValue)
    (key : String) : Option String :=
  match metadata key with
  | .text value :: _ => some value
  | .bytes value :: _ => some (readers.decodeUtf8 value)
  | [] => none

/-- `resolveRequestId`: the explicit id, that of the call, or that of the metadata. -/
def resolveErrorRequestId (readers : Readers) (explicitRequestId wrappedRequestId : Option String)
    (metadata : Option (String → List MetadataValue)) : Option String :=
  hasText explicitRequestId <|> hasText wrappedRequestId <|>
    metadata.bind fun metadata =>
      hasText (getMetadataString readers metadata "x-request-id") <|>
        hasText (getMetadataString readers metadata "request-id")

/-- The string of a property; nothing when it is none. -/
def stringProp (fields : List (String × Json)) (name : String) : Option String :=
  match fields.lookup name with
  | some (.str value) => some value
  | _ => none

/-- `objectValue[name] ?? objectValue[name']`. -/
def propOr (fields : List (String × Json)) (name name' : String) : Option Json :=
  match fields.lookup name with
  | some .null => fields.lookup name'
  | some value => some value
  | none => fields.lookup name'

/-- `toFieldViolation`. -/
def toFieldViolation : Json → Option FieldViolation
  | .obj fields =>
      let field := ((stringProp fields "field").map trim).getD ""
      let description := match propOr fields "description" "message" with
        | some (.str value) => trim value
        | _ => ""
      if field = "" ∨ description = "" then none else some { field, description }
  | _ => none

/-- `coerceFieldViolations`. -/
def coerceFieldViolations : Json → List FieldViolation
  | .arr items => items.filterMap toFieldViolation
  | .obj fields =>
      match propOr fields "fieldViolations" "field_violations" with
      | some (.arr items) => items.filterMap toFieldViolation
      | _ => []
  | _ => []

/-- `parseFieldViolationsFromJson`. -/
def parseFieldViolationsFromJson (readers : Readers) (value : String) : List FieldViolation :=
  match readers.parseJson value with
  | some parsed => coerceFieldViolations parsed
  | none => []

def FIELD_VIOLATIONS_METADATA_KEYS : List String :=
  ["x-field-violations", "field-violations", "x-error-field-violations", "error-field-violations"]

/-- `parseFieldViolations`: those of the first key that has any. -/
def parseFieldViolations (readers : Readers) (metadata : Option (String → List MetadataValue)) :
    List FieldViolation :=
  match metadata with
  | none => []
  | some metadata =>
      let candidates := FIELD_VIOLATIONS_METADATA_KEYS.map fun key =>
        match getMetadataString readers metadata key with
        | some raw =>
            if (hasText (some raw)).isSome then parseFieldViolationsFromJson readers raw else []
        | none => []
      (candidates.find? fun parsed => 0 < parsed.length).getD []

/-- `toFieldErrors`: the last description of a field counts, and a text that is assigned to
`__proto__` makes no entry. The entries are in the order of the first violations of their fields;
an object has the fields that are digits first, and no field of a form is. -/
def toFieldErrors (fieldViolations : List FieldViolation) : List (String × String) :=
  (fieldViolations.filter (·.field ≠ "__proto__")).foldl
    (fun mapped violation =>
      if mapped.any (·.1 == violation.field) then
        mapped.map fun entry =>
          if entry.1 = violation.field then (entry.1, violation.description) else entry
      else mapped ++ [(violation.field, violation.description)])
    []

/-- `buildUserFacingMessage`. -/
def buildUserFacingMessage (fallbackMessage : Option String) (grpcCode : String)
    (serviceMessage : Option String) : String :=
  match hasText fallbackMessage with
  | some message => message
  | none =>
      if grpcCode ∈ SENSITIVE_GRPC_CODES then
        (DEFAULT_USER_MESSAGES.lookup grpcCode).getD "サーバー内部でエラーが発生しました。"
      else
        match hasText serviceMessage with
        | some message => message
        | none => (DEFAULT_USER_MESSAGES.lookup grpcCode).getD "エラーが発生しました。"

structure NormalizedGrpcHttpError where
  fieldErrors : List (String × String)
  grpcCode : String
  httpStatus : ℕ
  payload : ErrorPayload
  requestId : Option String

/-- `normalizeGrpcHttpError`. -/
def normalizeGrpcHttpError (readers : Readers) (error : Unknown)
    (fallbackMessage requestId : Option String) : NormalizedGrpcHttpError :=
  let (serviceError, wrappedRequestId) := extractServiceError error
  let grpcCode := toGrpcCodeName readers (serviceError.map ErrorObject.code)
  let metadata := serviceError.bind ErrorObject.metadata
  let requestId := resolveErrorRequestId readers requestId wrappedRequestId metadata
  let fieldViolations := parseFieldViolations readers metadata
  let message :=
    buildUserFacingMessage fallbackMessage grpcCode (serviceError.bind ErrorObject.details)
  { fieldErrors := toFieldErrors fieldViolations
    grpcCode := grpcCode
    httpStatus := mapGrpcCodeToHttpStatus grpcCode
    payload := ⟨some grpcCode, message, fieldViolations, requestId⟩
    requestId := requestId }

/-- An error that a route throws, as a value. -/
def Thrown.toUnknown : Thrown → Unknown
  | grpcCallError grpcError requestId =>
      .grpcCallError (.object ⟨.number (some grpcError.code), some grpcError.details,
        some grpcError.metadata⟩) requestId
  | _ => .other

/-- `throwGrpcErrorResponse`: the response of `createGrpcErrorResponse`, thrown. -/
def throwGrpcErrorResponse (readers : Readers) (error : Thrown) (fallbackMessage : Option String)
    (requestId : Option String) : Raised :=
  let normalized := normalizeGrpcHttpError readers error.toUnknown fallbackMessage requestId
  .response (json normalized.payload normalized.httpStatus none normalized.requestId)

end Client

end HistoryQuiz
