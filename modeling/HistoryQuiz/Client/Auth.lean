import HistoryQuiz.Backend.QuizUsecase
import HistoryQuiz.Base.Rounding
import HistoryQuiz.Client.Session

/-!
# Guards

The checks that routes make before they do anything: `auth.server.ts`, `csrf.server.ts`
and `request-size.server.ts`. A check that fails throws a response.
-/

namespace HistoryQuiz

namespace Client

open Js QuizUsecase

/-! ## auth.server.ts -/

def LOGIN_PATH : String := "/login"

/-- `sanitizeRedirectTo`. -/
def sanitizeRedirectTo (redirectTo : Option String) (fallback : String) : String :=
  match redirectTo with
  | none => fallback
  | some redirectTo =>
      if redirectTo = "" then fallback
      else if !startsWith redirectTo "/" || startsWith redirectTo "//" then fallback
      else redirectTo

/-- One byte in the application/x-www-form-urlencoded serialization. -/
def formUrlEncodeByte (b : BitVec 8) : List Char :=
  let c := Char.ofNat b.toNat
  let hex (n : ℕ) : Char := if n < 10 then Char.ofNat (48 + n) else Char.ofNat (55 + n)
  if c = ' ' then ['+']
  else if c.isAlphanum ∨ c ∈ ['*', '-', '.', '_'] then [c]
  else ['%', hex (b.toNat / 16), hex (b.toNat % 16)]

/-- `buildLoginUrl`. -/
def buildLoginUrl (redirectTo : String) : String :=
  let safeRedirectTo := sanitizeRedirectTo (some redirectTo) "/"
  LOGIN_PATH ++ "?redirectTo=" ++
    String.ofList ((utf8Bytes safeRedirectTo).flatMap formUrlEncodeByte)

/-- `requireAuthenticatedUser`. -/
def requireAuthenticatedUser (request : Request) : Except Raised SessionUser :=
  match getUser request with
  | some user => .ok user
  | none =>
      let redirectTo := sanitizeRedirectTo (some (request.pathname ++ request.search)) "/"
      .error (.response (redirect (buildLoginUrl redirectTo) none none))

theorem requireAuthenticatedUser_eq_ok {request : Request} {user : SessionUser} :
    requireAuthenticatedUser request = .ok user ↔ getUser request = some user := by
  unfold requireAuthenticatedUser
  cases getUser request <;> simp

/-- A visitor that is not logged in is sent to the login page. -/
theorem requireAuthenticatedUser_eq_error {request : Request} {e : Raised} :
    requireAuthenticatedUser request = .error e ↔ getUser request = none ∧
      e = .response (redirect (buildLoginUrl
        (sanitizeRedirectTo (some (request.pathname ++ request.search)) "/")) none none) := by
  unfold requireAuthenticatedUser
  cases getUser request <;> simp [eq_comm]

/-- `resolvePostLoginRedirect`. -/
def resolvePostLoginRedirect (request : Request) (fallback : String) : String :=
  sanitizeRedirectTo (request.searchParam "redirectTo") fallback

/-- What passes starts with a slash, or it is the fallback. -/
theorem sanitizeRedirectTo_cases (redirectTo : Option String) (fallback : String) :
    sanitizeRedirectTo redirectTo fallback = fallback ∨
      startsWith (sanitizeRedirectTo redirectTo fallback) "/" = true := by
  cases redirectTo with
  | none => exact .inl rfl
  | some redirectTo =>
      unfold sanitizeRedirectTo
      by_cases hempty : redirectTo = ""
      · simp [hempty]
      · cases hslash : startsWith redirectTo "/" <;>
          cases hslashes : startsWith redirectTo "//" <;> simp [hempty, hslash, hslashes]

/-! ## csrf.server.ts -/

def CSRF_TOKEN_FIELD_NAME : String := "csrfToken"

def CSRF_ERROR_MESSAGE : String :=
  "セキュリティ検証に失敗しました。ページを再読み込みして再試行してください。"

/-- `toOptionalTrimmedToken`. -/
def toOptionalTrimmedToken : Option FormDataEntryValue → Option String
  | some (.text value) => if trim value ≠ "" then some (trim value) else none
  | _ => none

/-- `safeTokenEquals`: the UTF-8 bytes are compared. -/
def safeTokenEquals (left right : String) : Bool :=
  let leftBuffer := utf8Bytes left
  let rightBuffer := utf8Bytes right
  if leftBuffer.length ≠ rightBuffer.length then false else leftBuffer == rightBuffer

/-- `issueCsrfToken`. -/
def issueCsrfToken (bytes : BitVec 256) (request : Request) : IssuedCsrfToken :=
  ensureSessionCsrfToken bytes request

/-- `verifyCsrfToken`, with a fresh id for a request that has none: the request id. -/
def verifyCsrfToken (fresh : String) (formData : FormData) (request : Request)
    (requestId : Option String) : Except Raised String :=
  let requestId := requestId.getD fresh
  let forbidden : Except Raised String :=
    .error (.response (json ⟨some "FORBIDDEN", CSRF_ERROR_MESSAGE, [], some requestId⟩ 403 none
      (some requestId)))
  match getSessionCsrfToken request,
    toOptionalTrimmedToken (formData.get CSRF_TOKEN_FIELD_NAME) with
  | some sessionToken, some postedToken =>
      if safeTokenEquals sessionToken postedToken then .ok requestId else forbidden
  | _, _ => forbidden

/-! ## request-size.server.ts -/

/-- The number that digits denote. -/
def parseDigits (digits : List Char) : ℕ :=
  digits.foldl (fun n c => 10 * n + (c.toNat - 48)) 0

/-- The number that `Number.parseInt` returns of digits, if it is finite: rounded to 53 bits. -/
def parseIntDigits (digits : List Char) : Option ℕ :=
  let parsed := Rounding.toBits 53 (parseDigits digits)
  if 2 ^ 1024 ≤ parsed then none else some parsed

/-- `parseContentLengthHeader`: nothing for `undefined`, and `some none` for `NaN`. -/
def parseContentLengthHeader : Option String → Option (Option ℕ)
  | none => none
  | some value =>
      let normalized := trim value
      if normalized = "" then none
      else if normalized.toList.all Char.isDigit then some (parseIntDigits normalized.toList)
      else some none

/-- `resolveRequestId`, with a fresh id. -/
def resolveRequestId (fresh : String) (request : Request) (requestId : Option String) : String :=
  match requestId.map trim with
  | some requestId =>
      if requestId ≠ "" then requestId else resolveHeader
  | none => resolveHeader
where
  resolveHeader : String :=
    match request.xRequestId.map trim with
    | some requestId => if requestId ≠ "" then requestId else fresh
    | none => fresh

/-- `assertRequestContentLengthWithinLimit`: the request id. -/
def assertRequestContentLengthWithinLimit (fresh : String) (maxBytes : ℕ) (request : Request)
    (requestId : Option String) : Except Raised String :=
  let requestId := resolveRequestId fresh request requestId
  match parseContentLengthHeader request.contentLength with
  | none => .ok requestId
  | some none =>
      .error (.response (json
        ⟨some "BAD_REQUEST", "Content-Length ヘッダが不正です。", [], some requestId⟩ 400 none
        (some requestId)))
  | some (some contentLength) =>
      if maxBytes < contentLength then
        .error (.response (json
          ⟨some "PAYLOAD_TOO_LARGE",
            "リクエストサイズが上限（" ++ toString maxBytes ++ " bytes）を超えています。", [],
            some requestId⟩ 413 none (some requestId)))
      else .ok requestId

/-- A token that is refused: the answer has the request id. -/
theorem verifyCsrfToken_error {fresh : String} {formData : FormData} {request : Request}
    {requestId : Option String} {e : Raised}
    (h : verifyCsrfToken fresh formData request requestId = .error e) :
    e = .response (json ⟨some "FORBIDDEN", CSRF_ERROR_MESSAGE, [], some (requestId.getD fresh)⟩ 403
      none (some (requestId.getD fresh))) := by
  unfold verifyCsrfToken at h
  revert h
  dsimp only
  cases getSessionCsrfToken request <;>
    cases toOptionalTrimmedToken (formData.get CSRF_TOKEN_FIELD_NAME) <;> dsimp only
  case some.some =>
    split_ifs
    · intro h
      cases h
    · rintro ⟨⟩
      rfl
  all_goals
    rintro ⟨⟩
    rfl

/-- A request that is too large: the answer has the request id. -/
theorem assertRequestContentLengthWithinLimit_error {fresh : String} {maxBytes : ℕ}
    {request : Request} {requestId : Option String} {e : Raised}
    (h : assertRequestContentLengthWithinLimit fresh maxBytes request requestId = .error e) :
    ∃ code message status, 400 ≤ status ∧ e = .response (json
      ⟨some code, message, [], some (resolveRequestId fresh request requestId)⟩ status none
        (some (resolveRequestId fresh request requestId))) := by
  unfold assertRequestContentLengthWithinLimit at h
  rcases hlength : parseContentLengthHeader request.contentLength with _ | _ | contentLength
  · rw [hlength] at h
    cases h
  · rw [hlength] at h
    cases h
    exact ⟨_, _, 400, le_refl _, rfl⟩
  · rw [hlength] at h
    dsimp only at h
    by_cases hlimit : maxBytes < contentLength
    · rw [if_pos hlimit] at h
      cases h
      exact ⟨_, _, 413, by decide, rfl⟩
    · rw [if_neg hlimit] at h
      cases h

end Client

end HistoryQuiz
