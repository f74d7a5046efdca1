import HistoryQuiz.Client.Http
import HistoryQuiz.Postgres.Uuid

/-!
# Sessions

`session.server.ts`: the operations on the session cookie. Each of them reads the
session of its request afresh, and what it uses of a value is trimmed.
-/

namespace HistoryQuiz

namespace Client

open Js

structure SessionUser where
  userId : String
deriving DecidableEq, Repr

structure PendingOidcAuth where
  codeVerifier : String
  nonce : String
  redirectTo : String
  state : String
deriving DecidableEq, Repr

/-- `clearPendingOidcAuthOnSession`. -/
def clearPendingOidcAuthOnSession (session : Session) : Session :=
  (((session.unset .oidcState).unset .oidcNonce).unset .oidcCodeVerifier).unset .oidcRedirectTo

/-- `generateCsrfToken`: `randomBytes(32).toString("hex")`. -/
def generateCsrfToken (bytes : BitVec 256) : String := String.ofList (hexDigits 64 bytes.toNat)

/-- `toSessionNonEmptyString`. -/
def toSessionNonEmptyString : Option Json → Option String
  | some (.str value) => if trim value ≠ "" then some (trim value) else none
  | _ => none

/-- `getUser`. -/
def getUser (request : Request) : Option SessionUser :=
  match toSessionNonEmptyString (request.session .userId) with
  | none => none
  | some userId => some { userId }

/-- `getPendingOidcAuth`. -/
def getPendingOidcAuth (request : Request) : Option PendingOidcAuth :=
  let state := toSessionNonEmptyString (request.session .oidcState)
  let nonce := toSessionNonEmptyString (request.session .oidcNonce)
  let codeVerifier := toSessionNonEmptyString (request.session .oidcCodeVerifier)
  let redirectTo := toSessionNonEmptyString (request.session .oidcRedirectTo)
  match state, nonce, codeVerifier, redirectTo with
  | some state, some nonce, some codeVerifier, some redirectTo =>
      some { codeVerifier, nonce, redirectTo, state }
  | _, _, _, _ => none

/-- `getSessionCsrfToken`. -/
def getSessionCsrfToken (request : Request) : Option String :=
  toSessionNonEmptyString (request.session .csrfToken)

structure IssuedCsrfToken where
  csrfToken : String
  setCookie : Option SetCookie

/-- `ensureSessionCsrfToken`, with the random bytes of a new token. -/
def ensureSessionCsrfToken (bytes : BitVec 256) (request : Request) : IssuedCsrfToken :=
  match toSessionNonEmptyString (request.session .csrfToken) with
  | some existingToken => { csrfToken := existingToken, setCookie := none }
  | none =>
      let newToken := generateCsrfToken bytes
      { csrfToken := newToken
        setCookie := some (.commitSession (request.session.set .csrfToken newToken)) }

/-- `createPendingOidcAuthCookie`. -/
def createPendingOidcAuthCookie (pendingAuth : PendingOidcAuth) (request : Request) : SetCookie :=
  .commitSession ((((request.session.set .oidcState pendingAuth.state).set .oidcNonce
    pendingAuth.nonce).set .oidcCodeVerifier pendingAuth.codeVerifier).set .oidcRedirectTo
      pendingAuth.redirectTo)

/-- `clearPendingOidcAuthCookie`. -/
def clearPendingOidcAuthCookie (request : Request) : SetCookie :=
  .commitSession (clearPendingOidcAuthOnSession request.session)

/-- `createUserSessionCookie`. -/
def createUserSessionCookie (request : Request) (userId : String) : Except Thrown SetCookie :=
  let normalizedUserId := trim userId
  if normalizedUserId = "" then
    .error (.error "userId が空文字です。セッションへ保存できません。")
  else
    .ok (.commitSession ((clearPendingOidcAuthOnSession request.session).set .userId
      normalizedUserId))

/-- `destroyUserSessionCookie`. -/
def destroyUserSessionCookie (_request : Request) : SetCookie := .destroySession

/-! ## What they do -/

/-- The keys of the values that a login keeps while it is under way. -/
def SessionKey.pending : SessionKey → Bool
  | oidcState | oidcNonce | oidcCodeVerifier | oidcRedirectTo => true
  | userId | csrfToken => false

@[simp] theorem clearPendingOidcAuthOnSession_apply (session : Session) (key : SessionKey) :
    clearPendingOidcAuthOnSession session key = if key.pending then none else session key := by
  cases key <;> simp [clearPendingOidcAuthOnSession, SessionKey.pending]

/-- What is used of a session value is trimmed and not empty. -/
theorem toSessionNonEmptyString_eq_some {value : Option Json} {s : String} :
    toSessionNonEmptyString value = some s ↔ ∃ v, value = some (.str v) ∧ trim v = s ∧ s ≠ "" := by
  unfold toSessionNonEmptyString
  rcases value with _ | (_ | _ | _ | v | _ | _)
  case some.str =>
    by_cases hv : trim v = ""
    · simp [hv]
    · simp only [ne_eq, hv, not_false_eq_true, if_true, Option.some.injEq, Json.str.injEq]
      constructor
      · rintro rfl
        exact ⟨v, rfl, rfl, hv⟩
      · rintro ⟨_, rfl, rfl, -⟩
        rfl
  all_goals simp

theorem toSessionNonEmptyString_str {v : String} (h : trim v ≠ "") :
    toSessionNonEmptyString (some (.str v)) = some (trim v) :=
  toSessionNonEmptyString_eq_some.mpr ⟨v, rfl, rfl, h⟩

/-- A login is under way when all four values can be used. -/
theorem getPendingOidcAuth_eq_some {request : Request} {pendingAuth : PendingOidcAuth} :
    getPendingOidcAuth request = some pendingAuth ↔
      toSessionNonEmptyString (request.session .oidcState) = some pendingAuth.state ∧
      toSessionNonEmptyString (request.session .oidcNonce) = some pendingAuth.nonce ∧
      toSessionNonEmptyString (request.session .oidcCodeVerifier) =
        some pendingAuth.codeVerifier ∧
      toSessionNonEmptyString (request.session .oidcRedirectTo) = some pendingAuth.redirectTo := by
  unfold getPendingOidcAuth
  obtain ⟨codeVerifier, nonce, redirectTo, state⟩ := pendingAuth
  cases toSessionNonEmptyString (request.session .oidcState) <;>
    cases toSessionNonEmptyString (request.session .oidcNonce) <;>
    cases toSessionNonEmptyString (request.session .oidcCodeVerifier) <;>
    cases toSessionNonEmptyString (request.session .oidcRedirectTo) <;>
    simp [and_comm, and_left_comm]

theorem getUser_eq_some {request : Request} {user : SessionUser} :
    getUser request = some user ↔
      toSessionNonEmptyString (request.session .userId) = some user.userId := by
  unfold getUser
  obtain ⟨userId⟩ := user
  cases toSessionNonEmptyString (request.session .userId) <;> simp

theorem isWhiteSpace_hexDigit : ∀ d < 16, isWhiteSpace (hexDigit d) = false := by decide

theorem trim_text (u : Uuid) : trim u.text = u.text := by
  apply trim_eq_self
  intro c hc
  rcases Uuid.mem_text hc with rfl | ⟨d, hd, rfl⟩
  · decide
  · exact isWhiteSpace_hexDigit d hd

/-- A generated token is a token: trimming leaves it, and it is not empty. -/
theorem trim_generateCsrfToken (bytes : BitVec 256) :
    trim (generateCsrfToken bytes) = generateCsrfToken bytes := by
  apply trim_eq_self
  intro c hc
  unfold generateCsrfToken at hc
  rw [String.toList_ofList] at hc
  obtain ⟨d, hd, rfl⟩ := mem_hexDigits hc
  exact isWhiteSpace_hexDigit d hd

theorem generateCsrfToken_ne_empty (bytes : BitVec 256) : generateCsrfToken bytes ≠ "" := by
  intro h
  have hlength : (hexDigits 64 bytes.toNat).length = 64 := length_hexDigits 64 _
  rw [show hexDigits 64 bytes.toNat = [] from String.ofList_eq_empty_iff.mp h] at hlength
  cases hlength

theorem createUserSessionCookie_eq_ok {request : Request} {userId : String} {cookie : SetCookie} :
    createUserSessionCookie request userId = .ok cookie ↔ trim userId ≠ "" ∧
      cookie = .commitSession ((clearPendingOidcAuthOnSession request.session).set .userId
        (trim userId)) := by
  unfold createUserSessionCookie
  by_cases h : trim userId = "" <;> simp [h, eq_comm]

end Client

end HistoryQuiz
