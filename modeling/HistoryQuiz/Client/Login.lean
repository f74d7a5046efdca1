import HistoryQuiz.Base.Throw
import HistoryQuiz.Client.Auth

/-!
# Login and logout

The routes `login.tsx` and `auth.callback.tsx`. What `beginOidcAuthorization` and
`completeOidcAuthorization` do is a parameter of their loaders.
-/

namespace HistoryQuiz

namespace Client

open Js Throw

/-! ## login.tsx -/

namespace Login

inductive LoaderData where
  | loggedIn (csrfToken message userId : String)
  | loggedOut (message : String)
deriving DecidableEq, Repr

structure ActionData where
  message : String
  requestId : String
deriving DecidableEq, Repr

/-- The loader: to the identity provider, unless a user is logged in. -/
def loader {σ : Type} (bytes : BitVec 256)
    (beginOidcAuthorization : String → Request → EStateM Thrown σ (String × PendingOidcAuth))
    (request : Request) : StateM σ (Response LoaderData) := do
  let redirectTo := resolvePostLoginRedirect request "/me"
  match getUser request with
  | some user =>
      let issued := issueCsrfToken bytes request
      let requestedRedirect := sanitizeRedirectTo (request.searchParam "redirectTo") ""
      -- the cookie of a new token is not sent with the redirect
      if requestedRedirect ≠ "" then return redirect requestedRedirect none none
      else
        return json
          (.loggedIn issued.csrfToken "すでにログイン済みです。必要ならログアウトできます。" user.userId)
          200 issued.setCookie none
  | none =>
      let outcome ← attempt (beginOidcAuthorization redirectTo request)
      match outcome with
      | .ok (authorizationUrl, pendingAuth) =>
          return redirect authorizationUrl (some (createPendingOidcAuthCookie pendingAuth request))
            none
      | .error (.oidcFlowError message status) =>
          return json (.loggedOut message) status none none
      | .error _ =>
          return json
            (.loggedOut
              "ログインを開始できませんでした。設定を確認してから再試行してください。")
            500 none none

/-- The action: logout. -/
def action (fresh : String) (request : Request) : Except Raised (Response ActionData) :=
  match request.formData with
  | none => .error (.thrown .platform)
  | some formData =>
      match verifyCsrfToken fresh formData request none with
      | .error e => .error e
      | .ok requestId =>
          if formData.get "intent" ≠ some (.text "logout") then
            .ok (json ⟨"不正なリクエストです。", requestId⟩ 400 none (some requestId))
          else
            .ok (redirect "/" (some (destroyUserSessionCookie request)) (some requestId))

end Login

/-! ## auth.callback.tsx -/

namespace AuthCallback

structure LoaderData where
  message : String
  retryUrl : String
deriving DecidableEq, Repr

/-- `createErrorResponse`. -/
def createErrorResponse (message : String) (request : Request) (retryRedirectTo : String)
    (status : ℕ) : Response LoaderData :=
  let setCookie := clearPendingOidcAuthCookie request
  json ⟨message, buildLoginUrl retryRedirectTo⟩ status (some setCookie) none

/-- The loader. -/
def loader {σ : Type}
    (completeOidcAuthorization : String → PendingOidcAuth → Request → EStateM Thrown σ String)
    (request : Request) : StateM σ (Response LoaderData) := do
  let pendingAuth := getPendingOidcAuth request
  let retryRedirectTo := sanitizeRedirectTo (pendingAuth.map PendingOidcAuth.redirectTo) "/me"
  let errorResponse (message : String) (status : ℕ) :=
    createErrorResponse message request retryRedirectTo status
  let given (name : String) : Option String := (request.searchParam name).filter (· ≠ "")
  match given "error" with
  | some _ =>
      return errorResponse
        "ログインがキャンセルされたか、認証サーバーでエラーが発生しました。再度お試しください。" 401
  | none =>
      match given "code", given "state" with
      | some code, some state =>
          match pendingAuth with
          | none =>
              return errorResponse
                "ログインセッションが期限切れです。再度ログインしてください。" 401
          | some pendingAuth =>
              if state ≠ pendingAuth.state then
                return errorResponse
                  "state の検証に失敗しました。CSRF 対策のため処理を中断しました。" 401
              else
                let outcome ← attempt (completeOidcAuthorization code pendingAuth request)
                match outcome.bind (createUserSessionCookie request) with
                | .ok setCookie => return redirect retryRedirectTo (some setCookie) none
                | .error (.oidcFlowError message status) => return errorResponse message status
                | .error _ =>
                    return errorResponse
                      "ログイン処理中に予期しないエラーが発生しました。時間をおいて再試行してください。"
                      500
      | _, _ => return errorResponse "認証レスポンスが不正です。再度ログインしてください。" 400

end AuthCallback

end Client

end HistoryQuiz
