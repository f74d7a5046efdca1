import HistoryQuiz.Logic.Oidc
import HistoryQuiz.Logic.Sessions

/-!
# Soundness of the login

* `callback_sound`: the callback logs a subject in only after every check. What is read
  of the request is the first value of a parameter, a `kid` that is empty counts as none,
  and the expiry is compared with whole seconds (`callback_lenient`).
-/

namespace HistoryQuiz

namespace Client

open Js

/-- For every platform, all caches and every request: the callback answers an error and
keeps the user, or it logs a subject in. Then the first `error` of the query is absent or
empty, `code` and `state` are not empty, the session holds the four values of a login,
trimmed and not empty, with the state of the request, and `completeOidcAuthorization` has
checked everything that `Platform.Completes` says. -/
theorem callback_sound {Key : Type} (platform : Platform Key) (caches : Caches)
    (request : Request) :
    ((AuthCallback.loader (completeOidcAuthorization platform) request caches).1.location = none ∧
      ∃ session,
        (AuthCallback.loader (completeOidcAuthorization platform) request caches).1.setCookie =
          some (.commitSession session) ∧ session .userId = request.session .userId) ∨
    ∃ (session : Session) (subject code : String) (pendingAuth : PendingOidcAuth),
      (AuthCallback.loader (completeOidcAuthorization platform) request caches).1.setCookie =
        some (.commitSession session) ∧
      session .userId = some (.str (trim subject)) ∧ trim subject ≠ "" ∧
      (request.searchParam "error").getD "" = "" ∧
      request.searchParam "code" = some code ∧ code ≠ "" ∧
      request.searchParam "state" = some pendingAuth.state ∧ pendingAuth.state ≠ "" ∧
      toSessionNonEmptyString (request.session .oidcState) = some pendingAuth.state ∧
      toSessionNonEmptyString (request.session .oidcNonce) = some pendingAuth.nonce ∧
      toSessionNonEmptyString (request.session .oidcCodeVerifier) =
        some pendingAuth.codeVerifier ∧
      toSessionNonEmptyString (request.session .oidcRedirectTo) = some pendingAuth.redirectTo ∧
      platform.Completes caches code pendingAuth.nonce subject := by
  rcases AuthCallback.loader_cases (completeOidcAuthorization platform) request caches with
    ⟨subject, url, hsucceeds, hresponse⟩ | ⟨message, url, status, hresponse⟩
  · right
    obtain ⟨pendingAuth, code, s', herror, hcode, hnonempty, hpending, hstate, hrun, hsubject⟩ :=
      hsucceeds
    obtain ⟨hkeptState, hkeptNonce, hkeptVerifier, hkeptRedirect⟩ :=
      getPendingOidcAuth_eq_some.mp hpending
    obtain ⟨-, -, -, hstateNonempty⟩ := toSessionNonEmptyString_eq_some.mp hkeptState
    refine ⟨(clearPendingOidcAuthOnSession request.session).set .userId (trim subject), subject,
      code, pendingAuth, ?_, by simp, hsubject, herror, hcode, hnonempty, hstate, hstateNonempty,
      hkeptState, hkeptNonce, hkeptVerifier, hkeptRedirect, completeOidcAuthorization_ok hrun⟩
    rw [hresponse]
    rfl
  · left
    rw [hresponse]
    exact ⟨rfl, clearPendingOidcAuthOnSession request.session, rfl, by simp [SessionKey.pending]⟩

/-! ## A lenient login -/

def sampleHeader : Json := .obj [("alg", .str "RS256"), ("kid", .str "")]

def samplePayload : Json :=
  .obj [("iss", .str "https://id.example"), ("aud", .str "quiz"),
    ("exp", .num (((9702 / 10 : ℚ) : WithTop ℚ))), ("nonce", .str "nonce"), ("sub", .str "alice")]

def sampleKey : Json := .obj [("kty", .str "RSA"), ("kid", .str "key")]

def headerSegment : String := "eyJhbGciOiJSUzI1NiIsImtpZCI6IiJ9"

def headerText : String := "\x7b\"alg\":\"RS256\",\"kid\":\"\"\x7d"

def payloadSegment : String :=
  "eyJpc3MiOiJodHRwczovL2lkLmV4YW1wbGUiLCJhdWQiOiJxdWl6IiwiZXhwIjo5NzAuMiwi" ++
    "bm9uY2UiOiJub25jZSIsInN1YiI6ImFsaWNlIn0"

def payloadText : String :=
  "\x7b\"iss\":\"https://id.example\",\"aud\":\"quiz\",\"exp\":970.2," ++
    "\"nonce\":\"nonce\",\"sub\":\"alice\"\x7d"

def asciiBytes (s : String) : List (BitVec 8) := s.toList.map fun c => BitVec.ofNat 8 c.toNat

/-- What the platform reads of the texts of the token. -/
def sampleReaders : Readers where
  atob s := [(headerSegment, asciiBytes headerText), (payloadSegment ++ "=",
    asciiBytes payloadText), ("c2lnbmVk", asciiBytes "signed")].lookup s
  decodeUtf8 bytes := String.ofList (bytes.map fun b => Char.ofNat b.toNat)
  parseJson s := [(headerText, sampleHeader), (payloadText, samplePayload)].lookup s
  numberText _ := ""
  toUpperCase := id

/-- The identity provider publishes one key, with a `kid`. It is 1000.5 s. -/
def samplePlatform : Platform Unit where
  env name := [("OIDC_ISSUER_URL", "https://id.example"), ("OIDC_CLIENT_ID", "quiz"),
    ("OIDC_CLIENT_SECRET", "secret")].lookup name
  discoveryNow := 1000500
  jwksNow := 1000500
  claimsNow := 1000500
  fetch
    | .get url => [("https://id.example/.well-known/openid-configuration", (⟨true, some (.obj
          [("issuer", .str "https://id.example"), ("authorization_endpoint", .str "https://id.example/a"),
            ("token_endpoint", .str "https://id.example/t"),
            ("jwks_uri", .str "https://id.example/k")])⟩ : FetchResponse)),
        ("https://id.example/k", ⟨true, some (.obj [("keys", .arr [sampleKey])])⟩)].lookup url
    | .post _ _ => some ⟨true, some (.obj [("access_token", .str "access"),
        ("id_token", .str (headerSegment ++ "." ++ payloadSegment ++ ".c2lnbmVk")),
        ("token_type", .str "Bearer")])⟩
  readers := sampleReaders
  importKey _ _ := some ()
  verify _ _ _ _ := some true

/-- The callback of a login that is under way, with two `error` parameters. -/
def sampleCallback : Request where
  origin := "https://quiz.example"
  pathname := "/auth/callback"
  search := "?error=&error=access_denied&code=code&state=state"
  searchParams := [("error", ""), ("error", "access_denied"), ("code", "code"), ("state", "state")]
  contentLength := none
  xRequestId := none
  session := (((Session.empty.set .oidcState "state").set .oidcNonce "nonce").set
    .oidcCodeVerifier "verifier").set .oidcRedirectTo "/me"
  formData := none

def noCaches : Caches := ⟨fun _ => none, fun _ => none⟩

/-- The user of the session that a cookie sets. -/
def newUser : Option SetCookie → Option String
  | some (.commitSession session) => toSessionNonEmptyString (session .userId)
  | _ => none

/-- The callback logs Alice in although the query has an `error` parameter that is not
empty (the second one), the header names a `kid` that no key has (the empty one), and the
token has expired more than thirty seconds ago (it is 1000.5 s). -/
theorem callback_lenient :
    newUser (AuthCallback.loader (completeOidcAuthorization samplePlatform) sampleCallback
      noCaches).1.setCookie = some "alice" ∧
    sampleCallback.session .userId = none ∧
    (∃ e, ("error", e) ∈ sampleCallback.searchParams ∧ e ≠ "") ∧
    (samplePlatform.Decodes headerSegment sampleHeader ∧
      sampleHeader.prop "kid" = some (.json (.str "")) ∧
      sampleKey.prop "kid" = some (.json (.str "key"))) ∧
    samplePlatform.Decodes payloadSegment samplePayload ∧
    samplePayload.prop "exp" = some (.json (.num ((9702 / 10 : ℚ) : WithTop ℚ))) ∧
    (9702 / 10 : ℚ) ≤ samplePlatform.claimsNow / 1000 - 30 := by
  refine ⟨by decide +kernel, rfl, ⟨"access_denied", by decide, by decide⟩, ⟨?_, rfl, rfl⟩, ?_,
    rfl, ?_⟩
  · exact ⟨asciiBytes headerText, by decide +kernel, rfl⟩
  · exact ⟨asciiBytes payloadText, by decide +kernel, rfl⟩
  · norm_num [samplePlatform]

end Client

end HistoryQuiz
