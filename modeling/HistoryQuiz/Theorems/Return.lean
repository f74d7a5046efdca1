import HistoryQuiz.Logic.Return
import HistoryQuiz.Theorems.Login

/-!
# Back to where you were

* `returns_to_page`: a visitor who is sent from a protected route to the login page, logs in
  and comes back by the callback, is sent to the path and the query of the route.
-/

namespace HistoryQuiz

namespace Client

open Js Throw

/-- For every path that does not start with two slashes and every query, and for every
protected route. A visitor that is not logged in is sent to `loginUrl`, follows it, and
starts a login; the callback finds the values of that login in its session, and succeeds.
Then it redirects to the path and the query of the route. -/
theorem returns_to_page {Key τ : Type} (utf8 : Utf8Decoder) (platform : Platform Key)
    (setSearchParams : String → List (String × String) → Option String) (random : LoginRandom)
    (bytes : BitVec 256) (completeOidc : String → PendingOidcAuth → Request → EStateM Thrown τ String)
    (route : ProtectedRoute) {page login callback : Request} {s s' : Caches} {t : τ}
    {loginUrl url subject : String} {pendingAuth : PendingOidcAuth}
    (hpage : page.Serialized) (hpath : startsWith page.pathname "//" = false)
    (hvisitor : getUser page = none) (hredirect : (route.answer page).location = some loginUrl)
    (hfollows : login.Follows utf8 loginUrl) (hlogin : getUser login = none)
    (hbegin : beginOidcAuthorization platform setSearchParams random
      (resolvePostLoginRedirect login "/me") login s = .ok (url, pendingAuth) s')
    (hsession : ∀ key : SessionKey, key.pending = true → callback.session key =
      login.session.store (Login.loader bytes (beginOidcAuthorization platform setSearchParams
        random) login s).1.setCookie key)
    (hsucceeds : AuthCallback.Succeeds completeOidc callback t subject) :
    (AuthCallback.loader completeOidc callback t).1.location =
      some (page.pathname ++ page.search) := by
  rw [route.answer_location hvisitor] at hredirect
  cases hredirect
  -- the login keeps the target
  obtain ⟨-, -, -, hkept⟩ := beginOidcAuthorization_ok hbegin
  rw [hfollows.resolve hpage hpath] at hkept
  -- the callback reads it from its session
  obtain ⟨stored, hpending, hresponse⟩ := AuthCallback.loader_succeeds hsucceeds
  have hread := (getPendingOidcAuth_eq_some.mp hpending).2.2.2
  have hcookie : callback.session .oidcRedirectTo =
      some (.str (page.pathname ++ page.search)) := by
    rw [hsession .oidcRedirectTo rfl, Login.loader_begin hlogin hbegin, ← hkept]
    show (((login.session.set .oidcState _).set .oidcNonce _).set .oidcCodeVerifier _).set
      .oidcRedirectTo pendingAuth.redirectTo .oidcRedirectTo = _
    rw [Session.set_apply, if_pos rfl]
  have htarget : stored.redirectTo = page.pathname ++ page.search := by
    rw [hcookie] at hread
    obtain ⟨v, hv, htrim, -⟩ := toSessionNonEmptyString_eq_some.mp hread
    cases hv
    rw [← htrim, hpage.trim_url]
  rw [hresponse, htarget, hpage.sanitize hpath]
  rfl

/-! ### A question is edited -/

/-- The page of a question, with a query that has a target of its own. -/
def editRequest : Request where
  origin := "https://quiz.example"
  pathname := "/questions/1/edit"
  search := "?redirectTo=%2Fme&a=b+c"
  searchParams := [("redirectTo", "/me"), ("a", "b c")]
  contentLength := none
  xRequestId := none
  session := .empty
  formData := none

/-- The request that follows the redirect to the login page. -/
def loginRequest : Request :=
  let query := "redirectTo=%2Fquestions%2F1%2Fedit%3FredirectTo%3D%252Fme%26a%3Db%2Bc"
  { editRequest with
    pathname := "/login"
    search := "?" ++ query
    searchParams := parseSearchParams utf8Decoder query }

def zeroRandom : LoginRandom := ⟨fun _ => 0, fun _ => 0, fun _ => 0⟩

/-- The login that is started. -/
def startedLogin : PendingOidcAuth where
  codeVerifier := String.ofList (List.replicate 64 'A')
  nonce := String.ofList (List.replicate 43 'A')
  redirectTo := "/questions/1/edit?redirectTo=%2Fme&a=b+c"
  state := String.ofList (List.replicate 43 'A')

/-- The callback of the login. -/
def editCallback : Request :=
  { editRequest with
    pathname := "/auth/callback"
    searchParams := [("code", "code"), ("state", startedLogin.state)]
    session := loginRequest.session.store
      (some (createPendingOidcAuthCookie startedLogin loginRequest)) }

theorem editRequest_serialized : editRequest.Serialized := by
  have hascii : ((editRequest.pathname ++ editRequest.search).toList.all
      fun c => decide (0x21 ≤ c.toNat) && decide (c.toNat ≤ 0x7e)) = true := by decide +kernel
  refine ⟨fun c hc => ?_, by decide, .inr (by decide)⟩
  have hboth := List.all_eq_true.mp hascii c hc
  rwa [Bool.and_eq_true, decide_eq_true_eq, decide_eq_true_eq] at hboth

theorem loginRequest_follows : loginRequest.Follows utf8Decoder (buildLoginUrl
    (sanitizeRedirectTo (some (editRequest.pathname ++ editRequest.search)) "/")) := by
  have hquery : ∀ query : String, query = String.ofList ("?" ++ query).toList.tail := by
    intro query
    rw [String.toList_append]
    exact (String.ofList_toList (s := query)).symm
  exact ⟨by decide +kernel, by decide, .inr (by decide),
    congrArg (parseSearchParams utf8Decoder) (hquery _)⟩

/-- The visitor comes back to the page of the question. -/
theorem returns_to_page_edit :
    (AuthCallback.loader (fun _ _ _ => pure "alice") editCallback ()).1.location =
      some (editRequest.pathname ++ editRequest.search) := by
  have hlogin : getUser loginRequest = none := rfl
  have hbegin : ∃ url s', beginOidcAuthorization samplePlatform (fun url _ => some url) zeroRandom
      (editRequest.pathname ++ editRequest.search) loginRequest noCaches =
        .ok (url, startedLogin) s' := by
    have hbegun : (attempt (beginOidcAuthorization samplePlatform (fun url _ => some url) zeroRandom
        (editRequest.pathname ++ editRequest.search) loginRequest) noCaches).1.toOption =
          some ("https://id.example/a", startedLogin) := by decide +kernel
    exact ⟨_, _, eq_ok_of_toOption hbegun⟩
  obtain ⟨url, s', hbegin⟩ := hbegin
  rw [← loginRequest_follows.resolve editRequest_serialized (by decide) "/me"] at hbegin
  have hsucceeds : AuthCallback.Succeeds (fun _ _ _ => (pure "alice" : EStateM Thrown Unit String))
      editCallback () "alice" :=
    .intro startedLogin "code" () rfl rfl (by decide) (by decide +kernel) rfl rfl (by decide)
  exact returns_to_page utf8Decoder samplePlatform (fun url _ => some url) zeroRandom 0 _
    (.questionsNew ⟨countedUuid 1, 0⟩) editRequest_serialized (by decide) rfl
    (ProtectedRoute.answer_location _ rfl) loginRequest_follows hlogin hbegin
    (fun key _ => by rw [Login.loader_begin hlogin hbegin]; rfl) hsucceeds

end Client

end HistoryQuiz
