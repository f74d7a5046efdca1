import HistoryQuiz.Logic.HonestLogin
import HistoryQuiz.Logic.Return
import HistoryQuiz.Theorems.Return

/-!
# A login, from end to end

* `login_round`: with a provider that plays its part, a visitor of a protected page gets back to it
  as the user that the provider has authenticated.
-/

namespace HistoryQuiz

namespace Client

open Js Throw QuizUsecase

/-- A random text is read from a session as it was kept there. -/
theorem toSessionNonEmptyString_random {n : ℕ} (hn : 0 < n) (bytes : Fin n → BitVec 8) :
    toSessionNonEmptyString (some (.str (encodeBase64Url (List.ofFn bytes)))) =
      some (encodeBase64Url (List.ofFn bytes)) := by
  refine toSessionNonEmptyString_eq_some.mpr ⟨_, rfl, trim_encodeBase64Url_self _, ?_⟩
  have hne := trim_encodeBase64Url hn bytes
  rwa [trim_encodeBase64Url_self] at hne

theorem authorizationParams_state (config : OidcResolvedConfig) (random : LoginRandom) :
    (authorizationParams config random).lookup "state" =
      some (encodeBase64Url (List.ofFn random.state)) := by
  simp [authorizationParams, List.lookup_cons]

/-- A login that is kept in a session is found there. -/
theorem getPendingOidcAuth_kept {codeVerifier nonce redirectTo state : String}
    {login callback : Request} (hstate : toSessionNonEmptyString (some (.str state)) = some state)
    (hnonce : toSessionNonEmptyString (some (.str nonce)) = some nonce)
    (hcodeVerifier : toSessionNonEmptyString (some (.str codeVerifier)) = some codeVerifier)
    (hredirectTo : toSessionNonEmptyString (some (.str redirectTo)) = some redirectTo)
    (hsession : ∀ key : SessionKey, key.pending = true → callback.session key =
      login.session.store (some (createPendingOidcAuthCookie
        ⟨codeVerifier, nonce, redirectTo, state⟩ login)) key) :
    getPendingOidcAuth callback = some ⟨codeVerifier, nonce, redirectTo, state⟩ := by
  rw [getPendingOidcAuth_eq_some, hsession .oidcState rfl, hsession .oidcNonce rfl,
    hsession .oidcCodeVerifier rfl, hsession .oidcRedirectTo rfl]
  simp [createPendingOidcAuthCookie, Session.store, hstate, hnonce, hcodeVerifier, hredirectTo]

/-- The callback finds the login that has been started for the page. -/
theorem getPendingOidcAuth_pendingLogin {random : LoginRandom} {page login callback : Request}
    (hpage : page.Serialized)
    (hsession : ∀ key : SessionKey, key.pending = true → callback.session key =
      login.session.store (some (createPendingOidcAuthCookie (pendingLogin random
        (page.pathname ++ page.search)) login)) key) :
    getPendingOidcAuth callback = some (pendingLogin random (page.pathname ++ page.search)) := by
  have hne : page.pathname ++ page.search ≠ "" := by
    intro hempty
    rw [String.append_eq_empty_iff] at hempty
    have hslash := hpage.pathname
    rw [hempty.1] at hslash
    cases hslash
  have hredirectTo : toSessionNonEmptyString (some (.str (page.pathname ++ page.search))) =
      some (page.pathname ++ page.search) :=
    toSessionNonEmptyString_eq_some.mpr ⟨_, rfl, hpage.trim_url, hne⟩
  exact getPendingOidcAuth_kept (toSessionNonEmptyString_random (by decide) _)
    (toSessionNonEmptyString_random (by decide) _) (toSessionNonEmptyString_random (by decide) _)
    hredirectTo hsession

/-- The login page goes to the authorization endpoint, and keeps the login in the session. -/
theorem Login.loader_answers {Key : Type} {provider : IdentityProvider} {platform : Platform Key}
    (setSearchParams : String → List (String × String) → Option String) {request : Request}
    {caches : Caches} (random : LoginRandom) (bytes : BitVec 256)
    (hanswers : provider.Answers platform) (hpublished : provider.Published caches)
    (hurl : ∀ params, (setSearchParams provider.document.authorization_endpoint params).isSome)
    (huser : getUser request = none) : ∃ url,
      setSearchParams provider.document.authorization_endpoint
        (authorizationParams (provider.config platform request) random) = some url ∧
      (Login.loader bytes (beginOidcAuthorization platform setSearchParams random) request
        caches).1 = redirect url (some (createPendingOidcAuthCookie (pendingLogin random
          (resolvePostLoginRedirect request "/me")) request)) none := by
  obtain ⟨url, t, hset, hbegin, -⟩ := beginOidcAuthorization_answers hanswers hpublished
    setSearchParams hurl random (resolvePostLoginRedirect request "/me") request
  exact ⟨url, hset, congrArg Prod.fst (Login.loader_begin huser hbegin)⟩

/-- The callback of a login that the provider has granted logs the subject in. -/
theorem AuthCallback.loader_granted {Key : Type} {provider : IdentityProvider}
    {platform : Platform Key} (begun : OidcResolvedConfig) {random : LoginRandom}
    {redirectTo code idToken subject : String} (request : Request) {caches : Caches}
    (hanswers : provider.Answers platform) (hpublished : provider.Published caches)
    (hclient : begun.clientId = provider.clientId)
    (huri : begun.redirectUri = (provider.config platform request).redirectUri)
    (hexchanges : provider.Exchanges platform (authorizationParams begun random) code idToken)
    (hissues : provider.Issues platform idToken (encodeBase64Url (List.ofFn random.nonce)) subject)
    (herror : request.searchParam "error" = none) (hcode : request.searchParam "code" = some code)
    (hnonempty : code ≠ "") (hstate : request.searchParam "state" =
      some (encodeBase64Url (List.ofFn random.state)))
    (hpending : getPendingOidcAuth request = some (pendingLogin random redirectTo)) :
    (AuthCallback.loader (completeOidcAuthorization platform) request caches).1 =
      redirect (sanitizeRedirectTo (some redirectTo) "/me") (some (.commitSession
        ((clearPendingOidcAuthOnSession request.session).set .userId (trim subject)))) none := by
  have hsubject : trim subject ≠ "" := hissues.trim_subject
  obtain ⟨t, hrun⟩ := completeOidcAuthorization_granted hanswers hpublished begun redirectTo
    request hclient huri hexchanges hissues
  have hsucceeds : AuthCallback.Succeeds (completeOidcAuthorization platform) request caches
      subject :=
    .intro _ code t (by rw [herror]; rfl) hcode hnonempty hpending hstate hrun hsubject
  obtain ⟨stored, hstored, hresponse⟩ := AuthCallback.loader_succeeds hsucceeds
  have hsame := Option.some.inj (hpending.symm.trans hstored)
  subst hsame
  exact hresponse

/-- A user that has just logged in. -/
theorem getUser_loggedIn {session : Session} {request : Request} {subject : String}
    (hsession : request.session = (clearPendingOidcAuthOnSession session).set .userId
      (trim subject)) (hsubject : trim subject ≠ "") :
    getUser request = some ⟨trim subject⟩ := by
  refine getUser_eq_some.mpr (toSessionNonEmptyString_eq_some.mpr
    ⟨trim subject, ?_, trim_trim subject, hsubject⟩)
  rw [hsession, Session.set_apply, if_pos rfl]

/-- The limit of `commitSession`: it throws for a cookie with more characters. -/
def MAX_COOKIE_LENGTH : ℕ := 4096

/-- The response, when `commitSession` has not thrown on the way to it; `cookieLength` gives the
length of the cookie that a session becomes. -/
def Response.sent {Data : Type} (cookieLength : Session → ℕ) (r : Response Data) :
    Option (Response Data) :=
  match r.setCookie with
  | some (.commitSession session) =>
      if cookieLength session ≤ MAX_COOKIE_LENGTH then some r else none
  | _ => some r

/-- The cookie of the response, if it has one, is not too long. -/
def Response.Fits {Data : Type} (cookieLength : Session → ℕ) (r : Response Data) : Prop :=
  ∀ session, r.setCookie = some (.commitSession session) →
    cookieLength session ≤ MAX_COOKIE_LENGTH

theorem Response.Fits.sent {Data : Type} {cookieLength : Session → ℕ} {r : Response Data}
    (h : r.Fits cookieLength) : r.sent cookieLength = some r := by
  unfold Response.sent
  split
  · exact if_pos (h _ ‹_›)
  · rfl

/-- A visitor asks for a protected page, and follows the redirect to the login page. The login page
sends it to the authorization endpoint; there it authenticates, and it comes back with the code
that is granted for the parameters of that address. Then the callback sends it to the page that it
asked for, and from then on it is the subject of the ID token. Between the two visits the caches
and the clocks may have moved on. The cookies of the two answers must not be too long; the first
one holds the address of the page. -/
theorem login_round {Key : Type} {provider : IdentityProvider} {platform platform' : Platform Key}
    (cookieLength : Session → ℕ) (utf8 : Utf8Decoder)
    (setSearchParams : String → List (String × String) → Option String)
    (random : LoginRandom) (bytes : BitVec 256) (route : ProtectedRoute)
    {page login : Request} (callback : Request) {caches caches' : Caches}
    {loginUrl code idToken subject : String}
    (hanswers : provider.Answers platform) (hanswers' : provider.Answers platform')
    (hpublished : provider.Published caches) (hpublished' : provider.Published caches')
    (hurl : ∀ params, (setSearchParams provider.document.authorization_endpoint params).isSome)
    (hpage : page.Serialized) (hpath : startsWith page.pathname "//" = false)
    (hvisitor : getUser page = none) (hredirect : (route.answer page).location = some loginUrl)
    (hfollows : login.Follows utf8 loginUrl) (hlogin : getUser login = none)
    (hexchanges : provider.Exchanges platform'
      (authorizationParams (provider.config platform login) random) code idToken)
    (hissues : provider.Issues platform' idToken (encodeBase64Url (List.ofFn random.nonce)) subject)
    (huri : (provider.config platform' callback).redirectUri =
      (provider.config platform login).redirectUri)
    (herror : callback.searchParam "error" = none) (hcode : callback.searchParam "code" = some code)
    (hnonempty : code ≠ "") (hstate : callback.searchParam "state" =
      (authorizationParams (provider.config platform login) random).lookup "state")
    (hsession : ∀ key : SessionKey, key.pending = true → callback.session key =
      login.session.store (Login.loader bytes (beginOidcAuthorization platform setSearchParams
        random) login caches).1.setCookie key)
    (hfits : (Login.loader bytes (beginOidcAuthorization platform setSearchParams random) login
      caches).1.Fits cookieLength)
    (hfits' : (AuthCallback.loader (completeOidcAuthorization platform') callback
      caches').1.Fits cookieLength) :
    (∃ url answer, setSearchParams provider.document.authorization_endpoint
        (authorizationParams (provider.config platform login) random) = some url ∧
      (Login.loader bytes (beginOidcAuthorization platform setSearchParams random) login
        caches).1.sent cookieLength = some answer ∧ answer.location = some url) ∧
    ∃ answer, (AuthCallback.loader (completeOidcAuthorization platform') callback
        caches').1.sent cookieLength = some answer ∧
      answer.location = some (page.pathname ++ page.search) ∧
      ∀ again : Request, again.session = callback.session.store answer.setCookie →
        getUser again = some ⟨trim subject⟩ := by
  rw [route.answer_location hvisitor] at hredirect
  cases hredirect
  rw [authorizationParams_state] at hstate
  -- the login page
  obtain ⟨url, hset, hanswer⟩ :=
    Login.loader_answers setSearchParams random bytes hanswers hpublished hurl hlogin
  rw [hfollows.resolve hpage hpath] at hanswer
  rw [hanswer] at hsession hfits
  rw [hanswer]
  refine ⟨⟨url, _, hset, hfits.sent, rfl⟩, ?_⟩
  -- the callback
  refine ⟨_, hfits'.sent, ?_⟩
  rw [AuthCallback.loader_granted (provider.config platform login) callback hanswers' hpublished'
    rfl huri.symm hexchanges hissues herror hcode hnonempty hstate
    (getPendingOidcAuth_pendingLogin hpage hsession)]
  constructor
  · show some (sanitizeRedirectTo (some (page.pathname ++ page.search)) "/me") = _
    rw [hpage.sanitize hpath]
  · intro again hagain
    exact getUser_loggedIn hagain hissues.trim_subject

/-! ### A question is edited -/

def grantedPayload : Json :=
  .obj [("iss", .str "https://id.example"), ("aud", .str "quiz"),
    ("exp", .num (((2000 : ℚ) : WithTop ℚ))), ("nonce", .str startedLogin.nonce),
    ("sub", .str "alice")]

def grantedText : String :=
  "\x7b\"iss\":\"https://id.example\",\"aud\":\"quiz\",\"exp\":2000,\"nonce\":" ++
    "\"AAAAAAAAAAAAAAAAAAAAAAAAAAAAAAAAAAAAAAAAAAA\",\"sub\":\"alice\"\x7d"

def grantedSegment : String :=
  "eyJpc3MiOiJodHRwczovL2lkLmV4YW1wbGUiLCJhdWQiOiJxdWl6IiwiZXhwIjoyMDAwLCJub25jZSI6IkFBQUFB" ++
    "QUFBQUFBQUFBQUFBQUFBQUFBQUFBQUFBQUFBQUFBQUFBQUEiLCJzdWIiOiJhbGljZSJ9"

/-- The token of Alice for `startedLogin`. -/
def grantedToken : IdToken where
  encodedHeader := headerSegment
  encodedPayload := grantedSegment
  claims := grantedPayload
  header_plain := by decide +kernel
  payload_plain := by decide +kernel

def grantedIdToken : String := headerSegment ++ "." ++ grantedSegment ++ ".c2lnbmVk"

/-- The platform of `samplePlatform`, where the provider hands out `grantedToken` and no other
token verifies. -/
def grantingPlatform : Platform Unit :=
  { samplePlatform with
    fetch := fun request => match request with
      | .get url => samplePlatform.fetch (.get url)
      | .post _ _ => some ⟨true, some (.obj [("access_token", .str "access"),
          ("id_token", .str grantedIdToken), ("token_type", .str "Bearer")])⟩
    readers :=
      { sampleReaders with
        atob := fun s => [(headerSegment, asciiBytes headerText),
          (grantedSegment, asciiBytes grantedText), ("c2lnbmVk", asciiBytes "signed")].lookup s
        parseJson := fun s =>
          if s = grantedText then some grantedPayload else sampleReaders.parseJson s }
    verify := fun _ _ _ data =>
      some (decide (data = signedBytes headerSegment grantedSegment)) }

def sampleProvider : IdentityProvider where
  issuerUrl := "https://id.example"
  clientId := "quiz"
  clientSecret := "secret"
  document := ⟨"https://id.example", "https://id.example/a", "https://id.example/t",
    "https://id.example/k"⟩
  Publishes keys := keys = [sampleKey]

theorem IdentityProvider.published_noCaches (provider : IdentityProvider) :
    provider.Published noCaches :=
  ⟨fun _ h => (nomatch h), fun _ h => (nomatch h)⟩

theorem speaks_sampleProvider : sampleProvider.Speaks grantingPlatform where
  issuerUrl := by decide +kernel
  clientId := by decide +kernel
  document := by
    intro response parsed hresponse _ hparsed
    cases hresponse
    cases hparsed
    exact ⟨rfl, rfl, rfl, rfl⟩
  keys := by
    intro response parsed keys hresponse _ hparsed hkeys
    cases hresponse
    cases hparsed
    cases hkeys
    rfl

theorem answers_sampleProvider : sampleProvider.Answers grantingPlatform where
  speaks := speaks_sampleProvider
  issuerUrl := by decide +kernel
  clientId := by decide
  clientSecret := by decide +kernel
  clientSecret_ne := by decide
  document := ⟨_, _, rfl, rfl, rfl⟩
  keys := ⟨_, _, [sampleKey], rfl, rfl, rfl, rfl, by simp⟩

theorem decodes_headerSegment : grantingPlatform.Decodes headerSegment sampleHeader := by
  have htext : grantingPlatform.readers.decodeUtf8 (asciiBytes headerText) = headerText := by
    decide +kernel
  refine ⟨asciiBytes headerText, by decide +kernel, ?_⟩
  rw [htext]
  have hother : headerText ≠ grantedText := by decide
  show (if headerText = grantedText then some grantedPayload else
    sampleReaders.parseJson headerText) = _
  rw [if_neg hother]
  rfl

theorem decodes_grantedSegment : grantingPlatform.Decodes grantedSegment grantedPayload := by
  have htext : grantingPlatform.readers.decodeUtf8 (asciiBytes grantedText) = grantedText := by
    decide +kernel
  refine ⟨asciiBytes grantedText, by decide +kernel, ?_⟩
  rw [htext]
  show (if grantedText = grantedText then some grantedPayload else
    sampleReaders.parseJson grantedText) = _
  rw [if_pos rfl]

theorem zeroRandom_nonce : encodeBase64Url (List.ofFn zeroRandom.nonce) = startedLogin.nonce := by
  decide +kernel

theorem issues_grantedIdToken : sampleProvider.Issues grantingPlatform grantedIdToken
    (encodeBase64Url (List.ofFn zeroRandom.nonce)) "alice" := by
  rw [zeroRandom_nonce]
  refine .intro headerSegment grantedSegment "c2lnbmVk" sampleHeader grantedPayload
    (by decide +kernel) decodes_headerSegment decodes_grantedSegment ?_ ?_
  · rintro keys rfl
    refine ⟨⟨"SHA-256", "RSASSA-PKCS1-v1_5"⟩, sampleKey, (), asciiBytes "signed", ?_, rfl,
      by decide +kernel, ?_⟩
    · exact ⟨"RS256", .json (.str ""), rfl, by decide, rfl, .inr ⟨rfl, rfl, rfl⟩⟩
    · exact congrArg some (decide_eq_true rfl)
  · refine ⟨rfl, .inl rfl, ⟨_, rfl, ?_⟩, rfl, rfl, by decide⟩
    have hlater : ((grantingPlatform.claimsNow / 1000 - 30 : ℤ) : ℚ) < 2000 := by
      norm_num [grantingPlatform, samplePlatform]
    exact WithBot.coe_lt_coe.mpr (WithTop.coe_lt_coe.mpr hlater)

theorem exchanges_grantedIdToken (params : List (String × String)) :
    sampleProvider.Exchanges grantingPlatform params "code" grantedIdToken := by
  intro body verifier _ _ _ _ _ _ _ _
  exact ⟨_, _, "access", "Bearer", rfl, rfl, rfl, rfl, rfl, rfl, rfl⟩

/-- The callback, with the cookie of the login page. -/
def grantedCallback : Request :=
  { editCallback with
    session := loginRequest.session.store (Login.loader 0 (beginOidcAuthorization grantingPlatform
      (fun url _ => some url) zeroRandom) loginRequest noCaches).1.setCookie }

/-- The request that Alice makes next. -/
def aliceRequest : Request :=
  { editRequest with session := grantedCallback.session.store (AuthCallback.loader
      (completeOidcAuthorization grantingPlatform) grantedCallback noCaches).1.setCookie }

/-- The login of Alice for the page of the question. -/
def aliceLogin : PendingOidcAuth :=
  pendingLogin zeroRandom (editRequest.pathname ++ editRequest.search)

theorem loginRequest_answer : ∃ url, (Login.loader 0 (beginOidcAuthorization grantingPlatform
    (fun url _ => some url) zeroRandom) loginRequest noCaches).1 =
      redirect url (some (createPendingOidcAuthCookie aliceLogin loginRequest)) none := by
  obtain ⟨url, -, hanswer⟩ := Login.loader_answers (fun url _ => some url) zeroRandom 0
    answers_sampleProvider sampleProvider.published_noCaches (fun _ => rfl)
    (show getUser loginRequest = none from rfl)
  rw [loginRequest_follows.resolve editRequest_serialized (by decide)] at hanswer
  exact ⟨url, hanswer⟩

theorem grantedCallback_kept : grantedCallback.session =
    loginRequest.session.store (some (createPendingOidcAuthCookie aliceLogin loginRequest)) := by
  obtain ⟨url, hanswer⟩ := loginRequest_answer
  dsimp only [grantedCallback]
  rw [hanswer]
  rfl

/-- The session of Alice once she is logged in. -/
def aliceSession : Session :=
  (clearPendingOidcAuthOnSession (loginRequest.session.store
    (some (createPendingOidcAuthCookie aliceLogin loginRequest)))).set .userId (trim "alice")

theorem grantedCallback_answer :
    (AuthCallback.loader (completeOidcAuthorization grantingPlatform) grantedCallback noCaches).1 =
      redirect (sanitizeRedirectTo (some (editRequest.pathname ++ editRequest.search)) "/me")
        (some (.commitSession aliceSession)) none := by
  have hpending : getPendingOidcAuth grantedCallback = some aliceLogin :=
    getPendingOidcAuth_pendingLogin editRequest_serialized
      fun key _ => congrFun grantedCallback_kept key
  unfold aliceSession
  rw [← grantedCallback_kept]
  exact AuthCallback.loader_granted (sampleProvider.config grantingPlatform loginRequest)
    grantedCallback answers_sampleProvider sampleProvider.published_noCaches rfl rfl
    (exchanges_grantedIdToken _) issues_grantedIdToken rfl rfl (by decide) (by decide +kernel)
    hpending

/-- More than the characters of a cookie: its texts, in base64 and percent-encoded, its signature
and its attributes. -/
def sampleCookieLength (session : Session) : ℕ :=
  400 + ([.userId, .csrfToken, .oidcState, .oidcNonce, .oidcCodeVerifier, .oidcRedirectTo].map
    fun key : SessionKey => match session key with
      | some (.str value) => 4 * (value.toList.length + 24)
      | _ => 0).sum

/-- Alice comes back to the page of the question. -/
theorem login_round_alice : ∃ answer,
    (AuthCallback.loader (completeOidcAuthorization grantingPlatform) grantedCallback
      noCaches).1.sent sampleCookieLength = some answer ∧
    answer.location = some (editRequest.pathname ++ editRequest.search) ∧
    getUser { editRequest with session := grantedCallback.session.store answer.setCookie } =
      some ⟨trim "alice"⟩ := by
  have hfits : (Login.loader 0 (beginOidcAuthorization grantingPlatform (fun url _ => some url)
      zeroRandom) loginRequest noCaches).1.Fits sampleCookieLength := by
    obtain ⟨url, hanswer⟩ := loginRequest_answer
    rw [hanswer]
    rintro session ⟨⟩
    decide +kernel
  have hfits' : (AuthCallback.loader (completeOidcAuthorization grantingPlatform) grantedCallback
      noCaches).1.Fits sampleCookieLength := by
    rw [grantedCallback_answer]
    rintro session ⟨⟩
    decide +kernel
  obtain ⟨-, answer, hsent, hlocation, hagain⟩ := login_round sampleCookieLength utf8Decoder
    (fun url _ => some url) zeroRandom 0
    (.questionsNew ⟨countedUuid 1, 0⟩) grantedCallback answers_sampleProvider
    answers_sampleProvider sampleProvider.published_noCaches sampleProvider.published_noCaches
    (fun _ => rfl) editRequest_serialized (by decide) rfl (ProtectedRoute.answer_location _ rfl)
    loginRequest_follows rfl (exchanges_grantedIdToken _) issues_grantedIdToken rfl rfl rfl
    (by decide) (by decide +kernel) (fun _ _ => rfl) hfits hfits'
  exact ⟨answer, hsent, hlocation, hagain _ rfl⟩

end Client

end HistoryQuiz
