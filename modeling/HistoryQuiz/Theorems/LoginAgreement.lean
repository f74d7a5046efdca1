import HistoryQuiz.Base.FreshNames
import HistoryQuiz.Logic.Provider
import HistoryQuiz.Logic.Tabs
import HistoryQuiz.Theorems.LoginRound
import HistoryQuiz.Theorems.Sessions

/-!
# Agreement of site and provider

* `login_agreement`: any number of browsers use the site, whatever they send. A browser sends any
  cookie that it was ever given, so it may go back to an old one. The user of a request has
  authenticated at the provider in answer to an authorization request that was made for this
  browser.
-/

namespace HistoryQuiz

namespace Client

open Js Throw QuizUsecase FreshNames

/-! ## The world -/

/-- The events that have to do with a nonce. -/
inductive LoginEvent (Browser : Type) where
  /-- The site sends a browser to the provider, with a nonce. -/
  | started (browser : Browser) (nonce : String)
  /-- The provider signs an ID token. -/
  | signed (token : IdToken)

namespace LoginEvent

variable {Browser : Type}

/-- A nonce is minted when a login starts with it. -/
def Mints (e : LoginEvent Browser) (nonce : String) : Prop := ∃ b, e = started b nonce

/-- What uses a nonce: the start of a login, and a token that names it. -/
def Uses (e : LoginEvent Browser) (nonce : String) : Prop :=
  e.Mints nonce ∨ ∃ token, e = signed token ∧
    token.claims.prop "nonce" = some (.json (.str nonce))

def token? : LoginEvent Browser → Option IdToken
  | started _ _ => none
  | signed token => some token

end LoginEvent

/-- The cookies that the site has given to each browser, what it has fetched from the provider, and
what has happened so far. -/
structure LoginWorld (Browser : Type) where
  cookies : List (Browser × Session)
  caches : Caches
  log : List (LoginEvent Browser)

namespace LoginWorld

variable {Browser : Type}

def start : LoginWorld Browser := ⟨[], noCaches, []⟩

/-- A browser sends no cookie, or one that it was given. -/
def Sends (w : LoginWorld Browser) (b : Browser) (session : Session) : Prop :=
  session = .empty ∨ (b, session) ∈ w.cookies

/-- The tokens that the provider has signed. -/
def signed (w : LoginWorld Browser) : List IdToken := w.log.filterMap LoginEvent.token?

/-- The browser visits the site with a cookie: it is given what its session becomes. -/
def visit (w : LoginWorld Browser) (b : Browser) (session : Session) (v : Visit) (caches : Caches)
    (events : List (LoginEvent Browser)) : LoginWorld Browser :=
  ⟨w.cookies ++ [(b, v.next session)], caches, w.log ++ events⟩

theorem mem_visit (w : LoginWorld Browser) {b : Browser} {session : Session} {v : Visit}
    {caches : Caches} {events : List (LoginEvent Browser)} :
    (b, v.next session) ∈ (w.visit b session v caches events).cookies :=
  List.mem_append_right _ (List.mem_singleton.mpr rfl)

/-- A visit of a browser, a signature of the provider, or a restart of the site. -/
inductive Step (provider : IdentityProvider) : LoginWorld Browser → LoginWorld Browser → Prop
  /-- The login page sends a visitor to the provider, with random values. -/
  | begins {w : LoginWorld Browser} {b : Browser} {Key : Type} {platform : Platform Key}
      (setSearchParams : String → List (String × String) → Option String) (random : LoginRandom)
      (bytes : BitVec 256) {request : Request} {caches : Caches} {url : String}
      {pendingAuth : PendingOidcAuth} (hsends : w.Sends b request.session)
      (hspeaks : provider.Speaks platform) (hvisitor : getUser request = none)
      (hbegin : beginOidcAuthorization platform setSearchParams random
        (resolvePostLoginRedirect request "/me") request w.caches = .ok (url, pendingAuth) caches)
      (hfresh : ∀ e ∈ w.log, ¬e.Uses pendingAuth.nonce) :
      Step provider w (w.visit b request.session
        (.login (beginOidc platform setSearchParams random) w.caches bytes request) caches
          [.started b pendingAuth.nonce])
  /-- The login page finds a user, or it fails to start a login. -/
  | refuses {w : LoginWorld Browser} {b : Browser} {Key : Type} {platform : Platform Key}
      (setSearchParams : String → List (String × String) → Option String) (random : LoginRandom)
      (bytes : BitVec 256) {request : Request} {caches : Caches}
      (hsends : w.Sends b request.session) (hspeaks : provider.Speaks platform)
      (hother : (∃ user, getUser request = some user) ∧ caches = w.caches ∨
        ∃ e, beginOidcAuthorization platform setSearchParams random
          (resolvePostLoginRedirect request "/me") request w.caches = .error e caches) :
      Step provider w (w.visit b request.session
        (.login (beginOidc platform setSearchParams random) w.caches bytes request) caches [])
  /-- The callback is visited with any code and any state. -/
  | callback {w : LoginWorld Browser} {b : Browser} {Key : Type} {platform : Platform Key}
      {request : Request} (hsends : w.Sends b request.session) (hspeaks : provider.Speaks platform)
      (hunforgeable : provider.Unforgeable platform w.signed) :
      Step provider w (w.visit b request.session
        (.callback (completeOidcAuthorization platform) w.caches request)
        (AuthCallback.loader (completeOidcAuthorization platform) request w.caches).2 [])
  /-- A page with a form, or a logout. -/
  | other {w : LoginWorld Browser} {b : Browser} {session : Session} {v : Visit}
      (hsends : w.Sends b session)
      (hv : v.isPage = true ∨ ∃ fresh request, v = .logout fresh request) :
      Step provider w (w.visit b session v w.caches [])
  | signs {w : LoginWorld Browser} (token : IdToken) :
      Step provider w { w with log := w.log ++ [.signed token] }
  | restarts {w : LoginWorld Browser} : Step provider w { w with caches := noCaches }

abbrev Steps (provider : IdentityProvider) : LoginWorld Browser → LoginWorld Browser → Prop :=
  Relation.ReflTransGen (Step provider)

end LoginWorld

/-! ## What the cookies hold -/

variable {Browser : Type} {provider : IdentityProvider} {log log' : List (LoginEvent Browser)}
  {b : Browser} {session session' : Session}

/-- The nonce of a session is that of a login that its browser has started, and its user has
authenticated for such a login. -/
structure Session.Owned (provider : IdentityProvider) (log : List (LoginEvent Browser))
    (b : Browser) (session : Session) : Prop where
  nonce : ∀ value, session .oidcNonce = some value →
    ∃ nonce, value = .str nonce ∧ trim nonce = nonce ∧ .started b nonce ∈ log
  user : ∀ value, session .userId = some value →
    ∃ nonce token subject, value = .str (trim subject) ∧ .started b nonce ∈ log ∧
      .signed token ∈ log ∧ token.Names provider nonce subject

theorem Session.owned_empty : Session.empty.Owned provider log b :=
  ⟨fun _ h => (nomatch h), fun _ h => (nomatch h)⟩

theorem Session.Owned.mono (h : session.Owned provider log b) (hlog : log ⊆ log') :
    session.Owned provider log' b := by
  refine ⟨fun value hvalue => ?_, fun value hvalue => ?_⟩
  · obtain ⟨nonce, hnonce, htrim, hstarted⟩ := h.nonce value hvalue
    exact ⟨nonce, hnonce, htrim, hlog hstarted⟩
  · obtain ⟨nonce, token, subject, huser, hstarted, hsigned, hnames⟩ := h.user value hvalue
    exact ⟨nonce, token, subject, huser, hlog hstarted, hlog hsigned, hnames⟩

/-- A session that has no other nonce and no other user. -/
theorem Session.Owned.of_keys (h : session.Owned provider log b)
    (hnonce : session' .oidcNonce = session .oidcNonce ∨ session' .oidcNonce = none)
    (huser : session' .userId = session .userId ∨ session' .userId = none) :
    session'.Owned provider log b := by
  refine ⟨fun value hvalue => ?_, fun value hvalue => ?_⟩
  · rcases hnonce with hsame | hnone
    · exact h.nonce value (hsame ▸ hvalue)
    · rw [hnone] at hvalue
      cases hvalue
  · rcases huser with hsame | hnone
    · exact h.user value (hsame ▸ hvalue)
    · rw [hnone] at hvalue
      cases hvalue

/-! ## Each visit -/

theorem Visit.next_login {σ : Type} (beginOidc : BeginOidcAuthorization σ) (s : σ)
    (bytes : BitVec 256) (request : Request) :
    (Visit.login beginOidc s bytes request).next request.session =
      request.session.store (Login.loader bytes beginOidc.run request s).1.setCookie :=
  rfl

theorem Visit.next_callback {σ : Type}
    (completeOidc : String → PendingOidcAuth → Request → EStateM Thrown σ String) (s : σ)
    (request : Request) : (Visit.callback completeOidc s request).next request.session =
      request.session.store (AuthCallback.loader completeOidc request s).1.setCookie :=
  rfl

/-- What neither starts nor ends a login brings no nonce and no user. -/
theorem Session.Owned.other {v : Visit} (h : session.Owned provider log b)
    (hv : v.isPage = true ∨ ∃ fresh request, v = .logout fresh request)
    (hchanges : v.Changes session session') : session'.Owned provider log b := by
  have hneither : (∀ pendingAuth, ¬v.Starts session pendingAuth) ∧
      ∀ subject, ¬v.LogsIn session subject := by
    rcases hv with hpage | ⟨fresh, request, rfl⟩
    · cases v with
      | login | callback | logout => cases hpage
      | _ => exact ⟨fun _ => id, fun _ => id⟩
    · exact ⟨fun _ => id, fun _ => id⟩
  cases hchanges with
  | unchanged _ => exact h
  | token bytes _ _ => exact h.of_keys (.inl (by simp)) (.inl (by simp))
  | started pendingAuth hstarts => exact absurd hstarts (hneither.1 pendingAuth)
  | failed _ _ =>
      exact h.of_keys (.inr (by simp [SessionKey.pending])) (.inl (by simp [SessionKey.pending]))
  | loggedIn subject hlogs _ => exact absurd hlogs (hneither.2 subject)
  | loggedOut _ _ => exact Session.owned_empty

/-- A login page that does not start a login leaves the session, or adds a token. -/
theorem Session.Owned.refused {Key : Type} {platform : Platform Key}
    {setSearchParams : String → List (String × String) → Option String} {random : LoginRandom}
    {bytes : BitVec 256} {request : Request} {caches : Caches}
    (h : request.session.Owned provider log b)
    (hother : (∃ user, getUser request = some user) ∨ ∃ e caches',
      beginOidcAuthorization platform setSearchParams random
        (resolvePostLoginRedirect request "/me") request caches = .error e caches') :
    ((Visit.login (beginOidc platform setSearchParams random) caches bytes request).next
      request.session).Owned provider log b := by
  let beginOidcAuthorization := beginOidcAuthorization platform setSearchParams random
  have hcookie :
      (Login.loader bytes beginOidcAuthorization request caches).1.setCookie = none ∨
        (Login.loader bytes beginOidcAuthorization request caches).1.setCookie =
          (issueCsrfToken bytes request).setCookie := by
    rcases hother with ⟨user, huser⟩ | ⟨e, caches', herror⟩
    · exact Login.loader_user bytes _ huser caches
    · cases huser : getUser request with
      | some user => exact Login.loader_user bytes _ huser caches
      | none => exact .inl (Login.loader_begin_error huser herror)
  rw [Visit.next_login]
  change (request.session.store (Login.loader bytes beginOidcAuthorization request
    caches).1.setCookie).Owned provider log b
  rcases hcookie with hnone | hissued
  · rw [hnone]
    exact h
  · rw [hissued]
    unfold issueCsrfToken ensureSessionCsrfToken
    cases toSessionNonEmptyString (request.session .csrfToken) with
    | some token => exact h
    | none => exact h.of_keys (.inl (by simp [Session.store])) (.inl (by simp [Session.store]))

/-- A nonce has no white space at its ends. -/
theorem trim_nonce {Key : Type} {platform : Platform Key}
    {setSearchParams : String → List (String × String) → Option String} {random : LoginRandom}
    {redirectTo url : String} {request : Request} {pendingAuth : PendingOidcAuth}
    {caches caches' : Caches}
    (h : beginOidcAuthorization platform setSearchParams random redirectTo request caches =
      .ok (url, pendingAuth) caches') : trim pendingAuth.nonce = pendingAuth.nonce := by
  obtain ⟨-, hnonce, -, -⟩ := beginOidcAuthorization_pending h
  rw [hnonce, trim_encodeBase64Url_self]

/-- A login that starts brings its nonce. -/
theorem Session.Owned.begun {Key : Type} {platform : Platform Key}
    {setSearchParams : String → List (String × String) → Option String} {random : LoginRandom}
    {bytes : BitVec 256} {request : Request} {caches caches' : Caches} {url : String}
    {pendingAuth : PendingOidcAuth} (h : request.session.Owned provider log b)
    (hvisitor : getUser request = none)
    (hbegin : beginOidcAuthorization platform setSearchParams random
      (resolvePostLoginRedirect request "/me") request caches = .ok (url, pendingAuth) caches') :
    ((Visit.login (beginOidc platform setSearchParams random) caches bytes request).next
      request.session).Owned provider (log ++ [.started b pendingAuth.nonce]) b := by
  have hnext : (Visit.login (beginOidc platform setSearchParams random) caches bytes request).next
      request.session = (((request.session.set .oidcState pendingAuth.state).set .oidcNonce
        pendingAuth.nonce).set .oidcCodeVerifier pendingAuth.codeVerifier).set .oidcRedirectTo
          pendingAuth.redirectTo := by
    have hanswer : Login.loader bytes (beginOidc platform setSearchParams random).run request
      caches = _ := Login.loader_begin hvisitor hbegin
    rw [Visit.next_login, hanswer]
    rfl
  rw [hnext]
  refine ⟨fun value hvalue => ?_, fun value hvalue => ?_⟩
  · have hset : some (Json.str pendingAuth.nonce) = some value := by simpa using hvalue
    exact ⟨pendingAuth.nonce, (Option.some.inj hset).symm, trim_nonce hbegin, by simp⟩
  · have hsame : request.session .userId = some value := by simpa using hvalue
    exact (h.mono (List.subset_append_left _ _)).user value hsame

/-- A callback that succeeds brings a user who has authenticated for a login of the browser. -/
theorem Session.Owned.returned {Key : Type} {platform : Platform Key} {request : Request}
    {caches : Caches} (h : request.session.Owned provider log b)
    (hspeaks : provider.Speaks platform) (hpublished : provider.Published caches)
    (hunforgeable : provider.Unforgeable platform (log.filterMap LoginEvent.token?))
    (hchanges : (Visit.callback (completeOidcAuthorization platform) caches request).Changes
      request.session session') : session'.Owned provider log b := by
  cases hchanges with
  | unchanged hv => cases hv
  | token bytes hv _ => cases hv
  | started pendingAuth hstarts => exact hstarts.elim
  | failed _ _ =>
      exact h.of_keys (.inr (by simp [SessionKey.pending])) (.inl (by simp [SessionKey.pending]))
  | loggedOut hv _ => cases hv
  | loggedIn subject hlogs _ =>
      obtain ⟨pendingAuth, code, caches', -, -, -, hpending, -, hrun, -⟩ := hlogs
      obtain ⟨token, htoken, hnames⟩ :=
        exists_token hspeaks hpublished hunforgeable (completeOidcAuthorization_ok hrun)
      have hkept := (getPendingOidcAuth_eq_some.mp hpending).2.1
      obtain ⟨v, hv, htrim, -⟩ := toSessionNonEmptyString_eq_some.mp hkept
      obtain ⟨_, hnonce, hplain, hstarted⟩ := h.nonce _ hv
      cases hnonce
      rw [hplain] at htrim
      rw [← htrim] at hnames
      refine ⟨fun value hvalue => ?_, fun value hvalue => ?_⟩
      · simp [SessionKey.pending] at hvalue
      · have hset : some (Json.str (trim subject)) = some value := by simpa using hvalue
        obtain ⟨e, he, hsigned⟩ := List.mem_filterMap.mp htoken
        cases e with
        | started _ _ => cases hsigned
        | signed _ =>
            cases hsigned
            exact ⟨v, token, subject, (Option.some.inj hset).symm, hstarted, he, hnames⟩

/-! ## What the callback leaves in the caches -/

/-- What only answers an outcome leaves the state of it. -/
theorem attempt_bind_state {ε σ α β : Type} {x : EStateM ε σ α} {f : Except ε α → StateM σ β}
    (hf : ∀ outcome t, (f outcome t).2 = t) (s : σ) :
    ((attempt x >>= f) s).2 = (attempt x s).2 :=
  hf (attempt x s).1 (attempt x s).2

/-- The callback leaves the caches, or it leaves in them what the end of the login does. -/
theorem AuthCallback.loader_state {σ : Type}
    (completeOidc : String → PendingOidcAuth → Request → EStateM Thrown σ String)
    (request : Request) (s : σ) : (AuthCallback.loader completeOidc request s).2 = s ∨
      ∃ code pendingAuth, (AuthCallback.loader completeOidc request s).2 =
        (attempt (completeOidc code pendingAuth request) s).2 := by
  unfold AuthCallback.loader
  dsimp only
  cases (request.searchParam "error").filter (· ≠ "") with
  | some e => exact .inl rfl
  | none =>
      dsimp only
      cases (request.searchParam "code").filter (· ≠ "") with
      | none => exact .inl rfl
      | some code =>
          cases (request.searchParam "state").filter (· ≠ "") with
          | none => exact .inl rfl
          | some state =>
              cases getPendingOidcAuth request with
              | none => exact .inl rfl
              | some pendingAuth =>
                  dsimp only
                  by_cases hne : state ≠ pendingAuth.state
                  · rw [if_pos hne]
                    exact .inl rfl
                  · rw [if_neg hne]
                    refine .inr ⟨code, pendingAuth, attempt_bind_state (fun outcome t => ?_) s⟩
                    cases outcome.bind (createUserSessionCookie request) with
                    | ok setCookie => rfl
                    | error e => cases e <;> rfl

/-! ## Every run -/

namespace LoginWorld

/-- In every run, the caches hold what the provider has published, nonces are fresh, and every
cookie belongs to its browser. -/
structure Sound (provider : IdentityProvider) (w : LoginWorld Browser) : Prop where
  published : provider.Published w.caches
  fresh : Fresh LoginEvent.Mints LoginEvent.Uses w.log
  owned : ∀ b session, (b, session) ∈ w.cookies → session.Owned provider w.log b

theorem Sound.sends {w : LoginWorld Browser} (h : w.Sound provider) (hsends : w.Sends b session) :
    session.Owned provider w.log b := by
  rcases hsends with rfl | hmem
  · exact Session.owned_empty
  · exact h.owned b session hmem

/-- A visit after which the new cookie belongs to the browser. -/
theorem Sound.visit {w : LoginWorld Browser} (h : w.Sound provider) {v : Visit} {caches : Caches}
    {events : List (LoginEvent Browser)} (hpublished : provider.Published caches)
    (hfresh : Fresh LoginEvent.Mints LoginEvent.Uses (w.log ++ events))
    (hnext : (v.next session).Owned provider (w.log ++ events) b) :
    (w.visit b session v caches events).Sound provider := by
  refine ⟨hpublished, hfresh, ?_⟩
  intro b' session' hmem
  rcases List.mem_append.mp hmem with hearlier | hnew
  · exact (h.owned b' session' hearlier).mono (List.subset_append_left _ _)
  · cases List.mem_singleton.mp hnew
    exact hnext

/-- A visit that has nothing to do with a nonce. -/
theorem Sound.visit_quiet {w : LoginWorld Browser} (h : w.Sound provider) {v : Visit}
    {caches : Caches} (hpublished : provider.Published caches)
    (hnext : (v.next session).Owned provider w.log b) :
    (w.visit b session v caches []).Sound provider := by
  refine h.visit hpublished ?_ ?_
  · rw [List.append_nil]
    exact h.fresh
  · rw [List.append_nil]
    exact hnext

theorem Sound.step {w w' : LoginWorld Browser} (h : w.Sound provider) (hstep : Step provider w w') :
    w'.Sound provider := by
  cases hstep with
  | begins setSearchParams random bytes hsends hspeaks hvisitor hbegin hfresh =>
      have hkeeps := keeps_beginOidcAuthorization_published hspeaks setSearchParams random
      refine h.visit ((hkeeps _ _).of_ok h.published hbegin) (h.fresh.append ?_)
        ((h.sends hsends).begun hvisitor hbegin)
      rintro nonce ⟨b', hminted⟩ e he
      cases hminted
      exact hfresh e he
  | refuses setSearchParams random bytes hsends hspeaks hother =>
      have hkeeps := keeps_beginOidcAuthorization_published hspeaks setSearchParams random
      refine h.visit_quiet ?_ ((h.sends hsends).refused
        (hother.imp And.left fun ⟨e, herror⟩ => ⟨e, _, herror⟩))
      rcases hother with ⟨-, rfl⟩ | ⟨e, herror⟩
      · exact h.published
      · exact (hkeeps _ _).of_error h.published herror
  | callback hsends hspeaks hunforgeable =>
      refine h.visit_quiet ?_ ((h.sends hsends).returned hspeaks h.published hunforgeable
        (Visit.changes _ _))
      rcases AuthCallback.loader_state (completeOidcAuthorization _) _ w.caches with
        hsame | ⟨code, pendingAuth, hrun⟩
      · rw [hsame]
        exact h.published
      · rw [hrun]
        exact (keeps_completeOidcAuthorization_published hspeaks _ _ _).attempt h.published
  | other hsends hv =>
      exact h.visit_quiet h.published ((h.sends hsends).other hv (Visit.changes _ _))
  | signs token =>
      refine ⟨h.published, h.fresh.append ?_, ?_⟩
      · rintro nonce ⟨b', hminted⟩
        cases hminted
      · intro b' session' hmem
        exact (h.owned b' session' hmem).mono (List.subset_append_left _ _)
  | restarts => exact ⟨provider.published_noCaches, h.fresh, h.owned⟩

theorem Steps.sound {w : LoginWorld Browser} (hw : Steps provider start w) : w.Sound provider := by
  induction hw with
  | refl => exact ⟨provider.published_noCaches, .nil, fun _ _ h => (nomatch h)⟩
  | tail _ hstep ih => exact ih.step hstep

end LoginWorld

/-- The user that the site takes a request of a browser for has authenticated at the provider,
after the site has sent this browser there, and in answer to the authorization request that it sent
it with: the nonce was made for this browser and for no other. -/
theorem login_agreement {w : LoginWorld Browser} (hw : LoginWorld.Steps provider LoginWorld.start w)
    {b : Browser} {request : Request} (hsends : w.Sends b request.session) {user : SessionUser}
    (huser : getUser request = some user) :
    ∃ nonce token subject before between after,
      w.log = before ++ .started b nonce :: (between ++ .signed token :: after) ∧
      token.Names provider nonce subject ∧ trim subject = user.userId ∧
      ∀ b', .started b' nonce ∈ w.log → b' = b := by
  have hsound := hw.sound
  obtain ⟨v, hv, htrim, -⟩ := toSessionNonEmptyString_eq_some.mp (getUser_eq_some.mp huser)
  obtain ⟨nonce, token, subject, hsubject, hstarted, hsigned, hnames⟩ :=
    (hsound.sends hsends).user _ hv
  cases hsubject
  rw [trim_trim] at htrim
  have hmints : LoginEvent.Mints (.started b nonce) nonce := ⟨b, rfl⟩
  obtain ⟨before, between, after, hlog⟩ := hsound.fresh.minted_before hstarted hsigned hmints
    (.inr ⟨token, rfl, hnames.nonce⟩) (by simp)
  refine ⟨nonce, token, subject, before, between, after, hlog, hnames, htrim, ?_⟩
  intro b' hstarted'
  have hsame := hsound.fresh.unique (fun _ _ => .inl) hstarted' hstarted ⟨b', rfl⟩ hmints
  cases hsame
  rfl

/-! ### Alice logs in -/

/-- One browser starts a login. -/
def begunWorld : LoginWorld Unit :=
  LoginWorld.start.visit () loginRequest.session
    (.login (beginOidc grantingPlatform (fun url _ => some url) zeroRandom) noCaches 0 loginRequest)
    (Login.loader 0 (beginOidcAuthorization grantingPlatform (fun url _ => some url) zeroRandom)
      loginRequest noCaches).2
    [.started () (pendingLogin zeroRandom (resolvePostLoginRedirect loginRequest "/me")).nonce]

/-- The site is restarted, and the provider signs a token. -/
def signedWorld : LoginWorld Unit :=
  ⟨begunWorld.cookies, noCaches, begunWorld.log ++ [.signed grantedToken]⟩

/-- The browser comes back. -/
def aliceWorld : LoginWorld Unit :=
  signedWorld.visit () grantedCallback.session
    (.callback (completeOidcAuthorization grantingPlatform) noCaches grantedCallback)
    (AuthCallback.loader (completeOidcAuthorization grantingPlatform) grantedCallback noCaches).2 []

theorem grantedCallback_session :
    (Visit.login (beginOidc grantingPlatform (fun url _ => some url) zeroRandom) noCaches 0
      loginRequest).next loginRequest.session = grantedCallback.session := by
  rw [Visit.next_login]
  dsimp only [grantedCallback, beginOidc]

theorem aliceRequest_session :
    (Visit.callback (completeOidcAuthorization grantingPlatform) noCaches grantedCallback).next
      grantedCallback.session = aliceRequest.session := by
  rw [Visit.next_callback]
  dsimp only [aliceRequest]

theorem aliceRequest_user : getUser aliceRequest = some ⟨trim "alice"⟩ := by
  have hcookie : aliceRequest.session = aliceSession := by
    dsimp only [aliceRequest]
    rw [grantedCallback_answer]
    rfl
  exact getUser_loggedIn hcookie issues_grantedIdToken.trim_subject

theorem unforgeable_grantedToken : sampleProvider.Unforgeable grantingPlatform [grantedToken] := by
  refine ⟨?_, ?_⟩
  · intro keys jwk algorithm key signature text _ _ _ hverify
    have hbytes : utf8Bytes text = signedBytes headerSegment grantedSegment :=
      of_decide_eq_true (Option.some.inj hverify)
    exact ⟨grantedToken, List.mem_singleton.mpr rfl, utf8Bytes_injective hbytes⟩
  · rintro token htoken claims ⟨bytes, hbytes, hparsed⟩
    cases List.mem_singleton.mp htoken
    obtain ⟨bytes', hbytes', hparsed'⟩ := decodes_grantedSegment
    cases hbytes'.symm.trans hbytes
    exact Option.some.inj (hparsed.symm.trans hparsed')

theorem aliceWorld_reached : LoginWorld.Steps sampleProvider LoginWorld.start aliceWorld := by
  obtain ⟨url, t, -, hbegin, -⟩ := beginOidcAuthorization_answers answers_sampleProvider
    sampleProvider.published_noCaches (fun url _ => some url) (fun _ => rfl) zeroRandom
    (resolvePostLoginRedirect loginRequest "/me") loginRequest
  have hcaches : (Login.loader 0 (beginOidcAuthorization grantingPlatform
      (fun url _ => some url) zeroRandom) loginRequest noCaches).2 = t :=
    congrArg Prod.snd (Login.loader_begin rfl hbegin)
  have hbegun : LoginWorld.Step sampleProvider LoginWorld.start begunWorld := by
    unfold begunWorld
    rw [hcaches]
    exact .begins _ zeroRandom 0 (.inl rfl) speaks_sampleProvider rfl hbegin
      fun _ h => (nomatch h)
  have hsigned : LoginWorld.Step sampleProvider { begunWorld with caches := noCaches }
      signedWorld :=
    .signs grantedToken
  have hcookie : ((), grantedCallback.session) ∈ signedWorld.cookies := by
    rw [← grantedCallback_session]
    exact LoginWorld.start.mem_visit
  have hback : LoginWorld.Step sampleProvider signedWorld aliceWorld :=
    .callback (.inr hcookie) speaks_sampleProvider unforgeable_grantedToken
  exact .tail (.tail (.tail (.single hbegun) .restarts) hsigned) hback

/-- Alice has authenticated for the login of her browser. -/
theorem login_agreement_alice :
    ∃ nonce token subject before between after,
      aliceWorld.log = before ++ .started () nonce :: (between ++ .signed token :: after) ∧
      token.Names sampleProvider nonce subject ∧ trim subject = trim "alice" ∧
      ∀ b' : Unit, .started b' nonce ∈ aliceWorld.log → b' = () := by
  have hcookie : ((), aliceRequest.session) ∈ aliceWorld.cookies := by
    rw [← aliceRequest_session]
    exact signedWorld.mem_visit
  exact login_agreement aliceWorld_reached (.inr hcookie) aliceRequest_user

end Client

end HistoryQuiz
