import HistoryQuiz.Client.Login
import HistoryQuiz.Client.Quiz

/-!
# What a visit does to the session

A browser visits one page after the other and keeps the cookie of each answer before it
sends the next request. `Visit.changes` says all that one visit can do to the session,
with the conditions under which it does so.
-/

namespace HistoryQuiz

namespace Client

open Js Throw

/-! ## Callbacks that succeed -/

/-- A callback that succeeds: the login that is under way has the state of the request,
and `completeOidcAuthorization` returns the subject. -/
inductive AuthCallback.Succeeds {σ : Type}
    (completeOidc : String → PendingOidcAuth → Request → EStateM Thrown σ String)
    (request : Request) (s : σ) (subject : String) : Prop
  | intro (pendingAuth : PendingOidcAuth) (code : String) (s' : σ)
      (herror : (request.searchParam "error").getD "" = "")
      (hcode : request.searchParam "code" = some code) (hnonempty : code ≠ "")
      (hpending : getPendingOidcAuth request = some pendingAuth)
      (hstate : request.searchParam "state" = some pendingAuth.state)
      (hrun : completeOidc code pendingAuth request s = .ok subject s')
      (hsubject : trim subject ≠ "")

/-! ## Visits -/

/-- A `beginOidcAuthorization`: what it hands back is not blank, and it hands `redirectTo`
back as it is. -/
structure BeginOidcAuthorization (σ : Type) where
  run : String → Request → EStateM Thrown σ (String × PendingOidcAuth)
  returns : ∀ {redirectTo request s url pendingAuth s'},
    run redirectTo request s = .ok (url, pendingAuth) s' →
      trim pendingAuth.state ≠ "" ∧ trim pendingAuth.nonce ≠ "" ∧
        trim pendingAuth.codeVerifier ≠ "" ∧ pendingAuth.redirectTo = redirectTo

/-- A request to one of the routes that touch the session, with what happens outside
while it is served. The session of the request is that of the browser. -/
inductive Visit where
  | login {σ : Type} (beginOidc : BeginOidcAuthorization σ) (s : σ) (bytes : BitVec 256)
      (request : Request)
  | callback {σ : Type}
      (completeOidc : String → PendingOidcAuth → Request → EStateM Thrown σ String) (s : σ)
      (request : Request)
  | quiz {σ : Type} (outside : Outside σ) (s : σ) (random : RandomValues) (request : Request)
  | questionsNew (random : RandomValues) (request : Request)
  | questionsEdit {σ : Type} (outside : Outside σ) (s : σ) (random : RandomValues)
      (id : Option String) (request : Request)
  | logout (fresh : String) (request : Request)

/-- What the browser sees of a response. -/
structure Answer where
  status : ℕ
  location : Option String
  setCookie : Option SetCookie

def Response.answer {Data : Type} (r : Response Data) : Answer where
  status := r.status
  location := r.location
  setCookie := r.setCookie

/-- Remix answers an error that leaves a route with the status 500. -/
def Raised.answer : Raised → Answer
  | .response r => r.answer
  | .thrown _ => ⟨500, none, none⟩

def answerOf {Data : Type} : Except Raised (Response Data) → Answer
  | .ok r => r.answer
  | .error e => e.answer

namespace Visit

/-- The answer to a visit of a browser that holds `session`. -/
def answer (session : Session) : Visit → Answer
  | login beginOidc s bytes request =>
      (Login.loader bytes beginOidc.run { request with session } s).1.answer
  | callback completeOidc s request =>
      (AuthCallback.loader completeOidc { request with session } s).1.answer
  | quiz outside s random request =>
      answerOf (attempt (Quiz.loader outside random { request with session }) s).1
  | questionsNew random request =>
      answerOf (QuestionsNew.loader random { request with session })
  | questionsEdit outside s random id request =>
      answerOf (attempt (QuestionsEdit.loader outside random id { request with session }) s).1
  | logout fresh request => answerOf (Login.action fresh { request with session })

/-- The session after a visit. -/
def next (session : Session) (v : Visit) : Session := session.store (v.answer session).setCookie

def isCallback : Visit → Bool
  | callback _ _ _ => true
  | _ => false

/-- A logout that is carried out. -/
def LogsOut (session : Session) (v : Visit) : Prop :=
  (v.answer session).setCookie = some .destroySession

/-- A visit that starts a login: what is kept of it. -/
def Starts (session : Session) (pendingAuth : PendingOidcAuth) : Visit → Prop
  | login beginOidc s _ request =>
      ∃ url s', beginOidc.run (resolvePostLoginRedirect request "/me") { request with session } s =
        .ok (url, pendingAuth) s'
  | _ => False

/-- A visit that completes a login of `subject`. -/
def LogsIn (session : Session) (subject : String) : Visit → Prop
  | callback completeOidc s request =>
      AuthCallback.Succeeds completeOidc { request with session } s subject
  | _ => False

/-- All that a visit can do to a session. -/
inductive Changes (session : Session) (v : Visit) : Session → Prop
  /-- The session stays, as it does on any route but the callback. -/
  | unchanged (h : v.isCallback = false) : Changes session v session
  /-- A token is issued to a session that has none. -/
  | token (bytes : BitVec 256) (h : v.isCallback = false)
      (hnone : toSessionNonEmptyString (session .csrfToken) = none) :
      Changes session v (session.set .csrfToken (generateCsrfToken bytes))
  | started (pendingAuth : PendingOidcAuth) (hstarts : Starts session pendingAuth v) :
      Changes session v ((((session.set .oidcState pendingAuth.state).set .oidcNonce
        pendingAuth.nonce).set .oidcCodeVerifier pendingAuth.codeVerifier).set .oidcRedirectTo
          pendingAuth.redirectTo)
  /-- A callback that fails. -/
  | failed (h : v.isCallback = true) (hlocation : (v.answer session).location = none) :
      Changes session v (clearPendingOidcAuthOnSession session)
  /-- A callback that succeeds. -/
  | loggedIn (subject : String) (h : LogsIn session subject v)
      (hlocation : (v.answer session).location.isSome) :
      Changes session v ((clearPendingOidcAuthOnSession session).set .userId (trim subject))
  | loggedOut (hv : v.isCallback = false) (h : v.LogsOut session) : Changes session v .empty

end Visit

/-! ## The routes -/

variable {σ : Type}

/-- The answer to a logged in user: without a cookie, or with that of an issued token. -/
theorem Login.loader_user (bytes : BitVec 256)
    (beginOidc : String → Request → EStateM Thrown σ (String × PendingOidcAuth))
    {request : Request} {user : SessionUser} (huser : getUser request = some user) (s : σ) :
    (Login.loader bytes beginOidc request s).1.setCookie = none ∨
      (Login.loader bytes beginOidc request s).1.setCookie =
        (issueCsrfToken bytes request).setCookie := by
  unfold Login.loader
  rw [huser]
  by_cases h : sanitizeRedirectTo (request.searchParam "redirectTo") "" ≠ ""
  · left
    dsimp only
    rw [if_pos h]
    rfl
  · right
    dsimp only
    rw [if_neg h]
    rfl

/-- A login that starts is kept in the cookie. -/
theorem Login.loader_begin {bytes : BitVec 256}
    {beginOidc : String → Request → EStateM Thrown σ (String × PendingOidcAuth)}
    {request : Request} (huser : getUser request = none) {s s' : σ} {url : String}
    {pendingAuth : PendingOidcAuth}
    (hbegin : beginOidc (resolvePostLoginRedirect request "/me") request s =
      .ok (url, pendingAuth) s') :
    Login.loader bytes beginOidc request s =
      (redirect url (some (createPendingOidcAuthCookie pendingAuth request)) none, s') := by
  unfold Login.loader
  rw [huser]
  exact attempt_bind_ok hbegin _

/-- A login that does not start leaves the cookie. -/
theorem Login.loader_begin_error {bytes : BitVec 256}
    {beginOidc : String → Request → EStateM Thrown σ (String × PendingOidcAuth)}
    {request : Request} (huser : getUser request = none) {s s' : σ} {e : Thrown}
    (hbegin : beginOidc (resolvePostLoginRedirect request "/me") request s = .error e s') :
    (Login.loader bytes beginOidc request s).1.setCookie = none := by
  unfold Login.loader
  rw [huser]
  dsimp only
  rw [attempt_bind_error hbegin]
  cases e <;> rfl

theorem filter_eq_none {value : Option String} (h : value.filter (· ≠ "") = none) :
    value.getD "" = "" := by
  rw [Option.filter_eq_none_iff] at h
  cases value with
  | none => rfl
  | some value => simpa using h value rfl

/-- A callback succeeds, or it is an error that only removes the pending login. -/
theorem AuthCallback.loader_cases
    (completeOidc : String → PendingOidcAuth → Request → EStateM Thrown σ String)
    (request : Request) (s : σ) :
    (∃ subject url, Succeeds completeOidc request s subject ∧
      (loader completeOidc request s).1 = redirect url
        (some (.commitSession ((clearPendingOidcAuthOnSession request.session).set .userId
          (trim subject)))) none) ∨
    ∃ message url status, (loader completeOidc request s).1 =
      createErrorResponse message request url status := by
  unfold loader
  dsimp only
  cases herror : (request.searchParam "error").filter (· ≠ "") with
  | some e => exact .inr ⟨_, _, _, rfl⟩
  | none =>
      dsimp only
      cases hcode : (request.searchParam "code").filter (· ≠ "") with
      | none => exact .inr ⟨_, _, _, rfl⟩
      | some code =>
          cases hstate : (request.searchParam "state").filter (· ≠ "") with
          | none => exact .inr ⟨_, _, _, rfl⟩
          | some state =>
              cases hpending : getPendingOidcAuth request with
              | none => exact .inr ⟨_, _, _, rfl⟩
              | some pendingAuth =>
                  dsimp only
                  by_cases hne : state ≠ pendingAuth.state
                  · rw [if_pos hne]
                    exact .inr ⟨_, _, _, rfl⟩
                  · rw [if_neg hne]
                    cases hrun : completeOidc code pendingAuth request s with
                    | error e s' =>
                        rw [attempt_bind_error hrun]
                        cases e <;> exact .inr ⟨_, _, _, rfl⟩
                    | ok subject s' =>
                        rw [attempt_bind_ok hrun, Except.bind]
                        cases hcookie : createUserSessionCookie request subject with
                        | error e => cases e <;> exact .inr ⟨_, _, _, rfl⟩
                        | ok cookie =>
                            obtain ⟨hsubject, rfl⟩ := createUserSessionCookie_eq_ok.mp hcookie
                            rw [Option.filter_eq_some_iff] at hcode hstate
                            rw [not_not.mp hne] at hstate
                            refine .inl ⟨subject, _, ?_, rfl⟩
                            exact .intro pendingAuth code s' (filter_eq_none herror) hcode.1
                              (of_decide_eq_true hcode.2) hpending hstate.1 hrun hsubject

theorem filter_of_getD {value : Option String} (h : value.getD "" = "") :
    value.filter (· ≠ "") = none := by
  cases value with
  | none => rfl
  | some value =>
      rw [Option.getD_some] at h
      simp [h]

/-- A callback that succeeds redirects to where the pending login says, with the user in the
cookie. -/
theorem AuthCallback.loader_succeeds
    {completeOidc : String → PendingOidcAuth → Request → EStateM Thrown σ String}
    {request : Request} {s : σ} {subject : String} (h : Succeeds completeOidc request s subject) :
    ∃ pendingAuth, getPendingOidcAuth request = some pendingAuth ∧
      (loader completeOidc request s).1 =
        redirect (sanitizeRedirectTo (some pendingAuth.redirectTo) "/me")
          (some (.commitSession ((clearPendingOidcAuthOnSession request.session).set .userId
            (trim subject)))) none := by
  obtain ⟨pendingAuth, code, s', herror, hcode, hnonempty, hpending, hstate, hrun, hsubject⟩ := h
  refine ⟨pendingAuth, hpending, ?_⟩
  have hstored := toSessionNonEmptyString_eq_some.mp (getPendingOidcAuth_eq_some.mp hpending).1
  obtain ⟨-, -, -, hne⟩ := hstored
  have hcookie : createUserSessionCookie request subject = _ :=
    createUserSessionCookie_eq_ok.mpr ⟨hsubject, rfl⟩
  unfold loader
  dsimp only
  rw [filter_of_getD herror, hcode, hstate, hpending]
  simp only [Option.filter_some, hnonempty, hne, ne_eq, not_false_eq_true, decide_true, if_true]
  rw [if_neg (by simp), attempt_bind_ok hrun, Except.bind, hcookie]
  rfl

/-- Logout removes the cookie, or it leaves it. -/
theorem Login.action_setCookie (fresh : String) (request : Request) :
    (answerOf (Login.action fresh request)).setCookie = none ∨
      (answerOf (Login.action fresh request)).setCookie = some .destroySession := by
  unfold Login.action
  cases request.formData with
  | none => exact .inl rfl
  | some formData =>
      dsimp only
      cases hverify : verifyCsrfToken fresh formData request none with
      | error e =>
          rw [verifyCsrfToken_error hverify]
          exact .inl rfl
      | ok requestId =>
          dsimp only
          split_ifs
          · exact .inl rfl
          · exact .inr rfl

/-! ### Pages -/

/-- The cookie of a page: none, or that of an issued token. -/
def PageCookie (random : RandomValues) (request : Request) (a : Answer) : Prop :=
  a.setCookie = none ∨ a.setCookie = (issueCsrfToken random.csrfBytes request).setCookie

/-- A refusal for a visitor that is not logged in sets no cookie. -/
theorem requireAuthenticatedUser_error {request : Request} {e : Raised}
    (h : requireAuthenticatedUser request = .error e) : e.answer.setCookie = none := by
  obtain ⟨-, rfl⟩ := requireAuthenticatedUser_eq_error.mp h
  rfl

theorem resolveRequiredQuestionId_error {id : Option String} {e : Raised}
    (h : QuestionsEdit.resolveRequiredQuestionId id = .error e) : e.answer.setCookie = none := by
  unfold QuestionsEdit.resolveRequiredQuestionId at h
  dsimp only at h
  split_ifs at h
  cases h
  rfl

/-- A page carries the token that was issued for it, and its cookie; an error sets no
cookie. -/
def Shows {Data : Type} (token : Data → String) (random : RandomValues) (request : Request) :
    Except Raised (Response Data) → Prop
  | .ok r => r.data.map token = some (issueCsrfToken random.csrfBytes request).csrfToken ∧
      r.setCookie = (issueCsrfToken random.csrfBytes request).setCookie
  | .error e => e.answer.setCookie = none

theorem Shows.cookie {Data : Type} {token : Data → String} {random : RandomValues}
    {request : Request} {r : Except Raised (Response Data)} (h : Shows token random request r) :
    PageCookie random request (answerOf r) := by
  cases r with
  | ok r => exact .inr h.2
  | error e => exact .inl h

theorem shows_attempt {Data : Type} {token : Data → String} {random : RandomValues}
    {request : Request} {x : EStateM Raised σ (Response Data)} {s : σ}
    (h : Ends x s (fun r _ => Shows token random request (.ok r))
      fun e _ => Shows token random request (.error e)) :
    Shows token random request (attempt x s).1 := by
  unfold Ends at h
  unfold attempt
  cases hx : x s <;> rw [hx] at h <;> exact h

theorem QuestionsNew.loader_shows (random : RandomValues) (request : Request) :
    Shows id random request (QuestionsNew.loader random request) := by
  unfold QuestionsNew.loader
  cases huser : requireAuthenticatedUser request with
  | error e => exact requireAuthenticatedUser_error huser
  | ok user => exact ⟨rfl, rfl⟩

theorem Quiz.loader_shows (outside : Outside σ) (random : RandomValues) (request : Request)
    (s : σ) : Shows LoaderData.csrfToken random request
      (attempt (Quiz.loader outside random request) s).1 := by
  apply shows_attempt
  unfold Quiz.loader
  apply ends_bind
  apply ends_catching
  apply ends_bind
  refine .of_forall (fun result s' => ?_) fun e s' => ?_
  · cases (Quiz.questionOf result.response).filter fun question => question.id ≠ "" with
    | none => exact ends_throw (ends_throw rfl)
    | some question => exact ends_pure (ends_pure ⟨rfl, rfl⟩)
  · exact ends_throw rfl

theorem QuestionsEdit.loader_shows (outside : Outside σ) (random : RandomValues)
    (id : Option String) (request : Request) (s : σ) :
    Shows LoaderData.csrfToken random request
      (attempt (QuestionsEdit.loader outside random id request) s).1 := by
  apply shows_attempt
  unfold QuestionsEdit.loader
  apply ends_bind
  refine ends_ofExcept (fun user huser => ?_) fun e he => requireAuthenticatedUser_error he
  apply ends_bind
  refine ends_ofExcept (fun questionId hid => ?_) fun e he => resolveRequiredQuestionId_error he
  apply ends_bind
  apply ends_catching
  apply ends_bind
  refine .of_forall (fun result s' => ?_) fun e s' => ?_
  · cases (questionOf result.response).filter fun question => question.id ≠ "" with
    | none => exact ends_throw (ends_throw rfl)
    | some question =>
        apply ends_bind
        refine ends_ofExcept (fun initialValues h => ?_) fun e he => ?_
        · exact ends_pure (ends_pure ⟨rfl, rfl⟩)
        · exact ends_throw rfl
  · exact ends_throw rfl

/-! ## Each visit -/

variable {session : Session} {v : Visit}

/-- An answer without a cookie. -/
theorem Visit.Changes.of_none (hv : v.isCallback = false)
    (h : (v.answer session).setCookie = none) : v.Changes session (v.next session) := by
  unfold Visit.next
  rw [h]
  exact .unchanged hv

/-- An answer with the cookie of `issueCsrfToken`. -/
theorem Visit.Changes.of_issued (hv : v.isCallback = false) (bytes : BitVec 256)
    (request : Request)
    (h : (v.answer session).setCookie =
      (issueCsrfToken bytes { request with session }).setCookie) :
    v.Changes session (v.next session) := by
  unfold Visit.next
  rw [h]
  unfold issueCsrfToken ensureSessionCsrfToken
  cases htoken : toSessionNonEmptyString (session .csrfToken) with
  | some token =>
      exact .unchanged hv
  | none =>
      exact .token bytes hv htoken

/-- The login page: it starts a login, or it issues a token to the user. -/
theorem login_changes (beginOidc : BeginOidcAuthorization σ) (s : σ) (bytes : BitVec 256)
    (request : Request) :
    (Visit.login beginOidc s bytes request).Changes session
      ((Visit.login beginOidc s bytes request).next session) := by
  cases huser : getUser { request with session } with
  | some user =>
      rcases Login.loader_user bytes beginOidc.run huser s with h | h
      · exact .of_none rfl h
      · exact .of_issued rfl bytes request h
  | none =>
      cases hbegin : beginOidc.run (resolvePostLoginRedirect request "/me")
          { request with session } s with
      | ok started s' =>
          obtain ⟨url, pendingAuth⟩ := started
          have hcookie : ((Visit.login beginOidc s bytes request).answer session).setCookie =
              some (createPendingOidcAuthCookie pendingAuth { request with session }) :=
            congrArg (fun r => r.1.setCookie) (Login.loader_begin huser hbegin)
          unfold Visit.next
          rw [hcookie]
          exact .started pendingAuth ⟨url, s', hbegin⟩
      | error e s' => exact .of_none rfl (Login.loader_begin_error huser hbegin)

/-- The callback: it completes a login, or it only ends the one that is under way. -/
theorem callback_changes
    (completeOidc : String → PendingOidcAuth → Request → EStateM Thrown σ String) (s : σ)
    (request : Request) :
    (Visit.callback completeOidc s request).Changes session
      ((Visit.callback completeOidc s request).next session) := by
  rcases AuthCallback.loader_cases completeOidc { request with session } s with
    ⟨subject, url, hsucceeds, hresponse⟩ | ⟨message, url, status, hresponse⟩
  · have hanswer : (Visit.callback completeOidc s request).answer session =
        ⟨302, some url, some (.commitSession
          ((clearPendingOidcAuthOnSession session).set .userId (trim subject)))⟩ :=
      congrArg Response.answer hresponse
    unfold Visit.next
    rw [hanswer]
    refine .loggedIn subject hsucceeds ?_
    rw [hanswer]
    rfl
  · have hanswer : (Visit.callback completeOidc s request).answer session =
        ⟨status, none, some (.commitSession (clearPendingOidcAuthOnSession session))⟩ :=
      congrArg Response.answer hresponse
    unfold Visit.next
    rw [hanswer]
    refine .failed rfl ?_
    rw [hanswer]

theorem logout_changes (fresh : String) (request : Request) :
    (Visit.logout fresh request).Changes session ((Visit.logout fresh request).next session) := by
  rcases Login.action_setCookie fresh { request with session } with h | h
  · exact .of_none rfl h
  · have hcookie : ((Visit.logout fresh request).answer session).setCookie =
        some .destroySession := h
    unfold Visit.next
    rw [hcookie]
    exact .loggedOut rfl hcookie

/-- A page with its cookie. -/
theorem Visit.Changes.of_page (hv : v.isCallback = false) (random : RandomValues)
    (request : Request)
    (h : PageCookie random { request with session } (v.answer session)) :
    v.Changes session (v.next session) := by
  rcases h with h | h
  · exact .of_none hv h
  · exact .of_issued hv random.csrfBytes request h

/-- What a visit does to the session. -/
theorem Visit.changes (session : Session) (v : Visit) : v.Changes session (v.next session) := by
  cases v with
  | login beginOidc s bytes request => exact login_changes beginOidc s bytes request
  | callback completeOidc s request => exact callback_changes completeOidc s request
  | quiz outside s random request =>
      exact .of_page rfl random request (Quiz.loader_shows outside random _ s).cookie
  | questionsNew random request =>
      exact .of_page rfl random request (QuestionsNew.loader_shows random _).cookie
  | questionsEdit outside s random id request =>
      exact .of_page rfl random request (QuestionsEdit.loader_shows outside random id _ s).cookie
  | logout fresh request => exact logout_changes fresh request

/-- A callback that succeeds stores the subject. -/
theorem Visit.LogsIn.userId {subject : String} (h : v.LogsIn session subject) :
    v.next session .userId = some (.str (trim subject)) := by
  cases v with
  | callback completeOidc s request =>
      obtain ⟨pendingAuth, -, hresponse⟩ := AuthCallback.loader_succeeds h
      show session.store
        (AuthCallback.loader completeOidc { request with session } s).1.setCookie .userId = _
      rw [hresponse]
      show (clearPendingOidcAuthOnSession session).set .userId (trim subject) .userId = _
      rw [Session.set_apply, if_pos rfl]
  | _ => exact h.elim

/-- A logout that is carried out leaves nothing. -/
theorem Visit.LogsOut.next (h : v.LogsOut session) : v.next session = .empty := by
  unfold Visit.LogsOut at h
  unfold Visit.next
  rw [h]
  rfl

/-! ## Runs -/

/-- The session after visits one after the other. -/
def browse (session : Session) (visits : List Visit) : Session := visits.foldl Visit.next session

@[simp] theorem browse_nil (session : Session) : browse session [] = session := rfl

@[simp] theorem browse_append_singleton (session : Session) (visits : List Visit) (v : Visit) :
    browse session (visits ++ [v]) = v.next (browse session visits) := by
  unfold browse
  rw [List.foldl_append]
  rfl

theorem browse_append_cons (session : Session) (earlier : List Visit) (v : Visit)
    (later : List Visit) : browse session (earlier ++ v :: later) =
      browse (v.next (browse session earlier)) later := by
  unfold browse
  rw [List.foldl_append]
  rfl

/-- What every change preserves holds after every run. -/
theorem browse_invariant {I : Session → Prop}
    (hchanges : ∀ {session session' : Session} {v : Visit}, I session →
      v.Changes session session' → I session') {session : Session} (h : I session)
    (visits : List Visit) : I (browse session visits) := by
  induction visits using List.reverseRecOn with
  | nil => exact h
  | append_singleton visits v ih =>
      rw [browse_append_singleton]
      exact hchanges ih (v.changes _)

/-- At some visit of a run, `P` holds of the session and the visit. -/
def Happens (P : Session → Visit → Prop) (session : Session) (visits : List Visit) : Prop :=
  ∃ earlier v later, visits = earlier ++ v :: later ∧ P (browse session earlier) v

theorem happens_append {P : Session → Visit → Prop} {session : Session} {visits : List Visit}
    (v : Visit) (h : Happens P session visits) : Happens P session (visits ++ [v]) := by
  obtain ⟨earlier, w, later, rfl, hP⟩ := h
  exact ⟨earlier, w, later ++ [v], by simp, hP⟩

theorem happens_last {P : Session → Visit → Prop} {session : Session} {visits : List Visit}
    {v : Visit} (h : P (browse session visits) v) : Happens P session (visits ++ [v]) :=
  ⟨visits, v, [], rfl, h⟩

end Client

end HistoryQuiz
