import HistoryQuiz.Base.CopyBack
import HistoryQuiz.Theorems.Sessions

/-!
# A browser with several tabs

The session is a value that is copied and written back: a request carries the cookie that
the browser holds when it is sent, and an answer that sets the cookie replaces it when it
arrives. The requests here are the pages that issue a token, and callbacks.
-/

namespace HistoryQuiz

namespace Client

open Js Throw

/-! ## Pages and callbacks -/

/-- The token of a page, if it is rendered. -/
def tokenOf {Data : Type} (token : Data → String) : Except Raised (Response Data) → Option String
  | .ok r => r.data.map token
  | .error _ => none

namespace Visit

/-- A page that issues a token. -/
def isPage : Visit → Bool
  | quiz _ _ _ _ => true
  | questionsNew _ _ => true
  | questionsEdit _ _ _ _ _ => true
  | _ => false

/-- The token that a page carries, if it is rendered for a browser that sent `session`. -/
def csrfToken (session : Session) : Visit → Option String
  | quiz outside s random request =>
      tokenOf Quiz.LoaderData.csrfToken
        (attempt (Quiz.loader outside random { request with session }) s).1
  | questionsNew random request =>
      tokenOf id (QuestionsNew.loader random { request with session })
  | questionsEdit outside s random id request =>
      tokenOf QuestionsEdit.LoaderData.csrfToken
        (attempt (QuestionsEdit.loader outside random id { request with session }) s).1
  | _ => none

/-- What the answer replaces the session by, if it sets the cookie. -/
def write (v : Visit) (session : Session) : Option Session :=
  (v.answer session).setCookie.map fun cookie => session.store (some cookie)

end Visit

/-- A form with `token` is accepted when it is posted with `session`. -/
def Session.Accepts (session : Session) (token : String) : Prop :=
  ∀ (fresh : String) (request : Request) (formData : FormData) (requestId : Option String),
    formData.get CSRF_TOKEN_FIELD_NAME = some (.text token) →
      verifyCsrfToken fresh formData { request with session } requestId =
        .ok (requestId.getD fresh)

/-- The token of the session, as it is used. -/
def Session.usableToken (session : Session) : Option String :=
  toSessionNonEmptyString (session .csrfToken)

theorem Session.accepts_of_usable {session : Session} {token : String}
    (h : session.usableToken = some token) : session.Accepts token := by
  intro fresh request formData requestId hposted
  obtain ⟨v, hv, htrim, hne⟩ := toSessionNonEmptyString_eq_some.mp h
  have hsame : trim token = token := by rw [← htrim, trim_trim]
  have hsession : getSessionCsrfToken { request with session } = some token := h
  have hform : toOptionalTrimmedToken (some (.text token)) = some token := by
    show (if trim token ≠ "" then some (trim token) else none) = some token
    rw [hsame, if_pos hne]
  unfold verifyCsrfToken
  rw [hsession, hposted, hform]
  simp [safeTokenEquals]

/-! ## What they write -/

/-- A request that is served at once leaves the session of its visit. -/
theorem serve_write {ι : Type} (visits : ι → Visit) (session : Session) (i : ι) :
    CopyBack.serve (fun i => (visits i).write) session i = (visits i).next session := by
  show ((visits i).write session).getD session = _
  unfold Visit.write Visit.next
  cases ((visits i).answer session).setCookie <;> rfl

/-- Requests that are served one after the other are visits one after the other. -/
theorem serial_write {ι : Type} (visits : ι → Visit) (session : Session) (order : List ι) :
    CopyBack.serial (fun i => (visits i).write) session order =
      browse session (order.map visits) := by
  induction order using List.reverseRecOn with
  | nil => rfl
  | append_singleton order i ih =>
      rw [CopyBack.serial_append_singleton, ih, serve_write, List.map_append]
      exact (browse_append_singleton session (order.map visits) (visits i)).symm

theorem Visit.next_eq_write {v : Visit} {session session' : Session}
    (h : v.write session = some session') : v.next session = session' := by
  unfold Visit.write at h
  unfold Visit.next
  obtain ⟨cookie, hcookie, rfl⟩ := Option.map_eq_some_iff.mp h
  rw [hcookie]

/-- What a page shows and writes: the token of the session, or a new one. -/
theorem Shows.cases {Data : Type} {token : Data → String} {random : RandomValues}
    {request : Request} {r : Except Raised (Response Data)} (h : Shows token random request r) :
    tokenOf token r = none ∧ (answerOf r).setCookie = none ∨
    tokenOf token r = request.session.usableToken ∧ (answerOf r).setCookie = none ∨
    request.session.usableToken = none ∧
      tokenOf token r = some (generateCsrfToken random.csrfBytes) ∧
      (answerOf r).setCookie = some (.commitSession
        (request.session.set .csrfToken (generateCsrfToken random.csrfBytes))) := by
  cases r with
  | error e => exact .inl ⟨rfl, h⟩
  | ok r =>
      obtain ⟨hdata, hcookie⟩ := h
      right
      show r.data.map token = _ ∧ r.setCookie = none ∨ _ ∧ r.data.map token = _ ∧ r.setCookie = _
      rw [hdata, hcookie]
      -- `issueCsrfToken` sets the cookie exactly when it makes a token
      unfold Session.usableToken issueCsrfToken ensureSessionCsrfToken
      cases htoken : toSessionNonEmptyString (request.session .csrfToken) with
      | some existing => exact .inl ⟨rfl, rfl⟩
      | none => exact .inr ⟨rfl, rfl, rfl⟩

namespace Visit

/-- What a page does: nothing, unless it is rendered for a session without a token. -/
theorem page_cases {v : Visit} (hv : v.isPage = true) (session : Session) :
    v.csrfToken session = none ∧ (v.answer session).setCookie = none ∨
    v.csrfToken session = session.usableToken ∧ (v.answer session).setCookie = none ∨
    ∃ bytes, session.usableToken = none ∧ v.csrfToken session = some (generateCsrfToken bytes) ∧
      (v.answer session).setCookie =
        some (.commitSession (session.set .csrfToken (generateCsrfToken bytes))) := by
  cases v with
  | quiz outside s random request =>
      exact (Quiz.loader_shows outside random { request with session } s).cases.imp_right
        (.imp_right fun h => ⟨random.csrfBytes, h⟩)
  | questionsNew random request =>
      exact (QuestionsNew.loader_shows random { request with session }).cases.imp_right
        (.imp_right fun h => ⟨random.csrfBytes, h⟩)
  | questionsEdit outside s random id request =>
      have hshows := QuestionsEdit.loader_shows outside random id { request with session } s
      exact hshows.cases.imp_right (.imp_right fun h => ⟨random.csrfBytes, h⟩)
  | login _ _ _ _ => cases hv
  | callback _ _ _ => cases hv
  | logout _ _ => cases hv

/-- The token of a page is in the session after it. -/
theorem usableToken_next {v : Visit} {session : Session} {token : String}
    (h : v.csrfToken session = some token) : (v.next session).usableToken = some token := by
  have hpage : v.isPage = true := by
    cases v with
    | quiz _ _ _ _ => rfl
    | questionsNew _ _ => rfl
    | questionsEdit _ _ _ _ _ => rfl
    | login _ _ _ _ => cases h
    | callback _ _ _ => cases h
    | logout _ _ => cases h
  unfold next
  rcases page_cases hpage session with ⟨hnone, -⟩ | ⟨hsame, hcookie⟩ | ⟨bytes, -, hnew, hcookie⟩
  · rw [hnone] at h
    cases h
  · rw [hcookie]
    exact hsame.symm.trans h
  · rw [hcookie, ← h, hnew]
    show toSessionNonEmptyString (session.set .csrfToken _ .csrfToken) = _
    rw [Session.set_apply, if_pos rfl, toSessionNonEmptyString_str, trim_generateCsrfToken]
    rw [trim_generateCsrfToken]
    exact generateCsrfToken_ne_empty bytes

/-- A page writes nothing into a session with a token. -/
theorem write_page {v : Visit} (hv : v.isPage = true) {session : Session}
    (h : session.usableToken.isSome) : v.write session = none := by
  unfold write
  rcases page_cases hv session with ⟨-, hcookie⟩ | ⟨-, hcookie⟩ | ⟨bytes, hnone, -, -⟩
  · rw [hcookie]
    rfl
  · rw [hcookie]
    rfl
  · rw [hnone] at h
    cases h

/-- Neither a page nor a callback logs out. -/
theorem not_logsOut {v : Visit} (hv : v.isPage = true ∨ v.isCallback = true) (session : Session) :
    ¬v.LogsOut session := by
  intro hout
  unfold LogsOut at hout
  rcases hv with hv | hv
  · rcases page_cases hv session with ⟨-, hcookie⟩ | ⟨-, hcookie⟩ | ⟨bytes, -, -, hcookie⟩ <;>
      rw [hcookie] at hout <;> cases hout
  · cases v with
    | callback completeOidc s request =>
        rcases AuthCallback.loader_cases completeOidc { request with session } s with
          ⟨subject, url, -, hresponse⟩ | ⟨message, url, status, hresponse⟩
        all_goals
          change (AuthCallback.loader completeOidc { request with session } s).1.setCookie =
            some .destroySession at hout
          rw [hresponse] at hout
          cases hout
    | _ => cases hv

end Visit

/-! ## What stays -/

/-- A token that can be used stays until a logout. -/
theorem Visit.Changes.usableToken {session session' : Session} {v : Visit} {token : String}
    (htoken : session.usableToken = some token) (hv : ¬v.LogsOut session)
    (h : v.Changes session session') : session'.usableToken = some token := by
  rw [← htoken]
  unfold Session.usableToken
  cases h with
  | unchanged hother => rfl
  | token bytes hother hnone => cases hnone.symm.trans htoken
  | started pendingAuth hstarts => simp
  | failed hcallback hlocation => simp [SessionKey.pending]
  | loggedIn subject hlogs hlocation => simp [SessionKey.pending]
  | loggedOut hother hlogout => exact absurd hlogout hv

theorem usableToken_browse {session : Session} {token : String}
    (htoken : session.usableToken = some token) {visits : List Visit}
    (hvisits : ¬Happens (fun session v => v.LogsOut session) session visits) :
    (browse session visits).usableToken = some token := by
  induction visits using List.reverseRecOn with
  | nil => exact htoken
  | append_singleton visits v ih =>
      rw [browse_append_singleton]
      have hkept := ih fun h => hvisits (happens_append v h)
      exact (v.changes _).usableToken hkept fun h => hvisits (happens_last h)

/-- Without a login that is under way, pages and callbacks keep the user, and none starts. -/
theorem Visit.Changes.of_pendingAbsent {session session' : Session} {v : Visit}
    (hv : v.isPage = true ∨ v.isCallback = true) (habsent : session.PendingAbsent)
    (h : v.Changes session session') :
    session'.PendingAbsent ∧ session' .userId = session .userId := by
  cases h with
  | unchanged hother => exact ⟨habsent, rfl⟩
  | token bytes hother hnone =>
      refine ⟨?_, by simp⟩
      rintro (_ | _ | _ | _ | _ | _) hkey
      case userId | csrfToken => cases hkey
      all_goals simpa using habsent _ rfl
  | started pendingAuth hstarts =>
      cases v with
      | login _ _ _ _ => rcases hv with hv | hv <;> cases hv
      | _ => exact hstarts.elim
  | failed hcallback hlocation =>
      exact ⟨fun key hkey => by simp [hkey], by simp [SessionKey.pending]⟩
  | loggedIn subject hlogs hlocation =>
      cases v with
      | callback completeOidc s request =>
          -- it needs the state of a login that is under way
          obtain ⟨pendingAuth, code, s', -, -, -, hpending, -, -, -⟩ := hlogs
          have hstate : toSessionNonEmptyString (session .oidcState) = some pendingAuth.state :=
            (getPendingOidcAuth_eq_some.mp hpending).1
          rw [habsent .oidcState rfl] at hstate
          cases hstate
      | _ => exact hlogs.elim
  | loggedOut hother hlogout => exact absurd hlogout (Visit.not_logsOut hv session)

theorem userId_browse {session : Session} {visits : List Visit}
    (hvisits : ∀ v ∈ visits, v.isPage = true ∨ v.isCallback = true)
    (habsent : session.PendingAbsent) :
    (browse session visits).PendingAbsent ∧
      browse session visits .userId = session .userId := by
  induction visits using List.reverseRecOn with
  | nil => exact ⟨habsent, rfl⟩
  | append_singleton visits v ih =>
      rw [List.forall_mem_append, List.forall_mem_singleton] at hvisits
      obtain ⟨hearlier, hlast⟩ := hvisits
      obtain ⟨hkept, huser⟩ := ih hearlier
      rw [browse_append_singleton]
      obtain ⟨hnext, hsame⟩ := (v.changes _).of_pendingAbsent hlast hkept
      exact ⟨hnext, hsame.trans huser⟩

end Client

end HistoryQuiz
