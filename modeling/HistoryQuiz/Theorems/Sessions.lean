import HistoryQuiz.Logic.Sessions

/-!
# The session as a state machine

* `session_stateMachine`: over every run of visits that starts without a cookie. A login
  that is under way is kept whole or not at all, every callback ends it, the user changes
  only by a login or a logout, and a token stays until a logout.
-/

namespace HistoryQuiz

namespace Client

open Js

/-! ## The invariant -/

/-- The four values of a login that is under way are there, and can be used. -/
def Session.PendingUsable (session : Session) : Prop :=
  ∀ key : SessionKey, key.pending = true → (toSessionNonEmptyString (session key)).isSome = true

/-- None of the four values is there. -/
def Session.PendingAbsent (session : Session) : Prop :=
  ∀ key : SessionKey, key.pending = true → session key = none

/-- A value that a key holds in a reachable session: a trimmed text that is not empty. -/
def Stored (value : Option Json) : Prop :=
  ∃ s, value = some (.str s) ∧ trim s = s ∧ s ≠ ""

structure Session.Valid (session : Session) : Prop where
  pending : session.PendingUsable ∨ session.PendingAbsent
  csrfToken : session .csrfToken = none ∨ Stored (session .csrfToken)
  userId : session .userId = none ∨ Stored (session .userId)

theorem Stored.usable {value : Option Json} (h : Stored value) :
    toSessionNonEmptyString value ≠ none := by
  obtain ⟨s, rfl, htrim, hne⟩ := h
  rw [toSessionNonEmptyString_str (htrim.symm ▸ hne)]
  simp

/-- A path is not blank. -/
theorem trim_path_ne_empty {s : String} (h : startsWith s "/" = true) : trim s ≠ "" := by
  intro hblank
  unfold trim at hblank
  rw [String.ofList_eq_empty_iff, Trim.trim_eq_nil] at hblank
  have hslash : '/' ∈ s.toList := by
    have hprefix : "/".toList <+: s.toList := List.isPrefixOf_iff_prefix.mp h
    exact hprefix.subset (by decide)
  exact absurd (hblank '/' hslash) (by decide)

theorem trim_resolvePostLoginRedirect (request : Request) :
    trim (resolvePostLoginRedirect request "/me") ≠ "" := by
  unfold resolvePostLoginRedirect
  rcases sanitizeRedirectTo_cases (request.searchParam "redirectTo") "/me" with h | h
  · rw [h]
    decide
  · exact trim_path_ne_empty h

/-- What a login that starts keeps can be used. -/
theorem Visit.Starts.usable {session : Session} {pendingAuth : PendingOidcAuth} {v : Visit}
    (h : v.Starts session pendingAuth) :
    trim pendingAuth.state ≠ "" ∧ trim pendingAuth.nonce ≠ "" ∧
      trim pendingAuth.codeVerifier ≠ "" ∧ trim pendingAuth.redirectTo ≠ "" := by
  cases v with
  | login beginOidc s bytes request =>
      obtain ⟨url, s', hrun⟩ := h
      obtain ⟨hstate, hnonce, hverifier, hredirect⟩ := beginOidc.returns hrun
      refine ⟨hstate, hnonce, hverifier, ?_⟩
      rw [hredirect]
      exact trim_resolvePostLoginRedirect request
  | _ => exact h.elim

/-- The pending login of a session is that of another with the same four values. -/
theorem pending_congr {session session' : Session}
    (hsame : ∀ key : SessionKey, key.pending = true → session' key = session key)
    (h : session.PendingUsable ∨ session.PendingAbsent) :
    session'.PendingUsable ∨ session'.PendingAbsent := by
  rcases h with h | h
  · left
    intro key hkey
    rw [hsame key hkey]
    exact h key hkey
  · right
    intro key hkey
    rw [hsame key hkey]
    exact h key hkey

/-- What a callback does: it clears the login that is under way, and sets the user if it
succeeds. -/
theorem Visit.Changes.of_callback {session session' : Session} {v : Visit}
    (hv : v.isCallback = true) (h : v.Changes session session') :
    session' = clearPendingOidcAuthOnSession session ∨
      (v.answer session).location.isSome = true ∧ ∃ subject : String,
        session' = (clearPendingOidcAuthOnSession session).set .userId (trim subject) := by
  cases h with
  | unchanged hother => cases hv.symm.trans hother
  | token bytes hother hnone => cases hv.symm.trans hother
  | started pendingAuth hstarts =>
      cases v with
      | callback completeOidc s request => exact hstarts.elim
      | _ => cases hv
  | failed _ hlocation => exact .inl rfl
  | loggedIn subject hlogs hlocation => exact .inr ⟨hlocation, subject, rfl⟩
  | loggedOut hother hlogout => cases hv.symm.trans hother

/-- A callback ends the login that is under way. -/
theorem Visit.Changes.pendingAbsent {session session' : Session} {v : Visit}
    (hv : v.isCallback = true) (h : v.Changes session session') : session'.PendingAbsent := by
  intro key hkey
  rcases h.of_callback hv with rfl | ⟨-, subject, rfl⟩
  · simp [hkey]
  · have huser : key ≠ .userId := by
      rintro rfl
      cases hkey
    simp [hkey, huser]

/-- Every change of a session keeps it valid. -/
theorem Session.Valid.changes {session session' : Session} {v : Visit} (hvalid : session.Valid)
    (h : v.Changes session session') : session'.Valid := by
  obtain ⟨hpending, htoken, huser⟩ := hvalid
  cases h with
  | unchanged hv => exact ⟨hpending, htoken, huser⟩
  | token bytes hv hnone =>
      have hsame : ∀ key : SessionKey, key.pending = true →
          session.set .csrfToken (generateCsrfToken bytes) key = session key := by
        rintro (_ | _ | _ | _ | _ | _) hkey
        case userId | csrfToken => cases hkey
        all_goals simp
      exact ⟨pending_congr hsame hpending, .inr ⟨generateCsrfToken bytes, by simp,
        trim_generateCsrfToken bytes, generateCsrfToken_ne_empty bytes⟩, by simpa using huser⟩
  | started pendingAuth hstarts =>
      obtain ⟨hstate, hnonce, hverifier, hredirect⟩ := hstarts.usable
      refine ⟨.inl ?_, by simpa using htoken, by simpa using huser⟩
      rintro (_ | _ | _ | _ | _ | _) hkey
      case userId | csrfToken => cases hkey
      all_goals simp [toSessionNonEmptyString, hstate, hnonce, hverifier, hredirect]
  | failed hv hlocation =>
      refine ⟨.inr fun key hkey => by simp [hkey], ?_, ?_⟩
      · simpa [SessionKey.pending] using htoken
      · simpa [SessionKey.pending] using huser
  | loggedIn subject hlogs hlocation =>
      have hsubject : trim subject ≠ "" := by
        cases v with
        | callback completeOidc s request =>
            obtain ⟨pendingAuth, code, s', -, -, -, -, -, -, hsubject⟩ := hlogs
            exact hsubject
        | _ => exact hlogs.elim
      refine ⟨.inr ?_, ?_, .inr ⟨trim subject, by simp, trim_trim subject, hsubject⟩⟩
      · rintro (_ | _ | _ | _ | _ | _) hkey
        case userId | csrfToken => cases hkey
        all_goals simp [SessionKey.pending]
      · simpa [SessionKey.pending] using htoken
  | loggedOut hother hlogout => exact ⟨.inr fun _ _ => rfl, .inl rfl, .inl rfl⟩

theorem valid_browse (visits : List Visit) : (browse .empty visits).Valid :=
  browse_invariant Session.Valid.changes ⟨.inr fun _ _ => rfl, .inl rfl, .inl rfl⟩ visits

/-! ## What changes -/

/-- The user changes by a login or by a logout. -/
theorem Visit.Changes.userId {session session' : Session} {v : Visit}
    (h : v.Changes session session') :
    session' .userId = session .userId ∨
      (∃ subject, v.LogsIn session subject ∧ session' .userId = some (.str (trim subject))) ∨
      v.LogsOut session ∧ session' .userId = none := by
  cases h with
  | unchanged hv => exact .inl rfl
  | token bytes hv hnone => exact .inl (by simp)
  | started pendingAuth hstarts => exact .inl (by simp)
  | failed hv hlocation => exact .inl (by simp [SessionKey.pending])
  | loggedIn subject hlogs hlocation => exact .inr (.inl ⟨subject, hlogs, by simp⟩)
  | loggedOut hother hlogout => exact .inr (.inr ⟨hlogout, rfl⟩)

/-- A token that is stored stays until a logout. -/
theorem Visit.Changes.csrfToken {session session' : Session} {v : Visit}
    (hstored : Stored (session .csrfToken)) (hv : ¬v.LogsOut session)
    (h : v.Changes session session') : session' .csrfToken = session .csrfToken := by
  cases h with
  | unchanged hother => rfl
  | token bytes hother hnone => exact absurd hnone hstored.usable
  | started pendingAuth hstarts => simp
  | failed hcallback hlocation => simp [SessionKey.pending]
  | loggedIn subject hlogs hlocation => simp [SessionKey.pending]
  | loggedOut hother hlogout => exact absurd hlogout hv

/-- A callback that fails keeps the user and the token. -/
theorem Visit.Changes.of_failed {session session' : Session} {v : Visit}
    (hv : v.isCallback = true) (hfailed : (v.answer session).location = none)
    (h : v.Changes session session') :
    session' .userId = session .userId ∧ session' .csrfToken = session .csrfToken := by
  rcases h.of_callback hv with rfl | ⟨hlocation, subject, rfl⟩
  · simp [SessionKey.pending]
  · rw [hfailed] at hlocation
    cases hlocation

/-- The state of a pending login stays, or it goes, or a login that starts issues it. -/
theorem Visit.Changes.oidcState {session session' : Session} {v : Visit}
    (h : v.Changes session session') :
    session' .oidcState = session .oidcState ∨ session' .oidcState = none ∨
      ∃ pendingAuth, v.Starts session pendingAuth ∧
        session' .oidcState = some (.str pendingAuth.state) := by
  cases h with
  | unchanged hv => exact .inl rfl
  | token bytes hv hnone => exact .inl (by simp)
  | started pendingAuth hstarts => exact .inr (.inr ⟨pendingAuth, hstarts, by simp⟩)
  | failed hv hlocation => exact .inr (.inl (by simp [SessionKey.pending]))
  | loggedIn subject hlogs hlocation => exact .inr (.inl (by simp [SessionKey.pending]))
  | loggedOut hother hlogout => exact .inr (.inl rfl)

/-! ## Runs -/

/-- A state that was absent before a run has been issued by a login of the run. -/
theorem oidcState_issued {session : Session} (habsent : session .oidcState = none)
    {visits : List Visit} {state : Json} (h : browse session visits .oidcState = some state) :
    Happens (fun session v => ∃ pendingAuth, v.Starts session pendingAuth ∧
      state = .str pendingAuth.state) session visits := by
  induction visits using List.reverseRecOn with
  | nil =>
      rw [browse_nil, habsent] at h
      cases h
  | append_singleton visits v ih =>
      rw [browse_append_singleton] at h
      rcases (v.changes (browse session visits)).oidcState with
        hsame | hnone | ⟨pendingAuth, hstarts, hissued⟩
      · rw [hsame] at h
        exact happens_append v (ih h)
      · rw [hnone] at h
        cases h
      · rw [hissued] at h
        exact happens_last ⟨pendingAuth, hstarts, (Option.some.inj h).symm⟩

/-- A token that is stored stays as long as no logout is carried out. -/
theorem csrfToken_browse {session : Session} (hvalid : session.Valid) {token : Json}
    (htoken : session .csrfToken = some token) {visits : List Visit}
    (hvisits : ¬Happens (fun session v => v.LogsOut session) session visits) :
    browse session visits .csrfToken = some token := by
  induction visits using List.reverseRecOn with
  | nil => exact htoken
  | append_singleton visits v ih =>
      rw [browse_append_singleton]
      have hkept := ih fun h => hvisits (happens_append v h)
      have hstored : Stored (browse session visits .csrfToken) := by
        rcases (browse_invariant Session.Valid.changes hvalid visits).csrfToken with h | h
        · rw [hkept] at h
          cases h
        · exact h
      rw [(v.changes _).csrfToken hstored fun h => hvisits (happens_last h)]
      exact hkept

/-- The state that the URL of a visit carries. -/
def Visit.state : Visit → Option String
  | callback _ _ request => request.searchParam "state"
  | _ => none

/-- For every run of visits from a browser without a cookie, with `beginOidcAuthorization`
and `completeOidcAuthorization` as arbitrary as `BeginOidcAuthorization` leaves them.
The four values of a login are all there and usable or all absent. After any callback
they are absent, so a callback can log in again, with the same URL or another, only when
a login has started in between and issued the very state that its URL carries. The user
changes only by a callback that succeeds, to its trimmed subject, or by a logout; and such
a callback does store its subject, and a logout that is carried out leaves nothing. A
callback that fails keeps user and token, and a token stays until a logout. -/
theorem session_stateMachine (visits : List Visit) :
    ((browse .empty visits).PendingUsable ∨ (browse .empty visits).PendingAbsent) ∧
    (∀ v : Visit, v.isCallback = true →
      (v.next (browse .empty visits)).PendingAbsent ∧
      ∀ (later : List Visit) (replay : Visit) (subject : String),
        replay.LogsIn (browse (v.next (browse .empty visits)) later) subject →
        Happens (fun session w => ∃ pendingAuth, w.Starts session pendingAuth ∧
          replay.state = some (trim pendingAuth.state)) (v.next (browse .empty visits)) later) ∧
    (∀ v : Visit,
      v.next (browse .empty visits) .userId = browse .empty visits .userId ∨
      (∃ subject, v.LogsIn (browse .empty visits) subject ∧
        v.next (browse .empty visits) .userId = some (.str (trim subject))) ∨
      v.LogsOut (browse .empty visits) ∧ v.next (browse .empty visits) .userId = none) ∧
    (∀ (v : Visit) (subject : String), v.LogsIn (browse .empty visits) subject →
      v.next (browse .empty visits) .userId = some (.str (trim subject))) ∧
    (∀ v : Visit, v.LogsOut (browse .empty visits) → v.next (browse .empty visits) = .empty) ∧
    (∀ v : Visit, v.isCallback = true → (v.answer (browse .empty visits)).location = none →
      v.next (browse .empty visits) .userId = browse .empty visits .userId ∧
      v.next (browse .empty visits) .csrfToken = browse .empty visits .csrfToken) ∧
    ∀ token later, browse .empty visits .csrfToken = some token →
      ¬Happens (fun session w => w.LogsOut session) (browse .empty visits) later →
      browse (browse .empty visits) later .csrfToken = some token := by
  have hvalid := valid_browse visits
  refine ⟨hvalid.pending, ?_, ?_, fun v subject h => h.userId, fun v h => h.next, ?_, ?_⟩
  · intro v hv
    have habsent := (v.changes (browse .empty visits)).pendingAbsent hv
    refine ⟨habsent, ?_⟩
    intro later replay subject hlogs
    cases replay with
    | callback completeOidc s request =>
        obtain ⟨pendingAuth, code, s', -, -, -, hpending, hstate, -, -⟩ := hlogs
        have hkept := (getPendingOidcAuth_eq_some.mp hpending).1
        obtain ⟨state, hsession, htrim, -⟩ := toSessionNonEmptyString_eq_some.mp hkept
        obtain ⟨earlier, w, rest, hsplit, issued, hstarts, hissued⟩ :=
          oidcState_issued (habsent _ rfl) hsession
        refine ⟨earlier, w, rest, hsplit, issued, hstarts, ?_⟩
        cases hissued
        exact hstate.trans (congrArg some htrim.symm)
    | _ => exact hlogs.elim
  · intro v
    exact (v.changes _).userId
  · intro v hv hfailed
    exact (v.changes _).of_failed hv hfailed
  · intro token later htoken hlater
    exact csrfToken_browse hvalid htoken hlater

/-! ### From a login to a logout -/

/-- A `beginOidcAuthorization` with fixed texts. -/
def sampleBegin : BeginOidcAuthorization Unit where
  run redirectTo _ := pure ("https://id.example/a", ⟨"verifier", "nonce", redirectTo, "state"⟩)
  returns := by
    rintro redirectTo request s url pendingAuth s' ⟨⟩
    have hnonblank : trim "state" ≠ "" ∧ trim "nonce" ≠ "" ∧ trim "verifier" ≠ "" := by decide
    exact ⟨hnonblank.1, hnonblank.2.1, hnonblank.2.2, rfl⟩

/-- A request for `pathname`; the session is that of the browser. -/
def pageRequest (pathname : String) (searchParams : List (String × String))
    (formData : Option FormData) : Request :=
  ⟨"https://quiz.example", pathname, "", searchParams, none, none, .empty, formData⟩

/-- Alice starts a login and comes back from it. -/
def aliceLogsIn : List Visit :=
  [.login sampleBegin () 0 (pageRequest "/login" [] none),
    .callback (σ := Unit) (fun _ _ _ => pure " alice ") ()
      (pageRequest "/auth/callback" [("code", "code"), ("state", "state")] none)]

/-- She opens the page of a new question. -/
def aliceOpens : Visit := .questionsNew ⟨countedUuid 1, 0⟩ (pageRequest "/questions/new" [] none)

/-- The logout form, with the token of that page. -/
def aliceLogsOut : Visit :=
  .logout "fresh" (pageRequest "/login" []
    (some [("intent", .text "logout"), (CSRF_TOKEN_FIELD_NAME, .text (generateCsrfToken 0))]))

theorem aliceLogsIn_succeeds :
    aliceLogsIn[1].LogsIn (browse .empty (aliceLogsIn.take 1)) " alice " :=
  .intro ⟨"verifier", "nonce", "/me", "state"⟩ "code" () rfl rfl (by decide)
    (by decide +kernel) rfl rfl (by decide)

theorem aliceLogsOut_succeeds :
    aliceLogsOut.LogsOut (browse .empty (aliceLogsIn ++ [aliceOpens])) := by
  rcases Login.action_setCookie "fresh" { pageRequest "/login" [] (some [("intent", .text "logout"),
      (CSRF_TOKEN_FIELD_NAME, .text (generateCsrfToken 0))]) with
        session := browse .empty (aliceLogsIn ++ [aliceOpens]) } with h | h
  · have hcookie : (aliceLogsOut.answer (browse .empty
        (aliceLogsIn ++ [aliceOpens]))).setCookie.isSome = true := by decide +kernel
    rw [show (aliceLogsOut.answer _).setCookie = none from h] at hcookie
    cases hcookie
  · exact h

/-- The callback stores the trimmed subject, and it stays when the page stores its token. The
logout is carried out and leaves nothing. -/
theorem session_stateMachine_alice :
    browse .empty (aliceLogsIn ++ [aliceOpens]) .userId = some (.str (trim " alice ")) ∧
    toSessionNonEmptyString (browse .empty (aliceLogsIn ++ [aliceOpens]) .csrfToken) =
      some (generateCsrfToken 0) ∧
    browse .empty (aliceLogsIn ++ [aliceOpens] ++ [aliceLogsOut]) = .empty := by
  obtain ⟨-, -, -, hlogsIn, -⟩ := session_stateMachine (aliceLogsIn.take 1)
  obtain ⟨-, -, huser, -⟩ := session_stateMachine aliceLogsIn
  obtain ⟨-, -, -, -, hlogsOut, -⟩ := session_stateMachine (aliceLogsIn ++ [aliceOpens])
  refine ⟨?_, by decide +kernel, ?_⟩
  · rw [browse_append_singleton]
    rcases huser aliceOpens with hsame | ⟨subject, h, -⟩ | ⟨-, hnone⟩
    · exact hsame.trans (hlogsIn _ _ aliceLogsIn_succeeds)
    · exact h.elim
    · have hkept : (aliceOpens.next (browse .empty aliceLogsIn) .userId).isSome = true := by
        decide +kernel
      rw [hnone] at hkept
      cases hkept
  · rw [browse_append_singleton]
    exact hlogsOut _ aliceLogsOut_succeeds

end Client

end HistoryQuiz
