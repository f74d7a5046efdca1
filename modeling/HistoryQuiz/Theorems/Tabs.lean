import HistoryQuiz.Logic.Accounts
import HistoryQuiz.Logic.Tabs

/-!
# Requests in flight together

* `tabs_serial`: as long as no two requests that set the cookie are in flight together,
  nothing is lost.
* `lost_token`: of two pages that are opened together after a login, one has a token that is
  refused afterwards.
-/

namespace HistoryQuiz

namespace Client

open Js Throw CopyBack

/-! ## Nothing is lost -/

section Serial

variable {ι : Type} {visits : ι → Visit} {session : Session}

/-- In a serial order, the user of a callback that succeeds stays. -/
theorem userId_serial (hvisits : ∀ i, (visits i).isPage = true ∨ (visits i).isCallback = true)
    (earlier : List ι) {i : ι} (later : List ι) {subject : String}
    (h : (visits i).LogsIn (browse session (earlier.map visits)) subject) :
    browse session ((earlier ++ i :: later).map visits) .userId = some (.str (trim subject)) := by
  have hcallback : (visits i).isCallback = true := by
    cases hv : visits i with
    | callback _ _ _ => rfl
    | _ =>
        rw [hv] at h
        exact h.elim
  have hlater : ∀ v ∈ later.map visits, v.isPage = true ∨ v.isCallback = true := by
    intro v hv
    obtain ⟨j, -, rfl⟩ := List.mem_map.mp hv
    exact hvisits j
  rw [List.map_append, List.map_cons, browse_append_cons,
    (userId_browse hlater (((visits i).changes _).pendingAbsent hcallback)).2]
  exact h.userId

/-- In a serial order, the token of a page stays. -/
theorem usableToken_serial (hvisits : ∀ i, (visits i).isPage = true ∨ (visits i).isCallback = true)
    (earlier : List ι) {i : ι} (later : List ι) {token : String}
    (h : (visits i).csrfToken (browse session (earlier.map visits)) = some token) :
    (browse session ((earlier ++ i :: later).map visits)).usableToken = some token := by
  rw [List.map_append, List.map_cons, browse_append_cons]
  refine usableToken_browse (Visit.usableToken_next h) ?_
  rintro ⟨before, v, after, hsplit, hout⟩
  have hmem : v ∈ later.map visits := by
    rw [hsplit]
    simp
  obtain ⟨j, -, rfl⟩ := List.mem_map.mp hmem
  exact Visit.not_logsOut (hvisits j) _ hout

variable [DecidableEq ι] {s : State ι Session}

/-- With a token in the session, only callbacks write: a run with one callback is exclusive. -/
theorem exclusiveRun_of_usable
    (hvisits : ∀ i, (visits i).isPage = true ∨ (visits i).isCallback = true)
    (htoken : session.usableToken.isSome)
    (hone : ∀ i j, (visits i).isCallback = true → (visits j).isCallback = true → i = j)
    (hrun : Run (fun i => (visits i).write) (.start session) s) :
    ExclusiveRun (fun i => (visits i).write) (.start session) s := by
  obtain ⟨token, htoken⟩ := Option.isSome_iff_exists.mp htoken
  -- the token is in the session and in every copy that is in flight
  have hkept : ∀ s, Run (fun i => (visits i).write) (.start session) s →
      s.value.usableToken = some token ∧
        ∀ i c, s.phase i = .sent c → c.usableToken = some token := by
    intro s hrun
    induction hrun with
    | refl => exact ⟨htoken, fun i c h => by cases h⟩
    | @tail s s' _ hstep ih =>
        obtain ⟨hvalue, hcopies⟩ := ih
        cases hstep with
        | send i hi =>
            refine ⟨hvalue, ?_⟩
            intro j c hj
            rcases update_eq_sent hj with ⟨-, rfl⟩ | hj
            · exact hvalue
            · exact hcopies j c hj
        | arrive i c hi =>
            refine ⟨?_, fun j d hj => hcopies j d (update_answered_eq_sent hj).2⟩
            show (((visits i).write c).getD s.value).usableToken = _
            cases hwrite : (visits i).write c with
            | none => exact hvalue
            | some written =>
                have hnext := ((visits i).changes c).usableToken (hcopies i c hi)
                  (Visit.not_logsOut (hvisits i) c)
                rw [Visit.next_eq_write hwrite] at hnext
                exact hnext
  have hexclusive : ∀ s, Run (fun i => (visits i).write) (.start session) s →
      s.Exclusive fun i => (visits i).write := by
    intro s hrun i c j d hi hj hci hdj
    have hcallback : ∀ i c, s.phase i = .sent c → ((visits i).write c).isSome →
        (visits i).isCallback = true := by
      intro i c hi hsome
      rcases hvisits i with hpage | hcallback
      · rw [Visit.write_page hpage (by rw [(hkept s hrun).2 i c hi]; rfl)] at hsome
        cases hsome
      · exact hcallback
    exact hone i j (hcallback i c hi hci) (hcallback j d hj hdj)
  induction hrun with
  | refl => exact .refl
  | tail hbefore hstep ih => exact ih.tail ⟨hstep, hexclusive _ (hbefore.tail hstep)⟩

/-- For pages and callbacks in any order of sends and arrivals in which no two requests whose
answers set the cookie are in flight together. The run is equal to a serial order of the
requests, in which each has the session that it was sent with. The user of a callback that
succeeds is there at the end, and the token of every page that is rendered is accepted, at
the end and until a logout. A session that has a token at the start, and at most one
callback, leave no other runs than these. -/
theorem tabs_serial (visits : ι → Visit)
    (hvisits : ∀ i, (visits i).isPage = true ∨ (visits i).isCallback = true) (session : Session) :
    (∀ s, ExclusiveRun (fun i => (visits i).write) (.start session) s → s.Settled →
      ∃ order : List ι, order.Nodup ∧ (∀ i, i ∈ order ↔ ∃ c, s.phase i = .answered c) ∧
        s.value = browse session (order.map visits) ∧
        (∀ earlier i later, order = earlier ++ i :: later →
          s.phase i = .answered (browse session (earlier.map visits))) ∧
        (∀ i c subject, s.phase i = .answered c → (visits i).LogsIn c subject →
          s.value .userId = some (.str (trim subject))) ∧
        ∀ i c token, s.phase i = .answered c → (visits i).csrfToken c = some token →
          ∀ later, ¬Happens (fun session v => v.LogsOut session) s.value later →
            (browse s.value later).Accepts token) ∧
    (session.usableToken.isSome →
      (∀ i j, (visits i).isCallback = true → (visits j).isCallback = true → i = j) →
      ∀ s, Run (fun i => (visits i).write) (.start session) s →
        ExclusiveRun (fun i => (visits i).write) (.start session) s) := by
  refine ⟨?_, fun htoken hone s hrun => exclusiveRun_of_usable hvisits htoken hone hrun⟩
  intro s hrun hsettled
  obtain ⟨-, order, horder⟩ := hrun.serial
  have hmem : ∀ i, i ∈ order ↔ ∃ c, s.phase i = .answered c := by
    intro i
    rw [horder.mem i]
    constructor
    · rintro (h | ⟨c, h, -⟩)
      · exact h
      · exact absurd h (hsettled i c)
    · exact .inl
  have hcopies : ∀ earlier i later, order = earlier ++ i :: later →
      s.phase i = .answered (browse session (earlier.map visits)) := by
    intro earlier i later hsplit
    have hi : i ∈ order := by
      rw [hsplit]
      simp
    obtain ⟨c, hc⟩ := (hmem i).mp hi
    have hcopy := horder.copies earlier i later hsplit
    rw [hc, serial_write] at hcopy
    rw [hc, Option.some.inj hcopy]
  have hvalue : s.value = browse session (order.map visits) :=
    horder.value.symm.trans (serial_write visits session order)
  refine ⟨order, horder.nodup, hmem, hvalue, hcopies, ?_, ?_⟩
  · intro i c subject hc hlogs
    obtain ⟨earlier, later, hsplit⟩ := List.append_of_mem ((hmem i).mpr ⟨c, hc⟩)
    obtain rfl : c = browse session (earlier.map visits) := by
      have h := hc.symm.trans (hcopies earlier i later hsplit)
      injection h
    rw [hvalue, hsplit]
    exact userId_serial hvisits earlier later hlogs
  · intro i c token hc hpage later hlater
    obtain ⟨earlier, after, hsplit⟩ := List.append_of_mem ((hmem i).mpr ⟨c, hc⟩)
    obtain rfl : c = browse session (earlier.map visits) := by
      have h := hc.symm.trans (hcopies earlier i after hsplit)
      injection h
    refine Session.accepts_of_usable (usableToken_browse ?_ hlater)
    rw [hvalue, hsplit]
    exact usableToken_serial hvisits earlier after hpage

end Serial

/-! ## Two tabs -/

section TwoTabs

variable {visits : Bool → Visit} {session : Session}

/-- The first request is sent, then the second is sent and answered, then the first is answered. All
copies are the session at the start. -/
theorem overlapping {P : State Bool Session → Prop}
    (hP : ∀ s, (∀ i c, s.phase i = .sent c → c = session) → P s) :
    Relation.ReflTransGen (fun s s' => CopyBack.Step (fun i => (visits i).write) s s' ∧ P s')
      (.start session)
      ⟨((visits false).write session).getD (((visits true).write session).getD session),
        fun _ => .answered session⟩ := by
  have hphases : Function.update (Function.update (Function.update (Function.update
      (fun _ : Bool => Phase.waiting) false (.sent session)) true (.sent session)) true
        (.answered session)) false (.answered session) = fun _ => .answered session := by
    funext i
    cases i <;> rfl
  rw [← hphases]
  refine .tail (.tail (.tail (.tail .refl ⟨.send false rfl, hP _ ?_⟩) ⟨.send true rfl, hP _ ?_⟩)
    ⟨.arrive true session rfl, hP _ ?_⟩) ⟨.arrive false session rfl, hP _ ?_⟩
  all_goals
    rintro (_ | _) c h <;> cases h <;> rfl

theorem run_overlapping (visits : Bool → Visit) (session : Session) :
    Run (fun i => (visits i).write) (.start session)
      ⟨((visits false).write session).getD (((visits true).write session).getD session),
        fun _ => .answered session⟩ :=
  Relation.ReflTransGen.mono (fun _ _ h => h.1) _ _
    (overlapping (P := fun _ => True) fun _ _ => trivial)

/-- It is exclusive when the answer to the first request does not set the cookie. -/
theorem exclusiveRun_overlapping (h : (visits false).write session = none) :
    ExclusiveRun (fun i => (visits i).write) (.start session)
      ⟨((visits true).write session).getD session, fun _ => .answered session⟩ := by
  have hrun : ExclusiveRun (fun i => (visits i).write) (.start session) _ := overlapping ?_
  · rw [h] at hrun
    exact hrun
  · intro s hcopies i c j d hi hj hci hdj
    have hsecond : ∀ i c, s.phase i = .sent c → ((visits i).write c).isSome → i = true := by
      intro i c hi hsome
      cases i with
      | true => rfl
      | false =>
          rw [hcopies false c hi, h] at hsome
          cases hsome
    rw [hsecond i c hi hci, hsecond j d hj hdj]

end TwoTabs

/-! ### A token is lost -/

/-- The session of Alice after her login: no page has been opened yet. -/
def freshLogin : Session := Session.empty.set .userId "alice"

/-- Two tabs in which the page of a new question is opened. -/
def openTabs (i : Bool) : Visit :=
  .questionsNew ⟨countedUuid 1, if i then 1 else 0⟩ (pageRequest "/questions/new" [] none)

/-- Both pages are sent before either is answered: each of them makes a token, and the one whose
answer arrives first is refused afterwards. -/
theorem lost_token : ∃ s token, Run (fun i => (openTabs i).write) (.start freshLogin) s ∧
    (∀ i, s.phase i = .answered freshLogin) ∧
    (openTabs true).csrfToken freshLogin = some token ∧ ¬s.value.Accepts token := by
  refine ⟨_, generateCsrfToken 1, run_overlapping openTabs freshLogin, fun _ => rfl,
    by decide +kernel, ?_⟩
  intro haccepts
  have hposted := haccepts "fresh"
    (pageRequest "/questions/new" [] none)
    [(CSRF_TOKEN_FIELD_NAME, .text (generateCsrfToken 1))] none rfl
  have hrefused : (verifyCsrfToken "fresh" [(CSRF_TOKEN_FIELD_NAME, .text (generateCsrfToken 1))]
      { pageRequest "/questions/new" [] none with
        session := ((openTabs false).write freshLogin).getD
          (((openTabs true).write freshLogin).getD freshLogin) } none).toBool = false := by
    decide +kernel
  rw [hposted] at hrefused
  cases hrefused

/-! ### Nothing is lost -/

/-- A session with a login that is under way, and no user. -/
def pendingSession : Session :=
  (((Session.empty.set .oidcState "state").set .oidcNonce "nonce").set .oidcCodeVerifier
    "verifier").set .oidcRedirectTo "/me"

/-- The page of a new question, and a callback that completes the login of Alice. -/
def loginTabs : Bool → Visit
  | false => openTabs false
  | true => .callback (σ := Unit) (fun _ _ _ => pure "alice") ()
      (pageRequest "/auth/callback" [("code", "code"), ("state", "state")] none)

theorem loginTabs_callback : (loginTabs true).LogsIn pendingSession "alice" :=
  .intro ⟨"verifier", "nonce", "/me", "state"⟩ "code" () rfl rfl (by decide)
    (by decide +kernel) rfl rfl (by decide)

/-- The page goes to the login while the callback is in flight, and the user of the callback stays.
With a token in the session, both pages above carry it, and it is accepted. -/
theorem tabs_serial_sample :
    (∃ s, Run (fun i => (loginTabs i).write) (.start pendingSession) s ∧
      s.value .userId = some (.str (trim "alice"))) ∧
    ∃ s, Run (fun i => (openTabs i).write) (.start (freshLogin.set .csrfToken "token")) s ∧
      ∀ i, ∃ token, (openTabs i).csrfToken (freshLogin.set .csrfToken "token") = some token ∧
        s.value.Accepts token := by
  constructor
  · obtain ⟨hserial, -⟩ := tabs_serial loginTabs (by decide) pendingSession
    have hrun : ExclusiveRun (fun i => (loginTabs i).write) (.start pendingSession) _ :=
      exclusiveRun_overlapping (Option.isNone_iff_eq_none.mp (by decide +kernel))
    obtain ⟨order, -, -, -, -, huser, -⟩ := hserial _ hrun fun i c h => by cases h
    exact ⟨_, Relation.ReflTransGen.mono (fun _ _ h => h.1) _ _ hrun,
      huser true _ "alice" rfl loginTabs_callback⟩
  · obtain ⟨hserial, hexclusive⟩ :=
      tabs_serial openTabs (by decide) (freshLogin.set .csrfToken "token")
    have hrun := run_overlapping openTabs (freshLogin.set .csrfToken "token")
    obtain ⟨order, -, -, -, -, -, htokens⟩ :=
      hserial _ (hexclusive (by decide +kernel) (by decide) _ hrun) fun i c h => by cases h
    refine ⟨_, hrun, ?_⟩
    intro i
    have htoken : (openTabs i).csrfToken (freshLogin.set .csrfToken "token") = some "token" := by
      revert i
      decide +kernel
    exact ⟨"token", htoken, htokens i _ "token" rfl htoken [] (by simp [Happens])⟩

end Client

end HistoryQuiz
