import HistoryQuiz.Logic.Accounts
import HistoryQuiz.Logic.Sessions

/-!
# What a post does

The four actions change something in two ways: by calling a service, and by removing the
session. `Post.effects` lists what a post has done. Its calls are read off an outside that keeps
them (`recording`).
-/

namespace HistoryQuiz

namespace Client

open Js Throw QuizUsecase

/-! ## Tokens -/

theorem utf8Bytes_injective : Function.Injective utf8Bytes := by
  intro s t h
  have hbytes := List.map_injective_iff.mpr (fun a b => UInt8.toBitVec_inj.mp) h
  have hencoded : s.toList.utf8Encode = t.toList.utf8Encode := congrArg List.toByteArray hbytes
  rw [String.utf8Encode_toList, String.utf8Encode_toList] at hencoded
  exact String.toByteArray_inj.mp hencoded

theorem safeTokenEquals_iff {left right : String} :
    safeTokenEquals left right = true ↔ left = right := by
  unfold safeTokenEquals
  dsimp only
  constructor
  · intro h
    split_ifs at h
    exact utf8Bytes_injective (beq_iff_eq.mp h)
  · rintro rfl
    simp

/-- A token of the session that is present, not blank, and posted, both trimmed. -/
def TokenVerified (request : Request) (formData : FormData) : Prop :=
  ∃ stored posted, request.session .csrfToken = some (.str stored) ∧
    formData.get CSRF_TOKEN_FIELD_NAME = some (.text posted) ∧ trim stored ≠ "" ∧
    trim stored = trim posted

theorem toOptionalTrimmedToken_eq_some {value : Option FormDataEntryValue} {s : String} :
    toOptionalTrimmedToken value = some s ↔ ∃ v, value = some (.text v) ∧ trim v = s ∧ s ≠ "" := by
  unfold toOptionalTrimmedToken
  rcases value with _ | v | _
  · simp
  · by_cases hv : trim v = ""
    · simp [hv]
    · simp only [ne_eq, hv, not_false_eq_true, if_true, Option.some.injEq,
        FormDataEntryValue.text.injEq]
      constructor
      · rintro rfl
        exact ⟨v, rfl, rfl, hv⟩
      · rintro ⟨_, rfl, rfl, -⟩
        rfl
  · simp

theorem verifyCsrfToken_ok {fresh : String} {formData : FormData} {request : Request}
    {requestId : Option String} {id : String}
    (h : verifyCsrfToken fresh formData request requestId = .ok id) :
    TokenVerified request formData ∧ id = requestId.getD fresh := by
  unfold verifyCsrfToken at h
  dsimp only at h
  cases hsession : getSessionCsrfToken request with
  | none =>
      rw [hsession] at h
      cases h
  | some sessionToken =>
      cases hposted : toOptionalTrimmedToken (formData.get CSRF_TOKEN_FIELD_NAME) with
      | none =>
          rw [hsession, hposted] at h
          cases h
      | some postedToken =>
          rw [hsession, hposted] at h
          dsimp only at h
          by_cases hequal : safeTokenEquals sessionToken postedToken = true
          · rw [if_pos hequal] at h
            cases h
            obtain rfl := safeTokenEquals_iff.mp hequal
            obtain ⟨stored, hstored, rfl, hne⟩ := toSessionNonEmptyString_eq_some.mp hsession
            obtain ⟨posted, hfield, hsame, -⟩ := toOptionalTrimmedToken_eq_some.mp hposted
            exact ⟨⟨stored, posted, hstored, hfield, hne, hsame.symm⟩, rfl⟩
          · rw [if_neg hequal] at h
            cases h

/-! ## Forms -/

/-- A form is read for the user of the session, after the checks of its size and its token. -/
theorem acceptForm_ok {random : RandomValues} {maxBytes : ℕ} {request : Request}
    {user : SessionUser} {requestId : String} {formData : FormData}
    (h : acceptForm random maxBytes request = .ok (user, requestId, formData)) :
    getUser request = some user ∧ request.formData = some formData ∧
      ∃ checkedId, assertRequestContentLengthWithinLimit (createRequestId random) maxBytes request
        none = .ok checkedId ∧
      verifyCsrfToken (createRequestId random) formData request (some checkedId) =
        .ok requestId := by
  unfold acceptForm at h
  obtain ⟨user', huser, h⟩ := except_bind_eq_ok.mp h
  obtain ⟨checkedId, hsize, h⟩ := except_bind_eq_ok.mp h
  cases hform : request.formData with
  | none =>
      rw [hform] at h
      cases h
  | some formData' =>
      rw [hform] at h
      obtain ⟨verifiedRequestId, hverify, h⟩ := except_bind_eq_ok.mp h
      cases h
      exact ⟨requireAuthenticatedUser_eq_ok.mp huser, rfl, checkedId, hsize, hverify⟩

/-- A form is not read when one of the checks fails, or when it cannot be read. -/
theorem acceptForm_error {random : RandomValues} {maxBytes : ℕ} {request : Request} {e : Raised}
    (h : acceptForm random maxBytes request = .error e) :
    requireAuthenticatedUser request = .error e ∨
    assertRequestContentLengthWithinLimit (createRequestId random) maxBytes request none =
      .error e ∨
    (request.formData = none ∧ e = .thrown .platform ∧ (getUser request).isSome ∧
      ∃ checkedId, assertRequestContentLengthWithinLimit (createRequestId random) maxBytes request
        none = .ok checkedId) ∨
    ∃ formData checkedId, request.formData = some formData ∧
      assertRequestContentLengthWithinLimit (createRequestId random) maxBytes request none =
        .ok checkedId ∧
      verifyCsrfToken (createRequestId random) formData request (some checkedId) = .error e := by
  unfold acceptForm at h
  rcases except_bind_eq_error.mp h with h | ⟨user, huser, h⟩
  · exact .inl h
  rcases except_bind_eq_error.mp h with h | ⟨checkedId, hsize, h⟩
  · exact .inr (.inl h)
  cases hform : request.formData with
  | none =>
      rw [hform] at h
      cases h
      have hsome : (getUser request).isSome := by
        rw [requireAuthenticatedUser_eq_ok.mp huser]
        rfl
      exact .inr (.inr (.inl ⟨rfl, rfl, hsome, checkedId, hsize⟩))
  | some formData =>
      rw [hform] at h
      rcases except_bind_eq_error.mp h with h | ⟨verifiedRequestId, -, h⟩
      · exact .inr (.inr (.inr ⟨formData, checkedId, rfl, hsize, h⟩))
      · cases h

/-! ## Effects -/

/-- What a post changes. -/
inductive PostEffect where
  | call (callContext : GrpcCallContext) (request : HistoryQuiz.Request)
  | destroySession

/-- The calls of services that a route has asked for. -/
abbrev CallLog := List (GrpcCallContext × HistoryQuiz.Request)

/-- The outside that keeps the calls that it is asked for, whatever becomes of them. -/
def Outside.recording {σ : Type} (outside : Outside σ) : Outside (σ × CallLog) where
  readers := outside.readers
  conform := outside.conform
  callService fresh callContext request s :=
    match outside.callService fresh callContext request s.1 with
    | .ok result t => .ok result (t, s.2 ++ [(callContext, request)])
    | .error e t => .error e (t, s.2 ++ [(callContext, request)])

/-- The effects of an action: its calls, and the session that its answer removes. -/
def effectsOf {Data : Type} (outcome : Except Raised (Response Data)) (log : CallLog) :
    List PostEffect :=
  log.map (fun call => .call call.1 call.2) ++
    match (answerOf outcome).setCookie with
    | some .destroySession => [.destroySession]
    | _ => []

/-- A POST request to one of the four actions. -/
inductive Post where
  | login (fresh : String)
  | quiz (random : RandomValues)
  | questionsNew (random : RandomValues)
  | questionsEdit (random : RandomValues) (id : Option String)

/-- What an action does that starts in `s`. -/
def runEffects {σ Data : Type} (action : EStateM Raised (σ × CallLog) (Response Data)) (s : σ) :
    List PostEffect :=
  let (outcome, t) := attempt action (s, [])
  effectsOf outcome t.2

/-- What a post does. -/
def Post.effects {σ : Type} (outside : Outside σ) (s : σ) (request : Request) :
    Post → List PostEffect
  | login fresh => effectsOf (Login.action fresh request) []
  | quiz random => runEffects (Quiz.action outside.recording random request) s
  | questionsNew random => runEffects (QuestionsNew.action outside.recording random request) s
  | questionsEdit random id =>
      runEffects (QuestionsEdit.action outside.recording random id request) s

/-- The user of the session is not blank, and trimmed it is the user of the call. -/
def SentByUser (request : Request) (callContext : GrpcCallContext) : Prop :=
  ∃ stored, request.session .userId = some (.str stored) ∧ trim stored ≠ "" ∧
    callContext.userId = some (trim stored)

/-- The effects that a form allows: it has passed the schema of the route, and the routes of
the questions have a user. -/
def Post.Allows (conform : Conform) (request : Request) (formData : FormData) :
    Post → PostEffect → Prop
  | login _, .destroySession => formData.get "intent" = some (.text "logout")
  | quiz _, .call _ (.submitAnswer _ questionID selectedChoiceID) =>
      parseAnswerWithZod conform formData = .ok ⟨questionID, selectedChoiceID⟩
  | questionsNew _, .call callContext (.createQuestion _ draft) =>
      SentByUser request callContext ∧
        ∃ value, parseWithZod conform formData = some value ∧ draft = some value.draft
  | questionsEdit _ id, .call callContext (.updateQuestion _ questionID draft) =>
      SentByUser request callContext ∧ id.map trim = some questionID ∧
        ∃ value, parseWithZod conform formData = some value ∧ draft = some value.draft
  | _, _ => False

/-! ## Calls -/

variable {σ : Type} {outside : Outside σ} {s : σ} {request : Request}

/-- At most one call has been asked for, and `P` holds of it. -/
def Sends (P : GrpcCallContext → HistoryQuiz.Request → Prop) (log : CallLog) : Prop :=
  log = [] ∨ ∃ callContext request, log = [(callContext, request)] ∧ P callContext request

/-- A call is kept once, however it ends. -/
theorem callService_sends (outside : Outside σ) (fresh : String) (callContext : GrpcCallContext)
    (request : HistoryQuiz.Request) (s : σ) {P : GrpcCallContext → HistoryQuiz.Request → Prop}
    (hP : P callContext request) :
    Ends (outside.recording.callService fresh callContext request) (s, [])
      (fun _ t => Sends P t.2) fun _ t => Sends P t.2 := by
  have hsends : Sends P [(callContext, request)] := .inr ⟨callContext, request, rfl, hP⟩
  unfold Ends Outside.recording
  dsimp only
  cases outside.callService fresh callContext request s with
  | ok result t => exact hsends
  | error e t => exact hsends

/-- The call of a logged-in user is one by the user of the session. -/
theorem sentByUser {user : SessionUser} (huser : getUser request = some user)
    (requestId : Option String) : SentByUser request ⟨requestId, some user.userId⟩ := by
  obtain ⟨stored, hstored, htrim, hne⟩ :=
    toSessionNonEmptyString_eq_some.mp (getUser_eq_some.mp huser)
  exact ⟨stored, hstored, by rwa [htrim], congrArg some htrim.symm⟩

/-! ## The actions -/

/-- An effect that a verified form allows. -/
def Post.Justified (conform : Conform) (request : Request) (post : Post) (effect : PostEffect) :
    Prop :=
  ∃ formData, request.formData = some formData ∧ TokenVerified request formData ∧
    post.Allows conform request formData effect

/-- An action that sets no cookie and sends one call at most, which `P` allows. -/
def OnlyCalls {Data : Type} (action : EStateM Raised (σ × CallLog) (Response Data)) (s : σ)
    (P : GrpcCallContext → HistoryQuiz.Request → Prop) : Prop :=
  Ends action (s, []) (fun r t => r.setCookie = none ∧ Sends P t.2)
    fun e t => e.answer.setCookie = none ∧ Sends P t.2

/-- The effect of such an action is its call. -/
theorem OnlyCalls.runEffects {Data : Type}
    {action : EStateM Raised (σ × CallLog) (Response Data)}
    {P : GrpcCallContext → HistoryQuiz.Request → Prop} (h : OnlyCalls action s P) :
    runEffects action s = [] ∨
      ∃ callContext request, runEffects action s = [.call callContext request] ∧
        P callContext request := by
  have hcookie : ∀ (outcome : Except Raised (Response Data)) (log : CallLog),
      (answerOf outcome).setCookie = none → Sends P log →
        effectsOf outcome log = [] ∨
          ∃ callContext request, effectsOf outcome log = [.call callContext request] ∧
            P callContext request := by
    intro outcome log hnone hsends
    unfold effectsOf
    rw [hnone]
    rcases hsends with rfl | ⟨callContext, request, rfl, hP⟩
    · exact .inl rfl
    · exact .inr ⟨callContext, request, rfl, hP⟩
  unfold OnlyCalls Ends at h
  unfold Client.runEffects attempt
  cases hrun : action (s, []) with
  | ok r t =>
      rw [hrun] at h
      exact hcookie (.ok r) t.2 h.1 h.2
  | error e t =>
      rw [hrun] at h
      exact hcookie (.error e) t.2 h.1 h.2

/-- The errors of the checks before a form is read set no cookie. -/
theorem acceptForm_error_cookie {random : RandomValues} {maxBytes : ℕ} {e : Raised}
    (h : acceptForm random maxBytes request = .error e) : e.answer.setCookie = none := by
  rcases acceptForm_error h with h | h | ⟨-, rfl, -⟩ | ⟨formData, checkedId, -, -, h⟩
  · exact requireAuthenticatedUser_error h
  · obtain ⟨code, message, status, -, rfl⟩ := assertRequestContentLengthWithinLimit_error h
    rfl
  · rfl
  · rw [verifyCsrfToken_error h]
    rfl

theorem Quiz.action_effects (outside : Outside σ) (random : RandomValues) (request : Request)
    (s : σ) :
    OnlyCalls (Quiz.action outside.recording random request) s fun callContext call =>
      (Post.quiz random).Justified outside.conform request (.call callContext call) := by
  unfold OnlyCalls Quiz.action
  apply ends_bind
  refine ends_ofExcept (fun checkedId hsize => ?_) fun e he => ?_
  swap
  · obtain ⟨code, message, status, -, rfl⟩ := assertRequestContentLengthWithinLimit_error he
    exact ⟨rfl, .inl rfl⟩
  cases hform : request.formData with
  | none => exact ends_throw ⟨rfl, .inl rfl⟩
  | some formData =>
      apply ends_bind
      refine ends_ofExcept (fun requestId hverify => ?_) fun e he => ?_
      swap
      · rw [verifyCsrfToken_error he]
        exact ⟨rfl, .inl rfl⟩
      -- the token is verified, and from here the only effect is the call
      obtain ⟨htoken, -⟩ := verifyCsrfToken_ok hverify
      dsimp only
      cases hparse : parseAnswerWithZod outside.recording.conform formData with
      | error errors => exact ends_pure ⟨rfl, .inl rfl⟩
      | ok value =>
          apply ends_bind
          apply ends_catching
          apply ends_bind
          refine (callService_sends outside _ _ _ s ⟨formData, hform, htoken, hparse⟩).mono
            (fun result t hsends => ?_) fun e t hsends => ends_pure ⟨rfl, hsends⟩
          cases result.response.reply with
          | answer r => exact ends_pure (ends_pure ⟨rfl, hsends⟩)
          | _ => exact ends_throw (ends_pure ⟨rfl, hsends⟩)

/-- What is made of the reply to a call leaves the state of the call. -/
theorem foundQuestion_ends {ε α : Type} {call : EStateM ε σ GrpcCallResult} {e : ε}
    {f : QuestionDetail → GrpcCallResult → α} {P : σ → Prop}
    (h : Ends call s (fun _ t => P t) fun _ t => P t) :
    Ends (do
      let result ← call
      match (questionOf result.response).filter fun question => question.id ≠ "" with
      | none => throw e
      | some question => return f question result : EStateM ε σ α) s (fun _ t => P t)
        fun _ t => P t := by
  apply ends_bind
  refine h.mono (fun result t hP => ?_) fun _ _ hP => hP
  cases (questionOf result.response).filter fun question => question.id ≠ "" with
  | none => exact ends_throw hP
  | some question => exact ends_pure hP

theorem QuestionsNew.action_effects (outside : Outside σ) (random : RandomValues)
    (request : Request) (s : σ) :
    OnlyCalls (QuestionsNew.action outside.recording random request) s fun callContext call =>
      (Post.questionsNew random).Justified outside.conform request (.call callContext call) := by
  unfold OnlyCalls QuestionsNew.action
  apply ends_bind
  refine ends_ofExcept (fun accepted haccept => ?_) fun e he =>
    ⟨acceptForm_error_cookie he, .inl rfl⟩
  obtain ⟨user, requestId, formData⟩ := accepted
  obtain ⟨huser, hform, checkedId, -, hverify⟩ := acceptForm_ok haccept
  obtain ⟨htoken, -⟩ := verifyCsrfToken_ok hverify
  dsimp only
  cases hparse : parseWithZod outside.recording.conform formData with
  | none => exact ends_pure ⟨rfl, .inl rfl⟩
  | some value =>
      apply ends_bind
      apply ends_catching
      refine (foundQuestion_ends (P := fun t => Sends (fun callContext call =>
        (Post.questionsNew random).Justified outside.conform request (.call callContext call)) t.2)
          (callService_sends outside _ _ _ s ?_)).mono ?_ ?_
      · exact ⟨formData, hform, htoken, sentByUser huser _, value, hparse, rfl⟩
      · intro found t hsends
        exact ends_pure ⟨rfl, hsends⟩
      · intro e t hsends
        exact ends_pure ⟨rfl, hsends⟩

theorem QuestionsEdit.action_effects (outside : Outside σ) (random : RandomValues)
    (id : Option String) (request : Request) (s : σ) :
    OnlyCalls (QuestionsEdit.action outside.recording random id request) s fun callContext call =>
      (Post.questionsEdit random id).Justified outside.conform request
        (.call callContext call) := by
  unfold OnlyCalls QuestionsEdit.action
  apply ends_bind
  refine ends_ofExcept (fun accepted haccept => ?_) fun e he =>
    ⟨acceptForm_error_cookie he, .inl rfl⟩
  obtain ⟨user, requestId, formData⟩ := accepted
  obtain ⟨huser, hform, checkedId, -, hverify⟩ := acceptForm_ok haccept
  obtain ⟨htoken, -⟩ := verifyCsrfToken_ok hverify
  dsimp only
  cases hid : (id.map trim).filter (· ≠ "") with
  | none => exact ends_pure ⟨rfl, .inl rfl⟩
  | some questionId =>
      dsimp only
      cases hparse : parseWithZod outside.recording.conform formData with
      | none => exact ends_pure ⟨rfl, .inl rfl⟩
      | some value =>
          apply ends_bind
          apply ends_catching
          refine (foundQuestion_ends (P := fun t => Sends (fun callContext call =>
            (Post.questionsEdit random id).Justified outside.conform request
              (.call callContext call)) t.2) (callService_sends outside _ _ _ s ?_)).mono ?_ ?_
          · exact ⟨formData, hform, htoken, sentByUser huser _,
              (Option.filter_eq_some_iff.mp hid).1, value, hparse, rfl⟩
          · intro found t hsends
            exact ends_pure ⟨rfl, hsends⟩
          · intro e t hsends
            exact ends_pure ⟨rfl, hsends⟩

/-- Logout: the session is removed for a verified token and the intent. -/
theorem Login.action_effects (conform : Conform) (fresh : String) (request : Request) :
    effectsOf (Login.action fresh request) [] = [] ∨
      effectsOf (Login.action fresh request) [] = [.destroySession] ∧
        (Post.login fresh).Justified conform request .destroySession := by
  unfold Login.action
  cases hform : request.formData with
  | none => exact .inl rfl
  | some formData =>
      dsimp only
      cases hverify : verifyCsrfToken fresh formData request none with
      | error e =>
          rw [verifyCsrfToken_error hverify]
          exact .inl rfl
      | ok requestId =>
          dsimp only
          by_cases hintent : formData.get "intent" ≠ some (.text "logout")
          · rw [if_pos hintent]
            exact .inl rfl
          · rw [if_neg hintent]
            obtain ⟨htoken, -⟩ := verifyCsrfToken_ok hverify
            exact .inr ⟨rfl, formData, hform, htoken, not_not.mp hintent⟩

/-- A post has one effect at most, and a verified form allows it. -/
theorem Post.effects_cases (outside : Outside σ) (s : σ) (request : Request) (post : Post) :
    post.effects outside s request = [] ∨
      ∃ effect, post.effects outside s request = [effect] ∧
        post.Justified outside.conform request effect := by
  have hcall : ∀ {Data : Type} {action : EStateM Raised (σ × CallLog) (Response Data)},
      (OnlyCalls action s fun callContext call =>
        post.Justified outside.conform request (.call callContext call)) →
      runEffects action s = [] ∨ ∃ effect, runEffects action s = [effect] ∧
        post.Justified outside.conform request effect := by
    intro Data action h
    rcases h.runEffects with hnone | ⟨callContext, call, hone, hjustified⟩
    · exact .inl hnone
    · exact .inr ⟨_, hone, hjustified⟩
  cases post with
  | login fresh =>
      rcases Login.action_effects outside.conform fresh request with hnone | ⟨hone, hjustified⟩
      · exact .inl hnone
      · exact .inr ⟨_, hone, hjustified⟩
  | quiz random => exact hcall (Quiz.action_effects outside random request s)
  | questionsNew random => exact hcall (QuestionsNew.action_effects outside random request s)
  | questionsEdit random id =>
      exact hcall (QuestionsEdit.action_effects outside random id request s)

end Client

end HistoryQuiz
