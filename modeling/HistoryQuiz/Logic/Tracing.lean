import HistoryQuiz.Client.Me
import HistoryQuiz.Logic.Posts

/-!
# The request id of an answer

An answer carries its request id twice, in a header and in its body, and the calls made
for it carry it in their metadata. `Exchange` is what is seen of this. Each loader and
each action is followed to its exits, where the id comes from a check, from the route or
from the call. What the methods of the clients do is left open here: whether they can be called
without their client decides what the quiz page answers (`Quiz.loader_traced`).
-/

namespace HistoryQuiz

namespace Client

open Js Throw

/-! ## Exchanges -/

/-- What is seen of a request: the status of its answer, the `x-request-id` header, the
`requestId` of the body, and the `x-request-id` entries of the calls of the backend. -/
structure Exchange where
  status : ℕ
  xRequestId : Option String
  requestId : Option String
  callIds : List (List String)
deriving DecidableEq, Repr

/-- The metadata of the calls that have been made. -/
abbrev SentLog := List Metadata

/-- The `x-request-id` entries of calls. -/
def SentLog.ids (log : SentLog) : List (List String) :=
  log.map fun metadata => metadata metadataKeyRequestID

/-- The method that keeps the metadata of the calls that it makes. -/
def UnaryMethod.recording {σ : Type} (method : UnaryMethod σ) : UnaryMethod (σ × SentLog) :=
  fun receiver => (method receiver).map fun backend metadata request s =>
    let (outcome, t) := backend metadata request s.1
    (outcome, (t, s.2 ++ [metadata]))

def Response.exchange {Data : Type} (requestIdOf : Data → Option String) (r : Response Data)
    (log : SentLog) : Exchange :=
  ⟨r.status, r.xRequestId, r.data.bind requestIdOf, log.ids⟩

/-- An error that is no response is answered by Remix, with the status 500. -/
def Raised.exchange (e : Raised) (log : SentLog) : Exchange :=
  match e with
  | .response r => r.exchange ErrorPayload.requestId log
  | .thrown _ => ⟨500, none, none, log.ids⟩

def exchangeOf {Data : Type} (requestIdOf : Data → Option String)
    (outcome : Except Raised (Response Data)) (log : SentLog) : Exchange :=
  match outcome with
  | .ok r => r.exchange requestIdOf log
  | .error e => e.exchange log

/-- An error answer has an id that is not empty: in its header, in its body, and in every call. -/
def Exchange.Traced (x : Exchange) : Prop :=
  400 ≤ x.status → ∃ id, id ≠ "" ∧ x.xRequestId = some id ∧ x.requestId = some id ∧
    ∀ entry ∈ x.callIds, entry = [id]

/-- The loaders and the actions of the four pages, with their random values and the `id` of their
path. -/
inductive Endpoint where
  | quizLoader (random : RandomValues)
  | quizAction (random : RandomValues)
  | meLoader (order : Me.AnswerOrder) (random : RandomValues)
  | questionsNewLoader (random : RandomValues)
  | questionsNewAction (random : RandomValues)
  | questionsEditLoader (random : RandomValues) (id : Option String)
  | questionsEditAction (random : RandomValues) (id : Option String)

/-- The `requestId` of an `ActionData` of the quiz. -/
def Quiz.ActionData.requestId : Quiz.ActionData → Option String
  | ok requestId _ => some requestId
  | failed _ requestId _ _ => requestId

/-- What is seen of a loader or an action that starts in `s`. -/
def runExchange {σ Data : Type} (requestIdOf : Data → Option String)
    (route : EStateM Raised (σ × SentLog) (Response Data)) (s : σ) : Exchange :=
  let (outcome, t) := attempt route (s, [])
  exchangeOf requestIdOf outcome t.2

/-- What is seen of a request, when the calls are made with this method. -/
def Endpoint.exchange {σ : Type} (readers : Readers) (conform : Conform) (wire : GrpcWire)
    (method : UnaryMethod σ) (s : σ) (request : Request) (endpoint : Endpoint) : Exchange :=
  let outside := overGrpc readers conform wire method.recording
  match endpoint with
  | quizLoader random => runExchange (fun data => some data.requestId)
      (Quiz.loader outside random request) s
  | quizAction random =>
      runExchange Quiz.ActionData.requestId (Quiz.action outside random request) s
  | meLoader order random => runExchange (fun data => some data.requestId)
      (Me.loader outside order random request) s
  | questionsNewLoader random => exchangeOf (fun _ => none) (QuestionsNew.loader random request) []
  | questionsNewAction random => runExchange QuestionActionData.requestId
      (QuestionsNew.action outside random request) s
  | questionsEditLoader random id => runExchange (fun data => some data.requestId)
      (QuestionsEdit.loader outside random id request) s
  | questionsEditAction random id => runExchange QuestionActionData.requestId
      (QuestionsEdit.action outside random id request) s

/-! ## When the id is kept -/

/-- The form of a request is read, or its size has been refused before. -/
def FormReached (random : RandomValues) (maxBytes : ℕ) (request : Request) : Prop :=
  request.formData ≠ none ∨
    ∃ e, assertRequestContentLengthWithinLimit (createRequestId random) maxBytes request none =
      .error e

/-- The call of the quiz page is made, and the backend fails or answers with a question. -/
def Quiz.QuestionReached {σ : Type} (wire : GrpcWire) (method : UnaryMethod σ) (s : σ)
    (random : RandomValues) (request : Request) : Prop :=
  let requestId := createRequestId random
  let previousQuestionId := toOptionalTrimmedString (request.searchParam "previousQuestionId")
  ∃ backend, method .params = some backend ∧
    ∃ metadata, createMetadataObject wire requestId
        ((((getUser request).map SessionUser.userId).map trim).getD "") = .ok metadata ∧
      ∀ response, (backend metadata
        (withRequestContext (.getQuestion none (previousQuestionId.getD "")) requestId) s).1 =
          .ok response → ∃ question, questionOf response = some question ∧ question.id ≠ ""

/-! ## Request ids -/

/-- A request id that passes through every step as it is. -/
def IsRequestId (id : String) : Prop := trim id = id ∧ id ≠ ""

theorem isRequestId_createRequestId (random : RandomValues) :
    IsRequestId (createRequestId random) :=
  ⟨trim_text _, Uuid.text_ne_empty _⟩

theorem isRequestId_resolveRequestId {fresh : String} (hfresh : IsRequestId fresh)
    (request : Request) : IsRequestId (resolveRequestId fresh request none) := by
  change IsRequestId (resolveRequestId.resolveHeader fresh request)
  unfold resolveRequestId.resolveHeader
  cases request.xRequestId with
  | none => exact hfresh
  | some value =>
      dsimp only [Option.map_some]
      by_cases hempty : trim value = ""
      · rw [if_neg (by simp [hempty])]
        exact hfresh
      · rw [if_pos hempty]
        exact ⟨trim_trim value, hempty⟩

theorem hasText_of_isRequestId {id : String} (h : IsRequestId id) :
    hasText (some id) = some id := by
  unfold hasText
  rw [Option.map_some, h.1, Option.filter_some, if_pos (by simpa using h.2)]

/-- An explicit id counts. -/
theorem resolveErrorRequestId_explicit (readers : Readers) {id : String} (h : IsRequestId id)
    (wrapped : Option String) (metadata : Option (String → List MetadataValue)) :
    resolveErrorRequestId readers (some id) wrapped metadata = some id := by
  unfold resolveErrorRequestId
  rw [hasText_of_isRequestId h]
  rfl

/-- Without an explicit id that of the call counts. -/
theorem resolveErrorRequestId_wrapped (readers : Readers) {id : String} (h : IsRequestId id)
    (metadata : Option (String → List MetadataValue)) :
    resolveErrorRequestId readers none (some id) metadata = some id := by
  unfold resolveErrorRequestId
  rw [hasText_of_isRequestId h]
  rfl

theorem assertRequestContentLengthWithinLimit_ok {fresh : String} {maxBytes : ℕ}
    {request : Request} {requestId : Option String} {id : String}
    (h : assertRequestContentLengthWithinLimit fresh maxBytes request requestId = .ok id) :
    id = resolveRequestId fresh request requestId := by
  unfold assertRequestContentLengthWithinLimit at h
  rcases hlength : parseContentLengthHeader request.contentLength with _ | _ | contentLength
  · rw [hlength] at h
    exact (Except.ok.inj h).symm
  · rw [hlength] at h
    cases h
  · rw [hlength] at h
    dsimp only at h
    by_cases hlimit : maxBytes < contentLength
    · rw [if_pos hlimit] at h
      cases h
    · rw [if_neg hlimit] at h
      exact (Except.ok.inj h).symm

/-! ## Calls -/

variable {σ : Type} {s : σ} {request : Request} {id : String}

/-- Every call carries the id. -/
def SentLog.Carries (id : String) (log : SentLog) : Prop := ∀ entry ∈ log.ids, entry = [id]

theorem carries_nil (id : String) : SentLog.Carries id [] := by
  intro entry hentry
  cases hentry

theorem createMetadataObject_requestId {wire : GrpcWire} {userId : String} {metadata : Metadata}
    (hid : IsRequestId id) (h : createMetadataObject wire id userId = .ok metadata) :
    metadata metadataKeyRequestID = [id] := by
  have hset : ∀ withUser, metadataSet wire metadataKeyRequestID id withUser = .ok metadata →
      metadata metadataKeyRequestID = [id] := by
    intro withUser hrequest
    obtain ⟨w, hw, rfl⟩ := metadataSet_eq_ok.mp hrequest
    obtain rfl := wire.deliver_trimmed hid.2 hid.1 hw
    exact Function.update_self ..
  unfold createMetadataObject at h
  by_cases hempty : userId ≠ ""
  · rw [if_pos hempty] at h
    obtain ⟨withUser, -, hrequest⟩ := except_bind_eq_ok.mp h
    exact hset withUser hrequest
  · rw [if_neg hempty] at h
    exact hset _ h

/-- How a call ends: it is not made, or as the backend answers it. -/
theorem ends_invokeUnary {wire : GrpcWire} {method : UnaryMethod σ} {fresh userId : String}
    {callContext : GrpcCallContext} {call : HistoryQuiz.Request} {Q : GrpcCallResult → σ → Prop}
    {E : Thrown → σ → Prop}
    (hnormal : normalizeCallContext fresh callContext = ⟨id, userId⟩)
    (hunmade : method .params = none ∨ createMetadataObject wire id userId = .error .platform →
      E .platform s)
    (hmade : ∀ backend metadata, method .params = some backend →
      createMetadataObject wire id userId = .ok metadata →
      match backend metadata (withRequestContext call id) s with
      | (.ok response, t) => Q ⟨id, response⟩ t
      | (.error status, t) => E (.grpcCallError (toServiceError status) id) t) :
    Ends (invokeUnary wire method fresh callContext call) s Q E := by
  unfold invokeUnary
  rw [hnormal]
  dsimp only
  cases hmetadata : createMetadataObject wire id userId with
  | error e =>
      obtain rfl := createMetadataObject_eq_error hmetadata
      exact hunmade (.inr hmetadata)
  | ok metadata =>
      cases hmethod : method .params with
      | none => exact hunmade (.inl hmethod)
      | some backend =>
          have hends := hmade backend metadata hmethod hmetadata
          refine ends_bind (ends_get ?_)
          cases hreply : backend metadata (withRequestContext call id) s with
          | mk outcome t =>
              rw [hreply] at hends
              cases outcome <;> exact hends

/-- How a call ends that is made with a request id: the calls carry it, and so does the error of
the backend. -/
theorem invokeUnary_carries {wire : GrpcWire} {method : UnaryMethod σ} (hid : IsRequestId id)
    {fresh userId : String} {callContext : GrpcCallContext}
    (hnormal : normalizeCallContext fresh callContext = ⟨id, userId⟩)
    (call : HistoryQuiz.Request) {t : σ × SentLog} (h : t.2.Carries id) :
    Ends (invokeUnary wire method.recording fresh callContext call) t
      (fun result t' => t'.2.Carries id ∧ result.requestId = id ∧ ∃ backend metadata,
        method .params = some backend ∧ createMetadataObject wire id userId = .ok metadata ∧
        (backend metadata (withRequestContext call id) t.1).1 = .ok result.response)
      fun e t' => t'.2.Carries id ∧
        ((method .params = none ∨ createMetadataObject wire id userId = .error .platform) ∧
            e = .platform ∨
          ∃ backend metadata status, method .params = some backend ∧
            createMetadataObject wire id userId = .ok metadata ∧
            (backend metadata (withRequestContext call id) t.1).1 = .error status ∧
            e = .grpcCallError (toServiceError status) id) := by
  have hcarries : ∀ metadata, createMetadataObject wire id userId = .ok metadata →
      SentLog.Carries id (t.2 ++ [metadata]) := by
    intro metadata hmetadata entry hentry
    unfold SentLog.ids at hentry
    rw [List.map_append, List.mem_append] at hentry
    rcases hentry with hentry | hentry
    · exact h entry hentry
    · rw [List.mem_singleton.mp hentry]
      exact createMetadataObject_requestId hid hmetadata
  refine ends_invokeUnary hnormal ?_ ?_
  · intro hunmade
    refine ⟨h, .inl ⟨hunmade.imp_left fun hnone => ?_, rfl⟩⟩
    exact Option.map_eq_none_iff.mp hnone
  · intro recorded metadata hrecorded hmetadata
    obtain ⟨backend, hbackend, rfl⟩ := Option.map_eq_some_iff.mp hrecorded
    dsimp only
    cases hreply : backend metadata (withRequestContext call id) t.1 with
    | mk outcome t' =>
        cases outcome with
        | ok response =>
            exact ⟨hcarries metadata hmetadata, rfl, backend, metadata, hbackend, hmetadata,
              congrArg Prod.fst hreply⟩
        | error status =>
            exact ⟨hcarries metadata hmetadata, .inr ⟨backend, metadata, status, hbackend,
              hmetadata, congrArg Prod.fst hreply, rfl⟩⟩

/-! ## Exits -/

theorem Exchange.traced_of_id {x : Exchange} (hid : id ≠ "") (hheader : x.xRequestId = some id)
    (hbody : x.requestId = some id) (hcalls : ∀ entry ∈ x.callIds, entry = [id]) : x.Traced :=
  fun _ => ⟨id, hid, hheader, hbody, hcalls⟩

theorem Exchange.traced_of_lt {x : Exchange} (h : x.status < 400) : x.Traced :=
  fun herror => absurd herror (Nat.not_le.mpr h)

theorem Exchange.not_traced {x : Exchange} (herror : 400 ≤ x.status) (h : x.xRequestId = none) :
    ¬x.Traced := by
  intro htraced
  obtain ⟨id, -, hheader, -⟩ := htraced herror
  rw [h] at hheader
  cases hheader

/-- The status of an error without a code. -/
theorem le_unknown : 400 ≤ mapGrpcCodeToHttpStatus "UNKNOWN" := by decide

/-- A response that answers with the id in both places. -/
theorem traced_json {Data : Type} {requestIdOf : Data → Option String} {data : Data} {status : ℕ}
    {setCookie : Option SetCookie} {log : SentLog} (hid : IsRequestId id)
    (hbody : requestIdOf data = some id) (hlog : log.Carries id) :
    ((json data status setCookie (some id)).exchange requestIdOf log).Traced :=
  Exchange.traced_of_id hid.2 rfl hbody hlog

/-- A response that answers an error with the explicit id of the route. -/
theorem traced_normalized {Data : Type} {requestIdOf : Data → Option String} {data : Data}
    {status : ℕ} {readers : Readers} {error : Unknown} {fallbackMessage : Option String}
    {log : SentLog} (hid : IsRequestId id)
    (hbody : requestIdOf data =
      (normalizeGrpcHttpError readers error fallbackMessage (some id)).requestId)
    (hlog : log.Carries id) :
    ((json data status none
      (normalizeGrpcHttpError readers error fallbackMessage (some id)).requestId).exchange
        requestIdOf log).Traced := by
  have hresolved := resolveErrorRequestId_explicit readers hid
    (extractServiceError error).2 ((extractServiceError error).1.bind ErrorObject.metadata)
  exact Exchange.traced_of_id hid.2 hresolved (hbody.trans hresolved) hlog

theorem traced_throwGrpcErrorResponse {readers : Readers} {error : Thrown}
    {fallbackMessage : Option String} {log : SentLog} (hid : IsRequestId id)
    (hlog : log.Carries id) :
    ((throwGrpcErrorResponse readers error fallbackMessage (some id)).exchange log).Traced :=
  traced_normalized hid rfl hlog

theorem traced_failedSubmission {readers : Readers} {error : Thrown} {fallbackMessage : String}
    {log : SentLog} (hid : IsRequestId id) (hlog : log.Carries id) :
    ((failedSubmission readers error fallbackMessage id).exchange QuestionActionData.requestId
      log).Traced :=
  traced_normalized hid rfl hlog

/-- What holds of every end of a route holds of what is seen of it. -/
theorem runExchange_ends {Data : Type} {requestIdOf : Data → Option String}
    {route : EStateM Raised (σ × SentLog) (Response Data)} {P : Exchange → Prop}
    (h : Ends route (s, []) (fun r t => P (r.exchange requestIdOf t.2))
      fun e t => P (e.exchange t.2)) : P (runExchange requestIdOf route s) := by
  unfold Ends at h
  unfold runExchange attempt
  cases hrun : route (s, []) with
  | ok r t =>
      rw [hrun] at h
      exact h
  | error e t =>
      rw [hrun] at h
      exact h

theorem runExchange_iff {Data : Type} {requestIdOf : Data → Option String}
    {route : EStateM Raised (σ × SentLog) (Response Data)} {P : Prop}
    (h : Ends route (s, []) (fun r t => (r.exchange requestIdOf t.2).Traced ↔ P)
      fun e t => (e.exchange t.2).Traced ↔ P) :
    (runExchange requestIdOf route s).Traced ↔ P :=
  runExchange_ends (P := fun x => x.Traced ↔ P) h

/-! ## The loaders -/

variable (readers : Readers) (conform : Conform) (wire : GrpcWire) (method : UnaryMethod σ)

theorem Quiz.loader_traced (s : σ) (random : RandomValues)
    (request : Request) :
    ((Endpoint.quizLoader random).exchange readers conform wire method s request).Traced ↔
      Quiz.QuestionReached wire method s random request := by
  have hid := isRequestId_createRequestId random
  apply runExchange_iff
  unfold Quiz.loader
  apply ends_bind
  apply ends_catching
  apply ends_bind
  refine (invokeUnary_carries hid rfl _ (carries_nil _)).mono ?_ ?_
  · rintro result t ⟨hlog, hrequestId, backend, metadata, hbackend, hmetadata, hresponse⟩
    cases hquestion : (questionOf result.response).filter fun question => question.id ≠ "" with
    | none =>
        -- A reply without a question: the error has no request id.
        refine ends_throw (ends_throw (iff_of_false (Exchange.not_traced le_unknown rfl) ?_))
        rintro ⟨backend', hbackend', metadata', hmetadata', hreached⟩
        obtain rfl := Option.some.inj (hbackend.symm.trans hbackend')
        obtain rfl := Except.ok.inj (hmetadata.symm.trans hmetadata')
        obtain ⟨question, hsome, hne⟩ := hreached _ hresponse
        rw [hsome, Option.filter_some, if_pos (by simpa using hne)] at hquestion
        cases hquestion
    | some question =>
        obtain ⟨hsome, hne⟩ := Option.filter_eq_some_iff.mp hquestion
        refine ends_pure (ends_pure (iff_of_true (Exchange.traced_of_lt (show 200 < 400 by decide))
          ⟨backend, hbackend, metadata, hmetadata, ?_⟩))
        intro response hresponse'
        obtain rfl := Except.ok.inj (hresponse.symm.trans hresponse')
        exact ⟨question, hsome, by simpa using hne⟩
  · rintro e t ⟨hlog, ⟨hunmade, rfl⟩ | ⟨backend, metadata, status, hbackend, hmetadata, hstatus,
      rfl⟩⟩
    · refine ends_throw (iff_of_false (Exchange.not_traced le_unknown rfl) ?_)
      rintro ⟨backend', hbackend', metadata', hmetadata', -⟩
      rcases hunmade with hnone | herror
      · cases hnone.symm.trans hbackend'
      · cases herror.symm.trans hmetadata'
    · have hresolved := resolveErrorRequestId_wrapped readers hid
        (some fun _ => [])
      refine ends_throw (iff_of_true (Exchange.traced_of_id hid.2 hresolved hresolved hlog)
        ⟨backend, hbackend, metadata, hmetadata, ?_⟩)
      intro response hresponse
      cases hstatus.symm.trans hresponse

/-- Without a user the question pages answer with a redirect. -/
theorem requireAuthenticatedUser_traced {e : Raised}
    (h : requireAuthenticatedUser request = .error e) :
    getUser request = none ∧ ∀ log, (e.exchange log).Traced := by
  obtain ⟨hnone, rfl⟩ := requireAuthenticatedUser_eq_error.mp h
  exact ⟨hnone, fun log => Exchange.traced_of_lt (show 302 < 400 by decide)⟩

theorem Me.loader_traced (s : σ) (order : Me.AnswerOrder)
    (random : RandomValues) (request : Request) :
    ((Endpoint.meLoader order random).exchange readers conform wire method s request).Traced ↔
      True := by
  have hid := isRequestId_createRequestId random
  apply runExchange_iff
  unfold Me.loader
  apply ends_bind
  refine ends_ofExcept (fun user huser => ?_) fun e he => ?_
  swap
  · exact iff_of_true ((requireAuthenticatedUser_traced he).2 _) trivial
  apply ends_bind
  apply ends_catching
  refine (Ends.runAll (P := fun t : σ × SentLog => t.2.Carries (createRequestId random)) ?_
    (carries_nil _)).mono (fun replies t hlog => ?_) fun e t hlog => ?_
  · intro call hcall t hlog
    obtain ⟨pageSection, -, rfl⟩ := List.mem_map.mp hcall
    apply ends_bind
    exact (invokeUnary_carries hid rfl _ hlog).mono (fun _ _ h => ends_pure h.1)
      fun _ _ h => h.1
  · exact ends_pure (iff_of_true (Exchange.traced_of_lt (show 200 < 400 by decide)) trivial)
  · exact ends_throw (iff_of_true (traced_throwGrpcErrorResponse hid hlog) trivial)

theorem QuestionsNew.loader_traced (s : σ) (random : RandomValues)
    (request : Request) :
    ((Endpoint.questionsNewLoader random).exchange readers conform wire method s request).Traced ↔
      True := by
  refine iff_of_true ?_ trivial
  change (exchangeOf (fun _ => none) (QuestionsNew.loader random request) []).Traced
  cases hanswer : QuestionsNew.loader random request with
  | ok r =>
      obtain ⟨user, -, hreturn⟩ := except_bind_eq_ok.mp hanswer
      cases hreturn
      exact Exchange.traced_of_lt (show 200 < 400 by decide)
  | error e =>
      rcases except_bind_eq_error.mp hanswer with he | ⟨user, -, he⟩
      · exact (requireAuthenticatedUser_traced he).2 _
      · cases he

theorem QuestionsEdit.loader_traced (s : σ) (random : RandomValues)
    (id : Option String) (request : Request) :
    ((Endpoint.questionsEditLoader random id).exchange readers conform wire method s
      request).Traced ↔ getUser request = none ∨ (id.map trim).getD "" ≠ "" := by
  have hid := isRequestId_createRequestId random
  apply runExchange_iff
  unfold QuestionsEdit.loader
  apply ends_bind
  refine ends_ofExcept (fun user huser => ?_) fun e he => ?_
  swap
  · obtain ⟨hnone, htraced⟩ := requireAuthenticatedUser_traced he
    exact iff_of_true (htraced _) (.inl hnone)
  have hsome : getUser request ≠ none := by
    rw [requireAuthenticatedUser_eq_ok.mp huser]
    simp
  apply ends_bind
  by_cases hblank : (id.map trim).getD "" = ""
  · -- The answer to a blank id has no request id.
    have hrefused : resolveRequiredQuestionId id =
        .error (.response (json ⟨none, "id が指定されていません。", [], none⟩ 400 none none)) := by
      unfold resolveRequiredQuestionId
      rw [if_pos hblank]
    rw [hrefused]
    refine iff_of_false (Exchange.not_traced (le_refl 400) rfl) ?_
    rintro (hnone | hne)
    · exact hsome hnone
    · exact hne hblank
  · have haccepted : resolveRequiredQuestionId id = .ok ((id.map trim).getD "") := by
      unfold resolveRequiredQuestionId
      rw [if_neg hblank]
    rw [haccepted]
    have hlost : ∀ e (t : σ × SentLog), t.2.Carries (createRequestId random) →
        (((throwGrpcErrorResponse readers e
          (some "問題の取得に失敗しました。時間をおいて再試行してください。")
          (some (createRequestId random))).exchange t.2).Traced ↔
            getUser request = none ∨ (id.map trim).getD "" ≠ "") :=
      fun e t hlog => iff_of_true (traced_throwGrpcErrorResponse hid hlog) (.inr hblank)
    apply ends_bind
    apply ends_catching
    apply ends_bind
    refine (invokeUnary_carries hid rfl _ (carries_nil _)).mono ?_ ?_
    · rintro result t ⟨hlog, -⟩
      cases (questionOf result.response).filter fun question => question.id ≠ "" with
      | none => exact ends_throw (ends_throw (hlost _ t hlog))
      | some question =>
          apply ends_bind
          refine ends_ofExcept (fun initialValues _ => ?_) fun e _ => ends_throw (hlost e t hlog)
          exact ends_pure (ends_pure
            (iff_of_true (Exchange.traced_of_lt (show 200 < 400 by decide)) (.inr hblank)))
    · rintro e t ⟨hlog, -⟩
      exact ends_throw (hlost e t hlog)

/-! ## The actions -/

variable {random : RandomValues} {maxBytes : ℕ}

/-- A request whose size is refused. -/
theorem sizeRefused_traced {e : Raised}
    (h : assertRequestContentLengthWithinLimit (createRequestId random) maxBytes request none =
      .error e) : (e.exchange []).Traced := by
  obtain ⟨code, message, status, -, rfl⟩ := assertRequestContentLengthWithinLimit_error h
  have hid := isRequestId_resolveRequestId (isRequestId_createRequestId random) request
  exact traced_json hid rfl (carries_nil _)

/-- A form whose token is refused. -/
theorem csrfRefused_traced {e : Raised} {checkedId : String} {formData : FormData}
    (hchecked : assertRequestContentLengthWithinLimit (createRequestId random) maxBytes request
      none = .ok checkedId)
    (h : verifyCsrfToken (createRequestId random) formData request (some checkedId) = .error e) :
    (e.exchange []).Traced := by
  rw [verifyCsrfToken_error h, assertRequestContentLengthWithinLimit_ok hchecked]
  have hid := isRequestId_resolveRequestId (isRequestId_createRequestId random) request
  exact traced_json hid rfl (carries_nil _)

/-- The id of a form that is accepted. -/
theorem isRequestId_verified {checkedId requestId : String} {formData : FormData}
    (hchecked : assertRequestContentLengthWithinLimit (createRequestId random) maxBytes request
      none = .ok checkedId)
    (h : verifyCsrfToken (createRequestId random) formData request (some checkedId) =
      .ok requestId) : IsRequestId requestId := by
  obtain rfl := (verifyCsrfToken_ok h).2
  obtain rfl := assertRequestContentLengthWithinLimit_ok hchecked
  exact isRequestId_resolveRequestId (isRequestId_createRequestId random) request

/-- A form that cannot be read: the answer has no request id. -/
theorem unread_not_traced {checkedId : String} (hform : request.formData = none)
    (hchecked : assertRequestContentLengthWithinLimit (createRequestId random) maxBytes request
      none = .ok checkedId) :
    ¬((Raised.thrown .platform).exchange []).Traced ∧ ¬FormReached random maxBytes request := by
  refine ⟨Exchange.not_traced (show 400 ≤ 500 by decide) rfl, ?_⟩
  rintro (hread | ⟨e, he⟩)
  · exact hread hform
  · cases hchecked.symm.trans he

theorem Quiz.action_traced (s : σ) (random : RandomValues)
    (request : Request) :
    ((Endpoint.quizAction random).exchange readers conform wire method s request).Traced ↔
      FormReached random QUIZ_ACTION_MAX_BODY_BYTES request := by
  apply runExchange_iff
  unfold Quiz.action
  apply ends_bind
  refine ends_ofExcept (fun checkedId hchecked => ?_) fun e he =>
    iff_of_true (sizeRefused_traced he) (.inr ⟨e, he⟩)
  cases hform : request.formData with
  | none =>
      obtain ⟨hlost, hunread⟩ := unread_not_traced hform hchecked
      exact ends_throw (iff_of_false hlost hunread)
  | some formData =>
      have hreached : FormReached random QUIZ_ACTION_MAX_BODY_BYTES request :=
        .inl (by simp [hform])
      apply ends_bind
      refine ends_ofExcept (fun requestId hverify => ?_) fun e he =>
        iff_of_true (csrfRefused_traced hchecked he) hreached
      have hid := isRequestId_verified hchecked hverify
      dsimp only [overGrpc]
      cases parseAnswerWithZod conform formData with
      | error errors => exact ends_pure (iff_of_true (traced_json hid rfl (carries_nil _)) hreached)
      | ok value =>
          apply ends_bind
          apply ends_catching
          apply ends_bind
          refine (invokeUnary_carries hid rfl _ (carries_nil _)).mono
            (fun result t hresult => ?_) fun e t herror =>
              ends_pure (iff_of_true (traced_normalized hid rfl herror.1) hreached)
          cases result.response.reply with
          | answer r =>
              exact ends_pure (ends_pure
                (iff_of_true (Exchange.traced_of_lt (show 200 < 400 by decide)) hreached))
          | _ =>
              exact ends_throw (ends_pure
                (iff_of_true (traced_normalized hid rfl hresult.1) hreached))

/-- How the checks before a form end: an error is traced unless the form cannot be read, and the
id of a form that is accepted is one. -/
theorem acceptForm_error_traced {e : Raised} (h : acceptForm random maxBytes request = .error e) :
    (e.exchange []).Traced ↔ getUser request = none ∨ FormReached random maxBytes request := by
  rcases acceptForm_error h with h | h | ⟨hform, rfl, huser, checkedId, hchecked⟩ |
    ⟨formData, checkedId, hform, hchecked, hverify⟩
  · obtain ⟨hnone, htraced⟩ := requireAuthenticatedUser_traced h
    exact iff_of_true (htraced _) (.inl hnone)
  · exact iff_of_true (sizeRefused_traced h) (.inr (.inr ⟨e, h⟩))
  · obtain ⟨hlost, hunread⟩ := unread_not_traced hform hchecked
    refine iff_of_false hlost ?_
    rintro (hnone | hreached)
    · rw [hnone] at huser
      cases huser
    · exact hunread hreached
  · exact iff_of_true (csrfRefused_traced hchecked hverify) (.inr (.inl (by simp [hform])))

theorem acceptForm_ok_traced {user : SessionUser} {requestId : String}
    {formData : FormData}
    (h : acceptForm random maxBytes request = .ok (user, requestId, formData)) :
    IsRequestId requestId ∧ FormReached random maxBytes request := by
  obtain ⟨-, hform, checkedId, hchecked, hverify⟩ := acceptForm_ok h
  exact ⟨isRequestId_verified hchecked hverify, .inl (by simp [hform])⟩

theorem QuestionsNew.action_traced (s : σ) (random : RandomValues)
    (request : Request) :
    ((Endpoint.questionsNewAction random).exchange readers conform wire method s request).Traced ↔
      getUser request = none ∨
        FormReached random QUESTION_CREATE_ACTION_MAX_BODY_BYTES request := by
  apply runExchange_iff
  unfold QuestionsNew.action
  apply ends_bind
  refine ends_ofExcept (fun accepted haccept => ?_) fun e he => acceptForm_error_traced he
  obtain ⟨user, requestId, formData⟩ := accepted
  obtain ⟨hid, hreached⟩ := acceptForm_ok_traced haccept
  dsimp only
  cases parseWithZod (overGrpc readers conform wire method.recording).conform formData with
  | none => exact ends_pure (iff_of_true (traced_json hid rfl (carries_nil _)) (.inr hreached))
  | some value =>
      apply ends_bind
      apply ends_catching
      refine (foundQuestion_ends (P := fun t : σ × SentLog => t.2.Carries requestId)
        ((invokeUnary_carries hid rfl _ (carries_nil _)).mono (fun _ _ h => h.1)
          fun _ _ h => h.1)).mono (fun found t hlog => ?_) fun e t hlog => ?_
      · exact ends_pure
          (iff_of_true (Exchange.traced_of_lt (show 200 < 400 by decide)) (.inr hreached))
      · exact ends_pure (iff_of_true (traced_failedSubmission hid hlog) (.inr hreached))

theorem QuestionsEdit.action_traced (s : σ) (random : RandomValues)
    (id : Option String) (request : Request) :
    ((Endpoint.questionsEditAction random id).exchange readers conform wire method s
      request).Traced ↔ getUser request = none ∨
        FormReached random QUESTION_EDIT_ACTION_MAX_BODY_BYTES request := by
  apply runExchange_iff
  unfold QuestionsEdit.action
  apply ends_bind
  refine ends_ofExcept (fun accepted haccept => ?_) fun e he => acceptForm_error_traced he
  obtain ⟨user, requestId, formData⟩ := accepted
  obtain ⟨hid, hreached⟩ := acceptForm_ok_traced haccept
  dsimp only
  cases (id.map trim).filter (· ≠ "") with
  | none => exact ends_pure (iff_of_true (traced_json hid rfl (carries_nil _)) (.inr hreached))
  | some questionId =>
      dsimp only
      cases parseWithZod (overGrpc readers conform wire method.recording).conform formData with
      | none => exact ends_pure (iff_of_true (traced_json hid rfl (carries_nil _)) (.inr hreached))
      | some value =>
          apply ends_bind
          apply ends_catching
          refine (foundQuestion_ends (P := fun t : σ × SentLog => t.2.Carries requestId)
            ((invokeUnary_carries hid rfl _ (carries_nil _)).mono (fun _ _ h => h.1)
              fun _ _ h => h.1)).mono (fun found t hlog => ?_) fun e t hlog => ?_
          · exact ends_pure
              (iff_of_true (Exchange.traced_of_lt (show 200 < 400 by decide)) (.inr hreached))
          · exact ends_pure (iff_of_true (traced_failedSubmission hid hlog) (.inr hreached))

end Client

end HistoryQuiz
