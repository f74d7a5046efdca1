import HistoryQuiz.Theorems.EditForm
import HistoryQuiz.Theorems.FieldErrors

/-!
# Errors on their way to the visitor

* `field_errors_never_shown`: of the error of a draft only its code and its message cross the
  boundary, so no violation of a draft is ever shown at its field of the form.
* `internal_causes_stay`: what is below the first application error of a chain stays inside,
  and the details of a sensitive error are not shown.
-/

namespace HistoryQuiz

namespace Client

open Js QuestionUsecase

/-! ## Field errors -/

theorem draftViolations_ne_nil {draft : QuestionDraft} {e : GoError}
    (h : validateDraft draft = some e) :
    draftViolations draft ≠ [] ∧ e = invalidArgument "入力が不正です" (draftViolations draft) := by
  unfold validateDraft at h
  by_cases hpos : 0 < (draftViolations draft).length
  · rw [if_pos hpos] at h
    exact ⟨List.ne_nil_of_length_pos hpos, (Option.some.inj h).symm⟩
  · rw [if_neg hpos] at h
    cases h

/-- Every field that `validateDraft` names is a field of the form. -/
theorem mapped_draftViolations (draft : QuestionDraft) : ∀ v ∈ draftViolations draft,
    (mapQuestionGrpcFieldToConformField v.field).isSome = true := by
  have hfields : ∀ i < 4, (mapQuestionGrpcFieldToConformField
      ("draft.choices[" ++ itoa i ++ "]")).isSome = true := by decide
  intro v hv
  unfold draftViolations at hv
  rcases List.mem_append.mp hv with hv | hv
  · rcases List.mem_append.mp hv with hv | hv
    · split_ifs at hv
      · rw [List.mem_singleton.mp hv]
        decide
      · cases hv
    · split_ifs at hv with hlength
      · rw [List.mem_singleton.mp hv]
        decide
      · obtain ⟨c, hmem, hc⟩ := List.mem_filterMap.mp hv
        split_ifs at hc
        cases hc
        have hindex : c.2 < 4 := by
          rw [← not_not.mp hlength]
          exact List.snd_lt_of_mem_zipIdx hmem
        exact hfields c.2 hindex
  · split_ifs at hv
    · rw [List.mem_singleton.mp hv]
      decide
    · cases hv

/-- The answer of an action to the error of a draft, once it has become a status and an error of
the library. -/
def draftErrorAnswer (readers : Readers) (e : GoError)
    (callRequestId fallbackMessage requestId : String) : Response QuestionActionData :=
  failedSubmission readers (.grpcCallError (toServiceError (toStatusError e)) callRequestId)
    fallbackMessage requestId

/-- The answer shows the description of the violation at its field of the form. -/
def ShowsViolation (answer : Response QuestionActionData) (v : HistoryQuiz.FieldViolation) : Prop :=
  ∃ data f, answer.data = some data ∧ mapQuestionGrpcFieldToConformField v.field = some f ∧
    v.description ∈ messagesOf data.fieldErrors f

/-- The metadata of the error has no violations. -/
theorem draftErrorAnswer_fieldErrors (readers : Readers) (e : GoError)
    (callRequestId fallbackMessage requestId : String) : ∃ data,
      (draftErrorAnswer readers e callRequestId fallbackMessage requestId).data = some data ∧
      data.fieldErrors = [] :=
  ⟨_, rfl, rfl⟩

/-- For every draft that `validateDraft` refuses, and whatever the message of the action is: each of
its violations names a field of the form, and none of them is shown there. So in no case are all of
them shown. -/
theorem field_errors_never_shown (readers : Readers) {draft : QuestionDraft} {e : GoError}
    (h : validateDraft draft = some e) (callRequestId fallbackMessage requestId : String) :
    (∀ v ∈ draftViolations draft, (mapQuestionGrpcFieldToConformField v.field).isSome = true ∧
      ¬ShowsViolation (draftErrorAnswer readers e callRequestId fallbackMessage requestId) v) ∧
    ¬∀ v ∈ draftViolations draft,
      ShowsViolation (draftErrorAnswer readers e callRequestId fallbackMessage requestId) v := by
  have hnone : ∀ v, ¬ShowsViolation
      (draftErrorAnswer readers e callRequestId fallbackMessage requestId) v := by
    rintro v ⟨data, f, hdata, -, hmessage⟩
    obtain ⟨data', hdata', hempty⟩ :=
      draftErrorAnswer_fieldErrors readers e callRequestId fallbackMessage requestId
    obtain rfl : data = data' := Option.some.inj (hdata.symm.trans hdata')
    rw [hempty] at hmessage
    cases hmessage
  refine ⟨fun v hv => ⟨mapped_draftViolations draft v hv, hnone v⟩, ?_⟩
  intro hall
  obtain ⟨hne, -⟩ := draftViolations_ne_nil h
  obtain ⟨v, hv⟩ := List.exists_mem_of_ne_nil _ hne
  exact hnone v (hall v hv)

/-! ### A blank prompt -/

/-- Alice's question without its prompt. -/
def blankPromptDraft : QuestionDraft := { sampleValue.draft with prompt := "" }

/-- Its draft is refused for the prompt, and the answer has no error at the field. -/
theorem prompt_error_dropped :
    validateDraft blankPromptDraft =
      some (invalidArgument "入力が不正です" [⟨"draft.prompt", "必須です"⟩]) ∧
    mapQuestionGrpcFieldToConformField "draft.prompt" = some "prompt" ∧
    (draftErrorAnswer promptReaders
      (invalidArgument "入力が不正です" [⟨"draft.prompt", "必須です"⟩]) "call"
      "問題の保存に失敗しました。時間をおいて再試行してください。" "request").data.map
        (fun data => messagesOf data.fieldErrors "prompt") = some [] := by
  refine ⟨by decide, by decide, by decide +kernel⟩

theorem field_errors_never_shown_blank :
    ¬∀ v ∈ draftViolations blankPromptDraft, ShowsViolation (draftErrorAnswer
      promptReaders (invalidArgument "入力が不正です" [⟨"draft.prompt", "必須です"⟩]) "call"
        "問題の保存に失敗しました。時間をおいて再試行してください。" "request") v :=
  (field_errors_never_shown promptReaders (by decide) "call" _ "request").2

/-! ## Internal causes -/

end Client

namespace GoError

/-- The error and all that `errors.Unwrap` finds below it. -/
def unwrapChain : GoError → List GoError
  | appCause code message fieldViolations cause =>
      appCause code message fieldViolations cause :: cause.unwrapChain
  | wrap text cause => wrap text cause :: cause.unwrapChain
  | e => [e]

/-- The code and the message of an `*apperror.Error`; other errors have none. -/
def codeAndMessage : GoError → Option (Code × String)
  | app code message _ => some (code, message)
  | appCause code message _ _ => some (code, message)
  | _ => none

/-- The first `*apperror.Error` along the whole chain of an error, if it has one. -/
def firstAppError (e : GoError) : Option (Code × String) :=
  e.unwrapChain.findSome? codeAndMessage

theorem firstAppError_eq (e : GoError) : e.firstAppError = e.asAppError := by
  induction e with
  | app code message fieldViolations => rfl
  | appCause code message fieldViolations cause ih => rfl
  | wrap text cause ih => exact ih
  | errorf text => rfl
  | driver error => rfl

end GoError

namespace Client

open Js

/-- The error with another text of its details. -/
def Unknown.withDetails (details : String) : Unknown → Unknown
  | grpcCallError grpcError requestId => grpcCallError (grpcError.withDetails details) requestId
  | object error => object { error with details := some details }
  | other => other

theorem asServiceError_withDetails (details : String) (error : Unknown) :
    asServiceError (error.withDetails details) =
      (asServiceError error).map fun e => { e with details := some details } := by
  cases error <;> rfl

/-- Other details change the details of the service error, and nothing else. -/
theorem extractServiceError_withDetails (details : String) (error : Unknown) :
    extractServiceError (error.withDetails details) =
      ((extractServiceError error).1.map fun e => { e with details := some details },
        (extractServiceError error).2) := by
  cases error with
  | grpcCallError grpcError requestId =>
      exact congrArg (·, some requestId) (asServiceError_withDetails details grpcError)
  | object error => rfl
  | other => rfl

/-- The message of a sensitive code is made without the details. -/
theorem buildUserFacingMessage_sensitive {grpcCode : String} (h : grpcCode ∈ SENSITIVE_GRPC_CODES)
    (fallbackMessage serviceMessage serviceMessage' : Option String) :
    buildUserFacingMessage fallbackMessage grpcCode serviceMessage =
      buildUserFacingMessage fallbackMessage grpcCode serviceMessage' := by
  unfold buildUserFacingMessage
  rw [if_pos h, if_pos h]

/-- The payload of a sensitive code does not depend on the details. -/
theorem payload_withDetails {readers : Readers} {error : Unknown}
    {fallbackMessage requestId : Option String}
    (h : (normalizeGrpcHttpError readers error fallbackMessage requestId).grpcCode ∈
      SENSITIVE_GRPC_CODES) (details : String) :
    (normalizeGrpcHttpError readers (error.withDetails details) fallbackMessage
      requestId).payload =
    (normalizeGrpcHttpError readers error fallbackMessage requestId).payload := by
  unfold normalizeGrpcHttpError at h ⊢
  rw [extractServiceError_withDetails]
  rcases hextract : extractServiceError error with ⟨_ | serviceError, wrappedRequestId⟩
  · rfl
  · rw [hextract] at h
    simp only [Option.map_some, Option.bind_some] at h ⊢
    rw [buildUserFacingMessage_sensitive h _ (some details) serviceError.details]

/-- Two errors of the backend with the same first application error, or without any, become one
status, and whatever the client receives of it, the route answers with the same HTTP status and
the same payload. The payload of a sensitive code does not change with the details of its
error. -/
theorem internal_causes_stay (readers : Readers) (fallbackMessage requestId : Option String) :
    (∀ e e' : GoError, e.firstAppError = e'.firstAppError →
      toStatusError e = toStatusError e' ∧
      ∀ received : Status → Unknown,
        let normalized := fun e : GoError => normalizeGrpcHttpError readers
          (received (toStatusError e)) fallbackMessage requestId
        (normalized e).httpStatus = (normalized e').httpStatus ∧
          (normalized e).payload = (normalized e').payload) ∧
    ∀ error : Unknown,
      let normalized := fun error : Unknown =>
        normalizeGrpcHttpError readers error fallbackMessage requestId
      (normalized error).grpcCode ∈ SENSITIVE_GRPC_CODES →
      ∀ details, (normalized (error.withDetails details)).payload = (normalized error).payload := by
  refine ⟨?_, fun error hsensitive details => payload_withDetails hsensitive details⟩
  intro e e' hfirst
  -- the status is made of the first application error only
  have hstatus : toStatusError e = toStatusError e' := by
    rw [GoError.firstAppError_eq, GoError.firstAppError_eq] at hfirst
    unfold toStatusError
    rw [hfirst]
  refine ⟨hstatus, ?_⟩
  intro received
  exact ⟨congrArg (fun status => NormalizedGrpcHttpError.httpStatus
      (normalizeGrpcHttpError readers (received status) fallbackMessage
        requestId)) hstatus,
    congrArg (fun status => NormalizedGrpcHttpError.payload
      (normalizeGrpcHttpError readers (received status) fallbackMessage
        requestId)) hstatus⟩

/-- Two chains of different depth with one first application error, and an internal error with
other details. -/
theorem internal_causes_stay_wrapped :
    toStatusError (.wrap "deep" (internal "失敗" (.driver .unavailable))) =
        toStatusError (internal "失敗" (.wrap "a" (.wrap "b" (notFound "x")))) ∧
    (normalizeGrpcHttpError promptReaders
        (.object ⟨.string " INTERNAL ", some "disk 7 is full", none⟩) none none).payload =
      (normalizeGrpcHttpError promptReaders
        (.object ⟨.string " INTERNAL ", some "secret", none⟩) none none).payload :=
  ⟨((internal_causes_stay promptReaders none none).1 _ _ (by decide)).1,
    (internal_causes_stay promptReaders none none).2
      (.object ⟨.string " INTERNAL ", some "secret", none⟩) (by decide) "disk 7 is full"⟩

end Client

end HistoryQuiz
