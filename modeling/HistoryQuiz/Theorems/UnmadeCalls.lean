import HistoryQuiz.Theorems.Tracing

/-!
# Calls that are not made

`invokeUnary` calls a method without the client that it was taken from, and a method of the gRPC
library throws then (`invokeUnary_throws`).

* `calls_never_made`: so no request to the pages makes a call of the backend, and whatever needs
  one is answered with an error or a redirect.
-/

namespace HistoryQuiz

namespace Client

open Js Throw

/-- A page that shows nothing of the backend. -/
def Endpoint.needsNoCall : Endpoint → Bool
  | questionsNewLoader _ => true
  | _ => false

/-- Neither a call nor a success. -/
def Exchange.Unserved (x : Exchange) : Prop := x.callIds = [] ∧ 300 ≤ x.status

theorem unserved_json {Data : Type} {requestIdOf : Data → Option String} {data : Data} {status : ℕ}
    {setCookie : Option SetCookie} {id : Option String} (h : 300 ≤ status) :
    ((json data status setCookie id).exchange requestIdOf []).Unserved :=
  ⟨rfl, h⟩

/-- The answer to a call that is not made has the status 500. -/
theorem unserved_normalized {Data : Type} {requestIdOf : Data → Option String} {data : Data}
    {readers : Readers} {fallbackMessage requestId id : Option String} :
    ((json data (normalizeGrpcHttpError readers Thrown.platform.toUnknown fallbackMessage
      requestId).httpStatus none id).exchange requestIdOf []).Unserved :=
  unserved_json (show 300 ≤ 500 by decide)

variable {σ : Type} {s : σ} {request : Request} {wire : GrpcWire} {method : UnaryMethod σ}

/-- The method that keeps its calls needs its client too. -/
theorem UnaryMethod.NeedsClient.recording (hmethod : method.NeedsClient) :
    method.recording.NeedsClient := by
  unfold UnaryMethod.NeedsClient UnaryMethod.recording
  rw [show method .params = none from hmethod]
  rfl

/-- A call that is not made. -/
theorem ends_unmade (hmethod : method.NeedsClient) {fresh : String} {callContext : GrpcCallContext}
    {call : HistoryQuiz.Request} {t : σ × SentLog} {Q : GrpcCallResult → σ × SentLog → Prop}
    {E : Thrown → σ × SentLog → Prop} (h : E .platform t) :
    Ends (invokeUnary wire method.recording fresh callContext call) t Q E := by
  unfold Ends
  rw [invokeUnary_throws hmethod.recording]
  exact h

theorem callSection_unmade (hmethod : method.NeedsClient) (readers : Readers) (conform : Conform)
    (requestId userId : String) (pageSection : Me.PageSection) (t : σ × SentLog) :
    Me.callSection (overGrpc readers conform wire method.recording) requestId userId pageSection t =
      .error .platform t :=
  bind_of_error (invokeUnary_throws hmethod.recording ..)

/-! ## Refusals -/

theorem requireAuthenticatedUser_unserved {e : Raised}
    (h : requireAuthenticatedUser request = .error e) : (e.exchange []).Unserved := by
  obtain ⟨-, rfl⟩ := requireAuthenticatedUser_eq_error.mp h
  exact ⟨rfl, show 300 ≤ 302 by decide⟩

theorem sizeRefused_unserved {fresh : String} {maxBytes : ℕ} {e : Raised}
    (h : assertRequestContentLengthWithinLimit fresh maxBytes request none = .error e) :
    (e.exchange []).Unserved := by
  obtain ⟨code, message, status, hstatus, rfl⟩ := assertRequestContentLengthWithinLimit_error h
  exact unserved_json (by omega)

theorem csrfRefused_unserved {fresh : String} {formData : FormData} {requestId : Option String}
    {e : Raised} (h : verifyCsrfToken fresh formData request requestId = .error e) :
    (e.exchange []).Unserved := by
  rw [verifyCsrfToken_error h]
  exact unserved_json (by decide)

theorem acceptForm_unserved {random : RandomValues} {maxBytes : ℕ} {e : Raised}
    (h : acceptForm random maxBytes request = .error e) : (e.exchange []).Unserved := by
  rcases acceptForm_error h with h | h | ⟨-, rfl, -⟩ | ⟨formData, checkedId, -, -, hverify⟩
  · exact requireAuthenticatedUser_unserved h
  · exact sizeRefused_unserved h
  · exact ⟨rfl, show 300 ≤ 500 by decide⟩
  · exact csrfRefused_unserved hverify

/-! ## The routes -/

variable (hmethod : method.NeedsClient) (readers : Readers) (conform : Conform)
include hmethod

theorem Quiz.loader_unserved (random : RandomValues) :
    ((Endpoint.quizLoader random).exchange readers conform wire method s request).Unserved := by
  apply runExchange_ends (P := Exchange.Unserved)
  unfold Quiz.loader
  apply ends_bind
  apply ends_catching
  apply ends_bind
  exact ends_unmade hmethod (ends_throw unserved_normalized)

theorem Me.loader_unserved (order : Me.AnswerOrder) (random : RandomValues) :
    ((Endpoint.meLoader order random).exchange readers conform wire method s request).Unserved := by
  apply runExchange_ends (P := Exchange.Unserved)
  unfold Me.loader
  apply ends_bind
  refine ends_ofExcept (fun user _ => ?_) fun e he => requireAuthenticatedUser_unserved he
  apply ends_bind
  apply ends_catching
  -- each of the three calls throws before it is made
  unfold Ends
  rw [runAll_eq_error (e := .platform) ?_ ?_]
  · exact unserved_normalized
  · intro call hcall t
    obtain ⟨pageSection, -, rfl⟩ := List.mem_map.mp hcall
    exact callSection_unmade hmethod ..
  · intro hnone
    have hlength := order.complete.length_eq
    rw [List.map_eq_nil_iff.mp hnone] at hlength
    cases hlength

theorem QuestionsEdit.loader_unserved (random : RandomValues) (id : Option String) :
    ((Endpoint.questionsEditLoader random id).exchange readers conform wire method s
      request).Unserved := by
  apply runExchange_ends (P := Exchange.Unserved)
  unfold QuestionsEdit.loader
  apply ends_bind
  refine ends_ofExcept (fun user _ => ?_) fun e he => requireAuthenticatedUser_unserved he
  apply ends_bind
  refine ends_ofExcept (fun questionId _ => ?_) fun e he => ?_
  · apply ends_bind
    apply ends_catching
    apply ends_bind
    exact ends_unmade hmethod (ends_throw unserved_normalized)
  · unfold resolveRequiredQuestionId at he
    dsimp only at he
    split_ifs at he
    cases he
    exact unserved_json (by decide)

theorem Quiz.action_unserved (random : RandomValues) :
    ((Endpoint.quizAction random).exchange readers conform wire method s request).Unserved := by
  apply runExchange_ends (P := Exchange.Unserved)
  unfold Quiz.action
  apply ends_bind
  refine ends_ofExcept (fun checkedId _ => ?_) fun e he => sizeRefused_unserved he
  cases request.formData with
  | none => exact ends_throw ⟨rfl, show 300 ≤ 500 by decide⟩
  | some formData =>
      apply ends_bind
      refine ends_ofExcept (fun requestId _ => ?_) fun e he => csrfRefused_unserved he
      dsimp only
      split
      · exact ends_pure (unserved_json (by decide))
      · apply ends_bind
        apply ends_catching
        apply ends_bind
        exact ends_unmade hmethod (ends_pure unserved_normalized)

theorem QuestionsNew.action_unserved (random : RandomValues) :
    ((Endpoint.questionsNewAction random).exchange readers conform wire method s
      request).Unserved := by
  apply runExchange_ends (P := Exchange.Unserved)
  unfold QuestionsNew.action
  apply ends_bind
  refine ends_ofExcept (fun accepted _ => ?_) fun e he => acceptForm_unserved he
  dsimp only
  split
  · exact ends_pure (unserved_json (by decide))
  · apply ends_bind
    apply ends_catching
    apply ends_bind
    exact ends_unmade hmethod (ends_pure unserved_normalized)

theorem QuestionsEdit.action_unserved (random : RandomValues) (id : Option String) :
    ((Endpoint.questionsEditAction random id).exchange readers conform wire method s
      request).Unserved := by
  apply runExchange_ends (P := Exchange.Unserved)
  unfold QuestionsEdit.action
  apply ends_bind
  refine ends_ofExcept (fun accepted _ => ?_) fun e he => acceptForm_unserved he
  dsimp only
  split
  · exact ends_pure (unserved_json (by decide))
  · split
    · exact ends_pure (unserved_json (by decide))
    · apply ends_bind
      apply ends_catching
      apply ends_bind
      exact ends_unmade hmethod (ends_pure unserved_normalized)

omit hmethod

/-- For every request to a loader or an action of the four pages, with the methods of the gRPC
library: no call of the backend is made, and the answer is a redirect or an error, unless it is the
page of a new question. -/
theorem calls_never_made (readers : Readers) (conform : Conform) (wire : GrpcWire)
    (hmethod : method.NeedsClient) (s : σ) (request : Request) (endpoint : Endpoint) :
    (endpoint.exchange readers conform wire method s request).callIds = [] ∧
    (endpoint.needsNoCall = false →
      300 ≤ (endpoint.exchange readers conform wire method s request).status) := by
  have hunserved : endpoint.needsNoCall = false →
      (endpoint.exchange readers conform wire method s request).Unserved := by
    intro hneeds
    cases endpoint with
    | quizLoader random => exact Quiz.loader_unserved hmethod readers conform random
    | quizAction random => exact Quiz.action_unserved hmethod readers conform random
    | meLoader order random => exact Me.loader_unserved hmethod readers conform order random
    | questionsNewLoader random => cases hneeds
    | questionsNewAction random => exact QuestionsNew.action_unserved hmethod readers conform random
    | questionsEditLoader random id =>
        exact QuestionsEdit.loader_unserved hmethod readers conform random id
    | questionsEditAction random id =>
        exact QuestionsEdit.action_unserved hmethod readers conform random id
  refine ⟨?_, fun hneeds => (hunserved hneeds).2⟩
  cases hneeds : endpoint.needsNoCall with
  | false => exact (hunserved hneeds).1
  | true =>
      cases endpoint with
      | questionsNewLoader random =>
          change (exchangeOf (fun _ => none) (QuestionsNew.loader random request) []).callIds = []
          cases QuestionsNew.loader random request with
          | ok r => rfl
          | error e => cases e <;> rfl
      | _ => cases hneeds

/-- Alice opens the quiz: a call would have been answered with a question. -/
theorem calls_never_made_alice :
    let exchange := (Endpoint.quizLoader sampleRandom).exchange plainPlatform.readers plainConform
      grpcJs (clientMethod (grpcServer documentedReaders (calm 1 0))) (seeded 0) sampleSubmission
    exchange.callIds = [] ∧ 300 ≤ exchange.status := by
  obtain ⟨hcalls, hstatus⟩ := calls_never_made plainPlatform.readers plainConform grpcJs
    (clientMethod_needsClient (grpcServer documentedReaders (calm 1 0))) (seeded 0)
    sampleSubmission (.quizLoader sampleRandom)
  exact ⟨hcalls, hstatus rfl⟩

end Client

end HistoryQuiz
