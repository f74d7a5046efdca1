import HistoryQuiz.Logic.Tracing
import HistoryQuiz.Theorems.Posts

/-!
# Error answers that can be traced

* `exchange_traced`: when an error answer of the four pages carries its request id.
* `blank_id_untraced`: the page that edits a question loses the id of the request when its path
  has a blank id.
-/

namespace HistoryQuiz

namespace Client

open Js

/-- The requests for which an error answer carries the request id. The quiz page has none to
answer with: its call is not made, and the id of the call is lost with it. -/
def Endpoint.KeepsRequestId (request : Request) : Endpoint → Prop
  | quizLoader _ => False
  | quizAction random => FormReached random Quiz.QUIZ_ACTION_MAX_BODY_BYTES request
  | meLoader _ _ | questionsNewLoader _ => True
  | questionsNewAction random => getUser request = none ∨
      FormReached random QuestionsNew.QUESTION_CREATE_ACTION_MAX_BODY_BYTES request
  | questionsEditLoader _ id => getUser request = none ∨ (id.map trim).getD "" ≠ ""
  | questionsEditAction random _ => getUser request = none ∨
      FormReached random QuestionsEdit.QUESTION_EDIT_ACTION_MAX_BODY_BYTES request

/-- A method that needs its client makes no call for the quiz page. -/
theorem not_questionReached {σ : Type} {wire : GrpcWire} {method : UnaryMethod σ}
    (hmethod : method.NeedsClient) (s : σ) (random : RandomValues) (request : Request) :
    ¬Quiz.QuestionReached wire method s random request := by
  rintro ⟨backend, hbackend, -⟩
  cases hbackend.symm.trans hmethod

/-- For every request to a loader or an action of the four pages, with the methods of the gRPC
library, which need the client that they are called on. An answer with a status of 400 or more
carries an id that is not empty in its header and in its body, and every call that was made for the
request carries the same id, if and only if the request keeps its id: it is not one for the quiz
page, a form is read, and an id in the path is not blank. -/
theorem exchange_traced {σ : Type} (readers : Readers) (conform : Conform) (wire : GrpcWire)
    {method : UnaryMethod σ} (hmethod : method.NeedsClient) (s : σ) (request : Request)
    (endpoint : Endpoint) :
    (endpoint.exchange readers conform wire method s request).Traced ↔
      endpoint.KeepsRequestId request := by
  cases endpoint with
  | quizLoader random =>
      rw [Quiz.loader_traced]
      exact iff_of_false (not_questionReached hmethod s random request) id
  | quizAction random => exact Quiz.action_traced readers conform wire method s random request
  | meLoader order random =>
      exact Me.loader_traced readers conform wire method s order random request
  | questionsNewLoader random =>
      exact QuestionsNew.loader_traced readers conform wire method s random request
  | questionsNewAction random =>
      exact QuestionsNew.action_traced readers conform wire method s random request
  | questionsEditLoader random id =>
      exact QuestionsEdit.loader_traced readers conform wire method s random id request
  | questionsEditAction random id =>
      exact QuestionsEdit.action_traced readers conform wire method s random id request

/-- Alice opens the page `/questions/%20/edit`. -/
theorem blank_id_untraced :
    (Endpoint.questionsEditLoader sampleRandom (some " ")).exchange plainPlatform.readers
      plainConform grpcJs unavailableMethod () sampleSubmission = ⟨400, none, none, []⟩ ∧
    ¬((Endpoint.questionsEditLoader sampleRandom (some " ")).exchange plainPlatform.readers
      plainConform grpcJs unavailableMethod () sampleSubmission).Traced := by
  have hexchange : (Endpoint.questionsEditLoader sampleRandom (some " ")).exchange
      plainPlatform.readers plainConform grpcJs unavailableMethod () sampleSubmission =
        ⟨400, none, none, []⟩ := by decide
  refine ⟨hexchange, ?_⟩
  rw [hexchange]
  exact Exchange.not_traced (le_refl 400) rfl

/-- The page of an id that is not blank, and the page of the quiz. -/
theorem exchange_traced_ids :
    ((Endpoint.questionsEditLoader sampleRandom (some "1")).exchange plainPlatform.readers
      plainConform grpcJs unavailableMethod () sampleSubmission).Traced ∧
    ¬((Endpoint.quizLoader sampleRandom).exchange plainPlatform.readers plainConform grpcJs
      unavailableMethod () sampleSubmission).Traced :=
  ⟨(exchange_traced plainPlatform.readers plainConform grpcJs (clientMethod_needsClient _) ()
      sampleSubmission (.questionsEditLoader sampleRandom (some "1"))).mpr (.inr (by decide)),
    fun h => (exchange_traced plainPlatform.readers plainConform grpcJs (clientMethod_needsClient _)
      () sampleSubmission (.quizLoader sampleRandom)).mp h⟩

end Client

end HistoryQuiz
