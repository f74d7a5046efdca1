import HistoryQuiz.Backend.Transport
import HistoryQuiz.Base.Throw
import HistoryQuiz.Client.Auth

/-!
# Calls of the backend

`client.server.ts` and `question.server.ts`: how a route calls the backend. The user of the
session travels as the `x-user-id` entry of the metadata.

The library `@grpc/grpc-js` and the network are not part of the repository. The model takes
from them what becomes of a metadata value (`GrpcWire`), and that a method of a client needs
the client it is called on (`UnaryMethod.NeedsClient`). `invokeUnary` calls the method on its
own parameters, so it throws before a call is made (`invokeUnary_throws`). Deadlines and the
metrics of the calls are left out.
-/

namespace HistoryQuiz

namespace Client

open Js

/-! ## The wire -/

/-- The characters of printable ASCII. -/
def isPrintableAscii (c : Char) : Bool := 0x20 ≤ c.toNat && c.toNat ≤ 0x7e

/-- How `@grpc/grpc-js` hands a metadata value to the server: nothing when `Metadata.set`
throws. -/
structure GrpcWire where
  deliver : String → Option String
  /-- A value arrives as it is, but for white space at its ends. -/
  deliver_trimmed : ∀ {v w : String}, v ≠ "" → trim v = v → deliver v = some w → w = v
  /-- Printable ASCII is accepted. -/
  deliver_ascii : ∀ {v : String}, v ≠ "" → trim v = v → v.toList.all isPrintableAscii = true →
    deliver v = some v

/-- `@grpc/grpc-js` accepts printable ASCII only. -/
def grpcJs : GrpcWire where
  deliver v := if v.toList.all isPrintableAscii then some v else none
  deliver_trimmed := by
    intro v w _ _ h
    split_ifs at h
    exact (Option.some.inj h).symm
  deliver_ascii := by
    intro v _ _ h
    rw [if_pos h]

/-- The backend as its clients see it, over the states `σ` of what it works on. -/
abbrev Backend (σ : Type) :=
  Metadata → HistoryQuiz.Request → StateM σ (Except Status HistoryQuiz.Response)

/-- The server of this repository, while nothing else works on its database. -/
def grpcServer (io : UuidReaders) (τ : ℕ → OpTick) : Backend Db := fun md req db =>
  (serve io md req).run (DbOp.exec io) τ db

/-! ## Methods of a client -/

/-- What a method is called on: the client that it was taken from, or the `params` of
`invokeUnary`. -/
inductive Receiver where
  | client
  | params
deriving DecidableEq, Repr

/-- `UnaryMethod`: the call that a method makes when it is called on a receiver; nothing when
it throws instead. -/
abbrev UnaryMethod (σ : Type) := Receiver → Option (Backend σ)

/-- A method of a client of `@grpc/grpc-js`: on the client it makes its call, and on anything
else it finds nothing to make the call with, and throws a `TypeError`. -/
def clientMethod {σ : Type} (backend : Backend σ) : UnaryMethod σ
  | .client => some backend
  | .params => none

/-- What the library says of its methods. -/
def UnaryMethod.NeedsClient {σ : Type} (method : UnaryMethod σ) : Prop := method .params = none

theorem clientMethod_needsClient {σ : Type} (backend : Backend σ) :
    (clientMethod backend).NeedsClient := rfl

/-! ## client.server.ts -/

/-- `context` of a call; the timeout is left out. -/
structure GrpcCallContext where
  requestId : Option String
  userId : Option String
deriving DecidableEq, Repr

structure NormalizedCallContext where
  requestId : String
  userId : String
deriving DecidableEq, Repr

/-- `normalizeCallContext`, with a fresh id for a call that has none. -/
def normalizeCallContext (fresh : String) (callContext : GrpcCallContext) :
    NormalizedCallContext where
  requestId := callContext.requestId.getD fresh
  userId := (callContext.userId.map trim).getD ""

/-- `metadata.set(key, value)`. -/
def metadataSet (wire : GrpcWire) (key value : String) (metadata : Metadata) :
    Except Thrown Metadata :=
  match wire.deliver value with
  | some delivered => .ok (Function.update metadata key [delivered])
  | none => .error .platform

/-- `createMetadataObject`: no entry for the user of an anonymous call. -/
def createMetadataObject (wire : GrpcWire) (requestId userId : String) :
    Except Thrown Metadata := do
  let metadata ←
    if userId ≠ "" then metadataSet wire metadataKeyUserID userId fun _ => []
    else pure fun _ => []
  metadataSet wire metadataKeyRequestID requestId metadata

/-- `withRequestContext`. -/
def withRequestContext (request : HistoryQuiz.Request) (requestId : String) :
    HistoryQuiz.Request :=
  let context : RequestContext := request.context.getD ⟨requestId⟩
  match request with
  | .getQuestion _ previousQuestionID => .getQuestion context previousQuestionID
  | .submitAnswer _ questionID selectedChoiceID =>
      .submitAnswer context questionID selectedChoiceID
  | .createQuestion _ draft => .createQuestion context draft
  | .updateQuestion _ questionID draft => .updateQuestion context questionID draft
  | .getMyQuestion _ questionID => .getMyQuestion context questionID
  | .listMyQuestions _ pagination => .listMyQuestions context pagination
  | .listMyAttempts _ pagination => .listMyAttempts context pagination
  | .getMyStats _ => .getMyStats context

/-- The number of a status code. -/
def grpcStatus : GrpcCode → ℕ
  | .ok => 0
  | .canceled => 1
  | .unknown => 2
  | .invalidArgument => 3
  | .deadlineExceeded => 4
  | .notFound => 5
  | .alreadyExists => 6
  | .permissionDenied => 7
  | .resourceExhausted => 8
  | .failedPrecondition => 9
  | .aborted => 10
  | .outOfRange => 11
  | .unimplemented => 12
  | .internal => 13
  | .unavailable => 14
  | .dataLoss => 15
  | .unauthenticated => 16

/-- The error that the library makes of a status. The backend sends no metadata with it. -/
def toServiceError (s : Status) : ServiceError := ⟨grpcStatus s.code, s.message, fun _ => []⟩

structure GrpcCallResult where
  requestId : String
  response : HistoryQuiz.Response

/-- `invokeUnary`. -/
def invokeUnary {σ : Type} (wire : GrpcWire) (method : UnaryMethod σ) (fresh : String)
    (callContext : GrpcCallContext) (request : HistoryQuiz.Request) :
    EStateM Thrown σ GrpcCallResult := do
  let normalized := normalizeCallContext fresh callContext
  let requestWithContext := withRequestContext request normalized.requestId
  match createMetadataObject wire normalized.requestId normalized.userId with
  | .error e => throw e
  | .ok metadata =>
      -- `params.method(...)` calls the method on `params`
      match method .params with
      | none => throw .platform
      | some backend =>
          let (outcome, s) := backend metadata requestWithContext (← get)
          set s
          match outcome with
          | .error status => throw (.grpcCallError (toServiceError status) normalized.requestId)
          | .ok response => return { requestId := normalized.requestId, response }

/-- `callQuizService`, `callQuestionService` and `callUserService`, as the routes know them:
with a fresh id for a call that has none. -/
abbrev CallService (σ : Type) :=
  String → GrpcCallContext → HistoryQuiz.Request → EStateM Thrown σ GrpcCallResult

/-! ## question.server.ts -/

structure QuestionChoice where
  id : String
  label : String
  ordinal : ℤ
deriving DecidableEq, Repr

structure QuestionDetail where
  id : String
  prompt : String
  choices : List QuestionChoice
  correctChoiceId : String
  explanation : String
  updatedAt : Timestamp
deriving DecidableEq, Repr

/-- `toQuestionDetail` of the backend: the message of a question. -/
def toQuestionDetail (q : HistoryQuiz.QuestionDetail) : QuestionDetail where
  id := q.id
  prompt := q.prompt
  choices := q.choices.map fun c => ⟨c.id, c.label, c.ordinal⟩
  correctChoiceId := q.correctChoiceID
  explanation := q.explanation
  updatedAt := q.updatedAt

/-- `response.question`, of the responses with a question of the caller. -/
def questionOf (response : HistoryQuiz.Response) : Option QuestionDetail :=
  match response.reply with
  | .detail q => some (toQuestionDetail q)
  | _ => none

/-! ## Before a call is made -/

theorem metadataSet_eq_error {wire : GrpcWire} {key value : String} {metadata : Metadata}
    {e : Thrown} (h : metadataSet wire key value metadata = .error e) : e = .platform := by
  unfold metadataSet at h
  cases hw : wire.deliver value <;> rw [hw] at h <;> cases h
  rfl

theorem createMetadataObject_eq_error {wire : GrpcWire} {requestId userId : String} {e : Thrown}
    (h : createMetadataObject wire requestId userId = .error e) : e = .platform := by
  unfold createMetadataObject at h
  by_cases hempty : userId ≠ ""
  · rw [if_pos hempty] at h
    rcases Throw.except_bind_eq_error.mp h with h | ⟨metadata, -, h⟩ <;>
      exact metadataSet_eq_error h
  · rw [if_neg hempty] at h
    exact metadataSet_eq_error h

/-- Whatever the library says of its methods holds: `invokeUnary` throws, and no call has been
made. -/
theorem invokeUnary_throws {σ : Type} {wire : GrpcWire} {method : UnaryMethod σ}
    (hmethod : method.NeedsClient) (fresh : String) (callContext : GrpcCallContext)
    (request : HistoryQuiz.Request) (s : σ) :
    invokeUnary wire method fresh callContext request s = .error .platform s := by
  unfold invokeUnary
  cases hmetadata : createMetadataObject wire (normalizeCallContext fresh callContext).requestId
      (normalizeCallContext fresh callContext).userId with
  | error e =>
      rw [createMetadataObject_eq_error hmetadata]
      rfl
  | ok metadata =>
      simp only
      rw [show method .params = none from hmethod]
      rfl

end Client

end HistoryQuiz
