import HistoryQuiz.Backend.Calls

/-!
# The gRPC transport

`backend/internal/transport/grpc`: the interceptors of `NewServer`, the methods
of the three services, and the translation of errors to a gRPC status. The
caller of a call is the first `x-user-id` entry of the metadata; nothing of a
message says who calls.

A request goes through `UnaryContextInterceptor`, then through
`UnaryRequireAuthByMethodInterceptor`, then to its method. The observability
interceptor between the two hands request, answer and error through unchanged.
-/

namespace HistoryQuiz

open Effect

/-! ## Status -/

/-- `google.golang.org/grpc/codes`. -/
inductive GrpcCode where
  | ok
  | canceled
  | unknown
  | invalidArgument
  | deadlineExceeded
  | notFound
  | alreadyExists
  | permissionDenied
  | resourceExhausted
  | failedPrecondition
  | aborted
  | outOfRange
  | unimplemented
  | internal
  | unavailable
  | dataLoss
  | unauthenticated
deriving DecidableEq, Repr

structure Status where
  code : GrpcCode
  message : String
deriving DecidableEq, Repr

/-- `toStatusError`. -/
def toStatusError (err : GoError) : Status :=
  match err.asAppError with
  | some (.invalidArgument, message) => ⟨.invalidArgument, message⟩
  | some (.notFound, message) => ⟨.notFound, message⟩
  | some (.permissionDenied, message) => ⟨.permissionDenied, message⟩
  | some (.unauthenticated, message) => ⟨.unauthenticated, message⟩
  | some (_, message) => ⟨.internal, message⟩
  | none => ⟨.internal, "内部エラー"⟩

/-- A `NOT_FOUND` status is the translation of a not-found error. -/
theorem toStatusError_notFound {err : GoError} :
    (toStatusError err).code = .notFound ↔ err.isCode .notFound = true := by
  unfold toStatusError GoError.isCode
  rcases err.asAppError with _ | ⟨_ | _ | _ | _ | _, _⟩ <;> simp

/-! ## Context -/

/-- The values that `contextkeys` keeps in a `context.Context`. -/
structure Context where
  requestIDKey : Option String
  userIDKey : Option String
deriving DecidableEq, Repr

namespace Context

def background : Context := ⟨none, none⟩

def withRequestID (ctx : Context) (requestID : String) : Context :=
  { ctx with requestIDKey := some requestID }

def withUserID (ctx : Context) (userID : String) : Context :=
  { ctx with userIDKey := some userID }

/-- The value, and whether it is there and not empty. -/
def requestID (ctx : Context) : String × Bool :=
  let v := ctx.requestIDKey.getD ""
  (v, ctx.requestIDKey.isSome && v != "")

/-- The value, and whether it is there and not empty. -/
def userID (ctx : Context) : String × Bool :=
  let v := ctx.userIDKey.getD ""
  (v, ctx.userIDKey.isSome && v != "")

end Context

/-! ## Messages -/

structure RequestContext where
  requestID : String
deriving DecidableEq, Repr

structure Pagination where
  pageSize : ℤ
deriving DecidableEq, Repr

/-- The requests of `QuizService`, `QuestionService` and `UserService`; a message
inside another may be absent. -/
inductive Request where
  | getQuestion (context : Option RequestContext) (previousQuestionID : String)
  | submitAnswer (context : Option RequestContext) (questionID selectedChoiceID : String)
  | createQuestion (context : Option RequestContext) (draft : Option QuestionDraft)
  | updateQuestion (context : Option RequestContext) (questionID : String)
      (draft : Option QuestionDraft)
  | getMyQuestion (context : Option RequestContext) (questionID : String)
  | listMyQuestions (context : Option RequestContext) (pagination : Option Pagination)
  | listMyAttempts (context : Option RequestContext) (pagination : Option Pagination)
  | getMyStats (context : Option RequestContext)
deriving DecidableEq, Repr

structure Response where
  context : RequestContext
  reply : Reply
deriving DecidableEq

namespace Request

/-- `info.FullMethod`. -/
def fullMethod : Request → String
  | getQuestion _ _ => "/historyquiz.quiz.v1.QuizService/GetQuestion"
  | submitAnswer _ _ _ => "/historyquiz.quiz.v1.QuizService/SubmitAnswer"
  | createQuestion _ _ => "/historyquiz.question.v1.QuestionService/CreateQuestion"
  | updateQuestion _ _ _ => "/historyquiz.question.v1.QuestionService/UpdateQuestion"
  | getMyQuestion _ _ => "/historyquiz.question.v1.QuestionService/GetMyQuestion"
  | listMyQuestions _ _ => "/historyquiz.question.v1.QuestionService/ListMyQuestions"
  | listMyAttempts _ _ => "/historyquiz.user.v1.UserService/ListMyAttempts"
  | getMyStats _ => "/historyquiz.user.v1.UserService/GetMyStats"

/-- `req.GetContext()`. -/
def context : Request → Option RequestContext
  | getQuestion context _ => context
  | submitAnswer context _ _ => context
  | createQuestion context _ => context
  | updateQuestion context _ _ => context
  | getMyQuestion context _ => context
  | listMyQuestions context _ => context
  | listMyAttempts context _ => context
  | getMyStats context => context

end Request

/-- `domain.QuestionDraft` from `req.GetDraft()`: the getters of an absent message
return the zero values. -/
def getDraft : Option QuestionDraft → QuestionDraft
  | some draft => draft
  | none => ⟨"", [], 0, ""⟩

/-- `req.GetPagination().GetPageSize()`. -/
def getPageSize : Option Pagination → ℤ
  | some pagination => pagination.pageSize
  | none => 0

/-! ## Services -/

/-- `requestIDForResponse`: the context comes before the message. -/
def requestIDForResponse (ctx : Context) (reqCtx : Option RequestContext) : RequestContext :=
  match ctx.requestID with
  | (requestID, true) => ⟨requestID⟩
  | _ =>
      match reqCtx with
      | some reqCtx => if reqCtx.requestID ≠ "" then ⟨reqCtx.requestID⟩ else ⟨""⟩
      | none => ⟨""⟩

/-- The use case that the method of a request calls, and its arguments. -/
def Request.call (ctx : Context) : Request → Call
  | getQuestion context previousQuestionID =>
      .getQuestion (requestIDForResponse ctx context).requestID previousQuestionID
  | submitAnswer _ questionID selectedChoiceID =>
      .submitAnswer ctx.userID.1 questionID selectedChoiceID
  | createQuestion _ draft => .createQuestion ctx.userID.1 (getDraft draft)
  | updateQuestion _ questionID draft =>
      .updateQuestion ctx.userID.1 questionID (getDraft draft)
  | getMyQuestion _ questionID => .getMyQuestion ctx.userID.1 questionID
  | listMyQuestions _ pagination => .listMyQuestions ctx.userID.1 (getPageSize pagination)
  | listMyAttempts _ pagination => .listMyAttempts ctx.userID.1 (getPageSize pagination)
  | getMyStats _ => .getMyStats ctx.userID.1

/-- A program that answers a request with an `α` or a status. -/
abbrev GrpcProg (α : Type) := Prog DbOp Status α

/-- The method of a request. -/
def handle (io : UuidReaders) (ctx : Context) (req : Request) : GrpcProg Response := do
  let reply ← ((req.call ctx).prog io).mapError toStatusError
  return { context := requestIDForResponse ctx req.context, reply := reply }

/-- The method performs the call and translates its outcome. -/
theorem run_handle (io : UuidReaders) (ctx : Context) (req : Request) (τ : ℕ → OpTick) (db : Db) :
    (handle io ctx req).run (DbOp.exec io) τ db =
      ((((req.call ctx).perform io τ db).1.mapError toStatusError).map fun reply =>
          { context := requestIDForResponse ctx req.context, reply := reply },
        ((req.call ctx).perform io τ db).2) := by
  unfold handle
  rw [Prog.bind_eq]
  simp only [Prog.pure_eq]
  rw [Prog.run_bind_ret, Prog.run_mapError]
  rfl

/-! ## Interceptors -/

/-- The values of each key, which `metadata.MD` keeps in lower case. -/
abbrev Metadata := String → List String

def metadataKeyUserID : String := "x-user-id"

def metadataKeyRequestID : String := "x-request-id"

def first (values : List String) : String := values.headD ""

/-- `UnaryContextInterceptor`. -/
def unaryContextInterceptor {α : Type} (requireAuth : Bool) (md : Metadata) (ctx : Context)
    (handler : Context → GrpcProg α) : GrpcProg α :=
  let requestID := first (md metadataKeyRequestID)
  let ctx := if requestID ≠ "" then ctx.withRequestID requestID else ctx
  let userID := first (md metadataKeyUserID)
  let ctx := if userID ≠ "" then ctx.withUserID userID else ctx
  if requireAuth && userID == "" then .fail ⟨.unauthenticated, "認証が必要です"⟩
  else handler ctx

/-- `UnaryRequireAuthByMethodInterceptor`. -/
def unaryRequireAuthByMethodInterceptor {α : Type} (allowAnonymousMethods : List String)
    (fullMethod : String) (ctx : Context) (handler : Context → GrpcProg α) : GrpcProg α :=
  if fullMethod ∈ allowAnonymousMethods then handler ctx
  else
    let (userID, ok) := ctx.userID
    if !ok || userID == "" then .fail ⟨.unauthenticated, "認証が必要です"⟩ else handler ctx

def allowAnonymous : List String :=
  ["/historyquiz.quiz.v1.QuizService/GetQuestion", "/historyquiz.quiz.v1.QuizService/SubmitAnswer"]

/-- What the server of `NewServer` does with a request. -/
def serve (io : UuidReaders) (md : Metadata) (req : Request) : GrpcProg Response :=
  unaryContextInterceptor false md Context.background fun ctx =>
    unaryRequireAuthByMethodInterceptor allowAnonymous req.fullMethod ctx fun ctx =>
      handle io ctx req

end HistoryQuiz
