import HistoryQuiz.Backend.Observability
import HistoryQuiz.Backend.Transport
import HistoryQuiz.Base.Observed

/-!
# The observed server

`grpc_unary.go`, `reporter.go` and `server.go`: the interceptor that measures every call, the
reporter that prints snapshots of the collector, and the chain of interceptors of `NewServer`,
with the observing one between the other two.

The observed server has operations of its own beside those on the database: it reads the clock,
records in the collector and prints. `log.Logger` prints one line at a time and the collector is
behind a lock, so each is one operation. A line is kept as the payload that `json.Marshal`
encodes; the payloads have strings, finite numbers and snapshots only, and encoding them does not
fail.
-/

namespace HistoryQuiz

open Effect

/-! ## Codes -/

/-- `codes.Code`. -/
def GrpcCode.code : GrpcCode → UInt32
  | .ok => 0
  | .canceled => 1
  | .unknown => 2
  | .invalidArgument => 3
  | .deadlineExceeded => 4
  | .notFound => 5
  | .alreadyExists => 6
  | .permissionDenied => 7
  | .resourceExhausted => 8
  | .failedPrecondition => 9
  | .aborted => 10
  | .outOfRange => 11
  | .unimplemented => 12
  | .internal => 13
  | .unavailable => 14
  | .dataLoss => 15
  | .unauthenticated => 16

/-- `Code.String()`. -/
def GrpcCode.string : GrpcCode → String
  | .ok => "OK"
  | .canceled => "Canceled"
  | .unknown => "Unknown"
  | .invalidArgument => "InvalidArgument"
  | .deadlineExceeded => "DeadlineExceeded"
  | .notFound => "NotFound"
  | .alreadyExists => "AlreadyExists"
  | .permissionDenied => "PermissionDenied"
  | .resourceExhausted => "ResourceExhausted"
  | .failedPrecondition => "FailedPrecondition"
  | .aborted => "Aborted"
  | .outOfRange => "OutOfRange"
  | .unimplemented => "Unimplemented"
  | .internal => "Internal"
  | .unavailable => "Unavailable"
  | .dataLoss => "DataLoss"
  | .unauthenticated => "Unauthenticated"

/-- `status.Code(err)`, of the outcome of a handler. -/
def statusCode {α : Type} : Except Status α → GrpcCode
  | .ok _ => .ok
  | .error err => err.code

namespace Observability

/-! ## Operations -/

/-- `time.Time`: nanoseconds on the wall clock and on the monotonic clock. -/
structure Time where
  wall : ℤ
  monotonic : ℤ
deriving DecidableEq

/-- The payload of `logAccess`. -/
structure AccessPayload where
  atTime : ℤ
  type : String := "grpc_access"
  latencyMs : Float64
  method : String
  requestId : String
  status : String
  userId : String
deriving DecidableEq

/-- The payload of `emitSnapshot`. -/
structure SnapshotPayload where
  atTime : ℤ
  metrics : List MethodMetricsSnapshot
  type : String := "grpc_metrics_snapshot"
deriving DecidableEq

inductive LogLine where
  | access (payload : AccessPayload)
  | snapshot (payload : SnapshotPayload)
deriving DecidableEq

/-- What the observer does beside the database. -/
inductive ObserverOp : Type → Type 1 where
  | now : ObserverOp Time
  | recordRPC (method : String) (code : GrpcCode) (latency : ℤ) : ObserverOp Unit
  | printf (payload : AccessPayload) : ObserverOp Unit

/-- The collector, the lines that were printed, and the snapshot that the reporter has taken and
not yet printed. -/
structure Telemetry where
  collector : Option Collector
  lines : List LogLine
  taken : Option CollectorSnapshot

/-- The meaning of the operations, at a time. -/
def ObserverOp.exec : Handler ObserverOp Time Telemetry
  | _, .now, t, s => (t, s)
  | _, .recordRPC method code latency, _, s =>
      ((), { s with collector := Observability.recordRPC s.collector method code.code latency })
  | _, .printf payload, _, s => ((), { s with lines := s.lines ++ [.access payload] })

/-- A program of the observed server. -/
abbrev ObservedProg (α : Type) := Prog (Plus DbOp ObserverOp) Status α

/-! ## The observer -/

structure UnaryObserver where
  collector : Option Collector

/-- `NewUnaryObserver`. -/
def newUnaryObserver (collector : Option Collector) : UnaryObserver where
  collector :=
    match collector with
    | none => newCollector defaultMaxLatencySamples
    | some collector => some collector

/-- `logAccess`. -/
def logAccess (ctx : Context) (method status : String) (latencyMs : Float64) :
    ObservedProg Unit := do
  let (requestID, _) := ctx.requestID
  let (userID, _) := ctx.userID
  let time ← Prog.observe .now
  Prog.observe (.printf {
    atTime := time.wall
    latencyMs := latencyMs
    method := method
    requestId := requestID
    status := status
    userId := userID })

/-- A `grpc.UnaryServerInterceptor`: the context, the method of `info` if there is one, and the
handler. -/
abbrev UnaryServerInterceptor (Op : Type → Type 1) (α : Type) :=
  Context → Option String → (Context → Prog Op Status α) → Prog Op Status α

/-- `UnaryObserver.Interceptor`. -/
def unaryObserverInterceptor {α : Type} : UnaryServerInterceptor (Plus DbOp ObserverOp) α :=
  fun ctx info handler => do
    let startedAt ← Prog.observe .now
    let outcome ← (handler ctx).attempt
    let endedAt ← Prog.observe .now
    let elapsed := endedAt.monotonic - startedAt.monotonic
    let fullMethod := match info with
      | some method => if method ≠ "" then method else "unknown"
      | none => "unknown"
    let grpcCode := statusCode outcome
    let latencyMs := toLatencyMs elapsed
    Prog.observe (.recordRPC fullMethod grpcCode elapsed)
    logAccess ctx fullMethod grpcCode.string latencyMs
    Prog.ofExcept outcome

/-! ## The server -/

/-- `grpc.ChainUnaryInterceptor`: the first interceptor is the outermost. -/
def chainUnaryInterceptor {Op : Type → Type 1} {α : Type} :
    List (UnaryServerInterceptor Op α) → UnaryServerInterceptor Op α
  | [] => fun ctx _ handler => handler ctx
  | interceptor :: rest => fun ctx info handler =>
      interceptor ctx info fun ctx => chainUnaryInterceptor rest ctx info handler

/-- `UnaryContextInterceptor` as a member of a chain. -/
def contextInterceptor {Op : Type → Type 1} {α : Type} (requireAuth : Bool) (md : Metadata) :
    UnaryServerInterceptor Op α := fun ctx _ handler =>
  let requestID := first (md metadataKeyRequestID)
  let ctx := if requestID ≠ "" then ctx.withRequestID requestID else ctx
  let userID := first (md metadataKeyUserID)
  let ctx := if userID ≠ "" then ctx.withUserID userID else ctx
  if requireAuth && userID == "" then .fail ⟨.unauthenticated, "認証が必要です"⟩
  else handler ctx

/-- `UnaryRequireAuthByMethodInterceptor` as a member of a chain. -/
def requireAuthInterceptor {Op : Type → Type 1} {α : Type} (allowAnonymousMethods : List String) :
    UnaryServerInterceptor Op α := fun ctx info handler =>
  if info.getD "" ∈ allowAnonymousMethods then handler ctx
  else
    let (userID, ok) := ctx.userID
    if !ok || userID == "" then .fail ⟨.unauthenticated, "認証が必要です"⟩ else handler ctx

/-- The chain of `NewServer`, by the interceptor in `Dependencies`, for a request with this
metadata. -/
def newServer {Op : Type → Type 1} {α : Type}
    (observabilityUnaryInterceptor : Option (UnaryServerInterceptor Op α)) (md : Metadata) :
    UnaryServerInterceptor Op α :=
  chainUnaryInterceptor ([contextInterceptor false md] ++ observabilityUnaryInterceptor.toList ++
    [requireAuthInterceptor allowAnonymous])

/-- What the server of `main` does with a request. -/
def observedServe (io : UuidReaders) (md : Metadata) (req : Request) : ObservedProg Response :=
  newServer (some unaryObserverInterceptor) md Context.background (some req.fullMethod)
    fun ctx => (handle io ctx req).lift

/-- Without an observer the chain is the server that the calls go through. -/
theorem newServer_none (io : UuidReaders) (md : Metadata) (req : Request) :
    newServer none md Context.background (some req.fullMethod) (fun ctx => handle io ctx req) =
      serve io md req := rfl

/-! ## The reporter -/

/-- `emitSnapshot`: the line, if there is one. -/
def emitSnapshot (snapshot : CollectorSnapshot) : List LogLine :=
  if snapshot.methods.length = 0 then []
  else [.snapshot { atTime := snapshot.collectedAt, metrics := snapshot.methods }]

/-- What the reporter does at a tick, and what operators do to the database. -/
inductive Background : Db × Telemetry → Db × Telemetry → Prop
  | take (db : Db) (s : Telemetry) (scan : ℕ → ℕ) (now : ℤ) (h : s.taken = none) :
      Background (db, s) (db, { s with taken := some (snapshot scan now s.collector) })
  | emit (db : Db) (s : Telemetry) (taken : CollectorSnapshot) (h : s.taken = some taken) :
      Background (db, s) (db, { s with lines := s.lines ++ emitSnapshot taken, taken := none })
  | setDeletedAt (db : Db) (s : Telemetry) (now : Timestamp) (p : QuestionRow → Bool)
      (deletedAt : QuestionRow → Option Timestamp) :
      Background (db, s) (db.setDeletedAt now p deletedAt, s)

/-- The telemetry that `main` starts with. -/
def Telemetry.initial : Telemetry where
  collector := (newUnaryObserver (newCollector 512)).collector
  lines := []
  taken := none

/-- A request as it arrives: its metadata and its message. -/
structure Incoming where
  md : Metadata
  req : Request

/-- The server of `main`, with any number of requests in flight. -/
abbrev ObservedServer :=
  Served (Plus DbOp ObserverOp) Incoming (Db × Telemetry) Status Response

/-- The runs of the observed server. -/
abbrev ObservedSteps (io : UuidReaders) : ObservedServer → ObservedServer → Prop :=
  Served.Steps ((DbOp.exec io).both ObserverOp.exec) (fun r => observedServe io r.md r.req)
    Background

/-- Operators set `deleted_at`. -/
inductive Operators : Db → Db → Prop
  | setDeletedAt (db : Db) (now : Timestamp) (p : QuestionRow → Bool)
      (deletedAt : QuestionRow → Option Timestamp) :
      Operators db (db.setDeletedAt now p deletedAt)

/-- The runs of the server without an observer. -/
abbrev PlainSteps (io : UuidReaders) :
    Served DbOp Incoming Db Status Response → Served DbOp Incoming Db Status Response → Prop :=
  Served.Steps (DbOp.exec io) (fun r => serve io r.md r.req) Operators

end Observability

end HistoryQuiz
