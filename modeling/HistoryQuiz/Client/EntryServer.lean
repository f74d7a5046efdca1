import HistoryQuiz.Client.Auth
import HistoryQuiz.Client.Http
import HistoryQuiz.Client.Observability

/-!
# The server process of the client

`entry.server.tsx` and the rest of `observability.server.ts`: the documents that the client
renders, the faults and the metrics that it prints, and the timer that prints the metrics. The
process has one metric store, one console and one flag for the timer; requests that are rendered
and calls of the backend take turns on them, since nothing runs in parallel.

React decides when it calls `onShellReady`, `onShellError` and `onError`, so the model takes its
calls as they come, in any order. What is in the body of a document is left out.
-/

namespace HistoryQuiz

namespace Client

namespace EntryServer

open Js Client.Observability

/-! ## Headers -/

/-- `Headers`, by names in lower case. -/
abbrev Headers := String → Option String

/-- `headers.get(name)`. -/
def Headers.get (headers : Headers) (name : String) : Option String := headers name.toLower

/-- `headers.set(name, value)`. -/
def Headers.set (headers : Headers) (name value : String) : Headers :=
  Function.update headers name.toLower (some value)

def CONTENT_SECURITY_POLICY : String :=
  String.intercalate "; "
    ["default-src 'self'", "base-uri 'self'", "frame-ancestors 'none'", "object-src 'none'",
      "script-src 'self' 'unsafe-inline'", "style-src 'self' 'unsafe-inline'",
      "img-src 'self' data:", "font-src 'self' data:", "connect-src 'self'", "form-action 'self'"]

/-- The names and the values that `applySecurityHeaders` sets. -/
def SECURITY_HEADERS : List (String × String) :=
  [("Content-Security-Policy", CONTENT_SECURITY_POLICY),
    ("X-Frame-Options", "DENY"),
    ("X-Content-Type-Options", "nosniff"),
    ("Referrer-Policy", "strict-origin-when-cross-origin"),
    ("Permissions-Policy", "camera=(), microphone=(), geolocation=(), payment=()"),
    ("Strict-Transport-Security", "max-age=31536000; includeSubDomains")]

/-- `applySecurityHeaders`. -/
def applySecurityHeaders (headers : Headers) : Headers :=
  SECURITY_HEADERS.foldl (fun headers header => headers.set header.1 header.2) headers

/-! ## Timers -/

/-- `Number.parseInt(text, 10)`: whether it is negative and its magnitude, which is `⊤` when it
rounds to infinity; nothing for `NaN`. -/
def parseInt (text : String) : Option (Bool × WithTop ℕ) :=
  let magnitude (digits : List Char) : Option (WithTop ℕ) :=
    match digits.takeWhile Char.isDigit with
    | [] => none
    | digits => some (match parseIntDigits digits with
      | some n => n
      | none => ⊤)
  match text.toList.dropWhile isWhiteSpace with
  | '-' :: digits => (magnitude digits).map fun n => (true, n)
  | '+' :: digits => (magnitude digits).map fun n => (false, n)
  | digits => (magnitude digits).map fun n => (false, n)

def DEFAULT_REPORT_INTERVAL_SECONDS : ℕ := 60

/-- The number of a rounded magnitude: the numbers end at `2 ^ limit`. -/
def ofRounded (limit magnitude : ℕ) : WithTop ℕ := if 2 ^ limit ≤ magnitude then ⊤ else magnitude

/-- `parsed * 1_000`. -/
def toMilliseconds : WithTop ℕ → WithTop ℕ
  | ⊤ => ⊤
  | (n : ℕ) => ofRounded 1024 (Rounding.toBits 53 (n * 1000))

/-- `resolveReportIntervalMs`, by the value of the variable. -/
def resolveReportIntervalMs (raw : Option String) : WithTop ℕ :=
  let default : WithTop ℕ := (DEFAULT_REPORT_INTERVAL_SECONDS * 1000 : ℕ)
  match raw with
  | none => default
  | some raw =>
      if raw = "" then default
      else
        match parseInt raw with
        | none => default
        | some (negative, magnitude) =>
            if negative || magnitude = 0 then default else toMilliseconds magnitude

/-- The delay of `setInterval`: Node takes one millisecond in place of a delay that is not between
one and `2 ^ 31 - 1`. -/
def timerDelay : WithTop ℕ → ℕ
  | ⊤ => 1
  | (n : ℕ) => if 1 ≤ n ∧ n ≤ 2 ^ 31 - 1 then n else 1

/-- The variables of `process.env` that are read. -/
structure Env where
  NODE_ENV : Option String
  CLIENT_OBSERVABILITY_REPORT_INTERVAL_SECONDS : Option String
deriving DecidableEq, Repr

/-! ## The console -/

/-- The payload of `observeServerFault`. -/
structure FaultLog where
  atMs : ℚ
  detail : Thrown
  message : String
  requestId : String
  source : String
  type : String
  userId : Option String

/-- A line of the console. -/
inductive ConsoleLine where
  | access (payload : AccessLog)
  | fault (payload : FaultLog)
  | metricsSnapshot (atMs : ℚ) (metrics : List MetricSnapshot)

/-! ## Renderings -/

structure SsrRequest where
  method : String
  pathname : String
  headers : Headers

/-- A status with which `new Response(stream, …)` does not throw. -/
structure DocumentStatus where
  code : ℕ
  valid : 200 ≤ code ∧ code ≤ 599 ∧ code ∉ [204, 205, 304]

def internalServerError : DocumentStatus := ⟨500, by decide⟩

structure DocumentResponse where
  status : DocumentStatus
  headers : Headers

/-- What a call of `handleRequest` keeps. -/
structure Rendering where
  request : SsrRequest
  responseStatusCode : DocumentStatus
  responseHeaders : Headers
  startedAtMs : ℚ
  hasLoggedAccess : Bool
  didError : Bool
  /-- How the promise is settled. -/
  settled : Option (Except Thrown DocumentResponse)

/-- A call that React makes. -/
inductive Callback where
  | onShellReady
  | onShellError (error : Thrown)
  | onError (error : Thrown)

/-! ## The process -/

structure Process where
  metricStore : MetricStore
  reportTimerStarted : Bool
  /-- The delays of the timers that were set. -/
  timers : List ℕ
  console : List ConsoleLine
  renderings : List Rendering

def Process.initial : Process := ⟨Map.empty, false, [], [], []⟩

/-- `ensureObservabilityReporterStarted`. -/
def Process.ensureObservabilityReporterStarted (env : Env) (p : Process) : Process :=
  if p.reportTimerStarted || env.NODE_ENV = some "test" then p
  else
    let intervalMs := resolveReportIntervalMs env.CLIENT_OBSERVABILITY_REPORT_INTERVAL_SECONDS
    { p with reportTimerStarted := true, timers := p.timers ++ [timerDelay intervalMs] }

/-- `writeStructuredLog`. -/
def Process.writeStructuredLog (line : ConsoleLine) (p : Process) : Process :=
  { p with console := p.console ++ [line] }

/-- `emitMetricsSnapshot`. -/
def Process.emitMetricsSnapshot (localeCompare : String → String → ℤ) (now : ℚ) (p : Process) :
    Process :=
  let metrics := getMetricSnapshots localeCompare p.metricStore
  if metrics.length = 0 then p else p.writeStructuredLog (.metricsSnapshot now metrics)

/-- `observeServerFault`, of the process. -/
def Process.observeServerFault (now : ℚ) (freshId : String) (detail : Thrown) (message : String)
    (requestId : Option String) (source : String) (p : Process) : Process :=
  p.writeStructuredLog (.fault {
    atMs := now
    detail := detail
    message := message
    requestId := trimOr requestId freshId
    source := source
    type := "server_fault"
    userId := none })

section Process

variable (toUpperCase : String → String)

/-- `observeHttpRequest`, of the process. -/
def Process.observeHttp (now : ℚ) (freshId : String) (params : HttpParams) (p : Process) :
    Process :=
  let (metricStore, line) := observeHttpRequest toUpperCase now freshId params p.metricStore
  { p with metricStore := metricStore }.writeStructuredLog (.access line)

/-- `observeGrpcCall`, of the process. -/
def Process.observeGrpc (now : ℚ) (freshId : String) (params : GrpcParams) (p : Process) :
    Process :=
  let (metricStore, line) := observeGrpcCall toUpperCase now freshId params p.metricStore
  { p with metricStore := metricStore }.writeStructuredLog (.access line)

/-! ## handleRequest -/

/-- `responseHeaders.get("x-request-id") ?? request.headers.get("x-request-id") ?? undefined`. -/
def Rendering.requestId (r : Rendering) : Option String :=
  r.responseHeaders.get "x-request-id" <|> r.request.headers.get "x-request-id"

/-- What `logHttpAccessOnce` observes. -/
def Rendering.httpParams (status : ℕ) (headers : Option Headers) (r : Rendering) : HttpParams where
  method := r.request.method
  pathname := r.request.pathname
  requestId := (headers.bind fun headers => headers.get "x-request-id") <|> r.requestId
  responseStatus := status
  routeId := none
  startedAtMs := r.startedAtMs
  userId := none

/-- `logHttpAccessOnce`. -/
def logHttpAccessOnce (now : ℚ) (freshId : String) (status : ℕ) (headers : Option Headers)
    (r : Rendering) (p : Process) : Rendering × Process :=
  if r.hasLoggedAccess then (r, p)
  else
    ({ r with hasLoggedAccess := true },
      p.observeHttp toUpperCase now freshId (r.httpParams status headers))

/-- `resolve` and `reject`: a promise is settled once. -/
def Rendering.settle (outcome : Except Thrown DocumentResponse) (r : Rendering) : Rendering :=
  { r with settled := r.settled <|> some outcome }

/-- `onShellReady`. -/
def onShellReady (now : ℚ) (freshId : String) (r : Rendering) (p : Process) :
    Rendering × Process :=
  let responseHeaders := (applySecurityHeaders r.responseHeaders).set "Content-Type"
    "text/html; charset=utf-8"
  let r := { r with responseHeaders := responseHeaders }
  let status := if r.didError then internalServerError else r.responseStatusCode
  let r := r.settle (.ok ⟨status, responseHeaders⟩)
  logHttpAccessOnce toUpperCase now freshId status.code (some r.responseHeaders) r p

/-- `onShellError`. -/
def onShellError (now : ℚ) (freshId : String) (error : Thrown) (r : Rendering) (p : Process) :
    Rendering × Process :=
  let p := p.observeServerFault now freshId error "SSR のシェル生成に失敗しました。" r.requestId
    "entry.server:onShellError"
  let (r, p) := logHttpAccessOnce toUpperCase now freshId 500 (some r.responseHeaders) r p
  (r.settle (.error error), p)

/-- `onError`. -/
def onError (now : ℚ) (freshId : String) (error : Thrown) (r : Rendering) (p : Process) :
    Rendering × Process :=
  ({ r with didError := true },
    p.observeServerFault now freshId error "SSR レンダリング中にエラーが発生しました。" r.requestId
      "entry.server:onError")

def Callback.call (now : ℚ) (freshId : String) (r : Rendering) (p : Process) :
    Callback → Rendering × Process
  | onShellReady => EntryServer.onShellReady toUpperCase now freshId r p
  | onShellError error => EntryServer.onShellError toUpperCase now freshId error r p
  | onError error => EntryServer.onError now freshId error r p

/-- `handleRequest`: the rendering that it starts. -/
def handleRequest (request : SsrRequest) (responseStatusCode : DocumentStatus)
    (responseHeaders : Headers) (now : ℚ) : Rendering :=
  ⟨request, responseStatusCode, responseHeaders, now, false, false, none⟩

/-! ## Runs -/

/-- What happens in the process, with the values of clocks and generators. -/
inductive Event where
  | handleRequest (env : Env) (request : SsrRequest) (responseStatusCode : DocumentStatus)
      (responseHeaders : Headers) (now : ℚ)
  | callback (rendering : ℕ) (callback : Callback) (now : ℚ) (freshId : String)
  /-- A call of the backend begins. -/
  | invokeUnary (env : Env)
  /-- A call of the backend ends. -/
  | observeGrpcCall (params : GrpcParams) (now : ℚ) (freshId : String)
  /-- The timer fires. -/
  | timer (now : ℚ)

variable (localeCompare : String → String → ℤ)

def Process.step (p : Process) : Event → Process
  | .handleRequest env request responseStatusCode responseHeaders now =>
      let p := p.ensureObservabilityReporterStarted env
      { p with renderings := p.renderings ++
        [EntryServer.handleRequest request responseStatusCode responseHeaders now] }
  | .callback i callback now freshId =>
      match p.renderings[i]? with
      | none => p
      | some r =>
          let (r, p) := callback.call toUpperCase now freshId r p
          { p with renderings := p.renderings.set i r }
  | .invokeUnary env => p.ensureObservabilityReporterStarted env
  | .observeGrpcCall params now freshId => p.observeGrpc toUpperCase now freshId params
  | .timer now => if p.timers.length = 0 then p else p.emitMetricsSnapshot localeCompare now

/-- The process after what happened. -/
def Process.run (p : Process) (trace : List Event) : Process :=
  trace.foldl (Process.step toUpperCase localeCompare) p

end Process

end EntryServer

end Client

end HistoryQuiz
