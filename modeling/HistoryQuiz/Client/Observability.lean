import HistoryQuiz.Base.Rounding
import HistoryQuiz.Client.Js
import Mathlib.Data.List.Forall2
import Mathlib.Data.List.Sort

/-!
# The metrics of the client

`observability.server.ts`: the metrics of the HTTP requests that the client answers and of the
gRPC calls that it makes. They are kept in one `Map`, under a key that is made of the scope and
the name of a metric (`metricKey`); `getMetricSnapshots` takes the keys apart again.

Numbers are finite: counts are natural numbers and the others rational, and sums, quotients and
products round to `53` bits.
-/

namespace HistoryQuiz

namespace Client

namespace Observability

open Js

def DEFAULT_MAX_LATENCY_SAMPLES : ℤ := 512

/-! ## Paths -/

/-- `[0-9a-f]`. -/
def isHexadecimal (c : Char) : Bool := ('0' ≤ c && c ≤ '9') || ('a' ≤ c && c ≤ 'f')

/-- `[1-5]`. -/
def isVersion (c : Char) : Bool := '1' ≤ c && c ≤ '5'

/-- `[89ab]`. -/
def isVariant (c : Char) : Bool := c = '8' || c = '9' || c = 'a' || c = 'b'

/-- The character classes of the pattern. -/
def UUID_SEGMENT_PATTERN : List (Char → Bool) :=
  let isHyphen : Char → Bool := fun c => c = '-'
  List.replicate 8 isHexadecimal ++ isHyphen :: List.replicate 4 isHexadecimal ++
    isHyphen :: isVersion :: List.replicate 3 isHexadecimal ++
    isHyphen :: isVariant :: List.replicate 3 isHexadecimal ++
    isHyphen :: List.replicate 12 isHexadecimal

/-- `UUID_SEGMENT_PATTERN.test(segment)`. The pattern has the flag `i`, and its classes are of
lower-case letters. -/
def isUuidSegment (segment : String) : Bool :=
  List.Forall₂ (fun isOfClass c => isOfClass c = true) UUID_SEGMENT_PATTERN
    (segment.toList.map Char.toLower)

/-- `NUMERIC_SEGMENT_PATTERN.test(segment)`. -/
def isNumericSegment (segment : String) : Bool :=
  segment ≠ "" && segment.toList.all Char.isDigit

/-- What takes the place of a segment. -/
def normalizeSegment (segment : String) : String :=
  if isUuidSegment segment || isNumericSegment segment then ":id" else segment

/-- `normalizePathname`. -/
def normalizePathname (pathname : String) : String :=
  let segments := ((split pathname '/').filter fun segment => segment ≠ "").map normalizeSegment
  "/" ++ join segments '/'

/-! ## The store -/

inductive MetricScope where
  | grpc
  | http
deriving DecidableEq, Repr

def MetricScope.text : MetricScope → String
  | grpc => "grpc"
  | http => "http"

structure MetricWindow where
  errorCount : ℕ
  latenciesMs : List ℚ
  requestCount : ℕ
deriving DecidableEq

structure MetricSnapshot where
  errorCount : ℕ
  errorRate : ℚ
  name : String
  p95LatencyMs : ℚ
  requestCount : ℕ
  scope : String
deriving DecidableEq

/-- `metricStore`. -/
abbrev MetricStore := Map String MetricWindow

/-- `n + 1`. -/
def increment (n : ℕ) : ℕ := Rounding.toBits 53 (n + 1)

/-- `appendLatencySample`. -/
def appendLatencySample (samples : List ℚ) (latencyMs : ℚ) (maxSamples : ℤ) : List ℚ :=
  if maxSamples ≤ 0 then [latencyMs]
  else if samples.length < maxSamples then samples ++ [latencyMs]
  else samples.drop 1 ++ [latencyMs]

/-- The key of a metric. -/
def metricKey (scope : MetricScope) (name : String) : String := scope.text ++ ":" ++ name

/-- The window of a metric that has not been recorded. -/
def MetricWindow.empty : MetricWindow := ⟨0, [], 0⟩

/-- The assignments to a window that `recordMetric` makes. -/
def MetricWindow.record (isError : Bool) (latencyMs : ℚ) (current : MetricWindow) :
    MetricWindow where
  errorCount := if isError then increment current.errorCount else current.errorCount
  latenciesMs := appendLatencySample current.latenciesMs latencyMs DEFAULT_MAX_LATENCY_SAMPLES
  requestCount := increment current.requestCount

/-- `recordMetric`. -/
def recordMetric (store : MetricStore) (isError : Bool) (latencyMs : ℚ) (name : String)
    (scope : MetricScope) : MetricStore :=
  let key := metricKey scope name
  let current := (store.get key).getD .empty
  store.set key (current.record isError latencyMs)

/-- The index that `calculateP95` takes, by what the product of the length and `0.95` is. -/
def p95Index (product : ℚ) (length : ℕ) : ℤ :=
  let index := max (⌈product⌉ - 1) 0
  min index (length - 1)

/-- `calculateP95`, by what `times95` makes of a length. -/
def calculateP95By (times95 : ℕ → ℚ) (samples : List ℚ) : ℚ :=
  if samples.length = 0 then 0
  else
    let sorted := samples.insertionSort (· ≤ ·)
    sorted.getD (p95Index (times95 sorted.length) sorted.length).toNat 0

/-- `n * 0.95`. -/
def numberTimes95 (n : ℕ) : ℚ := Rounding.nearest 53 (n * Rounding.nearest 53 (95 / 100))

/-- `calculateP95`. -/
def calculateP95 (samples : List ℚ) : ℚ := calculateP95By numberTimes95 samples

/-- The snapshot of an entry of the store. -/
def snapshotOf (key : String) (window : MetricWindow) : MetricSnapshot :=
  let parts := split key ':'
  { errorCount := window.errorCount
    errorRate :=
      if window.requestCount > 0 then
        Rounding.nearest 53 (window.errorCount / window.requestCount)
      else 0
    name := join parts.tail ':'
    p95LatencyMs := calculateP95 window.latenciesMs
    requestCount := window.requestCount
    scope := parts.headD "" }

/-- `getMetricSnapshots`; `localeCompare` is `String.prototype.localeCompare`. -/
def getMetricSnapshots (localeCompare : String → String → ℤ) (store : MetricStore) :
    List MetricSnapshot :=
  (store.entries.map fun entry => snapshotOf entry.1 entry.2).insertionSort fun a b =>
    (if a.scope = b.scope then localeCompare a.name b.name else localeCompare a.scope b.scope) ≤ 0

/-! ## Observations -/

/-- `text?.trim() || fallback`. -/
def trimOr (text : Option String) (fallback : String) : String :=
  match text with
  | some text => if trim text = "" then fallback else trim text
  | none => fallback

/-- `normalizeGrpcCode`; `toUpperCase` is `String.prototype.toUpperCase`. -/
def normalizeGrpcCode (toUpperCase : String → String) (code : String) : String :=
  let normalized := toUpperCase (trim code)
  if normalized ≠ "" then normalized else "UNKNOWN"

/-- `toHttpStatusClass`. -/
def toHttpStatusClass (status : ℤ) : String :=
  if status ≤ 0 then "unknown" else toString (status / 100) ++ "xx"

/-- A line of the access log, and the time and the request id that are in it. -/
structure AccessLog where
  atMs : ℚ
  latencyMs : ℚ
  method : String
  requestId : String
  status : String
  statusClass : Option String
  type : String
  userId : Option String
deriving DecidableEq

/-- The parameters of `observeHttpRequest`: of the request its method and the path of its URL. -/
structure HttpParams where
  method : String
  pathname : String
  requestId : Option String
  responseStatus : ℤ
  routeId : Option String
  startedAtMs : ℚ
  userId : Option String

structure GrpcParams where
  grpcCode : String
  requestId : Option String
  rpcMethod : String
  startedAtMs : ℚ
  userId : Option String

/-- `Math.max(Date.now() - startedAtMs, 0)`. -/
def latencySince (now startedAtMs : ℚ) : ℚ := max (Rounding.nearest 53 (now - startedAtMs)) 0

def HttpParams.methodWithPath (toUpperCase : String → String) (params : HttpParams) : String :=
  toUpperCase params.method ++ " " ++ normalizePathname params.pathname

def HttpParams.metricName (toUpperCase : String → String) (params : HttpParams) : String :=
  trimOr params.routeId (params.methodWithPath toUpperCase)

/-- `observeHttpRequest` at a time, with the id that would be drawn for the request. -/
def observeHttpRequest (toUpperCase : String → String) (now : ℚ) (freshId : String)
    (params : HttpParams) (store : MetricStore) : MetricStore × AccessLog :=
  let latencyMs := latencySince now params.startedAtMs
  (recordMetric store (500 ≤ params.responseStatus) latencyMs (params.metricName toUpperCase) .http,
    { atMs := now
      latencyMs := latencyMs
      method := params.methodWithPath toUpperCase
      requestId := trimOr params.requestId freshId
      status := toString params.responseStatus
      statusClass := some (toHttpStatusClass params.responseStatus)
      type := "http_access"
      userId := params.userId })

/-- `observeGrpcCall`. -/
def observeGrpcCall (toUpperCase : String → String) (now : ℚ) (freshId : String)
    (params : GrpcParams) (store : MetricStore) : MetricStore × AccessLog :=
  let normalizedCode := normalizeGrpcCode toUpperCase params.grpcCode
  let latencyMs := latencySince now params.startedAtMs
  (recordMetric store (normalizedCode ≠ "OK") latencyMs (trimOr (some params.rpcMethod) "unknown")
      .grpc,
    { atMs := now
      latencyMs := latencyMs
      method := params.rpcMethod
      requestId := trimOr params.requestId freshId
      status := normalizedCode
      statusClass := none
      type := "grpc_client_access"
      userId := params.userId })

end Observability

end Client

end HistoryQuiz
