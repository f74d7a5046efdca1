import HistoryQuiz.Client.EntryServer

/-!
# The metrics that the client prints

* `metrics_of_lines`: at any time the metric store is what the access lines on the console add up
  to, and so is every snapshot of the metrics, for the access lines before it;
* `one_timer`: the first request or call outside of tests sets the timer, and nothing sets
  another. Its delay is the number of seconds that is configured, or one millisecond when that is
  more than Node's timers can wait.
-/

namespace HistoryQuiz

namespace Client

namespace EntryServer

open Js Client.Observability

variable {toUpperCase : String → String} {localeCompare : String → String → ℤ}

/-! ## The metrics of access lines -/

section AccessLog

variable (line : AccessLog)

def AccessLog.isHttp : Bool := line.type = "http_access"

/-- The scope that a line was recorded under. -/
def AccessLog.scope : MetricScope := if AccessLog.isHttp line then .http else .grpc

/-- The name that a line was recorded under. -/
def AccessLog.metricName : String :=
  if AccessLog.isHttp line then line.method else trimOr (some line.method) "unknown"

/-- Whether a line was recorded as an error. -/
def AccessLog.isError : Bool :=
  if AccessLog.isHttp line then line.statusClass = some "5xx" else line.status ≠ "OK"

/-- Add a line to the metrics. -/
def AccessLog.record (store : MetricStore) : MetricStore :=
  recordMetric store (AccessLog.isError line) line.latencyMs (AccessLog.metricName line)
    (AccessLog.scope line)

end AccessLog

/-- The metrics that access lines add up to. -/
def audit (lines : List AccessLog) : MetricStore :=
  lines.foldl (fun store line => AccessLog.record line store) Map.empty

def ConsoleLine.access? : ConsoleLine → Option AccessLog
  | .access payload => some payload
  | _ => none

theorem audit_append (lines : List AccessLog) (line : AccessLog) :
    audit (lines ++ [line]) = AccessLog.record line (audit lines) := by
  unfold audit
  rw [List.foldl_append]
  rfl

/-- The class of a status of a document tells whether it is an error of the server. -/
theorem statusClass_eq {status : ℤ} (h : 200 ≤ status ∧ status ≤ 599) :
    toHttpStatusClass status = "5xx" ↔ 500 ≤ status := by
  unfold toHttpStatusClass
  rw [if_neg (by omega)]
  have hquotient : status / 100 = 2 ∨ status / 100 = 3 ∨ status / 100 = 4 ∨ status / 100 = 5 := by
    omega
  rcases hquotient with hq | hq | hq | hq
  · rw [hq]
    exact iff_of_false (by decide) (by omega)
  · rw [hq]
    exact iff_of_false (by decide) (by omega)
  · rw [hq]
    exact iff_of_false (by decide) (by omega)
  · rw [hq]
    exact iff_of_true (by decide) (by omega)

/-- The line of a request is recorded as the request was. -/
theorem observeHttpRequest_eq {params : HttpParams} (hroute : params.routeId = none)
    (hstatus : 200 ≤ params.responseStatus ∧ params.responseStatus ≤ 599) (now : ℚ)
    (freshId : String) (store : MetricStore) :
    (observeHttpRequest toUpperCase now freshId params store).1 =
      AccessLog.record (observeHttpRequest toUpperCase now freshId params store).2 store := by
  have hname : params.metricName toUpperCase = params.methodWithPath toUpperCase := by
    unfold HttpParams.metricName
    rw [hroute]
    rfl
  have herror : decide (500 ≤ params.responseStatus) =
      decide (some (toHttpStatusClass params.responseStatus) = some "5xx") := by
    rw [decide_eq_decide, Option.some_inj, statusClass_eq hstatus]
  unfold observeHttpRequest AccessLog.record AccessLog.isError AccessLog.metricName AccessLog.scope
    AccessLog.isHttp
  simp only [hname, herror, decide_true, if_true]

/-- The line of a call is recorded as the call was. -/
theorem observeGrpcCall_eq (params : GrpcParams) (now : ℚ) (freshId : String)
    (store : MetricStore) :
    (observeGrpcCall toUpperCase now freshId params store).1 =
      AccessLog.record (observeGrpcCall toUpperCase now freshId params store).2 store := by
  have htype : ("grpc_client_access" = "http_access") = False := by decide
  unfold observeGrpcCall AccessLog.record AccessLog.isError AccessLog.metricName AccessLog.scope
    AccessLog.isHttp
  simp only [htype, decide_false, Bool.false_eq_true, if_false]

/-! ## Audits -/

/-- The metric store and the snapshots on the console are those of the access lines. -/
structure Audited (localeCompare : String → String → ℤ) (p : Process) : Prop where
  store : p.metricStore = audit (p.console.filterMap ConsoleLine.access?)
  snapshots : ∀ before now metrics after,
    p.console = before ++ .metricsSnapshot now metrics :: after →
      metrics ≠ [] ∧ metrics = getMetricSnapshots localeCompare
        (audit (before.filterMap ConsoleLine.access?))

/-- What is before a line of a longer console. -/
theorem append_singleton_eq {α : Type} {lines before after : List α} {line x : α}
    (h : lines ++ [line] = before ++ x :: after) :
    (after = [] ∧ before = lines ∧ x = line) ∨
      ∃ after', after = after' ++ [line] ∧ lines = before ++ x :: after' := by
  induction after using List.reverseRecOn with
  | nil =>
      obtain ⟨hlines, hline⟩ := List.append_inj' h rfl
      exact .inl ⟨rfl, hlines.symm, (List.singleton_inj.mp hline).symm⟩
  | append_singleton after last =>
      rw [← List.cons_append, ← List.append_assoc] at h
      obtain ⟨hlines, hline⟩ := List.append_inj' h rfl
      exact .inr ⟨after, by rw [List.singleton_inj.mp hline], hlines⟩

/-- A fault is not a metric. -/
theorem Audited.fault {p : Process} (h : Audited localeCompare p) (payload : FaultLog) :
    Audited localeCompare (p.writeStructuredLog (.fault payload)) := by
  refine ⟨?_, ?_⟩
  · show p.metricStore = _
    rw [h.store, Process.writeStructuredLog, List.filterMap_append]
    simp [ConsoleLine.access?, List.filterMap_cons]
  · intro before now metrics after heq
    rcases append_singleton_eq heq with ⟨-, -, hline⟩ | ⟨after', -, hlines⟩
    · cases hline
    · exact h.snapshots before now metrics after' hlines

/-- An access line that is recorded. -/
theorem Audited.access {p : Process} (h : Audited localeCompare p) (line : AccessLog) :
    Audited localeCompare ({ p with metricStore := AccessLog.record line p.metricStore
      }.writeStructuredLog (.access line)) := by
  refine ⟨?_, ?_⟩
  · show AccessLog.record line p.metricStore = _
    rw [h.store, Process.writeStructuredLog, List.filterMap_append]
    exact (audit_append _ line).symm
  · intro before now metrics after heq
    rcases append_singleton_eq heq with ⟨-, -, hline⟩ | ⟨after', -, hlines⟩
    · cases hline
    · exact h.snapshots before now metrics after' hlines

/-- A snapshot that the timer prints. -/
theorem Audited.emitMetricsSnapshot {p : Process} (h : Audited localeCompare p) (now : ℚ) :
    Audited localeCompare (p.emitMetricsSnapshot localeCompare now) := by
  unfold Process.emitMetricsSnapshot
  dsimp only
  split_ifs with hempty
  · exact h
  · refine ⟨?_, ?_⟩
    · show p.metricStore = _
      rw [h.store, Process.writeStructuredLog, List.filterMap_append]
      simp [ConsoleLine.access?, List.filterMap_cons]
    · intro before now' metrics after heq
      rcases append_singleton_eq heq with ⟨-, rfl, hline⟩ | ⟨after', -, hlines⟩
      · cases hline
        exact ⟨fun hnil => hempty (List.length_eq_zero_iff.mpr hnil), by rw [h.store]⟩
      · exact h.snapshots before now' metrics after' hlines

theorem Audited.ensure {p : Process} (h : Audited localeCompare p) (env : Env) :
    Audited localeCompare (p.ensureObservabilityReporterStarted env) := by
  unfold Process.ensureObservabilityReporterStarted
  split_ifs
  · exact h
  · exact ⟨h.store, h.snapshots⟩

theorem Audited.observeHttp {p : Process} (h : Audited localeCompare p) {r : Rendering}
    {status : ℕ} (hstatus : 200 ≤ status ∧ status ≤ 599) (headers : Option Headers) (now : ℚ)
    (freshId : String) : Audited localeCompare
      (p.observeHttp toUpperCase now freshId (r.httpParams status headers)) := by
  have hparams : 200 ≤ (r.httpParams status headers).responseStatus ∧
      (r.httpParams status headers).responseStatus ≤ 599 := by
    show (200 : ℤ) ≤ status ∧ (status : ℤ) ≤ 599
    omega
  unfold Process.observeHttp
  dsimp only
  rw [observeHttpRequest_eq rfl hparams]
  exact h.access _

theorem Audited.logHttpAccessOnce {p : Process} (h : Audited localeCompare p) {r : Rendering}
    {status : ℕ} (hstatus : 200 ≤ status ∧ status ≤ 599) (headers : Option Headers) (now : ℚ)
    (freshId : String) : Audited localeCompare
      (EntryServer.logHttpAccessOnce toUpperCase now freshId status headers r p).2 := by
  unfold EntryServer.logHttpAccessOnce
  split_ifs
  · exact h
  · exact h.observeHttp hstatus headers now freshId

variable (toUpperCase) in
theorem Audited.call {p : Process} (h : Audited localeCompare p) (c : Callback) (now : ℚ)
    (freshId : String) (r : Rendering) :
    Audited localeCompare (c.call toUpperCase now freshId r p).2 := by
  cases c with
  | onShellReady =>
      refine h.logHttpAccessOnce ?_ _ now freshId
      have hvalid : ∀ status : DocumentStatus, 200 ≤ status.code ∧ status.code ≤ 599 :=
        fun status => ⟨status.valid.1, status.valid.2.1⟩
      exact hvalid _
  | onShellError error =>
      exact (h.fault _).logHttpAccessOnce (by decide) _ now freshId
  | onError error => exact h.fault _

theorem Audited.step {p : Process} (h : Audited localeCompare p) (e : Event) :
    Audited localeCompare (p.step toUpperCase localeCompare e) := by
  cases e with
  | handleRequest env request responseStatusCode responseHeaders now =>
      have hensure := h.ensure env
      exact ⟨hensure.store, hensure.snapshots⟩
  | callback i c now freshId =>
      unfold Process.step
      dsimp only
      split
      · exact h
      · rename_i r _
        have hcall := h.call toUpperCase c now freshId r
        exact ⟨hcall.store, hcall.snapshots⟩
  | invokeUnary env => exact h.ensure env
  | observeGrpcCall params now freshId =>
      show Audited localeCompare (p.observeGrpc toUpperCase now freshId params)
      unfold Process.observeGrpc
      dsimp only
      rw [observeGrpcCall_eq]
      exact h.access _
  | timer now =>
      unfold Process.step
      dsimp only
      split_ifs
      · exact h
      · exact h.emitMetricsSnapshot now

/-- In every run, the metric store is what the access lines on the console add up to, and every
snapshot of the metrics is what the access lines before it add up to. -/
theorem metrics_of_lines (toUpperCase : String → String) (localeCompare : String → String → ℤ)
    (trace : List Event) :
    Audited localeCompare (Process.initial.run toUpperCase localeCompare trace) := by
  induction trace using List.reverseRecOn with
  | nil =>
      refine ⟨rfl, ?_⟩
      intro before now metrics after heq
      exact absurd heq (by simp [Process.run, Process.initial])
  | append_singleton trace e ih =>
      unfold Process.run at ih ⊢
      rw [List.foldl_append]
      exact ih.step e

/-! ## The timer -/

/-- The environments in which the timer may be set. -/
def environments (trace : List Event) : List Env :=
  trace.filterMap fun
    | .handleRequest env _ _ _ _ => some env
    | .invokeUnary env => some env
    | _ => none

/-- The delay that the environment asks for. -/
def Env.delay (env : Env) : ℕ :=
  timerDelay (resolveReportIntervalMs env.CLIENT_OBSERVABILITY_REPORT_INTERVAL_SECONDS)

/-- The number of seconds in a variable, if it is a positive number. -/
def reportSeconds (raw : Option String) : Option (WithTop ℕ) :=
  raw.bind fun raw =>
    if raw = "" then none
    else (parseInt raw).bind fun parsed =>
      if parsed.1 || parsed.2 = 0 then none else some parsed.2

/-- The delay for a number of seconds. -/
def delayOfSeconds : Option (WithTop ℕ) → ℕ
  | none => 60000
  | some ⊤ => 1
  | some (n : ℕ) => if n ≤ 2147483 then n * 1000 else 1

/-- The delay for a number of milliseconds that is rounded. -/
theorem timerDelay_rounded {n limit : ℕ} (hn : 0 < n) (hlimit : 31 ≤ limit) :
    timerDelay (ofRounded limit (Rounding.toBits 53 (n * 1000))) =
      if n ≤ 2147483 then n * 1000 else 1 := by
  have hinfinity : 2 ^ 31 ≤ 2 ^ limit := Nat.pow_le_pow_right (by decide) hlimit
  unfold ofRounded
  by_cases hsmall : n ≤ 2147483
  · have hexact : Rounding.toBits 53 (n * 1000) = n * 1000 := Rounding.toBits_of_lt (by omega)
    have hwaits : 1 ≤ n * 1000 ∧ n * 1000 ≤ 2 ^ 31 - 1 := by omega
    rw [hexact, if_pos hsmall, if_neg (Nat.not_le.mpr (by omega))]
    exact if_pos hwaits
  · have hlarge : 2 ^ 31 - 1 < Rounding.toBits 53 (n * 1000) :=
      (Rounding.lt_toBits_iff (by decide) (by decide)).mpr (by omega)
    rw [if_neg hsmall]
    split_ifs
    · rfl
    · exact if_neg fun hwaits => absurd hwaits.2 (Nat.not_le.mpr hlarge)

theorem timerDelay_toMilliseconds {n : WithTop ℕ} (hn : n ≠ 0) :
    timerDelay (toMilliseconds n) = delayOfSeconds (some n) := by
  cases n with
  | top => rfl
  | coe n =>
      have hpos : 0 < n := Nat.pos_of_ne_zero fun hzero => hn (by rw [hzero]; rfl)
      exact timerDelay_rounded hpos (by decide)

/-- The delay is the number of seconds that is configured, one minute when there is none, and one
millisecond when it is more than the timer can wait. -/
theorem delay_eq (env : Env) : env.delay =
    delayOfSeconds (reportSeconds env.CLIENT_OBSERVABILITY_REPORT_INTERVAL_SECONDS) := by
  unfold Env.delay reportSeconds resolveReportIntervalMs
  cases env.CLIENT_OBSERVABILITY_REPORT_INTERVAL_SECONDS with
  | none => rfl
  | some raw =>
      dsimp only [Option.bind_some]
      by_cases hraw : raw = ""
      · rw [if_pos hraw, if_pos hraw]
        rfl
      · rw [if_neg hraw, if_neg hraw]
        cases parseInt raw with
        | none => rfl
        | some parsed =>
            obtain ⟨negative, magnitude⟩ := parsed
            dsimp only [Option.bind_some]
            split_ifs with hnone
            · rfl
            · refine timerDelay_toMilliseconds ?_
              rintro rfl
              exact hnone (by simp)

/-- The environment that sets the timer, if there is one. -/
def firstOutsideTests (trace : List Event) : Option Env :=
  (environments trace).find? fun env => env.NODE_ENV ≠ some "test"

theorem firstOutsideTests_append (trace : List Event) (e : Event) :
    firstOutsideTests (trace ++ [e]) = (firstOutsideTests trace).or (firstOutsideTests [e]) := by
  unfold firstOutsideTests environments
  rw [List.filterMap_append, List.find?_append]

/-- The flag and the timers after an environment set the timer, or none. -/
structure Timed (p : Process) (env : Option Env) : Prop where
  started : p.reportTimerStarted = env.isSome
  timers : p.timers = (env.map Env.delay).toList

theorem Timed.ensure {p : Process} {first : Option Env} (h : Timed p first) (env : Env) :
    Timed (p.ensureObservabilityReporterStarted env)
      (first.or (if env.NODE_ENV ≠ some "test" then some env else none)) := by
  unfold Process.ensureObservabilityReporterStarted
  cases first with
  | some first =>
      rw [if_pos (by simp [h.started]), Option.some_or]
      exact h
  | none =>
      have hstarted : p.reportTimerStarted = false := h.started
      have htimers : p.timers = [] := h.timers
      by_cases htest : env.NODE_ENV = some "test"
      · rw [if_pos (by simp [htest]), if_neg (not_not_intro htest), Option.or_none]
        exact h
      · rw [if_neg (by simp [hstarted, htest]), if_pos htest, Option.none_or]
        exact ⟨rfl, by rw [htimers]; rfl⟩

variable (toUpperCase) in
/-- Nothing but `ensureObservabilityReporterStarted` touches the timer. -/
theorem timers_call (c : Callback) (now : ℚ) (freshId : String) (r : Rendering) (p : Process) :
    (c.call toUpperCase now freshId r p).2.reportTimerStarted = p.reportTimerStarted ∧
      (c.call toUpperCase now freshId r p).2.timers = p.timers := by
  have hlog : ∀ status headers (r : Rendering) (p : Process),
      (logHttpAccessOnce toUpperCase now freshId status headers r p).2.reportTimerStarted =
          p.reportTimerStarted ∧
        (logHttpAccessOnce toUpperCase now freshId status headers r p).2.timers = p.timers := by
    intro status headers r p
    unfold logHttpAccessOnce
    split_ifs <;> exact ⟨rfl, rfl⟩
  cases c with
  | onShellReady => exact hlog _ _ _ _
  | onShellError error => exact hlog _ _ _ _
  | onError error => exact ⟨rfl, rfl⟩

theorem Timed.step {p : Process} {trace : List Event} (h : Timed p (firstOutsideTests trace))
    (e : Event) :
    Timed (p.step toUpperCase localeCompare e) (firstOutsideTests (trace ++ [e])) := by
  rw [firstOutsideTests_append]
  have hsingle : ∀ env : Env, [env].find? (fun env => env.NODE_ENV ≠ some "test") =
      if env.NODE_ENV ≠ some "test" then some env else none := by
    intro env
    by_cases htest : env.NODE_ENV = some "test" <;> simp [htest]
  cases e with
  | handleRequest env request responseStatusCode responseHeaders now =>
      have hensure := h.ensure env
      rw [← hsingle] at hensure
      exact ⟨hensure.started, hensure.timers⟩
  | callback i c now freshId =>
      have hnone : firstOutsideTests [.callback i c now freshId] = none := rfl
      rw [hnone, Option.or_none]
      unfold Process.step
      dsimp only
      split
      · exact h
      · rename_i r _
        have hcall := timers_call toUpperCase c now freshId r p
        exact ⟨hcall.1.trans h.started, hcall.2.trans h.timers⟩
  | invokeUnary env =>
      have hensure := h.ensure env
      rw [← hsingle] at hensure
      exact hensure
  | observeGrpcCall params now freshId =>
      have hnone : firstOutsideTests [.observeGrpcCall params now freshId] = none := rfl
      rw [hnone, Option.or_none]
      exact ⟨h.started, h.timers⟩
  | timer now =>
      have hnone : firstOutsideTests [.timer now] = none := rfl
      rw [hnone, Option.or_none]
      unfold Process.step Process.emitMetricsSnapshot
      dsimp only
      split_ifs
      · exact h
      · exact h
      · exact ⟨h.started, h.timers⟩

/-- In every run there is one timer at most: it is set by the first request or call outside of
tests, with the delay that is configured then. -/
theorem one_timer (toUpperCase : String → String) (localeCompare : String → String → ℤ)
    (trace : List Event) :
    (Process.initial.run toUpperCase localeCompare trace).timers =
      ((firstOutsideTests trace).map fun env => delayOfSeconds
        (reportSeconds env.CLIENT_OBSERVABILITY_REPORT_INTERVAL_SECONDS)).toList := by
  have htimed : Timed (Process.initial.run toUpperCase localeCompare trace)
      (firstOutsideTests trace) := by
    induction trace using List.reverseRecOn with
    | nil => exact ⟨rfl, rfl⟩
    | append_singleton trace e ih =>
        unfold Process.run at ih ⊢
        rw [List.foldl_append]
        exact ih.step e
  rw [htimed.timers]
  congr 1
  exact Option.map_congr fun env _ => delay_eq env

end EntryServer

end Client

end HistoryQuiz
