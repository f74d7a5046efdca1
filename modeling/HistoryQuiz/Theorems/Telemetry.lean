import HistoryQuiz.Base.Trim
import HistoryQuiz.Logic.Telemetry

/-!
# The telemetry of the backend

For every interleaving of any number of requests, of the reporter and of the operators:

* `observer_transparent`: the observer changes nothing. The observed server and the server without
  it reach the same databases, requests in flight and answers;
* `access_lines_exact`: the access lines are one for each request that was answered, refused
  requests included, and at most one for each request in flight;
* `collector_exact`: the counts of the collector are those of the same requests;
* `reports_grow`: the reports of the reporter never take a count back.
-/

namespace HistoryQuiz

open Effect

namespace Observability

variable {io : UuidReaders}

/-! ## Transparency -/

theorem observes_observedServe (r : Incoming) :
    (observedServe io r.md r.req).Observes (serve io r.md r.req) := by
  rw [observedServe_eq]
  unfold unaryObserverInterceptor
  refine .observe ObserverOp.now ?_
  intro startedAt
  refine (Prog.observes_lift _).attempt_bind ?_
  intro x
  refine .observe ObserverOp.now ?_
  intro endedAt
  refine .observe (ObserverOp.recordRPC _ _ _) ?_
  intro _
  refine .observe ObserverOp.now ?_
  intro time
  refine .observe (ObserverOp.printf _) ?_
  intro _
  exact Prog.observes_ofExcept x

instance : Inhabited OpTick := ⟨calm 0 0 0⟩

instance : Inhabited Time := ⟨⟨0, 0⟩⟩

/-- The observed server and the server without the observer reach the same databases, requests in
flight and answers. -/
theorem observer_transparent (io : UuidReaders) (db : Db) :
    (∀ c, ObservedSteps io (Served.start (db, Telemetry.initial)) c →
      ∃ d, PlainSteps io (Served.start db) d ∧ Served.Observed c d) ∧
    ∀ d, PlainSteps io (Served.start db) d →
      ∃ c, ObservedSteps io (Served.start (db, Telemetry.initial)) c ∧ Served.Observed c d := by
  have hstart : Served.Observed (Served.start (db, Telemetry.initial) : ObservedServer)
      (Served.start db) := Served.observed_start db Telemetry.initial
  constructor
  · intro c hc
    refine hstart.steps observes_observedServe ?_ hc
    intro x y hstep
    cases hstep with
    | take db s scan now hnone => exact .inl rfl
    | emit db s taken hsome => exact .inl rfl
    | setDeletedAt db s now p deletedAt => exact .inr (.setDeletedAt db now p deletedAt)
  · intro d hd
    refine hstart.lift_steps observes_observedServe ?_ hd
    intro s s' w hstep
    cases hstep with
    | setDeletedAt now p deletedAt => exact .setDeletedAt s w now p deletedAt

/-! ## Access lines -/

theorem string_eq_ok {code : GrpcCode} : code.string = "OK" ↔ code = .ok := by
  cases code <;> simp [GrpcCode.string]

/-- The status of a request is `OK` when it did not fail. -/
theorem key_status {x : Except Status Response} (hx : Coded x) (r : Incoming) :
    (r.key x).status = "OK" ↔ x.isOk = true := by
  rw [Incoming.key, string_eq_ok]
  cases x with
  | error status => simpa [statusCode, Except.isOk, Except.toBool] using hx status rfl
  | ok response => simp [statusCode, Except.isOk, Except.toBool]

/-- At any time of any run, the access lines are one for each request that was answered and one for
some of the requests in flight, with the method, the ids and the status of the request; and the
status is `OK` for those that did not fail and for no other. -/
theorem access_lines_exact {db : Db} {c : ObservedServer}
    (hc : ObservedSteps io (Served.start (db, Telemetry.initial)) c) :
    (∃ printed : List (Option (Except Status Response)), printed.length = c.threads.length ∧
      (c.state.2.lines.filterMap LogLine.access?).Perm
        ((c.answers ++ known c.threads printed).map fun a => a.1.key a.2)) ∧
    ∀ a ∈ c.answers, (a.1.key a.2).status = "OK" ↔ a.2.isOk = true := by
  obtain ⟨records, recorded, printed, haccount⟩ := exists_account hc
  refine ⟨⟨printed, haccount.printed_length, haccount.lines⟩, ?_⟩
  intro a ha
  exact key_status (haccount.coded a (List.mem_append_left _ ha)) a.1

/-- An anonymous request for the questions of its caller. -/
def anonymousList : Incoming := ⟨fun _ => [], .listMyQuestions none none⟩

/-- The server after that request and no other. -/
def afterRefusal : ObservedServer :=
  let outcome := (observedServe documentedReaders anonymousList.md anonymousList.req).run
    ((DbOp.exec documentedReaders).both ObserverOp.exec) (fun _ => default)
    (seeded 0, Telemetry.initial)
  ⟨outcome.2, [], [(anonymousList, outcome.1)]⟩

theorem afterRefusal_reached : ObservedSteps documentedReaders
    (Served.start (seeded 0, Telemetry.initial)) afterRefusal :=
  Served.arrive_alone anonymousList _ _

/-- The refused request has its line. -/
theorem access_lines_exact_refused :
    (∃ printed : List (Option (Except Status Response)),
      printed.length = afterRefusal.threads.length ∧
      (afterRefusal.state.2.lines.filterMap LogLine.access?).Perm
        ((afterRefusal.answers ++ known afterRefusal.threads printed).map fun a =>
          a.1.key a.2)) ∧
    ∀ a ∈ afterRefusal.answers, (a.1.key a.2).status = "OK" ↔ a.2.isOk = true :=
  access_lines_exact afterRefusal_reached

/-! ## Counts -/

/-- No character that is seen is a space. -/
theorem isSpace_of_graphic {c : Char} (h : 0x21 ≤ c.toNat ∧ c.toNat ≤ 0x7e) :
    isSpace c = false := by
  have hne : ∀ d : Char, d.toNat < 0x21 ∨ 0x7e < d.toNat → c ≠ d := by
    rintro d hd rfl
    omega
  have hlt : c.toNat < '\u2000'.toNat := by
    simp only [Char.reduceToNat]
    omega
  have hle : ¬ '\u2000' ≤ c := Nat.not_le_of_lt hlt
  simp [isSpace, hle, hne]

theorem normalizeMethodName_fullMethod (req : Request) :
    normalizeMethodName req.fullMethod = req.fullMethod := by
  have hgraphic : (req.fullMethod.toList.all fun c => 0x21 ≤ c.toNat && c.toNat ≤ 0x7e) = true := by
    cases req <;> (simp only [Request.fullMethod]; decide +kernel)
  have htrim : Trim.trim isSpace req.fullMethod.toList = req.fullMethod.toList :=
    Trim.trim_eq_self fun c hc => isSpace_of_graphic (by
      simpa using List.all_eq_true.mp hgraphic c hc)
  have htrim : trimSpace req.fullMethod = req.fullMethod :=
    (congrArg String.ofList htrim).trans String.ofList_toList
  unfold normalizeMethodName
  rw [htrim]
  exact if_neg (fullMethod_ne req)

theorem isErrorCode_code {code : GrpcCode} : isErrorCode code.code = true ↔ code ≠ .ok := by
  cases code <;> decide

section Counts

variable {c : ObservedServer} {records : List RpcRecord}
  {recorded printed : List (Option (Except Status Response))}

/-- Counting records is counting requests. -/
theorem Account.countP (h : Account c records recorded printed) (p : String × UInt32 → Bool) :
    records.countP (fun r => p (r.method, r.code)) =
      (c.answers ++ known c.threads recorded).countP fun a =>
        p (a.1.req.fullMethod, (statusCode a.2).code) := by
  have hcount := h.calls.countP_eq p
  rwa [List.countP_map, List.countP_map] at hcount

theorem Account.requests (h : Account c records recorded printed) (name : String) :
    (Series.under RpcRecord.name name records).length =
      (c.answers ++ known c.threads recorded).countP fun a => a.1.req.fullMethod = name := by
  have hcount := h.countP fun e => normalizeMethodName e.1 = name
  simp only [normalizeMethodName_fullMethod] at hcount
  rw [← hcount, List.countP_eq_length_filter]
  rfl

theorem Account.errors (h : Account c records recorded printed) (name : String) :
    (Series.under RpcRecord.name name records).countP (fun r => isErrorCode r.code) =
      (c.answers ++ known c.threads recorded).countP fun a =>
        a.1.req.fullMethod = name ∧ a.2.isOk = false := by
  have hcount := h.countP fun e => isErrorCode e.2 && decide (normalizeMethodName e.1 = name)
  simp only [normalizeMethodName_fullMethod] at hcount
  unfold Series.under
  rw [List.countP_filter]
  refine hcount.trans (List.countP_congr ?_)
  intro a ha
  have hstatus := key_status (h.coded a ha) a.1
  rw [Incoming.key, string_eq_ok] at hstatus
  rw [Bool.and_eq_true, isErrorCode_code, decide_eq_true_eq, decide_eq_true_eq, Ne, hstatus,
    Bool.not_eq_true, and_comm]

theorem Account.mem_names (h : Account c records recorded printed) {name : String} :
    name ∈ records.map RpcRecord.name ↔
      ∃ a ∈ c.answers ++ known c.threads recorded, a.1.req.fullMethod = name := by
  have hnames := (h.calls.map fun e => normalizeMethodName e.1).mem_iff (a := name)
  rw [List.map_map, List.map_map] at hnames
  refine hnames.trans ?_
  rw [List.mem_map]
  refine exists_congr fun a => and_congr_right fun _ => ?_
  exact Eq.congr_left (normalizeMethodName_fullMethod a.1.req)

end Counts

/-- At any time of any run, a snapshot of the collector counts the requests that were answered and
some of those in flight, under their methods, and as errors those that failed. -/
theorem collector_exact {db : Db} {c : ObservedServer}
    (hc : ObservedSteps io (Served.start (db, Telemetry.initial)) c) :
    ∃ recorded : List (Option (Except Status Response)), recorded.length = c.threads.length ∧
      ∀ scan now,
        ((snapshot scan now c.state.2.collector).methods.map
          MethodMetricsSnapshot.method).Pairwise (· < ·) ∧
        (∀ name, name ∈ (snapshot scan now c.state.2.collector).methods.map
            MethodMetricsSnapshot.method ↔
          ∃ a ∈ c.answers ++ known c.threads recorded, a.1.req.fullMethod = name) ∧
        ∀ m ∈ (snapshot scan now c.state.2.collector).methods,
          m.requestCount.toNat = ((c.answers ++ known c.threads recorded).countP fun a =>
            a.1.req.fullMethod = m.method) % 2 ^ 64 ∧
          m.errorCount.toNat = ((c.answers ++ known c.threads recorded).countP fun a =>
            a.1.req.fullMethod = m.method ∧ a.2.isOk = false) % 2 ^ 64 := by
  obtain ⟨records, recorded, printed, haccount⟩ := exists_account hc
  refine ⟨recorded, haccount.recorded_length, ?_⟩
  intro scan now
  have hmetrics : (snapshot scan now c.state.2.collector).methods =
      metrics 512 scan now records := by
    rw [haccount.collector]
    rfl
  rw [hmetrics]
  refine ⟨metrics_pairwise (by decide), ?_, ?_⟩
  · intro name
    rw [← haccount.mem_names, List.mem_map]
    constructor
    · rintro ⟨m, hm, rfl⟩
      exact ((mem_metrics (by decide)).mp hm).1
    · intro hname
      exact ⟨_, snapshot_mem_metrics (by decide) hname, rfl⟩
  · intro m hm
    have hcounts := counts_after 512 (Series.under RpcRecord.name m.method records) m.method
    rw [← ((mem_metrics (by decide)).mp hm).2] at hcounts
    refine ⟨hcounts.requests.trans ?_, hcounts.errors.trans ?_⟩
    · rw [haccount.requests]
    · rw [haccount.errors]

/-- The refused request is counted, as an error. -/
theorem collector_exact_refused :
    ∃ m ∈ (snapshot id 0 afterRefusal.state.2.collector).methods,
      m.method = anonymousList.req.fullMethod ∧ m.requestCount.toNat = 1 ∧
        m.errorCount.toNat = 1 := by
  obtain ⟨recorded, hlength, hexact⟩ := collector_exact afterRefusal_reached
  obtain rfl := List.length_eq_zero_iff.mp hlength
  obtain ⟨-, hnames, hcounts⟩ := hexact id 0
  obtain ⟨m, hm, hmethod⟩ := List.mem_map.mp ((hnames anonymousList.req.fullMethod).mpr
    ⟨_, List.mem_append_left _ (List.mem_singleton_self _), rfl⟩)
  obtain ⟨hrequests, herrors⟩ := hcounts m hm
  have hrefused : afterRefusal.answers =
      [(anonymousList, .error ⟨.unauthenticated, "認証が必要です"⟩)] := rfl
  refine ⟨m, hm, hmethod, hrequests.trans ?_, herrors.trans ?_⟩
  · rw [hrefused, hmethod]
    simp [known, afterRefusal]
  · rw [hrefused, hmethod]
    simp [known, afterRefusal, Except.isOk, Except.toBool]

/-! ## Reports -/

theorem countP_known_le (p : Incoming → Bool)
    (threads : List (Thread (Plus DbOp ObserverOp) Incoming Status Response))
    (outcomes : List (Option (Except Status Response))) :
    (known threads outcomes).countP (fun a => p a.1) ≤ threads.countP fun x => p x.request := by
  induction threads generalizing outcomes with
  | nil => simp [known]
  | cons x threads ih =>
      obtain _ | ⟨outcome, outcomes⟩ := outcomes
      · simp [known]
      · have htail := ih outcomes
        cases outcome with
        | none =>
            refine htail.trans ?_
            rw [List.countP_cons]
            exact Nat.le_add_right _ _
        | some outcome =>
            have hcons : known (x :: threads) (some outcome :: outcomes) =
                (x.request, outcome) :: known threads outcomes := rfl
            rw [hcons, List.countP_cons, List.countP_cons]
            exact Nat.add_le_add_right htail _

/-- While they are few, the counts of a method grow with the records. -/
theorem counts_mono {records records' : List RpcRecord} (hearlier : records <+: records')
    (hfew : records'.length < 2 ^ 64) {scan scan' : ℕ → ℕ} {now now' : ℤ}
    {m : MethodMetricsSnapshot} (hm : m ∈ metrics 512 scan now records) :
    ∃ m' ∈ metrics 512 scan' now' records', m'.method = m.method ∧
      m.requestCount ≤ m'.requestCount ∧ m.errorCount ≤ m'.errorCount := by
  obtain ⟨hname, hm⟩ := (mem_metrics (by decide)).mp hm
  have hname' : m.method ∈ records'.map RpcRecord.name := (hearlier.map _).subset hname
  refine ⟨_, snapshot_mem_metrics (by decide) hname', rfl, ?_⟩
  have hunder : (Series.under RpcRecord.name m.method records).Sublist
      (Series.under RpcRecord.name m.method records') := hearlier.sublist.filter _
  have hfew' : (Series.under RpcRecord.name m.method records').length < 2 ^ 64 :=
    Nat.lt_of_le_of_lt (List.length_filter_le _ _) hfew
  have hbefore := counts_after 512 (Series.under RpcRecord.name m.method records) m.method
  have hafter := counts_after 512 (Series.under RpcRecord.name m.method records') m.method
  rw [← hm] at hbefore
  have hrequests := hunder.length_le
  have herrors := hunder.countP_le (p := fun r => isErrorCode r.code)
  have hbound : ((Series.under RpcRecord.name m.method records').countP
      fun r => isErrorCode r.code) ≤ _ := List.countP_le_length
  constructor
  · rw [UInt64.le_iff_toNat_le, hbefore.requests, hafter.requests, Nat.mod_eq_of_lt hfew',
      Nat.mod_eq_of_lt (by omega)]
    exact hrequests
  · rw [UInt64.le_iff_toNat_le, hbefore.errors, hafter.errors, Nat.mod_eq_of_lt (by omega),
      Nat.mod_eq_of_lt (by omega)]
    exact herrors

/-- The reports of a state. -/
def ObservedServer.reports (c : ObservedServer) : List SnapshotPayload :=
  c.state.2.lines.filterMap LogLine.report?

theorem mem_report {t : Take} {report : SnapshotPayload}
    (h : report ∈ (emitSnapshot t.snapshot).filterMap LogLine.report?) :
    report.metrics = metrics 512 t.scan t.now t.records ∧ report.metrics ≠ [] := by
  unfold emitSnapshot at h
  split_ifs at h with hempty
  · exact absurd h List.not_mem_nil
  · have hreport : report = ⟨t.snapshot.collectedAt, t.snapshot.methods, "grpc_metrics_snapshot"⟩ :=
      List.mem_singleton.mp h
    rw [hreport]
    exact ⟨rfl, fun hnil => hempty (List.length_eq_zero_iff.mpr hnil)⟩

/-- While there are fewer than `2 ^ 64` requests: no report is empty, a report counts no more
requests of a method than there were, and a later report has every method of an earlier one with
counts that are no smaller. -/
theorem reports_grow {db : Db} {c : ObservedServer}
    (hc : ObservedSteps io (Served.start (db, Telemetry.initial)) c)
    (hfew : c.answers.length + c.threads.length < 2 ^ 64) :
    (∀ report ∈ ObservedServer.reports c, report.metrics ≠ [] ∧ ∀ m ∈ report.metrics,
      m.requestCount.toNat ≤
        (c.answers.countP fun a => a.1.req.fullMethod = m.method) +
          c.threads.countP fun x => x.request.req.fullMethod = m.method) ∧
    (ObservedServer.reports c).Pairwise fun earlier later => ∀ m ∈ earlier.metrics,
      ∃ m' ∈ later.metrics, m'.method = m.method ∧ m.requestCount ≤ m'.requestCount ∧
        m.errorCount ≤ m'.errorCount := by
  obtain ⟨records, recorded, printed, haccount⟩ := exists_account hc
  obtain ⟨takes, pending, hreports⟩ := haccount.reports
  have hlines : ObservedServer.reports c =
      takes.flatMap fun t => (emitSnapshot t.snapshot).filterMap LogLine.report? := hreports.lines
  have hcalls : records.length < 2 ^ 64 := by
    have hlength := haccount.countP fun _ => true
    have hknown := countP_known_le (fun _ => true) c.threads recorded
    simp only [List.countP_true, List.length_append] at hlength hknown
    omega
  obtain ⟨hgrowing, -, hlast⟩ := List.pairwise_append.mp hreports.growing
  have hearlier : ∀ t ∈ takes, t.records <+: records := by
    intro t ht
    exact hlast t.records (List.mem_map_of_mem (List.mem_append_left _ ht)) records
      (List.mem_singleton_self _)
  rw [hlines]
  constructor
  · intro report hreport
    obtain ⟨t, ht, hreport⟩ := List.mem_flatMap.mp hreport
    obtain ⟨hmetrics, hne⟩ := mem_report hreport
    refine ⟨hne, ?_⟩
    intro m hm
    rw [hmetrics] at hm
    obtain ⟨m', hm', hmethod, hle, -⟩ :
        ∃ m' ∈ metrics 512 id 0 records, m'.method = m.method ∧
          m.requestCount ≤ m'.requestCount ∧ m.errorCount ≤ m'.errorCount :=
      counts_mono (hearlier t ht) hcalls hm
    have hcounts := counts_after 512 (Series.under RpcRecord.name m'.method records) m'.method
    rw [← ((mem_metrics (by decide)).mp hm').2] at hcounts
    have hknown := countP_known_le (fun r => r.req.fullMethod = m.method) c.threads recorded
    have hrequests := haccount.requests m.method
    rw [List.countP_append] at hrequests
    have hmod := hcounts.requests
    rw [hmethod] at hmod
    have hmodle := Nat.mod_le (Series.under RpcRecord.name m.method records).length (2 ^ 64)
    rw [UInt64.le_iff_toNat_le] at hle
    omega
  · rw [List.pairwise_flatMap]
    refine ⟨?_, ?_⟩
    · intro t _
      unfold emitSnapshot
      split_ifs
      · exact List.Pairwise.nil
      · exact List.pairwise_singleton _ _
    · rw [List.map_append, List.pairwise_append] at hgrowing
      refine (List.pairwise_map.mp hgrowing.1).imp_of_mem ?_
      intro t t' _ ht' hle report hreport report' hreport' m hm
      rw [(mem_report hreport).1] at hm
      rw [(mem_report hreport').1]
      have hshort := (hearlier t' ht').length_le
      exact counts_mono hle (by omega) hm

/-- The server after a report on the refused request. -/
def afterReport : ObservedServer :=
  let telemetry := afterRefusal.state.2
  { afterRefusal with
    state := (afterRefusal.state.1, { telemetry with
      lines := telemetry.lines ++ emitSnapshot (snapshot id 0 telemetry.collector)
      taken := none }) }

theorem afterReport_reached : ObservedSteps documentedReaders
    (Served.start (seeded 0, Telemetry.initial)) afterReport := by
  have htake := Background.take afterRefusal.state.1 afterRefusal.state.2 id 0 rfl
  exact (afterRefusal_reached.tail (.other htake)).tail (.other (.emit _ _ _ rfl))

/-- There is one report, and it counts one request at most. -/
theorem reports_grow_refused : (ObservedServer.reports afterReport).length = 1 ∧
    ∀ report ∈ ObservedServer.reports afterReport, ∀ m ∈ report.metrics,
      m.requestCount.toNat ≤ 1 := by
  refine ⟨by decide +kernel, ?_⟩
  intro report hreport m hm
  have hgrow := reports_grow afterReport_reached (by decide)
  refine ((hgrow.1 report hreport).2 m hm).trans ?_
  exact List.countP_le_length

end Observability

end HistoryQuiz
