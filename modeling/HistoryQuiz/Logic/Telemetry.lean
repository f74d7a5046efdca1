import HistoryQuiz.Backend.Observer
import HistoryQuiz.Logic.Requests
import HistoryQuiz.Theorems.Metrics

/-!
# What the observed server writes

Whatever its outcome, a request is recorded once and printed once, with the code of the outcome
and the ids of its metadata (`observedServe_emits`); a request that is refused is no exception,
since the observer stands before the interceptor that refuses. So the journal of a run, the
records of the collector and the access lines together, is that of the requests that were answered
and of some in flight (`accounted_telemetry`).
-/

namespace HistoryQuiz

open Effect

/-- The status of an error is not `OK`. -/
theorem toStatusError_ne_ok (err : GoError) : (toStatusError err).code ≠ .ok := by
  unfold toStatusError
  rcases err.asAppError with _ | ⟨_ | _ | _ | _ | _, _⟩ <;> simp

/-- An outcome that failed has a code of a failure. -/
def Coded (x : Except Status Response) : Prop := ∀ status, x = .error status → status.code ≠ .ok

theorem serve_outcomes (io : UuidReaders) (md : Metadata) (req : Request) :
    (serve io md req).Outcomes Coded := by
  rw [serve_eq]
  split_ifs
  · refine Prog.Outcomes.bind (Prog.outcomes_mapError ?_ ?_)
    · rintro reply status ⟨⟩
    · rintro err status ⟨⟩
      exact toStatusError_ne_ok err
  · rintro status ⟨⟩
    simp

namespace Observability

variable {io : UuidReaders}

/-! ## The observed server -/

section Interceptors

variable {Op : Type → Type 1} {α : Type}

theorem contextInterceptor_eq (md : Metadata) (info : Option String)
    (handler : Context → Prog Op Status α) :
    contextInterceptor false md Context.background info handler = handler (incoming md) := by
  unfold contextInterceptor incoming Context.background Context.withRequestID Context.withUserID
  by_cases hr : first (md metadataKeyRequestID) = "" <;>
    by_cases hu : first (md metadataKeyUserID) = "" <;> simp [hr, hu]

theorem requireAuthInterceptor_eq (md : Metadata) (fullMethod : String)
    (handler : Context → Prog Op Status α) :
    requireAuthInterceptor allowAnonymous (incoming md) (some fullMethod) handler =
      if fullMethod ∈ allowAnonymous ∨ first (md metadataKeyUserID) ≠ "" then handler (incoming md)
      else .fail ⟨.unauthenticated, "認証が必要です"⟩ := by
  unfold requireAuthInterceptor
  by_cases hm : fullMethod ∈ allowAnonymous
  · rw [Option.getD_some, if_pos hm, if_pos (.inl hm)]
  · rw [Option.getD_some, if_neg hm]
    by_cases hu : first (md metadataKeyUserID) = "" <;> simp [hm, hu, Context.userID, incoming]

end Interceptors

/-- The observer watches the whole server, refusals included. -/
theorem observedServe_eq (io : UuidReaders) (md : Metadata) (req : Request) :
    observedServe io md req =
      unaryObserverInterceptor (incoming md) (some req.fullMethod) fun _ =>
        (serve io md req).lift := by
  have hrefuse : requireAuthInterceptor allowAnonymous (incoming md) (some req.fullMethod)
      (fun ctx => (handle io ctx req).lift) =
      ((serve io md req).lift : ObservedProg Response) := by
    rw [requireAuthInterceptor_eq, serve_eq]
    split_ifs <;> rfl
  have hchain : observedServe io md req =
      contextInterceptor false md Context.background (some req.fullMethod) fun ctx =>
        unaryObserverInterceptor ctx (some req.fullMethod) fun ctx =>
          requireAuthInterceptor allowAnonymous ctx (some req.fullMethod) fun ctx =>
            (handle io ctx req).lift := rfl
  rw [hchain, contextInterceptor_eq]
  unfold unaryObserverInterceptor
  simp only [hrefuse]

theorem incoming_requestID (md : Metadata) :
    (incoming md).requestID.1 = first (md metadataKeyRequestID) := by
  unfold Context.requestID incoming
  by_cases h : first (md metadataKeyRequestID) = "" <;> simp [h]

theorem fullMethod_ne (req : Request) : req.fullMethod ≠ "" := by
  cases req <;> simp [Request.fullMethod]

/-! ## Events -/

/-- What an access line says of its request. -/
structure AccessKey where
  method : String
  requestId : String
  status : String
  userId : String
deriving DecidableEq

def AccessPayload.key (payload : AccessPayload) : AccessKey :=
  ⟨payload.method, payload.requestId, payload.status, payload.userId⟩

/-- An entry of the journal: a record in the collector or an access line. -/
inductive Event where
  | recorded (method : String) (code : GrpcCode)
  | printed (key : AccessKey)

def Event.recorded? : Event → Option (String × GrpcCode)
  | recorded method code => some (method, code)
  | printed _ => none

def Event.printed? : Event → Option AccessKey
  | recorded _ _ => none
  | printed key => some key

/-- The key of an access line. -/
def LogLine.access? : LogLine → Option AccessKey
  | access payload => some payload.key
  | snapshot _ => none

/-- The events of an operation. -/
def events : ⦃β : Type⦄ → Plus DbOp ObserverOp β → List Event
  | _, .inl _ => []
  | _, .inr .now => []
  | _, .inr (.recordRPC method code _) => [.recorded method code]
  | _, .inr (.printf payload) => [.printed payload.key]

/-- What an access line should say of a request with this outcome. -/
def Incoming.key (r : Incoming) (x : Except Status Response) : AccessKey where
  method := r.req.fullMethod
  requestId := first (r.md metadataKeyRequestID)
  status := (statusCode x).string
  userId := first (r.md metadataKeyUserID)

/-- The events of a request with this outcome. -/
def Incoming.events (r : Incoming) (x : Except Status Response) : List Event :=
  [.recorded r.req.fullMethod (statusCode x), .printed (r.key x)]

/-- The events of a request up to now, for an outcome that is known when there are any. -/
def Incoming.Begun (r : Incoming) (done : List Event) : Prop :=
  ∃ x, Coded x ∧ done <+: r.events x

theorem Incoming.begun_nil (r : Incoming) : r.Begun [] := by
  refine ⟨.error ⟨.unknown, ""⟩, ?_, List.nil_prefix⟩
  rintro status ⟨⟩
  simp

/-- A request is recorded once and printed once, and a request that failed has the code of its
failure. -/
theorem observedServe_emits (r : Incoming) :
    (observedServe io r.md r.req).Emits (Emitting events) r.Begun
      (fun x done => done = r.events x ∧ Coded x) [] := by
  rw [observedServe_eq]
  unfold unaryObserverInterceptor logAccess
  simp only [Prog.bind_eq, Prog.emits_observe_bind]
  refine ⟨r.begun_nil, ?_⟩
  intro startedAt
  refine Prog.Emits.bind (Prog.Emits.attempt (Prog.emits_lift (fun _ _ => rfl) r.begun_nil ?_))
  refine (serve_outcomes io r.md r.req).mono ?_
  intro x hx
  -- the outcome is known from here on
  have hrecorded : r.Begun [.recorded r.req.fullMethod (statusCode x)] :=
    ⟨x, hx, [.printed (r.key x)], rfl⟩
  have hmethod : (if r.req.fullMethod ≠ "" then r.req.fullMethod else "unknown") =
      r.req.fullMethod := if_pos (fullMethod_ne r.req)
  simp only [Prog.emits_observe_bind, hmethod]
  refine ⟨r.begun_nil, fun endedAt => ⟨r.begun_nil, fun _ => Prog.Emits.bind ?_⟩⟩
  rw [Prog.emits_observe_bind]
  refine ⟨hrecorded, fun time => Prog.emits_observe.mpr ⟨hrecorded, fun _ => ?_⟩⟩
  refine Prog.emits_ofExcept.mpr ⟨?_, hx⟩
  simp [HistoryQuiz.Observability.events, Incoming.events, Incoming.key, AccessPayload.key,
    incoming_requestID, incoming_userID]

/-! ## The journal -/

/-- The report in a line. -/
def LogLine.report? : LogLine → Option SnapshotPayload
  | access _ => none
  | snapshot payload => some payload

/-- A snapshot that the reporter took: the records before it, the order of the map and the time. -/
structure Take where
  records : List RpcRecord
  scan : ℕ → ℕ
  now : ℤ

def Take.snapshot (t : Take) : CollectorSnapshot :=
  Observability.snapshot t.scan t.now (recordAll 512 t.records)

/-- The reporter took the snapshots `printed`, then maybe one that it has not printed, each before
more records. -/
structure Reported (s : Telemetry) (records : List RpcRecord) (printed : List Take)
    (pending : Option Take) : Prop where
  taken : s.taken = pending.map Take.snapshot
  lines : s.lines.filterMap LogLine.report? =
    printed.flatMap fun t => (emitSnapshot t.snapshot).filterMap LogLine.report?
  growing : ((printed ++ pending.toList).map Take.records ++ [records]).Pairwise (· <+: ·)

/-- The collector, the access lines and the reports hold a journal. -/
structure Journaled (s : Telemetry) (journal : List Event) : Prop where
  records : ∃ records : List RpcRecord, s.collector = recordAll 512 records ∧
    records.map (fun r => (r.method, r.code)) =
      (journal.filterMap Event.recorded?).map (fun e => (e.1, e.2.code)) ∧
    ∃ printed pending, Reported s records printed pending
  lines : s.lines.filterMap LogLine.access? = journal.filterMap Event.printed?

theorem journaled_initial : Journaled Telemetry.initial [] :=
  ⟨⟨[], rfl, rfl, [], none, rfl, rfl, List.pairwise_singleton _ _⟩, rfl⟩

/-- A record after the snapshots. -/
theorem Reported.record {s : Telemetry} {records : List RpcRecord} {printed : List Take}
    {pending : Option Take} (h : Reported s records printed pending) (collector : Option Collector)
    (r : RpcRecord) :
    Reported { s with collector := collector } (records ++ [r]) printed pending := by
  refine ⟨h.taken, h.lines, ?_⟩
  obtain ⟨htakes, -, hlast⟩ := List.pairwise_append.mp h.growing
  refine List.pairwise_append.mpr ⟨htakes, List.pairwise_singleton _ _, ?_⟩
  intro taken htaken last hmem
  rw [List.mem_singleton.mp hmem]
  exact (hlast taken htaken records (List.mem_singleton_self _)).trans (List.prefix_append _ _)

/-- An access line after the snapshots. -/
theorem Reported.access {s : Telemetry} {records : List RpcRecord} {printed : List Take}
    {pending : Option Take} (h : Reported s records printed pending) (payload : AccessPayload) :
    Reported { s with lines := s.lines ++ [.access payload] } records printed pending := by
  refine ⟨h.taken, ?_, h.growing⟩
  rw [List.filterMap_append]
  simpa [LogLine.report?, List.filterMap_cons] using h.lines

theorem Reported.background {s s' : Db × Telemetry} (hstep : Background s s')
    {records : List RpcRecord} (hcollector : s.2.collector = recordAll 512 records)
    {printed : List Take} {pending : Option Take} (h : Reported s.2 records printed pending) :
    ∃ printed' pending', Reported s'.2 records printed' pending' := by
  cases hstep with
  | take db s scan now hnone =>
      have hpending : pending = none := by
        have htaken := h.taken
        rw [hnone] at htaken
        exact Option.map_eq_none_iff.mp htaken.symm
      subst hpending
      refine ⟨printed, some ⟨records, scan, now⟩, ?_, h.lines, ?_⟩
      · rw [Option.map_some, Take.snapshot, ← hcollector]
      · have hgrowing := h.growing
        rw [Option.toList_none, List.append_nil] at hgrowing
        rw [Option.toList_some, List.map_append]
        refine List.pairwise_append.mpr ⟨hgrowing, List.pairwise_singleton _ _, ?_⟩
        intro taken htaken last hlast
        rw [List.mem_singleton.mp hlast]
        rcases List.mem_append.mp htaken with htaken | htaken
        · exact (List.pairwise_append.mp hgrowing).2.2 taken htaken records
            (List.mem_singleton_self _)
        · rw [List.mem_singleton.mp htaken]
  | emit db s taken hsome =>
      have htaken := h.taken
      rw [hsome] at htaken
      obtain ⟨last, rfl, hlast⟩ := Option.map_eq_some_iff.mp htaken.symm
      refine ⟨printed ++ [last], none, rfl, ?_, ?_⟩
      · rw [List.filterMap_append, h.lines, List.flatMap_append, ← hlast]
        simp
      · rw [Option.toList_none, List.append_nil]
        exact h.growing
  | setDeletedAt db s now p deletedAt => exact ⟨printed, pending, h⟩

theorem recordAll_append (records : List RpcRecord) (r : RpcRecord) :
    recordAll 512 (records ++ [r]) = r.apply (recordAll 512 records) := by
  unfold recordAll
  rw [List.foldl_append]
  rfl

theorem Journaled.exec ⦃β : Type⦄ (op : Plus DbOp ObserverOp β) (t : OpTick × Time)
    (s : Db × Telemetry) (journal : List Event) (h : Journaled s.2 journal) :
    Journaled (((DbOp.exec io).both ObserverOp.exec) op t s).2.2 (journal ++ events op) := by
  obtain ⟨⟨records, hcollector, hrecords, printed, pending, hreports⟩, hlines⟩ := h
  cases op with
  | inl op =>
      rw [events, List.append_nil]
      exact ⟨⟨records, hcollector, hrecords, printed, pending, hreports⟩, hlines⟩
  | inr o =>
      cases o with
      | now =>
          rw [events, List.append_nil]
          exact ⟨⟨records, hcollector, hrecords, printed, pending, hreports⟩, hlines⟩
      | recordRPC method code latency =>
          refine ⟨⟨records ++ [⟨method, code.code, latency⟩], ?_, ?_, printed, pending,
            hreports.record _ _⟩, ?_⟩
          · rw [recordAll_append, ← hcollector]
            rfl
          · simp [events, Event.recorded?, hrecords]
          · simpa [events, Event.printed?, ObserverOp.exec, List.filterMap_cons] using hlines
      | printf payload =>
          refine ⟨⟨records, hcollector, ?_, printed, pending, hreports.access payload⟩, ?_⟩
          · simpa [events, Event.recorded?, List.filterMap_cons] using hrecords
          · simp [events, ObserverOp.exec, Event.printed?, LogLine.access?, hlines]

theorem access?_emitSnapshot (taken : CollectorSnapshot) :
    (emitSnapshot taken).filterMap LogLine.access? = [] := by
  unfold emitSnapshot
  split_ifs <;> rfl

theorem Journaled.background {s s' : Db × Telemetry} (hstep : Background s s')
    {journal : List Event} (h : Journaled s.2 journal) : Journaled s'.2 journal := by
  obtain ⟨⟨records, hcollector, hrecords, printed, pending, hreports⟩, hlines⟩ := h
  have hreports' := hreports.background hstep hcollector
  cases hstep with
  | take db s scan now hnone => exact ⟨⟨records, hcollector, hrecords, hreports'⟩, hlines⟩
  | emit db s taken hsome =>
      refine ⟨⟨records, hcollector, hrecords, hreports'⟩, ?_⟩
      rw [List.filterMap_append, access?_emitSnapshot, List.append_nil]
      exact hlines
  | setDeletedAt db s now p deletedAt =>
      exact ⟨⟨records, hcollector, hrecords, hreports'⟩, hlines⟩

/-- What the accounting rule is about here. -/
def telemetry : Served.Accounts (Plus DbOp ObserverOp) Incoming (Db × Telemetry) Status Response
    Event where
  Journal s journal := Journaled s.2 journal
  emit := Emitting events
  Partial r done := r.Begun done
  Total r x done := done = r.events x ∧ Coded x

theorem accounted_telemetry {db : Db} {c : ObservedServer}
    (hc : ObservedSteps io (Served.start (db, Telemetry.initial)) c) :
    ∃ journal, Served.Accounted telemetry c journal := by
  have hstart : Served.Accounted telemetry (Served.start (db, Telemetry.initial)) [] :=
    Served.accounted_start journaled_initial
  have hexec : ∀ ⦃β : Type⦄ (op : Plus DbOp ObserverOp β) t (s : Db × Telemetry) journal more,
      telemetry.Journal s journal →
      telemetry.emit op (((DbOp.exec io).both ObserverOp.exec) op t s).1 more →
      telemetry.Journal (((DbOp.exec io).both ObserverOp.exec) op t s).2 (journal ++ more) := by
    rintro _ op t s journal _ hjournal rfl
    exact Journaled.exec op t s journal hjournal
  have hbackground : ∀ s s' journal, Background s s' → telemetry.Journal s journal →
      telemetry.Journal s' journal := fun _ _ _ hstep hjournal => hjournal.background hstep
  exact hstart.steps hexec hbackground (fun r => observedServe_emits r) hc

/-! ## Requests whose outcome is known -/

/-- The requests in flight whose outcome is known, by their outcomes. -/
def known (threads : List (Thread (Plus DbOp ObserverOp) Incoming Status Response))
    (outcomes : List (Option (Except Status Response))) :
    List (Incoming × Except Status Response) :=
  (threads.zip outcomes).filterMap fun (x, outcome) => outcome.map fun outcome =>
    (x.request, outcome)

/-- When a request has at most one event of a kind, those of the requests in flight are made by
some outcomes. -/
theorem exists_known {γ : Type} (kind : Event → Option γ)
    (make : Incoming × Except Status Response → γ)
    (hkind : ∀ (r : Incoming) x done, done <+: r.events x →
      done.filterMap kind = [] ∨ done.filterMap kind = [make (r, x)])
    {threads : List (Thread (Plus DbOp ObserverOp) Incoming Status Response)}
    {dones : List (List Event)}
    (h : List.Forall₂ (fun t done => t.request.Begun done) threads dones) :
    ∃ outcomes, outcomes.length = threads.length ∧
      dones.flatten.filterMap kind = (known threads outcomes).map make ∧
      ∀ a ∈ known threads outcomes, Coded a.2 := by
  induction h with
  | nil => exact ⟨[], rfl, rfl, by simp [known]⟩
  | @cons t done threads dones hbegun _ ih =>
      obtain ⟨x, hx, hdone⟩ := hbegun
      obtain ⟨outcomes, hlength, hmake, hcoded⟩ := ih
      rcases hkind _ x done hdone with hnone | hone
      · refine ⟨none :: outcomes, by simp [hlength], ?_, ?_⟩
        · simpa [known, hnone] using hmake
        · simpa [known] using hcoded
      · refine ⟨some x :: outcomes, by simp [hlength], ?_, ?_⟩
        · simpa [known, hone] using hmake
        · simpa [known] using ⟨hx, by simpa [known] using hcoded⟩

/-! ## The account -/

theorem filterMap_recorded? {r : Incoming} {x : Except Status Response} {done : List Event}
    (h : done <+: r.events x) : done.filterMap Event.recorded? = [] ∨
      done.filterMap Event.recorded? = [(r.req.fullMethod, statusCode x)] := by
  rcases List.prefix_cons_iff.mp h with rfl | ⟨rest, rfl, hrest⟩
  · exact .inl rfl
  · rcases List.prefix_cons_iff.mp hrest with rfl | ⟨rest', rfl, hrest'⟩
    · exact .inr rfl
    · rw [List.prefix_nil.mp hrest']
      exact .inr rfl

theorem filterMap_printed? {r : Incoming} {x : Except Status Response} {done : List Event}
    (h : done <+: r.events x) : done.filterMap Event.printed? = [] ∨
      done.filterMap Event.printed? = [r.key x] := by
  rcases List.prefix_cons_iff.mp h with rfl | ⟨rest, rfl, hrest⟩
  · exact .inl rfl
  · rcases List.prefix_cons_iff.mp hrest with rfl | ⟨rest', rfl, hrest'⟩
    · exact .inl rfl
    · rw [List.prefix_nil.mp hrest']
      exact .inr rfl

/-- The records and the access lines of a state that is reached. -/
structure Account (c : ObservedServer) (records : List RpcRecord)
    (recorded printed : List (Option (Except Status Response))) : Prop where
  recorded_length : recorded.length = c.threads.length
  printed_length : printed.length = c.threads.length
  collector : c.state.2.collector = recordAll 512 records
  calls : (records.map fun r => (r.method, r.code)).Perm
    ((c.answers ++ known c.threads recorded).map fun a =>
      (a.1.req.fullMethod, (statusCode a.2).code))
  lines : (c.state.2.lines.filterMap LogLine.access?).Perm
    ((c.answers ++ known c.threads printed).map fun a => a.1.key a.2)
  coded : ∀ a ∈ c.answers ++ known c.threads recorded, Coded a.2
  reports : ∃ takes pending, Reported c.state.2 records takes pending

/-- The events of the answers. -/
theorem flatten_totals {answers : List (Incoming × Except Status Response)}
    {totals : List (List Event)}
    (h : List.Forall₂ (fun a total => total = a.1.events a.2 ∧ Coded a.2) answers totals) :
    totals = answers.map (fun a => a.1.events a.2) ∧ ∀ a ∈ answers, Coded a.2 := by
  induction h with
  | nil => simp
  | cons hcons _ ih =>
      exact ⟨by rw [hcons.1, ih.1, List.map_cons], List.forall_mem_cons.mpr ⟨hcons.2, ih.2⟩⟩

theorem filterMap_flatten_answers {γ : Type} {kind : Event → Option γ}
    (make : Incoming × Except Status Response → γ)
    (hkind : ∀ a : Incoming × Except Status Response,
      (a.1.events a.2).filterMap kind = [make a])
    (answers : List (Incoming × Except Status Response)) :
    (answers.map fun a => a.1.events a.2).flatten.filterMap kind = answers.map make := by
  induction answers with
  | nil => rfl
  | cons a answers ih =>
      rw [List.map_cons, List.flatten_cons, List.filterMap_append, hkind, ih, List.map_cons]
      rfl

/-- Every state that is reached has an account. -/
theorem exists_account {db : Db} {c : ObservedServer}
    (hc : ObservedSteps io (Served.start (db, Telemetry.initial)) c) :
    ∃ records recorded printed, Account c records recorded printed := by
  obtain ⟨journal, totals, dones, hjournal, htotals, hdones, hperm⟩ := accounted_telemetry hc
  obtain ⟨⟨records, hcollector, hrecords, hreports⟩, hlines⟩ := hjournal
  obtain ⟨rfl, hcoded⟩ := flatten_totals htotals
  have hbegun : List.Forall₂ (fun (t : Thread _ Incoming Status Response) done =>
      t.request.Begun done) c.threads dones := by
    refine hdones.imp ?_
    intro t done hdone
    rcases hdone.now with hbegun | ⟨x, rfl, hx⟩
    · exact hbegun
    · exact ⟨x, hx, List.prefix_rfl⟩
  obtain ⟨recorded, hrecorded, hmake, hknown⟩ := exists_known
    Event.recorded? (fun a => (a.1.req.fullMethod, statusCode a.2))
    (fun _ _ _ => filterMap_recorded?) hbegun
  obtain ⟨printed, hprinted, hmake', -⟩ := exists_known
    Event.printed? (fun a => a.1.key a.2)
    (fun _ _ _ => filterMap_printed?) hbegun
  refine ⟨records, recorded, printed, hrecorded, hprinted, hcollector, ?_, ?_, ?_, hreports⟩
  · rw [hrecords, List.map_append]
    have hkind := (hperm.filterMap Event.recorded?).map fun e => (e.1, e.2.code)
    rw [List.filterMap_append, hmake,
      filterMap_flatten_answers (fun a => (a.1.req.fullMethod, statusCode a.2))
        (fun _ => rfl), List.map_append, List.map_map, List.map_map] at hkind
    exact hkind
  · rw [hlines, List.map_append]
    have hkind := hperm.filterMap Event.printed?
    rwa [List.filterMap_append, hmake', filterMap_flatten_answers (fun a => a.1.key a.2)
      (fun _ => rfl)] at hkind
  · intro a ha
    rcases List.mem_append.mp ha with ha | ha
    · exact hcoded a ha
    · exact hknown a ha

end Observability

end HistoryQuiz
