import HistoryQuiz.Theorems.Documents

/-!
# The access lines of documents

In every run of the server process a request has one access line from the time its promise is
settled on, with the status of the answer, and none before (`access_lines_once`).
-/

namespace HistoryQuiz

namespace Client

namespace EntryServer

open Js Client.Observability

variable {toUpperCase : String → String} {localeCompare : String → String → ℤ}

/-! ## Access lines -/

/-- The access line of a document, if the line is one. -/
def ConsoleLine.http? : ConsoleLine → Option AccessLog
  | .access payload => if payload.type = "http_access" then some payload else none
  | _ => none

/-- The status that a request is answered with. -/
def Rendering.answered (r : Rendering) : ℕ :=
  match r.settled with
  | some (.ok response) => response.status.code
  | _ => 500

/-- The line says of a request what it was and how it was answered. -/
structure LineOf (toUpperCase : String → String) (line : AccessLog) (r : Rendering) : Prop where
  type : line.type = "http_access"
  method : line.method = toUpperCase r.request.method ++ " " ++ normalizePathname r.request.pathname
  status : line.status = toString (r.answered : ℤ)
  requestId : ∃ freshId, line.requestId = trimOr r.requestId freshId

/-- A settled rendering is logged, and no other is. -/
def Rendering.Settles (r : Rendering) : Prop := r.hasLoggedAccess = r.settled.isSome

theorem Rendering.Settles.receive {r : Rendering} (h : r.Settles) (c : Callback) :
    (r.receive c).Settles := by
  cases c with
  | onShellReady =>
      unfold Rendering.Settles Rendering.receive Rendering.resolved Rendering.settle
      cases r.settled <;> rfl
  | onShellError error =>
      unfold Rendering.Settles Rendering.receive Rendering.settle
      cases r.settled <;> rfl
  | onError error => exact h

/-- What is said of a settled rendering stays true. -/
theorem LineOf.receive {line : AccessLog} {r : Rendering} (h : LineOf toUpperCase line r)
    (hsettled : r.settled.isSome) (c : Callback) : LineOf toUpperCase line (r.receive c) := by
  obtain ⟨outcome, houtcome⟩ := Option.isSome_iff_exists.mp hsettled
  have hrequest : (r.receive c).request = r.request := by cases c <;> rfl
  have hstays : (r.receive c).settled = r.settled := by
    rw [houtcome]
    exact settled_foldl_of_some houtcome [c]
  refine ⟨h.type, ?_, ?_, ?_⟩
  · rw [hrequest]
    exact h.method
  · rw [Rendering.answered, hstays]
    exact h.status
  · rw [requestId_receive]
    exact h.requestId

/-- The access lines of documents. -/
def Process.httpLines (p : Process) : List AccessLog := p.console.filterMap ConsoleLine.http?

theorem httpLines_observeServerFault (now : ℚ) (freshId : String) (detail : Thrown)
    (message : String) (requestId : Option String) (source : String) (p : Process) :
    (p.observeServerFault now freshId detail message requestId source).httpLines = p.httpLines := by
  unfold Process.observeServerFault Process.writeStructuredLog Process.httpLines
  simp [ConsoleLine.http?, List.filterMap_cons]

theorem httpLines_observeHttp (now : ℚ) (freshId : String) (params : HttpParams) (p : Process) :
    (p.observeHttp toUpperCase now freshId params).httpLines =
      p.httpLines ++ [(observeHttpRequest toUpperCase now freshId params p.metricStore).2] := by
  unfold Process.observeHttp Process.writeStructuredLog Process.httpLines observeHttpRequest
  simp [ConsoleLine.http?]

variable (toUpperCase) in
/-- The line that is written for a rendering with its status. -/
theorem lineOf_observeHttpRequest (now : ℚ) (freshId : String) (r : Rendering)
    (store : MetricStore) :
    LineOf toUpperCase (observeHttpRequest toUpperCase now freshId
      (r.httpParams r.answered (some r.responseHeaders)) store).2 r := by
  have hid : (r.httpParams r.answered (some r.responseHeaders)).requestId = r.requestId := by
    unfold Rendering.httpParams Rendering.requestId
    dsimp only [Option.bind_some]
    cases r.responseHeaders.get "x-request-id" <;> rfl
  exact ⟨rfl, rfl, rfl, freshId, by rw [← hid]; rfl⟩

theorem LineOf.logged {line : AccessLog} {r : Rendering} (h : LineOf toUpperCase line r) :
    LineOf toUpperCase line { r with hasLoggedAccess := true } :=
  ⟨h.type, h.method, h.status, h.requestId⟩

theorem httpLines_logHttpAccessOnce (now : ℚ) (freshId : String) (status : ℕ)
    (headers : Option Headers) (r : Rendering) (p : Process) :
    (logHttpAccessOnce toUpperCase now freshId status headers r p).2.httpLines =
      if r.hasLoggedAccess then p.httpLines
      else p.httpLines ++ [(observeHttpRequest toUpperCase now freshId (r.httpParams status headers)
        p.metricStore).2] := by
  unfold logHttpAccessOnce
  split_ifs
  · rfl
  · exact httpLines_observeHttp now freshId _ p

/-- A callback settles the promise and writes a line, or it does neither. -/
theorem httpLines_call {r : Rendering} (hr : r.Settles) (c : Callback) (now : ℚ) (freshId : String)
    (p : Process) :
    ((c.call toUpperCase now freshId r p).2.httpLines = p.httpLines ∧
      (r.receive c).settled.isSome = r.settled.isSome) ∨
    (r.settled = none ∧ (r.receive c).settled.isSome = true ∧
      ∃ line, (c.call toUpperCase now freshId r p).2.httpLines = p.httpLines ++ [line] ∧
        LineOf toUpperCase line (r.receive c)) := by
  have hstays : ∀ outcome, r.settled = some outcome →
      (r.receive c).settled.isSome = (some outcome).isSome := by
    intro outcome houtcome
    rw [show (r.receive c).settled = some outcome from settled_foldl_of_some houtcome [c]]
  have hlogged : r.hasLoggedAccess = r.settled.isSome := hr
  cases c with
  | onShellReady =>
      have hlines : (Callback.onShellReady.call toUpperCase now freshId r p).2.httpLines = _ :=
        (congrArg (fun result => result.2.httpLines) (onShellReady_eq now freshId r p)).trans
          (httpLines_logHttpAccessOnce now freshId _ _ r.resolved p)
      rw [hlines]
      cases hsettled : r.settled with
      | none =>
          rw [hsettled] at hlogged
          have hanswered : r.status.code = r.resolved.answered := by
            simp [Rendering.answered, Rendering.resolved, Rendering.settle, hsettled]
          rw [if_neg (by simp [Rendering.resolved, Rendering.settle, hlogged]), hanswered]
          refine .inr ⟨rfl, ?_, _, rfl, (lineOf_observeHttpRequest _ now freshId _ _).logged⟩
          simp [Rendering.receive, Rendering.resolved, Rendering.settle, hsettled]
      | some outcome =>
          rw [hsettled] at hlogged
          exact .inl ⟨if_pos hlogged, hstays outcome hsettled⟩
  | onShellError error =>
      have hlines : ((Callback.onShellError error).call toUpperCase now freshId r p).2.httpLines =
          _ := httpLines_logHttpAccessOnce now freshId 500 (some r.responseHeaders) r _
      rw [hlines, httpLines_observeServerFault]
      cases hsettled : r.settled with
      | none =>
          rw [hsettled] at hlogged
          rw [if_neg (by simp [hlogged])]
          refine .inr ⟨rfl, ?_, _, rfl, ?_⟩
          · simp [Rendering.receive, Rendering.settle, hsettled]
          · have hline := lineOf_observeHttpRequest toUpperCase now freshId
              (r.settle (.error error)) p.metricStore
            have hanswered : (r.settle (.error error)).answered = 500 := by
              simp [Rendering.answered, Rendering.settle, hsettled]
            rw [hanswered] at hline
            exact hline.logged
      | some outcome =>
          rw [hsettled] at hlogged
          exact .inl ⟨if_pos hlogged, hstays outcome hsettled⟩
  | onError error =>
      exact .inl ⟨httpLines_observeServerFault _ _ _ _ _ _ p, rfl⟩

/-- The lines are those of the settled renderings, one for each. -/
def Lined (toUpperCase : String → String) (lines : List AccessLog) (renderings : List Rendering) :
    Prop :=
  ∃ done : List ℕ, done.Nodup ∧
    (∀ i, i ∈ done ↔ ∃ r, renderings[i]? = some r ∧ r.settled.isSome) ∧
    List.Forall₂ (fun line i => ∃ r, renderings[i]? = some r ∧ r.settled.isSome ∧
      LineOf toUpperCase line r) lines done

/-- A rendering that is not settled has no line. -/
theorem Lined.start {lines : List AccessLog} {renderings : List Rendering}
    (h : Lined toUpperCase lines renderings) {r : Rendering} (hr : r.settled = none) :
    Lined toUpperCase lines (renderings ++ [r]) := by
  obtain ⟨done, hnodup, hmem, hlines⟩ := h
  have hold : ∀ (i : ℕ) r', renderings[i]? = some r' → (renderings ++ [r])[i]? = some r' := by
    intro i r' hi
    rw [List.getElem?_append_left (List.getElem?_eq_some_iff.mp hi).1, hi]
  refine ⟨done, hnodup, ?_, hlines.imp ?_⟩
  · intro i
    rw [hmem]
    constructor
    · rintro ⟨r', hi, hsettled⟩
      exact ⟨r', hold i r' hi, hsettled⟩
    · rintro ⟨r', hi, hsettled⟩
      by_cases hlt : i < renderings.length
      · rw [List.getElem?_append_left hlt] at hi
        exact ⟨r', hi, hsettled⟩
      · rw [List.getElem?_append_right (by omega)] at hi
        have hnew : r' = r := by
          have hmem := List.mem_of_getElem? hi
          exact List.mem_singleton.mp hmem
        rw [hnew, hr] at hsettled
        cases hsettled
  · rintro line i ⟨r', hi, hsettled, hline⟩
    exact ⟨r', hold i r' hi, hsettled, hline⟩

/-- A callback that settles nothing leaves the lines as they are. -/
theorem Lined.receive {lines : List AccessLog} {renderings : List Rendering}
    (h : Lined toUpperCase lines renderings) {i : ℕ} {r : Rendering} (hi : renderings[i]? = some r)
    {c : Callback} (hc : (r.receive c).settled.isSome = r.settled.isSome) :
    Lined toUpperCase lines (renderings.set i (r.receive c)) := by
  obtain ⟨done, hnodup, hmem, hlines⟩ := h
  have hlt : i < renderings.length := (List.getElem?_eq_some_iff.mp hi).1
  refine ⟨done, hnodup, ?_, hlines.imp ?_⟩
  · intro j
    rw [hmem]
    by_cases hj : i = j
    · subst hj
      rw [hi, List.getElem?_set_self hlt]
      simp [hc]
    · rw [List.getElem?_set_ne hj]
  · rintro line j ⟨r', hj, hsettled, hline⟩
    by_cases hij : i = j
    · subst hij
      obtain rfl : r = r' := Option.some.inj (hi.symm.trans hj)
      exact ⟨r.receive c, List.getElem?_set_self hlt, hc ▸ hsettled, hline.receive hsettled c⟩
    · exact ⟨r', by rw [List.getElem?_set_ne hij, hj], hsettled, hline⟩

/-- A callback that settles its promise has its line. -/
theorem Lined.settle {lines : List AccessLog} {renderings : List Rendering}
    (h : Lined toUpperCase lines renderings) {i : ℕ} {r : Rendering} (hi : renderings[i]? = some r)
    (hr : r.settled = none) {c : Callback} (hc : (r.receive c).settled.isSome = true)
    {line : AccessLog} (hline : LineOf toUpperCase line (r.receive c)) :
    Lined toUpperCase (lines ++ [line]) (renderings.set i (r.receive c)) := by
  obtain ⟨done, hnodup, hmem, hlines⟩ := h
  have hlt : i < renderings.length := (List.getElem?_eq_some_iff.mp hi).1
  have hset : (renderings.set i (r.receive c))[i]? = some (r.receive c) :=
    List.getElem?_set_self hlt
  have hnew : i ∉ done := by
    rw [hmem]
    rintro ⟨r', hi', hsettled⟩
    obtain rfl : r = r' := Option.some.inj (hi.symm.trans hi')
    rw [hr] at hsettled
    cases hsettled
  refine ⟨done ++ [i], ?_, ?_, List.rel_append (hlines.imp ?_) (.cons ⟨_, hset, hc, hline⟩ .nil)⟩
  · rw [← List.concat_eq_append]
    exact hnodup.concat hnew
  · intro j
    rw [List.mem_append, List.mem_singleton, hmem]
    by_cases hj : i = j
    · subst hj
      exact iff_of_true (.inr rfl) ⟨_, hset, hc⟩
    · rw [List.getElem?_set_ne hj, or_iff_left (Ne.symm hj)]
  · rintro line' j ⟨r', hj, hsettled, hline'⟩
    have hij : i ≠ j := by
      rintro rfl
      obtain rfl : r = r' := Option.some.inj (hi.symm.trans hj)
      rw [hr] at hsettled
      cases hsettled
    exact ⟨r', by rw [List.getElem?_set_ne hij, hj], hsettled, hline'⟩

theorem httpLines_ensure (env : Env) (p : Process) :
    (p.ensureObservabilityReporterStarted env).httpLines = p.httpLines := by
  unfold Process.ensureObservabilityReporterStarted
  split_ifs <;> rfl

/-- The lines and the renderings of a process agree. -/
structure Agrees (toUpperCase : String → String) (p : Process) : Prop where
  settles : ∀ r ∈ p.renderings, r.Settles
  lined : Lined toUpperCase p.httpLines p.renderings

theorem Agrees.step {p : Process} (h : Agrees toUpperCase p) (e : Event) :
    Agrees toUpperCase (p.step toUpperCase localeCompare e) := by
  cases e with
  | handleRequest env request responseStatusCode responseHeaders now =>
      have hrenderings : (p.step toUpperCase localeCompare (.handleRequest env request
          responseStatusCode responseHeaders now)).renderings = _ := renderings_step p _
      refine ⟨?_, ?_⟩
      · intro r hr
        rw [hrenderings] at hr
        rcases List.mem_append.mp hr with hr | hr
        · exact h.settles r hr
        · rw [List.mem_singleton.mp hr]
          rfl
      · rw [hrenderings]
        have hlines := httpLines_ensure env p
        show Lined toUpperCase (p.ensureObservabilityReporterStarted env).httpLines _
        rw [hlines]
        exact h.lined.start rfl
  | callback i c now freshId =>
      cases hi : p.renderings[i]? with
      | none =>
          rw [step_callback_of_none hi]
          exact h
      | some r =>
          have hr := h.settles r (List.mem_of_getElem? hi)
          rw [step_callback_of_some hi]
          refine ⟨?_, ?_⟩
          · intro r' hr'
            rcases List.mem_or_eq_of_mem_set hr' with hr' | rfl
            · exact h.settles r' hr'
            · exact hr.receive c
          · show Lined toUpperCase (c.call toUpperCase now freshId r p).2.httpLines _
            rcases httpLines_call hr c now freshId p with
              ⟨hlines, hsame⟩ | ⟨hnone, hsome, line, hlines, hline⟩
            · rw [hlines]
              exact h.lined.receive hi hsame
            · rw [hlines]
              exact h.lined.settle hi hnone hsome hline
  | invokeUnary env =>
      refine ⟨?_, ?_⟩
      · show ∀ r ∈ (p.ensureObservabilityReporterStarted env).renderings, r.Settles
        rw [renderings_ensure]
        exact h.settles
      · show Lined toUpperCase (p.ensureObservabilityReporterStarted env).httpLines
          (p.ensureObservabilityReporterStarted env).renderings
        rw [renderings_ensure, httpLines_ensure]
        exact h.lined
  | observeGrpcCall params now freshId =>
      refine ⟨h.settles, ?_⟩
      have hlines : (p.observeGrpc toUpperCase now freshId params).httpLines = p.httpLines := by
        unfold Process.observeGrpc Process.writeStructuredLog Process.httpLines observeGrpcCall
        simp [ConsoleLine.http?]
      show Lined toUpperCase (p.observeGrpc toUpperCase now freshId params).httpLines p.renderings
      rw [hlines]
      exact h.lined
  | timer now =>
      have hlines : (p.step toUpperCase localeCompare (.timer now)).httpLines = p.httpLines := by
        unfold Process.step Process.emitMetricsSnapshot Process.writeStructuredLog Process.httpLines
        dsimp only
        split_ifs <;> simp [ConsoleLine.http?]
      have hrenderings : (p.step toUpperCase localeCompare (.timer now)).renderings =
          p.renderings := renderings_step p _
      exact ⟨hrenderings ▸ h.settles, by rw [hlines, hrenderings]; exact h.lined⟩

/-- In every run a request has one access line when its promise is settled and none before, with
its method and path, the status that it is answered with and its id. -/
theorem access_lines_once (toUpperCase : String → String) (localeCompare : String → String → ℤ)
    (trace : List Event) :
    ∃ done : List ℕ, done.Nodup ∧
      (∀ i, i ∈ done ↔ ∃ r,
        (Process.initial.run toUpperCase localeCompare trace).renderings[i]? = some r ∧
          r.settled.isSome) ∧
      List.Forall₂ (fun line i => ∃ r,
          (Process.initial.run toUpperCase localeCompare trace).renderings[i]? = some r ∧
            r.settled.isSome ∧ LineOf toUpperCase line r)
        (Process.initial.run toUpperCase localeCompare trace).httpLines done := by
  have hagrees : Agrees toUpperCase (Process.initial.run toUpperCase localeCompare trace) := by
    induction trace using List.reverseRecOn with
    | nil =>
        refine ⟨fun r hr => absurd hr List.not_mem_nil, [], List.nodup_nil, ?_, .nil⟩
        simp [Process.run, Process.initial]
    | append_singleton trace e ih =>
        unfold Process.run at ih ⊢
        rw [List.foldl_append]
        exact ih.step e
  exact hagrees.lined

end EntryServer

end Client

end HistoryQuiz
