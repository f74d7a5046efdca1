import HistoryQuiz.Client.EntryServer

/-!
# Documents

A document that the client renders, whatever the order is in which requests come, React calls back,
calls of the backend end and the timer fires: the promise of a request is settled by the first call
of `onShellReady` or `onShellError`, and a document carries the security headers
(`rendering_settled`).
-/

namespace HistoryQuiz

namespace Client

namespace EntryServer

open Js Client.Observability

variable {toUpperCase : String → String} {localeCompare : String → String → ℤ}

/-! ## Headers -/

theorem Headers.get_set (headers : Headers) (name value name' : String) :
    (headers.set name value).get name' =
      if name'.toLower = name.toLower then some value else headers.get name' := by
  unfold Headers.set Headers.get
  rw [Function.update_apply]

/-- Setting headers one after the other. -/
def Headers.setAll (headers : Headers) (entries : List (String × String)) : Headers :=
  entries.foldl (fun headers entry => headers.set entry.1 entry.2) headers

theorem Headers.get_setAll {entries : List (String × String)} {name : String}
    (h : name.toLower ∉ entries.map fun entry => entry.1.toLower) (headers : Headers) :
    (headers.setAll entries).get name = headers.get name := by
  induction entries generalizing headers with
  | nil => rfl
  | cons entry entries ih =>
      rw [List.map_cons, List.mem_cons, not_or] at h
      refine (ih h.2 _).trans ?_
      rw [Headers.get_set, if_neg h.1]

theorem Headers.get_setAll_of_mem {entries : List (String × String)}
    (hnodup : (entries.map fun entry => entry.1.toLower).Nodup) {entry : String × String}
    (h : entry ∈ entries) (headers : Headers) :
    (headers.setAll entries).get entry.1 = some entry.2 := by
  induction entries generalizing headers with
  | nil => exact absurd h List.not_mem_nil
  | cons first entries ih =>
      rw [List.map_cons, List.nodup_cons] at hnodup
      rcases List.mem_cons.mp h with rfl | hmem
      · refine (Headers.get_setAll hnodup.1 _).trans ?_
        rw [Headers.get_set, if_pos rfl]
      · exact ih hnodup.2 hmem _

/-- The headers that every document has. -/
def documentHeaders : List (String × String) :=
  SECURITY_HEADERS ++ [("Content-Type", "text/html; charset=utf-8")]

/-- The headers of a document. -/
def secured (headers : Headers) : Headers := headers.setAll documentHeaders

theorem secured_eq (headers : Headers) :
    secured headers =
      (applySecurityHeaders headers).set "Content-Type" "text/html; charset=utf-8" := by
  unfold secured documentHeaders Headers.setAll
  rw [List.foldl_append]
  rfl

theorem documentHeaders_names : documentHeaders.map (fun entry => entry.1.toLower) =
    ["content-security-policy", "x-frame-options", "x-content-type-options", "referrer-policy",
      "permissions-policy", "strict-transport-security", "content-type"] := by
  decide +kernel

/-! ## What a callback does to its rendering -/

/-- The status of a document. -/
def Rendering.status (r : Rendering) : DocumentStatus :=
  if r.didError then internalServerError else r.responseStatusCode

/-- The rendering whose promise is resolved with the document. -/
def Rendering.resolved (r : Rendering) : Rendering :=
  { r with responseHeaders := secured r.responseHeaders }.settle
    (.ok ⟨r.status, secured r.responseHeaders⟩)

/-- The rendering after a callback. -/
def Rendering.receive (r : Rendering) : Callback → Rendering
  | .onShellReady => { r.resolved with hasLoggedAccess := true }
  | .onShellError error => { r.settle (.error error) with hasLoggedAccess := true }
  | .onError _ => { r with didError := true }

theorem onShellReady_eq (now : ℚ) (freshId : String) (r : Rendering) (p : Process) :
    onShellReady toUpperCase now freshId r p =
      logHttpAccessOnce toUpperCase now freshId r.status.code (some r.resolved.responseHeaders)
        r.resolved p := by
  unfold onShellReady Rendering.resolved
  rw [secured_eq]
  rfl

theorem logHttpAccessOnce_fst (now : ℚ) (freshId : String) (status : ℕ) (headers : Option Headers)
    (r : Rendering) (p : Process) :
    (logHttpAccessOnce toUpperCase now freshId status headers r p).1 =
      { r with hasLoggedAccess := true } := by
  unfold logHttpAccessOnce
  split_ifs with hlogged
  · rw [← hlogged]
  · rfl

theorem call_fst (c : Callback) (now : ℚ) (freshId : String) (r : Rendering) (p : Process) :
    (c.call toUpperCase now freshId r p).1 = r.receive c := by
  cases c with
  | onShellReady =>
      show (onShellReady _ _ _ _ _).1 = _
      rw [onShellReady_eq, logHttpAccessOnce_fst]
      rfl
  | onShellError error =>
      show (logHttpAccessOnce _ _ _ _ _ _ _).1.settle _ = _
      rw [logHttpAccessOnce_fst]
      rfl
  | onError error => rfl

/-- No header of documents is the request id. -/
theorem get_secured_requestId (headers : Headers) :
    (secured headers).get "x-request-id" = headers.get "x-request-id" := by
  refine Headers.get_setAll ?_ headers
  rw [documentHeaders_names]
  decide +kernel

theorem requestId_receive (r : Rendering) (c : Callback) :
    (r.receive c).requestId = r.requestId := by
  cases c with
  | onShellReady =>
      unfold Rendering.requestId Rendering.receive Rendering.resolved Rendering.settle
      rw [get_secured_requestId]
  | onShellError error => rfl
  | onError error => rfl

/-! ## Settled promises -/

/-- How the calls of React settle a promise: the first of the shell decides. -/
def settlement (headers : Headers) :
    DocumentStatus → List Callback → Option (Except Thrown DocumentResponse)
  | _, [] => none
  | status, .onShellReady :: _ => some (.ok ⟨status, secured headers⟩)
  | _, .onShellError error :: _ => some (.error error)
  | _, .onError _ :: rest => settlement headers internalServerError rest

theorem settled_foldl_of_some {r : Rendering} {outcome : Except Thrown DocumentResponse}
    (h : r.settled = some outcome) (cs : List Callback) :
    (cs.foldl Rendering.receive r).settled = some outcome := by
  induction cs generalizing r with
  | nil => exact h
  | cons c cs ih =>
      refine ih ?_
      cases c <;> simp [Rendering.receive, Rendering.resolved, Rendering.settle, h]

/-- The promise of a rendering that is not settled. -/
theorem settled_foldl {r : Rendering} (h : r.settled = none) (cs : List Callback) :
    (cs.foldl Rendering.receive r).settled =
      settlement r.responseHeaders r.status cs := by
  induction cs generalizing r with
  | nil => exact h
  | cons c cs ih =>
      cases c with
      | onShellReady =>
          refine settled_foldl_of_some ?_ cs
          simp [Rendering.receive, Rendering.resolved, Rendering.settle, h]
      | onShellError error =>
          refine settled_foldl_of_some ?_ cs
          simp [Rendering.receive, Rendering.settle, h]
      | onError error => exact ih h

theorem headers_of_settlement {headers : Headers} {status : DocumentStatus} {cs : List Callback}
    {response : DocumentResponse} (h : settlement headers status cs = some (.ok response)) :
    response.headers = secured headers := by
  induction cs generalizing status with
  | nil => cases h
  | cons c cs ih =>
      cases c with
      | onShellReady =>
          cases h
          rfl
      | onShellError error => cases h
      | onError error => exact ih h

/-! ## Renderings of a run -/

/-- The calls of `handleRequest` in what happened. -/
def arrivals (trace : List Event) : List Rendering :=
  trace.filterMap fun
    | .handleRequest _ request responseStatusCode responseHeaders now =>
        some (handleRequest request responseStatusCode responseHeaders now)
    | _ => none

/-- The callbacks of the rendering `i` once it has been started, when there are `count` of them
already. -/
def callbacks (i : ℕ) : ℕ → List Event → List Callback
  | _, [] => []
  | count, .handleRequest .. :: rest => callbacks i (count + 1) rest
  | count, .callback j c _ _ :: rest =>
      if j = i ∧ i < count then c :: callbacks i count rest else callbacks i count rest
  | count, _ :: rest => callbacks i count rest

theorem renderings_ensure (env : Env) (p : Process) :
    (p.ensureObservabilityReporterStarted env).renderings = p.renderings := by
  unfold Process.ensureObservabilityReporterStarted
  split_ifs <;> rfl

theorem renderings_call (c : Callback) (now : ℚ) (freshId : String) (r : Rendering) (p : Process) :
    (c.call toUpperCase now freshId r p).2.renderings = p.renderings := by
  have hlog : ∀ status headers (r : Rendering) (p : Process),
      (logHttpAccessOnce toUpperCase now freshId status headers r p).2.renderings =
        p.renderings := by
    intro status headers r p
    unfold logHttpAccessOnce
    split_ifs <;> rfl
  cases c with
  | onShellReady => exact hlog _ _ _ _
  | onShellError error => exact hlog _ _ _ _
  | onError error => rfl

theorem step_callback_of_none {p : Process} {i : ℕ} (hi : p.renderings[i]? = none) (c : Callback)
    (now : ℚ) (freshId : String) :
    p.step toUpperCase localeCompare (.callback i c now freshId) = p := by
  simp only [Process.step, hi]

theorem step_callback_of_some {p : Process} {i : ℕ} {r : Rendering}
    (hi : p.renderings[i]? = some r) (c : Callback) (now : ℚ) (freshId : String) :
    p.step toUpperCase localeCompare (.callback i c now freshId) =
      { (c.call toUpperCase now freshId r p).2 with
        renderings := p.renderings.set i (r.receive c) } := by
  simp only [Process.step, hi]
  rw [renderings_call, call_fst]

/-- A step starts a rendering, changes one by a callback, or leaves them as they are. -/
def renderingsAfter (renderings : List Rendering) : Event → List Rendering
  | .handleRequest _ request responseStatusCode responseHeaders now =>
      renderings ++ [handleRequest request responseStatusCode responseHeaders now]
  | .callback i c _ _ => renderings.modify i fun r => r.receive c
  | _ => renderings

theorem renderings_step (p : Process) (e : Event) :
    (p.step toUpperCase localeCompare e).renderings = renderingsAfter p.renderings e := by
  cases e with
  | handleRequest env request responseStatusCode responseHeaders now =>
      show (p.ensureObservabilityReporterStarted env).renderings ++ _ = _
      rw [renderings_ensure]
      rfl
  | callback i c now freshId =>
      cases hi : p.renderings[i]? with
      | none =>
          rw [step_callback_of_none hi, renderingsAfter,
            List.modify_eq_self (List.getElem?_eq_none_iff.mp hi)]
      | some r =>
          rw [step_callback_of_some hi, renderingsAfter, List.modify_eq_set_getElem?, hi]
          rfl
  | invokeUnary env => exact renderings_ensure env p
  | observeGrpcCall params now freshId => rfl
  | timer now =>
      unfold Process.step Process.emitMetricsSnapshot
      dsimp only
      split_ifs <;> rfl

/-- A rendering has received its callbacks. -/
theorem renderings_run (p : Process) (trace : List Event) {i : ℕ} (hi : i < p.renderings.length) :
    (p.run toUpperCase localeCompare trace).renderings[i]? =
      p.renderings[i]?.map fun r =>
        (callbacks i p.renderings.length trace).foldl Rendering.receive r := by
  induction trace generalizing p with
  | nil => simp [Process.run, callbacks]
  | cons e trace ih =>
      show ((p.step toUpperCase localeCompare e).run toUpperCase localeCompare trace).renderings[i]?
        = _
      have hstep : (p.step toUpperCase localeCompare e).renderings = _ := renderings_step p e
      have hlength : i < (p.step toUpperCase localeCompare e).renderings.length := by
        rw [hstep]
        cases e <;> simp [renderingsAfter] <;> omega
      rw [ih _ hlength, hstep]
      cases e with
      | handleRequest env request responseStatusCode responseHeaders now =>
          simp [renderingsAfter, callbacks, List.getElem?_append_left hi]
      | callback j c now freshId =>
          by_cases hj : j = i
          · subst hj
            simp [renderingsAfter, callbacks, hi]
          · simp [renderingsAfter, callbacks, hj]
      | invokeUnary env => rfl
      | observeGrpcCall params now freshId => rfl
      | timer now => rfl

theorem renderings_run_new (p : Process) (trace : List Event) {i : ℕ}
    (hi : p.renderings.length ≤ i) :
    (p.run toUpperCase localeCompare trace).renderings[i]? =
      (arrivals trace)[i - p.renderings.length]?.map fun r =>
        (callbacks i p.renderings.length trace).foldl Rendering.receive r := by
  induction trace generalizing p with
  | nil => simp [Process.run, arrivals, hi]
  | cons e trace ih =>
      show ((p.step toUpperCase localeCompare e).run toUpperCase localeCompare trace).renderings[i]?
        = _
      have hstep : (p.step toUpperCase localeCompare e).renderings = _ := renderings_step p e
      cases e with
      | handleRequest env request responseStatusCode responseHeaders now =>
          have hlength : (p.step toUpperCase localeCompare (.handleRequest env request
              responseStatusCode responseHeaders now)).renderings.length =
              p.renderings.length + 1 := by
            rw [hstep, renderingsAfter, List.length_append, List.length_singleton]
          have harrivals : arrivals (.handleRequest env request responseStatusCode responseHeaders
              now :: trace) = handleRequest request responseStatusCode responseHeaders now ::
              arrivals trace := rfl
          rw [harrivals, callbacks]
          rcases Nat.eq_or_lt_of_le hi with heq | hlt
          · -- this request starts the rendering
            rw [renderings_run _ _ (by omega), hlength, hstep, heq, Nat.sub_self,
              List.getElem?_cons_zero, renderingsAfter, ← heq, List.getElem?_concat_length]
          · have hsub : i - p.renderings.length = i - (p.renderings.length + 1) + 1 := by omega
            rw [ih _ (by omega), hlength, hsub, List.getElem?_cons_succ]
      | callback j c now freshId =>
          have hlength : (p.step toUpperCase localeCompare
              (.callback j c now freshId)).renderings.length = p.renderings.length := by
            rw [hstep, renderingsAfter, List.length_modify]
          rw [ih _ (by omega), hlength, callbacks, if_neg (by omega)]
          rfl
      | invokeUnary env =>
          rw [ih _ (by rw [hstep]; exact hi), hstep]
          rfl
      | observeGrpcCall params now freshId =>
          rw [ih _ (by rw [hstep]; exact hi), hstep]
          rfl
      | timer now =>
          rw [ih _ (by rw [hstep]; exact hi), hstep]
          rfl

/-- The renderings of a run are those of its requests, with their callbacks. -/
theorem renderings_initial (trace : List Event) (i : ℕ) :
    (Process.initial.run toUpperCase localeCompare trace).renderings[i]? =
      (arrivals trace)[i]?.map fun r => (callbacks i 0 trace).foldl Rendering.receive r :=
  renderings_run_new Process.initial trace (Nat.zero_le i)

/-- The promise of every request is settled by the first call of `onShellReady` or `onShellError`
for it, with the status `500` after an error, and stays so; and a document has the headers that
Remix gave, but for those that every document has. -/
theorem rendering_settled (toUpperCase : String → String) (localeCompare : String → String → ℤ)
    (trace : List Event) {i : ℕ} {arrival : Rendering} (hi : (arrivals trace)[i]? = some arrival) :
    ∃ r, (Process.initial.run toUpperCase localeCompare trace).renderings[i]? = some r ∧
      r.settled = settlement arrival.responseHeaders arrival.responseStatusCode
        (callbacks i 0 trace) ∧
      ∀ response, r.settled = some (.ok response) →
        (∀ entry ∈ documentHeaders, response.headers.get entry.1 = some entry.2) ∧
        ∀ name : String, (name.toLower ∉ documentHeaders.map fun entry => entry.1.toLower) →
          response.headers.get name = arrival.responseHeaders.get name := by
  have hfresh : arrival.settled = none ∧ arrival.didError = false := by
    obtain ⟨e, -, he⟩ := List.mem_filterMap.mp (List.mem_of_getElem? hi)
    cases e with
    | handleRequest env request responseStatusCode responseHeaders now =>
        cases he
        exact ⟨rfl, rfl⟩
    | _ => cases he
  have hsettled := settled_foldl hfresh.1 (callbacks i 0 trace)
  rw [Rendering.status, hfresh.2, if_neg Bool.false_ne_true] at hsettled
  refine ⟨_, (renderings_initial trace i).trans (by rw [hi, Option.map_some]), hsettled, ?_⟩
  intro response hresponse
  rw [headers_of_settlement (hsettled ▸ hresponse)]
  refine ⟨fun entry hentry => Headers.get_setAll_of_mem ?_ hentry _,
    fun name hname => Headers.get_setAll hname _⟩
  rw [documentHeaders_names]
  decide

/-- Two requests whose callbacks take turns: an error of the second comes before its shell. -/
def twoRenderings : List Event :=
  let env : Env := ⟨some "test", none⟩
  let request : SsrRequest := ⟨"GET", "/quiz", fun _ => none⟩
  [.handleRequest env request ⟨200, by decide⟩ (fun _ => none) 0,
    .handleRequest env request ⟨200, by decide⟩ (fun _ => none) 1,
    .callback 1 (.onError (.error "render")) 2 "f1",
    .callback 0 .onShellReady 3 "f2",
    .callback 1 .onShellReady 4 "f3",
    .callback 1 (.onShellError (.error "late")) 5 "f4"]

theorem rendering_settled_twoRenderings : ∃ r,
    (Process.initial.run id (fun _ _ => 0) twoRenderings).renderings[1]? = some r ∧
      ∃ response, r.settled = some (.ok response) ∧ response.status.code = 500 ∧
        response.headers.get "X-Frame-Options" = some "DENY" := by
  obtain ⟨r, hr, hsettled, hheaders⟩ := rendering_settled id (fun _ _ => 0) twoRenderings
    (i := 1) rfl
  refine ⟨r, hr, _, hsettled, rfl, ?_⟩
  exact (hheaders _ hsettled).1 ("X-Frame-Options", "DENY") (by simp [documentHeaders,
    SECURITY_HEADERS])

end EntryServer

end Client

end HistoryQuiz
