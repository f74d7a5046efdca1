import HistoryQuiz.Client.Observability

/-!
# The metrics of a run of the client

After any HTTP requests and gRPC calls there is one snapshot for each pair of a scope and a name,
made of the observations of that pair alone (`metricSnapshots_exact`): a scope has no colon, so
the key of a metric is taken apart where it was put together, whatever the name is. The counts
are numbers of JavaScript, and counting by ones stops at `2 ^ 53` (`requestCount_stops`).
-/

namespace HistoryQuiz

namespace Client

namespace Observability

open Js Series

variable {toUpperCase : String → String}

/-- A call of one of the two functions. -/
inductive Observation where
  | http (params : HttpParams) (now : ℚ) (freshId : String)
  | grpc (params : GrpcParams) (now : ℚ) (freshId : String)

namespace Observation

/-- The store after the call. -/
def apply (toUpperCase : String → String) (store : MetricStore) : Observation → MetricStore
  | http params now freshId => (observeHttpRequest toUpperCase now freshId params store).1
  | grpc params now freshId => (observeGrpcCall toUpperCase now freshId params store).1

def scope : Observation → MetricScope
  | http .. => .http
  | grpc .. => .grpc

/-- The name of the metric: the route, or the method and the path; or the RPC method. -/
def name (toUpperCase : String → String) : Observation → String
  | http params _ _ => params.metricName toUpperCase
  | grpc params _ _ => trimOr (some params.rpcMethod) "unknown"

def isError (toUpperCase : String → String) : Observation → Bool
  | http params _ _ => 500 ≤ params.responseStatus
  | grpc params _ _ => normalizeGrpcCode toUpperCase params.grpcCode ≠ "OK"

def latencyMs : Observation → ℚ
  | http params now _ => latencySince now params.startedAtMs
  | grpc params now _ => latencySince now params.startedAtMs

/-- The pair that the observation belongs to. -/
def series (toUpperCase : String → String) (o : Observation) : String × String :=
  (o.scope.text, o.name toUpperCase)

def key (toUpperCase : String → String) (o : Observation) : String :=
  metricKey o.scope (o.name toUpperCase)

/-- The step of a window. -/
def step (toUpperCase : String → String) (window : MetricWindow) (o : Observation) :
    MetricWindow :=
  window.record (o.isError toUpperCase) o.latencyMs

end Observation

/-- A run of the client. -/
def observeAll (toUpperCase : String → String) (observations : List Observation) : MetricStore :=
  observations.foldl (Observation.apply toUpperCase) Map.empty

theorem entries_observeAll (observations : List Observation) :
    (observeAll toUpperCase observations).entries =
      run .empty (Observation.key toUpperCase) (Observation.step toUpperCase) observations := by
  induction observations using List.reverseRecOn with
  | nil => rfl
  | append_singleton observations o ih =>
      unfold observeAll run at ih ⊢
      rw [List.foldl_append, List.foldl_append, ← ih]
      cases o with
      | http params now freshId => exact Map.entries_set_get _ _ _ _
      | grpc params now freshId => exact Map.entries_set_get _ _ _ _

/-! ## Keys -/

/-- A key is taken apart into its scope and the parts of its name. -/
theorem split_metricKey (scope : MetricScope) (name : String) :
    split (metricKey scope name) ':' = scope.text :: split name ':' := by
  have hcolon : ':' ∉ scope.text.toList := by cases scope <;> decide
  exact split_append_of_not_mem hcolon name

theorem metricKey_inj {scope scope' : MetricScope} {name name' : String} :
    metricKey scope name = metricKey scope' name' ↔ scope.text = scope'.text ∧ name = name' := by
  constructor
  · intro hkey
    have hparts : split (metricKey scope name) ':' = split (metricKey scope' name') ':' := by
      rw [hkey]
    rw [split_metricKey, split_metricKey, List.cons.injEq] at hparts
    refine ⟨hparts.1, ?_⟩
    rw [← join_split name ':', ← join_split name' ':', hparts.2]
  · rintro ⟨hscope, rfl⟩
    unfold metricKey
    rw [hscope]

/-! ## Windows -/

theorem appendLatencySample_eq_push (samples : List ℚ) (latencyMs : ℚ) :
    appendLatencySample samples latencyMs DEFAULT_MAX_LATENCY_SAMPLES =
      push 512 samples latencyMs := by
  unfold appendLatencySample push DEFAULT_MAX_LATENCY_SAMPLES
  rw [if_neg (by decide), List.drop_one]
  by_cases hroom : samples.length < 512
  · rw [if_pos hroom, if_pos (by omega)]
  · rw [if_neg hroom, if_neg (by omega)]

/-- What the observations of one pair lead to. -/
def MetricWindow.after (toUpperCase : String → String) (observations : List Observation) :
    MetricWindow where
  errorCount := min (observations.countP (Observation.isError toUpperCase)) (2 ^ 53)
  latenciesMs := (observations.map Observation.latencyMs).rtake 512
  requestCount := min observations.length (2 ^ 53)

theorem step_after (observations : List Observation) (o : Observation) :
    o.step toUpperCase (.after toUpperCase observations) =
      .after toUpperCase (observations ++ [o]) := by
  unfold Observation.step MetricWindow.record MetricWindow.after increment
  rw [appendLatencySample_eq_push, push_rtake (by decide), List.map_append, List.map_singleton,
    List.length_append, List.countP_append, List.countP_singleton, List.length_singleton,
    Rounding.toBits_min_succ (by decide), Rounding.toBits_min_succ (by decide)]
  congr 1
  split_ifs
  · rfl
  · rfl

theorem foldl_step (observations : List Observation) :
    observations.foldl (Observation.step toUpperCase) .empty =
      .after toUpperCase observations := by
  induction observations using List.reverseRecOn with
  | nil => rfl
  | append_singleton observations o ih =>
      rw [List.foldl_append, ih]
      exact step_after observations o

/-! ## Snapshots -/

/-- The observations with the key of one are those of its pair. -/
theorem under_key (o : Observation) (observations : List Observation) :
    under (Observation.key toUpperCase) (o.key toUpperCase) observations =
      under (Observation.series toUpperCase) (o.series toUpperCase) observations := by
  unfold under
  refine List.filter_congr ?_
  intro o' _
  rw [decide_eq_decide]
  unfold Observation.key Observation.series
  rw [metricKey_inj, Prod.mk.injEq]

theorem mem_entries {observations : List Observation} {entry : String × MetricWindow} :
    entry ∈ (observeAll toUpperCase observations).entries ↔
      ∃ o ∈ observations, entry = (o.key toUpperCase, .after toUpperCase
        (under (Observation.series toUpperCase) (o.series toUpperCase) observations)) := by
  have hexact : Exact .empty (Observation.key toUpperCase) (Observation.step toUpperCase)
      observations (observeAll toUpperCase observations).entries :=
    entries_observeAll observations ▸ exact_run observations
  have hstate : ∀ e ∈ (observeAll toUpperCase observations).entries, ∀ o : Observation,
      o.key toUpperCase = e.1 → e.2 = .after toUpperCase
        (under (Observation.series toUpperCase) (o.series toUpperCase) observations) := by
    intro e he o hkey
    rw [hexact.states e he, foldl_step, ← hkey, under_key]
  constructor
  · intro hentry
    obtain ⟨o, ho, hkey⟩ := List.mem_map.mp ((hexact.mem_keys _).mp (List.mem_map_of_mem hentry))
    exact ⟨o, ho, Prod.ext hkey.symm (hstate entry hentry o hkey)⟩
  · rintro ⟨o, ho, rfl⟩
    obtain ⟨e, he, hkey⟩ := List.mem_map.mp ((hexact.mem_keys _).mpr (List.mem_map_of_mem ho))
    rw [← hkey, ← hstate e he o hkey.symm]
    exact he

/-- The scope and the name that are read off a key. -/
def seriesOfKey (key : String) : String × String :=
  ((split key ':').headD "", join (split key ':').tail ':')

theorem seriesOfKey_key (o : Observation) :
    seriesOfKey (o.key toUpperCase) = o.series toUpperCase := by
  unfold seriesOfKey Observation.key Observation.series
  rw [split_metricKey, List.headD_cons, List.tail_cons, join_split]

/-- The scope and the name of a snapshot. -/
def MetricSnapshot.series (m : MetricSnapshot) : String × String := (m.scope, m.name)

theorem series_snapshotOf (key : String) (window : MetricWindow) :
    (snapshotOf key window).series = seriesOfKey key := rfl

/-- The snapshots of a run. -/
def metricSnapshots (toUpperCase : String → String) (localeCompare : String → String → ℤ)
    (observations : List Observation) : List MetricSnapshot :=
  getMetricSnapshots localeCompare (observeAll toUpperCase observations)

variable {localeCompare : String → String → ℤ}

theorem metricSnapshots_perm (observations : List Observation) :
    (metricSnapshots toUpperCase localeCompare observations).Perm
      ((observeAll toUpperCase observations).entries.map fun entry =>
        snapshotOf entry.1 entry.2) :=
  List.perm_insertionSort _ _

theorem mem_metricSnapshots {observations : List Observation} {m : MetricSnapshot} :
    m ∈ metricSnapshots toUpperCase localeCompare observations ↔
      ∃ o ∈ observations, m = snapshotOf (o.key toUpperCase) (.after toUpperCase
        (under (Observation.series toUpperCase) (o.series toUpperCase) observations)) := by
  rw [(metricSnapshots_perm observations).mem_iff, List.mem_map]
  constructor
  · rintro ⟨entry, hentry, rfl⟩
    obtain ⟨o, ho, rfl⟩ := mem_entries.mp hentry
    exact ⟨o, ho, rfl⟩
  · rintro ⟨o, ho, rfl⟩
    exact ⟨_, mem_entries.mpr ⟨o, ho, rfl⟩, rfl⟩

theorem nodup_metricSnapshots (observations : List Observation) :
    ((metricSnapshots toUpperCase localeCompare observations).map MetricSnapshot.series).Nodup := by
  have hkeys : ((observeAll toUpperCase observations).entries.map fun entry =>
      snapshotOf entry.1 entry.2).map MetricSnapshot.series =
      ((observeAll toUpperCase observations).entries.map Prod.fst).map seriesOfKey := by
    rw [List.map_map, List.map_map]
    exact List.map_congr_left fun entry _ => series_snapshotOf entry.1 entry.2
  rw [((metricSnapshots_perm observations).map MetricSnapshot.series).nodup_iff, hkeys]
  refine (observeAll toUpperCase observations).nodup.map_on ?_
  intro key hkey key' hkey' hseries
  obtain ⟨entry, hentry, rfl⟩ := List.mem_map.mp hkey
  obtain ⟨entry', hentry', rfl⟩ := List.mem_map.mp hkey'
  obtain ⟨o, -, rfl⟩ := mem_entries.mp hentry
  obtain ⟨o', -, rfl⟩ := mem_entries.mp hentry'
  rw [seriesOfKey_key, seriesOfKey_key] at hseries
  exact metricKey_inj.mpr (Prod.mk.inj hseries)

/-- The metrics of a pair, by its observations, and its window in the store. -/
structure Counts (toUpperCase : String → String) (store : MetricStore)
    (observations : List Observation) (m : MetricSnapshot) : Prop where
  requests : m.requestCount = min observations.length (2 ^ 53)
  errors : m.errorCount = min (observations.countP (Observation.isError toUpperCase)) (2 ^ 53)
  window : ∃ window, store.get (m.scope ++ ":" ++ m.name) = some window ∧
    window.latenciesMs =
      (observations.map Observation.latencyMs).rtake (min observations.length 512) ∧
    m.p95LatencyMs = calculateP95 window.latenciesMs

/-- For every run of HTTP requests and gRPC calls, whatever their routes, paths and names are:
one snapshot for each pair of a scope and a name, with the counts up to `2 ^ 53` and the last
latencies of its observations. -/
theorem metricSnapshots_exact (toUpperCase : String → String)
    (localeCompare : String → String → ℤ) (observations : List Observation) :
    ((metricSnapshots toUpperCase localeCompare observations).map MetricSnapshot.series).Nodup ∧
    (∀ pair, pair ∈ (metricSnapshots toUpperCase localeCompare observations).map
      MetricSnapshot.series ↔ pair ∈ observations.map (Observation.series toUpperCase)) ∧
    ∀ m ∈ metricSnapshots toUpperCase localeCompare observations,
      Counts toUpperCase (observeAll toUpperCase observations)
        (under (Observation.series toUpperCase) m.series observations) m := by
  refine ⟨nodup_metricSnapshots observations, ?_, ?_⟩
  · intro pair
    rw [List.mem_map, List.mem_map]
    constructor
    · rintro ⟨m, hm, rfl⟩
      obtain ⟨o, ho, rfl⟩ := mem_metricSnapshots.mp hm
      exact ⟨o, ho, (seriesOfKey_key o).symm⟩
    · rintro ⟨o, ho, rfl⟩
      exact ⟨_, mem_metricSnapshots.mpr ⟨o, ho, rfl⟩, seriesOfKey_key o⟩
  · intro m hm
    obtain ⟨o, ho, rfl⟩ := mem_metricSnapshots.mp hm
    have hseries : MetricSnapshot.series (snapshotOf (o.key toUpperCase) (.after toUpperCase
        (under (Observation.series toUpperCase) (o.series toUpperCase) observations))) =
        o.series toUpperCase := seriesOfKey_key o
    rw [hseries]
    refine ⟨rfl, rfl, .after toUpperCase (under (Observation.series toUpperCase)
      (o.series toUpperCase) observations), ?_, ?_, ?_⟩
    · obtain ⟨hscope, hname⟩ := Prod.mk.inj hseries
      rw [hscope, hname]
      exact (lookup_eq_some (observeAll toUpperCase observations).nodup).mpr
        (mem_entries.mpr ⟨o, ho, rfl⟩)
    · have hwindow := rtake_min 512 ((under (Observation.series toUpperCase)
        (o.series toUpperCase) observations).map Observation.latencyMs)
      rw [List.length_map] at hwindow
      rw [hwindow]
      dsimp only [MetricWindow.after]
    · dsimp only [snapshotOf]

/-! ### A count that is full -/

/-- A call without a method name that succeeds at once. -/
def shortCall : Observation := .grpc ⟨"OK", none, "", 0, none⟩ 0 "id"

/-- After `2 ^ 53 + 1` calls of a method `2 ^ 53` are counted. -/
theorem requestCount_stops :
    (under (Observation.series String.toUpper) ("grpc", "unknown")
      (List.replicate (2 ^ 53 + 1) shortCall)).length = 2 ^ 53 + 1 ∧
    ∃ m ∈ metricSnapshots String.toUpper (fun _ _ => 0) (List.replicate (2 ^ 53 + 1) shortCall),
      m.series = ("grpc", "unknown") ∧ m.requestCount = 2 ^ 53 := by
  have hseries : shortCall.series String.toUpper = ("grpc", "unknown") := by decide +kernel
  have hcalls : (under (Observation.series String.toUpper) ("grpc", "unknown")
      (List.replicate (2 ^ 53 + 1) shortCall)).length = 2 ^ 53 + 1 := by
    unfold under
    rw [List.filter_replicate, if_pos (by simp [hseries]), List.length_replicate]
  have hmem : shortCall ∈ List.replicate (2 ^ 53 + 1) shortCall :=
    List.mem_replicate.mpr ⟨Nat.succ_ne_zero _, rfl⟩
  refine ⟨hcalls, _, mem_metricSnapshots.mpr ⟨shortCall, hmem, rfl⟩, ?_, ?_⟩
  · exact (seriesOfKey_key shortCall).trans hseries
  · show min (under _ _ _).length _ = _
    rw [hseries, hcalls]
    rfl

end Observability

end Client

end HistoryQuiz
