import HistoryQuiz.Backend.Observability
import HistoryQuiz.Base.Table

/-!
# The metrics of a run of the backend

After any calls of `RecordRPC` a snapshot has one entry for each normalised method name, and the
entry is made of the calls of that name alone (`metrics_exact`). The counters are those of a
`uint64`, so they are the numbers of calls as long as there are fewer than `2 ^ 64` of them
(`requestCount_wraps`).
-/

namespace HistoryQuiz

namespace Observability

open Relational Series

/-- A call of `RecordRPC`. -/
structure RpcRecord where
  method : String
  code : UInt32
  latency : ℤ

def RpcRecord.name (r : RpcRecord) : String := normalizeMethodName r.method

/-- The call. -/
def RpcRecord.apply (c : Option Collector) (r : RpcRecord) : Option Collector :=
  recordRPC c r.method r.code r.latency

/-- A run from a new collector. -/
def recordAll (maxLatencySamples : ℤ) (records : List RpcRecord) : Option Collector :=
  records.foldl RpcRecord.apply (newCollector maxLatencySamples)

/-- The entries of the snapshot after a run. -/
def metrics (maxLatencySamples : ℤ) (scan : ℕ → ℕ) (now : ℤ) (records : List RpcRecord) :
    List MethodMetricsSnapshot :=
  (snapshot scan now (recordAll maxLatencySamples records)).methods

/-- The step of a method's state. -/
def RpcRecord.step (maxLatencySamples : ℤ) (state : MethodMetricsState) (r : RpcRecord) :
    MethodMetricsState :=
  state.record maxLatencySamples r.code (toLatencyMs r.latency)

/-! ## The state of a method -/

/-- What the calls of one method lead to. -/
def MethodMetricsState.after (maxLatencySamples : ℤ) (calls : List RpcRecord) :
    MethodMetricsState where
  requestCount := UInt64.ofNat calls.length
  errorCount := UInt64.ofNat (calls.countP fun r => isErrorCode r.code)
  latencySamples := (calls.map fun r => toLatencyMs r.latency).rtake maxLatencySamples.toNat

theorem step_after {maxLatencySamples : ℤ} (hmax : 0 < maxLatencySamples)
    (calls : List RpcRecord) (r : RpcRecord) :
    r.step maxLatencySamples (.after maxLatencySamples calls) =
      .after maxLatencySamples (calls ++ [r]) := by
  have hwindow : appendLatencySample
      ((calls.map fun r => toLatencyMs r.latency).rtake maxLatencySamples.toNat)
      (toLatencyMs r.latency) maxLatencySamples =
      ((calls ++ [r]).map fun r => toLatencyMs r.latency).rtake maxLatencySamples.toNat := by
    rw [appendLatencySample_eq_push hmax, push_rtake (by omega), List.map_append,
      List.map_singleton]
  unfold RpcRecord.step MethodMetricsState.record MethodMetricsState.after
  rw [hwindow, List.length_append, List.countP_append, List.countP_singleton]
  congr 1
  · exact (UInt64.ofNat_add _ _).symm
  · split_ifs
    · exact (UInt64.ofNat_add _ _).symm
    · rfl

theorem foldl_step {maxLatencySamples : ℤ} (hmax : 0 < maxLatencySamples)
    (calls : List RpcRecord) :
    calls.foldl (RpcRecord.step maxLatencySamples) {} = .after maxLatencySamples calls := by
  induction calls using List.reverseRecOn with
  | nil => simp [MethodMetricsState.after, List.rtake]
  | append_singleton calls r ih =>
      rw [List.foldl_append, ih]
      exact step_after hmax calls r

/-! ## The collector of a run -/

/-- The collector of a run holds the series of its records. -/
theorem recordAll_entries {maxLatencySamples : ℤ} (hmax : 0 < maxLatencySamples)
    (records : List RpcRecord) :
    ∃ c, recordAll maxLatencySamples records = some c ∧
      c.maxLatencySamples = maxLatencySamples ∧
      c.entries = run {} RpcRecord.name (RpcRecord.step maxLatencySamples) records := by
  induction records using List.reverseRecOn with
  | nil => exact ⟨_, rfl, if_neg (by omega), rfl⟩
  | append_singleton records r ih =>
      obtain ⟨c, hrun, hsize, hentries⟩ := ih
      unfold recordAll at hrun ⊢
      rw [List.foldl_append, hrun]
      refine ⟨_, rfl, ?_, ?_⟩
      · exact (c.maxLatencySamples_pointerTo _).trans hsize
      · rw [c.entries_record, c.maxLatencySamples_pointerTo, hsize, hentries]
        unfold run
        rw [List.foldl_append]
        rfl

/-! ## The snapshot of a run -/

theorem snapshot_methods (scan : ℕ → ℕ) (now : ℤ) (c : Collector) :
    (snapshot scan now (some c)).methods =
      orderBy (fun a b => a.method ≤ b.method) scan
        (c.entries.map fun entry => entry.2.snapshot entry.1) := by
  unfold snapshot Collector.entries
  rw [List.map_map]
  rfl

section Run

variable {maxLatencySamples : ℤ} {scan : ℕ → ℕ} {now : ℤ} {records : List RpcRecord}

theorem mem_metrics (hmax : 0 < maxLatencySamples) {m : MethodMetricsSnapshot} :
    m ∈ metrics maxLatencySamples scan now records ↔
      m.method ∈ records.map RpcRecord.name ∧
      m = (MethodMetricsState.after maxLatencySamples
        (under RpcRecord.name m.method records)).snapshot m.method := by
  obtain ⟨c, hrun, -, hentries⟩ := recordAll_entries hmax records
  have hexact : Exact {} RpcRecord.name (RpcRecord.step maxLatencySamples) records c.entries :=
    hentries ▸ exact_run records
  have hstates : ∀ entry ∈ c.entries,
      entry.2 = .after maxLatencySamples (under RpcRecord.name entry.1 records) :=
    fun entry hentry => (hexact.states entry hentry).trans (foldl_step hmax _)
  unfold metrics
  rw [hrun, snapshot_methods, mem_orderBy, List.mem_map]
  constructor
  · rintro ⟨entry, hentry, rfl⟩
    refine ⟨(hexact.mem_keys _).mp (List.mem_map_of_mem hentry), ?_⟩
    exact congrArg (MethodMetricsState.snapshot entry.1) (hstates entry hentry)
  · rintro ⟨hname, hm⟩
    obtain ⟨entry, hentry, hkey⟩ := List.mem_map.mp ((hexact.mem_keys _).mpr hname)
    refine ⟨entry, hentry, ?_⟩
    rw [hstates entry hentry, hkey]
    exact hm.symm

/-- A name that was recorded has its entry. -/
theorem snapshot_mem_metrics (hmax : 0 < maxLatencySamples) {name : String}
    (hname : name ∈ records.map RpcRecord.name) :
    (MethodMetricsState.after maxLatencySamples (under RpcRecord.name name records)).snapshot name ∈
      metrics maxLatencySamples scan now records :=
  (mem_metrics hmax).mpr ⟨hname, rfl⟩

theorem metrics_pairwise (hmax : 0 < maxLatencySamples) :
    ((metrics maxLatencySamples scan now records).map MethodMetricsSnapshot.method).Pairwise
      (· < ·) := by
  obtain ⟨c, hrun, -, hentries⟩ := recordAll_entries hmax records
  unfold metrics
  rw [hrun, snapshot_methods]
  set unsorted := c.entries.map fun entry => entry.2.snapshot entry.1 with hunsorted
  have hnodup : (unsorted.map MethodMetricsSnapshot.method).Nodup := by
    have hkeys := c.nodup
    rw [← c.map_fst_entries] at hkeys
    rwa [hunsorted, List.map_map]
  have hsorted : (orderBy (fun a b : MethodMetricsSnapshot => a.method ≤ b.method) scan
      unsorted).Pairwise fun a b => a.method ≤ b.method := by
    have : Std.Total fun a b : MethodMetricsSnapshot => a.method ≤ b.method :=
      ⟨fun a b => le_total a.method b.method⟩
    have : IsTrans MethodMetricsSnapshot fun a b => a.method ≤ b.method :=
      ⟨fun _ _ _ hab hbc => hab.trans hbc⟩
    exact orderBy_pairwise _ scan unsorted
  have hdistinct := ((orderBy_perm (fun a b : MethodMetricsSnapshot => a.method ≤ b.method) scan
    unsorted).map MethodMetricsSnapshot.method).nodup_iff.mpr hnodup
  refine List.Pairwise.imp₂ (fun a b hle hne => lt_of_le_of_ne hle hne) ?_ hdistinct
  exact List.pairwise_map.mpr hsorted

end Run

/-- The metrics of a method, by its calls. -/
structure Counts (maxLatencySamples : ℤ) (calls : List RpcRecord) (m : MethodMetricsSnapshot) :
    Prop where
  requests : m.requestCount.toNat = calls.length % 2 ^ 64
  errors : m.errorCount.toNat = (calls.countP fun r => isErrorCode r.code) % 2 ^ 64
  errors_le : calls.length < 2 ^ 64 → m.errorCount ≤ m.requestCount
  percentile : m.p95LatencyMs = calculateP95 ((calls.map fun r => toLatencyMs r.latency).rtake
    (min calls.length maxLatencySamples.toNat))

theorem counts_after (maxLatencySamples : ℤ) (calls : List RpcRecord) (name : String) :
    Counts maxLatencySamples calls
      ((MethodMetricsState.after maxLatencySamples calls).snapshot name) := by
  refine ⟨UInt64.toNat_ofNat', UInt64.toNat_ofNat', ?_, ?_⟩
  · intro hfew
    have hle : (calls.countP fun r => isErrorCode r.code) ≤ calls.length := List.countP_le_length
    show UInt64.ofNat _ ≤ UInt64.ofNat _
    rw [UInt64.le_iff_toNat_le, UInt64.toNat_ofNat', UInt64.toNat_ofNat', Nat.mod_eq_of_lt hfew,
      Nat.mod_eq_of_lt (lt_of_le_of_lt hle hfew)]
    exact hle
  · have hwindow := rtake_min maxLatencySamples.toNat (calls.map fun r => toLatencyMs r.latency)
    rw [List.length_map] at hwindow
    rw [hwindow]
    rfl

/-- For every size of the window and every run of calls, and any order of the map: one entry for
each normalised name, in increasing order, with the counts modulo `2 ^ 64` and the percentile of
the last latencies of its calls; and one more call leaves the entries of the other names as they
are. -/
theorem metrics_exact {maxLatencySamples : ℤ} (hmax : 0 < maxLatencySamples)
    (scan : ℕ → ℕ) (now : ℤ) (records : List RpcRecord) :
    ((metrics maxLatencySamples scan now records).map MethodMetricsSnapshot.method).Pairwise
      (· < ·) ∧
    (∀ name, name ∈ (metrics maxLatencySamples scan now records).map
      MethodMetricsSnapshot.method ↔ name ∈ records.map RpcRecord.name) ∧
    (∀ m ∈ metrics maxLatencySamples scan now records,
      Counts maxLatencySamples (under RpcRecord.name m.method records) m) ∧
    ∀ r scan' now' m, m.method ≠ r.name →
      (m ∈ metrics maxLatencySamples scan' now' (records ++ [r]) ↔
        m ∈ metrics maxLatencySamples scan now records) := by
  refine ⟨metrics_pairwise hmax, ?_, ?_, ?_⟩
  · intro name
    rw [List.mem_map]
    constructor
    · rintro ⟨m, hm, rfl⟩
      exact ((mem_metrics hmax).mp hm).1
    · intro hname
      exact ⟨_, snapshot_mem_metrics hmax hname, rfl⟩
  · intro m hm
    rw [((mem_metrics hmax).mp hm).2]
    exact counts_after _ _ _
  · intro r scan' now' m hne
    rw [mem_metrics hmax, mem_metrics hmax, under_append, if_neg (Ne.symm hne), List.append_nil,
      List.map_append, List.mem_append, List.map_singleton, List.mem_singleton]
    rw [or_iff_left hne]

/-! ### Windows and counters that are full -/

/-- Four calls, one of them with white space around its method. -/
def listCalls : List RpcRecord :=
  [⟨"/ListMyQuestions", 0, 10000000⟩, ⟨"/ListMyQuestions", 0, 20000000⟩,
    ⟨" /ListMyQuestions", 13, 30000000⟩, ⟨"/ListMyQuestions", 0, 40000000⟩]

/-- They are counted in a window of three samples. -/
theorem metrics_exact_window : ∃ m ∈ metrics 3 id 0 listCalls, m.method = "/ListMyQuestions" ∧
    Counts 3 (under RpcRecord.name "/ListMyQuestions" listCalls) m := by
  obtain ⟨-, hnames, hcounts, -⟩ := metrics_exact (show (0 : ℤ) < 3 by decide) id 0 listCalls
  obtain ⟨m, hm, hmethod⟩ := List.mem_map.mp ((hnames "/ListMyQuestions").mpr
    (List.mem_map.mpr ⟨_, List.mem_cons_self, by decide +kernel⟩))
  rw [← hmethod]
  exact ⟨m, hm, rfl, hcounts m hm⟩

/-- A call without a name that succeeds in a millisecond. -/
def shortCall : RpcRecord := ⟨"", 0, 1000000⟩

/-- After `2 ^ 64` calls of a method its counter is `0`. -/
theorem requestCount_wraps :
    (under RpcRecord.name "unknown" (List.replicate (2 ^ 64) shortCall)).length = 2 ^ 64 ∧
    ∃ m ∈ metrics 512 id 0 (List.replicate (2 ^ 64) shortCall),
      m.method = "unknown" ∧ m.requestCount = 0 := by
  have hname : shortCall.name = "unknown" := by decide +kernel
  have hcalls : (under RpcRecord.name "unknown" (List.replicate (2 ^ 64) shortCall)).length =
      2 ^ 64 := by
    unfold under
    rw [List.filter_replicate, if_pos (by simp [hname]), List.length_replicate]
  have hrecorded : "unknown" ∈ (List.replicate (2 ^ 64) shortCall).map RpcRecord.name := by
    rw [List.map_replicate, hname]
    exact List.mem_replicate.mpr ⟨by decide, rfl⟩
  refine ⟨hcalls, _, snapshot_mem_metrics (by decide) hrecorded, rfl, ?_⟩
  show UInt64.ofNat (under RpcRecord.name "unknown" _).length = 0
  rw [hcalls]
  rfl

end Observability

end HistoryQuiz
