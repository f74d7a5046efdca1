import HistoryQuiz.Backend.QuestionUsecase
import HistoryQuiz.Base.Rounding
import HistoryQuiz.Base.Series
import Mathlib.Data.String.Basic

/-!
# The metrics of the backend

`backend/internal/infrastructure/observability/collector.go`: calls, errors and a window of
latencies for each method. The map goes from method names to pointers; the states that they
point to are kept in the order of their allocation, so that the pointers of a collector are
`0, 1, …`.

`Collector.entries` is what the map and the pointers stand for, a keyed series, and a record is a
record of that series (`entries_record`).
-/

namespace HistoryQuiz

open Relational QuestionUsecase

namespace Observability

def defaultMaxLatencySamples : ℤ := 512

/-- The finite values of `float64`; operations round to `53` bits. -/
abbrev Float64 := ℚ

/-- `float64(n)`. -/
def float64 (n : ℤ) : Float64 := Rounding.nearest 53 n

structure MethodMetricsSnapshot where
  method : String
  requestCount : UInt64
  errorCount : UInt64
  errorRate : Float64
  p95LatencyMs : Float64
deriving DecidableEq

/-- The time of a snapshot is in nanoseconds. -/
structure CollectorSnapshot where
  collectedAt : ℤ
  methods : List MethodMetricsSnapshot
deriving DecidableEq

structure MethodMetricsState where
  requestCount : UInt64 := 0
  errorCount : UInt64 := 0
  latencySamples : List Float64 := []

/-! ## Small functions -/

/-- `normalizeMethodName`. -/
def normalizeMethodName (method : String) : String :=
  let trimmed := trimSpace method
  if trimmed = "" then "unknown" else trimmed

/-- `isErrorCode`: any code but `codes.OK`. -/
def isErrorCode (code : UInt32) : Bool := code != 0

/-- The built-in `copy`: the front of `dst` becomes that of `src`. -/
def copy {α : Type} (dst src : List α) : List α := src.take dst.length ++ dst.drop src.length

/-- `appendLatencySample`. -/
def appendLatencySample (samples : List Float64) (latencyMs : Float64) (maxSamples : ℤ) :
    List Float64 :=
  if maxSamples ≤ 0 then [latencyMs]
  else if samples.length < maxSamples then samples ++ [latencyMs]
  else (copy samples (samples.drop 1)).set (samples.length - 1) latencyMs

/-- The index that `calculateP95` takes, by what the product of the length and `0.95` is. -/
def p95Index (product : ℚ) (length : ℕ) : ℤ :=
  let index := ⌈product⌉ - 1
  let index := if index < 0 then 0 else index
  if index ≥ length then (length : ℤ) - 1 else index

/-- `calculateP95`, by what `times95` makes of a length. -/
def calculateP95By (times95 : ℕ → ℚ) (samples : List Float64) : Float64 :=
  if samples.length = 0 then 0
  else
    let copied := samples.insertionSort (· ≤ ·)
    let index := p95Index (times95 copied.length) copied.length
    copied.getD index.toNat 0

/-- `float64(n)*0.95`. -/
def float64Times95 (n : ℕ) : Float64 :=
  Rounding.nearest 53 (float64 n * Rounding.nearest 53 (95 / 100))

/-- `calculateP95`. -/
def calculateP95 (samples : List Float64) : Float64 := calculateP95By float64Times95 samples

/-- The shift in place drops the oldest sample. -/
theorem appendLatencySample_eq_push {maxSamples : ℤ} (hmax : 0 < maxSamples)
    (samples : List Float64) (latencyMs : Float64) :
    appendLatencySample samples latencyMs maxSamples =
      Series.push maxSamples.toNat samples latencyMs := by
  unfold appendLatencySample Series.push
  rw [if_neg (by omega)]
  by_cases hroom : (samples.length : ℤ) < maxSamples
  · rw [if_pos hroom, if_pos (by omega)]
  · rw [if_neg hroom, if_neg (by omega)]
    obtain _ | ⟨first, rest⟩ := samples
    · exact absurd hmax hroom
    · -- the last place is written twice: by the copy and with the new sample
      have hcopy : copy (first :: rest) rest = rest ++ (first :: rest).drop rest.length := by
        unfold copy
        rw [List.take_of_length_le (by simp)]
      have hlast : ((first :: rest).drop rest.length).length = 1 := by simp
      obtain ⟨last, hlast⟩ := List.length_eq_one_iff.mp hlast
      rw [List.drop_one, List.tail_cons, hcopy, hlast, List.length_cons, Nat.add_sub_cancel,
        List.set_append_right _ _ (le_refl _), Nat.sub_self]
      rfl

/-! ## The collector -/

structure Collector where
  maxLatencySamples : ℤ
  byMethod : List (String × ℕ)
  states : List MethodMetricsState
  /-- A map has a key once. -/
  nodup : (byMethod.map Prod.fst).Nodup
  /-- Each entry has a state of its own. -/
  pointers : byMethod.map Prod.snd = List.range states.length

/-- `NewCollector`. -/
def newCollector (maxLatencySamples : ℤ) : Option Collector :=
  some {
    maxLatencySamples :=
      if maxLatencySamples ≤ 0 then defaultMaxLatencySamples else maxLatencySamples
    byMethod := []
    states := []
    nodup := List.nodup_nil
    pointers := rfl }

/-- What a pointer points to. -/
def Collector.deref (c : Collector) (pointer : ℕ) : MethodMetricsState := c.states.getD pointer {}

/-- An empty state for a new method. -/
def Collector.allocate (c : Collector) (method : String)
    (h : method ∉ c.byMethod.map Prod.fst) : Collector where
  maxLatencySamples := c.maxLatencySamples
  byMethod := c.byMethod ++ [(method, c.states.length)]
  states := c.states ++ [{}]
  nodup := by
    rw [List.map_append, List.map_singleton, ← List.concat_eq_append]
    exact c.nodup.concat h
  pointers := by
    rw [List.map_append, c.pointers, List.length_append, List.length_singleton, List.range_succ]
    rfl

/-- The pointer of a method, after an allocation if the map has none. -/
def Collector.pointerTo (c : Collector) (method : String) : Collector × ℕ :=
  match h : c.byMethod.lookup method with
  | some pointer => (c, pointer)
  | none => (c.allocate method (Series.lookup_eq_none.mp h), c.states.length)

theorem Collector.maxLatencySamples_pointerTo (c : Collector) (method : String) :
    (c.pointerTo method).1.maxLatencySamples = c.maxLatencySamples := by
  unfold pointerTo
  split
  · rfl
  · rfl

/-- A write through a pointer. -/
def Collector.write (c : Collector) (pointer : ℕ) (f : MethodMetricsState → MethodMetricsState) :
    Collector where
  maxLatencySamples := c.maxLatencySamples
  byMethod := c.byMethod
  states := c.states.modify pointer f
  nodup := c.nodup
  pointers := by rw [List.length_modify, c.pointers]

/-- `float64(latency.Microseconds()) / 1000.0`, of a duration in nanoseconds. -/
def toLatencyMs (latency : ℤ) : Float64 := Rounding.nearest 53 (float64 (latency.tdiv 1000) / 1000)

/-- The assignments to a state that `RecordRPC` makes. -/
def MethodMetricsState.record (maxLatencySamples : ℤ) (code : UInt32) (latencyMs : Float64)
    (state : MethodMetricsState) : MethodMetricsState where
  requestCount := state.requestCount + 1
  errorCount := if isErrorCode code then state.errorCount + 1 else state.errorCount
  latencySamples := appendLatencySample state.latencySamples latencyMs maxLatencySamples

/-- `RecordRPC`. -/
def recordRPC (c : Option Collector) (method : String) (code : UInt32) (latency : ℤ) :
    Option Collector :=
  c.map fun c =>
    let normalizedMethod := normalizeMethodName method
    let latencyMs := toLatencyMs latency
    let (c, state) := c.pointerTo normalizedMethod
    c.write state (MethodMetricsState.record c.maxLatencySamples code latencyMs)

/-- The metrics of a state. -/
def MethodMetricsState.snapshot (method : String) (state : MethodMetricsState) :
    MethodMetricsSnapshot where
  method := method
  requestCount := state.requestCount
  errorCount := state.errorCount
  errorRate :=
    if state.requestCount > 0 then
      Rounding.nearest 53 (float64 state.errorCount.toNat / float64 state.requestCount.toNat)
    else 0
  p95LatencyMs := calculateP95 state.latencySamples

/-- `Snapshot`; `scan` is the order in which the loop goes through the map. Strings are ordered
by their bytes, which for UTF-8 is the order of their characters. -/
def snapshot (scan : ℕ → ℕ) (now : ℤ) : Option Collector → CollectorSnapshot
  | none => ⟨now, []⟩
  | some c =>
      let methods := c.byMethod.map fun (method, state) => (c.deref state).snapshot method
      ⟨now, orderBy (fun a b => a.method ≤ b.method) scan methods⟩

/-! ## The series -/

/-- The state of each method. -/
def Collector.entries (c : Collector) : List (String × MethodMetricsState) :=
  c.byMethod.map fun (method, state) => (method, c.deref state)

theorem Collector.map_fst_entries (c : Collector) :
    c.entries.map Prod.fst = c.byMethod.map Prod.fst := by
  unfold entries
  rw [List.map_map]
  rfl

theorem Collector.pointer_lt (c : Collector) {entry : String × ℕ} (h : entry ∈ c.byMethod) :
    entry.2 < c.states.length := by
  have hmem := List.mem_map_of_mem (f := Prod.snd) h
  rwa [c.pointers, List.mem_range] at hmem

/-- A pointer belongs to one method. -/
theorem Collector.pointer_eq_iff (c : Collector) {entry entry' : String × ℕ}
    (h : entry ∈ c.byMethod) (h' : entry' ∈ c.byMethod) :
    entry.2 = entry'.2 ↔ entry.1 = entry'.1 := by
  have hpointers : (c.byMethod.map Prod.snd).Nodup := c.pointers ▸ List.nodup_range
  constructor
  · intro hpointer
    rw [List.inj_on_of_nodup_map hpointers h h' hpointer]
  · intro hmethod
    rw [List.inj_on_of_nodup_map c.nodup h h' hmethod]

theorem Collector.entries_write (c : Collector) {entry : String × ℕ} (h : entry ∈ c.byMethod)
    (f : MethodMetricsState → MethodMetricsState) :
    (c.write entry.2 f).entries = Series.record {} f entry.1 c.entries := by
  have hmem : entry.1 ∈ c.entries.map Prod.fst := by
    rw [c.map_fst_entries]
    exact List.mem_map_of_mem h
  unfold Series.record Series.upsert
  rw [if_pos hmem]
  unfold entries write deref
  rw [List.map_map]
  refine List.map_congr_left ?_
  intro entry' hentry'
  have hlt := c.pointer_lt hentry'
  by_cases hmethod : entry'.1 = entry.1
  · have hpointer := (c.pointer_eq_iff hentry' h).mpr hmethod
    rw [hpointer] at hlt
    simp [hmethod, hpointer, List.getD_eq_getElem?_getD, hlt]
  · have hpointer : entry.2 ≠ entry'.2 :=
      fun heq => hmethod ((c.pointer_eq_iff hentry' h).mp heq.symm)
    simp [hmethod, hpointer, List.getD_eq_getElem?_getD]

theorem Collector.entries_allocate (c : Collector) {method : String}
    (h : method ∉ c.byMethod.map Prod.fst) :
    (c.allocate method h).entries = c.entries ++ [(method, ⟨0, 0, []⟩)] := by
  unfold entries allocate deref
  rw [List.map_append, List.map_singleton]
  congr 1
  · refine List.map_congr_left ?_
    intro entry hentry
    simp [List.getD_eq_getElem?_getD, List.getElem?_append, c.pointer_lt hentry]
  · simp [List.getD_eq_getElem?_getD]

/-- Through the pointer of a method, its state alone is written. -/
theorem Collector.entries_record (c : Collector) (method : String)
    (f : MethodMetricsState → MethodMetricsState) :
    ((c.pointerTo method).1.write (c.pointerTo method).2 f).entries =
      Series.record {} f method c.entries := by
  unfold pointerTo
  split
  next pointer hlookup => exact c.entries_write ((Series.lookup_eq_some c.nodup).mp hlookup) f
  next hlookup =>
    have hnew := Series.lookup_eq_none.mp hlookup
    have hentry : (method, c.states.length) ∈ (c.allocate method hnew).byMethod :=
      List.mem_append_right _ (List.mem_singleton_self _)
    have hkeys : method ∉ c.entries.map Prod.fst := c.map_fst_entries ▸ hnew
    refine ((c.allocate method hnew).entries_write hentry f).trans ?_
    -- to record a new key is to allocate it and then to step it
    rw [c.entries_allocate]
    unfold Series.record Series.upsert
    rw [if_pos (by simp), if_neg hkeys, List.map_append, List.map_singleton, if_pos rfl]
    congr 1
    refine (List.map_congr_left ?_).trans (List.map_id _)
    intro entry hentry
    have hne : entry.1 ≠ method := fun heq => hkeys (heq ▸ List.mem_map_of_mem hentry)
    exact if_neg hne

end Observability

end HistoryQuiz
