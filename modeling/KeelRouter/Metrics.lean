import KeelRouter.CountingBody
import KeelRouter.SignalCollector
import Mathlib.Data.List.AList

/-!
# The metrics registry

The counters and gauges that the router registers by name and labels.  A counter
exists from its first increment on; it is 64 bits wide, which no run exhausts, and
a natural number here.  A gauge has the value it was last set to.  Histograms are
left out.
-/

namespace KeelRouter

/-- A metric's name, with the names and values of its labels. -/
structure MetricKey where
  name : String
  labels : List (String × String)
deriving DecidableEq

namespace MetricKey

/-- A metric of one backend. -/
abbrev ofBackend (name backend : String) : MetricKey := ⟨name, [("backend", backend)]⟩

abbrev occupancyTicks (backend : String) : MetricKey :=
  ofBackend "router_backend_occupancy_ticks_total" backend

abbrev ticksAtCeiling (backend : String) : MetricKey :=
  ofBackend "router_backend_ticks_at_ceiling_total" backend

end MetricKey

structure Registry where
  counters : AList fun _ : MetricKey => ℕ
  gauges : AList fun _ : MetricKey => ExactFloat

namespace Registry

variable (registry : Registry) (key other : MetricKey)

def empty : Registry where
  counters := ∅
  gauges := ∅

def count : ℕ := (registry.counters.lookup key).getD 0

def gauge : Option ExactFloat := registry.gauges.lookup key

/-- `counter.increment(1)` -/
def increment : Registry :=
  { registry with counters := registry.counters.insert key (registry.count key + 1) }

/-- `gauge.set(value)` -/
def set (value : ExactFloat) : Registry :=
  { registry with gauges := registry.gauges.insert key value }

@[simp]
theorem count_empty : empty.count key = 0 := by
  simp [count, empty]

theorem count_increment :
    (registry.increment other).count key = registry.count key + if key = other then 1 else 0 := by
  by_cases same : key = other
  · subst same
    simp [increment, count]
  · simp [increment, count, AList.lookup_insert_ne same, same]

@[simp]
theorem count_set (value : ExactFloat) : (registry.set other value).count key = registry.count key :=
  rfl

@[simp]
theorem gauge_set_self (value : ExactFloat) :
    (registry.set key value).gauge key = some value := by
  simp [set, gauge]

theorem gauge_set_of_ne {key other : MetricKey} (apart : key ≠ other) (value : ExactFloat) :
    (registry.set other value).gauge key = registry.gauge key := by
  simp [set, gauge, AList.lookup_insert_ne apart]

@[simp]
theorem gauge_increment : (registry.increment other).gauge key = registry.gauge key :=
  rfl

/-! ## Recording -/

/-- `record_request_result` -/
def recordRequestResult (ok : Bool) : Registry :=
  registry.increment ⟨"router_requests_total", [("result", if ok then "ok" else "error")]⟩

/-- `record_backend_error` -/
def recordBackendError (backend kind : String) : Registry :=
  registry.increment ⟨"router_backend_errors_total", [("backend", backend), ("kind", kind)]⟩

/-- `record_inflight` -/
def recordInflight (backend : String) (n : UInt32) : Registry :=
  registry.set (.ofBackend "router_backend_inflight" backend) (countAsFloat n)

/-- `record_occupancy` -/
def recordOccupancy (backend : String) (occupancy : ExactFloat) : Registry :=
  registry.set (.ofBackend "router_backend_occupancy" backend) occupancy

/-- `tokens as f64` -/
def tokensAsFloat (tokens : Int64) : ExactFloat :=
  .finite (tokens.toInt.sign * ExactFloat.roundNat tokens.toInt.natAbs)

/-- `record_kv_projected` -/
def recordKvProjected (backend : String) (tokens : Int64) : Registry :=
  registry.set (.ofBackend "router_backend_kv_projected" backend) (tokensAsFloat tokens)

/-- `record_occupancy_tick` up to its first counter -/
def recordTick (backend : String) : Registry := registry.increment (.occupancyTicks backend)

/-- The rest of `record_occupancy_tick` -/
def recordAtCeiling (backend : String) (atCeiling : Bool) : Registry :=
  if atCeiling then registry.increment (.ticksAtCeiling backend) else registry

/-- `record_scrape_result`, without the duration -/
def recordScrapeResult (backend result : String) : Registry :=
  registry.increment ⟨"router_signal_scrape_total", [("backend", backend), ("result", result)]⟩

/-- Set a gauge if there is a value for it. -/
def setReported (name backend : String) : Option ExactFloat → Registry
  | some value => registry.set (.ofBackend name backend) value
  | none => registry

/-- `as_secs_f64` -/
def seconds (nanoseconds : Nat) : ExactFloat := .finite (nanoseconds / 10 ^ 9)

/-- `record_scraped_metrics` -/
def recordScrapedMetrics (backend : String) (reported : ReportedLoad) (now : Instant) : Registry :=
  let aged := registry.set (.ofBackend "router_signal_age_seconds" backend)
    (seconds (now - reported.observedAt))
  let withUsage := aged.setReported "router_backend_reported_kv_usage" backend reported.kvUsagePerc
  let withRunning := withUsage.setReported "router_backend_num_running" backend
    (reported.numRunning.map countAsFloat)
  let withWaiting := withRunning.setReported "router_backend_num_waiting" backend
    (reported.numWaiting.map countAsFloat)
  let withHitRate := withWaiting.setReported "router_backend_prefix_hit_rate" backend
    reported.prefixHitRate
  withHitRate.setReported "router_backend_preemptions_total" backend
    (reported.preemptions.map fun preemptions => .finite (ExactFloat.roundNat preemptions.toNat))

/-- The gauge of `record_projection_drift` -/
def recordProjectionDrift (backend : String) (ratio : ExactFloat) : Registry :=
  registry.set (.ofBackend "router_projection_drift" backend) ratio

/-- A call of the request path. -/
def applyEffect : Effect → Registry
  | .recordBackendError backend kind => registry.recordBackendError backend kind
  | .recordRequestResult ok => registry.recordRequestResult ok
  | .countSaturatedDispatch => registry.increment ⟨"router_saturated_dispatches_total", []⟩
  | .recordPromptTokenRatio _ _ | .recordOutputLengthRatio _ _ | .observeRoute _ _ => registry

/-- A call of a collector. -/
def applySignal : SignalEffect → Registry
  | .recordScrapeResult backend result => registry.recordScrapeResult backend result
  | .recordScrapedMetrics backend reported now =>
      registry.recordScrapedMetrics backend reported now
  | .recordProjectionDrift backend ratio => registry.recordProjectionDrift backend ratio

/-! ## Counts -/

theorem count_recordTick (backend other : String) :
    (registry.recordTick backend).count (.occupancyTicks other) =
      registry.count (.occupancyTicks other) + if other = backend then 1 else 0 := by
  rw [recordTick, count_increment]
  simp

theorem count_recordTick_ceiling (backend other : String) :
    (registry.recordTick backend).count (.ticksAtCeiling other) =
      registry.count (.ticksAtCeiling other) := by
  rw [recordTick, count_increment]
  simp

theorem count_recordAtCeiling (backend other : String) (atCeiling : Bool) :
    (registry.recordAtCeiling backend atCeiling).count (.ticksAtCeiling other) =
      registry.count (.ticksAtCeiling other) + if other = backend ∧ atCeiling then 1 else 0 := by
  unfold recordAtCeiling
  cases atCeiling with
  | false => simp
  | true =>
      rw [if_pos rfl, count_increment]
      simp

theorem count_recordAtCeiling_ticks (backend other : String) (atCeiling : Bool) :
    (registry.recordAtCeiling backend atCeiling).count (.occupancyTicks other) =
      registry.count (.occupancyTicks other) := by
  unfold recordAtCeiling
  split
  · rw [count_increment]
    simp
  · rfl

/-! ## What a call leaves alone -/

/-- The counters of the request path. -/
def isRequestCounter (name : String) : Bool :=
  name = "router_requests_total" || name = "router_backend_errors_total" ||
    name = "router_saturated_dispatches_total"

/-- The two counters of the sampler. -/
def isTickCounter (name : String) : Bool :=
  name = "router_backend_occupancy_ticks_total" || name = "router_backend_ticks_at_ceiling_total"

variable {registry key}

theorem count_increment_of_name {name : String} (apart : key.name ≠ name)
    (labels : List (String × String)) :
    (registry.increment ⟨name, labels⟩).count key = registry.count key := by
  have other : key ≠ ⟨name, labels⟩ := by
    rintro rfl
    exact apart rfl
  rw [count_increment, if_neg other, Nat.add_zero]

theorem count_applyEffect (foreign : isRequestCounter key.name = false) (effect : Effect) :
    (registry.applyEffect effect).count key = registry.count key := by
  have apart {name : String} (request : isRequestCounter name = true) : key.name ≠ name := by
    rintro same
    rw [same, request] at foreign
    cases foreign
  cases effect with
  | recordBackendError backend kind => exact count_increment_of_name (apart (by decide)) _
  | recordRequestResult ok => exact count_increment_of_name (apart (by decide)) _
  | countSaturatedDispatch => exact count_increment_of_name (apart (by decide)) _
  | recordPromptTokenRatio | recordOutputLengthRatio | observeRoute => rfl

@[simp]
theorem count_setReported (name backend : String) (value : Option ExactFloat) :
    (registry.setReported name backend value).count key = registry.count key := by
  cases value <;> rfl

@[simp]
theorem count_recordScrapedMetrics (backend : String) (reported : ReportedLoad) (now : Instant) :
    (registry.recordScrapedMetrics backend reported now).count key = registry.count key := by
  simp [recordScrapedMetrics]

theorem count_applySignal (foreign : key.name ≠ "router_signal_scrape_total")
    (effect : SignalEffect) : (registry.applySignal effect).count key = registry.count key := by
  cases effect with
  | recordScrapeResult backend result => exact count_increment_of_name foreign _
  | recordScrapedMetrics backend reported now => exact count_recordScrapedMetrics _ _ _
  | recordProjectionDrift backend ratio => rfl

theorem not_isRequestCounter {name : String} (tick : isTickCounter name = true) :
    isRequestCounter name = false := by
  rcases of_decide_eq_true (by simpa [isTickCounter] using tick) with rfl | rfl <;> decide

theorem ne_scrapeTotal {name : String} (tick : isTickCounter name = true) :
    name ≠ "router_signal_scrape_total" := by
  rintro rfl
  exact absurd tick (by decide)

theorem count_foldl {α : Type} {apply : Registry → α → Registry}
    (kept : ∀ registry call, (apply registry call).count key = registry.count key)
    (calls : List α) : (calls.foldl apply registry).count key = registry.count key := by
  induction calls generalizing registry with
  | nil => rfl
  | cons call calls ih =>
      rw [List.foldl_cons, ih, kept]

/-! ## Whose counters there are -/

/-- The counters of the sampler belong to some backends, and all were incremented. -/
def CountsFor (registry : Registry) (served : String → Prop) : Prop :=
  ∀ key count, registry.counters.lookup key = some count → isTickCounter key.name = true →
    0 < count ∧ ∃ backend, served backend ∧ key = .ofBackend key.name backend

namespace CountsFor

variable {served : String → Prop}

theorem empty : Registry.empty.CountsFor served := by
  intro key count counted
  rw [Registry.empty, AList.lookup_empty] at counted
  cases counted

variable (counts : registry.CountsFor served)
include counts

theorem increment (own : isTickCounter key.name = true →
    ∃ backend, served backend ∧ key = .ofBackend key.name backend) :
    (registry.increment key).CountsFor served := by
  intro other count counted tick
  by_cases same : other = key
  · subst same
    rw [Registry.increment, AList.lookup_insert] at counted
    obtain rfl := Option.some.inj counted
    exact ⟨Nat.succ_pos _, own tick⟩
  · rw [Registry.increment, AList.lookup_insert_ne same] at counted
    exact counts other count counted tick

theorem increment_other {name : String} (other : isTickCounter name = false)
    (labels : List (String × String)) : (registry.increment ⟨name, labels⟩).CountsFor served := by
  apply counts.increment
  intro tick
  rw [other] at tick
  cases tick

theorem recordTick {backend : String} (own : served backend) :
    (registry.recordTick backend).CountsFor served :=
  counts.increment fun _ => ⟨backend, own, rfl⟩

theorem recordAtCeiling {backend : String} (own : served backend) (atCeiling : Bool) :
    (registry.recordAtCeiling backend atCeiling).CountsFor served := by
  unfold Registry.recordAtCeiling
  split
  · exact counts.increment fun _ => ⟨backend, own, rfl⟩
  · exact counts

theorem applyEffect (effect : Effect) : (registry.applyEffect effect).CountsFor served := by
  cases effect with
  | recordBackendError backend kind => exact counts.increment_other (by decide) _
  | recordRequestResult ok => exact counts.increment_other (by decide) _
  | countSaturatedDispatch => exact counts.increment_other (by decide) _
  | recordPromptTokenRatio | recordOutputLengthRatio | observeRoute => exact counts

theorem setReported (name backend : String) (value : Option ExactFloat) :
    (registry.setReported name backend value).CountsFor served := by
  cases value <;> exact counts

theorem applySignal (effect : SignalEffect) : (registry.applySignal effect).CountsFor served := by
  cases effect with
  | recordScrapeResult backend result => exact counts.increment_other (by decide) _
  | recordScrapedMetrics backend reported now =>
      apply setReported
      apply setReported
      apply setReported
      apply setReported
      apply setReported
      exact counts
  | recordProjectionDrift backend ratio => exact counts

omit counts in
theorem foldl {α : Type} {apply : Registry → α → Registry}
    (kept : ∀ registry call, registry.CountsFor served → (apply registry call).CountsFor served)
    (calls : List α) {registry : Registry} (counts : registry.CountsFor served) :
    (calls.foldl apply registry).CountsFor served := by
  induction calls generalizing registry with
  | nil => exact counts
  | cons call calls ih => exact ih (kept registry call counts)

end CountsFor

end Registry

end KeelRouter
