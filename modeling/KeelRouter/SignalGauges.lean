import KeelRouter.OccupancySampler

/-!
# The gauges of the reported load

The collector of a backend sets a gauge for every value of its reading.  A value
that a reading lacks leaves its gauge as it was: the gauges together need not show
any one reading.  The gauge of the age is set when the reading comes, and is zero
from then on.
-/

namespace KeelRouter

variable {F : Type}

/-! ## Readings -/

namespace Tick

/-- The reading of a round, and the counters for the next. -/
def parsed (prev : Option CounterSample) (tick : Tick) : Option (ReportedLoad × CounterSample) :=
  (fetchMetrics tick.attempt).toOption.map fun text => parseReported text tick.now prev

/-- How the round is counted. -/
def result (tick : Tick) : String :=
  match fetchMetrics tick.attempt with
  | .ok _ => "ok"
  | .error .timeout => "timeout"
  | .error _ => "error"

end Tick

/-- The counters after some rounds of a collector. -/
def windowAfter (prev : Option CounterSample) : List Tick → Option CounterSample
  | [] => prev
  | tick :: ticks => windowAfter (((tick.parsed prev).map Prod.snd).or prev) ticks

/-- The readings of some rounds of a collector, with the counters of the round before
the first. -/
def readings (prev : Option CounterSample) : List Tick → List ReportedLoad
  | [] => []
  | tick :: ticks =>
      ((tick.parsed prev).map Prod.fst).toList ++
        readings (((tick.parsed prev).map Prod.snd).or prev) ticks

theorem windowAfter_append (prev : Option CounterSample) (first second : List Tick) :
    windowAfter prev (first ++ second) = windowAfter (windowAfter prev first) second := by
  induction first generalizing prev with
  | nil => rfl
  | cons tick first ih => exact ih _

theorem readings_append (prev : Option CounterSample) (first second : List Tick) :
    readings prev (first ++ second) =
      readings prev first ++ readings (windowAfter prev first) second := by
  induction first generalizing prev with
  | nil => rfl
  | cons tick first ih =>
      rw [List.cons_append, readings, ih, readings, List.append_assoc]
      rfl

/-- The calls of a round with a reading. -/
def readingEffects (backend result : String) (load : ReportedLoad) (drift : Option ExactFloat) :
    List SignalEffect :=
  [.recordScrapeResult backend result, .recordScrapedMetrics backend load load.observedAt] ++
    (drift.map (.recordProjectionDrift backend)).toList

section Rounds

variable (maxSignalAge : Instant) (state : Collector) {tick : Tick}

theorem Collector.tick_of_parsed {load : ReportedLoad} {window : CounterSample}
    (parsed : tick.parsed state.prevSample = some (load, window)) :
    ∃ drift : Option ExactFloat, state.tick maxSignalAge tick =
      (⟨{ state.backend with reported := some load }, some window⟩,
        readingEffects state.backend.key tick.result load drift) := by
  unfold Tick.parsed at parsed
  unfold Collector.tick Tick.result
  cases fetched : fetchMetrics tick.attempt with
  | error reason =>
      rw [fetched] at parsed
      cases parsed
  | ok text =>
      rw [fetched] at parsed
      have pair : parseReported text tick.now state.prevSample = (load, window) :=
        Option.some.inj parsed
      have now : tick.now = load.observedAt := congrArg (fun read => read.1.observedAt) pair
      dsimp only
      rw [pair, now]
      exact ⟨_, rfl⟩

theorem Collector.tick_of_not_parsed (parsed : tick.parsed state.prevSample = none) :
    state.tick maxSignalAge tick =
      (state, [.recordScrapeResult state.backend.key tick.result]) := by
  unfold Tick.parsed at parsed
  unfold Collector.tick Tick.result
  cases fetched : fetchMetrics tick.attempt with
  | ok text =>
      rw [fetched] at parsed
      cases parsed
  | error reason => cases reason <;> rfl

end Rounds

/-! ## Gauges -/

/-- The gauges of `record_scraped_metrics`, with the values they are set to when
the reading comes. -/
def reportedGauges : List (String × (ReportedLoad → Option ExactFloat)) :=
  [("router_signal_age_seconds", fun _ => some (Registry.seconds 0)),
    ("router_backend_reported_kv_usage", ReportedLoad.kvUsagePerc),
    ("router_backend_num_running", fun reported => reported.numRunning.map countAsFloat),
    ("router_backend_num_waiting", fun reported => reported.numWaiting.map countAsFloat),
    ("router_backend_prefix_hit_rate", ReportedLoad.prefixHitRate),
    ("router_backend_preemptions_total", fun reported =>
      reported.preemptions.map fun preemptions =>
        .finite (ExactFloat.roundNat preemptions.toNat))]

def isReportedGauge (name : String) : Bool := name ∈ reportedGauges.map Prod.fst

theorem reportedGauges_nodup : (reportedGauges.map Prod.fst).Nodup := by decide

theorem isReportedGauge_of_mem {gauge : String × (ReportedLoad → Option ExactFloat)}
    (listed : gauge ∈ reportedGauges) : isReportedGauge gauge.1 = true :=
  decide_eq_true (List.mem_map_of_mem listed)

namespace Registry

variable {registry : Registry} {key : MetricKey}

theorem gauge_set_of_name {name : String} (apart : key.name ≠ name)
    (labels : List (String × String)) (value : ExactFloat) :
    (registry.set ⟨name, labels⟩ value).gauge key = registry.gauge key := by
  apply gauge_set_of_ne registry
  rintro rfl
  exact apart rfl

theorem gauge_setReported_self (name backend : String) (value : Option ExactFloat) :
    (registry.setReported name backend value).gauge (.ofBackend name backend) =
      value.or (registry.gauge (.ofBackend name backend)) := by
  cases value with
  | none => rfl
  | some value => exact gauge_set_self _ _ _

theorem gauge_setReported_of_ne {name backend : String} (apart : key ≠ .ofBackend name backend)
    (value : Option ExactFloat) :
    (registry.setReported name backend value).gauge key = registry.gauge key := by
  cases value with
  | none => rfl
  | some value => exact gauge_set_of_ne registry apart value

theorem gauge_foldl {α : Type} {apply : Registry → α → Registry} {calls : List α}
    (kept : ∀ call ∈ calls, ∀ registry, (apply registry call).gauge key = registry.gauge key) :
    (calls.foldl apply registry).gauge key = registry.gauge key := by
  induction calls generalizing registry with
  | nil => rfl
  | cons call calls ih =>
      rw [List.foldl_cons, ih fun other listed => kept other (List.mem_cons_of_mem call listed)]
      exact kept call List.mem_cons_self registry

/-- Gauges of different names are set one by one. -/
theorem gauge_setAll {α : Type} (backend : String) (reported : α)
    {gauges : List (String × (α → Option ExactFloat))} (distinct : (gauges.map Prod.fst).Nodup)
    {gauge : String × (α → Option ExactFloat)} (listed : gauge ∈ gauges) :
    (gauges.foldl (fun registry gauge => registry.setReported gauge.1 backend (gauge.2 reported))
        registry).gauge (.ofBackend gauge.1 backend) =
      (gauge.2 reported).or (registry.gauge (.ofBackend gauge.1 backend)) := by
  induction gauges generalizing registry with
  | nil => cases listed
  | cons first gauges ih =>
      rw [List.map_cons, List.nodup_cons] at distinct
      rw [List.foldl_cons]
      rcases List.mem_cons.mp listed with rfl | later
      · refine (gauge_foldl fun other otherListed registry => ?_).trans
          (gauge_setReported_self _ _ _)
        apply gauge_setReported_of_ne
        intro same
        have names : gauge.1 = other.1 := congrArg MetricKey.name same
        rw [names] at distinct
        exact distinct.1 (List.mem_map_of_mem otherListed)
      · rw [ih distinct.2 later, gauge_setReported_of_ne]
        intro same
        have names : gauge.1 = first.1 := congrArg MetricKey.name same
        rw [← names] at distinct
        exact distinct.1 (List.mem_map_of_mem later)

theorem recordScrapedMetrics_eq (backend : String) (reported : ReportedLoad) :
    registry.recordScrapedMetrics backend reported reported.observedAt =
      reportedGauges.foldl
        (fun registry gauge => registry.setReported gauge.1 backend (gauge.2 reported)) registry := by
  unfold recordScrapedMetrics
  rw [Nat.sub_self]
  rfl

theorem gauge_recordScrapedMetrics_of_ne {backend other : String} (apart : backend ≠ other)
    (name : String) (reported : ReportedLoad) :
    (registry.recordScrapedMetrics other reported reported.observedAt).gauge
      (.ofBackend name backend) = registry.gauge (.ofBackend name backend) := by
  rw [recordScrapedMetrics_eq]
  apply gauge_foldl
  intro gauge _ registry
  apply gauge_setReported_of_ne
  intro same
  have labels : [("backend", backend)] = [("backend", other)] := congrArg MetricKey.labels same
  exact apart (by simpa using labels)

theorem gauge_applyEffect (effect : Effect) :
    (registry.applyEffect effect).gauge key = registry.gauge key := by
  cases effect <;> rfl

theorem count_recordScrapeResult (backend other result otherResult : String) :
    (registry.recordScrapeResult other otherResult).count
        ⟨"router_signal_scrape_total", [("backend", backend), ("result", result)]⟩ =
      registry.count ⟨"router_signal_scrape_total", [("backend", backend), ("result", result)]⟩ +
        if backend = other ∧ result = otherResult then 1 else 0 := by
  rw [recordScrapeResult, count_increment]
  simp

end Registry

/-! ## Steps -/

/-- The round that an event is of the collector of a backend. -/
def MeteredEvent.scraped (ref : BackendRef) : MeteredEvent F → Option Tick
  | .system (.scrape other scraped) => if other = ref then some scraped else none
  | _ => none

/-- The rounds of the collector of a backend in a run. -/
def scrapesOf (ref : BackendRef) (events : List (MeteredEvent F)) : List Tick :=
  events.filterMap (MeteredEvent.scraped ref)

/-- Collectors are spawned for the backends of a snapshot. -/
def MeteredEvent.IsSpawned (backends : List BackendRef) : MeteredEvent F → Prop
  | .system (.scrape ref _) => ref ∈ backends
  | _ => True

namespace MeteredRun

/-- The rounds of a collector that are counted with a result. -/
def scrapeTotal (state : MeteredRun F) (backend result : String) : ℕ :=
  state.registry.count
    ⟨"router_signal_scrape_total", [("backend", backend), ("result", result)]⟩

/-- What some rounds of the collector of a backend leave in the state. -/
structure Collected (ref : BackendRef) (backend : String) (first : MeteredRun F)
    (ticks : List Tick) (last : MeteredRun F) : Prop where
  window : last.system.prevSamples ref = windowAfter (first.system.prevSamples ref) ticks
  reported : (last.system.run.heap ref).reported =
    (readings (first.system.prevSamples ref) ticks).getLast?.or
      (first.system.run.heap ref).reported
  gauges : ∀ gauge ∈ reportedGauges, last.registry.gauge (.ofBackend gauge.1 backend) =
    ((readings (first.system.prevSamples ref) ticks).filterMap gauge.2).getLast?.or
      (first.registry.gauge (.ofBackend gauge.1 backend))
  results : ∀ result, last.scrapeTotal backend result =
    first.scrapeTotal backend result + ticks.countP (·.result = result)

namespace Collected

variable {ref : BackendRef} {backend : String} {first middle last : MeteredRun F}

theorem refl (state : MeteredRun F) : state.Collected ref backend [] state where
  window := rfl
  reported := rfl
  gauges _ _ := rfl
  results _ := rfl

theorem trans {earlier later : List Tick} (left : first.Collected ref backend earlier middle)
    (right : middle.Collected ref backend later last) :
    first.Collected ref backend (earlier ++ later) last where
  window := by
    rw [windowAfter_append, ← left.window]
    exact right.window
  reported := by
    rw [readings_append, ← left.window, List.getLast?_append, right.reported, left.reported,
      Option.or_assoc]
  gauges gauge listed := by
    rw [readings_append, ← left.window, List.filterMap_append, List.getLast?_append,
      right.gauges gauge listed, left.gauges gauge listed, Option.or_assoc]
  results result := by
    rw [right.results result, left.results result, List.countP_append, Nat.add_assoc]

theorem of_kept {state next : MeteredRun F}
    (window : next.system.prevSamples ref = state.system.prevSamples ref)
    (reported : (next.system.run.heap ref).reported = (state.system.run.heap ref).reported)
    (gauges : ∀ key : MetricKey, isReportedGauge key.name = true →
      next.registry.gauge key = state.registry.gauge key)
    (counts : ∀ key : MetricKey, key.name = "router_signal_scrape_total" →
      next.registry.count key = state.registry.count key) :
    state.Collected ref backend [] next where
  window := window
  reported := reported
  gauges _ listed := gauges _ (isReportedGauge_of_mem listed)
  results _ := counts _ rfl

end Collected

/-! ### What the others leave alone -/

section Frames

variable {key : MetricKey} (own : isReportedGauge key.name = true) (registry : Registry)
include own

theorem gauge_set_other {name : String} (other : isReportedGauge name = false)
    (labels : List (String × String)) (value : ExactFloat) :
    (registry.set ⟨name, labels⟩ value).gauge key = registry.gauge key := by
  apply Registry.gauge_set_of_name
  rintro same
  rw [same, other] at own
  cases own

theorem gauge_recordOpened (b : Backend) :
    (recordOpened registry b).gauge key = registry.gauge key := by
  unfold recordOpened
  rw [Registry.recordKvProjected, gauge_set_other own _ (by decide), Registry.recordOccupancy,
    gauge_set_other own _ (by decide), Registry.recordInflight,
    gauge_set_other own _ (by decide)]

theorem gauge_recordRouter (before after : RouterRun F) (event : RouterEvent F) :
    (recordRouter registry before after event).gauge key = registry.gauge key := by
  cases event with
  | arrive parts now => rfl
  | advance id event =>
      have called (calls : List Effect) :
          (calls.foldl Registry.applyEffect registry).gauge key = registry.gauge key :=
        Registry.gauge_foldl fun effect _ registry => Registry.gauge_applyEffect effect
      unfold recordRouter
      dsimp only
      split
      · rw [gauge_recordOpened own]
        exact called _
      · exact called _

theorem gauge_sample {sigma : ExactFloat} {heap : Heap} {phase : SamplerPhase}
    {sampled : SamplerPhase × Registry} (stepped : phase.sample sigma heap registry = some sampled) :
    sampled.2.gauge key = registry.gauge key := by
  cases phase with
  | waiting => cases stepped
  | sampling rest => cases rest <;> obtain rfl := Option.some.inj stepped <;> rfl
  | loadedInflight ref inflight rest | loadedOccupancy ref u rest =>
      obtain rfl := Option.some.inj stepped
      exact gauge_set_other own registry (by decide) _ _
  | recordedKv ref u rest =>
      obtain rfl := Option.some.inj stepped
      exact gauge_set_other own registry (by decide) _ _
  | countedTick ref u rest =>
      obtain rfl := Option.some.inj stepped
      dsimp only
      unfold Registry.recordAtCeiling
      split <;> rfl

end Frames

section ScrapeTotals

variable {key : MetricKey} (own : key.name = "router_signal_scrape_total") (registry : Registry)
include own

theorem total_recordRouter (before after : RouterRun F) (event : RouterEvent F) :
    (recordRouter registry before after event).count key = registry.count key := by
  cases event with
  | arrive parts now => rfl
  | advance id event =>
      have foreign : Registry.isRequestCounter key.name = false := by
        rw [own]
        decide
      have called (calls : List Effect) :
          (calls.foldl Registry.applyEffect registry).count key = registry.count key :=
        Registry.count_foldl (fun _ effect => Registry.count_applyEffect foreign effect) calls
      unfold recordRouter
      dsimp only
      split
      · rw [count_recordOpened]
        exact called _
      · exact called _

theorem total_sample {sigma : ExactFloat} {heap : Heap} {phase : SamplerPhase}
    {sampled : SamplerPhase × Registry} (stepped : phase.sample sigma heap registry = some sampled) :
    sampled.2.count key = registry.count key := by
  have apart {name : String} (other : "router_signal_scrape_total" ≠ name) : key.name ≠ name := by
    rw [own]
    exact other
  cases phase with
  | waiting => cases stepped
  | sampling rest => cases rest <;> obtain rfl := Option.some.inj stepped <;> rfl
  | loadedInflight ref inflight rest | loadedOccupancy ref u rest =>
      obtain rfl := Option.some.inj stepped
      rfl
  | recordedKv ref u rest =>
      obtain rfl := Option.some.inj stepped
      exact Registry.count_increment_of_name (apart (by decide)) _
  | countedTick ref u rest =>
      obtain rfl := Option.some.inj stepped
      dsimp only
      unfold Registry.recordAtCeiling
      split
      · exact Registry.count_increment_of_name (apart (by decide)) _
      · rfl

end ScrapeTotals

/-! ### The collector -/

theorem reported_routed [DecayNumber F] {libraries : Libraries} {run next : RouterRun F}
    {event : RouterEvent F} (stepped : run.step libraries event = some next) (ref : BackendRef) :
    (next.heap ref).reported = (run.heap ref).reported := by
  rcases RouterRun.step_cases stepped with ⟨parts, now, -, rfl⟩ |
    ⟨id, event', handler, after, -, -, advanced, rfl⟩
  · rfl
  · have same : (after.heap ref).SameButLive (run.heap ref) :=
      HandlerState.sameButLive_of_steps advanced ref
    exact (congrArg Backend.reported same :)

theorem reported_recordFailure (heap : Heap) (ref other : BackendRef) :
    (recordFailure heap ref other).reported = (heap other).reported := by
  unfold recordFailure
  by_cases same : other = ref
  · subst same
    dsimp only
    split <;> rw [Function.update_self]
  · dsimp only
    split <;> rw [Function.update_of_ne same]

theorem reported_recordSuccess (heap : Heap) (ref other : BackendRef) :
    (recordSuccess heap ref other).reported = (heap other).reported := by
  unfold recordSuccess
  by_cases same : other = ref
  · subst same
    rw [Function.update_self]
  · rw [Function.update_of_ne same]

section Scrape

variable {ref : BackendRef} {backend : String} {state : MeteredRun F} {maxSignalAge : Instant}

/-- The state after a round of a collector. -/
def afterScrape (maxSignalAge : Instant) (state : MeteredRun F) (ref : BackendRef)
    (scraped : Tick) : MeteredRun F :=
  { state with
    system := state.system.scrape maxSignalAge ref scraped
    registry := record state.registry state.system (state.system.scrape maxSignalAge ref scraped)
      (.scrape ref scraped) }

theorem registry_afterScrape (scraped : Tick) :
    (state.afterScrape maxSignalAge ref scraped).registry =
      ((Collector.mk (state.system.run.heap ref) (state.system.prevSamples ref)).tick maxSignalAge
        scraped).2.foldl Registry.applySignal state.registry := by
  unfold afterScrape record SystemRun.scrape
  rw [List.drop_left]

theorem gauge_applyReading {key : MetricKey} (own : isReportedGauge key.name = true)
    (registry : Registry) (backend result : String) (load : ReportedLoad)
    (drift : Option ExactFloat) :
    ((readingEffects backend result load drift).foldl Registry.applySignal registry).gauge key =
      ((registry.recordScrapeResult backend result).recordScrapedMetrics backend load
        load.observedAt).gauge key := by
  have other : isReportedGauge "router_projection_drift" = false := by decide
  cases drift with
  | none => rfl
  | some ratio => exact gauge_set_other own _ other _ _

theorem total_applyReading (registry : Registry) (key : MetricKey) (backend result : String)
    (load : ReportedLoad) (drift : Option ExactFloat) :
    ((readingEffects backend result load drift).foldl Registry.applySignal registry).count key =
      (registry.recordScrapeResult backend result).count key := by
  cases drift with
  | none => exact Registry.count_recordScrapedMetrics backend load load.observedAt
  | some ratio => exact Registry.count_recordScrapedMetrics backend load load.observedAt

/-- The round of another collector sets the gauges of its own backend. -/
theorem collected_other {other : BackendRef} (apart : ref ≠ other)
    (keys : backend ≠ (state.system.run.heap other).key) (scraped : Tick) :
    state.Collected ref backend [] (state.afterScrape maxSignalAge other scraped) := by
  let collector : Collector := ⟨state.system.run.heap other, state.system.prevSamples other⟩
  have registry := @registry_afterScrape F other state maxSignalAge scraped
  have total (result : String) : (state.registry.recordScrapeResult
      (state.system.run.heap other).key scraped.result).count
        ⟨"router_signal_scrape_total", [("backend", backend), ("result", result)]⟩ =
      state.scrapeTotal backend result := by
    rw [Registry.count_recordScrapeResult, if_neg fun same => keys same.1]
    rfl
  constructor
  · exact Function.update_of_ne apart _ _
  · exact congrArg Backend.reported (Function.update_of_ne apart _ _)
  · intro gauge listed
    rw [registry]
    cases parsed : scraped.parsed (state.system.prevSamples other) with
    | none =>
        rw [collector.tick_of_not_parsed maxSignalAge parsed]
        rfl
    | some read =>
        obtain ⟨drift, ticked⟩ := collector.tick_of_parsed maxSignalAge parsed
        have own : isReportedGauge (MetricKey.ofBackend gauge.1 backend).name = true :=
          isReportedGauge_of_mem listed
        rw [ticked, gauge_applyReading own, Registry.gauge_recordScrapedMetrics_of_ne keys]
        rfl
  · intro result
    unfold scrapeTotal
    rw [registry]
    cases parsed : scraped.parsed (state.system.prevSamples other) with
    | none =>
        rw [collector.tick_of_not_parsed maxSignalAge parsed]
        exact total result
    | some read =>
        obtain ⟨drift, ticked⟩ := collector.tick_of_parsed maxSignalAge parsed
        rw [ticked, total_applyReading]
        exact total result

theorem collected_own (key : (state.system.run.heap ref).key = backend) (scraped : Tick) :
    state.Collected ref backend [scraped] (state.afterScrape maxSignalAge ref scraped) := by
  subst key
  let collector : Collector := ⟨state.system.run.heap ref, state.system.prevSamples ref⟩
  have registry := @registry_afterScrape F ref state maxSignalAge scraped
  have after : (state.afterScrape maxSignalAge ref scraped).system.run.heap ref =
      (collector.tick maxSignalAge scraped).1.backend := Function.update_self _ _ _
  have window : (state.afterScrape maxSignalAge ref scraped).system.prevSamples ref =
      (collector.tick maxSignalAge scraped).1.prevSample := Function.update_self _ _ _
  have total (result : String) : (state.registry.recordScrapeResult
      (state.system.run.heap ref).key scraped.result).count
        ⟨"router_signal_scrape_total",
          [("backend", (state.system.run.heap ref).key), ("result", result)]⟩ =
      state.scrapeTotal (state.system.run.heap ref).key result +
        [scraped].countP (·.result = result) := by
    rw [Registry.count_recordScrapeResult]
    simp [scrapeTotal, List.countP_singleton, eq_comm]
  cases parsed : scraped.parsed (state.system.prevSamples ref) with
  | none =>
      have ticked := collector.tick_of_not_parsed maxSignalAge parsed
      rw [ticked] at after window registry
      constructor
      · simp [window, windowAfter, parsed, collector]
      · simp [after, readings, parsed, collector]
      · intro gauge listed
        simp [registry, readings, parsed]
        rfl
      · intro result
        unfold scrapeTotal
        rw [registry]
        exact total result
  | some read =>
      obtain ⟨drift, ticked⟩ := collector.tick_of_parsed maxSignalAge parsed
      rw [ticked] at after window registry
      have one : readings (state.system.prevSamples ref) [scraped] = [read.1] := by
        simp [readings, parsed]
      constructor
      · simp [window, windowAfter, parsed]
      · rw [after, one]
        rfl
      · intro gauge listed
        have own : isReportedGauge (MetricKey.ofBackend gauge.1
            (state.system.run.heap ref).key).name = true := isReportedGauge_of_mem listed
        rw [registry, gauge_applyReading own, Registry.recordScrapedMetrics_eq,
          Registry.gauge_setAll _ _ reportedGauges_nodup listed, one]
        cases value : gauge.2 read.1 with
        | none =>
            simp [value]
            rfl
        | some value => simp [value]
      · intro result
        unfold scrapeTotal
        rw [registry, total_applyReading]
        exact total result

end Scrape

section Runs

variable [DecayNumber F] {maxSignalAge : Instant} {libraries : Libraries} {sigma : ExactFloat}
  {config : Config} {ref : BackendRef} {state next : MeteredRun F}

theorem collected_step {event : MeteredEvent F} (configured : state.Configured config)
    (distinct : (config.backends.map RawBackend.url).Nodup) (inside : ref < config.backends.length)
    (spawned : event.IsSpawned (List.range config.backends.length))
    (stepped : state.step maxSignalAge libraries sigma event = some next) :
    state.Collected ref (config.heap ref).key (event.scraped ref).toList next := by
  cases event with
  | tick =>
      obtain ⟨sampler, -, rfl⟩ := Option.map_eq_some_iff.mp stepped
      exact .of_kept rfl rfl (fun _ _ => rfl) fun _ _ => rfl
  | sample =>
      obtain ⟨sampled, taken, rfl⟩ := Option.map_eq_some_iff.mp stepped
      exact .of_kept rfl rfl (fun _ own => gauge_sample own _ taken)
        fun _ own => total_sample own _ taken
  | system event =>
      obtain ⟨system, advanced, rfl⟩ := Option.map_eq_some_iff.mp stepped
      cases event with
      | router event =>
          obtain ⟨run, routed, rfl⟩ := Option.map_eq_some_iff.mp advanced
          exact .of_kept rfl (reported_routed routed ref)
            (fun _ own => gauge_recordRouter own _ _ _ _)
            fun _ own => total_recordRouter own _ _ _ _
      | recordFailure failed =>
          obtain rfl := Option.some.inj advanced
          exact .of_kept rfl (reported_recordFailure _ _ _) (fun _ _ => rfl) fun _ _ => rfl
      | recordSuccess succeeded =>
          obtain rfl := Option.some.inj advanced
          exact .of_kept rfl (reported_recordSuccess _ _ _) (fun _ _ => rfl) fun _ _ => rfl
      | nextSnapshot =>
          obtain rfl := Option.some.inj advanced
          exact .of_kept rfl rfl (fun _ _ => rfl) fun _ _ => rfl
      | scrape other scraped =>
          obtain rfl := Option.some.inj advanced
          have key := configured.routed.key other
          by_cases same : other = ref
          · subst same
            have ticks : (MeteredEvent.scraped (F := F) other
                (.system (.scrape other scraped))).toList = [scraped] := by
              simp [MeteredEvent.scraped]
            rw [ticks]
            exact collected_own key scraped
          · have ticks : (MeteredEvent.scraped (F := F) ref
                (.system (.scrape other scraped))).toList = [] := by
              simp [MeteredEvent.scraped, same]
            rw [ticks]
            refine collected_other (Ne.symm same) ?_ scraped
            rw [key]
            exact Config.heap_key_ne distinct inside (List.mem_range.mp spawned) (Ne.symm same)

theorem collected_run {events : List (MeteredEvent F)} (configured : state.Configured config)
    (distinct : (config.backends.map RawBackend.url).Nodup) (inside : ref < config.backends.length)
    (spawned : ∀ event ∈ events, event.IsSpawned (List.range config.backends.length))
    (executed : EventRun.run (step maxSignalAge libraries sigma) state events = some next) :
    state.Collected ref (config.heap ref).key (scrapesOf ref events) next := by
  induction events generalizing state with
  | nil =>
      obtain rfl : state = next := by simpa using executed
      exact .refl state
  | cons event events ih =>
      obtain ⟨middle, stepped, rest⟩ := EventRun.run_cons_eq_some.mp executed
      have first := collected_step configured distinct inside (spawned event List.mem_cons_self)
        stepped
      have later := ih (configured_step configured stepped)
        (fun other listed => spawned other (List.mem_cons_of_mem event listed)) rest
      have ticks : scrapesOf ref (event :: events) =
          (event.scraped ref).toList ++ scrapesOf ref events := by
        cases scraped : event.scraped ref <;> simp [scrapesOf, scraped]
      rw [ticks]
      exact first.trans later

/-- In every run of a configured router, a backend has its last reading, every gauge
of it the last value that a reading had for it, and its age gauge is zero.  Every
round of its collector is counted by its result. -/
theorem gauges_show_readings (maxSignalAge : Instant) (libraries : Libraries) {raw : RawConfig}
    (accepted : raw.validate = .ok config) {strategy : RoutingStrategy}
    {routeHists : RouteHistograms F} {events : List (MeteredEvent F)}
    (executed : EventRun.run (step maxSignalAge libraries config.sigma)
      (initial config.heap (config.router strategy routeHists)) events = some state)
    (spawned : ∀ event ∈ events, event.IsSpawned (List.range config.backends.length))
    (inside : ref < config.backends.length) :
    (state.system.run.heap ref).reported = (readings none (scrapesOf ref events)).getLast? ∧
      (∀ gauge ∈ reportedGauges,
        state.registry.gauge (.ofBackend gauge.1 (config.heap ref).key) =
          ((readings none (scrapesOf ref events)).filterMap gauge.2).getLast?) ∧
      ∀ result, state.scrapeTotal (config.heap ref).key result =
        (scrapesOf ref events).countP (·.result = result) := by
  have collected := collected_run (configured_initial config strategy routeHists)
    (RawConfig.urls_distinct accepted) inside spawned executed
  have unread : (config.heap ref).reported = none := by
    unfold Config.heap
    split <;> rfl
  refine ⟨?_, fun gauge listed => ?_, fun result => ?_⟩
  · rw [collected.reported]
    exact (congrArg _ unread).trans Option.or_none
  · exact (collected.gauges gauge listed).trans Option.or_none
  · exact (collected.results result).trans (Nat.zero_add _)

end Runs

open RouterRun (chatLibraries) in
open LoggedRun (twoHeap twoRouter) in
/-- An error page comes after a reading: the gauge keeps what the backend forgets. -/
theorem gauges_show_readings_error_page :
    ∃ state : MeteredRun ℝ,
      ((state.system.run.heap 0).reported.map ReportedLoad.numRunning = some none) ∧
      state.registry.gauge (.ofBackend "router_backend_num_running" (twoHeap 0).key) =
        some (.finite 8) ∧
      state.scrapeTotal (twoHeap 0).key "ok" = 2 := by
  let good : Tick := ⟨.responded 200 Collector.goodBody, 1⟩
  let page : Tick := ⟨.responded 500 [], 2⟩
  let events : List (MeteredEvent ℝ) := [.system (.scrape 0 good), .system (.scrape 0 page)]
  have read := @gauges_show_readings ℝ _ _ 0 _ 5 chatLibraries _
    (twoBackends_accepted defaultPenalty) twoRouter.strategy twoRouter.routeHists events rfl
    (by simp [events, MeteredEvent.IsSpawned]; decide) (by decide)
  have rounds : scrapesOf 0 events = [good, page] := rfl
  have readingsRunning : (readings none [good, page]).map ReportedLoad.numRunning =
      [some 8, none] := by
    decide +kernel
  rw [rounds] at read
  refine ⟨_, ?_, ?_, read.2.2 "ok"⟩
  · rw [read.1, ← List.getLast?_map, readingsRunning]
    rfl
  · have shown := read.2.1 ("router_backend_num_running", fun reported =>
      reported.numRunning.map countAsFloat) (by simp [reportedGauges])
    have values : (readings none [good, page]).filterMap
        (fun reported => reported.numRunning.map countAsFloat) =
          ((readings none [good, page]).map ReportedLoad.numRunning).filterMap
            (Option.map countAsFloat) := by
      rw [List.filterMap_map]
      rfl
    have eight : ([some 8, none].filterMap (Option.map countAsFloat)).getLast? =
        some (.finite 8) := by
      decide +kernel
    rw [← readingsRunning, ← values] at eight
    exact shown.trans eight

end MeteredRun

end KeelRouter
