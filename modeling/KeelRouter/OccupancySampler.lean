import KeelRouter.Metrics
import KeelRouter.SystemSafety

/-!
# The occupancy sampler

A task of its own samples every backend in rounds: it loads the counters of one
backend after the other, sets its gauges, and counts a tick for it and, if the
occupancy it has seen is at the ceiling, a tick at the ceiling.  Anything may
happen between two of its loads, so the occupancy that it sees may never have
been that of the backend.

The ticks are exact: no round skips a backend or counts it twice.  The ticks at
the ceiling are off by at most one sample in any stretch of a run in which the
backend stays on one side of the ceiling.
-/

namespace KeelRouter

variable {F : Type}

/-! ## The loop -/

/-- How far the loop is: with the backend it samples, what it has loaded, and the
backends that are left for the round. -/
inductive SamplerPhase where
  | waiting
  | sampling (rest : List BackendRef)
  | loadedInflight (ref : BackendRef) (inflight : UInt32) (rest : List BackendRef)
  | loadedOccupancy (ref : BackendRef) (u : ExactFloat) (rest : List BackendRef)
  | recordedKv (ref : BackendRef) (u : ExactFloat) (rest : List BackendRef)
  | countedTick (ref : BackendRef) (u : ExactFloat) (rest : List BackendRef)
deriving DecidableEq

/-- The occupancy that comes out when the slots were counted before. -/
def occupancyFrom (inflight : UInt32) (b : Backend) : ExactFloat :=
  occupancy { b with live := { b.live with inflight } }

/-- The start of a round over the backends of the snapshot that is loaded then. -/
def SamplerPhase.tick (backends : List BackendRef) : SamplerPhase → Option SamplerPhase
  | .waiting => some (.sampling backends)
  | _ => none

/-- The next load of `sample_occupancy_loop`, with the calls up to the one after. -/
def SamplerPhase.sample (sigma : ExactFloat) (heap : Heap) (registry : Registry) :
    SamplerPhase → Option (SamplerPhase × Registry)
  | .waiting => none
  | .sampling [] => some (.waiting, registry)
  | .sampling (ref :: rest) =>
      some (.loadedInflight ref (heap ref).live.inflight rest, registry)
  | .loadedInflight ref inflight rest =>
      let u := occupancyFrom inflight (heap ref)
      some (.loadedOccupancy ref u rest, registry.recordOccupancy (heap ref).key u)
  | .loadedOccupancy ref u rest =>
      some (.recordedKv ref u rest,
        registry.recordKvProjected (heap ref).key (heap ref).live.kvProjectedTokens)
  | .recordedKv ref u rest =>
      let recorded := registry.recordInflight (heap ref).key (heap ref).live.inflight
      some (.countedTick ref u rest, recorded.recordTick (heap ref).key)
  | .countedTick ref u rest =>
      some (.sampling rest, registry.recordAtCeiling (heap ref).key (decide (sigma ≤ u)))

/-! ## The system with its metrics -/

structure MeteredRun (F : Type) where
  system : SystemRun F
  registry : Registry
  sampler : SamplerPhase

inductive MeteredEvent (F : Type) where
  | system (event : SystemEvent F)
  | tick
  | sample

/-- The ticks among some events. -/
def MeteredEvent.isTick : MeteredEvent F → Bool
  | .tick => true
  | .system _ | .sample => false

/-- The calls that an execution has made so far. -/
def RouterRun.effectsOf (run : RouterRun F) (id : Nat) : List Effect :=
  (run.handlers[id]?).elim [] Handler.effects

namespace MeteredRun

def initial (heap : Heap) (router : RouterState F) : MeteredRun F where
  system := .initial heap router
  registry := .empty
  sampler := .waiting

/-- The gauges of a backend after a lease was opened on it. -/
def recordOpened (registry : Registry) (b : Backend) : Registry :=
  ((registry.recordInflight b.key b.live.inflight).recordOccupancy b.key
    (occupancy b)).recordKvProjected b.key b.live.kvProjectedTokens

/-- The calls of a step of the request path. -/
def recordRouter (registry : Registry) (before after : RouterRun F) :
    RouterEvent F → Registry
  | .arrive _ _ => registry
  | .advance id event =>
      let calls := (after.effectsOf id).drop (before.effectsOf id).length
      let called := calls.foldl Registry.applyEffect registry
      match event, (before.handlers[id]?).map Handler.phase with
      | .openLease, some (.picked _ _ backend _) => recordOpened called (after.heap backend)
      | _, _ => called

/-- The calls of a step of the system. -/
def record (registry : Registry) (before after : SystemRun F) : SystemEvent F → Registry
  | .router event => recordRouter registry before.run after.run event
  | .scrape _ _ => (after.signals.drop before.signals.length).foldl Registry.applySignal registry
  | .recordFailure _ | .recordSuccess _ | .nextSnapshot => registry

def step [DecayNumber F] (maxSignalAge : Instant) (libraries : Libraries) (sigma : ExactFloat)
    (state : MeteredRun F) : MeteredEvent F → Option (MeteredRun F)
  | .system event =>
      (state.system.step maxSignalAge libraries event).map fun system =>
        { state with system, registry := record state.registry state.system system event }
  | .tick =>
      (state.sampler.tick state.system.run.router.snapshot.backends).map fun sampler =>
        { state with sampler }
  | .sample =>
      (state.sampler.sample sigma state.system.run.heap state.registry).map fun sampled =>
        { state with sampler := sampled.1, registry := sampled.2 }

end MeteredRun

/-! ## What no step changes -/

theorem Backend.SameButLive.fixed {first second : Backend} (same : first.SameButLive second) :
    first.Fixed second := by
  have health : first.health = second.health := (congrArg Backend.health same :)
  have reported : first.reported = second.reported := (congrArg Backend.reported same :)
  unfold Backend.Fixed
  rw [health, reported]
  exact same

/-- The backends are those of the configuration. -/
structure RouterRun.Configured (config : Config) (run : RouterRun F) : Prop where
  backends : run.router.snapshot.backends = List.range config.backends.length
  fixed : ∀ ref, (run.heap ref).Fixed (config.heap ref)

namespace RouterRun.Configured

variable {config : Config} {run next : RouterRun F}

theorem key (configured : run.Configured config) (ref : BackendRef) :
    (run.heap ref).key = (config.heap ref).key :=
  (congrArg Backend.key (configured.fixed ref) :)

theorem caps (configured : run.Configured config) (ref : BackendRef) :
    (run.heap ref).caps = (config.heap ref).caps :=
  (congrArg Backend.caps (configured.fixed ref) :)

theorem initial (config : Config) (strategy : RoutingStrategy)
    (routeHists : RouteHistograms F) :
    (RouterRun.initial config.heap (config.router strategy routeHists)).Configured config where
  backends := rfl
  fixed _ := rfl

theorem maintained (configured : run.Configured config) (kept : run.Maintained next) :
    next.Configured config where
  backends := by
    rcases kept.snapshot with same | rebuilt
    · rw [same]
      exact configured.backends
    · rw [rebuilt]
      exact configured.backends
  fixed ref := (kept.fixed ref).trans (configured.fixed ref)

theorem routed [DecayNumber F] {libraries : Libraries} {event : RouterEvent F}
    (configured : run.Configured config) (stepped : run.step libraries event = some next) :
    next.Configured config := by
  rcases RouterRun.step_cases stepped with ⟨parts, now, -, rfl⟩ |
    ⟨id, event', handler, after, -, -, advanced, rfl⟩
  · exact ⟨configured.backends, configured.fixed⟩
  · refine ⟨?_, fun ref => ?_⟩
    · have same : after.router.snapshot = run.router.snapshot :=
        (HandlerState.router_of_steps advanced).1
      change after.router.snapshot.backends = _
      rw [same]
      exact configured.backends
    · have same : (after.heap ref).SameButLive (run.heap ref) :=
        HandlerState.sameButLive_of_steps advanced ref
      exact same.fixed.trans (configured.fixed ref)

end RouterRun.Configured

theorem SystemRun.configured_step [DecayNumber F] {maxSignalAge : Instant} {libraries : Libraries}
    {config : Config} {state next : SystemRun F} {event : SystemEvent F}
    (configured : state.run.Configured config)
    (stepped : state.step maxSignalAge libraries event = some next) :
    next.run.Configured config := by
  rcases step_cases stepped with ⟨routerEvent, -, routed⟩ | kept
  · exact configured.routed routed
  · exact configured.maintained kept

/-- Backends with urls of their own have keys of their own. -/
theorem Config.heap_key_ne {config : Config} (distinct : (config.backends.map RawBackend.url).Nodup)
    {first second : BackendRef} (firstInside : first < config.backends.length)
    (secondInside : second < config.backends.length) (apart : first ≠ second) :
    (config.heap first).key ≠ (config.heap second).key := by
  have url {ref : BackendRef} (inside : ref < config.backends.length) :
      (config.backends.map RawBackend.url)[ref]? = some (config.heap ref).key := by
    have listed : config.backends[ref]? = some config.backends[ref] :=
      List.getElem?_eq_getElem inside
    unfold Config.heap
    simp [listed, Backend.fresh]
  intro same
  have firstListed : first < (config.backends.map RawBackend.url).length := by
    rw [List.length_map]
    exact firstInside
  have urls := (url firstInside).trans ((congrArg some same).trans (url secondInside).symm)
  exact apart ((List.getElem?_inj firstListed distinct).mp urls)

/-! ## A round -/

namespace SamplerPhase

theorem tick_eq_some {backends : List BackendRef} {phase next : SamplerPhase}
    (ticked : phase.tick backends = some next) : phase = .waiting ∧ next = .sampling backends := by
  cases phase <;> simp_all [tick]

/-- The backends that the round has not finished with. -/
def left : SamplerPhase → List BackendRef
  | .waiting => []
  | .sampling rest => rest
  | .loadedInflight ref _ rest | .loadedOccupancy ref _ rest | .recordedKv ref _ rest
  | .countedTick ref _ rest => ref :: rest

/-- The backends that still have to be counted in the round. -/
def uncounted : SamplerPhase → List BackendRef
  | .countedTick _ _ rest => rest
  | phase => phase.left

theorem left_sample {sigma : ExactFloat} {heap : Heap} {registry : Registry} {phase : SamplerPhase}
    {sampled : SamplerPhase × Registry} (stepped : phase.sample sigma heap registry = some sampled) :
    sampled.1.left <:+ phase.left := by
  rcases phase with _ | (_ | ⟨ref, rest⟩) | _ | _ | _ | ⟨ref, u, rest⟩ <;>
    simp only [sample, Option.some.injEq, reduceCtorEq] at stepped <;> subst stepped
  case countedTick => exact List.suffix_cons ref rest
  all_goals exact List.suffix_refl _

theorem uncounted_suffix (phase : SamplerPhase) : phase.uncounted <:+ phase.left := by
  cases phase with
  | countedTick ref u rest => exact List.suffix_cons ref rest
  | _ => exact List.suffix_refl _

/-- The tick that the next step counts for a backend. -/
def tickOf (ref : BackendRef) : SamplerPhase → ℕ
  | .recordedKv other _ _ => if other = ref then 1 else 0
  | _ => 0

/-- The tick at the ceiling that the next step counts for a backend. -/
def ceilingOf (sigma : ExactFloat) (ref : BackendRef) : SamplerPhase → ℕ
  | .countedTick other u _ => if other = ref ∧ sigma ≤ u then 1 else 0
  | _ => 0

section Counts

variable {sigma : ExactFloat} {heap : Heap} {registry : Registry} {phase : SamplerPhase}
  {sampled : SamplerPhase × Registry} (stepped : phase.sample sigma heap registry = some sampled)
  {ref : BackendRef} (own : ∀ other ∈ phase.left, other ≠ ref → (heap other).key ≠ (heap ref).key)
include stepped own

theorem ticks_sample :
    sampled.2.count (.occupancyTicks (heap ref).key) =
      registry.count (.occupancyTicks (heap ref).key) + phase.tickOf ref := by
  cases phase with
  | waiting => cases stepped
  | sampling rest => cases rest <;> obtain rfl := Option.some.inj stepped <;> rfl
  | loadedInflight other inflight rest | loadedOccupancy other u rest =>
      obtain rfl := Option.some.inj stepped
      rfl
  | recordedKv other u rest =>
      obtain rfl := Option.some.inj stepped
      refine (Registry.count_recordTick _ _ _).trans ?_
      by_cases same : other = ref
      · subst same
        simp [tickOf, Registry.recordInflight]
      · have keys := own other (by simp [left]) same
        simp [tickOf, Registry.recordInflight, same, keys.symm]
  | countedTick other u rest =>
      obtain rfl := Option.some.inj stepped
      exact Registry.count_recordAtCeiling_ticks _ _ _ _

theorem ceiling_sample :
    sampled.2.count (.ticksAtCeiling (heap ref).key) =
      registry.count (.ticksAtCeiling (heap ref).key) + phase.ceilingOf sigma ref := by
  cases phase with
  | waiting => cases stepped
  | sampling rest => cases rest <;> obtain rfl := Option.some.inj stepped <;> rfl
  | loadedInflight other inflight rest | loadedOccupancy other u rest =>
      obtain rfl := Option.some.inj stepped
      rfl
  | recordedKv other u rest =>
      obtain rfl := Option.some.inj stepped
      exact Registry.count_recordTick_ceiling _ _ _
  | countedTick other u rest =>
      obtain rfl := Option.some.inj stepped
      refine (Registry.count_recordAtCeiling _ _ _ _).trans ?_
      by_cases same : other = ref
      · subst same
        simp [ceilingOf]
      · have keys := own other (by simp [left]) same
        simp [ceilingOf, same, keys.symm]

omit own in
/-- A tick is counted for every backend that leaves the uncounted. -/
theorem uncounted_sample :
    phase.tickOf ref + sampled.1.uncounted.count ref = phase.uncounted.count ref := by
  cases phase with
  | waiting => cases stepped
  | sampling rest =>
      cases rest <;> obtain rfl := Option.some.inj stepped <;> simp [tickOf, uncounted, left]
  | loadedInflight other inflight rest | loadedOccupancy other u rest | countedTick other u rest =>
      obtain rfl := Option.some.inj stepped
      exact Nat.zero_add _
  | recordedKv other u rest =>
      obtain rfl := Option.some.inj stepped
      by_cases same : other = ref
      · subst same
        simp [tickOf, uncounted, left]
        omega
      · simp [tickOf, uncounted, left, same]

end Counts

end SamplerPhase

/-! ## Both sides of the ceiling -/

/-- What a backend has a limited amount of. -/
inductive Resource where
  | slots
  | memory
deriving DecidableEq

/-- The fraction of its slots that some requests take. -/
def CapsEstimate.slotFraction (caps : CapsEstimate) (inflight : UInt32) : ExactFloat :=
  countAsFloat inflight / countAsFloat caps.maxNumSeqs

/-- The committed fraction of a resource. -/
def Resource.fraction (b : Backend) : Resource → ExactFloat
  | .slots => b.caps.slotFraction b.live.inflight
  | .memory => clampedAsFloat b.live.kvProjectedTokens / countAsFloat b.caps.kvCapacityTokens

theorem occupancyFrom_eq (inflight : UInt32) (b : Backend) :
    occupancyFrom inflight b = max (b.caps.slotFraction inflight) (Resource.memory.fraction b) :=
  rfl

theorem occupancy_eq (b : Backend) :
    occupancy b = max (Resource.slots.fraction b) (Resource.memory.fraction b) :=
  rfl

namespace CapsEstimate.Positive

variable {b : Backend} (positive : b.caps.Positive) (s : ℚ)
include positive

theorem exists_slotFraction (inflight : UInt32) :
    ∃ ratio, b.caps.slotFraction inflight = .finite ratio := by
  have nonzero : (b.caps.maxNumSeqs.toNat : ℚ) ≠ 0 := by exact_mod_cast positive.2.ne'
  exact ⟨_, ExactFloat.finite_div nonzero⟩

theorem exists_fraction (resource : Resource) : ∃ ratio, resource.fraction b = .finite ratio := by
  have nonzero : (b.caps.kvCapacityTokens.toNat : ℚ) ≠ 0 := by exact_mod_cast positive.1.ne'
  cases resource with
  | slots => exact positive.exists_slotFraction b.live.inflight
  | memory => exact ⟨_, ExactFloat.finite_div nonzero⟩

/-- An occupancy is at the ceiling if one of the two fractions is. -/
theorem le_occupancyFrom_iff (inflight : UInt32) :
    .finite s ≤ occupancyFrom inflight b ↔
      .finite s ≤ b.caps.slotFraction inflight ∨ .finite s ≤ Resource.memory.fraction b := by
  obtain ⟨slots, slotsFinite⟩ := positive.exists_slotFraction inflight
  obtain ⟨memory, memoryFinite⟩ := positive.exists_fraction .memory
  rw [occupancyFrom_eq, slotsFinite, memoryFinite]
  simp

theorem not_le_of_occupancy_lt (below : occupancy b < .finite s) (resource : Resource) :
    ¬ .finite s ≤ resource.fraction b := by
  obtain ⟨slots, slotsFinite⟩ := positive.exists_fraction .slots
  obtain ⟨memory, memoryFinite⟩ := positive.exists_fraction .memory
  rw [occupancy_eq, slotsFinite, memoryFinite] at below
  have less : slots < s ∧ memory < s := by simpa using below
  cases resource with
  | slots => simpa [slotsFinite] using less.1
  | memory => simpa [memoryFinite] using less.2

end CapsEstimate.Positive

namespace SamplerPhase

variable (sigma : ExactFloat) (caps : CapsEstimate) (ref : BackendRef)

/-- The tick at the ceiling that the sample of a backend is bound to add, as far
as its loads tell. -/
def due : SamplerPhase → ℕ
  | .loadedInflight other inflight _ =>
      if other = ref ∧ sigma ≤ caps.slotFraction inflight then 1 else 0
  | .loadedOccupancy other u _ | .recordedKv other u _ | .countedTick other u _ =>
      if other = ref ∧ sigma ≤ u then 1 else 0
  | .waiting | .sampling _ => 0

/-- The ticks without one at the ceiling that the sample of a backend can add while
the resource stays at the ceiling. -/
def unpaid (resource : Resource) : SamplerPhase → ℤ
  | .loadedInflight other inflight _ =>
      if other = ref ∧ resource = .slots ∧ ¬ sigma ≤ caps.slotFraction inflight then 1 else 0
  | .loadedOccupancy other u _ | .recordedKv other u _ => if other = ref ∧ ¬ sigma ≤ u then 1 else 0
  | .countedTick other u _ => if other = ref ∧ sigma ≤ u then -1 else 0
  | .waiting | .sampling _ => 0

/-- The sample between its two counters. -/
def counted : SamplerPhase → ℕ
  | .countedTick other _ _ => if other = ref then 1 else 0
  | _ => 0

section Samples

variable {s : ℚ} {heap : Heap} {registry : Registry} {phase : SamplerPhase}
  {sampled : SamplerPhase × Registry} {ref : BackendRef}
  (stepped : phase.sample (.finite s) heap registry = some sampled)
include stepped

/-- A tick at the ceiling is counted after its tick. -/
theorem counted_sample :
    phase.ceilingOf (.finite s) ref + sampled.1.counted ref ≤
      phase.tickOf ref + phase.counted ref := by
  cases phase with
  | waiting => cases stepped
  | sampling rest => cases rest <;> obtain rfl := Option.some.inj stepped <;> rfl
  | loadedInflight other inflight rest | loadedOccupancy other u rest | recordedKv other u rest =>
      obtain rfl := Option.some.inj stepped
      simp [ceilingOf, tickOf, counted]
  | countedTick other u rest =>
      obtain rfl := Option.some.inj stepped
      by_cases same : other = ref
      · by_cases reached : .finite s ≤ u <;> simp [ceilingOf, tickOf, counted, same, reached]
      · simp [ceilingOf, tickOf, counted, same]

variable (positive : (heap ref).caps.Positive)
include positive

/-- Below the ceiling, a step of the round only counts what was due. -/
theorem due_sample (below : occupancy (heap ref) < .finite s) :
    phase.ceilingOf (.finite s) ref + sampled.1.due (.finite s) (heap ref).caps ref =
      phase.due (.finite s) (heap ref).caps ref := by
  have slotsBelow := positive.not_le_of_occupancy_lt s below .slots
  have memoryBelow := positive.not_le_of_occupancy_lt s below .memory
  cases phase with
  | waiting => cases stepped
  | sampling rest =>
      cases rest with
      | nil =>
          obtain rfl := Option.some.inj stepped
          rfl
      | cons other rest =>
          obtain rfl := Option.some.inj stepped
          have unreached : ¬ (other = ref ∧
              .finite s ≤ (heap ref).caps.slotFraction (heap other).live.inflight) := by
            rintro ⟨rfl, reached⟩
            exact slotsBelow reached
          simp only [ceilingOf, due, if_neg unreached]
  | loadedInflight other inflight rest =>
      obtain rfl := Option.some.inj stepped
      have same : (other = ref ∧ .finite s ≤ occupancyFrom inflight (heap other)) ↔
          (other = ref ∧ .finite s ≤ (heap ref).caps.slotFraction inflight) := by
        apply and_congr_right
        rintro rfl
        rw [positive.le_occupancyFrom_iff]
        exact or_iff_left memoryBelow
      simp only [ceilingOf, due, same, Nat.zero_add]
  | loadedOccupancy other u rest | recordedKv other u rest =>
      obtain rfl := Option.some.inj stepped
      exact Nat.zero_add _
  | countedTick other u rest =>
      obtain rfl := Option.some.inj stepped
      rfl

/-- While a resource is at the ceiling, a step of the round leaves no tick
without one at the ceiling but those of samples begun before. -/
theorem unpaid_sample {resource : Resource} (above : .finite s ≤ resource.fraction (heap ref)) :
    (phase.tickOf ref : ℤ) - phase.ceilingOf (.finite s) ref +
        sampled.1.unpaid (.finite s) (heap ref).caps ref resource ≤
      phase.unpaid (.finite s) (heap ref).caps ref resource := by
  cases phase with
  | waiting => cases stepped
  | sampling rest =>
      cases rest with
      | nil =>
          obtain rfl := Option.some.inj stepped
          rfl
      | cons other rest =>
          obtain rfl := Option.some.inj stepped
          have reached : ¬ (other = ref ∧ resource = .slots ∧
              ¬ .finite s ≤ (heap ref).caps.slotFraction (heap other).live.inflight) := by
            rintro ⟨rfl, rfl, unreached⟩
            exact unreached above
          simp [tickOf, ceilingOf, unpaid, if_neg reached]
  | loadedInflight other inflight rest =>
      obtain rfl := Option.some.inj stepped
      simp only [tickOf, ceilingOf, unpaid]
      by_cases missed : other = ref ∧ ¬ .finite s ≤ occupancyFrom inflight (heap other)
      · obtain ⟨rfl, unreached⟩ := missed
        rw [positive.le_occupancyFrom_iff, not_or] at unreached
        have slots : resource = .slots := by
          cases resource with
          | slots => rfl
          | memory => exact absurd above unreached.2
        simp [slots, unreached.1]
        split <;> decide
      · rw [if_neg missed]
        split <;> decide
  | loadedOccupancy other u rest =>
      obtain rfl := Option.some.inj stepped
      simp [tickOf, ceilingOf, unpaid]
  | recordedKv other u rest =>
      obtain rfl := Option.some.inj stepped
      by_cases same : other = ref
      · by_cases reached : .finite s ≤ u <;> simp [tickOf, ceilingOf, unpaid, same, reached]
      · simp [tickOf, ceilingOf, unpaid, same]
  | countedTick other u rest =>
      obtain rfl := Option.some.inj stepped
      by_cases same : other = ref
      · by_cases reached : .finite s ≤ u <;> simp [tickOf, ceilingOf, unpaid, same, reached]
      · simp [tickOf, ceilingOf, unpaid, same]

end Samples

end SamplerPhase

namespace MeteredRun

/-- The system serves the configuration, and the round is about its backends. -/
structure Configured (config : Config) (state : MeteredRun F) : Prop where
  routed : state.system.run.Configured config
  left : state.sampler.left <:+ List.range config.backends.length

theorem Configured.inside {config : Config} {state : MeteredRun F}
    (configured : state.Configured config) {ref : BackendRef} (listed : ref ∈ state.sampler.left) :
    ref < config.backends.length :=
  List.mem_range.mp (configured.left.subset listed)

theorem Configured.uncounted_le {config : Config} {state : MeteredRun F}
    (configured : state.Configured config) (ref : BackendRef) :
    state.sampler.uncounted.count ref ≤ 1 := by
  have suffix := state.sampler.uncounted_suffix.trans configured.left
  exact List.nodup_iff_count_le_one.mp (List.nodup_range.sublist suffix.sublist) ref

theorem configured_initial (config : Config) (strategy : RoutingStrategy)
    (routeHists : RouteHistograms F) :
    (initial config.heap (config.router strategy routeHists)).Configured config where
  routed := .initial config strategy routeHists
  left := List.nil_suffix

/-- The ticks that are counted for a backend. -/
def ticks (state : MeteredRun F) (ref : BackendRef) : ℕ :=
  state.registry.count (.occupancyTicks (state.system.run.heap ref).key)

/-- The ticks at the ceiling that are counted for a backend. -/
def ceilingTicks (state : MeteredRun F) (ref : BackendRef) : ℕ :=
  state.registry.count (.ticksAtCeiling (state.system.run.heap ref).key)

theorem count_recordOpened (registry : Registry) (b : Backend) (key : MetricKey) :
    (recordOpened registry b).count key = registry.count key := rfl

theorem count_record {key : MetricKey} (tick : Registry.isTickCounter key.name = true)
    (registry : Registry) (before after : SystemRun F) (event : SystemEvent F) :
    (record registry before after event).count key = registry.count key := by
  have called (calls : List Effect) :
      (calls.foldl Registry.applyEffect registry).count key = registry.count key :=
    Registry.count_foldl
      (fun _ call => Registry.count_applyEffect (Registry.not_isRequestCounter tick) call) calls
  cases event with
  | router event =>
      cases event with
      | arrive parts now => rfl
      | advance id event =>
          unfold record recordRouter
          dsimp only
          split
          · rw [count_recordOpened]
            exact called _
          · exact called _
  | recordFailure | recordSuccess | nextSnapshot => rfl
  | scrape ref scraped =>
      exact Registry.count_foldl
        (fun _ call => Registry.count_applySignal (Registry.ne_scrapeTotal tick) call) _

section Steps

variable [DecayNumber F] {maxSignalAge : Instant} {libraries : Libraries} {sigma : ExactFloat}
  {config : Config} {state next : MeteredRun F} {event : MeteredEvent F}

/-- A step is one of the system, which leaves the sampler and its counters alone,
the start of a round, or one of the sampler. -/
theorem step_cases (stepped : state.step maxSignalAge libraries sigma event = some next) :
    (∃ systemEvent, event = .system systemEvent ∧
      state.system.step maxSignalAge libraries systemEvent = some next.system ∧
      next.sampler = state.sampler ∧
      ∀ key : MetricKey, Registry.isTickCounter key.name = true →
        next.registry.count key = state.registry.count key) ∨
    (event = .tick ∧ state.sampler = .waiting ∧
      next = { state with sampler := .sampling state.system.run.router.snapshot.backends }) ∨
    (event = .sample ∧ next.system = state.system ∧
      state.sampler.sample sigma state.system.run.heap state.registry =
        some (next.sampler, next.registry)) := by
  cases event with
  | system systemEvent =>
      obtain ⟨system, advanced, rfl⟩ := Option.map_eq_some_iff.mp stepped
      exact .inl ⟨systemEvent, rfl, advanced, rfl, fun key tick => count_record tick _ _ _ _⟩
  | tick =>
      obtain ⟨sampler, ticked, rfl⟩ := Option.map_eq_some_iff.mp stepped
      obtain ⟨waits, rfl⟩ := SamplerPhase.tick_eq_some ticked
      exact .inr (.inl ⟨rfl, waits, rfl⟩)
  | sample =>
      obtain ⟨sampled, taken, rfl⟩ := Option.map_eq_some_iff.mp stepped
      exact .inr (.inr ⟨rfl, rfl, taken⟩)

theorem configured_step (configured : state.Configured config)
    (stepped : state.step maxSignalAge libraries sigma event = some next) :
    next.Configured config := by
  rcases step_cases stepped with ⟨systemEvent, -, advanced, sampler, -⟩ | ⟨-, -, rfl⟩ |
    ⟨-, system, taken⟩
  · refine ⟨SystemRun.configured_step configured.routed advanced, ?_⟩
    rw [sampler]
    exact configured.left
  · refine ⟨configured.routed, ?_⟩
    change state.system.run.router.snapshot.backends <:+ _
    rw [configured.routed.backends]
  · refine ⟨?_, (SamplerPhase.left_sample taken).trans configured.left⟩
    rw [system]
    exact configured.routed

/-- What a step does to the sampler and to the counters of one backend. -/
inductive Counts (config : Config) (sigma : ExactFloat) (ref : BackendRef)
    (state next : MeteredRun F) : MeteredEvent F → Prop where
  | system (event : SystemEvent F) (sampler : next.sampler = state.sampler)
      (ticks : next.ticks ref = state.ticks ref)
      (ceilingTicks : next.ceilingTicks ref = state.ceilingTicks ref) :
      Counts config sigma ref state next (.system event)
  | tick (waits : state.sampler = .waiting)
      (sampler : next.sampler = .sampling (List.range config.backends.length))
      (ticks : next.ticks ref = state.ticks ref)
      (ceilingTicks : next.ceilingTicks ref = state.ceilingTicks ref) :
      Counts config sigma ref state next .tick
  | sample (taken : state.sampler.sample sigma state.system.run.heap state.registry =
        some (next.sampler, next.registry))
      (ticks : next.ticks ref = state.ticks ref + state.sampler.tickOf ref)
      (ceilingTicks : next.ceilingTicks ref =
        state.ceilingTicks ref + state.sampler.ceilingOf sigma ref) :
      Counts config sigma ref state next .sample

theorem counts_of_step (configured : state.Configured config)
    (distinct : (config.backends.map RawBackend.url).Nodup) {ref : BackendRef}
    (inside : ref < config.backends.length)
    (stepped : state.step maxSignalAge libraries sigma event = some next) :
    Counts config sigma ref state next event := by
  rcases step_cases stepped with ⟨systemEvent, rfl, advanced, sampler, kept⟩ | ⟨rfl, waits, rfl⟩ |
    ⟨rfl, system, taken⟩
  · have key : (next.system.run.heap ref).key = (state.system.run.heap ref).key := by
      rw [(SystemRun.configured_step configured.routed advanced).key ref, configured.routed.key ref]
    refine .system systemEvent sampler ?_ ?_
    · rw [ticks, key, kept _ rfl, ticks]
    · rw [ceilingTicks, key, kept _ rfl, ceilingTicks]
  · exact .tick waits (congrArg SamplerPhase.sampling configured.routed.backends) rfl rfl
  · have own : ∀ other ∈ state.sampler.left, other ≠ ref →
        (state.system.run.heap other).key ≠ (state.system.run.heap ref).key := by
      intro other listed apart
      rw [configured.routed.key other, configured.routed.key ref]
      exact Config.heap_key_ne distinct (configured.inside listed) inside apart
    refine .sample taken ?_ ?_
    · rw [ticks, system]
      exact SamplerPhase.ticks_sample taken own
    · rw [ceilingTicks, system]
      exact SamplerPhase.ceiling_sample taken own

end Steps

section Laws

variable {config : Config} {s : ℚ} {ref : BackendRef} {state next : MeteredRun F}
  {event : MeteredEvent F} (counts : Counts config (.finite s) ref state next event)
include counts

/-- Every tick of the loop is owed to every backend. -/
theorem Counts.uncounted (inside : ref < config.backends.length) :
    next.ticks ref + next.sampler.uncounted.count ref =
      state.ticks ref + state.sampler.uncounted.count ref + if event.isTick then 1 else 0 := by
  cases counts with
  | system event sampler ticks _ =>
      rw [sampler, ticks]
      rfl
  | tick waits sampler ticks _ =>
      have once : (List.range config.backends.length).count ref = 1 :=
        List.count_eq_one_of_mem List.nodup_range (List.mem_range.mpr inside)
      rw [sampler, ticks, waits]
      exact congrArg (state.ticks ref + ·) once
  | sample taken ticks _ =>
      have owed : state.sampler.tickOf ref + next.sampler.uncounted.count ref =
          state.sampler.uncounted.count ref := SamplerPhase.uncounted_sample taken
      rw [ticks]
      simp only [MeteredEvent.isTick, Bool.false_eq_true, if_false]
      omega

theorem Counts.ordered
    (before : state.ceilingTicks ref + state.sampler.counted ref ≤ state.ticks ref) :
    next.ceilingTicks ref + next.sampler.counted ref ≤ next.ticks ref := by
  cases counts with
  | system event sampler ticks ceilingTicks =>
      rw [sampler, ticks, ceilingTicks]
      exact before
  | tick waits sampler ticks ceilingTicks =>
      rw [waits] at before
      rw [sampler, ticks, ceilingTicks]
      exact before
  | sample taken ticks ceilingTicks =>
      have paired : state.sampler.ceilingOf (.finite s) ref + next.sampler.counted ref ≤
          state.sampler.tickOf ref + state.sampler.counted ref :=
        SamplerPhase.counted_sample taken
      omega

variable {caps : CapsEstimate} (same : (state.system.run.heap ref).caps = caps)
  (positive : caps.Positive)
include same positive

theorem Counts.due (below : occupancy (state.system.run.heap ref) < .finite s) :
    next.ceilingTicks ref + next.sampler.due (.finite s) caps ref =
      state.ceilingTicks ref + state.sampler.due (.finite s) caps ref := by
  subst same
  cases counts with
  | system event sampler _ ceilingTicks => rw [sampler, ceilingTicks]
  | tick waits sampler _ ceilingTicks =>
      rw [sampler, ceilingTicks, waits]
      rfl
  | sample taken _ ceilingTicks =>
      have paid : state.sampler.ceilingOf (.finite s) ref + next.sampler.due (.finite s) _ ref = _ :=
        SamplerPhase.due_sample taken positive below
      omega

theorem Counts.unpaid {resource : Resource}
    (above : .finite s ≤ resource.fraction (state.system.run.heap ref)) :
    (next.ticks ref : ℤ) - next.ceilingTicks ref +
        next.sampler.unpaid (.finite s) caps ref resource ≤
      state.ticks ref - state.ceilingTicks ref +
        state.sampler.unpaid (.finite s) caps ref resource := by
  subst same
  cases counts with
  | system event sampler ticks ceilingTicks => rw [sampler, ticks, ceilingTicks]
  | tick waits sampler ticks ceilingTicks =>
      rw [sampler, ticks, ceilingTicks, waits]
      rfl
  | sample taken ticks ceilingTicks =>
      have paid : (state.sampler.tickOf ref : ℤ) - state.sampler.ceilingOf (.finite s) ref +
          next.sampler.unpaid (.finite s) _ ref resource ≤ _ :=
        SamplerPhase.unpaid_sample taken positive above
      omega

end Laws

/-! ## Whose counters there are -/

/-- One of the keys of the backends. -/
def Serves (config : Config) (key : String) : Prop :=
  ∃ ref < config.backends.length, (config.heap ref).key = key

theorem countsFor_record {served : String → Prop} {registry : Registry}
    (counts : registry.CountsFor served) (before after : SystemRun F) (event : SystemEvent F) :
    (record registry before after event).CountsFor served := by
  have called (calls : List Effect) : (calls.foldl Registry.applyEffect registry).CountsFor served :=
    Registry.CountsFor.foldl (fun _ call counts => counts.applyEffect call) calls counts
  cases event with
  | router event =>
      cases event with
      | arrive parts now => exact counts
      | advance id event =>
          unfold record recordRouter
          dsimp only
          split
          · exact called _
          · exact called _
  | recordFailure | recordSuccess | nextSnapshot => exact counts
  | scrape ref scraped =>
      exact Registry.CountsFor.foldl (fun _ call counts => counts.applySignal call) _ counts

theorem countsFor_sample {served : String → Prop} {sigma : ExactFloat} {heap : Heap}
    {registry : Registry} (counts : registry.CountsFor served) {phase : SamplerPhase}
    {sampled : SamplerPhase × Registry} (stepped : phase.sample sigma heap registry = some sampled)
    (own : ∀ ref ∈ phase.left, served (heap ref).key) : sampled.2.CountsFor served := by
  cases phase with
  | waiting => cases stepped
  | sampling rest => cases rest <;> obtain rfl := Option.some.inj stepped <;> exact counts
  | loadedInflight ref inflight rest | loadedOccupancy ref u rest =>
      obtain rfl := Option.some.inj stepped
      exact counts
  | recordedKv ref u rest =>
      obtain rfl := Option.some.inj stepped
      have recorded : (registry.recordInflight (heap ref).key
          (heap ref).live.inflight).CountsFor served := counts
      exact recorded.recordTick (own ref List.mem_cons_self)
  | countedTick ref u rest =>
      obtain rfl := Option.some.inj stepped
      exact counts.recordAtCeiling (own ref List.mem_cons_self) _

/-! ## Runs -/

section Runs

variable [DecayNumber F] {maxSignalAge : Instant} {libraries : Libraries} {sigma : ExactFloat}
  {config : Config}

theorem configured_run {strategy : RoutingStrategy} {routeHists : RouteHistograms F}
    {events : List (MeteredEvent F)} {state : MeteredRun F}
    (executed : EventRun.run (step maxSignalAge libraries sigma)
      (initial config.heap (config.router strategy routeHists)) events = some state) :
    state.Configured config := by
  apply EventRun.run_preserves _ _ executed
  · exact fun _ _ _ => configured_step
  · exact configured_initial config strategy routeHists

theorem countsFor_run {strategy : RoutingStrategy} {routeHists : RouteHistograms F}
    {events : List (MeteredEvent F)} {state : MeteredRun F}
    (executed : EventRun.run (step maxSignalAge libraries sigma)
      (initial config.heap (config.router strategy routeHists)) events = some state) :
    state.registry.CountsFor (Serves config) := by
  have preserved (state : MeteredRun F) (event : MeteredEvent F) (next : MeteredRun F)
      (before : state.Configured config ∧ state.registry.CountsFor (Serves config))
      (stepped : state.step maxSignalAge libraries sigma event = some next) :
      next.Configured config ∧ next.registry.CountsFor (Serves config) := by
    refine ⟨configured_step before.1 stepped, ?_⟩
    cases event with
    | system event =>
        obtain ⟨system, -, rfl⟩ := Option.map_eq_some_iff.mp stepped
        exact countsFor_record before.2 _ _ event
    | tick =>
        obtain ⟨sampler, -, rfl⟩ := Option.map_eq_some_iff.mp stepped
        exact before.2
    | sample =>
        obtain ⟨sampled, taken, rfl⟩ := Option.map_eq_some_iff.mp stepped
        apply countsFor_sample before.2 taken
        intro ref listed
        exact ⟨ref, before.1.inside listed, (before.1.routed.key ref).symm⟩
  exact (EventRun.run_preserves preserved
    ⟨configured_initial config strategy routeHists, .empty⟩ executed).2

variable (distinct : (config.backends.map RawBackend.url).Nodup) {ref : BackendRef}
  (inside : ref < config.backends.length) {s : ℚ} {first last : MeteredRun F}
  {events : List (MeteredEvent F)} (configured : first.Configured config)
  (continued : EventRun.run (step maxSignalAge libraries (.finite s)) first events = some last)
include distinct inside

/-- A tick is counted or still owed for every tick of the loop. -/
theorem ticks_run (configured : first.Configured config)
    (continued : EventRun.run (step maxSignalAge libraries (.finite s)) first events = some last) :
    last.ticks ref + last.sampler.uncounted.count ref =
      first.ticks ref + first.sampler.uncounted.count ref + events.countP MeteredEvent.isTick :=
  EventRun.run_tallies (fun _ _ _ => configured_step)
    (fun _ _ _ configured stepped =>
      (counts_of_step configured distinct inside stepped).uncounted inside)
    configured continued

theorem ceilingTicks_le {strategy : RoutingStrategy} {routeHists : RouteHistograms F}
    (executed : EventRun.run (step maxSignalAge libraries (.finite s))
      (initial config.heap (config.router strategy routeHists)) events = some last) :
    last.ceilingTicks ref + last.sampler.counted ref ≤ last.ticks ref := by
  have preserved (state : MeteredRun F) (event : MeteredEvent F) (next : MeteredRun F)
      (before : state.Configured config ∧
        state.ceilingTicks ref + state.sampler.counted ref ≤ state.ticks ref)
      (stepped : state.step maxSignalAge libraries (.finite s) event = some next) :
      next.Configured config ∧
        next.ceilingTicks ref + next.sampler.counted ref ≤ next.ticks ref :=
    ⟨configured_step before.1 stepped,
      (counts_of_step before.1 distinct inside stepped).ordered before.2⟩
  have unsampled : (initial config.heap (config.router strategy routeHists)).ceilingTicks ref +
      SamplerPhase.counted ref .waiting ≤
        (initial config.heap (config.router strategy routeHists)).ticks ref := by
    simp [ceilingTicks, initial, SamplerPhase.counted]
  exact (EventRun.run_preserves preserved
    ⟨configured_initial config strategy routeHists, unsampled⟩ executed).2

variable (positive : (config.heap ref).caps.Positive)
include positive

theorem due_run (configured : first.Configured config)
    (below : EventRun.Guarded (step maxSignalAge libraries (.finite s))
      (fun state _ => occupancy (state.system.run.heap ref) < .finite s) first events)
    (continued : EventRun.run (step maxSignalAge libraries (.finite s)) first events = some last) :
    last.ceilingTicks ref + last.sampler.due (.finite s) (config.heap ref).caps ref =
      first.ceilingTicks ref + first.sampler.due (.finite s) (config.heap ref).caps ref := by
  have preserved (state : MeteredRun F) (event : MeteredEvent F) (next : MeteredRun F)
      (below : occupancy (state.system.run.heap ref) < .finite s)
      (before : state.Configured config ∧
        state.ceilingTicks ref + state.sampler.due (.finite s) (config.heap ref).caps ref =
          first.ceilingTicks ref + first.sampler.due (.finite s) (config.heap ref).caps ref)
      (stepped : state.step maxSignalAge libraries (.finite s) event = some next) :
      next.Configured config ∧
        next.ceilingTicks ref + next.sampler.due (.finite s) (config.heap ref).caps ref =
          first.ceilingTicks ref + first.sampler.due (.finite s) (config.heap ref).caps ref := by
    have counts := counts_of_step before.1 distinct inside stepped
    exact ⟨configured_step before.1 stepped,
      (counts.due (before.1.routed.caps ref) positive below).trans before.2⟩
  exact (EventRun.run_preserves_of_guarded preserved below ⟨configured, rfl⟩ continued).2

theorem unpaid_run (configured : first.Configured config) (resource : Resource)
    (above : EventRun.Guarded (step maxSignalAge libraries (.finite s))
      (fun state _ => .finite s ≤ resource.fraction (state.system.run.heap ref)) first events)
    (continued : EventRun.run (step maxSignalAge libraries (.finite s)) first events = some last) :
    (last.ticks ref : ℤ) - last.ceilingTicks ref +
        last.sampler.unpaid (.finite s) (config.heap ref).caps ref resource ≤
      first.ticks ref - first.ceilingTicks ref +
        first.sampler.unpaid (.finite s) (config.heap ref).caps ref resource := by
  have preserved (state : MeteredRun F) (event : MeteredEvent F) (next : MeteredRun F)
      (above : .finite s ≤ resource.fraction (state.system.run.heap ref))
      (before : state.Configured config ∧
        (state.ticks ref : ℤ) - state.ceilingTicks ref +
            state.sampler.unpaid (.finite s) (config.heap ref).caps ref resource ≤
          first.ticks ref - first.ceilingTicks ref +
            first.sampler.unpaid (.finite s) (config.heap ref).caps ref resource)
      (stepped : state.step maxSignalAge libraries (.finite s) event = some next) :
      next.Configured config ∧
        (next.ticks ref : ℤ) - next.ceilingTicks ref +
            next.sampler.unpaid (.finite s) (config.heap ref).caps ref resource ≤
          first.ticks ref - first.ceilingTicks ref +
            first.sampler.unpaid (.finite s) (config.heap ref).caps ref resource := by
    have counts := counts_of_step before.1 distinct inside stepped
    exact ⟨configured_step before.1 stepped,
      (counts.unpaid (before.1.routed.caps ref) positive above).trans before.2⟩
  exact (EventRun.run_preserves_of_guarded preserved above ⟨configured, le_rfl⟩ continued).2

end Runs

end MeteredRun

namespace SamplerPhase

variable (sigma : ExactFloat) (caps : CapsEstimate) (ref : BackendRef) (phase : SamplerPhase)

theorem due_le : phase.due sigma caps ref ≤ 1 := by
  cases phase <;> simp only [due] <;> first | exact Nat.zero_le 1 | (split <;> decide)

theorem unpaid_bounds (resource : Resource) :
    -1 ≤ phase.unpaid sigma caps ref resource ∧ phase.unpaid sigma caps ref resource ≤ 1 := by
  cases phase <;> simp only [unpaid] <;> first | decide | (split <;> decide)

end SamplerPhase

namespace MeteredRun

section Measures

variable [DecayNumber F] (maxSignalAge : Instant) (libraries : Libraries) {raw : RawConfig}
  {config : Config} (accepted : raw.validate = .ok config) {strategy : RoutingStrategy}
  {routeHists : RouteHistograms F} {earlier events : List (MeteredEvent F)}
  {first last : MeteredRun F}
include accepted

/-- Between any two states of a run, a tick is counted for a backend in every round
but one that is under way, and no backend has more ticks at the ceiling than ticks.
While a backend stays below the ceiling, at most the sample under way counts as one
at the ceiling; while a resource of it stays at the ceiling, at most the samples
under way at both ends do not. -/
theorem occupancy_ticks_measure
    (started : EventRun.run (step maxSignalAge libraries config.sigma)
      (initial config.heap (config.router strategy routeHists)) earlier = some first)
    (continued : EventRun.run (step maxSignalAge libraries config.sigma) first events = some last)
    {ref : BackendRef} (inside : ref < config.backends.length) :
    last.ceilingTicks ref ≤ last.ticks ref ∧
      (last.ticks ref ≤ first.ticks ref + events.countP MeteredEvent.isTick + 1 ∧
        first.ticks ref + events.countP MeteredEvent.isTick ≤ last.ticks ref + 1) ∧
      (EventRun.Guarded (step maxSignalAge libraries config.sigma)
          (fun state _ => occupancy (state.system.run.heap ref) < config.sigma) first events →
        last.ceilingTicks ref ≤ first.ceilingTicks ref + 1) ∧
      ∀ resource : Resource, EventRun.Guarded (step maxSignalAge libraries config.sigma)
          (fun state _ => config.sigma ≤ resource.fraction (state.system.run.heap ref))
          first events →
        last.ticks ref + first.ceilingTicks ref ≤ first.ticks ref + last.ceilingTicks ref + 2 := by
  have distinct := RawConfig.urls_distinct accepted
  have positive := RawConfig.caps_positive accepted inside
  obtain ⟨s, sigma, -, -⟩ := RawConfig.exists_sigma accepted
  rw [sigma] at started continued ⊢
  have configured := configured_run started
  have whole : EventRun.run (step maxSignalAge libraries (.finite s))
      (initial config.heap (config.router strategy routeHists)) (earlier ++ events) = some last :=
    (EventRun.run_append_of_run started events).trans continued
  refine ⟨?_, ?_, ?_, ?_⟩
  · have ordered := ceilingTicks_le distinct inside whole
    omega
  · have owedFirst := configured.uncounted_le ref
    have owedLast := (configured_run whole).uncounted_le ref
    have ticks := ticks_run distinct inside configured continued
    omega
  · intro below
    have dueFirst := first.sampler.due_le (.finite s) (config.heap ref).caps ref
    have paid := due_run distinct inside positive configured below continued
    omega
  · intro resource above
    have boundsFirst := first.sampler.unpaid_bounds (.finite s) (config.heap ref).caps ref resource
    have boundsLast := last.sampler.unpaid_bounds (.finite s) (config.heap ref).caps ref resource
    have paid := unpaid_run distinct inside positive configured resource above continued
    omega

end Measures

section Crossing

open RouterRun (chatLibraries chatParts chatRouted chatArrival chatRouter ReadsChat)

/-- Two backends of one slot each. -/
def oneSlotEach : RawConfig :=
  { twoBackends defaultPenalty with
    backends := [⟨"http://a", "m", 8192, 1, defaultWeight⟩,
      ⟨"http://b", "m", 8192, 1, defaultWeight⟩] }

theorem oneSlotEach_accepted : oneSlotEach.validate = .ok oneSlotEach.toConfig :=
  RawConfig.validate_eq_ok_iff.mpr
    ⟨RawConfig.checked_of_defaults _ defaultPenalty (by simp) (by decide +kernel), rfl⟩

/-- A chat request that arrives and is read leaves the metrics alone. -/
theorem run_chatArrival (sigma : ExactFloat) {router : RouterState ℝ}
    (readsChat : ReadsChat router) (heap : Heap) :
    EventRun.run (step 0 chatLibraries sigma) (initial heap router)
        ((chatArrival 0).map fun event => .system (.router event)) =
      some { initial heap router with
        system := { SystemRun.initial heap router with
          run := ⟨heap, router, [chatRouted]⟩ } } := by
  have read : SystemRun.step 0 chatLibraries
      { SystemRun.initial heap router with run := ⟨heap, router, [.arrived chatParts 0]⟩ }
      (.router (.advance 0 (.bodyRead (.ok (chatBytes "\x7b\x7d"))))) =
        some { SystemRun.initial heap router with run := ⟨heap, router, [chatRouted]⟩ } :=
    Option.map_eq_some_iff.mpr ⟨_, RouterRun.step_bodyRead_chat readsChat heap [], rfl⟩
  exact EventRun.run_cons_eq_some.mpr ⟨_, rfl, EventRun.run_cons_eq_some.mpr
    ⟨_, Option.map_eq_some_iff.mpr ⟨_, read, rfl⟩, rfl⟩⟩

/-- The sampler leaves the system alone. -/
theorem guarded_sampling [DecayNumber F] {maxSignalAge : Instant} {libraries : Libraries}
    {sigma : ExactFloat} (holds : SystemRun F → Prop) {events : List (MeteredEvent F)}
    (own : ∀ event, .system event ∉ events) {state : MeteredRun F} (held : holds state.system) :
    EventRun.Guarded (step maxSignalAge libraries sigma) (fun state _ => holds state.system) state
      events := by
  induction events generalizing state with
  | nil => trivial
  | cons event events ih =>
      refine ⟨held, fun next stepped =>
        ih (fun systemEvent later => own systemEvent (.tail _ later)) ?_⟩
      rcases step_cases stepped with ⟨systemEvent, rfl, -, -, -⟩ | ⟨-, -, rfl⟩ | ⟨-, system, -⟩
      · exact absurd List.mem_cons_self (own systemEvent)
      · exact held
      · exact system ▸ held

/-- A request that opens its lease while the first backend is being sampled: the slots of
the backend are loaded before. -/
def openedBetweenLoads : List (MeteredEvent ℝ) :=
  (chatArrival 0).map (fun event => .system (.router event)) ++
    [.tick, .sample, .system (.router (.advance 0 (.pick .first))),
      .system (.router (.advance 0 .openLease))]

/-- The rest of that round, and another one. -/
def twoRounds : List (MeteredEvent ℝ) :=
  List.replicate 10 .sample ++ .tick :: List.replicate 11 .sample

noncomputable def oneSlotStarted : MeteredRun ℝ :=
  initial oneSlotEach.toConfig.heap
    (oneSlotEach.toConfig.router (.roundRobin 0) (chatRouter (.roundRobin 0)).routeHists)

theorem exists_crossing :
    ∃ first last : MeteredRun ℝ,
      EventRun.run (step 0 chatLibraries defaultSigma) oneSlotStarted openedBetweenLoads =
        some first ∧
      EventRun.run (step 0 chatLibraries defaultSigma) first twoRounds = some last ∧
      first.sampler = .loadedInflight 0 0 [1] ∧
      first.system.run.heap = (CostLease.open 0 1 128 .promptOnly 0 oneSlotEach.toConfig.heap).2 ∧
      last.ticks 0 = 2 ∧ last.ceilingTicks 0 = 1 := by
  have started : EventRun.run (step 0 chatLibraries defaultSigma) oneSlotStarted
      openedBetweenLoads = some _ :=
    (EventRun.run_append_of_run (run_chatArrival defaultSigma ⟨rfl, rfl⟩
      oneSlotEach.toConfig.heap) _).trans rfl
  refine ⟨_, _, started, rfl, rfl, rfl, ?_, ?_⟩
  · decide +kernel
  · decide +kernel

/-- The first round misses the lease and the second counts it.  The whole run crosses the
ceiling between two loads; behind the crossing the first backend stays at the ceiling and
the second below it. -/
theorem occupancy_ticks_measure_crossing :
    ∃ first last : MeteredRun ℝ,
      EventRun.run (step 0 chatLibraries defaultSigma) oneSlotStarted openedBetweenLoads =
        some first ∧
      EventRun.run (step 0 chatLibraries defaultSigma) first twoRounds = some last ∧
      first.sampler = .loadedInflight 0 0 [1] ∧
      defaultSigma ≤ Resource.slots.fraction (first.system.run.heap 0) ∧
      last.ticks 0 = 2 ∧ last.ceilingTicks 0 = 1 ∧
      last.ticks 0 ≤ oneSlotStarted.ticks 0 + 2 + 1 ∧
      last.ticks 0 + first.ceilingTicks 0 ≤ first.ticks 0 + last.ceilingTicks 0 + 2 ∧
      last.ceilingTicks 1 ≤ first.ceilingTicks 1 + 1 := by
  obtain ⟨first, last, started, continued, loaded, heap, ticks, ceilingTicks⟩ := exists_crossing
  have above : defaultSigma ≤ Resource.slots.fraction (first.system.run.heap 0) := by
    rw [heap]
    decide +kernel
  have below : occupancy (first.system.run.heap 1) < defaultSigma := by
    rw [heap]
    decide +kernel
  have own (event : SystemEvent ℝ) : .system event ∉ twoRounds := by simp [twoRounds]
  have whole := @occupancy_ticks_measure ℝ _ 0 chatLibraries _ _ oneSlotEach_accepted
    (.roundRobin 0) (chatRouter (.roundRobin 0)).routeHists [] (openedBetweenLoads ++ twoRounds)
    oneSlotStarted last rfl ((EventRun.run_append_of_run started _).trans continued) 0 (by decide)
  have full := @occupancy_ticks_measure ℝ _ 0 chatLibraries _ _ oneSlotEach_accepted
    (.roundRobin 0) (chatRouter (.roundRobin 0)).routeHists openedBetweenLoads twoRounds first last
    started continued 0 (by decide)
  have idle := @occupancy_ticks_measure ℝ _ 0 chatLibraries _ _ oneSlotEach_accepted
    (.roundRobin 0) (chatRouter (.roundRobin 0)).routeHists openedBetweenLoads twoRounds first last
    started continued 1 (by decide)
  refine ⟨first, last, started, continued, loaded, above, ticks, ceilingTicks, whole.2.1.1,
    full.2.2.2 .slots ?_, idle.2.2.1 ?_⟩
  · exact guarded_sampling (fun system => defaultSigma ≤ Resource.slots.fraction (system.run.heap 0))
      own above
  · exact guarded_sampling (fun system => occupancy (system.run.heap 1) < defaultSigma) own below

end Crossing

end MeteredRun

end KeelRouter
