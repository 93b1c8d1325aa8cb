import KeelRouter.PassiveEjection
import KeelRouter.SystemLeases
import KeelRouter.UpstreamBases

/-!
# Safety of the whole system

The executions of the handler change nothing of a backend but its live counters,
so the backends keep their ids and the snapshot in force is the one that was
rebuilt last.  On such a snapshot no pick panics, and the only panic that any
order of steps can end in is the one in the rewriting of a request's body.

A pick goes to a backend that was not ejected when the snapshot was taken, and
there is no answer without a backend unless all were ejected at that moment.
-/

namespace KeelRouter

variable {F : Type}

/-! ## What the executions leave alone -/

/-- Everything of a backend but its live counters. -/
def Backend.SameButLive (first second : Backend) : Prop :=
  first = { second with live := first.live }

namespace Backend.SameButLive

theorem refl (backend : Backend) : backend.SameButLive backend := rfl

theorem trans {first second third : Backend} (left : first.SameButLive second)
    (right : second.SameButLive third) : first.SameButLive third := by
  unfold Backend.SameButLive at *
  rw [left, right]

end Backend.SameButLive

theorem Heap.modifyLive_sameButLive (heap : Heap) (ref other : BackendRef)
    (update : LiveCounters → LiveCounters) :
    (heap.modifyLive ref update other).SameButLive (heap other) :=
  Heap.modifyLive_eq heap ref other update

namespace CostLease

variable (lease : CostLease) (heap : Heap) (ref : BackendRef)

theorem open_sameButLive (backend : BackendRef) (promptTokens oHat : UInt32) (kvModel : KvModel)
    (now : Instant) :
    ((CostLease.open backend promptTokens oHat kvModel now heap).2 ref).SameButLive
      (heap ref) := by
  unfold CostLease.open Heap.fetchAddInflight Heap.fetchAddKvProjected
  dsimp only
  exact (Heap.modifyLive_sameButLive _ _ _ _).trans (Heap.modifyLive_sameButLive heap backend ref _)

theorem observeTokens_sameButLive (n : UInt32) :
    ((lease.observeTokens n heap).2 ref).SameButLive (heap ref) := by
  unfold observeTokens Heap.fetchAddKvProjected
  dsimp only
  split
  · split
    · dsimp only
      exact Heap.modifyLive_sameButLive heap _ ref _
    · exact .refl _
  · exact .refl _

theorem drop_sameButLive : ((lease.drop heap) ref).SameButLive (heap ref) := by
  unfold drop release Heap.fetchSubInflight Heap.fetchSubKvProjected
  split
  · exact .refl _
  · dsimp only
    exact (Heap.modifyLive_sameButLive _ _ _ _).trans
      (Heap.modifyLive_sameButLive heap lease.backend ref _)

end CostLease

theorem LeaseUse.sameButLive {before after : Option CostLease × Heap}
    (used : LeaseUse before after) (ref : BackendRef) :
    (after.2 ref).SameButLive (before.2 ref) := by
  cases used with
  | keep => exact .refl _
  | observe count held =>
      induction count generalizing held with
      | zero => exact .refl _
      | succ count ih =>
          rw [Function.iterate_succ_apply]
          exact (ih (observeToken held)).trans (held.1.observeTokens_sameButLive held.2 ref 1)
  | drop lease heap => exact lease.drop_sameButLive heap ref

namespace HandlerState

variable [DecayNumber F] {libraries : Libraries} {state after : HandlerState F}
  {event : HandlerEvent F}

theorem sameButLive_of_steps (stepped : state.Steps libraries event after) (ref : BackendRef) :
    (after.heap ref).SameButLive (state.heap ref) := by
  rcases opens_or_leaseUse_of_steps stepped with
    ⟨-, features, body, backend, fellThrough, -, rfl⟩ | used
  · exact CostLease.open_sameButLive state.heap ref backend features.promptTokens
      features.expectedOutputTokens state.router.kvModel state.handler.now
  · exact used.sameButLive ref

end HandlerState

/-! ## The snapshot in force -/

/-- The backends, the snapshot and the record of the health code. -/
def RouterRun.healthRun (run : RouterRun F) (takenFrom : Heap) : HealthRun where
  heap := run.heap
  snapshot := run.router.snapshot
  takenFrom := takenFrom

/-- The system with, for the record, the backends as they were when the snapshot
in force was taken. -/
structure AuditedRun (F : Type) where
  system : SystemRun F
  takenFrom : Heap

namespace AuditedRun

def initial (config : Config) (strategy : RoutingStrategy) (routeHists : RouteHistograms F) :
    AuditedRun F where
  system := .initial config.heap (config.router strategy routeHists)
  takenFrom := config.heap

/-- The backends that the snapshot in force after an event is taken from. -/
def takenAfter (state : AuditedRun F) : SystemEvent F → Heap
  | .nextSnapshot => state.system.run.heap
  | .router _ | .recordFailure _ | .recordSuccess _ | .scrape _ _ => state.takenFrom

def step [DecayNumber F] (maxSignalAge : Instant) (libraries : Libraries) (state : AuditedRun F)
    (event : SystemEvent F) : Option (AuditedRun F) :=
  (state.system.step maxSignalAge libraries event).map fun system =>
    { system, takenFrom := state.takenAfter event }

/-- The ids are the positions, and the snapshot in force lists the backends that
were not ejected when it was taken. -/
def Numbered (length : Nat) (state : AuditedRun F) : Prop :=
  (state.system.run.healthRun state.takenFrom).Numbered length

section Runs

variable [DecayNumber F] {maxSignalAge : Instant} {libraries : Libraries} {length : Nat}

theorem numbered_routed {state : AuditedRun F} {event : RouterEvent F} {run : RouterRun F}
    (numbered : state.Numbered length)
    (stepped : state.system.run.step libraries event = some run) :
    (run.healthRun state.takenFrom).Numbered length := by
  rcases RouterRun.step_cases stepped with ⟨parts, now, -, rfl⟩ |
    ⟨id, event', handler, after, -, -, advanced, rfl⟩
  · exact numbered
  · have sameSnapshot : after.router.snapshot = state.system.run.router.snapshot :=
      (HandlerState.router_of_steps advanced).1
    refine ⟨?_, numbered.takenIds, ?_, ?_⟩
    · intro ref
      exact (congrArg Backend.id (HandlerState.sameButLive_of_steps advanced ref)).trans
        (numbered.ids ref)
    · exact (congrArg Snapshot.backends sameSnapshot).trans numbered.backends
    · exact (congrArg Snapshot.healthy sameSnapshot).trans numbered.healthy

theorem numbered_step {state next : AuditedRun F} {event : SystemEvent F}
    (numbered : state.Numbered length)
    (stepped : state.step maxSignalAge libraries event = some next) : next.Numbered length := by
  obtain ⟨system, advanced, rfl⟩ := Option.map_eq_some_iff.mp stepped
  cases event with
  | router event =>
      obtain ⟨run, routed, rfl⟩ := Option.map_eq_some_iff.mp advanced
      exact (numbered_routed numbered routed :)
  | recordFailure ref =>
      obtain rfl := Option.some.inj advanced
      exact HealthRun.numbered_step numbered (rfl : HealthRun.step _ (.recordFailure ref) = _)
  | recordSuccess ref =>
      obtain rfl := Option.some.inj advanced
      exact HealthRun.numbered_step numbered (rfl : HealthRun.step _ (.recordSuccess ref) = _)
  | nextSnapshot =>
      obtain rfl := Option.some.inj advanced
      exact HealthRun.numbered_step numbered (rfl : HealthRun.step _ .nextSnapshot = _)
  | scrape ref tick =>
      have kept := SystemRun.maintained_scrape maxSignalAge state.system ref tick
      obtain rfl := Option.some.inj advanced
      exact { numbered with ids := fun other => (kept.id other).trans (numbered.ids other) }

theorem numbered_run {config : Config} {strategy : RoutingStrategy}
    {routeHists : RouteHistograms F} {events : List (SystemEvent F)} {state : AuditedRun F}
    (executed : EventRun.run (step maxSignalAge libraries)
      (initial config strategy routeHists) events = some state) :
    state.Numbered config.backends.length := by
  have started : (initial config strategy routeHists).Numbered config.backends.length :=
    HealthRun.numbered_initial config
  exact EventRun.run_preserves (fun _ _ _ => numbered_step) started executed

end Runs

end AuditedRun

/-! ## Panics -/

/-- The panic that a computation ends in. -/
def Outcome.panic? {α : Type*} : Outcome α → Option Panic
  | .error panic => some panic
  | .ok _ => none

theorem Outcome.panic?_eq_some {α : Type*} {outcome : Outcome α} {panic : Panic} :
    Outcome.panic? outcome = some panic ↔ outcome = .error panic := by
  cases outcome <;> simp [Outcome.panic?]

/-- The panic that a step of an execution ends in. -/
def HandlerState.panic? [DecayNumber F] (libraries : Libraries) (state : HandlerState F)
    (event : HandlerEvent F) : Option Panic :=
  match state.handler.phase, event with
  | .readingBody, .bodyRead collected => Outcome.panic? (state.bodyRead libraries collected)
  | .routing features body, .pick rng => Outcome.panic? (state.pick features body rng)
  | _, _ => none

/-- The panic that a step of the system ends in. -/
def SystemRun.panic? [DecayNumber F] (libraries : Libraries) (state : SystemRun F) :
    SystemEvent F → Option Panic
  | .router (.advance id event) =>
      (state.run.handlers[id]?).bind fun handler => (state.run.view handler).panic? libraries event
  | _ => none

theorem requestUsage_eq_error_iff (obj : SerdeJson.Members) (panic : Panic) :
    requestUsage obj = .error panic ↔
      panic = .expectFailed streamOptionsExpectation ∧ ¬ StreamOptionsUsable (.object obj) := by
  rw [← requestUsage_eq_ok_iff]
  unfold requestUsage
  dsimp only
  split
  · simp [eq_comm]
  · simp

theorem ensureUsageRequested_eq_error_iff {codec : SerdeJson.Codec} {bytes : List UInt8}
    {obj : SerdeJson.Members} (parsed : codec.fromSlice bytes = .ok (.object obj)) (panic : Panic) :
    ensureUsageRequested codec bytes true = .error panic ↔
      panic = .expectFailed streamOptionsExpectation ∧ ¬ StreamOptionsUsable (.object obj) := by
  rw [← requestUsage_eq_error_iff]
  unfold ensureUsageRequested
  simp only [parsed, Bool.not_true, Bool.false_eq_true, if_false, SerdeJson.Value.asObject]
  split
  · rename_i decided
    obtain ⟨rebuilt, requested⟩ :=
      (requestUsage_eq_ok_iff obj).mpr (usable_of_alreadyDecided decided)
    simp [requested]
  · cases requested : requestUsage obj with
    | error panicked => simp [bind, Except.bind]
    | ok rebuilt =>
        cases printed : codec.toVec (.object rebuilt) <;>
          simp [bind, Except.bind, pure, Except.pure, printed]

/-- The bytes are a streaming request whose `stream_options` are neither absent
nor an object. -/
def HandlerState.Unrewritable [DecayNumber F] (libraries : Libraries) (state : HandlerState F)
    (bytes : List UInt8) : Prop :=
  ∃ features obj,
    buildFeatures libraries.codec bytes state.handler.now state.router.routeHists
      state.router.tokenCounter = .ok features ∧
    features.streaming = true ∧ libraries.codec.fromSlice bytes = .ok (.object obj) ∧
    ¬ StreamOptionsUsable (.object obj)

theorem HandlerState.bodyRead_eq_error_iff [DecayNumber F] (libraries : Libraries)
    (state : HandlerState F) (collected : Except String (List UInt8)) (panic : Panic) :
    state.bodyRead libraries collected = .error panic ↔
      panic = .expectFailed streamOptionsExpectation ∧
        ∃ bytes, collected = .ok bytes ∧ state.Unrewritable libraries bytes := by
  unfold bodyRead Unrewritable
  cases collected with
  | error reason => simp [readBody, Except.mapError]
  | ok bytes =>
      dsimp only [readBody, Except.mapError]
      cases built : buildFeatures libraries.codec bytes state.handler.now
          state.router.routeHists state.router.tokenCounter with
      | error reason => simp [built]
      | ok features =>
          obtain ⟨obj, parsed⟩ := object_of_buildFeatures built
          have rewritten := ensureUsageRequested_eq_error_iff parsed panic
          cases streaming : features.streaming with
          | false => simp [built, streaming, ensureUsageRequested, bind, Except.bind, pure, Except.pure]
          | true =>
              cases ensured : ensureUsageRequested libraries.codec bytes true with
              | error panicked =>
                  rw [ensured] at rewritten
                  simpa [built, streaming, parsed, bind, Except.bind, ensured] using rewritten
              | ok body =>
                  rw [ensured] at rewritten
                  simpa [built, streaming, parsed, bind, Except.bind, ensured, pure, Except.pure]
                    using rewritten

namespace AuditedRun

variable {state : AuditedRun F} {length : Nat}

theorem Numbered.indexed (numbered : state.Numbered length) :
    state.system.run.router.snapshot.Indexed := by
  intro id member
  obtain ⟨ref, inside, -, rfl⟩ := HealthRun.Numbered.mem_healthy numbered |>.mp member
  have listed : state.system.run.router.snapshot.backends = List.range length := numbered.backends
  rw [listed, List.length_range]
  exact lt_of_le_of_lt (Nat.mod_le ref (2 ^ 16)) inside

/-- The pick of an execution that waits for one returns. -/
theorem Numbered.exists_pick (numbered : state.Numbered length) (handler : Handler)
    (features : RequestFeatures) (body : List UInt8) (rng : SmallRng) :
    ∃ after, (state.system.run.view handler).pick features body rng = .ok after := by
  have indexed := numbered.indexed
  unfold HandlerState.pick
  dsimp only
  split
  · exact ⟨_, rfl⟩
  · obtain ⟨⟨picked, after⟩, returned⟩ := RoutingStrategy.pick_total indexed
      state.system.run.router.strategy state.system.run.heap features rng (some .default)
    have chose : (state.system.run.view handler).router.strategy.pick
        (state.system.run.view handler).heap (state.system.run.view handler).router.snapshot features
        rng (some .default) = .ok (picked, after) := returned
    rw [chose]
    cases chosen : picked.chosen with
    | none => exact ⟨_, by simp [bind, Except.bind, chosen, pure, Except.pure]; rfl⟩
    | some id =>
        have member := RoutingStrategy.chosen_mem_healthy indexed returned chosen
        have inRange : (state.system.run.view handler).router.snapshot.backendRef id = .ok _ :=
          Snapshot.backendRef_eq_ok indexed member
        exact ⟨_, by simp [bind, Except.bind, chosen, inRange, pure, Except.pure]; rfl⟩

section Safety

variable [DecayNumber F] (maxSignalAge : Instant) (libraries : Libraries) {config : Config}
  {strategy : RoutingStrategy} {routeHists : RouteHistograms F} {events : List (SystemEvent F)}

/-- In every state that the system reaches, a step panics exactly when it reads a
streaming request whose `stream_options` are neither absent nor an object. -/
theorem only_stream_options_panic
    (executed : EventRun.run (step maxSignalAge libraries)
      (initial config strategy routeHists) events = some state)
    (event : SystemEvent F) (panic : Panic) :
    state.system.panic? libraries event = some panic ↔
      panic = .expectFailed streamOptionsExpectation ∧ ∃ id handler bytes,
        event = .router (.advance id (.bodyRead (.ok bytes))) ∧
        state.system.run.handlers[id]? = some handler ∧ handler.phase = .readingBody ∧
        (state.system.run.view handler).Unrewritable libraries bytes := by
  have numbered := numbered_run executed
  have steady (handler : Handler) (event : HandlerEvent F) :
      (state.system.run.view handler).panic? libraries event = some panic ↔
        handler.phase = .readingBody ∧ ∃ collected, event = .bodyRead collected ∧
          (state.system.run.view handler).bodyRead libraries collected = .error panic := by
    unfold HandlerState.panic?
    split
    · rename_i collected reading
      have phase : handler.phase = .readingBody := reading
      rw [Outcome.panic?_eq_some]
      simp [phase]
    · rename_i features body rng routing
      obtain ⟨after, returned⟩ := numbered.exists_pick handler features body rng
      rw [returned]
      simp [Outcome.panic?]
    · rename_i quiet _
      refine iff_of_false (by simp) ?_
      rintro ⟨phase, collected, rfl, -⟩
      exact quiet collected phase rfl
  constructor
  · intro panicked
    unfold SystemRun.panic? at panicked
    split at panicked
    · rename_i id event
      obtain ⟨handler, present, ended⟩ := Option.bind_eq_some_iff.mp panicked
      obtain ⟨phase, collected, rfl, failed⟩ := (steady handler event).mp ended
      obtain ⟨same, bytes, rfl, unrewritable⟩ :=
        (HandlerState.bodyRead_eq_error_iff libraries _ collected panic).mp failed
      exact ⟨same, id, handler, bytes, rfl, present, phase, unrewritable⟩
    · cases panicked
  · rintro ⟨same, id, handler, bytes, rfl, present, phase, unrewritable⟩
    have failed := (HandlerState.bodyRead_eq_error_iff libraries
      (state.system.run.view handler) (.ok bytes) panic).mpr ⟨same, bytes, rfl, unrewritable⟩
    have ended := (steady handler (.bodyRead (.ok bytes))).mpr ⟨phase, _, rfl, failed⟩
    simp only [SystemRun.panic?, present, Option.bind_some, ended]

end Safety

section NullOptions

open RouterRun (chatParts chatRouter)

def nullLibraries : Libraries where
  codec := .single (chatBytes "null") (chatValue .null) []
  http := .accepting

theorem only_stream_options_panic_null :
    ∃ state : AuditedRun ℝ,
      state.system.panic? nullLibraries
        (.router (.advance 0 (.bodyRead (.ok (chatBytes "null"))))) =
          some (.expectFailed streamOptionsExpectation) := by
  let routeHists := (chatRouter .p2c).routeHists
  let config := (twoBackends defaultPenalty).toConfig
  have executed : EventRun.run (step 0 nullLibraries) (initial config .p2c routeHists)
      [.router (.arrive chatParts 0)] = some _ := rfl
  refine ⟨_, (only_stream_options_panic 0 nullLibraries executed _ _).mpr
    ⟨rfl, 0, _, _, rfl, rfl, rfl, ?_⟩⟩
  refine ⟨_, _, buildFeatures_chatBytes "null" .null [], rfl,
    SerdeJson.Codec.fromSlice_single _ _ _, ?_⟩
  intro usable
  obtain ⟨members, same⟩ := usable .null rfl
  cases same

end NullOptions

end AuditedRun

/-! ## Where requests go -/

/-- A pick changes at most the position of a round robin. -/
theorem Config.Routes.pick {config : Config} {strategy after : RoutingStrategy}
    (routes : config.Routes strategy) {heap : Heap} {snap : Snapshot} {req : RequestFeatures}
    {rng : SmallRng} {trace : Option DecisionTrace} {picked : Picked}
    (returned : strategy.pick heap snap req rng trace = .ok (picked, after)) :
    config.Routes after := by
  cases strategy with
  | roundRobin next =>
      have built : ∃ start, config.buildStrategy = .ok (.roundRobin start) := by
        rcases routes with built | ⟨start, _, built, -⟩
        · exact ⟨next, built⟩
        · exact ⟨start, built⟩
      obtain ⟨start, built⟩ := built
      obtain ⟨⟨_, moved⟩, -, same⟩ := Outcome.map_eq_ok.mp returned
      exact .inr ⟨start, moved, built, (Prod.mk.inj same).2.symm⟩
  | p2c | leastRequests | leastKvts | pressure self =>
      rw [RoutingStrategy.pick_stays (by simp) returned]
      exact routes

theorem RawConfig.caps_positive {raw : RawConfig} {config : Config}
    (accepted : raw.validate = .ok config) {ref : BackendRef}
    (inside : ref < config.backends.length) : (config.heap ref).caps.Positive := by
  obtain ⟨checked, rfl⟩ := RawConfig.validate_eq_ok_iff.mp accepted
  have listed : raw.toConfig.backends[ref]? = some raw.toConfig.backends[ref] :=
    List.getElem?_eq_getElem inside
  obtain ⟨kvNonzero, slotsNonzero⟩ := capacities_of_validateBackends checked.backends _
    (List.getElem_mem inside)
  unfold Config.heap
  rw [listed]
  exact ⟨UInt32.pos_iff_ne_zero.mpr kvNonzero, UInt32.pos_iff_ne_zero.mpr slotsNonzero⟩

theorem RawConfig.urls_distinct {raw : RawConfig} {config : Config}
    (accepted : raw.validate = .ok config) : (config.backends.map RawBackend.url).Nodup := by
  obtain ⟨checked, rfl⟩ := RawConfig.validate_eq_ok_iff.mp accepted
  exact List.pairwise_map.mpr (distinct_of_validateBackends checked.backends).2

theorem RawConfig.exists_sigma {raw : RawConfig} {config : Config}
    (accepted : raw.validate = .ok config) : ∃ s : ℚ, config.sigma = .finite s ∧ 0 < s ∧ s ≤ 1 := by
  obtain ⟨checked, rfl⟩ := RawConfig.validate_eq_ok_iff.mp accepted
  obtain ⟨above, below⟩ := checked.sigma
  obtain ⟨s, finite⟩ := ExactFloat.finite_of_bounded above (.inr below)
  refine ⟨s, finite, ?_, ?_⟩
  · rw [finite] at above
    simpa [ExactFloat.ofNat_eq] using above
  · rw [finite] at below
    simpa [ExactFloat.ofNat_eq] using below

theorem Pressure.pool_ne_nil {self : Pressure} {heap : Heap} {snap : Snapshot}
    {req : RequestFeatures} (nonempty : snap.healthy ≠ []) : self.pool heap snap req ≠ [] := by
  unfold pool
  split
  · exact nonempty
  · rename_i someAdmitted
    simpa using someAdmitted

namespace AuditedRun

/-- What a system keeps of the configuration that it was started with. -/
structure Serving (config : Config) (state : AuditedRun F) : Prop where
  numbered : state.Numbered config.backends.length
  routes : config.Routes state.system.run.router.strategy
  caps : ∀ ref, (state.system.run.heap ref).caps = (config.heap ref).caps

section Serving

variable [DecayNumber F] {maxSignalAge : Instant} {libraries : Libraries} {config : Config}

theorem serving_step {state next : AuditedRun F} {event : SystemEvent F}
    (serving : state.Serving config)
    (stepped : state.step maxSignalAge libraries event = some next) : next.Serving config := by
  have numbered := numbered_step serving.numbered stepped
  obtain ⟨system, advanced, rfl⟩ := Option.map_eq_some_iff.mp stepped
  rcases SystemRun.step_cases advanced with ⟨routerEvent, -, routed⟩ | kept
  · rcases RouterRun.step_cases routed with ⟨parts, now, -, arrived⟩ |
      ⟨id, event', handler, after, -, -, handled, updated⟩
    · refine ⟨numbered, ?_, ?_⟩
      · exact arrived ▸ serving.routes
      · exact arrived ▸ serving.caps
    · refine ⟨numbered, ?_, ?_⟩
      · have kept : config.Routes after.router.strategy := by
          rcases (HandlerState.router_of_steps handled).2.2 with same |
            ⟨features, rng, picked, returned⟩
          · rw [same]
            exact serving.routes
          · exact Config.Routes.pick serving.routes returned
        rw [updated]
        exact kept
      · intro ref
        have same := congrArg Backend.caps (HandlerState.sameButLive_of_steps handled ref)
        rw [updated]
        exact same.trans (serving.caps ref)
  · refine ⟨numbered, ?_, fun ref => (kept.caps ref).trans (serving.caps ref)⟩
    rw [kept.router]
    exact serving.routes

theorem serving_run {strategy : RoutingStrategy} {routeHists : RouteHistograms F}
    (built : config.buildStrategy = .ok strategy) {events : List (SystemEvent F)}
    {state : AuditedRun F}
    (executed : EventRun.run (step maxSignalAge libraries)
      (initial config strategy routeHists) events = some state) : state.Serving config := by
  have started : (initial config strategy routeHists).Serving config :=
    ⟨HealthRun.numbered_initial config, .inl built, fun _ => rfl⟩
  exact EventRun.run_preserves (fun _ _ _ => serving_step) started executed

end Serving

/-- With a healthy backend and a penalty that is a number, every draw picks a
healthy backend. -/
theorem Serving.picksHealthy {state : AuditedRun F} {raw : RawConfig} {config : Config}
    (serving : state.Serving config) (accepted : raw.validate = .ok config)
    (finite : config.penalty.isFinite)
    (nonempty : state.system.run.router.snapshot.healthy ≠ []) (req : RequestFeatures)
    (rng : SmallRng) (trace : Option DecisionTrace) :
    PicksHealthy state.system.run.router.snapshot
      ((state.system.run.router.strategy.pick state.system.run.heap
        state.system.run.router.snapshot req rng trace).map Prod.fst) := by
  have indexed := serving.numbered.indexed
  rw [accepted_strategy_picks_healthy_iff accepted serving.routes indexed nonempty]
  intro self isPressure
  obtain ⟨id, pooled⟩ := List.exists_mem_of_ne_nil _
    (@Pressure.pool_ne_nil self state.system.run.heap _ req nonempty)
  refine ⟨id, pooled, Pressure.ranks_of_finite_penalty ?_ ?_⟩
  · have routes := serving.routes
    rw [isPressure] at routes
    rw [routes.pressure]
    exact finite
  · have listed := Snapshot.refOf_mem indexed (Pressure.mem_healthy_of_mem_pool pooled)
    have backends : state.system.run.router.snapshot.backends =
        List.range config.backends.length := serving.numbered.backends
    rw [backends, List.mem_range] at listed
    rw [serving.caps]
    exact raw.caps_positive accepted listed

/-- Nobody was healthy when the snapshot in force was taken. -/
theorem Numbered.healthy_eq_nil_iff {state : AuditedRun F} {length : Nat}
    (numbered : state.Numbered length) :
    state.system.run.router.snapshot.healthy = [] ↔
      ∀ ref < length, (state.takenFrom ref).health.ejected = true := by
  have rebuilt : state.system.run.router.snapshot.healthy =
      rebuildHealthy state.takenFrom (List.range length) := numbered.healthy
  rw [rebuilt, rebuildHealthy, List.map_eq_nil_iff, List.filter_eq_nil_iff]
  simp

section Routing

variable [DecayNumber F] (maxSignalAge : Instant) (libraries : Libraries) {raw : RawConfig}
  {config : Config} {strategy : RoutingStrategy} {routeHists : RouteHistograms F}
  {events : List (SystemEvent F)} {state : AuditedRun F}

/-- Whatever has happened, a request that waits for a pick gets a backend that
was not ejected when the snapshot in force was taken, and is answered with a 503
exactly when all were. -/
theorem routing_follows_last_snapshot (accepted : raw.validate = .ok config)
    (fits : config.backends.length ≤ 65536) (finite : config.penalty.isFinite)
    (built : config.buildStrategy = .ok strategy)
    (executed : EventRun.run (step maxSignalAge libraries)
      (initial config strategy routeHists) events = some state)
    {id : Nat} {handler : Handler} {features : RequestFeatures} {body : List UInt8}
    (present : state.system.run.handlers[id]? = some handler)
    (waiting : handler.phase = .routing features body) (rng : SmallRng) :
    ∃ next after,
      state.system.step maxSignalAge libraries (.router (.advance id (.pick rng))) = some next ∧
      next.run.handlers[id]? = some after ∧
      if ∀ ref < config.backends.length, (state.takenFrom ref).health.ejected = true then
        after.phase = .finished (.answered 503)
      else
        ∃ backend < config.backends.length, ∃ fellThrough,
          (state.takenFrom backend).health.ejected = false ∧
          after.phase = .picked features body backend fellThrough := by
  have serving := serving_run built executed
  have indexed := serving.numbered.indexed
  have routed {after : HandlerState F}
      (picked : (state.system.run.view handler).pick features body rng = .ok after) :
      ∃ next, state.system.step maxSignalAge libraries (.router (.advance id (.pick rng))) =
          some next ∧ next.run.handlers[id]? = some after.handler := by
    have advanced : HandlerState.step libraries (state.system.run.view handler) (.pick rng) =
        some after :=
      HandlerState.step_pick waiting picked
    exact ⟨_, SystemRun.step_router maxSignalAge (RouterRun.step_advance present advanced),
      RouterRun.getElem?_update_self present after⟩
  by_cases empty : state.system.run.router.snapshot.healthy = []
  · have refused : (state.system.run.view handler).pick features body rng =
        .ok { state.system.run.view handler with handler := handler.errorResponse 503 } := by
      unfold HandlerState.pick
      exact if_pos (List.isEmpty_iff.mpr empty)
    obtain ⟨next, stepped, there⟩ := routed refused
    refine ⟨next, _, stepped, there, ?_⟩
    rw [if_pos (serving.numbered.healthy_eq_nil_iff.mp empty)]
    rfl
  · obtain ⟨picked, chosenId, returned, chosen, member⟩ :=
      serving.picksHealthy accepted finite empty features rng (some .default)
    obtain ⟨⟨samePicked, moved⟩, chose, same⟩ := Outcome.map_eq_ok.mp returned
    obtain rfl : samePicked = picked := same
    obtain ⟨ref, inside, notEjected, rfl⟩ :=
      (HealthRun.Numbered.mem_healthy serving.numbered).mp member
    have leads : state.system.run.router.snapshot.refOf ⟨UInt16.ofNat ref⟩ = ref :=
      HealthRun.Numbered.refOf_ofNat serving.numbered fits inside
    have inRange := Snapshot.backendRef_eq_ok indexed member
    rw [leads] at inRange
    obtain ⟨next, stepped, there⟩ := routed (HandlerState.pick_of_chosen
      (List.isEmpty_eq_false_iff.mpr empty) chose chosen inRange body)
    refine ⟨next, _, stepped, there, ?_⟩
    rw [if_neg (fun all => empty (serving.numbered.healthy_eq_nil_iff.mpr all))]
    exact ⟨ref, inside, _, notEjected, rfl⟩

end Routing

theorem step_router [DecayNumber F] (maxSignalAge : Instant) {libraries : Libraries}
    {state : AuditedRun F} {event : RouterEvent F} {next : RouterRun F}
    (stepped : state.system.run.step libraries event = some next) :
    state.step maxSignalAge libraries (.router event) = some { state with
      system := { state.system with
        run := next
        decisions := (state.system.run.decision event).toList ++ state.system.decisions } } := by
  rw [step, SystemRun.step_router maxSignalAge stepped]
  rfl

/-- A run of the router leaves the record of the snapshot as it is. -/
theorem run_routed [DecayNumber F] {maxSignalAge : Instant} {libraries : Libraries}
    {state : AuditedRun F} {events : List (RouterEvent F)} {run : RouterRun F}
    (executed : EventRun.run (RouterRun.step libraries) state.system.run events = some run) :
    ∃ decisions, EventRun.run (step maxSignalAge libraries) state (events.map .router) =
      some { state with system := { state.system with run, decisions } } := by
  have lifted (run : RouterRun F) (event : RouterEvent F) (next : RouterRun F)
      (before : AuditedRun F) (_ : True)
      (moved : ∃ decisions, before = { state with system := { state.system with run, decisions } })
      (stepped : run.step libraries event = some next) :
      ∃ after, before.step maxSignalAge libraries (.router event) = some after ∧
        ∃ decisions, after =
          { state with system := { state.system with run := next, decisions } } := by
    obtain ⟨decisions, rfl⟩ := moved
    exact ⟨_, step_router maxSignalAge stepped, _, rfl⟩
  obtain ⟨last, auditedRun, decisions, rfl⟩ := EventRun.run_translated SystemEvent.router lifted
    (EventRun.guarded_of_forall fun _ _ => trivial) ⟨state.system.decisions, rfl⟩ executed
  exact ⟨decisions, auditedRun⟩

section Ejected

open RouterRun (chatLibraries chatRouted chatFeatures chatRewritten chatArrival)
open LoggedRun (twoHeap twoRouter)

/-- Five failures of each of the given backends. -/
def fiveFailures (refs : List BackendRef) : List BackendRef := refs.flatMap (List.replicate 5)

/-- The failures and a new snapshot, then a chat request. -/
def failuresThenChat (refs : List BackendRef) : List (SystemEvent ℝ) :=
  (fiveFailures refs).map .recordFailure ++ (.nextSnapshot :: (chatArrival 0).map .router)

noncomputable def twoStarted : AuditedRun ℝ :=
  initial (twoBackends defaultPenalty).toConfig twoRouter.strategy twoRouter.routeHists

theorem run_recordFailures (failures : List BackendRef) (state : AuditedRun ℝ) :
    EventRun.run (step 0 chatLibraries) state (failures.map .recordFailure) =
      some { state with
        system := state.system.setHeap (failures.foldl recordFailure state.system.run.heap) } := by
  induction failures generalizing state with
  | nil => rfl
  | cons ref failures ih =>
      exact EventRun.run_cons_eq_some.mpr ⟨_, rfl, ih _⟩

/-- A chat request is read after the snapshot that follows the failures. -/
theorem run_failuresThenChat (refs : List BackendRef) :
    ∃ state, EventRun.run (step 0 chatLibraries) twoStarted (failuresThenChat refs) = some state ∧
      state.takenFrom = (fiveFailures refs).foldl recordFailure twoHeap ∧
      state.system.run.handlers = [chatRouted] := by
  let failed : AuditedRun ℝ := { twoStarted with
    system := twoStarted.system.setHeap ((fiveFailures refs).foldl recordFailure twoHeap) }
  have taken : EventRun.run (step 0 chatLibraries) twoStarted
      ((fiveFailures refs).map .recordFailure) = some failed :=
    run_recordFailures _ _
  obtain ⟨renewed, renews⟩ : ∃ renewed, step 0 chatLibraries failed .nextSnapshot = some renewed :=
    ⟨_, rfl⟩
  have arrived : EventRun.run (RouterRun.step chatLibraries) renewed.system.run (chatArrival 0) =
      some { renewed.system.run with handlers := [chatRouted] } := by
    obtain rfl := Option.some.inj renews
    exact RouterRun.run_chatArrival ⟨rfl, rfl⟩ _ []
  obtain ⟨decisions, read⟩ := @run_routed ℝ _ 0 chatLibraries renewed _ _ arrived
  have executed : EventRun.run (step 0 chatLibraries) twoStarted (failuresThenChat refs) =
      some _ :=
    (EventRun.run_append_of_run taken _).trans
      (EventRun.run_cons_eq_some.mpr ⟨_, renews, read⟩)
  refine ⟨_, executed, ?_, rfl⟩
  obtain rfl := Option.some.inj renews
  rfl

/-- After five failures of the first backend a request goes to the second, and
after five of each it goes to none. -/
theorem routing_follows_last_snapshot_ejected :
    (∃ (state : AuditedRun ℝ) (next : SystemRun ℝ) (after : Handler) (fellThrough : Bool),
      EventRun.run (step 0 chatLibraries) twoStarted (failuresThenChat [0]) = some state ∧
      state.system.step 0 chatLibraries (.router (.advance 0 (.pick .first))) = some next ∧
      next.run.handlers[0]? = some after ∧
      after.phase = .picked chatFeatures chatRewritten 1 fellThrough) ∧
    ∃ (state : AuditedRun ℝ) (next : SystemRun ℝ) (after : Handler),
      EventRun.run (step 0 chatLibraries) twoStarted (failuresThenChat [0, 1]) = some state ∧
      state.system.step 0 chatLibraries (.router (.advance 0 (.pick .first))) = some next ∧
      next.run.handlers[0]? = some after ∧ after.phase = .finished (.answered 503) := by
  constructor
  · obtain ⟨state, executed, taken, read⟩ := run_failuresThenChat [0]
    have first : (state.takenFrom 0).health.ejected = true := by
      rw [taken]
      decide
    have second : (state.takenFrom 1).health.ejected = false := by
      rw [taken]
      decide
    have waiting : state.system.run.handlers[0]? = some chatRouted := by
      rw [read]
      rfl
    obtain ⟨next, after, stepped, present, answered⟩ := routing_follows_last_snapshot 0
      chatLibraries (twoBackends_accepted defaultPenalty) (by decide) rfl rfl executed waiting rfl
      .first
    rw [if_neg (fun all => by simp [all 1 (by decide)] at second)] at answered
    obtain ⟨backend, inside, fellThrough, healthy, picked⟩ := answered
    obtain rfl : backend = 1 := by
      rcases Nat.le_one_iff_eq_zero_or_eq_one.mp (Nat.le_of_lt_succ inside) with rfl | same
      · rw [first] at healthy
        cases healthy
      · exact same
    exact ⟨state, next, after, fellThrough, executed, stepped, present, picked⟩
  · obtain ⟨state, executed, taken, read⟩ := run_failuresThenChat [0, 1]
    have all : ∀ ref < (twoBackends defaultPenalty).toConfig.backends.length,
        (state.takenFrom ref).health.ejected = true := by
      rw [taken]
      decide
    have waiting : state.system.run.handlers[0]? = some chatRouted := by
      rw [read]
      rfl
    obtain ⟨next, after, stepped, present, answered⟩ := routing_follows_last_snapshot 0
      chatLibraries (twoBackends_accepted defaultPenalty) (by decide) rfl rfl executed waiting rfl
      .first
    rw [if_pos all] at answered
    exact ⟨state, next, after, executed, stepped, present, answered⟩

end Ejected

end AuditedRun

end KeelRouter
