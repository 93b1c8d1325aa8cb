import KeelRouter.RouterLeases
import KeelRouter.SnapshotInvariant

/-!
# Passive ejection over runs of the router

A backend is to leave the healthy list after five dispatches in a row have
failed to connect.  The handler reports such a failure to the metrics only: no
path of the router counts it, ejects a backend or installs another snapshot.
The healthy list stays the one `main` built, so the rule is kept by exactly the
runs in which no decision is taken after five such failures.
-/

namespace KeelRouter

variable {F : Type}

/-- The shared state that `main` hands to the handlers. -/
def Config.router (config : Config) (strategy : RoutingStrategy) (routeHists : RouteHistograms F) :
    RouterState F where
  snapshot := config.snapshot
  strategy := strategy
  kvModel := config.kvModel
  routeHists := routeHists
  tokenCounter := config.tokenCounter

theorem Config.snapshot_indexed (config : Config) : config.snapshot.Indexed := by
  intro id member
  obtain ⟨ref, listed, rfl⟩ := List.mem_map.mp member
  have inside : ref < config.backends.length := List.mem_range.mp listed
  rw [config.heap_id, Config.snapshot, List.length_range]
  exact lt_of_le_of_lt (Nat.mod_le ref (2 ^ 16)) inside

/-- The ended dispatch that a step of an execution reports, and whether the
backend has answered. -/
def Handler.outcome (handler : Handler) : HandlerEvent F → Option (BackendRef × Bool)
  | .dispatched answer =>
      match handler.phase with
      | .dispatching _ lease => some (lease.backend, (dispatchAnswer answer).isOk)
      | _ => none
  | _ => none

/-- The backend that an execution has picked or holds a lease on, until the
backend answers. -/
def Phase.target : Phase → Option BackendRef
  | .picked _ _ backend _ => some backend
  | .opened _ _ lease | .dispatching _ lease => some lease.backend
  | _ => none

/-- A run of the router with the dispatches that have ended, the latest first. -/
structure LoggedRun (F : Type) where
  run : RouterRun F
  log : List (BackendRef × Bool)

namespace LoggedRun

def initial (heap : Heap) (router : RouterState F) : LoggedRun F where
  run := .initial heap router
  log := []

def outcome (state : LoggedRun F) : RouterEvent F → Option (BackendRef × Bool)
  | .arrive _ _ => none
  | .advance id event => (state.run.handlers[id]?).bind fun handler => handler.outcome event

def step [DecayNumber F] (libraries : Libraries) (state : LoggedRun F) (event : RouterEvent F) :
    Option (LoggedRun F) :=
  (state.run.step libraries event).map fun next =>
    { run := next, log := (state.outcome event).toList ++ state.log }

/-- The last five dispatches to the backend have all failed to connect. -/
def LastFailed (state : LoggedRun F) (ref : BackendRef) : Prop :=
  (state.log.filter fun entry => entry.1 = ref).take consecutiveFailuresToEject.toNat =
    List.replicate consecutiveFailuresToEject.toNat (ref, false)

/-- The healthy list has no id for the backend, so no strategy picks it. -/
def Excludes (state : LoggedRun F) (ref : BackendRef) : Prop :=
  (∀ id ∈ state.run.router.snapshot.healthy, state.run.router.snapshot.refOf id ≠ ref) ∧
    ∀ features rng picked after id,
      state.run.router.strategy.pick state.run.heap state.run.router.snapshot features rng
        (some .default) = .ok (picked, after) →
      picked.chosen = some id → state.run.router.snapshot.refOf id ≠ ref

def Decides : RouterEvent F → Prop
  | .advance _ (.pick _) => True
  | _ => False

/-- Every decision of the run is taken over backends that have not failed five
times in a row. -/
def EjectsFailing [DecayNumber F] (libraries : Libraries) (start : LoggedRun F)
    (events : List (RouterEvent F)) : Prop :=
  EventRun.Guarded (step libraries)
    (fun state event => Decides event → ∀ ref, state.LastFailed ref → state.Excludes ref)
    start events

/-! ## Every backend that is dispatched to is listed -/

/-- Some healthy id leads to the backend. -/
def Lists (snap : Snapshot) (ref : BackendRef) : Prop :=
  ∃ id ∈ snap.healthy, snap.refOf id = ref

theorem target_of_steps [DecayNumber F] {libraries : Libraries} {state after : HandlerState F}
    {event : HandlerEvent F} (indexed : state.router.snapshot.Indexed)
    (stepped : state.Steps libraries event after) {ref : BackendRef}
    (targets : after.handler.phase.target = some ref) :
    state.handler.phase.target = some ref ∨ Lists state.router.snapshot ref := by
  cases stepped with
  | bodyRead collected phase returned =>
      rcases HandlerState.bodyRead_cases returned with ⟨status, rfl⟩ | ⟨features, body, rfl⟩ <;>
        cases targets
  | pick rng phase returned =>
      rcases HandlerState.pick_cases returned with ⟨strategy, -, rfl⟩ |
        ⟨picked, strategy, id, backend, chose, chosen, inRange, rfl⟩
      · cases targets
      · obtain rfl := Option.some.inj targets
        have healthy := RoutingStrategy.chosen_mem_healthy indexed chose chosen
        rw [Snapshot.backendRef_eq_ok indexed healthy] at inRange
        exact .inr ⟨id, healthy, Except.ok.inj inRange⟩
  | openLease phase =>
      rw [phase]
      exact .inl targets
  | rebuild phase =>
      rename_i features body lease
      rw [phase]
      rcases state.rebuild_cases libraries features body lease with rebuilt | rebuilt
      · rw [rebuilt] at targets
        cases targets
      · rw [rebuilt] at targets
        exact .inl targets
  | dispatched answer phase =>
      rename_i features lease
      rcases state.dispatched_cases features lease answer with
        ⟨key, answered⟩ | ⟨body, -, answered⟩ <;>
        rw [answered] at targets <;> cases targets
  | cancelDispatch phase | poll _ _ _ phase | dropBody phase => cases targets

/-- The snapshot is still the given one, and every backend that executions aim
at or have dispatched to is listed in it. -/
structure Listed (snap : Snapshot) (state : LoggedRun F) : Prop where
  snapshot : state.run.router.snapshot = snap
  targets : ∀ handler ∈ state.run.handlers, ∀ ref, handler.phase.target = some ref →
    Lists snap ref
  log : ∀ entry ∈ state.log, Lists snap entry.1

theorem target_of_outcome {handler : Handler} {event : HandlerEvent F}
    {entry : BackendRef × Bool} (ended : handler.outcome event = some entry) :
    handler.phase.target = some entry.1 := by
  unfold Handler.outcome at ended
  split at ended
  · split at ended
    · rename_i phase
      rw [phase]
      rw [← Option.some.inj ended]
      rfl
    · cases ended
  · cases ended

theorem listed_step [DecayNumber F] {libraries : Libraries} {snap : Snapshot}
    (indexed : snap.Indexed) {state next : LoggedRun F} {event : RouterEvent F}
    (listed : state.Listed snap) (stepped : state.step libraries event = some next) :
    next.Listed snap := by
  obtain ⟨run, ran, rfl⟩ := Option.map_eq_some_iff.mp stepped
  have logged : ∀ entry ∈ (state.outcome event).toList ++ state.log, Lists snap entry.1 := by
    intro entry member
    rcases List.mem_append.mp member with new | earlier
    · have ended : state.outcome event = some entry := by simpa using new
      cases event with
      | arrive parts now => cases ended
      | advance id event =>
          obtain ⟨handler, present, ended⟩ := Option.bind_eq_some_iff.mp ended
          exact listed.targets handler (List.mem_of_getElem? present) entry.1
            (target_of_outcome ended)
    · exact listed.log entry earlier
  rcases RouterRun.step_cases ran with ⟨parts, now, rfl, rfl⟩ |
    ⟨id, event', handler, after, rfl, present, advanced, rfl⟩
  · refine ⟨listed.snapshot, ?_, logged⟩
    intro handler member ref targets
    rcases List.mem_append.mp member with earlier | new
    · exact listed.targets handler earlier ref targets
    · rw [List.mem_singleton.mp new] at targets
      cases targets
  · have sameSnapshot : after.router.snapshot = snap :=
      (HandlerState.router_of_steps advanced).1.trans listed.snapshot
    refine ⟨sameSnapshot, ?_, logged⟩
    intro other member ref targets
    rcases List.mem_or_eq_of_mem_set member with earlier | rfl
    · exact listed.targets other earlier ref targets
    · have viewed : (state.run.view handler).router.snapshot = snap := listed.snapshot
      rcases target_of_steps (viewed ▸ indexed) advanced targets with kept | lists
      · exact listed.targets handler (List.mem_of_getElem? present) ref kept
      · exact viewed ▸ lists

theorem Listed.not_excludes {snap : Snapshot} {state : LoggedRun F} (listed : state.Listed snap)
    {ref : BackendRef} (failed : state.LastFailed ref) : ¬ state.Excludes ref := by
  have logged : (ref, false) ∈ state.log := by
    have last : (ref, false) ∈ List.replicate consecutiveFailuresToEject.toNat (ref, false) :=
      List.mem_replicate.mpr ⟨by decide, rfl⟩
    rw [← failed] at last
    exact List.mem_of_mem_filter (List.mem_of_mem_take last)
  obtain ⟨id, healthy, leads⟩ := listed.log _ logged
  rintro ⟨excluded, -⟩
  rw [listed.snapshot] at excluded
  exact excluded id healthy leads

/-- A run of the router that `main` starts takes its decisions over backends
that have not failed five times in a row exactly when it takes none while the
last five dispatches to some backend have failed. -/
theorem ejects_failing_iff [DecayNumber F] (config : Config) (strategy : RoutingStrategy)
    (libraries : Libraries) (routeHists : RouteHistograms F) (events : List (RouterEvent F)) :
    EjectsFailing libraries (initial config.heap (config.router strategy routeHists)) events ↔
      EventRun.Guarded (step libraries)
        (fun state event => Decides event → ∀ ref, ¬ state.LastFailed ref)
        (initial config.heap (config.router strategy routeHists)) events := by
  have start : (initial config.heap (config.router strategy routeHists)).Listed
      config.snapshot := ⟨rfl, by simp [initial, RouterRun.initial], by simp [initial]⟩
  apply EventRun.guarded_congr
    (fun _ _ _ listed stepped => listed_step config.snapshot_indexed listed stepped) _ start
  intro state event listed
  apply imp_congr_right
  intro _
  apply forall_congr'
  intro ref
  constructor
  · intro excludes failed
    exact listed.not_excludes failed (excludes failed)
  · intro never failed
    exact absurd failed (never)

/-! ## Five failures in a row -/

theorem step_last [DecayNumber F] {libraries : Libraries} {heap : Heap} {router : RouterState F}
    {handlers : List Handler} {handler : Handler} {event : HandlerEvent F}
    {after : HandlerState F}
    (advanced : HandlerState.step libraries ⟨heap, router, handler⟩ event = some after)
    (log : List (BackendRef × Bool)) :
    step libraries ⟨⟨heap, router, handlers ++ [handler]⟩, log⟩ (.advance handlers.length event) =
      some ⟨⟨after.heap, after.router, handlers ++ [after.handler]⟩,
        (handler.outcome event).toList ++ log⟩ := by
  unfold step
  rw [RouterRun.step_last advanced]
  simp [outcome]

noncomputable def twoRouter : RouterState ℝ :=
  let strategy := .pressure ⟨defaultTheta, defaultPenalty, defaultSigma, .promptOnly⟩
  (twoBackends defaultPenalty).toConfig.router strategy (RouterRun.chatRouter strategy).routeHists

def twoHeap : Heap := (twoBackends defaultPenalty).toConfig.heap

def chatLease : CostLease := (CostLease.open 0 1 128 .promptOnly 0 twoHeap).1

def openedHeap : Heap := (CostLease.open 0 1 128 .promptOnly 0 twoHeap).2

def chatIn (phase : Phase) : Handler := { RouterRun.chatRouted with phase }

open RouterRun (chatLibraries chatRouted chatFeatures chatRewritten chatArrival)

theorem step_pick_two :
    HandlerState.step chatLibraries ⟨twoHeap, twoRouter, chatRouted⟩ (.pick .first) =
      some ⟨twoHeap, twoRouter, chatIn (.picked chatFeatures chatRewritten 0 false)⟩ := by
  have chose : (RoutingStrategy.pressure
      ⟨defaultTheta, defaultPenalty, defaultSigma, .promptOnly⟩).choice twoHeap
      (twoBackends defaultPenalty).toConfig.snapshot chatFeatures .first =
      some (some ⟨0⟩, false) := by
    decide +kernel
  have stateless : ∀ next, twoRouter.strategy ≠ .roundRobin next := by
    intro next same
    cases same
  exact HandlerState.step_pick rfl
    (HandlerState.pick_of_choice stateless chose rfl rfl chatRewritten)

/-- A chat request whose backend cannot be reached. -/
def failedRequest (id : Nat) : List (RouterEvent ℝ) :=
  chatArrival id ++ [.advance id (.pick .first), .advance id .openLease, .advance id .rebuild,
    .advance id (.dispatched (.error "connection refused"))]

noncomputable def twoRun (handlers : List Handler) (log : List (BackendRef × Bool)) :
    LoggedRun ℝ :=
  ⟨⟨twoHeap, twoRouter, handlers⟩, log⟩

theorem run_arrival_two (handlers : List Handler) (log : List (BackendRef × Bool)) :
    EventRun.run (step chatLibraries) (twoRun handlers log) (chatArrival handlers.length) =
      some (twoRun (handlers ++ [chatRouted]) log) := by
  have reads : RouterRun.ReadsChat twoRouter := ⟨rfl, rfl⟩
  have read : HandlerState.step chatLibraries
      ⟨twoHeap, twoRouter, .arrived RouterRun.chatParts 0⟩
      (.bodyRead (.ok (chatBytes "\x7b\x7d"))) = some ⟨twoHeap, twoRouter, chatRouted⟩ :=
    Outcome.toOption_eq_some.mpr (RouterRun.bodyRead_chat reads twoHeap)
  exact EventRun.run_cons_eq_some.mpr ⟨_, rfl, EventRun.run_cons_eq_some.mpr
    ⟨_, step_last read log, rfl⟩⟩

def chatRefused : Handler :=
  Handler.errorResponse { chatIn (.dispatching chatFeatures chatLease) with
    effects := [.recordBackendError "http://a" "connect"] } 502

/-- Its lease is given back, so the router is as it was, with one failure more. -/
theorem run_failedRequest (handlers : List Handler) (log : List (BackendRef × Bool)) :
    EventRun.run (step chatLibraries) (twoRun handlers log) (failedRequest handlers.length) =
      some (twoRun (handlers ++ [chatRefused]) ((0, false) :: log)) := by
  have opened : HandlerState.step chatLibraries
      ⟨twoHeap, twoRouter, chatIn (.picked chatFeatures chatRewritten 0 false)⟩ .openLease =
      some ⟨openedHeap, twoRouter, chatIn (.opened chatFeatures chatRewritten chatLease)⟩ := rfl
  have rebuilt : HandlerState.step chatLibraries
      ⟨openedHeap, twoRouter, chatIn (.opened chatFeatures chatRewritten chatLease)⟩ .rebuild =
      some ⟨openedHeap, twoRouter, chatIn (.dispatching chatFeatures chatLease)⟩ := rfl
  have failed : HandlerState.step chatLibraries
      ⟨openedHeap, twoRouter, chatIn (.dispatching chatFeatures chatLease)⟩
      (.dispatched (.error "connection refused")) =
      some ⟨twoHeap, twoRouter, chatRefused⟩ := by
    change some (HandlerState.mk (chatLease.drop openedHeap) _ _) = _
    rw [chatLease, openedHeap, CostLease.drop_open]
    rfl
  rw [failedRequest, EventRun.run_append, run_arrival_two, Option.bind_some]
  exact EventRun.run_cons_eq_some.mpr ⟨_, step_last step_pick_two log,
    EventRun.run_cons_eq_some.mpr ⟨_, step_last opened log,
    EventRun.run_cons_eq_some.mpr ⟨_, step_last rebuilt log,
    EventRun.run_cons_eq_some.mpr ⟨_, step_last failed log, rfl⟩⟩⟩⟩

/-- After any number of failed requests another one can follow. -/
theorem run_failedRequests (count : Nat) :
    ∃ handlers : List Handler, handlers.length = count ∧
      EventRun.run (step chatLibraries) (twoRun [] [])
        ((List.range count).flatMap failedRequest) =
      some (twoRun handlers (List.replicate count (0, false))) := by
  induction count with
  | zero => exact ⟨[], rfl, rfl⟩
  | succ count ih =>
      obtain ⟨handlers, rfl, executed⟩ := ih
      have next := run_failedRequest handlers (List.replicate handlers.length (0, false))
      refine ⟨handlers ++ [chatRefused], by simp, ?_⟩
      rw [List.range_succ, List.flatMap_append, EventRun.run_append, executed, Option.bind_some,
        List.flatMap_singleton, next, List.replicate_succ]

theorem lastFailed_two (handlers : List Handler) :
    (twoRun handlers (List.replicate 5 (0, false))).LastFailed 0 := rfl

/-- Five requests in a row fail to reach the first of two backends, and the next
one is routed to it again. -/
theorem failing_backend_picked_again :
    ∃ events state next, (twoBackends defaultPenalty).validate =
        .ok (twoBackends defaultPenalty).toConfig ∧
      EventRun.run (step chatLibraries) (initial twoHeap twoRouter) events = some state ∧
      state.LastFailed 0 ∧
      state.step chatLibraries (.advance 5 (.pick .first)) = some next ∧
      (next.run.handlers[5]?).bind (fun handler => handler.phase.target) = some 0 ∧
      ¬ EjectsFailing chatLibraries (initial twoHeap twoRouter)
        (events ++ [.advance 5 (.pick .first)]) := by
  obtain ⟨handlers, five, executed⟩ := run_failedRequests 5
  have arrived := run_arrival_two handlers (List.replicate 5 (0, false))
  have picked : step chatLibraries (twoRun (handlers ++ [chatRouted])
      (List.replicate 5 (0, false))) (.advance handlers.length (.pick .first)) =
      some (twoRun (handlers ++ [chatIn (.picked chatFeatures chatRewritten 0 false)])
        (List.replicate 5 (0, false))) :=
    step_last step_pick_two (List.replicate 5 (0, false))
  rw [five] at arrived picked
  have whole : EventRun.run (step chatLibraries) (twoRun [] [])
      ((List.range 5).flatMap failedRequest ++ chatArrival 5) =
      some (twoRun (handlers ++ [chatRouted]) (List.replicate 5 (0, false))) :=
    (EventRun.run_append_of_run executed _).trans arrived
  refine ⟨_, _, _, twoBackends_accepted _, whole, lastFailed_two _, picked, ?_, ?_⟩
  · have last : (handlers ++ [chatIn (.picked chatFeatures chatRewritten 0 false)])[5]? =
        some (chatIn (.picked chatFeatures chatRewritten 0 false)) := by
      rw [← five]
      exact List.getElem?_concat_length
    change ((handlers ++ [chatIn (.picked chatFeatures chatRewritten 0 false)])[5]?).bind _ = _
    rw [last]
    rfl
  · intro ejects
    have excluded := (EventRun.guarded_append_singleton whole ejects).2 trivial 0
      (lastFailed_two _)
    have healthy : (⟨0⟩ : BackendId) ∈
        (twoBackends defaultPenalty).toConfig.snapshot.healthy := by decide
    exact excluded.1 ⟨0⟩ healthy rfl

end LoggedRun

end KeelRouter
