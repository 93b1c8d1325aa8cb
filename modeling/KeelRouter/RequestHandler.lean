import KeelRouter.Inbound
import KeelRouter.RoutingStrategy
import KeelRouter.Upstream

/-!
# The request handler

An execution of the handler reads the body of its request, extracts the
features, picks a backend, opens a lease on it, rebuilds the request, dispatches
it, and hands the lease to the body of the response.  Every error on the way
becomes an empty response that is recorded as a failure.

Other executions may run between any two of these steps.  A client that leaves
while its body is still being read ends the collection of the body with an
error, which is answered like any other.  One that leaves while the handler
waits for its backend makes the server drop the future of the handler.
-/

namespace KeelRouter

open SerdeJson (Codec)

variable {F : Type}

/-- The state that all executions of the handler share, next to the backends. -/
structure RouterState (F : Type) where
  snapshot : Snapshot
  strategy : RoutingStrategy
  kvModel : KvModel
  routeHists : RouteHistograms F
  tokenCounter : TokenCounter

inductive Finish where
  /-- By an error response with the given status. -/
  | answered (status : StatusCode)
  /-- By the drop of the response's body. -/
  | bodyDropped
  /-- By the drop of its future. -/
  | cancelled
deriving DecidableEq

/-- How far an execution has come. -/
inductive Phase where
  | readingBody
  | routing (features : RequestFeatures) (body : List UInt8)
  | picked (features : RequestFeatures) (body : List UInt8) (backend : BackendRef)
      (fellThrough : Bool)
  | opened (features : RequestFeatures) (body : List UInt8) (lease : CostLease)
  | dispatching (features : RequestFeatures) (lease : CostLease)
  | responding (body : CountingSseBody)
  | finished (finish : Finish)
deriving DecidableEq

/-- One execution of `handle`, with the calls it has made so far. -/
structure Handler where
  parts : RequestParts
  now : Instant
  phase : Phase
  effects : List Effect
deriving DecidableEq

inductive HandlerEvent (F : Type) where
  | bodyRead (collected : Except String (List UInt8))
  | pick (rng : SmallRng)
  | openLease
  | rebuild
  | dispatched (answer : Except String StatusCode)
  | poll (now : Instant) (nowS : F) (polled : Polled)
  | dropBody
  | cancel

structure Libraries where
  codec : Codec
  http : HttpLibrary

structure HandlerState (F : Type) where
  heap : Heap
  router : RouterState F
  handler : Handler

/-- `inbound::read_body`, given what collecting the body under the size limit
gives.  Whatever goes wrong there counts as a body that is too large. -/
def readBody (collected : Except String (List UInt8)) : Except InboundError (List UInt8) :=
  collected.mapError fun _ => .bodyTooLarge

/-- What a pick tells the handler: the backend, and whether the gate was passed
over. -/
def RoutingStrategy.choice (strategy : RoutingStrategy) (heap : Heap) (snap : Snapshot)
    (features : RequestFeatures) (rng : SmallRng) : Option (Option BackendId × Bool) :=
  (strategy.pick heap snap features rng (some .default)).toOption.map fun returned =>
    (returned.1.chosen, (returned.1.trace.getD .default).fellThrough)

namespace Handler

def arrived (parts : RequestParts) (now : Instant) : Handler where
  parts := parts
  now := now
  phase := .readingBody
  effects := []

/-- `error_response` -/
def errorResponse (handler : Handler) (status : StatusCode) : Handler :=
  { handler with
    phase := .finished (.answered status)
    effects := handler.effects ++ [.recordRequestResult false] }

end Handler

namespace HandlerState

/-- From the end of the request's body to the rewriting of it. -/
def bodyRead [DecayNumber F] (libraries : Libraries) (state : HandlerState F)
    (collected : Except String (List UInt8)) : Outcome (HandlerState F) :=
  match readBody collected with
  | .error _ => .ok { state with handler := state.handler.errorResponse 413 }
  | .ok bytes =>
      match buildFeatures libraries.codec bytes state.handler.now state.router.routeHists
          state.router.tokenCounter with
      | .error _ => .ok { state with handler := state.handler.errorResponse 400 }
      | .ok features => do
          let body ← ensureUsageRequested libraries.codec bytes features.streaming
          return { state with handler := { state.handler with phase := .routing features body } }

/-- From the load of the snapshot to the address of the chosen backend. -/
def pick (state : HandlerState F) (features : RequestFeatures) (body : List UInt8)
    (rng : SmallRng) : Outcome (HandlerState F) :=
  let snap := state.router.snapshot
  if snap.healthy.isEmpty then
    .ok { state with handler := state.handler.errorResponse 503 }
  else do
    let (picked, strategy) ←
      state.router.strategy.pick state.heap snap features rng (some .default)
    let router := { state.router with strategy }
    match picked.chosen with
    | none => return { state with router, handler := state.handler.errorResponse 503 }
    | some id =>
        let trace := picked.trace.getD .default
        let saturated := if trace.fellThrough then [.countSaturatedDispatch] else []
        let backend ← snap.backendRef id
        return { state with
          router
          handler := { state.handler with
            phase := .picked features body backend trace.fellThrough
            effects := state.handler.effects ++ saturated } }

/-- `CostLease::open` -/
def openLease (state : HandlerState F) (features : RequestFeatures) (body : List UInt8)
    (backend : BackendRef) : HandlerState F :=
  let opened := CostLease.open backend features.promptTokens features.expectedOutputTokens
    state.router.kvModel state.handler.now state.heap
  { state with
    heap := opened.2
    handler := { state.handler with phase := .opened features body opened.1 } }

/-- Rebuild the request; a request that cannot be built gives its lease back. -/
def rebuild (libraries : Libraries) (state : HandlerState F) (features : RequestFeatures)
    (body : List UInt8) (lease : CostLease) : HandlerState F :=
  match rebuildRequest libraries.http state.handler.parts body
      (state.heap lease.backend).uri with
  | .error _ =>
      { state with
        heap := lease.drop state.heap
        handler := state.handler.errorResponse 502 }
  | .ok _ => { state with handler := { state.handler with phase := .dispatching features lease } }

/-- The body that is put around the body of a response. -/
def responseBody (state : HandlerState F) (features : RequestFeatures) (lease : CostLease)
    (status : StatusCode) : CountingSseBody :=
  .new {
    lease
    backendKey := (state.heap lease.backend).key
    estimatedOutputTokens := features.expectedOutputTokens
    dispatchedAt := state.handler.now
    upstreamStatus := status
    route := routeKeyFor features
    estimatedPromptTokens := features.promptTokens }

/-- The backend has answered, or the connection to it has failed. -/
def dispatched (state : HandlerState F) (features : RequestFeatures) (lease : CostLease)
    (answer : Except String StatusCode) : HandlerState F :=
  match dispatchAnswer answer with
  | .error _ =>
      let connectError := .recordBackendError (state.heap lease.backend).key "connect"
      let handler := { state.handler with effects := state.handler.effects ++ [connectError] }
      { state with heap := lease.drop state.heap, handler := handler.errorResponse 502 }
  | .ok status =>
      let body := state.responseBody features lease status
      { state with handler := { state.handler with phase := .responding body } }

def observeEffect [DecayNumber F] (nowS : F) (hists : RouteHistograms F) :
    Effect → RouteHistograms F
  | .observeRoute route completionTokens => hists.observe route completionTokens nowS
  | _ => hists

def poll [DecayNumber F] (libraries : Libraries) (state : HandlerState F)
    (body : CountingSseBody) (now : Instant) (nowS : F) (polled : Polled) : HandlerState F :=
  let bodyState : BodyState := { body, heap := state.heap, effects := [] }
  let next := (bodyState.pollFrame libraries.codec now polled).1
  { heap := next.heap
    router := { state.router with
      routeHists := next.effects.foldl (observeEffect nowS) state.router.routeHists }
    handler := { state.handler with
      phase := .responding next.body
      effects := state.handler.effects ++ next.effects } }

def dropBody (state : HandlerState F) (body : CountingSseBody) : HandlerState F :=
  let bodyState : BodyState := { body, heap := state.heap, effects := [] }
  { state with
    heap := bodyState.drop.1
    handler := { state.handler with
      phase := .finished .bodyDropped
      effects := state.handler.effects ++ bodyState.drop.2 } }

/-- Drop the future of an execution that waits for its backend, and with it the
lease that the future holds. -/
def cancelDispatch (state : HandlerState F) (lease : CostLease) : HandlerState F :=
  { state with
    heap := lease.drop state.heap
    handler := { state.handler with phase := .finished .cancelled } }

/-- The next step of an execution, in the phases that it is enabled in.  A
panic aborts the process. -/
def step [DecayNumber F] (libraries : Libraries) (state : HandlerState F)
    (event : HandlerEvent F) : Option (HandlerState F) :=
  match state.handler.phase, event with
  | .readingBody, .bodyRead collected => (state.bodyRead libraries collected).toOption
  | .routing features body, .pick rng => (state.pick features body rng).toOption
  | .picked features body backend _, .openLease => some (state.openLease features body backend)
  | .opened features body lease, .rebuild => some (state.rebuild libraries features body lease)
  | .dispatching features lease, .dispatched answer =>
      some (state.dispatched features lease answer)
  | .dispatching _ lease, .cancel => some (state.cancelDispatch lease)
  | .responding body, .poll now nowS polled => some (state.poll libraries body now nowS polled)
  | .responding body, .dropBody => some (state.dropBody body)
  | _, _ => none

/-! ## What the steps can do -/

section Cases

variable {libraries : Libraries} {state next : HandlerState F}

theorem bodyRead_cases [DecayNumber F] {collected : Except String (List UInt8)}
    (returned : state.bodyRead libraries collected = .ok next) :
    (∃ status, next = { state with handler := state.handler.errorResponse status }) ∨
      ∃ features body, next =
        { state with handler := { state.handler with phase := .routing features body } } := by
  unfold bodyRead at returned
  split at returned
  · exact .inl ⟨413, (Except.ok.inj returned).symm⟩
  · split at returned
    · exact .inl ⟨400, (Except.ok.inj returned).symm⟩
    · rename_i features _
      obtain ⟨body, -, rewritten⟩ := Outcome.bind_eq_ok.mp returned
      exact .inr ⟨features, body, (Except.ok.inj rewritten).symm⟩

/-- An execution that goes on to routing has read its features and its body from
the bytes of the client. -/
theorem bodyRead_routing [DecayNumber F] {collected : Except String (List UInt8)}
    (returned : state.bodyRead libraries collected = .ok next)
    {features : RequestFeatures} {body : List UInt8}
    (routing : next.handler.phase = .routing features body) :
    ∃ bytes, collected = .ok bytes ∧
      buildFeatures libraries.codec bytes state.handler.now state.router.routeHists
        state.router.tokenCounter = .ok features ∧
      ensureUsageRequested libraries.codec bytes features.streaming = .ok body := by
  unfold bodyRead at returned
  cases collected with
  | error reason =>
      obtain rfl := Except.ok.inj returned
      cases routing
  | ok bytes =>
      dsimp only [readBody, Except.mapError] at returned
      split at returned
      · obtain rfl := Except.ok.inj returned
        cases routing
      · rename_i built built_eq
        obtain ⟨rewritten, ensured, finished⟩ := Outcome.bind_eq_ok.mp returned
        obtain rfl := Except.ok.inj finished
        obtain ⟨rfl, rfl⟩ := Phase.routing.inj routing
        exact ⟨bytes, rfl, built_eq, ensured⟩

theorem pick_cases {features : RequestFeatures} {body : List UInt8} {rng : SmallRng}
    (returned : state.pick features body rng = .ok next) :
    (∃ strategy,
        (strategy = state.router.strategy ∨ ∃ picked,
          state.router.strategy.pick state.heap state.router.snapshot features rng
            (some .default) = .ok (picked, strategy)) ∧
          next = { state with
            router := { state.router with strategy }
            handler := state.handler.errorResponse 503 }) ∨
      ∃ picked strategy id backend,
        state.router.strategy.pick state.heap state.router.snapshot features rng
            (some .default) = .ok (picked, strategy) ∧
          picked.chosen = some id ∧ state.router.snapshot.backendRef id = .ok backend ∧
          next = { state with
            router := { state.router with strategy }
            handler := { state.handler with
              phase := .picked features body backend (picked.trace.getD .default).fellThrough
              effects := state.handler.effects ++
                if (picked.trace.getD .default).fellThrough then [.countSaturatedDispatch]
                else [] } } := by
  unfold pick at returned
  dsimp only at returned
  split at returned
  · exact .inl ⟨state.router.strategy, .inl rfl, (Except.ok.inj returned).symm⟩
  · obtain ⟨⟨picked, strategy⟩, chose, returned⟩ := Outcome.bind_eq_ok.mp returned
    dsimp only at returned
    split at returned
    · exact .inl ⟨strategy, .inr ⟨picked, chose⟩, (Except.ok.inj returned).symm⟩
    · rename_i id chosen
      obtain ⟨backend, inRange, returned⟩ := Outcome.bind_eq_ok.mp returned
      exact .inr ⟨picked, strategy, id, backend, chose, chosen, inRange,
        (Except.ok.inj returned).symm⟩

theorem pick_of_chosen {features : RequestFeatures} {rng : SmallRng} {picked : Picked}
    {strategy : RoutingStrategy} {id : BackendId} {backend : BackendRef}
    (healthy : state.router.snapshot.healthy.isEmpty = false)
    (chose : state.router.strategy.pick state.heap state.router.snapshot features rng
      (some .default) = .ok (picked, strategy))
    (chosen : picked.chosen = some id)
    (inRange : state.router.snapshot.backendRef id = .ok backend) (body : List UInt8) :
    state.pick features body rng =
      .ok { state with
        router := { state.router with strategy }
        handler := { state.handler with
          phase := .picked features body backend (picked.trace.getD .default).fellThrough
          effects := state.handler.effects ++
            if (picked.trace.getD .default).fellThrough then [.countSaturatedDispatch]
            else [] } } := by
  unfold pick
  dsimp only
  rw [healthy, if_neg Bool.false_ne_true, chose]
  simp only [bind, Except.bind, chosen, inRange]
  rfl

/-- A pick without a turn changes nothing but the execution that made it. -/
theorem pick_of_choice (stateless : ∀ next, state.router.strategy ≠ .roundRobin next)
    {features : RequestFeatures} {rng : SmallRng} {id : BackendId} {backend : BackendRef}
    {fellThrough : Bool}
    (chose : state.router.strategy.choice state.heap state.router.snapshot features rng =
      some (some id, fellThrough))
    (healthy : state.router.snapshot.healthy.isEmpty = false)
    (inRange : state.router.snapshot.backendRef id = .ok backend) (body : List UInt8) :
    state.pick features body rng =
      .ok { state with
        handler := { state.handler with
          phase := .picked features body backend fellThrough
          effects := state.handler.effects ++
            if fellThrough then [.countSaturatedDispatch] else [] } } := by
  obtain ⟨⟨picked, after⟩, returned, same⟩ := Option.map_eq_some_iff.mp chose
  have drawn := Outcome.toOption_eq_some.mp returned
  obtain rfl := RoutingStrategy.pick_stays stateless drawn
  have chosen : picked.chosen = some id := congrArg Prod.fst same
  have fell : (picked.trace.getD .default).fellThrough = fellThrough := congrArg Prod.snd same
  rw [pick_of_chosen healthy drawn chosen inRange body, fell]

theorem rebuild_cases (libraries : Libraries) (features : RequestFeatures)
    (body : List UInt8) (lease : CostLease) :
    state.rebuild libraries features body lease =
        { state with
          heap := lease.drop state.heap
          handler := state.handler.errorResponse 502 } ∨
      state.rebuild libraries features body lease =
        { state with handler := { state.handler with phase := .dispatching features lease } } := by
  unfold rebuild
  split
  · exact .inl rfl
  · exact .inr rfl

theorem dispatched_cases (features : RequestFeatures) (lease : CostLease)
    (answer : Except String StatusCode) :
    (∃ key, state.dispatched features lease answer =
        { state with
          heap := lease.drop state.heap
          handler := Handler.errorResponse
            { state.handler with
              effects := state.handler.effects ++ [.recordBackendError key "connect"] } 502 }) ∨
      ∃ body : CountingSseBody, body.lease = lease ∧
        state.dispatched features lease answer =
          { state with handler := { state.handler with phase := .responding body } } := by
  unfold dispatched
  split
  · exact .inl ⟨_, rfl⟩
  · exact .inr ⟨_, rfl, rfl⟩

theorem step_pick [DecayNumber F] {features : RequestFeatures} {body : List UInt8} {rng : SmallRng}
    (phase : state.handler.phase = .routing features body)
    (returned : state.pick features body rng = .ok next) :
    state.step libraries (.pick rng) = some next := by
  unfold step
  rw [phase]
  exact Outcome.toOption_eq_some.mpr returned

variable [DecayNumber F] (libraries state)

/-- The steps of an execution, one constructor for each phase and event. -/
inductive Steps : HandlerEvent F → HandlerState F → Prop where
  | bodyRead (collected : Except String (List UInt8)) {next : HandlerState F}
      (phase : state.handler.phase = .readingBody)
      (returned : state.bodyRead libraries collected = .ok next) :
      Steps (.bodyRead collected) next
  | pick {features : RequestFeatures} {body : List UInt8} (rng : SmallRng)
      {next : HandlerState F} (phase : state.handler.phase = .routing features body)
      (returned : state.pick features body rng = .ok next) : Steps (.pick rng) next
  | openLease {features : RequestFeatures} {body : List UInt8} {backend : BackendRef}
      {fellThrough : Bool}
      (phase : state.handler.phase = .picked features body backend fellThrough) :
      Steps .openLease (state.openLease features body backend)
  | rebuild {features : RequestFeatures} {body : List UInt8} {lease : CostLease}
      (phase : state.handler.phase = .opened features body lease) :
      Steps .rebuild (state.rebuild libraries features body lease)
  | dispatched {features : RequestFeatures} {lease : CostLease}
      (answer : Except String StatusCode)
      (phase : state.handler.phase = .dispatching features lease) :
      Steps (.dispatched answer) (state.dispatched features lease answer)
  | cancelDispatch {features : RequestFeatures} {lease : CostLease}
      (phase : state.handler.phase = .dispatching features lease) :
      Steps .cancel (state.cancelDispatch lease)
  | poll {body : CountingSseBody} (now : Instant) (nowS : F) (polled : Polled)
      (phase : state.handler.phase = .responding body) :
      Steps (.poll now nowS polled) (state.poll libraries body now nowS polled)
  | dropBody {body : CountingSseBody} (phase : state.handler.phase = .responding body) :
      Steps .dropBody (state.dropBody body)

variable {libraries state}

theorem steps_of_step {event : HandlerEvent F}
    (stepped : state.step libraries event = some next) : Steps libraries state event next := by
  unfold step at stepped
  split at stepped
  case h_1 phase => exact .bodyRead _ phase (Outcome.toOption_eq_some.mp stepped)
  case h_2 phase => exact .pick _ phase (Outcome.toOption_eq_some.mp stepped)
  case h_3 phase =>
    obtain rfl := Option.some.inj stepped
    exact .openLease phase
  case h_4 phase =>
    obtain rfl := Option.some.inj stepped
    exact .rebuild phase
  case h_5 phase =>
    obtain rfl := Option.some.inj stepped
    exact .dispatched _ phase
  case h_6 phase =>
    obtain rfl := Option.some.inj stepped
    exact .cancelDispatch phase
  case h_7 phase =>
    obtain rfl := Option.some.inj stepped
    exact .poll _ _ _ phase
  case h_8 phase =>
    obtain rfl := Option.some.inj stepped
    exact .dropBody phase
  case h_9 => cases stepped

end Cases

end HandlerState

end KeelRouter
