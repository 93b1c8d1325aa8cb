import KeelRouter.BackendHealth
import KeelRouter.Noninterference
import KeelRouter.SignalCollector
import KeelRouter.Unreported

/-!
# Scrapes never show in the routing

The collectors write into the backends that the strategies, the gate, the leases
and the health code read.  In a run of all of them together, two runs with the
same requests, stream events, health events and draws take the same decisions
and keep the same counters, whatever is scraped and whenever.
-/

namespace KeelRouter

variable {F : Type}

/-- What a strategy has decided: whom it picked, whom the gate admitted, for the
strategy that asks it, and the trace. -/
structure Decision where
  chosen : Option BackendId
  eligible : Option (List BackendId)
  trace : DecisionTrace
deriving DecidableEq

def Decision.fellThrough (decision : Decision) : Bool := decision.trace.fellThrough

def Decision.unreported (decision : Decision) : Decision :=
  { decision with trace := decision.trace.unreported }

@[simp]
theorem Decision.unreported_unreported (decision : Decision) :
    decision.unreported.unreported = decision.unreported := by
  simp [Decision.unreported, DecisionTrace.unreported, CandidateScore.unreported,
    Function.comp_def]

/-- The backends that pass the gate, for the strategy that has one. -/
def RoutingStrategy.eligible (strategy : RoutingStrategy) (heap : Heap) (snap : Snapshot)
    (req : RequestFeatures) : Option (List BackendId) :=
  match strategy with
  | .pressure self => (KeelRouter.eligible heap snap (self.needKv req) self.sigma).toOption
  | .roundRobin _ | .p2c | .leastRequests | .leastKvts => none

/-- The decision that a step takes. -/
def RouterRun.decision (state : RouterRun F) : RouterEvent F → Option Decision
  | .advance id (.pick rng) =>
      (state.handlers[id]?).bind fun handler =>
        match handler.phase with
        | .routing features _ =>
            let snap := state.router.snapshot
            if snap.healthy.isEmpty then none
            else
              (state.router.strategy.pick state.heap snap features rng
                (some .default)).toOption.map fun (picked, _) =>
                  { chosen := picked.chosen
                    eligible := state.router.strategy.eligible state.heap snap features
                    trace := picked.trace.getD .default }
        | _ => none
  | _ => none

/-- The router with its collectors: the counters of their last samples, the
decisions so far, the latest first, and what was reported to the metrics. -/
structure SystemRun (F : Type) where
  run : RouterRun F
  prevSamples : BackendRef → Option CounterSample
  decisions : List Decision
  signals : List SignalEffect

inductive SystemEvent (F : Type) where
  | router (event : RouterEvent F)
  | recordFailure (ref : BackendRef)
  | recordSuccess (ref : BackendRef)
  | nextSnapshot
  | scrape (ref : BackendRef) (tick : Tick)

def SystemEvent.isScrape : SystemEvent F → Bool
  | .scrape _ _ => true
  | _ => false

namespace SystemRun

def initial (heap : Heap) (router : RouterState F) : SystemRun F where
  run := .initial heap router
  prevSamples _ := none
  decisions := []
  signals := []

def setHeap (state : SystemRun F) (heap : Heap) : SystemRun F :=
  { state with run := { state.run with heap } }

/-- One round of the collector of a backend. -/
def scrape (maxSignalAge : Instant) (state : SystemRun F) (ref : BackendRef) (tick : Tick) :
    SystemRun F :=
  let collector : Collector := ⟨state.run.heap ref, state.prevSamples ref⟩
  let next := collector.tick maxSignalAge tick
  { state.setHeap (Function.update state.run.heap ref next.1.backend) with
    prevSamples := Function.update state.prevSamples ref next.1.prevSample
    signals := state.signals ++ next.2 }

def step [DecayNumber F] (maxSignalAge : Instant) (libraries : Libraries) (state : SystemRun F) :
    SystemEvent F → Option (SystemRun F)
  | .router event =>
      (state.run.step libraries event).map fun next =>
        { state with
          run := next
          decisions := (state.run.decision event).toList ++ state.decisions }
  | .recordFailure ref => some (state.setHeap (KeelRouter.recordFailure state.run.heap ref))
  | .recordSuccess ref => some (state.setHeap (KeelRouter.recordSuccess state.run.heap ref))
  | .nextSnapshot =>
      let snapshot := KeelRouter.nextSnapshot state.run.heap state.run.router.snapshot
      some { state with
        run := { state.run with router := { state.run.router with snapshot } } }
  | .scrape ref tick => some (state.scrape maxSignalAge ref tick)

theorem step_router [DecayNumber F] (maxSignalAge : Instant) {libraries : Libraries}
    {state : SystemRun F} {event : RouterEvent F} {next : RouterRun F}
    (stepped : state.run.step libraries event = some next) :
    state.step maxSignalAge libraries (.router event) = some { state with
      run := next
      decisions := (state.run.decision event).toList ++ state.decisions } := by
  rw [step, stepped]
  rfl

/-! ## What is seen of a state -/

/-- Everything but the reported readings, the collectors and the metrics. -/
def unreported (state : SystemRun F) : SystemRun F where
  run := state.run.unreported
  prevSamples _ := none
  decisions := state.decisions.map Decision.unreported
  signals := []

theorem scrape_unreported (maxSignalAge : Instant) (state : SystemRun F) (ref : BackendRef)
    (tick : Tick) : (state.scrape maxSignalAge ref tick).unreported = state.unreported := by
  have sameHeap : (state.scrape maxSignalAge ref tick).run.heap.unreported =
      state.run.heap.unreported := by
    change Heap.unreported (Function.update state.run.heap ref _) = _
    rw [Heap.unreported_update, Collector.tick_backend]
    exact Function.update_eq_self ref state.run.heap.unreported
  unfold unreported RouterRun.unreported
  rw [sameHeap]
  rfl

theorem recordFailure_unreported (heap : Heap) (ref : BackendRef) :
    KeelRouter.recordFailure heap.unreported ref =
      (KeelRouter.recordFailure heap ref).unreported := by
  have sameHealth : (heap.unreported ref).health = (heap ref).health := rfl
  unfold KeelRouter.recordFailure
  rw [sameHealth]
  dsimp only
  split
  · rw [Heap.unreported_update]
    rfl
  · rw [Heap.unreported_update]
    rfl

theorem recordSuccess_unreported (heap : Heap) (ref : BackendRef) :
    KeelRouter.recordSuccess heap.unreported ref =
      (KeelRouter.recordSuccess heap ref).unreported := by
  unfold KeelRouter.recordSuccess
  rw [Heap.unreported_update]
  rfl

theorem nextSnapshot_unreported (heap : Heap) (prev : Snapshot) :
    KeelRouter.nextSnapshot heap.unreported prev = KeelRouter.nextSnapshot heap prev := rfl

theorem strategy_eligible_unreported (strategy : RoutingStrategy) (heap : Heap) (snap : Snapshot)
    (req : RequestFeatures) :
    strategy.eligible heap.unreported snap req = strategy.eligible heap snap req := by
  cases strategy with
  | pressure self => exact congrArg Except.toOption (eligible_unreported heap snap _ _)
  | roundRobin | p2c | leastRequests | leastKvts => rfl

/-- The decision of a step is the same, but for the readings in its trace. -/
theorem decision_unreported (state : RouterRun F) (event : RouterEvent F) :
    state.unreported.decision event = (state.decision event).map Decision.unreported := by
  cases event with
  | arrive parts now => rfl
  | advance id event =>
      cases event with
      | pick rng =>
          unfold RouterRun.decision
          simp only [RouterRun.unreported]
          cases state.handlers[id]? with
          | none => rfl
          | some handler =>
              obtain ⟨parts, now, phase, effects⟩ := handler
              cases phase with
              | routing features body =>
                  simp only [Option.bind_some, strategy_eligible_unreported, pick_unreported]
                  split
                  · rfl
                  · cases state.router.strategy.pick state.heap state.router.snapshot features rng
                        (some .default) with
                    | error panic => rfl
                    | ok chose =>
                        obtain ⟨⟨chosen, trace⟩, strategy⟩ := chose
                        cases trace <;> rfl
              | readingBody | picked | opened | dispatching | responding | finished => rfl
      | bodyRead | openLease | rebuild | dispatched | poll | dropBody | cancel => rfl

/-- What a step shows is determined by what is seen before it. -/
theorem step_unreported [DecayNumber F] (maxSignalAge : Instant) (libraries : Libraries)
    (state : SystemRun F) {event : SystemEvent F} (seen : event.isScrape = false) :
    (state.step maxSignalAge libraries event).map unreported =
      (state.unreported.step maxSignalAge libraries event).map unreported := by
  have sameDecisions : (state.decisions.map Decision.unreported).map Decision.unreported =
      state.decisions.map Decision.unreported := by
    simp [Function.comp_def]
  cases event with
  | router event =>
      have stepped := RouterRun.step_unreported libraries state.run event
      have decided := decision_unreported state.run event
      unfold step
      simp only [unreported, stepped, decided]
      cases state.run.step libraries event with
      | none => rfl
      | some next =>
          cases state.run.decision event <;>
            simp [unreported, RouterRun.unreported, sameDecisions] <;> rfl
  | recordFailure ref =>
      have same := recordFailure_unreported state.run.heap ref
      simp only [step, unreported, setHeap, RouterRun.unreported, same, Option.map_some,
        sameDecisions]
      rfl
  | recordSuccess ref =>
      have same := recordSuccess_unreported state.run.heap ref
      simp only [step, unreported, setHeap, RouterRun.unreported, same, Option.map_some,
        sameDecisions]
      rfl
  | nextSnapshot =>
      simp only [step, unreported, RouterRun.unreported, nextSnapshot_unreported, Option.map_some,
        sameDecisions]
      rfl
  | scrape ref tick => cases seen

theorem unwinds [DecayNumber F] (maxSignalAge : Instant) (libraries : Libraries) :
    Noninterference.Unwinds (step (F := F) maxSignalAge libraries) unreported
      SystemEvent.isScrape where
  unseen := by
    intro state event scraped
    cases event with
    | scrape ref tick => exact ⟨_, rfl, scrape_unreported maxSignalAge state ref tick⟩
    | router | recordFailure | recordSuccess | nextSnapshot => cases scraped
  congr := by
    intro first second event seen agree
    rw [step_unreported maxSignalAge libraries first seen, agree,
      ← step_unreported maxSignalAge libraries second seen]

/-! ## Two runs -/

def withoutScrapes (events : List (SystemEvent F)) : List (SystemEvent F) :=
  events.filter fun event => !event.isScrape

/-- Two states that differ only in the reported readings of their backends, in
what their traces repeat of them, and in their collectors. -/
structure SameRouting (first second : SystemRun F) : Prop where
  picks : first.decisions.map Decision.chosen = second.decisions.map Decision.chosen
  eligible : first.decisions.map Decision.eligible = second.decisions.map Decision.eligible
  fellThrough : first.decisions.map Decision.fellThrough =
    second.decisions.map Decision.fellThrough
  live : ∀ ref, (first.run.heap ref).live = (second.run.heap ref).live
  health : ∀ ref, (first.run.heap ref).health = (second.run.heap ref).health
  healthy : first.run.router.snapshot.healthy = second.run.router.snapshot.healthy
  traces : first.decisions.map (fun decision => decision.trace.unreported) =
    second.decisions.map fun decision => decision.trace.unreported
  others : first.run.unreported = second.run.unreported

theorem map_decisions_unreported {α : Type} (read : Decision → α)
    (unread : ∀ decision, read decision.unreported = read decision) (state : SystemRun F) :
    state.unreported.decisions.map read = state.decisions.map read := by
  simp [unreported, Function.comp_def, unread]

theorem sameRouting_of_unreported {first second : SystemRun F}
    (same : first.unreported = second.unreported) : SameRouting first second := by
  have sameRun : first.run.unreported = second.run.unreported := congrArg SystemRun.run same
  have sameBackend (ref : BackendRef) :
      (first.run.heap ref).unreported = (second.run.heap ref).unreported :=
    congrFun (congrArg RouterRun.heap sameRun) ref
  have read {α : Type} (read : Decision → α)
      (unread : ∀ decision, read decision.unreported = read decision) :
      first.decisions.map read = second.decisions.map read := by
    rw [← map_decisions_unreported read unread, same, map_decisions_unreported read unread]
  exact {
    picks := read _ fun _ => rfl
    eligible := read _ fun _ => rfl
    fellThrough := read _ fun _ => rfl
    live := fun ref => (congrArg Backend.live (sameBackend ref) :)
    health := fun ref => (congrArg Backend.health (sameBackend ref) :)
    healthy := congrArg (fun run => run.router.snapshot.healthy) sameRun
    traces := read _ fun decision => congrArg Decision.trace decision.unreported_unreported
    others := sameRun }

/-- Two runs of the system with the same events besides scrapes are possible
together, and route alike; so do their beginnings that have the same events. -/
theorem scrapes_never_influence_routing [DecayNumber F] (maxSignalAge : Instant)
    (libraries : Libraries) (heap : Heap) (router : RouterState F)
    {first second : List (SystemEvent F)} (same : withoutScrapes first = withoutScrapes second) :
    Option.Rel SameRouting
      (EventRun.run (step maxSignalAge libraries) (initial heap router) first)
      (EventRun.run (step maxSignalAge libraries) (initial heap router) second) := by
  have agree := Noninterference.map_view_run_congr (unwinds (F := F) maxSignalAge libraries)
    (rfl : (initial heap router).unreported = _) same
  cases firstRun : EventRun.run (step maxSignalAge libraries) (initial heap router) first with
  | none =>
      rw [firstRun] at agree
      rw [Option.map_eq_none_iff.mp agree.symm]
      exact .none
  | some last =>
      rw [firstRun] at agree
      obtain ⟨other, secondRun, seen⟩ := Option.map_eq_some_iff.mp agree.symm
      rw [secondRun]
      exact .some (sameRouting_of_unreported seen.symm)

/-! ## A loaded backend and a free one -/

theorem decision_pick_chosen {state : RouterRun F} {id : Nat} {handler : Handler}
    {features : RequestFeatures} {body : List UInt8}
    (present : state.handlers[id]? = some handler) (phase : handler.phase = .routing features body)
    (healthy : state.router.snapshot.healthy.isEmpty = false) (rng : SmallRng) :
    (state.decision (.advance id (.pick rng))).map Decision.chosen =
      (state.router.strategy.choice state.heap state.router.snapshot features rng).map
        Prod.fst := by
  unfold RouterRun.decision RoutingStrategy.choice
  simp only [present, Option.bind_some, phase, healthy, Bool.false_eq_true, if_false,
    Option.map_map]
  rfl

open RouterRun (chatLibraries chatRouter chatRouted chatArrival)

/-- Two backends, of which the first one has a request. -/
def loadedHeap : Heap
  | 0 => { Backend.fresh ⟨0⟩ "http://localhost:8001" "m" 4 ⟨1024, 4⟩ with live := ⟨1, 100⟩ }
  | _ => Backend.fresh ⟨1⟩ "http://localhost:8002" "m" 4 ⟨1024, 4⟩

noncomputable def loadedRouter : RouterState ℝ :=
  { chatRouter (.pressure ⟨defaultTheta, defaultPenalty, defaultSigma, .promptPlusOutput⟩) with
    snapshot := ⟨0, [0, 1], [⟨0⟩, ⟨1⟩], []⟩ }

def chatPicked : List (SystemEvent ℝ) :=
  (chatArrival 0 ++ [RouterEvent.advance 0 (.pick .first)]).map .router

theorem exists_run_chatPicked :
    ∃ state, EventRun.run (step 5 chatLibraries) (initial loadedHeap loadedRouter) chatPicked =
        some state ∧
      state.decisions.map Decision.chosen = [some ⟨1⟩] := by
  have read := @RouterRun.step_bodyRead_chat loadedRouter ⟨rfl, rfl⟩ loadedHeap []
  have chose : (RoutingStrategy.pressure
      ⟨defaultTheta, defaultPenalty, defaultSigma, .promptPlusOutput⟩).choice loadedHeap
      ⟨0, [0, 1], [⟨0⟩, ⟨1⟩], []⟩ RouterRun.chatFeatures .first = some (some ⟨1⟩, false) := by
    decide +kernel
  let routed : RouterRun ℝ := ⟨loadedHeap, loadedRouter, [chatRouted]⟩
  have picked : routed.step chatLibraries (.advance 0 (.pick .first)) = some _ :=
    RouterRun.step_pick_of_choice ⟨1⟩ rfl rfl (fun _ same => by cases same) chose rfl rfl
  have chosen : (routed.decision (.advance 0 (.pick .first))).map Decision.chosen =
      some (some ⟨1⟩) := by
    rw [decision_pick_chosen rfl rfl rfl]
    exact congrArg (Option.map Prod.fst) chose
  obtain ⟨decision, decided, toSecond⟩ := Option.map_eq_some_iff.mp chosen
  refine ⟨_, EventRun.run_cons_eq_some.mpr ⟨_, step_router 5 rfl, EventRun.run_cons_eq_some.mpr
    ⟨_, step_router 5 read, EventRun.run_cons_eq_some.mpr ⟨_, step_router 5 picked, rfl⟩⟩⟩, ?_⟩
  change ((routed.decision (.advance 0 (.pick .first))).toList ++ []).map Decision.chosen = _
  rw [decided, Option.toList_some, List.append_nil, List.map_singleton, toSecond]

def scrapedBefore : List (SystemEvent ℝ) :=
  .scrape 1 ⟨.responded 200 Collector.goodBody, 1⟩ :: chatPicked

def scrapedAfter : List (SystemEvent ℝ) := chatPicked ++ [.scrape 0 ⟨.timedOut, 1⟩]

/-- A chat request goes to the backend that holds nothing, though its page, read
before, says that it is busy. -/
theorem scrapes_never_influence_chat :
    ∃ first second : SystemRun ℝ,
      EventRun.run (step 5 chatLibraries) (initial loadedHeap loadedRouter) scrapedBefore =
        some first ∧
      EventRun.run (step 5 chatLibraries) (initial loadedHeap loadedRouter) scrapedAfter =
        some second ∧
      SameRouting first second ∧ first.decisions.map Decision.chosen = [some ⟨1⟩] := by
  obtain ⟨picked, executed, chosen⟩ := exists_run_chatPicked
  have secondRun : EventRun.run (step 5 chatLibraries) (initial loadedHeap loadedRouter)
      scrapedAfter = some (picked.scrape 5 0 ⟨.timedOut, 1⟩) :=
    EventRun.run_append_of_run executed _
  have alike : Option.Rel SameRouting
      (EventRun.run (step 5 chatLibraries) (initial loadedHeap loadedRouter) scrapedBefore)
      (EventRun.run (step 5 chatLibraries) (initial loadedHeap loadedRouter) scrapedAfter) :=
    scrapes_never_influence_routing 5 chatLibraries loadedHeap loadedRouter rfl
  rw [secondRun] at alike
  cases firstRun : EventRun.run (step 5 chatLibraries) (initial loadedHeap loadedRouter)
      scrapedBefore with
  | none =>
      rw [firstRun] at alike
      cases alike
  | some first =>
      rw [firstRun] at alike
      cases alike with
      | some same => exact ⟨first, _, rfl, secondRun, same, same.picks.trans chosen⟩

end SystemRun

end KeelRouter
