import KeelRouter.AdmissionCeiling
import KeelRouter.PromptWords
import KeelRouter.RequestAccounting
import KeelRouter.RouterLeases
import KeelRouter.ScrapeNoninterference
import KeelRouter.SnapshotInvariant

/-!
# The leases of the whole system

Beside the executions of the handler, the system records failures and successes,
takes new snapshots and scrapes its backends.  None of this touches an execution
or a live counter, so what holds of all runs of the router holds of all runs of
the system.

Every open lease is charged at least its prompt, and no prompt is empty.  A
backend with open requests therefore never has a projection of zero, and one
without requests always has the counters it was started with.
-/

namespace KeelRouter

variable {F : Type}

/-! ## Steps that are none of the router's -/

/-- Everything of a backend but its counters, its health and its reported load. -/
def Backend.Fixed (first second : Backend) : Prop :=
  first = { second with live := first.live, health := first.health, reported := first.reported }

theorem Backend.Fixed.trans {first second third : Backend} (left : first.Fixed second)
    (right : second.Fixed third) : first.Fixed third := by
  unfold Backend.Fixed at *
  rw [left, right]

/-- What the health code, the snapshots and the collectors leave alone. -/
structure RouterRun.Maintained (before after : RouterRun F) : Prop where
  handlers : after.handlers = before.handlers
  fixed : ∀ ref, (after.heap ref).Fixed (before.heap ref)
  live : ∀ ref, (after.heap ref).live = (before.heap ref).live
  caps : ∀ ref, (after.heap ref).caps = (before.heap ref).caps
  id : ∀ ref, (after.heap ref).id = (before.heap ref).id
  router : after.router = { before.router with snapshot := after.router.snapshot }
  snapshot : after.router.snapshot = before.router.snapshot ∨
    after.router.snapshot = nextSnapshot before.heap before.router.snapshot

/-- Everything of a backend but its health and its reported load. -/
abbrev Backend.Same (first second : Backend) : Prop :=
  first = { second with health := first.health, reported := first.reported }

theorem Backend.Same.fixed {first second : Backend} (same : first.Same second) :
    first.Fixed second := by
  have live : first.live = second.live := (congrArg Backend.live same :)
  unfold Backend.Fixed
  rw [live]
  exact same

theorem recordFailure_same (heap : Heap) (ref other : BackendRef) :
    (recordFailure heap ref other).Same (heap other) := by
  unfold recordFailure Backend.Same
  by_cases same : other = ref
  · subst same
    dsimp only
    split <;> simp
  · dsimp only
    split <;> rw [Function.update_of_ne same]

theorem recordSuccess_same (heap : Heap) (ref other : BackendRef) :
    (recordSuccess heap ref other).Same (heap other) := by
  unfold recordSuccess Backend.Same
  by_cases same : other = ref
  · subst same
    simp
  · rw [Function.update_of_ne same]

theorem RouterRun.maintained_of_same {run : RouterRun F} {heap : Heap}
    (same : ∀ ref, (heap ref).Same (run.heap ref)) : run.Maintained { run with heap } where
  handlers := rfl
  fixed ref := (same ref).fixed
  live ref := (congrArg Backend.live (same ref) :)
  caps ref := (congrArg Backend.caps (same ref) :)
  id ref := (congrArg Backend.id (same ref) :)
  router := rfl
  snapshot := .inl rfl

namespace SystemRun

theorem maintained_scrape (maxSignalAge : Instant) (state : SystemRun F) (ref : BackendRef)
    (tick : Tick) : state.run.Maintained (state.scrape maxSignalAge ref tick).run := by
  refine RouterRun.maintained_of_same fun other => ?_
  by_cases same : other = ref
  · subst same
    rw [Function.update_self, Collector.tick_backend]
  · rw [Function.update_of_ne same]

section Steps

variable [DecayNumber F] {maxSignalAge : Instant} {libraries : Libraries}

theorem step_cases {state next : SystemRun F} {event : SystemEvent F}
    (stepped : state.step maxSignalAge libraries event = some next) :
    (∃ routerEvent, event = .router routerEvent ∧
      state.run.step libraries routerEvent = some next.run) ∨
    state.run.Maintained next.run := by
  cases event with
  | router event =>
      obtain ⟨run, advanced, rfl⟩ := Option.map_eq_some_iff.mp stepped
      exact .inl ⟨event, rfl, advanced⟩
  | recordFailure ref =>
      obtain rfl := Option.some.inj stepped
      exact .inr (RouterRun.maintained_of_same (recordFailure_same state.run.heap ref))
  | recordSuccess ref =>
      obtain rfl := Option.some.inj stepped
      exact .inr (RouterRun.maintained_of_same (recordSuccess_same state.run.heap ref))
  | nextSnapshot =>
      obtain rfl := Option.some.inj stepped
      exact .inr ⟨rfl, fun _ => rfl, fun _ => rfl, fun _ => rfl, fun _ => rfl, rfl, .inr rfl⟩
  | scrape ref tick =>
      obtain rfl := Option.some.inj stepped
      exact .inr (maintained_scrape maxSignalAge state ref tick)

/-- An invariant of the router that maintenance keeps is one of the system. -/
theorem run_preserves {invariant : RouterRun F → Prop}
    (routed : ∀ state event next, invariant state → RouterRun.step libraries state event = some next →
      invariant next)
    (maintained : ∀ before after, invariant before → before.Maintained after → invariant after)
    {heap : Heap} {router : RouterState F} (holds : invariant (.initial heap router))
    {events : List (SystemEvent F)} {state : SystemRun F}
    (executed : EventRun.run (step maxSignalAge libraries) (initial heap router) events =
      some state) : invariant state.run := by
  have preserved (state : SystemRun F) (event : SystemEvent F) (next : SystemRun F)
      (before : invariant state.run)
      (stepped : state.step maxSignalAge libraries event = some next) : invariant next.run := by
    rcases step_cases stepped with ⟨routerEvent, -, advanced⟩ | kept
    · exact routed _ _ _ before advanced
    · exact maintained _ _ before kept
  exact EventRun.run_preserves preserved holds executed

/-- What holds of an arriving execution and is kept by its steps holds of all
executions of the system. -/
theorem forall_handlers {holds : Handler → Prop}
    (arrived : ∀ parts now, holds (.arrived parts now))
    (preserved : ∀ (state after : HandlerState F) event, holds state.handler →
      state.Steps libraries event after → holds after.handler)
    {heap : Heap} {router : RouterState F} {events : List (SystemEvent F)} {state : SystemRun F}
    (executed : EventRun.run (step maxSignalAge libraries) (initial heap router) events =
      some state) : ∀ handler ∈ state.run.handlers, holds handler := by
  have maintained (before after : RouterRun F) (all : ∀ handler ∈ before.handlers, holds handler)
      (kept : before.Maintained after) : ∀ handler ∈ after.handlers, holds handler := by
    rw [kept.handlers]
    exact all
  exact run_preserves (fun _ _ _ => RouterRun.forall_handlers_step arrived preserved) maintained
    (by simp [RouterRun.initial]) executed

/-- A run of the router is one of the system. -/
theorem run_routed {state : SystemRun F} {events : List (RouterEvent F)} {run : RouterRun F}
    (executed : EventRun.run (RouterRun.step libraries) state.run events = some run) :
    ∃ decisions, EventRun.run (step maxSignalAge libraries) state (events.map .router) =
      some { state with run, decisions } := by
  have lifted (run : RouterRun F) (event : RouterEvent F) (next : RouterRun F)
      (before : SystemRun F) (_ : True)
      (moved : ∃ decisions, before = { state with run, decisions })
      (stepped : run.step libraries event = some next) :
      ∃ after, before.step maxSignalAge libraries (.router event) = some after ∧
        ∃ decisions, after = { state with run := next, decisions } := by
    obtain ⟨decisions, rfl⟩ := moved
    exact ⟨_, step_router maxSignalAge stepped, _, rfl⟩
  obtain ⟨last, systemRun, decisions, rfl⟩ := EventRun.run_translated SystemEvent.router lifted
    (EventRun.guarded_of_forall fun _ _ => trivial) ⟨state.decisions, rfl⟩ executed
  exact ⟨decisions, systemRun⟩

end Steps

end SystemRun

/-! ## Charges -/

/-- The lease is charged the projection of its prompt and its estimate. -/
structure CostLease.Charged (lease : CostLease) : Prop where
  prompt : lease.promptTokens ≠ 0
  charged : lease.charged = lease.kvModel.project lease.promptTokens lease.oHat

namespace CostLease.Charged

theorem observeTokens {lease : CostLease} (held : lease.Charged) (n : UInt32) (heap : Heap) :
    (lease.observeTokens n heap).1.Charged := by
  by_cases exceeds : lease.oHat < lease.tokensSeen + n
  · rw [observeTokens_of_lt lease n heap exceeds]
    exact ⟨held.prompt, rfl⟩
  · rw [observeTokens_of_not_lt lease n heap exceeds]
    exact ⟨held.prompt, held.charged⟩

theorem iterate {held : CostLease × Heap} (charged : held.1.Charged) (count : Nat) :
    (observeToken^[count] held).1.Charged := by
  induction count generalizing held with
  | zero => exact charged
  | succ count ih =>
      rw [Function.iterate_succ_apply]
      have observed : (observeToken held).1.Charged := charged.observeTokens 1 held.2
      exact ih observed

theorem bounds {lease : CostLease} (held : lease.Charged) :
    1 ≤ lease.promptTokens.toNat ∧ (lease.promptTokens.toNat : ℤ) ≤ lease.charged.toInt ∧
      lease.charged.toInt < 2 ^ 33 := by
  rw [held.charged]
  refine ⟨Nat.one_le_iff_ne_zero.mpr (UInt32.toNat_ne_zero held.prompt), ?_, ?_⟩
  · exact promptTokens_le_project lease.kvModel lease.promptTokens lease.oHat
  · exact lease.kvModel.project_lt lease.promptTokens lease.oHat

end CostLease.Charged

theorem LeaseUse.charged {before after : Option CostLease × Heap} (used : LeaseUse before after)
    (held : ∀ lease ∈ before.1, lease.Charged) : ∀ lease ∈ after.1, lease.Charged := by
  cases used with
  | keep => exact held
  | observe count pair =>
      intro lease member
      obtain rfl := Option.mem_some_iff.mp member
      exact (held pair.1 rfl).iterate count
  | drop lease heap => exact fun _ member => absurd member (Option.not_mem_none _)

/-- The features that a lease will be opened with. -/
def Phase.waiting : Phase → Option RequestFeatures
  | .routing features _ | .picked features _ _ _ => some features
  | _ => none

/-- The prompt of an execution is not empty, and its lease is charged for it. -/
structure Handler.Charging (handler : Handler) : Prop where
  waiting : ∀ features ∈ handler.phase.waiting, features.promptTokens ≠ 0
  lease : ∀ lease ∈ handler.lease, lease.Charged

namespace Handler

theorem charging_arrived (parts : RequestParts) (now : Instant) :
    (arrived parts now).Charging where
  waiting _ member := by simp [arrived, Phase.waiting] at member
  lease _ member := by simp [arrived, Handler.lease, Phase.lease] at member

variable [DecayNumber F] {libraries : Libraries}

theorem charging_step {state after : HandlerState F} {event : HandlerEvent F}
    (charging : state.handler.Charging) (stepped : state.Steps libraries event after) :
    after.handler.Charging := by
  have leaseAfter (used : event ≠ .openLease) : ∀ lease ∈ after.handler.lease, lease.Charged :=
    (HandlerState.leaseUse_of_steps stepped used).charged charging.lease
  cases stepped with
  | bodyRead collected phase returned =>
      refine ⟨?_, leaseAfter (by simp)⟩
      intro features waits
      rcases HandlerState.bodyRead_cases returned with ⟨status, rfl⟩ | ⟨read, body, rfl⟩
      · simp [errorResponse, Phase.waiting] at waits
      · obtain rfl : read = features := by simpa [Phase.waiting] using waits
        obtain ⟨bytes, -, built, -⟩ := HandlerState.bodyRead_routing returned rfl
        exact promptTokens_ne_zero built
  | pick rng phase returned =>
      refine ⟨?_, leaseAfter (by simp)⟩
      intro features waits
      rcases HandlerState.pick_cases returned with ⟨strategy, -, rfl⟩ |
        ⟨picked, strategy, id, backend, -, -, -, rfl⟩
      · simp [errorResponse, Phase.waiting] at waits
      · apply charging.waiting
        rw [phase]
        simpa [Phase.waiting] using waits
  | openLease phase =>
      rename_i features body backend fellThrough
      refine ⟨by simp [HandlerState.openLease, Phase.waiting], ?_⟩
      intro lease opened
      obtain rfl := Option.mem_some_iff.mp opened
      refine ⟨charging.waiting features ?_, rfl⟩
      rw [phase]
      rfl
  | cancelDispatch phase | poll now nowS polled phase | dropBody phase =>
      exact ⟨fun _ waits => absurd waits (Option.not_mem_none _), leaseAfter (by simp)⟩
  | rebuild phase =>
      rename_i features body lease
      refine ⟨?_, leaseAfter (by simp)⟩
      rcases state.rebuild_cases libraries features body lease with rebuilt | rebuilt <;>
        rw [rebuilt] <;> exact fun _ waits => absurd waits (Option.not_mem_none _)
  | dispatched answer phase =>
      rename_i features lease
      refine ⟨?_, leaseAfter (by simp)⟩
      rcases state.dispatched_cases features lease answer with ⟨key, answered⟩ | ⟨body, -, answered⟩ <;>
        rw [answered] <;> exact fun _ waits => absurd waits (Option.not_mem_none _)

end Handler

/-! ## Counters -/

/-- The prompt tokens of the leases on a backend. -/
def promptsOn (leases : List CostLease) (ref : BackendRef) : ℕ :=
  keyedSum CostLease.backend (fun lease => lease.promptTokens.toNat) leases ref

theorem amounts_of_charged {leases : List CostLease}
    (charged : ∀ lease ∈ leases, lease.Charged) (ref : BackendRef) :
    slotsOn leases ref ≤ promptsOn leases ref ∧
      (promptsOn leases ref : ℤ) ≤ chargesOn leases ref ∧
      chargesOn leases ref ≤ 2 ^ 33 * slotsOn leases ref := by
  unfold slotsOn promptsOn chargesOn
  induction leases with
  | nil => simp
  | cons lease leases ih =>
      obtain ⟨prompts, charges, small⟩ := ih fun other member => charged other (by simp [member])
      obtain ⟨prompt, charge, chargeSmall⟩ := (charged lease (by simp)).bounds
      simp only [keyedSum_cons]
      split <;> push_cast <;> refine ⟨?_, ?_, ?_⟩ <;> omega

/-- The counters of a backend are exact, and its projection covers the prompts of
its open requests. -/
structure ShowsLoad (live : LiveCounters) (leases : List CostLease) (ref : BackendRef) : Prop where
  inflight : live.inflight.toNat = slotsOn leases ref
  kvProjectedTokens : live.kvProjectedTokens.toInt = chargesOn leases ref
  prompts : (promptsOn leases ref : ℤ) ≤ live.kvProjectedTokens.toInt
  loaded : (live.inflight.toNat : ℤ) ≤ live.kvProjectedTokens.toInt

namespace RouterRun

theorem Maintained.balanced {before after : RouterRun F} (kept : before.Maintained after)
    (balanced : before.Balanced) : after.Balanced := by
  obtain ⟨ledger, simulated, holds⟩ := balanced
  refine ⟨{ ledger with heap := after.heap, snapshot := after.router.snapshot },
    ⟨rfl, rfl, ?_⟩, ⟨holds.unreleased, ?_, ?_⟩⟩
  · rw [leases, kept.handlers]
    exact simulated.leases
  · intro ref
    rw [kept.live, ← simulated.heap]
    exact holds.inflight ref
  · intro ref
    rw [kept.live, ← simulated.heap]
    exact holds.kvProjectedTokens ref

section Balances

variable {state : RouterRun F} (balanced : state.Balanced) (ref : BackendRef)
include balanced

theorem Balanced.live_eq_default (unused : ∀ lease ∈ state.leases, lease.backend ≠ ref) :
    (state.heap ref).live = .default := by
  obtain ⟨ledger, simulated, holds⟩ := balanced
  have unopened {G : Type} [AddCommMonoid G] (amount : CostLease → G) :
      keyedSum CostLease.backend amount ledger.leases ref = 0 :=
    keyedSum_eq_zero_of_forall _ _ fun lease member same =>
      absurd same (unused lease (simulated.leases.mem_iff.mp member))
  rw [← simulated.heap, LiveCounters.ext_iff, holds.inflight, holds.kvProjectedTokens]
  exact ⟨unopened _, unopened _⟩

/-- When all executions have finished, the counters are those of the start. -/
theorem Balanced.live_of_finished (finished : ∀ handler ∈ state.handlers, handler.isFinished) :
    (state.heap ref).live = .default := by
  apply balanced.live_eq_default ref
  intro lease member
  obtain ⟨handler, listed, held⟩ := List.mem_filterMap.mp member
  have ended := finished handler listed
  unfold Handler.isFinished Phase.isFinished at ended
  unfold Handler.lease at held
  cases phase : handler.phase <;> simp [phase, Phase.lease] at ended held

theorem Balanced.showsLoad (charged : ∀ lease ∈ state.leases, lease.Charged)
    (few : slotsOn state.leases ref < 2 ^ 30) :
    ShowsLoad (state.heap ref).live state.leases ref := by
  obtain ⟨prompts, charges, small⟩ := amounts_of_charged charged ref
  have inflight := balanced.inflight_toNat ref
  have congruent := balanced.kvProjectedTokens_modEq ref
  have low := (state.heap ref).live.kvProjectedTokens.le_toInt
  have high := (state.heap ref).live.kvProjectedTokens.toInt_lt
  unfold Int.ModEq at congruent
  constructor <;> omega

end Balances

end RouterRun

namespace SystemRun

variable [DecayNumber F] (maxSignalAge : Instant) (libraries : Libraries)

/-- In every run of the system, a backend without open requests has the counters
it was started with, and one with open requests is charged at least for their
prompts, of which none is empty. -/
theorem loaded_backends_never_look_free {heap : Heap} (fresh : ∀ ref, (heap ref).live = .default)
    (router : RouterState F) {events : List (SystemEvent F)} {state : SystemRun F}
    (executed : EventRun.run (step maxSignalAge libraries) (initial heap router) events =
      some state) :
    ((∀ handler ∈ state.run.handlers, handler.isFinished) →
      ∀ ref, (state.run.heap ref).live = .default) ∧
    ∀ ref,
      (slotsOn state.run.leases ref = 0 → (state.run.heap ref).live = .default) ∧
      (slotsOn state.run.leases ref < 2 ^ 30 →
        ShowsLoad (state.run.heap ref).live state.run.leases ref) := by
  have balanced : state.run.Balanced :=
    run_preserves (fun _ _ _ => RouterRun.balanced_step) (fun _ _ holds kept => kept.balanced holds)
      (RouterRun.balanced_initial fresh router) executed
  have charging := forall_handlers Handler.charging_arrived (fun _ _ _ => Handler.charging_step)
    executed
  have charged : ∀ lease ∈ state.run.leases, lease.Charged := by
    intro lease member
    obtain ⟨handler, listed, held⟩ := List.mem_filterMap.mp member
    exact (charging handler listed).lease lease held
  have unused (ref : BackendRef) (noSlots : slotsOn state.run.leases ref = 0) :
      ∀ lease ∈ state.run.leases, lease.backend ≠ ref := by
    simpa [slotsOn, keyedSum] using noSlots
  refine ⟨?_, fun ref => ⟨?_, balanced.showsLoad ref charged⟩⟩
  · intro finished ref
    exact balanced.live_of_finished ref finished
  · exact fun noSlots => balanced.live_eq_default ref (unused ref noSlots)

omit [DecayNumber F] in
/-- A chat request on a backend with one slot, and the same backend after it. -/
theorem loaded_backends_never_look_free_one_slot :
    ∃ state : SystemRun ℝ, slotsOn state.run.leases 0 = 1 ∧
      ShowsLoad (state.run.heap 0).live state.run.leases 0 ∧
      (state.run.heap 1).live = .default := by
  let router := RouterRun.chatRouter (.pressure RouterRun.promptOnlyPressure)
  let opened := (RouterRun.oneSlot [RouterRun.chatWaiting]).openChat 0
  have arrived : EventRun.run (RouterRun.step RouterRun.chatLibraries) (RouterRun.oneSlot [])
      (RouterRun.chatArrival 0) = some (RouterRun.oneSlot [RouterRun.chatRouted]) :=
    RouterRun.run_chatArrival ⟨rfl, rfl⟩ RouterRun.oneSlotBackend []
  have executed : EventRun.run (RouterRun.step RouterRun.chatLibraries)
      (initial RouterRun.oneSlotBackend router).run
      (RouterRun.chatArrival 0 ++ [.advance 0 (.pick .first), .advance 0 .openLease]) =
      some opened := by
    rw [EventRun.run_append]
    refine (congrArg (Option.bind · _) arrived).trans ?_
    exact EventRun.run_cons_eq_some.mpr ⟨_, RouterRun.step_pick_chat rfl,
      EventRun.run_cons_eq_some.mpr ⟨_, rfl, rfl⟩⟩
  obtain ⟨decisions, systemRun⟩ := @run_routed ℝ _ 5 _ _ _ _ executed
  have shown := (loaded_backends_never_look_free 5 RouterRun.chatLibraries (fun _ => rfl) router
    systemRun).2
  have onZero : slotsOn opened.leases 0 = 1 := by decide
  have onOne : slotsOn opened.leases 1 = 0 := by decide
  exact ⟨_, onZero, (shown 0).2 (onZero.trans_lt (by norm_num)), (shown 1).1 onOne⟩

end SystemRun

end KeelRouter
