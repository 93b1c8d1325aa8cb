import KeelRouter.BaselineTies
import KeelRouter.GreedyBalance
import KeelRouter.PassiveEjection
import KeelRouter.SystemLeases

/-!
# Fair shares

A request is placed on a backend from the moment it is picked until its lease is
given back.  When no other request waits for its lease, the counters show the
placed load, and a strategy that picks a least loaded backend loads it with at
most the average of what is placed and the request itself.

So the fewest requests never exceed their fair share of the slots, and the least
KV tokens never exceed theirs of equal capacities, for as long as requests are
picked one at a time and the fleet as a whole has room for them.
-/

namespace KeelRouter

variable {F : Type}

/-! ## Placements -/

/-- A request on a backend, with the tokens of its prompt. -/
structure Placement where
  backend : BackendRef
  promptTokens : UInt32

def CostLease.placement (lease : CostLease) : Placement :=
  ⟨lease.backend, lease.promptTokens⟩

/-- The request is picked, or holds a lease. -/
def Phase.placement : Phase → Option Placement
  | .picked features _ backend _ => some ⟨backend, features.promptTokens⟩
  | phase => phase.lease.map CostLease.placement

def Phase.isPicked : Phase → Bool
  | .picked _ _ _ _ => true
  | _ => false

theorem Phase.placement_of_not_isPicked {phase : Phase} (opened : phase.isPicked = false) :
    phase.placement = phase.lease.map CostLease.placement := by
  cases phase with
  | picked _ _ _ _ => cases opened
  | readingBody | routing _ _ | opened _ _ _ | dispatching _ _ | responding _
  | finished _ => rfl

theorem LeaseUse.placement_eq {before after : Option CostLease × Heap}
    (used : LeaseUse before after) :
    after.1 = none ∨ after.1.map CostLease.placement = before.1.map CostLease.placement := by
  cases used with
  | keep => exact .inr rfl
  | drop => exact .inl rfl
  | observe count held =>
      right
      induction count generalizing held with
      | zero => rfl
      | succ count ih =>
          obtain ⟨sameBackend, -, samePrompt, -, -⟩ := held.1.observeTokens_fields 1 held.2
          rw [Function.iterate_succ_apply]
          refine (ih (observeToken held)).trans ?_
          simp [CostLease.placement, observeToken, sameBackend, samePrompt]

namespace HandlerState

variable [DecayNumber F] {libraries : Libraries} {state after : HandlerState F}
  {event : HandlerEvent F}

/-- A pick of an execution that waits for one, with the backend that it names. -/
structure Picks (state : HandlerState F) (rng : SmallRng) (features : RequestFeatures)
    (backend : BackendRef) : Prop where
  waiting : ∃ body, state.handler.phase = .routing features body
  named : ∃ picked strategy id,
    state.router.strategy.pick state.heap state.router.snapshot features rng (some .default) =
      .ok (picked, strategy) ∧
    picked.chosen = some id ∧ state.router.snapshot.backendRef id = .ok backend

/-- Only a pick places a request; the other steps keep its placement or end it. -/
theorem placement_of_steps (stepped : state.Steps libraries event after) :
    after.handler.phase.placement = none ∨
      after.handler.phase.placement = state.handler.phase.placement ∨
      ∃ rng features backend, event = .pick rng ∧ state.Picks rng features backend ∧
        after.handler.phase.placement = some ⟨backend, features.promptTokens⟩ := by
  cases stepped with
  | bodyRead collected phase returned =>
      rcases bodyRead_cases returned with ⟨status, rfl⟩ | ⟨features, body, rfl⟩ <;> exact .inl rfl
  | pick rng phase returned =>
      rename_i features body
      rcases pick_cases returned with ⟨strategy, -, rfl⟩ |
        ⟨picked, strategy, id, backend, chose, chosen, inRange, rfl⟩
      · exact .inl rfl
      · exact .inr (.inr ⟨rng, features, backend, rfl,
          ⟨⟨body, phase⟩, picked, strategy, id, chose, chosen, inRange⟩, rfl⟩)
  | openLease phase =>
      rw [phase]
      exact .inr (.inl rfl)
  | cancelDispatch phase | dropBody phase => exact .inl rfl
  | rebuild phase =>
      rename_i features body lease
      rw [phase]
      rcases state.rebuild_cases libraries features body lease with rebuilt | rebuilt
      · rw [rebuilt]
        exact .inl rfl
      · rw [rebuilt]
        exact .inr (.inl rfl)
  | dispatched answer phase =>
      rename_i features lease
      rw [phase]
      rcases state.dispatched_cases features lease answer with
        ⟨key, answered⟩ | ⟨body, held, answered⟩
      · rw [answered]
        exact .inl rfl
      · rw [answered]
        refine .inr (.inl ?_)
        change (some body.lease).map CostLease.placement = (some lease).map CostLease.placement
        rw [held]
  | poll now nowS polled phase =>
      rename_i body
      have used := leaseUse_of_steps (.poll now nowS polled phase :
        state.Steps libraries (.poll now nowS polled) _) (by simp)
      rcases used.placement_eq with ended | same
      · cases ended
      · refine .inr (.inl ?_)
        rw [phase]
        have held : state.held.1 = some body.lease := by
          rw [HandlerState.held, Handler.lease, phase]
          rfl
        rw [held] at same
        exact same

end HandlerState

/-! ## The placed load -/

namespace RouterRun

def placements (state : RouterRun F) : List Placement :=
  state.handlers.filterMap fun handler => handler.phase.placement

/-- What is placed on a backend, each request with the weight of its prompt. -/
def placedOn (weight : UInt32 → ℕ) (state : RouterRun F) (ref : BackendRef) : ℕ :=
  keyedSum Placement.backend (fun placement => weight placement.promptTokens) state.placements ref

def placedTotal (weight : UInt32 → ℕ) (state : RouterRun F) : ℕ :=
  (state.placements.map fun placement => weight placement.promptTokens).sum

theorem placements_eq_leases {state : RouterRun F}
    (opened : ∀ handler ∈ state.handlers, handler.phase.isPicked = false) :
    state.placements = state.leases.map CostLease.placement := by
  unfold placements leases
  rw [List.map_filterMap]
  apply List.filterMap_congr
  intro handler member
  exact Phase.placement_of_not_isPicked (opened handler member)

variable [DecayNumber F] {libraries : Libraries}

/-- A step ends placements, or a pick adds one. -/
theorem placements_step {state next : RouterRun F} {event : RouterEvent F}
    (stepped : state.step libraries event = some next) :
    next.placements.Subperm state.placements ∨
      ∃ id rng handler features backend, event = .advance id (.pick rng) ∧
        state.handlers[id]? = some handler ∧ (state.view handler).Picks rng features backend ∧
        next.placements.Perm (⟨backend, features.promptTokens⟩ :: state.placements) := by
  rcases step_cases stepped with ⟨parts, now, rfl, rfl⟩ |
    ⟨id, event, handler, after, rfl, present, advanced, rfl⟩
  · left
    have arrived : (Handler.arrived parts now).phase.placement = none := rfl
    have same : ({ state with handlers := state.handlers ++ [.arrived parts now] } :
        RouterRun F).placements = state.placements := by
      simp [placements, arrived]
    rw [same]
  · have before := filterMap_perm (fun handler => handler.phase.placement) present
    have later : (state.update id after).placements.Perm
        (after.handler.phase.placement.toList ++
          (state.handlers.eraseIdx id).filterMap fun handler => handler.phase.placement) := by
      have split := filterMap_perm (fun handler : Handler => handler.phase.placement)
        (getElem?_update_self present after)
      rwa [show (state.update id after).handlers.eraseIdx id = state.handlers.eraseIdx id from
        List.eraseIdx_set_eq] at split
    rcases HandlerState.placement_of_steps advanced with ended | kept |
      ⟨rng, features, backend, rfl, picks, placed⟩
    · left
      rw [ended] at later
      refine later.subperm.trans (List.Subperm.trans ?_ before.symm.subperm)
      exact (List.sublist_append_right _ _).subperm
    · left
      rw [kept] at later
      exact (later.trans before.symm).subperm
    · right
      refine ⟨id, rng, handler, features, backend, rfl, present, picks, ?_⟩
      obtain ⟨body, routing⟩ := picks.waiting
      have unplaced : handler.phase.placement = none := by
        rw [show handler.phase = _ from routing]
        rfl
      rw [unplaced] at before
      rw [placed] at later
      exact later.trans (before.symm.cons _)

/-- Requests are picked one at a time, and only while the average of what is
placed leaves room for the request. -/
def Paced (weight : UInt32 → ℕ) (length limit : ℕ) (state : RouterRun F)
    (event : RouterEvent F) : Prop :=
  ∀ id rng handler features body, event = .advance id (.pick rng) →
    state.handlers[id]? = some handler → handler.phase = .routing features body →
      (∀ other ∈ state.handlers, other.phase.isPicked = false) ∧
        state.placedTotal weight / length + weight features.promptTokens ≤ limit

/-- A paced step keeps the shares, if a pick goes to a least loaded backend. -/
theorem placedOn_step {weight : UInt32 → ℕ} {length limit : ℕ} (positive : 0 < length)
    {state next : RouterRun F} {event : RouterEvent F}
    (least : ∀ handler rng features backend, (state.view handler).Picks rng features backend →
      (∀ other ∈ state.handlers, other.phase.isPicked = false) →
        ∀ other < length, state.placedOn weight backend ≤ state.placedOn weight other)
    (paced : state.Paced weight length limit event)
    (shares : ∀ ref, state.placedOn weight ref ≤ limit)
    (stepped : state.step libraries event = some next) (ref : BackendRef) :
    next.placedOn weight ref ≤ limit := by
  rcases placements_step stepped with fewer |
    ⟨id, rng, handler, features, backend, rfl, present, picks, added⟩
  · exact (keyedSum_le_of_subperm _ _ fewer ref).trans (shares ref)
  · obtain ⟨body, routing⟩ := picks.waiting
    obtain ⟨opened, room⟩ := paced id rng handler features body rfl present routing
    have average : state.placedOn weight backend ≤ state.placedTotal weight / length := by
      have bounded := GreedyBalance.le_average (Finset.nonempty_range_iff.mpr positive.ne')
        (fun other member => least handler rng features backend picks opened other
          (Finset.mem_range.mp member))
        (sum_keyedSum_le Placement.backend (fun placement => weight placement.promptTokens)
          state.placements (Finset.range length))
      rwa [Finset.card_range] at bounded
    unfold placedOn
    rw [keyedSum_perm _ _ added, keyedSum_cons]
    split
    · rename_i same
      obtain rfl : backend = ref := same
      change weight features.promptTokens + state.placedOn weight backend ≤ limit
      omega
    · rw [zero_add]
      exact shares ref

omit [DecayNumber F] in
/-- The leases are among what is placed. -/
theorem leases_sublist (state : RouterRun F) :
    (state.leases.map CostLease.placement).Sublist state.placements := by
  unfold leases placements
  induction state.handlers with
  | nil => exact .refl _
  | cons handler handlers ih =>
      rw [List.filterMap_cons, List.filterMap_cons]
      cases held : handler.lease with
      | none =>
          cases handler.phase.placement with
          | none => exact ih
          | some placement => exact ih.cons placement
      | some lease =>
          have placed : handler.phase.placement = some lease.placement := by
            unfold Handler.lease at held
            cases phase : handler.phase <;> rw [phase] at held <;> cases held <;> rfl
          rw [placed]
          exact ih.cons_cons _

/-! ## What a run keeps -/

/-- What a run keeps of the configuration and of a strategy without a state. -/
structure Keeps (config : Config) (strategy : RoutingStrategy) (state : RouterRun F) : Prop where
  snapshot : state.router.snapshot = config.snapshot
  strategy : state.router.strategy = strategy
  kvModel : state.router.kvModel = config.kvModel
  caps : ∀ ref, (state.heap ref).caps = (config.heap ref).caps
  balanced : state.Balanced
  promptCharged : config.kvModel = .promptOnly → ∀ lease ∈ state.leases, lease.PromptCharged

omit [DecayNumber F] in
theorem keeps_initial (config : Config) (strategy : RoutingStrategy)
    (routeHists : RouteHistograms F) :
    (initial config.heap (config.router strategy routeHists)).Keeps config strategy where
  snapshot := rfl
  strategy := rfl
  kvModel := rfl
  caps _ := rfl
  balanced := balanced_initial config.heap_live _
  promptCharged _ lease member := by cases member

theorem keeps_step {config : Config} {strategy : RoutingStrategy}
    (stateless : ∀ next, strategy ≠ .roundRobin next) {state next : RouterRun F}
    {event : RouterEvent F} (keeps : state.Keeps config strategy)
    (stepped : state.step libraries event = some next) : next.Keeps config strategy := by
  have balanced := balanced_step keeps.balanced stepped
  rcases step_cases stepped with ⟨parts, now, rfl, rfl⟩ |
    ⟨id, event, handler, after, rfl, present, advanced, rfl⟩
  · refine ⟨keeps.snapshot, keeps.strategy, keeps.kvModel, keeps.caps, balanced, ?_⟩
    have arrived : (Handler.arrived parts now).lease = none := rfl
    simpa [leases, arrived] using keeps.promptCharged
  · obtain ⟨snapshot, kvModel, strategyAfter⟩ := HandlerState.router_of_steps advanced
    refine ⟨snapshot.trans keeps.snapshot, ?_, kvModel.trans keeps.kvModel, ?_, balanced, ?_⟩
    · rcases strategyAfter with same | ⟨features, rng, picked, chose⟩
      · exact same.trans keeps.strategy
      · have same : (state.view handler).router.strategy = strategy := keeps.strategy
        rw [same] at chose
        exact RoutingStrategy.pick_stays stateless chose
    · intro ref
      exact (HandlerState.caps_of_steps advanced ref).trans (keeps.caps ref)
    · intro promptOnly
      rcases HandlerState.opens_or_leaseUse_of_steps advanced with
        ⟨rfl, features, body, backend, fellThrough, phase, rfl⟩ | used
      · intro lease member
        rcases List.mem_cons.mp ((leases_open_perm present phase).mem_iff.mp member) with
          rfl | earlier
        · have model := keeps.kvModel.trans promptOnly
          exact ⟨model, by simp [CostLease.open, model, KvModel.project]⟩
        · exact keeps.promptCharged promptOnly lease earlier
      · exact (amounts_use_le (keeps.promptCharged promptOnly) present used).1

end RouterRun

/-! ## The fewest requests -/

theorem P2c.lessLoaded_le {heap : Heap} {snap : Snapshot} (indexed : snap.Indexed)
    {a b id : BackendId} (aMem : a ∈ snap.healthy) (bMem : b ∈ snap.healthy)
    (less : lessLoaded heap snap a b = .ok id) :
    (heap (snap.refOf id)).live.inflight ≤ (heap (snap.refOf a)).live.inflight ∧
      (heap (snap.refOf id)).live.inflight ≤ (heap (snap.refOf b)).live.inflight := by
  unfold lessLoaded at less
  rw [Snapshot.backend_eq_ok indexed heap aMem, Snapshot.backend_eq_ok indexed heap bMem] at less
  have chosen : (if (heap (snap.refOf a)).live.inflight ≤ (heap (snap.refOf b)).live.inflight
      then a else b) = id := Except.ok.inj less
  split at chosen
  · rename_i ordered
    subst chosen
    exact ⟨UInt32.le_refl _, ordered⟩
  · rename_i notOrdered
    subst chosen
    exact ⟨UInt32.le_of_lt (UInt32.not_le.mp notOrdered), UInt32.le_refl _⟩

theorem P2c.fewest_of_pick {heap : Heap} {snap : Snapshot} (few : snap.healthy.length ≤ 2)
    (indexed : snap.Indexed) {req : RequestFeatures} {rng : SmallRng}
    {trace : Option DecisionTrace} {picked : Picked} {id : BackendId}
    (returned : pick heap snap req rng trace = .ok picked) (chosen : picked.chosen = some id) :
    LeastRequests.Fewest heap snap id := by
  unfold pick at returned
  intro other listed
  cases healthy : snap.healthy with
  | nil =>
      rw [healthy] at listed
      cases listed
  | cons first rest =>
      have firstMem : first ∈ snap.healthy := by simp [healthy]
      cases rest with
      | nil =>
          simp only [healthy] at returned
          obtain rfl : first = id :=
            Option.some.inj ((recordPick_chosen returned).symm.trans chosen)
          obtain rfl : other = first := by simpa [healthy] using listed
          exact UInt32.le_refl _
      | cons second rest =>
          obtain rfl : rest = [] := by
            rw [healthy] at few
            simpa using few
          have secondMem : second ∈ snap.healthy := by simp [healthy]
          simp only [healthy] at returned
          obtain ⟨choice, mapped, recorded⟩ := Outcome.bind_eq_ok.mp returned
          obtain ⟨loaded, less, rfl⟩ := Outcome.map_eq_ok.mp mapped
          obtain rfl : loaded = id :=
            Option.some.inj ((recordPick_chosen recorded).symm.trans chosen)
          rw [healthy] at listed
          -- two different positions out of two are both of them
          have both : ∀ pair : { pair : Fin 2 × Fin 2 // pair.1 ≠ pair.2 },
              pair.val = (0, 1) ∨ pair.val = (1, 0) := by
            decide
          rcases both (rng.samplePair 0) with pairEq | pairEq <;>
            rw [show (rng.samplePair ([] : List BackendId).length).val = _ from pairEq] at less
          · obtain ⟨leFirst, leSecond⟩ := lessLoaded_le indexed firstMem secondMem less
            rcases (by simpa using listed : other = first ∨ other = second) with rfl | rfl
            · exact leFirst
            · exact leSecond
          · obtain ⟨leSecond, leFirst⟩ := lessLoaded_le indexed secondMem firstMem less
            rcases (by simpa using listed : other = first ∨ other = second) with rfl | rfl
            · exact leFirst
            · exact leSecond

/-- Least requests picks a backend with the fewest requests in flight, and so does
the power of two choices between two backends. -/
theorem fewest_of_pick {strategy after : RoutingStrategy} {heap : Heap} {snap : Snapshot}
    (fewest : strategy = .leastRequests ∨ strategy = .p2c ∧ snap.healthy.length ≤ 2)
    (indexed : snap.Indexed) {req : RequestFeatures} {rng : SmallRng}
    {trace : Option DecisionTrace} {picked : Picked} {id : BackendId}
    (returned : strategy.pick heap snap req rng trace = .ok (picked, after))
    (chosen : picked.chosen = some id) : LeastRequests.Fewest heap snap id := by
  have member := RoutingStrategy.chosen_mem_healthy indexed returned chosen
  have first := congrArg (Except.map Prod.fst) returned
  rw [RoutingStrategy.pick_map_fst] at first
  rcases fewest with rfl | ⟨rfl, few⟩
  · have draws : DrawsOptimal (LeastRequests.Fewest heap snap) snap
        (LeastRequests.ties heap snap) (LeastRequests.pick heap snap) :=
      .of_ties indexed (LeastRequests.ties_eq_ok indexed heap)
        (LeastRequests.pick_eq_ties (List.ne_nil_of_mem member) heap)
    refine (draws.chosen req rng trace id ?_).2
    rw [show LeastRequests.pick heap snap req rng trace = .ok picked from first]
    exact congrArg Except.ok chosen
  · exact P2c.fewest_of_pick few indexed first chosen

/-- Least KV tokens picks a backend with the most tokens left. -/
theorem LeastKvts.most_of_pick {heap : Heap} {snap : Snapshot} (indexed : snap.Indexed)
    {req : RequestFeatures} {rng : SmallRng} {trace : Option DecisionTrace} {picked : Picked}
    {after : RoutingStrategy} {id : BackendId}
    (returned : RoutingStrategy.leastKvts.pick heap snap req rng trace = .ok (picked, after))
    (chosen : picked.chosen = some id)
    (within : ∀ id ∈ snap.healthy,
      ((heap (snap.refOf id)).caps.kvCapacityTokens.toNat : ℤ) - 2 ^ 53 ≤
        (heap (snap.refOf id)).live.kvProjectedTokens.toInt) : Most heap snap id := by
  have member := RoutingStrategy.chosen_mem_healthy indexed returned chosen
  have first := congrArg (Except.map Prod.fst) returned
  rw [RoutingStrategy.pick_map_fst] at first
  have draws : DrawsOptimal (Highest heap snap) snap (ties heap snap) (pick heap snap) :=
    .of_ties indexed (ties_eq_ok indexed heap) (pick_eq_ties (List.ne_nil_of_mem member) heap)
  refine (highest_iff_most within member).mp (draws.chosen req rng trace id ?_).2
  rw [show pick heap snap req rng trace = .ok picked from first]
  exact congrArg Except.ok chosen

/-! ## Shares -/

/-- Every position of the configuration is listed, under the id that leads to it. -/
theorem Config.listed {config : Config} (fits : config.backends.length ≤ 65536) {ref : ℕ}
    (inside : ref < config.backends.length) :
    ⟨UInt16.ofNat ref⟩ ∈ config.snapshot.healthy ∧
      config.snapshot.refOf ⟨UInt16.ofNat ref⟩ = ref := by
  have numbered := HealthRun.numbered_initial config
  refine ⟨numbered.mem_healthy.mpr ⟨ref, inside, ?_, rfl⟩, numbered.refOf_ofNat fits inside⟩
  change (config.heap ref).health.ejected = false
  rw [config.heap_health]
  rfl

theorem Config.refOf_lt {config : Config} (fits : config.backends.length ≤ 65536)
    {id : BackendId} (member : id ∈ config.snapshot.healthy) :
    config.snapshot.refOf id < config.backends.length := by
  have numbered := HealthRun.numbered_initial config
  obtain ⟨ref, inside, -, rfl⟩ := numbered.mem_healthy.mp member
  rw [(config.listed fits inside).2]
  exact inside

namespace RouterRun

section Opened

variable {state : RouterRun F} (opened : ∀ handler ∈ state.handlers, handler.phase.isPicked = false)
  (ref : BackendRef)
include opened

theorem placedOn_eq (weight : UInt32 → ℕ) :
    state.placedOn weight ref =
      keyedSum CostLease.backend (fun lease => weight lease.promptTokens) state.leases ref := by
  unfold placedOn
  rw [placements_eq_leases opened, keyedSum_map]
  rfl

end Opened

theorem slotsOn_le_placedOn (state : RouterRun F) (ref : BackendRef) :
    slotsOn state.leases ref ≤ state.placedOn (fun _ => 1) ref := by
  have below := keyedSum_le_of_subperm Placement.backend (fun _ => 1)
    state.leases_sublist.subperm ref
  rwa [keyedSum_map] at below

/-- Leases of the prompt-only model are charged their prompts. -/
theorem chargesOn_eq_prompts {leases : List CostLease}
    (promptCharged : ∀ lease ∈ leases, lease.PromptCharged) (ref : BackendRef) :
    chargesOn leases ref =
      keyedSum CostLease.backend (fun lease => lease.promptTokens.toNat) leases ref := by
  unfold chargesOn
  induction leases with
  | nil => rfl
  | cons lease leases ih =>
      have charged : lease.charged.toInt = lease.promptTokens.toNat := by
        rw [(promptCharged lease (by simp)).2, UInt32.toInt_asInt64]
      rw [keyedSum_cons, keyedSum_cons, charged,
        ih fun other member => promptCharged other (by simp [member])]
      push_cast
      rfl

theorem chargesOn_le_placedOn {state : RouterRun F}
    (promptCharged : ∀ lease ∈ state.leases, lease.PromptCharged) (ref : BackendRef) :
    chargesOn state.leases ref ≤ state.placedOn UInt32.toNat ref := by
  have below := keyedSum_le_of_subperm Placement.backend
    (fun placement => placement.promptTokens.toNat) state.leases_sublist.subperm ref
  rw [keyedSum_map] at below
  rw [chargesOn_eq_prompts promptCharged]
  exact_mod_cast below

/-- A pick names a healthy backend of the configuration. -/
theorem Keeps.picks {config : Config} {strategy : RoutingStrategy} {state : RouterRun F}
    (keeps : state.Keeps config strategy) {handler : Handler} {rng : SmallRng}
    {features : RequestFeatures} {backend : BackendRef}
    (picks : (state.view handler).Picks rng features backend) :
    ∃ id after picked,
      strategy.pick state.heap config.snapshot features rng (some .default) = .ok (picked, after) ∧
      picked.chosen = some id ∧ id ∈ config.snapshot.healthy ∧
      config.snapshot.refOf id = backend := by
  obtain ⟨picked, after, id, returned, chosen, inRange⟩ := picks.named
  have indexed : config.snapshot.Indexed := config.snapshot_indexed
  have snapshot : (state.view handler).router.snapshot = config.snapshot := keeps.snapshot
  have same : (state.view handler).router.strategy = strategy := keeps.strategy
  rw [snapshot, same] at returned
  have member := RoutingStrategy.chosen_mem_healthy indexed returned chosen
  rw [snapshot, Snapshot.backendRef_eq_ok indexed member] at inRange
  exact ⟨id, after, picked, returned, chosen, member, Except.ok.inj inRange⟩

section Runs

variable [DecayNumber F] {libraries : Libraries} {config : Config} {strategy : RoutingStrategy}
  {weight : UInt32 → ℕ} {limit : ℕ}

/-- The shares of a run follow from what a single pick does. -/
theorem placedOn_run (nonempty : 0 < config.backends.length)
    (stateless : ∀ next, strategy ≠ .roundRobin next)
    (least : ∀ (state : RouterRun F), state.Keeps config strategy →
      (∀ ref, state.placedOn weight ref ≤ limit) →
      ∀ handler rng features backend, (state.view handler).Picks rng features backend →
        (∀ other ∈ state.handlers, other.phase.isPicked = false) →
          ∀ other < config.backends.length,
            state.placedOn weight backend ≤ state.placedOn weight other)
    {routeHists : RouteHistograms F} {events : List (RouterEvent F)} {state : RouterRun F}
    (paced : EventRun.Guarded (step libraries) (Paced weight config.backends.length limit)
      (initial config.heap (config.router strategy routeHists)) events)
    (executed : EventRun.run (step libraries)
      (initial config.heap (config.router strategy routeHists)) events = some state) :
    state.Keeps config strategy ∧ ∀ ref, state.placedOn weight ref ≤ limit := by
  have preserved (state : RouterRun F) (event : RouterEvent F) (next : RouterRun F)
      (paced : state.Paced weight config.backends.length limit event)
      (holds : state.Keeps config strategy ∧ ∀ ref, state.placedOn weight ref ≤ limit)
      (stepped : state.step libraries event = some next) :
      next.Keeps config strategy ∧ ∀ ref, next.placedOn weight ref ≤ limit :=
    ⟨keeps_step stateless holds.1 stepped, placedOn_step nonempty
      (least state holds.1 holds.2) paced holds.2 stepped⟩
  have started : (initial config.heap (config.router strategy routeHists)).Keeps config strategy ∧
      ∀ ref, (initial config.heap (config.router strategy routeHists)).placedOn weight ref ≤
        limit :=
    ⟨keeps_initial config strategy routeHists, fun _ => Nat.zero_le _⟩
  exact EventRun.run_preserves_of_guarded preserved paced started executed

end Runs

section Strategies

variable [DecayNumber F] (libraries : Libraries) {config : Config}
  (nonempty : 0 < config.backends.length) (fits : config.backends.length ≤ 65536) {limit : ℕ}
  {routeHists : RouteHistograms F} {events : List (RouterEvent F)} {state : RouterRun F}
include nonempty fits

/-- Under least requests, or the power of two choices between two backends, no
backend ever has more requests in flight than its share, in every run that picks
one request at a time and only while the fleet has room for it. -/
theorem requests_share_slots {strategy : RoutingStrategy}
    (fewest : strategy = .leastRequests ∨ strategy = .p2c ∧ config.backends.length ≤ 2)
    (small : limit < 2 ^ 32)
    (paced : EventRun.Guarded (step libraries) (Paced (fun _ => 1) config.backends.length limit)
      (initial config.heap (config.router strategy routeHists)) events)
    (executed : EventRun.run (step libraries)
      (initial config.heap (config.router strategy routeHists)) events = some state)
    (ref : BackendRef) : (state.heap ref).live.inflight.toNat ≤ limit := by
  have stateless : ∀ next, strategy ≠ .roundRobin next := by
    rcases fewest with rfl | ⟨rfl, -⟩ <;> simp
  have exact {state : RouterRun F} (keeps : state.Keeps config strategy)
      (shares : ∀ ref, state.placedOn (fun _ => 1) ref ≤ limit) (ref : BackendRef) :
      (state.heap ref).live.inflight.toNat = slotsOn state.leases ref := by
    have inflight := keeps.balanced.inflight_toNat ref
    have placed := (state.slotsOn_le_placedOn ref).trans (shares ref)
    rwa [Nat.mod_eq_of_lt (placed.trans_lt small)] at inflight
  have least (state : RouterRun F) (keeps : state.Keeps config strategy)
      (shares : ∀ ref, state.placedOn (fun _ => 1) ref ≤ limit) (handler : Handler)
      (rng : SmallRng) (features : RequestFeatures) (backend : BackendRef)
      (picks : (state.view handler).Picks rng features backend)
      (opened : ∀ other ∈ state.handlers, other.phase.isPicked = false) (other : BackendRef)
      (inside : other < config.backends.length) :
      state.placedOn (fun _ => 1) backend ≤ state.placedOn (fun _ => 1) other := by
    obtain ⟨id, after, picked, returned, chosen, -, rfl⟩ := keeps.picks picks
    have few : config.snapshot.healthy.length = config.backends.length := by
      simp [Config.snapshot]
    have fewestHere := fewest_of_pick (few ▸ fewest) config.snapshot_indexed returned chosen
    obtain ⟨listed, leads⟩ := config.listed fits inside
    have ordered := fewestHere _ listed
    rw [leads, UInt32.le_iff_toNat_le, exact keeps shares, exact keeps shares] at ordered
    rw [placedOn_eq opened, placedOn_eq opened]
    exact ordered
  obtain ⟨keeps, shares⟩ := placedOn_run nonempty stateless least paced executed
  rw [exact keeps shares]
  exact (state.slotsOn_le_placedOn ref).trans (shares ref)

/-- Under least KV tokens and the prompt-only model, with equal capacities, no
backend is ever charged more than its share of the prompts, in every run that
picks one request at a time and only while the fleet has room for its prompt. -/
theorem prompts_share_capacity (promptOnly : config.kvModel = .promptOnly) {capacity : UInt32}
    (uniform : ∀ b ∈ config.backends, b.kvTokens = capacity) (within : limit ≤ capacity.toNat)
    (paced : EventRun.Guarded (step libraries) (Paced UInt32.toNat config.backends.length limit)
      (initial config.heap (config.router .leastKvts routeHists)) events)
    (executed : EventRun.run (step libraries)
      (initial config.heap (config.router .leastKvts routeHists)) events = some state)
    (ref : BackendRef) :
    0 ≤ (state.heap ref).live.kvProjectedTokens.toInt ∧
      (state.heap ref).live.kvProjectedTokens.toInt ≤ limit := by
  have small := capacity.toNat_lt
  have exact {state : RouterRun F} (keeps : state.Keeps config .leastKvts)
      (shares : ∀ ref, state.placedOn UInt32.toNat ref ≤ limit) (ref : BackendRef) :
      0 ≤ chargesOn state.leases ref ∧ chargesOn state.leases ref ≤ limit ∧
        (state.heap ref).live.kvProjectedTokens.toInt = chargesOn state.leases ref := by
    have charged := keeps.promptCharged promptOnly
    have nonneg : 0 ≤ chargesOn state.leases ref := (amounts_bounded charged ref).2.1
    have placed := chargesOn_le_placedOn charged ref
    have share : (state.placedOn UInt32.toNat ref : ℤ) ≤ limit := by exact_mod_cast shares ref
    have congruent := keeps.balanced.kvProjectedTokens_modEq ref
    have low := (state.heap ref).live.kvProjectedTokens.le_toInt
    have high := (state.heap ref).live.kvProjectedTokens.toInt_lt
    unfold Int.ModEq at congruent
    omega
  have least (state : RouterRun F) (keeps : state.Keeps config .leastKvts)
      (shares : ∀ ref, state.placedOn UInt32.toNat ref ≤ limit) (handler : Handler)
      (rng : SmallRng) (features : RequestFeatures) (backend : BackendRef)
      (picks : (state.view handler).Picks rng features backend)
      (opened : ∀ other ∈ state.handlers, other.phase.isPicked = false) (other : BackendRef)
      (inside : other < config.backends.length) :
      state.placedOn UInt32.toNat backend ≤ state.placedOn UInt32.toNat other := by
    obtain ⟨id, after, picked, returned, chosen, member, rfl⟩ := keeps.picks picks
    obtain ⟨listed, leads⟩ := config.listed fits inside
    have room (ref : BackendRef) (inside : ref < config.backends.length) :
        (state.heap ref).caps.kvCapacityTokens = capacity := by
      rw [keeps.caps, Config.heap, List.getElem?_eq_getElem inside]
      exact uniform _ (List.getElem_mem inside)
    have fewer := LeastKvts.most_of_pick config.snapshot_indexed returned chosen (fun id healthy => by
      obtain ⟨nonneg, -, same⟩ := exact keeps shares (config.snapshot.refOf id)
      rw [room _ (config.refOf_lt fits healthy)]
      omega) _ listed
    rw [leads] at fewer
    unfold LeastKvts.remaining at fewer
    rw [room _ inside, room _ (config.refOf_lt fits member), (exact keeps shares other).2.2,
      (exact keeps shares _).2.2] at fewer
    have charged := keeps.promptCharged promptOnly
    have share := (exact keeps shares (config.snapshot.refOf id)).2.1
    rw [placedOn_eq opened, placedOn_eq opened]
    have ordered : chargesOn state.leases (config.snapshot.refOf id) ≤
        chargesOn state.leases other := by
      have otherShare := (exact keeps shares other).2.1
      omega
    rw [chargesOn_eq_prompts charged, chargesOn_eq_prompts charged] at ordered
    exact_mod_cast ordered
  obtain ⟨keeps, shares⟩ := placedOn_run nonempty (by simp) least paced executed
  obtain ⟨nonneg, share, same⟩ := exact keeps shares ref
  rw [same]
  exact ⟨nonneg, share⟩

end Strategies

/-! ## Three chat requests between two backends -/

section Two

open LoggedRun (twoHeap openedHeap chatLease chatIn)

noncomputable def twoStateless (strategy : RoutingStrategy) : RouterState ℝ :=
  (twoBackends defaultPenalty).toConfig.router strategy (chatRouter strategy).routeHists

noncomputable def twoShared (strategy : RoutingStrategy) (heap : Heap) (handlers : List Handler) :
    RouterRun ℝ :=
  ⟨heap, twoStateless strategy, handlers⟩

/-- Both backends hold a request. -/
def bothOpenedHeap : Heap := (CostLease.open 1 1 128 .promptOnly 0 openedHeap).2

/-- Two requests take a backend each; the first one leaves, and a third takes its
place. -/
def sharedChats : List (RouterEvent ℝ) :=
  [.advance 0 (.pick .first), .advance 0 .openLease, .advance 1 (.pick .first),
    .advance 1 .openLease, .advance 0 .rebuild, .advance 0 .cancel, .advance 2 (.pick .first),
    .advance 2 .openLease]

theorem paced_pick {strategy : RoutingStrategy} {heap : Heap} {weight : UInt32 → ℕ}
    (handlers : List Handler) {id : Nat} {rng : SmallRng}
    (present : handlers[id]? = some chatRouted)
    (opened : ∀ other ∈ handlers, other.phase.isPicked = false)
    (room : ((handlers.filterMap fun handler => handler.phase.placement).map fun placement =>
      weight placement.promptTokens).sum / 2 + weight 1 ≤ 1) :
    (twoShared strategy heap handlers).Paced weight 2 1 (.advance id (.pick rng)) := by
  intro other draw handler features body same atOther waiting
  obtain ⟨rfl, -⟩ := RouterEvent.advance.inj same
  obtain rfl := Option.some.inj (present.symm.trans atOther)
  obtain ⟨rfl, -⟩ := Phase.routing.inj waiting
  exact ⟨opened, room⟩

theorem paced_of_ne_pick {weight : UInt32 → ℕ} {length limit : ℕ} {state : RouterRun ℝ}
    {event : RouterEvent ℝ} (other : ∀ id rng, event ≠ .advance id (.pick rng)) :
    state.Paced weight length limit event :=
  fun id rng _ _ _ same => absurd same (other id rng)

/-- What a strategy has to choose in the run. -/
structure Alternates (strategy : RoutingStrategy) : Prop where
  stateless : ∀ next, strategy ≠ .roundRobin next
  first : strategy.choice twoHeap (twoBackends defaultPenalty).toConfig.snapshot chatFeatures
    .first = some (some ⟨0⟩, false)
  second : strategy.choice openedHeap (twoBackends defaultPenalty).toConfig.snapshot chatFeatures
    .first = some (some ⟨1⟩, false)
  third : strategy.choice (chatLease.drop bothOpenedHeap)
    (twoBackends defaultPenalty).toConfig.snapshot chatFeatures .first = some (some ⟨0⟩, false)

variable {strategy : RoutingStrategy} (alternates : Alternates strategy)
include alternates

omit alternates in
/-- The three requests arrive one behind the other. -/
theorem arrive_twoShared {guard : RouterRun ℝ → RouterEvent ℝ → Prop}
    (unpicked : ∀ state event, (∀ id rng, event ≠ .advance id (.pick rng)) → guard state event)
    {events : List (RouterEvent ℝ)} {last : RouterRun ℝ}
    (executed : EventRun.run (step chatLibraries)
      (twoShared strategy twoHeap [chatRouted, chatRouted, chatRouted]) events = some last)
    (guarded : EventRun.Guarded (step chatLibraries) guard
      (twoShared strategy twoHeap [chatRouted, chatRouted, chatRouted]) events) :
    EventRun.run (step chatLibraries) (initial twoHeap (twoStateless strategy))
        (chatArrival 0 ++ (chatArrival 1 ++ (chatArrival 2 ++ events))) = some last ∧
      EventRun.Guarded (step chatLibraries) guard (initial twoHeap (twoStateless strategy))
        (chatArrival 0 ++ (chatArrival 1 ++ (chatArrival 2 ++ events))) := by
  have reads : ReadsChat (twoStateless strategy) := ⟨rfl, rfl⟩
  have arrives (handlers : List Handler) {events : List (RouterEvent ℝ)}
      (rest : EventRun.Guarded (step chatLibraries) guard
        (twoShared strategy twoHeap (handlers ++ [chatRouted])) events) :
      EventRun.Guarded (step chatLibraries) guard (twoShared strategy twoHeap handlers)
        (chatArrival handlers.length ++ events) :=
    EventRun.guarded_cons (unpicked _ _ (by simp)) rfl (EventRun.guarded_cons
      (unpicked _ _ (by simp)) (step_bodyRead_chat reads twoHeap handlers) rest)
  constructor
  · exact (run_chatArrival_append reads twoHeap [] _).trans
      ((run_chatArrival_append reads twoHeap [chatRouted] _).trans
        ((run_chatArrival_append reads twoHeap [chatRouted, chatRouted] _).trans executed))
  · exact arrives [] (arrives [chatRouted] (arrives [chatRouted, chatRouted] guarded))

theorem exists_run_sharedChats (weight : UInt32 → ℕ) (single : weight 1 = 1) :
    ∃ state : RouterRun ℝ, EventRun.run (step chatLibraries) (initial twoHeap (twoStateless strategy))
        (chatArrival 0 ++ (chatArrival 1 ++ (chatArrival 2 ++ sharedChats))) = some state ∧
      EventRun.Guarded (step chatLibraries) (Paced weight 2 1)
        (initial twoHeap (twoStateless strategy))
        (chatArrival 0 ++ (chatArrival 1 ++ (chatArrival 2 ++ sharedChats))) ∧
      state.leases.map CostLease.backend = [1, 0] := by
  let firstOpen := chatIn (.opened chatFeatures chatRewritten chatLease)
  let secondOpen := chatIn (.opened chatFeatures chatRewritten
    (CostLease.open 1 1 128 .promptOnly 0 openedHeap).1)
  let gone := chatIn (.finished .cancelled)
  have firstPick : (twoShared strategy twoHeap [chatRouted, chatRouted, chatRouted]).step
      chatLibraries (.advance 0 (.pick .first)) = some _ :=
    step_pick_of_choice ⟨0⟩ rfl rfl alternates.stateless alternates.first rfl rfl
  have secondPick : (twoShared strategy openedHeap [firstOpen, chatRouted, chatRouted]).step
      chatLibraries (.advance 1 (.pick .first)) = some _ :=
    step_pick_of_choice ⟨1⟩ rfl rfl alternates.stateless alternates.second rfl rfl
  have thirdPick : (twoShared strategy (chatLease.drop bothOpenedHeap)
      [gone, secondOpen, chatRouted]).step chatLibraries (.advance 2 (.pick .first)) = some _ :=
    step_pick_of_choice ⟨0⟩ rfl rfl alternates.stateless alternates.third rfl rfl
  have executed : EventRun.run (step chatLibraries)
      (twoShared strategy twoHeap [chatRouted, chatRouted, chatRouted]) sharedChats = some _ :=
    EventRun.run_cons_eq_some.mpr ⟨_, firstPick, EventRun.run_cons_eq_some.mpr ⟨_, rfl,
      EventRun.run_cons_eq_some.mpr ⟨_, secondPick, EventRun.run_cons_eq_some.mpr ⟨_, rfl,
      EventRun.run_cons_eq_some.mpr ⟨_, rfl, EventRun.run_cons_eq_some.mpr ⟨_, rfl,
      EventRun.run_cons_eq_some.mpr ⟨_, thirdPick, rfl⟩⟩⟩⟩⟩⟩⟩
  have oneOpen : (weight 1 + 0) / 2 + weight 1 ≤ 1 := by
    omega
  have guarded : EventRun.Guarded (step chatLibraries) (Paced weight 2 1)
      (twoShared strategy twoHeap [chatRouted, chatRouted, chatRouted]) sharedChats := by
    refine EventRun.guarded_cons (paced_pick _ rfl (by decide) ?_) firstPick ?_
    · change 0 / 2 + weight 1 ≤ 1
      omega
    refine EventRun.guarded_cons (paced_of_ne_pick (by simp)) rfl ?_
    refine EventRun.guarded_cons
      (paced_pick [firstOpen, chatRouted, chatRouted] rfl (by decide) oneOpen) secondPick ?_
    refine EventRun.guarded_cons (paced_of_ne_pick (by simp)) rfl ?_
    refine EventRun.guarded_cons (paced_of_ne_pick (by simp)) rfl ?_
    refine EventRun.guarded_cons (paced_of_ne_pick (by simp)) rfl ?_
    refine EventRun.guarded_cons
      (paced_pick [gone, secondOpen, chatRouted] rfl (by decide) oneOpen) thirdPick ?_
    exact EventRun.guarded_cons (paced_of_ne_pick (by simp)) rfl trivial
  obtain ⟨whole, paced⟩ := arrive_twoShared (fun _ _ => paced_of_ne_pick) executed guarded
  exact ⟨_, whole, paced, rfl⟩

end Two

theorem requests_share_slots_two :
    ∃ state : RouterRun ℝ,
      EventRun.run (step chatLibraries) (initial LoggedRun.twoHeap (twoStateless .leastRequests))
        (chatArrival 0 ++ (chatArrival 1 ++ (chatArrival 2 ++ sharedChats))) = some state ∧
      state.leases.map CostLease.backend = [1, 0] ∧
      ∀ ref, (state.heap ref).live.inflight.toNat ≤ 1 := by
  have alternates : Alternates .leastRequests :=
    ⟨nofun, by decide +kernel, by decide +kernel, by decide +kernel⟩
  obtain ⟨state, executed, paced, leases⟩ :=
    exists_run_sharedChats alternates (fun _ => 1) rfl
  have nonempty : 0 < (twoBackends defaultPenalty).toConfig.backends.length := by decide
  exact ⟨state, executed, leases, requests_share_slots chatLibraries nonempty (by decide) (.inl rfl)
    (by decide) paced executed⟩

theorem prompts_share_capacity_two :
    ∃ state : RouterRun ℝ,
      EventRun.run (step chatLibraries) (initial LoggedRun.twoHeap (twoStateless .leastKvts))
        (chatArrival 0 ++ (chatArrival 1 ++ (chatArrival 2 ++ sharedChats))) = some state ∧
      state.leases.map CostLease.backend = [1, 0] ∧
      ∀ ref, 0 ≤ (state.heap ref).live.kvProjectedTokens.toInt ∧
        (state.heap ref).live.kvProjectedTokens.toInt ≤ (1 : ℕ) := by
  have alternates : Alternates .leastKvts :=
    ⟨nofun, by decide +kernel, by decide +kernel, by decide +kernel⟩
  obtain ⟨state, executed, paced, leases⟩ :=
    exists_run_sharedChats alternates UInt32.toNat rfl
  have uniform : ∀ b ∈ (twoBackends defaultPenalty).toConfig.backends, b.kvTokens = 8192 := by
    decide
  have nonempty : 0 < (twoBackends defaultPenalty).toConfig.backends.length := by decide
  exact ⟨state, executed, leases, prompts_share_capacity chatLibraries nonempty (by decide) rfl
    uniform (by decide) paced executed⟩

end RouterRun

end KeelRouter
