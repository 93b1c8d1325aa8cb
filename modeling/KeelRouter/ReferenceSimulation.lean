import KeelRouter.LeaseConservation
import KeelRouter.Loadgen
import KeelRouter.PassiveEjection
import KeelRouter.PressurePick

/-!
# The router simulates the reference

The leases of the router and the requests of the reference are kept in step: a
dispatch opens a lease, a line with content is an observed token, and the end of
a request drops its lease.  While the numbers fit in the types of the router,
its counters are the tallies of the reference, and a pick of the pressure
strategy can name just the backends that the reference draws from.
-/

section Lists

variable {α β : Type*} {related : α → β → Prop} {first : List α} {second : List β}
  {position : Nat}

theorem List.Forall₂.exists_getElem? (pairs : List.Forall₂ related first second) {right : β}
    (present : second[position]? = some right) :
    ∃ left, first[position]? = some left ∧ related left right := by
  induction pairs generalizing position with
  | nil => simp at present
  | cons pair pairs ih =>
      cases position with
      | zero =>
          obtain rfl := Option.some.inj present
          exact ⟨_, rfl, pair⟩
      | succ position => exact ih present

theorem List.Forall₂.set (pairs : List.Forall₂ related first second) {left : α} {right : β}
    (pair : related left right) :
    List.Forall₂ related (first.set position left) (second.set position right) := by
  induction pairs generalizing position with
  | nil => exact .nil
  | cons head pairs ih =>
      cases position with
      | zero => exact .cons pair pairs
      | succ position => exact .cons head ih

theorem List.Forall₂.eraseIdx (pairs : List.Forall₂ related first second) :
    List.Forall₂ related (first.eraseIdx position) (second.eraseIdx position) := by
  induction pairs generalizing position with
  | nil => exact .nil
  | cons head pairs ih =>
      cases position with
      | zero => exact pairs
      | succ position => exact .cons head ih

end Lists

namespace KeelRouter

namespace Loadgen

/-- The numbers fit in the types of the router: counts of tokens and requests in
32 bits, and projections, with one more request, in 64 bits. -/
structure State.Bounded (state : State) : Prop where
  inFlight : ∀ ref, state.inFlight ref < 2 ^ 32
  kvProj : ∀ ref, state.kvProj ref < 2 ^ 62
  requests : ∀ request ∈ state.requests, request.oHat < 2 ^ 32 ∧ request.c < 2 ^ 32

/-- What the router does at an event of the reference. -/
def Event.operation (kvModel : KvModel) : Event → LeaseEvent
  | .dispatch backend p oHat now => .open backend p oHat kvModel now
  | .token position => .observeTokens position 1
  | .finish position => .drop position

theorem toInt_project (kvModel : KvModel) (p oHat : UInt32) :
    (kvModel.project p oHat).toInt = kvFor p.toNat oHat.toNat kvModel := by
  rw [KvModel.toInt_project]
  cases kvModel <;> rfl

/-- A lease of the router stands for a request of the reference. -/
structure Stands (settings : Settings) (lease : CostLease) (request : Request) : Prop where
  backend : lease.backend = request.backend
  kvModel : lease.kvModel = settings.kvModel
  p : (lease.promptTokens.toNat : ℤ) = request.p
  oHat : (lease.oHat.toNat : ℤ) = request.oHat
  c : (lease.tokensSeen.toNat : ℤ) = request.c
  charged : lease.charged.toInt = request.kvHeld
  held : request.kvHeld < 2 ^ 33
  unreleased : lease.released = false

theorem stands_observed {settings : Settings} {lease : CostLease} {request : Request}
    (stands : Stands settings lease request) (heap : Heap)
    (bounded : (State.observed settings request).oHat < 2 ^ 32 ∧
      (State.observed settings request).c < 2 ^ 32) :
    Stands settings (lease.observeTokens 1 heap).1 (State.observed settings request) := by
  obtain ⟨backend, kvModel, p, oHat, c, charged, held, unreleased⟩ := stands
  rw [State.observed_c] at bounded
  have seen : ((lease.tokensSeen + 1).toNat : ℤ) = request.c + 1 := by
    rw [UInt32.toNat_add, UInt32.toNat_one]
    omega
  have sameTest : lease.oHat < lease.tokensSeen + 1 ↔ request.oHat < request.c + 1 := by
    rw [UInt32.lt_iff_toNat_lt]
    omega
  by_cases exceeds : request.oHat < request.c + 1
  · rw [State.observed_of_lt settings exceeds] at bounded ⊢
    have small : request.oHat + 50 < 2 ^ 32 := bounded.1
    have raised : ((lease.oHat + rechargeStep).toNat : ℤ) = request.oHat + 50 := by
      have step : rechargeStep.toNat = 50 := rfl
      rw [UInt32.toNat_add, step]
      omega
    have recharged : (lease.kvModel.project lease.promptTokens
        (lease.oHat + rechargeStep)).toInt = kvFor request.p (request.oHat + 50) settings.kvModel := by
      rw [toInt_project, p, raised, kvModel]
    rw [lease.observeTokens_of_lt 1 heap (sameTest.mpr exceeds)]
    exact {
      backend
      kvModel
      p
      oHat := raised
      c := seen
      charged := recharged
      held := recharged ▸ KvModel.project_lt _ _ _
      unreleased }
  · rw [State.observed_of_not_lt settings exceeds,
      lease.observeTokens_of_not_lt 1 heap fun less => exceeds (sameTest.mp less)]
    exact { backend, kvModel, p, oHat, c := seen, charged, held, unreleased }

/-- The counters of the router are the tallies of the reference. -/
structure Tracks (settings : Settings) (rust : LeaseState) (reference : State) : Prop where
  inFlight : ∀ ref, ((rust.heap ref).live.inflight.toNat : ℤ) = reference.inFlight ref
  kvProj : ∀ ref, ((rust.heap ref).live.kvProjectedTokens.toInt : ℚ) = reference.kvProj ref
  requests : List.Forall₂ (Stands settings) rust.leases reference.requests

/-- A projection that stays within its bounds moves with the tally. -/
theorem toInt_add_eq_update {projected change : Int64} {tally : BackendRef → ℚ}
    {backend ref : BackendRef} {amount : ℚ} (tracked : (projected.toInt : ℚ) = tally ref)
    (moved : (change.toInt : ℚ) = amount)
    (nonneg : 0 ≤ Function.update tally backend (tally backend + amount) ref)
    (small : Function.update tally backend (tally backend + amount) ref < 2 ^ 62) :
    ((projected + if backend = ref then change else 0).toInt : ℚ) =
      Function.update tally backend (tally backend + amount) ref := by
  rw [State.update_add, ← tracked, ← moved] at nonneg small ⊢
  by_cases same : backend = ref
  · simp only [if_pos same] at nonneg small ⊢
    have above : 0 ≤ projected.toInt + change.toInt := by exact_mod_cast nonneg
    have below : projected.toInt + change.toInt < 2 ^ 62 := by exact_mod_cast small
    rw [Int64.toInt_add_of_mem (by omega) (by omega), Int.cast_add]
  · simp only [if_neg same, add_zero]

variable {settings : Settings} {rust : LeaseState} {reference : State}

theorem tracks_dispatch (tracks : Tracks settings rust reference) (tallied : reference.Tallied)
    {backend : BackendRef} {p oHat : UInt32} (now : Instant)
    (bounded : (reference.dispatch settings backend p.toNat oHat.toNat).Bounded) :
    Tracks settings (rust.openLease backend p oHat settings.kvModel now)
      (reference.dispatch settings backend p.toNat oHat.toNat) := by
  have charged := toInt_project settings.kvModel p oHat
  have dispatched : (reference.dispatch settings backend p.toNat oHat.toNat).Tallied :=
    State.tallied_dispatch tallied backend (Int.natCast_nonneg _) (Int.natCast_nonneg _)
  refine ⟨?_, ?_, ?_⟩
  · intro ref
    have fits := bounded.inFlight ref
    have before := tracks.inFlight ref
    rw [LeaseState.openLease, CostLease.open_live]
    change Function.update reference.inFlight backend _ ref < _ at fits
    change _ = Function.update reference.inFlight backend _ ref
    rw [State.update_add] at fits ⊢
    by_cases same : backend = ref
    · simp only [if_pos same] at fits ⊢
      rw [UInt32.toNat_add, UInt32.toNat_one]
      omega
    · simp only [if_neg same, add_zero]
      exact before
  · intro ref
    rw [LeaseState.openLease, CostLease.open_live]
    apply toInt_add_eq_update (tracks.kvProj ref)
    · rw [charged]
    · exact dispatched.kvProj_nonneg ref
    · exact bounded.kvProj ref
  · refine .cons ?_ tracks.requests
    exact {
      backend := rfl
      kvModel := rfl
      p := rfl
      oHat := rfl
      c := rfl
      charged
      held := charged ▸ KvModel.project_lt _ _ _
      unreleased := rfl }

theorem tracks_token (tracks : Tracks settings rust reference) (tallied : reference.Tallied)
    {position : Nat} {lease : CostLease} {request : Request}
    (stands : Stands settings lease request)
    (present : reference.requests[position]? = some request)
    (bounded : (reference.token settings position request).Bounded) :
    Tracks settings (rust.observeLease position lease 1)
      (reference.token settings position request) := by
  obtain ⟨inside, -⟩ := List.getElem?_eq_some_iff.mp present
  have tokenTallied : (reference.token settings position request).Tallied :=
    State.tallied_token tallied present
  rw [State.token_eq] at bounded tokenTallied ⊢
  have observedMem : State.observed settings request ∈
      reference.requests.set position (State.observed settings request) :=
    List.mem_set inside _
  have after := stands_observed stands rust.heap (bounded.requests _ observedMem)
  refine ⟨?_, ?_, tracks.requests.set after⟩
  · intro ref
    rw [LeaseState.observeLease, CostLease.observeTokens_live]
    exact tracks.inFlight ref
  · intro ref
    have held := (tallied.nonneg request (List.mem_of_getElem? present)).2.2
    have observedHeld := (tokenTallied.nonneg _ observedMem).2.2
    have moved : ((lease.observeTokens 1 rust.heap).1.charged - lease.charged).toInt =
        (State.observed settings request).kvHeld - request.kvHeld := by
      have before := stands.held
      have now := after.held
      rw [Int64.toInt_sub_of_mem] <;> rw [after.charged, stands.charged] <;> omega
    rw [LeaseState.observeLease, CostLease.observeTokens_live, stands.backend]
    apply toInt_add_eq_update (tracks.kvProj ref)
    · rw [moved, Int.cast_sub]
    · exact tokenTallied.kvProj_nonneg ref
    · exact bounded.kvProj ref

theorem tracks_finish (tracks : Tracks settings rust reference) (tallied : reference.Tallied)
    {position : Nat} {lease : CostLease} {request : Request}
    (stands : Stands settings lease request)
    (present : reference.requests[position]? = some request) :
    Tracks settings (rust.dropLease position lease) (reference.finish position request) := by
  obtain ⟨held, counted⟩ := tallied.kvHeld_le present
  have heldNonneg := (tallied.nonneg request (List.mem_of_getElem? present)).2.2
  rw [State.finish_eq tallied present]
  refine ⟨?_, ?_, tracks.requests.eraseIdx⟩
  · intro ref
    have before := tracks.inFlight ref
    rw [LeaseState.dropLease, CostLease.drop_live _ _ _ stands.unreleased, stands.backend]
    change _ = Function.update reference.inFlight request.backend _ ref
    rw [State.update_sub]
    by_cases same : request.backend = ref
    · rw [same] at counted
      have one : (1 : UInt32) ≤ (rust.heap ref).live.inflight := by
        rw [UInt32.le_iff_toNat_le, UInt32.toNat_one]
        omega
      simp only [if_pos same]
      rw [UInt32.toNat_sub_of_le _ _ one, UInt32.toNat_one]
      omega
    · simp only [if_neg same, sub_zero]
      exact before
  · intro ref
    have before := tracks.kvProj ref
    rw [LeaseState.dropLease, CostLease.drop_live _ _ _ stands.unreleased, stands.backend]
    change _ = Function.update reference.kvProj request.backend _ ref
    rw [State.update_sub, ← before]
    by_cases same : request.backend = ref
    · rw [same, ← before, ← stands.charged] at held
      have less : lease.charged.toInt ≤ (rust.heap ref).live.kvProjectedTokens.toInt := by
        exact_mod_cast held
      have upper := (rust.heap ref).live.kvProjectedTokens.toInt_lt
      rw [← stands.charged] at heldNonneg
      simp only [if_pos same]
      rw [Int64.toInt_sub_of_mem (by omega) (by omega), Int.cast_sub, stands.charged]
    · simp only [if_neg same, sub_zero]

/-- Every event of the reference is matched by an operation of the router. -/
theorem tracks_step (tracks : Tracks settings rust reference) (tallied : reference.Tallied)
    {event : Event} {next : State} (stepped : reference.step settings event = some next)
    (bounded : next.Bounded) :
    ∃ rustNext, rust.step (event.operation settings.kvModel) = some rustNext ∧
      Tracks settings rustNext next := by
  rcases State.step_cases stepped with ⟨backend, p, oHat, now, rfl, -, rfl⟩ |
    ⟨position, request, rfl, present, rfl⟩ | ⟨position, request, rfl, present, rfl⟩
  · exact ⟨_, rfl, tracks_dispatch tracks tallied now bounded⟩
  · obtain ⟨lease, opened, stands⟩ := tracks.requests.exists_getElem? present
    refine ⟨rust.observeLease position lease 1, ?_, tracks_token tracks tallied stands present bounded⟩
    simp [Event.operation, LeaseState.step, opened]
  · obtain ⟨lease, opened, stands⟩ := tracks.requests.exists_getElem? present
    refine ⟨rust.dropLease position lease, ?_, tracks_finish tracks tallied stands present⟩
    simp [Event.operation, LeaseState.step, opened]

/-! ## The same settings -/

/-- The configuration and the settings say the same, and all backends have the
same capacities. -/
structure Settings.Match (settings : Settings) (config : Config) : Prop where
  theta : config.theta = .finite settings.theta
  penalty : config.penalty = .finite settings.penalty
  sigma : config.sigma = .finite settings.sigma
  kvModel : config.kvModel = settings.kvModel
  capacities : ∀ b ∈ config.backends, (b.kvTokens.toNat : ℤ) = settings.kvCapacity ∧
    (b.maxNumSeqs.toNat : ℤ) = settings.maxNumSeqs
  penaltyNonneg : 0 ≤ settings.penalty

/-- What a configuration that matches the settings says once it is accepted. -/
structure Agreed (settings : Settings) (strategy : Pressure) : Prop where
  parameters : strategy = ⟨.finite settings.theta, .finite settings.penalty, .finite settings.sigma,
    settings.kvModel⟩
  theta : 0 < settings.theta ∧ settings.theta < 1
  penalty : 0 ≤ settings.penalty
  sigma : 0 < settings.sigma ∧ settings.sigma ≤ 1

/-- The capacities of a backend are those of the settings. -/
structure HasCapacities (settings : Settings) (caps : CapsEstimate) : Prop where
  kv : (caps.kvCapacityTokens.toNat : ℤ) = settings.kvCapacity
  slots : (caps.maxNumSeqs.toNat : ℤ) = settings.maxNumSeqs
  positive : caps.Positive

variable {self : Pressure}

section Backends

variable (agreed : Agreed settings self) (tracks : Tracks settings rust reference)
  (tallied : reference.Tallied) {ref : BackendRef}
  (capacities : HasCapacities settings (rust.heap ref).caps)
include tracks tallied capacities

theorem occupancyRatio_eq :
    occupancyRatio (rust.heap ref) = occupancy settings reference ref := by
  have nonneg := tallied.kvProj_nonneg ref
  rw [← tracks.kvProj ref] at nonneg
  have projected : max (rust.heap ref).live.kvProjectedTokens.toInt 0 =
      (rust.heap ref).live.kvProjectedTokens.toInt := by
    apply max_eq_left
    exact_mod_cast nonneg
  unfold occupancyRatio occupancy
  dsimp only
  rw [projected, tracks.kvProj ref, ← tracks.inFlight ref, ← capacities.kv, ← capacities.slots,
    Int.cast_natCast, Int.cast_natCast, Int.cast_natCast]

include agreed

theorem score_eq : self.score (rust.heap ref) = .finite (pressureScore settings reference ref) := by
  rw [Pressure.score, occupancy_eq_finite capacities.positive, agreed.parameters,
    pressureScore_finite agreed.theta.2, occupancyRatio_eq tracks tallied capacities]
  unfold scoreRatio pressureScore
  dsimp only
  split
  · rfl
  · rw [mul_assoc, ← pow_two]

theorem fits_iff (bounded : reference.kvProj ref < 2 ^ 62) (req : RequestFeatures) :
    (rust.heap ref).live.kvProjectedTokens + self.needKv req ≤
        kvLimit (rust.heap ref) self.sigma ↔
      fits settings reference ref (kvFor req.promptTokens.toNat req.expectedOutputTokens.toNat
        settings.kvModel) = true := by
  have nonneg := tallied.kvProj_nonneg ref
  rw [← tracks.kvProj ref] at nonneg bounded
  have above : 0 ≤ (rust.heap ref).live.kvProjectedTokens.toInt := by exact_mod_cast nonneg
  have below : (rust.heap ref).live.kvProjectedTokens.toInt < 2 ^ 62 := by exact_mod_cast bounded
  have needNonneg := settings.kvModel.project_nonneg req.promptTokens req.expectedOutputTokens
  have needSmall := settings.kvModel.project_lt req.promptTokens req.expectedOutputTokens
  have need : self.needKv req =
      settings.kvModel.project req.promptTokens req.expectedOutputTokens := by
    rw [Pressure.needKv, agreed.parameters]
  have gate : self.sigma = .finite settings.sigma := by rw [agreed.parameters]
  rw [need, gate, Int64.le_iff_toInt_le, toInt_kvLimit agreed.sigma.1.le agreed.sigma.2,
    Int.le_floor, Int64.toInt_add_of_mem (by omega) (by omega), toInt_project, Int.cast_add,
    tracks.kvProj ref]
  unfold fits
  dsimp only
  rw [decide_eq_true_iff, ← capacities.kv]
  norm_cast

theorem admits_eq (bounded : reference.kvProj ref < 2 ^ 62) (req : RequestFeatures) :
    KeelRouter.admits (rust.heap ref) (self.needKv req) self.sigma =
      admits settings reference ref (kvFor req.promptTokens.toNat req.expectedOutputTokens.toNat
        settings.kvModel) := by
  have fitting := fits_iff agreed tracks tallied capacities bounded req
  have slots : (rust.heap ref).live.inflight < (rust.heap ref).caps.maxNumSeqs ↔
      ¬ settings.maxNumSeqs ≤ reference.inFlight ref := by
    rw [UInt32.lt_iff_toNat_lt, ← capacities.slots, ← tracks.inFlight ref]
    omega
  unfold KeelRouter.admits admits
  by_cases full : settings.maxNumSeqs ≤ reference.inFlight ref
  · rw [if_pos full, decide_eq_false fun free => slots.mp free full, Bool.and_false]
  · rw [if_neg full, decide_eq_true (slots.mpr full), Bool.and_true, Bool.eq_iff_iff,
      decide_eq_true_iff, fitting]

end Backends

/-! ## Runs -/

/-- The two after the same events: the router has kept its snapshot and the
capacities of its backends. -/
structure Follows (settings : Settings) (config : Config) (reference : State)
    (rust : LeaseState) : Prop where
  tracks : Tracks settings rust reference
  tallied : reference.Tallied
  bounded : reference.Bounded
  backends : reference.backends = List.range config.backends.length
  snapshot : rust.snapshot = config.snapshot
  caps : ∀ ref, (rust.heap ref).caps = (config.heap ref).caps

/-- The reference at its start, with the backends of the configuration. -/
def referenceStart (config : Config) : State := .initial (List.range config.backends.length)

/-- The router at its start. -/
def routerStart (config : Config) : LeaseState := .initial config.heap config.snapshot

theorem follows_initial (settings : Settings) (config : Config) :
    Follows settings config (referenceStart config) (routerStart config) where
  tracks := {
    inFlight := fun ref => by
      change ((config.heap ref).live.inflight.toNat : ℤ) = 0
      rw [Config.heap_live]
      rfl
    kvProj := fun ref => by
      change ((config.heap ref).live.kvProjectedTokens.toInt : ℚ) = 0
      rw [Config.heap_live]
      rfl
    requests := .nil }
  tallied := State.tallied_initial _
  bounded := {
    inFlight := fun ref => by
      change (0 : ℤ) < 2 ^ 32
      norm_num
    kvProj := fun ref => by
      change (0 : ℚ) < 2 ^ 62
      norm_num
    requests := fun request member => by cases member }
  backends := rfl
  snapshot := rfl
  caps _ := rfl

theorem step_backends {before after : State} {event : Event}
    (stepped : before.step settings event = some after) : after.backends = before.backends := by
  rcases State.step_cases stepped with ⟨backend, p, oHat, now, -, -, rfl⟩ |
    ⟨position, request, -, -, rfl⟩ | ⟨position, request, -, -, rfl⟩
  · rfl
  · rw [State.token_eq]
  · rfl

theorem operation_snapshot {kvModel : KvModel} {event : Event} {before after : LeaseState}
    (stepped : before.step (event.operation kvModel) = some after) :
    after.snapshot = before.snapshot := by
  cases event with
  | dispatch backend p oHat now => exact (Option.some.inj stepped) ▸ rfl
  | token position =>
      obtain ⟨lease, -, rfl⟩ := Option.map_eq_some_iff.mp stepped
      rfl
  | finish position =>
      obtain ⟨lease, -, rfl⟩ := Option.map_eq_some_iff.mp stepped
      rfl

theorem follows_step {config : Config} {before after : State} {event : Event} {rust : LeaseState}
    (bounded : ∀ next, before.step settings event = some next → next.Bounded)
    (follows : Follows settings config before rust)
    (stepped : before.step settings event = some after) :
    ∃ next, rust.step (event.operation settings.kvModel) = some next ∧
      Follows settings config after next := by
  obtain ⟨next, operated, tracks⟩ :=
    tracks_step follows.tracks follows.tallied stepped (bounded after stepped)
  refine ⟨next, operated, ?_⟩
  exact {
    tracks
    tallied := State.tallied_step follows.tallied stepped
    bounded := bounded after stepped
    backends := (step_backends stepped).trans follows.backends
    snapshot := (operation_snapshot operated).trans follows.snapshot
    caps := fun ref => (LeaseState.step_caps operated ref).trans (follows.caps ref) }

/-- The numbers stay within the types of the router at every event. -/
def WithinTypes (settings : Settings) (start : State) (events : List Event) : Prop :=
  EventRun.Guarded (State.step settings)
    (fun state event => ∀ next, state.step settings event = some next → next.Bounded) start events

theorem follows_run {config : Config} {events : List Event} {last : State}
    (executed : EventRun.run (State.step settings) (referenceStart config) events = some last)
    (within : WithinTypes settings (referenceStart config) events) :
    ∃ rust, EventRun.run LeaseState.step (routerStart config)
        (events.map (Event.operation settings.kvModel)) = some rust ∧
      Follows settings config last rust :=
  EventRun.run_translated (Event.operation settings.kvModel)
    (fun _ _ _ _ => follows_step) within (follows_initial settings config) executed

/-! ## Accepted configurations -/

section Accepted

variable {raw : RawConfig} {config : Config} (accepted : raw.validate = .ok config)
  (sameSettings : settings.Match config)
include accepted sameSettings

theorem agreed_of_accepted (built : config.buildStrategy = .ok (.pressure self)) :
    Agreed settings self := by
  obtain ⟨checked, rfl⟩ := RawConfig.validate_eq_ok_iff.mp accepted
  have theta : raw.routing.theta = .finite settings.theta := sameSettings.theta
  have sigma : raw.admission.sigma = .finite settings.sigma := sameSettings.sigma
  have thetaRange := checked.theta
  have sigmaRange := checked.sigma
  rw [theta] at thetaRange
  rw [sigma] at sigmaRange
  refine ⟨?_, ?_, sameSettings.penaltyNonneg, ?_⟩
  · rw [buildStrategy_pressure built, sameSettings.theta, sameSettings.penalty,
      sameSettings.sigma, sameSettings.kvModel]
  · exact ⟨(ExactFloat.finite_lt_finite 0 _).mp thetaRange.1,
      (ExactFloat.finite_lt_finite _ 1).mp thetaRange.2⟩
  · exact ⟨(ExactFloat.finite_lt_finite 0 _).mp sigmaRange.1,
      (ExactFloat.finite_le_finite _ 1).mp sigmaRange.2⟩

theorem hasCapacities_of_accepted {ref : BackendRef} (inside : ref < config.backends.length) :
    HasCapacities settings (config.heap ref).caps := by
  obtain ⟨checked, rfl⟩ := RawConfig.validate_eq_ok_iff.mp accepted
  have listed : raw.toConfig.backends[ref]? = some raw.toConfig.backends[ref] :=
    List.getElem?_eq_getElem inside
  have member : raw.toConfig.backends[ref] ∈ raw.toConfig.backends := List.getElem_mem inside
  obtain ⟨kvCapacity, maxNumSeqs⟩ := sameSettings.capacities _ member
  obtain ⟨kvNonzero, slotsNonzero⟩ := capacities_of_validateBackends checked.backends _ member
  have caps : (raw.toConfig.heap ref).caps =
      ⟨raw.toConfig.backends[ref].kvTokens, raw.toConfig.backends[ref].maxNumSeqs⟩ := by
    unfold Config.heap
    rw [listed]
    rfl
  rw [caps]
  exact ⟨kvCapacity, maxNumSeqs, UInt32.pos_iff_ne_zero.mpr kvNonzero,
    UInt32.pos_iff_ne_zero.mpr slotsNonzero⟩

end Accepted

/-! ## The backends that can be picked -/

/-- Some draw makes the pressure strategy pick the backend. -/
def CanPick (self : Pressure) (rust : LeaseState) (req : RequestFeatures) (ref : BackendRef) :
    Prop :=
  ∃ rng id, (self.pick rust.heap rust.snapshot req rng (some .default)).map Picked.chosen =
      .ok (some id) ∧ rust.snapshot.refOf id = ref

/-- What the reference holds for the KV cache of a request. -/
def kvNew (settings : Settings) (req : RequestFeatures) : ℤ :=
  kvFor req.promptTokens.toNat req.expectedOutputTokens.toNat settings.kvModel

theorem Agreed.inRange (agreed : Agreed settings self) : self.InRange := by
  refine ⟨settings.theta, settings.penalty, ?_, ?_, agreed.theta.1, agreed.theta.2, agreed.penalty⟩
  · rw [agreed.parameters]
  · rw [agreed.parameters]

/-- The narrowed position of a backend. -/
def idOf (ref : BackendRef) : BackendId := ⟨UInt16.ofNat ref⟩

section Picks

variable {config : Config} (agreed : Agreed settings self)
  (follows : Follows settings config reference rust)
  (capacities : ∀ ref < config.backends.length, HasCapacities settings (config.heap ref).caps)
  (fewBackends : config.backends.length ≤ 65536)
include follows

theorem Follows.hasCapacities
    (capacities : ∀ ref < config.backends.length, HasCapacities settings (config.heap ref).caps)
    {ref : BackendRef} (inside : ref < config.backends.length) :
    HasCapacities settings (rust.heap ref).caps := by
  rw [follows.caps]
  exact capacities ref inside

theorem Follows.refOf_idOf (fewBackends : config.backends.length ≤ 65536) {ref : BackendRef}
    (inside : ref < config.backends.length) : rust.snapshot.refOf (idOf ref) = ref := by
  rw [follows.snapshot]
  exact (HealthRun.numbered_initial config).refOf_ofNat fewBackends inside

include agreed capacities

theorem Follows.canPick_iff_minimises (req : RequestFeatures) (ref : BackendRef) :
    CanPick self rust req ref ↔
      ∃ id, self.Minimises rust.heap rust.snapshot req id ∧ rust.snapshot.refOf id = ref := by
  have indexed : rust.snapshot.Indexed := by
    rw [follows.snapshot]
    exact config.snapshot_indexed
  have positive : rust.snapshot.Positive rust.heap := by
    intro ref listed
    rw [follows.snapshot] at listed
    exact (follows.hasCapacities capacities (List.mem_range.mp listed)).positive
  constructor
  · rintro ⟨rng, id, picked, leads⟩
    rw [Pressure.pick_chosen_eq agreed.inRange indexed positive] at picked
    have tied := SmallRng.choose_mem (Except.ok.inj picked)
    exact ⟨id, (Pressure.mem_leastOccupied agreed.inRange indexed positive).mp tied, leads⟩
  · rintro ⟨id, minimises, leads⟩
    obtain ⟨rng, drawn⟩ := SmallRng.exists_choose_eq
      ((Pressure.mem_leastOccupied agreed.inRange indexed positive).mpr minimises)
    refine ⟨rng, id, ?_, leads⟩
    rw [Pressure.pick_chosen_eq agreed.inRange indexed positive, drawn]

include fewBackends

/-- The pool of the router lists the ids of the pool of the reference. -/
theorem Follows.pool_eq (req : RequestFeatures) :
    self.pool rust.heap rust.snapshot req =
      (pool settings reference (kvNew settings req)).map idOf := by
  have healthy : rust.snapshot.healthy = (List.range config.backends.length).map idOf := by
    rw [follows.snapshot]
    apply List.map_congr_left
    intro ref _
    exact config.heap_id ref
  have admitted : self.admitted rust.heap rust.snapshot req =
      ((List.range config.backends.length).filter fun ref =>
        admits settings reference ref (kvNew settings req)).map idOf := by
    rw [Pressure.admitted, healthy, List.filter_map]
    congr 1
    apply List.filter_congr
    intro ref listed
    have inside := List.mem_range.mp listed
    change KeelRouter.admits (rust.heap (rust.snapshot.refOf (idOf ref))) _ _ = _
    rw [follows.refOf_idOf fewBackends inside]
    exact admits_eq agreed follows.tracks follows.tallied
      (follows.hasCapacities capacities inside) (follows.bounded.kvProj ref) req
  unfold Pressure.pool pool
  rw [admitted, healthy, follows.backends, List.isEmpty_map]
  dsimp only
  split <;> rfl

/-- A pick can name just the backends that the reference draws from. -/
theorem Follows.canPick_iff (req : RequestFeatures) (ref : BackendRef) :
    CanPick self rust req ref ↔ ref ∈ drawn settings reference (kvNew settings req) := by
  have pooled : ∀ other ∈ pool settings reference (kvNew settings req),
      other < config.backends.length := by
    intro other member
    have listed := mem_backends_of_mem_pool member
    rw [follows.backends] at listed
    exact List.mem_range.mp listed
  have leads {other : BackendRef} (member : other ∈ pool settings reference (kvNew settings req)) :
      rust.snapshot.refOf (idOf other) = other :=
    follows.refOf_idOf fewBackends (pooled other member)
  have scored {other : BackendRef} (member : other ∈ pool settings reference (kvNew settings req)) :
      self.score (rust.heap (rust.snapshot.refOf (idOf other))) =
        .finite (pressureScore settings reference other) := by
    rw [leads member]
    exact score_eq agreed follows.tracks follows.tallied
      (follows.hasCapacities capacities (pooled other member))
  rw [follows.canPick_iff_minimises agreed capacities, mem_drawn]
  unfold Pressure.Minimises
  rw [follows.pool_eq agreed capacities fewBackends]
  constructor
  · rintro ⟨id, ⟨listed, least⟩, same⟩
    obtain ⟨chosen, member, rfl⟩ := List.mem_map.mp listed
    rw [leads member] at same
    subst same
    refine ⟨member, ?_⟩
    intro other otherMem
    have lower := least (idOf other) (List.mem_map_of_mem otherMem)
    rwa [scored member, scored otherMem, ExactFloat.finite_le_finite] at lower
  · rintro ⟨member, least⟩
    refine ⟨idOf ref, ⟨List.mem_map_of_mem member, ?_⟩, leads member⟩
    intro id listed
    obtain ⟨other, otherMem, rfl⟩ := List.mem_map.mp listed
    rw [scored member, scored otherMem, ExactFloat.finite_le_finite]
    exact least other otherMem

end Picks

/-! ## Simulation -/

/-- What the two have in common after the same events: the counters, a
projection that ending any request leaves nonnegative, the test of the KV gate,
and the backends that the next request can be routed to. -/
structure Agrees (strategy : Pressure) (settings : Settings) (rust : LeaseState)
    (reference : State) : Prop where
  inFlight : ∀ ref, ((rust.heap ref).live.inflight.toNat : ℤ) = reference.inFlight ref
  kvProj : ∀ ref, ((rust.heap ref).live.kvProjectedTokens.toInt : ℚ) = reference.kvProj ref
  unclamped : ∀ request ∈ reference.requests,
    0 ≤ reference.kvProj request.backend - request.kvHeld
  gate : ∀ ref ∈ reference.backends, ∀ req,
    (rust.heap ref).live.kvProjectedTokens + strategy.needKv req ≤
        kvLimit (rust.heap ref) strategy.sigma ↔
      fits settings reference ref (kvNew settings req) = true
  picks : ∀ req ref,
    CanPick strategy rust req ref ↔ ref ∈ drawn settings reference (kvNew settings req)

/-- After all events that keep within the types of the router, the router and
the reference agree. -/
def SimulatesReference (self : Pressure) (settings : Settings) (config : Config) : Prop :=
  ∀ (events : List Event) (reference : State),
    EventRun.run (State.step settings) (referenceStart config) events = some reference →
    WithinTypes settings (referenceStart config) events →
    ∃ rust, EventRun.run LeaseState.step (routerStart config)
        (events.map (Event.operation settings.kvModel)) = some rust ∧
      Agrees self settings rust reference

/-- All backends of an idle reference score the same. -/
theorem mem_drawn_referenceStart {config : Config} {ref : BackendRef} {kvNew : ℤ}
    (inside : ref < config.backends.length) :
    ref ∈ drawn settings (referenceStart config) kvNew := by
  have listed : ref ∈ (referenceStart config).backends := List.mem_range.mpr inside
  refine mem_drawn.mpr ⟨?_, fun other _ => le_of_eq rfl⟩
  unfold pool
  dsimp only
  split
  · exact listed
  · rename_i someAdmitted
    rw [List.isEmpty_iff] at someAdmitted
    obtain ⟨other, member⟩ := List.exists_mem_of_ne_nil _ someAdmitted
    exact List.mem_filter.mpr ⟨listed, (List.mem_filter.mp member).2⟩

theorem refOf_lt (config : Config) (many : 65536 < config.backends.length) (id : BackendId) :
    config.snapshot.refOf id < 65536 := by
  have small : id.val.toNat < 65536 := id.val.toNat_lt
  rw [Snapshot.refOf, Config.snapshot, List.getElem?_range (small.trans many)]
  exact small

/-- No id leads to the last of 65537 backends, which the reference draws from. -/
theorem not_simulates_of_many {config : Config} (many : 65536 < config.backends.length) :
    ¬ SimulatesReference self settings config := by
  intro simulates
  obtain ⟨rust, executed, agrees⟩ := simulates [] (referenceStart config) rfl trivial
  obtain rfl : routerStart config = rust := Option.some.inj executed
  let req : RequestFeatures := ⟨"m", 0, true, 0, none, none, true, 0⟩
  obtain ⟨rng, id, -, leads⟩ := (agrees.picks req 65536).mpr (mem_drawn_referenceStart many)
  have small : (routerStart config).snapshot.refOf id < 65536 := refOf_lt config many id
  rw [leads] at small
  exact lt_irrefl _ small

/-- The router simulates the reference exactly when the narrowed positions of
the backends stay apart. -/
theorem simulates_reference_iff {raw : RawConfig} {config : Config}
    (accepted : raw.validate = .ok config) (built : config.buildStrategy = .ok (.pressure self))
    (sameSettings : settings.Match config) :
    SimulatesReference self settings config ↔ config.backends.length ≤ 65536 := by
  constructor
  · intro simulates
    by_contra many
    exact not_simulates_of_many (not_le.mp many) simulates
  · intro fewBackends events reference executed within
    have agreed := agreed_of_accepted accepted sameSettings built
    have capacities (ref : BackendRef) (inside : ref < config.backends.length) :=
      hasCapacities_of_accepted accepted sameSettings inside
    obtain ⟨rust, followed, follows⟩ := follows_run executed within
    refine ⟨rust, followed, ?_⟩
    exact {
      inFlight := follows.tracks.inFlight
      kvProj := follows.tracks.kvProj
      unclamped := by
        intro request member
        obtain ⟨position, present⟩ := List.mem_iff_getElem?.mp member
        have held := (follows.tallied.kvHeld_le present).1
        linarith
      gate := by
        intro ref listed req
        rw [follows.backends] at listed
        exact fits_iff agreed follows.tracks follows.tallied
          (follows.hasCapacities capacities (List.mem_range.mp listed))
          (follows.bounded.kvProj ref) req
      picks := follows.canPick_iff agreed capacities fewBackends }

/-- The settings of the reference that match the default configuration. -/
def defaultSettings : Settings where
  maxNumSeqs := 10
  kvCapacity := 8192
  theta := 11 / 20
  penalty := 10
  sigma := 19 / 20
  kvModel := .promptOnly

theorem defaultSettings_match {raw : RawConfig}
    (defaults : raw = { twoBackends defaultPenalty with backends := raw.backends })
    (same : ∀ b ∈ raw.backends, b.kvTokens = 8192 ∧ b.maxNumSeqs = 10) :
    defaultSettings.Match raw.toConfig := by
  rw [defaults]
  refine ⟨rfl, rfl, rfl, rfl, ?_, by decide⟩
  intro b member
  obtain ⟨kvTokens, maxNumSeqs⟩ := same b member
  rw [kvTokens, maxNumSeqs]
  decide

theorem simulates_reference_two :
    SimulatesReference ⟨defaultTheta, defaultPenalty, defaultSigma, .promptOnly⟩ defaultSettings
      (twoBackends defaultPenalty).toConfig :=
  (simulates_reference_iff (twoBackends_accepted defaultPenalty) rfl
    (defaultSettings_match rfl (by decide +kernel))).mpr (by decide)

open HealthRun (manyBackends manyBackends_accepted manyBackends_length)

theorem defaultSettings_match_many (count : Nat) :
    defaultSettings.Match (manyBackends count).toConfig := by
  apply defaultSettings_match rfl
  intro b listed
  obtain ⟨position, -, rfl⟩ := List.mem_map.mp listed
  exact ⟨rfl, rfl⟩

/-- With 65537 equal backends the router never picks the last one, although the
reference draws from it. -/
theorem last_backend_never_picked :
    ∃ config, (manyBackends 65537).validate = .ok config ∧
      config.buildStrategy =
        .ok (.pressure ⟨defaultTheta, defaultPenalty, defaultSigma, .promptOnly⟩) ∧
      defaultSettings.Match config ∧
      ¬ SimulatesReference ⟨defaultTheta, defaultPenalty, defaultSigma, .promptOnly⟩
        defaultSettings config := by
  refine ⟨_, manyBackends_accepted (by decide), rfl, defaultSettings_match_many _, ?_⟩
  apply not_simulates_of_many
  rw [manyBackends_length]
  decide

end Loadgen

end KeelRouter
