import KeelRouter.RouterLeases

/-!
# The admission ceiling under concurrent requests

The gate reads the counters of a backend when a request is routed, and the
charge of the request is added when its lease is opened.  Leases that are
observed or dropped in between never raise the counters of the prompt-only
model, so the ceiling holds after the opening unless another request has opened
a lease on the same backend in the meantime.
-/

namespace KeelRouter

variable {F : Type}

/-! ## Prompt-only leases -/

/-- A lease of the prompt-only model that is charged its prompt. -/
def CostLease.PromptCharged (lease : CostLease) : Prop :=
  lease.kvModel = .promptOnly ∧ lease.charged = lease.promptTokens.asInt64

theorem CostLease.PromptCharged.charged_toInt {lease : CostLease}
    (promptCharged : lease.PromptCharged) :
    0 ≤ lease.charged.toInt ∧ lease.charged.toInt < 2 ^ 32 := by
  have small := lease.promptTokens.toNat_lt
  rw [promptCharged.2, UInt32.toInt_asInt64]
  omega

theorem promptCharged_iterate {held : CostLease × Heap} (promptCharged : held.1.PromptCharged)
    (count : Nat) :
    (observeToken^[count] held).1.PromptCharged ∧
      (observeToken^[count] held).1.backend = held.1.backend ∧
      (observeToken^[count] held).1.charged = held.1.charged := by
  induction count generalizing held with
  | zero => exact ⟨promptCharged, rfl, rfl⟩
  | succ count ih =>
      obtain ⟨sameBackend, sameModel, samePrompt, -, -⟩ := held.1.observeTokens_fields 1 held.2
      have sameCharge : (observeToken held).1.charged = held.1.charged := by
        obtain ⟨promptOnly, charged⟩ := promptCharged
        unfold observeToken CostLease.observeTokens
        dsimp only
        split
        · split <;> simp [promptOnly, charged, KvModel.project]
        · rfl
      have observed : (observeToken held).1.PromptCharged := by
        refine ⟨sameModel.trans promptCharged.1, ?_⟩
        rw [sameCharge, promptCharged.2, observeToken, samePrompt]
      obtain ⟨later, laterBackend, laterCharge⟩ := ih observed
      rw [Function.iterate_succ_apply]
      exact ⟨later, laterBackend.trans sameBackend, laterCharge.trans sameCharge⟩

theorem amounts_bounded {leases : List CostLease}
    (promptCharged : ∀ lease ∈ leases, lease.PromptCharged) (ref : BackendRef) :
    slotsOn leases ref ≤ leases.length ∧ 0 ≤ chargesOn leases ref ∧
      chargesOn leases ref ≤ 2 ^ 32 * leases.length := by
  unfold slotsOn chargesOn
  induction leases with
  | nil => simp
  | cons lease leases ih =>
      obtain ⟨slots, nonneg, small⟩ := ih fun other member => promptCharged other (by simp [member])
      obtain ⟨chargeNonneg, chargeSmall⟩ := (promptCharged lease (by simp)).charged_toInt
      rw [keyedSum_cons, keyedSum_cons, List.length_cons]
      split <;> push_cast <;> refine ⟨?_, ?_, ?_⟩ <;> omega

theorem LeaseUse.amounts_le {before after : Option CostLease × Heap} (used : LeaseUse before after)
    (promptCharged : ∀ lease ∈ before.1.toList, lease.PromptCharged) :
    (∀ lease ∈ after.1.toList, lease.PromptCharged) ∧
      ∀ ref, slotsOn after.1.toList ref ≤ slotsOn before.1.toList ref ∧
        chargesOn after.1.toList ref ≤ chargesOn before.1.toList ref := by
  cases used with
  | keep => exact ⟨promptCharged, fun ref => ⟨le_rfl, le_rfl⟩⟩
  | observe count held =>
      obtain ⟨later, sameBackend, sameCharge⟩ :=
        promptCharged_iterate (promptCharged held.1 (by simp)) count
      refine ⟨by simpa using later, fun ref => ?_⟩
      simp [slotsOn, chargesOn, keyedSum_cons, sameBackend, sameCharge]
  | drop lease heap =>
      have nonneg := (promptCharged lease (by simp)).charged_toInt.1
      refine ⟨by simp, fun ref => ?_⟩
      simp only [slotsOn, chargesOn, Option.toList_none, Option.toList_some, keyedSum_cons,
        keyedSum_nil]
      split <;> omega

theorem LeaseUse.caps_eq {before after : Option CostLease × Heap} (used : LeaseUse before after)
    (ref : BackendRef) : (after.2 ref).caps = (before.2 ref).caps := by
  cases used with
  | keep => rfl
  | observe count held =>
      induction count generalizing held with
      | zero => rfl
      | succ count ih =>
          rw [Function.iterate_succ_apply]
          exact (ih (observeToken held)).trans (held.1.observeTokens_caps 1 held.2 ref)
  | drop lease heap => exact lease.drop_caps heap ref

namespace HandlerState

variable [DecayNumber F] {libraries : Libraries} {state after : HandlerState F}
  {event : HandlerEvent F}

theorem caps_of_steps (stepped : state.Steps libraries event after) (ref : BackendRef) :
    (after.heap ref).caps = (state.heap ref).caps := by
  rcases opens_or_leaseUse_of_steps stepped with
    ⟨-, features, body, backend, fellThrough, -, rfl⟩ | used
  · exact CostLease.open_caps state.heap ref backend features.promptTokens
      features.expectedOutputTokens state.router.kvModel state.handler.now
  · exact used.caps_eq ref

theorem pressure_of_steps {self : Pressure} (pressure : state.router.strategy = .pressure self)
    (stepped : state.Steps libraries event after) : after.router.strategy = .pressure self := by
  obtain ⟨-, -, kept | ⟨features, rng, picked, chose⟩⟩ := router_of_steps stepped
  · exact kept.trans pressure
  · rw [pressure] at chose
    exact (RoutingStrategy.pick_pressure_eq_ok.mp chose).2

/-- An execution that waits for its lease without having fallen through was
just admitted by the gate. -/
theorem admits_of_steps {self : Pressure} (pressure : state.router.strategy = .pressure self)
    {features : RequestFeatures} {body : List UInt8} {backend : BackendRef}
    (stepped : state.Steps libraries event after)
    (picked : after.handler.phase = .picked features body backend false) :
    admits (state.heap backend) (self.needKv features) self.sigma = true := by
  cases stepped with
  | bodyRead collected phase returned =>
      rcases bodyRead_cases returned with ⟨status, rfl⟩ | ⟨features, body, rfl⟩ <;>
        cases picked
  | pick rng phase returned =>
      rcases pick_cases returned with ⟨strategy, -, rfl⟩ |
        ⟨choice, strategy, id, chosenBackend, chose, chosen, inRange, rfl⟩
      · cases picked
      · rw [pressure] at chose
        obtain ⟨returned, -⟩ := RoutingStrategy.pick_pressure_eq_ok.mp chose
        obtain ⟨rfl, rfl, rfl, notFallen⟩ := Phase.picked.inj picked
        obtain ⟨healthy, indexed, admitted⟩ :=
          Pressure.admits_of_pick returned chosen notFallen
        rw [Snapshot.backendRef_eq_ok indexed healthy] at inRange
        obtain rfl := Except.ok.inj inRange
        exact admitted
  | rebuild phase =>
      rename_i features body lease
      rcases state.rebuild_cases libraries features body lease with rebuilt | rebuilt <;>
        rw [rebuilt] at picked <;> cases picked
  | dispatched answer phase =>
      rename_i features lease
      rcases state.dispatched_cases features lease answer with
        ⟨key, answered⟩ | ⟨body, -, answered⟩ <;>
        rw [answered] at picked <;> cases picked
  | openLease phase | cancelDispatch phase | poll _ _ _ phase | dropBody phase =>
      cases picked

end HandlerState

/-! ## Pending admissions -/

/-- The execution was admitted to the backend and has not opened its lease. -/
def Handler.Admitted (handler : Handler) (backend : BackendRef) : Prop :=
  ∃ features body, handler.phase = .picked features body backend false

/-- The backend that the execution was admitted to, before it opens its lease. -/
def Handler.admission (handler : Handler) : Option BackendRef :=
  match handler.phase with
  | .picked _ _ backend false => some backend
  | _ => none

theorem Handler.admission_eq_some_iff {handler : Handler} {backend : BackendRef} :
    handler.admission = some backend ↔ handler.Admitted backend := by
  unfold admission Admitted
  constructor
  · intro admitted
    split at admitted
    · rename_i features body other phase
      rw [Option.some.inj admitted] at phase
      exact ⟨features, body, phase⟩
    · cases admitted
  · rintro ⟨features, body, phase⟩
    rw [phase]

namespace RouterRun

/-- The backend has room for the request below the ceiling and a free slot. -/
def Fits (sigma : ℚ) (state : RouterRun F) (backend : BackendRef)
    (features : RequestFeatures) : Prop :=
  (chargesOn state.leases backend : ℚ) + features.promptTokens.toNat ≤
      sigma * (state.heap backend).caps.kvCapacityTokens.toNat ∧
    slotsOn state.leases backend < (state.heap backend).caps.maxNumSeqs.toNat

/-- No lease is opened on a backend while another request that was admitted to
it has not opened its own, and the open leases have not wrapped a counter. -/
def Serialised (state : RouterRun F) (event : RouterEvent F) : Prop :=
  state.leases.length < 2 ^ 30 ∧
    ∀ id handler features body backend fellThrough, event = .advance id .openLease →
      state.handlers[id]? = some handler →
      handler.phase = .picked features body backend fellThrough →
      ∀ other waiting, other ≠ id → state.handlers[other]? = some waiting →
        ¬ waiting.Admitted backend

theorem serialised_of_ne_open {state : RouterRun F} {event : RouterEvent F}
    (few : state.handlers.length < 2 ^ 30) (notOpen : ∀ id, event ≠ .advance id .openLease) :
    state.Serialised event := by
  refine ⟨(List.length_filterMap_le _ _).trans_lt few, ?_⟩
  intro id handler features body backend fellThrough opens
  exact absurd opens (notOpen id)

theorem serialised_open {state : RouterRun F} (few : state.handlers.length < 2 ^ 30) {id : Nat}
    {handler : Handler} {features : RequestFeatures} {body : List UInt8} {backend : BackendRef}
    {fellThrough : Bool} (present : state.handlers[id]? = some handler)
    (phase : handler.phase = .picked features body backend fellThrough)
    (alone : ∀ other < state.handlers.length, other ≠ id →
      (state.handlers[other]?).bind Handler.admission ≠ some backend) :
    state.Serialised (.advance id .openLease) := by
  refine ⟨(List.length_filterMap_le _ _).trans_lt few, ?_⟩
  intro opening opener openFeatures openBody target fell opens atOpening opened other waiting
    differs atOther admitted
  obtain ⟨rfl, -⟩ := RouterEvent.advance.inj opens
  obtain rfl : handler = opener := Option.some.inj (present.symm.trans atOpening)
  obtain ⟨-, -, rfl, -⟩ := Phase.picked.inj (phase.symm.trans opened)
  obtain ⟨inside, -⟩ := List.getElem?_eq_some_iff.mp atOther
  refine alone other inside differs ?_
  rw [atOther, Option.bind_some, Handler.admission_eq_some_iff]
  exact admitted

/-- What holds between the steps of a run whose openings are serialised. -/
structure Admitting (pressure : Pressure) (sigma : ℚ) (state : RouterRun F) : Prop where
  strategy : state.router.strategy = .pressure pressure
  kvModel : state.router.kvModel = .promptOnly
  balanced : state.Balanced
  promptCharged : ∀ lease ∈ state.leases, lease.PromptCharged
  pending : ∀ (id : Nat) (handler : Handler) (features : RequestFeatures) (body : List UInt8)
    (backend : BackendRef), state.handlers[id]? = some handler →
    handler.phase = .picked features body backend false → state.Fits sigma backend features

theorem Balanced.exact {state : RouterRun F} (balanced : state.Balanced)
    (promptCharged : ∀ lease ∈ state.leases, lease.PromptCharged)
    (few : state.leases.length ≤ 2 ^ 30) (ref : BackendRef) :
    (state.heap ref).live.inflight.toNat = slotsOn state.leases ref ∧
      (state.heap ref).live.kvProjectedTokens.toInt = chargesOn state.leases ref := by
  obtain ⟨slots, nonneg, small⟩ := amounts_bounded promptCharged ref
  have inflight := balanced.inflight_toNat ref
  have congruent := balanced.kvProjectedTokens_modEq ref
  have low := (state.heap ref).live.kvProjectedTokens.le_toInt
  have high := (state.heap ref).live.kvProjectedTokens.toInt_lt
  unfold Int.ModEq at congruent
  constructor <;> omega

theorem fits_of_admits {self : Pressure} {sigma : ℚ} {state : RouterRun F}
    (balanced : state.Balanced) (promptCharged : ∀ lease ∈ state.leases, lease.PromptCharged)
    (few : state.leases.length ≤ 2 ^ 30) (promptOnly : self.kvModel = .promptOnly)
    (fraction : self.sigma = .finite sigma) (nonneg : 0 ≤ sigma) (atMostOne : sigma ≤ 1)
    {backend : BackendRef} {features : RequestFeatures}
    (admitted : admits (state.heap backend) (self.needKv features) self.sigma = true) :
    state.Fits sigma backend features := by
  obtain ⟨inflight, kvProjected⟩ := balanced.exact promptCharged few backend
  obtain ⟨-, chargesNonneg, chargesSmall⟩ := amounts_bounded promptCharged backend
  have need : (self.needKv features).toInt = features.promptTokens.toNat := by
    rw [Pressure.needKv, promptOnly, KvModel.toInt_project]
  have promptSmall := features.promptTokens.toNat_lt
  rw [fraction] at admitted
  obtain ⟨below, freeSlot⟩ := (admits_iff nonneg atMostOne).mp admitted
  rw [Int64.toInt_add_of_mem (by omega) (by omega), kvProjected, need] at below
  rw [inflight] at freeSlot
  exact ⟨by exact_mod_cast below, freeSlot⟩

theorem Fits.of_amounts_le {sigma : ℚ} {state next : RouterRun F} {backend : BackendRef}
    {features : RequestFeatures} (fits : state.Fits sigma backend features)
    (slots : slotsOn next.leases backend ≤ slotsOn state.leases backend)
    (charges : chargesOn next.leases backend ≤ chargesOn state.leases backend)
    (caps : (next.heap backend).caps = (state.heap backend).caps) :
    next.Fits sigma backend features := by
  obtain ⟨below, freeSlot⟩ := fits
  have chargesLe : (chargesOn next.leases backend : ℚ) ≤ chargesOn state.leases backend := by
    exact_mod_cast charges
  refine ⟨?_, ?_⟩
  · rw [caps]
    linarith
  · rw [caps]
    exact slots.trans_lt freeSlot

section Openings

variable {state : RouterRun F} {id : Nat} {handler : Handler} {features : RequestFeatures}
  {body : List UInt8} {backend : BackendRef} {fellThrough : Bool}

theorem leases_open_perm (present : state.handlers[id]? = some handler)
    (phase : handler.phase = .picked features body backend fellThrough) :
    (state.update id ((state.view handler).openLease features body backend)).leases.Perm
      ((CostLease.open backend features.promptTokens features.expectedOutputTokens
        state.router.kvModel handler.now state.heap).1 :: state.leases) := by
  have noLease : handler.lease = none := by
    rw [Handler.lease, phase]
    rfl
  have before := leases_perm present
  rw [noLease] at before
  exact (leases_update_perm present _).trans (before.symm.cons _)

theorem amounts_open (promptOnly : state.router.kvModel = .promptOnly)
    (present : state.handlers[id]? = some handler)
    (phase : handler.phase = .picked features body backend fellThrough) (ref : BackendRef) :
    slotsOn (state.update id ((state.view handler).openLease features body backend)).leases ref =
        (if backend = ref then 1 else 0) + slotsOn state.leases ref ∧
      chargesOn (state.update id
          ((state.view handler).openLease features body backend)).leases ref =
        (if backend = ref then (features.promptTokens.toNat : ℤ) else 0) +
          chargesOn state.leases ref := by
  have perm := leases_open_perm present phase
  unfold slotsOn chargesOn
  rw [keyedSum_perm _ _ perm, keyedSum_perm _ _ perm, keyedSum_cons, keyedSum_cons, promptOnly]
  by_cases same : backend = ref <;> simp [CostLease.open, KvModel.project, same]

end Openings

theorem admitting_initial {pressure : Pressure} {sigma : ℚ} {heap : Heap}
    {router : RouterState F} (fresh : ∀ ref, (heap ref).live = .default)
    (strategy : router.strategy = .pressure pressure) (kvModel : router.kvModel = .promptOnly) :
    (initial heap router).Admitting pressure sigma where
  strategy := strategy
  kvModel := kvModel
  balanced := balanced_initial fresh router
  promptCharged lease member := by cases member
  pending id handler features body backend present := by cases present

section Steps

variable {pressure : Pressure} {sigma : ℚ} {state : RouterRun F}

theorem admitting_arrive (admitting : state.Admitting pressure sigma) {parts : RequestParts}
    {now : Instant}
    (balanced : Balanced { state with handlers := state.handlers ++ [.arrived parts now] }) :
    Admitting pressure sigma { state with handlers := state.handlers ++ [.arrived parts now] } := by
  have sameLeases : RouterRun.leases
      { state with handlers := state.handlers ++ [.arrived parts now] } = state.leases := by
    simp [leases, show (Handler.arrived parts now).lease = none from rfl]
  refine ⟨admitting.strategy, admitting.kvModel, balanced, ?_, ?_⟩
  · rw [sameLeases]
    exact admitting.promptCharged
  · intro id handler features body backend present picked
    rcases List.mem_append.mp (List.mem_of_getElem? present) with earlier | new
    · obtain ⟨position, atPosition⟩ := List.mem_iff_getElem?.mp earlier
      exact (admitting.pending position handler features body backend atPosition
        picked).of_amounts_le (by rw [sameLeases]) (by rw [sameLeases]) rfl
    · rw [List.mem_singleton.mp new] at picked
      cases picked

/-- An opening takes no room from the requests that were admitted to other
backends. -/
theorem admitting_open (admitting : state.Admitting pressure sigma) {id : Nat}
    {handler : Handler} (present : state.handlers[id]? = some handler)
    {features : RequestFeatures} {body : List UInt8} {backend : BackendRef} {fellThrough : Bool}
    (phase : handler.phase = .picked features body backend fellThrough)
    (alone : ∀ other waiting, other ≠ id → state.handlers[other]? = some waiting →
      ¬ waiting.Admitted backend)
    (balanced :
      (state.update id ((state.view handler).openLease features body backend)).Balanced) :
    (state.update id ((state.view handler).openLease features body backend)).Admitting
      pressure sigma := by
  refine ⟨admitting.strategy, admitting.kvModel, balanced, ?_, ?_⟩
  · intro lease member
    rcases List.mem_cons.mp ((leases_open_perm present phase).mem_iff.mp member) with
      rfl | earlier
    · exact ⟨admitting.kvModel, by simp [CostLease.open, admitting.kvModel, KvModel.project]⟩
    · exact admitting.promptCharged lease earlier
  · intro position waiting waitingFeatures waitingBody waitingBackend atPosition picked
    by_cases same : id = position
    · subst same
      rw [getElem?_update_self present] at atPosition
      rw [← Option.some.inj atPosition] at picked
      cases picked
    · rw [getElem?_update_ne same] at atPosition
      have elsewhere : backend ≠ waitingBackend := by
        rintro rfl
        exact alone position waiting (Ne.symm same) atPosition
          ⟨waitingFeatures, waitingBody, picked⟩
      have amounts := amounts_open admitting.kvModel present phase waitingBackend
      rw [if_neg elsewhere, if_neg elsewhere, zero_add, zero_add] at amounts
      have caps := CostLease.open_caps state.heap waitingBackend backend features.promptTokens
        features.expectedOutputTokens state.router.kvModel handler.now
      exact (admitting.pending position waiting waitingFeatures waitingBody waitingBackend
        atPosition picked).of_amounts_le amounts.1.le amounts.2.le caps

theorem amounts_use_le {id : Nat} {handler : Handler} {after : HandlerState F}
    (promptCharged : ∀ lease ∈ state.leases, lease.PromptCharged)
    (present : state.handlers[id]? = some handler)
    (used : LeaseUse (state.view handler).held after.held) :
    (∀ lease ∈ (state.update id after).leases, lease.PromptCharged) ∧
      ∀ ref, slotsOn (state.update id after).leases ref ≤ slotsOn state.leases ref ∧
        chargesOn (state.update id after).leases ref ≤ chargesOn state.leases ref := by
  have beforePerm := leases_perm present
  have afterPerm := leases_update_perm present after
  obtain ⟨ownCharged, ownLess⟩ := used.amounts_le fun lease member =>
    promptCharged lease (beforePerm.mem_iff.mpr (List.mem_append_left _ member))
  constructor
  · intro lease member
    rcases List.mem_append.mp (afterPerm.mem_iff.mp member) with own | others
    · exact ownCharged lease own
    · exact promptCharged lease (beforePerm.mem_iff.mpr (List.mem_append_right _ others))
  · intro ref
    obtain ⟨slots, charges⟩ := ownLess ref
    unfold slotsOn at slots ⊢
    unfold chargesOn at charges ⊢
    rw [keyedSum_perm _ _ afterPerm, keyedSum_perm _ _ beforePerm, keyedSum_append,
      keyedSum_append, keyedSum_perm _ _ afterPerm, keyedSum_perm _ _ beforePerm,
      keyedSum_append, keyedSum_append]
    exact ⟨Nat.add_le_add_right slots _, Int.add_le_add_right charges _⟩

variable [DecayNumber F] {libraries : Libraries} {next : RouterRun F} {event : RouterEvent F}

/-- A serialised step keeps the room of every request that was admitted. -/
theorem admitting_step (promptOnly : pressure.kvModel = .promptOnly)
    (fraction : pressure.sigma = .finite sigma) (nonneg : 0 ≤ sigma) (atMostOne : sigma ≤ 1)
    (serialised : state.Serialised event) (admitting : state.Admitting pressure sigma)
    (stepped : state.step libraries event = some next) : next.Admitting pressure sigma := by
  have balanced := balanced_step admitting.balanced stepped
  rcases step_cases stepped with ⟨parts, now, rfl, rfl⟩ |
    ⟨id, event', handler, after, rfl, present, advanced, rfl⟩
  · exact admitting_arrive admitting balanced
  · rcases HandlerState.opens_or_leaseUse_of_steps advanced with
      ⟨rfl, features, body, backend, fellThrough, phase, rfl⟩ | used
    · exact admitting_open admitting present phase
        (serialised.2 id handler features body backend fellThrough rfl present phase) balanced
    · obtain ⟨charged, less⟩ := amounts_use_le admitting.promptCharged present used
      refine ⟨HandlerState.pressure_of_steps admitting.strategy advanced,
        (HandlerState.router_of_steps advanced).2.1.trans admitting.kvModel, balanced, charged, ?_⟩
      intro position waiting waitingFeatures waitingBody waitingBackend atPosition picked
      have fits : state.Fits sigma waitingBackend waitingFeatures := by
        by_cases same : id = position
        · subst same
          rw [getElem?_update_self present] at atPosition
          rw [← Option.some.inj atPosition] at picked
          -- the execution was admitted by this very step
          have admitted := HandlerState.admits_of_steps admitting.strategy advanced picked
          exact fits_of_admits admitting.balanced admitting.promptCharged serialised.1.le
            promptOnly fraction nonneg atMostOne admitted
        · rw [getElem?_update_ne same] at atPosition
          exact admitting.pending position waiting waitingFeatures waitingBody waitingBackend
            atPosition picked
      exact fits.of_amounts_le (less waitingBackend).1 (less waitingBackend).2
        (HandlerState.caps_of_steps advanced waitingBackend)

end Steps

/-- In every run whose openings are serialised, the backend of an admitted
request is within its ceiling right after the request has opened its lease. -/
theorem admission_ceiling_of_serialised [DecayNumber F] (libraries : Libraries)
    {pressure : Pressure} {sigma : ℚ} (promptOnly : pressure.kvModel = .promptOnly)
    (fraction : pressure.sigma = .finite sigma) (nonneg : 0 ≤ sigma) (atMostOne : sigma ≤ 1)
    {heap : Heap} (fresh : ∀ ref, (heap ref).live = .default) {router : RouterState F}
    (strategy : router.strategy = .pressure pressure) (kvModel : router.kvModel = .promptOnly)
    {events : List (RouterEvent F)} {id : Nat} {state next : RouterRun F}
    (allowed : EventRun.Guarded (step libraries) Serialised (initial heap router)
      (events ++ [.advance id .openLease]))
    (executed : EventRun.run (step libraries) (initial heap router) events = some state)
    (opened : state.step libraries (.advance id .openLease) = some next)
    {handler : Handler} (present : state.handlers[id]? = some handler)
    {features : RequestFeatures} {body : List UInt8} {backend : BackendRef}
    (picked : handler.phase = .picked features body backend false) :
    ((next.heap backend).live.kvProjectedTokens.toInt : ℚ) ≤
        sigma * (next.heap backend).caps.kvCapacityTokens.toNat ∧
      (next.heap backend).live.inflight ≤ (next.heap backend).caps.maxNumSeqs := by
  obtain ⟨allowedBefore, serialised⟩ := EventRun.guarded_append_singleton executed allowed
  have admitting : state.Admitting pressure sigma :=
    EventRun.run_preserves_of_guarded
      (fun _ _ _ allowed => admitting_step promptOnly fraction nonneg atMostOne allowed)
      allowedBefore (admitting_initial fresh strategy kvModel) executed
  have after := admitting_step promptOnly fraction nonneg atMostOne serialised admitting opened
  obtain ⟨below, freeSlot⟩ := admitting.pending id handler features body backend present picked
  have stepped : next = state.update id ((state.view handler).openLease features body backend) := by
    have advanced : (state.view handler).step libraries .openLease =
        some ((state.view handler).openLease features body backend) := by
      simp only [HandlerState.step, view, picked]
    exact Option.some.inj (opened.symm.trans (step_advance present advanced))
  have length : next.leases.length ≤ 2 ^ 30 := by
    rw [stepped, (leases_open_perm present picked).length_eq, List.length_cons]
    exact serialised.1
  obtain ⟨slots, charges⟩ := amounts_open admitting.kvModel present picked backend
  obtain ⟨inflight, kvProjected⟩ := after.balanced.exact after.promptCharged length backend
  have caps : (next.heap backend).caps = (state.heap backend).caps := by
    rw [stepped]
    exact CostLease.open_caps state.heap backend backend features.promptTokens
      features.expectedOutputTokens state.router.kvModel handler.now
  rw [← stepped, if_pos rfl] at slots charges
  constructor
  · rw [kvProjected, charges, caps]
    push_cast
    linarith
  · rw [UInt32.le_iff_toNat_le, inflight, slots, caps]
    omega

/-! ## Two requests for one slot -/

def oneSlotBackend : Heap := fun _ => .fresh ⟨0⟩ "http://x" "m" 1 ⟨8192, 1⟩

def promptOnlyPressure : Pressure := ⟨defaultTheta, defaultPenalty, defaultSigma, .promptOnly⟩

def chatWaiting : Handler :=
  { chatRouted with phase := .picked chatFeatures chatRewritten 0 false }

noncomputable def oneSlot (handlers : List Handler) : RouterRun ℝ :=
  ⟨oneSlotBackend, chatRouter (.pressure promptOnlyPressure), handlers⟩

theorem step_pick_chat {handlers : List Handler} {id : Nat}
    (present : handlers[id]? = some chatRouted) :
    (oneSlot handlers).step chatLibraries (.advance id (.pick .first)) =
      some (oneSlot (handlers.set id chatWaiting)) := by
  have chose : (RoutingStrategy.pressure promptOnlyPressure).choice oneSlotBackend
      ⟨0, [0], [⟨0⟩], []⟩ chatFeatures .first = some (some ⟨0⟩, false) := by
    decide +kernel
  exact step_pick_of_choice ⟨0⟩ present rfl nofun chose rfl rfl

theorem run_bothWaiting :
    EventRun.run (step chatLibraries) (oneSlot [])
        (chatArrival 0 ++ chatArrival 1 ++
          [.advance 0 (.pick .first), .advance 1 (.pick .first)]) =
      some (oneSlot [chatWaiting, chatWaiting]) := by
  have first : EventRun.run (step chatLibraries) (oneSlot []) (chatArrival 0) =
      some (oneSlot [chatRouted]) :=
    run_chatArrival ⟨rfl, rfl⟩ oneSlotBackend []
  have second : EventRun.run (step chatLibraries) (oneSlot [chatRouted]) (chatArrival 1) =
      some (oneSlot [chatRouted, chatRouted]) :=
    run_chatArrival ⟨rfl, rfl⟩ oneSlotBackend [chatRouted]
  rw [EventRun.run_append, EventRun.run_append, first, Option.bind_some, second,
    Option.bind_some]
  exact EventRun.run_cons_eq_some.mpr ⟨_, step_pick_chat rfl,
    EventRun.run_cons_eq_some.mpr ⟨_, step_pick_chat rfl, rfl⟩⟩

noncomputable def openChat (state : RouterRun ℝ) (id : Nat) : RouterRun ℝ :=
  state.update id ((state.view chatWaiting).openLease chatFeatures chatRewritten 0)

/-- A backend with one slot takes the leases of two admitted requests. -/
theorem concurrent_admissions_exceed_ceiling :
    ∃ events state next,
      EventRun.run (step chatLibraries) (oneSlot []) events = some state ∧
      state.handlers[1]? = some chatWaiting ∧
      state.step chatLibraries (.advance 1 .openLease) = some next ∧
      ¬ (next.heap 0).live.inflight ≤ (next.heap 0).caps.maxNumSeqs := by
  let waiting := oneSlot [chatWaiting, chatWaiting]
  refine ⟨chatArrival 0 ++ chatArrival 1 ++ [.advance 0 (.pick .first),
    .advance 1 (.pick .first)] ++ [.advance 0 .openLease], waiting.openChat 0,
    (waiting.openChat 0).openChat 1, ?_, rfl, rfl, by decide⟩
  rw [EventRun.run_append, run_bothWaiting]
  rfl

/-! ## Three requests for two backends -/

def twoSlots : Heap := fun ref =>
  .fresh ⟨UInt16.ofNat ref⟩ (if ref = 0 then "http://a" else "http://b") "m" 1 ⟨8192, 2⟩

noncomputable def twoSlotRouter : RouterState ℝ :=
  { chatRouter (.pressure promptOnlyPressure) with snapshot := ⟨0, [0, 1], [⟨0⟩, ⟨1⟩], []⟩ }

def chatWaitingFor (backend : BackendRef) : Handler :=
  { chatRouted with phase := .picked chatFeatures chatRewritten backend false }

noncomputable def twoSlot (heap : Heap) (handlers : List Handler) : RouterRun ℝ :=
  ⟨heap, twoSlotRouter, handlers⟩

theorem step_pick_twoSlot {heap : Heap} {handlers : List Handler} {id : Nat} {rng : SmallRng}
    (chosen : BackendId) {backend : BackendRef} (present : handlers[id]? = some chatRouted)
    (chose : (RoutingStrategy.pressure promptOnlyPressure).choice heap
      ⟨0, [0, 1], [⟨0⟩, ⟨1⟩], []⟩ chatFeatures rng = some (some chosen, false))
    (inRange : twoSlotRouter.snapshot.backendRef chosen = .ok backend) :
    (twoSlot heap handlers).step chatLibraries (.advance id (.pick rng)) =
      some (twoSlot heap (handlers.set id (chatWaitingFor backend))) :=
  step_pick_of_choice chosen present rfl nofun chose rfl inRange

noncomputable def openFor (state : RouterRun ℝ) (id : Nat) (backend : BackendRef) :
    RouterRun ℝ :=
  state.update id
    ((state.view (chatWaitingFor backend)).openLease chatFeatures chatRewritten backend)

/-- The first and the third request are admitted to different backends before
either opens its lease, and the first leaves while the second waits for its own. -/
def interleavedChats : List (RouterEvent ℝ) :=
  [.advance 0 (.pick .first), .advance 2 (.pick .last), .advance 0 .openLease,
    .advance 2 .openLease, .advance 1 (.pick .first), .advance 0 .rebuild, .advance 0 .cancel]

/-- A chat request that arrives opens no lease. -/
theorem guarded_chatArrival (handlers : List Handler) (few : handlers.length < 3)
    {events : List (RouterEvent ℝ)}
    (rest : EventRun.Guarded (step chatLibraries) Serialised
      (twoSlot twoSlots (handlers ++ [chatRouted])) events) :
    EventRun.Guarded (step chatLibraries) Serialised (twoSlot twoSlots handlers)
      (chatArrival handlers.length ++ events) := by
  have read : (twoSlot twoSlots (handlers ++ [.arrived chatParts 0])).step chatLibraries
      (.advance handlers.length (.bodyRead (.ok (chatBytes "\x7b\x7d")))) =
      some (twoSlot twoSlots (handlers ++ [chatRouted])) :=
    step_bodyRead_chat ⟨rfl, rfl⟩ twoSlots handlers
  refine EventRun.guarded_cons (serialised_of_ne_open ?_ nofun) rfl
    (EventRun.guarded_cons (serialised_of_ne_open ?_ nofun) read rest)
  · exact few.trans (by norm_num)
  · rw [twoSlot, List.length_append]
    exact (Nat.add_lt_add_right few 1).trans (by norm_num)

theorem admission_ceiling_interleaved :
    ∃ state next, EventRun.run (step chatLibraries) (initial twoSlots twoSlotRouter)
        (chatArrival 0 ++ (chatArrival 1 ++ (chatArrival 2 ++ interleavedChats))) = some state ∧
      state.step chatLibraries (.advance 1 .openLease) = some next ∧
      next.leases.map CostLease.backend = [0, 1] ∧
      ((next.heap 0).live.kvProjectedTokens.toInt : ℚ) ≤
        (19 / 20 : ℚ) * (next.heap 0).caps.kvCapacityTokens.toNat ∧
      (next.heap 0).live.inflight ≤ (next.heap 0).caps.maxNumSeqs := by
  let routed := [chatRouted, chatRouted, chatRouted]
  let bothWaiting := twoSlot twoSlots [chatWaitingFor 0, chatRouted, chatWaitingFor 1]
  let bothOpen := (bothWaiting.openFor 0 0).openFor 2 1
  have firstPick : (twoSlot twoSlots routed).step chatLibraries (.advance 0 (.pick .first)) =
      some _ :=
    step_pick_twoSlot ⟨0⟩ rfl (by decide +kernel) rfl
  have lastPick : (twoSlot twoSlots [chatWaitingFor 0, chatRouted, chatRouted]).step chatLibraries
      (.advance 2 (.pick .last)) = some bothWaiting :=
    step_pick_twoSlot ⟨1⟩ rfl (by decide +kernel) rfl
  have middlePick : bothOpen.step chatLibraries (.advance 1 (.pick .first)) = some _ :=
    step_pick_twoSlot ⟨0⟩ rfl (by decide +kernel) rfl
  have interleaved : EventRun.run (step chatLibraries) (twoSlot twoSlots routed)
      interleavedChats = some _ :=
    EventRun.run_cons_eq_some.mpr ⟨_, firstPick, EventRun.run_cons_eq_some.mpr ⟨_, lastPick,
      EventRun.run_cons_eq_some.mpr ⟨_, rfl, EventRun.run_cons_eq_some.mpr ⟨_, rfl,
        EventRun.run_cons_eq_some.mpr ⟨_, middlePick, rfl⟩⟩⟩⟩⟩
  have executed : EventRun.run (step chatLibraries) (initial twoSlots twoSlotRouter)
      (chatArrival 0 ++ (chatArrival 1 ++ (chatArrival 2 ++ interleavedChats))) = some _ :=
    (run_chatArrival_append ⟨rfl, rfl⟩ twoSlots [] _).trans
      ((run_chatArrival_append ⟨rfl, rfl⟩ twoSlots [chatRouted] _).trans
        ((run_chatArrival_append ⟨rfl, rfl⟩ twoSlots [chatRouted, chatRouted] _).trans
          interleaved))
  have few {state : RouterRun ℝ} (three : state.handlers.length = 3) :
      state.handlers.length < 2 ^ 30 :=
    three.trans_lt (by norm_num)
  -- the other request that waits has been admitted to the other backend
  have allowed : EventRun.Guarded (step chatLibraries) Serialised (initial twoSlots twoSlotRouter)
      ((chatArrival 0 ++ (chatArrival 1 ++ (chatArrival 2 ++ interleavedChats))) ++
        [.advance 1 .openLease]) := by
    refine guarded_chatArrival [] (by norm_num)
      (guarded_chatArrival [chatRouted] (by norm_num)
        (guarded_chatArrival [chatRouted, chatRouted] (by norm_num) ?_))
    refine EventRun.guarded_cons (serialised_of_ne_open (few rfl) nofun) firstPick ?_
    refine EventRun.guarded_cons (serialised_of_ne_open (few rfl) nofun) lastPick ?_
    refine EventRun.guarded_cons (serialised_open (few rfl) rfl rfl (by decide)) rfl ?_
    refine EventRun.guarded_cons (serialised_open (few rfl) rfl rfl (by decide)) rfl ?_
    refine EventRun.guarded_cons (serialised_of_ne_open (few rfl) nofun) middlePick ?_
    refine EventRun.guarded_cons (serialised_of_ne_open (few rfl) nofun) rfl ?_
    refine EventRun.guarded_cons (serialised_of_ne_open (few rfl) nofun) rfl ?_
    exact EventRun.guarded_cons (serialised_open (few rfl) rfl rfl (by decide)) rfl trivial
  refine ⟨_, _, executed, rfl, rfl, ?_⟩
  exact admission_ceiling_of_serialised chatLibraries rfl rfl (by norm_num) (by norm_num)
    (fun _ => rfl) rfl rfl allowed executed rfl rfl rfl

end RouterRun

end KeelRouter
