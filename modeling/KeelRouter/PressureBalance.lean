import KeelRouter.GreedyBalance
import KeelRouter.LeaseGrowth
import KeelRouter.OccupancyIncrement
import KeelRouter.PressureArgmin

/-!
# Balance of pressure routing

Requests are dispatched one after the other from idle backends, and nothing is
released.  A dispatch raises one backend by at most its share of that backend.
A backend it was compared with was no emptier; one that the gate left out is
either out of slots or within one request's share of the fraction `sigma`,
while the chosen one stays within its own capacities.  Hence the occupancies
stay close together for as long as no counter wraps around.
-/

namespace KeelRouter

/-! ## One dispatch -/

def healthyRefs (snap : Snapshot) : Set BackendRef :=
  { ref | ∃ id ∈ snap.healthy, snap.refOf id = ref }

section Raise

variable {strategy : Pressure} {heap : Heap} {snap : Snapshot} {state : LeaseState}
  {req : RequestFeatures} {now : Instant} {id other : BackendId} {sigma delta : ℚ}

def Pressure.dispatched (strategy : Pressure) (snap : Snapshot) (state : LeaseState)
    (req : RequestFeatures) (now : Instant) (id : BackendId) : LeaseState :=
  state.openLease (snap.refOf id) req.promptTokens req.expectedOutputTokens
    strategy.kvModel now

/-- Where the gate admitted the chosen backend and refused another, the chosen
one ends within its capacities and the other is near the gate's limit. -/
theorem fair_of_refused (sigmaEq : strategy.sigma = .finite sigma) (sigmaNonneg : 0 ≤ sigma)
    (sigmaLe : sigma ≤ 1) (dispatching : state.Dispatching heap snap)
    (positive : (heap (snap.refOf other)).caps.Positive)
    (unwrapped : (strategy.dispatched snap state req now id).Unwrapped)
    (admitted : admits (state.heap (snap.refOf id)) (strategy.needKv req) strategy.sigma = true)
    (refused : ¬ admits (state.heap (snap.refOf other)) (strategy.needKv req)
      strategy.sigma = true)
    (bounded : increment (state.heap (snap.refOf other)) (strategy.needKv req) ≤ delta) :
    (strategy.dispatched snap state req now id).load (snap.refOf id) -
      state.load (snap.refOf other) ≤ delta + (1 - sigma) := by
  rw [sigmaEq] at admitted refused
  have before := LeaseState.unwrapped_of_openLease unwrapped
  have needNonneg : 0 ≤ (strategy.needKv req).toInt :=
    strategy.kvModel.project_nonneg req.promptTokens req.expectedOutputTokens
  obtain ⟨slots, tokens⟩ := LeaseState.counters_openLease dispatching unwrapped
  have sameCaps : ((strategy.dispatched snap state req now id).heap (snap.refOf id)).caps =
      (state.heap (snap.refOf id)).caps :=
    CostLease.open_caps state.heap _ _ _ _ strategy.kvModel now
  have tokensExact : ((strategy.dispatched snap state req now id).heap
      (snap.refOf id)).live.kvProjectedTokens =
        (state.heap (snap.refOf id)).live.kvProjectedTokens + strategy.needKv req := by
    rw [Pressure.dispatched, LeaseState.openLease, CostLease.open_live]
    simp [Pressure.needKv]
  have raised := dispatching.openLease (snap.refOf id) req.promptTokens
    req.expectedOutputTokens strategy.kvModel now
  have within : (strategy.dispatched snap state req now id).load (snap.refOf id) ≤ 1 :=
    occupancyRatio_le_one sigmaNonneg sigmaLe admitted sameCaps slots tokensExact
      (raised.kvProjectedTokens_nonneg unwrapped _)
  have nearLimit : sigma - increment (state.heap (snap.refOf other)) (strategy.needKv req) ≤
      state.load (snap.refOf other) := by
    rw [← dispatching.caps] at positive
    exact le_occupancyRatio_of_refused positive sigmaNonneg sigmaLe
      (dispatching.kvProjectedTokens_nonneg before _) needNonneg refused
  linarith

theorem raise_of_leastOccupied (sigmaEq : strategy.sigma = .finite sigma)
    (sigmaNonneg : 0 ≤ sigma) (sigmaLe : sigma ≤ 1) (dispatching : state.Dispatching heap snap)
    (indexed : snap.Indexed) (positive : snap.Positive heap)
    (unwrapped : (strategy.dispatched snap state req now id).Unwrapped)
    (least : id ∈ strategy.leastOccupied state.heap snap req)
    (bounded : ∀ other ∈ snap.healthy,
      increment (heap (snap.refOf other)) (strategy.needKv req) ≤ delta) :
    GreedyBalance.Raise (healthyRefs snap) (delta + (1 - sigma)) state.load
      (strategy.dispatched snap state req now id).load (snap.refOf id) := by
  have before := LeaseState.unwrapped_of_openLease unwrapped
  have needNonneg : 0 ≤ (strategy.needKv req).toInt :=
    strategy.kvModel.project_nonneg req.promptTokens req.expectedOutputTokens
  have boundedNow : ∀ other ∈ snap.healthy,
      increment (state.heap (snap.refOf other)) (strategy.needKv req) ≤ delta := by
    intro other healthy
    rw [increment, dispatching.caps]
    exact bounded other healthy
  obtain ⟨inPool, smallest⟩ := TieScan.mem_minimal.mp least
  have healthy := Pressure.mem_healthy_of_mem_pool inPool
  obtain ⟨slots, tokens⟩ := LeaseState.counters_openLease dispatching unwrapped
  obtain ⟨grows, atMost⟩ := occupancyRatio_raised
    (dispatching.kvProjectedTokens_nonneg before _) needNonneg
    (CostLease.open_caps state.heap _ _ _ _ strategy.kvModel now) slots tokens
  refine ⟨grows, fun other different => LeaseState.load_openLease_of_ne different, ?_⟩
  rintro ref ⟨other, otherHealthy, rfl⟩ -
  by_cases compared : other ∈ strategy.pool state.heap snap req
  · have noEmptier : state.load (snap.refOf id) ≤ state.load (snap.refOf other) :=
      smallest other compared
    have raisedAtMost : (strategy.dispatched snap state req now id).load (snap.refOf id) ≤
        state.load (snap.refOf id) + delta :=
      atMost.trans (add_le_add le_rfl (boundedNow id healthy))
    linarith
  · -- only the gate leaves a healthy backend out of the pool
    unfold Pressure.pool at compared inPool
    by_cases noneAdmitted : (strategy.admitted state.heap snap req).isEmpty
    · rw [if_pos noneAdmitted] at compared
      exact absurd otherHealthy compared
    · rw [if_neg noneAdmitted] at compared inPool
      have refused : ¬ admits (state.heap (snap.refOf other)) (strategy.needKv req)
          strategy.sigma = true := by
        intro alsoAdmitted
        exact compared (Pressure.mem_admitted.mpr ⟨otherHealthy, alsoAdmitted⟩)
      exact fair_of_refused sigmaEq sigmaNonneg sigmaLe dispatching
        (positive _ (Snapshot.refOf_mem indexed otherHealthy)) unwrapped
        (Pressure.mem_admitted.mp inPool).2 refused (boundedNow other otherHealthy)

end Raise

/-! ## Runs of dispatches -/

/-- A request as it is dispatched: its features, the draw and the time. -/
structure Dispatch where
  req : RequestFeatures
  rng : SmallRng
  now : Instant

namespace DispatchState

def initial (heap : Heap) (snap : Snapshot) : DispatchState where
  leases := .initial heap snap
  decisions := []

def dispatchAll (strategy : Pressure) (state : DispatchState)
    (dispatches : List Dispatch) : Option DispatchState :=
  EventRun.run (step strategy) state
    (dispatches.map fun dispatch => .dispatch dispatch.req dispatch.rng dispatch.now)

theorem dispatchAll_append_singleton {strategy : Pressure} {state middle : DispatchState}
    {dispatches : List Dispatch}
    (executed : dispatchAll strategy state dispatches = some middle) (dispatch : Dispatch) :
    dispatchAll strategy state (dispatches ++ [dispatch]) =
      (middle.dispatch strategy dispatch.req dispatch.rng dispatch.now).toOption := by
  unfold dispatchAll at executed ⊢
  rw [List.map_append, List.map_singleton, EventRun.run_append_singleton, executed]
  rfl

/-- A dispatch draws from the least occupied backends and opens a lease on the
one it draws; it opens nothing when no backend is healthy. -/
theorem dispatch_eq_ok {strategy : Pressure} (inRange : strategy.InRange) {heap : Heap}
    {snap : Snapshot} {state : DispatchState} (dispatching : state.leases.Dispatching heap snap)
    (indexed : snap.Indexed) (positive : snap.Positive heap) (req : RequestFeatures)
    (rng : SmallRng) (now : Instant) :
    state.dispatch strategy req rng now = .ok
      (match rng.choose (strategy.leastOccupied state.leases.heap snap req) with
      | none => { state with decisions := state.decisions ++ [none] }
      | some id => {
          leases := strategy.dispatched snap state.leases req now id
          decisions := state.decisions ++ [some id] }) := by
  obtain rfl := dispatching.snapshot
  have positiveNow : state.Positive := by
    intro ref member
    rw [dispatching.caps]
    exact positive ref member
  rw [dispatch_eq_bind_chosen, Pressure.pick_chosen_eq inRange indexed positiveNow]
  cases drawn : rng.choose (strategy.leastOccupied state.leases.heap
      state.leases.snapshot req) with
  | none => rfl
  | some id =>
      have least := SmallRng.choose_mem drawn
      have healthy := Pressure.mem_healthy_of_mem_pool (TieScan.mem_minimal.mp least).1
      change (state.leases.snapshot.backendRef id >>= _) = _
      rw [Snapshot.backendRef_eq_ok indexed healthy]
      rfl

/-- A run of dispatches never gets stuck, and as long as nothing has wrapped
the loads stay within one increment and the slack of the gate. -/
theorem dispatchAll_spread {strategy : Pressure} (inRange : strategy.InRange) {sigma : ℚ}
    (sigmaEq : strategy.sigma = .finite sigma) (sigmaNonneg : 0 ≤ sigma) (sigmaLe : sigma ≤ 1)
    {heap : Heap} (fresh : ∀ ref, (heap ref).live = .default) {snap : Snapshot}
    (indexed : snap.Indexed) (positive : snap.Positive heap) {delta : ℚ}
    (deltaNonneg : 0 ≤ delta) (dispatches : List Dispatch)
    (bounded : ∀ id ∈ snap.healthy, ∀ dispatch ∈ dispatches,
      increment (heap (snap.refOf id)) (strategy.needKv dispatch.req) ≤ delta) :
    ∃ state, dispatchAll strategy (initial heap snap) dispatches = some state ∧
      state.leases.Dispatching heap snap ∧
      state.leases.leases.length ≤ dispatches.length ∧
      (state.leases.Unwrapped →
        GreedyBalance.Spread (healthyRefs snap) (delta + (1 - sigma)) state.leases.load) := by
  have boundNonneg : 0 ≤ delta + (1 - sigma) := by linarith
  induction dispatches using List.reverseRecOn with
  | nil =>
      refine ⟨initial heap snap, rfl, LeaseState.dispatching_initial fresh snap, le_rfl,
        fun _ => ?_⟩
      apply GreedyBalance.Spread.of_const 0 boundNonneg
      intro ref _
      simp [LeaseState.load, initial, LeaseState.initial, occupancyRatio, fresh,
        LiveCounters.default]
  | append_singleton dispatches dispatch ih =>
      obtain ⟨state, executed, dispatching, fewer, spread⟩ := ih fun id healthy other earlier =>
        bounded id healthy other (List.mem_append_left _ earlier)
      have boundedNow : ∀ other ∈ snap.healthy,
          increment (heap (snap.refOf other)) (strategy.needKv dispatch.req) ≤ delta :=
        fun other healthy => bounded other healthy dispatch (by simp)
      rw [dispatchAll_append_singleton executed,
        dispatch_eq_ok inRange dispatching indexed positive, List.length_append,
        List.length_singleton]
      cases drawn : dispatch.rng.choose
          (strategy.leastOccupied state.leases.heap snap dispatch.req) with
      | none => exact ⟨_, rfl, dispatching, fewer.trans (Nat.le_succ _), spread⟩
      | some id =>
          have least := SmallRng.choose_mem drawn
          refine ⟨_, rfl, dispatching.openLease _ _ _ _ _, Nat.succ_le_succ fewer,
            fun unwrapped => ?_⟩
          have before := LeaseState.unwrapped_of_openLease unwrapped
          exact (spread before).raise boundNonneg
            (raise_of_leastOccupied sigmaEq sigmaNonneg sigmaLe dispatching indexed positive
              unwrapped least boundedNow)

def twinHeap : Heap := fun ref =>
  Backend.fresh ⟨UInt16.ofNat ref⟩ "http://x" "m" 1 ⟨4294967295, 1⟩

def twinSnapshot : Snapshot := ⟨0, [0, 1], [⟨0⟩, ⟨1⟩], []⟩

def twinStrategy : Pressure := ⟨defaultTheta, defaultPenalty, .finite 1, .promptOnly⟩

def tokenDispatch : Dispatch :=
  ⟨⟨"m", 1, true, 0, none, none, true, 0⟩, .first, 0⟩

theorem twinStrategy_inRange : twinStrategy.InRange :=
  ⟨11 / 20, 10, rfl, rfl, by norm_num, by norm_num, by norm_num⟩

theorem twinSnapshot_positive : twinSnapshot.Positive twinHeap := by
  intro ref _
  change CapsEstimate.Positive ⟨4294967295, 1⟩
  decide

/-- Greedy pressure routing from idle backends: after any sequence of dispatches
in which no counter has wrapped around, any two healthy backends differ in
occupancy by at most the largest increment plus the slack of the gate.  Fewer
than `2 ^ 30` dispatches never wrap a counter. -/
theorem pressure_balance {strategy : Pressure} (inRange : strategy.InRange) {sigma : ℚ}
    (sigmaEq : strategy.sigma = .finite sigma) (sigmaPos : 0 < sigma) (sigmaLe : sigma ≤ 1)
    {heap : Heap} (fresh : ∀ ref, (heap ref).live = .default) {snap : Snapshot}
    (indexed : snap.Indexed) (positive : snap.Positive heap) (dispatches : List Dispatch) :
    ∃ state, dispatchAll strategy (initial heap snap) dispatches = some state ∧
      (dispatches.length < 2 ^ 30 → state.leases.Unwrapped) ∧
      (state.leases.Unwrapped →
        ∀ first ∈ snap.healthy, ∀ second ∈ snap.healthy,
          occupancyRatio (state.leases.heap (snap.refOf first)) -
              occupancyRatio (state.leases.heap (snap.refOf second)) ≤
            largestIncrement strategy heap snap (dispatches.map Dispatch.req) +
              (1 - sigma)) := by
  obtain ⟨deltaNonneg, bounded⟩ := largestIncrement_le_iff.mp
    (le_refl (largestIncrement strategy heap snap (dispatches.map Dispatch.req)))
  obtain ⟨state, executed, dispatching, fewer, spread⟩ := dispatchAll_spread inRange sigmaEq sigmaPos.le sigmaLe
    fresh indexed positive deltaNonneg dispatches fun id healthy dispatch member =>
      bounded id healthy dispatch.req (List.mem_map_of_mem member)
  refine ⟨state, executed, ?_, ?_⟩
  · intro few
    exact dispatching.unwrapped_of_length_lt (lt_of_le_of_lt fewer few)
  intro unwrapped first firstMem second secondMem
  exact spread unwrapped _ ⟨first, firstMem, rfl⟩ _ ⟨second, secondMem, rfl⟩

theorem pressure_balance_three_tokens :
    ∃ state, dispatchAll twinStrategy (initial twinHeap twinSnapshot)
        (List.replicate 3 tokenDispatch) = some state ∧
      ∀ first ∈ twinSnapshot.healthy, ∀ second ∈ twinSnapshot.healthy,
        occupancyRatio (state.leases.heap (twinSnapshot.refOf first)) -
            occupancyRatio (state.leases.heap (twinSnapshot.refOf second)) ≤
          largestIncrement twinStrategy twinHeap twinSnapshot
            ((List.replicate 3 tokenDispatch).map Dispatch.req) + (1 - 1) := by
  obtain ⟨state, executed, few, bound⟩ := pressure_balance twinStrategy_inRange rfl zero_lt_one
    le_rfl (fun _ => rfl) (by decide) twinSnapshot_positive (List.replicate 3 tokenDispatch)
  exact ⟨state, executed, bound (few (by decide))⟩

/-! ## A run that wraps a counter -/

section Twin

variable {b : Backend} {count : Nat} (caps : b.caps = ⟨4294967295, 1⟩)
  (live : b.live = ⟨UInt32.ofNat count, Int64.ofNat count⟩) (small : count < 2 ^ 32)

include caps live small

theorem occupancyRatio_twin : occupancyRatio b = count := by
  have tokens : b.live.kvProjectedTokens.toInt = count := by
    rw [live]
    exact Int64.toInt_ofNat_of_lt (by omega)
  have slots : b.live.inflight.toNat = count := by
    rw [live]
    exact UInt32.toNat_ofNat_of_lt' small
  rw [occupancyRatio_eq_max (by omega), tokens, slots, caps]
  change max ((count : ℚ) / (1 : ℕ)) ((count : ℤ) / (4294967295 : ℕ)) = count
  rw [Nat.cast_one, div_one, Int.cast_natCast]
  exact max_eq_left (div_le_self (by positivity) (by norm_num))

theorem admits_twin :
    admits b (twinStrategy.needKv tokenDispatch.req) twinStrategy.sigma =
      decide (count = 0) := by
  rw [Bool.eq_iff_iff, decide_eq_true_iff]
  change admits b 1 (.finite 1) = true ↔ count = 0
  rw [admits_iff zero_le_one le_rfl, live, caps]
  constructor
  · rintro ⟨-, slotFree⟩
    rw [UInt32.toNat_ofNat_of_lt' small] at slotFree
    exact Nat.lt_one_iff.mp slotFree
  · rintro rfl
    refine ⟨?_, by decide⟩
    change ((1 : ℤ) : ℚ) ≤ 1 * (4294967295 : ℕ)
    norm_num

end Twin

/-- Level backends tie; the one that is ahead is left out. -/
theorem leastOccupied_twin {state : LeaseState} {first second : Nat}
    (dispatching : state.Dispatching twinHeap twinSnapshot)
    (firstLive : (state.heap 0).live = ⟨UInt32.ofNat first, Int64.ofNat first⟩)
    (secondLive : (state.heap 1).live = ⟨UInt32.ofNat second, Int64.ofNat second⟩)
    (firstSmall : first < 2 ^ 32) (step : first = second ∨ first = second + 1) :
    twinStrategy.leastOccupied state.heap twinSnapshot tokenDispatch.req =
      if first = second then [⟨0⟩, ⟨1⟩] else [⟨1⟩] := by
  have secondSmall : second < 2 ^ 32 := by omega
  have firstLoad := occupancyRatio_twin (dispatching.caps 0) firstLive firstSmall
  have secondLoad := occupancyRatio_twin (dispatching.caps 1) secondLive secondSmall
  have firstAdmits := admits_twin (dispatching.caps 0) firstLive firstSmall
  have secondAdmits := admits_twin (dispatching.caps 1) secondLive secondSmall
  have firstRef : twinSnapshot.refOf ⟨0⟩ = 0 := rfl
  have secondRef : twinSnapshot.refOf ⟨1⟩ = 1 := rfl
  have healthy : twinSnapshot.healthy = [⟨0⟩, ⟨1⟩] := rfl
  unfold Pressure.leastOccupied Pressure.pool Pressure.admitted
  simp only [healthy, List.filter_cons, List.filter_nil, firstRef, secondRef, firstAdmits,
    secondAdmits]
  rcases step with rfl | rfl
  · -- the gate treats level backends alike, so both are compared
    by_cases idle : first = 0 <;>
      simp [idle, TieScan.minimal, firstRef, secondRef, firstLoad, secondLoad]
  · by_cases idle : second = 0 <;>
      simp [idle, TieScan.minimal, firstRef, secondRef, firstLoad, secondLoad]

theorem dispatched_twin_live {state : LeaseState} {id : BackendId} {ref : BackendRef}
    {count : Nat}
    (live : (state.heap ref).live = ⟨UInt32.ofNat count, Int64.ofNat count⟩) :
    ((twinStrategy.dispatched twinSnapshot state tokenDispatch.req tokenDispatch.now id).heap
        ref).live =
      if twinSnapshot.refOf id = ref then
        ⟨UInt32.ofNat (count + 1), Int64.ofNat (count + 1)⟩
      else ⟨UInt32.ofNat count, Int64.ofNat count⟩ := by
  rw [Pressure.dispatched, LeaseState.openLease, CostLease.open_live, live]
  split
  · rw [UInt32.ofNat_add, Int64.ofNat_add]
    rfl
  · rw [add_zero, add_zero]

/-- The two backends take turns, so that they differ by at most one request in
the exact count. -/
theorem dispatchAll_twin (count : Nat) (small : count < 2 ^ 33) :
    ∃ state, dispatchAll twinStrategy (initial twinHeap twinSnapshot)
        (List.replicate count tokenDispatch) = some state ∧
      state.leases.Dispatching twinHeap twinSnapshot ∧
      (state.leases.heap 0).live =
        ⟨UInt32.ofNat ((count + 1) / 2), Int64.ofNat ((count + 1) / 2)⟩ ∧
      (state.leases.heap 1).live = ⟨UInt32.ofNat (count / 2), Int64.ofNat (count / 2)⟩ := by
  induction count with
  | zero =>
      exact ⟨_, rfl, LeaseState.dispatching_initial (fun _ => rfl) twinSnapshot, rfl, rfl⟩
  | succ count ih =>
      obtain ⟨state, executed, dispatching, firstLive, secondLive⟩ := ih (by omega)
      have ties := leastOccupied_twin dispatching firstLive secondLive (by omega) (by omega)
      have stepped := dispatch_eq_ok twinStrategy_inRange dispatching (by decide)
        twinSnapshot_positive tokenDispatch.req tokenDispatch.rng tokenDispatch.now
      rw [List.replicate_succ', dispatchAll_append_singleton executed, stepped, ties]
      have firstRef : twinSnapshot.refOf ⟨0⟩ = 0 := rfl
      have secondRef : twinSnapshot.refOf ⟨1⟩ = 1 := rfl
      have drawnLevel : tokenDispatch.rng.choose ([⟨0⟩, ⟨1⟩] : List BackendId) = some ⟨0⟩ := rfl
      have drawnAhead : tokenDispatch.rng.choose ([⟨1⟩] : List BackendId) = some ⟨1⟩ := rfl
      by_cases level : (count + 1) / 2 = count / 2
      · rw [if_pos level, drawnLevel]
        refine ⟨_, rfl, dispatching.openLease _ _ _ _ _, ?_, ?_⟩
        · refine (dispatched_twin_live firstLive).trans ?_
          rw [firstRef, if_pos rfl, show (count + 1 + 1) / 2 = (count + 1) / 2 + 1 by omega]
        · refine (dispatched_twin_live secondLive).trans ?_
          rw [firstRef, if_neg (by decide), level]
      · rw [if_neg level, drawnAhead]
        refine ⟨_, rfl, dispatching.openLease _ _ _ _ _, ?_, ?_⟩
        · refine (dispatched_twin_live firstLive).trans ?_
          rw [secondRef, if_neg (by decide),
            show (count + 1 + 1) / 2 = (count + 1) / 2 by omega]
        · refine (dispatched_twin_live secondLive).trans ?_
          rw [secondRef, if_pos rfl, show (count + 1) / 2 = count / 2 + 1 by omega]

/-- After `2 ^ 33 - 1` dispatches the first backend's slot counter has come
round to zero while the second one's is at its largest value. -/
theorem pressure_imbalance_after_wrap :
    twinStrategy.InRange ∧ twinSnapshot.Indexed ∧ twinSnapshot.Positive twinHeap ∧
    (∀ ref, (twinHeap ref).live = .default) ∧
    ∃ state, dispatchAll twinStrategy (initial twinHeap twinSnapshot)
        (List.replicate (2 ^ 33 - 1) tokenDispatch) = some state ∧
      largestIncrement twinStrategy twinHeap twinSnapshot
          ((List.replicate (2 ^ 33 - 1) tokenDispatch).map Dispatch.req) + (1 - 1) <
        occupancyRatio (state.leases.heap (twinSnapshot.refOf ⟨1⟩)) -
          occupancyRatio (state.leases.heap (twinSnapshot.refOf ⟨0⟩)) := by
  refine ⟨twinStrategy_inRange, by decide, twinSnapshot_positive, fun _ => rfl, ?_⟩
  obtain ⟨state, executed, dispatching, firstLive, secondLive⟩ :=
    dispatchAll_twin (2 ^ 33 - 1) (by omega)
  refine ⟨state, executed, ?_⟩
  have wrapped : (state.leases.heap 0).live = ⟨0, 4294967296⟩ := firstLive
  have largest : (state.leases.heap 1).live =
      ⟨UInt32.ofNat 4294967295, Int64.ofNat 4294967295⟩ := secondLive
  have firstLoad : occupancyRatio (state.leases.heap (twinSnapshot.refOf ⟨0⟩)) ≤ 2 := by
    change occupancyRatio (state.leases.heap 0) ≤ 2
    rw [occupancyRatio, wrapped, dispatching.caps 0]
    change max ((0 : ℕ) / (1 : ℕ) : ℚ) ((max 4294967296 0 : ℤ) / (4294967295 : ℕ)) ≤ 2
    norm_num
  have secondLoad : occupancyRatio (state.leases.heap (twinSnapshot.refOf ⟨1⟩)) =
      (4294967295 : ℕ) :=
    occupancyRatio_twin (dispatching.caps 1) largest (by norm_num)
  have atMostOne : largestIncrement twinStrategy twinHeap twinSnapshot
      ((List.replicate (2 ^ 33 - 1) tokenDispatch).map Dispatch.req) ≤ 1 := by
    rw [largestIncrement_le_iff]
    refine ⟨zero_le_one, ?_⟩
    intro id _ req member
    obtain ⟨dispatch, replicated, rfl⟩ := List.mem_map.mp member
    obtain rfl := List.eq_of_mem_replicate replicated
    change max (1 / (1 : ℕ) : ℚ) ((1 : ℤ) / (4294967295 : ℕ)) ≤ 1
    norm_num
  calc
    _ ≤ 1 + (1 - 1) := add_le_add atMostOne le_rfl
    _ < (4294967295 : ℕ) - 2 := by norm_num
    _ ≤ _ := by
      rw [secondLoad]
      exact sub_le_sub_left firstLoad _

end DispatchState

end KeelRouter
