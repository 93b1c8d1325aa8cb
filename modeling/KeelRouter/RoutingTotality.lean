import KeelRouter.ConfigRanking

/-!
# Routing never refuses a request

The four baseline strategies pick a healthy backend whenever there is one.  The
pressure strategy compares scores, and a score that is not a number compares
with nothing, so it picks one exactly when some backend of its pool has a score
that is a number.  Validation lets penalties through for which a loaded backend
has none.
-/

namespace KeelRouter

/-- The pick returns one of the healthy backends. -/
def PicksHealthy (snap : Snapshot) (returned : Outcome Picked) : Prop :=
  ∃ picked id, returned = .ok picked ∧ picked.chosen = some id ∧ id ∈ snap.healthy

section Baselines

variable {snap : Snapshot} (indexed : snap.Indexed) (nonempty : snap.healthy ≠ [])
  (heap : Heap) (req : RequestFeatures) (rng : SmallRng) (trace : Option DecisionTrace)
include indexed

theorem recordPick_total (strategy : String) (chosen : Option BackendId) :
    ∃ picked, recordPick trace strategy heap snap req chosen = .ok picked := by
  have listed : ∃ candidates, snap.healthy.mapM (unscoredCandidate heap snap) =
      .ok candidates := by
    apply Outcome.exists_mapM_eq_ok
    intro id member
    unfold unscoredCandidate
    rw [Snapshot.backend_eq_ok indexed heap member]
    exact ⟨_, rfl⟩
  cases trace with
  | none => exact ⟨_, rfl⟩
  | some trace =>
      obtain ⟨candidates, listed⟩ := listed
      unfold recordPick
      rw [listed]
      exact ⟨_, rfl⟩

theorem picksHealthy_recordPick {id : BackendId} (member : id ∈ snap.healthy)
    (strategy : String) :
    PicksHealthy snap (recordPick trace strategy heap snap req (some id)) := by
  obtain ⟨picked, recorded⟩ := recordPick_total indexed heap req trace strategy (some id)
  exact ⟨picked, id, recorded, recordPick_chosen recorded, member⟩

/-- A draw among the ties of a scan that starts at a score nobody loses to. -/
theorem picksHealthy_scan {Score : Type} {partialCmp : Score → Score → Option Ordering}
    {score : BackendId → Score} {start : Score} (nonempty : snap.healthy ≠ [])
    (reaches : ∀ id, partialCmp (score id) start = some .lt ∨
      partialCmp (score id) start = some .eq) (strategy : String) :
    PicksHealthy snap (recordPick trace strategy heap snap req (rng.choose
      (snap.healthy.foldl (TieScan.step partialCmp score) (start, [])).2)) := by
  have tied : (snap.healthy.foldl (TieScan.step partialCmp score) (start, [])).2 ≠ [] := by
    rw [Ne, TieScan.scan_eq_nil_iff]
    intro loses
    obtain ⟨id, member⟩ := List.exists_mem_of_ne_nil _ nonempty
    obtain ⟨notLess, notEqual⟩ := loses id member
    rcases reaches id with less | equal
    · exact notLess less
    · exact notEqual equal
  obtain ⟨id, member, chosen⟩ := rng.exists_choose tied
  rw [chosen]
  exact picksHealthy_recordPick indexed heap req trace (TieScan.mem_of_mem_scan member) strategy

include nonempty

theorem LeastRequests.picksHealthy :
    PicksHealthy snap (LeastRequests.pick heap snap req rng trace) := by
  have notEmpty : ¬ snap.healthy.isEmpty := by simpa using nonempty
  have reaches (n : UInt32) : some (compare n 4294967295) = some Ordering.lt ∨
      some (compare n 4294967295) = some Ordering.eq := by
    rcases compare_start n with less | rfl
    · exact .inl (congrArg some less)
    · exact .inr rfl
  unfold LeastRequests.pick
  rw [if_neg notEmpty, scan_eq_ok indexed]
  exact picksHealthy_scan indexed heap req rng trace nonempty (fun id => reaches _) name

theorem LeastKvts.picksHealthy :
    PicksHealthy snap (LeastKvts.pick heap snap req rng trace) := by
  have notEmpty : ¬ snap.healthy.isEmpty := by simpa using nonempty
  unfold LeastKvts.pick
  rw [if_neg notEmpty, scan_eq_ok indexed]
  exact picksHealthy_scan indexed heap req rng trace nonempty (fun id => .inl rfl) name

theorem P2c.picksHealthy : PicksHealthy snap (P2c.pick heap snap req rng trace) := by
  have compared {a b : BackendId} (aMem : a ∈ snap.healthy) (bMem : b ∈ snap.healthy) :
      lessLoaded heap snap a b = .ok a ∨ lessLoaded heap snap a b = .ok b := by
    unfold lessLoaded
    rw [Snapshot.backend_eq_ok indexed heap aMem, Snapshot.backend_eq_ok indexed heap bMem]
    change Except.ok (if _ then a else b) = _ ∨ Except.ok (if _ then a else b) = _
    split
    · exact .inl rfl
    · exact .inr rfl
  unfold P2c.pick
  split
  · contradiction
  · rename_i id listed
    exact picksHealthy_recordPick indexed heap req trace (by simp [listed]) name
  · rename_i first second rest listed
    have inside (position : Fin (rest.length + 2)) :
        (first :: second :: rest).get position ∈ snap.healthy := by
      rw [listed]
      exact List.get_mem _ _
    dsimp only
    rcases compared (inside (rng.samplePair rest.length).val.1)
      (inside (rng.samplePair rest.length).val.2) with less | more
    · rw [less]
      exact picksHealthy_recordPick indexed heap req trace (inside _) name
    · rw [more]
      exact picksHealthy_recordPick indexed heap req trace (inside _) name

theorem RoundRobin.picksHealthy (next : UInt64) :
    PicksHealthy snap ((RoundRobin.pick next heap snap req trace).map Prod.fst) := by
  have notEmpty : ¬ snap.healthy.isEmpty := by simpa using nonempty
  have inside : next.toNat % snap.healthy.length < snap.healthy.length :=
    Nat.mod_lt _ (List.length_pos_of_ne_nil nonempty)
  obtain ⟨picked, id, recorded, chosen, member⟩ := picksHealthy_recordPick indexed heap req trace
    (List.getElem_mem inside) name
  refine ⟨picked, id, ?_, chosen, member⟩
  unfold RoundRobin.pick
  rw [if_neg notEmpty]
  dsimp only
  rw [Outcome.index_eq_ok (List.getElem?_eq_getElem inside)]
  change (recordPick _ _ _ _ _ _ >>= _).map Prod.fst = _
  rw [recorded]
  rfl

end Baselines

/-- On a snapshot whose healthy ids are in range no pick panics, and what it
returns is healthy. -/
theorem RoutingStrategy.pick_spec {snap : Snapshot} (indexed : snap.Indexed)
    (strategy : RoutingStrategy) (heap : Heap) (req : RequestFeatures) (rng : SmallRng)
    (trace : Option DecisionTrace) :
    ∃ picked, (strategy.pick heap snap req rng trace).map Prod.fst = .ok picked ∧
      ∀ id, picked.chosen = some id → id ∈ snap.healthy := by
  rw [pick_map_fst]
  by_cases empty : snap.healthy = []
  · have recorded (named : String) : ∃ picked,
        recordPick trace named heap snap req none = .ok picked ∧
          ∀ id, picked.chosen = some id → id ∈ snap.healthy := by
      obtain ⟨picked, recorded⟩ := recordPick_total indexed heap req trace named none
      refine ⟨picked, recorded, ?_⟩
      intro id chosen
      rw [recordPick_chosen recorded] at chosen
      cases chosen
    cases strategy with
    | roundRobin next =>
        obtain ⟨picked, recorded, healthy⟩ := recorded RoundRobin.name
        refine ⟨picked, ?_, healthy⟩
        simp only [RoundRobin.pick, empty, List.isEmpty_nil, if_true, recorded]
        rfl
    | p2c =>
        obtain ⟨picked, recorded, healthy⟩ := recorded P2c.name
        refine ⟨picked, ?_, healthy⟩
        simp only [P2c.pick, empty]
        exact recorded
    | leastRequests =>
        obtain ⟨picked, recorded, healthy⟩ := recorded LeastRequests.name
        exact ⟨picked, (if_pos (by simp [empty])).trans recorded, healthy⟩
    | leastKvts =>
        obtain ⟨picked, recorded, healthy⟩ := recorded LeastKvts.name
        exact ⟨picked, (if_pos (by simp [empty])).trans recorded, healthy⟩
    | pressure self =>
        exact ⟨_, if_pos (by simp [empty]), fun id chosen => by cases chosen⟩
  · have healthy {returned : Outcome Picked} (picks : PicksHealthy snap returned) :
        ∃ picked, returned = .ok picked ∧ ∀ id, picked.chosen = some id → id ∈ snap.healthy := by
      obtain ⟨picked, id, same, chosen, member⟩ := picks
      refine ⟨picked, same, ?_⟩
      intro other otherChosen
      obtain rfl := Option.some.inj (chosen.symm.trans otherChosen)
      exact member
    cases strategy with
    | roundRobin next => exact healthy (RoundRobin.picksHealthy indexed empty heap req trace next)
    | p2c => exact healthy (P2c.picksHealthy indexed empty heap req rng trace)
    | leastRequests => exact healthy (LeastRequests.picksHealthy indexed empty heap req rng trace)
    | leastKvts => exact healthy (LeastKvts.picksHealthy indexed empty heap req rng trace)
    | pressure self =>
        refine ⟨_, Pressure.pick_eq_ok indexed empty
          (Pressure.scan_eq_ok self heap req indexed) rng trace, ?_⟩
        intro id chosen
        exact Pressure.mem_healthy_of_mem_pool
          (TieScan.mem_of_mem_scan (SmallRng.choose_mem chosen))

theorem RoutingStrategy.pick_total {snap : Snapshot} (indexed : snap.Indexed)
    (strategy : RoutingStrategy) (heap : Heap) (req : RequestFeatures) (rng : SmallRng)
    (trace : Option DecisionTrace) :
    ∃ result, strategy.pick heap snap req rng trace = .ok result := by
  obtain ⟨picked, mapped, -⟩ := strategy.pick_spec indexed heap req rng trace
  cases returned : strategy.pick heap snap req rng trace with
  | error panic =>
      rw [returned] at mapped
      cases mapped
  | ok result => exact ⟨result, rfl⟩

theorem RoutingStrategy.chosen_mem_healthy {snap : Snapshot} (indexed : snap.Indexed)
    {strategy after : RoutingStrategy} {heap : Heap} {req : RequestFeatures} {rng : SmallRng}
    {trace : Option DecisionTrace} {picked : Picked} {id : BackendId}
    (returned : strategy.pick heap snap req rng trace = .ok (picked, after))
    (chosen : picked.chosen = some id) : id ∈ snap.healthy := by
  obtain ⟨other, mapped, healthy⟩ := strategy.pick_spec indexed heap req rng trace
  rw [returned] at mapped
  obtain rfl : picked = other := Except.ok.inj mapped
  exact healthy id chosen

/-! ## Scores that are numbers -/

/-- At occupancy `u` the score is a number. -/
def Pressure.Ranks (self : Pressure) (u : ExactFloat) : Prop :=
  u < self.theta ∨ (u.isFinite ∧ self.penalty.isFinite) ∨
    (u.isFinite ∧ u ≠ self.theta ∧ self.penalty ≠ .nan) ∨ (u = .posInf ∧ 0 < self.penalty)

instance (self : Pressure) (u : ExactFloat) : Decidable (self.Ranks u) :=
  inferInstanceAs (Decidable (_ ∨ _ ∨ _ ∨ _))

section Score

variable {theta : ℚ} (thetaLt : theta < 1)
include thetaLt

/-- Above the knee the penalty is scaled by a positive finite number, so an
infinite one gives an infinite score. -/
theorem pressureScore_above_ne_nan {u : ℚ} (above : theta ≤ u) (penalty : ExactFloat) :
    pressureScore (.finite u) (.finite theta) penalty ≠ .nan ↔
      penalty.isFinite ∨ (u ≠ theta ∧ penalty ≠ .nan) := by
  rcases above.eq_or_lt with rfl | strictly
  · by_cases special : ∀ value, penalty ≠ .finite value
    · rw [pressureScore_at_knee_of_special thetaLt special]
      cases penalty with
      | finite value => exact absurd rfl (special value)
      | nan => simp [ExactFloat.isFinite]
      | negInf => simp [ExactFloat.isFinite]
      | posInf => simp [ExactFloat.isFinite]
    · push Not at special
      obtain ⟨value, rfl⟩ := special
      rw [pressureScore_finite thetaLt]
      simp [ExactFloat.isFinite]
  · have spread : 0 < 1 - theta := by linarith
    have excess : 0 < (u - theta) / (1 - theta) := div_pos (by linarith) spread
    rw [pressureScore_above above thetaLt]
    cases penalty with
    | finite value => simp [ExactFloat.isFinite]
    | nan =>
        have absorbed : ExactFloat.finite u + .nan * .finite ((u - theta) / (1 - theta)) *
            .finite ((u - theta) / (1 - theta)) = .nan := rfl
        simp [absorbed, ExactFloat.isFinite]
    | negInf =>
        rw [ExactFloat.negInf_mul_finite excess, ExactFloat.negInf_mul_finite excess]
        have sunk : ExactFloat.finite u + .negInf = .negInf := rfl
        simp [sunk, strictly.ne']
    | posInf =>
        rw [ExactFloat.posInf_mul_finite excess, ExactFloat.posInf_mul_finite excess]
        have raised : ExactFloat.finite u + .posInf = .posInf := rfl
        simp [raised, strictly.ne']

/-- A full backend without slots has infinite occupancy and is scored by the
sign of the penalty. -/
theorem pressureScore_posInf_ne_nan (penalty : ExactFloat) :
    pressureScore .posInf (.finite theta) penalty ≠ .nan ↔ 0 < penalty := by
  have spread : 0 < 1 - theta := by linarith
  have excess : (ExactFloat.posInf - .finite theta) / (1 - .finite theta) = .posInf := by
    rw [ExactFloat.ofNat_eq, ExactFloat.finite_sub]
    change (if 0 ≤ ((1 : ℕ) : ℚ) - theta then ExactFloat.posInf else _) = _
    rw [if_pos (by simpa using spread.le)]
  have unfolded : pressureScore .posInf (.finite theta) penalty =
      .posInf + penalty * .posInf * .posInf := by
    unfold pressureScore
    rw [if_neg (by simp [LT.lt, ExactFloat.partialCmp]), excess]
  rw [unfolded]
  cases penalty with
  | nan => decide +kernel
  | negInf => decide +kernel
  | posInf => decide +kernel
  | finite value =>
      rw [ExactFloat.finite_mul_posInf, ExactFloat.ofNat_eq, ExactFloat.finite_lt_finite,
        Nat.cast_zero]
      rcases lt_trichotomy value 0 with negative | rfl | positive
      · rw [if_neg negative.not_gt, if_pos negative]
        exact iff_of_false (by decide) negative.not_gt
      · rw [if_neg (lt_irrefl _), if_neg (lt_irrefl _)]
        exact iff_of_false (by decide) (lt_irrefl _)
      · rw [if_pos positive]
        exact iff_of_true (by decide) positive

theorem score_ne_nan_iff {self : Pressure} (knee : self.theta = .finite theta) (b : Backend) :
    self.score b ≠ .nan ↔ self.Ranks (occupancy b) := by
  unfold Pressure.score Pressure.Ranks
  rw [knee]
  generalize occupancy b = u
  cases u with
  | nan =>
      have absorbed : pressureScore .nan (.finite theta) self.penalty = .nan := by
        unfold pressureScore
        rw [if_neg (by simp [LT.lt, ExactFloat.partialCmp])]
        rfl
      simp [absorbed, ExactFloat.isFinite, LT.lt, ExactFloat.partialCmp]
  | negInf => simp [pressureScore, LT.lt, ExactFloat.partialCmp]
  | posInf =>
      rw [pressureScore_posInf_ne_nan thetaLt]
      simp [ExactFloat.isFinite, LT.lt, ExactFloat.partialCmp]
  | finite u =>
      rw [ExactFloat.finite_lt_finite]
      by_cases below : u < theta
      · rw [pressureScore, if_pos (by simpa using below)]
        simp [below]
      · rw [pressureScore_above_ne_nan thetaLt (not_lt.mp below)]
        simp [below, ExactFloat.isFinite]

end Score

/-- The pressure strategy picks exactly when some backend of its pool has a
score that is a number; the start of its scan is above every such score. -/
theorem Pressure.picksHealthy_iff {self : Pressure} {theta : ℚ}
    (knee : self.theta = .finite theta) (thetaLt : theta < 1) {snap : Snapshot}
    (indexed : snap.Indexed) (nonempty : snap.healthy ≠ []) (heap : Heap)
    (req : RequestFeatures) (rng : SmallRng) (trace : Option DecisionTrace) :
    PicksHealthy snap (self.pick heap snap req rng trace) ↔
      ∃ id ∈ self.pool heap snap req, self.Ranks (occupancy (heap (snap.refOf id))) := by
  have tied : ((self.pool heap snap req).foldl
      (TieScan.step ExactFloat.partialCmp fun id => self.score (heap (snap.refOf id)))
      (.posInf, [])).2 ≠ [] ↔
      ∃ id ∈ self.pool heap snap req, self.Ranks (occupancy (heap (snap.refOf id))) := by
    rw [Ne, TieScan.scan_eq_nil_iff]
    push Not
    apply exists_congr
    intro id
    apply and_congr_right
    intro _
    rw [← score_ne_nan_iff thetaLt knee, ← ExactFloat.partialCmp_posInf]
    tauto
  rw [← tied]
  have picked := pick_eq_ok indexed nonempty (scan_eq_ok self heap req indexed) rng trace
  constructor
  · rintro ⟨returned, id, same, chosen, -⟩ empty
    rw [picked] at same
    obtain rfl := Except.ok.inj same
    dsimp only at chosen
    rw [empty] at chosen
    cases chosen
  · intro someTied
    obtain ⟨id, member, chosen⟩ := rng.exists_choose someTied
    exact ⟨_, id, picked, chosen, mem_healthy_of_mem_pool (TieScan.mem_of_mem_scan member)⟩

/-- The strategy that `main` builds, after any number of picks: round robin may
have moved on. -/
def Config.Routes (config : Config) (strategy : RoutingStrategy) : Prop :=
  config.buildStrategy = .ok strategy ∨
    ∃ start next, config.buildStrategy = .ok (.roundRobin start) ∧
      strategy = .roundRobin next

theorem Config.Routes.pressure {config : Config} {self : Pressure}
    (routes : config.Routes (.pressure self)) :
    self = ⟨config.theta, config.penalty, config.sigma, config.kvModel⟩ := by
  rcases routes with built | ⟨start, next, -, other⟩
  · exact buildStrategy_pressure built
  · cases other

/-- Whatever the counters, the request and the draw, the strategy of an accepted
configuration picks a healthy backend when there is one, except that pressure
needs a backend in its pool whose score is a number. -/
theorem accepted_strategy_picks_healthy_iff {raw : RawConfig} {config : Config}
    (accepted : raw.validate = .ok config) {strategy : RoutingStrategy}
    (routes : config.Routes strategy) {snap : Snapshot} (indexed : snap.Indexed)
    (nonempty : snap.healthy ≠ []) (heap : Heap) (req : RequestFeatures) (rng : SmallRng)
    (trace : Option DecisionTrace) :
    PicksHealthy snap ((strategy.pick heap snap req rng trace).map Prod.fst) ↔
      ∀ self, strategy = .pressure self →
        ∃ id ∈ self.pool heap snap req, self.Ranks (occupancy (heap (snap.refOf id))) := by
  rw [RoutingStrategy.pick_map_fst]
  cases strategy with
  | pressure self =>
      obtain ⟨checked, rfl⟩ := RawConfig.validate_eq_ok_iff.mp accepted
      obtain ⟨theta, thetaEq⟩ :=
        ExactFloat.finite_of_bounded checked.theta.1 (.inl checked.theta.2)
      have below := checked.theta.2
      rw [thetaEq] at below
      have thetaLt : theta < 1 := by simpa [ExactFloat.ofNat_eq] using below
      have knee : self.theta = .finite theta := by
        rw [routes.pressure]
        exact thetaEq
      dsimp only
      rw [Pressure.picksHealthy_iff knee thetaLt indexed nonempty]
      simp
  | roundRobin next =>
      exact iff_of_true (RoundRobin.picksHealthy indexed nonempty heap req trace next) (by simp)
  | p2c => exact iff_of_true (P2c.picksHealthy indexed nonempty heap req rng trace) (by simp)
  | leastRequests =>
      exact iff_of_true (LeastRequests.picksHealthy indexed nonempty heap req rng trace) (by simp)
  | leastKvts =>
      exact iff_of_true (LeastKvts.picksHealthy indexed nonempty heap req rng trace) (by simp)

/-- With a finite penalty every backend of a snapshot with positive capacities
has a score that is a number. -/
theorem Pressure.ranks_of_finite_penalty {self : Pressure} (finite : self.penalty.isFinite)
    {b : Backend} (positive : b.caps.Positive) : self.Ranks (occupancy b) := by
  rw [occupancy_eq_finite positive]
  exact .inr (.inl ⟨rfl, finite⟩)

theorem default_strategy_picks_healthy :
    PicksHealthy unevenSnapshot ((RoutingStrategy.pick
      (.pressure ⟨defaultTheta, defaultPenalty, defaultSigma, .promptOnly⟩) unevenHeap
      unevenSnapshot ⟨"m", 1, true, 0, none, none, true, 0⟩ .first none).map Prod.fst) := by
  apply (accepted_strategy_picks_healthy_iff (twoBackends_accepted defaultPenalty) (.inl rfl)
    (by decide) (by decide) _ _ _ _).mpr
  rintro self ⟨⟩
  refine ⟨⟨0⟩, by decide +kernel, Pressure.ranks_of_finite_penalty rfl ?_⟩
  exact unevenSnapshot_positive 0 (by decide)

def busyHeap : Heap := fun ref =>
  { Backend.fresh ⟨UInt16.ofNat ref⟩ "http://a" "m" 1 ⟨8192, 10⟩ with live := ⟨8, 0⟩ }

/-- With a penalty that is not a number, two healthy backends that have eight of
their ten slots taken leave the request without a backend. -/
theorem nan_penalty_picks_nobody :
    ∃ config strategy, (twoBackends .nan).validate = .ok config ∧
      config.buildStrategy = .ok strategy ∧ unevenSnapshot.Indexed ∧
      unevenSnapshot.healthy ≠ [] ∧
      ¬ PicksHealthy unevenSnapshot ((strategy.pick busyHeap unevenSnapshot
        ⟨"m", 1, true, 0, none, none, true, 0⟩ .first none).map Prod.fst) := by
  refine ⟨_, _, twoBackends_accepted _, rfl, by decide, by decide, ?_⟩
  rw [RoutingStrategy.pick_map_fst]
  have nobody : (Pressure.pick ⟨defaultTheta, .nan, defaultSigma, .promptOnly⟩ busyHeap
      unevenSnapshot ⟨"m", 1, true, 0, none, none, true, 0⟩ .first none).map Picked.chosen =
        .ok none := by
    decide +kernel
  rintro ⟨picked, id, returned, chosen, -⟩
  have unnamed : Except.map Picked.chosen (.ok picked) = (.ok none : Outcome _) :=
    (congrArg (Except.map Picked.chosen) returned).symm.trans nobody
  have same := Except.ok.inj unnamed
  rw [chosen] at same
  cases same

end KeelRouter
