import KeelRouter.DispatchRun

/-!
# Pressure routing is least-occupancy routing

For a knee in the open unit interval and a nonnegative penalty the score is
strictly increasing in the occupancy.  The scan therefore collects the pool's
backends of least occupancy, in order, and two strategies that differ in these
two parameters only make the same decisions in every run.
-/

namespace KeelRouter

namespace Pressure

/-- The knee is inside the open unit interval and the penalty not negative. -/
def InRange (self : Pressure) : Prop :=
  ∃ theta penalty : ℚ, self.theta = .finite theta ∧ self.penalty = .finite penalty ∧
    0 < theta ∧ theta < 1 ∧ 0 ≤ penalty

def leastOccupied (self : Pressure) (heap : Heap) (snap : Snapshot)
    (req : RequestFeatures) : List BackendId :=
  TieScan.minimal (fun id => occupancyRatio (heap (snap.refOf id)))
    (self.pool heap snap req)

variable {self : Pressure} {heap : Heap} {snap : Snapshot} {req : RequestFeatures}

theorem scan_eq_leastOccupied (inRange : self.InRange) (indexed : snap.Indexed)
    (positive : snap.Positive heap) :
    self.scan heap snap req = .ok {
      eligible := self.admitted heap snap req
      fellThrough := (self.admitted heap snap req).isEmpty
      ties := self.leastOccupied heap snap req } := by
  obtain ⟨theta, penalty, thetaEq, penaltyEq, -, thetaLt, penaltyNonneg⟩ := inRange
  have increasing := scoreRatio_strictMono thetaLt penaltyNonneg
  have scored : ∀ id ∈ self.pool heap snap req,
      self.score (heap (snap.refOf id)) =
        .finite (scoreRatio (occupancyRatio (heap (snap.refOf id))) theta penalty) := by
    intro id member
    have listed := Snapshot.refOf_mem indexed (mem_healthy_of_mem_pool member)
    rw [score, occupancy_eq_finite (positive _ listed), thetaEq, penaltyEq,
      pressureScore_finite thetaLt]
  have ties : ((self.pool heap snap req).foldl
      (TieScan.step ExactFloat.partialCmp fun id => self.score (heap (snap.refOf id)))
      (.posInf, [])).2 =
      TieScan.minimal
        (fun id => scoreRatio (occupancyRatio (heap (snap.refOf id))) theta penalty)
        (self.pool heap snap req) :=
    TieScan.scan_eq_minimal ExactFloat.partialCmp_finite
      (fun score => .inl (ExactFloat.partialCmp_finite_posInf score)) scored
  rw [scan_eq_ok self heap req indexed, ties, leastOccupied]
  congr 2
  apply TieScan.minimal_congr
  intro first _ second _
  exact increasing.le_iff_le

theorem pick_chosen_eq (inRange : self.InRange) (indexed : snap.Indexed)
    (positive : snap.Positive heap) (rng : SmallRng) (trace : Option DecisionTrace) :
    (self.pick heap snap req rng trace).map Picked.chosen =
      .ok (rng.choose (self.leastOccupied heap snap req)) := by
  by_cases empty : snap.healthy = []
  · have noPool : self.pool heap snap req = [] := by
      simp [pool, admitted, empty]
    unfold pick leastOccupied
    rw [noPool, empty]
    rfl
  · rw [pick_eq_ok indexed empty (scan_eq_leastOccupied inRange indexed positive)]
    rfl

section TwoSettings

variable {first second : Pressure} (firstInRange : first.InRange)
  (secondInRange : second.InRange) (sameSigma : first.sigma = second.sigma)
  (sameKvModel : first.kvModel = second.kvModel)

include sameSigma sameKvModel

theorem admitted_congr : first.admitted heap snap req = second.admitted heap snap req := by
  unfold admitted needKv
  rw [sameSigma, sameKvModel]

theorem leastOccupied_congr :
    first.leastOccupied heap snap req = second.leastOccupied heap snap req := by
  unfold leastOccupied pool
  rw [admitted_congr sameSigma sameKvModel]

include firstInRange secondInRange

theorem scan_congr (positive : snap.Positive heap) :
    first.scan heap snap req = second.scan heap snap req := by
  by_cases indexed : snap.Indexed
  · rw [scan_eq_leastOccupied firstInRange indexed positive,
      scan_eq_leastOccupied secondInRange indexed positive,
      admitted_congr sameSigma sameKvModel, leastOccupied_congr sameSigma sameKvModel]
  · obtain ⟨panic, panicked⟩ :=
      eligible_eq_error indexed heap (first.needKv req) first.sigma
    have sameGate : eligible heap snap (second.needKv req) second.sigma = .error panic := by
      unfold needKv at panicked ⊢
      rw [← sameSigma, ← sameKvModel]
      exact panicked
    unfold scan
    rw [panicked, sameGate]
    rfl

/-- Two settings pick the same backend with the same draw, traced or not. -/
theorem pick_congr (positive : snap.Positive heap) (rng : SmallRng)
    (firstTrace secondTrace : Option DecisionTrace) :
    (first.pick heap snap req rng firstTrace).map Picked.chosen =
      (second.pick heap snap req rng secondTrace).map Picked.chosen := by
  by_cases empty : snap.healthy = []
  · unfold pick
    simp [empty, Except.map]
  have alike : first.scan heap snap req = second.scan heap snap req :=
    scan_congr firstInRange secondInRange sameSigma sameKvModel positive
  by_cases indexed : snap.Indexed
  · have scanned := scan_eq_ok second heap req indexed
    rw [pick_eq_ok indexed empty (alike.trans scanned), pick_eq_ok indexed empty scanned]
    rfl
  · obtain ⟨panic, panicked⟩ := scan_eq_error second heap req indexed
    have notEmpty : ¬ snap.healthy.isEmpty := by simpa using empty
    unfold pick
    rw [if_neg notEmpty, if_neg notEmpty, alike, panicked]
    rfl

end TwoSettings

end Pressure

namespace DispatchState

theorem dispatch_eq_bind_chosen (strategy : Pressure) (state : DispatchState)
    (req : RequestFeatures) (rng : SmallRng) (now : Instant) :
    state.dispatch strategy req rng now =
      (strategy.pick state.leases.heap state.leases.snapshot req rng
        (some .default)).map Picked.chosen >>= state.commit strategy.kvModel req now := by
  unfold dispatch
  cases strategy.pick state.leases.heap state.leases.snapshot req rng (some .default) <;> rfl

/-- The knee and the penalty never change what is routed where: two settings
that agree on the gate and the KV model build the same ties in the same order
on every snapshot with positive capacities, pick the same backend with the same
draw, draw from the pool's backends of least occupancy, and have the same runs. -/
theorem theta_and_penalty_never_route {first second : Pressure}
    (firstInRange : first.InRange) (secondInRange : second.InRange)
    (sameSigma : first.sigma = second.sigma) (sameKvModel : first.kvModel = second.kvModel) :
    (∀ (heap : Heap) (snap : Snapshot) (req : RequestFeatures), snap.Positive heap →
      first.scan heap snap req = second.scan heap snap req ∧
      (∀ rng firstTrace secondTrace,
        (first.pick heap snap req rng firstTrace).map Picked.chosen =
          (second.pick heap snap req rng secondTrace).map Picked.chosen) ∧
      (snap.Indexed → ∀ rng trace,
        (first.pick heap snap req rng trace).map Picked.chosen =
          .ok (rng.choose (first.leastOccupied heap snap req)))) ∧
    ∀ (state : DispatchState) (events : List DispatchEvent), state.Positive →
      EventRun.run (step first) state events = EventRun.run (step second) state events := by
  refine ⟨?_, ?_⟩
  · intro heap snap req positive
    refine ⟨?_, ?_, ?_⟩
    · exact Pressure.scan_congr firstInRange secondInRange sameSigma sameKvModel positive
    · exact Pressure.pick_congr firstInRange secondInRange sameSigma sameKvModel positive
    · intro indexed
      exact Pressure.pick_chosen_eq firstInRange indexed positive
  · intro state events positive
    apply EventRun.run_congr (fun _ _ _ => positive_step) _ positive
    · intro state event positive
      cases event with
      | dispatch req rng now =>
          have alike : (first.pick state.leases.heap state.leases.snapshot req rng
              (some .default)).map Picked.chosen =
              (second.pick state.leases.heap state.leases.snapshot req rng
                (some .default)).map Picked.chosen :=
            Pressure.pick_congr firstInRange secondInRange sameSigma sameKvModel positive
              rng (some .default) (some .default)
          change (state.dispatch first req rng now).toOption =
            (state.dispatch second req rng now).toOption
          rw [dispatch_eq_bind_chosen, dispatch_eq_bind_chosen, alike, sameKvModel]
      | observeTokens position n => rfl
      | drop position => rfl
      | nextSnapshot => rfl

theorem theta_and_penalty_never_route_early_knee :
    EventRun.run
        (step ⟨defaultTheta, defaultPenalty, defaultSigma, .promptPlusOutput⟩)
        ⟨.initial (fun ref => Backend.fresh ⟨UInt16.ofNat ref⟩ "http://x" "m" 1
          ⟨UInt32.ofNat (100 * (ref + 1)), 4⟩) ⟨0, [0, 1], [⟨0⟩, ⟨1⟩], []⟩, []⟩
        [.dispatch ⟨"m", 60, true, 30, none, none, true, 0⟩ .first 0,
          .observeTokens 0 31, .drop 0] =
      EventRun.run
        (step ⟨.finite (1 / 10), 0, defaultSigma, .promptPlusOutput⟩)
        ⟨.initial (fun ref => Backend.fresh ⟨UInt16.ofNat ref⟩ "http://x" "m" 1
          ⟨UInt32.ofNat (100 * (ref + 1)), 4⟩) ⟨0, [0, 1], [⟨0⟩, ⟨1⟩], []⟩, []⟩
        [.dispatch ⟨"m", 60, true, 30, none, none, true, 0⟩ .first 0,
          .observeTokens 0 31, .drop 0] := by
  have defaults : Pressure.InRange
      ⟨defaultTheta, defaultPenalty, defaultSigma, .promptPlusOutput⟩ :=
    ⟨11 / 20, 10, rfl, rfl, by norm_num, by norm_num, by norm_num⟩
  have earlyKnee : Pressure.InRange
      ⟨.finite (1 / 10), 0, defaultSigma, .promptPlusOutput⟩ :=
    ⟨1 / 10, 0, rfl, rfl, by norm_num, by norm_num, by norm_num⟩
  apply (theta_and_penalty_never_route defaults earlyKnee rfl rfl).2
  intro ref member
  have listed : ref = 0 ∨ ref = 1 := by simpa [LeaseState.initial] using member
  rcases listed with rfl | rfl <;> decide

end DispatchState

end KeelRouter
