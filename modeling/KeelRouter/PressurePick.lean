import KeelRouter.ConfigRanking

/-!
# One pressure pick and the lease it opens

The gate decides over which backends a request is compared, the scan draws one
of least score among them, and the lease that is opened on it charges what the
gate has checked.
-/

namespace KeelRouter

/-- Every listed item is drawn by some generator. -/
theorem SmallRng.exists_choose_eq {α : Type*} {items : List α} {item : α}
    (member : item ∈ items) : ∃ rng : SmallRng, rng.choose items = some item := by
  obtain ⟨position, rfl⟩ := List.get_of_mem member
  cases items with
  | nil => exact position.elim0
  | cons first items =>
      refine ⟨{ SmallRng.first with
        genIndex := fun last =>
          if inside : position.val < last + 1 then ⟨position.val, inside⟩ else 0 }, ?_⟩
      have inside : position.val < items.length + 1 := position.isLt
      simp only [choose, dif_pos inside]
      rfl

/-- The backend is within its slots and within a fraction of its KV capacity. -/
def Backend.Within (b : Backend) (sigma : ℚ) : Prop :=
  b.live.inflight ≤ b.caps.maxNumSeqs ∧
    (b.live.kvProjectedTokens.toInt : ℚ) ≤ sigma * b.caps.kvCapacityTokens.toNat

namespace Pressure

/-- The backend is in the pool and no other one of the pool scores lower. -/
def Minimises (self : Pressure) (heap : Heap) (snap : Snapshot) (req : RequestFeatures)
    (id : BackendId) : Prop :=
  id ∈ self.pool heap snap req ∧ ∀ other ∈ self.pool heap snap req,
    self.score (heap (snap.refOf id)) ≤ self.score (heap (snap.refOf other))

variable {self : Pressure} {heap : Heap} {snap : Snapshot} {req : RequestFeatures}

theorem score_le_iff (inRange : self.InRange) {first second : Backend}
    (firstPositive : first.caps.Positive) (secondPositive : second.caps.Positive) :
    self.score first ≤ self.score second ↔ occupancyRatio first ≤ occupancyRatio second := by
  obtain ⟨theta, penalty, thetaEq, penaltyEq, -, thetaLt, penaltyNonneg⟩ := inRange
  rw [score, score, occupancy_eq_finite firstPositive, occupancy_eq_finite secondPositive,
    thetaEq, penaltyEq, pressureScore_finite thetaLt, pressureScore_finite thetaLt,
    ExactFloat.finite_le_finite]
  exact (scoreRatio_strictMono thetaLt penaltyNonneg).le_iff_le

theorem mem_leastOccupied (inRange : self.InRange) (indexed : snap.Indexed)
    (positive : snap.Positive heap) {id : BackendId} :
    id ∈ self.leastOccupied heap snap req ↔ self.Minimises heap snap req id := by
  have pooled {id : BackendId} (member : id ∈ self.pool heap snap req) :
      (heap (snap.refOf id)).caps.Positive :=
    positive _ (Snapshot.refOf_mem indexed (mem_healthy_of_mem_pool member))
  rw [leastOccupied, TieScan.mem_minimal]
  apply and_congr_right
  intro member
  apply forall₂_congr
  intro other otherMem
  exact (score_le_iff inRange (pooled member) (pooled otherMem)).symm

theorem leastOccupied_ne_nil (nonempty : snap.healthy ≠ []) :
    self.leastOccupied heap snap req ≠ [] := by
  have pooled : self.pool heap snap req ≠ [] := by
    unfold pool
    split
    · exact nonempty
    · rename_i someAdmitted
      simpa using someAdmitted
  exact TieScan.minimal_ne_nil pooled

theorem admitted_isEmpty_iff :
    (self.admitted heap snap req).isEmpty = true ↔
      ∀ id ∈ snap.healthy,
        ¬ admits (heap (snap.refOf id)) (self.needKv req) self.sigma = true := by
  rw [List.isEmpty_iff, admitted, List.filter_eq_nil_iff]

/-- What the lease charges is what the gate has checked: opened right after the
gate let it through, it leaves the backend within its limits. -/
theorem open_fits {ref : BackendRef} {sigma : ℚ} (gate : self.sigma = .finite sigma)
    (nonneg : 0 ≤ sigma) (atMostOne : sigma ≤ 1)
    (admitted : admits (heap ref) (self.needKv req) self.sigma = true) (now : Instant) :
    ((CostLease.open ref req.promptTokens req.expectedOutputTokens self.kvModel now
      heap).2 ref).Within sigma := by
  rw [gate] at admitted
  obtain ⟨headroom, slot⟩ := (admits_iff nonneg atMostOne).mp admitted
  unfold Backend.Within
  rw [CostLease.open_live, CostLease.open_caps, if_pos rfl, if_pos rfl]
  refine ⟨?_, headroom⟩
  have slots := (heap ref).caps.maxNumSeqs.toNat_lt
  rw [UInt32.le_iff_toNat_le, UInt32.toNat_add, UInt32.toNat_one]
  omega

/-- What a traced pick returns when it is given an empty trace. -/
theorem pick_traced_eq_ok (inRange : self.InRange) (indexed : snap.Indexed)
    (positive : snap.Positive heap) (req : RequestFeatures) {start : DecisionTrace}
    (fresh : start.fellThrough = false) (rng : SmallRng) :
    ∃ filled, self.pick heap snap req rng (some start) =
        .ok ⟨rng.choose (self.leastOccupied heap snap req), some filled⟩ ∧
      (filled.fellThrough = true ↔
        snap.healthy ≠ [] ∧ (self.admitted heap snap req).isEmpty = true) := by
  by_cases empty : snap.healthy = []
  · have noTies : self.leastOccupied heap snap req = [] := by
      simp [leastOccupied, pool, admitted, empty, TieScan.minimal]
    have returned : self.pick heap snap req rng (some start) = .ok _ :=
      if_pos (List.isEmpty_iff.mpr empty)
    rw [noTies, returned]
    exact ⟨_, rfl, iff_of_false (by simp [fresh]) (by simp [empty])⟩
  · have scanned : self.scan heap snap req = .ok _ :=
      scan_eq_leastOccupied inRange indexed positive
    rw [pick_eq_ok indexed empty scanned]
    exact ⟨_, rfl, by simp [empty]⟩

/-- A pick by the pressure strategy, end to end.  It names a backend exactly
when one is healthy; it falls through exactly when the gate admits none of
them; it names one of least score in the pool, and each of these for some draw;
and when it has not fallen through, the lease opened on it stays within the
slots and within the fraction `sigma` of the KV capacity. -/
theorem pick_end_to_end (inRange : self.InRange) {sigma : ℚ}
    (gate : self.sigma = .finite sigma) (sigmaPos : 0 < sigma) (sigmaLe : sigma ≤ 1)
    (indexed : snap.Indexed) (positive : snap.Positive heap) (req : RequestFeatures)
    {start : DecisionTrace} (fresh : start.fellThrough = false) :
    (∀ rng, ∃ chosen filled,
      self.pick heap snap req rng (some start) = .ok ⟨chosen, some filled⟩ ∧
      (self.pick heap snap req rng none).map Picked.chosen = .ok chosen ∧
      (chosen.isSome = true ↔ snap.healthy ≠ []) ∧
      (filled.fellThrough = true ↔ snap.healthy ≠ [] ∧ ∀ id ∈ snap.healthy,
        ¬ admits (heap (snap.refOf id)) (self.needKv req) self.sigma = true) ∧
      ∀ id, chosen = some id →
        self.Minimises heap snap req id ∧
        (filled.fellThrough = false → ∀ now,
          ((CostLease.open (snap.refOf id) req.promptTokens req.expectedOutputTokens
            self.kvModel now heap).2 (snap.refOf id)).Within sigma)) ∧
    ∀ id, self.Minimises heap snap req id → ∃ rng, ∀ trace,
      (self.pick heap snap req rng trace).map Picked.chosen = .ok (some id) := by
  refine ⟨?_, ?_⟩
  · intro rng
    obtain ⟨filled, traced, fallen⟩ := pick_traced_eq_ok inRange indexed positive req
      fresh rng
    refine ⟨rng.choose (self.leastOccupied heap snap req), filled, traced,
      pick_chosen_eq inRange indexed positive rng none, ?_, ?_, ?_⟩
    · constructor
      · intro named empty
        have noTies : self.leastOccupied heap snap req = [] := by
          simp [leastOccupied, pool, admitted, empty, TieScan.minimal]
        rw [noTies] at named
        cases named
      · intro nonempty
        obtain ⟨id, -, drawn⟩ := rng.exists_choose (leastOccupied_ne_nil nonempty)
        rw [drawn]
        rfl
    · rw [fallen, admitted_isEmpty_iff]
    · intro id drawn
      have tied := SmallRng.choose_mem drawn
      have minimises := (mem_leastOccupied inRange indexed positive).mp tied
      refine ⟨minimises, ?_⟩
      intro notFallen now
      have admitted := (admits_of_pick traced drawn notFallen).2.2
      exact open_fits gate sigmaPos.le sigmaLe admitted now
  · intro id minimises
    obtain ⟨rng, drawn⟩ :=
      SmallRng.exists_choose_eq ((mem_leastOccupied inRange indexed positive).mpr minimises)
    refine ⟨rng, fun trace => ?_⟩
    rw [pick_chosen_eq inRange indexed positive rng trace, drawn]

theorem pick_end_to_end_uneven :
    (∀ rng, ∃ chosen filled,
      pick ⟨defaultTheta, defaultPenalty, defaultSigma, .promptOnly⟩ unevenHeap unevenSnapshot
        ⟨"m", 1, true, 0, none, none, true, 0⟩ rng (some .default) =
          .ok ⟨chosen, some filled⟩ ∧
      chosen.isSome = true) ∧
    ∃ rng, ∀ trace, (pick ⟨defaultTheta, defaultPenalty, defaultSigma, .promptOnly⟩ unevenHeap
      unevenSnapshot ⟨"m", 1, true, 0, none, none, true, 0⟩ rng trace).map Picked.chosen =
        .ok (some ⟨0⟩) := by
  have inRange : InRange ⟨defaultTheta, defaultPenalty, defaultSigma, .promptOnly⟩ :=
    ⟨11 / 20, 10, rfl, rfl, by norm_num, by norm_num, by norm_num⟩
  obtain ⟨every, reached⟩ := pick_end_to_end inRange rfl (by norm_num : (0 : ℚ) < 19 / 20)
    (by norm_num) (by decide : unevenSnapshot.Indexed) unevenSnapshot_positive
    ⟨"m", 1, true, 0, none, none, true, 0⟩ (rfl : DecisionTrace.default.fellThrough = false)
  refine ⟨?_, ?_⟩
  · intro rng
    obtain ⟨chosen, filled, traced, -, some_iff, -⟩ := every rng
    exact ⟨chosen, filled, traced, some_iff.mpr (by decide)⟩
  · apply reached
    unfold Minimises
    decide +kernel

end Pressure

end KeelRouter
