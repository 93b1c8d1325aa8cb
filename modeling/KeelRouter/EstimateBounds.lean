import KeelRouter.ConfigRanking
import KeelRouter.LengthEstimator
import KeelRouter.RealFloat
import Mathlib.Tactic.Linarith

/-!
# Learned estimates and what was observed

A learned estimate is an average in which every observation has a weight.  The
weights are convex when the half-life is positive or infinite, and validation
never looks at the half-life: a negative one extrapolates beyond the
observations, and with a half-life of zero two observations at the same time
leave an estimate that is not a number.
-/

namespace KeelRouter

noncomputable instance RealFloat.instDecayNumber : DecayNumber RealFloat where
  ofCount count := .finite count.toNat
  decay elapsed halflife := (-elapsed * .finite ln2 / halflife).exp
  roundToCount := RealFloat.roundToUInt32

/-- The store of route estimates that `main` builds. -/
def Config.routeHists (config : Config) : RouteHistograms RealFloat :=
  .new (.ofExact config.routeP50HalflifeS)

/-- Observations of one route, each with its time. -/
noncomputable def RouteHistograms.observeAll (self : RouteHistograms RealFloat) (key : RouteKey)
    (observations : List (UInt32 × ℝ)) : RouteHistograms RealFloat :=
  observations.foldl (fun hists observation =>
    hists.observe key observation.1 (.finite observation.2)) self

/-- Whatever was observed at nondecreasing times, bounds of the observed values
bound the estimate, up to the least estimate of one. -/
def RouteHistograms.StaysWithinObserved (self : RouteHistograms RealFloat) : Prop :=
  ∀ (key : RouteKey) (observations : List (UInt32 × ℝ)), observations ≠ [] →
    observations.Pairwise (fun earlier later => earlier.2 ≤ later.2) →
    ∀ low high : Nat,
      (∀ observation ∈ observations,
        low ≤ observation.1.toNat ∧ observation.1.toNat ≤ high) →
      max 1 low ≤ ((self.observeAll key observations).estimate key none).toNat ∧
        ((self.observeAll key observations).estimate key none).toNat ≤ max 1 high

/-- An average that has learned a number. -/
def learnedAverage (halflife : ExactFloat) (estimate last : ℝ) : DecayingQuantile RealFloat where
  halflifeS := .ofExact halflife
  estimate := some (.finite estimate)
  lastObsS := .finite last

/-- Half-lives that weigh observations convexly. -/
def ConvexHalflife : ExactFloat → Prop
  | .nan => False
  | .negInf => True
  | .finite value => 0 < value
  | .posInf => True

section Convex

variable {halflife : ExactFloat} (convex : ConvexHalflife halflife)
include convex

theorem exists_decay {elapsed : ℝ} (nonneg : 0 ≤ elapsed) :
    ∃ weight : ℝ, DecayNumber.decay (RealFloat.finite elapsed) (.ofExact halflife) =
      .finite weight ∧ 0 ≤ weight ∧ weight ≤ 1 := by
  change ∃ weight : ℝ, (-RealFloat.finite elapsed * .finite (Real.log 2) /
    .ofExact halflife).exp = .finite weight ∧ _
  rw [RealFloat.neg_finite, RealFloat.finite_mul]
  cases halflife with
  | nan => exact convex.elim
  | negInf =>
      have still : (RealFloat.finite (-elapsed * Real.log 2) / .negInf).exp =
          .finite (Real.exp 0) := rfl
      exact ⟨1, by rw [RealFloat.ofExact, still, Real.exp_zero], zero_le_one, le_rfl⟩
  | posInf =>
      have still : (RealFloat.finite (-elapsed * Real.log 2) / .posInf).exp =
          .finite (Real.exp 0) := rfl
      exact ⟨1, by rw [RealFloat.ofExact, still, Real.exp_zero], zero_le_one, le_rfl⟩
  | finite value =>
      have positive : (0 : ℝ) < value := by exact_mod_cast convex
      rw [RealFloat.ofExact, RealFloat.finite_div positive.ne', RealFloat.exp_finite]
      refine ⟨_, rfl, (Real.exp_pos _).le, ?_⟩
      rw [Real.exp_le_one_iff]
      apply div_nonpos_of_nonpos_of_nonneg _ positive.le
      rw [neg_mul, neg_nonpos]
      exact mul_nonneg nonneg (Real.log_nonneg one_le_two)

/-- One observation of a learned average keeps it between the same bounds. -/
theorem observe_between {estimate low high : ℝ} {value : UInt32}
    (above : low ≤ estimate ∧ low ≤ value.toNat)
    (below : estimate ≤ high ∧ (value.toNat : ℝ) ≤ high) (last now : ℝ) :
    ∃ learned : ℝ, low ≤ learned ∧ learned ≤ high ∧
      (learnedAverage halflife estimate last).observe value (.finite now) =
        learnedAverage halflife learned now := by
  have nonneg : 0 ≤ max (now - last) 0 := le_max_right _ _
  obtain ⟨weight, decayed, weightNonneg, weightLe⟩ := exists_decay convex nonneg
  have elapsed : max (RealFloat.finite now - .finite last) 0 =
      .finite (max (now - last) 0) := by
    rw [RealFloat.zero_eq, RealFloat.finite_sub, RealFloat.finite_max]
  refine ⟨estimate * weight + value.toNat * (1 - weight), ?_, ?_, ?_⟩
  · nlinarith
  · nlinarith
  · unfold DecayingQuantile.observe learnedAverage
    dsimp only
    rw [elapsed, decayed, RealFloat.one_eq, RealFloat.finite_sub, RealFloat.finite_mul]
    rfl

theorem observeAll_between (key : RouteKey) {observations : List (UInt32 × ℝ)}
    (nonempty : observations ≠ []) {low high : ℝ}
    (bounds : ∀ observation ∈ observations,
      low ≤ (observation.1.toNat : ℝ) ∧ (observation.1.toNat : ℝ) ≤ high) :
    ∃ learned last : ℝ, low ≤ learned ∧ learned ≤ high ∧
      ((RouteHistograms.new (.ofExact halflife)).observeAll key observations).inner key =
        some (learnedAverage halflife learned last) := by
  induction observations using List.reverseRecOn with
  | nil => exact absurd rfl nonempty
  | append_singleton observations latest ih =>
      obtain ⟨above, below⟩ := bounds latest (by simp)
      have unfolded : (RouteHistograms.new (.ofExact halflife)).observeAll key
          (observations ++ [latest]) =
          ((RouteHistograms.new (.ofExact halflife)).observeAll key observations).observe key
            latest.1 (.finite latest.2) := by
        rw [RouteHistograms.observeAll, List.foldl_append]
        rfl
      rw [unfolded]
      by_cases first : observations = []
      · subst first
        refine ⟨latest.1.toNat, latest.2, above, below, ?_⟩
        unfold RouteHistograms.observe
        dsimp only
        rw [if_pos rfl]
        rfl
      · obtain ⟨learned, last, learnedAbove, learnedBelow, kept⟩ :=
          ih first fun observation member => bounds observation (by simp [member])
        obtain ⟨next, nextAbove, nextBelow, observed⟩ := observe_between convex
          ⟨learnedAbove, above⟩ ⟨learnedBelow, below⟩ last latest.2
        refine ⟨next, latest.2, nextAbove, nextBelow, ?_⟩
        unfold RouteHistograms.observe
        dsimp only
        rw [if_pos rfl, kept, Option.getD_some, observed]

end Convex

theorem estimate_of_inner {hists : RouteHistograms RealFloat} {key : RouteKey}
    {average : DecayingQuantile RealFloat} {estimate : RealFloat}
    (kept : hists.inner key = some average) (learned : average.estimate = some estimate) :
    (hists.estimate key none).toNat = max estimate.roundToUInt32.toNat 1 := by
  have counted : (hists.inner key).bind DecayingQuantile.estimateCount =
      some estimate.roundToUInt32 := by
    rw [kept, Option.bind_some, DecayingQuantile.estimateCount, learned]
    rfl
  unfold RouteHistograms.estimate
  rw [counted]
  dsimp only
  rw [UInt32.toNat_max, UInt32.toNat_one]

theorem staysWithinObserved_of_convex {halflife : ExactFloat}
    (convex : ConvexHalflife halflife) :
    (RouteHistograms.new (.ofExact halflife)).StaysWithinObserved := by
  intro key observations nonempty _ low high bounds
  obtain ⟨learned, last, above, below, kept⟩ := observeAll_between convex key nonempty
    fun observation member => ⟨Nat.cast_le.mpr (bounds observation member).1,
      Nat.cast_le.mpr (bounds observation member).2⟩
  have lowFits : low < 2 ^ 32 := by
    obtain ⟨observation, member⟩ := List.exists_mem_of_ne_nil _ nonempty
    exact lt_of_le_of_lt (bounds observation member).1 observation.1.toNat_lt
  obtain ⟨roundedAbove, roundedBelow⟩ :=
    RealFloat.toNat_roundToUInt32_bounds lowFits above below
  rw [estimate_of_inner kept rfl]
  omega

/-- With a negative half-life an observation one half-life later doubles the
weight of the earlier average and takes the excess from the later value. -/
theorem observe_extrapolates {halflife : ℚ} (negative : halflife < 0) :
    (learnedAverage (.finite halflife) 10 0).observe 1 (.finite (-(halflife : ℝ))) =
      learnedAverage (.finite halflife) 19 (-(halflife : ℝ)) := by
  have below : (halflife : ℝ) < 0 := by exact_mod_cast negative
  have elapsed : max (RealFloat.finite (-(halflife : ℝ)) - .finite 0) 0 =
      .finite (-(halflife : ℝ)) := by
    rw [RealFloat.zero_eq, RealFloat.finite_sub, RealFloat.finite_max, sub_zero,
      max_eq_left (by linarith)]
  have doubled : DecayNumber.decay (RealFloat.finite (-(halflife : ℝ)))
      (.ofExact (.finite halflife)) = .finite 2 := by
    change (-RealFloat.finite (-(halflife : ℝ)) * .finite (Real.log 2) /
      .finite (halflife : ℝ)).exp = _
    rw [RealFloat.neg_finite, RealFloat.finite_mul, RealFloat.finite_div below.ne,
      RealFloat.exp_finite, neg_neg, mul_div_cancel_left₀ _ below.ne,
      Real.exp_log (by norm_num)]
  unfold DecayingQuantile.observe learnedAverage
  dsimp only
  rw [elapsed, doubled, RealFloat.one_eq, RealFloat.finite_sub, RealFloat.finite_mul]
  change (⟨_, some (RealFloat.finite _ + .finite (((1 : UInt32).toNat : ℝ) * _)), _⟩ :
    DecayingQuantile RealFloat) = _
  rw [RealFloat.finite_add, UInt32.toNat_one]
  norm_num

/-- With a half-life of zero, or one that is not a number, two observations at
the same time leave no number. -/
theorem observe_twice_at_once {halflife : ExactFloat}
    (degenerate : halflife = .finite 0 ∨ halflife = .nan) :
    ((learnedAverage halflife 2 0).observe 2 (.finite 0)).estimate = some .nan := by
  have elapsed : max (RealFloat.finite 0 - .finite 0) 0 = .finite 0 := by
    rw [RealFloat.zero_eq, RealFloat.finite_sub, RealFloat.finite_max, sub_zero, max_self]
  have lost : DecayNumber.decay (RealFloat.finite 0) (.ofExact halflife) = .nan := by
    change (-RealFloat.finite 0 * .finite (Real.log 2) / .ofExact halflife).exp = _
    rw [RealFloat.neg_finite, RealFloat.finite_mul, neg_zero, zero_mul]
    rcases degenerate with rfl | rfl
    · rw [RealFloat.ofExact, Rat.cast_zero, RealFloat.zero_div_zero]
      rfl
    · rfl
  unfold DecayingQuantile.observe learnedAverage
  dsimp only
  rw [elapsed, lost]
  rfl

theorem observeAll_pair (halflife : ExactFloat) (key : RouteKey) (value latest : UInt32)
    (now : ℝ) :
    ((RouteHistograms.new (.ofExact halflife)).observeAll key
        [(value, 0), (latest, now)]).inner key =
      some ((learnedAverage halflife value.toNat 0).observe latest (.finite now)) := by
  simp only [RouteHistograms.observeAll, List.foldl_cons, List.foldl_nil,
    RouteHistograms.observe, if_pos]
  rfl

theorem estimate_of_negative_halflife {halflife : ℚ} (negative : halflife < 0) (key : RouteKey) :
    (((RouteHistograms.new (.ofExact (.finite halflife))).observeAll key
      [(10, 0), (1, -(halflife : ℝ))]).estimate key none).toNat = 19 := by
  have kept := observeAll_pair (.finite halflife) key 10 1 (-(halflife : ℝ))
  have learned : ((learnedAverage (.finite halflife) ((10 : UInt32).toNat : ℝ) 0).observe 1
      (.finite (-(halflife : ℝ)))).estimate = some (.finite 19) := by
    have ten : ((10 : UInt32).toNat : ℝ) = 10 := by
      change ((10 : ℕ) : ℝ) = 10
      norm_num
    rw [ten, observe_extrapolates negative]
    rfl
  have rounded := RealFloat.toNat_roundToUInt32_bounds (by norm_num : 19 < 2 ^ 32)
    (by norm_num : ((19 : ℕ) : ℝ) ≤ 19) (by norm_num : (19 : ℝ) ≤ (19 : ℕ))
  rw [estimate_of_inner kept learned]
  omega

theorem convex_of_staysWithinObserved {halflife : ExactFloat}
    (stays : (RouteHistograms.new (.ofExact halflife)).StaysWithinObserved) :
    ConvexHalflife halflife := by
  have atOnce (degenerate : halflife = .finite 0 ∨ halflife = .nan) : False := by
    have bounds := stays ("m", 1) [(2, 0), (2, 0)] (by simp) (by simp) 2 2 (by simp)
    have kept := observeAll_pair halflife ("m", 1) 2 2 0
    have lost := observe_twice_at_once degenerate
    rw [estimate_of_inner kept (by exact_mod_cast lost)] at bounds
    exact absurd bounds.1 (by decide)
  cases halflife with
  | negInf => trivial
  | posInf => trivial
  | nan => exact atOnce (.inr rfl)
  | finite value =>
      rcases lt_trichotomy value 0 with negative | rfl | positive
      · have later : (0 : ℝ) ≤ -(value : ℝ) := by
          have below : (value : ℝ) < 0 := by exact_mod_cast negative
          linarith
        have bounds := stays ("m", 1) [(10, 0), (1, -(value : ℝ))] (by simp)
          (by simpa using later) 1 10 (by simp)
        rw [estimate_of_negative_halflife negative] at bounds
        omega
      · exact (atOnce (.inl rfl)).elim
      · exact positive

/-- An accepted configuration keeps its learned estimates within what was
observed exactly when its half-life is positive or infinite. -/
theorem accepted_estimates_stay_within_observed_iff {raw : RawConfig} {config : Config}
    (accepted : raw.validate = .ok config) :
    config.routeHists.StaysWithinObserved ↔
      (∃ halflife : ℚ, raw.routing.routeP50HalflifeS = .finite halflife ∧ 0 < halflife) ∨
        raw.routing.routeP50HalflifeS = .posInf ∨ raw.routing.routeP50HalflifeS = .negInf := by
  obtain ⟨-, rfl⟩ := RawConfig.validate_eq_ok_iff.mp accepted
  have convexIff : (RouteHistograms.new
      (.ofExact raw.routing.routeP50HalflifeS)).StaysWithinObserved ↔
      ConvexHalflife raw.routing.routeP50HalflifeS :=
    ⟨convex_of_staysWithinObserved, staysWithinObserved_of_convex⟩
  refine convexIff.trans ?_
  cases raw.routing.routeP50HalflifeS <;> simp [ConvexHalflife]

/-- The two backends of the defaults, with the given half-life. -/
def withHalflife (halflife : ExactFloat) : RawConfig :=
  { twoBackends defaultPenalty with
    routing := { RawRouting.default with routeP50HalflifeS := halflife } }

theorem withHalflife_accepted (halflife : ExactFloat) :
    (withHalflife halflife).validate = .ok (withHalflife halflife).toConfig := by
  have checked := (RawConfig.validate_eq_ok_iff.mp (twoBackends_accepted defaultPenalty)).1
  refine RawConfig.validate_eq_ok_iff.mpr ⟨?_, rfl⟩
  exact { checked with }

theorem default_halflife_stays_within_observed :
    (withHalflife 300).toConfig.routeHists.StaysWithinObserved :=
  (accepted_estimates_stay_within_observed_iff (withHalflife_accepted 300)).mpr
    (.inl ⟨300, rfl, by norm_num⟩)

/-- With a half-life of minus one second, the observations ten and one, a second
apart, are estimated as nineteen. -/
theorem negative_halflife_exceeds_observed :
    ∃ config, (withHalflife (.finite (-1))).validate = .ok config ∧
      (config.routeHists.observeAll ("m", 1) [(10, 0), (1, 1)]).estimate ("m", 1) none = 19 ∧
      ¬ config.routeHists.StaysWithinObserved := by
  refine ⟨_, withHalflife_accepted _, ?_, ?_⟩
  · have estimated := estimate_of_negative_halflife (by norm_num : (-1 : ℚ) < 0) ("m", 1)
    have second : -(((-1 : ℚ) : ℝ)) = 1 := by norm_num
    rw [second] at estimated
    exact UInt32.toNat_inj.mp estimated
  · intro stays
    have positive : (0 : ℚ) < -1 := convex_of_staysWithinObserved stays
    norm_num at positive

end KeelRouter
