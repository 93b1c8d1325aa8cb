import KeelRouter.PressureArgmin
import KeelRouter.RouterConfig
import KeelRouter.RoutingStrategy
import Mathlib.Tactic.FieldSimp
import Mathlib.Tactic.Ring

/-!
# What an accepted configuration says about fuller backends

Validation puts the knee inside the open unit interval but never looks at the
penalty.  The score ranks fuller backends as worse exactly when the penalty is
a finite number that is not negative: a negative one bends the score down above
the knee, and a special value makes it incomparable at the knee.
-/

namespace KeelRouter

structure UnknownStrategy where
  strategy : String
deriving DecidableEq

/-- The strategy that `main` builds from a configuration. -/
def Config.buildStrategy (config : Config) : Except UnknownStrategy RoutingStrategy :=
  match config.strategy with
  | "round_robin" => .ok (.roundRobin 0)
  | "p2c" => .ok .p2c
  | "least_requests" | "least_conn" => .ok .leastRequests
  | "least_kvts" => .ok .leastKvts
  | "pressure" => .ok (.pressure {
      theta := config.theta
      penalty := config.penalty
      sigma := config.sigma
      kvModel := config.kvModel })
  | other => .error ⟨other⟩

/-- Only the name `pressure` builds the pressure strategy, and with the
parameters of the configuration. -/
theorem buildStrategy_pressure {config : Config} {self : Pressure}
    (built : config.buildStrategy = .ok (.pressure self)) :
    self = ⟨config.theta, config.penalty, config.sigma, config.kvModel⟩ := by
  unfold Config.buildStrategy at built
  split at built <;> simp_all

/-- A strictly higher occupancy always has a strictly higher score. -/
def RanksFuller (theta penalty : ExactFloat) : Prop :=
  ∀ first second : ℚ, 0 ≤ first → first < second →
    pressureScore (.finite first) theta penalty < pressureScore (.finite second) theta penalty

/-- A pick never has a strictly higher occupancy than another backend of its pool. -/
def Pressure.NeverPrefersFuller (self : Pressure) : Prop :=
  ∀ (heap : Heap) (snap : Snapshot) (req : RequestFeatures) (rng : SmallRng)
    (trace : Option DecisionTrace) (picked : Picked) (chosen : BackendId),
    snap.Indexed → snap.Positive heap →
    self.pick heap snap req rng trace = .ok picked → picked.chosen = some chosen →
    ∀ other ∈ self.pool heap snap req,
      ¬ occupancyRatio (heap (snap.refOf other)) < occupancyRatio (heap (snap.refOf chosen))

theorem Pressure.InRange.neverPrefersFuller {self : Pressure} (inRange : self.InRange) :
    self.NeverPrefersFuller := by
  intro heap snap req rng trace picked chosen indexed positive returned named other member
  have drawn : (self.pick heap snap req rng trace).map Picked.chosen =
      .ok (rng.choose (self.leastOccupied heap snap req)) :=
    Pressure.pick_chosen_eq inRange indexed positive rng trace
  rw [returned] at drawn
  have chosenDrawn : rng.choose (self.leastOccupied heap snap req) = some chosen :=
    (Except.ok.inj drawn).symm.trans named
  have smallest := (TieScan.mem_minimal.mp (SmallRng.choose_mem chosenDrawn)).2
  exact not_lt.mpr (smallest other member)

section Score

variable {theta : ℚ}

theorem pressureScore_above {u : ℚ} (above : theta ≤ u) (thetaLt : theta < 1)
    (penalty : ExactFloat) :
    pressureScore (.finite u) (.finite theta) penalty =
      .finite u + penalty * .finite ((u - theta) / (1 - theta)) *
        .finite ((u - theta) / (1 - theta)) := by
  have spread : (1 : ℚ) - theta ≠ 0 := by linarith
  unfold pressureScore
  rw [if_neg (by simpa using above), ExactFloat.ofNat_eq, ExactFloat.finite_sub,
    ExactFloat.finite_sub]
  simp only [Nat.cast_one, ExactFloat.finite_div spread]

/-- A penalty that is not a number, or not finite, makes the score at the knee
incomparable. -/
theorem pressureScore_at_knee_of_special (thetaLt : theta < 1) {penalty : ExactFloat}
    (special : ∀ value, penalty ≠ .finite value) :
    pressureScore (.finite theta) (.finite theta) penalty = .nan := by
  rw [pressureScore_above le_rfl thetaLt, sub_self, zero_div]
  cases penalty with
  | finite value => exact absurd rfl (special value)
  | nan => rfl
  | negInf =>
      have indeterminate : ExactFloat.negInf * .finite 0 = .nan := by decide +kernel
      rw [indeterminate]
      rfl
  | posInf =>
      have indeterminate : ExactFloat.posInf * .finite 0 = .nan := by decide +kernel
      rw [indeterminate]
      rfl

theorem scoreRatio_returns {penalty : ℚ} (thetaLt : theta < 1) (negative : penalty < 0) :
    scoreRatio (theta + (1 - theta) ^ 2 / -penalty) theta penalty =
      scoreRatio theta theta penalty := by
  have spread : (1 : ℚ) - theta ≠ 0 := by linarith
  have penaltyNe : penalty ≠ 0 := negative.ne
  have raised : 0 < (1 - theta) ^ 2 / -penalty := by
    apply div_pos _ (by linarith)
    positivity
  rw [scoreRatio, scoreRatio, if_neg (by linarith), if_neg (lt_irrefl theta), sub_self]
  field_simp
  ring

theorem ranksFuller_iff (thetaPos : 0 < theta) (thetaLt : theta < 1) {penalty : ExactFloat} :
    RanksFuller (.finite theta) penalty ↔ ∃ value, penalty = .finite value ∧ 0 ≤ value := by
  constructor
  · intro ranks
    by_cases special : ∀ value, penalty ≠ .finite value
    · have less := ranks theta (theta + 1) thetaPos.le (by linarith)
      rw [pressureScore_at_knee_of_special thetaLt special] at less
      exact absurd less (by simp [LT.lt, ExactFloat.partialCmp])
    · push Not at special
      obtain ⟨value, rfl⟩ := special
      refine ⟨value, rfl, ?_⟩
      by_contra negative
      have valueNeg : value < 0 := not_le.mp negative
      have raised : 0 < (1 - theta) ^ 2 / -value := by
        have spread : 0 < 1 - theta := by linarith
        exact div_pos (by positivity) (by linarith)
      have less := ranks theta (theta + (1 - theta) ^ 2 / -value) thetaPos.le (by linarith)
      rw [pressureScore_finite thetaLt, pressureScore_finite thetaLt,
        scoreRatio_returns thetaLt valueNeg, ExactFloat.finite_lt_finite] at less
      exact lt_irrefl _ less
  · rintro ⟨value, rfl, nonneg⟩ first second - less
    rw [pressureScore_finite thetaLt, pressureScore_finite thetaLt,
      ExactFloat.finite_lt_finite]
    exact scoreRatio_strictMono thetaLt nonneg less

end Score

/-- An accepted configuration ranks fuller backends as worse, and the pressure
strategy built from it never prefers one inside a pool, exactly when its
penalty is a finite number that is not negative. -/
theorem accepted_ranks_fuller_iff {raw : RawConfig} {config : Config}
    (accepted : raw.validate = .ok config) :
    (RanksFuller config.theta config.penalty ∧
      ∀ self, config.buildStrategy = .ok (.pressure self) → self.NeverPrefersFuller) ↔
    ∃ penalty : ℚ, config.penalty = .finite penalty ∧ 0 ≤ penalty := by
  obtain ⟨checked, rfl⟩ := RawConfig.validate_eq_ok_iff.mp accepted
  obtain ⟨theta, thetaEq⟩ := ExactFloat.finite_of_bounded checked.theta.1 (.inl checked.theta.2)
  have bounds := checked.theta
  rw [thetaEq] at bounds
  have thetaPos : 0 < theta := by simpa [ExactFloat.ofNat_eq] using bounds.1
  have thetaLt : theta < 1 := by simpa [ExactFloat.ofNat_eq] using bounds.2
  have thetaConfig : raw.toConfig.theta = .finite theta := thetaEq
  rw [thetaConfig, ranksFuller_iff thetaPos thetaLt]
  constructor
  · exact And.left
  · rintro ⟨penalty, penaltyEq, nonneg⟩
    refine ⟨⟨penalty, penaltyEq, nonneg⟩, ?_⟩
    intro self built
    obtain rfl := buildStrategy_pressure built
    exact Pressure.InRange.neverPrefersFuller
      ⟨theta, penalty, thetaConfig, penaltyEq, thetaPos, thetaLt, nonneg⟩

def twoBackends (penalty : ExactFloat) : RawConfig where
  listener := ⟨"0.0.0.0:8080", "0.0.0.0:9090", defaultMaxBody⟩
  routing := { RawRouting.default with penalty }
  admission := .default
  observability := .default
  signal := .default
  backends := [⟨"http://a", "m", 8192, 10, defaultWeight⟩,
    ⟨"http://b", "m", 8192, 10, defaultWeight⟩]

theorem twoBackends_accepted (penalty : ExactFloat) :
    (twoBackends penalty).validate = .ok (twoBackends penalty).toConfig :=
  RawConfig.validate_eq_ok_iff.mpr
    ⟨RawConfig.checked_of_defaults _ penalty (by simp) (by decide +kernel), rfl⟩

theorem accepted_ranks_fuller_default :
    RanksFuller (twoBackends defaultPenalty).toConfig.theta
      (twoBackends defaultPenalty).toConfig.penalty :=
  ((accepted_ranks_fuller_iff (twoBackends_accepted defaultPenalty)).mpr
    ⟨10, rfl, by norm_num⟩).1

def unevenHeap : Heap := fun ref =>
  { Backend.fresh ⟨UInt16.ofNat ref⟩ "http://a" "m" 1 ⟨8192, 10⟩ with
    live := ⟨if ref = 1 then 8 else 0, 0⟩ }

def unevenSnapshot : Snapshot := ⟨0, [0, 1], [⟨0⟩, ⟨1⟩], []⟩

theorem unevenSnapshot_positive : unevenSnapshot.Positive unevenHeap := by
  intro ref _
  change CapsEstimate.Positive ⟨8192, 10⟩
  decide

/-- With a penalty of minus ten an idle backend loses against one that has eight
of its ten slots taken. -/
theorem negative_penalty_prefers_fuller :
    ∃ config self, (twoBackends (.finite (-10))).validate = .ok config ∧
      config.buildStrategy = .ok (.pressure self) ∧
      ¬ RanksFuller config.theta config.penalty ∧ ¬ self.NeverPrefersFuller := by
  refine ⟨_, _, twoBackends_accepted _, rfl, ?_, ?_⟩
  · intro ranks
    have less := ranks (11 / 20) 1 (by norm_num) (by norm_num)
    revert less
    decide +kernel
  · intro never
    have scanned : Pressure.scan ⟨defaultTheta, .finite (-10), defaultSigma, .promptOnly⟩
        unevenHeap unevenSnapshot ⟨"m", 1, true, 0, none, none, true, 0⟩ =
          .ok ⟨[⟨0⟩, ⟨1⟩], false, [⟨1⟩]⟩ := by
      decide +kernel
    have picked := Pressure.pick_eq_ok (by decide) (by decide) scanned .first none
    have prefersIdle := never unevenHeap unevenSnapshot _ .first none _ ⟨1⟩ (by decide)
      unevenSnapshot_positive picked rfl ⟨0⟩ (by decide +kernel)
    revert prefersIdle
    decide +kernel

end KeelRouter
