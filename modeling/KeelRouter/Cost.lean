import KeelRouter.Backend
import Mathlib.Algebra.Order.Field.Basic
import Mathlib.Tactic.Linarith
import Mathlib.Tactic.Positivity

/-!
# The cost model

A request is charged a number of KV tokens that depends on the projection
model.  A backend's occupancy is the larger of its slot fraction and its KV
fraction, and the pressure score adds a convex penalty to the occupancy above
the knee `theta`.

With positive capacities the occupancy is a finite number, `occupancyRatio`,
and for a nonnegative penalty the score is strictly increasing in it.
-/

namespace KeelRouter

def defaultTheta : ExactFloat := .finite (11 / 20)

def defaultPenalty : ExactFloat := .finite 10

def defaultSigma : ExactFloat := .finite (19 / 20)

def rechargeStep : UInt32 := 50

inductive KvModel where
  | promptOnly
  | promptPlusOutput
deriving DecidableEq

/-- `KvModel::project` -/
def KvModel.project (kvModel : KvModel) (promptTokens oHat : UInt32) : Int64 :=
  match kvModel with
  | .promptOnly => promptTokens.asInt64
  | .promptPlusOutput => promptTokens.asInt64 + oHat.asInt64

/-- A projection is exact: two 32-bit counts never overflow the sum. -/
theorem KvModel.toInt_project (kvModel : KvModel) (promptTokens oHat : UInt32) :
    (kvModel.project promptTokens oHat).toInt =
      match kvModel with
      | .promptOnly => (promptTokens.toNat : ℤ)
      | .promptPlusOutput => promptTokens.toNat + oHat.toNat := by
  have promptBound := promptTokens.toNat_lt
  have outputBound := oHat.toNat_lt
  cases kvModel with
  | promptOnly => exact UInt32.toInt_asInt64 promptTokens
  | promptPlusOutput =>
      change (promptTokens.asInt64 + oHat.asInt64).toInt = _
      rw [Int64.toInt_add_of_mem] <;> simp only [UInt32.toInt_asInt64] <;> omega

theorem KvModel.project_nonneg (kvModel : KvModel) (promptTokens oHat : UInt32) :
    0 ≤ (kvModel.project promptTokens oHat).toInt := by
  rw [toInt_project]
  cases kvModel <;> simp only <;> omega

theorem KvModel.project_lt (kvModel : KvModel) (promptTokens oHat : UInt32) :
    (kvModel.project promptTokens oHat).toInt < 2 ^ 33 := by
  have promptBound := promptTokens.toNat_lt
  have outputBound := oHat.toNat_lt
  rw [toInt_project]
  cases kvModel <;> simp only <;> omega

/-- `counter as f64` for an unsigned counter. -/
def countAsFloat (count : UInt32) : ExactFloat := .finite count.toNat

/-- `kv_projected_tokens.max(0) as f64` -/
def clampedAsFloat (tokens : Int64) : ExactFloat :=
  .finite (max tokens.toInt 0 : ℤ)

/-- `cost::occupancy` -/
def occupancy (b : Backend) : ExactFloat :=
  let n := countAsFloat b.live.inflight
  let kv := clampedAsFloat b.live.kvProjectedTokens
  let slots := n / countAsFloat b.caps.maxNumSeqs
  let mem := kv / countAsFloat b.caps.kvCapacityTokens
  max slots mem

/-- `cost::pressure_score` -/
def pressureScore (u theta penalty : ExactFloat) : ExactFloat :=
  if u < theta then u
  else
    let excess := (u - theta) / (1 - theta)
    u + penalty * excess * excess

/-! ## Occupancy as a rational number -/

def CapsEstimate.Positive (caps : CapsEstimate) : Prop :=
  0 < caps.kvCapacityTokens.toNat ∧ 0 < caps.maxNumSeqs.toNat

instance (caps : CapsEstimate) : Decidable caps.Positive :=
  inferInstanceAs (Decidable (_ ∧ _))

def Snapshot.Positive (snap : Snapshot) (heap : Heap) : Prop :=
  ∀ ref ∈ snap.backends, (heap ref).caps.Positive

/-- The committed fraction of a backend's scarcer resource. -/
def occupancyRatio (b : Backend) : ℚ :=
  max (b.live.inflight.toNat / b.caps.maxNumSeqs.toNat : ℚ)
    ((max b.live.kvProjectedTokens.toInt 0 : ℤ) / b.caps.kvCapacityTokens.toNat : ℚ)

theorem occupancy_eq_finite {b : Backend} (positive : b.caps.Positive) :
    occupancy b = .finite (occupancyRatio b) := by
  have kvNonzero : (b.caps.kvCapacityTokens.toNat : ℚ) ≠ 0 := by
    exact_mod_cast positive.1.ne'
  have slotsNonzero : (b.caps.maxNumSeqs.toNat : ℚ) ≠ 0 := by
    exact_mod_cast positive.2.ne'
  simp only [occupancy, countAsFloat, clampedAsFloat,
    ExactFloat.finite_div kvNonzero, ExactFloat.finite_div slotsNonzero,
    ExactFloat.finite_max, occupancyRatio]

/-! ## The score as a rational function -/

def scoreRatio (u theta penalty : ℚ) : ℚ :=
  if u < theta then u
  else u + penalty * ((u - theta) / (1 - theta)) * ((u - theta) / (1 - theta))

theorem pressureScore_finite {theta : ℚ} (thetaLt : theta < 1) (u penalty : ℚ) :
    pressureScore (.finite u) (.finite theta) (.finite penalty) =
      .finite (scoreRatio u theta penalty) := by
  have spread : (1 : ℚ) - theta ≠ 0 := by linarith
  rw [pressureScore, scoreRatio]
  by_cases below : u < theta
  · rw [if_pos (by simpa using below), if_pos below]
  · rw [if_neg (by simpa using below), if_neg below, ExactFloat.ofNat_eq,
      ExactFloat.finite_sub, ExactFloat.finite_sub]
    simp only [Nat.cast_one, ExactFloat.finite_div spread, ExactFloat.finite_mul,
      ExactFloat.finite_add]

theorem scoreRatio_strictMono {theta penalty : ℚ} (thetaLt : theta < 1)
    (penaltyNonneg : 0 ≤ penalty) :
    StrictMono fun u => scoreRatio u theta penalty := by
  intro first second less
  have spread : 0 < 1 - theta := by linarith
  have penalized (u : ℚ) :
      0 ≤ penalty * ((u - theta) / (1 - theta)) * ((u - theta) / (1 - theta)) := by
    rw [mul_assoc]
    exact mul_nonneg penaltyNonneg (mul_self_nonneg _)
  simp only [scoreRatio]
  by_cases secondBelow : second < theta
  · rw [if_pos (lt_trans less secondBelow), if_pos secondBelow]
    exact less
  · rw [if_neg secondBelow]
    by_cases firstBelow : first < theta
    · rw [if_pos firstBelow]
      linarith [penalized second]
    · rw [if_neg firstBelow]
      have firstOver : 0 ≤ (first - theta) / (1 - theta) :=
        div_nonneg (by linarith) spread.le
      have overMono : (first - theta) / (1 - theta) ≤ (second - theta) / (1 - theta) :=
        (div_le_div_iff_of_pos_right spread).mpr (by linarith)
      have squares := mul_self_le_mul_self firstOver overMono
      have scaled := mul_le_mul_of_nonneg_left squares penaltyNonneg
      rw [← mul_assoc, ← mul_assoc] at scaled
      linarith

end KeelRouter
