import KeelRouter.ExactFloat
import KeelRouter.MachineIntegers
import Mathlib.Tactic.Linarith
import Mathlib.Tactic.FieldSimp
import Mathlib.Tactic.Positivity

/-!
# Warning once on a running mean

Two monitors keep a count of samples, the sum of the samples in thousandths and
whether they have warned.  From the fiftieth sample on they compare the mean
with a range, and the first mean outside it is reported.
-/

namespace KeelRouter

/-- `MIN_SAMPLES` -/
def minSamples : UInt64 := 50

/-- `(ratio * 1000.0).round() as u64` -/
def milliOf (ratio : ExactFloat) : UInt64 := (ratio * 1000).round.toUInt64

/-- `sum as f64 / 1000.0 / n as f64` -/
def meanOf (sum n : UInt64) : ExactFloat := .finite sum.toNat / 1000 / .finite n.toNat

/-- The three statics of a monitor. -/
structure WarnOnce where
  samples : UInt64
  sumMilli : UInt64
  warned : Bool
deriving DecidableEq

namespace WarnOnce

def initial : WarnOnce := ⟨0, 0, false⟩

/-- A sample that no other one interrupts, with the mean and the count that are
reported, if they are. -/
def record (self : WarnOnce) (ratio : ExactFloat) (outside : ExactFloat → Bool) :
    WarnOnce × Option (ExactFloat × UInt64) :=
  let milli := milliOf ratio
  let n := self.samples + 1
  let sum := self.sumMilli + milli
  let counted : WarnOnce := { self with samples := n, sumMilli := sum }
  if n < minSamples ∨ self.warned = true then (counted, none)
  else
    let mean := meanOf sum n
    if outside mean then ({ counted with warned := true }, some (mean, n)) else (counted, none)

end WarnOnce

theorem meanOf_eq_finite (sum : UInt64) {n : UInt64} (positive : n ≠ 0) :
    meanOf sum n = .finite (sum.toNat / 1000 / n.toNat) := by
  have nonzero : (n.toNat : ℚ) ≠ 0 := Nat.cast_ne_zero.mpr (UInt64.toNat_ne_zero positive)
  unfold meanOf
  rw [ExactFloat.ofNat_eq, ExactFloat.finite_div (by norm_num), ExactFloat.finite_div nonzero]
  rfl

theorem toNat_milliOf {ratio : ℚ} (nonneg : 0 ≤ ratio) :
    (milliOf (.finite ratio)).toNat = min ⌊ratio * 1000 + 1 / 2⌋.toNat (2 ^ 64 - 1) := by
  have scaled : 0 ≤ ratio * 1000 := by positivity
  have rounded : (0 : ℚ) ≤ ⌊ratio * 1000 + 1 / 2⌋ := by
    exact_mod_cast Int.floor_nonneg.mpr (by linarith)
  unfold milliOf
  rw [ExactFloat.ofNat_eq, ExactFloat.finite_mul]
  unfold ExactFloat.round
  dsimp only
  have half : ExactFloat.roundHalfAway (ratio * (1000 : ℕ)) = ⌊ratio * 1000 + 1 / 2⌋ :=
    ExactFloat.roundHalfAway_of_nonneg scaled
  rw [half, ExactFloat.toNat_toUInt64_finite rounded, Int.floor_intCast]

/-- Rounding keeps a sample between whole thousandths. -/
theorem toNat_milliOf_bounds {ratio : ℚ} {low high : Nat} (small : high < 2 ^ 64)
    (above : (low : ℚ) ≤ ratio * 1000) (below : ratio * 1000 ≤ high) :
    low ≤ (milliOf (.finite ratio)).toNat ∧ (milliOf (.finite ratio)).toNat ≤ high := by
  have nonneg : 0 ≤ ratio := by
    have lowNonneg : (0 : ℚ) ≤ low := by positivity
    linarith
  have roundedAbove : (low : ℤ) ≤ ⌊ratio * 1000 + 1 / 2⌋ := by
    rw [Int.le_floor]
    push_cast
    linarith
  have roundedBelow : ⌊ratio * 1000 + 1 / 2⌋ < (high : ℤ) + 1 := by
    rw [Int.floor_lt]
    push_cast
    linarith
  rw [toNat_milliOf nonneg]
  omega

end KeelRouter
