import KeelRouter.ExactFloat
import Mathlib.Algebra.Order.Round
import Mathlib.Analysis.SpecialFunctions.Exp
import Mathlib.Data.Sign.Basic

/-!
# Floating point numbers with exact real arithmetic

The real counterpart of the rational floating point values, for computations
that take exponentials.  Finite operations are exact and the special values
follow IEEE 754; there is a single zero, which divides like the positive one.
-/

inductive RealFloat where
  | nan
  | negInf
  | finite (value : ℝ)
  | posInf

namespace RealFloat

noncomputable section

def ofExact : ExactFloat → RealFloat
  | .nan => .nan
  | .negInf => .negInf
  | .finite value => .finite value
  | .posInf => .posInf

def sign : RealFloat → SignType
  | .nan => 0
  | .negInf => -1
  | .finite value => SignType.sign value
  | .posInf => 1

def signedInf : SignType → RealFloat
  | .pos => .posInf
  | .neg => .negInf
  | .zero => .nan

protected def add : RealFloat → RealFloat → RealFloat
  | .nan, _ => .nan
  | _, .nan => .nan
  | .finite first, .finite second => .finite (first + second)
  | .posInf, .negInf => .nan
  | .negInf, .posInf => .nan
  | .posInf, _ => .posInf
  | _, .posInf => .posInf
  | .negInf, _ => .negInf
  | _, .negInf => .negInf

protected def neg : RealFloat → RealFloat
  | .nan => .nan
  | .negInf => .posInf
  | .finite value => .finite (-value)
  | .posInf => .negInf

protected def mul : RealFloat → RealFloat → RealFloat
  | .nan, _ => .nan
  | _, .nan => .nan
  | .finite first, .finite second => .finite (first * second)
  | first, second => signedInf (first.sign * second.sign)

protected def div : RealFloat → RealFloat → RealFloat
  | .nan, _ => .nan
  | _, .nan => .nan
  | .finite first, .finite second =>
      if second = 0 then signedInf (SignType.sign first) else .finite (first / second)
  | .finite _, _ => .finite 0
  | first, .finite second => if 0 ≤ second then first else first.neg
  | _, _ => .nan

/-- The larger operand; a `nan` operand loses against any other. -/
protected def max : RealFloat → RealFloat → RealFloat
  | .nan, second => second
  | first, .nan => first
  | .finite first, .finite second => .finite (max first second)
  | .posInf, _ => .posInf
  | _, .posInf => .posInf
  | .negInf, second => second
  | first, .negInf => first

instance instZero : Zero RealFloat := ⟨.finite 0⟩
instance instOne : One RealFloat := ⟨.finite 1⟩
instance instAdd : Add RealFloat := ⟨RealFloat.add⟩
instance instNeg : Neg RealFloat := ⟨RealFloat.neg⟩
instance instSub : Sub RealFloat := ⟨fun first second => first + -second⟩
instance instMul : Mul RealFloat := ⟨RealFloat.mul⟩
instance instDiv : Div RealFloat := ⟨RealFloat.div⟩
instance instMax : Max RealFloat := ⟨RealFloat.max⟩

def exp : RealFloat → RealFloat
  | .nan => .nan
  | .negInf => .finite 0
  | .finite value => .finite (Real.exp value)
  | .posInf => .posInf

/-- Rounding, then the saturating conversion to an unsigned 32-bit integer. -/
def roundToUInt32 : RealFloat → UInt32
  | .nan => 0
  | .negInf => 0
  | .finite value => UInt32.ofNat (min (round value).toNat 4294967295)
  | .posInf => 4294967295

theorem zero_eq : (0 : RealFloat) = .finite 0 := rfl

theorem one_eq : (1 : RealFloat) = .finite 1 := rfl

@[simp]
theorem finite_add (first second : ℝ) :
    RealFloat.finite first + .finite second = .finite (first + second) := rfl

@[simp]
theorem finite_sub (first second : ℝ) :
    RealFloat.finite first - .finite second = .finite (first - second) := by
  change RealFloat.finite (first + -second) = _
  rw [sub_eq_add_neg]

@[simp]
theorem finite_mul (first second : ℝ) :
    RealFloat.finite first * .finite second = .finite (first * second) := rfl

@[simp]
theorem neg_finite (value : ℝ) : -RealFloat.finite value = .finite (-value) := rfl

@[simp]
theorem finite_max (first second : ℝ) :
    max (RealFloat.finite first) (.finite second) = .finite (max first second) := rfl

theorem finite_div {first second : ℝ} (nonzero : second ≠ 0) :
    RealFloat.finite first / .finite second = .finite (first / second) := by
  change (if second = 0 then _ else _) = _
  rw [if_neg nonzero]

theorem zero_div_zero : RealFloat.finite 0 / .finite 0 = .nan := by
  change (if (0 : ℝ) = 0 then signedInf (SignType.sign (0 : ℝ)) else _) = _
  rw [if_pos rfl, sign_zero]
  rfl

@[simp]
theorem exp_finite (value : ℝ) : exp (.finite value) = .finite (Real.exp value) := rfl

/-- Rounding moves a number no further than to the integers around it. -/
theorem toNat_roundToUInt32_bounds {value : ℝ} {low high : Nat} (lowFits : low < 2 ^ 32)
    (above : (low : ℝ) ≤ value) (below : value ≤ high) :
    low ≤ (roundToUInt32 (.finite value)).toNat ∧
      (roundToUInt32 (.finite value)).toNat ≤ high := by
  have roundedAbove : (low : ℤ) ≤ round value := by
    rw [round_eq, Int.le_floor]
    push_cast
    linarith
  have roundedBelow : round value ≤ (high : ℤ) := by
    have strict : round value < (high : ℤ) + 1 := by
      rw [round_eq, Int.floor_lt]
      push_cast
      linarith
    omega
  have converted : (roundToUInt32 (.finite value)).toNat =
      min (round value).toNat 4294967295 := by
    change (UInt32.ofNat _).toNat = _
    rw [UInt32.toNat_ofNat_of_lt']
    exact lt_of_le_of_lt (min_le_right _ _) (by decide)
  rw [converted]
  omega

end

end RealFloat
