import Mathlib.Data.Rat.Floor
import Mathlib.Algebra.Order.Floor.Ring
import Mathlib.Order.Compare

/-!
# Floating point numbers with exact finite arithmetic

A floating point value is a rational number or one of the three special values
`nan`, `negInf` and `posInf`.  Finite operations are exact, and the special
values follow IEEE 754: comparisons with `nan` are unordered, an infinity
absorbs finite summands, and the indeterminate forms give `nan`.  There is a
single zero, which divides like the positive one.  `roundNat` is the rounding
that integers undergo when they are converted.
-/

/-- A floating point value whose finite part is an exact rational number. -/
inductive ExactFloat where
  | nan
  | negInf
  | finite (value : ℚ)
  | posInf
deriving DecidableEq

namespace ExactFloat

instance (n : Nat) : OfNat ExactFloat n := ⟨.finite n⟩

/-- The partial order of floating point values; `nan` compares with nothing. -/
def partialCmp : ExactFloat → ExactFloat → Option Ordering
  | .nan, _ => none
  | _, .nan => none
  | .finite first, .finite second => some (compare first second)
  | .negInf, .negInf => some .eq
  | .posInf, .posInf => some .eq
  | .negInf, _ => some .lt
  | _, .posInf => some .lt
  | .posInf, _ => some .gt
  | _, .negInf => some .gt

instance : LT ExactFloat := ⟨fun first second => partialCmp first second = some .lt⟩

instance : LE ExactFloat :=
  ⟨fun first second => first < second ∨ partialCmp first second = some .eq⟩

instance (first second : ExactFloat) : Decidable (first < second) :=
  inferInstanceAs (Decidable (partialCmp first second = some .lt))

instance (first second : ExactFloat) : Decidable (first ≤ second) :=
  inferInstanceAs (Decidable (first < second ∨ partialCmp first second = some .eq))

def isFinite : ExactFloat → Bool
  | .finite _ => true
  | _ => false

protected def add : ExactFloat → ExactFloat → ExactFloat
  | .nan, _ => .nan
  | _, .nan => .nan
  | .finite first, .finite second => .finite (first + second)
  | .posInf, .negInf => .nan
  | .negInf, .posInf => .nan
  | .posInf, _ => .posInf
  | _, .posInf => .posInf
  | .negInf, _ => .negInf
  | _, .negInf => .negInf

protected def neg : ExactFloat → ExactFloat
  | .nan => .nan
  | .negInf => .posInf
  | .finite value => .finite (-value)
  | .posInf => .negInf

def signedInf (sign : ℤ) : ExactFloat :=
  if 0 < sign then .posInf else if sign < 0 then .negInf else .nan

def sign : ExactFloat → ℤ
  | .nan => 0
  | .negInf => -1
  | .finite value => if 0 < value then 1 else if value < 0 then -1 else 0
  | .posInf => 1

protected def mul : ExactFloat → ExactFloat → ExactFloat
  | .nan, _ => .nan
  | _, .nan => .nan
  | .finite first, .finite second => .finite (first * second)
  | first, second => signedInf (first.sign * second.sign)

protected def div : ExactFloat → ExactFloat → ExactFloat
  | .nan, _ => .nan
  | _, .nan => .nan
  | .finite first, .finite second =>
      if second = 0 then signedInf (ExactFloat.finite first).sign
      else .finite (first / second)
  | .finite _, _ => .finite 0
  | first, .finite second => if 0 ≤ second then first else first.neg
  | _, _ => .nan

/-- The larger operand; a `nan` operand loses against any other. -/
protected def max : ExactFloat → ExactFloat → ExactFloat
  | .nan, second => second
  | first, .nan => first
  | first, second => if first < second then second else first

instance : Add ExactFloat := ⟨ExactFloat.add⟩
instance : Neg ExactFloat := ⟨ExactFloat.neg⟩
instance : Sub ExactFloat := ⟨fun first second => first + -second⟩
instance : Mul ExactFloat := ⟨ExactFloat.mul⟩
instance : Div ExactFloat := ⟨ExactFloat.div⟩
instance : Max ExactFloat := ⟨ExactFloat.max⟩

def truncate (value : ℚ) : ℤ :=
  if value < 0 then ⌈value⌉ else ⌊value⌋

/-- Saturating conversion to a signed 64-bit integer, with `nan` going to zero. -/
def toInt64 : ExactFloat → Int64
  | .nan => 0
  | .negInf => Int64.minValue
  | .posInf => Int64.maxValue
  | .finite value =>
      if truncate value < -2 ^ 63 then Int64.minValue
      else if 2 ^ 63 ≤ truncate value then Int64.maxValue
      else Int64.ofInt (truncate value)

/-- Saturating conversion to an unsigned 32-bit integer, with `nan` going to zero. -/
def toUInt32 : ExactFloat → UInt32
  | .nan => 0
  | .negInf => 0
  | .posInf => UInt32.ofNat (2 ^ 32 - 1)
  | .finite value => UInt32.ofNat (min (truncate value).toNat (2 ^ 32 - 1))

/-- Saturating conversion to an unsigned 64-bit integer, with `nan` going to zero. -/
def toUInt64 : ExactFloat → UInt64
  | .nan => 0
  | .negInf => 0
  | .posInf => UInt64.ofNat (2 ^ 64 - 1)
  | .finite value => UInt64.ofNat (min (truncate value).toNat (2 ^ 64 - 1))

/-- The multiple of the unit nearest to a value, the even one of two. -/
def nearestMultiple (unit value : ℕ) : ℕ :=
  let below := value / unit * unit
  let rest := value % unit
  if unit < 2 * rest ∨ (unit = 2 * rest ∧ value / unit % 2 = 1) then below + unit else below

/-- The nearest number with 53 binary digits, the value of `as f64`. -/
def roundNat (value : ℕ) : ℕ := nearestMultiple (2 ^ (value.log2 - 52)) value

def ceil : ExactFloat → ExactFloat
  | .finite value => .finite ⌈value⌉
  | special => special

/-- Rounding to the nearest integer, with halves going away from zero. -/
def roundHalfAway (value : ℚ) : ℤ :=
  if value < 0 then ⌈value - 1 / 2⌉ else ⌊value + 1 / 2⌋

def round : ExactFloat → ExactFloat
  | .finite value => .finite (roundHalfAway value)
  | special => special

protected def abs : ExactFloat → ExactFloat
  | .negInf => .posInf
  | .finite value => .finite |value|
  | special => special

@[simp]
theorem partialCmp_finite (first second : ℚ) :
    partialCmp (.finite first) (.finite second) = some (compare first second) :=
  rfl

@[simp]
theorem partialCmp_finite_posInf (value : ℚ) :
    partialCmp (.finite value) .posInf = some .lt :=
  rfl

@[simp]
theorem finite_lt_finite (first second : ℚ) :
    ExactFloat.finite first < .finite second ↔ first < second := by
  change some (compare first second) = some .lt ↔ first < second
  rw [Option.some.injEq, compare_lt_iff_lt]

@[simp]
theorem finite_le_finite (first second : ℚ) :
    ExactFloat.finite first ≤ .finite second ↔ first ≤ second := by
  change ExactFloat.finite first < .finite second ∨
    some (compare first second) = some .eq ↔ first ≤ second
  rw [finite_lt_finite, Option.some.injEq, compare_eq_iff_eq, le_iff_lt_or_eq]

theorem finite_of_bounded {low high : ℚ} {value : ExactFloat}
    (above : .finite low < value) (below : value < .finite high ∨ value ≤ .finite high) :
    ∃ exact, value = .finite exact := by
  cases value with
  | finite exact => exact ⟨exact, rfl⟩
  | nan => simp [LT.lt, partialCmp] at above
  | negInf => simp [LT.lt, partialCmp] at above
  | posInf => simp [LT.lt, LE.le, partialCmp] at below

theorem ofNat_eq (n : Nat) : (OfNat.ofNat n : ExactFloat) = .finite n := rfl

@[simp]
theorem finite_add (first second : ℚ) :
    ExactFloat.finite first + .finite second = .finite (first + second) := rfl

@[simp]
theorem finite_sub (first second : ℚ) :
    ExactFloat.finite first - .finite second = .finite (first - second) := by
  change ExactFloat.finite (first + -second) = _
  rw [sub_eq_add_neg]

@[simp]
theorem finite_mul (first second : ℚ) :
    ExactFloat.finite first * .finite second = .finite (first * second) := rfl

theorem finite_div {first second : ℚ} (nonzero : second ≠ 0) :
    ExactFloat.finite first / .finite second = .finite (first / second) := by
  change (if second = 0 then _ else _) = _
  rw [if_neg nonzero]

@[simp]
theorem finite_max (first second : ℚ) :
    max (ExactFloat.finite first) (.finite second) = .finite (max first second) := by
  change (if ExactFloat.finite first < .finite second then _ else _) = _
  rcases lt_or_ge first second with less | greater
  · rw [if_pos (by simpa using less), max_eq_right less.le]
  · rw [if_neg (by simpa using greater), max_eq_left greater]

theorem toInt_toInt64_finite {value : ℚ} (nonneg : 0 ≤ value) (small : value < 2 ^ 63) :
    (ExactFloat.finite value).toInt64.toInt = ⌊value⌋ := by
  have truncated : truncate value = ⌊value⌋ := if_neg (not_lt.mpr nonneg)
  have floorNonneg : 0 ≤ ⌊value⌋ := Int.floor_nonneg.mpr nonneg
  have floorSmall : ⌊value⌋ < 2 ^ 63 := by
    rw [Int.floor_lt]
    exact_mod_cast small
  simp only [toInt64, truncated]
  rw [if_neg (by omega), if_neg (by omega)]
  exact Int64.toInt_ofInt_of_le (by omega) (by omega)

theorem toNat_toUInt64_finite {value : ℚ} (nonneg : 0 ≤ value) :
    (ExactFloat.finite value).toUInt64.toNat = min ⌊value⌋.toNat (2 ^ 64 - 1) := by
  have truncated : truncate value = ⌊value⌋ := if_neg (not_lt.mpr nonneg)
  simp only [toUInt64, truncated]
  rw [UInt64.toNat_ofNat_of_lt']
  change min _ _ < 2 ^ 64
  omega

theorem roundHalfAway_of_nonneg {value : ℚ} (nonneg : 0 ≤ value) :
    roundHalfAway value = ⌊value + 1 / 2⌋ := if_neg (not_lt.mpr nonneg)

/-! ## Integers with at most 53 digits -/

theorem nearestMultiple_one (value : ℕ) : nearestMultiple 1 value = value := by
  simp [nearestMultiple, Nat.mod_one]

/-- Up to the first power with 54 digits no integer is rounded. -/
theorem roundNat_of_le {value : ℕ} (small : value ≤ 2 ^ 53) : roundNat value = value := by
  rcases small.lt_or_eq with less | rfl
  · have digits : value.log2 - 52 = 0 := by
      by_cases zero : value = 0
      · simp [zero]
      · have short := (Nat.log2_lt zero).mpr less
        omega
    rw [roundNat, digits, Nat.pow_zero, nearestMultiple_one]
  · decide

example : roundNat (2 ^ 53 + 1) = 2 ^ 53 ∧ roundNat (2 ^ 53 + 3) = 2 ^ 53 + 4 := by decide

/-! ## The order of all values -/

theorem partialCmp_self_ne_lt (value : ExactFloat) : partialCmp value value ≠ some .lt := by
  cases value <;> simp [partialCmp]

theorem partialCmp_trans (first second third : ExactFloat)
    (less : partialCmp first second = some .lt)
    (next : partialCmp second third = some .lt ∨ partialCmp second third = some .eq) :
    partialCmp first third = some .lt := by
  cases first <;> cases second <;> cases third <;>
    simp_all [partialCmp, compare_lt_iff_lt]
  rcases next with below | same
  · exact less.trans below
  · exact same ▸ less

/-- Values that are numbers compare. -/
theorem le_of_not_lt {first second : ExactFloat} (firstNumber : first ≠ .nan)
    (secondNumber : second ≠ .nan) (notLess : ¬ second < first) : first ≤ second := by
  change partialCmp first second = some .lt ∨ partialCmp first second = some .eq
  replace notLess : partialCmp second first ≠ some .lt := notLess
  cases first <;> cases second <;> simp_all [partialCmp, compare_lt_iff_lt]
  exact notLess.lt_or_eq

/-! ## Infinite operands -/

theorem partialCmp_posInf (value : ExactFloat) :
    (partialCmp value .posInf = some .lt ∨ partialCmp value .posInf = some .eq) ↔
      value ≠ .nan := by
  cases value <;> simp [partialCmp]

theorem posInf_mul_finite {value : ℚ} (positive : 0 < value) :
    ExactFloat.posInf * .finite value = .posInf := by
  change signedInf (1 * if 0 < value then 1 else if value < 0 then -1 else 0) = .posInf
  rw [if_pos positive]
  rfl

theorem negInf_mul_finite {value : ℚ} (positive : 0 < value) :
    ExactFloat.negInf * .finite value = .negInf := by
  change signedInf (-1 * if 0 < value then 1 else if value < 0 then -1 else 0) = .negInf
  rw [if_pos positive]
  rfl

theorem finite_mul_posInf (value : ℚ) :
    ExactFloat.finite value * .posInf =
      if 0 < value then .posInf else if value < 0 then .negInf else .nan := by
  change signedInf ((if 0 < value then 1 else if value < 0 then -1 else 0) * 1) = _
  split
  · rfl
  · split <;> rfl

end ExactFloat
