import Mathlib.Algebra.BigOperators.Group.List.Basic
import Mathlib.Data.Int.ModEq
import Mathlib.Data.UInt

/-!
# Fixed-width counters

Atomic counters wrap around.  `Int64` is a commutative group under wrapping
addition, as `UInt32` is, so a counter maintained by wrapping additions and
subtractions is a group element.  The lemmas below read such a counter as an
exact number where the exact result fits in the width.
-/

namespace Int64

instance instAddCommGroup : AddCommGroup Int64 where
  add_assoc := Int64.add_assoc
  zero_add := Int64.zero_add
  add_zero := Int64.add_zero
  add_comm := Int64.add_comm
  neg_add_cancel := Int64.add_left_neg
  sub_eq_add_neg := Int64.sub_eq_add_neg
  nsmul := nsmulRec
  zsmul := zsmulRec

theorem toInt_add_of_mem {first second : Int64}
    (above : -2 ^ 63 ≤ first.toInt + second.toInt)
    (below : first.toInt + second.toInt < 2 ^ 63) :
    (first + second).toInt = first.toInt + second.toInt := by
  rw [Int64.toInt_add]
  exact Int.bmod_eq_of_le (by omega) (by omega)

theorem toInt_sub_of_mem {first second : Int64}
    (above : -2 ^ 63 ≤ first.toInt - second.toInt)
    (below : first.toInt - second.toInt < 2 ^ 63) :
    (first - second).toInt = first.toInt - second.toInt := by
  rw [Int64.toInt_sub]
  exact Int.bmod_eq_of_le (by omega) (by omega)

/-- A wrapping sum of nonnegative numbers never exceeds the exact sum. -/
theorem toInt_add_le {first second : Int64}
    (firstNonneg : 0 ≤ first.toInt) (secondNonneg : 0 ≤ second.toInt) :
    (first + second).toInt ≤ first.toInt + second.toInt := by
  rcases lt_or_ge (first.toInt + second.toInt) (2 ^ 63) with small | large
  · exact (toInt_add_of_mem (by omega) small).le
  · have wrapped := (first + second).toInt_lt
    omega

end Int64

namespace UInt32

theorem toNat_ne_zero {value : UInt32} (nonzero : value ≠ 0) : value.toNat ≠ 0 := by
  rwa [← UInt32.toNat_zero, UInt32.toNat_inj.ne]

def asInt64 (value : UInt32) : Int64 := Int64.ofNat value.toNat

@[simp]
theorem toInt_asInt64 (value : UInt32) : value.asInt64.toInt = value.toNat := by
  have small := value.toNat_lt
  exact Int64.toInt_ofNat_of_lt (by omega)

end UInt32

theorem UInt64.toNat_ne_zero {value : UInt64} (nonzero : value ≠ 0) : value.toNat ≠ 0 := by
  rwa [← UInt64.toNat_zero, UInt64.toNat_inj.ne]

/-! ## Wrapping sums modulo the width -/

/-- A wrapping sum agrees with the exact sum modulo the width. -/
theorem Int64.toInt_sum_modEq (values : List Int64) :
    values.sum.toInt ≡ (values.map Int64.toInt).sum [ZMOD 2 ^ 64] := by
  induction values with
  | nil => exact Int.ModEq.refl 0
  | cons value values ih =>
      rw [List.sum_cons, List.map_cons, List.sum_cons, Int64.toInt_add]
      have wrapped (exact : ℤ) : exact.bmod (2 ^ 64) ≡ exact [ZMOD 2 ^ 64] := by
        have reduced := Int.bmod_emod (x := exact) (m := 2 ^ 64)
        exact_mod_cast reduced
      calc
        (value.toInt + values.sum.toInt).bmod (2 ^ 64) ≡
            value.toInt + values.sum.toInt [ZMOD 2 ^ 64] := wrapped _
        _ ≡ value.toInt + (values.map Int64.toInt).sum [ZMOD 2 ^ 64] :=
          Int.ModEq.add_left _ ih

/-- Counting up by ones counts the list modulo the width. -/
theorem UInt32.toNat_sum_map_one {ι : Type*} (entries : List ι) :
    (entries.map fun _ => (1 : UInt32)).sum.toNat = entries.length % 2 ^ 32 := by
  induction entries with
  | nil => rfl
  | cons entry entries ih =>
      rw [List.map_cons, List.sum_cons, UInt32.toNat_add, ih]
      simp only [List.length_cons, UInt32.toNat_one]
      omega
