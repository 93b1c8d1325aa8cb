import Mathlib.Algebra.BigOperators.Group.Finset.Basic
import Mathlib.Algebra.Order.BigOperators.Group.Finset
import Mathlib.Algebra.Order.Group.Defs
import Mathlib.Algebra.Order.Group.Unbundled.Basic
import Mathlib.Data.Set.Basic

/-!
# Balance of greedy assignment

Some bins carry loads.  A greedy step raises the load of one bin, and the bin
it raises does not end up above any other bin by more than a fixed bound.  Such
steps keep the loads within the bound of each other: the raised bin by the
choice of the step, and every other bin because the raised one only grew.
-/

namespace GreedyBalance

variable {ι K : Type*} [AddCommGroup K] [LinearOrder K]

/-- No two bins differ by more than the bound. -/
def Spread (bins : Set ι) (bound : K) (load : ι → K) : Prop :=
  ∀ first ∈ bins, ∀ second ∈ bins, load first - load second ≤ bound

/-- A step that raises one bin only, and not too far above any other. -/
structure Raise (bins : Set ι) (bound : K) (load next : ι → K) (chosen : ι) : Prop where
  grows : load chosen ≤ next chosen
  frame : ∀ other, other ≠ chosen → next other = load other
  fair : ∀ other ∈ bins, other ≠ chosen → next chosen - load other ≤ bound

variable {bins : Set ι} {bound : K} {load next : ι → K} {chosen : ι}

theorem Spread.of_const (level : K) (boundNonneg : 0 ≤ bound)
    (same : ∀ bin ∈ bins, load bin = level) : Spread bins bound load := by
  intro first firstMem second secondMem
  rw [same first firstMem, same second secondMem, sub_self]
  exact boundNonneg

theorem Spread.raise [IsOrderedAddMonoid K] (boundNonneg : 0 ≤ bound) (spread : Spread bins bound load)
    (raised : Raise bins bound load next chosen) : Spread bins bound next := by
  intro first firstMem second secondMem
  by_cases firstChosen : first = chosen
  · by_cases secondChosen : second = chosen
    · rw [firstChosen, secondChosen, sub_self]
      exact boundNonneg
    · rw [firstChosen, raised.frame second secondChosen]
      exact raised.fair second secondMem secondChosen
  · rw [raised.frame first firstChosen]
    by_cases secondChosen : second = chosen
    · subst secondChosen
      calc
        load first - next second ≤ load first - load second :=
          sub_le_sub_left raised.grows _
        _ ≤ bound := spread first firstMem second secondMem
    · rw [raised.frame second secondChosen]
      exact spread first firstMem second secondMem

/-- A least loaded bin carries at most the average. -/
theorem le_average {bins : Finset ι} {load : ι → ℕ} {chosen : ι} (nonempty : bins.Nonempty)
    (least : ∀ other ∈ bins, load chosen ≤ load other) {total : ℕ}
    (bounded : ∑ bin ∈ bins, load bin ≤ total) : load chosen ≤ total / bins.card := by
  rw [Nat.le_div_iff_mul_le nonempty.card_pos]
  calc
    load chosen * bins.card = bins.card • load chosen := Nat.mul_comm _ _
    _ ≤ ∑ bin ∈ bins, load bin := Finset.card_nsmul_le_sum _ _ _ least
    _ ≤ total := bounded

end GreedyBalance
