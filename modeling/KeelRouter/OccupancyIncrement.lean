import KeelRouter.Pressure
import Mathlib.Data.List.ProdSigma
import Mathlib.Tactic.Ring

/-!
# What one request does to the occupancy

A request takes a share of its backend's slots and a share of its KV capacity;
the larger one bounds what it adds to the occupancy.  A backend that takes a
request the gate admitted stays within its capacities, and one that the gate
refuses is within one request's share of the gate's limit.
-/

namespace KeelRouter

/-- The share of a backend that one request takes of its scarcer resource. -/
def increment (b : Backend) (needKv : Int64) : ℚ :=
  max (1 / b.caps.maxNumSeqs.toNat) (needKv.toInt / b.caps.kvCapacityTokens.toNat)

/-- The largest share that one of the requests takes of one of the healthy backends. -/
def largestIncrement (strategy : Pressure) (heap : Heap) (snap : Snapshot)
    (reqs : List RequestFeatures) : ℚ :=
  ((snap.healthy ×ˢ reqs).map fun pair =>
    increment (heap (snap.refOf pair.1)) (strategy.needKv pair.2)).foldr max 0

section LargestIncrement

variable {strategy : Pressure} {heap : Heap} {snap : Snapshot} {reqs : List RequestFeatures}

theorem foldr_max_le_iff {values : List ℚ} {bound : ℚ} :
    values.foldr max 0 ≤ bound ↔ 0 ≤ bound ∧ ∀ value ∈ values, value ≤ bound := by
  induction values with
  | nil => simp
  | cons value values ih =>
      rw [List.foldr_cons, max_le_iff, ih, List.forall_mem_cons]
      exact and_left_comm

theorem largestIncrement_le_iff {bound : ℚ} :
    largestIncrement strategy heap snap reqs ≤ bound ↔
      0 ≤ bound ∧ ∀ id ∈ snap.healthy, ∀ req ∈ reqs,
        increment (heap (snap.refOf id)) (strategy.needKv req) ≤ bound := by
  rw [largestIncrement, foldr_max_le_iff, List.forall_mem_map]
  apply and_congr_right
  intro _
  constructor
  · intro bounded id idMem req reqMem
    exact bounded (id, req) (List.mem_product.mpr ⟨idMem, reqMem⟩)
  · intro bounded pair member
    obtain ⟨idMem, reqMem⟩ := List.mem_product.mp member
    exact bounded pair.1 idMem pair.2 reqMem

end LargestIncrement

/-! ## Occupancy of one backend -/

section Occupancy

variable {b raised : Backend} {needKv : Int64} {sigma : ℚ}

theorem increment_nonneg (b : Backend) (needKv : Int64) : 0 ≤ increment b needKv := by
  apply le_max_of_le_left
  positivity

theorem occupancyRatio_eq_max (kvNonneg : 0 ≤ b.live.kvProjectedTokens.toInt) :
    occupancyRatio b = max (b.live.inflight.toNat / b.caps.maxNumSeqs.toNat : ℚ)
      (b.live.kvProjectedTokens.toInt / b.caps.kvCapacityTokens.toNat) := by
  rw [occupancyRatio, max_eq_left kvNonneg]

theorem occupancyRatio_raised (kvNonneg : 0 ≤ b.live.kvProjectedTokens.toInt)
    (needNonneg : 0 ≤ needKv.toInt) (sameCaps : raised.caps = b.caps)
    (slots : raised.live.inflight.toNat = b.live.inflight.toNat + 1)
    (tokens : raised.live.kvProjectedTokens.toInt =
      b.live.kvProjectedTokens.toInt + needKv.toInt) :
    occupancyRatio b ≤ occupancyRatio raised ∧
      occupancyRatio raised ≤ occupancyRatio b + increment b needKv := by
  have needExact : (0 : ℚ) ≤ needKv.toInt := by exact_mod_cast needNonneg
  have slotShare : (0 : ℚ) ≤ 1 / b.caps.maxNumSeqs.toNat := by positivity
  have tokenShare : (0 : ℚ) ≤ needKv.toInt / b.caps.kvCapacityTokens.toNat := by positivity
  have raisedNonneg : 0 ≤ raised.live.kvProjectedTokens.toInt := by omega
  rw [occupancyRatio_eq_max kvNonneg, occupancyRatio_eq_max raisedNonneg, sameCaps, slots,
    tokens, increment]
  push_cast
  rw [add_div, add_div]
  constructor
  · exact max_le_max (by linarith) (by linarith)
  · apply max_le
    · exact add_le_add (le_max_left _ _) (le_max_left _ _)
    · exact add_le_add (le_max_right _ _) (le_max_right _ _)

/-- A backend that has just taken a request the gate admitted is within its capacities. -/
theorem occupancyRatio_le_one (nonneg : 0 ≤ sigma) (atMostOne : sigma ≤ 1)
    (admitted : admits b needKv (.finite sigma) = true) (sameCaps : raised.caps = b.caps)
    (slots : raised.live.inflight.toNat = b.live.inflight.toNat + 1)
    (tokens : raised.live.kvProjectedTokens = b.live.kvProjectedTokens + needKv)
    (raisedNonneg : 0 ≤ raised.live.kvProjectedTokens.toInt) :
    occupancyRatio raised ≤ 1 := by
  obtain ⟨kvOk, slotOk⟩ := (admits_iff nonneg atMostOne).mp admitted
  rw [occupancyRatio_eq_max raisedNonneg, sameCaps, slots, tokens]
  apply max_le
  · apply div_le_one_of_le₀ _ (by positivity)
    exact_mod_cast slotOk
  · apply div_le_one_of_le₀ _ (by positivity)
    refine kvOk.trans ?_
    exact mul_le_of_le_one_left (by positivity) atMostOne

/-- A backend that the gate leaves out is within one request's share of the limit. -/
theorem le_occupancyRatio_of_refused (positive : b.caps.Positive) (nonneg : 0 ≤ sigma)
    (atMostOne : sigma ≤ 1) (kvNonneg : 0 ≤ b.live.kvProjectedTokens.toInt)
    (needNonneg : 0 ≤ needKv.toInt) (refused : ¬ admits b needKv (.finite sigma) = true) :
    sigma - increment b needKv ≤ occupancyRatio b := by
  have capacityPos : (0 : ℚ) < b.caps.kvCapacityTokens.toNat := by exact_mod_cast positive.1
  have seqsPos : (0 : ℚ) < b.caps.maxNumSeqs.toNat := by exact_mod_cast positive.2
  rw [admits_iff nonneg atMostOne, not_and_or] at refused
  rcases refused with tokensOver | slotsOver
  · -- a wrapped sum is no larger than the exact one, so the exact one is over the limit
    have wrapped : (((b.live.kvProjectedTokens + needKv).toInt : ℤ) : ℚ) ≤
        b.live.kvProjectedTokens.toInt + needKv.toInt := by
      exact_mod_cast Int64.toInt_add_le kvNonneg needNonneg
    have excess : sigma * b.caps.kvCapacityTokens.toNat <
        b.live.kvProjectedTokens.toInt + needKv.toInt :=
      lt_of_lt_of_le (not_le.mp tokensOver) wrapped
    have share : sigma <
        b.live.kvProjectedTokens.toInt / b.caps.kvCapacityTokens.toNat +
          needKv.toInt / b.caps.kvCapacityTokens.toNat := by
      rw [← add_div, lt_div_iff₀ capacityPos]
      exact excess
    have tokensBelow : (b.live.kvProjectedTokens.toInt : ℚ) / b.caps.kvCapacityTokens.toNat ≤
        occupancyRatio b := by
      rw [occupancyRatio_eq_max kvNonneg]
      exact le_max_right _ _
    have needBelow : (needKv.toInt : ℚ) / b.caps.kvCapacityTokens.toNat ≤
        increment b needKv := le_max_right _ _
    linarith
  · have full : (1 : ℚ) ≤ b.live.inflight.toNat / b.caps.maxNumSeqs.toNat := by
      rw [one_le_div seqsPos]
      exact_mod_cast not_lt.mp slotsOver
    have slotsBelow : (b.live.inflight.toNat : ℚ) / b.caps.maxNumSeqs.toNat ≤
        occupancyRatio b := le_max_left _ _
    linarith [increment_nonneg b needKv]

end Occupancy

end KeelRouter
