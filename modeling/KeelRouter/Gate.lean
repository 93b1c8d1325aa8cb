import KeelRouter.Cost

/-!
# The admission gate

A backend admits a request when its projected KV charge, the request's
included, stays within the fraction `sigma` of its capacity and it has a free
slot.  An empty set of admitted backends is a valid answer.
-/

namespace KeelRouter

/-- The largest projected charge the gate lets a backend reach,
`(sigma * b.caps.kv_capacity_tokens as f64) as i64`. -/
def kvLimit (b : Backend) (sigma : ExactFloat) : Int64 :=
  (sigma * countAsFloat b.caps.kvCapacityTokens).toInt64

/-- `gate::admits` -/
def admits (b : Backend) (needKv : Int64) (sigma : ExactFloat) : Bool :=
  let projected := b.live.kvProjectedTokens + needKv
  let kvOk := decide (projected ≤ kvLimit b sigma)
  let slotOk := decide (b.live.inflight < b.caps.maxNumSeqs)
  kvOk && slotOk

/-- `gate::eligible` -/
def eligible (heap : Heap) (snap : Snapshot) (needKv : Int64) (sigma : ExactFloat) :
    Outcome (List BackendId) :=
  snap.healthy.foldlM
    (fun out id => do
      let b ← snap.backend heap id
      return if admits b needKv sigma then out ++ [id] else out)
    []

theorem eligible_eq_filter {snap : Snapshot} (indexed : snap.Indexed) (heap : Heap)
    (needKv : Int64) (sigma : ExactFloat) :
    eligible heap snap needKv sigma =
      .ok (snap.healthy.filter fun id => admits (heap (snap.refOf id)) needKv sigma) := by
  have loop : eligible heap snap needKv sigma = .ok (snap.healthy.foldl (fun out id =>
      if admits (heap (snap.refOf id)) needKv sigma then out ++ [id] else out) []) := by
    apply Outcome.foldlM_eq_ok
    intro out id member
    rw [Snapshot.backend_eq_ok indexed heap member]
    rfl
  have collects (items out : List BackendId) :
      items.foldl (fun out id =>
        if admits (heap (snap.refOf id)) needKv sigma then out ++ [id] else out) out =
      out ++ items.filter fun id => admits (heap (snap.refOf id)) needKv sigma := by
    induction items generalizing out with
    | nil => simp
    | cons id items ih =>
        rw [List.foldl_cons, ih, List.filter_cons]
        split <;> simp
  rw [loop, collects, List.nil_append]

theorem eligible_eq_error {snap : Snapshot} (outOfRange : ¬ snap.Indexed) (heap : Heap)
    (needKv : Int64) (sigma : ExactFloat) :
    ∃ panic, eligible heap snap needKv sigma = .error panic := by
  unfold Snapshot.Indexed at outOfRange
  push Not at outOfRange
  obtain ⟨id, member, outside⟩ := outOfRange
  apply Outcome.foldlM_eq_error_of_mem member
  intro out
  obtain ⟨panic, panicked⟩ := Snapshot.backend_eq_error heap outside
  exact ⟨panic, by rw [panicked]; rfl⟩

/-! ## The gate over exact numbers -/

section Exact

variable {b : Backend} {needKv : Int64} {sigma : ℚ}

/-- For a fraction of at most one the limit is the exact product, rounded down. -/
theorem toInt_kvLimit (nonneg : 0 ≤ sigma) (atMostOne : sigma ≤ 1) :
    (kvLimit b (.finite sigma)).toInt = ⌊sigma * b.caps.kvCapacityTokens.toNat⌋ := by
  have capacityNonneg : (0 : ℚ) ≤ b.caps.kvCapacityTokens.toNat := by positivity
  have capacitySmall : (b.caps.kvCapacityTokens.toNat : ℚ) < 2 ^ 32 := by
    exact_mod_cast b.caps.kvCapacityTokens.toNat_lt
  have product : sigma * b.caps.kvCapacityTokens.toNat ≤ b.caps.kvCapacityTokens.toNat :=
    mul_le_of_le_one_left capacityNonneg atMostOne
  rw [kvLimit, countAsFloat, ExactFloat.finite_mul]
  apply ExactFloat.toInt_toInt64_finite
  · positivity
  · linarith

theorem admits_iff (nonneg : 0 ≤ sigma) (atMostOne : sigma ≤ 1) :
    admits b needKv (.finite sigma) = true ↔
      ((b.live.kvProjectedTokens + needKv).toInt : ℚ) ≤
          sigma * b.caps.kvCapacityTokens.toNat ∧
        b.live.inflight.toNat < b.caps.maxNumSeqs.toNat := by
  rw [admits, Bool.and_eq_true, decide_eq_true_iff, decide_eq_true_iff,
    Int64.le_iff_toInt_le, toInt_kvLimit nonneg atMostOne, Int.le_floor,
    UInt32.lt_iff_toNat_lt]

end Exact

end KeelRouter
