import KeelRouter.Cost

/-!
# Cost leases

A lease reserves one slot and a KV charge on a backend.  Opening it adds both
to the backend's live counters; observing more tokens than estimated raises the
charge by a further step; dropping it subtracts the slot and the current
charge.  Additions of 32-bit counts wrap around.
-/

namespace KeelRouter

structure CostLease where
  backend : BackendRef
  charged : Int64
  kvModel : KvModel
  promptTokens : UInt32
  oHat : UInt32
  tokensSeen : UInt32
  dispatchedAt : Instant
  released : Bool
deriving DecidableEq

/-- `CostLease::open` -/
def CostLease.open (backend : BackendRef) (promptTokens oHat : UInt32) (kvModel : KvModel)
    (now : Instant) (heap : Heap) : CostLease × Heap :=
  let charged := kvModel.project promptTokens oHat
  let heap := heap.fetchAddInflight backend 1
  let heap := heap.fetchAddKvProjected backend charged
  ({ backend, charged, kvModel, promptTokens, oHat, tokensSeen := 0,
     dispatchedAt := now, released := false }, heap)

namespace CostLease

/-- `CostLease::observe_tokens` -/
def observeTokens (lease : CostLease) (n : UInt32) (heap : Heap) : CostLease × Heap :=
  let lease := { lease with tokensSeen := lease.tokensSeen + n }
  if lease.oHat < lease.tokensSeen then
    let lease := { lease with oHat := lease.oHat + rechargeStep }
    let newCharge := lease.kvModel.project lease.promptTokens lease.oHat
    let delta := newCharge - lease.charged
    let lease := { lease with charged := newCharge }
    if delta ≠ 0 then (lease, heap.fetchAddKvProjected lease.backend delta)
    else (lease, heap)
  else (lease, heap)

/-- `CostLease::release` -/
def release (lease : CostLease) (heap : Heap) : CostLease × Heap :=
  if lease.released then (lease, heap)
  else
    let lease := { lease with released := true }
    let heap := heap.fetchSubInflight lease.backend 1
    let heap := heap.fetchSubKvProjected lease.backend lease.charged
    ({ lease with charged := 0 }, heap)

/-- `Drop for CostLease` -/
def drop (lease : CostLease) (heap : Heap) : Heap :=
  (lease.release heap).2

section Specification

variable (lease : CostLease) (n : UInt32) (heap : Heap) (other : BackendRef)

theorem open_charged (backend : BackendRef) (promptTokens oHat : UInt32)
    (kvModel : KvModel) (now : Instant) :
    (CostLease.open backend promptTokens oHat kvModel now heap).1.charged =
      kvModel.project promptTokens oHat := rfl

theorem open_live (backend : BackendRef) (promptTokens oHat : UInt32)
    (kvModel : KvModel) (now : Instant) :
    ((CostLease.open backend promptTokens oHat kvModel now heap).2 other).live =
      { inflight := (heap other).live.inflight + if backend = other then 1 else 0
        kvProjectedTokens := (heap other).live.kvProjectedTokens +
          if backend = other then kvModel.project promptTokens oHat else 0 } := by
  simp only [CostLease.open, LiveCounters.ext_iff, Heap.fetchAddKvProjected_inflight,
    Heap.fetchAddInflight_inflight, Heap.fetchAddKvProjected_kvProjectedTokens,
    Heap.fetchAddInflight_kvProjectedTokens, and_self]

@[simp]
theorem open_caps (backend : BackendRef) (promptTokens oHat : UInt32)
    (kvModel : KvModel) (now : Instant) :
    ((CostLease.open backend promptTokens oHat kvModel now heap).2 other).caps =
      (heap other).caps := by
  simp [CostLease.open]

theorem observeTokens_fields :
    (lease.observeTokens n heap).1.backend = lease.backend ∧
      (lease.observeTokens n heap).1.kvModel = lease.kvModel ∧
      (lease.observeTokens n heap).1.promptTokens = lease.promptTokens ∧
      (lease.observeTokens n heap).1.tokensSeen = lease.tokensSeen + n ∧
      (lease.observeTokens n heap).1.released = lease.released := by
  simp only [observeTokens]
  split
  · split <;> simp
  · simp

theorem observeTokens_of_lt (exceeds : lease.oHat < lease.tokensSeen + n) :
    (lease.observeTokens n heap).1 =
      { lease with
        tokensSeen := lease.tokensSeen + n
        oHat := lease.oHat + rechargeStep
        charged := lease.kvModel.project lease.promptTokens (lease.oHat + rechargeStep) } := by
  unfold observeTokens
  dsimp only
  rw [if_pos exceeds]
  split <;> rfl

theorem observeTokens_of_not_lt (within : ¬ lease.oHat < lease.tokensSeen + n) :
    (lease.observeTokens n heap).1 = { lease with tokensSeen := lease.tokensSeen + n } := by
  unfold observeTokens
  dsimp only
  rw [if_neg within]

/-- The shared counter moves by exactly the change of the lease's own charge. -/
theorem observeTokens_live :
    ((lease.observeTokens n heap).2 other).live =
      { inflight := (heap other).live.inflight
        kvProjectedTokens := (heap other).live.kvProjectedTokens +
          if lease.backend = other
          then (lease.observeTokens n heap).1.charged - lease.charged else 0 } := by
  simp only [observeTokens]
  split
  · split
    · simp [LiveCounters.ext_iff]
    · rename_i unchanged
      have same := not_not.mp unchanged
      simp [same]
  · simp

@[simp]
theorem observeTokens_caps :
    ((lease.observeTokens n heap).2 other).caps = (heap other).caps := by
  unfold observeTokens
  dsimp only
  split
  · split <;> simp
  · rfl

@[simp]
theorem drop_caps : ((lease.drop heap) other).caps = (heap other).caps := by
  unfold drop release
  split <;> simp

theorem drop_live (unreleased : lease.released = false) :
    ((lease.drop heap) other).live =
      { inflight := (heap other).live.inflight - if lease.backend = other then 1 else 0
        kvProjectedTokens := (heap other).live.kvProjectedTokens -
          if lease.backend = other then lease.charged else 0 } := by
  simp [drop, release, unreleased, LiveCounters.ext_iff]

/-- A lease that is dropped right after its opening leaves no trace. -/
theorem drop_open (backend : BackendRef) (promptTokens oHat : UInt32) (kvModel : KvModel)
    (now : Instant) :
    (CostLease.open backend promptTokens oHat kvModel now heap).1.drop
      (CostLease.open backend promptTokens oHat kvModel now heap).2 = heap := by
  simp [CostLease.open, drop, release, Heap.fetchAddInflight, Heap.fetchAddKvProjected,
    Heap.fetchSubInflight, Heap.fetchSubKvProjected, Heap.modifyLive]

end Specification

end CostLease

end KeelRouter
