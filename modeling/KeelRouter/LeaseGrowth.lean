import KeelRouter.LeaseConservation
import Mathlib.Algebra.Order.BigOperators.Group.List

/-!
# Leases that are only opened

Leases are opened one after the other from idle backends, and none is observed
or dropped.  As long as no counter has wrapped around, a backend's counters are
the exact number of its leases and the exact sum of their charges, and an
opening adds one slot and one charge to its own backend alone.
-/

namespace KeelRouter

namespace LeaseState

/-- No backend has taken so many requests, or so large ones, that one of its
counters has wrapped around. -/
def Unwrapped (state : LeaseState) : Prop :=
  ∀ ref, (state.openOn ref).length < 2 ^ 32 ∧
    ((state.openOn ref).map fun lease => lease.charged.toInt).sum < 2 ^ 63

def load (state : LeaseState) (ref : BackendRef) : ℚ :=
  occupancyRatio (state.heap ref)

/-- The counters are those of the open leases, and the snapshot and the
capacities are those the run started with. -/
structure Dispatching (heap : Heap) (snap : Snapshot) (state : LeaseState) : Prop where
  balanced : state.Balanced
  charges : ∀ lease ∈ state.leases, 0 ≤ lease.charged.toInt ∧ lease.charged.toInt < 2 ^ 33
  snapshot : state.snapshot = snap
  caps : ∀ ref, (state.heap ref).caps = (heap ref).caps

theorem dispatching_initial {heap : Heap} (fresh : ∀ ref, (heap ref).live = .default)
    (snap : Snapshot) : Dispatching heap snap (initial heap snap) where
  balanced := balanced_initial fresh snap
  charges lease member := by cases member
  snapshot := rfl
  caps _ := rfl

namespace Dispatching

variable {heap : Heap} {snap : Snapshot} {state : LeaseState}
  (dispatching : Dispatching heap snap state)

include dispatching

theorem openLease (ref : BackendRef) (promptTokens oHat : UInt32) (kvModel : KvModel)
    (now : Instant) :
    Dispatching heap snap (state.openLease ref promptTokens oHat kvModel now) where
  balanced := balanced_open dispatching.balanced _ _ _ _ _
  charges lease member := by
    rcases List.mem_cons.mp member with rfl | earlier
    · exact ⟨kvModel.project_nonneg promptTokens oHat, kvModel.project_lt promptTokens oHat⟩
    · exact dispatching.charges lease earlier
  snapshot := dispatching.snapshot
  caps other := by
    rw [← dispatching.caps other]
    exact CostLease.open_caps state.heap other ref _ _ kvModel now

theorem charges_nonneg (ref : BackendRef) :
    0 ≤ ((state.openOn ref).map fun lease => lease.charged.toInt).sum := by
  apply List.sum_nonneg
  intro charge member
  obtain ⟨lease, leaseMem, rfl⟩ := List.mem_map.mp member
  exact (dispatching.charges lease (List.mem_of_mem_filter leaseMem)).1

theorem inflight_eq (unwrapped : state.Unwrapped) (ref : BackendRef) :
    (state.heap ref).live.inflight.toNat = (state.openOn ref).length := by
  rw [dispatching.balanced.inflight_toNat ref]
  exact Nat.mod_eq_of_lt (unwrapped ref).1

theorem kvProjectedTokens_eq (unwrapped : state.Unwrapped) (ref : BackendRef) :
    (state.heap ref).live.kvProjectedTokens.toInt =
      ((state.openOn ref).map fun lease => lease.charged.toInt).sum := by
  have congruent := dispatching.balanced.kvProjectedTokens_modEq ref
  have chargesNonneg := dispatching.charges_nonneg ref
  have chargesSmall := (unwrapped ref).2
  have counterLow := (state.heap ref).live.kvProjectedTokens.le_toInt
  have counterHigh := (state.heap ref).live.kvProjectedTokens.toInt_lt
  unfold Int.ModEq at congruent
  omega

theorem kvProjectedTokens_nonneg (unwrapped : state.Unwrapped) (ref : BackendRef) :
    0 ≤ (state.heap ref).live.kvProjectedTokens.toInt := by
  rw [dispatching.kvProjectedTokens_eq unwrapped ref]
  exact dispatching.charges_nonneg ref

/-- Fewer than `2 ^ 30` leases never wrap a counter. -/
theorem unwrapped_of_length_lt (few : state.leases.length < 2 ^ 30) : state.Unwrapped := by
  intro ref
  have fewer : (state.openOn ref).length ≤ state.leases.length := List.length_filter_le _ _
  have total := List.sum_le_card_nsmul
    ((state.openOn ref).map fun lease => lease.charged.toInt) (2 ^ 33) (by
      intro charge member
      obtain ⟨lease, leaseMem, rfl⟩ := List.mem_map.mp member
      exact (dispatching.charges lease (List.mem_of_mem_filter leaseMem)).2.le)
  rw [List.length_map, nsmul_eq_mul] at total
  constructor <;> omega

end Dispatching

/-! ## One opening -/

section Opening

variable {heap : Heap} {snap : Snapshot} {state : LeaseState} {ref : BackendRef}
  {promptTokens oHat : UInt32} {kvModel : KvModel} {now : Instant}

theorem openOn_openLease (other : BackendRef) :
    (state.openLease ref promptTokens oHat kvModel now).openOn other =
      if ref = other then
        (CostLease.open ref promptTokens oHat kvModel now state.heap).1 :: state.openOn other
      else state.openOn other := by
  unfold openOn openLease
  rw [List.filter_cons]
  by_cases same : ref = other
  · simp [same, CostLease.open]
  · simp [same, CostLease.open]

theorem unwrapped_of_openLease
    (unwrapped : (state.openLease ref promptTokens oHat kvModel now).Unwrapped) :
    state.Unwrapped := by
  intro other
  have later := unwrapped other
  have chargeNonneg := kvModel.project_nonneg promptTokens oHat
  rw [openOn_openLease] at later
  split at later
  · simp only [List.length_cons, List.map_cons, List.sum_cons, CostLease.open_charged] at later
    omega
  · exact later

theorem load_openLease_of_ne {other : BackendRef} (different : other ≠ ref) :
    (state.openLease ref promptTokens oHat kvModel now).load other = state.load other := by
  have sameLive : ((state.openLease ref promptTokens oHat kvModel now).heap other).live =
      (state.heap other).live := by
    rw [openLease, CostLease.open_live]
    simp [Ne.symm different]
  have sameCaps : ((state.openLease ref promptTokens oHat kvModel now).heap other).caps =
      (state.heap other).caps :=
    CostLease.open_caps state.heap other ref promptTokens oHat kvModel now
  unfold load occupancyRatio
  rw [sameLive, sameCaps]

theorem counters_openLease (dispatching : Dispatching heap snap state)
    (unwrapped : (state.openLease ref promptTokens oHat kvModel now).Unwrapped) :
    ((state.openLease ref promptTokens oHat kvModel now).heap ref).live.inflight.toNat =
        (state.heap ref).live.inflight.toNat + 1 ∧
      ((state.openLease ref promptTokens oHat kvModel now).heap
          ref).live.kvProjectedTokens.toInt =
        (state.heap ref).live.kvProjectedTokens.toInt +
          (kvModel.project promptTokens oHat).toInt := by
  have later := dispatching.openLease ref promptTokens oHat kvModel now
  have before := unwrapped_of_openLease unwrapped
  rw [later.inflight_eq unwrapped, later.kvProjectedTokens_eq unwrapped,
    dispatching.inflight_eq before, dispatching.kvProjectedTokens_eq before,
    openOn_openLease, if_pos rfl]
  constructor
  · rfl
  · rw [List.map_cons, List.sum_cons, CostLease.open_charged]
    exact add_comm _ _

end Opening

end LeaseState

end KeelRouter
