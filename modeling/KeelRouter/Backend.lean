import KeelRouter.ExactFloat
import KeelRouter.MachineIntegers
import KeelRouter.PanicOutcome
import Mathlib.Logic.Function.Basic

/-!
# Backends, their shared counters and snapshots

A backend is one shared object: every snapshot and every lease that mentions
it holds the same address, and its counters are atomics updated through that
address.  The heap maps addresses to backend objects, so that replacing a
snapshot copies addresses and never counters.

The ring of a snapshot and the dispatch total and latency averages of the
counters are carried around but never read, and are left out.
-/

namespace KeelRouter

/-- A reading of the process's monotonic clock, in nanoseconds. -/
abbrev Instant := Nat

structure BackendId where
  val : UInt16
deriving DecidableEq

structure CapsEstimate where
  kvCapacityTokens : UInt32
  maxNumSeqs : UInt32
deriving DecidableEq

@[ext]
structure LiveCounters where
  inflight : UInt32
  kvProjectedTokens : Int64
deriving DecidableEq

def LiveCounters.default : LiveCounters where
  inflight := 0
  kvProjectedTokens := 0

structure ReportedLoad where
  observedAt : Instant
  kvUsagePerc : Option ExactFloat
  numRunning : Option UInt32
  numWaiting : Option UInt32
  preemptions : Option UInt64
  prefixHitRate : Option ExactFloat
deriving DecidableEq

structure HealthState where
  consecutiveFailures : UInt32
  ejected : Bool
deriving DecidableEq

def HealthState.default : HealthState where
  consecutiveFailures := 0
  ejected := false

structure Backend where
  id : BackendId
  key : String
  uri : String
  model : String
  weight : ExactFloat
  caps : CapsEstimate
  live : LiveCounters
  reported : Option ReportedLoad
  health : HealthState
deriving DecidableEq

/-- A backend as `main` builds it, before any request reaches it. -/
def Backend.fresh (id : BackendId) (url model : String) (weight : ExactFloat)
    (caps : CapsEstimate) : Backend where
  id := id
  key := url
  uri := url
  model := model
  weight := weight
  caps := caps
  live := .default
  reported := none
  health := .default

/-- The address of a shared backend object, `Arc<Backend>`. -/
abbrev BackendRef := Nat

abbrev Heap := BackendRef → Backend

structure Snapshot where
  epoch : UInt64
  backends : List BackendRef
  healthy : List BackendId
  ring : List (UInt64 × BackendId)
deriving DecidableEq

namespace Snapshot

/-- `&snap.backends[id.0 as usize]`, as an address. -/
def backendRef (snap : Snapshot) (id : BackendId) : Outcome BackendRef :=
  Outcome.index snap.backends id.val.toNat

def backend (snap : Snapshot) (heap : Heap) (id : BackendId) : Outcome Backend :=
  (snap.backendRef id).map heap

/-- Every healthy id indexes the backend list. -/
def Indexed (snap : Snapshot) : Prop :=
  ∀ id ∈ snap.healthy, id.val.toNat < snap.backends.length

instance (snap : Snapshot) : Decidable snap.Indexed :=
  inferInstanceAs (Decidable (∀ id ∈ snap.healthy, id.val.toNat < snap.backends.length))

/-- The address that a healthy id stands for; ids outside the list get address
zero, which no access ever follows. -/
def refOf (snap : Snapshot) (id : BackendId) : BackendRef :=
  (snap.backends[id.val.toNat]?).getD 0

theorem refOf_mem {snap : Snapshot} (indexed : snap.Indexed) {id : BackendId}
    (member : id ∈ snap.healthy) : snap.refOf id ∈ snap.backends := by
  have inside := indexed id member
  rw [refOf, List.getElem?_eq_getElem inside]
  exact List.getElem_mem inside

theorem backendRef_eq_ok {snap : Snapshot} (indexed : snap.Indexed) {id : BackendId}
    (member : id ∈ snap.healthy) :
    snap.backendRef id = .ok (snap.refOf id) := by
  have inside := indexed id member
  apply Outcome.index_eq_ok
  simp [refOf, List.getElem?_eq_getElem inside]

theorem backend_eq_ok {snap : Snapshot} (indexed : snap.Indexed) (heap : Heap)
    {id : BackendId} (member : id ∈ snap.healthy) :
    snap.backend heap id = .ok (heap (snap.refOf id)) := by
  rw [backend, backendRef_eq_ok indexed member]
  rfl

theorem backend_eq_error {snap : Snapshot} (heap : Heap) {id : BackendId}
    (outside : snap.backends.length ≤ id.val.toNat) :
    ∃ panic, snap.backend heap id = .error panic := by
  refine ⟨.indexOutOfBounds id.val.toNat snap.backends.length, ?_⟩
  rw [backend, backendRef, Outcome.index_eq_error outside]
  rfl

end Snapshot

/-! ## Atomic updates of the live counters -/

namespace Heap

def modifyLive (heap : Heap) (ref : BackendRef)
    (update : LiveCounters → LiveCounters) : Heap :=
  Function.update heap ref { heap ref with live := update (heap ref).live }

/-- `backend.live.inflight.fetch_add(n, Relaxed)` -/
def fetchAddInflight (heap : Heap) (ref : BackendRef) (n : UInt32) : Heap :=
  modifyLive heap ref fun live => { live with inflight := live.inflight + n }

/-- `backend.live.inflight.fetch_sub(n, Relaxed)` -/
def fetchSubInflight (heap : Heap) (ref : BackendRef) (n : UInt32) : Heap :=
  modifyLive heap ref fun live => { live with inflight := live.inflight - n }

/-- `backend.live.kv_projected_tokens.fetch_add(n, Relaxed)` -/
def fetchAddKvProjected (heap : Heap) (ref : BackendRef) (n : Int64) : Heap :=
  modifyLive heap ref fun live =>
    { live with kvProjectedTokens := live.kvProjectedTokens + n }

/-- `backend.live.kv_projected_tokens.fetch_sub(n, Relaxed)` -/
def fetchSubKvProjected (heap : Heap) (ref : BackendRef) (n : Int64) : Heap :=
  modifyLive heap ref fun live =>
    { live with kvProjectedTokens := live.kvProjectedTokens - n }

variable (heap : Heap) (ref other : BackendRef)

theorem modifyLive_live (update : LiveCounters → LiveCounters) :
    (modifyLive heap ref update other).live =
      if ref = other then update (heap other).live else (heap other).live := by
  by_cases same : ref = other
  · subst same
    simp [modifyLive]
  · rw [modifyLive, Function.update_of_ne (Ne.symm same), if_neg same]

theorem modifyLive_eq (update : LiveCounters → LiveCounters) :
    modifyLive heap ref update other =
      { heap other with live := (modifyLive heap ref update other).live } := by
  by_cases same : ref = other
  · subst same
    simp [modifyLive]
  · rw [modifyLive, Function.update_of_ne (Ne.symm same)]

@[simp]
theorem fetchAddInflight_inflight (n : UInt32) :
    (fetchAddInflight heap ref n other).live.inflight =
      (heap other).live.inflight + if ref = other then n else 0 := by
  rw [fetchAddInflight, modifyLive_live]
  split <;> simp

@[simp]
theorem fetchAddInflight_kvProjectedTokens (n : UInt32) :
    (fetchAddInflight heap ref n other).live.kvProjectedTokens =
      (heap other).live.kvProjectedTokens := by
  rw [fetchAddInflight, modifyLive_live]
  split <;> simp

@[simp]
theorem fetchAddInflight_caps (n : UInt32) :
    (fetchAddInflight heap ref n other).caps = (heap other).caps := by
  rw [fetchAddInflight, modifyLive_eq]

@[simp]
theorem fetchSubInflight_inflight (n : UInt32) :
    (fetchSubInflight heap ref n other).live.inflight =
      (heap other).live.inflight - if ref = other then n else 0 := by
  rw [fetchSubInflight, modifyLive_live]
  split <;> simp

@[simp]
theorem fetchSubInflight_kvProjectedTokens (n : UInt32) :
    (fetchSubInflight heap ref n other).live.kvProjectedTokens =
      (heap other).live.kvProjectedTokens := by
  rw [fetchSubInflight, modifyLive_live]
  split <;> simp

@[simp]
theorem fetchSubInflight_caps (n : UInt32) :
    (fetchSubInflight heap ref n other).caps = (heap other).caps := by
  rw [fetchSubInflight, modifyLive_eq]

@[simp]
theorem fetchAddKvProjected_inflight (n : Int64) :
    (fetchAddKvProjected heap ref n other).live.inflight =
      (heap other).live.inflight := by
  rw [fetchAddKvProjected, modifyLive_live]
  split <;> simp

@[simp]
theorem fetchAddKvProjected_kvProjectedTokens (n : Int64) :
    (fetchAddKvProjected heap ref n other).live.kvProjectedTokens =
      (heap other).live.kvProjectedTokens + if ref = other then n else 0 := by
  rw [fetchAddKvProjected, modifyLive_live]
  split <;> simp

@[simp]
theorem fetchAddKvProjected_caps (n : Int64) :
    (fetchAddKvProjected heap ref n other).caps = (heap other).caps := by
  rw [fetchAddKvProjected, modifyLive_eq]

@[simp]
theorem fetchSubKvProjected_inflight (n : Int64) :
    (fetchSubKvProjected heap ref n other).live.inflight =
      (heap other).live.inflight := by
  rw [fetchSubKvProjected, modifyLive_live]
  split <;> simp

@[simp]
theorem fetchSubKvProjected_kvProjectedTokens (n : Int64) :
    (fetchSubKvProjected heap ref n other).live.kvProjectedTokens =
      (heap other).live.kvProjectedTokens - if ref = other then n else 0 := by
  rw [fetchSubKvProjected, modifyLive_live]
  split <;> simp

@[simp]
theorem fetchSubKvProjected_caps (n : Int64) :
    (fetchSubKvProjected heap ref n other).caps = (heap other).caps := by
  rw [fetchSubKvProjected, modifyLive_eq]

end Heap

end KeelRouter
