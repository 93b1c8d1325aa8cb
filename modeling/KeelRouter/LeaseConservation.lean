import KeelRouter.BackendHealth
import KeelRouter.CostLease
import KeelRouter.EventRun
import KeelRouter.KeyedSum

/-!
# Conservation of lease charges

Any number of leases on any number of backends are opened, observed and
dropped in any order, while the snapshot is replaced at any moment.  The open
leases are a ledger: a backend's live counters are the balances of its own
entries, one per lease for the slot counter and the lease's current charge for
the KV counter.  All counter arithmetic wraps around.
-/

namespace KeelRouter

structure LeaseState where
  heap : Heap
  snapshot : Snapshot
  leases : List CostLease

inductive LeaseEvent where
  | open (backend : BackendRef) (promptTokens oHat : UInt32) (kvModel : KvModel)
      (now : Instant)
  | observeTokens (position : Nat) (n : UInt32)
  | drop (position : Nat)
  | nextSnapshot

namespace LeaseState

/-- The state before any request, with every counter at its default. -/
def initial (heap : Heap) (snapshot : Snapshot) : LeaseState where
  heap := heap
  snapshot := snapshot
  leases := []

def openLease (state : LeaseState) (backend : BackendRef) (promptTokens oHat : UInt32)
    (kvModel : KvModel) (now : Instant) : LeaseState :=
  let opened := CostLease.open backend promptTokens oHat kvModel now state.heap
  { state with heap := opened.2, leases := opened.1 :: state.leases }

def observeLease (state : LeaseState) (position : Nat) (lease : CostLease)
    (n : UInt32) : LeaseState :=
  let observed := lease.observeTokens n state.heap
  { state with heap := observed.2, leases := state.leases.set position observed.1 }

def dropLease (state : LeaseState) (position : Nat) (lease : CostLease) : LeaseState :=
  { state with
    heap := lease.drop state.heap
    leases := state.leases.eraseIdx position }

def swapSnapshot (state : LeaseState) : LeaseState :=
  { state with snapshot := nextSnapshot state.heap state.snapshot }

/-- One operation on the leases; leases are addressed by their position among
the open ones. -/
def step (state : LeaseState) : LeaseEvent → Option LeaseState
  | .open backend promptTokens oHat kvModel now =>
      some (state.openLease backend promptTokens oHat kvModel now)
  | .observeTokens position n =>
      (state.leases[position]?).map fun lease => state.observeLease position lease n
  | .drop position =>
      (state.leases[position]?).map fun lease => state.dropLease position lease
  | .nextSnapshot => some state.swapSnapshot

theorem step_cases {state next : LeaseState} {event : LeaseEvent}
    (stepped : state.step event = some next) :
    (∃ backend promptTokens oHat kvModel now,
      event = .open backend promptTokens oHat kvModel now ∧
        next = state.openLease backend promptTokens oHat kvModel now) ∨
    (∃ position lease n, event = .observeTokens position n ∧
      state.leases[position]? = some lease ∧
        next = state.observeLease position lease n) ∨
    (∃ position lease, event = .drop position ∧
      state.leases[position]? = some lease ∧ next = state.dropLease position lease) ∨
    (event = .nextSnapshot ∧ next = state.swapSnapshot) := by
  cases event with
  | «open» backend promptTokens oHat kvModel now =>
      exact .inl ⟨backend, promptTokens, oHat, kvModel, now, rfl, (Option.some.inj stepped).symm⟩
  | observeTokens position n =>
      obtain ⟨lease, present, finished⟩ := Option.map_eq_some_iff.mp stepped
      exact .inr (.inl ⟨position, lease, n, rfl, present, finished.symm⟩)
  | drop position =>
      obtain ⟨lease, present, finished⟩ := Option.map_eq_some_iff.mp stepped
      exact .inr (.inr (.inl ⟨position, lease, rfl, present, finished.symm⟩))
  | nextSnapshot =>
      exact .inr (.inr (.inr ⟨rfl, (Option.some.inj stepped).symm⟩))

theorem step_caps {state next : LeaseState} {event : LeaseEvent}
    (stepped : state.step event = some next) (ref : BackendRef) :
    (next.heap ref).caps = (state.heap ref).caps := by
  rcases step_cases stepped with ⟨backend, promptTokens, oHat, kvModel, now, -, rfl⟩ |
    ⟨position, lease, n, -, -, rfl⟩ | ⟨position, lease, -, -, rfl⟩ | ⟨-, rfl⟩
  · exact CostLease.open_caps state.heap ref backend promptTokens oHat kvModel now
  · exact lease.observeTokens_caps n state.heap ref
  · exact lease.drop_caps state.heap ref
  · rfl

theorem step_backends {state next : LeaseState} {event : LeaseEvent}
    (stepped : state.step event = some next) :
    next.snapshot.backends = state.snapshot.backends := by
  rcases step_cases stepped with ⟨backend, promptTokens, oHat, kvModel, now, -, rfl⟩ |
    ⟨position, lease, n, -, -, rfl⟩ | ⟨position, lease, -, -, rfl⟩ | ⟨-, rfl⟩ <;> rfl

/-- The backend whose counters an operation may change. -/
def target (state : LeaseState) : LeaseEvent → Option BackendRef
  | .open backend _ _ _ _ => some backend
  | .observeTokens position _ => (state.leases[position]?).map CostLease.backend
  | .drop position => (state.leases[position]?).map CostLease.backend
  | .nextSnapshot => none

def openOn (state : LeaseState) (ref : BackendRef) : List CostLease :=
  state.leases.filter fun lease => lease.backend = ref

/-- Every counter is the balance of the open leases, and no open lease has
been released. -/
structure Balanced (state : LeaseState) : Prop where
  unreleased : ∀ lease ∈ state.leases, lease.released = false
  inflight : ∀ ref, (state.heap ref).live.inflight =
    keyedSum CostLease.backend (fun _ => (1 : UInt32)) state.leases ref
  kvProjectedTokens : ∀ ref, (state.heap ref).live.kvProjectedTokens =
    keyedSum CostLease.backend CostLease.charged state.leases ref

theorem balanced_initial {heap : Heap} (fresh : ∀ ref, (heap ref).live = .default)
    (snapshot : Snapshot) : (initial heap snapshot).Balanced where
  unreleased _ member := by simp [initial] at member
  inflight ref := by simp [initial, fresh, LiveCounters.default]
  kvProjectedTokens ref := by simp [initial, fresh, LiveCounters.default]

theorem balanced_open {state : LeaseState} (balanced : state.Balanced)
    (backend : BackendRef) (promptTokens oHat : UInt32) (kvModel : KvModel) (now : Instant) :
    (state.openLease backend promptTokens oHat kvModel now).Balanced := by
  refine ⟨?_, ?_, ?_⟩
  · intro lease member
    rcases List.mem_cons.mp member with rfl | earlier
    · rfl
    · exact balanced.unreleased lease earlier
  · intro ref
    rw [openLease, CostLease.open_live, keyedSum_cons, balanced.inflight ref]
    exact add_comm _ _
  · intro ref
    rw [openLease, CostLease.open_live, keyedSum_cons, balanced.kvProjectedTokens ref]
    exact add_comm _ _

theorem balanced_observeTokens {state : LeaseState} (balanced : state.Balanced)
    {position : Nat} {lease : CostLease} (present : state.leases[position]? = some lease)
    (n : UInt32) : (state.observeLease position lease n).Balanced := by
  obtain ⟨sameBackend, -, -, -, sameReleased⟩ := lease.observeTokens_fields n state.heap
  have member : lease ∈ state.leases := List.mem_of_getElem? present
  refine ⟨?_, ?_, ?_⟩
  · intro other otherMem
    rcases List.mem_or_eq_of_mem_set otherMem with earlier | rfl
    · exact balanced.unreleased other earlier
    · exact sameReleased.trans (balanced.unreleased lease member)
  · intro ref
    rw [observeLease, CostLease.observeTokens_live,
      keyedSum_set_same_key CostLease.backend (fun _ => (1 : UInt32)) present sameBackend,
      balanced.inflight ref]
    simp
  · intro ref
    rw [observeLease, CostLease.observeTokens_live,
      keyedSum_set_same_key CostLease.backend CostLease.charged present sameBackend,
      balanced.kvProjectedTokens ref]

theorem balanced_drop {state : LeaseState} (balanced : state.Balanced)
    {position : Nat} {lease : CostLease} (present : state.leases[position]? = some lease) :
    (state.dropLease position lease).Balanced := by
  have member : lease ∈ state.leases := List.mem_of_getElem? present
  have unreleased := balanced.unreleased lease member
  refine ⟨?_, ?_, ?_⟩
  · intro other otherMem
    exact balanced.unreleased other (List.mem_of_mem_eraseIdx otherMem)
  · intro ref
    rw [dropLease, CostLease.drop_live lease state.heap ref unreleased,
      keyedSum_eraseIdx CostLease.backend (fun _ => (1 : UInt32)) present,
      balanced.inflight ref]
  · intro ref
    rw [dropLease, CostLease.drop_live lease state.heap ref unreleased,
      keyedSum_eraseIdx CostLease.backend CostLease.charged present,
      balanced.kvProjectedTokens ref]

theorem balanced_step {state next : LeaseState} {event : LeaseEvent}
    (balanced : state.Balanced) (stepped : state.step event = some next) :
    next.Balanced := by
  rcases step_cases stepped with ⟨backend, promptTokens, oHat, kvModel, now, -, rfl⟩ |
    ⟨position, lease, n, -, present, rfl⟩ | ⟨position, lease, -, present, rfl⟩ | ⟨-, rfl⟩
  · exact balanced_open balanced backend promptTokens oHat kvModel now
  · exact balanced_observeTokens balanced present n
  · exact balanced_drop balanced present
  · exact ⟨balanced.unreleased, balanced.inflight, balanced.kvProjectedTokens⟩

theorem balanced_run {state last : LeaseState} {events : List LeaseEvent}
    (balanced : state.Balanced) (executed : EventRun.run step state events = some last) :
    last.Balanced :=
  EventRun.run_preserves (fun _ _ _ => balanced_step) balanced executed

theorem step_live_of_ne_target {state next : LeaseState} {event : LeaseEvent}
    (balanced : state.Balanced) (stepped : state.step event = some next)
    {other : BackendRef} (different : state.target event ≠ some other) :
    (next.heap other).live = (state.heap other).live := by
  rcases step_cases stepped with ⟨backend, promptTokens, oHat, kvModel, now, rfl, rfl⟩ |
    ⟨position, lease, n, rfl, present, rfl⟩ | ⟨position, lease, rfl, present, rfl⟩ | ⟨rfl, rfl⟩
  · have ne : backend ≠ other := fun same => different (congrArg some same)
    rw [openLease, CostLease.open_live]
    simp [ne]
  · have ne : lease.backend ≠ other := by
      intro same
      exact different (by simp [target, present, same])
    rw [observeLease, CostLease.observeTokens_live]
    simp [ne]
  · have ne : lease.backend ≠ other := by
      intro same
      exact different (by simp [target, present, same])
    have unreleased := balanced.unreleased lease (List.mem_of_getElem? present)
    rw [dropLease, CostLease.drop_live lease state.heap other unreleased]
    simp [ne]
  · rfl

namespace Balanced

variable {state : LeaseState} (balanced : state.Balanced) (ref : BackendRef)
include balanced

theorem inflight_toNat :
    (state.heap ref).live.inflight.toNat = (state.openOn ref).length % 2 ^ 32 := by
  rw [balanced.inflight ref]
  exact UInt32.toNat_sum_map_one (state.openOn ref)

theorem kvProjectedTokens_modEq :
    (state.heap ref).live.kvProjectedTokens.toInt ≡
      ((state.openOn ref).map fun lease => lease.charged.toInt).sum [ZMOD 2 ^ 64] := by
  rw [balanced.kvProjectedTokens ref]
  have summed := Int64.toInt_sum_modEq ((state.openOn ref).map CostLease.charged)
  rwa [List.map_map] at summed

theorem live_eq_default_of_idle (idle : state.openOn ref = []) :
    (state.heap ref).live = .default := by
  have inflightZero := balanced.inflight ref
  have kvZero := balanced.kvProjectedTokens ref
  rw [keyedSum, show state.leases.filter _ = [] from idle] at inflightZero kvZero
  exact LiveCounters.ext inflightZero kvZero

end Balanced

/-- In every state reached from default counters, the counters of each backend
count its open leases and sum their charges, an operation on a lease moves no
other backend's counters, and an idle backend's counters are zero. -/
theorem lease_conservation {heap : Heap} (fresh : ∀ ref, (heap ref).live = .default)
    (snapshot : Snapshot) (events : List LeaseEvent) {state : LeaseState}
    (executed : EventRun.run step (initial heap snapshot) events = some state) :
    (∀ ref,
      (state.heap ref).live.inflight.toNat = (state.openOn ref).length % 2 ^ 32 ∧
      (state.heap ref).live.kvProjectedTokens.toInt ≡
        ((state.openOn ref).map fun lease => lease.charged.toInt).sum [ZMOD 2 ^ 64]) ∧
    (∀ event next, state.step event = some next →
      ∀ other, state.target event ≠ some other →
        (next.heap other).live = (state.heap other).live) ∧
    (∀ ref, state.openOn ref = [] → (state.heap ref).live = .default) := by
  have balanced := balanced_run (balanced_initial fresh snapshot) executed
  refine ⟨fun ref => ⟨balanced.inflight_toNat ref, balanced.kvProjectedTokens_modEq ref⟩,
    ?_, fun ref idle => balanced.live_eq_default_of_idle ref idle⟩
  intro event next stepped other different
  exact step_live_of_ne_target balanced stepped different

theorem lease_conservation_recharge_then_drop :
    ∃ state, EventRun.run step
        (initial (fun _ => Backend.fresh ⟨0⟩ "http://x" "m" 1 ⟨8192, 32⟩) ⟨0, [0, 1], [⟨0⟩], []⟩)
        [.open 0 100 10 .promptPlusOutput 0, .open 1 7 5 .promptOnly 1,
          .observeTokens 1 11, .nextSnapshot, .drop 0] = some state ∧
      (state.heap 0).live.inflight.toNat = (state.openOn 0).length % 2 ^ 32 ∧
      (state.heap 0).live.kvProjectedTokens.toInt ≡
        ((state.openOn 0).map fun lease => lease.charged.toInt).sum [ZMOD 2 ^ 64] := by
  refine ⟨_, rfl, ?_⟩
  have executed : EventRun.run step
      (initial (fun _ => Backend.fresh ⟨0⟩ "http://x" "m" 1 ⟨8192, 32⟩) ⟨0, [0, 1], [⟨0⟩], []⟩)
      [.open 0 100 10 .promptPlusOutput 0, .open 1 7 5 .promptOnly 1,
        .observeTokens 1 11, .nextSnapshot, .drop 0] = some _ := rfl
  exact (lease_conservation (fun _ => rfl) _ _ executed).1 0

end LeaseState

end KeelRouter
