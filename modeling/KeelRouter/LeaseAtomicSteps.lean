import KeelRouter.CostLease
import KeelRouter.EventRun
import KeelRouter.KeyedSum

/-!
# Lease operations one atomic update at a time

Each lease belongs to one task, and the tasks interleave between any two
atomic updates.  Opening adds the slot and then the charge; a recharge changes
the lease's own fields and then adds the difference; releasing subtracts the
slot and then the charge.  Between the two updates of a release the slot is no
longer counted while the charge still is.

Run without interruption, the two halves of an operation are the operation
itself.
-/

namespace KeelRouter

/-- `lease::assert_invariant`, where both counters are read at one moment -/
def assertInvariant (backend : Backend) : Outcome Unit :=
  let inflight := backend.live.inflight
  let kvProjected := backend.live.kvProjectedTokens
  let key := backend.key.quote
  if inflight ≠ 0 ∨ kvProjected = 0 then .ok ()
  else .error (.assertFailed
    (s!"lease invariant violated on backend {key}: inflight={inflight} but kv_projected={kvProjected} (must be 0 when inflight=0). " ++
      "This is a lease leak — charge was not released on some exit path."))

/-- How far a task has come in its current lease operation. -/
inductive LeasePhase where
  /-- The slot is added, the charge is not. -/
  | opening
  | settled
  /-- The lease carries its new charge, the counter lacks the difference. -/
  | recharging (delta : Int64)
  /-- The slot is subtracted, the charge is not. -/
  | releasing
deriving DecidableEq

structure LeaseTask where
  lease : CostLease
  phase : LeasePhase
deriving DecidableEq

namespace LeaseTask

def backend (task : LeaseTask) : BackendRef := task.lease.backend

def counted (task : LeaseTask) : Bool :=
  task.phase != .releasing

def slots (task : LeaseTask) : UInt32 :=
  if task.counted then 1 else 0

/-- What the task has in the KV counter. -/
def outstanding (task : LeaseTask) : Int64 :=
  match task.phase with
  | .opening => 0
  | .settled => task.lease.charged
  | .recharging delta => task.lease.charged - delta
  | .releasing => task.lease.charged

def settled (task : LeaseTask) : LeaseTask :=
  { task with phase := .settled }

def releasing (task : LeaseTask) : LeaseTask where
  lease := { task.lease with released := true }
  phase := .releasing

def observe (task : LeaseTask) (n : UInt32) (heap : Heap) : LeaseTask :=
  let observed := (task.lease.observeTokens n heap).1
  let delta := observed.charged - task.lease.charged
  { lease := observed, phase := if delta ≠ 0 then .recharging delta else .settled }

theorem settled_backend (task : LeaseTask) : task.settled.backend = task.backend := rfl

theorem releasing_backend (task : LeaseTask) : task.releasing.backend = task.backend := rfl

theorem observe_backend (task : LeaseTask) (n : UInt32) (heap : Heap) :
    (task.observe n heap).backend = task.backend :=
  (task.lease.observeTokens_fields n heap).1

end LeaseTask

structure AtomicState where
  heap : Heap
  tasks : List LeaseTask

inductive AtomicEvent where
  | beginOpen (backend : BackendRef) (promptTokens oHat : UInt32) (kvModel : KvModel)
      (now : Instant)
  | finishOpen (position : Nat)
  | observe (position : Nat) (n : UInt32)
  | finishRecharge (position : Nat)
  | beginRelease (position : Nat)
  | finishRelease (position : Nat)

namespace AtomicState

def initial (heap : Heap) : AtomicState where
  heap := heap
  tasks := []

def spawn (state : AtomicState) (backend : BackendRef) (promptTokens oHat : UInt32)
    (kvModel : KvModel) (now : Instant) : AtomicState where
  heap := state.heap.fetchAddInflight backend 1
  tasks :=
    { lease := (CostLease.open backend promptTokens oHat kvModel now state.heap).1
      phase := .opening } :: state.tasks

/-- Replace one task and run one atomic update of the KV counter for it. -/
def settle (state : AtomicState) (position : Nat) (task : LeaseTask)
    (delta : Int64) : AtomicState where
  heap := state.heap.fetchAddKvProjected task.backend delta
  tasks := state.tasks.set position task.settled

def observeTask (state : AtomicState) (position : Nat) (task : LeaseTask)
    (n : UInt32) : AtomicState :=
  { state with tasks := state.tasks.set position (task.observe n state.heap) }

def beginReleaseTask (state : AtomicState) (position : Nat) (task : LeaseTask) :
    AtomicState where
  heap := state.heap.fetchSubInflight task.backend 1
  tasks := state.tasks.set position task.releasing

def finishReleaseTask (state : AtomicState) (position : Nat) (task : LeaseTask) :
    AtomicState where
  heap := state.heap.fetchSubKvProjected task.backend task.lease.charged
  tasks := state.tasks.eraseIdx position

/-- One atomic update, or one private step of a task. -/
def step (state : AtomicState) : AtomicEvent → Option AtomicState
  | .beginOpen backend promptTokens oHat kvModel now =>
      some (state.spawn backend promptTokens oHat kvModel now)
  | .finishOpen position =>
      (state.tasks[position]?).bind fun task =>
        match task.phase with
        | .opening => some (state.settle position task task.lease.charged)
        | _ => none
  | .observe position n =>
      (state.tasks[position]?).bind fun task =>
        match task.phase with
        | .settled => some (state.observeTask position task n)
        | _ => none
  | .finishRecharge position =>
      (state.tasks[position]?).bind fun task =>
        match task.phase with
        | .recharging delta => some (state.settle position task delta)
        | _ => none
  | .beginRelease position =>
      (state.tasks[position]?).bind fun task =>
        match task.phase with
        | .settled => some (state.beginReleaseTask position task)
        | _ => none
  | .finishRelease position =>
      (state.tasks[position]?).bind fun task =>
        match task.phase with
        | .releasing => some (state.finishReleaseTask position task)
        | _ => none

theorem step_cases {state next : AtomicState} {event : AtomicEvent}
    (stepped : state.step event = some next) :
    (∃ backend promptTokens oHat kvModel now,
      event = .beginOpen backend promptTokens oHat kvModel now ∧
        next = state.spawn backend promptTokens oHat kvModel now) ∨
    (∃ position task delta, state.tasks[position]? = some task ∧
      (task.phase = .opening ∧ delta = task.lease.charged ∨
        task.phase = .recharging delta) ∧ next = state.settle position task delta) ∨
    (∃ position task n, state.tasks[position]? = some task ∧
      task.phase = .settled ∧ next = state.observeTask position task n) ∨
    (∃ position task, event = .beginRelease position ∧
      state.tasks[position]? = some task ∧
        task.phase = .settled ∧ next = state.beginReleaseTask position task) ∨
    (∃ position task, state.tasks[position]? = some task ∧
      task.phase = .releasing ∧ next = state.finishReleaseTask position task) := by
  cases event with
  | beginOpen backend promptTokens oHat kvModel now =>
      exact .inl ⟨backend, promptTokens, oHat, kvModel, now, rfl, (Option.some.inj stepped).symm⟩
  | finishOpen position =>
      obtain ⟨task, present, finished⟩ := Option.bind_eq_some_iff.mp stepped
      cases phaseEq : task.phase <;> simp only [phaseEq, reduceCtorEq] at finished
      exact .inr (.inl ⟨position, task, _, present, .inl ⟨phaseEq, rfl⟩,
        (Option.some.inj finished).symm⟩)
  | observe position n =>
      obtain ⟨task, present, finished⟩ := Option.bind_eq_some_iff.mp stepped
      cases phaseEq : task.phase <;> simp only [phaseEq, reduceCtorEq] at finished
      exact .inr (.inr (.inl ⟨position, task, n, present, phaseEq,
        (Option.some.inj finished).symm⟩))
  | finishRecharge position =>
      obtain ⟨task, present, finished⟩ := Option.bind_eq_some_iff.mp stepped
      cases phaseEq : task.phase <;> simp only [phaseEq, reduceCtorEq] at finished
      exact .inr (.inl ⟨position, task, _, present, .inr phaseEq,
        (Option.some.inj finished).symm⟩)
  | beginRelease position =>
      obtain ⟨task, present, finished⟩ := Option.bind_eq_some_iff.mp stepped
      cases phaseEq : task.phase <;> simp only [phaseEq, reduceCtorEq] at finished
      exact .inr (.inr (.inr (.inl ⟨position, task, rfl, present, phaseEq,
        (Option.some.inj finished).symm⟩)))
  | finishRelease position =>
      obtain ⟨task, present, finished⟩ := Option.bind_eq_some_iff.mp stepped
      cases phaseEq : task.phase <;> simp only [phaseEq, reduceCtorEq] at finished
      exact .inr (.inr (.inr (.inr ⟨position, task, present, phaseEq,
        (Option.some.inj finished).symm⟩)))

/-! ## The halves of an operation make the operation -/

theorem spawn_settle_heap (state : AtomicState) (backend : BackendRef)
    (promptTokens oHat : UInt32) (kvModel : KvModel) (now : Instant) :
    let spawned := state.spawn backend promptTokens oHat kvModel now
    let opened := CostLease.open backend promptTokens oHat kvModel now state.heap
    (spawned.settle 0 ⟨opened.1, .opening⟩ opened.1.charged).heap = opened.2 :=
  rfl

theorem observe_settle_heap (state : AtomicState) (task : LeaseTask) (n : UInt32) :
    (task.lease.observeTokens n state.heap).2 =
      match (task.observe n state.heap).phase with
      | .recharging delta =>
          state.heap.fetchAddKvProjected task.backend delta
      | _ => state.heap := by
  simp only [LeaseTask.observe, CostLease.observeTokens, LeaseTask.backend]
  split
  · split <;> simp_all
  · simp

theorem beginRelease_finishRelease_heap (state : AtomicState) (position : Nat)
    (task : LeaseTask) (unreleased : task.lease.released = false) :
    ((state.beginReleaseTask position task).finishReleaseTask position task.releasing).heap =
      task.lease.drop state.heap := by
  simp [beginReleaseTask, finishReleaseTask, CostLease.drop, CostLease.release,
    unreleased, LeaseTask.backend, LeaseTask.releasing]

/-! ## The counters between two updates -/

/-- Every counter is the sum of what the tasks have in it. -/
structure Tallied (state : AtomicState) : Prop where
  inflight : ∀ ref, (state.heap ref).live.inflight =
    keyedSum LeaseTask.backend LeaseTask.slots state.tasks ref
  kvProjectedTokens : ∀ ref, (state.heap ref).live.kvProjectedTokens =
    keyedSum LeaseTask.backend LeaseTask.outstanding state.tasks ref

theorem tallied_initial {heap : Heap} (fresh : ∀ ref, (heap ref).live = .default) :
    (initial heap).Tallied where
  inflight ref := by simp [initial, fresh, LiveCounters.default]
  kvProjectedTokens ref := by simp [initial, fresh, LiveCounters.default]

theorem tallied_spawn {state : AtomicState} (tallied : state.Tallied)
    (backend : BackendRef) (promptTokens oHat : UInt32) (kvModel : KvModel) (now : Instant) :
    (state.spawn backend promptTokens oHat kvModel now).Tallied := by
  refine ⟨fun ref => ?_, fun ref => ?_⟩
  · simp only [spawn, Heap.fetchAddInflight_inflight, keyedSum_cons, tallied.inflight ref]
    exact add_comm _ _
  · simp only [spawn, Heap.fetchAddInflight_kvProjectedTokens, keyedSum_cons,
      tallied.kvProjectedTokens ref, LeaseTask.outstanding, ite_self, zero_add]

/-- A KV update that matches the change of the task's outstanding charge keeps
the tally. -/
theorem tallied_settle {state : AtomicState} (tallied : state.Tallied)
    {position : Nat} {task : LeaseTask} {delta : Int64}
    (present : state.tasks[position]? = some task)
    (pending : task.phase = .opening ∧ delta = task.lease.charged ∨
      task.phase = .recharging delta) :
    (state.settle position task delta).Tallied := by
  have slotsEq : task.settled.slots = task.slots := by
    rcases pending with ⟨opening, -⟩ | recharging
    · simp [LeaseTask.slots, LeaseTask.counted, LeaseTask.settled, opening]
    · simp [LeaseTask.slots, LeaseTask.counted, LeaseTask.settled, recharging]
  have outstandingEq : task.settled.outstanding - task.outstanding = delta := by
    rcases pending with ⟨opening, rfl⟩ | recharging
    · simp [LeaseTask.outstanding, LeaseTask.settled, opening]
    · simp [LeaseTask.outstanding, LeaseTask.settled, recharging]
  refine ⟨fun ref => ?_, fun ref => ?_⟩
  · simp only [settle, Heap.fetchAddKvProjected_inflight, tallied.inflight ref]
    rw [keyedSum_set_same_key LeaseTask.backend LeaseTask.slots present
      task.settled_backend, slotsEq]
    simp
  · simp only [settle, Heap.fetchAddKvProjected_kvProjectedTokens,
      tallied.kvProjectedTokens ref]
    rw [keyedSum_set_same_key LeaseTask.backend LeaseTask.outstanding present
      task.settled_backend, outstandingEq]

theorem tallied_observeTask {state : AtomicState} (tallied : state.Tallied)
    {position : Nat} {task : LeaseTask} (present : state.tasks[position]? = some task)
    (settled : task.phase = .settled) (n : UInt32) :
    (state.observeTask position task n).Tallied := by
  have sameBackend := task.observe_backend n state.heap
  have slotsEq : (task.observe n state.heap).slots = task.slots := by
    simp only [LeaseTask.slots, LeaseTask.counted, LeaseTask.observe, settled]
    split <;> rfl
  have outstandingEq : (task.observe n state.heap).outstanding = task.outstanding := by
    simp only [LeaseTask.outstanding, LeaseTask.observe, settled]
    split
    · rename_i unchanged
      split at unchanged <;> simp_all
    · rename_i unchanged
      by_cases same : (task.lease.observeTokens n state.heap).1.charged -
          task.lease.charged = 0
      · exact sub_eq_zero.mp same
      · simp [same] at unchanged
    · rename_i changed
      split at changed
      · cases changed
        exact sub_sub_cancel _ _
      · cases changed
    · rename_i changed
      split at changed <;> cases changed
  refine ⟨fun ref => ?_, fun ref => ?_⟩
  · rw [observeTask, keyedSum_set_same_key LeaseTask.backend LeaseTask.slots present
      sameBackend, slotsEq, tallied.inflight ref]
    simp
  · rw [observeTask, keyedSum_set_same_key LeaseTask.backend LeaseTask.outstanding present
      sameBackend, outstandingEq, tallied.kvProjectedTokens ref]
    simp

theorem tallied_beginReleaseTask {state : AtomicState} (tallied : state.Tallied)
    {position : Nat} {task : LeaseTask} (present : state.tasks[position]? = some task)
    (settled : task.phase = .settled) :
    (state.beginReleaseTask position task).Tallied := by
  have slotsEq : task.releasing.slots - task.slots = -1 := by
    simp [LeaseTask.slots, LeaseTask.counted, LeaseTask.releasing, settled]
  have outstandingEq : task.releasing.outstanding = task.outstanding := by
    simp [LeaseTask.outstanding, LeaseTask.releasing, settled]
  refine ⟨fun ref => ?_, fun ref => ?_⟩
  · simp only [beginReleaseTask, Heap.fetchSubInflight_inflight, tallied.inflight ref]
    rw [keyedSum_set_same_key LeaseTask.backend LeaseTask.slots present
      task.releasing_backend, slotsEq, sub_eq_add_neg, apply_ite Neg.neg, neg_zero]
  · simp only [beginReleaseTask, Heap.fetchSubInflight_kvProjectedTokens,
      tallied.kvProjectedTokens ref]
    rw [keyedSum_set_same_key LeaseTask.backend LeaseTask.outstanding present
      task.releasing_backend, outstandingEq]
    simp

theorem tallied_finishReleaseTask {state : AtomicState} (tallied : state.Tallied)
    {position : Nat} {task : LeaseTask} (present : state.tasks[position]? = some task)
    (releasing : task.phase = .releasing) :
    (state.finishReleaseTask position task).Tallied := by
  refine ⟨fun ref => ?_, fun ref => ?_⟩
  · simp only [finishReleaseTask, Heap.fetchSubKvProjected_inflight, tallied.inflight ref]
    rw [keyedSum_eraseIdx LeaseTask.backend LeaseTask.slots present]
    simp [LeaseTask.slots, LeaseTask.counted, releasing]
  · simp only [finishReleaseTask, Heap.fetchSubKvProjected_kvProjectedTokens,
      tallied.kvProjectedTokens ref]
    rw [keyedSum_eraseIdx LeaseTask.backend LeaseTask.outstanding present]
    simp [LeaseTask.outstanding, releasing]

theorem tallied_step {state next : AtomicState} {event : AtomicEvent}
    (tallied : state.Tallied) (stepped : state.step event = some next) :
    next.Tallied := by
  rcases step_cases stepped with ⟨backend, promptTokens, oHat, kvModel, now, -, rfl⟩ |
    ⟨position, task, delta, present, pending, rfl⟩ |
    ⟨position, task, n, present, settled, rfl⟩ |
    ⟨position, task, -, present, settled, rfl⟩ | ⟨position, task, present, releasing, rfl⟩
  · exact tallied_spawn tallied backend promptTokens oHat kvModel now
  · exact tallied_settle tallied present pending
  · exact tallied_observeTask tallied present settled n
  · exact tallied_beginReleaseTask tallied present settled
  · exact tallied_finishReleaseTask tallied present releasing

end AtomicState

end KeelRouter
