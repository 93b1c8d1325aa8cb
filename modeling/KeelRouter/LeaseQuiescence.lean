import KeelRouter.LeaseAtomicSteps

/-!
# Zero slots and zero charge between atomic updates

The invariant asserted on a backend is that a zero slot counter comes with a
zero KV counter.  Opening keeps it, because the slot is added first.  Releasing
subtracts the slot first as well, so a backend whose last counted slot is
released shows zero slots beside a charge that is still there.

A backend is covered when a zero slot count leaves nothing outstanding.  Runs
in which no release uncovers its backend keep the invariant in every state,
and a release that uncovers a backend breaks it at once.
-/

namespace KeelRouter.AtomicState

def countedOn (state : AtomicState) (ref : BackendRef) : Nat :=
  keyedSum LeaseTask.backend (fun task => if task.counted then 1 else 0) state.tasks ref

def Drained (state : AtomicState) (ref : BackendRef) : Prop :=
  ∀ task ∈ state.tasks, task.backend = ref → task.outstanding = 0

/-- A zero slot count leaves nothing outstanding, and slot counts fit the
counter. -/
def Covered (state : AtomicState) : Prop :=
  ∀ ref, state.countedOn ref < 2 ^ 32 ∧ (state.countedOn ref = 0 → state.Drained ref)

/-- The steps that keep a backend covered: an opening that fits the slot
counter, and a release beside another counted lease or on a drained backend. -/
def KeepsCover (state : AtomicState) : AtomicEvent → Prop
  | .beginOpen backend _ _ _ _ => state.countedOn backend + 1 < 2 ^ 32
  | .beginRelease position => ∀ task, state.tasks[position]? = some task →
      1 < state.countedOn task.backend ∨ state.Drained task.backend
  | _ => True

theorem covered_initial (heap : Heap) : (initial heap).Covered := by
  intro ref
  refine ⟨by simp [countedOn, initial], ?_⟩
  intro _ task member
  simp [initial] at member

theorem covered_spawn {state : AtomicState} (covered : state.Covered)
    {backend : BackendRef} {promptTokens oHat : UInt32} {kvModel : KvModel} {now : Instant}
    (fits : state.countedOn backend + 1 < 2 ^ 32) :
    (state.spawn backend promptTokens oHat kvModel now).Covered := by
  intro ref
  have counted : (state.spawn backend promptTokens oHat kvModel now).countedOn ref =
      (if backend = ref then 1 else 0) + state.countedOn ref := by
    rw [countedOn, spawn, keyedSum_cons]
    rfl
  rw [counted]
  by_cases same : backend = ref
  · subst same
    rw [if_pos rfl]
    exact ⟨by omega, by omega⟩
  · rw [if_neg same, zero_add]
    refine ⟨(covered ref).1, ?_⟩
    intro zero task member taskBackend
    rcases List.mem_cons.mp member with rfl | earlier
    · exact (same taskBackend).elim
    · exact (covered ref).2 zero task earlier taskBackend

/-- Exchanging a counted lease for a counted lease of the same backend keeps
every backend covered, since that backend's slot count stays positive. -/
theorem covered_set {state : AtomicState} (covered : state.Covered) (heap : Heap)
    {position : Nat} {task revised : LeaseTask}
    (present : state.tasks[position]? = some task) (taskCounted : task.counted = true)
    (revisedCounted : revised.counted = true) (sameBackend : revised.backend = task.backend) :
    (⟨heap, state.tasks.set position revised⟩ : AtomicState).Covered := by
  intro ref
  have before : state.countedOn ref = _ :=
    keyedSum_eq_getElem_add_eraseIdx LeaseTask.backend
      (fun other => if other.counted then 1 else 0) present ref
  have after : (⟨heap, state.tasks.set position revised⟩ : AtomicState).countedOn ref = _ :=
    keyedSum_set LeaseTask.backend (fun other => if other.counted then 1 else 0)
      present revised ref
  simp only [taskCounted, if_true] at before
  simp only [revisedCounted, if_true, sameBackend] at after
  rw [after, ← before]
  refine ⟨(covered ref).1, ?_⟩
  intro zero other member otherBackend
  rcases List.mem_or_eq_of_mem_set member with earlier | rfl
  · exact (covered ref).2 zero other earlier otherBackend
  · rw [if_pos (sameBackend.symm.trans otherBackend)] at before
    omega

theorem covered_beginReleaseTask {state : AtomicState} (covered : state.Covered)
    {position : Nat} {task : LeaseTask} (present : state.tasks[position]? = some task)
    (settled : task.phase = .settled)
    (keeps : 1 < state.countedOn task.backend ∨ state.Drained task.backend) :
    (state.beginReleaseTask position task).Covered := by
  intro ref
  have before : state.countedOn ref = _ :=
    keyedSum_eq_getElem_add_eraseIdx LeaseTask.backend
      (fun other => if other.counted then 1 else 0) present ref
  have after : (state.beginReleaseTask position task).countedOn ref = _ :=
    keyedSum_set LeaseTask.backend (fun other => if other.counted then 1 else 0)
      present task.releasing ref
  have taskCounted : task.counted = true := by simp [LeaseTask.counted, settled]
  have releasingCounted : task.releasing.counted = false := rfl
  simp only [taskCounted, if_true] at before
  simp only [releasingCounted, Bool.false_eq_true, if_false, ite_self, zero_add] at after
  have outstandingEq : task.releasing.outstanding = task.outstanding := by
    simp [LeaseTask.outstanding, LeaseTask.releasing, settled]
  rw [after]
  by_cases same : task.backend = ref
  · rw [if_pos same] at before
    refine ⟨by have := (covered ref).1; omega, ?_⟩
    intro zero other member otherBackend
    rcases keeps with several | drained
    · rw [same] at several
      omega
    · rcases List.mem_or_eq_of_mem_set member with earlier | rfl
      · exact drained other earlier (otherBackend.trans same.symm)
      · rw [outstandingEq]
        exact drained task (List.mem_of_getElem? present) rfl
  · rw [if_neg same, zero_add] at before
    rw [← before]
    refine ⟨(covered ref).1, ?_⟩
    intro zero other member otherBackend
    rcases List.mem_or_eq_of_mem_set member with earlier | rfl
    · exact (covered ref).2 zero other earlier otherBackend
    · exact (same otherBackend).elim

theorem covered_finishReleaseTask {state : AtomicState} (covered : state.Covered)
    {position : Nat} {task : LeaseTask} (present : state.tasks[position]? = some task)
    (releasing : task.phase = .releasing) :
    (state.finishReleaseTask position task).Covered := by
  intro ref
  have before : state.countedOn ref = _ :=
    keyedSum_eq_getElem_add_eraseIdx LeaseTask.backend
      (fun other => if other.counted then 1 else 0) present ref
  have taskCounted : task.counted = false := by simp [LeaseTask.counted, releasing]
  simp only [taskCounted, Bool.false_eq_true, if_false, ite_self, zero_add] at before
  have after : (state.finishReleaseTask position task).countedOn ref = state.countedOn ref :=
    before.symm
  rw [after]
  refine ⟨(covered ref).1, ?_⟩
  intro zero other member
  exact (covered ref).2 zero other (List.mem_of_mem_eraseIdx member)

theorem covered_step {state next : AtomicState} {event : AtomicEvent}
    (keeps : state.KeepsCover event) (covered : state.Covered)
    (stepped : state.step event = some next) : next.Covered := by
  rcases step_cases stepped with ⟨backend, promptTokens, oHat, kvModel, now, rfl, rfl⟩ |
    ⟨position, task, delta, present, pending, rfl⟩ |
    ⟨position, task, n, present, settled, rfl⟩ |
    ⟨position, task, rfl, present, settled, rfl⟩ | ⟨position, task, present, releasing, rfl⟩
  · exact covered_spawn covered keeps
  · have taskCounted : task.counted = true := by
      rcases pending with ⟨opening, -⟩ | recharging
      · simp [LeaseTask.counted, opening]
      · simp [LeaseTask.counted, recharging]
    exact covered_set covered _ present taskCounted rfl task.settled_backend
  · have taskCounted : task.counted = true := by simp [LeaseTask.counted, settled]
    have observedCounted : (task.observe n state.heap).counted = true := by
      simp only [LeaseTask.counted, LeaseTask.observe]
      split <;> rfl
    exact covered_set covered _ present taskCounted observedCounted
      (task.observe_backend n state.heap)
  · exact covered_beginReleaseTask covered present settled (keeps task present)
  · exact covered_finishReleaseTask covered present releasing

theorem Tallied.inflight_toNat {state : AtomicState} (tallied : state.Tallied)
    (ref : BackendRef) :
    (state.heap ref).live.inflight.toNat = state.countedOn ref % 2 ^ 32 := by
  rw [tallied.inflight ref, countedOn]
  induction state.tasks with
  | nil => rfl
  | cons task tasks ih =>
      rw [keyedSum_cons, keyedSum_cons, UInt32.toNat_add, ih]
      by_cases same : task.backend = ref
      · cases counted : task.counted <;> simp [LeaseTask.slots, same, counted]
      · simp [same]

theorem Covered.kvProjectedTokens_eq_zero {state : AtomicState} (covered : state.Covered)
    (tallied : state.Tallied) {ref : BackendRef}
    (idle : (state.heap ref).live.inflight = 0) :
    (state.heap ref).live.kvProjectedTokens = 0 := by
  have counted := tallied.inflight_toNat ref
  rw [idle, Nat.mod_eq_of_lt (covered ref).1] at counted
  rw [tallied.kvProjectedTokens ref]
  apply keyedSum_eq_zero_of_forall
  intro task member taskBackend
  exact (covered ref).2 counted.symm task member taskBackend

theorem assertInvariant_eq_ok {backend : Backend}
    (quiet : backend.live.inflight = 0 → backend.live.kvProjectedTokens = 0) :
    assertInvariant backend = .ok () := by
  have holds : backend.live.inflight ≠ 0 ∨ backend.live.kvProjectedTokens = 0 := by
    by_cases idle : backend.live.inflight = 0
    · exact .inr (quiet idle)
    · exact .inl idle
  simp only [assertInvariant, if_pos holds]

/-- A release that takes a backend's last counted slot while its charges do
not cancel leaves zero slots beside a nonzero charge. -/
theorem inflight_zero_of_last_release {state next : AtomicState} (tallied : state.Tallied)
    {position : Nat} {task : LeaseTask} (present : state.tasks[position]? = some task)
    (stepped : state.step (.beginRelease position) = some next)
    (last : state.countedOn task.backend = 1) :
    (next.heap task.backend).live.inflight = 0 ∧
      (next.heap task.backend).live.kvProjectedTokens =
        (state.heap task.backend).live.kvProjectedTokens := by
  have settled : task.phase = .settled := by
    obtain ⟨other, otherPresent, finished⟩ := Option.bind_eq_some_iff.mp stepped
    obtain rfl : task = other := Option.some.inj (present.symm.trans otherPresent)
    cases phaseEq : task.phase <;> simp only [phaseEq, reduceCtorEq] at finished
    rfl
  obtain rfl : state.beginReleaseTask position task = next := by
    simpa [step, present, settled] using stepped
  have counted := tallied.inflight_toNat task.backend
  rw [last] at counted
  have one : (state.heap task.backend).live.inflight = 1 := UInt32.toNat_inj.mp counted
  refine ⟨?_, ?_⟩
  · simp [beginReleaseTask, one]
  · simp [beginReleaseTask]

/-- In a run that keeps every backend covered, zero slots come with zero
charge in every state reached and the assertion never fires.  From any reached
state, a release that uncovers its backend breaks the invariant. -/
theorem quiescence_of_keepsCover {heap : Heap} (fresh : ∀ ref, (heap ref).live = .default)
    {events : List AtomicEvent} {state : AtomicState}
    (executed : EventRun.run step (initial heap) events = some state) :
    (EventRun.Guarded step KeepsCover (initial heap) events → ∀ ref,
      ((state.heap ref).live.inflight = 0 → (state.heap ref).live.kvProjectedTokens = 0) ∧
        assertInvariant (state.heap ref) = .ok ()) ∧
    (∀ position task next, state.tasks[position]? = some task →
      state.step (.beginRelease position) = some next →
      state.countedOn task.backend = 1 →
      (state.heap task.backend).live.kvProjectedTokens ≠ 0 →
        (next.heap task.backend).live.inflight = 0 ∧
          (next.heap task.backend).live.kvProjectedTokens ≠ 0) := by
  have tallied : state.Tallied :=
    EventRun.run_preserves (fun _ _ _ => tallied_step) (tallied_initial fresh) executed
  refine ⟨?_, ?_⟩
  · intro allowed ref
    have covered : state.Covered :=
      EventRun.run_preserves_of_guarded (fun _ _ _ => covered_step) allowed
        (covered_initial heap) executed
    have quiet (idle : (state.heap ref).live.inflight = 0) :
        (state.heap ref).live.kvProjectedTokens = 0 :=
      covered.kvProjectedTokens_eq_zero tallied idle
    exact ⟨quiet, assertInvariant_eq_ok quiet⟩
  · intro position task next present stepped last charged
    obtain ⟨idle, same⟩ := inflight_zero_of_last_release tallied present stepped last
    exact ⟨idle, same ▸ charged⟩

theorem quiescence_beside_second_lease :
    ∃ state, EventRun.run step
        (initial fun _ => Backend.fresh ⟨0⟩ "http://x" "m" 1 ⟨8192, 32⟩)
        [.beginOpen 0 100 10 .promptOnly 0, .finishOpen 0,
          .beginOpen 0 40 10 .promptPlusOutput 1, .finishOpen 0,
          .beginRelease 1, .finishRelease 1] = some state ∧
      ∀ ref, ((state.heap ref).live.inflight = 0 →
          (state.heap ref).live.kvProjectedTokens = 0) ∧
        assertInvariant (state.heap ref) = .ok () := by
  have executed : EventRun.run step
      (initial fun _ => Backend.fresh ⟨0⟩ "http://x" "m" 1 ⟨8192, 32⟩)
      [.beginOpen 0 100 10 .promptOnly 0, .finishOpen 0,
        .beginOpen 0 40 10 .promptPlusOutput 1, .finishOpen 0,
        .beginRelease 1, .finishRelease 1] = some _ := rfl
  refine ⟨_, executed, (quiescence_of_keepsCover (fun _ => rfl) executed).1 ?_⟩
  have fits {state : AtomicState} (few : state.countedOn 0 < 2) :
      state.countedOn 0 + 1 < 2 ^ 32 := by omega
  refine ⟨fits (by decide), ?_⟩
  rintro _ ⟨⟩
  refine ⟨trivial, ?_⟩
  rintro _ ⟨⟩
  refine ⟨fits (by decide), ?_⟩
  rintro _ ⟨⟩
  refine ⟨trivial, ?_⟩
  rintro _ ⟨⟩
  refine ⟨?_, ?_⟩
  · rintro _ ⟨⟩
    exact .inl (by decide)
  rintro _ ⟨⟩
  exact ⟨trivial, fun _ _ => trivial⟩

/-- One lease, observed halfway through its release: no slot is counted and
the whole charge is still there. -/
theorem halfway_release_fails_assertion :
    ∃ state, EventRun.run step
        (initial fun _ => Backend.fresh ⟨0⟩ "http://x" "m" 1 ⟨8192, 32⟩)
        [.beginOpen 0 100 10 .promptOnly 0, .finishOpen 0, .beginRelease 0] = some state ∧
      (state.heap 0).live.inflight = 0 ∧
      (state.heap 0).live.kvProjectedTokens = 100 ∧
      assertInvariant (state.heap 0) ≠ .ok () := by
  refine ⟨_, rfl, by decide, by decide, ?_⟩
  intro passed
  simp only [assertInvariant] at passed
  rw [if_neg (by decide)] at passed
  cases passed

end KeelRouter.AtomicState
