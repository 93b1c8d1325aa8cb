import KeelRouter.ConfigRanking
import KeelRouter.EntryTable
import KeelRouter.SnapshotInvariant

/-!
# Health updates that race

The failure counter and the ejection flag of a backend are two atomics, and a
failure or a success writes them one after the other.  Calls interleave between
any two of these writes.  The flag may then lag behind the counter, but the call
that has the right value still to store catches it up, unless it has already
stored it: a flag that is stored against the counter while nobody is left to
correct it stays wrong.

For the record a run counts the failures of each backend since its last reset.
-/

namespace KeelRouter

namespace Heap

variable (heap : Heap) (ref other : BackendRef)

def setConsecutiveFailures (n : UInt32) : Heap :=
  Function.update heap ref
    { heap ref with health := { (heap ref).health with consecutiveFailures := n } }

def setEjected (flag : Bool) : Heap :=
  Function.update heap ref { heap ref with health := { (heap ref).health with ejected := flag } }

theorem setConsecutiveFailures_ejected (n : UInt32) :
    (heap.setConsecutiveFailures ref n other).health.ejected = (heap other).health.ejected := by
  rw [setConsecutiveFailures, Function.update_apply]
  split
  · rename_i same
    rw [same]
  · rfl

theorem setConsecutiveFailures_consecutiveFailures (n : UInt32) :
    (heap.setConsecutiveFailures ref n other).health.consecutiveFailures =
      if other = ref then n else (heap other).health.consecutiveFailures := by
  rw [setConsecutiveFailures, Function.update_apply]
  split <;> rfl

theorem setEjected_ejected (flag : Bool) :
    (heap.setEjected ref flag other).health.ejected =
      if other = ref then flag else (heap other).health.ejected := by
  rw [setEjected, Function.update_apply]
  split <;> rfl

theorem setEjected_consecutiveFailures (flag : Bool) :
    (heap.setEjected ref flag other).health.consecutiveFailures =
      (heap other).health.consecutiveFailures := by
  rw [setEjected, Function.update_apply]
  split
  · rename_i same
    rw [same]
  · rfl

end Heap

/-- A call on a backend, with the flag that it has still to store. -/
structure HealthCall where
  backend : BackendRef
  pending : Option Bool
deriving DecidableEq

structure HealthRace where
  heap : Heap
  /-- The failures counted since the last reset. -/
  streak : BackendRef → Nat
  calls : List HealthCall

inductive HealthRaceEvent where
  /-- The `fetch_add` of `record_failure`. -/
  | fetchAdd (ref : BackendRef)
  /-- The first store of `record_success`. -/
  | reset (ref : BackendRef)
  /-- The store of the flag, by the call at the position. -/
  | store (position : Nat)

namespace HealthRace

def initial (config : Config) : HealthRace where
  heap := config.heap
  streak _ := 0
  calls := []

def countFailure (state : HealthRace) (ref : BackendRef) : HealthRace :=
  let n := (state.heap ref).health.consecutiveFailures + 1
  { heap := state.heap.setConsecutiveFailures ref n
    streak := Function.update state.streak ref (state.streak ref + 1)
    calls := state.calls ++
      [⟨ref, if consecutiveFailuresToEject ≤ n then some true else none⟩] }

def resetFailures (state : HealthRace) (ref : BackendRef) : HealthRace where
  heap := state.heap.setConsecutiveFailures ref 0
  streak := Function.update state.streak ref 0
  calls := state.calls ++ [⟨ref, some false⟩]

def storeFlag (state : HealthRace) (position : Nat) (ref : BackendRef) (flag : Bool) :
    HealthRace :=
  { state with
    heap := state.heap.setEjected ref flag
    calls := state.calls.set position ⟨ref, none⟩ }

/-- One atomic operation of one of the calls. -/
def step (state : HealthRace) : HealthRaceEvent → Option HealthRace
  | .fetchAdd ref => some (state.countFailure ref)
  | .reset ref => some (state.resetFailures ref)
  | .store position =>
      match state.calls[position]? with
      | some ⟨ref, some flag⟩ => some (state.storeFlag position ref flag)
      | _ => none

theorem step_store {state next : HealthRace} {position : Nat} :
    step state (.store position) = some next ↔
      ∃ ref flag, state.calls[position]? = some ⟨ref, some flag⟩ ∧
        next = state.storeFlag position ref flag := by
  dsimp only [step]
  constructor
  · intro stepped
    split at stepped
    · rename_i ref flag present
      exact ⟨ref, flag, present, (Option.some.inj stepped).symm⟩
    · cases stepped
  · rintro ⟨ref, flag, present, rfl⟩
    rw [present]

/-! ## Calls that are not interrupted -/

theorem failure_uninterrupted (state : HealthRace) (ref : BackendRef)
    (ejects : consecutiveFailuresToEject ≤ (state.heap ref).health.consecutiveFailures + 1) :
    ∃ next, EventRun.run step state [.fetchAdd ref, .store state.calls.length] = some next ∧
      next.heap = recordFailure state.heap ref := by
  refine ⟨(state.countFailure ref).storeFlag state.calls.length ref true, ?_, ?_⟩
  · have waiting : (state.countFailure ref).calls[state.calls.length]? =
        some ⟨ref, some true⟩ := by
      unfold countFailure
      dsimp only
      rw [if_pos ejects]
      exact List.getElem?_concat_length
    exact EventRun.run_cons_eq_some.mpr ⟨_, rfl,
      EventRun.run_cons_eq_some.mpr ⟨_, step_store.mpr ⟨_, _, waiting, rfl⟩, rfl⟩⟩
  · unfold storeFlag countFailure recordFailure Heap.setEjected Heap.setConsecutiveFailures
    simp [ejects]

theorem small_failure_uninterrupted (state : HealthRace) (ref : BackendRef)
    (below : ¬ consecutiveFailuresToEject ≤ (state.heap ref).health.consecutiveFailures + 1) :
    ∃ next, EventRun.run step state [.fetchAdd ref] = some next ∧
      next.heap = recordFailure state.heap ref := by
  refine ⟨state.countFailure ref, rfl, ?_⟩
  unfold countFailure recordFailure Heap.setConsecutiveFailures
  simp [below]

theorem success_uninterrupted (state : HealthRace) (ref : BackendRef) :
    ∃ next, EventRun.run step state [.reset ref, .store state.calls.length] = some next ∧
      next.heap = recordSuccess state.heap ref := by
  refine ⟨(state.resetFailures ref).storeFlag state.calls.length ref false, ?_, ?_⟩
  · have waiting : (state.resetFailures ref).calls[state.calls.length]? =
        some ⟨ref, some false⟩ := List.getElem?_concat_length
    exact EventRun.run_cons_eq_some.mpr ⟨_, rfl,
      EventRun.run_cons_eq_some.mpr ⟨_, step_store.mpr ⟨_, _, waiting, rfl⟩, rfl⟩⟩
  · unfold storeFlag resetFailures recordSuccess Heap.setEjected Heap.setConsecutiveFailures
    simp [HealthState.default]

/-! ## The flag and the streak -/

/-- Some call on the backend has this flag still to store. -/
def Awaits (state : HealthRace) (ref : BackendRef) (flag : Bool) : Prop :=
  ⟨ref, some flag⟩ ∈ state.calls

/-- The flag is right, or a call will correct it. -/
def Settles (state : HealthRace) (ref : BackendRef) (flag : Bool) : Prop :=
  (flag = true ↔ 5 ≤ state.streak ref) ∨ state.Awaits ref !flag

/-- No flag is stored against the streak when nobody is left to correct it. -/
def Allowed (state : HealthRace) : HealthRaceEvent → Prop
  | .store position => ∀ ref flag, state.calls[position]? = some ⟨ref, some flag⟩ →
      state.Settles ref flag
  | _ => True

structure Tracked (state : HealthRace) : Prop where
  counted : ∀ ref, (state.heap ref).health.consecutiveFailures = UInt32.ofNat (state.streak ref)
  settles : ∀ ref, state.Settles ref (state.heap ref).health.ejected

def Quiet (state : HealthRace) : Prop := ∀ call ∈ state.calls, call.pending = none

/-- The flags agree with the streaks, and exactly the backends with a short
streak are listed as healthy. -/
structure Consistent (state : HealthRace) : Prop where
  ejected : ∀ ref, (state.heap ref).health.ejected = true ↔ 5 ≤ state.streak ref
  healthy : ∀ backends, rebuildHealthy state.heap backends =
    (backends.filter fun ref => state.streak ref < 5).map fun ref => (state.heap ref).id

variable {state next : HealthRace}

theorem Settles.of_calls {ref : BackendRef} {flag : Bool} (settles : state.Settles ref flag)
    (streak : next.streak ref = state.streak ref) (kept : ∀ call ∈ state.calls, call ∈ next.calls) :
    next.Settles ref flag := by
  rcases settles with right | awaited
  · left
    rwa [streak]
  · exact .inr (kept _ awaited)

theorem Tracked.initial (config : Config) : (HealthRace.initial config).Tracked := by
  constructor
  · intro ref
    change (config.heap ref).health.consecutiveFailures = _
    rw [Config.heap_health]
    rfl
  · intro ref
    left
    change (config.heap ref).health.ejected = true ↔ 5 ≤ 0
    rw [Config.heap_health]
    decide

/-- The failure that makes the streak reach five has the flag to store. -/
theorem awaits_of_crossing {ref : BackendRef} (tracked : state.Tracked)
    (crossing : state.streak ref = 4) : (state.countFailure ref).Awaits ref true := by
  have fifth : (state.heap ref).health.consecutiveFailures + 1 = 5 := by
    rw [tracked.counted, crossing]
    rfl
  unfold Awaits countFailure
  dsimp only
  rw [fifth]
  exact List.mem_append_right _ (List.mem_singleton.mpr rfl)

theorem Tracked.countFailure (tracked : state.Tracked) (ref : BackendRef) :
    (state.countFailure ref).Tracked := by
  have kept : ∀ call ∈ state.calls, call ∈ (state.countFailure ref).calls :=
    fun call member => List.mem_append_left _ member
  have streak (other : BackendRef) : (state.countFailure ref).streak other =
      if other = ref then state.streak ref + 1 else state.streak other :=
    Function.update_apply _ _ _ _
  constructor
  · intro other
    change (state.heap.setConsecutiveFailures ref _ other).health.consecutiveFailures = _
    rw [Heap.setConsecutiveFailures_consecutiveFailures, streak]
    split
    · rw [tracked.counted, UInt32.ofNat_add]
      rfl
    · exact tracked.counted other
  · intro other
    change (state.countFailure ref).Settles other
      (state.heap.setConsecutiveFailures ref _ other).health.ejected
    rw [Heap.setConsecutiveFailures_ejected]
    by_cases same : other = ref
    · subst same
      rcases tracked.settles other with right | awaited
      · by_cases crossing : state.streak other = 4
        · have unflagged : (state.heap other).health.ejected = false := by
            rw [Bool.eq_false_iff]
            intro flagged
            have long := right.mp flagged
            omega
          rw [unflagged]
          exact .inr (awaits_of_crossing tracked crossing)
        · left
          rw [right, streak, if_pos rfl]
          omega
      · exact .inr (kept _ awaited)
    · exact (tracked.settles other).of_calls (by rw [streak, if_neg same]) kept

theorem Tracked.resetFailures (tracked : state.Tracked) (ref : BackendRef) :
    (state.resetFailures ref).Tracked := by
  have kept : ∀ call ∈ state.calls, call ∈ (state.resetFailures ref).calls :=
    fun call member => List.mem_append_left _ member
  have streak (other : BackendRef) : (state.resetFailures ref).streak other =
      if other = ref then 0 else state.streak other :=
    Function.update_apply _ _ _ _
  constructor
  · intro other
    change (state.heap.setConsecutiveFailures ref 0 other).health.consecutiveFailures = _
    rw [Heap.setConsecutiveFailures_consecutiveFailures, streak]
    split
    · rfl
    · exact tracked.counted other
  · intro other
    change (state.resetFailures ref).Settles other
      (state.heap.setConsecutiveFailures ref 0 other).health.ejected
    rw [Heap.setConsecutiveFailures_ejected]
    by_cases same : other = ref
    · subst same
      cases (state.heap other).health.ejected with
      | false =>
          left
          rw [streak, if_pos rfl]
          decide
      | true => exact .inr (List.mem_append_right _ (List.mem_singleton.mpr rfl))
    · exact (tracked.settles other).of_calls (by rw [streak, if_neg same]) kept

theorem Tracked.storeFlag (tracked : state.Tracked) {position : Nat} {ref : BackendRef}
    {flag : Bool} (present : state.calls[position]? = some ⟨ref, some flag⟩)
    (settles : state.Settles ref flag) : (state.storeFlag position ref flag).Tracked := by
  have kept {call : HealthCall} (member : call ∈ state.calls)
      (differs : call ≠ ⟨ref, some flag⟩) : call ∈ (state.storeFlag position ref flag).calls :=
    mem_set_of_ne member present differs
  constructor
  · intro other
    change (state.heap.setEjected ref flag other).health.consecutiveFailures = _
    rw [Heap.setEjected_consecutiveFailures]
    exact tracked.counted other
  · intro other
    change (state.storeFlag position ref flag).Settles other
      (state.heap.setEjected ref flag other).health.ejected
    rw [Heap.setEjected_ejected]
    by_cases same : other = ref
    · subst same
      rw [if_pos rfl]
      rcases settles with right | awaited
      · exact .inl right
      · exact .inr (kept awaited (by simp))
    · rw [if_neg same]
      rcases tracked.settles other with right | awaited
      · exact .inl right
      · exact .inr (kept awaited (by simp [same]))

theorem Tracked.step_preserves {event : HealthRaceEvent} (allowed : state.Allowed event)
    (tracked : state.Tracked) (stepped : step state event = some next) : next.Tracked := by
  cases event with
  | fetchAdd ref =>
      obtain rfl := Option.some.inj stepped
      exact tracked.countFailure ref
  | reset ref =>
      obtain rfl := Option.some.inj stepped
      exact tracked.resetFailures ref
  | store position =>
      obtain ⟨ref, flag, present, rfl⟩ := step_store.mp stepped
      exact tracked.storeFlag present (allowed ref flag present)

theorem Tracked.consistent (tracked : state.Tracked) (quiet : state.Quiet) :
    state.Consistent := by
  have ejected (ref : BackendRef) :
      (state.heap ref).health.ejected = true ↔ 5 ≤ state.streak ref := by
    rcases tracked.settles ref with right | awaited
    · exact right
    · cases quiet _ awaited
  refine ⟨ejected, ?_⟩
  intro backends
  unfold rebuildHealthy
  congr 1
  apply List.filter_congr
  intro ref _
  have readmitted := (ejected ref).not
  rw [Bool.not_eq_true, not_le] at readmitted
  rw [Bool.eq_iff_iff, Bool.not_eq_true', decide_eq_true_iff]
  exact readmitted

/-- After every run in which no flag is stored against the streak with nobody
left to correct it, the flags agree with the streaks once no call is in
progress. -/
theorem consistent_when_quiet {config : Config} {events : List HealthRaceEvent}
    (allowed : EventRun.Guarded step Allowed (HealthRace.initial config) events)
    (executed : EventRun.run step (HealthRace.initial config) events = some state)
    (quiet : state.Quiet) : state.Consistent := by
  have tracked : state.Tracked := EventRun.run_preserves_of_guarded
    (fun _ _ _ allowed tracked stepped => tracked.step_preserves allowed stepped)
    allowed (.initial config) executed
  exact tracked.consistent quiet

/-! ## After a flag is stored wrongly -/

/-- The flag is wrong, and no call has another one to store. -/
structure Stuck (state : HealthRace) (ref : BackendRef) (flag : Bool) : Prop where
  stored : (state.heap ref).health.ejected = flag
  unsettled : ¬ state.Settles ref flag

/-- A store puts no further call in progress. -/
theorem not_settles_storeFlag {ref other : BackendRef} {flag otherFlag : Bool} {position : Nat}
    (unsettled : ¬ state.Settles ref flag) :
    ¬ (state.storeFlag position other otherFlag).Settles ref flag := by
  obtain ⟨wrong, unawaited⟩ := not_or.mp unsettled
  refine not_or.mpr ⟨wrong, ?_⟩
  intro awaited
  rcases List.mem_or_eq_of_mem_set awaited with earlier | new
  · exact unawaited earlier
  · cases new

theorem Stuck.storeFlag {ref other : BackendRef} {flag otherFlag : Bool} {position : Nat}
    (stuck : state.Stuck ref flag)
    (present : state.calls[position]? = some ⟨other, some otherFlag⟩) :
    (state.storeFlag position other otherFlag).Stuck ref flag := by
  constructor
  · change (state.heap.setEjected other otherFlag ref).health.ejected = flag
    rw [Heap.setEjected_ejected]
    split
    · rename_i same
      by_contra differs
      have opposite : otherFlag = !flag := Bool.eq_not_of_ne differs
      rw [opposite, ← same] at present
      exact stuck.unsettled (.inr (List.mem_of_getElem? present))
    · exact stuck.stored
  · exact not_settles_storeFlag stuck.unsettled

/-- The calls in progress can always be finished, one store at a time. -/
theorem exists_quiet (state : HealthRace) : ∃ events last,
    EventRun.run step state events = some last ∧ last.Quiet ∧
      ∀ ref flag, state.Stuck ref flag → last.Stuck ref flag := by
  induction pending : state.calls.countP fun call => call.pending.isSome
      generalizing state with
  | zero =>
      refine ⟨[], state, rfl, ?_, fun _ _ stuck => stuck⟩
      intro call member
      simpa using List.countP_eq_zero.mp pending call member
  | succ count ih =>
      have positive : 0 < state.calls.countP fun call => call.pending.isSome := by omega
      obtain ⟨⟨ref, waiting⟩, member, waits⟩ := List.countP_pos_iff.mp positive
      obtain ⟨flag, rfl : waiting = some flag⟩ := Option.isSome_iff_exists.mp waits
      obtain ⟨position, present⟩ := List.mem_iff_getElem?.mp member
      obtain ⟨within, entry⟩ := List.getElem?_eq_some_iff.mp present
      have fewer : ((state.storeFlag position ref flag).calls.countP
          fun call => call.pending.isSome) = count := by
        unfold storeFlag
        dsimp only
        rw [List.countP_set within, entry, pending]
        simp
      obtain ⟨events, last, executed, quiet, kept⟩ := ih _ fewer
      refine ⟨.store position :: events, last, ?_, quiet, ?_⟩
      · exact EventRun.run_cons_eq_some.mpr ⟨_, step_store.mpr ⟨_, _, present, rfl⟩, executed⟩
      · intro other otherFlag stuck
        exact kept other otherFlag (stuck.storeFlag present)

/-- A store that is not allowed is never made up for by the calls in progress. -/
theorem inconsistent_of_disallowed {ref : BackendRef} {flag : Bool} {position : Nat}
    (present : state.calls[position]? = some ⟨ref, some flag⟩)
    (unsettled : ¬ state.Settles ref flag) :
    ∃ events last, EventRun.run step state (.store position :: events) = some last ∧
      last.Quiet ∧ ¬ last.Consistent := by
  have stuck : (state.storeFlag position ref flag).Stuck ref flag := by
    refine ⟨?_, not_settles_storeFlag unsettled⟩
    change (state.heap.setEjected ref flag ref).health.ejected = flag
    rw [Heap.setEjected_ejected, if_pos rfl]
  obtain ⟨events, last, executed, quiet, kept⟩ := exists_quiet (state.storeFlag position ref flag)
  have stored := step_store.mpr ⟨_, _, present, rfl⟩
  refine ⟨events, last, EventRun.run_cons_eq_some.mpr ⟨_, stored, executed⟩, quiet, ?_⟩
  intro consistent
  have still := kept ref flag stuck
  apply still.unsettled
  left
  rw [← still.stored]
  exact consistent.ejected ref

def twoStart : HealthRace := .initial (twoBackends defaultPenalty).toConfig

/-- Five failures in a row on the first backend while the second has a success. -/
def separateCalls : List HealthRaceEvent :=
  [.fetchAdd 0, .fetchAdd 0, .fetchAdd 0, .fetchAdd 0, .reset 1, .fetchAdd 0, .store 4, .store 5]

theorem consistent_when_separate :
    ∃ state, EventRun.run step twoStart separateCalls = some state ∧ state.Consistent ∧
      (state.heap 0).health.ejected = true := by
  have allowed : EventRun.Guarded step Allowed twoStart separateCalls := by
    unfold separateCalls
    iterate 6 refine EventRun.guarded_cons trivial rfl ?_
    refine EventRun.guarded_cons ?_ rfl (EventRun.guarded_cons ?_ rfl trivial)
    · intro ref flag present
      have cleared : some (⟨1, some false⟩ : HealthCall) = some ⟨ref, some flag⟩ := present
      cases cleared
      exact .inl (by decide)
    · intro ref flag present
      have ejected : some (⟨0, some true⟩ : HealthCall) = some ⟨ref, some flag⟩ := present
      cases ejected
      exact .inl (by decide)
  have run : ∃ state, EventRun.run step twoStart separateCalls = some state ∧ state.Quiet ∧
      (state.heap 0).health.ejected = true := ⟨_, rfl, by unfold Quiet; decide, rfl⟩
  obtain ⟨state, executed, quiet, ejected⟩ := run
  exact ⟨state, executed, consistent_when_quiet allowed executed quiet, ejected⟩

/-- The fifth failure is counted, a success passes by, and then the failure
stores its flag. -/
def overtakenFailure : List HealthRaceEvent :=
  [.fetchAdd 0, .fetchAdd 0, .fetchAdd 0, .fetchAdd 0, .fetchAdd 0, .reset 0, .store 5, .store 4]

theorem overtaken_failure_ejects :
    ∃ state, EventRun.run step twoStart overtakenFailure = some state ∧ state.Quiet ∧
      ¬ state.Consistent := by
  have run : ∃ state, EventRun.run step twoStart overtakenFailure = some state ∧ state.Quiet ∧
      (state.heap 0).health.ejected = true ∧ state.streak 0 = 0 :=
    ⟨_, rfl, by unfold Quiet; decide, rfl, rfl⟩
  obtain ⟨state, executed, quiet, ejected, streak⟩ := run
  refine ⟨state, executed, quiet, ?_⟩
  intro consistent
  have long := (consistent.ejected 0).mp ejected
  omega

end HealthRace

end KeelRouter
