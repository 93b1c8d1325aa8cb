import Mathlib.Data.List.Basic

/-!
# Runs of an event-driven system

A system is a partial step function: an event that is not enabled in a state
has no successor there.  A run feeds a list of events to the system.  A
property that holds initially and survives every step holds at the end of
every run, and therefore in every reachable state, since each prefix of a run
is a run.
-/

namespace EventRun

variable {State Event : Type*} {step : State → Event → Option State}

/-- The state after a list of events, when every event is enabled in turn. -/
def run (step : State → Event → Option State) : State → List Event → Option State
  | state, [] => some state
  | state, event :: events => (step state event).bind fun next => run step next events

@[simp]
theorem run_nil (state : State) : run step state [] = some state := rfl

theorem run_cons (state : State) (event : Event) (events : List Event) :
    run step state (event :: events) =
      (step state event).bind fun next => run step next events := rfl

theorem run_cons_eq_some {state last : State} {event : Event} {events : List Event} :
    run step state (event :: events) = some last ↔
      ∃ next, step state event = some next ∧ run step next events = some last := by
  rw [run_cons]
  exact Option.bind_eq_some_iff

theorem run_append (state : State) (first second : List Event) :
    run step state (first ++ second) =
      (run step state first).bind fun middle => run step middle second := by
  induction first generalizing state with
  | nil => rfl
  | cons event events ih =>
      simp only [List.cons_append, run_cons]
      cases step state event with
      | none => rfl
      | some next => exact ih next

theorem run_append_of_run {state middle : State} {first : List Event}
    (executed : run step state first = some middle) (second : List Event) :
    run step state (first ++ second) = run step middle second := by
  rw [run_append, executed]
  rfl

theorem run_append_singleton (state : State) (events : List Event) (event : Event) :
    run step state (events ++ [event]) =
      (run step state events).bind fun middle => step middle event := by
  rw [run_append]
  congr 1
  funext middle
  rw [run_cons]
  cases step middle event <;> rfl

/-- A property preserved by every step is preserved by every run. -/
theorem run_preserves {invariant : State → Prop}
    (preserved : ∀ state event next,
      invariant state → step state event = some next → invariant next)
    {state last : State} {events : List Event}
    (holds : invariant state) (executed : run step state events = some last) :
    invariant last := by
  induction events generalizing state with
  | nil =>
      obtain rfl : state = last := by simpa using executed
      exact holds
  | cons event events ih =>
      obtain ⟨next, stepped, rest⟩ := run_cons_eq_some.mp executed
      exact ih (preserved state event next holds stepped) rest

/-- What every event of a kind adds to a measure, a run adds once for each. -/
theorem run_tallies {invariant : State → Prop} {measure : State → ℕ} {counted : Event → Bool}
    (preserved : ∀ state event next,
      invariant state → step state event = some next → invariant next)
    (tallied : ∀ state event next, invariant state → step state event = some next →
      measure next = measure state + if counted event then 1 else 0)
    {state last : State} {events : List Event}
    (holds : invariant state) (executed : run step state events = some last) :
    measure last = measure state + events.countP counted := by
  induction events generalizing state with
  | nil =>
      obtain rfl : state = last := by simpa using executed
      rfl
  | cons event events ih =>
      obtain ⟨next, stepped, rest⟩ := run_cons_eq_some.mp executed
      rw [ih (preserved state event next holds stepped) rest,
        tallied state event next holds stepped, List.countP_cons]
      omega

/-- Every step of the run is taken in a state where the guard allows it. -/
def Guarded (step : State → Event → Option State) (guard : State → Event → Prop) :
    State → List Event → Prop
  | _, [] => True
  | state, event :: events =>
      guard state event ∧ ∀ next, step state event = some next →
        Guarded step guard next events

theorem guarded_cons {guard : State → Event → Prop} {state next : State} {event : Event}
    {events : List Event} (allowed : guard state event) (stepped : step state event = some next)
    (rest : Guarded step guard next events) : Guarded step guard state (event :: events) := by
  refine ⟨allowed, ?_⟩
  intro other otherStepped
  obtain rfl : next = other := Option.some.inj (stepped.symm.trans otherStepped)
  exact rest

theorem guarded_append_singleton {guard : State → Event → Prop} {state last : State}
    {events : List Event} {event : Event} (executed : run step state events = some last)
    (allowed : Guarded step guard state (events ++ [event])) :
    Guarded step guard state events ∧ guard last event := by
  induction events generalizing state with
  | nil =>
      obtain rfl : state = last := by simpa using executed
      exact ⟨trivial, allowed.1⟩
  | cons first events ih =>
      obtain ⟨next, stepped, rest⟩ := run_cons_eq_some.mp executed
      obtain ⟨earlier, last⟩ := ih rest (allowed.2 next stepped)
      exact ⟨guarded_cons allowed.1 stepped earlier, last⟩

/-- A property preserved by every allowed step is preserved by every run whose
steps are all allowed. -/
theorem run_preserves_of_guarded {guard : State → Event → Prop} {invariant : State → Prop}
    (preserved : ∀ state event next, guard state event →
      invariant state → step state event = some next → invariant next)
    {state last : State} {events : List Event}
    (allowed : Guarded step guard state events)
    (holds : invariant state) (executed : run step state events = some last) :
    invariant last := by
  induction events generalizing state with
  | nil =>
      obtain rfl : state = last := by simpa using executed
      exact holds
  | cons event events ih =>
      obtain ⟨next, stepped, rest⟩ := run_cons_eq_some.mp executed
      exact ih (allowed.2 next stepped) (preserved state event next allowed.1 holds stepped) rest

/-- A guard that can be decided can be decided for a whole run. -/
instance decidableGuarded {guard : State → Event → Prop}
    [decidableGuard : ∀ state event, Decidable (guard state event)] :
    ∀ state events, Decidable (Guarded step guard state events)
  | _, [] => isTrue trivial
  | state, event :: events =>
      match stepped : step state event with
      | none =>
          decidable_of_iff (guard state event)
            ⟨fun allowed => ⟨allowed, fun next found => by rw [stepped] at found; cases found⟩,
              And.left⟩
      | some next =>
          have : Decidable (Guarded step guard next events) := decidableGuarded next events
          decidable_of_iff (guard state event ∧ Guarded step guard next events)
            ⟨fun allowed => guarded_cons allowed.1 stepped allowed.2,
              fun allowed => ⟨allowed.1, allowed.2 next stepped⟩⟩

theorem guarded_of_forall {holds : Event → Prop} {state : State} {events : List Event}
    (all : ∀ event ∈ events, holds event) :
    Guarded step (fun _ event => holds event) state events := by
  induction events generalizing state with
  | nil => trivial
  | cons event events ih =>
      exact ⟨all event List.mem_cons_self, fun next _ =>
        ih fun other member => all other (List.mem_cons_of_mem _ member)⟩

/-- A run whose steps are all allowed and whose events all have a property. -/
theorem Guarded.and_forall {guard : State → Event → Prop} {holds : Event → Prop} {state : State}
    {events : List Event} (allowed : Guarded step guard state events)
    (all : ∀ event ∈ events, holds event) :
    Guarded step (fun state event => guard state event ∧ holds event) state events := by
  induction events generalizing state with
  | nil => trivial
  | cons event events ih =>
      refine ⟨⟨allowed.1, all event List.mem_cons_self⟩, ?_⟩
      intro next stepped
      exact ih (allowed.2 next stepped) fun later member =>
        all later (List.mem_cons_of_mem event member)

/-- Two guards that agree wherever an invariant holds allow the same runs. -/
theorem guarded_congr {guard otherGuard : State → Event → Prop} {invariant : State → Prop}
    (preserved : ∀ state event next,
      invariant state → step state event = some next → invariant next)
    (agree : ∀ state event, invariant state → (guard state event ↔ otherGuard state event))
    {state : State} (holds : invariant state) (events : List Event) :
    Guarded step guard state events ↔ Guarded step otherGuard state events := by
  induction events generalizing state with
  | nil => exact Iff.rfl
  | cons event events ih =>
      refine and_congr (agree state event holds) ?_
      apply forall₂_congr
      intro next stepped
      exact ih (preserved state event next holds stepped)

theorem run_congr {otherStep : State → Event → Option State}
    {invariant : State → Prop}
    (preserved : ∀ state event next,
      invariant state → step state event = some next → invariant next)
    (agree : ∀ state event, invariant state → step state event = otherStep state event)
    {state : State} (holds : invariant state) (events : List Event) :
    run step state events = run otherStep state events := by
  induction events generalizing state with
  | nil => rfl
  | cons event events ih =>
      rw [run_cons, run_cons, ← agree state event holds]
      cases stepped : step state event with
      | none => rfl
      | some next => exact ih (preserved state event next holds stepped)

/-- When every step of one system is matched by a run of another, every run is. -/
theorem run_simulated {OtherState OtherEvent : Type*}
    {otherStep : OtherState → OtherEvent → Option OtherState}
    {related : State → OtherState → Prop}
    (simulates : ∀ state event next other, related state other → step state event = some next →
      ∃ otherEvents otherNext, run otherStep other otherEvents = some otherNext ∧
        related next otherNext)
    {state last : State} {events : List Event} {other : OtherState}
    (start : related state other) (executed : run step state events = some last) :
    ∃ otherEvents otherLast, run otherStep other otherEvents = some otherLast ∧
      related last otherLast := by
  induction events generalizing state other with
  | nil =>
      obtain rfl : state = last := by simpa using executed
      exact ⟨[], other, rfl, start⟩
  | cons event events ih =>
      obtain ⟨next, stepped, rest⟩ := run_cons_eq_some.mp executed
      obtain ⟨first, middle, firstRun, related⟩ := simulates state event next other start stepped
      obtain ⟨later, otherLast, laterRun, lastRelated⟩ := ih related rest
      refine ⟨first ++ later, otherLast, ?_, lastRelated⟩
      rw [run_append, firstRun]
      exact laterRun

/-- When every allowed step of one system is matched by the translated step of
another, every run whose steps are all allowed is. -/
theorem run_translated {OtherState OtherEvent : Type*}
    {otherStep : OtherState → OtherEvent → Option OtherState} (translate : Event → OtherEvent)
    {guard : State → Event → Prop} {related : State → OtherState → Prop}
    (simulates : ∀ state event next other, guard state event → related state other →
      step state event = some next →
        ∃ otherNext, otherStep other (translate event) = some otherNext ∧ related next otherNext)
    {state last : State} {events : List Event} {other : OtherState}
    (allowed : Guarded step guard state events) (start : related state other)
    (executed : run step state events = some last) :
    ∃ otherLast, run otherStep other (events.map translate) = some otherLast ∧
      related last otherLast := by
  induction events generalizing state other with
  | nil =>
      obtain rfl : state = last := by simpa using executed
      exact ⟨other, rfl, start⟩
  | cons event events ih =>
      obtain ⟨next, stepped, rest⟩ := run_cons_eq_some.mp executed
      obtain ⟨otherNext, otherStepped, related⟩ :=
        simulates state event next other allowed.1 start stepped
      obtain ⟨otherLast, otherRest, lastRelated⟩ := ih (allowed.2 next stepped) related rest
      exact ⟨otherLast, run_cons_eq_some.mpr ⟨otherNext, otherStepped, otherRest⟩, lastRelated⟩

/-- Where an allowed step lowers a measure that is not zero, a run of allowed steps
brings it to zero. -/
theorem exists_run_of_decreasing {invariant : State → Prop} {measure : State → ℕ}
    {allowed : Event → Prop}
    (progress : ∀ state, invariant state → measure state ≠ 0 →
      ∃ event next, allowed event ∧ step state event = some next ∧ invariant next ∧
        measure next < measure state)
    {state : State} (holds : invariant state) :
    ∃ events last, (∀ event ∈ events, allowed event) ∧ events.length ≤ measure state ∧
      run step state events = some last ∧ invariant last ∧ measure last = 0 := by
  induction rank : measure state using Nat.strongRecOn generalizing state with
  | ind rank ih =>
      by_cases done : measure state = 0
      · exact ⟨[], state, nofun, Nat.zero_le _, rfl, holds, done⟩
      · obtain ⟨event, next, permitted, stepped, after, lower⟩ := progress state holds done
        obtain ⟨events, last, all, short, executed, ended, zero⟩ :=
          ih (measure next) (rank ▸ lower) after rfl
        refine ⟨event :: events, last, ?_, ?_, run_cons_eq_some.mpr ⟨next, stepped, executed⟩,
          ended, zero⟩
        · intro other listed
          rcases List.mem_cons.mp listed with rfl | later
          · exact permitted
          · exact all other later
        · rw [List.length_cons]
          omega

end EventRun
