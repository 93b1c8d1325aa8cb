import KeelRouter.EventRun

/-!
# Noninterference of hidden events

Some events of a system are hidden from an observer, who sees a view of its
states.  When hidden events leave the view alone, and every other event does to
the view of a state what it does to any state with that view, the hidden events
of a run never show: runs with the same other events give the same view.
-/

namespace Noninterference

open EventRun

variable {State Event View : Type*}

/-- The unwinding conditions. -/
structure Unwinds (step : State → Event → Option State) (view : State → View)
    (hidden : Event → Bool) : Prop where
  unseen : ∀ state event, hidden event = true →
    ∃ next, step state event = some next ∧ view next = view state
  congr : ∀ first second event, hidden event = false → view first = view second →
    (step first event).map view = (step second event).map view

variable {step : State → Event → Option State} {view : State → View} {hidden : Event → Bool}

/-- What remains of a run when its hidden events are taken out. -/
theorem map_view_run (unwinds : Unwinds step view hidden) {first second : State}
    (agree : view first = view second) (events : List Event) :
    (run step first events).map view =
      (run step second (events.filter fun event => !hidden event)).map view := by
  induction events generalizing first second with
  | nil => simpa using agree
  | cons event events ih =>
      cases shown : hidden event with
      | true =>
          obtain ⟨next, stepped, same⟩ := unwinds.unseen first event shown
          rw [List.filter_cons_of_neg (by simp [shown]), run_cons, stepped]
          exact ih (same.trans agree)
      | false =>
          rw [List.filter_cons_of_pos (by simp [shown]), run_cons, run_cons]
          have same := unwinds.congr first second event shown agree
          cases firstStepped : step first event with
          | none =>
              rw [firstStepped] at same
              rw [Option.map_eq_none_iff.mp same.symm]
              rfl
          | some firstNext =>
              rw [firstStepped] at same
              obtain ⟨secondNext, secondStepped, seen⟩ := Option.map_eq_some_iff.mp same.symm
              rw [secondStepped]
              exact ih seen.symm

/-- Runs with the same visible events are possible together and give the same view. -/
theorem map_view_run_congr (unwinds : Unwinds step view hidden) {first second : State}
    (agree : view first = view second) {events otherEvents : List Event}
    (same : (events.filter fun event => !hidden event) =
      otherEvents.filter fun event => !hidden event) :
    (run step first events).map view = (run step second otherEvents).map view := by
  rw [map_view_run unwinds agree events, same, ← map_view_run unwinds rfl otherEvents]

end Noninterference
