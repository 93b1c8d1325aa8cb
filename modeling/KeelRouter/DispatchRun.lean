import KeelRouter.LeaseConservation
import KeelRouter.Pressure

/-!
# Runs of dispatches

A dispatch picks a backend and opens a lease on it before the next pick.  The
open leases are observed and dropped in between, and the snapshot is replaced
at any moment.  A run keeps the list of its decisions.
-/

namespace KeelRouter

/-- The leases of a run and the decisions it has made. -/
structure DispatchState where
  leases : LeaseState
  decisions : List (Option BackendId)

inductive DispatchEvent where
  | dispatch (req : RequestFeatures) (rng : SmallRng) (now : Instant)
  | observeTokens (position : Nat) (n : UInt32)
  | drop (position : Nat)
  | nextSnapshot

namespace DispatchState

def commit (state : DispatchState) (kvModel : KvModel) (req : RequestFeatures)
    (now : Instant) (chosen : Option BackendId) : Outcome DispatchState :=
  match chosen with
  | none => .ok { state with decisions := state.decisions ++ [none] }
  | some id => do
      let backend ← state.leases.snapshot.backendRef id
      return {
        leases := state.leases.openLease backend req.promptTokens
          req.expectedOutputTokens kvModel now
        decisions := state.decisions ++ [some id] }

def dispatch (strategy : Pressure) (state : DispatchState) (req : RequestFeatures)
    (rng : SmallRng) (now : Instant) : Outcome DispatchState := do
  let picked ←
    strategy.pick state.leases.heap state.leases.snapshot req rng (some .default)
  state.commit strategy.kvModel req now picked.chosen

/-- One step of a run; a panicking dispatch ends it. -/
def step (strategy : Pressure) (state : DispatchState) : DispatchEvent → Option DispatchState
  | .dispatch req rng now => (state.dispatch strategy req rng now).toOption
  | .observeTokens position n =>
      (state.leases.step (.observeTokens position n)).map fun leases =>
        { state with leases }
  | .drop position =>
      (state.leases.step (.drop position)).map fun leases => { state with leases }
  | .nextSnapshot =>
      (state.leases.step .nextSnapshot).map fun leases => { state with leases }

theorem commit_cases {state next : DispatchState} {kvModel : KvModel}
    {req : RequestFeatures} {now : Instant} {chosen : Option BackendId}
    (committed : state.commit kvModel req now chosen = .ok next) :
    next.leases = state.leases ∨
      ∃ event, state.leases.step event = some next.leases := by
  cases chosen with
  | none =>
      obtain rfl := Except.ok.inj committed
      exact .inl rfl
  | some id =>
      obtain ⟨backend, -, opened⟩ := Outcome.bind_eq_ok.mp committed
      obtain rfl := Except.ok.inj opened
      exact .inr ⟨.open backend req.promptTokens req.expectedOutputTokens kvModel now, rfl⟩

/-- Whatever a step does to the leases is one lease operation or nothing. -/
theorem step_leases {strategy : Pressure} {state next : DispatchState}
    {event : DispatchEvent} (stepped : state.step strategy event = some next) :
    next.leases = state.leases ∨
      ∃ event, state.leases.step event = some next.leases := by
  have operated (operation : LeaseEvent) (applied : (state.leases.step operation).map
      (fun leases => { state with leases }) = some next) :
      ∃ event, state.leases.step event = some next.leases := by
    obtain ⟨leases, operated, rfl⟩ := Option.map_eq_some_iff.mp applied
    exact ⟨operation, operated⟩
  cases event with
  | dispatch req rng now =>
      have returned := Outcome.toOption_eq_some.mp stepped
      obtain ⟨picked, -, committed⟩ := Outcome.bind_eq_ok.mp returned
      exact commit_cases committed
  | observeTokens position n => exact .inr (operated (.observeTokens position n) stepped)
  | drop position => exact .inr (operated (.drop position) stepped)
  | nextSnapshot => exact .inr (operated .nextSnapshot stepped)

def Positive (state : DispatchState) : Prop :=
  state.leases.snapshot.Positive state.leases.heap

theorem positive_step {strategy : Pressure} {state next : DispatchState}
    {event : DispatchEvent} (positive : state.Positive)
    (stepped : state.step strategy event = some next) : next.Positive := by
  rcases step_leases stepped with same | ⟨operation, operated⟩
  · unfold Positive
    rw [same]
    exact positive
  · intro ref member
    rw [LeaseState.step_backends operated] at member
    rw [LeaseState.step_caps operated ref]
    exact positive ref member

end DispatchState

end KeelRouter
