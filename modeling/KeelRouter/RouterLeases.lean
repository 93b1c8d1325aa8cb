import KeelRouter.EntryTable
import KeelRouter.LeaseConservation
import KeelRouter.RouterRun

/-!
# The leases of a run of the router

An execution of the handler holds at most one lease, from its opening to an
error or the drop of the response body.  Each step of the router opens, drops or
observes the lease of one execution or leaves all of them alone, so a run of
the router is a run of the lease operations, and the counters of the backends
are the balances of the leases that the executions hold.
-/

namespace KeelRouter

open SerdeJson (Codec)

variable {F : Type}

/-- The lease that belongs to a phase. -/
def Phase.lease : Phase → Option CostLease
  | .opened _ _ lease | .dispatching _ lease => some lease
  | .responding body => some body.lease
  | _ => none

def Handler.lease (handler : Handler) : Option CostLease :=
  handler.phase.lease

/-- The leases that are open in a run. -/
def RouterRun.leases (state : RouterRun F) : List CostLease :=
  state.handlers.filterMap Handler.lease

/-! ## What a body does to its lease -/

def observeToken (held : CostLease × Heap) : CostLease × Heap :=
  held.1.observeTokens 1 held.2

namespace BodyState

variable (codec : Codec) (now : Instant) (state : BodyState)

def held (state : BodyState) : CostLease × Heap :=
  (state.body.lease, state.heap)

theorem held_applyFrame (frame : Option Frame) :
    ∃ count, (state.applyFrame now frame).held = observeToken^[count] state.held := by
  rcases frame with _ | (_ | _ | _ | _ | _ | _)
  case some.content => exact ⟨1, rfl⟩
  all_goals exact ⟨0, rfl⟩

theorem held_feed (text : List Char) :
    ∃ count, (state.feed codec now text).held = observeToken^[count] state.held := by
  have handled (lines : List (List Char)) (state : BodyState) :
      ∃ count, (lines.foldl (handleLine codec now) state).held =
        observeToken^[count] state.held := by
    induction lines generalizing state with
    | nil => exact ⟨0, rfl⟩
    | cons line lines ih =>
        obtain ⟨first, applied⟩ := state.held_applyFrame now (lineFrame codec line)
        obtain ⟨later, folded⟩ := ih (state.handleLine codec now line)
        refine ⟨later + first, ?_⟩
        rw [List.foldl_cons, folded, handleLine, applied, Function.iterate_add_apply]
  exact handled _ _

theorem held_pollFrame (polled : Polled) :
    ∃ count, (state.pollFrame codec now polled).1.held = observeToken^[count] state.held := by
  cases polled with
  | frame frame =>
      cases frame with
      | data bytes =>
          change ∃ count, (state.pollData codec now bytes).held = _
          unfold pollData
          cases Utf8Relay.fromUtf8 bytes with
          | none => exact ⟨0, rfl⟩
          | some text => exact held_feed codec now state text
      | trailers => exact ⟨0, rfl⟩
  | pending | error | finished => exact ⟨0, rfl⟩

end BodyState

/-! ## What an execution does to its lease -/

/-- Everything that a step other than the opening can do to the lease of its
execution. -/
inductive LeaseUse : Option CostLease × Heap → Option CostLease × Heap → Prop where
  | keep (held : Option CostLease × Heap) : LeaseUse held held
  | observe (count : Nat) (held : CostLease × Heap) :
      LeaseUse (some held.1, held.2)
        (some (observeToken^[count] held).1, (observeToken^[count] held).2)
  | drop (lease : CostLease) (heap : Heap) : LeaseUse (some lease, heap) (none, lease.drop heap)

namespace HandlerState

def held (state : HandlerState F) : Option CostLease × Heap :=
  (state.handler.lease, state.heap)

/-- The step opens a lease on the backend that was picked. -/
def Opens (state : HandlerState F) (event : HandlerEvent F) (after : HandlerState F) : Prop :=
  event = .openLease ∧ ∃ features body backend fellThrough,
    state.handler.phase = .picked features body backend fellThrough ∧
      after = state.openLease features body backend

variable [DecayNumber F] {libraries : Libraries} {state after : HandlerState F}
  {event : HandlerEvent F}

theorem leaseUse_of_steps (stepped : state.Steps libraries event after)
    (notOpening : event ≠ .openLease) : LeaseUse state.held after.held := by
  unfold held
  cases stepped with
  | bodyRead collected phase returned =>
      rw [Handler.lease, phase]
      rcases bodyRead_cases returned with ⟨status, rfl⟩ | ⟨features, body, rfl⟩ <;>
        exact .keep _
  | pick rng phase returned =>
      rw [Handler.lease, phase]
      rcases pick_cases returned with ⟨strategy, -, rfl⟩ |
        ⟨picked, strategy, id, backend, -, -, -, rfl⟩ <;>
        exact .keep _
  | openLease phase => exact absurd rfl notOpening
  | rebuild phase =>
      rename_i features body lease
      rw [Handler.lease, phase]
      rcases state.rebuild_cases libraries features body lease with rebuilt | rebuilt
      · rw [rebuilt]
        exact .drop lease state.heap
      · rw [rebuilt]
        exact .keep _
  | dispatched answer phase =>
      rename_i features lease
      rw [Handler.lease, phase]
      rcases state.dispatched_cases features lease answer with
        ⟨key, answered⟩ | ⟨body, same, answered⟩
      · rw [answered]
        exact .drop lease state.heap
      · rw [answered, ← same]
        exact .keep _
  | cancelDispatch phase =>
      rename_i features lease
      rw [Handler.lease, phase]
      exact .drop lease state.heap
  | poll now nowS polled phase =>
      rename_i body
      rw [Handler.lease, phase]
      obtain ⟨count, observed⟩ :=
        BodyState.held_pollFrame libraries.codec now ⟨body, state.heap, []⟩ polled
      have used := LeaseUse.observe count (body.lease, state.heap)
      change _ = observeToken^[count] (body.lease, state.heap) at observed
      rw [← observed] at used
      exact used
  | dropBody phase =>
      rename_i body
      rw [Handler.lease, phase]
      exact .drop body.lease state.heap

/-- A step opens a lease or uses the one that its execution holds. -/
theorem opens_or_leaseUse_of_steps (stepped : state.Steps libraries event after) :
    state.Opens event after ∨ LeaseUse state.held after.held := by
  by_cases opening : event = .openLease
  · subst opening
    cases stepped with
    | openLease phase => exact .inl ⟨rfl, _, _, _, _, phase, rfl⟩
  · exact .inr (leaseUse_of_steps stepped opening)

/-- No step replaces the snapshot or the cost model, and only a pick touches the
strategy. -/
theorem router_of_steps (stepped : state.Steps libraries event after) :
    after.router.snapshot = state.router.snapshot ∧
      after.router.kvModel = state.router.kvModel ∧
      (after.router.strategy = state.router.strategy ∨ ∃ features rng picked,
        state.router.strategy.pick state.heap state.router.snapshot features rng
          (some .default) = .ok (picked, after.router.strategy)) := by
  cases stepped with
  | bodyRead collected phase returned =>
      rcases bodyRead_cases returned with ⟨status, rfl⟩ | ⟨features, body, rfl⟩ <;>
        exact ⟨rfl, rfl, .inl rfl⟩
  | pick rng phase returned =>
      rename_i features body
      rcases pick_cases returned with ⟨strategy, chose, rfl⟩ |
        ⟨picked, strategy, id, backend, chose, -, -, rfl⟩
      · refine ⟨rfl, rfl, chose.imp_right ?_⟩
        rintro ⟨picked, chose⟩
        exact ⟨features, rng, picked, chose⟩
      · exact ⟨rfl, rfl, .inr ⟨features, rng, picked, chose⟩⟩
  | rebuild phase =>
      rename_i features body lease
      rcases state.rebuild_cases libraries features body lease with rebuilt | rebuilt <;>
        rw [rebuilt] <;> exact ⟨rfl, rfl, .inl rfl⟩
  | dispatched answer phase =>
      rename_i features lease
      rcases state.dispatched_cases features lease answer with
        ⟨key, answered⟩ | ⟨body, -, answered⟩ <;>
        rw [answered] <;> exact ⟨rfl, rfl, .inl rfl⟩
  | openLease phase | cancelDispatch phase | poll _ _ _ phase | dropBody phase =>
      exact ⟨rfl, rfl, .inl rfl⟩

end HandlerState

/-! ## Runs of the router are runs of the lease operations -/

/-- The lease operations have the shared counters, the snapshot and the open
leases of the router; only the order of the leases may differ. -/
structure RouterRun.Ledger (state : RouterRun F) (ledger : LeaseState) : Prop where
  heap : ledger.heap = state.heap
  snapshot : ledger.snapshot = state.router.snapshot
  leases : ledger.leases.Perm state.leases

namespace RouterRun

theorem ledger_initial (heap : Heap) (router : RouterState F) :
    (initial heap router).Ledger (.initial heap router.snapshot) where
  heap := rfl
  snapshot := rfl
  leases := .refl _

theorem leases_perm {state : RouterRun F} {id : Nat} {handler : Handler}
    (present : state.handlers[id]? = some handler) :
    state.leases.Perm
      (handler.lease.toList ++ (state.handlers.eraseIdx id).filterMap Handler.lease) :=
  filterMap_perm Handler.lease present

theorem leases_update_perm {state : RouterRun F} {id : Nat} {handler : Handler}
    (present : state.handlers[id]? = some handler) (after : HandlerState F) :
    (state.update id after).leases.Perm
      (after.handler.lease.toList ++ (state.handlers.eraseIdx id).filterMap Handler.lease) := by
  have split := leases_perm (getElem?_update_self present after)
  rwa [show (state.update id after).handlers.eraseIdx id = state.handlers.eraseIdx id from
    List.eraseIdx_set_eq] at split

end RouterRun

namespace LeaseState

theorem run_observeTokens {ledger : LeaseState} {position : Nat} {lease : CostLease}
    (present : ledger.leases[position]? = some lease) (count : Nat) :
    EventRun.run step ledger (List.replicate count (.observeTokens position 1)) =
      some { ledger with
        heap := (observeToken^[count] (lease, ledger.heap)).2
        leases := ledger.leases.set position (observeToken^[count] (lease, ledger.heap)).1 } := by
  obtain ⟨inside, -⟩ := List.getElem?_eq_some_iff.mp present
  induction count generalizing ledger lease with
  | zero =>
      obtain ⟨-, rfl⟩ := List.getElem?_eq_some_iff.mp present
      simp
  | succ count ih =>
      have stepped : ledger.step (.observeTokens position 1) =
          some (ledger.observeLease position lease 1) := by
        simp [step, present]
      have revised : (ledger.observeLease position lease 1).leases[position]? =
          some (observeToken (lease, ledger.heap)).1 := by
        simp [observeLease, observeToken, inside]
      have later := ih revised (by simpa [observeLease] using inside)
      rw [List.replicate_succ, EventRun.run_cons, stepped, Option.bind_some, later]
      simp [observeLease, observeToken, Function.iterate_succ_apply]

/-- What one execution does to its lease is a run of lease operations. -/
theorem exists_run_of_leaseUse {ledger : LeaseState} {before after : Option CostLease × Heap}
    {others : List CostLease} (used : LeaseUse before after) (heap : ledger.heap = before.2)
    (leases : ledger.leases.Perm (before.1.toList ++ others)) :
    ∃ events last, EventRun.run step ledger events = some last ∧ last.heap = after.2 ∧
      last.snapshot = ledger.snapshot ∧ last.leases.Perm (after.1.toList ++ others) := by
  cases used with
  | keep => exact ⟨[], ledger, rfl, heap, rfl, leases⟩
  | observe count held =>
      obtain ⟨lease, start⟩ := held
      obtain rfl : ledger.heap = start := heap
      obtain ⟨position, present⟩ :=
        List.mem_iff_getElem?.mp (leases.mem_iff.mpr List.mem_cons_self)
      obtain ⟨inside, atPosition⟩ := List.getElem?_eq_some_iff.mp present
      refine ⟨_, _, run_observeTokens present count, rfl, rfl, ?_⟩
      have split := List.getElem_cons_eraseIdx_perm inside
      rw [atPosition] at split
      have rest := (split.trans leases).cons_inv
      exact (List.set_perm_cons_eraseIdx inside _).trans (rest.cons _)
  | drop lease start =>
      obtain rfl : ledger.heap = start := heap
      obtain ⟨position, present⟩ :=
        List.mem_iff_getElem?.mp (leases.mem_iff.mpr List.mem_cons_self)
      obtain ⟨inside, atPosition⟩ := List.getElem?_eq_some_iff.mp present
      have dropped : ledger.step (.drop position) = some (ledger.dropLease position lease) := by
        simp [step, present]
      refine ⟨[.drop position], _, EventRun.run_cons_eq_some.mpr ⟨_, dropped, rfl⟩, rfl, rfl, ?_⟩
      have split := List.getElem_cons_eraseIdx_perm inside
      rw [atPosition] at split
      exact (split.trans leases).cons_inv

end LeaseState

namespace RouterRun

variable [DecayNumber F] {libraries : Libraries}

theorem ledger_step {state next : RouterRun F} {event : RouterEvent F} {ledger : LeaseState}
    (simulated : state.Ledger ledger) (stepped : state.step libraries event = some next) :
    ∃ events last, EventRun.run LeaseState.step ledger events = some last ∧ next.Ledger last := by
  rcases step_cases stepped with ⟨parts, now, rfl, rfl⟩ |
    ⟨id, event', handler, after, rfl, present, advanced, rfl⟩
  · refine ⟨[], ledger, rfl, simulated.heap, simulated.snapshot, ?_⟩
    have noLease : (Handler.arrived parts now).lease = none := rfl
    simpa [leases, noLease] using simulated.leases
  · have sameSnapshot := (HandlerState.router_of_steps advanced).1
    have perm := simulated.leases.trans (leases_perm present)
    rcases HandlerState.opens_or_leaseUse_of_steps advanced with
      ⟨-, features, body, backend, fellThrough, phase, rfl⟩ | used
    · have noLease : handler.lease = none := by
        rw [Handler.lease, show handler.phase = _ from phase]
        rfl
      rw [noLease] at perm
      refine ⟨[.open backend features.promptTokens features.expectedOutputTokens
        state.router.kvModel handler.now], _, rfl, ?_, ?_, ?_⟩
      · simp [update, HandlerState.openLease, LeaseState.openLease, view, simulated.heap]
      · exact simulated.snapshot
      · have updated := leases_update_perm present
          ((state.view handler).openLease features body backend)
        refine .trans ?_ updated.symm
        simp only [LeaseState.openLease, simulated.heap]
        exact perm.cons _
    · obtain ⟨events, last, executed, heap, snapshot, lastPerm⟩ :=
        LeaseState.exists_run_of_leaseUse used simulated.heap perm
      refine ⟨events, last, executed, heap, ?_,
        lastPerm.trans (leases_update_perm present after).symm⟩
      exact (snapshot.trans simulated.snapshot).trans sameSnapshot.symm

/-- Every run of the router is a run of lease operations. -/
theorem ledger_run {state last : RouterRun F} {events : List (RouterEvent F)}
    {ledger : LeaseState} (simulated : state.Ledger ledger)
    (executed : EventRun.run (step libraries) state events = some last) :
    ∃ leaseEvents final, EventRun.run LeaseState.step ledger leaseEvents = some final ∧
      last.Ledger final :=
  EventRun.run_simulated (fun _ _ _ _ => ledger_step) simulated executed

end RouterRun

/-! ## The balances -/

def slotsOn (leases : List CostLease) (ref : BackendRef) : ℕ :=
  keyedSum CostLease.backend (fun _ => 1) leases ref

def chargesOn (leases : List CostLease) (ref : BackendRef) : ℤ :=
  keyedSum CostLease.backend (fun lease => lease.charged.toInt) leases ref

namespace RouterRun

def Balanced (state : RouterRun F) : Prop :=
  ∃ ledger : LeaseState, state.Ledger ledger ∧ ledger.Balanced

theorem balanced_initial {heap : Heap} (fresh : ∀ ref, (heap ref).live = .default)
    (router : RouterState F) : (initial heap router).Balanced :=
  ⟨_, ledger_initial heap router, LeaseState.balanced_initial fresh router.snapshot⟩

theorem balanced_step [DecayNumber F] {libraries : Libraries} {state next : RouterRun F}
    {event : RouterEvent F} (balanced : state.Balanced)
    (stepped : state.step libraries event = some next) : next.Balanced := by
  obtain ⟨ledger, simulated, ledgerBalanced⟩ := balanced
  obtain ⟨events, last, executed, nextSimulated⟩ := ledger_step simulated stepped
  exact ⟨last, nextSimulated, LeaseState.balanced_run ledgerBalanced executed⟩

section Balances

variable {state : RouterRun F} (balanced : state.Balanced) (ref : BackendRef)
include balanced

theorem Balanced.inflight_toNat :
    (state.heap ref).live.inflight.toNat = slotsOn state.leases ref % 2 ^ 32 := by
  obtain ⟨ledger, simulated, ledgerBalanced⟩ := balanced
  rw [← simulated.heap, ledgerBalanced.inflight_toNat ref, slotsOn,
    ← keyedSum_perm _ _ simulated.leases]
  simp [keyedSum, LeaseState.openOn]

theorem Balanced.kvProjectedTokens_modEq :
    (state.heap ref).live.kvProjectedTokens.toInt ≡ chargesOn state.leases ref
      [ZMOD 2 ^ 64] := by
  obtain ⟨ledger, simulated, ledgerBalanced⟩ := balanced
  rw [← simulated.heap, chargesOn, ← keyedSum_perm _ _ simulated.leases]
  exact ledgerBalanced.kvProjectedTokens_modEq ref

end Balances

/-- In every run of the router from default counters, the counters of a backend
count the leases that the executions hold on it and sum their charges. -/
theorem counters_run [DecayNumber F] {libraries : Libraries} {heap : Heap}
    (fresh : ∀ ref, (heap ref).live = .default) (router : RouterState F)
    {events : List (RouterEvent F)} {state : RouterRun F}
    (executed : EventRun.run (step libraries) (initial heap router) events = some state)
    (ref : BackendRef) :
    (state.heap ref).live.inflight.toNat = slotsOn state.leases ref % 2 ^ 32 ∧
      (state.heap ref).live.kvProjectedTokens.toInt ≡ chargesOn state.leases ref
        [ZMOD 2 ^ 64] := by
  have balanced : state.Balanced :=
    EventRun.run_preserves (fun _ _ _ => balanced_step) (balanced_initial fresh router) executed
  exact ⟨balanced.inflight_toNat ref, balanced.kvProjectedTokens_modEq ref⟩

end RouterRun

end KeelRouter
