import KeelRouter.RequestAccounting
import KeelRouter.SystemLeases
import KeelRouter.SystemSafety

/-!
# Draining

Whatever has happened, the open requests come to their ends when their clients
disconnect, without another request and with nothing from a backend.  A request whose
body is still being read is answered, for the reading ends with an error; one that is
being routed goes on until it waits for its backend, where its future is dropped; and
the body of a response is dropped.  Then the counters of the backends are those of the
start.
-/

namespace KeelRouter

variable {F : Type}

/-! ## The steps that are left -/

/-- The most steps that an execution needs to its end when its client is gone. -/
def Phase.remaining : Phase → ℕ
  | .readingBody | .dispatching _ _ | .responding _ => 1
  | .opened _ _ _ => 2
  | .picked _ _ _ _ => 3
  | .routing _ _ => 4
  | .finished _ => 0

theorem Phase.remaining_eq_zero_iff {phase : Phase} :
    phase.remaining = 0 ↔ phase.isFinished = true := by
  cases phase <;> simp [remaining, isFinished]

theorem Phase.remaining_le (phase : Phase) :
    phase.remaining ≤ 4 * if phase.isFinished then 0 else 1 := by
  cases phase <;> simp [remaining, isFinished]

/-- A step that the router takes by itself, or that a disconnecting client brings
about. -/
def HandlerEvent.drains : HandlerEvent F → Bool
  | .bodyRead (.error _) | .pick _ | .openLease | .rebuild | .cancel | .dropBody => true
  | .bodyRead (.ok _) | .dispatched _ | .poll _ _ _ => false

def SystemEvent.drains : SystemEvent F → Bool
  | .router (.advance _ event) => event.drains
  | _ => false

namespace HandlerState

variable [DecayNumber F] (libraries : Libraries)

/-- An execution whose pick returns has a step that brings it closer to its end. -/
theorem exists_drain (state : HandlerState F)
    (picks : ∀ features body rng, ∃ after, state.pick features body rng = .ok after)
    (unfinished : state.handler.phase.remaining ≠ 0) :
    ∃ event after, event.drains = true ∧ state.step libraries event = some after ∧
      after.handler.phase.remaining < state.handler.phase.remaining := by
  cases phase : state.handler.phase with
  | readingBody =>
      refine ⟨.bodyRead (.error "connection closed"),
        { state with handler := state.handler.errorResponse 413 }, rfl, ?_, Nat.zero_lt_one⟩
      simp [step, phase, bodyRead, readBody, Except.mapError, Except.toOption]
  | routing features body =>
      obtain ⟨after, returned⟩ := picks features body .first
      refine ⟨.pick .first, after, rfl, ?_, ?_⟩
      · simp [step, phase, returned, Except.toOption]
      · rcases pick_cases returned with ⟨strategy, -, rfl⟩ |
          ⟨picked, strategy, id, backend, -, -, -, rfl⟩
        · exact Nat.zero_lt_succ 3
        · exact Nat.lt_succ_self 3
  | picked features body backend fellThrough =>
      refine ⟨.openLease, state.openLease features body backend, rfl, ?_, Nat.lt_succ_self 2⟩
      simp [step, phase]
  | opened features body lease =>
      refine ⟨.rebuild, state.rebuild libraries features body lease, rfl, ?_, ?_⟩
      · simp [step, phase]
      · rcases state.rebuild_cases libraries features body lease with rebuilt | rebuilt
        · rw [rebuilt]
          exact Nat.zero_lt_succ 1
        · rw [rebuilt]
          exact Nat.lt_succ_self 1
  | dispatching features lease =>
      refine ⟨.cancel, state.cancelDispatch lease, rfl, ?_, Nat.zero_lt_one⟩
      simp [step, phase]
  | responding body =>
      refine ⟨.dropBody, state.dropBody body, rfl, ?_, Nat.zero_lt_one⟩
      simp [step, phase]
  | finished finish =>
      rw [phase] at unfinished
      exact absurd rfl unfinished

end HandlerState

/-! ## The whole system -/

/-- The most steps that the open executions need to their ends. -/
def RouterRun.remaining (state : RouterRun F) : ℕ :=
  (state.handlers.map fun handler => handler.phase.remaining).sum

namespace RouterRun

variable {state : RouterRun F}

theorem remaining_eq_zero_iff :
    state.remaining = 0 ↔ ∀ handler ∈ state.handlers, handler.isFinished := by
  unfold remaining
  rw [List.sum_eq_zero_iff]
  simp [Phase.remaining_eq_zero_iff, Handler.isFinished]

theorem remaining_le (state : RouterRun F) :
    state.remaining ≤ 4 * state.handlers.countP fun handler => !handler.isFinished := by
  unfold remaining
  induction state.handlers with
  | nil => exact Nat.zero_le _
  | cons handler handlers ih =>
      have own := handler.phase.remaining_le
      rw [List.map_cons, List.sum_cons, List.countP_cons]
      unfold Handler.isFinished at ih ⊢
      cases finished : handler.phase.isFinished <;> simp only [finished] at own ⊢ <;>
        simp at own ⊢ <;> omega

theorem remaining_update {id : Nat} {handler : Handler}
    (present : state.handlers[id]? = some handler) {after : HandlerState F}
    (lower : after.handler.phase.remaining < handler.phase.remaining) :
    (state.update id after).remaining < state.remaining := by
  unfold remaining update
  dsimp only
  generalize state.handlers = handlers at present
  induction handlers generalizing id with
  | nil => cases present
  | cons first handlers ih =>
      cases id with
      | zero =>
          obtain rfl := Option.some.inj present
          simpa using lower
      | succ id =>
          have rest := ih present
          simpa using rest

end RouterRun

namespace AuditedRun

variable [DecayNumber F] (maxSignalAge : Instant) (libraries : Libraries) {config : Config}
  {strategy : RoutingStrategy} {routeHists : RouteHistograms F}

/-- Whenever an execution is open, a step that drains is enabled and brings the system
closer to its rest. -/
theorem exists_drain {state : AuditedRun F} {length : Nat} (numbered : state.Numbered length)
    (unfinished : state.system.run.remaining ≠ 0) :
    ∃ event next, event.drains = true ∧ state.step maxSignalAge libraries event = some next ∧
      next.system.run.handlers.length = state.system.run.handlers.length ∧
      next.system.run.remaining < state.system.run.remaining := by
  have some_open : ∃ handler ∈ state.system.run.handlers, handler.phase.remaining ≠ 0 := by
    by_contra none
    apply unfinished
    rw [RouterRun.remaining_eq_zero_iff]
    intro handler listed
    have zero : handler.phase.remaining = 0 := by
      by_contra more
      exact none ⟨handler, listed, more⟩
    exact Phase.remaining_eq_zero_iff.mp zero
  obtain ⟨handler, listed, more⟩ := some_open
  obtain ⟨id, present⟩ := List.getElem?_of_mem listed
  obtain ⟨event, after, drains, handled, lower⟩ := HandlerState.exists_drain libraries
    (state.system.run.view handler) (numbered.exists_pick handler) more
  have routed : state.system.run.step libraries (.advance id event) =
      some (state.system.run.update id after) := by
    unfold RouterRun.step
    simp [present, handled]
  have advanced : ∃ decisions, state.step maxSignalAge libraries (.router (.advance id event)) =
      some ⟨{ state.system with run := state.system.run.update id after, decisions },
        state.takenFrom⟩ := by
    unfold step SystemRun.step
    dsimp only
    rw [routed]
    exact ⟨_, rfl⟩
  obtain ⟨decisions, stepped⟩ := advanced
  refine ⟨.router (.advance id event), _, drains, stepped, ?_, ?_⟩
  · exact List.length_set
  · exact RouterRun.remaining_update present lower

/-- What the draining of a system keeps. -/
structure Draining (length handlers : ℕ) (state : AuditedRun F) : Prop where
  numbered : state.Numbered length
  handlers : state.system.run.handlers.length = handlers
  balanced : state.system.run.Balanced

theorem balanced_step {state next : AuditedRun F} {event : SystemEvent F}
    (balanced : state.system.run.Balanced)
    (stepped : state.step maxSignalAge libraries event = some next) :
    next.system.run.Balanced := by
  obtain ⟨system, advanced, rfl⟩ := Option.map_eq_some_iff.mp stepped
  rcases SystemRun.step_cases advanced with ⟨routerEvent, -, routed⟩ | kept
  · exact RouterRun.balanced_step balanced routed
  · exact kept.balanced balanced

/-- From every state that the system reaches, at most four steps for each open request
bring all requests to their ends and the counters of all backends to those of the start.
The steps are those of the router itself and the disconnects of clients. -/
theorem every_state_drains {events : List (SystemEvent F)} {state : AuditedRun F}
    (executed : EventRun.run (step maxSignalAge libraries)
      (initial config strategy routeHists) events = some state) :
    ∃ drains last, (∀ event ∈ drains, SystemEvent.drains event = true) ∧
      drains.length ≤ 4 * state.system.run.handlers.countP (fun handler => !handler.isFinished) ∧
      EventRun.run (step maxSignalAge libraries) state drains = some last ∧
      last.system.run.handlers.length = state.system.run.handlers.length ∧
      (∀ handler ∈ last.system.run.handlers, handler.isFinished) ∧
      ∀ ref, (last.system.run.heap ref).live = .default := by
  have started : (initial config strategy routeHists).system.run.Balanced :=
    RouterRun.balanced_initial config.heap_live _
  have draining : state.Draining config.backends.length state.system.run.handlers.length :=
    ⟨numbered_run executed, rfl,
      EventRun.run_preserves (fun _ _ _ => balanced_step maxSignalAge libraries) started executed⟩
  have progress (middle : AuditedRun F)
      (holds : middle.Draining config.backends.length state.system.run.handlers.length)
      (unfinished : middle.system.run.remaining ≠ 0) :
      ∃ event next, SystemEvent.drains event = true ∧
        middle.step maxSignalAge libraries event = some next ∧
        next.Draining config.backends.length state.system.run.handlers.length ∧
        next.system.run.remaining < middle.system.run.remaining := by
    obtain ⟨event, next, drains, stepped, same, lower⟩ :=
      exists_drain maxSignalAge libraries holds.numbered unfinished
    exact ⟨event, next, drains, stepped,
      ⟨numbered_step holds.numbered stepped, same.trans holds.handlers,
        balanced_step maxSignalAge libraries holds.balanced stepped⟩, lower⟩
  obtain ⟨drains, last, all, short, drained, ended, rest⟩ :=
    EventRun.exists_run_of_decreasing progress draining
  have finished := RouterRun.remaining_eq_zero_iff.mp rest
  exact ⟨drains, last, all, short.trans state.system.run.remaining_le, drained, ended.handlers,
    finished, fun ref => ended.balanced.live_of_finished ref finished⟩

section Disconnected

open RouterRun (chatLibraries chatParts chatRouter chatArrival chatRouted)
open LoggedRun (twoHeap)

/-- A request waits for the answer of the first backend, one reads the response of the
second, and the body of a third is not yet there. -/
def threeWaiting : List (RouterEvent ℝ) :=
  [.advance 0 (.pick .first), .advance 0 .openLease, .arrive chatParts 0,
    .advance 1 (.pick .first), .advance 0 .rebuild, .advance 1 .openLease,
    .advance 1 .rebuild, .advance 1 (.dispatched (.ok 200))]

theorem every_state_drains_disconnected :
    let routeHists := (chatRouter (.roundRobin 0)).routeHists
    let config := (twoBackends defaultPenalty).toConfig
    ∃ (state last : AuditedRun ℝ) (drains : List (SystemEvent ℝ)),
      EventRun.run (step 5 chatLibraries) (initial config (.roundRobin 0) routeHists)
        ((chatArrival 0 ++ (chatArrival 1 ++ threeWaiting)).map .router) = some state ∧
      (state.system.run.heap 0).live.inflight = 1 ∧ (state.system.run.heap 1).live.inflight = 1 ∧
      state.system.run.handlers.countP (fun handler => !handler.isFinished) = 3 ∧
      (∀ event ∈ drains, SystemEvent.drains event = true) ∧ drains.length ≤ 12 ∧
      EventRun.run (step 5 chatLibraries) state drains = some last ∧
      (∀ handler ∈ last.system.run.handlers, handler.isFinished) ∧
      ∀ ref, (last.system.run.heap ref).live = .default := by
  intro routeHists config
  let router := config.router (.roundRobin 0) routeHists
  have waiting : EventRun.run (RouterRun.step chatLibraries)
      ⟨twoHeap, router, [chatRouted, chatRouted]⟩ threeWaiting = some _ := rfl
  have routed : EventRun.run (RouterRun.step chatLibraries)
      (initial config (.roundRobin 0) routeHists).system.run
      (chatArrival 0 ++ (chatArrival 1 ++ threeWaiting)) = some _ :=
    (RouterRun.run_chatArrival_append ⟨rfl, rfl⟩ twoHeap [] _).trans
      ((RouterRun.run_chatArrival_append ⟨rfl, rfl⟩ twoHeap [chatRouted] _).trans waiting)
  obtain ⟨decisions, executed⟩ := @run_routed ℝ _ 5 _ _ _ _ routed
  obtain ⟨drains, last, all, short, drained, -, finished, rest⟩ :=
    every_state_drains 5 chatLibraries executed
  exact ⟨_, last, drains, executed, rfl, rfl, rfl, all, short, drained, finished, rest⟩

end Disconnected

end AuditedRun

end KeelRouter
