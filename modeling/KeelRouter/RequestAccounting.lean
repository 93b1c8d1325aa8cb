import KeelRouter.BodyVerdict
import KeelRouter.RouterRun
import Mathlib.Data.Bool.Count

/-!
# Accounting for requests

Every execution of the handler that ends by an error response or by the drop of
its response body has recorded exactly one result.  An execution whose future
is dropped while it waits for its backend records none, so a run accounts for
all its finished requests exactly when no future was dropped in it.
-/

namespace KeelRouter

variable {F : Type}

def Phase.recordings : Phase → Nat
  | .finished (.answered _) | .finished .bodyDropped => 1
  | _ => 0

@[simp]
theorem Phase.recordings_answered (status : StatusCode) :
    (finished (.answered status)).recordings = 1 := rfl

@[simp]
theorem Phase.recordings_bodyDropped : (finished .bodyDropped).recordings = 1 := rfl

@[simp]
theorem Phase.recordings_responding (body : CountingSseBody) :
    (responding body).recordings = 0 := rfl

@[simp]
theorem Phase.recordings_picked (features : RequestFeatures) (body : List UInt8)
    (backend : BackendRef) (fellThrough : Bool) :
    (picked features body backend fellThrough).recordings = 0 := rfl

def Phase.isFinished : Phase → Bool
  | .finished _ => true
  | _ => false

theorem Phase.recordings_eq_zero {phase : Phase} (unfinished : phase.isFinished = false) :
    phase.recordings = 0 := by
  cases phase with
  | finished finish => cases unfinished
  | readingBody | routing _ _ | picked _ _ _ _ | opened _ _ _ | dispatching _ _
  | responding _ => rfl

namespace Handler

def results (handler : Handler) : List Bool :=
  handler.effects.filterMap Effect.result

def isFinished (handler : Handler) : Bool :=
  handler.phase.isFinished

def Cancelled (handler : Handler) : Prop :=
  handler.phase = .finished .cancelled

/-- The execution has recorded as many results as belong to its phase. -/
def Accounted (handler : Handler) : Prop :=
  handler.results.length = handler.phase.recordings

theorem accounted_arrived (parts : RequestParts) (now : Instant) :
    (arrived parts now).Accounted := rfl

theorem accounted_errorResponse {handler : Handler} (unrecorded : handler.results = [])
    (status : StatusCode) : (handler.errorResponse status).Accounted := by
  unfold results at unrecorded
  simp [Accounted, results, errorResponse, unrecorded, Effect.result]

theorem Accounted.results_eq_nil {handler : Handler} (accounted : handler.Accounted)
    (unfinished : handler.isFinished = false) : handler.results = [] := by
  rw [Accounted, Phase.recordings_eq_zero unfinished] at accounted
  exact List.length_eq_zero_iff.mp accounted

/-- An uncancelled execution has recorded one result once it has finished. -/
theorem Accounted.length_results {handler : Handler} (accounted : handler.Accounted)
    (uncancelled : ¬ handler.Cancelled) :
    handler.results.length = if handler.isFinished then 1 else 0 := by
  rw [accounted]
  unfold Cancelled at uncancelled
  unfold isFinished
  cases phase : handler.phase with
  | finished finish =>
      rw [phase] at uncancelled
      cases finish with
      | answered _ | bodyDropped => rfl
      | cancelled => exact absurd rfl uncancelled
  | readingBody | routing _ _ | picked _ _ _ _ | opened _ _ _ | dispatching _ _
  | responding _ => rfl

end Handler

namespace HandlerState

variable [DecayNumber F] {libraries : Libraries} {state after : HandlerState F}
  {event : HandlerEvent F}

theorem not_isFinished_of_steps (stepped : state.Steps libraries event after) :
    state.handler.isFinished = false := by
  cases stepped with
  | bodyRead _ phase _ | pick _ phase _ | openLease phase | rebuild phase
  | dispatched _ phase | cancelDispatch phase | poll _ _ _ phase
  | dropBody phase => rw [Handler.isFinished, phase]; rfl

theorem accounted_step (accounted : state.handler.Accounted)
    (stepped : state.Steps libraries event after) : after.handler.Accounted := by
  have unrecorded : state.handler.results = [] :=
    accounted.results_eq_nil (not_isFinished_of_steps stepped)
  -- a step without effects leads to another phase that has recorded nothing
  have silent (phase : Phase) (none : phase.recordings = 0) :
      Handler.Accounted { state.handler with phase } := by
    unfold Handler.Accounted
    rw [none]
    exact List.length_eq_zero_iff.mpr unrecorded
  have noResults := unrecorded
  unfold Handler.results at noResults
  cases stepped with
  | bodyRead collected phase returned =>
      rcases bodyRead_cases returned with ⟨status, rfl⟩ | ⟨features, body, rfl⟩
      · exact Handler.accounted_errorResponse unrecorded status
      · exact silent _ rfl
  | pick rng phase returned =>
      rcases pick_cases returned with ⟨strategy, -, rfl⟩ |
        ⟨picked, strategy, id, backend, -, -, -, rfl⟩
      · exact Handler.accounted_errorResponse unrecorded 503
      · unfold Handler.Accounted Handler.results
        split <;> simp [noResults, Effect.result]
  | rebuild phase =>
      rename_i features body lease
      rcases state.rebuild_cases libraries features body lease with rebuilt | rebuilt
      · rw [rebuilt]
        exact Handler.accounted_errorResponse unrecorded 502
      · rw [rebuilt]
        exact silent _ rfl
  | dispatched answer phase =>
      rename_i features lease
      rcases state.dispatched_cases features lease answer with
        ⟨key, answered⟩ | ⟨body, -, answered⟩
      · rw [answered]
        apply Handler.accounted_errorResponse
        unfold Handler.results
        simp [noResults, Effect.result]
      · rw [answered]
        exact silent _ rfl
  | openLease phase | cancelDispatch phase => exact silent _ rfl
  | poll now nowS polled phase =>
      rename_i body
      have quiet : ((BodyState.mk body state.heap []).pollFrame libraries.codec now
          polled).1.effects.filterMap Effect.result = [] :=
        BodyState.results_pollFrame polled
      unfold Handler.Accounted Handler.results poll
      simp [noResults, quiet]
  | dropBody phase =>
      rename_i body
      have recordedOnce := (BodyState.mk body state.heap []).recorded_eq
      unfold BodyState.recorded at recordedOnce
      unfold Handler.Accounted Handler.results dropBody
      simp [noResults, recordedOnce]

/-- An execution is cancelled by the drop of its future and by nothing else. -/
theorem cancelled_iff_of_steps (stepped : state.Steps libraries event after) :
    after.handler.Cancelled ↔ event = .cancel := by
  cases stepped with
  | bodyRead collected phase returned =>
      rcases bodyRead_cases returned with ⟨status, rfl⟩ | ⟨features, body, rfl⟩ <;>
        simp [Handler.Cancelled, Handler.errorResponse]
  | pick rng phase returned =>
      rcases pick_cases returned with ⟨strategy, -, rfl⟩ |
        ⟨picked, strategy, id, backend, -, -, -, rfl⟩ <;>
        simp [Handler.Cancelled, Handler.errorResponse]
  | rebuild phase =>
      rename_i features body lease
      rcases state.rebuild_cases libraries features body lease with rebuilt | rebuilt <;>
        simp [rebuilt, Handler.Cancelled, Handler.errorResponse]
  | dispatched answer phase =>
      rename_i features lease
      rcases state.dispatched_cases features lease answer with
        ⟨key, answered⟩ | ⟨body, -, answered⟩ <;>
        simp [answered, Handler.Cancelled, Handler.errorResponse]
  | cancelDispatch phase => simp [Handler.Cancelled, cancelDispatch]
  | openLease phase | poll now nowS polled phase | dropBody phase =>
      simp [Handler.Cancelled, openLease, poll, dropBody]

end HandlerState

/-- The event drops the future of an execution. -/
def RouterEvent.Cancels : RouterEvent F → Prop
  | .advance _ .cancel => True
  | _ => False

namespace RouterRun

/-- The number of results of one kind in `router_requests_total`. -/
def requestsTotal (state : RouterRun F) (ok : Bool) : Nat :=
  (state.handlers.map fun handler => handler.results.count ok).sum

def SomeCancelled (state : RouterRun F) : Prop :=
  ∃ handler ∈ state.handlers, handler.Cancelled

section Runs

variable [DecayNumber F] {libraries : Libraries}

theorem someCancelled_step {state next : RouterRun F} {event : RouterEvent F}
    (stepped : state.step libraries event = some next) :
    next.SomeCancelled ↔ state.SomeCancelled ∨ event.Cancels := by
  rcases step_cases stepped with ⟨parts, now, rfl, rfl⟩ |
    ⟨id, event', advancing, after, rfl, present, advanced, rfl⟩
  · simp [SomeCancelled, RouterEvent.Cancels, or_and_right, exists_or, Handler.Cancelled,
      Handler.arrived]
  · have cancels : RouterEvent.Cancels (.advance id event') ↔ after.handler.Cancelled := by
      rw [HandlerState.cancelled_iff_of_steps advanced]
      cases event' <;> simp [RouterEvent.Cancels]
    rw [cancels]
    obtain ⟨inside, -⟩ := List.getElem?_eq_some_iff.mp present
    constructor
    · rintro ⟨handler, member, cancelled⟩
      rcases List.mem_or_eq_of_mem_set member with earlier | rfl
      · exact .inl ⟨handler, earlier, cancelled⟩
      · exact .inr cancelled
    · rintro (⟨handler, member, cancelled⟩ | cancelled)
      · obtain ⟨position, atPosition⟩ := List.mem_iff_getElem?.mp member
        have different : id ≠ position := by
          rintro rfl
          obtain rfl : advancing = handler := Option.some.inj (present.symm.trans atPosition)
          have unfinished : advancing.isFinished = false :=
            HandlerState.not_isFinished_of_steps advanced
          rw [Handler.isFinished, cancelled] at unfinished
          cases unfinished
        refine ⟨handler, List.mem_iff_getElem?.mpr ⟨position, ?_⟩, cancelled⟩
        rw [getElem?_update_ne different]
        exact atPosition
      · exact ⟨after.handler, List.mem_set inside _, cancelled⟩

theorem someCancelled_run {state last : RouterRun F} {events : List (RouterEvent F)}
    (executed : EventRun.run (step libraries) state events = some last) :
    last.SomeCancelled ↔ state.SomeCancelled ∨ ∃ event ∈ events, event.Cancels := by
  induction events generalizing state with
  | nil =>
      obtain rfl : state = last := by simpa using executed
      simp
  | cons event events ih =>
      obtain ⟨next, stepped, rest⟩ := EventRun.run_cons_eq_some.mp executed
      rw [ih rest, someCancelled_step stepped]
      simp [or_assoc]

theorem accounted_run {heap : Heap} {router : RouterState F} {state : RouterRun F}
    {events : List (RouterEvent F)}
    (executed : EventRun.run (step libraries) (initial heap router) events = some state) :
    ∀ handler ∈ state.handlers, handler.Accounted :=
  forall_handlers_run Handler.accounted_arrived
    (fun _ _ _ => HandlerState.accounted_step) (fun _ member => by cases member) executed

end Runs

theorem requestsTotal_add (state : RouterRun F) :
    state.requestsTotal true + state.requestsTotal false =
      (state.handlers.map fun handler => handler.results.length).sum := by
  unfold requestsTotal
  rw [← List.sum_map_add]
  congr 2
  funext handler
  rw [add_comm]
  exact List.count_false_add_count_true handler.results

/-- While no execution is cancelled, as many results are recorded as executions
have finished. -/
theorem requestsTotal_eq_finished {state : RouterRun F}
    (accounted : ∀ handler ∈ state.handlers, handler.Accounted)
    (uncancelled : ∀ handler ∈ state.handlers, ¬ handler.Cancelled) :
    state.requestsTotal true + state.requestsTotal false =
      state.handlers.countP Handler.isFinished := by
  rw [requestsTotal_add]
  generalize state.handlers = handlers at accounted uncancelled
  induction handlers with
  | nil => rfl
  | cons handler handlers ih =>
      have first := (accounted handler (by simp)).length_results (uncancelled handler (by simp))
      have rest := ih (fun other member => accounted other (by simp [member]))
        (fun other member => uncancelled other (by simp [member]))
      rw [List.map_cons, List.sum_cons, rest, first, List.countP_cons, add_comm]

/-- In every run, each finished request has been recorded exactly once and the
totals add up to the number of finished requests, exactly when no future of the
handler was dropped while it waited for its backend. -/
theorem requests_recorded_once_iff [DecayNumber F] (libraries : Libraries) (heap : Heap)
    (router : RouterState F) (events : List (RouterEvent F)) {state : RouterRun F}
    (executed : EventRun.run (step libraries) (initial heap router) events = some state) :
    ((∀ handler ∈ state.handlers, handler.isFinished = true → handler.results.length = 1) ∧
      state.requestsTotal true + state.requestsTotal false =
        state.handlers.countP Handler.isFinished) ↔
      ∀ event ∈ events, ¬ event.Cancels := by
  have accounted := accounted_run executed
  have cancelled := someCancelled_run executed
  have noneBefore : ¬ (initial heap router).SomeCancelled := by
    rintro ⟨handler, member, -⟩
    cases member
  constructor
  · rintro ⟨once, -⟩ event member cancels
    obtain ⟨handler, handlerMem, handlerCancelled⟩ := cancelled.mpr (.inr ⟨event, member, cancels⟩)
    have recorded := once handler handlerMem (by rw [Handler.isFinished, handlerCancelled]; rfl)
    rw [accounted handler handlerMem, handlerCancelled] at recorded
    cases recorded
  · intro uncancelled
    have noneCancelled : ∀ handler ∈ state.handlers, ¬ handler.Cancelled := by
      intro handler member handlerCancelled
      rcases cancelled.mp ⟨handler, member, handlerCancelled⟩ with before |
        ⟨event, eventMem, cancels⟩
      · exact noneBefore before
      · exact uncancelled event eventMem cancels
    refine ⟨?_, requestsTotal_eq_finished accounted noneCancelled⟩
    intro handler member finished
    have recorded := (accounted handler member).length_results (noneCancelled handler member)
    rwa [if_pos finished] at recorded

/-- Two requests: the first is answered by its backend, while the client of the
second leaves before its body is complete. -/
def answeredRequests : List (RouterEvent ℝ) :=
  chatArrival 0 ++ [.arrive chatParts 0, .advance 0 (.pick .first), .advance 0 .openLease,
    .advance 1 (.bodyRead (.error "connection closed")), .advance 0 .rebuild,
    .advance 0 (.dispatched (.ok 200)), .advance 0 .dropBody]

theorem requests_recorded_once_answered :
    ∃ state, EventRun.run (step chatLibraries)
        (initial singleBackend (chatRouter (.roundRobin 0))) answeredRequests = some state ∧
      state.requestsTotal true + state.requestsTotal false =
        state.handlers.countP Handler.isFinished ∧
      state.handlers.countP Handler.isFinished = 2 := by
  have executed : EventRun.run (step chatLibraries)
      (initial singleBackend (chatRouter (.roundRobin 0))) answeredRequests = some _ :=
    run_chatArrival_append ⟨rfl, rfl⟩ singleBackend [] _
  refine ⟨_, executed, ?_, rfl⟩
  refine ((requests_recorded_once_iff _ _ _ _ executed).mpr ?_).2
  intro event member
  fin_cases member <;> exact not_false

/-- A client that disconnects while the handler waits for its backend leaves no
record. -/
theorem cancelled_request_unrecorded :
    ∃ state handler, EventRun.run (step chatLibraries)
        (initial singleBackend (chatRouter (.roundRobin 0)))
        (chatArrival 0 ++ [.advance 0 (.pick .first), .advance 0 .openLease,
          .advance 0 .rebuild, .advance 0 .cancel]) = some state ∧
      handler ∈ state.handlers ∧ handler.isFinished = true ∧ handler.results = [] ∧
      state.requestsTotal true + state.requestsTotal false ≠
        state.handlers.countP Handler.isFinished := by
  refine ⟨_, { chatRouted with phase := .finished .cancelled },
    run_chatArrival_append ⟨rfl, rfl⟩ singleBackend [] _, List.mem_singleton.mpr rfl, rfl, rfl, ?_⟩
  exact Nat.zero_ne_one

end RouterRun

end KeelRouter
