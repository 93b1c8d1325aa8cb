import KeelRouter.EventRun
import KeelRouter.RequestHandler

/-!
# Runs of the router

Any number of requests are handled at the same time.  An execution of the
handler is addressed by its position among all that have ever arrived, and in
each step of a run one of them advances over the state that they share.
-/

namespace KeelRouter

variable {F : Type}

structure RouterRun (F : Type) where
  heap : Heap
  router : RouterState F
  handlers : List Handler

inductive RouterEvent (F : Type) where
  | arrive (parts : RequestParts) (now : Instant)
  | advance (id : Nat) (event : HandlerEvent F)

namespace RouterRun

def initial (heap : Heap) (router : RouterState F) : RouterRun F where
  heap := heap
  router := router
  handlers := []

def view (state : RouterRun F) (handler : Handler) : HandlerState F where
  heap := state.heap
  router := state.router
  handler := handler

def update (state : RouterRun F) (id : Nat) (next : HandlerState F) : RouterRun F where
  heap := next.heap
  router := next.router
  handlers := state.handlers.set id next.handler

theorem getElem?_update_self {state : RouterRun F} {id : Nat} {handler : Handler}
    (present : state.handlers[id]? = some handler) (after : HandlerState F) :
    (state.update id after).handlers[id]? = some after.handler := by
  obtain ⟨inside, -⟩ := List.getElem?_eq_some_iff.mp present
  simp [update, inside]

theorem getElem?_update_ne {state : RouterRun F} {id position : Nat} (different : id ≠ position)
    (after : HandlerState F) :
    (state.update id after).handlers[position]? = state.handlers[position]? :=
  List.getElem?_set_ne different

def step [DecayNumber F] (libraries : Libraries) (state : RouterRun F) :
    RouterEvent F → Option (RouterRun F)
  | .arrive parts now =>
      some { state with handlers := state.handlers ++ [.arrived parts now] }
  | .advance id event =>
      (state.handlers[id]?).bind fun handler =>
        ((state.view handler).step libraries event).map (state.update id)

theorem step_advance [DecayNumber F] {libraries : Libraries} {state : RouterRun F} {id : Nat}
    {handler : Handler} {event : HandlerEvent F} {after : HandlerState F}
    (present : state.handlers[id]? = some handler)
    (advanced : (state.view handler).step libraries event = some after) :
    state.step libraries (.advance id event) = some (state.update id after) := by
  simp [step, present, advanced]

/-- A step of the execution that arrived last. -/
theorem step_last [DecayNumber F] {libraries : Libraries} {heap : Heap} {router : RouterState F}
    {handlers : List Handler} {handler : Handler} {event : HandlerEvent F}
    {after : HandlerState F}
    (advanced : HandlerState.step libraries ⟨heap, router, handler⟩ event = some after) :
    step libraries ⟨heap, router, handlers ++ [handler]⟩ (.advance handlers.length event) =
      some ⟨after.heap, after.router, handlers ++ [after.handler]⟩ := by
  have present : (handlers ++ [handler])[handlers.length]? = some handler :=
    List.getElem?_concat_length
  have stepped : step libraries ⟨heap, router, handlers ++ [handler]⟩
      (.advance handlers.length event) = some _ :=
    step_advance present advanced
  simpa [update] using stepped

theorem step_pick_of_choice [DecayNumber F] {libraries : Libraries} {state : RouterRun F} {id : Nat}
    {handler : Handler} {features : RequestFeatures} {body : List UInt8}
    {rng : SmallRng} (chosen : BackendId) {backend : BackendRef} {fellThrough : Bool}
    (present : state.handlers[id]? = some handler)
    (phase : handler.phase = .routing features body)
    (stateless : ∀ next, state.router.strategy ≠ .roundRobin next)
    (chose : state.router.strategy.choice state.heap state.router.snapshot features rng =
      some (some chosen, fellThrough))
    (healthy : state.router.snapshot.healthy.isEmpty = false)
    (inRange : state.router.snapshot.backendRef chosen = .ok backend) :
    state.step libraries (.advance id (.pick rng)) =
      some { state with
        handlers := state.handlers.set id { handler with
          phase := .picked features body backend fellThrough
          effects := handler.effects ++
            if fellThrough then [.countSaturatedDispatch] else [] } } :=
  step_advance present (HandlerState.step_pick phase
    (@HandlerState.pick_of_choice _ (state.view handler) stateless _ _ _ _ _ chose healthy inRange
      body))

theorem step_cases [DecayNumber F] {libraries : Libraries} {state next : RouterRun F}
    {event : RouterEvent F} (stepped : state.step libraries event = some next) :
    (∃ parts now, event = .arrive parts now ∧
      next = { state with handlers := state.handlers ++ [.arrived parts now] }) ∨
    (∃ id event' handler after, event = .advance id event' ∧
      state.handlers[id]? = some handler ∧
        (state.view handler).Steps libraries event' after ∧ next = state.update id after) := by
  cases event with
  | arrive parts now => exact .inl ⟨parts, now, rfl, (Option.some.inj stepped).symm⟩
  | advance id event' =>
      obtain ⟨handler, present, advanced⟩ := Option.bind_eq_some_iff.mp stepped
      obtain ⟨after, handlerStepped, rfl⟩ := Option.map_eq_some_iff.mp advanced
      exact .inr ⟨id, event', handler, after, rfl, present,
        HandlerState.steps_of_step handlerStepped, rfl⟩

/-- A property that every arriving execution has and every step of an execution
preserves is one of all executions after a step. -/
theorem forall_handlers_step [DecayNumber F] {libraries : Libraries} {holds : Handler → Prop}
    (arrived : ∀ parts now, holds (.arrived parts now))
    (preserved : ∀ (state after : HandlerState F) event, holds state.handler →
      state.Steps libraries event after → holds after.handler)
    {state next : RouterRun F} {event : RouterEvent F}
    (all : ∀ handler ∈ state.handlers, holds handler)
    (stepped : state.step libraries event = some next) :
    ∀ handler ∈ next.handlers, holds handler := by
  intro handler member
  rcases step_cases stepped with ⟨parts, now, -, rfl⟩ |
    ⟨id, event', advancing, after, -, present, advanced, rfl⟩
  · rcases List.mem_append.mp member with earlier | new
    · exact all handler earlier
    · rw [List.mem_singleton.mp new]
      exact arrived parts now
  · rcases List.mem_or_eq_of_mem_set member with earlier | rfl
    · exact all handler earlier
    · exact preserved _ after event' (all advancing (List.mem_of_getElem? present)) advanced

theorem forall_handlers_run [DecayNumber F] {libraries : Libraries} {holds : Handler → Prop}
    (arrived : ∀ parts now, holds (.arrived parts now))
    (preserved : ∀ (state after : HandlerState F) event, holds state.handler →
      state.Steps libraries event after → holds after.handler)
    {state last : RouterRun F} {events : List (RouterEvent F)}
    (all : ∀ handler ∈ state.handlers, holds handler)
    (executed : EventRun.run (step libraries) state events = some last) :
    ∀ handler ∈ last.handlers, holds handler :=
  EventRun.run_preserves (fun _ _ _ => forall_handlers_step arrived preserved) all executed

/-! ## A streaming chat request -/

def chatLibraries : Libraries where
  codec := .single (chatBytes "\x7b\x7d") (chatValue (.object []))
    (chatBytes "\x7b\"include_usage\":true\x7d")
  http := .accepting

def chatParts : RequestParts := ⟨"POST", some "/v1/chat/completions", []⟩

def chatFeatures : RequestFeatures := ⟨"m", 1, true, 128, none, none, true, 0⟩

def chatRewritten : List UInt8 := chatBytes "\x7b\"include_usage\":true\x7d"

def chatRouted : Handler where
  parts := chatParts
  now := 0
  phase := .routing chatFeatures chatRewritten
  effects := []

/-- The chat request, with the given estimate for its output. -/
def chatRoutedWith (expectedOutputTokens : UInt32) : Handler :=
  { chatRouted with phase := .routing { chatFeatures with expectedOutputTokens } chatRewritten }

noncomputable def chatRouter (strategy : RoutingStrategy) : RouterState ℝ where
  snapshot := ⟨0, [0], [⟨0⟩], []⟩
  strategy := strategy
  kvModel := .promptOnly
  routeHists := .new 300
  tokenCounter := ⟨.whitespace, 4⟩

def chatArrival (id : Nat) : List (RouterEvent F) :=
  [.arrive chatParts 0, .advance id (.bodyRead (.ok (chatBytes "\x7b\x7d")))]

/-- The router reads chat requests with the settings above. -/
def ReadsChat (router : RouterState ℝ) : Prop :=
  router.routeHists = .new 300 ∧ router.tokenCounter = ⟨.whitespace, 4⟩

theorem bodyRead_chat_estimate [DecayNumber F] (heap : Heap) {router : RouterState F}
    (counter : router.tokenCounter = ⟨.whitespace, 4⟩) :
    HandlerState.bodyRead chatLibraries ⟨heap, router, .arrived chatParts 0⟩
        (.ok (chatBytes "\x7b\x7d")) =
      .ok ⟨heap, router, chatRoutedWith (router.routeHists.estimate (routeKey "m" 1) none)⟩ := by
  have built : buildFeatures chatLibraries.codec (chatBytes "\x7b\x7d") 0
      router.routeHists router.tokenCounter = .ok { chatFeatures with
        expectedOutputTokens := router.routeHists.estimate (routeKey "m" 1) none } := by
    rw [counter]
    unfold buildFeatures chatLibraries
    rw [SerdeJson.Codec.fromSlice_single]
    exact featuresOf_chatValue _ _
  have rewritten : ensureUsageRequested chatLibraries.codec (chatBytes "\x7b\x7d") true =
      .ok chatRewritten := by
    unfold ensureUsageRequested chatLibraries
    rw [SerdeJson.Codec.fromSlice_single]
    rfl
  unfold HandlerState.bodyRead
  simp only [readBody, Except.mapError, Handler.arrived, built]
  rw [show chatFeatures.streaming = true from rfl, rewritten]
  rfl

variable {router : RouterState ℝ} (readsChat : ReadsChat router) (heap : Heap)
  (handlers : List Handler)
include readsChat

theorem bodyRead_chat :
    HandlerState.bodyRead chatLibraries ⟨heap, router, .arrived chatParts 0⟩
        (.ok (chatBytes "\x7b\x7d")) =
      .ok ⟨heap, router, chatRouted⟩ := by
  rw [bodyRead_chat_estimate heap readsChat.2, readsChat.1]
  rfl

theorem step_bodyRead_chat :
    step chatLibraries ⟨heap, router, handlers ++ [.arrived chatParts 0]⟩
        (.advance handlers.length (.bodyRead (.ok (chatBytes "\x7b\x7d")))) =
      some ⟨heap, router, handlers ++ [chatRouted]⟩ := by
  have advanced : HandlerState.step chatLibraries ⟨heap, router, .arrived chatParts 0⟩
      (.bodyRead (.ok (chatBytes "\x7b\x7d"))) = some ⟨heap, router, chatRouted⟩ :=
    Outcome.toOption_eq_some.mpr (bodyRead_chat readsChat heap)
  exact step_last advanced

theorem run_chatArrival :
    EventRun.run (step chatLibraries) ⟨heap, router, handlers⟩ (chatArrival handlers.length) =
      some ⟨heap, router, handlers ++ [chatRouted]⟩ :=
  EventRun.run_cons_eq_some.mpr ⟨_, rfl, EventRun.run_cons_eq_some.mpr
    ⟨_, step_bodyRead_chat readsChat heap handlers, rfl⟩⟩

/-- A run goes on behind a chat request that arrives and is read. -/
theorem run_chatArrival_append (events : List (RouterEvent ℝ)) :
    EventRun.run (step chatLibraries) ⟨heap, router, handlers⟩
        (chatArrival handlers.length ++ events) =
      EventRun.run (step chatLibraries) ⟨heap, router, handlers ++ [chatRouted]⟩ events :=
  EventRun.run_append_of_run (run_chatArrival readsChat heap handlers) events

end RouterRun

end KeelRouter
