import KeelRouter.SystemSafety
import KeelRouter.UsageInjection

/-!
# From a client to a backend

An execution reads the bytes of its client and sends at most one request, which
is made from them.  It is sent to the backend that the lease of the execution is
charged on, for the prompt that was counted in the same bytes.  A request that the
router refuses is never sent.
-/

namespace KeelRouter

open SerdeJson (Codec Members Value)

variable {F : Type}

/-! ## What is sent -/

/-- A request that is handed to the client of a backend. -/
structure Sent where
  backend : BackendRef
  request : UpstreamRequest
deriving DecidableEq

/-- What an execution has read from its client, and what it has sent. -/
structure Trail where
  received : Option (List UInt8)
  sent : List Sent
deriving DecidableEq

def Trail.empty : Trail where
  received := none
  sent := []

namespace HandlerState

/-- The bytes that a step reads. -/
def receives : HandlerEvent F → Option (List UInt8)
  | .bodyRead (.ok bytes) => some bytes
  | _ => none

/-- The request that a step sends. -/
def sends (libraries : Libraries) (state : HandlerState F) (event : HandlerEvent F) :
    Option Sent :=
  match state.handler.phase, event with
  | .opened _ body lease, .rebuild =>
      (rebuildRequest libraries.http state.handler.parts body
        (state.heap lease.backend).uri).toOption.map fun request => ⟨lease.backend, request⟩
  | _, _ => none

end HandlerState

/-- The trail after a step of its execution. -/
def Trail.after (libraries : Libraries) (state : HandlerState F) (event : HandlerEvent F)
    (trail : Trail) : Trail where
  received := (HandlerState.receives event).or trail.received
  sent := trail.sent ++ (state.sends libraries event).toList

/-! ## What it is made from -/

/-- The body is the one of the client, or the client has asked for a stream and the
body is the client's object with usage requested. -/
def ConveysBody (codec : Codec) (bytes body : List UInt8) : Prop :=
  body = bytes ∨ ∃ obj rebuilt : Members, codec.fromSlice bytes = .ok (.object obj) ∧
    obj.get "stream" = some (.bool true) ∧ RequestsUsage obj rebuilt ∧
      codec.toVec (.object rebuilt) = .ok body

/-- A body whose options are silent is printed anew, unless the printer fails. -/
theorem ensureUsageRequested_silent {codec : Codec} {bytes : List UInt8} {obj rebuilt : Members}
    (parsed : codec.fromSlice bytes = .ok (.object obj)) (silent : SilentOnUsage obj)
    (requested : requestUsage obj = .ok rebuilt) :
    ensureUsageRequested codec bytes true =
      .ok ((codec.toVec (.object rebuilt)).toOption.getD bytes) := by
  cases printed : codec.toVec (.object rebuilt) with
  | ok out => exact ensureUsageRequested_rewritten parsed silent requested printed
  | error reason =>
      have notDecided : ¬ (((obj.get "stream_options").bind Value.asObject).any
          fun options => options.containsKey "include_usage") = true := by
        rw [alreadyDecided_iff]
        rintro ⟨options, choice, present, chosen⟩
        exact not_chosen_of_silent silent present chosen
      unfold ensureUsageRequested
      simp only [parsed, Bool.not_true, Bool.false_eq_true, if_false, Value.asObject]
      rw [if_neg notDecided, requested]
      simp [bind, Except.bind, printed, pure, Except.pure, Except.toOption]

theorem conveysBody_of_ensureUsageRequested {codec : Codec} {bytes body : List UInt8} {v : Value}
    (parsed : codec.fromSlice bytes = .ok v)
    (ensured : ensureUsageRequested codec bytes (((v.get "stream").bind Value.asBool).getD false) =
      .ok body) : ConveysBody codec bytes body := by
  cases streaming : ((v.get "stream").bind Value.asBool).getD false with
  | false =>
      rw [streaming] at ensured
      exact .inl (Except.ok.inj ensured).symm
  | true =>
      rw [streaming] at ensured
      have streams : v.get "stream" = some (.bool true) := by
        cases present : v.get "stream" with
        | none => simp [present] at streaming
        | some value => cases value <;> simp_all [Value.asBool]
      obtain ⟨obj, rfl⟩ := Value.exists_object_of_get streams
      have usable := (ensureUsageRequested_object parsed).mp ⟨body, ensured⟩
      by_cases silent : SilentOnUsage obj
      · obtain ⟨rebuilt, requested, requestsUsage⟩ := exists_requestUsage silent
        rw [ensureUsageRequested_silent parsed silent requested] at ensured
        obtain rfl := Except.ok.inj ensured
        cases printed : codec.toVec (.object rebuilt) with
        | error reason => exact .inl rfl
        | ok out => exact .inr ⟨obj, rebuilt, parsed, streams, requestsUsage, printed⟩
      · have unchanged : ensureUsageRequested codec bytes true = .ok bytes := by
          apply ensureUsageRequested_unchanged
          · intro other otherParsed
            rw [parsed] at otherParsed
            obtain rfl := Except.ok.inj otherParsed
            exact usable
          · rintro ⟨-, other, otherParsed, otherSilent⟩
            rw [parsed] at otherParsed
            obtain rfl := Value.object.inj (Except.ok.inj otherParsed)
            exact silent otherSilent
        rw [unchanged] at ensured
        exact .inl (Except.ok.inj ensured).symm

theorem streaming_of_buildFeatures [DecayNumber F] {codec : Codec} {bytes : List UInt8}
    {now : Instant} {hists : RouteHistograms F} {counter : TokenCounter}
    {features : RequestFeatures} {v : Value} (parsed : codec.fromSlice bytes = .ok v)
    (built : buildFeatures codec bytes now hists counter = .ok features) :
    features.streaming = ((v.get "stream").bind Value.asBool).getD false := by
  unfold buildFeatures at built
  rw [parsed] at built
  dsimp only at built
  unfold featuresOf at built
  split at built
  · cases built
  · dsimp only at built
    split at built
    · cases built
    · obtain rfl := Except.ok.inj built
      rfl

/-! ## One execution -/

section Executions

variable (libraries : Libraries) (counter : TokenCounter) (uri : BackendRef → String)

/-- The tokens are those of the prompt in the bytes. -/
def CountsPrompt (bytes : List UInt8) (tokens : UInt32) : Prop :=
  ∃ v, libraries.codec.fromSlice bytes = .ok v ∧ tokens = countPromptTokens v counter

/-- The request is made from the bytes of the client for the backend it is sent to. -/
def Delivers (parts : RequestParts) (bytes : List UInt8) (sent : Sent) : Prop :=
  ∃ body, ConveysBody libraries.codec bytes body ∧
    BuiltFrom libraries.http parts (uri sent.backend) body sent.request

/-- How the trail of an execution goes with its phase. -/
inductive Follows (parts : RequestParts) : Phase → Trail → Prop where
  | readingBody : Follows parts .readingBody .empty
  | routing {features : RequestFeatures} {body bytes : List UInt8}
      (counts : CountsPrompt libraries counter bytes features.promptTokens)
      (conveys : ConveysBody libraries.codec bytes body) :
      Follows parts (.routing features body) ⟨some bytes, []⟩
  | picked {features : RequestFeatures} {body bytes : List UInt8} {backend : BackendRef}
      {fellThrough : Bool} (counts : CountsPrompt libraries counter bytes features.promptTokens)
      (conveys : ConveysBody libraries.codec bytes body) :
      Follows parts (.picked features body backend fellThrough) ⟨some bytes, []⟩
  | opened {features : RequestFeatures} {body bytes : List UInt8} {lease : CostLease}
      (counts : CountsPrompt libraries counter bytes lease.promptTokens)
      (conveys : ConveysBody libraries.codec bytes body) :
      Follows parts (.opened features body lease) ⟨some bytes, []⟩
  | dispatching {features : RequestFeatures} {bytes : List UInt8} {lease : CostLease}
      {request : UpstreamRequest} (counts : CountsPrompt libraries counter bytes lease.promptTokens)
      (delivers : Delivers libraries uri parts bytes ⟨lease.backend, request⟩) :
      Follows parts (.dispatching features lease) ⟨some bytes, [⟨lease.backend, request⟩]⟩
  | responding {bytes : List UInt8} {body : CountingSseBody} {request : UpstreamRequest}
      (counts : CountsPrompt libraries counter bytes body.lease.promptTokens)
      (delivers : Delivers libraries uri parts bytes ⟨body.lease.backend, request⟩) :
      Follows parts (.responding body) ⟨some bytes, [⟨body.lease.backend, request⟩]⟩
  | unsent {finish : Finish} (received : Option (List UInt8)) (early : finish ≠ .bodyDropped) :
      Follows parts (.finished finish) ⟨received, []⟩
  | sent {finish : Finish} {bytes : List UInt8} {sent : Sent}
      (late : finish = .answered 502 ∨ finish = .bodyDropped ∨ finish = .cancelled)
      (delivers : Delivers libraries uri parts bytes sent) :
      Follows parts (.finished finish) ⟨some bytes, [sent]⟩

end Executions

theorem observeToken_stays (held : CostLease × Heap) :
    (observeToken held).1.backend = held.1.backend ∧
      (observeToken held).1.promptTokens = held.1.promptTokens := by
  unfold observeToken
  by_cases exceeds : held.1.oHat < held.1.tokensSeen + 1
  · rw [held.1.observeTokens_of_lt 1 held.2 exceeds]
    exact ⟨rfl, rfl⟩
  · rw [held.1.observeTokens_of_not_lt 1 held.2 exceeds]
    exact ⟨rfl, rfl⟩

theorem observeToken_iterate_stays (held : CostLease × Heap) (count : Nat) :
    (observeToken^[count] held).1.backend = held.1.backend ∧
      (observeToken^[count] held).1.promptTokens = held.1.promptTokens := by
  induction count generalizing held with
  | zero => exact ⟨rfl, rfl⟩
  | succ count ih =>
      rw [Function.iterate_succ_apply]
      have first := observeToken_stays held
      have later := ih (observeToken held)
      exact ⟨later.1.trans first.1, later.2.trans first.2⟩

namespace HandlerState

variable [DecayNumber F] {libraries : Libraries} {state after : HandlerState F}
  {event : HandlerEvent F} {uri : BackendRef → String} {trail : Trail}

/-- The client's request and the counter of tokens stay. -/
theorem parts_of_steps (stepped : state.Steps libraries event after) :
    after.handler.parts = state.handler.parts ∧
      after.router.tokenCounter = state.router.tokenCounter := by
  cases stepped with
  | bodyRead collected phase returned =>
      rcases bodyRead_cases returned with ⟨status, rfl⟩ | ⟨features, body, rfl⟩ <;>
        exact ⟨rfl, rfl⟩
  | pick rng phase returned =>
      rcases pick_cases returned with ⟨strategy, -, rfl⟩ |
        ⟨picked, strategy, id, backend, -, -, -, rfl⟩ <;> exact ⟨rfl, rfl⟩
  | rebuild phase =>
      rename_i features body lease
      rcases rebuild_cases libraries features body lease with refused | sent
      · rw [refused]
        exact ⟨rfl, rfl⟩
      · rw [sent]
        exact ⟨rfl, rfl⟩
  | dispatched answer phase =>
      rename_i features lease
      rcases dispatched_cases features lease answer with ⟨key, refused⟩ | ⟨body, -, relayed⟩
      · rw [refused]
        exact ⟨rfl, rfl⟩
      · rw [relayed]
        exact ⟨rfl, rfl⟩
  | openLease | cancelDispatch | poll | dropBody => exact ⟨rfl, rfl⟩

omit [DecayNumber F] in
/-- Only the rebuilding of a request sends one. -/
theorem sends_of_ne_rebuild (other : event ≠ .rebuild) : state.sends libraries event = none := by
  unfold sends
  split
  · exact absurd rfl other
  · rfl

omit [DecayNumber F] in
theorem trail_after_of_silent (silent : receives event = none) (other : event ≠ .rebuild) :
    trail.after libraries state event = trail := by
  unfold Trail.after
  rw [silent, sends_of_ne_rebuild other]
  simp

theorem follows_bodyRead {collected : Except String (List UInt8)}
    (returned : state.bodyRead libraries collected = .ok after) :
    Follows libraries state.router.tokenCounter uri state.handler.parts after.handler.phase
      (Trail.empty.after libraries state (.bodyRead collected)) := by
  have trail : Trail.empty.after libraries state (.bodyRead collected) =
      ⟨receives (F := F) (.bodyRead collected), []⟩ := by
    have quiet : state.sends libraries (.bodyRead collected) = none := sends_of_ne_rebuild nofun
    unfold Trail.after
    rw [quiet]
    simp [Trail.empty]
  rw [trail]
  rcases bodyRead_cases returned with ⟨status, rfl⟩ | ⟨features, body, rfl⟩
  · exact .unsent _ nofun
  · obtain ⟨bytes, rfl, built, ensured⟩ := bodyRead_routing returned rfl
    cases parsed : libraries.codec.fromSlice bytes with
    | error reason =>
        rw [buildFeatures, parsed] at built
        cases built
    | ok v =>
        rw [streaming_of_buildFeatures parsed built] at ensured
        exact .routing ⟨v, parsed, (buildFeatures_eq_ok parsed built).2.1⟩
          (conveysBody_of_ensureUsageRequested parsed ensured)

omit [DecayNumber F] in
theorem phase_rebuild (features : RequestFeatures) (body : List UInt8) (lease : CostLease) :
    (state.rebuild libraries features body lease).handler.phase =
      match rebuildRequest libraries.http state.handler.parts body
        (state.heap lease.backend).uri with
      | .error _ => .finished (.answered 502)
      | .ok _ => .dispatching features lease := by
  unfold rebuild
  cases rebuildRequest libraries.http state.handler.parts body (state.heap lease.backend).uri <;>
    rfl

theorem follows_step (stepped : state.Steps libraries event after)
    (base : ∀ ref, (state.heap ref).uri = uri ref)
    (follows : Follows libraries state.router.tokenCounter uri state.handler.parts
      state.handler.phase trail) :
    Follows libraries state.router.tokenCounter uri state.handler.parts after.handler.phase
      (trail.after libraries state event) := by
  cases stepped with
  | bodyRead collected phase returned =>
      rw [phase] at follows
      cases follows
      exact follows_bodyRead returned
  | pick rng phase returned =>
      rw [phase] at follows
      have kept : trail.after libraries state (.pick rng) = trail := trail_after_of_silent rfl nofun
      rw [kept]
      rcases pick_cases returned with ⟨strategy, -, rfl⟩ |
        ⟨picked, strategy, id, backend, -, -, -, rfl⟩
      · cases follows
        exact .unsent _ nofun
      · cases follows with
        | routing counts conveys => exact .picked counts conveys
  | openLease phase =>
      rw [phase] at follows
      have kept : trail.after libraries state .openLease = trail := trail_after_of_silent rfl nofun
      rw [kept]
      cases follows with
      | picked counts conveys => exact .opened counts conveys
  | rebuild phase =>
      rename_i features body lease
      rw [phase] at follows
      cases follows with
      | opened counts conveys =>
          rename_i bytes
          have sent : state.sends libraries .rebuild =
              (rebuildRequest libraries.http state.handler.parts body
                (state.heap lease.backend).uri).toOption.map fun request =>
                  ⟨lease.backend, request⟩ := by
            unfold sends
            rw [phase]
          rw [phase_rebuild, Trail.after, sent]
          cases rebuilt : rebuildRequest libraries.http state.handler.parts body
              (state.heap lease.backend).uri with
          | error reason =>
              have early : Finish.answered 502 ≠ .bodyDropped := nofun
              exact .unsent (some bytes) early
          | ok request =>
              have built := rebuildRequest_eq_ok rebuilt
              rw [base] at built
              exact .dispatching counts ⟨body, conveys, built⟩
  | dispatched answer phase =>
      rename_i features lease
      rw [phase] at follows
      have kept : trail.after libraries state (.dispatched answer) = trail :=
        trail_after_of_silent rfl nofun
      rw [kept]
      cases follows with
      | dispatching counts delivers =>
          rcases dispatched_cases features lease answer with ⟨key, refused⟩ | ⟨body, own, relayed⟩
          · rw [refused]
            exact .sent (.inl rfl) delivers
          · rw [relayed]
            subst own
            exact .responding counts delivers
  | cancelDispatch phase =>
      rw [phase] at follows
      have kept : trail.after libraries state .cancel = trail := trail_after_of_silent rfl nofun
      rw [kept]
      cases follows with
      | dispatching counts delivers => exact .sent (.inr (.inr rfl)) delivers
  | poll now nowS polled phase =>
      rename_i body
      rw [phase] at follows
      have kept : trail.after libraries state (.poll now nowS polled) = trail :=
        trail_after_of_silent rfl nofun
      rw [kept]
      obtain ⟨count, held⟩ :=
        BodyState.held_pollFrame libraries.codec now ⟨body, state.heap, []⟩ polled
      have stays := observeToken_iterate_stays (BodyState.held ⟨body, state.heap, []⟩) count
      rw [← held] at stays
      obtain ⟨backend, promptTokens⟩ := stays
      let polledBody := (BodyState.pollFrame libraries.codec now ⟨body, state.heap, []⟩ polled).1.body
      change polledBody.lease.backend = body.lease.backend at backend
      change polledBody.lease.promptTokens = body.lease.promptTokens at promptTokens
      change Follows _ _ _ _ (.responding polledBody) trail
      cases follows with
      | responding counts delivers =>
          rw [← promptTokens] at counts
          rw [← backend] at delivers ⊢
          exact .responding counts delivers
  | dropBody phase =>
      rw [phase] at follows
      have kept : trail.after libraries state .dropBody = trail := trail_after_of_silent rfl nofun
      rw [kept]
      cases follows with
      | responding counts delivers => exact .sent (.inr (.inl rfl)) delivers

end HandlerState

/-! ## Runs -/

/-- The system with the trails of its executions. -/
structure TrailedRun (F : Type) where
  system : SystemRun F
  trails : Nat → Trail

namespace TrailedRun

def initial (heap : Heap) (router : RouterState F) : TrailedRun F where
  system := .initial heap router
  trails _ := .empty

/-- The trails after a step of the system. -/
def trailsAfter (libraries : Libraries) (state : TrailedRun F) : SystemEvent F → Nat → Trail
  | .router (.advance id event) =>
      match state.system.run.handlers[id]? with
      | some handler =>
          Function.update state.trails id
            ((state.trails id).after libraries (state.system.run.view handler) event)
      | none => state.trails
  | _ => state.trails

variable [DecayNumber F]

def step (maxSignalAge : Instant) (libraries : Libraries) (state : TrailedRun F)
    (event : SystemEvent F) : Option (TrailedRun F) :=
  (state.system.step maxSignalAge libraries event).map fun system =>
    { system, trails := state.trailsAfter libraries event }

/-- Every execution's trail goes with its phase. -/
structure Trailed (libraries : Libraries) (counter : TokenCounter) (uri : BackendRef → String)
    (state : TrailedRun F) : Prop where
  counts : state.system.run.router.tokenCounter = counter
  base : ∀ ref, (state.system.run.heap ref).uri = uri ref
  follows : ∀ id handler, state.system.run.handlers[id]? = some handler →
    Follows libraries counter uri handler.parts handler.phase (state.trails id)
  future : ∀ id, state.system.run.handlers.length ≤ id → state.trails id = .empty

variable {maxSignalAge : Instant} {libraries : Libraries} {counter : TokenCounter}
  {uri : BackendRef → String} {state next : TrailedRun F} {event : SystemEvent F}

omit [DecayNumber F] in
theorem trailed_maintained (trailed : state.Trailed libraries counter uri) {system : SystemRun F}
    (kept : state.system.run.Maintained system.run) :
    Trailed libraries counter uri ⟨system, state.trails⟩ where
  counts := by
    have router : system.run.router = _ := kept.router
    change system.run.router.tokenCounter = counter
    rw [router]
    exact trailed.counts
  base ref := by
    have same : (system.run.heap ref).uri = (state.system.run.heap ref).uri :=
      (congrArg Backend.uri (kept.fixed ref) :)
    exact same.trans (trailed.base ref)
  follows id handler present := by
    have handlers : system.run.handlers = state.system.run.handlers := kept.handlers
    change system.run.handlers[id]? = some handler at present
    rw [handlers] at present
    exact trailed.follows id handler present
  future id later := by
    have handlers : system.run.handlers = state.system.run.handlers := kept.handlers
    change system.run.handlers.length ≤ id at later
    rw [handlers] at later
    exact trailed.future id later

omit [DecayNumber F] in
theorem trailed_arrive (trailed : state.Trailed libraries counter uri) (parts : RequestParts)
    (now : Instant) {system : SystemRun F}
    (arrived : system.run = { state.system.run with
      handlers := state.system.run.handlers ++ [.arrived parts now] }) :
    Trailed libraries counter uri ⟨system, state.trails⟩ := by
  have handlers : system.run.handlers = state.system.run.handlers ++ [.arrived parts now] :=
    congrArg RouterRun.handlers arrived
  refine ⟨?_, ?_, ?_, ?_⟩
  · change system.run.router.tokenCounter = counter
    rw [arrived]
    exact trailed.counts
  · change ∀ ref, (system.run.heap ref).uri = uri ref
    rw [arrived]
    exact trailed.base
  · intro id handler present
    change system.run.handlers[id]? = some handler at present
    rw [handlers] at present
    rcases Nat.lt_or_ge id state.system.run.handlers.length with earlier | last
    · rw [List.getElem?_append_left earlier] at present
      exact trailed.follows id handler present
    · have fresh := trailed.future id last
      rw [List.getElem?_append_right last] at present
      obtain rfl := List.mem_singleton.mp (List.mem_of_getElem? present)
      change Follows _ _ _ _ _ (state.trails id)
      rw [fresh]
      exact .readingBody
  · intro id later
    change system.run.handlers.length ≤ id at later
    rw [handlers, List.length_append, List.length_singleton] at later
    exact trailed.future id (by omega)

theorem trailed_advance (trailed : state.Trailed libraries counter uri) {id : Nat}
    {handler : Handler} (present : state.system.run.handlers[id]? = some handler)
    {event : HandlerEvent F} {after : HandlerState F}
    (handled : (state.system.run.view handler).Steps libraries event after) {system : SystemRun F}
    (updated : system.run = state.system.run.update id after) :
    Trailed libraries counter uri ⟨system, Function.update state.trails id
      ((state.trails id).after libraries (state.system.run.view handler) event)⟩ := by
  obtain ⟨parts, sameCounter⟩ := HandlerState.parts_of_steps handled
  have handlers : system.run.handlers = state.system.run.handlers.set id after.handler :=
    congrArg RouterRun.handlers updated
  refine ⟨?_, ?_, ?_, ?_⟩
  · change system.run.router.tokenCounter = counter
    rw [updated]
    exact sameCounter.trans trailed.counts
  · intro ref
    have same : (after.heap ref).SameButLive (state.system.run.heap ref) :=
      HandlerState.sameButLive_of_steps handled ref
    change (system.run.heap ref).uri = uri ref
    rw [updated]
    exact (congrArg Backend.uri same :).trans (trailed.base ref)
  · intro other otherHandler otherPresent
    change system.run.handlers[other]? = some otherHandler at otherPresent
    change Follows _ _ _ _ _ (Function.update state.trails id _ other)
    rw [handlers] at otherPresent
    by_cases same : other = id
    · subst same
      obtain ⟨inside, -⟩ := List.getElem?_eq_some_iff.mp present
      rw [List.getElem?_set_self inside] at otherPresent
      obtain rfl := Option.some.inj otherPresent
      have follows := trailed.follows other handler present
      rw [← trailed.counts] at follows
      rw [Function.update_self, parts, ← trailed.counts]
      exact HandlerState.follows_step handled trailed.base follows
    · rw [List.getElem?_set_ne (Ne.symm same)] at otherPresent
      rw [Function.update_of_ne same]
      exact trailed.follows other otherHandler otherPresent
  · intro other later
    change system.run.handlers.length ≤ other at later
    change Function.update state.trails id _ other = .empty
    rw [handlers, List.length_set] at later
    obtain ⟨inside, -⟩ := List.getElem?_eq_some_iff.mp present
    rw [Function.update_of_ne (by omega)]
    exact trailed.future other later

theorem trailed_step (trailed : state.Trailed libraries counter uri)
    (stepped : state.step maxSignalAge libraries event = some next) :
    next.Trailed libraries counter uri := by
  obtain ⟨system, advanced, rfl⟩ := Option.map_eq_some_iff.mp stepped
  cases event with
  | router event =>
      obtain ⟨run, routed, rfl⟩ := Option.map_eq_some_iff.mp advanced
      rcases RouterRun.step_cases routed with ⟨parts, now, rfl, arrived⟩ |
        ⟨id, event', handler, after, rfl, present, handled, updated⟩
      · exact trailed_arrive trailed parts now arrived
      · have trails : state.trailsAfter libraries (.router (.advance id event')) =
            Function.update state.trails id
              ((state.trails id).after libraries (state.system.run.view handler) event') := by
          simp only [trailsAfter, present]
        rw [trails]
        exact trailed_advance trailed present handled updated
  | recordFailure | recordSuccess | nextSnapshot | scrape =>
      rcases SystemRun.step_cases advanced with ⟨routerEvent, router, -⟩ | kept
      · cases router
      · exact trailed_maintained trailed kept

end TrailedRun

/-! ## What holds of every execution -/

/-- What an execution has sent, next to its lease and its answer. -/
structure ForwardsFaithfully (libraries : Libraries) (counter : TokenCounter)
    (uri : BackendRef → String) (handler : Handler) (trail : Trail) : Prop where
  once : trail.sent.length ≤ 1
  delivered : ∀ sent ∈ trail.sent, ∃ bytes, trail.received = some bytes ∧
    Delivers libraries uri handler.parts bytes sent
  charged : ∀ lease, handler.lease = some lease →
    (∃ bytes, trail.received = some bytes ∧
      CountsPrompt libraries counter bytes lease.promptTokens) ∧
    ∀ sent ∈ trail.sent, sent.backend = lease.backend
  relayed : (∃ body, handler.phase = .responding body) ∨ handler.phase = .finished .bodyDropped →
    trail.sent.length = 1
  refused : ∀ status, handler.phase = .finished (.answered status) → status ≠ 502 →
    trail.sent = []

theorem Follows.faithful {libraries : Libraries} {counter : TokenCounter}
    {uri : BackendRef → String} {handler : Handler} {trail : Trail}
    (follows : Follows libraries counter uri handler.parts handler.phase trail) :
    ForwardsFaithfully libraries counter uri handler trail := by
  obtain ⟨parts, now, phase, effects⟩ := handler
  dsimp only at follows
  cases follows with
  | readingBody | routing | picked =>
      exact ⟨Nat.zero_le 1, nofun, nofun, by simp, fun _ _ _ => rfl⟩
  | opened counts conveys =>
      refine ⟨Nat.zero_le 1, nofun, ?_, by simp, fun _ _ _ => rfl⟩
      rintro lease ⟨⟩
      exact ⟨⟨_, rfl, counts⟩, nofun⟩
  | dispatching counts delivers =>
      refine ⟨le_rfl, ?_, ?_, by simp, nofun⟩
      · intro sent listed
        obtain rfl := List.mem_singleton.mp listed
        exact ⟨_, rfl, delivers⟩
      · rintro lease ⟨⟩
        refine ⟨⟨_, rfl, counts⟩, fun sent listed => ?_⟩
        rw [List.mem_singleton.mp listed]
  | responding counts delivers =>
      refine ⟨le_rfl, ?_, ?_, fun _ => rfl, nofun⟩
      · intro sent listed
        obtain rfl := List.mem_singleton.mp listed
        exact ⟨_, rfl, delivers⟩
      · rintro lease ⟨⟩
        refine ⟨⟨_, rfl, counts⟩, fun sent listed => ?_⟩
        rw [List.mem_singleton.mp listed]
  | unsent received early => exact ⟨Nat.zero_le 1, nofun, nofun, by simp [early], fun _ _ _ => rfl⟩
  | sent late delivers =>
      refine ⟨le_rfl, ?_, nofun, fun _ => rfl, ?_⟩
      · intro sent listed
        obtain rfl := List.mem_singleton.mp listed
        exact ⟨_, rfl, delivers⟩
      · rintro status ⟨⟩ apart
        rcases late with same | dropped | cancelled
        · exact absurd (Finish.answered.inj same) apart
        · cases dropped
        · cases cancelled

namespace TrailedRun

variable [DecayNumber F] (maxSignalAge : Instant) (libraries : Libraries)

/-- In every run of the system, each execution sends at most one request, made from
the bytes of its client for the backend that its lease is on, which is charged for
the prompt in the same bytes; a refused request is not sent. -/
theorem requests_are_forwarded_faithfully {heap : Heap} {router : RouterState F}
    {events : List (SystemEvent F)} {state : TrailedRun F}
    (executed : EventRun.run (step maxSignalAge libraries) (initial heap router) events =
      some state) :
    ∀ id handler, state.system.run.handlers[id]? = some handler →
      ForwardsFaithfully libraries router.tokenCounter (fun ref => (heap ref).uri) handler
        (state.trails id) := by
  have started : (initial heap router).Trailed libraries router.tokenCounter
      fun ref => (heap ref).uri := by
    refine ⟨rfl, fun _ => rfl, ?_, fun _ _ => rfl⟩
    intro id handler present
    simp [initial, SystemRun.initial, RouterRun.initial] at present
  have trailed := EventRun.run_preserves (fun _ _ _ => trailed_step) started executed
  exact fun id handler present => (trailed.follows id handler present).faithful

theorem step_routed {state : TrailedRun F} {event : RouterEvent F}
    {run : RouterRun F} (stepped : state.system.run.step libraries event = some run) :
    state.step maxSignalAge libraries (.router event) =
      some {
        system := { state.system with
          run
          decisions := (state.system.run.decision event).toList ++ state.system.decisions }
        trails := state.trailsAfter libraries (.router event) } := by
  rw [step, SystemRun.step_router maxSignalAge stepped]
  rfl

open RouterRun (chatLibraries chatRouter chatArrival chatParts chatRouted chatWaiting oneSlot
  oneSlotBackend promptOnlyPressure) in
/-- A chat request on its way to the only backend. -/
theorem requests_are_forwarded_faithfully_chat :
    ∃ (state : TrailedRun ℝ) (handler : Handler),
      ForwardsFaithfully chatLibraries ⟨.whitespace, 4⟩ (fun ref => (oneSlotBackend ref).uri)
        handler (state.trails 0) ∧
      (state.trails 0).sent.map (fun sent => sent.request.uri) =
        ["http://x/v1/chat/completions"] := by
  let router := chatRouter (.pressure promptOnlyPressure)
  have read : RouterRun.step chatLibraries (oneSlot [.arrived chatParts 0])
      (.advance 0 (.bodyRead (.ok (chatBytes "\x7b\x7d")))) = some (oneSlot [chatRouted]) :=
    RouterRun.step_bodyRead_chat ⟨rfl, rfl⟩ oneSlotBackend []
  have picked : (oneSlot [chatRouted]).step chatLibraries (.advance 0 (.pick .first)) =
      some (oneSlot [chatWaiting]) :=
    RouterRun.step_pick_chat rfl
  let events : List (RouterEvent ℝ) := chatArrival 0 ++
    [.advance 0 (.pick .first), .advance 0 .openLease, .advance 0 .rebuild]
  have executed : ∃ state, EventRun.run (step 5 chatLibraries) (initial oneSlotBackend router)
      (events.map .router) = some state ∧
      (state.trails 0).sent.map (fun sent => sent.request.uri) =
        ["http://x/v1/chat/completions"] ∧
      ∃ handler, state.system.run.handlers[0]? = some handler := by
    refine ⟨_, EventRun.run_cons_eq_some.mpr ⟨_, step_routed 5 chatLibraries rfl,
      EventRun.run_cons_eq_some.mpr ⟨_, step_routed 5 chatLibraries read,
        EventRun.run_cons_eq_some.mpr ⟨_, step_routed 5 chatLibraries picked,
          EventRun.run_cons_eq_some.mpr ⟨_, step_routed 5 chatLibraries rfl,
            EventRun.run_cons_eq_some.mpr ⟨_, step_routed 5 chatLibraries rfl, rfl⟩⟩⟩⟩⟩, ?_, ?_⟩
    · decide +kernel
    · exact ⟨_, rfl⟩
  obtain ⟨state, ran, sent, handler, present⟩ := executed
  exact ⟨state, handler,
    requests_are_forwarded_faithfully 5 chatLibraries ran 0 handler present, sent⟩

end TrailedRun

end KeelRouter
