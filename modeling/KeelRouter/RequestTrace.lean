import KeelRouter.RequestAccounting
import KeelRouter.SystemLeases
import KeelRouter.TokenRatioAlarm

/-!
# The metric calls of a request

What an execution has recorded is determined by its phase and the usage frames
of its response: at most one saturated dispatch, then two calls for ratios and
at most one observation for each usage frame, then at most one backend error and
one result.  A ratio is not taken of a count that is zero, so a usage frame can
add a sample to one of the two histograms only.

The totals over all requests follow: every backend error belongs to a failed
request, the two ratios are called for equally often, and the output length has
one sample for each observation.
-/

namespace KeelRouter

variable {F : Type}

/-! ## Samples -/

namespace Effect

/-- The sample that a call adds to `router_prompt_token_ratio`. -/
def promptTokenRatio : Effect → Option ExactFloat
  | .recordPromptTokenRatio estimated reported =>
      if reported = 0 then none else some (tokenRatio estimated reported)
  | _ => none

/-- The sample that a call adds to `router_output_length_ratio`. -/
def outputLengthRatio : Effect → Option ExactFloat
  | .recordOutputLengthRatio estimated actual =>
      if 0 < actual then some (tokenRatio estimated actual) else none
  | _ => none

end Effect

/-! ## Usage frames -/

/-- What a usage frame is compared with and counted for. -/
structure UsageContext where
  estimatedPromptTokens : UInt32
  estimatedOutputTokens : UInt32
  route : RouteKey

def CountingSseBody.usageContext (body : CountingSseBody) : UsageContext where
  estimatedPromptTokens := body.estimatedPromptTokens
  estimatedOutputTokens := body.estimatedOutputTokens
  route := body.route

namespace UsageContext

/-- The calls for one usage frame. -/
def frameTrace (context : UsageContext) (usage : UInt32 × UInt32) : List Effect :=
  [.recordPromptTokenRatio context.estimatedPromptTokens usage.1,
    .recordOutputLengthRatio context.estimatedOutputTokens usage.2] ++
    if 0 < usage.2 then [.observeRoute context.route usage.2] else []

/-- The calls for the usage frames of a response. -/
def trace (context : UsageContext) (usages : List (UInt32 × UInt32)) : List Effect :=
  usages.flatMap context.frameTrace

/-- `router_prompt_token_ratio` has the samples of the frames that report a prompt. -/
theorem promptTokenRatios_trace (context : UsageContext) (usages : List (UInt32 × UInt32)) :
    (context.trace usages).filterMap Effect.promptTokenRatio =
      (usages.filter fun usage => usage.1 ≠ 0).map fun usage =>
        tokenRatio context.estimatedPromptTokens usage.1 := by
  induction usages with
  | nil => rfl
  | cons usage usages ih =>
      rw [trace, List.flatMap_cons, List.filterMap_append, List.filter_cons]
      change _ ++ (context.trace usages).filterMap Effect.promptTokenRatio = _
      rw [ih]
      unfold frameTrace
      by_cases unreported : usage.1 = 0 <;> by_cases produced : 0 < usage.2 <;>
        simp [List.filterMap_cons, Effect.promptTokenRatio, unreported, produced]

/-- `router_output_length_ratio` has the samples of the frames that report tokens. -/
theorem outputLengthRatios_trace (context : UsageContext) (usages : List (UInt32 × UInt32)) :
    (context.trace usages).filterMap Effect.outputLengthRatio =
      (usages.filter fun usage => 0 < usage.2).map fun usage =>
        tokenRatio context.estimatedOutputTokens usage.2 := by
  induction usages with
  | nil => rfl
  | cons usage usages ih =>
      rw [trace, List.flatMap_cons, List.filterMap_append, List.filter_cons]
      change _ ++ (context.trace usages).filterMap Effect.outputLengthRatio = _
      rw [ih]
      unfold frameTrace
      by_cases produced : 0 < usage.2 <;> simp [List.filterMap_cons, Effect.outputLengthRatio, produced]

theorem trace_append (context : UsageContext) (first second : List (UInt32 × UInt32)) :
    context.trace (first ++ second) = context.trace first ++ context.trace second :=
  List.flatMap_append

end UsageContext

namespace BodyState

variable (codec : SerdeJson.Codec) (now : Instant) (state : BodyState)

/-- The usage frames that a step of the body has reported. -/
structure Reports (before after : BodyState) (usages : List (UInt32 × UInt32)) : Prop where
  context : after.body.usageContext = before.body.usageContext
  effects : after.effects = before.effects ++ before.body.usageContext.trace usages

theorem Reports.refl : Reports state state [] := ⟨rfl, (List.append_nil _).symm⟩

theorem Reports.trans {first second third : BodyState} {earlier later : List (UInt32 × UInt32)}
    (left : Reports first second earlier) (right : Reports second third later) :
    Reports first third (earlier ++ later) where
  context := right.context.trans left.context
  effects := by
    rw [right.effects, left.effects, left.context, UsageContext.trace_append, List.append_assoc]

theorem exists_reports_applyFrame (frame : Option Frame) :
    ∃ usages, Reports state (state.applyFrame now frame) usages := by
  rcases frame with _ | (_ | _ | _ | ⟨promptTokens, completionTokens⟩ | _ | _)
  case some.usage =>
    refine ⟨[(promptTokens, completionTokens)], rfl, ?_⟩
    have single : state.body.usageContext.trace [(promptTokens, completionTokens)] =
        state.body.usageContext.frameTrace (promptTokens, completionTokens) := by
      simp [UsageContext.trace]
    rw [single]
    exact List.append_assoc _ _ _
  all_goals exact ⟨[], rfl, (List.append_nil _).symm⟩

theorem exists_reports_feed (text : List Char) :
    ∃ usages, Reports state (state.feed codec now text) usages := by
  have handled (lines : List (List Char)) (state : BodyState) :
      ∃ usages, Reports state (lines.foldl (handleLine codec now) state) usages := by
    induction lines generalizing state with
    | nil => exact ⟨[], .refl state⟩
    | cons line lines ih =>
        obtain ⟨earlier, first⟩ := state.exists_reports_applyFrame now (lineFrame codec line)
        obtain ⟨later, rest⟩ := ih (state.handleLine codec now line)
        exact ⟨earlier ++ later, first.trans rest⟩
  obtain ⟨usages, reports⟩ := handled (LineBuffer.splitLines '\n' (state.body.lineBuf ++ text)).1
    (state.setLineBuf (LineBuffer.splitLines '\n' (state.body.lineBuf ++ text)).2)
  exact ⟨usages, reports.context, reports.effects⟩

theorem exists_reports_pollFrame (polled : Polled) :
    ∃ usages, Reports state (state.pollFrame codec now polled).1 usages := by
  cases polled with
  | frame frame =>
      cases frame with
      | data bytes =>
          change ∃ usages, Reports state (state.pollData codec now bytes) usages
          unfold pollData
          split
          · exact ⟨[], .refl state⟩
          · exact state.exists_reports_feed codec now _
      | trailers => exact ⟨[], .refl state⟩
  | pending | error | finished => exact ⟨[], .refl state⟩

end BodyState

/-- A usage frame on a line of its own is compared and counted; the rest of the
execution stays as it is. -/
theorem HandlerState.step_poll_usage [DecayNumber F] {libraries : Libraries}
    {state : HandlerState F} {body : CountingSseBody} (phase : state.handler.phase = .responding body)
    (empty : body.lineBuf = []) {line : List Char} (isLine : LineBuffer.IsLine '\n' line)
    {promptTokens completionTokens : UInt32}
    (reads : lineFrame libraries.codec line = some (.usage promptTokens completionTokens))
    (now : Instant) (nowS : F) :
    state.step libraries (.poll now nowS (.frame (.data (Utf8Relay.encode line)))) =
      some { state with
        router := { state.router with
          routeHists := (body.usageContext.frameTrace (promptTokens, completionTokens)).foldl
            (observeEffect nowS) state.router.routeHists }
        handler := { state.handler with
          effects := state.handler.effects ++
            body.usageContext.frameTrace (promptTokens, completionTokens) } } := by
  have polled := BodyState.pollFrame_line libraries.codec now ⟨body, state.heap, []⟩ isLine empty
  rw [BodyState.handleLine, reads] at polled
  obtain ⟨heap, router, parts, arrival, reached, effects⟩ := state
  obtain rfl : reached = .responding body := phase
  change some (poll libraries _ body now nowS _) = _
  rw [poll, polled]
  rfl

/-! ## The calls of a request -/

def saturatedTrace (fellThrough : Bool) : List Effect :=
  if fellThrough then [.countSaturatedDispatch] else []

/-- The last calls of a request: its result and, before it, whatever is held
against its backend. -/
inductive Verdict : List Effect → Prop where
  | success : Verdict [.recordRequestResult true]
  | failure (backendKey kind : String) (known : kind = "in_band_error" ∨ kind = "http_status") :
      Verdict [.recordBackendError backendKey kind, .recordRequestResult false]

/-- The calls that an execution has made when it has come to a phase. -/
inductive Phase.Traces : Phase → List Effect → Prop where
  | readingBody : Traces .readingBody []
  | routing (features : RequestFeatures) (body : List UInt8) : Traces (.routing features body) []
  | picked (features : RequestFeatures) (body : List UInt8) (backend : BackendRef)
      (fellThrough : Bool) :
      Traces (.picked features body backend fellThrough) (saturatedTrace fellThrough)
  | opened (features : RequestFeatures) (body : List UInt8) (lease : CostLease)
      (fellThrough : Bool) :
      Traces (.opened features body lease) (saturatedTrace fellThrough)
  | dispatching (features : RequestFeatures) (lease : CostLease) (fellThrough : Bool) :
      Traces (.dispatching features lease) (saturatedTrace fellThrough)
  | responding (body : CountingSseBody) (fellThrough : Bool) (usages : List (UInt32 × UInt32)) :
      Traces (.responding body) (saturatedTrace fellThrough ++ body.usageContext.trace usages)
  | refused (status : StatusCode) (known : status ∈ [400, 413, 503]) :
      Traces (.finished (.answered status)) [.recordRequestResult false]
  | unbuilt (fellThrough : Bool) :
      Traces (.finished (.answered 502)) (saturatedTrace fellThrough ++ [.recordRequestResult false])
  | unreachable (backendKey : String) (fellThrough : Bool) :
      Traces (.finished (.answered 502)) (saturatedTrace fellThrough ++
        [.recordBackendError backendKey "connect", .recordRequestResult false])
  | dropped (context : UsageContext) (fellThrough : Bool) (usages : List (UInt32 × UInt32))
      {verdict : List Effect} (ends : Verdict verdict) :
      Traces (.finished .bodyDropped)
        (saturatedTrace fellThrough ++ context.trace usages ++ verdict)
  | cancelled (fellThrough : Bool) :
      Traces (.finished .cancelled) (saturatedTrace fellThrough)

/-- The execution has made the calls of its phase and no others. -/
def Handler.Traced (handler : Handler) : Prop :=
  handler.phase.Traces handler.effects

theorem Handler.traced_arrived (parts : RequestParts) (now : Instant) :
    (arrived parts now).Traced := .readingBody

theorem Handler.traced_refused {handler : Handler} (made : handler.effects = [])
    (status : StatusCode) (known : status ∈ [400, 413, 503]) :
    (handler.errorResponse status).Traced := by
  change Phase.Traces _ (handler.effects ++ _)
  rw [made]
  exact .refused status known

theorem BodyState.exists_verdict (state : BodyState) :
    ∃ verdict, Verdict verdict ∧ state.drop.2 = state.effects ++ verdict := by
  unfold drop
  cases failed : state.failed with
  | false => exact ⟨_, .success, by simp⟩
  | true =>
      refine ⟨_, .failure state.body.backendKey
        (if state.body.sawErrorFrame then "in_band_error" else "http_status") ?_, by simp⟩
      cases state.body.sawErrorFrame <;> simp

namespace HandlerState

variable [DecayNumber F] {libraries : Libraries} {state after : HandlerState F}
  {event : HandlerEvent F}

theorem traced_of_bodyRead {collected : Except String (List UInt8)}
    (made : state.handler.effects = [])
    (returned : state.bodyRead libraries collected = .ok after) : after.handler.Traced := by
  unfold bodyRead at returned
  split at returned
  · obtain rfl := Except.ok.inj returned
    exact Handler.traced_refused made 413 (by decide)
  · split at returned
    · obtain rfl := Except.ok.inj returned
      exact Handler.traced_refused made 400 (by decide)
    · obtain ⟨body, -, finished⟩ := Outcome.bind_eq_ok.mp returned
      obtain rfl := Except.ok.inj finished
      change Phase.Traces _ state.handler.effects
      rw [made]
      exact .routing _ body

theorem traced_step (traced : state.handler.Traced)
    (stepped : state.Steps libraries event after) : after.handler.Traced := by
  have calls : state.handler.phase.Traces state.handler.effects := traced
  generalize made : state.handler.effects = effects at calls
  cases stepped with
  | bodyRead collected phase returned =>
      rw [phase] at calls
      cases calls
      exact traced_of_bodyRead made returned
  | pick rng phase returned =>
      rw [phase] at calls
      cases calls
      rcases pick_cases returned with ⟨strategy, -, rfl⟩ |
        ⟨picked, strategy, id, backend, -, -, -, rfl⟩
      · exact Handler.traced_refused made 503 (by decide)
      · change Phase.Traces _ (state.handler.effects ++ saturatedTrace _)
        rw [made]
        exact .picked _ _ _ _
  | openLease phase =>
      rw [phase] at calls
      cases calls
      change Phase.Traces _ state.handler.effects
      rw [made]
      exact .opened _ _ _ _
  | rebuild phase =>
      rename_i features body lease
      rw [phase] at calls
      cases calls with
      | opened _ _ _ fellThrough =>
          rcases state.rebuild_cases libraries features body lease with rebuilt | rebuilt
          · rw [rebuilt]
            change Phase.Traces _ (state.handler.effects ++ _)
            rw [made]
            exact .unbuilt fellThrough
          · rw [rebuilt]
            change Phase.Traces _ state.handler.effects
            rw [made]
            exact .dispatching features lease fellThrough
  | dispatched answer phase =>
      rename_i features lease
      rw [phase] at calls
      cases calls with
      | dispatching _ _ fellThrough =>
          rcases state.dispatched_cases features lease answer with
            ⟨key, answered⟩ | ⟨body, -, answered⟩
          · rw [answered]
            change Phase.Traces _ (state.handler.effects ++ [_] ++ [_])
            rw [made, List.append_assoc]
            exact .unreachable key fellThrough
          · rw [answered]
            change Phase.Traces _ state.handler.effects
            rw [made, ← List.append_nil (saturatedTrace fellThrough)]
            exact .responding body fellThrough []
  | cancelDispatch phase =>
      rw [phase] at calls
      cases calls with
      | dispatching _ _ fellThrough =>
          change Phase.Traces (.finished .cancelled) state.handler.effects
          rw [made]
          exact .cancelled fellThrough
  | poll now nowS polled phase =>
      rename_i body
      rw [phase] at calls
      cases calls with
      | responding _ fellThrough usages =>
          obtain ⟨later, reports⟩ := BodyState.exists_reports_pollFrame libraries.codec now
            ⟨body, state.heap, []⟩ polled
          change Phase.Traces (.responding _) (state.handler.effects ++ _)
          rw [made, reports.effects, List.nil_append, List.append_assoc,
            ← UsageContext.trace_append, ← reports.context]
          exact .responding _ fellThrough (usages ++ later)
  | dropBody phase =>
      rename_i body
      rw [phase] at calls
      cases calls with
      | responding _ fellThrough usages =>
          obtain ⟨verdict, ends, dropped⟩ := BodyState.exists_verdict ⟨body, state.heap, []⟩
          change Phase.Traces (.finished .bodyDropped) (state.handler.effects ++ _)
          rw [made, dropped, List.nil_append]
          exact .dropped _ fellThrough usages ends

end HandlerState

/-! ## Totals -/

namespace Effect

def isBackendError : Effect → Bool
  | .recordBackendError _ _ => true
  | _ => false

def isPromptTokenRatio : Effect → Bool
  | .recordPromptTokenRatio _ _ => true
  | _ => false

def isOutputLengthRatio : Effect → Bool
  | .recordOutputLengthRatio _ _ => true
  | _ => false

def isObservation : Effect → Bool
  | .observeRoute _ _ => true
  | _ => false

end Effect

/-- Every backend error belongs to a failed request.  The two ratios are called
for equally often; a call for a count of zero adds no sample, and the output
length has one sample for each observation. -/
structure MetricsAgree (calls : List Effect) : Prop where
  errors : calls.countP Effect.isBackendError ≤ calls.count (.recordRequestResult false)
  ratioCalls : calls.countP Effect.isPromptTokenRatio = calls.countP Effect.isOutputLengthRatio
  promptSamples :
    (calls.filterMap Effect.promptTokenRatio).length ≤ calls.countP Effect.isPromptTokenRatio
  outputSamples :
    (calls.filterMap Effect.outputLengthRatio).length ≤ calls.countP Effect.isOutputLengthRatio
  observations :
    (calls.filterMap Effect.outputLengthRatio).length = calls.countP Effect.isObservation

namespace MetricsAgree

theorem nil : MetricsAgree [] := ⟨le_rfl, rfl, le_rfl, le_rfl, rfl⟩

theorem append {first second : List Effect} (left : MetricsAgree first)
    (right : MetricsAgree second) : MetricsAgree (first ++ second) := by
  constructor <;> simp only [List.countP_append, List.count_append, List.filterMap_append,
    List.length_append]
  · exact Nat.add_le_add left.errors right.errors
  · rw [left.ratioCalls, right.ratioCalls]
  · exact Nat.add_le_add left.promptSamples right.promptSamples
  · exact Nat.add_le_add left.outputSamples right.outputSamples
  · rw [left.observations, right.observations]

theorem flatMap {α : Type} {items : List α} {calls : α → List Effect}
    (agree : ∀ item ∈ items, MetricsAgree (calls item)) : MetricsAgree (items.flatMap calls) := by
  induction items with
  | nil => exact nil
  | cons item items ih =>
      rw [List.flatMap_cons]
      exact (agree item (by simp)).append (ih fun other member => agree other (by simp [member]))

theorem saturatedTrace (fellThrough : Bool) : MetricsAgree (saturatedTrace fellThrough) := by
  cases fellThrough <;> exact ⟨by decide, by decide, by decide, by decide, by decide⟩

theorem usageTrace (context : UsageContext) (usages : List (UInt32 × UInt32)) :
    MetricsAgree (context.trace usages) := by
  refine flatMap fun usage _ => ?_
  unfold UsageContext.frameTrace
  by_cases unreported : usage.1 = 0 <;> by_cases produced : 0 < usage.2 <;>
    constructor <;>
    simp [List.filterMap_cons, List.countP_cons, unreported, produced,
      Effect.promptTokenRatio, Effect.outputLengthRatio, Effect.isBackendError,
      Effect.isPromptTokenRatio, Effect.isOutputLengthRatio, Effect.isObservation]

theorem verdict {calls : List Effect} (ends : Verdict calls) : MetricsAgree calls := by
  cases ends with
  | success => exact ⟨Nat.zero_le _, rfl, le_rfl, le_rfl, rfl⟩
  | failure backendKey kind known => exact ⟨le_rfl, rfl, le_rfl, le_rfl, rfl⟩

theorem of_traces {phase : Phase} {calls : List Effect} (traces : phase.Traces calls) :
    MetricsAgree calls := by
  have result : MetricsAgree [.recordRequestResult false] :=
    ⟨Nat.zero_le _, rfl, le_rfl, le_rfl, rfl⟩
  cases traces with
  | readingBody | routing _ _ => exact nil
  | picked _ _ _ fellThrough | opened _ _ _ fellThrough | dispatching _ _ fellThrough
  | cancelled fellThrough => exact saturatedTrace fellThrough
  | responding body fellThrough usages =>
      exact (saturatedTrace fellThrough).append (usageTrace _ usages)
  | refused _ _ => exact result
  | unbuilt fellThrough => exact (saturatedTrace fellThrough).append result
  | unreachable backendKey fellThrough =>
      exact (saturatedTrace fellThrough).append ⟨le_rfl, rfl, le_rfl, le_rfl, rfl⟩
  | dropped context fellThrough usages ends =>
      exact ((saturatedTrace fellThrough).append (usageTrace context usages)).append (verdict ends)

end MetricsAgree

/-- The calls that all executions have made. -/
def RouterRun.calls (state : RouterRun F) : List Effect :=
  state.handlers.flatMap Handler.effects

section Reports

open RouterRun (chatLibraries chatRouter chatRouted chatRoutedWith chatArrival twoSlots)

/-- A chunk that reports five tokens of prompt and the given number of tokens of
output. -/
def usageLine (completionTokens : String) : List Char :=
  "data: \x7b\"choices\":[],\"usage\":\x7b\"prompt_tokens\":5,\"completion_tokens\":".toList ++
    completionTokens.toList ++ "\x7d\x7d\n".toList

def usageValue (completionTokens : UInt64) : SerdeJson.Value :=
  .object [("choices", .array []), ("usage", .object [
    ("completion_tokens", .number (.posInt completionTokens)),
    ("prompt_tokens", .number (.posInt 5))])]

/-- The JSON library as far as a chat request and two reports of its usage need it. -/
def reportingLibraries : Libraries :=
  { chatLibraries with
    codec := { chatLibraries.codec with
      fromStr := fun text =>
        if text = payload (usageLine "0") then .ok (usageValue 0)
        else if text = payload (usageLine "3") then .ok (usageValue 3)
        else .error "expected value at line 1 column 1" } }

theorem lineFrame_usageLine :
    lineFrame reportingLibraries.codec (usageLine "0") = some (.usage 5 0) ∧
      lineFrame reportingLibraries.codec (usageLine "3") = some (.usage 5 3) := by
  constructor <;> rfl

theorem usageLine_isLine :
    LineBuffer.IsLine '\n' (usageLine "0") ∧ LineBuffer.IsLine '\n' (usageLine "3") := by
  refine ⟨⟨(usageLine "0").dropLast, ?_, ?_⟩, ⟨(usageLine "3").dropLast, ?_, ?_⟩⟩ <;> decide

theorem run_arrival_reporting [DecayNumber F] (heap : Heap) {router : RouterState F}
    (counter : router.tokenCounter = ⟨.whitespace, 4⟩) (handlers : List Handler)
    (events : List (RouterEvent F)) :
    EventRun.run (RouterRun.step reportingLibraries) ⟨heap, router, handlers⟩
        (chatArrival handlers.length ++ events) =
      EventRun.run (RouterRun.step reportingLibraries) ⟨heap, router, handlers ++
        [chatRoutedWith (router.routeHists.estimate (routeKey "m" 1) none)]⟩ events := by
  have read : HandlerState.step reportingLibraries ⟨heap, router, .arrived RouterRun.chatParts 0⟩
      (.bodyRead (.ok (chatBytes "\x7b\x7d"))) = some ⟨heap, router, _⟩ :=
    Outcome.toOption_eq_some.mpr (RouterRun.bodyRead_chat_estimate heap counter)
  have arrived : EventRun.run (RouterRun.step reportingLibraries) ⟨heap, router, handlers⟩
      (chatArrival handlers.length) = some ⟨heap, router, handlers ++ [_]⟩ :=
    EventRun.run_cons_eq_some.mpr ⟨_, rfl, EventRun.run_cons_eq_some.mpr
      ⟨_, RouterRun.step_last read, rfl⟩⟩
  exact EventRun.run_append_of_run arrived events

/-- Two backends that take turns. -/
noncomputable def rotatingRouter : RouterState ℝ :=
  { chatRouter (.roundRobin 0) with snapshot := ⟨0, [0, 1], [⟨0⟩, ⟨1⟩], []⟩ }

/-- The backend of the second request cannot be reached; that of the first
reports its usage twice, the first time before it has produced anything. -/
def reportedRequests : List (RouterEvent ℝ) :=
  [.advance 0 (.pick .first), .advance 0 .openLease, .advance 0 .rebuild,
    .advance 1 (.pick .first), .advance 0 (.dispatched (.ok 200)), .advance 1 .openLease,
    .advance 0 (.poll 1 0 (.frame (.data (Utf8Relay.encode (usageLine "0"))))),
    .advance 1 .rebuild, .advance 1 (.dispatched (.error "connection refused")),
    .advance 0 (.poll 2 1 (.frame (.data (Utf8Relay.encode (usageLine "3"))))),
    .advance 0 .dropBody]

end Reports

end KeelRouter
