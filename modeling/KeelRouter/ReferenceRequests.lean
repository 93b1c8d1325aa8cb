import KeelRouter.PromptWords
import KeelRouter.RequestForwarding
import KeelRouter.TraceGenerator

/-!
# The requests of the reference client

The load generator sends the requests of a trace as streaming chat requests with a
limit on their output.  The router reads from each the prompt tokens that the load
generator counts, and estimates its output by the limit, whatever the route has seen
before.  So what is charged for a request is what the load generator charges.
-/

namespace KeelRouter

open SerdeJson (Codec Value)

namespace Loadgen.TraceRequest

/-- An integer of 64 bits, as it is parsed. -/
def parsedLimit (maxTokens : ℤ) : SerdeJson.Number :=
  if maxTokens < 0 then .negInt (Int64.ofInt maxTokens) else .posInt (UInt64.ofNat maxTokens.toNat)

/-- The payload of `send_request`, as it is parsed. -/
def payload (request : TraceRequest) : Value :=
  .object [
    ("max_tokens", .number (parsedLimit request.maxTokens)),
    ("messages", .array [.object [
      ("content", .string (String.ofList request.prompt)), ("role", .string "user")]]),
    ("model", .string "test-model"),
    ("stream", .bool true)]

/-- The output that the router expects. -/
def limit (request : TraceRequest) : ℕ := max 1 request.maxTokens.toNat

/-- The prompt has words, the two notions of white space agree on it, and its words
and its limit are numbers of 32 bits. -/
structure IsSendable (request : TraceRequest) : Prop where
  plain : TraceGenerator.IsPlain request.prompt
  nonempty : 0 < request.promptTokens
  prompt : request.promptTokens < 2 ^ 32
  output : 0 ≤ request.maxTokens ∧ request.maxTokens < 2 ^ 32

/-- What the load generator would charge for a request, with its limit as its output. -/
def kv (request : TraceRequest) (kvModel : KvModel) : ℤ :=
  kvFor request.promptTokens request.limit kvModel

/-- The features that are read from a request. -/
structure ReadAs (request : TraceRequest) (features : RequestFeatures) : Prop where
  prompt : features.promptTokens.toNat = request.promptTokens
  output : features.expectedOutputTokens.toNat = request.limit
  streaming : features.streaming = true

end Loadgen.TraceRequest

open Loadgen (TraceRequest)

/-! ## Reading a payload -/

section Payloads

variable {request : TraceRequest} (sendable : request.IsSendable)
include sendable

theorem toNat_countPromptTokens_payload {counter : TokenCounter}
    (byWords : counter.kind = .whitespace) :
    (countPromptTokens request.payload counter).toNat = request.promptTokens := by
  have contents : HasContents request.payload [String.ofList request.prompt] := ⟨_, rfl, rfl⟩
  have words : (contentWords [String.ofList request.prompt]).length = request.promptTokens := by
    simp [contentWords, TraceRequest.promptTokens,
      TraceGenerator.split_of_isPlain sendable.plain]
  have fits := sendable.prompt
  rw [toNat_countPromptTokens byWords contents, words]
  omega

variable {F : Type} [DecayNumber F]

theorem toNat_estimate_payload (hists : RouteHistograms F) (route : RouteKey) :
    (hists.estimate route (((request.payload.get "max_tokens").bind Value.asU64).map
      UInt64.toUInt32)).toNat = request.limit := by
  obtain ⟨nonneg, fits⟩ := sendable.output
  have number : request.payload.get "max_tokens" =
      some (.number (.posInt (UInt64.ofNat request.maxTokens.toNat))) := by
    change some (Value.number (TraceRequest.parsedLimit request.maxTokens)) = _
    rw [TraceRequest.parsedLimit, if_neg (by omega)]
  have value : (UInt64.ofNat request.maxTokens.toNat).toUInt32.toNat = request.maxTokens.toNat := by
    simp
    omega
  rw [number, Option.bind_some, Value.asU64, Option.map_some, RouteHistograms.estimate]
  generalize (UInt64.ofNat request.maxTokens.toNat).toUInt32 = limit at value
  change (if limit ≤ 1 then 1 else limit : UInt32).toNat = max 1 request.maxTokens.toNat
  rw [← value]
  split
  · rename_i atMost
    have small : limit.toNat ≤ 1 := UInt32.le_iff_toNat_le.mp atMost
    exact (Nat.max_eq_left small).symm
  · rename_i above
    have large : ¬ limit.toNat ≤ 1 := fun small => above (UInt32.le_iff_toNat_le.mpr small)
    omega

/-- A payload is accepted, with the features of its request. -/
theorem buildFeatures_payload {codec : Codec} {bytes : List UInt8}
    (parsed : codec.fromSlice bytes = .ok request.payload) {counter : TokenCounter}
    (byWords : counter.kind = .whitespace) (now : Instant) (hists : RouteHistograms F) :
    ∃ features, buildFeatures codec bytes now hists counter = .ok features ∧
      request.ReadAs features := by
  have prompt := toNat_countPromptTokens_payload sendable byWords
  have counted : countPromptTokens request.payload counter ≠ 0 := by
    intro zero
    have positive := sendable.nonempty
    rw [← prompt, zero] at positive
    exact absurd positive (by decide)
  unfold buildFeatures
  rw [parsed]
  dsimp only
  have model : (request.payload.get "model").bind Value.asStr = some "test-model" := rfl
  unfold featuresOf
  rw [model]
  dsimp only
  rw [if_neg counted]
  have output := toNat_estimate_payload sendable hists
    (routeKey "test-model" (countPromptTokens request.payload counter))
  exact ⟨_, rfl, prompt, output, rfl⟩

omit sendable [DecayNumber F] in
/-- A payload can be rewritten. -/
theorem exists_ensureUsageRequested_payload {codec : Codec} {bytes : List UInt8}
    (parsed : codec.fromSlice bytes = .ok request.payload) :
    ∃ body, ensureUsageRequested codec bytes true = .ok body := by
  have usable : StreamOptionsUsable request.payload := by
    intro options present
    cases present
  exact (ensureUsageRequested_object parsed).mpr usable

end Payloads

/-! ## One execution -/

/-- The lease of an execution that has no answer yet. -/
def Phase.unanswered : Phase → Option CostLease
  | .opened _ _ lease | .dispatching _ lease => some lease
  | _ => none

/-- The lease is one for a request. -/
structure CostLease.Serves (lease : CostLease) (request : TraceRequest) (kvModel : KvModel) :
    Prop where
  prompt : lease.promptTokens.toNat = request.promptTokens
  model : lease.kvModel = kvModel
  charged : lease.charged = kvModel.project lease.promptTokens lease.oHat

/-- An execution works for a request of the trace. -/
structure Handler.Serves (handler : Handler) (requests : List TraceRequest) (kvModel : KvModel) :
    Prop where
  waiting : ∀ features ∈ handler.phase.waiting, ∃ request ∈ requests, request.ReadAs features
  lease : ∀ lease ∈ handler.lease, ∃ request ∈ requests, lease.Serves request kvModel
  unanswered : ∀ lease ∈ handler.phase.unanswered, ∃ request ∈ requests,
    lease.charged.toInt = request.kv kvModel
  accepted : handler.phase ≠ .finished (.answered 400) ∧
    handler.phase ≠ .finished (.answered 413)

namespace CostLease.Serves

variable {request : TraceRequest} {kvModel : KvModel}

theorem observeTokens {lease : CostLease} (serves : lease.Serves request kvModel) (n : UInt32)
    (heap : Heap) : (lease.observeTokens n heap).1.Serves request kvModel := by
  by_cases exceeds : lease.oHat < lease.tokensSeen + n
  · rw [observeTokens_of_lt lease n heap exceeds]
    exact ⟨serves.prompt, serves.model, by rw [serves.model]⟩
  · rw [observeTokens_of_not_lt lease n heap exceeds]
    exact ⟨serves.prompt, serves.model, serves.charged⟩

theorem iterate {held : CostLease × Heap} (serves : held.1.Serves request kvModel) (count : Nat) :
    (observeToken^[count] held).1.Serves request kvModel := by
  induction count generalizing held with
  | zero => exact serves
  | succ count ih =>
      rw [Function.iterate_succ_apply]
      have observed : (observeToken held).1.Serves request kvModel :=
        serves.observeTokens 1 held.2
      exact ih observed

/-- A lease that is opened for what is read from a request is charged what the load
generator charges. -/
theorem of_open {features : RequestFeatures} (readAs : request.ReadAs features)
    (backend : BackendRef) (now : Instant) (heap : Heap) :
    let lease := (CostLease.open backend features.promptTokens features.expectedOutputTokens
      kvModel now heap).1
    lease.Serves request kvModel ∧ lease.charged.toInt = request.kv kvModel := by
  refine ⟨⟨readAs.prompt, rfl, rfl⟩, ?_⟩
  rw [open_charged, KvModel.toInt_project, readAs.prompt, readAs.output]
  cases kvModel <;> rfl

end CostLease.Serves

theorem LeaseUse.serves {before after : Option CostLease × Heap} (used : LeaseUse before after)
    {requests : List TraceRequest} {kvModel : KvModel}
    (held : ∀ lease ∈ before.1, ∃ request ∈ requests, lease.Serves request kvModel) :
    ∀ lease ∈ after.1, ∃ request ∈ requests, lease.Serves request kvModel := by
  cases used with
  | keep => exact held
  | observe count pair =>
      intro lease member
      obtain rfl := Option.mem_some_iff.mp member
      obtain ⟨request, listed, serves⟩ := held pair.1 rfl
      exact ⟨request, listed, serves.iterate count⟩
  | drop lease heap => exact fun _ member => absurd member (Option.not_mem_none _)

namespace Handler

/-- The bodies that are read are payloads of requests. -/
def ReadsPayload {F : Type} (codec : Codec) (requests : List TraceRequest) :
    HandlerEvent F → Prop
  | .bodyRead collected => ∃ bytes, collected = .ok bytes ∧
      ∃ request ∈ requests, codec.fromSlice bytes = .ok request.payload
  | _ => True

variable {F : Type} [DecayNumber F] {libraries : Libraries} {requests : List TraceRequest}
  {kvModel : KvModel}

theorem serves_arrived (parts : RequestParts) (now : Instant) :
    (arrived parts now).Serves requests kvModel := by
  have free : (arrived parts now).phase = .readingBody := rfl
  have unleased : (arrived parts now).lease = none := rfl
  refine ⟨?_, ?_, ?_, ?_⟩
  · simp [free, Phase.waiting]
  · simp [unleased]
  · simp [free, Phase.unanswered]
  · simp [free]

theorem serves_step (sendable : ∀ request ∈ requests, request.IsSendable)
    {state after : HandlerState F} {event : HandlerEvent F}
    (byWords : state.router.tokenCounter.kind = .whitespace)
    (model : state.router.kvModel = kvModel) (reads : ReadsPayload libraries.codec requests event)
    (serves : state.handler.Serves requests kvModel)
    (stepped : state.Steps libraries event after) : after.handler.Serves requests kvModel := by
  have leaseAfter (used : event ≠ .openLease) :
      ∀ lease ∈ after.handler.lease, ∃ request ∈ requests, lease.Serves request kvModel :=
    (HandlerState.leaseUse_of_steps stepped used).serves serves.lease
  cases stepped with
  | bodyRead collected phase returned =>
      obtain ⟨bytes, rfl, request, listed, parsed⟩ := reads
      obtain ⟨features, built, readAs⟩ := buildFeatures_payload (sendable request listed) parsed
        byWords state.handler.now state.router.routeHists
      have routed : ∃ body, after =
          { state with handler := { state.handler with phase := .routing features body } } := by
        unfold HandlerState.bodyRead readBody at returned
        dsimp only [Except.mapError] at returned
        rw [built] at returned
        obtain ⟨body, -, rewritten⟩ := Outcome.bind_eq_ok.mp returned
        exact ⟨body, (Except.ok.inj rewritten).symm⟩
      obtain ⟨body, rfl⟩ := routed
      refine ⟨?_, leaseAfter (by simp), by simp [Phase.unanswered], by simp⟩
      intro other waits
      obtain rfl := Option.mem_some_iff.mp waits
      exact ⟨request, listed, readAs⟩
  | pick rng phase returned =>
      rcases HandlerState.pick_cases returned with ⟨strategy, -, rfl⟩ |
        ⟨picked, strategy, id, backend, -, -, -, rfl⟩
      · refine ⟨?_, leaseAfter (by simp), ?_, ?_⟩
        · simp [errorResponse, Phase.waiting]
        · simp [errorResponse, Phase.unanswered]
        · simp [errorResponse]
      · refine ⟨?_, leaseAfter (by simp), by simp [Phase.unanswered], by simp⟩
        intro features waits
        apply serves.waiting
        rw [phase]
        simpa [Phase.waiting] using waits
  | openLease phase =>
      rename_i features body backend fellThrough
      obtain ⟨request, listed, readAs⟩ := serves.waiting features (by rw [phase]; rfl)
      obtain ⟨opened, charged⟩ := @CostLease.Serves.of_open request kvModel features readAs backend
        state.handler.now state.heap
      refine ⟨by simp [HandlerState.openLease, Phase.waiting], ?_, ?_, by
        simp [HandlerState.openLease]⟩
      · intro lease held
        obtain rfl := Option.mem_some_iff.mp held
        rw [model]
        exact ⟨request, listed, opened⟩
      · intro lease held
        obtain rfl := Option.mem_some_iff.mp held
        rw [model]
        exact ⟨request, listed, charged⟩
  | rebuild phase =>
      rename_i features body lease
      have own : ∃ request ∈ requests, lease.charged.toInt = request.kv kvModel :=
        serves.unanswered lease (by rw [phase]; rfl)
      rcases state.rebuild_cases libraries features body lease with rebuilt | rebuilt
      · refine ⟨?_, leaseAfter (by simp), ?_, ?_⟩ <;> rw [rebuilt]
        · simp [errorResponse, Phase.waiting]
        · simp [errorResponse, Phase.unanswered]
        · simp [errorResponse]
      · refine ⟨?_, leaseAfter (by simp), ?_, ?_⟩ <;> rw [rebuilt]
        · simp [Phase.waiting]
        · simpa [Phase.unanswered] using own
        · simp
  | dispatched answer phase =>
      rename_i features lease
      rcases state.dispatched_cases features lease answer with ⟨key, answered⟩ | ⟨body, -, answered⟩
      · refine ⟨?_, leaseAfter (by simp), ?_, ?_⟩ <;> rw [answered]
        · simp [errorResponse, Phase.waiting]
        · simp [errorResponse, Phase.unanswered]
        · simp [errorResponse]
      · refine ⟨?_, leaseAfter (by simp), ?_, ?_⟩ <;> rw [answered]
        · simp [Phase.waiting]
        · simp [Phase.unanswered]
        · simp
  | cancelDispatch phase | poll now nowS polled phase | dropBody phase =>
      exact ⟨fun _ waits => absurd waits (Option.not_mem_none _), leaseAfter (by simp),
        fun _ held => absurd held (Option.not_mem_none _), by
          simp [HandlerState.cancelDispatch, HandlerState.poll, HandlerState.dropBody]⟩

end Handler

/-! ## Runs -/

/-- The bodies that the system reads are payloads of requests. -/
def SystemEvent.ReadsPayload {F : Type} (codec : Codec) (requests : List TraceRequest) :
    SystemEvent F → Prop
  | .router (.advance _ event) => Handler.ReadsPayload codec requests event
  | _ => True

namespace RouterRun

variable {F : Type} [DecayNumber F] {libraries : Libraries} {requests : List TraceRequest}
  {kvModel : KvModel}

/-- Every execution works for a request of the trace. -/
structure Serving (state : RouterRun F) (requests : List TraceRequest) (kvModel : KvModel) :
    Prop where
  byWords : state.router.tokenCounter.kind = .whitespace
  model : state.router.kvModel = kvModel
  handlers : ∀ handler ∈ state.handlers, handler.Serves requests kvModel

theorem serving_step (sendable : ∀ request ∈ requests, request.IsSendable)
    {state next : RouterRun F} {event : RouterEvent F}
    (reads : (SystemEvent.router event).ReadsPayload libraries.codec requests)
    (serving : state.Serving requests kvModel)
    (stepped : state.step libraries event = some next) : next.Serving requests kvModel := by
  rcases step_cases stepped with ⟨parts, now, rfl, rfl⟩ |
    ⟨id, event, handler, after, rfl, present, advanced, rfl⟩
  · refine ⟨serving.byWords, serving.model, ?_⟩
    intro handler listed
    rcases List.mem_append.mp listed with earlier | new
    · exact serving.handlers handler earlier
    · rw [List.mem_singleton.mp new]
      exact Handler.serves_arrived parts now
  · have counter := (HandlerState.parts_of_steps advanced).2
    have model := (HandlerState.router_of_steps advanced).2.1
    refine ⟨(congrArg TokenCounter.kind counter).trans serving.byWords,
      model.trans serving.model, ?_⟩
    intro other listed
    rcases List.mem_or_eq_of_mem_set listed with earlier | rfl
    · exact serving.handlers other earlier
    · exact Handler.serves_step sendable serving.byWords serving.model reads
        (serving.handlers handler (List.mem_of_getElem? present)) advanced

/-- An execution that has read a payload goes on with the features of its request. -/
theorem exists_step_bodyRead (sendable : ∀ request ∈ requests, request.IsSendable)
    {state : RouterRun F} (serving : state.Serving requests kvModel) {id : Nat} {handler : Handler}
    (present : state.handlers[id]? = some handler) (reading : handler.phase = .readingBody)
    {request : TraceRequest} (listed : request ∈ requests) {bytes : List UInt8}
    (parsed : libraries.codec.fromSlice bytes = .ok request.payload) :
    ∃ features body, request.ReadAs features ∧
      state.step libraries (.advance id (.bodyRead (.ok bytes))) =
        some (state.update id
          { state.view handler with handler := { handler with phase := .routing features body } }) := by
  obtain ⟨features, built, readAs⟩ := buildFeatures_payload (sendable request listed) parsed
    serving.byWords handler.now state.router.routeHists
  obtain ⟨body, ensured⟩ := exists_ensureUsageRequested_payload parsed
  rw [← readAs.streaming] at ensured
  refine ⟨features, body, readAs, ?_⟩
  have handled : (state.view handler).bodyRead libraries (.ok bytes) =
      .ok { state.view handler with handler := { handler with phase := .routing features body } } := by
    unfold HandlerState.bodyRead readBody
    dsimp only [Except.mapError, view]
    rw [built]
    dsimp only
    rw [ensured]
    rfl
  have advanced : (state.view handler).step libraries (.bodyRead (.ok bytes)) =
      some { state.view handler with handler := { handler with phase := .routing features body } } := by
    unfold HandlerState.step
    simp only [view, reading]
    exact congrArg Except.toOption handled
  unfold step
  simp [present, advanced]

end RouterRun

/-- A backend and a request that a lease is for. -/
def CostLease.IsFor (lease : CostLease) (entry : BackendRef × TraceRequest) : Prop :=
  entry.1 = lease.backend ∧ lease.Serves entry.2 .promptOnly

theorem exists_served {leases : List CostLease} {requests : List TraceRequest}
    (serve : ∀ lease ∈ leases, ∃ request ∈ requests, lease.Serves request .promptOnly) :
    ∃ served : List (BackendRef × TraceRequest), (∀ entry ∈ served, entry.2 ∈ requests) ∧
      List.Forall₂ CostLease.IsFor leases served := by
  induction leases with
  | nil => exact ⟨[], nofun, .nil⟩
  | cons lease leases ih =>
      obtain ⟨served, listed, pairs⟩ := ih fun other member =>
        serve other (List.mem_cons_of_mem lease member)
      obtain ⟨request, own, serves⟩ := serve lease List.mem_cons_self
      exact ⟨(lease.backend, request) :: served, List.forall_mem_cons.mpr ⟨own, listed⟩,
        .cons ⟨rfl, serves⟩ pairs⟩

/-- Some leases take what the load generator keeps for their requests. -/
theorem sums_of_served {leases : List CostLease} {served : List (BackendRef × TraceRequest)}
    (pairs : List.Forall₂ CostLease.IsFor leases served) (ref : BackendRef) :
    slotsOn leases ref = keyedSum Prod.fst (fun _ => 1) served ref ∧
      chargesOn leases ref =
        keyedSum Prod.fst (fun entry => entry.2.kv .promptOnly) served ref := by
  unfold slotsOn chargesOn
  induction pairs with
  | nil => exact ⟨rfl, rfl⟩
  | @cons lease entry leases served isFor pairs ih =>
      obtain ⟨backend, serves⟩ := isFor
      have charge : lease.charged.toInt = entry.2.kv .promptOnly := by
        rw [serves.charged, KvModel.toInt_project]
        exact congrArg Nat.cast serves.prompt
      rw [keyedSum_cons, keyedSum_cons, keyedSum_cons, keyedSum_cons, ih.1, ih.2, charge, backend]
      exact ⟨rfl, rfl⟩

namespace SystemRun

variable {F : Type} [DecayNumber F] (maxSignalAge : Instant) (libraries : Libraries)

section TwoRequests

open RouterRun (chatParts chatRouter)
open LoggedRun (twoHeap)

def oneWord : TraceRequest := ⟨0, "hi".toList, 50⟩

def threeWords : TraceRequest := ⟨250, "a b c".toList, 7⟩

/-- A body of one byte for each of the two requests. -/
def twoPayloads : Libraries where
  codec := {
    fromSlice := fun bytes =>
      if bytes = [1] then .ok oneWord.payload
      else if bytes = [2] then .ok threeWords.payload
      else .error "expected value at line 1 column 1"
    fromStr := fun _ => .error "expected value at line 1 column 1"
    toVec := fun _ => .ok [] }
  http := .accepting

def twoReads : List (RouterEvent ℝ) :=
  [.arrive chatParts 0, .arrive chatParts 0, .advance 0 (.bodyRead (.ok [1])),
    .advance 1 (.bodyRead (.ok [2]))]

def twoOpens : List (RouterEvent ℝ) :=
  [.advance 0 (.pick .first), .advance 1 (.pick .first), .advance 1 .openLease,
    .advance 0 .openLease]

noncomputable def turnsRouter : RouterState ℝ :=
  (twoBackends defaultPenalty).toConfig.router (.roundRobin 0) (chatRouter (.roundRobin 0)).routeHists

theorem sendable_two : ∀ request ∈ [oneWord, threeWords], request.IsSendable := by
  intro request listed
  rcases List.mem_pair.mp listed with rfl | rfl
  all_goals exact ⟨by decide, by decide, by decide, by decide⟩

theorem exists_run_two :
    ∃ state : RouterRun ℝ,
      EventRun.run (RouterRun.step twoPayloads) (.initial twoHeap turnsRouter)
        (twoReads ++ twoOpens) = some state ∧
      slotsOn state.leases 0 = 1 ∧ slotsOn state.leases 1 = 1 := by
  let arrived : RouterRun ℝ := ⟨twoHeap, turnsRouter, [.arrived chatParts 0, .arrived chatParts 0]⟩
  have serving : arrived.Serving [oneWord, threeWords] .promptOnly := by
    refine ⟨rfl, rfl, fun handler listed => ?_⟩
    rcases List.mem_pair.mp listed with rfl | rfl
    all_goals exact Handler.serves_arrived chatParts 0
  obtain ⟨first, firstBody, -, readFirst⟩ :=
    @RouterRun.exists_step_bodyRead ℝ _ twoPayloads _ _ sendable_two arrived serving 0 _ rfl rfl
      oneWord List.mem_cons_self [1] rfl
  have readsFirst : (SystemEvent.router (.advance 0 (.bodyRead (.ok [1]))) :
      SystemEvent ℝ).ReadsPayload twoPayloads.codec [oneWord, threeWords] :=
    ⟨[1], rfl, oneWord, List.mem_cons_self, rfl⟩
  have served := RouterRun.serving_step sendable_two readsFirst serving readFirst
  obtain ⟨second, secondBody, -, readSecond⟩ :=
    @RouterRun.exists_step_bodyRead ℝ _ twoPayloads _ _ sendable_two _ served 1 _ rfl rfl
      threeWords (.tail _ List.mem_cons_self) [2] rfl
  have read : EventRun.run (RouterRun.step twoPayloads) (.initial twoHeap turnsRouter) twoReads =
      some _ :=
    EventRun.run_cons_eq_some.mpr ⟨_, rfl, EventRun.run_cons_eq_some.mpr ⟨_, rfl,
      EventRun.run_cons_eq_some.mpr ⟨_, readFirst, EventRun.run_cons_eq_some.mpr
        ⟨_, readSecond, rfl⟩⟩⟩⟩
  exact ⟨_, (EventRun.run_append_of_run read _).trans rfl, rfl, rfl⟩

end TwoRequests

end SystemRun

end KeelRouter
