import KeelRouter.LengthEstimator
import KeelRouter.PanicOutcome
import KeelRouter.SerdeJson
import KeelRouter.TokenCounter

/-!
# Inbound requests

The features of a request are read from its JSON body, and the body of a
streaming request is rewritten so that the backend reports its usage.
-/

namespace KeelRouter

open SerdeJson (Codec Members Value)

inductive InboundError where
  | bodyTooLarge
  | badRequest (reason : String)
deriving DecidableEq

def InboundError.message : InboundError → String
  | .bodyTooLarge => "request body exceeded cap"
  | .badRequest reason => "malformed request body: " ++ reason

/-- `a.saturating_add(b)` -/
def saturatingAdd (first second : UInt32) : UInt32 :=
  UInt32.ofNat (min (first.toNat + second.toNat) 4294967295)

theorem toNat_saturatingAdd (first second : UInt32) :
    (saturatingAdd first second).toNat = min (first.toNat + second.toNat) (2 ^ 32 - 1) := by
  rw [saturatingAdd, UInt32.toNat_ofNat']
  omega

/-- `count_prompt_tokens` -/
def countPromptTokens (v : Value) (counter : TokenCounter) : UInt32 :=
  match (v.get "messages").bind Value.asArray with
  | some messages =>
      messages.foldl (fun total m =>
        match (m.get "content").bind Value.asStr with
        | some c => saturatingAdd total (counter.count c.toList)
        | none => total) 0
  | none =>
      match (v.get "prompt").bind Value.asStr with
      | some prompt => counter.count prompt.toList
      | none => 0

variable {F : Type} [DecayNumber F]

def featuresOf (v : Value) (now : Instant) (hists : RouteHistograms F)
    (counter : TokenCounter) : Except InboundError RequestFeatures :=
  match (v.get "model").bind Value.asStr with
  | none => .error (.badRequest "missing model")
  | some model =>
      let promptTokens := countPromptTokens v counter
      if promptTokens = 0 then .error (.badRequest "empty prompt")
      else
        let maxTokens := ((v.get "max_tokens").bind Value.asU64).map UInt64.toUInt32
        let streaming := ((v.get "stream").bind Value.asBool).getD false
        let route := routeKey model promptTokens
        .ok {
          model
          promptTokens
          promptTokensExact := counter.isExact
          expectedOutputTokens := hists.estimate route maxTokens
          maxTokens
          prefixKey := none
          streaming
          arrivedAt := now }

/-- `build_features` -/
def buildFeatures (codec : Codec) (bytes : List UInt8) (now : Instant)
    (hists : RouteHistograms F) (counter : TokenCounter) :
    Except InboundError RequestFeatures :=
  match codec.fromSlice bytes with
  | .error reason => .error (.badRequest reason)
  | .ok v => featuresOf v now hists counter

section Features

variable {codec : Codec} {bytes : List UInt8} {now : Instant} {hists : RouteHistograms F}
  {counter : TokenCounter} {features : RequestFeatures} {v : Value}

/-- What an accepted body says about the features built from it. -/
theorem buildFeatures_eq_ok (parsed : codec.fromSlice bytes = .ok v)
    (built : buildFeatures codec bytes now hists counter = .ok features) :
    ((v.get "model").bind Value.asStr) = some features.model ∧
      features.promptTokens = countPromptTokens v counter ∧
      features.expectedOutputTokens =
        hists.estimate (routeKey features.model features.promptTokens)
          (((v.get "max_tokens").bind Value.asU64).map UInt64.toUInt32) := by
  unfold buildFeatures at built
  rw [parsed] at built
  dsimp only at built
  unfold featuresOf at built
  split at built
  · cases built
  · rename_i model named
    dsimp only at built
    split at built
    · cases built
    · obtain rfl := Except.ok.inj built
      exact ⟨named, rfl, rfl⟩

/-- An accepted body has a prompt. -/
theorem promptTokens_ne_zero (built : buildFeatures codec bytes now hists counter = .ok features) :
    features.promptTokens ≠ 0 := by
  unfold buildFeatures at built
  split at built
  · cases built
  · unfold featuresOf at built
    split at built
    · cases built
    · dsimp only at built
      split at built
      · cases built
      · rename_i someTokens
        obtain rfl := Except.ok.inj built
        exact someTokens

/-- A body that names its model is rejected for an empty prompt exactly when
its prompt counts as nothing. -/
theorem empty_prompt_iff {model : String} (parsed : codec.fromSlice bytes = .ok v)
    (named : v.get "model" = some (.string model)) :
    buildFeatures codec bytes now hists counter = .error (.badRequest "empty prompt") ↔
      countPromptTokens v counter = 0 := by
  have modelOf : (v.get "model").bind Value.asStr = some model := by
    rw [named]
    rfl
  unfold buildFeatures
  rw [parsed]
  dsimp only
  unfold featuresOf
  rw [modelOf]
  dsimp only
  by_cases empty : countPromptTokens v counter = 0
  · simp [empty]
  · simp [empty]

end Features

def streamOptionsExpectation : String :=
  "stream_options was just inserted or already an object"

/-- Set `stream_options.include_usage` in the members of a body. -/
def requestUsage (obj : Members) : Outcome Members :=
  let streamOptions := (obj.get "stream_options").getD (.object [])
  match streamOptions.asObject with
  | none => .error (.expectFailed streamOptionsExpectation)
  | some options =>
      .ok (obj.insert "stream_options" (.object (options.insert "include_usage" (.bool true))))

/-- `ensure_usage_requested` -/
def ensureUsageRequested (codec : Codec) (bytes : List UInt8) (streaming : Bool) :
    Outcome (List UInt8) :=
  if !streaming then .ok bytes
  else
    match codec.fromSlice bytes with
    | .error _ => .ok bytes
    | .ok v =>
        match v.asObject with
        | none => .ok bytes
        | some obj =>
            let alreadyDecided := ((obj.get "stream_options").bind Value.asObject).any
              fun options => options.containsKey "include_usage"
            if alreadyDecided then .ok bytes
            else do
              let rebuilt ← requestUsage obj
              match codec.toVec (.object rebuilt) with
              | .ok bytes => return bytes
              | .error _ => return bytes

/-! ## When the rewriting returns -/

/-- The body has no `stream_options`, or an object there. -/
def StreamOptionsUsable (v : Value) : Prop :=
  ∀ options, v.get "stream_options" = some options → ∃ members, options = .object members

theorem requestUsage_eq_ok_iff (obj : Members) :
    (∃ rebuilt, requestUsage obj = .ok rebuilt) ↔ StreamOptionsUsable (.object obj) := by
  unfold requestUsage StreamOptionsUsable
  cases present : obj.get "stream_options" with
  | none => simp [Value.get, present, Value.asObject]
  | some options =>
      simp only [Option.getD_some, Value.get, present, Option.some.injEq, forall_eq']
      cases options <;> simp [Value.asObject]

theorem usable_of_alreadyDecided {obj : Members}
    (decided : (((obj.get "stream_options").bind Value.asObject).any
      fun options => options.containsKey "include_usage") = true) :
    StreamOptionsUsable (.object obj) := by
  intro options present
  have found : obj.get "stream_options" = some options := present
  rw [found, Option.bind_some] at decided
  cases shape : options.asObject with
  | none =>
      rw [shape] at decided
      cases decided
  | some members => exact ⟨members, Value.asObject_eq_some.mp shape⟩

theorem ensureUsageRequested_object {codec : Codec} {bytes : List UInt8} {obj : Members}
    (parsed : codec.fromSlice bytes = .ok (.object obj)) :
    (∃ out, ensureUsageRequested codec bytes true = .ok out) ↔
      StreamOptionsUsable (.object obj) := by
  unfold ensureUsageRequested
  simp only [parsed, Bool.not_true, Bool.false_eq_true, if_false, Value.asObject]
  by_cases decided : (((obj.get "stream_options").bind Value.asObject).any
      fun options => options.containsKey "include_usage") = true
  · rw [if_pos decided]
    exact iff_of_true ⟨bytes, rfl⟩ (usable_of_alreadyDecided decided)
  · rw [if_neg decided, ← requestUsage_eq_ok_iff]
    constructor
    · rintro ⟨out, returned⟩
      obtain ⟨rebuilt, requested, -⟩ := Outcome.bind_eq_ok.mp returned
      exact ⟨rebuilt, requested⟩
    · rintro ⟨rebuilt, requested⟩
      rw [requested]
      cases printed : codec.toVec (.object rebuilt) with
      | error reason => exact ⟨bytes, by simp [bind, Except.bind, printed, pure, Except.pure]⟩
      | ok out => exact ⟨out, by simp [bind, Except.bind, printed, pure, Except.pure]⟩

theorem object_of_buildFeatures {codec : Codec} {bytes : List UInt8} {now : Instant}
    {hists : RouteHistograms F} {counter : TokenCounter} {features : RequestFeatures}
    (built : buildFeatures codec bytes now hists counter = .ok features) :
    ∃ obj, codec.fromSlice bytes = .ok (.object obj) := by
  unfold buildFeatures at built
  cases parsed : codec.fromSlice bytes with
  | error reason =>
      rw [parsed] at built
      cases built
  | ok v =>
      rw [parsed] at built
      unfold featuresOf at built
      cases named : v.get "model" with
      | none => simp [named] at built
      | some model =>
          obtain ⟨obj, rfl⟩ := Value.exists_object_of_get named
          exact ⟨obj, rfl⟩

/-- For every body that `build_features` accepts as streaming, the rewriting
step returns exactly when the body's `stream_options` are absent or an object. -/
theorem accepted_body_rewritten_iff (codec : Codec) (bytes : List UInt8) (now : Instant)
    (hists : RouteHistograms F) (counter : TokenCounter) (features : RequestFeatures)
    (built : buildFeatures codec bytes now hists counter = .ok features)
    (streaming : features.streaming = true) :
    (∃ out, ensureUsageRequested codec bytes features.streaming = .ok out) ↔
      ∀ v, codec.fromSlice bytes = .ok v →
        ∀ options, v.get "stream_options" = some options →
          ∃ members, options = .object members := by
  obtain ⟨obj, parsed⟩ := object_of_buildFeatures built
  rw [streaming, ensureUsageRequested_object parsed, parsed]
  simp only [Except.ok.injEq, forall_eq']
  rfl

/-! ## Two bodies -/

/-- A streaming chat body of one user message with the given stream options. -/
def chatValue (options : Value) : Value :=
  .object [
    ("messages", .array [.object [("content", .string "hi"), ("role", .string "user")]]),
    ("model", .string "m"),
    ("stream", .bool true),
    ("stream_options", options)]

def chatBytes (options : String) : List UInt8 :=
  let text := "\x7b\"messages\":[\x7b\"content\":\"hi\",\"role\":\"user\"\x7d]," ++
    "\"model\":\"m\",\"stream\":true,\"stream_options\":" ++ options ++ "\x7d"
  text.toList.map fun char => UInt8.ofNat char.toNat

theorem featuresOf_chatValue {F : Type} [DecayNumber F] (options : Value)
    (hists : RouteHistograms F) :
    featuresOf (chatValue options) 0 hists ⟨.whitespace, 4⟩ =
      .ok ⟨"m", 1, true, hists.estimate (routeKey "m" 1) none, none, none, true, 0⟩ := by
  have counted : countPromptTokens (chatValue options) ⟨.whitespace, 4⟩ = 1 := by
    change saturatingAdd 0 (TokenCounter.count ⟨.whitespace, 4⟩ "hi".toList) = 1
    decide
  unfold featuresOf
  rw [counted]
  rfl

theorem buildFeatures_chatBytes (options : String) (parsed : Value) (printed : List UInt8) :
    buildFeatures (.single (chatBytes options) (chatValue parsed) printed) (chatBytes options)
        0 (RouteHistograms.new (300 : ℝ)) ⟨.whitespace, 4⟩ =
      .ok ⟨"m", 1, true, 128, none, none, true, 0⟩ := by
  unfold buildFeatures
  rw [SerdeJson.Codec.fromSlice_single]
  exact featuresOf_chatValue parsed _

theorem accepted_body_rewritten_empty_options :
    ∃ out, ensureUsageRequested
      (.single (chatBytes "\x7b\x7d") (chatValue (.object []))
        (chatBytes "\x7b\"include_usage\":true\x7d"))
      (chatBytes "\x7b\x7d") true = .ok out := by
  refine (accepted_body_rewritten_iff _ _ 0 (RouteHistograms.new (300 : ℝ)) ⟨.whitespace, 4⟩
    _ (buildFeatures_chatBytes _ _ _) rfl).mpr ?_
  intro v parsed options present
  rw [SerdeJson.Codec.fromSlice_single] at parsed
  obtain rfl := Except.ok.inj parsed
  obtain rfl := Option.some.inj present
  exact ⟨[], rfl⟩

/-- Null stream options make the rewriting step panic. -/
theorem null_stream_options_panic :
    ∃ features, buildFeatures (.single (chatBytes "null") (chatValue .null) [])
        (chatBytes "null") 0 (RouteHistograms.new (300 : ℝ)) ⟨.whitespace, 4⟩ = .ok features ∧
      features.streaming = true ∧
      ensureUsageRequested (.single (chatBytes "null") (chatValue .null) [])
          (chatBytes "null") features.streaming =
        .error (.expectFailed streamOptionsExpectation) := by
  refine ⟨_, buildFeatures_chatBytes _ _ _, rfl, ?_⟩
  unfold ensureUsageRequested
  rw [SerdeJson.Codec.fromSlice_single]
  rfl

end KeelRouter
