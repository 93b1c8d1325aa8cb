import KeelRouter.Cost
import KeelRouter.TokenCounter

/-!
# Router configuration

A raw configuration is checked field by field, and the first failing check is
reported.  Fields left out of the file take their defaults.  Durations are in
milliseconds.
-/

namespace KeelRouter

structure RawListener where
  bind : String
  adminBind : String
  maxRequestBodyBytes : UInt64

def defaultMaxBody : UInt64 := 4 * 1024 * 1024

structure RawRouting where
  strategy : String
  theta : ExactFloat
  penalty : ExactFloat
  kvModel : Option KvModel
  decisionTraceSampleRate : ExactFloat
  routeP50HalflifeS : ExactFloat
  tokenCounter : TokenCounterKind
  charsPerToken : ExactFloat

def RawRouting.default : RawRouting where
  strategy := "pressure"
  theta := defaultTheta
  penalty := defaultPenalty
  kvModel := none
  decisionTraceSampleRate := .finite (1 / 100)
  routeP50HalflifeS := 300
  tokenCounter := .whitespace
  charsPerToken := 4

structure RawAdmission where
  sigma : ExactFloat

def RawAdmission.default : RawAdmission where
  sigma := defaultSigma

structure RawObservability where
  occupancySampleIntervalMs : UInt64

def RawObservability.default : RawObservability where
  occupancySampleIntervalMs := 100

structure RawSignal where
  enabled : Bool
  scrapeIntervalMs : UInt64
  scrapeTimeoutMs : UInt64
  maxSignalAgeMs : UInt64
  driftWarnRatio : ExactFloat
  validateCapacityAtStartup : Bool

def RawSignal.default : RawSignal where
  enabled := true
  scrapeIntervalMs := 1000
  scrapeTimeoutMs := 500
  maxSignalAgeMs := 5000
  driftWarnRatio := 2
  validateCapacityAtStartup := true

structure RawBackend where
  url : String
  model : String
  kvTokens : UInt32
  maxNumSeqs : UInt32
  weight : ExactFloat

def defaultWeight : ExactFloat := 1

structure RawConfig where
  listener : RawListener
  routing : RawRouting
  admission : RawAdmission
  observability : RawObservability
  signal : RawSignal
  backends : List RawBackend

structure SignalConfig where
  enabled : Bool
  scrapeInterval : UInt64
  scrapeTimeout : UInt64
  maxSignalAge : UInt64
  driftWarnRatio : ExactFloat
  validateCapacityAtStartup : Bool

structure Config where
  listenerBind : String
  adminBind : String
  maxRequestBodyBytes : UInt64
  strategy : String
  theta : ExactFloat
  penalty : ExactFloat
  sigma : ExactFloat
  kvModel : KvModel
  decisionTraceSampleRate : ExactFloat
  routeP50HalflifeS : ExactFloat
  tokenCounter : TokenCounter
  occupancySampleIntervalMs : UInt64
  signal : SignalConfig
  backends : List RawBackend

inductive ConfigError where
  | zeroKvCapacity (url : String)
  | zeroMaxNumSeqs (url : String)
  | thetaOutOfRange (theta : ExactFloat)
  | sigmaOutOfRange (sigma : ExactFloat)
  | noBackends
  | zeroSampleInterval
  | badCharsPerToken (charsPerToken : ExactFloat)
  | unknownStrategy (strategy : String)
  | duplicateBackend (url : String)
  | signalTimeoutNotLessThanInterval (timeout interval : UInt64)
  | signalTimeoutsNotPositive (timeout interval : UInt64)
  | signalAgeBeforeInterval (age interval : UInt64)
  | signalDriftRatioTooLow (ratio : ExactFloat)
deriving DecidableEq

def ConfigError.message (showFloat : ExactFloat → String) (quote : String → String) :
    ConfigError → String
  | .zeroKvCapacity url => "backend " ++ url ++ ": kv_tokens must be > 0"
  | .zeroMaxNumSeqs url => "backend " ++ url ++ ": max_num_seqs must be > 0"
  | .thetaOutOfRange theta => "theta must be in (0,1), got " ++ showFloat theta
  | .sigmaOutOfRange sigma => "sigma must be in (0,1], got " ++ showFloat sigma
  | .noBackends => "no backends configured"
  | .zeroSampleInterval => "occupancy_sample_interval_ms must be > 0"
  | .badCharsPerToken charsPerToken =>
      "chars_per_token must be finite and > 0, got " ++ showFloat charsPerToken
  | .unknownStrategy strategy =>
      "unknown strategy " ++ quote strategy ++ " (expected one of: pressure, p2c, " ++
        "least_requests, round_robin, least_kvts)"
  | .duplicateBackend url => "duplicate backend url: " ++ url
  | .signalTimeoutNotLessThanInterval timeout interval =>
      "signal: scrape_timeout_ms must be strictly less than scrape_interval_ms, got timeout=" ++
        toString timeout ++ "ms >= interval=" ++ toString interval ++ "ms"
  | .signalTimeoutsNotPositive timeout interval =>
      "signal: scrape_timeout_ms and scrape_interval_ms must be > 0, got timeout=" ++
        toString timeout ++ "ms, interval=" ++ toString interval ++ "ms"
  | .signalAgeBeforeInterval age interval =>
      "signal: max_signal_age_ms must be >= scrape_interval_ms, got age=" ++
        toString age ++ "ms < interval=" ++ toString interval ++ "ms"
  | .signalDriftRatioTooLow ratio =>
      "signal: drift_warn_ratio must be > 1.0, got " ++ showFloat ratio

def knownStrategies : List String :=
  ["pressure", "p2c", "least_requests", "least_conn", "round_robin", "least_kvts"]

/-- The loop over the backends, with the urls seen before. -/
def validateBackends (seen : List String) : List RawBackend → Except ConfigError Unit
  | [] => .ok ()
  | b :: backends =>
      if b.kvTokens = 0 then .error (.zeroKvCapacity b.url)
      else if b.maxNumSeqs = 0 then .error (.zeroMaxNumSeqs b.url)
      else if b.url ∈ seen then .error (.duplicateBackend b.url)
      else validateBackends (b.url :: seen) backends

theorem ite_error_eq_ok {ε α : Type} {condition : Prop} [Decidable condition] {err : ε}
    {rest : Except ε α} {value : α} :
    (if condition then .error err else rest) = .ok value ↔ ¬ condition ∧ rest = .ok value := by
  by_cases holds : condition <;> simp [holds]

/-- The first backend passes its checks, and the others pass theirs after it. -/
theorem validateBackends_cons {b : RawBackend} {backends : List RawBackend}
    {seen : List String} :
    validateBackends seen (b :: backends) = .ok () ↔
      b.kvTokens ≠ 0 ∧ b.maxNumSeqs ≠ 0 ∧ b.url ∉ seen ∧
        validateBackends (b.url :: seen) backends = .ok () := by
  rw [validateBackends, ite_error_eq_ok, ite_error_eq_ok, ite_error_eq_ok]

theorem validateBackends_eq_ok {backends : List RawBackend} {seen : List String}
    (capacities : ∀ b ∈ backends, b.kvTokens ≠ 0 ∧ b.maxNumSeqs ≠ 0)
    (unseen : ∀ b ∈ backends, b.url ∉ seen) (distinct : (backends.map RawBackend.url).Nodup) :
    validateBackends seen backends = .ok () := by
  induction backends generalizing seen with
  | nil => rfl
  | cons b backends ih =>
      obtain ⟨kvTokens, maxNumSeqs⟩ := capacities b (by simp)
      obtain ⟨apart, rest⟩ := List.nodup_cons.mp distinct
      refine validateBackends_cons.mpr ⟨kvTokens, maxNumSeqs, unseen b (by simp), ?_⟩
      apply ih (fun other member => capacities other (by simp [member])) _ rest
      intro other member listed
      rcases List.mem_cons.mp listed with same | earlier
      · exact apart (List.mem_map.mpr ⟨other, member, same⟩)
      · exact unseen other (by simp [member]) earlier

theorem capacities_of_validateBackends {backends : List RawBackend} {seen : List String}
    (valid : validateBackends seen backends = .ok ()) :
    ∀ b ∈ backends, b.kvTokens ≠ 0 ∧ b.maxNumSeqs ≠ 0 := by
  induction backends generalizing seen with
  | nil => simp
  | cons b backends ih =>
      obtain ⟨kvTokens, maxNumSeqs, -, rest⟩ := validateBackends_cons.mp valid
      intro other member
      rcases List.mem_cons.mp member with rfl | later
      · exact ⟨kvTokens, maxNumSeqs⟩
      · exact ih rest other later

namespace RawConfig

/-- The configuration that an accepted raw configuration turns into. -/
def toConfig (raw : RawConfig) : Config where
  listenerBind := raw.listener.bind
  adminBind := raw.listener.adminBind
  maxRequestBodyBytes := raw.listener.maxRequestBodyBytes
  strategy := raw.routing.strategy
  theta := raw.routing.theta
  penalty := raw.routing.penalty
  sigma := raw.admission.sigma
  kvModel := raw.routing.kvModel.getD .promptOnly
  decisionTraceSampleRate := raw.routing.decisionTraceSampleRate
  routeP50HalflifeS := raw.routing.routeP50HalflifeS
  tokenCounter := ⟨raw.routing.tokenCounter, raw.routing.charsPerToken⟩
  occupancySampleIntervalMs := raw.observability.occupancySampleIntervalMs
  signal := {
    enabled := raw.signal.enabled
    scrapeInterval := raw.signal.scrapeIntervalMs
    scrapeTimeout := raw.signal.scrapeTimeoutMs
    maxSignalAge := raw.signal.maxSignalAgeMs
    driftWarnRatio := raw.signal.driftWarnRatio
    validateCapacityAtStartup := raw.signal.validateCapacityAtStartup }
  backends := raw.backends

/-- `RawConfig::validate` -/
def validate (raw : RawConfig) : Except ConfigError Config :=
  if raw.backends.isEmpty then .error .noBackends
  else if ¬ (0 < raw.routing.theta ∧ raw.routing.theta < 1) then
    .error (.thetaOutOfRange raw.routing.theta)
  else if ¬ (0 < raw.admission.sigma ∧ raw.admission.sigma ≤ 1) then
    .error (.sigmaOutOfRange raw.admission.sigma)
  else if raw.observability.occupancySampleIntervalMs = 0 then .error .zeroSampleInterval
  else if ¬ (raw.routing.charsPerToken.isFinite ∧ 0 < raw.routing.charsPerToken) then
    .error (.badCharsPerToken raw.routing.charsPerToken)
  else if raw.routing.strategy ∉ knownStrategies then
    .error (.unknownStrategy raw.routing.strategy)
  else if raw.signal.scrapeTimeoutMs = 0 ∨ raw.signal.scrapeIntervalMs = 0 then
    .error (.signalTimeoutsNotPositive raw.signal.scrapeTimeoutMs raw.signal.scrapeIntervalMs)
  else if raw.signal.scrapeIntervalMs ≤ raw.signal.scrapeTimeoutMs then
    .error (.signalTimeoutNotLessThanInterval raw.signal.scrapeTimeoutMs
      raw.signal.scrapeIntervalMs)
  else if raw.signal.maxSignalAgeMs < raw.signal.scrapeIntervalMs then
    .error (.signalAgeBeforeInterval raw.signal.maxSignalAgeMs raw.signal.scrapeIntervalMs)
  else if raw.signal.driftWarnRatio ≤ 1 then
    .error (.signalDriftRatioTooLow raw.signal.driftWarnRatio)
  else (validateBackends [] raw.backends).map fun _ => raw.toConfig

/-- Everything that an accepted configuration has passed. -/
structure Checked (raw : RawConfig) : Prop where
  backendsNonempty : raw.backends ≠ []
  theta : 0 < raw.routing.theta ∧ raw.routing.theta < 1
  sigma : 0 < raw.admission.sigma ∧ raw.admission.sigma ≤ 1
  sampleInterval : raw.observability.occupancySampleIntervalMs ≠ 0
  charsPerToken : raw.routing.charsPerToken.isFinite ∧ 0 < raw.routing.charsPerToken
  strategy : raw.routing.strategy ∈ knownStrategies
  timeoutsPositive : raw.signal.scrapeTimeoutMs ≠ 0 ∧ raw.signal.scrapeIntervalMs ≠ 0
  timeoutLess : raw.signal.scrapeTimeoutMs < raw.signal.scrapeIntervalMs
  signalAge : raw.signal.scrapeIntervalMs ≤ raw.signal.maxSignalAgeMs
  driftWarnRatio : ¬ raw.signal.driftWarnRatio ≤ 1
  backends : validateBackends [] raw.backends = .ok ()

/-- Exactly the raw configurations that pass every check are accepted, and they
turn into the same configuration without further changes. -/
theorem validate_eq_ok_iff {raw : RawConfig} {config : Config} :
    raw.validate = .ok config ↔ raw.Checked ∧ config = raw.toConfig := by
  have backendsOk : ((validateBackends [] raw.backends).map fun _ => raw.toConfig) =
      .ok config ↔ validateBackends [] raw.backends = .ok () ∧ config = raw.toConfig := by
    cases validateBackends [] raw.backends with
    | error err => simp [Except.map]
    | ok _ => simp [Except.map, eq_comm]
  simp only [validate, ite_error_eq_ok, backendsOk]
  constructor
  · rintro ⟨backendsNonempty, theta, sigma, sampleInterval, charsPerToken, strategy,
      timeoutsPositive, timeoutLess, signalAge, driftWarnRatio, backends, rfl⟩
    refine ⟨⟨by simpa using backendsNonempty, not_not.mp theta, not_not.mp sigma,
      sampleInterval, not_not.mp charsPerToken, not_not.mp strategy,
      not_or.mp timeoutsPositive, ?_, ?_, driftWarnRatio, backends⟩, rfl⟩
    · exact UInt64.not_le.mp timeoutLess
    · exact UInt64.not_lt.mp signalAge
  · rintro ⟨checked, rfl⟩
    exact ⟨by simpa using checked.backendsNonempty, not_not.mpr checked.theta,
      not_not.mpr checked.sigma, checked.sampleInterval, not_not.mpr checked.charsPerToken,
      not_not.mpr checked.strategy, not_or.mpr checked.timeoutsPositive,
      UInt64.not_le.mpr checked.timeoutLess, UInt64.not_lt.mpr checked.signalAge,
      checked.driftWarnRatio, checked.backends, rfl⟩

/-- Every default passes its own check, whatever the penalty. -/
theorem checked_of_defaults (listener : RawListener) (penalty : ExactFloat)
    {backends : List RawBackend} (nonempty : backends ≠ [])
    (valid : validateBackends [] backends = .ok ()) :
    Checked ⟨listener, { RawRouting.default with penalty }, .default, .default, .default,
      backends⟩ where
  backendsNonempty := nonempty
  theta := show 0 < defaultTheta ∧ defaultTheta < 1 by decide +kernel
  sigma := show 0 < defaultSigma ∧ defaultSigma ≤ 1 by decide +kernel
  sampleInterval := show RawObservability.default.occupancySampleIntervalMs ≠ 0 by decide
  charsPerToken := show RawRouting.default.charsPerToken.isFinite ∧
    0 < RawRouting.default.charsPerToken by decide +kernel
  strategy := show RawRouting.default.strategy ∈ knownStrategies by decide
  timeoutsPositive := show RawSignal.default.scrapeTimeoutMs ≠ 0 ∧
    RawSignal.default.scrapeIntervalMs ≠ 0 by decide
  timeoutLess := show RawSignal.default.scrapeTimeoutMs <
    RawSignal.default.scrapeIntervalMs by decide
  signalAge := show RawSignal.default.scrapeIntervalMs ≤
    RawSignal.default.maxSignalAgeMs by decide
  driftWarnRatio := show ¬ RawSignal.default.driftWarnRatio ≤ 1 by decide +kernel
  backends := valid

end RawConfig

end KeelRouter
