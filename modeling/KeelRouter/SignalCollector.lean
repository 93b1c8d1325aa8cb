import KeelRouter.Scrape
import KeelRouter.Upstream
import KeelRouter.Utf8Lossy

/-!
# The signal collector

One task for each backend requests its metrics at intervals, stores the reading
in the backend, and keeps the counters of the last sample for the next hit rate.
A request that fails leaves both alone.  The status of a response is not looked
at: the body of an error response is read as metrics, too.  The last good reading
is kept in the runs in which every response is a success, and in no others.

Readings are compared with the projection of the router for reports only.
-/

namespace KeelRouter

/-! ## One scrape -/

inductive ScrapeError where
  | badUri (reason : String)
  | connect (reason : String)
  | body (reason : String)
  | timeout
deriving DecidableEq

/-- How the request for a backend's metrics ends.  It is not sent when the URL
or the request is malformed. -/
inductive ScrapeAttempt where
  | notSent (reason : String)
  | timedOut
  | connectFailed (reason : String)
  | bodyFailed (status : StatusCode) (reason : String)
  | responded (status : StatusCode) (body : List UInt8)
deriving DecidableEq

/-- `fetch_metrics` -/
def fetchMetrics : ScrapeAttempt → Except ScrapeError Text
  | .notSent reason => .error (.badUri reason)
  | .timedOut => .error .timeout
  | .connectFailed reason => .error (.connect (UpstreamError.connect reason).message)
  | .bodyFailed _ reason => .error (.body reason)
  | .responded _ body => .ok (Utf8Lossy.fromUtf8Lossy body)

/-! ## Drift of the projection -/

def ReportedLoad.isStale (reported : ReportedLoad) (now maxAge : Instant) : Bool :=
  maxAge < now - reported.observedAt

/-- `drift::projection_drift` -/
def projectionDrift (backend : Backend) (reported : ReportedLoad) (now maxAge : Instant) :
    Option ExactFloat :=
  if reported.isStale now maxAge then none
  else reported.kvUsagePerc.bind fun r =>
    if r < .finite (1 / 20) then none
    else
      let kvProjected := max backend.live.kvProjectedTokens.toInt 0
      let p := .finite kvProjected / .finite backend.caps.kvCapacityTokens.toNat
      if p < .finite (1 / 20) then none else some (p / r)

/-! ## The loop -/

/-- A call of the collector into the metrics. -/
inductive SignalEffect where
  | recordScrapeResult (backendKey result : String)
  | recordScrapedMetrics (backendKey : String) (reported : ReportedLoad) (now : Instant)
  | recordProjectionDrift (backendKey : String) (ratio : ExactFloat)
deriving DecidableEq

/-- One round of the loop: how its request ended, and when. -/
structure Tick where
  attempt : ScrapeAttempt
  now : Instant
deriving DecidableEq

structure Collector where
  backend : Backend
  prevSample : Option CounterSample
deriving DecidableEq

namespace Collector

/-- The collector of a backend that has not been read yet. -/
def start (backend : Backend) : Collector where
  backend := { backend with reported := none }
  prevSample := none

/-- The body of the loop in `collect_loop`. -/
def tick (maxSignalAge : Instant) (state : Collector) (tick : Tick) :
    Collector × List SignalEffect :=
  match fetchMetrics tick.attempt with
  | .ok text =>
      let (load, newSample) := parseReported text tick.now state.prevSample
      let backend := { state.backend with reported := some load }
      let drift := projectionDrift backend load tick.now maxSignalAge
      ({ backend, prevSample := some newSample },
        [.recordScrapeResult backend.key "ok", .recordScrapedMetrics backend.key load tick.now]
          ++ (drift.map (.recordProjectionDrift backend.key)).toList)
  | .error .timeout => (state, [.recordScrapeResult state.backend.key "timeout"])
  | .error _ => (state, [.recordScrapeResult state.backend.key "error"])

/-- The collector after its first ticks. -/
def after (maxSignalAge : Instant) (state : Collector) (ticks : List Tick) : Collector :=
  ticks.foldl (fun state tick => (state.tick maxSignalAge tick).1) state

theorem after_append_singleton (maxSignalAge : Instant) (state : Collector) (ticks : List Tick)
    (last : Tick) :
    state.after maxSignalAge (ticks ++ [last]) =
      ((state.after maxSignalAge ticks).tick maxSignalAge last).1 := by
  simp [after]

/-- Every response is stored, whatever its status. -/
theorem tick_responded (maxSignalAge : Instant) (state : Collector) (status : StatusCode)
    (body : List UInt8) (now : Instant) :
    (state.tick maxSignalAge ⟨.responded status body, now⟩).1 =
      { backend := { state.backend with
          reported := some (parseReported (Utf8Lossy.fromUtf8Lossy body) now state.prevSample).1 }
        prevSample := some
          (parseReported (Utf8Lossy.fromUtf8Lossy body) now state.prevSample).2 } :=
  rfl

/-- Only the reading of the backend changes. -/
theorem tick_backend (maxSignalAge : Instant) (state : Collector) (last : Tick) :
    (state.tick maxSignalAge last).1.backend =
      { state.backend with reported := (state.tick maxSignalAge last).1.backend.reported } := by
  obtain ⟨attempt, now⟩ := last
  cases attempt <;> rfl

end Collector

/-! ## The last good reading -/

/-- The text of a response with a success status, and when it came. -/
def Tick.success (tick : Tick) : Option (Instant × Text) :=
  match tick.attempt with
  | .responded status body =>
      if status.isSuccess then some (tick.now, Utf8Lossy.fromUtf8Lossy body) else none
  | _ => none

/-- The response has another status. -/
def Tick.errorStatus (tick : Tick) : Bool :=
  match tick.attempt with
  | .responded status _ => !status.isSuccess
  | _ => false

/-- The responses with a success status, the latest first. -/
def successes (ticks : List Tick) : List (Instant × Text) :=
  (ticks.filterMap Tick.success).reverse

/-- The windowed counters of the most recent response. -/
def lastSample : List (Instant × Text) → Option CounterSample
  | [] => none
  | (_, text) :: _ => some
      { prefixHits := counterValue text "vllm:prefix_cache_hits"
        prefixQueries := counterValue text "vllm:prefix_cache_queries" }

/-- The reading of the most recent response, with the counters of the one before. -/
def lastReading : List (Instant × Text) → Option ReportedLoad
  | [] => none
  | (now, text) :: earlier => some (parseReported text now (lastSample earlier)).1

namespace Collector

/-- The backend has the reading, and the collector the counters, of the last
response with a success status. -/
structure HoldsLastGood (state : Collector) (ticks : List Tick) : Prop where
  reported : state.backend.reported = lastReading (successes ticks)
  prevSample : state.prevSample = lastSample (successes ticks)

/-- After every tick the last good reading is held. -/
def KeepsLastGood (maxSignalAge : Instant) (backend : Backend) (ticks : List Tick) : Prop :=
  ∀ first, first <+: ticks → ((start backend).after maxSignalAge first).HoldsLastGood first

theorem successes_append_singleton (ticks : List Tick) (last : Tick) :
    successes (ticks ++ [last]) = last.success.toList ++ successes ticks := by
  cases succeeded : last.success <;> simp [successes, succeeded]

theorem holdsLastGood_tick {maxSignalAge : Instant} {state : Collector} {ticks : List Tick}
    (holds : state.HoldsLastGood ticks) {last : Tick} (noError : last.errorStatus = false) :
    (state.tick maxSignalAge last).1.HoldsLastGood (ticks ++ [last]) := by
  obtain ⟨attempt, now⟩ := last
  cases attempt with
  | responded status body =>
      have success : status.isSuccess = true := by
        simpa [Tick.errorStatus] using noError
      have latest : successes (ticks ++ [⟨.responded status body, now⟩]) =
          (now, Utf8Lossy.fromUtf8Lossy body) :: successes ticks := by
        rw [successes_append_singleton]
        simp [Tick.success, success]
      constructor
      · rw [latest, tick_responded, holds.prevSample]
        rfl
      · rw [latest, tick_responded]
        rfl
  | notSent | timedOut | connectFailed | bodyFailed =>
      constructor
      · rw [successes_append_singleton]
        exact holds.reported
      · rw [successes_append_singleton]
        exact holds.prevSample

theorem holdsLastGood_after (maxSignalAge : Instant) (backend : Backend) {ticks : List Tick}
    (noError : ∀ tick ∈ ticks, tick.errorStatus = false) :
    ((start backend).after maxSignalAge ticks).HoldsLastGood ticks := by
  induction ticks using List.reverseRecOn with
  | nil => exact ⟨rfl, rfl⟩
  | append_singleton ticks last ih =>
      rw [after_append_singleton]
      apply holdsLastGood_tick
      · exact ih fun tick member => noError tick (by simp [member])
      · exact noError last (by simp)

theorem observedAt_lastReading {ticks : List Tick} {load : ReportedLoad}
    (read : lastReading (successes ticks) = some load) :
    load.observedAt ∈ ticks.map Tick.now := by
  unfold lastReading at read
  split at read
  · cases read
  · rename_i now text earlier listed
    obtain rfl := Option.some.inj read
    have member : (now, text) ∈ ticks.filterMap Tick.success := by
      rw [← List.mem_reverse, ← successes, listed]
      exact List.mem_cons_self
    obtain ⟨tick, ticked, succeeded⟩ := List.mem_filterMap.mp member
    apply List.mem_map.mpr
    refine ⟨tick, ticked, ?_⟩
    unfold Tick.success at succeeded
    split at succeeded
    · split at succeeded
      · exact congrArg Prod.fst (Option.some.inj succeeded)
      · cases succeeded
    · cases succeeded

/-- The reading of an error response has a time of its own. -/
theorem not_holdsLastGood_errorStatus (maxSignalAge : Instant) (state : Collector)
    {ticks : List Tick} {last : Tick} (error : last.errorStatus = true)
    (later : last.now ∉ ticks.map Tick.now) :
    ¬ (state.tick maxSignalAge last).1.HoldsLastGood (ticks ++ [last]) := by
  obtain ⟨attempt, now⟩ := last
  cases attempt with
  | responded status body =>
      have noSuccess : status.isSuccess = false := by
        simpa [Tick.errorStatus] using error
      have kept : successes (ticks ++ [⟨.responded status body, now⟩]) = successes ticks := by
        rw [successes_append_singleton]
        simp [Tick.success, noSuccess]
      intro holds
      have read := holds.reported
      rw [kept, tick_responded] at read
      exact later (observedAt_lastReading read.symm)
  | notSent | timedOut | connectFailed | bodyFailed => cases error

/-- The collector keeps the last good reading in every run in which each
response has a success status; when the clock moves between ticks, in no others. -/
theorem keeps_last_good_iff (maxSignalAge : Instant) (backend : Backend) (ticks : List Tick) :
    ((∀ tick ∈ ticks, tick.errorStatus = false) → KeepsLastGood maxSignalAge backend ticks) ∧
      ((ticks.map Tick.now).Nodup → KeepsLastGood maxSignalAge backend ticks →
        ∀ tick ∈ ticks, tick.errorStatus = false) := by
  constructor
  · intro noError first initial
    exact holdsLastGood_after maxSignalAge backend fun tick member =>
      noError tick (initial.subset member)
  · intro distinct keeps tick member
    rw [← Bool.not_eq_true]
    intro error
    obtain ⟨before, later, rfl⟩ := List.append_of_mem member
    have initial : before ++ [tick] <+: before ++ tick :: later := ⟨later, by simp⟩
    have fresh : tick.now ∉ before.map Tick.now := by
      rw [List.map_append, List.map_cons] at distinct
      have apart := (List.nodup_append.mp distinct).2.2
      intro earlier
      exact apart _ earlier _ List.mem_cons_self rfl
    have holds := keeps _ initial
    rw [after_append_singleton] at holds
    exact not_holdsLastGood_errorStatus maxSignalAge _ error fresh holds

def goodBody : List UInt8 := "vllm:num_requests_running 8\n".toUTF8.toList

/-- A time-out after a good response. -/
theorem keeps_last_good_timeout (maxSignalAge : Instant) (backend : Backend) :
    KeepsLastGood maxSignalAge backend [⟨.responded 200 goodBody, 1⟩, ⟨.timedOut, 2⟩] :=
  (keeps_last_good_iff maxSignalAge backend _).1 (by decide)

/-- The page of an internal server error replaces the reading by an empty one. -/
theorem error_page_replaces_reading :
    ¬ ∀ maxSignalAge backend ticks, KeepsLastGood maxSignalAge backend ticks := by
  intro always
  let backend := Backend.fresh ⟨0⟩ "http://localhost:8001" "m" 1 ⟨1024, 4⟩
  let ticks : List Tick := [⟨.responded 200 goodBody, 1⟩, ⟨.responded 500 [], 2⟩]
  have holds := (always 5 backend ticks ticks List.prefix_rfl).reported
  have running : ((start backend).after 5 ticks).backend.reported.map
      ReportedLoad.numRunning = some none := by
    decide +kernel
  have last : (lastReading (successes ticks)).map ReportedLoad.numRunning = some (some 8) := by
    decide +kernel
  rw [holds, last] at running
  cases running

end Collector

end KeelRouter
