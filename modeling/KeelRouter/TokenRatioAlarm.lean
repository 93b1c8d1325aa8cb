import KeelRouter.Cost
import KeelRouter.EntryTable
import KeelRouter.EventRun
import KeelRouter.WarnOnce

/-!
# The token count alarm

Every reported usage compares the router's prompt count with the backend's.
Calls interleave between any two operations on the shared counters.  A call
that adds its sample late finds the samples of later calls in the sum, but not
in the count that it took first, and the mean of this pair is not the mean of
any samples.  A call that finds fewer samples in the sum than in the count errs
the other way.

For the record a run counts the additions to the sum.
-/

namespace KeelRouter

/-- `TOLERANCE` -/
def tolerance : ExactFloat := .finite (1 / 10)

/-- `(mean - 1.0).abs() > TOLERANCE` -/
def farFromOne (mean : ExactFloat) : Bool := decide (tolerance < (mean - 1).abs)

def tokenRatio (estimated reported : UInt32) : ExactFloat :=
  countAsFloat estimated / countAsFloat reported

structure TokenCountMismatch where
  meanRatio : ExactFloat
  samples : UInt64
deriving DecidableEq

def TokenCountMismatch.message (showMean : ExactFloat → String)
    (mismatch : TokenCountMismatch) : String :=
  let mean := showMean mismatch.meanRatio
  "TOKEN COUNT MISMATCH: the router counts " ++ mean ++ "x the prompt tokens the " ++
    "backend reports. Every KV projection is wrong by this factor, so the " ++
    "effective admission ceiling is sigma/" ++ mean ++ ", not sigma. Fix " ++
    "`token_counter` in the router config before trusting any result from " ++
    "this process."

/-- `observe::record_prompt_token_ratio`, not interrupted by another call -/
def recordPromptTokenRatio (alarm : WarnOnce) (estimated reported : UInt32) :
    WarnOnce × Option TokenCountMismatch :=
  if reported = 0 then (alarm, none)
  else
    let (alarm, warning) := alarm.record (tokenRatio estimated reported) farFromOne
    (alarm, warning.map fun (mean, n) => ⟨mean, n⟩)

/-- How far a call has come. -/
inductive RatioCall where
  | counted (milli n : UInt64)
  | summed (n sum : UInt64)
  | exchanging (mean : ExactFloat) (n : UInt64)
  | returned
deriving DecidableEq

structure RatioRun where
  alarm : WarnOnce
  /-- The additions to the sum. -/
  added : Nat
  calls : List RatioCall
  errors : List TokenCountMismatch

inductive RatioEvent where
  /-- A call begins and increments `SAMPLES`. -/
  | increment (estimated reported : UInt32)
  /-- The call at the position adds to `SUM_MILLI`. -/
  | add (position : Nat)
  /-- The call at the position loads `WARNED`. -/
  | load (position : Nat)
  /-- The call at the position does its `compare_exchange` on `WARNED`. -/
  | exchange (position : Nat)

namespace RatioRun

def initial : RatioRun := ⟨.initial, 0, [], []⟩

def begin (state : RatioRun) (estimated reported : UInt32) : RatioRun :=
  if reported = 0 then state
  else
    let n := state.alarm.samples + 1
    { state with
      alarm := { state.alarm with samples := n }
      calls := state.calls ++ [.counted (milliOf (tokenRatio estimated reported)) n] }

def addMilli (state : RatioRun) (position : Nat) (milli n : UInt64) : RatioRun :=
  let sum := state.alarm.sumMilli + milli
  { state with
    alarm := { state.alarm with sumMilli := sum }
    added := state.added + 1
    calls := state.calls.set position (if n < minSamples then .returned else .summed n sum) }

def loadWarned (state : RatioRun) (position : Nat) (n sum : UInt64) : RatioRun :=
  let mean := meanOf sum n
  { state with
    calls := state.calls.set position
      (if state.alarm.warned then .returned
      else if farFromOne mean then .exchanging mean n
      else .returned) }

def exchangeWarned (state : RatioRun) (position : Nat) (mean : ExactFloat) (n : UInt64) :
    RatioRun :=
  let calls := state.calls.set position .returned
  if state.alarm.warned then { state with calls }
  else
    { state with
      alarm := { state.alarm with warned := true }
      calls
      errors := state.errors ++ [⟨mean, n⟩] }

/-- One atomic operation of one of the calls. -/
def step (state : RatioRun) : RatioEvent → Option RatioRun
  | .increment estimated reported => some (state.begin estimated reported)
  | .add position =>
      match state.calls[position]? with
      | some (.counted milli n) => some (state.addMilli position milli n)
      | _ => none
  | .load position =>
      match state.calls[position]? with
      | some (.summed n sum) => some (state.loadWarned position n sum)
      | _ => none
  | .exchange position =>
      match state.calls[position]? with
      | some (.exchanging mean n) => some (state.exchangeWarned position mean n)
      | _ => none

variable {state next : RatioRun}

theorem step_add {position : Nat} :
    step state (.add position) = some next ↔
      ∃ milli n, state.calls[position]? = some (.counted milli n) ∧
        next = state.addMilli position milli n := by
  dsimp only [step]
  constructor
  · intro stepped
    split at stepped
    · rename_i milli n present
      exact ⟨milli, n, present, (Option.some.inj stepped).symm⟩
    · cases stepped
  · rintro ⟨milli, n, present, rfl⟩
    rw [present]

theorem step_load {position : Nat} :
    step state (.load position) = some next ↔
      ∃ n sum, state.calls[position]? = some (.summed n sum) ∧
        next = state.loadWarned position n sum := by
  dsimp only [step]
  constructor
  · intro stepped
    split at stepped
    · rename_i n sum present
      exact ⟨n, sum, present, (Option.some.inj stepped).symm⟩
    · cases stepped
  · rintro ⟨n, sum, present, rfl⟩
    rw [present]

theorem step_exchange {position : Nat} :
    step state (.exchange position) = some next ↔
      ∃ mean n, state.calls[position]? = some (.exchanging mean n) ∧
        next = state.exchangeWarned position mean n := by
  dsimp only [step]
  constructor
  · intro stepped
    split at stepped
    · rename_i mean n present
      exact ⟨mean, n, present, (Option.some.inj stepped).symm⟩
    · cases stepped
  · rintro ⟨mean, n, present, rfl⟩
    rw [present]

/-! ## A call that is not interrupted -/

section Uninterrupted

variable (state : RatioRun) (estimated reported : UInt32)

/-- The state after a call has counted and added its sample. -/
def recordSample : RatioRun :=
  (state.begin estimated reported).addMilli state.calls.length
    (milliOf (tokenRatio estimated reported)) (state.alarm.samples + 1)

/-- The state after it has also loaded the flag. -/
def recordAndLoad : RatioRun :=
  (state.recordSample estimated reported).loadWarned state.calls.length
    (state.alarm.samples + 1)
    (state.alarm.sumMilli + milliOf (tokenRatio estimated reported))

variable {reported}

theorem begin_of_ne_zero (positive : reported ≠ 0) :
    state.begin estimated reported = { state with
      alarm := { state.alarm with samples := state.alarm.samples + 1 }
      calls := state.calls ++
        [.counted (milliOf (tokenRatio estimated reported)) (state.alarm.samples + 1)] } :=
  if_neg positive

theorem run_recordSample (positive : reported ≠ 0) :
    EventRun.run step state [.increment estimated reported, .add state.calls.length] =
      some (state.recordSample estimated reported) := by
  have present : (state.begin estimated reported).calls[state.calls.length]? =
      some (.counted (milliOf (tokenRatio estimated reported)) (state.alarm.samples + 1)) := by
    rw [begin_of_ne_zero state estimated positive]
    exact List.getElem?_concat_length
  exact EventRun.run_cons_eq_some.mpr ⟨_, rfl,
    EventRun.run_cons_eq_some.mpr ⟨_, step_add.mpr ⟨_, _, present, rfl⟩, rfl⟩⟩

theorem recordSample_alarm (positive : reported ≠ 0) :
    (state.recordSample estimated reported).alarm = { state.alarm with
      samples := state.alarm.samples + 1
      sumMilli := state.alarm.sumMilli + milliOf (tokenRatio estimated reported) } := by
  unfold recordSample
  rw [begin_of_ne_zero state estimated positive]
  rfl

theorem recordSample_errors (positive : reported ≠ 0) :
    (state.recordSample estimated reported).errors = state.errors := by
  unfold recordSample
  rw [begin_of_ne_zero state estimated positive]
  rfl

theorem recordSample_calls (positive : reported ≠ 0)
    (enough : ¬ state.alarm.samples + 1 < minSamples) :
    (state.recordSample estimated reported).calls[state.calls.length]? =
      some (.summed (state.alarm.samples + 1)
        (state.alarm.sumMilli + milliOf (tokenRatio estimated reported))) := by
  unfold recordSample
  rw [begin_of_ne_zero state estimated positive]
  unfold addMilli
  dsimp only
  rw [if_neg enough, List.getElem?_set_self (by simp)]

theorem run_recordAndLoad (positive : reported ≠ 0)
    (enough : ¬ state.alarm.samples + 1 < minSamples) :
    EventRun.run step state
        [.increment estimated reported, .add state.calls.length, .load state.calls.length] =
      some (state.recordAndLoad estimated reported) := by
  have loaded := step_load.mpr ⟨_, _, recordSample_calls state estimated positive enough, rfl⟩
  change EventRun.run step state
    ([.increment estimated reported, .add state.calls.length] ++ [.load _]) = _
  rw [EventRun.run_append_singleton, run_recordSample state estimated positive]
  exact loaded

theorem recordAndLoad_calls (positive : reported ≠ 0)
    (enough : ¬ state.alarm.samples + 1 < minSamples) (unwarned : ¬ state.alarm.warned = true)
    {mean : ExactFloat} (far : farFromOne mean = true)
    (read : meanOf (state.alarm.sumMilli + milliOf (tokenRatio estimated reported))
      (state.alarm.samples + 1) = mean) :
    (state.recordAndLoad estimated reported).calls[state.calls.length]? =
      some (.exchanging mean (state.alarm.samples + 1)) := by
  have waiting := recordSample_calls state estimated positive enough
  have inside := (List.getElem?_eq_some_iff.mp waiting).1
  unfold recordAndLoad loadWarned
  dsimp only
  rw [recordSample_alarm state estimated positive, if_neg unwarned, read, if_pos far,
    List.getElem?_set_self inside]

/-- The operations of a call in a row do what the function does. -/
theorem record_uninterrupted (estimated reported : UInt32) :
    let position := state.calls.length
    let recorded := recordPromptTokenRatio state.alarm estimated reported
    ∃ events last,
      events <+: [.increment estimated reported, .add position, .load position,
        .exchange position] ∧
      EventRun.run step state events = some last ∧ last.alarm = recorded.1 ∧
      last.errors = state.errors ++ recorded.2.toList := by
  dsimp only
  unfold recordPromptTokenRatio WarnOnce.record
  by_cases zero : reported = 0
  · refine ⟨[.increment estimated reported], _, ⟨_, rfl⟩, rfl, ?_⟩
    simp [begin, zero]
  have alarm := recordSample_alarm state estimated zero
  have errors := recordSample_errors state estimated zero
  rw [if_neg zero]
  dsimp only
  by_cases few : state.alarm.samples + 1 < minSamples
  · refine ⟨_, _, ⟨_, rfl⟩, run_recordSample state estimated zero, ?_⟩
    rw [alarm, errors, if_pos (.inl few)]
    simp
  by_cases warned : state.alarm.warned = true
  · refine ⟨_, _, ⟨_, rfl⟩, run_recordAndLoad state estimated zero few, ?_⟩
    change (state.recordSample estimated reported).alarm = _ ∧
      (state.recordSample estimated reported).errors = _
    rw [alarm, errors, if_pos (.inr warned)]
    simp
  rw [if_neg (not_or.mpr ⟨few, warned⟩)]
  generalize read : meanOf (state.alarm.sumMilli + milliOf (tokenRatio estimated reported))
    (state.alarm.samples + 1) = mean
  by_cases far : farFromOne mean = true
  · have exchanged := step_exchange.mpr
      ⟨_, _, recordAndLoad_calls state estimated zero few warned far read, rfl⟩
    have ran : EventRun.run step state ([.increment estimated reported,
        .add state.calls.length, .load state.calls.length] ++ [.exchange state.calls.length]) =
        some ((state.recordAndLoad estimated reported).exchangeWarned state.calls.length mean
          (state.alarm.samples + 1)) := by
      rw [EventRun.run_append_singleton, run_recordAndLoad state estimated zero few]
      exact exchanged
    refine ⟨_, _, ⟨[], rfl⟩, ran, ?_⟩
    unfold exchangeWarned recordAndLoad loadWarned
    dsimp only
    rw [alarm, errors, if_neg warned, if_pos far]
    exact ⟨rfl, rfl⟩
  · refine ⟨_, _, ⟨_, rfl⟩, run_recordAndLoad state estimated zero few, ?_⟩
    change (state.recordSample estimated reported).alarm = _ ∧
      (state.recordSample estimated reported).errors = _
    rw [alarm, errors, if_neg far]
    simp

end Uninterrupted

/-! ## At most one error -/

/-- Nothing is logged before the flag is set, and only the call that sets it logs. -/
structure LoggedOnce (state : RatioRun) : Prop where
  unwarned : state.alarm.warned = false → state.errors = []
  atMostOne : state.errors.length ≤ 1

theorem LoggedOnce.step_preserves {event : RatioEvent} (logged : state.LoggedOnce)
    (stepped : step state event = some next) : next.LoggedOnce := by
  cases event with
  | increment estimated reported =>
      obtain rfl := Option.some.inj stepped
      unfold begin
      split
      · exact logged
      · exact ⟨logged.unwarned, logged.atMostOne⟩
  | add position =>
      obtain ⟨milli, n, -, rfl⟩ := step_add.mp stepped
      exact ⟨logged.unwarned, logged.atMostOne⟩
  | load position =>
      obtain ⟨n, sum, -, rfl⟩ := step_load.mp stepped
      exact ⟨logged.unwarned, logged.atMostOne⟩
  | exchange position =>
      obtain ⟨mean, n, -, rfl⟩ := step_exchange.mp stepped
      unfold exchangeWarned
      dsimp only
      split
      · exact ⟨logged.unwarned, logged.atMostOne⟩
      · rename_i unwarned
        have silent := logged.unwarned (Bool.eq_false_iff.mpr unwarned)
        rw [silent]
        exact ⟨(fun set => by cases set), le_rfl⟩

theorem loggedOnce_run {events : List RatioEvent}
    (executed : EventRun.run step initial events = some state) : state.LoggedOnce :=
  EventRun.run_preserves (fun _ _ _ => LoggedOnce.step_preserves)
    (⟨fun _ => rfl, Nat.zero_le 1⟩ : initial.LoggedOnce) executed

end RatioRun

/-! ## No error -/

/-- The recorded ratio lies within a tenth of one. -/
def RatioEvent.Close : RatioEvent → Prop
  | .increment estimated reported => reported ≠ 0 →
      9 / 10 ≤ (estimated.toNat : ℚ) / reported.toNat ∧
        (estimated.toNat : ℚ) / reported.toNat ≤ 11 / 10
  | _ => True

instance : DecidablePred RatioEvent.Close
  | .increment estimated reported => inferInstanceAs (Decidable (reported ≠ 0 →
      9 / 10 ≤ (estimated.toNat : ℚ) / reported.toNat ∧
        (estimated.toNat : ℚ) / reported.toNat ≤ 11 / 10))
  | .add _ => isTrue trivial
  | .load _ => isTrue trivial
  | .exchange _ => isTrue trivial

/-- The sum of as many samples, each within a tenth of one, in thousandths. -/
def CloseSum (sum n : Nat) : Prop := 900 * n ≤ sum ∧ sum ≤ 1100 * n

theorem farFromOne_of_closeSum {sum n : UInt64} (positive : n ≠ 0)
    (close : CloseSum sum.toNat n.toNat) : farFromOne (meanOf sum n) = false := by
  have nPositive : (0 : ℚ) < n.toNat := by
    exact_mod_cast Nat.pos_of_ne_zero (UInt64.toNat_ne_zero positive)
  have least : (900 : ℚ) * n.toNat ≤ sum.toNat := by exact_mod_cast close.1
  have most : (sum.toNat : ℚ) ≤ 1100 * n.toNat := by exact_mod_cast close.2
  have above : 9 / 10 ≤ (sum.toNat : ℚ) / 1000 / n.toNat := by
    rw [le_div_iff₀ nPositive]
    linarith
  have below : (sum.toNat : ℚ) / 1000 / n.toNat ≤ 11 / 10 := by
    rw [div_le_iff₀ nPositive]
    linarith
  have near : |(sum.toNat : ℚ) / 1000 / n.toNat - 1| ≤ 1 / 10 := by
    rw [abs_le]
    constructor <;> linarith
  have difference : (ExactFloat.finite ((sum.toNat : ℚ) / 1000 / n.toNat) - 1).abs =
      .finite |(sum.toNat : ℚ) / 1000 / n.toNat - 1| := by
    rw [ExactFloat.ofNat_eq, ExactFloat.finite_sub]
    simp [ExactFloat.abs]
  rw [farFromOne, meanOf_eq_finite sum positive, difference, tolerance, decide_eq_false_iff_not,
    ExactFloat.finite_lt_finite]
  exact not_lt.mpr near

theorem closeSum_of_close {estimated reported : UInt32} (positive : reported ≠ 0)
    (close : (RatioEvent.increment estimated reported).Close) :
    CloseSum (milliOf (tokenRatio estimated reported)).toNat 1 := by
  obtain ⟨above, below⟩ := close positive
  have nonzero : (reported.toNat : ℚ) ≠ 0 :=
    Nat.cast_ne_zero.mpr (UInt32.toNat_ne_zero positive)
  have ratio : tokenRatio estimated reported =
      .finite ((estimated.toNat : ℚ) / reported.toNat) := ExactFloat.finite_div nonzero
  rw [ratio]
  apply toNat_milliOf_bounds (by decide)
  · push_cast
    linarith
  · push_cast
    linarith

/-- A call knows a sample close to one, or a close sum of as many as it counted. -/
def RatioCall.Calm : RatioCall → Prop
  | .counted milli _ => CloseSum milli.toNat 1
  | .summed n sum => n ≠ 0 ∧ CloseSum sum.toNat n.toNat
  | .exchanging _ _ => False
  | .returned => True

namespace RatioRun

/-- An addition does not overflow the sum, and from the fiftieth sample on it is
the addition with the number that the call has taken. -/
def Paired (state : RatioRun) : RatioEvent → Prop
  | .add position => ∀ milli n, state.calls[position]? = some (.counted milli n) →
      state.alarm.sumMilli.toNat + milli.toNat < 2 ^ 64 ∧
        (minSamples ≤ n → n.toNat = state.added + 1)
  | _ => True

instance instDecidablePaired (state : RatioRun) : ∀ event, Decidable (state.Paired event)
  | .add position =>
      match present : state.calls[position]? with
      | some (.counted milli n) =>
          decidable_of_iff (state.alarm.sumMilli.toNat + milli.toNat < 2 ^ 64 ∧
              (minSamples ≤ n → n.toNat = state.added + 1))
            ⟨fun paired _ _ found => by
              rw [present] at found
              cases found
              exact paired,
            fun paired => paired milli n present⟩
      | some (.summed _ _) | some (.exchanging _ _) | some .returned | none =>
          isTrue fun _ _ found => by
            rw [present] at found
            cases found
  | .increment _ _ | .load _ | .exchange _ => isTrue trivial

structure Calm (state : RatioRun) : Prop where
  sum : CloseSum state.alarm.sumMilli.toNat state.added
  calls : EachAt (fun _ call => call.Calm) state.calls
  silent : state.errors = []

theorem Calm.initial : RatioRun.initial.Calm := ⟨⟨le_rfl, le_rfl⟩, .nil, rfl⟩

variable {state next : RatioRun}

theorem Calm.begin (calm : state.Calm) {estimated reported : UInt32}
    (close : (RatioEvent.increment estimated reported).Close) :
    (state.begin estimated reported).Calm := by
  unfold RatioRun.begin
  split
  · exact calm
  · rename_i positive
    exact ⟨calm.sum, calm.calls.append_singleton (closeSum_of_close positive close), calm.silent⟩

theorem Calm.addMilli (calm : state.Calm) {position : Nat} {milli n : UInt64}
    (present : state.calls[position]? = some (.counted milli n))
    (paired : state.Paired (.add position)) : (state.addMilli position milli n).Calm := by
  obtain ⟨fits, numbered⟩ := paired milli n present
  have sample : CloseSum milli.toNat 1 := calm.calls position _ present
  have total : CloseSum (state.alarm.sumMilli + milli).toNat (state.added + 1) := by
    obtain ⟨sumAbove, sumBelow⟩ := calm.sum
    obtain ⟨above, below⟩ := sample
    rw [UInt64.toNat_add, Nat.mod_eq_of_lt fits]
    constructor <;> omega
  refine ⟨total, calm.calls.set ?_, calm.silent⟩
  split
  · trivial
  · rename_i enough
    have many : minSamples ≤ n := UInt64.not_lt.mp enough
    constructor
    · rintro rfl
      exact absurd many (by decide)
    · rw [numbered many]
      exact total

theorem Calm.loadWarned (calm : state.Calm) {position : Nat} {n sum : UInt64}
    (present : state.calls[position]? = some (.summed n sum)) :
    (state.loadWarned position n sum).Calm := by
  obtain ⟨positive, close⟩ : n ≠ 0 ∧ CloseSum sum.toNat n.toNat :=
    calm.calls position _ present
  refine ⟨calm.sum, calm.calls.set ?_, calm.silent⟩
  rw [farFromOne_of_closeSum positive close]
  split <;> trivial

theorem Calm.step_preserves {event : RatioEvent} (allowed : state.Paired event ∧ event.Close)
    (calm : state.Calm) (stepped : step state event = some next) : next.Calm := by
  cases event with
  | increment estimated reported =>
      obtain rfl := Option.some.inj stepped
      exact calm.begin allowed.2
  | add position =>
      obtain ⟨milli, n, present, rfl⟩ := step_add.mp stepped
      exact calm.addMilli present allowed.1
  | load position =>
      obtain ⟨n, sum, present, rfl⟩ := step_load.mp stepped
      exact calm.loadWarned present
  | exchange position =>
      obtain ⟨mean, n, present, -⟩ := step_exchange.mp stepped
      exact (calm.calls position _ present).elim

/-- Ratios near one are never reported, and of all calls at most one reports. -/
structure NeverCriesWolf (events : List RatioEvent) (state : RatioRun) : Prop where
  silent : (∀ event ∈ events, event.Close) → state.errors = []
  once : state.errors.length ≤ 1

/-- In every run in which each call adds its sample in its turn, the alarm never
cries wolf. -/
theorem never_cries_wolf {events : List RatioEvent}
    (allowed : EventRun.Guarded step Paired RatioRun.initial events)
    (executed : EventRun.run step RatioRun.initial events = some state) :
    state.NeverCriesWolf events where
  silent close := by
    have calm : state.Calm := EventRun.run_preserves_of_guarded
      (fun _ _ _ allowed calm stepped => calm.step_preserves allowed stepped)
      (allowed.and_forall close) .initial executed
    exact calm.silent
  once := (loggedOnce_run executed).atMostOne

/-- Two calls that add in the other order, forty-six calls one after the other,
and four calls that overlap as the alarm begins to compare. -/
def overlapping : List RatioEvent :=
  [RatioEvent.increment 10 10, .increment 9 10, .add 1, .add 0] ++
    ((List.range 46).flatMap fun later => [RatioEvent.increment 11 10, .add (2 + later)]) ++
    [RatioEvent.increment 9 10, .increment 11 10, .add 48, .add 49, .increment 10 10,
      .increment 11 10, .load 49, .add 50, .add 51, .load 51, .load 50]

theorem overlapping_never_cries_wolf :
    (∀ event ∈ overlapping, event.Close) ∧
      ∃ state, EventRun.run step RatioRun.initial overlapping = some state ∧
        state.alarm.samples = 52 ∧ state.NeverCriesWolf overlapping := by
  have close : ∀ event ∈ overlapping, event.Close := by decide +kernel
  have allowed : EventRun.Guarded step Paired RatioRun.initial overlapping := by decide +kernel
  have counted : (EventRun.run step RatioRun.initial overlapping).map
      (fun state => state.alarm.samples) = some 52 := by decide +kernel
  obtain ⟨state, executed, samples⟩ := Option.map_eq_some_iff.mp counted
  exact ⟨close, state, executed, samples, never_cries_wolf allowed executed⟩

/-- Forty-nine calls, a fiftieth one that stops after counting, six more calls,
and then the rest of the fiftieth. -/
def lateAddition : List RatioEvent :=
  ((List.range 49).flatMap fun position => [RatioEvent.increment 10 10, .add position]) ++
    [RatioEvent.increment 10 10] ++
    ((List.range 6).flatMap fun later => [RatioEvent.increment 10 10, .add (50 + later)]) ++
    [RatioEvent.add 49, .load 49, .exchange 49]

theorem late_addition_cries_wolf :
    (∀ event ∈ lateAddition, event.Close) ∧
      ∃ state, EventRun.run step RatioRun.initial lateAddition = some state ∧
        ¬ state.NeverCriesWolf lateAddition := by
  have close : ∀ event ∈ lateAddition, event.Close := by decide +kernel
  have logged : (EventRun.run step RatioRun.initial lateAddition).map RatioRun.errors =
      some [⟨.finite (28 / 25), 50⟩] := by decide +kernel
  obtain ⟨state, executed, errors⟩ := Option.map_eq_some_iff.mp logged
  refine ⟨close, state, executed, ?_⟩
  intro calm
  rw [calm.silent close] at errors
  cases errors

end RatioRun

end KeelRouter
