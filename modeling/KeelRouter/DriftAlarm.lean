import KeelRouter.EventRun
import KeelRouter.KeyedSum
import KeelRouter.WarnOnce

/-!
# The projection drift alarm

The samples of all backends go into one running mean, and the warning carries
the label of the backend whose sample came last.  The label is right, and no
drifting backend is missed, as long as all backends are on one side of the
range: then so is the mean of them all.
-/

namespace KeelRouter

structure ProjectionDrift where
  meanRatio : ExactFloat
  samples : UInt64
  warnRatio : ExactFloat
  backend : String
deriving DecidableEq

def ProjectionDrift.message (showMean : ExactFloat → String) (drift : ProjectionDrift) :
    String :=
  "PROJECTION DRIFT: router projection is " ++ showMean drift.meanRatio ++
    "x the backend reported KV " ++
    "usage. Three benign causes to check before assuming a bug: " ++
    "(1) Wrong kv_model — prompt_only vs prompt_plus_output changes the " ++
    "projection by the output/prompt ratio; " ++
    "(2) Block rounding — the backend allocates ceil(tokens/block_size)*block_size " ++
    "but the router projects raw tokens, causing a few-percent under-projection " ++
    "on short prompts; " ++
    "(3) Prefix deduplication — identical prompts share blocks so the backend " ++
    "reports far less than the router projects under prefix-heavy traffic, " ++
    "and that is the prefix cache working correctly, not drift. " ++
    "If none of these apply, check kv_capacity_tokens in the router config."

/-- `mean < lo || mean > hi` -/
def driftsFrom (warnRatio mean : ExactFloat) : Bool :=
  let lo := 1 / warnRatio
  let hi := warnRatio
  decide (mean < lo) || decide (hi < mean)

/-- `observe::record_projection_drift`, not interrupted by another call -/
def recordProjectionDrift (alarm : WarnOnce) (backendKey : String)
    (ratio warnRatio : ExactFloat) : WarnOnce × Option ProjectionDrift :=
  let (alarm, warning) := alarm.record ratio (driftsFrom warnRatio)
  (alarm, warning.map fun (mean, n) => ⟨mean, n, warnRatio, backendKey⟩)

/-! ## Means and the range -/

/-- A sample with the key of its backend. -/
abbrev DriftSample := String × ℚ

/-- Where a mean lies from the range. -/
inductive Side where
  | below
  | inside
  | above
deriving DecidableEq

def sideOf (warnRatio mean : ℚ) : Side :=
  if mean < 1 / warnRatio then .below else if warnRatio < mean then .above else .inside

/-- The mean of an amount over the samples with a key. -/
def meanOver {κ : Type} [DecidableEq κ] (key : DriftSample → κ) (amount : DriftSample → ℚ)
    (samples : List DriftSample) (target : κ) : ℚ :=
  keyedSum key amount samples target / keyedSum key (fun _ => 1) samples target

section Means

variable {κ : Type} [DecidableEq κ] (key : DriftSample → κ) (amount : DriftSample → ℚ)

theorem keyedSum_sub (samples : List DriftSample) (bound : ℚ) (target : κ) :
    keyedSum key (fun sample => amount sample - bound) samples target =
      keyedSum key amount samples target -
        bound * keyedSum key (fun _ => 1) samples target := by
  induction samples with
  | nil => simp
  | cons sample samples ih =>
      rw [keyedSum_cons, keyedSum_cons, keyedSum_cons, ih]
      split <;> ring

variable {key} {samples : List DriftSample}

theorem keyedSum_one_pos {sample : DriftSample} (member : sample ∈ samples) :
    0 < keyedSum key (fun _ => (1 : ℚ)) samples (key sample) := by
  have own : sample ∈ samples.filter fun other => key other = key sample := by
    simp [member]
  rw [keyedSum, List.map_const', List.sum_replicate, nsmul_one]
  exact_mod_cast List.length_pos_of_mem own

variable {amount}

theorem lt_meanOver_iff {sample : DriftSample} (member : sample ∈ samples) (bound : ℚ) :
    bound < meanOver key amount samples (key sample) ↔
      0 < keyedSum key (fun sample => amount sample - bound) samples (key sample) := by
  rw [meanOver, lt_div_iff₀ (keyedSum_one_pos member), keyedSum_sub, sub_pos]

theorem meanOver_lt_iff {sample : DriftSample} (member : sample ∈ samples) (bound : ℚ) :
    meanOver key amount samples (key sample) < bound ↔
      keyedSum key (fun sample => amount sample - bound) samples (key sample) < 0 := by
  rw [meanOver, div_lt_iff₀ (keyedSum_one_pos member), keyedSum_sub, sub_neg]

theorem sideOf_eq_below {warnRatio mean : ℚ} :
    sideOf warnRatio mean = .below ↔ mean < 1 / warnRatio := by
  unfold sideOf
  split
  · simp_all
  · split <;> simp_all

theorem sideOf_eq_above {warnRatio mean : ℚ} :
    sideOf warnRatio mean = .above ↔ ¬ mean < 1 / warnRatio ∧ warnRatio < mean := by
  unfold sideOf
  split
  · simp_all
  · split <;> simp_all

theorem sideOf_eq_inside {warnRatio mean : ℚ} :
    sideOf warnRatio mean = .inside ↔ ¬ mean < 1 / warnRatio ∧ ¬ warnRatio < mean := by
  unfold sideOf
  split
  · simp_all
  · split <;> simp_all

/-- A comparison that reads the sign of the distances from a bound holds of the
mean of all samples if it holds of the mean of every key. -/
theorem pooled_of_keys (bound : ℚ) (Q P : ℚ → Prop)
    (add : ∀ first second, P first → P second → P (first + second))
    (read : ∀ {κ : Type} [DecidableEq κ] {key : DriftSample → κ}, ∀ sample ∈ samples,
      Q (meanOver key amount samples (key sample)) ↔
        P (keyedSum key (fun sample => amount sample - bound) samples (key sample)))
    (nonempty : samples ≠ [])
    (each : ∀ sample ∈ samples, Q (meanOver key amount samples (key sample))) :
    Q (meanOver (fun _ => ()) amount samples ()) := by
  have total : keyedSum (fun _ => ()) (fun sample => amount sample - bound) samples () =
      (samples.map fun sample => amount sample - bound).sum := by
    simp [keyedSum]
  obtain ⟨first, member⟩ := List.exists_mem_of_ne_nil samples nonempty
  have compare : Q (meanOver (fun _ => ()) amount samples ()) ↔ _ := read first member
  rw [compare, total]
  refine sum_of_keyedSum key _ add nonempty ?_
  intro sample listed
  exact (read sample listed).mp (each sample listed)

section Pooled

variable (nonempty : samples ≠ []) {bound : ℚ}
include nonempty

theorem pooled_lt
    (each : ∀ sample ∈ samples, meanOver key amount samples (key sample) < bound) :
    meanOver (fun _ => ()) amount samples () < bound := by
  refine pooled_of_keys bound (· < bound) (· < 0) (fun _ _ => add_neg) ?_ nonempty each
  intro κ _ key sample listed
  exact meanOver_lt_iff listed bound

theorem not_pooled_lt
    (each : ∀ sample ∈ samples, ¬ meanOver key amount samples (key sample) < bound) :
    ¬ meanOver (fun _ => ()) amount samples () < bound := by
  refine pooled_of_keys bound (¬ · < bound) (0 ≤ ·) (fun _ _ => add_nonneg) ?_ nonempty each
  intro κ _ key sample listed
  rw [meanOver_lt_iff listed bound, not_lt]

theorem lt_pooled
    (each : ∀ sample ∈ samples, bound < meanOver key amount samples (key sample)) :
    bound < meanOver (fun _ => ()) amount samples () := by
  refine pooled_of_keys bound (bound < ·) (0 < ·) (fun _ _ => add_pos) ?_ nonempty each
  intro κ _ key sample listed
  exact lt_meanOver_iff listed bound

theorem not_lt_pooled
    (each : ∀ sample ∈ samples, ¬ bound < meanOver key amount samples (key sample)) :
    ¬ bound < meanOver (fun _ => ()) amount samples () := by
  refine pooled_of_keys bound (¬ bound < ·) (· ≤ 0) (fun _ _ => add_nonpos) ?_ nonempty each
  intro κ _ key sample listed
  rw [lt_meanOver_iff listed bound, not_lt]

/-- Means of all keys on one side of the range put the mean of all samples there. -/
theorem sideOf_pooled {warnRatio : ℚ} {side : Side}
    (each : ∀ sample ∈ samples,
      sideOf warnRatio (meanOver key amount samples (key sample)) = side) :
    sideOf warnRatio (meanOver (fun _ => ()) amount samples ()) = side := by
  cases side with
  | below =>
      simp only [sideOf_eq_below] at each ⊢
      exact pooled_lt nonempty each
  | inside =>
      simp only [sideOf_eq_inside] at each ⊢
      exact ⟨not_pooled_lt nonempty fun sample listed => (each sample listed).1,
        not_lt_pooled nonempty fun sample listed => (each sample listed).2⟩
  | above =>
      simp only [sideOf_eq_above] at each ⊢
      exact ⟨not_pooled_lt nonempty fun sample listed => (each sample listed).1,
        lt_pooled nonempty fun sample listed => (each sample listed).2⟩

end Pooled

end Means

theorem driftsFrom_iff {warnRatio : ℚ} (positive : 0 < warnRatio) (mean : ℚ) :
    driftsFrom (.finite warnRatio) (.finite mean) = true ↔ sideOf warnRatio mean ≠ .inside := by
  have lowest : (1 : ExactFloat) / .finite warnRatio = .finite (1 / warnRatio) := by
    rw [ExactFloat.ofNat_eq, ExactFloat.finite_div positive.ne']
    norm_num
  unfold driftsFrom
  rw [Ne, sideOf_eq_inside, lowest]
  simp only [Bool.or_eq_true, decide_eq_true_iff, ExactFloat.finite_lt_finite]
  tauto

/-! ## Runs of samples -/

/-- The sample as the alarm counts it, rounded to thousandths. -/
def countedAmount (sample : DriftSample) : ℚ :=
  ((milliOf (.finite sample.2)).toNat : ℚ) / 1000

theorem sum_countedAmount (samples : List DriftSample) :
    (samples.map countedAmount).sum =
      (((samples.map fun sample => (milliOf (.finite sample.2)).toNat).sum : ℕ) : ℚ) / 1000 := by
  induction samples with
  | nil => simp
  | cons sample samples ih =>
      rw [List.map_cons, List.sum_cons, ih, List.map_cons, List.sum_cons, countedAmount]
      push_cast
      ring

theorem meanOver_unit (amount : DriftSample → ℚ) (samples : List DriftSample) :
    meanOver (fun _ => ()) amount samples () = (samples.map amount).sum / samples.length := by
  simp [meanOver, keyedSum]

/-- The alarm, all samples so far, and the warnings with the samples that each
of them came after. -/
structure DriftRun where
  alarm : WarnOnce
  samples : List DriftSample
  warnings : List (ProjectionDrift × List DriftSample)

namespace DriftRun

def initial : DriftRun := ⟨.initial, [], []⟩

/-- One call of `record_projection_drift`. -/
def step (warnRatio : ℚ) (state : DriftRun) (sample : DriftSample) : Option DriftRun :=
  let (alarm, warning) :=
    recordProjectionDrift state.alarm sample.1 (.finite sample.2) (.finite warnRatio)
  let samples := state.samples ++ [sample]
  some { alarm, samples, warnings := state.warnings ++ warning.toList.map fun drift =>
    (drift, samples) }

/-- The mean of the samples recorded for a backend so far. -/
def ownMean (samples : List DriftSample) (backendKey : String) : ℚ :=
  meanOver Prod.fst Prod.snd samples backendKey

/-- Every backend's mean is on the same side of the range, rounded or not. -/
def OneSided (warnRatio : ℚ) (samples : List DriftSample) : Prop :=
  ∃ side ∈ [Side.below, .inside, .above], ∀ sample ∈ samples,
    sideOf warnRatio (ownMean samples sample.1) = side ∧
      sideOf warnRatio (meanOver Prod.fst countedAmount samples sample.1) = side

instance (warnRatio : ℚ) (samples : List DriftSample) : Decidable (OneSided warnRatio samples) :=
  inferInstanceAs (Decidable (∃ side ∈ [Side.below, .inside, .above], ∀ sample ∈ samples,
    sideOf warnRatio (ownMean samples sample.1) = side ∧
      sideOf warnRatio (meanOver Prod.fst countedAmount samples sample.1) = side))

/-- The counters do not overflow, and until the warning all backends with
samples are on one side of the range, from the fiftieth sample on. -/
def Allowed (warnRatio : ℚ) (state : DriftRun) (sample : DriftSample) : Prop :=
  state.alarm.samples.toNat + 1 < 2 ^ 64 ∧
    state.alarm.sumMilli.toNat + (milliOf (.finite sample.2)).toNat < 2 ^ 64 ∧
    (state.alarm.warned = false → 50 ≤ state.samples.length + 1 →
      OneSided warnRatio (state.samples ++ [sample]))

instance (warnRatio : ℚ) (state : DriftRun) (sample : DriftSample) :
    Decidable (Allowed warnRatio state sample) :=
  inferInstanceAs (Decidable (state.alarm.samples.toNat + 1 < 2 ^ 64 ∧
    state.alarm.sumMilli.toNat + (milliOf (.finite sample.2)).toNat < 2 ^ 64 ∧
    (state.alarm.warned = false → 50 ≤ state.samples.length + 1 →
      OneSided warnRatio (state.samples ++ [sample]))))

/-- A warning names a backend whose own mean is outside the range, and no
backend's is after fifty samples unless there was a warning. -/
structure NamesDrifting (warnRatio : ℚ) (state : DriftRun) : Prop where
  sound : ∀ warning ∈ state.warnings,
    sideOf warnRatio (ownMean warning.2 warning.1.backend) ≠ .inside
  complete : ∀ backendKey,
    50 ≤ (state.samples.filter fun sample => sample.1 = backendKey).length →
      sideOf warnRatio (ownMean state.samples backendKey) ≠ .inside → state.warnings ≠ []

structure Tracked (warnRatio : ℚ) (state : DriftRun) : Prop where
  counted : state.alarm.samples.toNat = state.samples.length
  summed : state.alarm.sumMilli.toNat =
    (state.samples.map fun sample => (milliOf (.finite sample.2)).toNat).sum
  unwarned : state.alarm.warned = true → state.warnings ≠ []
  names : state.NamesDrifting warnRatio

/-- The alarm after one more sample, before it compares. -/
def countSample (alarm : WarnOnce) (sample : DriftSample) : WarnOnce :=
  { alarm with
    samples := alarm.samples + 1
    sumMilli := alarm.sumMilli + milliOf (.finite sample.2) }

variable {warnRatio : ℚ} {state next : DriftRun} {sample : DriftSample}

theorem step_quiet (quiet : state.alarm.samples + 1 < minSamples ∨ state.alarm.warned = true) :
    step warnRatio state sample = some
      ⟨countSample state.alarm sample, state.samples ++ [sample], state.warnings⟩ := by
  unfold step recordProjectionDrift WarnOnce.record
  dsimp only
  rw [if_pos quiet]
  simp [countSample]

theorem step_compare (loud : ¬ (state.alarm.samples + 1 < minSamples ∨ state.alarm.warned = true))
    (drifts : Bool)
    (compared : driftsFrom (.finite warnRatio) (meanOf (countSample state.alarm sample).sumMilli
      (countSample state.alarm sample).samples) = drifts) :
    ∃ warning : ProjectionDrift, warning.backend = sample.1 ∧
      step warnRatio state sample = some
        ⟨{ countSample state.alarm sample with warned := drifts }, state.samples ++ [sample],
          state.warnings ++ if drifts then [(warning, state.samples ++ [sample])] else []⟩ := by
  have unwarned : state.alarm.warned = false :=
    Bool.eq_false_iff.mpr fun warned => loud (.inr warned)
  refine ⟨⟨meanOf (countSample state.alarm sample).sumMilli
    (countSample state.alarm sample).samples, (countSample state.alarm sample).samples,
    .finite warnRatio, sample.1⟩, rfl, ?_⟩
  unfold countSample at compared ⊢
  unfold step recordProjectionDrift WarnOnce.record
  dsimp only at compared ⊢
  rw [if_neg loud, compared]
  cases drifts with
  | false => simp [unwarned]
  | true => simp

theorem Tracked.initial : DriftRun.initial.Tracked warnRatio where
  counted := rfl
  summed := rfl
  unwarned warned := by cases warned
  names := {
    sound := fun _ listed => by cases listed
    complete := fun _ many => by cases many }

section Step

variable (positive : 0 < warnRatio) (tracked : state.Tracked warnRatio)
  (allowed : Allowed warnRatio state sample)

include tracked allowed

theorem counted_countSample :
    (countSample state.alarm sample).samples.toNat = (state.samples ++ [sample]).length := by
  obtain ⟨fits, -, -⟩ := allowed
  change (state.alarm.samples + 1).toNat = _
  rw [UInt64.toNat_add, UInt64.toNat_one, Nat.mod_eq_of_lt fits, tracked.counted,
    List.length_append, List.length_singleton]

theorem summed_countSample :
    (countSample state.alarm sample).sumMilli.toNat =
      ((state.samples ++ [sample]).map fun sample => (milliOf (.finite sample.2)).toNat).sum := by
  obtain ⟨-, fits, -⟩ := allowed
  change (state.alarm.sumMilli + milliOf (.finite sample.2)).toNat = _
  rw [UInt64.toNat_add, Nat.mod_eq_of_lt fits, tracked.summed, List.map_append, List.sum_append]
  simp

/-- What the alarm compares is the mean of all samples, rounded one by one. -/
theorem meanOf_countSample :
    meanOf (countSample state.alarm sample).sumMilli (countSample state.alarm sample).samples =
      .finite (meanOver (fun _ => ()) countedAmount (state.samples ++ [sample]) ()) := by
  have counted := counted_countSample tracked allowed
  have summed := summed_countSample tracked allowed
  have nonzero : (countSample state.alarm sample).samples ≠ 0 := by
    intro zero
    rw [zero] at counted
    simp at counted
  rw [meanOf_eq_finite _ nonzero, counted, summed]
  rw [meanOver_unit, sum_countedAmount]

/-- The alarm knows whether fifty samples have been counted. -/
theorem few_iff : state.alarm.samples + 1 < minSamples ↔ state.samples.length + 1 < 50 := by
  have counted := counted_countSample tracked allowed
  rw [List.length_append, List.length_singleton] at counted
  rw [UInt64.lt_iff_toNat_lt, ← counted]
  rfl

theorem Tracked.of_quiet
    (quiet : state.alarm.samples + 1 < minSamples ∨ state.alarm.warned = true) :
    (⟨countSample state.alarm sample, state.samples ++ [sample], state.warnings⟩ :
      DriftRun).Tracked warnRatio := by
  refine ⟨counted_countSample tracked allowed, summed_countSample tracked allowed,
    tracked.unwarned, tracked.names.sound, ?_⟩
  intro backendKey many _
  rcases quiet with few | warned
  · have total := List.length_filter_le (fun sample => decide (sample.1 = backendKey))
      (state.samples ++ [sample])
    rw [List.length_append, List.length_singleton] at total
    have below := (few_iff tracked allowed).mp few
    dsimp only at many
    omega
  · exact tracked.unwarned warned

/-- A warning after the backends were on one side outside the range names one
that drifts, and without a warning none does. -/
theorem Tracked.of_compare {side : Side} {warning : ProjectionDrift}
    (oneSided : ∀ other ∈ state.samples ++ [sample],
      sideOf warnRatio (ownMean (state.samples ++ [sample]) other.1) = side)
    (named : warning.backend = sample.1) :
    (⟨{ countSample state.alarm sample with warned := decide (side ≠ .inside) },
      state.samples ++ [sample],
      state.warnings ++
        if decide (side ≠ .inside) then [(warning, state.samples ++ [sample])] else []⟩ :
      DriftRun).Tracked warnRatio := by
  refine ⟨counted_countSample tracked allowed, summed_countSample tracked allowed, ?_, ?_, ?_⟩
  · intro warned
    have outside : decide (side ≠ .inside) = true := warned
    simp [outside]
  · intro logged listed
    rcases List.mem_append.mp listed with earlier | new
    · exact tracked.names.sound logged earlier
    · by_cases outside : side = .inside
      · simp [outside] at new
      · obtain rfl : logged = (warning, state.samples ++ [sample]) := by
          simpa [outside] using new
        rw [named, oneSided sample (by simp)]
        exact outside
  · intro backendKey many outside
    obtain ⟨own, member⟩ :=
      List.exists_mem_of_length_pos (Nat.lt_of_lt_of_le (by decide : 0 < 50) many)
    obtain ⟨listed, keyed⟩ := List.mem_filter.mp member
    have ownSide := oneSided own listed
    rw [of_decide_eq_true keyed] at ownSide
    have drifting : side ≠ .inside := ownSide ▸ outside
    simp [drifting]

include positive

theorem Tracked.step_preserves (stepped : step warnRatio state sample = some next) :
    next.Tracked warnRatio := by
  by_cases quiet : state.alarm.samples + 1 < minSamples ∨ state.alarm.warned = true
  · obtain rfl := Option.some.inj ((step_quiet quiet).symm.trans stepped)
    exact tracked.of_quiet allowed quiet
  · obtain ⟨enough, unwarned⟩ := not_or.mp quiet
    rw [few_iff tracked allowed, not_lt] at enough
    obtain ⟨side, -, oneSided⟩ := allowed.2.2 (Bool.eq_false_iff.mpr unwarned) enough
    have pooled := sideOf_pooled (List.append_ne_nil_of_right_ne_nil state.samples
      (List.cons_ne_nil sample [])) fun sample listed => (oneSided sample listed).2
    have drifts : driftsFrom (.finite warnRatio) (meanOf (countSample state.alarm sample).sumMilli
        (countSample state.alarm sample).samples) = decide (side ≠ .inside) := by
      rw [meanOf_countSample tracked allowed, Bool.eq_iff_iff, driftsFrom_iff positive, pooled,
        decide_eq_true_iff]
    obtain ⟨warning, named, compared⟩ := step_compare quiet _ drifts
    obtain rfl := Option.some.inj (compared.symm.trans stepped)
    exact tracked.of_compare allowed (fun other listed => (oneSided other listed).1) named

end Step

/-- In every run in which the backends are on one side of the range whenever
the alarm compares, its warning names a drifting backend and misses none. -/
theorem names_drifting {events : List DriftSample} (above : 1 < warnRatio)
    (allowed : EventRun.Guarded (step warnRatio) (Allowed warnRatio) DriftRun.initial events)
    (executed : EventRun.run (step warnRatio) DriftRun.initial events = some state) :
    state.NamesDrifting warnRatio := by
  have positive : 0 < warnRatio := by linarith
  have tracked : state.Tracked warnRatio := EventRun.run_preserves_of_guarded
    (fun _ _ _ allowed tracked stepped => tracked.step_preserves positive allowed stepped)
    allowed .initial executed
  exact tracked.names

/-! ## Two runs -/

/-- Fifty samples each of two backends that are projected too high, the one on
the average only, and after the warning a sample of a third one that is right. -/
def interleaved : List DriftSample :=
  (List.replicate 25 [("a", 4), ("b", 3), ("a", 1), ("b", 3)]).flatten ++ [("c", 1)]

theorem interleaved_named :
    ∃ state, EventRun.run (step 2) DriftRun.initial interleaved = some state ∧
      state.warnings.map (fun warning => warning.1.backend) = ["b"] ∧ state.NamesDrifting 2 := by
  have allowed : EventRun.Guarded (step 2) (Allowed 2) DriftRun.initial interleaved := by
    decide +kernel
  have labels : (EventRun.run (step 2) DriftRun.initial interleaved).map (fun state =>
      state.warnings.map fun warning => warning.1.backend) = some ["b"] := by decide +kernel
  obtain ⟨state, executed, labelled⟩ := Option.map_eq_some_iff.mp labels
  exact ⟨state, executed, labelled, names_drifting (by norm_num) allowed executed⟩

/-- Forty-nine samples of a drifting backend, and one of another that is right. -/
def lastSampleRight : List DriftSample := List.replicate 49 ("a", 10) ++ [("b", 1)]

theorem last_sample_blamed :
    ∃ state, EventRun.run (step 2) DriftRun.initial lastSampleRight = some state ∧
      ¬ state.NamesDrifting 2 := by
  have labels : (EventRun.run (step 2) DriftRun.initial lastSampleRight).map (fun state =>
      state.warnings.map fun warning => (warning.1.backend, ownMean warning.2 "b")) =
        some [("b", 1)] := by decide +kernel
  obtain ⟨state, executed, labelled⟩ := Option.map_eq_some_iff.mp labels
  refine ⟨state, executed, ?_⟩
  intro names
  obtain ⟨warning, listed, blamed⟩ := List.mem_map.mp
    (labelled ▸ List.mem_singleton_self _ : ("b", 1) ∈ state.warnings.map fun warning =>
      (warning.1.backend, ownMean warning.2 "b"))
  obtain ⟨label, mean⟩ := Prod.mk.inj blamed
  apply names.sound warning listed
  rw [label, mean]
  decide +kernel

end DriftRun

end KeelRouter
