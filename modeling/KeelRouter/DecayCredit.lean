import KeelRouter.LengthEstimator
import Mathlib.Analysis.SpecialFunctions.Pow.Real
import Mathlib.Tactic.Linarith

/-!
# The time that observations are decayed for

A call of `observe` takes its time before it takes the lock, so that the calls
on a key are applied in any order of their times.  Each one credits the time
since the last call that was applied.  Where that call went back in time, the
next one credits an interval that has been credited before.
-/

namespace KeelRouter

/-- One call of `observe`: the tokens, and the time that was taken before the lock. -/
structure ObserveCall where
  completionTokens : UInt32
  nowS : ℝ

namespace RouteHistograms

/-- The calls on a key in the order in which they take the lock. -/
noncomputable def applyAll (self : RouteHistograms ℝ) (key : RouteKey)
    (calls : List ObserveCall) : RouteHistograms ℝ :=
  calls.foldl (fun hists call => hists.observe key call.completionTokens call.nowS) self

end RouteHistograms

namespace DecayingQuantile

noncomputable def observeCalls (self : DecayingQuantile ℝ) (calls : List ObserveCall) :
    DecayingQuantile ℝ :=
  calls.foldl (fun quantile call => quantile.observe call.completionTokens call.nowS) self

/-- The time that `observe` credits. -/
noncomputable def elapsed (self : DecayingQuantile ℝ) (nowS : ℝ) : ℝ :=
  self.estimate.elim 0 fun _ => max (nowS - self.lastObsS) 0

/-- The time that a sequence of calls credits. -/
noncomputable def credited (self : DecayingQuantile ℝ) : List ObserveCall → ℝ
  | [] => 0
  | call :: calls => self.elapsed call.nowS +
      (self.observe call.completionTokens call.nowS).credited calls

end DecayingQuantile

/-- The estimate of a key after some calls. -/
noncomputable def learned (halflife : ℝ) (key : RouteKey) (calls : List ObserveCall) : Option ℝ :=
  (((RouteHistograms.new halflife).applyAll key calls).inner key).bind DecayingQuantile.estimate

/-- The weight of the first of some calls in the estimate: what one more token
in it adds. -/
noncomputable def firstWeight (halflife : ℝ) (key : RouteKey) (start : ℝ)
    (later : List ObserveCall) : ℝ :=
  (learned halflife key (⟨1, start⟩ :: later)).getD 0 -
    (learned halflife key (⟨0, start⟩ :: later)).getD 0

/-- The largest of some times. -/
noncomputable def latest (largest : ℝ) (calls : List ObserveCall) : ℝ :=
  calls.foldl (fun largest call => max largest call.nowS) largest

/-- The first observation has kept at least the weight that it has after the
time up to the latest call, and no more than that time has been credited. -/
structure CreditsOnce (halflife : ℝ) (key : RouteKey) (first : ObserveCall)
    (later : List ObserveCall) : Prop where
  weight : (2 : ℝ) ^ (-(latest first.nowS later - first.nowS) / halflife) ≤
    firstWeight halflife key first.nowS later
  credited : (DecayingQuantile.new halflife).credited (first :: later) ≤
    max 0 (latest first.nowS later - first.nowS)

/-- Time is credited once, after every call. -/
def AlwaysCreditsOnce (halflife : ℝ) (key : RouteKey) (first : ObserveCall)
    (later : List ObserveCall) : Prop :=
  ∀ seen, seen <+: later → CreditsOnce halflife key first seen

/-- Every call is at most as late as the one before it, or that one is the
latest so far. -/
def InStepWithTime (last largest : ℝ) : List ObserveCall → Prop
  | [] => True
  | call :: calls => (call.nowS ≤ last ∨ last = largest) ∧
      InStepWithTime call.nowS (max largest call.nowS) calls

/-! ## The estimate of a key -/

theorem inner_applyAll (self : RouteHistograms ℝ) (key : RouteKey) (first : ObserveCall)
    (later : List ObserveCall) :
    (self.applyAll key (first :: later)).inner key =
      some (((self.inner key).getD (.new self.halflifeS)).observeCalls (first :: later)) := by
  induction later generalizing self first with
  | nil => simp [RouteHistograms.applyAll, RouteHistograms.observe, DecayingQuantile.observeCalls]
  | cons next later ih =>
      have applied : self.applyAll key (first :: next :: later) =
          (self.observe key first.completionTokens first.nowS).applyAll key (next :: later) := rfl
      have observed : ((self.observe key first.completionTokens first.nowS).inner key) =
          some (((self.inner key).getD (.new self.halflifeS)).observe
            first.completionTokens first.nowS) := by
        simp [RouteHistograms.observe]
      rw [applied, ih, observed]
      rfl

/-- An average that has learned something. -/
def learnedFrom (halflife estimate last : ℝ) : DecayingQuantile ℝ where
  halflifeS := halflife
  estimate := some estimate
  lastObsS := last

/-- The time that some calls credit after one at a given time. -/
noncomputable def creditAfter (last : ℝ) : List ObserveCall → ℝ
  | [] => 0
  | call :: calls => max (call.nowS - last) 0 + creditAfter call.nowS calls

noncomputable def blend (halflife estimate last : ℝ) (call : ObserveCall) : ℝ :=
  let decay := DecayNumber.decay (max (call.nowS - last) 0) halflife
  estimate * decay + DecayNumber.ofCount call.completionTokens * (1 - decay)

theorem observe_learnedFrom (halflife estimate last : ℝ) (call : ObserveCall) :
    (learnedFrom halflife estimate last).observe call.completionTokens call.nowS =
      learnedFrom halflife (blend halflife estimate last call) call.nowS := rfl

theorem credited_learnedFrom (halflife estimate last : ℝ) (calls : List ObserveCall) :
    (learnedFrom halflife estimate last).credited calls = creditAfter last calls := by
  induction calls generalizing estimate last with
  | nil => rfl
  | cons call calls ih =>
      rw [DecayingQuantile.credited, observe_learnedFrom, ih]
      rfl

theorem observeCalls_cons (self : DecayingQuantile ℝ) (call : ObserveCall)
    (calls : List ObserveCall) :
    self.observeCalls (call :: calls) =
      (self.observe call.completionTokens call.nowS).observeCalls calls := rfl

/-- Of the difference between two estimates, the calls keep what the credited
time leaves. -/
theorem exists_observeCalls_sub (halflife first second last : ℝ) (calls : List ObserveCall) :
    ∃ firstAfter secondAfter,
      ((learnedFrom halflife first last).observeCalls calls).estimate = some firstAfter ∧
      ((learnedFrom halflife second last).observeCalls calls).estimate = some secondAfter ∧
      firstAfter - secondAfter =
        (first - second) * Real.exp (-creditAfter last calls * Real.log 2 / halflife) := by
  induction calls generalizing first second last with
  | nil => exact ⟨first, second, rfl, rfl, by simp [creditAfter]⟩
  | cons call calls ih =>
      obtain ⟨firstAfter, secondAfter, foundFirst, foundSecond, difference⟩ :=
        ih (blend halflife first last call) (blend halflife second last call) call.nowS
      refine ⟨firstAfter, secondAfter, ?_, ?_, ?_⟩
      · rw [observeCalls_cons, observe_learnedFrom, foundFirst]
      · rw [observeCalls_cons, observe_learnedFrom, foundSecond]
      · have step : blend halflife first last call - blend halflife second last call =
            (first - second) *
              Real.exp (-max (call.nowS - last) 0 * Real.log 2 / halflife) := by
          change first * Real.exp _ + _ * (1 - Real.exp _) -
            (second * Real.exp _ + _ * (1 - Real.exp _)) = _
          ring
        rw [difference, step, mul_assoc, ← Real.exp_add, creditAfter]
        congr 2
        ring

/-- The weight of the first call is what the credited time leaves of it. -/
theorem firstWeight_eq (halflife : ℝ) (key : RouteKey) (start : ℝ) (later : List ObserveCall) :
    firstWeight halflife key start later =
      2 ^ (-creditAfter start later / halflife) := by
  have found (tokens : UInt32) : learned halflife key (⟨tokens, start⟩ :: later) =
      ((learnedFrom halflife tokens.toNat start).observeCalls later).estimate := by
    unfold learned
    rw [inner_applyAll]
    rfl
  obtain ⟨one, zero, foundOne, foundZero, difference⟩ :=
    exists_observeCalls_sub halflife ((1 : UInt32).toNat : ℝ) ((0 : UInt32).toNat : ℝ) start later
  have unit : (((1 : UInt32).toNat : ℝ) - ((0 : UInt32).toNat : ℝ)) = 1 := by simp
  unfold firstWeight
  rw [found, found, foundOne, foundZero, Option.getD_some, Option.getD_some, difference, unit,
    one_mul, Real.rpow_def_of_pos two_pos]
  congr 1
  ring

/-! ## Credit and time -/

theorem le_latest (largest : ℝ) (calls : List ObserveCall) : largest ≤ latest largest calls := by
  induction calls generalizing largest with
  | nil => exact le_refl largest
  | cons call calls ih => exact (le_max_left largest call.nowS).trans (ih _)

/-- Both parts of the property say that no time is credited twice. -/
theorem creditsOnce_iff {halflife : ℝ} (positive : 0 < halflife) (key : RouteKey)
    (first : ObserveCall) (later : List ObserveCall) :
    CreditsOnce halflife key first later ↔
      creditAfter first.nowS later ≤ latest first.nowS later - first.nowS := by
  have nonneg : 0 ≤ latest first.nowS later - first.nowS :=
    sub_nonneg.mpr (le_latest first.nowS later)
  have credit : (DecayingQuantile.new halflife).credited (first :: later) =
      creditAfter first.nowS later := by
    have started : (DecayingQuantile.new halflife).observe first.completionTokens first.nowS =
        learnedFrom halflife first.completionTokens.toNat first.nowS := rfl
    rw [DecayingQuantile.credited, started, credited_learnedFrom]
    exact zero_add _
  constructor
  · intro once
    have credited := once.credited
    rw [credit, max_eq_right nonneg] at credited
    exact credited
  · intro enough
    refine ⟨?_, ?_⟩
    · rw [firstWeight_eq, Real.rpow_le_rpow_left_iff one_lt_two, div_le_div_iff_of_pos_right positive]
      linarith
    · rw [credit, max_eq_right nonneg]
      exact enough

/-- A call in step credits what it adds to the latest time. -/
theorem max_sub_eq {last largest now : ℝ} (behind : last ≤ largest)
    (inStep : now ≤ last ∨ last = largest) :
    max (now - last) 0 = max largest now - largest := by
  rcases inStep with back | rfl
  · rw [max_eq_right (sub_nonpos.mpr back), max_eq_left (back.trans behind), sub_self]
  · have shifted := max_sub_sub_right last now last
    rw [sub_self] at shifted
    rw [← shifted, max_comm]

/-- A call out of step credits more. -/
theorem lt_max_sub {last largest now : ℝ} (behind : last ≤ largest)
    (outOfStep : ¬ (now ≤ last ∨ last = largest)) :
    max largest now - largest < max (now - last) 0 := by
  push Not at outOfStep
  obtain ⟨forward, earlier⟩ := outOfStep
  have strictly : last < largest := lt_of_le_of_ne behind earlier
  rw [max_eq_left (sub_nonneg.mpr forward.le)]
  rcases le_total largest now with later | inside
  · rw [max_eq_right later]
    linarith
  · rw [max_eq_left inside]
    linarith

/-- Along the calls, no more is credited than the latest time has grown by
exactly when every call is in step. -/
theorem creditAfter_le_iff {last largest : ℝ} (behind : last ≤ largest)
    (calls : List ObserveCall) :
    (∀ seen, seen <+: calls → creditAfter last seen ≤ latest largest seen - largest) ↔
      InStepWithTime last largest calls := by
  induction calls generalizing last largest with
  | nil =>
      refine iff_of_true ?_ trivial
      intro seen isPrefix
      obtain rfl := List.prefix_nil.mp isPrefix
      exact (sub_self largest).ge
  | cons call calls ih =>
      have onward := ih (le_max_right largest call.nowS)
      constructor
      · intro bounded
        have inStep : call.nowS ≤ last ∨ last = largest := by
          by_contra outOfStep
          have single := bounded [call] (by simp)
          have more := lt_max_sub behind outOfStep
          change max (call.nowS - last) 0 + 0 ≤ max largest call.nowS - largest at single
          linarith
        refine ⟨inStep, onward.mp ?_⟩
        intro seen isPrefix
        have whole := bounded (call :: seen) (List.cons_prefix_cons.mpr ⟨rfl, isPrefix⟩)
        have step := max_sub_eq behind inStep
        change max (call.nowS - last) 0 + creditAfter call.nowS seen ≤
          latest (max largest call.nowS) seen - largest at whole
        linarith
      · rintro ⟨inStep, rest⟩ seen isPrefix
        cases seen with
        | nil => exact (sub_self largest).ge
        | cons head seen =>
            obtain ⟨rfl, inside⟩ := List.cons_prefix_cons.mp isPrefix
            have bounded := onward.mpr rest seen inside
            have step := max_sub_eq behind inStep
            change max (head.nowS - last) 0 + creditAfter head.nowS seen ≤
              latest (max largest head.nowS) seen - largest
            linarith

/-- Time is credited once, after every call, exactly when every call is at most
as late as the one before it or that one is the latest so far. -/
theorem credits_once_iff {halflife : ℝ} (positive : 0 < halflife) (key : RouteKey)
    (first : ObserveCall) (later : List ObserveCall) :
    AlwaysCreditsOnce halflife key first later ↔
      InStepWithTime first.nowS first.nowS later := by
  unfold AlwaysCreditsOnce
  rw [← creditAfter_le_iff (le_refl first.nowS)]
  apply forall₂_congr
  intro seen _
  exact creditsOnce_iff positive key first seen

/-- After the latest call so far, calls that go back do no harm. -/
theorem credits_once_going_back :
    AlwaysCreditsOnce 300 ("m", 64) ⟨2, 0⟩ [⟨3, 10⟩, ⟨5, 4⟩, ⟨8, 4⟩] := by
  refine (credits_once_iff (by norm_num) ("m", 64) ⟨2, 0⟩ _).mpr
    ⟨.inr rfl, .inl ?_, .inl ?_, trivial⟩
  · change (4 : ℝ) ≤ 10
    norm_num
  · exact le_refl (4 : ℝ)

/-- Ten seconds pass, and fifteen are credited. -/
theorem interval_is_credited_twice :
    ¬ AlwaysCreditsOnce 300 ("m", 64) ⟨2, 0⟩ [⟨3, 10⟩, ⟨5, 5⟩, ⟨8, 10⟩] := by
  intro always
  have once := (creditsOnce_iff (by norm_num) _ _ _).mp (always _ List.prefix_rfl)
  norm_num [creditAfter, latest] at once

end KeelRouter
