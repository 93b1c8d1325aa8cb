import KeelRouter.LengthEstimator
import Mathlib.Order.Bounds.Basic
import Mathlib.Order.WithBot

/-!
# Isolation of route estimates

Every observation goes to the average of its own key, so an estimate does not
change with what other routes produced.  Two requests share a key when they ask
for one model with prompts in one power-of-two interval, and all prompts from
4096 tokens on are in the last interval.
-/

namespace KeelRouter

/-! ## Stores of independent entries -/

section Store

variable {K S O : Type} [DecidableEq K]

/-- Give the entry of the observation's key its next value. -/
def storeObservation (keyOf : O → K) (next : O → Option S → S) (store : K → Option S)
    (observation : O) : K → Option S := fun key =>
  if key = keyOf observation then some (next observation (store key)) else store key

theorem foldl_storeObservation (keyOf : O → K) (next : O → Option S → S)
    (observations : List O) (store : K → Option S) (key : K) :
    observations.foldl (storeObservation keyOf next) store key =
      (observations.filter fun observation => keyOf observation = key).foldl
        (fun entry observation => some (next observation entry)) (store key) := by
  induction observations generalizing store with
  | nil => rfl
  | cons observation observations ih =>
      rw [List.foldl_cons, ih]
      by_cases own : keyOf observation = key
      · rw [List.filter_cons_of_pos (by simpa using own), List.foldl_cons, storeObservation,
          if_pos own.symm]
      · rw [List.filter_cons_of_neg (by simpa using own), storeObservation, if_neg fun same =>
          own same.symm]

end Store

/-- A call of `RouteHistograms::observe`, with its time since the start. -/
structure RouteObservation (F : Type) where
  key : RouteKey
  completionTokens : UInt32
  nowS : F

namespace RouteHistograms

variable {F : Type} [DecayNumber F]

def observeEach (self : RouteHistograms F) (observations : List (RouteObservation F)) :
    RouteHistograms F :=
  observations.foldl (fun hists o => hists.observe o.key o.completionTokens o.nowS) self

theorem observeEach_eq (self : RouteHistograms F) (observations : List (RouteObservation F)) :
    self.observeEach observations =
      { self with
        inner := observations.foldl
          (storeObservation RouteObservation.key fun o entry =>
            (entry.getD (.new self.halflifeS)).observe o.completionTokens o.nowS)
          self.inner } := by
  induction observations generalizing self with
  | nil => rfl
  | cons o observations ih =>
      unfold observeEach at ih ⊢
      rw [List.foldl_cons, ih, List.foldl_cons]
      congr 1
      congr 1
      funext key
      unfold storeObservation observe
      dsimp only
      split
      · rename_i own
        rw [own]
      · rfl

/-- The entry of a key is what the observations of that key alone make of it. -/
theorem inner_observeEach (self : RouteHistograms F) (observations : List (RouteObservation F))
    (key : RouteKey) :
    (self.observeEach observations).inner key =
      (observations.filter fun o => o.key = key).foldl
        (fun entry o =>
          some ((entry.getD (.new self.halflifeS)).observe o.completionTokens o.nowS))
        (self.inner key) := by
  rw [observeEach_eq]
  exact foldl_storeObservation _ _ observations self.inner key

theorem estimate_congr {first second : RouteHistograms F} {key : RouteKey}
    (same : first.inner key = second.inner key) (maxTokens : Option UInt32) :
    first.estimate key maxTokens = second.estimate key maxTokens := by
  unfold estimate
  rw [same]

end RouteHistograms

/-! ## The buckets -/

def leadingZeros (x : UInt32) : UInt32 := ⟨x.toBitVec.clz⟩

/-- The highest power of two in a nonzero number, as a distance from the top. -/
theorem toNat_leadingZeros {x : UInt32} (nonzero : x ≠ 0) :
    (leadingZeros x).toNat = 31 - x.toNat.log2 ∧ x.toNat.log2 ≤ 31 := by
  have bits : x.toBitVec ≠ 0#32 := by
    intro zero
    exact nonzero (UInt32.toBitVec_inj.mp zero)
  have positive := UInt32.toNat_ne_zero nonzero
  have least := BitVec.two_pow_sub_clz_le_toNat_of_ne_zero (by decide : 0 < 32) bits
  have above := BitVec.toNat_lt_two_pow_sub_clz (x := x.toBitVec)
  have fewer : x.toBitVec.clz.toNat < 32 := by
    have less := BitVec.clz_lt_iff_ne_zero.mpr bits
    simpa [BitVec.lt_def] using less
  have log : x.toNat.log2 = 31 - x.toBitVec.clz.toNat := by
    rw [Nat.log2_eq_iff positive]
    refine ⟨least, ?_⟩
    have exponent : 31 - x.toBitVec.clz.toNat + 1 = 32 - x.toBitVec.clz.toNat := by omega
    rw [exponent]
    exact above
  have same : (leadingZeros x).toNat = x.toBitVec.clz.toNat := rfl
  omega

/-- Buckets are powers of two, the last one being 4096. -/
theorem toNat_promptBucket {tokens : UInt32} (positive : tokens ≠ 0) :
    (promptBucket tokens).toNat = 2 ^ min tokens.toNat.log2 12 := by
  obtain ⟨-, bounded⟩ := toNat_leadingZeros positive
  have fits : 2 ^ tokens.toNat.log2 < 2 ^ 32 := Nat.pow_lt_pow_right (by decide) (by omega)
  have power : (UInt32.ofNat (2 ^ tokens.toNat.log2)).toNat = 2 ^ tokens.toNat.log2 :=
    UInt32.toNat_ofNat_of_lt' fits
  have capped (exponent : Nat) : 2 ^ exponent ≤ 2 ^ 12 ↔ exponent ≤ 12 :=
    Nat.pow_le_pow_iff_right (by decide)
  unfold promptBucket
  rw [if_neg positive]
  dsimp only
  split
  · rename_i below
    have bound := UInt32.le_iff_toNat_le.mp below
    rw [power] at bound ⊢
    rw [min_eq_left ((capped _).mp bound)]
  · rename_i above
    have bound := UInt32.le_iff_toNat_le.not.mp above
    rw [power] at bound
    rw [min_eq_right (not_le.mp ((capped _).not.mp bound)).le]
    rfl

/-- The bucket as the source writes it, by a shift past the leading zeros. -/
theorem promptBucket_eq_shift {tokens : UInt32} (positive : tokens ≠ 0) :
    promptBucket tokens = min (1 <<< (31 - leadingZeros tokens)) 4096 := by
  obtain ⟨zeros, bounded⟩ := toNat_leadingZeros positive
  have distance : (31 - leadingZeros tokens).toNat = tokens.toNat.log2 := by
    rw [UInt32.toNat_sub_of_le _ _ (UInt32.le_iff_toNat_le.mpr (by rw [zeros]; simp)), zeros]
    change 31 - (31 - tokens.toNat.log2) = tokens.toNat.log2
    omega
  have shifted : (1 : UInt32) <<< (31 - leadingZeros tokens) =
      UInt32.ofNat (2 ^ tokens.toNat.log2) := by
    apply UInt32.toNat_inj.mp
    rw [UInt32.toNat_shiftLeft, distance, Nat.mod_eq_of_lt (by omega : tokens.toNat.log2 < 32)]
    simp [Nat.shiftLeft_eq]
  rw [shifted]
  unfold promptBucket
  rw [if_neg positive]
  rfl

/-- The exponent of the highest power of two in a number. -/
def floorLog2 (tokens : UInt32) : WithBot ℕ :=
  if tokens = 0 then ⊥ else (tokens.toNat.log2 : ℕ)

theorem floorLog2_of_ne_zero {tokens : UInt32} (positive : tokens ≠ 0) :
    floorLog2 tokens = (tokens.toNat.log2 : ℕ) := if_neg positive

theorem promptBucket_ne_zero {tokens : UInt32} (positive : tokens ≠ 0) :
    promptBucket tokens ≠ 0 := by
  intro zero
  have power := toNat_promptBucket positive
  rw [zero, UInt32.toNat_zero] at power
  exact absurd power.symm (Nat.two_pow_pos _).ne'

theorem promptBucket_eq_iff (first second : UInt32) :
    promptBucket first = promptBucket second ↔
      (4096 ≤ first ∧ 4096 ≤ second) ∨ floorLog2 first = floorLog2 second := by
  by_cases firstZero : first = 0
  · by_cases secondZero : second = 0
    · rw [firstZero, secondZero]
      simp
    · rw [floorLog2_of_ne_zero secondZero, firstZero]
      refine iff_of_false (promptBucket_ne_zero secondZero).symm ?_
      rintro (⟨large, -⟩ | same)
      · exact absurd large (by decide)
      · cases same
  · by_cases secondZero : second = 0
    · rw [floorLog2_of_ne_zero firstZero, secondZero]
      refine iff_of_false (promptBucket_ne_zero firstZero) ?_
      rintro (⟨-, large⟩ | same)
      · exact absurd large (by decide)
      · cases same
    · have large {tokens : UInt32} (positive : tokens ≠ 0) :
          4096 ≤ tokens ↔ 12 ≤ tokens.toNat.log2 := by
        rw [UInt32.le_iff_toNat_le, Nat.le_log2 (UInt32.toNat_ne_zero positive)]
        rfl
      rw [floorLog2_of_ne_zero firstZero, floorLog2_of_ne_zero secondZero, Nat.cast_inj,
        large firstZero, large secondZero, ← UInt32.toNat_inj, toNat_promptBucket firstZero,
        toNat_promptBucket secondZero, Nat.pow_right_inj (by decide)]
      omega

theorem promptBucket_isGreatest {tokens : UInt32} (positive : tokens ≠ 0) :
    IsGreatest {power | (∃ exponent, power = 2 ^ exponent) ∧ power ≤ min tokens.toNat 4096}
      (promptBucket tokens).toNat := by
  have nonzero := UInt32.toNat_ne_zero positive
  rw [toNat_promptBucket positive]
  constructor
  · refine ⟨⟨_, rfl⟩, le_min ?_ ?_⟩
    · exact (Nat.le_log2 nonzero).mp (min_le_left _ _)
    · exact Nat.pow_le_pow_right (by decide) (min_le_right tokens.toNat.log2 12)
  · rintro _ ⟨⟨exponent, rfl⟩, below⟩
    obtain ⟨within, capped⟩ := le_min_iff.mp below
    have short : exponent ≤ 12 := (Nat.pow_le_pow_iff_right (by decide : 1 < 2)).mp
      (capped : 2 ^ exponent ≤ 2 ^ 12)
    exact Nat.pow_le_pow_right (by decide) (le_min ((Nat.le_log2 nonzero).mpr within) short)

theorem promptBucket_mono {first second : UInt32} (ordered : first ≤ second) :
    promptBucket first ≤ promptBucket second := by
  rw [UInt32.le_iff_toNat_le] at ordered ⊢
  by_cases firstZero : first = 0
  · rw [firstZero]
    exact Nat.zero_le _
  · have secondNonzero : second ≠ 0 := by
      rintro rfl
      exact UInt32.toNat_ne_zero firstZero (Nat.le_zero.mp ordered)
    obtain ⟨⟨power, below⟩, -⟩ := promptBucket_isGreatest firstZero
    exact (promptBucket_isGreatest secondNonzero).2 ⟨power, by omega⟩

/-- What keeps routes apart: the estimate of a key depends on the observations
of that key alone, and keys are equal for one model and one interval. -/
structure IsolatedRoutes (F : Type) [DecayNumber F] : Prop where
  estimates : ∀ (halflifeS : F) (first second : List (RouteObservation F)) (key : RouteKey),
    (first.filter fun o => o.key = key) = (second.filter fun o => o.key = key) →
      ((RouteHistograms.new halflifeS).observeEach first).estimate key none =
        ((RouteHistograms.new halflifeS).observeEach second).estimate key none
  unobserved : ∀ (halflifeS : F) (observations : List (RouteObservation F)) (key : RouteKey),
    (∀ o ∈ observations, o.key ≠ key) →
      ((RouteHistograms.new halflifeS).observeEach observations).estimate key none =
        defaultOutputEstimate
  keys : ∀ (model other : String) (first second : UInt32),
    routeKey model first = routeKey other second ↔
      model = other ∧ ((4096 ≤ first ∧ 4096 ≤ second) ∨ floorLog2 first = floorLog2 second)
  shifted : ∀ tokens : UInt32, tokens ≠ 0 →
    promptBucket tokens = min (1 <<< (31 - leadingZeros tokens)) 4096
  bucket : ∀ tokens : UInt32, tokens ≠ 0 →
    IsGreatest {power | (∃ exponent, power = 2 ^ exponent) ∧ power ≤ min tokens.toNat 4096}
      (promptBucket tokens).toNat
  ordered : ∀ first second : UInt32, first ≤ second → promptBucket first ≤ promptBucket second

/-- Route estimates are isolated by key. -/
theorem routes_isolated (F : Type) [DecayNumber F] : IsolatedRoutes F where
  estimates halflifeS first second key same := by
    apply RouteHistograms.estimate_congr
    rw [RouteHistograms.inner_observeEach, RouteHistograms.inner_observeEach, same]
  unobserved halflifeS observations key others := by
    have none : observations.filter (fun o => o.key = key) = [] := by
      rw [List.filter_eq_nil_iff]
      intro o member own
      exact others o member (of_decide_eq_true own)
    unfold RouteHistograms.estimate
    rw [RouteHistograms.inner_observeEach, none]
    rfl
  keys model other first second := by
    unfold routeKey
    rw [Prod.mk.injEq, promptBucket_eq_iff]
  shifted _ positive := promptBucket_eq_shift positive
  bucket _ positive := promptBucket_isGreatest positive
  ordered _ _ := promptBucket_mono

end KeelRouter
