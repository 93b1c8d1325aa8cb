import KeelRouter.CostLease
import KeelRouter.EventRun
import Mathlib.Algebra.Order.Floor.Div

/-!
# Recharging a lease

A lease raises its estimate by one step when more tokens have been seen than it
estimates.  It does so once in a call, however many tokens the call reports, so
that the charge keeps up with the tokens exactly as long as no batch goes more
than one step beyond the estimate.  Tokens that are reported one by one never
do, and the charge then has a closed form.
-/

namespace KeelRouter

namespace CostLease

/-- A lease and the backends. -/
abbrev Held := CostLease × Heap

/-- One call of `observe_tokens`. -/
def observeStep (state : Held) (n : UInt32) : Option Held :=
  some (state.1.observeTokens n state.2)

def observeAll (state : Held) (batches : List UInt32) : Held :=
  batches.foldl (fun state n => state.1.observeTokens n state.2) state

def total (batches : List UInt32) : Nat := (batches.map UInt32.toNat).sum

/-- The lease accounts for what its backend's counter has grown by, and that
covers the prompt and the tokens that were observed. -/
structure Covered (before : Heap) (promptTokens : UInt32) (observed : Nat) (state : Held) :
    Prop where
  contributes : (state.2 state.1.backend).live.kvProjectedTokens =
    (before state.1.backend).live.kvProjectedTokens + state.1.charged
  covers : (promptTokens.toNat + observed : ℤ) ≤ state.1.charged.toInt

/-- The charge is covering after every call. -/
def NeverLags (before : Heap) (promptTokens : UInt32) (opened : Held) (batches : List UInt32) :
    Prop :=
  ∀ first, first <+: batches →
    Covered before promptTokens (total first) (observeAll opened first)

/-- The batch ends at most one step beyond the estimate. -/
def WithinStep (state : Held) (n : UInt32) : Prop :=
  state.1.tokensSeen.toNat + n.toNat ≤ state.1.oHat.toNat + rechargeStep.toNat

instance instDecidableWithinStep (state : Held) (n : UInt32) : Decidable (WithinStep state n) :=
  inferInstanceAs (Decidable (_ ≤ _))

/-! ## The contribution of a lease -/

/-- The lease charges for its estimate, which is what its backend's counter has
grown by. -/
structure Accounted (before : Heap) (state : Held) : Prop where
  contributes : (state.2 state.1.backend).live.kvProjectedTokens =
    (before state.1.backend).live.kvProjectedTokens + state.1.charged
  charged : state.1.charged = state.1.kvModel.project state.1.promptTokens state.1.oHat

theorem accounted_open (before : Heap) (backend : BackendRef) (promptTokens oHat : UInt32)
    (kvModel : KvModel) (now : Instant) :
    Accounted before (CostLease.open backend promptTokens oHat kvModel now before) where
  contributes := by
    change ((CostLease.open backend promptTokens oHat kvModel now before).2
      backend).live.kvProjectedTokens = _
    rw [open_live]
    simp only [if_true]
    rfl
  charged := rfl

theorem accounted_observeTokens {before : Heap} {state : Held} (n : UInt32)
    (accounted : Accounted before state) :
    Accounted before (state.1.observeTokens n state.2) where
  contributes := by
    obtain ⟨sameBackend, -⟩ := state.1.observeTokens_fields n state.2
    rw [sameBackend, observeTokens_live, if_pos rfl, accounted.contributes]
    dsimp only
    rw [add_assoc, add_sub_cancel]
  charged := by
    by_cases exceeds : state.1.oHat < state.1.tokensSeen + n
    · rw [observeTokens_of_lt _ _ _ exceeds]
    · rw [observeTokens_of_not_lt _ _ _ exceeds]
      exact accounted.charged

/-! ## Batches of any size -/

theorem total_cons (n : UInt32) (later : List UInt32) :
    total (n :: later) = n.toNat + total later := by
  simp [total]

/-- A lease that charges for the whole response, has not seen more than it
estimates, and has enough room for the tokens to come. -/
structure Charging (before : Heap) (prompt : UInt32) (later : List UInt32) (state : Held) :
    Prop where
  accounted : Accounted before state
  kvModel : state.1.kvModel = .promptPlusOutput
  promptTokens : state.1.promptTokens = prompt
  seen : state.1.tokensSeen.toNat ≤ state.1.oHat.toNat
  room : state.1.tokensSeen.toNat + total later + rechargeStep.toNat < 2 ^ 32

variable {before : Heap} {prompt n : UInt32} {later : List UInt32} {state : Held}

theorem Charging.charged (charging : Charging before prompt later state) :
    state.1.charged.toInt = prompt.toNat + state.1.oHat.toNat := by
  rw [charging.accounted.charged, KvModel.toInt_project, charging.kvModel, charging.promptTokens]

theorem Charging.tokensSeen_add (charging : Charging before prompt (n :: later) state) :
    (state.1.tokensSeen + n).toNat = state.1.tokensSeen.toNat + n.toNat := by
  have room := charging.room
  rw [total_cons] at room
  rw [UInt32.toNat_add]
  omega

/-- A batch within the step leaves a lease that still covers what it has seen. -/
theorem charging_observeTokens (charging : Charging before prompt (n :: later) state)
    (within : WithinStep state n) :
    Charging before prompt later (state.1.observeTokens n state.2) := by
  have room := charging.room
  have seen := charging.tokensSeen_add
  obtain ⟨-, sameModel, samePrompt, sameSeen, -⟩ := state.1.observeTokens_fields n state.2
  rw [total_cons] at room
  refine ⟨accounted_observeTokens n charging.accounted, ?_, ?_, ?_, ?_⟩
  · rw [sameModel, charging.kvModel]
  · rw [samePrompt, charging.promptTokens]
  · rw [sameSeen, seen]
    by_cases exceeds : state.1.oHat < state.1.tokensSeen + n
    · rw [observeTokens_of_lt _ _ _ exceeds]
      rw [UInt32.lt_iff_toNat_lt, seen] at exceeds
      have raised : (state.1.oHat + rechargeStep).toNat =
          state.1.oHat.toNat + rechargeStep.toNat := by
        rw [UInt32.toNat_add]
        omega
      exact within.trans_eq raised.symm
    · rw [observeTokens_of_not_lt _ _ _ exceeds]
      rw [UInt32.lt_iff_toNat_lt, seen] at exceeds
      exact not_lt.mp exceeds
  · rw [sameSeen, seen]
    omega

/-- A batch beyond the step leaves a charge that does not cover it. -/
theorem charged_lt_of_not_within (charging : Charging before prompt (n :: later) state)
    (beyond : ¬ WithinStep state n) :
    (state.1.observeTokens n state.2).1.charged.toInt <
      prompt.toNat + (state.1.tokensSeen.toNat + n.toNat : ℕ) := by
  have room := charging.room
  have seen := charging.tokensSeen_add
  rw [total_cons] at room
  have beyondStep : state.1.oHat.toNat + rechargeStep.toNat <
      state.1.tokensSeen.toNat + n.toNat := not_le.mp beyond
  have exceeds : state.1.oHat < state.1.tokensSeen + n := by
    rw [UInt32.lt_iff_toNat_lt, seen]
    omega
  have raised : (state.1.oHat + rechargeStep).toNat = state.1.oHat.toNat + rechargeStep.toNat := by
    rw [UInt32.toNat_add]
    omega
  rw [observeTokens_of_lt _ _ _ exceeds, KvModel.toInt_project, charging.kvModel,
    charging.promptTokens]
  dsimp only
  omega

theorem Charging.covered (charging : Charging before prompt later state) :
    Covered before prompt state.1.tokensSeen.toNat state where
  contributes := charging.accounted.contributes
  covers := by
    have seen := charging.seen
    rw [charging.charged]
    omega

/-- From a covering lease on, the charge keeps covering exactly when every batch
is within the step. -/
theorem covered_iff_guarded (charging : Charging before prompt later state) :
    (∀ first, first <+: later → Covered before prompt
      (state.1.tokensSeen.toNat + total first) (observeAll state first)) ↔
      EventRun.Guarded observeStep WithinStep state later := by
  induction later generalizing state with
  | nil =>
      refine iff_of_true ?_ trivial
      intro first isPrefix
      obtain rfl := List.prefix_nil.mp isPrefix
      exact charging.covered
  | cons n later ih =>
      have seen := charging.tokensSeen_add
      obtain ⟨-, -, -, sameSeen, -⟩ := state.1.observeTokens_fields n state.2
      have shifted (first : List UInt32) : state.1.tokensSeen.toNat + total (n :: first) =
          (state.1.observeTokens n state.2).1.tokensSeen.toNat + total first := by
        rw [sameSeen, seen, total_cons, add_assoc]
      constructor
      · intro covered
        have within : WithinStep state n := by
          by_contra beyond
          have less := charged_lt_of_not_within charging beyond
          have covers := (covered [n] (by simp)).covers
          have single : total [n] = n.toNat := by simp [total]
          rw [single] at covers
          exact absurd covers (not_le.mpr less)
        refine ⟨within, ?_⟩
        intro next stepped
        obtain rfl := Option.some.inj stepped
        apply (ih (charging_observeTokens charging within)).mp
        intro first isPrefix
        rw [← shifted]
        exact covered (n :: first) (List.cons_prefix_cons.mpr ⟨rfl, isPrefix⟩)
      · rintro ⟨within, rest⟩ first isPrefix
        cases first with
        | nil => exact charging.covered
        | cons head first =>
            obtain ⟨rfl, inside⟩ := List.cons_prefix_cons.mp isPrefix
            have covered := (ih (charging_observeTokens charging within)).mpr (rest _ rfl)
            rw [shifted]
            exact covered first inside

/-- The recharge of a lease never lags behind the observed tokens exactly when
every batch ends at most one step beyond the estimate it finds. -/
theorem never_lags_iff (before : Heap) (backend : BackendRef) (promptTokens oHat : UInt32)
    (now : Instant) (batches : List UInt32)
    (small : total batches + oHat.toNat + rechargeStep.toNat < 2 ^ 32) :
    NeverLags before promptTokens
        (CostLease.open backend promptTokens oHat .promptPlusOutput now before) batches ↔
      EventRun.Guarded observeStep WithinStep
        (CostLease.open backend promptTokens oHat .promptPlusOutput now before) batches := by
  have charging : Charging before promptTokens batches
      (CostLease.open backend promptTokens oHat .promptPlusOutput now before) := {
    accounted := accounted_open before backend promptTokens oHat .promptPlusOutput now
    kvModel := rfl
    promptTokens := rfl
    seen := Nat.zero_le _
    room := by
      change 0 + total batches + rechargeStep.toNat < 2 ^ 32
      omega }
  rw [← covered_iff_guarded charging]
  unfold NeverLags
  apply forall₂_congr
  intro first _
  have nothing : (CostLease.open backend promptTokens oHat .promptPlusOutput now
      before).1.tokensSeen.toNat = 0 := rfl
  rw [nothing, zero_add]

def idleHeap : Heap := fun ref => .fresh ⟨UInt16.ofNat ref⟩ "http://x" "m" 1 ⟨8192, 32⟩

/-- The third batch overruns the estimate by as much as the second recharge adds. -/
theorem never_lags_three_batches :
    NeverLags idleHeap 10 (CostLease.open 0 10 5 .promptPlusOutput 0 idleHeap) [3, 40, 62] := by
  refine (never_lags_iff idleHeap 0 10 5 0 [3, 40, 62] (by decide)).mpr ⟨by decide, ?_⟩
  intro first stepped
  obtain rfl := Option.some.inj stepped
  refine ⟨by decide, ?_⟩
  intro second stepped
  obtain rfl := Option.some.inj stepped
  exact ⟨by decide, fun _ _ => trivial⟩

/-- A batch of a hundred tokens is charged as if it had one step. -/
theorem large_batch_lags :
    ¬ NeverLags idleHeap 10 (CostLease.open 0 10 5 .promptPlusOutput 0 idleHeap) [100] := by
  intro covered
  exact absurd (covered [100] List.prefix_rfl).covers (by decide)

/-! ## Tokens that are reported one by one -/

/-- The estimate once a number of tokens has been seen. -/
def estimateAfter (initial seen : Nat) : Nat :=
  initial + 50 * ((seen - initial) ⌈/⌉ 50)

theorem estimateAfter_zero (initial : Nat) : estimateAfter initial 0 = initial := by
  rw [estimateAfter, Nat.zero_sub, Nat.ceilDiv_eq_add_pred_div]
  omega

theorem le_estimateAfter (initial seen : Nat) : seen ≤ estimateAfter initial seen := by
  rw [estimateAfter, Nat.ceilDiv_eq_add_pred_div]
  omega

theorem estimateAfter_le_add {initial seen : Nat} (beyond : initial < seen) :
    estimateAfter initial seen ≤ seen + 49 := by
  rw [estimateAfter, Nat.ceilDiv_eq_add_pred_div]
  omega

theorem estimateAfter_mono (initial : Nat) {earlier later : Nat} (le : earlier ≤ later) :
    estimateAfter initial earlier ≤ estimateAfter initial later := by
  rw [estimateAfter, estimateAfter, Nat.ceilDiv_eq_add_pred_div, Nat.ceilDiv_eq_add_pred_div]
  omega

theorem estimateAfter_succ (initial seen : Nat) :
    estimateAfter initial (seen + 1) =
      if estimateAfter initial seen < seen + 1 then estimateAfter initial seen + 50
      else estimateAfter initial seen := by
  rw [estimateAfter, estimateAfter, Nat.ceilDiv_eq_add_pred_div, Nat.ceilDiv_eq_add_pred_div]
  split <;> omega

/-- The charge once a number of tokens has been seen. -/
def chargeAfter (kvModel : KvModel) (promptTokens initial seen : Nat) : Nat :=
  match kvModel with
  | .promptOnly => promptTokens
  | .promptPlusOutput => promptTokens + estimateAfter initial seen

theorem chargeAfter_mono (kvModel : KvModel) (promptTokens initial : Nat) {earlier later : Nat}
    (le : earlier ≤ later) :
    chargeAfter kvModel promptTokens initial earlier ≤
      chargeAfter kvModel promptTokens initial later := by
  cases kvModel with
  | promptOnly => exact Nat.le_refl promptTokens
  | promptPlusOutput => exact Nat.add_le_add_left (estimateAfter_mono initial le) promptTokens

theorem chargeAfter_le_add (kvModel : KvModel) (promptTokens : Nat) {initial seen : Nat}
    (beyond : initial < seen) :
    chargeAfter kvModel promptTokens initial seen ≤ promptTokens + seen + 49 := by
  have close := estimateAfter_le_add beyond
  cases kvModel with
  | promptOnly =>
      change promptTokens ≤ _
      omega
  | promptPlusOutput =>
      change promptTokens + estimateAfter initial seen ≤ _
      omega

/-- A lease that was opened with the given figures and has seen tokens one by one. -/
structure Counted (ref : BackendRef) (prompt initial : UInt32) (model : KvModel)
    (seen : Nat) (lease : CostLease) : Prop where
  backend : lease.backend = ref
  promptTokens : lease.promptTokens = prompt
  kvModel : lease.kvModel = model
  tokensSeen : lease.tokensSeen.toNat = seen
  oHat : lease.oHat.toNat = estimateAfter initial.toNat seen
  charged : lease.charged = model.project prompt lease.oHat
  unreleased : lease.released = false

section Counting

variable {backend : BackendRef} {promptTokens oHat : UInt32} {kvModel : KvModel} {seen : Nat}
  {lease : CostLease}

theorem counted_open (backend : BackendRef) (promptTokens oHat : UInt32) (kvModel : KvModel)
    (now : Instant) (heap : Heap) :
    Counted backend promptTokens oHat kvModel 0
      (CostLease.open backend promptTokens oHat kvModel now heap).1 where
  backend := rfl
  promptTokens := rfl
  kvModel := rfl
  tokensSeen := rfl
  oHat := (estimateAfter_zero oHat.toNat).symm
  charged := rfl
  unreleased := rfl

theorem counted_observeTokens (counted : Counted backend promptTokens oHat kvModel seen lease)
    (small : estimateAfter oHat.toNat (seen + 1) < 2 ^ 32) (heap : Heap) :
    Counted backend promptTokens oHat kvModel (seen + 1) (lease.observeTokens 1 heap).1 := by
  obtain ⟨sameBackend, sameModel, samePrompt, sameSeen, sameReleased⟩ :=
    lease.observeTokens_fields 1 heap
  have larger := le_estimateAfter oHat.toNat (seen + 1)
  have counts : (lease.tokensSeen + 1).toNat = seen + 1 := by
    rw [UInt32.toNat_add, UInt32.toNat_one, counted.tokensSeen]
    omega
  have sameTest : lease.oHat < lease.tokensSeen + 1 ↔
      estimateAfter oHat.toNat seen < seen + 1 := by
    rw [UInt32.lt_iff_toNat_lt, counts, counted.oHat]
  have next := estimateAfter_succ oHat.toNat seen
  refine ⟨sameBackend.trans counted.backend, samePrompt.trans counted.promptTokens,
    sameModel.trans counted.kvModel, ?_, ?_, ?_, sameReleased.trans counted.unreleased⟩
  · rw [sameSeen, counts]
  · by_cases exceeds : lease.oHat < lease.tokensSeen + 1
    · have step : rechargeStep.toNat = 50 := rfl
      rw [if_pos (sameTest.mp exceeds)] at next
      rw [observeTokens_of_lt _ _ _ exceeds, next, ← counted.oHat]
      dsimp only
      rw [UInt32.toNat_add, step, counted.oHat]
      omega
    · rw [if_neg (sameTest.not.mp exceeds)] at next
      rw [observeTokens_of_not_lt _ _ _ exceeds, next]
      exact counted.oHat
  · by_cases exceeds : lease.oHat < lease.tokensSeen + 1
    · rw [observeTokens_of_lt _ _ _ exceeds, counted.kvModel, counted.promptTokens]
    · rw [observeTokens_of_not_lt _ _ _ exceeds]
      exact counted.charged

theorem Counted.toInt_charged (counted : Counted backend promptTokens oHat kvModel seen lease) :
    lease.charged.toInt = chargeAfter kvModel promptTokens.toNat oHat.toNat seen := by
  rw [counted.charged, KvModel.toInt_project, counted.oHat]
  cases kvModel with
  | promptOnly => rfl
  | promptPlusOutput => exact (Nat.cast_add _ _).symm

end Counting

end CostLease

end KeelRouter
