import KeelRouter.PressurePick
import KeelRouter.RoutingTotality

/-!
# The ties of the baseline scans

Least requests and least KV tokens hand their generator a tie list, which holds
exactly the optimal healthy backends.  The scan for the fewest requests starts
at the greatest count, so a backend with that count still joins the list.  The
KV tokens left are compared as floating point numbers, which tell apart all
amounts up to 2^53; only a counter far below zero leaves more than that.
-/

namespace KeelRouter

/-! ## Drawing among the optimal backends -/

/-- A strategy draws from its tie list, and this holds the optimal ones among
the healthy backends, each entry once and in order. -/
structure DrawsOptimal (optimal : BackendId → Prop) [DecidablePred optimal] (snap : Snapshot)
    (ties : Outcome (List BackendId))
    (pick : RequestFeatures → SmallRng → Option DecisionTrace → Outcome Picked) : Prop where
  ties : ties = .ok (snap.healthy.filter fun id => optimal id)
  drawn : ∀ req rng trace, (pick req rng trace).map Picked.chosen =
    .ok (rng.choose (snap.healthy.filter fun id => optimal id))
  once : snap.healthy.Nodup → (snap.healthy.filter fun id => optimal id).Nodup
  choosable : ∀ id ∈ snap.healthy, optimal id →
    ∃ rng, ∀ req trace, (pick req rng trace).map Picked.chosen = .ok (some id)
  chosen : ∀ req rng trace id, (pick req rng trace).map Picked.chosen = .ok (some id) →
    id ∈ snap.healthy ∧ optimal id

theorem DrawsOptimal.congr {optimal other : BackendId → Prop} [DecidablePred optimal]
    [DecidablePred other] {snap : Snapshot} {ties : Outcome (List BackendId)}
    {pick : RequestFeatures → SmallRng → Option DecisionTrace → Outcome Picked}
    (draws : DrawsOptimal optimal snap ties pick)
    (alike : ∀ id ∈ snap.healthy, optimal id ↔ other id) : DrawsOptimal other snap ties pick := by
  have same : (snap.healthy.filter fun id => optimal id) =
      snap.healthy.filter fun id => other id := by
    apply List.filter_congr
    intro id member
    simp only [alike id member]
  constructor
  · rw [← same]
    exact draws.ties
  · rw [← same]
    exact draws.drawn
  · rw [← same]
    exact draws.once
  · intro id member best
    exact draws.choosable id member ((alike id member).mpr best)
  · intro req rng trace id picked
    obtain ⟨member, best⟩ := draws.chosen req rng trace id picked
    exact ⟨member, (alike id member).mp best⟩

/-- A draw from the optimal backends that is then recorded. -/
theorem DrawsOptimal.of_ties {optimal : BackendId → Prop} [DecidablePred optimal]
    {snap : Snapshot} (indexed : snap.Indexed) {heap : Heap} {name : String}
    {ties : Outcome (List BackendId)}
    {pick : RequestFeatures → SmallRng → Option DecisionTrace → Outcome Picked}
    (tied : ties = .ok (snap.healthy.filter fun id => optimal id))
    (picks : ∀ req rng trace, pick req rng trace =
      ties >>= fun ties => recordPick trace name heap snap req (rng.choose ties)) :
    DrawsOptimal optimal snap ties pick := by
  have drawn (req : RequestFeatures) (rng : SmallRng) (trace : Option DecisionTrace) :
      (pick req rng trace).map Picked.chosen =
        .ok (rng.choose (snap.healthy.filter fun id => optimal id)) := by
    rw [picks, tied]
    obtain ⟨picked, recorded⟩ := recordPick_total indexed heap req trace name
      (rng.choose (snap.healthy.filter fun id => optimal id))
    change (recordPick trace name heap snap req _).map Picked.chosen = _
    rw [recorded, ← recordPick_chosen recorded]
    rfl
  refine ⟨tied, drawn, fun distinct => distinct.filter _, ?_, ?_⟩
  · intro id member best
    have listed : id ∈ snap.healthy.filter fun id => optimal id :=
      List.mem_filter.mpr ⟨member, decide_eq_true best⟩
    obtain ⟨rng, draws⟩ := SmallRng.exists_choose_eq listed
    refine ⟨rng, ?_⟩
    intro req trace
    rw [drawn, draws]
  · intro req rng trace id picked
    rw [drawn] at picked
    obtain ⟨member, best⟩ := List.mem_filter.mp (SmallRng.choose_mem (Except.ok.inj picked))
    exact ⟨member, of_decide_eq_true best⟩

/-! ## Least requests -/

namespace LeastRequests

/-- The tie list of `pick`. -/
def ties (heap : Heap) (snap : Snapshot) : Outcome (List BackendId) :=
  (snap.healthy.foldlM (scanBackend heap snap) (4294967295, [])).map Prod.snd

theorem pick_eq_ties {snap : Snapshot} (nonempty : snap.healthy ≠ []) (heap : Heap)
    (req : RequestFeatures) (rng : SmallRng) (trace : Option DecisionTrace) :
    pick heap snap req rng trace =
      ties heap snap >>= fun ties => recordPick trace name heap snap req (rng.choose ties) := by
  unfold pick ties
  rw [if_neg (by simpa using nonempty)]
  cases snap.healthy.foldlM (scanBackend heap snap) (4294967295, []) <;> rfl

/-- No healthy backend has fewer requests in flight. -/
def Fewest (heap : Heap) (snap : Snapshot) (id : BackendId) : Prop :=
  ∀ other ∈ snap.healthy,
    (heap (snap.refOf id)).live.inflight ≤ (heap (snap.refOf other)).live.inflight

instance (heap : Heap) (snap : Snapshot) : DecidablePred (Fewest heap snap) := fun id =>
  inferInstanceAs (Decidable (∀ other ∈ snap.healthy,
    (heap (snap.refOf id)).live.inflight ≤ (heap (snap.refOf other)).live.inflight))

theorem compare_ofFin (first second : Fin UInt32.size) :
    compare (UInt32.ofFin first) (UInt32.ofFin second) = compare first second := by
  apply TieScan.eq_compare
  · exact fun less => if_pos less
  · rintro rfl
    simp [compareOfLessAndEq, compare]
  · intro greater
    have notLess : ¬ UInt32.ofFin first < UInt32.ofFin second := greater.asymm
    have differ : UInt32.ofFin first ≠ UInt32.ofFin second := by
      intro same
      exact greater.ne' (congrArg UInt32.toFin same)
    change compareOfLessAndEq (UInt32.ofFin first) (UInt32.ofFin second) = .gt
    unfold compareOfLessAndEq
    rw [if_neg notLess, if_neg differ]

theorem ties_eq_ok {snap : Snapshot} (indexed : snap.Indexed) (heap : Heap) :
    ties heap snap = .ok (snap.healthy.filter fun id => Fewest heap snap id) := by
  unfold ties
  rw [scan_eq_ok indexed]
  have collected : (snap.healthy.foldl (TieScan.step (fun n min => some (compare n min))
      fun id => (heap (snap.refOf id)).live.inflight) (4294967295, [])).2 =
        TieScan.minimal (fun id => (heap (snap.refOf id)).live.inflight.toFin) snap.healthy :=
    TieScan.scan_eq_minimal (fun first second => congrArg some (compare_ofFin first second))
      (fun count => (compare_start (.ofFin count)).imp_left (congrArg some)) fun _ _ => rfl
  change Except.ok _ = Except.ok _
  rw [collected]
  rfl

example : ties (fun ref => { Backend.fresh ⟨UInt16.ofNat ref⟩ "http://x" "m" 1 ⟨8192, 10⟩ with
    live := ⟨4294967295, 0⟩ }) unevenSnapshot = .ok [⟨0⟩, ⟨1⟩] := by decide

end LeastRequests

/-! ## Least KV tokens -/

namespace LeastKvts

/-- The tie list of `pick`. -/
def ties (heap : Heap) (snap : Snapshot) : Outcome (List BackendId) :=
  (snap.healthy.foldlM (scanBackend heap snap) (.negInf, [])).map Prod.snd

theorem pick_eq_ties {snap : Snapshot} (nonempty : snap.healthy ≠ []) (heap : Heap)
    (req : RequestFeatures) (rng : SmallRng) (trace : Option DecisionTrace) :
    pick heap snap req rng trace =
      ties heap snap >>= fun ties => recordPick trace name heap snap req (rng.choose ties) := by
  unfold pick ties
  rw [if_neg (by simpa using nonempty)]
  cases snap.healthy.foldlM (scanBackend heap snap) (.negInf, []) <;> rfl

/-- The KV tokens left as they are compared, in the arithmetic of the machine. -/
def score (b : Backend) : ExactFloat :=
  roundedAsFloat (b.caps.kvCapacityTokens.asInt64 - b.live.kvProjectedTokens)

/-- The KV tokens left. -/
def remaining (b : Backend) : ℤ :=
  max 0 (b.caps.kvCapacityTokens.toNat - b.live.kvProjectedTokens.toInt)

/-- No healthy backend has a higher score. -/
def Highest (heap : Heap) (snap : Snapshot) (id : BackendId) : Prop :=
  ∀ other ∈ snap.healthy, score (heap (snap.refOf other)) ≤ score (heap (snap.refOf id))

instance (heap : Heap) (snap : Snapshot) : DecidablePred (Highest heap snap) := fun id =>
  inferInstanceAs (Decidable (∀ other ∈ snap.healthy,
    score (heap (snap.refOf other)) ≤ score (heap (snap.refOf id))))

/-- No healthy backend has more KV tokens left. -/
def Most (heap : Heap) (snap : Snapshot) (id : BackendId) : Prop :=
  ∀ other ∈ snap.healthy, remaining (heap (snap.refOf other)) ≤ remaining (heap (snap.refOf id))

instance (heap : Heap) (snap : Snapshot) : DecidablePred (Most heap snap) := fun id =>
  inferInstanceAs (Decidable (∀ other ∈ snap.healthy,
    remaining (heap (snap.refOf other)) ≤ remaining (heap (snap.refOf id))))

/-- The number of tokens that a score stands for. -/
def scoredTokens (b : Backend) : ℕ :=
  ExactFloat.roundNat
    (max (b.caps.kvCapacityTokens.asInt64 - b.live.kvProjectedTokens).toInt 0).toNat

theorem score_le_score (first second : Backend) :
    score first ≤ score second ↔ scoredTokens first ≤ scoredTokens second := by
  change ExactFloat.finite (scoredTokens first) ≤ .finite (scoredTokens second) ↔ _
  rw [ExactFloat.finite_le_finite, Nat.cast_le]

/-- More tokens come first in the opposite order. -/
theorem compare_ofDual (first second : ℕᵒᵈ) :
    ((ExactFloat.finite (OrderDual.ofDual first : ℕ)).partialCmp
      (.finite (OrderDual.ofDual second : ℕ))).map Ordering.swap = some (compare first second) := by
  rw [ExactFloat.partialCmp_finite, Option.map_some]
  congr 1
  apply TieScan.eq_compare
  · intro (less : OrderDual.ofDual second < OrderDual.ofDual first)
    rw [compare_gt_iff_gt.mpr (Nat.cast_lt.mpr less)]
    rfl
  · rintro rfl
    rw [compare_eq_iff_eq.mpr rfl]
    rfl
  · intro (greater : OrderDual.ofDual first < OrderDual.ofDual second)
    rw [compare_lt_iff_lt.mpr (Nat.cast_lt.mpr greater)]
    rfl

theorem ties_eq_ok {snap : Snapshot} (indexed : snap.Indexed) (heap : Heap) :
    ties heap snap = .ok (snap.healthy.filter fun id => Highest heap snap id) := by
  have collected : (snap.healthy.foldl
      (TieScan.step (fun remaining best => (remaining.partialCmp best).map Ordering.swap)
        fun id => score (heap (snap.refOf id))) (.negInf, [])).2 =
      TieScan.minimal (fun id => OrderDual.toDual (scoredTokens (heap (snap.refOf id))))
        snap.healthy :=
    TieScan.scan_eq_minimal compare_ofDual (fun _ => .inl rfl) fun _ _ => rfl
  have highest : TieScan.minimal
      (fun id => OrderDual.toDual (scoredTokens (heap (snap.refOf id)))) snap.healthy =
        snap.healthy.filter fun id => Highest heap snap id := by
    apply List.filter_congr
    intro id _
    simp only [Highest, score_le_score, OrderDual.toDual_le_toDual]
  unfold ties
  rw [scan_eq_ok indexed, ← highest, ← collected]
  rfl

/-- Within the integers that floating point numbers tell apart, the score is the
number of tokens left. -/
theorem score_eq_remaining {b : Backend}
    (within : (b.caps.kvCapacityTokens.toNat : ℤ) - 2 ^ 53 ≤ b.live.kvProjectedTokens.toInt) :
    score b = .finite (remaining b : ℤ) := by
  have capacity := b.caps.kvCapacityTokens.toNat_lt
  have counter := b.live.kvProjectedTokens.toInt_lt
  have difference : (b.caps.kvCapacityTokens.asInt64 - b.live.kvProjectedTokens).toInt =
      b.caps.kvCapacityTokens.toNat - b.live.kvProjectedTokens.toInt := by
    rw [Int64.toInt_sub_of_mem, UInt32.toInt_asInt64]
    · rw [UInt32.toInt_asInt64]
      omega
    · rw [UInt32.toInt_asInt64]
      omega
  rw [score, roundedAsFloat_eq_clampedAsFloat (by omega), clampedAsFloat, difference, max_comm,
    remaining]

theorem highest_iff_most {heap : Heap} {snap : Snapshot}
    (within : ∀ id ∈ snap.healthy,
      ((heap (snap.refOf id)).caps.kvCapacityTokens.toNat : ℤ) - 2 ^ 53 ≤
        (heap (snap.refOf id)).live.kvProjectedTokens.toInt) {id : BackendId}
    (member : id ∈ snap.healthy) : Highest heap snap id ↔ Most heap snap id := by
  unfold Highest Most
  apply forall₂_congr
  intro other listed
  rw [score_eq_remaining (within id member), score_eq_remaining (within other listed),
    ExactFloat.finite_le_finite, Int.cast_le]

end LeastKvts

/-- Both baselines draw among the optimal backends, as far as their arithmetic
tells the KV tokens left apart. -/
structure BaselinesDrawOptimal (heap : Heap) (snap : Snapshot) : Prop where
  leastRequests : DrawsOptimal (LeastRequests.Fewest heap snap) snap
    (LeastRequests.ties heap snap) (LeastRequests.pick heap snap)
  scored : DrawsOptimal (LeastKvts.Highest heap snap) snap (LeastKvts.ties heap snap)
    (LeastKvts.pick heap snap)
  leastKvts : (∀ id ∈ snap.healthy,
    ((heap (snap.refOf id)).caps.kvCapacityTokens.toNat : ℤ) - 2 ^ 53 ≤
      (heap (snap.refOf id)).live.kvProjectedTokens.toInt) →
    DrawsOptimal (LeastKvts.Most heap snap) snap (LeastKvts.ties heap snap)
      (LeastKvts.pick heap snap)

/-- The baselines draw among the optimal backends, whatever the counters. -/
theorem baselines_draw_optimal {snap : Snapshot} (indexed : snap.Indexed)
    (nonempty : snap.healthy ≠ []) (heap : Heap) : BaselinesDrawOptimal heap snap := by
  have scored : DrawsOptimal (LeastKvts.Highest heap snap) snap (LeastKvts.ties heap snap)
      (LeastKvts.pick heap snap) :=
    .of_ties indexed (LeastKvts.ties_eq_ok indexed heap)
      (LeastKvts.pick_eq_ties nonempty heap)
  refine ⟨?_, scored, ?_⟩
  · exact .of_ties indexed (LeastRequests.ties_eq_ok indexed heap)
      (LeastRequests.pick_eq_ties nonempty heap)
  · intro within
    exact scored.congr fun id member => LeastKvts.highest_iff_most within member

theorem baselines_draw_optimal_uneven :
    BaselinesDrawOptimal unevenHeap unevenSnapshot ∧
      DrawsOptimal (LeastKvts.Most unevenHeap unevenSnapshot) unevenSnapshot
        (LeastKvts.ties unevenHeap unevenSnapshot) (LeastKvts.pick unevenHeap unevenSnapshot) := by
  have draws := baselines_draw_optimal (by decide : unevenSnapshot.Indexed) (by decide) unevenHeap
  exact ⟨draws, draws.leastKvts (by decide)⟩

/-- Two backends with counters so far below zero that 2^53 + 1 and 2^53 tokens
are left. -/
def owedHeap : Heap := fun ref =>
  { Backend.fresh ⟨UInt16.ofNat ref⟩ "http://x" "m" 1 ⟨if ref = 0 then 8193 else 8192, 10⟩ with
    live := { LiveCounters.default with kvProjectedTokens := -9007199254732800 } }

theorem owed_tokens_tie :
    unevenSnapshot.Indexed ∧ unevenSnapshot.healthy ≠ [] ∧
      ¬ DrawsOptimal (LeastKvts.Most owedHeap unevenSnapshot) unevenSnapshot
        (LeastKvts.ties owedHeap unevenSnapshot) (LeastKvts.pick owedHeap unevenSnapshot) := by
  refine ⟨by decide, by decide, ?_⟩
  intro draws
  have tied : LeastKvts.ties owedHeap unevenSnapshot = .ok [⟨0⟩, ⟨1⟩] := by decide +kernel
  rw [draws.ties] at tied
  exact absurd tied (by decide +kernel)

end KeelRouter
