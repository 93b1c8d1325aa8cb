import KeelRouter.Cost
import KeelRouter.RoutingDecision
import KeelRouter.TieScan

/-!
# The baseline strategies

Least requests and least KV tokens scan the healthy backends for the best count
and draw among the ties, power of two choices compares a sampled pair, and
round robin takes the next position.  None of them gates or scores.
-/

namespace KeelRouter

namespace LeastRequests

def name : String := "least_requests"

/-- One iteration of the scan for the fewest requests in flight. -/
def scanBackend (heap : Heap) (snap : Snapshot) (state : UInt32 × List BackendId)
    (id : BackendId) : Outcome (UInt32 × List BackendId) := do
  let (min, ties) := state
  let b ← snap.backend heap id
  let n := b.live.inflight
  return match compare n min with
    | .lt => (n, [id])
    | .eq => (min, ties ++ [id])
    | .gt => (min, ties)

/-- `LeastRequests::pick` -/
def pick (heap : Heap) (snap : Snapshot) (req : RequestFeatures) (rng : SmallRng)
    (trace : Option DecisionTrace) : Outcome Picked :=
  if snap.healthy.isEmpty then recordPick trace name heap snap req none
  else do
    let (_, ties) ← snap.healthy.foldlM (scanBackend heap snap) (4294967295, [])
    let picked := rng.choose ties
    recordPick trace name heap snap req picked

/-- The scan starts at the greatest count. -/
theorem compare_start (n : UInt32) : compare n 4294967295 = .lt ∨ n = 4294967295 := by
  by_cases less : n < 4294967295
  · exact .inl (if_pos less)
  · right
    have small := n.toNat_lt
    have large : ¬ n.toNat < 4294967295 := UInt32.lt_iff_toNat_lt.not.mp less
    apply UInt32.toNat_inj.mp
    change n.toNat = 4294967295
    omega

/-- The loop over ids that index the backends. -/
theorem scan_eq_ok {snap : Snapshot} (indexed : snap.Indexed) (heap : Heap) :
    snap.healthy.foldlM (scanBackend heap snap) (4294967295, []) =
      .ok (snap.healthy.foldl
        (TieScan.step (fun n min => some (compare n min))
          fun id => (heap (snap.refOf id)).live.inflight) (4294967295, [])) := by
  apply Outcome.foldlM_eq_ok
  rintro ⟨min, ties⟩ id member
  unfold scanBackend TieScan.step
  rw [Snapshot.backend_eq_ok indexed heap member]
  change Except.ok _ = Except.ok _
  dsimp only
  congr 1
  cases compare (heap (snap.refOf id)).live.inflight min <;> rfl

end LeastRequests

namespace LeastKvts

def name : String := "least_kvts"

/-- `tokens.max(0) as f64`, which rounds above 2^53. -/
def roundedAsFloat (tokens : Int64) : ExactFloat :=
  .finite (ExactFloat.roundNat (max tokens.toInt 0).toNat)

theorem roundedAsFloat_eq_clampedAsFloat {tokens : Int64} (small : tokens.toInt ≤ 2 ^ 53) :
    roundedAsFloat tokens = clampedAsFloat tokens := by
  have clamped : ((max tokens.toInt 0).toNat : ℤ) = max tokens.toInt 0 :=
    Int.toNat_of_nonneg (le_max_right _ _)
  rw [roundedAsFloat, ExactFloat.roundNat_of_le (by omega), clampedAsFloat, ← clamped]
  rfl

/-- One iteration of the scan for the most KV tokens left. -/
def scanBackend (heap : Heap) (snap : Snapshot) (state : ExactFloat × List BackendId)
    (id : BackendId) : Outcome (ExactFloat × List BackendId) := do
  let (bestScore, ties) := state
  let b ← snap.backend heap id
  let kv := b.live.kvProjectedTokens
  let remaining := roundedAsFloat (b.caps.kvCapacityTokens.asInt64 - kv)
  return match remaining.partialCmp bestScore with
    | some .gt => (remaining, [id])
    | some .eq => (bestScore, ties ++ [id])
    | _ => (bestScore, ties)

/-- `LeastKvts::pick` -/
def pick (heap : Heap) (snap : Snapshot) (req : RequestFeatures) (rng : SmallRng)
    (trace : Option DecisionTrace) : Outcome Picked :=
  if snap.healthy.isEmpty then recordPick trace name heap snap req none
  else do
    let (_, ties) ← snap.healthy.foldlM (scanBackend heap snap) (.negInf, [])
    let picked := rng.choose ties
    recordPick trace name heap snap req picked

/-- The loop over ids that index the backends, as a scan for the least score in
the opposite order. -/
theorem scan_eq_ok {snap : Snapshot} (indexed : snap.Indexed) (heap : Heap) :
    snap.healthy.foldlM (scanBackend heap snap) (.negInf, []) =
      .ok (snap.healthy.foldl
        (TieScan.step (fun remaining best => (remaining.partialCmp best).map Ordering.swap)
          fun id => roundedAsFloat ((heap (snap.refOf id)).caps.kvCapacityTokens.asInt64 -
            (heap (snap.refOf id)).live.kvProjectedTokens)) (.negInf, [])) := by
  apply Outcome.foldlM_eq_ok
  rintro ⟨best, ties⟩ id member
  unfold scanBackend TieScan.step
  rw [Snapshot.backend_eq_ok indexed heap member]
  change Except.ok _ = Except.ok _
  dsimp only
  congr 1
  generalize ExactFloat.partialCmp _ best = ordering
  rcases ordering with _ | _ | _ | _ <;> rfl

end LeastKvts

namespace P2c

def name : String := "p2c"

/-- The less loaded of two backends, the first one on a tie. -/
def lessLoaded (heap : Heap) (snap : Snapshot) (a b : BackendId) : Outcome BackendId := do
  let loadA := (← snap.backend heap a).live.inflight
  let loadB := (← snap.backend heap b).live.inflight
  return if loadA ≤ loadB then a else b

/-- `P2c::pick` -/
def pick (heap : Heap) (snap : Snapshot) (req : RequestFeatures) (rng : SmallRng)
    (trace : Option DecisionTrace) : Outcome Picked := do
  let picked ← match snap.healthy with
    | [] => pure none
    | [id] => pure (some id)
    | first :: second :: rest =>
        let sample := rng.samplePair rest.length
        let healthy := first :: second :: rest
        (lessLoaded heap snap (healthy.get sample.val.1) (healthy.get sample.val.2)).map some
  recordPick trace name heap snap req picked

end P2c

namespace RoundRobin

def name : String := "round_robin"

/-- `RoundRobin::pick`, with the value of `next` after the pick. -/
def pick (next : UInt64) (heap : Heap) (snap : Snapshot) (req : RequestFeatures)
    (trace : Option DecisionTrace) : Outcome (Picked × UInt64) := do
  if snap.healthy.isEmpty then
    let picked ← recordPick trace name heap snap req none
    return (picked, next)
  else
    let i := next.toNat % snap.healthy.length
    let id ← Outcome.index snap.healthy i
    let picked ← recordPick trace name heap snap req (some id)
    return (picked, next + 1)

end RoundRobin

end KeelRouter
