import KeelRouter.Gate
import KeelRouter.RoutingDecision
import KeelRouter.TieScan

/-!
# The pressure strategy

The strategy scores the backends that pass the gate, or all healthy ones when
none does, and draws one of those that tie for the least score.

With in-range parameters the score is strictly increasing in the occupancy, so
the tie set consists of the pool's backends of least occupancy.
-/

namespace KeelRouter

structure Pressure where
  theta : ExactFloat
  penalty : ExactFloat
  sigma : ExactFloat
  kvModel : KvModel

namespace Pressure

variable (self : Pressure) (heap : Heap) (snap : Snapshot) (req : RequestFeatures)

def name : String := "pressure"

/-- The KV charge a request is gated with. -/
def needKv : Int64 :=
  self.kvModel.project req.promptTokens req.expectedOutputTokens

def score (b : Backend) : ExactFloat :=
  pressureScore (occupancy b) self.theta self.penalty

/-- One iteration of the scan over the pool. -/
def scanBackend (state : ExactFloat × List BackendId) (id : BackendId) :
    Outcome (ExactFloat × List BackendId) := do
  let (minScore, ties) := state
  let b ← snap.backend heap id
  let score := self.score b
  return match score.partialCmp minScore with
    | some .lt => (score, [id])
    | some .eq => (minScore, ties ++ [id])
    | _ => (minScore, ties)

/-- What the strategy knows before it draws. -/
structure Scan where
  eligible : List BackendId
  fellThrough : Bool
  ties : List BackendId
deriving DecidableEq

/-- The gate, the choice of the pool and the scan for the least score. -/
def scan : Outcome Scan := do
  let eligible ← KeelRouter.eligible heap snap (self.needKv req) self.sigma
  let fellThrough := eligible.isEmpty
  let pool := if fellThrough then snap.healthy else eligible
  let (_, ties) ← pool.foldlM (self.scanBackend heap snap) (.posInf, [])
  return { eligible, fellThrough, ties }

def candidateScore (scan : Scan) (id : BackendId) (b : Backend) : CandidateScore where
  backend := id
  score := self.score b
  occupancy := occupancy b
  inflight := b.live.inflight
  kvProjected := b.live.kvProjectedTokens
  gatedBy :=
    if !scan.fellThrough && !scan.eligible.contains id then
      let kvOk := b.live.kvProjectedTokens + self.needKv req ≤ kvLimit b self.sigma
      if ¬ kvOk then some .kvHeadroom else some .slotLimit
    else none
  reportedKv := b.reported.bind ReportedLoad.kvUsagePerc
  signalAgeMs := none

def candidates (scan : Scan) : Outcome (List CandidateScore) :=
  snap.healthy.mapM fun id => do
    let b ← snap.backend heap id
    return self.candidateScore req scan id b

/-- `Pressure::pick` -/
def pick (rng : SmallRng) (trace : Option DecisionTrace) : Outcome Picked :=
  if snap.healthy.isEmpty then
    .ok {
      chosen := none
      trace := trace.map fun trace => { trace with
        strategy := name
        chosen := none
        promptTokens := req.promptTokens
        expectedOutputTokens := req.expectedOutputTokens } }
  else do
    let scan ← self.scan heap snap req
    let picked := rng.choose scan.ties
    match trace with
    | none => return { chosen := picked, trace := none }
    | some trace =>
        let candidates ← self.candidates heap snap req scan
        return {
          chosen := picked
          trace := some { trace with
            strategy := name
            chosen := picked
            promptTokens := req.promptTokens
            expectedOutputTokens := req.expectedOutputTokens
            fellThrough := scan.fellThrough
            candidates } }

/-! ## Scans of well-indexed snapshots -/

def admitted : List BackendId :=
  snap.healthy.filter fun id => admits (heap (snap.refOf id)) (self.needKv req) self.sigma

/-- The backends that a request is compared over. -/
def pool : List BackendId :=
  if (self.admitted heap snap req).isEmpty then snap.healthy
  else self.admitted heap snap req

variable {self heap snap req}

theorem mem_admitted {id : BackendId} :
    id ∈ self.admitted heap snap req ↔ id ∈ snap.healthy ∧
      admits (heap (snap.refOf id)) (self.needKv req) self.sigma = true := by
  simp [admitted]

theorem mem_healthy_of_mem_pool {id : BackendId} (member : id ∈ self.pool heap snap req) :
    id ∈ snap.healthy := by
  unfold pool at member
  split at member
  · exact member
  · exact (mem_admitted.mp member).1

/-- The scan never panics when every healthy id is in range. -/
theorem scan_eq_ok (self : Pressure) (heap : Heap) (req : RequestFeatures)
    {snap : Snapshot} (indexed : snap.Indexed) :
    self.scan heap snap req = .ok {
      eligible := self.admitted heap snap req
      fellThrough := (self.admitted heap snap req).isEmpty
      ties := ((self.pool heap snap req).foldl
        (TieScan.step ExactFloat.partialCmp fun id => self.score (heap (snap.refOf id)))
        (.posInf, [])).2 } := by
  have loop : (self.pool heap snap req).foldlM (self.scanBackend heap snap) (.posInf, []) =
      .ok ((self.pool heap snap req).foldl
        (TieScan.step ExactFloat.partialCmp fun id => self.score (heap (snap.refOf id)))
        (.posInf, [])) := by
    apply Outcome.foldlM_eq_ok
    intro state id member
    unfold scanBackend
    rw [Snapshot.backend_eq_ok indexed heap (mem_healthy_of_mem_pool member)]
    rfl
  unfold scan
  rw [eligible_eq_filter indexed]
  change ((self.pool heap snap req).foldlM (self.scanBackend heap snap) _ >>= _) = _
  rw [loop]
  rfl

theorem scan_eq_error (self : Pressure) (heap : Heap) (req : RequestFeatures)
    {snap : Snapshot} (outOfRange : ¬ snap.Indexed) :
    ∃ panic, self.scan heap snap req = .error panic := by
  obtain ⟨panic, panicked⟩ :=
    eligible_eq_error outOfRange heap (self.needKv req) self.sigma
  refine ⟨panic, ?_⟩
  unfold scan
  rw [panicked]
  rfl

theorem candidates_eq_ok (indexed : snap.Indexed) (scan : Scan) :
    self.candidates heap snap req scan = .ok (snap.healthy.map fun id =>
      self.candidateScore req scan id (heap (snap.refOf id))) := by
  apply Outcome.mapM_eq_ok
  intro id member
  rw [Snapshot.backend_eq_ok indexed heap member]
  rfl

/-- A pick draws from the ties of the scan, and a trace records whether the
gate admitted nobody. -/
theorem pick_eq_ok (indexed : snap.Indexed) (nonempty : snap.healthy ≠ [])
    {scan : Scan} (scanned : self.scan heap snap req = .ok scan) (rng : SmallRng)
    (trace : Option DecisionTrace) :
    self.pick heap snap req rng trace = .ok {
      chosen := rng.choose scan.ties
      trace := trace.map fun trace => { trace with
        strategy := name
        chosen := rng.choose scan.ties
        promptTokens := req.promptTokens
        expectedOutputTokens := req.expectedOutputTokens
        fellThrough := scan.fellThrough
        candidates := snap.healthy.map fun id =>
          self.candidateScore req scan id (heap (snap.refOf id)) } } := by
  have notEmpty : ¬ snap.healthy.isEmpty := by simpa using nonempty
  unfold pick
  rw [if_neg notEmpty, scanned]
  cases trace with
  | none => rfl
  | some trace =>
      change (self.candidates heap snap req scan >>= _) = _
      rw [candidates_eq_ok indexed]
      rfl

theorem pick_eq_error (outOfRange : ¬ snap.Indexed) (rng : SmallRng)
    (trace : Option DecisionTrace) :
    ∃ panic, self.pick heap snap req rng trace = .error panic := by
  have notEmpty : ¬ snap.healthy.isEmpty := by
    intro empty
    apply outOfRange
    intro id member
    rw [List.isEmpty_iff.mp empty] at member
    cases member
  obtain ⟨panic, panicked⟩ := scan_eq_error self heap req outOfRange
  refine ⟨panic, ?_⟩
  unfold pick
  rw [if_neg notEmpty, panicked]
  rfl

/-- A backend that is picked without falling through has passed the gate. -/
theorem admits_of_pick {rng : SmallRng} {trace : DecisionTrace} {picked : Picked}
    {id : BackendId} (returned : self.pick heap snap req rng (some trace) = .ok picked)
    (chosen : picked.chosen = some id)
    (notFallen : (picked.trace.getD .default).fellThrough = false) :
    id ∈ snap.healthy ∧ snap.Indexed ∧
      admits (heap (snap.refOf id)) (self.needKv req) self.sigma = true := by
  by_cases indexed : snap.Indexed
  · have nonempty : snap.healthy ≠ [] := by
      intro empty
      have unpicked : self.pick heap snap req rng (some trace) = .ok _ :=
        if_pos (List.isEmpty_iff.mpr empty)
      rw [unpicked] at returned
      rw [← Except.ok.inj returned] at chosen
      cases chosen
    have scanned := scan_eq_ok self heap req indexed
    rw [pick_eq_ok indexed nonempty scanned] at returned
    obtain rfl := Except.ok.inj returned
    have someAdmitted : (self.admitted heap snap req).isEmpty = false := notFallen
    have inPool := TieScan.mem_of_mem_scan (SmallRng.choose_mem chosen)
    rw [pool, someAdmitted] at inPool
    obtain ⟨healthy, admitted⟩ := mem_admitted.mp inPool
    exact ⟨healthy, indexed, admitted⟩
  · have panics : ∃ panic, self.pick heap snap req rng (some trace) = .error panic :=
      pick_eq_error indexed rng (some trace)
    obtain ⟨panic, panicked⟩ := panics
    rw [panicked] at returned
    cases returned

end Pressure

end KeelRouter
