import KeelRouter.Backend

/-!
# Routing decisions

A strategy reads a snapshot and the features of a request, draws at most once
from its random number generator and names a backend.  A caller that passes a
decision trace gets it filled in.
-/

namespace KeelRouter

structure RequestFeatures where
  model : String
  promptTokens : UInt32
  promptTokensExact : Bool
  expectedOutputTokens : UInt32
  maxTokens : Option UInt32
  prefixKey : Option UInt64
  streaming : Bool
  arrivedAt : Instant
deriving DecidableEq

/-! ## Random draws -/

/-- The next draw of a random number generator, whichever question it answers:
an index below a positive length, or two different indices. -/
structure SmallRng where
  genIndex : (last : Nat) → Fin (last + 1)
  samplePair : (rest : Nat) → { pair : Fin (rest + 2) × Fin (rest + 2) // pair.1 ≠ pair.2 }

def SmallRng.first : SmallRng where
  genIndex _ := 0
  samplePair _ := ⟨(0, 1), by simp⟩

def SmallRng.last : SmallRng where
  genIndex last := Fin.last last
  samplePair rest := ⟨(Fin.last (rest + 1), 0), by simp [Fin.ext_iff]⟩

/-- `slice.choose(rng).copied()` -/
def SmallRng.choose {α : Type*} (rng : SmallRng) : List α → Option α
  | [] => none
  | item :: items => some ((item :: items).get (rng.genIndex items.length))

theorem SmallRng.choose_mem {α : Type*} {rng : SmallRng} {items : List α} {item : α}
    (chosen : rng.choose items = some item) : item ∈ items := by
  cases items with
  | nil => cases chosen
  | cons first items =>
      rw [← Option.some.inj chosen]
      exact List.get_mem _ _

theorem SmallRng.exists_choose {α : Type*} (rng : SmallRng) {items : List α}
    (nonempty : items ≠ []) : ∃ item ∈ items, rng.choose items = some item := by
  cases items with
  | nil => exact absurd rfl nonempty
  | cons first items => exact ⟨_, List.get_mem _ _, rfl⟩

/-! ## Decision traces -/

inductive GateReason where
  | kvHeadroom
  | slotLimit
deriving DecidableEq

structure CandidateScore where
  backend : BackendId
  score : ExactFloat
  occupancy : ExactFloat
  inflight : UInt32
  kvProjected : Int64
  gatedBy : Option GateReason
  reportedKv : Option ExactFloat
  signalAgeMs : Option UInt64
deriving DecidableEq

structure DecisionTrace where
  strategy : String
  chosen : Option BackendId
  candidates : List CandidateScore
  promptTokens : UInt32
  expectedOutputTokens : UInt32
  fellThrough : Bool
deriving DecidableEq

def DecisionTrace.default : DecisionTrace where
  strategy := ""
  chosen := none
  candidates := []
  promptTokens := 0
  expectedOutputTokens := 0
  fellThrough := false

/-- The backend a strategy picked and the trace it filled in. -/
structure Picked where
  chosen : Option BackendId
  trace : Option DecisionTrace

/-- The candidate entry of a strategy that computes no scores. -/
def unscoredCandidate (heap : Heap) (snap : Snapshot) (id : BackendId) :
    Outcome CandidateScore := do
  let b ← snap.backend heap id
  return {
    backend := id
    score := 0
    occupancy := 0
    inflight := b.live.inflight
    kvProjected := b.live.kvProjectedTokens
    gatedBy := none
    reportedKv := none
    signalAgeMs := none }

/-- `trace::record_pick` -/
def recordPick (trace : Option DecisionTrace) (strategy : String) (heap : Heap)
    (snap : Snapshot) (req : RequestFeatures) (chosen : Option BackendId) : Outcome Picked :=
  match trace with
  | none => .ok { chosen, trace := none }
  | some trace => do
      let candidates ← snap.healthy.mapM (unscoredCandidate heap snap)
      return {
        chosen
        trace := some { trace with
          strategy
          chosen
          promptTokens := req.promptTokens
          expectedOutputTokens := req.expectedOutputTokens
          fellThrough := false
          candidates } }

theorem recordPick_chosen {trace : Option DecisionTrace} {strategy : String} {heap : Heap}
    {snap : Snapshot} {req : RequestFeatures} {chosen : Option BackendId} {picked : Picked}
    (recorded : recordPick trace strategy heap snap req chosen = .ok picked) :
    picked.chosen = chosen := by
  cases trace with
  | none =>
      obtain rfl := Except.ok.inj recorded
      rfl
  | some trace =>
      unfold recordPick at recorded
      cases listed : snap.healthy.mapM (unscoredCandidate heap snap) with
      | error panic => simp [listed, bind, Except.bind] at recorded
      | ok candidates =>
          simp only [listed, bind, Except.bind, pure, Except.pure, Except.ok.injEq] at recorded
          rw [← recorded]

end KeelRouter
