import KeelRouter.RoutingDecision
import Mathlib.Algebra.Order.Round
import Mathlib.Analysis.SpecialFunctions.Log.Basic

/-!
# Output length estimates

A request's output length is estimated by the client's own limit, by the decayed
average of what its route produced before, or by a default.  A route is a model
and a power-of-two bucket of the prompt length.

The averages are kept in any arithmetic that can convert counts and knows the
weight that is left of an observation after some time.
-/

namespace KeelRouter

/-- The arithmetic of the decayed averages. -/
class DecayNumber (F : Type) extends Zero F, One F, Add F, Sub F, Mul F, Max F where
  ofCount : UInt32 → F
  /-- `(-elapsed * LN_2 / halflife).exp()` -/
  decay : F → F → F
  /-- `v.round() as u32` -/
  roundToCount : F → UInt32

noncomputable instance : DecayNumber ℝ where
  ofCount count := count.toNat
  decay elapsed halflife := Real.exp (-elapsed * Real.log 2 / halflife)
  roundToCount value := UInt32.ofNat (min (round value).toNat 4294967295)

noncomputable def ln2 : ℝ := Real.log 2

structure DecayingQuantile (F : Type) where
  halflifeS : F
  estimate : Option F
  lastObsS : F

namespace DecayingQuantile

variable {F : Type} [DecayNumber F]

/-- `DecayingQuantile::new` -/
def new (halflifeS : F) : DecayingQuantile F where
  halflifeS := halflifeS
  estimate := none
  lastObsS := 0

/-- `DecayingQuantile::observe` -/
def observe (self : DecayingQuantile F) (value : UInt32) (nowS : F) : DecayingQuantile F :=
  let v : F := DecayNumber.ofCount value
  match self.estimate with
  | none => { self with estimate := some v, lastObsS := nowS }
  | some prev =>
      let elapsed := max (nowS - self.lastObsS) 0
      let decay := DecayNumber.decay elapsed self.halflifeS
      { self with estimate := some (prev * decay + v * (1 - decay)), lastObsS := nowS }

/-- `DecayingQuantile::estimate` -/
def estimateCount (self : DecayingQuantile F) : Option UInt32 :=
  self.estimate.map DecayNumber.roundToCount

end DecayingQuantile

def defaultOutputEstimate : UInt32 := 128

abbrev RouteKey := String × UInt32

def promptBucket (tokens : UInt32) : UInt32 :=
  if tokens = 0 then 0
  else
    let floored := UInt32.ofNat (2 ^ tokens.toNat.log2)
    if floored ≤ 4096 then floored else 4096

def routeKey (model : String) (promptTokens : UInt32) : RouteKey :=
  (model, promptBucket promptTokens)

def routeKeyFor (features : RequestFeatures) : RouteKey :=
  routeKey features.model features.promptTokens

structure RouteHistograms (F : Type) where
  halflifeS : F
  inner : RouteKey → Option (DecayingQuantile F)

namespace RouteHistograms

variable {F : Type} [DecayNumber F]

/-- `RouteHistograms::new` -/
def new (halflifeS : F) : RouteHistograms F where
  halflifeS := halflifeS
  inner _ := none

/-- `RouteHistograms::estimate` -/
def estimate (self : RouteHistograms F) (key : RouteKey) (maxTokens : Option UInt32) :
    UInt32 :=
  match maxTokens with
  | some limit => max limit 1
  | none =>
      match (self.inner key).bind DecayingQuantile.estimateCount with
      | some learned => max learned 1
      | none => defaultOutputEstimate

/-- `RouteHistograms::observe`, at the given time since the start -/
def observe (self : RouteHistograms F) (key : RouteKey) (completionTokens : UInt32)
    (nowS : F) : RouteHistograms F :=
  let entry := (self.inner key).getD (.new self.halflifeS)
  { self with
    inner := fun other =>
      if other = key then some (entry.observe completionTokens nowS) else self.inner other }

end RouteHistograms

end KeelRouter
