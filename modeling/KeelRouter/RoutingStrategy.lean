import KeelRouter.BaselineStrategies
import KeelRouter.Pressure

/-!
# The routing strategy of the router

The router holds one of five strategies behind a common interface.  Only round
robin has a state of its own, so a pick also gives the strategy after it.
-/

namespace KeelRouter

inductive RoutingStrategy where
  | roundRobin (next : UInt64)
  | p2c
  | leastRequests
  | leastKvts
  | pressure (self : Pressure)

namespace RoutingStrategy

def name : RoutingStrategy → String
  | .roundRobin _ => RoundRobin.name
  | .p2c => P2c.name
  | .leastRequests => LeastRequests.name
  | .leastKvts => LeastKvts.name
  | .pressure _ => Pressure.name

/-- `strategy.pick(..)`, with the strategy after the pick. -/
def pick (strategy : RoutingStrategy) (heap : Heap) (snap : Snapshot)
    (req : RequestFeatures) (rng : SmallRng) (trace : Option DecisionTrace) :
    Outcome (Picked × RoutingStrategy) :=
  match strategy with
  | .roundRobin next =>
      (RoundRobin.pick next heap snap req trace).map fun (picked, next) =>
        (picked, .roundRobin next)
  | .p2c => (P2c.pick heap snap req rng trace).map fun picked => (picked, strategy)
  | .leastRequests =>
      (LeastRequests.pick heap snap req rng trace).map fun picked => (picked, strategy)
  | .leastKvts =>
      (LeastKvts.pick heap snap req rng trace).map fun picked => (picked, strategy)
  | .pressure self =>
      (self.pick heap snap req rng trace).map fun picked => (picked, strategy)

theorem pick_map_fst (strategy : RoutingStrategy) (heap : Heap) (snap : Snapshot)
    (req : RequestFeatures) (rng : SmallRng) (trace : Option DecisionTrace) :
    (strategy.pick heap snap req rng trace).map Prod.fst =
      match strategy with
      | .roundRobin next => (RoundRobin.pick next heap snap req trace).map Prod.fst
      | .p2c => P2c.pick heap snap req rng trace
      | .leastRequests => LeastRequests.pick heap snap req rng trace
      | .leastKvts => LeastKvts.pick heap snap req rng trace
      | .pressure self => self.pick heap snap req rng trace := by
  unfold pick
  cases strategy with
  | roundRobin next =>
      dsimp only
      cases RoundRobin.pick next heap snap req trace <;> rfl
  | p2c =>
      dsimp only
      cases P2c.pick heap snap req rng trace <;> rfl
  | leastRequests =>
      dsimp only
      cases LeastRequests.pick heap snap req rng trace <;> rfl
  | leastKvts =>
      dsimp only
      cases LeastKvts.pick heap snap req rng trace <;> rfl
  | pressure self =>
      dsimp only
      cases self.pick heap snap req rng trace <;> rfl

/-- Only round robin changes by a pick. -/
theorem pick_stays {strategy after : RoutingStrategy} {heap : Heap} {snap : Snapshot}
    {req : RequestFeatures} {rng : SmallRng} {trace : Option DecisionTrace} {picked : Picked}
    (stateless : ∀ next, strategy ≠ .roundRobin next)
    (returned : strategy.pick heap snap req rng trace = .ok (picked, after)) :
    after = strategy := by
  have stays {result : Outcome Picked}
      (mapped : result.map (fun picked => (picked, strategy)) = .ok (picked, after)) :
      after = strategy := by
    obtain ⟨_, -, same⟩ := Outcome.map_eq_ok.mp mapped
    exact (Prod.mk.inj same).2.symm
  cases strategy with
  | roundRobin next => exact absurd rfl (stateless next)
  | p2c | leastRequests | leastKvts | pressure self => exact stays returned

theorem pick_pressure_eq_ok {self : Pressure} {heap : Heap} {snap : Snapshot}
    {req : RequestFeatures} {rng : SmallRng} {trace : Option DecisionTrace} {picked : Picked}
    {after : RoutingStrategy} :
    (pressure self).pick heap snap req rng trace = .ok (picked, after) ↔
      self.pick heap snap req rng trace = .ok picked ∧ after = .pressure self := by
  change (self.pick heap snap req rng trace).map _ = _ ↔ _
  cases self.pick heap snap req rng trace with
  | error panic => simp [Except.map]
  | ok chosen => simp [Except.map, eq_comm]

end RoutingStrategy

end KeelRouter
