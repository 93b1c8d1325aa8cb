import KeelRouter.EstimateBounds
import KeelRouter.PassiveEjection
import KeelRouter.RequestTrace
import Mathlib.Analysis.Convex.Hull
import Mathlib.Analysis.Convex.Basic

/-!
# The learned estimates of the whole system

Every usage frame moves the average of its own route by a convex step, so the
average stays in the hull of the counts that were reported for the route.  A
request without a limit of its own is therefore expected to produce the default,
as long as its route was never reported, or a count between two reported ones.
-/

namespace KeelRouter

/-! ## Averages in a hull -/

theorem exists_le_of_mem_convexHull {values : Set ℝ} {x : ℝ} (member : x ∈ convexHull ℝ values) :
    ∃ low ∈ values, low ≤ x := by
  by_contra none
  push Not at none
  have above : convexHull ℝ values ⊆ Set.Ioi x := convexHull_min none (convex_Ioi x)
  exact lt_irrefl x (above member)

theorem exists_ge_of_mem_convexHull {values : Set ℝ} {x : ℝ} (member : x ∈ convexHull ℝ values) :
    ∃ high ∈ values, x ≤ high := by
  by_contra none
  push Not at none
  have below : convexHull ℝ values ⊆ Set.Iio x := convexHull_min none (convex_Iio x)
  exact lt_irrefl x (below member)

/-- The hull of a set of counts. -/
def countHull (counts : Set UInt32) : Set ℝ :=
  convexHull ℝ ((fun count => (count.toNat : ℝ)) '' counts)

theorem countHull_mono {first second : Set UInt32} (subset : first ⊆ second) :
    countHull first ⊆ countHull second :=
  convexHull_mono (Set.image_mono subset)

theorem mem_countHull {counts : Set UInt32} {count : UInt32} (member : count ∈ counts) :
    (count.toNat : ℝ) ∈ countHull counts :=
  subset_convexHull ℝ _ (Set.mem_image_of_mem _ member)

/-- One observation takes the average to a point between it and the count. -/
theorem observe_mem_hull {halflife : ExactFloat} (convex : ConvexHalflife halflife)
    {counts : Set UInt32} {estimate : ℝ} (learned : estimate ∈ countHull counts) {count : UInt32}
    (member : count ∈ counts) (last now : ℝ) :
    ∃ next ∈ countHull counts,
      (learnedAverage halflife estimate last).observe count (.finite now) =
        learnedAverage halflife next now := by
  have hull : Convex ℝ (countHull counts) := convex_convexHull ℝ _
  have inside := hull.ordConnected.uIcc_subset learned (mem_countHull member)
  obtain ⟨next, above, below, observed⟩ := observe_between convex
    ⟨min_le_left estimate count.toNat, min_le_right estimate count.toNat⟩
    ⟨le_max_left estimate count.toNat, le_max_right estimate count.toNat⟩ last now
  exact ⟨next, inside ⟨above, below⟩, observed⟩

/-- What was observed once is expected next. -/
theorem RouteHistograms.estimate_observe_new (halflife : RealFloat) (key : RouteKey)
    (count : UInt32) (now : RealFloat) :
    ((RouteHistograms.new halflife).observe key count now).estimate key none = max count 1 := by
  have exact : (RealFloat.finite count.toNat).roundToUInt32 = count := by
    obtain ⟨above, below⟩ := RealFloat.toNat_roundToUInt32_bounds count.toNat_lt
      (le_refl (count.toNat : ℝ)) (le_refl (count.toNat : ℝ))
    exact UInt32.toNat_inj.mp (le_antisymm below above)
  have learned : (((RouteHistograms.new halflife).observe key count now).inner key).bind
      DecayingQuantile.estimateCount = some (RealFloat.finite count.toNat).roundToUInt32 := by
    unfold observe
    dsimp only
    rw [if_pos rfl]
    rfl
  unfold estimate
  rw [learned, exact]

/-- The store has learned from the counts that were reported for each route. -/
structure RouteHistograms.LearnedFrom (halflife : ExactFloat) (reported : RouteKey → Set UInt32)
    (hists : RouteHistograms RealFloat) : Prop where
  halflifeS : hists.halflifeS = .ofExact halflife
  entries : ∀ key, (hists.inner key = none ∧ reported key = ∅) ∨ ∃ learned last : ℝ,
    hists.inner key = some (learnedAverage halflife learned last) ∧
      learned ∈ countHull (reported key)

namespace RouteHistograms.LearnedFrom

variable {halflife : ExactFloat} {reported : RouteKey → Set UInt32}
  {hists : RouteHistograms RealFloat}

theorem new (halflife : ExactFloat) :
    (RouteHistograms.new (.ofExact halflife)).LearnedFrom halflife (fun _ => ∅) where
  halflifeS := rfl
  entries _ := .inl ⟨rfl, rfl⟩

theorem observe (learned : hists.LearnedFrom halflife reported)
    (convex : ConvexHalflife halflife) (key : RouteKey) (count : UInt32) (now : ℝ) :
    (hists.observe key count (.finite now)).LearnedFrom halflife
      (fun other => if other = key then insert count (reported other) else reported other) where
  halflifeS := learned.halflifeS
  entries other := by
    by_cases own : other = key
    · subst own
      simp only [if_true]
      have member : count ∈ insert count (reported other) := Set.mem_insert _ _
      refine .inr ?_
      unfold RouteHistograms.observe
      dsimp only
      rw [if_pos rfl]
      rcases learned.entries other with ⟨fresh, -⟩ | ⟨estimate, last, kept, inside⟩
      · refine ⟨count.toNat, now, ?_, mem_countHull member⟩
        rw [fresh, Option.getD_none, learned.halflifeS]
        rfl
      · have wider := countHull_mono (Set.subset_insert count _) inside
        obtain ⟨next, nextInside, observed⟩ := observe_mem_hull convex wider member last now
        refine ⟨next, now, ?_, nextInside⟩
        rw [kept, Option.getD_some, observed]
    · unfold RouteHistograms.observe
      dsimp only
      rw [if_neg own, if_neg own]
      exact learned.entries other

theorem congr {others : RouteKey → Set UInt32} (learned : hists.LearnedFrom halflife reported)
    (same : ∀ key, reported key = others key) : hists.LearnedFrom halflife others := by
  rw [← funext same]
  exact learned

/-- The calls of one poll are observed in their order. -/
theorem observeEffects (learned : hists.LearnedFrom halflife reported)
    (convex : ConvexHalflife halflife) (calls : List Effect) (now : ℝ) :
    (calls.foldl (HandlerState.observeEffect (.finite now)) hists).LearnedFrom halflife
      (fun key => reported key ∪ {count | .observeRoute key count ∈ calls}) := by
  induction calls generalizing hists reported with
  | nil => exact learned.congr fun key => by simp
  | cons call calls ih =>
      rw [List.foldl_cons]
      cases call with
      | observeRoute route count =>
          refine (ih (learned.observe convex route count now)).congr fun key => ?_
          ext other
          by_cases own : key = route
          · subst own
            simp [or_assoc, or_left_comm]
          · simp [own]
      | recordPromptTokenRatio _ _ | recordOutputLengthRatio _ _ | recordBackendError _ _
      | recordRequestResult _ | countSaturatedDispatch =>
          exact (ih learned).congr fun key => by simp

/-- The estimate of a route nobody reported is the default; another one lies
between two reported counts. -/
theorem estimate_between (learned : hists.LearnedFrom halflife reported) (key : RouteKey)
    (positive : ∀ count ∈ reported key, 0 < count) :
    hists.estimate key none = defaultOutputEstimate ∨
      ∃ low ∈ reported key, ∃ high ∈ reported key,
        low ≤ hists.estimate key none ∧ hists.estimate key none ≤ high := by
  rcases learned.entries key with ⟨fresh, -⟩ | ⟨average, last, kept, inside⟩
  · left
    unfold RouteHistograms.estimate
    rw [fresh]
    rfl
  · right
    obtain ⟨_, ⟨low, lowMem, rfl⟩, above⟩ := exists_le_of_mem_convexHull inside
    obtain ⟨_, ⟨high, highMem, rfl⟩, below⟩ := exists_ge_of_mem_convexHull inside
    obtain ⟨roundedAbove, roundedBelow⟩ :=
      RealFloat.toNat_roundToUInt32_bounds low.toNat_lt above below
    have exact := estimate_of_inner kept rfl
    have lowPositive := UInt32.lt_iff_toNat_lt.mp (positive low lowMem)
    rw [UInt32.toNat_zero] at lowPositive
    refine ⟨low, lowMem, high, highMem, ?_, ?_⟩ <;> rw [UInt32.le_iff_toNat_le, exact] <;> omega

end RouteHistograms.LearnedFrom

/-- An accepted body is given the estimate of its route, or its own limit. -/
theorem expectedOutputTokens_of_buildFeatures {F : Type} [DecayNumber F]
    {codec : SerdeJson.Codec} {bytes : List UInt8} {now : Instant} {hists : RouteHistograms F}
    {counter : TokenCounter} {features : RequestFeatures}
    (built : buildFeatures codec bytes now hists counter = .ok features) :
    features.expectedOutputTokens = hists.estimate (routeKeyFor features) features.maxTokens := by
  unfold buildFeatures at built
  split at built
  · cases built
  · unfold featuresOf at built
    split at built
    · cases built
    · dsimp only at built
      split at built
      · cases built
      · obtain rfl := Except.ok.inj built
        rfl

/-! ## Executions -/

/-- The features of a request from the reading of its body to its dispatch. -/
def Phase.features : Phase → Option RequestFeatures
  | .routing features _ | .picked features _ _ _ | .opened features _ _
  | .dispatching features _ => some features
  | _ => none

/-- The counts that an execution has reported for a route. -/
def Handler.Reported (handler : Handler) (key : RouteKey) : Set UInt32 :=
  {count | .observeRoute key count ∈ handler.effects}

theorem Phase.Traces.observed_positive {phase : Phase} {calls : List Effect}
    (traces : phase.Traces calls) {key : RouteKey} {count : UInt32}
    (member : .observeRoute key count ∈ calls) : 0 < count := by
  have notSaturated (fellThrough : Bool) : .observeRoute key count ∉ saturatedTrace fellThrough := by
    cases fellThrough <;> simp [saturatedTrace]
  have ofUsage {context : UsageContext} {usages : List (UInt32 × UInt32)}
      (reported : .observeRoute key count ∈ context.trace usages) : 0 < count := by
    obtain ⟨usage, -, framed⟩ := List.mem_flatMap.mp reported
    unfold UsageContext.frameTrace at framed
    split at framed
    · rename_i tokens
      simp only [List.cons_append, List.nil_append, List.mem_cons, reduceCtorEq, false_or,
        List.not_mem_nil, or_false, Effect.observeRoute.injEq] at framed
      rw [framed.2]
      exact tokens
    · simp at framed
  have notVerdict {verdict : List Effect} (ends : Verdict verdict) :
      .observeRoute key count ∉ verdict := by
    cases ends <;> simp
  cases traces with
  | readingBody | routing _ _ | refused _ _ => simp at member
  | picked _ _ _ fellThrough | opened _ _ _ fellThrough | dispatching _ _ fellThrough
  | cancelled fellThrough => exact absurd member (notSaturated fellThrough)
  | unbuilt fellThrough | unreachable _ fellThrough =>
      simp [notSaturated fellThrough] at member
  | responding body fellThrough usages =>
      rcases List.mem_append.mp member with saturated | reported
      · exact absurd saturated (notSaturated fellThrough)
      · exact ofUsage reported
  | dropped context fellThrough usages ends =>
      rcases List.mem_append.mp member with earlier | last
      · rcases List.mem_append.mp earlier with saturated | reported
        · exact absurd saturated (notSaturated fellThrough)
        · exact ofUsage reported
      · exact absurd last (notVerdict ends)

namespace HandlerState

variable {F : Type} [DecayNumber F] {libraries : Libraries} {state after : HandlerState F}
  {event : HandlerEvent F}

/-- A step only adds calls, and the store of estimates observes the added ones. -/
theorem effects_of_steps (stepped : state.Steps libraries event after) :
    ∃ added, after.handler.effects = state.handler.effects ++ added ∧
      ((∃ now nowS polled, event = .poll now nowS polled ∧
          after.router.routeHists = added.foldl (observeEffect nowS) state.router.routeHists) ∨
        after.router.routeHists = state.router.routeHists ∧
          ∀ key count, .observeRoute key count ∉ added) := by
  cases stepped with
  | bodyRead collected phase returned =>
      rcases bodyRead_cases returned with ⟨status, rfl⟩ | ⟨features, body, rfl⟩
      · exact ⟨_, rfl, .inr ⟨rfl, by simp⟩⟩
      · exact ⟨[], (List.append_nil _).symm, .inr ⟨rfl, by simp⟩⟩
  | pick rng phase returned =>
      rcases pick_cases returned with ⟨strategy, -, rfl⟩ |
        ⟨picked, strategy, id, backend, -, -, -, rfl⟩
      · exact ⟨_, rfl, .inr ⟨rfl, by simp⟩⟩
      · refine ⟨_, rfl, .inr ⟨rfl, ?_⟩⟩
        intro key count
        split <;> simp
  | openLease phase | cancelDispatch phase =>
      exact ⟨[], (List.append_nil _).symm, .inr ⟨rfl, by simp⟩⟩
  | rebuild phase =>
      rename_i features body lease
      rcases state.rebuild_cases libraries features body lease with rebuilt | rebuilt
      · exact ⟨_, by rw [rebuilt]; rfl, .inr ⟨by rw [rebuilt], by simp⟩⟩
      · exact ⟨[], by rw [rebuilt, List.append_nil], .inr ⟨by rw [rebuilt], by simp⟩⟩
  | dispatched answer phase =>
      rename_i features lease
      rcases state.dispatched_cases features lease answer with
        ⟨key, answered⟩ | ⟨body, -, answered⟩
      · refine ⟨[.recordBackendError key "connect", .recordRequestResult false], ?_,
          .inr ⟨by rw [answered], by simp⟩⟩
        rw [answered]
        exact List.append_assoc _ _ _
      · exact ⟨[], by rw [answered, List.append_nil], .inr ⟨by rw [answered], by simp⟩⟩
  | poll now nowS polled phase => exact ⟨_, rfl, .inl ⟨now, nowS, polled, rfl, rfl⟩⟩
  | dropBody phase =>
      rename_i body
      obtain ⟨verdict, ends, dropped⟩ := BodyState.exists_verdict ⟨body, state.heap, []⟩
      refine ⟨_, rfl, .inr ⟨rfl, ?_⟩⟩
      rw [dropped]
      cases ends <;> simp

/-- The features of a request are read once, with the estimates of that time. -/
theorem features_of_steps (stepped : state.Steps libraries event after)
    {features : RequestFeatures} (present : features ∈ after.handler.phase.features) :
    features ∈ state.handler.phase.features ∨
      features.expectedOutputTokens =
        state.router.routeHists.estimate (routeKeyFor features) features.maxTokens := by
  cases stepped with
  | bodyRead collected phase returned =>
      rcases bodyRead_cases returned with ⟨status, rfl⟩ | ⟨read, body, rfl⟩
      · cases present
      · obtain rfl : read = features := Option.some.inj present
        obtain ⟨bytes, -, built, -⟩ := bodyRead_routing returned rfl
        exact .inr (expectedOutputTokens_of_buildFeatures built)
  | pick rng phase returned =>
      rcases pick_cases returned with ⟨strategy, -, rfl⟩ |
        ⟨picked, strategy, id, backend, -, -, -, rfl⟩
      · cases present
      · rw [phase]
        exact .inl present
  | openLease phase =>
      rw [phase]
      exact .inl present
  | rebuild phase =>
      rename_i read body lease
      rw [phase]
      rcases state.rebuild_cases libraries read body lease with rebuilt | rebuilt
      · rw [rebuilt] at present
        cases present
      · rw [rebuilt] at present
        exact .inl present
  | dispatched answer phase =>
      rename_i read lease
      rcases state.dispatched_cases read lease answer with
        ⟨key, answered⟩ | ⟨body, -, answered⟩ <;> rw [answered] at present <;> cases present
  | cancelDispatch phase | poll _ _ _ phase | dropBody phase => cases present

end HandlerState

/-! ## Runs -/

namespace RouterRun

/-- The counts that usage frames have reported for a route. -/
def Reported (state : RouterRun RealFloat) (key : RouteKey) : Set UInt32 :=
  {count | ∃ handler ∈ state.handlers, count ∈ handler.Reported key}

end RouterRun

/-- The request's own limit or, without one, the default or a count between two
reported ones. -/
def RequestFeatures.Expects (features : RequestFeatures) (reported : Set UInt32) : Prop :=
  match features.maxTokens with
  | some limit => features.expectedOutputTokens = max limit 1
  | none => features.expectedOutputTokens = defaultOutputEstimate ∨
      ∃ low ∈ reported, ∃ high ∈ reported,
        low ≤ features.expectedOutputTokens ∧ features.expectedOutputTokens ≤ high

theorem RequestFeatures.Expects.mono {features : RequestFeatures} {first second : Set UInt32}
    (expects : features.Expects first) (subset : first ⊆ second) : features.Expects second := by
  unfold Expects at *
  split at expects
  · exact expects
  · refine expects.imp_right ?_
    rintro ⟨low, lowMem, high, highMem, between⟩
    exact ⟨low, subset lowMem, high, subset highMem, between⟩

/-- The time since the start that a poll reads is a number. -/
def SystemEvent.Timed : SystemEvent RealFloat → Prop
  | .router (.advance _ (.poll _ nowS _)) => ∃ time : ℝ, nowS = .finite time
  | _ => True

/-- The estimates and the expectations come from what was reported. -/
structure RouterRun.Learns (halflife : ExactFloat) (state : RouterRun RealFloat) : Prop where
  traced : ∀ handler ∈ state.handlers, handler.Traced
  learned : state.router.routeHists.LearnedFrom halflife state.Reported
  expects : ∀ handler ∈ state.handlers, ∀ features ∈ handler.phase.features,
    features.Expects (state.Reported (routeKeyFor features))

/-- An execution that adds calls reports their counts. -/
theorem RouterRun.reported_update {state : RouterRun RealFloat} {id : Nat} {handler : Handler}
    {after : HandlerState RealFloat} {added : List Effect}
    (present : state.handlers[id]? = some handler)
    (effects : after.handler.effects = handler.effects ++ added) (key : RouteKey) :
    (state.update id after).Reported key =
      state.Reported key ∪ {count | .observeRoute key count ∈ added} := by
  obtain ⟨inside, there⟩ := List.getElem?_eq_some_iff.mp present
  ext count
  constructor
  · rintro ⟨other, member, reported⟩
    rcases List.mem_or_eq_of_mem_set member with earlier | rfl
    · exact .inl ⟨other, earlier, reported⟩
    · have split : .observeRoute key count ∈ after.handler.effects := reported
      rw [effects] at split
      rcases List.mem_append.mp split with earlier | new
      · exact .inl ⟨handler, List.mem_of_getElem? present, earlier⟩
      · exact .inr new
  · have updated : after.handler ∈ (state.update id after).handlers := List.mem_set inside _
    rintro (⟨other, member, reported⟩ | new)
    · obtain ⟨position, atPosition⟩ := List.mem_iff_getElem?.mp member
      by_cases same : id = position
      · subst same
        obtain rfl : handler = other := Option.some.inj (present.symm.trans atPosition)
        refine ⟨after.handler, updated, ?_⟩
        change .observeRoute key count ∈ after.handler.effects
        rw [effects]
        exact List.mem_append_left _ reported
      · refine ⟨other, List.mem_iff_getElem?.mpr ⟨position, ?_⟩, reported⟩
        rw [getElem?_update_ne same]
        exact atPosition
    · refine ⟨after.handler, updated, ?_⟩
      change .observeRoute key count ∈ after.handler.effects
      rw [effects]
      exact List.mem_append_right _ new

namespace RouterRun.Learns

variable {halflife : ExactFloat} {state next : RouterRun RealFloat}

theorem initial (halflife : ExactFloat) (heap : Heap) (router : RouterState RealFloat)
    (fresh : router.routeHists = .new (.ofExact halflife)) :
    (RouterRun.initial heap router).Learns halflife where
  traced := by simp [RouterRun.initial]
  learned := by
    have none : (RouterRun.initial heap router).Reported = fun _ => ∅ := by
      funext key
      simp [Reported, RouterRun.initial]
    rw [none]
    exact fresh ▸ .new halflife
  expects := by simp [RouterRun.initial]

theorem maintained (learns : state.Learns halflife) (kept : state.Maintained next) :
    next.Learns halflife := by
  have reported : next.Reported = state.Reported := by
    unfold Reported
    rw [kept.handlers]
  refine ⟨?_, ?_, ?_⟩
  · rw [kept.handlers]
    exact learns.traced
  · rw [reported, kept.router]
    exact learns.learned
  · rw [kept.handlers, reported]
    exact learns.expects

theorem positive (learns : state.Learns halflife) (key : RouteKey) :
    ∀ count ∈ state.Reported key, 0 < count := by
  rintro count ⟨handler, member, reported⟩
  exact (learns.traced handler member).observed_positive reported

theorem expects_of_estimate (learns : state.Learns halflife) {features : RequestFeatures}
    (estimated : features.expectedOutputTokens =
      state.router.routeHists.estimate (routeKeyFor features) features.maxTokens) :
    features.Expects (state.Reported (routeKeyFor features)) := by
  unfold RequestFeatures.Expects
  split
  · rename_i limit limited
    rw [estimated, limited]
    rfl
  · rename_i limited
    rw [estimated, limited]
    exact learns.learned.estimate_between _ (learns.positive _)

theorem routed {libraries : Libraries} {event : RouterEvent RealFloat}
    (convex : ConvexHalflife halflife) (learns : state.Learns halflife)
    (timed : SystemEvent.Timed (.router event)) (stepped : state.step libraries event = some next) :
    next.Learns halflife := by
  have traced := RouterRun.forall_handlers_step Handler.traced_arrived
    (fun _ _ _ => HandlerState.traced_step) learns.traced stepped
  rcases RouterRun.step_cases stepped with ⟨parts, now, -, rfl⟩ |
    ⟨id, event, handler, after, rfl, present, advanced, rfl⟩
  · have reported (key : RouteKey) : state.Reported key =
        ({ state with handlers := state.handlers ++ [.arrived parts now] } :
          RouterRun RealFloat).Reported key := by
      ext count
      simp [Reported, Handler.Reported, Handler.arrived]
    refine ⟨traced, learns.learned.congr reported, ?_⟩
    intro other member features present
    rw [← reported]
    rcases List.mem_append.mp member with earlier | new
    · exact learns.expects other earlier features present
    · rw [List.mem_singleton.mp new] at present
      cases present
  · obtain ⟨added, effects, observed⟩ := HandlerState.effects_of_steps advanced
    have reported (key : RouteKey) : (state.update id after).Reported key = _ :=
      RouterRun.reported_update present effects key
    refine ⟨traced, ?_, ?_⟩
    · have union : after.router.routeHists.LearnedFrom halflife
          (fun key => state.Reported key ∪ {count | .observeRoute key count ∈ added}) := by
        rcases observed with ⟨now, nowS, polled, rfl, observed⟩ | ⟨unchanged, quiet⟩
        · obtain ⟨time, rfl⟩ := timed
          rw [observed]
          exact learns.learned.observeEffects convex added time
        · rw [unchanged]
          exact learns.learned.congr fun key => by simp [quiet]
      exact union.congr fun key => (reported key).symm
    · intro other member features read
      rw [reported]
      apply RequestFeatures.Expects.mono _ Set.subset_union_left
      rcases List.mem_or_eq_of_mem_set member with earlier | rfl
      · exact learns.expects other earlier features read
      · rcases HandlerState.features_of_steps advanced read with before | estimated
        · exact learns.expects handler (List.mem_of_getElem? present) features before
        · exact learns.expects_of_estimate estimated

end RouterRun.Learns

namespace SystemRun

/-- With a half-life that weighs observations convexly, every request that waits
for its backend is expected to produce its own limit or, without one, the default
or a count between two that usage frames have reported for its route. -/
theorem expectations_stay_within_reported {config : Config}
    (convex : ConvexHalflife config.routeP50HalflifeS) (maxSignalAge : Instant)
    (libraries : Libraries) (strategy : RoutingStrategy) {events : List (SystemEvent RealFloat)}
    (timed : ∀ event ∈ events, event.Timed) {state : SystemRun RealFloat}
    (executed : EventRun.run (step maxSignalAge libraries)
      (initial config.heap (config.router strategy config.routeHists)) events = some state) :
    ∀ handler ∈ state.run.handlers, ∀ features ∈ handler.phase.features,
      features.Expects (state.run.Reported (routeKeyFor features)) := by
  have started : ((initial config.heap (config.router strategy config.routeHists)).run).Learns
      config.routeP50HalflifeS := .initial _ _ _ rfl
  have preserved (state : SystemRun RealFloat) (event : SystemEvent RealFloat)
      (next : SystemRun RealFloat) (timed : event.Timed)
      (learns : state.run.Learns config.routeP50HalflifeS)
      (stepped : state.step maxSignalAge libraries event = some next) :
      next.run.Learns config.routeP50HalflifeS := by
    rcases step_cases stepped with ⟨routerEvent, rfl, advanced⟩ | kept
    · exact learns.routed convex timed advanced
    · exact learns.maintained kept
  have learns : state.run.Learns config.routeP50HalflifeS :=
    EventRun.run_preserves_of_guarded preserved (EventRun.guarded_of_forall timed) started executed
  exact learns.expects

/-! ## A second request on a route that was reported once -/

open RouterRun (chatArrival chatRoutedWith)

def reportedChat : List (RouterEvent RealFloat) :=
  [.advance 0 (.pick .first), .advance 0 .openLease, .advance 0 .rebuild,
    .advance 0 (.dispatched (.ok 200)),
    .advance 0 (.poll 1 (.finite 1) (.frame (.data (Utf8Relay.encode (usageLine "3")))))]

theorem run_reportedChat (heap : Heap) {router : RouterState RealFloat}
    (rotates : router.strategy = .roundRobin 0)
    (two : router.snapshot = (twoBackends defaultPenalty).toConfig.snapshot) :
    ∃ state handler, EventRun.run (RouterRun.step reportingLibraries)
        ⟨heap, router, [chatRoutedWith 128]⟩ reportedChat = some state ∧
      state.handlers = [handler] ∧ state.router.tokenCounter = router.tokenCounter ∧
      state.router.routeHists = router.routeHists.observe (routeKey "m" 1) 3 (.finite 1) := by
  obtain ⟨snapshot, strategy, kvModel, routeHists, tokenCounter⟩ := router
  obtain rfl : strategy = .roundRobin 0 := rotates
  obtain rfl : snapshot = (twoBackends defaultPenalty).toConfig.snapshot := two
  refine ⟨_, _, EventRun.run_cons_eq_some.mpr ⟨_, rfl, EventRun.run_cons_eq_some.mpr ⟨_, rfl,
      EventRun.run_cons_eq_some.mpr ⟨_, rfl, EventRun.run_cons_eq_some.mpr ⟨_, rfl,
      EventRun.run_cons_eq_some.mpr ⟨_, RouterRun.step_advance rfl
        (HandlerState.step_poll_usage rfl rfl usageLine_isLine.2 lineFrame_usageLine.2 1
          (RealFloat.finite 1)), rfl⟩⟩⟩⟩⟩, rfl, rfl, rfl⟩

/-- The second request of the route expects the count that the first one's usage reported. -/
theorem expectations_stay_within_reported_learned :
    let config := (twoBackends defaultPenalty).toConfig
    let router := config.router (.roundRobin 0) config.routeHists
    ∃ state : SystemRun RealFloat,
      EventRun.run (step 0 reportingLibraries) (initial config.heap router)
        ((chatArrival 0 ++ (reportedChat ++ (chatArrival 1 ++ []))).map .router) = some state ∧
      chatRoutedWith 3 ∈ state.run.handlers ∧
      ∀ handler ∈ state.run.handlers, ∀ features ∈ handler.phase.features,
        features.Expects (state.run.Reported (routeKeyFor features)) := by
  intro config router
  obtain ⟨⟨heap, learned, handlers⟩, responding, answered, rfl, counter, observed⟩ :=
    run_reportedChat config.heap (rfl : router.strategy = .roundRobin 0) rfl
  have estimate : learned.routeHists.estimate (routeKey "m" 1) none = 3 := by
    rw [observed]
    exact RouteHistograms.estimate_observe_new _ _ 3 _
  have routed : EventRun.run (RouterRun.step reportingLibraries) (initial config.heap router).run
      (chatArrival 0 ++ (reportedChat ++ (chatArrival 1 ++ []))) =
      some ⟨heap, learned, [responding, chatRoutedWith 3]⟩ := by
    refine (run_arrival_reporting config.heap rfl [] _).trans ?_
    refine (EventRun.run_append_of_run answered _).trans ?_
    refine (run_arrival_reporting heap counter [responding] []).trans ?_
    rw [estimate]
    rfl
  obtain ⟨decisions, executed⟩ := @run_routed RealFloat _ 0 _ _ _ _ routed
  have convex : ConvexHalflife config.routeP50HalflifeS := by
    change ConvexHalflife (.finite 300)
    norm_num [ConvexHalflife]
  have timed : ∀ event ∈ (chatArrival 0 ++ (reportedChat ++ (chatArrival 1 ++ []))).map
      SystemEvent.router, event.Timed := by
    simp [SystemEvent.Timed, chatArrival, reportedChat]
  refine ⟨_, executed, ?_, expectations_stay_within_reported convex 0 reportingLibraries
    (.roundRobin 0) timed executed⟩
  simp

end SystemRun

end KeelRouter
