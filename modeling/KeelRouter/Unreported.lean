import KeelRouter.RouterRun

/-!
# The router does not read what backends report

Erasing the reported readings of all backends commutes with every step of the
router: no strategy, gate, lease or body handler depends on them.  Only the
entries of a decision trace repeat a reading.
-/

namespace KeelRouter

variable {F : Type}

def Backend.unreported (b : Backend) : Backend := { b with reported := none }

def Heap.unreported (heap : Heap) : Heap := fun ref => (heap ref).unreported

@[simp]
theorem Heap.unreported_key (heap : Heap) (ref : BackendRef) :
    (heap.unreported ref).key = (heap ref).key := rfl

@[simp]
theorem Heap.unreported_uri (heap : Heap) (ref : BackendRef) :
    (heap.unreported ref).uri = (heap ref).uri := rfl

theorem Heap.unreported_update (heap : Heap) (ref : BackendRef) (b : Backend) :
    Heap.unreported (Function.update heap ref b) =
      Function.update heap.unreported ref b.unreported := by
  funext other
  by_cases same : other = ref
  · subst same
    simp [unreported]
  · simp [unreported, Function.update_of_ne same]

theorem Heap.unreported_modifyLive (heap : Heap) (ref : BackendRef)
    (change : LiveCounters → LiveCounters) :
    (heap.modifyLive ref change).unreported = heap.unreported.modifyLive ref change :=
  unreported_update heap ref _

/-! ## Decisions -/

def CandidateScore.unreported (candidate : CandidateScore) : CandidateScore :=
  { candidate with reportedKv := none }

def DecisionTrace.unreported (trace : DecisionTrace) : DecisionTrace :=
  { trace with candidates := trace.candidates.map CandidateScore.unreported }

def Picked.unreported (picked : Picked) : Picked :=
  { picked with trace := picked.trace.map DecisionTrace.unreported }

section Decisions

variable (heap : Heap) (snap : Snapshot) (req : RequestFeatures)

theorem backend_unreported (id : BackendId) :
    snap.backend heap.unreported id = (snap.backend heap id).map Backend.unreported := by
  unfold Snapshot.backend
  cases snap.backendRef id <;> rfl

theorem unscoredCandidate_unreported (id : BackendId) :
    unscoredCandidate heap.unreported snap id = unscoredCandidate heap snap id := by
  unfold unscoredCandidate
  rw [backend_unreported]
  cases snap.backend heap id <;> rfl

theorem map_unscoredCandidate (id : BackendId) :
    (unscoredCandidate heap snap id).map CandidateScore.unreported =
      unscoredCandidate heap snap id := by
  unfold unscoredCandidate
  cases snap.backend heap id <;> rfl

/-- The trace of a strategy without scores reads no reported value. -/
theorem recordPick_unreported (trace : Option DecisionTrace) (strategy : String)
    (chosen : Option BackendId) :
    recordPick trace strategy heap.unreported snap req chosen =
      recordPick trace strategy heap snap req chosen := by
  have same : unscoredCandidate heap.unreported snap = unscoredCandidate heap snap :=
    funext (unscoredCandidate_unreported heap snap)
  unfold recordPick
  rw [same]

theorem map_recordPick (trace : DecisionTrace) (strategy : String) (chosen : Option BackendId) :
    (recordPick (some trace) strategy heap snap req chosen).map Picked.unreported =
      recordPick (some trace) strategy heap snap req chosen := by
  have kept := Outcome.map_mapM (unscoredCandidate heap snap) CandidateScore.unreported snap.healthy
  simp only [map_unscoredCandidate] at kept
  unfold recordPick
  cases listed : snap.healthy.mapM (unscoredCandidate heap snap) with
  | error panic => rfl
  | ok candidates =>
      rw [listed] at kept
      have same : candidates.map CandidateScore.unreported = candidates := Except.ok.inj kept
      change Except.ok (Picked.unreported _) = Except.ok _
      simp [Picked.unreported, DecisionTrace.unreported, same]

theorem eligible_unreported (needKv : Int64) (sigma : ExactFloat) :
    eligible heap.unreported snap needKv sigma = eligible heap snap needKv sigma := by
  unfold eligible
  congr 1
  funext out id
  rw [backend_unreported]
  cases snap.backend heap id <;> rfl

theorem scan_unreported (self : Pressure) :
    self.scan heap.unreported snap req = self.scan heap snap req := by
  have same : self.scanBackend heap.unreported snap = self.scanBackend heap snap := by
    funext state id
    unfold Pressure.scanBackend
    rw [backend_unreported]
    cases snap.backend heap id <;> rfl
  unfold Pressure.scan
  rw [eligible_unreported, same]

theorem candidates_unreported (self : Pressure) (scan : Pressure.Scan) :
    self.candidates heap.unreported snap req scan =
      (self.candidates heap snap req scan).map (List.map CandidateScore.unreported) := by
  unfold Pressure.candidates
  rw [Outcome.map_mapM]
  congr 1
  funext id
  rw [backend_unreported]
  cases snap.backend heap id <;> rfl

theorem pressure_pick_unreported (self : Pressure) (rng : SmallRng) :
    self.pick heap.unreported snap req rng (some .default) =
      (self.pick heap snap req rng (some .default)).map Picked.unreported := by
  unfold Pressure.pick
  by_cases empty : snap.healthy.isEmpty
  · rw [if_pos empty, if_pos empty]
    rfl
  · rw [if_neg empty, if_neg empty, scan_unreported]
    cases self.scan heap snap req with
    | error panic => rfl
    | ok scan =>
        change (self.candidates heap.unreported snap req scan >>= _) =
          (self.candidates heap snap req scan >>= _).map _
        rw [candidates_unreported]
        cases self.candidates heap snap req scan <;> rfl

/-- The picks of the other strategies end in the record of their trace. -/
theorem recordPick_default_unreported (strategy : String) (chosen : Option BackendId) :
    recordPick (some .default) strategy heap.unreported snap req chosen =
      (recordPick (some .default) strategy heap snap req chosen).map Picked.unreported := by
  rw [recordPick_unreported, map_recordPick]

/-- A draw from ties that do not depend on the readings. -/
theorem draw_unreported {Score : Type} (strategy : String) (rng : SmallRng)
    (loop : Outcome (Score × List BackendId)) :
    (loop >>= fun state =>
        recordPick (some .default) strategy heap.unreported snap req (rng.choose state.2)) =
      (loop >>= fun state =>
        recordPick (some .default) strategy heap snap req (rng.choose state.2)).map
          Picked.unreported := by
  cases loop with
  | error panic => rfl
  | ok state => exact recordPick_default_unreported heap snap req _ _

theorem leastRequests_pick_unreported (rng : SmallRng) :
    LeastRequests.pick heap.unreported snap req rng (some .default) =
      (LeastRequests.pick heap snap req rng (some .default)).map Picked.unreported := by
  have same : LeastRequests.scanBackend heap.unreported snap =
      LeastRequests.scanBackend heap snap := by
    funext state id
    unfold LeastRequests.scanBackend
    rw [backend_unreported]
    cases snap.backend heap id <;> rfl
  unfold LeastRequests.pick
  rw [same]
  split
  · exact recordPick_default_unreported heap snap req _ _
  · exact draw_unreported heap snap req _ rng _

theorem leastKvts_pick_unreported (rng : SmallRng) :
    LeastKvts.pick heap.unreported snap req rng (some .default) =
      (LeastKvts.pick heap snap req rng (some .default)).map Picked.unreported := by
  have same : LeastKvts.scanBackend heap.unreported snap = LeastKvts.scanBackend heap snap := by
    funext state id
    unfold LeastKvts.scanBackend
    rw [backend_unreported]
    cases snap.backend heap id <;> rfl
  unfold LeastKvts.pick
  rw [same]
  split
  · exact recordPick_default_unreported heap snap req _ _
  · exact draw_unreported heap snap req _ rng _

theorem lessLoaded_unreported (a b : BackendId) :
    P2c.lessLoaded heap.unreported snap a b = P2c.lessLoaded heap snap a b := by
  unfold P2c.lessLoaded
  rw [backend_unreported, backend_unreported]
  cases snap.backend heap a with
  | error panic => rfl
  | ok first => cases snap.backend heap b <;> rfl

theorem p2c_pick_unreported (rng : SmallRng) :
    P2c.pick heap.unreported snap req rng (some .default) =
      (P2c.pick heap snap req rng (some .default)).map Picked.unreported := by
  unfold P2c.pick
  simp only [lessLoaded_unreported]
  split
  · exact recordPick_default_unreported heap snap req _ _
  · exact recordPick_default_unreported heap snap req _ _
  · rename_i first second rest _
    cases P2c.lessLoaded heap snap
        ((first :: second :: rest).get (rng.samplePair rest.length).val.1)
        ((first :: second :: rest).get (rng.samplePair rest.length).val.2) with
    | error panic => rfl
    | ok less => exact recordPick_default_unreported heap snap req _ _

theorem roundRobin_pick_unreported (next : UInt64) :
    RoundRobin.pick next heap.unreported snap req (some .default) =
      (RoundRobin.pick next heap snap req (some .default)).map fun (picked, next) =>
        (picked.unreported, next) := by
  unfold RoundRobin.pick
  split
  · rw [recordPick_default_unreported]
    cases recordPick (some .default) RoundRobin.name heap snap req none <;> rfl
  · dsimp only
    cases Outcome.index snap.healthy (next.toNat % snap.healthy.length) with
    | error panic => rfl
    | ok id =>
        change (recordPick _ _ heap.unreported snap req (some id) >>= _) =
          (recordPick _ _ heap snap req (some id) >>= _).map _
        rw [recordPick_default_unreported]
        cases recordPick (some .default) RoundRobin.name heap snap req (some id) <;> rfl

/-- A pick is the same without the reported readings, except that its trace
does not repeat them. -/
theorem pick_unreported (strategy : RoutingStrategy) (rng : SmallRng) :
    strategy.pick heap.unreported snap req rng (some .default) =
      (strategy.pick heap snap req rng (some .default)).map fun (picked, after) =>
        (picked.unreported, after) := by
  cases strategy with
  | roundRobin next =>
      change (RoundRobin.pick next heap.unreported snap req _).map _ =
        ((RoundRobin.pick next heap snap req _).map _).map _
      rw [roundRobin_pick_unreported]
      cases RoundRobin.pick next heap snap req (some .default) <;> rfl
  | p2c =>
      change (P2c.pick heap.unreported snap req rng _).map _ =
        ((P2c.pick heap snap req rng _).map _).map _
      rw [p2c_pick_unreported]
      cases P2c.pick heap snap req rng (some .default) <;> rfl
  | leastRequests =>
      change (LeastRequests.pick heap.unreported snap req rng _).map _ =
        ((LeastRequests.pick heap snap req rng _).map _).map _
      rw [leastRequests_pick_unreported]
      cases LeastRequests.pick heap snap req rng (some .default) <;> rfl
  | leastKvts =>
      change (LeastKvts.pick heap.unreported snap req rng _).map _ =
        ((LeastKvts.pick heap snap req rng _).map _).map _
      rw [leastKvts_pick_unreported]
      cases LeastKvts.pick heap snap req rng (some .default) <;> rfl
  | pressure self =>
      change (self.pick heap.unreported snap req rng _).map _ =
        ((self.pick heap snap req rng _).map _).map _
      rw [pressure_pick_unreported]
      cases self.pick heap snap req rng (some .default) <;> rfl

end Decisions

/-! ## Leases and bodies -/

theorem open_unreported (backend : BackendRef) (promptTokens oHat : UInt32) (kvModel : KvModel)
    (now : Instant) (heap : Heap) :
    CostLease.open backend promptTokens oHat kvModel now heap.unreported =
      let opened := CostLease.open backend promptTokens oHat kvModel now heap
      (opened.1, opened.2.unreported) := by
  simp [CostLease.open, Heap.fetchAddInflight, Heap.fetchAddKvProjected,
    Heap.unreported_modifyLive]

theorem observeTokens_unreported (lease : CostLease) (n : UInt32) (heap : Heap) :
    lease.observeTokens n heap.unreported =
      ((lease.observeTokens n heap).1, (lease.observeTokens n heap).2.unreported) := by
  unfold CostLease.observeTokens
  dsimp only
  split
  · split
    · simp [Heap.fetchAddKvProjected, Heap.unreported_modifyLive]
    · rfl
  · rfl

theorem drop_unreported (lease : CostLease) (heap : Heap) :
    lease.drop heap.unreported = (lease.drop heap).unreported := by
  unfold CostLease.drop CostLease.release
  split
  · rfl
  · simp [Heap.fetchSubInflight, Heap.fetchSubKvProjected, Heap.unreported_modifyLive]

namespace BodyState

def unreported (state : BodyState) : BodyState := { state with heap := state.heap.unreported }

variable (codec : SerdeJson.Codec) (now : Instant) (state : BodyState)

theorem applyFrame_unreported (frame : Option Frame) :
    state.unreported.applyFrame now frame = (state.applyFrame now frame).unreported := by
  rcases frame with _ | (_ | _ | _ | _ | _ | _)
  case some.content =>
    change state.unreported.countContent now = (state.countContent now).unreported
    simp [countContent, unreported, observeTokens_unreported]
  all_goals rfl

theorem handleLines_unreported (lines : List (List Char)) :
    lines.foldl (handleLine codec now) state.unreported =
      (lines.foldl (handleLine codec now) state).unreported := by
  induction lines generalizing state with
  | nil => rfl
  | cons line lines ih =>
      rw [List.foldl_cons, List.foldl_cons, ← ih]
      congr 1
      exact applyFrame_unreported now state _

theorem pollData_unreported (data : List UInt8) :
    state.unreported.pollData codec now data = (state.pollData codec now data).unreported := by
  unfold pollData
  cases Utf8Relay.fromUtf8 data with
  | none => rfl
  | some text => exact handleLines_unreported codec now (state.setLineBuf _) _

theorem pollFrame_unreported (polled : Polled) :
    state.unreported.pollFrame codec now polled =
      ((state.pollFrame codec now polled).1.unreported, polled) := by
  cases polled with
  | pending | error | finished => rfl
  | frame frame =>
      cases frame with
      | trailers => rfl
      | data bytes => exact congrArg (·, _) (pollData_unreported codec now state bytes)

end BodyState

/-! ## Executions and runs -/

namespace HandlerState

def unreported (state : HandlerState F) : HandlerState F :=
  { state with heap := state.heap.unreported }

variable (libraries : Libraries) (state : HandlerState F)

theorem pick_unreported (features : RequestFeatures) (body : List UInt8) (rng : SmallRng) :
    state.unreported.pick features body rng =
      (state.pick features body rng).map unreported := by
  have same := KeelRouter.pick_unreported state.heap state.router.snapshot features
    state.router.strategy rng
  unfold pick
  simp only [unreported, same]
  split
  · rfl
  · cases state.router.strategy.pick state.heap state.router.snapshot features rng
        (some .default) with
    | error panic => rfl
    | ok chose =>
        obtain ⟨⟨chosen, trace⟩, strategy⟩ := chose
        cases chosen with
        | none => rfl
        | some id =>
            cases inRange : state.router.snapshot.backendRef id with
            | error panic => simp [Except.map, bind, Except.bind, Picked.unreported, inRange]
            | ok backend =>
                cases trace with
                | none =>
                    simp only [Except.map, bind, Except.bind, Picked.unreported, inRange]
                    rfl
                | some trace =>
                    simp only [Except.map, bind, Except.bind, Picked.unreported, inRange]
                    rfl

theorem bodyRead_unreported [DecayNumber F] (collected : Except String (List UInt8)) :
    state.unreported.bodyRead libraries collected =
      (state.bodyRead libraries collected).map unreported := by
  unfold bodyRead
  simp only [unreported]
  split
  · rfl
  · split
    · rfl
    · rename_i bytes _ _ features _
      cases ensureUsageRequested libraries.codec bytes features.streaming <;> rfl

theorem openLease_unreported (features : RequestFeatures) (body : List UInt8)
    (backend : BackendRef) :
    state.unreported.openLease features body backend =
      (state.openLease features body backend).unreported := by
  simp only [openLease, unreported, open_unreported]

theorem rebuild_unreported (features : RequestFeatures) (body : List UInt8) (lease : CostLease) :
    state.unreported.rebuild libraries features body lease =
      (state.rebuild libraries features body lease).unreported := by
  unfold rebuild
  simp only [unreported, Heap.unreported_uri]
  cases rebuildRequest libraries.http state.handler.parts body (state.heap lease.backend).uri with
  | error error => simp only [drop_unreported]
  | ok request => rfl

theorem dispatched_unreported (features : RequestFeatures) (lease : CostLease)
    (answer : Except String StatusCode) :
    state.unreported.dispatched features lease answer =
      (state.dispatched features lease answer).unreported := by
  unfold dispatched
  cases dispatchAnswer answer with
  | error error => simp only [unreported, drop_unreported, Heap.unreported_key]
  | ok status => rfl

theorem poll_unreported [DecayNumber F] (body : CountingSseBody) (now : Instant) (nowS : F)
    (polled : Polled) :
    state.unreported.poll libraries body now nowS polled =
      (state.poll libraries body now nowS polled).unreported := by
  have same : BodyState.pollFrame libraries.codec now ⟨body, state.heap.unreported, []⟩ polled =
      _ :=
    BodyState.pollFrame_unreported libraries.codec now ⟨body, state.heap, []⟩ polled
  unfold poll
  simp only [unreported, same]
  rfl

theorem dropBody_unreported (body : CountingSseBody) :
    state.unreported.dropBody body = (state.dropBody body).unreported := by
  unfold dropBody
  simp only [unreported, BodyState.drop, drop_unreported]
  rfl

/-- A step of an execution does not depend on the reported readings. -/
theorem step_unreported [DecayNumber F] (event : HandlerEvent F) :
    state.unreported.step libraries event = (state.step libraries event).map unreported := by
  have toOption (outcome : Outcome (HandlerState F)) :
      (outcome.map unreported).toOption = outcome.toOption.map unreported := by
    cases outcome <;> rfl
  obtain ⟨heap, router, parts, now, phase, effects⟩ := state
  cases phase with
  | readingBody =>
      cases event with
      | bodyRead collected =>
          have same := bodyRead_unreported libraries
            (⟨heap, router, parts, now, .readingBody, effects⟩ : HandlerState F) collected
          exact (congrArg Except.toOption same).trans (toOption _)
      | _ => rfl
  | routing features body =>
      cases event with
      | pick rng =>
          have same := pick_unreported
            (⟨heap, router, parts, now, .routing features body, effects⟩ : HandlerState F)
            features body rng
          exact (congrArg Except.toOption same).trans (toOption _)
      | _ => rfl
  | picked features body backend fellThrough =>
      cases event with
      | openLease => exact congrArg some (openLease_unreported _ features body backend)
      | _ => rfl
  | opened features body lease =>
      cases event with
      | rebuild => exact congrArg some (rebuild_unreported libraries _ features body lease)
      | _ => rfl
  | dispatching features lease =>
      cases event with
      | dispatched answer => exact congrArg some (dispatched_unreported _ features lease answer)
      | cancel =>
          change some _ = some _
          simp only [cancelDispatch, unreported, drop_unreported]
      | _ => rfl
  | responding body =>
      cases event with
      | poll now nowS polled =>
          exact congrArg some (poll_unreported libraries _ body now nowS polled)
      | dropBody => exact congrArg some (dropBody_unreported _ body)
      | _ => rfl
  | finished finish => cases event <;> rfl

end HandlerState

namespace RouterRun

def unreported (state : RouterRun F) : RouterRun F := { state with heap := state.heap.unreported }

theorem step_unreported [DecayNumber F] (libraries : Libraries) (state : RouterRun F)
    (event : RouterEvent F) :
    state.unreported.step libraries event = (state.step libraries event).map unreported := by
  cases event with
  | arrive parts now => rfl
  | advance id event =>
      unfold step
      cases present : state.handlers[id]? with
      | none => simp [unreported, present]
      | some handler =>
          have same := HandlerState.step_unreported libraries (state.view handler) event
          change (state.handlers[id]?.bind _) = (state.handlers[id]?.bind _).map _
          rw [present]
          change ((state.view handler).unreported.step libraries event).map _ =
            (((state.view handler).step libraries event).map _).map _
          rw [same]
          cases (state.view handler).step libraries event <;> rfl

end RouterRun

end KeelRouter
