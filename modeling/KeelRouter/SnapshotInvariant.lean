import KeelRouter.BackendHealth
import KeelRouter.EventRun
import KeelRouter.RoutingTotality

/-!
# Snapshots and the ids of their backends

`main` numbers the configured backends by their position, narrowed to 16 bits,
and every later snapshot is filtered from the same list.  The ids stay apart,
and lead back to the backends that carry them, exactly as long as the positions
fit in 16 bits.
-/

namespace KeelRouter

namespace Config

/-- The backend objects that `main` allocates, at their positions; no backend
is at an address beyond them. -/
def heap (config : Config) : Heap := fun ref =>
  match config.backends[ref]? with
  | some b => .fresh ⟨UInt16.ofNat ref⟩ b.url b.model b.weight ⟨b.kvTokens, b.maxNumSeqs⟩
  | none => .fresh ⟨UInt16.ofNat ref⟩ "" "" defaultWeight ⟨0, 0⟩

/-- The snapshot that `main` builds. -/
def snapshot (config : Config) : Snapshot :=
  let backends := List.range config.backends.length
  { epoch := 0
    backends
    healthy := backends.map fun ref => (config.heap ref).id
    ring := [] }

@[simp]
theorem heap_id (config : Config) (ref : BackendRef) :
    (config.heap ref).id = ⟨UInt16.ofNat ref⟩ := by
  unfold heap
  split <;> rfl

@[simp]
theorem heap_health (config : Config) (ref : BackendRef) :
    (config.heap ref).health = .default := by
  unfold heap
  split <;> rfl

@[simp]
theorem heap_live (config : Config) (ref : BackendRef) : (config.heap ref).live = .default := by
  unfold heap
  split <;> rfl

end Config

@[simp]
theorem recordFailure_id (heap : Heap) (ref other : BackendRef) :
    (recordFailure heap ref other).id = (heap other).id := by
  unfold recordFailure
  by_cases same : other = ref
  · subst same
    dsimp only
    split <;> simp
  · dsimp only
    split <;> rw [Function.update_of_ne same]

@[simp]
theorem recordSuccess_id (heap : Heap) (ref other : BackendRef) :
    (recordSuccess heap ref other).id = (heap other).id := by
  unfold recordSuccess
  by_cases same : other = ref
  · subst same
    simp
  · rw [Function.update_of_ne same]

/-! ## Runs of health events -/

/-- The backends, the snapshot in force and, for the record, the backends as
they were when it was taken. -/
structure HealthRun where
  heap : Heap
  snapshot : Snapshot
  takenFrom : Heap

inductive HealthEvent where
  | recordFailure (ref : BackendRef)
  | recordSuccess (ref : BackendRef)
  | nextSnapshot

namespace HealthRun

def initial (config : Config) : HealthRun where
  heap := config.heap
  snapshot := config.snapshot
  takenFrom := config.heap

def step (state : HealthRun) : HealthEvent → Option HealthRun
  | .recordFailure ref => some { state with heap := recordFailure state.heap ref }
  | .recordSuccess ref => some { state with heap := recordSuccess state.heap ref }
  | .nextSnapshot => some {
      state with
      snapshot := nextSnapshot state.heap state.snapshot
      takenFrom := state.heap }

/-- The ids never change, and the healthy list is the one rebuilt when the
snapshot was taken. -/
structure Numbered (length : Nat) (state : HealthRun) : Prop where
  ids : ∀ ref, (state.heap ref).id = ⟨UInt16.ofNat ref⟩
  takenIds : ∀ ref, (state.takenFrom ref).id = ⟨UInt16.ofNat ref⟩
  backends : state.snapshot.backends = List.range length
  healthy : state.snapshot.healthy = rebuildHealthy state.takenFrom (List.range length)

theorem numbered_initial (config : Config) :
    (initial config).Numbered config.backends.length where
  ids := config.heap_id
  takenIds := config.heap_id
  backends := rfl
  healthy := by
    have nobodyEjected : (List.range config.backends.length).filter
        (fun ref => !(config.heap ref).health.ejected) = List.range config.backends.length := by
      rw [List.filter_eq_self]
      intro ref _
      rw [config.heap_health]
      rfl
    change (List.range config.backends.length).map _ = _
    rw [initial, rebuildHealthy, nobodyEjected]

theorem numbered_step {length : Nat} {state next : HealthRun} {event : HealthEvent}
    (numbered : state.Numbered length) (stepped : state.step event = some next) :
    next.Numbered length := by
  cases event with
  | recordFailure ref =>
      obtain rfl := Option.some.inj stepped
      exact { numbered with
        ids := fun other => (recordFailure_id _ _ _).trans (numbered.ids other) }
  | recordSuccess ref =>
      obtain rfl := Option.some.inj stepped
      exact { numbered with
        ids := fun other => (recordSuccess_id _ _ _).trans (numbered.ids other) }
  | nextSnapshot =>
      obtain rfl := Option.some.inj stepped
      refine ⟨numbered.ids, numbered.ids, numbered.backends, ?_⟩
      change rebuildHealthy state.heap state.snapshot.backends = _
      rw [numbered.backends]

theorem numbered_run {config : Config} {events : List HealthEvent} {state : HealthRun}
    (executed : EventRun.run step (initial config) events = some state) :
    state.Numbered config.backends.length :=
  EventRun.run_preserves (fun _ _ _ numbered stepped => numbered_step numbered stepped)
    (numbered_initial config) executed

end HealthRun

/-! ## The representation invariant -/

/-- Every healthy id indexes the backend that carries it and is listed once, and
every backend that was not ejected when the snapshot was taken is listed under
an id that leads to it. -/
structure Snapshot.Represents (snap : Snapshot) (takenFrom heap : Heap) : Prop where
  indexed : snap.Indexed
  carries : ∀ id ∈ snap.healthy, (heap (snap.refOf id)).id = id
  nodup : snap.healthy.Nodup
  complete : ∀ ref ∈ snap.backends, (takenFrom ref).health.ejected = false →
    ∃ id ∈ snap.healthy, id.val.toNat < snap.backends.length ∧ snap.refOf id = ref

/-- From some position on, the next request of a round robin goes to the backend. -/
def Snapshot.Serves (snap : Snapshot) (ref : BackendRef) : Prop :=
  ∃ next, ∀ heap req trace, ∃ picked id,
    (RoundRobin.pick next heap snap req trace).map Prod.fst = .ok picked ∧
      picked.chosen = some id ∧ snap.refOf id = ref

theorem Snapshot.serves_of_mem {snap : Snapshot} (indexed : snap.Indexed)
    (short : snap.healthy.length < 2 ^ 64) {id : BackendId} (member : id ∈ snap.healthy) :
    snap.Serves (snap.refOf id) := by
  obtain ⟨position, inside, listed⟩ := List.mem_iff_getElem.mp member
  have exact : (UInt64.ofNat position).toNat % snap.healthy.length = position := by
    rw [UInt64.toNat_ofNat_of_lt' (by omega : position < 2 ^ 64), Nat.mod_eq_of_lt inside]
  refine ⟨UInt64.ofNat position, ?_⟩
  intro heap req trace
  obtain ⟨picked, recorded⟩ := recordPick_total indexed heap req trace RoundRobin.name (some id)
  refine ⟨picked, id, ?_, recordPick_chosen recorded, rfl⟩
  have notEmpty : ¬ snap.healthy.isEmpty := by
    rw [List.isEmpty_iff]
    exact List.ne_nil_of_mem member
  unfold RoundRobin.pick
  rw [if_neg notEmpty, exact]
  dsimp only
  rw [Outcome.index_eq_ok (List.getElem?_eq_some_iff.mpr ⟨inside, listed⟩)]
  change (recordPick _ _ _ _ _ _ >>= _).map Prod.fst = _
  rw [recorded]
  rfl

namespace HealthRun

variable {length : Nat} {state : HealthRun}

theorem Numbered.mem_healthy (numbered : state.Numbered length) {id : BackendId} :
    id ∈ state.snapshot.healthy ↔ ∃ ref < length,
      (state.takenFrom ref).health.ejected = false ∧ id = ⟨UInt16.ofNat ref⟩ := by
  rw [numbered.healthy, rebuildHealthy, List.mem_map]
  constructor
  · rintro ⟨ref, listed, rfl⟩
    obtain ⟨inside, notEjected⟩ := List.mem_filter.mp listed
    exact ⟨ref, List.mem_range.mp inside, by simpa using notEjected, numbered.takenIds ref⟩
  · rintro ⟨ref, inside, notEjected, rfl⟩
    refine ⟨ref, List.mem_filter.mpr ⟨List.mem_range.mpr inside, ?_⟩, numbered.takenIds ref⟩
    rw [notEjected]
    rfl

theorem toNat_ofNat_of_lt {ref : Nat} (fits : ref < 65536) : (UInt16.ofNat ref).toNat = ref :=
  UInt16.toNat_ofNat_of_lt' fits

theorem Numbered.refOf_ofNat (numbered : state.Numbered length) (fits : length ≤ 65536)
    {ref : Nat} (inside : ref < length) :
    state.snapshot.refOf ⟨UInt16.ofNat ref⟩ = ref := by
  have exact : (UInt16.ofNat ref).toNat = ref := toNat_ofNat_of_lt (by omega)
  rw [Snapshot.refOf, numbered.backends, exact, List.getElem?_range inside]
  rfl

theorem Numbered.represents (numbered : state.Numbered length) (fits : length ≤ 65536) :
    state.snapshot.Represents state.takenFrom state.heap where
  indexed := by
    intro id member
    obtain ⟨ref, inside, -, rfl⟩ := numbered.mem_healthy.mp member
    rw [numbered.backends, List.length_range, toNat_ofNat_of_lt (by omega)]
    exact inside
  carries := by
    intro id member
    obtain ⟨ref, inside, -, rfl⟩ := numbered.mem_healthy.mp member
    rw [numbered.refOf_ofNat fits inside]
    exact numbered.ids ref
  nodup := by
    rw [numbered.healthy, rebuildHealthy]
    apply (List.nodup_range.filter _).map_on
    intro first firstMem second secondMem same
    have firstInside := List.mem_range.mp (List.mem_of_mem_filter firstMem)
    have secondInside := List.mem_range.mp (List.mem_of_mem_filter secondMem)
    rw [numbered.takenIds, numbered.takenIds, BackendId.mk.injEq] at same
    have positions := congrArg UInt16.toNat same
    rwa [toNat_ofNat_of_lt (by omega), toNat_ofNat_of_lt (by omega)] at positions
  complete := by
    intro ref listed notEjected
    rw [numbered.backends, List.mem_range] at listed
    refine ⟨⟨UInt16.ofNat ref⟩, numbered.mem_healthy.mpr ⟨ref, listed, notEjected, rfl⟩, ?_,
      numbered.refOf_ofNat fits listed⟩
    rw [numbered.backends, List.length_range, toNat_ofNat_of_lt (by omega)]
    exact listed

theorem Numbered.healthy_length_le (numbered : state.Numbered length) :
    state.snapshot.healthy.length ≤ length := by
  rw [numbered.healthy, rebuildHealthy, List.length_map]
  exact (List.length_filter_le _ _).trans_eq List.length_range

/-- The 65537th backend gets the id of the first one. -/
theorem not_nodup_of_many {config : Config} (many : 65536 < config.backends.length) :
    ¬ config.snapshot.healthy.Nodup := by
  intro nodup
  have separate := List.inj_on_of_nodup_map nodup
  have same : (0 : Nat) = 65536 := separate (List.mem_range.mpr (by omega : 0 < config.backends.length))
    (List.mem_range.mpr many) (by rw [config.heap_id, config.heap_id]; rfl)
  omega

/-- For an accepted configuration, the snapshot of every reachable state
represents its backends, no pick on it panics, and every backend that was not
ejected when it was taken can be served, exactly when there are at most 65536
backends. -/
theorem snapshots_represent_iff {raw : RawConfig} {config : Config}
    (accepted : raw.validate = .ok config) :
    (∀ (events : List HealthEvent) (state : HealthRun),
      EventRun.run step (initial config) events = some state →
      state.snapshot.Represents state.takenFrom state.heap ∧
      (∀ (strategy : RoutingStrategy) (heap : Heap) (req : RequestFeatures) (rng : SmallRng)
        (trace : Option DecisionTrace),
        ∃ result, strategy.pick heap state.snapshot req rng trace = .ok result) ∧
      ∀ ref ∈ state.snapshot.backends, (state.takenFrom ref).health.ejected = false →
        state.snapshot.Serves ref) ↔
    raw.backends.length ≤ 65536 := by
  obtain ⟨-, rfl⟩ := RawConfig.validate_eq_ok_iff.mp accepted
  constructor
  · intro represents
    by_contra many
    have start := (represents [] (initial raw.toConfig) rfl).1
    exact not_nodup_of_many (not_le.mp many) start.nodup
  · intro fits events state executed
    have numbered := numbered_run executed
    have represents := numbered.represents fits
    refine ⟨represents, ?_, ?_⟩
    · intro strategy heap req rng trace
      exact strategy.pick_total represents.indexed heap req rng trace
    · intro ref listed notEjected
      obtain ⟨id, member, -, rfl⟩ := represents.complete ref listed notEjected
      have short : state.snapshot.healthy.length ≤ raw.backends.length :=
        numbered.healthy_length_le
      exact Snapshot.serves_of_mem represents.indexed (by omega) member

theorem snapshots_represent_two :
    ∃ state, EventRun.run step (initial (twoBackends defaultPenalty).toConfig)
        [.recordFailure 0, .nextSnapshot] = some state ∧
      state.snapshot.Represents state.takenFrom state.heap := by
  refine ⟨_, rfl, ?_⟩
  exact ((snapshots_represent_iff (twoBackends_accepted defaultPenalty)).mpr (by decide)
    [.recordFailure 0, .nextSnapshot] _ rfl).1

def positionUrl (position : Nat) : String := "http://" ++ toString position

theorem positionUrl_injective : Function.Injective positionUrl := by
  intro first second same
  have digits : Nat.toDigits 10 first = Nat.toDigits 10 second := by
    simpa [positionUrl, Nat.toString_eq_ofList_toDigits, String.toList_append] using
      congrArg String.toList same
  have read := congrArg (fun chars => Nat.ofDigitChars 10 chars 0) digits
  have value (position : Nat) : Nat.ofDigitChars 10 (Nat.toDigits 10 position) 0 = position :=
    Nat.ofDigitChars_toDigits (by decide) (by decide)
  rwa [value, value] at read

/-- A configuration with the given number of backends. -/
def manyBackends (count : Nat) : RawConfig :=
  { twoBackends defaultPenalty with
    backends := (List.range count).map fun position =>
      ⟨positionUrl position, "m", 8192, 10, defaultWeight⟩ }

theorem manyBackends_accepted {count : Nat} (positive : 0 < count) :
    (manyBackends count).validate = .ok (manyBackends count).toConfig := by
  have valid : validateBackends [] (manyBackends count).backends = .ok () := by
    apply validateBackends_eq_ok
    · intro b listed
      obtain ⟨position, -, rfl⟩ := List.mem_map.mp listed
      exact ⟨(by decide : (8192 : UInt32) ≠ 0), (by decide : (10 : UInt32) ≠ 0)⟩
    · simp
    · change (((List.range count).map _).map _).Nodup
      rw [List.map_map]
      exact List.nodup_range.map positionUrl_injective
  refine RawConfig.validate_eq_ok_iff.mpr ⟨?_, rfl⟩
  exact RawConfig.checked_of_defaults _ defaultPenalty (by simp; omega) valid

theorem manyBackends_length (count : Nat) :
    (manyBackends count).toConfig.backends.length = count := by
  simp [manyBackends, RawConfig.toConfig]

/-- With 65537 backends the first snapshot lists the id zero twice. -/
theorem too_many_backends_share_an_id :
    ∃ config, (manyBackends 65537).validate = .ok config ∧
      (config.heap 65536).id = (config.heap 0).id ∧
      ¬ config.snapshot.Represents config.heap config.heap := by
  refine ⟨_, manyBackends_accepted (by decide), ?_, ?_⟩
  · rw [Config.heap_id, Config.heap_id]
    rfl
  · intro represents
    apply not_nodup_of_many _ represents.nodup
    rw [manyBackends_length]
    decide

end HealthRun

end KeelRouter
