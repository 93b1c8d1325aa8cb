import KeelRouter.Cost
import KeelRouter.EventRun
import KeelRouter.KeyedSum

/-!
# The reference implementation

The load generator of the first phase routes requests itself.  It keeps a count
and a projection for each backend, updates both when a request is dispatched and
when it ends, and raises the projection when a request generates more tokens
than estimated.  Numbers are exact.

Both tallies are the sums over the open requests, so that the projection is
never clamped.
-/

namespace KeelRouter

namespace Loadgen

/-- The settings of the command line that the pressure policy reads. -/
structure Settings where
  maxNumSeqs : ℤ
  kvCapacity : ℤ
  theta : ℚ
  penalty : ℚ
  sigma : ℚ
  kvModel : KvModel

/-- The local variables of `send_request`. -/
structure Request where
  backend : BackendRef
  p : ℤ
  oHat : ℤ
  c : ℤ
  kvHeld : ℤ

structure State where
  backends : List BackendRef
  inFlight : BackendRef → ℤ
  kvProj : BackendRef → ℚ
  requests : List Request

/-! ## Choosing a backend -/

/-- `kv_for` -/
def kvFor (p oHat : ℤ) (kvModel : KvModel) : ℤ :=
  match kvModel with
  | .promptPlusOutput => p + oHat
  | .promptOnly => p

section Choice

variable (settings : Settings) (state : State)

/-- `occupancy` -/
def occupancy (b : BackendRef) : ℚ :=
  let uSlots : ℚ := state.inFlight b / settings.maxNumSeqs
  let uKv : ℚ := state.kvProj b / settings.kvCapacity
  max uSlots uKv

/-- `pressure_score` -/
def pressureScore (b : BackendRef) : ℚ :=
  let u := occupancy settings state b
  if u < settings.theta then u
  else
    let excess := (u - settings.theta) / (1 - settings.theta)
    u + settings.penalty * excess ^ 2

/-- `projected <= state["sigma"] * state["kv_capacity"]` -/
def fits (b : BackendRef) (kvNew : ℤ) : Bool :=
  let projected := state.kvProj b + kvNew
  projected ≤ settings.sigma * settings.kvCapacity

/-- `admits` -/
def admits (b : BackendRef) (kvNew : ℤ) : Bool :=
  if settings.maxNumSeqs ≤ state.inFlight b then false else fits settings state b kvNew

def pool (kvNew : ℤ) : List BackendRef :=
  let eligible := state.backends.filter fun b => admits settings state b kvNew
  if eligible.isEmpty then state.backends else eligible

/-- The list that `choose_backend` draws from under the policy `pressure`. -/
def drawn (kvNew : ℤ) : List BackendRef :=
  let pool := pool settings state kvNew
  pool.filter fun b =>
    (pool.map (pressureScore settings state)).min? = some (pressureScore settings state b)

variable {settings state}

theorem mem_backends_of_mem_pool {kvNew : ℤ} {b : BackendRef}
    (member : b ∈ pool settings state kvNew) : b ∈ state.backends := by
  unfold pool at member
  dsimp only at member
  split at member
  · exact member
  · exact List.mem_of_mem_filter member

theorem mem_drawn {kvNew : ℤ} {b : BackendRef} :
    b ∈ drawn settings state kvNew ↔ b ∈ pool settings state kvNew ∧
      ∀ other ∈ pool settings state kvNew,
        pressureScore settings state b ≤ pressureScore settings state other := by
  unfold drawn
  rw [List.mem_filter, decide_eq_true_iff, List.min?_eq_some_iff]
  apply and_congr_right
  intro member
  have listed := List.mem_map_of_mem (f := pressureScore settings state) member
  simp [listed]

end Choice

/-! ## Accounting -/

inductive Event where
  | dispatch (backend : BackendRef) (p oHat : UInt32) (now : Instant)
  | token (position : Nat)
  | finish (position : Nat)

namespace State

def initial (backends : List BackendRef) : State where
  backends := backends
  inFlight _ := 0
  kvProj _ := 0
  requests := []

/-- What `run` does to the state once a backend is chosen, and the start of
`send_request`. -/
def dispatch (settings : Settings) (state : State) (backend : BackendRef) (p oHat : ℤ) : State :=
  let kvNew := kvFor p oHat settings.kvModel
  { state with
    inFlight := Function.update state.inFlight backend (state.inFlight backend + 1)
    kvProj := Function.update state.kvProj backend (state.kvProj backend + kvNew)
    requests := { backend, p, oHat, c := 0, kvHeld := kvNew } :: state.requests }

/-- A line with content. -/
def token (settings : Settings) (state : State) (position : Nat) (request : Request) : State :=
  let request := { request with c := request.c + 1 }
  if request.oHat < request.c then
    let oHat := request.oHat + 50
    let newKv := kvFor request.p oHat settings.kvModel
    { state with
      kvProj := Function.update state.kvProj request.backend
        (state.kvProj request.backend + (newKv - request.kvHeld))
      requests := state.requests.set position { request with oHat, kvHeld := newKv } }
  else { state with requests := state.requests.set position request }

/-- The request after a line with content. -/
def observed (settings : Settings) (request : Request) : Request :=
  if request.oHat < request.c + 1 then
    { request with
      c := request.c + 1
      oHat := request.oHat + 50
      kvHeld := kvFor request.p (request.oHat + 50) settings.kvModel }
  else { request with c := request.c + 1 }

theorem observed_backend (settings : Settings) (request : Request) :
    (observed settings request).backend = request.backend := by
  unfold observed
  split <;> rfl

theorem observed_c (settings : Settings) (request : Request) :
    (observed settings request).c = request.c + 1 := by
  unfold observed
  split <;> rfl

theorem observed_of_lt (settings : Settings) {request : Request}
    (exceeds : request.oHat < request.c + 1) :
    observed settings request = { request with
      c := request.c + 1
      oHat := request.oHat + 50
      kvHeld := kvFor request.p (request.oHat + 50) settings.kvModel } :=
  if_pos exceeds

theorem observed_of_not_lt (settings : Settings) {request : Request}
    (within : ¬ request.oHat < request.c + 1) :
    observed settings request = { request with c := request.c + 1 } :=
  if_neg within

/-- The projection moves by the change of what the request holds. -/
theorem token_eq (settings : Settings) (state : State) (position : Nat) (request : Request) :
    state.token settings position request =
      { state with
        kvProj := Function.update state.kvProj request.backend
          (state.kvProj request.backend + ((observed settings request).kvHeld - request.kvHeld))
        requests := state.requests.set position (observed settings request) } := by
  unfold token observed
  dsimp only
  split
  · rfl
  · simp

/-- The `finally` block of `send_request`. -/
def finish (state : State) (position : Nat) (request : Request) : State :=
  let kvProj := state.kvProj request.backend - request.kvHeld
  { state with
    inFlight := Function.update state.inFlight request.backend
      (state.inFlight request.backend - 1)
    kvProj := Function.update state.kvProj request.backend (if kvProj < 0 then 0 else kvProj)
    requests := state.requests.eraseIdx position }

/-- Open requests are addressed by their position, the latest first. -/
def step (settings : Settings) (state : State) : Event → Option State
  | .dispatch backend p oHat _ =>
      if backend ∈ state.backends then
        some (state.dispatch settings backend p.toNat oHat.toNat)
      else none
  | .token position => (state.requests[position]?).map (state.token settings position)
  | .finish position => (state.requests[position]?).map (state.finish position)

theorem step_cases {settings : Settings} {state next : State} {event : Event}
    (stepped : state.step settings event = some next) :
    (∃ backend p oHat now, event = .dispatch backend p oHat now ∧ backend ∈ state.backends ∧
      next = state.dispatch settings backend p.toNat oHat.toNat) ∨
    (∃ position request, event = .token position ∧
      state.requests[position]? = some request ∧
        next = state.token settings position request) ∨
    ∃ position request, event = .finish position ∧
      state.requests[position]? = some request ∧ next = state.finish position request := by
  cases event with
  | dispatch backend p oHat now =>
      by_cases listed : backend ∈ state.backends
      · rw [step, if_pos listed] at stepped
        exact .inl ⟨backend, p, oHat, now, rfl, listed, (Option.some.inj stepped).symm⟩
      · rw [step, if_neg listed] at stepped
        cases stepped
  | token position =>
      obtain ⟨request, present, finished⟩ := Option.map_eq_some_iff.mp stepped
      exact .inr (.inl ⟨position, request, rfl, present, finished.symm⟩)
  | finish position =>
      obtain ⟨request, present, finished⟩ := Option.map_eq_some_iff.mp stepped
      exact .inr (.inr ⟨position, request, rfl, present, finished.symm⟩)

/-- The tallies are the sums over the open requests. -/
structure Tallied (state : State) : Prop where
  inFlight : ∀ ref, state.inFlight ref =
    keyedSum Request.backend (fun _ => (1 : ℤ)) state.requests ref
  kvProj : ∀ ref, state.kvProj ref =
    keyedSum Request.backend (fun request => (request.kvHeld : ℚ)) state.requests ref
  nonneg : ∀ request ∈ state.requests, 0 ≤ request.p ∧ 0 ≤ request.oHat ∧ 0 ≤ request.kvHeld

theorem tallied_initial (backends : List BackendRef) : (initial backends).Tallied where
  inFlight ref := by simp [initial]
  kvProj ref := by simp [initial]
  nonneg request member := by simp [initial] at member

section Tally

variable {G : Type} [AddCommGroup G] (tally : BackendRef → G) (backend ref : BackendRef)
  (amount : G)

theorem update_add : Function.update tally backend (tally backend + amount) ref =
    tally ref + if backend = ref then amount else 0 := by
  by_cases same : ref = backend
  · subst same
    simp
  · simp [Function.update_of_ne same, Ne.symm same]

theorem update_sub : Function.update tally backend (tally backend - amount) ref =
    tally ref - if backend = ref then amount else 0 := by
  by_cases same : ref = backend
  · subst same
    simp
  · simp [Function.update_of_ne same, Ne.symm same]

end Tally

theorem kvFor_nonneg {p oHat : ℤ} (pNonneg : 0 ≤ p) (oHatNonneg : 0 ≤ oHat) (kvModel : KvModel) :
    0 ≤ kvFor p oHat kvModel := by
  cases kvModel with
  | promptOnly => exact pNonneg
  | promptPlusOutput => exact add_nonneg pNonneg oHatNonneg

section Tallies

variable {settings : Settings} {state : State} (tallied : state.Tallied)
include tallied

/-- Taking a request out leaves a projection that is not negative. -/
theorem Tallied.kvHeld_le {position : Nat} {request : Request}
    (present : state.requests[position]? = some request) :
    (request.kvHeld : ℚ) ≤ state.kvProj request.backend ∧ 1 ≤ state.inFlight request.backend := by
  have others : 0 ≤ keyedSum Request.backend (fun request => (request.kvHeld : ℚ))
      (state.requests.eraseIdx position) request.backend := by
    apply List.sum_nonneg
    intro held listed
    obtain ⟨other, member, rfl⟩ := List.mem_map.mp listed
    have open_ := List.mem_of_mem_eraseIdx (List.mem_of_mem_filter member)
    exact_mod_cast (tallied.nonneg other open_).2.2
  have othersOpen : 0 ≤ keyedSum Request.backend (fun _ => (1 : ℤ))
      (state.requests.eraseIdx position) request.backend := by
    apply List.sum_nonneg
    intro count listed
    obtain ⟨other, -, rfl⟩ := List.mem_map.mp listed
    exact Int.one_nonneg
  rw [tallied.kvProj, tallied.inFlight, keyedSum_eq_getElem_add_eraseIdx _ _ present,
    keyedSum_eq_getElem_add_eraseIdx _ _ present, if_pos rfl, if_pos rfl]
  exact ⟨by linarith, by linarith⟩

theorem Tallied.kvProj_nonneg (ref : BackendRef) : 0 ≤ state.kvProj ref := by
  rw [tallied.kvProj]
  apply List.sum_nonneg
  intro held listed
  obtain ⟨request, member, rfl⟩ := List.mem_map.mp listed
  exact_mod_cast (tallied.nonneg request (List.mem_of_mem_filter member)).2.2

/-- The projection is never clamped. -/
theorem finish_eq {position : Nat} {request : Request}
    (present : state.requests[position]? = some request) :
    state.finish position request =
      { state with
        inFlight := Function.update state.inFlight request.backend
          (state.inFlight request.backend - 1)
        kvProj := Function.update state.kvProj request.backend
          (state.kvProj request.backend - request.kvHeld)
        requests := state.requests.eraseIdx position } := by
  have held := (tallied.kvHeld_le present).1
  unfold finish
  dsimp only
  rw [if_neg (by linarith)]

theorem tallied_dispatch (backend : BackendRef) {p oHat : ℤ} (pNonneg : 0 ≤ p)
    (oHatNonneg : 0 ≤ oHat) : (state.dispatch settings backend p oHat).Tallied := by
  refine ⟨?_, ?_, ?_⟩
  · intro ref
    change Function.update state.inFlight backend _ ref = _
    rw [update_add, dispatch, keyedSum_cons, ← tallied.inFlight]
    exact add_comm _ _
  · intro ref
    change Function.update state.kvProj backend _ ref = _
    rw [update_add, dispatch, keyedSum_cons, ← tallied.kvProj]
    exact add_comm _ _
  · intro request member
    rcases List.mem_cons.mp member with rfl | earlier
    · exact ⟨pNonneg, oHatNonneg, kvFor_nonneg pNonneg oHatNonneg settings.kvModel⟩
    · exact tallied.nonneg request earlier

theorem tallied_token {position : Nat} {request : Request}
    (present : state.requests[position]? = some request) :
    (state.token settings position request).Tallied := by
  have sameBackend := observed_backend settings request
  rw [token_eq]
  refine ⟨?_, ?_, ?_⟩
  · intro ref
    rw [keyedSum_set_same_key Request.backend (fun _ => (1 : ℤ)) present sameBackend,
      ← tallied.inFlight]
    simp
  · intro ref
    change Function.update state.kvProj request.backend _ ref = _
    rw [keyedSum_set_same_key Request.backend (fun request => (request.kvHeld : ℚ)) present
      sameBackend, ← tallied.kvProj, update_add]
  · intro other member
    rcases List.mem_or_eq_of_mem_set member with earlier | rfl
    · exact tallied.nonneg other earlier
    · obtain ⟨pNonneg, oHatNonneg, heldNonneg⟩ :=
        tallied.nonneg request (List.mem_of_getElem? present)
      unfold observed
      split
      · exact ⟨pNonneg, by dsimp only; omega, kvFor_nonneg pNonneg (by omega) _⟩
      · exact ⟨pNonneg, oHatNonneg, heldNonneg⟩

theorem tallied_finish {position : Nat} {request : Request}
    (present : state.requests[position]? = some request) :
    (state.finish position request).Tallied := by
  rw [finish_eq tallied present]
  refine ⟨?_, ?_, ?_⟩
  · intro ref
    change Function.update state.inFlight request.backend _ ref = _
    rw [keyedSum_eraseIdx Request.backend (fun _ => (1 : ℤ)) present, ← tallied.inFlight,
      update_sub]
  · intro ref
    change Function.update state.kvProj request.backend _ ref = _
    rw [keyedSum_eraseIdx Request.backend (fun request => (request.kvHeld : ℚ)) present,
      ← tallied.kvProj, update_sub]
  · intro other member
    exact tallied.nonneg other (List.mem_of_mem_eraseIdx member)

theorem tallied_step {next : State} {event : Event}
    (stepped : state.step settings event = some next) : next.Tallied := by
  rcases step_cases stepped with ⟨backend, p, oHat, now, -, -, rfl⟩ |
    ⟨position, request, -, present, rfl⟩ | ⟨position, request, -, present, rfl⟩
  · exact tallied_dispatch tallied backend (Int.natCast_nonneg _) (Int.natCast_nonneg _)
  · exact tallied_token tallied present
  · exact tallied_finish tallied present

end Tallies

end State

end Loadgen

end KeelRouter
