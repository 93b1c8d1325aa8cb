import KeelRouter.Loadgen
import KeelRouter.ReferenceStream
import KeelRouter.ResultConservation
import KeelRouter.Utf8Lossy

/-!
# A run of the load generator

The load generator dispatches the requests of its trace one after the other and
gives each a task of its own.  A task streams its response, and whatever ends the
stream, an end marker, an error or an exception anywhere, is followed by the same
release and by one row.  The tasks take turns wherever they wait.

The line that is printed for an error comes before the row.  It raises when the
message of an error frame is no text, or when the output cannot encode the text.
Once everything is dispatched such an exception ends the run: the tasks that are
still open are cancelled, which releases what they hold but gives no rows, and no
results are written.  An exception of the loop over the trace itself, as for
settings that divide by zero, is not modelled.
-/

namespace KeelRouter

open SerdeJson (Members Value)

namespace Loadgen

/-! ## The command line and the trace -/

inductive Policy where
  | leastConn
  | kvts
  | kvtsP2c
  | pressure
  | pressureP2c
  | proxy
deriving DecidableEq

/-- `policy.startswith("kvts")` -/
def Policy.isKvts : Policy → Bool
  | .kvts | .kvtsP2c => true
  | .leastConn | .pressure | .pressureP2c | .proxy => false

/-- `policy.startswith("pressure")` -/
def Policy.isPressure : Policy → Bool
  | .pressure | .pressureP2c => true
  | .leastConn | .kvts | .kvtsP2c | .proxy => false

/-- How the output of a request is predicted. -/
inductive OutputModel where
  | echo
  | maxTokens
deriving DecidableEq

structure Options where
  policy : Policy
  outputModel : OutputModel
  settings : Settings

structure TraceRequest where
  offsetMs : ℚ
  prompt : List Char
  maxTokens : ℤ

/-- `text.split()` -/
def split (text : List Char) : List (List Char) :=
  (text.splitOnP isSpace).filter fun word => !word.isEmpty

def TraceRequest.promptTokens (request : TraceRequest) : ℕ := (split request.prompt).length

/-- The estimate of a request's output. -/
def Options.oHat (options : Options) (request : TraceRequest) : ℤ :=
  match options.outputModel with
  | .echo => request.promptTokens
  | .maxTokens => request.maxTokens

/-- `kvts_remaining` -/
def kvtsRemaining (p h c oHat : ℤ) : ℚ :=
  let rem : ℚ := max 0 (oHat - c)
  rem * (p - h + c + rem / 2)

/-! ## What a line does -/

/-- The interpreter: its texts of a value and of the exception that a line raises, and
whether the output can encode a text, which a lone surrogate keeps it from. -/
structure Python where
  loads : Loads
  str : Value → String
  raised : List Char → String
  encodes : String → Bool

inductive LineOutcome where
  | skip
  | count
  | leave (err : Value)

/-- `o["error"].get("message", str(o["error"]))`, or the exception that it raises -/
def Python.errorMessage (python : Python) (line : List Char) (error : Value) : Value :=
  match error.asObject with
  | none => .string (python.raised line)
  | some fields => (fields.get "message").getD (.string (python.str error))

/-- The body of the loop for a line, which has lost its newline. -/
def Python.readLine (python : Python) (line : List Char) : LineOutcome :=
  if !"data:".toList.isPrefixOf line then .skip
  else
    let d := strip (line.drop 5)
    if d = "[DONE]".toList then .leave .null
    else
      match python.loads d with
      | .error .jsonDecodeError => .skip
      | .error .otherError => .leave (.string (python.raised line))
      | .ok o =>
          match o.get "error" with
          | some error => .leave (python.errorMessage line error)
          | none =>
              match readChunk o with
              | .skip => .skip
              | .count => .count
              | .leave => .leave (.string (python.raised line))

/-! ## The state -/

inductive TaskPhase where
  | created
  | waiting (t0 : ℚ)
  | reading (t0 : ℚ)
  /-- The loop has been left, and the response is being closed. -/
  | closing (t0 : ℚ)
deriving DecidableEq

/-- The local variables of `send_request`. -/
structure Task extends Request where
  reqId : ℕ
  schedS : ℚ
  maxTokens : ℤ
  charged : ℚ
  firstTok : Option ℚ
  err : Value
  phase : TaskPhase

/-- A row of the results. -/
structure Row where
  reqId : ℕ
  backend : BackendRef
  scheduledOffsetS : ℚ
  ttftS : Option ℚ
  e2eS : ℚ
  requestedMaxTokens : ℤ
  promptTokens : ℤ
  actualTokens : ℤ
  error : Value

/-- The row of a task that ends. -/
def Task.row (task : Task) (t0 t1 : ℚ) : Row where
  reqId := task.reqId
  backend := task.backend
  scheduledOffsetS := task.schedS
  ttftS := task.firstTok.bind fun first => if first = 0 then none else some (first - t0)
  e2eS := t1 - t0
  requestedMaxTokens := task.maxTokens
  promptTokens := task.p
  actualTokens := task.c
  error := task.err

/-- Printing `'ERR: ' + err if err else 'ok'` does not raise. -/
def Python.isPrintable (python : Python) (err : Value) : Bool :=
  !truthy err || err.asStr.any python.encodes

/-- The local variables after a line with content. -/
def Task.counted (options : Options) (task : Task) (now : ℚ) : Task :=
  let c := task.c + 1
  let exceeds := decide (task.oHat < c)
  let oHat := if exceeds then task.oHat + 50 else task.oHat
  { task with
    firstTok := task.firstTok.or (some now)
    c
    oHat
    kvHeld := if exceeds then kvFor task.p oHat options.settings.kvModel else task.kvHeld
    charged := if options.policy.isKvts then kvtsRemaining task.p 0 c oHat else task.charged }

/-- The state of `run`, with the progress of the run, its tasks, its results and the
requests whose tasks have raised or have been cancelled. -/
structure LoadState where
  backends : List BackendRef
  inFlight : BackendRef → ℤ
  kvProj : BackendRef → ℚ
  w : BackendRef → ℚ
  disp : ℕ
  done : ℕ
  gated : ℕ
  tasks : List Task
  results : List Row
  raised : List ℕ
  cancelled : List ℕ

inductive LoadEvent where
  | dispatch (backend : BackendRef)
  | start (position : Nat) (t0 : ℚ)
  | opened (position : Nat)
  /-- A response with another status than 200, and its body. -/
  | refused (position : Nat) (status : ℕ) (raw : List UInt8)
  | line (position : Nat) (text : List Char) (now : ℚ)
  | ended (position : Nat)
  | raised (position : Nat) (text : String) (t1 : ℚ)
  | closed (position : Nat) (t1 : ℚ)
  | cancel (position : Nat)

/-- Ordered pairs of different places in a list. -/
def samples {α : Type} (pool : List α) : List (α × α) :=
  pool.zipIdx.flatMap fun first => (pool.eraseIdx first.2).map fun second => (first.1, second)

namespace LoadState

def initial (backends : List BackendRef) : LoadState where
  backends
  inFlight _ := 0
  kvProj _ := 0
  w _ := 0
  disp := 0
  done := 0
  gated := 0
  tasks := []
  results := []
  raised := []
  cancelled := []

/-- The state without the debts and the progress. -/
def core (state : LoadState) : State where
  backends := state.backends
  inFlight := state.inFlight
  kvProj := state.kvProj
  requests := state.tasks.map Task.toRequest

/-! ## Choosing a backend -/

/-- The backends with the smallest value. -/
def smallest (pool : List BackendRef) (value : BackendRef → ℚ) : List BackendRef :=
  pool.filter fun b => (pool.map value).min? = some (value b)

/-- The backends that `choose_backend` may return; none where it raises. -/
def choices (options : Options) (state : LoadState) (kvNew : ℤ) : List BackendRef :=
  match options.policy with
  | .proxy => state.backends.head?.toList
  | .leastConn => smallest state.backends fun b => state.inFlight b
  | .kvts => smallest state.backends state.w
  | .kvtsP2c => (samples state.backends).map fun pair =>
      if state.w pair.1 ≤ state.w pair.2 then pair.1 else pair.2
  | .pressure => drawn options.settings state.core kvNew
  | .pressureP2c =>
      let pool := pool options.settings state.core kvNew
      if pool.length = 1 then pool
      else (samples pool).map fun pair =>
        if pressureScore options.settings state.core pair.1 ≤
          pressureScore options.settings state.core pair.2 then pair.1 else pair.2

/-! ## Steps -/

/-- One round of the loop over the trace, once its backend is chosen. -/
def dispatch (options : Options) (state : LoadState) (request : TraceRequest)
    (backend : BackendRef) : LoadState :=
  let p := request.promptTokens
  let oHat := options.oHat request
  let kvNew := kvFor p oHat options.settings.kvModel
  let charge := if options.policy.isKvts then kvtsRemaining p 0 0 oHat else 0
  let admitted := state.backends.any fun b => admits options.settings state.core b kvNew
  { state with
    inFlight := Function.update state.inFlight backend (state.inFlight backend + 1)
    kvProj := Function.update state.kvProj backend (state.kvProj backend + kvNew)
    w :=
      if options.policy.isKvts then Function.update state.w backend (state.w backend + charge)
      else state.w
    disp := state.disp + 1
    gated := if options.policy.isPressure && !admitted then state.gated + 1 else state.gated
    tasks := {
      backend, p, oHat, c := 0, kvHeld := kvNew
      reqId := state.disp
      schedS := request.offsetMs / 1000
      maxTokens := request.maxTokens
      charged := charge
      firstTok := none
      err := .null
      phase := .created } :: state.tasks }

/-- Only local variables of a task change. -/
def setTask (state : LoadState) (position : Nat) (task : Task) : LoadState :=
  { state with tasks := state.tasks.set position task }

/-- A line with content. -/
def count (options : Options) (state : LoadState) (position : Nat) (task : Task) (now : ℚ) :
    LoadState :=
  let counted := task.counted options now
  { state with
    kvProj :=
      if task.oHat < task.c + 1 then
        Function.update state.kvProj task.backend
          (state.kvProj task.backend + (counted.kvHeld - task.kvHeld))
      else state.kvProj
    w :=
      if options.policy.isKvts then
        Function.update state.w task.backend
          (state.w task.backend + (counted.charged - task.charged))
      else state.w
    tasks := state.tasks.set position counted }

/-- `if abs(w) < 1e-6` -/
def clampDebt (w : ℚ) : ℚ := if |w| < 1 / 10 ^ 6 then 0 else w

/-- The `finally` block of `send_request`. -/
def release (options : Options) (state : LoadState) (position : Nat) (task : Task) : LoadState :=
  let kvProj := state.kvProj task.backend - task.kvHeld
  { state with
    inFlight := Function.update state.inFlight task.backend (state.inFlight task.backend - 1)
    kvProj := Function.update state.kvProj task.backend (if kvProj < 0 then 0 else kvProj)
    w :=
      if options.policy.isKvts then
        Function.update state.w task.backend (clampDebt (state.w task.backend - task.charged))
      else state.w
    tasks := state.tasks.eraseIdx position }

/-- The end of `send_request`, with its row. -/
def finish (python : Python) (options : Options) (state : LoadState) (position : Nat) (task : Task)
    (t0 t1 : ℚ) : LoadState :=
  { state.release options position task with
    done := state.done + 1
    results :=
      if python.isPrintable task.err then state.results ++ [task.row t0 t1] else state.results
    raised :=
      if python.isPrintable task.err then state.raised else state.raised ++ [task.reqId] }

/-- The task is cancelled at one of its waits. -/
def cancel (options : Options) (state : LoadState) (position : Nat) (task : Task) : LoadState :=
  { state.release options position task with cancelled := state.cancelled ++ [task.reqId] }

/-- The text of `err` for a status other than 200. -/
def statusError (status : ℕ) (raw : List UInt8) : String :=
  "HTTP " ++ toString status ++ ": " ++ String.ofList (Utf8Lossy.fromUtf8Lossy (raw.take 200))

/-- A step of the task at a position. -/
def advance (python : Python) (options : Options) (state : LoadState) (position : Nat)
    (task : Task) (event : LoadEvent) : Option LoadState :=
  match task.phase, event with
  | .created, .start _ t0 => some (state.setTask position { task with phase := .waiting t0 })
  | .waiting t0, .opened _ => some (state.setTask position { task with phase := .reading t0 })
  | .waiting t0, .refused _ status raw =>
      if status = 200 then none
      else some (state.setTask position
        { task with phase := .closing t0, err := .string (statusError status raw) })
  | .waiting t0, .raised _ text t1 =>
      some (state.finish python options position { task with err := .string text } t0 t1)
  | .reading t0, .line _ text now =>
      match python.readLine text with
      | .skip => some state
      | .count => some (state.count options position task now)
      | .leave err => some (state.setTask position { task with phase := .closing t0, err })
  | .reading t0, .ended _ => some (state.setTask position { task with phase := .closing t0 })
  | .reading t0, .raised _ text _ =>
      some (state.setTask position { task with phase := .closing t0, err := .string text })
  | .closing t0, .raised _ text t1 =>
      some (state.finish python options position { task with err := .string text } t0 t1)
  | .closing t0, .closed _ t1 => some (state.finish python options position task t0 t1)
  | _, _ => none

/-- Tasks are addressed by their position, the latest first. -/
def step (python : Python) (options : Options) (requests : List TraceRequest) (state : LoadState)
    (event : LoadEvent) : Option LoadState :=
  match event with
  | .cancel position =>
      (state.tasks[position]?).bind fun task =>
        -- the exception of a task has left `gather`
        if state.disp = requests.length ∧ state.raised ≠ [] ∧ task.phase ≠ .created then
          some (state.cancel options position task)
        else none
  | .dispatch backend =>
      (requests[state.disp]?).bind fun request =>
        let kvNew := kvFor request.promptTokens (options.oHat request) options.settings.kvModel
        if backend ∈ state.choices options kvNew then some (state.dispatch options request backend)
        else none
  | .start position _ | .opened position | .refused position _ _ | .line position _ _
  | .ended position | .raised position _ _ | .closed position _ =>
      (state.tasks[position]?).bind fun task =>
        state.advance python options position task event

/-- Everything is dispatched, and every task has returned. -/
structure Completed (requests : List TraceRequest) (state : LoadState) : Prop where
  dispatched : state.disp = requests.length
  gathered : state.tasks = []
  returned : state.raised = []

/-- The rows of the file, `sorted(results, key=lambda x: x["req_id"])`. -/
def rows (state : LoadState) : List Row :=
  state.results.mergeSort fun first second => first.reqId ≤ second.reqId

/-! ## What a step can do -/

/-- Where a task has its error from. -/
inductive Errs (python : Python) (task : Task) : LoadEvent → Value → Prop where
  | kept (event : LoadEvent) : Errs python task event task.err
  | refused (position status : ℕ) (raw : List UInt8) :
      Errs python task (.refused position status raw) (.string (statusError status raw))
  | raised (position : ℕ) (text : String) (t1 : ℚ) :
      Errs python task (.raised position text t1) (.string text)
  | line {position : ℕ} {text : List Char} {now : ℚ} {err : Value}
      (left : python.readLine text = .leave err) : Errs python task (.line position text now) err

/-- What a step does to the state. -/
inductive Does (python : Python) (options : Options) (requests : List TraceRequest)
    (state : LoadState) (event : LoadEvent) : LoadState → Prop where
  | dispatch {request : TraceRequest} {backend : BackendRef}
      (present : requests[state.disp]? = some request)
      (chosen : backend ∈ state.choices options
        (kvFor request.promptTokens (options.oHat request) options.settings.kvModel)) :
      Does python options requests state event (state.dispatch options request backend)
  | skip : Does python options requests state event state
  | move {position : Nat} {task : Task} {err : Value} (phase : TaskPhase)
      (present : state.tasks[position]? = some task) (errs : Errs python task event err) :
      Does python options requests state event
        (state.setTask position { task with err, phase })
  | count {position : Nat} {task : Task} (now : ℚ) (present : state.tasks[position]? = some task) :
      Does python options requests state event (state.count options position task now)
  | finish {position : Nat} {task : Task} {err : Value} (t0 t1 : ℚ)
      (present : state.tasks[position]? = some task) (errs : Errs python task event err) :
      Does python options requests state event
        (state.finish python options position { task with err } t0 t1)
  | cancel {position : Nat} {task : Task} (present : state.tasks[position]? = some task)
      (dispatched : state.disp = requests.length) (raised : state.raised ≠ []) :
      Does python options requests state event (state.cancel options position task)

section Inversion

variable {python : Python} {options : Options} {requests : List TraceRequest}
  {state next : LoadState} {event : LoadEvent}

theorem does_of_advance {position : Nat} {task : Task}
    (present : state.tasks[position]? = some task)
    (advanced : state.advance python options position task event = some next) :
    Does python options requests state event next := by
  unfold advance at advanced
  split at advanced
  case h_1 =>
    obtain rfl := Option.some.inj advanced
    exact .move _ present (.kept _)
  case h_2 =>
    obtain rfl := Option.some.inj advanced
    exact .move _ present (.kept _)
  case h_3 =>
    split at advanced
    · cases advanced
    · obtain rfl := Option.some.inj advanced
      exact .move _ present (.refused _ _ _)
  case h_4 =>
    obtain rfl := Option.some.inj advanced
    exact .finish _ _ present (.raised _ _ _)
  case h_5 =>
    split at advanced
    · obtain rfl := Option.some.inj advanced
      exact .skip
    · obtain rfl := Option.some.inj advanced
      exact .count _ present
    · rename_i left
      obtain rfl := Option.some.inj advanced
      exact .move _ present (.line left)
  case h_6 =>
    obtain rfl := Option.some.inj advanced
    exact .move _ present (.kept _)
  case h_7 =>
    obtain rfl := Option.some.inj advanced
    exact .move _ present (.raised _ _ _)
  case h_8 =>
    obtain rfl := Option.some.inj advanced
    exact .finish _ _ present (.raised _ _ _)
  case h_9 =>
    obtain rfl := Option.some.inj advanced
    exact .finish _ _ present (.kept _)
  case h_10 => cases advanced

theorem does_of_step (stepped : state.step python options requests event = some next) :
    Does python options requests state event next := by
  cases event with
  | dispatch backend =>
      obtain ⟨request, present, chosen⟩ := Option.bind_eq_some_iff.mp stepped
      dsimp only at chosen
      split at chosen
      · rename_i listed
        obtain rfl := Option.some.inj chosen
        exact .dispatch present listed
      · cases chosen
  | cancel position =>
      obtain ⟨task, present, cancelled⟩ := Option.bind_eq_some_iff.mp stepped
      split at cancelled
      · rename_i ended
        obtain rfl := Option.some.inj cancelled
        exact .cancel present ended.1 ended.2.1
      · cases cancelled
  | start | opened | refused | line | ended | raised | closed =>
      obtain ⟨task, present, advanced⟩ := Option.bind_eq_some_iff.mp stepped
      exact does_of_advance present advanced

end Inversion

/-! ## The tallies -/

section Core

variable (options : Options) {state : LoadState} {position : Nat} {task : Task}

theorem core_dispatch (request : TraceRequest) (backend : BackendRef) :
    (state.dispatch options request backend).core =
      state.core.dispatch options.settings backend request.promptTokens (options.oHat request) :=
  rfl

theorem core_setTask (present : state.tasks[position]? = some task) (err : Value)
    (phase : TaskPhase) : (state.setTask position { task with err, phase }).core = state.core := by
  have requests : (state.tasks.set position { task with err, phase }).map Task.toRequest =
      state.tasks.map Task.toRequest := by
    obtain ⟨inside, rfl⟩ := List.getElem?_eq_some_iff.mp present
    rw [List.map_set]
    have mapped : position < (state.tasks.map Task.toRequest).length := by
      rw [List.length_map]
      exact inside
    have own : (state.tasks.map Task.toRequest)[position] = state.tasks[position].toRequest :=
      List.getElem_map Task.toRequest
    dsimp only
    rw [← own, List.set_getElem_self mapped]
  unfold setTask core
  rw [requests]

theorem core_count (now : ℚ) :
    (state.count options position task now).core =
      state.core.token options.settings position task.toRequest := by
  unfold count Task.counted State.token core
  by_cases exceeds : task.oHat < task.c + 1
  · simp [exceeds, List.map_set]
  · simp [exceeds, List.map_set]

theorem core_release :
    (state.release options position task).core = state.core.finish position task.toRequest := by
  unfold release State.finish core
  rw [List.eraseIdx_map]

theorem core_present (present : state.tasks[position]? = some task) :
    state.core.requests[position]? = some task.toRequest := by
  unfold core
  rw [List.getElem?_map, present]
  rfl

end Core

theorem tallied_does {python : Python} {options : Options} {requests : List TraceRequest}
    {state next : LoadState} {event : LoadEvent}
    (nonneg : ∀ request ∈ requests, 0 ≤ options.oHat request)
    (tallied : state.core.Tallied) (does : Does python options requests state event next) :
    next.core.Tallied := by
  cases does with
  | dispatch present chosen =>
      rw [core_dispatch]
      exact State.tallied_dispatch tallied _ (Int.natCast_nonneg _)
        (nonneg _ (List.mem_of_getElem? present))
  | skip => exact tallied
  | move phase present errs =>
      rw [core_setTask present _ phase]
      exact tallied
  | count now present =>
      rw [core_count]
      exact State.tallied_token tallied (core_present present)
  | finish t0 t1 present errs =>
      have released := State.tallied_finish tallied (core_present present)
      rwa [← core_release options] at released
  | cancel present dispatched raised =>
      have released := State.tallied_finish tallied (core_present present)
      rwa [← core_release options] at released

end LoadState

/-! ## The debts -/

/-- A multiple of one half. -/
def IsHalf (value : ℚ) : Prop := ∃ n : ℤ, value = n / 2

theorem isHalf_zero : IsHalf 0 := ⟨0, by simp⟩

theorem IsHalf.add {first second : ℚ} (left : IsHalf first) (right : IsHalf second) :
    IsHalf (first + second) := by
  obtain ⟨n, rfl⟩ := left
  obtain ⟨m, rfl⟩ := right
  exact ⟨n + m, by push_cast; ring⟩

theorem isHalf_kvtsRemaining (p h c oHat : ℤ) : IsHalf (kvtsRemaining p h c oHat) := by
  have whole : max 0 ((oHat : ℚ) - c) = (max 0 (oHat - c) : ℤ) := by push_cast; rfl
  unfold kvtsRemaining
  dsimp only
  rw [whole]
  generalize max 0 (oHat - c) = rem
  exact ⟨2 * rem * (p - h + c) + rem ^ 2, by push_cast; ring⟩

theorem isHalf_keyedSum {tasks : List Task} (half : ∀ task ∈ tasks, IsHalf task.charged)
    (ref : BackendRef) :
    IsHalf (keyedSum (fun task : Task => task.backend) Task.charged tasks ref) := by
  induction tasks with
  | nil => exact isHalf_zero
  | cons task tasks ih =>
      rw [keyedSum_cons]
      apply IsHalf.add
      · split
        · exact half task List.mem_cons_self
        · exact isHalf_zero
      · exact ih fun other listed => half other (List.mem_cons_of_mem task listed)

namespace LoadState

/-- A debt in halves is not clamped. -/
theorem clampDebt_of_isHalf {value : ℚ} (half : IsHalf value) : clampDebt value = value := by
  obtain ⟨n, rfl⟩ := half
  unfold clampDebt
  split
  · rename_i small
    have bounds := abs_lt.mp small
    have below : (n : ℚ) < 1 := by linarith [bounds.2]
    have above : (-1 : ℚ) < n := by linarith [bounds.1]
    have zero : n = 0 := by
      have belowInt : n < 1 := by exact_mod_cast below
      have aboveInt : -1 < n := by exact_mod_cast above
      omega
    rw [zero]
    simp
  · rfl

/-- The debts are the sums over the open tasks, and there are none but under the
policies that keep them. -/
structure Indebted (options : Options) (state : LoadState) : Prop where
  w : ∀ ref, state.w ref =
    keyedSum (fun task : Task => task.backend) Task.charged state.tasks ref
  half : ∀ task ∈ state.tasks, IsHalf task.charged
  unused : options.policy.isKvts = false → ∀ task ∈ state.tasks, task.charged = 0

section Debts

variable {options : Options} {state : LoadState} (indebted : state.Indebted options)
include indebted

theorem indebted_dispatch (request : TraceRequest) (backend : BackendRef) :
    (state.dispatch options request backend).Indebted options := by
  unfold dispatch
  refine ⟨?_, ?_, ?_⟩
  · intro ref
    dsimp only
    rw [keyedSum_cons, ← indebted.w]
    cases options.policy.isKvts with
    | false => simp
    | true =>
        simp only [if_true]
        rw [State.update_add]
        exact add_comm _ _
  · intro task listed
    rcases List.mem_cons.mp listed with rfl | earlier
    · dsimp only
      split
      · exact isHalf_kvtsRemaining _ _ _ _
      · exact isHalf_zero
    · exact indebted.half task earlier
  · intro other task listed
    rcases List.mem_cons.mp listed with rfl | earlier
    · simp [other]
    · exact indebted.unused other task earlier

variable {position : Nat} {task : Task} (present : state.tasks[position]? = some task)
include present

theorem indebted_set {revised : Task} (backend : revised.backend = task.backend)
    (charged : revised.charged = task.charged) :
    (state.setTask position revised).Indebted options := by
  have listed := List.mem_of_getElem? present
  refine ⟨?_, ?_, ?_⟩
  · intro ref
    refine (indebted.w ref).trans (Eq.symm ?_)
    refine (keyedSum_set_same_key (fun task : Task => task.backend) Task.charged present backend
      ref).trans ?_
    simp [charged]
  · intro other member
    rcases List.mem_or_eq_of_mem_set member with earlier | rfl
    · exact indebted.half other earlier
    · rw [charged]
      exact indebted.half task listed
  · intro none other member
    rcases List.mem_or_eq_of_mem_set member with earlier | rfl
    · exact indebted.unused none other earlier
    · rw [charged]
      exact indebted.unused none task listed

theorem indebted_count (now : ℚ) : (state.count options position task now).Indebted options := by
  have listed := List.mem_of_getElem? present
  have backend : (task.counted options now).backend = task.backend := rfl
  have half : IsHalf (task.counted options now).charged := by
    unfold Task.counted
    dsimp only
    split
    · exact isHalf_kvtsRemaining _ _ _ _
    · exact indebted.half task listed
  have kept (none : options.policy.isKvts = false) :
      (task.counted options now).charged = task.charged := by
    simp [Task.counted, none]
  refine ⟨?_, ?_, ?_⟩
  · intro ref
    change (if options.policy.isKvts then _ else _ : BackendRef → ℚ) ref = _
    refine Eq.trans ?_ (keyedSum_set_same_key (fun task : Task => task.backend) Task.charged
      present backend ref).symm
    rw [← indebted.w]
    cases kvts : options.policy.isKvts with
    | false => simp [kept kvts]
    | true =>
        simp only [if_true]
        exact State.update_add _ _ _ _
  · intro other member
    rcases List.mem_or_eq_of_mem_set member with earlier | rfl
    · exact indebted.half other earlier
    · exact half
  · intro none other member
    rcases List.mem_or_eq_of_mem_set member with earlier | rfl
    · exact indebted.unused none other earlier
    · rw [kept none]
      exact indebted.unused none task listed

theorem indebted_release (err : Value) :
    (state.release options position { task with err }).Indebted options := by
  have listed := List.mem_of_getElem? present
  have halfLeft : ∀ other ∈ state.tasks.eraseIdx position, IsHalf other.charged :=
    fun other member => indebted.half other (List.mem_of_mem_eraseIdx member)
  have left (ref : BackendRef) := keyedSum_eraseIdx (fun task : Task => task.backend) Task.charged
    present ref
  unfold release
  refine ⟨?_, halfLeft, fun none other member =>
    indebted.unused none other (List.mem_of_mem_eraseIdx member)⟩
  intro ref
  dsimp only
  cases kvts : options.policy.isKvts with
  | false =>
      simp only [Bool.false_eq_true, if_false]
      rw [left, ← indebted.w, indebted.unused kvts task listed]
      simp
  | true =>
      have exact : clampDebt (state.w task.backend - task.charged) =
          state.w task.backend - task.charged := by
        apply clampDebt_of_isHalf
        have own := left task.backend
        rw [← indebted.w, if_pos rfl] at own
        rw [← own]
        exact isHalf_keyedSum halfLeft task.backend
      simp only [if_true]
      rw [exact, State.update_sub, left, ← indebted.w]

end Debts

theorem indebted_does {python : Python} {options : Options} {requests : List TraceRequest}
    {state next : LoadState} {event : LoadEvent}
    (indebted : state.Indebted options) (does : Does python options requests state event next) :
    next.Indebted options := by
  cases does with
  | dispatch present chosen => exact indebted_dispatch indebted _ _
  | skip => exact indebted
  | move phase present errs => exact indebted_set indebted present rfl rfl
  | count now present => exact indebted_count indebted present now
  | finish t0 t1 present errs =>
      obtain ⟨w, half, unused⟩ := indebted_release indebted present _
      exact ⟨w, half, unused⟩
  | @cancel position task present dispatched raised =>
      obtain ⟨w, half, unused⟩ := indebted_release indebted present task.err
      exact ⟨w, half, unused⟩

/-! ## The requests in flight -/

/-- The requests in flight are the open tasks. -/
def Occupied (state : LoadState) : Prop :=
  ∀ ref, state.inFlight ref =
    keyedSum (fun task : Task => task.backend) (fun _ => (1 : ℤ)) state.tasks ref

section Flights

variable {state : LoadState} (occupied : state.Occupied) {position : Nat}
  {task : Task} (present : state.tasks[position]? = some task)
include occupied present

theorem occupied_set {revised : Task} (backend : revised.backend = task.backend) (ref : BackendRef) :
    state.inFlight ref = keyedSum (fun task : Task => task.backend) (fun _ => (1 : ℤ))
      (state.tasks.set position revised) ref := by
  rw [keyedSum_set_same_key (fun task : Task => task.backend) (fun _ => (1 : ℤ)) present backend,
    ← occupied]
  simp

theorem occupied_release (options : Options) {ended : Task}
    (backend : ended.backend = task.backend) :
    (state.release options position ended).Occupied := by
  intro ref
  unfold release
  dsimp only
  rw [keyedSum_eraseIdx (fun task : Task => task.backend) (fun _ => (1 : ℤ)) present, ← occupied,
    backend, State.update_sub]

end Flights

theorem occupied_does {python : Python} {options : Options} {requests : List TraceRequest}
    {state next : LoadState} {event : LoadEvent} (occupied : state.Occupied)
    (does : Does python options requests state event next) : next.Occupied := by
  cases does with
  | dispatch present chosen =>
      intro ref
      change Function.update state.inFlight _ _ ref = _
      rw [State.update_add, dispatch, keyedSum_cons, ← occupied]
      exact add_comm _ _
  | skip => exact occupied
  | move phase present errs => exact occupied_set occupied present rfl
  | count now present => exact occupied_set occupied present rfl
  | finish t0 t1 present errs => exact occupied_release occupied present options rfl
  | cancel present dispatched raised => exact occupied_release occupied present options rfl

/-! ## The rows -/

/-- What is reported for a request is what the trace has under its number. -/
def Reports (requests : List TraceRequest) (reqId : ℕ) (schedS : ℚ) (maxTokens p : ℤ) :
    Prop :=
  ∃ request, requests[reqId]? = some request ∧ schedS = request.offsetMs / 1000 ∧
    maxTokens = request.maxTokens ∧ p = request.promptTokens

/-- Every request that was dispatched has an open task, a row or an exception, or was
cancelled, and only one of them. -/
structure Accounts (requests : List TraceRequest) (state : LoadState) : Prop where
  ids : (state.tasks.map Task.reqId ++ (state.results.map Row.reqId ++
    (state.raised ++ state.cancelled))).Perm (List.range state.disp)
  cancelled : state.cancelled ≠ [] → state.disp = requests.length ∧ state.raised ≠ []
  done : state.done = state.results.length + state.raised.length
  tasks : ∀ task ∈ state.tasks, Reports requests task.reqId task.schedS task.maxTokens task.p
  results : ∀ row ∈ state.results,
    Reports requests row.reqId row.scheduledOffsetS row.requestedMaxTokens row.promptTokens

/-- The number of a task that ends moves to the rows or to the exceptions. -/
theorem finish_ids (python : Python) (options : Options) (state : LoadState) (position : Nat)
    (task : Task) (err : Value) (t0 t1 : ℚ) :
    let next := state.finish python options position { task with err } t0 t1
    (next.results.map Row.reqId ++ (next.raised ++ next.cancelled)).Perm
      (task.reqId :: (state.results.map Row.reqId ++ (state.raised ++ state.cancelled))) := by
  unfold finish
  dsimp only
  cases python.isPrintable err with
  | true =>
      simp only [if_true, List.map_append, List.map_singleton]
      rw [List.append_assoc, List.singleton_append]
      exact List.perm_middle
  | false =>
      simp only [Bool.false_eq_true, if_false]
      rw [List.append_assoc, List.singleton_append, ← List.append_assoc]
      refine List.perm_middle.trans ?_
      rw [List.append_assoc]
      exact .refl _

section Rows

variable {options : Options} {requests : List TraceRequest} {state : LoadState}
  (accounts : state.Accounts requests)
include accounts

theorem accounts_dispatch {request : TraceRequest} (present : requests[state.disp]? = some request)
    (backend : BackendRef) : (state.dispatch options request backend).Accounts requests where
  ids := by
    have next : (state.disp :: List.range state.disp).Perm (List.range (state.disp + 1)) := by
      rw [List.range_succ]
      exact (List.perm_append_singleton _ _).symm
    exact (accounts.ids.cons state.disp).trans next
  cancelled some := by
    have dispatched := (accounts.cancelled some).1
    rw [List.getElem?_eq_none (Nat.le_of_eq dispatched.symm)] at present
    cases present
  done := accounts.done
  tasks task listed := by
    rcases List.mem_cons.mp listed with rfl | earlier
    · exact ⟨request, present, rfl, rfl, rfl⟩
    · exact accounts.tasks task earlier
  results := accounts.results

variable {position : Nat} {task : Task} (present : state.tasks[position]? = some task)
include present

/-- A task that moves on keeps its number. -/
theorem accounts_set {next : LoadState} {revised : Task}
    (tasks : next.tasks = state.tasks.set position revised) (results : next.results = state.results)
    (raised : next.raised = state.raised) (cancelled : next.cancelled = state.cancelled)
    (disp : next.disp = state.disp) (done : next.done = state.done)
    (reqId : revised.reqId = task.reqId) (schedS : revised.schedS = task.schedS)
    (maxTokens : revised.maxTokens = task.maxTokens) (p : revised.p = task.p) :
    next.Accounts requests where
  ids := by
    obtain ⟨inside, rfl⟩ := List.getElem?_eq_some_iff.mp present
    have mapped : position < (state.tasks.map Task.reqId).length := by
      rw [List.length_map]
      exact inside
    have own : (state.tasks.map Task.reqId)[position] = state.tasks[position].reqId :=
      List.getElem_map Task.reqId
    rw [tasks, results, raised, cancelled, disp, List.map_set, reqId, ← own,
      List.set_getElem_self mapped]
    exact accounts.ids
  cancelled := by
    rw [cancelled, disp, raised]
    exact accounts.cancelled
  done := by
    rw [done, results, raised]
    exact accounts.done
  tasks other listed := by
    rw [tasks] at listed
    rcases List.mem_or_eq_of_mem_set listed with earlier | rfl
    · exact accounts.tasks other earlier
    · rw [reqId, schedS, maxTokens, p]
      exact accounts.tasks task (List.mem_of_getElem? present)
  results := by
    rw [results]
    exact accounts.results

/-- The numbers of the open tasks without one that ends. -/
theorem ids_eraseIdx {ended : List ℕ}
    (moved : ended.Perm
      (task.reqId :: (state.results.map Row.reqId ++ (state.raised ++ state.cancelled)))) :
    ((state.tasks.eraseIdx position).map Task.reqId ++ ended).Perm (List.range state.disp) := by
  obtain ⟨inside, rfl⟩ := List.getElem?_eq_some_iff.mp present
  have split : (state.tasks[position] :: state.tasks.eraseIdx position).Perm state.tasks :=
    List.getElem_cons_eraseIdx_perm inside
  refine (moved.append_left _).trans (List.perm_middle.trans ?_)
  rw [← List.cons_append]
  exact ((split.map Task.reqId).append_right _).trans accounts.ids

theorem accounts_finish (python : Python) (err : Value) (t0 t1 : ℚ) :
    (state.finish python options position { task with err } t0 t1).Accounts requests where
  ids := ids_eraseIdx accounts present
    (finish_ids python options state position task err t0 t1)
  cancelled some := by
    obtain ⟨dispatched, raised⟩ := accounts.cancelled some
    refine ⟨dispatched, ?_⟩
    unfold finish
    dsimp only
    split
    · exact raised
    · simp
  done := by
    unfold finish
    dsimp only
    rw [accounts.done]
    cases python.isPrintable err with
    | true => simp [Nat.add_right_comm]
    | false => simp [Nat.add_assoc]
  tasks other listed := accounts.tasks other (List.mem_of_mem_eraseIdx listed)
  results row listed := by
    unfold finish at listed
    dsimp only at listed
    split at listed
    · rcases List.mem_append.mp listed with earlier | last
      · exact accounts.results row earlier
      · rw [List.mem_singleton.mp last]
        exact accounts.tasks task (List.mem_of_getElem? present)
    · exact accounts.results row listed

theorem accounts_cancel (dispatched : state.disp = requests.length) (raised : state.raised ≠ []) :
    (state.cancel options position task).Accounts requests where
  ids := by
    refine ids_eraseIdx accounts present ?_
    unfold cancel
    dsimp only
    rw [← List.append_assoc, ← List.append_assoc]
    refine (List.perm_append_singleton _ _).trans ?_
    rw [List.append_assoc]
    exact .refl _
  cancelled _ := ⟨dispatched, raised⟩
  done := accounts.done
  tasks other listed := accounts.tasks other (List.mem_of_mem_eraseIdx listed)
  results := accounts.results

end Rows

theorem accounts_does {python : Python} {options : Options} {requests : List TraceRequest}
    {state next : LoadState} {event : LoadEvent}
    (accounts : state.Accounts requests) (does : Does python options requests state event next) :
    next.Accounts requests := by
  cases does with
  | dispatch present chosen => exact accounts_dispatch accounts present _
  | skip => exact accounts
  | move phase present errs =>
      exact accounts_set accounts present rfl rfl rfl rfl rfl rfl rfl rfl rfl rfl
  | count now present =>
      exact accounts_set accounts present rfl rfl rfl rfl rfl rfl rfl rfl rfl rfl
  | finish t0 t1 present errs => exact accounts_finish accounts present _ _ t0 t1
  | cancel present dispatched raised => exact accounts_cancel accounts present dispatched raised

/-! ## Errors that are printed -/

/-- An event whose error can be printed. -/
def Prints (python : Python) : LoadEvent → Prop
  | .refused _ status raw => python.encodes (statusError status raw) = true
  | .raised _ text _ => python.encodes text = true
  | .line _ text _ => ∀ err, python.readLine text = .leave err → python.isPrintable err = true
  | .dispatch _ | .start _ _ | .opened _ | .ended _ | .closed _ _ | .cancel _ => True

/-- No task has raised or will raise. -/
structure Printing (python : Python) (state : LoadState) : Prop where
  raised : state.raised = []
  tasks : ∀ task ∈ state.tasks, python.isPrintable task.err = true

theorem isPrintable_string {python : Python} {text : String} (encodes : python.encodes text = true) :
    python.isPrintable (.string text) = true := by
  simp [Python.isPrintable, Value.asStr, encodes]

theorem Errs.isPrintable {python : Python} {event : LoadEvent} {task : Task} {err : Value}
    (errs : Errs python task event err) (prints : Prints python event)
    (own : python.isPrintable task.err = true) : python.isPrintable err = true := by
  cases errs with
  | kept => exact own
  | refused | raised => exact isPrintable_string prints
  | line left => exact prints _ left

theorem printing_does {python : Python} {options : Options} {requests : List TraceRequest}
    {state next : LoadState} {event : LoadEvent} (prints : Prints python event)
    (printing : state.Printing python) (does : Does python options requests state event next) :
    next.Printing python := by
  cases does with
  | dispatch present chosen =>
      refine ⟨printing.raised, ?_⟩
      intro task listed
      rcases List.mem_cons.mp listed with rfl | earlier
      · rfl
      · exact printing.tasks task earlier
  | skip => exact printing
  | move phase present errs =>
      refine ⟨printing.raised, ?_⟩
      intro other listed
      rcases List.mem_or_eq_of_mem_set listed with earlier | rfl
      · exact printing.tasks other earlier
      · exact errs.isPrintable prints (printing.tasks _ (List.mem_of_getElem? present))
  | count now present =>
      have own := printing.tasks _ (List.mem_of_getElem? present)
      refine ⟨printing.raised, ?_⟩
      intro other listed
      rcases List.mem_or_eq_of_mem_set listed with earlier | rfl
      · exact printing.tasks other earlier
      · exact own
  | finish t0 t1 present errs =>
      have printable := errs.isPrintable prints (printing.tasks _ (List.mem_of_getElem? present))
      refine ⟨?_, fun other listed => printing.tasks other (List.mem_of_mem_eraseIdx listed)⟩
      unfold finish
      dsimp only
      rw [if_pos printable]
      exact printing.raised
  | cancel present dispatched raised => exact absurd printing.raised raised

/-! ## Runs -/

/-- What holds at every moment of a run. -/
structure Sound (options : Options) (requests : List TraceRequest) (state : LoadState) : Prop where
  occupied : state.Occupied
  indebted : state.Indebted options
  accounts : state.Accounts requests

theorem sound_initial (options : Options) (requests : List TraceRequest)
    (backends : List BackendRef) : (initial backends).Sound options requests where
  occupied _ := rfl
  indebted := by
    refine ⟨fun _ => rfl, ?_, ?_⟩ <;> simp [initial]
  accounts := by
    refine ⟨.refl _, ?_, rfl, ?_, ?_⟩ <;> simp [initial]

section Runs

variable {python : Python} {options : Options} {requests : List TraceRequest}
  {backends : List BackendRef} {events : List LoadEvent} {state : LoadState}
  (executed : EventRun.run (step python options requests) (initial backends) events = some state)
include executed

theorem sound_run : state.Sound options requests := by
  have preserved (state : LoadState) (event : LoadEvent) (next : LoadState)
      (sound : state.Sound options requests)
      (stepped : state.step python options requests event = some next) :
      next.Sound options requests := by
    have does := does_of_step stepped
    exact ⟨occupied_does sound.occupied does, indebted_does sound.indebted does,
      accounts_does sound.accounts does⟩
  exact EventRun.run_preserves preserved (sound_initial options requests backends) executed

theorem tallied_run (nonneg : ∀ request ∈ requests, 0 ≤ options.oHat request) :
    state.core.Tallied := by
  have preserved (state : LoadState) (event : LoadEvent) (next : LoadState)
      (tallied : state.core.Tallied)
      (stepped : state.step python options requests event = some next) : next.core.Tallied :=
    tallied_does nonneg tallied (does_of_step stepped)
  have started : (initial backends).core.Tallied := State.tallied_initial backends
  exact EventRun.run_preserves preserved started executed

theorem raised_eq_nil (prints : ∀ event ∈ events, Prints python event) : state.raised = [] := by
  have preserved (state : LoadState) (event : LoadEvent) (next : LoadState)
      (prints : Prints python event) (printing : state.Printing python)
      (stepped : state.step python options requests event = some next) : next.Printing python :=
    printing_does prints printing (does_of_step stepped)
  have started : (initial backends).Printing python := ⟨rfl, by simp [initial]⟩
  exact (EventRun.run_preserves_of_guarded preserved (EventRun.guarded_of_forall prints) started
    executed).raised

theorem rows_reqId (completed : state.Completed requests) :
    state.rows.map Row.reqId = List.range requests.length := by
  have accounts := (sound_run executed).accounts
  have uncancelled : state.cancelled = [] := by
    by_contra cancelled
    exact (accounts.cancelled cancelled).2 completed.returned
  have perm : (state.rows.map Row.reqId).Perm (List.range requests.length) := by
    have ids := accounts.ids
    rw [completed.gathered, completed.dispatched, completed.returned, uncancelled, List.map_nil,
      List.nil_append, List.nil_append, List.append_nil] at ids
    exact ((List.mergeSort_perm _ _).map Row.reqId).trans ids
  have sorted : (state.rows.map Row.reqId).Pairwise (· ≤ ·) := by
    rw [List.pairwise_map]
    have ordered := @List.pairwise_mergeSort Row
      (fun first second => decide (first.reqId ≤ second.reqId))
      (fun first second third => by simpa using Nat.le_trans)
      (fun first second => by simpa using Nat.le_total _ _) state.results
    exact ordered.imp of_decide_eq_true
  exact perm.eq_of_pairwise' sorted List.pairwise_le_range

end Runs

/-- Without a request on a backend no task is open there. -/
theorem Occupied.idle {state : LoadState} (occupied : state.Occupied) {ref : BackendRef}
    (none : state.inFlight ref = 0) : ∀ task ∈ state.tasks, task.backend ≠ ref := by
  intro task listed same
  have counted := occupied ref
  rw [none] at counted
  have kept : task ∈ state.tasks.filter fun task => task.backend = ref :=
    List.mem_filter.mpr ⟨listed, decide_eq_true same⟩
  have empty : state.tasks.filter (fun task => task.backend = ref) = [] := by
    apply List.eq_nil_of_length_eq_zero
    simpa [keyedSum] using counted.symm
  rw [empty] at kept
  cases kept

theorem Sound.idle {options : Options} {requests : List TraceRequest} {state : LoadState}
    (sound : state.Sound options requests) {ref : BackendRef} (none : state.inFlight ref = 0) :
    state.w ref = 0 := by
  rw [sound.indebted.w ref]
  apply keyedSum_eq_zero_of_forall
  intro task listed same
  exact absurd same (sound.occupied.idle none task listed)

/-- Nothing is held on a backend without requests. -/
theorem kvProj_eq_zero {state : LoadState} (tallied : state.core.Tallied)
    (occupied : state.Occupied) {ref : BackendRef} (none : state.inFlight ref = 0) :
    state.kvProj ref = 0 := by
  have held : state.kvProj ref = _ := tallied.kvProj ref
  rw [held]
  apply keyedSum_eq_zero_of_forall
  intro request listed same
  obtain ⟨task, open_, rfl⟩ := List.mem_map.mp listed
  exact absurd same (occupied.idle none task open_)

section ThreeRequests

/-- Lines with content, with an error and with an error that is no text. -/
def threeLoads (line : List Char) : Except LoadsError Value :=
  match line with
  | ['c'] => .ok (.object [("choices", .array
      [.object [("delta", .object [("content", .string "hi")])]])])
  | ['e'] => .ok (.object [("error", .object [("message", .string "kv cache exhausted")])])
  | ['n'] => .ok (.object [("error", .object [("message", .number (.posInt 5))])])
  | _ => .error .jsonDecodeError

def threePython : Python := ⟨threeLoads, fun _ => "", fun _ => "", fun _ => true⟩

def threeOptions : Options :=
  ⟨.leastConn, .maxTokens, ⟨32, 8192, 11 / 20, 10, 19 / 20, .promptPlusOutput⟩⟩

def threeRequests : List TraceRequest :=
  [⟨0, "hi there".toList, 1⟩, ⟨250, "hi".toList, 50⟩, ⟨500, "a b c".toList, 50⟩]

/-- A connection fails, a response runs past its limit, and one ends with an error. -/
def threeEvents : List LoadEvent :=
  [.dispatch 0, .start 0 1, .dispatch 1, .opened 1, .start 0 2, .line 1 "data: c".toList 2,
    .raised 0 "All connection attempts failed" 3, .dispatch 1, .line 1 "data: c".toList 3,
    .start 0 4, .opened 0, .line 0 "data: e".toList 5, .ended 1, .closed 0 6, .closed 0 7]

/-- The printing of the second request's error raises while the others are open. -/
def raisingEvents : List LoadEvent :=
  [.dispatch 0, .start 0 1, .dispatch 1, .opened 1, .start 0 2, .opened 0, .dispatch 1,
    .start 0 3, .line 1 "data: n".toList 4, .closed 1 5, .cancel 1, .cancel 0]

end ThreeRequests

end LoadState

end Loadgen

end KeelRouter
