import KeelRouter.BaselineStrategies
import KeelRouter.CyclicWindow
import KeelRouter.EntryTable
import KeelRouter.EventRun

/-!
# Fairness of round robin

Any number of threads pick from one healthy list.  A pick takes its ticket by a
single `fetch_add`, and everything after that depends on the ticket alone, so
the picks in the order of their tickets go around the list whatever the order
in which they return.
-/

namespace KeelRouter

namespace RoundRobin

/-- The part of `RoundRobin::pick` after the `fetch_add`. -/
def pickTicket (ticket : UInt64) (heap : Heap) (snap : Snapshot) (req : RequestFeatures)
    (trace : Option DecisionTrace) : Outcome Picked := do
  let i := ticket.toNat % snap.healthy.length
  let id ← Outcome.index snap.healthy i
  recordPick trace name heap snap req (some id)

/-- A pick takes the next ticket and goes on with it. -/
theorem pick_eq_pickTicket {snap : Snapshot} (nonempty : snap.healthy ≠ []) (next : UInt64)
    (heap : Heap) (req : RequestFeatures) (trace : Option DecisionTrace) :
    pick next heap snap req trace =
      (pickTicket next heap snap req trace).map fun picked => (picked, next + 1) := by
  unfold pick pickTicket
  rw [if_neg (by simpa using nonempty)]
  dsimp only
  cases Outcome.index snap.healthy (next.toNat % snap.healthy.length) with
  | error panic => rfl
  | ok id =>
      change (recordPick trace name heap snap req (some id) >>= _) = Except.map _
        (recordPick trace name heap snap req (some id))
      cases recordPick trace name heap snap req (some id) <;> rfl

theorem pickTicket_chosen {ticket : UInt64} {heap : Heap} {snap : Snapshot}
    {req : RequestFeatures} {trace : Option DecisionTrace} {picked : Picked}
    (returned : pickTicket ticket heap snap req trace = .ok picked) :
    picked.chosen = snap.healthy[ticket.toNat % snap.healthy.length]? := by
  obtain ⟨id, indexed, recorded⟩ := Outcome.bind_eq_ok.mp returned
  rw [recordPick_chosen recorded]
  unfold Outcome.index at indexed
  cases found : snap.healthy[ticket.toNat % snap.healthy.length]? with
  | none =>
      rw [found] at indexed
      cases indexed
  | some listed =>
      rw [found] at indexed
      obtain rfl := Except.ok.inj indexed
      rfl

end RoundRobin

/-- A pick that has its ticket, with the snapshot it was given and what it
returned, once it has. -/
structure PickCall where
  snap : Snapshot
  ticket : UInt64
  returned : Option (Outcome Picked)

def PickCall.chosen (call : PickCall) : Option BackendId :=
  match call.returned with
  | some (.ok picked) => picked.chosen
  | _ => none

/-- The shared counter, and all picks in the order of their `fetch_add`s. -/
structure PickRun where
  next : UInt64
  calls : List PickCall

inductive PickEvent where
  /-- Some thread picks from the snapshot and takes its ticket.  With nothing
  healthy it would return without one. -/
  | fetchAdd (snap : Snapshot)
  /-- A pick with a ticket goes on to its end. -/
  | finish (position : Nat) (heap : Heap) (req : RequestFeatures) (trace : Option DecisionTrace)

namespace PickRun

/-- `RoundRobin::new` -/
def initial : PickRun := ⟨0, []⟩

def step (healthy : List BackendId) (state : PickRun) : PickEvent → Option PickRun
  | .fetchAdd snap =>
      if snap.healthy = healthy ∧ healthy ≠ [] then
        some ⟨state.next + 1, state.calls ++ [⟨snap, state.next, none⟩]⟩
      else none
  | .finish position heap req trace =>
      match state.calls[position]? with
      | none => none
      | some call =>
          if call.returned.isSome then none
          else
            let returned := RoundRobin.pickTicket call.ticket heap call.snap req trace
            some { state with
              calls := state.calls.set position { call with returned := some returned } }

/-- The picks at consecutive tickets, with the backends they chose. -/
def HasWindow (state : PickRun) (start : Nat) (chosen : List BackendId) : Prop :=
  ((state.calls.drop start).take chosen.length).map PickCall.chosen = chosen.map some

/-- In every window two backends are chosen equally often, up to one pick, and
over whole laps each is chosen once a lap. -/
structure Fair (healthy : List BackendId) (state : PickRun) : Prop where
  balanced : ∀ start chosen, state.HasWindow start chosen →
    ∀ b ∈ healthy, ∀ c ∈ healthy, chosen.count b ≤ chosen.count c + 1
  laps : ∀ start chosen laps, state.HasWindow start chosen →
    chosen.length = healthy.length * laps → ∀ b ∈ healthy, chosen.count b = laps

/-! ## The invariant -/

/-- The pick at a position took that position as its ticket, and chose the
backend which its ticket points at. -/
structure CallAt (healthy : List BackendId) (position : Nat) (call : PickCall) : Prop where
  snap : call.snap.healthy = healthy
  ticket : call.ticket = UInt64.ofNat position
  chosen : ∀ id, call.chosen = some id →
    healthy[call.ticket.toNat % healthy.length]? = some id

structure InOrder (healthy : List BackendId) (state : PickRun) : Prop where
  next : state.next = UInt64.ofNat state.calls.length
  calls : EachAt (CallAt healthy) state.calls

variable {healthy : List BackendId} {state next : PickRun}

theorem step_fetchAdd {snap : Snapshot}
    (stepped : step healthy state (.fetchAdd snap) = some next) :
    snap.healthy = healthy ∧
      next = ⟨state.next + 1, state.calls ++ [⟨snap, state.next, none⟩]⟩ := by
  dsimp only [step] at stepped
  split at stepped
  · rename_i same
    exact ⟨same.1, (Option.some.inj stepped).symm⟩
  · cases stepped

theorem step_finish {position : Nat} {heap : Heap} {req : RequestFeatures}
    {trace : Option DecisionTrace}
    (stepped : step healthy state (.finish position heap req trace) = some next) :
    ∃ call, state.calls[position]? = some call ∧
      next = { state with
        calls := state.calls.set position
          { call with
            returned := some (RoundRobin.pickTicket call.ticket heap call.snap req trace) } } := by
  dsimp only [step] at stepped
  split at stepped
  · cases stepped
  · rename_i call present
    split at stepped
    · cases stepped
    · exact ⟨call, present, (Option.some.inj stepped).symm⟩

theorem InOrder.initial : PickRun.initial.InOrder healthy := ⟨rfl, .nil⟩

theorem InOrder.step_preserves {event : PickEvent} (inOrder : state.InOrder healthy)
    (stepped : step healthy state event = some next) : next.InOrder healthy := by
  cases event with
  | fetchAdd snap =>
      obtain ⟨same, rfl⟩ := step_fetchAdd stepped
      constructor
      · rw [List.length_append, List.length_singleton, UInt64.ofNat_add, ← inOrder.next]
        rfl
      · exact inOrder.calls.append_singleton
          ⟨same, inOrder.next, fun id chosen => by cases chosen⟩
  | finish position heap req trace =>
      obtain ⟨call, present, rfl⟩ := step_finish stepped
      have own := inOrder.calls position call present
      constructor
      · rw [List.length_set]
        exact inOrder.next
      · refine inOrder.calls.set ⟨own.snap, own.ticket, ?_⟩
        intro id chosen
        unfold PickCall.chosen at chosen
        dsimp only at chosen ⊢
        split at chosen
        · rename_i picked returned
          have pointed := RoundRobin.pickTicket_chosen (Option.some.inj returned)
          rw [own.snap] at pointed
          rw [← pointed, chosen]
        · cases chosen

theorem inOrder_run {events : List PickEvent}
    (executed : EventRun.run (step healthy) initial events = some state) :
    state.InOrder healthy :=
  EventRun.run_preserves (fun _ _ _ => InOrder.step_preserves) .initial executed

/-- Before the counter wraps around, the backends of a window are read off the
healthy list in a cycle. -/
theorem InOrder.window_eq (inOrder : state.InOrder healthy) (fewer : state.calls.length < 2 ^ 64)
    {start : Nat} {chosen : List BackendId} (window : state.HasWindow start chosen) :
    chosen = cyclicWindow healthy start chosen.length := by
  apply eq_cyclicWindow
  intro place id listed
  have within : place < chosen.length := (List.getElem?_eq_some_iff.mp listed).1
  have read : (((state.calls.drop start).take chosen.length).map PickCall.chosen)[place]? =
      (chosen.map some)[place]? := by rw [window]
  rw [List.getElem?_map, List.getElem?_map, listed, List.getElem?_take_of_lt within,
    List.getElem?_drop] at read
  obtain ⟨call, present, chose⟩ := Option.map_eq_some_iff.mp read
  have own := inOrder.calls (start + place) call present
  have numbered : start + place < 2 ^ 64 :=
    (List.getElem?_eq_some_iff.mp present).1.trans fewer
  have pointed := own.chosen id chose
  rwa [own.ticket, UInt64.toNat_ofNat_of_lt' numbered] at pointed

/-- Three picks from two backends, of which the second returns first. -/
def threePicks : List PickEvent :=
  let snap : Snapshot := ⟨0, [0, 1], [⟨0⟩, ⟨1⟩], []⟩
  let heap : Heap := fun ref => Backend.fresh ⟨UInt16.ofNat ref⟩ "http://a" "m" 1 ⟨8192, 10⟩
  let req : RequestFeatures := ⟨"m", 1, true, 128, none, none, true, 0⟩
  [.fetchAdd snap, .fetchAdd snap, .finish 1 heap req none, .fetchAdd snap,
    .finish 0 heap req none, .finish 2 heap req none]

end PickRun

end KeelRouter
