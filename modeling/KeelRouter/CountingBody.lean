import KeelRouter.CostLease
import KeelRouter.LengthEstimator
import KeelRouter.LineBuffer
import KeelRouter.Sse
import KeelRouter.Utf8Relay

/-!
# The counting response body

The response body relays the frames of the upstream body.  On the way it
collects the text of the data frames that are valid UTF-8, line by line, counts
content tokens on the request's lease, reports usage, and remembers error and
end markers.  When it is dropped it records the result of the request and gives
the lease back.

Calls into the metrics and the route estimator are kept as a list of effects.
-/

namespace KeelRouter

open SerdeJson (Codec)

abbrev StatusCode := UInt16

def StatusCode.isSuccess (status : StatusCode) : Bool :=
  200 ≤ status && status < 300

/-- A call into the metrics or the route estimator. -/
inductive Effect where
  | recordPromptTokenRatio (estimated reported : UInt32)
  | recordOutputLengthRatio (estimated actual : UInt32)
  | observeRoute (route : RouteKey) (completionTokens : UInt32)
  | recordBackendError (backendKey kind : String)
  | recordRequestResult (ok : Bool)
  | countSaturatedDispatch
deriving DecidableEq

structure CountingSseBody where
  lease : CostLease
  backendKey : String
  lineBuf : List Char
  contentTokens : UInt32
  estimatedOutputTokens : UInt32
  dispatchedAt : Instant
  firstTokenAt : Option Instant
  sawDoneOrError : Bool
  upstreamStatus : StatusCode
  sawErrorFrame : Bool
  route : RouteKey
  estimatedPromptTokens : UInt32
deriving DecidableEq

structure BodyParams where
  lease : CostLease
  backendKey : String
  estimatedOutputTokens : UInt32
  dispatchedAt : Instant
  upstreamStatus : StatusCode
  route : RouteKey
  estimatedPromptTokens : UInt32

/-- `CountingSseBody::new` -/
def CountingSseBody.new (p : BodyParams) : CountingSseBody where
  lease := p.lease
  backendKey := p.backendKey
  lineBuf := []
  contentTokens := 0
  estimatedOutputTokens := p.estimatedOutputTokens
  dispatchedAt := p.dispatchedAt
  firstTokenAt := none
  sawDoneOrError := false
  upstreamStatus := p.upstreamStatus
  sawErrorFrame := false
  route := p.route
  estimatedPromptTokens := p.estimatedPromptTokens

structure BodyState where
  body : CountingSseBody
  heap : Heap
  effects : List Effect

inductive BodyFrame where
  | data (bytes : List UInt8)
  | trailers
deriving DecidableEq

inductive Polled where
  | pending
  | frame (frame : BodyFrame)
  | error
  | finished
deriving DecidableEq

namespace BodyState

def fresh (p : BodyParams) (heap : Heap) : BodyState where
  body := .new p
  heap := heap
  effects := []

def countContent (now : Instant) (state : BodyState) : BodyState :=
  let observed := state.body.lease.observeTokens 1 state.heap
  { state with
    body := { state.body with
      contentTokens := state.body.contentTokens + 1
      lease := observed.1
      firstTokenAt := some (state.body.firstTokenAt.getD now) }
    heap := observed.2 }

def reportUsage (state : BodyState) (promptTokens completionTokens : UInt32) : BodyState :=
  let ratios := [
    .recordPromptTokenRatio state.body.estimatedPromptTokens promptTokens,
    .recordOutputLengthRatio state.body.estimatedOutputTokens completionTokens]
  let observation :=
    if 0 < completionTokens then [.observeRoute state.body.route completionTokens] else []
  { state with effects := state.effects ++ ratios ++ observation }

/-- What one classified line does to the body. -/
def applyFrame (now : Instant) (state : BodyState) : Option Frame → BodyState
  | some (.content _) => state.countContent now
  | some (.usage promptTokens completionTokens) =>
      state.reportUsage promptTokens completionTokens
  | some (.error _) =>
      { state with body := { state.body with sawErrorFrame := true, sawDoneOrError := true } }
  | some .done => { state with body := { state.body with sawDoneOrError := true } }
  | some .roleHeader | some .emptyContent | none => state

def handleLine (codec : Codec) (now : Instant) (state : BodyState) (line : List Char) :
    BodyState :=
  state.applyFrame now (lineFrame codec line)

def setLineBuf (state : BodyState) (lineBuf : List Char) : BodyState :=
  { state with body := { state.body with lineBuf } }

/-- Push text into the line buffer and handle the lines it completes.  The loop
takes lines off the buffer's front, and handling one never touches the buffer. -/
def feed (codec : Codec) (now : Instant) (state : BodyState) (text : List Char) : BodyState :=
  let split := LineBuffer.splitLines '\n' (state.body.lineBuf ++ text)
  split.1.foldl (handleLine codec now) (state.setLineBuf split.2)

def pollData (codec : Codec) (now : Instant) (state : BodyState) (data : List UInt8) :
    BodyState :=
  match Utf8Relay.fromUtf8 data with
  | none => state
  | some text => state.feed codec now text

/-- `CountingSseBody::poll_frame`, which passes on what the inner body gave. -/
def pollFrame (codec : Codec) (now : Instant) (state : BodyState) (polled : Polled) :
    BodyState × Polled :=
  match polled with
  | .frame (.data bytes) => (state.pollData codec now bytes, polled)
  | .frame .trailers | .pending | .error | .finished => (state, polled)

def failed (state : BodyState) : Bool :=
  state.body.sawErrorFrame || !state.body.upstreamStatus.isSuccess

/-- `PinnedDrop for CountingSseBody`, after which the lease is dropped. -/
def drop (state : BodyState) : Heap × List Effect :=
  let kind := if state.body.sawErrorFrame then "in_band_error" else "http_status"
  let errors :=
    if state.failed then [.recordBackendError state.body.backendKey kind] else []
  (state.body.lease.drop state.heap,
    state.effects ++ errors ++ [.recordRequestResult (!state.failed)])

/-! ## Feeding text in parts -/

section Feeding

variable (codec : Codec) (now : Instant) (state : BodyState)

@[simp]
theorem lineBuf_applyFrame (frame : Option Frame) :
    (state.applyFrame now frame).body.lineBuf = state.body.lineBuf := by
  rcases frame with _ | (_ | _ | _ | _ | _ | _) <;> rfl

@[simp]
theorem lineBuf_handleLines (lines : List (List Char)) :
    (lines.foldl (handleLine codec now) state).body.lineBuf = state.body.lineBuf := by
  induction lines generalizing state with
  | nil => rfl
  | cons line lines ih =>
      rw [List.foldl_cons, ih]
      exact lineBuf_applyFrame now state _

theorem setLineBuf_applyFrame (lineBuf : List Char) (frame : Option Frame) :
    (state.applyFrame now frame).setLineBuf lineBuf =
      (state.setLineBuf lineBuf).applyFrame now frame := by
  rcases frame with _ | (_ | _ | _ | _ | _ | _) <;> rfl

theorem setLineBuf_handleLines (lineBuf : List Char) (lines : List (List Char)) :
    (lines.foldl (handleLine codec now) state).setLineBuf lineBuf =
      lines.foldl (handleLine codec now) (state.setLineBuf lineBuf) := by
  induction lines generalizing state with
  | nil => rfl
  | cons line lines ih =>
      rw [List.foldl_cons, List.foldl_cons, ih, handleLine, setLineBuf_applyFrame]
      rfl

/-- Feeding a text in two parts is feeding it at once. -/
theorem feed_append (first second : List Char) :
    (state.feed codec now first).feed codec now second =
      state.feed codec now (first ++ second) := by
  have split := LineBuffer.splitLines_append '\n' (state.body.lineBuf ++ first) second
  rw [List.append_assoc] at split
  unfold feed
  simp only [lineBuf_handleLines, setLineBuf_handleLines, split, List.foldl_append]
  rfl

theorem feed_nil (unbroken : '\n' ∉ state.body.lineBuf) : state.feed codec now [] = state := by
  unfold feed
  rw [List.append_nil, LineBuffer.splitLines_of_not_mem '\n' unbroken]
  rfl

theorem lineBuf_feed (text : List Char) :
    (state.feed codec now text).body.lineBuf =
      (LineBuffer.splitLines '\n' (state.body.lineBuf ++ text)).2 := by
  unfold feed
  rw [lineBuf_handleLines]
  rfl

theorem not_mem_lineBuf_feed (text : List Char) :
    '\n' ∉ (state.feed codec now text).body.lineBuf := by
  rw [lineBuf_feed]
  exact (LineBuffer.splitLines_spec '\n' _).2.1

/-- A frame that is a line of its own is handled as that line. -/
theorem pollFrame_line {line : List Char} (isLine : LineBuffer.IsLine '\n' line)
    (empty : state.body.lineBuf = []) :
    (state.pollFrame codec now (.frame (.data (Utf8Relay.encode line)))).1 =
      state.handleLine codec now line := by
  have split : LineBuffer.splitLines '\n' (state.body.lineBuf ++ line) = ([line], []) := by
    have single := LineBuffer.splitLines_line_append isLine []
    rw [List.append_nil] at single
    rw [empty, List.nil_append, single, LineBuffer.splitLines_nil]
  have unchanged : state.setLineBuf [] = state := by
    unfold setLineBuf
    rw [← empty]
  change state.pollData codec now (Utf8Relay.encode line) = _
  unfold pollData
  rw [Utf8Relay.fromUtf8_encode]
  dsimp only
  rw [feed, split, unchanged]
  rfl

end Feeding

end BodyState

end KeelRouter
