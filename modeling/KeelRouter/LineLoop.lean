import KeelRouter.BodyVerdict

/-!
# The line loop of a response body

A body appends the text of a frame to its buffer and takes complete lines off
the buffer's front, one at a time.  Over the frames of a stream this is a fold
over the lines of the text received so far, and the buffer holds what follows
the last newline.
-/

namespace KeelRouter

open SerdeJson (Codec)
open LineBuffer (IsLine splitLines)
open Utf8Relay (encode fromUtf8 relay)

namespace BodyState

variable (codec : Codec) (now : Instant) (state : BodyState)

theorem lineBuf_handleLine (line : List Char) :
    (state.handleLine codec now line).body.lineBuf = state.body.lineBuf :=
  lineBuf_applyFrame now state _

/-- The loop of `poll_frame`. -/
def drainLines (state : BodyState) : BodyState :=
  match found : state.body.lineBuf.findIdx? (fun char => char = '\n') with
  | none => state
  | some pos =>
      let line := state.body.lineBuf.take (pos + 1)
      let drained := state.setLineBuf (state.body.lineBuf.drop (pos + 1))
      drainLines (drained.handleLine codec now line)
termination_by state.body.lineBuf.length
decreasing_by
  obtain ⟨inside, -⟩ := List.findIdx?_eq_some_iff_getElem.mp found
  rw [lineBuf_handleLine]
  change (state.body.lineBuf.drop (pos + 1)).length < _
  rw [List.length_drop]
  omega

/-- `CountingSseBody::poll_frame` with its loop. -/
def pollLoop (polled : Polled) : BodyState × Polled :=
  match polled with
  | .frame (.data data) =>
      match fromUtf8 data with
      | none => (state, polled)
      | some text => (drainLines codec now (state.setLineBuf (state.body.lineBuf ++ text)), polled)
  | .frame .trailers | .pending | .error | .finished => (state, polled)

theorem setLineBuf_handleLine (line rest : List Char) :
    (state.handleLine codec now line).setLineBuf rest =
      (state.setLineBuf rest).handleLine codec now line :=
  setLineBuf_applyFrame now state rest _

/-- The first line of the buffer can be taken off and handled first. -/
theorem feed_nil_of_line {line rest : List Char} (isLine : IsLine '\n' line)
    (buffer : state.body.lineBuf = line ++ rest) :
    state.feed codec now [] =
      ((state.setLineBuf rest).handleLine codec now line).feed codec now [] := by
  have split := LineBuffer.splitLines_line_append isLine rest
  have kept : ((state.setLineBuf rest).handleLine codec now line).body.lineBuf = rest :=
    lineBuf_handleLine codec now (state.setLineBuf rest) line
  unfold feed
  rw [kept, buffer, List.append_nil, List.append_nil, split]
  dsimp only
  rw [List.foldl_cons, setLineBuf_handleLine]
  rfl

/-- A text is a line up to its first newline. -/
theorem isLine_take {text : List Char} {pos : Nat}
    (found : text.findIdx? (fun char => char = '\n') = some pos) :
    IsLine '\n' (text.take (pos + 1)) := by
  obtain ⟨inside, isBreak, earlier⟩ := List.findIdx?_eq_some_iff_getElem.mp found
  have newlineAt : text[pos] = '\n' := by simpa using isBreak
  refine ⟨text.take pos, ?_, ?_⟩
  · intro member
    obtain ⟨index, bound, same⟩ := List.mem_iff_getElem.mp member
    rw [List.length_take] at bound
    rw [List.getElem_take] at same
    have other := earlier index (by omega)
    simp [same] at other
  · rw [List.take_succ_eq_append_getElem inside, newlineAt]

/-- The loop handles the lines of the buffer in order, each once. -/
theorem drainLines_eq : drainLines codec now state = state.feed codec now [] := by
  induction length : state.body.lineBuf.length using Nat.strong_induction_on
    generalizing state with
  | _ size ih =>
      rw [drainLines.eq_def]
      split
      · rename_i missing
        have unbroken : '\n' ∉ state.body.lineBuf := by
          intro member
          have none := List.findIdx?_eq_none_iff.mp missing '\n' member
          simp at none
        exact (state.feed_nil codec now unbroken).symm
      · rename_i pos found
        have isLine := isLine_take found
        obtain ⟨inside, -⟩ := List.findIdx?_eq_some_iff_getElem.mp found
        have kept : ((state.setLineBuf (state.body.lineBuf.drop (pos + 1))).handleLine codec now
            (state.body.lineBuf.take (pos + 1))).body.lineBuf.length < size := by
          rw [lineBuf_handleLine, ← length]
          change (state.body.lineBuf.drop (pos + 1)).length < _
          rw [List.length_drop]
          omega
        rw [feed_nil_of_line codec now state isLine (List.take_append_drop _ _).symm]
        exact ih _ kept _ rfl

theorem pollLoop_eq (polled : Polled) :
    state.pollLoop codec now polled = state.pollFrame codec now polled := by
  cases polled with
  | frame frame =>
      cases frame with
      | data bytes =>
          unfold pollLoop pollFrame pollData
          dsimp only
          cases fromUtf8 bytes with
          | none => rfl
          | some text =>
              dsimp only
              rw [drainLines_eq]
              congr 1
              unfold feed
              rw [List.append_nil]
              rfl
      | trailers => rfl
  | pending | error | finished => rfl

/-- The polls of a stream, each with the loop of `poll_frame`. -/
def loopAll (polls : List TimedPoll) : BodyState :=
  polls.foldl (fun state poll => (state.pollLoop codec poll.now poll.polled).1) state

theorem loopAll_eq (polls : List TimedPoll) :
    state.loopAll codec polls = state.pollAll codec polls := by
  unfold loopAll pollAll
  congr
  funext state poll
  rw [pollLoop_eq]

/-- The bytes of the data frames among some polls. -/
def frameBytes (polls : List TimedPoll) : List (List UInt8) :=
  (dataFrames polls).map TimedFrame.data

/-! ## The reading of a stream -/

/-- What a body counts and remembers of the lines it has handled. -/
structure StreamReading where
  contentTokens : UInt32
  sawErrorFrame : Bool
  sawDoneOrError : Bool
  completions : List UInt32
deriving DecidableEq

namespace StreamReading

def start : StreamReading where
  contentTokens := 0
  sawErrorFrame := false
  sawDoneOrError := false
  completions := []

/-- The action of one line. -/
def line (reading : StreamReading) (text : List Char) : StreamReading :=
  match lineFrame codec text with
  | some (.content _) => { reading with contentTokens := reading.contentTokens + 1 }
  | some (.usage _ completionTokens) =>
      if 0 < completionTokens then
        { reading with completions := reading.completions ++ [completionTokens] }
      else reading
  | some (.error _) => { reading with sawErrorFrame := true, sawDoneOrError := true }
  | some .done => { reading with sawDoneOrError := true }
  | some .roleHeader | some .emptyContent | none => reading

end StreamReading

/-- The counts that were sent to the route estimator. -/
def completions (effects : List Effect) : List UInt32 :=
  (effects.filterMap Effect.observation).map Prod.snd

def reading : StreamReading where
  contentTokens := state.body.contentTokens
  sawErrorFrame := state.body.sawErrorFrame
  sawDoneOrError := state.body.sawDoneOrError
  completions := completions state.effects

theorem completions_append (earlier later : List Effect) :
    completions (earlier ++ later) = completions earlier ++ completions later := by
  simp [completions]

theorem reading_handleLine (text : List Char) :
    (state.handleLine codec now text).reading = state.reading.line codec text := by
  unfold handleLine StreamReading.line
  cases lineFrame codec text with
  | none => rfl
  | some frame =>
      cases frame with
      | roleHeader | content | emptyContent | error | done => rfl
      | usage promptTokens completionTokens =>
          have reported : (state.applyFrame now (some (.usage promptTokens
              completionTokens))).reading = { state.reading with
                completions := state.reading.completions ++
                  if 0 < completionTokens then [completionTokens] else [] } := by
            simp only [applyFrame, reportUsage, reading, completions_append]
            split <;> simp [completions, Effect.observation]
          rw [reported]
          dsimp only
          split
          · rfl
          · rw [List.append_nil]

theorem reading_handleLines (lines : List (List Char)) :
    (lines.foldl (handleLine codec now) state).reading =
      lines.foldl (StreamReading.line codec) state.reading := by
  induction lines generalizing state with
  | nil => rfl
  | cons line lines ih => rw [List.foldl_cons, List.foldl_cons, ih, reading_handleLine]

theorem reading_feed (text : List Char) :
    (state.feed codec now text).reading =
      (splitLines '\n' (state.body.lineBuf ++ text)).1.foldl (StreamReading.line codec)
        state.reading :=
  reading_handleLines codec now _ _

/-- A fresh body reads the lines of the text it has been relayed, and keeps
what follows the last one. -/
theorem loopAll_fresh (p : BodyParams) (heap : Heap) (polls : List TimedPoll) :
    ((fresh p heap).loopAll codec polls).reading =
        (splitLines '\n' (relay (frameBytes polls))).1.foldl
          (StreamReading.line codec) .start ∧
      ((fresh p heap).loopAll codec polls).body.lineBuf =
        (splitLines '\n' (relay (frameBytes polls))).2 := by
  have delivered := (fresh p heap).untimed_deliver codec (dataFrames polls)
    List.not_mem_nil
  rw [← pollAll_eq_deliver, ← loopAll_eq] at delivered
  have sameReading := congrArg reading delivered
  have sameBuffer := congrArg (fun state => state.body.lineBuf) delivered
  exact ⟨sameReading.trans (reading_feed codec 0 _ _),
    sameBuffer.trans (lineBuf_feed codec 0 _ _)⟩

/-- The data frames decoded so far are cut into lines and a rest: the body has
done the action of each line once, in order, and its buffer is the rest. -/
structure ReadsLines (polls : List TimedPoll) (polled : BodyState) (lines : List (List Char))
    (rest : List Char) : Prop where
  areLines : ∀ line ∈ lines, IsLine '\n' line
  unfinished : '\n' ∉ rest
  whole : encode (lines.flatten ++ rest) = (frameBytes polls).flatten
  reading : polled.reading = lines.foldl (StreamReading.line codec) .start
  lineBuf : polled.body.lineBuf = rest

/-- Over data frames that are valid UTF-8, however they cut the lines and
whatever comes between them, the body folds the action of a line over the
complete lines. -/
theorem loopAll_readsLines (p : BodyParams) (heap : Heap) (polls : List TimedPoll)
    (valid : ∀ data ∈ frameBytes polls, (fromUtf8 data).isSome) :
    ∃ lines rest, ReadsLines codec polls ((fresh p heap).loopAll codec polls) lines rest := by
  obtain ⟨areLines, unfinished, whole⟩ :=
    LineBuffer.splitLines_spec '\n' (relay (frameBytes polls))
  obtain ⟨sameReading, sameBuffer⟩ := loopAll_fresh codec p heap polls
  refine ⟨_, _, areLines, unfinished, ?_, sameReading, sameBuffer⟩
  rw [whole]
  exact Utf8Relay.encode_relay valid

/-- The line with its accented character, cut before that character. -/
def cutPolls : List TimedPoll :=
  [⟨0, .frame (.data (encode accentedStart))⟩, ⟨1, .pending⟩,
    ⟨2, .frame (.data (encode ('é' :: accentedEnd)))⟩, ⟨3, .frame .trailers⟩]

theorem loopAll_readsLines_cut :
    ∃ lines rest, ReadsLines accentedCodec cutPolls
      ((fresh (responseParams 200) dispatchedBackend).loopAll accentedCodec cutPolls)
      lines rest := by
  refine loopAll_readsLines accentedCodec (responseParams 200) dispatchedBackend cutPolls ?_
  have frames : frameBytes cutPolls = [encode accentedStart, encode ('é' :: accentedEnd)] := rfl
  rw [frames]
  intro data member
  rcases List.mem_pair.mp member with rfl | rfl <;> rw [Utf8Relay.fromUtf8_encode] <;> rfl

end BodyState

end KeelRouter
