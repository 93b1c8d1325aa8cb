import KeelRouter.BodyChunking

/-!
# The verdict on a response

A response body yields data frames, trailers, a transport error and its end, in
any order.  Its drop records a result, and it takes the response for failed if
the status is no success or a completed line was an error frame.

A transport error leaves no trace in the body, and a last line without a
newline is never looked at.
-/

namespace KeelRouter

open SerdeJson (Codec Value)
open LineBuffer (splitLines)
open Utf8Relay (encode fromUtf8 relay)

structure TimedPoll where
  now : Instant
  polled : Polled
deriving DecidableEq

def TimedPoll.dataFrame (poll : TimedPoll) : Option TimedFrame :=
  match poll.polled with
  | .frame (.data bytes) => some ⟨poll.now, bytes⟩
  | _ => none

def dataFrames (polls : List TimedPoll) : List TimedFrame :=
  polls.filterMap TimedPoll.dataFrame

def Effect.result : Effect → Option Bool
  | .recordRequestResult ok => some ok
  | _ => none

/-- A line that the body takes for an error frame. -/
def FlagsError (codec : Codec) (line : List Char) : Prop :=
  ∃ message, lineFrame codec line = some (.error message)

/-- A line that carries a JSON object whose `error` is not null. -/
def ErrorLine (codec : Codec) (line : List Char) : Prop :=
  ∃ v err, parseLine codec (payload line) = some (.json v) ∧ v.get "error" = some err ∧
    err ≠ .null

theorem flagsError_iff {codec : Codec} {line : List Char} :
    FlagsError codec line ↔
      ∃ v, parseLine codec (payload line) = some (.json v) ∧ (v.get "error").isSome := by
  unfold FlagsError lineFrame
  cases parsed : parseLine codec (payload line) with
  | none => simp
  | some content =>
      cases content with
      | done => simp [classify]
      | json v => simpa [classify] using classifyJson_eq_error_iff v

theorem ErrorLine.flagsError {codec : Codec} {line : List Char}
    (error : ErrorLine codec line) : FlagsError codec line := by
  obtain ⟨v, err, parsed, present, -⟩ := error
  exact flagsError_iff.mpr ⟨v, parsed, by rw [present]; rfl⟩

namespace BodyState

def pollAll (codec : Codec) (state : BodyState) (polls : List TimedPoll) : BodyState :=
  polls.foldl (fun state poll => (state.pollFrame codec poll.now poll.polled).1) state

/-- The results that a body has recorded once it is dropped. -/
def recorded (state : BodyState) : List Bool :=
  state.drop.2.filterMap Effect.result

variable {codec : Codec} {now : Instant} {state : BodyState}

/-- Only data frames change the body. -/
theorem pollAll_eq_deliver (codec : Codec) (state : BodyState) (polls : List TimedPoll) :
    state.pollAll codec polls = state.deliver codec (dataFrames polls) := by
  induction polls generalizing state with
  | nil => rfl
  | cons poll polls ih =>
      obtain ⟨now, polled⟩ := poll
      cases polled with
      | frame frame => cases frame <;> exact ih _
      | pending | error | finished => exact ih state

/-! ## Results -/

theorem results_applyFrame (frame : Option Frame) :
    (state.applyFrame now frame).effects.filterMap Effect.result =
      state.effects.filterMap Effect.result := by
  rcases frame with _ | (_ | _ | _ | ⟨promptTokens, completionTokens⟩ | _ | _)
  · rfl
  · rfl
  · rfl
  · rfl
  · by_cases tokens : 0 < completionTokens <;>
      simp [applyFrame, reportUsage, tokens, Effect.result]
  · rfl
  · rfl

theorem results_feed (text : List Char) :
    (state.feed codec now text).effects.filterMap Effect.result =
      state.effects.filterMap Effect.result := by
  have handled (lines : List (List Char)) (state : BodyState) :
      (lines.foldl (handleLine codec now) state).effects.filterMap Effect.result =
        state.effects.filterMap Effect.result := by
    induction lines generalizing state with
    | nil => rfl
    | cons line lines ih =>
        rw [List.foldl_cons, ih]
        exact results_applyFrame _
  exact handled _ _

theorem results_pollFrame (polled : Polled) :
    (state.pollFrame codec now polled).1.effects.filterMap Effect.result =
      state.effects.filterMap Effect.result := by
  cases polled with
  | frame frame =>
      cases frame with
      | data bytes =>
          change (state.pollData codec now bytes).effects.filterMap Effect.result = _
          unfold pollData
          cases fromUtf8 bytes with
          | none => rfl
          | some text => exact results_feed text
      | trailers => rfl
  | pending | error | finished => rfl

theorem recorded_eq (state : BodyState) :
    state.recorded = state.effects.filterMap Effect.result ++ [!state.failed] := by
  unfold recorded drop
  cases state.failed <;> simp [Effect.result, List.filterMap_cons]

@[simp]
theorem recorded_untimed (state : BodyState) : state.untimed.recorded = state.recorded := rfl

/-! ## Error frames -/

theorem sawErrorFrame_handleLines (lines : List (List Char)) :
    (lines.foldl (handleLine codec now) state).body.sawErrorFrame = true ↔
      state.body.sawErrorFrame = true ∨ ∃ line ∈ lines, FlagsError codec line := by
  induction lines generalizing state with
  | nil => simp
  | cons line lines ih =>
      have handled : (state.handleLine codec now line).body.sawErrorFrame = true ↔
          state.body.sawErrorFrame = true ∨ FlagsError codec line := by
        unfold handleLine FlagsError
        rcases lineFrame codec line with _ | (_ | _ | _ | _ | _ | _) <;>
          simp [applyFrame, countContent, reportUsage]
      rw [List.foldl_cons, ih, handled]
      simp [or_assoc]

theorem upstreamStatus_handleLines (lines : List (List Char)) :
    (lines.foldl (handleLine codec now) state).body.upstreamStatus =
      state.body.upstreamStatus := by
  induction lines generalizing state with
  | nil => rfl
  | cons line lines ih =>
      rw [List.foldl_cons, ih]
      unfold handleLine
      rcases lineFrame codec line with _ | (_ | _ | _ | _ | _ | _) <;> rfl

theorem sawErrorFrame_feed_fresh (codec : Codec) (p : BodyParams) (heap : Heap)
    (text : List Char) :
    ((fresh p heap).feed codec 0 text).body.sawErrorFrame = true ↔
      ∃ line ∈ (splitLines '\n' text).1, FlagsError codec line := by
  have handled : ((fresh p heap).feed codec 0 text).body.sawErrorFrame = true ↔
      false = true ∨ ∃ line ∈ (splitLines '\n' text).1, FlagsError codec line :=
    sawErrorFrame_handleLines _
  simpa using handled

/-- A response is recorded as a success exactly when its status is one and no
completed line of the relayed text is taken for an error frame. -/
theorem success_recorded_iff (codec : Codec) (p : BodyParams) (heap : Heap)
    (polls : List TimedPoll) :
    true ∈ ((fresh p heap).pollAll codec polls).recorded ↔
      p.upstreamStatus.isSuccess = true ∧
        ∀ line ∈ (splitLines '\n' (relay ((dataFrames polls).map TimedFrame.data))).1,
          ¬ FlagsError codec line := by
  rw [pollAll_eq_deliver]
  have delivered := (fresh p heap).untimed_deliver codec (dataFrames polls) List.not_mem_nil
  generalize relay ((dataFrames polls).map TimedFrame.data) = text at delivered ⊢
  have sameRecorded := congrArg recorded delivered
  rw [recorded_untimed, recorded_untimed] at sameRecorded
  have noResults : ((fresh p heap).feed codec 0 text).effects.filterMap Effect.result = [] :=
    results_feed text
  have sameStatus : ((fresh p heap).feed codec 0 text).body.upstreamStatus =
      p.upstreamStatus :=
    upstreamStatus_handleLines _
  have verdict : ((fresh p heap).feed codec 0 text).failed = false ↔
      p.upstreamStatus.isSuccess = true ∧
        ¬ ((fresh p heap).feed codec 0 text).body.sawErrorFrame = true := by
    simp [failed, sameStatus, and_comm]
  calc
    true ∈ ((fresh p heap).deliver codec (dataFrames polls)).recorded ↔
        true ∈ ((fresh p heap).feed codec 0 text).recorded := by
      rw [sameRecorded]
    _ ↔ ((fresh p heap).feed codec 0 text).failed = false := by
      rw [recorded_eq, noResults]
      simp
    _ ↔ _ := by
      rw [verdict, sawErrorFrame_feed_fresh]
      push Not
      rfl

end BodyState

/-! ## When a recorded success is one -/

/-- A recorded success means a successful status, no transport error and no
error line, a last line without a newline included. -/
def SoundSuccess (codec : Codec) (p : BodyParams) (heap : Heap) (polls : List TimedPoll)
    (text : List Char) : Prop :=
  true ∈ ((BodyState.fresh p heap).pollAll codec polls).recorded →
    p.upstreamStatus.isSuccess = true ∧ (∀ poll ∈ polls, poll.polled ≠ .error) ∧
      ∀ line ∈ (splitLines '\n' text).1 ++ [(splitLines '\n' text).2], ¬ ErrorLine codec line

/-- For every response whose frames are valid text, a recorded success is one
exactly when the status is no success, a completed line is taken for an error
frame, or there is neither a transport error nor an unterminated error line. -/
theorem soundSuccess_iff (codec : Codec) (p : BodyParams) (heap : Heap)
    (polls : List TimedPoll) (text : List Char)
    (valid : ∀ frame ∈ dataFrames polls, (fromUtf8 frame.data).isSome)
    (whole : fromUtf8 ((dataFrames polls).map TimedFrame.data).flatten = some text) :
    SoundSuccess codec p heap polls text ↔
      ¬ p.upstreamStatus.isSuccess = true ∨
        (∃ line ∈ (splitLines '\n' text).1, FlagsError codec line) ∨
        ((∀ poll ∈ polls, poll.polled ≠ .error) ∧
          ¬ ErrorLine codec (splitLines '\n' text).2) := by
  have relayed : relay ((dataFrames polls).map TimedFrame.data) = text := by
    have validData : ∀ data ∈ (dataFrames polls).map TimedFrame.data,
        (fromUtf8 data).isSome := by
      intro data member
      obtain ⟨frame, frameMem, rfl⟩ := List.mem_map.mp member
      exact valid frame frameMem
    rw [← Utf8Relay.encode_relay validData, Utf8Relay.fromUtf8_encode] at whole
    exact Option.some.inj whole
  unfold SoundSuccess
  rw [BodyState.success_recorded_iff, relayed]
  constructor
  · intro claimed
    by_cases success : p.upstreamStatus.isSuccess = true
    · by_cases flagged : ∃ line ∈ (splitLines '\n' text).1, FlagsError codec line
      · exact .inr (.inl flagged)
      · push Not at flagged
        obtain ⟨-, noTransportError, noErrorLine⟩ := claimed ⟨success, flagged⟩
        exact .inr (.inr ⟨noTransportError, noErrorLine _ (by simp)⟩)
    · exact .inl success
  · rintro (noSuccess | ⟨line, member, flagged⟩ | ⟨noTransportError, tailClean⟩)
      ⟨success, unflagged⟩
    · exact absurd success noSuccess
    · exact absurd flagged (unflagged line member)
    · refine ⟨success, noTransportError, ?_⟩
      intro line member
      rcases List.mem_append.mp member with completed | last
      · exact fun error => unflagged line completed error.flagsError
      · rw [List.mem_singleton.mp last]
        exact tailClean

theorem soundSuccess_whole_chunk :
    SoundSuccess accentedCodec (responseParams 200) dispatchedBackend
      [⟨0, .frame (.data (encode accentedLine))⟩, ⟨1, .finished⟩] accentedLine := by
  have frames : dataFrames [⟨0, .frame (.data (encode accentedLine))⟩, ⟨1, .finished⟩] =
      [⟨0, encode accentedLine⟩] := rfl
  refine (soundSuccess_iff _ _ _ _ _ ?_ ?_).mpr (.inr (.inr ⟨by decide, ?_⟩))
  · simp [frames, Utf8Relay.fromUtf8_encode]
  · simp [frames, Utf8Relay.fromUtf8_encode]
  · rintro ⟨v, err, parsed, -, -⟩
    cases parsed

/-! ## Failures that are recorded as successes -/

def unterminatedError : List Char :=
  ("data: \x7b\"error\":\x7b\"message\":" ++
    "\"the kv cache does not have sufficient capacity\"\x7d\x7d").toList

def unterminatedErrorCodec : Codec :=
  .singleLine (payload unterminatedError) (.object [("error", .object
    [("message", .string "the kv cache does not have sufficient capacity")])])

/-- A transport error after a chunk, and an error frame without its newline,
are both recorded as successes. -/
theorem broken_responses_recorded_as_success :
    ¬ SoundSuccess accentedCodec (responseParams 200) dispatchedBackend
        [⟨0, .frame (.data (encode accentedLine))⟩, ⟨1, .error⟩] accentedLine ∧
      ¬ SoundSuccess unterminatedErrorCodec (responseParams 200) dispatchedBackend
        [⟨0, .frame (.data (encode unterminatedError))⟩, ⟨1, .finished⟩]
        unterminatedError := by
  constructor
  · intro sound
    have recordedOk : true ∈ ((BodyState.fresh (responseParams 200) dispatchedBackend).pollAll
        accentedCodec [⟨0, .frame (.data (encode accentedLine))⟩, ⟨1, .error⟩]).recorded := by
      refine (BodyState.success_recorded_iff _ _ _ _).mpr ⟨by decide, ?_⟩
      intro line member
      change line ∈ (splitLines '\n' (relay [encode accentedLine])).1 at member
      rw [Utf8Relay.relay_encode, accentedLine_lines] at member
      rw [List.mem_singleton.mp member]
      rintro ⟨message, flagged⟩
      cases flagged
    have noTransportError := (sound recordedOk).2.1
    exact noTransportError ⟨1, .error⟩ (by simp) rfl
  · intro sound
    have noLines : splitLines '\n' unterminatedError = ([], unterminatedError) := by decide
    have recordedOk : true ∈ ((BodyState.fresh (responseParams 200) dispatchedBackend).pollAll
        unterminatedErrorCodec
        [⟨0, .frame (.data (encode unterminatedError))⟩, ⟨1, .finished⟩]).recorded := by
      refine (BodyState.success_recorded_iff _ _ _ _).mpr ⟨by decide, ?_⟩
      intro line member
      change line ∈ (splitLines '\n' (relay [encode unterminatedError])).1 at member
      rw [Utf8Relay.relay_encode, noLines] at member
      cases member
    have noErrorLine := (sound recordedOk).2.2
    rw [noLines] at noErrorLine
    exact noErrorLine unterminatedError (by simp) ⟨_, _, rfl, rfl, by simp⟩

end KeelRouter
