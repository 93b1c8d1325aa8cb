import KeelRouter.CountingBody

/-!
# How a response body is cut into frames

The network cuts the bytes of a response into data frames, and the body decodes
each frame on its own.  Apart from the time of the first token it ends as if
the text of the valid frames had come at once.  A frame that ends inside a
character is lost, so the cut decides what the body sees unless the bytes are
all ASCII or none of their residues completes a line that the body acts on.
-/

namespace KeelRouter

open SerdeJson (Codec)
open LineBuffer (splitLines)
open Utf8Relay (Ascii Residue relay fromUtf8)

/-- A data frame and the time it arrives. -/
structure TimedFrame where
  now : Instant
  data : List UInt8
deriving DecidableEq

/-- Whether a frame changes what the body counts, remembers or reports to the
route estimator. -/
def Frame.counts : Frame → Bool
  | .content _ | .error _ | .done => true
  | .usage _ completionTokens => 0 < completionTokens
  | .roleHeader | .emptyContent => false

def Recognised (codec : Codec) (line : List Char) : Prop :=
  ∃ frame, lineFrame codec line = some frame ∧ frame.counts = true

/-- What a call tells the route estimator. -/
def Effect.observation : Effect → Option (RouteKey × UInt32)
  | .observeRoute route completionTokens => some (route, completionTokens)
  | _ => none

/-- The state of a body that must not depend on the cuts. -/
structure Observed where
  contentTokens : UInt32
  sawErrorFrame : Bool
  sawDoneOrError : Bool
  tokensSeen : UInt32
  charged : Int64
  observations : List (RouteKey × UInt32)
deriving DecidableEq

namespace BodyState

def observed (state : BodyState) : Observed where
  contentTokens := state.body.contentTokens
  sawErrorFrame := state.body.sawErrorFrame
  sawDoneOrError := state.body.sawDoneOrError
  tokensSeen := state.body.lease.tokensSeen
  charged := state.body.lease.charged
  observations := state.effects.filterMap Effect.observation

def deliver (codec : Codec) (state : BodyState) (frames : List TimedFrame) : BodyState :=
  frames.foldl
    (fun state frame => (state.pollFrame codec frame.now (.frame (.data frame.data))).1) state

/-! ## Delivered frames are their relayed text -/

def untimed (state : BodyState) : BodyState :=
  { state with body := { state.body with firstTokenAt := none } }

@[simp]
theorem observed_untimed (state : BodyState) : state.untimed.observed = state.observed := rfl

section Untimed

variable (codec : Codec) (now : Instant) (state : BodyState)

theorem untimed_applyFrame (frame : Option Frame) :
    (state.applyFrame now frame).untimed = (state.untimed.applyFrame 0 frame).untimed := by
  rcases frame with _ | (_ | _ | _ | _ | _ | _) <;> rfl

theorem untimed_handleLines (lines : List (List Char)) :
    (lines.foldl (handleLine codec now) state).untimed =
      (lines.foldl (handleLine codec 0) state.untimed).untimed := by
  induction lines generalizing now state with
  | nil => rfl
  | cons line lines ih =>
      have handled : (state.handleLine codec now line).untimed =
          (state.untimed.handleLine codec 0 line).untimed :=
        state.untimed_applyFrame now _
      rw [List.foldl_cons, List.foldl_cons, ih, handled, ← ih]

theorem untimed_feed (text : List Char) :
    (state.feed codec now text).untimed = (state.untimed.feed codec 0 text).untimed :=
  untimed_handleLines codec now _ _

/-- Apart from the time of the first token, frames do what their relayed text does. -/
theorem untimed_deliver (frames : List TimedFrame) (unbroken : '\n' ∉ state.body.lineBuf) :
    (state.deliver codec frames).untimed =
      (state.feed codec 0 (relay (frames.map TimedFrame.data))).untimed := by
  induction frames generalizing state with
  | nil =>
      have fed := state.feed_nil codec 0 unbroken
      exact congrArg untimed fed.symm
  | cons frame frames ih =>
      change ((state.pollData codec frame.now frame.data).deliver codec frames).untimed = _
      unfold pollData
      cases decoded : fromUtf8 frame.data with
      | none =>
          have lost : relay ((frame :: frames).map TimedFrame.data) =
              relay (frames.map TimedFrame.data) := by
            simp [relay, decoded]
          rw [ih state unbroken, lost]
      | some text =>
          have kept : relay ((frame :: frames).map TimedFrame.data) =
              text ++ relay (frames.map TimedFrame.data) := by
            simp [relay, decoded]
          calc
            ((state.feed codec frame.now text).deliver codec frames).untimed =
                ((state.feed codec frame.now text).feed codec 0
                  (relay (frames.map TimedFrame.data))).untimed :=
              ih _ (state.not_mem_lineBuf_feed codec frame.now text)
            _ = ((state.feed codec 0 text).feed codec 0
                  (relay (frames.map TimedFrame.data))).untimed := by
              rw [untimed_feed, state.untimed_feed codec frame.now text,
                ← state.untimed_feed codec 0 text, ← untimed_feed]
            _ = _ := by rw [feed_append, kept]

end Untimed

theorem observed_deliver (codec : Codec) (p : BodyParams) (heap : Heap)
    (frames : List TimedFrame) :
    ((fresh p heap).deliver codec frames).observed =
      ((fresh p heap).feed codec 0 (relay (frames.map TimedFrame.data))).observed := by
  have delivered := (fresh p heap).untimed_deliver codec frames List.not_mem_nil
  simpa only [observed_untimed] using congrArg observed delivered

/-! ## Lines that change what is observed -/

section Lines

variable {codec : Codec} {now : Instant} {state : BodyState}

theorem observed_handleLine {line : List Char} (unrecognised : ¬ Recognised codec line) :
    (state.handleLine codec now line).observed = state.observed := by
  unfold handleLine
  cases carried : lineFrame codec line with
  | none => rfl
  | some frame =>
      have silent : ¬ frame.counts = true := fun counts =>
        unrecognised ⟨frame, carried, counts⟩
      cases frame with
      | roleHeader | emptyContent => rfl
      | content _ | error _ | done => exact absurd rfl silent
      | usage promptTokens completionTokens =>
          have noTokens : ¬ 0 < completionTokens := by simpa [Frame.counts] using silent
          simp [applyFrame, reportUsage, observed, noTokens, Effect.observation]

theorem observed_handleLines {lines : List (List Char)}
    (unrecognised : ∀ line ∈ lines, ¬ Recognised codec line) :
    (lines.foldl (handleLine codec now) state).observed = state.observed := by
  induction lines generalizing state with
  | nil => rfl
  | cons line lines ih =>
      rw [List.foldl_cons, ih fun other member => unrecognised other (by simp [member])]
      exact observed_handleLine (unrecognised line (by simp))

/-- A recognised line always shows while no marker has been seen. -/
theorem observed_handleLine_ne {line : List Char} (recognised : Recognised codec line)
    (noError : state.body.sawErrorFrame = false) (notDone : state.body.sawDoneOrError = false) :
    (state.handleLine codec now line).observed ≠ state.observed := by
  obtain ⟨frame, carried, counts⟩ := recognised
  unfold handleLine
  rw [carried]
  intro same
  cases frame with
  | roleHeader | emptyContent => cases counts
  | content text =>
      have sameCount : state.body.contentTokens + 1 = state.body.contentTokens :=
        congrArg Observed.contentTokens same
      simp at sameCount
  | error message =>
      have sameFlag : true = state.body.sawErrorFrame := congrArg Observed.sawErrorFrame same
      rw [noError] at sameFlag
      cases sameFlag
  | done =>
      have sameFlag : true = state.body.sawDoneOrError := congrArg Observed.sawDoneOrError same
      rw [notDone] at sameFlag
      cases sameFlag
  | usage promptTokens completionTokens =>
      have someTokens : 0 < completionTokens := by simpa [Frame.counts] using counts
      have sameLength := congrArg (fun seen => seen.observations.length) same
      simp [applyFrame, reportUsage, observed, someTokens, Effect.observation] at sameLength

end Lines

theorem observed_feed {codec : Codec} {p : BodyParams} {heap : Heap} {text : List Char}
    (unrecognised : ∀ line ∈ (splitLines '\n' text).1, ¬ Recognised codec line) :
    ((fresh p heap).feed codec 0 text).observed = (fresh p heap).observed :=
  observed_handleLines unrecognised

theorem observed_feed_nil (codec : Codec) (p : BodyParams) (heap : Heap) :
    ((fresh p heap).feed codec 0 []).observed = (fresh p heap).observed :=
  observed_feed (by simp)

theorem observed_feed_ne {codec : Codec} {p : BodyParams} {heap : Heap} {text : List Char}
    {before after : List (List Char)} {line : List Char}
    (lines : (splitLines '\n' text).1 = before ++ line :: after)
    (unrecognisedBefore : ∀ other ∈ before, ¬ Recognised codec other)
    (recognised : Recognised codec line)
    (unrecognisedAfter : ∀ other ∈ after, ¬ Recognised codec other) :
    ((fresh p heap).feed codec 0 text).observed ≠ (fresh p heap).observed := by
  have split : splitLines '\n' ((fresh p heap).body.lineBuf ++ text) = splitLines '\n' text := rfl
  unfold feed
  rw [split]
  dsimp only
  rw [lines, List.foldl_append, List.foldl_cons, observed_handleLines unrecognisedAfter]
  have skipped : (before.foldl (handleLine codec 0)
      ((fresh p heap).setLineBuf (splitLines '\n' text).2)).observed = (fresh p heap).observed :=
    observed_handleLines unrecognisedBefore
  have shows : (handleLine codec 0 (before.foldl (handleLine codec 0)
      ((fresh p heap).setLineBuf (splitLines '\n' text).2)) line).observed ≠ _ :=
    observed_handleLine_ne recognised
      (congrArg Observed.sawErrorFrame skipped) (congrArg Observed.sawDoneOrError skipped)
  rw [skipped] at shows
  exact shows

end BodyState

/-! ## Residues with a single recognised line -/

theorem exists_first_recognised {codec : Codec} {lines : List (List Char)}
    (some : ∃ line ∈ lines, Recognised codec line) :
    ∃ before line after, lines = before ++ line :: after ∧
      (∀ other ∈ before, ¬ Recognised codec other) ∧ Recognised codec line := by
  classical
  obtain ⟨line, member, recognised⟩ := some
  have present : (lines.find? fun line => Recognised codec line).isSome := by
    rw [List.find?_isSome]
    exact ⟨line, member, by simpa using recognised⟩
  obtain ⟨first, found⟩ := Option.isSome_iff_exists.mp present
  obtain ⟨holds, before, after, rfl, none⟩ := List.find?_eq_some_iff_append.mp found
  refine ⟨before, first, after, rfl, ?_, by simpa using holds⟩
  intro other earlier
  simpa using none other earlier

/-- Bytes that are not all ASCII and can complete a recognised line can complete
a single one: cutting the text after its first recognised line, either part of
it can be lost. -/
theorem exists_single_recognised {codec : Codec} {bytes : List UInt8}
    (notAscii : ¬ Ascii bytes) {text : List Char} (residue : Residue bytes text)
    (some : ∃ line ∈ (splitLines '\n' text).1, Recognised codec line) :
    ∃ text before line after, Residue bytes text ∧
      (splitLines '\n' text).1 = before ++ line :: after ∧
      (∀ other ∈ before, ¬ Recognised codec other) ∧ Recognised codec line ∧
      (∀ other ∈ after, ¬ Recognised codec other) := by
  induction count : (splitLines '\n' text).1.length using Nat.strong_induction_on
    generalizing text with
  | _ count ih =>
      obtain ⟨before, line, after, lines, unrecognised, recognised⟩ :=
        exists_first_recognised some
      by_cases later : ∃ other ∈ after, Recognised codec other
      · have cut : (splitLines '\n' text).1 = (before ++ [line]) ++ after := by simp [lines]
        obtain ⟨first, second, rfl, firstLines, secondLines⟩ :=
          LineBuffer.exists_cut '\n' cut
        rcases Utf8Relay.residue_part notAscii residue with kept | kept
        · refine ⟨first, before, line, [], kept, ?_, unrecognised, recognised, by simp⟩
          rw [firstLines]
        · refine ih (splitLines '\n' second).1.length ?_ kept ?_ rfl
          · rw [← count, lines, secondLines, List.length_append, List.length_cons]
            omega
          · rw [secondLines]
            exact later
      · push Not at later
        exact ⟨text, before, line, after, residue, lines, unrecognised, recognised, later⟩

/-! ## When the cut does not matter -/

theorem exists_timedFrames {bytes : List UInt8} {text : List Char}
    (residue : Residue bytes text) :
    ∃ frames : List TimedFrame, (frames.map TimedFrame.data).flatten = bytes ∧
      relay (frames.map TimedFrame.data) = text := by
  obtain ⟨frames, rfl, rfl⟩ := Utf8Relay.exists_frames_of_residue residue
  have sameData : (frames.map (TimedFrame.mk 0)).map TimedFrame.data = frames := by
    rw [List.map_map]
    exact List.map_id frames
  exact ⟨frames.map (TimedFrame.mk 0), by rw [sameData], by rw [sameData]⟩

/-- Any two ways of cutting a response into frames end alike exactly when its
bytes are all ASCII or none of their residues completes a recognised line. -/
theorem chunking_invariant_iff (codec : Codec) (p : BodyParams) (heap : Heap)
    (bytes : List UInt8) :
    (∀ first second : List TimedFrame,
      (first.map TimedFrame.data).flatten = bytes →
      (second.map TimedFrame.data).flatten = bytes →
      ((BodyState.fresh p heap).deliver codec first).observed =
        ((BodyState.fresh p heap).deliver codec second).observed) ↔
      Ascii bytes ∨ ∀ text, Residue bytes text →
        ∀ line ∈ (splitLines '\n' text).1, ¬ Recognised codec line := by
  constructor
  · intro invariant
    by_contra possible
    push Not at possible
    obtain ⟨notAscii, text, residue, line, member, recognised⟩ := possible
    obtain ⟨single, before, line, after, kept, lines, earlier, recognised, later⟩ :=
      exists_single_recognised notAscii residue ⟨line, member, recognised⟩
    obtain ⟨seen, seenBytes, seenText⟩ := exists_timedFrames kept
    obtain ⟨lost, lostBytes, lostText⟩ := exists_timedFrames (Utf8Relay.residue_nil notAscii)
    have same := invariant seen lost seenBytes lostBytes
    rw [BodyState.observed_deliver, BodyState.observed_deliver, seenText, lostText,
      BodyState.observed_feed_nil] at same
    exact BodyState.observed_feed_ne lines earlier recognised later same
  · rintro (ascii | unrecognised) first second firstBytes secondBytes
    · have firstText : relay (first.map TimedFrame.data) = _ :=
        Utf8Relay.relay_of_ascii (by rw [firstBytes]; exact ascii)
      have secondText : relay (second.map TimedFrame.data) = _ :=
        Utf8Relay.relay_of_ascii (by rw [secondBytes]; exact ascii)
      rw [BodyState.observed_deliver, BodyState.observed_deliver, firstText, secondText,
        firstBytes, secondBytes]
    · have unchanged (frames : List TimedFrame)
          (same : (frames.map TimedFrame.data).flatten = bytes) :
          ((BodyState.fresh p heap).deliver codec frames).observed =
            (BodyState.fresh p heap).observed := by
        have residue := Utf8Relay.residue_relay (frames.map TimedFrame.data)
        rw [same] at residue
        rw [BodyState.observed_deliver]
        exact BodyState.observed_feed (unrecognised _ residue)
      rw [unchanged first firstBytes, unchanged second secondBytes]

/-! ## A character that is cut in two -/

/-- A content chunk up to its text, the character it carries, and the rest of it. -/
def accentedStart : List Char :=
  "data: \x7b\"choices\":[\x7b\"delta\":\x7b\"content\":\"".toList

def accentedEnd : List Char := "\"\x7d\x7d]\x7d\n".toList

def accentedLine : List Char := accentedStart ++ 'é' :: accentedEnd

def accentedValue : SerdeJson.Value :=
  .object [("choices", .array [.object [("delta", .object [("content", .string "é")])]])]

theorem accentedLine_lines : (splitLines '\n' accentedLine).1 = [] ++ accentedLine :: [] := by
  decide

def accentedCodec : Codec := .singleLine (payload accentedLine) accentedValue

def wholeFrames : List TimedFrame := [⟨0, Utf8Relay.encode accentedLine⟩]

def splitFrames : List TimedFrame :=
  [⟨0, Utf8Relay.encode accentedStart ++ [0xC3]⟩, ⟨0, 0xA9 :: Utf8Relay.encode accentedEnd⟩]

def singleBackend : Heap := fun _ => .fresh ⟨0⟩ "http://x" "m" 1 ⟨8192, 32⟩

def dispatchedBackend : Heap := (CostLease.open 0 5 10 .promptOnly 0 singleBackend).2

def responseParams (status : StatusCode) : BodyParams where
  lease := (CostLease.open 0 5 10 .promptOnly 0 singleBackend).1
  backendKey := "http://x"
  estimatedOutputTokens := 10
  dispatchedAt := 0
  upstreamStatus := status
  route := ("m", 64)
  estimatedPromptTokens := 5

/-- A chunk whose only character outside ASCII is cut in two is lost. -/
theorem split_character_loses_content :
    (splitFrames.map TimedFrame.data).flatten = (wholeFrames.map TimedFrame.data).flatten ∧
      ((BodyState.fresh (responseParams 200) dispatchedBackend).deliver
          accentedCodec splitFrames).observed ≠
        ((BodyState.fresh (responseParams 200) dispatchedBackend).deliver
          accentedCodec wholeFrames).observed := by
  have recognised : Recognised accentedCodec accentedLine := ⟨.content "é", rfl, rfl⟩
  have wholeText : relay (wholeFrames.map TimedFrame.data) = accentedLine :=
    Utf8Relay.relay_encode accentedLine
  have headLost : fromUtf8 (Utf8Relay.encode accentedStart ++ [0xC3]) = none :=
    Utf8Relay.fromUtf8_eq_none.mpr
      (Utf8Relay.encode_ne_of_dangling (by decide) (by decide) _)
  have tailLost : fromUtf8 (0xA9 :: Utf8Relay.encode accentedEnd) = none :=
    Utf8Relay.fromUtf8_eq_none.mpr (Utf8Relay.encode_ne_of_continuation (by decide) _)
  have splitText : relay (splitFrames.map TimedFrame.data) = [] := by
    simp [relay, splitFrames, headLost, tailLost]
  have accentBytes : String.utf8EncodeChar 'é' = [0xC3, 0xA9] := by decide
  refine ⟨?_, ?_⟩
  · simp [splitFrames, wholeFrames, accentedLine, Utf8Relay.encode_cons, accentBytes]
  · rw [BodyState.observed_deliver, BodyState.observed_deliver, wholeText,
      splitText, BodyState.observed_feed_nil]
    exact (BodyState.observed_feed_ne accentedLine_lines (by simp) recognised (by simp)).symm

end KeelRouter
