import KeelRouter.LeaseRecharge
import KeelRouter.LineLoop

/-!
# The charge of a stream

A body reports the content lines of its stream to its lease one by one, and no
other line.  At any point of the stream the lease has seen as many tokens as
the body has counted, so that its charge has a closed form, and this is what
dropping the body gives back.
-/

namespace KeelRouter

open SerdeJson (Codec)
open LineBuffer (splitLines)
open Utf8Relay (encode relay)
open CostLease (Counted chargeAfter estimateAfter)

def isContentLine (codec : Codec) (line : List Char) : Bool :=
  match lineFrame codec line with
  | some (.content _) => true
  | _ => false

namespace BodyState

/-- The content lines that some polls have completed. -/
def contentLines (codec : Codec) (polls : List TimedPoll) : Nat :=
  (splitLines '\n' (relay (frameBytes polls))).1.countP (isContentLine codec)

/-- A body whose lease has seen the tokens that the body has counted. -/
structure InStep (backend : BackendRef) (prompt initial : UInt32) (model : KvModel)
    (seen : Nat) (state : BodyState) : Prop where
  lease : Counted backend prompt initial model seen state.body.lease
  contentTokens : state.body.contentTokens.toNat = seen

section Stream

variable {codec : Codec} {backend : BackendRef} {prompt initial : UInt32} {model : KvModel}
  {seen : Nat} {state : BodyState}

theorem inStep_fresh {p : BodyParams} {now : Instant} {before : Heap}
    (opened : p.lease = (CostLease.open backend prompt initial model now before).1)
    (heap : Heap) : InStep backend prompt initial model 0 (fresh p heap) where
  lease := by
    change Counted backend prompt initial model 0 p.lease
    rw [opened]
    exact CostLease.counted_open backend prompt initial model now before
  contentTokens := rfl

/-- A content line counts one token. -/
theorem inStep_countContent (inStep : InStep backend prompt initial model seen state)
    (small : estimateAfter initial.toNat (seen + 1) < 2 ^ 32) (now : Instant) :
    InStep backend prompt initial model (seen + 1) (state.countContent now) where
  lease := CostLease.counted_observeTokens inStep.lease small state.heap
  contentTokens := by
    have larger := CostLease.le_estimateAfter initial.toNat (seen + 1)
    change (state.body.contentTokens + 1).toNat = seen + 1
    rw [UInt32.toNat_add, UInt32.toNat_one, inStep.contentTokens]
    omega

/-- No other line moves the lease or the count. -/
theorem inStep_of_not_content (inStep : InStep backend prompt initial model seen state)
    {line : List Char} (other : isContentLine codec line = false) (now : Instant) :
    InStep backend prompt initial model seen (state.handleLine codec now line) := by
  unfold isContentLine at other
  unfold handleLine
  cases carried : lineFrame codec line with
  | none => exact inStep
  | some frame =>
      rw [carried] at other
      cases frame with
      | content text => cases other
      | roleHeader | emptyContent => exact inStep
      | usage | error | done => exact ⟨inStep.lease, inStep.contentTokens⟩

theorem inStep_of_content (inStep : InStep backend prompt initial model seen state)
    (small : estimateAfter initial.toNat (seen + 1) < 2 ^ 32)
    {line : List Char} (content : isContentLine codec line = true) (now : Instant) :
    InStep backend prompt initial model (seen + 1) (state.handleLine codec now line) := by
  unfold isContentLine at content
  unfold handleLine
  split at content
  · rename_i text carried
    rw [carried]
    exact inStep_countContent inStep small now
  · cases content

theorem inStep_handleLines (inStep : InStep backend prompt initial model seen state)
    {lines : List (List Char)}
    (small : estimateAfter initial.toNat (seen + lines.countP (isContentLine codec)) < 2 ^ 32)
    (now : Instant) :
    InStep backend prompt initial model (seen + lines.countP (isContentLine codec))
      (lines.foldl (handleLine codec now) state) := by
  induction lines generalizing seen state with
  | nil => exact inStep
  | cons line lines ih =>
      rw [List.countP_cons] at small ⊢
      rw [List.foldl_cons]
      by_cases content : isContentLine codec line = true
      · rw [if_pos content] at small ⊢
        have enough : seen + 1 ≤ seen + (lines.countP (isContentLine codec) + 1) := by
          omega
        have step := (CostLease.estimateAfter_mono initial.toNat enough).trans_lt small
        have sum : seen + (lines.countP (isContentLine codec) + 1) =
            seen + 1 + lines.countP (isContentLine codec) := by
          omega
        rw [sum] at small ⊢
        exact ih (inStep_of_content inStep step content now) small
      · rw [if_neg content] at small ⊢
        rw [Nat.add_zero] at small ⊢
        exact ih (inStep_of_not_content inStep (Bool.eq_false_iff.mpr content) now) small

/-- Any frames, at any point of the stream, leave the lease in step. -/
theorem inStep_loopAll {p : BodyParams} {now : Instant} {before : Heap}
    (opened : p.lease = (CostLease.open backend prompt initial model now before).1)
    (heap : Heap) (polls : List TimedPoll)
    (small : estimateAfter initial.toNat (contentLines codec polls) < 2 ^ 32) :
    InStep backend prompt initial model (contentLines codec polls)
      ((fresh p heap).loopAll codec polls) := by
  have delivered := (fresh p heap).untimed_deliver codec (dataFrames polls)
    List.not_mem_nil
  rw [← pollAll_eq_deliver, ← loopAll_eq] at delivered
  have started : InStep backend prompt initial model 0
      ((fresh p heap).setLineBuf (splitLines '\n' (relay (frameBytes polls))).2) := by
    have fresh := inStep_fresh opened heap
    exact ⟨fresh.lease, fresh.contentTokens⟩
  have handled : InStep backend prompt initial model (0 + contentLines codec polls)
      ((fresh p heap).feed codec 0 (relay (frameBytes polls))) :=
    inStep_handleLines started (by rw [Nat.zero_add]; exact small) 0
  rw [Nat.zero_add] at handled
  have sameLease := congrArg (fun state => state.body.lease) delivered
  have sameCount := congrArg (fun state => state.body.contentTokens) delivered
  change ((fresh p heap).loopAll codec polls).body.lease = _ at sameLease
  change ((fresh p heap).loopAll codec polls).body.contentTokens = _ at sameCount
  refine ⟨?_, ?_⟩
  · rw [sameLease]
    exact handled.lease
  · rw [sameCount]
    exact handled.contentTokens

end Stream

theorem relay_prefix {first polls : List TimedPoll} (earlier : first <+: polls) :
    relay (frameBytes first) <+: relay (frameBytes polls) := by
  obtain ⟨later, rfl⟩ := earlier
  refine ⟨relay (frameBytes later), ?_⟩
  simp [relay, frameBytes, dataFrames]

theorem contentLines_mono (codec : Codec) {first polls : List TimedPoll} (earlier : first <+: polls) :
    contentLines codec first ≤ contentLines codec polls := by
  obtain ⟨more, same⟩ := relay_prefix earlier
  unfold contentLines
  rw [← same, LineBuffer.splitLines_append, List.countP_append]
  omega

/-- What the lease of a stream charges after some polls. -/
structure ExactCharge (codec : Codec) (backend : BackendRef) (prompt initial : UInt32)
    (model : KvModel) (opened : BodyState) (polls : List TimedPoll) : Prop where
  contentTokens :
    (opened.loopAll codec polls).body.contentTokens.toNat = contentLines codec polls
  tokensSeen :
    (opened.loopAll codec polls).body.lease.tokensSeen.toNat = contentLines codec polls
  charged : (opened.loopAll codec polls).body.lease.charged.toInt =
    chargeAfter model prompt.toNat initial.toNat (contentLines codec polls)
  never_decreases : ∀ first, first <+: polls →
    (opened.loopAll codec first).body.lease.charged.toInt ≤
      (opened.loopAll codec polls).body.lease.charged.toInt
  covers : model = .promptPlusOutput → (prompt.toNat + contentLines codec polls : ℤ) ≤
    (opened.loopAll codec polls).body.lease.charged.toInt
  tight : initial.toNat < contentLines codec polls →
    (opened.loopAll codec polls).body.lease.charged.toInt ≤
      prompt.toNat + contentLines codec polls + 49
  dropped : ∀ (shared : Heap) (ref : BackendRef),
    (({ opened.loopAll codec polls with heap := shared }.drop).1 ref).live =
      { inflight := (shared ref).live.inflight - if backend = ref then 1 else 0
        kvProjectedTokens := (shared ref).live.kvProjectedTokens -
          if backend = ref then (opened.loopAll codec polls).body.lease.charged else 0 }

/-- The charge of a stream at any of its points, whatever its frames are. -/
theorem exact_charge (codec : Codec) (backend : BackendRef) (prompt initial : UInt32)
    (model : KvModel) (now : Instant) (before heap : Heap) (p : BodyParams)
    (opened : p.lease = (CostLease.open backend prompt initial model now before).1)
    (polls : List TimedPoll)
    (small : estimateAfter initial.toNat (contentLines codec polls) < 2 ^ 32) :
    ExactCharge codec backend prompt initial model (fresh p heap) polls := by
  have inStep := inStep_loopAll opened heap polls small
  have charged := inStep.lease.toInt_charged
  refine ⟨inStep.contentTokens, inStep.lease.tokensSeen, charged, ?_, ?_, ?_, ?_⟩
  · intro first earlier
    have fewer := contentLines_mono codec earlier
    have stillSmall := (CostLease.estimateAfter_mono initial.toNat fewer).trans_lt small
    have before := (inStep_loopAll opened heap first stillSmall).lease.toInt_charged
    rw [before, charged]
    exact_mod_cast CostLease.chargeAfter_mono model prompt.toNat initial.toNat fewer
  · rintro rfl
    have enough := CostLease.le_estimateAfter initial.toNat (contentLines codec polls)
    rw [charged, chargeAfter]
    omega
  · intro beyond
    have close := CostLease.chargeAfter_le_add model prompt.toNat beyond
    rw [charged]
    exact_mod_cast close
  · intro shared ref
    change ((((fresh p heap).loopAll codec polls).body.lease.drop shared) ref).live = _
    rw [CostLease.drop_live _ _ _ inStep.lease.unreleased, inStep.lease.backend]

/-- A request whose response is estimated at no token at all. -/
def unestimatedParams (model : KvModel) : BodyParams :=
  { responseParams 200 with lease := (CostLease.open 0 5 0 model 0 singleBackend).1 }

theorem contentLines_cutPolls : contentLines accentedCodec cutPolls = 1 := by
  have frames : frameBytes cutPolls = [encode accentedStart, encode ('é' :: accentedEnd)] := rfl
  have text : relay (frameBytes cutPolls) = accentedLine := by
    simp [frames, relay, Utf8Relay.fromUtf8_encode, accentedLine]
  unfold contentLines
  rw [text, accentedLine_lines]
  rfl

theorem exact_charge_cutPolls :
    ExactCharge accentedCodec 0 5 0 .promptPlusOutput
      (fresh (unestimatedParams .promptPlusOutput) dispatchedBackend) cutPolls :=
  exact_charge accentedCodec 0 5 0 .promptPlusOutput 0 singleBackend dispatchedBackend
    (unestimatedParams .promptPlusOutput) rfl cutPolls (by rw [contentLines_cutPolls]; decide)

/-- A lease that charges for the prompt alone does not cover the response. -/
theorem prompt_does_not_cover :
    ¬ ((5 + contentLines accentedCodec cutPolls : ℤ) ≤
      ((fresh (unestimatedParams .promptOnly) dispatchedBackend).loopAll accentedCodec
        cutPolls).body.lease.charged.toInt) := by
  have opened : (unestimatedParams .promptOnly).lease =
      (CostLease.open 0 5 0 .promptOnly 0 singleBackend).1 := rfl
  have inStep : InStep 0 5 0 .promptOnly (contentLines accentedCodec cutPolls)
      ((fresh (unestimatedParams .promptOnly) dispatchedBackend).loopAll accentedCodec cutPolls) :=
    inStep_loopAll opened dispatchedBackend cutPolls (by rw [contentLines_cutPolls]; decide)
  rw [inStep.lease.toInt_charged, contentLines_cutPolls]
  decide

end BodyState

end KeelRouter
