import KeelRouter.Inbound

/-!
# The frame of the usage injection

The body of a streaming request is replaced only where its stream options say
nothing about usage.  The replacement parses to the same members, except that
usage is requested, and is left alone when it comes again.
-/

namespace KeelRouter

open SerdeJson (Codec Members Value)

/-- A value that is printed as a text that parses to it. -/
def PrintsExactly (codec : Codec) (v : Value) : Prop :=
  ∃ out, codec.toVec v = .ok out ∧ codec.fromSlice out = .ok v

/-- The stream options of a body, empty where there are none. -/
def streamOptionsOf (obj : Members) : Members :=
  ((obj.get "stream_options").bind Value.asObject).getD []

/-- The stream options are absent or say nothing about usage. -/
def SilentOnUsage (obj : Members) : Prop :=
  obj.get "stream_options" = none ∨ ∃ options : Members,
    obj.get "stream_options" = some (.object options) ∧ options.get "include_usage" = none

/-- The body is a JSON object that says nothing about usage. -/
def Undecided (codec : Codec) (bytes : List UInt8) : Prop :=
  ∃ obj : Members, codec.fromSlice bytes = .ok (.object obj) ∧ SilentOnUsage obj

/-- The members with usage requested, and otherwise as they were. -/
structure RequestsUsage (obj rebuilt : Members) : Prop where
  others : ∀ key, key ≠ "stream_options" → rebuilt.get key = obj.get key
  options : ∃ options : Members, rebuilt.get "stream_options" = some (.object options) ∧
    options.get "include_usage" = some (.bool true) ∧
    ∀ key, key ≠ "include_usage" → options.get key = (streamOptionsOf obj).get key

/-- What the injection returns for a body. -/
structure InjectsUsage (codec : Codec) (bytes : List UInt8) (streaming : Bool)
    (out : List UInt8) : Prop where
  unchanged : ¬ (streaming = true ∧ Undecided codec bytes) → out = bytes
  rewritten : streaming = true → Undecided codec bytes →
    ∃ obj rebuilt, codec.fromSlice bytes = .ok (.object obj) ∧
      codec.fromSlice out = .ok (.object rebuilt) ∧ RequestsUsage obj rebuilt
  explicit : ∀ (obj options : Members) (choice : Value),
    codec.fromSlice bytes = .ok (.object obj) →
    obj.get "stream_options" = some (.object options) →
    options.get "include_usage" = some choice → out = bytes
  idempotent : ensureUsageRequested codec out streaming = .ok out

theorem not_chosen_of_silent {obj options : Members} {choice : Value}
    (silent : SilentOnUsage obj) (present : obj.get "stream_options" = some (.object options)) :
    options.get "include_usage" ≠ some choice := by
  intro chosen
  rcases silent with absent | ⟨others, same, unchosen⟩
  · rw [absent] at present
    cases present
  · rw [same] at present
    obtain rfl := Value.object.inj (Option.some.inj present)
    rw [unchosen] at chosen
    cases chosen

theorem requestsUsage_insert (obj options : Members) (known : streamOptionsOf obj = options) :
    RequestsUsage obj
      (obj.insert "stream_options" (.object (options.insert "include_usage" (.bool true)))) where
  others key differs := Members.get_insert_of_ne differs _ obj
  options := by
    refine ⟨_, Members.get_insert_self _ _ obj, Members.get_insert_self _ _ options, ?_⟩
    intro key differs
    rw [Members.get_insert_of_ne differs, known]

/-- Options that say nothing about usage can be made to. -/
theorem exists_requestUsage {obj : Members} (silent : SilentOnUsage obj) :
    ∃ rebuilt, requestUsage obj = .ok rebuilt ∧ RequestsUsage obj rebuilt := by
  unfold requestUsage
  rcases silent with absent | ⟨options, present, -⟩
  · rw [absent]
    exact ⟨_, rfl, requestsUsage_insert obj [] (by rw [streamOptionsOf, absent]; rfl)⟩
  · rw [present]
    exact ⟨_, rfl, requestsUsage_insert obj options (by rw [streamOptionsOf, present]; rfl)⟩

/-- The test of `ensure_usage_requested` for options that say something about usage. -/
theorem alreadyDecided_iff (obj : Members) :
    (((obj.get "stream_options").bind Value.asObject).any
      fun options => options.containsKey "include_usage") = true ↔
      ∃ (options : Members) (choice : Value), obj.get "stream_options" = some (.object options) ∧
        options.get "include_usage" = some choice := by
  constructor
  · intro decided
    obtain ⟨options, found, contains⟩ := Option.any_eq_true _ _ |>.mp decided
    obtain ⟨value, present, shape⟩ := Option.bind_eq_some_iff.mp found
    obtain rfl := Value.asObject_eq_some.mp shape
    obtain ⟨choice, chosen⟩ := Option.isSome_iff_exists.mp contains
    exact ⟨options, choice, present, chosen⟩
  · rintro ⟨options, choice, present, chosen⟩
    rw [present, Option.bind_some]
    change options.containsKey "include_usage" = true
    rw [Members.containsKey, chosen]
    rfl

section Injection

variable {codec : Codec} {bytes : List UInt8} {streaming : Bool}

theorem ensureUsageRequested_of_decided {obj options : Members} {choice : Value}
    (parsed : codec.fromSlice bytes = .ok (.object obj))
    (present : obj.get "stream_options" = some (.object options))
    (chosen : options.get "include_usage" = some choice) :
    ensureUsageRequested codec bytes streaming = .ok bytes := by
  have decided := (alreadyDecided_iff obj).mpr ⟨options, choice, present, chosen⟩
  unfold ensureUsageRequested
  cases streaming with
  | false => rfl
  | true =>
      simp only [parsed, Bool.not_true, Bool.false_eq_true, if_false, Value.asObject]
      rw [if_pos decided]

theorem ensureUsageRequested_unchanged
    (usable : ∀ v, codec.fromSlice bytes = .ok v → StreamOptionsUsable v)
    (settled : ¬ (streaming = true ∧ Undecided codec bytes)) :
    ensureUsageRequested codec bytes streaming = .ok bytes := by
  cases streaming with
  | false => rfl
  | true =>
      cases parsed : codec.fromSlice bytes with
      | error reason =>
          unfold ensureUsageRequested
          rw [parsed]
          rfl
      | ok v =>
          cases shape : v.asObject with
          | none =>
              unfold ensureUsageRequested
              simp only [parsed, shape, Bool.not_true, Bool.false_eq_true, if_false]
          | some obj =>
              obtain rfl := Value.asObject_eq_some.mp shape
              cases present : obj.get "stream_options" with
              | none => exact absurd ⟨rfl, obj, parsed, .inl present⟩ settled
              | some value =>
                  obtain ⟨options, rfl⟩ := usable _ parsed value present
                  cases chosen : Members.get options "include_usage" with
                  | none => exact absurd ⟨rfl, obj, parsed, .inr ⟨options, present, chosen⟩⟩ settled
                  | some choice => exact ensureUsageRequested_of_decided parsed present chosen

theorem ensureUsageRequested_rewritten {obj rebuilt : Members} {out : List UInt8}
    (parsed : codec.fromSlice bytes = .ok (.object obj))
    (silent : SilentOnUsage obj) (requested : requestUsage obj = .ok rebuilt)
    (printed : codec.toVec (.object rebuilt) = .ok out) :
    ensureUsageRequested codec bytes true = .ok out := by
  have notDecided : ¬ (((obj.get "stream_options").bind Value.asObject).any
      fun options => options.containsKey "include_usage") = true := by
    rw [alreadyDecided_iff]
    rintro ⟨options, choice, present, chosen⟩
    exact not_chosen_of_silent silent present chosen
  unfold ensureUsageRequested
  simp only [parsed, Bool.not_true, Bool.false_eq_true, if_false, Value.asObject]
  rw [if_neg notDecided, requested]
  simp [bind, Except.bind, printed, pure, Except.pure]

/-- The injection returns for every body whose stream options are absent or an
object, replaces it only where they say nothing about usage, and then only adds
the request for usage. -/
theorem ensureUsageRequested_frame
    (usable : ∀ v, codec.fromSlice bytes = .ok v → StreamOptionsUsable v)
    (exact : ∀ obj rebuilt, codec.fromSlice bytes = .ok (.object obj) →
      requestUsage obj = .ok rebuilt → PrintsExactly codec (.object rebuilt)) :
    ∃ out, ensureUsageRequested codec bytes streaming = .ok out ∧
      InjectsUsage codec bytes streaming out := by
  by_cases injected : streaming = true ∧ Undecided codec bytes
  · obtain ⟨rfl, obj, parsed, silent⟩ := injected
    obtain ⟨rebuilt, requested, requestsUsage⟩ := exists_requestUsage silent
    obtain ⟨out, printed, parsedOut⟩ := exact obj rebuilt parsed requested
    obtain ⟨options, present, chosen, -⟩ := requestsUsage.options
    refine ⟨out, ensureUsageRequested_rewritten parsed silent requested printed, ?_, ?_, ?_, ?_⟩
    · intro settled
      exact absurd ⟨rfl, obj, parsed, silent⟩ settled
    · exact fun _ _ => ⟨obj, rebuilt, parsed, parsedOut, requestsUsage⟩
    · intro other options choice parsedOther present chosen
      rw [parsed] at parsedOther
      obtain rfl := Value.object.inj (Except.ok.inj parsedOther)
      exact absurd chosen (not_chosen_of_silent silent present)
    · exact ensureUsageRequested_of_decided parsedOut present chosen
  · have unchanged := ensureUsageRequested_unchanged usable injected
    refine ⟨bytes, unchanged, fun _ => rfl, ?_, fun _ _ _ _ _ _ => rfl, unchanged⟩
    intro streams undecided
    exact absurd ⟨streams, undecided⟩ injected

end Injection

/-! ## A body without a word on usage -/

/-- A codec of a body and of the one it is rewritten to. -/
def rewritingCodec (body printed : List UInt8) (parsed rebuilt : Value) : Codec where
  fromSlice bytes :=
    if bytes = body then .ok parsed
    else if bytes = printed then .ok rebuilt
    else .error "expected value at line 1 column 1"
  fromStr _ := .error "expected value at line 1 column 1"
  toVec _ := .ok printed

theorem fromSlice_rewritingCodec (body printed : List UInt8) (parsed rebuilt : Value) :
    (rewritingCodec body printed parsed rebuilt).fromSlice body = .ok parsed := if_pos rfl

theorem fromSlice_rewritingCodec_printed {body printed : List UInt8} (differs : printed ≠ body)
    (parsed rebuilt : Value) :
    (rewritingCodec body printed parsed rebuilt).fromSlice printed = .ok rebuilt := by
  unfold rewritingCodec
  dsimp only
  rw [if_neg differs, if_pos rfl]

def emptyOptionsBytes : List UInt8 := chatBytes "\x7b\x7d"

def usageOptionsBytes : List UInt8 := chatBytes "\x7b\"include_usage\":true\x7d"

def emptyOptionsCodec : Codec :=
  rewritingCodec emptyOptionsBytes usageOptionsBytes (chatValue (.object []))
    (chatValue (.object [("include_usage", .bool true)]))

theorem fromSlice_emptyOptionsBytes :
    emptyOptionsCodec.fromSlice emptyOptionsBytes = .ok (chatValue (.object [])) :=
  fromSlice_rewritingCodec _ _ _ _

theorem fromSlice_usageOptionsBytes : emptyOptionsCodec.fromSlice usageOptionsBytes =
    .ok (chatValue (.object [("include_usage", .bool true)])) :=
  fromSlice_rewritingCodec_printed (by decide +kernel) _ _

theorem ensureUsageRequested_frame_emptyOptions :
    ∃ out, ensureUsageRequested emptyOptionsCodec emptyOptionsBytes true = .ok out ∧
      InjectsUsage emptyOptionsCodec emptyOptionsBytes true out := by
  refine ensureUsageRequested_frame ?_ ?_
  · intro v parsed options present
    rw [fromSlice_emptyOptionsBytes] at parsed
    obtain rfl := Except.ok.inj parsed
    obtain rfl := Option.some.inj present
    exact ⟨[], rfl⟩
  · intro obj rebuilt parsed requested
    rw [fromSlice_emptyOptionsBytes] at parsed
    obtain rfl := Value.object.inj (Except.ok.inj parsed)
    obtain rfl := Except.ok.inj requested
    exact ⟨usageOptionsBytes, rfl, fromSlice_usageOptionsBytes⟩

end KeelRouter
