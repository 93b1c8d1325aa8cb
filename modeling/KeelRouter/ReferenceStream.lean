import KeelRouter.StreamCharge

/-!
# The stream loop of the reference client

The load generator reads the lines of a response with a loop of its own.  It
skips what it does not know, leaves the loop at the end marker, at an error
object and at any other exception, and counts the chunks whose first delta has
content.

The router classifies a delta with a role before it looks at the content.  The
two counts agree on a stream exactly when no delta has both.
-/

namespace KeelRouter

open SerdeJson (Codec Value Members)
open LineBuffer (IsLine splitLines)
open Utf8Relay (encode fromUtf8 relay)

namespace Loadgen

/-! ## Reading a line -/

/-- The truth value of what `json.loads` returns. -/
def truthy : Value → Bool
  | .null => false
  | .bool value => value
  | .number (.posInt value) => value ≠ 0
  | .number (.negInt value) => value ≠ 0
  | .number (.float value) => value ≠ .finite 0
  | .string text => text ≠ ""
  | .array items => !items.isEmpty
  | .object members => !members.isEmpty

/-- The characters that `str.strip` removes. -/
def isSpace (char : Char) : Bool :=
  UnicodeText.isWhitespace char || (0x1C ≤ char.toNat && char.toNat ≤ 0x1F)

def strip (text : List Char) : List Char :=
  (text.dropWhile isSpace).rdropWhile isSpace

theorem not_isSpace_of_isDigit {char : Char} (digit : char.isDigit = true) :
    isSpace char = false := by
  have range : 48 ≤ char.toNat ∧ char.toNat ≤ 57 := by
    simpa [Char.isDigit, Bool.and_eq_true, UInt32.le_iff_toNat_le] using digit
  simp [isSpace, UnicodeText.isWhitespace]
  omega

/-- Nothing is stripped where there are no spaces. -/
theorem strip_of_forall {text : List Char} (visible : ∀ char ∈ text, isSpace char = false) :
    strip text = text := by
  have start : text.dropWhile isSpace = text := by
    rw [List.dropWhile_eq_self_iff]
    intro nonempty
    rw [visible _ (List.getElem_mem nonempty)]
    exact Bool.false_ne_true
  unfold strip
  rw [start, List.rdropWhile_eq_self_iff]
  intro nonempty
  rw [visible _ (List.getLast_mem nonempty)]
  exact Bool.false_ne_true

inductive LoadsError where
  | jsonDecodeError
  | otherError
deriving DecidableEq

/-- The parser of the client's JSON library. -/
abbrev Loads := List Char → Except LoadsError Value

/-- What a line does to the loop: exceptions leave it, too. -/
inductive LineStep where
  | skip
  | count
  | leave
deriving DecidableEq

/-- The value of a key of a dictionary; any other value has no `get`. -/
def getOr (o : Value) (key : String) (default : Value) : Option Value :=
  o.asObject.map fun members => (members.get key).getD default

/-- The body of the loop once a line is parsed. -/
def readChunk (o : Value) : LineStep :=
  match o.asObject with
  | none => .leave
  | some members =>
      if members.containsKey "error" then .leave
      else
        let ch := (members.get "choices").getD .null
        if !truthy ch then .skip
        else
          match ch.asArray.bind List.head? with
          | none => .leave
          | some first =>
              match (getOr first "delta" (.object [])).bind fun delta =>
                  getOr delta "content" (.string "") with
              | none => .leave
              | some txt => if !truthy txt then .skip else .count

/-- The body of the loop for a line, which has lost its newline. -/
def readLine (loads : Loads) (line : List Char) : LineStep :=
  if !"data:".toList.isPrefixOf line then .skip
  else
    let d := strip (line.drop 5)
    if d = "[DONE]".toList then .leave
    else
      match loads d with
      | .error .jsonDecodeError => .skip
      | .error .otherError => .leave
      | .ok o => readChunk o

/-- The final value of `c` in `send_request`. -/
def streamCount (loads : Loads) : List (List Char) → Nat
  | [] => 0
  | line :: lines =>
      match readLine loads line with
      | .skip => streamCount loads lines
      | .count => streamCount loads lines + 1
      | .leave => 0

end Loadgen

/-! ## Chunks with content -/

def firstDelta (v : Value) : Option Value :=
  (((v.get "choices").bind Value.asArray).bind List.head?).bind fun choice => choice.get "delta"

/-- The chunk is no error and the content of its first delta is a text that is
not empty. -/
def generates (v : Value) : Bool :=
  (v.get "error").isNone &&
    (((firstDelta v).bind fun delta => delta.get "content").bind Value.asStr).any
      fun text => text ≠ ""

def hasRole (v : Value) : Bool :=
  ((firstDelta v).bind fun delta => delta.get "role").isSome

def Frame.isContent : Frame → Bool
  | .content _ => true
  | _ => false

theorem isContentLine_eq (codec : Codec) (line : List Char) :
    isContentLine codec line = (lineFrame codec line).any Frame.isContent := by
  unfold isContentLine
  cases lineFrame codec line with
  | none => rfl
  | some frame => cases frame <;> rfl

/-- The router counts the chunks with content whose delta has no role. -/
theorem isContent_classifyJson (v : Value) :
    (classifyJson v).any Frame.isContent = (generates v && !hasRole v) := by
  unfold classifyJson generates hasRole firstDelta
  cases v.get "error" with
  | some err => rfl
  | none =>
      cases v.get "choices" with
      | none => rfl
      | some listed =>
          cases listed with
          | array choices =>
              cases choices with
              | nil => rfl
              | cons choice choices =>
                  change Option.any Frame.isContent ((choice.get "delta").bind _) = _
                  simp only [Option.bind_some, Value.asArray, List.head?_cons]
                  cases choice.get "delta" with
                  | none => rfl
                  | some delta =>
                      simp only [Option.bind_some]
                      cases delta.get "role" with
                      | some role => simp [Frame.isContent]
                      | none =>
                          cases (delta.get "content").bind Value.asStr with
                          | none => rfl
                          | some text =>
                              by_cases empty : text = "" <;> simp [empty, Frame.isContent]
          | null | bool | number | string | object => rfl

theorem content_iff_generates_iff (v : Value) :
    ((∃ text, classifyJson v = some (.content text)) ↔ generates v = true) ↔
      ¬ (generates v = true ∧ hasRole v = true) := by
  have classified := isContent_classifyJson v
  have isContent : (∃ text, classifyJson v = some (.content text)) ↔
      (classifyJson v).any Frame.isContent = true := by
    cases classifyJson v with
    | none => simp
    | some frame => cases frame <;> simp [Frame.isContent]
  rw [isContent, classified]
  cases generates v <;> cases hasRole v <;> simp

/-- A chunk with one of the shapes that an engine emits. -/
def WellShaped (v : Value) : Prop :=
  (v.get "error").isSome ∨ ∃ choices, v.get "choices" = some (.array choices) ∧
    ∀ first ∈ choices.head?, ∃ delta : Members, first.get "delta" = some (.object delta) ∧
      ∀ content, delta.get "content" = some content →
        content = .null ∨ ∃ text, content = .string text

theorem readChunk_of_error {v err : Value} (failed : v.get "error" = some err) :
    Loadgen.readChunk v = .leave := by
  obtain ⟨members, rfl⟩ := Value.exists_object_of_get failed
  have present : Members.containsKey members "error" = true := by
    have failed : Members.get members "error" = some err := failed
    rw [Members.containsKey, failed]
    rfl
  unfold Loadgen.readChunk
  simp [Value.asObject, present]

theorem readChunk_of_choices {v : Value} {choices : List Value} (noError : v.get "error" = none)
    (listed : v.get "choices" = some (.array choices)) :
    Loadgen.readChunk v =
      match choices.head? with
      | none => .skip
      | some first =>
          match (Loadgen.getOr first "delta" (.object [])).bind fun delta =>
              Loadgen.getOr delta "content" (.string "") with
          | none => .leave
          | some txt => if !Loadgen.truthy txt then .skip else .count := by
  obtain ⟨members, rfl⟩ := Value.exists_object_of_get listed
  have absent : Members.containsKey members "error" = false := by
    have noError : Members.get members "error" = none := noError
    rw [Members.containsKey, noError]
    rfl
  have present : Members.get members "choices" = some (.array choices) := listed
  unfold Loadgen.readChunk
  cases choices <;> simp [Value.asObject, absent, present, Loadgen.truthy, Value.asArray]

theorem getOr_of_get {o : Value} {key : String} {found : Value} (present : o.get key = some found)
    (default : Value) : Loadgen.getOr o key default = some found := by
  obtain ⟨members, rfl⟩ := Value.exists_object_of_get present
  have present : Members.get members key = some found := present
  simp [Loadgen.getOr, Value.asObject, present]

/-- The client counts the chunks with content. -/
theorem readChunk_of_wellShaped {v : Value} (shaped : WellShaped v) :
    Loadgen.readChunk v = if (v.get "error").isSome then .leave
      else if generates v then .count else .skip := by
  cases failed : v.get "error" with
  | some err => exact readChunk_of_error failed
  | none =>
      obtain ⟨choices, listed, head⟩ := shaped.resolve_left (by simp [failed])
      rw [readChunk_of_choices failed listed]
      unfold generates firstDelta
      rw [failed, listed]
      cases choices with
      | nil => rfl
      | cons first choices =>
          obtain ⟨delta, carried, contents⟩ := head first rfl
          have sameContent : (Value.object delta).get "content" = Members.get delta "content" := rfl
          have found := getOr_of_get carried (.object [])
          have foundText : Loadgen.getOr (.object delta) "content" (.string "") =
              some ((Members.get delta "content").getD (.string "")) := rfl
          simp only [List.head?_cons, Value.asArray, Option.bind_some, found, foundText, carried,
            sameContent]
          cases carriedText : Members.get delta "content" with
          | none => rfl
          | some content =>
              rcases contents content carriedText with rfl | ⟨text, rfl⟩
              · rfl
              · by_cases empty : text = "" <;> simp [empty, Loadgen.truthy, Value.asStr]

/-! ## Streams -/

/-- What a `data:` line holds. -/
inductive DataPayload where
  | done
  | chunk (v : Value)

namespace DataPayload

def final : DataPayload → Bool
  | .done => true
  | .chunk v => (v.get "error").isSome

def generates : DataPayload → Bool
  | .done => false
  | .chunk v => KeelRouter.generates v

theorem generates_of_final {payload : DataPayload} (final : payload.final = true) :
    payload.generates = false := by
  cases payload with
  | done => rfl
  | chunk v =>
      have failed : (v.get "error").isSome = true := final
      change KeelRouter.generates v = false
      rw [KeelRouter.generates, Option.isNone_eq_false_iff.mpr failed, Bool.false_and]

def hasRole : DataPayload → Bool
  | .done => false
  | .chunk v => KeelRouter.hasRole v

/-- The text holds the payload, for both parsers. -/
def HeldBy (codec : Codec) (loads : Loadgen.Loads) (text : List Char) : DataPayload → Prop
  | .done => text = "[DONE]".toList
  | .chunk v => text.head? = some '\x7b' ∧ text.getLast? = some '\x7d' ∧
      codec.fromStr text = .ok v ∧ loads text = .ok v ∧ WellShaped v

end DataPayload

/-- A line without its newline, and what it holds. -/
structure DataLine (codec : Codec) (loads : Loadgen.Loads) where
  lead : List Char
  text : List Char
  trail : List Char
  payload : DataPayload
  leading : ∀ char ∈ lead, UnicodeText.isWhitespace char = true
  trailing : ∀ char ∈ trail, UnicodeText.isWhitespace char = true
  unbroken : '\n' ∉ lead ++ text ++ trail
  held : payload.HeldBy codec loads text

namespace DataLine

variable {codec : Codec} {loads : Loadgen.Loads} (line : DataLine codec loads)

def chars : List Char := "data:".toList ++ (line.lead ++ line.text ++ line.trail)

/-- The ends of the text of a payload are no white space. -/
structure Ends (text : List Char) : Prop where
  nonempty : text ≠ []
  start : ∀ char ∈ text.head?, Loadgen.isSpace char = false
  final : ∀ char ∈ text.getLast?, Loadgen.isSpace char = false

theorem ends_of_eq {text : List Char} {first last : Char} (start : text.head? = some first)
    (final : text.getLast? = some last) (visibleFirst : Loadgen.isSpace first = false)
    (visibleLast : Loadgen.isSpace last = false) : Ends text := by
  refine ⟨?_, ?_, ?_⟩
  · rintro rfl
    cases start
  · rw [start]
    rintro char ⟨⟩
    exact visibleFirst
  · rw [final]
    rintro char ⟨⟩
    exact visibleLast

theorem text_of_done (done : line.payload = .done) : line.text = "[DONE]".toList := by
  have held := line.held
  rwa [done] at held

theorem held_of_chunk {v : Value} (chunk : line.payload = .chunk v) :
    (DataPayload.chunk v).HeldBy codec loads line.text := by
  rw [← chunk]
  exact line.held

theorem text_ne_marker {v : Value} (chunk : line.payload = .chunk v) :
    line.text ≠ "[DONE]".toList := by
  obtain ⟨opens, -⟩ := line.held_of_chunk chunk
  intro same
  rw [same] at opens
  cases opens

theorem ends : Ends line.text := by
  cases payload : line.payload with
  | done =>
      rw [line.text_of_done payload]
      exact ends_of_eq rfl rfl (by decide) (by decide)
  | chunk v =>
      obtain ⟨start, final, -⟩ := line.held_of_chunk payload
      exact ends_of_eq start final (by decide) (by decide)

theorem isSpace_of_isWhitespace {char : Char} (space : UnicodeText.isWhitespace char = true) :
    Loadgen.isSpace char = true := by
  rw [Loadgen.isSpace, space, Bool.true_or]

theorem not_isWhitespace {char : Char} (visible : Loadgen.isSpace char = false) :
    UnicodeText.isWhitespace char = false := by
  by_contra space
  rw [isSpace_of_isWhitespace (Bool.not_eq_false _ ▸ space)] at visible
  cases visible

theorem strip_drop : Loadgen.strip (line.chars.drop 5) = line.text := by
  obtain ⟨nonempty, start, final⟩ := line.ends
  exact UnicodeText.removed_padded
    (fun char member => isSpace_of_isWhitespace (line.leading char member))
    (fun char member => isSpace_of_isWhitespace (line.trailing char member)) start final nonempty

theorem payload_chars : KeelRouter.payload (line.chars ++ ['\n']) = line.text := by
  obtain ⟨nonempty, start, final⟩ := line.ends
  have start : ∀ char ∈ line.text.head?, UnicodeText.isWhitespace char = false :=
    fun char member => not_isWhitespace (start char member)
  have final : ∀ char ∈ line.text.getLast?, UnicodeText.isWhitespace char = false :=
    fun char member => not_isWhitespace (final char member)
  have outer : UnicodeText.trim (line.chars ++ ['\n']) =
      "data:".toList ++ (line.lead ++ line.text) := by
    have spelled : line.chars = "data:".toList ++ (line.lead ++ line.text ++ line.trail) := rfl
    have shape : line.chars ++ ['\n'] =
        [] ++ ("data:".toList ++ (line.lead ++ line.text)) ++ (line.trail ++ ['\n']) := by
      rw [spelled]
      simp only [List.append_assoc, List.nil_append]
    rw [shape]
    apply UnicodeText.trim_padded
    · simp
    · intro char member
      rcases List.mem_append.mp member with inside | newline
      · exact line.trailing char inside
      · rw [List.mem_singleton.mp newline]
        decide
    · intro char member
      obtain rfl : 'd' = char := by simpa using member
      decide
    · rw [← List.append_assoc, List.getLast?_append,
        Option.or_of_isSome (by simpa using nonempty)]
      exact final
    · simp
  unfold KeelRouter.payload
  dsimp only
  rw [outer, UnicodeText.stripPrefix_append, Option.getD_some]
  have inner : UnicodeText.trim (line.lead ++ line.text ++ []) = line.text :=
    UnicodeText.trim_padded line.leading (by simp) start final nonempty
  rwa [List.append_nil] at inner

/-- What the router makes of the line. -/
theorem isContentLine_chars : isContentLine codec (line.chars ++ ['\n']) =
    (line.payload.generates && !line.payload.hasRole) := by
  have core := line.payload_chars
  obtain ⟨nonempty, start, final⟩ := line.ends
  have trimmed : UnicodeText.trim line.text = line.text := by
    have trimmed : UnicodeText.trim ([] ++ line.text ++ []) = line.text :=
      UnicodeText.trim_padded (by simp) (by simp)
        (fun char member => not_isWhitespace (start char member))
        (fun char member => not_isWhitespace (final char member)) nonempty
    rwa [List.append_nil, List.nil_append] at trimmed
  have present : line.text.isEmpty = false := by simpa using nonempty
  rw [isContentLine_eq]
  unfold lineFrame parseLine
  dsimp only
  rw [core, trimmed, present, if_neg Bool.false_ne_true]
  cases payload : line.payload with
  | done =>
      rw [line.text_of_done payload]
      rfl
  | chunk v =>
      obtain ⟨-, -, parsed, -⟩ := line.held_of_chunk payload
      rw [if_neg (line.text_ne_marker payload), parsed]
      exact isContent_classifyJson v

/-- What the client makes of the line. -/
theorem readLine_chars : Loadgen.readLine loads line.chars =
    if line.payload.final then .leave
    else if line.payload.generates then .count else .skip := by
  have starts : "data:".toList.isPrefixOf line.chars = true := by
    rw [List.isPrefixOf_iff_prefix]
    exact List.prefix_append _ _
  unfold Loadgen.readLine
  dsimp only
  rw [starts, line.strip_drop]
  cases payload : line.payload with
  | done =>
      rw [line.text_of_done payload]
      rfl
  | chunk v =>
      obtain ⟨-, -, -, parsed, shaped⟩ := line.held_of_chunk payload
      rw [if_neg (line.text_ne_marker payload), parsed]
      exact readChunk_of_wellShaped shaped

theorem isLine_chars : IsLine '\n' (line.chars ++ ['\n']) := by
  refine ⟨line.chars, ?_, rfl⟩
  intro member
  rcases List.mem_append.mp member with label | inside
  · exact absurd label (by decide)
  · exact line.unbroken inside

end DataLine

/-- The lines of a stream up to its first marker, and polls whose valid frames
bring them. -/
structure DataStream (codec : Codec) (loads : Loadgen.Loads) where
  lines : List (DataLine codec loads)
  ended : ∀ line ∈ lines.dropLast, line.payload.final = false
  polls : List TimedPoll
  valid : ∀ data ∈ BodyState.frameBytes polls, (fromUtf8 data).isSome
  whole : (BodyState.frameBytes polls).flatten =
    encode (lines.map fun line => line.chars ++ ['\n']).flatten

namespace DataStream

variable {codec : Codec} {loads : Loadgen.Loads}

theorem streamCount_lines (lines : List (DataLine codec loads))
    (ended : ∀ line ∈ lines.dropLast, line.payload.final = false) :
    Loadgen.streamCount loads (lines.map DataLine.chars) =
      lines.countP fun line => line.payload.generates := by
  induction lines with
  | nil => rfl
  | cons line lines ih =>
      have later := ih fun other member => ended other (by
        cases lines with
        | nil => cases member
        | cons next lines => exact List.mem_cons_of_mem line member)
      rw [List.map_cons, Loadgen.streamCount, line.readLine_chars, List.countP_cons, later]
      cases final : line.payload.final with
      | false => cases line.payload.generates <;> rfl
      | true =>
          have last : lines = [] := by
            by_contra more
            have member : line ∈ (line :: lines).dropLast := by
              rw [List.dropLast_cons_of_ne_nil more]
              exact List.mem_cons_self
            rw [ended line member] at final
            cases final
          subst last
          simp [DataPayload.generates_of_final final]

theorem contentTokens_foldl (lines : List (List Char)) (reading : BodyState.StreamReading) :
    (lines.foldl (BodyState.StreamReading.line codec) reading).contentTokens =
      reading.contentTokens + UInt32.ofNat (lines.countP (isContentLine codec)) := by
  induction lines generalizing reading with
  | nil => simp
  | cons line lines ih =>
      have step : (reading.line codec line).contentTokens =
          reading.contentTokens + UInt32.ofNat (if isContentLine codec line then 1 else 0) := by
        unfold BodyState.StreamReading.line isContentLine
        cases lineFrame codec line with
        | none => simp
        | some frame =>
            cases frame with
            | usage promptTokens completionTokens =>
                dsimp only
                split <;> simp
            | roleHeader | content | emptyContent | error | done => simp
      rw [List.foldl_cons, ih, step, List.countP_cons, Nat.add_comm _ (ite _ _ _),
        UInt32.ofNat_add, UInt32.add_assoc]

variable (stream : DataStream codec loads)

/-- The router's count of the stream. -/
theorem contentTokens_loopAll (p : BodyParams) (heap : Heap) :
    ((BodyState.fresh p heap).loopAll codec stream.polls).body.contentTokens.toNat =
      (stream.lines.countP fun line => line.payload.generates && !line.payload.hasRole) %
        2 ^ 32 := by
  have text : relay (BodyState.frameBytes stream.polls) =
      (stream.lines.map fun line => line.chars ++ ['\n']).flatten := by
    have encoded := (Utf8Relay.encode_relay stream.valid).trans stream.whole
    have decoded := congrArg fromUtf8 encoded
    rw [Utf8Relay.fromUtf8_encode, Utf8Relay.fromUtf8_encode] at decoded
    exact Option.some.inj decoded
  have areLines : ∀ line ∈ stream.lines.map fun line => line.chars ++ ['\n'],
      IsLine '\n' line := by
    intro line member
    obtain ⟨held, -, rfl⟩ := List.mem_map.mp member
    exact held.isLine_chars
  have split := LineBuffer.splitLines_flatten_append areLines []
  have sameLines : (isContentLine codec ∘ fun line : DataLine codec loads =>
      line.chars ++ ['\n']) = fun line => line.payload.generates && !line.payload.hasRole := by
    funext line
    rw [Function.comp_apply, line.isContentLine_chars]
  have nothing : BodyState.StreamReading.start.contentTokens = 0 := rfl
  have counted := congrArg BodyState.StreamReading.contentTokens
    (BodyState.loopAll_fresh codec p heap stream.polls).1
  rw [List.append_nil, LineBuffer.splitLines_nil, List.append_nil] at split
  rw [text, split, contentTokens_foldl, nothing, UInt32.zero_add, List.countP_map,
    sameLines] at counted
  have same : ((BodyState.fresh p heap).loopAll codec stream.polls).body.contentTokens =
      UInt32.ofNat _ := counted
  rw [same, UInt32.toNat_ofNat']

theorem countP_eq_add (lines : List (DataLine codec loads)) :
    (lines.countP fun line => line.payload.generates) =
      (lines.countP fun line => line.payload.generates && !line.payload.hasRole) +
        lines.countP fun line => line.payload.generates && line.payload.hasRole := by
  induction lines with
  | nil => rfl
  | cons line lines ih =>
      simp only [List.countP_cons]
      cases line.payload.generates <;> cases line.payload.hasRole <;> simp <;> omega

/-- The router's count is the client's exactly when no delta has both a role and
content, and the chunks with content do not overrun the counter. -/
theorem contentTokens_eq_iff (p : BodyParams) (heap : Heap) :
    ((BodyState.fresh p heap).loopAll codec stream.polls).body.contentTokens.toNat =
        Loadgen.streamCount loads (stream.lines.map DataLine.chars) ↔
      (∀ line ∈ stream.lines,
        ¬ (line.payload.generates = true ∧ line.payload.hasRole = true)) ∧
      (stream.lines.countP fun line => line.payload.generates) < 2 ^ 32 := by
  have split := countP_eq_add stream.lines
  have noneBoth : (∀ line ∈ stream.lines,
      ¬ (line.payload.generates = true ∧ line.payload.hasRole = true)) ↔
      (stream.lines.countP fun line => line.payload.generates && line.payload.hasRole) = 0 := by
    rw [List.countP_eq_zero]
    simp only [Bool.and_eq_true]
  rw [stream.contentTokens_loopAll, streamCount_lines stream.lines stream.ended, noneBoth]
  omega

end DataStream

/-- The two parts of the agreement: chunk by chunk, and over a stream. -/
structure Agreement (codec : Codec) (loads : Loadgen.Loads) : Prop where
  chunk : ∀ v, ((∃ text, classifyJson v = some (.content text)) ↔ generates v = true) ↔
    ¬ (generates v = true ∧ hasRole v = true)
  stream : ∀ (stream : DataStream codec loads) (p : BodyParams) (heap : Heap),
    ((BodyState.fresh p heap).loopAll codec stream.polls).body.contentTokens.toNat =
        Loadgen.streamCount loads (stream.lines.map DataLine.chars) ↔
      (∀ line ∈ stream.lines,
        ¬ (line.payload.generates = true ∧ line.payload.hasRole = true)) ∧
      (stream.lines.countP fun line => line.payload.generates) < 2 ^ 32

/-- Content is counted exactly where it does not come with a role. -/
theorem content_counted_iff (codec : Codec) (loads : Loadgen.Loads) : Agreement codec loads where
  chunk := content_iff_generates_iff
  stream := DataStream.contentTokens_eq_iff

/-! ## A delta with a role and content -/

def greetingText : List Char :=
  "\x7b\"choices\":[\x7b\"delta\":\x7b\"content\":\"Hi\",\"role\":\"assistant\"\x7d\x7d]\x7d".toList

def greeting : Value :=
  .object [("choices", .array [.object [("delta",
    .object [("content", .string "Hi"), ("role", .string "assistant")])]])]

def greetingLoads : Loadgen.Loads := fun text =>
  if text = greetingText then .ok greeting else .error .jsonDecodeError

theorem greetingLoads_greetingText : greetingLoads greetingText = .ok greeting := by
  unfold greetingLoads
  exact if_pos rfl

theorem wellShaped_greeting : WellShaped greeting := by
  refine .inr ⟨_, rfl, ?_⟩
  rintro first ⟨⟩
  refine ⟨_, rfl, ?_⟩
  rintro content ⟨⟩
  exact .inr ⟨"Hi", rfl⟩

def greetingLine : DataLine (.singleLine greetingText greeting) greetingLoads where
  lead := [' ']
  text := greetingText
  trail := []
  payload := .chunk greeting
  leading := List.all_eq_true.mp (by decide)
  trailing := List.all_eq_true.mp (by decide)
  unbroken := by decide
  held := ⟨rfl, rfl, Codec.fromStr_singleLine greetingText greeting, greetingLoads_greetingText,
    wellShaped_greeting⟩

def greetingStream : DataStream (.singleLine greetingText greeting) greetingLoads where
  lines := [greetingLine]
  ended := by simp
  polls := [⟨0, .frame (.data (encode (greetingLine.chars ++ ['\n'])))⟩]
  valid := by
    have frames : BodyState.frameBytes
        [⟨0, .frame (.data (encode (greetingLine.chars ++ ['\n'])))⟩] =
        [encode (greetingLine.chars ++ ['\n'])] := rfl
    rw [frames]
    intro data member
    rw [List.mem_singleton.mp member, Utf8Relay.fromUtf8_encode]
    rfl
  whole := by
    rw [List.map_singleton, List.flatten_singleton]
    exact List.flatten_singleton

/-- A first chunk that carries its role and a text is counted by the client
alone. -/
theorem greeting_goes_uncounted :
    ¬ ((∃ text, classifyJson greeting = some (.content text)) ↔ generates greeting = true) ∧
      ((BodyState.fresh (responseParams 200) dispatchedBackend).loopAll
          (.singleLine greetingText greeting) greetingStream.polls).body.contentTokens.toNat ≠
        Loadgen.streamCount greetingLoads (greetingStream.lines.map DataLine.chars) := by
  refine ⟨?_, ?_⟩
  · rw [content_iff_generates_iff]
    decide
  · rw [greetingStream.contentTokens_loopAll,
      DataStream.streamCount_lines _ greetingStream.ended]
    decide

end KeelRouter
