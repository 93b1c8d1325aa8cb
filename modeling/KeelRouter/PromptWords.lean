import KeelRouter.Cost
import KeelRouter.Inbound

/-!
# The words of a prompt

The contents of the messages are counted one by one and the counts are added
up.  By words, this is the count of all contents joined by spaces.  Contents
that are not strings are not counted, so a body in which some messages hold
their text in parts is charged for the other messages alone.
-/

namespace KeelRouter

open SerdeJson (Codec Value)

/-- The contents that are strings, in order. -/
def stringContents (messages : List Value) : List (List Char) :=
  messages.filterMap fun m => ((m.get "content").bind Value.asStr).map String.toList

def wordCount (texts : List (List Char)) : Nat :=
  (texts.map fun text => (UnicodeText.splitWhitespace text).length).sum

theorem wordCount_append (first second : List (List Char)) :
    wordCount (first ++ second) = wordCount first + wordCount second := by
  simp [wordCount]

theorem wordCount_eq_length (texts : List (List Char)) :
    wordCount texts = (texts.flatMap UnicodeText.splitWhitespace).length := by
  rw [wordCount, List.length_flatMap]

/-! ## The sum over the messages -/

theorem stringContents_cons (m : Value) (messages : List Value) :
    stringContents (m :: messages) =
      (((m.get "content").bind Value.asStr).map String.toList).toList ++
        stringContents messages := by
  unfold stringContents
  rw [List.filterMap_cons]
  cases (m.get "content").bind Value.asStr <;> rfl

theorem foldl_contents (counter : TokenCounter) (messages : List Value) (total : UInt32) :
    messages.foldl (fun total m =>
        match (m.get "content").bind Value.asStr with
        | some c => saturatingAdd total (counter.count c.toList)
        | none => total) total =
      ((stringContents messages).map counter.count).foldl saturatingAdd total := by
  induction messages generalizing total with
  | nil => rfl
  | cons m messages ih =>
      rw [List.foldl_cons, ih, stringContents_cons]
      cases (m.get "content").bind Value.asStr <;> rfl

theorem toNat_foldl_saturatingAdd (counts : List UInt32) (total : UInt32) :
    (counts.foldl saturatingAdd total).toNat =
      min (total.toNat + (counts.map UInt32.toNat).sum) (2 ^ 32 - 1) := by
  induction counts generalizing total with
  | nil =>
      have small := total.toNat_lt
      simp only [List.foldl_nil, List.map_nil, List.sum_nil]
      omega
  | cons count counts ih =>
      rw [List.foldl_cons, ih, toNat_saturatingAdd, List.map_cons, List.sum_cons]
      omega

theorem countPromptTokens_of_messages {v : Value} {messages : List Value}
    (listed : v.get "messages" = some (.array messages)) (counter : TokenCounter) :
    (countPromptTokens v counter).toNat =
      min ((stringContents messages).map fun text => (counter.count text).toNat).sum
        (2 ^ 32 - 1) := by
  have counted : countPromptTokens v counter =
      ((stringContents messages).map counter.count).foldl saturatingAdd 0 := by
    rw [← foldl_contents]
    unfold countPromptTokens
    rw [listed]
    rfl
  rw [counted, toNat_foldl_saturatingAdd, List.map_map]
  simp [Function.comp_def]

theorem min_sum_min (limit : Nat) (counts : List Nat) :
    min (counts.map fun count => min count limit).sum limit = min counts.sum limit := by
  induction counts with
  | nil => rfl
  | cons count counts ih =>
      rw [List.map_cons, List.sum_cons, List.sum_cons]
      omega

/-- By words, the messages count as many tokens as their strings have words together. -/
theorem countPromptTokens_of_whitespace {v : Value} {messages : List Value}
    {counter : TokenCounter} (byWords : counter.kind = .whitespace)
    (listed : v.get "messages" = some (.array messages)) :
    (countPromptTokens v counter).toNat =
      min (wordCount (stringContents messages)) (2 ^ 32 - 1) := by
  have perText : (fun text => (counter.count text).toNat) =
      fun text => min (UnicodeText.splitWhitespace text).length (2 ^ 32 - 1) :=
    funext fun text => TokenCounter.toNat_count byWords text
  have sum := min_sum_min (2 ^ 32 - 1) ((stringContents messages).map fun text =>
    (UnicodeText.splitWhitespace text).length)
  rw [List.map_map] at sum
  rw [countPromptTokens_of_messages listed, perText, wordCount, ← sum]
  rfl

/-! ## Messages with string contents -/

/-- The body lists messages whose contents are the given strings. -/
def HasContents (v : Value) (contents : List String) : Prop :=
  ∃ messages, v.get "messages" = some (.array messages) ∧
    messages.map (fun m => m.get "content") = contents.map fun content => some (.string content)

/-- The contents joined by single spaces. -/
def joinContents (contents : List String) : List Char :=
  [' '].intercalate (contents.map String.toList)

def contentWords (contents : List String) : List (List Char) :=
  (contents.map String.toList).flatMap UnicodeText.splitWhitespace

def Blank (content : String) : Prop :=
  ∀ char ∈ content.toList, UnicodeText.isWhitespace char = true

theorem stringContents_of_contents {messages : List Value} {contents : List String}
    (held : messages.map (fun m => m.get "content") =
      contents.map fun content => some (.string content)) :
    stringContents messages = contents.map String.toList := by
  have read : stringContents messages = (messages.map fun m => m.get "content").filterMap
      fun content => (content.bind Value.asStr).map String.toList := by
    rw [List.filterMap_map]
    rfl
  rw [read, held, List.filterMap_map]
  exact congrFun (List.filterMap_eq_map (f := String.toList)) contents

section Counting

variable {counter : TokenCounter} {v : Value} {contents : List String}

theorem toNat_countPromptTokens (byWords : counter.kind = .whitespace)
    (held : HasContents v contents) :
    (countPromptTokens v counter).toNat = min (contentWords contents).length (2 ^ 32 - 1) := by
  obtain ⟨messages, listed, contentsHeld⟩ := held
  rw [countPromptTokens_of_whitespace byWords listed, stringContents_of_contents contentsHeld,
    wordCount_eq_length, contentWords]

theorem countPromptTokens_eq_count_join (byWords : counter.kind = .whitespace)
    (held : HasContents v contents) :
    countPromptTokens v counter = counter.count (joinContents contents) := by
  apply UInt32.toNat_inj.mp
  rw [toNat_countPromptTokens byWords held, TokenCounter.toNat_count byWords, joinContents,
    UnicodeText.splitWhitespace_intercalate, contentWords]

/-- In either mode the count is zero exactly when every content is blank. -/
theorem countPromptTokens_eq_zero_iff (counter : TokenCounter) (held : HasContents v contents) :
    countPromptTokens v counter = 0 ↔ ∀ content ∈ contents, Blank content := by
  obtain ⟨messages, listed, contentsHeld⟩ := held
  have blank (content : String) : (counter.count content.toList).toNat = 0 ↔ Blank content := by
    rw [← UInt32.toNat_zero, UInt32.toNat_inj, TokenCounter.count_eq_zero_iff]
    exact UnicodeText.trim_eq_nil_iff
  have saturated (sum : Nat) : min sum (2 ^ 32 - 1) = 0 ↔ sum = 0 := by omega
  rw [← UInt32.toNat_inj, UInt32.toNat_zero, countPromptTokens_of_messages listed,
    stringContents_of_contents contentsHeld, saturated, List.sum_eq_zero_iff]
  simp [blank]

end Counting

/-- The messages are counted as if their contents were one text, in which the
words may stand in any message; bodies with nothing in them are rejected, and
no other one is projected as nothing. -/
structure CountedTogether (F : Type) [DecayNumber F] (counter : TokenCounter) (v : Value)
    (contents : List String) : Prop where
  joined : counter.kind = .whitespace →
    countPromptTokens v counter = counter.count (joinContents contents)
  redistributed : counter.kind = .whitespace → ∀ other otherContents,
    HasContents other otherContents → (contentWords contents).Perm (contentWords otherContents) →
      countPromptTokens v counter = countPromptTokens other counter
  zero : countPromptTokens v counter = 0 ↔ ∀ content ∈ contents, Blank content
  rejected : ∀ (codec : Codec) (bytes : List UInt8) (now : Instant) (hists : RouteHistograms F)
    (model : String), codec.fromSlice bytes = .ok v → v.get "model" = some (.string model) →
      (buildFeatures codec bytes now hists counter = .error (.badRequest "empty prompt") ↔
        ∀ content ∈ contents, Blank content)
  projected : ∀ (codec : Codec) (bytes : List UInt8) (now : Instant) (hists : RouteHistograms F)
    (features : RequestFeatures), codec.fromSlice bytes = .ok v →
      buildFeatures codec bytes now hists counter = .ok features → ∀ kvModel : KvModel,
        0 < (kvModel.project features.promptTokens features.expectedOutputTokens).toInt

theorem project_pos {promptTokens : UInt32} (counted : promptTokens ≠ 0) (kvModel : KvModel)
    (oHat : UInt32) : 0 < (kvModel.project promptTokens oHat).toInt := by
  have positive := UInt32.toNat_ne_zero counted
  rw [KvModel.toInt_project]
  cases kvModel with
  | promptOnly =>
      dsimp only
      omega
  | promptPlusOutput =>
      dsimp only
      omega

/-- Message boundaries neither merge nor split words. -/
theorem messages_counted_together {F : Type} [DecayNumber F] (counter : TokenCounter) {v : Value}
    {contents : List String} (held : HasContents v contents) :
    CountedTogether F counter v contents where
  joined byWords := countPromptTokens_eq_count_join byWords held
  redistributed byWords other otherContents otherHeld sameWords := by
    apply UInt32.toNat_inj.mp
    rw [toNat_countPromptTokens byWords held, toNat_countPromptTokens byWords otherHeld,
      sameWords.length_eq]
  zero := countPromptTokens_eq_zero_iff counter held
  rejected codec bytes now hists model parsed named := by
    rw [empty_prompt_iff parsed named]
    exact countPromptTokens_eq_zero_iff counter held
  projected codec bytes now hists features parsed built kvModel :=
    project_pos (promptTokens_ne_zero built) kvModel features.expectedOutputTokens

def namedChat (messages : List Value) : Value :=
  .object [("messages", .array messages), ("model", .string "m")]

/-- A chat whose messages are the given texts. -/
def textChat (contents : List String) : Value :=
  namedChat (contents.map fun content =>
    .object [("content", .string content), ("role", .string "user")])

theorem hasContents_textChat (contents : List String) :
    HasContents (textChat contents) contents := by
  refine ⟨_, rfl, ?_⟩
  rw [List.map_map]
  rfl

def scatteredContents : List String := ["  one\ttwo", " ", "three\n"]

/-- Three words in three messages, of which one is blank, are as many as they
are in two. -/
theorem messages_counted_together_scattered :
    CountedTogether ℝ ⟨.whitespace, 4⟩ (textChat scatteredContents) scatteredContents ∧
      countPromptTokens (textChat scatteredContents) ⟨.whitespace, 4⟩ =
        countPromptTokens (textChat ["one", "two three"]) ⟨.whitespace, 4⟩ ∧
      (countPromptTokens (textChat scatteredContents) ⟨.whitespace, 4⟩).toNat = 3 := by
  have together : CountedTogether ℝ ⟨.whitespace, 4⟩ (textChat scatteredContents)
      scatteredContents :=
    messages_counted_together ⟨.whitespace, 4⟩ (hasContents_textChat scatteredContents)
  have sameWords : contentWords scatteredContents = contentWords ["one", "two three"] := by
    decide +kernel
  refine ⟨together, ?_, ?_⟩
  · exact together.redistributed rfl _ _ (hasContents_textChat _) (.of_eq sameWords)
  · rw [toNat_countPromptTokens rfl (hasContents_textChat _)]
    decide +kernel

/-! ## Contents in parts -/

/-- The text of a part, if it is a text part. -/
def partText (part : Value) : Option (List Char) :=
  if (part.get "type").bind Value.asStr = some "text" then
    ((part.get "text").bind Value.asStr).map String.toList
  else none

/-- The texts of the contents that are lists of parts. -/
def partContents (messages : List Value) : List (List Char) :=
  messages.flatMap fun m =>
    (((m.get "content").bind Value.asArray).getD []).filterMap partText

/-- The texts of a message: its content, or the text parts of its content. -/
def messageTexts (m : Value) : List (List Char) :=
  match m.get "content" with
  | some (.string content) => [content.toList]
  | some (.array parts) => parts.filterMap partText
  | _ => []

theorem wordCount_messageTexts (messages : List Value) :
    wordCount (messages.flatMap messageTexts) =
      wordCount (stringContents messages) + wordCount (partContents messages) := by
  induction messages with
  | nil => rfl
  | cons m messages ih =>
      have own : wordCount (messageTexts m) =
          wordCount (((m.get "content").bind Value.asStr).map String.toList).toList +
            wordCount ((((m.get "content").bind Value.asArray).getD []).filterMap partText) := by
        unfold messageTexts
        cases m.get "content" with
        | none => rfl
        | some content => cases content <;> simp [Value.asStr, Value.asArray, wordCount]
      have parts : partContents (m :: messages) =
          (((m.get "content").bind Value.asArray).getD []).filterMap partText ++
            partContents messages := List.flatMap_cons
      rw [List.flatMap_cons, stringContents_cons, parts, wordCount_append, wordCount_append,
        wordCount_append, ih, own]
      omega

/-- The prompt of a request is charged for all words of its messages, as far as
the count goes. -/
structure ChargesEveryWord (messages : List Value) (features : RequestFeatures) : Prop where
  promptTokens : features.promptTokens.toNat =
    min (wordCount (messages.flatMap messageTexts)) (2 ^ 32 - 1)
  projected : ∀ kvModel : KvModel,
    ((min (wordCount (messages.flatMap messageTexts)) (2 ^ 32 - 1) : ℕ) : ℤ) ≤
      (kvModel.project features.promptTokens features.expectedOutputTokens).toInt

theorem promptTokens_le_project (kvModel : KvModel) (promptTokens oHat : UInt32) :
    (promptTokens.toNat : ℤ) ≤ (kvModel.project promptTokens oHat).toInt := by
  rw [KvModel.toInt_project]
  cases kvModel with
  | promptOnly => exact le_rfl
  | promptPlusOutput =>
      dsimp only
      omega

/-- An accepted chat is charged for every word exactly when its text parts have
no words, or its string contents have as many as can be counted. -/
theorem every_word_charged_iff {F : Type} [DecayNumber F] {codec : Codec} {bytes : List UInt8}
    {now : Instant} {hists : RouteHistograms F} {counter : TokenCounter}
    {features : RequestFeatures} {v : Value} {messages : List Value}
    (byWords : counter.kind = .whitespace) (parsed : codec.fromSlice bytes = .ok v)
    (chat : v.get "messages" = some (.array messages))
    (built : buildFeatures codec bytes now hists counter = .ok features) :
    ChargesEveryWord messages features ↔
      wordCount (partContents messages) = 0 ∨
        2 ^ 32 - 1 ≤ wordCount (stringContents messages) := by
  obtain ⟨-, counted, -⟩ := buildFeatures_eq_ok parsed built
  have strings : features.promptTokens.toNat =
      min (wordCount (stringContents messages)) (2 ^ 32 - 1) := by
    rw [counted, countPromptTokens_of_whitespace byWords chat]
  have total := wordCount_messageTexts messages
  constructor
  · intro charges
    have exact := charges.promptTokens
    omega
  · intro enough
    have exact : features.promptTokens.toNat =
        min (wordCount (messages.flatMap messageTexts)) (2 ^ 32 - 1) := by
      omega
    refine ⟨exact, ?_⟩
    intro kvModel
    have least := promptTokens_le_project kvModel features.promptTokens
      features.expectedOutputTokens
    rwa [exact] at least

theorem buildFeatures_namedChat {messages : List Value} (bytes : List UInt8)
    (counted : countPromptTokens (namedChat messages) ⟨.whitespace, 4⟩ = 1) :
    buildFeatures (.single bytes (namedChat messages) []) bytes 0 (RouteHistograms.new (300 : ℝ))
      ⟨.whitespace, 4⟩ = .ok ⟨"m", 1, true, 128, none, none, false, 0⟩ := by
  unfold buildFeatures
  rw [SerdeJson.Codec.fromSlice_single]
  dsimp only
  unfold featuresOf
  rw [counted]
  rfl

/-- A greeting, and a message in parts, whose text part is blank. -/
def blankPartMessages : List Value := [
  .object [("content", .string "hi"), ("role", .string "system")],
  .object [
    ("content", .array [
      .object [("text", .string " \n"), ("type", .string "text")],
      .object [("image_url", .object [("url", .string "two words")]),
        ("type", .string "image_url")]]),
    ("role", .string "user")]]

def blankPartBytes : List UInt8 :=
  let text := "\x7b\"messages\":[\x7b\"content\":\"hi\",\"role\":\"system\"\x7d," ++
    "\x7b\"content\":[\x7b\"text\":\" \\n\",\"type\":\"text\"\x7d," ++
    "\x7b\"image_url\":\x7b\"url\":\"two words\"\x7d,\"type\":\"image_url\"\x7d]," ++
    "\"role\":\"user\"\x7d],\"model\":\"m\"\x7d"
  text.toList.map fun char => UInt8.ofNat char.toNat

theorem every_word_charged_blank_part :
    ChargesEveryWord blankPartMessages ⟨"m", 1, true, 128, none, none, false, 0⟩ := by
  have counted : countPromptTokens (namedChat blankPartMessages) ⟨.whitespace, 4⟩ = 1 := by
    change saturatingAdd 0 (TokenCounter.count ⟨.whitespace, 4⟩ "hi".toList) = 1
    decide
  have wordless : wordCount (partContents blankPartMessages) = 0 := by decide +kernel
  exact (every_word_charged_iff rfl (SerdeJson.Codec.fromSlice_single blankPartBytes _ _) rfl
    (buildFeatures_namedChat _ counted)).mpr (.inl wordless)

/-- A greeting, and a message that holds its three words in a text part. -/
def partsMessages : List Value := [
  .object [("content", .string "hi"), ("role", .string "system")],
  .object [
    ("content", .array [.object [("text", .string "one two three"), ("type", .string "text")]]),
    ("role", .string "user")]]

def partsBytes : List UInt8 :=
  let text := "\x7b\"messages\":[\x7b\"content\":\"hi\",\"role\":\"system\"\x7d," ++
    "\x7b\"content\":[\x7b\"text\":\"one two three\",\"type\":\"text\"\x7d]," ++
    "\"role\":\"user\"\x7d],\"model\":\"m\"\x7d"
  text.toList.map fun char => UInt8.ofNat char.toNat

theorem parts_not_charged :
    ∃ features, buildFeatures
        (.single partsBytes (.object [("messages", .array partsMessages), ("model", .string "m")])
          []) partsBytes 0 (RouteHistograms.new (300 : ℝ)) ⟨.whitespace, 4⟩ = .ok features ∧
      ¬ ChargesEveryWord partsMessages features := by
  have counted : countPromptTokens
      (.object [("messages", .array partsMessages), ("model", .string "m")])
      ⟨.whitespace, 4⟩ = 1 := by
    change saturatingAdd 0 (TokenCounter.count ⟨.whitespace, 4⟩ "hi".toList) = 1
    decide
  refine ⟨⟨"m", 1, true, 128, none, none, false, 0⟩, buildFeatures_namedChat _ counted, ?_⟩
  intro charges
  have words : wordCount (partsMessages.flatMap messageTexts) = 4 := by decide
  have claimed := charges.promptTokens
  rw [words] at claimed
  exact absurd claimed (by decide)

end KeelRouter
