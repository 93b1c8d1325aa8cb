import KeelRouter.LoadRun
import Mathlib.Algebra.Order.Floor.Ring

/-!
# The trace generator

The generator draws the times, the lengths and the words of a trace.  A prompt has the
words that were asked for, unless there were none, or too few for a shared prefix with
a word of its own.  The lengths that are recorded beside a prompt are those that were
asked for.
-/

namespace KeelRouter

namespace TraceGenerator

/-! ## Draws -/

/-- A word of the vocabulary, six lowercase letters. -/
structure Word where
  text : List Char
  length : text.length = 6
  lower : ∀ char ∈ text, char.isLower = true

/-- What is drawn for a request. -/
structure Draws where
  /-- `rng.expovariate(rate_per_sec)`, which is negative for a negative rate. -/
  gap : ℚ
  /-- `rng.random()` in `sample_lengths` -/
  coin : ℚ
  outputLength : ℚ
  promptLength : ℚ
  /-- `rng.random()` beside `shared_prefix_frac` -/
  sharing : ℚ
  /-- The choices of a prefix and of words. -/
  choice : ℕ
  words : ℕ → Word

inductive Kind where
  | uniform
  | bimodal
  | lognormal
deriving DecidableEq

inductive BackendMode where
  | echo
  | real
deriving DecidableEq

/-- The options; a pool or a prefix of a negative size is empty. -/
structure Args where
  kind : Kind
  backendMode : BackendMode
  outMin : ℤ
  outMax : ℤ
  promptMin : ℤ
  promptMax : ℤ
  uniformPrompt : ℤ
  uniformOutput : ℤ
  sharedPrefixFrac : ℚ
  sharedPrefixPool : ℕ
  sharedPrefixLen : ℕ

/-- A request of the trace, with what is recorded beside it. -/
structure Entry where
  offsetMs : ℤ
  prompt : List Char
  maxTokens : ℤ
  promptTokens : ℤ
  expectedOutput : ℤ
  shared : Bool
deriving DecidableEq

/-! ## Generating -/

/-- `round(value)`, to an even number from the middle of two -/
def roundHalfEven (value : ℚ) : ℤ :=
  let rest := value - ⌊value⌋
  if rest < 1 / 2 ∨ (rest = 1 / 2 ∧ ⌊value⌋ % 2 = 0) then ⌊value⌋ else ⌊value⌋ + 1

def lognormalClipped (v : ℚ) (lo hi : ℤ) : ℤ := roundHalfEven (max (lo : ℚ) (min (hi : ℚ) v))

/-- `" ".join(words)` -/
def joined (words : List Word) : List Char := [' '].intercalate (words.map Word.text)

def choices (words : ℕ → Word) (count : ℕ) : List Word := (List.range count).map words

def makePrompt (words : ℕ → Word) (nWords : ℤ) (sharedPrefix : Option (List Char)) : List Char :=
  let nWords := (max 1 nWords).toNat
  match sharedPrefix.filter fun text => !text.isEmpty with
  | some text =>
      let preLen := (Loadgen.split text).length
      text ++ ' ' :: joined (choices words (max 1 (nWords - preLen)))
  | none => joined (choices words nWords)

/-- The lengths of a prompt and of its output. -/
def sampleLengths (args : Args) (draws : Draws) : ℤ × ℤ :=
  match args.kind with
  | .uniform => (args.uniformPrompt, args.uniformOutput)
  | .bimodal => if draws.coin < 4 / 5 then (50, 50) else (800, 800)
  | .lognormal =>
      let o := lognormalClipped draws.outputLength args.outMin args.outMax
      match args.backendMode with
      | .echo => (o, o)
      | .real => (lognormalClipped draws.promptLength args.promptMin args.promptMax, o)

/-- The pool of shared prefixes. -/
def prefixes (args : Args) (pool : ℕ → ℕ → Word) : List (List Char) :=
  if 0 < args.sharedPrefixFrac then
    (List.range args.sharedPrefixPool).map fun i => joined (choices (pool i) args.sharedPrefixLen)
  else []

/-- The prefix of a request. -/
def chosenPrefix (args : Args) (pool : List (List Char)) (draws : Draws) : Option (List Char) :=
  if pool ≠ [] ∧ draws.sharing < args.sharedPrefixFrac then pool[draws.choice % pool.length]?
  else none

/-- The request of one round of the loop, at a time. -/
def generate (args : Args) (pool : List (List Char)) (t : ℚ) (draws : Draws) : Entry :=
  let (pWant, oWant) := sampleLengths args draws
  let pre := chosenPrefix args pool draws
  let (maxTokens, expectedOutput) :=
    match args.backendMode with
    | .echo => (pWant + 50, pWant)
    | .real => (oWant, oWant)
  { offsetMs := roundHalfEven (t * 1000)
    prompt := makePrompt draws.words pWant pre
    maxTokens
    promptTokens := pWant
    expectedOutput
    shared := pre.any fun text => !text.isEmpty }

/-- The loop, from a time on. -/
def generateFrom (args : Args) (pool : List (List Char)) : ℚ → List Draws → List Entry
  | _, [] => []
  | t, draws :: others =>
      let t := t + draws.gap
      generate args pool t draws :: generateFrom args pool t others

def generateTrace (args : Args) (pool : ℕ → ℕ → Word) (draws : List Draws) : List Entry :=
  generateFrom args (prefixes args pool) 0 draws

/-! ## Times -/

theorem floor_le_roundHalfEven (value : ℚ) : ⌊value⌋ ≤ roundHalfEven value := by
  unfold roundHalfEven
  dsimp only
  split <;> omega

theorem roundHalfEven_le (value : ℚ) : roundHalfEven value ≤ ⌊value⌋ + 1 := by
  unfold roundHalfEven
  dsimp only
  split <;> omega

theorem roundHalfEven_mono {first second : ℚ} (le : first ≤ second) :
    roundHalfEven first ≤ roundHalfEven second := by
  rcases (Int.floor_le_floor le).lt_or_eq with lower | same
  · calc roundHalfEven first ≤ ⌊first⌋ + 1 := roundHalfEven_le first
      _ ≤ ⌊second⌋ := lower
      _ ≤ roundHalfEven second := floor_le_roundHalfEven second
  · by_cases up : roundHalfEven second = ⌊second⌋
    · have down : second - ⌊second⌋ < 1 / 2 ∨ (second - ⌊second⌋ = 1 / 2 ∧ ⌊second⌋ % 2 = 0) := by
        by_contra other
        have raised : roundHalfEven second = ⌊second⌋ + 1 := if_neg other
        omega
      have firstDown : first - ⌊first⌋ < 1 / 2 ∨ (first - ⌊first⌋ = 1 / 2 ∧ ⌊first⌋ % 2 = 0) := by
        rw [same]
        rcases down with less | ⟨half, even⟩
        · exact .inl (by linarith)
        · rcases le.lt_or_eq with less | rfl
          · exact .inl (by linarith)
          · exact .inr ⟨half, even⟩
      have kept : roundHalfEven first = ⌊first⌋ := if_pos firstDown
      rw [kept, up, same]
    · have low := floor_le_roundHalfEven second
      have high := roundHalfEven_le first
      omega

theorem roundHalfEven_intCast (value : ℤ) : roundHalfEven value = value := by
  simp [roundHalfEven]

theorem lognormalClipped_bounds (v : ℚ) {lo hi : ℤ} (ordered : lo ≤ hi) :
    lo ≤ lognormalClipped v lo hi ∧ lognormalClipped v lo hi ≤ hi := by
  have bounds : (lo : ℚ) ≤ hi := by exact_mod_cast ordered
  have low : (lo : ℚ) ≤ max (lo : ℚ) (min (hi : ℚ) v) := le_max_left _ _
  have high : max (lo : ℚ) (min (hi : ℚ) v) ≤ hi := max_le bounds (min_le_left _ _)
  have lowRounded := roundHalfEven_mono low
  have highRounded := roundHalfEven_mono high
  rw [roundHalfEven_intCast] at lowRounded highRounded
  exact ⟨lowRounded, highRounded⟩

/-- What is generated from a time on is not earlier. -/
theorem offsetMs_of_mem {args : Args} {pool : List (List Char)} {t : ℚ} {draws : List Draws}
    (gaps : ∀ draw ∈ draws, 0 ≤ draw.gap) {entry : Entry}
    (member : entry ∈ generateFrom args pool t draws) :
    roundHalfEven (t * 1000) ≤ entry.offsetMs := by
  induction draws generalizing t with
  | nil => cases member
  | cons draw draws ih =>
      have later : t * 1000 ≤ (t + draw.gap) * 1000 := by linarith [gaps draw List.mem_cons_self]
      rcases List.mem_cons.mp member with rfl | listed
      · exact roundHalfEven_mono later
      · exact (roundHalfEven_mono later).trans
          (ih (fun other drawn => gaps other (List.mem_cons_of_mem draw drawn)) listed)

theorem pairwise_generateFrom (args : Args) (pool : List (List Char)) (t : ℚ)
    {draws : List Draws} (gaps : ∀ draw ∈ draws, 0 ≤ draw.gap) :
    (generateFrom args pool t draws).Pairwise fun first second =>
      first.offsetMs ≤ second.offsetMs := by
  induction draws generalizing t with
  | nil => exact .nil
  | cons draw draws ih =>
      have rest : ∀ other ∈ draws, 0 ≤ other.gap := fun other drawn =>
        gaps other (List.mem_cons_of_mem draw drawn)
      apply List.Pairwise.cons
      · intro entry listed
        exact offsetMs_of_mem rest listed
      · exact ih _ rest

theorem length_generateFrom (args : Args) (pool : List (List Char)) (t : ℚ)
    (draws : List Draws) : (generateFrom args pool t draws).length = draws.length := by
  induction draws generalizing t with
  | nil => rfl
  | cons draw draws ih => exact congrArg (· + 1) (ih _)

theorem exists_generate {args : Args} {pool : List (List Char)} {t : ℚ} {draws : List Draws}
    {entry : Entry} (member : entry ∈ generateFrom args pool t draws) :
    ∃ time draw, entry = generate args pool time draw := by
  induction draws generalizing t with
  | nil => cases member
  | cons draw draws ih =>
      rcases List.mem_cons.mp member with rfl | listed
      · exact ⟨_, draw, rfl⟩
      · exact ih listed

/-! ## Words -/

/-- The two notions of white space agree on a text. -/
def IsPlain (text : List Char) : Prop :=
  ∀ char ∈ text, Loadgen.isSpace char = UnicodeText.isWhitespace char

-- Over a text, not over all characters.
instance (text : List Char) : Decidable (IsPlain text) :=
  List.decidableBAll (fun char => Loadgen.isSpace char = UnicodeText.isWhitespace char) text

/-- Where they agree, the words are the same. -/
theorem split_of_isPlain {text : List Char} (plain : IsPlain text) :
    Loadgen.split text = UnicodeText.splitWhitespace text := by
  have pieces : text.splitOnP Loadgen.isSpace = text.splitOnP UnicodeText.isWhitespace := by
    induction text with
    | nil => rfl
    | cons char text ih =>
        have rest := ih fun other member => plain other (List.mem_cons_of_mem char member)
        rw [List.splitOnP_cons_eq_if_modifyHead, List.splitOnP_cons_eq_if_modifyHead, rest,
          plain char List.mem_cons_self]
  unfold Loadgen.split UnicodeText.splitWhitespace
  rw [pieces]

theorem IsPlain.append {first second : List Char} (left : IsPlain first) (right : IsPlain second) :
    IsPlain (first ++ second) := by
  intro char member
  rcases List.mem_append.mp member with inFirst | inSecond
  · exact left char inFirst
  · exact right char inSecond

theorem not_isSpace_of_isLower {char : Char} (lower : char.isLower = true) :
    Loadgen.isSpace char = false := by
  obtain ⟨above, below⟩ := Bool.and_eq_true_iff.mp lower
  have first : 97 ≤ char.toNat := UInt32.le_iff_toNat_le.mp (of_decide_eq_true above)
  have last : char.toNat ≤ 122 := UInt32.le_iff_toNat_le.mp (of_decide_eq_true below)
  simp [Loadgen.isSpace, UnicodeText.isWhitespace]
  omega

theorem Word.isPlain (word : Word) : IsPlain word.text := by
  intro char member
  have visible := not_isSpace_of_isLower (word.lower char member)
  rw [visible]
  exact (DataLine.not_isWhitespace visible).symm

theorem Word.splitWhitespace (word : Word) :
    UnicodeText.splitWhitespace word.text = [word.text] := by
  have unbroken : ∀ char ∈ word.text, UnicodeText.isWhitespace char = false := fun char member =>
    DataLine.not_isWhitespace (not_isSpace_of_isLower (word.lower char member))
  have nonempty : word.text ≠ [] := by
    intro empty
    have length := word.length
    rw [empty] at length
    cases length
  unfold UnicodeText.splitWhitespace
  rw [List.splitOnP_eq_singleton unbroken]
  simp [nonempty]

theorem isPlain_joined (words : List Word) : IsPlain (joined words) := by
  unfold joined
  induction words with
  | nil => nofun
  | cons word words ih =>
      cases words with
      | nil => simpa using word.isPlain
      | cons next words =>
          have space : IsPlain [' '] := by
            intro char member
            rw [List.mem_singleton.mp member]
            decide
          rw [List.map_cons, List.map_cons, List.intercalate_cons_cons]
          exact (word.isPlain.append space).append ih

theorem splitWhitespace_joined (words : List Word) :
    UnicodeText.splitWhitespace (joined words) = words.map Word.text := by
  unfold joined
  rw [UnicodeText.splitWhitespace_intercalate, List.flatMap_map]
  simp only [Word.splitWhitespace]
  exact List.flatMap_pure_eq_map Word.text words

theorem split_joined (words : List Word) :
    Loadgen.split (joined words) = words.map Word.text := by
  rw [split_of_isPlain (isPlain_joined words), splitWhitespace_joined]

theorem length_choices (words : ℕ → Word) (count : ℕ) : (choices words count).length = count := by
  simp [choices]

/-- A text that words are joined in. -/
def IsJoined (text : List Char) (count : ℕ) : Prop :=
  ∃ words : List Word, text = joined words ∧ words.length = count

theorem isPlain_makePrompt (words : ℕ → Word) (nWords : ℤ) {sharedPrefix : Option (List Char)}
    {count : ℕ} (known : ∀ text ∈ sharedPrefix, IsJoined text count) :
    IsPlain (makePrompt words nWords sharedPrefix) := by
  unfold makePrompt
  dsimp only
  cases shared : sharedPrefix.filter fun text => !text.isEmpty with
  | none => exact isPlain_joined _
  | some text =>
      obtain ⟨joinedWords, rfl, -⟩ := known text (Option.filter_eq_some_iff.mp shared).1
      have space : IsPlain [' '] := by
        intro char member
        rw [List.mem_singleton.mp member]
        decide
      exact (isPlain_joined _).append (space.append (isPlain_joined _))

/-- The words of a prompt. -/
theorem length_split_makePrompt (words : ℕ → Word) (nWords : ℤ)
    {sharedPrefix : Option (List Char)} {count : ℕ}
    (known : ∀ text ∈ sharedPrefix, IsJoined text count) :
    ((Loadgen.split (makePrompt words nWords sharedPrefix)).length : ℤ) =
      if sharedPrefix.any fun text => !text.isEmpty then max nWords (count + 1)
      else max 1 nWords := by
  have plain := isPlain_makePrompt words nWords known
  rw [split_of_isPlain plain]
  unfold makePrompt
  dsimp only
  cases shared : sharedPrefix.filter fun text => !text.isEmpty with
  | none =>
      have unshared : (sharedPrefix.any fun text => !text.isEmpty) = false := by
        cases sharedPrefix with
        | none => rfl
        | some text => simpa using shared
      rw [unshared, splitWhitespace_joined, List.length_map, length_choices]
      simp
  | some text =>
      obtain ⟨rfl, nonempty⟩ := Option.filter_eq_some_iff.mp shared
      obtain ⟨joinedWords, rfl, own⟩ := known text rfl
      have positive : 0 < count := by
        rw [← own, List.length_pos_iff]
        rintro rfl
        cases nonempty
      have present : ((some (joined joinedWords)).any fun text => !text.isEmpty) = true := nonempty
      rw [present, if_pos rfl]
      dsimp only
      rw [UnicodeText.splitWhitespace_append (by decide), List.length_append,
        splitWhitespace_joined, split_joined, splitWhitespace_joined, List.length_map,
        List.length_map, length_choices, own]
      omega

theorem isJoined_of_chosenPrefix {args : Args} {words : ℕ → ℕ → Word} {draws : Draws}
    {text : List Char} (chosen : text ∈ chosenPrefix args (prefixes args words) draws) :
    IsJoined text args.sharedPrefixLen := by
  unfold chosenPrefix at chosen
  split at chosen
  · have listed := List.mem_of_getElem? chosen
    unfold prefixes at listed
    split at listed
    · obtain ⟨i, -, rfl⟩ := List.mem_map.mp listed
      exact ⟨_, rfl, length_choices _ _⟩
    · cases listed
  · cases chosen

/-! ## Traces -/

/-- What a request of a trace has. -/
structure IsMeasured (args : Args) (entry : Entry) : Prop where
  plain : IsPlain entry.prompt
  words : ((Loadgen.split entry.prompt).length : ℤ) =
    if entry.shared then max entry.promptTokens (args.sharedPrefixLen + 1)
    else max 1 entry.promptTokens
  echo : args.backendMode = .echo →
    entry.expectedOutput = entry.promptTokens ∧ entry.maxTokens = entry.promptTokens + 50
  output : args.kind = .lognormal → args.outMin ≤ args.outMax →
    args.outMin ≤ entry.expectedOutput ∧ entry.expectedOutput ≤ args.outMax
  prompt : args.kind = .lognormal → args.backendMode = .real → args.promptMin ≤ args.promptMax →
    args.promptMin ≤ entry.promptTokens ∧ entry.promptTokens ≤ args.promptMax

theorem isMeasured_generate (args : Args) (words : ℕ → ℕ → Word) (t : ℚ) (draws : Draws) :
    IsMeasured args (generate args (prefixes args words) t draws) where
  plain := isPlain_makePrompt _ _ fun _ chosen => isJoined_of_chosenPrefix chosen
  words := length_split_makePrompt _ _ fun _ chosen => isJoined_of_chosenPrefix chosen
  echo echoes := by
    simp [generate, echoes]
  output drawn ordered := by
    have bounds := lognormalClipped_bounds draws.outputLength ordered
    cases mode : args.backendMode <;> simpa [generate, sampleLengths, drawn, mode] using bounds
  prompt drawn real ordered := by
    have bounds := lognormalClipped_bounds draws.promptLength ordered
    simpa [generate, sampleLengths, drawn, real] using bounds

/-- Every trace without a negative gap is in the order of its times, and every prompt has
the words that are recorded for it, unless there are none, or no more than in the prefix
that it shares. -/
theorem generated_traces_are_measured (args : Args) (words : ℕ → ℕ → Word) (draws : List Draws) :
    let trace := generateTrace args words draws
    trace.length = draws.length ∧
    ((∀ draw ∈ draws, 0 ≤ draw.gap) →
      (∀ entry ∈ trace, 0 ≤ entry.offsetMs) ∧
        trace.Pairwise fun first second => first.offsetMs ≤ second.offsetMs) ∧
    (∀ entry ∈ trace, IsMeasured args entry) ∧
    ∀ entry ∈ trace, ((Loadgen.split entry.prompt).length : ℤ) = entry.promptTokens ↔
      1 ≤ entry.promptTokens ∧ (entry.shared = true → args.sharedPrefixLen < entry.promptTokens) := by
  intro trace
  have measured : ∀ entry ∈ trace, IsMeasured args entry := by
    intro entry listed
    obtain ⟨time, draw, rfl⟩ := exists_generate listed
    exact isMeasured_generate args words time draw
  refine ⟨length_generateFrom _ _ _ _, fun gaps => ⟨?_, pairwise_generateFrom _ _ _ gaps⟩,
    measured, ?_⟩
  · intro entry listed
    have later := offsetMs_of_mem gaps listed
    rwa [zero_mul, ← Int.cast_zero, roundHalfEven_intCast] at later
  · intro entry listed
    rw [(measured entry listed).words]
    cases entry.shared with
    | false =>
        simp only [Bool.false_eq_true, if_false, false_implies, and_true]
        omega
    | true =>
        simp only [if_true, true_implies]
        omega

/-! ## A prefix with three words -/

def letters : Word := ⟨"abcdef".toList, rfl, List.all_eq_true.mp (by decide)⟩

def sharingArgs : Args where
  kind := .lognormal
  backendMode := .real
  outMin := 20
  outMax := 3000
  promptMin := 2
  promptMax := 4000
  uniformPrompt := 100
  uniformOutput := 100
  sharedPrefixFrac := 1 / 2
  sharedPrefixPool := 5
  sharedPrefixLen := 3

/-- Two words are asked for beside the prefix, and four without it. -/
def sharingDraws : List Draws :=
  [⟨1 / 4, 0, 120, 1, 0, 7, fun _ => letters⟩, ⟨1 / 2, 0, 5000, 4, 3 / 4, 0, fun _ => letters⟩]

theorem generated_traces_are_measured_shared :
    let trace := generateTrace sharingArgs (fun _ _ => letters) sharingDraws
    trace.map (fun entry => (entry.offsetMs, entry.shared, entry.promptTokens,
        entry.expectedOutput)) = [(250, true, 2, 120), (750, false, 4, 3000)] ∧
      (∀ entry ∈ trace, 0 ≤ entry.offsetMs) ∧
      ∀ entry ∈ trace, ((Loadgen.split entry.prompt).length : ℤ) = entry.promptTokens ↔
        entry.shared = false := by
  intro trace
  have recorded : trace.map (fun entry => (entry.offsetMs, entry.shared, entry.promptTokens,
      entry.expectedOutput)) = [(250, true, 2, 120), (750, false, 4, 3000)] := by
    decide +kernel
  obtain ⟨-, ordered, -, counted⟩ :=
    generated_traces_are_measured sharingArgs (fun _ _ => letters) sharingDraws
  have unshared : ∀ entry ∈ trace, (1 ≤ entry.promptTokens ∧
      (entry.shared = true → (sharingArgs.sharedPrefixLen : ℤ) < entry.promptTokens)) ↔
        entry.shared = false := by
    decide +kernel
  exact ⟨recorded, (ordered (by decide +kernel)).1,
    fun entry listed => (counted entry listed).trans (unshared entry listed)⟩

end TraceGenerator

end KeelRouter
