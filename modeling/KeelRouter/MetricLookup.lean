import KeelRouter.ExpositionGrammar
import KeelRouter.LabelScan

/-!
# Looking up a metric

A metric is looked up by the start of a line and by what follows the first
braces on it.  On the lines of an exposition this only ever finds a sample of
the metric itself, with its own value.  It misses the samples that have a time
stamp and those with a closing brace in the value of a label.
-/

namespace KeelRouter

open Exposition
open NumberText (parseFloat isFloatChar)
open UnicodeText (isWhitespace trim trimStart)

/-! ## Characters -/

theorem not_isWhitespace_of_toNat {char : Char}
    (visible : 43 ≤ char.toNat ∧ char.toNat ≤ 122) : isWhitespace char = false := by
  simp only [isWhitespace, Bool.or_eq_false_iff, Bool.and_eq_false_iff, beq_eq_false_iff_ne,
    decide_eq_false_iff_not]
  omega

theorem not_isWhitespace_of_isMetricChar {char : Char} (metric : isMetricChar char = true) :
    isWhitespace char = false := by
  have bounds := toNat_of_isMetricChar metric
  exact not_isWhitespace_of_toNat (by omega)

theorem not_isWhitespace_of_isNumberChar {char : Char} (number : isNumberChar char = true) :
    isWhitespace char = false :=
  not_isWhitespace_of_toNat (toNat_of_isNumberChar number)

theorem isWhitespace_of_mem (blanks : Blanks) :
    ∀ char ∈ blanks.val, isWhitespace char = true := by
  intro char member
  rcases eq_of_isBlank (blanks.property char member) with rfl | rfl <;> decide

/-! ## The parts of a sample -/

section Parts

variable (sample : Sample)

theorem exists_name_cons : ∃ first rest, sample.name = first :: rest ∧
    isMetricChar first = true := by
  obtain ⟨metricChars, first, rest, spelled, -⟩ := sample.named
  exact ⟨first, rest, spelled, metricChars first (by simp [spelled])⟩

theorem number_ne_nil : sample.number ≠ [] := by
  intro empty
  exact sample.numeric.1 (List.append_eq_nil_iff.mp empty).1

theorem number_head : ∀ char ∈ sample.number.head?, isWhitespace char = false := by
  intro char member
  rw [Sample.number, List.head?_append_of_ne_nil _ sample.numeric.1] at member
  exact not_isWhitespace_of_isNumberChar
    (sample.numeric.2 char (List.mem_of_mem_head? member))

theorem number_last : ∀ char ∈ sample.number.getLast?, isWhitespace char = false := by
  intro char member
  unfold Sample.number at member
  cases stamped : sample.timestamp with
  | none =>
      rw [stamped] at member
      have member : char ∈ (sample.value ++ []).getLast? := member
      rw [List.append_nil] at member
      exact not_isWhitespace_of_isNumberChar
        (sample.numeric.2 char (List.mem_of_mem_getLast? member))
  | some timestamp =>
      rw [stamped] at member
      have member : char ∈ (sample.value ++ (timestamp.gap.val ++
        (if timestamp.negative then ['-'] else []) ++ timestamp.digits)).getLast? := member
      rw [← List.append_assoc, List.getLast?_append,
        Option.or_of_isSome (by simpa using timestamp.numeric.1)] at member
      exact not_isWhitespace_of_isNumberChar (isNumberChar_of_isDigit
        (timestamp.numeric.2 char (List.mem_of_mem_getLast? member)))

/-- After the name of a metric comes a blank or a brace. -/
theorem exists_afterName_cons : ∃ first rest, sample.afterName = first :: rest ∧
    (first = '{' ∨ isBlank first = true) := by
  unfold Sample.afterName
  cases braced : sample.braces with
  | none =>
      have separated := sample.separated (by rw [braced]; rfl)
      obtain ⟨first, rest, spelled⟩ := List.exists_cons_of_ne_nil separated
      refine ⟨first, rest ++ sample.number, ?_, .inr ?_⟩
      · change sample.gap.val ++ sample.number = _
        rw [spelled, List.cons_append]
      · exact sample.gap.property first (by simp [spelled])
  | some braces =>
      change ∃ first rest, braces.before.val ++ '{' :: (braces.inside ++ ['}']) ++ _ = _ ∧ _
      cases spelled : braces.before.val with
      | nil => exact ⟨'{', _, rfl, .inl rfl⟩
      | cons first rest =>
          exact ⟨first, _, rfl, .inr (braces.before.property first (by simp [spelled]))⟩

theorem not_isMetricChar_of_afterName {first : Char} {rest : Text}
    (spelled : sample.afterName = first :: rest) : isMetricChar first = false := by
  obtain ⟨other, later, same, starts⟩ := exists_afterName_cons sample
  obtain ⟨rfl, -⟩ := List.cons.inj (spelled.symm.trans same)
  rcases starts with rfl | blank
  · decide
  · rcases eq_of_isBlank blank with rfl | rfl <;> decide

theorem afterName_last : ∀ char ∈ (sample.name ++ sample.afterName).getLast?,
    isWhitespace char = false := by
  have shape : sample.name ++ sample.afterName =
      (sample.name ++ (sample.braces.elim [] Braces.chars ++ sample.gap.val)) ++
        sample.number := by
    simp [Sample.afterName]
  rw [shape, List.getLast?_append, Option.or_of_isSome (by simpa using number_ne_nil sample)]
  exact number_last sample

end Parts

/-! ## Lines -/

theorem sampleLine_sample (sample : Sample) :
    sampleLine sample.chars = some (sample.name ++ sample.afterName) := by
  obtain ⟨first, rest, spelled, metric⟩ := exists_name_cons sample
  have start : ∀ char ∈ (sample.name ++ sample.afterName).head?, isWhitespace char = false := by
    rw [spelled]
    rintro char ⟨⟩
    exact not_isWhitespace_of_isMetricChar metric
  have nonempty : sample.name ++ sample.afterName ≠ [] := by simp [spelled]
  have trimmed : trim sample.chars = sample.name ++ sample.afterName :=
    UnicodeText.trim_padded (isWhitespace_of_mem sample.lead) (isWhitespace_of_mem sample.trail)
      start (afterName_last sample) nonempty
  have started : trimStart sample.chars = (sample.name ++ sample.afterName) ++ sample.trail := by
    unfold Sample.chars trimStart
    rw [List.append_assoc]
    apply UnicodeText.dropWhile_padded (isWhitespace_of_mem sample.lead)
    · rw [List.head?_append_of_ne_nil _ nonempty]
      exact start
    · intro empty
      exact nonempty (List.append_eq_nil_iff.mp empty).1
  have noComment : (trimStart sample.chars).head? ≠ some '#' := by
    rw [started, spelled]
    intro same
    obtain rfl : first = '#' := by simpa using same
    exact absurd metric (by decide)
  unfold sampleLine
  rw [if_neg noComment, trimmed, if_neg (by simpa using nonempty)]

theorem sampleLine_comment (lead : Blanks) (text : Text) :
    sampleLine (Line.comment lead text).chars = none := by
  have started : trimStart (lead.val ++ '#' :: text) = '#' :: text :=
    UnicodeText.dropWhile_padded (isWhitespace_of_mem lead) (by simp; decide) (by simp)
  unfold sampleLine
  change (if (trimStart (lead.val ++ '#' :: text)).head? = some '#' then _ else _) = _
  rw [started]
  rfl

theorem sampleLine_blank (blanks : Blanks) : sampleLine (Line.blank blanks).chars = none := by
  have started : trimStart blanks.val = [] := by
    unfold trimStart
    rw [List.dropWhile_eq_nil_iff]
    exact isWhitespace_of_mem blanks
  have trimmed : trim blanks.val = [] := by
    unfold trim
    rw [started]
    rfl
  unfold sampleLine
  change (if (trimStart blanks.val).head? = some '#' then _
    else if (trim blanks.val).isEmpty then _ else _) = _
  rw [started, trimmed]
  rfl

/-! ## The value on a line -/

/-- Of the lines that start with a name, the sample has that name or a longer one. -/
theorem eq_append_of_dropPrefix? {name rest : Text} {sample : Sample}
    (named : ∀ char ∈ name, isMetricChar char = true)
    (dropped : (sample.name ++ sample.afterName).dropPrefix? name = some rest) :
    ∃ more, sample.name = name ++ more ∧ rest = more ++ sample.afterName := by
  obtain ⟨start, whole, equal⟩ := List.dropPrefix?_eq_some_iff.mp dropped
  obtain rfl : start = name := eq_of_beq equal
  rcases List.append_eq_append_iff.mp whole with ⟨more, longer, after⟩ | ⟨more, same, after⟩
  · cases more with
    | nil => exact ⟨[], by simpa using longer.symm, by simpa using after.symm⟩
    | cons char more =>
        have other := not_isMetricChar_of_afterName sample after
        rw [named char (by simp [longer])] at other
        cases other
  · exact ⟨more, same, after⟩

theorem cutBraces_append {lead : Text} (unopened : '{' ∉ lead) (text : Text) :
    cutBraces (lead ++ text) = cutBraces text := by
  unfold cutBraces
  rw [UnicodeText.dropWhile_ne_append unopened]

/-- The part of a line up to its number, past its labels. -/
theorem afterName_of_braces {sample : Sample} {braces : Braces}
    (braced : sample.braces = some braces) :
    sample.afterName = braces.before.val ++
      '{' :: (braces.inside ++ '}' :: (sample.gap.val ++ sample.number)) := by
  unfold Sample.afterName
  rw [braced]
  simp [Braces.chars]

theorem afterName_of_unbraced {sample : Sample} (braced : sample.braces = none) :
    sample.afterName = sample.gap.val ++ sample.number := by
  unfold Sample.afterName
  rw [braced]
  rfl

theorem brace_not_mem_number (sample : Sample) : '{' ∉ sample.number := by
  rw [Sample.number, List.mem_append, not_or]
  refine ⟨fun member => absurd (sample.numeric.2 _ member) (by decide), ?_⟩
  cases sample.timestamp with
  | none => exact List.not_mem_nil
  | some timestamp =>
      have noDigit : '{' ∉ timestamp.digits := fun member =>
        absurd (timestamp.numeric.2 _ member) (by decide)
      have noBlank := not_mem_blanks timestamp.gap (by decide : isBlank '{' = false)
      change '{' ∉ timestamp.gap.val ++ (if timestamp.negative then ['-'] else []) ++
        timestamp.digits
      cases timestamp.negative <;> simp [noDigit, noBlank]

theorem brace_not_mem_afterName {sample : Sample} (braced : sample.braces = none) :
    '{' ∉ sample.afterName := by
  rw [afterName_of_unbraced braced, List.mem_append, not_or]
  exact ⟨not_mem_blanks sample.gap (by decide), brace_not_mem_number sample⟩

theorem trim_gap_number (sample : Sample) :
    trim (sample.gap.val ++ sample.number) = sample.number := by
  have trimmed : trim (sample.gap.val ++ sample.number ++ []) = sample.number :=
    UnicodeText.trim_padded (isWhitespace_of_mem sample.gap) (by simp) (number_head sample)
      (number_last sample) (number_ne_nil sample)
  rwa [List.append_nil] at trimmed

/-- Without a closing brace in the value of a label, the text of the value is
found. -/
theorem valueText_of_unclosed {sample : Sample}
    (unclosed : ∀ pair ∈ sample.pairs, '}' ∉ pair.value) :
    valueText sample.afterName = some sample.number := by
  have trimmed := trim_gap_number sample
  cases braced : sample.braces with
  | none =>
      have unopened := brace_not_mem_afterName braced
      have shape := afterName_of_unbraced braced
      rw [valueText, if_neg unopened, shape, trimmed]
  | some braces =>
      have shape := afterName_of_braces braced
      rw [pairs_of_braces braced] at unclosed
      have inside : '}' ∉ braces.inside := by
        rw [brace_mem_inside]
        rintro ⟨pair, member, closes⟩
        exact unclosed pair member closes
      have opened : '{' ∈ sample.afterName := by simp [shape]
      rw [valueText, if_pos opened, shape,
        cutBraces_append (not_mem_blanks braces.before (by decide)), cutBraces_eq_some inside,
        Option.map_some, trimmed]

/-- A closing brace in the value of a label hides the value of the sample. -/
theorem parseFloat_of_closed {sample : Sample} {pair : Pair} (listed : pair ∈ sample.pairs)
    (closes : '}' ∈ pair.value) : (valueText sample.afterName).bind parseFloat = none := by
  obtain ⟨braces, braced, samePairs⟩ := exists_braces_of_mem listed
  have shape := afterName_of_braces braced
  rw [samePairs] at listed
  have member := (brace_mem_inside braces).mpr ⟨pair, listed, closes⟩
  obtain ⟨block, later, split, unclosed⟩ := List.eq_append_cons_of_mem member
  have quote := bracesQuoted_inside braces block later split
  have opened : '{' ∈ sample.afterName := by simp [shape]
  have cut : cutBraces sample.afterName =
      some (block, later ++ '}' :: (sample.gap.val ++ sample.number)) := by
    rw [shape, cutBraces_append (not_mem_blanks braces.before (by decide)), split]
    have cut := cutBraces_eq_some unclosed
      (later ++ '}' :: (sample.gap.val ++ sample.number))
    simpa using cut
  rw [valueText, if_pos opened, cut, Option.map_some, Option.bind_some]
  have kept : '"' ∈ trim (later ++ '}' :: (sample.gap.val ++ sample.number)) :=
    UnicodeText.mem_trim (List.mem_append_left _ quote) (by decide)
  exact NumberText.parseFloat_eq_none kept (by decide)

/-- The number of a sample with a time stamp is not read. -/
theorem parseFloat_of_timestamp {sample : Sample} {timestamp : Timestamp}
    (stamped : sample.timestamp = some timestamp) : parseFloat sample.number = none := by
  obtain ⟨first, rest, spelled⟩ := List.exists_cons_of_ne_nil timestamp.separated
  have blank := timestamp.gap.property first (by simp [spelled])
  have member : first ∈ sample.number := by
    have inside : first ∈ timestamp.chars := by simp [Timestamp.chars, spelled]
    rw [Sample.number, stamped]
    exact List.mem_append_right _ inside
  apply NumberText.parseFloat_eq_none member
  rcases eq_of_isBlank blank with rfl | rfl <;> decide

/-- The sample has no time stamp and no label value with a closing brace. -/
def readable (sample : Sample) : Bool :=
  sample.timestamp.isNone && sample.pairs.all fun pair => '}' ∉ pair.value

/-- The value that is read on a line after the name. -/
theorem parseFloat_valueText (sample : Sample) :
    (valueText sample.afterName).bind parseFloat =
      if readable sample = true then parseFloat sample.value else none := by
  by_cases unclosed : ∀ pair ∈ sample.pairs, '}' ∉ pair.value
  · rw [valueText_of_unclosed unclosed, Option.bind_some]
    cases stamped : sample.timestamp with
    | none =>
        have whole : sample.number = sample.value := by
          rw [Sample.number, stamped]
          exact List.append_nil _
        have reads : readable sample = true := by
          simpa [readable, stamped] using unclosed
        rw [whole, if_pos reads]
    | some timestamp =>
        have unread : readable sample = false := by simp [readable, stamped]
        rw [parseFloat_of_timestamp stamped, if_neg (by simp [unread])]
  · have unread : readable sample = false := by
      rw [readable, List.all_eq_false.mpr (by simpa using unclosed), Bool.and_false]
    push Not at unclosed
    obtain ⟨pair, listed, closes⟩ := unclosed
    rw [parseFloat_of_closed listed closes, if_neg (by simp [unread])]

/-- The lookup of a name on the line of a sample. -/
theorem lineValue_sample {name : Text} (named : IsMetricName name) (sample : Sample) :
    lineValue name sample.chars =
      if sample.name = name ∧ readable sample = true then parseFloat sample.value else none := by
  have looked : lineValue name sample.chars =
      ((sample.name ++ sample.afterName).dropPrefix? name).bind fun afterName =>
        afterName.head?.bind fun firstChar =>
          if firstChar = '{' ∨ isWhitespace firstChar then (valueText afterName).bind parseFloat
          else none := by
    unfold lineValue
    rw [sampleLine_sample]
    rfl
  rw [looked]
  by_cases same : sample.name = name
  · have dropped : (sample.name ++ sample.afterName).dropPrefix? name = some sample.afterName := by
      rw [same]
      exact UnicodeText.stripPrefix_append name sample.afterName
    obtain ⟨first, rest, spelled, starts⟩ := exists_afterName_cons sample
    have passes : first = '{' ∨ isWhitespace first = true := by
      refine starts.imp_right fun blank => ?_
      rcases eq_of_isBlank blank with rfl | rfl <;> decide
    have head : sample.afterName.head? = some first := by rw [spelled]; rfl
    rw [dropped, Option.bind_some, head, Option.bind_some, if_pos passes, parseFloat_valueText]
    exact if_congr (and_iff_right same).symm rfl rfl
  · rw [if_neg fun both => same both.1]
    cases dropped : (sample.name ++ sample.afterName).dropPrefix? name with
    | none => rfl
    | some rest =>
        obtain ⟨more, longer, rfl⟩ := eq_append_of_dropPrefix? named.1 dropped
        cases more with
        | nil => exact absurd (by simpa using longer) same
        | cons char more =>
            have metric := sample.named.1 char (by simp [longer])
            have notBrace : char ≠ '{' := by
              rintro rfl
              exact absurd metric (by decide)
            have visible := not_isWhitespace_of_isMetricChar metric
            change (if char = '{' ∨ isWhitespace char = true then _ else none) = none
            rw [if_neg (by simp [notBrace, visible])]

theorem lineValue_line {name : Text} (named : IsMetricName name) (line : Line) :
    lineValue name line.chars = line.sample?.bind fun sample =>
      if sample.name = name ∧ readable sample = true then parseFloat sample.value else none := by
  cases line with
  | sample shown => exact lineValue_sample named shown
  | comment lead text =>
      unfold lineValue
      rw [sampleLine_comment]
      rfl
  | blank blanks =>
      unfold lineValue
      rw [sampleLine_blank]
      rfl

/-! ## Looking up in a text -/

/-- The lines of the text are those of an exposition. -/
def Exposes (text : Text) (lines : List Line) : Prop :=
  text.lines = lines.map Line.chars

instance instDecidableExposes (text : Text) (lines : List Line) : Decidable (Exposes text lines) :=
  inferInstanceAs (Decidable (text.lines = lines.map Line.chars))

theorem findSome?_bind_sample? {α : Type} (find : Sample → Option α) (lines : List Line) :
    lines.findSome? (fun line => line.sample?.bind find) = (samples lines).findSome? find := by
  induction lines with
  | nil => rfl
  | cons line lines ih =>
      cases line with
      | sample shown =>
          have listed : samples (.sample shown :: lines) = shown :: samples lines := rfl
          rw [listed, List.findSome?_cons, List.findSome?_cons, ih]
          rfl
      | comment lead text => exact ih
      | blank blanks => exact ih

/-- The value of the first sample of a metric that has one. -/
def firstValue (name : Text) (samples : List Sample) : Option ExactFloat :=
  samples.findSome? fun sample => if sample.name = name then parseFloat sample.value else none

theorem firstValue_eq_some {name : Text} {samples : List Sample} {value : ExactFloat}
    (found : firstValue name samples = some value) :
    ∃ sample ∈ samples, sample.name = name ∧ parseFloat sample.value = some value := by
  obtain ⟨sample, member, read⟩ := List.exists_of_findSome?_eq_some found
  split at read
  · rename_i same
    exact ⟨sample, member, same, read⟩
  · cases read

theorem isSome_firstValue {name : Text} {samples : List Sample} :
    (firstValue name samples).isSome ↔
      ∃ sample ∈ samples, sample.name = name ∧ (parseFloat sample.value).isSome := by
  unfold firstValue
  rw [List.findSome?_isSome_iff]
  apply exists_congr
  intro sample
  apply and_congr_right
  intro _
  split
  · rename_i same
    simp [same]
  · rename_i other
    simp [other]

theorem firstValue_filter (name : Text) (samples : List Sample) :
    firstValue name (samples.filter readable) = samples.findSome? fun sample =>
      if sample.name = name ∧ readable sample = true then parseFloat sample.value else none := by
  induction samples with
  | nil => rfl
  | cons sample samples ih =>
      unfold firstValue at ih ⊢
      cases reads : readable sample with
      | true =>
          rw [List.filter_cons_of_pos reads, List.findSome?_cons, List.findSome?_cons, ih]
          simp [reads]
      | false =>
          rw [List.filter_cons_of_neg (by simp [reads]), List.findSome?_cons, ih]
          simp [reads]

/-- A metric is looked up among its readable samples. -/
theorem metricValue_eq {text : Text} {lines : List Line} (exposes : Exposes text lines)
    {name : String} (named : IsMetricName name.toList) :
    metricValue text name = firstValue name.toList ((samples lines).filter readable) := by
  have perLine : lineValue name.toList ∘ Line.chars = fun line => line.sample?.bind fun sample =>
      if sample.name = name.toList ∧ readable sample = true then parseFloat sample.value
      else none :=
    funext fun line => lineValue_line named line
  unfold metricValue
  rw [exposes, List.findSome?_map, perLine, findSome?_bind_sample?, firstValue_filter]

theorem isMetricName_total {base : String} (named : IsMetricName base.toList) :
    IsMetricName (base ++ "_total").toList := by
  obtain ⟨metricChars, first, rest, spelled, notDigit⟩ := named
  rw [String.toList_append]
  refine ⟨?_, first, rest ++ "_total".toList, by rw [spelled]; rfl, notDigit⟩
  intro char member
  rcases List.mem_append.mp member with inside | suffix
  · exact metricChars char inside
  · exact List.all_eq_true.mp (by decide : ("_total".toList.all isMetricChar) = true) char suffix

theorem counterValue_eq {text : Text} {lines : List Line} (exposes : Exposes text lines)
    {base : String} (named : IsMetricName base.toList) :
    counterValue text base =
      (firstValue base.toList ((samples lines).filter readable)).or
        (firstValue (base ++ "_total").toList ((samples lines).filter readable)) := by
  unfold counterValue
  rw [metricValue_eq exposes named, metricValue_eq exposes (isMetricName_total named)]

/-! ## No other metric's value -/

/-- The values that are read from an exposition belong to the metric. -/
structure OwnValues (text : Text) (lines : List Line) (name : String) : Prop where
  metric : ∀ value, metricValue text name = some value →
    ∃ sample ∈ samples lines, sample.name = name.toList ∧ parseFloat sample.value = some value
  counter : ∀ value, counterValue text name = some value →
    ∃ sample ∈ samples lines,
      (sample.name = name.toList ∨ sample.name = (name ++ "_total").toList) ∧
        parseFloat sample.value = some value

theorem ownValues {text : Text} {lines : List Line} (exposes : Exposes text lines)
    {name : String} (named : IsMetricName name.toList) : OwnValues text lines name where
  metric := by
    intro value found
    rw [metricValue_eq exposes named] at found
    obtain ⟨sample, member, same, read⟩ := firstValue_eq_some found
    exact ⟨sample, List.mem_of_mem_filter member, same, read⟩
  counter := by
    intro value found
    rw [counterValue_eq exposes named] at found
    rcases Option.or_eq_some_iff.mp found with bare | ⟨-, total⟩
    · obtain ⟨sample, member, same, read⟩ := firstValue_eq_some bare
      exact ⟨sample, List.mem_of_mem_filter member, .inl same, read⟩
    · obtain ⟨sample, member, same, read⟩ := firstValue_eq_some total
      exact ⟨sample, List.mem_of_mem_filter member, .inr same, read⟩

def bareSample (name value : String) (named : IsMetricName name.toList)
    (numeric : value.toList ≠ [] ∧ ∀ char ∈ value.toList, isNumberChar char = true) : Sample where
  lead := .none
  name := name.toList
  named := named
  braces := none
  gap := .space
  separated _ := by decide
  value := value.toList
  numeric := numeric
  timestamp := none
  trail := .none

theorem isMetricName_hits : IsMetricName "vllm:prefix_cache_hits".toList :=
  ⟨List.all_eq_true.mp (by decide), 'v', _, rfl, by decide⟩

def externalSample : Sample :=
  bareSample "vllm:external_prefix_cache_hits" "99"
    ⟨List.all_eq_true.mp (by decide), 'v', _, rfl, by decide⟩
    ⟨by decide, List.all_eq_true.mp (by decide)⟩

def createdSample : Sample :=
  bareSample "vllm:prefix_cache_hits_created" "1700000000"
    ⟨List.all_eq_true.mp (by decide), 'v', _, rfl, by decide⟩
    ⟨by decide, List.all_eq_true.mp (by decide)⟩

def hitsSample : Sample :=
  bareSample "vllm:prefix_cache_hits" "12" isMetricName_hits
    ⟨by decide, List.all_eq_true.mp (by decide)⟩

def notePair : Pair where
  beforeName := .none
  name := "note".toList
  named := ⟨List.all_eq_true.mp (by decide), 'n', _, rfl, by decide⟩
  beforeEquals := .none
  afterEquals := .none
  value := "vllm:prefix_cache_hits 5".toList
  afterValue := .none

/-- The metric and a number stand in the value of a label. -/
def quotingSample : Sample :=
  { bareSample "vllm:prefix_cache_queries" "40"
      ⟨List.all_eq_true.mp (by decide), 'v', _, rfl, by decide⟩
      ⟨by decide, List.all_eq_true.mp (by decide)⟩ with
    braces := some {
      before := .none, pairs := [notePair], comma := false, listed := nofun, closing := .none }
    separated := nofun }

/-- The metric behind the lines that only speak of it or are named alike. -/
def siblingLines : List Line :=
  [.comment .none " HELP vllm:prefix_cache_hits 3".toList,
    .comment .none " TYPE vllm:prefix_cache_hits counter".toList,
    .sample externalSample, .sample createdSample, .sample quotingSample, .sample hitsSample]

def siblingText : Text :=
  "# HELP vllm:prefix_cache_hits 3\n".toList ++
    "# TYPE vllm:prefix_cache_hits counter\n".toList ++
    "vllm:external_prefix_cache_hits 99\n".toList ++
    "vllm:prefix_cache_hits_created 1700000000\n".toList ++
    "vllm:prefix_cache_queries\x7bnote=\"vllm:prefix_cache_hits 5\"\x7d 40\n".toList ++
    "vllm:prefix_cache_hits 12\n".toList

theorem ownValues_siblings :
    OwnValues siblingText siblingLines "vllm:prefix_cache_hits" ∧
      metricValue siblingText "vllm:prefix_cache_hits" = some (.finite 12) ∧
      counterValue siblingText "vllm:prefix_cache_hits" = some (.finite 12) := by
  have exposes : Exposes siblingText siblingLines := by decide +kernel
  have own : firstValue "vllm:prefix_cache_hits".toList ((samples siblingLines).filter readable) =
      some (.finite 12) := by
    decide +kernel
  refine ⟨ownValues exposes isMetricName_hits, ?_, ?_⟩
  · rw [metricValue_eq exposes isMetricName_hits, own]
  · rw [counterValue_eq exposes isMetricName_hits, own]
    rfl

/-! ## No sample is missed -/

/-- A sample of the metric that has a value is found, and the first one gives
its value; of a counter, a sample of either name is found. -/
structure NeverAbsent (text : Text) (lines : List Line) (name : String) : Prop where
  metric : ∀ value, firstValue name.toList (samples lines) = some value →
    metricValue text name = some value
  counter : (firstValue name.toList (samples lines)).isSome ∨
      (firstValue (name ++ "_total").toList (samples lines)).isSome →
    (counterValue text name).isSome

/-- Where there is a sample of the metric, there is a readable one, and the
first of these has the value of the first one of all; where there is a sample
of either name of a counter, there is a readable one. -/
structure ReadableFirst (lines : List Line) (name : String) : Prop where
  metric : ∀ value, firstValue name.toList (samples lines) = some value →
    firstValue name.toList ((samples lines).filter readable) = some value
  counter : (firstValue name.toList (samples lines)).isSome ∨
      (firstValue (name ++ "_total").toList (samples lines)).isSome →
    ∃ sample ∈ samples lines,
      (sample.name = name.toList ∨ sample.name = (name ++ "_total").toList) ∧
        (parseFloat sample.value).isSome ∧ readable sample = true

theorem isSome_counterValue {text : Text} {lines : List Line} (exposes : Exposes text lines)
    {base : String} (named : IsMetricName base.toList) :
    (counterValue text base).isSome ↔ ∃ sample ∈ samples lines,
      (sample.name = base.toList ∨ sample.name = (base ++ "_total").toList) ∧
        (parseFloat sample.value).isSome ∧ readable sample = true := by
  rw [counterValue_eq exposes named, Option.isSome_or, Bool.or_eq_true, isSome_firstValue,
    isSome_firstValue]
  simp only [List.mem_filter]
  constructor
  · rintro (⟨sample, ⟨member, reads⟩, same, read⟩ | ⟨sample, ⟨member, reads⟩, same, read⟩)
    · exact ⟨sample, member, .inl same, read, reads⟩
    · exact ⟨sample, member, .inr same, read, reads⟩
  · rintro ⟨sample, member, same | same, read, reads⟩
    · exact .inl ⟨sample, ⟨member, reads⟩, same, read⟩
    · exact .inr ⟨sample, ⟨member, reads⟩, same, read⟩

/-- A metric that is present is reported exactly where the samples that cannot
be read do not come first. -/
theorem neverAbsent_iff {text : Text} {lines : List Line} (exposes : Exposes text lines)
    {name : String} (named : IsMetricName name.toList) :
    NeverAbsent text lines name ↔ ReadableFirst lines name := by
  have looked := metricValue_eq exposes named
  have counted := isSome_counterValue exposes named
  constructor
  · intro never
    refine ⟨?_, ?_⟩
    · intro value first
      rw [← looked]
      exact never.metric value first
    · intro present
      exact counted.mp (never.counter present)
  · intro first
    refine ⟨?_, ?_⟩
    · intro value present
      rw [looked]
      exact first.metric value present
    · intro present
      exact counted.mpr (first.counter present)

def runningName : Text := "vllm:num_requests_running".toList

def runningSample : Sample :=
  bareSample "vllm:num_requests_running" "7"
    ⟨List.all_eq_true.mp (by decide), 'v', _, rfl, by decide⟩
    ⟨by decide, List.all_eq_true.mp (by decide)⟩

def stampedSample : Sample :=
  { runningSample with
    timestamp := some {
      gap := .space
      separated := by decide
      negative := false
      digits := "1700000000000".toList
      numeric := ⟨by decide, List.all_eq_true.mp (by decide)⟩ } }

/-- A sample that can be read before one that cannot. -/
def twiceLines : List Line := [.sample runningSample,
  .sample { stampedSample with
    value := ['9'], numeric := ⟨by decide, List.all_eq_true.mp (by decide)⟩ }]

def twiceText : Text :=
  "vllm:num_requests_running 7\n".toList ++
    "vllm:num_requests_running 9 1700000000000\n".toList

theorem neverAbsent_twice : NeverAbsent twiceText twiceLines "vllm:num_requests_running" := by
  have named : IsMetricName "vllm:num_requests_running".toList := runningSample.named
  have first : firstValue runningName (samples twiceLines) = some (.finite 7) := by
    decide +kernel
  have read : firstValue runningName ((samples twiceLines).filter readable) =
      some (.finite 7) := by
    decide +kernel
  apply (neverAbsent_iff (by decide +kernel) named).mpr
  refine ⟨?_, ?_⟩
  · intro value present
    exact read.trans (first.symm.trans present)
  · intro _
    exact ⟨runningSample, List.mem_cons_self, .inl rfl, by decide +kernel, by decide⟩

/-! ## A sample with a time stamp -/

def stampedText : Text := "vllm:num_requests_running 7 1700000000000\n".toList

/-- The time of a sample hides the metric. -/
theorem stamped_sample_is_absent :
    Exposes stampedText [.sample stampedSample] ∧
      firstValue runningName (samples [.sample stampedSample]) = some (.finite 7) ∧
      metricValue stampedText "vllm:num_requests_running" = none ∧
      counterValue stampedText "vllm:num_requests_running" = none := by
  refine ⟨by decide, by decide +kernel, by decide +kernel, by decide +kernel⟩

end KeelRouter
