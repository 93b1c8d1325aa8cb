import KeelRouter.MetricLookup

/-!
# Looking up a label

A label is looked up by a search for its name and an equals sign between the
braces of the lines that start with the name of the metric.  The search stops
at the first closing brace and at the first quote.

A lookup is exact when, and only when, what the first such search finds in quotes
is a value of the label.  It finds the label itself where nothing that looks like
the label comes before it, the label is written without blanks, and its value has
no escapes and no brace.
-/

namespace KeelRouter

open Exposition
open NumberText (parseUInt32)

/-! ## The labels of an exposition -/

/-- The value of the first label of that name, if the sample is of the metric. -/
def labelOf (metric label : Text) (sample : Sample) : Option Text :=
  if sample.name = metric then
    (sample.pairs.find? fun pair => pair.name = label).map Pair.value
  else none

def firstLabel (metric label : Text) (samples : List Sample) : Option Text :=
  samples.findSome? (labelOf metric label)

def capacityOf (samples : List Sample) : Option ReportedCapacity := do
  let blockSize ← firstLabel cacheConfigInfo.toList "block_size".toList samples
  let numGpuBlocks ← firstLabel cacheConfigInfo.toList "num_gpu_blocks".toList samples
  let blockSize ← parseUInt32 blockSize
  let numGpuBlocks ← parseUInt32 numGpuBlocks
  return { blockSize, numGpuBlocks }

/-- A sample of the metric has the label with the value. -/
def Carries (samples : List Sample) (metric label value : Text) : Prop :=
  ∃ sample ∈ samples, sample.name = metric ∧
    ∃ pair ∈ sample.pairs, pair.name = label ∧ pair.value = value

/-- What is returned is a value of the label, and the label is not missed. -/
structure ExactLabel (text : Text) (lines : List Line) (metric label : String) : Prop where
  sound : ∀ value, infoLabel text metric label = some value →
    Carries (samples lines) metric.toList label.toList value
  complete : (∃ value, Carries (samples lines) metric.toList label.toList value) →
    (infoLabel text metric label).isSome

theorem carries_of_firstLabel {samples : List Sample} {metric label value : Text}
    (found : firstLabel metric label samples = some value) :
    Carries samples metric label value := by
  obtain ⟨sample, member, read⟩ := List.exists_of_findSome?_eq_some found
  unfold labelOf at read
  split at read
  · rename_i same
    obtain ⟨pair, foundPair, rfl⟩ := Option.map_eq_some_iff.mp read
    have named := List.find?_some foundPair
    exact ⟨sample, member, same, pair, List.mem_of_find?_eq_some foundPair,
      of_decide_eq_true named, rfl⟩
  · cases read

theorem isSome_firstLabel {samples : List Sample} {metric label value : Text}
    (carries : Carries samples metric label value) :
    (firstLabel metric label samples).isSome := by
  obtain ⟨sample, member, same, pair, listed, named, -⟩ := carries
  unfold firstLabel
  rw [List.findSome?_isSome_iff]
  refine ⟨sample, member, ?_⟩
  rw [labelOf, if_pos same, Option.isSome_map, List.find?_isSome]
  exact ⟨pair, listed, by simpa using named⟩

theorem exactLabel_of_eq {text : Text} {lines : List Line} {metric label : String}
    (same : infoLabel text metric label =
      firstLabel metric.toList label.toList (samples lines)) :
    ExactLabel text lines metric label where
  sound value found := carries_of_firstLabel (same.symm.trans found)
  complete := by
    rintro ⟨value, carries⟩
    rw [same]
    exact isSome_firstLabel carries

/-! ## The search -/

/-- What follows an occurrence of the pattern. -/
theorem exists_of_afterFirst {pattern text rest : Text}
    (found : afterFirst pattern text = some rest) : ∃ before, text = before ++ pattern ++ rest := by
  induction text with
  | nil =>
      rw [afterFirst] at found
      split at found
      · rename_i empty
        obtain rfl := Option.some.inj found
        exact ⟨[], by simpa using empty⟩
      · cases found
  | cons char text ih =>
      rw [afterFirst] at found
      split at found
      · rename_i starts
        obtain rfl := Option.some.inj found
        obtain ⟨after, same⟩ := List.isPrefixOf_iff_prefix.mp starts
        refine ⟨[], ?_⟩
        rw [← same, List.drop_left, List.nil_append]
      · obtain ⟨before, rfl⟩ := ih found
        exact ⟨char :: before, rfl⟩

/-- The search passes over a text without the pattern. -/
theorem afterFirst_lead {label lead : Text} (plain : '=' ∉ label)
    (absent : ¬ (label ++ ['=']) <:+: lead) (rest : Text) :
    afterFirst (label ++ ['=']) (lead ++ (label ++ '=' :: rest)) = some rest := by
  have shape : label ++ '=' :: rest = (label ++ ['=']) ++ rest := by simp
  rw [shape]
  induction lead with
  | nil =>
      obtain ⟨first, pattern, spelled⟩ : ∃ first pattern, label ++ ['='] = first :: pattern :=
        List.exists_cons_of_ne_nil (by simp)
      rw [List.nil_append, spelled, List.cons_append, afterFirst,
        if_pos (List.isPrefixOf_iff_prefix.mpr ⟨rest, by simp⟩), ← List.cons_append,
        List.drop_left]
  | cons char lead ih =>
      have later := ih fun inside => absent (inside.trans (List.suffix_cons char lead).isInfix)
      have overlap (middle : Text) {after : Text}
          (longer : label ++ ['='] = char :: lead ++ middle)
          (beyond : (label ++ ['=']) ++ rest = middle ++ after) : False := by
        rcases middle.eq_nil_or_concat with rfl | ⟨others, last, rfl⟩
        · exact absent (by rw [longer, List.append_nil])
        · rw [List.concat_eq_append] at longer beyond
          have ends : ['='] = [last] := by
            rw [← List.append_assoc] at longer
            exact List.append_inj_right' longer rfl
          obtain ⟨rfl, -⟩ := List.cons.inj ends
          have short := congrArg List.length longer
          simp only [List.length_append, List.length_cons] at short
          have inside : others ++ ['='] <+: label :=
            List.prefix_of_prefix_length_le ⟨after, beyond.symm⟩
              ⟨['='] ++ rest, by simp⟩ (by simp; omega)
          exact plain (inside.subset (by simp))
      have noMatch : ¬ (label ++ ['=']) <+: char :: lead ++ ((label ++ ['=']) ++ rest) := by
        rintro ⟨after, same⟩
        rcases List.append_eq_append_iff.mp same with ⟨middle, inside, -⟩ | ⟨middle, longer, beyond⟩
        · exact absent ⟨[], middle, by simpa using inside.symm⟩
        · exact overlap middle longer beyond
      rw [List.cons_append, afterFirst, if_neg (by simpa [List.isPrefixOf_iff_prefix] using noMatch)]
      exact later

/-- It finds the first of them. -/
theorem afterFirst_eq_some_iff {pattern text rest : Text} :
    afterFirst pattern text = some rest ↔ ∃ before, text = before ++ pattern ++ rest ∧
      ∀ earlier later, text = earlier ++ pattern ++ later → before.length ≤ earlier.length := by
  induction text with
  | nil =>
      rw [afterFirst]
      constructor
      · intro found
        split at found
        · rename_i empty
          obtain rfl := Option.some.inj found
          exact ⟨[], by simpa using empty, fun _ _ _ => Nat.zero_le _⟩
        · cases found
      · rintro ⟨before, split, -⟩
        obtain ⟨rfl, rfl, rfl⟩ : before = [] ∧ pattern = [] ∧ rest = [] := by simpa using split
        rfl
  | cons char text ih =>
      rw [afterFirst]
      by_cases starts : pattern <+: char :: text
      · obtain ⟨after, same⟩ := starts
        rw [if_pos (List.isPrefixOf_iff_prefix.mpr ⟨after, same⟩), ← same, List.drop_left,
          Option.some_inj]
        constructor
        · rintro rfl
          exact ⟨[], rfl, fun _ _ _ => Nat.zero_le _⟩
        · rintro ⟨before, split, least⟩
          obtain rfl : before = [] := List.length_eq_zero_iff.mp (Nat.le_zero.mp (least [] after rfl))
          exact List.append_cancel_left split
      · rw [if_neg (by simpa [List.isPrefixOf_iff_prefix] using starts), ih]
        have beyond {before after : Text} (split : char :: text = before ++ pattern ++ after) :
            ∃ others, before = char :: others ∧ text = others ++ pattern ++ after := by
          cases before with
          | nil => exact absurd ⟨after, split.symm⟩ starts
          | cons first others =>
              obtain ⟨rfl, later⟩ := List.cons.inj split
              exact ⟨others, rfl, later⟩
        constructor
        · rintro ⟨before, split, least⟩
          refine ⟨char :: before, congrArg (char :: ·) split, fun earlier later whole => ?_⟩
          obtain ⟨others, rfl, shorter⟩ := beyond whole
          exact Nat.succ_le_succ (least others later shorter)
        · rintro ⟨before, split, least⟩
          obtain ⟨others, rfl, shorter⟩ := beyond split
          refine ⟨others, shorter, fun earlier later whole => ?_⟩
          exact Nat.le_of_succ_le_succ
            (least (char :: earlier) later (congrArg (char :: ·) whole))

/-- The first occurrence of `label=` in a block is directly followed by the value in
quotes. -/
def Quotes (label block value : Text) : Prop :=
  ∃ before quote rest, (quote = '"' ∨ quote = '\'') ∧ quote ∉ value ∧
    block = before ++ (label ++ ['=']) ++ quote :: (value ++ quote :: rest) ∧
    ∀ earlier later, block = earlier ++ (label ++ ['=']) ++ later → before.length ≤ earlier.length

theorem blockLabel_eq_some_iff {label block value : Text} :
    blockLabel label block = some value ↔ Quotes label block value := by
  unfold blockLabel
  rw [Option.bind_eq_some_iff]
  constructor
  · rintro ⟨afterLabel, found, read⟩
    obtain ⟨before, split, least⟩ := afterFirst_eq_some_iff.mp found
    cases afterLabel with
    | nil => cases read
    | cons quote valueStart =>
        obtain ⟨⟨isQuote, closed⟩, taken⟩ := Option.ite_none_right_eq_some.mp read
        obtain ⟨taken', rest, split', unquoted⟩ := List.eq_append_cons_of_mem closed
        rw [split', UnicodeText.takeWhile_ne_append unquoted] at taken
        obtain rfl := Option.some.inj taken
        exact ⟨before, quote, rest, isQuote, unquoted, by rw [split, split'], least⟩
  · rintro ⟨before, quote, rest, isQuote, unquoted, split, least⟩
    refine ⟨_, afterFirst_eq_some_iff.mpr ⟨before, split, least⟩, ?_⟩
    have closed : quote ∈ value ++ quote :: rest := by simp
    dsimp only
    rw [if_pos ⟨isQuote, closed⟩, UnicodeText.takeWhile_ne_append unquoted]

/-! ## The labels on a line -/

/-- What the search sees of the labels of a sample. -/
def blockOf (sample : Sample) : Text :=
  (sample.braces.elim [] Braces.inside).takeWhile fun char => char ≠ '}'

theorem blockOf_of_braces {sample : Sample} {braces : Braces}
    (braced : sample.braces = some braces) :
    blockOf sample = braces.inside.takeWhile fun char => char ≠ '}' := by
  unfold blockOf
  rw [braced]
  rfl

theorem blockOf_of_unbraced {sample : Sample} (braced : sample.braces = none) :
    blockOf sample = [] := by
  unfold blockOf
  rw [braced]
  rfl

theorem cutBraces_afterName {sample : Sample} {braces : Braces}
    (braced : sample.braces = some braces) {more : Text} (unopened : '{' ∉ more) :
    ∃ later, cutBraces (more ++ sample.afterName) = some (blockOf sample, later) := by
  have closed : '}' ∈ braces.inside ++ '}' :: (sample.gap.val ++ sample.number) := by simp
  obtain ⟨block, later, split, unclosed⟩ := List.eq_append_cons_of_mem closed
  have same : block = blockOf sample := by
    rw [blockOf_of_braces braced,
      ← UnicodeText.takeWhile_append_stop braces.inside (sample.gap.val ++ sample.number), split,
      UnicodeText.takeWhile_ne_append unclosed]
  refine ⟨later, ?_⟩
  rw [cutBraces_append unopened, afterName_of_braces braced,
    cutBraces_append (not_mem_blanks braces.before (by decide)), split,
    cutBraces_eq_some unclosed, same]

theorem cutBraces_of_not_mem {text : Text} (unopened : '{' ∉ text) : cutBraces text = none := by
  have none : text.dropWhile (fun char => char ≠ '{') = [] := by
    rw [List.dropWhile_eq_nil_iff]
    exact UnicodeText.ne_of_not_mem unopened
  unfold cutBraces
  rw [none]

theorem blockLabel_nil (label : Text) : blockLabel label [] = none := by
  have nothing : afterFirst (label ++ ['=']) [] = none := by simp [afterFirst]
  unfold blockLabel
  rw [nothing]
  rfl

theorem brace_not_mem_metric {name : Text} (metricChars : ∀ char ∈ name, isMetricChar char = true) :
    '{' ∉ name := fun member => absurd (metricChars _ member) (by decide)

/-- The search for a label on the line of a sample: the name of the metric may
be longer. -/
theorem lineLabel_sample {metric : Text} (named : IsMetricName metric) (label : Text)
    (sample : Sample) :
    lineLabel metric label sample.chars =
      if metric <+: sample.name then blockLabel label (blockOf sample) else none := by
  have looked : lineLabel metric label sample.chars =
      ((sample.name ++ sample.afterName).dropPrefix? metric).bind fun afterName =>
        (cutBraces afterName).bind fun cut => blockLabel label cut.1 := by
    unfold lineLabel
    rw [sampleLine_sample]
    rfl
  rw [looked]
  cases dropped : (sample.name ++ sample.afterName).dropPrefix? metric with
  | none =>
      have other : ¬ metric <+: sample.name := by
        rintro ⟨more, same⟩
        rw [← same, List.append_assoc] at dropped
        have found := UnicodeText.stripPrefix_append metric (more ++ sample.afterName)
        rw [UnicodeText.stripPrefix, dropped] at found
        cases found
      rw [if_neg other]
      rfl
  | some rest =>
      obtain ⟨more, longer, rfl⟩ := eq_append_of_dropPrefix? named.1 dropped
      have unopened : '{' ∉ more := brace_not_mem_metric fun char member =>
        sample.named.1 char (by simp [longer, member])
      rw [if_pos ⟨more, longer.symm⟩, Option.bind_some]
      cases braced : sample.braces with
      | none =>
          have plain : '{' ∉ more ++ sample.afterName := by
            rw [List.mem_append, not_or]
            exact ⟨unopened, brace_not_mem_afterName braced⟩
          rw [cutBraces_of_not_mem plain, blockOf_of_unbraced braced, blockLabel_nil]
          rfl
      | some braces =>
          obtain ⟨later, cut⟩ := cutBraces_afterName braced unopened
          rw [cut, Option.bind_some]

theorem lineLabel_line {metric : Text} (named : IsMetricName metric) (label : Text)
    (line : Line) :
    lineLabel metric label line.chars = line.sample?.bind fun sample =>
      if metric <+: sample.name then blockLabel label (blockOf sample) else none := by
  cases line with
  | sample shown => exact lineLabel_sample named label shown
  | comment lead text =>
      unfold lineLabel
      rw [sampleLine_comment]
      rfl
  | blank blanks =>
      unfold lineLabel
      rw [sampleLine_blank]
      rfl

/-- A label is looked up in the blocks of the metrics whose names start with the
name that is looked for. -/
theorem infoLabel_eq {text : Text} {lines : List Line} (exposes : Exposes text lines)
    {metric : String} (named : IsMetricName metric.toList) (label : String) :
    infoLabel text metric label = (samples lines).findSome? fun sample =>
      if metric.toList <+: sample.name then blockLabel label.toList (blockOf sample)
      else none := by
  have perLine : lineLabel metric.toList label.toList ∘ Line.chars =
      fun line => line.sample?.bind fun sample =>
        if metric.toList <+: sample.name then blockLabel label.toList (blockOf sample)
        else none :=
    funext fun line => lineLabel_line named label.toList line
  unfold infoLabel
  rw [exposes, List.findSome?_map, perLine, findSome?_bind_sample?]

/-! ## The first match -/

/-- The name of the sample's metric starts with the metric, and the first `label=` up to
the first closing brace is directly followed by the value in quotes. -/
def Matches (metric label : Text) (sample : Sample) (value : Text) : Prop :=
  metric <+: sample.name ∧ Quotes label (blockOf sample) value

/-- The first sample with a match matches a value that the label has on a sample of the
metric; without a match no sample of the metric has the label. -/
def FirstMatchCarried (metric label : Text) (samples : List Sample) : Prop :=
  (∃ before sample after value, samples = before ++ sample :: after ∧
    Matches metric label sample value ∧
    (∀ other ∈ before, ∀ value, ¬ Matches metric label other value) ∧
    Carries samples metric label value) ∨
  ((∀ sample ∈ samples, ∀ value, ¬ Matches metric label sample value) ∧
    ∀ value, ¬ Carries samples metric label value)

theorem blockLabel_eq_some_iff_matches {metric label value : Text} {sample : Sample} :
    (if metric <+: sample.name then blockLabel label (blockOf sample) else none) = some value ↔
      Matches metric label sample value := by
  rw [Option.ite_none_right_eq_some, blockLabel_eq_some_iff]
  rfl

theorem blockLabel_eq_none_iff_matches {metric label : Text} {sample : Sample} :
    (if metric <+: sample.name then blockLabel label (blockOf sample) else none) = none ↔
      ∀ value, ¬ Matches metric label sample value := by
  simp only [Option.eq_none_iff_forall_ne_some, ne_eq, blockLabel_eq_some_iff_matches]

theorem infoLabel_eq_some_iff {text : Text} {lines : List Line} (exposes : Exposes text lines)
    {metric : String} (named : IsMetricName metric.toList) (label : String) (value : Text) :
    infoLabel text metric label = some value ↔
      ∃ before sample after, samples lines = before ++ sample :: after ∧
        Matches metric.toList label.toList sample value ∧
        ∀ other ∈ before, ∀ value, ¬ Matches metric.toList label.toList other value := by
  rw [infoLabel_eq exposes named, List.findSome?_eq_some_iff]
  simp only [blockLabel_eq_some_iff_matches, blockLabel_eq_none_iff_matches]

theorem infoLabel_eq_none_iff {text : Text} {lines : List Line} (exposes : Exposes text lines)
    {metric : String} (named : IsMetricName metric.toList) (label : String) :
    infoLabel text metric label = none ↔
      ∀ sample ∈ samples lines, ∀ value, ¬ Matches metric.toList label.toList sample value := by
  rw [infoLabel_eq exposes named, List.findSome?_eq_none_iff]
  simp only [blockLabel_eq_none_iff_matches]

theorem exactLabel_iff {text : Text} {lines : List Line} (exposes : Exposes text lines)
    {metric label : String} (named : IsMetricName metric.toList) :
    ExactLabel text lines metric label ↔
      FirstMatchCarried metric.toList label.toList (samples lines) := by
  constructor
  · intro exact
    cases found : infoLabel text metric label with
    | some value =>
        obtain ⟨before, sample, after, split, matched, earlier⟩ :=
          (infoLabel_eq_some_iff exposes named label value).mp found
        exact .inl ⟨before, sample, after, value, split, matched, earlier, exact.sound value found⟩
    | none =>
        refine .inr ⟨(infoLabel_eq_none_iff exposes named label).mp found, fun value carries => ?_⟩
        have present := exact.complete ⟨value, carries⟩
        rw [found] at present
        cases present
  · rintro (⟨before, sample, after, value, split, matched, earlier, carries⟩ | ⟨unmatched, absent⟩)
    · have found := (infoLabel_eq_some_iff exposes named label value).mpr
        ⟨before, sample, after, split, matched, earlier⟩
      refine ⟨fun other same => ?_, fun _ => by rw [found]; rfl⟩
      rw [found] at same
      exact Option.some.inj same ▸ carries
    · have missing := (infoLabel_eq_none_iff exposes named label).mpr unmatched
      refine ⟨fun value found => ?_, fun ⟨value, carries⟩ => absurd carries (absent value)⟩
      rw [missing] at found
      cases found

/-! ## Undisturbed labels -/

/-- Nothing on the line looks like the label with its value. -/
def Harmless (metric label : Text) (sample : Sample) : Prop :=
  metric <+: sample.name → ∀ before after, blockOf sample = before ++ (label ++ ['=']) ++ after →
    after.head? ≠ some '"' ∧ after.head? ≠ some '\''

theorem blockLabel_of_harmless {metric label : Text} {sample : Sample}
    (harmless : Harmless metric label sample) :
    (if metric <+: sample.name then blockLabel label (blockOf sample) else none) = none := by
  by_cases starts : metric <+: sample.name
  · rw [if_pos starts]
    unfold blockLabel
    cases found : afterFirst (label ++ ['=']) (blockOf sample) with
    | none => rfl
    | some after =>
        obtain ⟨before, split⟩ := exists_of_afterFirst found
        obtain ⟨noQuote, noSingle⟩ := harmless starts before after split
        cases after with
        | nil => rfl
        | cons first after =>
            have other : ¬ (first = '"' ∨ first = '\'') := by
              rintro (rfl | rfl)
              · exact noQuote rfl
              · exact noSingle rfl
            change (if (first = '"' ∨ first = '\'') ∧ first ∈ after then _ else none) = none
            rw [if_neg fun both => other both.1]
  · rw [if_neg starts]

/-- The text between the opening brace and the name of a label. -/
def leadText (before : List Pair) (pair : Pair) : Text :=
  (before.flatMap fun other => other.chars ++ [',']) ++ pair.beforeName

/-- The sample is of the metric and has the label: nothing before it looks like
the label or closes the braces, it is written without blanks, and its value is
spelled as it is. -/
structure Clear (metric label : Text) (sample : Sample) : Prop where
  name : sample.name = metric
  spelled : ∃ before pair after, sample.pairs = before ++ pair :: after ∧ pair.name = label ∧
    (∀ other ∈ before, other.name ≠ label) ∧ pair.beforeEquals.val = [] ∧
    pair.afterEquals.val = [] ∧ IsSimple pair.value ∧ '}' ∉ leadText before pair ++ pair.value ∧
    ¬ (label ++ ['=']) <:+: leadText before pair

theorem pairsText_append (before after : List Pair) (pair : Pair) :
    pairsText (before ++ pair :: after) =
      (before.flatMap fun other => other.chars ++ [',']) ++ pairsText (pair :: after) := by
  induction before with
  | nil => rfl
  | cons other before ih =>
      rw [List.cons_append, List.flatMap_cons, List.append_assoc, ← ih]
      cases before <;> simp [pairsText]

theorem exists_pairsText_cons (pair : Pair) (after : List Pair) :
    ∃ rest, pairsText (pair :: after) = pair.chars ++ rest := by
  cases after with
  | nil => exact ⟨[], by simp [pairsText]⟩
  | cons next after => exact ⟨_, rfl⟩

theorem escape_of_isSimple {value : Text} (simple : IsSimple value) : escape value = value := by
  obtain ⟨noQuote, noEscape, noBreak⟩ := simple
  induction value with
  | nil => rfl
  | cons char value ih =>
      simp only [List.mem_cons, not_or] at noQuote noEscape noBreak
      have same : escapeChar char = [char] := by
        rw [escapeChar, if_neg (Ne.symm noEscape.1), if_neg (Ne.symm noQuote.1),
          if_neg (Ne.symm noBreak.1)]
      rw [escape_cons, same, ih noQuote.2 noEscape.2 noBreak.2]
      rfl

theorem labelOf_of_first {metric label : Text} {sample : Sample} (sameName : sample.name = metric)
    {before after : List Pair} {pair : Pair} (listed : sample.pairs = before ++ pair :: after)
    (labelled : pair.name = label) (earlier : ∀ other ∈ before, other.name ≠ label) :
    labelOf metric label sample = some pair.value := by
  have skip : before.find? (fun other => decide (other.name = label)) = none := by
    rw [List.find?_eq_none]
    intro other member
    simpa using earlier other member
  rw [labelOf, if_pos sameName, listed, List.find?_append, skip, Option.none_or,
    List.find?_cons_of_pos (by simpa using labelled)]
  rfl

/-- Where the label is clear, the search finds it. -/
theorem blockLabel_of_clear {metric label : Text} (labelNamed : IsName label) {sample : Sample}
    (clear : Clear metric label sample) :
    (if metric <+: sample.name then blockLabel label (blockOf sample) else none) =
      labelOf metric label sample ∧ (labelOf metric label sample).isSome := by
  obtain ⟨sameName, before, pair, after, listed, labelled, earlier, tight, tightValue, simple,
    unclosed, absent⟩ := clear
  have plain : '=' ∉ label := not_mem_name labelNamed (by decide)
  have own := labelOf_of_first sameName listed labelled earlier
  obtain ⟨braces, braced, samePairs⟩ :=
    exists_braces_of_mem (by rw [listed]; exact List.mem_append_right _ List.mem_cons_self)
  have whole : ∃ rest, braces.inside =
      leadText before pair ++ (label ++ '=' :: '"' :: (pair.value ++ '"' :: rest)) := by
    obtain ⟨rest, cons⟩ := exists_pairsText_cons pair after
    refine ⟨pair.afterValue ++ rest ++ (if braces.comma then [','] else []) ++ braces.closing, ?_⟩
    rw [Braces.inside, ← samePairs, listed, pairsText_append, cons]
    simp [Pair.chars, leadText, labelled, tight, tightValue, escape_of_isSimple simple]
  obtain ⟨rest, whole⟩ := whole
  have labelUnclosed : '}' ∉ label := not_mem_name labelNamed (by decide)
  have seen : blockOf sample = leadText before pair ++
      (label ++ '=' :: '"' :: (pair.value ++ '"' :: rest.takeWhile fun char => char ≠ '}')) := by
    have shape : leadText before pair ++ (label ++ '=' :: '"' :: (pair.value ++ '"' :: rest)) =
        (leadText before pair ++ label ++ '=' :: '"' :: pair.value ++ ['"']) ++ rest := by
      simp
    have unclosedHead : '}' ∉ leadText before pair ++ label ++ '=' :: '"' :: pair.value ++ ['"'] := by
      simp only [List.mem_append, not_or] at unclosed
      simp [unclosed, labelUnclosed]
    rw [blockOf_of_braces braced, whole, shape,
      List.takeWhile_append_of_pos (UnicodeText.ne_of_not_mem unclosedHead)]
    simp
  refine ⟨?_, by rw [own]; rfl⟩
  rw [if_pos (by rw [sameName]), own, seen]
  unfold blockLabel
  rw [afterFirst_lead plain absent, Option.bind_some]
  obtain ⟨noQuote, -, -⟩ := simple
  have quoted : '"' ∈ pair.value ++ '"' :: rest.takeWhile fun char => char ≠ '}' := by simp
  change (if _ then some ((pair.value ++ '"' :: _).takeWhile fun char => char ≠ '"') else none) = _
  rw [if_pos ⟨.inl rfl, quoted⟩, UnicodeText.takeWhile_ne_append noQuote]

/-- Up to the first sample with the label, nothing looks like the label, and
there the label is clear. -/
def Undisturbed (metric label : Text) : List Sample → Prop
  | [] => True
  | sample :: samples => Clear metric label sample ∨
      labelOf metric label sample = none ∧ Harmless metric label sample ∧
        Undisturbed metric label samples

theorem findSome?_of_undisturbed {metric label : Text} (labelNamed : IsName label)
    {samples : List Sample} (undisturbed : Undisturbed metric label samples) :
    (samples.findSome? fun sample =>
      if metric <+: sample.name then blockLabel label (blockOf sample) else none) =
        firstLabel metric label samples := by
  induction samples with
  | nil => rfl
  | cons sample samples ih =>
      unfold firstLabel at ih ⊢
      rw [List.findSome?_cons, List.findSome?_cons]
      rcases undisturbed with clear | ⟨absent, harmless, later⟩
      · obtain ⟨found, present⟩ := blockLabel_of_clear labelNamed clear
        obtain ⟨value, own⟩ := Option.isSome_iff_exists.mp present
        rw [found, own]
      · rw [blockLabel_of_harmless harmless, absent]
        exact ih later

/-! ## Labels that are written without blanks -/

/-- The labels of the sample are written without blanks, and their values are
bare. -/
def PlainLabels (sample : Sample) : Prop :=
  ∀ braces, sample.braces = some braces → braces.comma = false ∧ braces.closing.val = [] ∧
    ∀ pair ∈ braces.pairs, (pair.beforeName.val = [] ∧ pair.beforeEquals.val = [] ∧
      pair.afterEquals.val = [] ∧ pair.afterValue.val = []) ∧ IsBare pair.value

/-- The value of the first label whose name ends in the label. -/
def suffixLabel (label : Text) (sample : Sample) : Option Text :=
  (sample.pairs.find? fun pair => decide (label <:+ pair.name)).map Pair.value

/-- The same for the first sample whose metric's name starts with the metric. -/
def firstHit (metric label : Text) (samples : List Sample) : Option Text :=
  samples.findSome? fun sample =>
    if metric <+: sample.name then suffixLabel label sample else none

def labelsOf (sample : Sample) : List Label :=
  sample.pairs.map fun pair => (pair.name, pair.value)

theorem pairsText_of_plain {pairs : List Pair}
    (plain : ∀ pair ∈ pairs, (pair.beforeName.val = [] ∧ pair.beforeEquals.val = [] ∧
      pair.afterEquals.val = [] ∧ pair.afterValue.val = []) ∧ IsBare pair.value) :
    pairsText pairs = renderLabels (pairs.map fun pair => (pair.name, pair.value)) := by
  induction pairs with
  | nil => rfl
  | cons pair pairs ih =>
      obtain ⟨⟨before, beforeEquals, afterEquals, afterValue⟩, simple, -, -⟩ := plain pair (by simp)
      have own : pair.chars = renderLabel (pair.name, pair.value) := by
        simp [Pair.chars, renderLabel, before, beforeEquals, afterEquals, afterValue,
          escape_of_isSimple simple]
      have later := ih fun other member => plain other (by simp [member])
      cases pairs with
      | nil => exact own
      | cons next pairs =>
          rw [List.map_cons] at later ⊢
          rw [List.map_cons, pairsText, renderLabels, own, later]

theorem blockLabel_of_plain {label : Text} (labelNamed : IsName label) {sample : Sample}
    (plain : PlainLabels sample) : blockLabel label (blockOf sample) = suffixLabel label sample := by
  cases braced : sample.braces with
  | none =>
      rw [blockOf_of_unbraced braced, blockLabel_nil, suffixLabel, pairs_of_unbraced braced]
      rfl
  | some braces =>
      obtain ⟨noComma, noClosing, pairs⟩ := plain braces braced
      have samePairs := pairs_of_braces braced
      have bare : BareLabels (labelsOf sample) := by
        intro label member
        obtain ⟨pair, listed, rfl⟩ := List.mem_map.mp member
        rw [samePairs] at listed
        exact ⟨pair.named, (pairs pair listed).2⟩
      have inside : braces.inside = renderLabels (labelsOf sample) := by
        rw [Braces.inside, noComma, noClosing, pairsText_of_plain pairs, labelsOf, samePairs]
        simp
      have seen : blockOf sample = renderLabels (labelsOf sample) := by
        rw [blockOf_of_braces braced, inside, List.takeWhile_eq_self_iff]
        exact UnicodeText.ne_of_not_mem (brace_not_mem_renderLabels bare)
      rw [seen, blockLabel_renderLabels labelNamed bare, suffixLabel, labelsOf, List.find?_map,
        Option.map_map]
      rfl

/-- Where the labels are written without blanks, what is returned comes from the
first metric whose name starts with the metric and has a label whose name ends
in the label. -/
theorem infoLabel_of_plain {text : Text} {lines : List Line} (exposes : Exposes text lines)
    {metric label : String} (named : IsMetricName metric.toList) (labelNamed : IsName label.toList)
    (plain : ∀ sample ∈ samples lines, metric.toList <+: sample.name → PlainLabels sample) :
    infoLabel text metric label = firstHit metric.toList label.toList (samples lines) := by
  rw [infoLabel_eq exposes named]
  unfold firstHit
  generalize samples lines = listed at plain
  induction listed with
  | nil => rfl
  | cons sample listed ih =>
      have later := ih fun other member => plain other (by simp [member])
      rw [List.findSome?_cons, List.findSome?_cons, later]
      by_cases starts : metric.toList <+: sample.name
      · rw [if_pos starts, if_pos starts, blockLabel_of_plain labelNamed (plain sample (by simp) starts)]
      · rw [if_neg starts, if_neg starts]

/-- A label that is carried is hit, by itself or by another one. -/
theorem isSome_firstHit {samples : List Sample} {metric label value : Text}
    (carries : Carries samples metric label value) : (firstHit metric label samples).isSome := by
  obtain ⟨sample, member, same, pair, listed, named, -⟩ := carries
  unfold firstHit
  rw [List.findSome?_isSome_iff]
  refine ⟨sample, member, ?_⟩
  rw [if_pos (by rw [same]), suffixLabel, Option.isSome_map, List.find?_isSome]
  exact ⟨pair, listed, by simp [named]⟩

/-! ## When labels are exact -/

/-- What is known of a lookup.  It is exact when, and only when, the first match is a
value of the label, as it is where nothing disturbs the label; on labels that are written
without blanks the first match is at the first label whose name ends in the label.  The
capacity is read from values of its two labels where both lookups are exact, and from the
first of them where neither is disturbed. -/
structure LabelVerdict (text : Text) (lines : List Line) (metric label : String) : Prop where
  exact : ExactLabel text lines metric label ↔
    FirstMatchCarried metric.toList label.toList (samples lines)
  undisturbed : Undisturbed metric.toList label.toList (samples lines) →
    ExactLabel text lines metric label
  plain : (∀ sample ∈ samples lines, metric.toList <+: sample.name → PlainLabels sample) →
    (ExactLabel text lines metric label ↔
      ∀ value, firstHit metric.toList label.toList (samples lines) = some value →
        Carries (samples lines) metric.toList label.toList value)
  reported : ExactLabel text lines cacheConfigInfo "block_size" →
    ExactLabel text lines cacheConfigInfo "num_gpu_blocks" →
    ∀ reported, parseCapacity text = some reported → ∃ blockSize numGpuBlocks,
      Carries (samples lines) cacheConfigInfo.toList "block_size".toList blockSize ∧
      Carries (samples lines) cacheConfigInfo.toList "num_gpu_blocks".toList numGpuBlocks ∧
      parseUInt32 blockSize = some reported.blockSize ∧
      parseUInt32 numGpuBlocks = some reported.numGpuBlocks
  capacity : Undisturbed cacheConfigInfo.toList "block_size".toList (samples lines) →
    Undisturbed cacheConfigInfo.toList "num_gpu_blocks".toList (samples lines) →
    parseCapacity text = capacityOf (samples lines)

theorem infoLabel_of_undisturbed {text : Text} {lines : List Line}
    (exposes : Exposes text lines) {metric label : String}
    (named : IsMetricName metric.toList) (labelNamed : IsName label.toList)
    (undisturbed : Undisturbed metric.toList label.toList (samples lines)) :
    infoLabel text metric label = firstLabel metric.toList label.toList (samples lines) := by
  rw [infoLabel_eq exposes named, findSome?_of_undisturbed labelNamed undisturbed]

theorem isMetricName_cacheConfigInfo : IsMetricName cacheConfigInfo.toList :=
  ⟨List.all_eq_true.mp (by decide), 'v', _, rfl, by decide⟩

theorem isName_blockSize : IsName "block_size".toList :=
  ⟨List.all_eq_true.mp (by decide), 'b', _, rfl, by decide⟩

theorem isName_numGpuBlocks : IsName "num_gpu_blocks".toList :=
  ⟨List.all_eq_true.mp (by decide), 'n', _, rfl, by decide⟩

def plainPair (name value : String) (named : IsName name.toList) : Pair where
  beforeName := .none
  name := name.toList
  named := named
  beforeEquals := .none
  afterEquals := .none
  value := value.toList
  afterValue := .none

def configSample (pairs : List Pair) : Sample where
  lead := .none
  name := cacheConfigInfo.toList
  named := isMetricName_cacheConfigInfo
  braces := some { before := .none, pairs, comma := false, listed := nofun, closing := .none }
  gap := .space
  separated := nofun
  value := ['1']
  numeric := ⟨by decide, List.all_eq_true.mp (by decide)⟩
  timestamp := none
  trail := .none

/-- A label that the search does not see, for the blank behind its name. -/
def blankPair : Pair := { plainPair "block_size" "8" isName_blockSize with beforeEquals := .space }

theorem isName_engine : IsName "engine".toList :=
  ⟨List.all_eq_true.mp (by decide), 'e', _, rfl, by decide⟩

/-- Three samples of the metric, of which only the last one has a match. -/
def laterLines : List Line :=
  [.sample (configSample [blankPair]),
    .sample (configSample [plainPair "engine" "block_size=5 block_size='x'" isName_engine]),
    .sample (configSample [plainPair "block_size" "16" isName_blockSize,
      plainPair "num_gpu_blocks" "512" isName_numGpuBlocks])]

def laterText : Text :=
  "vllm:cache_config_info\x7bblock_size =\"8\"\x7d 1\n".toList ++
    "vllm:cache_config_info\x7bengine=\"block_size=5 block_size='x'\"\x7d 1\n".toList ++
    "vllm:cache_config_info\x7bblock_size=\"16\",num_gpu_blocks=\"512\"\x7d 1\n".toList

theorem isName_cpuBlockSize : IsName "cpu_block_size".toList :=
  ⟨List.all_eq_true.mp (by decide), 'c', _, rfl, by decide⟩

def suffixedSample : Sample := configSample [plainPair "cpu_block_size" "8" isName_cpuBlockSize,
  plainPair "block_size" "16" isName_blockSize,
  plainPair "num_gpu_blocks" "512" isName_numGpuBlocks]

def suffixedText : Text :=
  "vllm:cache_config_info\x7bcpu_block_size=\"8\",block_size=\"16\",num_gpu_blocks=\"512\"\x7d 1\n".toList

end KeelRouter
