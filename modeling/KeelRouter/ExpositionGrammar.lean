import KeelRouter.Exposition

/-!
# The lines of a text exposition

A line is a sample, a comment or blank.  A sample has a metric name, labels in
braces, a value and a time stamp, of which the labels and the time stamp may be
missing; blanks may stand between all of them.  The value of a label is any
text, with its backslashes, quotes and line feeds escaped.
-/

namespace Exposition

abbrev Blanks := {text : List Char // ∀ char ∈ text, isBlank char = true}

def Blanks.none : Blanks := ⟨[], by simp⟩

def Blanks.space : Blanks := ⟨[' '], List.all_eq_true.mp (by decide)⟩

def isMetricChar (char : Char) : Bool := isNameChar char || char = ':'

def IsMetricName (name : List Char) : Prop :=
  (∀ char ∈ name, isMetricChar char = true) ∧ ∃ first rest, name = first :: rest ∧
    first.isDigit = false

/-- The characters of numbers, the special values among them. -/
def isNumberChar (char : Char) : Bool :=
  char.isAlphanum || char = '+' || char = '-' || char = '.' || char = '_'

def escapeChar (char : Char) : List Char :=
  if char = '\\' then ['\\', '\\']
  else if char = '"' then ['\\', '"']
  else if char = '\n' then ['\\', 'n']
  else [char]

def escape (value : List Char) : List Char :=
  value.flatMap escapeChar

/-- A label with the blanks around its tokens. -/
structure Pair where
  beforeName : Blanks
  name : List Char
  named : IsName name
  beforeEquals : Blanks
  afterEquals : Blanks
  value : List Char
  afterValue : Blanks

def Pair.chars (pair : Pair) : List Char :=
  pair.beforeName ++ pair.name ++ pair.beforeEquals ++ '=' :: pair.afterEquals ++
    '"' :: escape pair.value ++ '"' :: pair.afterValue

def pairsText : List Pair → List Char
  | [] => []
  | [pair] => pair.chars
  | pair :: next :: pairs => pair.chars ++ ',' :: pairsText (next :: pairs)

/-- Labels in braces; a comma may follow the last one. -/
structure Braces where
  before : Blanks
  pairs : List Pair
  comma : Bool
  listed : comma = true → pairs ≠ []
  closing : Blanks

def Braces.inside (braces : Braces) : List Char :=
  pairsText braces.pairs ++ (if braces.comma then [','] else []) ++ braces.closing

def Braces.chars (braces : Braces) : List Char :=
  braces.before ++ '{' :: (braces.inside ++ ['}'])

/-- The time of a sample in milliseconds. -/
structure Timestamp where
  gap : Blanks
  separated : gap.val ≠ []
  negative : Bool
  digits : List Char
  numeric : digits ≠ [] ∧ ∀ char ∈ digits, char.isDigit = true

def Timestamp.chars (timestamp : Timestamp) : List Char :=
  timestamp.gap ++ (if timestamp.negative then ['-'] else []) ++ timestamp.digits

structure Sample where
  lead : Blanks
  name : List Char
  named : IsMetricName name
  braces : Option Braces
  gap : Blanks
  separated : braces.isNone → gap.val ≠ []
  value : List Char
  numeric : value ≠ [] ∧ ∀ char ∈ value, isNumberChar char = true
  timestamp : Option Timestamp
  trail : Blanks

namespace Sample

variable (sample : Sample)

def pairs : List Pair := sample.braces.elim [] Braces.pairs

/-- The number of a sample and its time. -/
def number : List Char := sample.value ++ sample.timestamp.elim [] Timestamp.chars

/-- What follows the name of the metric, up to the last number. -/
def afterName : List Char :=
  sample.braces.elim [] Braces.chars ++ (sample.gap ++ sample.number)

def chars : List Char := sample.lead ++ (sample.name ++ sample.afterName) ++ sample.trail

end Sample

inductive Line where
  | sample (sample : Sample)
  | comment (lead : Blanks) (text : List Char)
  | blank (blanks : Blanks)

namespace Line

def chars : Line → List Char
  | .sample shown => shown.chars
  | .comment lead text => lead ++ '#' :: text
  | .blank blanks => blanks

def sample? : Line → Option Sample
  | .sample shown => some shown
  | .comment _ _ | .blank _ => none

end Line

/-- The samples among some lines, in order. -/
def samples (lines : List Line) : List Sample := lines.filterMap Line.sample?

/-! ## The labels of a sample -/

theorem pairs_of_braces {sample : Sample} {braces : Braces}
    (braced : sample.braces = some braces) : sample.pairs = braces.pairs := by
  rw [Sample.pairs, braced]
  rfl

theorem pairs_of_unbraced {sample : Sample} (braced : sample.braces = none) :
    sample.pairs = [] := by
  rw [Sample.pairs, braced]
  rfl

/-- Only braces hold labels. -/
theorem exists_braces_of_mem {sample : Sample} {pair : Pair} (listed : pair ∈ sample.pairs) :
    ∃ braces, sample.braces = some braces ∧ sample.pairs = braces.pairs := by
  cases braced : sample.braces with
  | none =>
      rw [pairs_of_unbraced braced] at listed
      cases listed
  | some braces => exact ⟨braces, rfl, pairs_of_braces braced⟩

/-! ## Characters -/

theorem escape_cons (char : Char) (value : List Char) :
    escape (char :: value) = escapeChar char ++ escape value := rfl

theorem eq_of_isBlank {char : Char} (blank : isBlank char = true) : char = ' ' ∨ char = '\t' := by
  simpa [isBlank] using blank

theorem not_mem_blanks (blanks : Blanks) {char : Char} (visible : isBlank char = false) :
    char ∉ blanks.val := by
  intro member
  rw [blanks.property char member] at visible
  cases visible

theorem not_mem_name {name : List Char} (named : IsName name) {char : Char}
    (other : isNameChar char = false) : char ∉ name := by
  intro member
  rw [named.1 char member] at other
  cases other

theorem toNat_of_isAlphanum {char : Char} (alphanum : char.isAlphanum = true) :
    48 ≤ char.toNat ∧ char.toNat ≤ 122 := by
  have ranges : ((65 ≤ char.toNat ∧ char.toNat ≤ 90) ∨ (97 ≤ char.toNat ∧ char.toNat ≤ 122)) ∨
      (48 ≤ char.toNat ∧ char.toNat ≤ 57) := by
    change ((decide (char.val ≥ 65 ∧ char.val ≤ 90) ||
      (decide (char.val ≥ 97) && decide (char.val ≤ 122))) ||
      (decide (char.val ≥ 48) && decide (char.val ≤ 57))) = true at alphanum
    simp only [Bool.or_eq_true, Bool.and_eq_true, decide_eq_true_eq, ge_iff_le,
      UInt32.le_iff_toNat_le] at alphanum
    exact alphanum
  omega

theorem toNat_of_isMetricChar {char : Char} (metric : isMetricChar char = true) :
    48 ≤ char.toNat ∧ char.toNat ≤ 122 := by
  unfold isMetricChar isNameChar at metric
  rcases Bool.or_eq_true_iff.mp metric with named | colon
  · rcases Bool.or_eq_true_iff.mp named with alphanum | underscore
    · exact toNat_of_isAlphanum alphanum
    · rw [of_decide_eq_true underscore]
      decide
  · rw [of_decide_eq_true colon]
    decide

theorem toNat_of_isNumberChar {char : Char} (number : isNumberChar char = true) :
    43 ≤ char.toNat ∧ char.toNat ≤ 122 := by
  simp only [isNumberChar, Bool.or_eq_true, decide_eq_true_eq] at number
  rcases number with (((alphanum | rfl) | rfl) | rfl) | rfl
  · have bounds := toNat_of_isAlphanum alphanum
    omega
  · decide
  · decide
  · decide
  · decide

theorem isNumberChar_of_isDigit {char : Char} (digit : char.isDigit = true) :
    isNumberChar char = true := by
  simp [isNumberChar, Char.isAlphanum, digit]

/-! ## Braces and quotes inside values -/

theorem mem_escape {char : Char} (plain : escapeChar char = [char])
    (unescaped : char ≠ '\\' ∧ char ≠ '"' ∧ char ≠ 'n') (value : List Char) :
    char ∈ escape value ↔ char ∈ value := by
  obtain ⟨notBackslash, notQuote, notLetter⟩ := unescaped
  induction value with
  | nil => simp [escape]
  | cons first value ih =>
      rw [escape_cons, List.mem_append, ih, List.mem_cons]
      apply or_congr_left
      constructor
      · intro member
        unfold escapeChar at member
        split at member
        · simp [notBackslash] at member
        · split at member
          · simp [notBackslash, notQuote] at member
          · split at member
            · simp [notBackslash, notLetter] at member
            · simpa using member
      · rintro rfl
        simp [plain]

/-- A value has the braces of its spelling. -/
theorem brace_mem_escape (value : List Char) : '}' ∈ escape value ↔ '}' ∈ value :=
  mem_escape (by decide) (by decide) value

theorem brace_mem_chars (pair : Pair) : '}' ∈ pair.chars ↔ '}' ∈ pair.value := by
  have unnamed := not_mem_name pair.named (by decide : isNameChar '}' = false)
  have unblank (blanks : Blanks) := not_mem_blanks blanks (by decide : isBlank '}' = false)
  simp [Pair.chars, unnamed, unblank, brace_mem_escape]

theorem mem_pairsText {char : Char} (notComma : char ≠ ',') (pairs : List Pair) :
    char ∈ pairsText pairs ↔ ∃ pair ∈ pairs, char ∈ pair.chars := by
  induction pairs with
  | nil => simp [pairsText]
  | cons pair pairs ih =>
      cases pairs with
      | nil => simp [pairsText]
      | cons next pairs =>
          rw [pairsText, List.mem_append, List.mem_cons, ih]
          simp [notComma]

theorem brace_mem_inside (braces : Braces) :
    '}' ∈ braces.inside ↔ ∃ pair ∈ braces.pairs, '}' ∈ pair.value := by
  have unblank := not_mem_blanks braces.closing (by decide : isBlank '}' = false)
  have uncomma : '}' ∉ (if braces.comma then [','] else []) := by
    split <;> decide
  simp only [Braces.inside, List.mem_append, uncomma, unblank, or_false,
    mem_pairsText (by decide : '}' ≠ ','), brace_mem_chars]

/-- Every closing brace in the text has a quote after it. -/
def BracesQuoted (text : List Char) : Prop :=
  ∀ before after, text = before ++ '}' :: after → '"' ∈ after

theorem bracesQuoted_append {first second : List Char} (firstQuoted : BracesQuoted first)
    (secondQuoted : BracesQuoted second) : BracesQuoted (first ++ second) := by
  intro before after same
  rcases List.append_eq_append_iff.mp same with ⟨middle, rfl, rest⟩ | ⟨middle, rest, same⟩
  · exact secondQuoted middle after rest
  · cases middle with
    | nil => exact secondQuoted [] after (by simpa using same.symm)
    | cons char middle =>
        rw [List.cons_append] at same
        obtain ⟨rfl, rfl⟩ := List.cons.inj same
        exact List.mem_append_left _ (firstQuoted before middle rest)

theorem bracesQuoted_of_not_mem {text : List Char} (noBrace : '}' ∉ text) :
    BracesQuoted text := by
  rintro before after rfl
  exact absurd (by simp) noBrace

theorem bracesQuoted_of_quote (text : List Char) : BracesQuoted (text ++ ['"']) := by
  intro before after same
  rcases after.eq_nil_or_concat with rfl | ⟨others, last, rfl⟩
  · have ends : ['"'] = ['}'] := List.append_inj_right' same rfl
    exact absurd ends (by decide)
  · rw [List.concat_eq_append, ← List.cons_append, ← List.append_assoc] at same
    have ends : ['"'] = [last] := List.append_inj_right' same rfl
    rw [← List.cons.inj ends |>.1]
    simp

theorem bracesQuoted_chars (pair : Pair) : BracesQuoted pair.chars := by
  have shape : pair.chars = (pair.beforeName ++ pair.name ++ pair.beforeEquals ++
      '=' :: pair.afterEquals ++ '"' :: escape pair.value ++ ['"']) ++ pair.afterValue := by
    simp [Pair.chars]
  rw [shape]
  exact bracesQuoted_append (bracesQuoted_of_quote _)
    (bracesQuoted_of_not_mem (not_mem_blanks pair.afterValue (by decide)))

theorem bracesQuoted_pairsText (pairs : List Pair) : BracesQuoted (pairsText pairs) := by
  induction pairs with
  | nil => exact bracesQuoted_of_not_mem List.not_mem_nil
  | cons pair pairs ih =>
      cases pairs with
      | nil => exact bracesQuoted_chars pair
      | cons next pairs =>
          have comma : BracesQuoted [','] := bracesQuoted_of_not_mem (by decide)
          exact bracesQuoted_append (bracesQuoted_chars pair) (bracesQuoted_append comma ih)

theorem bracesQuoted_inside (braces : Braces) : BracesQuoted braces.inside := by
  have uncomma : '}' ∉ (if braces.comma then [','] else []) := by
    split <;> decide
  exact bracesQuoted_append
    (bracesQuoted_append (bracesQuoted_pairsText braces.pairs) (bracesQuoted_of_not_mem uncomma))
    (bracesQuoted_of_not_mem (not_mem_blanks braces.closing (by decide)))

end Exposition
