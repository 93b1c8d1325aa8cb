import Mathlib.Data.List.Basic

/-!
# Samples of the text exposition format

A sample names a metric and lists its labels in braces, each as a name and a
quoted value: `metric{first="1",second="2"} 1`.  Blanks may stand between any
two tokens, a comma may follow the last label, and a quote or a backslash
inside a value is escaped.  Values are kept the way they are spelled.

The samples that are written without blanks are read back.
-/

namespace Exposition

abbrev Label := List Char × List Char

def isBlank (char : Char) : Bool := char = ' ' || char = '\t'

def isNameChar (char : Char) : Bool := char.isAlphanum || char = '_'

def IsName (name : List Char) : Prop :=
  (∀ char ∈ name, isNameChar char = true) ∧ ∃ first rest, name = first :: rest ∧
    first.isDigit = false

/-- The spelling of a value up to its closing quote, and what follows. -/
def readValue : List Char → Option (List Char × List Char)
  | [] => none
  | '"' :: text => some ([], text)
  | '\\' :: escaped :: text =>
      (readValue text).map fun (value, rest) => ('\\' :: escaped :: value, rest)
  | char :: text =>
      if char = '\n' then none
      else (readValue text).map fun (value, rest) => (char :: value, rest)

/-- A name, an equals sign and a quoted value. -/
def readLabel (text : List Char) : Option (Label × List Char) :=
  let name := text.takeWhile isNameChar
  if name.head?.all Char.isDigit then none
  else
    match (text.dropWhile isNameChar).dropWhile isBlank with
    | '=' :: text =>
        match text.dropWhile isBlank with
        | '"' :: text => (readValue text).map fun (value, rest) => ((name, value), rest)
        | _ => none
    | _ => none

/-- The labels up to the closing brace, and what follows it. -/
def readLabels : Nat → List Char → Option (List Label × List Char)
  | 0, _ => none
  | fuel + 1, text =>
      match text.dropWhile isBlank with
      | '}' :: rest => some ([], rest)
      | text =>
          (readLabel text).bind fun (label, rest) =>
            match rest.dropWhile isBlank with
            | ',' :: rest => (readLabels fuel rest).map fun (labels, rest) =>
                (label :: labels, rest)
            | '}' :: rest => some ([label], rest)
            | _ => none

/-- The labels of a line that is a sample of the metric. -/
def readSample (metric line : List Char) : Option (List Label) :=
  (line.dropPrefix? metric).bind fun after =>
    match after.dropWhile isBlank with
    | '{' :: text => (readLabels (text.length + 1) text).map Prod.fst
    | _ => none

/-! ## Writing -/

def renderLabel (label : Label) : List Char :=
  label.1 ++ '=' :: '"' :: label.2 ++ ['"']

def renderLabels : List Label → List Char
  | [] => []
  | [label] => renderLabel label
  | label :: next :: labels => renderLabel label ++ ',' :: renderLabels (next :: labels)

def renderSample (metric : List Char) (labels : List Label) (tail : List Char) : List Char :=
  metric ++ '{' :: renderLabels labels ++ '}' :: tail

/-- A value without quotes, escapes and line ends. -/
def IsSimple (value : List Char) : Prop :=
  '"' ∉ value ∧ '\\' ∉ value ∧ '\n' ∉ value

theorem readValue_append {value : List Char} (simple : IsSimple value) (text : List Char) :
    readValue (value ++ '"' :: text) = some (value, text) := by
  obtain ⟨noQuote, noEscape, noBreak⟩ := simple
  induction value with
  | nil => rfl
  | cons char value ih =>
      simp only [List.mem_cons, not_or] at noQuote noEscape noBreak
      have rest := ih noQuote.2 noEscape.2 noBreak.2
      rw [List.cons_append, readValue.eq_4]
      · rw [if_neg fun same => noBreak.1 same.symm, rest]
        rfl
      · exact fun same => noQuote.1 same.symm
      · intro escaped later same
        exact absurd same.symm noEscape.1

theorem readLabel_renderLabel {label : Label} (named : IsName label.1)
    (simple : IsSimple label.2) (text : List Char) :
    readLabel (renderLabel label ++ text) = some (label, text) := by
  obtain ⟨nameChars, first, rest, spelled, notDigit⟩ := named
  have whole : renderLabel label ++ text =
      label.1 ++ '=' :: '"' :: (label.2 ++ '"' :: text) := by
    simp [renderLabel]
  have stop : isNameChar '=' = false := by decide
  have name : (renderLabel label ++ text).takeWhile isNameChar = label.1 := by
    rw [whole, List.takeWhile_append_of_pos nameChars, List.takeWhile_cons, stop]
    simp
  have after : (renderLabel label ++ text).dropWhile isNameChar =
      '=' :: '"' :: (label.2 ++ '"' :: text) := by
    rw [whole, List.dropWhile_append_of_pos nameChars, List.dropWhile_cons, stop]
    simp
  have started : (label.1.head?.all Char.isDigit) = false := by
    rw [spelled]
    simpa using notDigit
  unfold readLabel
  simp only [name, after, started]
  simp [isBlank, readValue_append simple]

/-- Text that starts with a name is read as a label and what separates it. -/
theorem readLabels_of_name {first : Char} (named : isNameChar first = true) (fuel : Nat)
    (text : List Char) :
    readLabels (fuel + 1) (first :: text) =
      (readLabel (first :: text)).bind fun (label, rest) =>
        match rest.dropWhile isBlank with
        | ',' :: rest => (readLabels fuel rest).map fun (labels, rest) => (label :: labels, rest)
        | '}' :: rest => some ([label], rest)
        | _ => none := by
  have notBlank : isBlank first = false := by
    rcases Bool.eq_false_or_eq_true (isBlank first) with blank | notBlank
    · unfold isBlank at blank
      rcases Bool.or_eq_true_iff.mp blank with same | same <;>
        rw [of_decide_eq_true same] at named <;> exact absurd named (by decide)
    · exact notBlank
  have kept : (first :: text).dropWhile isBlank = first :: text := by
    rw [List.dropWhile_cons, notBlank]
    rfl
  rw [readLabels.eq_2, kept]
  split
  · rename_i closed
    obtain ⟨rfl, -⟩ := List.cons.inj closed
    exact absurd named (by decide)
  · rfl

theorem readLabels_renderLabels {labels : List Label}
    (wellFormed : ∀ label ∈ labels, IsName label.1 ∧ IsSimple label.2) (tail : List Char)
    {fuel : Nat} (enough : labels.length < fuel) :
    readLabels fuel (renderLabels labels ++ '}' :: tail) = some (labels, tail) := by
  have begins {label : Label} (named : IsName label.1) (text : List Char) :
      ∃ first rest, isNameChar first = true ∧ renderLabel label ++ text = first :: rest := by
    obtain ⟨nameChars, first, rest, spelled, -⟩ := named
    refine ⟨first, rest ++ '=' :: '"' :: label.2 ++ ['"'] ++ text, ?_, ?_⟩
    · exact nameChars first (by simp [spelled])
    · simp [renderLabel, spelled]
  induction labels generalizing fuel with
  | nil =>
      obtain ⟨fuel, rfl⟩ : ∃ less, fuel = less + 1 := ⟨fuel - 1, by simp at enough; omega⟩
      rfl
  | cons label labels ih =>
      obtain ⟨fuel, rfl⟩ : ∃ less, fuel = less + 1 := ⟨fuel - 1, by omega⟩
      obtain ⟨named, simple⟩ := wellFormed label (by simp)
      cases labels with
      | nil =>
          obtain ⟨first, rest, nameChar, starts⟩ := begins named ('}' :: tail)
          have read := readLabel_renderLabel named simple ('}' :: tail)
          change readLabels (fuel + 1) (renderLabel label ++ '}' :: tail) = _
          rw [starts] at read ⊢
          rw [readLabels_of_name nameChar, read]
          rfl
      | cons next labels =>
          have rest := ih (fun other member => wellFormed other (by simp [member]))
            (by simp at enough ⊢; omega : (next :: labels).length < fuel)
          have whole : renderLabels (label :: next :: labels) ++ '}' :: tail =
              renderLabel label ++ ',' :: (renderLabels (next :: labels) ++ '}' :: tail) := by
            simp [renderLabels]
          obtain ⟨first, later, nameChar, starts⟩ := begins named
            (',' :: (renderLabels (next :: labels) ++ '}' :: tail))
          have read := readLabel_renderLabel named simple
            (',' :: (renderLabels (next :: labels) ++ '}' :: tail))
          rw [whole]
          rw [starts] at read ⊢
          rw [readLabels_of_name nameChar, read, Option.bind_some]
          change (readLabels fuel (renderLabels (next :: labels) ++ '}' :: tail)).map _ = _
          rw [rest]
          rfl

theorem length_le_renderLabels (labels : List Label) :
    labels.length ≤ (renderLabels labels).length := by
  induction labels with
  | nil => exact Nat.le_refl 0
  | cons label labels ih =>
      cases labels with
      | nil =>
          simp only [renderLabels, renderLabel, List.length_append, List.length_cons]
          omega
      | cons next labels =>
          simp only [renderLabels, List.length_append, List.length_cons] at ih ⊢
          omega

/-- A sample that is written without blanks is read back. -/
theorem readSample_renderSample (metric : List Char) {labels : List Label}
    (wellFormed : ∀ label ∈ labels, IsName label.1 ∧ IsSimple label.2) (tail : List Char) :
    readSample metric (renderSample metric labels tail) = some labels := by
  have cut : (renderSample metric labels tail).dropPrefix? metric =
      some ('{' :: renderLabels labels ++ '}' :: tail) := by
    rw [List.dropPrefix?_eq_some_iff]
    exact ⟨metric, by simp [renderSample], by simp⟩
  have enough : labels.length < (renderLabels labels ++ '}' :: tail).length + 1 := by
    have listed := length_le_renderLabels labels
    rw [List.length_append]
    omega
  have read := readLabels_renderLabels wellFormed tail enough
  unfold readSample
  rw [cut, Option.bind_some]
  change (readLabels ((renderLabels labels ++ '}' :: tail).length + 1)
    (renderLabels labels ++ '}' :: tail)).map _ = _
  rw [read]
  rfl

end Exposition
