import KeelRouter.Exposition
import KeelRouter.Scrape

/-!
# The search for a label

A label is looked up by a search for its name and an equals sign in what the
braces of a sample enclose.  The search does not mind what stands before the
name: where values contain no equals sign, it finds the first label whose name
ends in the name that is looked for.
-/

namespace KeelRouter

open Exposition (Label IsName IsSimple isNameChar renderLabel renderLabels renderSample)

theorem afterFirst_of_not_mem {name text : Text} (noEquals : '=' ∉ text) :
    afterFirst (name ++ ['=']) text = none := by
  induction text with
  | nil => simp [afterFirst]
  | cons char text ih =>
      have noMatch : ¬ (name ++ ['=']) <+: char :: text := by
        intro starts
        exact noEquals (starts.subset (by simp))
      rw [afterFirst, if_neg (by simpa [List.isPrefixOf_iff_prefix] using noMatch)]
      exact ih (List.not_mem_of_not_mem_cons noEquals)

theorem append_equals_prefix_iff {name chunk : Text} (plainName : '=' ∉ name)
    (plainChunk : '=' ∉ chunk) (rest : Text) :
    (name ++ ['=']) <+: chunk ++ '=' :: rest ↔ name = chunk := by
  induction name generalizing chunk with
  | nil =>
      cases chunk with
      | nil => simp
      | cons char chunk =>
          have other : '=' ≠ char := List.ne_of_not_mem_cons plainChunk
          simp [other]
  | cons first name ih =>
      cases chunk with
      | nil =>
          have other : first ≠ '=' := (List.ne_of_not_mem_cons plainName).symm
          simp [other]
      | cons char chunk =>
          have later := ih (List.not_mem_of_not_mem_cons plainName)
            (List.not_mem_of_not_mem_cons plainChunk)
          simp only [List.cons_append, List.cons_prefix_cons, later, List.cons.injEq]

/-- Up to the next equals sign, only the end of the text before it can match. -/
theorem afterFirst_chunk {name chunk : Text} (plainName : '=' ∉ name)
    (plainChunk : '=' ∉ chunk) (rest : Text) :
    afterFirst (name ++ ['=']) (chunk ++ '=' :: rest) =
      if name <:+ chunk then some rest else afterFirst (name ++ ['=']) rest := by
  induction chunk with
  | nil =>
      have starts := append_equals_prefix_iff plainName plainChunk rest
      rw [List.nil_append] at starts ⊢
      rw [afterFirst]
      by_cases empty : name = []
      · simp [empty]
      · rw [if_neg (by simpa [List.isPrefixOf_iff_prefix, starts] using empty),
          if_neg (by simpa using empty)]
  | cons char chunk ih =>
      have starts := append_equals_prefix_iff plainName plainChunk rest
      have later := ih (List.not_mem_of_not_mem_cons plainChunk)
      rw [List.cons_append] at starts ⊢
      rw [afterFirst, later]
      by_cases whole : name = char :: chunk
      · have same : (char :: chunk ++ '=' :: rest).drop (name ++ ['=']).length = rest := by
          rw [whole]
          simp
        rw [if_pos (by simpa [List.isPrefixOf_iff_prefix, starts] using whole),
          if_pos (List.suffix_cons_iff.mpr (.inl whole))]
        exact congrArg some same
      · rw [if_neg (by simpa [List.isPrefixOf_iff_prefix, starts] using whole)]
        simp [List.suffix_cons_iff, whole]

theorem cutBraces_eq_some {block : Text} (unclosed : '}' ∉ block) (tail : Text) :
    cutBraces ('{' :: (block ++ '}' :: tail)) = some (block, tail) := by
  have opened : ('{' :: (block ++ '}' :: tail)).dropWhile (fun char => char ≠ '{') =
      '{' :: (block ++ '}' :: tail) := by
    simp
  have closed : '}' ∈ block ++ '}' :: tail := by simp
  have after : (block ++ '}' :: tail).dropWhile (fun char => char ≠ '}') = '}' :: tail := by
    rw [UnicodeText.dropWhile_ne_append unclosed]
    simp
  unfold cutBraces
  rw [opened]
  simp only
  rw [if_pos closed, after, UnicodeText.takeWhile_ne_append unclosed]
  rfl

/-! ## Labels that are written without blanks -/

/-- A value in which the search can only find its end. -/
def IsBare (value : Text) : Prop := IsSimple value ∧ '=' ∉ value ∧ '}' ∉ value

def BareLabels (labels : List Label) : Prop :=
  ∀ label ∈ labels, IsName label.1 ∧ IsBare label.2

theorem not_mem_of_isName {name : Text} (named : IsName name) {char : Char}
    (other : isNameChar char = false) : char ∉ name := by
  intro member
  rw [named.1 char member] at other
  cases other

/-- Of what ends in a name, only the name itself can hold another name. -/
theorem suffix_append_name_iff {target : Text} (targetNamed : IsName target) {separator : Char}
    (separates : isNameChar separator = false) (lead name : Text) :
    target <:+ lead ++ separator :: name ↔ target <:+ name := by
  constructor
  · intro ends
    rcases List.suffix_or_suffix_of_suffix ends (List.suffix_append lead (separator :: name)) with
      inside | longer
    · rcases List.suffix_cons_iff.mp inside with rfl | inside
      · exact absurd List.mem_cons_self (not_mem_of_isName targetNamed separates)
      · exact inside
    · exact absurd (longer.subset List.mem_cons_self) (not_mem_of_isName targetNamed separates)
  · intro inside
    exact inside.trans ⟨lead ++ [separator], by simp⟩

theorem exists_renderLabels_cons (label : Label) (labels : List Label) :
    ∃ rest, renderLabels (label :: labels) = label.1 ++ '=' :: '"' :: label.2 ++ '"' :: rest ∧
      (rest = [] ∧ labels = [] ∨ rest = ',' :: renderLabels labels) := by
  cases labels with
  | nil => exact ⟨[], by simp [renderLabels, renderLabel], .inl ⟨rfl, rfl⟩⟩
  | cons next labels =>
      exact ⟨',' :: renderLabels (next :: labels), by simp [renderLabels, renderLabel], .inr rfl⟩

/-- The search finds the first label whose name ends in the target. -/
theorem afterFirst_renderLabels {target : Text} (targetNamed : IsName target)
    {labels : List Label} (bare : BareLabels labels) (lead : Text) (plainLead : '=' ∉ lead)
    (separated : lead = [] ∨ ∃ before separator, lead = before ++ [separator] ∧
      isNameChar separator = false) :
    (labels.find? (fun label => decide (target <:+ label.1)) = none ∧
        afterFirst (target ++ ['=']) (lead ++ renderLabels labels) = none) ∨
      ∃ label rest, labels.find? (fun label => decide (target <:+ label.1)) = some label ∧
        afterFirst (target ++ ['=']) (lead ++ renderLabels labels) =
          some ('"' :: label.2 ++ '"' :: rest) := by
  have plainTarget : '=' ∉ target := not_mem_of_isName targetNamed (by decide)
  induction labels generalizing lead with
  | nil =>
      refine .inl ⟨rfl, afterFirst_of_not_mem ?_⟩
      simpa [renderLabels] using plainLead
  | cons label labels ih =>
      obtain ⟨named, simple, noEquals, -⟩ := bare label (by simp)
      obtain ⟨rest, rendered, continued⟩ := exists_renderLabels_cons label labels
      have plainChunk : '=' ∉ lead ++ label.1 := by
        rw [List.mem_append, not_or]
        exact ⟨plainLead, not_mem_of_isName named (by decide)⟩
      have found : afterFirst (target ++ ['=']) (lead ++ renderLabels (label :: labels)) =
          if target <:+ label.1 then some ('"' :: label.2 ++ '"' :: rest)
          else afterFirst (target ++ ['=']) ('"' :: label.2 ++ '"' :: rest) := by
        have ends : target <:+ lead ++ label.1 ↔ target <:+ label.1 := by
          rcases separated with rfl | ⟨before, separator, rfl, separates⟩
          · rw [List.nil_append]
          · rw [List.append_assoc]
            exact suffix_append_name_iff targetNamed separates before label.1
        have chunk := afterFirst_chunk plainTarget plainChunk ('"' :: label.2 ++ '"' :: rest)
        rw [if_congr ends rfl rfl] at chunk
        rw [← chunk, rendered]
        simp
      by_cases ends : target <:+ label.1
      · refine .inr ⟨label, rest, ?_, ?_⟩
        · simp [ends]
        · rw [found, if_pos ends]
      · rw [found, if_neg ends, List.find?_cons_of_neg (by simpa using ends)]
        rcases continued with ⟨rfl, rfl⟩ | rfl
        · refine .inl ⟨rfl, afterFirst_of_not_mem ?_⟩
          simpa using noEquals
        · have plain : '=' ∉ '"' :: label.2 ++ ['"', ','] := by simpa using noEquals
          have later := ih (fun other member => bare other (by simp [member]))
            ('"' :: label.2 ++ ['"', ',']) plain
            (.inr ⟨'"' :: label.2 ++ ['"'], ',', by simp, by decide⟩)
          simpa using later

theorem blockLabel_renderLabels {target : Text} (targetNamed : IsName target)
    {labels : List Label} (bare : BareLabels labels) :
    blockLabel target (renderLabels labels) =
      (labels.find? fun label => decide (target <:+ label.1)).map Prod.snd := by
  rcases afterFirst_renderLabels targetNamed bare [] (by simp) (.inl rfl) with
    ⟨missing, absent⟩ | ⟨label, rest, found, after⟩
  · rw [List.nil_append] at absent
    rw [missing, blockLabel, absent]
    rfl
  · rw [List.nil_append] at after
    rw [found, blockLabel, after]
    obtain ⟨-, ⟨noQuote, -, -⟩, -⟩ := bare label (List.mem_of_find?_eq_some found)
    have quoted : '"' ∈ label.2 ++ '"' :: rest := by simp
    change (if _ then some ((label.2 ++ '"' :: rest).takeWhile fun char => char ≠ '"') else none) = _
    rw [if_pos ⟨.inl rfl, quoted⟩, UnicodeText.takeWhile_ne_append noQuote]
    rfl

theorem brace_not_mem_renderLabels {labels : List Label} (bare : BareLabels labels) :
    '}' ∉ renderLabels labels := by
  induction labels with
  | nil => simp [renderLabels]
  | cons label labels ih =>
      obtain ⟨named, -, -, noBrace⟩ := bare label (by simp)
      have own : '}' ∉ renderLabel label := by
        have unnamed := not_mem_of_isName named (by decide : isNameChar '}' = false)
        simpa [renderLabel, noBrace] using unnamed
      have later := ih fun other member => bare other (by simp [member])
      cases labels with
      | nil => exact own
      | cons next labels => simpa [renderLabels, own] using later

/-- On a sample that is written without blanks, the value of the first label
whose name ends in the target. -/
theorem lineLabel_of_sample {target metric line tail : Text} (targetNamed : IsName target)
    {labels : List Label} (bare : BareLabels labels)
    (sampled : sampleLine line = some (renderSample metric labels tail)) :
    lineLabel metric target line =
      (labels.find? fun label => decide (target <:+ label.1)).map Prod.snd := by
  have cut : (renderSample metric labels tail).dropPrefix? metric =
      some ('{' :: (renderLabels labels ++ '}' :: tail)) := by
    have shape : renderSample metric labels tail =
        metric ++ '{' :: (renderLabels labels ++ '}' :: tail) := by
      simp [renderSample]
    rw [shape]
    exact UnicodeText.stripPrefix_append metric _
  have braces := cutBraces_eq_some (brace_not_mem_renderLabels bare) tail
  unfold lineLabel
  rw [sampled]
  change ((renderSample metric labels tail).dropPrefix? metric).bind _ = _
  rw [cut, Option.bind_some, braces]
  exact blockLabel_renderLabels targetNamed bare

end KeelRouter
