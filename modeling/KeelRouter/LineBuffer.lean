import Mathlib.Data.List.Basic

/-!
# Line buffers

A buffer collects characters and gives up the lines that a newline completes,
newline included.  Feeding a text in two parts gives the same lines, and leaves
the same rest, as feeding it at once.
-/

namespace LineBuffer

variable {α : Type*} [DecidableEq α] (newline : α)

/-- The completed lines of a text, and what follows the last newline. -/
def splitLines : List α → List (List α) × List α
  | [] => ([], [])
  | char :: text =>
      if char = newline then ([char] :: (splitLines text).1, (splitLines text).2)
      else
        match (splitLines text).1 with
        | [] => ([], char :: (splitLines text).2)
        | line :: lines => ((char :: line) :: lines, (splitLines text).2)

@[simp]
theorem splitLines_nil : splitLines newline [] = ([], []) := rfl

theorem splitLines_append (first second : List α) :
    splitLines newline (first ++ second) =
      ((splitLines newline first).1 ++
          (splitLines newline ((splitLines newline first).2 ++ second)).1,
        (splitLines newline ((splitLines newline first).2 ++ second)).2) := by
  induction first with
  | nil => rfl
  | cons char first ih =>
      rw [List.cons_append, splitLines, splitLines, ih]
      by_cases ends : char = newline
      · simp [ends]
      · rw [if_neg ends, if_neg ends]
        cases completed : (splitLines newline first).1 with
        | nil =>
            simp only [List.nil_append, List.cons_append]
            rw [splitLines.eq_def newline (char :: _)]
            simp [ends]
        | cons line lines => rfl

/-- A text that a newline completes and that has no other one. -/
def IsLine (line : List α) : Prop :=
  ∃ body, newline ∉ body ∧ line = body ++ [newline]

theorem splitLines_of_not_mem {text : List α} (unbroken : newline ∉ text) :
    splitLines newline text = ([], text) := by
  induction text with
  | nil => rfl
  | cons char text ih =>
      rw [splitLines, ih (List.not_mem_of_not_mem_cons unbroken),
        if_neg (List.ne_of_not_mem_cons unbroken).symm]

variable {newline}

theorem splitLines_line_append {line : List α} (isLine : IsLine newline line)
    (text : List α) :
    splitLines newline (line ++ text) =
      (line :: (splitLines newline text).1, (splitLines newline text).2) := by
  obtain ⟨body, unbroken, rfl⟩ := isLine
  induction body with
  | nil => simp [splitLines]
  | cons char body ih =>
      have differs : char ≠ newline := (List.ne_of_not_mem_cons unbroken).symm
      rw [List.cons_append, List.cons_append, splitLines,
        ih (List.not_mem_of_not_mem_cons unbroken), if_neg differs]

theorem splitLines_flatten_append {lines : List (List α)}
    (areLines : ∀ line ∈ lines, IsLine newline line) (text : List α) :
    splitLines newline (lines.flatten ++ text) =
      (lines ++ (splitLines newline text).1, (splitLines newline text).2) := by
  induction lines with
  | nil => rfl
  | cons line lines ih =>
      rw [List.flatten_cons, List.append_assoc,
        splitLines_line_append (areLines line (by simp)),
        ih fun other member => areLines other (by simp [member])]
      rfl

variable (newline)

/-- What the split gives: lines, an unbroken rest, and nothing lost. -/
theorem splitLines_spec (text : List α) :
    (∀ line ∈ (splitLines newline text).1, IsLine newline line) ∧
      newline ∉ (splitLines newline text).2 ∧
      (splitLines newline text).1.flatten ++ (splitLines newline text).2 = text := by
  induction text with
  | nil => simp
  | cons char text ih =>
      obtain ⟨areLines, unbroken, whole⟩ := ih
      rw [splitLines]
      by_cases ends : char = newline
      · rw [if_pos ends]
        refine ⟨?_, unbroken, ?_⟩
        · intro line member
          rcases List.mem_cons.mp member with rfl | later
          · exact ⟨[], by simp, by simp [ends]⟩
          · exact areLines line later
        · simp [whole]
      · rw [if_neg ends]
        cases completed : (splitLines newline text).1 with
        | nil =>
            rw [completed] at whole
            refine ⟨by simp, ?_, by simpa using whole⟩
            simp only [List.mem_cons, not_or]
            exact ⟨Ne.symm ends, unbroken⟩
        | cons line lines =>
            rw [completed] at whole areLines
            refine ⟨?_, unbroken, by simpa using whole⟩
            intro other member
            rcases List.mem_cons.mp member with rfl | later
            · obtain ⟨body, bodyUnbroken, rfl⟩ := areLines line (by simp)
              refine ⟨char :: body, ?_, rfl⟩
              simp only [List.mem_cons, not_or]
              exact ⟨Ne.symm ends, bodyUnbroken⟩
            · exact areLines other (by simp [later])

theorem exists_cut {text : List α} {before after : List (List α)}
    (lines : (splitLines newline text).1 = before ++ after) :
    ∃ first second, text = first ++ second ∧ splitLines newline first = (before, []) ∧
      (splitLines newline second).1 = after := by
  obtain ⟨areLines, unbroken, whole⟩ := splitLines_spec newline text
  rw [lines] at areLines whole
  refine ⟨before.flatten, after.flatten ++ (splitLines newline text).2, ?_, ?_, ?_⟩
  · rw [← List.append_assoc, ← List.flatten_append, whole]
  · have cut := splitLines_flatten_append
      (fun line member => areLines line (List.mem_append_left _ member)) []
    simpa using cut
  · rw [splitLines_flatten_append
      (fun line member => areLines line (List.mem_append_right _ member)),
      splitLines_of_not_mem newline unbroken]
    simp

end LineBuffer
