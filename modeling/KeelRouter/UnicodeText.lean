import Mathlib.Algebra.GroupWithZero.Nat
import Mathlib.Data.List.DropRight

/-!
# Text

Text is a list of characters.  Trimming removes leading and trailing white
space, and the words of a text are its maximal runs of other characters.
-/

namespace UnicodeText

/-- The characters with the Unicode property `White_Space`. -/
def isWhitespace (char : Char) : Bool :=
  let code := char.toNat
  (9 ≤ code && code ≤ 13) || code == 0x20 || code == 0x85 || code == 0xA0 ||
    code == 0x1680 || (0x2000 ≤ code && code ≤ 0x200A) || code == 0x2028 ||
    code == 0x2029 || code == 0x202F || code == 0x205F || code == 0x3000

def trimStart (text : List Char) : List Char :=
  text.dropWhile isWhitespace

def trimEnd (text : List Char) : List Char :=
  text.rdropWhile isWhitespace

def trim (text : List Char) : List Char :=
  trimEnd (trimStart text)

def stripPrefix (start text : List Char) : Option (List Char) :=
  text.dropPrefix? start

/-- The maximal runs of characters that are not white space. -/
def splitWhitespace (text : List Char) : List (List Char) :=
  (text.splitOnP isWhitespace).filter fun word => !word.isEmpty

def byteLength (text : List Char) : Nat :=
  (text.map Char.utf8Size).sum

theorem stripPrefix_append (start text : List Char) :
    stripPrefix start (start ++ text) = some text := by
  unfold stripPrefix
  rw [List.dropPrefix?_eq_some_iff]
  exact ⟨start, rfl, beq_self_eq_true start⟩

/-- A text does not start in a line and end after it, where the line is followed by a
character that it does not have. -/
theorem stripPrefix_append_eq_none {start line rest : List Char} (other : ¬ start <+: line)
    (foreign : ∀ char ∈ rest.head?, char ∉ start) : stripPrefix start (line ++ rest) = none := by
  cases found : stripPrefix start (line ++ rest) with
  | none => rfl
  | some block =>
      obtain ⟨first, spelled, same⟩ := List.dropPrefix?_eq_some_iff.mp found
      obtain rfl : first = start := beq_iff_eq.mp same
      exfalso
      rcases List.append_eq_append_iff.mp spelled with ⟨missing, started, later⟩ |
        ⟨more, extended, -⟩
      · cases missing with
        | nil =>
            rw [List.append_nil] at started
            exact other (started ▸ List.prefix_rfl)
        | cons char missing =>
            apply foreign char (by simp [later])
            rw [started]
            exact List.mem_append_right _ List.mem_cons_self
      · exact other ⟨more, extended.symm⟩

/-! ## Padded text -/

section Padding

variable {removed : Char → Bool} {lead core trail : List Char}

theorem dropWhile_padded (leading : ∀ char ∈ lead, removed char = true)
    (start : ∀ char ∈ core.head?, removed char = false) (nonempty : core ≠ []) :
    (lead ++ core).dropWhile removed = core := by
  rw [List.dropWhile_append_of_pos leading]
  cases core with
  | nil => exact absurd rfl nonempty
  | cons char core => exact List.dropWhile_cons_of_neg (by simpa using start char rfl)

theorem rdropWhile_padded (trailing : ∀ char ∈ trail, removed char = true)
    (final : ∀ char ∈ core.getLast?, removed char = false) (nonempty : core ≠ []) :
    (core ++ trail).rdropWhile removed = core := by
  unfold List.rdropWhile
  rw [List.reverse_append, dropWhile_padded, List.reverse_reverse]
  · simpa using trailing
  · rw [List.head?_reverse]
    exact final
  · simpa using nonempty

/-- Removing characters from both ends leaves a core that has none of them at
its ends. -/
theorem removed_padded (leading : ∀ char ∈ lead, removed char = true)
    (trailing : ∀ char ∈ trail, removed char = true)
    (start : ∀ char ∈ core.head?, removed char = false)
    (final : ∀ char ∈ core.getLast?, removed char = false) (nonempty : core ≠ []) :
    ((lead ++ core ++ trail).dropWhile removed).rdropWhile removed = core := by
  have startOf : ∀ char ∈ (core ++ trail).head?, removed char = false := by
    rw [List.head?_append_of_ne_nil _ nonempty]
    exact start
  rw [List.append_assoc, dropWhile_padded leading startOf (by simp [nonempty]),
    rdropWhile_padded trailing final nonempty]

theorem trim_padded (leading : ∀ char ∈ lead, isWhitespace char = true)
    (trailing : ∀ char ∈ trail, isWhitespace char = true)
    (start : ∀ char ∈ core.head?, isWhitespace char = false)
    (final : ∀ char ∈ core.getLast?, isWhitespace char = false) (nonempty : core ≠ []) :
    trim (lead ++ core ++ trail) = core :=
  removed_padded leading trailing start final nonempty

end Padding

theorem mem_dropWhile_of_not {removed : Char → Bool} {text : List Char} {char : Char}
    (member : char ∈ text) (kept : removed char = false) : char ∈ text.dropWhile removed := by
  rw [← List.takeWhile_append_dropWhile (p := removed) (l := text)] at member
  rcases List.mem_append.mp member with dropped | stays
  · rw [List.all_eq_true.mp List.all_takeWhile char dropped] at kept
    cases kept
  · exact stays

/-- Trimming keeps what is no white space. -/
theorem mem_trim {text : List Char} {char : Char} (member : char ∈ text)
    (visible : isWhitespace char = false) : char ∈ trim text := by
  have start := mem_dropWhile_of_not member visible
  have reversed := mem_dropWhile_of_not (List.mem_reverse.mpr start) visible
  exact List.mem_reverse.mpr reversed

/-! ## Up to a character -/

section Stops

variable {stop : Char} {text : List Char}

theorem ne_of_not_mem (absent : stop ∉ text) : ∀ char ∈ text, decide (char ≠ stop) = true := by
  intro char member
  rw [decide_eq_true_iff]
  exact fun same => absent (same ▸ member)

theorem dropWhile_ne_append (absent : stop ∉ text) (rest : List Char) :
    (text ++ rest).dropWhile (fun char => char ≠ stop) =
      rest.dropWhile fun char => char ≠ stop :=
  List.dropWhile_append_of_pos (ne_of_not_mem absent)

theorem takeWhile_append_stop (text rest : List Char) :
    (text ++ stop :: rest).takeWhile (fun char => char ≠ stop) =
      text.takeWhile fun char => char ≠ stop := by
  induction text with
  | nil => simp
  | cons char text ih =>
      rw [List.cons_append, List.takeWhile_cons, List.takeWhile_cons, ih]

theorem takeWhile_ne_append (absent : stop ∉ text) (rest : List Char) :
    (text ++ stop :: rest).takeWhile (fun char => char ≠ stop) = text := by
  rw [takeWhile_append_stop, List.takeWhile_eq_self_iff]
  exact ne_of_not_mem absent

end Stops

/-! ## Words -/

theorem trim_eq_nil_iff {text : List Char} :
    trim text = [] ↔ ∀ char ∈ text, isWhitespace char = true := by
  unfold trim trimEnd trimStart
  rw [List.rdropWhile_eq_nil_iff]
  constructor
  · intro removed
    rw [← List.dropWhile_eq_nil_iff]
    cases rest : text.dropWhile isWhitespace with
    | nil => rfl
    | cons first others =>
        have visible := List.head_dropWhile_not isWhitespace (l := text) (by simp [rest])
        have space := removed first (by simp [rest])
        simp [rest, space] at visible
  · intro blank char member
    exact blank char ((List.dropWhile_sublist isWhitespace).subset member)

theorem splitWhitespace_cons_of_space {space : Char} (isSpace : isWhitespace space = true)
    (text : List Char) : splitWhitespace (space :: text) = splitWhitespace text := by
  simp [splitWhitespace, List.splitOnP_cons_eq_if_modifyHead, isSpace]

/-- A text has no words exactly when it is blank. -/
theorem splitWhitespace_eq_nil_iff {text : List Char} :
    splitWhitespace text = [] ↔ trim text = [] := by
  rw [trim_eq_nil_iff]
  induction text with
  | nil => simp [splitWhitespace]
  | cons char text ih =>
      cases space : isWhitespace char with
      | true => simp [splitWhitespace_cons_of_space space, ih, space]
      | false =>
          obtain ⟨first, others, pieces⟩ :=
            List.exists_cons_of_ne_nil (List.splitOnP_ne_nil isWhitespace text)
          simp [splitWhitespace, List.splitOnP_cons_eq_if_modifyHead, space, pieces]

/-- White space between two texts keeps their words apart. -/
theorem splitWhitespace_append {space : Char} (isSpace : isWhitespace space = true)
    (first second : List Char) :
    splitWhitespace (first ++ space :: second) =
      splitWhitespace first ++ splitWhitespace second := by
  unfold splitWhitespace
  rw [List.splitOnP_append_cons first second isSpace, List.filter_append]

theorem splitWhitespace_intercalate (texts : List (List Char)) :
    splitWhitespace ([' '].intercalate texts) = texts.flatMap splitWhitespace := by
  induction texts with
  | nil => simp [splitWhitespace]
  | cons text texts ih =>
      cases texts with
      | nil => simp
      | cons next texts =>
          rw [List.intercalate_cons_cons, List.append_assoc, List.singleton_append,
            splitWhitespace_append (by decide), ih]
          exact List.flatMap_cons.symm

end UnicodeText
