import Mathlib.Data.List.Basic

/-!
# Comma-separated files

A writer and a reader of comma-separated files, with quotes around the fields that
need them and two quotes for one inside.  The reader scans a file line by line, as
an automaton that may stay inside a field at the end of a line.

A file is written with its own line ends and read with all of them translated to
newlines.  Everything else in a field survives.
-/

namespace Csv

abbrev Field := List Char

abbrev Record := List Field

/-! ## Writing -/

/-- The characters that a field is quoted for. -/
def isSpecial (char : Char) : Bool :=
  char = ',' || char = '"' || char = '\n' || char = '\r'

/-- Two quotes for one. -/
def doubled (field : Field) : List Char :=
  field.flatMap fun char => if char = '"' then ['"', '"'] else [char]

def encode (field : Field) : List Char :=
  if field.any isSpecial then '"' :: (doubled field ++ ['"']) else field

def joined : Record → List Char
  | [] => []
  | [field] => encode field
  | field :: second :: others => encode field ++ ',' :: joined (second :: others)

/-- The text of a record before its line end; a single empty field is quoted. -/
def recordText (record : Record) : List Char :=
  if record = [[]] then ['"', '"'] else joined record

/-- The text of a file. -/
def write (records : List Record) : List Char :=
  records.flatMap fun record => recordText record ++ ['\r', '\n']

/-! ## Lines -/

/-- Every line end becomes a newline. -/
def universalNewlines : List Char → List Char
  | [] => []
  | '\r' :: '\n' :: rest => '\n' :: universalNewlines rest
  | '\r' :: rest => '\n' :: universalNewlines rest
  | char :: rest => char :: universalNewlines rest

/-- The lines of a text, with their newlines. -/
def lines : List Char → List (List Char)
  | [] => []
  | char :: rest =>
      if char = '\n' then [char] :: lines rest
      else
        match lines rest with
        | [] => [[char]]
        | line :: others => (char :: line) :: others

/-! ## Reading -/

inductive Phase where
  | startRecord
  | startField
  | inField
  | inQuotedField
  | quoteInQuotedField
  | eatNewline
deriving DecidableEq

/-- The automaton, with the field and the record that it reads. -/
structure Reader where
  phase : Phase
  field : Field
  saved : Record
deriving DecidableEq

/-- The length that no field may exceed. -/
def fieldLimit : Nat := 131072

namespace Reader

def start : Reader where
  phase := .startRecord
  field := []
  saved := []

/-- A field that is full takes no more characters. -/
def add (reader : Reader) (phase : Phase) (char : Char) : Option Reader :=
  if fieldLimit ≤ reader.field.length then none
  else some { reader with phase, field := reader.field ++ [char] }

def save (reader : Reader) (phase : Phase) : Reader where
  phase
  field := []
  saved := reader.saved ++ [reader.field]

def isNewline (char : Char) : Bool := char = '\n' || char = '\r'

/-- A character at the start of a field. -/
def openField (reader : Reader) (char : Char) : Option Reader :=
  if isNewline char then some (reader.save .eatNewline)
  else if char = '"' then some { reader with phase := .inQuotedField }
  else if char = ',' then some (reader.save .startField)
  else reader.add .inField char

/-- A character; none where the reader raises. -/
def process (reader : Reader) (char : Char) : Option Reader :=
  match reader.phase with
  | .startRecord =>
      if isNewline char then some { reader with phase := .eatNewline }
      else reader.openField char
  | .startField => reader.openField char
  | .inField =>
      if isNewline char then some (reader.save .eatNewline)
      else if char = ',' then some (reader.save .startField)
      else reader.add .inField char
  | .inQuotedField =>
      if char = '"' then some { reader with phase := .quoteInQuotedField }
      else reader.add .inQuotedField char
  | .quoteInQuotedField =>
      if char = '"' then reader.add .inQuotedField char
      else if char = ',' then some (reader.save .startField)
      else if isNewline char then some (reader.save .eatNewline)
      else reader.add .inField char
  | .eatNewline => if isNewline char then some reader else none

/-- The end of a line. -/
def endLine (reader : Reader) : Reader :=
  match reader.phase with
  | .startRecord | .eatNewline => { reader with phase := .startRecord }
  | .startField | .inField | .quoteInQuotedField => reader.save .startRecord
  | .inQuotedField => reader

def processLine (reader : Reader) (line : List Char) : Option Reader :=
  (line.foldlM process reader).map endLine

/-- The records of some lines; the last one may end inside a quoted field. -/
def records (reader : Reader) : List (List Char) → Option (List Record)
  | [] => some (if reader.phase = .startRecord then [] else [reader.saved ++ [reader.field]])
  | line :: others =>
      (reader.processLine line).bind fun ended =>
        if ended.phase = .startRecord then (start.records others).map (ended.saved :: ·)
        else ended.records others

end Reader

def read (text : List Char) : Option (List Record) :=
  Reader.start.records (lines (universalNewlines text))

/-! ## Translated line ends -/

theorem universalNewlines_pair (rest : List Char) :
    universalNewlines ('\r' :: '\n' :: rest) = '\n' :: universalNewlines rest := rfl

theorem universalNewlines_return {rest : List Char} (alone : ∀ tail, rest = '\n' :: tail → False) :
    universalNewlines ('\r' :: rest) = '\n' :: universalNewlines rest :=
  universalNewlines.eq_3 rest alone

theorem universalNewlines_cons {char : Char} (other : char ≠ '\r') (rest : List Char) :
    universalNewlines (char :: rest) = char :: universalNewlines rest :=
  universalNewlines.eq_4 char rest (by simp [other]) other

/-- Induction along the line ends of a text. -/
@[elab_as_elim]
theorem lineEnds_induction {motive : List Char → Prop} (nil : motive [])
    (pair : ∀ rest, motive rest → motive ('\r' :: '\n' :: rest))
    (alone : ∀ rest, (∀ tail, rest = '\n' :: tail → False) → motive rest → motive ('\r' :: rest))
    (cons : ∀ char rest, char ≠ '\r' → motive rest → motive (char :: rest))
    (text : List Char) : motive text := by
  induction text using universalNewlines.induct with
  | case1 => exact nil
  | case2 rest ih => exact pair rest ih
  | case3 rest other ih => exact alone rest other ih
  | case4 char rest notPair notReturn ih => exact cons char rest notReturn ih

theorem universalNewlines_of_not_mem {text : List Char} (plain : '\r' ∉ text) :
    universalNewlines text = text := by
  induction text with
  | nil => rfl
  | cons char text ih =>
      rw [List.mem_cons, not_or] at plain
      have other : char ≠ '\r' := Ne.symm plain.1
      rw [universalNewlines_cons other, ih plain.2]

/-- Nothing is joined where the second text does not start with a newline. -/
theorem universalNewlines_append (first second : List Char) (apart : second.head? ≠ some '\n') :
    universalNewlines (first ++ second) = universalNewlines first ++ universalNewlines second := by
  induction first using lineEnds_induction with
  | nil => rfl
  | pair rest ih =>
      rw [List.cons_append, List.cons_append, universalNewlines_pair, universalNewlines_pair, ih]
      rfl
  | alone rest other ih =>
      have unjoined : ∀ tail, rest ++ second = '\n' :: tail → False := by
        intro tail starts
        cases rest with
        | nil =>
            rw [List.nil_append] at starts
            exact apart (by rw [starts, List.head?_cons])
        | cons char rest =>
            obtain ⟨rfl, -⟩ := List.cons.inj starts
            exact other rest rfl
      rw [List.cons_append, universalNewlines_return unjoined, universalNewlines_return other, ih]
      rfl
  | cons char rest other ih =>
      rw [List.cons_append, universalNewlines_cons other, universalNewlines_cons other, ih]
      rfl

theorem universalNewlines_eq_nil_iff {text : List Char} :
    universalNewlines text = [] ↔ text = [] := by
  cases text using lineEnds_induction with
  | nil => exact Iff.rfl
  | pair rest => simp [universalNewlines_pair]
  | alone rest other => simp [universalNewlines_return other]
  | cons char rest other => simp [universalNewlines_cons other]

theorem length_universalNewlines_le (text : List Char) :
    (universalNewlines text).length ≤ text.length := by
  induction text using lineEnds_induction with
  | nil => exact Nat.le_refl 0
  | pair rest ih =>
      rw [universalNewlines_pair, List.length_cons, List.length_cons, List.length_cons]
      omega
  | alone rest other ih =>
      rw [universalNewlines_return other, List.length_cons, List.length_cons]
      omega
  | cons char rest other ih =>
      rw [universalNewlines_cons other, List.length_cons, List.length_cons]
      omega

theorem any_isSpecial_universalNewlines (text : List Char) :
    (universalNewlines text).any isSpecial = text.any isSpecial := by
  induction text using lineEnds_induction with
  | nil => rfl
  | pair rest ih =>
      rw [universalNewlines_pair]
      simp [isSpecial]
  | alone rest other ih =>
      rw [universalNewlines_return other]
      simp [isSpecial]
  | cons char rest other ih =>
      rw [universalNewlines_cons other, List.any_cons, List.any_cons, ih]

theorem doubled_cons (char : Char) (rest : List Char) :
    doubled (char :: rest) = (if char = '"' then ['"', '"'] else [char]) ++ doubled rest := rfl

theorem universalNewlines_doubled (text : List Char) :
    universalNewlines (doubled text) = doubled (universalNewlines text) := by
  induction text using lineEnds_induction with
  | nil => rfl
  | pair rest ih =>
      have pair : doubled ('\r' :: '\n' :: rest) = '\r' :: '\n' :: doubled rest := rfl
      rw [pair, universalNewlines_pair, universalNewlines_pair, ih]
      rfl
  | alone rest other ih =>
      have alone : ∀ tail, doubled rest = '\n' :: tail → False := by
        intro tail starts
        cases rest with
        | nil => cases starts
        | cons char rest =>
            rw [doubled_cons] at starts
            by_cases quote : char = '"'
            · simp [quote] at starts
            · simp only [quote, if_false, List.singleton_append, List.cons.injEq] at starts
              obtain ⟨rfl, -⟩ := starts
              exact other rest rfl
      have single : doubled ('\r' :: rest) = '\r' :: doubled rest := rfl
      rw [single, universalNewlines_return alone, universalNewlines_return other, ih]
      rfl
  | cons char rest other ih =>
      rw [universalNewlines_cons other, doubled_cons, doubled_cons, ← ih]
      by_cases quote : char = '"'
      · subst quote
        simp [universalNewlines_cons]
      · simp [quote, universalNewlines_cons other]

theorem universalNewlines_encode (field : Field) :
    universalNewlines (encode field) = encode (universalNewlines field) := by
  unfold encode
  rw [any_isSpecial_universalNewlines]
  cases special : field.any isSpecial with
  | false =>
      simp only [Bool.false_eq_true, if_false]
  | true =>
      have closing : universalNewlines (doubled field ++ ['"']) =
          universalNewlines (doubled field) ++ ['"'] := by
        rw [universalNewlines_append _ _ (by decide)]
        rfl
      simp only [if_true]
      rw [universalNewlines_cons (by decide), closing, universalNewlines_doubled]

/-- The text of a record with a newline at its end. -/
def recordLine (record : Record) : List Char := recordText record ++ ['\n']

theorem universalNewlines_joined (record : Record) :
    universalNewlines (joined record) = joined (record.map universalNewlines) := by
  induction record using joined.induct with
  | case1 => rfl
  | case2 field => exact universalNewlines_encode field
  | case3 field second others ih =>
      rw [joined, universalNewlines_append _ _ (by simp), universalNewlines_encode,
        universalNewlines_cons (by decide), ih]
      rfl

theorem universalNewlines_recordText (record : Record) :
    universalNewlines (recordText record) = recordText (record.map universalNewlines) := by
  have same : record.map universalNewlines = [[]] ↔ record = [[]] := by
    rcases record with _ | ⟨field, _ | ⟨second, others⟩⟩ <;> simp [universalNewlines_eq_nil_iff]
  unfold recordText
  by_cases single : record = [[]]
  · rw [if_pos single, if_pos (same.mpr single)]
    rfl
  · rw [if_neg single, if_neg (fun mapped => single (same.mp mapped)), universalNewlines_joined]

/-- A file that is written is translated record by record. -/
theorem universalNewlines_write (records : List Record) :
    universalNewlines (write records) =
      (records.map (List.map universalNewlines)).flatMap recordLine := by
  induction records with
  | nil => rfl
  | cons record records ih =>
      have text : write (record :: records) =
          recordText record ++ '\r' :: '\n' :: write records := by
        simp [write]
      rw [text, universalNewlines_append _ _ (by simp), universalNewlines_recordText,
        universalNewlines_pair, ih]
      simp [recordLine]

/-! ## A file is read back -/

namespace Reader

/-- The records of a text from a state on. -/
def scan (reader : Reader) (text : List Char) : Option (List Record) :=
  reader.records (lines text)

theorem scan_char (reader : Reader) {char : Char} (other : char ≠ '\n') {rest : List Char}
    (more : rest ≠ []) :
    reader.scan (char :: rest) = (reader.process char).bind fun next => next.scan rest := by
  unfold scan
  cases split : lines rest with
  | nil =>
      exfalso
      apply more
      cases rest with
      | nil => rfl
      | cons char rest =>
          unfold lines at split
          split at split
          · cases split
          · split at split <;> cases split
  | cons line others =>
      have first : lines (char :: rest) = (char :: line) :: others := by
        rw [lines, if_neg other, split]
      rw [first, records, processLine, List.foldlM_cons]
      cases reader.process char with
      | none => rfl
      | some next => rfl

theorem scan_newline (reader : Reader) (rest : List Char) :
    reader.scan ('\n' :: rest) = (reader.process '\n').bind fun next =>
      if next.endLine.phase = .startRecord then (start.scan rest).map (next.endLine.saved :: ·)
      else next.endLine.scan rest := by
  have line : ['\n'].foldlM process reader = reader.process '\n' := by
    simp
  unfold scan
  rw [lines, if_pos rfl, records, processLine, line]
  cases reader.process '\n' with
  | none => rfl
  | some next => rfl

/-- Inside quotes a field is read up to the closing quote. -/
theorem scan_doubled (saved : Record) (field body : Field) {rest : List Char} (more : rest ≠ [])
    (fits : (field ++ body).length ≤ fieldLimit) :
    scan ⟨.inQuotedField, field, saved⟩ (doubled body ++ '"' :: rest) =
      scan ⟨.quoteInQuotedField, field ++ body, saved⟩ rest := by
  induction body generalizing field with
  | nil =>
      rw [List.append_nil]
      exact scan_char _ (by decide) more
  | cons char body ih =>
      have room : ¬ fieldLimit ≤ field.length := by
        rw [List.length_append, List.length_cons] at fits
        omega
      have fitsRest : (field ++ [char] ++ body).length ≤ fieldLimit := by
        simpa using fits
      have continued := ih (field ++ [char]) fitsRest
      rw [List.append_assoc, List.singleton_append] at continued
      have added : add ⟨.inQuotedField, field, saved⟩ .inQuotedField char =
          some ⟨.inQuotedField, field ++ [char], saved⟩ := if_neg room
      have addedQuote : add ⟨.quoteInQuotedField, field, saved⟩ .inQuotedField char =
          some ⟨.inQuotedField, field ++ [char], saved⟩ := if_neg room
      have unfinished : doubled body ++ '"' :: rest ≠ [] := by simp
      rw [doubled_cons]
      by_cases quote : char = '"'
      · subst quote
        have first : process ⟨.inQuotedField, field, saved⟩ '"' =
            some ⟨.quoteInQuotedField, field, saved⟩ := rfl
        have second : process ⟨.quoteInQuotedField, field, saved⟩ '"' =
            some ⟨.inQuotedField, field ++ ['"'], saved⟩ := addedQuote
        have text : (if '"' = '"' then ['"', '"'] else ['"']) ++ doubled body ++ '"' :: rest =
            '"' :: '"' :: (doubled body ++ '"' :: rest) := rfl
        rw [text, scan_char _ (by decide) (by simp), first, Option.bind_some,
          scan_char _ (by decide) unfinished, second, Option.bind_some]
        exact continued
      · have processed : process ⟨.inQuotedField, field, saved⟩ char =
            some ⟨.inQuotedField, field ++ [char], saved⟩ := (if_neg quote).trans added
        rw [if_neg quote, List.singleton_append, List.cons_append]
        by_cases newline : char = '\n'
        · subst newline
          rw [scan_newline, processed, Option.bind_some, if_neg nofun]
          exact continued
        · rw [scan_char _ newline unfinished, processed, Option.bind_some]
          exact continued

theorem not_special {char : Char} (ordinary : isSpecial char = false) :
    char ≠ ',' ∧ char ≠ '"' ∧ char ≠ '\n' ∧ char ≠ '\r' := by
  simpa [isSpecial, and_assoc] using ordinary

/-- The characters of a field that needs no quotes. -/
theorem scan_plain (saved : Record) (field body : Field) {rest : List Char} (more : rest ≠ [])
    (plain : body.any isSpecial = false) (fits : (field ++ body).length ≤ fieldLimit) :
    scan ⟨.inField, field, saved⟩ (body ++ rest) = scan ⟨.inField, field ++ body, saved⟩ rest := by
  induction body generalizing field with
  | nil => rw [List.append_nil, List.nil_append]
  | cons char body ih =>
      have room : ¬ fieldLimit ≤ field.length := by
        rw [List.length_append, List.length_cons] at fits
        omega
      rw [List.any_cons, Bool.or_eq_false_iff] at plain
      obtain ⟨ordinary, plainRest⟩ := plain
      have fitsRest : (field ++ [char] ++ body).length ≤ fieldLimit := by
        simpa using fits
      have continued := ih (field ++ [char]) plainRest fitsRest
      rw [List.append_assoc, List.singleton_append] at continued
      have apart := not_special ordinary
      have processed : process ⟨.inField, field, saved⟩ char =
          some ⟨.inField, field ++ [char], saved⟩ := by
        simp [process, isNewline, apart, add, room]
      rw [List.cons_append, scan_char _ apart.2.2.1 (by simp [more]), processed, Option.bind_some]
      exact continued

/-- A field starts with its first character, in a record or after a comma. -/
def opens (phase : Phase) : Prop := phase = .startRecord ∨ phase = .startField

theorem process_opens {phase : Phase} (opened : opens phase) {char : Char}
    (other : isNewline char = false) (saved : Record) :
    process ⟨phase, [], saved⟩ char = openField ⟨phase, [], saved⟩ char := by
  rcases opened with rfl | rfl
  · simp [process, other]
  · rfl

/-- A field that is written is read to its end. -/
theorem scan_encode {phase : Phase} (opened : opens phase) (saved : Record) {field : Field}
    (fits : field.length ≤ fieldLimit) {rest : List Char} (more : rest ≠ []) :
    ∃ ended, (ended = .inField ∨ ended = .quoteInQuotedField ∨ field = [] ∧ ended = phase) ∧
      scan ⟨phase, [], saved⟩ (encode field ++ rest) = scan ⟨ended, field, saved⟩ rest := by
  unfold encode
  cases special : field.any isSpecial with
  | true =>
      refine ⟨.quoteInQuotedField, .inr (.inl rfl), ?_⟩
      have quoted : process ⟨phase, [], saved⟩ '"' = some ⟨.inQuotedField, [], saved⟩ :=
        process_opens opened (by decide) saved
      rw [if_pos rfl, List.cons_append, List.append_assoc, List.singleton_append,
        scan_char _ (by decide) (by simp), quoted, Option.bind_some,
        scan_doubled saved [] field more (by simpa using fits), List.nil_append]
  | false =>
      rw [if_neg Bool.false_ne_true]
      cases field with
      | nil => exact ⟨phase, .inr (.inr ⟨rfl, rfl⟩), rfl⟩
      | cons char body =>
          refine ⟨.inField, .inl rfl, ?_⟩
          rw [List.any_cons, Bool.or_eq_false_iff] at special
          have apart := not_special special.1
          have other : isNewline char = false := by
            simp [isNewline, apart]
          have first : process ⟨phase, [], saved⟩ char = some ⟨.inField, [char], saved⟩ := by
            rw [process_opens opened other]
            simp [openField, other, apart, add, fieldLimit]
          rw [List.cons_append, scan_char _ apart.2.2.1 (by simp [more]), first, Option.bind_some,
            scan_plain saved [char] body more special.2 (by simpa using fits)]
          rfl

/-- A field that is written is read up to the comma behind it. -/
theorem scan_comma {phase : Phase} (opened : opens phase) (saved : Record) {field : Field}
    (fits : field.length ≤ fieldLimit) {rest : List Char} (more : rest ≠ []) :
    scan ⟨phase, [], saved⟩ (encode field ++ ',' :: rest) =
      scan ⟨.startField, [], saved ++ [field]⟩ rest := by
  have unfinished : ',' :: rest ≠ [] := List.cons_ne_nil _ _
  obtain ⟨ended, phases, scanned⟩ := scan_encode opened saved fits unfinished
  have closed : process ⟨ended, field, saved⟩ ',' = some ⟨.startField, [], saved ++ [field]⟩ := by
    rcases phases with rfl | rfl | ⟨rfl, rfl⟩
    · rfl
    · rfl
    · exact process_opens opened (by decide) saved
  rw [scanned, scan_char _ (by decide) more, closed, Option.bind_some]

/-- The last field of a record is read up to the newline. -/
theorem scan_last {phase : Phase} (opened : opens phase) (saved : Record) {field : Field}
    (fits : field.length ≤ fieldLimit) (started : phase = .startRecord → field ≠ [])
    (rest : List Char) :
    scan ⟨phase, [], saved⟩ (encode field ++ '\n' :: rest) =
      (start.scan rest).map ((saved ++ [field]) :: ·) := by
  have unfinished : '\n' :: rest ≠ [] := List.cons_ne_nil _ _
  obtain ⟨ended, phases, scanned⟩ := scan_encode opened saved fits unfinished
  have closed : process ⟨ended, field, saved⟩ '\n' = some ⟨.eatNewline, [], saved ++ [field]⟩ := by
    rcases phases with rfl | rfl | ⟨rfl, rfl⟩
    · rfl
    · rfl
    · rcases opened with rfl | rfl
      · exact absurd rfl (started rfl)
      · rfl
  rw [scanned, scan_newline, closed, Option.bind_some]
  rfl

theorem scan_joined {phase : Phase} (opened : opens phase) (saved : Record) {record : Record}
    (some_ : record ≠ []) (fits : ∀ field ∈ record, field.length ≤ fieldLimit)
    (started : phase = .startRecord → record ≠ [[]]) (rest : List Char) :
    scan ⟨phase, [], saved⟩ (joined record ++ '\n' :: rest) =
      (start.scan rest).map ((saved ++ record) :: ·) := by
  induction record using joined.induct generalizing phase saved with
  | case1 => exact absurd rfl some_
  | case2 field =>
      apply scan_last opened saved (fits field List.mem_cons_self)
      intro start empty
      exact started start (by rw [empty])
  | case3 field second others ih =>
      rw [joined, List.append_assoc, List.cons_append,
        scan_comma opened saved (fits field List.mem_cons_self) (by simp)]
      have later := ih (.inr rfl) (saved ++ [field]) (List.cons_ne_nil _ _)
        (fun other listed => fits other (List.mem_cons_of_mem field listed)) nofun
      rw [List.append_assoc, List.singleton_append] at later
      exact later

/-- A record that is written is read back. -/
theorem scan_recordLine {record : Record} (fits : ∀ field ∈ record, field.length ≤ fieldLimit)
    (rest : List Char) :
    start.scan (recordLine record ++ rest) = (start.scan rest).map (record :: ·) := by
  have line : recordLine record ++ rest = recordText record ++ '\n' :: rest := by
    simp [recordLine]
  rw [line]
  unfold recordText
  by_cases single : record = [[]]
  · subst single
    rw [if_pos rfl]
    change start.scan ('"' :: '"' :: '\n' :: rest) = _
    have first : start.process '"' = some ⟨.inQuotedField, [], []⟩ := rfl
    have second : process ⟨.inQuotedField, [], []⟩ '"' = some ⟨.quoteInQuotedField, [], []⟩ := rfl
    have closed : process ⟨.quoteInQuotedField, [], []⟩ '\n' = some ⟨.eatNewline, [], [[]]⟩ := rfl
    rw [scan_char _ (by decide) (by simp), first, Option.bind_some,
      scan_char _ (by decide) (by simp), second, Option.bind_some, scan_newline, closed,
      Option.bind_some]
    rfl
  · rw [if_neg single]
    cases record with
    | nil =>
        have blank : start.process '\n' = some ⟨.eatNewline, [], []⟩ := rfl
        rw [joined, List.nil_append, scan_newline, blank, Option.bind_some]
        rfl
    | cons field others =>
        exact scan_joined (.inl rfl) [] (List.cons_ne_nil _ _) fits (fun _ => single) rest

end Reader

/-- What is written is read back, with its line ends translated. -/
theorem read_write {records : List Record}
    (fits : ∀ record ∈ records, ∀ field ∈ record, field.length ≤ fieldLimit) :
    read (write records) = some (records.map (List.map universalNewlines)) := by
  have lengths : ∀ record ∈ records.map (List.map universalNewlines), ∀ field ∈ record,
      field.length ≤ fieldLimit := by
    intro record listed field member
    obtain ⟨original, originalListed, rfl⟩ := List.mem_map.mp listed
    obtain ⟨written, writtenMember, rfl⟩ := List.mem_map.mp member
    exact Nat.le_trans (length_universalNewlines_le written)
      (fits original originalListed written writtenMember)
  unfold read
  rw [universalNewlines_write]
  generalize records.map (List.map universalNewlines) = translated at lengths
  change Reader.start.scan _ = _
  induction translated with
  | nil => rfl
  | cons record translated ih =>
      rw [List.flatMap_cons, Reader.scan_recordLine (lengths record List.mem_cons_self),
        ih fun other listed => lengths other (List.mem_cons_of_mem record listed)]
      rfl

/-! ## Records with a header -/

/-- A record by the names of its fields; a field that it lacks is none. -/
abbrev Dict := List (Field × Option Field)

def dictOf (names record : Record) : Dict :=
  names.zip (record.map some) ++ (names.drop record.length).map fun name => (name, none)

/-- The first record has the names, and blank lines are skipped. -/
def dicts : List Record → List Dict
  | [] => []
  | names :: records => (records.filter fun record => record ≠ []).map (dictOf names)

theorem dicts_cons {names : Record} {records : List Record}
    (lengths : ∀ record ∈ records, record.length = names.length) (named : names ≠ []) :
    dicts (names :: records) = records.map fun record => names.zip (record.map some) := by
  have nonempty : ∀ record ∈ records, decide (record ≠ []) = true := by
    intro record listed
    apply decide_eq_true
    rintro rfl
    exact named (List.eq_nil_of_length_eq_zero (lengths [] listed).symm)
  rw [dicts, List.filter_eq_self.mpr nonempty]
  apply List.map_congr_left
  intro record listed
  unfold dictOf
  rw [lengths record listed, List.drop_length, List.map_nil, List.append_nil]

end Csv
