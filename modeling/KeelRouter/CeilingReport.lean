import KeelRouter.LabelLookup
import KeelRouter.OccupancySampler
import KeelRouter.ReferenceStream

/-!
# The ceiling report

`ceiling_stats.py` reads the two counters of the sampler from a scrape of the
router with a pattern for whole lines, and prints the fraction of ticks at the
ceiling for each backend and for the fleet.

The exporter loads one counter after the other while the sampler goes on, so a
scrape may show a tick at the ceiling without its tick.  What is printed are the
values that the counters had at some moments of the scrape.
-/

namespace KeelRouter

namespace CeilingStats

open Loadgen (isSpace)

/-! ## Reading -/

/-- `[0-9.eE+-]` -/
def isValueChar (char : Char) : Bool :=
  char.isDigit || ".eE+-".toList.contains char

/-- The match of the pattern for a metric at the start of a line: the labels, the
value, and what follows the match. -/
def matchSample (name text : Text) : Option ((Text × Text) × Text) :=
  (UnicodeText.stripPrefix (name ++ ['{']) text).bind fun block =>
    match block.dropWhile (· ≠ '}') with
    | [] => none
    | _ :: tail =>
        let number := tail.dropWhile isSpace
        let value := number.takeWhile isValueChar
        let rest := number.dropWhile isValueChar
        if (tail.takeWhile isSpace).isEmpty || value.isEmpty || !rest.head?.all (· = '\n') then none
        else some ((block.takeWhile (· ≠ '}'), value), rest)

/-- `pat.findall(text)`, from the start of a line on. -/
def findAll (name : Text) : Nat → Text → List (Text × Text)
  | 0, _ => []
  | fuel + 1, text =>
      let after (rest : Text) : List (Text × Text) :=
        match rest.dropWhile (· ≠ '\n') with
        | [] => []
        | _ :: later => findAll name fuel later
      match matchSample name text with
      | some (groups, rest) => groups :: after rest
      | none => after text

/-- `re.search(r'backend="([^"]*)"', labels)` -/
def backendLabel : Text → Option Text
  | [] => none
  | char :: later =>
      match UnicodeText.stripPrefix "backend=\"".toList (char :: later) with
      | some value =>
          if '"' ∈ value then some (value.takeWhile (· ≠ '"')) else backendLabel later
      | none => backendLabel later

/-- `series`; a value that is no number raises an error. -/
def series (text name : Text) : Option (AList fun _ : Text => ExactFloat) :=
  (findAll name (text.length + 2) text).foldlM (fun out (labels, value) =>
    match backendLabel labels with
    | none => some out
    | some backend => (NumberText.parseFloat value).map (out.insert backend)) ∅

/-! ## Reporting -/

structure Row where
  backend : Text
  ticks : ExactFloat
  atCeiling : ExactFloat
  fraction : ExactFloat
deriving DecidableEq

structure Report where
  rows : List Row
  fleetTicks : ExactFloat
  fleetAtCeiling : ExactFloat
  fleetFraction : ExactFloat
  worst : ExactFloat
deriving DecidableEq

/-- `c / t if t else 0.0` -/
def ratio (c t : ExactFloat) : ExactFloat :=
  if t = 0 then 0 else c / t

def row (totals ceils : AList fun _ : Text => ExactFloat) (backend : Text) : Row :=
  let t := (totals.lookup backend).getD 0
  let c := (ceils.lookup backend).getD 0
  { backend, ticks := t, atCeiling := c, fraction := ratio c t }

/-- `max(frs, default=0)` -/
def worstOf : List ExactFloat → ExactFloat
  | [] => 0
  | fr :: frs => frs.foldl max fr

def sum (values : List ExactFloat) : ExactFloat := values.foldl (· + ·) 0

/-- The order of `sorted`, by code points. -/
def textLe (first second : Text) : Bool :=
  !second.lex first fun left right => decide (left.toNat < right.toNat)

def report (totals ceils : AList fun _ : Text => ExactFloat) : Report :=
  let rows := (totals.keys.mergeSort textLe).map (row totals ceils)
  let tot := sum (totals.entries.map Sigma.snd)
  let cei := sum (totals.keys.map fun backend => (ceils.lookup backend).getD 0)
  { rows
    fleetTicks := tot
    fleetAtCeiling := cei
    fleetFraction := ratio cei tot
    worst := worstOf (rows.map Row.fraction) }

def totalName : Text := "router_backend_occupancy_ticks_total".toList

def ceilName : Text := "router_backend_ticks_at_ceiling_total".toList

inductive Ending where
  | noSamples
  | printed (report : Report)
deriving DecidableEq

/-- The counts that are printed for the fleet. -/
def Ending.fleet : Ending → Option (ExactFloat × ExactFloat)
  | .noSamples => none
  | .printed report => some (report.fleetTicks, report.fleetAtCeiling)

/-- `main`, after the scrape -/
def main (text : Text) : Option Ending :=
  (series text totalName).bind fun totals =>
    (series text ceilName).map fun ceils =>
      if totals.keys.isEmpty then .noSamples else .printed (report totals ceils)

/-! ## Lines -/

/-- The line of a sample with one number is matched as a whole. -/
theorem matchSample_line {name labels value rest : Text} (unclosed : '}' ∉ labels)
    (nonempty : value ≠ []) (valueChars : ∀ char ∈ value, isValueChar char = true)
    (visible : ∀ char ∈ value.head?, isSpace char = false)
    (ended : rest.head?.all (· = '\n') = true) :
    matchSample name (name ++ '{' :: (labels ++ '}' :: ' ' :: (value ++ rest))) =
      some ((labels, value), rest) := by
  obtain ⟨first, others, rfl⟩ := List.exists_cons_of_ne_nil nonempty
  have firstVisible : isSpace first = false := visible first rfl
  have stripped : UnicodeText.stripPrefix (name ++ ['{'])
      (name ++ '{' :: (labels ++ '}' :: ' ' :: (first :: others ++ rest))) =
        some (labels ++ '}' :: ' ' :: (first :: others ++ rest)) := by
    have found := UnicodeText.stripPrefix_append (name ++ ['{'])
      (labels ++ '}' :: ' ' :: (first :: others ++ rest))
    rwa [List.append_assoc, List.singleton_append] at found
  have taken : (labels ++ '}' :: ' ' :: (first :: others ++ rest)).takeWhile (· ≠ '}') = labels :=
    UnicodeText.takeWhile_ne_append unclosed _
  have dropped : (labels ++ '}' :: ' ' :: (first :: others ++ rest)).dropWhile (· ≠ '}') =
      '}' :: ' ' :: (first :: others ++ rest) := by
    rw [UnicodeText.dropWhile_ne_append unclosed]
    rfl
  have stop : rest.takeWhile isValueChar = [] ∧ rest.dropWhile isValueChar = rest := by
    cases rest with
    | nil => exact ⟨rfl, rfl⟩
    | cons char rest =>
        obtain rfl : char = '\n' := by simpa using ended
        exact ⟨rfl, rfl⟩
  have spaces : (' ' :: (first :: others ++ rest)).takeWhile isSpace = [' '] := by
    simp [List.takeWhile_cons, firstVisible]
    decide
  have number : (' ' :: (first :: others ++ rest)).dropWhile isSpace = first :: others ++ rest := by
    have blank : isSpace ' ' = true := by decide
    simp [firstVisible, blank]
  have valueTaken : (first :: others ++ rest).takeWhile isValueChar = first :: others := by
    rw [List.takeWhile_append_of_pos valueChars, stop.1, List.append_nil]
  have valueDropped : (first :: others ++ rest).dropWhile isValueChar = rest := by
    rw [List.dropWhile_append_of_pos valueChars, stop.2]
  unfold matchSample
  rw [stripped, Option.bind_some, dropped]
  dsimp only
  rw [spaces, number, valueTaken, valueDropped, taken, ended]
  rfl

/-- A line that does not start with the name and a brace has no match. -/
theorem matchSample_eq_none {name line : Text} (unbroken : '\n' ∉ name)
    (other : (name ++ ['{']).isPrefixOf line = false) {rest : Text}
    (ended : rest.head?.all (· = '\n') = true) : matchSample name (line ++ rest) = none := by
  have unopened : UnicodeText.stripPrefix (name ++ ['{']) (line ++ rest) = none := by
    apply UnicodeText.stripPrefix_append_eq_none
    · rw [← List.isPrefixOf_iff_prefix, other]
      exact Bool.false_ne_true
    · intro char first
      obtain rfl : char = '\n' := by simpa using Option.all_eq_true _ _ |>.mp ended char first
      simp [unbroken]
  rw [matchSample, unopened]
  rfl

/-- A match at the start of the line ends with it. -/
def WholeLine (name line : Text) : Prop :=
  ∀ rest : Text, rest.head?.all (· = '\n') = true →
    matchSample name (line ++ rest) = (matchSample name line).map fun found => (found.1, rest)

theorem wholeLine_of_other {name line : Text} (unbroken : '\n' ∉ name)
    (other : (name ++ ['{']).isPrefixOf line = false) : WholeLine name line := by
  intro rest ended
  have alone : matchSample name (line ++ []) = none := matchSample_eq_none unbroken other rfl
  rw [List.append_nil] at alone
  rw [matchSample_eq_none unbroken other ended, alone]
  rfl

/-- The matches of a text are those of its lines. -/
theorem findAll_intercalate {name : Text} {lines : List Text}
    (unbroken : ∀ line ∈ lines, '\n' ∉ line) (whole : ∀ line ∈ lines, WholeLine name line)
    {fuel : Nat} (enough : lines.length < fuel) :
    findAll name fuel (['\n'].intercalate lines) =
      lines.filterMap fun line => (matchSample name line).map Prod.fst := by
  induction lines generalizing fuel with
  | nil =>
      obtain ⟨fuel, rfl⟩ : ∃ less, fuel = less + 1 := ⟨fuel - 1, by simp at enough; omega⟩
      have unopened : UnicodeText.stripPrefix (name ++ ['{']) [] = none := by
        cases name <;> rfl
      simp [findAll, matchSample, unopened]
  | cons line lines ih =>
      obtain ⟨fuel, rfl⟩ : ∃ less, fuel = less + 1 := ⟨fuel - 1, by omega⟩
      have lineUnbroken : ∀ char ∈ line, decide (char ≠ '\n') = true :=
        UnicodeText.ne_of_not_mem (unbroken line List.mem_cons_self)
      have lineWhole := whole line List.mem_cons_self
      cases lines with
      | nil =>
          have ends : line.dropWhile (fun char => decide (char ≠ '\n')) = [] :=
            List.dropWhile_eq_nil_iff.mpr lineUnbroken
          have alone := lineWhole [] rfl
          rw [List.append_nil] at alone
          rw [List.intercalate_singleton, findAll]
          cases found : matchSample name line with
          | none => simp only [ends, found, List.filterMap_cons, List.filterMap_nil, Option.map_none]
          | some matched =>
              rw [found] at alone
              obtain ⟨groups, rest⟩ := matched
              obtain rfl : rest = [] := congrArg Prod.snd (Option.some.inj alone)
              simp [found]
      | cons next lines =>
          have later := ih (fun line member => unbroken line (List.mem_cons_of_mem _ member))
            (fun line member => whole line (List.mem_cons_of_mem _ member))
            (by simp at enough ⊢; omega : (next :: lines).length < fuel)
          have after : (line ++ '\n' :: ['\n'].intercalate (next :: lines)).dropWhile
              (fun char => decide (char ≠ '\n')) = '\n' :: ['\n'].intercalate (next :: lines) := by
            rw [List.dropWhile_append_of_pos lineUnbroken]
            rfl
          rw [List.intercalate_cons_cons, List.append_assoc, List.singleton_append, findAll,
            lineWhole _ rfl, List.filterMap_cons]
          cases found : matchSample name line with
          | none =>
              simp only [Option.map_none, after]
              exact later
          | some matched =>
              simp only [Option.map_some]
              exact congrArg (matched.1 :: ·) later

theorem length_le_intercalate (lines : List Text) :
    lines.length ≤ (['\n'].intercalate lines).length + 1 := by
  induction lines with
  | nil => exact Nat.zero_le _
  | cons line lines ih =>
      cases lines with
      | nil => simp
      | cons next lines =>
          rw [List.intercalate_cons_cons]
          simp only [List.length_append, List.length_cons] at ih ⊢
          omega

end CeilingStats

/-! ## The text of a registry -/

/-- The line of a counter. -/
def MetricKey.line (key : MetricKey) (count : ℕ) : Text :=
  Exposition.renderSample key.name.toList
    (key.labels.map fun label => (label.1.toList, Exposition.escape label.2.toList))
    (' ' :: Nat.toDigits 10 count)

/-- The counters of a family that a scrape shows: all that were there when it began,
none that was not there when it ended, with values that they had in between.  A counter
that only goes up has had all values between the first and the last. -/
structure Registry.Loaded (before after : Registry) (name : String)
    (shown : AList fun _ : MetricKey => ℕ) : Prop where
  own : ∀ entry ∈ shown.entries, entry.1.name = name ∧ entry.1 ∈ after.counters
  bounds : ∀ entry ∈ shown.entries,
    before.count entry.1 ≤ entry.2 ∧ entry.2 ≤ after.count entry.1
  complete : ∀ key ∈ before.counters.keys, key.name = name → key ∈ shown

/-- The text has a line for each counter of the sampler that the scrape has loaded, in
some order, and no other line that starts like one. -/
def Registry.Exposes (before after : Registry) (text : Text) : Prop :=
  ∃ lines : List Text, text = ['\n'].intercalate lines ∧ (∀ line ∈ lines, '\n' ∉ line) ∧
    ∀ name : String, isTickCounter name = true →
      ∃ shown : AList fun _ : MetricKey => ℕ, before.Loaded after name shown ∧
        lines.filter (fun line => (name.toList ++ ['{']).isPrefixOf line) =
          shown.entries.map fun entry => entry.1.line entry.2

/-- A label that is spelled the way it is, and that the pattern does not stop in. -/
def IsPlain (backend : String) : Prop :=
  Exposition.IsSimple backend.toList ∧ '}' ∉ backend.toList

namespace CeilingStats

open Loadgen (not_isSpace_of_isDigit)

/-- The labels of a metric of one backend. -/
def labelText (backend : String) : Text :=
  Exposition.renderLabel ("backend".toList, backend.toList)

theorem labelText_eq (backend : String) :
    labelText backend = "backend=\"".toList ++ (backend.toList ++ ['"']) := rfl

theorem line_ofBackend (name : String) {backend : String} (plain : IsPlain backend) (count : ℕ) :
    (MetricKey.ofBackend name backend).line count =
      name.toList ++ '{' :: (labelText backend ++ '}' :: ' ' :: Nat.toDigits 10 count) := by
  unfold MetricKey.line
  rw [List.map_cons, List.map_nil, escape_of_isSimple plain.1]
  exact List.append_assoc _ _ _

theorem isValueChar_of_isDigit {char : Char} (digit : char.isDigit = true) :
    isValueChar char = true := by
  rw [isValueChar, digit, Bool.true_or]

theorem not_mem_labelText {backend : String} (plain : IsPlain backend) : '}' ∉ labelText backend := by
  have literal : '}' ∉ "backend=\"".toList := by decide
  rw [labelText_eq, List.mem_append, List.mem_append, not_or, not_or]
  exact ⟨literal, plain.2, by decide⟩

theorem matchSample_counter (name : String) {backend : String} (plain : IsPlain backend)
    (count : ℕ) {rest : Text} (ended : rest.head?.all (· = '\n') = true) :
    matchSample name.toList ((MetricKey.ofBackend name backend).line count ++ rest) =
      some ((labelText backend, Nat.toDigits 10 count), rest) := by
  have digits : ∀ char ∈ Nat.toDigits 10 count, char.isDigit = true :=
    fun _ member => Nat.isDigit_of_mem_toDigits (by decide) (by decide) member
  have whole : (MetricKey.ofBackend name backend).line count ++ rest =
      name.toList ++ '{' :: (labelText backend ++ '}' :: ' ' :: (Nat.toDigits 10 count ++ rest)) := by
    rw [line_ofBackend name plain, List.append_assoc, List.cons_append, List.append_assoc]
    rfl
  rw [whole]
  exact matchSample_line (not_mem_labelText plain) Nat.toDigits_ne_nil
    (fun char member => isValueChar_of_isDigit (digits char member))
    (fun char member => not_isSpace_of_isDigit (digits char (List.mem_of_mem_head? member))) ended

theorem backendLabel_labelText {backend : String} (plain : IsPlain backend) :
    backendLabel (labelText backend) = some backend.toList := by
  have stripped : UnicodeText.stripPrefix "backend=\"".toList (labelText backend) =
      some (backend.toList ++ ['"']) := by
    rw [labelText_eq]
    exact UnicodeText.stripPrefix_append _ _
  have value : (backend.toList ++ ['"']).takeWhile (· ≠ '"') = backend.toList :=
    UnicodeText.takeWhile_ne_append plain.1.1 []
  have closed : '"' ∈ backend.toList ++ ['"'] := List.mem_append_right _ List.mem_cons_self
  cases spelled : labelText backend with
  | nil =>
      rw [labelText_eq] at spelled
      simp at spelled
  | cons first later =>
      rw [spelled] at stripped
      rw [backendLabel, stripped]
      dsimp only
      rw [if_pos closed, value]

/-! ## The counters read back -/

/-- One turn of the loop in `series`. -/
def store (out : AList fun _ : Text => ExactFloat) (found : Text × Text) :
    Option (AList fun _ : Text => ExactFloat) :=
  match backendLabel found.1 with
  | none => some out
  | some backend => (NumberText.parseFloat found.2).map (out.insert backend)

theorem series_eq (text name : Text) :
    series text name = (findAll name (text.length + 2) text).foldlM store ∅ := rfl

theorem store_counter (out : AList fun _ : Text => ExactFloat) {backend : String}
    (plain : IsPlain backend) (count : ℕ) :
    store out (labelText backend, Nat.toDigits 10 count) =
      some (out.insert backend.toList (.finite count)) := by
  rw [store, backendLabel_labelText plain]
  dsimp only
  rw [NumberText.parseFloat_toDigits]
  rfl

/-- The table of some counters with backends of their own. -/
theorem foldlM_store {counters : List (String × ℕ)}
    (plain : ∀ counter ∈ counters, IsPlain counter.1) (distinct : (counters.map Prod.fst).Nodup)
    (out : AList fun _ : Text => ExactFloat) :
    ∃ table, (counters.map fun counter =>
        (labelText counter.1, Nat.toDigits 10 counter.2)).foldlM store out = some table ∧
      (∀ counter ∈ counters, table.lookup counter.1.toList = some (.finite counter.2)) ∧
      ∀ key, (∀ counter ∈ counters, counter.1.toList ≠ key) → table.lookup key = out.lookup key := by
  induction counters generalizing out with
  | nil => exact ⟨out, rfl, by simp, fun _ _ => rfl⟩
  | cons counter counters ih =>
      obtain ⟨fresh, distinct⟩ := List.nodup_cons.mp distinct
      obtain ⟨table, folded, listed, others⟩ := ih
        (fun other member => plain other (List.mem_cons_of_mem _ member)) distinct
        (out.insert counter.1.toList (.finite counter.2))
      have apart (other : String × ℕ) (member : other ∈ counters) :
          other.1.toList ≠ counter.1.toList := by
        intro same
        apply fresh
        rw [← String.toList_inj.mp same]
        exact List.mem_map_of_mem member
      refine ⟨table, ?_, ?_, ?_⟩
      · rw [List.map_cons, List.foldlM_cons, store_counter out (plain counter List.mem_cons_self)]
        exact folded
      · intro other member
        rcases List.mem_cons.mp member with rfl | later
        · rw [others _ apart, AList.lookup_insert]
        · exact listed other later
      · intro key unlisted
        rw [others key fun other member => unlisted other (List.mem_cons_of_mem _ member)]
        exact AList.lookup_insert_ne (unlisted counter List.mem_cons_self).symm

section Exposed

variable {before after : Registry} {text : Text} {name : String}
  (tick : Registry.isTickCounter name = true) (unbroken : '\n' ∉ name.toList)
  (own : ∀ key ∈ after.counters, key.name = name →
    ∃ backend, IsPlain backend ∧ key = .ofBackend name backend)
include tick unbroken own

/-- What the pattern finds in a scrape: the counters of the family that were loaded. -/
theorem exists_findAll (exposes : before.Exposes after text) :
    ∃ (shown : AList fun _ : MetricKey => ℕ) (counters : List (String × ℕ)),
      before.Loaded after name shown ∧
      (counters.map fun counter => (⟨.ofBackend name counter.1, counter.2⟩ :
          Sigma fun _ : MetricKey => ℕ)) = shown.entries ∧
      (∀ counter ∈ counters, IsPlain counter.1) ∧
      findAll name.toList (text.length + 2) text =
        counters.map fun counter => (labelText counter.1, Nat.toDigits 10 counter.2) := by
  obtain ⟨lines, rfl, lineUnbroken, rendered⟩ := exposes
  obtain ⟨shown, loaded, written⟩ := rendered name tick
  have spelled (entry : Sigma fun _ : MetricKey => ℕ) (member : entry ∈ shown.entries) :
      ∃ backend, IsPlain backend ∧ entry.1 = .ofBackend name backend := by
    obtain ⟨named, registered⟩ := loaded.own entry member
    exact own entry.1 registered named
  have backendOf (key : MetricKey) (backend : String) (same : key = .ofBackend name backend) :
      (key.labels.map Prod.snd).headD "" = backend := by
    rw [same]
    rfl
  let counters := shown.entries.map fun entry =>
    ((entry.1.labels.map Prod.snd).headD "", entry.2)
  have back : counters.map (fun counter => (⟨.ofBackend name counter.1, counter.2⟩ :
      Sigma fun _ : MetricKey => ℕ)) = shown.entries := by
    rw [List.map_map]
    conv_rhs => rw [← List.map_id shown.entries]
    apply List.map_congr_left
    intro entry member
    obtain ⟨backend, -, same⟩ := spelled entry member
    obtain ⟨key, count⟩ := entry
    obtain rfl : key = .ofBackend name backend := same
    rfl
  have plain : ∀ counter ∈ counters, IsPlain counter.1 := by
    intro counter member
    obtain ⟨entry, listed, rfl⟩ := List.mem_map.mp member
    obtain ⟨backend, plain, same⟩ := spelled entry listed
    rw [backendOf entry.1 backend same]
    exact plain
  have linesOf : lines.filter (fun line => (name.toList ++ ['{']).isPrefixOf line) =
      counters.map fun counter => (MetricKey.ofBackend name counter.1).line counter.2 := by
    rw [written, ← back, List.map_map]
    rfl
  have alone {counter : String × ℕ} (member : counter ∈ counters) :
      matchSample name.toList ((MetricKey.ofBackend name counter.1).line counter.2) =
        some ((labelText counter.1, Nat.toDigits 10 counter.2), []) := by
    have matched := @matchSample_counter name _ (plain counter member) counter.2 [] rfl
    rwa [List.append_nil] at matched
  have whole : ∀ line ∈ lines, WholeLine name.toList line := by
    intro line member
    cases starts : (name.toList ++ ['{']).isPrefixOf line with
    | false => exact wholeLine_of_other unbroken starts
    | true =>
        have found := List.mem_filter.mpr ⟨member, starts⟩
        rw [linesOf] at found
        obtain ⟨counter, listed, rfl⟩ := List.mem_map.mp found
        intro rest ended
        rw [matchSample_counter name (plain counter listed) counter.2 ended, alone listed]
        rfl
  refine ⟨shown, counters, loaded, back, plain, ?_⟩
  have enough : lines.length < (['\n'].intercalate lines).length + 2 :=
    Nat.lt_succ_of_le (length_le_intercalate lines)
  rw [findAll_intercalate lineUnbroken whole enough]
  have onlyStarting : lines.filterMap (fun line => (matchSample name.toList line).map Prod.fst) =
      (lines.filter fun line => (name.toList ++ ['{']).isPrefixOf line).filterMap
        fun line => (matchSample name.toList line).map Prod.fst := by
    rw [List.filterMap_filter]
    apply List.filterMap_congr
    intro line member
    cases starts : (name.toList ++ ['{']).isPrefixOf line with
    | true => rfl
    | false =>
        have nothing := @matchSample_eq_none _ _ unbroken starts [] rfl
        rw [List.append_nil] at nothing
        rw [nothing]
        rfl
  rw [onlyStarting, linesOf, List.filterMap_map]
  rw [← List.filterMap_eq_map]
  apply List.filterMap_congr
  intro counter member
  simp only [Function.comp_apply]
  rw [alone member]
  rfl

/-- The table of a family has the counters that were loaded. -/
theorem exists_series (exposes : before.Exposes after text) :
    ∃ (shown : AList fun _ : MetricKey => ℕ) (table : AList fun _ : Text => ExactFloat),
      before.Loaded after name shown ∧ series text name.toList = some table ∧
      (∀ backend : String, table.lookup backend.toList =
        (shown.lookup (.ofBackend name backend)).map fun count => .finite count) ∧
      ∀ key ∈ table, ∃ backend : String, key = backend.toList := by
  obtain ⟨shown, counters, loaded, same, plain, found⟩ :=
    exists_findAll tick unbroken own exposes
  have mem_counters (backend : String) (count : ℕ) :
      (backend, count) ∈ counters ↔ count ∈ shown.lookup (.ofBackend name backend) := by
    rw [AList.mem_lookup_iff, ← same]
    constructor
    · intro member
      exact List.mem_map.mpr ⟨(backend, count), member, rfl⟩
    · intro member
      obtain ⟨counter, listed, alike⟩ := List.mem_map.mp member
      obtain ⟨sameBackend, sameCount⟩ : counter.1 = backend ∧ counter.2 = count := by
        simpa using alike
      rwa [← sameBackend, ← sameCount]
  have distinct : (counters.map Prod.fst).Nodup := by
    have mapped := shown.nodupKeys
    rw [← same, List.NodupKeys, List.keys, List.map_map] at mapped
    apply List.Nodup.of_map (MetricKey.ofBackend name)
    rw [List.map_map]
    exact mapped
  obtain ⟨table, folded, listed, others⟩ := foldlM_store plain distinct ∅
  refine ⟨shown, table, loaded, ?_, ?_, ?_⟩
  · rw [series_eq, found]
    exact folded
  · intro backend
    cases counted : shown.lookup (.ofBackend name backend) with
    | some count => exact listed (backend, count) ((mem_counters backend count).mpr counted)
    | none =>
        refine others backend.toList fun counter member alike => ?_
        obtain rfl := String.toList_inj.mp alike
        have absent := (mem_counters counter.1 counter.2).mp member
        rw [counted] at absent
        cases absent
  · intro key member
    by_contra unspelled
    have absent := others key fun counter _ alike => unspelled ⟨counter.1, alike.symm⟩
    rw [← AList.lookup_isSome, absent] at member
    cases member

end Exposed

/-! ## The report of some tables -/

/-- The table has the values of a function under its names. -/
structure Tabulates (table : AList fun _ : Text => ExactFloat) (names : ℕ → Text) (length : ℕ)
    (values : ℕ → Option ℕ) : Prop where
  lookup : ∀ ref < length, table.lookup (names ref) = (values ref).map fun count => .finite count
  keys : ∀ key ∈ table, ∃ ref < length, key = names ref

/-- The backends with a value. -/
def shownRefs (length : ℕ) (values : ℕ → Option ℕ) : List ℕ :=
  (List.range length).filter fun ref => (values ref).isSome

/-- The row of a backend. -/
def rowOf (name : Text) (ticks atCeiling : ℕ) : Row where
  backend := name
  ticks := .finite ticks
  atCeiling := .finite atCeiling
  fraction := .finite (atCeiling / ticks)

theorem ratio_finite (c t : ℚ) : ratio (.finite c) (.finite t) = .finite (c / t) := by
  unfold ratio
  by_cases zero : t = 0
  · subst zero
    rw [div_zero]
    rfl
  · rw [if_neg (by simpa [ExactFloat.ofNat_eq] using zero), ExactFloat.finite_div zero]

instance : RightCommutative (fun first second : ExactFloat => first + second) where
  right_comm first second third := by
    cases first <;> cases second <;> cases third <;>
      first | rfl | exact congrArg ExactFloat.finite (add_right_comm _ _ _)

theorem sum_finite {α : Type} (items : List α) (value : α → ℚ) :
    sum (items.map fun item => .finite (value item)) = .finite (items.map value).sum := by
  have shifted (start : ℚ) : (items.map fun item => ExactFloat.finite (value item)).foldl (· + ·)
      (.finite start) = .finite (start + (items.map value).sum) := by
    induction items generalizing start with
    | nil => simp
    | cons item items ih =>
        rw [List.map_cons, List.foldl_cons, ExactFloat.finite_add, ih, List.map_cons, List.sum_cons,
          add_assoc]
  have total := shifted 0
  rwa [zero_add] at total

/-- The worst of some fractions is one of them, and no other is larger. -/
theorem worstOf_finite {fractions : List ℚ} (nonempty : fractions ≠ []) :
    ∃ worst ∈ fractions, worstOf (fractions.map .finite) = .finite worst ∧
      ∀ fraction ∈ fractions, fraction ≤ worst := by
  obtain ⟨first, others, rfl⟩ := List.exists_cons_of_ne_nil nonempty
  clear nonempty
  have folded : worstOf ((first :: others).map .finite) = .finite (others.foldl max first) := by
    change (others.map ExactFloat.finite).foldl max (.finite first) = _
    induction others generalizing first with
    | nil => rfl
    | cons second others ih => rw [List.map_cons, List.foldl_cons, ExactFloat.finite_max, ih]; rfl
  have largest : (first :: others).max? = some (others.foldl max first) := rfl
  obtain ⟨member, above⟩ := List.max?_eq_some_iff.mp largest
  exact ⟨others.foldl max first, member, folded, above⟩

/-- The value of a counter, which is zero when there is none. -/
def shownCount (values : ℕ → Option ℕ) (ref : ℕ) : ℕ := (values ref).getD 0

/-- What a report says about the backends whose ticks are shown. -/
structure Prints (names : ℕ → Text) (length : ℕ) (ticks atCeiling : ℕ → Option ℕ)
    (report : Report) : Prop where
  rows : ∀ row, row ∈ report.rows ↔ ∃ ref ∈ shownRefs length ticks,
    row = rowOf (names ref) (shownCount ticks ref) (shownCount atCeiling ref)
  once : (report.rows.map Row.backend).Nodup
  fleetTicks : report.fleetTicks =
    .finite ((shownRefs length ticks).map (shownCount ticks)).sum
  fleetAtCeiling : report.fleetAtCeiling =
    .finite ((shownRefs length ticks).map (shownCount atCeiling)).sum
  fleetFraction : report.fleetFraction =
    .finite (((shownRefs length ticks).map (shownCount atCeiling)).sum /
      ((shownRefs length ticks).map (shownCount ticks)).sum)
  worst : ∃ ref ∈ shownRefs length ticks,
    report.worst = .finite (shownCount atCeiling ref / shownCount ticks ref)
  fraction_le_worst : ∀ row ∈ report.rows, row.fraction ≤ report.worst
  /-- A tick at the ceiling may be shown without its tick, and then these may fail. -/
  of_ordered : (∀ ref ∈ shownRefs length ticks, shownCount atCeiling ref ≤ shownCount ticks ref) →
    report.fleetFraction ≤ report.worst ∧ report.worst ≤ 1

/-- A mean is at most a bound of its fractions. -/
theorem mean_le {items : List ℕ} {ticks atCeiling : ℕ → ℕ} {bound : ℚ} (nonneg : 0 ≤ bound)
    (ordered : ∀ item ∈ items, atCeiling item ≤ ticks item)
    (fractions : ∀ item ∈ items, (atCeiling item / ticks item : ℚ) ≤ bound) :
    (((items.map atCeiling).sum : ℕ) / ((items.map ticks).sum : ℕ) : ℚ) ≤ bound := by
  have total : ((items.map atCeiling).sum : ℚ) ≤ bound * (items.map ticks).sum := by
    induction items with
    | nil => simp
    | cons item items ih =>
        have rest := ih (fun other member => ordered other (List.mem_cons_of_mem item member))
          (fun other member => fractions other (List.mem_cons_of_mem item member))
        have first : (atCeiling item : ℚ) ≤ bound * ticks item := by
          rcases Nat.eq_zero_or_pos (ticks item) with untouched | ticked
          · have none := ordered item List.mem_cons_self
            rw [untouched, Nat.le_zero] at none
            rw [untouched, none, Nat.cast_zero, mul_zero]
          · exact (div_le_iff₀ (by exact_mod_cast ticked)).mp (fractions item List.mem_cons_self)
        rw [List.map_cons, List.map_cons, List.sum_cons, List.sum_cons]
        rw [Nat.cast_add, Nat.cast_add, mul_add]
        exact add_le_add first rest
  apply div_le_of_le_mul₀ (Nat.cast_nonneg _) nonneg
  exact total

theorem exists_map_eq {α β : Type} {build : α → β} {holds : α → Prop} {items : List β}
    (each : ∀ item ∈ items, ∃ source, holds source ∧ item = build source) :
    ∃ sources : List α, items = sources.map build ∧ ∀ source ∈ sources, holds source := by
  induction items with
  | nil => exact ⟨[], rfl, by simp⟩
  | cons item items ih =>
      obtain ⟨source, good, rfl⟩ := each item List.mem_cons_self
      obtain ⟨sources, rfl, others⟩ :=
        ih fun other member => each other (List.mem_cons_of_mem _ member)
      exact ⟨source :: sources, rfl, List.forall_mem_cons.mpr ⟨good, others⟩⟩

section Tabulated

variable {totals ceils : AList fun _ : Text => ExactFloat} {names : ℕ → Text} {length : ℕ}
  {ticks atCeiling : ℕ → Option ℕ} (totalsTabulate : Tabulates totals names length ticks)
  (ceilsTabulate : Tabulates ceils names length atCeiling)
  (distinct : ∀ first < length, ∀ second < length, names first = names second → first = second)

theorem mem_shownRefs {ref : ℕ} :
    ref ∈ shownRefs length ticks ↔ ref < length ∧ (ticks ref).isSome := by
  simp [shownRefs]

include totalsTabulate distinct in
theorem keys_perm : totals.keys.Perm ((shownRefs length ticks).map names) := by
  have nodup : ((shownRefs length ticks).map names).Nodup := by
    apply List.Nodup.map_on _ (List.nodup_range.filter _)
    intro first firstMember second secondMember same
    exact distinct first (mem_shownRefs.mp firstMember).1 second
      (mem_shownRefs.mp secondMember).1 same
  rw [List.perm_ext_iff_of_nodup totals.keys_nodup nodup]
  intro key
  rw [List.mem_map, ← AList.mem_keys]
  constructor
  · intro member
    obtain ⟨ref, inside, rfl⟩ := totalsTabulate.keys key member
    rw [← AList.lookup_isSome, totalsTabulate.lookup ref inside, Option.isSome_map] at member
    exact ⟨ref, mem_shownRefs.mpr ⟨inside, member⟩, rfl⟩
  · rintro ⟨ref, shown, rfl⟩
    obtain ⟨inside, counted⟩ := mem_shownRefs.mp shown
    rw [← AList.lookup_isSome, totalsTabulate.lookup ref inside, Option.isSome_map]
    exact counted

theorem Tabulates.getD {table : AList fun _ : Text => ExactFloat} {values : ℕ → Option ℕ}
    (tabulates : Tabulates table names length values) {ref : ℕ} (inside : ref < length) :
    (table.lookup (names ref)).getD 0 = .finite (shownCount values ref) := by
  rw [tabulates.lookup ref inside, shownCount]
  cases values ref <;> rfl

include totalsTabulate ceilsTabulate in
theorem row_eq {ref : ℕ} (inside : ref < length) :
    row totals ceils (names ref) =
      rowOf (names ref) (shownCount ticks ref) (shownCount atCeiling ref) := by
  simp only [row, rowOf, totalsTabulate.getD inside, ceilsTabulate.getD inside, ratio_finite]

theorem entries_eq (table : AList fun _ : Text => ExactFloat) :
    table.entries.map Sigma.snd = table.keys.map fun key => (table.lookup key).getD 0 := by
  rw [AList.keys, List.keys, List.map_map]
  apply List.map_congr_left
  intro entry member
  have found : table.lookup entry.1 = some entry.2 := AList.mem_lookup_iff.mpr member
  simp [found]

include totalsTabulate distinct in
theorem sum_keys {table : AList fun _ : Text => ExactFloat} {values : ℕ → Option ℕ}
    (tabulates : Tabulates table names length values) :
    sum (totals.keys.map fun key => (table.lookup key).getD 0) =
      .finite ((shownRefs length ticks).map (shownCount values)).sum := by
  have perm := (keys_perm totalsTabulate distinct).map fun key => (table.lookup key).getD 0
  have listed : ((shownRefs length ticks).map names).map (fun key => (table.lookup key).getD 0) =
      (shownRefs length ticks).map fun ref => .finite (shownCount values ref : ℚ) := by
    rw [List.map_map]
    apply List.map_congr_left
    intro ref member
    exact tabulates.getD (mem_shownRefs.mp member).1
  rw [sum, perm.foldl_eq, listed]
  change sum _ = _
  rw [sum_finite, Nat.cast_list_sum, List.map_map]
  rfl

include totalsTabulate ceilsTabulate distinct in
theorem mem_rows (row' : Row) : row' ∈ (report totals ceils).rows ↔
    ∃ ref ∈ shownRefs length ticks,
      row' = rowOf (names ref) (shownCount ticks ref) (shownCount atCeiling ref) := by
  have perm := keys_perm totalsTabulate distinct
  constructor
  · intro member
    obtain ⟨key, listed, rfl⟩ := List.mem_map.mp member
    obtain ⟨ref, shown, rfl⟩ := List.mem_map.mp (perm.mem_iff.mp (List.mem_mergeSort.mp listed))
    exact ⟨ref, shown, row_eq totalsTabulate ceilsTabulate (mem_shownRefs.mp shown).1⟩
  · rintro ⟨ref, shown, rfl⟩
    have listed : names ref ∈ totals.keys.mergeSort textLe :=
      List.mem_mergeSort.mpr (perm.mem_iff.mpr (List.mem_map_of_mem shown))
    exact List.mem_map.mpr
      ⟨names ref, listed, row_eq totalsTabulate ceilsTabulate (mem_shownRefs.mp shown).1⟩

include totalsTabulate ceilsTabulate distinct in
/-- A report on tables with some backends is about exactly these. -/
theorem prints_report (nonempty : totals.keys ≠ []) :
    Prints names length ticks atCeiling (report totals ceils) := by
  have rows := mem_rows totalsTabulate ceilsTabulate distinct
  have fleetTicks : (report totals ceils).fleetTicks =
      .finite ((shownRefs length ticks).map (shownCount ticks)).sum := by
    change sum (totals.entries.map Sigma.snd) = _
    rw [entries_eq]
    exact sum_keys totalsTabulate distinct totalsTabulate
  have fleetAtCeiling : (report totals ceils).fleetAtCeiling =
      .finite ((shownRefs length ticks).map (shownCount atCeiling)).sum :=
    sum_keys totalsTabulate distinct ceilsTabulate
  have fleetFraction : (report totals ceils).fleetFraction =
      .finite (((shownRefs length ticks).map (shownCount atCeiling)).sum /
        ((shownRefs length ticks).map (shownCount ticks)).sum) := by
    change ratio (report totals ceils).fleetAtCeiling (report totals ceils).fleetTicks = _
    rw [fleetAtCeiling, fleetTicks, ratio_finite]
  obtain ⟨refs, listed, shown⟩ := exists_map_eq fun row' member => (rows row').mp member
  let fractions := refs.map fun ref => (shownCount atCeiling ref / shownCount ticks ref : ℚ)
  have someRow : refs ≠ [] := by
    rintro rfl
    have noRows : totals.keys.mergeSort textLe = [] := List.map_eq_nil_iff.mp listed
    apply nonempty
    exact List.length_eq_zero_iff.mp (by simpa using congrArg List.length noRows)
  obtain ⟨worst, attained, largest, above⟩ :=
    @worstOf_finite fractions (by simpa [fractions] using someRow)
  have worstIs : (report totals ceils).worst = .finite worst := by
    change worstOf ((report totals ceils).rows.map Row.fraction) = _
    rw [listed, List.map_map, ← largest, List.map_map]
    rfl
  obtain ⟨worstRef, worstListed, rfl⟩ := List.mem_map.mp attained
  have worstShown := shown worstRef worstListed
  have bounded (ref : ℕ) (member : ref ∈ shownRefs length ticks) :
      (shownCount atCeiling ref / shownCount ticks ref : ℚ) ≤
        shownCount atCeiling worstRef / shownCount ticks worstRef := by
    obtain ⟨other, otherListed, same⟩ := List.mem_map.mp (listed ▸ (rows _).mpr ⟨ref, member, rfl⟩)
    have fraction := ExactFloat.finite.inj (congrArg Row.fraction same)
    rw [← fraction]
    exact above _ (List.mem_map_of_mem otherListed)
  refine ⟨rows, ?_, fleetTicks, fleetAtCeiling, fleetFraction, ⟨worstRef, worstShown, worstIs⟩, ?_,
    fun ordered => ⟨?_, ?_⟩⟩
  · change (((totals.keys.mergeSort textLe).map (row totals ceils)).map Row.backend).Nodup
    rw [List.map_map]
    exact (List.mergeSort_perm totals.keys textLe).nodup_iff.mpr totals.keys_nodup |>.map
      fun _ _ same => same
  · intro row' member
    obtain ⟨ref, refShown, rfl⟩ := (rows row').mp member
    rw [worstIs]
    exact (ExactFloat.finite_le_finite _ _).mpr (bounded ref refShown)
  · rw [fleetFraction, worstIs, ExactFloat.finite_le_finite]
    exact mean_le (by positivity) ordered bounded
  · have atMost : (shownCount atCeiling worstRef : ℚ) ≤ shownCount ticks worstRef := by
      exact_mod_cast ordered worstRef worstShown
    rw [worstIs, ExactFloat.ofNat_eq, ExactFloat.finite_le_finite, Nat.cast_one]
    exact div_le_one_of_le₀ atMost (Nat.cast_nonneg _)

end Tabulated

end CeilingStats

/-! ## The report of a running router -/

namespace MeteredRun

open CeilingStats (Tabulates Prints shownCount shownRefs series totalName ceilName)

/-- The counters of the backends that a scrape between two states shows.  The ticks at the
ceiling may exceed the ticks by those that were counted meanwhile. -/
structure Shows (config : Config) (first last : MeteredRun F) (ticks atCeiling : ℕ → Option ℕ) :
    Prop where
  ticks_bounds : ∀ ref < config.backends.length,
    first.ticks ref ≤ shownCount ticks ref ∧ shownCount ticks ref ≤ last.ticks ref
  atCeiling_bounds : ∀ ref < config.backends.length,
    first.ceilingTicks ref ≤ shownCount atCeiling ref ∧
      shownCount atCeiling ref ≤ last.ceilingTicks ref
  unsampled : ∀ ref < config.backends.length, last.ticks ref = 0 → ticks ref = none
  excess : ∀ ref < config.backends.length,
    shownCount atCeiling ref ≤ shownCount ticks ref + (last.ticks ref - first.ticks ref)

/-- What the report says about the counters of a router that went from one state to another
during the scrape. -/
def Reports (config : Config) (first last : MeteredRun F) (ending : CeilingStats.Ending) : Prop :=
  ∃ ticks atCeiling, Shows config first last ticks atCeiling ∧
    match ending with
    | .noSamples => ∀ ref < config.backends.length, ticks ref = none
    | .printed report => Prints (fun ref => (config.heap ref).key.toList) config.backends.length
        ticks atCeiling report

section Tables

variable {config : Config} {before after : Registry} {name : String}
  (tick : Registry.isTickCounter name = true) (counts : after.CountsFor (Serves config))
include tick counts

theorem own_of_countsFor (plain : ∀ b ∈ config.backends, IsPlain b.url) :
    ∀ key ∈ after.counters, key.name = name →
      ∃ backend, IsPlain backend ∧ key = .ofBackend name backend := by
  rintro key member rfl
  obtain ⟨count, counted⟩ := Option.isSome_iff_exists.mp (AList.lookup_isSome.mpr member)
  obtain ⟨-, backend, ⟨ref, inside, rfl⟩, same⟩ := counts key count counted tick
  refine ⟨_, ?_, same⟩
  have listed : config.backends[ref]? = some config.backends[ref] := List.getElem?_eq_getElem inside
  unfold Config.heap
  rw [listed]
  exact plain _ (List.getElem_mem inside)

variable {shown : AList fun _ : MetricKey => ℕ} (loaded : before.Loaded after name shown)
include loaded

/-- The table of a family has the counts of the configured backends. -/
theorem tabulates_of_lookup {table : AList fun _ : Text => ExactFloat}
    (lookup : ∀ backend : String, table.lookup backend.toList =
      (shown.lookup (.ofBackend name backend)).map fun count => .finite count)
    (keys : ∀ key ∈ table, ∃ backend : String, key = backend.toList) :
    Tabulates table (fun ref => (config.heap ref).key.toList) config.backends.length
      fun ref => shown.lookup (.ofBackend name (config.heap ref).key) where
  lookup ref _ := lookup _
  keys key member := by
    obtain ⟨backend, rfl⟩ := keys key member
    rw [← AList.lookup_isSome, lookup, Option.isSome_map, Option.isSome_iff_exists] at member
    obtain ⟨count, counted⟩ := member
    obtain ⟨-, registered⟩ := loaded.own _ (AList.mem_lookup_iff.mp counted)
    obtain ⟨total, totalled⟩ := Option.isSome_iff_exists.mp (AList.lookup_isSome.mpr registered)
    obtain ⟨-, other, ⟨ref, inside, rfl⟩, same⟩ := counts _ total totalled tick
    have named : backend = (config.heap ref).key := by simpa using same
    exact ⟨ref, inside, by rw [named]⟩

omit tick counts in
/-- What is shown lies between the counts at the two moments. -/
theorem bounds_of_loaded (backend : String) :
    before.count (.ofBackend name backend) ≤ (shown.lookup (.ofBackend name backend)).getD 0 ∧
      (shown.lookup (.ofBackend name backend)).getD 0 ≤ after.count (.ofBackend name backend) := by
  cases counted : shown.lookup (.ofBackend name backend) with
  | some count => exact loaded.bounds _ (AList.mem_lookup_iff.mp counted)
  | none =>
      refine ⟨?_, Nat.zero_le _⟩
      have absent : MetricKey.ofBackend name backend ∉ before.counters := by
        intro member
        have there := loaded.complete _ (AList.mem_keys.mp member) rfl
        rw [← AList.lookup_isSome, counted] at there
        cases there
      rw [Registry.count, AList.lookup_eq_none.mpr absent]

/-- A counter that stands at zero at the end is not there. -/
theorem lookup_eq_none_of_count {backend : String}
    (zero : after.count (.ofBackend name backend) = 0) :
    shown.lookup (.ofBackend name backend) = none := by
  by_contra counted
  obtain ⟨count, counted⟩ := Option.ne_none_iff_exists'.mp counted
  obtain ⟨-, registered⟩ := loaded.own _ (AList.mem_lookup_iff.mp counted)
  obtain ⟨total, totalled⟩ := Option.isSome_iff_exists.mp (AList.lookup_isSome.mpr registered)
  have positive := (counts _ total totalled tick).1
  rw [Registry.count, totalled, Option.getD_some] at zero
  omega

end Tables

/-- The report on a scrape of a running router shows each sampled backend once, with
values that its two counters had during the scrape and their quotient, and the worst of
these and the quotient for the fleet; it is missing only when no backend had been sampled
before. -/
theorem ceiling_report [DecayNumber F] (maxSignalAge : Instant) (libraries : Libraries)
    {raw : RawConfig} {config : Config} (accepted : raw.validate = .ok config)
    (plain : ∀ b ∈ config.backends, IsPlain b.url) {strategy : RoutingStrategy}
    {routeHists : RouteHistograms F} {earlier events : List (MeteredEvent F)}
    {first last : MeteredRun F}
    (started : EventRun.run (step maxSignalAge libraries config.sigma)
      (initial config.heap (config.router strategy routeHists)) earlier = some first)
    (continued : EventRun.run (step maxSignalAge libraries config.sigma) first events = some last)
    {text : Text} (exposes : first.registry.Exposes last.registry text) :
    ∃ ending, CeilingStats.main text = some ending ∧ Reports config first last ending := by
  have whole := (EventRun.run_append_of_run started events).trans continued
  have counts := countsFor_run whole
  have configuredFirst := configured_run started
  have configured := configured_run whole
  have distinctUrls := RawConfig.urls_distinct accepted
  have distinct : ∀ first < config.backends.length, ∀ second < config.backends.length,
      (config.heap first).key.toList = (config.heap second).key.toList → first = second := by
    intro first firstInside second secondInside same
    by_contra apart
    exact Config.heap_key_ne distinctUrls firstInside secondInside apart (String.toList_inj.mp same)
  obtain ⟨s, sigma, -, -⟩ := RawConfig.exists_sigma accepted
  rw [sigma] at started continued whole
  have totalTick : Registry.isTickCounter "router_backend_occupancy_ticks_total" = true := by decide
  have ceilTick : Registry.isTickCounter "router_backend_ticks_at_ceiling_total" = true := by decide
  obtain ⟨shownTicks, totals, ticksLoaded, totalsRead, totalsLookup, totalsKeys⟩ :=
    CeilingStats.exists_series totalTick (by decide) (own_of_countsFor totalTick counts plain) exposes
  obtain ⟨shownCeils, ceils, ceilsLoaded, ceilsRead, ceilsLookup, ceilsKeys⟩ :=
    CeilingStats.exists_series ceilTick (by decide) (own_of_countsFor ceilTick counts plain) exposes
  have totalsTabulate := tabulates_of_lookup totalTick counts ticksLoaded totalsLookup totalsKeys
  have ceilsTabulate := tabulates_of_lookup ceilTick counts ceilsLoaded ceilsLookup ceilsKeys
  let ticks (ref : BackendRef) := shownTicks.lookup (.occupancyTicks (config.heap ref).key)
  let atCeiling (ref : BackendRef) := shownCeils.lookup (.ticksAtCeiling (config.heap ref).key)
  have shows : Shows config first last ticks atCeiling := by
    have ticksBounds (ref : BackendRef) :
        first.ticks ref ≤ shownCount ticks ref ∧ shownCount ticks ref ≤ last.ticks ref := by
      rw [MeteredRun.ticks, MeteredRun.ticks, configuredFirst.routed.key, configured.routed.key]
      exact bounds_of_loaded ticksLoaded (config.heap ref).key
    have ceilsBounds (ref : BackendRef) : first.ceilingTicks ref ≤ shownCount atCeiling ref ∧
        shownCount atCeiling ref ≤ last.ceilingTicks ref := by
      rw [ceilingTicks, ceilingTicks, configuredFirst.routed.key, configured.routed.key]
      exact bounds_of_loaded ceilsLoaded (config.heap ref).key
    refine ⟨fun ref _ => ticksBounds ref, fun ref _ => ceilsBounds ref, fun ref _ zero => ?_,
      fun ref inside => ?_⟩
    · rw [MeteredRun.ticks, configured.routed.key] at zero
      exact lookup_eq_none_of_count totalTick counts ticksLoaded zero
    · have ordered := ceilingTicks_le distinctUrls inside whole
      have ticksShown := ticksBounds ref
      have ceilsShown := ceilsBounds ref
      omega
  have printed : CeilingStats.main text = some
      (if totals.keys.isEmpty then .noSamples else .printed (CeilingStats.report totals ceils)) := by
    have totalsFound : series text totalName = some totals := totalsRead
    have ceilsFound : series text ceilName = some ceils := ceilsRead
    unfold CeilingStats.main
    rw [totalsFound, Option.bind_some, ceilsFound, Option.map_some]
  refine ⟨_, printed, ticks, atCeiling, shows, ?_⟩
  by_cases empty : totals.keys = []
  · rw [if_pos (List.isEmpty_iff.mpr empty)]
    intro ref inside
    by_contra counted
    have perm := CeilingStats.keys_perm totalsTabulate distinct
    rw [empty] at perm
    have isShown : (ticks ref).isSome :=
      Option.isSome_iff_ne_none.mpr counted
    have shown := CeilingStats.mem_shownRefs.mpr ⟨inside, isShown⟩
    have listed := perm.mem_iff.mpr (List.mem_map_of_mem shown)
    cases listed
  · rw [if_neg (by simpa using empty)]
    exact CeilingStats.prints_report totalsTabulate ceilsTabulate distinct empty

section Torn

open RouterRun (chatLibraries chatRouter)

/-- A scrape that loads the ticks of the first backend before a round and the rest
after it. -/
def tornLines : List Text :=
  ["# TYPE router_backend_occupancy_ticks_total counter".toList,
    (MetricKey.occupancyTicks "http://a").line 1, (MetricKey.occupancyTicks "http://b").line 2, [],
    "# TYPE router_backend_ticks_at_ceiling_total counter".toList,
    (MetricKey.ticksAtCeiling "http://a").line 1, []]

def shownTicks : AList fun _ : MetricKey => ℕ :=
  ((∅ : AList _).insert (.occupancyTicks "http://b") 2).insert (.occupancyTicks "http://a") 1

def shownCeilings : AList fun _ : MetricKey => ℕ :=
  (∅ : AList _).insert (.ticksAtCeiling "http://a") 1

theorem exists_torn :
    ∃ first last : MeteredRun ℝ,
      EventRun.run (step 0 chatLibraries defaultSigma) oneSlotStarted
        (openedBetweenLoads ++ List.replicate 10 .sample) = some first ∧
      EventRun.run (step 0 chatLibraries defaultSigma) first
        (.tick :: List.replicate 11 .sample) = some last ∧
      first.ticks 0 = 1 ∧ last.ticks 0 = 2 ∧
      first.registry.Loaded last.registry "router_backend_occupancy_ticks_total" shownTicks ∧
      first.registry.Loaded last.registry "router_backend_ticks_at_ceiling_total" shownCeilings := by
  have crossed : EventRun.run (step 0 chatLibraries defaultSigma) oneSlotStarted
      openedBetweenLoads = some _ :=
    (EventRun.run_append_of_run (run_chatArrival defaultSigma ⟨rfl, rfl⟩
      oneSlotEach.toConfig.heap) _).trans rfl
  refine ⟨_, _, (EventRun.run_append_of_run crossed _).trans rfl, rfl, ?_, ?_, ⟨?_, ?_, ?_⟩,
    ⟨?_, ?_, ?_⟩⟩
  all_goals decide +kernel

theorem ceiling_report_torn :
    ∃ (first last : MeteredRun ℝ) (report : CeilingStats.Report),
      EventRun.run (step 0 chatLibraries defaultSigma) oneSlotStarted
        (openedBetweenLoads ++ List.replicate 10 .sample) = some first ∧
      EventRun.run (step 0 chatLibraries defaultSigma) first
        (.tick :: List.replicate 11 .sample) = some last ∧
      first.ticks 0 = 1 ∧ last.ticks 0 = 2 ∧
      CeilingStats.main (['\n'].intercalate tornLines) = some (.printed report) ∧
      (report.fleetTicks, report.fleetAtCeiling) = (3, 1) ∧
      Reports oneSlotEach.toConfig first last (.printed report) := by
  have plain : ∀ b ∈ oneSlotEach.toConfig.backends, IsPlain b.url := by
    unfold IsPlain Exposition.IsSimple
    decide
  obtain ⟨first, last, started, continued, before, after, ticks, ceilings⟩ := exists_torn
  obtain ⟨ending, printed, reports⟩ := @ceiling_report ℝ _ 0 chatLibraries _ _
    oneSlotEach_accepted plain (.roundRobin 0) (chatRouter (.roundRobin 0)).routeHists _ _ first
    last started continued (['\n'].intercalate tornLines)
    ⟨tornLines, rfl, by decide, fun name tick => by
      rcases of_decide_eq_true (by simpa [Registry.isTickCounter] using tick) with rfl | rfl
      · exact ⟨shownTicks, ticks, by decide⟩
      · exact ⟨shownCeilings, ceilings, by decide⟩⟩
  have fleet : (CeilingStats.main (['\n'].intercalate tornLines)).map CeilingStats.Ending.fleet =
      some (some (3, 1)) := by
    decide +kernel
  rw [printed, Option.map_some] at fleet
  cases ending with
  | noSamples => cases fleet
  | printed report =>
      exact ⟨first, last, report, started, continued, before, after, printed,
        Option.some.inj (Option.some.inj fleet), reports⟩

end Torn

end MeteredRun

end KeelRouter
