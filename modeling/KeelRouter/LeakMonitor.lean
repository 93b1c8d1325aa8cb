import KeelRouter.CeilingReport
import KeelRouter.ResultFiles
import KeelRouter.TraceGenerator

/-!
# The leak check

While it runs, the load generator prints the requests in flight and the occupancy of
every backend in lines of a log, under the last four characters of its url.  The check
of the log looks for an idle backend that is not empty.  No run ever shows one.  A state
that has one is told from the others, unless a later backend has the same last four
characters.

Numbers are exact.  An occupancy of 3000/200000 is the tie between 0.01 and 0.02 here, and
is printed as 0.02; the nearest double is below it, and Python prints 0.01.
-/

namespace KeelRouter

/-! ## Printing -/

namespace Loadgen

/-- `b[-4:]` -/
def shortName (url : Csv.Field) : Csv.Field := url.drop (url.length - 4)

/-- `f"{value:.2f}"` -/
def twoDecimals (value : ℚ) : List Char :=
  (if value < 0 then ['-'] else []) ++
    NumberText.fixedText 2 (TraceGenerator.roundHalfEven (100 * |value|)).toNat

namespace LoadState

/-- The keys of the dictionaries, in their order. -/
def keys (state : LoadState) : List BackendRef := state.backends.eraseDups

def pairText (name value : List Char) : List Char := name ++ '=' :: value

/-- The values of all backends under their short names. -/
def shown (url : BackendRef → Csv.Field) (state : LoadState) (value : BackendRef → List Char) :
    List Char :=
  [' '].intercalate (state.keys.map fun b => pairText (shortName (url b)) (value b))

def inFlightText (url : BackendRef → Csv.Field) (state : LoadState) : List Char :=
  state.shown url fun b => wholeText (state.inFlight b)

def occupancyText (url : BackendRef → Csv.Field) (options : Options) (state : LoadState) :
    List Char :=
  state.shown url fun b => twoDecimals (occupancy options.settings state.core b)

def progressText (total : ℕ) (state : LoadState) : List Char :=
  "  -- disp=".toList ++ (Nat.toDigits 10 state.disp ++ '/' :: (Nat.toDigits 10 total ++
    (" done=".toList ++ (Nat.toDigits 10 state.done ++ '/' :: (Nat.toDigits 10 total ++
      " |".toList)))))

/-- The line of `ticker` for a trace with some number of requests. -/
def tickerLine (url : BackendRef → Csv.Field) (total : ℕ) (options : Options)
    (state : LoadState) : List Char :=
  let line := state.progressText total ++
    (" inflight[".toList ++ (state.inFlightText url ++ [']']))
  if options.policy = .proxy then line
  else line ++ (" | occupancy[".toList ++ (state.occupancyText url options ++ [']']))

end LoadState

end Loadgen

/-! ## Checking -/

namespace Verify

def opening : Text := "inflight[".toList

/-- A match of the pattern at the start of a text: its groups, and what follows. -/
def matchTick (text : Text) : Option ((Text × Text) × Text) :=
  (UnicodeText.stripPrefix opening text).bind fun body =>
    (UnicodeText.stripPrefix "] | occupancy[".toList (body.dropWhile (· ≠ ']'))).bind fun block =>
      match block.dropWhile (· ≠ ']') with
      | [] => none
      | _ :: rest => some ((body.takeWhile (· ≠ ']'), block.takeWhile (· ≠ ']')), rest)

/-- The matches in a text, of which the last match still covers some characters. -/
def findTicks : ℕ → Text → List (Text × Text)
  | _, [] => []
  | covered + 1, _ :: text => findTicks covered text
  | 0, char :: text =>
      match matchTick (char :: text) with
      | some (groups, rest) => groups :: findTicks (text.length - rest.length) text
      | none => findTicks 0 text

/-- `x.split("=")`, where it has two parts -/
def readPair (text : Text) : Option (Text × Text) :=
  match text.splitOn '=' with
  | [name, value] => some (name, value)
  | _ => none

abbrev TickDict := AList fun _ : Text => Text

def tickDict (pairs : List (Text × Text)) : TickDict :=
  pairs.foldl (fun dict pair => dict.insert pair.1 pair.2) ∅

/-- `dict(x.split("=") for x in group.split())`; none for a `ValueError`. -/
def readTick (group : Text) : Option TickDict :=
  ((Loadgen.split group).mapM readPair).map tickDict

def leakText (name value : Text) : Text :=
  "backend ".toList ++ name ++ ": in_flight=0 but occupancy=".toList ++ value

/-- The leak of a name, if there is one; none where a number cannot be read. -/
def leakOf (inf occ : TickDict) (name : Text) : Option (Option Text) :=
  match inf.lookup name, occ.lookup name with
  | some requests, some value =>
      (parseInt requests).bind fun requests =>
        if requests = 0 then
          (NumberText.parseFloat value).map fun u =>
            if .finite (1 / 100) < u then some (leakText name value) else none
        else some none
  | _, _ => some none

/-- The body of the loop over the matches. -/
def tickLeaks (groups : Text × Text) : Option (List Text) :=
  match readTick groups.1, readTick groups.2 with
  | some inf, some occ => (inf.keys.mapM (leakOf inf occ)).map fun leaks => leaks.filterMap id
  | _, _ => some []

def leakReport (leaks : List Text) : CheckStatus × String × List String :=
  if leaks.isEmpty then
    (.pass, "no KV accounting leaks (in_flight=0 always implies occupancy=0)", [])
  else
    let uniq := leaks.dedup.mergeSort CeilingStats.textLe
    (.fail, toString leaks.length ++ " KV accounting leak(s)",
      (uniq.take 10).map String.ofList ++ [
        "", "kv_proj was not fully released. Suspect an early return or an",
        "exception path in send_request that skips the finally block."])

/-- `check_kv_leak` on the text of the log, if there is one; none where it raises. -/
def checkKvLeak : Option Text → Option (CheckStatus × String × List String)
  | none => some (.skip, "no run log supplied (--log)", [
      "This is the strongest structural check available. Capture a log with",
      "`./stage5_compare.sh 2>&1 | tee results_compare/compare_log.txt`."])
  | some txt => ((findTicks 0 txt).mapM tickLeaks).map fun leaks => leakReport leaks.flatten

/-! ## Finding the lines -/

theorem findTicks_covered (first rest : Text) :
    findTicks first.length (first ++ rest) = findTicks 0 rest := by
  induction first with
  | nil => rfl
  | cons char first ih => exact ih

theorem matchTick_eq_none {line : Text} {stop : Char} (foreign : stop ∉ opening)
    (unopened : ¬ opening <:+: line) (rest : Text) : matchTick (line ++ stop :: rest) = none := by
  have other : ¬ opening <+: line := fun opens => unopened opens.isInfix
  rw [matchTick, UnicodeText.stripPrefix_append_eq_none other (by simpa using foreign)]
  rfl

/-- A line that does not open a match has none. -/
theorem findTicks_line {line : Text} {stop : Char} (foreign : stop ∉ opening)
    (unopened : ¬ opening <:+: line) (rest : Text) :
    findTicks 0 (line ++ stop :: rest) = findTicks 0 rest := by
  induction line with
  | nil =>
      have unmatched : matchTick (stop :: rest) = none := matchTick_eq_none foreign unopened rest
      rw [List.nil_append, findTicks, unmatched]
  | cons char line ih =>
      have unmatched : matchTick (char :: (line ++ stop :: rest)) = none :=
        matchTick_eq_none foreign unopened rest
      rw [List.cons_append, findTicks, unmatched]
      apply ih
      intro inside
      exact unopened (inside.trans (List.suffix_cons char line).isInfix)

theorem matchTick_shown {inf occ : Text} (first : ']' ∉ inf) (second : ']' ∉ occ) (rest : Text) :
    matchTick (opening ++ (inf ++ ("] | occupancy[".toList ++ (occ ++ ']' :: rest)))) =
      some ((inf, occ), rest) := by
  have middle : "] | occupancy[".toList = ']' :: " | occupancy[".toList := rfl
  have taken : (inf ++ ("] | occupancy[".toList ++ (occ ++ ']' :: rest))).takeWhile (· ≠ ']') =
      inf := by
    rw [middle, List.cons_append]
    exact UnicodeText.takeWhile_ne_append first _
  have dropped : (inf ++ ("] | occupancy[".toList ++ (occ ++ ']' :: rest))).dropWhile (· ≠ ']') =
      "] | occupancy[".toList ++ (occ ++ ']' :: rest) := by
    rw [middle, List.cons_append, UnicodeText.dropWhile_ne_append first]
    rfl
  have blockDropped : (occ ++ ']' :: rest).dropWhile (· ≠ ']') = ']' :: rest := by
    rw [UnicodeText.dropWhile_ne_append second]
    rfl
  have blockTaken : (occ ++ ']' :: rest).takeWhile (· ≠ ']') = occ :=
    UnicodeText.takeWhile_ne_append second _
  rw [matchTick, UnicodeText.stripPrefix_append, Option.bind_some, taken, dropped,
    UnicodeText.stripPrefix_append, Option.bind_some, blockDropped, blockTaken]

/-- The groups of a line with both lists are found. -/
theorem findTicks_shown {inf occ : Text} (first : ']' ∉ inf) (second : ']' ∉ occ) (rest : Text) :
    findTicks 0 (opening ++ (inf ++ ("] | occupancy[".toList ++ (occ ++ ']' :: rest)))) =
      (inf, occ) :: findTicks 0 rest := by
  have found := matchTick_shown first second rest
  have opened : opening = 'i' :: "nflight[".toList := rfl
  let covered := "nflight[".toList ++ (inf ++ ("] | occupancy[".toList ++ (occ ++ [']'])))
  have spelled : opening ++ (inf ++ ("] | occupancy[".toList ++ (occ ++ ']' :: rest))) =
      'i' :: (covered ++ rest) := by
    simp [opened, covered]
  rw [spelled] at found ⊢
  rw [findTicks, found]
  dsimp only
  rw [List.length_append, Nat.add_sub_cancel, findTicks_covered]

/-- The only bracket of the text comes too early. -/
theorem not_opened_later {inf : Text} (unopened : '[' ∉ inf) :
    ¬ opening <:+: "nflight[".toList ++ (inf ++ [']']) := by
  rintro ⟨front, back, same⟩
  have brackets := congrArg (List.count '[') same
  have one : ("nflight[".toList ++ (inf ++ [']'])).count '[' = 1 := by
    rw [List.count_append, List.count_append, List.count_eq_zero_of_not_mem unopened]
    rfl
  have own : opening.count '[' = 1 := rfl
  rw [one, List.count_append, List.count_append, own] at brackets
  have before : '[' ∉ front := List.count_eq_zero.mp (by omega)
  have left : (front ++ opening ++ back).takeWhile (· ≠ '[') = front ++ "inflight".toList := by
    have parts : opening = "inflight".toList ++ ['['] := rfl
    have cut : front ++ opening ++ back = (front ++ "inflight".toList) ++ '[' :: back := by
      rw [parts]
      simp only [List.append_assoc, List.singleton_append]
    rw [cut]
    exact UnicodeText.takeWhile_ne_append (by simp [before]) _
  rw [same] at left
  have right : ("nflight[".toList ++ (inf ++ [']'])).takeWhile (· ≠ '[') = "nflight".toList := by
    have parts : "nflight[".toList = "nflight".toList ++ ['['] := rfl
    rw [parts, List.append_assoc, List.singleton_append]
    exact UnicodeText.takeWhile_ne_append (by decide) _
  have lengths := congrArg List.length (right.symm.trans left)
  rw [List.length_append] at lengths
  have longer : "inflight".toList.length = "nflight".toList.length + 1 := rfl
  omega

/-- A line with the requests alone has no match. -/
theorem findTicks_alone {inf : Text} (unclosed : ']' ∉ inf) (unopened : '[' ∉ inf) (rest : Text) :
    findTicks 0 (opening ++ (inf ++ ']' :: '\n' :: rest)) = findTicks 0 rest := by
  have opened : opening = 'i' :: "nflight[".toList := rfl
  have unmatched : matchTick (opening ++ (inf ++ ']' :: '\n' :: rest)) = none := by
    have dropped : (inf ++ ']' :: '\n' :: rest).dropWhile (· ≠ ']') = ']' :: '\n' :: rest := by
      rw [UnicodeText.dropWhile_ne_append unclosed]
      rfl
    rw [matchTick, UnicodeText.stripPrefix_append, Option.bind_some, dropped]
    rfl
  have spelled : opening ++ (inf ++ ']' :: '\n' :: rest) =
      'i' :: (("nflight[".toList ++ (inf ++ [']'])) ++ '\n' :: rest) := by
    simp [opened]
  rw [spelled] at unmatched ⊢
  rw [findTicks, unmatched]
  exact findTicks_line (by decide) (not_opened_later unopened) rest

end Verify

/-! ## Reading the values -/

namespace Loadgen

/-- A character of a name or a value. -/
def isTokenChar (char : Char) : Bool :=
  !isSpace char && char ≠ '=' && char ≠ '[' && char ≠ ']'

theorem isTokenChar_of_isDigit {char : Char} (digit : char.isDigit = true) :
    isTokenChar char = true := by
  have apart {other : Char} (symbol : other.isDigit = false) : char ≠ other := by
    rintro rfl
    rw [symbol] at digit
    cases digit
  have equals : char ≠ '=' := apart (by decide)
  have left : char ≠ '[' := apart (by decide)
  have right : char ≠ ']' := apart (by decide)
  simp [isTokenChar, not_isSpace_of_isDigit digit, equals, left, right]

theorem isTokenChar_of_mem_wholeText (value : ℤ) :
    ∀ char ∈ wholeText value, isTokenChar char = true := by
  intro char member
  rcases Verify.mem_wholeText member with rfl | digit
  · decide
  · exact isTokenChar_of_isDigit digit

theorem isTokenChar_of_mem_twoDecimals (value : ℚ) :
    ∀ char ∈ twoDecimals value, isTokenChar char = true := by
  intro char member
  rcases List.mem_append.mp member with sign | digits
  · split at sign
    · rw [List.mem_singleton.mp sign]
      decide
    · cases sign
  · rcases List.mem_append.mp digits with whole | rest
    · exact isTokenChar_of_isDigit (Verify.isDigit_of_mem_toDigits char whole)
    · rcases List.mem_cons.mp rest with rfl | fraction
      · decide
      · exact isTokenChar_of_isDigit (NumberText.isDigit_of_mem_lastDigits fraction)

/-- Words that are joined by spaces are split again. -/
theorem split_intercalate {words : List (List Char)} (nonempty : ∀ word ∈ words, word ≠ [])
    (visible : ∀ word ∈ words, ∀ char ∈ word, isSpace char = false) :
    split ([' '].intercalate words) = words := by
  have alone {word : List Char} (listed : word ≠ [])
      (unbroken : ∀ char ∈ word, isSpace char = false) : split word = [word] := by
    unfold split
    rw [List.splitOnP_eq_singleton unbroken]
    simp [listed]
  induction words with
  | nil => rfl
  | cons word words ih =>
      have own := alone (nonempty word List.mem_cons_self) (visible word List.mem_cons_self)
      have others := ih (fun other member => nonempty other (List.mem_cons_of_mem word member))
        (fun other member => visible other (List.mem_cons_of_mem word member))
      cases words with
      | nil => simpa using own
      | cons next words =>
          have apart : split (word ++ ' ' :: [' '].intercalate (next :: words)) =
              split word ++ split ([' '].intercalate (next :: words)) := by
            unfold split
            rw [List.splitOnP_append_cons _ _ (by decide), List.filter_append]
          rw [List.intercalate_cons_cons, List.append_assoc, List.singleton_append, apart, own,
            others]
          rfl

theorem mem_intercalate {words : List (List Char)} {char : Char}
    (member : char ∈ [' '].intercalate words) : char = ' ' ∨ ∃ word ∈ words, char ∈ word := by
  induction words with
  | nil => cases member
  | cons word words ih =>
      cases words with
      | nil => exact .inr ⟨word, List.mem_cons_self, by simpa using member⟩
      | cons next words =>
          rw [List.intercalate_cons_cons, List.append_assoc] at member
          rcases List.mem_append.mp member with own | later
          · exact .inr ⟨word, List.mem_cons_self, own⟩
          · rcases List.mem_cons.mp later with space | later
            · exact .inl space
            · rcases ih later with space | ⟨other, listed, inside⟩
              · exact .inl space
              · exact .inr ⟨other, List.mem_cons_of_mem word listed, inside⟩

section Shown

variable {url : BackendRef → Csv.Field} {value : BackendRef → List Char}
  (plain : ∀ b, ∀ char ∈ shortName (url b), isTokenChar char = true)
  (valued : ∀ b, ∀ char ∈ value b, isTokenChar char = true) (state : LoadState)
include plain valued

theorem mem_pairText {b : BackendRef} {char : Char}
    (member : char ∈ LoadState.pairText (shortName (url b)) (value b)) :
    char = '=' ∨ isTokenChar char = true := by
  rcases List.mem_append.mp member with name | rest
  · exact .inr (plain b char name)
  · rcases List.mem_cons.mp rest with equals | own
    · exact .inl equals
    · exact .inr (valued b char own)

theorem not_mem_shown {bracket : Char} (other : isTokenChar bracket = false)
    (notSpace : bracket ≠ ' ') (notEquals : bracket ≠ '=') : bracket ∉ state.shown url value := by
  intro member
  rcases mem_intercalate member with space | ⟨word, listed, inside⟩
  · exact notSpace space
  · obtain ⟨b, -, rfl⟩ := List.mem_map.mp listed
    rcases mem_pairText plain valued inside with equals | token
    · exact notEquals equals
    · rw [other] at token
      cases token

theorem split_shown : split (state.shown url value) =
    state.keys.map fun b => LoadState.pairText (shortName (url b)) (value b) := by
  apply split_intercalate
  · intro word listed
    obtain ⟨b, -, rfl⟩ := List.mem_map.mp listed
    simp [LoadState.pairText]
  · intro word listed char member
    obtain ⟨b, -, rfl⟩ := List.mem_map.mp listed
    rcases mem_pairText plain valued member with rfl | token
    · decide
    · simp only [isTokenChar, Bool.and_eq_true, Bool.not_eq_true'] at token
      exact token.1.1.1

end Shown

end Loadgen

namespace Verify

open Loadgen (LoadState isTokenChar shortName wholeText twoDecimals)

theorem readPair_pairText {name value : Text}
    (nameChars : ∀ char ∈ name, isTokenChar char = true)
    (valueChars : ∀ char ∈ value, isTokenChar char = true) :
    readPair (LoadState.pairText name value) = some (name, value) := by
  have noEquals {text : Text} (chars : ∀ char ∈ text, isTokenChar char = true) : '=' ∉ text := by
    intro member
    exact absurd (chars '=' member) (by decide)
  unfold readPair LoadState.pairText
  rw [List.splitOn_append_cons_self_of_not_mem (noEquals nameChars),
    List.splitOn_eq_singleton (noEquals valueChars)]

/-- The last value of a name counts. -/
theorem lookup_tickDict (backends : List BackendRef) (names values : BackendRef → Text)
    (name : Text) :
    (tickDict (backends.map fun b => (names b, values b))).lookup name =
      (backends.reverse.find? fun b => names b = name).map values := by
  induction backends using List.reverseRecOn with
  | nil => rfl
  | append_singleton backends last ih =>
      have inserted : tickDict ((backends ++ [last]).map fun b => (names b, values b)) =
          (tickDict (backends.map fun b => (names b, values b))).insert (names last)
            (values last) := by
        simp [tickDict]
      rw [inserted, List.reverse_append, List.reverse_singleton, List.singleton_append,
        List.find?_cons]
      by_cases same : names last = name
      · subst same
        simp
      · rw [AList.lookup_insert_ne (Ne.symm same), ih]
        simp [same]

section Reading

variable {url : BackendRef → Csv.Field}
  (plain : ∀ b, ∀ char ∈ shortName (url b), isTokenChar char = true)
include plain

theorem readTick_shown {value : BackendRef → Text}
    (valued : ∀ b, ∀ char ∈ value b, isTokenChar char = true) (state : LoadState) :
    readTick (state.shown url value) =
      some (tickDict (state.keys.map fun b => (shortName (url b), value b))) := by
  have each : readPair ∘ (fun b => LoadState.pairText (shortName (url b)) (value b)) =
      fun b => pure (shortName (url b), value b) :=
    funext fun b => readPair_pairText (plain b) (valued b)
  unfold readTick
  rw [Loadgen.split_shown plain valued, List.mapM_map, each, List.mapM_pure]
  rfl

end Reading

end Verify

namespace Loadgen.LoadState

/-- The last backend with a short name. -/
def lastNamed (url : BackendRef → Csv.Field) (state : LoadState) (name : List Char) :
    Option BackendRef :=
  state.keys.reverse.find? fun b => shortName (url b) = name

/-- An idle backend that is shown as more than one percent full. -/
def IsLeak (options : Options) (state : LoadState) (b : BackendRef) : Prop :=
  state.inFlight b = 0 ∧
    2 ≤ TraceGenerator.roundHalfEven (100 * occupancy options.settings state.core b)

instance (options : Options) (state : LoadState) (b : BackendRef) :
    Decidable (state.IsLeak options b) :=
  inferInstanceAs (Decidable (state.inFlight b = 0 ∧
    2 ≤ TraceGenerator.roundHalfEven (100 * occupancy options.settings state.core b)))

end Loadgen.LoadState

namespace Verify

open Loadgen (LoadState Options isTokenChar shortName wholeText twoDecimals)

/-- A value with two decimals is read as the nearest of them. -/
theorem lt_parseFloat_twoDecimals (value : ℚ) :
    ∃ u, NumberText.parseFloat (twoDecimals value) = some u ∧
      (.finite (1 / 100) < u ↔ 2 ≤ TraceGenerator.roundHalfEven (100 * value)) := by
  by_cases negative : value < 0
  · have small : TraceGenerator.roundHalfEven (100 * value) ≤ 0 := by
      have below : ⌊100 * value⌋ < 0 := Int.floor_lt.mpr (by push_cast; linarith)
      have rounded := TraceGenerator.roundHalfEven_le (100 * value)
      omega
    have text : twoDecimals value = (if true = true then ['-'] else []) ++ NumberText.fixedText 2
        (TraceGenerator.roundHalfEven (100 * |value|)).toNat := by
      rw [twoDecimals, if_pos negative]
      rfl
    refine ⟨_, by rw [text, NumberText.parseFloat_fixedText], ?_⟩
    apply iff_of_false
    · have nonneg : (0 : ℚ) ≤ (TraceGenerator.roundHalfEven (100 * |value|)).toNat / 10 ^ 2 := by
        positivity
      intro less
      rw [if_pos rfl] at less
      have compared := (ExactFloat.finite_lt_finite (1 / 100) (-_)).mp less
      linarith
    · omega
  · have unsigned : |value| = value := abs_of_nonneg (not_lt.mp negative)
    have text : twoDecimals value = (if false = true then ['-'] else []) ++ NumberText.fixedText 2
        (TraceGenerator.roundHalfEven (100 * value)).toNat := by
      rw [twoDecimals, if_neg negative, unsigned]
      rfl
    refine ⟨_, by rw [text, NumberText.parseFloat_fixedText], ?_⟩
    rw [if_neg Bool.false_ne_true, ExactFloat.finite_lt_finite]
    constructor
    · intro less
      have units : (1 : ℚ) < (TraceGenerator.roundHalfEven (100 * value)).toNat := by linarith
      have whole : 1 < (TraceGenerator.roundHalfEven (100 * value)).toNat := by exact_mod_cast units
      omega
    · intro two
      have whole : 2 ≤ (TraceGenerator.roundHalfEven (100 * value)).toNat := by omega
      have units : (2 : ℚ) ≤ (TraceGenerator.roundHalfEven (100 * value)).toNat := by
        exact_mod_cast whole
      linarith

section Leaks

variable {url : BackendRef → Csv.Field}
  (plain : ∀ b, ∀ char ∈ shortName (url b), isTokenChar char = true)
  (options : Options) (state : LoadState)

/-- What is found under a name is decided by the last backend with it. -/
theorem leakOf_shown {inf occ : TickDict} (name : Text)
    (requests : inf.lookup name =
      (state.lastNamed url name).map fun b => wholeText (state.inFlight b))
    (values : occ.lookup name = (state.lastNamed url name).map fun b =>
      twoDecimals (Loadgen.occupancy options.settings state.core b)) :
    leakOf inf occ name = some ((state.lastNamed url name).bind fun b =>
      if state.IsLeak options b then
        some (leakText name (twoDecimals (Loadgen.occupancy options.settings state.core b)))
      else none) := by
  unfold leakOf
  rw [requests, values]
  cases state.lastNamed url name with
  | none => rfl
  | some b =>
      obtain ⟨u, parsed, compared⟩ :=
        lt_parseFloat_twoDecimals (Loadgen.occupancy options.settings state.core b)
      simp only [Option.map_some, parseInt_wholeText, Option.bind_some, parsed, compared,
        LoadState.IsLeak]
      by_cases idle : state.inFlight b = 0 <;> simp [idle]

include plain

/-- A line leaks exactly when a backend does that is the last with its name. -/
theorem tickLeaks_shown : ∃ leaks,
    tickLeaks (state.inFlightText url, state.occupancyText url options) = some leaks ∧
      (leaks ≠ [] ↔ ∃ b name, state.lastNamed url name = some b ∧ state.IsLeak options b) := by
  have inf := readTick_shown plain
    (fun b => Loadgen.isTokenChar_of_mem_wholeText (state.inFlight b)) state
  have occ := readTick_shown plain (fun b => Loadgen.isTokenChar_of_mem_twoDecimals
    (Loadgen.occupancy options.settings state.core b)) state
  have requests := lookup_tickDict state.keys (fun b => shortName (url b))
    fun b => wholeText (state.inFlight b)
  have values := lookup_tickDict state.keys (fun b => shortName (url b))
    fun b => twoDecimals (Loadgen.occupancy options.settings state.core b)
  generalize tickDict (state.keys.map fun b => (shortName (url b), wholeText (state.inFlight b))) =
    table at inf requests
  generalize tickDict (state.keys.map fun b => (shortName (url b),
    twoDecimals (Loadgen.occupancy options.settings state.core b))) = other at occ values
  let found (name : Text) : Option Text := (state.lastNamed url name).bind fun b =>
    if state.IsLeak options b then
      some (leakText name (twoDecimals (Loadgen.occupancy options.settings state.core b)))
    else none
  have each : leakOf table other = fun name => pure (found name) :=
    funext fun name => leakOf_shown options state name (requests name) (values name)
  refine ⟨(table.keys.map found).filterMap id, ?_, ?_⟩
  · unfold tickLeaks LoadState.inFlightText LoadState.occupancyText
    rw [inf, occ]
    dsimp only
    rw [each, List.mapM_pure]
    rfl
  · rw [ne_eq, List.eq_nil_iff_forall_not_mem, not_forall_not]
    simp only [List.mem_filterMap, List.mem_map, id_eq, exists_eq_right, found,
      Option.bind_eq_some_iff]
    constructor
    · rintro ⟨text, name, -, b, last, leaks⟩
      split at leaks
      · rename_i leak
        exact ⟨b, name, last, leak⟩
      · cases leaks
    · rintro ⟨b, name, last, leak⟩
      refine ⟨_, name, ?_, b, last, if_pos leak⟩
      have listed : (table.lookup name).isSome = true := by
        rw [requests name]
        exact Option.isSome_map.trans (Option.isSome_iff_exists.mpr ⟨b, last⟩)
      exact AList.mem_keys.mp (AList.lookup_isSome.mp listed)

end Leaks

end Verify

/-! ## Logs -/

/-- A line of a log: that of a ticker, or another one. -/
inductive LogEntry where
  | tick (total : ℕ) (options : Loadgen.Options) (state : Loadgen.LoadState)
  | other (text : Text)

namespace LogEntry

open Loadgen (LoadState Python TraceRequest shortName)

def text (url : BackendRef → Csv.Field) : LogEntry → Text
  | .tick total options state => state.tickerLine url total options
  | .other text => text

/-- The text of a log. -/
def logText (url : BackendRef → Csv.Field) (entries : List LogEntry) : Text :=
  entries.flatMap fun entry => entry.text url ++ ['\n']

/-- The entry shows an idle backend as more than one percent full, and no later backend
under the same name. -/
def Leaks (url : BackendRef → Csv.Field) : LogEntry → Prop
  | .tick _ options state => options.policy ≠ .proxy ∧ ∃ b ∈ state.backends,
      state.lastNamed url (shortName (url b)) = some b ∧ state.IsLeak options b
  | .other _ => False

/-- The line is that of a state which some run without negative limits has reached. -/
def IsReached : LogEntry → Prop
  | .tick _ options state => ∃ (python : Python) (requests : List TraceRequest)
      (backends : List BackendRef) (events : List Loadgen.LoadEvent),
      (∀ request ∈ requests, 0 ≤ options.oHat request) ∧
      EventRun.run (LoadState.step python options requests) (.initial backends) events = some state
  | .other _ => True

/-- What is matched in the line. -/
def groups (url : BackendRef → Csv.Field) : LogEntry → Option (Text × Text)
  | .tick _ options state =>
      if options.policy = .proxy then none
      else some (state.inFlightText url, state.occupancyText url options)
  | .other _ => none

variable {url : BackendRef → Csv.Field}

theorem not_mem_progressText (total : ℕ) (state : LoadState) :
    '[' ∉ state.progressText total := by
  have digits (value : ℕ) : '[' ∉ Nat.toDigits 10 value := by
    intro member
    exact absurd (Verify.isDigit_of_mem_toDigits '[' member) (by decide)
  have count (value : ℕ) {rest : Text} (others : '[' ∉ rest) :
      '[' ∉ Nat.toDigits 10 value ++ rest := List.not_mem_append (digits value) others
  have quotient {rest : Text} (others : '[' ∉ rest) : '[' ∉ '/' :: rest :=
    List.not_mem_cons_of_ne_of_not_mem (by decide) others
  unfold LoadState.progressText
  apply List.not_mem_append (by decide)
  apply count
  apply quotient
  apply count
  apply List.not_mem_append (by decide)
  apply count
  apply quotient
  apply count
  decide

section Lines

variable (plain : ∀ b, ∀ char ∈ shortName (url b), Loadgen.isTokenChar char = true)
include plain

theorem findTicks_tickerLine (total : ℕ) (options : Loadgen.Options) (state : LoadState)
    (rest : Text) :
    Verify.findTicks 0 (state.tickerLine url total options ++ '\n' :: rest) =
      ((LogEntry.tick total options state).groups url).toList ++ Verify.findTicks 0 rest := by
  have unopened : ¬ Verify.opening <:+: state.progressText total := by
    intro inside
    exact not_mem_progressText total state (inside.subset (by decide))
  have opened : " inflight[".toList = ' ' :: Verify.opening := rfl
  have closed : "] | occupancy[".toList = ']' :: " | occupancy[".toList := rfl
  have inf {bracket : Char} (other : Loadgen.isTokenChar bracket = false)
      (notSpace : bracket ≠ ' ') (notEquals : bracket ≠ '=') : bracket ∉ state.inFlightText url :=
    Loadgen.not_mem_shown plain (fun b => Loadgen.isTokenChar_of_mem_wholeText (state.inFlight b))
      state other notSpace notEquals
  have occ : ']' ∉ state.occupancyText url options :=
    Loadgen.not_mem_shown plain (fun b => Loadgen.isTokenChar_of_mem_twoDecimals
      (Loadgen.occupancy options.settings state.core b)) state (by decide) (by decide) (by decide)
  by_cases proxy : options.policy = .proxy
  · have line : state.tickerLine url total options ++ '\n' :: rest = state.progressText total ++
        ' ' :: (Verify.opening ++ (state.inFlightText url ++ ']' :: '\n' :: rest)) := by
      simp [LoadState.tickerLine, proxy, opened]
    rw [line, Verify.findTicks_line (by decide) unopened,
      Verify.findTicks_alone (inf (by decide) (by decide) (by decide))
        (inf (by decide) (by decide) (by decide)), groups, if_pos proxy]
    rfl
  · have line : state.tickerLine url total options ++ '\n' :: rest = state.progressText total ++
        ' ' :: (Verify.opening ++ (state.inFlightText url ++ ("] | occupancy[".toList ++
          (state.occupancyText url options ++ ']' :: ([] ++ '\n' :: rest))))) := by
      simp [LoadState.tickerLine, proxy, opened, closed]
    rw [line, Verify.findTicks_line (by decide) unopened,
      Verify.findTicks_shown (inf (by decide) (by decide) (by decide)) occ,
      Verify.findTicks_line (by decide) (by decide), groups, if_neg proxy]
    rfl

theorem findTicks_logText {entries : List LogEntry}
    (foreign : ∀ text, .other text ∈ entries → ¬ Verify.opening <:+: text) :
    Verify.findTicks 0 (logText url entries) = entries.filterMap (groups url) := by
  induction entries with
  | nil => rfl
  | cons entry entries ih =>
      have others := ih fun text listed => foreign text (List.mem_cons_of_mem entry listed)
      have first : logText url (entry :: entries) =
          entry.text url ++ '\n' :: logText url entries := by
        simp [logText]
      have matched : Verify.findTicks 0 (entry.text url ++ '\n' :: logText url entries) =
          (entry.groups url).toList ++ Verify.findTicks 0 (logText url entries) := by
        cases entry with
        | tick total options state => exact findTicks_tickerLine plain total options state _
        | other text =>
            exact Verify.findTicks_line (by decide) (foreign text List.mem_cons_self) _
      rw [first, matched, others, List.filterMap_cons]
      cases entry.groups url <;> rfl

/-- Either nothing is matched in a line, or its leaks are found there. -/
theorem groups_cases (entry : LogEntry) :
    (entry.groups url = none ∧ ¬ entry.Leaks url) ∨ ∃ found leaks,
      entry.groups url = some found ∧ Verify.tickLeaks found = some leaks ∧
        (leaks ≠ [] ↔ entry.Leaks url) := by
  cases entry with
  | other text => exact .inl ⟨rfl, id⟩
  | tick total options state =>
      by_cases proxy : options.policy = .proxy
      · exact .inl ⟨if_pos proxy, fun leaks => leaks.1 proxy⟩
      · obtain ⟨leaks, found, told⟩ := Verify.tickLeaks_shown plain options state
        refine .inr ⟨_, leaks, if_neg proxy, found, ?_⟩
        rw [told]
        constructor
        · rintro ⟨b, name, last, leak⟩
          unfold LoadState.lastNamed at last
          have named := List.find?_some last
          have listed : b ∈ state.backends :=
            List.mem_eraseDups.mp (List.mem_reverse.mp (List.mem_of_find?_eq_some last))
          rw [decide_eq_true_eq] at named
          subst named
          exact ⟨proxy, b, listed, last, leak⟩
        · rintro ⟨-, b, -, last, leak⟩
          exact ⟨b, _, last, leak⟩

theorem mapM_tickLeaks (entries : List LogEntry) : ∃ leaks,
    (entries.filterMap (groups url)).mapM Verify.tickLeaks = some leaks ∧
      (leaks.flatten ≠ [] ↔ ∃ entry ∈ entries, entry.Leaks url) := by
  induction entries with
  | nil => exact ⟨[], rfl, by simp⟩
  | cons entry entries ih =>
      obtain ⟨others, read, told⟩ := ih
      rcases groups_cases plain entry with ⟨unmatched, sound⟩ | ⟨found, leaks, matched, own, leaky⟩
      · refine ⟨others, ?_, ?_⟩
        · rw [List.filterMap_cons_none unmatched, read]
        · rw [told]
          simp [sound]
      · refine ⟨leaks :: others, ?_, ?_⟩
        · rw [List.filterMap_cons_some matched, List.mapM_cons, own, read]
          rfl
        · rw [List.flatten_cons, ne_eq, List.append_eq_nil_iff, not_and_or]
          simp only [List.mem_cons, exists_eq_or_imp]
          exact or_congr leaky told

end Lines

/-- No state that a run reaches shows an idle backend that is not empty. -/
theorem IsReached.not_leaks {entry : LogEntry} (reached : entry.IsReached) :
    ¬ entry.Leaks url := by
  cases entry with
  | other text => exact id
  | tick total options state =>
      obtain ⟨python, requests, backends, events, nonneg, executed⟩ := reached
      rintro ⟨-, b, -, -, idle, shown⟩
      have empty : state.kvProj b = 0 := LoadState.kvProj_eq_zero
        (LoadState.tallied_run executed nonneg) (LoadState.sound_run executed).occupied idle
      have nothing : Loadgen.occupancy options.settings state.core b = 0 := by
        have inFlight : state.core.inFlight b = 0 := idle
        have kvProj : state.core.kvProj b = 0 := empty
        simp [Loadgen.occupancy, inFlight, kvProj]
      rw [nothing, mul_zero] at shown
      exact absurd shown (by decide +kernel)

/-- The check of a log of any runs, with any other lines that do not start the same list,
fails exactly when some line shows an idle backend as more than one percent full that is
the last one with its short name; the lines of states that the load generator reaches
never make it fail. -/
theorem leaks_are_told {entries : List LogEntry}
    (plain : ∀ b, ∀ char ∈ shortName (url b), Loadgen.isTokenChar char = true)
    (foreign : ∀ text, .other text ∈ entries → ¬ Verify.opening <:+: text) :
    ∃ status headline detail,
      Verify.checkKvLeak (some (logText url entries)) = some (status, headline, detail) ∧
        (status = .pass ∨ status = .fail) ∧
        (status = .fail ↔ ∃ entry ∈ entries, entry.Leaks url) ∧
        ((∀ entry ∈ entries, entry.IsReached) → status = .pass) := by
  obtain ⟨leaks, read, told⟩ := mapM_tickLeaks plain entries
  have checked : Verify.checkKvLeak (some (logText url entries)) =
      some (Verify.leakReport leaks.flatten) := by
    rw [Verify.checkKvLeak, findTicks_logText plain foreign, read]
    rfl
  have sound (reached : ∀ entry ∈ entries, entry.IsReached) : leaks.flatten = [] := by
    by_contra some_leak
    obtain ⟨entry, listed, leaky⟩ := told.mp some_leak
    exact (reached entry listed).not_leaks leaky
  rw [checked]
  by_cases none_found : leaks.flatten = []
  · refine ⟨.pass, _, _, by rw [none_found]; rfl, .inl rfl, ?_, fun _ => rfl⟩
    rw [← told]
    simp [none_found]
  · have reported : (leaks.flatten).isEmpty = false := by simpa using none_found
    refine ⟨.fail, _, _, by rw [Verify.leakReport, reported]; rfl, .inr rfl, ?_, ?_⟩
    · rw [← told]
      simp [none_found]
    · intro reached
      exact absurd (sound reached) none_found

/-- A full backend without a request, after a line of another kind. -/
theorem leaks_are_told_full :
    let options : Loadgen.Options :=
      ⟨.leastConn, .echo, ⟨32, 8192, 11 / 20, 10, 19 / 20, .promptOnly⟩⟩
    let state : LoadState := { LoadState.initial [0] with kvProj := fun _ => 8192 }
    ∃ headline detail,
      Verify.checkKvLeak (some (logText (fun _ => ['8', '0', '0', '1'])
        [.other ['d', 'r', 'a', 'i', 'n'], .tick 1 options state])) =
          some (.fail, headline, detail) := by
  intro options state
  let url : BackendRef → Csv.Field := fun _ => ['8', '0', '0', '1']
  let entries : List LogEntry := [.other ['d', 'r', 'a', 'i', 'n'], .tick 1 options state]
  have plain : ∀ b, ∀ char ∈ shortName (url b), Loadgen.isTokenChar char = true := by
    intro b
    have all : (shortName (url b)).all Loadgen.isTokenChar = true := rfl
    exact List.all_eq_true.mp all
  have foreign : ∀ text, .other text ∈ entries → ¬ Verify.opening <:+: text := by
    intro text listed
    rcases List.mem_cons.mp listed with same | last
    · obtain rfl := LogEntry.other.inj same
      decide
    · cases List.mem_singleton.mp last
  have leaky : ∃ entry ∈ entries, entry.Leaks url := by
    refine ⟨.tick 1 options state, by simp [entries], by decide, 0, List.mem_cons_self, rfl, rfl, ?_⟩
    decide +kernel
  obtain ⟨status, headline, detail, checked, -, told, -⟩ := leaks_are_told plain foreign
  rw [told.mpr leaky] at checked
  exact ⟨headline, detail, checked⟩

end LogEntry

end KeelRouter
