import KeelRouter.Csv
import KeelRouter.LoadRun
import KeelRouter.NumberText

/-!
# Files of results

A run of the load generator ends with a file of its rows, and the checks of the
results read the files.  Every row is read back, so that the checks are about the
run: they count its requests, and those that ended without an error and without a
token.
-/

namespace KeelRouter

/-! ## Writing -/

namespace Loadgen

/-- The texts of the backends' urls, of numbers that are not whole and of values. -/
structure RowTexts where
  url : BackendRef → Csv.Field
  repr : ℚ → Csv.Field
  str : SerdeJson.Value → Csv.Field

def wholeText (value : ℤ) : Csv.Field :=
  if value < 0 then '-' :: Nat.toDigits 10 value.natAbs else Nat.toDigits 10 value.natAbs

def fieldNames : Csv.Record :=
  ["req_id", "backend", "scheduled_offset_s", "ttft_s", "e2e_s", "requested_max_tokens",
    "prompt_tokens", "actual_tokens", "error"].map String.toList

/-- A value in a field; there is no text for `None`. -/
def RowTexts.value (texts : RowTexts) : SerdeJson.Value → Csv.Field
  | .null => []
  | .string text => text.toList
  | value => texts.str value

/-- The fields of a row, in the order of their names. -/
def Row.fields (texts : RowTexts) (row : Row) : Csv.Record :=
  [wholeText row.reqId, texts.url row.backend, texts.repr row.scheduledOffsetS,
    (row.ttftS.map texts.repr).getD [], texts.repr row.e2eS, wholeText row.requestedMaxTokens,
    wholeText row.promptTokens, wholeText row.actualTokens, texts.value row.error]

/-- What `run` writes. -/
def resultsFile (texts : RowTexts) (rows : List Row) : List Char :=
  Csv.write (fieldNames :: rows.map (Row.fields texts))

end Loadgen

/-! ## Reading -/

namespace Verify

/-- Digits, with single underscores between them. -/
def parseDigits (text : List Char) : Option ℕ :=
  let parts := text.splitOnP (· = '_')
  if parts.all fun part => !part.isEmpty && part.all Char.isDigit then
    some (Nat.ofDigitChars 10 parts.flatten 0)
  else none

/-- `int(text)` for a text of ASCII digits; digits of other scripts, which Python reads
too, are not read here. -/
def parseInt (text : Csv.Field) : Option ℤ :=
  match Loadgen.strip text with
  | '-' :: digits => (parseDigits digits).map fun value : ℕ => -(value : ℤ)
  | '+' :: digits => (parseDigits digits).map Int.ofNat
  | digits => (parseDigits digits).map Int.ofNat

/-- A file that `load_runs` has read, with its rows if it could be parsed. -/
structure Run where
  path : String
  rows : Option (List Csv.Dict)

def loadRun (path : String) (text : List Char) : Run where
  path
  rows := (Csv.read text).map Csv.dicts

/-- `int(x[key])`; none where it raises. -/
def intField (x : Csv.Dict) (key : String) : Option ℤ :=
  (x.lookup key.toList).join.bind parseInt

/-- The `req_id`s of a file; none where one cannot be read. -/
def Run.resultFile (run : Run) : Option ResultFile :=
  match run.rows with
  | none => some ⟨run.path, none⟩
  | some rows => (rows.mapM fun x => intField x "req_id").map fun ids => ⟨run.path, some ids⟩

/-- `check_conservation` on the files; none where it raises. -/
def checkRuns (runs : List Run) : Option (CheckStatus × String × List String) :=
  (runs.mapM Run.resultFile).map checkConservation

/-- `not x["error"] and int(x["actual_tokens"]) == 0` -/
def isSilent (x : Csv.Dict) : Option Bool :=
  (x.lookup "error".toList).bind fun error =>
    if error.any fun text => !text.isEmpty then some false
    else (intField x "actual_tokens").map fun tokens => decide (tokens = 0)

def silentDetail (path : String) (count : Nat) : String :=
  basename path ++ ": " ++ toString count ++ " zero-token 'successes'"

/-- One round of the loop over the files: the total, and the details. -/
def checkSilent (state : Nat × List String) (run : Run) : Option (Nat × List String) :=
  match run.rows with
  | none => some state
  | some rows => (rows.mapM isSilent).map fun silent =>
      let count := silent.count true
      if count = 0 then state
      else (state.1 + count, state.2 ++ [silentDetail run.path count])

/-- What `check_silent_failures` returns for its total and its details. -/
def silentReport (state : Nat × List String) : CheckStatus × String × List String :=
  if state.1 = 0 then (.pass, "no zero-token successes", [])
  else (.fail, toString state.1 ++ " silent failure(s): success with 0 tokens", state.2 ++ [
    "", "These inflate the success count and deflate err%.",
    "Check the SSE error-detection branch in loadgen.send_request."])

/-- `check_silent_failures`; none where it raises. -/
def checkSilentFailures (runs : List Run) : Option (CheckStatus × String × List String) :=
  (runs.foldlM checkSilent (0, [])).map silentReport

/-! ## Whole numbers -/

theorem isDigit_of_mem_toDigits {value : ℕ} :
    ∀ char ∈ Nat.toDigits 10 value, char.isDigit = true :=
  fun _ member => Nat.isDigit_of_mem_toDigits (by decide) (by decide) member

theorem parseDigits_toDigits (value : ℕ) : parseDigits (Nat.toDigits 10 value) = some value := by
  have unbroken : ∀ char ∈ Nat.toDigits 10 value, decide (char = '_') = false := by
    intro char member
    apply decide_eq_false
    rintro rfl
    exact absurd (isDigit_of_mem_toDigits _ member) (by decide)
  have spelled : (Nat.toDigits 10 value).isEmpty = false := by
    rw [List.isEmpty_eq_false_iff]
    exact Nat.toDigits_ne_nil
  have digits : (Nat.toDigits 10 value).all Char.isDigit = true :=
    List.all_eq_true.mpr isDigit_of_mem_toDigits
  unfold parseDigits
  dsimp only
  rw [List.splitOnP_eq_singleton unbroken]
  simp [spelled, digits, Nat.ofDigitChars_ten_toDigits]

theorem mem_wholeText {value : ℤ} {char : Char} (member : char ∈ Loadgen.wholeText value) :
    char = '-' ∨ char.isDigit = true := by
  unfold Loadgen.wholeText at member
  split at member
  · rcases List.mem_cons.mp member with sign | digit
    · exact .inl sign
    · exact .inr (isDigit_of_mem_toDigits char digit)
  · exact .inr (isDigit_of_mem_toDigits char member)

/-- A whole number is read back. -/
theorem parseInt_wholeText (value : ℤ) : parseInt (Loadgen.wholeText value) = some value := by
  have visible : ∀ char ∈ Loadgen.wholeText value, Loadgen.isSpace char = false := by
    intro char member
    rcases mem_wholeText member with rfl | digit
    · decide
    · exact Loadgen.not_isSpace_of_isDigit digit
  unfold parseInt
  rw [Loadgen.strip_of_forall visible]
  by_cases negative : value < 0
  · have text : Loadgen.wholeText value = '-' :: Nat.toDigits 10 value.natAbs := if_pos negative
    have same : -(value.natAbs : ℤ) = value := by omega
    rw [text]
    exact (congrArg (Option.map fun value : ℕ => -(value : ℤ)) (parseDigits_toDigits _)).trans
      (congrArg some same)
  · have text : Loadgen.wholeText value = Nat.toDigits 10 value.natAbs := if_neg negative
    have same : Int.ofNat value.natAbs = value := Int.natAbs_of_nonneg (Int.not_lt.mp negative)
    have unsigned (sign : Char) (symbol : sign.isDigit = false) (rest : List Char) :
        Nat.toDigits 10 value.natAbs ≠ sign :: rest := by
      intro starts
      have digit := isDigit_of_mem_toDigits sign (by rw [starts]; exact List.mem_cons_self)
      rw [symbol] at digit
      cases digit
    rw [text]
    split
    · rename_i starts
      exact absurd starts (unsigned '-' (by decide) _)
    · rename_i starts
      exact absurd starts (unsigned '+' (by decide) _)
    · rw [parseDigits_toDigits, Option.map_some, same]

theorem universalNewlines_wholeText (value : ℤ) :
    Csv.universalNewlines (Loadgen.wholeText value) = Loadgen.wholeText value := by
  apply Csv.universalNewlines_of_not_mem
  intro member
  rcases mem_wholeText member with sign | digit
  · cases sign
  · cases digit

end Verify

/-! ## The rows are read back -/

namespace Loadgen

/-- What is read for a row: its fields under their names, with translated line ends. -/
def Row.read (texts : RowTexts) (row : Row) : Csv.Dict :=
  fieldNames.zip ((row.fields texts).map fun field => some (Csv.universalNewlines field))

/-- The fields of the rows are not longer than a reader takes. -/
def RowsFit (texts : RowTexts) (rows : List Row) : Prop :=
  ∀ row ∈ rows, ∀ field ∈ row.fields texts, field.length ≤ Csv.fieldLimit

/-- A row without an error in its column and without a token. -/
def Row.isSilent (texts : RowTexts) (row : Row) : Bool :=
  (texts.value row.error).isEmpty && decide (row.actualTokens = 0)

end Loadgen

namespace Verify

open Loadgen (Row RowTexts RowsFit fieldNames resultsFile)

section Rows

variable (texts : RowTexts)

theorem loadRun_resultsFile (path : String) {rows : List Row} (fit : RowsFit texts rows) :
    loadRun path (resultsFile texts rows) = ⟨path, some (rows.map (Row.read texts))⟩ := by
  have names : fieldNames.map Csv.universalNewlines = fieldNames := by decide +kernel
  have namesFit : ∀ field ∈ fieldNames, field.length ≤ Csv.fieldLimit := by decide +kernel
  have fits : ∀ record ∈ fieldNames :: rows.map (Row.fields texts), ∀ field ∈ record,
      field.length ≤ Csv.fieldLimit := by
    intro record listed
    rcases List.mem_cons.mp listed with rfl | written
    · exact namesFit
    · obtain ⟨row, member, rfl⟩ := List.mem_map.mp written
      exact fit row member
  have lengths : ∀ record ∈ (rows.map (Row.fields texts)).map (List.map Csv.universalNewlines),
      record.length = fieldNames.length := by
    simp [Row.fields, fieldNames]
  unfold loadRun resultsFile
  rw [Csv.read_write fits, Option.map_some, List.map_cons, names,
    Csv.dicts_cons lengths (by decide +kernel)]
  simp [Row.read, List.map_map, Function.comp_def]

theorem intField_reqId (row : Row) : intField (row.read texts) "req_id" = some (row.reqId : ℤ) := by
  have field : (row.read texts).lookup "req_id".toList =
      some (some (Csv.universalNewlines (Loadgen.wholeText row.reqId))) := rfl
  unfold intField
  rw [field, universalNewlines_wholeText]
  exact parseInt_wholeText _

theorem intField_actualTokens (row : Row) :
    intField (row.read texts) "actual_tokens" = some row.actualTokens := by
  have field : (row.read texts).lookup "actual_tokens".toList =
      some (some (Csv.universalNewlines (Loadgen.wholeText row.actualTokens))) := rfl
  unfold intField
  rw [field, universalNewlines_wholeText]
  exact parseInt_wholeText _

theorem isSilent_read (row : Row) : isSilent (row.read texts) = some (row.isSilent texts) := by
  have field : (row.read texts).lookup "error".toList =
      some (some (Csv.universalNewlines (texts.value row.error))) := rfl
  have kept : (Csv.universalNewlines (texts.value row.error)).isEmpty =
      (texts.value row.error).isEmpty := by
    rw [Bool.eq_iff_iff, List.isEmpty_iff, List.isEmpty_iff, Csv.universalNewlines_eq_nil_iff]
  unfold isSilent Row.isSilent
  rw [field, Option.bind_some, Option.any_some, kept, intField_actualTokens]
  cases (texts.value row.error).isEmpty <;> rfl

/-- The rows as they are read. -/
def readRun (path : String) (rows : List Row) : Run := ⟨path, some (rows.map (Row.read texts))⟩

theorem resultFile_readRun (path : String) (rows : List Row) :
    (readRun texts path rows).resultFile =
      some ⟨path, some ((rows.map Row.reqId).map Int.ofNat)⟩ := by
  have ids : (rows.map (Row.read texts)).mapM (fun x => intField x "req_id") =
      some (rows.map fun row => (row.reqId : ℤ)) := by
    have each : (fun x => intField x "req_id") ∘ Row.read texts =
        fun row => pure (row.reqId : ℤ) := funext (intField_reqId texts)
    rw [List.mapM_map, each]
    exact List.mapM_pure
  unfold Run.resultFile readRun
  dsimp only
  rw [ids, Option.map_some, List.map_map]
  rfl

/-- The number of silent rows. -/
def silentCount (rows : List Row) : ℕ := rows.countP (Row.isSilent texts)

theorem checkSilent_readRun (state : Nat × List String) (path : String) (rows : List Row) :
    checkSilent state (readRun texts path rows) =
      some (if silentCount texts rows = 0 then state
        else (state.1 + silentCount texts rows,
          state.2 ++ [silentDetail path (silentCount texts rows)])) := by
  have flags : (rows.map (Row.read texts)).mapM isSilent = some (rows.map (Row.isSilent texts)) := by
    have each : isSilent ∘ Row.read texts = fun row => pure (row.isSilent texts) :=
      funext (isSilent_read texts)
    rw [List.mapM_map, each]
    exact List.mapM_pure
  have count : (rows.map (Row.isSilent texts)).count true = silentCount texts rows := by
    rw [silentCount, List.count, List.countP_map]
    simp [Function.comp_def]
  unfold checkSilent readRun
  dsimp only
  rw [flags, Option.map_some, count]

/-- The total of the loop over the files. -/
theorem foldlM_checkSilent (files : List (String × List Row)) (state : Nat × List String) :
    ∃ detail, (files.map fun file => readRun texts file.1 file.2).foldlM checkSilent state =
      some (state.1 + (files.map fun file => silentCount texts file.2).sum, detail) := by
  induction files generalizing state with
  | nil => exact ⟨state.2, rfl⟩
  | cons file files ih =>
      rw [List.map_cons, List.foldlM_cons, checkSilent_readRun, List.map_cons, List.sum_cons]
      by_cases none : silentCount texts file.2 = 0
      · rw [if_pos none, none, Nat.zero_add]
        exact ih state
      · rw [if_neg none, ← Nat.add_assoc]
        exact ih _

theorem checkSilentFailures_readRun (files : List (String × List Row)) :
    let total := (files.map fun file => silentCount texts file.2).sum
    ∃ detail, checkSilentFailures (files.map fun file => readRun texts file.1 file.2) =
      some (silentReport (total, detail)) := by
  obtain ⟨detail, folded⟩ := foldlM_checkSilent texts files (0, [])
  refine ⟨detail, ?_⟩
  unfold checkSilentFailures
  rw [folded, Option.map_some, Nat.zero_add]

theorem checkRuns_readRun (files : List (String × List Row)) :
    checkRuns (files.map fun file => readRun texts file.1 file.2) =
      some (checkConservation (files.map fun file =>
        ⟨file.1, some ((file.2.map Row.reqId).map Int.ofNat)⟩)) := by
  have each : Run.resultFile ∘ (fun file : String × List Row => readRun texts file.1 file.2) =
      fun file => pure ⟨file.1, some ((file.2.map Row.reqId).map Int.ofNat)⟩ :=
    funext fun file => resultFile_readRun texts file.1 file.2
  unfold checkRuns
  rw [List.mapM_map, each, List.mapM_pure]
  rfl

end Rows

/-! ## The files of completed runs -/

/-- The rows that a completed run writes. -/
def IsResult (rows : List Row) : Prop :=
  ∃ (python : Loadgen.Python) (options : Loadgen.Options) (requests : List Loadgen.TraceRequest)
    (backends : List BackendRef) (events : List Loadgen.LoadEvent) (state : Loadgen.LoadState),
    EventRun.run (Loadgen.LoadState.step python options requests)
      (Loadgen.LoadState.initial backends) events = some state ∧
    state.Completed requests ∧ state.rows = rows

theorem IsResult.accounted {rows : List Row} (result : IsResult rows) :
    Accounted ((rows.map Row.reqId).map Int.ofNat) := by
  obtain ⟨python, options, requests, backends, events, state, executed, completed, rfl⟩ := result
  rw [Loadgen.LoadState.rows_reqId executed completed, accounted_iff_perm, List.length_range]

/-- The files of completed runs are read back row by row.  None of their requests is
missing, and the silent failures that are reported are the rows without an error in
their column and without a token. -/
theorem results_are_checked (texts : RowTexts) (files : List (String × List Row))
    (results : ∀ file ∈ files, IsResult file.2) (fit : ∀ file ∈ files, RowsFit texts file.2) :
    let runs := files.map fun file => loadRun file.1 (resultsFile texts file.2)
    let total := (files.map fun file => silentCount texts file.2).sum
    runs = files.map (fun file => readRun texts file.1 file.2) ∧
    (checkRuns runs).map Prod.fst = some .pass ∧
    ∃ detail, checkSilentFailures runs = some (silentReport (total, detail)) := by
  intro runs total
  have read : runs = files.map fun file => readRun texts file.1 file.2 :=
    List.map_congr_left fun file listed => loadRun_resultsFile texts file.1 (fit file listed)
  refine ⟨read, ?_, ?_⟩
  · rw [read, checkRuns_readRun, Option.map_some, Option.some_inj, checkConservation_pass_iff]
    intro file listed ids known
    obtain ⟨written, member, rfl⟩ := List.mem_map.mp listed
    obtain rfl := Option.some.inj known
    exact (results written member).accounted
  · rw [read]
    exact checkSilentFailures_readRun texts files

/-- A request behind a proxy whose connection fails with an exception that has no text. -/
theorem results_are_checked_untold :
    ∃ (texts : RowTexts) (rows : List Row) (detail : List String), IsResult rows ∧
      checkSilentFailures [loadRun "results/proxy.csv" (resultsFile texts rows)] =
        some (silentReport (1, detail)) := by
  let python : Loadgen.Python :=
    ⟨fun _ => .error .jsonDecodeError, fun _ => "", fun _ => "", fun _ => true⟩
  let options : Loadgen.Options := ⟨.proxy, .echo, ⟨32, 8192, 11 / 20, 10, 19 / 20, .promptOnly⟩⟩
  let texts : RowTexts :=
    ⟨fun _ => "http://127.0.0.1:8080".toList,
      fun value => if value = 0 then "0.0".toList else "1.0".toList, fun _ => []⟩
  let row : Row := ⟨0, 0, 0, none, 1, 50, 1, 0, .string ""⟩
  have result : IsResult [row] := by
    refine ⟨python, options, [⟨0, "hi".toList, 50⟩], [0],
      [.dispatch 0, .start 0 1, .raised 0 "" 2], _, rfl, ⟨rfl, rfl, rfl⟩, ?_⟩
    have e2e : (2 : ℚ) - 1 = 1 := by norm_num
    have offset : (0 : ℚ) / 1000 = 0 := by norm_num
    refine (List.mergeSort_singleton _).trans ?_
    change [({ row with scheduledOffsetS := 0 / 1000, e2eS := 2 - 1 } : Row)] = [row]
    rw [e2e, offset]
  have fit : RowsFit texts [row] := by
    intro other listed
    rw [List.mem_singleton.mp listed]
    decide +kernel
  obtain ⟨-, -, detail, silent⟩ := results_are_checked texts [("results/proxy.csv", [row])]
    (by simpa using result) (by simpa using fit)
  exact ⟨texts, [row], detail, result, silent⟩

end Verify

end KeelRouter
