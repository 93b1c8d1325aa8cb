import KeelRouter.Backend
import KeelRouter.LineBuffer
import KeelRouter.NumberText
import KeelRouter.UnicodeText

/-!
# Scraped metrics

The metrics of a backend are read from the text exposition format line by line:
a value by the name of its metric, and the capacity from the labels of an
information metric.  A metric that is absent has no value, never a zero.

Conversions between floating point widths are exact.
-/

namespace KeelRouter

open UnicodeText (trim trimStart isWhitespace)
open NumberText (parseUInt32 parseFloat)

abbrev Text := List Char

/-- Cumulative counters that are carried between scrapes. -/
structure CounterSample where
  prefixHits : Option ExactFloat
  prefixQueries : Option ExactFloat
deriving DecidableEq

structure ReportedCapacity where
  blockSize : UInt32
  numGpuBlocks : UInt32
deriving DecidableEq

/-- `text.lines()` -/
def Text.lines (text : Text) : List Text :=
  let stripReturn (line : Text) : Text :=
    if line.getLast? = some '\r' then line.dropLast else line
  let (completed, rest) := LineBuffer.splitLines '\n' text
  completed.map (fun line => stripReturn line.dropLast) ++ if rest.isEmpty then [] else [rest]

/-- The trimmed line, unless it is a comment or blank. -/
def sampleLine (line : Text) : Option Text :=
  if (trimStart line).head? = some '#' then none
  else if (trim line).isEmpty then none
  else some (trim line)

/-- What the braces after a metric's name enclose, and what follows them; none
when no brace is opened, or the first one is not closed. -/
def cutBraces (afterName : Text) : Option (Text × Text) :=
  match afterName.dropWhile (fun char => char ≠ '{') with
  | [] => none
  | _ :: inside =>
      if '}' ∈ inside then
        some (inside.takeWhile (fun char => char ≠ '}'),
          (inside.dropWhile fun char => char ≠ '}').tail)
      else none

/-- The text of the value on a line, after the name of its metric. -/
def valueText (afterName : Text) : Option Text :=
  if '{' ∈ afterName then (cutBraces afterName).map fun cut => trim cut.2
  else some (trim afterName)

/-- The body of the loop in `metric_value`. -/
def lineValue (name line : Text) : Option ExactFloat := do
  let line ← sampleLine line
  let afterName ← line.dropPrefix? name
  let firstChar ← afterName.head?
  if firstChar = '{' ∨ isWhitespace firstChar then (valueText afterName).bind parseFloat
  else none

/-- `metric_value` -/
def metricValue (text : Text) (name : String) : Option ExactFloat :=
  text.lines.findSome? (lineValue name.toList)

/-- `counter_value` -/
def counterValue (text : Text) (base : String) : Option ExactFloat :=
  (metricValue text base).or (metricValue text (base ++ "_total"))

/-- What follows the first occurrence of a pattern. -/
def afterFirst (pattern : Text) : Text → Option Text
  | [] => if pattern.isEmpty then some [] else none
  | char :: text =>
      if pattern.isPrefixOf (char :: text) then some ((char :: text).drop pattern.length)
      else afterFirst pattern text

/-- The quoted value after the first occurrence of `label=` in a block of labels. -/
def blockLabel (label block : Text) : Option Text :=
  (afterFirst (label ++ ['=']) block).bind fun afterLabel =>
    match afterLabel with
    | [] => none
    | quoteChar :: valueStart =>
        if (quoteChar = '"' ∨ quoteChar = '\'') ∧ quoteChar ∈ valueStart then
          some (valueStart.takeWhile fun char => char ≠ quoteChar)
        else none

/-- The body of the loop in `info_label`. -/
def lineLabel (metric label line : Text) : Option Text := do
  let line ← sampleLine line
  let afterName ← line.dropPrefix? metric
  let (block, _) ← cutBraces afterName
  blockLabel label block

/-- `info_label` -/
def infoLabel (text : Text) (metric label : String) : Option Text :=
  text.lines.findSome? (lineLabel metric.toList label.toList)

/-- The windowed hit rate against the previous sample. -/
def hitRate (prev : Option CounterSample) (hits queries : Option ExactFloat) :
    Option ExactFloat := do
  let prevSample ← prev
  let curHits ← hits
  let curQueries ← queries
  let prevHits ← prevSample.prefixHits
  let prevQueries ← prevSample.prefixQueries
  let deltaHits := curHits - prevHits
  let deltaQueries := curQueries - prevQueries
  if 0 < deltaQueries then some (deltaHits / deltaQueries) else none

/-- `parse_reported` -/
def parseReported (text : Text) (now : Instant) (prev : Option CounterSample) :
    ReportedLoad × CounterSample :=
  let currentHits := counterValue text "vllm:prefix_cache_hits"
  let currentQueries := counterValue text "vllm:prefix_cache_queries"
  ({ observedAt := now
     kvUsagePerc := metricValue text "vllm:kv_cache_usage_perc"
     numRunning := (metricValue text "vllm:num_requests_running").map ExactFloat.toUInt32
     numWaiting := (metricValue text "vllm:num_requests_waiting").map ExactFloat.toUInt32
     preemptions := (counterValue text "vllm:num_preemptions").map ExactFloat.toUInt64
     prefixHitRate := hitRate prev currentHits currentQueries },
   { prefixHits := currentHits, prefixQueries := currentQueries })

def cacheConfigInfo : String := "vllm:cache_config_info"

/-- `parse_capacity` -/
def parseCapacity (text : Text) : Option ReportedCapacity := do
  let blockSizeStr ← infoLabel text cacheConfigInfo "block_size"
  let numGpuBlocksStr ← infoLabel text cacheConfigInfo "num_gpu_blocks"
  let blockSize ← parseUInt32 blockSizeStr
  let numGpuBlocks ← parseUInt32 numGpuBlocksStr
  return { blockSize, numGpuBlocks }

theorem parseCapacity_eq_some {text : Text} {cap : ReportedCapacity} :
    parseCapacity text = some cap ↔
      (∃ value, infoLabel text cacheConfigInfo "block_size" = some value ∧
        parseUInt32 value = some cap.blockSize) ∧
      ∃ value, infoLabel text cacheConfigInfo "num_gpu_blocks" = some value ∧
        parseUInt32 value = some cap.numGpuBlocks := by
  obtain ⟨blockSize, numGpuBlocks⟩ := cap
  constructor
  · intro parsed
    obtain ⟨blockSizeStr, foundSize, parsed⟩ := Option.bind_eq_some_iff.mp parsed
    obtain ⟨numGpuBlocksStr, foundBlocks, parsed⟩ := Option.bind_eq_some_iff.mp parsed
    obtain ⟨size, parsedSize, parsed⟩ := Option.bind_eq_some_iff.mp parsed
    obtain ⟨blocks, parsedBlocks, parsed⟩ := Option.bind_eq_some_iff.mp parsed
    obtain ⟨rfl, rfl⟩ := ReportedCapacity.mk.inj (Option.some.inj parsed)
    exact ⟨⟨_, foundSize, parsedSize⟩, ⟨_, foundBlocks, parsedBlocks⟩⟩
  · rintro ⟨⟨_, foundSize, parsedSize⟩, ⟨_, foundBlocks, parsedBlocks⟩⟩
    unfold parseCapacity
    rw [foundSize, foundBlocks]
    change (parseUInt32 _).bind _ = _
    rw [parsedSize]
    change (parseUInt32 _).bind _ = _
    rw [parsedBlocks]
    rfl

end KeelRouter
