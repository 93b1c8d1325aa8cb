import KeelRouter.LabelScan
import KeelRouter.SignalCollector

/-!
# The capacity check at startup

Every backend is asked once for its metrics, and the capacity it reports, the
block size times the number of blocks, is compared with the configured one.  The
product is taken in 32 bits: it wraps around, or panics where overflow is
checked.  The labels are looked up by a search for their names.  The verdict is
right unless one of the two goes wrong, and errors on several backends do not
cancel out.
-/

namespace KeelRouter

open Exposition (Label renderSample readSample)
open NumberText (parseUInt32)

namespace ReportedCapacity

def product (cap : ReportedCapacity) : Nat := cap.blockSize.toNat * cap.numGpuBlocks.toNat

/-- `cap.block_size * cap.num_gpu_blocks` -/
def expected (overflowChecks : Bool) (cap : ReportedCapacity) : Outcome UInt32 :=
  if overflowChecks ∧ 2 ^ 32 ≤ cap.product then
    .error (.assertFailed "attempt to multiply with overflow")
  else .ok (cap.blockSize * cap.numGpuBlocks)

end ReportedCapacity

/-- What the check logs about one backend. -/
inductive CapacityFinding where
  | passed (capacity : UInt32) (cap : ReportedCapacity)
  | mismatch (backendReports configHas : UInt32) (cap : ReportedCapacity)
  | skipped (reason : String)
deriving DecidableEq

def CapacityFinding.isMismatch : CapacityFinding → Bool
  | .mismatch _ _ _ => true
  | _ => false

def compareCapacity (backend : Backend) (cap : ReportedCapacity) (expected : UInt32) :
    CapacityFinding :=
  let configured := backend.caps.kvCapacityTokens
  if expected = configured then .passed expected cap else .mismatch expected configured cap

/-- The body of the loop in `validate_backend_capacities`. -/
def checkCapacity (overflowChecks : Bool) (entry : Backend × Except ScrapeError Text) :
    Outcome CapacityFinding :=
  match entry.2 with
  | .ok text =>
      match parseCapacity text with
      | some cap => (cap.expected overflowChecks).map (compareCapacity entry.1 cap)
      | none => .ok (.skipped "cache_config_info metric absent from /metrics")
  | .error .timeout => .ok (.skipped "/metrics timed out")
  | .error _ => .ok (.skipped "/metrics unreachable")

def capacityMismatchMessage : String :=
  "one or more backends reported a KV capacity that does not match " ++
    "the router config. See the CAPACITY MISMATCH log lines above. " ++
    "Fix kv_tokens in the router config before starting."

/-- `validate_backend_capacities`, given what fetching the metrics of each
backend returns. -/
def validateBackendCapacities (overflowChecks : Bool)
    (fetched : List (Backend × Except ScrapeError Text)) : Outcome (Except String Unit) := do
  let findings ← fetched.mapM (checkCapacity overflowChecks)
  if findings.any CapacityFinding.isMismatch then return .error capacityMismatchMessage
  else return .ok ()

/-! ## What a text reports -/

/-- Some sample of the information metric has both labels with these values. -/
def Reports (text : Text) (cap : ReportedCapacity) : Prop :=
  ∃ line ∈ text.lines, ∃ sample, sampleLine line = some sample ∧
    ∃ labels, readSample cacheConfigInfo.toList sample = some labels ∧
      (∃ value, ("block_size".toList, value) ∈ labels ∧ parseUInt32 value = some cap.blockSize) ∧
      ∃ value, ("num_gpu_blocks".toList, value) ∈ labels ∧
        parseUInt32 value = some cap.numGpuBlocks

namespace CapacityCheck

/-- The fetched text reports a capacity other than the configured one. -/
def Differs (entry : Backend × Except ScrapeError Text) : Prop :=
  ∃ text, entry.2 = .ok text ∧
    ∃ cap, Reports text cap ∧ cap.product ≠ entry.1.caps.kvCapacityTokens.toNat

/-- The check returns, and with an error exactly when a backend reports a
capacity other than the configured one. -/
def Exact (overflowChecks : Bool) (fetched : List (Backend × Except ScrapeError Text)) : Prop :=
  ∃ verdict, validateBackendCapacities overflowChecks fetched = .ok verdict ∧
    ((∃ message, verdict = .error message) ↔ ∃ entry ∈ fetched, Differs entry)

/-- The labels that are found in the text make a product which is not the
configured capacity modulo `2 ^ 32`. -/
def Scans (entry : Backend × Except ScrapeError Text) : Prop :=
  ∃ text, entry.2 = .ok text ∧ ∃ cap, parseCapacity text = some cap ∧
    cap.product % 2 ^ 32 ≠ entry.1.caps.kvCapacityTokens.toNat

/-- A reported difference that the labels found in the text do not show. -/
def Missed (entry : Backend × Except ScrapeError Text) : Prop := Differs entry ∧ ¬ Scans entry

/-- A difference that the text does not report. -/
def Misread (entry : Backend × Except ScrapeError Text) : Prop := Scans entry ∧ ¬ Differs entry

/-- Some labels found in a text make a product that does not fit. -/
def Overflows (entry : Backend × Except ScrapeError Text) : Prop :=
  ∃ text, entry.2 = .ok text ∧ ∃ cap, parseCapacity text = some cap ∧ 2 ^ 32 ≤ cap.product

/-! ## The verdict -/

theorem isMismatch_compareCapacity (backend : Backend) (cap : ReportedCapacity) :
    (compareCapacity backend cap (cap.blockSize * cap.numGpuBlocks)).isMismatch = true ↔
      cap.product % 2 ^ 32 ≠ backend.caps.kvCapacityTokens.toNat := by
  have compared : cap.blockSize * cap.numGpuBlocks = backend.caps.kvCapacityTokens ↔
      cap.product % 2 ^ 32 = backend.caps.kvCapacityTokens.toNat := by
    rw [← UInt32.toNat_inj, UInt32.toNat_mul]
    rfl
  unfold compareCapacity
  by_cases same : cap.blockSize * cap.numGpuBlocks = backend.caps.kvCapacityTokens
  · rw [if_pos same]
    simpa [CapacityFinding.isMismatch] using compared.mp same
  · rw [if_neg same]
    simpa [CapacityFinding.isMismatch] using fun equal => same (compared.mpr equal)

theorem checkCapacity_eq_ok {overflowChecks : Bool} {entry : Backend × Except ScrapeError Text}
    (fits : overflowChecks = true → ¬ Overflows entry) :
    ∃ finding, checkCapacity overflowChecks entry = .ok finding ∧
      (finding.isMismatch = true ↔ Scans entry) := by
  obtain ⟨backend, result⟩ := entry
  cases result with
  | error error =>
      cases error <;> exact ⟨_, rfl, by simp [CapacityFinding.isMismatch, Scans]⟩
  | ok text =>
      unfold checkCapacity
      cases parsed : parseCapacity text with
      | none =>
          refine ⟨.skipped _, by simp only [parsed]; rfl, ?_⟩
          simp [CapacityFinding.isMismatch, Scans, parsed]
      | some cap =>
          have returned : cap.expected overflowChecks = .ok (cap.blockSize * cap.numGpuBlocks) := by
            unfold ReportedCapacity.expected
            rw [if_neg]
            rintro ⟨checked, overflows⟩
            exact fits checked ⟨text, rfl, cap, parsed, overflows⟩
          refine ⟨compareCapacity backend cap _, by simp only [parsed, returned]; rfl, ?_⟩
          rw [isMismatch_compareCapacity]
          simp [Scans, parsed]

theorem checkCapacity_eq_error {entry : Backend × Except ScrapeError Text}
    (overflows : Overflows entry) : ∃ panic, checkCapacity true entry = .error panic := by
  obtain ⟨backend, result⟩ := entry
  obtain ⟨text, rfl, cap, parsed, large⟩ := overflows
  refine ⟨.assertFailed "attempt to multiply with overflow", ?_⟩
  have panicked : cap.expected true = .error (.assertFailed "attempt to multiply with overflow") :=
    if_pos ⟨rfl, large⟩
  unfold checkCapacity
  simp only [parsed, panicked]
  rfl

theorem validateBackendCapacities_eq_ok {overflowChecks : Bool}
    {fetched : List (Backend × Except ScrapeError Text)}
    (fits : overflowChecks = true → ∀ entry ∈ fetched, ¬ Overflows entry) :
    ∃ verdict, validateBackendCapacities overflowChecks fetched = .ok verdict ∧
      ((∃ message, verdict = .error message) ↔ ∃ entry ∈ fetched, Scans entry) := by
  have each : ∀ entry ∈ fetched, ∃ finding, checkCapacity overflowChecks entry = .ok finding ∧
      (finding.isMismatch = true ↔ Scans entry) :=
    fun entry member => checkCapacity_eq_ok fun checked => fits checked entry member
  obtain ⟨findings, collected⟩ := Outcome.exists_mapM_eq_ok fun entry member =>
    (each entry member).imp fun _ found => found.1
  obtain ⟨checked, found⟩ := Outcome.exists_of_mapM_eq_ok collected
  have mismatched : findings.any CapacityFinding.isMismatch = true ↔
      ∃ entry ∈ fetched, Scans entry := by
    rw [List.any_eq_true]
    constructor
    · rintro ⟨finding, listed, mismatch⟩
      obtain ⟨entry, member, returned⟩ := found finding listed
      obtain ⟨same, returnedSame, scans⟩ := each entry member
      obtain rfl : same = finding := Except.ok.inj (returnedSame.symm.trans returned)
      exact ⟨entry, member, scans.mp mismatch⟩
    · rintro ⟨entry, member, scanned⟩
      obtain ⟨finding, listed, returned⟩ := checked entry member
      obtain ⟨same, returnedSame, scans⟩ := each entry member
      obtain rfl : same = finding := Except.ok.inj (returnedSame.symm.trans returned)
      exact ⟨same, listed, scans.mpr scanned⟩
  unfold validateBackendCapacities
  rw [collected]
  by_cases mismatch : findings.any CapacityFinding.isMismatch = true
  · refine ⟨.error capacityMismatchMessage, ?_, ?_⟩
    · change (if _ then _ else _) = _
      rw [if_pos mismatch]
      rfl
    · simpa [mismatched] using mismatch
  · refine ⟨.ok (), ?_, ?_⟩
    · change (if _ then _ else _) = _
      rw [if_neg mismatch]
      rfl
    · simpa [← mismatched] using mismatch

theorem validateBackendCapacities_eq_error {fetched : List (Backend × Except ScrapeError Text)}
    {entry : Backend × Except ScrapeError Text} (member : entry ∈ fetched)
    (overflows : Overflows entry) (verdict : Except String Unit) :
    validateBackendCapacities true fetched ≠ .ok verdict := by
  intro returned
  obtain ⟨findings, collected, -⟩ := Outcome.bind_eq_ok.mp returned
  obtain ⟨finding, -, checked⟩ := (Outcome.exists_of_mapM_eq_ok collected).1 entry member
  obtain ⟨panic, panicked⟩ := checkCapacity_eq_error overflows
  rw [panicked] at checked
  cases checked

/-- The two ways in which the verdict can be wrong. -/
theorem exact_iff (overflowChecks : Bool) (fetched : List (Backend × Except ScrapeError Text)) :
    Exact overflowChecks fetched ↔
      (overflowChecks = true → ∀ entry ∈ fetched, ¬ Overflows entry) ∧
        ((∃ entry ∈ fetched, Scans entry) ↔ ∃ entry ∈ fetched, Differs entry) := by
  constructor
  · rintro ⟨verdict, returned, exact⟩
    have fits : overflowChecks = true → ∀ entry ∈ fetched, ¬ Overflows entry := by
      rintro rfl entry member overflows
      exact validateBackendCapacities_eq_error member overflows verdict returned
    obtain ⟨same, returnedSame, scanned⟩ := validateBackendCapacities_eq_ok fits
    obtain rfl : same = verdict := Except.ok.inj (returnedSame.symm.trans returned)
    exact ⟨fits, scanned.symm.trans exact⟩
  · rintro ⟨fits, agree⟩
    obtain ⟨verdict, returned, scanned⟩ := validateBackendCapacities_eq_ok fits
    exact ⟨verdict, returned, scanned.trans agree⟩

/-! ## Plainly written texts -/

/-- The line is no sample of the information metric. -/
def IsOther (line : Text) : Prop :=
  ∀ sample, sampleLine line = some sample → ¬ cacheConfigInfo.toList <+: sample

/-- Labels in which the search finds the one that is looked for. -/
structure PlainLabels (labels : List Label) : Prop where
  bare : BareLabels labels
  distinct : (labels.map Prod.fst).Nodup
  blockSize : ∀ label ∈ labels, "block_size".toList <:+ label.1 → label.1 = "block_size".toList
  numGpuBlocks : ∀ label ∈ labels,
    "num_gpu_blocks".toList <:+ label.1 → label.1 = "num_gpu_blocks".toList

/-- At most one line is a sample of the information metric, and it is written
without blanks. -/
def PlainText (text : Text) : Prop :=
  (∀ line ∈ text.lines, IsOther line) ∨
    ∃ before line after labels tail, text.lines = before ++ line :: after ∧
      (∀ other ∈ before ++ after, IsOther other) ∧
      sampleLine line = some (renderSample cacheConfigInfo.toList labels tail) ∧
      PlainLabels labels

theorem dropPrefix?_of_isOther {line sample : Text} (other : IsOther line)
    (sampled : sampleLine line = some sample) :
    sample.dropPrefix? cacheConfigInfo.toList = none := by
  rw [Option.eq_none_iff_forall_ne_some]
  intro rest dropped
  obtain ⟨start, rfl, equal⟩ := List.dropPrefix?_eq_some_iff.mp dropped
  rw [beq_iff_eq.mp equal] at sampled
  exact other _ sampled (List.prefix_append _ _)

theorem lineLabel_of_isOther {line : Text} (other : IsOther line) (label : Text) :
    lineLabel cacheConfigInfo.toList label line = none := by
  unfold lineLabel
  cases sampled : sampleLine line with
  | none => rfl
  | some sample =>
      change (sample.dropPrefix? cacheConfigInfo.toList).bind _ = _
      rw [dropPrefix?_of_isOther other sampled]
      rfl

theorem readSample_of_isOther {line sample : Text} (other : IsOther line)
    (sampled : sampleLine line = some sample) :
    readSample cacheConfigInfo.toList sample = none := by
  unfold readSample
  rw [dropPrefix?_of_isOther other sampled]
  rfl

theorem find_label_iff {target : Text} {labels : List Label}
    (distinct : (labels.map Prod.fst).Nodup)
    (exact : ∀ label ∈ labels, target <:+ label.1 → label.1 = target) (value : Text) :
    (labels.find? fun label => decide (target <:+ label.1)).map Prod.snd = some value ↔
      (target, value) ∈ labels := by
  constructor
  · intro found
    obtain ⟨label, first, rfl⟩ := Option.map_eq_some_iff.mp found
    have member := List.mem_of_find?_eq_some first
    have ends : target <:+ label.1 := by simpa using List.find?_some first
    rw [← exact label member ends]
    exact member
  · intro member
    have some : (labels.find? fun label => decide (target <:+ label.1)).isSome := by
      rw [List.find?_isSome]
      exact ⟨_, member, by simp⟩
    obtain ⟨label, first⟩ := Option.isSome_iff_exists.mp some
    have listed := List.mem_of_find?_eq_some first
    have ends : target <:+ label.1 := by simpa using List.find?_some first
    have same : label = (target, value) :=
      List.inj_on_of_nodup_map distinct listed member (exact label listed ends)
    rw [first, same]
    rfl

/-- The search of a plain text reads the labels of its sample. -/
theorem infoLabel_of_sample {text target : Text} {before after : List Text} {line tail : Text}
    {labels : List Label} (listed : text.lines = before ++ line :: after)
    (others : ∀ other ∈ before ++ after, IsOther other)
    (sampled : sampleLine line = some (renderSample cacheConfigInfo.toList labels tail))
    (bare : BareLabels labels) (targetNamed : Exposition.IsName target) :
    text.lines.findSome? (lineLabel cacheConfigInfo.toList target) =
      (labels.find? fun label => decide (target <:+ label.1)).map Prod.snd := by
  have nothing (lines : List Text) (inside : ∀ other ∈ lines, IsOther other) :
      lines.findSome? (lineLabel cacheConfigInfo.toList target) = none := by
    rw [List.findSome?_eq_none_iff]
    exact fun other member => lineLabel_of_isOther (inside other member) target
  have first := nothing before fun other member => others other (by simp [member])
  have last := nothing after fun other member => others other (by simp [member])
  rw [listed, List.findSome?_append, first, Option.none_or, List.findSome?_cons,
    lineLabel_of_sample targetNamed bare sampled, last]
  cases labels.find? fun label => decide (target <:+ label.1) <;> rfl

theorem isName_blockSize : Exposition.IsName "block_size".toList :=
  ⟨List.all_eq_true.mp (by decide), 'b', "lock_size".toList, rfl, by decide⟩

theorem isName_numGpuBlocks : Exposition.IsName "num_gpu_blocks".toList :=
  ⟨List.all_eq_true.mp (by decide), 'n', "um_gpu_blocks".toList, rfl, by decide⟩

/-- From a plain text the check reads the pair that is reported, and no other. -/
theorem reports_iff_parseCapacity {text : Text} (plain : PlainText text) (cap : ReportedCapacity) :
    Reports text cap ↔ parseCapacity text = some cap := by
  rw [parseCapacity_eq_some]
  rcases plain with others | ⟨before, line, after, labels, tail, listed, others, sampled, written⟩
  · constructor
    · rintro ⟨line, member, sample, sampled, labels, read, -⟩
      rw [readSample_of_isOther (others line member) sampled] at read
      cases read
    · rintro ⟨⟨value, found, -⟩, -⟩
      obtain ⟨line, member, found⟩ := List.exists_of_findSome?_eq_some found
      rw [lineLabel_of_isOther (others line member)] at found
      cases found
  · have read : readSample cacheConfigInfo.toList (renderSample cacheConfigInfo.toList labels tail) =
        some labels :=
      Exposition.readSample_renderSample _
        (fun label member => ⟨(written.bare label member).1, (written.bare label member).2.1⟩) tail
    have size (value : Text) : infoLabel text cacheConfigInfo "block_size" = some value ↔
        ("block_size".toList, value) ∈ labels := by
      rw [← find_label_iff written.distinct written.blockSize,
        ← infoLabel_of_sample listed others sampled written.bare isName_blockSize]
      rfl
    have blocks (value : Text) : infoLabel text cacheConfigInfo "num_gpu_blocks" = some value ↔
        ("num_gpu_blocks".toList, value) ∈ labels := by
      rw [← find_label_iff written.distinct written.numGpuBlocks,
        ← infoLabel_of_sample listed others sampled written.bare isName_numGpuBlocks]
      rfl
    simp only [size, blocks]
    constructor
    · rintro ⟨other, member, sample, otherSampled, otherLabels, otherRead, reported⟩
      rw [listed, List.mem_append, List.mem_cons] at member
      have same : other = line := by
        by_contra different
        have outside : other ∈ before ++ after := by
          rw [List.mem_append]
          tauto
        rw [readSample_of_isOther (others other outside) otherSampled] at otherRead
        cases otherRead
      rw [same, sampled] at otherSampled
      obtain rfl := Option.some.inj otherSampled
      rw [read] at otherRead
      obtain rfl := Option.some.inj otherRead
      exact reported
    · intro reported
      exact ⟨line, by simp [listed], _, sampled, labels, read, reported⟩

/-! ## When the verdict is right -/

/-- The backend's text reports a product with other low 32 bits than the
configured capacity. -/
def DiffersLow (entry : Backend × Except ScrapeError Text) : Prop :=
  ∃ text, entry.2 = .ok text ∧ ∃ cap, Reports text cap ∧
    cap.product % 2 ^ 32 ≠ entry.1.caps.kvCapacityTokens.toNat

/-- The backend's text reports a product that needs more than 32 bits. -/
def ReportsLarge (entry : Backend × Except ScrapeError Text) : Prop :=
  ∃ text, entry.2 = .ok text ∧ ∃ cap, Reports text cap ∧ 2 ^ 32 ≤ cap.product

def IsPlain (entry : Backend × Except ScrapeError Text) : Prop :=
  ∀ text, entry.2 = .ok text → PlainText text

/-- What is parsed of a plain text is what it reports. -/
theorem exists_parsed_iff {entry : Backend × Except ScrapeError Text} (plain : IsPlain entry)
    (holds : ReportedCapacity → Prop) :
    (∃ text, entry.2 = .ok text ∧ ∃ cap, parseCapacity text = some cap ∧ holds cap) ↔
      ∃ text, entry.2 = .ok text ∧ ∃ cap, Reports text cap ∧ holds cap := by
  apply exists_congr
  intro text
  apply and_congr_right
  intro fetched
  apply exists_congr
  intro cap
  rw [reports_iff_parseCapacity (plain text fetched)]

theorem scans_iff {entry : Backend × Except ScrapeError Text} (plain : IsPlain entry) :
    Scans entry ↔ DiffersLow entry :=
  exists_parsed_iff plain fun cap =>
    cap.product % 2 ^ 32 ≠ entry.1.caps.kvCapacityTokens.toNat

theorem overflows_iff {entry : Backend × Except ScrapeError Text} (plain : IsPlain entry) :
    Overflows entry ↔ ReportsLarge entry :=
  exists_parsed_iff plain fun cap => 2 ^ 32 ≤ cap.product

theorem DiffersLow.differs {entry : Backend × Except ScrapeError Text} (low : DiffersLow entry) :
    Differs entry := by
  obtain ⟨text, fetched, cap, reported, other⟩ := low
  refine ⟨text, fetched, cap, reported, ?_⟩
  intro same
  rw [same, Nat.mod_eq_of_lt entry.1.caps.kvCapacityTokens.toNat_lt] at other
  exact other rfl

/-- Two properties are found in a list together when some item has both, or the
items that have only one of them do not decide it. -/
theorem exists_iff_exists {α : Type} {first second : α → Prop} {items : List α} :
    ((∃ item ∈ items, first item) ↔ ∃ item ∈ items, second item) ↔
      (∃ item ∈ items, second item ∧ first item) ∨
        ((∃ item ∈ items, second item ∧ ¬ first item) ↔
          ∃ item ∈ items, first item ∧ ¬ second item) := by
  by_cases both : ∃ item ∈ items, second item ∧ first item
  · obtain ⟨item, member, hasSecond, hasFirst⟩ := both
    constructor
    · exact fun _ => .inl ⟨item, member, hasSecond, hasFirst⟩
    · exact fun _ => ⟨fun _ => ⟨item, member, hasSecond⟩, fun _ => ⟨item, member, hasFirst⟩⟩
  · have onlySecond : (∃ item ∈ items, second item ∧ ¬ first item) ↔
        ∃ item ∈ items, second item := by
      apply exists_congr
      intro item
      apply and_congr_right
      intro member
      exact ⟨And.left, fun has => ⟨has, fun other => both ⟨item, member, has, other⟩⟩⟩
    have onlyFirst : (∃ item ∈ items, first item ∧ ¬ second item) ↔
        ∃ item ∈ items, first item := by
      apply exists_congr
      intro item
      apply and_congr_right
      intro member
      exact ⟨And.left, fun has => ⟨has, fun other => both ⟨item, member, other, has⟩⟩⟩
    rw [onlySecond, onlyFirst, or_iff_right both]
    exact Iff.comm

def cacheConfigText (blockSize numGpuBlocks : String) : Text :=
  renderSample cacheConfigInfo.toList
    [("block_size".toList, blockSize.toList), ("num_gpu_blocks".toList, numGpuBlocks.toList)]
    " 1.0".toList

theorem plainText_cacheConfigText {blockSize numGpuBlocks : String}
    (bareSize : IsBare blockSize.toList) (bareBlocks : IsBare numGpuBlocks.toList)
    (oneLine : (cacheConfigText blockSize numGpuBlocks).lines =
      [cacheConfigText blockSize numGpuBlocks])
    (sampled : sampleLine (cacheConfigText blockSize numGpuBlocks) =
      some (cacheConfigText blockSize numGpuBlocks)) :
    PlainText (cacheConfigText blockSize numGpuBlocks) := by
  have namesDiffer : ["block_size".toList, "num_gpu_blocks".toList].Nodup := by decide
  have sizeEnds : ¬ "block_size".toList <:+ "num_gpu_blocks".toList := by decide
  have blocksEnd : ¬ "num_gpu_blocks".toList <:+ "block_size".toList := by decide
  refine .inr ⟨[], _, [], _, _, oneLine, by simp, sampled, ?_⟩
  constructor
  · intro label member
    rcases List.mem_pair.mp member with rfl | rfl
    · exact ⟨isName_blockSize, bareSize⟩
    · exact ⟨isName_numGpuBlocks, bareBlocks⟩
  · exact namesDiffer
  · intro label member ends
    rcases List.mem_pair.mp member with rfl | rfl
    · rfl
    · exact absurd ends sizeEnds
  · intro label member ends
    rcases List.mem_pair.mp member with rfl | rfl
    · exact absurd ends blocksEnd
    · rfl

theorem plainText_16_256 : PlainText (cacheConfigText "16" "256") :=
  plainText_cacheConfigText ⟨⟨by decide, by decide, by decide⟩, by decide, by decide⟩
    ⟨⟨by decide, by decide, by decide⟩, by decide, by decide⟩ (by decide) (by decide)

theorem plainText_65536_65537 : PlainText (cacheConfigText "65536" "65537") :=
  plainText_cacheConfigText ⟨⟨by decide, by decide, by decide⟩, by decide, by decide⟩
    ⟨⟨by decide, by decide, by decide⟩, by decide, by decide⟩ (by decide) (by decide)

def backendOf (kvTokens : UInt32) : Backend :=
  .fresh ⟨0⟩ "http://localhost:8001" "m" 1 ⟨kvTokens, 4⟩

theorem not_exact_65536 (overflowChecks : Bool) :
    ¬ Exact overflowChecks [(backendOf 65536, .ok (cacheConfigText "65536" "65537"))] := by
  intro exact
  have parsed : parseCapacity (cacheConfigText "65536" "65537") = some ⟨65536, 65537⟩ := by decide
  rw [exact_iff] at exact
  obtain ⟨entry, member, text, fetched, cap, scanned, other⟩ :=
    exact.2.mpr ⟨_, List.mem_singleton.mpr rfl, _, rfl, ⟨65536, 65537⟩,
      (reports_iff_parseCapacity plainText_65536_65537 _).mpr parsed, by decide⟩
  rw [List.mem_singleton.mp member] at fetched other
  obtain rfl := Except.ok.inj fetched
  rw [parsed] at scanned
  obtain rfl := Option.some.inj scanned
  exact other (by decide)

/-- The size of a block on the host is taken for that on the device. -/
example : parseCapacity (renderSample cacheConfigInfo.toList
    [("cpu_block_size".toList, "8".toList), ("block_size".toList, "16".toList),
      ("num_gpu_blocks".toList, "512".toList)] " 1.0".toList) = some ⟨8, 512⟩ := by
  decide +kernel

end CapacityCheck

end KeelRouter
