import KeelRouter.Inbound
import KeelRouter.Pressure
import KeelRouter.CostLease

/-!
# The client's output limit

A client's `max_tokens` is narrowed to 32 bits before it is clamped from below.
The narrowing drops the high bits, so the estimate follows the limit exactly
when the limit fits in 32 bits or its low bits are all ones, and only there a
larger limit is never charged less.
-/

namespace KeelRouter

open SerdeJson (Codec Value)

/-- Narrowing to 32 bits and saturating at the largest count agree. -/
def NarrowingSaturates (m : UInt64) : Prop :=
  m.toNat < 2 ^ 32 ∨ m.toNat % 2 ^ 32 = 2 ^ 32 - 1

instance (m : UInt64) : Decidable (NarrowingSaturates m) :=
  inferInstanceAs (Decidable (_ ∨ _))

variable {F : Type} [DecayNumber F] {codec : Codec} {bytes : List UInt8} {now : Instant}
  {hists : RouteHistograms F} {counter : TokenCounter} {features : RequestFeatures} {v : Value}

theorem toNat_expectedOutputTokens {m : UInt64} (parsed : codec.fromSlice bytes = .ok v)
    (limited : (v.get "max_tokens").bind Value.asU64 = some m)
    (built : buildFeatures codec bytes now hists counter = .ok features) :
    features.expectedOutputTokens.toNat = max (m.toNat % 2 ^ 32) 1 := by
  obtain ⟨-, -, estimated⟩ := buildFeatures_eq_ok parsed built
  rw [limited] at estimated
  rw [estimated]
  change (max m.toUInt32 1).toNat = _
  rw [UInt32.toNat_max, UInt64.toNat_toUInt32, UInt32.toNat_one]

theorem clamped_iff (m : UInt64) :
    max (m.toNat % 2 ^ 32) 1 = max 1 (min m.toNat (2 ^ 32 - 1)) ↔ NarrowingSaturates m := by
  have bounded := m.toNat_lt
  unfold NarrowingSaturates
  omega

/-- Bodies that differ at most in `max_tokens` have the same prompt. -/
theorem countPromptTokens_congr {v other : Value}
    (alike : ∀ key, key ≠ "max_tokens" → other.get key = v.get key) (counter : TokenCounter) :
    countPromptTokens other counter = countPromptTokens v counter := by
  unfold countPromptTokens
  rw [alike "messages" (by decide), alike "prompt" (by decide)]

theorem project_mono {promptTokens small large : UInt32} (more : small.toNat ≤ large.toNat)
    (kvModel : KvModel) :
    (kvModel.project promptTokens small).toInt ≤ (kvModel.project promptTokens large).toInt := by
  rw [KvModel.toInt_project, KvModel.toInt_project]
  cases kvModel with
  | promptOnly => exact le_rfl
  | promptPlusOutput =>
      dsimp only
      omega

/-- The output estimate of an accepted body with a `max_tokens` of `m` is `m`
clamped between one and the largest count exactly when narrowing saturates on
`m`.  For two such bodies that differ in nothing else, the larger limit is never
projected lower by the gate nor charged less by the lease. -/
theorem expected_output_tokens_clamped_iff {m : UInt64}
    (parsed : codec.fromSlice bytes = .ok v)
    (limited : (v.get "max_tokens").bind Value.asU64 = some m)
    (built : buildFeatures codec bytes now hists counter = .ok features) :
    (features.expectedOutputTokens.toNat = max 1 (min m.toNat (2 ^ 32 - 1)) ↔
      NarrowingSaturates m) ∧
    (NarrowingSaturates m → ∀ (larger : List UInt8) (other : Value) (m' : UInt64)
      (moreFeatures : RequestFeatures),
      codec.fromSlice larger = .ok other →
      (other.get "max_tokens").bind Value.asU64 = some m' →
      buildFeatures codec larger now hists counter = .ok moreFeatures →
      (∀ key, key ≠ "max_tokens" → other.get key = v.get key) →
      NarrowingSaturates m' → m ≤ m' →
      (∀ self : Pressure, (self.needKv features).toInt ≤ (self.needKv moreFeatures).toInt) ∧
      ∀ (kvModel : KvModel) (ref : BackendRef) (heap : Heap),
        (CostLease.open ref features.promptTokens features.expectedOutputTokens kvModel now
            heap).1.charged.toInt ≤
          (CostLease.open ref moreFeatures.promptTokens moreFeatures.expectedOutputTokens
            kvModel now heap).1.charged.toInt) := by
  have exact := toNat_expectedOutputTokens parsed limited built
  refine ⟨?_, ?_⟩
  · rw [exact]
    exact clamped_iff m
  · intro saturates larger other m' moreFeatures otherParsed otherLimited otherBuilt alike
      otherSaturates less
    have otherExact := toNat_expectedOutputTokens otherParsed otherLimited otherBuilt
    have samePrompt : moreFeatures.promptTokens = features.promptTokens := by
      rw [(buildFeatures_eq_ok parsed built).2.1, (buildFeatures_eq_ok otherParsed otherBuilt).2.1,
        countPromptTokens_congr alike]
    have more : features.expectedOutputTokens.toNat ≤ moreFeatures.expectedOutputTokens.toNat := by
      rw [exact, otherExact, (clamped_iff m).mpr saturates, (clamped_iff m').mpr otherSaturates]
      have ordered := UInt64.le_iff_toNat_le.mp less
      omega
    refine ⟨?_, ?_⟩
    · intro self
      unfold Pressure.needKv
      rw [samePrompt]
      exact project_mono more self.kvModel
    · intro kvModel ref heap
      rw [CostLease.open_charged, CostLease.open_charged, samePrompt]
      exact project_mono more kvModel

/-- A chat body of one user message with the given limit. -/
def limitedChat (m : UInt64) : Value :=
  .object [
    ("max_tokens", .number (.posInt m)),
    ("messages", .array [.object [("content", .string "hi"), ("role", .string "user")]]),
    ("model", .string "m")]

def limitedBytes (m : UInt64) : List UInt8 :=
  let text := "\x7b\"max_tokens\":" ++ toString m ++
    ",\"messages\":[\x7b\"content\":\"hi\",\"role\":\"user\"\x7d],\"model\":\"m\"\x7d"
  text.toList.map fun char => UInt8.ofNat char.toNat

theorem buildFeatures_limitedChat {m : UInt64}
    (parsed : codec.fromSlice bytes = .ok (limitedChat m)) :
    buildFeatures codec bytes 0 (RouteHistograms.new (300 : ℝ)) ⟨.whitespace, 4⟩ =
      .ok ⟨"m", 1, true, max m.toUInt32 1, some m.toUInt32, none, false, 0⟩ := by
  have counted : countPromptTokens (limitedChat m) ⟨.whitespace, 4⟩ = 1 := by
    change saturatingAdd 0 (TokenCounter.count ⟨.whitespace, 4⟩ "hi".toList) = 1
    decide
  unfold buildFeatures
  rw [parsed]
  dsimp only
  unfold featuresOf
  rw [counted]
  rfl

theorem limitedChat_get (m m' : UInt64) {key : String} (other : key ≠ "max_tokens") :
    (limitedChat m').get key = (limitedChat m).get key := by
  have differs : (key == "max_tokens") = false := beq_false_of_ne other
  simp [limitedChat, Value.get, SerdeJson.Members.get, List.lookup_cons, differs]

/-- The codec of two bodies that differ in their limit only. -/
def limitedCodec (m m' : UInt64) : Codec where
  fromSlice bytes :=
    if bytes = limitedBytes m then .ok (limitedChat m)
    else if bytes = limitedBytes m' then .ok (limitedChat m')
    else .error "expected value at line 1 column 1"
  fromStr _ := .error "expected value at line 1 column 1"
  toVec _ := .error "no value to print"

theorem expected_output_tokens_clamped_700_900 :
    (max (700 : UInt64).toUInt32 1).toNat = 700 ∧
      ∀ self : Pressure,
        (self.needKv ⟨"m", 1, true, max (700 : UInt64).toUInt32 1, some 700, none, false,
          0⟩).toInt ≤
        (self.needKv ⟨"m", 1, true, max (900 : UInt64).toUInt32 1, some 900, none, false,
          0⟩).toInt := by
  have first : (limitedCodec 700 900).fromSlice (limitedBytes 700) = .ok (limitedChat 700) := by
    unfold limitedCodec
    dsimp only
    rw [if_pos rfl]
  have second : (limitedCodec 700 900).fromSlice (limitedBytes 900) = .ok (limitedChat 900) := by
    unfold limitedCodec
    dsimp only
    rw [if_neg (by decide), if_pos rfl]
  obtain ⟨clamped, monotone⟩ := expected_output_tokens_clamped_iff first rfl
    (buildFeatures_limitedChat first)
  refine ⟨clamped.mpr (.inl (by decide)), ?_⟩
  exact (monotone (.inl (by decide)) (limitedBytes 900) (limitedChat 900) 900 _ second rfl
    (buildFeatures_limitedChat second) (fun _ => limitedChat_get 700 900) (.inl (by decide))
    (by decide)).1

/-- A limit of 2^32 tokens is charged as one token. -/
theorem limit_of_two_pow_32_estimated_as_one :
    ∃ features, buildFeatures (.single (limitedBytes 4294967296) (limitedChat 4294967296) [])
        (limitedBytes 4294967296) 0 (RouteHistograms.new (300 : ℝ)) ⟨.whitespace, 4⟩ =
          .ok features ∧
      ((limitedChat 4294967296).get "max_tokens").bind Value.asU64 = some 4294967296 ∧
      features.expectedOutputTokens.toNat ≠
        max 1 (min (4294967296 : UInt64).toNat (2 ^ 32 - 1)) ∧
      features.expectedOutputTokens = 1 :=
  ⟨_, buildFeatures_limitedChat (Codec.fromSlice_single _ _ _), rfl, by decide, by decide⟩

end KeelRouter
