import KeelRouter.PressurePick

/-!
# What a decision trace explains

The trace of a pressure pick is written after the choice, from a second copy of
the scores and of the gate's formula.  It agrees with the choice all the same:
the chosen backend passed the gate and no ungated candidate scores lower, and
every gated candidate carries the bound that it exceeds.
-/

namespace KeelRouter

namespace Pressure

/-- The bound of the gate on the KV charge. -/
def WithinKv (self : Pressure) (req : RequestFeatures) (b : Backend) : Prop :=
  b.live.kvProjectedTokens + self.needKv req ≤ kvLimit b self.sigma

/-- The bound of the gate on the requests in flight. -/
def WithinSlots (b : Backend) : Prop := b.live.inflight < b.caps.maxNumSeqs

/-- The trace tells what was decided among which candidates, and why. -/
structure Explains (self : Pressure) (heap : Heap) (snap : Snapshot) (req : RequestFeatures)
    (picked : Option BackendId) (trace : DecisionTrace) : Prop where
  request : trace.strategy = name ∧ trace.promptTokens = req.promptTokens ∧
    trace.expectedOutputTokens = req.expectedOutputTokens
  listed : trace.candidates.map CandidateScore.backend = snap.healthy
  current : ∀ c ∈ trace.candidates, let b := heap (snap.refOf c.backend)
    c.score = self.score b ∧ c.occupancy = occupancy b ∧ c.inflight = b.live.inflight ∧
      c.kvProjected = b.live.kvProjectedTokens
  chosen : trace.chosen = picked
  least : ∀ id, picked = some id → id ∈ snap.healthy ∧
    ∀ c ∈ trace.candidates, c.backend = id → c.gatedBy = none ∧ c.score ≠ .nan ∧
      ∀ other ∈ trace.candidates, other.gatedBy = none →
        other.score = .nan ∨ c.score ≤ other.score
  unchosen : picked = none →
    ∀ c ∈ trace.candidates, c.gatedBy = none → c.score = .nan
  gated : trace.fellThrough = false →
    ∀ c ∈ trace.candidates, let b := heap (snap.refOf c.backend)
      (c.gatedBy = none ↔ admits b (self.needKv req) self.sigma = true) ∧
        (c.gatedBy = some .kvHeadroom ↔ ¬ self.WithinKv req b) ∧
        (c.gatedBy = some .slotLimit ↔ self.WithinKv req b ∧ ¬ WithinSlots b)
  fallen : trace.fellThrough = true →
    ∀ c ∈ trace.candidates,
      ¬ admits (heap (snap.refOf c.backend)) (self.needKv req) self.sigma = true

variable {self : Pressure} {heap : Heap} {snap : Snapshot} {req : RequestFeatures}

theorem admits_iff_within (b : Backend) :
    admits b (self.needKv req) self.sigma = true ↔ self.WithinKv req b ∧ WithinSlots b := by
  rw [admits, Bool.and_eq_true, decide_eq_true_iff, decide_eq_true_iff]
  rfl

section Ties

variable {id : BackendId}
  (tied : id ∈ ((self.pool heap snap req).foldl
    (TieScan.step ExactFloat.partialCmp fun id => self.score (heap (snap.refOf id)))
    (.posInf, [])).2)

include tied

theorem score_ne_nan_of_tied : self.score (heap (snap.refOf id)) ≠ .nan := by
  obtain ⟨bound, compared⟩ := TieScan.exists_compared_of_mem_scan tied
  intro unordered
  rw [unordered] at compared
  simp [ExactFloat.partialCmp] at compared

/-- No backend of the pool scores lower than a tie. -/
theorem score_le_of_tied {other : BackendId} (pooled : other ∈ self.pool heap snap req) :
    self.score (heap (snap.refOf other)) = .nan ∨
      self.score (heap (snap.refOf id)) ≤ self.score (heap (snap.refOf other)) := by
  have undercut : ¬ self.score (heap (snap.refOf other)) < self.score (heap (snap.refOf id)) :=
    @TieScan.not_lt_of_mem_scan _ _ _ (fun id => self.score (heap (snap.refOf id)))
      ExactFloat.partialCmp_self_ne_lt ExactFloat.partialCmp_trans _ _ _ _ tied pooled
  by_cases unordered : self.score (heap (snap.refOf other)) = .nan
  · exact .inl unordered
  · exact .inr (ExactFloat.le_of_not_lt (score_ne_nan_of_tied tied) unordered undercut)

end Ties

theorem no_ties_of_undrawn {rng : SmallRng} {ties : List BackendId}
    (undrawn : rng.choose ties = none) : ties = [] := by
  by_contra nonempty
  obtain ⟨id, -, drawn⟩ := rng.exists_choose nonempty
  rw [undrawn] at drawn
  cases drawn

theorem score_eq_nan_of_no_ties
    (none : ((self.pool heap snap req).foldl
      (TieScan.step ExactFloat.partialCmp fun id => self.score (heap (snap.refOf id)))
      (.posInf, [])).2 = [])
    {id : BackendId} (pooled : id ∈ self.pool heap snap req) :
    self.score (heap (snap.refOf id)) = .nan := by
  obtain ⟨notLess, notEqual⟩ := TieScan.scan_eq_nil_iff.mp none id pooled
  by_contra number
  rcases (ExactFloat.partialCmp_posInf _).mpr number with less | equal
  · exact notLess less
  · exact notEqual equal

/-! ## The gate in the trace -/

variable (self heap snap req) in
/-- What the scan of a well-indexed snapshot returns. -/
def scanned : Scan where
  eligible := self.admitted heap snap req
  fellThrough := (self.admitted heap snap req).isEmpty
  ties := ((self.pool heap snap req).foldl
    (TieScan.step ExactFloat.partialCmp fun id => self.score (heap (snap.refOf id)))
    (.posInf, [])).2

variable (self heap snap req) in
def candidate (id : BackendId) : CandidateScore :=
  self.candidateScore req (self.scanned heap snap req) id (heap (snap.refOf id))

theorem gatedBy_of_fallen (fell : (self.admitted heap snap req).isEmpty = true)
    (id : BackendId) : (self.candidate heap snap req id).gatedBy = none := by
  unfold candidate candidateScore scanned
  rw [fell]
  rfl

/-- The second copy of the gate's formula blames the bound that is exceeded. -/
theorem gatedBy_of_not_fallen (notFallen : (self.admitted heap snap req).isEmpty = false)
    {id : BackendId} (healthy : id ∈ snap.healthy) :
    let b := heap (snap.refOf id)
    let gatedBy := (self.candidate heap snap req id).gatedBy
    (gatedBy = none ↔ admits b (self.needKv req) self.sigma = true) ∧
      (gatedBy = some .kvHeadroom ↔ ¬ self.WithinKv req b) ∧
      (gatedBy = some .slotLimit ↔ self.WithinKv req b ∧ ¬ WithinSlots b) := by
  have admitted : (self.admitted heap snap req).contains id = true ↔
      self.WithinKv req (heap (snap.refOf id)) ∧ WithinSlots (heap (snap.refOf id)) := by
    rw [List.contains_iff_mem, mem_admitted, admits_iff_within]
    exact and_iff_right healthy
  dsimp only
  rw [admits_iff_within]
  unfold candidate candidateScore scanned
  rw [notFallen]
  dsimp only
  by_cases inside : (self.admitted heap snap req).contains id = true
  · have within := admitted.mp inside
    rw [inside]
    simp [within]
  · have outside := admitted.not.mp inside
    rw [Bool.not_eq_true] at inside
    rw [inside]
    by_cases kv : self.WithinKv req (heap (snap.refOf id))
    · have slots : ¬ WithinSlots (heap (snap.refOf id)) := fun slots => outside ⟨kv, slots⟩
      have kvOk : (heap (snap.refOf id)).live.kvProjectedTokens + self.needKv req ≤
        kvLimit (heap (snap.refOf id)) self.sigma := kv
      simp [kvOk, kv, slots]
    · have kvOver : ¬ (heap (snap.refOf id)).live.kvProjectedTokens + self.needKv req ≤
        kvLimit (heap (snap.refOf id)) self.sigma := kv
      simp [kvOver, kv]

/-- The candidates that are not gated are the ones the choice was made among. -/
theorem gatedBy_eq_none_iff {id : BackendId} (healthy : id ∈ snap.healthy) :
    (self.candidate heap snap req id).gatedBy = none ↔ id ∈ self.pool heap snap req := by
  cases fell : (self.admitted heap snap req).isEmpty with
  | true =>
      rw [pool, if_pos fell]
      exact iff_of_true (gatedBy_of_fallen fell id) healthy
  | false =>
      rw [pool, if_neg (by simp [fell]), mem_admitted, (gatedBy_of_not_fallen fell healthy).1]
      exact (and_iff_right healthy).symm

theorem mem_map_candidate {c : CandidateScore}
    (listed : c ∈ snap.healthy.map (self.candidate heap snap req)) :
    c.backend ∈ snap.healthy ∧ c = self.candidate heap snap req c.backend := by
  obtain ⟨id, healthy, rfl⟩ := List.mem_map.mp listed
  exact ⟨healthy, rfl⟩

/-- A traced pick explains itself, whatever the parameters, the draw and the
trace it was given. -/
theorem pick_explained (indexed : snap.Indexed) (nonempty : snap.healthy ≠ [])
    (self : Pressure) (heap : Heap) (req : RequestFeatures) (rng : SmallRng)
    (start : DecisionTrace) :
    ∃ picked filled, self.pick heap snap req rng (some start) = .ok ⟨picked, some filled⟩ ∧
      (self.pick heap snap req rng none).map Picked.chosen = .ok picked ∧
      self.Explains heap snap req picked filled := by
  have scan : self.scan heap snap req = .ok (self.scanned heap snap req) :=
    scan_eq_ok self heap req indexed
  refine ⟨_, _, pick_eq_ok indexed nonempty scan rng (some start), ?_, ?_⟩
  · rw [pick_eq_ok indexed nonempty scan]
    rfl
  · refine ⟨⟨rfl, rfl, rfl⟩, ?_, ?_, rfl, ?_, ?_, ?_, ?_⟩
    · change (snap.healthy.map (self.candidate heap snap req)).map CandidateScore.backend = _
      rw [List.map_map]
      exact List.map_id _
    · intro c listed
      obtain ⟨-, own⟩ := mem_map_candidate listed
      rw [own]
      exact ⟨rfl, rfl, rfl, rfl⟩
    · intro id drawn
      have tied := SmallRng.choose_mem drawn
      have pooled := TieScan.mem_of_mem_scan tied
      refine ⟨mem_healthy_of_mem_pool pooled, ?_⟩
      rintro c listed rfl
      obtain ⟨healthy, own⟩ := mem_map_candidate listed
      rw [own]
      refine ⟨(gatedBy_eq_none_iff healthy).mpr pooled, score_ne_nan_of_tied tied, ?_⟩
      intro other otherListed ungated
      obtain ⟨otherHealthy, otherOwn⟩ := mem_map_candidate otherListed
      rw [otherOwn] at ungated ⊢
      exact score_le_of_tied tied ((gatedBy_eq_none_iff otherHealthy).mp ungated)
    · intro undrawn c listed ungated
      obtain ⟨healthy, own⟩ := mem_map_candidate listed
      rw [own] at ungated ⊢
      exact score_eq_nan_of_no_ties (no_ties_of_undrawn undrawn)
        ((gatedBy_eq_none_iff healthy).mp ungated)
    · intro notFallen c listed
      obtain ⟨healthy, own⟩ := mem_map_candidate listed
      have gated := gatedBy_of_not_fallen notFallen healthy
      rwa [← own] at gated
    · intro fell c listed
      obtain ⟨healthy, -⟩ := mem_map_candidate listed
      exact admitted_isEmpty_iff.mp fell c.backend healthy

theorem pick_explained_uneven :
    ∃ picked filled, pick ⟨defaultTheta, defaultPenalty, defaultSigma, .promptOnly⟩ unevenHeap
        unevenSnapshot ⟨"m", 1, true, 0, none, none, true, 0⟩ .first (some .default) =
          .ok ⟨picked, some filled⟩ ∧
      Explains ⟨defaultTheta, defaultPenalty, defaultSigma, .promptOnly⟩ unevenHeap
        unevenSnapshot ⟨"m", 1, true, 0, none, none, true, 0⟩ picked filled := by
  obtain ⟨picked, filled, returned, -, explains⟩ :=
    pick_explained (by decide : unevenSnapshot.Indexed) (by decide)
      ⟨defaultTheta, defaultPenalty, defaultSigma, .promptOnly⟩ unevenHeap
      ⟨"m", 1, true, 0, none, none, true, 0⟩ .first .default
  exact ⟨picked, filled, returned, explains⟩

end Pressure

end KeelRouter
