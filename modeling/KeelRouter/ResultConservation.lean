import Mathlib.Data.List.Dedup
import Mathlib.Data.List.DropRight
import Mathlib.Data.List.Perm.Subperm
import Mathlib.Data.List.Range
import Mathlib.Tactic.Linarith

/-!
# Accounting for the requests of a run

Requests are numbered from zero as they are dispatched, and each writes one row
at its end.  The check of the written rows compares their number with the
number of different ids and with the highest id.  Rows that pass are exactly
one for each id below some number, so what is lost at the end of a run is not
missed.
-/

namespace KeelRouter

namespace Verify

inductive CheckStatus where
  | pass
  | fail
  | warn
  | skip
deriving DecidableEq

/-- A file of results: its path and, if it could be read, the `req_id`s of its rows. -/
structure ResultFile where
  path : String
  reqIds : Option (List ℤ)
deriving DecidableEq

/-- `os.path.basename` -/
def basename (path : String) : String :=
  String.ofList (path.toList.rtakeWhile fun char => char ≠ '/')

/-- `max(ids) + 1 if ids else 0` -/
def expectedRows (ids : List ℤ) : ℤ :=
  match ids.max? with
  | some last => last + 1
  | none => 0

/-- The rows have different ids, and as many as the highest one promises. -/
def Accounted (ids : List ℤ) : Prop :=
  ids.length = ids.dedup.length ∧ (ids.length : ℤ) = expectedRows ids

instance (ids : List ℤ) : Decidable (Accounted ids) :=
  inferInstanceAs (Decidable (_ ∧ _))

def missingDetail (path : String) (ids : List ℤ) : String :=
  let n := ids.length
  let uniq := ids.dedup.length
  let expected := expectedRows ids
  basename path ++ ": rows=" ++ toString n ++ " unique=" ++ toString uniq ++
    " expected=" ++ toString expected ++ "  <- MISSING " ++ toString (expected - uniq) ++
    " request(s)"

/-- One round of the loop over the files: whether one was bad, and the details. -/
def checkFile (state : Bool × List String) (file : ResultFile) : Bool × List String :=
  match file.reqIds with
  | none => state
  | some ids =>
      if ¬ Accounted ids then (true, state.2 ++ [missingDetail file.path ids]) else state

/-- `check_conservation` -/
def checkConservation (runs : List ResultFile) : CheckStatus × String × List String :=
  let (bad, detail) := runs.foldl checkFile (false, [])
  if bad then
    (.fail, "requests missing from results", detail ++ [
      "", "A dropped request is invisible in err%: it is neither ok nor error.",
      "Suspect an exception escaping send_request, or the run being killed."])
  else (.pass, "all requests accounted for (contiguous ids, no duplicates)", [])

theorem foldl_checkFile_bad (runs : List ResultFile) (state : Bool × List String) :
    (runs.foldl checkFile state).1 = false ↔
      state.1 = false ∧ ∀ file ∈ runs, ∀ ids, file.reqIds = some ids → Accounted ids := by
  induction runs generalizing state with
  | nil => simp
  | cons file runs ih =>
      rw [List.foldl_cons, ih, List.forall_mem_cons, ← and_assoc]
      apply and_congr_left'
      unfold checkFile
      cases file.reqIds with
      | none => simp
      | some ids =>
          by_cases accounted : Accounted ids
          · simp [accounted]
          · simp [accounted]

/-- The check passes exactly when every file that could be read is accounted for. -/
theorem checkConservation_pass_iff (runs : List ResultFile) :
    (checkConservation runs).1 = .pass ↔
      ∀ file ∈ runs, ∀ ids, file.reqIds = some ids → Accounted ids := by
  have passes : (checkConservation runs).1 = .pass ↔
      (runs.foldl checkFile (false, [])).1 = false := by
    unfold checkConservation
    dsimp only
    split
    · rename_i bad
      simp [bad]
    · rename_i good
      simp [good]
  rw [passes, foldl_checkFile_bad]
  simp

/-! ## Ids from zero on -/

theorem perm_range_of_nodup {ids : List ℕ} (distinct : ids.Nodup)
    (below : ∀ id ∈ ids, id < ids.length) : ids.Perm (List.range ids.length) := by
  have within : ids ⊆ List.range ids.length := fun id member => List.mem_range.mpr (below id member)
  exact (distinct.subperm within).perm_of_length_le (by rw [List.length_range])

theorem nodup_of_length_dedup {ids : List ℤ} (same : ids.length = ids.dedup.length) :
    ids.Nodup := by
  have kept : ids.dedup = ids := (List.dedup_sublist ids).eq_of_length same.symm
  exact kept ▸ List.nodup_dedup ids

theorem expectedRows_of_perm {ids : List ℕ} {count : ℕ} (perm : ids.Perm (List.range count)) :
    expectedRows (ids.map Int.ofNat) = count := by
  cases count with
  | zero =>
      rw [List.range_zero, List.perm_nil] at perm
      rw [perm]
      rfl
  | succ last =>
      have highest : (ids.map Int.ofNat).max? = some (last : ℤ) := by
        refine List.max?_eq_some_iff.mpr ⟨?_, ?_⟩
        · exact List.mem_map_of_mem (perm.mem_iff.mpr (List.mem_range.mpr (Nat.lt_succ_self last)))
        · intro id listed
          obtain ⟨number, member, rfl⟩ := List.mem_map.mp listed
          have below := List.mem_range.mp (perm.mem_iff.mp member)
          exact Int.ofNat_le.mpr (Nat.le_of_lt_succ below)
      unfold expectedRows
      rw [highest]
      push_cast
      rfl

theorem below_of_expectedRows {ids : List ℕ} {count : ℕ}
    (expected : (count : ℤ) = expectedRows (ids.map Int.ofNat)) : ∀ id ∈ ids, id < count := by
  intro id member
  have listed : (id : ℤ) ∈ ids.map Int.ofNat := List.mem_map_of_mem member
  unfold expectedRows at expected
  cases highest : (ids.map Int.ofNat).max? with
  | none =>
      rw [List.max?_eq_none_iff.mp highest] at listed
      cases listed
  | some last =>
      rw [highest] at expected
      have bound := (List.max?_eq_some_iff.mp highest).2 id listed
      dsimp only at expected
      omega

theorem accounted_iff_perm (ids : List ℕ) :
    Accounted (ids.map Int.ofNat) ↔ ids.Perm (List.range ids.length) := by
  constructor
  · rintro ⟨distinct, expected⟩
    rw [List.length_map] at expected
    have nodup := (List.nodup_map_iff Int.ofNat_injective).mp (nodup_of_length_dedup distinct)
    exact perm_range_of_nodup nodup (below_of_expectedRows expected)
  · intro perm
    have nodup : ids.Nodup := perm.nodup_iff.mpr List.nodup_range
    have distinct := (List.nodup_map_iff Int.ofNat_injective).mpr nodup
    refine ⟨by rw [distinct.dedup], ?_⟩
    rw [List.length_map, expectedRows_of_perm perm]

theorem eachOnce_iff_perm {ids : List ℕ} {N : ℕ} (below : ∀ id ∈ ids, id < N) :
    (∀ id < N, ids.count id = 1) ↔ ids.Perm (List.range N) := by
  constructor
  · intro once
    have distinct : ids.Nodup := by
      refine List.nodup_iff_count_le_one.mpr fun id => ?_
      by_cases member : id ∈ ids
      · exact (once id (below id member)).le
      · rw [List.count_eq_zero_of_not_mem member]
        exact Nat.zero_le 1
    refine (List.perm_ext_iff_of_nodup distinct List.nodup_range).mpr fun id => ?_
    rw [List.mem_range]
    constructor
    · exact below id
    · intro small
      exact List.count_pos_iff.mp (by rw [once id small]; exact Nat.one_pos)
  · intro perm id small
    rw [perm.count_eq]
    exact List.count_eq_one_of_mem List.nodup_range (List.mem_range.mpr small)

/-- For the rows of `N` dispatched requests the check passes exactly if every id
is in exactly one row, unless the rows are one for each of the first `k` ids. -/
theorem conservation_checked_iff {N : ℕ} {ids : List ℕ} (path : String)
    (below : ∀ id ∈ ids, id < N) :
    ((checkConservation [⟨path, some (ids.map Int.ofNat)⟩]).1 = .pass ↔
        ∀ id < N, ids.count id = 1) ↔
      ¬ ∃ k < N, ids.Perm (List.range k) := by
  have passes : (checkConservation [⟨path, some (ids.map Int.ofNat)⟩]).1 = .pass ↔
      ids.Perm (List.range ids.length) := by
    rw [checkConservation_pass_iff, ← accounted_iff_perm]
    simp
  have lengthOf {k : ℕ} (perm : ids.Perm (List.range k)) : ids.length = k := by
    rw [perm.length_eq, List.length_range]
  rw [passes, eachOnce_iff_perm below]
  constructor
  · rintro detects ⟨k, fewer, perm⟩
    have complete := detects.mp (by rwa [lengthOf perm])
    have same := lengthOf complete
    rw [lengthOf perm] at same
    exact fewer.ne same
  · intro whole
    constructor
    · intro perm
      rcases Nat.lt_trichotomy ids.length N with fewer | same | more
      · exact (whole ⟨ids.length, fewer, perm⟩).elim
      · rwa [← same]
      · have extra := perm.mem_iff.mpr (List.mem_range.mpr more)
        exact (below N extra).false.elim
    · intro complete
      rwa [lengthOf complete]

theorem conservation_checked_two :
    (checkConservation [⟨"results/knee.csv", some [1, 0]⟩]).1 = .pass ↔
      ∀ id < 2, [1, 0].count id = 1 :=
  (conservation_checked_iff "results/knee.csv" (by decide : ∀ id ∈ [1, 0], id < 2)).mpr
    (by decide)

/-- Of three requests the last one is lost. -/
theorem lost_last_request_passes :
    ¬ ((checkConservation [⟨"results/knee.csv", some [0, 1]⟩]).1 = .pass ↔
      ∀ id < 3, [0, 1].count id = 1) := by
  decide

end Verify

end KeelRouter
