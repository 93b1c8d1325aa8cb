import Mathlib.Algebra.BigOperators.Group.Finset.Piecewise
import Mathlib.Algebra.BigOperators.Group.List.Basic
import Mathlib.Algebra.Order.BigOperators.Group.List
import Mathlib.Algebra.Order.Group.Nat
import Mathlib.Tactic.Abel

/-!
# Sums over the entries of a key

A ledger holds a list of entries, each under one key and with one amount.  The
balance of a key is the sum of the amounts of its entries.  This file gives
the balance after an entry is added, revised or removed, in any commutative
group; with machine integers as the group, the same equations describe
counters that wrap around.
-/

variable {ι κ G : Type*}

/-- The sum of the amounts of all entries with the given key. -/
def keyedSum [DecidableEq κ] [AddCommMonoid G] (key : ι → κ) (amount : ι → G)
    (entries : List ι) (target : κ) : G :=
  ((entries.filter fun entry => key entry = target).map amount).sum

section Monoid

variable [DecidableEq κ] [AddCommMonoid G] (key : ι → κ) (amount : ι → G)

@[simp]
theorem keyedSum_nil (target : κ) : keyedSum key amount [] target = 0 := rfl

theorem keyedSum_cons (entry : ι) (entries : List ι) (target : κ) :
    keyedSum key amount (entry :: entries) target =
      (if key entry = target then amount entry else 0) +
        keyedSum key amount entries target := by
  by_cases same : key entry = target <;> simp [keyedSum, same]

theorem keyedSum_append (first second : List ι) (target : κ) :
    keyedSum key amount (first ++ second) target =
      keyedSum key amount first target + keyedSum key amount second target := by
  simp [keyedSum]

theorem keyedSum_perm {first second : List ι} (perm : first.Perm second) (target : κ) :
    keyedSum key amount first target = keyedSum key amount second target :=
  ((perm.filter _).map amount).sum_eq

theorem keyedSum_map {ε : Type*} (build : ε → ι) (sources : List ε) (target : κ) :
    keyedSum key amount (sources.map build) target =
      keyedSum (fun source => key (build source)) (fun source => amount (build source)) sources
        target := by
  simp [keyedSum, List.filter_map, Function.comp_def]

theorem keyedSum_eq_zero_of_forall {entries : List ι} {target : κ}
    (zero : ∀ entry ∈ entries, key entry = target → amount entry = 0) :
    keyedSum key amount entries target = 0 := by
  apply List.sum_eq_zero
  intro value valueMem
  obtain ⟨entry, entryMem, rfl⟩ := List.mem_map.mp valueMem
  rw [List.mem_filter] at entryMem
  exact zero entry entryMem.1 (by simpa using entryMem.2)

/-- A position of the list splits the balance into the entry there and the
balance without it. -/
theorem keyedSum_eq_getElem_add_eraseIdx {entries : List ι} {position : Nat}
    {entry : ι} (present : entries[position]? = some entry) (target : κ) :
    keyedSum key amount entries target =
      (if key entry = target then amount entry else 0) +
        keyedSum key amount (entries.eraseIdx position) target := by
  induction entries generalizing position with
  | nil => simp at present
  | cons first entries ih =>
      cases position with
      | zero =>
          obtain rfl : first = entry := by simpa using present
          rw [keyedSum_cons, List.eraseIdx_cons_zero]
      | succ position =>
          rw [keyedSum_cons, List.eraseIdx_cons_succ, keyedSum_cons,
            ih (by simpa using present), add_left_comm]

theorem keyedSum_set {entries : List ι} {position : Nat} {entry : ι}
    (present : entries[position]? = some entry) (revised : ι) (target : κ) :
    keyedSum key amount (entries.set position revised) target =
      (if key revised = target then amount revised else 0) +
        keyedSum key amount (entries.eraseIdx position) target := by
  obtain ⟨inside, -⟩ := List.getElem?_eq_some_iff.mp present
  have revisedPresent : (entries.set position revised)[position]? = some revised := by
    simp [inside]
  rw [keyedSum_eq_getElem_add_eraseIdx key amount revisedPresent]
  congr 2
  exact List.eraseIdx_set_eq

/-- The entries of one key and the entries of all others. -/
theorem sum_eq_keyedSum_add (entries : List ι) (target : κ) :
    (entries.map amount).sum = keyedSum key amount entries target +
      ((entries.filter fun entry => !decide (key entry = target)).map amount).sum := by
  have split := List.filter_append_perm (fun entry => decide (key entry = target)) entries
  rw [← (split.map amount).sum_eq, List.map_append, List.sum_append]
  rfl

theorem keyedSum_filter_ne {entries : List ι} {target other : κ} (differs : other ≠ target) :
    keyedSum key amount (entries.filter fun entry => !decide (key entry = target)) other =
      keyedSum key amount entries other := by
  unfold keyedSum
  rw [List.filter_filter]
  congr 2
  apply List.filter_congr
  intro entry _
  by_cases own : key entry = other
  · simp [own, differs]
  · simp [own]

/-- A property that is kept by addition holds of the whole sum when it holds of
every key's. -/
theorem sum_of_keyedSum {P : G → Prop}
    (add : ∀ first second, P first → P second → P (first + second)) {entries : List ι}
    (nonempty : entries ≠ [])
    (each : ∀ entry ∈ entries, P (keyedSum key amount entries (key entry))) :
    P (entries.map amount).sum := by
  induction length : entries.length using Nat.strong_induction_on generalizing entries with
  | h count ih =>
      obtain ⟨first, member⟩ := List.exists_mem_of_ne_nil entries nonempty
      rw [sum_eq_keyedSum_add key amount entries (key first)]
      by_cases alone : entries.filter (fun entry => !decide (key entry = key first)) = []
      · rw [alone, List.map_nil, List.sum_nil, add_zero]
        exact each first member
      · apply add _ _ (each first member)
        refine ih _ ?_ alone ?_ rfl
        · rw [← length]
          apply List.length_filter_lt_length_iff_exists.mpr
          exact ⟨first, member, by simp⟩
        · intro entry listed
          obtain ⟨original, differs⟩ := List.mem_filter.mp listed
          rw [keyedSum_filter_ne key amount (by simpa using differs)]
          exact each entry original

/-- The balances of distinct keys add up to at most the sum of all entries. -/
theorem sum_keyedSum_le (amount : ι → ℕ) (entries : List ι) (targets : Finset κ) :
    ∑ target ∈ targets, keyedSum key amount entries target ≤ (entries.map amount).sum := by
  induction entries with
  | nil => simp
  | cons entry entries ih =>
      have own : ∑ target ∈ targets, (if key entry = target then amount entry else 0) ≤
          amount entry := by
        rw [Finset.sum_ite_eq]
        split <;> omega
      simp only [keyedSum_cons, Finset.sum_add_distrib, List.map_cons, List.sum_cons]
      exact Nat.add_le_add own ih

theorem keyedSum_le_of_subperm (amount : ι → ℕ) {first second : List ι}
    (subperm : first.Subperm second) (target : κ) :
    keyedSum key amount first target ≤ keyedSum key amount second target := by
  obtain ⟨middle, perm, sublist⟩ := subperm
  rw [← keyedSum_perm key amount perm]
  exact ((sublist.filter _).map amount).sum_le_sum fun _ _ => Nat.zero_le _

end Monoid

section Group

variable [DecidableEq κ] [AddCommGroup G] (key : ι → κ) (amount : ι → G)

theorem keyedSum_eraseIdx {entries : List ι} {position : Nat} {entry : ι}
    (present : entries[position]? = some entry) (target : κ) :
    keyedSum key amount (entries.eraseIdx position) target =
      keyedSum key amount entries target -
        (if key entry = target then amount entry else 0) := by
  rw [keyedSum_eq_getElem_add_eraseIdx key amount present, add_sub_cancel_left]

/-- Revising an entry in place, under the same key, shifts its key's balance by
the difference of the two amounts. -/
theorem keyedSum_set_same_key {entries : List ι} {position : Nat} {entry revised : ι}
    (present : entries[position]? = some entry) (sameKey : key revised = key entry)
    (target : κ) :
    keyedSum key amount (entries.set position revised) target =
      keyedSum key amount entries target +
        (if key entry = target then amount revised - amount entry else 0) := by
  rw [keyedSum_set key amount present, keyedSum_eq_getElem_add_eraseIdx key amount present,
    sameKey]
  by_cases same : key entry = target
  · simp only [same, if_true]
    abel
  · simp [same]

end Group
