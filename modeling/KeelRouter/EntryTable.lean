import Mathlib.Data.List.Basic
import Mathlib.Data.List.Perm.Basic

/-!
# Tables of entries

A table grows at its end, and its entries are replaced in place, so an entry
keeps its position for good.  This file has the rules for properties that every
entry has at its position, and for what is read from the entries.
-/

variable {α : Type*} {P : Nat → α → Prop} {table : List α}

/-- Every entry has the property at its position. -/
def EachAt (P : Nat → α → Prop) (table : List α) : Prop :=
  ∀ position entry, table[position]? = some entry → P position entry

theorem EachAt.nil : EachAt P [] := by
  intro position entry present
  rw [List.getElem?_nil] at present
  cases present

theorem getElem?_append_singleton_eq_some {entry last : α} {position : Nat} :
    (table ++ [last])[position]? = some entry ↔
      table[position]? = some entry ∨ (position = table.length ∧ last = entry) := by
  rcases Nat.lt_trichotomy position table.length with before | rfl | after
  · rw [List.getElem?_append_left before]
    exact ⟨.inl, fun present => present.resolve_right fun appended =>
      Nat.ne_of_lt before appended.1⟩
  · rw [List.getElem?_concat_length, List.getElem?_eq_none (Nat.le_refl _)]
    simp
  · rw [List.getElem?_eq_none (by simp; omega), List.getElem?_eq_none (Nat.le_of_lt after)]
    simp [Nat.ne_of_gt after]

theorem EachAt.append_singleton (each : EachAt P table) {last : α} (new : P table.length last) :
    EachAt P (table ++ [last]) := by
  intro position entry present
  rcases getElem?_append_singleton_eq_some.mp present with earlier | ⟨rfl, rfl⟩
  · exact each position entry earlier
  · exact new

/-- The entries after a replacement: the new one at its place, the others as before. -/
theorem getElem?_set_eq_some {entry replacement : α} {position changed : Nat}
    (present : (table.set changed replacement)[position]? = some entry) :
    (position = changed ∧ entry = replacement) ∨
      (position ≠ changed ∧ table[position]? = some entry) := by
  rw [List.getElem?_set] at present
  split at present
  · rename_i same
    split at present
    · exact .inl ⟨same.symm, (Option.some.inj present).symm⟩
    · cases present
  · rename_i other
    exact .inr ⟨fun same => other same.symm, present⟩

theorem EachAt.set (each : EachAt P table) {changed : Nat} {replacement : α}
    (new : P changed replacement) : EachAt P (table.set changed replacement) := by
  intro position entry present
  rcases getElem?_set_eq_some present with ⟨rfl, rfl⟩ | ⟨-, unchanged⟩
  · exact new
  · exact each position entry unchanged

/-- A replacement leaves the entries that differ from the replaced one. -/
theorem mem_set_of_ne {entry old replacement : α} {changed : Nat} (member : entry ∈ table)
    (replaced : table[changed]? = some old) (differs : entry ≠ old) :
    entry ∈ table.set changed replacement := by
  obtain ⟨position, present⟩ := List.mem_iff_getElem?.mp member
  have elsewhere : changed ≠ position := by
    rintro rfl
    exact differs (Option.some.inj (present.symm.trans replaced))
  apply List.mem_iff_getElem?.mpr
  refine ⟨position, ?_⟩
  rw [List.getElem?_set_ne elsewhere]
  exact present

/-- What is read from one entry, and from the others. -/
theorem filterMap_perm {β : Type*} (read : α → Option β) {entry : α} {position : Nat}
    (present : table[position]? = some entry) :
    (table.filterMap read).Perm
      ((read entry).toList ++ (table.eraseIdx position).filterMap read) := by
  obtain ⟨inside, rfl⟩ := List.getElem?_eq_some_iff.mp present
  have split := (List.getElem_cons_eraseIdx_perm inside).symm.filterMap read
  rw [List.filterMap_cons] at split
  cases held : read table[position] with
  | none => simpa [held] using split
  | some value => simpa [held] using split
