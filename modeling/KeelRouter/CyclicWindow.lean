import Mathlib.Data.List.Rotate
import Mathlib.Data.List.Nodup
import Mathlib.Tactic.Ring

/-!
# Windows of a cyclic list

Reading a list over and over gives an endless cycle.  A window of the cycle is
a number of laps, each a rotation of the list, followed by the beginning of one
more.  When the list has no duplicates, all its elements therefore occur in a
window equally often, up to one occurrence.
-/

variable {α : Type*}

/-- The elements read in the given number of steps from the given place. -/
def cyclicWindow (xs : List α) (start : Nat) : Nat → List α
  | 0 => []
  | count + 1 =>
      cyclicWindow xs start count ++ (xs[(start + count) % xs.length]?).toList

theorem cyclicWindow_succ (xs : List α) (start count : Nat) :
    cyclicWindow xs start (count + 1) =
      cyclicWindow xs start count ++ (xs[(start + count) % xs.length]?).toList := rfl

/-- A list that agrees with the cycle place by place is a window of it. -/
theorem eq_cyclicWindow {xs ys : List α} {start : Nat}
    (agrees : ∀ place y, ys[place]? = some y → xs[(start + place) % xs.length]? = some y) :
    ys = cyclicWindow xs start ys.length := by
  induction ys using List.reverseRecOn with
  | nil => rfl
  | append_singleton ys y ih =>
      have last := agrees ys.length y List.getElem?_concat_length
      have earlier := ih fun place y' present => agrees place y' (by
        rw [List.getElem?_append_left (List.getElem?_eq_some_iff.mp present).1]
        exact present)
      rw [List.length_append, List.length_singleton, cyclicWindow_succ, last, ← earlier]
      rfl

/-- A window of at most one lap begins the rotated list. -/
theorem cyclicWindow_eq_take {xs : List α} {start count : Nat} (short : count ≤ xs.length) :
    cyclicWindow xs start count = (xs.rotate start).take count := by
  induction count with
  | zero => rfl
  | succ count ih =>
      have within : count < xs.length := short
      rw [cyclicWindow_succ, ih within.le, List.take_add_one, List.getElem?_rotate within,
        Nat.add_comm start count]

theorem cyclicWindow_add_lap (xs : List α) (start count : Nat) :
    cyclicWindow xs start (xs.length + count) =
      xs.rotate start ++ cyclicWindow xs start count := by
  induction count with
  | zero =>
      rw [Nat.add_zero, cyclicWindow_eq_take le_rfl, ← List.length_rotate xs start,
        List.take_length, cyclicWindow, List.append_nil]
  | succ count ih =>
      have place : (start + (xs.length + count)) % xs.length = (start + count) % xs.length := by
        rw [Nat.add_left_comm, Nat.add_mod_left]
      rw [← Nat.add_assoc, cyclicWindow_succ, ih, place, cyclicWindow_succ, List.append_assoc]

section Count

variable [DecidableEq α]

theorem count_cyclicWindow (xs : List α) (start laps : Nat) {rest : Nat}
    (short : rest ≤ xs.length) (a : α) :
    (cyclicWindow xs start (xs.length * laps + rest)).count a =
      laps * xs.count a + ((xs.rotate start).take rest).count a := by
  induction laps with
  | zero => rw [Nat.mul_zero, Nat.zero_add, Nat.zero_mul, Nat.zero_add, cyclicWindow_eq_take short]
  | succ laps ih =>
      have lap : xs.length * (laps + 1) + rest = xs.length + (xs.length * laps + rest) := by ring
      rw [lap, cyclicWindow_add_lap, List.count_append, ih,
        (List.rotate_perm xs start).count_eq]
      ring

/-- Over whole laps every element occurs once a lap. -/
theorem count_cyclicWindow_laps {xs : List α} (distinct : xs.Nodup) {a : α} (member : a ∈ xs)
    (start laps : Nat) : (cyclicWindow xs start (xs.length * laps)).count a = laps := by
  have counted := count_cyclicWindow xs start laps (Nat.zero_le _) a
  rwa [Nat.add_zero, List.take_zero, List.count_nil, Nat.add_zero,
    List.count_eq_one_of_mem distinct member, Nat.mul_one] at counted

/-- In every window two elements occur equally often, up to one occurrence. -/
theorem count_cyclicWindow_le {xs : List α} (distinct : xs.Nodup) {a b : α} (aMember : a ∈ xs)
    (bMember : b ∈ xs) (start count : Nat) :
    (cyclicWindow xs start count).count a ≤ (cyclicWindow xs start count).count b + 1 := by
  have rest : count % xs.length ≤ xs.length :=
    (Nat.mod_lt _ (List.length_pos_of_mem aMember)).le
  have aCount := count_cyclicWindow xs start (count / xs.length) rest a
  have bCount := count_cyclicWindow xs start (count / xs.length) rest b
  rw [Nat.div_add_mod, List.count_eq_one_of_mem distinct aMember] at aCount
  rw [Nat.div_add_mod, List.count_eq_one_of_mem distinct bMember] at bCount
  have once : ((xs.rotate start).take (count % xs.length)).count a ≤ 1 :=
    List.nodup_iff_count_le_one.mp
      ((List.nodup_rotate.mpr distinct).sublist (List.take_sublist _ _)) a
  omega

end Count
