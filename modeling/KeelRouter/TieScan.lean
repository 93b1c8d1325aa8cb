import Mathlib.Data.Finset.Max
import Mathlib.Data.List.Induction
import Mathlib.Order.Compare
import Mathlib.Order.Lattice

/-!
# Scans that collect the ties of the least score

A scan keeps the least score seen so far and the items that have it.  A
strictly smaller score clears the collected items, an equal score appends to
them, and anything else, an incomparable score included, leaves them alone.

When the scores are the images of the keys of a linear order and the scan
starts above all of them, or at the greatest one, the collected items are the
items with the least key, in their order.
-/

namespace TieScan

variable {Item Score Key : Type*}

def step (partialCmp : Score → Score → Option Ordering) (score : Item → Score)
    (state : Score × List Item) (item : Item) : Score × List Item :=
  match partialCmp (score item) state.1 with
  | some .lt => (score item, [item])
  | some .eq => (state.1, state.2 ++ [item])
  | _ => state

/-- The collected items are among the scanned ones, whatever their scores. -/
theorem mem_of_mem_scan {partialCmp : Score → Score → Option Ordering} {score : Item → Score}
    {items : List Item} {start : Score} {item : Item}
    (collected : item ∈ (items.foldl (step partialCmp score) (start, [])).2) : item ∈ items := by
  induction items using List.reverseRecOn with
  | nil => cases collected
  | append_singleton items last ih =>
      rw [List.foldl_append, List.foldl_cons, List.foldl_nil, step] at collected
      split at collected
      · exact List.mem_append_right _ collected
      · rcases List.mem_append.mp collected with earlier | new
        · exact List.mem_append_left _ (ih earlier)
        · exact List.mem_append_right _ new
      · exact List.mem_append_left _ (ih collected)

/-- A collected item's score compares with something. -/
theorem exists_compared_of_mem_scan {partialCmp : Score → Score → Option Ordering}
    {score : Item → Score} {items : List Item} {start : Score} {item : Item}
    (collected : item ∈ (items.foldl (step partialCmp score) (start, [])).2) :
    ∃ bound, partialCmp (score item) bound = some .lt ∨
      partialCmp (score item) bound = some .eq := by
  induction items using List.reverseRecOn with
  | nil => cases collected
  | append_singleton items last ih =>
      rw [List.foldl_append, List.foldl_cons, List.foldl_nil, step] at collected
      split at collected
      · rename_i less
        rw [List.mem_singleton.mp collected]
        exact ⟨_, .inl less⟩
      · rename_i same
        rcases List.mem_append.mp collected with earlier | new
        · exact ih earlier
        · rw [List.mem_singleton.mp new]
          exact ⟨_, .inr same⟩
      · exact ih collected

/-- The scan collects something exactly when some score does not lose against
the start, whatever the comparison. -/
theorem scan_eq_nil_iff {partialCmp : Score → Score → Option Ordering} {score : Item → Score}
    {items : List Item} {start : Score} :
    (items.foldl (step partialCmp score) (start, [])).2 = [] ↔
      ∀ item ∈ items, partialCmp (score item) start ≠ some .lt ∧
        partialCmp (score item) start ≠ some .eq := by
  have collected : ((items.foldl (step partialCmp score) (start, [])).2 = [] ↔
      ∀ item ∈ items, partialCmp (score item) start ≠ some .lt ∧
        partialCmp (score item) start ≠ some .eq) ∧
      ((items.foldl (step partialCmp score) (start, [])).2 = [] →
        (items.foldl (step partialCmp score) (start, [])).1 = start) := by
    induction items using List.reverseRecOn with
    | nil => simp
    | append_singleton items last ih =>
        obtain ⟨emptyIff, unmoved⟩ := ih
        rw [List.foldl_append, List.foldl_cons, List.foldl_nil]
        generalize items.foldl (step partialCmp score) (start, []) = state at emptyIff unmoved
        obtain ⟨least, ties⟩ := state
        simp only [List.forall_mem_append, List.forall_mem_singleton, ← emptyIff]
        by_cases empty : ties = []
        · obtain rfl : least = start := unmoved empty
          subst empty
          unfold step
          split <;> simp_all
        · unfold step
          split <;> simp_all
  exact collected.1

section Undercut

variable {partialCmp : Score → Score → Option Ordering} {score : Item → Score}
  (irrefl : ∀ first, partialCmp first first ≠ some .lt)
  (trans : ∀ first second third, partialCmp first second = some .lt →
    partialCmp second third = some .lt ∨ partialCmp second third = some .eq →
      partialCmp first third = some .lt)

/-- No scanned score is below the least one, and the collected ones equal it. -/
def Undercuts (partialCmp : Score → Score → Option Ordering) (score : Item → Score)
    (items : List Item) (state : Score × List Item) : Prop :=
  (∀ item ∈ items, partialCmp (score item) state.1 ≠ some .lt) ∧
    ∀ item ∈ state.2, score item = state.1 ∨ partialCmp (score item) state.1 = some .eq

include irrefl trans

theorem undercuts_step {items : List Item} {state : Score × List Item}
    (undercuts : Undercuts partialCmp score items state) (item : Item) :
    Undercuts partialCmp score (items ++ [item]) (step partialCmp score state item) := by
  obtain ⟨below, equal⟩ := undercuts
  unfold Undercuts step
  simp only [List.forall_mem_append, List.forall_mem_singleton]
  split
  · rename_i less
    refine ⟨⟨?_, irrefl _⟩, by simp⟩
    intro other member undercut
    exact below other member (trans _ _ _ undercut (.inl less))
  · rename_i same
    refine ⟨⟨below, by simp [same]⟩, ?_⟩
    intro other collected
    rcases List.mem_append.mp collected with earlier | last
    · exact equal other earlier
    · rw [List.mem_singleton.mp last]
      exact .inr same
  · rename_i notLess notEqual
    exact ⟨⟨below, notLess⟩, equal⟩

/-- A collected item has a score that none of the scanned ones is below, even
when some scores compare with nothing. -/
theorem not_lt_of_mem_scan {items : List Item} {start : Score} {item other : Item}
    (collected : item ∈ (items.foldl (step partialCmp score) (start, [])).2)
    (scanned : other ∈ items) : partialCmp (score other) (score item) ≠ some .lt := by
  have undercuts : Undercuts partialCmp score items
      (items.foldl (step partialCmp score) (start, [])) := by
    clear collected scanned
    induction items using List.reverseRecOn with
    | nil => simp [Undercuts]
    | append_singleton items last ih =>
        rw [List.foldl_append]
        exact undercuts_step irrefl trans ih last
  obtain ⟨below, equal⟩ := undercuts
  intro undercut
  rcases equal item collected with same | same
  · exact below other scanned (same ▸ undercut)
  · exact below other scanned (trans _ _ _ undercut (.inr same))

end Undercut

/-- An ordering that agrees with a linear order in its three cases. -/
theorem eq_compare [LinearOrder Key] {ordering : Ordering} {first second : Key}
    (less : first < second → ordering = .lt) (same : first = second → ordering = .eq)
    (greater : second < first → ordering = .gt) : ordering = compare first second := by
  rcases lt_trichotomy first second with below | equal | above
  · rw [less below, compare_lt_iff_lt.mpr below]
  · rw [same equal, compare_eq_iff_eq.mpr equal]
  · rw [greater above, compare_gt_iff_gt.mpr above]

/-- The items whose key no other item undercuts. -/
def minimal [LinearOrder Key] (key : Item → Key) (items : List Item) : List Item :=
  items.filter fun item => ∀ other ∈ items, key item ≤ key other

section Minimal

variable [LinearOrder Key] {key : Item → Key} {items : List Item}

theorem mem_minimal {item : Item} :
    item ∈ minimal key items ↔
      item ∈ items ∧ ∀ other ∈ items, key item ≤ key other := by
  simp [minimal]

theorem minimal_eq_filter_of_least {least : Key}
    (attained : ∃ item ∈ items, key item = least)
    (below : ∀ item ∈ items, least ≤ key item) :
    minimal key items = items.filter fun item => key item = least := by
  obtain ⟨witness, witnessMem, witnessKey⟩ := attained
  apply List.filter_congr
  intro item member
  have same : (∀ other ∈ items, key item ≤ key other) ↔ key item = least := by
    constructor
    · intro smallest
      exact le_antisymm (witnessKey ▸ smallest witness witnessMem) (below item member)
    · rintro rfl
      exact below
  simp only [same]

theorem minimal_ne_nil (nonempty : items ≠ []) : minimal key items ≠ [] := by
  have nonzero : (items : Multiset Item) ≠ 0 := by simpa using nonempty
  obtain ⟨item, member, least⟩ := Multiset.exists_min_image key nonzero
  exact List.ne_nil_of_mem (mem_minimal.mpr ⟨by simpa using member, by simpa using least⟩)

theorem minimal_congr {OtherKey : Type*} [LinearOrder OtherKey] {otherKey : Item → OtherKey}
    (alike : ∀ first ∈ items, ∀ second ∈ items,
      key first ≤ key second ↔ otherKey first ≤ otherKey second) :
    minimal key items = minimal otherKey items := by
  apply List.filter_congr
  intro item member
  have same : (∀ other ∈ items, key item ≤ key other) ↔
      ∀ other ∈ items, otherKey item ≤ otherKey other := by
    constructor
    · intro smallest other otherMem
      exact (alike item member other otherMem).mp (smallest other otherMem)
    · intro smallest other otherMem
      exact (alike item member other otherMem).mpr (smallest other otherMem)
  simp only [same]

end Minimal

section Scan

variable [LinearOrder Key] {partialCmp : Score → Score → Option Ordering}
  {score : Item → Score} {key : Item → Key} {embed : Key → Score} {top : Score}

/-- What the scan knows after a nonempty or empty list of items. -/
def Describes (key : Item → Key) (embed : Key → Score) (top : Score) (items : List Item)
    (state : Score × List Item) : Prop :=
  (items = [] ∧ state = (top, [])) ∨
    ∃ least, (∃ item ∈ items, key item = least) ∧ (∀ item ∈ items, least ≤ key item) ∧
      state = (embed least, items.filter fun item => key item = least)

theorem describes_step
    (ordered : ∀ first second,
      partialCmp (embed first) (embed second) = some (compare first second))
    (upToTop : ∀ first, partialCmp (embed first) top = some .lt ∨ embed first = top)
    {items : List Item} {state : Score × List Item}
    (described : Describes key embed top items state) {item : Item}
    (scored : score item = embed (key item)) :
    Describes key embed top (items ++ [item]) (step partialCmp score state item) := by
  rcases described with ⟨rfl, rfl⟩ | ⟨least, attained, below, rfl⟩
  · refine .inr ⟨key item, ⟨item, by simp, rfl⟩, by simp, ?_⟩
    rcases upToTop (key item) with below | same
    · simp [step, scored, below]
    · rw [← same]
      simp [step, scored, ordered]
  · obtain ⟨witness, witnessMem, witnessKey⟩ := attained
    simp only [step, scored, ordered]
    rcases lt_trichotomy (key item) least with less | same | greater
    · refine .inr ⟨key item, ⟨item, by simp, rfl⟩, ?_, ?_⟩
      · intro other otherMem
        rcases List.mem_append.mp otherMem with earlier | last
        · exact less.le.trans (below other earlier)
        · rw [List.mem_singleton.mp last]
      · have noneEqual : (items.filter fun other => key other = key item) = [] := by
          rw [List.filter_eq_nil_iff]
          intro other otherMem equal
          have bound := below other otherMem
          rw [of_decide_eq_true equal] at bound
          exact absurd less (not_lt.mpr bound)
        rw [compare_lt_iff_lt.mpr less]
        simp [List.filter_append, noneEqual]
    · refine .inr ⟨least, ⟨witness, by simp [witnessMem], witnessKey⟩, ?_, ?_⟩
      · intro other otherMem
        rcases List.mem_append.mp otherMem with earlier | last
        · exact below other earlier
        · rw [List.mem_singleton.mp last, same]
      · rw [compare_eq_iff_eq.mpr same]
        simp [List.filter_append, same]
    · refine .inr ⟨least, ⟨witness, by simp [witnessMem], witnessKey⟩, ?_, ?_⟩
      · intro other otherMem
        rcases List.mem_append.mp otherMem with earlier | last
        · exact below other earlier
        · rw [List.mem_singleton.mp last]
          exact greater.le
      · rw [compare_gt_iff_gt.mpr greater]
        simp [List.filter_append, greater.ne']

/-- The scan collects exactly the minimal items, in order. -/
theorem scan_eq_minimal
    (ordered : ∀ first second,
      partialCmp (embed first) (embed second) = some (compare first second))
    (upToTop : ∀ first, partialCmp (embed first) top = some .lt ∨ embed first = top)
    {items : List Item} (scored : ∀ item ∈ items, score item = embed (key item)) :
    (items.foldl (step partialCmp score) (top, [])).2 = minimal key items := by
  have described : Describes key embed top items
      (items.foldl (step partialCmp score) (top, [])) := by
    induction items using List.reverseRecOn with
    | nil => exact .inl ⟨rfl, rfl⟩
    | append_singleton items item ih =>
        rw [List.foldl_append]
        apply describes_step ordered upToTop
        · exact ih fun other member => scored other (by simp [member])
        · exact scored item (by simp)
  rcases described with ⟨rfl, reached⟩ | ⟨least, attained, below, reached⟩
  · rw [reached]
    rfl
  · rw [reached, minimal_eq_filter_of_least attained below]

end Scan

end TieScan
