import KeelRouter.Scrape
import Mathlib.Data.List.Chain
import Mathlib.Tactic.Linarith

/-!
# The windowed hit rate

The hit rate between two scrapes is the quotient of what the two counters have
grown by.  It is taken whenever the queries have grown, also when the backend
has been restarted in between and its counters began again at zero.  Then it is
a rate only if the new counters have overtaken the old ones in hits and in
misses.
-/

namespace KeelRouter

def prefixCacheHits : String := "vllm:prefix_cache_hits"

def prefixCacheQueries : String := "vllm:prefix_cache_queries"

/-- A successful scrape, with the counters that the backend had, and whether it
was restarted since the scrape before. -/
structure CounterScrape where
  now : Instant
  text : Text
  restarted : Bool
  hits : ℚ
  queries : ℚ

namespace CounterScrape

/-- Each counter is shown as it is, or missing. -/
structure Shows (scrape : CounterScrape) : Prop where
  hits : counterValue scrape.text prefixCacheHits = none ∨
    counterValue scrape.text prefixCacheHits = some (.finite scrape.hits)
  queries : counterValue scrape.text prefixCacheQueries = none ∨
    counterValue scrape.text prefixCacheQueries = some (.finite scrape.queries)
  nonneg : 0 ≤ scrape.hits
  le : scrape.hits ≤ scrape.queries

/-- Between restarts the counters only grow, the hits by no more than the
queries. -/
def Follows (earlier later : CounterScrape) : Prop :=
  later.restarted = false → earlier.hits ≤ later.hits ∧ earlier.queries ≤ later.queries ∧
    later.hits - earlier.hits ≤ later.queries - earlier.queries

/-- Both counters are shown. -/
def complete (scrape : CounterScrape) : Bool :=
  (counterValue scrape.text prefixCacheHits).isSome &&
    (counterValue scrape.text prefixCacheQueries).isSome

/-- The queries have not outgrown those of the scrape before, or both the hits
and the misses have overtaken theirs. -/
def Overtakes (earlier later : CounterScrape) : Prop :=
  earlier.complete = true → later.complete = true → later.restarted = true →
    later.queries ≤ earlier.queries ∨ earlier.hits ≤ later.hits ∧
      earlier.queries - earlier.hits ≤ later.queries - later.hits

end CounterScrape

/-- The hit rates along a sequence of scrapes. -/
def hitRates (prev : Option CounterSample) : List CounterScrape → List (Option ExactFloat)
  | [] => []
  | scrape :: scrapes =>
      let (load, newSample) := parseReported scrape.text scrape.now prev
      load.prefixHitRate :: hitRates (some newSample) scrapes

/-- A sequence of scrapes of one backend. -/
structure CounterHistory (scrapes : List CounterScrape) : Prop where
  shows : ∀ scrape ∈ scrapes, scrape.Shows
  follows : scrapes.IsChain CounterScrape.Follows

def InUnit (rates : List (Option ExactFloat)) : Prop :=
  ∀ rate, some rate ∈ rates → 0 ≤ rate ∧ rate ≤ 1

def sampleOf (scrape : CounterScrape) : CounterSample where
  prefixHits := counterValue scrape.text prefixCacheHits
  prefixQueries := counterValue scrape.text prefixCacheQueries

theorem hitRates_cons (prev : Option CounterSample) (scrape : CounterScrape)
    (scrapes : List CounterScrape) :
    hitRates prev (scrape :: scrapes) =
      hitRate prev (counterValue scrape.text prefixCacheHits)
          (counterValue scrape.text prefixCacheQueries) ::
        hitRates (some (sampleOf scrape)) scrapes := rfl

/-- The rate of a window that both scrapes show. -/
theorem hitRate_of_finite (prevHits prevQueries hits queries : ℚ) :
    hitRate (some ⟨some (.finite prevHits), some (.finite prevQueries)⟩) (some (.finite hits))
        (some (.finite queries)) =
      if prevQueries < queries then
        some (.finite ((hits - prevHits) / (queries - prevQueries)))
      else none := by
  have looked : hitRate (some ⟨some (.finite prevHits), some (.finite prevQueries)⟩)
      (some (.finite hits)) (some (.finite queries)) =
        if 0 < ExactFloat.finite queries - .finite prevQueries then
          some ((.finite hits - .finite prevHits) / (.finite queries - .finite prevQueries))
        else none := rfl
  rw [looked, ExactFloat.finite_sub, ExactFloat.finite_sub, ExactFloat.ofNat_eq]
  by_cases grown : prevQueries < queries
  · have positive : 0 < queries - prevQueries := sub_pos.mpr grown
    rw [if_pos ((ExactFloat.finite_lt_finite _ _).mpr (by simpa using positive)), if_pos grown,
      ExactFloat.finite_div positive.ne']
  · rw [if_neg grown, if_neg]
    rw [ExactFloat.finite_lt_finite]
    intro positive
    exact grown (sub_pos.mp (by simpa using positive))

theorem rate_mem_unit_iff {hits queries : ℚ} (positive : 0 < queries) :
    (∀ rate, some (ExactFloat.finite (hits / queries)) = some rate → 0 ≤ rate ∧ rate ≤ 1) ↔
      0 ≤ hits ∧ hits ≤ queries := by
  have inUnit : (0 ≤ hits / queries ∧ hits / queries ≤ 1) ↔ 0 ≤ hits ∧ hits ≤ queries := by
    rw [div_le_one positive, le_div_iff₀ positive, zero_mul]
  rw [← inUnit, ← ExactFloat.finite_le_finite, ← ExactFloat.finite_le_finite]
  constructor
  · intro inUnit
    exact inUnit _ rfl
  · rintro inUnit rate ⟨⟩
    exact inUnit

/-- Without both counters on both sides of a window there is no rate. -/
theorem hitRate_of_incomplete {earlier later : CounterScrape}
    (incomplete : ¬ (earlier.complete = true ∧ later.complete = true)) :
    hitRate (some (sampleOf earlier)) (counterValue later.text prefixCacheHits)
      (counterValue later.text prefixCacheQueries) = none := by
  unfold CounterScrape.complete at incomplete
  unfold hitRate sampleOf
  cases laterHits : counterValue later.text prefixCacheHits with
  | none => rfl
  | some curHits =>
      cases laterQueries : counterValue later.text prefixCacheQueries with
      | none => rfl
      | some curQueries =>
          cases shownHits : counterValue earlier.text prefixCacheHits with
          | none => rfl
          | some prevHits =>
              cases shownQueries : counterValue earlier.text prefixCacheQueries with
              | none => rfl
              | some prevQueries => simp [shownHits, shownQueries, laterHits, laterQueries] at incomplete

theorem counters_of_complete {scrape : CounterScrape} (shows : scrape.Shows)
    (complete : scrape.complete = true) :
    counterValue scrape.text prefixCacheHits = some (.finite scrape.hits) ∧
      counterValue scrape.text prefixCacheQueries = some (.finite scrape.queries) := by
  obtain ⟨hits, queries⟩ := Bool.and_eq_true_iff.mp complete
  refine ⟨shows.hits.resolve_left ?_, shows.queries.resolve_left ?_⟩
  · intro missing
    rw [missing] at hits
    cases hits
  · intro missing
    rw [missing] at queries
    cases queries

/-- The rate of one window. -/
theorem window_iff {earlier later : CounterScrape} (showsEarlier : earlier.Shows)
    (showsLater : later.Shows) (follows : earlier.Follows later) :
    (∀ rate, hitRate (some (sampleOf earlier)) (counterValue later.text prefixCacheHits)
        (counterValue later.text prefixCacheQueries) = some rate → 0 ≤ rate ∧ rate ≤ 1) ↔
      earlier.Overtakes later := by
  by_cases complete : earlier.complete = true ∧ later.complete = true
  · obtain ⟨completeEarlier, completeLater⟩ := complete
    obtain ⟨prevHits, prevQueries⟩ := counters_of_complete showsEarlier completeEarlier
    obtain ⟨hits, queries⟩ := counters_of_complete showsLater completeLater
    have sample : sampleOf earlier =
        ⟨some (.finite earlier.hits), some (.finite earlier.queries)⟩ := by
      rw [sampleOf, prevHits, prevQueries]
    have overtakes : earlier.Overtakes later ↔ (later.restarted = true →
        later.queries ≤ earlier.queries ∨ earlier.hits ≤ later.hits ∧
          earlier.queries - earlier.hits ≤ later.queries - later.hits) :=
      ⟨fun keeps => keeps completeEarlier completeLater, fun keeps _ _ => keeps⟩
    rw [sample, hits, queries, hitRate_of_finite, overtakes]
    by_cases grown : earlier.queries < later.queries
    · have positive : 0 < later.queries - earlier.queries := sub_pos.mpr grown
      rw [if_pos grown, rate_mem_unit_iff positive]
      constructor
      · rintro ⟨hitsGrown, missesGrown⟩ -
        exact .inr ⟨by linarith, by linarith⟩
      · intro keeps
        cases restart : later.restarted with
        | false =>
            obtain ⟨hitsGrown, -, missesGrown⟩ := follows restart
            exact ⟨by linarith, missesGrown⟩
        | true =>
            rcases keeps restart with behind | ⟨hitsGrown, missesGrown⟩
            · exact absurd grown (not_lt.mpr behind)
            · exact ⟨by linarith, by linarith⟩
    · rw [if_neg grown]
      refine iff_of_true ?_ fun _ => .inl (not_lt.mp grown)
      rintro rate ⟨⟩
  · rw [hitRate_of_incomplete complete]
    refine iff_of_true ?_ fun completeEarlier completeLater => ?_
    · rintro rate ⟨⟩
    · exact absurd ⟨completeEarlier, completeLater⟩ complete

theorem inUnit_cons (rate : Option ExactFloat) (rates : List (Option ExactFloat)) :
    InUnit (rate :: rates) ↔
      (∀ value, rate = some value → 0 ≤ value ∧ value ≤ 1) ∧ InUnit rates := by
  constructor
  · intro inUnit
    refine ⟨?_, fun value member => inUnit value (List.mem_cons_of_mem _ member)⟩
    rintro value rfl
    exact inUnit value List.mem_cons_self
  · rintro ⟨first, rest⟩ value member
    rcases List.mem_cons.mp member with same | later
    · exact first value same.symm
    · exact rest value later

/-- From a scrape on, every rate is in the unit interval exactly when every
window overtakes. -/
theorem inUnit_after_iff {earlier : CounterScrape} {scrapes : List CounterScrape}
    (history : CounterHistory (earlier :: scrapes)) :
    InUnit (hitRates (some (sampleOf earlier)) scrapes) ↔
      (earlier :: scrapes).IsChain CounterScrape.Overtakes := by
  induction scrapes generalizing earlier with
  | nil => exact iff_of_true (fun rate member => absurd member List.not_mem_nil) (.singleton _)
  | cons later scrapes ih =>
      obtain ⟨shows, follows⟩ := history
      obtain ⟨step, rest⟩ := List.isChain_cons_cons.mp follows
      have window := window_iff (shows earlier (by simp)) (shows later (by simp)) step
      have onward := ih ⟨fun other member => shows other (List.mem_cons_of_mem _ member), rest⟩
      rw [hitRates_cons, inUnit_cons, window, onward, List.isChain_cons_cons]

/-- Every hit rate is in the unit interval exactly when, at every restart, the
queries have not outgrown the old ones or hits and misses both have. -/
theorem hitRates_inUnit_iff {scrapes : List CounterScrape} (history : CounterHistory scrapes) :
    InUnit (hitRates none scrapes) ↔ scrapes.IsChain CounterScrape.Overtakes := by
  cases scrapes with
  | nil => exact iff_of_true (fun rate member => absurd member List.not_mem_nil) .nil
  | cons scrape scrapes =>
      have first : hitRate none (counterValue scrape.text prefixCacheHits)
          (counterValue scrape.text prefixCacheQueries) = none := rfl
      rw [hitRates_cons, inUnit_cons, first, inUnit_after_iff history]
      refine and_iff_right ?_
      rintro value ⟨⟩

/-! ## A restart that is overtaken by misses only -/

def coldScrape : CounterScrape where
  now := 0
  text := "vllm:prefix_cache_hits 0\nvllm:prefix_cache_queries 10\n".toList
  restarted := false
  hits := 0
  queries := 10

/-- The backend was restarted and has answered twenty queries from its cache. -/
def restartedScrape : CounterScrape where
  now := 5
  text := "vllm:prefix_cache_hits 20\nvllm:prefix_cache_queries 20\n".toList
  restarted := true
  hits := 20
  queries := 20

/-- Thirty queries after the restart, of which twenty were hits. -/
def overtakingScrape : CounterScrape where
  now := 5
  text := "vllm:prefix_cache_hits 20\nvllm:prefix_cache_queries 30\n".toList
  restarted := true
  hits := 20
  queries := 30

theorem shows_coldScrape : coldScrape.Shows :=
  ⟨.inr (by decide +kernel), .inr (by decide +kernel), by decide +kernel, by decide +kernel⟩

theorem hitRates_inUnit_overtaking : InUnit (hitRates none [coldScrape, overtakingScrape]) := by
  have history : CounterHistory [coldScrape, overtakingScrape] := by
    refine ⟨?_, List.isChain_pair.mpr fun running => nomatch running⟩
    intro scrape member
    rcases List.mem_pair.mp member with rfl | rfl
    · exact shows_coldScrape
    · exact ⟨.inr (by decide +kernel), .inr (by decide +kernel), by decide +kernel,
        by decide +kernel⟩
  refine (hitRates_inUnit_iff history).mpr (List.isChain_pair.mpr fun _ _ _ => .inr ?_)
  decide +kernel

/-- After a restart, twice as many hits as queries are reported. -/
theorem restarted_rate_is_two :
    CounterHistory [coldScrape, restartedScrape] ∧
      hitRates none [coldScrape, restartedScrape] = [none, some (.finite 2)] ∧
      ¬ InUnit (hitRates none [coldScrape, restartedScrape]) := by
  have rates : hitRates none [coldScrape, restartedScrape] = [none, some (.finite 2)] := by
    decide +kernel
  refine ⟨⟨?_, List.isChain_pair.mpr fun running => nomatch running⟩, rates, ?_⟩
  · intro scrape member
    rcases List.mem_pair.mp member with rfl | rfl
    · exact shows_coldScrape
    · exact ⟨.inr (by decide +kernel), .inr (by decide +kernel), by decide +kernel,
        by decide +kernel⟩
  · rw [rates]
    intro inUnit
    exact absurd (inUnit (.finite 2) (by simp)).2 (by decide +kernel)

end KeelRouter
