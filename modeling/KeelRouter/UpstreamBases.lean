import KeelRouter.ConfigRanking
import KeelRouter.Upstream

/-!
# Upstream bases

Backends with equal urls are rejected, and urls are compared as they stand.
Requests and scrapes go to the url without its trailing slashes, so two urls
that differ by trailing slashes alone name one engine.
-/

namespace KeelRouter

/-! ## Trailing padding -/

section Padding

variable {α : Type} [DecidableEq α]

theorem rdropWhile_append_replicate (pad : α) (text : List α) (count : Nat) :
    (text ++ List.replicate count pad).rdropWhile (fun a => a = pad) =
      text.rdropWhile fun a => a = pad := by
  induction count with
  | zero => rw [List.replicate_zero, List.append_nil]
  | succ count ih =>
      rw [List.replicate_succ', ← List.append_assoc, List.rdropWhile_concat_pos _ _ _ (by simp), ih]

/-- Every text is its part without padding, followed by padding. -/
theorem exists_eq_rdropWhile_append (pad : α) (text : List α) :
    ∃ count, text = (text.rdropWhile fun a => a = pad) ++ List.replicate count pad := by
  refine ⟨(text.rtakeWhile fun a => a = pad).length, ?_⟩
  have padding : (text.rtakeWhile fun a => a = pad) =
      List.replicate (text.rtakeWhile fun a => a = pad).length pad := by
    apply List.eq_replicate_length.mpr
    intro a member
    simpa using List.mem_rtakeWhile_imp member
  rw [← padding, List.rdropWhile_append_rtakeWhile]

theorem rdropWhile_eq_iff (pad : α) (first second : List α) :
    (first.rdropWhile fun a => a = pad) = (second.rdropWhile fun a => a = pad) ↔
      (∃ count, second = first ++ List.replicate count pad) ∨
        ∃ count, first = second ++ List.replicate count pad := by
  constructor
  · intro same
    obtain ⟨before, firstEq⟩ := exists_eq_rdropWhile_append pad first
    obtain ⟨after, secondEq⟩ := exists_eq_rdropWhile_append pad second
    rw [← same] at secondEq
    rcases le_total before after with fewer | fewer
    · left
      refine ⟨after - before, ?_⟩
      rw [secondEq]
      nth_rewrite 2 [firstEq]
      rw [List.append_assoc, List.replicate_append_replicate, Nat.add_sub_cancel' fewer]
    · right
      refine ⟨before - after, ?_⟩
      rw [secondEq, List.append_assoc, List.replicate_append_replicate,
        Nat.add_sub_cancel' fewer]
      exact firstEq
  · rintro (⟨count, rfl⟩ | ⟨count, rfl⟩)
    · exact (rdropWhile_append_replicate pad first count).symm
    · exact rdropWhile_append_replicate pad second count

end Padding

def slashes (count : Nat) : String := String.ofList (List.replicate count '/')

/-- The second url is the first one with slashes added at its end. -/
def AddsSlashes (url longer : String) : Prop :=
  ∃ count, longer = url ++ slashes (count + 1)

theorem AddsSlashes.ne {url longer : String} (adds : AddsSlashes url longer) : url ≠ longer := by
  obtain ⟨count, rfl⟩ := adds
  intro same
  have lengths := congrArg (fun text : String => text.toList.length) same
  simp [slashes] at lengths

theorem toList_append_slashes (url : String) (count : Nat) :
    (url ++ slashes count).toList = url.toList ++ List.replicate count '/' := by
  rw [String.toList_append, slashes, String.toList_ofList]

theorem append_slashes_iff {url longer : String} (differ : url ≠ longer) :
    (∃ count, longer.toList = url.toList ++ List.replicate count '/') ↔
      AddsSlashes url longer := by
  constructor
  · rintro ⟨count, added⟩
    rw [← toList_append_slashes] at added
    have longerEq := String.toList_injective added
    cases count with
    | zero =>
        have unchanged : url ++ slashes 0 = url := by
          apply String.toList_injective
          rw [toList_append_slashes, List.replicate_zero, List.append_nil]
        rw [unchanged] at longerEq
        exact absurd longerEq.symm differ
    | succ count => exact ⟨count, longerEq⟩
  · rintro ⟨count, rfl⟩
    exact ⟨count + 1, toList_append_slashes url (count + 1)⟩

/-- Different urls have the same base exactly when one of them is the other with
slashes added. -/
theorem trimEndSlashes_eq_iff {first second : String} (differ : first ≠ second) :
    trimEndSlashes first = trimEndSlashes second ↔
      AddsSlashes first second ∨ AddsSlashes second first := by
  have asLists : trimEndSlashes first = trimEndSlashes second ↔
      (first.toList.rdropWhile fun char => char = '/') =
        second.toList.rdropWhile fun char => char = '/' := String.ofList_inj
  rw [asLists, rdropWhile_eq_iff, append_slashes_iff differ, append_slashes_iff differ.symm]

/-! ## Where a backend is reached -/

/-- The `metrics_url` of `collect_loop`. -/
def metricsUrl (uri : String) : String := trimEndSlashes uri ++ "/metrics"

/-- The library makes different URIs of different texts, and different requests
of different URIs. -/
structure HttpLibrary.KeepsApart (http : HttpLibrary) : Prop where
  parseUri : ∀ {first second uri : String},
    http.parseUri first = .ok uri → http.parseUri second = .ok uri → first = second
  build : ∀ {first second request : UpstreamRequest},
    http.build first = .ok request → http.build second = .ok request → first.uri = second.uri

theorem HttpLibrary.keepsApart_accepting : HttpLibrary.accepting.KeepsApart where
  parseUri parsed same := Except.ok.inj (parsed.trans same.symm)
  build built same := congrArg UpstreamRequest.uri (Except.ok.inj (built.trans same.symm))

/-- Nothing meant for one url is sent where the other one's traffic goes. -/
structure SendsApart (first second : String) : Prop where
  base : trimEndSlashes first ≠ trimEndSlashes second
  scrape : metricsUrl first ≠ metricsUrl second
  request : ∀ http : HttpLibrary, http.KeepsApart → ∀ parts body request,
    rebuildRequest http parts body first = .ok request →
      rebuildRequest http parts body second ≠ .ok request

theorem sendsApart_iff (first second : String) :
    SendsApart first second ↔ trimEndSlashes first ≠ trimEndSlashes second := by
  constructor
  · exact SendsApart.base
  · intro base
    have apart (tail : String) :
        trimEndSlashes first ++ tail ≠ trimEndSlashes second ++ tail := by
      intro same
      have texts := congrArg String.toList same
      rw [String.toList_append, String.toList_append] at texts
      exact base (String.toList_injective (List.append_cancel_right texts))
    refine ⟨base, apart _, ?_⟩
    intro http keeps parts body request firstBuilt secondBuilt
    obtain ⟨firstUri, firstParsed, fromFirst⟩ := rebuildRequest_eq_ok firstBuilt
    obtain ⟨secondUri, secondParsed, fromSecond⟩ := rebuildRequest_eq_ok secondBuilt
    have sameUri : firstUri = secondUri := keeps.build fromFirst fromSecond
    rw [← sameUri] at secondParsed
    exact apart _ (keeps.parseUri firstParsed secondParsed)

/-! ## Accepted configurations -/

theorem distinct_of_validateBackends {backends : List RawBackend} {seen : List String}
    (valid : validateBackends seen backends = .ok ()) :
    (∀ b ∈ backends, b.url ∉ seen) ∧ backends.Pairwise fun b c => b.url ≠ c.url := by
  induction backends generalizing seen with
  | nil => simp
  | cons b backends ih =>
      obtain ⟨-, -, unseen, rest⟩ := validateBackends_cons.mp valid
      obtain ⟨later, distinct⟩ := ih rest
      constructor
      · intro c member
        rcases List.mem_cons.mp member with rfl | listed
        · exact unseen
        · exact fun earlier => later c listed (List.mem_cons_of_mem _ earlier)
      · refine List.pairwise_cons.mpr ⟨?_, distinct⟩
        intro c listed same
        exact later c listed (same ▸ List.mem_cons_self)

/-- The backends of an accepted configuration are reached at different bases
exactly when no url is another one with slashes added. -/
theorem accepted_sends_apart_iff {raw : RawConfig} {config : Config}
    (accepted : raw.validate = .ok config) :
    (config.backends.Pairwise fun b c => SendsApart b.url c.url) ↔
      ∀ b ∈ config.backends, ∀ c ∈ config.backends, ¬ AddsSlashes b.url c.url := by
  obtain ⟨checked, rfl⟩ := RawConfig.validate_eq_ok_iff.mp accepted
  obtain ⟨-, distinct⟩ := distinct_of_validateBackends checked.backends
  constructor
  · intro apart b bListed c cListed adds
    have symmetric : Std.Symm fun b c : RawBackend => SendsApart b.url c.url := by
      refine ⟨fun b c apart => ?_⟩
      exact (sendsApart_iff _ _).mpr ((sendsApart_iff _ _).mp apart).symm
    have bases := apart.forall bListed cListed fun same => adds.ne (congrArg _ same)
    exact bases.base ((trimEndSlashes_eq_iff adds.ne).mpr (.inl adds))
  · intro none
    refine distinct.imp_of_mem ?_
    intro b c bListed cListed differ
    rw [sendsApart_iff]
    intro same
    rcases (trimEndSlashes_eq_iff differ).mp same with adds | adds
    · exact none b bListed c cListed adds
    · exact none c cListed b bListed adds

theorem accepted_sends_apart_two :
    HttpLibrary.accepting.KeepsApart ∧
      (twoBackends defaultPenalty).toConfig.backends.Pairwise fun b c =>
        SendsApart b.url c.url := by
  refine ⟨HttpLibrary.keepsApart_accepting,
    (accepted_sends_apart_iff (twoBackends_accepted defaultPenalty)).mpr ?_⟩
  have bases : ∀ b ∈ (twoBackends defaultPenalty).toConfig.backends,
      ∀ c ∈ (twoBackends defaultPenalty).toConfig.backends,
        b.url.toList.length = c.url.toList.length := by decide
  intro b bListed c cListed ⟨count, added⟩
  have lengths := bases b bListed c cListed
  rw [added, toList_append_slashes] at lengths
  simp at lengths

/-- One engine under two urls. -/
def slashedBackends : RawConfig :=
  { twoBackends defaultPenalty with
    backends := [⟨"http://a", "m", 8192, 10, defaultWeight⟩,
      ⟨"http://a/", "m", 8192, 10, defaultWeight⟩] }

theorem slashed_backends_share :
    slashedBackends.validate = .ok slashedBackends.toConfig ∧
      ¬ slashedBackends.toConfig.backends.Pairwise fun b c => SendsApart b.url c.url := by
  constructor
  · exact RawConfig.validate_eq_ok_iff.mpr
      ⟨RawConfig.checked_of_defaults _ defaultPenalty (by simp) (by decide +kernel), rfl⟩
  · intro apart
    have bases := (List.pairwise_cons.mp apart).1 _ List.mem_cons_self
    exact bases.base (by decide)

end KeelRouter
