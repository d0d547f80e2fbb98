import SoftFail.Proofs.Check.Conditions
import SoftFail.Proofs.Detector.FirstFailure
import SoftFail.Proofs.Text.Substring

/-! A stricter configuration rescues no response: what fails under a configuration fails under every
stricter one, at the same check or at an earlier one. -/

namespace SoftFail

/-- Every option asks for at least as much as it does in `c`, and the ratio is the same. -/
structure Config.AtLeastAsStrict (c' c : Config) : Prop where
  minContentLength : c.minContentLength ≤ c'.minContentLength
  maxContentLength : ∀ max ∈ c.maxContentLength, ∃ max' ∈ c'.maxContentLength, max' ≤ max
  contentType : ∀ t ∈ c.contentType?, ∃ t' ∈ c'.contentType?,
    Text.lower t.toList <:+: Text.lower t'.toList
  requiredMarkers : ∀ m ∈ c.requiredMarkers, m ∈ c'.requiredMarkers
  itemCount : ∀ n ∈ c.itemCount?, ∃ n' ∈ c'.itemCount?, n ≤ n'
  checkLazyLoading : c.checkLazyLoading = true → c'.checkLazyLoading = true
  checkPagination : c.checkPagination = true → c'.checkPagination = true
  checkNoscript : c.checkNoscript = true → c'.checkNoscript = true
  checkStructuredData : c.checkStructuredData = true → c'.checkStructuredData = true
  checkJsRendering : c.checkJsRendering = true → c'.checkJsRendering = true
  minTextRatio : (c'.minTextRatio == c.minTextRatio) = true
  expectedPatterns : ∀ p ∈ c.expectedPatterns, ∃ p' ∈ c'.expectedPatterns,
    p'.expression = p.expression ∧ p.minCount ≤ p'.minCount

variable {c c' : Config}

theorem Config.AtLeastAsStrict.isEnabled (hs : c'.AtLeastAsStrict c) {k : Check}
    (hk : Check.isEnabled c k = true) : Check.isEnabled c' k = true := by
  cases k with
  | status | suspiciousStatus | protectionHeaders | redirects | decode | contentLength
  | botKeywords => rfl
  | contentType =>
    obtain ⟨t, ht⟩ := Option.isSome_iff_exists.1 hk
    obtain ⟨t', ht', _⟩ := hs.contentType t ht
    exact Option.isSome_iff_exists.2 ⟨t', ht'⟩
  | itemCount =>
    obtain ⟨n, hn⟩ := Option.isSome_iff_exists.1 hk
    obtain ⟨n', hn', _⟩ := hs.itemCount n hn
    exact Option.isSome_iff_exists.2 ⟨n', hn'⟩
  | requiredMarkers =>
    simp only [Check.isEnabled, Bool.not_eq_true', List.isEmpty_eq_false_iff_exists_mem] at hk ⊢
    exact hk.imp hs.requiredMarkers
  | expectedPatterns =>
    simp only [Check.isEnabled, Bool.not_eq_true', List.isEmpty_eq_false_iff_exists_mem] at hk ⊢
    obtain ⟨p, hp⟩ := hk
    obtain ⟨p', hp', _⟩ := hs.expectedPatterns p hp
    exact ⟨p', hp'⟩
  | lazyLoading => exact hs.checkLazyLoading hk
  | pagination => exact hs.checkPagination hk
  | noscript => exact hs.checkNoscript hk
  | structuredData => exact hs.checkStructuredData hk
  | jsPlaceholders | contentDensity | embeddedData => exact hs.checkJsRendering hk

theorem Check.patternComplaint_mono {p p' : Pattern} {body : List Char}
    (h : patternComplaint p' body = none) (hregex : p'.regex = p.regex)
    (hmin : p.minCount ≤ p'.minCount) : patternComplaint p body = none := by
  have hvalues : p'.values body = p.values body := by rw [Pattern.values, hregex, Pattern.values]
  rw [patternComplaint_eq_none_iff, hvalues] at h
  rw [patternComplaint_eq_none_iff]
  exact ⟨hmin.trans h.1, fun hsample => (uniformComplaint_congr_name _ _ _).1 (h.2 hsample)⟩

theorem Check.patternsComplaint_mono {ps ps' : List Pattern} {body : List Char}
    (hs : c'.AtLeastAsStrict c) (hps : Pattern.compileAll c.expectedPatterns = .ok ps)
    (hps' : Pattern.compileAll c'.expectedPatterns = .ok ps')
    (h : patternsComplaint ps' body = none) : patternsComplaint ps body = none := by
  rw [patternsComplaint_eq_none_iff] at h ⊢
  intro p hp
  obtain ⟨e, he, hexpr, hcompile⟩ := (Pattern.mem_compileAll_iff hps).1 hp
  obtain ⟨regex, hregex, rfl⟩ := Pattern.compile_eq_ok_iff.1 hcompile
  obtain ⟨e', he', hsame, hmin⟩ := hs.expectedPatterns e he
  have hp' : ⟨e'.name, regex, e'.minCount⟩ ∈ ps' :=
    (Pattern.mem_compileAll_iff hps').2 ⟨e', he', hsame ▸ hexpr,
      Pattern.compile_eq_ok_iff.2 ⟨regex, hsame ▸ hregex, rfl⟩⟩
  exact patternComplaint_mono (h _ hp') rfl hmin

/-- What passes a check under a stricter configuration passes it under the other one. -/
theorem Config.AtLeastAsStrict.complaint? {ps ps' : List Pattern} (hs : c'.AtLeastAsStrict c)
    (hps : Pattern.compileAll c.expectedPatterns = .ok ps)
    (hps' : Pattern.compileAll c'.expectedPatterns = .ok ps') {k : Check} {s : Snapshot}
    (h : k.complaint? ⟨s, c', ps'⟩ = none) : k.complaint? ⟨s, c, ps⟩ = none := by
  cases k with
  | contentType =>
    rw [Check.complaint?, Check.contentTypeComplaint_eq_none_iff] at h ⊢
    intro t ht
    obtain ⟨t', ht', hinfix⟩ := hs.contentType t ht
    exact Text.contains_trans hinfix (h t' ht')
  | contentLength =>
    rw [Check.complaint?, Check.contentLengthComplaint_eq_none_iff] at h ⊢
    refine ⟨h.1, hs.minContentLength.trans h.2.1, fun max hmax => ?_⟩
    obtain ⟨max', hmax', hle⟩ := hs.maxContentLength max hmax
    exact (h.2.2 max' hmax').trans hle
  | requiredMarkers =>
    rw [Check.complaint?, Check.markerComplaint_eq_none_iff] at h ⊢
    exact fun m hm => h m (hs.requiredMarkers m hm)
  | itemCount =>
    rw [Check.complaint?, Check.itemComplaint_eq_none_iff] at h ⊢
    intro n hn
    obtain ⟨n', hn', hle⟩ := hs.itemCount n hn
    exact hle.trans (h n' hn')
  | expectedPatterns => exact Check.patternsComplaint_mono hs hps hps' h
  | contentDensity =>
    rw [Check.complaint?, ← Check.densityComplaint_congr hs.minTextRatio]
    exact h
  -- The other checks read no option, so that both configurations ask them the same.
  | status | suspiciousStatus | protectionHeaders | redirects | decode | botKeywords | lazyLoading
  | pagination | noscript | structuredData | jsPlaceholders | embeddedData => exact h

namespace Detector

variable {d d' : Detector}

theorem mem_plan_iff (h : ofConfig c = .ok d) {k : Check} :
    k ∈ d.plan ↔ Check.isEnabled c k = true := by
  obtain ⟨_, patterns, _, rfl⟩ := ofConfig_eq_ok_iff.1 h
  simp [Check.mem_all]

theorem run_passed_of_stricter (h : ofConfig c = .ok d) (h' : ofConfig c' = .ok d')
    (hs : c'.AtLeastAsStrict c) {k : Check} {s : Snapshot} (hk : (d'.run k s).passed = true) :
    (d.run k s).passed = true := by
  obtain ⟨_, ps, hps, rfl⟩ := ofConfig_eq_ok_iff.1 h
  obtain ⟨_, ps', hps', rfl⟩ := ofConfig_eq_ok_iff.1 h'
  exact (k.passed_run_iff _).2 (hs.complaint? hps hps' ((k.passed_run_iff _).1 hk))

/-- Tightening a configuration rescues no response, and moves its failure to no later check. -/
theorem evaluate_of_stricter (h : ofConfig c = .ok d) (h' : ofConfig c' = .ok d')
    (hs : c'.AtLeastAsStrict c) (s : Snapshot) :
    (∀ k category reason, d.evaluate s = .invalid k category reason →
      ∃ k' category' reason', d'.evaluate s = .invalid k' category' reason' ∧
        k'.index ≤ k.index) ∧
      (d'.evaluate s = .valid → d.evaluate s = .valid) := by
  constructor
  · intro k category reason hv
    have hfirst := ((judge_eq_invalid_iff (plan_ascending h [])).1 hv).1
    have hplanned : k ∈ d'.plan :=
      (mem_plan_iff h').2 (hs.isEnabled ((mem_plan_iff h).1 hfirst.listed))
    have hfailed : (d'.run k s).passed = false := by
      rw [Bool.eq_false_iff]
      intro hpass
      have hpass := run_passed_of_stricter h h' hs hpass
      rw [hfirst.failed] at hpass
      cases hpass
    exact exists_evaluate_eq_invalid (plan_ascending h' []) hplanned hfailed
  · intro hv
    refine (judge_eq_valid_iff d s d.plan).2 fun k hk => run_passed_of_stricter h h' hs ?_
    have hplanned : k ∈ d'.plan := (mem_plan_iff h').2 (hs.isEnabled ((mem_plan_iff h).1 hk))
    exact (judge_eq_valid_iff d' s d'.plan).1 hv k hplanned

/-- A page too short for the defaults has the wrong type under options that ask for more of it. -/
theorem evaluate_of_stricter_page :
    ∃ d d', ofConfig {} = .ok d ∧
      ofConfig { minContentLength := 600, expectedContentType := some "Text/HTML; char" } = .ok d' ∧
      d.evaluate ((Snapshot.ofText 200 "sold out").withHeader "Content-Type" "text/html") =
        .invalid .contentLength .structural "Content too small: 8 bytes (min: 500)" ∧
      ∃ k' category' reason', d'.evaluate
        ((Snapshot.ofText 200 "sold out").withHeader "Content-Type" "text/html") =
          .invalid k' category' reason' ∧ k'.index ≤ Check.contentLength.index := by
  have h : ofConfig {} = .ok _ := ofConfig_eq_ok_iff.2 ⟨rfl, [], rfl, rfl⟩
  have h' :
      ofConfig { minContentLength := 600, expectedContentType := some "Text/HTML; char" } = .ok _ :=
    ofConfig_eq_ok_iff.2 ⟨rfl, [], rfl, rfl⟩
  have hs : Config.AtLeastAsStrict
      { minContentLength := 600, expectedContentType := some "Text/HTML; char" } {} := by
    constructor <;> try simp
    · rintro t ⟨⟩
      exact ⟨_, rfl, by decide⟩
    · rintro n ⟨⟩
    · decide
  refine ⟨_, _, h, h', ?_, (evaluate_of_stricter h h' hs _).1 _ .structural
    "Content too small: 8 bytes (min: 500)" ?_⟩
  all_goals decide +kernel

end Detector

end SoftFail
