import Mathlib.Data.List.Forall2
import SoftFail.Proofs.Check.LetterCase
import SoftFail.Proofs.Detector.FirstFailure
import SoftFail.Proofs.Headers.Lookup

/-! Letter case and verdicts: snapshots that differ in letter case only, in their headers and in
their bodies, fail the same check. -/

namespace SoftFail

def SameButCase (s t : String) : Prop := Text.lowerCase s = Text.lowerCase t

instance (s t : String) : Decidable (SameButCase s t) :=
  inferInstanceAs (Decidable (Text.lowerCase s = Text.lowerCase t))

/-- Two responses alike but for the letter case in the headers that were given and in the text. -/
structure Snapshot.SameButCase (s t : Snapshot) : Prop where
  status : s.status = t.status
  redirects : s.redirects = t.redirects
  headers : ∃ given given', s.headers = .ofList given ∧ t.headers = .ofList given' ∧
    given.Forall₂ (fun p q => SoftFail.SameButCase p.1 q.1 ∧ SoftFail.SameButCase p.2 q.2) given'
  body : ∃ text text', s.body = .text text ∧ t.body = .text text' ∧
    SoftFail.SameButCase text text'

namespace Headers

theorem lowerCase_get?_ofList {given given' : List (String × String)}
    (h : given.Forall₂ (fun p q => SameButCase p.1 q.1 ∧ SameButCase p.2 q.2) given')
    (name : String) : ((ofList given).get? name).map Text.lowerCase =
      ((ofList given').get? name).map Text.lowerCase := by
  rw [get?_ofList, get?_ofList]
  induction h with
  | nil => rfl
  | @cons p q _ _ hpq _ ih =>
    obtain ⟨hname, hvalue⟩ := hpq
    rw [List.find?_cons, List.find?_cons, hname]
    split
    · exact congrArg some hvalue
    · exact ih

end Headers

namespace Check

variable {s t : Snapshot}

theorem contentTypeComplaint_congr
    (h : (s.headers.get? "content-type").map Text.lowerCase =
      (t.headers.get? "content-type").map Text.lowerCase) (expected? : Option String) :
    contentTypeComplaint expected? s = none ↔ contentTypeComplaint expected? t = none := by
  have hactual : SameButCase ((s.headers.get? "content-type").getD "")
      ((t.headers.get? "content-type").getD "") := by
    rw [SameButCase, ← Option.getD_map Text.lowerCase, h, Option.getD_map]
  cases expected? with
  | none => rfl
  | some expected => simp [contentTypeComplaint, Text.lower_toList_congr hactual]

theorem headerComplaint_congr {h h' : Headers} {name : String}
    (hget : (h.get? name).map Text.lowerCase = (h'.get? name).map Text.lowerCase) (sign : Sign) :
    headerComplaint h name sign = none ↔ headerComplaint h' name sign = none := by
  unfold headerComplaint
  cases hv : h.get? name with
  | none =>
    rw [hv] at hget
    rw [Option.map_eq_none_iff.1 hget.symm]
  | some value =>
    rw [hv] at hget
    obtain ⟨value', hv', hsame⟩ := Option.map_eq_some_iff.1 hget.symm
    have hempty : value = "" ↔ value' = "" := by
      rw [← String.utf8ByteSize_eq_zero_iff, ← String.utf8ByteSize_eq_zero_iff,
        Text.utf8ByteSize_congr hsame]
    have hreading : sign.reading? value = sign.reading? value' := by
      cases sign with
      | present system => rfl
      | anyOf parts => simp only [Sign.reading?, Text.lower_toList_congr hsame]
    simp only [hv', hempty, hreading]

theorem protectionComplaint_congr {h h' : Headers}
    (hget : ∀ name, (h.get? name).map Text.lowerCase = (h'.get? name).map Text.lowerCase) :
    protectionComplaint h = none ↔ protectionComplaint h' = none := by
  simp only [protectionComplaint, List.findSome?_eq_none_iff]
  exact forall₂_congr fun sign _ => headerComplaint_congr (hget sign.1) sign.2

theorem complaint_congr_lower {complaint : List Char → Option Complaint} {a b : List Char}
    (hlower : ∀ body, complaint (Text.lower body) = none ↔ complaint body = none)
    (hab : Text.lower a = Text.lower b) : complaint a = none ↔ complaint b = none := by
  rw [← hlower a, hab, hlower b]

theorem complaint_eq_of_lower {complaint : List Char → Option Complaint} {a b : List Char}
    (hlower : ∀ body, complaint (Text.lower body) = complaint body)
    (hab : Text.lower a = Text.lower b) : complaint a = none ↔ complaint b = none :=
  complaint_congr_lower (fun body => by rw [hlower body]) hab

/-- All checks but three of the body have a complaint about both responses or about neither. -/
theorem complaint?_congr (h : s.SameButCase t) {c : Check}
    (hc : c ∉ [requiredMarkers, expectedPatterns, structuredData]) (config : Config)
    (patterns : List Pattern) :
    c.complaint? ⟨s, config, patterns⟩ = none ↔ c.complaint? ⟨t, config, patterns⟩ = none := by
  obtain ⟨given, given', hs, ht, hgiven⟩ := h.headers
  have hget (name : String) : (s.headers.get? name).map Text.lowerCase =
      (t.headers.get? name).map Text.lowerCase := by
    rw [hs, ht, Headers.lowerCase_get?_ofList hgiven]
  obtain ⟨text, text', htext, htext', hsame⟩ := h.body
  have hbody : Text.lower (Subject.body ⟨s, config, patterns⟩) =
      Text.lower (Subject.body ⟨t, config, patterns⟩) := by
    simpa [Subject.body, Snapshot.text?, Body.text?, htext, htext'] using
      Text.lower_toList_congr hsame
  -- Every other check reads headers and body up to letter case, or does not read them at all.
  cases c with
  | requiredMarkers | expectedPatterns | structuredData => simp at hc
  | status =>
    have hsuccess : s.isSuccess = t.isSuccess := by
      simp only [Snapshot.isSuccess, h.status]
    simp only [complaint?, statusComplaint, hsuccess]
    cases t.isSuccess <;> simp
  | suspiciousStatus => simp only [complaint?, suspiciousStatusComplaint, h.status]
  | protectionHeaders => exact protectionComplaint_congr hget
  | contentType => exact contentTypeComplaint_congr (hget "content-type") _
  | redirects => simp only [complaint?, h.redirects]
  | decode => simp only [complaint?, htext, htext', decodeComplaint]
  | contentLength =>
    have hlength : s.contentLength = t.contentLength := by
      simp [Snapshot.contentLength, Snapshot.text?, Body.text?, htext, htext',
        Text.utf8ByteSize_congr hsame]
    simp only [complaint?, hlength]
  | botKeywords => exact complaint_congr_lower keywordComplaint_lower hbody
  | lazyLoading => exact complaint_eq_of_lower lazyComplaint_lower hbody
  | pagination => exact complaint_congr_lower paginationComplaint_lower hbody
  | itemCount => exact complaint_eq_of_lower (itemComplaint_lower _) hbody
  | noscript => exact complaint_eq_of_lower noscriptComplaint_lower hbody
  | jsPlaceholders => exact complaint_eq_of_lower placeholderComplaint_lower hbody
  | contentDensity => exact complaint_eq_of_lower (densityComplaint_lower _) hbody
  | embeddedData => exact complaint_eq_of_lower embeddedDataComplaint_lower hbody

theorem passed_run_congr (h : s.SameButCase t) {c : Check}
    (hc : c ∉ [requiredMarkers, expectedPatterns, structuredData]) (config : Config)
    (patterns : List Pattern) :
    (c.run ⟨s, config, patterns⟩).passed = (c.run ⟨t, config, patterns⟩).passed := by
  rw [Bool.eq_iff_iff, passed_run_iff, passed_run_iff]
  exact complaint?_congr h hc config patterns

end Check

namespace Detector

theorem judge_congr {d : Detector} {s t : Snapshot} {cs : List Check}
    (h : ∀ c ∈ cs, (d.run c s).passed = (d.run c t).passed) :
    (d.judge s cs).check? = (d.judge t cs).check? ∧
      (d.judge s cs).category? = (d.judge t cs).category? := by
  induction cs with
  | nil => exact ⟨rfl, rfl⟩
  | cons c cs ih =>
    obtain ⟨hc, hcs⟩ := List.forall_mem_cons.1 h
    have hnone : (d.run c s).failure? = none ↔ (d.run c t).failure? = none := by
      rw [(d.consistent_run c s).failure?_eq_none_iff, (d.consistent_run c t).failure?_eq_none_iff,
        hc]
    rw [judge, judge]
    cases hs : (d.run c s).failure? with
    | none =>
      rw [hnone.1 hs]
      exact ih hcs
    -- The reasons may differ, as they quote what was found.
    | some reason =>
      cases ht : (d.run c t).failure? with
      | none =>
        rw [hnone.2 ht] at hs
        cases hs
      | some reason' => exact ⟨rfl, rfl⟩

/-- The verdict does not depend on letter case where no check does that minds it. -/
theorem evaluate_sameButCase {s t : Snapshot} (h : s.SameButCase t) :
    (∀ config patterns, ∀ c ∉ [Check.requiredMarkers, .expectedPatterns, .structuredData],
      (c.run ⟨s, config, patterns⟩).passed = (c.run ⟨t, config, patterns⟩).passed) ∧
    ∀ d : Detector,
      (∀ c ∈ d.plan, c ∉ [Check.requiredMarkers, .expectedPatterns, .structuredData]) →
        (d.evaluate s).check? = (d.evaluate t).check? ∧
          (d.evaluate s).category? = (d.evaluate t).category? := by
  constructor
  · intro config patterns c hc
    exact Check.passed_run_congr h hc config patterns
  · intro d hplan
    exact judge_congr fun c hc => Check.passed_run_congr h (hplan c hc) d.config d.patterns

/-- A page of refusal in two spellings, judged without the checks of its data and its length. -/
theorem evaluate_sameButCase_refusal :
    ∃ d, ofConfig {} = .ok d ∧
      (((d.withoutAll [.structuredData, .contentLength]).evaluate
          ⟨200, .ofList [("content-type", "text/html")], [], .text "<p>Access denied"⟩).check? =
        ((d.withoutAll [.structuredData, .contentLength]).evaluate
          ⟨200, .ofList [("Content-Type", "Text/HTML")], [], .text "<P>ACCESS Denied"⟩).check?) ∧
      ((d.withoutAll [.structuredData, .contentLength]).evaluate
          ⟨200, .ofList [("content-type", "text/html")], [], .text "<p>Access denied"⟩).check? =
        some .botKeywords := by
  have h : ofConfig {} = .ok _ := ofConfig_eq_ok_iff.2 ⟨rfl, [], rfl, rfl⟩
  have hpages : Snapshot.SameButCase
      ⟨200, .ofList [("content-type", "text/html")], [], .text "<p>Access denied"⟩
      ⟨200, .ofList [("Content-Type", "Text/HTML")], [], .text "<P>ACCESS Denied"⟩ :=
    ⟨rfl, rfl, ⟨_, _, rfl, rfl, .cons ⟨by decide, by decide⟩ .nil⟩, ⟨_, _, rfl, rfl, by decide⟩⟩
  exact ⟨_, h, ((evaluate_sameButCase hpages).2 _ (by decide +kernel)).1, by decide +kernel⟩

end Detector

end SoftFail
