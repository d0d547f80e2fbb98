import Mathlib.Data.List.Basic
import Mathlib.Data.List.TakeWhile
import SoftFail.Check.Outcome
import SoftFail.Proofs.Markup.LetterCase

/-! Letter case and the checks of a body: all but those for markers, for expected patterns and for
linked data find the same fault with a body and with the lowered body. -/

namespace SoftFail.Check

open Text

theorem keywordComplaint_lower (body : List Char) :
    keywordComplaint (lower body) = none ↔ keywordComplaint body = none := by
  simp only [keywordComplaint, lower_lower, List.findSome?_eq_none_iff, Option.map_eq_none_iff]

theorem lazyComplaint_lower (body : List Char) :
    lazyComplaint (lower body) = lazyComplaint body := by
  rw [lazyComplaint, lazyCounts, lower_lower, ← lazyCounts, ← lazyComplaint]

/-! Further pages. -/

theorem isPageGap_toLower (c : Char) : isPageGap c.toLower = isPageGap c :=
  congr_toLower isPageGap (by decide) c

theorem lower_takeWhile_isDigit (s : List Char) :
    lower (s.takeWhile Char.isDigit) = s.takeWhile Char.isDigit := by
  refine (List.map_congr_left fun c hc => ?_).trans (List.map_id _)
  have hdigit : c.isDigit = true := List.mem_takeWhile_imp hc
  have hcapitals : capitals.all (fun c => !c.isDigit) = true := by decide
  refine toLower_eq_self fun hmem => ?_
  have hletter := List.all_eq_true.1 hcapitals c hmem
  rw [hdigit] at hletter
  cases hletter

theorem said_pageNumberLook (s : List Char) :
    (pageNumberLook s).said = (dropWord? pageWord s).bind fun r =>
      let t := r.dropWhile isPageGap
      if r.head?.any isPageGap && t.head?.any Char.isDigit then
        some (some (t.takeWhile Char.isDigit, t.dropWhile Char.isDigit))
      else none := by
  unfold pageNumberLook
  split
  · simp_all [Look.said]
  · simp only [*, Option.bind_some]
    split <;> rfl

theorem pageNumberLook_ignoresCase : IgnoresCase pageNumberLook id := by
  intro s
  rw [said_pageNumberLook, said_pageNumberLook, dropWord?_lower]
  cases dropWord? pageWord s with
  | none => rfl
  | some r =>
    simp only [Option.map_some, Option.bind_some, any_head?_lower isPageGap_toLower,
      dropWhile_lower isPageGap_toLower, any_head?_lower isDigit_toLower,
      takeWhile_lower isDigit_toLower, dropWhile_lower isDigit_toLower, lower_takeWhile_isDigit]
    split <;> rfl

theorem pageNumbers_lower (body : List Char) : pageNumbers (lower body) = pageNumbers body := by
  rw [pageNumbers, contents_lower pageNumberLook_ignoresCase, List.map_id, pageNumbers]

theorem offersNextPage_lower (body : List Char) :
    offersNextPage (lower body) = offersNextPage body := by
  have harrow (c : Char) : (decide (c.toLower = '→') || decide (c.toLower = '»')) =
      (decide (c = '→') || decide (c = '»')) :=
    congr_toLower (fun c => decide (c = '→') || decide (c = '»')) (by decide) c
  simp only [offersNextPage, cutWord?_lower, Option.isSome_map]
  simp only [lower, List.any_map, Function.comp_def, harrow]

theorem loadMoreTemplates_ignoreCase :
    ∀ t ∈ loadMoreTemplates, ∀ step ∈ t.steps, step.IgnoresCase := by
  decide

theorem paginationComplaint_lower (body : List Char) :
    paginationComplaint (lower body) = none ↔ paginationComplaint body = none := by
  have hmore : (loadMoreTemplates.findSome? fun t => t.first? (lower body)) = none ↔
      (loadMoreTemplates.findSome? fun t => t.first? body) = none := by
    simp only [List.findSome?_eq_none_iff]
    refine forall₂_congr fun t ht => ?_
    have hsome := Template.isSome_first?_lower (loadMoreTemplates_ignoreCase t ht) body
    rw [← Option.not_isSome_iff_eq_none, hsome, Option.not_isSome_iff_eq_none]
  -- The excerpts of the two bodies differ in letter case, so that only their being there agrees.
  simp only [paginationComplaint, pageNumbers_lower, offersNextPage_lower, lower_lower]
  cases hl : loadMoreTemplates.findSome? fun t => t.first? (lower body) with
  | none => rw [hmore.1 hl]
  | some found =>
    cases hb : loadMoreTemplates.findSome? fun t => t.first? body with
    | none =>
      rw [hmore.2 hb] at hl
      cases hl
    | some _ => simp

/-! Items. -/

theorem itemTemplates_ignoreCase :
    ∀ t ∈ itemTemplates, ∀ step ∈ t.1.steps, step.IgnoresCase := by
  decide

theorem bestItems_lower (body : List Char) : bestItems (lower body) = bestItems body := by
  refine List.foldl_ext _ _ _ fun best t ht => ?_
  rw [Template.count_lower (itemTemplates_ignoreCase t ht)]

theorem itemComplaint_lower (min? : Option Nat) (body : List Char) :
    itemComplaint min? (lower body) = itemComplaint min? body := by
  simp only [itemComplaint, bestItems_lower]

/-! Documents. -/

theorem noscriptComplaint_lower (body : List Char) :
    noscriptComplaint (lower body) = noscriptComplaint body := by
  have htotal : (Markup.noscriptContents (lower body)).flatten.length =
      (Markup.noscriptContents body).flatten.length := by
    rw [Markup.noscriptContents_lower]
    simp [List.length_flatten, length_lower, Function.comp_def]
  simp only [noscriptComplaint, htotal, Markup.withoutNoscript_lower, lower_lower]

theorem placeholderComplaint_lower (body : List Char) :
    placeholderComplaint (lower body) = placeholderComplaint body := by
  simp only [placeholderComplaint, placeholderLabels, lower_lower]

theorem byteLength_lower (s : List Char) : byteLength (lower s) = byteLength s := by
  simp only [byteLength, lower, List.foldl_map, utf8Size_toLower]

theorem densityComplaint_lower (minRatio : Float) (body : List Char) :
    densityComplaint minRatio (lower body) = densityComplaint minRatio body := by
  simp only [densityComplaint, byteLength_lower, Markup.visibleText_lower, lower_lower]

theorem embeddedDataComplaint_lower (body : List Char) :
    embeddedDataComplaint (lower body) = embeddedDataComplaint body := by
  simp only [embeddedDataComplaint, lower_lower, Markup.renderedText_lower, length_lower]

end SoftFail.Check
