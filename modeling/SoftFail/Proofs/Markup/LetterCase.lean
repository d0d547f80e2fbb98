import SoftFail.Markup.Content
import SoftFail.Proofs.Text.LetterCase

/-! Letter case and documents: the text that a lowered document shows is the lowered text that the
document shows, and its elements are the lowered ones. -/

namespace SoftFail.Markup

open Text

theorem isCaseless_openBracket : isCaseless '<' = true := by decide

theorem isCaseless_closeBracket : isCaseless '>' = true := by decide

theorem Element.said_look (e : Element) (c : Char) (s : List Char) :
    (e.look (c :: s)).said =
      if c = '<' then
        (stepsRest? e.opening s).map fun r => (past? '>' r).bind (cutWord? e.closing)
      else none := by
  unfold look
  by_cases hc : c = '<'
  · rw [if_pos hc]
    simp only [hc, if_true]
    split
    · simp_all [Look.said]
    · split
      · simp_all [Look.said]
      · split <;> simp_all [Look.said]
  · simp [hc, Look.said]

theorem said_tagLook (c : Char) (s : List Char) :
    (tagLook (c :: s)).said =
      if c = '<' then
        match past? '>' s with
        | none => some none
        | some rest => if s.head? = some '>' then none else some (some ((), rest))
      else none := by
  unfold tagLook
  by_cases hc : c = '<'
  · simp only [hc, if_true]
    split
    · simp_all [Look.said]
    · split <;> simp_all [Look.said]
  · simp [hc, Look.said]

theorem Element.look_ignoresCase {e : Element} (h : ∀ step ∈ e.opening, step.IgnoresCase) :
    IgnoresCase e.look lower := by
  intro s
  cases s with
  | nil => rfl
  | cons c s =>
    rw [lower_cons, said_look, said_look, stepsRest?_lower h]
    simp only [toLower_eq_iff isCaseless_openBracket]
    split
    · cases stepsRest? e.opening s with
      | none => rfl
      | some r =>
        simp only [Option.map_some, past?_lower isCaseless_closeBracket]
        cases past? '>' r with
        | none => rfl
        | some r => simp [cutWord?_lower]
    · rfl

theorem tagLook_ignoresCase : IgnoresCase tagLook id := by
  intro s
  cases s with
  | nil => rfl
  | cons c s =>
    rw [lower_cons, said_tagLook, said_tagLook, past?_lower isCaseless_closeBracket]
    simp only [toLower_eq_iff isCaseless_openBracket, head?_lower_eq_iff isCaseless_closeBracket]
    split
    · cases past? '>' s with
      | none => rfl
      | some rest =>
        simp only [Option.map_some]
        split <;> rfl
    · rfl

theorem script_ignoresCase : IgnoresCase Element.script.look lower :=
  Element.look_ignoresCase (by decide)

theorem style_ignoresCase : IgnoresCase Element.style.look lower :=
  Element.look_ignoresCase (by decide)

theorem noscript_ignoresCase : IgnoresCase Element.noscript.look lower :=
  Element.look_ignoresCase (by decide)

theorem withoutTags_lower (s : List Char) : withoutTags (lower s) = lower (withoutTags s) :=
  replace_lower tagLook_ignoresCase rfl s

theorem visibleText_lower (s : List Char) : visibleText (lower s) = lower (visibleText s) := by
  simp only [visibleText, Element.replace, replace_lower script_ignoresCase lower_nil,
    replace_lower style_ignoresCase lower_nil, withoutTags_lower, squeeze_lower, trim_lower]

theorem renderedText_lower (s : List Char) : renderedText (lower s) = lower (renderedText s) := by
  simp only [renderedText, Element.replace, replace_lower script_ignoresCase lower_nil,
    withoutTags_lower, trim_lower]

theorem noscriptContents_lower (s : List Char) :
    noscriptContents (lower s) = (noscriptContents s).map lower :=
  contents_lower noscript_ignoresCase s

theorem withoutNoscript_lower (s : List Char) :
    withoutNoscript (lower s) = lower (withoutNoscript s) :=
  replace_lower noscript_ignoresCase (by decide) s

end SoftFail.Markup
