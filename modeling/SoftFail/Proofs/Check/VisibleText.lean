import Mathlib.Algebra.GroupWithZero.Nat
import Mathlib.Algebra.Order.BigOperators.Group.List
import Mathlib.Algebra.Order.Group.Nat
import SoftFail.Check.Rendering
import SoftFail.Proofs.Markup.Tag

/-! The texts by which a document is judged. They hold no tags, they take no more bytes than the
document, and there is nothing more to take out of them. -/

namespace SoftFail.Check

open Text Markup

variable {s t : List Char}

theorem byteLength_eq_sum (s : List Char) : byteLength s = (s.map Char.utf8Size).sum := by
  rw [byteLength, List.sum_eq_foldl, List.foldl_map]

theorem byteLength_le_of_sublist (h : s.Sublist t) : byteLength s ≤ byteLength t := by
  rw [byteLength_eq_sum, byteLength_eq_sum]
  exact (h.map Char.utf8Size).sum_le_sum fun n _ => Nat.zero_le n

theorem byteLength_squeeze_le (s : List Char) : byteLength (squeeze s) ≤ byteLength s := by
  rw [byteLength_eq_sum, byteLength_eq_sum]
  induction s with
  | nil => exact Nat.le_refl _
  | cons c s ih =>
    have hsize : ' '.utf8Size ≤ c.utf8Size := Char.utf8Size_pos c
    rw [squeeze_cons]
    split_ifs <;> simp only [List.map_cons, List.sum_cons] <;> omega

/-! Visible text. -/

theorem tagFree_visibleText (html : List Char) : TagFree (visibleText html) :=
  (tagFree_withoutTags _).squeeze.trim

theorem tidy_visibleText (html : List Char) : Tidy (visibleText html) := tidy_trim_squeeze _

theorem byteLength_visibleText_le (html : List Char) :
    byteLength (visibleText html) ≤ byteLength html := by
  have hscripts := Element.replace_nil_sublist Element.isName_script html
  have hstyles := Element.replace_nil_sublist Element.isName_style (Element.script.replace [] html)
  have htags := withoutTags_sublist (Element.style.replace [] (Element.script.replace [] html))
  calc byteLength (visibleText html)
      ≤ byteLength (squeeze
          (withoutTags (Element.style.replace [] (Element.script.replace [] html)))) :=
        byteLength_le_of_sublist (infix_trim _).sublist
    _ ≤ byteLength (withoutTags (Element.style.replace [] (Element.script.replace [] html))) :=
        byteLength_squeeze_le _
    _ ≤ byteLength html := byteLength_le_of_sublist (htags.trans (hstyles.trans hscripts))

theorem visibleText_eq_self_iff : visibleText s = s ↔ TagFree s ∧ Tidy s := by
  constructor
  · intro h
    rw [← h]
    exact ⟨tagFree_visibleText s, tidy_visibleText s⟩
  · rintro ⟨hfree, htidy⟩
    have hscripts : Element.script.replace [] s = s :=
      hfree.replace_eq_self Element.isName_script []
    have hstyles : Element.style.replace [] s = s := hfree.replace_eq_self Element.isName_style []
    rw [visibleText, hscripts, hstyles, hfree.withoutTags_eq, htidy.trim_squeeze]

/-! Rendered text. -/

theorem tagFree_renderedText (html : List Char) : TagFree (renderedText html) :=
  (tagFree_withoutTags _).trim

theorem renderedText_sublist (html : List Char) : (renderedText html).Sublist html := by
  have hscripts := Element.replace_nil_sublist Element.isName_script html
  have htags := withoutTags_sublist (Element.script.replace [] html)
  exact (infix_trim _).sublist.trans (htags.trans hscripts)

theorem renderedText_eq_self_iff : renderedText s = s ↔ TagFree s ∧ Trimmed s := by
  constructor
  · intro h
    rw [← h]
    exact ⟨tagFree_renderedText s, trimmed_trim _⟩
  · rintro ⟨hfree, htrimmed⟩
    have hscripts : Element.script.replace [] s = s :=
      hfree.replace_eq_self Element.isName_script []
    rw [renderedText, hscripts, hfree.withoutTags_eq, htrimmed.trim_eq_self]

/-- Both texts are free of tags, no longer than the document, and the same when they are taken from
themselves; a document is its own text exactly when it has no tags and is trimmed, or tidy. -/
theorem shown_texts_settled (html : List Char) :
    (TagFree (visibleText html) ∧ Tidy (visibleText html) ∧
      byteLength (visibleText html) ≤ byteLength html ∧
      visibleText (visibleText html) = visibleText html ∧
      (visibleText html = html ↔ TagFree html ∧ Tidy html)) ∧
    (TagFree (renderedText html) ∧
      (renderedText html).length ≤ html.length ∧
      byteLength (renderedText html) ≤ byteLength html ∧
      renderedText (renderedText html) = renderedText html ∧
      (renderedText html = html ↔ TagFree html ∧ Trimmed html)) := by
  constructor
  · have hfree := tagFree_visibleText html
    have htidy := tidy_visibleText html
    exact ⟨hfree, htidy, byteLength_visibleText_le html, visibleText_eq_self_iff.2 ⟨hfree, htidy⟩,
      visibleText_eq_self_iff⟩
  · have hfree := tagFree_renderedText html
    have hsublist := renderedText_sublist html
    exact ⟨hfree, hsublist.length_le, byteLength_le_of_sublist hsublist,
      renderedText_eq_self_iff.2 ⟨hfree, trimmed_trim _⟩, renderedText_eq_self_iff⟩

end SoftFail.Check
