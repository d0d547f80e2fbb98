import SoftFail.Proofs.Markup.LetterCase
import SoftFail.Proofs.Text.Word

/-! Elements and their contents: what is found in a document could be the only element of a document
of its own, where it is found again. -/

namespace SoftFail.Markup

open Text

namespace Element

def Closes (e : Element) (content : List Char) : Prop :=
  ∃ s rest, cutWord? e.closing s = some (content, rest)

theorem closes_of_firstFind {e : Element} {s before content rest : List Char}
    (h : firstFind e.look s = some (before, content, rest)) : e.Closes content := by
  obtain ⟨t, -, hfound, -⟩ := firstFind_eq_some h
  cases t with
  | nil => cases hfound
  | cons c t =>
    rw [said_look] at hfound
    obtain ⟨-, hfound⟩ := Option.ite_none_right_eq_some.1 hfound
    obtain ⟨r, -, hr⟩ := Option.map_eq_some_iff.1 hfound
    obtain ⟨t, -, ht⟩ := Option.bind_eq_some_iff.1 hr
    exact ⟨t, rest, ht⟩

theorem closes_of_mem_contents {e : Element} {s content : List Char} (h : content ∈ e.contents s) :
    e.Closes content := by
  induction s using induction_on_finds e.look with
  | step s ih =>
    rw [Element.contents, contents_eq] at h
    cases hf : firstFind e.look s with
    | none =>
      rw [hf] at h
      cases h
    | some f =>
      obtain ⟨before, content', rest⟩ := f
      rw [hf] at h
      rcases List.mem_cons.1 h with rfl | h
      · exact closes_of_firstFind hf
      · exact ih before content' rest hf h

def linkedDataPage (content : List Char) : List Char :=
  '<' :: ("script".toList ++ ' ' :: ("type=\"application/ld+json\"".toList ++
    '>' :: (content ++ linkedData.closing)))

theorem stepsRest?_linkedData (s : List Char) :
    stepsRest? linkedData.opening ("script".toList ++ ' ' ::
      ("type=\"application/ld+json\"".toList ++ s)) = some s := by
  have hgap : Step.gap.rest? (' ' :: ("type=\"application/ld+json\"".toList ++ s)) =
      some ("type=\"application/ld+json\"".toList ++ s) := rfl
  have hword (text t : List Char) (h : fold text = text) :
      (Step.word text).rest? (text ++ t) = some t := dropWord?_append h t
  rw [linkedData]
  simp only [stepsRest?]
  rw [hword _ _ (by decide), Option.bind_some, hgap, Option.bind_some, hword _ _ (by decide)]
  rfl

theorem contents_linkedDataPage {content : List Char} (h : linkedData.Closes content) :
    linkedData.contents (linkedDataPage content) = [content] := by
  obtain ⟨s, rest, hs⟩ := h
  have hcut := cutWord?_append hs (by decide : fold linkedData.closing = linkedData.closing) []
  rw [List.append_nil] at hcut
  have hfind : firstFind linkedData.look (linkedDataPage content) = some ([], content, []) := by
    rw [linkedDataPage, firstFind_cons, said_look, if_pos rfl, stepsRest?_linkedData]
    simp [past?, hcut]
  rw [Element.contents, contents_eq, hfind]
  simp only [contents_eq, firstFind]

end Element

end SoftFail.Markup
