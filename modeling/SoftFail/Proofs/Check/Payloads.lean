import SoftFail.Proofs.Check.LinkedData

/-! Payloads of linked data are judged by themselves: the first one at fault decides, with the fault
that it would have as the only one, and so does the first entity in a list of entities. -/

namespace SoftFail.Check

open Markup

/-- A payload that is the whole linked data of a page. -/
def judgedAlone (payload : List Char) : Outcome :=
  structuredData.run (.ofBody (Element.linkedDataPage payload))

theorem contents_page_of_mem {body payload : List Char}
    (h : payload ∈ Element.linkedData.contents body) :
    Element.linkedData.contents (Element.linkedDataPage payload) = [payload] :=
  Element.contents_linkedDataPage (Element.closes_of_mem_contents h)

theorem judgedAlone_eq {body payload : List Char}
    (h : payload ∈ Element.linkedData.contents body) :
    judgedAlone payload = .ofComplaint (payloadComplaint 1 payload) := by
  refine run_structuredData_of_contents_eq ?_
  rw [Subject.body_ofBody]
  exact contents_page_of_mem h

theorem passed_judgedAlone_iff {body payload : List Char}
    (h : payload ∈ Element.linkedData.contents body) :
    (judgedAlone payload).passed = true ↔ payloadComplaint 1 payload = none := by
  rw [judgedAlone_eq h, Outcome.passed_ofComplaint_iff]

/-! Lists of entities. -/

theorem entities_cons (v : Value) (items : List Value) :
    entities (.list (v :: items)) =
      (if isRecord v then entities v else []) ++ entities (.list items) := by
  cases v with
  | record fields =>
    simp only [entities, isRecord, if_true]
    rw [← List.flatMap_append, ← List.filter_append]
    rfl
  | _ => simp [entities, isRecord]

theorem findSome?_entities_list (items : List Value) (index : Nat) :
    (entities (.list items)).findSome? (entityComplaint index) =
      (items.filter isRecord).findSome? fun v =>
        (entities v).findSome? (entityComplaint index) := by
  induction items with
  | nil => rfl
  | cons v items ih =>
    rw [entities_cons, List.findSome?_append, ih]
    cases hv : isRecord v with
    | false => simp [hv]
    | true =>
      rw [if_pos rfl, List.filter_cons_of_pos hv, List.findSome?_cons]
      cases (entities v).findSome? (entityComplaint index) <;> rfl

theorem passed_judgedValue_list_iff (items : List Value) :
    (judgedValue (.list items)).passed = true ↔
      ∀ v ∈ items, v.IsRecord → (judgedValue v).passed = true := by
  simp only [judgedValue, Outcome.passed_ofComplaint_iff, findSome?_entities_list,
    List.findSome?_eq_none_iff, List.mem_filter, isRecord_iff, and_imp]

theorem judgedValue_list_of_first {items earlier later : List Value} {v : Value}
    (h : items = earlier ++ v :: later) (hv : v.IsRecord)
    (hearlier : ∀ u ∈ earlier, u.IsRecord → (judgedValue u).passed = true)
    (hfail : (judgedValue v).passed = false) : judgedValue (.list items) = judgedValue v := by
  have hrecords : items.filter isRecord =
      earlier.filter isRecord ++ v :: later.filter isRecord := by
    rw [h, List.filter_append, List.filter_cons_of_pos (isRecord_iff.2 hv)]
  rw [judgedValue, findSome?_entities_list, hrecords, findSome?_of_first ?_ ?_, judgedValue]
  · intro u hu
    obtain ⟨hmem, hrecord⟩ := List.mem_filter.1 hu
    exact Outcome.passed_ofComplaint_iff.1 (hearlier u hmem (isRecord_iff.1 hrecord))
  · intro hnone
    rw [judgedValue, hnone] at hfail
    cases hfail

/-- Every payload is judged as if it were the only one. The first one at fault decides, with its
number in place of 1, and of a list of entities the first record at fault. -/
theorem linkedData_judged_apart (s : Subject) :
    let payloads := Element.linkedData.contents s.body
    (∀ p ∈ payloads, Element.linkedData.contents (Element.linkedDataPage p) = [p] ∧
      ∀ t : Subject, Element.linkedData.contents t.body = [p] →
        structuredData.run t = judgedAlone p) ∧
    ((structuredData.run s).passed = false ↔ ∃ p ∈ payloads, (judgedAlone p).passed = false) ∧
    (∀ earlier p later, payloads = earlier ++ p :: later →
      (∀ q ∈ earlier, (judgedAlone q).passed = true) → (judgedAlone p).passed = false →
      ∃ fault : DataFault, judgedAlone p = .fail (fault.complaint 1).message ∧
        structuredData.run s = .fail (fault.complaint (earlier.length + 1)).message) ∧
    (∀ t p v, Element.linkedData.contents (Subject.body t) = [p] →
      Json.parse (String.ofList (Text.trim p)) = .ok v → structuredData.run t = judgedValue v) ∧
    ∀ items,
      ((judgedValue (.list items)).passed = false ↔
        ∃ v ∈ items, v.IsRecord ∧ (judgedValue v).passed = false) ∧
      (∀ earlier v later, items = earlier ++ v :: later → v.IsRecord →
        (∀ u ∈ earlier, u.IsRecord → (judgedValue u).passed = true) →
        (judgedValue v).passed = false → judgedValue (.list items) = judgedValue v) ∧
      judgedValue (.list (items.filter isRecord)) = judgedValue (.list items) := by
  intro payloads
  refine ⟨fun p hp => ⟨contents_page_of_mem hp, fun t ht => ?_⟩, ?_, ?_,
    fun t p v => run_structuredData_eq_of_parse, fun items => ⟨?_, ?_, ?_⟩⟩
  · rw [run_structuredData_of_contents_eq ht, judgedAlone_eq hp]
  · rw [← Bool.not_eq_true, passed_run_iff, complaint?, linkedDataComplaint_eq_none_iff]
    simp only [not_forall, exists_prop, ← Bool.not_eq_true]
    exact exists_congr fun p => and_congr_right fun hp =>
      not_congr (passed_judgedAlone_iff hp).symm
  · intro earlier p later hsplit hearlier hfail
    have hmem {q : List Char} (hq : q ∈ earlier ++ p :: later) : q ∈ payloads := hsplit ▸ hq
    have hp : p ∈ payloads := hmem (by simp)
    have hnone : ∀ q ∈ earlier, payloadComplaint 1 q = none := fun q hq =>
      (passed_judgedAlone_iff (hmem (List.mem_append_left _ hq))).1 (hearlier q hq)
    obtain ⟨fault?, hfault⟩ := exists_payloadFault p
    have hsome : payloadComplaint 1 p ≠ none := fun hnone => by
      rw [(passed_judgedAlone_iff hp).2 hnone] at hfail
      cases hfail
    cases fault? with
    | none => exact absurd (hfault 1) hsome
    | some fault =>
      refine ⟨fault, by rw [judgedAlone_eq hp, hfault]; rfl, ?_⟩
      rw [run, complaint?, linkedDataComplaint_of_first hsplit hnone hsome, hfault]
      rfl
  · rw [← Bool.not_eq_true, passed_judgedValue_list_iff]
    simp only [not_forall, exists_prop, Bool.not_eq_true]
  · exact fun earlier v later => judgedValue_list_of_first
  · rw [judgedValue, judgedValue, findSome?_entities_list, findSome?_entities_list,
      List.filter_filter]
    simp only [Bool.and_self]

end SoftFail.Check
