import Mathlib.Data.Finset.Card
import SoftFail.Proofs.Headers.Lookup
import SoftFail.Snapshot.Record

/-! Headers after any history of changes: names stay in order and in lower case, the entries are the
lookups, and the first value given for a name is its value. -/

namespace SoftFail.Headers

inductive Edit where
  | clear
  | insert (name value : String)
  | collect (pairs : List (String × String))
  | ofMap (m : NameMap)
  /-- Reads a JSON text. One that holds no headers changes nothing. -/
  | read (text : String)

def Edit.apply (h : Headers) : Edit → Headers
  | clear => empty
  | insert name value => h.insert name value
  | collect pairs => ofList pairs
  | ofMap m => m.toHeaders
  | read text =>
    match Json.read Headers.read text with
    | .ok g => g
    | .error _ => h

def after (edits : List Edit) : Headers := edits.foldl Edit.apply empty

theorem lookup_eq_some_iff {es : List (String × String)} (hes : es.Pairwise (·.1 < ·.1))
    (name value : String) : es.lookup name = some value ↔ (name, value) ∈ es := by
  induction es with
  | nil => simp
  | cons e es ih =>
    obtain ⟨he, hes⟩ := List.pairwise_cons.1 hes
    rw [lookup_cons_eq, List.mem_cons]
    split_ifs with heq
    · -- All names behind the first one are larger than it.
      have hrest : (name, value) ∉ es := by
        intro hmem
        have hlt := he _ hmem
        exact String.lt_irrefl _ (heq ▸ hlt)
      have hhead : (name, value) = e ↔ e.2 = value := by
        rw [heq]
        exact ⟨fun h => by rw [← h], fun h => by rw [← h]⟩
      rw [Option.some.injEq, hhead, or_iff_left hrest]
    · have hne : (name, value) ≠ e := by
        rintro rfl
        exact heq rfl
      rw [ih hes, or_iff_right hne]

theorem get?_eq_some_iff (h : Headers) (name value : String) :
    h.get? name = some value ↔ (Text.lowerCase name, value) ∈ h.entries :=
  lookup_eq_some_iff h.ascending _ value

theorem nodup_names (h : Headers) : (h.entries.map Prod.fst).Nodup := by
  rw [List.nodup_iff_pairwise_ne, List.pairwise_map]
  refine h.ascending.imp fun {a b} hlt heq => ?_
  exact String.lt_irrefl _ (heq ▸ hlt)

theorem size_eq_card_names (h : Headers) : h.size = (h.entries.map Prod.fst).toFinset.card := by
  rw [List.toFinset_card_of_nodup h.nodup_names, List.length_map, size]

/-- A name is free for as long as no pair has it, in whatever letter case. -/
theorem isSome_insert?_ofList_iff (pairs : List (String × String)) (name value : String) :
    ((ofList pairs).insert? name value).isSome = true ↔
      ∀ p ∈ pairs, Text.lowerCase p.1 ≠ Text.lowerCase name := by
  have hnone := insert?_eq_none_iff (ofList pairs) name value
  rw [get?_ofList, Option.isSome_map, List.find?_isSome] at hnone
  constructor
  · intro hsome p hp heq
    have htaken := hnone.2 ⟨p, hp, decide_eq_true heq⟩
    rw [htaken] at hsome
    cases hsome
  · intro hfree
    rw [Option.isSome_iff_ne_none]
    intro htaken
    obtain ⟨p, hp, heq⟩ := hnone.1 htaken
    exact hfree p hp (of_decide_eq_true heq)

theorem ofList_append_singleton (pairs : List (String × String)) (name value : String) :
    ofList (pairs ++ [(name, value)]) = (ofList pairs).insert name value := by
  rw [ofList, List.foldl_append, ← ofList, List.foldl_cons, List.foldl_nil]

/-- A map by names in any letter case, whatever happened to it before, in which the first value
given for a name is kept. -/
theorem isMap_after :
    (∀ edits, let h := after edits
      h.entries.Pairwise (·.1 < ·.1) ∧ (∀ e ∈ h.entries, Text.lowerCase e.1 = e.1) ∧
        h.size = (h.entries.map Prod.fst).toFinset.card ∧
        (∀ m n, Text.lowerCase m = Text.lowerCase n → h.get? m = h.get? n) ∧
        ∀ n value, h.get? n = some value ↔ (Text.lowerCase n, value) ∈ h.entries) ∧
      (∀ pairs n, (ofList pairs).get? n =
        (pairs.find? fun p => Text.lowerCase p.1 = Text.lowerCase n).map Prod.snd) ∧
      ∀ earlier name value, let h := ofList earlier
        ((h.insert? name value).isSome = true ↔
          ∀ p ∈ earlier, Text.lowerCase p.1 ≠ Text.lowerCase name) ∧
        ofList (earlier ++ [(name, value)]) = (h.insert? name value).getD h ∧
        ∀ g ∈ h.insert? name value, ∀ m, Text.lowerCase m ≠ Text.lowerCase name →
          g.get? m = h.get? m := by
  refine ⟨fun edits => ?_, get?_ofList, fun earlier name value => ?_⟩
  · refine ⟨(after edits).ascending, (after edits).lowered, size_eq_card_names _, ?_, ?_⟩
    · intro m n hmn
      exact get?_congr hmn
    · exact get?_eq_some_iff _
  · refine ⟨isSome_insert?_ofList_iff earlier name value, ?_, ?_⟩
    · exact ofList_append_singleton earlier name value
    · intro g hg m hm
      rw [get?_of_insert? hg, if_neg hm]

end SoftFail.Headers
