import SoftFail.Headers

/-! Entries that are in order already stay as they are when a map is made of them. -/

namespace SoftFail

variable {name value : String} {es : List (String × String)}

theorem not_lt_and_ne_of_lt {a b : String} (h : a < b) : ¬b < a ∧ ¬b = a :=
  ⟨String.lt_asymm h, fun heq => String.lt_irrefl _ (heq ▸ h)⟩

namespace NameMap

theorem put_eq_append (h : ∀ e ∈ es, e.1 < name) : put name value es = es ++ [(name, value)] := by
  induction es with
  | nil => rfl
  | cons e es ih =>
    obtain ⟨he, hes⟩ := List.forall_mem_cons.1 h
    obtain ⟨hlt, hne⟩ := not_lt_and_ne_of_lt he
    rw [put, if_neg hlt, if_neg hne, ih hes, List.cons_append]

theorem foldl_put_eq_append {fs : List (String × String)}
    (h : (es ++ fs).Pairwise (·.1 < ·.1)) :
    fs.foldl (fun es p => put p.1 p.2 es) es = es ++ fs := by
  induction fs generalizing es with
  | nil => rw [List.foldl_nil, List.append_nil]
  | cons f fs ih =>
    have hf : ∀ e ∈ es, e.1 < f.1 := fun e he =>
      (List.pairwise_append.1 h).2.2 e he f List.mem_cons_self
    rw [List.append_cons] at h ⊢
    rw [List.foldl_cons, put_eq_append hf, ih h]

theorem entries_ofList (h : es.Pairwise (·.1 < ·.1)) : (ofList es).entries = es :=
  foldl_put_eq_append h

end NameMap

namespace Headers

theorem place?_eq_append (h : ∀ e ∈ es, e.1 < name) :
    place? name value es = some (es ++ [(name, value)]) := by
  induction es with
  | nil => rfl
  | cons e es ih =>
    obtain ⟨he, hes⟩ := List.forall_mem_cons.1 h
    obtain ⟨hlt, hne⟩ := not_lt_and_ne_of_lt he
    rw [place?, if_neg hlt, if_neg hne, ih hes]
    rfl

theorem entries_insert {h : Headers} (hname : ∀ e ∈ h.entries, e.1 < name)
    (hlower : Text.lowerCase name = name) :
    (h.insert name value).entries = h.entries ++ [(name, value)] := by
  have hplace : place? (Text.lowerCase name) value h.entries =
      some (h.entries ++ [(name, value)]) := by
    rw [hlower, place?_eq_append hname]
  rw [insert, insert?]
  split
  · rename_i hnone
    rw [hplace] at hnone
    cases hnone
  · rename_i es hes
    rw [hplace] at hes
    exact (Option.some.inj hes).symm

theorem entries_foldl_insert {h : Headers} {fs : List (String × String)}
    (hfs : (h.entries ++ fs).Pairwise (·.1 < ·.1))
    (hlower : ∀ f ∈ fs, Text.lowerCase f.1 = f.1) :
    (fs.foldl (fun h p => h.insert p.1 p.2) h).entries = h.entries ++ fs := by
  induction fs generalizing h with
  | nil => rw [List.foldl_nil, List.append_nil]
  | cons f fs ih =>
    obtain ⟨hf, hrest⟩ := List.forall_mem_cons.1 hlower
    have hlast : ∀ e ∈ h.entries, e.1 < f.1 := fun e he =>
      (List.pairwise_append.1 hfs).2.2 e he f List.mem_cons_self
    have hinsert : (h.insert f.1 f.2).entries = h.entries ++ [f] := entries_insert hlast hf
    rw [List.append_cons, ← hinsert] at hfs
    rw [List.foldl_cons, ih hfs hrest, hinsert, List.append_assoc, List.singleton_append]

theorem ofList_entries (h : Headers) : ofList h.entries = h :=
  eq_of_entries (entries_foldl_insert (h := empty) h.ascending h.lowered)

theorem toHeaders_ofList_entries (h : Headers) : (NameMap.ofList h.entries).toHeaders = h := by
  rw [NameMap.toHeaders, NameMap.entries_ofList h.ascending, ofList_entries]

end Headers

end SoftFail
