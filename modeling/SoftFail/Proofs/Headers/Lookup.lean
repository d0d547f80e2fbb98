import Mathlib.Tactic.SplitIfs
import SoftFail.Headers

/-! Headers as a map: what a name is looked up to after any number of insertions. -/

namespace SoftFail.Headers

theorem lookup_cons_eq (m : String) (e : String × String) (es : List (String × String)) :
    (e :: es).lookup m = if m = e.1 then some e.2 else es.lookup m := by
  rw [List.lookup_cons]
  split_ifs with h
  · simp [h]
  · rw [beq_false_of_ne h]

theorem lookup_eq_none_of_lt {name : String} {es : List (String × String)}
    (h : ∀ e ∈ es, name < e.1) : es.lookup name = none := by
  rw [List.lookup_eq_none_iff]
  intro e he
  exact bne_iff_ne.2 fun heq => String.lt_irrefl _ (heq ▸ h e he)

theorem place?_eq_none_iff (name value : String) {es : List (String × String)}
    (hes : es.Pairwise (·.1 < ·.1)) :
    place? name value es = none ↔ (es.lookup name).isSome = true := by
  induction es with
  | nil => simp [place?]
  | cons e es ih =>
    obtain ⟨he, hes⟩ := List.pairwise_cons.1 hes
    rw [place?, lookup_cons_eq]
    split_ifs with hlt heq heq
    · exact absurd (heq ▸ hlt) (String.lt_irrefl _)
    · have hnone := lookup_eq_none_of_lt fun d hd => String.lt_trans hlt (he d hd)
      simp [hnone]
    · simp
    · rw [Option.map_eq_none_iff, ih hes]

theorem lookup_of_place? {name value : String} {es fs : List (String × String)}
    (h : place? name value es = some fs) (m : String) :
    fs.lookup m = if m = name then some value else es.lookup m := by
  induction es generalizing fs with
  | nil =>
    obtain rfl : [(name, value)] = fs := Option.some.inj h
    exact lookup_cons_eq m (name, value) []
  | cons e es ih =>
    rw [place?] at h
    split_ifs at h with hlt hne
    · obtain rfl : (name, value) :: e :: es = fs := Option.some.inj h
      exact lookup_cons_eq m (name, value) (e :: es)
    · obtain ⟨gs, hgs, rfl⟩ := Option.map_eq_some_iff.1 h
      rw [lookup_cons_eq, lookup_cons_eq, ih hgs]
      split_ifs with hm hn <;> simp_all

theorem insert?_eq_none_iff (h : Headers) (name value : String) :
    h.insert? name value = none ↔ (h.get? name).isSome = true := by
  rw [get?, ← place?_eq_none_iff _ value h.ascending]
  unfold insert?
  split <;> simp_all

theorem get?_of_insert? {h g : Headers} {name value : String}
    (hg : h.insert? name value = some g) (m : String) :
    g.get? m = if Text.lowerCase m = Text.lowerCase name then some value else h.get? m := by
  unfold insert? at hg
  split at hg
  · cases hg
  · rename_i es hes
    cases hg
    exact lookup_of_place? hes _

theorem get?_congr {h : Headers} {m n : String} (hmn : Text.lowerCase m = Text.lowerCase n) :
    h.get? m = h.get? n := by
  rw [get?, hmn, get?]

theorem get?_insert (h : Headers) (name value m : String) :
    (h.insert name value).get? m =
      (h.get? m).or (if Text.lowerCase name = Text.lowerCase m then some value else none) := by
  rw [insert]
  cases hi : h.insert? name value with
  | none =>
    obtain ⟨v, hv⟩ := Option.isSome_iff_exists.1 ((insert?_eq_none_iff h name value).1 hi)
    rw [Option.getD_none]
    split_ifs with hm
    · rw [← get?_congr hm, hv, Option.some_or]
    · rw [Option.or_none]
  | some g =>
    have hnone : h.get? name = none := by
      rw [← Option.not_isSome_iff_eq_none, ← insert?_eq_none_iff h name value, hi]
      simp
    rw [Option.getD_some, get?_of_insert? hi]
    split_ifs with hm hn hn
    · rw [get?_congr hm, hnone, Option.none_or]
    · exact absurd hm.symm hn
    · exact absurd hn.symm hm
    · rw [Option.or_none]

theorem get?_foldl_insert (pairs : List (String × String)) (h : Headers) (m : String) :
    (pairs.foldl (fun h p => h.insert p.1 p.2) h).get? m =
      (h.get? m).or
        ((pairs.find? fun p => Text.lowerCase p.1 = Text.lowerCase m).map Prod.snd) := by
  induction pairs generalizing h with
  | nil => simp
  | cons p pairs ih =>
    rw [List.foldl_cons, ih, get?_insert, Option.or_assoc, List.find?_cons]
    by_cases hp : Text.lowerCase p.1 = Text.lowerCase m <;> simp [hp]

/-- The first value given for a name, in whatever letter case, is the value of the name. -/
theorem get?_ofList (pairs : List (String × String)) (m : String) :
    (ofList pairs).get? m =
      (pairs.find? fun p => Text.lowerCase p.1 = Text.lowerCase m).map Prod.snd :=
  get?_foldl_insert pairs empty m

end SoftFail.Headers
