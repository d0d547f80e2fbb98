import Mathlib.Data.List.Sort
import SoftFail.Proofs.Headers.History
import SoftFail.Proofs.Snapshot.Replay

/-! Headers read from a record of names and values. Insertion keeps the first value of a name, but a
record keeps the last value of a spelling, and of the spellings of a name the first in order. -/

namespace SoftFail

namespace NameMap

variable {name value : String} {es : List (String × String)}

theorem mem_of_mem_put {e : String × String} (he : e ∈ put name value es) :
    e = (name, value) ∨ e ∈ es := by
  induction es with
  | nil => exact .inl (List.mem_singleton.1 he)
  | cons d es ih =>
    rw [put] at he
    split_ifs at he with hlt heq
    · exact List.mem_cons.1 he
    · exact (List.mem_cons.1 he).imp_right (List.mem_cons_of_mem _)
    · rcases List.mem_cons.1 he with rfl | he
      · exact .inr List.mem_cons_self
      · exact (ih he).imp_right (List.mem_cons_of_mem _)

theorem ascending_put (h : es.Pairwise (·.1 < ·.1)) :
    (put name value es).Pairwise (·.1 < ·.1) := by
  induction es with
  | nil => exact List.pairwise_singleton _ _
  | cons d es ih =>
    obtain ⟨hd, hes⟩ := List.pairwise_cons.1 h
    rw [put]
    split_ifs with hlt heq
    · refine List.pairwise_cons.2 ⟨List.forall_mem_cons.2 ⟨hlt, fun e he => ?_⟩, h⟩
      exact String.lt_trans hlt (hd e he)
    · exact List.pairwise_cons.2 ⟨fun e he => heq ▸ hd e he, hes⟩
    · refine List.pairwise_cons.2 ⟨fun e he => ?_, ih hes⟩
      rcases mem_of_mem_put he with rfl | he
      · exact Decidable.byContradiction fun hge =>
          heq (String.le_antisymm (String.not_lt.1 hge) (String.not_lt.1 hlt))
      · exact hd e he

theorem ascending_ofList (pairs : List (String × String)) :
    (ofList pairs).entries.Pairwise (·.1 < ·.1) := by
  have hfoldl (es : List (String × String)) (h : es.Pairwise (·.1 < ·.1)) :
      (pairs.foldl (fun es p => put p.1 p.2 es) es).Pairwise (·.1 < ·.1) := by
    induction pairs generalizing es with
    | nil => exact h
    | cons p pairs ih => exact ih _ (ascending_put h)
  exact hfoldl [] .nil

theorem lookup_put (name value m : String) (es : List (String × String)) :
    (put name value es).lookup m = if m = name then some value else es.lookup m := by
  induction es with
  | nil => exact Headers.lookup_cons_eq m (name, value) []
  | cons e es ih =>
    rw [put]
    by_cases hlt : name < e.1
    · rw [if_pos hlt]
      exact Headers.lookup_cons_eq m (name, value) (e :: es)
    · rw [if_neg hlt]
      by_cases heq : name = e.1
      · rw [if_pos heq, Headers.lookup_cons_eq, Headers.lookup_cons_eq m e, ← heq]
        split_ifs <;> rfl
      · rw [if_neg heq, Headers.lookup_cons_eq, ih, Headers.lookup_cons_eq m e]
        split_ifs with he hname
        · exact absurd (hname.symm.trans he) heq
        all_goals rfl

theorem lookup_ofList (pairs : List (String × String)) (m : String) :
    (ofList pairs).entries.lookup m = (pairs.reverse.find? fun p => p.1 = m).map Prod.snd := by
  have hfoldl (es : List (String × String)) :
      (pairs.foldl (fun es p => put p.1 p.2 es) es).lookup m =
        ((pairs.reverse.find? fun p => p.1 = m).map Prod.snd).or (es.lookup m) := by
    induction pairs generalizing es with
    | nil => simp
    | cons p pairs ih =>
      rw [List.foldl_cons, ih, lookup_put, List.reverse_cons, List.find?_append]
      cases pairs.reverse.find? fun p => p.1 = m with
      | some q => simp
      | none =>
        rcases eq_or_ne m p.1 with rfl | hne
        · simp
        · simp [hne, hne.symm]
  rw [ofList, hfoldl, List.lookup_nil, Option.or_none]

theorem mem_entries_iff (pairs : List (String × String)) (name value : String) :
    (name, value) ∈ (ofList pairs).entries ↔
      ∃ earlier later, pairs = earlier ++ (name, value) :: later ∧ ∀ p ∈ later, p.1 ≠ name := by
  rw [← Headers.lookup_eq_some_iff (ascending_ofList pairs), lookup_ofList,
    Option.map_eq_some_iff]
  constructor
  · rintro ⟨p, hp, rfl⟩
    obtain ⟨hname, later, earlier, hsplit, hlater⟩ := List.find?_eq_some_iff_append.1 hp
    obtain rfl := of_decide_eq_true hname
    refine ⟨earlier.reverse, later.reverse, ?_, fun q hq => ?_⟩
    · rw [← List.reverse_reverse pairs, hsplit]
      simp
    · simpa using hlater q (List.mem_reverse.1 hq)
  · rintro ⟨earlier, later, rfl, hlater⟩
    refine ⟨(name, value), List.find?_eq_some_iff_append.2 ⟨by simp, later.reverse,
      earlier.reverse, by simp, fun q hq => ?_⟩, rfl⟩
    simpa using hlater q (List.mem_reverse.1 hq)

theorem exists_mem_entries {pairs : List (String × String)} {p : String × String}
    (hp : p ∈ pairs) : ∃ value, (p.1, value) ∈ (ofList pairs).entries := by
  have hfound : ((ofList pairs).entries.lookup p.1).isSome = true := by
    rw [lookup_ofList, Option.isSome_map, List.find?_isSome]
    exact ⟨p, List.mem_reverse.2 hp, decide_eq_true rfl⟩
  obtain ⟨value, hvalue⟩ := Option.isSome_iff_exists.1 hfound
  exact ⟨value, (Headers.lookup_eq_some_iff (ascending_ofList pairs) _ _).1 hvalue⟩

end NameMap

namespace Headers

def FirstValue (pairs : List (String × String)) (name value : String) : Prop :=
  ∃ earlier spelling later, pairs = earlier ++ (spelling, value) :: later ∧
    Text.lowerCase spelling = Text.lowerCase name ∧
    ∀ p ∈ earlier, Text.lowerCase p.1 ≠ Text.lowerCase name

/-- Of the pairs with the spelling of the name that is the first in order, the value of the last
one. -/
def RecordedValue (pairs : List (String × String)) (name value : String) : Prop :=
  ∃ earlier spelling later, pairs = earlier ++ (spelling, value) :: later ∧
    Text.lowerCase spelling = Text.lowerCase name ∧ (∀ p ∈ later, p.1 ≠ spelling) ∧
    ∀ p ∈ pairs, Text.lowerCase p.1 = Text.lowerCase name → spelling ≤ p.1

variable {pairs : List (String × String)} {name value : String}

theorem get?_ofList_eq_some_iff :
    (ofList pairs).get? name = some value ↔ FirstValue pairs name value := by
  rw [get?_ofList, Option.map_eq_some_iff]
  constructor
  · rintro ⟨p, hp, rfl⟩
    obtain ⟨hname, earlier, later, hsplit, hearlier⟩ := List.find?_eq_some_iff_append.1 hp
    exact ⟨earlier, p.1, later, hsplit, of_decide_eq_true hname,
      fun q hq => by simpa using hearlier q hq⟩
  · rintro ⟨earlier, spelling, later, hsplit, hname, hearlier⟩
    refine ⟨(spelling, value), List.find?_eq_some_iff_append.2
      ⟨decide_eq_true hname, earlier, later, hsplit, fun q hq => ?_⟩, rfl⟩
    simpa using hearlier q hq

theorem get?_toHeaders_eq_some_iff :
    (NameMap.ofList pairs).toHeaders.get? name = some value ↔ RecordedValue pairs name value := by
  have hascending := NameMap.ascending_ofList pairs
  rw [NameMap.toHeaders, get?_ofList_eq_some_iff]
  constructor
  · rintro ⟨before, spelling, behind, hentries, hname, hbefore⟩
    have hmem : (spelling, value) ∈ (NameMap.ofList pairs).entries := by
      rw [hentries]
      exact List.mem_append_right _ List.mem_cons_self
    obtain ⟨earlier, later, hsplit, hlater⟩ := (NameMap.mem_entries_iff pairs _ _).1 hmem
    refine ⟨earlier, spelling, later, hsplit, hname, hlater, fun p hp hpname => ?_⟩
    obtain ⟨v, hv⟩ := NameMap.exists_mem_entries hp
    rw [hentries] at hv hascending
    rcases List.mem_append.1 hv with hv | hv
    · exact absurd hpname (hbefore (p.1, v) hv)
    rcases List.mem_cons.1 hv with heq | hv
    · have hspelling : p.1 = spelling := (Prod.mk.inj heq).1
      exact hspelling ▸ String.le_refl p.1
    · have hlt := (List.pairwise_cons.1 (List.pairwise_append.1 hascending).2.1).1 _ hv
      exact String.not_lt.1 (String.lt_asymm hlt)
  · rintro ⟨earlier, spelling, later, hsplit, hname, hlater, hfirst⟩
    have hmem := (NameMap.mem_entries_iff pairs _ _).2 ⟨earlier, later, hsplit, hlater⟩
    obtain ⟨before, behind, hentries⟩ := List.append_of_mem hmem
    refine ⟨before, spelling, behind, hentries, hname, fun p hp hpname => ?_⟩
    -- An entry in front of the spelling would be a smaller spelling of the name.
    have hpmem : p ∈ (NameMap.ofList pairs).entries := by
      rw [hentries]
      exact List.mem_append_left _ hp
    obtain ⟨front, rest, hpsplit, -⟩ := (NameMap.mem_entries_iff pairs p.1 p.2).1 hpmem
    have hppairs : p ∈ pairs := by
      rw [hpsplit]
      exact List.mem_append_right _ List.mem_cons_self
    rw [hentries] at hascending
    have hlt := (List.pairwise_append.1 hascending).2.2 p hp _ List.mem_cons_self
    exact String.not_lt.2 (hfirst p hppairs hpname) hlt

theorem eq_of_get? {h g : Headers} (hget : ∀ name, h.get? name = g.get? name) : h = g := by
  have hnodup (h : Headers) : h.entries.Nodup := .of_map Prod.fst h.nodup_names
  have hsub {h g : Headers} (hget : ∀ name, h.get? name = g.get? name) :
      ∀ e ∈ h.entries, e ∈ g.entries := by
    intro e he
    have hlower := h.lowered e he
    have hvalue : h.get? e.1 = some e.2 := (get?_eq_some_iff h e.1 e.2).2 (by rwa [hlower])
    rw [hget] at hvalue
    have hmem := (get?_eq_some_iff g e.1 e.2).1 hvalue
    rwa [hlower] at hmem
  refine eq_of_entries (List.Perm.eq_of_pairwise (fun a b _ _ hab hba => ?_) h.ascending
    g.ascending ?_)
  · exact absurd hba (String.lt_asymm hab)
  · exact (List.perm_ext_iff_of_nodup (hnodup h) (hnodup g)).2 fun e =>
      ⟨hsub hget e, hsub (fun name => (hget name).symm) e⟩

theorem exists_firstValue {p : String × String} (hp : p ∈ pairs)
    (hname : Text.lowerCase p.1 = Text.lowerCase name) : ∃ v, FirstValue pairs name v := by
  have hfound : ((ofList pairs).get? name).isSome = true := by
    rw [get?_ofList, Option.isSome_map, List.find?_isSome]
    exact ⟨p, hp, decide_eq_true hname⟩
  obtain ⟨v, hv⟩ := Option.isSome_iff_exists.1 hfound
  exact ⟨v, get?_ofList_eq_some_iff.1 hv⟩

/-- A record and insertion come to the same headers exactly when the first value of every name is
also the one that the record keeps. -/
theorem toHeaders_eq_ofList_iff :
    (NameMap.ofList pairs).toHeaders = ofList pairs ↔
      ∀ name value, FirstValue pairs name value → RecordedValue pairs name value := by
  constructor
  · intro heq name value hfirst
    rw [← get?_toHeaders_eq_some_iff, heq]
    exact get?_ofList_eq_some_iff.2 hfirst
  · intro hkept
    refine eq_of_get? fun name => Option.ext fun value => ?_
    rw [get?_toHeaders_eq_some_iff, get?_ofList_eq_some_iff]
    refine ⟨fun hrecorded => ?_, hkept name value⟩
    -- The name has a first value, which the record keeps: there is no other.
    have hvalue := get?_toHeaders_eq_some_iff.2 hrecorded
    obtain ⟨earlier, spelling, later, hsplit, hname, -⟩ := hrecorded
    have hmem : (spelling, value) ∈ pairs := by
      rw [hsplit]
      exact List.mem_append_right _ List.mem_cons_self
    obtain ⟨v, hv⟩ := exists_firstValue hmem hname
    rw [get?_toHeaders_eq_some_iff.2 (hkept name v hv)] at hvalue
    rwa [← Option.some.inj hvalue]

theorem RecordedValue.of_nodup (hnodup : (pairs.map fun p => Text.lowerCase p.1).Nodup)
    (h : FirstValue pairs name value) : RecordedValue pairs name value := by
  obtain ⟨earlier, spelling, later, rfl, hname, hearlier⟩ := h
  rw [List.map_append, List.map_cons, List.nodup_append, List.nodup_cons] at hnodup
  have hlater : ∀ p ∈ later, Text.lowerCase p.1 ≠ Text.lowerCase spelling := fun p hp heq =>
    hnodup.2.1.1 (List.mem_map.2 ⟨p, hp, heq⟩)
  refine ⟨earlier, spelling, later, rfl, hname, fun p hp heq => hlater p hp (heq ▸ rfl), ?_⟩
  intro p hp hpname
  rcases List.mem_append.1 hp with hp | hp
  · exact absurd hpname (hearlier p hp)
  rcases List.mem_cons.1 hp with rfl | hp
  · exact String.le_refl _
  · exact absurd (hpname.trans hname.symm) (hlater p hp)

def document (pairs : List (String × String)) : String :=
  Json.print (.record (pairs.map fun p => (p.1, .text p.2)))

theorem read_document (pairs : List (String × String)) :
    Json.read read (document pairs) = .ok (NameMap.ofList pairs).toHeaders :=
  Json.read_print (plain_pairs pairs 0) (takes_pairs pairs)

/-- What headers a record is read as, and when they are those that insertion of its members gives.
They always are where no name comes twice. -/
theorem exists_read_document (pairs : List (String × String)) :
    ∃ h, Json.read read (document pairs) = .ok h ∧
      (∀ name value, h.get? name = some value ↔ RecordedValue pairs name value) ∧
      (∀ name value, (ofList pairs).get? name = some value ↔ FirstValue pairs name value) ∧
      (h = ofList pairs ↔
        ∀ name value, FirstValue pairs name value → RecordedValue pairs name value) ∧
      ((pairs.map fun p => Text.lowerCase p.1).Nodup → h = ofList pairs) := by
  refine ⟨_, read_document pairs, fun _ _ => get?_toHeaders_eq_some_iff,
    fun _ _ => get?_ofList_eq_some_iff, toHeaders_eq_ofList_iff, fun hnodup => ?_⟩
  exact toHeaders_eq_ofList_iff.2 fun _ _ hfirst => .of_nodup hnodup hfirst

/-- Of a repeated name a record keeps the last value, and of two spellings the one with capitals. -/
theorem read_document_ne_ofList :
    (∃ h, Json.read read "\x7b\"a\":\"1\",\"a\":\"2\"\x7d" = .ok h ∧
      h.get? "a" = some "2" ∧ (ofList [("a", "1"), ("a", "2")]).get? "a" = some "1") ∧
    ∃ h, Json.read read "\x7b\"server\":\"nginx\",\"Server\":\"cloudflare\"\x7d" = .ok h ∧
      h.get? "server" = some "cloudflare" ∧
      (ofList [("server", "nginx"), ("Server", "cloudflare")]).get? "server" = some "nginx" := by
  have hrepeated : document [("a", "1"), ("a", "2")] =
      "\x7b\"a\":\"1\",\"a\":\"2\"\x7d" := by decide +kernel
  have hspelled : document [("server", "nginx"), ("Server", "cloudflare")] =
      "\x7b\"server\":\"nginx\",\"Server\":\"cloudflare\"\x7d" := by decide +kernel
  rw [← hrepeated, ← hspelled]
  exact ⟨⟨_, read_document _, by decide +kernel, by decide +kernel⟩,
    _, read_document _, by decide +kernel, by decide +kernel⟩

end Headers

end SoftFail
