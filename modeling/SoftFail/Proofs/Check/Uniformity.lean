import Mathlib.Data.List.Induction
import Mathlib.Data.List.Nodup
import Mathlib.Tactic.ByContra
import Mathlib.Tactic.SplitIfs
import SoftFail.Check.Expectation

/-! Values are uniform when one of them makes up more than four fifths. Letting different values
cancel out finds that one, and so does counting them in a table, in whatever order it is kept. -/

namespace SoftFail.Check

section Majority

variable {values : List String} {best : String × Nat} {v : String}

structure Leads (best : String × Nat) (values : List String) : Prop where
  own : 2 * values.count best.1 ≤ values.length + best.2
  others : ∀ u, u ≠ best.1 → 2 * values.count u + best.2 ≤ values.length

theorem majority_append_singleton (values : List String) (v : String) :
    majority (values ++ [v]) =
      if (majority values).2 = 0 then (v, 1)
      else if v = (majority values).1 then ((majority values).1, (majority values).2 + 1)
      else ((majority values).1, (majority values).2 - 1) := by
  rw [majority, List.foldl_append]
  rfl

/-- Without a lead, no value makes up more than half, and the next one takes over. -/
theorem Leads.next (h : Leads best values) (hlead : best.2 = 0) :
    Leads (v, 1) (values ++ [v]) := by
  have hhalf (u : String) : 2 * values.count u ≤ values.length := by
    by_cases hu : u = best.1
    · have hown := h.own
      rw [hu]
      omega
    · have hothers := h.others u hu
      omega
  constructor
  · have hv := hhalf v
    simp
    omega
  · intro u hu
    have hu' := hhalf u
    simp [Ne.symm hu]
    omega

theorem Leads.grow (h : Leads best values) :
    Leads (best.1, best.2 + 1) (values ++ [best.1]) := by
  constructor
  · have hown := h.own
    simp
    omega
  · intro u hu
    have hothers := h.others u hu
    simp [Ne.symm hu]
    omega

theorem Leads.shrink (h : Leads best values) (hlead : best.2 ≠ 0) (hv : v ≠ best.1) :
    Leads (best.1, best.2 - 1) (values ++ [v]) := by
  constructor
  · have hown := h.own
    simp [hv]
    omega
  · intro u hu
    have hothers := h.others u hu
    have hcount : (values ++ [v]).count u ≤ values.count u + 1 := by
      rw [List.count_append]
      exact Nat.add_le_add_left List.count_le_length _
    simp only [List.length_append, List.length_singleton]
    omega

theorem leads_majority (values : List String) : Leads (majority values) values := by
  induction values using List.reverseRecOn with
  | nil => exact ⟨Nat.le_refl 0, fun u hu => Nat.le_refl 0⟩
  | append_singleton values v ih =>
    rw [majority_append_singleton]
    split_ifs with hlead hv
    · exact ih.next hlead
    · rw [hv]
      exact ih.grow
    · exact ih.shrink hlead hv

theorem majority_eq_of_half_lt (h : values.length < 2 * values.count v) :
    (majority values).1 = v := by
  by_contra hne
  have hothers := (leads_majority values).others v (Ne.symm hne)
  omega

end Majority

section Uniform

variable {name v : String} {values values' : List String}

/-- A value that makes up more than four fifths; there is at most one. -/
def Dominates (v : String) (values : List String) : Prop :=
  values.length * 4 < values.count v * 5

theorem Dominates.majority_eq (h : Dominates v values) : (majority values).1 = v := by
  unfold Dominates at h
  apply majority_eq_of_half_lt
  omega

theorem Dominates.unique {u : String} (h : Dominates v values) (hu : Dominates u values) :
    u = v := hu.majority_eq.symm.trans h.majority_eq

theorem Dominates.ne_nil (h : Dominates v values) : values ≠ [] := by
  rintro rfl
  simp [Dominates] at h

theorem dominates_of_forall_eq (hne : values ≠ []) (h : ∀ u ∈ values, u = v) :
    Dominates v values := by
  have hcount : values.count v = values.length := List.count_eq_length.2 fun u hu => (h u hu).symm
  have hpos := List.length_pos_iff.2 hne
  unfold Dominates
  omega

theorem uniformComplaint_of_forall_eq (hne : values ≠ []) (h : ∀ u ∈ values, u = v) :
    uniformComplaint name values =
      some (.identicalValues name (String.ofList (v.toList.take maxValueExcerpt))) := by
  have hcount : values.count v = values.length := List.count_eq_length.2 fun u hu => (h u hu).symm
  simp only [uniformComplaint, (dominates_of_forall_eq hne h).majority_eq, hcount, if_true]

theorem uniformComplaint_of_dominates (h : Dominates v values) (hdiffer : ¬∀ u ∈ values, u = v) :
    uniformComplaint name values =
      some (.dominantValue (values.count v) values.length name) := by
  have hcount : values.count v ≠ values.length := fun heq =>
    hdiffer fun u hu => (List.count_eq_length.1 heq u hu).symm
  simp only [uniformComplaint, h.majority_eq, if_neg hcount]
  exact if_pos h

theorem uniformComplaint_eq_none_iff (hne : values ≠ []) :
    uniformComplaint name values = none ↔ ∀ v, ¬Dominates v values := by
  constructor
  · intro hnone v hv
    by_cases h : ∀ u ∈ values, u = v
    · rw [uniformComplaint_of_forall_eq hne h] at hnone
      cases hnone
    · rw [uniformComplaint_of_dominates hv h] at hnone
      cases hnone
  · intro h
    have hmajority := h (majority values).1
    have hcount : values.count (majority values).1 ≠ values.length := fun heq =>
      h _ (dominates_of_forall_eq hne fun u hu => (List.count_eq_length.1 heq u hu).symm)
    simp only [uniformComplaint, if_neg hcount]
    exact if_neg hmajority

-- Exactly four fifths are not too many.
example : uniformComplaint "prices" ["9", "9", "12", "9", "9"] = none := by decide

theorem Dominates.perm (h : Dominates v values) (hperm : values.Perm values') :
    Dominates v values' := by
  unfold Dominates at h ⊢
  rwa [← hperm.length_eq, ← hperm.count_eq]

theorem uniformComplaint_perm (hperm : values.Perm values') :
    uniformComplaint name values = uniformComplaint name values' := by
  by_cases hne : values = []
  · obtain rfl : values' = [] := List.nil_perm.1 (hne ▸ hperm)
    rw [hne]
  have hne' : values' ≠ [] := fun h => hne (List.perm_nil.1 (h ▸ hperm))
  by_cases hsome : ∃ v, Dominates v values
  · obtain ⟨v, hv⟩ := hsome
    by_cases h : ∀ u ∈ values, u = v
    · have h' : ∀ u ∈ values', u = v := fun u hu => h u (hperm.mem_iff.2 hu)
      rw [uniformComplaint_of_forall_eq hne h, uniformComplaint_of_forall_eq hne' h']
    · have h' : ¬∀ u ∈ values', u = v := fun h' => h fun u hu => h' u (hperm.mem_iff.1 hu)
      rw [uniformComplaint_of_dominates hv h, uniformComplaint_of_dominates (hv.perm hperm) h',
        hperm.count_eq, hperm.length_eq]
  · rw [not_exists] at hsome
    rw [(uniformComplaint_eq_none_iff hne).2 hsome,
      (uniformComplaint_eq_none_iff hne').2 fun v hv => hsome v (hv.perm hperm.symm)]

end Uniform

section Tables

variable {table table' : List (String × Nat)} {values : List String} {u v : String} {n : Nat}

def bump (v : String) : List (String × Nat) → List (String × Nat)
  | [] => [(v, 1)]
  | e :: table => if e.1 = v then (v, e.2 + 1) :: table else e :: bump v table

/-- A table got by counting values one after the other. At each step it may be rearranged. -/
inductive Counted : List (String × Nat) → List String → Prop
  | nil : Counted [] []
  | step {table table' : List (String × Nat)} {values : List String} {v : String} :
      Counted table values → table'.Perm (bump v table) → Counted table' (values ++ [v])

structure IsTally (table : List (String × Nat)) (values : List String) : Prop where
  nodup : (table.map Prod.fst).Nodup
  mem_iff : ∀ v n, (v, n) ∈ table ↔ 0 < n ∧ values.count v = n

theorem mem_bump_of_ne (h : u ≠ v) : (u, n) ∈ bump v table ↔ (u, n) ∈ table := by
  induction table with
  | nil => simp [bump, h]
  | cons e table ih =>
    simp only [bump]
    split_ifs with he
    · have hhead : (u, n) ≠ e := fun hue => h (he ▸ congrArg Prod.fst hue)
      simp [h, hhead]
    · rw [List.mem_cons, List.mem_cons, ih]

theorem mem_bump_self (hnodup : (table.map Prod.fst).Nodup) :
    (v, n) ∈ bump v table ↔
      (∃ m, (v, m) ∈ table ∧ n = m + 1) ∨ v ∉ table.map Prod.fst ∧ n = 1 := by
  induction table with
  | nil => simp [bump]
  | cons e table ih =>
    obtain ⟨k, m⟩ := e
    rw [List.map_cons, List.nodup_cons] at hnodup
    by_cases hk : k = v
    · subst hk
      have habsent (m' : Nat) : (k, m') ∉ table := fun hm =>
        hnodup.1 (List.mem_map.2 ⟨_, hm, rfl⟩)
      simp [bump, habsent]
    · simp [bump, hk, Ne.symm hk, ih hnodup.2]

theorem map_fst_bump (v : String) (table : List (String × Nat)) :
    (bump v table).map Prod.fst =
      if v ∈ table.map Prod.fst then table.map Prod.fst else table.map Prod.fst ++ [v] := by
  induction table with
  | nil => rfl
  | cons e table ih =>
    by_cases he : e.1 = v
    · simp [bump, he]
    · simp only [bump, he, if_false, List.map_cons, ih, List.mem_cons, Ne.symm he, false_or]
      split_ifs <;> rfl

theorem IsTally.mem_keys_iff (h : IsTally table values) :
    v ∈ table.map Prod.fst ↔ v ∈ values := by
  rw [List.mem_map, ← List.count_pos_iff]
  constructor
  · rintro ⟨⟨k, n⟩, hn, rfl⟩
    obtain ⟨hpos, hcount⟩ := (h.mem_iff _ _).1 hn
    exact hcount ▸ hpos
  · exact fun hpos => ⟨(v, values.count v), (h.mem_iff _ _).2 ⟨hpos, rfl⟩, rfl⟩

theorem IsTally.bump (h : IsTally table values) (v : String) :
    IsTally (bump v table) (values ++ [v]) := by
  constructor
  · rw [map_fst_bump]
    split_ifs with hv
    · exact h.nodup
    · exact List.Nodup.append h.nodup (List.nodup_singleton v) (List.disjoint_singleton.2 hv)
  · intro u n
    by_cases hu : u = v
    · subst hu
      rw [mem_bump_self h.nodup, h.mem_keys_iff, ← List.count_pos_iff]
      simp only [h.mem_iff, List.count_append, List.count_singleton_self]
      constructor
      · rintro (⟨m, ⟨-, hm⟩, rfl⟩ | ⟨habsent, rfl⟩) <;> omega
      · rintro ⟨hpos, hcount⟩
        by_cases hzero : 0 < values.count u
        · exact .inl ⟨values.count u, ⟨hzero, rfl⟩, hcount.symm⟩
        · exact .inr ⟨hzero, by omega⟩
    · rw [mem_bump_of_ne hu, h.mem_iff]
      simp [Ne.symm hu]

theorem IsTally.perm (h : IsTally table values) (hperm : table'.Perm table) :
    IsTally table' values :=
  ⟨(hperm.map Prod.fst).nodup_iff.2 h.nodup, fun v n => hperm.mem_iff.trans (h.mem_iff v n)⟩

theorem Counted.isTally (h : Counted table values) : IsTally table values := by
  induction h with
  | nil => exact ⟨List.nodup_nil, by simp; omega⟩
  | step h hperm ih => exact (ih.bump _).perm hperm

theorem exists_counted (values : List String) : ∃ table, Counted table values := by
  induction values using List.reverseRecOn with
  | nil => exact ⟨[], .nil⟩
  | append_singleton values v ih =>
    obtain ⟨table, h⟩ := ih
    exact ⟨_, h.step (.refl _)⟩

theorem IsTally.length_eq_one_iff (h : IsTally table values) (hne : values ≠ []) :
    table.length = 1 ↔ ∃ v, ∀ u ∈ values, u = v := by
  rw [← List.length_map Prod.fst]
  constructor
  · intro hone
    obtain ⟨v, hv⟩ := List.length_eq_one_iff.1 hone
    exact ⟨v, fun u hu => by simpa [hv] using h.mem_keys_iff.2 hu⟩
  · rintro ⟨v, hall⟩
    have hkeys : table.map Prod.fst = List.replicate _ v :=
      List.eq_replicate_of_mem fun k hk => hall k (h.mem_keys_iff.1 hk)
    have hle : (table.map Prod.fst).length ≤ 1 := List.nodup_replicate.1 (hkeys ▸ h.nodup)
    obtain ⟨u, hu⟩ := List.exists_mem_of_ne_nil values hne
    have hpos := List.length_pos_of_mem (h.mem_keys_iff.2 hu)
    omega

def topCount (table : List (String × Nat)) : Nat := (table.map Prod.snd).max?.getD 0

theorem IsTally.count_le_topCount (h : IsTally table values) (v : String) :
    values.count v ≤ topCount table := by
  rcases Nat.eq_zero_or_pos (values.count v) with hzero | hpos
  · omega
  · have hmem : values.count v ∈ table.map Prod.snd :=
      List.mem_map_of_mem ((h.mem_iff v _).2 ⟨hpos, rfl⟩)
    exact List.le_max?_getD_of_mem hmem

theorem IsTally.exists_count_eq_topCount (h : IsTally table values) (hne : values ≠ []) :
    ∃ v, values.count v = topCount table := by
  obtain ⟨v, hv⟩ := List.exists_mem_of_ne_nil values hne
  have hentry : (v, values.count v) ∈ table := (h.mem_iff v _).2 ⟨List.count_pos_iff.2 hv, rfl⟩
  unfold topCount
  cases hmax : (table.map Prod.snd).max? with
  | none =>
    rw [List.max?_eq_none_iff, List.map_eq_nil_iff] at hmax
    rw [hmax] at hentry
    cases hentry
  | some n =>
    obtain ⟨⟨u, m⟩, hu, rfl⟩ := List.mem_map.1 (List.max?_mem hmax)
    exact ⟨u, ((h.mem_iff u m).1 hu).2⟩

theorem IsTally.topCount_of_dominates (h : IsTally table values) (hv : Dominates v values) :
    topCount table = values.count v := by
  obtain ⟨u, hu⟩ := h.exists_count_eq_topCount hv.ne_nil
  have hle := h.count_le_topCount v
  have hdominates : Dominates u values := by
    unfold Dominates at hv ⊢
    omega
  rw [← hu, hv.unique hdominates]

def tableComplaint (name : String) (values : List String) (table : List (String × Nat)) :
    Option Complaint :=
  if table.length = 1 then
    some (.identicalValues name (String.ofList ((values.headD "").toList.take maxValueExcerpt)))
  else if values.length * 4 < topCount table * 5 then
    some (.dominantValue (topCount table) values.length name)
  else none

theorem IsTally.tableComplaint_eq (h : IsTally table values) (hne : values ≠ []) (name : String) :
    tableComplaint name values table = uniformComplaint name values := by
  unfold tableComplaint
  by_cases hall : ∃ v, ∀ u ∈ values, u = v
  · rw [if_pos ((h.length_eq_one_iff hne).2 hall)]
    obtain ⟨v, hv⟩ := hall
    have hhead : values.headD "" = v := by
      obtain ⟨u, rest, rfl⟩ := List.exists_cons_of_ne_nil hne
      exact hv u List.mem_cons_self
    rw [hhead, uniformComplaint_of_forall_eq hne hv]
  · rw [if_neg fun hone => hall ((h.length_eq_one_iff hne).1 hone)]
    by_cases hsome : ∃ v, Dominates v values
    · obtain ⟨v, hv⟩ := hsome
      rw [h.topCount_of_dominates hv, uniformComplaint_of_dominates hv fun h => hall ⟨v, h⟩]
      exact if_pos hv
    · rw [not_exists] at hsome
      obtain ⟨v, hv⟩ := h.exists_count_eq_topCount hne
      rw [← hv, (uniformComplaint_eq_none_iff hne).2 hsome]
      exact if_neg (hsome v)

end Tables

end SoftFail.Check
