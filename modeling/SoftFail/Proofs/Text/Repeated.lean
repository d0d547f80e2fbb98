import Mathlib.Order.Bounds.Defs
import SoftFail.Proofs.Text.Template

/-! How often a template is found. Where texts that begin later never end earlier, the scan from the
left finds as many as can be chosen without overlap. -/

namespace SoftFail.Text.Template

variable {t : Template} {s z r : List Char} {n : ℕ}

/-- So many texts of this shape, each behind the end of the one before. -/
inductive Repeated (t : Template) : ℕ → List Char → Prop where
  | zero (s : List Char) : Repeated t 0 s
  | next (x : List Char) {s r : List Char} {n : ℕ} (h : t.rest? s = some r)
      (hr : Repeated t n r) : Repeated t (n + 1) (x ++ s)

/-- Every text of this shape ends at the first `stop` behind so many characters. -/
def Delimited (t : Template) : Prop :=
  ∃ k stop, ∀ s r, t.rest? s = some r → past? stop (s.drop k) = some r

theorem delimited_ofWord (text : String) {step : Step} {stop : Char}
    (hstep : ∀ s r, step.rest? s = some r → past? stop s = some r) :
    (ofWord text [step]).Delimited := by
  refine ⟨text.toList.tail.length + 1, stop, fun s r h => ?_⟩
  cases s with
  | nil => cases h
  | cons c s =>
    obtain ⟨-, hsteps⟩ := Option.ite_none_right_eq_some.1 h
    obtain ⟨u, hu, hlast⟩ := Option.bind_eq_some_iff.1 hsteps
    obtain ⟨-, rfl⟩ := dropWord?_eq_some_iff.1 hu
    obtain ⟨v, hv, hend⟩ := Option.bind_eq_some_iff.1 hlast
    obtain rfl : v = r := Option.some.inj hend
    exact hstep _ _ hv

theorem rest?_through {stop : Char} (h : (Step.through stop).rest? s = some r) :
    past? stop s = some r := h

theorem rest?_valueWith {text : List Char} (h : (Step.valueWith text).rest? s = some r) :
    past? '"' s = some r :=
  (Option.ite_none_right_eq_some.1 h).2

theorem suffix_of_past? {c : Char} {r' : List Char} (hz : z <:+ s) (h : past? c s = some r)
    (h' : past? c z = some r') : r' <:+ r := by
  obtain ⟨y, rfl⟩ := hz
  obtain ⟨u, rfl, -⟩ := past?_eq_some_iff.1 h'
  obtain ⟨q, hq, hsuffix⟩ := exists_past? c (y ++ u) r'
  rw [List.append_assoc, h] at hq
  exact Option.some.inj hq ▸ hsuffix

theorem Delimited.suffix {r' : List Char} (ht : t.Delimited) (hz : z <:+ s)
    (h : t.rest? s = some r) (h' : t.rest? z = some r') : r' <:+ r := by
  obtain ⟨k, stop, hstop⟩ := ht
  refine suffix_of_past? ?_ (hstop s r h) (hstop z r' h')
  obtain ⟨y, rfl⟩ := hz
  rw [List.drop_append]
  exact (List.drop_suffix_drop_left z (Nat.sub_le k y.length)).trans (List.suffix_append _ _)

/-! The scan, from find to find. -/

theorem count_eq (t : Template) (s : List Char) :
    t.count s = match firstFind t.look s with
      | none => 0
      | some (_, _, rest) => t.count rest + 1 := by
  rw [count, contents_eq]
  cases firstFind t.look s <;> rfl

theorem rest?_of_firstFind {before rest : List Char}
    (h : firstFind t.look s = some (before, (), rest)) :
    ∃ z, s = before ++ z ∧ t.rest? z = some rest ∧
      ∀ u v, before = u ++ v → v ≠ [] → t.rest? (v ++ z) = none := by
  obtain ⟨z, hs, hz, hbefore⟩ := firstFind_eq_some h
  simp only [said_look, Option.map_eq_some_iff, Option.map_eq_none_iff] at hz hbefore
  obtain ⟨r, hr, hrest⟩ := hz
  cases hrest
  exact ⟨z, hs, hr, hbefore⟩

theorem rest?_of_firstFind_eq_none (h : firstFind t.look s = none) {x : List Char}
    (hs : s = x ++ z) : t.rest? z = none := by
  by_cases hz : z = []
  · rw [hz]
    rfl
  · have hpass := said_of_firstFind_eq_none t.said_look_ne_stop h x z hs hz
    rwa [said_look, Option.map_eq_none_iff] at hpass

/-- The first find is not behind any other text of this shape, and so leaves no less. -/
theorem exists_firstFind (ht : t.Delimited) (h : t.rest? s = some r) (x : List Char) :
    ∃ before rest, firstFind t.look (x ++ s) = some (before, (), rest) ∧ r <:+ rest := by
  cases hf : firstFind t.look (x ++ s) with
  | none =>
    rw [rest?_of_firstFind_eq_none hf rfl] at h
    cases h
  | some f =>
    obtain ⟨before, ⟨⟩, rest⟩ := f
    obtain ⟨z, hxs, hz, hbefore⟩ := rest?_of_firstFind hf
    refine ⟨before, rest, rfl, ht.suffix ?_ hz h⟩
    rcases List.append_eq_append_iff.1 hxs with ⟨u, hu, hsu⟩ | ⟨u, -, hzu⟩
    · by_cases hnil : u = []
      · rw [hsu, hnil, List.nil_append]
      · rw [hsu, hbefore x u hu hnil] at h
        cases h
    · exact ⟨u, hzu.symm⟩

theorem count_suffix_le (ht : t.Delimited) (hz : z <:+ s) : t.count z ≤ t.count s := by
  induction s using induction_on_finds t.look generalizing z with
  | step s ih =>
    rw [count_eq t z]
    cases hf : firstFind t.look z with
    | none => exact Nat.zero_le _
    | some f =>
      obtain ⟨before, ⟨⟩, rest⟩ := f
      obtain ⟨y, rfl⟩ := hz
      obtain ⟨v, rfl, hv, -⟩ := rest?_of_firstFind hf
      obtain ⟨before', rest', hf', hsuffix⟩ := exists_firstFind ht hv (y ++ before)
      rw [List.append_assoc] at hf'
      rw [count_eq t (y ++ (before ++ v)), hf']
      exact Nat.succ_le_succ (ih before' () rest' hf' hsuffix)

theorem Repeated.le_count (h : t.Repeated n s) (ht : t.Delimited) : n ≤ t.count s := by
  induction h with
  | zero => exact Nat.zero_le _
  | next x hs _ ih =>
    obtain ⟨before, rest, hf, hsuffix⟩ := exists_firstFind ht hs x
    rw [count_eq, hf]
    exact Nat.succ_le_succ (ih.trans (count_suffix_le ht hsuffix))

theorem repeated_count (t : Template) (s : List Char) : t.Repeated (t.count s) s := by
  induction s using induction_on_finds t.look with
  | step s ih =>
    rw [count_eq]
    cases hf : firstFind t.look s with
    | none => exact .zero s
    | some f =>
      obtain ⟨before, ⟨⟩, rest⟩ := f
      obtain ⟨z, rfl, hz, -⟩ := rest?_of_firstFind hf
      exact .next before hz (ih before () rest hf)

theorem Repeated.mono {k : ℕ} (h : t.Repeated n s) (hk : k ≤ n) : t.Repeated k s := by
  induction h generalizing k with
  | zero => exact Nat.le_zero.1 hk ▸ .zero _
  | next x hs _ ih =>
    cases k with
    | zero => exact .zero _
    | succ k => exact .next x hs (ih (Nat.le_of_succ_le_succ hk))

theorem repeated_iff (ht : t.Delimited) : t.Repeated n s ↔ n ≤ t.count s :=
  ⟨fun h => h.le_count ht, (t.repeated_count s).mono⟩

theorem isGreatest_count (ht : t.Delimited) (s : List Char) :
    IsGreatest {n | t.Repeated n s} (t.count s) :=
  ⟨t.repeated_count s, fun _ h => h.le_count ht⟩

end SoftFail.Text.Template
