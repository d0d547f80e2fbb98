import Mathlib.Data.List.Infix
import Mathlib.Data.List.TakeWhile
import SoftFail.Text.Find

/-! The search for exact substrings finds what `<+:` and `<:+:` speak of. -/

namespace SoftFail.Text

theorem startsWith_iff {p s : List Char} : startsWith p s = true ↔ p <+: s := by
  rw [startsWith, Option.isSome_iff_exists]
  exact exists_congr fun r => dropPrefix?_eq_some_iff.trans eq_comm

theorem isSome_indexFrom_iff (needle : List Char) (at_ : Nat) (s : List Char) :
    (indexFrom needle at_ s).isSome = true ↔ needle <:+: s := by
  induction s generalizing at_ with
  | nil => cases needle <;> simp [indexFrom]
  | cons c s ih =>
    rw [indexFrom, List.infix_cons_iff, ← startsWith_iff, ← ih (at_ + 1)]
    split <;> simp [*]

theorem contains_iff {needle s : List Char} : contains needle s = true ↔ needle <:+: s :=
  isSome_indexFrom_iff needle 0 s

theorem contains_trans {a b s : List Char} (hab : a <:+: b) (hb : contains b s = true) :
    contains a s = true :=
  contains_iff.2 (hab.trans (contains_iff.1 hb))

/-! The leftmost occurrence. -/

theorem indexFrom_eq_map (needle : List Char) (at_ : Nat) (s : List Char) :
    indexFrom needle at_ s = (index? needle s).map (at_ + ·) := by
  rw [index?]
  induction s generalizing at_ with
  | nil => cases needle <;> rfl
  | cons c s ih =>
    rw [indexFrom, indexFrom, ih (at_ + 1), ih (0 + 1)]
    split
    · rfl
    · simp only [Option.map_map, Function.comp_def, Nat.add_assoc, Nat.zero_add]

theorem index?_cons (needle : List Char) (c : Char) (s : List Char) :
    index? needle (c :: s) =
      if needle <+: c :: s then some 0 else (index? needle s).map (· + 1) := by
  rw [index?, indexFrom, indexFrom_eq_map]
  simp only [startsWith_iff, Nat.add_comm]

theorem index?_eq_some_iff {needle s : List Char} {i : Nat} :
    index? needle s = some i ↔
      i ≤ s.length ∧ needle <+: s.drop i ∧ ∀ j < i, ¬needle <+: s.drop j := by
  induction s generalizing i with
  | nil => cases needle <;> cases i <;> simp [index?, indexFrom]
  | cons c s ih =>
    rw [index?_cons]
    by_cases hc : needle <+: c :: s
    · rw [if_pos hc, Option.some.injEq]
      constructor
      · rintro rfl
        exact ⟨Nat.zero_le _, hc, fun j hj => absurd hj (Nat.not_lt_zero j)⟩
      · rintro ⟨-, -, hfirst⟩
        exact Nat.le_antisymm (Nat.zero_le i) (Nat.le_of_not_lt fun hi => hfirst 0 hi hc)
    · rw [if_neg hc, Option.map_eq_some_iff]
      constructor
      · rintro ⟨k, hk, rfl⟩
        obtain ⟨hle, hat, hfirst⟩ := ih.1 hk
        refine ⟨Nat.succ_le_succ hle, hat, fun j hj => ?_⟩
        cases j with
        | zero => exact hc
        | succ j => exact hfirst j (Nat.lt_of_succ_lt_succ hj)
      · rintro ⟨hle, hat, hfirst⟩
        cases i with
        | zero => exact absurd hat hc
        | succ k =>
          refine ⟨k, ih.2 ⟨Nat.le_of_succ_le_succ hle, hat, fun j hj => ?_⟩, rfl⟩
          exact hfirst (j + 1) (Nat.succ_lt_succ hj)

theorem index?_append_iff {needle s : List Char} {i : Nat} (h : i + needle.length ≤ s.length)
    (t : List Char) : index? needle (s ++ t) = some i ↔ index? needle s = some i := by
  have hstands {j : Nat} (hj : j ≤ i) : needle <+: (s ++ t).drop j ↔ needle <+: s.drop j := by
    rw [List.drop_append_of_le_length (by omega)]
    refine ⟨fun hp => List.prefix_of_prefix_length_le hp (List.prefix_append _ _) ?_,
      fun hp => hp.trans (List.prefix_append _ _)⟩
    rw [List.length_drop]
    omega
  have hlength : i ≤ (s ++ t).length ↔ i ≤ s.length := by
    rw [List.length_append]
    omega
  rw [index?_eq_some_iff, index?_eq_some_iff, hlength, hstands (Nat.le_refl i)]
  have hbefore : (∀ j < i, ¬needle <+: (s ++ t).drop j) ↔ ∀ j < i, ¬needle <+: s.drop j :=
    forall₂_congr fun j hj => not_congr (hstands (Nat.le_of_lt hj))
  rw [hbefore]

/-! Words whose first character stands nowhere else in them, so that no two occurrences overlap. -/

section OwnLead

variable {c : Char} {w x y : List Char}

theorem prefix_append_cons_iff (hw : c ∉ w) : w <+: x ++ c :: y ↔ w <+: x := by
  refine ⟨fun h => ?_, fun h => h.trans (List.prefix_append _ _)⟩
  induction w generalizing x with
  | nil => exact List.nil_prefix
  | cons a w ih =>
    obtain ⟨ha, hw⟩ := not_or.1 (mt List.mem_cons.2 hw)
    cases x with
    | nil => exact absurd (List.cons_prefix_cons.1 h).1.symm ha
    | cons b x =>
      obtain ⟨hab, h⟩ := List.cons_prefix_cons.1 h
      exact List.cons_prefix_cons.2 ⟨hab, ih hw h⟩

theorem infix_append_cons_iff (hw : c ∉ w) :
    c :: w <:+: x ++ c :: y ↔ c :: w <:+: x ∨ c :: w <:+: c :: y := by
  induction x with
  | nil => simp
  | cons a x ih =>
    have hfront : c :: w <+: a :: (x ++ c :: y) ↔ c :: w <+: a :: x := by
      rw [List.cons_prefix_cons, List.cons_prefix_cons, prefix_append_cons_iff hw]
    rw [List.cons_append, List.infix_cons_iff, List.infix_cons_iff, hfront, ih, or_assoc]

theorem infix_append_iff_of_not_mem (hx : c ∉ x) : c :: w <:+: x ++ y ↔ c :: w <:+: y := by
  induction x with
  | nil => rfl
  | cons a x ih =>
    obtain ⟨ha, hx⟩ := not_or.1 (mt List.mem_cons.2 hx)
    rw [List.cons_append, List.infix_cons_iff, List.cons_prefix_cons, ih hx]
    exact or_iff_right fun h => ha h.1

theorem index?_eq_some_iff_exists (hw : c ∉ w) {s : List Char} {i : Nat} :
    index? (c :: w) s = some i ↔
      ∃ x y, s = x ++ c :: (w ++ y) ∧ x.length = i ∧ ¬c :: w <:+: x := by
  rw [index?_eq_some_iff]
  constructor
  · rintro ⟨hi, ⟨y, hat⟩, hfirst⟩
    have hs : s = s.take i ++ c :: (w ++ y) := by
      rw [← List.cons_append, hat, List.take_append_drop]
    refine ⟨s.take i, y, hs, List.length_take_of_le hi, ?_⟩
    rintro ⟨u, v, huv⟩
    have hlength : u.length + (c :: w).length + v.length = i := by
      rw [← List.length_append, ← List.length_append, huv, List.length_take_of_le hi]
    rw [List.length_cons] at hlength
    refine hfirst u.length (by omega) ⟨v ++ c :: (w ++ y), ?_⟩
    rw [hs, ← huv, List.append_assoc, List.append_assoc, List.drop_left]
  · rintro ⟨x, y, rfl, rfl, hx⟩
    refine ⟨by simp, ⟨y, by simp⟩, fun j hj hat => hx ?_⟩
    have hfront : c :: w <+: x.drop j := by
      rw [List.drop_append_of_le_length (Nat.le_of_lt hj)] at hat
      obtain ⟨a, z, hz⟩ :=
        List.exists_cons_of_ne_nil (List.drop_eq_nil_iff.not.2 (Nat.not_le.2 hj))
      rw [hz, List.cons_append, List.cons_prefix_cons, prefix_append_cons_iff hw] at hat
      rw [hz]
      exact List.cons_prefix_cons.2 hat
    exact hfront.isInfix.trans (List.drop_suffix j x).isInfix

end OwnLead

/-! Runs of characters. -/

theorem takeWhile_dropWhile_iff {p : Char → Bool} {s m rest : List Char} :
    (s.takeWhile p = m ∧ s.dropWhile p = rest) ↔
      s = m ++ rest ∧ (∀ c ∈ m, p c = true) ∧ ∀ c ∈ rest.head?, p c = false := by
  constructor
  · rintro ⟨rfl, rfl⟩
    refine ⟨(List.takeWhile_append_dropWhile).symm, fun c hc => List.mem_takeWhile_imp hc, ?_⟩
    intro c hc
    have hhead := List.head?_dropWhile_not p s
    rw [hc] at hhead
    exact hhead
  · rintro ⟨rfl, hm, hrest⟩
    rw [List.takeWhile_append_of_pos hm, List.dropWhile_append_of_pos hm]
    cases rest with
    | nil => simp
    | cons c rest => simp [hrest c rfl]

theorem head?_any_iff {p : Char → Bool} {s : List Char} :
    s.head?.any p = true ↔ s.takeWhile p ≠ [] := by
  cases s with
  | nil => simp
  | cons c s => by_cases hc : p c = true <;> simp [hc]

/-! Strings. -/

theorem append_ne_of_lead (lead rest : String) {m : String} {c : Char}
    (hlead : lead.toList.head? = some c) (hm : m.toList.head? ≠ some c) : lead ++ rest ≠ m := by
  rintro rfl
  rw [String.toList_append, List.head?_append, hlead] at hm
  exact hm rfl

end SoftFail.Text
