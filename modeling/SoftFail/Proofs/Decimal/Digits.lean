import Mathlib.Data.List.Induction
import Mathlib.Data.Nat.Digits.Defs
import SoftFail.Decimal.Natural

/-! The digits of a natural number. -/

namespace SoftFail.Decimal

theorem isDigit_digitChar : ∀ d < 10, (digitChar d).isDigit = true := by decide

theorem eq_zero_of_digitChar : ∀ d < 10, digitChar d = '0' → d = 0 := by decide

theorem exists_digitsOnto_eq_cons (n : Nat) (tail : List Char) :
    ∃ c ds, digitsOnto n tail = c :: (ds ++ tail) ∧ (∀ d ∈ c :: ds, d.isDigit = true) ∧
      (c = '0' → n = 0 ∧ ds = []) := by
  fun_induction digitsOnto n tail with
  | case1 n tail h =>
    refine ⟨digitChar n, [], rfl, ?_, fun hzero => ⟨eq_zero_of_digitChar n h hzero, rfl⟩⟩
    simpa using isDigit_digitChar n h
  | case2 n tail h ih =>
    obtain ⟨c, ds, heq, hdigits, hzero⟩ := ih
    refine ⟨c, ds ++ [digitChar (n % 10)], by rw [heq]; simp, ?_, fun hc => ?_⟩
    · intro d hd
      rw [← List.cons_append, List.mem_append, List.mem_singleton] at hd
      rcases hd with hd | rfl
      · exact hdigits d hd
      · exact isDigit_digitChar _ (Nat.mod_lt n (by decide))
    · have hquotient := (hzero hc).1
      omega

theorem exists_digits_eq_cons (n : Nat) :
    ∃ c ds, digits n = c :: ds ∧ (∀ d ∈ c :: ds, d.isDigit = true) ∧ (c = '0' → ds = []) := by
  obtain ⟨c, ds, heq, hdigits, hzero⟩ := exists_digitsOnto_eq_cons n []
  exact ⟨c, ds, by rw [digits, heq, List.append_nil], hdigits, fun hc => (hzero hc).2⟩

theorem le_foldl_digits (n : Nat) (ds : List Char) :
    n ≤ ds.foldl (fun n c => 10 * n + digitValue c) n := by
  induction ds generalizing n with
  | nil => exact Nat.le_refl n
  | cons c ds ih =>
    have hrest := ih (10 * n + digitValue c)
    rw [List.foldl_cons]
    omega

theorem value_append_singleton (ds : List Char) (c : Char) :
    value (ds ++ [c]) = 10 * value ds + digitValue c := by
  rw [value, List.foldl_append, List.foldl_cons, List.foldl_nil, value]

theorem value_eq_ofDigits (ds : List Char) :
    value ds = Nat.ofDigits 10 (ds.reverse.map digitValue) := by
  induction ds using List.reverseRecOn with
  | nil => rfl
  | append_singleton ds c ih =>
    rw [value_append_singleton, ih, List.reverse_concat, List.map_cons, Nat.ofDigits_cons,
      Nat.add_comm]

def IsNatural (s : String) (n : Nat) : Prop :=
  ∃ sign ds, s.toList = sign ++ ds ∧ (sign = [] ∨ sign = ['+']) ∧
    (ds ≠ [] ∧ ∀ c ∈ ds, c.isDigit = true) ∧ n = Nat.ofDigits 10 (ds.reverse.map digitValue)

theorem below?_eq_some_iff {bound n : Nat} {s : String} :
    below? bound s = some n ↔ IsNatural s n ∧ n < bound := by
  have hread (ds : List Char) : (if ds ≠ [] && ds.all Char.isDigit && value ds < bound then
      some (value ds) else none) = some n ↔
      (ds ≠ [] ∧ ∀ c ∈ ds, c.isDigit = true) ∧ n = value ds ∧ n < bound := by
    simp only [Option.ite_none_right_eq_some, Bool.and_eq_true, decide_eq_true_eq,
      List.all_eq_true, Option.some.injEq]
    constructor
    · rintro ⟨⟨hds, hlt⟩, rfl⟩
      exact ⟨hds, rfl, hlt⟩
    · rintro ⟨hds, rfl, hlt⟩
      exact ⟨⟨hds, hlt⟩, rfl⟩
  simp only [IsNatural, ← value_eq_ofDigits]
  unfold below?
  rw [hread]
  constructor
  · rintro ⟨hds, hn, hlt⟩
    refine ⟨?_, hlt⟩
    split at hds
    next ds hs => exact ⟨['+'], ds, hs, .inr rfl, hds, by rwa [hs] at hn⟩
    next hs => exact ⟨[], s.toList, rfl, .inl rfl, hds, by simpa [hs] using hn⟩
  · rintro ⟨⟨sign, ds, hs, hsign, hds, hn⟩, hlt⟩
    rcases hsign with rfl | rfl
    · rw [hs, List.nil_append]
      -- Digits do not begin with a sign of their own.
      split
      next t => exact absurd (hds.2 '+' List.mem_cons_self) (by decide)
      next => exact ⟨hds, hn, hlt⟩
    · rw [hs]
      exact ⟨hds, hn, hlt⟩

end SoftFail.Decimal
