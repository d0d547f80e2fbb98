import SoftFail.Json.Number
import SoftFail.Proofs.Decimal.Digits

/-! Natural numbers are read back from their digits. -/

namespace SoftFail.Json

open Decimal (digits)

def EndsNumber (tail : List Char) : Prop :=
  ∀ c ∈ tail.head?, c.isDigit = false ∧ c ≠ '.' ∧ c ≠ 'e' ∧ c ≠ 'E'

namespace Literal

variable {tail : List Char}

theorem readExponent_end (h : EndsNumber tail) (n : Literal) : readExponent n tail = .ok n := by
  cases tail with
  | nil => rfl
  | cons c tail =>
    obtain ⟨_, _, he, hE⟩ := h c rfl
    simp [readExponent, he, hE]

theorem readFraction_end (h : EndsNumber tail) (n : Literal) : readFraction n tail = .ok n := by
  unfold readFraction
  split
  · exact absurd rfl (h '.' rfl).2.1
  · exact readExponent_end h n

theorem takeWhile_end (h : EndsNumber tail) : tail.takeWhile Char.isDigit = [] := by
  cases tail with
  | nil => rfl
  | cons c tail => simp [(h c rfl).1]

theorem dropWhile_end (h : EndsNumber tail) : tail.dropWhile Char.isDigit = tail := by
  cases tail with
  | nil => rfl
  | cons c tail => simp [(h c rfl).1]

theorem read_digits (h : EndsNumber tail) (n at_ : Nat) :
    read at_ (digits n ++ tail) =
      .ok ⟨false, digits n, none, none, 0, at_ + (digits n).length⟩ := by
  obtain ⟨c, ds, heq, hdigits, hzero⟩ := Decimal.exists_digits_eq_cons n
  obtain ⟨hc, hds⟩ := List.forall_mem_cons.1 hdigits
  have hsign : c ≠ '-' := by
    rintro rfl
    revert hc
    decide
  rw [heq, List.cons_append, read.eq_2 _ _ (by simp [hsign])]
  by_cases hc0 : c = '0'
  · rw [hzero hc0, hc0, List.nil_append, readWhole]
    have hnext : (tail.head?.any Char.isDigit) = false := by
      cases tail with
      | nil => rfl
      | cons d tail => exact (h d rfl).1
    rw [hnext, readFraction_end h]
    rfl
  · rw [readWhole.eq_3 _ _ _ _ (by simp [hc0]), if_pos hc]
    rw [List.takeWhile_append_of_pos hds, List.dropWhile_append_of_pos hds, takeWhile_end h,
      dropWhile_end h, List.append_nil, readFraction_end h]

theorem gather_eq {bound : Nat} {ds : List Char} {n : Nat}
    (h : ds.foldl (fun n c => 10 * n + Decimal.digitValue c) n < bound) :
    gather bound n ds = (ds.foldl (fun n c => 10 * n + Decimal.digitValue c) n, []) := by
  induction ds generalizing n with
  | nil => rfl
  | cons c ds ih =>
    rw [List.foldl_cons] at h ⊢
    rw [gather, if_pos (Nat.lt_of_le_of_lt (Decimal.le_foldl_digits _ ds) h), ih h]

theorem value_digits {n : Nat} (h : n < bound64) (exponentAt stop : Nat) :
    value ⟨false, digits n, none, none, exponentAt, stop⟩ = .ok (.integer n) := by
  have hvalue := Decimal.value_digits n
  rw [Decimal.value] at hvalue
  have hgather : gather bound64 0 (digits n) = (n, []) := by
    rw [gather_eq (by rwa [hvalue]), hvalue]
  rw [value, hgather]
  rfl

end Literal

end SoftFail.Json
