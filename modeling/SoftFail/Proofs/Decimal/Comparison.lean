import SoftFail.Decimal.Binary

/-! Floating-point numbers that compare as equal are the same number, up to the sign of zero, and so
stand on the same side of every other number. -/

namespace SoftFail.Decimal

open Float.Model

theorem eq_or_zero_of_compare {a b : UnpackedFloat} (h : a.compare b = some .eq) :
    a = b ∨ ∃ s t, a = .zero s ∧ b = .zero t := by
  cases a with
  | notANumber => cases b <;> cases h
  | zero s =>
    cases b with
    | zero t => exact .inr ⟨s, t, rfl, rfl⟩
    | notANumber => cases h
    | infinity t => cases t <;> cases h
    | finite t => cases t <;> cases h
  | infinity s =>
    cases b with
    | infinity t => cases s <;> cases t <;> first | exact .inl rfl | cases h
    | zero t | notANumber | finite t => cases s <;> cases h
  | finite s m e _ =>
    cases b with
    | finite t n f _ =>
      -- Numbers of one sign are compared by their exponents and then by their mantissas.
      have hord : s = t ∧ (compare e f).then (compare m n) = .eq := by
        cases s <;> cases t <;> try cases h
        · exact ⟨rfl, Ordering.swap_eq_eq.1 (Option.some.inj h)⟩
        · exact ⟨rfl, Option.some.inj h⟩
      obtain ⟨rfl, hord⟩ := hord
      obtain ⟨he, hm⟩ := Ordering.then_eq_eq.1 hord
      obtain rfl := Std.LawfulEqCmp.eq_of_compare he
      obtain rfl := Std.LawfulEqCmp.eq_of_compare hm
      exact .inl rfl
    | notANumber => cases h
    | zero t => cases s <;> cases h
    | infinity t => cases s <;> cases t <;> cases h

theorem compare_congr_right {a b : UnpackedFloat} (h : a.compare b = some .eq)
    (x : UnpackedFloat) : x.compare a = x.compare b := by
  obtain rfl | ⟨s, t, rfl, rfl⟩ := eq_or_zero_of_compare h
  · rfl
  · cases x with
    | zero | notANumber => rfl
    | infinity u | finite u => cases u <;> rfl

theorem compare_of_beq {a b : Float} (h : (a == b) = true) :
    a.toModel.unpack.compare b.toModel.unpack = some .eq :=
  eq_of_beq (a := a.toModel.unpack.compare b.toModel.unpack) h

theorem lt_congr_right {a b : Float} (h : (a == b) = true) (x : Float) : x < a ↔ x < b := by
  change x.lt a = true ↔ x.lt b = true
  have hlt : x.lt a = x.lt b := by
    change decide ((_ == some Ordering.lt) = true) = decide ((_ == some Ordering.lt) = true)
    rw [compare_congr_right (compare_of_beq h)]
  rw [hlt]

end SoftFail.Decimal
