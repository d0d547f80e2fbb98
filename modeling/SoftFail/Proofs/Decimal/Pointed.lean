import SoftFail.Decimal.Notation
import SoftFail.Decimal.Reading
import SoftFail.Proofs.Decimal.Comparison
import SoftFail.Proofs.Decimal.Digits

/-! Floating-point numbers in positional notation: digits in front of a point and behind it. -/

namespace SoftFail.Decimal

theorem exponent_of_unpack_eq_infinity {x : Float} {s : Float.Model.UnpackedFloat.Sign}
    (h : x.toModel.unpack = .infinity s) : x.toBits.toNat / leadingBit % 2048 = 2047 := by
  let bits : BitVec Float.Model.Format.binary64.numBits := x.toModel.toBits.toBitVec
  rw [Float.Model.unpack] at h
  delta Float.Model.UnpackedFloat.unpack at h
  dsimp only at h
  rcases Decidable.em (Float.Model.UnpackedFloat.unpackExponent bits = -1#_) with hmost | hless
  · have hbits := congrArg BitVec.toNat hmost
    simp only [bits, Float.Model.UnpackedFloat.unpackExponent, BitVec.toNat_cast,
      BitVec.extractLsb_toNat, Nat.shiftRight_eq_div_pow] at hbits
    exact hbits
  · rw [if_neg hless] at h
    rcases Decidable.em (Float.Model.UnpackedFloat.unpackExponent bits = 0#_) with hleast | hmore
    · rw [if_pos hleast] at h
      rcases Decidable.em (Float.Model.UnpackedFloat.unpackMantissa bits = 0#_) with hzero | hsome
      · rw [dif_pos hzero] at h
        cases h
      · rw [dif_neg hsome] at h
        cases h
    · rw [if_neg hmore] at h
      cases h

theorem not_beq_infinity {x : Float} {negative : Bool} {b : Binary}
    (h : parts x = .finite negative b) : (x == infinity) = false := by
  rw [← Bool.not_eq_true]
  intro hbeq
  have hunpack : infinity.toModel.unpack = .infinity .positive := by
    rfl
  rcases eq_or_zero_of_compare (compare_of_beq hbeq) with heq | ⟨s, t, -, hzero⟩
  · have hexponent := exponent_of_unpack_eq_infinity (heq.trans hunpack)
    simp only [parts, hexponent] at h
    split at h <;> cases h
  · rw [hunpack] at hzero
    cases hzero

structure Pointed (whole fraction : List Char) : Prop where
  digit : ∀ c ∈ whole ++ fraction, c.isDigit = true
  whole : whole ≠ []
  fraction : fraction ≠ []

theorem toLower_of_isDigit {c : Char} (h : c.isDigit = true) : c.toLower = c := by
  have hlow : c.toNat ≤ 57 := (Char.isDigit_iff_toNat.1 h).2
  unfold Char.toLower
  split
  next hupper => exact absurd (UInt32.le_iff_toNat_le.1 hupper.1) (by simp; omega)
  next => rfl

theorem spanDigits_append {ds rest : List Char} (h : ∀ d ∈ ds, d.isDigit = true)
    (hrest : ∀ c, rest.head? = some c → c.isDigit = false) :
    spanDigits (ds ++ rest) = (ds, rest) := by
  rw [spanDigits, List.takeWhile_append_of_pos h, List.dropWhile_append_of_pos h]
  cases rest with
  | nil => simp
  | cons c rest => simp [hrest c rfl]

theorem magnitude?_pointed {whole fraction : List Char} (h : Pointed whole fraction) :
    magnitude? (whole ++ '.' :: fraction) =
      some (nearest (value (whole ++ fraction)) (-(fraction.length : Int))) := by
  obtain ⟨c, ds, rfl⟩ := List.exists_cons_of_ne_nil h.whole
  have hwhole : ∀ d ∈ c :: ds, d.isDigit = true := fun d hd => h.digit d (List.mem_append_left _ hd)
  have hfraction : ∀ d ∈ fraction, d.isDigit = true :=
    fun d hd => h.digit d (List.mem_append_right _ hd)
  have hword (d : Char) (s : List Char) (hd : d.isDigit = false) :
      (c :: ds ++ '.' :: fraction).map Char.toLower ≠ d :: s := by
    have hc := hwhole c List.mem_cons_self
    rw [List.cons_append, List.map_cons, toLower_of_isDigit hc]
    rintro ⟨⟩
    rw [hc] at hd
    cases hd
  have hspan : spanDigits (c :: ds ++ '.' :: fraction) = (c :: ds, '.' :: fraction) :=
    spanDigits_append hwhole (by rintro _ ⟨⟩; rfl)
  have hrest : spanDigits fraction = (fraction, []) := by
    have hspan := spanDigits_append hfraction fun c (hc : [].head? = some c) => by cases hc
    rwa [List.append_nil] at hspan
  have hinf := hword 'i' ['n', 'f'] rfl
  have hinfinity := hword 'i' ['n', 'f', 'i', 'n', 'i', 't', 'y'] rfl
  have hnan := hword 'n' ['a', 'n'] rfl
  unfold magnitude?
  simp only [hspan, hrest]
  rw [if_neg, if_neg, if_neg]
  · simp [exponent?]
  · simp
  · exact hnan
  · rw [Bool.or_eq_true, decide_eq_true_eq, decide_eq_true_eq, not_or]
    exact ⟨hinf, hinfinity⟩

theorem eq_zero_of_digits {n : Nat} {ds : List Char} (h : digits n = '0' :: ds) :
    n = 0 ∧ ds = [] := by
  obtain ⟨c, ds', heq, -, hzero⟩ := exists_digits_eq_cons n
  obtain ⟨rfl, rfl⟩ := List.cons.inj (h.symm.trans heq)
  obtain rfl := hzero rfl
  exact ⟨by rw [← value_digits n, h]; rfl, rfl⟩

theorem value_zeros {ds : List Char} (h : ∀ d ∈ ds, d = '0') : value ds = 0 := by
  rw [List.eq_replicate_of_mem h]
  induction ds.length with
  | zero => rfl
  | succ n ih => exact ih

theorem digit_zeros (n : Nat) : ∀ c ∈ zeros n, c.isDigit = true := by
  intro c hc
  rw [List.eq_of_mem_replicate hc]
  rfl

section Placing

variable {c : Char} {ds : List Char}

theorem pointed_behind (h : ∀ d ∈ c :: ds, d.isDigit = true) (k : Nat) :
    Pointed (c :: (ds ++ zeros k)) ['0'] := by
  refine ⟨fun d hd => ?_, by simp, by simp⟩
  rw [← List.cons_append, List.mem_append, List.mem_append, List.mem_singleton] at hd
  rcases hd with (hd | hd) | rfl
  · exact h d hd
  · exact digit_zeros k d hd
  · rfl

theorem pointed_inside (h : ∀ d ∈ c :: ds, d.isDigit = true) {m : Nat} (hm : m < ds.length) :
    Pointed (c :: ds.take m) (ds.drop m) := by
  refine ⟨?_, by simp, fun hnil => ?_⟩
  · rwa [List.cons_append, List.take_append_drop]
  · rw [List.drop_eq_nil_iff] at hnil
    omega

theorem pointed_before (h : ∀ d ∈ c :: ds, d.isDigit = true) (k : Nat) :
    Pointed ['0'] (zeros k ++ c :: ds) := by
  refine ⟨fun d hd => ?_, by simp, by simp⟩
  rw [List.mem_append, List.mem_append, List.mem_singleton] at hd
  rcases hd with rfl | hd | hd
  · rfl
  · exact digit_zeros k d hd
  · exact h d hd

end Placing

/-- Where the point is placed, there are digits on both sides of it. They do not begin with more
zeros than one, except for a zero with an exponent. -/
theorem exists_placePoint (n : Nat) (e : Int) :
    ∃ c ds fraction, placePoint pointed (digits n) e = c :: ds ++ '.' :: fraction ∧
      Pointed (c :: ds) fraction ∧ (c = '0' → n = 0 ∧ 0 < e ∨ ds = []) ∧
      (n = 0 → value (c :: ds ++ fraction) = 0) := by
  obtain ⟨c, ds, hds, hdigits, -⟩ := exists_digits_eq_cons n
  have hzero (h : n = 0) : c = '0' ∧ ds = [] := by
    have hdigits : digits 0 = ['0'] := by rw [digits, digitsOnto]; rfl
    rw [h, hdigits] at hds
    obtain ⟨rfl, rfl⟩ := List.cons.inj hds
    exact ⟨rfl, rfl⟩
  rw [hds]
  cases e with
  | ofNat e =>
    refine ⟨c, ds ++ zeros e, ['0'], by simp [placePoint, pointed], pointed_behind hdigits e,
      ?_, ?_⟩
    · rintro rfl
      obtain ⟨rfl, rfl⟩ := eq_zero_of_digits hds
      rcases Nat.eq_zero_or_pos e with rfl | he
      · exact .inr rfl
      · exact .inl ⟨rfl, Int.ofNat_lt.2 he⟩
    · intro hn
      obtain ⟨rfl, rfl⟩ := hzero hn
      exact value_zeros (by simp +contextual [zeros, or_imp])
  | negSucc e =>
    rw [placePoint]
    split
    next hless =>
      -- The first digit stands in front of the point, with none in front of it.
      rw [List.length_cons] at hless
      have hm : (c :: ds).length - (e + 1) = ds.length - (e + 1) + 1 := by
        rw [List.length_cons]
        omega
      have hlast : ds.length - (e + 1) < ds.length := by omega
      rw [hm, List.take_succ_cons, List.drop_succ_cons]
      refine ⟨c, _, _, rfl, pointed_inside hdigits hlast, ?_, fun hn => ?_⟩
      · rintro rfl
        obtain ⟨-, rfl⟩ := eq_zero_of_digits hds
        exact .inr List.take_nil
      · obtain ⟨-, rfl⟩ := hzero hn
        exact absurd hlast (Nat.not_lt_zero _)
    next =>
      refine ⟨'0', [], zeros (e + 1 - (c :: ds).length) ++ c :: ds, by simp,
        pointed_before hdigits _, fun _ => .inr rfl, fun hn => ?_⟩
      obtain ⟨rfl, rfl⟩ := hzero hn
      exact value_zeros (by simp +contextual [zeros, or_imp])

def negated (negative : Bool) (x : Float) : Float := if negative then -x else x

theorem float?_pointed {text : String} {c : Char} {ds fraction : List Char}
    (h : Pointed (c :: ds) fraction) {negative : Bool}
    (htext : text.toList = (if negative then ['-'] else []) ++ (c :: ds ++ '.' :: fraction)) :
    float? text = some
      (negated negative (nearest (value (c :: ds ++ fraction)) (-(fraction.length : Int)))) := by
  have hdigit := h.digit c List.mem_cons_self
  rw [float?, htext]
  cases negative with
  | true =>
    show (magnitude? (c :: ds ++ '.' :: fraction)).map (fun x => -x) = _
    rw [magnitude?_pointed h]
    rfl
  | false =>
    rw [if_neg Bool.false_ne_true, List.nil_append, List.cons_append]
    split
    next heq =>
      obtain ⟨rfl, -⟩ := List.cons.inj heq
      cases hdigit
    next heq =>
      obtain ⟨rfl, -⟩ := List.cons.inj heq
      cases hdigit
    next => exact magnitude?_pointed h

/-- The digits of a number that is read back from its text. -/
theorem exists_pointed_text {x : Float} {negative : Bool} {b : Binary}
    (hx : parts x = .finite negative b) (hread : float? (pointed.text x) = some x) :
    ∃ c ds fraction, (pointed.text x).toList =
        (if negative then ['-'] else []) ++ (c :: ds ++ '.' :: fraction) ∧
      Pointed (c :: ds) fraction ∧ (c = '0' → ds = []) ∧
      x = negated negative (nearest (value (c :: ds ++ fraction)) (-(fraction.length : Int))) := by
  obtain ⟨c, ds, fraction, htext, hpointed, hlead, hvalue⟩ :=
    exists_placePoint (b.shortest .up).coefficient (b.shortest .up).exponent
  have hlist : (pointed.text x).toList =
      (if negative then ['-'] else []) ++ (c :: ds ++ '.' :: fraction) := by
    have hsigned : pointed.text x =
        signed negative (String.ofList (c :: ds ++ '.' :: fraction)) := by
      rw [Style.text, hx, ← htext]
      rfl
    rw [hsigned]
    cases negative <;> simp [signed, String.toList_append]
  have hx' := Option.some.inj (hread.symm.trans (float?_pointed hpointed hlist))
  refine ⟨c, ds, fraction, hlist, hpointed, fun hc => ?_, hx'⟩
  refine (hlead hc).resolve_left ?_
  rintro ⟨hcoefficient, hexponent⟩
  -- A number that is read from zeros is zero, the digits of which have no exponent.
  have hzero : x = negated negative 0.0 := by
    rw [hx', hvalue hcoefficient]
    rfl
  have hparts : parts x = .finite negative ⟨0, -1074⟩ := by
    rw [hzero]
    cases negative <;> rfl
  rw [hx] at hparts
  cases hparts
  exact absurd hexponent (by decide)

end SoftFail.Decimal
